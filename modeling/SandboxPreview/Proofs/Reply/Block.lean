/-
# Where a block ends

The pattern of a delimited block has several places at which it could stop: the blanks around the
name may be given to either side, the name may end at any three stars, the body at any end marker.
Only one choice ever wins. The header ends at the first three stars and is trimmed; when a line
feed is left inside it, no later stars help, since they only make the name longer. The body ends
at the first end marker after the header; when there is none, no later start of the body helps.

## Main results

* `block_eq_some_iff`: a block is read by two cuts;
* `region_eq_some_iff`: so is a region, by one.
-/
import SandboxPreview.Proofs.Text.Matching
import SandboxPreview.Proofs.Text.Trim
import SandboxPreview.Reply.Delimited

namespace SandboxPreview.Reply

open Pattern Text

variable {β : Type} {text header middle rest : Text} {result : β}

/-! ## Markers -/

/-- The stars that end a header. -/
def stars : Text := "***"

/-- The marker that starts a region. -/
def regionMarker : Text := "***FILE_START"

@[simp] theorem length_stars : stars.length = 3 := by decide

@[simp] theorem length_startMarker : startMarker.length = 14 := by decide

@[simp] theorem length_endMarker : endMarker.length = 14 := by decide

@[simp] theorem length_regionMarker : regionMarker.length = 13 := by decide

@[simp] theorem stars_ne_nil : stars ≠ [] := by decide

@[simp] theorem endMarker_ne_nil : endMarker ≠ [] := by decide

@[simp] theorem regionMarker_ne_nil : regionMarker ≠ [] := by decide

theorem lineFeed_not_mem_endMarker : '\n' ∉ endMarker := by decide

theorem lineFeed_not_mem_regionMarker : '\n' ∉ regionMarker := by decide

theorem startMarker_eq : startMarker = regionMarker ++ [':'] := by decide

/-! ## Headers -/

/-- A header and its stars, before what reads the body. -/
def readHeader (next : (name body : Text) → Option β) : Text → Option β :=
  greedy isBlank <| mark fun start => lazily inLine <| mark fun stop =>
    greedy isBlank <| literal stars <| next (between start stop)

theorem isBlank_lineFeed : isBlank '\n' = true := by decide

theorem isBlank_star : isBlank '*' = false := by decide

/-- A line feed inside a trimmed text has characters on both sides that are not blank. -/
theorem exists_of_lineFeed_mem_trim (inside : '\n' ∈ trim text) :
    ∃ lead trail, ¬ Blank lead ∧ ¬ Blank trail ∧ text = lead ++ ['\n'] ++ trail := by
  obtain ⟨front, back, blankFront, blankBack, split⟩ := exists_eq_append_trim text
  obtain ⟨first, second, cut⟩ := List.append_of_mem inside
  -- Were either side blank, the trimmed text would start or end with a blank character.
  refine ⟨front ++ first, second ++ back, ?_, ?_, by rw [split, cut]; simp⟩
  · intro blank
    cases first with
    | nil => exact absurd isBlank_lineFeed (by simp [head_trim_not_blank cut])
    | cons c first => exact absurd (blank c (by simp)) (by simp [head_trim_not_blank cut])
  · intro blank
    rcases List.eq_nil_or_concat second with rfl | ⟨init, last, rfl⟩
    · exact absurd isBlank_lineFeed (by simp [last_trim_not_blank cut])
    · have ends : trim text = (first ++ '\n' :: init) ++ [last] := by simpa using cut
      have solid := last_trim_not_blank ends
      exact absurd (blank last (by simp)) (by simp [solid])

/-- The start of a header within a line is within a line. A line feed inside it would have solid
text on both sides, so trimming would not take it off the longer header either. -/
theorem lineFeed_not_mem_trim_of_prefix {lead name trail : Text} (blankLead : Blank lead)
    (blankTrail : Blank trail) (line : '\n' ∉ name) (start : header <+: lead ++ name ++ trail) :
    '\n' ∉ trim header := by
  intro inside
  obtain ⟨front, back, solidFront, solidBack, hheader⟩ := exists_of_lineFeed_mem_trim inside
  obtain ⟨more, hmore⟩ := start
  have solid : ¬ Blank (back ++ more) := fun blank =>
    solidBack fun c member => blank c (by simp [member])
  have kept := trim_append_append ['\n'] solidFront solid
  rw [← List.append_assoc, ← hheader, hmore, trim_append_blanks _ blankLead blankTrail] at kept
  exact line (trim_isInfix.subset (kept ▸ by simp))

/-- The ways in which a header can be read, without the order in which they are tried. -/
theorem exists_of_readHeader {next : Text → Text → Option β}
    (found : readHeader next text = some result) :
    ∃ lead name trail rest, Blank lead ∧ '\n' ∉ name ∧ Blank trail ∧
      text = lead ++ name ++ trail ++ stars ++ rest ∧ next name rest = some result := by
  obtain ⟨lead, start, rfl, blankLead, found⟩ := exists_of_greedy found
  obtain ⟨name, stop, rfl, line, found⟩ := exists_of_lazily found
  obtain ⟨trail, final, rfl, blankTrail, found⟩ := exists_of_greedy found
  obtain ⟨rest, rfl, found⟩ := literal_eq_some_iff.mp found
  rw [between_append] at found
  exact ⟨lead, name, trail, rest, blankLead, fun inside => by simpa [inLine] using line _ inside,
    blankTrail, by simp, found⟩

/-- Before the end of the name, what follows the blanks is not yet the first stars. -/
theorem greedy_stars_eq_none {next : Text → Option β} {trail tail : Text}
    (first : ∀ tail, tail ≠ [] → tail <:+ header → ¬ stars <+: tail ++ (stars ++ middle))
    (htrail : trimStart header = trim header ++ trail) (nonempty : tail ≠ [])
    (isTail : tail <:+ trim header) :
    greedy isBlank (literal stars next) (tail ++ (trail ++ (stars ++ middle))) = none := by
  have solid : ¬ Blank tail := by
    intro blank
    obtain ⟨init, last, rfl⟩ := (List.eq_nil_or_concat tail).resolve_left nonempty
    obtain ⟨front, hfront⟩ := isTail
    have ends : trim header = (front ++ init) ++ [last] := by simpa using hfront.symm
    exact absurd (blank last (by simp)) (by simp [last_trim_not_blank ends])
  rw [greedy_eq_dropWhile, ← trimStart, trimStart_append_of_not_blank _ solid]
  · apply literal_eq_none
    rw [← List.append_assoc]
    refine first (trimStart tail ++ trail) ?_ ?_
    · intro empty
      obtain ⟨lead, blankLead, hlead⟩ := exists_eq_append_trimStart tail
      rw [(List.append_eq_nil_iff.mp empty).1, List.append_nil] at hlead
      exact solid (hlead ▸ blankLead)
    · refine List.IsSuffix.trans ?_ (List.dropWhile_suffix isBlank)
      rw [← trimStart, htrail]
      have inName : trimStart tail <:+ trim header := (List.dropWhile_suffix _).trans isTail
      exact (List.suffix_append_inj_of_length_eq rfl).mpr ⟨inName, rfl⟩
  · intro c text blank
    apply literal_eq_none
    intro stands
    obtain rfl : '*' = c := (List.cons_prefix_cons.mp stands).1
    exact absurd blank (by simp [isBlank_star])

/-- The reading that is tried first among those that reach the first stars. -/
theorem readHeader_of_cut? {next : Text → Text → Option β}
    (cut : cut? stars text = some (header, middle)) (line : '\n' ∉ trim header)
    (found : next (trim header) middle = some result) : readHeader next text = some result := by
  obtain ⟨split, first⟩ := cut?_eq_some_iff.mp cut
  obtain ⟨trail, blankTrail, htrail⟩ := exists_eq_trimEnd_append (trimStart header)
  rw [← trim] at htrail
  -- All blanks in front are taken first. They end before the stars at the latest.
  have start : text.dropWhile isBlank = trim header ++ (trail ++ (stars ++ middle)) := by
    rw [← trimStart, split, List.append_assoc]
    rw [show stars ++ middle = '*' :: '*' :: '*' :: middle from rfl,
      trimStart_append_cons isBlank_star, htrail, List.append_assoc]
  refine greedy_of_dropWhile ?_
  rw [start, mark]
  refine lazily_of_some ?_ ?_ ?_
  · intro c member
    simp only [inLine, bne_iff_ne, ne_eq]
    rintro rfl
    exact line member
  · refine greedy_of_dropWhile ?_
    have skip : (trail ++ (stars ++ middle)).dropWhile isBlank = stars ++ middle := by
      rw [← trimStart, trimStart_blanks_append _ blankTrail]
      rfl
    rw [skip, literal_append, between_append, found]
  · intro tail nonempty isTail
    exact greedy_stars_eq_none first htrail nonempty isTail

/-- The header ends at the first stars, whatever the order of the choices. What reads the body may
not accept a later start after refusing an earlier one. -/
theorem readHeader_eq_some_iff {next : Text → Text → Option β}
    (later : ∀ name name' rest rest', rest' <:+ rest → next name rest = none →
      next name' rest' = none) :
    readHeader next text = some result ↔ ∃ header middle,
      cut? stars text = some (header, middle) ∧ '\n' ∉ trim header ∧
        next (trim header) middle = some result := by
  constructor
  · intro found
    -- Whatever was found shows that stars stand in the text, so there are first ones.
    obtain ⟨lead, name, trail, rest, blankLead, line, blankTrail, split, accepted⟩ :=
      exists_of_readHeader found
    cases cut : cut? stars text with
    | none => exact absurd ⟨lead ++ name ++ trail, rest, split.symm⟩ (cut?_eq_none_iff.mp cut)
    | some parts =>
      obtain ⟨header, middle⟩ := parts
      have inLine : '\n' ∉ trim header :=
        lineFeed_not_mem_trim_of_prefix blankLead blankTrail line (prefix_of_cut? cut split)
      -- The first stars also lead to an answer, and that one is tried before the one found.
      cases first : next (trim header) middle with
      | none => simp [later _ name _ _ (suffix_of_cut? cut split) first] at accepted
      | some result' =>
        have again := readHeader_of_cut? cut inLine first
        exact ⟨header, middle, rfl, inLine, first.trans (again.symm.trans found)⟩
  · rintro ⟨header, middle, cut, line, found⟩
    exact readHeader_of_cut? cut line found

/-! ## Blocks -/

/-- The body of a block, up to the first end marker. -/
def readBody (name middle : Text) : Option (Block × Text) :=
  (cut? endMarker middle).map fun cut => (⟨name, cut.1⟩, cut.2)

theorem readBody_eq : readBody = fun name =>
    mark fun body => lazily anyChar <| mark fun stop => literal endMarker fun rest =>
      some (⟨name, between body stop⟩, rest) := by
  funext name middle
  exact (lazily_literal_between endMarker middle fun body => (⟨name, body⟩ : Block)).symm

theorem block_eq_literal : block text = literal startMarker (readHeader readBody) text := by
  rw [readBody_eq, block, literal_eq, literal_eq]
  rfl

/-- Without an end marker no later start of the body helps. -/
theorem readBody_eq_none (name name' rest rest' : Text) (isTail : rest' <:+ rest)
    (refused : readBody name rest = none) : readBody name' rest' = none := by
  rw [readBody, Option.map_eq_none_iff, cut?_eq_none_iff] at refused ⊢
  -- An end marker in what is left would also stand in the whole.
  exact fun stands => refused (stands.trans isTail.isInfix)

/-- A block: after the start marker, the header up to the first stars, trimmed and within a line,
and the body up to the first end marker after them. -/
theorem block_eq_some_iff {b : Block} :
    block text = some (b, rest) ↔ ∃ inner header middle,
      text = startMarker ++ inner ∧ cut? stars inner = some (header, middle) ∧
        '\n' ∉ trim header ∧ b.header = trim header ∧
        cut? endMarker middle = some (b.body, rest) := by
  rw [block_eq_literal, literal_eq_some_iff]
  simp only [readHeader_eq_some_iff readBody_eq_none, readBody, Option.map_eq_some_iff]
  constructor
  · rintro ⟨inner, split, header, middle, cut, line, ⟨body, rest⟩, last, same⟩
    obtain ⟨rfl, rfl⟩ := Prod.mk.inj same
    exact ⟨inner, header, middle, split, cut, line, rfl, last⟩
  · rintro ⟨inner, header, middle, split, cut, line, hheader, last⟩
    exact ⟨inner, split, header, middle, cut, line, _, last, by rw [← hheader]⟩

/-- What a block takes: both markers, the stars, and what lies between. -/
theorem length_of_block {b : Block} (found : block text = some (b, rest)) :
    ∃ header, b.header = trim header ∧
      text.length = header.length + b.body.length + rest.length + 31 := by
  obtain ⟨inner, header, middle, rfl, cut, -, hheader, last⟩ := block_eq_some_iff.mp found
  refine ⟨header, hheader, ?_⟩
  rw [eq_append_of_cut? cut, eq_append_of_cut? last]
  simp only [List.length_append, length_startMarker, length_stars, length_endMarker]
  omega

theorem consuming_block : Consuming block := by
  intro text b rest found
  obtain ⟨header, -, size⟩ := length_of_block found
  omega

/-! ## Regions -/

/-- A region runs from its marker to the first end marker after it. -/
theorem region_eq_some_iff :
    region text = some ((), rest) ↔ ∃ inner before,
      text = regionMarker ++ inner ∧ cut? endMarker inner = some (before, rest) := by
  have whole : region text =
      literal regionMarker (fun inner => (cut? endMarker inner).map fun cut => ((), cut.2))
        text := by
    have body (inner : Text) :=
      lazily_literal endMarker inner fun _ rest => ((), rest)
    simp only [← body]
    rfl
  rw [whole, literal_eq_some_iff]
  simp

theorem consuming_region : Consuming region := by
  rintro text ⟨⟩ rest found
  obtain ⟨inner, before, rfl, cut⟩ := region_eq_some_iff.mp found
  simp only [eq_append_of_cut? cut, List.length_append, length_regionMarker]
  omega

end SandboxPreview.Reply
