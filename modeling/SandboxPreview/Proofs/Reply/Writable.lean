/-
# Written blocks

Which artifacts can be written as a block and read back from it. The name and the content have to
leave the markers readable, and lose nothing when they are trimmed and unfenced. Such a block is
read back whatever stands behind it, and an artifact that is read back from its own block is such
a one: a block that starts or ends elsewhere is too short for it.

## Main definitions

* `Writable`: the artifacts that can be written and read back;
* `Legible`: the artifacts whose blocks are found again;
* `core`: a written block without the line feeds around it.

## Main results

* `block_core`, `region_core`: both patterns take the written block as a whole;
* `writable_of_extract`: what is read back is writable.
-/
import SandboxPreview.Proofs.Reply.FencedName
import SandboxPreview.Proofs.Reply.Scan
import SandboxPreview.Proofs.Reply.Unfence

namespace SandboxPreview.Reply

open Pattern Text

variable {a : Artifact} {rest : Text}

/-- The artifact can be written as a block and read back. -/
structure Writable (a : Artifact) : Prop where
  name_ne_nil : a.name ≠ []
  name_trim : trim a.name = a.name
  name_line : '\n' ∉ a.name
  name_stars : ¬ stars <:+: a.name
  name_end : a.name.getLast? ≠ some '*'
  content_trim : trim a.content = a.content
  content_marker : ¬ endMarker <:+: a.content
  content_unfence : unfence a.content = a.content
  language : a.language = languageOf a.name

/-- The artifact has what every file of a delimited block has. It can be written as a block that is
found again, but it may not come back as it was. -/
structure Legible (a : Artifact) : Prop where
  name_ne_nil : a.name ≠ []
  name_trim : trim a.name = a.name
  name_line : '\n' ∉ a.name
  name_stars : ¬ stars <:+: a.name
  content_marker : ¬ endMarker <:+: a.content
  language : a.language = languageOf a.name

theorem Writable.legible (writable : Writable a) : Legible a where
  name_ne_nil := writable.name_ne_nil
  name_trim := writable.name_trim
  name_line := writable.name_line
  name_stars := writable.name_stars
  content_marker := writable.content_marker
  language := writable.language

/-- A written block from its start marker to its end marker. -/
def core (a : Artifact) : Text :=
  startMarker ++ (' ' :: a.name ++ (stars ++ '\n' :: a.content ++ '\n' :: endMarker))

theorem serialize_singleton (a : Artifact) : serialize [a] = '\n' :: (core a ++ ['\n']) := by
  -- The lines of a block are texts in quotes; here they are the markers and line feeds they hold.
  have parts : Block.write a = ['\n'] ++ startMarker ++ [' '] ++ a.name ++ (stars ++ ['\n']) ++
      a.content ++ ['\n'] ++ endMarker ++ ['\n'] := by
    delta Block.write
    rfl
  simp [serialize, parts, core]

/-! ## Reading a written block -/

/-- The header of a written block ends behind the name. -/
theorem cut?_header {name : Text} (nonempty : name ≠ []) (noStars : ¬ stars <:+: name)
    (noEnd : name.getLast? ≠ some '*') (rest : Text) :
    cut? stars (' ' :: name ++ (stars ++ rest)) = some (' ' :: name, rest) := by
  obtain ⟨init, last, rfl⟩ := (List.eq_nil_or_concat name).resolve_left nonempty
  rw [List.concat_eq_append] at *
  -- The last character of the name keeps the stars from starting any earlier.
  have solid : last ∉ stars := by
    intro member
    obtain rfl : last = '*' := by simpa [stars] using member
    exact noEnd (by simp)
  have noStars' : ¬ stars <:+: ' ' :: init := by
    rw [← List.nil_append (' ' :: init), infix_append_cons_iff (by decide)]
    rintro (empty | inside)
    · exact stars_ne_nil (List.infix_nil.mp empty)
    · exact noStars (inside.trans (List.prefix_append _ _).isInfix)
  have whole : ' ' :: (init ++ [last]) ++ (stars ++ rest) =
      (' ' :: init) ++ last :: (stars ++ rest) := by simp
  rw [whole]
  exact cut?_append_cons solid noStars'

theorem not_infix_lineFeed_cons {word content : Text} (line : '\n' ∉ word) (nonempty : word ≠ [])
    (missing : ¬ word <:+: content) : ¬ word <:+: '\n' :: content := by
  rw [← List.nil_append ('\n' :: content), infix_append_cons_iff line, List.infix_nil]
  exact not_or_intro nonempty missing

/-- The body of a written block ends behind the content. -/
theorem cut?_body {content : Text} (noMarker : ¬ endMarker <:+: content) (rest : Text) :
    cut? endMarker ('\n' :: content ++ '\n' :: (endMarker ++ rest)) =
      some ('\n' :: content ++ ['\n'], rest) :=
  cut?_append_cons lineFeed_not_mem_endMarker
    (not_infix_lineFeed_cons lineFeed_not_mem_endMarker endMarker_ne_nil noMarker)

theorem core_append (a : Artifact) (rest : Text) :
    core a ++ rest = startMarker ++
      (' ' :: a.name ++ (stars ++ ('\n' :: a.content ++ '\n' :: (endMarker ++ rest)))) := by
  simp [core]

theorem trim_space_cons (text : Text) : trim (' ' :: text) = trim text := by
  simpa using trim_append_blanks text blank_space blank_nil

theorem trim_between_lineFeeds (text : Text) : trim ('\n' :: text ++ ['\n']) = trim text := by
  simpa using trim_append_blanks text blank_lineFeed blank_lineFeed

theorem block_core (legible : Legible a) (name_end : a.name.getLast? ≠ some '*') (rest : Text) :
    block (core a ++ rest) = some (⟨a.name, '\n' :: a.content ++ ['\n']⟩, rest) := by
  have trimmed : trim (' ' :: a.name) = a.name := (trim_space_cons _).trans legible.name_trim
  refine block_eq_some_iff.mpr ⟨_, _, _, core_append a rest,
    cut?_header legible.name_ne_nil legible.name_stars name_end _, ?_, trimmed.symm,
    cut?_body legible.content_marker rest⟩
  rw [trimmed]
  exact legible.name_line

/-- The stars at the end of a word are of no use to a word that ends in as many. -/
theorem infix_of_append_infix_append {word text ending : Text}
    (stands : word ++ ending <:+: text ++ ending) : word <:+: text := by
  obtain ⟨front, back, split⟩ := stands
  have ahead : front ++ word <+: text ++ ending := ⟨ending ++ back, by simpa using split⟩
  have short : (front ++ word).length ≤ text.length := by
    have := congrArg List.length split
    simp only [List.length_append] at this ⊢
    omega
  -- The word ends in time to leave room for the ending behind the text.
  have inside := List.prefix_of_prefix_length_le ahead (List.prefix_append text ending) short
  exact (List.suffix_append front word).isInfix.trans inside.isInfix

/-- The end marker does not stand in the header with its stars. -/
theorem not_infix_header (legible : Legible a) :
    ¬ endMarker <:+: ':' :: ' ' :: a.name ++ stars := by
  intro stands
  have ends : endMarker = "***FILE_END".toList ++ stars := by decide
  have inHeader := infix_of_append_infix_append (ends ▸ stands)
  have inHeader' : stars <:+: [':', ' '] ++ a.name :=
    (show stars <+: "***FILE_END".toList by decide).isInfix.trans inHeader
  rw [show [':', ' '] ++ a.name = [':'] ++ ' ' :: a.name from rfl,
    infix_append_cons_iff (by decide)] at inHeader'
  rcases inHeader' with colon | inName
  · exact absurd colon (by decide)
  · exact legible.name_stars inName

theorem region_core (writable : Writable a) (rest : Text) :
    region (core a ++ rest) = some ((), rest) := by
  have missing : ¬ endMarker <:+: ':' :: ' ' :: a.name ++ stars ++ '\n' :: a.content := by
    rw [infix_append_cons_iff lineFeed_not_mem_endMarker]
    exact not_or_intro (not_infix_header writable.legible) writable.content_marker
  refine region_eq_some_iff.mpr ⟨':' :: ' ' :: a.name ++ stars ++ '\n' :: a.content ++
    '\n' :: (endMarker ++ rest), _, ?_, cut?_append_cons lineFeed_not_mem_endMarker missing⟩
  simp [core, startMarker_eq]

theorem regionMarker_prefix_of_block {text : Text} {found : Block × Text}
    (here : block text = some found) : regionMarker <+: text := by
  obtain ⟨inner, -, -, rfl, -⟩ := block_eq_some_iff.mp here
  rw [startMarker_eq, List.append_assoc]
  exact List.prefix_append _ _

theorem regionMarker_prefix_of_region {text : Text} {found : Unit × Text}
    (here : region text = some found) : regionMarker <+: text := by
  obtain ⟨inner, -, rfl, -⟩ := region_eq_some_iff.mp here
  exact List.prefix_append _ _

theorem block_lineFeed_cons (rest : Text) : block ('\n' :: rest) = none := by
  rw [Option.eq_none_iff_forall_ne_some]
  intro found here
  -- A block starts with a star, not with a line feed.
  have stands : regionMarker <+: [] ++ '\n' :: rest := regionMarker_prefix_of_block here
  rw [prefix_append_cons_iff lineFeed_not_mem_regionMarker, List.prefix_nil] at stands
  exact regionMarker_ne_nil stands

theorem blocks_serialize (a : Artifact) :
    blocks (serialize [a]) = findAll block (core a ++ ['\n']) := by
  have none (tail : Text) (nonempty : tail ≠ []) (isTail : tail <:+ ['\n']) :
      block (tail ++ (core a ++ ['\n'])) = .none := by
    rcases List.suffix_cons_iff.mp isTail with rfl | empty
    · exact block_lineFeed_cons _
    · exact absurd (List.suffix_nil.mp empty) nonempty
  rw [blocks, serialize_singleton, ← List.singleton_append, findAll_append_of_none none]

theorem artifact?_eq_some_iff {b : Block} :
    b.artifact? = some a ↔ a.name ≠ [] ∧ a.name = trim b.header ∧
      a.language = languageOf a.name ∧ a.content = unfence (trim b.body) := by
  obtain ⟨name, language, content⟩ := a
  rw [Block.artifact?]
  split
  case h_1 empty =>
    simp only [reduceCtorEq, empty, false_iff]
    rintro ⟨nonempty, same, -⟩
    exact nonempty same
  case h_2 nonempty =>
    rw [Option.some.injEq, Artifact.mk.injEq]
    constructor
    · rintro ⟨rfl, rfl, rfl⟩
      exact ⟨nonempty, rfl, rfl, rfl⟩
    · rintro ⟨-, rfl, hlanguage, hcontent⟩
      exact ⟨rfl, hlanguage.symm, hcontent.symm⟩

theorem artifact?_of_writable (writable : Writable a) :
    Block.artifact? ⟨a.name, '\n' :: a.content ++ ['\n']⟩ = some a := by
  refine artifact?_eq_some_iff.mpr ⟨writable.name_ne_nil, writable.name_trim.symm,
    writable.language, ?_⟩
  rw [trim_between_lineFeeds, writable.content_trim, writable.content_unfence]

/-! ## What is read back is writable -/

theorem exists_drop_of_mem_blocks {text : Text} {b : Block} (member : b ∈ blocks text) :
    ∃ start rest, block (text.drop start) = some (b, rest) := by
  obtain ⟨spans, scan⟩ := exists_scan text 0
  rw [blocks, ← List.drop_zero (l := text), scan.findAll_eq] at member
  obtain ⟨s, inSpans, rfl⟩ := List.mem_map.mp member
  exact ⟨s.start, _, block_drop_eq_some_iff.mpr ⟨s, rfl, scan.isBlock_of_mem inSpans, rfl, rfl⟩⟩

theorem trim_eq_self_of_isName {name : Text} (named : IsName name) : trim name = name := by
  have solid (c : Char) (member : c ∈ name) : isBlank c = false :=
    isBlank_of_isNameLetter (named.2 c member)
  rw [trim, trimStart_eq_self solid, trimEnd_eq_self solid]

theorem not_mem_of_isName {name : Text} {c : Char} (named : IsName name)
    (other : isNameLetter c = false) : c ∉ name := fun member => by
  simp [named.2 c member] at other

/-- The name of a fenced block is read back as it stands, so a written block that has it is not
left to the fences. -/
theorem delimited_ne_nil_of_isName (named : IsName a.name) : delimited (serialize [a]) ≠ [] := by
  have noStar : '*' ∉ a.name := not_mem_of_isName named isNameLetter_star
  have header := cut?_header named.1 (fun stands => noStar (stands.subset (by decide)))
    (fun last => noStar (List.mem_of_getLast? last))
    ('\n' :: a.content ++ '\n' :: (endMarker ++ ['\n']))
  have trimmed : trim (' ' :: a.name) = a.name :=
    (trim_space_cons _).trans (trim_eq_self_of_isName named)
  -- The content may hold an end marker of its own, so only some body is known to be read.
  cases ending : cut? endMarker ('\n' :: a.content ++ '\n' :: (endMarker ++ ['\n'])) with
  | none =>
    refine absurd ?_ (cut?_eq_none_iff.mp ending)
    exact ⟨'\n' :: a.content ++ ['\n'], ['\n'], by simp⟩
  | some parts =>
    obtain ⟨body, rest⟩ := parts
    have found : block (core a ++ ['\n']) = some (⟨a.name, body⟩, rest) := by
      refine block_eq_some_iff.mpr ⟨_, _, _, core_append a ['\n'], header, ?_, trimmed.symm, ending⟩
      rw [trimmed]
      exact not_mem_of_isName named (by decide)
    have file : (⟨a.name, body⟩ : Block).artifact? =
        some ⟨a.name, languageOf a.name, unfence (trim body)⟩ :=
      artifact?_eq_some_iff.mpr ⟨named.1, (trim_eq_self_of_isName named).symm, rfl, rfl⟩
    rw [delimited, blocks_serialize, findAll_of_some consuming_block found,
      List.filterMap_cons, file]
    exact List.cons_ne_nil _ _

theorem mem_delimited_of_extract (same : extract (serialize [a]) = [a]) :
    a ∈ delimited (serialize [a]) := by
  rw [extract] at same
  split at same
  case h_1 empty =>
    -- Read by its fences, the artifact would have a name that its own block can be read with.
    have member : a ∈ fenced (serialize [a]) := by
      rw [same]
      exact List.mem_singleton_self a
    exact absurd empty (delimited_ne_nil_of_isName (isName_of_mem_fenced member))
  case h_2 =>
    rw [same]
    exact List.mem_singleton_self a

theorem header_eq_of_cut? {name header middle : Text} (nonempty : name ≠ [])
    (cut : cut? stars (' ' :: name ++ (stars ++ rest)) = some (header, middle))
    (kept : name = trim header) : header = ' ' :: name := by
  have whole : ' ' :: name ++ (stars ++ rest) = ' ' :: name ++ stars ++ rest := by simp
  have start : header <+: ' ' :: name := prefix_of_cut? cut whole
  refine start.eq_of_length_le ?_
  -- Were the header shorter, nothing would be trimmed off it, not even the space in front.
  by_contra short
  have full : header.length ≤ (trim header).length := by
    rw [← kept]
    rw [List.length_cons] at short
    omega
  have same : name = header := kept.trans (trim_eq_self_of_length full)
  obtain ⟨c, tail, rfl⟩ := List.exists_cons_of_ne_nil nonempty
  rw [← same] at start kept
  obtain rfl : c = ' ' := (List.cons_prefix_cons.mp start).1
  exact absurd (head_trim_not_blank kept.symm) (by decide)

/-- An end marker inside the content would end the body too early to hold all of it. -/
theorem not_infix_of_cut?_body {content body tail : Text}
    (cut : cut? endMarker ('\n' :: content ++ tail) = some (body, rest))
    (fits : content.length ≤ body.length) : ¬ endMarker <:+: content := by
  rintro ⟨front, back, split⟩
  have whole : '\n' :: content ++ tail = '\n' :: front ++ endMarker ++ (back ++ tail) := by
    simp [← split]
  -- The marker in the content would end the body before the end of the content.
  have shorter := length_le_of_cut? cut whole
  have inside := congrArg List.length split
  simp only [List.length_append, List.length_cons, length_endMarker] at inside shorter
  omega

/-- The first block that is read back holds a writable artifact. -/
theorem writable_of_block_core {b : Block} (found : block (core a ++ ['\n']) = some (b, rest))
    (file : b.artifact? = some a) : Writable a := by
  obtain ⟨nonempty, hname, language, hcontent⟩ := artifact?_eq_some_iff.mp file
  obtain ⟨inner, header, middle, split, cut, line, hheader, last⟩ := block_eq_some_iff.mp found
  rw [core_append] at split
  obtain rfl := List.append_cancel_left split
  have kept : a.name = trim header := by rw [hname, hheader, trim_trim]
  -- Nothing but the space is trimmed, so the header is the whole written one.
  obtain rfl := header_eq_of_cut? nonempty cut kept
  obtain ⟨parts, first⟩ := cut?_eq_some_iff.mp cut
  rw [List.append_assoc] at parts
  obtain rfl := List.append_cancel_left (List.append_cancel_left parts)
  have isTail : a.name <:+ ' ' :: a.name := List.suffix_cons _ _
  have short : (unfence (trim b.body)).length ≤ b.body.length :=
    (length_unfence_le _).trans (length_trim_le _)
  have noMarker : ¬ endMarker <:+: a.content := not_infix_of_cut?_body last (hcontent ▸ short)
  -- Only now is it known that the body is the whole content between its line feeds.
  rw [cut?_body noMarker, Option.some.injEq, Prod.mk.injEq] at last
  rw [← last.1, trim_between_lineFeeds] at hcontent
  have content_trim : trim a.content = a.content := by
    refine trim_eq_self_of_length ?_
    conv_lhs => rw [hcontent]
    exact length_unfence_le _
  exact {
    name_ne_nil := nonempty
    name_trim := by rw [kept, trim_trim]
    name_line := kept ▸ line
    name_stars := fun stands =>
      not_infix_of_cut? cut stars_ne_nil (stands.trans isTail.isInfix)
    name_end := by
      intro ends
      obtain ⟨init, hinit⟩ := List.getLast?_eq_some_iff.mp ends
      refine first ['*'] (by decide) (List.IsSuffix.trans ⟨init, hinit.symm⟩ isTail) ?_
      exact ⟨'*' :: _, rfl⟩
    content_trim
    content_marker := noMarker
    content_unfence := by rw [content_trim] at hcontent; exact hcontent.symm
    language }

/-- No start marker but the first leaves room for the whole artifact behind it. -/
theorem block_core_of_mem_delimited (member : a ∈ delimited (serialize [a])) :
    ∃ b rest, block (core a ++ ['\n']) = some (b, rest) ∧ b.artifact? = some a := by
  obtain ⟨b, inBlocks, file⟩ := List.mem_filterMap.mp member
  obtain ⟨start, rest, found⟩ := exists_drop_of_mem_blocks inBlocks
  obtain ⟨-, hname, -, hcontent⟩ := artifact?_eq_some_iff.mp file
  obtain ⟨header, hheader, size⟩ := length_of_block found
  have nameSize : a.name.length ≤ header.length := by
    rw [hname, hheader, trim_trim]
    exact length_trim_le _
  have contentSize : a.content.length ≤ b.body.length := by
    rw [hcontent]
    exact (length_unfence_le _).trans (length_trim_le _)
  have whole : (serialize [a]).length = a.name.length + a.content.length + 36 := by
    simp only [serialize_singleton, core, List.length_cons, List.length_append, List.length_nil,
      length_startMarker, length_stars, length_endMarker]
    omega
  -- What the block takes leaves five characters before its start.
  have early : start ≤ 5 := by
    rw [List.length_drop, whole] at size
    omega
  -- Of the first positions only that behind the line feed has stars.
  obtain rfl : start = 1 := by
    obtain ⟨inner, -, -, split, -⟩ := block_eq_some_iff.mp found
    have marker : stars <+: (serialize [a]).drop start := by
      rw [split]
      exact (show stars <+: startMarker by decide).trans (List.prefix_append _ _)
    have front : '\n' :: startMarker <+: serialize [a] := by
      rw [serialize_singleton, core, ← List.singleton_append, List.append_assoc,
        ← List.append_assoc]
      exact List.prefix_append _ _
    have stands : stars <+: ('\n' :: startMarker).drop start := by
      refine List.prefix_of_prefix_length_le marker (front.drop start) ?_
      rw [List.length_drop, List.length_cons, length_stars, length_startMarker]
      omega
    have only : ∀ k ≤ 5, stars <+: ('\n' :: startMarker).drop k → k = 1 := by decide
    exact only start early stands
  refine ⟨b, rest, ?_, file⟩
  rwa [serialize_singleton, List.drop_one, List.tail_cons] at found

theorem writable_of_extract (same : extract (serialize [a]) = [a]) : Writable a := by
  obtain ⟨b, rest, found, file⟩ := block_core_of_mem_delimited (mem_delimited_of_extract same)
  exact writable_of_block_core found file

end SandboxPreview.Reply
