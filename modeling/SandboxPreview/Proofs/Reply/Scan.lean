/-
# The scan for blocks

Which files a reply holds, said by positions. A scan looks for the first start marker from which a
block can be read, goes on behind the end marker of that block, and stops when no block is left. A
block can be read from a start marker when there are stars after it, the text up to the first of
them is one line once it is trimmed, and there is an end marker behind them. A start marker that
fails is passed over by one character, so it may lie inside what another one reads.

## Main definitions

* `Span.IsBlock`: a block stands at given positions;
* `Scan`: the blocks that a scan meets from a position on.

## Main results

* `Scan.unique`, `exists_scan`: a scan has exactly one outcome;
* `extract_eq_scan`: the files of a reply are those of the blocks that the scan meets.
-/
import Mathlib.Data.List.Forall2
import SandboxPreview.Proofs.Reply.Block
import SandboxPreview.Proofs.Text.Scanning
import SandboxPreview.Reply.Extraction

namespace SandboxPreview.Reply

open Pattern Text

variable {text : Text} {place : Nat} {spans spans' : List Span}

/-- Where the start marker, the stars behind the header and the end marker stand. -/
structure Span where
  start : Nat
  headerEnd : Nat
  bodyEnd : Nat
  deriving DecidableEq

namespace Span

variable {s s' : Span}

/-- The trimmed text between the start marker and the stars. -/
def name (s : Span) (text : Text) : Text :=
  trim (slice text (s.start + startMarker.length) s.headerEnd)

/-- The text between the stars and the end marker. -/
def body (s : Span) (text : Text) : Text := slice text (s.headerEnd + stars.length) s.bodyEnd

/-- The position behind the end marker. -/
def stop (s : Span) : Nat := s.bodyEnd + endMarker.length

/-- A block stands at these positions. -/
structure IsBlock (s : Span) (text : Text) : Prop where
  start : startMarker <+: text.drop s.start
  headerEnd : FirstFrom stars text (s.start + startMarker.length) s.headerEnd
  line : '\n' ∉ s.name text
  bodyEnd : FirstFrom endMarker text (s.headerEnd + stars.length) s.bodyEnd

instance (s : Span) (text : Text) : Decidable (s.IsBlock text) :=
  decidable_of_iff
    (startMarker <+: text.drop s.start ∧
      FirstFrom stars text (s.start + startMarker.length) s.headerEnd ∧ '\n' ∉ s.name text ∧
      FirstFrom endMarker text (s.headerEnd + stars.length) s.bodyEnd)
    ⟨fun ⟨start, headerEnd, line, bodyEnd⟩ => ⟨start, headerEnd, line, bodyEnd⟩,
      fun block => ⟨block.start, block.headerEnd, block.line, block.bodyEnd⟩⟩

theorem IsBlock.unique (h : s.IsBlock text) (h' : s'.IsBlock text) (same : s.start = s'.start) :
    s = s' := by
  obtain ⟨start, headerEnd, bodyEnd⟩ := s
  obtain ⟨start', headerEnd', bodyEnd'⟩ := s'
  obtain rfl : start = start' := same
  obtain rfl : headerEnd = headerEnd' := h.headerEnd.unique h'.headerEnd
  obtain rfl : bodyEnd = bodyEnd' := h.bodyEnd.unique h'.bodyEnd
  rfl

end Span

/-- The blocks that a scan meets from a position on, each the first from where the last one
ended. -/
inductive Scan (text : Text) : Nat → List Span → Prop
  | done {place : Nat} (none : ∀ s : Span, place ≤ s.start → ¬ s.IsBlock text) :
      Scan text place []
  | next {place : Nat} {s : Span} {spans : List Span} (le : place ≤ s.start)
      (block : s.IsBlock text)
      (first : ∀ other : Span, place ≤ other.start → other.start < s.start → ¬ other.IsBlock text)
      (more : Scan text s.stop spans) : Scan text place (s :: spans)

theorem scan_iff_meets : Scan text place spans ↔
    Meets (fun s : Span => s.IsBlock text) Span.start Span.stop place spans := by
  constructor
  · intro scan
    induction scan with
    | done none => exact .done none
    | next le block first _ ih => exact .next le block first ih
  · intro meets
    induction meets with
    | done none => exact .done none
    | next le block first _ ih => exact .next le block first ih

theorem Scan.unique (h : Scan text place spans) (h' : Scan text place spans') : spans = spans' :=
  (scan_iff_meets.mp h).unique (fun _ _ block block' same => block.unique block' same)
    (scan_iff_meets.mp h')

theorem Scan.isBlock_of_mem (scan : Scan text place spans) {s : Span} (member : s ∈ spans) :
    s.IsBlock text :=
  (scan_iff_meets.mp scan).stands_of_mem member

/-! ## The scan and the pattern -/

/-- What the pattern of a block finds at a position. -/
theorem block_drop_eq_some_iff {b : Block} {rest : Text} :
    block (text.drop place) = some (b, rest) ↔
      ∃ s : Span, s.start = place ∧ s.IsBlock text ∧ b = ⟨s.name text, s.body text⟩ ∧
        rest = text.drop s.stop := by
  rw [block_eq_some_iff]
  constructor
  · rintro ⟨inner, header, middle, split, cut, line, hheader, last⟩
    have hinner : inner = text.drop (place + startMarker.length) := by
      rw [← List.drop_drop, split]
      simp
    rw [hinner, cut?_drop_eq_some_iff stars_ne_nil] at cut
    obtain ⟨headerEnd, firstStars, rfl, rfl⟩ := cut
    obtain ⟨bodyEnd, firstEnd, hbody, rfl⟩ := (cut?_drop_eq_some_iff endMarker_ne_nil).mp last
    refine ⟨⟨place, headerEnd, bodyEnd⟩, rfl, ⟨?_, firstStars, line, firstEnd⟩, ?_, rfl⟩
    · exact ⟨inner, split.symm⟩
    · obtain ⟨name, body⟩ := b
      rw [Block.mk.injEq]
      exact ⟨hheader, hbody⟩
  · rintro ⟨s, rfl, ⟨⟨inner, split⟩, firstStars, line, firstEnd⟩, rfl, rfl⟩
    have hinner : inner = text.drop (s.start + startMarker.length) := by
      rw [← List.drop_drop, ← split]
      simp
    refine ⟨inner, slice text (s.start + startMarker.length) s.headerEnd,
      text.drop (s.headerEnd + stars.length), split.symm, ?_, line, rfl, ?_⟩
    · rw [hinner, cut?_drop_eq_some_iff stars_ne_nil]
      exact ⟨s.headerEnd, firstStars, rfl, rfl⟩
    · rw [cut?_drop_eq_some_iff endMarker_ne_nil]
      exact ⟨s.bodyEnd, firstEnd, rfl, rfl⟩

theorem located_block (text : Text) :
    Located block text (fun s : Span => s.IsBlock text) Span.start Span.stop
      fun s => ⟨s.name text, s.body text⟩ := fun _ _ _ => block_drop_eq_some_iff

theorem exists_scan (text : Text) (place : Nat) : ∃ spans, Scan text place spans := by
  obtain ⟨spans, meets⟩ := (located_block text).exists_meets consuming_block place
  exact ⟨spans, scan_iff_meets.mpr meets⟩

/-- The search with the pattern meets the blocks of the scan. -/
theorem Scan.findAll_eq (scan : Scan text place spans) :
    findAll block (text.drop place) = spans.map fun s => ⟨s.name text, s.body text⟩ :=
  (located_block text).findAll_eq consuming_block (scan_iff_meets.mp scan)

/-! ## The files of the blocks -/

/-- What stands behind the last dot of a name; the whole name when there is no dot. -/
def IsEnding (name ending : Text) : Prop :=
  '.' ∉ ending ∧ (ending = name ∨ ∃ stem, name = stem ++ '.' :: ending)

theorem isEnding_afterLast (name : Text) : IsEnding name (afterLast '.' name) := by
  -- Read from behind, the ending goes up to the first dot.
  have split := List.takeWhile_append_dropWhile (p := (· ≠ '.')) (l := name.reverse)
  refine ⟨?_, ?_⟩
  · intro inside
    have := List.mem_takeWhile_imp (List.mem_reverse.mp inside)
    simp at this
  · cases dropped : name.reverse.dropWhile (· ≠ '.') with
    | nil =>
      left
      rw [dropped, List.append_nil] at split
      rw [afterLast, split, List.reverse_reverse]
    | cons c before =>
      right
      have head := List.head_dropWhile_not (· ≠ '.') (l := name.reverse)
        (by rw [dropped]; exact List.cons_ne_nil _ _)
      simp only [dropped, List.head_cons] at head
      obtain rfl : c = '.' := by simpa using head
      refine ⟨before.reverse, ?_⟩
      rw [dropped] at split
      rw [afterLast]
      conv_lhs => rw [← List.reverse_reverse name, ← split]
      simp

theorem lower_eq_nil_iff : lower text = [] ↔ text = [] := by
  cases text with
  | nil => simp [lower, lowerAfter]
  | cons c text =>
    simp only [lower, lowerAfter, List.append_eq_nil_iff, reduceCtorEq, iff_false, not_and]
    intro empty
    split at empty
    · split at empty <;> simp at empty
    · split at empty <;> simp at empty

theorem languageOf_eq (name : Text) : languageOf name =
    if afterLast '.' name = [] then "text".toList else lower (afterLast '.' name) := by
  rw [languageOf]
  split
  case h_1 empty => rw [if_pos (lower_eq_nil_iff.mp empty)]
  case h_2 nonempty => rw [if_neg fun empty => nonempty (lower_eq_nil_iff.mpr empty)]

/-- The artifact is the file of a block: it has the name in the header and the body without blanks
and one fence, and its language is read off the ending of the name. -/
structure Span.Holds (s : Span) (text : Text) (a : Artifact) : Prop where
  name : a.name = s.name text
  content : a.content = unfence (trim (s.body text))
  language : ∃ ending, IsEnding a.name ending ∧
    a.language = if ending = [] then "text".toList else lower ending

/-- A block has a file exactly when its name is not empty. -/
theorem Span.artifact?_eq (s : Span) (text : Text) :
    Block.artifact? ⟨s.name text, s.body text⟩ =
      if s.name text = [] then none
      else some ⟨s.name text, languageOf (s.name text), unfence (trim (s.body text))⟩ := by
  rw [Block.artifact?, Span.name, trim_trim]
  split
  case h_1 empty => rw [if_pos empty]
  case h_2 nonempty => rw [if_neg nonempty]

theorem forall₂_filterMap_artifact? (spans : List Span) (text : Text) :
    List.Forall₂ (fun s a => Span.Holds s text a) (spans.filter fun s => s.name text ≠ [])
      ((spans.map fun s => ⟨s.name text, s.body text⟩).filterMap Block.artifact?) := by
  induction spans with
  | nil => exact .nil
  | cons s spans ih =>
    rw [List.map_cons, List.filterMap_cons, Span.artifact?_eq]
    by_cases empty : s.name text = []
    · simpa [empty] using ih
    · rw [if_neg empty, List.filter_cons_of_pos (by simpa using empty)]
      refine .cons ⟨rfl, rfl, ?_⟩ ih
      exact ⟨_, isEnding_afterLast _, languageOf_eq _⟩

/-- The scan of a reply has one outcome. When it meets a block with a name, the files of the reply
are those of the blocks with names, in order; otherwise they are those of the fenced blocks. -/
theorem extract_eq_scan (reply : Text) :
    ∃ spans, (∀ other, Scan reply 0 other ↔ other = spans) ∧
      let named := spans.filter fun s => s.name reply ≠ []
      if named = [] then extract reply = fenced reply
      else List.Forall₂ (fun s a => Span.Holds s reply a) named (extract reply) := by
  obtain ⟨spans, scan⟩ := exists_scan reply 0
  -- Blocks without names have no file, so both sides leave out the same blocks.
  have files := forall₂_filterMap_artifact? spans reply
  have whole : delimited reply =
      (spans.map fun s => ⟨s.name reply, s.body reply⟩).filterMap Block.artifact? := by
    rw [delimited, blocks, ← scan.findAll_eq, List.drop_zero]
  rw [← whole] at files
  refine ⟨spans, fun other => ⟨fun h => h.unique scan, fun same => same ▸ scan⟩, ?_⟩
  rw [extract]
  dsimp only
  split
  case isTrue empty =>
    rw [empty, List.forall₂_nil_left_iff] at files
    rw [files]
  case isFalse nonempty =>
    cases found : delimited reply with
    | nil => exact absurd (List.forall₂_nil_right_iff.mp (found ▸ files)) nonempty
    | cons a artifacts => rwa [found] at files

end SandboxPreview.Reply
