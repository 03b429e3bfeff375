/-
# The regions of a reply

What is taken out of a reply to leave its explanation, and how that compares with the blocks its
files are read from. A region runs from a start marker, whether or not it has its colon, to the next
end marker; neither a name nor closing stars are asked for. A block asks for both, and its end marker
is looked for behind the stars of its header. So a start marker that is only mentioned opens a region
without a block, and the stars of a header may be the first of an end marker, at which the region of
the block ends early. Where neither happens, what is taken out is what the files were read from.

## Main definitions

* `Region.IsRegion`: a region stands at given positions;
* `Span.region`: the region of a block;
* `WellMarked`: the markers of a reply are those of its blocks.

## Main results

* `regions_eq_iff`: the regions of a reply are those of its blocks exactly when it is well marked;
* `explanation_eq_outside`: the explanation is what lies outside of the regions, trimmed.
-/
import SandboxPreview.Proofs.Reply.Scan

namespace SandboxPreview.Reply

open Pattern Text

variable {text : Text} {place : Nat} {spans : List Span}

/-- Where a start marker and the end marker behind it stand. -/
structure Region where
  start : Nat
  last : Nat
  deriving DecidableEq

namespace Region

variable {r r' : Region}

/-- The position behind the end marker. -/
def stop (r : Region) : Nat := r.last + endMarker.length

/-- A region stands at these positions. -/
structure IsRegion (r : Region) (text : Text) : Prop where
  start : regionMarker <+: text.drop r.start
  last : FirstFrom endMarker text (r.start + regionMarker.length) r.last

theorem IsRegion.unique (h : r.IsRegion text) (h' : r'.IsRegion text)
    (same : r.start = r'.start) : r = r' := by
  obtain ⟨start, last⟩ := r
  obtain ⟨start', last'⟩ := r'
  obtain rfl : start = start' := same
  obtain rfl : last = last' := h.last.unique h'.last
  rfl

end Region

/-- The search of a text for regions, from a position on. -/
abbrev MeetsRegions (text : Text) : Nat → List Region → Prop :=
  Meets (fun r : Region => r.IsRegion text) Region.start Region.stop

/-! ## The search and the pattern -/

theorem located_region (text : Text) :
    Located region text (fun r : Region => r.IsRegion text) Region.start Region.stop
      fun _ => () := by
  rintro place ⟨⟩ rest
  rw [region_eq_some_iff]
  constructor
  · rintro ⟨inner, before, split, cut⟩
    have begins := drop_of_drop_eq split
    rw [← begins, cut?_drop_eq_some_iff endMarker_ne_nil] at cut
    obtain ⟨last, first, -, rfl⟩ := cut
    exact ⟨⟨place, last⟩, rfl, ⟨⟨inner, split.symm⟩, first⟩, rfl, rfl⟩
  · rintro ⟨r, rfl, ⟨⟨inner, split⟩, first⟩, -, rfl⟩
    have begins := drop_of_drop_eq split.symm
    refine ⟨inner, slice text (r.start + regionMarker.length) r.last, split.symm, ?_⟩
    rw [← begins, cut?_drop_eq_some_iff endMarker_ne_nil]
    exact ⟨r.last, first, rfl, rfl⟩

/-- A start marker with an end marker behind it opens a region. -/
theorem exists_isRegion {last : Nat} (marker : regionMarker <+: text.drop place)
    (le : place + regionMarker.length ≤ last) (ends : endMarker <+: text.drop last) :
    ∃ r : Region, r.start = place ∧ r.IsRegion text := by
  obtain ⟨first, isFirst⟩ := exists_firstFrom endMarker_ne_nil le ends
  exact ⟨⟨place, first⟩, rfl, marker, isFirst⟩

/-! ## Blocks and their regions -/

namespace Span

variable {s : Span}

/-- The region that a block takes. -/
def region (s : Span) : Region := ⟨s.start, s.bodyEnd⟩

@[simp] theorem region_start (s : Span) : s.region.start = s.start := rfl

@[simp] theorem region_stop (s : Span) : s.region.stop = s.stop := rfl

/-- No end marker starts with stars that end the header. -/
def Apart (s : Span) (text : Text) : Prop :=
  ∀ place, s.headerEnd ≤ place → place < s.headerEnd + stars.length →
    ¬ endMarker <+: text.drop place

theorem IsBlock.start_lt_stop (block : s.IsBlock text) : s.start < s.stop := by
  have := block.headerEnd.le
  have := block.bodyEnd.le
  rw [stop, length_endMarker]
  omega

theorem IsBlock.isPrefix_region (block : s.IsBlock text) :
    regionMarker <+: text.drop s.start :=
  (List.prefix_append _ _).trans (startMarker_eq ▸ block.start)

/-- An end marker starts with stars, so none starts inside a header. -/
theorem IsBlock.headerEnd_le (block : s.IsBlock text) {place : Nat}
    (le : s.start + regionMarker.length ≤ place) (ends : endMarker <+: text.drop place) :
    s.headerEnd ≤ place := by
  by_contra before
  have opens : stars <+: text.drop place := .trans (by decide) ends
  rcases Nat.eq_or_lt_of_le le with rfl | behind
  · -- Right behind the start of the marker stands its colon.
    have colon := getElem?_of_prefix_drop (i := 13) block.start (by decide)
    have star := getElem?_of_prefix_drop (i := 0) ends (by decide)
    rw [length_regionMarker, Nat.add_zero, colon] at star
    exact absurd star (by decide)
  · refine block.headerEnd.earlier place ?_ (Nat.lt_of_not_le before) opens
    rw [length_startMarker]
    rwa [length_regionMarker] at behind

/-- The region of a block is what a search for regions takes at its start, unless an end marker
shares the stars of the header. -/
theorem IsBlock.isRegion_iff (block : s.IsBlock text) :
    s.region.IsRegion text ↔ s.Apart text := by
  constructor
  · intro isRegion place le less ends
    have inHeader := block.headerEnd.le
    have inBody := block.bodyEnd.le
    refine isRegion.last.earlier place ?_ (less.trans_le inBody) ends
    rw [region_start, length_regionMarker]
    rw [length_startMarker] at inHeader
    omega
  · intro apart
    refine ⟨block.isPrefix_region, ?_, block.bodyEnd.stands, ?_⟩
    · have inHeader := block.headerEnd.le
      have inBody := block.bodyEnd.le
      rw [length_startMarker] at inHeader
      show s.start + _ ≤ s.bodyEnd
      rw [length_regionMarker]
      omega
    · intro other le less ends
      -- Not inside the header, so among its stars or in the body.
      have behind := block.headerEnd_le le ends
      by_cases shared : other < s.headerEnd + stars.length
      · exact apart other behind shared ends
      · exact block.bodyEnd.earlier other (Nat.le_of_not_lt shared) less ends

end Span

theorem Scan.le_start_of_mem (scan : Scan text place spans) {s : Span} (member : s ∈ spans) :
    place ≤ s.start :=
  (scan_iff_meets.mp scan).le_start_of_mem (fun _ block => block.start_lt_stop.le) member

/-- The start markers that an end marker follows, and the end markers behind headers, are those of
the blocks. -/
structure WellMarked (text : Text) (spans : List Span) : Prop where
  opened : ∀ start last, regionMarker <+: text.drop start →
    start + regionMarker.length ≤ last → endMarker <+: text.drop last →
    ∃ s ∈ spans, s.start ≤ start ∧ start < s.stop
  apart : ∀ s ∈ spans, s.Apart text

/-- A search for regions meets those of the blocks when every region from there on starts inside a
block. -/
theorem meetsRegions_of_scan (scan : Scan text place spans) (apart : ∀ s ∈ spans, s.Apart text)
    (opened : ∀ r : Region, place ≤ r.start → r.IsRegion text →
      ∃ s ∈ spans, s.start ≤ r.start ∧ r.start < s.stop) :
    MeetsRegions text place (spans.map Span.region) := by
  induction scan with
  | done =>
    refine .done fun r le stands => ?_
    obtain ⟨s, member, -⟩ := opened r le stands
    simp at member
  | @next place s spans le block _ more ih =>
    refine .next le (block.isRegion_iff.mpr (apart s List.mem_cons_self)) ?_ ?_
    · intro r le' less stands
      -- It would start inside this block or a later one, and none of them starts so early.
      obtain ⟨s', member, starts, -⟩ := opened r le' stands
      have bound : s.start ≤ s'.start := by
        rcases List.mem_cons.mp member with rfl | later
        · exact le_rfl
        · exact block.start_lt_stop.le.trans (more.le_start_of_mem later)
      exact absurd (bound.trans starts) (Nat.not_le_of_lt less)
    · refine ih (fun s' member => apart s' (List.mem_cons_of_mem _ member)) ?_
      intro r behind stands
      obtain ⟨s', member, starts, ends⟩ :=
        opened r ((le.trans block.start_lt_stop.le).trans behind) stands
      rcases List.mem_cons.mp member with rfl | later
      · exact absurd ends (Nat.not_lt_of_le behind)
      · exact ⟨s', later, starts, ends⟩

/-- The regions of a reply are those of its blocks exactly when the reply is well marked. -/
theorem regions_eq_iff {regions : List Region} (scan : Scan text 0 spans)
    (meets : MeetsRegions text 0 regions) :
    regions = spans.map Span.region ↔ WellMarked text spans := by
  constructor
  · rintro rfl
    constructor
    · intro start last marker le ends
      -- The marker opens a region, which is met or starts inside of one that is.
      obtain ⟨r, rfl, stands⟩ := exists_isRegion marker le ends
      obtain ⟨_, member, around⟩ := meets.exists_mem (Nat.zero_le _) stands
      obtain ⟨s, inSpans, rfl⟩ := List.mem_map.mp member
      exact ⟨s, inSpans, around⟩
    · intro s member
      exact (scan.isBlock_of_mem member).isRegion_iff.mp
        (meets.stands_of_mem (List.mem_map_of_mem member))
  · intro marked
    have meets' : MeetsRegions text 0 (spans.map Span.region) :=
      meetsRegions_of_scan scan marked.apart fun r _ stands =>
        marked.opened r.start r.last stands.start stands.last.le stands.last.stands
    exact meets.unique (fun _ _ stands stands' => stands.unique stands') meets'

/-! ## The explanation -/

theorem outside_regions (spans : List Span) (place : Nat) (text : Text) :
    outside Region.start Region.stop (spans.map Span.region) place text =
      outside Span.start Span.stop spans place text := by
  simp only [outside, List.all_map]
  rfl

/-- The explanation of a reply is the trimmed text outside of its regions. They are the regions of
the blocks that its files are read from exactly when the reply is well marked; then the explanation
is the trimmed text outside of these blocks. -/
theorem explanation_eq_outside (reply : Text) :
    ∃ (spans : List Span) (regions : List Region),
      (∀ other, Scan reply 0 other ↔ other = spans) ∧
      (∀ other, MeetsRegions reply 0 other ↔ other = regions) ∧
      explanation reply = trim (outside Region.start Region.stop regions 0 reply) ∧
      (regions = spans.map Span.region ↔ WellMarked reply spans) ∧
      (WellMarked reply spans →
        explanation reply = trim (outside Span.start Span.stop spans 0 reply)) := by
  obtain ⟨spans, scan⟩ := exists_scan reply 0
  obtain ⟨regions, meets⟩ := (located_region reply).exists_meets consuming_region 0
  have left : explanation reply = trim (outside Region.start Region.stop regions 0 reply) := by
    have removed := (located_region reply).removeAll_eq consuming_region meets
    rw [List.drop_zero] at removed
    rw [explanation, removed]
  refine ⟨spans, regions, fun other => ⟨fun h => h.unique scan, fun same => same ▸ scan⟩,
    fun other => ⟨fun h => ?_, fun same => same ▸ meets⟩, left, regions_eq_iff scan meets, ?_⟩
  · exact h.unique (fun _ _ stands stands' => stands.unique stands') meets
  · -- What is taken out was found without the blocks; here it turns out to be theirs.
    intro marked
    rw [left, (regions_eq_iff scan meets).mpr marked, outside_regions]

/-- A text that ends with the only block from a position on. -/
theorem scan_of_ends {s : Span} (le : place ≤ s.start) (block : s.IsBlock text)
    (first : ∀ other < s.start, place ≤ other → ¬ startMarker <+: text.drop other)
    (ends : text.length ≤ s.stop) : Scan text place [s] := by
  refine .next le block (fun other le less block' => first _ less le block'.start) ?_
  refine .done fun other behind block' => ?_
  have start := block'.start
  rw [List.drop_eq_nil_of_le (ends.trans behind), List.prefix_nil] at start
  exact absurd start (by decide)

/-- A reply of two files with prose around them is well marked, and its explanation is the prose. -/
theorem explanation_eq_outside_of_two_files :
    let reply : Text := "Two files:\n***FILE_START: a***\nx\n***FILE_END***\nand\n" ++
      "***FILE_START: b***\ny\n***FILE_END***"
    let spans : List Span := [⟨11, 27, 33⟩, ⟨52, 68, 74⟩]
    Scan reply 0 spans ∧ WellMarked reply spans ∧
      explanation reply = trim (outside Span.start Span.stop spans 0 reply) ∧
      explanation reply = "Two files:\n\nand" := by
  intro reply spans
  have block : Span.IsBlock ⟨11, 27, 33⟩ reply := by decide +kernel
  have block' : Span.IsBlock ⟨52, 68, 74⟩ reply := by decide +kernel
  have before : ∀ other < 11, ¬ startMarker <+: reply.drop other := by decide +kernel
  have scan : Scan reply 0 spans := by
    refine .next (Nat.zero_le _) block (fun other _ less earlier => before _ less earlier.start) ?_
    exact scan_of_ends (by decide) block' (by decide +kernel) (by decide +kernel)
  have marked : WellMarked reply spans := by
    constructor
    · -- The only start markers are those of the two files.
      intro start last marker _ _
      have inside : start < reply.length := by
        by_contra behind
        rw [List.drop_eq_nil_of_le (Nat.le_of_not_lt behind), List.prefix_nil] at marker
        exact absurd marker (by decide)
      have files : ∀ start < reply.length, regionMarker <+: reply.drop start →
          start = 11 ∨ start = 52 := by decide +kernel
      rcases files start inside marker with rfl | rfl
      · exact ⟨⟨11, 27, 33⟩, by simp [spans], by decide, by decide⟩
      · exact ⟨⟨52, 68, 74⟩, by simp [spans], by decide, by decide⟩
    · -- No end marker starts inside the stars that close a header.
      intro s member place le less
      rcases List.mem_pair.mp member with rfl | rfl
      · have clear : ∀ place < 30, 27 ≤ place → ¬ endMarker <+: reply.drop place := by
          decide +kernel
        exact clear place less le
      · have clear : ∀ place < 71, 68 ≤ place → ¬ endMarker <+: reply.drop place := by
          decide +kernel
        exact clear place less le
  obtain ⟨found, regions, scans, -, -, -, left⟩ := explanation_eq_outside reply
  obtain rfl := (scans spans).mp scan
  exact ⟨scan, marked, left marked, by decide +kernel⟩

/-- A start marker that is only mentioned takes the prose up to the next file out, and a header whose
stars are the first of an end marker leaves the end of its file in the explanation. -/
theorem explanation_of_loose_markers :
    (let reply : Text := "Use ***FILE_START.\n***FILE_START: a***\nx\n***FILE_END***"
     Scan reply 0 [⟨19, 35, 41⟩] ∧ explanation reply = "Use" ∧
       trim (outside Span.start Span.stop [⟨19, 35, 41⟩] 0 reply) = "Use ***FILE_START.") ∧
    (let reply : Text := "***FILE_START: a***FILE_END*** b ***FILE_END***"
     Scan reply 0 [⟨0, 16, 33⟩] ∧ explanation reply = "b ***FILE_END***" ∧
       trim (outside Span.start Span.stop [⟨0, 16, 33⟩] 0 reply) = "") := by
  constructor
  · intro reply
    have block : Span.IsBlock ⟨19, 35, 41⟩ reply := by decide +kernel
    have scan := scan_of_ends (Nat.zero_le _) block (by decide +kernel) (by decide +kernel)
    exact ⟨scan, by decide +kernel, by decide +kernel⟩
  · intro reply
    have block : Span.IsBlock ⟨0, 16, 33⟩ reply := by decide +kernel
    have scan := scan_of_ends (Nat.zero_le _) block (by decide +kernel) (by decide +kernel)
    exact ⟨scan, by decide +kernel, by decide +kernel⟩

end SandboxPreview.Reply
