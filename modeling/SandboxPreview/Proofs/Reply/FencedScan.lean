/-
# The scan for fenced blocks

Which files a reply without delimited ones holds, said by positions. A fence opens where a run of at
least three backticks goes up to another character, a tag and a line feed come next, and as many
backticks stand together somewhere behind the line feed; the first of those places ends the block. A
run of backticks that opens nothing is tried again from its next one on, so it may open a block with
fewer.

## Main definitions

* `FenceSpan.IsFence`: a fenced block stands at given positions;
* `FenceSpan.artifact`: its file.

## Main results

* `fence_eq_some_iff`: a fenced block is read by one cut;
* `extract_eq_fence_scan`: the files of a reply without delimited ones are those of the fenced
  blocks that the scan meets.
-/
import SandboxPreview.Proofs.Reply.FencedName
import SandboxPreview.Proofs.Text.Scanning
import SandboxPreview.Reply.Extraction

namespace SandboxPreview.Reply

open Pattern Text

variable {text rest inner : Text} {place count : Nat}

/-! ## The pattern of a fence -/

/-- A run of backticks. -/
def ticks (count : Nat) : Text := List.replicate count '\x60'

@[simp] theorem length_ticks (count : Nat) : (ticks count).length = count := List.length_replicate

theorem eq_ticks {run : Text} (all : ∀ c ∈ run, isTick c = true) : run = ticks run.length :=
  List.eq_replicate_iff.mpr ⟨rfl, fun c member => beq_iff_eq.mp (all c member)⟩

theorem isTick_of_mem_ticks {c : Char} (member : c ∈ ticks count) : isTick c = true := by
  rw [List.eq_of_mem_replicate member]
  rfl

/-- A tag and a line feed do not start with a backtick. -/
theorem not_isTick_of_head? {tag : Text} (tagChars : ∀ c ∈ tag, isTagChar c = true) {c : Char}
    (head : (tag ++ '\n' :: inner).head? = some c) : isTick c = false := by
  cases tag with
  | nil =>
    obtain rfl : '\n' = c := by simpa using head
    decide
  | cons d tag =>
    obtain rfl : d = c := by simpa using head
    have member := tagChars d (by simp)
    rw [Bool.eq_false_iff]
    intro tick
    rw [beq_iff_eq.mp tick] at member
    exact absurd member (by decide)

/-- A fence from its tag on; `opening` are its backticks. -/
def readTag (start opening : Text) : Reader Fence :=
  mark fun tag => greedy isTagChar <| mark fun tagEnd => literal "\n" <| mark fun body =>
  lazily anyChar <| mark fun bodyEnd => literal opening fun rest =>
    some (⟨start, between tag tagEnd, between body bodyEnd⟩, rest)

theorem readTag_eq_some_iff {start opening : Text} {f : Fence} :
    readTag start opening text = some (f, rest) ↔ ∃ inner, text = f.tag ++ '\n' :: inner ∧
      (∀ c ∈ f.tag, isTagChar c = true) ∧ f.start = start ∧
        cut? opening inner = some (f.body, rest) := by
  rw [readTag, mark]
  constructor
  · intro found
    obtain ⟨tag, _, rfl, tagChars, found⟩ := exists_of_greedy found
    obtain ⟨inner, rfl, found⟩ := literal_eq_some_iff.mp found
    rw [between_append,
      lazily_literal_between opening inner fun body => (⟨start, tag, body⟩ : Fence)] at found
    obtain ⟨⟨body, rest⟩, cut, same⟩ := Option.map_eq_some_iff.mp found
    obtain ⟨rfl, rfl⟩ := Prod.mk.inj same
    exact ⟨inner, rfl, tagChars, rfl, cut⟩
  · rintro ⟨inner, rfl, tagChars, rfl, cut⟩
    refine greedy_append tagChars (fun c head => ?_) ?_
    · -- The tag ends at the line feed.
      obtain rfl : '\n' = c := by simpa using head
      decide
    · rw [mark, show '\n' :: inner = "\n".toList ++ inner from rfl, literal_append, between_append,
        lazily_literal_between opening inner fun body => (⟨f.start, f.tag, body⟩ : Fence), cut]
      rfl

theorem fence_eq (text : Text) :
    fence text = (each [isTick, isTick, isTick] <| greedy isTick fun tag =>
      readTag text (between text tag) tag) text := rfl

/-- A fenced block: backticks, a tag, a line feed, and what lies before as many backticks again. -/
theorem fence_eq_some_iff {f : Fence} :
    fence text = some (f, rest) ↔ ∃ count inner, 3 ≤ count ∧
      text = ticks count ++ (f.tag ++ '\n' :: inner) ∧ (∀ c ∈ f.tag, isTagChar c = true) ∧
        f.start = text ∧ cut? (ticks count) inner = some (f.body, rest) := by
  rw [fence_eq]
  constructor
  · intro found
    obtain ⟨three, _, split, areTicks, found⟩ := exists_of_each found
    obtain ⟨more, tag, rfl, moreTicks, found⟩ := exists_of_greedy found
    obtain ⟨a, b, c, rfl⟩ := List.length_eq_three.mp areTicks.length_eq.symm
    have run : a :: b :: c :: more = ticks (more.length + 3) := by
      refine eq_ticks ?_
      simpa [List.forall₂_cons, and_assoc] using And.intro areTicks moreTicks
    have whole : text = ticks (more.length + 3) ++ tag := by
      rw [split, ← run]
      rfl
    rw [whole, between_append] at found
    obtain ⟨inner, rfl, tagChars, start, cut⟩ := readTag_eq_some_iff.mp found
    exact ⟨_, inner, by omega, whole, tagChars, start.trans whole.symm, cut⟩
  · rintro ⟨count, inner, three, whole, tagChars, start, cut⟩
    obtain ⟨more, rfl⟩ := Nat.exists_eq_add_of_le three
    have first : List.Forall₂ (fun p c => p c = true) [isTick, isTick, isTick] (ticks 3) := by
      decide
    have split : text = ticks 3 ++ (ticks more ++ (f.tag ++ '\n' :: inner)) := by
      rw [whole, ticks, List.replicate_add, List.append_assoc]
      rfl
    conv_lhs => rw [split]
    rw [each_append first]
    refine greedy_append (fun c => isTick_of_mem_ticks) (fun c => not_isTick_of_head? tagChars) ?_
    rw [← split, whole, between_append]
    exact readTag_eq_some_iff.mpr ⟨inner, rfl, tagChars, start.trans whole, cut⟩

/-! ## Positions of a fence -/

/-- Where a fence opens and with how many backticks, where the line feed behind its tag stands, and
where its body ends. -/
structure FenceSpan where
  start : Nat
  count : Nat
  tagEnd : Nat
  bodyEnd : Nat
  deriving DecidableEq

namespace FenceSpan

variable {s s' : FenceSpan}

/-- The text between the backticks and the line feed. -/
def tag (s : FenceSpan) (text : Text) : Text := slice text (s.start + s.count) s.tagEnd

/-- The text between the line feed and the next run of as many backticks. -/
def body (s : FenceSpan) (text : Text) : Text := slice text (s.tagEnd + 1) s.bodyEnd

/-- The position behind the backticks that end the block. -/
def stop (s : FenceSpan) : Nat := s.bodyEnd + s.count

/-- A fenced block stands at these positions. -/
structure IsFence (s : FenceSpan) (text : Text) : Prop where
  three : 3 ≤ s.count
  run : ticks s.count <+: text.drop s.start
  runEnd : text[s.start + s.count]? ≠ some '\x60'
  le : s.start + s.count ≤ s.tagEnd
  tagChars : ∀ c ∈ s.tag text, isTagChar c = true
  lineFeed : text[s.tagEnd]? = some '\n'
  bodyEnd : FirstFrom (ticks s.count) text (s.tagEnd + 1) s.bodyEnd

/-- A run of backticks that goes up to another character has one length. -/
theorem IsFence.count_le (h : s.IsFence text) (h' : s'.IsFence text) (same : s.start = s'.start) :
    s'.count ≤ s.count := by
  by_contra longer
  rw [Nat.not_le] at longer
  have inRun := getElem?_of_prefix_drop h'.run (i := s.count) (by simpa using longer)
  exact h.runEnd (by rw [same, inRun, ticks, List.getElem?_replicate_of_lt longer])

/-- A tag goes up to the first line feed. -/
theorem IsFence.tagEnd_le (h : s.IsFence text) (h' : s'.IsFence text)
    (same : s.start + s.count = s'.start + s'.count) : s'.tagEnd ≤ s.tagEnd := by
  by_contra longer
  rw [Nat.not_le] at longer
  have inTag : '\n' ∈ s'.tag text := mem_slice (same ▸ h.le) longer h.lineFeed
  exact absurd (h'.tagChars '\n' inTag) (by decide)

theorem IsFence.unique (h : s.IsFence text) (h' : s'.IsFence text) (same : s.start = s'.start) :
    s = s' := by
  have counts : s.count = s'.count :=
    le_antisymm (h'.count_le h same.symm) (h.count_le h' same)
  have openings : s.start + s.count = s'.start + s'.count := by rw [same, counts]
  have tagEnds : s.tagEnd = s'.tagEnd :=
    le_antisymm (h'.tagEnd_le h openings.symm) (h.tagEnd_le h' openings)
  have last := h.bodyEnd
  rw [counts, tagEnds] at last
  have bodyEnds := last.unique h'.bodyEnd
  cases s
  cases s'
  simp_all

end FenceSpan

/-- What the pattern of a fence finds at a position. -/
theorem fence_drop_eq_some_iff {f : Fence} :
    fence (text.drop place) = some (f, rest) ↔
      ∃ s : FenceSpan, s.start = place ∧ s.IsFence text ∧
        f = ⟨text.drop s.start, s.tag text, s.body text⟩ ∧ rest = text.drop s.stop := by
  rw [fence_eq_some_iff]
  constructor
  · rintro ⟨count, inner, three, split, tagChars, start, cut⟩
    -- The line feed stands behind the backticks and the tag.
    have opening : text.drop (place + count) = f.tag ++ '\n' :: inner := by
      simpa using drop_of_drop_eq split
    have ending := drop_of_drop_eq opening
    have behind : text.drop (place + count + f.tag.length + 1) = inner := by
      rw [← List.drop_drop, ending, List.drop_one, List.tail_cons]
    rw [← behind] at ending cut
    have nonempty : ticks count ≠ [] := by simp [ticks]; omega
    obtain ⟨bodyEnd, first, hbody, rfl⟩ := (cut?_drop_eq_some_iff nonempty).mp cut
    have tag : slice text (place + count) (place + count + f.tag.length) = f.tag :=
      slice_of_drop_eq opening
    refine ⟨⟨place, count, place + count + f.tag.length, bodyEnd⟩, rfl,
      ⟨three, ⟨_, split.symm⟩, fun tick => ?_, Nat.le_add_right _ _, ?_,
        drop_eq_cons_iff.mp ending, first⟩, ?_, ?_⟩
    · have head : (f.tag ++ '\n' :: inner).head? = some '\x60' := by
        rw [← opening, drop_eq_cons_iff.mpr tick]
        rfl
      exact absurd (not_isTick_of_head? tagChars head) (by decide)
    · intro c member
      rw [FenceSpan.tag, tag] at member
      exact tagChars c member
    · obtain ⟨start', tag', body'⟩ := f
      simp only [Fence.mk.injEq]
      exact ⟨start, tag.symm, hbody⟩
    · simp [FenceSpan.stop]
  · rintro ⟨s, rfl, stands, rfl, rfl⟩
    obtain ⟨behind, split⟩ := stands.run
    have opening : text.drop (s.start + s.count) = behind := by
      simpa using drop_of_drop_eq split.symm
    have ending := drop_eq_cons_iff.mpr stands.lineFeed
    have nonempty : ticks s.count ≠ [] := by have := stands.three; simp [ticks]; omega
    refine ⟨s.count, text.drop (s.tagEnd + 1), stands.three, ?_, stands.tagChars, rfl, ?_⟩
    · rw [← split, ← ending, FenceSpan.tag, slice_append_drop text stands.le, opening]
    · rw [cut?_drop_eq_some_iff nonempty]
      exact ⟨s.bodyEnd, stands.bodyEnd, rfl, by rw [FenceSpan.stop, length_ticks]⟩

theorem located_fence (text : Text) :
    Located fence text (fun s : FenceSpan => s.IsFence text) FenceSpan.start FenceSpan.stop
      fun s => ⟨text.drop s.start, s.tag text, s.body text⟩ := fun _ _ _ => fence_drop_eq_some_iff

theorem consuming_fence : Consuming fence := by
  intro text f rest found
  obtain ⟨count, inner, three, split, -, -, cut⟩ := fence_eq_some_iff.mp found
  rw [split, eq_append_of_cut? cut]
  simp only [List.length_append, List.length_cons, length_ticks]
  omega

/-! ## The files of the blocks -/

/-- The file of a fenced block, at its place among all of them. -/
def FenceSpan.artifact (s : FenceSpan) (text : Text) (place : Nat) : Artifact where
  name := (nameHint? (text.take s.start)).getD
    ("file_".toList ++ ofNat place ++ ['.'] ++ extensionOf (s.tag text))
  language := if s.tag text = [] then "text" else s.tag text
  content := trim (s.body text)

theorem extensionOf_language (tag : Text) :
    extensionOf (if tag = [] then "text" else tag) = extensionOf tag := by
  by_cases empty : tag = []
  · rw [if_pos empty, empty]
    decide
  · rw [if_neg empty]

theorem artifact_eq (s : FenceSpan) (text : Text) (place : Nat) :
    (⟨text.drop s.start, s.tag text, s.body text⟩ : Fence).artifact text place =
      s.artifact text place := by
  rw [Fence.artifact, FenceSpan.artifact, between_drop, ← extensionOf_language (s.tag text)]
  dsimp only
  cases nameHint? (text.take s.start) <;> rfl

/-- An artifact with a name passes the check of artifacts. -/
theorem check_toJson {a : Artifact} (named : a.name ≠ []) :
    Artifact.check Artifact.notRecord [] a.toJson = .ok a := by
  obtain ⟨name, language, content⟩ := a
  obtain ⟨c, name, rfl⟩ := List.exists_cons_of_ne_nil named
  rfl

/-- The scan of a reply for fenced blocks has one outcome. When no files are delimited, the files of
the reply are those of the fenced blocks that the scan meets, in order; each of them has a name, so
each passes the check of artifacts. -/
theorem extract_eq_fence_scan (reply : Text) (undelimited : delimited reply = []) :
    ∃ spans : List FenceSpan,
      (∀ other, Meets (fun s : FenceSpan => s.IsFence reply) FenceSpan.start FenceSpan.stop 0 other ↔
        other = spans) ∧
      extract reply = spans.mapIdx (fun i s => s.artifact reply (i + 1)) ∧
      ∀ a ∈ extract reply, a.name ≠ [] ∧ Artifact.check Artifact.notRecord [] a.toJson = .ok a := by
  obtain ⟨spans, meets⟩ := (located_fence reply).exists_meets consuming_fence 0
  have found := (located_fence reply).findAll_eq consuming_fence meets
  rw [List.drop_zero] at found
  have whole : extract reply = fenced reply := by rw [extract, undelimited]
  refine ⟨spans, fun other => ⟨fun h => ?_, fun same => same ▸ meets⟩, ?_, fun a member => ?_⟩
  · exact h.unique (fun s s' stands stands' => stands.unique stands') meets
  · rw [whole, fenced, fences, found]
    refine List.ext_getElem? fun i => ?_
    simp [artifact_eq, Function.comp_def]
  · have named := (isName_of_mem_fenced (whole ▸ member)).1
    exact ⟨named, check_toJson named⟩

/-- Four backticks that are not met again open a block with the last three of them. -/
theorem extract_eq_fence_scan_retried :
    let reply : Text := "````\nab```\nsrc/b.ts:\n```ts\nx\n```"
    ∃ first second : FenceSpan,
      Meets (fun s : FenceSpan => s.IsFence reply) FenceSpan.start FenceSpan.stop 0 [first, second] ∧
      first.artifact reply 1 = ⟨"file_1.txt", "text", "ab"⟩ ∧
      second.artifact reply 2 = ⟨"src/b.ts", "ts", "x"⟩ := by
  intro reply
  obtain ⟨spans, only, files, -⟩ := extract_eq_fence_scan reply (by decide +kernel)
  have extracted : extract reply = [⟨"file_1.txt", "text", "ab"⟩, ⟨"src/b.ts", "ts", "x"⟩] := by
    decide +kernel
  rw [extracted] at files
  have count : spans.length = 2 := by simpa using (congrArg List.length files).symm
  obtain ⟨first, second, rfl⟩ := List.length_eq_two.mp count
  obtain ⟨one, more⟩ := List.cons.inj files
  exact ⟨first, second, (only _).mpr rfl, one.symm, (List.cons.inj more).1.symm⟩

end SandboxPreview.Reply
