/-
# Reading written files again

The files of a reply are written as blocks and read once more, as when they are fed back to the
model. Their names and languages stay, unless a name ends in a star. A content that was inside a
fence can start or end with blanks, or be fenced once more; reading it again takes off the blanks
and one more fence.

## Main definitions

* `reread`: a file after it was written and read again.

## Main results

* `legible_of_mem_delimited`: the block of every file is found again;
* `extract_again`: what the second reading gives, and when it changes nothing.
-/
import SandboxPreview.Proofs.Reply.RoundTrip

namespace SandboxPreview.Reply

open Pattern Text

variable {a : Artifact} {artifacts : List Artifact} {text : Text}

/-! ## One file -/

/-- The file without the blanks around its content, and without one more fence. -/
def reread (a : Artifact) : Artifact := { a with content := unfence (trim a.content) }

theorem reread_eq_self_iff :
    reread a = a ↔ trim a.content = a.content ∧ ¬ OpensFence a.content ∧ ¬ ClosesFence a.content := by
  obtain ⟨name, language, content⟩ := a
  simp only [reread, Artifact.mk.injEq, true_and]
  constructor
  · intro same
    -- Nothing is added, so neither of both steps takes anything off.
    have trimmed : trim content = content := by
      refine trim_eq_self_of_length ?_
      conv_lhs => rw [← same]
      exact length_unfence_le _
    rw [trimmed] at same
    exact ⟨trimmed, (unfence_eq_self_iff trimmed).mp same⟩
  · rintro ⟨trimmed, fenceless⟩
    rw [trimmed]
    exact (unfence_eq_self_iff trimmed).mpr fenceless

theorem legible_of_mem_delimited (member : a ∈ delimited text) : Legible a := by
  obtain ⟨b, inBlocks, file⟩ := List.mem_filterMap.mp member
  obtain ⟨start, rest, found⟩ := exists_drop_of_mem_blocks inBlocks
  obtain ⟨nonempty, hname, language, hcontent⟩ := artifact?_eq_some_iff.mp file
  obtain ⟨inner, header, middle, -, cut, line, hheader, last⟩ := block_eq_some_iff.mp found
  have name : a.name = trim header := by rw [hname, hheader, trim_trim]
  exact {
    name_ne_nil := nonempty
    name_trim := by rw [name, trim_trim]
    name_line := name ▸ line
    name_stars := fun stands =>
      not_infix_of_cut? cut stars_ne_nil (stands.trans (name ▸ trim_isInfix))
    content_marker := by
      intro stands
      refine not_infix_of_cut? last endMarker_ne_nil (stands.trans ?_)
      rw [hcontent]
      exact (unfence_isInfix _).trans trim_isInfix
    language }

/-- The block is found again. When its name ends in stars, these come to stand in the body. -/
theorem exists_block_core (legible : Legible a) :
    ∃ b, ∀ rest, block (core a ++ rest) = some (b, rest) := by
  cases cut : cut? stars (' ' :: a.name ++ stars) with
  | none => exact absurd (List.suffix_append _ _).isInfix (cut?_eq_none_iff.mp cut)
  | some parts =>
    obtain ⟨header, more⟩ := parts
    have start : header <+: ' ' :: a.name := prefix_of_cut? cut (List.append_nil _).symm
    have line : '\n' ∉ trim header := by
      intro inside
      rcases List.mem_cons.mp (start.subset (trim_isInfix.subset inside)) with space | inName
      · exact absurd space (by decide)
      · exact legible.name_line inName
    -- What is left of the name and its stars does not end the body.
    have inHeader : more <:+: ':' :: ' ' :: a.name ++ stars := by
      refine List.IsSuffix.isInfix (List.IsSuffix.trans ⟨header ++ stars, ?_⟩ (List.suffix_cons _ _))
      exact (eq_append_of_cut? cut).symm
    have missing : ¬ endMarker <:+: more ++ '\n' :: a.content := by
      rw [infix_append_cons_iff lineFeed_not_mem_endMarker]
      exact not_or_intro (fun stands => not_infix_header legible (stands.trans inHeader))
        legible.content_marker
    refine ⟨⟨trim header, more ++ '\n' :: a.content ++ ['\n']⟩, fun rest => ?_⟩
    have whole : core a ++ rest = startMarker ++
        (' ' :: a.name ++ stars ++ ('\n' :: a.content ++ '\n' :: (endMarker ++ rest))) := by
      rw [core_append]
      simp only [List.append_assoc]
    refine block_eq_some_iff.mpr ⟨_, _, _, whole, cut?_append cut _, line, rfl, ?_⟩
    rw [← List.append_assoc]
    exact cut?_append_cons lineFeed_not_mem_endMarker missing

/-! ## All files -/

/-- Written blocks are read one by one. -/
theorem delimited_serialize {read : Artifact → Block}
    (reads : ∀ a ∈ artifacts, ∀ rest, block (core a ++ rest) = some (read a, rest)) :
    delimited (serialize artifacts) = artifacts.filterMap fun a => (read a).artifact? := by
  have woven : serialize artifacts = weave [] (artifacts.map fun a => (a, [])) := by
    simp [serialize, weave, List.flatMap_map]
  have found : blocks (serialize artifacts) = artifacts.map read := by
    rw [woven, blocks, findAll, segments_weave consuming_block
      (fun _ _ => regionMarker_prefix_of_block) read (by simpa using reads) (by decide)
      (by simp [List.infix_nil])]
    simp [List.filterMap_flatMap, List.flatMap_map, List.filterMap_cons, Segment.match?,
      ← List.map_eq_flatMap]
  rw [delimited, found, List.filterMap_map]
  rfl

theorem delimited_serialize_of_legible (legible : ∀ a ∈ artifacts, Legible a)
    (ends : ∀ a ∈ artifacts, a.name.getLast? ≠ some '*') :
    delimited (serialize artifacts) = artifacts.map reread := by
  rw [delimited_serialize fun a member => block_core (legible a member) (ends a member),
    List.filterMap_eq_map_iff_forall_eq_some]
  intro a member
  have written := legible a member
  refine artifact?_eq_some_iff.mpr ⟨written.name_ne_nil, written.name_trim.symm, written.language, ?_⟩
  rw [trim_between_lineFeeds]
  rfl

theorem extract_of_delimited {reply : Text} (nonempty : delimited reply ≠ []) :
    extract reply = delimited reply := by
  rw [extract]
  split
  case h_1 empty => exact absurd empty nonempty
  case h_2 => rfl

/-- Files that are read as they were written are writable, each for itself. -/
theorem writable_of_delimited_serialize (legible : ∀ a ∈ artifacts, Legible a)
    (same : delimited (serialize artifacts) = artifacts) : ∀ a ∈ artifacts, Writable a := by
  have found (a : Artifact) : ∃ b, Legible a → ∀ rest, block (core a ++ rest) = some (b, rest) := by
    by_cases written : Legible a
    · obtain ⟨b, reads⟩ := exists_block_core written
      exact ⟨b, fun _ => reads⟩
    · exact ⟨⟨[], []⟩, fun again => absurd again written⟩
  choose read reads using found
  rw [delimited_serialize fun a member => reads a (legible a member)] at same
  have each : ∀ a ∈ artifacts, (read a).artifact? = some a :=
    List.filterMap_eq_map_iff_forall_eq_some.mp (same.trans (List.map_id _).symm)
  exact fun a member => writable_of_block_core (reads a (legible a member) ['\n']) (each a member)

/-- The files of a reply, written and read again, are as they were but for their contents, from
which the blanks around them and one more fence are taken, when no name ends in a star. They are
exactly as they were when in addition no content has such blanks or either end of a fence, and not
otherwise. -/
theorem extract_again (text : Text) (named : ∃ b ∈ blocks text, trim b.header ≠ []) :
    ((∀ a ∈ extract text, a.name.getLast? ≠ some '*') →
      extract (serialize (extract text)) = (extract text).map reread) ∧
    (extract (serialize (extract text)) = extract text ↔ ∀ a ∈ extract text,
      a.name.getLast? ≠ some '*' ∧ trim a.content = a.content ∧ ¬ OpensFence a.content ∧
        ¬ ClosesFence a.content) := by
  have nonempty : delimited text ≠ [] := by
    obtain ⟨b, member, name⟩ := named
    have file : b.artifact? = some ⟨trim b.header, languageOf _, unfence _⟩ :=
      artifact?_eq_some_iff.mpr ⟨name, rfl, rfl, rfl⟩
    exact List.ne_nil_of_mem (List.mem_filterMap.mpr ⟨b, member, file⟩)
  rw [extract_of_delimited nonempty]
  have legible (a : Artifact) (member : a ∈ delimited text) : Legible a :=
    legible_of_mem_delimited member
  have again (ends : ∀ a ∈ delimited text, a.name.getLast? ≠ some '*') :
      extract (serialize (delimited text)) = (delimited text).map reread := by
    have read := delimited_serialize_of_legible legible ends
    rw [extract_of_delimited (by simpa [read] using nonempty), read]
  refine ⟨again, fun same => ?_, fun kept => ?_⟩
  · have writable : ∀ a ∈ delimited text, Writable a := by
      by_cases blank : delimited (serialize (delimited text)) = []
      · -- Read by their fences, the files would have names without stars, so no block would be lost.
        have ends (a : Artifact) (member : a ∈ delimited text) : a.name.getLast? ≠ some '*' := by
          rw [← same, extract, blank] at member
          exact fun last => not_mem_of_isName (isName_of_mem_fenced member) isNameLetter_star
            (List.mem_of_getLast? last)
        rw [delimited_serialize_of_legible legible ends, List.map_eq_nil_iff] at blank
        exact absurd blank nonempty
      · rw [extract_of_delimited blank] at same
        exact writable_of_delimited_serialize legible same
    intro a member
    have written := writable a member
    exact ⟨written.name_end, written.content_trim,
      (unfence_eq_self_iff written.content_trim).mp written.content_unfence⟩
  · rw [again fun a member => (kept a member).1]
    refine (List.map_congr_left fun a member => ?_).trans (List.map_id _)
    exact reread_eq_self_iff.mpr (kept a member).2

/-- A fence can keep blanks, and a further fence, around a content for one reading only. -/
theorem extract_again_fenced :
    let text : Text := "***FILE_START:a***```\n x\n```***FILE_END***".toList ++
      "***FILE_START:b***```\n```\ny\n```\n```***FILE_END***".toList
    extract text = [⟨"a", "a", " x"⟩, ⟨"b", "b", "```\ny\n```"⟩] ∧
      extract (serialize (extract text)) = [⟨"a", "a", "x"⟩, ⟨"b", "b", "y"⟩] := by
  intro text
  have first : extract text = [⟨"a", "a", " x"⟩, ⟨"b", "b", "```\ny\n```"⟩] := by decide +kernel
  refine ⟨first, ?_⟩
  rw [(extract_again text (by decide +kernel)).1 (by rw [first]; decide), first]
  decide

/-- Reading again does not always give the same. -/
theorem extract_again_ne :
    ¬ ∀ text : Text, (∃ b ∈ blocks text, trim b.header ≠ []) →
      extract (serialize (extract text)) = extract text := by
  intro stable
  have same := stable "***FILE_START: a.py***\n```py\n  x\n```\n***FILE_END***".toList
    (by decide +kernel)
  revert same
  decide +kernel

end SandboxPreview.Reply
