/-
# Reading a text part by part

A text that is put together from parts is searched part by part when the pattern matches each part
as a whole or starts at none of its characters, whatever parts follow. What is found and what is
put in the places of matches is then known for each part on its own.

## Main definitions

* `Advancing`: a pattern that hands on an end of its text;
* `Reads`: what a pattern makes of one part.

## Main results

* `segments_flatMap`: a text is cut part by part when each part is;
* `replaceAll_flatMap`, `findAll_flatMap`: the search through all parts;
* `first?_eq_head?`: the leftmost match is the first of all.
-/
import SandboxPreview.Proofs.Text.Replacement

namespace SandboxPreview.Pattern

variable {α σ : Type} {p : Char → Bool} {word text rest part : Text}

/-! ## Patterns hand on an end of their text -/

/-- What is left behind a match is an end of the text. -/
def Advancing (next : Reader α) : Prop :=
  ∀ text a rest, next text = some (a, rest) → rest <:+ text

section

variable {next : Reader α}

theorem advancing_some (value : Text → α) : Advancing fun rest => some (value rest, rest) := by
  intro text a rest found
  obtain rfl : text = rest := congrArg Prod.snd (Option.some.inj found)
  exact List.suffix_rfl

theorem Advancing.literal (advancing : Advancing next) (word : Text) :
    Advancing (literal word next) := by
  intro text a rest found
  obtain ⟨behind, rfl, more⟩ := literal_eq_some_iff.mp found
  exact (advancing _ _ _ more).trans (List.suffix_append _ _)

theorem Advancing.one (advancing : Advancing next) (p : Char → Bool) : Advancing (one p next) := by
  intro text a rest found
  obtain ⟨c, behind, rfl, -, more⟩ := exists_of_one found
  exact (advancing _ _ _ more).trans (List.suffix_cons c behind)

theorem Advancing.optionally (advancing : Advancing next) (p : Char → Bool) :
    Advancing (optionally p next) := by
  intro text a rest found
  rcases orElse_eq_some_iff.mp found with taken | ⟨-, left⟩
  · exact advancing.one p _ _ _ taken
  · exact advancing _ _ _ left

theorem Advancing.greedy (advancing : Advancing next) (p : Char → Bool) :
    Advancing (greedy p next) := by
  intro text a rest found
  obtain ⟨run, behind, rfl, -, more⟩ := exists_of_greedy found
  exact (advancing _ _ _ more).trans (List.suffix_append _ _)

theorem Advancing.lazily (advancing : Advancing next) (p : Char → Bool) :
    Advancing (lazily p next) := by
  intro text a rest found
  obtain ⟨run, behind, rfl, -, more⟩ := exists_of_lazily found
  exact (advancing _ _ _ more).trans (List.suffix_append _ _)

theorem Advancing.lazily₁ (advancing : Advancing next) (p : Char → Bool) :
    Advancing (lazily₁ p next) :=
  (advancing.lazily p).one p

theorem Advancing.greedy₁ (advancing : Advancing next) (p : Char → Bool) :
    Advancing (greedy₁ p next) :=
  (advancing.greedy p).one p

theorem Advancing.mark {next : Text → Reader α} (advancing : ∀ place, Advancing (next place)) :
    Advancing (mark next) := fun text => advancing text text

theorem Advancing.consuming (advancing : Advancing next) (nonempty : word ≠ []) :
    Consuming (Pattern.literal word next) := by
  intro text a rest found
  obtain ⟨behind, rfl, more⟩ := literal_eq_some_iff.mp found
  have short := (advancing _ _ _ more).length_le
  have positive := List.length_pos_iff.mpr nonempty
  rw [List.length_append]
  omega

end

/-! ## One part -/

variable {pattern : Reader α} {f : α → Text}

/-- The pattern matches the part as a whole, or at none of its characters, when `rest` follows. -/
def Reads (pattern : Reader α) (part rest : Text) : Option α → Prop
  | some a => pattern (part ++ rest) = some (a, rest)
  | none => ∀ tail, tail ≠ [] → tail <:+ part → pattern (tail ++ rest) = none

theorem segments_of_reads (consuming : Consuming pattern) {result : Option α}
    (reads : Reads pattern part rest result) :
    segments pattern (part ++ rest) =
      result.elim (part.map .plain) (fun a => [.found a]) ++ segments pattern rest := by
  cases result with
  | some a => exact segments_of_some consuming reads
  | none => exact segments_append_of_none reads

/-! ## All parts -/

variable {parts : List σ} {source : σ → Text} {result : σ → Option α}

/-- The text is cut part by part when every part is, before those that follow it. -/
theorem segments_flatMap {cut : σ → List (Segment α)}
    (apart : ∀ part later, part :: later <:+ parts →
      segments pattern (source part ++ later.flatMap source) =
        cut part ++ segments pattern (later.flatMap source)) :
    segments pattern (parts.flatMap source) = parts.flatMap cut := by
  induction parts with
  | nil => rfl
  | cons part parts ih =>
    rw [List.flatMap_cons, apart part parts List.suffix_rfl,
      ih fun part' later isTail => apart part' later (isTail.trans (List.suffix_cons _ _)),
      List.flatMap_cons]

theorem replaceAll_flatMap (consuming : Consuming pattern)
    (reads : ∀ part later, part :: later <:+ parts →
      Reads pattern (source part) (later.flatMap source) (result part)) :
    replaceAll pattern f (parts.flatMap source) =
      parts.flatMap fun part => ((result part).map f).getD (source part) := by
  rw [replaceAll, segments_flatMap fun part later isTail =>
    segments_of_reads consuming (reads part later isTail), List.flatMap_assoc]
  refine List.flatMap_congr fun part _ => ?_
  cases result part with
  | some a => simp [Segment.render]
  | none => exact flatMap_render_plain f (source part)

theorem findAll_flatMap (consuming : Consuming pattern)
    (reads : ∀ part later, part :: later <:+ parts →
      Reads pattern (source part) (later.flatMap source) (result part)) :
    findAll pattern (parts.flatMap source) = parts.filterMap result := by
  rw [findAll, segments_flatMap fun part later isTail =>
    segments_of_reads consuming (reads part later isTail), List.filterMap_flatMap,
    List.filterMap_eq_flatMap_toList]
  refine List.flatMap_congr fun part _ => ?_
  cases result part with
  | some a => rfl
  | none => exact filterMap_match?_plain (source part)

/-- The leftmost match is the first of all matches. -/
theorem first?_eq_head? (consuming : Consuming pattern) (text : Text) :
    (first? pattern text).map (fun found => found.2.1) = (findAll pattern text).head? := by
  induction text with
  | nil => simp [first?, consuming.eq_none, findAll]
  | cons c text ih =>
    cases here : pattern (c :: text) with
    | some found =>
      rw [findAll_of_some consuming here]
      simp [first?, here]
    | none =>
      have later : findAll pattern (c :: text) = findAll pattern text := by
        rw [findAll, segments_cons_of_none here]
        rfl
      rw [later, ← ih]
      simp [first?, here, Function.comp_def]

end SandboxPreview.Pattern
