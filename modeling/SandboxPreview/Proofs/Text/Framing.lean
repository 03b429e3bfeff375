/-
# What stands behind a text

A pattern ignores what stands behind a text when none of its parts can go on into it: a word does
not hold the first character behind, and a run of characters ends there or finds nothing there that
could follow it.

## Main results

* `Ignores.literal`, `Ignores.one`, `Ignores.greedy`: patterns that stop at the first character
  behind;
* `Ignores.lazily_of_none`: runs that may go on and lead nowhere.
-/
import SandboxPreview.Proofs.Text.Reading

namespace SandboxPreview.Pattern

variable {α : Type} {c : Char} {p : Char → Bool} {word behind rest : Text} {next : Reader α}

theorem ignores_done (behind : Text) : Ignores behind done := fun _ => rfl

theorem Ignores.literal (ignores : Ignores (c :: rest) next) (absent : c ∉ word) :
    Ignores (c :: rest) (literal word next) := by
  intro text
  rw [literal_eq, literal_eq, Text.after?_append_cons absent]
  cases Text.after? word text with
  | none => rfl
  | some left => exact ignores left

theorem Ignores.one (ignores : Ignores (c :: rest) next) (outside : p c = false) :
    Ignores (c :: rest) (one p next) := by
  intro text
  cases text with
  | nil => simp [Pattern.one, outside]
  | cons d text =>
    rw [List.cons_append, Pattern.one, Pattern.one]
    split
    · exact ignores text
    · rfl

theorem Ignores.greedy (ignores : Ignores (c :: rest) next) (outside : p c = false) :
    Ignores (c :: rest) (greedy p next) := by
  intro text
  induction text with
  | nil =>
    have stop : Pattern.greedy p next (c :: rest) = next (c :: rest) := by
      simp [Pattern.greedy, outside]
    exact stop.trans (ignores [])
  | cons d text ih =>
    have here := ignores (d :: text)
    rw [List.cons_append] at here ⊢
    rw [Pattern.greedy, Pattern.greedy, ih, here]
    split
    · cases Pattern.greedy p next text <;> rfl
    · rfl

theorem Ignores.greedy₁ (ignores : Ignores (c :: rest) next) (outside : p c = false) :
    Ignores (c :: rest) (Pattern.greedy₁ p next) :=
  (ignores.greedy outside).one outside

/-- What could follow the run is not found behind the text. -/
theorem Ignores.lazily_of_none (ignores : Ignores behind next)
    (missing : ∀ tail, tail <:+ behind → next tail = none) :
    Ignores behind (Pattern.lazily p next) := by
  have nowhere : Pattern.lazily p next behind = none := by
    rw [Option.eq_none_iff_forall_ne_some]
    intro found matched
    obtain ⟨run, tail, rfl, -, more⟩ := exists_of_lazily matched
    simp [missing tail (List.suffix_append _ _)] at more
  have empty : Pattern.lazily p next [] = none := by
    have here := ignores []
    rw [List.nil_append, missing behind List.suffix_rfl] at here
    exact Option.map_eq_none_iff.mp here.symm
  intro text
  induction text with
  | nil =>
    rw [List.nil_append, nowhere, empty]
    rfl
  | cons d text ih =>
    have here := ignores (d :: text)
    rw [List.cons_append] at here ⊢
    rw [Pattern.lazily, Pattern.lazily, ih, here]
    cases next (d :: text) with
    | some found => rfl
    | none =>
      split
      · rfl
      · rfl

end SandboxPreview.Pattern
