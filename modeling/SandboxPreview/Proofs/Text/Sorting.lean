/-
# Sorted texts

Sorting puts texts in the order of their characters. There is one sorted list of given texts, so
sorting forgets the order in which they came, and where no text comes twice each one lies strictly
below those behind it.

## Main results

* `precedes_iff`: the order by which texts are sorted is the lexicographic one;
* `sort_eq_iff`, `sort_eq_of_perm`: there is one sorted list, whatever the order of the texts;
* `pairwise_lt_sort`: texts without repetitions ascend strictly.
-/
import SandboxPreview.Text.Basic

namespace SandboxPreview.Text

variable {s t u : Text} {texts others : List Text}

/-! ## The order -/

theorem precedes_iff : precedes s t = true ↔ s = t ∨ s < t := by
  fun_induction precedes s t with
  | case1 t => cases t <;> simp
  | case2 a s => simp
  | case3 s a t ih => simp [ih]
  | case4 a s b t different => simp [different, List.cons_lt_cons_iff]

theorem precedes_trans (s t u : Text) (first : precedes s t = true)
    (second : precedes t u = true) : precedes s u = true := by
  rw [precedes_iff] at first second ⊢
  rcases first with rfl | first
  · exact second
  · rcases second with rfl | second
    · exact Or.inr first
    · exact Or.inr (List.lt_trans first second)

theorem precedes_total (s t : Text) : (precedes s t || precedes t s) = true := by
  rw [Bool.or_eq_true, precedes_iff, precedes_iff]
  by_cases below : s < t
  · exact Or.inl (Or.inr below)
  · by_cases above : t < s
    · exact Or.inr (Or.inr above)
    · -- Neither is below the other, so they are one text.
      exact Or.inl (Or.inl (List.le_antisymm (List.not_lt.mp above) (List.not_lt.mp below)))

/-- Two texts that precede each other are one. -/
theorem eq_of_precedes (first : precedes s t = true) (second : precedes t s = true) : s = t := by
  rw [precedes_iff] at first second
  rcases first with same | first
  · exact same
  · rcases second with same | second
    · exact same.symm
    · exact absurd second (List.lt_asymm first)

/-! ## The sorted list -/

theorem sort_perm (texts : List Text) : (sort texts).Perm texts :=
  List.mergeSort_perm texts precedes

theorem pairwise_sort (texts : List Text) :
    (sort texts).Pairwise fun s t => precedes s t = true :=
  List.pairwise_mergeSort precedes_trans precedes_total texts

/-- The sorted list is the one rearrangement that ascends. -/
theorem sort_eq_iff :
    sort texts = others ↔ others.Perm texts ∧ others.Pairwise fun s t => precedes s t = true := by
  constructor
  · rintro rfl
    exact ⟨sort_perm texts, pairwise_sort texts⟩
  · rintro ⟨perm, ascending⟩
    apply List.Perm.eq_of_pairwise (fun s t _ _ => eq_of_precedes) (pairwise_sort texts) ascending
    exact (sort_perm texts).trans perm.symm

/-- Sorting forgets the order in which the texts came. -/
theorem sort_eq_of_perm (perm : texts.Perm others) : sort texts = sort others := by
  rw [sort_eq_iff]
  exact ⟨(sort_perm others).trans perm.symm, pairwise_sort others⟩

theorem pairwise_lt_sort (distinct : texts.Nodup) : (sort texts).Pairwise (· < ·) := by
  have apart : (sort texts).Pairwise (· ≠ ·) := (sort_perm texts).nodup_iff.mpr distinct
  apply (pairwise_sort texts).imp₂ _ apart
  intro s t before different
  exact (precedes_iff.mp before).resolve_left different

end SandboxPreview.Text
