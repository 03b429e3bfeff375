/-
# Numbers in digits

The digits of a number, with or without zeros in front of them, are read back as that number, so
different numbers are written differently.

## Main results

* `padded_injective`: numbers are told apart by their digits;
* `ofDigits_eq_valueOf`: decimal digits are read as the number that they stand for.
-/
import Mathlib.Data.List.Basic
import Mathlib.Logic.Function.Basic
import SandboxPreview.Text.Basic

namespace SandboxPreview.Text

variable {base n : Nat} {c : Char}

theorem exists_of_mem_toDigits (two : 1 < base) (member : c ∈ Nat.toDigits base n) :
    ∃ d < base, c = d.digitChar := by
  induction n using Nat.strongRecOn with
  | ind n ih =>
    rw [Nat.toDigits_eq_if two] at member
    split at member
    case isTrue small => exact ⟨n, small, by simpa using member⟩
    case isFalse large =>
      rcases List.mem_append.mp member with earlier | last
      · exact ih (n / base) (Nat.div_lt_self (by omega) two) earlier
      · exact ⟨n % base, Nat.mod_lt n (by omega), by simpa using last⟩

/-- The value of a digit: ten and more are written in small letters. -/
def digitValue (c : Char) : Nat := if c.toNat < 58 then c.toNat - 48 else c.toNat - 87

/-- The number that a text of digits stands for. -/
def valueOf (base : Nat) (digits : Text) : Nat :=
  digits.foldl (fun value c => base * value + digitValue c) 0

theorem digitValue_digitChar (small : n < 16) : digitValue n.digitChar = n := by
  have each : ∀ n < 16, digitValue n.digitChar = n := by decide
  exact each n small

theorem valueOf_append_singleton (digits : Text) (c : Char) :
    valueOf base (digits ++ [c]) = base * valueOf base digits + digitValue c := by
  simp [valueOf]

theorem valueOf_toDigits (two : 1 < base) (small : base ≤ 16) (n : Nat) :
    valueOf base (Nat.toDigits base n) = n := by
  induction n using Nat.strongRecOn with
  | ind n ih =>
    rw [Nat.toDigits_eq_if two]
    by_cases single : n < base
    · rw [if_pos single]
      simpa [valueOf] using digitValue_digitChar (Nat.lt_of_lt_of_le single small)
    · have shorter : n / base < n := Nat.div_lt_self (by omega) two
      have last : n % base < 16 := Nat.lt_of_lt_of_le (Nat.mod_lt n (by omega)) small
      rw [if_neg single, valueOf_append_singleton, ih _ shorter, digitValue_digitChar last,
        Nat.div_add_mod]

theorem valueOf_zeros_append (count : Nat) (digits : Text) :
    valueOf base (List.replicate count '0' ++ digits) = valueOf base digits := by
  induction count with
  | zero => rfl
  | succ count ih =>
    rw [List.replicate_succ, List.cons_append, ← ih]
    rfl

/-- Decimal digits are read as the number that they stand for. -/
theorem ofDigits_eq_valueOf {digits : Text} (decimal : ∀ c ∈ digits, c.isDigit = true) :
    ofDigits digits = valueOf 10 digits := by
  refine List.foldl_ext _ _ _ fun value c member => ?_
  have small : c.toNat < 58 := by
    have := decimal c member
    simp only [Char.isDigit, Bool.and_eq_true, decide_eq_true_eq, UInt32.le_iff_toNat_le] at this
    change c.val.toNat < 58
    have top : ('9'.val.toNat : Nat) = 57 := rfl
    omega
  rw [digitValue, if_pos small]
  rfl

/-- Numbers are told apart by their digits, up to whatever width they are filled. -/
theorem padded_injective (two : 1 < base) (small : base ≤ 16) (width : Nat) :
    Function.Injective (padded base width) := by
  intro n k same
  -- The zeros in front do not count, so both texts have the value that they were made from.
  have values := congrArg (valueOf base) same
  rwa [padded, padded, valueOf_zeros_append, valueOf_zeros_append, valueOf_toDigits two small,
    valueOf_toDigits two small] at values

theorem le_length_padded (base width n : Nat) : width ≤ (padded base width n).length := by
  rw [padded, List.length_append, List.length_replicate]
  omega

theorem mem_ofInt {i : Int} (member : c ∈ ofInt i) : c = '-' ∨ ∃ d < 10, c = d.digitChar := by
  cases i with
  | ofNat n => exact Or.inr (exists_of_mem_toDigits (by decide) member)
  | negSucc n => exact (List.mem_cons.mp member).imp_right (exists_of_mem_toDigits (by decide))

end SandboxPreview.Text
