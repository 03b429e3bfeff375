/-
# Trimming

A trimmed text is what is left between the blanks at the two ends of a text. It neither starts nor
ends with a blank, so trimming twice is the same as trimming once, and blanks put around a text do
not matter to it.

## Main results

* `trim_append_blanks`: blanks around a text are taken off;
* `exists_eq_append_trim`: a text is its trimmed part between blanks;
* `trim_trim`, `trim_eq_self_of_length`: when trimming changes nothing.
-/
import Mathlib.Data.List.Infix
import Mathlib.Data.List.TakeWhile
import SandboxPreview.Text.Blank

namespace SandboxPreview.Text

variable {text lead trail : Text}

/-- Every character is blank. -/
def Blank (text : Text) : Prop := ∀ c ∈ text, isBlank c = true

@[simp] theorem blank_nil : Blank [] := by simp [Blank]

theorem blank_singleton {c : Char} (blank : isBlank c = true) : Blank [c] := by simpa [Blank]

theorem blank_space : Blank [' '] := blank_singleton (by decide)

theorem blank_lineFeed : Blank ['\n'] := blank_singleton (by decide)

theorem not_mem_of_blank {c : Char} (solid : isBlank c = false) (blank : Blank text) :
    c ∉ text := fun member => by simp [blank c member] at solid

theorem trimEnd_isPrefix : trimEnd text <+: text := by
  rw [← List.reverse_suffix, trimEnd, List.reverse_reverse]
  exact List.dropWhile_suffix _

theorem trim_isInfix : trim text <:+: text :=
  trimEnd_isPrefix.isInfix.trans (List.dropWhile_suffix _).isInfix

theorem trimStart_blanks_append (text : Text) (blank : Blank lead) :
    trimStart (lead ++ text) = trimStart text := by
  induction lead with
  | nil => rfl
  | cons c lead ih =>
    rw [trimStart, List.cons_append, List.dropWhile_cons_of_pos (blank c (by simp))]
    exact ih fun d member => blank d (by simp [member])

theorem trimEnd_append_blanks (text : Text) (blank : Blank trail) :
    trimEnd (text ++ trail) = trimEnd text := by
  -- The end of a text is trimmed as the start of the reversed one.
  have reversed : Blank trail.reverse := fun c member => blank c (by simpa using member)
  simp [trimEnd, trimStart_blanks_append _ reversed]

theorem trimStart_append_cons {c : Char} {rest : Text} (solid : isBlank c = false) :
    trimStart (text ++ c :: rest) = trimStart text ++ c :: rest := by
  induction text with
  | nil => simp [trimStart, solid]
  | cons d text ih =>
    by_cases blank : isBlank d = true
    · simpa [trimStart, List.dropWhile_cons_of_pos blank] using ih
    · simp [trimStart, blank]

theorem exists_eq_append_trimStart (text : Text) :
    ∃ lead, Blank lead ∧ text = lead ++ trimStart text :=
  ⟨text.takeWhile isBlank, fun _ => List.mem_takeWhile_imp, List.takeWhile_append_dropWhile.symm⟩

theorem exists_eq_trimEnd_append (text : Text) :
    ∃ trail, Blank trail ∧ text = trimEnd text ++ trail := by
  obtain ⟨lead, blank, split⟩ := exists_eq_append_trimStart text.reverse
  refine ⟨lead.reverse, fun c member => blank c (by simpa using member), ?_⟩
  rw [trimEnd, ← List.reverse_append, ← split, List.reverse_reverse]

theorem exists_eq_append_trim (text : Text) :
    ∃ lead trail, Blank lead ∧ Blank trail ∧ text = lead ++ trim text ++ trail := by
  obtain ⟨lead, blankLead, hlead⟩ := exists_eq_append_trimStart text
  obtain ⟨trail, blankTrail, htrail⟩ := exists_eq_trimEnd_append (trimStart text)
  refine ⟨lead, trail, blankLead, blankTrail, ?_⟩
  rw [List.append_assoc, trim, ← htrail, ← hlead]

/-- A text is blank, or its first character that is not blank starts what is left. -/
theorem blank_or_trimStart_eq_cons (text : Text) :
    Blank text ∨ ∃ lead c rest, Blank lead ∧ isBlank c = false ∧ text = lead ++ c :: rest ∧
      trimStart text = c :: rest := by
  induction text with
  | nil => exact Or.inl blank_nil
  | cons d text ih =>
    by_cases blank : isBlank d = true
    · have skip : trimStart (d :: text) = trimStart text := List.dropWhile_cons_of_pos blank
      rcases ih with all | ⟨lead, c, rest, blankLead, solid, rfl, start⟩
      · exact Or.inl (List.forall_mem_cons.mpr ⟨blank, all⟩)
      · exact Or.inr ⟨d :: lead, c, rest, List.forall_mem_cons.mpr ⟨blank, blankLead⟩, solid,
          rfl, skip.trans start⟩
    · exact Or.inr ⟨[], d, text, blank_nil, by simpa using blank, rfl,
        List.dropWhile_cons_of_neg blank⟩

theorem trimStart_eq_nil (blank : Blank text) : trimStart text = [] := by
  rw [← List.append_nil text, trimStart_blanks_append _ blank]
  rfl

theorem trim_append_blanks (text : Text) (blankLead : Blank lead) (blankTrail : Blank trail) :
    trim (lead ++ text ++ trail) = trim text := by
  rw [List.append_assoc, trim, trimStart_blanks_append _ blankLead, trim]
  rcases blank_or_trimStart_eq_cons text with
    blank | ⟨front, c, rest, blankFront, solid, rfl, start⟩
  · -- A blank text and the blanks behind it go away together.
    have whole : Blank (text ++ trail) := by
      intro c member
      rcases List.mem_append.mp member with inside | after
      · exact blank c inside
      · exact blankTrail c after
    rw [trimStart_eq_nil whole, trimStart_eq_nil blank]
  · rw [start, List.append_assoc, trimStart_blanks_append _ blankFront, List.cons_append]
    have keep : trimStart (c :: (rest ++ trail)) = c :: rest ++ trail :=
      List.dropWhile_cons_of_neg (by simp [solid])
    rw [keep, trimEnd_append_blanks _ blankTrail]

theorem trimStart_append_of_not_blank (text : Text) (solid : ¬ Blank lead) :
    trimStart (lead ++ text) = trimStart lead ++ text := by
  rcases blank_or_trimStart_eq_cons lead with blank | ⟨front, c, rest, blankFront, head, rfl, start⟩
  · exact absurd blank solid
  · rw [start, List.append_assoc, trimStart_blanks_append _ blankFront]
    exact List.dropWhile_cons_of_neg (by simp [head])

theorem trimEnd_append_of_not_blank (text : Text) (solid : ¬ Blank trail) :
    trimEnd (text ++ trail) = text ++ trimEnd trail := by
  have reversed : ¬ Blank trail.reverse := fun blank =>
    solid fun c member => blank c (by simpa using member)
  simp [trimEnd, trimStart_append_of_not_blank _ reversed]

/-- What stands between two parts that are not blank is not touched. -/
theorem trim_append_append (text : Text) (solidLead : ¬ Blank lead) (solidTrail : ¬ Blank trail) :
    trim (lead ++ text ++ trail) = trimStart lead ++ text ++ trimEnd trail := by
  rw [trim, List.append_assoc, trimStart_append_of_not_blank _ solidLead, ← List.append_assoc,
    trimEnd_append_of_not_blank _ solidTrail]

@[simp] theorem trim_trim (text : Text) : trim (trim text) = trim text := by
  obtain ⟨lead, trail, blankLead, blankTrail, split⟩ := exists_eq_append_trim text
  have inner := trim_append_blanks (trim text) blankLead blankTrail
  rw [← split] at inner
  exact inner.symm

theorem length_trim_le (text : Text) : (trim text).length ≤ text.length := trim_isInfix.length_le

theorem trim_eq_self_of_length (full : text.length ≤ (trim text).length) : trim text = text :=
  trim_isInfix.eq_of_length (Nat.le_antisymm (length_trim_le text) full)

theorem trimStart_eq_self (solid : ∀ c ∈ text, isBlank c = false) : trimStart text = text := by
  cases text with
  | nil => rfl
  | cons c text => exact List.dropWhile_cons_of_neg (by simp [solid c (by simp)])

theorem trimEnd_eq_self (solid : ∀ c ∈ text, isBlank c = false) : trimEnd text = text := by
  rw [trimEnd, trimStart_eq_self fun c member => solid c (List.mem_reverse.mp member),
    List.reverse_reverse]

theorem trimEnd_of_trim (trimmed : trim text = text) : trimEnd text = text := by
  -- Trimming the start first would take nothing off either.
  have whole : trimStart text = text := by
    refine (List.dropWhile_suffix isBlank).eq_of_length_le ?_
    conv_lhs => rw [← trimmed]
    exact trimEnd_isPrefix.length_le
  rwa [trim, whole] at trimmed

/-- The first character of a trimmed text is not blank. -/
theorem head_trim_not_blank {c : Char} {rest : Text} (head : trim text = c :: rest) :
    isBlank c = false := by
  by_contra blank
  have again : trim (trim text) = trim rest := by
    have single : Blank [c] := blank_singleton (by simpa using blank)
    simpa [head] using trim_append_blanks rest single blank_nil
  have shorter := length_trim_le rest
  rw [← again, trim_trim, head, List.length_cons] at shorter
  omega

/-- The last character of a trimmed text is not blank. -/
theorem last_trim_not_blank {c : Char} {rest : Text} (last : trim text = rest ++ [c]) :
    isBlank c = false := by
  by_contra blank
  have again : trim (trim text) = trim rest := by
    have single : Blank [c] := blank_singleton (by simpa using blank)
    simpa [last] using trim_append_blanks rest blank_nil single
  have shorter := length_trim_le rest
  rw [← again, trim_trim, last, List.length_append, List.length_singleton] at shorter
  omega

end SandboxPreview.Text
