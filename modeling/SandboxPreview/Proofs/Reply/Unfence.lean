/-
# One fence around a content

Either end of a fence is taken off a content when it is there. What is left is shorter, so a
content stays as it is exactly when it has neither end.

## Main results

* `length_unfence_le`: taking off a fence never adds anything;
* `unfence_eq_self_iff`: which trimmed contents stay as they are.
-/
import SandboxPreview.Proofs.Reply.Block

namespace SandboxPreview.Reply

open Pattern Text

variable {body rest : Text}

/-- The content starts with three backticks, letters and a line feed. -/
def OpensFence (body : Text) : Prop :=
  ∃ tag rest, (∀ c ∈ tag, isLetter c = true) ∧ body = "```".toList ++ tag ++ '\n' :: rest

/-- The content ends with a line feed and three backticks. -/
def ClosesFence (body : Text) : Prop := "\n```".toList <:+ body

theorem openingFence_eq_some (found : openingFence body = some ((), rest)) :
    ∃ tag, (∀ c ∈ tag, isLetter c = true) ∧ body = "```".toList ++ tag ++ '\n' :: rest := by
  obtain ⟨inner, rfl, afterTicks⟩ := literal_eq_some_iff.mp found
  obtain ⟨tag, tail, rfl, letters, afterTag⟩ := exists_of_greedy afterTicks
  obtain ⟨rest', rfl, afterLine⟩ := literal_eq_some_iff.mp afterTag
  obtain rfl : rest' = rest := by simpa [done] using afterLine
  exact ⟨tag, letters, by simp⟩

theorem openingFence_ne_none (opens : OpensFence body) : openingFence body ≠ none := by
  obtain ⟨tag, rest, letters, rfl⟩ := opens
  have found : openingFence ("```".toList ++ tag ++ '\n' :: rest) = some ((), rest) := by
    rw [openingFence, List.append_assoc, literal_append]
    refine greedy_of_dropWhile ?_
    have skip : (tag ++ '\n' :: rest).dropWhile isLetter = '\n' :: rest := by
      rw [List.dropWhile_append_of_pos letters]
      exact List.dropWhile_cons_of_neg (by decide)
    rw [skip]
    rfl
  rw [found]
  exact Option.some_ne_none _

theorem closingFence_eq_some (found : closingFence body = some ((), rest)) :
    body = "\n```".toList ++ rest ∧ (rest = [] ∨ rest = ['\n']) := by
  obtain ⟨inner, rfl, afterTicks⟩ := literal_eq_some_iff.mp found
  rw [atEnd] at afterTicks
  split at afterTicks
  case isTrue ending =>
    obtain rfl : inner = rest := by simpa [done] using afterTicks
    exact ⟨rfl, ending⟩
  case isFalse => exact absurd afterTicks (by simp)

theorem closingFence_fence : closingFence "\n```".toList = some ((), []) := by decide

/-- The content without its opening fence is its end. -/
theorem dropOpeningFence_suffix (body : Text) : dropOpeningFence body <:+ body := by
  rw [dropOpeningFence]
  split
  case h_1 rest found =>
    obtain ⟨tag, -, rfl⟩ := openingFence_eq_some found
    exact ⟨"```".toList ++ tag ++ ['\n'], by simp⟩
  case h_2 => exact List.suffix_rfl

theorem dropOpeningFence_eq_self_iff : dropOpeningFence body = body ↔ ¬ OpensFence body := by
  rw [dropOpeningFence]
  split
  case h_1 rest found =>
    obtain ⟨tag, letters, rfl⟩ := openingFence_eq_some found
    have opens : OpensFence ("```".toList ++ tag ++ '\n' :: rest) := ⟨tag, rest, letters, rfl⟩
    simp only [opens, not_true_eq_false, iff_false]
    intro same
    -- What is left would be as long as the whole.
    have := congrArg List.length same
    simp only [List.length_append, List.length_cons] at this
    omega
  case h_2 missing =>
    simp only [true_iff]
    exact fun opens => openingFence_ne_none opens missing

/-- Taking off a closing fence either changes nothing or takes four characters. -/
theorem dropClosingFence_cases (body : Text) :
    (dropClosingFence body = body ∧ ∀ tail, tail <:+ body → closingFence tail = none) ∨
      ((dropClosingFence body).length + 4 = body.length ∧ ∃ rest, (rest = [] ∨ rest = ['\n']) ∧
        "\n```".toList ++ rest <:+ body) := by
  rw [dropClosingFence]
  cases found : first? closingFence body with
  | none => exact Or.inl ⟨rfl, first?_eq_none_iff.mp found⟩
  | some parts =>
    obtain ⟨before, ⟨⟩, rest⟩ := parts
    obtain ⟨tail, rfl, here⟩ := exists_of_first? found
    obtain ⟨rfl, ending⟩ := closingFence_eq_some here
    refine Or.inr ⟨?_, rest, ending, List.suffix_append _ _⟩
    have size : "\n```".toList.length = 4 := by decide
    simp only [List.length_append, size]
    omega

/-- The content without its closing fence is its start. A line feed behind the fence takes the place
of the one before it. -/
theorem dropClosingFence_isPrefix (body : Text) : dropClosingFence body <+: body := by
  rw [dropClosingFence]
  cases found : first? closingFence body with
  | none => exact List.prefix_rfl
  | some parts =>
    obtain ⟨before, ⟨⟩, rest⟩ := parts
    obtain ⟨tail, rfl, here⟩ := exists_of_first? found
    obtain ⟨rfl, rfl | rfl⟩ := closingFence_eq_some here
    · exact ⟨"\n```".toList, by simp⟩
    · exact ⟨"```\n".toList, by simp⟩

theorem unfence_isInfix (body : Text) : unfence body <:+: body :=
  (dropClosingFence_isPrefix _).isInfix.trans (dropOpeningFence_suffix body).isInfix

theorem length_unfence_le (body : Text) : (unfence body).length ≤ body.length :=
  (unfence_isInfix body).length_le

/-- The closing fence is only looked for at the very end: a trimmed content ends in no line
feed. -/
theorem dropClosingFence_eq_self_iff (trimmed : trim body = body) :
    dropClosingFence body = body ↔ ¬ ClosesFence body := by
  rcases dropClosingFence_cases body with ⟨same, missing⟩ | ⟨size, rest, ending, isTail⟩
  · simp only [same, true_iff]
    intro closes
    exact absurd (closingFence_fence.symm.trans (missing _ closes)) (Option.some_ne_none _)
  · have changed : dropClosingFence body ≠ body := fun same => by rw [same] at size; omega
    simp only [changed, false_iff, not_not]
    rcases ending with rfl | rfl
    · exact isTail
    · -- The line feed behind the fence would be the last character of a trimmed content.
      obtain ⟨front, rfl⟩ := isTail
      have ends : trim (front ++ ("\n```".toList ++ ['\n'])) =
          (front ++ "\n```".toList) ++ ['\n'] := by
        rw [trimmed, List.append_assoc]
      exact absurd (last_trim_not_blank ends) (by decide)

/-- A trimmed content stays as it is exactly when it neither opens nor closes a fence. -/
theorem unfence_eq_self_iff (trimmed : trim body = body) :
    unfence body = body ↔ ¬ OpensFence body ∧ ¬ ClosesFence body := by
  rw [← dropOpeningFence_eq_self_iff, ← dropClosingFence_eq_self_iff trimmed, unfence]
  constructor
  · intro same
    -- What the opening fence takes is never made up for, so it takes nothing here.
    have opening : dropOpeningFence body = body := by
      refine (dropOpeningFence_suffix body).eq_of_length_le ?_
      conv_lhs => rw [← same]
      exact (dropClosingFence_isPrefix _).length_le
    rw [opening] at same
    exact ⟨opening, same⟩
  · rintro ⟨opening, closing⟩
    rw [opening, closing]

end SandboxPreview.Reply
