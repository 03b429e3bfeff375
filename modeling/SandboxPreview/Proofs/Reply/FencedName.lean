/-
# Names of fenced blocks

A fenced block takes its name from the line before it or from its place. Either way the name is not
empty and is written in letters, digits and a few marks, so it holds neither blanks nor stars.

## Main results

* `exists_of_label`: where a label has its name;
* `isName_of_mem_fenced`: what the names of fenced blocks are made of;
* `isBlank_of_isNameLetter`: no such character is blank.
-/
import SandboxPreview.Proofs.Text.Matching
import SandboxPreview.Reply.Fenced

namespace SandboxPreview.Reply

open Pattern Text

variable {text name reply : Text} {c : Char}

/-- A character of a label, in whatever case. -/
def isNameLetter (c : Char) : Bool := isNameChar c || isLetter c

/-- The text is a name: it is not empty, and every character belongs to names. -/
def IsName (name : Text) : Prop := name ≠ [] ∧ ∀ c ∈ name, isNameLetter c = true

theorem toNat_of_isAlphanum (member : c.isAlphanum = true) : 48 ≤ c.toNat ∧ c.toNat ≤ 122 := by
  delta Char.isAlphanum Char.isAlpha Char.isUpper Char.isLower Char.isDigit at member
  simp only [Bool.or_eq_true, Bool.and_eq_true, decide_eq_true_eq, UInt32.le_iff_toNat_le,
    ge_iff_le] at member
  have code : c.toNat = c.val.toNat := rfl
  have bounds : 'A'.val.toNat = 65 ∧ 'Z'.val.toNat = 90 ∧ 'a'.val.toNat = 97 ∧
      'z'.val.toNat = 122 ∧ '0'.val.toNat = 48 ∧ '9'.val.toNat = 57 := by decide
  omega

theorem isBlank_of_isNameLetter (member : isNameLetter c = true) : isBlank c = false := by
  -- No blank has a code from the first digit to the last letter.
  have alphanum (member : c.isAlphanum = true) : isBlank c = false := by
    have codes := toNat_of_isAlphanum member
    simp only [isBlank, inRanges, blankRanges, List.any_cons, List.any_nil, Bool.or_false,
      Bool.or_eq_false_iff, Bool.and_eq_false_iff, decide_eq_false_iff_not]
    omega
  simp only [isNameLetter, isNameChar, isLetter, Bool.or_eq_true, beq_iff_eq] at member
  rcases member with ((((letter | rfl) | rfl) | rfl) | rfl) | ((((letter | rfl) | rfl) | rfl) | rfl)
  · exact alphanum letter
  all_goals first | decide | exact alphanum (by simp [Char.isAlphanum, letter])

theorem isNameLetter_of_isNameChar (member : isNameChar c = true) : isNameLetter c = true := by
  rw [isNameLetter, member, Bool.true_or]

theorem isNameLetter_star : isNameLetter '*' = false := by decide

/-! ## Labels -/

/-- A label from its colon on. -/
def afterWord : Reader Text :=
  literal ":" <| greedy isBlank <| mark fun name =>
  greedy₁ isNameLetter fun rest => some (between name rest, rest)

theorem label_eq (text : Text) : label text =
    (letters "file" afterWord text <|> letters "filename" afterWord text) := by
  rw [show label = oneOf [letters "file", letters "filename"] afterWord from rfl, oneOf,
    List.findSome?_cons]
  cases letters "file" afterWord text with
  | some found => rfl
  | none =>
    rw [List.findSome?_cons]
    cases letters "filename" afterWord text <;> rfl

/-- A name stands behind a colon and blanks. -/
theorem exists_of_label {rest : Text} (found : label text = some (name, rest)) :
    ∃ word blanks, text = word ++ ':' :: (blanks ++ (name ++ rest)) ∧ IsName name := by
  -- Either spelling of the word goes on with the same pattern from the colon.
  obtain ⟨word, tail, rfl, colon⟩ :
      ∃ word tail, text = word ++ tail ∧ afterWord tail = some (name, rest) := by
    rw [label_eq] at found
    rcases orElse_eq_some_iff.mp found with spelled | ⟨-, spelled⟩
    · obtain ⟨word, tail, split, -, more⟩ := exists_of_each spelled
      exact ⟨word, tail, split, more⟩
    · obtain ⟨word, tail, split, -, more⟩ := exists_of_each spelled
      exact ⟨word, tail, split, more⟩
  obtain ⟨inner, rfl, afterColon⟩ := literal_eq_some_iff.mp colon
  obtain ⟨blanks, start, rfl, -, afterBlanks⟩ := exists_of_greedy afterColon
  obtain ⟨run, last, rfl, nonempty, all, ending⟩ := exists_of_greedy₁ afterBlanks
  rw [between_append, Option.some.injEq, Prod.mk.injEq] at ending
  obtain ⟨rfl, rfl⟩ := ending
  exact ⟨word, blanks, rfl, nonempty, all⟩

theorem isName_of_label {rest : Text} (found : label text = some (name, rest)) : IsName name := by
  obtain ⟨_, _, -, isName⟩ := exists_of_label found
  exact isName

/-! ## Names -/

theorem isName_of_bareName? (found : bareName? text = some name) : IsName name := by
  obtain ⟨run, last, rfl, nonempty, all, ending⟩ := exists_of_greedy₁ found
  obtain ⟨inner, rfl, afterColon⟩ := literal_eq_some_iff.mp ending
  rw [atEnd] at afterColon
  split at afterColon
  case isTrue =>
    rw [between_append, Option.some.injEq] at afterColon
    exact afterColon ▸ ⟨nonempty, fun c member => isNameLetter_of_isNameChar (all c member)⟩
  case isFalse => exact absurd afterColon (by simp)

theorem isName_of_nameHint? (found : nameHint? text = some name) : IsName name := by
  rw [nameHint?] at found
  split at found
  case h_1 before hint rest here =>
    obtain ⟨tail, -, labelled⟩ := exists_of_first? here
    rw [Option.some.injEq] at found
    exact found ▸ isName_of_label labelled
  case h_2 => exact isName_of_bareName? found

theorem isName_numberedName (place : Nat) (tag : Text) : IsName (numberedName place tag) := by
  have file : "file_".toList.all isNameLetter = true := by decide
  have digits : ∀ c ∈ ofNat place, isNameLetter c = true := by
    intro c member
    have digit := Nat.isDigit_of_mem_toDigits (by decide) (by decide) member
    simp [isNameLetter, isNameChar, Char.isAlphanum, digit]
  have ending : (extensionOf tag).all isNameLetter = true := by
    rw [extensionOf]
    split
    · decide
    · split <;> decide
  have parts : numberedName place tag =
      "file_".toList ++ ofNat place ++ ['.'] ++ extensionOf tag := by
    delta numberedName
    rfl
  rw [parts]
  constructor
  · exact List.append_ne_nil_of_left_ne_nil (List.append_ne_nil_of_right_ne_nil _ (by simp)) _
  · intro c member
    simp only [List.mem_append, List.mem_singleton] at member
    rcases member with ((inFile | inDigits) | rfl) | inEnding
    · exact List.all_eq_true.mp file c inFile
    · exact digits c inDigits
    · decide
    · exact List.all_eq_true.mp ending c inEnding

/-- Every fenced block has a name. -/
theorem isName_of_mem_fenced {a : Artifact} (member : a ∈ fenced reply) : IsName a.name := by
  obtain ⟨place, f, -, rfl⟩ := List.mem_mapIdx.mp member
  rw [Fence.artifact]
  dsimp only
  split
  case h_1 name found => exact isName_of_nameHint? found
  case h_2 => exact isName_numberedName _ _

end SandboxPreview.Reply
