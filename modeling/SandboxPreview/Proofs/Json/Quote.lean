/-
# Words in quoted texts

A quoted text writes a character as it is or as an escape, which starts with a backslash and holds
letters and digits besides. A word that starts with none of these and holds neither quotes nor
backslashes stands in a quoted text only where it stands in the text itself. When its characters are
written as they are, it stands in the one exactly when it stands in the other.

## Main definitions

* `escapeLetters`: the characters that escapes are made of.

## Main results

* `escapeChar_cases`: how a character is written;
* `infix_of_infix_quote`, `infix_quote_iff`: a word in a quoted text.
-/
import SandboxPreview.Json.Printer
import SandboxPreview.Proofs.Text.Number
import SandboxPreview.Proofs.Text.Occurrence

namespace SandboxPreview.Json

open Text

variable {word text : Text} {c first : Char}

/-- The characters that escapes are made of. -/
def escapeLetters : Text := "\\\"nrtbfu0123456789abcdef"

theorem mem_escapeLetters_of_mem_unitEscape {n : Nat} (member : c ∈ unitEscape n) :
    c ∈ escapeLetters := by
  have start : "\\u".toList.all (fun d => decide (d ∈ escapeLetters)) = true := by decide
  have digit : ∀ d < 16, Nat.digitChar d ∈ escapeLetters := by decide
  rcases List.mem_append.mp member with front | digits
  · exact of_decide_eq_true (List.all_eq_true.mp start c front)
  · rcases List.mem_append.mp digits with zeros | written
    · rw [List.eq_of_mem_replicate zeros]
      decide
    · obtain ⟨d, small, rfl⟩ := exists_of_mem_toDigits (by decide) written
      exact digit d small

/-- A character is written as it is, or as an escape. -/
theorem escapeChar_cases (c : Char) :
    escapeChar c = [c] ∨
      ∃ more, escapeChar c = '\\' :: more ∧ ∀ d ∈ more, d ∈ escapeLetters := by
  -- The escapes of one letter are named; all others are made of units.
  have short (letter : Char) (named : letter ∈ escapeLetters) :
      ['\\', letter] = [c] ∨
        ∃ more, ['\\', letter] = '\\' :: more ∧ ∀ d ∈ more, d ∈ escapeLetters :=
    Or.inr ⟨[letter], rfl, by simpa using named⟩
  have unit (n : Nat) (rest : Text) (named : ∀ d ∈ rest, d ∈ escapeLetters) :
      unitEscape n ++ rest = [c] ∨
        ∃ more, unitEscape n ++ rest = '\\' :: more ∧ ∀ d ∈ more, d ∈ escapeLetters := by
    refine Or.inr ⟨'u' :: Text.padded 16 4 n ++ rest, rfl, fun d member => ?_⟩
    rcases List.mem_append.mp member with own | behind
    · exact mem_escapeLetters_of_mem_unitEscape (List.mem_cons_of_mem _ own)
    · exact named d behind
  rw [escapeChar]
  by_cases quote : c = '\x22'
  · rw [if_pos quote]
    exact short '\x22' (by decide)
  rw [if_neg quote]
  by_cases backslash : c = '\\'
  · rw [if_pos backslash]
    exact short '\\' (by decide)
  rw [if_neg backslash]
  by_cases lineFeed : c = '\n'
  · rw [if_pos lineFeed]
    exact short 'n' (by decide)
  rw [if_neg lineFeed]
  by_cases carriageReturn : c = '\r'
  · rw [if_pos carriageReturn]
    exact short 'r' (by decide)
  rw [if_neg carriageReturn]
  by_cases tab : c = '\t'
  · rw [if_pos tab]
    exact short 't' (by decide)
  rw [if_neg tab]
  by_cases backspace : c = '\x08'
  · rw [if_pos backspace]
    exact short 'b' (by decide)
  rw [if_neg backspace]
  by_cases formFeed : c = '\x0c'
  · rw [if_pos formFeed]
    exact short 'f' (by decide)
  rw [if_neg formFeed]
  by_cases printable : 0x20 ≤ c.toNat ∧ c.toNat ≤ 0x7E
  · exact Or.inl (if_pos printable)
  rw [if_neg printable]
  by_cases single : c.toNat ≤ 0xFFFF
  · rw [if_pos single, ← List.append_nil (unitEscape _)]
    exact unit _ [] (by simp)
  · rw [if_neg single]
    exact unit _ _ fun d => mem_escapeLetters_of_mem_unitEscape

/-- A word without backslashes starts a written text only as it starts the text. -/
theorem prefix_of_prefix_escaped (plain : '\\' ∉ word) (stands : word <+: text.flatMap escapeChar) :
    word <+: text := by
  induction text generalizing word with
  | nil => simpa using stands
  | cons c text ih =>
    cases word with
    | nil => exact List.nil_prefix
    | cons w word =>
      rw [List.flatMap_cons] at stands
      rcases escapeChar_cases c with same | ⟨more, escaped, -⟩
      · rw [same, List.singleton_append, List.cons_prefix_cons] at stands
        exact List.cons_prefix_cons.mpr
          ⟨stands.1, ih (fun member => plain (List.mem_cons_of_mem w member)) stands.2⟩
      · rw [escaped, List.cons_append, List.cons_prefix_cons] at stands
        exact absurd (by simp [stands.1]) plain

/-- A word that does not start inside an escape stands in a written text only where it stands in the
text. -/
theorem infix_of_infix_escaped (outside : first ∉ escapeLetters) (plain : '\\' ∉ first :: word)
    (stands : first :: word <:+: text.flatMap escapeChar) : first :: word <:+: text := by
  induction text with
  | nil => simp at stands
  | cons c text ih =>
    rw [List.flatMap_cons] at stands
    rcases escapeChar_cases c with same | ⟨more, escaped, named⟩
    · rw [same, List.singleton_append, List.infix_cons_iff] at stands
      rcases stands with here | later
      · obtain ⟨rfl, behind⟩ := List.cons_prefix_cons.mp here
        have rest := prefix_of_prefix_escaped (fun member => plain (List.mem_cons_of_mem _ member))
          behind
        exact (List.cons_prefix_cons.mpr ⟨rfl, rest⟩).isInfix
      · exact (ih later).trans (List.suffix_cons c text).isInfix
    · have absent : first ∉ escapeChar c := by
        rw [escaped, List.mem_cons]
        rintro (rfl | member)
        · exact plain List.mem_cons_self
        · exact outside (named first member)
      exact (ih (infix_of_infix_append absent stands)).trans (List.suffix_cons c text).isInfix

/-- A word that does not start inside an escape stands in a quoted text only where it stands in the
text. -/
theorem infix_of_infix_quote (outside : first ∉ escapeLetters) (plain : '\\' ∉ first :: word)
    (quote : '\x22' ∉ first :: word) (stands : first :: word <:+: Json.quote text) :
    first :: word <:+: text := by
  rw [Json.quote, List.cons_append, ← List.nil_append ('\x22' :: _), infix_append_cons_iff quote,
    infix_append_cons_iff quote] at stands
  have inside : first :: word <:+: text.flatMap escapeChar := by simpa using stands
  exact infix_of_infix_escaped outside plain inside

theorem flatMap_escapeChar_eq_self (same : ∀ c ∈ word, escapeChar c = [c]) :
    word.flatMap escapeChar = word :=
  (List.flatMap_congr same).trans (List.flatMap_singleton' word)

/-- A word whose characters are written as they are stands in a quoted text where it stands in the
text. -/
theorem infix_quote_iff (outside : first ∉ escapeLetters)
    (same : ∀ c ∈ first :: word, escapeChar c = [c]) :
    first :: word <:+: Json.quote text ↔ first :: word <:+: text := by
  constructor
  · refine infix_of_infix_quote outside (fun member => ?_) fun member => ?_
    · exact absurd (same _ member) (by decide)
    · exact absurd (same _ member) (by decide)
  · rintro ⟨before, rest, rfl⟩
    refine ⟨'\x22' :: before.flatMap escapeChar, rest.flatMap escapeChar ++ ['\x22'], ?_⟩
    rw [Json.quote, List.flatMap_append, List.flatMap_append, flatMap_escapeChar_eq_self same]
    simp only [List.cons_append, List.append_assoc]

end SandboxPreview.Json
