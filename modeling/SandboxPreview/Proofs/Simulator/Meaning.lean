/-
# The meaning of a printed literal

A literal in double quotes is made of characters that stand for themselves and of escapes, whose
meaning depends on the character behind the backslash only. A message that is taken from such a
literal has no quote to be escaped and leaves no backslash waiting, so two changes are left of the
writing: a line feed becomes its escape, and so does the slash behind an angle bracket. Neither
changes what the literal means.

## Main definitions

* `decode`: the meaning of a text between double quotes.

## Main results

* `decode_lineFeeds`, `decode_slashes`: the two changes keep the meaning;
* `literal_keeps_meaning`: the literals of Java and Go are written with their meaning.
-/
import SandboxPreview.Proofs.Simulator.PrintCalls

namespace SandboxPreview.Simulator

open Pattern

variable {escape : Char → Text} {text message : Text} {c : Char}

/-- What the text between the quotes means: a backslash and the character behind it stand for the
text that the escape of that character means, every other character stands for itself. -/
def decode (escape : Char → Text) : Text → Text
  | [] => []
  | '\\' :: c :: text => escape c ++ decode escape text
  | c :: text => c :: decode escape text

@[simp] theorem decode_escape (escape : Char → Text) (c : Char) (text : Text) :
    decode escape ('\\' :: c :: text) = escape c ++ decode escape text := rfl

theorem decode_cons (plain : c ≠ '\\') (escape : Char → Text) (text : Text) :
    decode escape (c :: text) = c :: decode escape text := by
  rw [decode]
  rintro d rest rfl
  exact absurd rfl plain

/-! ## What is left of the writing -/

/-- The quotes of a literal stand behind the backslashes of their escapes. -/
theorem Units.escapeQuotes_eq (units : Units '\x22' text) (afterBackslash : Bool) :
    escapeQuotes afterBackslash text = text := by
  induction units generalizing afterBackslash with
  | nil => rfl
  | plain notQuote notBackslash more ih => simp [escapeQuotes, notQuote, ih]
  | escape inLine more ih => simp [escapeQuotes, ih]

theorem evenBackslashes_eq_self (read : pending? false text = some false) :
    evenBackslashes text = text := by
  have even : ¬ trailingBackslashes text % 2 = 1 := of_decide_eq_false (pending?_eq_some read).symm
  rw [evenBackslashes, if_neg even]

/-- Of a message made of units only line feeds and the slashes of closing tags are rewritten. -/
theorem Units.literalBody_eq (units : Units '\x22' message) :
    literalBody message = replaceWord "</" "<\\/" (replaceWord "\n" "\\n" message) := by
  have read : Simulator.pending? false (replaceWord "\n" "\\n" message) = some false := by
    rw [pending?_replaceWord (by decide) (by decide)]
    exact units.pending?
  rw [literalBody, units.escapeQuotes_eq, evenBackslashes_eq_self read]

/-- A text on one line without a waiting backslash is made of units. -/
theorem units_of_pending? (read : pending? false text = some false) (oneLine : '\n' ∉ text) :
    Units '\x22' text := by
  -- With a backslash in front, the first character belongs to the escape.
  have both : (pending? false text = some false → Units '\x22' text) ∧
      (pending? true text = some false → Units '\x22' ('\\' :: text)) := by
    clear read
    induction text with
    | nil => exact ⟨fun _ => .nil, fun waiting => absurd waiting (by simp)⟩
    | cons c text ih =>
      obtain ⟨notLineFeed, oneLine⟩ : '\n' ≠ c ∧ '\n' ∉ text := by simpa using oneLine
      obtain ⟨plain, waiting⟩ := ih oneLine
      refine ⟨fun read => ?_, fun read => .escape notLineFeed.symm (plain read)⟩
      by_cases backslash : c = '\\'
      · subst backslash
        exact waiting read
      · by_cases quote : c = '\x22'
        · simp [quote] at read
        · exact .plain quote backslash (plain (by rwa [pending?_cons quote backslash] at read))
  exact both.1 read

/-! ## The two changes -/

theorem decode_lineFeeds (lineFeed : escape 'n' = ['\n']) (units : Units '\x22' text) :
    decode escape (replaceWord "\n" "\\n" text) = decode escape text := by
  induction units with
  | nil => rfl
  | @plain c text notQuote notBackslash more ih =>
    rw [decode_cons notBackslash]
    by_cases same : c = '\n'
    · subst same
      have written : replaceWord "\n" "\\n" ('\n' :: text) =
          '\\' :: 'n' :: replaceWord "\n" "\\n" text :=
        replaceWord_append (by decide) _ text
      rw [written, decode_escape, lineFeed, ih]
      rfl
    · rw [replaceWord_cons_of_missing _ (by simpa using Ne.symm same), decode_cons notBackslash, ih]
  | @escape c text inLine more ih =>
    rw [replaceWord_cons_of_missing _ (by simp),
      replaceWord_cons_of_missing _ (by simpa using inLine.symm), decode_escape, decode_escape, ih]

theorem decode_slashes (slash : escape '/' = ['/']) (text : Text) :
    decode escape (replaceWord "</" "<\\/" text) = decode escape text := by
  -- With a backslash in front the text is read as it is behind one.
  have both : decode escape (replaceWord "</" "<\\/" text) = decode escape text ∧
      decode escape ('\\' :: replaceWord "</" "<\\/" text) = decode escape ('\\' :: text) := by
    induction text using induction_on_word (by decide : "</".toList ≠ []) with
    | nil => exact ⟨rfl, rfl⟩
    | found rest ih =>
      have written (text : Text) :
          decode escape ("<\\/".toList ++ text) = '<' :: (escape '/' ++ decode escape text) := rfl
      have written' (text : Text) :
          decode escape ('\\' :: ("<\\/".toList ++ text)) =
            escape '<' ++ (escape '/' ++ decode escape text) := rfl
      rw [replaceWord_append (by decide), written, written', slash, ih.1]
      exact ⟨rfl, rfl⟩
    | plain c rest missing ih =>
      rw [replaceWord_cons_of_missing _ missing]
      refine ⟨?_, by rw [decode_escape, decode_escape, ih.1]⟩
      by_cases backslash : c = '\\'
      · subst backslash
        exact ih.2
      · rw [decode_cons backslash, decode_cons backslash, ih.1]
  exact both.1

/-- A message made of units is written as a literal made of units, on one line, that means the
same. -/
theorem Units.exists_stringLiteral (units : Units '\x22' message) :
    ∃ text, stringLiteral message = '\x22' :: text ++ ['\x22'] ∧ Units '\x22' text ∧
      '\n' ∉ text ∧ ∀ escape : Char → Text, escape 'n' = ['\n'] → escape '/' = ['/'] →
        decode escape text = decode escape message := by
  have oneLine : '\n' ∉ literalBody message := by
    simpa [stringLiteral] using lineFeed_not_mem_stringLiteral message
  have closes := (closing?_literalBody_iff message []).mpr (not_looseQuote_of_units units)
  refine ⟨literalBody message, rfl,
    units_of_pending? (closing?_append_quote_iff.mp closes) oneLine, oneLine, ?_⟩
  intro escape lineFeed slash
  calc decode escape (literalBody message)
      = decode escape (replaceWord "</" "<\\/" (replaceWord "\n" "\\n" message)) := by
        rw [units.literalBody_eq]
    _ = decode escape (replaceWord "\n" "\\n" message) := decode_slashes slash _
    _ = decode escape message := decode_lineFeeds lineFeed units

/-- A message that is found in a Java or Go source is made of units, and so is the literal that is
written for it. The literal stands on one line and means the same as the message, whatever the
escapes mean, as long as those of the letter n and of the slash mean a line feed and a slash. -/
theorem literal_keeps_meaning {source : Text}
    (found : message ∈ findAll javaCall source ∨ message ∈ findAll goCall source) :
    Units '\x22' message ∧
      ∃ text, stringLiteral message = '\x22' :: text ++ ['\x22'] ∧ Units '\x22' text ∧
        '\n' ∉ text ∧ ∀ escape : Char → Text, escape 'n' = ['\n'] → escape '/' = ['/'] →
          decode escape text = decode escape message := by
  have units : Units '\x22' message := found.elim units_of_javaCall units_of_goCall
  exact ⟨units, units.exists_stringLiteral⟩

/-- A message with an escaped backslash before a closing tag, an escaped quote and a line feed of
its own, as it is found in a Go source. -/
theorem literal_keeps_meaning_of_closing_tag :
    let source : Text := "fmt.Println(\"\\\\</b>\\\"\n%d\\\\\", n)"
    let message : Text := "\\\\</b>\\\"\n%d\\\\"
    message ∈ findAll goCall source ∧ Units '\x22' message ∧
      ∃ text, stringLiteral message = '\x22' :: text ++ ['\x22'] ∧ Units '\x22' text ∧
        '\n' ∉ text ∧ ∀ escape : Char → Text, escape 'n' = ['\n'] → escape '/' = ['/'] →
          decode escape text = decode escape message := by
  intro source message
  have found : message ∈ findAll goCall source := by decide
  exact ⟨found, literal_keeps_meaning (Or.inr found)⟩

end SandboxPreview.Simulator
