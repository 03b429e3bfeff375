/-
# The end of a string literal

A literal ends at the first quote that no backslash takes along. A message is written so that this
is the quote behind it, with one exception: a quote of the message is given a backslash only when
none stands before it. An even number of backslashes before a quote take each other along, and the
quote ends the literal early.

## Main definitions

* `closing?`: what follows the end of a literal;
* `pending?`: whether a text leaves a backslash waiting for a character;
* `LooseQuote`: a quote that ends its literal early.

## Main results

* `pending?_replaceWord`: a word may be replaced by one that is read alike;
* `closing?_literalBody_iff`: a literal ends where it should unless its message has a loose quote.
-/
import SandboxPreview.Proofs.Text.Replacement
import SandboxPreview.Simulator.Literal

namespace SandboxPreview.Simulator

open Pattern

variable {message text rest : Text} {c : Char} {b : Bool}

/-- What follows the closing quote, read from behind the opening one. A backslash takes the
character behind it along. -/
def closing? : Text → Option Text
  | [] => none
  | '\\' :: _ :: text => closing? text
  | c :: text => if c = '\x22' then some text else closing? text

/-- Whether a backslash waits for the next character after the text, and before it at the start; no
value when a quote of the text ends the literal. -/
def pending? : (pending : Bool) → Text → Option Bool
  | pending, [] => some pending
  | true, _ :: text => pending? false text
  | false, c :: text => if c = '\x22' then none else pending? (c == '\\') text

@[simp] theorem pending?_nil (b : Bool) : pending? b [] = some b := by
  cases b <;> rfl

@[simp] theorem pending?_true_cons (c : Char) (text : Text) :
    pending? true (c :: text) = pending? false text := rfl

@[simp] theorem pending?_backslash (text : Text) :
    pending? false ('\\' :: text) = pending? true text := rfl

@[simp] theorem pending?_quote (text : Text) : pending? false ('\x22' :: text) = none := rfl

theorem pending?_cons (quote : c ≠ '\x22') (backslash : c ≠ '\\') (b : Bool) (text : Text) :
    pending? b (c :: text) = pending? false text := by
  cases b with
  | true => rfl
  | false => rw [pending?, if_neg quote, beq_eq_false_iff_ne.mpr backslash]

theorem pending?_append (b : Bool) (text rest : Text) :
    pending? b (text ++ rest) = (pending? b text).bind fun b => pending? b rest := by
  induction text generalizing b with
  | nil => simp
  | cons c text ih =>
    cases b with
    | true => exact ih false
    | false =>
      rw [List.cons_append, pending?, pending?]
      by_cases quote : c = '\x22'
      · simp [quote]
      · simp [quote, ih]

theorem length_of_closing? (found : closing? text = some rest) : rest.length < text.length := by
  fun_induction closing? text with
  | case1 => simp at found
  | case2 c text ih =>
    refine (ih found).trans ?_
    rw [List.length_cons, List.length_cons]
    omega
  | case3 text other =>
    obtain rfl : text = rest := by simpa using found
    simp
  | case4 c text other different ih => exact (ih found).trans (by simp)

/-- The quote behind a text ends the literal when the text leaves no backslash waiting. -/
theorem closing?_append_quote_iff :
    closing? (text ++ '\x22' :: rest) = some rest ↔ pending? false text = some false := by
  -- With a backslash in front the text is read as it is behind one.
  have both : (closing? (text ++ '\x22' :: rest) = some rest ↔ pending? false text = some false) ∧
      (closing? ('\\' :: (text ++ '\x22' :: rest)) = some rest ↔
        pending? true text = some false) := by
    induction text with
    | nil =>
      refine ⟨by simp [closing?], iff_of_false (fun found => ?_) (by simp)⟩
      have again : closing? rest = some rest := found
      exact absurd (length_of_closing? again) (by simp)
    | cons c text ih =>
      refine ⟨?_, ih.1⟩
      by_cases backslash : c = '\\'
      · subst backslash
        exact ih.2
      · have here : closing? (c :: text ++ '\x22' :: rest) =
            if c = '\x22' then some (text ++ '\x22' :: rest)
            else closing? (text ++ '\x22' :: rest) := by
          rw [List.cons_append, closing?]
          rintro d rest rfl
          exact absurd rfl backslash
        by_cases quote : c = '\x22'
        · rw [here, if_pos quote, quote]
          refine iff_of_false (fun same => ?_) (by simp)
          exact absurd (congrArg List.length (Option.some.inj same)) (by simp; omega)
        · rw [here, if_neg quote, pending?_cons quote backslash, ih.1]
  exact both.1

/-- A word that is replaced by one that is read alike makes no difference. -/
theorem pending?_replaceWord {word new : Text} (nonempty : word ≠ [])
    (alike : ∀ b, pending? b new = pending? b word) (b : Bool) (text : Text) :
    pending? b (replaceWord word new text) = pending? b text := by
  induction text using induction_on_word nonempty generalizing b with
  | nil => rfl
  | found rest ih =>
    rw [replaceWord_append nonempty, pending?_append, pending?_append, alike]
    exact Option.bind_congr fun b _ => ih b
  | plain c rest missing ih =>
    rw [replaceWord_cons_of_missing new missing]
    cases b with
    | true => exact ih false
    | false => rw [pending?, pending?, ih]

/-! ## Backslashes at the end -/

theorem trailingBackslashes_append_singleton (text : Text) (c : Char) :
    trailingBackslashes (text ++ [c]) = if c = '\\' then trailingBackslashes text + 1 else 0 := by
  by_cases backslash : c = '\\' <;> simp [trailingBackslashes, backslash]

/-- A backslash waits when their number at the end is odd. -/
theorem pending?_eq_some (read : pending? false text = some b) :
    b = decide (trailingBackslashes text % 2 = 1) := by
  induction text using List.reverseRecOn generalizing b with
  | nil => simpa [pending?, trailingBackslashes] using read.symm
  | append_singleton text c ih =>
    rw [pending?_append] at read
    obtain ⟨before, inner, last⟩ := Option.bind_eq_some_iff.mp read
    have parity := ih inner
    rw [trailingBackslashes_append_singleton]
    cases before with
    | true =>
      -- The character is taken along, so that nothing waits behind it.
      obtain rfl : false = b := by simpa using last
      by_cases backslash : c = '\\'
      · have odd : trailingBackslashes text % 2 = 1 := by simpa using parity.symm
        simp only [backslash, if_true]
        exact (decide_eq_false (by omega)).symm
      · simp [backslash]
    | false =>
      have even : ¬ trailingBackslashes text % 2 = 1 := by simpa using parity.symm
      by_cases backslash : c = '\\'
      · obtain rfl : true = b := by simpa [backslash] using last
        simp only [backslash, if_true]
        exact (decide_eq_true (by omega)).symm
      · by_cases quote : c = '\x22'
        · simp [quote] at last
        · obtain rfl : false = b := by simpa [pending?_cons quote backslash] using last
          simp [backslash]

theorem pending?_evenBackslashes :
    pending? false (evenBackslashes text) = some false ↔ pending? false text ≠ none := by
  rw [evenBackslashes]
  cases read : pending? false text with
  | none =>
    split
    case isTrue => simp [pending?_append, read]
    case isFalse => simp [read]
  | some b =>
    have parity := pending?_eq_some read
    split
    case isTrue odd =>
      obtain rfl : b = true := by simpa [odd] using parity
      simp [pending?_append, read]
    case isFalse even =>
      obtain rfl : b = false := by simpa [even] using parity
      simp [read]

/-! ## Loose quotes -/

/-- Right before a quote stands an even number of backslashes, and not none. -/
def LooseQuote (message : Text) : Prop :=
  ∃ before n after, message = before ++ List.replicate (2 * n + 2) '\\' ++ '\x22' :: after ∧
    before.getLast? ≠ some '\\'

theorem not_looseQuote_replicate (n : Nat) : ¬ LooseQuote (List.replicate n '\\') := by
  rintro ⟨before, k, after, split, -⟩
  have member : '\x22' ∈ List.replicate n '\\' := by simp [split]
  exact absurd (List.eq_of_mem_replicate member) (by decide)

/-- Backslashes are followed by another character; the first loose quote is that one or stands
behind it. -/
theorem looseQuote_replicate_append_iff (n : Nat) (backslash : c ≠ '\\') :
    LooseQuote (List.replicate n '\\' ++ c :: text) ↔
      (c = '\x22' ∧ n ≠ 0 ∧ n % 2 = 0) ∨ LooseQuote text := by
  constructor
  · rintro ⟨before, k, after, split, last⟩
    rw [List.append_assoc] at split
    rcases List.append_eq_append_iff.mp split with ⟨more, rfl, inner⟩ | ⟨more, run, inner⟩
    · right
      cases more with
      | nil => exact absurd (List.cons.inj inner).1 backslash
      | cons d more =>
        obtain ⟨rfl, rfl⟩ := List.cons.inj inner
        refine ⟨more, k, after, by simp, ?_⟩
        cases more with
        | nil => simp
        | cons d more => simpa using last
    · left
      obtain ⟨count, front, behind⟩ := List.append_eq_replicate_iff.mp run.symm
      -- The front holds backslashes only and does not end in one.
      obtain rfl : before = [] := by
        rcases List.eq_nil_or_concat before with empty | ⟨init, d, rfl⟩
        · exact empty
        · have member : d ∈ List.replicate (init.concat d).length '\\' := front ▸ by simp
          simp [List.eq_of_mem_replicate member] at last
      rw [behind] at inner
      have run : 2 * k + 2 = more.length := by
        simpa [backslash] using congrArg (List.takeWhile (· == '\\')) inner
      have rest : '\x22' = c ∧ after = text := by
        simpa [backslash] using congrArg (List.dropWhile (· == '\\')) inner
      rw [List.length_nil] at count
      exact ⟨rest.1.symm, by omega, by omega⟩
  · rintro (⟨rfl, positive, even⟩ | ⟨before, k, after, rfl, last⟩)
    · obtain ⟨k, rfl⟩ : ∃ k, n = 2 * k + 2 := ⟨n / 2 - 1, by omega⟩
      exact ⟨[], k, text, by simp, by simp⟩
    · refine ⟨List.replicate n '\\' ++ c :: before, k, after, by simp, ?_⟩
      cases before with
      | nil => simpa using backslash
      | cons d before => simpa using last

/-- Behind any number of backslashes, the quotes of a message that are not given a backslash end the
literal exactly when one of them is loose. -/
theorem pending?_escapeQuotes_eq_none_iff (n : Nat) (message : Text) :
    pending? (decide (n % 2 = 1)) (escapeQuotes (decide (n ≠ 0)) message) = none ↔
      LooseQuote (List.replicate n '\\' ++ message) := by
  induction message generalizing n with
  | nil => simp [escapeQuotes, not_looseQuote_replicate]
  | cons c message ih =>
    have ih₀ : pending? false (escapeQuotes false message) = none ↔ LooseQuote message := ih 0
    by_cases backslash : c = '\\'
    · -- One backslash more stands before the rest.
      subst backslash
      have step : List.replicate n '\\' ++ '\\' :: message =
          List.replicate (n + 1) '\\' ++ message := by
        rw [List.replicate_succ', List.append_assoc, List.singleton_append]
      rw [step, ← ih (n + 1), escapeQuotes, if_neg (by simp)]
      by_cases odd : n % 2 = 1
      · have even : ¬ (n + 1) % 2 = 1 := by omega
        simp [odd, even]
      · have next : (n + 1) % 2 = 1 := by omega
        simp [odd, next]
    · rw [looseQuote_replicate_append_iff n backslash]
      by_cases quote : c = '\x22'
      · subst quote
        by_cases none : n = 0
        · subst none
          simpa [escapeQuotes] using ih₀
        · by_cases odd : n % 2 = 1
          · have even : ¬ n % 2 = 0 := by omega
            simpa [escapeQuotes, none, odd, even] using ih₀
          · have even : n % 2 = 0 := by omega
            simp [escapeQuotes, none, even]
      · have plain : (c == '\\') = false := beq_eq_false_iff_ne.mpr backslash
        simpa [escapeQuotes, quote, pending?_cons quote backslash, plain] using ih₀

/-! ## The literal of a message -/

/-- A literal ends at its last character unless its message has a loose quote. -/
theorem closing?_literalBody_iff (message rest : Text) :
    closing? (literalBody message ++ '\x22' :: rest) = some rest ↔ ¬ LooseQuote message := by
  have lineFeeds (text : Text) :
      pending? false (replaceWord "\n" "\\n" text) = pending? false text :=
    pending?_replaceWord (by decide) (by decide) false text
  have slashes (text : Text) :
      pending? false (replaceWord "</" "<\\/" text) = pending? false text :=
    pending?_replaceWord (by decide) (by decide) false text
  rw [closing?_append_quote_iff, literalBody, slashes, pending?_evenBackslashes, lineFeeds, ne_eq]
  exact not_congr (pending?_escapeQuotes_eq_none_iff 0 message)

/-- A literal stands on one line. -/
theorem lineFeed_not_mem_stringLiteral (message : Text) : '\n' ∉ stringLiteral message := by
  have replaced : '\n' ∉ replaceWord "\n" "\\n" (escapeQuotes false message) :=
    not_mem_replaceWord_singleton (by decide) _
  have even : '\n' ∉ evenBackslashes (replaceWord "\n" "\\n" (escapeQuotes false message)) := by
    rw [evenBackslashes]
    split
    case isTrue => simpa using replaced
    case isFalse => exact replaced
  have body : '\n' ∉ literalBody message := fun member =>
    (mem_of_mem_replaceWord (by decide) member).elim (by decide) even
  simpa [stringLiteral] using body

end SandboxPreview.Simulator
