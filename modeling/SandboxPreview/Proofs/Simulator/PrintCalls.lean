/-
# Messages of print calls

The message of a print call is what stands between the quotes of its literal: plain characters, and
backslashes with the character behind them. In double quotes such a message has no loose quote, so
it ends its own literal nowhere. In single quotes it may have one, and the line that is written for
it then ends its literal early.

## Main definitions

* `Units`: the characters of a literal in given quotes.

## Main results

* `not_looseQuote_of_units`: messages in double quotes have no loose quotes;
* `lines_printed`: each message is written on a line of its own;
* `printed_closes_iff`: when the literals that are written end where they should.
-/
import SandboxPreview.Proofs.Simulator.Literal
import SandboxPreview.Proofs.Text.Lines
import SandboxPreview.Simulator.PrintCalls

namespace SandboxPreview.Simulator

open Pattern

variable {β : Type} {quote : Char} {next : Text → Option β} {text rest message source : Text}
  {result : β}

/-- The characters of a literal: neither the quote nor a backslash stands alone. -/
inductive Units (quote : Char) : Text → Prop
  | nil : Units quote []
  | plain {c : Char} {text : Text} (notQuote : c ≠ quote) (notBackslash : c ≠ '\\')
      (more : Units quote text) : Units quote (c :: text)
  | escape {c : Char} {text : Text} (inLine : c ≠ '\n') (more : Units quote text) :
      Units quote ('\\' :: c :: text)

/-- Behind units in double quotes no backslash waits. -/
theorem Units.pending? (units : Units '\x22' text) : pending? false text = some false := by
  induction units with
  | nil => rfl
  | plain notQuote notBackslash more ih => rwa [pending?_cons notQuote notBackslash]
  | escape inLine more ih => exact ih

/-- A loose quote ends the literal. -/
theorem LooseQuote.pending? (loose : LooseQuote text) : pending? false text = none := by
  obtain ⟨before, n, after, rfl, last⟩ := loose
  rw [List.append_assoc, pending?_append]
  cases read : Simulator.pending? false before with
  | none => rfl
  | some b =>
    have run (n : Nat) : Simulator.pending? false
        (List.replicate (2 * n) '\\' ++ '\x22' :: after) = none := by
      induction n with
      | zero => rfl
      | succ n ih => exact ih
    have parity := pending?_eq_some read
    have none : trailingBackslashes before = 0 := by
      rcases List.eq_nil_or_concat before with rfl | ⟨init, d, rfl⟩
      · rfl
      · rw [List.concat_eq_append, trailingBackslashes_append_singleton]
        exact if_neg (by simpa using last)
    obtain rfl : b = false := by simpa [none] using parity
    exact run (n + 1)

theorem not_looseQuote_of_units (units : Units '\x22' text) : ¬ LooseQuote text := fun loose => by
  simpa [units.pending?] using loose.pending?

/-! ## Reading calls -/

theorem exists_of_literalUnits (found : literalUnits quote next text = some result) :
    ∃ run rest, text = run ++ rest ∧ Units quote run ∧ next rest = some result := by
  fun_induction literalUnits quote next text with
  | case1 => exact ⟨[], [], rfl, .nil, found⟩
  | case2 text => exact ⟨[], _, rfl, .nil, found⟩
  | case3 c text inLine ih =>
    cases longer : literalUnits quote next text with
    | none => exact ⟨[], _, rfl, .nil, by simpa [longer] using found⟩
    | some other =>
      obtain rfl : other = result := by simpa [longer] using found
      obtain ⟨run, rest, rfl, units, last⟩ := ih longer
      exact ⟨'\\' :: c :: run, rest, rfl, .escape inLine units, last⟩
  | case4 c text other stop => exact ⟨[], _, rfl, .nil, found⟩
  | case5 c text other go ih =>
    cases longer : literalUnits quote next text with
    | none => exact ⟨[], _, rfl, .nil, by simpa [longer] using found⟩
    | some other =>
      obtain rfl : other = result := by simpa [longer] using found
      obtain ⟨run, rest, rfl, units, last⟩ := ih longer
      obtain ⟨notQuote, notBackslash⟩ := not_or.mp go
      exact ⟨c :: run, rest, rfl, .plain notQuote notBackslash units, last⟩

theorem exists_of_literalText {next : Text → Text → Option β}
    (found : literalText quote next text = some result) :
    ∃ message rest, Units quote message ∧ next message rest = some result := by
  obtain ⟨opening, start, rfl, -, inner⟩ := exists_of_one found
  obtain ⟨message, stop, rfl, units, closing⟩ := exists_of_literalUnits inner
  obtain ⟨c, rest, rfl, -, last⟩ := exists_of_one closing
  rw [Text.between_append] at last
  exact ⟨message, rest, units, last⟩

theorem exists_of_perhaps {words : List Text} (found : perhaps words next text = some result) :
    ∃ rest, next rest = some result := by
  obtain ⟨choice, member, chosen⟩ := List.exists_of_findSome?_eq_some found
  rcases List.mem_append.mp member with word | whole
  · obtain ⟨w, -, rfl⟩ := List.mem_map.mp word
    obtain ⟨rest, -, last⟩ := literal_eq_some_iff.mp chosen
    exact ⟨rest, last⟩
  · obtain rfl : choice = id := by simpa using whole
    exact ⟨text, chosen⟩

theorem exists_of_openCall (found : openCall next text = some result) :
    ∃ rest, next rest = some result := by
  obtain ⟨_, _, _, _, opened⟩ := exists_of_greedy found
  obtain ⟨_, _, inner⟩ := literal_eq_some_iff.mp opened
  obtain ⟨_, rest, _, _, last⟩ := exists_of_greedy inner
  exact ⟨rest, last⟩

theorem exists_of_closeCall (found : closeCall next text = some result) :
    ∃ rest, next rest = some result := by
  obtain ⟨_, _, _, _, closed⟩ := exists_of_greedy found
  obtain ⟨rest, _, last⟩ := literal_eq_some_iff.mp closed
  exact ⟨rest, last⟩

theorem units_of_onlyArgument (found : onlyArgument quote text = some (message, rest)) :
    Units quote message := by
  obtain ⟨inside, behind, units, closed⟩ := exists_of_literalText found
  obtain ⟨last, taken⟩ := exists_of_closeCall closed
  obtain ⟨rfl, -⟩ : inside = message ∧ last = rest := by simpa using taken
  exact units

theorem units_of_javaCall (member : message ∈ findAll javaCall source) :
    Units '\x22' message := by
  obtain ⟨tail, rest, found⟩ := exists_of_mem_findAll member
  obtain ⟨_, _, named⟩ := literal_eq_some_iff.mp found
  obtain ⟨_, opened⟩ := exists_of_perhaps named
  obtain ⟨_, argument⟩ := exists_of_openCall opened
  exact units_of_onlyArgument argument

theorem units_of_goCall (member : message ∈ findAll goCall source) : Units '\x22' message := by
  obtain ⟨tail, rest, found⟩ := exists_of_mem_findAll member
  obtain ⟨_, _, named⟩ := literal_eq_some_iff.mp found
  obtain ⟨_, opened⟩ := exists_of_perhaps named
  obtain ⟨_, argument⟩ := exists_of_openCall opened
  obtain ⟨inside, behind, units, taken⟩ := exists_of_literalText argument
  obtain ⟨rfl, -⟩ : inside = message ∧ behind = rest := by simpa using taken
  exact units

theorem units_of_pythonCall (member : message ∈ findAll pythonCall source) :
    Units '\x27' message ∨ Units '\x22' message := by
  obtain ⟨tail, rest, found⟩ := exists_of_mem_findAll member
  obtain ⟨_, _, named⟩ := literal_eq_some_iff.mp found
  obtain ⟨behind, argument⟩ := exists_of_openCall named
  rcases orElse_eq_some_iff.mp argument with single | ⟨-, double⟩
  · exact Or.inl (units_of_onlyArgument single)
  · exact Or.inr (units_of_onlyArgument double)

/-! ## Written lines -/

theorem lineFeed_not_mem_consoleLog (message : Text) : '\n' ∉ consoleLog message := by
  intro member
  rcases List.mem_append.mp member with start | back
  · rcases List.mem_append.mp start with front | literal
    · exact absurd front (by decide)
    · exact lineFeed_not_mem_stringLiteral message literal
  · exact absurd back (by decide)

/-- Each message is written on a line of its own. -/
theorem lines_printed {call : Reader Text} (called : findAll call source ≠ []) :
    Text.lines (printed call source) = (findAll call source).map consoleLog := by
  refine Text.lines_join ?_ (by simpa using called)
  intro line member
  obtain ⟨message, -, rfl⟩ := List.mem_map.mp member
  exact lineFeed_not_mem_consoleLog message

/-- A literal stands on one line between quotes, and it ends at the second of them exactly when no
quote of its message is loose. The messages of print calls are written on lines of their own, each
with its literal as the argument of one call; no message in double quotes has a loose quote. -/
theorem printed_closes_iff (call : Reader Text) (source message : Text) :
    ('\n' ∉ stringLiteral message ∧
      ∃ body, stringLiteral message = '\x22' :: body ++ ['\x22'] ∧
        (closing? (body ++ ['\x22']) = some [] ↔ ¬ LooseQuote message)) ∧
    (findAll call source ≠ [] →
      Text.lines (printed call source) = (findAll call source).map fun message =>
        "console.log(".toList ++ stringLiteral message ++ ");".toList) ∧
    (message ∈ findAll javaCall source ∨ message ∈ findAll goCall source →
      ¬ LooseQuote message) ∧
    (message ∈ findAll pythonCall source → LooseQuote message → Units '\x27' message) := by
  refine ⟨?_, ?_, ?_, ?_⟩
  · exact ⟨lineFeed_not_mem_stringLiteral message, literalBody message, rfl,
      closing?_literalBody_iff message []⟩
  · exact fun called => lines_printed called
  · rintro (java | go)
    · exact not_looseQuote_of_units (units_of_javaCall java)
    · exact not_looseQuote_of_units (units_of_goCall go)
  · intro python loose
    exact (units_of_pythonCall python).resolve_right fun units =>
      not_looseQuote_of_units units loose

/-- Two backslashes before a quote end the literal there. What the print call has behind them
becomes a statement of its own. -/
theorem printed_breaks_out :
    stringLiteral "\\\\\"" = "\"\\\\\"\"".toList ∧ closing? "\\\\\"\"".toList = some "\"".toList ∧
      printed pythonCall "print('\\\\\");alert(1)//')" =
        "console.log(\"\\\\\");alert(1)//\");".toList := by
  decide

end SandboxPreview.Simulator
