/-
# What is left of the lines of a module

A module is written line by line: plain code, imports, declarations behind export words, and
bindings that are passed on from another module. Four patterns are taken out one after the other,
and none of them reaches over the end of a line, so what is left is found line by line. An import
goes as a whole and an exported declaration loses its export words. No pattern is made for bindings
that are passed on: only the word in front of them goes, and the clause behind them stays.

## Main definitions

* `Line`: a line of a module, as it is written and as it is kept;
* `HasClause`: a text names a module that something comes from;
* `Leaves`, `Strips`: what one pass and what all passes leave of a line.

## Main results

* `removeAll_join`: a pass over lines that are treated apart;
* `Line.strips`: what is left of each line;
* `hasClause_removeAll`: export words are taken out beside a clause;
* `link_keeps_lines`: what is left of a module, and where words of modules stand in it.
-/
import SandboxPreview.Proofs.Linking.Arrangement
import SandboxPreview.Proofs.Linking.Imports
import SandboxPreview.Proofs.Text.Framing
import SandboxPreview.Proofs.Text.Lines

namespace SandboxPreview.Linking

open Pattern Text

/-! ## The lines of a module -/

/-- Behind each word `from` the line goes on with something that is not a quoted specifier. -/
def Settled (text : Text) : Prop :=
  ∀ gap tail, Blank gap → ("from" : Text) ++ (gap ++ tail) <:+ text →
    ∃ c, tail.head? = some c ∧ isQuote c = false

/-- There is a clause in the text that names a module: the word `from` before a quote. -/
def HasClause (text : Text) : Prop :=
  ∃ gap c, Blank gap ∧ isQuote c = true ∧ ("from" : Text) ++ (gap ++ [c]) <:+: text

/-- Code without the words of imports and exports. -/
structure Wordless (text : Text) : Prop where
  noImport : ¬ ("import" : Text) <:+: text
  noExport : ¬ ("export" : Text) <:+: text
  settled : Settled text

/-- What stands behind export words. -/
structure Declaration where
  text : Text
  wordless : Wordless text
  solid : ∃ c rest, text = c :: rest ∧ isBlank c = false

/-- Bindings that are passed on from another module, up to its specifier. -/
def passedOnLead (before : Gap) (names : Names) (behind last : Gap) : Text :=
  ("export" : Text) ++
    (before.text ++ (names.text ++ (behind.text ++ (("from" : Text) ++ last.text))))

/-- A line of a module. The blanks and the bindings of a statement may hold line feeds. -/
inductive Line where
  /-- Code that is neither imported nor exported. -/
  | code (text : Text) (wordless : Wordless text)
  /-- An import of bindings. -/
  | bindings (before : Gap) (names : Names) (behind last : Gap) (source : Quoted)
      (semicolon : Bool)
  /-- An import for its effects. -/
  | effects (before : Gap) (source : Quoted) (semicolon : Bool)
  /-- An exported default value. -/
  | exportedDefault (before behind : Gap) (declared : Declaration)
  /-- An exported declaration. -/
  | exported (before : Gap) (declared : Declaration)
      (notDefault : ¬ ("default" : Text) <+: declared.text)
  /-- Bindings that are passed on; they do not read as an import. -/
  | passedOn (before : Gap) (names : Names) (behind last : Gap) (source : Quoted)
      (closed : Closed (passedOnLead before names behind last))

namespace Line

/-- The line as it is written. -/
def text : Line → Text
  | code text _ => text
  | bindings before names behind last source semicolon =>
    bindingsLead before names behind last ++ source.text semicolon
  | effects before source semicolon => effectsLead before ++ source.text semicolon
  | exportedDefault before behind declared =>
    ("export" : Text) ++ (before.text ++ (("default" : Text) ++ (behind.text ++ declared.text)))
  | exported before declared _ => ("export" : Text) ++ (before.text ++ declared.text)
  | passedOn before names behind last source _ =>
    passedOnLead before names behind last ++ source.text true

/-- What is kept of the line. -/
def kept : Line → Text
  | code text _ => text
  | bindings .. => []
  | effects .. => []
  | exportedDefault _ _ declared => declared.text
  | exported _ declared _ => declared.text
  | passedOn before names behind last source closed =>
    stripExports (text (passedOn before names behind last source closed))

/-- The line passes bindings on. -/
def isPassedOn : Line → Bool
  | passedOn .. => true
  | _ => false

end Line

/-- The lines as they are written, one below the other. -/
def written (lines : List Line) : Text := join "\n" (lines.map Line.text)

/-- What is kept of the lines, one below the other. -/
def remaining (lines : List Line) : Text := join "\n" (lines.map Line.kept)

variable {α σ : Type} {pattern : Reader α} {word lead text line left rest : Text}

/-! ## One pass over lines -/

/-- The word does not reach over the end of the line. -/
theorem prefix_append_of_lineEnds (absent : '\n' ∉ word) (ends : LineEnds rest) :
    word <+: text ++ rest ↔ word <+: text := by
  cases rest with
  | nil => rw [List.append_nil]
  | cons c rest =>
    obtain rfl := ends c rfl
    exact prefix_append_cons_iff absent

/-- Whatever comes below the line, taking out the matches leaves this of it. -/
def Leaves (pattern : Reader α) (line left : Text) : Prop :=
  ∀ rest, LineEnds rest → removeAll pattern (line ++ rest) = left ++ removeAll pattern rest

theorem leaves_nil (pattern : Reader α) : Leaves pattern [] [] := fun _ _ => rfl

theorem leaves_of_none (missing : ∀ rest, LineEnds rest → ∀ tail, tail ≠ [] → tail <:+ text →
    pattern (tail ++ rest) = none) : Leaves pattern text text :=
  fun rest ends => replaceAll_append_of_none (missing rest ends)

/-- A text stays as it is when the matches start with a word that is not in it. -/
theorem leaves_of_not_infix (starts : StartsWith word pattern) (absent : '\n' ∉ word)
    (missing : ¬ word <:+: text) : Leaves pattern text text := by
  refine leaves_of_none fun rest ends tail _ isTail => starts.eq_none fun stands => ?_
  rw [prefix_append_of_lineEnds absent ends] at stands
  exact missing (stands.isInfix.trans isTail.isInfix)

/-- A line that is matched as a whole goes. -/
theorem leaves_of_whole (consuming : Consuming pattern)
    (reads : ∀ rest, LineEnds rest → ∃ a, pattern (line ++ rest) = some (a, rest)) :
    Leaves pattern line [] := by
  intro rest ends
  obtain ⟨a, here⟩ := reads rest ends
  rw [removeAll, removeAll, replaceAll_of_some consuming here]

/-- A match at the start of the line goes, and the pass goes on behind it. -/
theorem leaves_of_match (consuming : Consuming pattern)
    (reads : ∀ rest, LineEnds rest → ∃ a, pattern (lead ++ text ++ rest) = some (a, text ++ rest))
    (behind : Leaves pattern text left) : Leaves pattern (lead ++ text) left := by
  intro rest ends
  obtain ⟨a, here⟩ := reads rest ends
  rw [← behind rest ends, removeAll, removeAll, replaceAll_of_some consuming here, List.nil_append]

/-- A character at which matches stop ends a line of any text. -/
theorem leaves_of_stopsAt {c : Char} (consuming : Consuming pattern) (stops : StopsAt c pattern)
    (text : Text) : Leaves pattern (text ++ [c]) (removeAll pattern text ++ [c]) := by
  intro rest _
  rw [removeAll, List.append_assoc, List.singleton_append,
    replaceAll_append_cons consuming stops, List.append_assoc, List.singleton_append]
  rfl

theorem Leaves.eq (leaves : Leaves pattern line left) : removeAll pattern line = left := by
  have alone := leaves [] (fun c head => by simp at head)
  have empty : removeAll pattern [] = [] := rfl
  rwa [List.append_nil, empty, List.append_nil] at alone

/-- A pass over lines that it treats apart. -/
theorem removeAll_join {lines : List σ} {line left : σ → Text}
    (lineFeed : ∀ rest, pattern ('\n' :: rest) = none)
    (leaves : ∀ l, Leaves pattern (line l) (left l)) :
    removeAll pattern (join "\n" (lines.map line)) = join "\n" (lines.map left) := by
  induction lines with
  | nil => rfl
  | cons first lines ih =>
    cases lines with
    | nil => simpa [join] using (leaves first).eq
    | cons second lines =>
      rw [List.map_cons] at ih
      simp only [List.map_cons, join_lineFeed_cons_cons]
      rw [leaves first _ (lineEnds_lineFeed _), removeAll,
        replaceAll_cons_of_none (lineFeed _), ← removeAll, ih, List.map_cons]

/-! ## The four passes -/

/-- What the four passes leave of a line, one after the other. -/
def Strips (line left : Text) : Prop :=
  ∃ first second third, Leaves fromImport line first ∧ Leaves effectImport first second ∧
    Leaves exportDefault second third ∧ Leaves exportWord third left

theorem IsForm.startsWith {form : Reader Import} (isForm : IsForm form) :
    StartsWith "import" form := by
  intro text found matched
  obtain ⟨c, -, stands⟩ := isForm.opens matched
  exact (List.prefix_append _ _).trans stands

theorem startsWith_exportDefault : StartsWith "export" exportDefault := startsWith_literal _ _

theorem startsWith_exportWord : StartsWith "export" exportWord := startsWith_literal _ _

theorem consuming_exportDefault : Consuming exportDefault :=
  ((((advancing_some _).greedy₁ _).literal _).greedy₁ _).consuming (by decide)

theorem consuming_exportWord : Consuming exportWord :=
  ((advancing_some _).greedy₁ _).consuming (by decide)

theorem stopsAt_exportDefault : StopsAt ';' exportDefault := fun text rest =>
  ((((ignores_done (';' :: rest)).greedy₁ (by decide)).literal (by decide)).greedy₁
    (by decide)).literal (by decide) text

theorem stopsAt_exportWord : StopsAt ';' exportWord := fun text rest =>
  ((ignores_done (';' :: rest)).greedy₁ (by decide)).literal (by decide) text

/-- Lines that are treated apart in each pass are stripped apart. -/
theorem stripped_join {line left : σ → Text} (strips : ∀ l, Strips (line l) (left l))
    (lines : List σ) :
    stripped (join "\n" (lines.map line)) = join "\n" (lines.map left) := by
  choose first second third bindings effects defaults words using strips
  rw [stripped, stripExports, removeAll_join isForm_fromImport.eq_none_of_lineFeed bindings,
    removeAll_join isForm_effectImport.eq_none_of_lineFeed effects,
    removeAll_join (fun _ => rfl) defaults, removeAll_join (fun _ => rfl) words]

/-- A line without imports is met by the passes for exports as it is written. -/
theorem strips_of_noImport {third : Text} (noImport : ¬ ("import" : Text) <:+: line)
    (defaults : Leaves exportDefault line third) (words : Leaves exportWord third left) :
    Strips line left :=
  ⟨line, line, third, leaves_of_not_infix isForm_fromImport.startsWith (by decide) noImport,
    leaves_of_not_infix isForm_effectImport.startsWith (by decide) noImport, defaults, words⟩

/-! ## Exported declarations -/

theorem Wordless.leaves_exportDefault (wordless : Wordless text) :
    Leaves exportDefault text text :=
  leaves_of_not_infix startsWith_exportDefault (by decide) wordless.noExport

theorem Wordless.leaves_exportWord (wordless : Wordless text) : Leaves exportWord text text :=
  leaves_of_not_infix startsWith_exportWord (by decide) wordless.noExport

/-- Blanks end where a declaration starts. -/
theorem Declaration.stops (declared : Declaration) (rest : Text) (c : Char)
    (head : (declared.text ++ rest).head? = some c) : isBlank c = false := by
  obtain ⟨d, text, same, solid⟩ := declared.solid
  obtain rfl : d = c := by simpa [same] using head
  exact solid

theorem exportDefault_declared (before behind : Gap) (declared : Declaration) (rest : Text) :
    exportDefault (("export" : Text) ++ (before.text ++ (("default" : Text) ++
      (behind.text ++ (declared.text ++ rest))))) = some ((), declared.text ++ rest) := by
  rw [exportDefault, literal_append]
  refine greedy₁_append before.nonempty before.blank (by simp; decide) ?_
  rw [literal_append]
  exact greedy₁_append behind.nonempty behind.blank (declared.stops rest) rfl

theorem exportWord_declared (before : Gap) (declared : Declaration) (rest : Text) :
    exportWord (("export" : Text) ++ (before.text ++ (declared.text ++ rest))) =
      some ((), declared.text ++ rest) := by
  rw [exportWord, literal_append]
  exact greedy₁_append before.nonempty before.blank (declared.stops rest) rfl

/-- Behind the word and its blanks stands no default value. -/
theorem exportDefault_eq_none (before : Gap) (declared : Declaration)
    (notDefault : ¬ ("default" : Text) <+: declared.text) (ends : LineEnds rest) :
    exportDefault (("export" : Text) ++ (before.text ++ (declared.text ++ rest))) = none := by
  rw [Option.eq_none_iff_forall_ne_some]
  intro found matched
  rw [exportDefault, literal_append] at matched
  obtain ⟨run, _, split, -, blank, matched⟩ := exists_of_greedy₁ matched
  obtain ⟨behind, rfl, -⟩ := literal_eq_some_iff.mp matched
  -- Both runs of blanks are whole, so the same stands behind them.
  have same : declared.text ++ rest = ("default" : Text) ++ behind := by
    obtain ⟨c, text, here, solid⟩ := declared.solid
    have trimmed := congrArg trimStart split
    rw [trimStart_blanks_append _ before.blank, trimStart_blanks_append _ blank, here] at trimmed
    rw [here]
    simpa [trimStart, solid, show isBlank 'd' = false by decide] using trimmed
  rw [← prefix_append_of_lineEnds (by decide) ends, same] at notDefault
  exact notDefault (List.prefix_append _ _)

/-- The word stands nowhere in an exported declaration but at its start. -/
theorem not_export_infix (before : Gap) (wordless : Wordless text) :
    ¬ ("export" : Text) <:+: ("xport" : Text) ++ (before.text ++ text) := by
  have absent : 'e' ∉ ("xport" : Text) ++ before.text := by
    rw [List.mem_append, not_or]
    exact ⟨by decide, not_mem_of_blank (by decide) before.blank⟩
  intro stands
  rw [← List.append_assoc] at stands
  exact wordless.noExport (infix_of_infix_append absent stands)

theorem leaves_exportDefault_exported (before : Gap) (declared : Declaration)
    (notDefault : ¬ ("default" : Text) <+: declared.text) :
    Leaves exportDefault (("export" : Text) ++ (before.text ++ declared.text))
      (("export" : Text) ++ (before.text ++ declared.text)) := by
  have cut : ("export" : Text) ++ (before.text ++ declared.text) =
      'e' :: (("xport" : Text) ++ (before.text ++ declared.text)) := rfl
  refine leaves_of_none fun rest ends tail nonempty isTail => ?_
  -- A match could only start with the line itself, and there the default value is missing.
  rw [cut] at isTail
  rcases List.suffix_cons_iff.mp isTail with rfl | behind
  · rw [← cut, List.append_assoc, List.append_assoc]
    exact exportDefault_eq_none before declared notDefault ends
  · refine startsWith_exportDefault.eq_none fun stands => ?_
    rw [prefix_append_of_lineEnds (by decide) ends] at stands
    exact not_export_infix before declared.wordless (stands.isInfix.trans behind.isInfix)

theorem strips_exported (before : Gap) (declared : Declaration)
    (notDefault : ¬ ("default" : Text) <+: declared.text) :
    Strips (("export" : Text) ++ (before.text ++ declared.text)) declared.text := by
  have absent : 'i' ∉ ("export" : Text) ++ before.text := by
    rw [List.mem_append, not_or]
    exact ⟨by decide, not_mem_of_blank (by decide) before.blank⟩
  refine strips_of_noImport (fun stands => ?_)
    (leaves_exportDefault_exported before declared notDefault) ?_
  · rw [← List.append_assoc] at stands
    exact declared.wordless.noImport (infix_of_infix_append absent stands)
  · rw [← List.append_assoc]
    refine leaves_of_match consuming_exportWord (fun rest _ => ⟨(), ?_⟩)
      declared.wordless.leaves_exportWord
    simpa using exportWord_declared before declared rest

theorem strips_exportedDefault (before behind : Gap) (declared : Declaration) :
    Strips (("export" : Text) ++ (before.text ++ (("default" : Text) ++
      (behind.text ++ declared.text)))) declared.text := by
  have absent :
      'i' ∉ ("export" : Text) ++ (before.text ++ (("default" : Text) ++ behind.text)) := by
    simp only [List.mem_append, not_or]
    exact ⟨by decide, not_mem_of_blank (by decide) before.blank, by decide,
      not_mem_of_blank (by decide) behind.blank⟩
  have split : ("export" : Text) ++ (before.text ++ (("default" : Text) ++
      (behind.text ++ declared.text))) = ("export" : Text) ++ (before.text ++
        (("default" : Text) ++ behind.text)) ++ declared.text := by
    simp only [List.append_assoc]
  rw [split]
  refine strips_of_noImport (fun stands => ?_) ?_ declared.wordless.leaves_exportWord
  · exact declared.wordless.noImport (infix_of_infix_append absent stands)
  · refine leaves_of_match consuming_exportDefault (fun rest _ => ⟨(), ?_⟩)
      declared.wordless.leaves_exportDefault
    simpa using exportDefault_declared before behind declared rest

/-! ## Bindings that are passed on -/

/-- A statement up to its semicolon is treated apart by the passes for exports. -/
theorem leaves_stripExports (text : Text) : ∃ third,
    Leaves exportDefault (text ++ [';']) third ∧
      Leaves exportWord third (stripExports (text ++ [';'])) := by
  have defaults := leaves_of_stopsAt consuming_exportDefault stopsAt_exportDefault text
  have words := leaves_of_stopsAt consuming_exportWord stopsAt_exportWord
    (removeAll exportDefault text)
  refine ⟨_, defaults, ?_⟩
  rwa [stripExports, defaults.eq, words.eq]

theorem strips_passedOn (source : Quoted) (closed : Closed lead) :
    Strips (lead ++ source.text true) (stripExports (lead ++ source.text true)) := by
  obtain ⟨third, defaults, words⟩ :=
    leaves_stripExports (lead ++ source.opening :: (source.specifier ++ [source.closing]))
  have ended : lead ++ source.opening :: (source.specifier ++ [source.closing]) ++ [';'] =
      lead ++ source.text true := by
    simp [Quoted.text]
  rw [ended] at defaults words
  exact ⟨_, _, third,
    leaves_of_none fun rest ends _ => isForm_fromImport.eq_none_of_quoted closed source ends,
    leaves_of_none fun rest ends _ => isForm_effectImport.eq_none_of_quoted closed source ends,
    defaults, words⟩

/-- What the four passes leave of each line. -/
theorem Line.strips (l : Line) : Strips l.text l.kept := by
  cases l with
  | code text wordless =>
    exact strips_of_noImport wordless.noImport wordless.leaves_exportDefault
      wordless.leaves_exportWord
  | bindings before names behind last source semicolon =>
    -- Nothing is left for the later passes.
    refine ⟨[], [], [], ?_, leaves_nil _, leaves_nil _, leaves_nil _⟩
    exact leaves_of_whole isForm_fromImport.consuming fun rest ends =>
      ⟨_, fromImport_bindings before names behind last source ends⟩
  | effects before source semicolon =>
    refine ⟨_, [], [], leaves_of_none fun rest ends _ => ?_, ?_, leaves_nil _, leaves_nil _⟩
    · exact fromImport_eq_none_of_effects before source ends
    · exact leaves_of_whole isForm_effectImport.consuming fun rest ends =>
        ⟨_, effectImport_effects before source ends⟩
  | exportedDefault before behind declared => exact strips_exportedDefault before behind declared
  | exported before declared notDefault => exact strips_exported before declared notDefault
  | passedOn before names behind last source closed => exact strips_passedOn source closed

theorem stripped_written (lines : List Line) : stripped (written lines) = remaining lines :=
  stripped_join Line.strips lines

/-! ## Clauses -/

/-- The matches are export words up to a blank. -/
def ReadsWords (pattern : Reader Unit) : Prop :=
  ∀ text found, pattern text = some found →
    ∃ words c, text = 'e' :: words ++ [c] ++ found.2 ∧ 'm' ∉ words ∧ isBlank c = true

theorem exists_of_blanks {found : Unit × Text} (matched : greedy₁ isBlank done text = some found) :
    ∃ blanks c, text = blanks ++ [c] ++ found.2 ∧ Blank blanks ∧ isBlank c = true := by
  obtain ⟨run, behind, rfl, nonempty, blank, same⟩ := exists_of_greedy₁ matched
  obtain rfl : ((), behind) = found := by simpa [done] using same
  obtain ⟨blanks, c, rfl⟩ := (List.eq_nil_or_concat run).resolve_left nonempty
  rw [List.concat_eq_append] at blank ⊢
  obtain ⟨blanks, last⟩ := List.forall_mem_append.mp blank
  exact ⟨_, c, rfl, blanks, last c (List.mem_singleton_self c)⟩

theorem readsWords_exportWord : ReadsWords exportWord := by
  intro text found matched
  obtain ⟨_, rfl, matched⟩ := literal_eq_some_iff.mp matched
  obtain ⟨blanks, c, rfl, blank, last⟩ := exists_of_blanks matched
  refine ⟨("xport" : Text) ++ blanks, c, by simp, ?_, last⟩
  rw [List.mem_append, not_or]
  exact ⟨by decide, not_mem_of_blank (by decide) blank⟩

theorem readsWords_exportDefault : ReadsWords exportDefault := by
  intro text found matched
  obtain ⟨_, rfl, matched⟩ := literal_eq_some_iff.mp matched
  obtain ⟨run, _, rfl, -, inner, matched⟩ := exists_of_greedy₁ matched
  obtain ⟨_, rfl, matched⟩ := literal_eq_some_iff.mp matched
  obtain ⟨blanks, c, rfl, blank, last⟩ := exists_of_blanks matched
  refine ⟨("xport" : Text) ++ (run ++ (("default" : Text) ++ blanks)), c, by simp, ?_, last⟩
  simp only [List.mem_append, not_or]
  exact ⟨by decide, not_mem_of_blank (by decide) inner, by decide,
    not_mem_of_blank (by decide) blank⟩

/-- Export words are taken out beside a clause: a match that reached into its first word would end
there in a blank. -/
theorem hasClause_removeAll {pattern : Reader Unit} (consuming : Consuming pattern)
    (reads : ReadsWords pattern) (clause : HasClause text) :
    HasClause (removeAll pattern text) := by
  obtain ⟨gap, quote, blank, isQuote, stands⟩ := clause
  refine ⟨gap, quote, blank, isQuote, ?_⟩
  have absent : 'e' ∉ ("from" : Text) ++ (gap ++ [quote]) := by
    simp only [List.mem_append, List.mem_singleton, not_or]
    refine ⟨by decide, not_mem_of_blank (by decide) blank, ?_⟩
    rintro rfl
    exact absurd isQuote (by decide)
  have none (tail rest : Text) (nonempty : tail ≠ [])
      (isTail : tail <:+ ("from" : Text) ++ (gap ++ [quote])) : pattern (tail ++ rest) = none := by
    rw [Option.eq_none_iff_forall_ne_some]
    intro found matched
    obtain ⟨words, c, split, -⟩ := reads _ _ matched
    obtain ⟨d, tail, rfl⟩ := List.exists_cons_of_ne_nil nonempty
    obtain rfl : d = 'e' := (List.cons.inj split).1
    exact absent (isTail.subset List.mem_cons_self)
  induction text using induction_on_matches consuming with
  | nil => exact stands
  | found text a rest here ih =>
    rw [removeAll, replaceAll_of_some consuming here]
    obtain ⟨words, c, rfl, noM, last⟩ := reads _ _ here
    rcases infix_append_cases stands with behind | ⟨start, nonempty, isTail, starts⟩
    · exact ih behind
    · -- The match ends in a blank, so the whole word `from` would be inside it, with its `m`.
      have apart : c ∉ ("from" : Text) := by
        intro member
        obtain rfl | rfl | rfl | rfl : c = 'f' ∨ c = 'r' ∨ c = 'o' ∨ c = 'm' := by
          simpa using member
        all_goals exact absurd last (by decide)
      have inWords := infix_of_prefix_suffix_append apart nonempty isTail
        ((List.prefix_append _ _).trans starts)
      have member : 'm' ∈ 'e' :: words := inWords.subset (by decide)
      simp [noM] at member
  | plain c rest missing ih =>
    rcases List.infix_cons_iff.mp stands with ⟨more, here⟩ | later
    · rw [← here, removeAll, replaceAll_append_of_none fun tail => none tail more]
      exact (List.prefix_append _ _).isInfix
    · rw [removeAll, replaceAll_cons_of_none missing]
      exact (ih later).trans (List.suffix_cons _ _).isInfix

/-- The clause stays where bindings are passed on. -/
theorem hasClause_stripExports (clause : HasClause text) : HasClause (stripExports text) :=
  hasClause_removeAll consuming_exportWord readsWords_exportWord
    (hasClause_removeAll consuming_exportDefault readsWords_exportDefault clause)

theorem HasClause.mono {text' : Text} (clause : HasClause text) (inside : text <:+: text') :
    HasClause text' := by
  obtain ⟨gap, quote, blank, isQuote, stands⟩ := clause
  exact ⟨gap, quote, blank, isQuote, stands.trans inside⟩

theorem Settled.not_hasClause (settled : Settled text) : ¬ HasClause text := by
  rintro ⟨gap, quote, blank, isQuote, front, behind, rfl⟩
  obtain ⟨c, head, other⟩ := settled gap (quote :: behind) blank ⟨front, by simp⟩
  obtain rfl : quote = c := by simpa using head
  simp [isQuote] at other

theorem settled_nil : Settled [] := by
  rintro gap tail - ⟨front, same⟩
  simp at same

/-- A word `from` on the line above does not reach a quote on the line below. -/
theorem Settled.append_cons (settled : Settled text) (below : Settled rest) :
    Settled (text ++ '\n' :: rest) := by
  intro gap tail blank isTail
  rcases suffix_append_cases isTail with behind | ⟨start, nonempty, inText, same⟩
  · -- The word stands below the line feed.
    rcases List.suffix_cons_iff.mp behind with same | behind
    · exact absurd (List.cons.inj same).1 (by decide)
    · exact below gap tail blank behind
  · -- The word starts above the line feed, so it ends there too, as no line feed is in it.
    have stands : ("from" : Text) <+: start ++ '\n' :: rest := same ▸ List.prefix_append _ _
    obtain ⟨start, rfl⟩ := (prefix_append_cons_iff (by decide)).mp stands
    rw [List.append_assoc, List.append_cancel_left_eq] at same
    rcases List.append_eq_append_iff.mp same with ⟨more, rfl, later⟩ | ⟨more, rfl, -⟩
    · obtain ⟨c, head, other⟩ := settled gap more blank inText
      exact ⟨c, by simp [later, head], other⟩
    · have blanks : Blank start := fun c member => blank c (List.mem_append_left more member)
      obtain ⟨c, head, -⟩ := settled start [] blanks (by simpa using inText)
      cases head

theorem settled_join {pieces : List Text} (settled : ∀ piece ∈ pieces, Settled piece) :
    Settled (join "\n" pieces) := by
  induction pieces with
  | nil => exact settled_nil
  | cons first pieces ih =>
    obtain ⟨here, later⟩ := List.forall_mem_cons.mp settled
    cases pieces with
    | nil => simpa [join] using here
    | cons second pieces =>
      rw [join_lineFeed_cons_cons]
      exact here.append_cons (ih later)

theorem wordless_nil : Wordless [] := ⟨by decide, by decide, settled_nil⟩

/-- What is kept of a line has words of modules only where bindings are passed on. -/
theorem Line.wordless_kept {l : Line} (other : l.isPassedOn = false) : Wordless l.kept := by
  cases l with
  | code text wordless => exact wordless
  | bindings => exact wordless_nil
  | effects => exact wordless_nil
  | exportedDefault before behind declared => exact declared.wordless
  | exported before declared notDefault => exact declared.wordless
  | passedOn => cases other

theorem Line.hasClause_kept {l : Line} (passed : l.isPassedOn = true) : HasClause l.kept := by
  cases l with
  | passedOn before names behind last source closed =>
    refine hasClause_stripExports
      ⟨last.text, source.opening, last.blank, source.opens,
        ("export" : Text) ++ (before.text ++ (names.text ++ behind.text)),
        source.specifier ++ [source.closing, ';'], ?_⟩
    change _ = ("export" : Text) ++ (before.text ++ (names.text ++ (behind.text ++
      (("from" : Text) ++ last.text)))) ++
        source.opening :: (source.specifier ++ [source.closing, ';'])
    simp only [List.append_assoc, List.singleton_append]
  | _ => cases passed

/-! ## What is left of a module -/

theorem wordless_remaining {lines : List Line} (others : ∀ l ∈ lines, l.isPassedOn = false) :
    Wordless (remaining lines) := by
  have clean : ∀ piece ∈ lines.map Line.kept, Wordless piece := by
    rw [List.forall_mem_map]
    exact fun l member => Line.wordless_kept (others l member)
  refine ⟨?_, ?_, settled_join fun piece member => (clean piece member).settled⟩
  · rw [remaining, infix_join_iff (by decide) (by decide)]
    rintro ⟨piece, member, stands⟩
    exact (clean piece member).noImport stands
  · rw [remaining, infix_join_iff (by decide) (by decide)]
    rintro ⟨piece, member, stands⟩
    exact (clean piece member).noExport stands

theorem hasClause_remaining_iff (lines : List Line) :
    HasClause (remaining lines) ↔ ∃ l ∈ lines, l.isPassedOn = true := by
  constructor
  · intro clause
    by_contra none
    simp only [not_exists, not_and, Bool.not_eq_true] at none
    exact (wordless_remaining none).settled.not_hasClause clause
  · rintro ⟨l, member, passed⟩
    exact (Line.hasClause_kept passed).mono (infix_join_of_mem (List.mem_map_of_mem member) _)

/-- What is left of a module stands line by line under the comment with its name: imports go as a
whole and exported declarations lose their export words. There are no words of modules in it but
where bindings are passed on, and there the clause that names their module is left. -/
theorem link_keeps_lines {artifacts : List Artifact} {a : Artifact} (member : a ∈ artifacts)
    (lines : List Line) (asWritten : a.content = written lines) (rootId : Text)
    (includeStyles : Bool) :
    part a = "// --- ".toList ++ a.name ++ " ---\n".toList ++ remaining lines ∧
    part a <:+: (link artifacts rootId includeStyles).body ∧
    ((∀ l ∈ lines, l.isPassedOn = false) →
      ¬ ("import" : Text) <:+: remaining lines ∧ ¬ ("export" : Text) <:+: remaining lines) ∧
    (HasClause (remaining lines) ↔ ∃ l ∈ lines, l.isPassedOn = true) := by
  have left : stripped a.content = remaining lines := by rw [asWritten, stripped_written]
  refine ⟨congrArg (fun left => "// --- ".toList ++ a.name ++ " ---\n".toList ++ left) left,
    part_infix_body member rootId includeStyles, fun others => ?_, hasClause_remaining_iff lines⟩
  exact ⟨(wordless_remaining others).noImport, (wordless_remaining others).noExport⟩

/-- Code without the word `from` has no clause. -/
theorem wordless_of_missing (noWord : ∀ word ∈ (["import", "export", "from"] : List String),
    ¬ word.toList <:+: text) : Wordless text where
  noImport := noWord "import" (by simp)
  noExport := noWord "export" (by simp)
  settled _ _ _ isTail :=
    absurd ((List.prefix_append _ _).isInfix.trans isTail.isInfix) (noWord "from" (by simp))

/-- A button with its imports, and two ways to export. -/
theorem link_keeps_lines_of_button :
    let button : Artifact := ⟨"components/Button.jsx", "jsx", ofLines
      ["import React from 'react';", "import './button.css'", "const xs = [];",
        "export const size = 1;", "export default function Button() \x7b\x7d"]⟩
    let page : Artifact := ⟨"App.jsx", "jsx", "render();"⟩
    ∃ lines : List Line, button ∈ [page, button] ∧ button.content = written lines ∧
      part button <:+: (link [page, button] "root" true).body ∧
      part button = ofLines ["// --- components/Button.jsx ---", "", "", "const xs = [];",
        "const size = 1;", "function Button() \x7b\x7d"] ∧
      ¬ HasClause (stripped button.content) := by
  intro button page
  let lines : List Line :=
    [.bindings .space ⟨"React", by decide, by simp; decide⟩ .space .space
      ⟨'\x27', "react", '\x27', rfl, by simp [Unquoted, isQuote], by decide, rfl⟩ true,
    .effects .space
      ⟨'\x27', "./button.css", '\x27', rfl, by simp [Unquoted, isQuote], by decide, rfl⟩ false,
    .code "const xs = [];" (wordless_of_missing (by decide)),
    .exported .space
      ⟨"const size = 1;", wordless_of_missing (by decide), 'c', _, rfl, rfl⟩
      (by change ¬ ("default" : Text) <+: ("const size = 1;" : Text); decide),
    .exportedDefault .space .space
      ⟨"function Button() \x7b\x7d", wordless_of_missing (by decide), 'f', _, rfl, rfl⟩]
  have asWritten : button.content = written lines := by decide +kernel
  have member : button ∈ [page, button] := by simp
  obtain ⟨whole, inBody, -, clause⟩ := link_keeps_lines member lines asWritten "root" true
  refine ⟨lines, member, asWritten, inBody, whole.trans (by decide +kernel), ?_⟩
  rw [asWritten, stripped_written, clause]
  decide +kernel

/-- A file that collects the components of a folder keeps the clause that names the module, with
nothing in front of it to make it a statement. -/
theorem clause_of_index :
    let index : Artifact :=
      ⟨"components/index.js", "js", "export \x7b Button \x7d from './Button';"⟩
    part index = ofLines ["// --- components/index.js ---", "\x7b Button \x7d from './Button';"] ∧
      part index <:+: (link [index] "root" true).body ∧ HasClause (stripped index.content) := by
  intro index
  have left : stripped index.content = ("\x7b Button \x7d from './Button';" : Text) := by
    decide +kernel
  refine ⟨by decide +kernel, part_infix_body (List.mem_singleton_self index) "root" true, ?_⟩
  rw [left]
  exact ⟨[' '], '\x27', blank_space, rfl, by decide +kernel⟩

end SandboxPreview.Linking
