/-
# Printed text

A statement that prints a message becomes a call that logs it, and what stands around the message is
always read as it should be. The message itself goes through the same passes as the code: includes,
the namespace, a return of zero, the head of `main`, words of types, the prefix of the namespace,
reads and arrows are found in it too. It reaches the call as it was exactly when none of them is in
it.

## Main definitions

* `Rewritten`, `Untouched`: the texts that are looked for, and messages without any;
* `consoleCall`: the call that logs a message.

## Main results

* `occurs_include_iff` and the like: each pattern is found where a text that it reads stands;
* `cleans_withoutDirectives`, `cleans_withoutTypes`: the passes before and behind the body of
  `main`;
* `marks_mainBody_lt`: a message with a head of `main` loses marks;
* `marks_outputLine_le`, `outputLine_statement`: the last pass;
* `transpile_statement_iff`: when a message is logged as it was printed.
-/
import SandboxPreview.Proofs.Simulator.MainBody
import SandboxPreview.Proofs.Simulator.Passes
import SandboxPreview.Proofs.Text.Lines

namespace SandboxPreview.Simulator.Cpp

open Pattern Text

/-! ## What is looked for -/

/-- An include of a library header. -/
def IsInclude (text : Text) : Prop :=
  ∃ gap header, gap ≠ [] ∧ Blank gap ∧ '\n' ∉ header ∧
    text = "#include".toList ++ gap ++ "<".toList ++ header ++ ">".toList

/-- The use of the standard namespace. -/
def IsUsing (text : Text) : Prop :=
  ∃ gap gap', gap ≠ [] ∧ Blank gap ∧ gap' ≠ [] ∧ Blank gap' ∧
    text = "using".toList ++ gap ++ "namespace".toList ++ gap' ++ "std;".toList

/-- A return of zero. -/
def IsReturn (text : Text) : Prop :=
  ∃ gap, gap ≠ [] ∧ Blank gap ∧ text = "return".toList ++ gap ++ "0;".toList

/-- A read of one variable. -/
def IsRead (text : Text) : Prop :=
  ∃ space space' name trail, Blank space ∧ Blank space' ∧ name ≠ [] ∧
    (∀ c ∈ name, isVariableChar c = true) ∧ Blank trail ∧
    text = "cin".toList ++ space ++ ">>".toList ++ space' ++ name ++ trail ++ ";".toList

/-- A text that is rewritten wherever it stands. -/
inductive Rewritten : Text → Prop where
  | include_ {text : Text} (isInclude : IsInclude text) : Rewritten text
  | usingStandard {text : Text} (isUsing : IsUsing text) : Rewritten text
  | returnZero {text : Text} (isReturn : IsReturn text) : Rewritten text
  | mainHead {text : Text} (isHead : IsHead text) : Rewritten text
  | standard : Rewritten "std::".toList
  | read {text : Text} (isRead : IsRead text) : Rewritten text
  | arrows : Rewritten "<<".toList

/-- Nothing in the message is rewritten, and none of its words is one of a type. -/
structure Untouched (message : Text) : Prop where
  noRewritten : ∀ word, Rewritten word → ¬ word <:+: message
  noType : ¬ HasType message

/-- What stands before the arguments of a call that logs them. -/
def logCommand : Text := "console.log("

/-- The call that logs a message. -/
def consoleCall (message : Text) : Text :=
  logCommand ++ '\x22' :: (message ++ ['\x22', ')', ';'])

variable {message text source line chain before head inner : Text}

theorem occurs_include_iff :
    occurs include_ text = true ↔ ∃ word, IsInclude word ∧ word <:+: text := by
  refine occurs_iff_exists fun text => ?_
  simp only [include_, isSome_literal_iff, isSome_greedy₁_iff, isSome_lazily_iff]
  constructor
  · rintro ⟨_, rfl, gap, _, rfl, nonempty, blank, _, rfl, header, _, rfl, onLine, rest, rfl, -⟩
    have oneLine : '\n' ∉ header := fun member => by simpa [inLine] using onLine '\n' member
    exact ⟨_, ⟨gap, header, nonempty, blank, oneLine, rfl⟩, rest, by simp only [List.append_assoc]⟩
  · rintro ⟨_, ⟨gap, header, nonempty, blank, oneLine, rfl⟩, rest, rfl⟩
    have onLine : ∀ c ∈ header, inLine c = true := fun c member => by
      simpa [inLine] using ne_of_mem_of_not_mem member oneLine
    exact ⟨_, by simp only [List.append_assoc], gap, _, rfl, nonempty, blank, _, rfl, header, _,
      rfl, onLine, rest, rfl, rfl⟩

theorem occurs_usingStandard_iff :
    occurs usingStandard text = true ↔ ∃ word, IsUsing word ∧ word <:+: text := by
  refine occurs_iff_exists fun text => ?_
  simp only [usingStandard, isSome_literal_iff, isSome_greedy₁_iff]
  constructor
  · rintro ⟨_, rfl, gap, _, rfl, nonempty, blank, _, rfl, gap', _, rfl, nonempty', blank', rest,
      rfl, -⟩
    exact ⟨_, ⟨gap, gap', nonempty, blank, nonempty', blank', rfl⟩, rest,
      by simp only [List.append_assoc]⟩
  · rintro ⟨_, ⟨gap, gap', nonempty, blank, nonempty', blank', rfl⟩, rest, rfl⟩
    exact ⟨_, by simp only [List.append_assoc], gap, _, rfl, nonempty, blank, _, rfl, gap', _, rfl,
      nonempty', blank', rest, rfl, rfl⟩

theorem occurs_returnZero_iff :
    occurs returnZero text = true ↔ ∃ word, IsReturn word ∧ word <:+: text := by
  refine occurs_iff_exists fun text => ?_
  simp only [returnZero, isSome_literal_iff, isSome_greedy₁_iff]
  constructor
  · rintro ⟨_, rfl, gap, _, rfl, nonempty, blank, rest, rfl, -⟩
    exact ⟨_, ⟨gap, nonempty, blank, rfl⟩, rest, by simp only [List.append_assoc]⟩
  · rintro ⟨_, ⟨gap, nonempty, blank, rfl⟩, rest, rfl⟩
    exact ⟨_, by simp only [List.append_assoc], gap, _, rfl, nonempty, blank, rest, rfl, rfl⟩

theorem occurs_read_iff :
    occurs read text = true ↔ ∃ word, IsRead word ∧ word <:+: text := by
  refine occurs_iff_exists fun text => ?_
  simp only [read, mark, isSome_literal_iff, isSome_greedy_iff, isSome_greedy₁_iff]
  constructor
  · rintro ⟨_, rfl, space, _, rfl, blank, _, rfl, space', _, rfl, blank', name, _, rfl, nonempty,
      named, trail, _, rfl, blankTrail, rest, rfl, -⟩
    exact ⟨_, ⟨space, space', name, trail, blank, blank', nonempty, named, blankTrail, rfl⟩,
      rest, by simp only [List.append_assoc]⟩
  · rintro ⟨_, ⟨space, space', name, trail, blank, blank', nonempty, named, blankTrail, rfl⟩,
      rest, rfl⟩
    exact ⟨_, by simp only [List.append_assoc], space, _, rfl, blank, _, rfl, space', _, rfl,
      blank', name, _, rfl, nonempty, named, trail, _, rfl, blankTrail, rest, rfl, rfl⟩

/-! ## The passes -/

/-- A source without its includes, the use of the namespace and returns of zero. -/
def withoutDirectives (source : Text) : Text :=
  removeAll returnZero (removeAll usingStandard (removeAll include_ source))

/-- A source without its types and the prefix of the namespace. -/
def withoutTypes (source : Text) : Text := replaceWord "std::" [] (declare source)

/-- The last passes: reads become prompts, and output becomes calls. -/
def called (source : Text) : Text :=
  join "\n" ((lines (replaceAll read prompt source)).map outputLine)

theorem transpile_eq (source : Text) :
    transpile source = called (withoutTypes (mainBody (withoutDirectives source))) := rfl

/-- A directive is in the message. -/
def HasDirective (message : Text) : Prop :=
  ((∃ word, IsInclude word ∧ word <:+: message) ∨ ∃ word, IsUsing word ∧ word <:+: message) ∨
    ∃ word, IsReturn word ∧ word <:+: message

theorem cleans_include :
    Cleans (removeAll include_) fun message => occurs include_ message = true := by
  -- A header that is not closed in the message is not closed behind it either.
  have ends (tail : Text) (isTail : tail <:+ ['\x22', ';']) : literal ">" done tail = none :=
    literal_eq_none fun stands =>
      absurd (isTail.subset (stands.subset (List.mem_singleton_self '>'))) (by decide)
  exact cleans_removeAll (((((advancing_some _).literal _).lazily _).literal _).greedy₁ _)
    (by decide) (by decide) (by decide)
    ((((((ignores_done _).literal (by decide)).lazily_of_none ends).literal (by decide)).greedy₁
      (by decide)).literal (by decide)) rfl

theorem cleans_usingStandard :
    Cleans (removeAll usingStandard) fun message => occurs usingStandard message = true :=
  cleans_removeAll (((((advancing_some _).literal _).greedy₁ _).literal _).greedy₁ _)
    (by decide) (by decide) (by decide)
    ((((((ignores_done _).literal (by decide)).greedy₁ (by decide)).literal (by decide)).greedy₁
      (by decide)).literal (by decide)) rfl

theorem cleans_returnZero :
    Cleans (removeAll returnZero) fun message => occurs returnZero message = true :=
  cleans_removeAll (((advancing_some _).literal _).greedy₁ _)
    (by decide) (by decide) (by decide)
    ((((ignores_done _).literal (by decide)).greedy₁ (by decide)).literal (by decide)) rfl

theorem cleans_standard : Cleans (replaceWord "std::" []) fun message =>
    occurs (literal "std::" done) message = true :=
  cleans_removeAll (advancing_some _) (by decide) (by decide) (by decide)
    ((ignores_done _).literal (by decide)) rfl

theorem cleans_withoutDirectives : Cleans withoutDirectives HasDirective :=
  ((cleans_include.comp cleans_usingStandard).comp cleans_returnZero).congr fun message => by
    rw [occurs_include_iff, occurs_usingStandard_iff, occurs_returnZero_iff, HasDirective]

theorem cleans_withoutTypes :
    Cleans withoutTypes fun message => HasType message ∨ "std::".toList <:+: message :=
  (cleans_declare.comp cleans_standard).congr fun message => by rw [occurs_literal_iff]

/-! ## A head in the message -/

theorem marks_head (isHead : IsHead head) : 2 ≤ marks head := by
  obtain ⟨gap, space, parameters, space', -, -, -, -, -, rfl⟩ := isHead
  have front : marks "int".toList = 1 := by decide
  have name : marks "main".toList = 1 := by decide
  simp only [marks_append, front, name]
  omega

theorem IsHead.exists_cons (isHead : IsHead head) : ∃ rest, head = 'i' :: rest := by
  obtain ⟨gap, space, parameters, space', -, -, -, -, -, rfl⟩ := isHead
  exact ⟨_, rfl⟩

/-- The body that is taken out has fewer marks than the message: its head is gone, and the command
in front of the message. -/
theorem marks_mainBody_lt (first : FirstHead (statement message) before head inner) :
    marks (mainBody (statement message)) < marks message := by
  obtain ⟨rest, same⟩ := first.isHead.exists_cons
  have inHead := marks_head first.isHead
  have inBody := marks_le_of_sublist (mainBody_isPrefix first).sublist
  have whole := marks_statement message
  have split := first.split
  have inFront : 4 ≤ marks before := by
    rw [statement, List.append_assoc] at split
    rcases List.append_eq_append_iff.mp split with ⟨more, rfl, -⟩ | ⟨more, front, behind⟩
    · rw [marks_append, marks_command]
      exact Nat.le_add_right 4 _
    · cases more with
      | nil => rw [← List.append_nil before, ← front, marks_command]
      | cons c more =>
        -- The head would start inside the command.
        obtain rfl : 'i' = c := by
          rw [same] at behind
          exact (List.cons.inj behind).1
        have member : 'i' ∈ command := front ▸ List.mem_append_right before List.mem_cons_self
        exact absurd member (by decide)
  rw [split, marks_append, marks_append] at whole
  omega

/-! ## The last passes -/

theorem consuming_read : Consuming read := by
  have advancing : Advancing (greedy isBlank <| literal ">>" <| greedy isBlank <|
      mark fun start => greedy₁ isVariableChar <| mark fun stop => greedy isBlank <|
      literal ";" fun rest => some (between start stop, rest)) :=
    ((Advancing.mark fun start => (Advancing.mark fun stop =>
      ((advancing_some fun _ => between start stop).literal _).greedy _).greedy₁ _).greedy
        _).literal _ |>.greedy _
  exact advancing.consuming (by decide)

/-- The value that is read is shown on a line of its own. -/
theorem lineFeed_mem_prompt (name : Text) : '\n' ∈ prompt name := by
  have shows : '\n' ∈ ");\nconsole.log(\x22[Input] ".toList := by decide
  exact List.mem_append_left _ (List.mem_append_left _ (List.mem_append_left _
    (List.mem_append_left _ (List.mem_append_right _ shows))))

/-- A line without reads goes through the last pass only. -/
theorem called_of_oneLine (noRead : occurs read source = false) (oneLine : '\n' ∉ source) :
    called source = outputLine source := by
  rw [called, replaceAll_of_not_occurs noRead, lines_of_not_mem oneLine]
  simp [join]

/-- A read breaks the line; without one the source is one line of output. -/
theorem called_cases (source : Text) :
    '\n' ∈ called source ∨
      occurs read source = false ∧ called source = outputLine source := by
  by_cases broken : '\n' ∈ replaceAll read prompt source
  · exact Or.inl (lineFeed_mem_join_lines broken outputLine)
  · -- A prompt holds a line feed, so a read would have broken the line.
    have noRead : occurs read source = false := by
      rw [Bool.eq_false_iff]
      exact fun found => broken (mem_replaceAll_of_occurs consuming_read lineFeed_mem_prompt found)
    rw [replaceAll_of_not_occurs noRead] at broken
    exact Or.inr ⟨noRead, called_of_oneLine noRead broken⟩

theorem marks_outputPart_le (part : Text) : marks (outputPart part) ≤ marks part := by
  rw [outputPart]
  split
  · have none : marks "\x22\\n\x22".toList = 0 := by decide
    omega
  · exact marks_le_of_sublist trim_isInfix.sublist

/-- What is put between the parentheses of a call. -/
def arguments (chain : Text) : Text := join ", " ((splitWord "<<" chain).map outputPart)

/-- Arguments have the marks of the chain they are cut from, but for those of its arrows. -/
theorem marks_arguments (chain : Text) :
    marks (arguments chain) + 2 * ((splitWord "<<" chain).length - 1) ≤ marks chain := by
  have arrows : marks "<<" = 2 := by decide
  have comma : marks ", " = 0 := by decide
  have fewer := countP_join_map_le "<<" ", " marks_outputPart_le (splitWord "<<" chain)
  rw [join_splitWord (by decide)] at fewer
  change marks (arguments chain) + _ * marks "<<" ≤ marks chain + _ * marks ", " at fewer
  rw [arrows, comma] at fewer
  omega

theorem advancing_outputHead : Advancing outputHead :=
  ((((advancing_some _).greedy _).literal _).greedy _).literal _

/-- A line that starts with an output, read up to what stands behind its first arrows. -/
theorem outputLine_of_starts (starts : "cout".toList.isPrefixOf (trim line) = true) :
    outputLine line = logCommand ++ (arguments (dropEnding ";"
      (((outputHead (trim line)).map Prod.snd).getD (trim line))) ++ [')', ';']) := by
  rw [outputLine, if_pos starts, List.append_assoc]
  cases outputHead (trim line) <;> rfl

/-- A line stays, or a chain that is part of it becomes the arguments of a call. -/
theorem outputLine_cases (line : Text) :
    outputLine line = line ∨ ∃ chain : Text, chain.Sublist line ∧
      outputLine line = logCommand ++ (arguments chain ++ [')', ';']) := by
  by_cases starts : "cout".toList.isPrefixOf (trim line) = true
  · refine Or.inr ⟨_, ?_, outputLine_of_starts starts⟩
    refine ((dropEnding_isPrefix _ _).sublist.trans ?_).trans trim_isInfix.sublist
    cases read : outputHead (trim line) with
    | none => exact List.Sublist.refl _
    | some found => exact (advancing_outputHead _ _ _ read).sublist
  · exact Or.inl (by rw [outputLine, if_neg starts])

theorem marks_outputLine_le (line : Text) : marks (outputLine line) ≤ marks line + 5 := by
  rcases outputLine_cases line with same | ⟨chain, part, call⟩
  · rw [same]
    exact Nat.le_add_right _ _
  · have front : marks logCommand = 4 := by decide
    have back : marks [')', ';'] = 1 := by decide
    have arguments := marks_arguments chain
    have inLine := marks_le_of_sublist part
    rw [call, marks_append, front, marks_append, back]
    omega

/-- The chain of a statement that prints a message is its literal. -/
theorem outputLine_statement (message : Text) :
    outputLine (statement message) =
      logCommand ++ (arguments ('\x22' :: (message ++ ['\x22'])) ++ [')', ';']) := by
  have cut : statement message = command ++ '\x22' :: (message ++ ['\x22']) ++ [';'] := by
    simp [statement]
  have trimmed : trim (statement message) = statement message := by
    have solid : ¬ Blank command := fun blank => absurd (blank 'c' (by decide)) (by decide)
    have solid' : ¬ Blank [';'] := fun blank => absurd (blank ';' (by decide)) (by decide)
    rw [cut, trim_append_append _ solid solid']
    rfl
  have read : outputHead (statement message) =
      some ((), '\x22' :: (message ++ ['\x22']) ++ [';']) := by
    rw [cut]
    rfl
  have starts : "cout".toList.isPrefixOf (trim (statement message)) = true := by
    rw [trimmed]
    rfl
  rw [outputLine_of_starts starts, trimmed, read]
  exact congrArg (fun chain => logCommand ++ (arguments chain ++ [')', ';']))
    (dropEnding_append [';'] _)

/-- A literal without arrows is an argument as it stands. -/
theorem arguments_literal (missing : ¬ "<<".toList <:+: message) :
    arguments ('\x22' :: (message ++ ['\x22'])) = '\x22' :: (message ++ ['\x22']) := by
  have absent : ¬ "<<".toList <:+: '\x22' :: (message ++ ['\x22']) := by
    rw [List.infix_cons_iff, infix_append_cons_iff (by decide)]
    rintro (start | inside | behind)
    · exact absurd (List.cons_prefix_cons.mp start).1 (by decide)
    · exact missing inside
    · exact absurd behind (by decide)
  have quote : ¬ Blank ['\x22'] := fun blank => absurd (blank '\x22' (by simp)) (by decide)
  have trimmed := trim_append_append message quote quote
  have kept : outputPart ('\x22' :: (message ++ ['\x22'])) = '\x22' :: (message ++ ['\x22']) := by
    change trim ('\x22' :: (message ++ ['\x22'])) = '\x22' :: (message ++ ['\x22']) at trimmed
    rw [outputPart, trimmed, if_neg]
    exact fun same => absurd (List.cons.inj same).1 (by decide)
  rw [arguments, splitWord_of_not_infix absent, List.map_singleton, kept]
  simp [join]

theorem marks_consoleCall (message : Text) : marks (consoleCall message) = marks message + 5 := by
  have front : marks logCommand = 4 := by decide
  have quote : marks ['\x22'] = 0 := by decide
  have back : marks ['\x22', ')', ';'] = 1 := by decide
  rw [consoleCall, marks_append, front, marks_cons, quote, marks_append, back]
  omega

theorem lineFeed_not_mem_literal {front back : Text} (front' : '\n' ∉ front)
    (oneLine : '\n' ∉ message) (back' : '\n' ∉ back) :
    '\n' ∉ front ++ '\x22' :: (message ++ back) := by
  simp [front', oneLine, back']

theorem lineFeed_not_mem_statement (oneLine : '\n' ∉ message) : '\n' ∉ statement message :=
  lineFeed_not_mem_literal (by decide) oneLine (by decide)

theorem lineFeed_not_mem_consoleCall (oneLine : '\n' ∉ message) :
    '\n' ∉ consoleCall message :=
  lineFeed_not_mem_literal (by decide) oneLine (by decide)

/-! ## Messages that are logged as they were printed -/

/-- A head of `main` in the statement is in its message. -/
theorem IsHead.infix_message (isHead : IsHead head) (stands : head <:+: statement message) :
    head <:+: message := by
  obtain ⟨rest, start⟩ := isHead.exists_cons
  obtain ⟨front, stop⟩ : ∃ front, head = front ++ ['\x7b'] := by
    obtain ⟨gap, space, parameters, space', -, -, -, -, -, rfl⟩ := isHead
    exact ⟨_, rfl⟩
  have behind : head <:+: message ++ ['\x22', ';'] := by
    rw [statement, List.append_cons] at stands
    rw [start] at stands ⊢
    exact infix_of_infix_append (by decide) stands
  rw [stop] at behind ⊢
  exact infix_of_infix_append_last (by decide) behind

/-- A read in the statement is in its message. -/
theorem IsRead.infix_message (isRead : IsRead text) (stands : text <:+: statement message) :
    text <:+: message := by
  obtain ⟨space, space', name, trail, blank, blank', -, named, blankTrail, split⟩ := isRead
  have starts : "cin".toList <+: text := by
    rw [split]
    simp only [List.append_assoc]
    exact List.prefix_append _ _
  have noQuote : '\x22' ∉ text := by
    have solid {gap : Text} (blank : Blank gap) : '\x22' ∉ gap := not_mem_of_blank (by decide) blank
    have inName : '\x22' ∉ name := fun member => absurd (named _ member) (by decide)
    simp only [split, List.mem_append, not_or]
    exact ⟨⟨⟨⟨⟨⟨by decide, solid blank⟩, by decide⟩, solid blank'⟩, inName⟩, solid blankTrail⟩,
      by decide⟩
  rw [statement, infix_append_cons_iff noQuote, infix_append_cons_iff noQuote] at stands
  rcases stands with front | inside | behind
  · exact absurd (starts.isInfix.trans front) (by decide)
  · exact inside
  · exact absurd (starts.isInfix.trans behind) (by decide)

/-- What comes out of a source with fewer marks is no call that logs the message. -/
theorem called_ne_consoleCall (oneLine : '\n' ∉ message) (fewer : marks source < marks message) :
    called source ≠ consoleCall message := by
  intro same
  rcases called_cases source with broken | ⟨-, line⟩
  · exact lineFeed_not_mem_consoleCall oneLine (same ▸ broken)
  · have much := marks_consoleCall message
    have little := marks_outputLine_le source
    rw [← same, line] at much
    omega

/-- A message whose call logs one with as many marks or more lost none on the way. -/
theorem kept_of_called {left : Text} (oneLine : '\n' ∉ message) (fewer : marks left ≤ marks message)
    (same : called (statement left) = consoleCall message) :
    marks left = marks message ∧ occurs read (statement left) = false ∧
      ¬ "<<".toList <:+: left := by
  rcases called_cases (statement left) with broken | ⟨noRead, line⟩
  · exact absurd (same ▸ broken) (lineFeed_not_mem_consoleCall oneLine)
  have front : marks logCommand = 4 := by decide
  have quote : marks ['\x22'] = 0 := by decide
  have back : marks [')', ';'] = 1 := by decide
  have whole := marks_consoleCall message
  rw [← same, line, outputLine_statement, marks_append, front, marks_append, back] at whole
  have cut := marks_arguments ('\x22' :: (left ++ ['\x22']))
  rw [marks_cons, marks_append, quote] at cut
  refine ⟨by omega, noRead, fun stands => ?_⟩
  -- Each arrow costs two marks, and the call has none to spare.
  have more : 1 < (splitWord "<<" ('\x22' :: (left ++ ['\x22']))).length :=
    one_lt_length_splitWord (by decide)
      ((stands.trans (List.prefix_append _ _).isInfix).trans (List.suffix_cons _ _).isInfix)
  omega

/-- A message that comes out as it was met no pass that touched it. -/
theorem untouched_of_logged (oneLine : '\n' ∉ message)
    (same : transpile (statement message) = consoleCall message) : Untouched message := by
  have directives := cleans_withoutDirectives
  have types := cleans_withoutTypes
  rw [transpile_eq, directives.framed] at same
  by_cases heads : ∀ head, IsHead head → ¬ head <:+: statement (withoutDirectives message)
  · rw [mainBody_of_no_head heads, types.framed] at same
    have fewer := directives.le message
    have fewer' := types.le (withoutDirectives message)
    obtain ⟨kept, noRead, noArrows⟩ := kept_of_called oneLine (fewer'.trans fewer) same
    -- No marks are lost, so each pass met the message as it was printed.
    have noDirective := directives.untouched (kept.symm.le.trans fewer')
    rw [directives.same noDirective] at heads noRead noArrows kept
    have noType := types.untouched kept.symm.le
    rw [types.same noType] at noRead noArrows
    rw [not_or] at noType
    refine ⟨fun word rewritten stands => ?_, noType.1⟩
    have inStatement : word <:+: statement message :=
      stands.trans ⟨command ++ ['\x22'], ['\x22', ';'], by simp [statement]⟩
    cases rewritten with
    | include_ isInclude => exact noDirective (Or.inl (Or.inl ⟨word, isInclude, stands⟩))
    | usingStandard isUsing => exact noDirective (Or.inl (Or.inr ⟨word, isUsing, stands⟩))
    | returnZero isReturn => exact noDirective (Or.inr ⟨word, isReturn, stands⟩)
    | mainHead isHead => exact heads word isHead inStatement
    | standard => exact noType.2 stands
    | read isRead =>
      have found := occurs_read_iff.mpr ⟨word, isRead, inStatement⟩
      simp [noRead] at found
    | arrows => exact noArrows stands
  · -- The body of `main` is taken out of the message, and the command in front of it is lost.
    simp only [not_forall, not_not] at heads
    obtain ⟨head, isHead, stands⟩ := heads
    obtain ⟨before, head, inner, first⟩ := exists_firstHead_iff.mpr ⟨head, isHead, stands⟩
    refine absurd same (called_ne_consoleCall oneLine ?_)
    exact (types.le _).trans_lt ((marks_mainBody_lt first).trans_le (directives.le message))

/-- An untouched message goes through all passes. -/
theorem Untouched.logged (untouched : Untouched message) (oneLine : '\n' ∉ message) :
    transpile (statement message) = consoleCall message := by
  obtain ⟨clean, noType⟩ := untouched
  have directives : ¬ HasDirective message := by
    rintro ((⟨word, isInclude, stands⟩ | ⟨word, isUsing, stands⟩) | ⟨word, isReturn, stands⟩)
    · exact clean word (.include_ isInclude) stands
    · exact clean word (.usingStandard isUsing) stands
    · exact clean word (.returnZero isReturn) stands
  have types : ¬ (HasType message ∨ "std::".toList <:+: message) :=
    not_or.mpr ⟨noType, clean _ .standard⟩
  have noHead (head : Text) (isHead : IsHead head) : ¬ head <:+: statement message :=
    fun stands => clean head (.mainHead isHead) (isHead.infix_message stands)
  have noRead : occurs read (statement message) = false := by
    rw [Bool.eq_false_iff]
    intro found
    obtain ⟨word, isRead, stands⟩ := occurs_read_iff.mp found
    exact clean word (.read isRead) (isRead.infix_message stands)
  rw [transpile_eq, cleans_withoutDirectives.framed, cleans_withoutDirectives.same directives,
    mainBody_of_no_head noHead, cleans_withoutTypes.framed, cleans_withoutTypes.same types,
    called_of_oneLine noRead (lineFeed_not_mem_statement oneLine), outputLine_statement,
    arguments_literal (clean _ .arrows)]
  simp [consoleCall]

/-- A message on one line is logged as it was printed exactly when nothing that is rewritten stands
in it and none of its words is one of a type. -/
theorem transpile_statement_iff (oneLine : '\n' ∉ message) :
    transpile (statement message) = consoleCall message ↔ Untouched message :=
  ⟨untouched_of_logged oneLine, fun untouched => untouched.logged oneLine⟩

/-- The word of a type inside of a longer word, a single arrow and a colon are harmless. -/
theorem transpile_statement_iff_of_printing :
    let message : Text := "Printing 1 < 2: done"
    '\n' ∉ message ∧
      transpile "cout << \x22Printing 1 < 2: done\x22;".toList =
        "console.log(\x22Printing 1 < 2: done\x22);".toList ∧
      Untouched message := by
  intro message
  have logged : transpile (statement message) = consoleCall message := by decide +kernel
  exact ⟨by decide, logged, (transpile_statement_iff (by decide)).mp logged⟩

/-- A prompt that names a type is logged with another word, and with a blank that was not there. -/
theorem type_logged_as_let :
    let message : Text := "Enter an int: "
    '\x22' ∉ message ∧ '\\' ∉ message ∧ '\n' ∉ message ∧
      transpile "cout << \x22Enter an int: \x22;".toList =
        "console.log(\x22Enter an let : \x22);".toList ∧
      transpile (statement message) ≠ consoleCall message ∧ ¬ Untouched message := by
  intro message
  have changed : transpile (statement message) ≠ consoleCall message := by decide +kernel
  exact ⟨by decide, by decide, by decide, by decide +kernel, changed,
    fun untouched => changed (untouched.logged (by decide))⟩

end SandboxPreview.Simulator.Cpp
