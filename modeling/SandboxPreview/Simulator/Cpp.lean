/-
# C++ console programs

A simple `main` becomes a script by changes to its text. Includes, the standard namespace and
`return 0` go; the body of `main` is taken out; declarations lose their types; reads become
prompts and output chains become console calls. Whatever is not recognised stays as it is and
may fail when the script runs, which the script reports.
-/
import SandboxPreview.Text.Pattern
import SandboxPreview.Text.Word

namespace SandboxPreview.Simulator.Cpp

open Pattern

/-- An include of a library header. -/
def include_ : Reader Unit :=
  literal "#include" <| greedy₁ Text.isBlank <| literal "<" <| lazily inLine <| literal ">" done

/-- The use of the standard namespace. -/
def usingStandard : Reader Unit :=
  literal "using" <| greedy₁ Text.isBlank <| literal "namespace" <| greedy₁ Text.isBlank <|
  literal "std;" done

/-- A return of zero. -/
def returnZero : Reader Unit := literal "return" <| greedy₁ Text.isBlank <| literal "0;" done

/-- The head of `main` up to its opening brace. -/
def mainHead : Reader Unit :=
  literal "int" <| greedy₁ Text.isBlank <| literal "main" <| greedy Text.isBlank <|
  literal "(" <| greedy (except ')') <| literal ")" <| greedy Text.isBlank <| literal "\x7b" done

/-- The text up to the closing brace that balances `depth` open ones. -/
def untilBalanced : (depth : Nat) → Text → Option Text
  | _, [] => none
  | depth, c :: text =>
    if c = '\x7b' then (untilBalanced (depth + 1) text).map (c :: ·)
    else if c = '\x7d' then
      if depth ≤ 1 then some [] else (untilBalanced (depth - 1) text).map (c :: ·)
    else (untilBalanced depth text).map (c :: ·)

/-- The body of `main`, or the whole source when it has no `main`. Where the braces never
balance, the body runs up to the last closing brace, or to the end when there is none. -/
def mainBody (source : Text) : Text :=
  match first? mainHead source with
  | none => source
  | some (_, _, rest) =>
    match untilBalanced 1 rest with
    | some body => body
    | none => (Text.beforeLast? '\x7d' rest).getD rest

/-- The words of a type in a declaration. -/
def typeWords : List Text :=
  ["const", "unsigned", "signed", "long", "int", "float", "double", "char", "string", "bool",
   "auto"]

/-- A part of a text cut at the ends of its words. -/
inductive Token where
  | word (letters : Text)
  | other (c : Char)
  deriving DecidableEq

/-- The words of a text, each as long as possible, and the characters between them. -/
def tokens : Text → List Token
  | [] => []
  | c :: text =>
    if Text.isWordChar c then
      match tokens text with
      -- A word character joins the word that starts right behind it.
      | .word letters :: rest => .word (c :: letters) :: rest
      | rest => .word [c] :: rest
    else .other c :: tokens text

/-- A run of type words, with the blanks after each of them, becomes one `let`. Whether the
tokens before belong to such a run is given by `inRun`. -/
def declareTokens : (inRun : Bool) → List Token → Text
  | _, [] => []
  | inRun, .word letters :: rest =>
    if typeWords.elem letters then
      -- The first type word of a run becomes the declaration, the others go.
      (if inRun then [] else "let ".toList) ++ declareTokens true rest
    else letters ++ declareTokens false rest
  | inRun, .other c :: rest =>
    if inRun && Text.isBlank c then declareTokens true rest else c :: declareTokens false rest

/-- Declarations without their types. -/
def declare (source : Text) : Text := declareTokens false (tokens source)

/-- A character of a variable that is read. -/
def isVariableChar (c : Char) : Bool := c.isAlphanum || c == '_'

/-- A read of one variable, with its name as the result. -/
def read : Reader Text :=
  literal "cin" <| greedy Text.isBlank <| literal ">>" <| greedy Text.isBlank <|
  mark fun start => greedy₁ isVariableChar <| mark fun stop => greedy Text.isBlank <|
  literal ";" fun rest => some (Text.between start stop, rest)

/-- The statements that ask for a variable, turn a numeral into a number, and show the value. -/
def prompt (name : Text) : Text :=
  name ++ " = prompt(\"Interactive Input required for '".toList ++ name ++
    "':\");\nif(".toList ++ name ++ " !== null && !isNaN(Number(".toList ++ name ++
    ")) && ".toList ++ name ++ ".trim() !== '') ".toList ++ name ++ " = Number(".toList ++
    name ++ ");\nconsole.log(\"[Input] ".toList ++ name ++ " =\", ".toList ++ name ++
    ");".toList

/-- The start of an output chain. -/
def outputHead : Reader Unit :=
  literal "cout" <| greedy Text.isBlank <| literal "<<" <| greedy Text.isBlank done

/-- A part of an output chain as an argument; the end of a line is the literal line feed. -/
def outputPart (part : Text) : Text :=
  if Text.trim part = "endl".toList then "\"\\n\"" else Text.trim part

/-- A line that starts with an output becomes a console call; other lines stay. -/
def outputLine (line : Text) : Text :=
  let stripped := Text.trim line
  if "cout".toList.isPrefixOf stripped then
    let chain :=
      match outputHead stripped with
      | some (_, rest) => rest
      -- Without the arrows the line is taken as it stands, name and all.
      | none => stripped
    let parts := (splitWord "<<" (Text.dropEnding ";" chain)).map outputPart
    "console.log(".toList ++ Text.join ", " parts ++ ");".toList
  else line

/-- A console program as the statements of a script. -/
def transpile (source : Text) : Text :=
  let source := removeAll include_ source
  let source := removeAll usingStandard source
  let source := removeAll returnZero source
  -- Types go first, and after that the prefix of the namespace that stood in front of them.
  let source := declare (mainBody source)
  let source := replaceWord "std::" [] source
  let source := replaceAll read prompt source
  Text.join "\n" ((Text.lines source).map outputLine)

/-- The line that opens a transcript. -/
def banner : Text := "C++ Interactive Simulation Started"

/-- The line that frames a transcript. -/
def rule : Text := List.replicate 37 '-'

/-- The script of a console program, between a banner and the report of its end. -/
def script (source : Text) : Text :=
  "console.log(\"".toList ++ banner ++ "\");\nconsole.log(\"".toList ++ rule ++
    "\");\n(async function() \x7b\n".toList ++ transpile source ++
    "\nconsole.log(\"".toList ++ rule ++
    "\");\nconsole.log(\"Process finished with exit code 0\");\n\x7d)().catch(function(e) \x7b\n  console.error(\"Runtime Error:\", e.message);\n\x7d);".toList

end SandboxPreview.Simulator.Cpp
