/-
# Import and export statements

Modules that are put into one script need no imports of each other and no exports. An import is
recognised by its spelling alone and removed; when its specifier is not a path, its text is
collected, once, so that it can stand at the head of the script.
-/
import SandboxPreview.Text.Pattern
import SandboxPreview.Text.Word

namespace SandboxPreview.Linking

open Pattern

/-- An import statement as it stands in a module. -/
structure Import where
  statement : Text
  specifier : Text
  deriving DecidableEq

/-- A quote, of either kind. -/
def isQuote (c : Char) : Bool := c == '\x27' || c == '\x22'

/-- A character of the bindings of an import. -/
def isBinding (c : Char) : Bool :=
  Text.isWordChar c || Text.isBlank c || c == '*' || c == '\x7b' || c == '\x7d' || c == ',' ||
    c == '$'

/-- A quoted specifier on one line and a semicolon if there is one: the end of an import that
starts at `start`. -/
def importEnd (start : Text) : Text → Option (Import × Text) :=
  one isQuote <| mark fun specifier => lazily inLine <| mark fun specifierEnd =>
  one isQuote <| optionally (· == ';') fun rest =>
    some (⟨Text.between start rest, Text.between specifier specifierEnd⟩, rest)

/-- An import of bindings from a module. -/
def fromImport : Reader Import :=
  mark fun start => literal "import" <| greedy₁ Text.isBlank <| lazily₁ isBinding <|
  greedy₁ Text.isBlank <| literal "from" <| greedy₁ Text.isBlank <| importEnd start

/-- An import of a module for its effects. -/
def effectImport : Reader Import :=
  mark fun start => literal "import" <| greedy₁ Text.isBlank <| importEnd start

/-- The specifier is a path to another file of the project. -/
def isLocal (specifier : Text) : Bool :=
  specifier.head? == some '.' || specifier.head? == some '/'

/-- The statements already collected, and a further one unless it is among them. -/
def collect (external : List Text) (i : Import) : List Text :=
  if isLocal i.specifier || external.elem i.statement then external
  else external ++ [i.statement]

/-- The module without the imports of one form, and the statements collected so far. -/
def stripForm (form : Reader Import) (source : Text) (external : List Text) :
    Text × List Text :=
  (removeAll form source, (findAll form source).foldl collect external)

/-- The module without its imports, and the statements collected so far. -/
def stripImports (source : Text) (external : List Text) : Text × List Text :=
  -- Bare imports are looked for in what the first form leaves.
  let (source, external) := stripForm fromImport source external
  stripForm effectImport source external

/-- The words that export a default value. -/
def exportDefault : Reader Unit :=
  literal "export" <| greedy₁ Text.isBlank <| literal "default" <| greedy₁ Text.isBlank done

/-- The word that exports a declaration. -/
def exportWord : Reader Unit := literal "export" <| greedy₁ Text.isBlank done

/-- The module without its export words; what they export stays. -/
def stripExports (source : Text) : Text := removeAll exportWord (removeAll exportDefault source)

end SandboxPreview.Linking
