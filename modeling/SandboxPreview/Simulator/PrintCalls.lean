/-
# Print calls

Print calls with one string literal, in the spelling of three languages. The message of a call
is the text between the quotes as it is written. A call with any other argument is not found.
-/
import SandboxPreview.Simulator.Literal
import SandboxPreview.Text.Blank

namespace SandboxPreview.Simulator

open Pattern

/-- The units of a literal in the given quotes, as many as what follows allows: characters other
than the quote and the backslash, and backslashes with the character after them, which is not a
line feed. -/
def literalUnits {β : Type} (quote : Char) (next : Text → Option β) : Text → Option β
  | [] => next []
  | '\\' :: c :: text =>
    if c = '\n' then next ('\\' :: c :: text)
    else literalUnits quote next text <|> next ('\\' :: c :: text)
  | c :: text =>
    if c = quote ∨ c = '\\' then next (c :: text)
    else literalUnits quote next text <|> next (c :: text)

/-- A literal in the given quotes, whose inside is named by its two places. -/
def literalText {β : Type} (quote : Char) (next : Text → Text → Option β) : Text → Option β :=
  one (· == quote) <| mark fun start => literalUnits quote <| mark fun stop =>
  one (· == quote) <| next (Text.between start stop)

/-- An opening parenthesis with blanks around it. -/
def openCall {β : Type} (next : Text → Option β) : Text → Option β :=
  greedy Text.isBlank <| literal "(" <| greedy Text.isBlank next

/-- Blanks and a closing parenthesis. -/
def closeCall {β : Type} (next : Text → Option β) : Text → Option β :=
  greedy Text.isBlank <| literal ")" next

/-- A word if it is there. -/
def perhaps {β : Type} (words : List Text) (next : Text → Option β) : Text → Option β :=
  oneOf (words.map literal ++ [id]) next

/-- A print call of Go. Only the first argument is read. -/
def goCall : Reader Text :=
  literal "fmt.Print" <| perhaps ["ln", "f"] <| openCall <|
  literalText '\x22' fun message rest => some (message, rest)

/-- The rest of a call whose only argument is a literal in the given quotes. -/
def onlyArgument (quote : Char) : Reader Text :=
  literalText quote fun message => closeCall fun rest => some (message, rest)

/-- A print call of Java. -/
def javaCall : Reader Text :=
  literal "System.out.print" <| perhaps ["ln"] <| openCall <| onlyArgument '\x22'

/-- A print call of Python, whose literal is in quotes of either kind. -/
def pythonCall : Reader Text :=
  literal "print" <| openCall fun text => onlyArgument '\x27' text <|> onlyArgument '\x22' text

/-- The messages of the print calls of a source, each written to the console. -/
def printed (call : Reader Text) (source : Text) : Text :=
  Text.join "\n" ((findAll call source).map consoleLog)

end SandboxPreview.Simulator
