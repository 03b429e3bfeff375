/-
# String literals of scripts

A message becomes a double-quoted string literal that can stand inside a script element. Escape
sequences of the message are kept, so that a message taken from a literal keeps its meaning. A
backslash at the end is doubled when it would swallow the closing quote, and `</` is written
with a backslash so that it cannot end the element.
-/
import SandboxPreview.Text.Pattern

namespace SandboxPreview.Simulator

/-- Quotes get a backslash unless one stands before them. -/
def escapeQuotes : (afterBackslash : Bool) → Text → Text
  | _, [] => []
  | afterBackslash, c :: text =>
    if c = '\x22' ∧ afterBackslash = false then '\\' :: c :: escapeQuotes false text
    else c :: escapeQuotes (c == '\\') text

/-- The number of backslashes at the end. -/
def trailingBackslashes (text : Text) : Nat := (text.reverse.takeWhile (· == '\\')).length

/-- The text with an even number of backslashes at its end. -/
def evenBackslashes (text : Text) : Text :=
  if trailingBackslashes text % 2 = 1 then text ++ ['\\'] else text

/-- The characters between the quotes of a literal. -/
def literalBody (message : Text) : Text :=
  Pattern.replaceWord "</" "<\\/"
    (evenBackslashes (Pattern.replaceWord "\n" "\\n" (escapeQuotes false message)))

/-- The message as a string literal. -/
def stringLiteral (message : Text) : Text := '\x22' :: literalBody message ++ ['\x22']

/-- The statement that writes a message to the console. -/
def consoleLog (message : Text) : Text :=
  "console.log(".toList ++ stringLiteral message ++ ");".toList

end SandboxPreview.Simulator
