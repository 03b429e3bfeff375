/-
# Quoted texts

The one-line quoted form in which a text is shown inside a message: between single quotes, or
between double quotes when the text holds a single quote and no double one. The chosen quote,
the backslash and everything without a printed form are escaped.
-/
import SandboxPreview.Text.Blank
import SandboxPreview.Text.PrintableTable

namespace SandboxPreview.Text

/-- The character has a printed form. -/
def isPrintable (c : Char) : Bool := !inRanges unprintableRanges c.toNat

/-- One character between quotes. Line feed, carriage return and tab have short escapes; the
others that are not printed are written by code point, in two, four or eight digits. -/
def quotedChar (quote c : Char) : Text :=
  if c = quote ∨ c = '\\' then ['\\', c]
  else if c = '\n' then "\\n"
  else if c = '\r' then "\\r"
  else if c = '\t' then "\\t"
  else if isPrintable c then [c]
  else if c.toNat ≤ 0xFF then "\\x".toList ++ padded 16 2 c.toNat
  else if c.toNat ≤ 0xFFFF then "\\u".toList ++ padded 16 4 c.toNat
  else "\\U".toList ++ padded 16 8 c.toNat

/-- The text between quotes, on one line. -/
def quoted (text : Text) : Text :=
  let quote := if text.elem '\x27' && !text.elem '\x22' then '\x22' else '\x27'
  quote :: text.flatMap (quotedChar quote) ++ [quote]

end SandboxPreview.Text
