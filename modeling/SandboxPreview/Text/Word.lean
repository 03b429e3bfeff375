/-
# Word characters

A word is a run of letters, digits, other numerics and underscores. Combining marks do not
belong to words, so a word ends before one.
-/
import SandboxPreview.Text.Blank
import SandboxPreview.Text.WordTable

namespace SandboxPreview.Text

/-- A letter, a digit, another numeric, or the underscore. -/
def isWordChar (c : Char) : Bool :=
  c.isAlphanum || c == '_' || (decide (0x7F < c.toNat) && inRanges wordRanges c.toNat)

end SandboxPreview.Text
