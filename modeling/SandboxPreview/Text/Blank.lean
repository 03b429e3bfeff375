/-
# White space

The characters that count as white space wherever this library trims a text or a pattern asks
for a blank: the ASCII controls from tab to carriage return, the four ASCII separators, the
space, and the separators of Unicode. A zero-width space or a byte order mark is not blank.
-/
import SandboxPreview.Text.Basic

namespace SandboxPreview.Text

/-- The number lies in one of the inclusive ranges. -/
def inRanges (ranges : List (Nat × Nat)) (n : Nat) : Bool :=
  ranges.any fun (first, last) => decide (first ≤ n) && decide (n ≤ last)

/-- White space, as inclusive ranges. -/
def blankRanges : List (Nat × Nat) :=
  [(0x09, 0x0D), (0x1C, 0x20), (0x85, 0x85), (0xA0, 0xA0), (0x1680, 0x1680),
   (0x2000, 0x200A), (0x2028, 0x2029), (0x202F, 0x202F), (0x205F, 0x205F), (0x3000, 0x3000)]

/-- White space. -/
def isBlank (c : Char) : Bool := inRanges blankRanges c.toNat

/-- The text from its first character that is not blank. -/
def trimStart (text : Text) : Text := text.dropWhile isBlank

/-- The text up to its last character that is not blank. -/
def trimEnd (text : Text) : Text := (trimStart text.reverse).reverse

/-- The text without blanks at its two ends. -/
def trim (text : Text) : Text := trimEnd (trimStart text)

end SandboxPreview.Text
