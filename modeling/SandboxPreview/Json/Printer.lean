/-
# Printing JSON

The written form of a JSON value in ASCII: a blank after each comma and colon, every character
beyond printable ASCII escaped by its 16-bit units, and a double with the fewest digits that read
back. `indented` puts each item on a line of its own.
-/
import SandboxPreview.Json.Basic

namespace SandboxPreview.Json

/-- A 16-bit unit as an escape of four hexadecimal digits. -/
def unitEscape (unit : Nat) : Text := "\\u".toList ++ Text.padded 16 4 unit

/-- A character inside a written text. Characters above U+FFFF are written as the two units of
their surrogate pair. -/
def escapeChar (c : Char) : Text :=
  if c = '\x22' then "\\\""
  else if c = '\\' then "\\\\"
  else if c = '\n' then "\\n"
  else if c = '\r' then "\\r"
  else if c = '\t' then "\\t"
  else if c = '\x08' then "\\b"
  else if c = '\x0c' then "\\f"
  else if 0x20 ≤ c.toNat ∧ c.toNat ≤ 0x7E then [c]
  else if c.toNat ≤ 0xFFFF then unitEscape c.toNat
  else
    unitEscape (0xD800 + (c.toNat - 0x10000) / 0x400) ++
      unitEscape (0xDC00 + (c.toNat - 0x10000) % 0x400)

/-- A text between double quotes, with its characters escaped. -/
def quote (s : Text) : Text := '\x22' :: s.flatMap escapeChar ++ ['\x22']

/-- The digits of a number without zeros at the end, and how many those were. -/
def significant (n : Nat) : Text × Nat :=
  let digits := (Text.ofNat n).reverse
  ((digits.dropWhile (· == '0')).reverse, (digits.takeWhile (· == '0')).length)

/-- The exponent of a decimal in scientific form: a sign and at least two digits. -/
def writeExponent (power : Int) : Text :=
  (if power < 0 then "e-".toList else "e+") ++ Text.padded 10 2 power.natAbs

/-- The digits of a positive decimal whose point stands after the first `point` of them. It is
written positionally when the point is at most sixteen digits after the first digit and three
zeros before it, else in scientific form. -/
def placeDigits (digits : Text) (point : Int) : Text :=
  if 0 < point ∧ point ≤ 16 then
    let whole := digits.take point.toNat
    let zeros := List.replicate (point.toNat - digits.length) '0'
    match digits.drop point.toNat with
    | [] => whole ++ zeros ++ ".0".toList
    | fraction => whole ++ '.' :: fraction
  else if -4 < point ∧ point ≤ 0 then
    "0.".toList ++ List.replicate point.natAbs '0' ++ digits
  else
    digits.take 1 ++
      (match digits.drop 1 with
        | [] => []
        | fraction => '.' :: fraction) ++
      writeExponent (point - 1)

/-- The size of a double with the fewest digits that read back. -/
def writeSize (d : Double) : Text :=
  if d.isZero then "0.0"
  else
    let (decimal, exponent) := d.shortest
    -- The zeros that are left out still count for the place of the point.
    let (digits, zeros) := significant decimal
    placeDigits digits (digits.length + zeros + exponent)

/-- A double, after a minus sign when it is negative. -/
def writeDouble (d : Double) : Text := (if d.negative then ['-'] else []) ++ writeSize d

mutual
/-- The written form on one line. -/
def render : Json → Text
  | .null => "null"
  | .bool true => "true"
  | .bool false => "false"
  | .integer n => Text.ofInt n
  | .double d => writeDouble d
  | .notANumber => "NaN"
  | .infinity false => "Infinity"
  | .infinity true => "-Infinity"
  | .text s => quote s
  | .array items => '[' :: renderItems items ++ [']']
  | .object members => '\x7b' :: renderMembers members ++ ['\x7d']
/-- Items with their separators. -/
def renderItems : List Json → Text
  | [] => []
  | [item] => render item
  | item :: items => render item ++ ", ".toList ++ renderItems items
/-- Members with their separators. -/
def renderMembers : List (Text × Json) → Text
  | [] => []
  | [(name, value)] => quote name ++ ": ".toList ++ render value
  | (name, value) :: members =>
    quote name ++ ": ".toList ++ render value ++ ", ".toList ++ renderMembers members
end

/-- The start of a line at a depth: two blanks for each level. -/
def newLine (depth : Nat) : Text := '\n' :: List.replicate (2 * depth) ' '

mutual
/-- The written form with each item on a line of its own; empty arrays and objects stay
together. -/
def renderIndented (depth : Nat) : Json → Text
  | .array [] => "[]"
  | .array items => '[' :: indentedItems depth items ++ newLine depth ++ [']']
  | .object [] => ['\x7b', '\x7d']
  | .object members => '\x7b' :: indentedMembers depth members ++ newLine depth ++ ['\x7d']
  | .null => "null"
  | .bool true => "true"
  | .bool false => "false"
  | .integer n => Text.ofInt n
  | .double d => writeDouble d
  | .notANumber => "NaN"
  | .infinity false => "Infinity"
  | .infinity true => "-Infinity"
  | .text s => quote s
/-- Items on lines of their own. -/
def indentedItems (depth : Nat) : List Json → Text
  | [] => []
  | [item] => newLine (depth + 1) ++ renderIndented (depth + 1) item
  | item :: items =>
    newLine (depth + 1) ++ renderIndented (depth + 1) item ++ [','] ++ indentedItems depth items
/-- Members on lines of their own. -/
def indentedMembers (depth : Nat) : List (Text × Json) → Text
  | [] => []
  | [(name, value)] =>
    newLine (depth + 1) ++ quote name ++ ": ".toList ++ renderIndented (depth + 1) value
  | (name, value) :: members =>
    newLine (depth + 1) ++ quote name ++ ": ".toList ++ renderIndented (depth + 1) value ++
      [','] ++ indentedMembers depth members
end

/-- The written form with each item on a line of its own. -/
def indented (value : Json) : Text := renderIndented 0 value

end SandboxPreview.Json
