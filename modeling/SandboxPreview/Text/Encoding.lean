/-
# Encodings

The Unicode encodings in which a text comes as bytes, and the 16-bit units of characters beyond
U+FFFF. Text of unknown encoding tells its own: by a byte order mark, or by where its first bytes
are zero, when its first characters are ASCII.

Two readers of UTF-8 differ in what they do with bytes that belong to no character: `decodeUtf8`
puts replacement characters in their place, `Encoding.decode?` refuses the text.
-/
import SandboxPreview.Text.Basic

namespace SandboxPreview.Text

/-- The replacement character. -/
def replacement : Char := '\uFFFD'

/-! ### Units of 16 bits -/

/-- A unit that starts a surrogate pair. -/
def isHighUnit (unit : Nat) : Bool := decide (0xD800 ≤ unit) && decide (unit ≤ 0xDBFF)

/-- A unit that ends a surrogate pair. -/
def isLowUnit (unit : Nat) : Bool := decide (0xDC00 ≤ unit) && decide (unit ≤ 0xDFFF)

/-- A unit that belongs into a surrogate pair. -/
def isSurrogate (unit : Nat) : Bool := isHighUnit unit || isLowUnit unit

/-- The character of a surrogate pair. -/
def ofPair (high low : Nat) : Char :=
  Char.ofNat (0x10000 + (high - 0xD800) * 0x400 + (low - 0xDC00))

/-- The character of a unit that stands alone. A surrogate that stands alone is no character
and reads as the replacement character. -/
def ofUnit (unit : Nat) : Char :=
  if isSurrogate unit then replacement else Char.ofNat unit

/-- The characters of a sequence of units, after those already read, which are held in
reverse. -/
def ofUnits (read : List Char) : List Nat → Text
  | [] => read.reverse
  | [unit] => (ofUnit unit :: read).reverse
  | high :: low :: units =>
    if isHighUnit high && isLowUnit low then ofUnits (ofPair high low :: read) units
    else ofUnits (ofUnit high :: read) (low :: units)

/-- A surrogate stands alone among the units. -/
def hasLoneUnit : List Nat → Bool
  | [] => false
  | [unit] => isSurrogate unit
  | high :: low :: units =>
    if isHighUnit high && isLowUnit low then hasLoneUnit units
    else isSurrogate high || hasLoneUnit (low :: units)

/-! ### UTF-8 -/

/-- A byte that continues a character, within the given bounds. -/
def isContinuation (low high byte : Nat) : Bool := decide (low ≤ byte) && decide (byte ≤ high)

/-- The payload of a leading byte, the bytes that follow it, and the bounds of the first of
these; none for a byte that starts no character. -/
def leading? (byte : Nat) : Option (Nat × Nat × Nat × Nat) :=
  if 0xC2 ≤ byte ∧ byte ≤ 0xDF then some (byte - 0xC0, 1, 0x80, 0xBF)
  else if byte = 0xE0 then some (0, 2, 0xA0, 0xBF)
  else if byte = 0xED then some (0xD, 2, 0x80, 0x9F)
  else if 0xE1 ≤ byte ∧ byte ≤ 0xEF then some (byte - 0xE0, 2, 0x80, 0xBF)
  else if byte = 0xF0 then some (0, 3, 0x90, 0xBF)
  else if byte = 0xF4 then some (4, 3, 0x80, 0x8F)
  else if 0xF1 ≤ byte ∧ byte ≤ 0xF3 then some (byte - 0xF0, 3, 0x80, 0xBF)
  else none

/-- A character whose bytes have begun: the payload so far, the bytes still to come, and the
bounds of the next one. -/
abbrev Pending := Nat × Nat × Nat × Nat

/-- What a decoder holds: the character that has begun, and those it has read, in reverse. -/
abbrev Decoding := Option Pending × List Char

/-- A byte outside any character that has begun: it is a character, or it begins one. -/
def Decoding.start (read : List Char) (byte : Nat) : Decoding :=
  if byte < 0x80 then (none, Char.ofNat byte :: read)
  else
    match leading? byte with
    | some pending => (some pending, read)
    | none => (none, replacement :: read)

/-- One more byte. A character that breaks off becomes one replacement character, and the byte
that broke it off is read anew. -/
def Decoding.next (decoding : Decoding) (byte : UInt8) : Decoding :=
  match decoding with
  | (none, read) => start read byte.toNat
  | (some (payload, left, low, high), read) =>
    if isContinuation low high byte.toNat then
      let payload := payload * 0x40 + (byte.toNat - 0x80)
      if left ≤ 1 then (none, Char.ofNat payload :: read)
      else (some (payload, left - 1, 0x80, 0xBF), read)
    -- The byte is not lost: it may begin a character of its own.
    else start (replacement :: read) byte.toNat

/-- The text when no byte is left. -/
def Decoding.finish : Decoding → Text
  | (none, read) => read.reverse
  | (some _, read) => (replacement :: read).reverse

/-- The text of bytes in UTF-8. -/
def decodeUtf8 (bytes : List UInt8) : Text :=
  Decoding.finish (bytes.foldl Decoding.next (none, []))

/-- The text of bytes in UTF-8; none when there are bytes that belong to no character. -/
def decodeStrict? (bytes : List UInt8) : Option Text :=
  (String.fromUTF8? ⟨bytes.toArray⟩).map String.toList

/-- The bytes with the replacement character for each surrogate, which is written like a character
of three bytes. -/
def replaceSurrogates : List UInt8 → List UInt8
  | 0xED :: b :: c :: bytes =>
    if isContinuation 0xA0 0xBF b.toNat && isContinuation 0x80 0xBF c.toNat then
      0xEF :: 0xBF :: 0xBD :: replaceSurrogates bytes
    else 0xED :: replaceSurrogates (b :: c :: bytes)
  | byte :: bytes => byte :: replaceSurrogates bytes
  | [] => []

/-! ### Encodings -/

/-- The order of the bytes of a number: the least or the most significant byte comes first. -/
inductive ByteOrder where
  | little
  | big
  deriving DecidableEq

/-- The number that bytes make up. -/
def ByteOrder.number (order : ByteOrder) (bytes : List UInt8) : Nat :=
  let ordered := match order with
    | .little => bytes.reverse
    | .big => bytes
  ordered.foldl (fun n byte => n * 0x100 + byte.toNat) 0

/-- A Unicode encoding. -/
inductive Encoding where
  | utf8
  | utf16 (order : ByteOrder)
  | utf32 (order : ByteOrder)
  deriving DecidableEq

/-- The byte order marks and the encodings they tell. That of UTF-32 starts like that of
UTF-16 and is looked for first. -/
def byteOrderMarks : List (List UInt8 × Encoding) :=
  [([0x00, 0x00, 0xFE, 0xFF], .utf32 .big), ([0xFF, 0xFE, 0x00, 0x00], .utf32 .little),
   ([0xFE, 0xFF], .utf16 .big), ([0xFF, 0xFE], .utf16 .little), ([0xEF, 0xBB, 0xBF], .utf8)]

/-- The encoding of bytes without a mark, by which of the first ones are zero. -/
def Encoding.ofZeros : List UInt8 → Encoding
  | [0, _] => .utf16 .big
  | [_, 0] => .utf16 .little
  | 0 :: 0 :: _ :: _ :: _ => .utf32 .big
  | 0 :: _ :: _ :: _ :: _ => .utf16 .big
  | _ :: 0 :: 0 :: 0 :: _ => .utf32 .little
  | _ :: 0 :: _ :: _ :: _ => .utf16 .little
  | _ => .utf8

/-- The encoding that bytes are in, and the bytes after their mark if they have one. -/
def Encoding.detect (bytes : List UInt8) : Encoding × List UInt8 :=
  match byteOrderMarks.find? fun entry => entry.1.isPrefixOf bytes with
  | some (mark, encoding) => (encoding, bytes.drop mark.length)
  | none => (.ofZeros bytes, bytes)

/-- The units of 16 bits that bytes make up, after those already read, which are held in
reverse; none when a byte is left over. -/
def units16? (order : ByteOrder) (read : List Nat) : List UInt8 → Option (List Nat)
  | [] => some read.reverse
  | [_] => none
  | a :: b :: bytes => units16? order (order.number [a, b] :: read) bytes

/-- The units of 32 bits that bytes make up, after those already read, which are held in
reverse; none when bytes are left over. -/
def units32? (order : ByteOrder) (read : List Nat) : List UInt8 → Option (List Nat)
  | [] => some read.reverse
  | a :: b :: c :: d :: bytes => units32? order (order.number [a, b, c, d] :: read) bytes
  | _ => none

/-- The text of bytes in an encoding; none when there are bytes that belong to no character. A
surrogate that stands alone reads as the replacement character. -/
def Encoding.decode? (encoding : Encoding) (bytes : List UInt8) : Option Text :=
  match encoding with
  | .utf8 => decodeStrict? bytes <|> decodeStrict? (replaceSurrogates bytes)
  | .utf16 order => (units16? order [] bytes).map (ofUnits [])
  | .utf32 order => do
    let units ← units32? order [] bytes
    if units.all (· ≤ 0x10FFFF) then some (units.map ofUnit) else none

/-- A surrogate stands alone in the text of bytes in an encoding. Only in units of 16 bits are two of
them a pair. -/
def Encoding.hasLone (encoding : Encoding) (bytes : List UInt8) : Bool :=
  match encoding with
  | .utf8 => (decodeStrict? bytes).isNone
  | .utf16 order => (units16? order [] bytes).any hasLoneUnit
  | .utf32 order => (units32? order [] bytes).any fun units => units.any isSurrogate

/-- The text of bytes in the encoding that they tell. -/
def decode? (bytes : List UInt8) : Option Text :=
  let (encoding, bytes) := Encoding.detect bytes
  encoding.decode? bytes

/-- A surrogate stands alone in the text of bytes in the encoding that they tell. -/
def hasLone (bytes : List UInt8) : Bool :=
  let (encoding, bytes) := Encoding.detect bytes
  encoding.hasLone bytes

end SandboxPreview.Text
