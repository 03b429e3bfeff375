/-
# Reading JSON

A reader for one JSON value that fills the whole text. White space is space, tab, carriage
return and line feed only. Arrays and objects stand inside one another to a limited depth, and
integers have a limited number of digits. A value that is refused comes with the cause and with
the text read before it, from which the position, the line and the column are counted.
-/
import SandboxPreview.Json.Basic
import SandboxPreview.Text.Encoding

namespace SandboxPreview.Json

/-- A value that holds other values. -/
inductive Container where
  | array
  | object
  deriving DecidableEq

/-- Why a text is not a JSON value. -/
inductive Cause where
  | expectingValue
  | expectingName
  | expectingColon
  | expectingComma
  | extraData
  | unterminatedText
  | invalidEscape
  | invalidUnicodeEscape
  | controlCharacter
  | byteOrderMark
  /-- An integer has more digits than the reader accepts. -/
  | integerTooLong (digits : Nat)
  /-- A container is opened inside too many others. -/
  | nestedTooDeep (container : Container)
  deriving DecidableEq

/-- The most digits an integer may have. -/
def digitLimit : Nat := 4300

/-- The most arrays and objects that may stand inside one another. -/
def depthLimit : Nat := 970

/-- The message for an integer that has too many digits. -/
def tooManyDigits (digits : Nat) : Text :=
  "Exceeds the limit (4300 digits) for integer string conversion: value has ".toList ++
    Text.ofNat digits ++
    " digits; use sys.set_int_max_str_digits() to increase the limit".toList

/-- The message for a container inside too many others. -/
def tooDeep (container : Container) : Text :=
  "maximum recursion depth exceeded while decoding a JSON ".toList ++
    (match container with
      | .array => "array".toList
      | .object => "object") ++
    " from a unicode string".toList

/-- The message of a cause, without its place. -/
def Cause.message : Cause → Text
  | .expectingValue => "Expecting value"
  | .expectingName => "Expecting property name enclosed in double quotes"
  | .expectingColon => "Expecting ':' delimiter"
  | .expectingComma => "Expecting ',' delimiter"
  | .extraData => "Extra data"
  | .unterminatedText => "Unterminated string starting at"
  | .invalidEscape => "Invalid \\escape"
  | .invalidUnicodeEscape => "Invalid \\uXXXX escape"
  | .controlCharacter => "Invalid control character at"
  | .byteOrderMark => "Unexpected UTF-8 BOM (decode using utf-8-sig)"
  | .integerTooLong digits => tooManyDigits digits
  | .nestedTooDeep container => tooDeep container

/-- A refused text: the cause, and the text before the place it names. -/
structure ParseError where
  cause : Cause
  before : Text

/-- The number of characters before the place of an error. -/
def ParseError.position (e : ParseError) : Nat := e.before.length

/-- The line of an error, counted from one. -/
def ParseError.line (e : ParseError) : Nat := e.before.count '\n' + 1

/-- The column of an error, counted from one. -/
def ParseError.column (e : ParseError) : Nat := (Text.afterLast '\n' e.before).length + 1

/-- The message of an error with its place. -/
def ParseError.message (e : ParseError) : Text :=
  e.cause.message ++ ": line ".toList ++ Text.ofNat e.line ++ " column ".toList ++
    Text.ofNat e.column ++ " (char ".toList ++ Text.ofNat e.position ++ [')']

/-- A failure inside the reader: the cause, and the rest of the text at its place. -/
abbrev Failure := Cause × Text

/-- What the reader of a part gives: usually a result with the rest, or a failure. -/
abbrev Reading := Except Failure

/-- White space between the tokens. -/
def isSpace (c : Char) : Bool := c == ' ' || c == '\t' || c == '\n' || c == '\r'

/-- The text after white space. -/
def skipSpace (s : Text) : Text := s.dropWhile isSpace

/-- The value of a hexadecimal digit. -/
def hexDigit? (c : Char) : Option Nat :=
  if '0' ≤ c ∧ c ≤ '9' then some (c.toNat - '0'.toNat)
  else if 'a' ≤ c ∧ c ≤ 'f' then some (c.toNat - 'a'.toNat + 10)
  else if 'A' ≤ c ∧ c ≤ 'F' then some (c.toNat - 'A'.toNat + 10)
  else none

/-- The 16-bit unit written by the four hexadecimal digits at the start of the text. -/
def unit? : Text → Option Nat
  | a :: b :: c :: d :: _ => do
    let w ← hexDigit? a
    let x ← hexDigit? b
    let y ← hexDigit? c
    let z ← hexDigit? d
    pure (((w * 16 + x) * 16 + y) * 16 + z)
  | _ => none

/-- The escape whose `u` starts the given text, and the rest after it. Four digits and one more
character have to follow. A high surrogate takes a low one that is escaped right after it. -/
def unicodeEscape (escape : Text) : Reading (Char × Text) :=
  let digits := escape.drop 1
  let rest := digits.drop 4
  match unit? digits with
  | none => .error (.invalidUnicodeEscape, escape)
  | some unit =>
    -- At least the closing quote has to follow the digits.
    if rest = [] then .error (.invalidUnicodeEscape, escape)
    else if Text.isHighUnit unit && ['\\', 'u'].isPrefixOf rest && decide (6 < rest.length) then
      match unit? (rest.drop 2) with
      -- The second escape is read as such before it is known to be a low surrogate.
      | none => .error (.invalidUnicodeEscape, rest.drop 1)
      | some low =>
        if Text.isLowUnit low then .ok (Text.ofPair unit low, rest.drop 6)
        else .ok (Text.ofUnit unit, rest)
    else .ok (Text.ofUnit unit, rest)

/-- A surrogate stands alone among those that a JSON text writes by escapes. One that starts a pair may
stand right before the text. -/
def hasLoneEscape (high : Bool) : Text → Bool
  | '\\' :: 'u' :: a :: b :: c :: d :: s =>
    let unit := (unit? [a, b, c, d]).getD 0
    if high && Text.isLowUnit unit then hasLoneEscape false s
    else high || Text.isLowUnit unit || hasLoneEscape (Text.isHighUnit unit) s
  | '\\' :: _ :: s => high || hasLoneEscape false s
  | _ :: s => high || hasLoneEscape false s
  | [] => high

/-- The character of an escape of one letter. -/
def letterEscape? (c : Char) : Option Char :=
  match c with
  | '\x22' => some '\x22'
  | '\\' => some '\\'
  | '/' => some '/'
  | 'b' => some '\x08'
  | 'f' => some '\x0c'
  | 'n' => some '\n'
  | 'r' => some '\r'
  | 't' => some '\t'
  | _ => none

/-- The characters of a text up to its closing quote, after those already read, which are held
in reverse. The opening quote starts `opening`. -/
def textBody (opening : Text) :
    (steps : Nat) → (read : List Char) → Text → Reading (Text × Text)
  | 0, _, _ => .error (.unterminatedText, opening)
  | _ + 1, _, [] => .error (.unterminatedText, opening)
  | steps + 1, read, c :: s =>
    if c = '\x22' then .ok (read.reverse, s)
    else if c = '\\' then
      match s with
      | [] => .error (.unterminatedText, opening)
      | 'u' :: _ =>
        match unicodeEscape s with
        | .error failure => .error failure
        | .ok (found, rest) => textBody opening steps (found :: read) rest
      | e :: rest =>
        match letterEscape? e with
        | none => .error (.invalidEscape, c :: s)
        | some found => textBody opening steps (found :: read) rest
    -- Control characters stand in a text only as escapes.
    else if c.toNat ≤ 0x1F then .error (.controlCharacter, c :: s)
    else textBody opening steps (c :: read) s

/-- The text whose opening quote starts the given text. -/
def textValue (opening : Text) : Reading (Text × Text) :=
  textBody opening opening.length [] (opening.drop 1)

/-- The digits of a fraction and the rest; no fraction unless a digit follows the point. -/
def fraction (s : Text) : Text × Text :=
  match s with
  | '.' :: rest =>
    let digits := rest.takeWhile Char.isDigit
    if digits = [] then ([], s) else (digits, rest.dropWhile Char.isDigit)
  | _ => ([], s)

/-- The exponent and the rest; no exponent unless a digit follows the mark and the sign. -/
def exponent? (s : Text) : Option (Int × Text) :=
  match s with
  | [] => none
  | mark :: rest =>
    if mark = 'e' ∨ mark = 'E' then
      let (negative, digitsOn) :=
        match rest with
        | '-' :: more => (true, more)
        | '+' :: more => (false, more)
        | _ => (false, rest)
      let digits := digitsOn.takeWhile Char.isDigit
      if digits = [] then none
      else
        let size : Int := Text.ofDigits digits
        some (if negative then -size else size, digitsOn.dropWhile Char.isDigit)
    else none

/-- The number at the start of the text. An integer part starts with zero only when it is
zero. -/
def number (s : Text) : Reading (Json × Text) :=
  let negative := s.head? == some '-'
  let unsigned := if negative then s.drop 1 else s
  let whole :=
    -- Digits behind a leading zero are left for what follows, which refuses them.
    if unsigned.head? = some '0' then ['0'] else unsigned.takeWhile Char.isDigit
  if whole = [] then .error (.expectingValue, s)
  else
    let (parts, rest) := fraction (unsigned.drop whole.length)
    match exponent? rest with
    | some (power, rest) =>
      .ok (.ofDecimal negative (Text.ofDigits (whole ++ parts)) (power - parts.length), rest)
    | none =>
      if parts ≠ [] then
        .ok (.ofDecimal negative (Text.ofDigits (whole ++ parts)) (-(parts.length : Int)), rest)
      -- Only integers are held to the limit: a fraction or an exponent makes a double.
      else if digitLimit < whole.length then .error (.integerTooLong whole.length, s)
      else
        let size : Int := Text.ofDigits whole
        .ok (.integer (if negative then -size else size), rest)

/-- The words that stand for values. -/
def words : List (Text × Json) :=
  [("null", .null), ("true", .bool true), ("false", .bool false), ("NaN", .notANumber),
   ("Infinity", .infinity false), ("-Infinity", .infinity true)]

/-- The value of the word that starts the text. -/
def word? (s : Text) : Option (Json × Text) :=
  words.findSome? fun (name, value) => (Text.after? name s).map fun rest => (value, rest)

mutual
/-- The value that starts the text, inside which containers may stand to the given depth. Of two
members of one name the later value is kept, in the place of the earlier one. -/
def value : (depth steps : Nat) → Text → Reading (Json × Text)
  | _, 0, s => .error (.expectingValue, s)
  | depth, steps + 1, s =>
    match s, depth with
    | [], _ => .error (.expectingValue, s)
    | '\x22' :: _, _ => do
      let (chars, rest) ← textValue s
      pure (.text chars, rest)
    | '[' :: _, 0 => .error (.nestedTooDeep .array, s)
    | '[' :: s, depth + 1 =>
      match skipSpace s with
      | ']' :: rest => .ok (.array [], rest)
      | inside => do
        let (found, rest) ← items depth steps inside
        pure (.array found, rest)
    | '\x7b' :: _, 0 => .error (.nestedTooDeep .object, s)
    | '\x7b' :: s, depth + 1 =>
      match skipSpace s with
      | '\x7d' :: rest => .ok (.object [], rest)
      | inside => do
        let (found, rest) ← members depth steps [] inside
        pure (.object found, rest)
    | _, _ =>
      match word? s with
      | some found => .ok found
      | none => number s
/-- The items up to the closing bracket. -/
def items : (depth steps : Nat) → Text → Reading (List Json × Text)
  | _, 0, s => .error (.expectingValue, s)
  | depth, steps + 1, s => do
    let (item, rest) ← value depth steps s
    match skipSpace rest with
    | ']' :: rest => pure ([item], rest)
    | ',' :: rest => do
      let (others, rest) ← items depth steps (skipSpace rest)
      pure (item :: others, rest)
    | rest => .error (.expectingComma, rest)
/-- The members up to the closing brace, after those already read. -/
def members : (depth steps : Nat) → (read : List (Text × Json)) → Text →
    Reading (List (Text × Json) × Text)
  | _, 0, _, s => .error (.expectingName, s)
  | depth, steps + 1, read, s =>
    match s with
    | '\x22' :: _ => do
      let (name, rest) ← textValue s
      match skipSpace rest with
      | ':' :: rest => do
        let (found, rest) ← value depth steps (skipSpace rest)
        -- The later of two values replaces the earlier one where that stands.
        let read := Keyed.put read name found
        match skipSpace rest with
        | '\x7d' :: rest => pure (read, rest)
        | ',' :: rest => members depth steps read (skipSpace rest)
        | rest => .error (.expectingComma, rest)
      | rest => .error (.expectingColon, rest)
    | _ => .error (.expectingName, s)
end

/-- The value that fills a sequence of characters, white space around it aside. -/
def parseChars (s : Text) : Except ParseError Json :=
  let at_ (failure : Failure) : ParseError := ⟨failure.1, Text.between s failure.2⟩
  -- Values, items and members take a step each, at most two for a character.
  match value depthLimit (2 * s.length + 2) (skipSpace s) with
  | .error failure => .error (at_ failure)
  | .ok (found, rest) =>
    match skipSpace rest with
    | [] => .ok found
    | rest => .error (at_ (.extraData, rest))

/-- The value that fills a text. A byte order mark in front is refused. -/
def parse (s : Text) : Except ParseError Json :=
  if s.head? = some '\uFEFF' then .error ⟨.byteOrderMark, []⟩ else parseChars s

end SandboxPreview.Json
