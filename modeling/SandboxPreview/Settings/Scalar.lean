/-
# Integers and booleans in settings

What the values given for an integer or a boolean stand for. An integer may be given as a number
without fraction or as a text, a boolean as a number or a word.

A text is first read as a plain integer: digits after a minus sign if there is one. A text that is
none is tidied and read once more. Tidying takes off blanks, a plus sign, zeros in front and a
fraction of zeros, and leaves out underscores.
-/
import SandboxPreview.Text.Blank
import SandboxPreview.Validation

namespace SandboxPreview.Settings

/-! ### Texts of integers -/

/-- Why a text stands for no integer. -/
inductive NumeralError where
  | unreadable
  /-- There are more digits than are read. -/
  | tooLong
  deriving DecidableEq

/-- The most digits of an integer. -/
def numeralLimit : Nat := 4300

/-- The integer that is plainly written: digits after a minus sign if there is one, the first of
them zero only in zero. The length is looked at before what follows the digits. -/
def plainInteger (text : Text) : Except NumeralError Int :=
  let negative := text.head? == some '-'
  let unsigned := if negative then text.drop 1 else text
  let digits := unsigned.takeWhile Char.isDigit
  let size : Int := Text.ofDigits digits
  if digits.head? = some '0' then
    -- A zero in front stands alone, and a negative zero is zero.
    if unsigned = ['0'] then .ok 0 else .error .unreadable
  else if numeralLimit < digits.length then .error .tooLong
  else if digits = [] ∨ digits ≠ unsigned then .error .unreadable
  else .ok (if negative then -size else size)

/-- A blank that is trimmed around a number. The ASCII separators are not. -/
def isNumberBlank (c : Char) : Bool :=
  Text.isBlank c && !(decide (0x1C ≤ c.toNat) && decide (c.toNat ≤ 0x1F))

/-- The text without blanks at its two ends. -/
def trimNumber (text : Text) : Text :=
  ((text.dropWhile isNumberBlank).reverse.dropWhile isNumberBlank).reverse

/-- The digit is not zero. -/
def isPositiveDigit (c : Char) : Bool := c.isDigit && c != '0'

/-- The text after zeros, among which underscores may stand, when a digit or a minus sign follows
them. The `last` of these characters is kept before a point and at the end of the text. -/
def afterZeros? (last : Char) : Text → Option Text
  | [] => some [last]
  | c :: text =>
    if c = '0' ∨ c = '_' then afterZeros? c text
    else if isPositiveDigit c ∨ c = '-' then some (c :: text)
    else if c = '.' then some (last :: c :: text)
    else none

/-- The text without zeros in front, when it starts with a digit. -/
def withoutZeros? : Text → Option Text
  | [] => none
  | c :: text =>
    if c = '0' then afterZeros? c text
    else if isPositiveDigit c then some (c :: text)
    else none

/-- The text without a point and the zeros after it, of which there is at least one. -/
def withoutZeroFraction (text : Text) : Text :=
  match text.dropWhile (· != '.') with
  | _ :: '0' :: zeros => if zeros.all (· == '0') then text.takeWhile (· != '.') else text
  | _ => text

/-- The text without underscores, when each of them stands alone between other characters. -/
def withoutUnderscores (text : Text) : Text :=
  if text.head? = some '_' ∨ text.getLast? = some '_' ∨ Text.contains "__" text then text
  else text.filter (· != '_')

/-- The text of an integer in plain writing, if it can be tidied. -/
def tidyInteger? (text : Text) : Option Text :=
  let tidy (unsigned : Text) : Option Text :=
    (withoutZeros? unsigned).map fun rest => withoutUnderscores (withoutZeroFraction rest)
  match trimNumber text with
  | '-' :: rest => (tidy rest).map ('-' :: ·)
  | '+' :: rest => tidy rest
  | rest => tidy rest

/-- The integer that a text stands for. -/
def readInteger (text : Text) : Except NumeralError Int :=
  match plainInteger text with
  | .error .unreadable =>
    match tidyInteger? text with
    -- Whatever is wrong with the tidied text, the text given is the one that is unreadable.
    | some tidied => (plainInteger tidied).mapError fun _ => .unreadable
    | none => .error .unreadable
  | found => found

/-! ### Checks -/

/-- A double is taken as an integer only strictly between the bounds of 64 bits. -/
def isInWord (n : Int) : Bool := decide (-Int.pow 2 63 < n) && decide (n < Int.pow 2 63)

/-- A check of an integer: an integer, a number or a text that stands for one, or a boolean. -/
def checkInteger (place : List Place) (value : Json) : Checked Int :=
  match value with
  | .integer n => .ok n
  | .bool b => .ok (if b then 1 else 0)
  | .double d =>
    match d.toInt? with
    | none => .fail .fractionalInteger place value
    | some n => if isInWord n then .ok n else .fail .tooLongInteger place value
  | .notANumber | .infinity _ => .fail .notFinite place value
  | .text s =>
    match readInteger s with
    | .ok n => .ok n
    | .error .tooLong => .fail .tooLongInteger place value
    | .error .unreadable => .fail .unreadableInteger place value
  | _ => .fail .notInteger place value

/-- A check of an integer that may be absent. -/
def checkOptionalInteger (place : List Place) : Json → Checked (Option Int)
  | .null => .ok none
  | value => (checkInteger place value).map some

/-- The texts that stand for true. -/
def trueWords : List Text := ["1", "true", "t", "yes", "y", "on"]

/-- The texts that stand for false. -/
def falseWords : List Text := ["0", "false", "f", "no", "n", "off"]

/-- A check of a boolean: a boolean, one or zero, or a word that stands for one. Numbers beyond
64 bits do not count as numbers here. -/
def checkBoolean (place : List Place) (value : Json) : Checked Bool :=
  match value with
  | .bool b => .ok b
  | .text s =>
    if trueWords.elem (s.map Char.toLower) then .ok true
    else if falseWords.elem (s.map Char.toLower) then .ok false
    else .fail .unreadableBoolean place value
  | .integer n => if isInWord n ∨ n = -Int.pow 2 63 then ofInt n else .fail .notBoolean place value
  | .double d =>
    match d.toInt? with
    | some n => if isInWord n then ofInt n else .fail .notBoolean place value
    | none => .fail .notBoolean place value
  | _ => .fail .notBoolean place value
where
  /-- One and zero stand for booleans. -/
  ofInt (n : Int) : Checked Bool :=
    if n = 1 then .ok true
    else if n = 0 then .ok false
    else .fail .unreadableBoolean place value

end SandboxPreview.Settings
