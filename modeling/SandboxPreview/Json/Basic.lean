/-
# JSON values

A JSON value as it is read: numbers keep whether they were written as integers, and the members
of an object keep their order. Any other number is a double; the three values that JSON texts may
hold beyond the standard have constructors of their own.
-/
import SandboxPreview.Double
import SandboxPreview.Keyed

namespace SandboxPreview

/-- A JSON value. -/
inductive Json where
  | null
  | bool (b : Bool)
  /-- A number written without fraction and exponent. -/
  | integer (n : Int)
  /-- A number written with a fraction or an exponent. -/
  | double (d : Double)
  /-- The value written `NaN`. -/
  | notANumber
  /-- The value written `Infinity`, or `-Infinity` when negative. -/
  | infinity (negative : Bool)
  | text (s : Text)
  | array (items : List Json)
  | object (members : List (Text × Json))

namespace Json

/-- A text value given as a string. -/
def ofString (s : String) : Json := .text s.toList

/-- A number that is a natural number. -/
def ofNat (n : Nat) : Json := .integer n

/-- The double nearest to `mantissa * 10 ^ exponent`, or to its opposite when negative; infinite
when it is too large. -/
def ofDecimal (negative : Bool) (mantissa : Nat) (exponent : Int) : Json :=
  match Double.ofDecimal? negative mantissa exponent with
  | some d => .double d
  | none => .infinity negative

/-- The list of texts as an array. -/
def texts (items : List Text) : Json := .array (items.map .text)

/-- Members given with their names as strings. -/
def record (members : List (String × Json)) : Json :=
  .object (members.map fun (name, value) => (name.toList, value))

/-- The value of a member, when the value is an object that has it. -/
def get? (name : Text) : Json → Option Json
  | .object members => Keyed.get? members name
  | _ => none

mutual
/-- The value holds a number that standard JSON cannot write. -/
def isNonstandard : Json → Bool
  | .notANumber => true
  | .infinity _ => true
  | .array items => anyNonstandard items
  | .object members => memberNonstandard members
  | _ => false
/-- Some item holds a number that standard JSON cannot write. -/
def anyNonstandard : List Json → Bool
  | [] => false
  | item :: items => isNonstandard item || anyNonstandard items
/-- Some member holds a number that standard JSON cannot write. -/
def memberNonstandard : List (Text × Json) → Bool
  | [] => false
  | (_, value) :: members => isNonstandard value || memberNonstandard members
end

end Json

end SandboxPreview
