/-
# Session metadata

What a client notes about its session: a mapping from keys to JSON values. Metadata that arrives
as a JSON value is an object, or a sequence of pairs: an array or a text whose items are arrays,
texts or objects of two parts. A value that counts as false stands for no metadata. Keys are
texts, numbers, booleans or null; numbers and booleans of equal value are the same key.
-/
import SandboxPreview.Json.Printer

namespace SandboxPreview.Session

/-- Keys and values, in the order of the keys' first insertion. -/
abbrev Metadata := List (Json × Json)

/-- Why a value is no mapping. -/
inductive MappingError where
  /-- The value has no items. -/
  | notIterable (type : Text)
  /-- An item of the sequence has no parts. -/
  | notSequence (index : Nat)
  /-- An item of the sequence has another number of parts than two. -/
  | wrongLength (index length : Nat)
  /-- A key is a list or an object. -/
  | unhashable (type : Text)
  deriving DecidableEq

/-- The message of an error. -/
def MappingError.message : MappingError → Text
  | .notIterable type => ['\x27'] ++ type ++ "' object is not iterable".toList
  | .notSequence index =>
    "cannot convert dictionary update sequence element #".toList ++ Text.ofNat index ++
      " to a sequence".toList
  | .wrongLength index length =>
    "dictionary update sequence element #".toList ++ Text.ofNat index ++ " has length ".toList ++
      Text.ofNat length ++ "; 2 is required".toList
  | .unhashable type => "unhashable type: '".toList ++ type ++ ['\x27']

/-- The value of a key that counts as a number: a factor, and the exponent of the power of two it
is taken of. -/
def keyNumber? : Json → Option (Int × Int)
  | .bool b => some (if b then 1 else 0, 0)
  | .integer n => some (n, 0)
  | .double d => some (d.factor, d.exponent)
  | _ => none

/-- Two numbers are equal; both are brought to the lesser exponent. -/
def sameNumber (a b : Int × Int) : Bool :=
  let low := min a.2 b.2
  a.1 * Int.pow 2 (a.2 - low).toNat == b.1 * Int.pow 2 (b.2 - low).toNat

/-- Two keys are the same. -/
def sameKey (a b : Json) : Bool :=
  match keyNumber? a, keyNumber? b with
  | some x, some y => sameNumber x y
  | none, none =>
    match a, b with
    | .text s, .text t => s == t
    | .null, .null => true
    | .notANumber, .notANumber => true
    | .infinity s, .infinity t => s == t
    | _, _ => false
  | _, _ => false

/-- A value is put under a key; a key that is present keeps its place. -/
def Metadata.put (m : Metadata) (key value : Json) : Metadata :=
  if m.any fun entry => sameKey entry.1 key then
    m.map fun entry => if sameKey entry.1 key then (entry.1, value) else entry
  else m ++ [(key, value)]

/-- The metadata of texts under texts. -/
def Metadata.ofTexts (members : Keyed Text) : Metadata :=
  members.map fun (key, value) => (.text key, .text value)

/-- The metadata of an object's members. -/
def Metadata.ofMembers (members : Keyed Json) : Metadata :=
  members.map fun (key, value) => (.text key, value)

/-- The value counts as false. -/
def isFalsy : Json → Bool
  | .null => true
  | .bool b => !b
  | .integer n => n == 0
  | .double d => d.isZero
  | .text s => s.isEmpty
  | .array items => items.isEmpty
  | .object members => members.isEmpty
  | .notANumber => false
  | .infinity _ => false

/-- The parts of an item of a sequence: the characters of a text, the items of an array, the
names of an object. -/
def parts? : Json → Option (List Json)
  | .text s => some (s.map fun c => .text [c])
  | .array items => some items
  | .object members => some (members.map fun (key, _) => .text key)
  | _ => none

/-- A key may be a text, a number, a boolean or null. -/
def checkKey : Json → Except MappingError Json
  | .array _ => .error (.unhashable "list")
  | .object _ => .error (.unhashable "dict")
  | key => .ok key

/-- Pairs are put into a mapping, from the item of the given index on. -/
def putPairs (m : Metadata) (index : Nat) : List Json → Except MappingError Metadata
  | [] => .ok m
  | item :: items =>
    match parts? item with
    | none => .error (.notSequence index)
    | some [key, value] => do
      let key ← checkKey key
      putPairs (m.put key value) (index + 1) items
    | some others => .error (.wrongLength index others.length)

/-- The metadata that a value stands for. -/
def Metadata.ofJson (value : Json) : Except MappingError Metadata :=
  if isFalsy value then .ok []
  else
    match value with
    | .object members => .ok (ofMembers members)
    | .array items => putPairs [] 0 items
    -- A character has one part only, so a text that is not empty is refused at its first.
    | .text s => putPairs [] 0 (s.map fun c => .text [c])
    | .bool _ => .error (.notIterable "bool")
    | .integer _ => .error (.notIterable "int")
    | _ => .error (.notIterable "float")

/-- The name under which a key is written. -/
def keyName : Json → Text
  | .text s => s
  | key => key.render

/-- Metadata as a JSON object. -/
def Metadata.toJson (m : Metadata) : Json :=
  .object (m.foldl (fun members entry => Keyed.put members (keyName entry.1) entry.2) [])

end SandboxPreview.Session
