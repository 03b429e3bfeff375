/-
# Validation

Checking JSON values against what an operation needs. A check gives a result or all problems it
found, in the order of the fields; each problem comes with the place and the value it is about.
-/
import SandboxPreview.Json.Basic

namespace SandboxPreview

/-- A step on the way to a part of a value. -/
inductive Place where
  | field (name : Text)
  | item (index : Nat)
  deriving DecidableEq

/-- What can be wrong with a value. -/
inductive Problem where
  /-- A required member is absent. -/
  | missing
  | notText
  /-- A text that must not be empty is empty. -/
  | emptyText
  /-- A console level is none of the four. -/
  | unknownLevel
  /-- A value that stands for a record of the given kind is not an object. -/
  | notRecord (kind : Text)
  /-- A part of a request that stands for a record is not an object. -/
  | notObject
  | notList
  | notMapping
  | notInteger
  /-- A text is not the text of an integer. -/
  | unreadableInteger
  /-- An integer has too many digits. -/
  | tooLongInteger
  /-- A number has a fractional part where an integer is needed. -/
  | fractionalInteger
  /-- A number is infinite or none at all. -/
  | notFinite
  | notBoolean
  /-- A text or number is not one of those that stand for a boolean. -/
  | unreadableBoolean
  /-- A request gives none or both of its two possible sources. -/
  | notOneSource
  deriving DecidableEq

namespace Problem

/-- The short name of a problem. -/
def code : Problem → Text
  | missing => "missing"
  | notText => "string_type"
  | emptyText => "string_too_short"
  | unknownLevel => "enum"
  | notRecord _ => "model_type"
  | notObject => "model_attributes_type"
  | notList => "list_type"
  | notMapping => "dict_type"
  | notInteger => "int_type"
  | unreadableInteger => "int_parsing"
  | tooLongInteger => "int_parsing_size"
  | fractionalInteger => "int_from_float"
  | notFinite => "finite_number"
  | notBoolean => "bool_type"
  | unreadableBoolean => "bool_parsing"
  | notOneSource => "value_error"

/-- The message of a problem. -/
def message : Problem → Text
  | missing => "Field required"
  | notText => "Input should be a valid string"
  | emptyText => "String should have at least 1 character"
  | unknownLevel => "Input should be 'log', 'error', 'warn' or 'info'"
  | notRecord kind => "Input should be a valid dictionary or instance of ".toList ++ kind
  | notObject => "Input should be a valid dictionary or object to extract fields from"
  | notList => "Input should be a valid list"
  | notMapping => "Input should be a valid dictionary"
  | notInteger => "Input should be a valid integer"
  | unreadableInteger =>
    "Input should be a valid integer, unable to parse string as an integer"
  | tooLongInteger => "Unable to parse input string as an integer, exceeded maximum size"
  | notFinite => "Input should be a finite number"
  | fractionalInteger =>
    "Input should be a valid integer, got a number with a fractional part"
  | notBoolean => "Input should be a valid boolean"
  | unreadableBoolean => "Input should be a valid boolean, unable to interpret input"
  | notOneSource => "Value error, Provide exactly one of 'text' or 'artifacts'"

/-- What a problem's message was made from, when that is reported. -/
def context? : Problem → Option Json
  | emptyText => some (.record [("min_length", .integer 1)])
  | unknownLevel => some (.record [("expected", .ofString "'log', 'error', 'warn' or 'info'")])
  | notOneSource => some (.record [("error", .object [])])
  | _ => none

end Problem

/-- A problem, the place it is at, and the value that has it. For a missing member the value is
the object that lacks it. -/
structure Issue where
  problem : Problem
  place : List Place
  input : Json

/-- The result of a check: a value, or every problem that was found. -/
abbrev Checked := Except (List Issue)

namespace Checked

variable {α β γ : Type}

/-- A single problem. -/
def fail (problem : Problem) (place : List Place) (input : Json) : Checked α :=
  .error [⟨problem, place, input⟩]

/-- The problems of a check. -/
def issues : Checked α → List Issue
  | .ok _ => []
  | .error found => found

/-- Two checks of parts of one value; the problems of both are reported. -/
def both (f : α → β → γ) (a : Checked α) (b : Checked β) : Checked γ :=
  match a, b with
  | .ok x, .ok y => .ok (f x y)
  | a, b => .error (issues a ++ issues b)

/-- A check of a further part, for a result that is still to be applied to it. -/
def and (f : Checked (α → β)) (a : Checked α) : Checked β := both (fun f a => f a) f a

/-- The checks of a list of parts; the problems of all are reported. -/
def all : List (Checked α) → Checked (List α)
  | [] => .ok []
  | check :: checks => both List.cons check (all checks)

/-- A check of a text. -/
def text (place : List Place) : Json → Checked Text
  | .text s => .ok s
  | value => fail .notText place value

/-- A check of a member that an object must have. -/
def required (check : List Place → Json → Checked α) (place : List Place) (name : Text)
    (object : Json) : Checked α :=
  let inside := place ++ [.field name]
  match object.get? name with
  | some value => check inside value
  | none => fail .missing inside object

/-- A check of a member that has a value when it is absent. -/
def defaulted (check : List Place → Json → Checked α) (place : List Place) (name : Text)
    (absent : α) (object : Json) : Checked α :=
  match object.get? name with
  | some value => check (place ++ [.field name]) value
  | none => .ok absent

end Checked

end SandboxPreview
