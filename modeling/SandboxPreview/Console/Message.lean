/-
# Console messages

What the script in a document sends to the window around it: the tag of its source, a level and
a text. A message that arrives is any JSON value until it has been checked.
-/
import SandboxPreview.Validation

namespace SandboxPreview.Console

/-- The level of a console call. -/
inductive Level where
  | log
  | error
  | warn
  | info
  deriving DecidableEq

/-- The name of a level. -/
def Level.name : Level → Text
  | log => "log"
  | error => "error"
  | warn => "warn"
  | info => "info"

/-- The level of a name. -/
def Level.ofName? (name : Text) : Option Level :=
  [Level.log, .error, .warn, .info].find? fun level => level.name == name

/-- A message of the script in a document. -/
structure Message where
  source : Text
  level : Level
  text : Text
  deriving DecidableEq

/-- A check of a level, which is one of the four names. -/
def Level.check (place : List Place) (value : Json) : Checked Level :=
  match value with
  | .text name =>
    match ofName? name with
    | some level => .ok level
    | none => .fail .unknownLevel place value
  | _ => .fail .unknownLevel place value

/-- The message that a value stands for. A value that is no object has the given problem. -/
def Message.check (refusal : Problem) (place : List Place) : Json → Checked Message
  | .object members =>
    let value := Json.object members
    Checked.both (fun source rest => ⟨source, rest.1, rest.2⟩)
      (.required .text place "source" value)
      (.both Prod.mk
        (.required Level.check place "type" value)
        (.required .text place "message" value))
  | value => .fail refusal place value

/-- The problem of a value on its own that is no object. -/
def Message.notRecord : Problem := .notRecord "ConsoleMessage"

end SandboxPreview.Console
