/-
# Artifacts

One named unit of generated source text. The name is a relative path; its ending tells what the
text is. Two artifacts of one set may share a name. Artifacts that come from outside are
checked: the name is a text that is not empty, the language is a text, and the content is a
text, empty when it is not given.
-/
import SandboxPreview.Text.LetterCase
import SandboxPreview.Validation

namespace SandboxPreview

/-- A named source text. The language is the lower-case extension or the tag of a fence. -/
structure Artifact where
  name : Text
  language : Text
  content : Text := []
  deriving DecidableEq

namespace Artifact

/-- The last component of the path. -/
def basename (a : Artifact) : Text := Text.afterLast '/' a.name

/-- The lower-case ending of the last path component, without the dot; empty when there is no
dot. -/
def extension (a : Artifact) : Text :=
  if a.basename.elem '.' then Text.lower (Text.afterLast '.' a.basename) else []

/-- A check of a name, which is a text that is not empty. -/
def checkName (place : List Place) : Json → Checked Text
  | .text [] => .fail .emptyText place (.text [])
  | value => .text place value

/-- The artifact that a value stands for. A value that is no object has the given problem. -/
def check (refusal : Problem) (place : List Place) : Json → Checked Artifact
  | .object members =>
    let value := Json.object members
    Checked.both (fun name rest => ⟨name, rest.1, rest.2⟩)
      (.required checkName place "name" value)
      (.both Prod.mk
        (.required .text place "language" value)
        (.defaulted .text place "content" [] value))
  | value => .fail refusal place value

/-- The problem of a value on its own that is no object. -/
def notRecord : Problem := .notRecord "Artifact"

/-- An artifact as a JSON value. -/
def toJson (a : Artifact) : Json :=
  .record [("name", .text a.name), ("language", .text a.language), ("content", .text a.content)]

end Artifact

end SandboxPreview
