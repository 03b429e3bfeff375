/-
# Previews

From a model reply to its preview: the files are extracted, their kind is found and the document
is assembled. What a viewer should know about the document comes as warnings.
-/
import SandboxPreview.Reply.Extraction
import SandboxPreview.Page.Assembly

namespace SandboxPreview

/-- A preview: its document, what it was made from, and what to know about it. -/
structure Preview where
  document : Text
  kind : ProjectKind
  artifacts : List Artifact
  explanation : Text := []
  warnings : List Text := []

/-- The choices under which previews are made. -/
structure Pipeline where
  options : Page.Options := {}
  classifier : Classifier := {}

namespace Pipeline

/-- The kind of a set of artifacts. -/
def classify (p : Pipeline) (artifacts : List Artifact) : ProjectKind :=
  p.classifier.classify artifacts

/-- The warning that a program is not run. -/
def simulatedWarning (name : Text) : Text :=
  "Console output of ".toList ++ name ++ " is simulated, not executed".toList

/-- The warning that a mounting call was added. -/
def mountWarning : Text := "No mount call found; App is mounted automatically"

/-- The warning that a reply has no files. -/
def noFilesWarning : Text := "No files found in model output"

/-- What to know about the document of a set of artifacts. -/
def warnings (p : Pipeline) (artifacts : List Artifact) : List Text :=
  match p.classify artifacts with
  | .native =>
    match p.classifier.findNative artifacts with
    | some program => [simulatedWarning program.name]
    | none => []
  | .framework =>
    let scripts := Classifier.scripts artifacts
    if !scripts.any (fun a => Linking.hasMountCall a.content) &&
        scripts.any (fun a => Linking.declaresApp a.content)
    then [mountWarning] else []
  | _ => []

/-- The preview of a set of artifacts. -/
def assemble (p : Pipeline) (artifacts : List Artifact) : Preview where
  document := Page.assemble artifacts p.options p.classifier
  kind := p.classify artifacts
  artifacts
  warnings := p.warnings artifacts

/-- The preview of a model reply. -/
def run (p : Pipeline) (reply : Text) : Preview :=
  let artifacts := Reply.extract reply
  let preview := p.assemble artifacts
  { preview with
    explanation := Reply.explanation reply
    -- That nothing was found goes before what is said of the document.
    warnings := (if artifacts = [] then [noFilesWarning] else []) ++ preview.warnings }

end Pipeline

end SandboxPreview
