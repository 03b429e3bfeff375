/-
# Project stores

The projects that were loaded from model replies, by their ids. A project keeps its artifacts
and its explanation as they were loaded; its console log is the only part that changes. Loading
again makes a new project.
-/
import SandboxPreview.Console.Log
import SandboxPreview.Keyed
import SandboxPreview.Preview

namespace SandboxPreview

/-- A loaded project. -/
structure Project where
  artifacts : List Artifact
  explanation : Text
  log : Console.Log

/-- What loading a project reports. -/
structure Loaded where
  projectId : Text
  kind : ProjectKind
  files : List Text
  explanation : Text

/-- A line in the list of projects. -/
structure Summary where
  projectId : Text
  kind : ProjectKind
  files : Nat
  logs : Nat
  deriving DecidableEq

/-- Why an operation on a store fails. -/
inductive StoreError where
  | unknownProject (id : Text)
  | refused (r : Console.Refusal)

/-- The message of an error; of a refusal, its first line. -/
def StoreError.message : StoreError → Text
  | .unknownProject id => "No project loaded with id '".toList ++ id ++ ['\x27']
  | .refused r => r.message

/-- The loaded projects in the order of loading. -/
structure ProjectStore where
  projects : Keyed Project := []

namespace ProjectStore

/-- The project of an id is loaded. -/
def contains (s : ProjectStore) (id : Text) : Bool := s.projects.has id

/-- The project of an id. -/
def find (s : ProjectStore) (id : Text) : Except StoreError Project :=
  match s.projects.get? id with
  | some project => .ok project
  | none => .error (.unknownProject id)

/-- Artifacts are loaded as a new project. -/
def loadArtifacts (s : ProjectStore) (p : Pipeline) (id : Text) (artifacts : List Artifact)
    (explanation : Text) : Loaded × ProjectStore :=
  (⟨id, p.classify artifacts, artifacts.map Artifact.name, explanation⟩,
    -- The log of a new project is empty and expects the tag that previews are made with.
    ⟨s.projects.put id ⟨artifacts, explanation, { sourceTag := p.options.sourceTag }⟩⟩)

/-- The files of a model reply are loaded as a new project. -/
def loadReply (s : ProjectStore) (p : Pipeline) (id reply : Text) : Loaded × ProjectStore :=
  s.loadArtifacts p id (Reply.extract reply) (Reply.explanation reply)

/-- The kind of a project. -/
def classify (s : ProjectStore) (p : Pipeline) (id : Text) : Except StoreError ProjectKind :=
  (s.find id).map fun project => p.classify project.artifacts

/-- A new preview of a project. -/
def assemble (s : ProjectStore) (p : Pipeline) (id : Text) : Except StoreError Preview :=
  (s.find id).map fun project =>
    { p.assemble project.artifacts with explanation := project.explanation }

/-- The line of a project in the list of projects. -/
def summary (p : Pipeline) (entry : Text × Project) : Summary :=
  ⟨entry.1, p.classify entry.2.artifacts, entry.2.artifacts.length, entry.2.log.events.length⟩

/-- The projects in the order of loading. -/
def summaries (s : ProjectStore) (p : Pipeline) : List Summary := s.projects.map (summary p)

/-- A project is unloaded. -/
def remove (s : ProjectStore) (id : Text) : Except StoreError ProjectStore :=
  if s.contains id then .ok ⟨s.projects.erase id⟩ else .error (.unknownProject id)

/-- The store with another log for a project. -/
def withLog (s : ProjectStore) (id : Text) (log : Console.Log) : ProjectStore :=
  ⟨s.projects.update id fun project => { project with log }⟩

/-- A console message of a project's preview is recorded. -/
def record (s : ProjectStore) (id : Text) (now : Instant) (payload : Json) :
    Except StoreError (Console.Event × ProjectStore) := do
  let project ← s.find id
  match project.log.receive now payload with
  | .ok (event, log) => pure (event, s.withLog id log)
  | .error r => .error (.refused r)

/-- The console events of a project, oldest first. -/
def events (s : ProjectStore) (id : Text) : Except StoreError (List Console.Event) :=
  (s.find id).map fun project => project.log.events

/-- The console events of a project are removed, and counted. -/
def clearLog (s : ProjectStore) (id : Text) : Except StoreError (Nat × ProjectStore) :=
  (s.find id).map fun project =>
    let (count, log) := project.log.clear
    (count, s.withLog id log)

/-- An operation on a store. -/
inductive Call where
  | loadReply (reply : Text)
  | loadArtifacts (artifacts : List Artifact) (explanation : Text)
  | artifacts (id : Text)
  | explanation (id : Text)
  | classify (id : Text)
  | assemble (id : Text)
  | projects
  | remove (id : Text)
  | contains (id : Text)
  | record (id : Text) (payload : Json)
  | events (id : Text)
  | clearLog (id : Text)

/-- The operation makes a project, which takes a new id. -/
def Call.loads : Call → Bool
  | .loadReply _ => true
  | .loadArtifacts _ _ => true
  | _ => false

/-- What an operation gives. -/
inductive Answer where
  | loaded (l : Loaded)
  | artifacts (artifacts : List Artifact)
  | text (s : Text)
  | kind (k : ProjectKind)
  | preview (p : Preview)
  | projects (summaries : List Summary)
  | nothing
  | flag (b : Bool)
  | event (e : Console.Event)
  | events (es : List Console.Event)
  | count (n : Nat)

/-- The answer of an operation that changes nothing. -/
def query {α : Type} (s : ProjectStore) (answer : α → Answer) :
    Except StoreError α → ProjectStore × Except StoreError Answer
  | .ok a => (s, .ok (answer a))
  | .error e => (s, .error e)

/-- The answer of an operation that changes the store when it succeeds. -/
def change {α : Type} (s : ProjectStore) (answer : α → Answer) :
    Except StoreError (α × ProjectStore) → ProjectStore × Except StoreError Answer
  | .ok (a, s) => (s, .ok (answer a))
  | .error e => (s, .error e)

/-- One operation on a store at an instant. A project that it makes takes the id `fresh`. -/
def call (s : ProjectStore) (p : Pipeline) (fresh : Text) (now : Instant) :
    Call → ProjectStore × Except StoreError Answer
  | .loadReply reply => s.change .loaded (.ok (s.loadReply p fresh reply))
  | .loadArtifacts artifacts explanation =>
    s.change .loaded (.ok (s.loadArtifacts p fresh artifacts explanation))
  | .artifacts id => s.query .artifacts ((s.find id).map Project.artifacts)
  | .explanation id => s.query .text ((s.find id).map Project.explanation)
  | .classify id => s.query .kind (s.classify p id)
  | .assemble id => s.query .preview (s.assemble p id)
  | .projects => s.query .projects (.ok (s.summaries p))
  | .remove id => s.change (fun _ => .nothing) ((s.remove id).map ((), ·))
  | .contains id => s.query .flag (.ok (s.contains id))
  | .record id payload => s.change .event (s.record id now payload)
  | .events id => s.query .events (s.events id)
  | .clearLog id => s.change .count (s.clearLog id)

end ProjectStore

end SandboxPreview
