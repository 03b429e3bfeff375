/-
# Simulators

A simulator imitates the console output of a program by reading its source; nothing is run. The
registry holds the simulators that may be chosen, in the order in which they were registered.
The one that claims an artifact's extension is chosen, and the generic one when none does.
-/
import SandboxPreview.Artifact
import SandboxPreview.Simulator.PrintCalls
import SandboxPreview.Simulator.Cpp

namespace SandboxPreview

/-- The simulators there are. -/
inductive Simulator where
  | cpp
  | generic
  | go
  | java
  | python
  deriving DecidableEq

namespace Simulator

/-- All simulators, in the order of their names. -/
def all : List Simulator := [cpp, generic, go, java, python]

/-- The name under which a simulator is registered. -/
def name : Simulator → Text
  | cpp => "cpp"
  | generic => "generic"
  | go => "go"
  | java => "java"
  | python => "python"

/-- The simulator of a name. -/
def ofName? (name : Text) : Option Simulator := all.find? fun s => s.name == name

/-- The extensions that a simulator claims, in ascending order. -/
def extensions : Simulator → List Text
  | cpp => ["c", "cc", "cpp", "h", "hpp"]
  | generic => []
  | go => ["go"]
  | java => ["java"]
  | python => ["py"]

/-- The line that reports an artifact for which nothing more is known. -/
def compiledMessage (name : Text) : Text :=
  "[System] Compiled ".toList ++ name ++ " successfully.".toList

/-- The statements that imitate an artifact's output. -/
def run (s : Simulator) (a : Artifact) : Text :=
  match s with
  | cpp => Cpp.script a.content
  | generic => consoleLog (compiledMessage a.name)
  | go => printed goCall a.content
  | java => printed javaCall a.content
  | python => printed pythonCall a.content

/-- The built-in choice for an artifact: the simulator that claims its extension, or the generic
one. -/
def builtInFor (a : Artifact) : Simulator :=
  (all.find? fun s => s.extensions.elem a.extension).getD generic

/-- The statements that imitate an artifact's output, by the built-in choice. -/
def simulate (a : Artifact) : Text := (builtInFor a).run a

/-- A simulator was asked for that is not registered. -/
structure Unsupported where
  name : Text
  available : List Text
  deriving DecidableEq

/-- The message of the error. -/
def Unsupported.message (e : Unsupported) : Text :=
  "Unsupported simulator '".toList ++ e.name ++ "'. Available: ".toList ++
    Text.join ", " e.available

/-- The registered simulators, in the order of their first registration. -/
abbrev Registry := List Simulator

namespace Registry

/-- The registry with every simulator. -/
def builtIn : Registry := all

/-- The registry with one more simulator; one that is registered keeps its place. -/
def register (r : Registry) (s : Simulator) : Registry := if r.elem s then r else r ++ [s]

/-- The registered names in ascending order. -/
def available (r : Registry) : List Text := Text.sort (r.map name)

/-- The registered simulator of a name. -/
def get (r : Registry) (name : Text) : Except Unsupported Simulator :=
  match r.find? fun s => s.name == name with
  | some s => .ok s
  | none => .error ⟨name, available r⟩

/-- The simulator for an artifact. -/
def forArtifact (r : Registry) (a : Artifact) : Except Unsupported Simulator :=
  match r.find? fun s => s.extensions.elem a.extension with
  | some s => .ok s
  | none => get r "generic"

/-- The statements that imitate an artifact's output, by the registered simulators. -/
def simulate (r : Registry) (a : Artifact) : Except Unsupported Text :=
  (forArtifact r a).map fun s => s.run a

end Registry

end Simulator

end SandboxPreview
