/-
# Routing

The resources of the service by their paths, and what each method does with them. A path with
slashes at its end is redirected to the path without them, when that is one of a resource.
-/
import SandboxPreview.Http.Message

namespace SandboxPreview.Http

/-- A resource of the service. -/
inductive Resource where
  | extract
  | assemble
  | sessions
  | session (id : Text)
  | projects (session : Text)
  | project (session id : Text)
  | preview (session id : Text)
  | logs (session id : Text)
  | simulators
  | health
  deriving DecidableEq

/-- What the service is asked to do. -/
inductive Endpoint where
  | extract
  | assemble
  | createSession
  | listSessions
  | showSession (id : Text)
  | closeSession (id : Text)
  | loadProject (session : Text)
  | listProjects (session : Text)
  | showProject (session id : Text)
  | removeProject (session id : Text)
  | preview (session id : Text)
  | recordLog (session id : Text)
  | showLogs (session id : Text)
  | clearLogs (session id : Text)
  | listSimulators
  | health
  deriving DecidableEq

/-- The last part of a path is a word; one line feed after it does no harm. -/
def isLast (word : String) (part : Text) : Bool :=
  part == word.toList || part == word.toList ++ ['\n']

/-- The resource of a path. -/
def Resource.ofPath? (path : Text) : Option Resource :=
  match Text.splitOn '/' path with
  | [[], one] =>
    if isLast "extract" one then some extract
    else if isLast "assemble" one then some assemble
    else if isLast "sessions" one then some sessions
    else if isLast "simulators" one then some simulators
    else if isLast "health" one then some health
    else none
  | [[], first, sid] =>
    if first = "sessions".toList ∧ sid ≠ [] then some (session sid) else none
  | [[], first, sid, last] =>
    if first = "sessions".toList ∧ sid ≠ [] ∧ isLast "projects" last then some (projects sid)
    else none
  | [[], first, sid, second, pid] =>
    if first = "sessions".toList ∧ sid ≠ [] ∧ second = "projects".toList ∧ pid ≠ [] then
      some (project sid pid)
    else none
  | [[], first, sid, second, pid, last] =>
    if first = "sessions".toList ∧ sid ≠ [] ∧ second = "projects".toList ∧ pid ≠ [] then
      if isLast "preview" last then some (preview sid pid)
      else if isLast "logs" last then some (logs sid pid)
      else none
    else none
  | _ => none

/-- The methods of a resource and what they do, in the order of their declaration. -/
def Resource.endpoints : Resource → List (Text × Endpoint)
  | extract => [("POST", .extract)]
  | assemble => [("POST", .assemble)]
  | sessions => [("POST", .createSession), ("GET", .listSessions)]
  | session id => [("GET", .showSession id), ("DELETE", .closeSession id)]
  | projects sid => [("POST", .loadProject sid), ("GET", .listProjects sid)]
  | project sid pid => [("GET", .showProject sid pid), ("DELETE", .removeProject sid pid)]
  | preview sid pid => [("GET", .preview sid pid)]
  | logs sid pid =>
    [("POST", .recordLog sid pid), ("GET", .showLogs sid pid), ("DELETE", .clearLogs sid pid)]
  | simulators => [("GET", .listSimulators)]
  | health => [("GET", .health)]

/-- A path without the slashes at its end. -/
def withoutSlashes (path : Text) : Text := (path.reverse.dropWhile (· == '/')).reverse

/-- The address that a path is redirected to. -/
def redirect? (a : Address) : Option Text :=
  if a.path.getLast? = some '/' then
    let path := withoutSlashes a.path
    (Resource.ofPath? path).map fun _ =>
      percentEncode ("http://".toList ++ a.host ++ placePath path ++
        (match a.query? with
          | none | some [] => []
          | some query => '?' :: query))
  else none

/-- What a request asks for, or the response when it asks for nothing that there is. -/
def route (method : Text) (a : Address) : Except Response Endpoint :=
  match Resource.ofPath? a.path with
  | some resource =>
    match resource.endpoints.lookup method with
    | some endpoint => .ok endpoint
    | none =>
      -- Only the method that was declared first is named as allowed.
      .error { Response.detail 405 "Method Not Allowed" with
        allow? := resource.endpoints.head?.map Prod.fst }
  | none =>
    match redirect? a with
    | some address => .error ⟨307, .nothing, none, some address⟩
    | none => .error (.detail 404 "Not Found")

end SandboxPreview.Http
