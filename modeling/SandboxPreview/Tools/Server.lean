/-
# The tool server

The tools that a model client calls. Each takes texts and gives a text, or fails. A call without
a session works on the default session; one that names a session uses that session.
-/
import SandboxPreview.Json.Parser
import SandboxPreview.Session.Manager
import SandboxPreview.Text.Quoted

namespace SandboxPreview.Tools

open Session

/-- A call of a tool with its arguments. -/
inductive Call where
  | extractArtifacts (reply : Text)
  | classifyProject (reply : Text)
  | assemblePreview (reply : Text)
  | listSimulators
  | createSession (metadata? : Option Text)
  | closeSession (sessionId : Text)
  | loadProject (reply : Text) (sessionId? : Option Text)
  | getPreview (projectId : Text) (sessionId? : Option Text)
  | recordLog (projectId message level : Text) (source? sessionId? : Option Text)
  | getLogs (projectId : Text) (sessionId? : Option Text)

/-- The kinds of faults that tools tell apart. -/
inductive FaultKind where
  /-- A session is not there. -/
  | absentSession
  /-- A session or a project is not there. -/
  | absent
  /-- A message is refused. -/
  | refused
  deriving DecidableEq

/-- The fault is of the kind. -/
def FaultKind.covers : FaultKind → Fault → Bool
  | .absentSession, .session _ => true
  | .absent, .session _ => true
  | .absent, .store (.unknownProject _) => true
  | .refused, .store (.refused _) => true
  | _, _ => false

/-- Why a call fails. -/
inductive Failure where
  /-- The server has no sessions yet. -/
  | notInitialised
  /-- A session or a project is not there; the message is shown quoted. -/
  | absent (message : Text)
  /-- A console message is refused. -/
  | refused (r : Console.Refusal)
  /-- The metadata is no JSON text. -/
  | metadataSyntax (e : Json.ParseError)
  /-- The metadata holds an integer that is too long. -/
  | metadataNumber (digits : Nat)
  /-- The metadata opens a container inside too many others. -/
  | metadataDepth (container : Json.Container)
  /-- The metadata is JSON but no mapping. -/
  | metadataShape (e : MappingError)
  /-- A fault of the sessions that the tool does not catch. -/
  | escaped (fault : Fault)

/-- What a tool reports for a fault of the sessions that it catches. -/
def Failure.ofFault : Fault → Failure
  | .session e => .absent e.message
  | .store (.unknownProject id) => .absent (StoreError.unknownProject id).message
  | .store (.refused r) => .refused r

/-- The message of a failure; of a refusal, its first line. -/
def Failure.message : Failure → Text
  | .notInitialised => "Session manager not initialised"
  | .absent message => Text.quoted message
  | .refused r => r.message
  | .metadataSyntax e => "Invalid metadata JSON: ".toList ++ e.message
  | .metadataNumber digits => Json.tooManyDigits digits
  | .metadataDepth container => Json.tooDeep container
  | .metadataShape e => e.message
  | .escaped (.session e) => Text.quoted e.message
  | .escaped (.store (.unknownProject id)) => Text.quoted (StoreError.unknownProject id).message
  | .escaped (.store (.refused r)) => r.message

/-- The failure is reported by the tool itself, and is no fault that escapes from it. -/
def Failure.isReported : Failure → Bool
  | .metadataNumber _ => false
  | .metadataDepth _ => false
  | .metadataShape _ => false
  | .escaped _ => false
  | _ => true

/-- The tool server: its pipeline, and its sessions once it is initialised. -/
structure Server where
  pipeline : Pipeline := {}
  sessions? : Option Manager := none

/-- The server with the given sessions and their pipeline. -/
def Server.ofManager (m : Manager) : Server := ⟨m.pipeline, some m⟩

namespace Server

/-- The failure that a fault of the sessions shows as in a tool that catches the given kinds. -/
def failure (caught : List FaultKind) (fault : Fault) : Failure :=
  if caught.any fun kind => kind.covers fault then .ofFault fault else .escaped fault

/-- The sessions are asked; without sessions the call fails. -/
def withSessions (s : Server) (ask : Manager → Manager × Except Failure Text) :
    Server × Except Failure Text :=
  match s.sessions? with
  | none => (s, .error .notInitialised)
  | some m =>
    let (m, answer) := ask m
    ({ s with sessions? := some m }, answer)

/-- The failure that a fault of an operation on the projects of a session shows as. The session is
looked for first: that it is not there is caught when it was named. What the operation itself meets
is caught as the tool says. -/
def storeFailure (sessionId? : Option Text) (caught : List FaultKind) : Fault → Failure
  | .session e => failure (sessionId?.elim [] fun _ => [.absentSession]) (.session e)
  | .store e => failure caught (.store e)

/-- One operation on the projects of a session, the default one when none is named. -/
def onStore (s : Server) (now : Instant) (sessionId? : Option Text) (call : ProjectStore.Call)
    (caught : List FaultKind) (report : ProjectStore.Answer → Text) :
    Server × Except Failure Text :=
  s.withSessions fun m =>
    let (m, answer) := m.onStore now (sessionId?.getD defaultId) call
    (m, (answer.mapError (storeFailure sessionId? caught)).map report)

/-- The artifacts of a reply as an indented JSON list. -/
def artifactList (reply : Text) : Text :=
  Json.indented (.array ((Reply.extract reply).map Artifact.toJson))

/-- The simulators and the extensions they claim, one on a line. -/
def simulatorList : Text :=
  Text.join "\n" (Simulator.all.map fun s =>
    s.name ++ ": ".toList ++
      (match s.extensions with
        | [] => "(fallback)"
        | extensions => Text.join ", " extensions))

/-- The JSON value of metadata that may be missing or empty. -/
def readMetadata (metadata? : Option Text) : Except Failure Json :=
  match metadata? with
  | none | some [] => .ok (.object [])
  | some text =>
    match Json.parse text with
    | .ok value => .ok value
    | .error e =>
      match e.cause with
      | .integerTooLong digits => .error (.metadataNumber digits)
      | .nestedTooDeep container => .error (.metadataDepth container)
      | _ => .error (.metadataSyntax e)

/-- A session is made. Its id is taken before the metadata is seen to be a mapping. -/
def createSession (now : Instant) (metadata? : Option Text) (m : Manager) :
    Manager × Except Failure Text :=
  match readMetadata metadata? with
  | .error e => (m, .error e)
  | .ok value =>
    match Metadata.ofJson value with
    | .error e => (m.takeId.2, .error (.metadataShape e))
    | .ok metadata =>
      let (info, m) := m.create now metadata
      (m, .ok ("session_id: ".toList ++ info.id ++ "\ncreated_at: ".toList ++
        Clock.withOffset info.createdAt))

/-- A session is closed. -/
def closeSession (sessionId : Text) (m : Manager) : Manager × Except Failure Text :=
  match m.close sessionId with
  | .ok m => (m, .ok ("Session '".toList ++ sessionId ++ "' closed.".toList))
  | .error e => (m, .error (failure [.absentSession] (.session e)))

/-- The preview of a project. -/
def getPreview (now : Instant) (projectId : Text) (sessionId? : Option Text) (m : Manager) :
    Manager × Except Failure Text :=
  let (m, found) := m.preview now projectId sessionId?
  (m, (found.mapError (failure [.absent])).map fun (preview, _) => preview.document)

/-- The report of a loaded project. -/
def loadReport : ProjectStore.Answer → Text
  | .loaded l =>
    "Project loaded.  project_id: ".toList ++ l.projectId ++ "\n  kind:  ".toList ++
      l.kind.name ++ "\n  files: ".toList ++
      (match Text.join ", " l.files with
        | [] => "(none)"
        | files => files)
  | _ => []

/-- The report of a recorded message. -/
def recordReport : ProjectStore.Answer → Text
  | .event e => "Recorded ".toList ++ e.level.name ++ " at ".toList ++ e.timestamp ++ ['.']
  | _ => []

/-- A console event on a line. -/
def eventLine (e : Console.Event) : Text :=
  e.timestamp ++ " [".toList ++ e.level.name ++ "] ".toList ++ e.text

/-- The report of the console events of a project. -/
def logReport : ProjectStore.Answer → Text
  | .events [] => "No console output."
  | .events events => Text.join "\n" (events.map eventLine)
  | _ => []

/-- The value of a console message that a tool relays. -/
def payload (source level message : Text) : Json :=
  .record [("source", .text source), ("type", .text level), ("message", .text message)]

/-- One call of a tool at an instant. -/
def call (s : Server) (now : Instant) : Call → Server × Except Failure Text
  | .extractArtifacts reply => (s, .ok (artifactList reply))
  | .classifyProject reply => (s, .ok (s.pipeline.classify (Reply.extract reply)).name)
  | .assemblePreview reply => (s, .ok (s.pipeline.run reply).document)
  | .listSimulators => (s, .ok simulatorList)
  | .createSession metadata? => s.withSessions (createSession now metadata?)
  | .closeSession sessionId => s.withSessions (closeSession sessionId)
  -- Nothing is caught here, since loading meets no fault.
  | .loadProject reply sessionId? => s.onStore now sessionId? (.loadReply reply) [] loadReport
  | .getPreview projectId sessionId? => s.withSessions (getPreview now projectId sessionId?)
  | .recordLog projectId message level source? sessionId? =>
    s.onStore now sessionId?
      (.record projectId (payload (source?.getD s.pipeline.options.sourceTag) level message))
      [.absent, .refused] recordReport
  | .getLogs projectId sessionId? =>
    s.onStore now sessionId? (.events projectId) [.absent] logReport

end Server

end SandboxPreview.Tools
