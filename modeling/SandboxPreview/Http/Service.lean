/-
# The page service

The service that hosts use: previews of replies, and sessions with their projects, previews and
console logs. A request passes the body limit, then it is routed, then its body is checked, and
then it is handled.
-/
import SandboxPreview.Http.BodyLimit
import SandboxPreview.Http.Routing
import SandboxPreview.Http.Schema
import SandboxPreview.Launch

namespace SandboxPreview.Http

open Session

/-- The version that the service reports. -/
def version : Text := "0.4.0"

/-- The service: its limits, whether sessions may be listed, and the sessions. -/
structure Service where
  limits : BodyLimit := {}
  listing : Bool := true
  sessions : Manager := {}

/-- The service under the given settings. -/
def Service.ofSettings (s : Settings) : Service :=
  { limits := ⟨s.maxTextBodyBytes, s.maxBodyBytes⟩
    listing := !s.disableSessionList
    sessions := Launch.sessions s }

/-! ### Writing results -/

/-- What is told about a session. -/
def infoJson (i : Info) : Json :=
  .record [("session_id", .text i.id),
    ("created_at", .text (Clock.withLetter i.createdAt)),
    ("last_accessed_at", .text (Clock.withLetter i.lastAccessedAt)),
    ("project_count", .ofNat i.projectCount), ("preview_count", .ofNat i.previewCount),
    ("metadata", i.metadata.toJson)]

/-- A preview with what its frame has to allow. -/
def previewJson (p : Preview) : Json :=
  .record [("document", .text p.document), ("kind", .text p.kind.name),
    ("files", Json.texts (p.artifacts.map Artifact.name)), ("explanation", .text p.explanation),
    ("warnings", Json.texts p.warnings), ("sandbox", .text Page.sandboxFlags)]

/-- What loading a project reports. -/
def loadedJson (l : Loaded) : Json :=
  .record [("project_id", .text l.projectId), ("kind", .text l.kind.name),
    ("files", Json.texts l.files), ("explanation", .text l.explanation)]

/-- A line in the list of projects. -/
def summaryJson (s : Summary) : Json :=
  .record [("project_id", .text s.projectId), ("kind", .text s.kind.name),
    ("files", .ofNat s.files), ("logs", .ofNat s.logs)]

/-- A console event. -/
def eventJson (e : Console.Event) : Json :=
  .record [("type", .text e.level.name), ("message", .text e.text),
    ("timestamp", .text e.timestamp)]

/-- A list of artifacts. -/
def artifactsJson (artifacts : List Artifact) : Json := .array (artifacts.map Artifact.toJson)

/-- The simulators there are. -/
def simulatorsJson : Json :=
  .record [("simulators", .array (Simulator.all.map fun s =>
    .record [("name", .text s.name), ("extensions", Json.texts s.extensions)]))]

/-! ### Handling requests -/

/-- The response for a session that is not there, expired or not. -/
def noSession (id : Text) : Response :=
  .detail 404 ("Session '".toList ++ id ++ "' not found".toList)

/-- The response for a project that is not there. -/
def noProject (id : Text) : Response :=
  .detail 404 ("Project '".toList ++ id ++ "' not found".toList)

/-- The response for a fault of an operation in a session. -/
def faultResponse (sessionId : Text) : Fault → Response
  | .session _ => noSession sessionId
  | .store (.unknownProject id) => noProject id
  | .store (.refused r) => .detail 422 r.message

namespace Service

/-- The service with other sessions. -/
def withSessions (s : Service) (m : Manager) : Service := { s with sessions := m }

/-- One operation on the projects of a session, with the response to its answer. -/
def onStore (s : Service) (now : Instant) (sessionId : Text) (call : ProjectStore.Call)
    (respond : ProjectStore.Answer → Response) : Service × Response :=
  match s.sessions.onStore now sessionId call with
  | (m, .ok answer) => (s.withSessions m, respond answer)
  | (m, .error fault) => (s.withSessions m, faultResponse sessionId fault)

/-- A body that passed its check is handled; one that did not is answered with its problems. -/
def checked {α : Type} (s : Service) (body : Checked α) (handle : α → Service × Response) :
    Service × Response :=
  match body with
  | .ok a => handle a
  | .error issues => (s, issuesResponse issues)

/-- The artifacts and the explanation of a project. -/
def showProject (s : Service) (now : Instant) (sessionId id : Text) : Service × Response :=
  match s.sessions.use now sessionId with
  | (m, .error _) => (s.withSessions m, noSession sessionId)
  | (m, .ok session) =>
    (s.withSessions m,
      match session.store.find id with
      | .error _ => noProject id
      | .ok project =>
        .ok (.record [("project_id", .text id),
          ("kind", .text (m.pipeline.classify project.artifacts).name),
          ("artifacts", artifactsJson project.artifacts),
          ("explanation", .text project.explanation)]))

/-- The document of a project. -/
def showPreview (s : Service) (now : Instant) (sessionId id : Text) : Service × Response :=
  match s.sessions.preview now id (some sessionId) with
  | (m, .ok (preview, _)) => (s.withSessions m, ⟨200, .html preview.document, none, none⟩)
  | (m, .error fault) => (s.withSessions m, faultResponse sessionId fault)

/-- The preview of a source that is not kept. -/
def assemble (s : Service) : PreviewSource → Preview
  | .reply reply => s.sessions.pipeline.run reply
  | .artifacts artifacts => s.sessions.pipeline.assemble artifacts

/-- What an answer shows. -/
def respond : ProjectStore.Answer → Response
  | .loaded l => .created (loadedJson l)
  | .projects summaries => .ok (.array (summaries.map summaryJson))
  | .nothing => .removed
  | .event e => .created (eventJson e)
  | .events es => .ok (.record [("events", .array (es.map eventJson))])
  | .count n => .ok (.record [("cleared", .ofNat n)])
  | .artifacts artifacts => .ok (artifactsJson artifacts)
  | .text text => .ok (.text text)
  | .kind kind => .ok (.text kind.name)
  | .preview preview => .ok (previewJson preview)
  | .flag b => .ok (.bool b)

/-- The value of a checked console message. -/
def messageJson (m : Console.Message) : Json :=
  .record [("source", .text m.source), ("type", .text m.level.name), ("message", .text m.text)]

/-- What an endpoint does, given the value of the request's body. -/
def handleEndpoint (s : Service) (now : Instant) (body : Option Json) :
    Endpoint → Service × Response
  | .extract => s.checked (replyBody body) fun reply =>
    (s, .ok (.record [("artifacts", artifactsJson (Reply.extract reply)),
      ("explanation", .text (Reply.explanation reply))]))
  | .assemble => s.checked (sourceBody body) fun source =>
    (s, .ok (previewJson (s.assemble source)))
  | .createSession => s.checked (metadataBody body) fun metadata =>
    let (info, m) := s.sessions.create now (Metadata.ofTexts metadata)
    (s.withSessions m, .created (infoJson info))
  | .listSessions =>
    if s.listing then
      (s, .ok (.record [("sessions", .array ((s.sessions.list now).map infoJson))]))
    else (s, .detail 403 "Session listing is disabled")
  | .showSession id =>
    match s.sessions.info now id with
    | (m, .ok info) => (s.withSessions m, .ok (infoJson info))
    | (m, .error _) => (s.withSessions m, noSession id)
  | .closeSession id =>
    match s.sessions.close id with
    | .ok m => (s.withSessions m, .removed)
    | .error _ => (s, noSession id)
  | .loadProject sid => s.checked (replyBody body) fun reply =>
    s.onStore now sid (.loadReply reply) respond
  | .listProjects sid => s.onStore now sid .projects respond
  | .showProject sid pid => s.showProject now sid pid
  | .removeProject sid pid => s.onStore now sid (.remove pid) respond
  | .preview sid pid => s.showPreview now sid pid
  | .recordLog sid pid => s.checked (messageBody body) fun message =>
    s.onStore now sid (.record pid (messageJson message)) respond
  | .showLogs sid pid => s.onStore now sid (.events pid) respond
  | .clearLogs sid pid => s.onStore now sid (.clearLog pid) respond
  | .listSimulators => (s, .ok simulatorsJson)
  | .health => (s, .ok (.record [("status", .ofString "ok"), ("version", .text version)]))

/-- The endpoint takes a body. -/
def takesBody : Endpoint → Bool
  | .extract | .assemble | .createSession | .loadProject _ | .recordLog _ _ => true
  | _ => false

/-- What a request that was admitted with its body is answered with. -/
def handleAdmitted (s : Service) (now : Instant) (r : Request) (body : ByteArray) :
    Service × Response :=
  match route r.method r.address with
  | .error response => (s, response)
  | .ok endpoint =>
    if takesBody endpoint then
      match readBody r body with
      | .error response => (s, response)
      | .ok value => s.handleEndpoint now value endpoint
    else s.handleEndpoint now none endpoint

/-- A response can be sent: JSON writes every number in it. -/
def writable (response : Response) : Bool :=
  match response.body with
  | .json value => !value.isNonstandard
  | _ => true

/-- The request asks for something that is given its body, and a surrogate stands alone there. -/
def givesLoneSurrogate (r : Request) (body : ByteArray) : Bool :=
  match route r.method r.address with
  | .ok endpoint => takesBody endpoint && holdsLoneSurrogate r body
  | .error _ => false

/-- What a request is answered with when its body has been let through. What a surrogate that stands
alone would leave behind in the sessions is not followed. -/
def serve (s : Service) (now : Instant) (r : Request) (body : ByteArray) :
    Service × Except Crash Response :=
  if givesLoneSurrogate r body then (s, .error .loneSurrogate)
  else
    let (s, response) := s.handleAdmitted now r body
    (s, if writable response then .ok response else .error .unwritableNumber)

/-- What a request is answered with at an instant. -/
def handle (s : Service) (now : Instant) (r : Request) : Service × Except Crash Response :=
  let limit := s.limits.of r.address.placedPath
  match admission limit r with
  | .error crash => (s, .error crash)
  | .ok none => (s, .ok (.detail 413 (tooLarge limit)))
  | .ok (some body) => s.serve now r body

end Service

end SandboxPreview.Http
