/-
# Sessions

A session belongs to a client: it owns the projects that the client loaded and keeps the previews
that were built for them. A session that is not used for the time to live expires; the shared
default session never does, and comes into being when it is first used. An expired session is
dropped when it is asked for or when the manager is purged, whichever comes first.

## Main definitions

* `Manager.use`: the session of an id, with its deadline pushed back;
* `Manager.preview`: the preview of a project, built once for each session;
* `Manager.purge`: expired sessions are dropped.
-/
import SandboxPreview.Session.Metadata
import SandboxPreview.Store

namespace SandboxPreview.Session

/-- How many ids of each kind have been given out, and what makes an id from its number. Unless
said otherwise, a project id has eight hexadecimal digits and a session id has 32. -/
structure Issued where
  projects : Nat := 0
  sessions : Nat := 0
  projectId : Nat → Text := Text.padded 16 8
  sessionId : Nat → Text := Text.padded 16 32

/-- A new project id. -/
def Issued.project (n : Issued) : Text × Issued :=
  (n.projectId (n.projects + 1), { n with projects := n.projects + 1 })

/-- A new session id. -/
def Issued.session (n : Issued) : Text × Issued :=
  (n.sessionId (n.sessions + 1), { n with sessions := n.sessions + 1 })

/-- The id of the shared session. -/
def defaultId : Text := "__default__"

/-- The state of a client's session. Without a deadline it does not expire. -/
structure State where
  store : ProjectStore := {}
  deadline : Option Instant
  metadata : Metadata := []
  previews : Keyed Preview := []
  createdAt : Instant
  lastAccessedAt : Instant

/-- The session has expired: its deadline has been reached. -/
def State.expired (s : State) (now : Instant) : Bool :=
  match s.deadline with
  | some deadline => decide (deadline ≤ now)
  | none => false

/-- What is told about a session. -/
structure Info where
  id : Text
  createdAt : Instant
  lastAccessedAt : Instant
  projectCount : Nat
  previewCount : Nat
  metadata : Metadata

/-- What is told about a session. Previews of projects that were removed do not count. -/
def State.info (s : State) (id : Text) : Info :=
  { id
    createdAt := s.createdAt
    lastAccessedAt := s.lastAccessedAt
    projectCount := s.store.projects.length
    previewCount := s.previews.countP fun entry => s.store.contains entry.1
    metadata := s.metadata }

/-- Why a session is not there. -/
inductive SessionError where
  | notFound (id : Text)
  | expired (id : Text)
  deriving DecidableEq

/-- The message of an error. -/
def SessionError.message : SessionError → Text
  | .notFound id => "Session '".toList ++ id ++ "' not found".toList
  | .expired id => "Session '".toList ++ id ++ "' has expired".toList

/-- Why an operation on a session's projects fails. -/
inductive Fault where
  | session (e : SessionError)
  | store (e : StoreError)

/-- The sessions in the order of their creation. -/
structure Manager where
  timeToLive : Int := 1800
  pipeline : Pipeline := {}
  sessions : Keyed State := []
  issued : Issued := {}
  /-- Expired sessions are purged from time to time. -/
  cleaning : Bool := false

namespace Manager

/-- The session of an id, used now: its deadline is pushed back. The default session is made
when it is missing; an expired session is dropped. -/
def use (m : Manager) (now : Instant) (id : Text) : Manager × Except SessionError State :=
  match m.sessions.get? id with
  | none =>
    if id = defaultId then
      let session : State := { deadline := none, createdAt := now, lastAccessedAt := now }
      ({ m with sessions := m.sessions.put id session }, .ok session)
    else (m, .error (.notFound id))
  | some session =>
    if session.expired now then
      ({ m with sessions := m.sessions.erase id }, .error (.expired id))
    else
      -- The default session keeps having none.
      let deadline := if id = defaultId then session.deadline else some (now + m.timeToLive)
      let session := { session with deadline, lastAccessedAt := now }
      ({ m with sessions := m.sessions.put id session }, .ok session)

/-- A new session id is taken. -/
def takeId (m : Manager) : Text × Manager :=
  let (id, issued) := m.issued.session
  (id, { m with issued })

/-- A session is made. -/
def create (m : Manager) (now : Instant) (metadata : Metadata) : Info × Manager :=
  let (id, m) := m.takeId
  let session : State :=
    { deadline := some (now + m.timeToLive), metadata, createdAt := now, lastAccessedAt := now }
  (session.info id, { m with sessions := m.sessions.put id session })

/-- What is told about the session of an id, which is used by that. -/
def info (m : Manager) (now : Instant) (id : Text) : Manager × Except SessionError Info :=
  let (m, found) := m.use now id
  (m, found.map fun session => session.info id)

/-- A session is closed with all its projects, whether or not it has expired. -/
def close (m : Manager) (id : Text) : Except SessionError Manager :=
  if m.sessions.has id then .ok { m with sessions := m.sessions.erase id }
  else .error (.notFound id)

/-- The sessions that have not expired, the default one aside. -/
def list (m : Manager) (now : Instant) : List Info :=
  (m.sessions.filter fun (id, session) => id ≠ defaultId && !session.expired now).map
    fun (id, session) => session.info id

/-- The number of sessions that have not expired. -/
def size (m : Manager) (now : Instant) : Nat :=
  m.sessions.countP fun (_, session) => !session.expired now

/-- Expired sessions are dropped, and counted. -/
def purge (m : Manager) (now : Instant) : Nat × Manager :=
  (m.sessions.countP fun (_, session) => session.expired now,
    { m with sessions := m.sessions.filter fun (_, session) => !session.expired now })

/-- One purge after each of a number of pauses; gives the instant of the last one. -/
def sweep (m : Manager) (now : Instant) (pause : Int) : (times : Nat) → Instant × Manager
  | 0 => (now, m)
  | times + 1 => sweep (m.purge (now + pause)).2 (now + pause) pause times

/-- One operation on the projects of a session, which is not used by that. -/
def callStore (m : Manager) (now : Instant) (id : Text) (session : State)
    (call : ProjectStore.Call) : Manager × Except StoreError ProjectStore.Answer :=
  let (fresh, later) := m.issued.project
  let (store, answer) := session.store.call m.pipeline fresh now call
  ({ m with
      sessions := m.sessions.put id { session with store }
      issued := if call.loads then later else m.issued }, answer)

/-- One operation on the projects of a session, which is used by that. -/
def onStore (m : Manager) (now : Instant) (id : Text) (call : ProjectStore.Call) :
    Manager × Except Fault ProjectStore.Answer :=
  match m.use now id with
  | (m, .error e) => (m, .error (.session e))
  | (m, .ok session) =>
    let (m, answer) := m.callStore now id session call
    (m, answer.mapError .store)

/-- The session that an optional id stands for: none and the empty id stand for the default. -/
def previewId (id? : Option Text) : Text :=
  match id? with
  | none | some [] => defaultId
  | some id => id

/-- The preview of a project, and whether it had been built before. A preview is kept in its
session until its project is removed; one whose project was removed is dropped. -/
def preview (m : Manager) (now : Instant) (projectId : Text) (id? : Option Text) :
    Manager × Except Fault (Preview × Bool) :=
  let id := previewId id?
  match m.use now id with
  | (m, .error e) => (m, .error (.session e))
  | (m, .ok session) =>
    let keep (previews : Keyed Preview) : Manager :=
      { m with sessions := m.sessions.put id { session with previews } }
    match session.previews.get? projectId with
    | some kept =>
      if session.store.contains projectId then (m, .ok (kept, true))
      else
        -- Removing a project leaves its preview behind; here is where that is noticed.
        (keep (session.previews.erase projectId), .error (.store (.unknownProject projectId)))
    | none =>
      match session.store.assemble m.pipeline projectId with
      | .error e => (m, .error (.store e))
      | .ok built => (keep (session.previews.put projectId built), .ok (built, false))

end Manager

end SandboxPreview.Session
