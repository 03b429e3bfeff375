/-
# How tools find sessions

Every tool that works in a session takes an optional session id: without one it works in the shared
session, and with one in the session of that id. A tool that does not find the session is refused,
and so is one that asks it for a project that it does not have; no other session is looked at. The
preview alone differs: it takes the empty id, which no session has, for the shared session.

## Main definitions

* `Server.CanUse`, `Server.Offers`: what there is to be found, of sessions and of projects;
* `Server.Serves`: runs in which nobody closes the session;
* `Server.Resolves`: what the tools find with a session id.

## Main results

* `Server.Serves.exists_run`: such runs keep the projects of the session;
* `resolves_of_running`: what the tools find, after any calls.
-/
import SandboxPreview.Proofs.Agreement
import SandboxPreview.Proofs.Http.Answers

namespace SandboxPreview.Tools

open Session
open ProjectStore (Tagged tagged_call tagged_empty call_of_not_contains exists_answer find_eq_ok_iff
  call_record_of_ok call_record_of_error)

variable {s s' start : Server} {m : Manager} {now later : Instant} {id projectId reply : Text}
  {sessionId? : Option Text} {settings : Settings} {h : Host} {past : List Event} {st : State}

/-! ## What there is to be found -/

namespace Server

/-- The session can be used now. -/
def CanUse (s : Server) (now : Instant) (id : Text) : Prop :=
  ∃ m st, s.sessions? = some m ∧ (m.use now id).2 = .ok st

/-- The session can be used now, and has the project. -/
def Offers (s : Server) (now : Instant) (id projectId : Text) : Prop :=
  ∃ m, s.sessions? = some m ∧ m.Offers now id projectId

/-- The server has no sessions yet, or it goes on from when it was started under some settings. -/
def Running (s : Server) : Prop :=
  s.sessions? = none ∨ ∃ settings, (ofManager (Launch.sessions settings)).Reaches s

/-- Runs of calls that do not close the session. Expired sessions are purged at any time. -/
inductive Serves (id : Text) (start : Server) : Server → Prop
  | start : Serves id start start
  | call {s : Server} (served : Serves id start s) (now : Instant) (call : Call)
      (other : call ≠ .closeSession id) : Serves id start (s.call now call).1
  | purge {s : Server} (served : Serves id start s) (now : Instant) :
      Serves id start { s with sessions? := s.sessions?.map fun m => (m.purge now).2 }

end Server

/-- The call gives its text. -/
def Succeeds (answer : Except Failure Text) : Prop := ∃ text, answer = .ok text

/-- The call comes to the log of a project, which takes the message or refuses it. -/
def Arrives (answer : Except Failure Text) : Prop :=
  Succeeds answer ∨ ∃ refusal, answer = .error (.refused refusal)

/-- The tools that work on a project find it. -/
structure Server.Finds (s : Server) (now : Instant) (sessionId? : Option Text) (projectId : Text) :
    Prop where
  preview : Succeeds (s.call now (.getPreview projectId sessionId?)).2
  logs : Succeeds (s.call now (.getLogs projectId sessionId?)).2
  record : ∀ message (level : Console.Level),
    Succeeds (s.call now (.recordLog projectId message level.name none sessionId?)).2

/-- The session id that a call names. Closing a session is no work in it. -/
def Call.session? : Call → Option (Option Text)
  | .loadProject _ sessionId? | .getPreview _ sessionId? | .recordLog _ _ _ _ sessionId?
  | .getLogs _ sessionId? => some sessionId?
  | .extractArtifacts _ | .classifyProject _ | .assemblePreview _ | .listSimulators
  | .createSession _ | .closeSession _ => none

/-- The tool itself reports that the call fails, and no session loses or changes a project or a log
by it. -/
def Server.Refuses (s : Server) (now : Instant) (call : Call) : Prop :=
  (∃ failure, (s.call now call).2 = .error failure ∧ failure.isReported = true) ∧
    ∀ m, s.sessions? = some m →
      ∃ m', (s.call now call).1.sessions? = some m' ∧ m.KeepsStores now m'

/-- What the tools find with a session id. -/
structure Server.Resolves (s : Server) (now : Instant) (sessionId? : Option Text) : Prop where
  load : ∀ reply, Succeeds (s.call now (.loadProject reply sessionId?)).2 ↔
    s.CanUse now (sessionId?.getD defaultId)
  logs : ∀ projectId, Succeeds (s.call now (.getLogs projectId sessionId?)).2 ↔
    s.Offers now (sessionId?.getD defaultId) projectId
  record : ∀ projectId message level source?,
    Arrives (s.call now (.recordLog projectId message level source? sessionId?)).2 ↔
      s.Offers now (sessionId?.getD defaultId) projectId
  preview : ∀ projectId, Succeeds (s.call now (.getPreview projectId sessionId?)).2 ↔
    s.Offers now (Manager.previewId sessionId?) projectId
  /-- Previews and logs are of the same projects, unless the id is empty and the shared session has
  projects. -/
  alike : (∀ projectId, Succeeds (s.call now (.getPreview projectId sessionId?)).2 ↔
      Succeeds (s.call now (.getLogs projectId sessionId?)).2) ↔
    sessionId? ≠ some [] ∨ ∀ projectId, ¬ s.Offers now defaultId projectId
  /-- What was loaded is found with the same id for as long as the session can be used, which is
  until its deadline at least if nobody closes it. -/
  loaded : ∀ reply text, (s.call now (.loadProject reply sessionId?)).2 = .ok text →
    ∃ l, text = loadReport (.loaded l) ∧
      (∀ m, s.sessions? = some m → ∀ later,
        sessionId?.getD defaultId = defaultId ∨ later < now + m.timeToLive →
          (s.call now (.loadProject reply sessionId?)).1.CanUse later
            (sessionId?.getD defaultId)) ∧
      ∀ s', (s.call now (.loadProject reply sessionId?)).1.Serves (sessionId?.getD defaultId) s' →
        ∀ later, s'.CanUse later (sessionId?.getD defaultId) → s'.Finds later sessionId? l.projectId
  /-- No session has the empty id. -/
  empty : ¬ s.CanUse now []
  /-- Whatever works in a session that cannot be used is refused, but for the preview with the empty
  id. -/
  refuses : ¬ s.CanUse now (sessionId?.getD defaultId) → ∀ call,
    call.session? = some sessionId? → (∀ projectId, call ≠ .getPreview projectId (some [])) →
      s.Refuses now call
  /-- Closing a session that is not there is refused. -/
  refusesClose : ∀ id, (∀ m, s.sessions? = some m → id ∉ m.sessions.keys) →
    s.Refuses now (.closeSession id)

/-! ## One call -/

theorem canUse_iff (there : s.sessions? = some m) :
    s.CanUse now id ↔ ∃ st, m.used? now id = some st := by
  simp [Server.CanUse, there, use_eq_ok_iff]

theorem offers_iff (there : s.sessions? = some m) :
    s.Offers now id projectId ↔
      ∃ st, m.used? now id = some st ∧ st.store.contains projectId = true := by
  simp [Server.Offers, Manager.Offers, there, use_eq_ok_iff]

theorem Server.Offers.canUse (offers : s.Offers now id projectId) : s.CanUse now id := by
  obtain ⟨m, there, st, used, -⟩ := offers
  exact ⟨m, st, there, used⟩

/-- A call on the store of a session that is found. -/
theorem onStore_of_found (there : s.sessions? = some m) (call : ProjectStore.Call)
    (caught : List FaultKind) (report : ProjectStore.Answer → Text)
    (found : m.used? now (sessionId?.getD defaultId) = some st) :
    (s.onStore now sessionId? call caught report).2 =
      (((st.store.call m.pipeline m.issued.project.1 now call).2.mapError
        (Server.failure caught ∘ Fault.store)).map report) := by
  rw [Server.onStore, withSessions_of_some there]
  simp only [onStore_of_used? call found]
  cases (st.store.call m.pipeline m.issued.project.1 now call).2 <;> rfl

/-- A call on the store of a session that is not found. -/
theorem onStore_of_lost (there : s.sessions? = some m)
    (missing : m.used? now (sessionId?.getD defaultId) = none) :
    ∃ e : SessionError, ∀ call caught report, s.onStore now sessionId? call caught report =
      ({ s with
          sessions? := some { m with sessions := m.sessions.erase (sessionId?.getD defaultId) } },
        .error (Server.storeFailure sessionId? caught (.session e))) := by
  obtain ⟨e, used⟩ := use_of_not_used? missing
  refine ⟨e, fun call caught report => ?_⟩
  rw [Server.onStore, withSessions_of_some there]
  simp only [Manager.onStore, used]
  rfl

/-- The preview of a project in a session that is found. -/
theorem getPreview_of_found (there : s.sessions? = some m)
    (found : m.used? now (Manager.previewId sessionId?) = some st) :
    (s.call now (.getPreview projectId sessionId?)).2 =
      ((st.view m.pipeline projectId).mapError (Server.failure [.absent] ∘ Fault.store)).map
        fun result => result.1.document := by
  rw [Server.call, withSessions_of_some there, Server.getPreview]
  simp only [preview_of_used? projectId found]
  cases st.view m.pipeline projectId <;> rfl

/-- The preview of a project in a session that is not found. -/
theorem getPreview_of_lost (there : s.sessions? = some m) (projectId : Text)
    (missing : m.used? now (Manager.previewId sessionId?) = none) :
    ∃ e : SessionError, s.call now (.getPreview projectId sessionId?) =
      ({ s with
          sessions? :=
            some { m with sessions := m.sessions.erase (Manager.previewId sessionId?) } },
        .error (.absent e.message)) := by
  obtain ⟨e, shown⟩ := preview_of_not_used? projectId missing
  refine ⟨e, ?_⟩
  rw [Server.call, withSessions_of_some there, Server.getPreview]
  simp only [shown]
  rfl

theorem not_succeeds_error (f : Failure) : ¬ Succeeds (.error f) := nofun

theorem not_arrives_absent (message : Text) : ¬ Arrives (.error (.absent message)) := by
  simp [Arrives, Succeeds]

/-- A call whose session is not there does not come to a log, whether or not that is reported. -/
theorem not_arrives_of_session (sessionId? : Option Text) (caught : List FaultKind)
    (e : SessionError) :
    ¬ Arrives (.error (Server.storeFailure sessionId? caught (.session e))) := by
  cases sessionId? with
  | none => simp [Server.storeFailure, Server.failure, Arrives, Succeeds]
  | some id => exact not_arrives_absent e.message

/-- A call that records no message succeeds exactly when the session is found, with the project that
the call needs. -/
theorem succeeds_onStore_iff (there : s.sessions? = some m) {call : ProjectStore.Call}
    (other : ∀ id payload, call ≠ .record id payload) (caught : List FaultKind)
    (report : ProjectStore.Answer → Text) :
    Succeeds (s.onStore now sessionId? call caught report).2 ↔
      ∃ st, m.used? now (sessionId?.getD defaultId) = some st ∧
        ∀ id, call.needs? = some id → st.store.contains id = true := by
  cases found : m.used? now (sessionId?.getD defaultId) with
  | none =>
    obtain ⟨e, lost⟩ := onStore_of_lost there found
    simp [lost, not_succeeds_error]
  | some st =>
    rw [onStore_of_found there call caught report found]
    by_cases present : ∀ id, call.needs? = some id → st.store.contains id = true
    · obtain ⟨answer, answered⟩ :=
        exists_answer m.pipeline m.issued.project.1 now present other
      exact iff_of_true ⟨report answer, by rw [answered]; rfl⟩ ⟨st, rfl, present⟩
    · refine iff_of_false ?_ fun ⟨st', same, needed⟩ => present (Option.some.inj same ▸ needed)
      obtain ⟨id, needed, absent⟩ :
          ∃ id, call.needs? = some id ∧ ¬ st.store.contains id = true := by
        simpa using present
      rw [call_of_not_contains _ _ _ needed absent]
      exact not_succeeds_error _

theorem succeeds_load_iff (there : s.sessions? = some m) (reply : Text) :
    Succeeds (s.call now (.loadProject reply sessionId?)).2 ↔
      s.CanUse now (sessionId?.getD defaultId) := by
  rw [Server.call, succeeds_onStore_iff there (by simp), canUse_iff there]
  simp [ProjectStore.Call.needs?]

theorem succeeds_logs_iff (there : s.sessions? = some m) (projectId : Text) :
    Succeeds (s.call now (.getLogs projectId sessionId?)).2 ↔
      s.Offers now (sessionId?.getD defaultId) projectId := by
  rw [Server.call, succeeds_onStore_iff there (by simp), offers_iff there]
  simp [ProjectStore.Call.needs?]

theorem succeeds_preview_iff (there : s.sessions? = some m) (projectId : Text) :
    Succeeds (s.call now (.getPreview projectId sessionId?)).2 ↔
      s.Offers now (Manager.previewId sessionId?) projectId := by
  rw [offers_iff there]
  cases found : m.used? now (Manager.previewId sessionId?) with
  | none =>
    obtain ⟨e, lost⟩ := getPreview_of_lost there projectId found
    simp [lost, not_succeeds_error]
  | some st =>
    rw [getPreview_of_found there found]
    by_cases present : st.store.contains projectId = true
    · obtain ⟨result, viewed⟩ := exists_view_of_contains m.pipeline present
      exact iff_of_true ⟨result.1.document, by rw [viewed]; rfl⟩ ⟨st, rfl, present⟩
    · refine iff_of_false ?_ fun ⟨st', same, needed⟩ => present (Option.some.inj same ▸ needed)
      rw [view_of_not_contains present]
      exact not_succeeds_error _

theorem arrives_record_iff (there : s.sessions? = some m) (projectId message level : Text)
    (source? : Option Text) :
    Arrives (s.call now (.recordLog projectId message level source? sessionId?)).2 ↔
      s.Offers now (sessionId?.getD defaultId) projectId := by
  rw [Server.call, offers_iff there]
  cases found : m.used? now (sessionId?.getD defaultId) with
  | none =>
    obtain ⟨e, lost⟩ := onStore_of_lost there found
    simp [lost, not_arrives_of_session]
  | some st =>
    rw [onStore_of_found there _ _ _ found]
    by_cases present : st.store.contains projectId = true
    · refine iff_of_true ?_ ⟨st, rfl, present⟩
      obtain ⟨project, here⟩ := Option.isSome_iff_exists.mp present
      have known := find_eq_ok_iff.mpr here
      cases received : project.log.receive now
          (Server.payload (source?.getD s.pipeline.options.sourceTag) level message) with
      | ok result =>
        rw [call_record_of_ok _ _ known received]
        exact Or.inl ⟨_, rfl⟩
      | error refusal =>
        rw [call_record_of_error _ _ known received]
        exact Or.inr ⟨refusal, rfl⟩
    · have absent : ¬ ∃ st', some st = some st' ∧ st'.store.contains projectId = true := by
        rintro ⟨st', same, needed⟩
        exact present (Option.some.inj same ▸ needed)
      refine iff_of_false ?_ absent
      rw [call_of_not_contains _ _ _ rfl present]
      exact not_arrives_absent _

/-- A message of a known level from the preview itself is recorded. -/
theorem succeeds_record (there : s.sessions? = some m) (pipeline : s.pipeline = m.pipeline)
    (tagged : ∀ st, m.sessions.get? (sessionId?.getD defaultId) = some st →
      st.store.Tagged m.pipeline.options.sourceTag)
    (offers : s.Offers now (sessionId?.getD defaultId) projectId) (message : Text)
    (level : Console.Level) :
    Succeeds (s.call now (.recordLog projectId message level.name none sessionId?)).2 := by
  obtain ⟨st, found, present⟩ := (offers_iff there).mp offers
  obtain ⟨project, here⟩ := Option.isSome_iff_exists.mp present
  have own : s.pipeline.options.sourceTag = project.log.sourceTag :=
    pipeline ▸ (holds_of_used? tagged_empty tagged found projectId project here).symm
  have spelled : Console.Message.SpelledBy ⟨s.pipeline.options.sourceTag, level, message⟩
      (Server.payload s.pipeline.options.sourceTag level.name message) := by
    constructor <;> rfl
  rw [Server.call, onStore_of_found there _ _ _ found, Option.getD_none,
    call_record_of_ok _ _ (find_eq_ok_iff.mpr here)
      (Console.receive_of_spelledBy now spelled own)]
  exact ⟨_, rfl⟩

/-! ### Calls that are refused -/

/-- A server without sessions refuses whatever needs them. -/
theorem call_of_none (none : s.sessions? = none) {call : Call}
    (needs : call.session?.isSome = true ∨ ∃ id, call = .closeSession id) :
    s.call now call = (s, .error .notInitialised) := by
  have refused (ask : Manager → Manager × Except Failure Text) :
      s.withSessions ask = (s, .error .notInitialised) := by rw [Server.withSessions, none]
  cases call with
  | extractArtifacts | classifyProject | assemblePreview | listSimulators | createSession =>
    simp [Call.session?] at needs
  | closeSession | getPreview =>
    rw [Server.call]
    exact refused _
  | loadProject | recordLog | getLogs =>
    rw [Server.call, Server.onStore]
    exact refused _

theorem refuses_of_none (none : s.sessions? = none) {call : Call}
    (needs : call.session?.isSome = true ∨ ∃ id, call = .closeSession id) : s.Refuses now call :=
  ⟨⟨.notInitialised, by rw [call_of_none none needs], rfl⟩, fun m there => by simp [none] at there⟩

/-- A call that does not find its session is refused. Only the shared session may go unnamed, and that
can be used. -/
theorem refuses_of_lost (there : s.sessions? = some m) {call : Call}
    (named : call.session? = some sessionId?) (usable : m.used? now defaultId = some st)
    (missing : m.used? now (sessionId?.getD defaultId) = none)
    (other : ∀ projectId, call ≠ .getPreview projectId (some [])) : s.Refuses now call := by
  have refused {asked : Text} {told : Server × Except Failure Text} {message : Text}
      (missing : m.used? now asked = none)
      (same : told = ({ s with
        sessions? := some { m with sessions := m.sessions.erase asked } },
          .error (.absent message))) :
      (∃ failure, told.2 = .error failure ∧ failure.isReported = true) ∧
        ∀ m, s.sessions? = some m → ∃ m', told.1.sessions? = some m' ∧ m.KeepsStores now m' := by
    refine ⟨⟨_, by rw [same], rfl⟩, fun m' here => ?_⟩
    obtain rfl := Option.some.inj (there.symm.trans here)
    exact ⟨_, by rw [same], (spares_of_not_used? missing).keepsStores⟩
  have exists_id : ∃ id, sessionId? = some id := by
    refine Option.ne_none_iff_exists'.mp fun unnamed => ?_
    subst unnamed
    exact absurd (missing.symm.trans usable) nofun
  cases call with
  | extractArtifacts | classifyProject | assemblePreview | listSimulators | createSession
  | closeSession => simp [Call.session?] at named
  | loadProject | recordLog | getLogs =>
    obtain rfl := Option.some.inj named
    obtain ⟨id, rfl⟩ := exists_id
    obtain ⟨e, lost⟩ := onStore_of_lost there missing
    rw [Server.Refuses, Server.call]
    exact refused missing (lost _ _ _)
  | getPreview projectId id? =>
    obtain rfl := Option.some.inj named
    have same : Manager.previewId id? = id?.getD defaultId :=
      previewId_eq_getD fun empty => other projectId (congrArg (Call.getPreview projectId) empty)
    obtain ⟨e, lost⟩ := getPreview_of_lost there projectId (same ▸ missing)
    exact refused (same ▸ missing) lost

theorem refuses_close (there : s.sessions? = some m) (absent : id ∉ m.sessions.keys) :
    s.Refuses now (.closeSession id) := by
  have closed : m.close id = .error (.notFound id) :=
    if_neg (mt Keyed.has_iff_mem_keys.mp absent)
  have told : s.call now (.closeSession id) =
      (s, .error (.absent (SessionError.notFound id).message)) := by
    rw [Server.call, withSessions_of_some there, Server.closeSession, closed, ← there]
    rfl
  refine ⟨⟨_, by rw [told], rfl⟩, fun m' here => ⟨m', by rw [told, here], fun key => ?_⟩⟩
  exact stays_self now _

/-! ## Runs -/

/-- Logs go on to expect the tag of the server's previews. -/
theorem tagged_of_reaches (reached : (Host.launched settings).Reaches past h) :
    ∀ id st, h.manager.sessions.get? id = some st →
      st.store.Tagged settings.pipeline.options.sourceTag := by
  induction reached with
  | start => simp [Host.launched, Launch.sessions]
  | @step past h reached now op ih =>
    obtain ⟨-, pipeline, -⟩ := rest_launched reached
    intro id st found
    refine holds_step (P := Tagged settings.pipeline.options.sourceTag) (reached.nodup rfl)
      tagged_empty ?_ (ih id) found
    intro store call tagged
    rw [← pipeline] at tagged ⊢
    exact tagged_call tagged _ _ _

/-- The calls go on from the sessions, none of which loses the project that the session has. -/
theorem Server.Serves.exists_run (served : start.Serves id s)
    (found : start.sessions? = some h.manager)
    (reached : (Host.launched settings).Reaches past h) (has : h.Has id projectId) :
    ∃ past' h', h.Reaches past' h' ∧ s = { start with sessions? := some h'.manager } ∧
      h'.Has id projectId := by
  induction served with
  | start => exact ⟨_, _, .start, by rw [← found], has⟩
  | call served now call other ih =>
    obtain ⟨past', h', run, rfl, has'⟩ := ih
    have whole := reached.trans run
    obtain ⟨-, -, fresh⟩ := rest_launched whole
    obtain ⟨past'', h'', run', after, spares⟩ :=
      call_fst (s := { start with sessions? := some h'.manager }) now call rfl
        (whole.new rfl (fresh_launched settings))
    exact ⟨_, _, run.trans run', after, has'.of_reaches (whole.nodup rfl) fresh run'
      (spares id other (has'.ne_takeId fresh))⟩
  | purge served now ih =>
    obtain ⟨past', h', run, rfl, has'⟩ := ih
    have whole := reached.trans run
    obtain ⟨-, -, fresh⟩ := rest_launched whole
    exact ⟨_, _, run.step now .purge, rfl, has'.step (whole.nodup rfl) fresh trivial⟩

/-- A server that was started has the sessions of a run. -/
theorem exists_host (reached : (Server.ofManager (Launch.sessions settings)).Reaches s) :
    ∃ past h, (Host.launched settings).Reaches past h ∧
      s = ⟨settings.pipeline, some h.manager⟩ := by
  obtain ⟨past, h, run, rfl⟩ := reached.exists_run (h := Host.launched settings) rfl
    fun past h run => run.new rfl (fresh_launched settings)
  exact ⟨past, h, run, rfl⟩

/-- A reply that is loaded is found in its session from then on. -/
theorem finds_of_load (run : (Host.launched settings).Reaches past h)
    (found : h.manager.used? now (sessionId?.getD defaultId) = some st) (reply : Text) :
    let s : Server := ⟨settings.pipeline, some h.manager⟩
    ∃ l, (s.call now (.loadProject reply sessionId?)).2 = .ok (Server.loadReport (.loaded l)) ∧
      (∀ later, sessionId?.getD defaultId = defaultId ∨ later < now + h.manager.timeToLive →
        (s.call now (.loadProject reply sessionId?)).1.CanUse later (sessionId?.getD defaultId)) ∧
      ∀ s', (s.call now (.loadProject reply sessionId?)).1.Serves (sessionId?.getD defaultId) s' →
        ∀ later, s'.CanUse later (sessionId?.getD defaultId) →
          s'.Finds later sessionId? l.projectId := by
  intro s
  obtain ⟨l, answered, projectId, -⟩ := onStore_loadReply found reply
  have next := run.step now (.call (sessionId?.getD defaultId) (.loadReply reply))
  have has := has_loaded run rfl (fresh_launched settings) found reply
  rw [call_loadProject rfl answered]
  rw [← projectId] at has
  refine ⟨l, rfl, fun later live => ?_, fun s' served later usable => ?_⟩
  · obtain ⟨used, there, -⟩ := offers_of_load run rfl (fresh_launched settings) found reply live
    exact ⟨_, used, rfl, there⟩
  · obtain ⟨past', h', run', rfl, has'⟩ := served.exists_run (h := (h.step now _).1) rfl next has
    obtain ⟨-, pipeline, -⟩ := rest_launched (next.trans run')
    obtain ⟨used, there⟩ := (canUse_iff rfl).mp usable
    -- The session can be used, so the argument is not the empty id, which the preview reads
    -- differently.
    have named : sessionId? ≠ some [] := by
      rintro rfl
      exact absurd ((used?_nil (next.trans run')).symm.trans there) nofun
    have offers : Server.Offers ⟨settings.pipeline, some h'.manager⟩ later
        (sessionId?.getD defaultId) l.projectId := ⟨_, rfl, has'.offers there⟩
    constructor
    case preview => exact (succeeds_preview_iff rfl _).mpr (previewId_eq_getD named ▸ offers)
    case logs => exact (succeeds_logs_iff rfl _).mpr offers
    case record =>
      refine succeeds_record rfl pipeline.symm (fun st here => ?_) offers
      exact pipeline ▸ tagged_of_reaches (next.trans run') _ st here

/-! ## All calls -/

/-- Previews and logs look for the same session, unless the id is empty. -/
theorem alike_iff (empty : ¬ s.CanUse now [])
    (preview : ∀ projectId, Succeeds (s.call now (.getPreview projectId sessionId?)).2 ↔
      s.Offers now (Manager.previewId sessionId?) projectId)
    (logs : ∀ projectId, Succeeds (s.call now (.getLogs projectId sessionId?)).2 ↔
      s.Offers now (sessionId?.getD defaultId) projectId) :
    (∀ projectId, Succeeds (s.call now (.getPreview projectId sessionId?)).2 ↔
        Succeeds (s.call now (.getLogs projectId sessionId?)).2) ↔
      sessionId? ≠ some [] ∨ ∀ projectId, ¬ s.Offers now defaultId projectId := by
  simp only [preview, logs]
  by_cases named : sessionId? = some []
  · subst named
    have absent (projectId : Text) : ¬ s.Offers now [] projectId :=
      fun offers => empty offers.canUse
    simp [Manager.previewId, absent]
  · simp [named, previewId_eq_getD named]

theorem resolves_of_none (none : s.sessions? = none) : s.Resolves now sessionId? := by
  have useless (id : Text) : ¬ s.CanUse now id := by simp [Server.CanUse, none]
  have missing (id projectId : Text) : ¬ s.Offers now id projectId := by simp [Server.Offers, none]
  have failed {call : Call} (named : call.session? = some sessionId?) :
      ¬ Succeeds (s.call now call).2 := by
    rw [call_of_none none (Or.inl (by rw [named]; rfl))]
    exact not_succeeds_error _
  constructor
  case load => exact fun reply => iff_of_false (failed rfl) (useless _)
  case logs => exact fun projectId => iff_of_false (failed rfl) (missing _ _)
  case record =>
    intro projectId message level source?
    refine iff_of_false ?_ (missing _ _)
    rw [call_of_none none (Or.inl rfl)]
    simp [Arrives, Succeeds]
  case preview => exact fun projectId => iff_of_false (failed rfl) (missing _ _)
  case alike =>
    exact iff_of_true (fun projectId => iff_of_false (failed rfl) (failed rfl))
      (Or.inr fun projectId => missing _ _)
  case loaded => exact fun reply text loads => absurd ⟨text, loads⟩ (failed rfl)
  case empty => exact useless []
  case refuses =>
    exact fun _ call named _ => refuses_of_none none (Or.inl (by rw [named]; rfl))
  case refusesClose => exact fun id _ => refuses_of_none none (Or.inr ⟨id, rfl⟩)

theorem resolves_of_reaches (reached : (Server.ofManager (Launch.sessions settings)).Reaches s) :
    s.Resolves now sessionId? := by
  obtain ⟨past, h, run, rfl⟩ := exists_host reached
  have empty : ¬ Server.CanUse ⟨settings.pipeline, some h.manager⟩ now [] := by
    rw [canUse_iff rfl, used?_nil run]
    simp
  constructor
  case load => exact succeeds_load_iff rfl
  case logs => exact succeeds_logs_iff rfl
  case record => exact arrives_record_iff rfl
  case preview => exact succeeds_preview_iff rfl
  case alike => exact alike_iff empty (succeeds_preview_iff rfl) (succeeds_logs_iff rfl)
  case loaded =>
    intro reply text loads
    obtain ⟨st, found⟩ := (canUse_iff rfl).mp ((succeeds_load_iff rfl reply).mp ⟨text, loads⟩)
    obtain ⟨l, told, lasts, finds⟩ := finds_of_load run found reply
    refine ⟨l, Except.ok.inj (loads.symm.trans told), fun m there => ?_, finds⟩
    obtain rfl := Option.some.inj there
    exact lasts
  case empty => exact empty
  case refuses =>
    intro useless call named other
    obtain ⟨shared, usable⟩ :=
      exists_used?_shared (deadline_default run rfl (fresh_launched settings)) now
    refine refuses_of_lost rfl named usable ?_ other
    rw [canUse_iff rfl] at useless
    exact Option.eq_none_iff_forall_ne_some.mpr fun st found => useless ⟨st, found⟩
  case refusesClose => exact fun id absent => refuses_close rfl (absent _ rfl)

/-- All tools look for the session that the call names, and for its projects there. What one of them
loaded the others find for as long as the session can be used; what is not there they refuse. Only
the preview takes the empty id for the shared session, and shows projects of that. -/
theorem resolves_of_running (running : s.Running) (now : Instant) (sessionId? : Option Text) :
    s.Resolves now sessionId? := by
  rcases running with none | ⟨settings, reached⟩
  · exact resolves_of_none none
  · exact resolves_of_reaches reached

/-- What a client loads into its own session is found there a little later. -/
theorem resolves_of_running_for_client :
    let settings : Settings := {}
    let client : Text := "00000000000000000000000000000001"
    let server := ((Server.ofManager (Launch.sessions settings)).call 0 (.createSession none)).1
    let loaded := (server.call 1 (.loadProject "one" (some client))).1
    server.Running ∧
      ∃ l, (server.call 1 (.loadProject "one" (some client))).2 =
          .ok (Server.loadReport (.loaded l)) ∧
        loaded.CanUse 5 client ∧ loaded.Finds 5 (some client) l.projectId := by
  intro settings client server loaded
  have running : server.Running := Or.inr ⟨settings, .call .start 0 _⟩
  have resolves := resolves_of_running running 1 (some client)
  obtain ⟨m, there, timeToLive, usable⟩ : ∃ m, server.sessions? = some m ∧ m.timeToLive = 1800 ∧
      (m.used? 1 client).isSome = true := ⟨_, rfl, rfl, by decide⟩
  obtain ⟨st, found⟩ := Option.isSome_iff_exists.mp usable
  obtain ⟨text, loads⟩ := (resolves.load "one").mpr ((canUse_iff there).mpr ⟨st, found⟩)
  obtain ⟨l, rfl, lasts, finds⟩ := resolves.loaded "one" text loads
  have still : loaded.CanUse 5 client :=
    lasts m there 5 (Or.inr (by rw [timeToLive]; decide))
  exact ⟨running, l, loads, still, finds loaded .start 5 still⟩

/-- The preview with the empty id shows a project of the shared session, and the logs of the same
project are not found with that id. -/
theorem preview_of_empty_id :
    let settings : Settings := {}
    let server := Server.ofManager (Launch.sessions settings)
    let loaded := (server.call 0 (.loadProject [] none)).1
    let projectId : Text := "00000001"
    loaded.Running ∧ Succeeds (loaded.call 0 (.getPreview projectId (some []))).2 ∧
      ¬ Succeeds (loaded.call 0 (.getLogs projectId (some []))).2 ∧ ¬ loaded.CanUse 0 [] := by
  intro settings server loaded projectId
  let next := ((Host.launched settings).step 0 (.call defaultId (.loadReply []))).1
  have run : (Host.launched settings).Reaches _ next := .step .start 0 _
  have there : loaded.sessions? = some next.manager := rfl
  have given : (Host.launched settings).manager.issued.project.1 = projectId := by decide
  have offers : next.manager.Offers 0 defaultId projectId :=
    given ▸ offers_of_load .start rfl (fresh_launched settings) rfl [] (Or.inl rfl)
  have lost : ¬ loaded.CanUse 0 [] := by
    rw [canUse_iff there, used?_nil run]
    simp
  refine ⟨Or.inr ⟨settings, .call .start 0 _⟩,
    (succeeds_preview_iff there _).mpr ⟨_, there, offers⟩, ?_, lost⟩
  rw [succeeds_logs_iff there]
  exact fun offers => lost offers.canUse

end SandboxPreview.Tools
