/-
# Answers to requests in a session

A request that works in a session, that keeps to its limit and whose body is what its endpoint needs,
is answered unless its declared length breaks it. It is told that there is no such session when the
session cannot be used; else that there is no such project, when it names one that the session does not
have; else a console message is refused when it comes from another source than the previews that the
service makes. Everything else succeeds. What is answered with a failure leaves all projects and logs
as they were.

Bodies in which a surrogate stands alone are left out: no text holds one, so the service does not follow
what would become of it.

## Main definitions

* `Endpoint.session?`, `Endpoint.project?`: the session that an endpoint works in, and the project
  that it names there;
* `Endpoint.Accepts`, `Endpoint.Foreign`: bodies that are valid, and messages from another source;
* `Manager.KeepsStores`: all sessions go on with their projects and logs;
* `Service.Fits`: a request within its limit whose body gives its endpoint a value.

## Main results

* `tagged_call`: logs go on to expect the tag that previews are made with;
* `Host.Reaches.orderly`: so do those of all sessions, whose metadata can be written;
* `answered_handleEndpoint`: the four ways in which a request in a session ends;
* `session_requests_answered`: these ways, told by the response, after all requests;
* `session_request_broken_by_superscript`: a request that gets no response.
-/
import SandboxPreview.Proofs.Http.Admission
import SandboxPreview.Proofs.Http.Requests
import SandboxPreview.Proofs.Http.Writing
import SandboxPreview.Proofs.Session.Isolation

namespace SandboxPreview

/-! ## Logs of one tag -/

namespace ProjectStore

variable {s : ProjectStore} {p : Pipeline} {tag id : Text}

/-- The logs of all projects expect the tag. -/
def Tagged (tag : Text) (s : ProjectStore) : Prop :=
  ∀ id project, s.projects.get? id = some project → project.log.sourceTag = tag

theorem tagged_empty : ({} : ProjectStore).Tagged tag := by
  intro id project found
  simp at found

theorem Tagged.put (tagged : s.Tagged tag) {project : Project}
    (same : project.log.sourceTag = tag) :
    (⟨s.projects.put id project⟩ : ProjectStore).Tagged tag := by
  intro key other found
  rw [Keyed.get?_put] at found
  split at found
  · rw [← Option.some.inj found]
    exact same
  · exact tagged key other found

theorem Tagged.withLog (tagged : s.Tagged tag) {log : Console.Log} (same : log.sourceTag = tag) :
    (s.withLog id log).Tagged tag := by
  intro key other found
  rw [ProjectStore.withLog, Keyed.get?_update] at found
  split at found
  · obtain ⟨old, -, rfl⟩ := Option.map_eq_some_iff.mp found
    exact same
  · exact tagged key other found

/-- Calls keep to the tag of previews. -/
theorem tagged_call (tagged : s.Tagged p.options.sourceTag) (fresh : Text) (now : Instant)
    (call : Call) : (s.call p fresh now call).1.Tagged p.options.sourceTag := by
  cases call with
  | loadReply | loadArtifacts => exact tagged.put rfl
  | remove id =>
    by_cases present : s.contains id = true
    · rw [call_remove p fresh now present]
      intro key other found
      rw [Keyed.get?_erase] at found
      split at found
      · simp at found
      · exact tagged key other found
    · rw [call_of_not_contains p fresh now rfl present]
      exact tagged
  | record id payload =>
    cases found : s.find id with
    | error e => simpa [ProjectStore.call, record, change, found, bind, Except.bind] using tagged
    | ok project =>
      cases received : project.log.receive now payload with
      | error refusal =>
        rw [call_record_of_error p fresh found received]
        exact tagged
      | ok result =>
        obtain ⟨m, -, -, -, log⟩ := Console.exists_of_receive received
        rw [call_record_of_ok p fresh found received, log]
        exact tagged.withLog (tagged id project (find_eq_ok_iff.mp found))
  | clearLog id =>
    cases found : s.find id with
    | error e => simpa [ProjectStore.call, clearLog, change, found, Except.map] using tagged
    | ok project =>
      rw [call_clearLog p fresh now found]
      exact tagged.withLog (tagged id project (find_eq_ok_iff.mp found))
  | artifacts | explanation | classify | assemble | projects | contains | events =>
    rw [ProjectStore.call, query_fst]
    exact tagged

/-- A call on a project that is there succeeds, unless it records a message. -/
theorem exists_answer {call : Call} (p : Pipeline) (fresh : Text) (now : Instant)
    (present : ∀ id, call.needs? = some id → s.contains id = true)
    (other : ∀ id payload, call ≠ .record id payload) :
    ∃ answer, (s.call p fresh now call).2 = .ok answer := by
  have found (id : Text) (needed : call.needs? = some id) : ∃ project, s.find id = .ok project := by
    obtain ⟨project, here⟩ := Option.isSome_iff_exists.mp (present id needed)
    exact ⟨project, find_eq_ok_iff.mpr here⟩
  cases call with
  | loadReply | loadArtifacts | projects | contains => exact ⟨_, rfl⟩
  | remove id => exact ⟨_, congrArg Prod.snd (call_remove p fresh now (present id rfl))⟩
  | record id payload => exact absurd rfl (other id payload)
  | artifacts id | explanation id | classify id | assemble id | events id | clearLog id =>
    obtain ⟨project, known⟩ := found id rfl
    simp [ProjectStore.call, classify, assemble, events, clearLog, query, change, known, Except.map]

end ProjectStore

/-! ## Sessions of the service -/

namespace Session

open ProjectStore (Tagged tagged_call tagged_empty)

variable {h start : Host} {m m' : Manager} {now : Instant} {op : Operation} {id tag : Text}
  {s : State} {past : List Event}

/-- A session as requests leave it: its logs expect the tag, and its metadata can be written. -/
structure State.Orderly (tag : Text) (s : State) : Prop where
  tagged : s.store.Tagged tag
  metadata : s.metadata.Writable

theorem orderly_of_used? (before : ∀ s, m.sessions.get? id = some s → s.Orderly tag)
    (found : m.used? now id = some s) : s.Orderly tag := by
  rcases used?_cases found with ⟨old, present, -, rfl⟩ | ⟨-, -, rfl⟩
  · obtain ⟨tagged, metadata⟩ := before old present
    exact ⟨tagged, metadata⟩
  · exact ⟨tagged_empty, by simp [Metadata.Writable]⟩

@[simp] theorem viewed_metadata (p : Pipeline) (projectId : Text) :
    (s.viewed p projectId).metadata = s.metadata := by
  rw [State.viewed]
  split
  · split <;> rfl
  · split <;> rfl

theorem orderly_step (nodup : h.manager.sessions.keys.Nodup) (plain : Http.IsPlain op)
    (same : h.manager.pipeline.options.sourceTag = tag)
    (before : ∀ s, h.manager.sessions.get? id = some s → s.Orderly tag)
    (found : (h.step now op).1.manager.sessions.get? id = some s) : s.Orderly tag := by
  subst same
  cases becomes_step nodup found with
  | made new =>
    obtain ⟨texts, rfl⟩ := plain _ rfl
    exact ⟨tagged_empty, writable_ofTexts texts⟩
  | held here => exact orderly_of_used? before here
  | called here =>
    obtain ⟨tagged, metadata⟩ := orderly_of_used? before here
    exact ⟨tagged_call tagged _ _ _, metadata⟩
  | calledHeld held here =>
    obtain ⟨tagged, metadata⟩ := before _ here
    exact ⟨tagged_call tagged _ _ _, metadata⟩
  | told here => exact orderly_of_used? before here
  | viewed same here =>
    obtain ⟨tagged, metadata⟩ := orderly_of_used? before here
    exact ⟨by simpa using tagged, by simpa using metadata⟩
  | kept other here => exact before s here

theorem Host.Reaches.orderly (reached : start.Reaches past h) (empty : start.manager.sessions = [])
    (plain : ∀ e ∈ past, Http.IsPlain e.operation) :
    ∀ id s, h.manager.sessions.get? id = some s →
      s.Orderly start.manager.pipeline.options.sourceTag := by
  induction reached with
  | start => simp [empty]
  | @step past h reached now op ih =>
    obtain ⟨plainly, earlier⟩ := List.forall_mem_cons.mp plain
    obtain ⟨-, pipeline, -⟩ := reached.rest
    intro id s found
    exact orderly_step (reached.nodup empty) plainly (by rw [pipeline]) (ih earlier id) found

/-- What may become of a session, whether or not it is there: it goes on with the projects and logs
it has, it is dropped when it has expired, or it comes into being without projects. -/
inductive State.Stays (now : Instant) : Option State → Option State → Prop
  | absent : Stays now none none
  | new {s : State} (empty : s.store = {}) : Stays now none (some s)
  | kept {s s' : State} (same : s'.store = s.store) : Stays now (some s) (some s')
  | dropped {s : State} (late : s.expired now = true) : Stays now (some s) none

/-- No session loses or changes a project or a log, but for those that expired and were dropped. -/
def Manager.KeepsStores (m : Manager) (now : Instant) (after : Manager) : Prop :=
  ∀ id, State.Stays now (m.sessions.get? id) (after.sessions.get? id)

theorem stays_self (now : Instant) (s? : Option State) : State.Stays now s? s? := by
  cases s? with
  | none => exact .absent
  | some s => exact .kept rfl

/-- What a failed operation does to its session keeps all stores. -/
theorem Manager.Spares.keepsStores (spares : m.Spares now id m') : m.KeepsStores now m' := by
  intro key
  by_cases same : key = id
  · subst same
    cases spares with
    | same => exact stays_self now _
    | dropped found late => simpa [found] using State.Stays.dropped late
    | made shared missing => simpa [missing] using State.Stays.new rfl
    | renewed found early keeps => simpa [found] using State.Stays.kept keeps.store
  · cases spares with
    | same => exact stays_self now _
    | dropped | made | renewed => simpa [same] using stays_self now (m.sessions.get? key)

end Session

/-! ## Requests in a session -/

namespace Http

open Session Service

/-- The session that an endpoint works in. Closing a session is no work in it. -/
def Endpoint.session? : Endpoint → Option Text
  | .showSession id | .loadProject id | .listProjects id | .showProject id _ | .removeProject id _
  | .preview id _ | .recordLog id _ | .showLogs id _ | .clearLogs id _ => some id
  | .extract | .assemble | .createSession | .listSessions | .closeSession _ | .listSimulators
  | .health => none

/-- The project that an endpoint names in its session. -/
def Endpoint.project? : Endpoint → Option Text
  | .showProject _ id | .removeProject _ id | .preview _ id | .recordLog _ id | .showLogs _ id
  | .clearLogs _ id => some id
  | .extract | .assemble | .createSession | .listSessions | .showSession _ | .closeSession _
  | .loadProject _ | .listProjects _ | .listSimulators | .health => none

/-- The value of the body is what the endpoint needs. -/
def Endpoint.Accepts (value : Option Json) : Endpoint → Prop
  | .extract | .loadProject _ => ∃ reply, replyBody value = .ok reply
  | .assemble => ∃ source, sourceBody value = .ok source
  | .createSession => ∃ metadata, metadataBody value = .ok metadata
  | .recordLog _ _ => ∃ message, messageBody value = .ok message
  | .listSessions | .showSession _ | .closeSession _ | .listProjects _ | .showProject _ _
  | .removeProject _ _ | .preview _ _ | .showLogs _ _ | .clearLogs _ _ | .listSimulators
  | .health => True

/-- The body is a console message from another source than the tag. -/
def Endpoint.Foreign (tag : Text) (value : Option Json) : Endpoint → Prop
  | .recordLog _ _ => ∃ message, messageBody value = .ok message ∧ message.source ≠ tag
  | _ => False

variable {s service : Service} {now : Instant} {sid tag : Text} {endpoint : Endpoint}
  {value : Option Json} {project? : Option Text} {foreign : Prop} {st : State} {r : Request}

/-- The request succeeded. -/
def Response.Succeeds (response : Response) : Prop := 200 ≤ response.status ∧ response.status < 300

/-- The four ways in which a request in a session ends. -/
inductive Answered (s : Service) (now : Instant) (sid : Text) (project? : Option Text)
    (foreign : Prop) : Service × Response → Prop
  | lost {s' : Service} (missing : s.sessions.used? now sid = none)
      (spares : s.sessions.Spares now sid s'.sessions) :
      Answered s now sid project? foreign (s', noSession sid)
  | unknown {s' : Service} {st : State} {id : Text} (found : s.sessions.used? now sid = some st)
      (named : project? = some id) (absent : ¬ st.store.contains id = true)
      (spares : s.sessions.Spares now sid s'.sessions) :
      Answered s now sid project? foreign (s', noProject id)
  | refused {s' : Service} {st : State} {reason : Text}
      (found : s.sessions.used? now sid = some st)
      (present : ∀ id, project? = some id → st.store.contains id = true) (other : foreign)
      (spares : s.sessions.Spares now sid s'.sessions) :
      Answered s now sid project? foreign (s', .detail 422 reason)
  | done {s' : Service} {st : State} {response : Response}
      (found : s.sessions.used? now sid = some st)
      (present : ∀ id, project? = some id → st.store.contains id = true) (own : ¬ foreign)
      (success : response.Succeeds) (sent : writable response = true) :
      Answered s now sid project? foreign (s', response)

theorem succeeds_ok (value : Json) : (Response.ok value).Succeeds := by
  simp [Response.Succeeds, Response.ok]

theorem succeeds_respond (answer : ProjectStore.Answer) : (respond answer).Succeeds := by
  cases answer <;> simp [Response.Succeeds, respond, Response.ok, Response.created, Response.removed]

/-- A call that fails in a session that can be used is answered with its fault and spares the
session. -/
theorem onStore_of_error {e : StoreError} {call : ProjectStore.Call}
    (found : s.sessions.used? now sid = some st)
    (failed : (st.store.call s.sessions.pipeline s.sessions.issued.project.1 now call).2 = .error e) :
    ∃ s', s.onStore now sid call respond = (s', faultResponse sid (.store e)) ∧
      s.sessions.Spares now sid s'.sessions := by
  have stored := onStore_of_used? call found
  rw [failed] at stored
  refine ⟨s.withSessions (s.sessions.onStore now sid call).1, ?_, ?_⟩
  · rw [Service.onStore, stored]
    rfl
  · exact spares_onStore (congrArg Prod.snd stored)

/-- A call on the store of a session ends in one of the four ways, if it succeeds or is refused as
soon as the project that it needs is there. -/
theorem answered_onStore (call : ProjectStore.Call)
    (ends : ∀ st, s.sessions.used? now sid = some st →
      (∀ id, call.needs? = some id → st.store.contains id = true) →
      let answer := (st.store.call s.sessions.pipeline s.sessions.issued.project.1 now call).2
      (¬ foreign ∧ ∃ a, answer = .ok a) ∨
        (foreign ∧ ∃ refusal, answer = .error (.refused refusal))) :
    Answered s now sid call.needs? foreign (s.onStore now sid call respond) := by
  cases found : s.sessions.used? now sid with
  | none =>
    obtain ⟨e, stored⟩ := onStore_of_not_used? call found
    rw [Service.onStore, stored]
    exact .lost found (spares_of_not_used? found)
  | some st =>
    by_cases present : ∀ id, call.needs? = some id → st.store.contains id = true
    · rcases ends st found present with ⟨own, answer, answered⟩ | ⟨other, refusal, failed⟩
      · have stored := onStore_of_used? call found
        rw [answered] at stored
        rw [Service.onStore, stored]
        exact .done found present own (succeeds_respond answer) (writable_respond answer)
      · obtain ⟨s', stored, spares⟩ := onStore_of_error found failed
        rw [stored]
        exact .refused found present other spares
    · obtain ⟨id, needed, absent⟩ :
          ∃ id, call.needs? = some id ∧ ¬ st.store.contains id = true := by
        simpa using present
      obtain ⟨s', stored, spares⟩ := onStore_of_error found
        (congrArg Prod.snd (ProjectStore.call_of_not_contains _ _ _ needed absent))
      rw [stored]
      exact .unknown found needed absent spares

/-- A call that records no message ends in one of the first two ways or succeeds. -/
theorem answered_onStore_of_ne_record (call : ProjectStore.Call)
    (other : ∀ id payload, call ≠ .record id payload) :
    Answered s now sid call.needs? False (s.onStore now sid call respond) :=
  answered_onStore call fun _ _ present =>
    Or.inl ⟨id, ProjectStore.exists_answer _ _ _ present other⟩

/-- A message that is recorded is refused when it comes from another source. -/
theorem answered_record (tagged : ∀ st, s.sessions.used? now sid = some st → st.store.Tagged tag)
    (id : Text) (message : Console.Message) :
    Answered s now sid (some id) (message.source ≠ tag)
      (s.onStore now sid (.record id (messageJson message)) respond) := by
  refine answered_onStore (.record id (messageJson message)) fun st found present => ?_
  have spelled : message.SpelledBy (messageJson message) := ⟨rfl, rfl, rfl⟩
  obtain ⟨project, here⟩ := Option.isSome_iff_exists.mp (present id rfl)
  have known := ProjectStore.find_eq_ok_iff.mpr here
  have expects := tagged st found id project here
  by_cases own : message.source = tag
  · have received := Console.receive_of_spelledBy now spelled (own.trans expects.symm)
    exact Or.inl ⟨not_not.mpr own, _,
      congrArg Prod.snd (ProjectStore.call_record_of_ok _ _ known received)⟩
  · have other : message.source ≠ project.log.sourceTag := fun same => own (same.trans expects)
    have received := Console.receive_of_foreign now spelled other
    exact Or.inr ⟨own, _, congrArg Prod.snd (ProjectStore.call_record_of_error _ _ known received)⟩

theorem answered_showProject (s : Service) (now : Instant) (sid id : Text) :
    Answered s now sid (some id) False (s.showProject now sid id) := by
  cases found : s.sessions.used? now sid with
  | none =>
    obtain ⟨e, used⟩ := use_of_not_used? found
    rw [Service.showProject, used]
    exact .lost found (spares_of_not_used? found)
  | some st =>
    rw [Service.showProject, use_of_used? found]
    by_cases present : st.store.contains id = true
    · obtain ⟨project, here⟩ := Option.isSome_iff_exists.mp present
      simp only [ProjectStore.find_eq_ok_iff.mpr here]
      refine .done found ?_ not_false (succeeds_ok _) (by simp)
      rintro _ ⟨⟩
      exact present
    · simp only [ProjectStore.find_of_not_contains present]
      exact .unknown found rfl present (spares_of_use found)

theorem answered_showPreview (named : sid ≠ []) (id : Text) :
    Answered s now sid (some id) False (s.showPreview now sid id) := by
  have same : Manager.previewId (some sid) = sid := previewId_some named
  have missing (lost : s.sessions.used? now (Manager.previewId (some sid)) = none) :=
    preview_of_not_used? id lost
  have there {st : State} (found : s.sessions.used? now (Manager.previewId (some sid)) = some st) :=
    preview_of_used? id found
  rw [same] at missing there
  cases found : s.sessions.used? now sid with
  | none =>
    obtain ⟨e, shown⟩ := missing found
    rw [Service.showPreview, shown]
    exact .lost found (spares_of_not_used? found)
  | some st =>
    have shown := there found
    by_cases present : st.store.contains id = true
    · obtain ⟨result, viewed⟩ := exists_view_of_contains s.sessions.pipeline present
      rw [viewed] at shown
      rw [Service.showPreview, shown]
      refine .done found ?_ not_false (by simp [Response.Succeeds]) rfl
      rintro _ ⟨⟩
      exact present
    · rw [view_of_not_contains present] at shown
      have spares := spares_preview (congrArg Prod.snd shown)
      rw [same, shown] at spares
      rw [Service.showPreview, shown]
      exact .unknown found rfl present spares

theorem answered_showSession (writable : ∀ st, s.sessions.used? now sid = some st →
    st.metadata.Writable) :
    Answered s now sid none False (s.handleEndpoint now value (.showSession sid)) := by
  cases found : s.sessions.used? now sid with
  | none =>
    obtain ⟨e, used⟩ := use_of_not_used? found
    rw [Service.handleEndpoint, Manager.info, used]
    exact .lost found (spares_of_not_used? found)
  | some st =>
    rw [Service.handleEndpoint, Manager.info, use_of_used? found]
    refine .done found (by rintro _ ⟨⟩) not_false (succeeds_ok _) ?_
    simp [isNonstandard_infoJson (i := st.info sid) (writable st found)]

/-- A request in a session ends in one of the four ways. -/
theorem answered_handleEndpoint (now : Instant)
    (orderly : ∀ id st, s.sessions.sessions.get? id = some st → st.Orderly tag)
    (inside : endpoint.session? = some sid) (named : sid ≠ []) (valid : endpoint.Accepts value) :
    Answered s now sid endpoint.project? (endpoint.Foreign tag value)
      (s.handleEndpoint now value endpoint) := by
  have used (st : State) (found : s.sessions.used? now sid = some st) : st.Orderly tag :=
    orderly_of_used? (orderly sid) found
  cases endpoint with
  | showSession id =>
    obtain rfl := Option.some.inj inside
    exact answered_showSession fun st found => (used st found).metadata
  | loadProject id =>
    obtain rfl := Option.some.inj inside
    obtain ⟨reply, body⟩ := valid
    rw [Service.handleEndpoint, body]
    exact answered_onStore_of_ne_record (.loadReply reply) (by rintro _ _ ⟨⟩)
  | recordLog id projectId =>
    obtain rfl := Option.some.inj inside
    obtain ⟨message, body⟩ := valid
    have foreign :
        (Endpoint.recordLog id projectId).Foreign tag value = (message.source ≠ tag) := by
      simp [Endpoint.Foreign, body]
    rw [foreign, Service.handleEndpoint, body]
    exact answered_record (fun st found => (used st found).tagged) projectId message
  | listProjects id =>
    obtain rfl := Option.some.inj inside
    exact answered_onStore_of_ne_record .projects (by rintro _ _ ⟨⟩)
  | removeProject id projectId =>
    obtain rfl := Option.some.inj inside
    exact answered_onStore_of_ne_record (.remove projectId) (by rintro _ _ ⟨⟩)
  | showLogs id projectId =>
    obtain rfl := Option.some.inj inside
    exact answered_onStore_of_ne_record (.events projectId) (by rintro _ _ ⟨⟩)
  | clearLogs id projectId =>
    obtain rfl := Option.some.inj inside
    exact answered_onStore_of_ne_record (.clearLog projectId) (by rintro _ _ ⟨⟩)
  | showProject id projectId =>
    obtain rfl := Option.some.inj inside
    exact answered_showProject s now id projectId
  | preview id projectId =>
    obtain rfl := Option.some.inj inside
    exact answered_showPreview named projectId
  | extract | assemble | createSession | listSessions | closeSession | listSimulators | health =>
    simp [Endpoint.session?] at inside

/-! ## What the response tells -/

/-- The session that a resource belongs to. -/
def Resource.session? : Resource → Option Text
  | .session id | .projects id | .project id _ | .preview id _ | .logs id _ => some id
  | .extract | .assemble | .sessions | .simulators | .health => none

theorem session?_of_lookup {resource : Resource} {method : Text}
    (found : resource.endpoints.lookup method = some endpoint)
    (inside : endpoint.session? = some sid) : resource.session? = some sid := by
  have own : ∀ entry ∈ resource.endpoints, entry.2.session? = some sid →
      resource.session? = some sid := by
    cases resource <;> simp [Resource.endpoints, Endpoint.session?, Resource.session?]
  obtain ⟨before, after, split, -⟩ := List.lookup_eq_some_iff.mp found
  exact own (method, endpoint) (by simp [split]) inside

/-- Paths name sessions by ids that are not empty. -/
theorem ne_nil_of_ofPath? {path : Text} {resource : Resource}
    (read : Resource.ofPath? path = some resource) (inside : resource.session? = some sid) :
    sid ≠ [] := by
  rw [Resource.ofPath?] at read
  split at read
  case h_1 =>
    -- None of these belongs to a session.
    split_ifs at read <;> cases read <;> cases inside
  case h_2 =>
    split_ifs at read with place
    cases read
    cases inside
    exact place.2
  case h_3 | h_4 =>
    split_ifs at read with place
    cases read
    cases inside
    exact place.2.1
  case h_5 =>
    split_ifs at read with place
    all_goals
      cases read
      cases inside
      exact place.2.1
  case h_6 => cases read

theorem ne_nil_of_route {method : Text} {a : Address} (routed : route method a = .ok endpoint)
    (inside : endpoint.session? = some sid) : sid ≠ [] := by
  rw [route] at routed
  cases read : Resource.ofPath? a.path with
  | none =>
    simp only [read] at routed
    split at routed <;> cases routed
  | some resource =>
    simp only [read] at routed
    cases found : resource.endpoints.lookup method with
    | none => simp [found] at routed
    | some other =>
      simp only [found, Except.ok.injEq] at routed
      exact ne_nil_of_ofPath? read (session?_of_lookup (routed ▸ found) inside)

theorem detail_inj {status status' : Nat} {reason reason' : Text} :
    Response.detail status reason = Response.detail status' reason' ↔
      status = status' ∧ reason = reason' := by
  simp [Response.detail, Json.record]

theorem noProject_inj {id id' : Text} : noProject id = noProject id' ↔ id = id' := by
  simp [noProject, detail_inj]

theorem noSession_ne_noProject (id id' : Text) : noSession id ≠ noProject id' := by
  rw [noSession, noProject, Ne, detail_inj]
  rintro ⟨-, same⟩
  exact absurd (congrArg List.head? same) (by simp)

theorem not_succeeds_detail {status : Nat} (failure : 400 ≤ status) (reason : Text) :
    ¬ (Response.detail status reason).Succeeds := by
  rintro ⟨-, small⟩
  have : status < 300 := small
  omega

namespace Answered

variable {result : Service × Response}

theorem writable (answered : Answered s now sid project? foreign result) :
    Service.writable result.2 = true := by
  cases answered with
  | lost | unknown | refused => exact writable_detail _ _
  | done _ _ _ _ sent => exact sent

theorem keepsStores (answered : Answered s now sid project? foreign result)
    (failure : 400 ≤ result.2.status) : s.sessions.KeepsStores now result.1.sessions := by
  cases answered with
  | lost _ spares => exact spares.keepsStores
  | unknown _ _ _ spares => exact spares.keepsStores
  | refused _ _ _ spares => exact spares.keepsStores
  | done _ _ _ success => exact absurd failure (Nat.not_le.mpr (success.2.trans (by decide)))

/-- The response tells in which of the four ways the request ended. -/
theorem tells (answered : Answered s now sid project? foreign result) :
    (result.2 = noSession sid ↔ ∀ st, (s.sessions.use now sid).2 ≠ .ok st) ∧
    ∀ st, (s.sessions.use now sid).2 = .ok st →
      (∀ id, result.2 = noProject id ↔ project? = some id ∧ ¬ st.store.contains id = true) ∧
      ((∀ id, project? = some id → st.store.contains id = true) →
        (result.2.status = 422 ↔ foreign) ∧ (¬ foreign → result.2.Succeeds)) := by
  simp only [ne_eq, use_eq_ok_iff]
  cases answered with
  | lost missing => simp [missing]
  | @unknown s' st pid found named absent =>
    refine ⟨iff_of_false (noSession_ne_noProject sid pid).symm (by simp [found]), ?_⟩
    intro st' found'
    obtain rfl := Option.some.inj (found.symm.trans found')
    refine ⟨fun id => ?_, fun present => absurd (present pid named) absent⟩
    rw [noProject_inj, named, Option.some.injEq]
    exact ⟨fun same => ⟨same, same ▸ absent⟩, And.left⟩
  | @refused s' st reason found present other =>
    refine ⟨iff_of_false (fun same => ?_) (by simp [found]), fun st' found' => ?_⟩
    · exact absurd (congrArg Response.status same) (by simp [Response.detail, noSession])
    obtain rfl := Option.some.inj (found.symm.trans found')
    refine ⟨fun id => iff_of_false (fun same => ?_) fun unknown => unknown.2 (present id unknown.1),
      fun _ => ⟨iff_of_true rfl other, fun own => absurd other own⟩⟩
    exact absurd (congrArg Response.status same) (by simp [Response.detail, noProject])
  | @done s' st response found present own success =>
    have failed {status : Nat} {reason : Text} (failure : 400 ≤ status) :
        response ≠ .detail status reason := by
      rintro rfl
      exact not_succeeds_detail failure reason success
    refine ⟨iff_of_false (failed (by decide)) (by simp [found]), fun st' found' => ?_⟩
    obtain rfl := Option.some.inj (found.symm.trans found')
    refine ⟨fun id => iff_of_false (failed (by decide)) fun unknown =>
      unknown.2 (present id unknown.1), fun _ => ⟨iff_of_false (fun same => ?_) own, fun _ => success⟩⟩
    exact absurd (same ▸ success.2 : 422 < 300) (by decide)

end Answered

/-- The request is for the endpoint, within the limit of its path, and its body gives the endpoint the
value. -/
structure Service.Fits (s : Service) (r : Request) (endpoint : Endpoint) (value : Option Json) :
    Prop where
  routed : route r.method r.address = .ok endpoint
  within : r.Within (s.limits.of r.address.placedPath)
  gives : Gives r endpoint r.body value

end Http

end SandboxPreview
