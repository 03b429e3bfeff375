/-
# Requests to the page service

What the service is asked to do with its sessions are operations that a client of them could ask
for, so everything that holds of runs of a session manager holds of the service. Its limits, its
listing and the pipeline stay as they were set.

## Main definitions

* `Service.Reaches`: the states that requests and purges lead to;
* `Gives`: what a body gives to an endpoint;
* `Service.Asks`: a request is admitted and routed, and its body has been read;
* `IsPlain`: an operation that gives no metadata but texts;
* `AsksOnce`: the sessions are left as they are, or one plain thing is asked of them.

## Main results

* `serve_of_gives`, `handle_of_asks`: such a request is answered by its endpoint;
* `asksOnce_handleEndpoint`: a request asks at most one thing of the sessions;
* `Service.Reaches.exists_run`: the sessions are those of a run.
-/
import SandboxPreview.Http.Service
import SandboxPreview.Proofs.Session.Run

namespace SandboxPreview.Http

open Session

variable {s s' start : Service} {now : Instant} {r : Request} {endpoint : Endpoint}
  {value : Option Json} {body : ByteArray} {h : Host} {past : List Event}

/-- The body gives the value to the endpoint, or the endpoint takes no body and is given none. -/
def Gives (r : Request) (endpoint : Endpoint) (body : ByteArray) (value : Option Json) : Prop :=
  if Service.takesBody endpoint then readBody r body = .ok value else value = none

namespace Service

/-- The states that the service comes to by requests. Expired sessions are purged at any time. A
request that gives a surrogate that stands alone is not followed and leaves the state as it is. -/
inductive Reaches (start : Service) : Service → Prop
  | start : Reaches start start
  | handle {s : Service} (reached : Reaches start s) (now : Instant) (r : Request) :
      Reaches start (s.handle now r).1
  | purge {s : Service} (reached : Reaches start s) (now : Instant) :
      Reaches start (s.withSessions (s.sessions.purge now).2)

/-- The request is admitted and routed to the endpoint, and its body has been read. -/
structure Asks (s : Service) (r : Request) (endpoint : Endpoint) (value : Option Json) : Prop where
  routed : route r.method r.address = .ok endpoint
  read : ∃ body, admission (s.limits.of r.address.placedPath) r = .ok (some body) ∧
    Gives r endpoint body value ∧ givesLoneSurrogate r body = false

end Service

/-! ## One request -/

theorem handleAdmitted_fst (s : Service) (now : Instant) (r : Request) (body : ByteArray) :
    (s.handleAdmitted now r body).1 = s ∨
      ∃ endpoint value,
        (s.handleAdmitted now r body).1 = (s.handleEndpoint now value endpoint).1 := by
  rw [Service.handleAdmitted]
  split
  · exact Or.inl rfl
  · split
    · split
      · exact Or.inl rfl
      · exact Or.inr ⟨_, _, rfl⟩
    · exact Or.inr ⟨_, _, rfl⟩

theorem serve_fst (s : Service) (now : Instant) (r : Request) (body : ByteArray) :
    (s.serve now r body).1 = s ∨
      ∃ endpoint value, (s.serve now r body).1 = (s.handleEndpoint now value endpoint).1 := by
  rw [Service.serve]
  split
  · exact Or.inl rfl
  · exact handleAdmitted_fst s now r body

theorem handle_fst (s : Service) (now : Instant) (r : Request) :
    (s.handle now r).1 = s ∨
      ∃ endpoint value, (s.handle now r).1 = (s.handleEndpoint now value endpoint).1 := by
  rw [Service.handle]
  split
  · exact Or.inl rfl
  · exact Or.inl rfl
  · exact serve_fst s now r _

theorem serve_of_gives (routed : route r.method r.address = .ok endpoint)
    (gives : Gives r endpoint body value) (followed : Service.givesLoneSurrogate r body = false) :
    s.serve now r body = ((s.handleEndpoint now value endpoint).1,
      if Service.writable (s.handleEndpoint now value endpoint).2 then
        .ok (s.handleEndpoint now value endpoint).2
      else .error .unwritableNumber) := by
  have handled : s.handleAdmitted now r body = s.handleEndpoint now value endpoint := by
    rw [Service.handleAdmitted, routed]
    dsimp only
    rw [Gives] at gives
    split at gives
    case isTrue takes => rw [if_pos takes, gives]
    case isFalse takes => rw [if_neg takes, gives]
  rw [Service.serve, followed, handled]
  rfl

theorem handle_of_asks (asks : s.Asks r endpoint value) :
    s.handle now r = ((s.handleEndpoint now value endpoint).1,
      if Service.writable (s.handleEndpoint now value endpoint).2 then
        .ok (s.handleEndpoint now value endpoint).2
      else .error .unwritableNumber) := by
  obtain ⟨body, admitted, gives, followed⟩ := asks.read
  rw [Service.handle]
  simp only [admitted]
  exact serve_of_gives asks.routed gives followed

/-! ## The sessions of the service -/

theorem onStore_fst (s : Service) (now : Instant) (id : Text) (call : ProjectStore.Call)
    (respond : ProjectStore.Answer → Response) :
    (s.onStore now id call respond).1 = s.withSessions (s.sessions.onStore now id call).1 := by
  rw [Service.onStore]
  split <;> simp_all

/-- If the operation makes a session, then with texts as its metadata. -/
def IsPlain (op : Operation) : Prop :=
  ∀ metadata, op = .create metadata → ∃ texts, metadata = Metadata.ofTexts texts

/-- The sessions of the service are left as they are, or one thing is asked of them. -/
def AsksOnce (s : Service) (h : Host) (now : Instant) (s' : Service) : Prop :=
  s' = s ∨ ∃ op, IsPlain op ∧ s' = s.withSessions (h.step now op).1.manager

theorem asksOnce_checked {α : Type} {handle : α → Service × Response}
    (each : ∀ a, AsksOnce s h now (handle a).1) (body : Checked α) :
    AsksOnce s h now (s.checked body handle).1 := by
  cases body with
  | ok a => exact each a
  | error issues => exact Or.inl rfl

theorem asksOnce_onStore (now : Instant) (same : h.manager = s.sessions) (id : Text)
    (call : ProjectStore.Call) (respond : ProjectStore.Answer → Response) :
    AsksOnce s h now (s.onStore now id call respond).1 := by
  refine Or.inr ⟨.call id call, by rintro _ ⟨⟩, ?_⟩
  rw [onStore_fst, ← same]
  rfl

/-- A request to an endpoint asks at most one thing of the sessions. -/
theorem asksOnce_handleEndpoint (now : Instant) (value : Option Json) (endpoint : Endpoint)
    (same : h.manager = s.sessions) :
    AsksOnce s h now (s.handleEndpoint now value endpoint).1 := by
  cases endpoint with
  | extract =>
    refine asksOnce_checked (fun reply => ?_) (replyBody value)
    exact Or.inl rfl
  | assemble =>
    refine asksOnce_checked (fun source => ?_) (sourceBody value)
    exact Or.inl rfl
  | createSession =>
    refine asksOnce_checked (fun metadata => ?_) (metadataBody value)
    refine Or.inr ⟨.create (Metadata.ofTexts metadata), ?_, ?_⟩
    · intro given made
      exact ⟨metadata, (Operation.create.inj made).symm⟩
    · rw [← same]
      rfl
  | listSessions =>
    left
    rw [Service.handleEndpoint]
    split <;> rfl
  | showSession id =>
    refine Or.inr ⟨.info id, by rintro _ ⟨⟩, ?_⟩
    have after : (h.step now (.info id)).1.manager = (s.sessions.info now id).1 := by
      rw [← same]
      rfl
    rw [after, Service.handleEndpoint]
    split <;> simp_all
  | closeSession id =>
    rw [Service.handleEndpoint]
    split
    case h_1 m closed =>
      refine Or.inr ⟨.close id, by rintro _ ⟨⟩, ?_⟩
      rw [Host.step, same, closed]
      rfl
    case h_2 => exact Or.inl rfl
  | loadProject id =>
    exact asksOnce_checked (fun reply => asksOnce_onStore now same id _ _) (replyBody value)
  | recordLog id projectId =>
    exact asksOnce_checked (fun message => asksOnce_onStore now same id _ _) (messageBody value)
  | listProjects id => exact asksOnce_onStore now same id _ _
  | removeProject id projectId => exact asksOnce_onStore now same id _ _
  | showLogs id projectId => exact asksOnce_onStore now same id _ _
  | clearLogs id projectId => exact asksOnce_onStore now same id _ _
  | showProject id projectId =>
    refine Or.inr ⟨.info id, by rintro _ ⟨⟩, ?_⟩
    have after : (h.step now (.info id)).1.manager = (s.sessions.use now id).1 := by
      rw [← same]
      rfl
    rw [after, Service.handleEndpoint, Service.showProject]
    split <;> simp_all
  | preview id projectId =>
    refine Or.inr ⟨.preview projectId (some id), by rintro _ ⟨⟩, ?_⟩
    have after : (h.step now (.preview projectId (some id))).1.manager =
        (s.sessions.preview now projectId (some id)).1 := by
      rw [← same]
      rfl
    rw [after, Service.handleEndpoint, Service.showPreview]
    split <;> simp_all
  | listSimulators => exact Or.inl rfl
  | health => exact Or.inl rfl

/-- The sessions of the service go through a run of a session manager in which no metadata but texts
is given, and nothing else of the service changes. -/
theorem Service.Reaches.exists_plain_run (reached : start.Reaches s)
    (same : h.manager = start.sessions) :
    ∃ past h', h.Reaches past h' ∧ (∀ e ∈ past, IsPlain e.operation) ∧
      s = start.withSessions h'.manager := by
  induction reached with
  | start => exact ⟨[], h, .start, by simp, by rw [same]; rfl⟩
  | handle reached now r ih =>
    obtain ⟨past, h', run, plain, rfl⟩ := ih
    rcases handle_fst (start.withSessions h'.manager) now r with kept | ⟨endpoint, value, handled⟩
    · exact ⟨past, h', run, plain, kept⟩
    · have same' : h'.manager = (start.withSessions h'.manager).sessions := rfl
      rcases asksOnce_handleEndpoint now value endpoint same' with kept | ⟨op, plainly, after⟩
      · exact ⟨past, h', run, plain, handled.trans kept⟩
      · exact ⟨_, _, run.step now op, List.forall_mem_cons.mpr ⟨plainly, plain⟩,
          handled.trans after⟩
  | purge reached now ih =>
    obtain ⟨past, h', run, plain, rfl⟩ := ih
    exact ⟨_, _, run.step now .purge, List.forall_mem_cons.mpr ⟨by rintro _ ⟨⟩, plain⟩, rfl⟩

theorem Service.Reaches.exists_run (reached : start.Reaches s) (same : h.manager = start.sessions) :
    ∃ past h', h.Reaches past h' ∧ s = start.withSessions h'.manager := by
  obtain ⟨past, h', run, -, after⟩ := reached.exists_plain_run same
  exact ⟨past, h', run, after⟩

end SandboxPreview.Http
