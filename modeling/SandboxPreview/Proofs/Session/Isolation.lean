/-
# Sessions apart

An operation reaches the one session that it is addressed to. All others stay as they are, and a
project that was loaded into one session is not known in any other, now or later. An operation that
fails spares its own session too: the session may be used by it, or dropped when it has expired, and
a kept preview of a project that is gone may be dropped, but its projects, their logs and what is
counted stay as they were.

## Main definitions

* `Host.target?`: the session that an operation is addressed to;
* `State.Keeps`, `Manager.Spares`: what a failed operation may do to a session and to the manager;
* `Host.Confined`: a project that no other session knows;
* `Host.Unknown`: whatever is asked of the project in the session, the answer is that it is unknown.

## Main results

* `get?_step_of_target?`: the other sessions stay as they are;
* `spares_step`: a failed operation spares its session;
* `Host.Reaches.exists_owner`: every project has one session that may know it;
* `sessions_apart`: all of this in every run.
-/
import SandboxPreview.Proofs.Session.PreviewCache
import SandboxPreview.Proofs.Store.History

namespace SandboxPreview.Session

open ProjectStore (contains_iff assemble_of_contains assemble_of_not_contains query_fst turn_call
  call_of_not_contains)

variable {h h' start : Host} {m : Manager} {now : Instant} {op : Operation} {id key name : Text}
  {projectId : Text} {s : State} {past past' : List Event} {p : Pipeline} {call : ProjectStore.Call}

/-! ## One session at a time -/

/-- The session that an operation is addressed to: by its id, or by a name under which its store is
held. -/
def Host.target? (h : Host) : Operation → Option Text
  | .hold id _ => some id
  | .call id _ => some id
  | .callHeld name _ =>
    match h.leases.held.get? name with
    | some (.live id) => some id
    | _ => none
  | .info id => some id
  | .preview _ id? => some (Manager.previewId id?)
  | .close id => some id
  | .create _ | .list | .size | .purge => none

theorem target?_callHeld : h.target? (.callHeld name call) = some id ↔
    h.leases.held.get? name = some (.live id) := by
  rw [Host.target?]
  split
  case h_1 other held => simp [held]
  case h_2 elsewhere =>
    refine iff_of_false (by simp) fun held => ?_
    exact elsewhere id held

/-- An operation changes no session but the one that it is addressed to. -/
theorem get?_step_of_target? (nodup : h.manager.sessions.keys.Nodup)
    (target : h.target? op = some id) (other : key ≠ id) :
    (h.step now op).1.manager.sessions.get? key = h.manager.sessions.get? key := by
  rw [get?_step nodup]
  cases op with
  | hold | call | info | preview | close =>
    obtain rfl := Option.some.inj target
    exact if_neg other
  | callHeld name call =>
    have elsewhere : h.leases.held.get? name ≠ some (.live key) := by
      rw [target?_callHeld.mp target]
      simpa using other.symm
    exact if_neg elsewhere
  | create | list | size | purge => simp [Host.target?] at target

/-- An operation that is addressed elsewhere leaves a session as it is, or makes it without
projects. -/
theorem kept_of_target? (nodup : h.manager.sessions.keys.Nodup) (other : h.target? op ≠ some id)
    (found : (h.step now op).1.manager.sessions.get? id = some s) :
    h.manager.sessions.get? id = some s ∨ s.store = {} := by
  cases becomes_step nodup found with
  | made new => exact Or.inr rfl
  | held | called | told => exact absurd rfl other
  | calledHeld held => exact absurd (target?_callHeld.mpr held) other
  | viewed same => exact absurd (congrArg some same) other
  | kept _ here => exact Or.inl here

/-! ## Failures -/

/-- The operation failed: its session was not there, or what it wanted there was missing or
refused. -/
def Outcome.failed : Outcome → Bool
  | .held (.error _) => true
  | .answered (.error _) => true
  | .answeredHeld (some (.error _)) => true
  | .told (.error _) => true
  | .shown (.error _) => true
  | .closed (.error _) => true
  | _ => false

/-- The session goes on with all that clients see of it, but for when it was used last and when it
expires. Of the kept previews only those of projects that are gone may be missing. -/
structure State.Keeps (s s' : State) : Prop where
  store : s'.store = s.store
  metadata : s'.metadata = s.metadata
  createdAt : s'.createdAt = s.createdAt
  previews : ∀ projectId, s.store.contains projectId = true →
    s'.previews.get? projectId = s.previews.get? projectId
  previewCount : ∀ id, (s'.info id).previewCount = (s.info id).previewCount

/-- What a failed operation may do to the session that it was addressed to: nothing, drop it when it
has expired, make the shared session without projects, or use the session without changing what
it holds. -/
inductive Manager.Spares (m : Manager) (now : Instant) (id : Text) : Manager → Prop
  | same : Spares m now id m
  | dropped {s : State} (found : m.sessions.get? id = some s) (late : s.expired now = true) :
      Spares m now id { m with sessions := m.sessions.erase id }
  | made (shared : id = defaultId) (missing : m.sessions.get? id = none) :
      Spares m now id
        { m with
          sessions := m.sessions.put id
            { deadline := none, createdAt := now, lastAccessedAt := now } }
  | renewed {s s' : State} (found : m.sessions.get? id = some s) (early : s.expired now = false)
      (keeps : s.Keeps s')
      (deadline : s'.deadline = if id = defaultId then s.deadline else some (now + m.timeToLive))
      (lastAccessedAt : s'.lastAccessedAt = now) :
      Spares m now id { m with sessions := m.sessions.put id s' }

/-- Kept previews may be dropped as long as those of the projects in the store stay. -/
theorem State.Keeps.of_filter {kept : Text → Bool}
    (needed : ∀ projectId, s.store.contains projectId = true → kept projectId = true)
    (deadline : Option Instant) (lastAccessedAt : Instant) :
    s.Keeps { s with
      previews := s.previews.filter fun entry => kept entry.1, deadline, lastAccessedAt } where
  store := rfl
  metadata := rfl
  createdAt := rfl
  previews projectId present := by
    rw [Keyed.get?_filter_key s.previews kept, if_pos (needed projectId present)]
  previewCount id := by
    rw [State.info, State.info, List.countP_filter]
    refine List.countP_congr fun entry _ => ?_
    rw [Bool.and_eq_true]
    exact and_iff_left_of_imp (needed entry.1)

/-- An operation that does not find its session drops it or changes nothing. -/
theorem spares_of_not_used? (missing : m.used? now id = none) :
    m.Spares now id { m with sessions := m.sessions.erase id } := by
  cases present : m.sessions.get? id with
  | none =>
    rw [Keyed.erase_of_not_mem (Keyed.get?_eq_none_iff.mp present)]
    exact .same
  | some s =>
    refine .dropped present ?_
    by_contra early
    simp [Manager.used?, present, early] at missing

/-- An operation that finds its session and drops no more than previews of projects that are gone
leaves the session as it was, but for its use. -/
theorem spares_of_used? (found : m.used? now id = some s) (kept : Text → Bool)
    (needed : ∀ projectId, s.store.contains projectId = true → kept projectId = true) :
    m.Spares now id
      { m with
        sessions := m.sessions.put id
          { s with previews := s.previews.filter fun entry => kept entry.1 } } := by
  rcases used?_cases found with ⟨old, present, early, rfl⟩ | ⟨missing, shared, rfl⟩
  · exact .renewed present early (.of_filter (s := old) needed _ _) rfl rfl
  · exact .made shared missing

theorem spares_of_use (found : m.used? now id = some s) :
    m.Spares now id { m with sessions := m.sessions.put id s } := by
  have whole : s.previews.filter (fun _ => true) = s.previews := List.filter_eq_self.mpr (by simp)
  have spares := spares_of_used? found (fun _ => true) fun _ _ => rfl
  rwa [whole] at spares

theorem change_of_error {α : Type} {store : ProjectStore} {answer : α → ProjectStore.Answer}
    {result : Except StoreError (α × ProjectStore)} {e : StoreError}
    (failed : (store.change answer result).2 = .error e) :
    (store.change answer result).1 = store := by
  cases result with
  | ok => cases failed
  | error => rfl

/-- A call that fails leaves the store as it was, and it is none that loads. -/
theorem call_of_error {store : ProjectStore} {fresh : Text} {e : StoreError}
    (failed : (store.call p fresh now call).2 = .error e) :
    (store.call p fresh now call).1 = store ∧ call.loads = false := by
  cases call with
  | loadReply | loadArtifacts => cases failed
  | remove | record | clearLog => exact ⟨change_of_error failed, rfl⟩
  | artifacts | explanation | classify | assemble | projects | contains | events =>
    exact ⟨query_fst _ _, rfl⟩

/-- A call that fails leaves the session as it was, and is no load. -/
theorem called_of_error {e : StoreError}
    (failed : (s.store.call m.pipeline m.issued.project.1 now call).2 = .error e) :
    s.called m now call = s ∧ call.loads = false := by
  obtain ⟨same, keeps⟩ := call_of_error failed
  exact ⟨by rw [State.called, same], keeps⟩

/-- Looking at a project in vain drops no more than its kept preview. -/
theorem viewed_of_error {e : StoreError} (failed : s.view p projectId = .error e) :
    s.store.contains projectId = false ∧
      s.viewed p projectId = { s with previews := s.previews.erase projectId } := by
  cases kept : s.previews.get? projectId with
  | some preview =>
    by_cases present : s.store.contains projectId = true
    · simp [State.view, kept, present] at failed
    · exact ⟨by simpa using present, by simp [State.viewed, kept, present]⟩
  | none =>
    have absent : ¬ s.store.contains projectId = true := by
      intro present
      obtain ⟨built, made⟩ := assemble_of_contains p present
      simp [State.view, kept, made, Except.map] at failed
    refine ⟨by simpa using absent, ?_⟩
    rw [Keyed.erase_of_not_mem (Keyed.get?_eq_none_iff.mp kept)]
    simp [State.viewed, kept, assemble_of_not_contains p absent]

/-- An operation on the projects of a session that fails spares the session. -/
theorem spares_onStore {fault : Fault} (failed : (m.onStore now id call).2 = .error fault) :
    m.Spares now id (m.onStore now id call).1 := by
  cases found : m.used? now id with
  | none =>
    obtain ⟨e, used⟩ := onStore_of_not_used? call found
    rw [used]
    exact spares_of_not_used? found
  | some s =>
    rw [onStore_of_used? call found] at failed ⊢
    cases answer : (s.store.call m.pipeline m.issued.project.1 now call).2 with
    | ok a => simp [answer, Except.mapError] at failed
    | error e =>
      obtain ⟨unchanged, keeps⟩ := called_of_error answer
      simpa [unchanged, keeps] using spares_of_use found

/-- A preview that fails spares the session that was asked for it. -/
theorem spares_preview {id? : Option Text} {fault : Fault}
    (failed : (m.preview now projectId id?).2 = .error fault) :
    m.Spares now (Manager.previewId id?) (m.preview now projectId id?).1 := by
  cases found : m.used? now (Manager.previewId id?) with
  | none =>
    obtain ⟨e, used⟩ := preview_of_not_used? projectId found
    rw [used]
    exact spares_of_not_used? found
  | some s =>
    rw [preview_of_used? projectId found] at failed ⊢
    cases shown : s.view m.pipeline projectId with
    | ok result => simp [shown, Except.mapError] at failed
    | error e =>
      obtain ⟨absent, dropped⟩ := viewed_of_error shown
      have needed (other : Text) (present : s.store.contains other = true) :
          decide (other ≠ projectId) = true :=
        decide_eq_true fun same => by simp [same, absent] at present
      rw [dropped]
      exact spares_of_used? found _ needed

/-- An operation that fails spares the session that it was addressed to, and all others. -/
theorem spares_step (nodup : h.manager.sessions.keys.Nodup) (target : h.target? op = some id)
    (failed : (h.step now op).2.failed = true) :
    h.manager.Spares now id (h.step now op).1.manager := by
  cases op with
  | hold asked name =>
    obtain rfl := Option.some.inj target
    rcases use_cases h.manager now asked with ⟨s, found, used⟩ | ⟨missing, e, used⟩
    · simp [Host.step, used, Outcome.failed] at failed
    · simpa [Host.step, Host.become, used] using spares_of_not_used? missing
  | info asked =>
    obtain rfl := Option.some.inj target
    rcases use_cases h.manager now asked with ⟨s, found, used⟩ | ⟨missing, e, used⟩
    · simp [Host.step, Manager.info, used, Outcome.failed, Except.map] at failed
    · simpa [Host.step, Host.become, Manager.info, used] using spares_of_not_used? missing
  | call asked call =>
    obtain rfl := Option.some.inj target
    cases answer : (h.manager.onStore now asked call).2 with
    | ok a => simp [Host.step, answer, Outcome.failed] at failed
    | error fault => exact spares_onStore answer
  | preview projectId id? =>
    obtain rfl := Option.some.inj target
    cases shown : (h.manager.preview now projectId id?).2 with
    | ok result => simp [Host.step, shown, Outcome.failed] at failed
    | error fault => exact spares_preview shown
  | callHeld name call =>
    have held := target?_callHeld.mp target
    rcases callHeld_cases h now name call with
      ⟨owner, s, held', found, after⟩ | ⟨unreached, issued, after, given⟩
    · obtain rfl : owner = id := by simpa using held'.symm.trans held
      have answered : (h.step now (.callHeld name call)).2 = .answeredHeld (some
          (s.store.call h.manager.pipeline h.manager.issued.project.1 now call).2) := by
        simp [Host.step, Leases.call?, held, found, Manager.callStore]
      rw [answered] at failed
      cases answer : (s.store.call h.manager.pipeline h.manager.issued.project.1 now call).2 with
      | ok a => simp [answer, Outcome.failed] at failed
      | error e =>
        obtain ⟨unchanged, keeps⟩ := called_of_error answer
        have whole : h.manager.sessions.put owner s = h.manager.sessions :=
          (Keyed.put_eq_update nodup found fun s => s).trans (by simp [Keyed.update])
        rw [after, unchanged, whole, keeps]
        exact .same
    · simp [Host.step, Leases.call?, held, unreached id held, Outcome.failed] at failed
  | close closed =>
    by_cases present : h.manager.sessions.has closed = true
    · simp [Host.step, Manager.close, present, Outcome.failed] at failed
    · simpa [Host.step, Manager.close, present] using Manager.Spares.same
  | create | list | size | purge => simp [Host.target?] at target

/-! ## Projects of one session -/

/-- No session but the given one has the project, which has its id already. -/
structure Host.Confined (h : Host) (id projectId : Text) : Prop where
  given : h.manager.issued.GaveProject projectId
  away : ∀ other, other ≠ id → ∀ s, h.manager.sessions.get? other = some s →
    ¬ s.store.contains projectId = true

/-- Whatever is asked of the project in the session, the answer is that it is unknown. -/
structure Host.Unknown (h : Host) (id projectId : Text) : Prop where
  call : ∀ now session call, (h.manager.use now id).2 = .ok session →
    call.needs? = some projectId →
      (h.step now (.call id call)).2 = .answered (.error (.store (.unknownProject projectId)))
  callHeld : ∀ now session name call, h.manager.sessions.get? id = some session →
    h.leases.held.get? name = some (.live id) → call.needs? = some projectId →
      (h.step now (.callHeld name call)).2 = .answeredHeld (some (.error (.unknownProject projectId)))
  preview : ∀ now session id?, Manager.previewId id? = id → (h.manager.use now id).2 = .ok session →
    (h.step now (.preview projectId id?)).2 =
      .shown (.error (.store (.unknownProject projectId)))

theorem view_of_not_contains (absent : ¬ s.store.contains projectId = true) :
    s.view p projectId = .error (.unknownProject projectId) := by
  cases kept : s.previews.get? projectId with
  | some preview => simp [State.view, kept, absent]
  | none => simp [State.view, kept, assemble_of_not_contains p absent, Except.map]

theorem exists_view_of_contains (p : Pipeline) (present : s.store.contains projectId = true) :
    ∃ result, s.view p projectId = .ok result := by
  cases viewed : s.view p projectId with
  | ok result => exact ⟨result, rfl⟩
  | error e => simp [(viewed_of_error viewed).1] at present

theorem Host.Confined.unknown (confined : h.Confined id projectId) (other : key ≠ id) :
    h.Unknown key projectId := by
  have absent {now : Instant} {s : State} (used : h.manager.used? now key = some s) :
      ¬ s.store.contains projectId = true :=
    holds_of_used? (P := fun store => ¬ store.contains projectId = true)
      (by simp [ProjectStore.contains, Keyed.has]) (confined.away key other) used
  constructor
  case call =>
    intro now session call used needed
    rw [use_eq_ok_iff] at used
    rw [Host.step, onStore_of_used? call used,
      call_of_not_contains _ _ _ needed (absent used)]
    rfl
  case callHeld =>
    intro now session name call found held needed
    have missing := confined.away key other session found
    simp [Host.step, Leases.call?, held, found, Manager.callStore,
      call_of_not_contains _ _ _ needed missing]
  case preview =>
    rintro now session id? rfl used
    rw [use_eq_ok_iff] at used
    rw [Host.step, preview_of_used? projectId used, view_of_not_contains (absent used)]
    rfl

/-- No call makes a project of an id that was given out before. -/
theorem not_contains_call {store : ProjectStore} {fresh : Text} (p : Pipeline) (now : Instant)
    (call : ProjectStore.Call) (old : fresh ≠ projectId)
    (absent : ¬ store.contains projectId = true) :
    ¬ (store.call p fresh now call).1.contains projectId = true := by
  have turn := turn_call store p fresh now call
  generalize (store.call p fresh now call).1 = after at turn ⊢
  rw [contains_iff] at absent ⊢
  cases turn with
  | load project loads =>
    rw [Keyed.mem_keys_put]
    exact fun member => member.elim (fun same => old same.symm) absent
  | remove removed =>
    rw [Keyed.keys_erase]
    exact fun member => absent (List.mem_of_mem_filter member)
  | log logged log kept =>
    rw [ProjectStore.withLog, Keyed.keys_update]
    exact absent
  | nothing kept => exact absent

theorem Host.Confined.step (nodup : h.manager.sessions.keys.Nodup)
    (fresh : h.manager.issued.Fresh) (confined : h.Confined id projectId) :
    (h.step now op).1.Confined id projectId := by
  obtain ⟨sessions, issued, after, -, later⟩ := manager_step h now op
  -- A project that is loaded now has another id.
  have old : h.manager.issued.project.1 ≠ projectId :=
    fun same => fresh.not_gaveProject (same ▸ confined.given)
  refine ⟨by rw [after]; exact later.gaveProject confined.given, fun other away s found => ?_⟩
  refine holds_step (P := fun store => ¬ store.contains projectId = true) nodup
    (by simp [ProjectStore.contains, Keyed.has]) ?_ (confined.away other away) found
  exact fun store call absent => not_contains_call _ _ _ old absent

/-- A project that was not there before is in no session but the one that the operation was
addressed to. -/
theorem confined_of_new (nodup : h.manager.sessions.keys.Nodup) (coherent : h.Coherent past)
    (new : ¬ h.manager.issued.GaveProject projectId)
    (given : (h.step now op).1.manager.issued.GaveProject projectId) :
    (h.step now op).1.Confined ((h.target? op).getD defaultId) projectId := by
  refine ⟨given, fun other away s found present => ?_⟩
  have elsewhere : h.target? op ≠ some other := by
    intro target
    rw [target] at away
    exact away rfl
  rcases kept_of_target? nodup elsewhere found with before | empty
  · exact new ((coherent.sessions other s before).gaveProjects projectId present)
  · simp [empty, ProjectStore.contains, Keyed.has] at present

namespace Host.Reaches

/-- Every project has a session outside which it is not known. -/
theorem exists_owner (reached : start.Reaches past h) (empty : start.manager.sessions = [])
    (fresh : start.manager.issued.Fresh) (given : h.manager.issued.GaveProject projectId) :
    ∃ owner, h.Confined owner projectId := by
  induction reached with
  | start => exact ⟨defaultId, given, by simp [empty]⟩
  | @step past h reached now op ih =>
    obtain ⟨-, -, later⟩ := reached.rest
    by_cases before : h.manager.issued.GaveProject projectId
    · obtain ⟨owner, confined⟩ := ih before
      exact ⟨owner, confined.step (reached.nodup empty) (later.fresh fresh)⟩
    · exact ⟨_, confined_of_new (reached.nodup empty) (reached.coherent empty fresh) before given⟩

/-- A project is not known outside the session that has it. -/
theorem confined (reached : start.Reaches past h) (empty : start.manager.sessions = [])
    (fresh : start.manager.issued.Fresh) (found : h.manager.sessions.get? id = some s)
    (present : s.store.contains projectId = true) : h.Confined id projectId := by
  have coherent := reached.coherent empty fresh
  obtain ⟨owner, confined⟩ := reached.exists_owner empty fresh
    ((coherent.sessions id s found).gaveProjects projectId present)
  have own : id = owner := by
    by_contra away
    exact confined.away id away s found present
  exact own ▸ confined

end Host.Reaches

/-- Runs go on without other sessions coming to know the project. -/
theorem Host.Confined.of_reaches (confined : h.Confined id projectId)
    (nodup : h.manager.sessions.keys.Nodup) (fresh : h.manager.issued.Fresh)
    (reached : h.Reaches past h') : h'.Confined id projectId := by
  induction reached with
  | start => exact confined
  | step reached now op ih =>
    obtain ⟨-, -, later⟩ := reached.rest
    exact ih.step (reached.keeps_nodup nodup) (later.fresh fresh)

/-! ## Runs -/

/-- The project that was loaded. -/
def Outcome.loaded? : Outcome → Option Text
  | .answered (.ok (.loaded l)) => some l.projectId
  | .answeredHeld (some (.ok (.loaded l))) => some l.projectId
  | _ => none

theorem exists_of_outcome_loaded? {outcome : Outcome} (loaded : outcome.loaded? = some projectId) :
    ∃ l, l.projectId = projectId ∧ (outcome = .answered (.ok (.loaded l)) ∨
      outcome = .answeredHeld (some (.ok (.loaded l)))) := by
  unfold Outcome.loaded? at loaded
  split at loaded
  case h_1 l => exact ⟨l, Option.some.inj loaded, Or.inl rfl⟩
  case h_2 l => exact ⟨l, Option.some.inj loaded, Or.inr rfl⟩
  case h_3 => simp at loaded

section Loaded

variable {α : Type} {store : ProjectStore} {fresh : Text} {l : Loaded}

theorem query_ne_loaded {answer : α → ProjectStore.Answer} (other : ∀ a, answer a ≠ .loaded l)
    (result : Except StoreError α) : (store.query answer result).2 ≠ .ok (.loaded l) := by
  cases result with
  | ok a => exact fun same => other a (Except.ok.inj same)
  | error e => exact nofun

theorem change_ne_loaded {answer : α → ProjectStore.Answer} (other : ∀ a, answer a ≠ .loaded l)
    (result : Except StoreError (α × ProjectStore)) :
    (store.change answer result).2 ≠ .ok (.loaded l) := by
  cases result with
  | ok a => exact fun same => other a.1 (Except.ok.inj same)
  | error e => exact nofun

theorem contains_of_loaded (answered : (store.call p fresh now call).2 = .ok (.loaded l)) :
    (store.call p fresh now call).1.contains l.projectId = true := by
  cases call with
  | loadReply | loadArtifacts =>
    obtain rfl := ProjectStore.Answer.loaded.inj (Except.ok.inj answered)
    exact contains_iff.mpr (Keyed.mem_keys_put.mpr (Or.inl rfl))
  | remove | record | clearLog => exact absurd answered (change_ne_loaded nofun _)
  | artifacts | explanation | classify | assemble | projects | contains | events =>
    exact absurd answered (query_ne_loaded nofun _)

end Loaded

/-- A project that was loaded is in the session that the operation was addressed to. -/
theorem exists_of_loaded? (nodup : h.manager.sessions.keys.Nodup) (target : h.target? op = some id)
    (loaded : (h.step now op).2.loaded? = some projectId) :
    ∃ s, (h.step now op).1.manager.sessions.get? id = some s ∧
      s.store.contains projectId = true := by
  obtain ⟨l, rfl, answered⟩ := exists_of_outcome_loaded? loaded
  rw [get?_step nodup]
  cases op with
  | call asked call =>
    obtain rfl := Option.some.inj target
    cases found : h.manager.used? now asked with
    | none =>
      obtain ⟨e, used⟩ := onStore_of_not_used? call found
      simp [Host.step, used] at answered
    | some s =>
      refine ⟨s.called h.manager now call, by simp [Host.sessionAfter, found], ?_⟩
      refine contains_of_loaded ?_
      rw [Host.step, onStore_of_used? call found] at answered
      cases answer : (s.store.call h.manager.pipeline h.manager.issued.project.1 now call).2 with
      | ok a => simpa [answer, Except.mapError] using answered
      | error e => simp [answer, Except.mapError] at answered
  | callHeld name call =>
    have held := target?_callHeld.mp target
    cases found : h.manager.sessions.get? id with
    | none => simp [Host.step, Leases.call?, held, found] at answered
    | some s =>
      refine ⟨s.called h.manager now call, by simp [Host.sessionAfter, held, found], ?_⟩
      refine contains_of_loaded ?_
      simpa [Host.step, Leases.call?, held, found, Manager.callStore] using answered
  | hold asked name =>
    rcases use_cases h.manager now asked with ⟨s, -, used⟩ | ⟨-, e, used⟩ <;>
      simp [Host.step, used] at answered
  | close closed =>
    by_cases present : h.manager.sessions.has closed = true <;>
      simp [Host.step, Manager.close, present] at answered
  | info | preview => simp [Host.step] at answered
  | create | list | size | purge => simp [Host.target?] at target

/-- What is done in one session leaves all others as they are. When it fails, it spares its own
session too. A project that is in the session, or was loaded just now, is unknown in every other
session, now and after any further run. -/
theorem sessions_apart (now : Instant) (reached : start.Reaches past h)
    (empty : start.manager.sessions = []) (fresh : start.manager.issued.Fresh)
    (target : h.target? op = some id) :
    (∀ other, other ≠ id →
      (h.step now op).1.manager.sessions.get? other = h.manager.sessions.get? other) ∧
    ((h.step now op).2.failed = true → h.manager.Spares now id (h.step now op).1.manager) ∧
    (∀ projectId, (h.step now op).2.loaded? = some projectId →
      ∃ s, (h.step now op).1.manager.sessions.get? id = some s ∧
        s.store.contains projectId = true) ∧
    (∀ projectId s, (h.step now op).1.manager.sessions.get? id = some s →
      s.store.contains projectId = true → ∀ past' h', (h.step now op).1.Reaches past' h' →
        ∀ other, other ≠ id → h'.Unknown other projectId) := by
  have nodup := reached.nodup empty
  have next := reached.step now op
  obtain ⟨-, -, later⟩ := next.rest
  refine ⟨fun other away => get?_step_of_target? nodup target away, spares_step nodup target,
    fun projectId loaded => exists_of_loaded? nodup target loaded, ?_⟩
  intro projectId s found present past' h' run other away
  have confined := next.confined empty fresh found present
  exact (confined.of_reaches (next.nodup empty) (later.fresh fresh) run).unknown away

/-- A client that looks for a project of another client's session is told that it is unknown, which
changes nothing but the time of its own session. -/
theorem sessions_apart_of_two_clients :
    let start : Host := {}
    let first := start.manager.issued.sessionId 1
    let second := start.manager.issued.sessionId 2
    let project := start.manager.issued.projectId 1
    let clients := ((start.step 0 (.create [])).1.step 1 (.create [])).1
    let load : Operation := .call first (.loadReply "one")
    let loaded := (clients.step 2 load).1
    let look : Operation := .preview project (some second)
    (clients.step 2 load).2.loaded? = some project ∧
      (loaded.step 3 look).2 = .shown (.error (.store (.unknownProject project))) ∧
      (loaded.step 3 look).1.manager.sessions.get? first = loaded.manager.sessions.get? first ∧
      loaded.manager.Spares 3 second (loaded.step 3 look).1.manager := by
  intro start first second project clients load loaded look
  have before : start.Reaches _ clients := .step (.step .start 0 _) 1 _
  have after : start.Reaches _ loaded := before.step 2 load
  have apart : first ≠ second := fun same => absurd (fresh_hexadecimal.session same) (by decide)
  have given : (clients.step 2 load).2.loaded? = some project := by decide
  have loads : clients.target? load = some first := rfl
  obtain ⟨-, -, there, unknown⟩ := sessions_apart 2 before rfl fresh_hexadecimal loads
  obtain ⟨s, found, present⟩ := there project given
  have usable : (loaded.manager.used? 3 second).isSome = true := by decide
  obtain ⟨session, used⟩ := Option.isSome_iff_exists.mp usable
  have told : (loaded.step 3 look).2 = .shown (.error (.store (.unknownProject project))) :=
    (unknown project s found present _ loaded .start second apart.symm).preview 3 session
      (some second) rfl (use_eq_ok_iff.mpr used)
  have looks : loaded.target? look = some second := rfl
  obtain ⟨others, spares, -, -⟩ := sessions_apart 3 after rfl fresh_hexadecimal looks
  have failed : (loaded.step 3 look).2.failed = true := by
    rw [told]
    rfl
  exact ⟨given, told, others first apart, spares failed⟩

end SandboxPreview.Session
