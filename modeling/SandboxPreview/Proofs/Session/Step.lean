/-
# Steps of a session manager

A client of a session manager asks for one operation at a time. It may take the store of a session
for a single call, or hold on to it and call on it later. What becomes of one session in a step is
said without the others: every operation touches a single session, and a purge drops each session
by its own deadline.

## Main definitions

* `Host`, `Operation`, `Host.step`: the manager with the stores that are held, and its steps;
* `Manager.used?`: the session of an id when it is used now;
* `Host.sessionAfter`: the session of an id after a step.

## Main results

* `get?_step`: a step does to every session what `Host.sessionAfter` says;
* `becomes_step`: where a session that is there after a step comes from;
* `holds_step`: what calls keep holds of the store of a session after a step;
* `resolved_step`: an operation finds its session exactly when it can be used.
-/
import SandboxPreview.Proofs.Keyed
import SandboxPreview.Session.Lease

namespace SandboxPreview.Session

/-- A manager, and the stores of its sessions that clients hold on to. -/
structure Host where
  manager : Manager := {}
  leases : Leases := {}

/-- What a client asks for. -/
inductive Operation where
  | create (metadata : Metadata)
  /-- The store of a session is held under a name. -/
  | hold (id name : Text)
  /-- The store of a session is taken for one call. -/
  | call (id : Text) (call : ProjectStore.Call)
  /-- A call on a store that is held. -/
  | callHeld (name : Text) (call : ProjectStore.Call)
  | info (id : Text)
  | preview (projectId : Text) (id? : Option Text)
  | close (id : Text)
  | list
  | size
  | purge

/-- What a client is told. -/
inductive Outcome where
  | created (info : Info)
  | held (result : Except SessionError Unit)
  | answered (result : Except Fault ProjectStore.Answer)
  /-- There is no answer when the name is not held. -/
  | answeredHeld (result : Option (Except StoreError ProjectStore.Answer))
  | told (result : Except SessionError Info)
  | shown (result : Except Fault (Preview × Bool))
  | closed (result : Except SessionError Unit)
  | listed (infos : List Info)
  | counted (number : Nat)

/-- The session that an operation asks for, which is used by that. -/
def Operation.asksFor : Operation → Option Text
  | .hold id _ => some id
  | .call id _ => some id
  | .info id => some id
  | .preview _ id? => some (Manager.previewId id?)
  | _ => none

/-- The operation found the session that it asked for. What it wanted there may be missing. -/
def Outcome.resolved : Outcome → Bool
  | .held (.ok _) => true
  | .answered (.error (.session _)) => false
  | .answered _ => true
  | .told (.ok _) => true
  | .shown (.error (.session _)) => false
  | .shown _ => true
  | _ => false

namespace Host

/-- The manager goes over to another state. The sessions that end by that leave their stores to
those who hold them. -/
def become (h : Host) (after : Manager) : Host :=
  { manager := after, leases := h.leases.settle h.manager after }

/-- One operation at an instant. -/
def step (h : Host) (now : Instant) : Operation → Host × Outcome
  | .create metadata =>
    let (info, after) := h.manager.create now metadata
    (h.become after, .created info)
  | .hold id name =>
    let (after, found) := h.manager.use now id
    let next := h.become after
    match found with
    | .ok _ => ({ next with leases := next.leases.hold name id }, .held (.ok ()))
    | .error e => (next, .held (.error e))
  | .call id call =>
    let (after, answer) := h.manager.onStore now id call
    (h.become after, .answered answer)
  | .callHeld name call =>
    match h.leases.call? h.manager now name call with
    | some (leases, after, answer) => (⟨after, leases⟩, .answeredHeld (some answer))
    | none => (h, .answeredHeld none)
  | .info id =>
    let (after, found) := h.manager.info now id
    (h.become after, .told found)
  | .preview projectId id? =>
    let (after, found) := h.manager.preview now projectId id?
    (h.become after, .shown found)
  | .close id =>
    match h.manager.close id with
    | .ok after => (h.become after, .closed (.ok ()))
    | .error e => (h, .closed (.error e))
  | .list => (h, .listed (h.manager.list now))
  | .size => (h, .counted (h.manager.size now))
  | .purge =>
    let (count, after) := h.manager.purge now
    (h.become after, .counted count)

end Host

/-! ## Using a session -/

section Use

variable {m : Manager} {now : Instant} {id key : Text} {s : State}

/-- The session of an id when it is used now, with its deadline pushed back. -/
def Manager.used? (m : Manager) (now : Instant) (id : Text) : Option State :=
  match m.sessions.get? id with
  | none =>
    if id = defaultId then some { deadline := none, createdAt := now, lastAccessedAt := now }
    else none
  | some session =>
    if session.expired now then none
    else
      let deadline := if id = defaultId then session.deadline else some (now + m.timeToLive)
      some { session with deadline, lastAccessedAt := now }

/-- A session that can be used was there and had not expired, or it is the shared one and new. -/
theorem used?_cases (found : m.used? now id = some s) :
    (∃ old, m.sessions.get? id = some old ∧ old.expired now = false ∧
      s = { old with
        deadline := if id = defaultId then old.deadline else some (now + m.timeToLive)
        lastAccessedAt := now }) ∨
    (m.sessions.get? id = none ∧ id = defaultId ∧
      s = { deadline := none, createdAt := now, lastAccessedAt := now }) := by
  rw [Manager.used?] at found
  cases present : m.sessions.get? id with
  | none =>
    rw [present] at found
    by_cases isDefault : id = defaultId
    · exact Or.inr ⟨rfl, isDefault, (Option.some.inj ((if_pos isDefault).symm.trans found)).symm⟩
    · simp [isDefault] at found
  | some old =>
    rw [present] at found
    by_cases late : old.expired now = true
    · simp [late] at found
    · exact Or.inl ⟨old, rfl, by simpa using late,
        (Option.some.inj ((if_neg late).symm.trans found)).symm⟩

/-- Using a session finds it, or it does not, and changes no other session. -/
theorem use_cases (m : Manager) (now : Instant) (id : Text) :
    (∃ s, m.used? now id = some s ∧
      m.use now id = ({ m with sessions := m.sessions.put id s }, .ok s)) ∨
    (m.used? now id = none ∧ ∃ e, m.use now id =
      ({ m with sessions := m.sessions.erase id }, .error e)) := by
  rw [Manager.used?, Manager.use]
  cases found : m.sessions.get? id with
  | none =>
    by_cases isDefault : id = defaultId
    · simp [isDefault]
    · -- A session that is not there is erased all the same, which changes nothing.
      have absent : m.sessions.erase id = m.sessions :=
        Keyed.erase_of_not_mem (Keyed.get?_eq_none_iff.mp found)
      simp [isDefault, absent]
  | some session =>
    by_cases late : session.expired now = true
    · simp [late]
    · simp [late]

theorem use_of_used? (found : m.used? now id = some s) :
    m.use now id = ({ m with sessions := m.sessions.put id s }, .ok s) := by
  rcases use_cases m now id with ⟨s', found', used⟩ | ⟨missing, -⟩
  · rw [found, Option.some.injEq] at found'
    rw [found', used]
  · simp [found] at missing

theorem use_of_not_used? (missing : m.used? now id = none) :
    ∃ e, m.use now id = ({ m with sessions := m.sessions.erase id }, .error e) := by
  rcases use_cases m now id with ⟨s', found', -⟩ | ⟨-, used⟩
  · simp [missing] at found'
  · exact used

theorem use_eq_ok_iff : (m.use now id).2 = .ok s ↔ m.used? now id = some s := by
  rcases use_cases m now id with ⟨s', found, used⟩ | ⟨missing, e, used⟩
  · simp [found, used]
  · simp [missing, used]

@[simp] theorem get?_use :
    (m.use now id).1.sessions.get? key =
      if key = id then m.used? now id else m.sessions.get? key := by
  rcases use_cases m now id with ⟨s', found, used⟩ | ⟨missing, e, used⟩
  · simp [found, used]
  · simp [missing, used]

end Use

/-! ## One session in a step -/

/-- A session as it is made. -/
def State.made (m : Manager) (now : Instant) (metadata : Metadata) : State :=
  { deadline := some (now + m.timeToLive), metadata, createdAt := now, lastAccessedAt := now }

/-- The session after a call on its store. -/
def State.called (s : State) (m : Manager) (now : Instant) (call : ProjectStore.Call) : State :=
  { s with store := (s.store.call m.pipeline m.issued.project.1 now call).1 }

/-- The session after a project was looked at. -/
def State.viewed (s : State) (p : Pipeline) (projectId : Text) : State :=
  match s.previews.get? projectId with
  | some _ =>
    if s.store.contains projectId then s
    else { s with previews := s.previews.erase projectId }
  | none =>
    match s.store.assemble p projectId with
    | .error _ => s
    | .ok built => { s with previews := s.previews.put projectId built }

/-- What looking at a project of the session gives. -/
def State.view (s : State) (p : Pipeline) (projectId : Text) : Except StoreError (Preview × Bool) :=
  match s.previews.get? projectId with
  | some kept =>
    if s.store.contains projectId then .ok (kept, true) else .error (.unknownProject projectId)
  | none => (s.store.assemble p projectId).map (·, false)

/-- The session of an id after a step. -/
def Host.sessionAfter (h : Host) (now : Instant) (op : Operation) (key : Text) : Option State :=
  let m := h.manager
  let before := m.sessions.get? key
  match op with
  | .create metadata => if key = m.takeId.1 then some (.made m now metadata) else before
  | .hold id _ => if key = id then m.used? now id else before
  | .call id call =>
    if key = id then (m.used? now id).map fun s => s.called m now call else before
  | .callHeld name call =>
    if h.leases.held.get? name = some (.live key) then before.map fun s => s.called m now call
    else before
  | .info id => if key = id then m.used? now id else before
  | .preview projectId id? =>
    if key = Manager.previewId id? then
      (m.used? now (Manager.previewId id?)).map fun s => s.viewed m.pipeline projectId
    else before
  | .close id => if key = id then none else before
  | .list => before
  | .size => before
  | .purge => before.filter fun s => !s.expired now

section Step

variable {h : Host} {m : Manager} {now : Instant} {op : Operation} {id key : Text} {s : State}

theorem previewId_some (nonempty : id ≠ []) : Manager.previewId (some id) = id := by
  cases id with
  | nil => exact absurd rfl nonempty
  | cons c id => rfl

theorem preview_of_used? {id? : Option Text} (projectId : Text)
    (found : m.used? now (Manager.previewId id?) = some s) :
    m.preview now projectId id? =
      ({ m with
          sessions := m.sessions.put (Manager.previewId id?) (s.viewed m.pipeline projectId) },
        (s.view m.pipeline projectId).mapError .store) := by
  rw [Manager.preview, use_of_used? found, State.viewed, State.view]
  cases kept : s.previews.get? projectId with
  | some preview =>
    by_cases present : s.store.contains projectId = true
    · simp [kept, present, Except.mapError]
    · simp [kept, present, Except.mapError, Keyed.put_put]
  | none =>
    cases built : s.store.assemble m.pipeline projectId with
    | error e => simp [kept, built, Except.mapError, Except.map]
    | ok preview => simp [kept, built, Except.mapError, Except.map, Keyed.put_put]

theorem preview_of_not_used? {id? : Option Text} (projectId : Text)
    (missing : m.used? now (Manager.previewId id?) = none) :
    ∃ e, m.preview now projectId id? =
      ({ m with sessions := m.sessions.erase (Manager.previewId id?) }, .error (.session e)) := by
  obtain ⟨e, used⟩ := use_of_not_used? missing
  exact ⟨e, by simp [Manager.preview, used]⟩

theorem onStore_of_used? (call : ProjectStore.Call) (found : m.used? now id = some s) :
    m.onStore now id call =
      ({ m with
          sessions := m.sessions.put id (s.called m now call)
          issued := if call.loads then m.issued.project.2 else m.issued },
        (s.store.call m.pipeline m.issued.project.1 now call).2.mapError .store) := by
  rw [Manager.onStore, use_of_used? found]
  simp [Manager.callStore, State.called, Keyed.put_put]

theorem onStore_of_not_used? (call : ProjectStore.Call) (missing : m.used? now id = none) :
    ∃ e, m.onStore now id call =
      ({ m with sessions := m.sessions.erase id }, .error (.session e)) := by
  obtain ⟨e, used⟩ := use_of_not_used? missing
  exact ⟨e, by simp [Manager.onStore, used]⟩

/-- A held store belongs to a session that lives, or its calls do not reach any session. -/
theorem callHeld_cases (h : Host) (now : Instant) (name : Text) (call : ProjectStore.Call) :
    (∃ id s, h.leases.held.get? name = some (.live id) ∧ h.manager.sessions.get? id = some s ∧
      (h.step now (.callHeld name call)).1.manager =
        { h.manager with
          sessions := h.manager.sessions.put id (s.called h.manager now call)
          issued := if call.loads then h.manager.issued.project.2 else h.manager.issued }) ∨
    ((∀ id, h.leases.held.get? name = some (.live id) → h.manager.sessions.get? id = none) ∧
      ∃ issued, (h.step now (.callHeld name call)).1.manager = { h.manager with issued } ∧
        (issued = h.manager.issued ∨ issued = h.manager.issued.project.2)) := by
  rw [Host.step, Leases.call?]
  cases held : h.leases.held.get? name with
  | none => exact Or.inr ⟨by simp, h.manager.issued, rfl, Or.inl rfl⟩
  | some holding =>
    cases holding with
    | live id =>
      cases found : h.manager.sessions.get? id with
      | none =>
        exact Or.inr ⟨by simpa using found, h.manager.issued, by simp [found], Or.inl rfl⟩
      | some s => exact Or.inl ⟨id, s, rfl, found, by simp [found, Manager.callStore, State.called]⟩
    | ended number =>
      -- The store outlives its session, and what is loaded into it still takes a new id.
      refine Or.inr ⟨by simp, ?_⟩
      cases found : h.leases.ended[number]? with
      | none => exact ⟨h.manager.issued, by simp [found], Or.inl rfl⟩
      | some store =>
        refine ⟨if call.loads then h.manager.issued.project.2 else h.manager.issued,
          by simp [found], ?_⟩
        by_cases loads : call.loads = true
        · exact Or.inr (if_pos loads)
        · exact Or.inl (if_neg loads)

/-- An operation finds its session exactly when it can be used. -/
theorem resolved_step (asked : op.asksFor = some id) :
    (h.step now op).2.resolved = (h.manager.used? now id).isSome := by
  cases op with
  | hold id' name =>
    obtain rfl : id' = id := by simpa [Operation.asksFor] using asked
    rcases use_cases h.manager now id' with ⟨s, found, used⟩ | ⟨missing, e, used⟩
    · simp [Host.step, Outcome.resolved, used, found]
    · simp [Host.step, Outcome.resolved, used, missing]
  | call id' call =>
    obtain rfl : id' = id := by simpa [Operation.asksFor] using asked
    cases found : h.manager.used? now id' with
    | some s =>
      rw [Host.step, onStore_of_used? call found]
      cases (s.store.call h.manager.pipeline h.manager.issued.project.1 now call).2 <;> rfl
    | none =>
      obtain ⟨e, used⟩ := onStore_of_not_used? call found
      simp [Host.step, Outcome.resolved, used]
  | info id' =>
    obtain rfl : id' = id := by simpa [Operation.asksFor] using asked
    rcases use_cases h.manager now id' with ⟨s, found, used⟩ | ⟨missing, e, used⟩
    · simp [Host.step, Manager.info, Outcome.resolved, Except.map, used, found]
    · simp [Host.step, Manager.info, Outcome.resolved, Except.map, used, missing]
  | preview projectId id? =>
    obtain rfl : Manager.previewId id? = id := by simpa [Operation.asksFor] using asked
    cases found : h.manager.used? now (Manager.previewId id?) with
    | some s =>
      rw [Host.step, preview_of_used? projectId found]
      cases s.view h.manager.pipeline projectId <;> rfl
    | none =>
      obtain ⟨e, used⟩ := preview_of_not_used? projectId found
      simp [Host.step, Outcome.resolved, used]
  | create | callHeld | close | list | size | purge => simp [Operation.asksFor] at asked

/-- A step does to every session what is said for it alone. -/
theorem get?_step (nodup : h.manager.sessions.keys.Nodup) :
    (h.step now op).1.manager.sessions.get? key = h.sessionAfter now op key := by
  cases op with
  | create metadata => exact Keyed.get?_put h.manager.sessions h.manager.takeId.1 key _
  | hold id name =>
    rcases use_cases h.manager now id with ⟨s, found, used⟩ | ⟨missing, e, used⟩
    · simp [Host.step, Host.become, Host.sessionAfter, used, found]
    · simp [Host.step, Host.become, Host.sessionAfter, used, missing]
  | call id call =>
    cases found : h.manager.used? now id with
    | some s => simp [Host.step, Host.become, Host.sessionAfter, onStore_of_used? call found, found]
    | none =>
      obtain ⟨e, used⟩ := onStore_of_not_used? call found
      simp [Host.step, Host.become, Host.sessionAfter, used, found]
  | callHeld name call =>
    rcases callHeld_cases h now name call with
      ⟨id, s, held, found, after⟩ | ⟨unreached, issued, after, -⟩
    · by_cases same : key = id
      · simp [Host.sessionAfter, after, held, same, found]
      · have other : id ≠ key := Ne.symm same
        simp [Host.sessionAfter, after, held, same, other]
    · by_cases held : h.leases.held.get? name = some (.live key)
      · simp [Host.sessionAfter, after, held, unreached key held]
      · simp [Host.sessionAfter, after, held]
  | info id =>
    simp [Host.step, Host.become, Host.sessionAfter, Manager.info]
  | preview projectId id? =>
    cases found : h.manager.used? now (Manager.previewId id?) with
    | some s =>
      by_cases same : key = Manager.previewId id?
      · simp [Host.step, Host.become, Host.sessionAfter, preview_of_used? projectId found, same,
          found]
      · simp [Host.step, Host.become, Host.sessionAfter, preview_of_used? projectId found, same]
    | none =>
      obtain ⟨e, used⟩ := preview_of_not_used? projectId found
      by_cases same : key = Manager.previewId id?
      · simp [Host.step, Host.become, Host.sessionAfter, used, same, found]
      · simp [Host.step, Host.become, Host.sessionAfter, used, same]
  | close id =>
    -- Closing a session that is not there is refused; it is not there afterwards either.
    by_cases present : h.manager.sessions.has id = true
    · simp [Host.step, Host.become, Host.sessionAfter, Manager.close, present]
    · have absent : h.manager.sessions.get? id = none := by simpa [Keyed.has] using present
      by_cases same : key = id
      · simp [Host.step, Host.sessionAfter, Manager.close, present, same, absent]
      · simp [Host.step, Host.sessionAfter, Manager.close, present, same]
  | list => rfl
  | size => rfl
  | purge => exact Keyed.get?_filter nodup (fun s => !s.expired now) key

/-- Where a session that is there after a step comes from. -/
inductive Host.Becomes (h : Host) (now : Instant) (id : Text) : Operation → State → Prop
  | made {metadata : Metadata} (new : id = h.manager.takeId.1) :
      Becomes h now id (.create metadata) (.made h.manager now metadata)
  | held {name : Text} {s : State} (found : h.manager.used? now id = some s) :
      Becomes h now id (.hold id name) s
  | called {call : ProjectStore.Call} {s : State} (found : h.manager.used? now id = some s) :
      Becomes h now id (.call id call) (s.called h.manager now call)
  | calledHeld {name : Text} {call : ProjectStore.Call} {s : State}
      (held : h.leases.held.get? name = some (.live id))
      (found : h.manager.sessions.get? id = some s) :
      Becomes h now id (.callHeld name call) (s.called h.manager now call)
  | told {s : State} (found : h.manager.used? now id = some s) : Becomes h now id (.info id) s
  | viewed {projectId : Text} {id? : Option Text} {s : State} (same : Manager.previewId id? = id)
      (found : h.manager.used? now id = some s) :
      Becomes h now id (.preview projectId id?) (s.viewed h.manager.pipeline projectId)
  /-- The operation does not ask for the session. -/
  | kept {op : Operation} {s : State} (other : op.asksFor ≠ some id)
      (found : h.manager.sessions.get? id = some s) : Becomes h now id op s

theorem becomes_step (nodup : h.manager.sessions.keys.Nodup)
    (found : (h.step now op).1.manager.sessions.get? id = some s) : h.Becomes now id op s := by
  rw [get?_step nodup] at found
  cases op with
  | create metadata =>
    by_cases new : id = h.manager.takeId.1
    · obtain rfl := Option.some.inj ((if_pos new).symm.trans found)
      exact .made new
    · exact .kept nofun ((if_neg new).symm.trans found)
  | hold id' name =>
    by_cases same : id = id'
    · subst same
      exact .held ((if_pos rfl).symm.trans found)
    · exact .kept (by simpa [Operation.asksFor] using Ne.symm same) ((if_neg same).symm.trans found)
  | call id' call =>
    by_cases same : id = id'
    · subst same
      obtain ⟨used, here, rfl⟩ := Option.map_eq_some_iff.mp ((if_pos rfl).symm.trans found)
      exact .called here
    · exact .kept (by simpa [Operation.asksFor] using Ne.symm same) ((if_neg same).symm.trans found)
  | callHeld name call =>
    by_cases held : h.leases.held.get? name = some (.live id)
    · obtain ⟨old, here, rfl⟩ := Option.map_eq_some_iff.mp ((if_pos held).symm.trans found)
      exact .calledHeld held here
    · exact .kept nofun ((if_neg held).symm.trans found)
  | info id' =>
    by_cases same : id = id'
    · subst same
      exact .told ((if_pos rfl).symm.trans found)
    · exact .kept (by simpa [Operation.asksFor] using Ne.symm same) ((if_neg same).symm.trans found)
  | preview projectId id? =>
    by_cases same : id = Manager.previewId id?
    · subst same
      obtain ⟨used, here, rfl⟩ := Option.map_eq_some_iff.mp ((if_pos rfl).symm.trans found)
      exact .viewed rfl here
    · exact .kept (by simpa [Operation.asksFor] using Ne.symm same) ((if_neg same).symm.trans found)
  | close closed =>
    by_cases same : id = closed
    · simp [Host.sessionAfter, same] at found
    · exact .kept nofun ((if_neg same).symm.trans found)
  | list => exact .kept nofun found
  | size => exact .kept nofun found
  | purge => exact .kept nofun (Option.mem_filter_iff.mp found).1

/-! ## Stores in a step -/

@[simp] theorem viewed_store (p : Pipeline) (projectId : Text) :
    (s.viewed p projectId).store = s.store := by
  rw [State.viewed]
  split
  · split <;> rfl
  · split <;> rfl

/-- A session that is used has the store that it had, or it is new and has no projects. -/
theorem store_of_used? (found : m.used? now id = some s) :
    (∃ old, m.sessions.get? id = some old ∧ s.store = old.store) ∨ s.store = {} := by
  rcases used?_cases found with ⟨old, present, -, rfl⟩ | ⟨-, -, rfl⟩
  · exact Or.inl ⟨old, present, rfl⟩
  · exact Or.inr rfl

theorem holds_of_used? {P : ProjectStore → Prop} (empty : P {})
    (before : ∀ s, m.sessions.get? id = some s → P s.store) (found : m.used? now id = some s) :
    P s.store := by
  rcases store_of_used? found with ⟨old, present, same⟩ | new
  · exact same ▸ before old present
  · exact new ▸ empty

/-- What holds of the empty store and is kept by calls goes on to hold of the store of a session. -/
theorem holds_step {P : ProjectStore → Prop} (nodup : h.manager.sessions.keys.Nodup) (empty : P {})
    (called : ∀ store call, P store →
      P (store.call h.manager.pipeline h.manager.issued.project.1 now call).1)
    (before : ∀ s, h.manager.sessions.get? id = some s → P s.store)
    (found : (h.step now op).1.manager.sessions.get? id = some s) : P s.store := by
  cases becomes_step nodup found with
  | made new => exact empty
  | held here => exact holds_of_used? empty before here
  | called here => exact called _ _ (holds_of_used? empty before here)
  | calledHeld held here => exact called _ _ (before _ here)
  | told here => exact holds_of_used? empty before here
  | viewed same here =>
    rw [viewed_store]
    exact holds_of_used? empty before here
  | kept other here => exact before s here

end Step

end SandboxPreview.Session
