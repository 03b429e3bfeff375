/-
# Lifetimes of sessions

Whether a client's session is there can be read off the past: it was made, it was not closed after
that, and less than the time to live has gone by since it was last made or used. It does not matter
when the expired sessions are dropped, by a purge or because they are asked for.

## Main definitions

* `Lives`: the session is there, as told by the past;
* `createdIds`: the ids of the sessions that were made, in order.

## Main results

* `alive_step`: what one step does to the life of a session;
* `alive_iff_lives`: the sessions that are there are those that live by the past;
* `lifetime`: what clients see of that.
-/
import SandboxPreview.Proofs.Session.Run

namespace SandboxPreview.Session

variable {h start : Host} {m : Manager} {now later : Instant} {op : Operation} {id key : Text}
  {s : State} {past : List Event} {timeToLive : Int}

/-! ## Lives by the past -/

/-- Of the events at which the session was made or closed, the last is one at which it was made. -/
def isOpen (past : List Event) (id : Text) : Bool :=
  (past.find? fun e => e.creates id || e.closes id).any fun e => e.creates id

/-- The last instant at which the session was made or used. -/
def lastUse? (past : List Event) (id : Text) : Option Instant :=
  (past.find? fun e => e.creates id || e.uses id).map Event.now

/-- The session was made and not closed since, and less than the time to live has gone by since it
was last made or used. -/
def Lives (past : List Event) (timeToLive : Int) (id : Text) (now : Instant) : Prop :=
  isOpen past id = true ∧ ∃ used, lastUse? past id = some used ∧ now < used + timeToLive

instance : Decidable (Lives past timeToLive id now) :=
  match found : lastUse? past id with
  | none => isFalse fun ⟨_, _, used, _⟩ => by simp [found] at used
  | some used =>
    decidable_of_iff (isOpen past id = true ∧ now < used + timeToLive) (by simp [Lives, found])

/-- The ids of the sessions that were made, in the order in which they were. -/
def createdIds (past : List Event) : List Text := past.reverse.filterMap (·.outcome.madeId?)

theorem createdIds_cons (e : Event) (past : List Event) :
    createdIds (e :: past) = createdIds past ++ e.outcome.madeId?.toList := by
  rw [createdIds, List.reverse_cons, List.filterMap_append, createdIds]
  cases made : e.outcome.madeId? with
  | none => simp [made]
  | some id => simp [made]

/-! ## One step -/

/-- The session is there and has not expired. -/
def Manager.alive (m : Manager) (now : Instant) (id : Text) : Bool :=
  (m.sessions.get? id).any fun s => !s.expired now

@[simp] theorem called_deadline (call : ProjectStore.Call) :
    (s.called m now call).deadline = s.deadline := rfl

@[simp] theorem called_expired (call : ProjectStore.Call) :
    (s.called m now call).expired later = s.expired later := rfl

@[simp] theorem viewed_deadline (p : Pipeline) (projectId : Text) :
    (s.viewed p projectId).deadline = s.deadline := by
  rw [State.viewed]
  split
  · split <;> rfl
  · split <;> rfl

theorem expired_of_deadline {deadline : Instant} (found : s.deadline = some deadline) :
    s.expired now = decide (deadline ≤ now) := by
  rw [State.expired, found]

/-- A session that has expired stays so. -/
theorem expired_of_le (late : s.expired now = true) (le : now ≤ later) :
    s.expired later = true := by
  rw [State.expired] at late ⊢
  cases found : s.deadline with
  | none => simp [found] at late
  | some deadline =>
    simp only [found, decide_eq_true_eq] at late ⊢
    exact Int.le_trans late le

theorem alive_of_le (alive : m.alive later id = true) (le : now ≤ later) :
    m.alive now id = true := by
  rw [Manager.alive] at alive ⊢
  cases found : m.sessions.get? id with
  | none => simp [found] at alive
  | some s =>
    simp only [found, Option.any_some, Bool.not_eq_true', Bool.eq_false_iff, ne_eq] at alive ⊢
    -- Had it expired by now, it would also have expired later.
    exact fun late => alive (expired_of_le late le)

/-- A client's session can be used exactly when it is alive. -/
theorem isSome_used? (client : id ≠ defaultId) : (m.used? now id).isSome = m.alive now id := by
  rw [Manager.used?, Manager.alive]
  cases m.sessions.get? id with
  | none => simp [client]
  | some s => by_cases late : s.expired now = true <;> simp [late]

theorem deadline_of_used? (client : id ≠ defaultId) (found : m.used? now id = some s) :
    s.deadline = some (now + m.timeToLive) := by
  rcases used?_cases found with ⟨old, -, -, rfl⟩ | ⟨-, isDefault, -⟩
  · exact if_neg client
  · exact absurd isDefault client

/-- An operation that asks for a session gives it the deadline that using it gives, whatever else
it does there, and does nothing to any other session. -/
theorem sessionAfter_of_asksFor (h : Host) (now : Instant) (asked : op.asksFor = some id) :
    ∃ f : State → State, (∀ s, (f s).deadline = s.deadline) ∧ ∀ key,
      h.sessionAfter now op key =
        if key = id then (h.manager.used? now id).map f else h.manager.sessions.get? key := by
  cases op with
  | hold id' name =>
    obtain rfl : id' = id := by simpa [Operation.asksFor] using asked
    exact ⟨fun s => s, fun s => rfl, fun key => by simp [Host.sessionAfter]⟩
  | call id' call =>
    obtain rfl : id' = id := by simpa [Operation.asksFor] using asked
    exact ⟨fun s => s.called h.manager now call, fun s => rfl, fun key => rfl⟩
  | info id' =>
    obtain rfl : id' = id := by simpa [Operation.asksFor] using asked
    exact ⟨fun s => s, fun s => rfl, fun key => by simp [Host.sessionAfter]⟩
  | preview projectId id? =>
    obtain rfl : Manager.previewId id? = id := by simpa [Operation.asksFor] using asked
    exact ⟨fun s => s.viewed h.manager.pipeline projectId, fun s => viewed_deadline _ _,
      fun key => rfl⟩
  | create | callHeld | close | list | size | purge => simp [Operation.asksFor] at asked

/-- A session with the deadline of a used one lives for the time to live. -/
theorem any_not_expired_of_used? (client : id ≠ defaultId) {f : State → State}
    (keeps : ∀ s, (f s).deadline = s.deadline) :
    ((m.used? now id).map f).any (fun s => !s.expired later) =
      ((m.used? now id).isSome && decide (later < now + m.timeToLive)) := by
  cases found : m.used? now id with
  | none => rfl
  | some s =>
    have deadline := (keeps s).trans (deadline_of_used? client found)
    rw [Option.map_some, Option.any_some, Option.isSome_some, Bool.true_and,
      expired_of_deadline deadline, ← decide_not, decide_eq_decide, Int.not_le]

/-- Asking for a client's session lets it live for the time to live when it is there. -/
theorem alive_step_of_asksFor (nodup : h.manager.sessions.keys.Nodup) (client : id ≠ defaultId)
    (le : now ≤ later) {asked : Text} (asks : op.asksFor = some asked) :
    (h.step now op).1.manager.alive later id =
      if (h.event now op).uses id then decide (later < now + h.manager.timeToLive)
      else h.manager.alive later id := by
  obtain ⟨f, keeps, after⟩ := sessionAfter_of_asksFor h now asks
  rw [Manager.alive, get?_step nodup, after]
  by_cases same : id = asked
  · subst same
    rw [if_pos rfl, any_not_expired_of_used? client keeps]
    by_cases used : (h.manager.used? now id).isSome = true
    · have uses : (h.event now op).uses id = true := uses_event.mpr ⟨asks, used⟩
      simp [uses, used]
    · have unused : ¬ (h.event now op).uses id = true := fun uses => used (uses_event.mp uses).2
      -- What has expired now will not live later.
      have gone : ¬ h.manager.alive later id = true := fun alive =>
        used (isSome_used? client ▸ alive_of_le alive le)
      simp [unused, used, gone]
  · have unused : (h.event now op).uses id = false :=
      uses_eq_false fun other => same (Option.some.inj (other.symm.trans asks))
    rw [if_neg same]
    simp [unused, Manager.alive]

/-- A session that is made lives for the time to live. -/
theorem alive_step_create (nodup : h.manager.sessions.keys.Nodup) (metadata : Metadata) :
    (h.step now (.create metadata)).1.manager.alive later id =
      if id = h.manager.takeId.1 then decide (later < now + h.manager.timeToLive)
      else h.manager.alive later id := by
  rw [Manager.alive, get?_step nodup, Host.sessionAfter]
  by_cases new : id = h.manager.takeId.1
  · have deadline : (State.made h.manager now metadata).deadline =
      some (now + h.manager.timeToLive) := rfl
    simp only [new, if_true, Option.any_some, expired_of_deadline deadline, ← decide_not,
      Int.not_le]
  · simp [new, Manager.alive]

theorem alive_step_close (nodup : h.manager.sessions.keys.Nodup) (closed : Text) :
    (h.step now (.close closed)).1.manager.alive later id =
      if id = closed then false else h.manager.alive later id := by
  rw [Manager.alive, get?_step nodup, Host.sessionAfter]
  by_cases same : id = closed
  · simp [same]
  · simp [same, Manager.alive]

/-- Calls on held stores, and purges, change no session's life: a call leaves the deadline as it
is, and a purge drops only what has expired. -/
theorem alive_step_of_idle (nodup : h.manager.sessions.keys.Nodup) (le : now ≤ later)
    (asked : op.asksFor = none) (create : ∀ metadata, op ≠ .create metadata)
    (close : ∀ closed, op ≠ .close closed) :
    (h.step now op).1.manager.alive later id = h.manager.alive later id := by
  rw [Manager.alive, get?_step nodup]
  cases op with
  | callHeld name call =>
    rw [Host.sessionAfter, Manager.alive]
    by_cases held : h.leases.held.get? name = some (.live id)
    · cases h.manager.sessions.get? id <;> simp [held]
    · simp [held]
  | list => rfl
  | size => rfl
  | purge =>
    rw [Host.sessionAfter, Manager.alive]
    cases found : h.manager.sessions.get? id with
    | none => rfl
    | some s =>
      by_cases late : s.expired now = true
      · -- The purge drops what would not live later anyway.
        have lateToo := expired_of_le late le
        simp [Option.filter, late, lateToo]
      · simp [Option.filter, late]
  | create metadata => exact absurd rfl (create metadata)
  | close closed => exact absurd rfl (close closed)
  | hold | call | info | preview => simp [Operation.asksFor] at asked

/-- What an operation does to a client's session is told by its event: making or using the session
pushes back its deadline, closing it ends it, and nothing else matters to it. -/
theorem alive_step (nodup : h.manager.sessions.keys.Nodup) (client : id ≠ defaultId)
    (le : now ≤ later) :
    (h.step now op).1.manager.alive later id =
      if (h.event now op).creates id || (h.event now op).uses id then
        decide (later < now + h.manager.timeToLive)
      else if (h.event now op).closes id then false
      else h.manager.alive later id := by
  by_cases create : ∃ metadata, op = .create metadata
  · obtain ⟨metadata, rfl⟩ := create
    have unused : (h.event now (.create metadata)).uses id = false := uses_eq_false nofun
    have unclosed : (h.event now (.create metadata)).closes id = false := closes_eq_false nofun
    rw [alive_step_create nodup, unused, unclosed]
    by_cases new : id = h.manager.takeId.1
    · have made : (h.event now (.create metadata)).creates id = true :=
        creates_event.mpr ⟨metadata, rfl, new⟩
      simp [new ▸ made, new]
    · have old : ¬ (h.event now (.create metadata)).creates id = true := by
        rw [creates_event]
        rintro ⟨_, -, same⟩
        exact new same
      simp [old, new]
  rw [creates_eq_false fun metadata same => create ⟨metadata, same⟩, Bool.false_or]
  by_cases close : ∃ closed, op = .close closed
  · obtain ⟨closed, rfl⟩ := close
    have unused : (h.event now (.close closed)).uses id = false := uses_eq_false nofun
    rw [alive_step_close nodup, unused]
    by_cases same : id = closed
    · subst same
      by_cases present : id ∈ h.manager.sessions.keys
      · have done : (h.event now (.close id)).closes id = true := closes_event.mpr ⟨rfl, present⟩
        simp [done]
      · simp [Manager.alive, Keyed.get?_eq_none_iff.mpr present]
    · have other : Operation.close closed ≠ .close id := by simpa using Ne.symm same
      simp [closes_eq_false other, same]
  rw [closes_eq_false fun same => close ⟨id, same⟩]
  cases asked : op.asksFor with
  | some asked' =>
    rw [alive_step_of_asksFor nodup client le asked]
    simp
  | none =>
    rw [alive_step_of_idle nodup le asked (fun metadata same => create ⟨metadata, same⟩)
      (fun closed same => close ⟨closed, same⟩), uses_eq_false (by simp [asked])]
    simp

/-! ## Runs -/

theorem isOpen_cons (e : Event) (past : List Event) (id : Text) :
    isOpen (e :: past) id =
      if e.creates id || e.closes id then e.creates id else isOpen past id := by
  rw [isOpen, List.find?_cons]
  cases e.creates id || e.closes id <;> simp [isOpen]

theorem lastUse?_cons (e : Event) (past : List Event) (id : Text) :
    lastUse? (e :: past) id =
      if e.creates id || e.uses id then some e.now else lastUse? past id := by
  rw [lastUse?, List.find?_cons]
  cases e.creates id || e.uses id <;> simp [lastUse?]

theorem not_closes_of_uses {e : Event} (uses : e.uses id = true) : e.closes id = false := by
  obtain ⟨now, operation, outcome⟩ := e
  cases operation with
  | close closed => simp [Event.uses, Operation.asksFor] at uses
  | _ => rfl

/-- A client's session is there exactly when it lives by the past, at any instant that is not
before the last event. -/
theorem alive_iff_lives (reached : start.Reaches past h) (empty : start.manager.sessions = [])
    (client : id ≠ defaultId) (clock : (now :: past.map Event.now).Pairwise (· ≥ ·)) :
    h.manager.alive now id = true ↔ Lives past start.manager.timeToLive id now := by
  induction reached generalizing now with
  | start => simp [Manager.alive, empty, Lives, isOpen]
  | @step past h reached moment op ih =>
    have nodup := reached.nodup empty
    obtain ⟨timeToLive, -, -⟩ := reached.rest
    obtain ⟨notBefore, clock'⟩ := List.pairwise_cons.mp clock
    have le : moment ≤ now := notBefore moment (by simp)
    -- The earlier past tells of the moment of the last event, and of now.
    have clockNow : (now :: past.map Event.now).Pairwise (· ≥ ·) := by
      refine List.pairwise_cons.mpr ⟨fun t member => notBefore t (by simp [member]), ?_⟩
      exact (List.pairwise_cons.mp clock').2
    rw [alive_step nodup client le, Lives, isOpen_cons, lastUse?_cons, timeToLive]
    by_cases creates : (h.event moment op).creates id = true
    · simp [creates]
    · by_cases uses : (h.event moment op).uses id = true
      · -- A session that was used then was there, so it was open.
        have wasThere : h.manager.alive moment id = true := by
          rw [← isSome_used? client]
          exact (uses_event.mp uses).2
        have wasOpen := ((ih clock').mp wasThere).1
        simp [creates, uses, not_closes_of_uses uses, wasOpen]
      · by_cases closes : (h.event moment op).closes id = true
        · simp [creates, uses, closes]
        · simpa [creates, uses, closes, Lives] using ih clockNow

/-! ## Listings -/

/-- The listing holds the clients' sessions that are there. -/
theorem list_ids (nodup : m.sessions.keys.Nodup) :
    (m.list now).map Info.id = (clientIds m.sessions).filter fun id => m.alive now id := by
  have listed : (m.list now).map Info.id =
      (m.sessions.filter fun entry => entry.1 ≠ defaultId && !entry.2.expired now).map
        Prod.fst := by
    rw [Manager.list, List.map_map]
    rfl
  have keys : m.sessions.keys = m.sessions.map Prod.fst := rfl
  rw [listed, clientIds, List.filter_filter, keys, List.filter_map]
  refine congrArg (List.map Prod.fst) (List.filter_congr fun entry member => ?_)
  have found := Keyed.get?_of_mem nodup member
  simp [Manager.alive, found, Bool.and_comm]

theorem mem_clientIds_iff :
    id ∈ clientIds m.sessions ↔ id ∈ m.sessions.keys ∧ id ≠ defaultId := by
  simp [clientIds]

theorem mem_keys_of_alive (alive : m.alive now id = true) : id ∈ m.sessions.keys := by
  rw [Manager.alive, Option.any_eq_true] at alive
  obtain ⟨s, found, -⟩ := alive
  exact Keyed.mem_keys_of_get? found

theorem mem_madeId?_toList {e : Event} :
    id ∈ e.outcome.madeId?.toList ↔ e.creates id = true := by
  rw [Event.creates, Option.mem_toList, decide_eq_true_eq]

theorem gaveSession_of_mem_createdIds (reached : start.Reaches past h) :
    ∀ id ∈ createdIds past, h.manager.issued.GaveSession id := by
  induction reached with
  | start => simp [createdIds]
  | @step past h reached now op ih =>
    intro id member
    rw [createdIds_cons, List.mem_append] at member
    rcases member with earlier | new
    · obtain ⟨sessions, issued, after, -, later⟩ := manager_step h now op
      rw [after]
      exact later.gaveSession (ih id earlier)
    · obtain ⟨metadata, rfl, rfl⟩ := creates_event.mp (mem_madeId?_toList.mp new)
      exact Issued.gaveSession_session h.manager.issued

/-- A fresh supply makes no two sessions of one id. -/
theorem nodup_createdIds (reached : start.Reaches past h) (fresh : start.manager.issued.Fresh) :
    (createdIds past).Nodup := by
  induction reached with
  | start => simp [createdIds]
  | @step past h reached now op ih =>
    obtain ⟨-, -, later⟩ := reached.rest
    rw [createdIds_cons]
    refine ih.append (by cases (h.event now op).outcome.madeId? <;> simp) ?_
    intro id earlier new
    obtain ⟨metadata, rfl, rfl⟩ := creates_event.mp (mem_madeId?_toList.mp new)
    exact (later.fresh fresh).not_gaveSession (gaveSession_of_mem_createdIds reached _ earlier)

theorem clientIds_sublist_createdIds (reached : start.Reaches past h)
    (empty : start.manager.sessions = []) :
    (clientIds h.manager.sessions).Sublist (createdIds past) := by
  induction reached with
  | start => simp [clientIds, empty, Keyed.keys]
  | @step past h reached now op ih =>
    rw [createdIds_cons]
    exact (clientIds_step h now op).trans (ih.append_right _)

/-- Of a list without repetitions, a sublist that holds all that is kept keeps the same. -/
theorem filter_eq_filter_of_sublist {part whole : List Text} {kept : Text → Bool}
    (sub : part.Sublist whole) (nodup : whole.Nodup)
    (holds : ∀ id ∈ whole, kept id = true → id ∈ part) : part.filter kept = whole.filter kept := by
  induction sub with
  | slnil => rfl
  | @cons part whole id sub ih =>
    obtain ⟨new, nodup'⟩ := List.nodup_cons.mp nodup
    -- What the part leaves out is not kept, and it does not come again.
    have dropped : ¬ kept id = true := fun keep =>
      new (sub.subset (holds id (by simp) keep))
    rw [List.filter_cons_of_neg dropped]
    exact ih nodup' fun other member => holds other (by simp [member])
  | @cons_cons part whole id sub ih =>
    obtain ⟨new, nodup'⟩ := List.nodup_cons.mp nodup
    have inner := ih nodup' fun other member keep => by
      -- It is not the head, which stands only once, so it is in the rest of the part.
      have different : other ≠ id := fun same => new (same ▸ member)
      simpa [different] using holds other (by simp [member]) keep
    rw [List.filter_cons, List.filter_cons, inner]

theorem deadline_of_used?_default
    (before : ∀ s, m.sessions.get? defaultId = some s → s.deadline = none)
    (found : m.used? now defaultId = some s) : s.deadline = none := by
  rcases used?_cases found with ⟨old, present, -, rfl⟩ | ⟨-, -, rfl⟩
  · -- Using it does not give it a deadline.
    simpa using before old present
  · rfl

/-- The shared session has no deadline. -/
theorem deadline_default_step (nodup : h.manager.sessions.keys.Nodup)
    (fresh : h.manager.issued.Fresh)
    (before : ∀ s, h.manager.sessions.get? defaultId = some s → s.deadline = none) :
    ∀ s, (h.step now op).1.manager.sessions.get? defaultId = some s → s.deadline = none := by
  intro s found
  cases becomes_step nodup found with
  | made new => exact absurd new.symm (fresh.notDefault _)
  | held here => exact deadline_of_used?_default before here
  | called here =>
    rw [called_deadline]
    exact deadline_of_used?_default before here
  | calledHeld held here =>
    rw [called_deadline]
    exact before _ here
  | told here => exact deadline_of_used?_default before here
  | viewed same here =>
    rw [viewed_deadline]
    exact deadline_of_used?_default before here
  | kept other here => exact before s here

theorem deadline_default (reached : start.Reaches past h) (empty : start.manager.sessions = [])
    (fresh : start.manager.issued.Fresh) :
    ∀ s, h.manager.sessions.get? defaultId = some s → s.deadline = none := by
  induction reached with
  | start => simp [empty]
  | @step past h reached now op ih =>
    obtain ⟨-, -, later⟩ := reached.rest
    exact deadline_default_step (reached.nodup empty) (later.fresh fresh) ih

/-- Without a deadline the shared session can be used at any time, and is made when it is missing. -/
theorem exists_used?_shared
    (never : ∀ s, m.sessions.get? defaultId = some s → s.deadline = none) (now : Instant) :
    ∃ s, m.used? now defaultId = some s := by
  rw [Manager.used?]
  cases present : m.sessions.get? defaultId with
  | none => exact ⟨_, if_pos rfl⟩
  | some s =>
    have live : s.expired now = false := by rw [State.expired, never s present]
    exact ⟨_, if_neg (by simp [live])⟩

theorem size_eq (nodup : m.sessions.keys.Nodup)
    (shared : ∀ s, m.sessions.get? defaultId = some s → s.deadline = none) :
    m.size now = (m.list now).length + if m.sessions.has defaultId then 1 else 0 := by
  have listed : (m.list now).length =
      (m.sessions.filter fun entry => !decide (entry.1 = defaultId)).countP
        fun entry => !entry.2.expired now := by
    rw [Manager.list, List.length_map, List.countP_filter, List.countP_eq_length_filter]
    refine congrArg List.length (List.filter_congr fun entry _ => ?_)
    simp [Bool.and_comm]
  have rest : (m.sessions.filter fun entry => decide (entry.1 = defaultId)).countP
      (fun entry => !entry.2.expired now) = if m.sessions.has defaultId then 1 else 0 := by
    have never (entry : Text × State) (member : entry ∈ m.sessions) (same : entry.1 = defaultId) :
        entry.2.expired now = false := by
      have found := Keyed.get?_of_mem nodup member
      rw [State.expired, shared _ (same ▸ found)]
    -- The shared session never expires, so it counts whenever its key is there.
    have counted : (m.sessions.filter fun entry => decide (entry.1 = defaultId)).countP
        (fun entry => !entry.2.expired now) = m.sessions.keys.count defaultId := by
      rw [List.countP_filter, Keyed.keys, List.count, List.countP_map]
      refine List.countP_congr fun entry member => ?_
      by_cases same : entry.1 = defaultId
      · simp [same, never entry member same]
      · simp [same]
    rw [counted, List.Nodup.count nodup]
    simp [Keyed.has_iff_mem_keys]
  rw [Manager.size, List.countP_eq_countP_filter_add _ _ fun entry => decide (entry.1 = defaultId),
    rest, listed, Nat.add_comm]

/-- A client's session is found when it was made, was not closed since and was made or used less
than the time to live ago. The listing holds exactly those sessions. When no id is given out twice,
it holds them in the order in which they were made, and the shared session is counted besides. -/
theorem lifetime (now : Instant) (reached : start.Reaches past h)
    (empty : start.manager.sessions = []) (clock : (now :: past.map Event.now).Pairwise (· ≥ ·)) :
    (∀ id op, id ≠ defaultId → op.asksFor = some id →
      ((h.event now op).uses id = true ↔ Lives past start.manager.timeToLive id now)) ∧
    (∀ id, id ∈ (h.manager.list now).map Info.id ↔
      id ≠ defaultId ∧ Lives past start.manager.timeToLive id now) ∧
    (start.manager.issued.Fresh →
      (h.manager.list now).map Info.id =
        (createdIds past).filter (fun id => Lives past start.manager.timeToLive id now) ∧
      h.manager.size now =
        (h.manager.list now).length + if h.manager.sessions.has defaultId then 1 else 0) := by
  have nodup := reached.nodup empty
  refine ⟨?_, ?_, fun fresh => ⟨?_, size_eq nodup (deadline_default reached empty fresh)⟩⟩
  · intro id op client asked
    rw [uses_event, isSome_used? client, alive_iff_lives reached empty client clock]
    exact ⟨And.right, fun lives => ⟨asked, lives⟩⟩
  · intro id
    rw [list_ids nodup, List.mem_filter, mem_clientIds_iff, and_assoc]
    refine ⟨fun ⟨_, client, alive⟩ => ⟨client, ?_⟩, fun ⟨client, lives⟩ => ?_⟩
    · exact (alive_iff_lives reached empty client clock).mp alive
    · have alive := (alive_iff_lives reached empty client clock).mpr lives
      exact ⟨mem_keys_of_alive alive, client, alive⟩
  · have created (id : Text) (member : id ∈ createdIds past) : id ≠ defaultId := by
      obtain ⟨-, -, later⟩ := reached.rest
      obtain ⟨number, -, rfl⟩ := gaveSession_of_mem_createdIds reached id member
      exact (later.fresh fresh).notDefault number
    rw [list_ids nodup, filter_eq_filter_of_sublist (clientIds_sublist_createdIds reached empty)
      (nodup_createdIds reached fresh)]
    · refine List.filter_congr fun id member => ?_
      rw [Bool.eq_iff_iff, alive_iff_lives reached empty (created id member) clock,
        decide_eq_true_eq]
    · intro id member alive
      exact mem_clientIds_iff.mpr ⟨mem_keys_of_alive alive, created id member⟩

/-- Looking for a project that is not there keeps the session alive, up to the last instant before
its deadline. -/
theorem lifetime_after_failed_preview :
    let start : Host := { manager := { timeToLive := 10 } }
    let first := start.manager.issued.sessionId 1
    let made := ((start.step 0 (.create [])).1.step 1 (.create [])).1
    let purged := ((made.step 5 (.preview "none" (some first))).1.step 12 .purge).1
    (purged.event 14 (.info first)).uses first = true ∧
      (purged.event 15 (.info first)).uses first = false ∧
        (purged.manager.list 14).map Info.id = [first] ∧ purged.manager.size 14 = 1 := by
  intro start first made purged
  have reached : start.Reaches _ purged := .step (.step (.step (.step .start 0 _) 1 _) 5 _) 12 _
  obtain ⟨before, -, listing⟩ := lifetime 14 reached rfl (by decide)
  obtain ⟨after, -, -⟩ := lifetime 15 reached rfl (by decide)
  obtain ⟨ids, size⟩ := listing fresh_hexadecimal
  have client : first ≠ defaultId := fresh_hexadecimal.notDefault 1
  refine ⟨(before first (.info first) client rfl).mpr (by decide), ?_, ?_, ?_⟩
  · rw [Bool.eq_false_iff, ne_eq, after first (.info first) client rfl]
    decide
  · rw [ids]
    decide
  · rw [size]
    decide

end SandboxPreview.Session
