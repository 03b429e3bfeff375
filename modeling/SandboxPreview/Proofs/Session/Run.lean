/-
# Runs of a session manager

A run is made of steps, each at an instant of its own. What clients asked for and were told makes
up its past, the latest event first. Besides the sessions a step changes only the ids that were
given out.

## Main definitions

* `Event`: one operation with its outcome;
* `Host.Reaches`: the states that runs reach, with their pasts.

## Main results

* `manager_step`: what a step does to the manager as a whole;
* `Host.Reaches.rest`: what runs leave as it is.
-/
import SandboxPreview.Proofs.Session.Issued
import SandboxPreview.Proofs.Session.Step

namespace SandboxPreview.Session

variable {h start : Host} {m : Manager} {now : Instant} {op : Operation} {id key : Text} {s : State}

/-! ## The manager in a step -/

/-- The ways in which a step writes to the sessions. Only a session that is made adds a client's
id to the keys. -/
inductive Rewrites (m : Manager) (op : Operation) : Keyed State → Prop
  | put {id : Text} (s : State) (known : id ∈ m.sessions.keys ∨ id = defaultId) :
      Rewrites m op (m.sessions.put id s)
  | add {metadata : Metadata} (s : State) (made : op = .create metadata) :
      Rewrites m op (m.sessions.put m.takeId.1 s)
  | drop (kept : Text × State → Bool) : Rewrites m op (m.sessions.filter kept)

theorem rewrites_same : Rewrites m op m.sessions := by
  have whole : m.sessions.filter (fun _ => true) = m.sessions := List.filter_eq_self.mpr (by simp)
  exact whole ▸ .drop fun _ => true

theorem known_of_used? (found : m.used? now id = some s) :
    id ∈ m.sessions.keys ∨ id = defaultId := by
  rcases used?_cases found with ⟨old, present, -⟩ | ⟨-, isDefault, -⟩
  · exact Or.inl (Keyed.mem_keys_of_get? present)
  · exact Or.inr isDefault

theorem rewrites_use : Rewrites m op (m.use now id).1.sessions := by
  rcases use_cases m now id with ⟨s, found, used⟩ | ⟨-, e, used⟩
  · rw [used]
    exact .put s (known_of_used? found)
  · rw [used]
    exact .drop _

/-- A step writes to the sessions and gives out ids, and leaves the rest as it is. -/
theorem manager_step (h : Host) (now : Instant) (op : Operation) :
    ∃ sessions issued, (h.step now op).1.manager = { h.manager with sessions, issued } ∧
      Rewrites h.manager op sessions ∧ h.manager.issued.Later issued := by
  -- Only loading takes a new project id.
  have later_call (call : ProjectStore.Call) : h.manager.issued.Later
      (if call.loads then h.manager.issued.project.2 else h.manager.issued) := by
    by_cases loads : call.loads = true
    · rw [if_pos loads]
      exact .project _
    · rw [if_neg loads]
      exact .self _
  cases op with
  | create metadata => exact ⟨_, h.manager.issued.session.2, rfl, .add _ rfl, .session _⟩
  | hold id name =>
    refine ⟨(h.manager.use now id).1.sessions, h.manager.issued, ?_, rewrites_use, .self _⟩
    rcases use_cases h.manager now id with ⟨s, -, used⟩ | ⟨-, e, used⟩
    · simp [Host.step, Host.become, used]
    · simp [Host.step, Host.become, used]
  | call id call =>
    cases found : h.manager.used? now id with
    | some s =>
      refine ⟨h.manager.sessions.put id (s.called h.manager now call), _, ?_,
        .put _ (known_of_used? found), later_call call⟩
      simp [Host.step, Host.become, onStore_of_used? call found]
    | none =>
      obtain ⟨e, used⟩ := onStore_of_not_used? call found
      refine ⟨h.manager.sessions.erase id, h.manager.issued, ?_, .drop _, .self _⟩
      simp [Host.step, Host.become, used]
  | callHeld name call =>
    rcases callHeld_cases h now name call with
      ⟨id, s, -, found, after⟩ | ⟨-, issued, after, given⟩
    · exact ⟨_, _, after, .put _ (Or.inl (Keyed.mem_keys_of_get? found)), later_call call⟩
    · refine ⟨_, issued, after, rewrites_same, ?_⟩
      rcases given with rfl | rfl
      · exact .self _
      · exact .project _
  | info id =>
    refine ⟨(h.manager.use now id).1.sessions, h.manager.issued, ?_, rewrites_use, .self _⟩
    rcases use_cases h.manager now id with ⟨s, -, used⟩ | ⟨-, e, used⟩
    · simp [Host.step, Host.become, Manager.info, used]
    · simp [Host.step, Host.become, Manager.info, used]
  | preview projectId id? =>
    cases found : h.manager.used? now (Manager.previewId id?) with
    | some s =>
      refine ⟨h.manager.sessions.put _ (s.viewed h.manager.pipeline projectId), h.manager.issued,
        ?_, .put _ (known_of_used? found), .self _⟩
      simp [Host.step, Host.become, preview_of_used? projectId found]
    | none =>
      obtain ⟨e, used⟩ := preview_of_not_used? projectId found
      refine ⟨h.manager.sessions.erase (Manager.previewId id?), h.manager.issued, ?_, .drop _,
        .self _⟩
      simp [Host.step, Host.become, used]
  | close id =>
    by_cases present : h.manager.sessions.has id = true
    · refine ⟨h.manager.sessions.erase id, h.manager.issued, ?_, .drop _, .self _⟩
      simp [Host.step, Host.become, Manager.close, present]
    · refine ⟨h.manager.sessions, h.manager.issued, ?_, rewrites_same, .self _⟩
      simp [Host.step, Manager.close, present]
  | list => exact ⟨_, _, rfl, rewrites_same, .self _⟩
  | size => exact ⟨_, _, rfl, rewrites_same, .self _⟩
  | purge => exact ⟨_, _, rfl, .drop _, .self _⟩

/-! ## Keys of sessions -/

/-- The ids of the clients' sessions, in order. -/
def clientIds (sessions : Keyed State) : List Text := sessions.keys.filter (· ≠ defaultId)

/-- The id of the session that was made. -/
def Outcome.madeId? : Outcome → Option Text
  | .created info => some info.id
  | _ => none

variable {sessions : Keyed State}

theorem Rewrites.nodup (written : Rewrites m op sessions) (nodup : m.sessions.keys.Nodup) :
    sessions.keys.Nodup := by
  cases written with
  | put s known => exact Keyed.nodup_keys_put nodup _ _
  | add s made => exact Keyed.nodup_keys_put nodup _ _
  | drop kept => exact Keyed.nodup_keys_filter nodup kept

/-- Only the operation for it makes a session, and the new session has the new id. -/
theorem madeId?_step (h : Host) (now : Instant) (op : Operation) :
    (h.step now op).2.madeId? =
      match op with
      | .create _ => some h.manager.takeId.1
      | _ => none := by
  cases op with
  | hold id name =>
    rcases use_cases h.manager now id with ⟨s, -, used⟩ | ⟨-, e, used⟩
    · simp [Host.step, used, Outcome.madeId?]
    · simp [Host.step, used, Outcome.madeId?]
  | callHeld name call =>
    rw [Host.step]
    split <;> rfl
  | close id =>
    rw [Host.step]
    split <;> rfl
  | create | call | info | preview | list | size | purge => rfl

/-- Clients' sessions keep their order, and one that is made comes last. -/
theorem clientIds_step (h : Host) (now : Instant) (op : Operation) :
    (clientIds (h.step now op).1.manager.sessions).Sublist
      (clientIds h.manager.sessions ++ (h.step now op).2.madeId?.toList) := by
  obtain ⟨sessions, issued, after, written, -⟩ := manager_step h now op
  rw [after]
  cases written with
  | @put id s known =>
    refine List.Sublist.trans ?_ (List.sublist_append_left _ _)
    by_cases present : id ∈ h.manager.sessions.keys
    · rw [clientIds, Keyed.keys_put_of_mem present, clientIds]
    · -- Only the shared session comes to be by being used, and it is not among the clients'.
      have isDefault := known.resolve_left present
      rw [clientIds, Keyed.keys_put_of_not_mem present, List.filter_append, clientIds]
      simp [isDefault]
  | @add metadata s made =>
    -- A new session comes last, unless its id was there: then it is written over in its place.
    subst made
    rw [madeId?_step, Option.toList_some]
    by_cases present : h.manager.takeId.1 ∈ h.manager.sessions.keys
    · rw [clientIds, Keyed.keys_put_of_mem present]
      exact List.sublist_append_left _ _
    · rw [clientIds, Keyed.keys_put_of_not_mem present, List.filter_append]
      exact List.Sublist.append_left List.filter_sublist _
  | drop kept =>
    exact ((Keyed.keys_filter_sublist _ kept).filter _).trans (List.sublist_append_left _ _)

/-! ## Events -/

/-- What was asked at an instant, and what was told. -/
structure Event where
  now : Instant
  operation : Operation
  outcome : Outcome

namespace Event

/-- The session was made. -/
def creates (e : Event) (id : Text) : Bool := e.outcome.madeId? = some id

/-- The session was asked for and was there. -/
def uses (e : Event) (id : Text) : Bool := e.operation.asksFor = some id && e.outcome.resolved

/-- The session was closed. -/
def closes (e : Event) (id : Text) : Bool :=
  match e.operation, e.outcome with
  | .close closed, .closed (.ok _) => closed = id
  | _, _ => false

/-- A preview of the project was given in the session. -/
def shows (e : Event) (id projectId : Text) : Bool :=
  match e.operation, e.outcome with
  | .preview shown id?, .shown (.ok _) => shown = projectId && Manager.previewId id? = id
  | _, _ => false

end Event

/-- The event of an operation. -/
def Host.event (h : Host) (now : Instant) (op : Operation) : Event := ⟨now, op, (h.step now op).2⟩

section Event

@[simp] theorem event_now : (h.event now op).now = now := rfl

theorem creates_event : (h.event now op).creates id = true ↔
    ∃ metadata, op = .create metadata ∧ id = h.manager.takeId.1 := by
  rw [Event.creates, Host.event, madeId?_step, decide_eq_true_eq]
  cases op with
  | create metadata => simp [eq_comm]
  | _ => simp

theorem uses_event : (h.event now op).uses id = true ↔
    op.asksFor = some id ∧ (h.manager.used? now id).isSome = true := by
  rw [Event.uses, Host.event, Bool.and_eq_true, decide_eq_true_eq]
  exact and_congr_right fun asked => by rw [resolved_step asked]

theorem closes_event : (h.event now op).closes id = true ↔
    op = .close id ∧ id ∈ h.manager.sessions.keys := by
  cases op with
  | close closed =>
    by_cases present : h.manager.sessions.has closed = true
    · have member := Keyed.has_iff_mem_keys.mp present
      simp only [Event.closes, Host.event, Host.step, Manager.close, present, if_true,
        decide_eq_true_eq, Operation.close.injEq]
      exact ⟨fun same => ⟨same, same ▸ member⟩, And.left⟩
    · have absent := mt Keyed.has_iff_mem_keys.mpr present
      simp only [Event.closes, Host.event, Host.step, Manager.close, present, Operation.close.injEq]
      simp only [Bool.false_eq_true, if_false, false_iff, not_and]
      rintro rfl
      exact absent
  | _ => simp [Event.closes, Host.event]

theorem creates_eq_false (other : ∀ metadata, op ≠ .create metadata) :
    (h.event now op).creates id = false := by
  rw [Bool.eq_false_iff, ne_eq, creates_event]
  rintro ⟨metadata, same, -⟩
  exact other metadata same

theorem uses_eq_false (other : op.asksFor ≠ some id) : (h.event now op).uses id = false := by
  rw [Bool.eq_false_iff, ne_eq, uses_event]
  exact fun used => other used.1

theorem closes_eq_false (other : op ≠ .close id) : (h.event now op).closes id = false := by
  rw [Bool.eq_false_iff, ne_eq, closes_event]
  exact fun closed => other closed.1

end Event

/-- A run leads from one state to another. Its past is kept with the latest event first. -/
inductive Host.Reaches (start : Host) : List Event → Host → Prop
  | start : Reaches start [] start
  | step {past : List Event} {h : Host} (reached : Reaches start past h) (now : Instant)
      (op : Operation) : Reaches start (h.event now op :: past) (h.step now op).1

namespace Host.Reaches

variable {past : List Event}

theorem trans {past' : List Event} {h' : Host} (first : Reaches start past h)
    (second : Reaches h past' h') : Reaches start (past' ++ past) h' := by
  induction second with
  | start => exact first
  | step _ now op ih => exact ih.step now op

/-- A run gives out ids, and leaves the manager as it is but for that and the sessions. -/
theorem rest (reached : Reaches start past h) :
    h.manager.timeToLive = start.manager.timeToLive ∧
      h.manager.pipeline = start.manager.pipeline ∧
        start.manager.issued.Later h.manager.issued := by
  induction reached with
  | start => exact ⟨rfl, rfl, .self _⟩
  | @step past h reached now op ih =>
    obtain ⟨sessions, issued, after, -, later⟩ := manager_step h now op
    obtain ⟨timeToLive, pipeline, earlier⟩ := ih
    rw [after]
    exact ⟨timeToLive, pipeline, earlier.trans later⟩

theorem keeps_nodup (reached : Reaches start past h) (nodup : start.manager.sessions.keys.Nodup) :
    h.manager.sessions.keys.Nodup := by
  induction reached with
  | start => exact nodup
  | @step past h reached now op ih =>
    obtain ⟨sessions, issued, after, written, -⟩ := manager_step h now op
    rw [after]
    exact written.nodup ih

theorem nodup (reached : Reaches start past h) (empty : start.manager.sessions = []) :
    h.manager.sessions.keys.Nodup :=
  reached.keeps_nodup (by simp [empty, Keyed.keys])

end Host.Reaches

end SandboxPreview.Session
