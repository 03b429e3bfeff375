/-
# Projects that stay

A project stays in its session for as long as nobody takes it out and nobody closes the session: the
session goes on with it or expires with it. The shared session does not expire, but it may be closed
like any other, and is made anew without projects when it is used after that.

## Main definitions

* `Operation.Spares`: an operation that neither closes the session nor takes a project out;
* `Host.Has`: a project that the session has whenever it is there.

## Main results

* `Host.Has.of_reaches`: runs of such operations keep the project in its session;
* `Host.Has.offers`: it is there whenever the session can be used.
-/
import SandboxPreview.Proofs.Session.Isolation
import SandboxPreview.Proofs.Session.Loading

namespace SandboxPreview.Session

open ProjectStore (contains_iff turn_call)

variable {h h' start : Host} {m : Manager} {now : Instant} {op : Operation}
  {id projectId reply : Text} {s : State} {past past' : List Event}

/-- The operation neither closes the session nor takes a project out of any. What is asked of a
held store may be to take one out. -/
def Operation.Spares (id : Text) : Operation → Prop
  | .close closed => closed ≠ id
  | .call _ (.remove _) => False
  | .callHeld _ _ => False
  | _ => True

/-- The session has the project whenever it is there. The shared session is there. -/
structure Host.Has (h : Host) (id projectId : Text) : Prop where
  known : h.manager.issued.GaveSession id ∨ id = defaultId
  project : ∀ s, h.manager.sessions.get? id = some s → s.store.contains projectId = true
  shared : id = defaultId → ∃ s, h.manager.sessions.get? id = some s ∧ s.deadline = none

/-! ## One step -/

/-- Only taking it out takes a project out of a store. -/
theorem contains_call {store : ProjectStore} {fresh : Text} (p : Pipeline) (now : Instant)
    {call : ProjectStore.Call} (kept : ∀ removed, call ≠ .remove removed)
    (present : store.contains projectId = true) :
    (store.call p fresh now call).1.contains projectId = true := by
  have turn := turn_call store p fresh now call
  generalize (store.call p fresh now call).1 = after at turn ⊢
  rw [contains_iff] at present ⊢
  cases turn with
  | load project => exact Keyed.mem_keys_put.mpr (Or.inr present)
  | remove removed same => exact absurd same (kept removed)
  | log key log => rwa [ProjectStore.withLog, Keyed.keys_update]
  | nothing => exact present

namespace Host.Has

/-- The session that is used now has the project. -/
theorem of_used? (has : h.Has id projectId) (found : h.manager.used? now id = some s) :
    s.store.contains projectId = true := by
  rcases used?_cases found with ⟨old, present, -, rfl⟩ | ⟨missing, isDefault, -⟩
  · exact has.project old present
  · obtain ⟨shared, there, -⟩ := has.shared isDefault
    simp [missing] at there

/-- The shared session can always be used. -/
theorem exists_used?_default (has : h.Has defaultId projectId) (now : Instant) :
    ∃ s, h.manager.used? now defaultId = some s ∧ s.deadline = none := by
  obtain ⟨shared, present, deadline⟩ := has.shared rfl
  have never : ∀ s, h.manager.sessions.get? defaultId = some s → s.deadline = none := by
    intro s found
    rwa [← Option.some.inj (present.symm.trans found)]
  obtain ⟨s, found⟩ := exists_used?_shared never now
  exact ⟨s, found, deadline_of_used?_default never found⟩

/-- A session that is made is another. -/
theorem ne_takeId (has : h.Has id projectId) (fresh : h.manager.issued.Fresh) :
    id ≠ h.manager.takeId.1 := by
  rintro rfl
  exact has.known.elim fresh.not_gaveSession (fresh.notDefault _)

theorem step (nodup : h.manager.sessions.keys.Nodup) (fresh : h.manager.issued.Fresh)
    (has : h.Has id projectId) (spares : op.Spares id) : (h.step now op).1.Has id projectId := by
  obtain ⟨sessions, issued, after, -, later⟩ := manager_step h now op
  have other := has.ne_takeId fresh
  refine ⟨by rw [after]; exact has.known.imp_left later.gaveSession, fun s found => ?_, ?_⟩
  · cases becomes_step nodup found with
    | made new => exact absurd new other
    | held here | told here => exact has.of_used? here
    | @called call s here =>
      refine contains_call _ _ (fun removed same => ?_) (has.of_used? here)
      subst same
      exact spares
    | calledHeld => exact spares.elim
    | viewed same here =>
      rw [viewed_store]
      exact has.of_used? here
    | kept _ here => exact has.project s here
  · rintro rfl
    obtain ⟨used, usable, never⟩ := has.exists_used?_default now
    obtain ⟨shared, present, deadline⟩ := has.shared rfl
    rw [get?_step nodup]
    cases op with
    | create metadata => exact ⟨shared, (if_neg other).trans present, deadline⟩
    | hold asked | info asked =>
      by_cases same : defaultId = asked
      · subst same
        exact ⟨used, by simp [Host.sessionAfter, usable], never⟩
      · exact ⟨shared, (if_neg same).trans present, deadline⟩
    | call asked call =>
      by_cases same : defaultId = asked
      · subst same
        exact ⟨used.called h.manager now call, by simp [Host.sessionAfter, usable], never⟩
      · exact ⟨shared, (if_neg same).trans present, deadline⟩
    | preview shown id? =>
      by_cases same : defaultId = Manager.previewId id?
      · refine ⟨used.viewed h.manager.pipeline shown, ?_, by rw [viewed_deadline, never]⟩
        simp [Host.sessionAfter, ← same, usable]
      · exact ⟨shared, (if_neg same).trans present, deadline⟩
    | callHeld => exact spares.elim
    | close closed => exact ⟨shared, (if_neg (Ne.symm spares)).trans present, deadline⟩
    | list | size => exact ⟨shared, present, deadline⟩
    | purge => exact ⟨shared, by simp [Host.sessionAfter, present, State.expired, deadline], deadline⟩

/-- Runs that spare the session keep the project in it. -/
theorem of_reaches (nodup : h.manager.sessions.keys.Nodup) (fresh : h.manager.issued.Fresh)
    (has : h.Has id projectId) (reached : h.Reaches past h')
    (spares : ∀ e ∈ past, e.operation.Spares id) : h'.Has id projectId := by
  induction reached with
  | start => exact has
  | step reached now op ih =>
    obtain ⟨-, -, later⟩ := reached.rest
    obtain ⟨here, earlier⟩ := List.forall_mem_cons.mp spares
    exact (ih earlier).step (reached.keeps_nodup nodup) (later.fresh fresh) here

/-- The session offers the project whenever it can be used. -/
theorem offers (has : h.Has id projectId) (found : h.manager.used? now id = some s) :
    h.manager.Offers now id projectId :=
  ⟨s, use_eq_ok_iff.mpr found, has.of_used? found⟩

end Host.Has

/-! ## After loading -/

/-- A session that can be used has an id that was given out, or it is the shared one. -/
theorem gaveSession_of_used? (reached : start.Reaches past h) (empty : start.manager.sessions = [])
    (found : h.manager.used? now id = some s) :
    h.manager.issued.GaveSession id ∨ id = defaultId := by
  by_cases isDefault : id = defaultId
  · exact Or.inr isDefault
  · have member := (known_of_used? found).resolve_right isDefault
    have client : id ∈ clientIds h.manager.sessions := mem_clientIds_iff.mpr ⟨member, isDefault⟩
    exact Or.inl (gaveSession_of_mem_createdIds reached id
      ((clientIds_sublist_createdIds reached empty).subset client))

/-- A reply that was loaded is a project that its session has. -/
theorem has_loaded (reached : start.Reaches past h) (empty : start.manager.sessions = [])
    (fresh : start.manager.issued.Fresh) (found : h.manager.used? now id = some s) (reply : Text) :
    (h.step now (.call id (.loadReply reply))).1.Has id h.manager.issued.project.1 := by
  have here : (h.step now (.call id (.loadReply reply))).1.manager.sessions.get? id =
      some (s.called h.manager now (.loadReply reply)) := by
    rw [get?_step (reached.nodup empty), Host.sessionAfter, if_pos rfl, found]
    rfl
  have present : (s.called h.manager now (.loadReply reply)).store.contains
      h.manager.issued.project.1 = true :=
    contains_iff.mpr (Keyed.mem_keys_put.mpr (Or.inl rfl))
  obtain ⟨sessions, issued, after, -, later⟩ := manager_step h now (.call id (.loadReply reply))
  refine ⟨?_, fun s' found' => ?_, ?_⟩
  · rw [after]
    exact (gaveSession_of_used? reached empty found).imp_left later.gaveSession
  · obtain rfl := Option.some.inj (here.symm.trans found')
    exact present
  · rintro rfl
    have never : s.deadline = none :=
      deadline_of_used?_default (deadline_default reached empty fresh) found
    exact ⟨_, here, never⟩

end SandboxPreview.Session
