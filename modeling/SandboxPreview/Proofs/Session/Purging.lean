/-
# Purges are not noticed

Whether and when expired sessions are dropped makes no difference to clients: a session that has
expired is as good as one that is not there. Two runs that ask for the same, purges aside, are
compared by what is left of both when the expired sessions are left out. There is one exception.
Closing a session does not look at its deadline, so a session that has expired can be closed as long
as it was not dropped.

## Main definitions

* `Host.Alike`: hosts that differ in expired sessions only;
* `Outcome.unworded`: what a client is told, without the words for why a session is not there;
* `requests`: what was asked for in a run, purges aside.

## Main results

* `Alike.drop`: dropping expired sessions leaves a host alike;
* `alike_step`, `unworded_step`: alike hosts stay alike and tell the same;
* `purge_unseen`: two runs that differ in purges only.
-/
import SandboxPreview.Proofs.Session.HeldStores

namespace SandboxPreview.Session

variable {h h' h'' start : Host} {m m' : Manager} {now later : Instant} {op : Operation}
  {id name : Text} {s : State} {past past' : List Event} {x x' : Holding}

/-! ## Sessions that have not expired -/

/-- The sessions that have not expired. -/
def Manager.living (m : Manager) (now : Instant) : Keyed State :=
  m.sessions.filter fun entry => !entry.2.expired now

theorem get?_living (nodup : m.sessions.keys.Nodup) :
    (m.living now).get? id = (m.sessions.get? id).filter fun s => !s.expired now :=
  Keyed.get?_filter nodup (fun s => !s.expired now) id

theorem mem_keys_living (nodup : m.sessions.keys.Nodup) :
    id ∈ (m.living now).keys ↔ m.alive now id = true := by
  rw [← Keyed.has_iff_mem_keys, Keyed.has, get?_living nodup, Manager.alive]
  cases m.sessions.get? id with
  | none => simp
  | some s => by_cases late : s.expired now = true <;> simp [Option.filter, late]

theorem living_of_le (m : Manager) (le : now ≤ later) :
    m.living later = (m.living now).filter fun entry => !entry.2.expired later := by
  rw [Manager.living, Manager.living, List.filter_filter]
  refine List.filter_congr fun entry _ => ?_
  by_cases late : entry.2.expired later = true
  · simp [late]
  · have early : ¬ entry.2.expired now = true := fun early => late (expired_of_le early le)
    simp [late, early]

theorem living_erase (m : Manager) (now : Instant) (id : Text) :
    ({ m with sessions := m.sessions.erase id } : Manager).living now = (m.living now).erase id := by
  rw [Manager.living, Keyed.filter_erase fun s : State => !s.expired now]
  rfl

theorem list_eq_living (m : Manager) (now : Instant) :
    m.list now = ((m.living now).filter fun entry => entry.1 ≠ defaultId).map
      fun entry => entry.2.info entry.1 := by
  rw [Manager.living, List.filter_filter, Manager.list]

theorem size_eq_living (m : Manager) (now : Instant) : m.size now = (m.living now).length :=
  List.countP_eq_length_filter

/-- Whether a session can be used depends on what has not expired. -/
theorem used?_eq_living (sound : h.Sound) :
    h.manager.used? now id =
      match (h.manager.living now).get? id with
      | none =>
        if id = defaultId then some { deadline := none, createdAt := now, lastAccessedAt := now }
        else none
      | some s =>
        some { s with
          deadline := if id = defaultId then s.deadline else some (now + h.manager.timeToLive)
          lastAccessedAt := now } := by
  rw [get?_living sound.nodup, Manager.used?]
  cases found : h.manager.sessions.get? id with
  | none => rfl
  | some s =>
    by_cases late : s.expired now = true
    · -- The shared session never comes here, for it does not expire.
      have client : id ≠ defaultId := by
        rintro rfl
        simp [State.expired, sound.shared s found] at late
      simp [Option.filter, late, client]
    · simp [Option.filter, late]

/-! ## Alike hosts -/

/-- The hosts differ in nothing but sessions that have expired. A name stands for the same store in
both, whether or not its session is still kept, and names that share a store in one share it in the
other. -/
structure Host.Alike (now : Instant) (h h' : Host) : Prop where
  timeToLive : h.manager.timeToLive = h'.manager.timeToLive
  pipeline : h.manager.pipeline = h'.manager.pipeline
  issued : h.manager.issued = h'.manager.issued
  living : h.manager.living now = h'.manager.living now
  stores : ∀ name, h.heldStore? name = h'.heldStore? name
  shared : ∀ name other, h.leases.held.get? name = h.leases.held.get? other ↔
    h'.leases.held.get? name = h'.leases.held.get? other
  tied : ∀ name id, id ∈ (h.manager.living now).keys →
    (h.leases.held.get? name = some (.live id) ↔ h'.leases.held.get? name = some (.live id))

namespace Host.Alike

theorem refl (now : Instant) (h : Host) : h.Alike now h :=
  ⟨rfl, rfl, rfl, rfl, fun _ => rfl, fun _ _ => Iff.rfl, fun _ _ _ => Iff.rfl⟩

theorem symm (alike : Alike now h h') : Alike now h' h where
  timeToLive := alike.timeToLive.symm
  pipeline := alike.pipeline.symm
  issued := alike.issued.symm
  living := alike.living.symm
  stores name := (alike.stores name).symm
  shared name other := (alike.shared name other).symm
  tied name id alive := (alike.tied name id (alike.living ▸ alive)).symm

theorem trans (first : Alike now h h') (second : Alike now h' h'') : Alike now h h'' where
  timeToLive := first.timeToLive.trans second.timeToLive
  pipeline := first.pipeline.trans second.pipeline
  issued := first.issued.trans second.issued
  living := first.living.trans second.living
  stores name := (first.stores name).trans (second.stores name)
  shared name other := (first.shared name other).trans (second.shared name other)
  tied name id alive :=
    (first.tied name id alive).trans (second.tied name id (first.living ▸ alive))

/-- What has expired stays so. -/
theorem mono (alike : Alike now h h') (le : now ≤ later) : Alike later h h' where
  timeToLive := alike.timeToLive
  pipeline := alike.pipeline
  issued := alike.issued
  living := by rw [living_of_le _ le, living_of_le _ le, alike.living]
  stores := alike.stores
  shared := alike.shared
  tied name id alive := by
    refine alike.tied name id ?_
    rw [living_of_le _ le] at alive
    exact (Keyed.keys_filter_sublist _ _).subset alive

/-- Dropping expired sessions is not noticed. -/
theorem drop (sound : h.Sound) (kept : Text × State → Bool)
    (dead : ∀ entry ∈ h.manager.sessions, kept entry = false → entry.2.expired now = true) :
    h.Alike now
      (h.become { h.manager with sessions := h.manager.sessions.filter kept }) where
  timeToLive := rfl
  pipeline := rfl
  issued := rfl
  living := by
    rw [Manager.living, Manager.living, Host.become, List.filter_filter]
    refine List.filter_congr fun entry member => ?_
    by_cases keep : kept entry = true
    · simp [keep]
    · simp [dead entry member (by simpa using keep)]
  stores name :=
    (sound.heldStore?_become (fun _ _ found => Keyed.get?_of_filter sound.nodup found) name).symm
  shared name other := (sound.held_become_eq_iff _ name other).symm
  tied name id alive := by
    refine (Sound.held_become_eq_live_iff ?_).symm
    -- A session that is alive is not dropped.
    obtain ⟨entry, member, rfl⟩ := List.mem_map.mp alive
    obtain ⟨here, fine⟩ := List.mem_filter.mp member
    refine List.mem_map_of_mem (List.mem_filter.mpr ⟨here, ?_⟩)
    by_contra out
    simp [dead entry here (by simpa using out)] at fine

/-- Closing a session is alike in both. -/
theorem erase (alike : Alike now h h') (sound : h.Sound) (sound' : h'.Sound) (id : Text) :
    Alike now (h.become { h.manager with sessions := h.manager.sessions.erase id })
      (h'.become { h'.manager with sessions := h'.manager.sessions.erase id }) where
  timeToLive := alike.timeToLive
  pipeline := alike.pipeline
  issued := alike.issued
  living := by
    have left := living_erase h.manager now id
    have right := living_erase h'.manager now id
    exact left.trans ((congrArg (Keyed.erase · id) alike.living).trans right.symm)
  stores name := by
    rw [sound.heldStore?_become (fun _ _ found => Keyed.get?_of_filter sound.nodup found),
      sound'.heldStore?_become (fun _ _ found => Keyed.get?_of_filter sound'.nodup found),
      alike.stores]
  shared name other := by
    rw [sound.held_become_eq_iff, sound'.held_become_eq_iff, alike.shared]
  tied name key alive := by
    have stays : key ∈ ((h.manager.living now).erase id).keys := living_erase h.manager now id ▸ alive
    rw [Keyed.keys_erase, List.mem_filter] at stays
    have kept {m : Manager} (here : key ∈ (m.living now).keys) :
        key ∈ (m.sessions.erase id).keys := by
      rw [Keyed.keys_erase, List.mem_filter]
      exact ⟨(Keyed.keys_filter_sublist _ _).subset here, stays.2⟩
    rw [Sound.held_become_eq_live_iff (kept stays.1),
      Sound.held_become_eq_live_iff (kept (alike.living ▸ stays.1)), alike.tied name key stays.1]

end Host.Alike

/-! ## Writing to a session of both -/

/-- The session has not expired, or it is not there. -/
def Manager.Clear (m : Manager) (now : Instant) (id : Text) : Prop :=
  ∀ old, m.sessions.get? id = some old → (!old.expired now) = true

theorem clear_of_used? (found : m.used? now id = some s) : m.Clear now id := by
  intro old here
  rcases used?_cases found with ⟨used, present, early, -⟩ | ⟨missing, -⟩
  · obtain rfl := Option.some.inj (present.symm.trans here)
    simp [early]
  · simp [missing] at here

/-- The host after a session was written. -/
def Host.putting (h : Host) (id : Text) (s : State) (issued : Issued) : Host :=
  { h with manager := { h.manager with sessions := h.manager.sessions.put id s, issued } }

theorem become_put (h : Host) (id : Text) (s : State) (issued : Issued) :
    h.become { h.manager with sessions := h.manager.sessions.put id s, issued } =
      h.putting id s issued :=
  become_of_subset fun _ member => Keyed.mem_keys_put.mpr (Or.inr member)

theorem heldStore?_putting {issued : Issued} :
    (h.putting id s issued).heldStore? name =
      if h.leases.held.get? name = some (.live id) then some s.store else h.heldStore? name := by
  have leases : (h.putting id s issued).leases = h.leases := rfl
  rw [Host.heldStore?, Host.heldStore?, leases]
  cases here : h.leases.held.get? name with
  | none => rfl
  | some x =>
    cases x with
    | ended number => rfl
    | live key =>
      by_cases same : key = id
      · simp [Host.stored, Host.putting, same]
      · simp [Host.stored, Host.putting, same]

namespace Host.Alike

/-- A session that has not expired is held under the same names in both. -/
theorem tie (alike : Alike now h h') (sound : h.Sound) (sound' : h'.Sound)
    (clear : h.manager.Clear now id) (clear' : h'.manager.Clear now id) (name : Text) :
    h.leases.held.get? name = some (.live id) ↔ h'.leases.held.get? name = some (.live id) := by
  by_cases alive : id ∈ (h.manager.living now).keys
  · exact alike.tied name id alive
  · -- It is in neither of them.
    have absent {h : Host} (sound : h.Sound) (clear : h.manager.Clear now id)
        (dead : id ∉ (h.manager.living now).keys) : ¬ h.leases.held.get? name = some (.live id) := by
      intro held
      have stands : id ∈ h.manager.sessions.keys := sound.held name _ held
      obtain ⟨old, here⟩ := Keyed.exists_get?_of_mem_keys stands
      refine dead ((mem_keys_living sound.nodup).mpr ?_)
      rw [Manager.alive, here]
      exact clear old here
    exact iff_of_false (absent sound clear alive) (absent sound' clear' (alike.living ▸ alive))

theorem putting (alike : Alike now h h') (sound : h.Sound) (sound' : h'.Sound)
    (clear : h.manager.Clear now id) (clear' : h'.manager.Clear now id) (s : State)
    (issued : Issued) : Alike now (h.putting id s issued) (h'.putting id s issued) where
  timeToLive := alike.timeToLive
  pipeline := alike.pipeline
  issued := rfl
  living := by
    have written {h : Host} (sound : h.Sound) (clear : h.manager.Clear now id) :
        (h.putting id s issued).manager.living now =
          if !s.expired now then (h.manager.living now).put id s
          else (h.manager.living now).erase id :=
      Keyed.filter_put (fun s : State => !s.expired now) sound.nodup clear s
    rw [written sound clear, written sound' clear', alike.living]
  stores name := by
    rw [heldStore?_putting, heldStore?_putting, alike.stores]
    simp only [alike.tie sound sound' clear clear' name]
  shared := alike.shared
  tied name key alive := by
    by_cases same : key = id
    · subst same
      exact alike.tie sound sound' clear clear' name
    · refine alike.tied name key ?_
      rw [mem_keys_living (Keyed.nodup_keys_put sound.nodup _ _), Manager.alive, Host.putting,
        Keyed.get?_put, if_neg same] at alive
      exact (mem_keys_living sound.nodup).mpr alive

/-- A session is held under one more name. -/
theorem hold (alike : Alike now h h') (name : Text)
    (tie : ∀ other, h.leases.held.get? other = some (.live id) ↔
      h'.leases.held.get? other = some (.live id))
    (same : h.stored (.live id) = h'.stored (.live id)) :
    Alike now { h with leases := h.leases.hold name id }
      { h' with leases := h'.leases.hold name id } where
  timeToLive := alike.timeToLive
  pipeline := alike.pipeline
  issued := alike.issued
  living := alike.living
  stores other := by
    have found (h : Host) : ({ h with leases := h.leases.hold name id } : Host).heldStore? other =
        if other = name then h.stored (.live id) else h.heldStore? other := by
      have stored : ({ h with leases := h.leases.hold name id } : Host).stored = h.stored := by
        funext x
        cases x <;> rfl
      rw [Host.heldStore?, stored, Leases.hold, Keyed.get?_put]
      split <;> rfl
    rw [found, found, same, alike.stores]
  shared other other' := by
    simp only [Leases.hold, Keyed.get?_put]
    by_cases here : other = name
    · by_cases here' : other' = name
      · simp [here, here']
      · simp only [here, here', if_true, if_false]
        rw [eq_comm, tie, eq_comm]
    · by_cases here' : other' = name
      · simp only [here, here', if_true, if_false]
        exact tie other
      · simp only [here, here', if_false]
        exact alike.shared other other'
  tied other key alive := by
    simp only [Leases.hold, Keyed.get?_put]
    by_cases here : other = name
    · simp [here]
    · simp only [here, if_false]
      exact alike.tied other key alive

end Host.Alike

/-! ## Writing to a held store of both -/

section Storing

variable {store : ProjectStore} {issued : Issued}

theorem Host.Sound.heldStore?_storing (sound : h.Sound) (held : h.leases.held.get? name = some x)
    (other : Text) :
    (h.storing store issued x).heldStore? other =
      if h.leases.held.get? other = h.leases.held.get? name then some store
      else h.heldStore? other := by
  rw [Host.heldStore?, held_storing, Host.heldStore?]
  cases here : h.leases.held.get? other with
  | none => simp [held]
  | some y =>
    rw [Option.bind_some, stored_storing (sound.held other y here), held, Option.bind_some]
    simp only [Option.some.injEq]

/-- Only the session that the store belongs to is written to, if it is there. -/
theorem living_storing (h : Host) (now : Instant) :
    (h.storing store issued x).manager.living now =
      match x with
      | .live id => (h.manager.living now).update id fun s => { s with store }
      | .ended _ => h.manager.living now := by
  cases x with
  | ended number => rfl
  | live id =>
    exact Keyed.filter_update (fun s : State => !s.expired now) (fun s : State => { s with store })
      (fun s => rfl) h.manager.sessions id

theorem Host.Alike.storing (alike : Alike now h h') (sound : h.Sound) (sound' : h'.Sound)
    (held : h.leases.held.get? name = some x) (held' : h'.leases.held.get? name = some x') :
    Alike now (h.storing store issued x) (h'.storing store issued x') where
  timeToLive := by cases x <;> cases x' <;> exact alike.timeToLive
  pipeline := by cases x <;> cases x' <;> exact alike.pipeline
  issued := by cases x <;> cases x' <;> rfl
  living := by
    -- A session that has expired is not among those that are compared.
    have untouched {h : Host} {x : Holding} (dead : ∀ id ∈ (h.manager.living now).keys, x ≠ .live id) :
        (h.storing store issued x).manager.living now = h.manager.living now := by
      rw [living_storing]
      cases x with
      | ended number => rfl
      | live id => exact Keyed.update_of_not_mem (fun alive => dead id alive rfl) _
    by_cases alive : ∃ id ∈ (h.manager.living now).keys, x = .live id
    · obtain ⟨id, alive, rfl⟩ := alive
      obtain rfl := Option.some.inj (held'.symm.trans ((alike.tied name id alive).mp held))
      rw [living_storing, living_storing, alike.living]
    · have dead (id : Text) (here : id ∈ (h.manager.living now).keys) : x ≠ .live id :=
        fun same => alive ⟨id, here, same⟩
      have dead' (id : Text) (here : id ∈ (h'.manager.living now).keys) : x' ≠ .live id := by
        rintro rfl
        have here' := alike.living ▸ here
        exact dead id here' (Option.some.inj (held.symm.trans ((alike.tied name id here').mpr held')))
      rw [untouched dead, untouched dead', alike.living]
  stores other := by
    rw [sound.heldStore?_storing held, sound'.heldStore?_storing held', alike.stores]
    simp only [alike.shared other name]
  shared name other := by
    rw [held_storing, held_storing]
    exact alike.shared name other
  tied other id alive := by
    rw [held_storing, held_storing]
    refine alike.tied other id ?_
    rw [living_storing] at alive
    cases x with
    | ended number => exact alive
    | live id' => rwa [Keyed.keys_update] at alive

end Storing

/-! ## What is told -/

/-- Why a session is not there, without telling an expired one from one that never was. -/
def SessionError.unworded : SessionError → SessionError
  | .notFound id => .notFound id
  | .expired id => .notFound id

/-- Why an operation fails, without the words for why a session is not there. -/
def Fault.unworded : Fault → Fault
  | .session e => .session e.unworded
  | .store e => .store e

/-- What a client is told, without the words for why a session is not there. -/
def Outcome.unworded : Outcome → Outcome
  | .held result => .held (result.mapError SessionError.unworded)
  | .answered result => .answered (result.mapError Fault.unworded)
  | .told result => .told (result.mapError SessionError.unworded)
  | .shown result => .shown (result.mapError Fault.unworded)
  | .closed result => .closed (result.mapError SessionError.unworded)
  | outcome => outcome

/-- A session that cannot be used is dropped if it is there, and missed in one way or the other. -/
theorem exists_of_not_used? (missing : m.used? now id = none) :
    ∃ e, e.unworded = .notFound id ∧
      m.use now id = ({ m with sessions := m.sessions.erase id }, .error e) := by
  obtain ⟨e, used⟩ := use_of_not_used? missing
  refine ⟨e, ?_, used⟩
  have told := congrArg Prod.snd used
  rw [Manager.use] at told
  split at told
  · split at told
    · simp at told
    · rw [← Except.error.inj told]
      rfl
  · split at told
    · rw [← Except.error.inj told]
      rfl
    · simp at told

/-! ## Steps of alike hosts -/

namespace Host.Alike

theorem used?_eq (alike : Alike now h h') (sound : h.Sound) (sound' : h'.Sound) :
    h.manager.used? now id = h'.manager.used? now id := by
  rw [used?_eq_living sound, used?_eq_living sound', alike.living, alike.timeToLive]

end Host.Alike

theorem step_hold_of_used? (found : h.manager.used? now id = some s) (name : Text) :
    h.step now (.hold id name) =
      ({ h.putting id s h.manager.issued with leases := h.leases.hold name id }, .held (.ok ())) := by
  have written := become_put h id s h.manager.issued
  simp only [Host.step, use_of_used? found, written]
  rfl

theorem step_call_of_used? (found : h.manager.used? now id = some s) (call : ProjectStore.Call) :
    h.step now (.call id call) =
      (h.putting id (s.called h.manager now call)
          (if call.loads then h.manager.issued.project.2 else h.manager.issued),
        .answered ((s.store.call h.manager.pipeline h.manager.issued.project.1 now call).2.mapError
          .store)) := by
  simp only [Host.step, onStore_of_used? call found, become_put]

theorem step_info_of_used? (found : h.manager.used? now id = some s) :
    h.step now (.info id) = (h.putting id s h.manager.issued, .told (.ok (s.info id))) := by
  have written := become_put h id s h.manager.issued
  simp only [Host.step, Manager.info, use_of_used? found, written, Except.map]

theorem step_preview_of_used? {id? : Option Text} (projectId : Text)
    (found : h.manager.used? now (Manager.previewId id?) = some s) :
    h.step now (.preview projectId id?) =
      (h.putting (Manager.previewId id?) (s.viewed h.manager.pipeline projectId) h.manager.issued,
        .shown ((s.view h.manager.pipeline projectId).mapError .store)) := by
  have written := become_put h (Manager.previewId id?) (s.viewed h.manager.pipeline projectId)
    h.manager.issued
  simp only [Host.step, preview_of_used? projectId found, written]

/-- An operation that asks for a session finds the same one in both, or finds none in either. -/
theorem alike_ask (alike : h.Alike now h') (sound : h.Sound) (sound' : h'.Sound)
    (asked : op.asksFor = some id) :
    (h.step now op).1.Alike now (h'.step now op).1 ∧
      (h.step now op).2.unworded = (h'.step now op).2.unworded := by
  have pipeline := alike.pipeline
  have issued := alike.issued
  cases found : h.manager.used? now id with
  | some s =>
    have found' : h'.manager.used? now id = some s := alike.used?_eq sound sound' ▸ found
    have clear := clear_of_used? found
    have clear' := clear_of_used? found'
    have put := alike.putting sound sound' clear clear'
    have called (call : ProjectStore.Call) :
        s.called h.manager now call = s.called h'.manager now call := by
      rw [State.called, State.called, pipeline, issued]
    cases op with
    | hold id' name =>
      obtain rfl : id' = id := by simpa [Operation.asksFor] using asked
      rw [step_hold_of_used? found, step_hold_of_used? found', ← issued]
      refine ⟨(put s h.manager.issued).hold name (alike.tie sound sound' clear clear') ?_, rfl⟩
      simp [Host.stored, Host.putting]
    | call id' call =>
      obtain rfl : id' = id := by simpa [Operation.asksFor] using asked
      rw [step_call_of_used? found, step_call_of_used? found', called, ← pipeline, ← issued]
      exact ⟨put _ _, rfl⟩
    | info id' =>
      obtain rfl : id' = id := by simpa [Operation.asksFor] using asked
      rw [step_info_of_used? found, step_info_of_used? found', ← issued]
      exact ⟨put _ _, rfl⟩
    | preview projectId id? =>
      obtain rfl : Manager.previewId id? = id := by simpa [Operation.asksFor] using asked
      rw [step_preview_of_used? projectId found, step_preview_of_used? projectId found',
        ← pipeline, ← issued]
      exact ⟨put _ _, rfl⟩
    | create | callHeld | close | list | size | purge => simp [Operation.asksFor] at asked
  | none =>
    have found' : h'.manager.used? now id = none := alike.used?_eq sound sound' ▸ found
    obtain ⟨e, kind, used⟩ := exists_of_not_used? found
    obtain ⟨e', kind', used'⟩ := exists_of_not_used? found'
    have dropped := alike.erase sound sound' id
    cases op with
    | hold id' name =>
      obtain rfl : id' = id := by simpa [Operation.asksFor] using asked
      simp only [Host.step, used, used']
      exact ⟨dropped, by simp [Outcome.unworded, Except.mapError, kind, kind']⟩
    | call id' call =>
      obtain rfl : id' = id := by simpa [Operation.asksFor] using asked
      simp only [Host.step, Manager.onStore, used, used']
      exact ⟨dropped, by simp [Outcome.unworded, Fault.unworded, Except.mapError, kind, kind']⟩
    | info id' =>
      obtain rfl : id' = id := by simpa [Operation.asksFor] using asked
      simp only [Host.step, Manager.info, used, used']
      exact ⟨dropped, by simp [Outcome.unworded, Except.mapError, Except.map, kind, kind']⟩
    | preview projectId id? =>
      obtain rfl : Manager.previewId id? = id := by simpa [Operation.asksFor] using asked
      simp only [Host.step, Manager.preview, used, used']
      exact ⟨dropped, by simp [Outcome.unworded, Fault.unworded, Except.mapError, kind, kind']⟩
    | create | callHeld | close | list | size | purge => simp [Operation.asksFor] at asked

theorem alike_create (alike : h.Alike now h') (sound : h.Sound) (sound' : h'.Sound)
    (metadata : Metadata) :
    (h.step now (.create metadata)).1.Alike now (h'.step now (.create metadata)).1 ∧
      (h.step now (.create metadata)).2 = (h'.step now (.create metadata)).2 := by
  have made (h : Host) : h.step now (.create metadata) =
      (h.putting h.manager.takeId.1 (.made h.manager now metadata) h.manager.issued.session.2,
        .created ((State.made h.manager now metadata).info h.manager.takeId.1)) :=
    congrArg (·, _) (become_put h _ (.made h.manager now metadata) h.manager.issued.session.2)
  have clear {h : Host} (sound : h.Sound) : h.manager.Clear now h.manager.takeId.1 := by
    intro old here
    exact absurd (Keyed.mem_keys_of_get? here) sound.new
  have same : h'.manager.takeId.1 = h.manager.takeId.1 := by
    rw [Manager.takeId, Manager.takeId, alike.issued]
  have state : State.made h'.manager now metadata = State.made h.manager now metadata := by
    rw [State.made, State.made, alike.timeToLive]
  rw [made, made, same, state, ← alike.issued]
  exact ⟨alike.putting sound sound' (clear sound) (same ▸ clear sound') _ _, rfl⟩

theorem alike_callHeld (alike : h.Alike now h') (sound : h.Sound) (sound' : h'.Sound) (name : Text)
    (call : ProjectStore.Call) :
    (h.step now (.callHeld name call)).1.Alike now (h'.step now (.callHeld name call)).1 ∧
      (h.step now (.callHeld name call)).2 = (h'.step now (.callHeld name call)).2 := by
  have stores := alike.stores name
  -- A name that is held stands for a store, so it is held in both or in neither.
  cases held : h.leases.held.get? name with
  | none =>
    cases held' : h'.leases.held.get? name with
    | none =>
      rw [step_callHeld_of_not_held held, step_callHeld_of_not_held held']
      exact ⟨alike, rfl⟩
    | some x' =>
      have there := isSome_stored (sound'.held name x' held')
      rw [Host.heldStore?, held, Host.heldStore?, held', Option.bind_some] at stores
      simp [← stores] at there
  | some x =>
    cases held' : h'.leases.held.get? name with
    | none =>
      have there := isSome_stored (sound.held name x held)
      rw [Host.heldStore?, held, Host.heldStore?, held', Option.bind_some] at stores
      simp [stores] at there
    | some x' =>
      obtain ⟨store, found, stepped⟩ :=
        step_callHeld now sound.nodup held (sound.held name x held) call
      obtain ⟨store', found', stepped'⟩ :=
        step_callHeld now sound'.nodup held' (sound'.held name x' held') call
      obtain rfl : store = store' := by
        rw [Host.heldStore?, held, Host.heldStore?, held', Option.bind_some, Option.bind_some,
          found, found'] at stores
        exact Option.some.inj stores
      rw [stepped, stepped', ← alike.pipeline, ← alike.issued]
      exact ⟨alike.storing sound sound' held held', rfl⟩

/-- A session that is in only one of both has expired. -/
theorem Host.Alike.alive_iff (alike : h.Alike now h') (sound : h.Sound) (sound' : h'.Sound) :
    h.manager.alive now id = true ↔ h'.manager.alive now id = true := by
  rw [← mem_keys_living sound.nodup, ← mem_keys_living sound'.nodup, alike.living]

/-- The shared session does not expire. -/
theorem not_mem_keys_default (sound : h.Sound) (dead : ¬ h.manager.alive now defaultId = true) :
    defaultId ∉ h.manager.sessions.keys := by
  intro member
  obtain ⟨s, found⟩ := Keyed.exists_get?_of_mem_keys member
  exact dead (by simp [Manager.alive, found, State.expired, sound.shared s found])

/-- Closing a session that has expired drops it, if it is there. -/
theorem alike_close_dead (sound : h.Sound) (dead : h.manager.alive now id = false) :
    h.Alike now (h.step now (.close id)).1 := by
  by_cases present : h.manager.sessions.has id = true
  · simp only [Host.step, Manager.close, present, if_true]
    refine Host.Alike.drop sound (fun entry => decide (entry.1 ≠ id)) fun entry member out => ?_
    have same : entry.1 = id := by simpa using out
    have found : h.manager.sessions.get? id = some entry.2 :=
      same ▸ Keyed.get?_of_mem sound.nodup member
    simpa [Manager.alive, found] using dead
  · simp only [Host.step, Manager.close, present]
    exact .refl now h

theorem alike_close (alike : h.Alike now h') (sound : h.Sound) (sound' : h'.Sound) (id : Text) :
    (h.step now (.close id)).1.Alike now (h'.step now (.close id)).1 := by
  by_cases alive : h.manager.alive now id = true
  · have present {h : Host} (alive : h.manager.alive now id = true) :
        h.manager.sessions.has id = true := Keyed.has_iff_mem_keys.mpr (mem_keys_of_alive alive)
    have alive' := (alike.alive_iff sound sound').mp alive
    simp only [Host.step, Manager.close, present alive, present alive', if_true]
    exact alike.erase sound sound' id
  · have dead : h.manager.alive now id = false := by simpa using alive
    have dead' : h'.manager.alive now id = false := by
      rw [Bool.eq_false_iff, ne_eq, ← alike.alive_iff sound sound']
      exact alive
    exact (alike_close_dead sound dead).symm.trans (alike.trans (alike_close_dead sound' dead'))

theorem alike_purge (sound : h.Sound) : h.Alike now (h.step now .purge).1 :=
  .drop sound (fun entry => !entry.2.expired now) fun entry member out => by simpa using out

/-- Alike hosts stay alike when the same is asked of them. -/
theorem alike_step (alike : h.Alike now h') (sound : h.Sound) (sound' : h'.Sound)
    (op : Operation) : (h.step now op).1.Alike now (h'.step now op).1 := by
  cases op with
  | create metadata => exact (alike_create alike sound sound' metadata).1
  | hold | call | info | preview => exact (alike_ask alike sound sound' rfl).1
  | callHeld name call => exact (alike_callHeld alike sound sound' name call).1
  | close id => exact alike_close alike sound sound' id
  | list => exact alike
  | size => exact alike
  | purge => exact (alike_purge sound).symm.trans (alike.trans (alike_purge sound'))

/-- Closing is told to have been done exactly when the session is there. -/
theorem closed_unworded_iff :
    (h.step now (.close id)).2.unworded = (h'.step now (.close id)).2.unworded ↔
      (id ∈ h.manager.sessions.keys ↔ id ∈ h'.manager.sessions.keys) := by
  have told (h : Host) : (h.step now (.close id)).2.unworded =
      if id ∈ h.manager.sessions.keys then .closed (.ok ()) else .closed (.error (.notFound id)) := by
    by_cases present : id ∈ h.manager.sessions.keys
    · simp [Host.step, Manager.close, Keyed.has_iff_mem_keys, present, Outcome.unworded,
        Except.mapError]
    · simp [Host.step, Manager.close, Keyed.has_iff_mem_keys, present, Outcome.unworded,
        Except.mapError, SessionError.unworded]
  rw [told, told]
  by_cases here : id ∈ h.manager.sessions.keys
  · by_cases here' : id ∈ h'.manager.sessions.keys <;> simp [here, here']
  · by_cases here' : id ∈ h'.manager.sessions.keys <;> simp [here, here']

/-- Alike hosts tell the same, unless a session is closed that only one of them has. A purge tells
how many sessions it dropped. -/
theorem unworded_step (alike : h.Alike now h') (sound : h.Sound) (sound' : h'.Sound)
    (asked : op ≠ .purge) :
    (h.step now op).2.unworded = (h'.step now op).2.unworded ↔
      ∀ id, op = .close id → (id ∈ h.manager.sessions.keys ↔ id ∈ h'.manager.sessions.keys) := by
  by_cases closing : ∃ id, op = .close id
  · obtain ⟨id, rfl⟩ := closing
    rw [closed_unworded_iff]
    exact ⟨fun same key here => Operation.close.inj here ▸ same, fun same => same id rfl⟩
  · refine iff_of_true ?_ fun id here => absurd ⟨id, here⟩ closing
    cases op with
    | create metadata => rw [(alike_create alike sound sound' metadata).2]
    | hold | call | info | preview => exact (alike_ask alike sound sound' rfl).2
    | callHeld name call => rw [(alike_callHeld alike sound sound' name call).2]
    | close id => exact absurd ⟨id, rfl⟩ closing
    | list => simp only [Host.step, list_eq_living, alike.living]
    | size => simp only [Host.step, size_eq_living, alike.living]
    | purge => exact absurd rfl asked

/-! ## Runs without purges -/

/-- The operation drops the sessions that have expired, and asks for nothing else. -/
def Operation.purges : Operation → Bool
  | .purge => true
  | _ => false

theorem purges_iff : op.purges = true ↔ op = .purge := by
  cases op <;> simp [Operation.purges]

/-- What was asked for, the latest first, purges aside. -/
def requests (past : List Event) : List (Instant × Operation) :=
  (past.filter fun e => !e.operation.purges).map fun e => (e.now, e.operation)

/-- The state that the requests lead to. -/
def Host.after (start : Host) : List (Instant × Operation) → Host
  | [] => start
  | (now, op) :: earlier => ((start.after earlier).step now op).1

theorem reaches_after (start : Host) (asked : List (Instant × Operation)) :
    ∃ past, start.Reaches past (start.after asked) := by
  induction asked with
  | nil => exact ⟨[], .start⟩
  | cons request asked ih =>
    obtain ⟨past, reached⟩ := ih
    exact ⟨_, reached.step request.1 request.2⟩

/-- Without its purges a run leads to an alike host. -/
theorem alike_after (reached : start.Reaches past h) (empty : start.manager.sessions = [])
    (bare : start.leases.held = []) (fresh : start.manager.issued.Fresh)
    (clock : (now :: past.map Event.now).Pairwise (· ≥ ·)) :
    (start.after (requests past)).Alike now h := by
  induction reached generalizing now with
  | start => exact .refl now start
  | @step past h reached moment op ih =>
    obtain ⟨notBefore, clock'⟩ := List.pairwise_cons.mp clock
    have sound := reached.sound empty bare fresh
    have alike : (start.after (requests past)).Alike moment h := ih clock'
    refine Host.Alike.mono ?_ (notBefore moment (by simp))
    by_cases purge : op.purges = true
    · -- The purge is left out, and what it drops is not noticed.
      obtain rfl := purges_iff.mp purge
      exact alike.trans (alike_purge sound)
    · have listed : requests (h.event moment op :: past) = (moment, op) :: requests past := by
        simp [requests, Host.event, purge]
      obtain ⟨_, reached'⟩ := reaches_after start (requests past)
      rw [listed]
      exact alike_step alike (reached'.sound empty bare fresh) sound op

/-- Two runs that ask for the same, with purges at any points of either: whatever is asked for next,
but for a purge, is told in the same words in both, up to the reason why a session is not there. The
one exception is that a session is closed which only one of them still has. Such a session has
expired. -/
theorem purge_unseen (now : Instant) (op : Operation) (reached : start.Reaches past h)
    (reached' : start.Reaches past' h') (empty : start.manager.sessions = [])
    (bare : start.leases.held = []) (fresh : start.manager.issued.Fresh)
    (same : requests past = requests past')
    (clock : (now :: past.map Event.now).Pairwise (· ≥ ·))
    (clock' : (now :: past'.map Event.now).Pairwise (· ≥ ·)) (asked : op.purges = false) :
    ((h.step now op).2.unworded = (h'.step now op).2.unworded ↔
      ∀ id, op = .close id → (id ∈ h.manager.sessions.keys ↔ id ∈ h'.manager.sessions.keys)) ∧
    ∀ id, ¬ (id ∈ h.manager.sessions.keys ↔ id ∈ h'.manager.sessions.keys) →
      id ≠ defaultId ∧ ¬ Lives past start.manager.timeToLive id now := by
  have sound := reached.sound empty bare fresh
  have sound' := reached'.sound empty bare fresh
  have alike : h.Alike now h' :=
    (alike_after reached empty bare fresh clock).symm.trans
      (same ▸ alike_after reached' empty bare fresh clock')
  refine ⟨unworded_step alike sound sound' fun purge => ?_, fun id differs => ?_⟩
  · simp [purge, Operation.purges] at asked
  · have dead : ¬ h.manager.alive now id = true := fun alive => differs
      (iff_of_true (mem_keys_of_alive alive)
        (mem_keys_of_alive ((alike.alive_iff sound sound').mp alive)))
    have dead' : ¬ h'.manager.alive now id = true := mt (alike.alive_iff sound sound').mpr dead
    have client : id ≠ defaultId := by
      rintro rfl
      exact differs (iff_of_false (not_mem_keys_default sound dead)
        (not_mem_keys_default sound' dead'))
    exact ⟨client, mt (alive_iff_lives reached empty client clock).mpr dead⟩

/-- An expired session is missed in the same way whether or not it was dropped. -/
theorem purge_unseen_by_info :
    let start : Host := { manager := { timeToLive := 10 } }
    let first := start.manager.issued.sessionId 1
    let idle := (start.step 0 (.create [])).1
    let purged := ((idle.step 10 .purge).1.step 12 .purge).1
    (idle.step 14 (.info first)).2.unworded = (purged.step 14 (.info first)).2.unworded ∧
      first ∈ idle.manager.sessions.keys ∧ first ∉ purged.manager.sessions.keys := by
  intro start first idle purged
  have reached : start.Reaches _ idle := .step .start 0 _
  have reached' : start.Reaches _ purged := .step (.step reached 10 _) 12 _
  refine ⟨(purge_unseen 14 (.info first) reached reached' rfl rfl fresh_hexadecimal rfl (by decide)
    (by decide) rfl).1.mpr nofun, ?_, ?_⟩
  · decide
  · decide

/-- An expired session can be closed, unless a purge dropped it before. -/
theorem purge_seen_by_close :
    let start : Host := { manager := { timeToLive := 10 } }
    let first := start.manager.issued.sessionId 1
    let idle := (start.step 0 (.create [])).1
    let purged := (idle.step 10 .purge).1
    (idle.step 10 (.close first)).2 = .closed (.ok ()) ∧
      (purged.step 10 (.close first)).2 = .closed (.error (.notFound first)) := by
  intro start first idle purged
  have present : idle.manager.sessions.has first = true := by decide
  have absent : purged.manager.sessions.has first = false := by decide
  refine ⟨?_, ?_⟩
  · simp [Host.step, Manager.close, present]
  · simp [Host.step, Manager.close, absent]

end SandboxPreview.Session
