/-
# Held stores

A client that holds on to a store goes on with it whatever becomes of its session: a store that is
held under several names stays one store, and the end of the session changes nothing in it. A session
that ends only hands its store on to a new number.

## Main definitions

* `Host.heldStore?`: the store that a name stands for;
* `Host.renamed`: what a holding becomes when the manager goes over to another state;
* `Host.Sound`: every held name stands for a store.

## Main results

* `held_become`, `stored_renamed`: names and stores when sessions end;
* `step_callHeld`, `stored_storing`: a call reaches the store under all its names, and no other;
* `Host.Reaches.sound`: every run keeps a host sound.
-/
import SandboxPreview.Proofs.Session.Lifetime

namespace SandboxPreview.Session

variable {h start : Host} {m after : Manager} {now : Instant} {op : Operation} {id name other : Text}
  {s : State} {past : List Event} {x y : Holding}

/-! ## Sessions that end -/

/-- The sessions that are there before and not after. -/
def Manager.gone (before after : Manager) : Keyed State :=
  before.sessions.filter fun entry => !after.sessions.has entry.1

theorem get?_gone :
    (m.gone after).get? id = if after.sessions.has id then none else m.sessions.get? id := by
  rw [Manager.gone, Keyed.get?_filter_key m.sessions fun key => !after.sessions.has key]
  cases after.sessions.has id <;> rfl

theorem mem_keys_gone :
    id ∈ (m.gone after).keys ↔ id ∈ m.sessions.keys ∧ id ∉ after.sessions.keys := by
  have found : (m.gone after).has id = (m.sessions.has id && !after.sessions.has id) := by
    rw [Keyed.has, get?_gone]
    cases after.sessions.has id
    · exact (Bool.and_true _).symm
    · exact (Bool.and_false _).symm
  rw [← Keyed.has_iff_mem_keys, found, Bool.and_eq_true, Bool.not_eq_true', Bool.eq_false_iff,
    ne_eq, Keyed.has_iff_mem_keys, Keyed.has_iff_mem_keys]

namespace Leases

/-- A session ends. -/
def finish (l : Leases) (entry : Text × State) : Leases where
  held := l.held.map fun (name, holding) =>
    (name, if holding = .live entry.1 then .ended l.ended.length else holding)
  ended := l.ended ++ [entry.2.store]

/-- What a holding becomes when the given sessions end. -/
def renamed (l : Leases) (ended : Keyed State) : Holding → Holding
  | .live id =>
    if id ∈ ended.keys then .ended (l.ended.length + ended.keys.idxOf id) else .live id
  | .ended number => .ended number

theorem settle_eq (l : Leases) (before after : Manager) :
    l.settle before after = (before.gone after).foldl finish l := rfl

theorem ended_foldl_finish (l : Leases) (ended : Keyed State) :
    (ended.foldl finish l).ended = l.ended ++ ended.map fun entry => entry.2.store := by
  induction ended generalizing l with
  | nil => simp
  | cons entry ended ih => simp [ih, finish]

theorem held_foldl_finish (l : Leases) (ended : Keyed State) (name : Text) :
    (ended.foldl finish l).held.get? name = (l.held.get? name).map (l.renamed ended) := by
  induction ended generalizing l with
  | nil =>
    have same : l.renamed [] = id := by
      funext holding
      cases holding <;> rfl
    simp [same]
  | cons entry ended ih =>
    have first : (l.finish entry).held.get? name = (l.held.get? name).map fun holding =>
        if holding = .live entry.1 then .ended l.ended.length else holding := by
      rw [← Keyed.get?_map]
      rfl
    rw [List.foldl_cons, ih, first, Option.map_map]
    refine congrFun (congrArg Option.map (funext fun holding => ?_)) _
    cases holding with
    | ended number => rfl
    | live id =>
      have keys : Keyed.keys (entry :: ended) = entry.1 :: Keyed.keys ended := rfl
      simp only [Function.comp_apply, Holding.live.injEq, renamed, keys, List.mem_cons]
      -- The first session takes the next number; all others come later by one.
      by_cases here : id = entry.1
      · simp [here]
      · by_cases later : id ∈ Keyed.keys ended
        · simp [here, later, finish, List.idxOf_cons_ne _ (Ne.symm here)]
          omega
        · simp [here, later]

end Leases

/-! ## Names and their stores -/

namespace Host

/-- The store that a holding stands for. -/
def stored (h : Host) : Holding → Option ProjectStore
  | .live id => (h.manager.sessions.get? id).map State.store
  | .ended number => h.leases.ended[number]?

/-- The store that a name stands for. -/
def heldStore? (h : Host) (name : Text) : Option ProjectStore :=
  (h.leases.held.get? name).bind h.stored

/-- The holding stands for a store. -/
def Stands (h : Host) : Holding → Prop
  | .live id => id ∈ h.manager.sessions.keys
  | .ended number => number < h.leases.ended.length

/-- What a holding becomes when the manager goes over to another state. -/
def renamed (h : Host) (after : Manager) : Holding → Holding :=
  h.leases.renamed (h.manager.gone after)

end Host

theorem isSome_stored (stands : h.Stands x) : (h.stored x).isSome = true := by
  cases x with
  | live id =>
    rw [Host.stored, Option.isSome_map]
    exact Keyed.has_iff_mem_keys.mpr stands
  | ended number =>
    rw [Host.stored, List.getElem?_eq_getElem stands]
    rfl

theorem held_become (h : Host) (after : Manager) (name : Text) :
    (h.become after).leases.held.get? name = (h.leases.held.get? name).map (h.renamed after) := by
  rw [Host.become, Leases.settle_eq, Leases.held_foldl_finish]
  rfl

theorem ended_become (h : Host) (after : Manager) :
    (h.become after).leases.ended =
      h.leases.ended ++ (h.manager.gone after).map fun entry => entry.2.store := by
  rw [Host.become, Leases.settle_eq, Leases.ended_foldl_finish]

theorem renamed_live_of_mem (kept : id ∈ after.sessions.keys) :
    h.renamed after (.live id) = .live id := by
  have stays : id ∉ (h.manager.gone after).keys := fun member => (mem_keys_gone.mp member).2 kept
  rw [Host.renamed, Leases.renamed, if_neg stays]

/-- Only a session that is there before and not after changes its holdings. -/
theorem renamed_live_of_not_mem (here : id ∈ h.manager.sessions.keys)
    (absent : id ∉ after.sessions.keys) :
    h.renamed after (.live id) =
      .ended (h.leases.ended.length + (h.manager.gone after).keys.idxOf id) := by
  rw [Host.renamed, Leases.renamed, if_pos (mem_keys_gone.mpr ⟨here, absent⟩)]

theorem eq_live_of_renamed (same : h.renamed after x = .live id) : x = .live id := by
  cases x with
  | ended number => exact same
  | live id' =>
    rw [Host.renamed, Leases.renamed] at same
    split at same
    · simp at same
    · exact same

/-- Stores stay apart when sessions end. -/
theorem renamed_inj (stands : h.Stands x) (stands' : h.Stands y) :
    h.renamed after x = h.renamed after y ↔ x = y := by
  refine ⟨fun same => ?_, congrArg _⟩
  cases x with
  | live id =>
    by_cases kept : id ∈ after.sessions.keys
    · rw [renamed_live_of_mem kept] at same
      exact (eq_live_of_renamed same.symm).symm
    · rw [renamed_live_of_not_mem stands kept] at same
      cases y with
      | ended number =>
        -- The new numbers are greater than the old ones.
        obtain rfl : h.leases.ended.length + _ = number := Holding.ended.inj same
        exact absurd stands' (by simp [Host.Stands])
      | live id' =>
        by_cases kept' : id' ∈ after.sessions.keys
        · rw [renamed_live_of_mem kept'] at same
          simp at same
        · rw [renamed_live_of_not_mem stands' kept'] at same
          have places := Nat.add_left_cancel (Holding.ended.inj same)
          rw [List.idxOf_inj (mem_keys_gone.mpr ⟨stands, kept⟩)] at places
          rw [places]
  | ended number =>
    cases y with
    | ended number' => exact same
    | live id' =>
      by_cases kept' : id' ∈ after.sessions.keys
      · rw [renamed_live_of_mem kept'] at same
        exact same
      · rw [renamed_live_of_not_mem stands' kept'] at same
        obtain rfl : number = h.leases.ended.length + _ := Holding.ended.inj same
        exact absurd stands (by simp [Host.Stands])

/-- When sessions are dropped, a store is found under its new number as it was. -/
theorem stored_renamed (drops : ∀ id s, after.sessions.get? id = some s →
    h.manager.sessions.get? id = some s) (stands : h.Stands x) :
    (h.become after).stored (h.renamed after x) = h.stored x := by
  have numbered (number : Nat) : (h.become after).stored (.ended number) =
      (h.become after).leases.ended[number]? := rfl
  cases x with
  | ended number =>
    rw [Host.renamed, Leases.renamed, numbered, ended_become]
    exact List.getElem?_append_left stands
  | live id =>
    by_cases kept : id ∈ after.sessions.keys
    · obtain ⟨s, found⟩ := Keyed.exists_get?_of_mem_keys kept
      rw [renamed_live_of_mem kept]
      simp [Host.stored, Host.become, found, drops id s found]
    · have listed : (h.manager.gone after).map (fun entry => entry.2.store) =
          ((h.manager.gone after).map Prod.snd).map State.store := by simp
      have absent : after.sessions.has id = false := by
        rw [Bool.eq_false_iff, ne_eq, Keyed.has_iff_mem_keys]
        exact kept
      rw [renamed_live_of_not_mem stands kept, numbered, ended_become,
        List.getElem?_append_right (Nat.le_add_right _ _), Nat.add_sub_cancel_left, listed,
        List.getElem?_map, Keyed.getElem?_idxOf, get?_gone, absent]
      rfl

/-- While all sessions stay there, nothing becomes of the held stores. -/
theorem become_of_subset (kept : h.manager.sessions.keys ⊆ after.sessions.keys) :
    h.become after = { h with manager := after } := by
  have none : h.manager.gone after = [] := by
    refine List.filter_eq_nil_iff.mpr fun entry member => ?_
    have here := Keyed.has_iff_mem_keys.mpr (kept (List.mem_map_of_mem (f := Prod.fst) member))
    simp [here]
  rw [Host.become, Leases.settle_eq, none]
  rfl

/-! ## Sound hosts -/

/-- What every run keeps: no session stands twice, the shared session does not expire, the next
session id is new, and every held name stands for a store. -/
structure Host.Sound (h : Host) : Prop where
  nodup : h.manager.sessions.keys.Nodup
  shared : ∀ s, h.manager.sessions.get? defaultId = some s → s.deadline = none
  new : h.manager.takeId.1 ∉ h.manager.sessions.keys
  held : ∀ name x, h.leases.held.get? name = some x → h.Stands x

theorem stands_renamed (stands : h.Stands x) : (h.become after).Stands (h.renamed after x) := by
  have length : (h.become after).leases.ended.length =
      h.leases.ended.length + (h.manager.gone after).length := by
    rw [ended_become, List.length_append, List.length_map]
  have manager : (h.become after).manager = after := rfl
  cases x with
  | ended number =>
    rw [Host.renamed, Leases.renamed, Host.Stands, length]
    exact Nat.lt_add_right _ stands
  | live id =>
    by_cases kept : id ∈ after.sessions.keys
    · rw [renamed_live_of_mem kept, Host.Stands, manager]
      exact kept
    · rw [renamed_live_of_not_mem stands kept, Host.Stands, length]
      have place := List.idxOf_lt_length_iff.mpr (mem_keys_gone.mpr ⟨stands, kept⟩)
      rw [Keyed.keys, List.length_map] at place
      exact Nat.add_lt_add_left place _

theorem held_stands_become (held : ∀ name x, h.leases.held.get? name = some x → h.Stands x)
    (found : (h.become after).leases.held.get? name = some x) : (h.become after).Stands x := by
  rw [held_become] at found
  obtain ⟨y, here, rfl⟩ := Option.map_eq_some_iff.mp found
  exact stands_renamed (held name y here)

namespace Host.Sound

/-- Names that share a store go on sharing it, and no others come to. -/
theorem held_become_eq_iff (sound : h.Sound) (after : Manager) (name other : Text) :
    (h.become after).leases.held.get? name = (h.become after).leases.held.get? other ↔
      h.leases.held.get? name = h.leases.held.get? other := by
  rw [held_become, held_become]
  cases here : h.leases.held.get? name with
  | none => cases there : h.leases.held.get? other <;> simp
  | some x =>
    cases there : h.leases.held.get? other with
    | none => simp
    | some y => simp [renamed_inj (sound.held name x here) (sound.held other y there)]

/-- A session that stays there is held under the same names. -/
theorem held_become_eq_live_iff (kept : id ∈ after.sessions.keys) :
    (h.become after).leases.held.get? name = some (.live id) ↔
      h.leases.held.get? name = some (.live id) := by
  rw [held_become, Option.map_eq_some_iff]
  constructor
  · rintro ⟨x, here, same⟩
    rw [here, eq_live_of_renamed same]
  · exact fun here => ⟨_, here, renamed_live_of_mem kept⟩

/-- Dropping sessions changes no held store. -/
theorem heldStore?_become (sound : h.Sound)
    (drops : ∀ id s, after.sessions.get? id = some s → h.manager.sessions.get? id = some s)
    (name : Text) : (h.become after).heldStore? name = h.heldStore? name := by
  rw [Host.heldStore?, Host.heldStore?, held_become]
  cases here : h.leases.held.get? name with
  | none => rfl
  | some x =>
    rw [Option.map_some, Option.bind_some, Option.bind_some,
      stored_renamed drops (sound.held name x here)]

end Host.Sound

/-! ## Calls on held stores -/

/-- The host after the store of a holding was written to. -/
def Host.storing (h : Host) (store : ProjectStore) (issued : Issued) : Holding → Host
  | .live id =>
    { h with
      manager :=
        { h.manager with
          sessions := h.manager.sessions.update id fun s => { s with store }
          issued } }
  | .ended number =>
    { manager := { h.manager with issued }
      leases := { h.leases with ended := h.leases.ended.set number store } }

section Storing

variable {store : ProjectStore} {issued : Issued}

@[simp] theorem held_storing : (h.storing store issued x).leases.held = h.leases.held := by
  cases x <;> rfl

@[simp] theorem keys_storing :
    (h.storing store issued x).manager.sessions.keys = h.manager.sessions.keys := by
  cases x with
  | live id => rw [Host.storing, Keyed.keys_update]
  | ended number => rfl

theorem stands_storing : (h.storing store issued x).Stands y ↔ h.Stands y := by
  cases y with
  | live id => rw [Host.Stands, Host.Stands, keys_storing]
  | ended number =>
    cases x with
    | live id => rfl
    | ended other => rw [Host.Stands, Host.Stands, Host.storing, List.length_set]

/-- Only the one store is written to. -/
theorem stored_storing (stands : h.Stands y) :
    (h.storing store issued x).stored y = if y = x then some store else h.stored y := by
  cases y with
  | live id' =>
    cases x with
    | live id =>
      rw [Host.stored, Host.storing, Keyed.get?_update]
      by_cases same : id' = id
      · subst same
        obtain ⟨s, found⟩ := Keyed.exists_get?_of_mem_keys stands
        simp [found]
      · simp [same, Host.stored]
    | ended number => rfl
  | ended number' =>
    cases x with
    | live id => rfl
    | ended number =>
      rw [Host.stored, Host.storing, List.getElem?_set]
      have inside : number' < h.leases.ended.length := stands
      by_cases same : number' = number
      · subst same
        simp [inside]
      · simp [same, Ne.symm same, Host.stored]

end Storing

/-- A call on a held store is a call on the store that the name stands for. -/
theorem step_callHeld (now : Instant) (nodup : h.manager.sessions.keys.Nodup)
    (held : h.leases.held.get? name = some x) (stands : h.Stands x) (call : ProjectStore.Call) :
    ∃ store, h.stored x = some store ∧ h.step now (.callHeld name call) =
      (h.storing (store.call h.manager.pipeline h.manager.issued.project.1 now call).1
          (if call.loads then h.manager.issued.project.2 else h.manager.issued) x,
        .answeredHeld (some
          (store.call h.manager.pipeline h.manager.issued.project.1 now call).2)) := by
  obtain ⟨store, found⟩ := Option.isSome_iff_exists.mp (isSome_stored stands)
  refine ⟨store, found, ?_⟩
  rw [Host.step, Leases.call?, held]
  cases x with
  | live id =>
    obtain ⟨s, here, rfl⟩ := Option.map_eq_some_iff.mp found
    have written (store : ProjectStore) : h.manager.sessions.put id { s with store } =
        h.manager.sessions.update id fun s => { s with store } :=
      Keyed.put_eq_update nodup here fun s : State => { s with store }
    simp [here, Manager.callStore, Host.storing, written]
  | ended number =>
    rw [Host.stored] at found
    simp [found, Host.storing]

theorem step_callHeld_of_not_held (missing : h.leases.held.get? name = none)
    (call : ProjectStore.Call) :
    h.step now (.callHeld name call) = (h, .answeredHeld none) := by
  simp [Host.step, Leases.call?, missing]

/-! ## Runs -/

theorem held_stands_step (nodup : h.manager.sessions.keys.Nodup)
    (held : ∀ name x, h.leases.held.get? name = some x → h.Stands x) :
    ∀ name x, (h.step now op).1.leases.held.get? name = some x → (h.step now op).1.Stands x := by
  intro name x found
  cases op with
  | create metadata => exact held_stands_become held found
  | call id call => exact held_stands_become held found
  | info id => exact held_stands_become held found
  | preview projectId id? => exact held_stands_become held found
  | purge => exact held_stands_become held found
  | list => exact held name x found
  | size => exact held name x found
  | close id =>
    by_cases present : h.manager.sessions.has id = true
    · simp only [Host.step, Manager.close, present, if_true] at found ⊢
      exact held_stands_become held found
    · simp only [Host.step, Manager.close, present] at found ⊢
      exact held name x found
  | hold id taken =>
    rcases use_cases h.manager now id with ⟨s, -, used⟩ | ⟨-, e, used⟩
    · simp only [Host.step, used, Leases.hold, Keyed.get?_put] at found ⊢
      by_cases here : name = taken
      · obtain rfl := Option.some.inj ((if_pos here).symm.trans found)
        exact Keyed.mem_keys_put.mpr (Or.inl rfl)
      · exact held_stands_become held ((if_neg here).symm.trans found)
    · simp only [Host.step, used] at found ⊢
      exact held_stands_become held found
  | callHeld called call =>
    cases here : h.leases.held.get? called with
    | none =>
      rw [step_callHeld_of_not_held here] at found ⊢
      exact held name x found
    | some y =>
      obtain ⟨store, -, stepped⟩ := step_callHeld now nodup here (held called y here) call
      rw [stepped] at found ⊢
      rw [held_storing] at found
      exact stands_storing.mpr (held name x found)

/-- The next session id is new: all ids that are in use were given out before. -/
theorem Host.Reaches.new (reached : start.Reaches past h) (empty : start.manager.sessions = [])
    (fresh : start.manager.issued.Fresh) : h.manager.takeId.1 ∉ h.manager.sessions.keys := by
  obtain ⟨-, -, later⟩ := reached.rest
  intro member
  have client : h.manager.takeId.1 ∈ clientIds h.manager.sessions :=
    mem_clientIds_iff.mpr ⟨member, (later.fresh fresh).notDefault _⟩
  have created := (clientIds_sublist_createdIds reached empty).subset client
  exact (later.fresh fresh).not_gaveSession (gaveSession_of_mem_createdIds reached _ created)

theorem Host.Reaches.sound (reached : start.Reaches past h) (empty : start.manager.sessions = [])
    (bare : start.leases.held = []) (fresh : start.manager.issued.Fresh) : h.Sound where
  nodup := reached.nodup empty
  shared := deadline_default reached empty fresh
  new := reached.new empty fresh
  held := by
    induction reached with
    | start => simp [bare]
    | @step past h reached now op ih => exact held_stands_step (reached.nodup empty) ih

end SandboxPreview.Session
