/-
# Calls on a store

A call on a store loads a new project, removes one, changes the log of one, or changes nothing. A
preview is made from the files and the explanation of a project, which no call changes, so only the
removal of the project takes it away.

## Main definitions

* `Turn`: what a call may do to a store.

## Main results

* `turn_call`: every call does one of these;
* `assemble_of_contains`, `assemble_of_not_contains`: when a preview can be made;
* `assemble_put_of_ne`, `assemble_erase_of_ne`, `assemble_withLog`: previews are not touched.
-/
import SandboxPreview.Proofs.Keyed
import SandboxPreview.Store

namespace SandboxPreview.ProjectStore

variable {s s' : ProjectStore} {p : Pipeline} {fresh id key : Text} {now : Instant} {call : Call}

/-- What a call may do to a store. -/
inductive Turn (s : ProjectStore) (fresh : Text) (call : Call) : ProjectStore → Prop
  | load (project : Project) (loads : call.loads = true) :
      Turn s fresh call ⟨s.projects.put fresh project⟩
  | remove (id : Text) (removed : call = .remove id) : Turn s fresh call ⟨s.projects.erase id⟩
  | log (id : Text) (log : Console.Log) (kept : call.loads = false) :
      Turn s fresh call (s.withLog id log)
  | nothing (kept : call.loads = false) : Turn s fresh call s

theorem query_fst {α : Type} (answer : α → Answer) (result : Except StoreError α) :
    (s.query answer result).1 = s := by
  cases result <;> rfl

theorem turn_call (s : ProjectStore) (p : Pipeline) (fresh : Text) (now : Instant) (call : Call) :
    Turn s fresh call (s.call p fresh now call).1 := by
  cases call with
  | loadReply reply => exact .load _ rfl
  | loadArtifacts artifacts explanation => exact .load _ rfl
  | remove id =>
    rw [ProjectStore.call, ProjectStore.remove]
    -- Only a project that is there is removed.
    by_cases present : s.contains id = true
    · rw [if_pos present]
      exact .remove id rfl
    · rw [if_neg present]
      exact .nothing rfl
  | record id payload =>
    rw [ProjectStore.call, ProjectStore.record]
    cases s.find id with
    | error e => exact .nothing rfl
    | ok project =>
      cases received : project.log.receive now payload with
      | error refusal =>
        simp only [bind, Except.bind, received]
        exact .nothing rfl
      | ok entry =>
        simp only [bind, Except.bind, received]
        exact .log id entry.2 rfl
  | clearLog id =>
    rw [ProjectStore.call, ProjectStore.clearLog]
    cases s.find id with
    | error e => exact .nothing rfl
    | ok project => exact .log id project.log.clear.2 rfl
  | artifacts | explanation | classify | assemble | projects | contains | events =>
    rw [ProjectStore.call, query_fst]
    exact .nothing rfl

/-! ## Previews of projects -/

theorem contains_iff : s.contains id = true ↔ id ∈ s.projects.keys := Keyed.has_iff_mem_keys

theorem assemble_of_contains (p : Pipeline) (present : s.contains id = true) :
    ∃ built, s.assemble p id = .ok built := by
  obtain ⟨project, found⟩ := Option.isSome_iff_exists.mp present
  exact ⟨_, by rw [assemble, find, found]; rfl⟩

theorem assemble_of_not_contains (p : Pipeline) (absent : ¬ s.contains id = true) :
    s.assemble p id = .error (.unknownProject id) := by
  have missing : s.projects.get? id = none := by simpa [contains, Keyed.has] using absent
  rw [assemble, find, missing]
  rfl

theorem contains_of_assemble {built : Preview} (made : s.assemble p id = .ok built) :
    s.contains id = true := by
  by_contra absent
  simp [assemble_of_not_contains p absent] at made

/-- A preview depends on the files and the explanation alone. -/
theorem assemble_congr (p : Pipeline)
    (same : (s.projects.get? id).map (fun q => (q.artifacts, q.explanation)) =
      (s'.projects.get? id).map fun q => (q.artifacts, q.explanation)) :
    s.assemble p id = s'.assemble p id := by
  rw [assemble, assemble, find, find]
  cases found : s.projects.get? id with
  | none =>
    cases found' : s'.projects.get? id with
    | none => rfl
    | some project' => simp [found, found'] at same
  | some project =>
    cases found' : s'.projects.get? id with
    | none => simp [found, found'] at same
    | some project' =>
      simp only [found, found', Option.map_some, Option.some.injEq, Prod.mk.injEq] at same
      simp [Except.map, same.1, same.2]

theorem assemble_put_of_ne (p : Pipeline) (project : Project) (other : id ≠ key) :
    (⟨s.projects.put key project⟩ : ProjectStore).assemble p id = s.assemble p id :=
  assemble_congr p (by simp [other])

theorem assemble_erase_of_ne (p : Pipeline) (other : id ≠ key) :
    (⟨s.projects.erase key⟩ : ProjectStore).assemble p id = s.assemble p id :=
  assemble_congr p (by simp [other])

theorem assemble_withLog (p : Pipeline) (log : Console.Log) :
    (s.withLog key log).assemble p id = s.assemble p id := by
  refine assemble_congr p ?_
  rw [withLog, Keyed.get?_update]
  by_cases same : id = key
  · simp [same, Function.comp_def]
  · simp [same]

end SandboxPreview.ProjectStore
