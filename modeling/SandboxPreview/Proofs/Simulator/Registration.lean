/-
# Registration of simulators

The registry is a list that is searched from its start, yet its answers do not tell the order of the
list. No two simulators have one name, and none claims an extension that another one claims, so a
search finds the same simulator in whatever order they stand; and the names are sorted before they
are told. What counts is which simulators are registered, and these are the ones that were
registered since the last reset.

## Main definitions

* `Step`, `after`: a step in the life of a registry, and the registry after some steps;
* `sinceReset`: the steps behind the last reset;
* `Chosen`: the answer for an artifact, told without the order of the registry.

## Main results

* `mem_after_iff`, `nodup_after`: which simulators are registered, each of them once;
* `get_eq_ok_iff`: the simulator of a name;
* `forArtifact_eq_iff`: the choice for an artifact is the answer without order;
* `simulate_of_all`: with every simulator registered the choice is the built-in one;
* `answers_of_registered`: registries with the same names answer alike.
-/
import Mathlib.Data.List.Induction
import Mathlib.Data.List.Nodup
import Mathlib.Data.List.Pairwise
import SandboxPreview.Proofs.Text.Sorting
import SandboxPreview.Simulator.Registry

namespace SandboxPreview.Simulator

variable {s t : Simulator} {a : Artifact} {extension : Text}

/-! ## Names and claims -/

theorem mem_all (s : Simulator) : s ∈ all := by
  cases s <;> simp [all]

theorem name_injective : Function.Injective name := by
  have distinct : (all.map name).Nodup := by decide
  intro s t same
  exact List.inj_on_of_nodup_map distinct (mem_all s) (mem_all t) same

/-- An extension is claimed by one simulator at most. -/
theorem eq_of_claimed (first : extension ∈ s.extensions) (second : extension ∈ t.extensions) :
    s = t := by
  -- The claims of all simulators in one list hold no extension twice.
  have distinct : (all.flatMap extensions).Nodup := by decide
  have apart : all.Pairwise fun s t => s.extensions.Disjoint t.extensions :=
    (List.nodup_flatMap.mp distinct).2
  have symmetric : Std.Symm fun s t : Simulator => s.extensions.Disjoint t.extensions :=
    ⟨fun _ _ apart _ first second => apart second first⟩
  by_contra different
  exact apart.forall (mem_all s) (mem_all t) different first second

namespace Registry

variable {r r' : Registry} {name : Text}

/-! ## Searching -/

section Search

variable {p : Simulator → Bool}

/-- A search for what at most one simulator meets finds it wherever it stands. -/
theorem find?_eq_some_iff (single : ∀ s t, p s = true → p t = true → s = t) :
    r.find? p = some s ↔ s ∈ r ∧ p s = true := by
  constructor
  · intro found
    exact ⟨List.mem_of_find?_eq_some found, List.find?_some found⟩
  · rintro ⟨registered, meets⟩
    cases found : r.find? p with
    | none => exact absurd meets (List.find?_eq_none.mp found s registered)
    | some t => rw [single t s (List.find?_some found) meets]

theorem find?_congr (single : ∀ s t, p s = true → p t = true → s = t)
    (same : ∀ s, s ∈ r ↔ s ∈ r') : r.find? p = r'.find? p := by
  ext s
  rw [find?_eq_some_iff single, find?_eq_some_iff single, same]

end Search

theorem single_name (name : Text) (s t : Simulator) (first : (s.name == name) = true)
    (second : (t.name == name) = true) : s = t := by
  apply name_injective
  rw [beq_iff_eq.mp first, beq_iff_eq.mp second]

theorem single_claim (extension : Text) (s t : Simulator)
    (first : s.extensions.elem extension = true) (second : t.extensions.elem extension = true) :
    s = t :=
  eq_of_claimed (List.elem_iff.mp first) (List.elem_iff.mp second)

theorem mem_names_iff : s.name ∈ r.map Simulator.name ↔ s ∈ r :=
  List.mem_map_of_injective name_injective

/-- A name gives the registered simulator that bears it. -/
theorem get_eq_ok_iff : get r name = .ok s ↔ s ∈ r ∧ s.name = name := by
  have found : r.find? (fun s => s.name == name) = some s ↔ s ∈ r ∧ (s.name == name) = true :=
    find?_eq_some_iff (single_name name)
  rw [← beq_iff_eq (a := s.name), ← found, get]
  cases r.find? fun s => s.name == name <;> simp

theorem get_of_not_mem (missing : name ∉ r.map Simulator.name) :
    get r name = .error ⟨name, available r⟩ := by
  have lost : r.find? (fun s => s.name == name) = none := by
    rw [List.find?_eq_none]
    intro s registered named
    apply missing
    rw [← beq_iff_eq.mp named]
    exact List.mem_map_of_mem registered
  rw [get, lost]

/-! ## The choice for an artifact -/

/-- What the registry answers for an artifact, by which simulators are registered. -/
inductive Chosen (r : Registry) (a : Artifact) : Except Unsupported Simulator → Prop
  /-- A registered simulator claims the extension. -/
  | claimed {s : Simulator} (registered : s ∈ r) (claims : a.extension ∈ s.extensions) :
      Chosen r a (.ok s)
  /-- None claims it, and the generic simulator is registered. -/
  | fallback (unclaimed : ∀ s ∈ r, a.extension ∉ s.extensions) (registered : generic ∈ r) :
      Chosen r a (.ok generic)
  /-- None claims it, and there is no generic simulator. -/
  | unsupported (unclaimed : ∀ s ∈ r, a.extension ∉ s.extensions) (missing : generic ∉ r) :
      Chosen r a (.error ⟨"generic", available r⟩)

theorem forArtifact_of_claimed (registered : s ∈ r) (claims : a.extension ∈ s.extensions) :
    forArtifact r a = .ok s := by
  have found : r.find? (fun t => t.extensions.elem a.extension) = some s :=
    (find?_eq_some_iff (single_claim a.extension)).mpr ⟨registered, List.elem_iff.mpr claims⟩
  rw [forArtifact, found]

theorem forArtifact_of_unclaimed (unclaimed : ∀ s ∈ r, a.extension ∉ s.extensions) :
    forArtifact r a = get r generic.name := by
  have lost : r.find? (fun t => t.extensions.elem a.extension) = none := by
    rw [List.find?_eq_none]
    intro t registered claims
    exact unclaimed t registered (List.elem_iff.mp claims)
  rw [forArtifact, lost]
  rfl

theorem chosen_forArtifact (r : Registry) (a : Artifact) : Chosen r a (forArtifact r a) := by
  by_cases claimed : ∃ s ∈ r, a.extension ∈ s.extensions
  · obtain ⟨s, registered, claims⟩ := claimed
    rw [forArtifact_of_claimed registered claims]
    exact .claimed registered claims
  · have unclaimed : ∀ s ∈ r, a.extension ∉ s.extensions := by
      intro s registered claims
      exact claimed ⟨s, registered, claims⟩
    rw [forArtifact_of_unclaimed unclaimed]
    by_cases registered : generic ∈ r
    · rw [get_eq_ok_iff.mpr ⟨registered, rfl⟩]
      exact .fallback unclaimed registered
    · rw [get_of_not_mem (mem_names_iff.not.mpr registered)]
      exact .unsupported unclaimed registered

/-- There is one answer for an artifact. -/
theorem Chosen.unique {answer other : Except Unsupported Simulator} (first : Chosen r a answer)
    (second : Chosen r a other) : answer = other := by
  -- Each case rules out the others; only a claim could be met by two simulators, and it is not.
  cases first with
  | claimed registered claims =>
    cases second with
    | claimed _ claims' => rw [eq_of_claimed claims claims']
    | fallback unclaimed | unsupported unclaimed => exact absurd claims (unclaimed _ registered)
  | fallback unclaimed registered =>
    cases second with
    | claimed registered' claims => exact absurd claims (unclaimed _ registered')
    | fallback => rfl
    | unsupported _ missing => exact absurd registered missing
  | unsupported unclaimed missing =>
    cases second with
    | claimed registered claims => exact absurd claims (unclaimed _ registered)
    | fallback _ registered => exact absurd registered missing
    | unsupported => rfl

theorem forArtifact_eq_iff {answer : Except Unsupported Simulator} :
    forArtifact r a = answer ↔ Chosen r a answer := by
  constructor
  · rintro rfl
    exact chosen_forArtifact r a
  · exact (chosen_forArtifact r a).unique

/-- With every simulator registered the choice is the built-in one. -/
theorem simulate_of_all (everyone : ∀ s, s ∈ r) (a : Artifact) :
    simulate r a = .ok (Simulator.simulate a) := by
  have same : r.find? (fun s => s.extensions.elem a.extension) =
      all.find? fun s => s.extensions.elem a.extension :=
    find?_congr (single_claim a.extension) fun s => iff_of_true (everyone s) (mem_all s)
  rw [simulate, forArtifact, same, Simulator.simulate, builtInFor]
  cases all.find? fun s => s.extensions.elem a.extension with
  | some s => rfl
  | none =>
    have fallback : get r "generic" = .ok generic :=
      get_eq_ok_iff.mpr ⟨everyone generic, rfl⟩
    simp only [fallback]
    rfl

/-! ## Steps -/

/-- What is done to a registry. -/
inductive Step where
  | register (s : Simulator)
  | reset
  deriving DecidableEq

/-- One step. A reset leaves no simulator. -/
def apply (r : Registry) : Step → Registry
  | .register s => r.register s
  | .reset => []

/-- The registry after some steps, the first of which finds it empty. -/
def after (steps : List Step) : Registry := steps.foldl apply []

/-- The steps behind the last reset; all of them when there is none. -/
def sinceReset (steps : List Step) : List Step :=
  (steps.reverse.takeWhile (· ≠ .reset)).reverse

variable {steps : List Step}

theorem after_concat (steps : List Step) (step : Step) :
    after (steps ++ [step]) = (after steps).apply step := by
  rw [after, List.foldl_append]
  rfl

theorem sinceReset_concat_register (steps : List Step) (s : Simulator) :
    sinceReset (steps ++ [.register s]) = sinceReset steps ++ [.register s] := by
  simp [sinceReset]

theorem sinceReset_concat_reset (steps : List Step) : sinceReset (steps ++ [.reset]) = [] := by
  simp [sinceReset]

/-- The built-in registry is what registering all simulators leaves, so steps from there count as
well. -/
theorem foldl_apply_builtIn (steps : List Step) :
    steps.foldl apply builtIn = after (all.map .register ++ steps) := by
  rw [after, List.foldl_append]
  rfl

theorem mem_register : t ∈ r.register s ↔ t ∈ r ∨ t = s := by
  rw [register]
  split
  case isTrue present =>
    rw [or_iff_left_of_imp]
    rintro rfl
    exact List.elem_iff.mp present
  case isFalse => rw [List.mem_append, List.mem_singleton]

theorem nodup_apply (distinct : r.Nodup) (step : Step) : (r.apply step).Nodup := by
  cases step with
  | reset => exact List.nodup_nil
  | register s =>
    rw [apply, register]
    split
    case isTrue => exact distinct
    case isFalse absent =>
      have new : s ∉ r := fun member => absent (List.elem_iff.mpr member)
      exact List.concat_eq_append ▸ distinct.concat new

theorem nodup_after (steps : List Step) : (after steps).Nodup := by
  induction steps using List.reverseRecOn with
  | nil => exact List.nodup_nil
  | append_singleton steps step distinct =>
    rw [after_concat]
    exact nodup_apply distinct step

/-- The registered simulators are those that were registered since the last reset. -/
theorem mem_after_iff : s ∈ after steps ↔ .register s ∈ sinceReset steps := by
  -- By the last step: a reset takes away the registered simulators and the steps that count alike.
  induction steps using List.reverseRecOn with
  | nil => exact iff_of_false List.not_mem_nil List.not_mem_nil
  | append_singleton steps step ih =>
    rw [after_concat]
    cases step with
    | reset =>
      rw [sinceReset_concat_reset]
      exact iff_of_false List.not_mem_nil List.not_mem_nil
    | register t =>
      rw [sinceReset_concat_register, apply, mem_register, ih]
      simp

/-! ## Answers -/

theorem available_congr (distinct : r.Nodup) (distinct' : r'.Nodup)
    (same : ∀ s, s ∈ r ↔ s ∈ r') : available r = available r' := by
  have perm : r.Perm r' := (List.perm_ext_iff_of_nodup distinct distinct').mpr same
  exact Text.sort_eq_of_perm (perm.map Simulator.name)

theorem get_congr (same : ∀ s, s ∈ r ↔ s ∈ r') (told : available r = available r') :
    get r = get r' := by
  funext name
  rw [get, get, find?_congr (single_name name) same, told]

theorem forArtifact_congr (same : ∀ s, s ∈ r ↔ s ∈ r') (told : available r = available r') :
    forArtifact r = forArtifact r' := by
  funext a
  rw [forArtifact, forArtifact, find?_congr (single_claim a.extension) same, get_congr same told]

theorem mem_available_iff : name ∈ available r ↔ name ∈ r.map Simulator.name :=
  (Text.sort_perm _).mem_iff

theorem pairwise_lt_available (distinct : r.Nodup) : (available r).Pairwise (· < ·) :=
  Text.pairwise_lt_sort (distinct.map name_injective)

/-- After any steps the registry holds what was registered since the last reset. It answers as it
would after any other steps that leave the same names registered: the names, the simulator of every
name, and the choice and the output for every artifact. For an artifact it chooses the one
registered simulator that claims the extension, else the generic one if that is registered, and else
it fails with the registered names, which are told in ascending order. With all simulators registered
its output is the built-in one; and steps from the built-in registry are such steps as well. -/
theorem answers_of_registered (steps : List Step) :
    let r := after steps
    (∀ s, s ∈ r ↔ .register s ∈ sinceReset steps) ∧
    (∀ others,
      (∀ name, name ∈ r.map Simulator.name ↔ name ∈ (after others).map Simulator.name) →
      available r = available (after others) ∧ get r = get (after others) ∧
        forArtifact r = forArtifact (after others) ∧ simulate r = simulate (after others)) ∧
    (∀ name s, get r name = .ok s ↔ s ∈ r ∧ s.name = name) ∧
    (∀ a answer, forArtifact r a = answer ↔ Chosen r a answer) ∧
    (∀ a : Artifact, ∀ s ∈ r, ∀ t ∈ r,
      a.extension ∈ s.extensions → a.extension ∈ t.extensions → s = t) ∧
    (available r).Pairwise (· < ·) ∧
    (∀ name, name ∈ available r ↔ name ∈ r.map Simulator.name) ∧
    ((∀ s, s ∈ r) → ∀ a, simulate r a = .ok (Simulator.simulate a)) ∧
    steps.foldl apply builtIn = after (all.map .register ++ steps) := by
  intro r
  refine ⟨fun s => mem_after_iff, ?_, fun name s => get_eq_ok_iff,
    fun a answer => forArtifact_eq_iff, fun a s _ t _ => eq_of_claimed,
    pairwise_lt_available (nodup_after steps), fun name => mem_available_iff,
    simulate_of_all, foldl_apply_builtIn steps⟩
  intro others names
  -- The same names are the same simulators, and no answer looks at more than those.
  have same (s : Simulator) : s ∈ r ↔ s ∈ after others := by
    rw [← mem_names_iff, ← mem_names_iff]
    exact names s.name
  have told : available r = available (after others) :=
    available_congr (nodup_after steps) (nodup_after others) same
  have chosen := forArtifact_congr same told
  refine ⟨told, get_congr same told, chosen, ?_⟩
  funext a
  rw [simulate, simulate, chosen]

/-- Two registries with one set of names in two orders, the first after a reset and with one name
registered twice, and a registry without the generic simulator. -/
theorem answers_of_registered_twice :
    let first : List Step := [.register .python, .register .cpp, .reset, .register .go,
      .register .generic, .register .go, .register .cpp]
    let second : List Step := [.register .cpp, .register .generic, .register .go]
    let third : List Step := [.register .python, .register .go]
    let header : Artifact := ⟨"src/Point.HPP", "cpp", "int x;"⟩
    let program : Artifact := ⟨"main.rs", "rs", "fn main() \x7b\x7d"⟩
    after first ≠ after second ∧
      (∀ name, name ∈ (after first).map Simulator.name ↔
        name ∈ (after second).map Simulator.name) ∧
      simulate (after first) = simulate (after second) ∧
      forArtifact (after first) header = .ok .cpp ∧
      forArtifact (after first) program = .ok .generic ∧
      forArtifact (after third) program = .error ⟨"generic", ["go", "python"]⟩ := by
  intro first second third header program
  obtain ⟨-, alike, -, chosen, -⟩ := answers_of_registered first
  obtain ⟨-, -, -, chosenThird, -⟩ := answers_of_registered third
  have names : ∀ name, name ∈ (after first).map Simulator.name ↔
      name ∈ (after second).map Simulator.name := by
    have perm : ((after first).map Simulator.name).Perm ((after second).map Simulator.name) := by
      decide
    exact fun name => perm.mem_iff
  have told : available (after third) = [Simulator.go.name, Simulator.python.name] :=
    Text.sort_eq_iff.mpr ⟨by decide, by decide⟩
  obtain ⟨-, -, -, same⟩ := alike second names
  refine ⟨by decide, names, same, ?_, ?_, ?_⟩
  · exact (chosen header _).mpr (.claimed (by decide) (by decide +kernel))
  · exact (chosen program _).mpr (.fallback (by decide +kernel) (by decide))
  · have missing : forArtifact (after third) program = .error ⟨"generic", available _⟩ :=
      (chosenThird program _).mpr (.unsupported (by decide +kernel) (by decide))
    rw [missing, told]
    rfl

end Registry

end SandboxPreview.Simulator
