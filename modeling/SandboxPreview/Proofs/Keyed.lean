/-
# Lookups in keyed lists

What a keyed list holds under a key after a value is put in, changed or taken out, and what becomes
of its keys. As long as no key stands twice, which none of these operations brings about, values
may also be dropped by what they are.

## Main results

* `get?_put`, `get?_erase`, `get?_update`: lookups after a write;
* `get?_filter`, `get?_filter_key`: lookups after values were dropped;
* `getElem?_idxOf`: a lookup by the place of the key;
* `filter_put`, `filter_update`, `filter_erase`: writes among the values that are kept;
* `keys_put`, `keys_erase`, `keys_update`: the keys after a write.
-/
import Mathlib.Data.List.Nodup
import SandboxPreview.Keyed

namespace SandboxPreview.Keyed

variable {α : Type} {m : Keyed α} {key other : Text} {value : α}

@[simp] theorem get?_nil (key : Text) : get? ([] : Keyed α) key = none := rfl

theorem get?_cons (entry : Text × α) (m : Keyed α) (key : Text) :
    get? (entry :: m) key = if entry.1 = key then some entry.2 else get? m key := by
  rw [get?, List.lookup_cons]
  by_cases here : entry.1 = key
  · simp [here]
  · have different : (key == entry.1) = false := by simpa using Ne.symm here
    simp [here, different, get?]

theorem get?_append (m m' : Keyed α) (key : Text) :
    get? (m ++ m') key = (get? m key).or (get? m' key) :=
  List.lookup_append

theorem has_iff_mem_keys : has m key = true ↔ key ∈ keys m := by
  induction m with
  | nil => simp [has, keys]
  | cons entry m ih =>
    rw [has, get?_cons]
    by_cases here : entry.1 = key
    · simp [keys, here]
    · simpa [keys, has, here, Ne.symm here] using ih

theorem get?_eq_none_iff : get? m key = none ↔ key ∉ keys m := by
  rw [← has_iff_mem_keys, has, Bool.not_eq_true, Option.isSome_eq_false_iff,
    Option.isNone_iff_eq_none]

theorem mem_keys_of_get? (found : get? m key = some value) : key ∈ keys m := by
  rw [← has_iff_mem_keys, has, found]
  rfl

theorem exists_get?_of_mem_keys (member : key ∈ keys m) : ∃ value, get? m key = some value :=
  Option.isSome_iff_exists.mp (has_iff_mem_keys.mpr member)

theorem get?_of_mem (nodup : (keys m).Nodup) (member : (key, value) ∈ m) :
    get? m key = some value := by
  induction m with
  | nil => simp at member
  | cons entry m ih =>
    obtain ⟨fresh, nodup'⟩ := List.nodup_cons.mp nodup
    rw [get?_cons]
    rcases List.mem_cons.mp member with rfl | later
    · exact if_pos rfl
    · have different : entry.1 ≠ key := fun same =>
        fresh (same ▸ List.mem_map_of_mem (f := Prod.fst) later)
      rw [if_neg different, ih nodup' later]

/-! ## Writes -/

@[simp] theorem get?_update (m : Keyed α) (key other : Text) (f : α → α) :
    get? (update m key f) other = if other = key then (get? m other).map f else get? m other := by
  induction m with
  | nil => simp [update]
  | cons entry m ih =>
    rw [update, List.map_cons, ← update, get?_cons, get?_cons, ih]
    by_cases here : entry.1 = key
    · by_cases same : other = key
      · simp [here, same]
      · simp [here, same, Ne.symm same]
    · by_cases same : entry.1 = other
      · have untouched : other ≠ key := fun again => here (same.trans again)
        simp [same, untouched]
      · simp [here, same]

@[simp] theorem get?_put (m : Keyed α) (key other : Text) (value : α) :
    get? (put m key value) other = if other = key then some value else get? m other := by
  rw [put]
  by_cases present : has m key = true
  · rw [if_pos present, get?_update]
    by_cases same : other = key
    · obtain ⟨old, found⟩ := Option.isSome_iff_exists.mp present
      simp [same, found]
    · simp [same]
  · rw [if_neg present, get?_append, get?_cons, get?_nil]
    by_cases same : other = key
    · have absent : get? m key = none := by simpa [has] using present
      simp [same, absent]
    · simp [same, Ne.symm same]

@[simp] theorem get?_erase (m : Keyed α) (key other : Text) :
    get? (erase m key) other = if other = key then none else get? m other := by
  induction m with
  | nil => simp [erase]
  | cons entry m ih =>
    rw [erase, List.filter_cons, ← erase]
    by_cases here : entry.1 = key
    · rw [if_neg (by simpa using here), ih, get?_cons]
      by_cases same : other = key
      · simp [same]
      · simp [here, same, Ne.symm same]
    · rw [if_pos (by simpa using here), get?_cons, get?_cons, ih]
      by_cases same : other = key
      · simp [same, here]
      · simp [same]

theorem update_of_not_mem (absent : key ∉ keys m) (f : α → α) : update m key f = m := by
  rw [update]
  conv_rhs => rw [← List.map_id m]
  refine List.map_congr_left fun entry member => ?_
  have other : entry.1 ≠ key := fun same => absent (same ▸ List.mem_map_of_mem member)
  simp [other]

/-- To put in what an old value becomes is to change it. -/
theorem put_eq_update (nodup : (keys m).Nodup) (found : get? m key = some value) (f : α → α) :
    put m key (f value) = update m key f := by
  rw [put, if_pos (by simp [has, found]), update, update]
  refine List.map_congr_left fun entry member => ?_
  by_cases here : entry.1 = key
  · have same : value = entry.2 :=
      Option.some.inj (found.symm.trans (here ▸ get?_of_mem nodup member))
    simp [here, same]
  · simp [here]

/-- Of two values put in under one key, the later stays. -/
theorem put_put (m : Keyed α) (key : Text) (first second : α) :
    put (put m key first) key second = put m key second := by
  -- The first value makes the key present, so the second is written over it.
  have present : has (put m key first) key = true := by
    simp [has]
  rw [put, if_pos present, put, put]
  by_cases already : has m key = true
  · rw [if_pos already, if_pos already, update, update, update, List.map_map]
    refine List.map_congr_left fun entry _ => ?_
    by_cases here : entry.1 = key <;> simp [here]
  · have absent : key ∉ keys m := mt has_iff_mem_keys.mpr already
    have ahead : update (m ++ [(key, first)]) key (fun _ => second) =
        update m key (fun _ => second) ++ [(key, second)] := by
      simp [update]
    rw [if_neg already, if_neg already, ahead, update_of_not_mem absent]

/-- What holds of all values goes on to hold when another one is put in. -/
theorem forall_put {P : α → Prop} (before : ∀ entry ∈ m, P entry.2) (new : P value) :
    ∀ entry ∈ put m key value, P entry.2 := by
  intro entry member
  rw [put] at member
  split at member
  · obtain ⟨old, there, rfl⟩ := List.mem_map.mp member
    split
    · exact new
    · exact before old there
  · rcases List.mem_append.mp member with there | last
    · exact before entry there
    · rw [List.mem_singleton.mp last]
      exact new

/-- Values may be dropped by what they are, as long as no other value of the key comes to light. -/
theorem get?_filter (nodup : (keys m).Nodup) (kept : α → Bool) (key : Text) :
    get? (m.filter fun entry => kept entry.2) key = (get? m key).filter kept := by
  induction m with
  | nil => simp
  | cons entry m ih =>
    obtain ⟨fresh, nodup'⟩ := List.nodup_cons.mp nodup
    rw [List.filter_cons, get?_cons]
    by_cases keep : kept entry.2 = true
    · rw [if_pos keep, get?_cons, ih nodup']
      by_cases here : entry.1 = key
      · simp [here, Option.filter, keep]
      · simp [here]
    · rw [if_neg keep, ih nodup']
      by_cases here : entry.1 = key
      · -- With the entry gone no other of its key is left.
        have absent : get? m key = none := get?_eq_none_iff.mpr (here ▸ fresh)
        simp [here, absent, Option.filter, keep]
      · simp [here]

/-- Entries may be dropped by their keys. -/
theorem get?_filter_key (m : Keyed α) (kept : Text → Bool) (key : Text) :
    get? (m.filter fun entry => kept entry.1) key = if kept key then get? m key else none := by
  induction m with
  | nil => simp
  | cons entry m ih =>
    rw [List.filter_cons, get?_cons]
    by_cases here : entry.1 = key
    · by_cases keep : kept key = true
      · simp [here, keep, get?_cons]
      · simp [here, keep, ih]
    · by_cases keep : kept entry.1 = true
      · simp [here, keep, get?_cons, ih]
      · simp [here, keep, ih]

@[simp] theorem get?_map {β : Type} (m : Keyed α) (f : α → β) (key : Text) :
    get? (m.map fun entry => (entry.1, f entry.2)) key = (get? m key).map f := by
  induction m with
  | nil => rfl
  | cons entry m ih =>
    rw [List.map_cons, get?_cons, get?_cons, ih]
    by_cases here : entry.1 = key <;> simp [here]

/-- A lookup finds the first value of the key. -/
theorem getElem?_idxOf (m : Keyed α) (key : Text) :
    (m.map Prod.snd)[(keys m).idxOf key]? = get? m key := by
  induction m with
  | nil => rfl
  | cons entry m ih =>
    rw [get?_cons, keys, List.map_cons, List.map_cons, ← keys]
    by_cases here : entry.1 = key
    · simp [here]
    · rw [List.idxOf_cons_ne _ here, List.getElem?_cons_succ, ih, if_neg here]

/-- What is looked up among the kept entries was there before. -/
theorem get?_of_filter (nodup : (keys m).Nodup) {kept : Text × α → Bool}
    (found : get? (m.filter kept) key = some value) : get? m key = some value := by
  have member : (key, value) ∈ m.filter kept := by
    rw [get?, List.lookup_eq_some_iff] at found
    obtain ⟨front, back, whole, -⟩ := found
    exact whole ▸ List.mem_append_right _ List.mem_cons_self
  exact get?_of_mem nodup (List.mem_filter.mp member).1

/-! ## Writes among kept values -/

section Kept

variable (kept : α → Bool)

theorem filter_update (f : α → α) (same : ∀ value, kept (f value) = kept value) (m : Keyed α)
    (key : Text) :
    (update m key f).filter (fun entry => kept entry.2) =
      update (m.filter fun entry => kept entry.2) key f := by
  rw [update, update, List.filter_map]
  refine congrArg _ (List.filter_congr fun entry _ => ?_)
  by_cases here : entry.1 = key <;> simp [here, same]

theorem filter_erase (m : Keyed α) (key : Text) :
    (erase m key).filter (fun entry => kept entry.2) =
      erase (m.filter fun entry => kept entry.2) key :=
  List.filter_comm _ _ _

/-- Unless the old value is one that is not kept, a value may be put in among the kept ones. -/
theorem filter_put (nodup : (keys m).Nodup) (clear : ∀ old, get? m key = some old → kept old = true)
    (value : α) :
    (put m key value).filter (fun entry => kept entry.2) =
      if kept value then put (m.filter fun entry => kept entry.2) key value
      else erase (m.filter fun entry => kept entry.2) key := by
  have has_filter : has (m.filter fun entry => kept entry.2) key = has m key := by
    rw [has, get?_filter nodup, has]
    cases found : get? m key with
    | none => rfl
    | some old => simp [Option.filter, clear old found]
  rw [put, put, has_filter]
  by_cases present : has m key = true
  · rw [if_pos present, if_pos present, update, List.filter_map]
    by_cases keep : kept value = true
    · rw [if_pos keep, update]
      refine congrArg _ (List.filter_congr fun entry member => ?_)
      by_cases here : entry.1 = key
      · simp [here, keep, clear entry.2 (here ▸ get?_of_mem nodup member)]
      · simp [here]
    · rw [if_neg keep, erase, List.filter_filter]
      -- The entry of the key goes, and no other is changed.
      have rest : m.filter ((fun entry => kept entry.2) ∘ fun entry =>
          if entry.1 = key then (entry.1, value) else entry) =
          m.filter fun entry => decide (entry.1 ≠ key) && kept entry.2 := by
        refine List.filter_congr fun entry _ => ?_
        by_cases here : entry.1 = key <;> simp [here, keep]
      rw [rest]
      refine (List.map_congr_left fun entry member => ?_).trans (List.map_id _)
      have other : entry.1 ≠ key := by
        simpa using (Bool.and_eq_true_iff.mp (List.mem_filter.mp member).2).1
      simp [other]
  · have absent : key ∉ keys (m.filter fun entry => kept entry.2) :=
      mt has_iff_mem_keys.mpr (by rwa [has_filter])
    rw [if_neg present, if_neg present, List.filter_append]
    by_cases keep : kept value = true
    · simp [keep]
    · rw [if_neg keep, erase]
      refine Eq.trans (by simp [keep]) (List.filter_eq_self.mpr fun entry member => ?_).symm
      have other : entry.1 ≠ key := fun same => absent (same ▸ List.mem_map_of_mem member)
      simpa using other

end Kept

/-! ## Keys -/

@[simp] theorem keys_update (m : Keyed α) (key : Text) (f : α → α) :
    keys (update m key f) = keys m := by
  rw [keys, keys, update, List.map_map]
  refine List.map_congr_left fun entry _ => ?_
  by_cases here : entry.1 = key <;> simp [here]

theorem keys_put (m : Keyed α) (key : Text) (value : α) :
    keys (put m key value) = if has m key then keys m else keys m ++ [key] := by
  rw [put]
  by_cases present : has m key = true
  · rw [if_pos present, if_pos present, keys_update]
  · rw [if_neg present, if_neg present, keys, keys, List.map_append, List.map_singleton]

theorem keys_put_of_mem (present : key ∈ keys m) : keys (put m key value) = keys m := by
  rw [keys_put, if_pos (has_iff_mem_keys.mpr present)]

theorem keys_put_of_not_mem (absent : key ∉ keys m) :
    keys (put m key value) = keys m ++ [key] := by
  rw [keys_put, if_neg (mt has_iff_mem_keys.mp absent)]

theorem mem_keys_put : other ∈ keys (put m key value) ↔ other = key ∨ other ∈ keys m := by
  by_cases present : key ∈ keys m
  · rw [keys_put_of_mem present]
    exact ⟨Or.inr, fun either => either.elim (fun same => same ▸ present) id⟩
  · rw [keys_put_of_not_mem present, List.mem_append, List.mem_singleton, or_comm]

theorem keys_erase (m : Keyed α) (key : Text) :
    keys (erase m key) = (keys m).filter (· ≠ key) := by
  rw [keys, keys, erase, List.filter_map]
  rfl

theorem nodup_keys_put (nodup : (keys m).Nodup) (key : Text) (value : α) :
    (keys (put m key value)).Nodup := by
  by_cases present : key ∈ keys m
  · rwa [keys_put_of_mem present]
  · rw [keys_put_of_not_mem present]
    exact nodup.append (List.nodup_singleton key) (by simpa using present)

theorem erase_of_not_mem (absent : key ∉ keys m) : erase m key = m := by
  refine List.filter_eq_self.mpr fun entry member => ?_
  have other : entry.1 ≠ key := fun same => absent (same ▸ List.mem_map_of_mem member)
  simpa using other

theorem erase_put_of_not_mem (absent : key ∉ keys m) (value : α) :
    erase (put m key value) key = m := by
  have new : ¬ has m key = true := mt has_iff_mem_keys.mp absent
  rw [put, if_neg new, erase, List.filter_append, ← erase, erase_of_not_mem absent]
  simp

theorem nodup_keys_erase (nodup : (keys m).Nodup) (key : Text) : (keys (erase m key)).Nodup := by
  rw [keys_erase]
  exact nodup.filter _

theorem keys_filter_sublist (m : Keyed α) (kept : Text × α → Bool) :
    (keys (m.filter kept)).Sublist (keys m) :=
  List.filter_sublist.map Prod.fst

theorem nodup_keys_filter (nodup : (keys m).Nodup) (kept : Text × α → Bool) :
    (keys (m.filter kept)).Nodup :=
  nodup.sublist (keys_filter_sublist m kept)

end SandboxPreview.Keyed
