/-
# Stores and their pasts

What a store shows is told by the calls that were made on it. The calls and their answers make up
its past, the latest entry first. The projects that were loaded and not removed since stand in the
store in the order of loading, each with the files and the explanation it came with; its log holds
the events that were recorded since it was loaded or last cleared. New projects take new ids.

## Main definitions

* `Entry`: a call with its answer;
* `Reaches`: the stores that runs of calls reach, with their pasts;
* `standing`, `recorded`: the projects and the events that a past tells of.

## Main results

* `Reaches.projects_eq`: the projects of a store are those that its past tells of;
* `history_kept`: what the calls on a store show of that, and that refused calls change nothing.
-/
import SandboxPreview.Proofs.Console.Receiving
import SandboxPreview.Proofs.Store

namespace SandboxPreview.ProjectStore

open Console (Message)

/-- A call at an instant with its answer. A project that it makes takes the id `fresh`. -/
structure Entry where
  now : Instant
  fresh : Text
  call : Call
  answer : Except StoreError Answer

/-- A project as it was loaded. -/
structure Loading where
  id : Text
  artifacts : List Artifact
  explanation : Text
  deriving DecidableEq

namespace Entry

/-- The project that was loaded. -/
def loading? (e : Entry) : Option Loading :=
  match e.call with
  | .loadReply reply => some ⟨e.fresh, Reply.extract reply, Reply.explanation reply⟩
  | .loadArtifacts artifacts explanation => some ⟨e.fresh, artifacts, explanation⟩
  | _ => none

/-- The project was removed. -/
def removes (e : Entry) (id : Text) : Bool :=
  match e.call, e.answer with
  | .remove removed, .ok _ => removed = id
  | _, _ => false

/-- The project's log was cleared. -/
def clears (e : Entry) (id : Text) : Bool :=
  match e.call, e.answer with
  | .clearLog cleared, .ok _ => cleared = id
  | _, _ => false

/-- The project was loaded. -/
def loads (e : Entry) (id : Text) : Bool := e.loading?.any fun l => l.id = id

/-- The event that was recorded in the project's log. -/
def recorded? (e : Entry) (id : Text) : Option Console.Event :=
  match e.call, e.answer with
  | .record written _, .ok (.event event) => if written = id then some event else none
  | _, _ => none

end Entry

/-- All projects that were loaded, in order. -/
def loadings (past : List Entry) : List Loading := (past.filterMap Entry.loading?).reverse

/-- The projects that were loaded and not removed, in the order of loading. -/
def standing (past : List Entry) : List Loading :=
  (loadings past).filter fun l => !past.any fun e => e.removes l.id

/-- The events that were recorded for a project since it was loaded or its log was last cleared,
oldest first. -/
def recorded (past : List Entry) (id : Text) : List Console.Event :=
  ((past.takeWhile fun e => !(e.loads id || e.clears id)).filterMap fun e => e.recorded? id).reverse

/-- The entry of a call. -/
def entry (s : ProjectStore) (p : Pipeline) (fresh : Text) (now : Instant) (call : Call) : Entry :=
  ⟨now, fresh, call, (s.call p fresh now call).2⟩

/-- A run of calls leads from the empty store to others. Its past is kept with the latest entry
first. -/
inductive Reaches (p : Pipeline) : List Entry → ProjectStore → Prop
  | start : Reaches p [] {}
  | step {past : List Entry} {s : ProjectStore} (reached : Reaches p past s) (fresh : Text)
      (now : Instant) (call : Call) :
      Reaches p (s.entry p fresh now call :: past) (s.call p fresh now call).1

variable {p : Pipeline} {s : ProjectStore} {past : List Entry} {e : Entry} {l : Loading}
  {fresh id : Text} {now : Instant} {call : Call}

/-! ## Pasts -/

theorem loadings_cons (e : Entry) (past : List Entry) :
    loadings (e :: past) = loadings past ++ e.loading?.toList := by
  rw [loadings, List.filterMap_cons]
  cases e.loading? with
  | none => simp [loadings]
  | some l => simp [loadings]

/-- An entry takes a project away or adds one at the end. -/
theorem standing_cons (e : Entry) (past : List Entry) :
    standing (e :: past) = (standing past).filter (fun l => !e.removes l.id) ++
      e.loading?.toList.filter fun l => !(e :: past).any fun e => e.removes l.id := by
  rw [standing, loadings_cons, List.filter_append, standing, List.filter_filter]
  congr 2
  funext l
  simp

theorem recorded_cons (e : Entry) (past : List Entry) (id : Text) :
    recorded (e :: past) id =
      if e.loads id || e.clears id then [] else recorded past id ++ (e.recorded? id).toList := by
  rw [recorded, List.takeWhile_cons]
  cases stops : e.loads id || e.clears id with
  | true => rfl
  | false =>
    rw [Bool.not_false, if_pos rfl, List.filterMap_cons, if_neg (by simp)]
    cases e.recorded? id with
    | none => simp [recorded]
    | some event => simp [recorded]

/-- The project of a loading, as its past leaves it. -/
def Loading.project (l : Loading) (p : Pipeline) (past : List Entry) : Project :=
  ⟨l.artifacts, l.explanation, ⟨p.options.sourceTag, recorded past l.id⟩⟩

/-- The projects that a past tells of. -/
def told (p : Pipeline) (past : List Entry) : Keyed Project :=
  (standing past).map fun l => (l.id, l.project p past)

theorem keys_told : (told p past).keys = (standing past).map Loading.id := by
  simp [told, Keyed.keys, Function.comp_def]

theorem standing_sublist : (standing past).Sublist (loadings past) := List.filter_sublist

theorem nodup_told (distinct : ((loadings past).map Loading.id).Nodup) :
    (told p past).keys.Nodup := by
  rw [keys_told]
  exact distinct.sublist (standing_sublist.map _)

/-- An entry that loads, removes, clears and records nothing leaves what the past tells. -/
theorem told_cons_of_idle (unloaded : e.loading? = none) (unremoved : ∀ id, e.removes id = false)
    (uncleared : ∀ id, e.clears id = false) (unrecorded : ∀ id, e.recorded? id = none) :
    told p (e :: past) = told p past := by
  simp [told, standing_cons, Loading.project, recorded_cons, Entry.loads, unloaded, unremoved,
    uncleared, unrecorded]

theorem told_cons_of_error {error : StoreError} (unloaded : e.loading? = none)
    (failed : e.answer = .error error) : told p (e :: past) = told p past := by
  obtain ⟨now, fresh, call, answer⟩ := e
  obtain rfl : answer = .error error := failed
  refine told_cons_of_idle unloaded ?_ ?_ ?_
  · intro id
    cases call <;> rfl
  · intro id
    cases call <;> rfl
  · intro id
    cases call <;> rfl

theorem told_cons_of_remove {answer : Answer} (removed : e.call = .remove id)
    (answered : e.answer = .ok answer) : told p (e :: past) = (told p past).erase id := by
  obtain ⟨now, fresh, call, answer⟩ := e
  obtain rfl : call = .remove id := removed
  obtain rfl : answer = .ok _ := answered
  simp [told, standing_cons, Entry.loading?, Entry.removes, Keyed.erase, List.filter_map,
    Loading.project, recorded_cons, Entry.loads, Entry.clears, Entry.recorded?, Function.comp_def,
    eq_comm]

/-- An entry that touches no more than one log changes that project alone. -/
theorem told_cons_of_log (id : Text) (unloaded : e.loading? = none)
    (unremoved : ∀ id, e.removes id = false)
    (uncleared : ∀ other, other ≠ id → e.clears other = false)
    (unrecorded : ∀ other, other ≠ id → e.recorded? other = none) :
    told p (e :: past) = (told p past).update id fun project =>
      { project with log := ⟨p.options.sourceTag, recorded (e :: past) id⟩ } := by
  rw [told, standing_cons, unloaded, told, Keyed.update, List.map_map]
  simp only [unremoved, Option.toList_none, List.filter_nil, List.append_nil, Bool.not_false,
    List.filter_true]
  refine List.map_congr_left fun l _ => ?_
  by_cases same : l.id = id
  · simp [Loading.project, same]
  · simp [Loading.project, same, recorded_cons, Entry.loads, unloaded, uncleared l.id same,
      unrecorded l.id same]

theorem told_cons_of_record {payload : Json} {event : Console.Event}
    (called : e.call = .record id payload) (answered : e.answer = .ok (.event event)) :
    told p (e :: past) = (told p past).update id fun project =>
      { project with log := ⟨p.options.sourceTag, recorded past id ++ [event]⟩ } := by
  obtain ⟨now, fresh, call, answer⟩ := e
  obtain rfl : call = .record id payload := called
  obtain rfl : answer = .ok (.event event) := answered
  have others (other : Text) (different : other ≠ id) :
      Entry.recorded? ⟨now, fresh, .record id payload, .ok (.event event)⟩ other = none :=
    if_neg different.symm
  rw [told_cons_of_log id rfl (fun _ => rfl) (fun _ _ => rfl) others]
  simp [recorded_cons, Entry.loads, Entry.loading?, Entry.clears, Entry.recorded?]

theorem told_cons_of_clear {answer : Answer} (called : e.call = .clearLog id)
    (answered : e.answer = .ok answer) :
    told p (e :: past) = (told p past).update id fun project =>
      { project with log := ⟨p.options.sourceTag, []⟩ } := by
  obtain ⟨now, fresh, call, answer⟩ := e
  obtain rfl : call = .clearLog id := called
  obtain rfl : answer = .ok _ := answered
  have others (other : Text) (different : other ≠ id) :
      Entry.clears ⟨now, fresh, .clearLog id, .ok answer⟩ other = false :=
    decide_eq_false different.symm
  rw [told_cons_of_log id rfl (fun _ => rfl) others fun _ _ => rfl]
  simp [recorded_cons, Entry.loads, Entry.clears]

theorem get?_told (distinct : ((loadings past).map Loading.id).Nodup) (stands : l ∈ standing past) :
    (told p past).get? l.id = some (l.project p past) :=
  Keyed.get?_of_mem (nodup_told distinct) (List.mem_map_of_mem stands)

theorem exists_of_get?_told {project : Project} (distinct : ((loadings past).map Loading.id).Nodup)
    (found : (told p past).get? id = some project) :
    ∃ l ∈ standing past, l.id = id ∧ project = l.project p past := by
  have member := Keyed.mem_keys_of_get? found
  rw [keys_told] at member
  obtain ⟨l, stands, rfl⟩ := List.mem_map.mp member
  exact ⟨l, stands, rfl, Option.some.inj (found.symm.trans (get?_told distinct stands))⟩

/-! ## Calls -/

theorem find_eq_ok_iff {project : Project} :
    s.find id = .ok project ↔ s.projects.get? id = some project := by
  rw [find]
  cases s.projects.get? id <;> simp

theorem find_of_not_contains (absent : ¬ s.contains id = true) :
    s.find id = .error (.unknownProject id) := by
  have missing : s.projects.get? id = none := by simpa [contains, Keyed.has] using absent
  rw [find, missing]

/-- The project that a call cannot do without. -/
def Call.needs? : Call → Option Text
  | .artifacts id | .explanation id | .classify id | .assemble id | .remove id | .record id _
  | .events id | .clearLog id => some id
  | .loadReply _ | .loadArtifacts _ _ | .projects | .contains _ => none

/-- A call on a project loads none. -/
theorem loading?_of_needs? {answer : Except StoreError Answer} (needed : call.needs? = some id) :
    Entry.loading? ⟨now, fresh, call, answer⟩ = none := by
  cases call with
  | loadReply | loadArtifacts => simp [Call.needs?] at needed
  | _ => rfl

theorem call_of_not_contains (p : Pipeline) (fresh : Text) (now : Instant)
    (needed : call.needs? = some id) (absent : ¬ s.contains id = true) :
    s.call p fresh now call = (s, .error (.unknownProject id)) := by
  have missing := find_of_not_contains absent
  cases call with
  | artifacts | explanation | classify | assemble | remove | record | events | clearLog =>
    obtain rfl := Option.some.inj needed
    simp [ProjectStore.call, classify, assemble, remove, record, events, clearLog, query, change,
      missing, absent, Except.map, bind, Except.bind]
  | loadReply | loadArtifacts | projects | contains => simp [Call.needs?] at needed

theorem call_remove (p : Pipeline) (fresh : Text) (now : Instant)
    (present : s.contains id = true) :
    s.call p fresh now (.remove id) = (⟨s.projects.erase id⟩, .ok .nothing) := by
  simp [ProjectStore.call, remove, present, change, Except.map]

theorem call_clearLog {project : Project} (p : Pipeline) (fresh : Text) (now : Instant)
    (found : s.find id = .ok project) :
    s.call p fresh now (.clearLog id) =
      (s.withLog id { project.log with events := [] }, .ok (.count project.log.events.length)) := by
  simp [ProjectStore.call, clearLog, found, change, Except.map, Console.Log.clear]

theorem call_record_of_ok {project : Project} {payload : Json} {event : Console.Event}
    {log : Console.Log} (p : Pipeline) (fresh : Text) (found : s.find id = .ok project)
    (received : project.log.receive now payload = .ok (event, log)) :
    s.call p fresh now (.record id payload) = (s.withLog id log, .ok (.event event)) := by
  simp [ProjectStore.call, record, found, received, change, bind, Except.bind, pure, Except.pure]

theorem call_record_of_error {project : Project} {payload : Json} {refusal : Console.Refusal}
    (p : Pipeline) (fresh : Text) (found : s.find id = .ok project)
    (received : project.log.receive now payload = .error refusal) :
    s.call p fresh now (.record id payload) = (s, .error (.refused refusal)) := by
  simp [ProjectStore.call, record, found, received, change, bind, Except.bind]

theorem exists_of_call_record {payload : Json} {event : Console.Event}
    (answered : (s.call p fresh now (.record id payload)).2 = .ok (.event event)) :
    ∃ project log, s.find id = .ok project ∧
      project.log.receive now payload = .ok (event, log) := by
  cases found : s.find id with
  | error e => simp [ProjectStore.call, record, found, change, bind, Except.bind] at answered
  | ok project =>
    cases received : project.log.receive now payload with
    | error refusal => simp [call_record_of_error p fresh found received] at answered
    | ok result =>
      obtain ⟨event', log⟩ := result
      have same : event' = event := by
        simpa [call_record_of_ok p fresh found received] using answered
      exact ⟨project, log, rfl, same ▸ received⟩

/-! ## Runs -/

theorem removes_entry :
    (s.entry p fresh now call).removes id = true ↔ call = .remove id ∧ s.contains id = true := by
  cases call with
  | remove removed =>
    by_cases present : s.contains removed = true
    · simp only [Entry.removes, entry, ProjectStore.call, remove, if_pos present, change,
        Except.map, decide_eq_true_eq, Call.remove.injEq]
      exact ⟨fun same => ⟨same, same ▸ present⟩, And.left⟩
    · simp only [Entry.removes, entry, ProjectStore.call, remove, if_neg present, change,
        Except.map, Bool.false_eq_true, Call.remove.injEq, false_iff, not_and]
      rintro rfl
      exact present
  | _ => simp [Entry.removes, entry]

theorem recorded?_entry {written : Text} {payload : Json} {event : Console.Event} :
    (s.entry p fresh now (.record written payload)).recorded? id = some event ↔
      written = id ∧ (s.call p fresh now (.record written payload)).2 = .ok (.event event) := by
  simp only [Entry.recorded?, entry]
  split
  case h_1 written' payload' recorded same answered =>
    obtain ⟨rfl, rfl⟩ := Call.record.inj same
    simp [answered]
  case h_2 other =>
    refine iff_of_false (by simp) ?_
    rintro ⟨-, answered⟩
    exact other _ _ _ rfl answered

theorem ids_of_loading? :
    (s.entry p fresh now call).loading?.toList.map Loading.id =
      if call.loads then [fresh] else [] := by
  cases call <;> rfl

/-- Only projects that were loaded are in the store. -/
theorem Reaches.mem_ids_of_contains (reached : Reaches p past s) (present : s.contains id = true) :
    id ∈ (loadings past).map Loading.id := by
  rw [contains_iff] at present
  induction reached with
  | start => simp [Keyed.keys] at present
  | @step past s reached fresh now call ih =>
    rw [loadings_cons, List.map_append, ids_of_loading?, List.mem_append]
    have turn := turn_call s p fresh now call
    generalize (s.call p fresh now call).1 = after at turn present
    cases turn with
    | load project loads =>
      rcases Keyed.mem_keys_put.mp present with rfl | before
      · exact Or.inr (by simp [loads])
      · exact Or.inl (ih before)
    | remove removed =>
      rw [Keyed.keys_erase] at present
      exact Or.inl (ih (List.mem_of_mem_filter present))
    | log written log =>
      rw [withLog, Keyed.keys_update] at present
      exact Or.inl (ih present)
    | nothing => exact Or.inl (ih present)

/-- Only projects that were loaded have been removed. -/
theorem Reaches.mem_ids_of_removes (reached : Reaches p past s) (member : e ∈ past)
    (removed : e.removes id = true) : id ∈ (loadings past).map Loading.id := by
  induction reached with
  | start => simp at member
  | @step past s reached fresh now call ih =>
    rw [loadings_cons, List.map_append, List.mem_append]
    rcases List.mem_cons.mp member with rfl | before
    · exact Or.inl (reached.mem_ids_of_contains (removes_entry.mp removed).2)
    · exact Or.inl (ih before)

/-- Loading does nothing else. -/
theorem idle_of_loading? (loaded : e.loading? = some l) (id : Text) :
    e.removes id = false ∧ e.clears id = false ∧ e.recorded? id = none := by
  obtain ⟨now, fresh, call, answer⟩ := e
  cases call with
  | loadReply | loadArtifacts => exact ⟨rfl, rfl, rfl⟩
  | _ => simp [Entry.loading?] at loaded

/-- A project that is loaded under a new id comes last. -/
theorem told_cons_of_load (loaded : e.loading? = some l)
    (new : l.id ∉ (loadings past).map Loading.id)
    (unremoved : ∀ e ∈ past, e.removes l.id = false) :
    told p (e :: past) =
      (told p past).put l.id ⟨l.artifacts, l.explanation, ⟨p.options.sourceTag, []⟩⟩ := by
  have absent : l.id ∉ (told p past).keys := by
    rw [keys_told]
    exact fun member => new ((standing_sublist.map Loading.id).subset member)
  have kept : standing (e :: past) = standing past ++ [l] := by
    simpa [standing_cons, loaded, (idle_of_loading? loaded _).1] using unremoved
  have logs (other : Text) : recorded (e :: past) other =
      if other = l.id then [] else recorded past other := by
    obtain ⟨-, uncleared, unrecorded⟩ := idle_of_loading? loaded other
    simp [recorded_cons, Entry.loads, loaded, uncleared, unrecorded, eq_comm]
  rw [Keyed.put, if_neg (mt Keyed.has_iff_mem_keys.mp absent), told, kept, List.map_append, told]
  congr 1
  · refine List.map_congr_left fun other stands => ?_
    have different : other.id ≠ l.id := fun same =>
      new (same ▸ List.mem_map_of_mem (standing_sublist.subset stands))
    simp [Loading.project, logs, different]
  · simp [Loading.project, logs]

/-- The projects of a store are those that its past tells of. -/
theorem Reaches.projects_eq (reached : Reaches p past s)
    (distinct : ((loadings past).map Loading.id).Nodup) : s.projects = told p past := by
  induction reached with
  | start => rfl
  | @step past s reached fresh now call ih =>
    rw [loadings_cons, List.map_append, ids_of_loading?] at distinct
    have before := distinct.of_append_left
    have projects := ih before
    -- What is loaded now has an id under which nothing was loaded before.
    have load (l : Loading) (loaded : (s.entry p fresh now call).loading? = some l)
        (loads : call.loads = true) (own : l.id = fresh) :
        told p (s.entry p fresh now call :: past) =
          s.projects.put fresh ⟨l.artifacts, l.explanation, ⟨p.options.sourceTag, []⟩⟩ := by
      have new : fresh ∉ (loadings past).map Loading.id := by
        rw [if_pos loads] at distinct
        exact fun member => List.disjoint_of_nodup_append distinct member (by simp)
      subst own
      rw [projects]
      refine told_cons_of_load loaded new fun e member => ?_
      rw [Bool.eq_false_iff]
      exact fun removed => new (reached.mem_ids_of_removes member removed)
    by_cases refused : ∃ id, call.needs? = some id ∧ ¬ s.contains id = true
    · obtain ⟨id, needed, absent⟩ := refused
      rw [entry, call_of_not_contains p fresh now needed absent, projects]
      exact (told_cons_of_error (loading?_of_needs? needed) rfl).symm
    -- From here on the project of the call is in the store.
    have known (id : Text) (needed : call.needs? = some id) : s.contains id = true := by
      by_contra absent
      exact refused ⟨id, needed, absent⟩
    have loadedAs (id : Text) (needed : call.needs? = some id) :
        ∃ l ∈ standing past, l.id = id ∧ s.find id = .ok (l.project p past) := by
      obtain ⟨project, found⟩ := Option.isSome_iff_exists.mp (known id needed)
      obtain ⟨l, stands, same, rfl⟩ := exists_of_get?_told before (projects ▸ found)
      exact ⟨l, stands, same, find_eq_ok_iff.mpr found⟩
    cases call with
    | loadReply reply => exact (load _ rfl rfl rfl).symm
    | loadArtifacts artifacts explanation => exact (load _ rfl rfl rfl).symm
    | remove id =>
      rw [entry, call_remove p fresh now (known id rfl), projects]
      exact (told_cons_of_remove rfl rfl).symm
    | record id payload =>
      obtain ⟨l, stands, rfl, found⟩ := loadedAs id rfl
      cases received : (l.project p past).log.receive now payload with
      | error refusal =>
        rw [entry, call_record_of_error p fresh found received, projects]
        exact (told_cons_of_error rfl rfl).symm
      | ok result =>
        obtain ⟨-, -, -, -, log⟩ := Console.exists_of_receive received
        rw [entry, call_record_of_ok p fresh found received, withLog, projects, log]
        exact (told_cons_of_record rfl rfl).symm
    | clearLog id =>
      obtain ⟨l, stands, rfl, found⟩ := loadedAs id rfl
      rw [entry, call_clearLog p fresh now found, withLog, projects]
      exact (told_cons_of_clear rfl rfl).symm
    | artifacts | explanation | classify | assemble | projects | contains | events =>
      rw [ProjectStore.call, query_fst, projects]
      exact (told_cons_of_idle rfl (fun _ => rfl) (fun _ => rfl) fun _ => rfl).symm

/-! ## What a store shows -/

theorem Reaches.find_of_stands (reached : Reaches p past s)
    (distinct : ((loadings past).map Loading.id).Nodup) (stands : l ∈ standing past) :
    s.find l.id = .ok (l.project p past) := by
  rw [find_eq_ok_iff, reached.projects_eq distinct]
  exact get?_told distinct stands

theorem Reaches.not_contains (reached : Reaches p past s)
    (distinct : ((loadings past).map Loading.id).Nodup)
    (unknown : ∀ l ∈ standing past, l.id ≠ id) : ¬ s.contains id = true := by
  rw [contains_iff, reached.projects_eq distinct, keys_told, List.mem_map]
  rintro ⟨l, stands, same⟩
  exact unknown l stands same

theorem Reaches.summaries_eq (reached : Reaches p past s)
    (distinct : ((loadings past).map Loading.id).Nodup) :
    s.summaries p = (standing past).map fun l =>
      ⟨l.id, p.classify l.artifacts, l.artifacts.length, (recorded past l.id).length⟩ := by
  rw [summaries, reached.projects_eq distinct, told, List.map_map]
  rfl

/-- Every recorded event is that of a message that carried the tag of previews. -/
theorem Reaches.exists_of_recorded? {event : Console.Event} (reached : Reaches p past s)
    (distinct : ((loadings past).map Loading.id).Nodup) (member : e ∈ past)
    (found : e.recorded? id = some event) :
    ∃ payload, ∃ m : Message, e.call = .record id payload ∧ m.SpelledBy payload ∧
      m.source = p.options.sourceTag ∧ event = m.event e.now := by
  induction reached with
  | start => simp at member
  | @step past s reached fresh now call ih =>
    rw [loadings_cons, List.map_append] at distinct
    have before := distinct.of_append_left
    rcases List.mem_cons.mp member with rfl | earlier
    · cases call with
      | record written payload =>
        obtain ⟨rfl, answered⟩ := recorded?_entry.mp found
        obtain ⟨project, log, known, received⟩ := exists_of_call_record answered
        rw [find_eq_ok_iff, reached.projects_eq before] at known
        obtain ⟨l, -, -, rfl⟩ := exists_of_get?_told before known
        obtain ⟨m, spelled, own, same, -⟩ := Console.exists_of_receive received
        exact ⟨payload, m, rfl, spelled, own, same⟩
      | _ => simp [Entry.recorded?, entry] at found
    · exact ih before earlier

/-- The projects of a store are those that were loaded and not removed, in the order of loading,
with the files and the explanation they came with. The log of each holds the events of the
messages that were recorded since it was loaded or last cleared. A message that is refused and a
call on an unknown project change nothing. -/
theorem history_kept (reached : Reaches p past s)
    (distinct : ((loadings past).map Loading.id).Nodup) :
    (∀ fresh now, s.call p fresh now .projects =
      (s, .ok (.projects ((standing past).map fun l =>
        ⟨l.id, p.classify l.artifacts, l.artifacts.length, (recorded past l.id).length⟩)))) ∧
    (∀ l ∈ standing past, ∀ fresh now,
      s.call p fresh now (.artifacts l.id) = (s, .ok (.artifacts l.artifacts)) ∧
      s.call p fresh now (.explanation l.id) = (s, .ok (.text l.explanation)) ∧
      s.call p fresh now (.classify l.id) = (s, .ok (.kind (p.classify l.artifacts))) ∧
      s.call p fresh now (.assemble l.id) =
        (s, .ok (.preview { p.assemble l.artifacts with explanation := l.explanation })) ∧
      s.call p fresh now (.events l.id) = (s, .ok (.events (recorded past l.id))) ∧
      (s.call p fresh now (.clearLog l.id)).2 = .ok (.count (recorded past l.id).length)) ∧
    (∀ e ∈ past, ∀ id event, e.recorded? id = some event →
      ∃ payload, ∃ m : Message, e.call = .record id payload ∧ m.SpelledBy payload ∧
        m.source = p.options.sourceTag ∧
        event = ⟨m.level, m.text, Clock.timeOfDay e.now⟩) ∧
    (∀ l ∈ standing past, ∀ fresh now payload,
      (∀ m : Message, m.SpelledBy payload → m.source = p.options.sourceTag →
        (s.call p fresh now (.record l.id payload)).2 =
          .ok (.event ⟨m.level, m.text, Clock.timeOfDay now⟩)) ∧
      (∀ m : Message, m.SpelledBy payload → m.source ≠ p.options.sourceTag →
        s.call p fresh now (.record l.id payload) =
          (s, .error (.refused (.foreign m.source)))) ∧
      ((∀ m : Message, ¬ m.SpelledBy payload) → ∃ issues,
        s.call p fresh now (.record l.id payload) =
          (s, .error (.refused (.malformed issues))))) ∧
    (∀ fresh now call id, call.needs? = some id → (∀ l ∈ standing past, l.id ≠ id) →
      s.call p fresh now call = (s, .error (.unknownProject id))) := by
  refine ⟨?_, ?_, ?_, ?_, ?_⟩
  · intro fresh now
    rw [ProjectStore.call, reached.summaries_eq distinct]
    rfl
  · intro l stands fresh now
    have found := reached.find_of_stands distinct stands
    refine ⟨?_, ?_, ?_, ?_, ?_, ?_⟩
    · rw [ProjectStore.call, found]
      rfl
    · rw [ProjectStore.call, found]
      rfl
    · rw [ProjectStore.call, classify, found]
      rfl
    · rw [ProjectStore.call, assemble, found]
      rfl
    · rw [ProjectStore.call, events, found]
      rfl
    · rw [call_clearLog p fresh now found]
      rfl
  · intro e member id event found
    exact reached.exists_of_recorded? distinct member found
  · intro l stands fresh now payload
    have found := reached.find_of_stands distinct stands
    refine ⟨?_, ?_, ?_⟩
    · intro m spelled own
      rw [call_record_of_ok p fresh found (Console.receive_of_spelledBy now spelled own)]
      rfl
    · intro m spelled other
      exact call_record_of_error p fresh found (Console.receive_of_foreign now spelled other)
    · intro unspelled
      obtain ⟨issues, refused⟩ :=
        Console.receive_of_not_spelledBy (l.project p past).log now unspelled
      exact ⟨issues, call_record_of_error p fresh found refused⟩
  · intro fresh now call id needed unknown
    exact call_of_not_contains p fresh now needed (reached.not_contains distinct unknown)

/-- A log is cleared and written again, a message without a text is refused, and a removed project
is unknown. -/
theorem history_kept_after_removal :
    let p : Pipeline := {}
    let message : Json := .object [("message".toList, .text "low"), ("type".toList, .text "warn"),
      ("source".toList, .text "PREVIEW_CONSOLE")]
    let first : List Artifact := [⟨"a.css", "css", "b"⟩]
    let start : ProjectStore := {}
    let loaded := ((start.call p "1" 0 (.loadArtifacts first "one")).1.call p "2" 1
      (.loadReply "two")).1
    let cleared := ((loaded.call p [] 2 (.record "1" message)).1.call p [] 3 (.clearLog "1")).1
    let written := ((cleared.call p [] 65 (.record "1" message)).1.call p [] 66
      (.record "1" (.object []))).1
    let s := (written.call p [] 67 (.remove "2")).1
    s.call p [] 70 .projects = (s, .ok (.projects [⟨"1", .plain, 1, 1⟩])) ∧
      s.call p [] 70 (.events "1") = (s, .ok (.events [⟨.warn, "low", "00:01:05"⟩])) ∧
      s.call p [] 70 (.artifacts "1") = (s, .ok (.artifacts first)) ∧
      s.call p [] 70 (.explanation "2") = (s, .error (.unknownProject "2")) := by
  intro p message first start loaded cleared written s
  obtain ⟨past, reached, ids, projects, log⟩ : ∃ past, Reaches p past s ∧
      (loadings past).map Loading.id = ["1".toList, "2".toList] ∧
      standing past = [⟨"1", first, "one"⟩] ∧
      recorded past "1" = [⟨.warn, "low", "00:01:05"⟩] :=
    ⟨_, .step (.step (.step (.step (.step (.step (.step .start "1" 0 _) "2" 1 _) [] 2 _) [] 3 _)
      [] 65 _) [] 66 _) [] 67 _, by decide, by decide, by decide⟩
  obtain ⟨lists, keeps, -, -, unknown⟩ := history_kept reached (by rw [ids]; decide)
  simp only [projects, List.map_cons, List.map_nil, List.mem_singleton, forall_eq, log]
    at lists keeps unknown
  obtain ⟨artifacts, -, -, -, events, -⟩ := keeps [] 70
  have kind : p.classify first = .plain := by decide
  rw [kind] at lists
  exact ⟨lists [] 70, events, artifacts, unknown [] 70 _ "2" rfl (by decide)⟩

end SandboxPreview.ProjectStore
