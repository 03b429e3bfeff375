/-
# Kept previews

The previews that a session keeps are those that would be made anew, for every project that is
still in its store. A preview of a removed project may stay behind; it is not given out, and since
a new project has a new id, no other project ever takes its place.

## Main definitions

* `State.Coherent`: the kept previews of a session agree with its store and its past.

## Main results

* `Coherent.called`, `Coherent.viewed`: calls and previews keep this;
* `Host.Reaches.coherent`: it holds after every run;
* `preview_coherent`: what previews and their count show of that.
-/
import SandboxPreview.Proofs.Session.Run
import SandboxPreview.Proofs.Store

namespace SandboxPreview.Session

open ProjectStore (contains_iff assemble_of_contains assemble_of_not_contains contains_of_assemble
  assemble_put_of_ne assemble_erase_of_ne assemble_withLog turn_call)

variable {h start : Host} {m : Manager} {now : Instant} {op : Operation} {id projectId : Text}
  {s : State} {past : List Event} {n n' : Issued} {p : Pipeline} {shown shown' : Text → Prop}

/-- A preview of the project was given in the session. A project is loaded into one session only,
so no earlier session of the same id counts here. -/
def wasShown (past : List Event) (id projectId : Text) : Bool :=
  past.any fun e => e.shows id projectId

/-- The kept previews agree with the store, and those of the projects in it are the ones that were
shown. -/
structure State.Coherent (n : Issued) (p : Pipeline) (shown : Text → Prop) (s : State) : Prop where
  nodupProjects : s.store.projects.keys.Nodup
  nodupPreviews : s.previews.keys.Nodup
  gaveProjects : ∀ id, s.store.contains id = true → n.GaveProject id
  gavePreviews : ∀ id ∈ s.previews.keys, n.GaveProject id
  agree : ∀ id kept, s.previews.get? id = some kept → s.store.contains id = true →
    s.store.assemble p id = .ok kept
  counted : ∀ id, s.store.contains id = true → (id ∈ s.previews.keys ↔ shown id)

namespace State.Coherent

/-- A session without projects and previews. -/
theorem of_empty (noProjects : s.store.projects = []) (noPreviews : s.previews = []) :
    s.Coherent n p shown where
  nodupProjects := by simp [noProjects, Keyed.keys]
  nodupPreviews := by simp [noPreviews, Keyed.keys]
  gaveProjects id present := by simp [contains_iff, noProjects, Keyed.keys] at present
  gavePreviews id member := by simp [noPreviews, Keyed.keys] at member
  agree id kept found := by simp [noPreviews] at found
  counted id present := by simp [contains_iff, noProjects, Keyed.keys] at present

/-- Only the store and the kept previews matter, and of the past only what it says about the
projects in the store. -/
theorem congr {s' : State} (coherent : s.Coherent n p shown) (later : n.Later n')
    (store : s'.store = s.store) (previews : s'.previews = s.previews)
    (same : ∀ id, s.store.contains id = true → (shown' id ↔ shown id)) :
    s'.Coherent n' p shown' where
  nodupProjects := store ▸ coherent.nodupProjects
  nodupPreviews := previews ▸ coherent.nodupPreviews
  gaveProjects id present := later.gaveProject (coherent.gaveProjects id (store ▸ present))
  gavePreviews id member := later.gaveProject (coherent.gavePreviews id (previews ▸ member))
  agree id kept found present := by
    rw [store] at present ⊢
    exact coherent.agree id kept (previews ▸ found) present
  counted id present := by
    rw [store] at present
    rw [previews, coherent.counted id present, same id present]

/-- A new project has an id under which nothing was kept or shown. -/
theorem load (coherent : s.Coherent n p shown) (later : n.Later n')
    (new : ¬ n.GaveProject id) (gave : n'.GaveProject id)
    (given : ∀ other, shown other → n.GaveProject other) (project : Project) :
    ({ s with store := ⟨s.store.projects.put id project⟩ } : State).Coherent n' p shown := by
  -- All that was kept or shown has an id that was given out before.
  have unkept : id ∉ s.previews.keys := fun member => new (coherent.gavePreviews id member)
  have unshown : ¬ shown id := fun seen => new (given id seen)
  have old (other : Text) (different : other ≠ id)
      (present : (⟨s.store.projects.put id project⟩ : ProjectStore).contains other = true) :
      s.store.contains other = true := by
    rw [contains_iff, Keyed.mem_keys_put] at present
    exact contains_iff.mpr (present.resolve_left different)
  constructor
  case nodupProjects => exact Keyed.nodup_keys_put coherent.nodupProjects _ _
  case nodupPreviews => exact coherent.nodupPreviews
  case gaveProjects =>
    intro other present
    by_cases same : other = id
    · exact same ▸ gave
    · exact later.gaveProject (coherent.gaveProjects other (old other same present))
  case gavePreviews =>
    intro other member
    exact later.gaveProject (coherent.gavePreviews other member)
  case agree =>
    intro other kept found present
    -- A kept preview is of another project, which the new one does not touch.
    have different : other ≠ id := fun same => unkept (same ▸ Keyed.mem_keys_of_get? found)
    rw [assemble_put_of_ne p project different]
    exact coherent.agree other kept found (old other different present)
  case counted =>
    intro other present
    by_cases same : other = id
    · rw [same]
      exact iff_of_false unkept unshown
    · exact coherent.counted other (old other same present)

theorem remove (coherent : s.Coherent n p shown) (id : Text) :
    ({ s with store := ⟨s.store.projects.erase id⟩ } : State).Coherent n p shown := by
  have old (other : Text)
      (present : (⟨s.store.projects.erase id⟩ : ProjectStore).contains other = true) :
      other ≠ id ∧ s.store.contains other = true := by
    rw [contains_iff, Keyed.keys_erase, List.mem_filter, decide_eq_true_eq] at present
    exact ⟨present.2, contains_iff.mpr present.1⟩
  constructor
  case nodupProjects => exact Keyed.nodup_keys_erase coherent.nodupProjects id
  case nodupPreviews => exact coherent.nodupPreviews
  case gaveProjects => exact fun other present => coherent.gaveProjects other (old other present).2
  case gavePreviews => exact coherent.gavePreviews
  case agree =>
    intro other kept found present
    rw [assemble_erase_of_ne p (old other present).1]
    exact coherent.agree other kept found (old other present).2
  case counted => exact fun other present => coherent.counted other (old other present).2

theorem withLog (coherent : s.Coherent n p shown) (id : Text) (log : Console.Log) :
    ({ s with store := s.store.withLog id log } : State).Coherent n p shown := by
  have keys : (s.store.withLog id log).projects.keys = s.store.projects.keys := by
    rw [ProjectStore.withLog, Keyed.keys_update]
  have old (other : Text) (present : (s.store.withLog id log).contains other = true) :
      s.store.contains other = true := by
    rwa [contains_iff, keys, ← contains_iff] at present
  constructor
  case nodupProjects => exact keys ▸ coherent.nodupProjects
  case nodupPreviews => exact coherent.nodupPreviews
  case gaveProjects => exact fun other present => coherent.gaveProjects other (old other present)
  case gavePreviews => exact coherent.gavePreviews
  case agree =>
    intro other kept found present
    rw [assemble_withLog p log]
    exact coherent.agree other kept found (old other present)
  case counted => exact fun other present => coherent.counted other (old other present)

/-- No call on the store lets a kept preview go out of date. -/
theorem called (coherent : s.Coherent m.issued p shown) (fresh : m.issued.Fresh)
    (given : ∀ id, shown id → m.issued.GaveProject id) (now : Instant) (call : ProjectStore.Call)
    (later : m.issued.Later n')
    (loaded : call.loads = true → n'.GaveProject m.issued.project.1) :
    (s.called m now call).Coherent n' p shown := by
  have weaken {s : State} (coherent : s.Coherent m.issued p shown) : s.Coherent n' p shown :=
    coherent.congr later rfl rfl fun _ _ => Iff.rfl
  have turn := turn_call s.store m.pipeline m.issued.project.1 now call
  rw [State.called]
  -- Only what the call did to the store matters from here on.
  generalize (s.store.call m.pipeline m.issued.project.1 now call).1 = store at turn ⊢
  cases turn with
  | load project loads =>
    exact coherent.load later fresh.not_gaveProject (loaded loads) given project
  | remove id => exact weaken (coherent.remove id)
  | log id log => exact weaken (coherent.withLog id log)
  | nothing => exact weaken coherent

theorem drop (coherent : s.Coherent n p shown) (gone : ¬ s.store.contains projectId = true) :
    ({ s with previews := s.previews.erase projectId } : State).Coherent n p shown := by
  constructor
  case nodupProjects => exact coherent.nodupProjects
  case nodupPreviews => exact Keyed.nodup_keys_erase coherent.nodupPreviews projectId
  case gaveProjects => exact coherent.gaveProjects
  case gavePreviews =>
    intro id member
    rw [Keyed.keys_erase] at member
    exact coherent.gavePreviews id (List.mem_of_mem_filter member)
  case agree =>
    intro id kept found present
    have different : id ≠ projectId := fun same => gone (same ▸ present)
    rw [Keyed.get?_erase, if_neg different] at found
    exact coherent.agree id kept found present
  case counted =>
    intro id present
    have different : id ≠ projectId := fun same => gone (same ▸ present)
    rw [← coherent.counted id present, Keyed.keys_erase, List.mem_filter, decide_eq_true_eq]
    exact and_iff_left different

theorem keep {built : Preview} (coherent : s.Coherent n p shown)
    (made : s.store.assemble p projectId = .ok built) (seen : shown' projectId)
    (same : ∀ id, id ≠ projectId → (shown' id ↔ shown id)) :
    ({ s with previews := s.previews.put projectId built } : State).Coherent n p shown' := by
  constructor
  case nodupProjects => exact coherent.nodupProjects
  case nodupPreviews => exact Keyed.nodup_keys_put coherent.nodupPreviews projectId built
  case gaveProjects => exact coherent.gaveProjects
  case gavePreviews =>
    intro id member
    rcases Keyed.mem_keys_put.mp member with rfl | old
    · exact coherent.gaveProjects id (contains_of_assemble made)
    · exact coherent.gavePreviews id old
  case agree =>
    intro id kept found present
    rw [Keyed.get?_put] at found
    by_cases here : id = projectId
    · rw [if_pos here, Option.some.injEq] at found
      rw [here, made, found]
    · rw [if_neg here] at found
      exact coherent.agree id kept found present
  case counted =>
    intro id present
    rw [Keyed.mem_keys_put]
    by_cases here : id = projectId
    · exact iff_of_true (Or.inl here) (here ▸ seen)
    · rw [same id here, ← coherent.counted id present]
      exact or_iff_right here

/-- Looking at a project keeps the preview that it gives, and drops one that is out of date. -/
theorem viewed (coherent : s.Coherent n p shown) (projectId : Text)
    (same : ∀ id, id ≠ projectId → (shown' id ↔ shown id))
    (seen : shown' projectId ↔ (∃ result, s.view p projectId = .ok result) ∨ shown projectId) :
    (s.viewed p projectId).Coherent n p shown' := by
  -- When the project is gone, no project in the store is shown anew.
  have elsewhere (gone : ¬ s.store.contains projectId = true) (id : Text)
      (present : s.store.contains id = true) : shown' id ↔ shown id :=
    same id fun here => gone (here ▸ present)
  cases kept : s.previews.get? projectId with
  | some preview =>
    by_cases present : s.store.contains projectId = true
    · have before := (coherent.counted projectId present).mp (Keyed.mem_keys_of_get? kept)
      have unchanged : s.viewed p projectId = s := by simp [State.viewed, kept, present]
      rw [unchanged]
      refine coherent.congr (.self n) rfl rfl fun id _ => ?_
      by_cases here : id = projectId
      · rw [here]
        exact iff_of_true (seen.mpr (Or.inr before)) before
      · exact same id here
    · have dropped : s.viewed p projectId = { s with previews := s.previews.erase projectId } := by
        simp [State.viewed, kept, present]
      rw [dropped]
      exact (coherent.drop present).congr (.self n) rfl rfl (elsewhere present)
  | none =>
    cases made : s.store.assemble p projectId with
    | error e =>
      -- A preview is refused only when the project is not there.
      have gone : ¬ s.store.contains projectId = true := by
        intro present
        obtain ⟨built, ok⟩ := assemble_of_contains p present
        simp [made] at ok
      have unchanged : s.viewed p projectId = s := by simp [State.viewed, kept, made]
      rw [unchanged]
      exact coherent.congr (.self n) rfl rfl (elsewhere gone)
    | ok built =>
      have result : s.view p projectId = .ok (built, false) := by
        simp [State.view, kept, made, Except.map]
      have added : s.viewed p projectId =
          { s with previews := s.previews.put projectId built } := by
        simp [State.viewed, kept, made]
      rw [added]
      exact coherent.keep made (seen.mpr (Or.inl ⟨_, result⟩)) same

/-- What looking at a project gives does not depend on what is kept. -/
theorem view_eq (coherent : s.Coherent n p shown) (projectId : Text) :
    (∃ built kept, s.view p projectId = .ok (built, kept) ∧
      s.store.contains projectId = true ∧ s.store.assemble p projectId = .ok built) ∨
    (s.view p projectId = .error (.unknownProject projectId) ∧
      ¬ s.store.contains projectId = true) := by
  by_cases present : s.store.contains projectId = true
  · left
    cases kept : s.previews.get? projectId with
    | some preview =>
      exact ⟨preview, true, by simp [State.view, kept, present], present,
        coherent.agree projectId preview kept present⟩
    | none =>
      obtain ⟨built, made⟩ := assemble_of_contains p present
      exact ⟨built, false, by simp [State.view, kept, made, Except.map], present, made⟩
  · right
    refine ⟨?_, present⟩
    cases kept : s.previews.get? projectId with
    | some preview => simp [State.view, kept, present]
    | none => simp [State.view, kept, assemble_of_not_contains p present, Except.map]

/-- The kept previews that count are those of the projects in the store that were shown. -/
theorem previewCount_eq {seen : Text → Bool} (coherent : s.Coherent n p fun id => seen id = true)
    (id : Text) : (s.info id).previewCount = (s.store.projects.keys.filter seen).length := by
  have kept : (s.info id).previewCount =
      (s.previews.keys.filter fun projectId => s.store.contains projectId).length := by
    rw [State.info, Keyed.keys, List.filter_map, List.length_map, List.countP_eq_length_filter]
    rfl
  rw [kept]
  -- The kept previews stand in the order of viewing, the projects in that of loading.
  refine List.Perm.length_eq ?_
  rw [List.perm_ext_iff_of_nodup (coherent.nodupPreviews.filter _)
    (coherent.nodupProjects.filter _)]
  intro projectId
  rw [List.mem_filter, List.mem_filter, ← contains_iff]
  constructor
  · rintro ⟨member, present⟩
    exact ⟨present, (coherent.counted projectId present).mp member⟩
  · rintro ⟨present, before⟩
    exact ⟨(coherent.counted projectId present).mpr before, present⟩

end State.Coherent

/-! ## Runs -/

/-- The kept previews of all sessions agree with their stores and their pasts. -/
structure Host.Coherent (h : Host) (past : List Event) : Prop where
  sessions : ∀ id s, h.manager.sessions.get? id = some s →
    s.Coherent h.manager.issued h.manager.pipeline fun projectId => wasShown past id projectId = true
  given : ∀ id projectId, wasShown past id projectId = true → h.manager.issued.GaveProject projectId

theorem wasShown_cons (e : Event) (past : List Event) (id projectId : Text) :
    wasShown (e :: past) id projectId = (e.shows id projectId || wasShown past id projectId) := by
  rw [wasShown, List.any_cons, wasShown]

theorem shows_preview {id? : Option Text} :
    (h.event now (.preview projectId id?)).shows (Manager.previewId id?) projectId = true ↔
      ∃ s, h.manager.used? now (Manager.previewId id?) = some s ∧
        ∃ result, s.view h.manager.pipeline projectId = .ok result := by
  rw [Host.event, Host.step]
  cases found : h.manager.used? now (Manager.previewId id?) with
  | none =>
    obtain ⟨e, used⟩ := preview_of_not_used? projectId found
    simp [Event.shows, used]
  | some s =>
    rw [preview_of_used? projectId found]
    cases viewed : s.view h.manager.pipeline projectId with
    | error e => simp [Event.shows, viewed, Except.mapError]
    | ok result =>
      exact iff_of_true (by simp [Event.shows, Except.mapError]) ⟨s, rfl, result, viewed⟩

theorem shows_of_ne (other : ∀ id?, Manager.previewId id? = id → op ≠ .preview projectId id?) :
    (h.event now op).shows id projectId = false := by
  cases op with
  | preview projectId' id? =>
    have different : ¬ (projectId' = projectId ∧ Manager.previewId id? = id) := by
      rintro ⟨rfl, same⟩
      exact other id? same rfl
    rw [Event.shows, Host.event]
    split
    case h_1 shown id?' operation outcome =>
      obtain ⟨rfl, rfl⟩ := Operation.preview.inj operation
      simpa using different
    case h_2 => rfl
  | create | hold | call | callHeld | info | close | list | size | purge => rfl

theorem Host.Coherent.of_used? (coherent : h.Coherent past)
    (found : h.manager.used? now id = some s) :
    s.Coherent h.manager.issued h.manager.pipeline
      fun projectId => wasShown past id projectId = true := by
  rcases used?_cases found with ⟨old, present, -, rfl⟩ | ⟨-, -, rfl⟩
  · exact (coherent.sessions id old present).congr (.self _) rfl rfl fun _ _ => Iff.rfl
  · exact .of_empty rfl rfl

/-- A preview that was given is of a project in the store. -/
theorem State.Coherent.gave_of_view {result : Preview × Bool} (coherent : s.Coherent n p shown)
    (viewed : s.view p projectId = .ok result) : n.GaveProject projectId := by
  rcases coherent.view_eq projectId with ⟨built, kept, -, present, -⟩ | ⟨missing, -⟩
  · exact coherent.gaveProjects projectId present
  · simp [missing] at viewed

theorem loaded_of_issued {issued : Issued} {call : ProjectStore.Call}
    (taken : issued = if call.loads then h.manager.issued.project.2 else h.manager.issued)
    (loads : call.loads = true) : issued.GaveProject h.manager.issued.project.1 := by
  rw [taken, if_pos loads]
  exact Issued.gaveProject_project _

/-- Every operation keeps the sessions coherent. Only a preview adds to what was shown. -/
theorem sessions_step (nodup : h.manager.sessions.keys.Nodup) (fresh : h.manager.issued.Fresh)
    (coherent : h.Coherent past) (later : h.manager.issued.Later (h.step now op).1.manager.issued)
    (found : (h.step now op).1.manager.sessions.get? id = some s) :
    s.Coherent (h.step now op).1.manager.issued h.manager.pipeline
      fun projectId => wasShown (h.event now op :: past) id projectId = true := by
  -- Only a preview in this session adds to what was shown in it.
  have unseen (projectId : Text)
      (other : ∀ id?, Manager.previewId id? = id → op ≠ .preview projectId id?) :
      wasShown (h.event now op :: past) id projectId = true ↔
        wasShown past id projectId = true := by
    rw [wasShown_cons, shows_of_ne other, Bool.false_or]
  have carry {s : State} (before : s.Coherent h.manager.issued h.manager.pipeline
        fun projectId => wasShown past id projectId = true)
      (other : ∀ projectId id?, Manager.previewId id? = id → op ≠ .preview projectId id?) :
      s.Coherent (h.step now op).1.manager.issued h.manager.pipeline
        fun projectId => wasShown (h.event now op :: past) id projectId = true :=
    before.congr later rfl rfl fun projectId _ => unseen projectId (other projectId)
  cases becomes_step nodup found with
  | made new => exact .of_empty rfl rfl
  | held here => exact carry (coherent.of_used? here) fun _ _ _ same => by cases same
  | @called call used here =>
    have taken : (h.step now (.call id call)).1.manager.issued =
        if call.loads then h.manager.issued.project.2 else h.manager.issued := by
      rw [Host.step, onStore_of_used? call here]
      rfl
    have before := (coherent.of_used? here).called fresh (coherent.given id) now call later
      (loaded_of_issued taken)
    exact before.congr (.self _) rfl rfl fun projectId _ =>
      unseen projectId fun _ _ same => by cases same
  | @calledHeld name call old held here =>
    have taken : (h.step now (.callHeld name call)).1.manager.issued =
        if call.loads then h.manager.issued.project.2 else h.manager.issued := by
      rcases callHeld_cases h now name call with ⟨id', s', -, -, after⟩ | ⟨unreached, -⟩
      · rw [after]
      · simp [unreached id held] at here
    have before := (coherent.sessions id old here).called fresh (coherent.given id) now call later
      (loaded_of_issued taken)
    exact before.congr (.self _) rfl rfl fun projectId _ =>
      unseen projectId fun _ _ same => by cases same
  | told here => exact carry (coherent.of_used? here) fun _ _ _ same => by cases same
  | @viewed projectId id? used same here =>
    subst same
    have viewed := (coherent.of_used? here).viewed projectId
      (fun other different => unseen other fun _ _ again =>
        different (Operation.preview.inj again).1.symm) ?_
    · exact viewed.congr later rfl rfl fun _ _ => Iff.rfl
    · rw [wasShown_cons, Bool.or_eq_true, shows_preview]
      simp [here]
  | kept other here =>
    refine carry (coherent.sessions id s here) ?_
    rintro projectId id? rfl rfl
    exact other rfl

theorem coherent_step (nodup : h.manager.sessions.keys.Nodup) (fresh : h.manager.issued.Fresh)
    (coherent : h.Coherent past) : (h.step now op).1.Coherent (h.event now op :: past) := by
  have rest : (h.step now op).1.manager.pipeline = h.manager.pipeline ∧
      h.manager.issued.Later (h.step now op).1.manager.issued := by
    obtain ⟨sessions, issued, after, -, later⟩ := manager_step h now op
    rw [after]
    exact ⟨rfl, later⟩
  obtain ⟨pipeline, later⟩ := rest
  constructor
  case sessions =>
    intro id s found
    rw [pipeline]
    exact sessions_step nodup fresh coherent later found
  case given =>
    intro id projectId seen
    rw [wasShown_cons, Bool.or_eq_true] at seen
    refine later.gaveProject ?_
    rcases seen with here | before
    · by_cases asked : ∃ id?, Manager.previewId id? = id ∧ op = .preview projectId id?
      · obtain ⟨id?, rfl, rfl⟩ := asked
        obtain ⟨s, found, result, viewed⟩ := shows_preview.mp here
        exact (coherent.of_used? found).gave_of_view viewed
      · rw [shows_of_ne fun id? same again => asked ⟨id?, same, again⟩] at here
        simp at here
    · exact coherent.given id projectId before

theorem Host.Reaches.coherent (reached : start.Reaches past h) (empty : start.manager.sessions = [])
    (fresh : start.manager.issued.Fresh) : h.Coherent past := by
  induction reached with
  | start => exact ⟨by simp [empty], by simp [wasShown]⟩
  | @step past h reached now op ih =>
    obtain ⟨-, -, later⟩ := reached.rest
    exact coherent_step (reached.nodup empty) (later.fresh fresh) ih

/-- While its project is in the store, what a session gives as a preview is what would be made
anew; for any other project it gives the error that the project is unknown. The previews that are
counted are those of the projects in the store that were shown in the session. -/
theorem preview_coherent (reached : start.Reaches past h) (empty : start.manager.sessions = [])
    (fresh : start.manager.issued.Fresh) :
    (∀ now projectId id? session,
      (h.manager.use now (Manager.previewId id?)).2 = .ok session →
        (session.store.contains projectId = true → ∃ built kept,
          (h.step now (.preview projectId id?)).2 = .shown (.ok (built, kept)) ∧
            session.store.assemble h.manager.pipeline projectId = .ok built) ∧
        (session.store.contains projectId = false →
          (h.step now (.preview projectId id?)).2 =
            .shown (.error (.store (.unknownProject projectId))))) ∧
    (∀ now id info, (h.step now (.info id)).2 = .told (.ok info) →
      ∃ session, (h.manager.use now id).2 = .ok session ∧
        info.previewCount =
          (session.store.projects.keys.filter fun projectId => wasShown past id projectId).length) := by
  have whole := reached.coherent empty fresh
  constructor
  · intro now projectId id? session used
    rw [use_eq_ok_iff] at used
    have outcome : (h.step now (.preview projectId id?)).2 =
        .shown ((session.view h.manager.pipeline projectId).mapError .store) := by
      rw [Host.step, preview_of_used? projectId used]
    rw [outcome]
    rcases (whole.of_used? used).view_eq projectId with
      ⟨built, kept, viewed, present, made⟩ | ⟨viewed, absent⟩
    · refine ⟨fun _ => ⟨built, kept, by rw [viewed]; rfl, made⟩, fun missing => ?_⟩
      simp [missing] at present
    · exact ⟨fun present => absurd present absent, fun _ => by rw [viewed]; rfl⟩
  · intro now id info told
    cases used : h.manager.used? now id with
    | none =>
      obtain ⟨e, failed⟩ := use_of_not_used? used
      simp [Host.step, Manager.info, failed, Except.map] at told
    | some session =>
      have given : session.info id = info := by
        simpa [Host.step, Manager.info, use_of_used? used, Except.map] using told
      refine ⟨session, use_eq_ok_iff.mpr used, ?_⟩
      rw [← given]
      exact (whole.of_used? used).previewCount_eq id

/-- A preview of a removed project stays behind; it is neither given out again nor counted. -/
theorem preview_coherent_after_removal :
    let start : Host := {}
    let client := start.manager.issued.sessionId 1
    let first := start.manager.issued.projectId 1
    let second := start.manager.issued.projectId 2
    let loaded := (((start.step 0 (.create [])).1.step 1 (.call client (.loadReply "one"))).1.step 1
      (.call client (.loadReply "two"))).1
    let seen := ((loaded.step 2 (.preview first (some client))).1.step 2
      (.preview second (some client))).1
    let removed := (seen.step 3 (.call client (.remove first))).1
    (∃ built kept, (removed.step 4 (.preview second (some client))).2 = .shown (.ok (built, kept))) ∧
      (removed.step 4 (.preview first (some client))).2 =
        .shown (.error (.store (.unknownProject first))) ∧
      ∃ info, (removed.step 4 (.info client)).2 = .told (.ok info) ∧ info.previewCount = 1 := by
  intro start client first second loaded seen removed
  have reached : start.Reaches _ removed :=
    .step (.step (.step (.step (.step (.step .start 0 _) 1 _) 1 _) 2 _) 2 _) 3 _
  obtain ⟨previews, counts⟩ := preview_coherent reached rfl fresh_hexadecimal
  have there : (removed.manager.used? 4 client).any (fun session =>
      session.store.projects.keys = [second]) = true := by decide
  rw [Option.any_eq_true] at there
  obtain ⟨session, used, projects⟩ := there
  rw [decide_eq_true_eq] at projects
  have present : session.store.contains second = true := by
    rw [contains_iff, projects]
    exact List.mem_singleton_self second
  have absent : session.store.contains first = false := by
    rw [Bool.eq_false_iff, ne_eq, contains_iff, projects]
    decide
  refine ⟨?_, (previews 4 first (some client) session (use_eq_ok_iff.mpr used)).2 absent, ?_⟩
  · obtain ⟨built, kept, given, -⟩ :=
      (previews 4 second (some client) session (use_eq_ok_iff.mpr used)).1 present
    exact ⟨built, kept, given⟩
  · have told : (removed.step 4 (.info client)).2 = .told (.ok (session.info client)) := by
      rw [Host.step, Manager.info, use_of_used? used]
      rfl
    refine ⟨session.info client, told, ?_⟩
    obtain ⟨again, used', count⟩ := counts 4 client _ told
    obtain rfl : session = again :=
      Option.some.inj (used.symm.trans (use_eq_ok_iff.mp used'))
    rw [count, projects]
    decide

end SandboxPreview.Session
