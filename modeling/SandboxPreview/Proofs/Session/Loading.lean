/-
# Previews of loaded replies

A reply that is loaded into a session makes a project with its files and its explanation. Whatever
happens afterwards, no other project takes its id, and only its log changes. So every preview of
it, kept or new, says what the preview of the reply itself says. A reply without files is warned of
only in the latter.

## Main definitions

* `Pipeline.Agrees`, `Pipeline.Reports`: what is said of a stored reply is what is said of the reply;
* `Host.Loaded`: the project was loaded from the reply, in whatever session it is.

## Main results

* `loaded_call`: loading a reply into a session that can be used;
* `Host.Loaded.of_reaches`: runs go on with the project as it was loaded;
* `exists_preview_of_loaded`: the preview of the project.
-/
import SandboxPreview.Launch
import SandboxPreview.Proofs.Session.Lifetime
import SandboxPreview.Proofs.Session.PreviewCache

namespace SandboxPreview

/-! ## What is said of a reply -/

/-- The preview of a stored reply says what the preview of the reply itself says. Only that there
are no files is warned of in the latter alone. -/
structure Pipeline.Agrees (p : Pipeline) (reply : Text) (preview : Preview) : Prop where
  document : preview.document = (p.run reply).document
  kind : preview.kind = (p.run reply).kind
  artifacts : preview.artifacts = (p.run reply).artifacts
  explanation : preview.explanation = (p.run reply).explanation
  warnings : (p.run reply).warnings =
    (if Reply.extract reply = [] then [Pipeline.noFilesWarning] else []) ++ preview.warnings

/-- What loading a reply reports is what the preview of the reply says. -/
structure Pipeline.Reports (p : Pipeline) (reply : Text) (l : Loaded) : Prop where
  kind : l.kind = (p.run reply).kind
  files : l.files = (p.run reply).artifacts.map Artifact.name
  explanation : l.explanation = (p.run reply).explanation

namespace ProjectStore

variable {s : ProjectStore} {p q : Pipeline} {id fresh reply : Text} {now : Instant} {call : Call}

/-- Whenever the project can be previewed, its preview is that of the reply. -/
def Shows (s : ProjectStore) (p : Pipeline) (id reply : Text) : Prop :=
  ∀ preview, s.assemble p id = .ok preview → p.Agrees reply preview

theorem shows_of_not_contains (absent : ¬ s.contains id = true) : s.Shows p id reply := by
  intro preview made
  exact absurd (contains_of_assemble made) absent

theorem shows_empty : ({} : ProjectStore).Shows p id reply :=
  shows_of_not_contains (by simp [contains, Keyed.has])

theorem shows_congr {s' : ProjectStore} (same : s'.assemble p id = s.assemble p id)
    (shows : s.Shows p id reply) : s'.Shows p id reply := by
  intro preview made
  exact shows preview (same ▸ made)

theorem assemble_loadReply (s : ProjectStore) (p : Pipeline) (id reply : Text) :
    (s.loadReply p id reply).2.assemble p id =
      .ok { p.assemble (Reply.extract reply) with explanation := Reply.explanation reply } := by
  simp [loadReply, loadArtifacts, assemble, find, Except.map]

theorem shows_loadReply (s : ProjectStore) (p : Pipeline) (id reply : Text) :
    (s.loadReply p id reply).2.Shows p id reply := by
  intro preview made
  rw [assemble_loadReply] at made
  obtain rfl := Except.ok.inj made
  exact ⟨rfl, rfl, rfl, rfl, rfl⟩

/-- No call changes the preview of a project that is there, unless it makes one of the same id. -/
theorem shows_call (shows : s.Shows p id reply) (q : Pipeline) (now : Instant)
    (other : call.loads = true → fresh ≠ id) : (s.call q fresh now call).1.Shows p id reply := by
  have turn := turn_call s q fresh now call
  generalize (s.call q fresh now call).1 = after at turn ⊢
  cases turn with
  | load project loads => exact shows_congr (assemble_put_of_ne p project (other loads).symm) shows
  | remove removed =>
    by_cases same : id = removed
    · refine shows_of_not_contains ?_
      rw [contains_iff, Keyed.keys_erase, List.mem_filter]
      simp [same]
    · exact shows_congr (assemble_erase_of_ne p same) shows
  | log logged log kept => exact shows_congr (assemble_withLog p log) shows
  | nothing kept => exact shows

end ProjectStore

namespace Session

open ProjectStore (contains_iff shows_call shows_empty shows_of_not_contains shows_loadReply)

variable {h h' start : Host} {now later : Instant} {op : Operation} {id projectId reply : Text}
  {s : State} {past past' : List Event} {m : Manager}

/-! ## Loaded projects in runs -/

/-- The project was loaded from the reply: in every session that has it, its preview is that of the
reply. -/
structure Host.Loaded (h : Host) (projectId reply : Text) : Prop where
  given : h.manager.issued.GaveProject projectId
  shows : ∀ id s, h.manager.sessions.get? id = some s →
    s.store.Shows h.manager.pipeline projectId reply

/-- A session that has not expired can be used, with the projects that it has. -/
theorem exists_used? (present : m.sessions.get? id = some s) (early : s.expired now = false) :
    ∃ used, m.used? now id = some used ∧ used.store = s.store := by
  rw [Manager.used?, present]
  simp [early]

namespace Host.Loaded

theorem of_used? (loaded : h.Loaded projectId reply) (found : h.manager.used? now id = some s) :
    s.store.Shows h.manager.pipeline projectId reply :=
  holds_of_used? (P := fun store => store.Shows h.manager.pipeline projectId reply) shows_empty
    (loaded.shows id) found

theorem step (nodup : h.manager.sessions.keys.Nodup) (fresh : h.manager.issued.Fresh)
    (loaded : h.Loaded projectId reply) : (h.step now op).1.Loaded projectId reply := by
  obtain ⟨sessions, issued, after, -, later⟩ := manager_step h now op
  have pipeline : (h.step now op).1.manager.pipeline = h.manager.pipeline := by rw [after]
  -- A project that is loaded now has another id.
  have other : h.manager.issued.project.1 ≠ projectId :=
    fun same => fresh.not_gaveProject (same ▸ loaded.given)
  refine ⟨by rw [after]; exact later.gaveProject loaded.given, fun id s found => ?_⟩
  rw [pipeline]
  refine holds_step (P := fun store => store.Shows h.manager.pipeline projectId reply) nodup
    shows_empty ?_ (loaded.shows id) found
  exact fun store call before => shows_call before h.manager.pipeline now fun _ => other

/-- Runs go on with the project as it was loaded. -/
theorem of_reaches (nodup : h.manager.sessions.keys.Nodup) (fresh : h.manager.issued.Fresh)
    (loaded : h.Loaded projectId reply) (reached : h.Reaches past h') :
    h'.Loaded projectId reply := by
  induction reached with
  | start => exact loaded
  | step reached now op ih =>
    obtain ⟨-, -, later⟩ := reached.rest
    exact ih.step (reached.keeps_nodup nodup) (later.fresh fresh)

end Host.Loaded

/-! ## Loading and previewing -/

/-- The session can be used now, and has the project. -/
def Manager.Offers (m : Manager) (now : Instant) (id projectId : Text) : Prop :=
  ∃ s, (m.use now id).2 = .ok s ∧ s.store.contains projectId = true

/-- Loading a reply into a session that can be used reports what is said of the reply. -/
theorem onStore_loadReply (found : m.used? now id = some s) (reply : Text) :
    ∃ l, (m.onStore now id (.loadReply reply)).2 = .ok (.loaded l) ∧
      l.projectId = m.issued.project.1 ∧ m.pipeline.Reports reply l := by
  refine ⟨_, by rw [onStore_of_used? _ found]; rfl, rfl, rfl, rfl, rfl⟩

theorem loaded_call (coherent : h.Coherent past) (nodup : h.manager.sessions.keys.Nodup)
    (fresh : h.manager.issued.Fresh) (found : h.manager.used? now id = some s) (reply : Text) :
    (h.step now (.call id (.loadReply reply))).1.Loaded h.manager.issued.project.1 reply := by
  have issued : (h.step now (.call id (.loadReply reply))).1.manager.issued =
      h.manager.issued.project.2 := by
    rw [Host.step, onStore_of_used? _ found]
    rfl
  have pipeline : (h.step now (.call id (.loadReply reply))).1.manager.pipeline =
      h.manager.pipeline := by
    rw [Host.step, onStore_of_used? _ found]
    rfl
  refine ⟨issued ▸ Issued.gaveProject_project _, fun key state here => ?_⟩
  rw [get?_step nodup, Host.sessionAfter] at here
  rw [pipeline]
  by_cases same : key = id
  · rw [if_pos same, found, Option.map_some, Option.some.injEq] at here
    rw [← here]
    exact shows_loadReply s.store h.manager.pipeline h.manager.issued.project.1 reply
  · -- No other session has a project of the new id.
    have before := coherent.sessions key state ((if_neg same).symm.trans here)
    exact shows_of_not_contains fun present =>
      fresh.not_gaveProject (before.gaveProjects _ present)

/-- The session goes on having the project, until its deadline at least. -/
theorem offers_of_load (reached : start.Reaches past h) (empty : start.manager.sessions = [])
    (fresh : start.manager.issued.Fresh) (found : h.manager.used? now id = some s) (reply : Text)
    (live : id = defaultId ∨ later < now + h.manager.timeToLive) :
    (h.step now (.call id (.loadReply reply))).1.manager.Offers later id
      h.manager.issued.project.1 := by
  have here : (h.step now (.call id (.loadReply reply))).1.manager.sessions.get? id =
      some (s.called h.manager now (.loadReply reply)) := by
    rw [get?_step (reached.nodup empty), Host.sessionAfter, if_pos rfl, found]
    rfl
  have early : (s.called h.manager now (.loadReply reply)).expired later = false := by
    rw [called_expired]
    by_cases shared : id = defaultId
    · subst shared
      have never := deadline_of_used?_default (deadline_default reached empty fresh) found
      rw [State.expired, never]
    · rw [expired_of_deadline (deadline_of_used? shared found), decide_eq_false_iff_not, Int.not_le]
      exact live.resolve_left shared
  obtain ⟨used, usable, store⟩ := exists_used? here early
  refine ⟨used, use_eq_ok_iff.mpr usable, ?_⟩
  rw [store, contains_iff]
  exact Keyed.mem_keys_put.mpr (Or.inl rfl)

/-- The project of a reply is previewed, in any session that has it, as the reply itself is. -/
theorem exists_preview_of_loaded (coherent : h.Coherent past) (loaded : h.Loaded projectId reply)
    {id? : Option Text} (offers : h.manager.Offers now (Manager.previewId id?) projectId) :
    ∃ preview kept, (h.manager.preview now projectId id?).2 = .ok (preview, kept) ∧
      h.manager.pipeline.Agrees reply preview := by
  obtain ⟨s, used, present⟩ := offers
  rw [use_eq_ok_iff] at used
  rcases (coherent.of_used? used).view_eq projectId with
    ⟨preview, kept, viewed, -, made⟩ | ⟨-, absent⟩
  · refine ⟨preview, kept, ?_, loaded.of_used? used preview made⟩
    rw [preview_of_used? projectId used, viewed]
    rfl
  · exact absurd present absent

end Session

end SandboxPreview
