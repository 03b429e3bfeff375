/-
# Calls that fail

A call of a tool gives its text, or the tool reports why it does not; and whatever fails leaves the
sessions with their projects and logs as they were. One kind of call breaks off without a report: a
session is asked for with metadata that is JSON in its syntax, but no mapping, or that holds more
than the JSON reader takes. By then the session may have taken its id, and nothing else.

Each tool catches faults of its own choice. What it does not catch it does not meet: loading has no
fault, only recording is refused, and the shared session, whose loss no tool expects, never expires.

## Main definitions

* `IsMapping`: the JSON values that stand for a mapping;
* `Server.BreaksOff`: the calls that break off;
* `Server.LacksShared`: the calls that would miss the shared session;
* `Catches`: a tool catches all faults of a call on the store;
* `Server.Unharmed`: what a failed call leaves of the server;
* `Server.Settles`: what becomes of a call.

## Main results

* `exists_ofJson_iff`: metadata is read from mappings, and from nothing else;
* `settles_onStore`: what is caught of a call on the store is reported;
* `settles_call`: every call of a tool settles;
* `unreported_iff_breaksOff`: which calls fail without a report, and that none of them does harm.
-/
import SandboxPreview.Proofs.Tools.Sessions

namespace SandboxPreview.Session

variable {value : Json} {items : List Json} {m : Metadata}

/-! ## Metadata -/

/-- The value is no list and no object, so it may be a key. -/
def IsKey (value : Json) : Prop :=
  (∀ items, value ≠ .array items) ∧ ∀ members, value ≠ .object members

/-- The item has two parts, of which the first may be a key. -/
def IsPair (item : Json) : Prop := ∃ key entry, parts? item = some [key, entry] ∧ IsKey key

/-- The value stands for a mapping: it counts as false, or it is an object or a list of pairs. -/
inductive IsMapping : Json → Prop
  | falsy {value : Json} (falsy : isFalsy value = true) : IsMapping value
  | object (members : List (Text × Json)) : IsMapping (.object members)
  | pairs {items : List Json} (pairs : ∀ item ∈ items, IsPair item) : IsMapping (.array items)

theorem checkKey_eq_ok_iff {key : Json} : checkKey value = .ok key ↔ IsKey value ∧ key = value := by
  cases value <;> simp [checkKey, IsKey, eq_comm]

theorem exists_putPairs_iff (m : Metadata) (index : Nat) (items : List Json) :
    (∃ m', putPairs m index items = .ok m') ↔ ∀ item ∈ items, IsPair item := by
  induction items generalizing m index with
  | nil => simp [putPairs]
  | cons item items ih =>
    rw [List.forall_mem_cons, putPairs]
    split
    case h_1 none => simp [IsPair, none]
    case h_2 key entry parts =>
      cases checked : checkKey key with
      | error e =>
        have other : ¬ IsKey key := fun isKey => by
          simp [checkKey_eq_ok_iff.mpr ⟨isKey, rfl⟩] at checked
        simp [IsPair, parts, other, bind, Except.bind]
      | ok same =>
        obtain ⟨isKey, -⟩ := checkKey_eq_ok_iff.mp checked
        have pair : IsPair item := ⟨key, entry, parts, isKey⟩
        simpa [pair, bind, Except.bind] using ih (m.put same entry) (index + 1)
    case h_3 others two parts =>
      have other : ¬ IsPair item := by
        rintro ⟨key, entry, same, -⟩
        exact two key entry (Option.some.inj (parts.symm.trans same))
      simp [other]

theorem not_isPair_singleton (c : Char) : ¬ IsPair (.text [c]) := by
  simp [IsPair, parts?]

/-- Metadata is read from the values that stand for a mapping. -/
theorem exists_ofJson_iff : (∃ m, Metadata.ofJson value = .ok m) ↔ IsMapping value := by
  unfold Metadata.ofJson
  by_cases falsy : isFalsy value = true
  · simp [falsy, IsMapping.falsy falsy]
  · rw [if_neg falsy]
    cases value with
    | object members => simp [IsMapping.object members]
    | array items =>
      rw [exists_putPairs_iff]
      refine ⟨.pairs, fun mapping => ?_⟩
      cases mapping with
      | falsy empty => exact absurd empty falsy
      | pairs pairs => exact pairs
    | text s =>
      -- A text is read as the list of its characters, none of which is a pair.
      rw [exists_putPairs_iff]
      refine iff_of_false (fun pairs => ?_) fun mapping => ?_
      · cases s with
        | nil => exact falsy rfl
        | cons c s => exact not_isPair_singleton c (pairs _ (by simp))
      · cases mapping with
        | falsy empty => exact falsy empty
    | null | bool | integer | double | notANumber | infinity =>
      refine iff_of_false nofun fun mapping => ?_
      cases mapping with
      | falsy empty => exact falsy empty

end SandboxPreview.Session

namespace SandboxPreview.Tools

open Session

variable {s : Server} {m : Manager} {now : Instant} {call : Call} {failure : Failure}
  {sessionId? metadata? : Option Text} {text : Text} {fault : Fault} {caught : List FaultKind}
  {kind : FaultKind} {storeCall : ProjectStore.Call}

/-! ## How calls fail -/

/-- The text is JSON in its syntax, but no mapping, or it holds more than the reader takes. -/
inductive Unfit (text : Text) : Prop
  | noMapping {value : Json} (read : Json.parse text = .ok value) (other : ¬ IsMapping value)
  | longInteger {e : Json.ParseError} {digits : Nat} (refused : Json.parse text = .error e)
      (cause : e.cause = .integerTooLong digits)
  | deepNesting {e : Json.ParseError} {container : Json.Container}
      (refused : Json.parse text = .error e) (cause : e.cause = .nestedTooDeep container)

/-- The call asks for a session with metadata that is unfit. -/
def Call.Unfit : Call → Prop
  | .createSession (some text) => text ≠ [] ∧ Tools.Unfit text
  | _ => False

/-- What a failed call leaves of the server: everything; or all sessions, but that one may have been
used, or dropped since it had expired, or made if it is the shared one; or everything, but that an
id of a session has been taken. -/
inductive Server.Unharmed (s : Server) (now : Instant) : Server → Prop
  | same : Unharmed s now s
  | spared {m m' : Manager} {id : Text} (there : s.sessions? = some m)
      (spares : m.Spares now id m') : Unharmed s now { s with sessions? := some m' }
  | took {m : Manager} (there : s.sessions? = some m) :
      Unharmed s now { s with sessions? := some m.takeId.2 }

/-- A fault of a kind that is caught is reported. -/
theorem isReported_failure (catches : kind ∈ caught) (covers : kind.covers fault = true) :
    (Server.failure caught fault).isReported = true := by
  rw [Server.failure, if_pos (List.any_eq_true.mpr ⟨kind, catches, covers⟩)]
  cases fault with
  | session => rfl
  | store e => cases e <;> rfl

/-- All faults that a store may have with a call are of the kinds that are caught. -/
def Catches (caught : List FaultKind) (storeCall : ProjectStore.Call) : Prop :=
  ∀ (store : ProjectStore) (p : Pipeline) (fresh : Text) (now : Instant) (e : StoreError),
    (store.call p fresh now storeCall).2 = .error e →
      ∃ kind ∈ caught, kind.covers (.store e) = true

/-- Loading has no faults, so nothing needs to be caught. -/
theorem catches_loadReply (reply : Text) : Catches [] (.loadReply reply) := nofun

theorem catches_record (projectId : Text) (payload : Json) :
    Catches [.absent, .refused] (.record projectId payload) := by
  intro store p fresh now e failed
  cases e with
  | unknownProject => exact ⟨.absent, by simp, rfl⟩
  | refused => exact ⟨.refused, by simp, rfl⟩

theorem catches_events (projectId : Text) : Catches [.absent] (.events projectId) := by
  intro store p fresh now e failed
  refine ⟨.absent, by simp, ?_⟩
  by_cases present : store.contains projectId = true
  · have needed : ∀ id, (ProjectStore.Call.events projectId).needs? = some id →
        store.contains id = true := by
      rintro _ ⟨⟩
      exact present
    obtain ⟨answer, answered⟩ := ProjectStore.exists_answer p fresh now needed (by simp)
    simp [answered] at failed
  · rw [ProjectStore.call_of_not_contains p fresh now rfl present] at failed
    obtain rfl := Except.error.inj failed
    rfl

/-! ### Metadata -/

theorem unfit_of_ok {value : Json} (read : Json.parse text = .ok value) :
    Unfit text ↔ ¬ IsMapping value := by
  constructor
  · rintro (⟨read', other⟩ | ⟨refused, -⟩ | ⟨refused, -⟩)
    · exact Except.ok.inj (read.symm.trans read') ▸ other
    · simp [read] at refused
    · simp [read] at refused
  · exact .noMapping read

theorem unfit_of_error {e : Json.ParseError} (refused : Json.parse text = .error e) :
    Unfit text ↔ (∃ digits, e.cause = .integerTooLong digits) ∨
      ∃ container, e.cause = .nestedTooDeep container := by
  constructor
  · rintro (⟨read, -⟩ | ⟨refused', cause⟩ | ⟨refused', cause⟩)
    · simp [refused] at read
    · obtain rfl := Except.error.inj (refused.symm.trans refused')
      exact Or.inl ⟨_, cause⟩
    · obtain rfl := Except.error.inj (refused.symm.trans refused')
      exact Or.inr ⟨_, cause⟩
  · rintro (⟨digits, cause⟩ | ⟨container, cause⟩)
    · exact .longInteger refused cause
    · exact .deepNesting refused cause

/-- Metadata has a value, or the reader refuses it. Mistakes in its syntax are reported. -/
theorem readMetadata_cases (metadata? : Option Text) :
    (∃ value, Server.readMetadata metadata? = .ok value ∧
      ((Call.createSession metadata?).Unfit ↔ ¬ IsMapping value)) ∨
    ∃ failure, Server.readMetadata metadata? = .error failure ∧
      ((Call.createSession metadata?).Unfit ↔ failure.isReported = false) := by
  have missing : IsMapping (.object []) := .object []
  match metadata? with
  | none => exact Or.inl ⟨_, rfl, by simp [Call.Unfit, missing]⟩
  -- The empty text counts as no metadata and is not read.
  | some [] => exact Or.inl ⟨_, rfl, by simp [Call.Unfit, missing]⟩
  | some (c :: text) =>
    have unfit : (Call.createSession (some (c :: text))).Unfit ↔ Unfit (c :: text) := by
      simp [Call.Unfit]
    rw [unfit]
    cases read : Json.parse (c :: text) with
    | ok value =>
      refine Or.inl ⟨value, ?_, unfit_of_ok read⟩
      simp [Server.readMetadata, read]
    | error e =>
      rw [unfit_of_error read]
      cases cause : e.cause with
      | integerTooLong digits =>
        exact Or.inr ⟨.metadataNumber digits, by simp [Server.readMetadata, read, cause], by
          simp [Failure.isReported]⟩
      | nestedTooDeep container =>
        exact Or.inr ⟨.metadataDepth container, by simp [Server.readMetadata, read, cause], by
          simp [Failure.isReported]⟩
      | _ =>
        exact Or.inr ⟨.metadataSyntax e, by simp [Server.readMetadata, read, cause], by
          simp [Failure.isReported]⟩

/-- A session is made, or its metadata is refused, and then no more than its id is taken. The refusal
is reported unless the metadata is unfit. -/
theorem createSession_cases (now : Instant) (metadata? : Option Text) (m : Manager) :
    (¬ (Call.createSession metadata?).Unfit ∧
      ∃ text, (Server.createSession now metadata? m).2 = .ok text) ∨
    ∃ failure, (Server.createSession now metadata? m).2 = .error failure ∧
      ((Call.createSession metadata?).Unfit ↔ failure.isReported = false) ∧
      ((Server.createSession now metadata? m).1 = m ∨
        (Server.createSession now metadata? m).1 = m.takeId.2) := by
  rw [Server.createSession]
  rcases readMetadata_cases metadata? with ⟨value, read, unfit⟩ | ⟨failure, refused, unfit⟩
  · rw [read, unfit, ← exists_ofJson_iff]
    dsimp only
    cases mapped : Metadata.ofJson value with
    | ok metadata => exact Or.inl ⟨by simp, _, rfl⟩
    | error e =>
      exact Or.inr ⟨.metadataShape e, rfl, by simp [Failure.isReported], Or.inr rfl⟩
  · rw [refused]
    exact Or.inr ⟨failure, rfl, unfit, Or.inl rfl⟩

/-- What is read but is no mapping is refused for its shape. -/
theorem createSession_of_noMapping {value : Json} {e : MappingError}
    (read : Json.parse text = .ok value) (other : Metadata.ofJson value = .error e)
    (nonempty : text ≠ []) (m : Manager) :
    (Server.createSession now (some text) m).2 = .error (.metadataShape e) := by
  obtain ⟨c, text, rfl⟩ := List.exists_cons_of_ne_nil nonempty
  have metadata : Server.readMetadata (some (c :: text)) = .ok value := by
    simp [Server.readMetadata, read]
  rw [Server.createSession, metadata]
  dsimp only
  rw [other]

theorem call_createSession (there : s.sessions? = some m) (metadata? : Option Text) :
    (s.call now (.createSession metadata?)).2 = (Server.createSession now metadata? m).2 := by
  rw [Server.call, withSessions_of_some there]

/-! ### All calls -/

/-- The call breaks off: it is unfit and there are sessions. -/
def Server.BreaksOff (s : Server) (call : Call) : Prop := s.sessions? ≠ none ∧ call.Unfit

/-- The call takes it for granted that the shared session is there. The preview does not. -/
def Call.ReliesOnShared : Call → Prop
  | .loadProject _ none | .recordLog _ _ _ _ none | .getLogs _ none => True
  | _ => False

/-- The shared session that the call relies on cannot be used. -/
def Server.LacksShared (s : Server) (now : Instant) (call : Call) : Prop :=
  call.ReliesOnShared ∧ ∃ m, s.sessions? = some m ∧ m.used? now defaultId = none

/-- The call fails without a report. -/
def Server.Escapes (s : Server) (now : Instant) (call : Call) : Prop :=
  s.BreaksOff call ∨ s.LacksShared now call

/-- A call gives its text, or it fails without harm, and without a report if it escapes. -/
inductive Server.Settles (s : Server) (now : Instant) (call : Call) : Prop
  | given {text : Text} (goesOn : ¬ s.Escapes now call) (answer : (s.call now call).2 = .ok text)
  | failed {failure : Failure} (answer : (s.call now call).2 = .error failure)
      (report : s.Escapes now call ↔ failure.isReported = false)
      (unharmed : s.Unharmed now (s.call now call).1)

theorem escapes_iff_breaksOff (independent : ¬ call.ReliesOnShared) :
    s.Escapes now call ↔ s.BreaksOff call :=
  or_iff_left fun lacks => independent lacks.1

theorem not_escapes (independent : ¬ call.ReliesOnShared) (fit : ¬ call.Unfit) :
    ¬ s.Escapes now call := by
  rintro (breaks | lacks)
  · exact fit breaks.2
  · exact independent lacks.1

/-- Calls that do not break off miss the shared session, or they do not escape. -/
theorem escapes_iff_lacksShared (there : s.sessions? = some m) (fit : ¬ call.Unfit) :
    s.Escapes now call ↔ call.ReliesOnShared ∧ m.used? now defaultId = none := by
  simp [Server.Escapes, Server.BreaksOff, Server.LacksShared, there, fit]

/-- Tools that do not rely on the shared session report their failures, but for the one that makes
sessions. -/
theorem settles_of_reporting (goesOn : ¬ s.Escapes now call)
    (reporting : ∀ failure, (s.call now call).2 = .error failure →
      failure.isReported = true ∧ s.Unharmed now (s.call now call).1) : s.Settles now call := by
  cases answer : (s.call now call).2 with
  | ok text => exact .given goesOn answer
  | error failure =>
    obtain ⟨reported, unharmed⟩ := reporting failure answer
    exact .failed answer (by simp [goesOn, reported]) unharmed

/-- A call on the store of a session that fails does no harm. -/
theorem unharmed_onStore {report : ProjectStore.Answer → Text} (there : s.sessions? = some m)
    (failed : (s.onStore now sessionId? storeCall caught report).2 = .error failure) :
    s.Unharmed now (s.onStore now sessionId? storeCall caught report).1 := by
  rw [Server.onStore, withSessions_of_some there] at failed ⊢
  cases answer : (m.onStore now (sessionId?.getD defaultId) storeCall).2 with
  | ok a => simp [answer, Except.mapError, Except.map] at failed
  | error fault => exact .spared there (spares_onStore answer)

/-- That a session is not there is reported when the session was named. -/
theorem isReported_storeFailure (sessionId? : Option Text) (caught : List FaultKind)
    (e : SessionError) :
    (Server.storeFailure sessionId? caught (.session e)).isReported = sessionId?.isSome := by
  cases sessionId? <;> rfl

/-- A call on the store of a session settles when all faults of the store are caught. What is missing
then can only be the session. -/
theorem settles_onStore {report : ProjectStore.Answer → Text} (there : s.sessions? = some m)
    (asks : s.call now call = s.onStore now sessionId? storeCall caught report)
    (catches : Catches caught storeCall) (fit : ¬ call.Unfit)
    (relies : call.ReliesOnShared ↔ sessionId? = none) : s.Settles now call := by
  have escapes : s.Escapes now call ↔ sessionId? = none ∧ m.used? now defaultId = none := by
    rw [escapes_iff_lacksShared there fit, relies]
  cases found : m.used? now (sessionId?.getD defaultId) with
  | none =>
    obtain ⟨e, lost⟩ := onStore_of_lost there found
    have told := congrArg Prod.snd (lost storeCall caught report)
    refine .failed (asks ▸ told) ?_ (asks ▸ unharmed_onStore there told)
    rw [escapes, isReported_storeFailure]
    -- A session that was named is reported; without a name it is the shared one that is missing.
    cases sessionId? with
    | none => exact iff_of_true ⟨rfl, found⟩ rfl
    | some id => exact iff_of_false (by simp) (by simp)
  | some st =>
    have goesOn : ¬ s.Escapes now call := by
      rw [escapes]
      rintro ⟨rfl, missing⟩
      exact absurd (missing.symm.trans found) nofun
    have told := onStore_of_found there storeCall caught report found
    cases stored : (st.store.call m.pipeline m.issued.project.1 now storeCall).2 with
    | ok answer =>
      rw [stored] at told
      exact .given goesOn (asks ▸ told)
    | error e =>
      rw [stored] at told
      -- The tool chose its kinds so that whatever the store refuses is of one of them.
      obtain ⟨kind, member, covers⟩ := catches _ _ _ _ _ stored
      refine .failed (asks ▸ told) (iff_of_false goesOn ?_) (asks ▸ unharmed_onStore there told)
      simp [isReported_failure member covers]

/-- A preview meets no fault but that its session or its project is not there. -/
theorem covers_of_preview {projectId : Text}
    (failed : (m.preview now projectId sessionId?).2 = .error fault) :
    FaultKind.absent.covers fault = true := by
  cases found : m.used? now (Manager.previewId sessionId?) with
  | none =>
    obtain ⟨e, shown⟩ := preview_of_not_used? projectId found
    rw [shown] at failed
    obtain rfl := Except.error.inj failed
    rfl
  | some st =>
    rw [preview_of_used? projectId found] at failed
    by_cases present : st.store.contains projectId = true
    · obtain ⟨result, viewed⟩ := exists_view_of_contains m.pipeline present
      simp [viewed, Except.mapError] at failed
    · rw [view_of_not_contains present] at failed
      obtain rfl := Except.error.inj failed
      rfl

theorem getPreview_of_error {projectId : Text} (there : s.sessions? = some m)
    (failed : (s.call now (.getPreview projectId sessionId?)).2 = .error failure) :
    failure.isReported = true ∧ s.Unharmed now (s.call now (.getPreview projectId sessionId?)).1 := by
  rw [Server.call, withSessions_of_some there, Server.getPreview] at failed ⊢
  cases shown : (m.preview now projectId sessionId?).2 with
  | ok result => simp [shown, Except.mapError, Except.map] at failed
  | error fault =>
    obtain rfl : Server.failure [.absent] fault = failure := by
      simpa [shown, Except.mapError, Except.map] using failed
    exact ⟨isReported_failure (by simp) (covers_of_preview shown),
      .spared there (spares_preview shown)⟩

theorem closeSession_of_error {id : Text} (there : s.sessions? = some m)
    (failed : (s.call now (.closeSession id)).2 = .error failure) :
    failure.isReported = true ∧ s.Unharmed now (s.call now (.closeSession id)).1 := by
  rw [Server.call, withSessions_of_some there, Server.closeSession] at failed ⊢
  cases closed : m.close id with
  | ok after => simp [closed] at failed
  | error e =>
    obtain rfl : Server.failure [.absentSession] (.session e) = failure := by
      simpa [closed] using failed
    have spares : m.Spares now id m := .same
    exact ⟨rfl, .spared there spares⟩

theorem settles_createSession (there : s.sessions? = some m) (metadata? : Option Text) :
    s.Settles now (.createSession metadata?) := by
  have escapes : s.Escapes now (.createSession metadata?) ↔
      (Call.createSession metadata?).Unfit := by
    rw [escapes_iff_breaksOff id, Server.BreaksOff, there]
    simp
  have after : (s.call now (.createSession metadata?)).1 =
      { s with sessions? := some (Server.createSession now metadata? m).1 } := by
    rw [Server.call, withSessions_of_some there]
  rcases createSession_cases now metadata? m with ⟨fit, text, made⟩ | ⟨failure, refused, unfit, left⟩
  · exact .given (mt escapes.mp fit) ((call_createSession there metadata?).trans made)
  · refine .failed ((call_createSession there metadata?).trans refused) (escapes.trans unfit) ?_
    rw [after]
    -- The id is taken before the metadata is turned into a mapping, but after it was read.
    rcases left with kept | taken
    · rw [kept, ← there]
      exact .same
    · rw [taken]
      exact .took there

/-- Without sessions the tools that ask for them report that there are none. -/
theorem settles_of_none (there : s.sessions? = none) (now : Instant) (call : Call) :
    s.Settles now call := by
  have told : s.withSessions = fun _ => (s, .error .notInitialised) := by
    funext ask
    rw [Server.withSessions, there]
  have goesOn : ¬ s.Escapes now call := by
    rintro (breaks | ⟨-, m, here, -⟩)
    · exact breaks.1 there
    · simp [there] at here
  cases call with
  | extractArtifacts | classifyProject | assemblePreview | listSimulators => exact .given goesOn rfl
  | createSession | closeSession | loadProject | getPreview | recordLog | getLogs =>
    refine settles_of_reporting goesOn fun failure failed => ?_
    obtain rfl : Failure.notInitialised = failure := by
      simpa [Server.call, Server.onStore, told] using failed
    exact ⟨rfl, by simpa [Server.call, Server.onStore, told] using Server.Unharmed.same⟩

theorem settles_call (s : Server) (now : Instant) (call : Call) : s.Settles now call := by
  cases there : s.sessions? with
  | none => exact settles_of_none there now call
  | some m =>
    cases call with
    | extractArtifacts | classifyProject | assemblePreview | listSimulators =>
      exact .given (not_escapes id id) rfl
    | createSession metadata? => exact settles_createSession there metadata?
    | closeSession =>
      exact settles_of_reporting (not_escapes id id) fun _ => closeSession_of_error there
    | getPreview =>
      exact settles_of_reporting (not_escapes id id) fun _ => getPreview_of_error there
    | loadProject reply sessionId? =>
      refine settles_onStore there rfl (catches_loadReply reply) id ?_
      cases sessionId? <;> simp [Call.ReliesOnShared]
    | recordLog projectId message level source? sessionId? =>
      refine settles_onStore there rfl (catches_record projectId _) id ?_
      cases sessionId? <;> simp [Call.ReliesOnShared]
    | getLogs projectId sessionId? =>
      refine settles_onStore there rfl (catches_events projectId) id ?_
      cases sessionId? <;> simp [Call.ReliesOnShared]

/-- The shared session is there for a server that was started, whenever a call relies on it. -/
theorem Server.Running.not_lacksShared (running : s.Running) (now : Instant) (call : Call) :
    ¬ s.LacksShared now call := by
  rintro ⟨-, m, there, missing⟩
  rcases running with none | ⟨settings, reached⟩
  · exact absurd (none.symm.trans there) nofun
  · obtain ⟨past, h, run, rfl⟩ := exists_host reached
    obtain rfl := Option.some.inj there
    obtain ⟨shared, usable⟩ :=
      exists_used?_shared (deadline_default run rfl (fresh_launched settings)) now
    exact absurd (missing.symm.trans usable) nofun

/-- Every call of a tool gives a text or reports its failure, but for those that ask for a session
with unfit metadata; and whatever fails does no harm. What the tools do not catch besides is that the
shared session is gone, which does not happen to a server that was started. -/
theorem unreported_iff_breaksOff (s : Server) (now : Instant) (call : Call) :
    ((∃ failure, (s.call now call).2 = .error failure ∧ failure.isReported = false) ↔
      s.BreaksOff call ∨ s.LacksShared now call) ∧
    (s.Running → ¬ s.LacksShared now call) ∧
    ∀ failure, (s.call now call).2 = .error failure → s.Unharmed now (s.call now call).1 := by
  have started (running : s.Running) : ¬ s.LacksShared now call :=
    running.not_lacksShared now call
  cases settles_call s now call with
  | given goesOn answer =>
    obtain ⟨fit, shared⟩ := not_or.mp goesOn
    simp [answer, fit, shared]
  | failed answer report unharmed =>
    rw [Server.Escapes] at report
    exact ⟨by simp [answer, report], started, fun _ _ => unharmed⟩

/-- A list of words is JSON and no mapping. A server that has just been started breaks off when it is
given one. -/
theorem breaksOff_for_list_of_words :
    let settings : Settings := {}
    let server := Server.ofManager (Launch.sessions settings)
    let call : Call := .createSession (some "[\"demo\"]".toList)
    server.Running ∧ (server.call 0 call).2 = .error (.metadataShape (.wrongLength 0 4)) ∧
      (Failure.metadataShape (.wrongLength 0 4)).isReported = false := by
  intro settings server call
  -- What the values are is left out, since they cannot be compared.
  have seen : (Json.parse "[\"demo\"]".toList).toOption.map (fun value =>
      (Metadata.ofJson value).map fun _ => ()) = some (.error (.wrongLength 0 4)) := by
    decide +kernel
  have refused (m : Manager) : (Server.createSession 0 (some "[\"demo\"]".toList) m).2 =
      .error (.metadataShape (.wrongLength 0 4)) := by
    cases read : Json.parse "[\"demo\"]".toList with
    | error e =>
      rw [read] at seen
      cases seen
    | ok value =>
      rw [read] at seen
      have shape : (Metadata.ofJson value).map (fun _ => ()) = .error (.wrongLength 0 4) :=
        Option.some.inj seen
      cases mapped : Metadata.ofJson value with
      | ok m =>
        rw [mapped] at shape
        cases shape
      | error e =>
        rw [mapped] at shape
        obtain rfl := Except.error.inj shape
        exact createSession_of_noMapping read mapped (by decide) m
  exact ⟨Or.inr ⟨settings, .start⟩, (call_createSession rfl _).trans (refused _), rfl⟩

end SandboxPreview.Tools
