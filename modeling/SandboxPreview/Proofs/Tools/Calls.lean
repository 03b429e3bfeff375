/-
# Calls of the tool server

What the tools do with the sessions are operations that a client of them could ask for. Metadata
that is refused has taken a session id all the same, as if a session had been made and closed at
once. The server keeps the pipeline that its sessions were set up with.

## Main definitions

* `Server.Reaches`: the states that calls and purges lead to.

## Main results

* `close_create`: making a session and closing it only takes an id;
* `Server.Reaches.exists_run`: the sessions are those of a run.
-/
import SandboxPreview.Proofs.Session.HeldStores
import SandboxPreview.Proofs.Session.Staying
import SandboxPreview.Tools.Server

namespace SandboxPreview.Tools

open Session

variable {s s' start : Server} {m : Manager} {now : Instant} {call : Call} {h h' : Host}
  {past : List Event}

/-- The states that the server comes to by calls. Expired sessions are purged at any time. -/
inductive Server.Reaches (start : Server) : Server → Prop
  | start : Reaches start start
  | call {s : Server} (reached : Reaches start s) (now : Instant) (call : Call) :
      Reaches start (s.call now call).1
  | purge {s : Server} (reached : Reaches start s) (now : Instant) :
      Reaches start { s with sessions? := s.sessions?.map fun m => (m.purge now).2 }

/-! ## One call -/

theorem withSessions_of_some (found : s.sessions? = some m)
    (ask : Manager → Manager × Except Failure Text) :
    s.withSessions ask = ({ s with sessions? := some (ask m).1 }, (ask m).2) := by
  rw [Server.withSessions, found]

/-- Making a session and closing it at once only takes an id. -/
theorem close_create (new : m.takeId.1 ∉ m.sessions.keys) (metadata : Metadata) :
    (m.create now metadata).2.close m.takeId.1 = .ok m.takeId.2 := by
  have made : (m.create now metadata).2 =
      { m.takeId.2 with sessions := m.sessions.put m.takeId.1 (.made m now metadata) } := rfl
  have present : (m.sessions.put m.takeId.1 (.made m now metadata)).has m.takeId.1 = true :=
    Keyed.has_iff_mem_keys.mpr (Keyed.mem_keys_put.mpr (Or.inl rfl))
  rw [made, Manager.close, if_pos present, Keyed.erase_put_of_not_mem new]
  rfl

/-- A session is made, or its id is taken at least, or nothing happens. -/
theorem createSession_fst (now : Instant) (metadata? : Option Text) (m : Manager) :
    (Server.createSession now metadata? m).1 = m ∨
      (Server.createSession now metadata? m).1 = m.takeId.2 ∨
        ∃ metadata, (Server.createSession now metadata? m).1 = (m.create now metadata).2 := by
  rw [Server.createSession]
  split
  · exact Or.inl rfl
  · split
    · exact Or.inr (Or.inl rfl)
    · exact Or.inr (Or.inr ⟨_, rfl⟩)

/-- The sessions are left as they are, or one thing is asked of them; or a session id is taken. Only
the call for it closes a session, and no call takes a project out of one. -/
theorem call_fst (now : Instant) (call : Call) (found : s.sessions? = some h.manager)
    (new : h.manager.takeId.1 ∉ h.manager.sessions.keys) :
    ∃ past h', h.Reaches past h' ∧ (s.call now call).1 = { s with sessions? := some h'.manager } ∧
      ∀ id, call ≠ .closeSession id → id ≠ h.manager.takeId.1 →
        ∀ e ∈ past, e.operation.Spares id := by
  have unchanged : s = { s with sessions? := some h.manager } := by rw [← found]
  have spared (id : Text) : ∀ e ∈ ([] : List Event), e.operation.Spares id := by simp
  have stored (sessionId? : Option Text) (call : ProjectStore.Call) (caught : List FaultKind)
      (report : ProjectStore.Answer → Text)
      (spares : ∀ id, (Operation.call (sessionId?.getD defaultId) call).Spares id) :
      ∃ past h', h.Reaches past h' ∧
        (s.onStore now sessionId? call caught report).1 =
          { s with sessions? := some h'.manager } ∧
        ∀ id, ∀ e ∈ past, e.operation.Spares id := by
    refine ⟨_, _, .step .start now (.call (sessionId?.getD defaultId) call), ?_, fun id => ?_⟩
    · rw [Server.onStore, withSessions_of_some found]
      rfl
    · exact List.forall_mem_cons.mpr ⟨spares id, spared id⟩
  cases call with
  | extractArtifacts | classifyProject | assemblePreview | listSimulators =>
    exact ⟨_, _, .start, unchanged, fun id _ _ => spared id⟩
  | createSession metadata? =>
    rw [Server.call, withSessions_of_some found]
    rcases createSession_fst now metadata? h.manager with kept | taken | ⟨metadata, made⟩
    · exact ⟨_, _, .start, by rw [kept], fun id _ _ => spared id⟩
    · refine ⟨_, _, .step (.step .start now (.create [])) now (.close h.manager.takeId.1), ?_,
        fun id _ other => ?_⟩
      · have closed : (h.step now (.create [])).1.manager.close h.manager.takeId.1 =
            .ok h.manager.takeId.2 := close_create new []
        rw [taken]
        generalize (h.step now (.create [])).1 = made at closed
        simp only [Host.step, closed]
        rfl
      · exact List.forall_mem_cons.mpr
          ⟨other.symm, List.forall_mem_cons.mpr ⟨trivial, spared id⟩⟩
    · refine ⟨_, _, .step .start now (.create metadata), ?_, fun id _ _ => ?_⟩
      · rw [made]
        rfl
      · exact List.forall_mem_cons.mpr ⟨trivial, spared id⟩
  | closeSession sessionId =>
    rw [Server.call, withSessions_of_some found, Server.closeSession]
    cases closed : h.manager.close sessionId with
    | ok m =>
      refine ⟨_, _, .step .start now (.close sessionId), ?_, fun id other _ => ?_⟩
      · simp only [Host.step, closed]
        rfl
      · exact List.forall_mem_cons.mpr
          ⟨fun same => other (congrArg Call.closeSession same), spared id⟩
    | error e => exact ⟨_, _, .start, rfl, fun id _ _ => spared id⟩
  | loadProject reply sessionId? =>
    obtain ⟨past, h', run, after, spares⟩ :=
      stored sessionId? (.loadReply reply) [] Server.loadReport fun _ => trivial
    exact ⟨past, h', run, after, fun id _ _ => spares id⟩
  | recordLog projectId message level source? sessionId? =>
    obtain ⟨past, h', run, after, spares⟩ := stored sessionId? (.record projectId _)
      [.absent, .refused] Server.recordReport fun _ => trivial
    exact ⟨past, h', run, after, fun id _ _ => spares id⟩
  | getLogs projectId sessionId? =>
    obtain ⟨past, h', run, after, spares⟩ :=
      stored sessionId? (.events projectId) [.absent] Server.logReport fun _ => trivial
    exact ⟨past, h', run, after, fun id _ _ => spares id⟩
  | getPreview projectId sessionId? =>
    refine ⟨_, _, .step .start now (.preview projectId sessionId?), ?_, fun id _ _ => ?_⟩
    · rw [Server.call, withSessions_of_some found]
      rfl
    · exact List.forall_mem_cons.mpr ⟨trivial, spared id⟩

/-! ## Runs -/

/-- The sessions of the server go through a run of a session manager, and nothing else of the server
changes. -/
theorem Server.Reaches.exists_run (reached : start.Reaches s) (found : start.sessions? = some h.manager)
    (new : ∀ past h', h.Reaches past h' → h'.manager.takeId.1 ∉ h'.manager.sessions.keys) :
    ∃ past h', h.Reaches past h' ∧ s = { start with sessions? := some h'.manager } := by
  induction reached with
  | start => exact ⟨_, _, .start, by rw [← found]⟩
  | call reached now call ih =>
    obtain ⟨past, h', run, rfl⟩ := ih
    obtain ⟨past', h'', run', after, -⟩ :=
      call_fst (s := { start with sessions? := some h'.manager }) now call rfl (new past h' run)
    exact ⟨_, _, run.trans run', after⟩
  | purge reached now ih =>
    obtain ⟨past, h', run, rfl⟩ := ih
    exact ⟨_, _, run.step now .purge, rfl⟩

end SandboxPreview.Tools
