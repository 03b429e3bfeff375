/-
# Issued ids

Ids are given out by number. A supply is fresh when no two numbers make the same id, so that an id
that is new now was never given out before; what was given out stays given out.

## Main definitions

* `Issued.Fresh`: a supply that never repeats an id;
* `Issued.GaveProject`, `Issued.GaveSession`: the ids that have been given out;
* `Issued.Later`: the same supply after more ids were given out.

## Main results

* `Issued.Fresh.not_gaveProject`, `Issued.Fresh.not_gaveSession`: a new id is new;
* `fresh_hexadecimal`: the supply of hexadecimal ids is fresh.
-/
import Mathlib.Order.Nat
import SandboxPreview.Proofs.Text.Number
import SandboxPreview.Session.Manager

namespace SandboxPreview.Session

namespace Issued

variable {n n' n'' : Issued} {id : Text}

/-- No id is made from two numbers, and none is the name of the shared session. -/
structure Fresh (n : Issued) : Prop where
  project : Function.Injective n.projectId
  session : Function.Injective n.sessionId
  notDefault : ∀ number, n.sessionId number ≠ defaultId

/-- The project id has been given out. -/
def GaveProject (n : Issued) (id : Text) : Prop := ∃ number ≤ n.projects, n.projectId number = id

/-- The session id has been given out. -/
def GaveSession (n : Issued) (id : Text) : Prop := ∃ number ≤ n.sessions, n.sessionId number = id

/-- The same supply, after more ids may have been given out. -/
structure Later (n n' : Issued) : Prop where
  projectId : n'.projectId = n.projectId
  sessionId : n'.sessionId = n.sessionId
  projects : n.projects ≤ n'.projects
  sessions : n.sessions ≤ n'.sessions

theorem Later.self (n : Issued) : n.Later n := ⟨rfl, rfl, le_rfl, le_rfl⟩

theorem Later.trans (first : n.Later n') (second : n'.Later n'') : n.Later n'' where
  projectId := second.projectId.trans first.projectId
  sessionId := second.sessionId.trans first.sessionId
  projects := first.projects.trans second.projects
  sessions := first.sessions.trans second.sessions

theorem Later.project (n : Issued) : n.Later n.project.2 := ⟨rfl, rfl, Nat.le_succ _, le_rfl⟩

theorem Later.session (n : Issued) : n.Later n.session.2 := ⟨rfl, rfl, le_rfl, Nat.le_succ _⟩

theorem Later.fresh (later : n.Later n') (fresh : n.Fresh) : n'.Fresh where
  project := later.projectId ▸ fresh.project
  session := later.sessionId ▸ fresh.session
  notDefault := later.sessionId ▸ fresh.notDefault

theorem Later.gaveProject (later : n.Later n') (gave : n.GaveProject id) : n'.GaveProject id := by
  obtain ⟨number, le, rfl⟩ := gave
  exact ⟨number, le.trans later.projects, congrFun later.projectId number⟩

theorem Later.gaveSession (later : n.Later n') (gave : n.GaveSession id) : n'.GaveSession id := by
  obtain ⟨number, le, rfl⟩ := gave
  exact ⟨number, le.trans later.sessions, congrFun later.sessionId number⟩

theorem gaveProject_project (n : Issued) : n.project.2.GaveProject n.project.1 :=
  ⟨n.projects + 1, le_rfl, rfl⟩

theorem gaveSession_session (n : Issued) : n.session.2.GaveSession n.session.1 :=
  ⟨n.sessions + 1, le_rfl, rfl⟩

theorem Fresh.not_gaveProject (fresh : n.Fresh) : ¬ n.GaveProject n.project.1 := by
  rintro ⟨number, le, same⟩
  have := fresh.project same
  omega

theorem Fresh.not_gaveSession (fresh : n.Fresh) : ¬ n.GaveSession n.session.1 := by
  rintro ⟨number, le, same⟩
  have := fresh.session same
  omega

end Issued

/-- Ids in hexadecimal digits are never given out twice. -/
theorem fresh_hexadecimal : ({} : Issued).Fresh where
  project := Text.padded_injective (by decide) (by decide) 8
  session := Text.padded_injective (by decide) (by decide) 32
  notDefault number same := by
    -- The name of the shared session is too short.
    have long := Text.le_length_padded 16 32 number
    have short : defaultId.length = 11 := by decide
    have sizes := congrArg List.length same
    dsimp only at sizes
    omega

end SandboxPreview.Session
