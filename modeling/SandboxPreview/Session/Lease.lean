/-
# Leases

A client may hold on to the store of a session. What is done through a held store shows in the
session while it lives, and does not push back its deadline. When the session ends, the store
lives on for those who hold it.
-/
import SandboxPreview.Session.Manager

namespace SandboxPreview.Session

/-- What a held name stands for. -/
inductive Holding where
  /-- The store of a session that lives. -/
  | live (sessionId : Text)
  /-- The store of a session that has ended, by its number among those. -/
  | ended (number : Nat)
  deriving DecidableEq

/-- The held names, and the stores of sessions that have ended. -/
structure Leases where
  held : Keyed Holding := []
  ended : List ProjectStore := []

namespace Leases

/-- The store of a session is held under a name. -/
def hold (l : Leases) (name sessionId : Text) : Leases :=
  { l with held := l.held.put name (.live sessionId) }

/-- A session that lived before and does not live now leaves its store to those who hold it. -/
def settle (l : Leases) (before after : Manager) : Leases :=
  (before.sessions.filter fun (id, _) => !after.sessions.has id).foldl
    (fun l (id, session) =>
      -- All names that hold this store are told its number.
      { held := l.held.map fun (name, holding) =>
          (name, if holding = .live id then .ended l.ended.length else holding)
        ended := l.ended ++ [session.store] })
    l

/-- One operation on a held store, or none when the name is not held. -/
def call? (l : Leases) (m : Manager) (now : Instant) (name : Text) (call : ProjectStore.Call) :
    Option (Leases × Manager × Except StoreError ProjectStore.Answer) :=
  match l.held.get? name with
  | none => none
  | some (.live id) =>
    (m.sessions.get? id).map fun session => (l, m.callStore now id session call)
  | some (.ended number) =>
    l.ended[number]?.map fun store =>
      -- Projects of an ended session take their ids from the same supply as all others.
      let (fresh, later) := m.issued.project
      let (store, answer) := store.call m.pipeline fresh now call
      ({ l with ended := l.ended.set number store },
        { m with issued := if call.loads then later else m.issued }, answer)

end Leases

end SandboxPreview.Session
