/-
# Keyed lists

Values under text keys, in the order in which their keys were first put in. Putting a value
under a key that is present changes the value and keeps its place.
-/
import SandboxPreview.Text.Basic

namespace SandboxPreview

/-- Values under keys, in the order of the keys' first insertion. -/
abbrev Keyed (α : Type) := List (Text × α)

namespace Keyed

variable {α : Type}

/-- The value under a key. -/
def get? (m : Keyed α) (key : Text) : Option α := m.lookup key

/-- The key is present. -/
def has (m : Keyed α) (key : Text) : Bool := (get? m key).isSome

/-- The keys in order. -/
def keys (m : Keyed α) : List Text := m.map Prod.fst

/-- A value under a present key is changed; an absent key changes nothing. -/
def update (m : Keyed α) (key : Text) (f : α → α) : Keyed α :=
  m.map fun entry => if entry.1 = key then (entry.1, f entry.2) else entry

/-- A value is put under a key. -/
def put (m : Keyed α) (key : Text) (value : α) : Keyed α :=
  if has m key then update m key fun _ => value else m ++ [(key, value)]

/-- A key is taken out with its value. -/
def erase (m : Keyed α) (key : Text) : Keyed α := m.filter fun entry => entry.1 ≠ key

end Keyed

end SandboxPreview
