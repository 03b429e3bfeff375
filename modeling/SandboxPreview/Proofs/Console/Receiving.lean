/-
# Receiving console messages

A value is received as a message exactly when it is an object that spells one: a text for the
source, the name of a level for the type, and a text for the message. What else it holds does not
matter. A message from another source is refused, and so is every other value; what is refused
leaves the log as it is.

## Main definitions

* `Message.SpelledBy`: the value spells the message.

## Main results

* `check_eq_ok_iff`: the check accepts exactly the spelled messages;
* `receive_of_spelledBy`, `receive_of_foreign`, `receive_of_not_spelledBy`: the three ways in which
  receiving a value ends.
-/
import SandboxPreview.Console.Log

namespace SandboxPreview.Console

variable {log : Log} {now : Instant} {payload : Json} {place : List Place} {m : Message}
  {level : Level} {name : Text}

theorem ofName?_eq_some_iff : Level.ofName? name = some level ↔ level.name = name := by
  rw [Level.ofName?]
  constructor
  · intro found
    simpa using List.find?_some found
  · rintro rfl
    cases level <;> decide

/-- The value is an object whose members spell the message. -/
structure Message.SpelledBy (m : Message) (payload : Json) : Prop where
  source : payload.get? "source" = some (.text m.source)
  level : payload.get? "type" = some (.text m.level.name)
  text : payload.get? "message" = some (.text m.text)

/-! ## Checks -/

theorem both_eq_ok_iff {α β γ : Type} {f : α → β → γ} {a : Checked α} {b : Checked β} {z : γ} :
    Checked.both f a b = .ok z ↔ ∃ x y, a = .ok x ∧ b = .ok y ∧ f x y = z := by
  cases a <;> cases b <;> simp [Checked.both]

theorem required_eq_ok_iff {α : Type} {check : List Place → Json → Checked α} {object : Json}
    {x : α} :
    Checked.required check place name object = .ok x ↔
      ∃ value, object.get? name = some value ∧ check (place ++ [.field name]) value = .ok x := by
  rw [Checked.required]
  cases object.get? name <;> simp [Checked.fail]

theorem text_eq_ok_iff {value : Json} {s : Text} :
    Checked.text place value = .ok s ↔ value = .text s := by
  cases value <;> simp [Checked.text, Checked.fail]

theorem levelCheck_eq_ok_iff {value : Json} :
    Level.check place value = .ok level ↔ value = .text level.name := by
  cases value with
  | text name =>
    rw [Level.check]
    cases named : Level.ofName? name with
    | none =>
      have different : level.name ≠ name := fun same => by
        simp [ofName?_eq_some_iff.mpr same] at named
      simpa [Checked.fail, named] using different.symm
    | some other =>
      have spelled := ofName?_eq_some_iff.mp named
      simp only [Except.ok.injEq, Json.text.injEq]
      constructor
      · rintro rfl
        exact spelled.symm
      · intro same
        exact Option.some.inj (named.symm.trans (ofName?_eq_some_iff.mpr same.symm))
  | _ => simp [Level.check, Checked.fail]

theorem check_eq_ok_iff {refusal : Problem} :
    Message.check refusal place payload = .ok m ↔ m.SpelledBy payload := by
  cases payload with
  | object members =>
    simp only [Message.check, both_eq_ok_iff, required_eq_ok_iff, text_eq_ok_iff,
      levelCheck_eq_ok_iff]
    constructor
    · rintro ⟨source, rest, ⟨-, hsource, rfl⟩,
        ⟨level, text, ⟨-, hlevel, rfl⟩, ⟨-, htext, rfl⟩, rfl⟩, rfl⟩
      exact ⟨hsource, hlevel, htext⟩
    · intro spelled
      exact ⟨m.source, (m.level, m.text), ⟨_, spelled.source, rfl⟩,
        ⟨m.level, m.text, ⟨_, spelled.level, rfl⟩, ⟨_, spelled.text, rfl⟩, rfl⟩, rfl⟩
  | _ =>
    -- A value that is no object has no members.
    exact iff_of_false (by simp [Message.check, Checked.fail])
      fun spelled => by simpa [Json.get?] using spelled.source

/-! ## Receiving -/

/-- The event of a message that is received at an instant. -/
def Message.event (m : Message) (now : Instant) : Event := ⟨m.level, m.text, Clock.timeOfDay now⟩

theorem receive_of_spelledBy (now : Instant) (spelled : m.SpelledBy payload)
    (own : m.source = log.sourceTag) :
    log.receive now payload =
      .ok (m.event now, { log with events := log.events ++ [m.event now] }) := by
  have checked : Message.check Message.notRecord [] payload = .ok m := check_eq_ok_iff.mpr spelled
  simp only [Log.receive, checked, Log.receiveMessage, if_pos own, Message.event]

theorem receive_of_foreign (now : Instant) (spelled : m.SpelledBy payload)
    (other : m.source ≠ log.sourceTag) : log.receive now payload = .error (.foreign m.source) := by
  have checked : Message.check Message.notRecord [] payload = .ok m := check_eq_ok_iff.mpr spelled
  simp only [Log.receive, checked, Log.receiveMessage, if_neg other]

theorem receive_of_not_spelledBy (log : Log) (now : Instant)
    (unspelled : ∀ m : Message, ¬ m.SpelledBy payload) :
    ∃ issues, log.receive now payload = .error (.malformed issues) := by
  rw [Log.receive]
  cases checked : Message.check Message.notRecord [] payload with
  | ok m => exact absurd (check_eq_ok_iff.mp checked) (unspelled m)
  | error issues => exact ⟨issues, rfl⟩

/-- A received event is that of a message that the value spells. -/
theorem exists_of_receive {event : Event} {log' : Log}
    (received : log.receive now payload = .ok (event, log')) :
    ∃ m : Message, m.SpelledBy payload ∧ m.source = log.sourceTag ∧ event = m.event now ∧
      log' = { log with events := log.events ++ [event] } := by
  by_cases spells : ∃ m : Message, m.SpelledBy payload
  · obtain ⟨m, spelled⟩ := spells
    by_cases own : m.source = log.sourceTag
    · rw [receive_of_spelledBy now spelled own] at received
      obtain ⟨rfl, rfl⟩ := Prod.mk.inj (Except.ok.inj received)
      exact ⟨m, spelled, own, rfl, rfl⟩
    · simp [receive_of_foreign now spelled own] at received
  · obtain ⟨issues, refused⟩ :=
      receive_of_not_spelledBy log now fun m spelled => spells ⟨m, spelled⟩
    simp [refused] at received

end SandboxPreview.Console
