/-
# Console logs

The console events of one preview. Messages whose source is not the expected tag are refused:
they come from some other script that posts to the same window. Events are only removed all at
once.
-/
import SandboxPreview.Clock
import SandboxPreview.Console.Message

namespace SandboxPreview.Console

/-- A console message that was received, with the time of day. -/
structure Event where
  level : Level
  text : Text
  timestamp : Text
  deriving DecidableEq

/-- Why a message is refused. -/
inductive Refusal where
  /-- The value is no message. -/
  | malformed (issues : List Issue)
  /-- The message has another source than the expected one. -/
  | foreign (source : Text)

/-- The first line of the message of a refusal. -/
def Refusal.message : Refusal → Text
  | .malformed issues =>
    "Malformed console message: ".toList ++ Text.ofNat issues.length ++
      (if issues.length = 1 then " validation error".toList else " validation errors") ++
      " for ConsoleMessage".toList
  | .foreign source => "Unexpected message source '".toList ++ source ++ ['\x27']

/-- The events of a preview, oldest first, and the tag that messages have to carry. -/
structure Log where
  sourceTag : Text
  events : List Event := []

namespace Log

/-- A checked message is received: its event, and the log with it. -/
def receiveMessage (log : Log) (now : Instant) (m : Message) : Except Refusal (Event × Log) :=
  if m.source = log.sourceTag then
    let event : Event := ⟨m.level, m.text, Clock.timeOfDay now⟩
    .ok (event, { log with events := log.events ++ [event] })
  else .error (.foreign m.source)

/-- A value is received as a message: its event, and the log with it. -/
def receive (log : Log) (now : Instant) (payload : Json) : Except Refusal (Event × Log) :=
  match Message.check Message.notRecord [] payload with
  | .ok m => receiveMessage log now m
  | .error issues => .error (.malformed issues)

/-- The log without its events, and how many they were. -/
def clear (log : Log) : Nat × Log := (log.events.length, { log with events := [] })

end Log

end SandboxPreview.Console
