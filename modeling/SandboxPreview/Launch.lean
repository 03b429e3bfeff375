/-
# Launching the servers

What a server is started with under given settings. The log level has to be a known one before
anything else happens.
-/
import SandboxPreview.Settings
import SandboxPreview.Session.Manager
import SandboxPreview.Text.Quoted

namespace SandboxPreview

/-- A log level that is not known. -/
structure UnknownLevel where
  level : Text
  deriving DecidableEq

/-- The message of the error. -/
def UnknownLevel.message (e : UnknownLevel) : Text :=
  "Unknown level: ".toList ++ Text.quoted e.level

namespace Launch

/-- The known log levels. -/
def levels : List Text :=
  ["CRITICAL", "FATAL", "ERROR", "WARN", "WARNING", "INFO", "DEBUG", "NOTSET"]

/-- A log level is known, whatever its case. -/
def checkLevel (level : Text) : Except UnknownLevel Unit :=
  if levels.elem (Text.upper level) then .ok () else .error ⟨Text.upper level⟩

/-- How a server listens. -/
structure Listening where
  host : Text
  port : Int
  logLevel : Text
  deriving DecidableEq

/-- How the page server listens. -/
def pages (s : Settings) : Except UnknownLevel Listening := do
  checkLevel s.logLevel
  pure ⟨s.apiServerHost, s.effectivePort, Text.lower s.logLevel⟩

/-- How the tool server is reached: through its standard streams, or by listening. -/
inductive Transport where
  | standardStreams
  | network (name : Text) (listening : Listening)
  deriving DecidableEq

/-- The transport of the tool server. -/
def tools (s : Settings) : Except UnknownLevel Transport := do
  checkLevel s.logLevel
  if s.toolTransport = "stdio".toList then pure .standardStreams
  else
    pure (.network s.toolTransport ⟨s.toolServerHost, s.toolServerPort, Text.lower s.logLevel⟩)

/-- The sessions of a server that was just started. -/
def sessions (s : Settings) : Session.Manager :=
  { timeToLive := s.sessionTtlSeconds, pipeline := s.pipeline }

end Launch

end SandboxPreview
