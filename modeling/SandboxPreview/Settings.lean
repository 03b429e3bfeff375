/-
# Settings

The settings of the servers. A setting is taken from what was given directly, else from the
environment, else from the environment file, else it has its default. Names in the environment
and the file are taken in either case; names that are not settings are ignored. All settings are
checked, and every problem is reported, in the order of the fields.
-/
import SandboxPreview.Preview
import SandboxPreview.Settings.EnvironmentFile
import SandboxPreview.Settings.Scalar
import SandboxPreview.Text.LetterCase

namespace SandboxPreview

/-- The settings of the servers, and what they are when nothing else is said. -/
structure Settings where
  logLevel : Text := "INFO"
  apiServerHost : Text := "localhost"
  apiServerPort : Int := 8000
  /-- A port that takes precedence over `apiServerPort`. -/
  port : Option Int := none
  toolTransport : Text := "stdio"
  toolServerHost : Text := "localhost"
  toolServerPort : Int := 9000
  sessionTtlSeconds : Int := 1800
  sessionCleanupInterval : Int := 60
  disableSessionList : Bool := false
  consoleSourceTag : Text := "PREVIEW_CONSOLE"
  sandboxTargetOrigin : Text := "*"
  nativeStartDelayMs : Int := 500
  rootElementId : Text := "root"
  maxTextBodyBytes : Int := 5 * 1024 * 1024
  maxBodyBytes : Int := 1 * 1024 * 1024

namespace Settings

/-- The port to listen on. -/
def effectivePort (s : Settings) : Int := s.port.getD s.apiServerPort

/-- The choices for documents. -/
def options (s : Settings) : Page.Options :=
  { sourceTag := s.consoleSourceTag
    targetOrigin := s.sandboxTargetOrigin
    rootId := s.rootElementId
    nativeDelayMs := s.nativeStartDelayMs }

/-- The pipeline under the settings, with the tables as they come. -/
def pipeline (s : Settings) : Pipeline := { options := s.options }

/-! ### Reading settings -/

/-- Where settings are taken from. A name in the file may have no value. -/
structure Sources where
  direct : Keyed Json := []
  environment : Keyed Text := []
  file : Keyed (Option Text) := []

/-- The sources with an environment file of the given text. -/
def Sources.withFile (s : Sources) (text : Text) : Sources :=
  { s with file := EnvironmentFile.read s.environment text }

/-- The value under a name in either case; of several the last. -/
def anyCase? {α : Type} (values : Keyed α) (name : Text) : Option α :=
  (values.reverse.find? fun entry => Text.lower entry.1 == name).map Prod.snd

/-- The value that the sources give to a name. -/
def Sources.value? (s : Sources) (name : Text) : Option Json :=
  s.direct.get? name <|> (anyCase? s.environment name).map .text <|>
    ((anyCase? s.file name).bind id).map .text

/-- One setting: what the sources give, checked, or the default. -/
def setting {α : Type} (s : Sources) (check : List Place → Json → Checked α) (name : Text)
    (absent : α) : Checked α :=
  match s.value? name with
  | some value => check [.field name] value
  | none => .ok absent

/-- The settings when the sources give none. -/
def defaults : Settings := {}

/-- The settings that the sources give. -/
def read (s : Sources) : Checked Settings :=
  (Checked.both Settings.mk (setting s .text "log_level" defaults.logLevel)
    (setting s .text "api_server_host" defaults.apiServerHost))
  |>.and (setting s checkInteger "api_server_port" defaults.apiServerPort)
  |>.and (setting s checkOptionalInteger "port" defaults.port)
  |>.and (setting s .text "mcp_transport" defaults.toolTransport)
  |>.and (setting s .text "mcp_server_host" defaults.toolServerHost)
  |>.and (setting s checkInteger "mcp_server_port" defaults.toolServerPort)
  |>.and (setting s checkInteger "session_ttl_seconds" defaults.sessionTtlSeconds)
  |>.and (setting s checkInteger "session_cleanup_interval" defaults.sessionCleanupInterval)
  |>.and (setting s checkBoolean "disable_session_list" defaults.disableSessionList)
  |>.and (setting s .text "console_source_tag" defaults.consoleSourceTag)
  |>.and (setting s .text "sandbox_target_origin" defaults.sandboxTargetOrigin)
  |>.and (setting s checkInteger "native_start_delay_ms" defaults.nativeStartDelayMs)
  |>.and (setting s .text "root_element_id" defaults.rootElementId)
  |>.and (setting s checkInteger "max_text_body_bytes" defaults.maxTextBodyBytes)
  |>.and (setting s checkInteger "max_body_bytes" defaults.maxBodyBytes)

/-- The settings as a JSON object. -/
def toJson (s : Settings) : Json :=
  .record [("log_level", .text s.logLevel), ("api_server_host", .text s.apiServerHost),
    ("api_server_port", .integer s.apiServerPort),
    ("port", s.port.elim .null .integer), ("mcp_transport", .text s.toolTransport),
    ("mcp_server_host", .text s.toolServerHost), ("mcp_server_port", .integer s.toolServerPort),
    ("session_ttl_seconds", .integer s.sessionTtlSeconds),
    ("session_cleanup_interval", .integer s.sessionCleanupInterval),
    ("disable_session_list", .bool s.disableSessionList),
    ("console_source_tag", .text s.consoleSourceTag),
    ("sandbox_target_origin", .text s.sandboxTargetOrigin),
    ("native_start_delay_ms", .integer s.nativeStartDelayMs),
    ("root_element_id", .text s.rootElementId),
    ("max_text_body_bytes", .integer s.maxTextBodyBytes),
    ("max_body_bytes", .integer s.maxBodyBytes)]

end Settings

end SandboxPreview
