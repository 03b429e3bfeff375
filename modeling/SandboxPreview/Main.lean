/-
# Command line

`pages` and `tools` report how the two servers would be started under the environment and the
environment file; `preview` reads a model reply and writes its document.
-/
import SandboxPreview.Launch

open SandboxPreview

/-- The names under which settings are looked for in the environment. -/
def settingNames : List String :=
  ["LOG_LEVEL", "API_SERVER_HOST", "API_SERVER_PORT", "PORT", "MCP_TRANSPORT",
   "MCP_SERVER_HOST", "MCP_SERVER_PORT", "SESSION_TTL_SECONDS", "SESSION_CLEANUP_INTERVAL",
   "DISABLE_SESSION_LIST", "CONSOLE_SOURCE_TAG", "SANDBOX_TARGET_ORIGIN",
   "NATIVE_START_DELAY_MS", "ROOT_ELEMENT_ID", "MAX_TEXT_BODY_BYTES", "MAX_BODY_BYTES"]

/-- The settings of the environment and of the file `.env` in the working directory. -/
def readSettings : IO (Checked Settings) := do
  let file := (← try IO.FS.readFile ".env" catch _ => pure "").toList
  let names := settingNames ++ (Settings.EnvironmentFile.references file).map String.ofList
  let found ← names.filterMapM fun name => do
    pure ((← IO.getEnv name).map fun value => (name.toList, value.toList))
  pure (Settings.read (Settings.Sources.withFile { environment := found } file))

/-- How a server listens, on a line. -/
def listeningLine (l : Launch.Listening) : Text :=
  l.host ++ ':' :: Text.ofInt l.port ++ " (".toList ++ l.logLevel ++ [')']

/-- How the tool server is reached, on a line. -/
def transportLine : Launch.Transport → Text
  | .standardStreams => "stdio"
  | .network name l => name ++ " ".toList ++ listeningLine l

/-- What a server is started with, or why it cannot be started. -/
def report {α : Type} (launch : Settings → Except UnknownLevel α) (line : α → Text) :
    IO UInt32 := do
  match ← readSettings with
  | .error issues =>
    for issue in issues do
      IO.eprintln (String.ofList issue.problem.message)
    return 1
  | .ok settings =>
    match launch settings with
    | .error e =>
      IO.eprintln (String.ofList e.message)
      return 1
    | .ok found =>
      IO.println (String.ofList (line found))
      return 0

/-- The command line. -/
def main (args : List String) : IO UInt32 := do
  match args with
  | ["pages"] => report Launch.pages listeningLine
  | ["tools"] => report Launch.tools transportLine
  | ["preview"] =>
    match ← readSettings with
    | .error issues =>
      for issue in issues do
        IO.eprintln (String.ofList issue.problem.message)
      return 1
    | .ok settings =>
      let reply ← (← IO.getStdin).readToEnd
      IO.print (String.ofList (settings.pipeline.run reply.toList).document)
      return 0
  | _ =>
    IO.eprintln "usage: pages | tools | preview"
    return 2
