/-
# The console bridge

The script that every document carries: it forwards console calls, uncaught errors and unhandled
rejections to the window around the sandbox, as messages with a source tag. Its text holds three
place names, which are replaced one after another by the values of the options.
-/
import SandboxPreview.Json.Printer
import SandboxPreview.Text.Pattern

namespace SandboxPreview.Page

/-- The choices a host may make for its documents. -/
structure Options where
  sourceTag : Text := "PREVIEW_CONSOLE"
  targetOrigin : Text := "*"
  rootId : Text := "root"
  nativeDelayMs : Int := 500

/-- What a document is allowed to do inside its frame. -/
def sandboxFlags : Text :=
  "allow-scripts allow-modals allow-forms allow-popups allow-same-origin"

/-- The place of the source tag. -/
def sourcePlace : Text := "__SOURCE__"

/-- The place of the window that messages are sent to. -/
def originPlace : Text := "__ORIGIN__"

/-- The place of the root element's name. -/
def rootPlace : Text := "__ROOT__"

/-- The bridge with its places. -/
def bridgeTemplate : Text :=
  Text.ofLines [
    "<script>",
    "  (function() \x7b",
    "    function send(type, args) \x7b",
    "      try \x7b",
    "        const message = args.map(arg => \x7b",
    "          if (arg === null) return 'null';",
    "          if (arg === undefined) return 'undefined';",
    "          if (typeof arg === 'object') \x7b",
    "            try \x7b return JSON.stringify(arg, null, 2); \x7d catch(e) \x7b return String(arg); \x7d",
    "          \x7d",
    "          return String(arg);",
    "        \x7d).join(' ');",
    "        window.parent.postMessage(\x7b source: __SOURCE__, type: type, message: message \x7d, __ORIGIN__);",
    "      \x7d catch (e) \x7b",
    "        originalError.call(console, 'Failed to send console log', e);",
    "      \x7d",
    "    \x7d",
    "",
    "    const originalLog = console.log;",
    "    const originalError = console.error;",
    "    const originalWarn = console.warn;",
    "    const originalInfo = console.info;",
    "",
    "    console.log = function(...args) \x7b originalLog.apply(console, args); send('log', args); \x7d;",
    "    console.error = function(...args) \x7b originalError.apply(console, args); send('error', args); \x7d;",
    "    console.warn = function(...args) \x7b originalWarn.apply(console, args); send('warn', args); \x7d;",
    "    console.info = function(...args) \x7b originalInfo.apply(console, args); send('info', args); \x7d;",
    "",
    "    window.onerror = function(message, source, lineno, colno, error) \x7b",
    "      send('error', [message]);",
    "      // Only draw the panel when nothing rendered yet.",
    "      const root = document.getElementById(__ROOT__);",
    "      if (root && root.innerHTML.trim() === '') \x7b",
    "        root.innerHTML = '<div style=\"color: #f87171; background: #450a0a; padding: 20px; font-family: system-ui, sans-serif; border-radius: 8px; margin: 20px; border: 1px solid #7f1d1d;\">' +",
    "          '<h3 style=\"margin-top:0\">Preview Error</h3>' +",
    "          '<pre style=\"white-space: pre-wrap;\">' + message + '</pre>' +",
    "          '<p style=\"opacity: 0.8; font-size: 0.9em; margin-top: 10px;\">Check console for details.</p>' +",
    "        '</div>';",
    "      \x7d",
    "      return false;",
    "    \x7d;",
    "",
    "    window.addEventListener('unhandledrejection', function(event) \x7b",
    "      send('error', ['Unhandled Promise Rejection: ' + event.reason]);",
    "    \x7d);",
    "  \x7d)();",
    "</script>"]

/-- The bridge for the given values, each written as a JSON text. -/
def bridgeScript (sourceTag targetOrigin rootId : Text) : Text :=
  Pattern.replaceWord rootPlace (Json.quote rootId)
    (Pattern.replaceWord originPlace (Json.quote targetOrigin)
      (Pattern.replaceWord sourcePlace (Json.quote sourceTag) bridgeTemplate))

/-- The bridge for a host's choices. -/
def Options.bridge (o : Options) : Text := bridgeScript o.sourceTag o.targetOrigin o.rootId

end SandboxPreview.Page
