/-
# Bare documents

The documents that hold no page of the user: an empty page with a root element, and the document
that runs the imitation of a native program.
-/
import SandboxPreview.Page.Bridge
import SandboxPreview.Simulator.Registry

namespace SandboxPreview.Page

/-- The empty page up to the style of its root element. -/
def shellStart : Text :=
  Text.ofLines [
    "<!DOCTYPE html>",
    "<html lang=\"en\">",
    "<head>",
    "  <meta charset=\"UTF-8\">",
    "  <meta name=\"viewport\" content=\"width=device-width, initial-scale=1.0\">",
    "  <title>Preview</title>",
    "  <style>",
    "    body, html \x7b",
    "      background-color: #ffffff;",
    "      color: #1e293b;",
    "      margin: 0;",
    "      padding: 0;",
    "      height: 100%;",
    "      width: 100%;",
    "      font-family: system-ui, -apple-system, sans-serif;",
    "    \x7d",
    "    #"]

/-- The empty page between the style and the name of its root element. -/
def shellMiddle : Text :=
  Text.ofLines [
    " \x7b",
    "      min-height: 100%;",
    "      display: flex;",
    "      flex-direction: column;",
    "    \x7d",
    "  </style>",
    "</head>",
    "<body>",
    "  <div id=\""]

/-- The empty page after the name of its root element. -/
def shellEnd : Text :=
  Text.ofLines [
    "\"></div>",
    "</body>",
    "</html>"]

/-- The empty page with a root element. -/
def emptyShell (rootId : Text) : Text :=
  shellStart ++ rootId ++ shellMiddle ++ rootId ++ shellEnd

/-- The native document up to the bridge. -/
def nativeStart : Text :=
  Text.ofLines [
    "<!DOCTYPE html>",
    "<html>",
    "<head>",
    "  <meta charset=\"utf-8\">",
    "  "]

/-- The native document between the bridge and the script. -/
def nativeMiddle : Text :=
  Text.ofLines [
    "",
    "  <style>body \x7b background-color: #0f172a; color: #f8fafc; font-family: monospace; padding: 20px; \x7d</style>",
    "</head>",
    "<body>",
    "  <script>",
    "    setTimeout(() => \x7b",
    ""]

/-- The native document between the script and its delay. -/
def nativeDelay : Text :=
  Text.ofLines [
    "",
    "    \x7d, "]

/-- The native document after the delay. -/
def nativeEnd : Text :=
  Text.ofLines [
    ");",
    "  </script>",
    "</body>",
    "</html>"]

/-- The end of a script element without its closing bracket, in letters of either case, with the
word as the result. -/
def scriptClose : Pattern.Reader Text :=
  Pattern.literal "</" <| Pattern.mark fun word =>
  Pattern.each ("script".toList.map Text.sameLetter) fun rest =>
    some (Text.between word rest, rest)

/-- A script in which no place ends the element around it. -/
def keepOpen (script : Text) : Text :=
  Pattern.replaceAll scriptClose (fun word => "<\\/".toList ++ word) script

/-- The document that imitates a native program after a delay. -/
def nativeDocument (a : Artifact) (o : Options) : Text :=
  nativeStart ++ o.bridge ++ nativeMiddle ++ keepOpen (Simulator.simulate a) ++ nativeDelay ++
    Text.ofInt o.nativeDelayMs ++ nativeEnd

end SandboxPreview.Page
