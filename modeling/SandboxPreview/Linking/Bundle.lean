/-
# Linked bundles

The scripts of a component framework become one script that a browser can run: the modules one
after another without imports and exports, the imports of libraries at its head, a guard that
shows an error in the page, and a call that mounts the application when no module has one.
-/
import SandboxPreview.Linking.Order
import SandboxPreview.Linking.Statements
import SandboxPreview.Linking.Libraries

namespace SandboxPreview.Linking

/-- The fragments that a linked project adds to a page, and what linking found. -/
structure Bundle where
  head : Text
  body : Text
  externalImports : List Text
  entryPointFound : Bool
  mountSynthesized : Bool

/-- The words of a call that mounts an application. -/
def mountCalls : List Text := ["createRoot", "ReactDOM.render"]

/-- The words that declare an application. -/
def appDeclarations : List Text := ["function App", "class App", "const App"]

/-- The source mounts an application. -/
def hasMountCall (source : Text) : Bool := mountCalls.any fun call => Text.contains call source

/-- The source declares an application. -/
def declaresApp (source : Text) : Bool :=
  appDeclarations.any fun words => Text.contains words source

/-- The call that mounts an application in the root element. -/
def mountScript (rootId : Text) : Text :=
  "if (typeof App !== 'undefined') \x7b\n  const root = ReactDOM.createRoot(document.getElementById(".toList ++
    Json.quote rootId ++
    "));\n  root.render(React.createElement(App));\n\x7d".toList

/-- A script inside a guard that shows its error in the root element. -/
def guarded (script rootId : Text) : Text :=
  "try \x7b\n".toList ++ script ++
    "\n\x7d catch (err) \x7b\n  console.error(\"Runtime Script Error:\", err);\n  const root = document.getElementById(".toList ++
    Json.quote rootId ++
    ");\n  if (root) \x7b\n    root.innerHTML = '<div style=\"color:red; padding:20px;\"><h3>Script Error</h3><pre>' + err.message + '</pre></div>';\n  \x7d\n\x7d".toList

/-- A stand-in for a variable that scripts expect outside a browser. -/
def environmentStub : Text :=
  "window.process = \x7b env: \x7b NODE_ENV: 'development' \x7d \x7d;"

/-- What linking has gathered from the modules so far. -/
structure Gathered where
  parts : List Text := []
  external : List Text := []
  entryPointFound : Bool := false

/-- A module is added: its part under a comment with its name, and its library imports. -/
def Gathered.add (g : Gathered) (a : Artifact) : Gathered :=
  let (source, external) := stripImports a.content g.external
  { parts := g.parts ++ ["// --- ".toList ++ a.name ++ " ---\n".toList ++ stripExports source]
    external
    -- The call may stand in what is stripped, so the module is searched as it came.
    entryPointFound := g.entryPointFound || hasMountCall a.content }

/-- What linking gathers from the modules, in the order of linking. -/
def gather (artifacts : List Artifact) : Gathered := (order artifacts).foldl Gathered.add {}

/-- The application has to be mounted by a call of its own. -/
def Gathered.needsMount (g : Gathered) : Bool := !g.entryPointFound && g.parts.any declaresApp

/-- The script of the linked modules, with the mounting call when it is needed. -/
def Gathered.script (g : Gathered) (rootId : Text) : Text :=
  Text.join "\n\n" g.parts ++
    (if g.needsMount then '\n' :: mountScript rootId else [])

/-- The element that holds the linked script. -/
def Gathered.element (g : Gathered) (rootId : Text) : Text :=
  Text.join "\n"
    (["<script type=\"text/babel\" data-type=\"module\">".toList] ++ g.external ++
      [environmentStub, guarded (g.script rootId) rootId, "</script>"])

/-- The fragment for the head of the page. -/
def headFragment (artifacts : List Artifact) (includeStyles : Bool) : Text :=
  Text.join "\n"
    ((if includeStyles then ["<script src=\"".toList ++ stylesAddress ++ "\"></script>".toList]
      else []) ++
      [importMap] ++ styleLinks (artifacts.map Artifact.content))

/-- The bundle of a framework project's scripts. -/
def link (artifacts : List Artifact) (rootId : Text) (includeStyles : Bool) : Bundle :=
  let g := gather artifacts
  { head := headFragment artifacts includeStyles
    body := "<script src=\"".toList ++ compilerAddress ++ "\"></script>\n".toList ++
      g.element rootId
    externalImports := g.external
    entryPointFound := g.entryPointFound
    mountSynthesized := g.needsMount }

end SandboxPreview.Linking
