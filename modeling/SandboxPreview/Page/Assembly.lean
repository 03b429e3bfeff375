/-
# Assembly

One document from a set of artifacts, ready for a sandboxed frame. Every document carries the
console bridge; missing pieces only make the document smaller, down to an empty page.
-/
import SandboxPreview.Classifier
import SandboxPreview.Linking.Bundle
import SandboxPreview.Page.Injection
import SandboxPreview.Page.Shell
import SandboxPreview.Template.Liquid

namespace SandboxPreview.Page

/-- The styles of a set under comments with their names. -/
def styleSheet (styles : List Artifact) : Text :=
  Text.join "\n" (styles.map fun a => "/* ".toList ++ a.name ++ " */\n".toList ++ a.content)

/-- The markup that a set brings, if any: its preview document or its first other markup. -/
def findBase (artifacts : List Artifact) : Option Artifact :=
  Classifier.findPreview artifacts <|> Classifier.findMarkup artifacts

/-- The page that a set starts from and the styles it adds to those of the set. -/
def basePage (artifacts : List Artifact) (o : Options) (c : Classifier) : Text × Text :=
  match findBase artifacts, c.findTemplate artifacts with
  | some base, _ => (base.content, [])
  | none, some template =>
    if c.classify artifacts = .framework then (emptyShell o.rootId, [])
    else
      let rendered := Template.render template.content
      (rendered.markup, rendered.css)
  | none, none => (emptyShell o.rootId, [])

/-- The page of a set with its styles. -/
def styledPage (artifacts : List Artifact) (o : Options) (c : Classifier) : Text :=
  let (page, css) := basePage artifacts o c
  injectStyles page (styleSheet (Classifier.styles artifacts) ++ css)

/-- The bundle that is linked into a styled page. -/
def bundle (page : Text) (artifacts : List Artifact) (o : Options) : Linking.Bundle :=
  Linking.link (Classifier.scripts artifacts) o.rootId
    (!Text.contains Linking.stylesAddress page)

/-- The scripts of a set in one element. -/
def scriptElement (scripts : List Artifact) : Text :=
  "<script>".toList ++ Text.join "\n" (scripts.map Artifact.content) ++ "</script>".toList

/-- The document of a framework project. -/
def frameworkPage (artifacts : List Artifact) (o : Options) (c : Classifier) : Text :=
  let page := styledPage artifacts o c
  let linked := bundle page artifacts o
  injectBodyEnd (injectHead page (o.bridge ++ "\n".toList ++ linked.head)) linked.body

/-- The document of a project of markup, styles and scripts. -/
def plainPage (artifacts : List Artifact) (o : Options) (c : Classifier) : Text :=
  let page := injectHeadStart (styledPage artifacts o c) o.bridge
  match Classifier.scripts artifacts with
  | [] => page
  | scripts => injectBodyEnd page (scriptElement scripts)

/-- The document of a set of artifacts. -/
def assemble (artifacts : List Artifact) (o : Options) (c : Classifier) : Text :=
  match c.classify artifacts, c.findNative artifacts with
  | .native, some program => nativeDocument program o
  | .framework, _ => frameworkPage artifacts o c
  | _, _ => plainPage artifacts o c

end SandboxPreview.Page
