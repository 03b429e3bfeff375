/-
# Project kinds

Which assembly a set of artifacts needs. The kinds are told apart by file extensions and by
words in the scripts, never by parsing: artifacts are generated and need not be well formed, and
a wrong guess only makes a poorer preview. The tables are parameters of the classifier.
-/
import SandboxPreview.Artifact

namespace SandboxPreview

/-- How a project is previewed. -/
inductive ProjectKind where
  /-- The console output of a native program is imitated. -/
  | native
  /-- A template is rendered without evaluating it. -/
  | templating
  /-- Modules of a component framework are linked into one script. -/
  | framework
  /-- Markup, styles and scripts are put together as they are. -/
  | plain
  deriving DecidableEq

/-- The name of a kind. -/
def ProjectKind.name : ProjectKind → Text
  | native => "native"
  | templating => "templating"
  | framework => "framework"
  | plain => "plain"

/-- The tables by which artifacts are classified. -/
structure Classifier where
  nativeExtensions : List Text := ["cpp", "c", "py", "java", "rs", "go", "php"]
  frameworkNeedles : List Text :=
    ["import React", "react-dom", "from \"react\"", "from 'react'"]
  templatingExtensions : List Text := ["liquid"]

namespace Classifier

/-- The name of a document that was generated to be the preview. -/
def previewDocument : Text := "preview.html"

def markupExtensions : List Text := ["html"]

def scriptExtensions : List Text := ["js", "jsx", "ts", "tsx"]

def styleExtensions : List Text := ["css"]

/-- The artifact is the preview document, whatever the case of its name. -/
def isPreview (a : Artifact) : Bool := Text.lower a.name == previewDocument

/-- The artifact is markup other than the preview document. -/
def isMarkup (a : Artifact) : Bool := markupExtensions.elem a.extension && !isPreview a

def isScript (a : Artifact) : Bool := scriptExtensions.elem a.extension

def isStyle (a : Artifact) : Bool := styleExtensions.elem a.extension

/-- The preview document of a set, if it has one. -/
def findPreview (artifacts : List Artifact) : Option Artifact := artifacts.find? isPreview

/-- The first markup that is not the preview document. -/
def findMarkup (artifacts : List Artifact) : Option Artifact := artifacts.find? isMarkup

/-- The scripts of a set. -/
def scripts (artifacts : List Artifact) : List Artifact := artifacts.filter isScript

/-- The styles of a set. -/
def styles (artifacts : List Artifact) : List Artifact := artifacts.filter isStyle

/-- The first artifact in a native language. -/
def findNative (c : Classifier) (artifacts : List Artifact) : Option Artifact :=
  artifacts.find? fun a => c.nativeExtensions.elem a.extension

/-- The first template. -/
def findTemplate (c : Classifier) (artifacts : List Artifact) : Option Artifact :=
  artifacts.find? fun a => c.templatingExtensions.elem a.extension

/-- Some script holds a word that gives a framework away. -/
def isFramework (c : Classifier) (artifacts : List Artifact) : Bool :=
  (scripts artifacts).any fun a => c.frameworkNeedles.any fun needle =>
    Text.contains needle a.content

/-- The set has a native artifact and nothing that a browser shows. -/
def isNative (c : Classifier) (artifacts : List Artifact) : Bool :=
  (findPreview artifacts).isNone && (findMarkup artifacts).isNone &&
    (scripts artifacts).isEmpty && (styles artifacts).isEmpty &&
    (c.findNative artifacts).isSome

/-- The kind of a set of artifacts. -/
def classify (c : Classifier) (artifacts : List Artifact) : ProjectKind :=
  if c.isNative artifacts then .native
  else if c.isFramework artifacts then .framework
  else if (c.findTemplate artifacts).isSome then .templating
  else .plain

/-- The native kind comes first, so nothing but its own probe decides it. -/
theorem classify_eq_native {c : Classifier} {artifacts : List Artifact} :
    c.classify artifacts = .native ↔ c.isNative artifacts = true := by
  constructor
  · intro kind
    rw [classify] at kind
    split at kind
    · assumption
    · split at kind
      · cases kind
      · split at kind <;> cases kind
  · intro native
    rw [classify, if_pos native]

end Classifier

end SandboxPreview
