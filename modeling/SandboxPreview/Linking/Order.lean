/-
# Order of linking

Modules are put one after another, so a module has to come after those it uses. The order is
read off the file names: utilities first, then components, then the application, then the entry
point. Files of one class keep the order in which they came.
-/
import SandboxPreview.Artifact
import SandboxPreview.Text.Pattern

namespace SandboxPreview.Linking

open Pattern

/-- The letters of a word, whatever their case; other characters as they are. -/
def anyCase {β : Type} (word : Text) : (Text → Option β) → Text → Option β :=
  each (word.map fun w => if w.isAlpha then Text.sameLetter w else (· == w))

/-- A dot and the extension of a script at the end of a name. -/
def scriptEnding {β : Type} (next : Text → Option β) : Text → Option β :=
  literal "." <| oneOf [anyCase "js", anyCase "jsx", anyCase "ts", anyCase "tsx"] <| atEnd next

/-- A name that ends in `index` or `main` and the extension of a script. -/
def entryName : Reader Unit := oneOf [anyCase "index", anyCase "main"] <| scriptEnding done

/-- A name that ends in `app` and the extension of a script. -/
def appName : Reader Unit := anyCase "app" <| scriptEnding done

/-- A part of a path that ends in `component` or `components`. -/
def componentFolder : Reader Unit :=
  anyCase "component" <| optionally (Text.sameLetter 's') <| literal "/" done

/-- The class of a file by its name; lower classes are linked first. -/
def priority (name : Text) : Nat :=
  -- The name may show several classes; the one that is linked last wins.
  if occurs entryName name then 100
  else if occurs appName name then 50
  else if occurs componentFolder name then 10
  else 0

/-- The classes that a name may have, in the order of linking. -/
def classes : List Nat := [0, 10, 50, 100]

/-- The artifacts of a class, in their own order. -/
def ofClass (artifacts : List Artifact) (n : Nat) : List Artifact :=
  artifacts.filter fun a => priority a.name == n

/-- The artifacts class by class. -/
def order (artifacts : List Artifact) : List Artifact := classes.flatMap (ofClass artifacts)

end SandboxPreview.Linking
