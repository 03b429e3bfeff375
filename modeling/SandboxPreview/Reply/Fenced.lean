/-
# Fenced blocks

A reply without delimited files may hold fenced code blocks. A fence is a run of at least three
backticks with a tag and a line feed; its block ends at the next run of as many backticks. The
line before a fence may name the file.
-/
import SandboxPreview.Artifact
import SandboxPreview.Text.Pattern

namespace SandboxPreview.Reply

open Pattern

/-- A fenced block as it stands in the reply; `start` is the text from its fence on. -/
structure Fence where
  start : Text
  tag : Text
  body : Text
  deriving DecidableEq

/-- The character that fences are made of. -/
def isTick (c : Char) : Bool := c == '\x60'

/-- A character of a tag. -/
def isTagChar (c : Char) : Bool := c.isAlphanum || c == '_' || c == '-'

/-- A character of a file name. -/
def isNameChar (c : Char) : Bool :=
  c.isAlphanum || c == '_' || c == '.' || c == '/' || c == '-'

/-- A fenced block: at least three backticks, a tag, a line feed, a body, and as many backticks
again. -/
def fence : Reader Fence :=
  mark fun start =>
  each [isTick, isTick, isTick] <| greedy isTick <| mark fun tag =>
  greedy isTagChar <| mark fun tagEnd =>
  literal "\n" <| mark fun body =>
  lazily anyChar <| mark fun bodyEnd =>
  -- The closing fence is as long as the opening one; a longer run ends the block all the same.
  literal (Text.between start tag) fun rest =>
    some (⟨start, Text.between tag tagEnd, Text.between body bodyEnd⟩, rest)

/-- The letters of a word, whatever their case. -/
def letters {β : Type} (word : Text) : (Text → Option β) → Text → Option β :=
  each (word.map Text.sameLetter)

/-- A label: the word `file` or `filename`, a colon and a name, in letters of either case. -/
def label : Reader Text :=
  oneOf [letters "file", letters "filename"] <| literal ":" <| greedy Text.isBlank <|
  mark fun name =>
  greedy₁ (fun c => isNameChar c || Text.isLetter c) fun rest =>
    some (Text.between name rest, rest)

/-- A line that is a name and a colon. -/
def bareName? : Text → Option Text :=
  mark fun name => greedy₁ isNameChar <| mark fun nameEnd =>
  literal ":" <| atEnd fun _ => some (Text.between name nameEnd)

/-- The name that the last line of a text gives to the fence after it. -/
def nameHint? (preceding : Text) : Option Text :=
  let line := (Text.lines (Text.trim preceding)).getLast?.getD []
  -- A label may stand anywhere in the line; a bare name has to be all of it.
  match first? label line with
  | some (_, name, _) => some name
  | none => bareName? line

/-- The extension of an unnamed block, from its tag. -/
def extensionOf (tag : Text) : Text :=
  -- Of all tags only these two languages, each in two spellings, have an extension.
  let low := Text.lower tag
  if low = "ts".toList ∨ low = "typescript".toList then "ts"
  else if low = "js".toList ∨ low = "javascript".toList then "js"
  else "txt"

/-- The name of an unnamed block, by its place among all blocks. -/
def numberedName (place : Nat) (tag : Text) : Text :=
  "file_".toList ++ Text.ofNat place ++ ['.'] ++ extensionOf tag

/-- The file of a fenced block of a reply. -/
def Fence.artifact (reply : Text) (place : Nat) (f : Fence) : Artifact :=
  let language : Text := if f.tag = [] then "text" else f.tag
  let name :=
    match nameHint? (Text.between reply f.start) with
    | some name => name
    | none => numberedName place language
  ⟨name, language, Text.trim f.body⟩

/-- The fenced blocks of a reply, from left to right. -/
def fences (reply : Text) : List Fence := findAll fence reply

/-- The files of the fenced blocks. -/
def fenced (reply : Text) : List Artifact :=
  (fences reply).mapIdx fun i f => f.artifact reply (i + 1)

end SandboxPreview.Reply
