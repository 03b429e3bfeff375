/-
# Delimited blocks

The primary format of a model reply wraps every file in markers:

    ***FILE_START: src/App.jsx***
    ...
    ***FILE_END***

A header names the file on one line, up to the next three stars; the body runs to the first end
marker after it. Inside the body one fence may wrap the content. What lies between a start and
an end marker is not prose, whether or not a file can be read from it.
-/
import SandboxPreview.Artifact
import SandboxPreview.Text.Pattern

namespace SandboxPreview.Reply

open Pattern

/-- The marker that starts a header. -/
def startMarker : Text := "***FILE_START:"

/-- The marker that ends a body. -/
def endMarker : Text := "***FILE_END***"

/-- A delimited block as it stands in the reply. -/
structure Block where
  header : Text
  body : Text
  deriving DecidableEq

/-- A block: the start marker, a header within one line, three stars, a body, the end marker. -/
def block : Reader Block :=
  literal startMarker <| greedy Text.isBlank <| mark fun header =>
  lazily inLine <| mark fun headerEnd =>
  greedy Text.isBlank <| literal "***" <| mark fun body =>
  lazily anyChar <| mark fun bodyEnd =>
  literal endMarker fun rest =>
    some (⟨Text.between header headerEnd, Text.between body bodyEnd⟩, rest)

/-- A region that holds no prose: from a start marker, with or without its colon, to the next
end marker. -/
def region : Reader Unit :=
  literal "***FILE_START" <| lazily anyChar <| literal endMarker done

/-- The blocks of a reply, from left to right. -/
def blocks (reply : Text) : List Block := findAll block reply

/-- The language of a file: the lower-case text after the last dot of its name. -/
def languageOf (name : Text) : Text :=
  match Text.lower (Text.afterLast '.' name) with
  | [] => "text"
  | language => language

/-- An opening fence: three backticks and a tag of letters, on a line of its own. -/
def openingFence : Reader Unit :=
  literal "```" <| greedy Text.isLetter <| literal "\n" done

/-- A closing fence: three backticks that start the last line. -/
def closingFence : Reader Unit := literal "\n```" <| atEnd done

/-- The text without an opening fence at its start. -/
def dropOpeningFence (body : Text) : Text :=
  match openingFence body with
  | some (_, rest) => rest
  | none => body

/-- The text without a closing fence at its end. -/
def dropClosingFence (body : Text) : Text :=
  match first? closingFence body with
  | some (before, _, rest) => before ++ rest
  | none => body

/-- The content inside one fence. Either end of the fence may be missing. -/
def unfence (body : Text) : Text := dropClosingFence (dropOpeningFence body)

/-- The file of a block; a block whose name is blank has none. -/
def Block.artifact? (b : Block) : Option Artifact :=
  match Text.trim b.header with
  | [] => none
  | name => some ⟨name, languageOf name, unfence (Text.trim b.body)⟩

/-- The files of the delimited blocks. -/
def delimited (reply : Text) : List Artifact := (blocks reply).filterMap Block.artifact?

/-- The prose of a reply: what is left without the regions of files, trimmed. -/
def explanation (reply : Text) : Text := Text.trim (removeAll region reply)

/-- An artifact as a delimited block between line feeds. -/
def Block.write (a : Artifact) : Text :=
  "\n".toList ++ startMarker ++ " ".toList ++ a.name ++ "***\n".toList ++ a.content ++
    "\n".toList ++ endMarker ++ "\n".toList

/-- Artifacts as the delimited blocks of a reply. -/
def serialize (artifacts : List Artifact) : Text := artifacts.flatMap Block.write

end SandboxPreview.Reply
