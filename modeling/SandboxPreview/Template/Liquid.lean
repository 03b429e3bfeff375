/-
# Liquid templates

The static preview of a Liquid section. Nothing is evaluated: output expressions become
placeholders or comments, logic tags are dropped, and the style and script blocks are taken out.
Each change is a rule of its own over the whole text, and the rules run in a fixed order.
-/
import SandboxPreview.Text.Pattern
import SandboxPreview.Text.Blank

namespace SandboxPreview.Template

open Pattern

/-- A rendered template: a whole document, and the style and the script taken out of it. -/
structure Rendered where
  markup : Text
  css : Text := []
  js : Text := []

/-- The opening tag of a named block. -/
def openTag (name : Text) : Text := "\x7b% ".toList ++ name ++ " %\x7d".toList

/-- The closing tag of a named block. -/
def closeTag (name : Text) : Text := openTag ("end".toList ++ name)

/-- A named block, with its body as the result. -/
def namedBlock (name : Text) : Reader Text :=
  literal (openTag name) <| mark fun body => lazily anyChar <| mark fun bodyEnd =>
  literal (closeTag name) fun rest => some (Text.between body bodyEnd, rest)

/-- Two opening braces and blanks. -/
def openOutput {β : Type} (next : Text → Option β) : Text → Option β :=
  literal "\x7b\x7b" <| greedy Text.isBlank next

/-- Anything inside an output expression, which ends at the first closing brace. -/
def inOutput (c : Char) : Bool := except '\x7d' c

/-- The words that a section setting starts with. -/
def settingWords : Text := "section.settings."

/-- An output of a section setting that is an image. -/
def sectionImage : Reader Unit :=
  openOutput <| literal settingWords <| greedy inOutput <| literal "img_url" <|
  greedy inOutput <| literal "\x7d\x7d" done

/-- An output that ends in an image filter. -/
def filteredImage : Reader Unit :=
  openOutput <| greedy inOutput <| literal "|" <| greedy Text.isBlank <| literal "img_url" <|
  greedy inOutput <| literal "\x7d\x7d" done

/-- The rest of an output, with its text up to trailing blanks as the result. -/
def outputText : Reader Text :=
  mark fun start => lazily₁ inOutput <| mark fun stop => greedy Text.isBlank <|
  literal "\x7d\x7d" fun rest => some (Text.between start stop, rest)

/-- An output of a section setting, with the setting's name as the result. -/
def sectionSetting : Reader Text := openOutput <| literal settingWords outputText

/-- An output expression, with the expression as the result. -/
def output : Reader Text := openOutput outputText

/-- A logic tag, which holds no percent sign. -/
def logicTag : Reader Unit :=
  literal "\x7b%" <| greedy (except '%') <| literal "%\x7d" done

/-- The template without its schema blocks. -/
def removeSchema (source : Text) : Text := removeAll (namedBlock "schema") source

/-- A rule that takes the blocks of a name out, with the body of the first one. -/
def takeBlocks (name source : Text) : Text × Option Text :=
  match first? (namedBlock name) source with
  | none => (source, none)
  | some (_, body, _) => (removeAll (namedBlock name) source, some body)

/-- The template without its stylesheet blocks, and the style of the first one under a
heading. -/
def extractStylesheet (source : Text) : Text × Text :=
  match takeBlocks "stylesheet" source with
  | (rest, none) => (rest, [])
  | (rest, some body) => (rest, "\n/* Liquid Stylesheet */\n".toList ++ body)

/-- The template without its script blocks, and the script of the first one. -/
def extractScript (source : Text) : Text × Text :=
  match takeBlocks "javascript" source with
  | (rest, none) => (rest, [])
  | (rest, some body) => (rest, body)

/-- The picture that stands for the image of a section setting. -/
def sectionImagePlaceholder : Text := "https://placehold.co/600x400?text=Section+Image"

/-- The picture that stands for any other image. -/
def imagePlaceholder : Text := "https://placehold.co/600x400?text=Image"

/-- Images become placeholder addresses. -/
def replaceImages (source : Text) : Text :=
  replaceAll filteredImage (fun _ => imagePlaceholder)
    (replaceAll sectionImage (fun _ => sectionImagePlaceholder) source)

/-- The inert label of a section setting. -/
def settingLabel (name : Text) : Text :=
  "<span data-liquid=\"".toList ++ name ++ "\">[Setting: ".toList ++ name ++ "]</span>".toList

/-- Section settings become inert labels. -/
def replaceSettings (source : Text) : Text := replaceAll sectionSetting settingLabel source

/-- The comment that stands for an output expression. -/
def outputComment (expression : Text) : Text :=
  "<!-- ".toList ++ expression ++ " -->".toList

/-- Output expressions become comments. -/
def commentOutputs (source : Text) : Text := replaceAll output outputComment source

/-- Logic tags are dropped; what they enclose stays. -/
def stripLogic (source : Text) : Text := removeAll logicTag source

/-- The document up to the place of the markup. -/
def documentStart : Text :=
  Text.ofLines [
    "<!DOCTYPE html>",
    "<html lang=\"en\">",
    "<head>",
    "  <meta charset=\"UTF-8\">",
    "  <meta name=\"viewport\" content=\"width=device-width, initial-scale=1.0\">",
    "  <title>Liquid Preview</title>",
    "  <style>",
    "    body, html \x7b",
    "      background-color: #ffffff;",
    "      color: #1e293b;",
    "      margin: 0;",
    "      padding: 0;",
    "      height: 100%;",
    "      width: 100%;",
    "      font-family: system-ui, -apple-system, sans-serif;",
    "    \x7d",
    "  </style>",
    "</head>",
    "<body>",
    "  "]

/-- The document around a markup and a script. -/
def document (markup js : Text) : Text :=
  documentStart ++ markup ++ "\n  <script>".toList ++ js ++ "</script>\n</body>\n</html>".toList

/-- The static preview of a template. -/
def render (source : Text) : Rendered :=
  let (source, css) := extractStylesheet (removeSchema source)
  let (source, js) := extractScript source
  let markup := stripLogic (commentOutputs (replaceSettings (replaceImages source)))
  ⟨document markup js, css, js⟩

end SandboxPreview.Template
