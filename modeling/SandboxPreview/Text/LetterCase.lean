/-
# Lower and upper case

Lower and upper case of whole texts. Most characters map to one character whatever stands
around them. Three things are special: a dotted capital I becomes two characters in lower case,
some characters become several in upper case, and a capital sigma has two lower forms, the
second where it ends a word.
-/
import SandboxPreview.Text.Blank
import SandboxPreview.Text.CaseTable

namespace SandboxPreview.Text

/-- The shift of `n` in a table of runs, zero when no run holds it. -/
def shiftIn (runs : List (Nat × Nat × Nat × Int)) (n : Nat) : Int :=
  match runs.find? fun (first, last, step, _) =>
      decide (first ≤ n) && decide (n ≤ last) && (n - first) % step == 0 with
  | some (_, _, _, shift) => shift
  | none => 0

/-- The character `shift` code points further on. -/
def shifted (n : Nat) (shift : Int) : Char := Char.ofNat (n + shift).toNat

/-- The lower case of a character on its own, when that is one character. -/
def lowerChar (c : Char) : Char :=
  if c.toNat ≤ 0x7F then c.toLower else shifted c.toNat (shiftIn lowerRuns c.toNat)

/-- The upper case of a character on its own. -/
def upperChar (c : Char) : Text :=
  -- The tables begin beyond ASCII.
  if c.toNat ≤ 0x7F then [c.toUpper]
  else
    match upperExpansions.lookup c.toNat with
    | some codes => codes.map Char.ofNat
    | none => [shifted c.toNat (shiftIn upperRuns c.toNat)]

/-- The nearest character that is not skipped is a letter with case. -/
def meetsCased (text : Text) : Bool :=
  match text.dropWhile fun c => inRanges caseIgnorableRanges c.toNat with
  | [] => false
  | c :: _ => inRanges casedRanges c.toNat

/-- The lower case of a text, where `before` holds what precedes it, nearest first. A capital
sigma takes its final form after a letter with case and before none. -/
def lowerAfter (before : Text) : Text → Text
  | [] => []
  | c :: text =>
    let low : Text :=
      if c = '\u03A3' then
        -- What precedes is held in reverse, so the same look works in both directions.
        if meetsCased before && !meetsCased text then ['\u03C2'] else ['\u03C3']
      else if c = '\u0130' then ['i', '\u0307']
      else [lowerChar c]
    low ++ lowerAfter (c :: before) text

/-- The text in lower case. -/
def lower (text : Text) : Text := lowerAfter [] text

/-- The text in upper case. -/
def upper (text : Text) : Text := text.flatMap upperChar

/-- The character is the lower-case ASCII letter `letter` when case is ignored. Three letters have
companions beyond ASCII: the dotted capital and the dotless small I, the long s, and the Kelvin
sign. Other characters of a pattern stand for themselves. -/
def sameLetter (letter c : Char) : Bool :=
  c.toLower == letter ||
    (letter == 'i' && (c == '\u0130' || c == '\u0131')) ||
    (letter == 's' && c == '\u017F') ||
    (letter == 'k' && c == '\u212A')

/-- A letter from a to z when case is ignored, with the companions beyond ASCII. -/
def isLetter (c : Char) : Bool :=
  c.isAlpha || c == '\u0130' || c == '\u0131' || c == '\u017F' || c == '\u212A'

end SandboxPreview.Text
