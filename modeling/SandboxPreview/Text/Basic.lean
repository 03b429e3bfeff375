/-
# Text

A text is a list of characters, so every position and every length is counted in characters.
This module holds the operations on text that need no character tables: looking for a fixed
word, cutting a text around it, and joining or splitting pieces.
-/

namespace SandboxPreview

/-- A text is the sequence of its characters. -/
abbrev Text := List Char

/-- A string literal may stand where a text is expected. -/
instance : Coe String Text := ⟨String.toList⟩

namespace Text

/-- What follows `word`, when the text starts with it. -/
def after? : (word text : Text) → Option Text
  | [], text => some text
  | _ :: _, [] => none
  | w :: word, c :: text => if w = c then after? word text else none

/-- The word stands somewhere in the text; the empty word stands in every text. -/
def contains (word : Text) : Text → Bool
  | [] => word.isEmpty
  | c :: text => word.isPrefixOf (c :: text) || contains word text

/-- The text before and the text after the first occurrence of `word`. -/
def cut? (word : Text) : Text → Option (Text × Text)
  | [] => (after? word []).map fun rest => ([], rest)
  | c :: text =>
    match after? word (c :: text) with
    | some rest => some ([], rest)
    | none => (cut? word text).map fun (before, rest) => (c :: before, rest)

/-- The first occurrence of `word` is replaced; a text without it stays as it is. -/
def replaceFirst (word new text : Text) : Text :=
  match cut? word text with
  | some (before, rest) => before ++ new ++ rest
  | none => text

/-- The part of `whole` that lies before `rest`, where `rest` is an end of `whole`. -/
def between (whole rest : Text) : Text := whole.take (whole.length - rest.length)

theorem between_append (part rest : Text) : between (part ++ rest) rest = part := by
  simp [between]

/-- The text after the last `mark`, or the whole text when there is none. -/
def afterLast (mark : Char) (text : Text) : Text :=
  (text.reverse.takeWhile (· ≠ mark)).reverse

/-- The text before the last `mark`, or `none` when there is none. -/
def beforeLast? (mark : Char) (text : Text) : Option Text :=
  match text.reverse.dropWhile (· ≠ mark) with
  | [] => none
  | _ :: before => some before.reverse

/-- The pieces between the marks: always one more than there are marks. -/
def splitOn (mark : Char) : Text → List Text
  | [] => [[]]
  | c :: text =>
    if c = mark then [] :: splitOn mark text
    else
      match splitOn mark text with
      | [] => [[c]]
      | piece :: pieces => (c :: piece) :: pieces

/-- The lines of a text, ended by line feeds only. -/
def lines (text : Text) : List Text := splitOn '\n' text

/-- The texts in order, with `separator` between neighbours. -/
def join (separator : Text) (texts : List Text) : Text := separator.intercalate texts

/-- The lines given as strings, with line feeds between them. -/
def ofLines (lines : List String) : Text := join "\n" (lines.map String.toList)

/-- The text without `word` at its end, which is taken off at most once. -/
def dropEnding (word text : Text) : Text :=
  match after? word.reverse text.reverse with
  | some before => before.reverse
  | none => text

/-- The word ends the text. -/
def endsWith (word text : Text) : Bool := word.isSuffixOf text

/-- A number in decimal digits. -/
def ofNat (n : Nat) : Text := Nat.toDigits 10 n

/-- A number in decimal digits, after a minus sign when it is negative. -/
def ofInt : Int → Text
  | .ofNat n => ofNat n
  | .negSucc n => '-' :: ofNat (n + 1)

/-- The number written by decimal digits. -/
def ofDigits (digits : Text) : Nat :=
  digits.foldl (fun n c => 10 * n + (c.toNat - '0'.toNat)) 0

/-- A number in the digits of `base`, filled with zeros on the left up to `width`. -/
def padded (base width n : Nat) : Text :=
  let digits := Nat.toDigits base n
  List.replicate (width - digits.length) '0' ++ digits

/-- Texts are ordered by their characters, the first difference deciding. -/
def precedes : Text → Text → Bool
  | [], _ => true
  | _ :: _, [] => false
  | a :: s, b :: t => if a = b then precedes s t else decide (a < b)

/-- The texts in ascending order. -/
def sort (texts : List Text) : List Text := texts.mergeSort precedes

end Text

end SandboxPreview
