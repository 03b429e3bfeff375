/-
# Patterns

A pattern reads a text from its start and hands the rest to what follows it. Where a pattern
can stop at several places it offers them in order, and the first one that what follows accepts
is taken: `greedy` offers the longest run first, `lazily` the shortest. A pattern is written as
a function of what follows; `mark` names a place on the way, so that the text between two
places can be taken out.

## Main definitions

* `literal`, `one`, `greedy`, `lazily`, `oneOf`, `mark`: the building blocks;
* `first?`: the leftmost place where a pattern matches;
* `segments`: the text cut into the matches, from left to right and not overlapping, and the
  characters between them; `replaceAll` puts a text in the place of each match.
-/
import SandboxPreview.Text.Basic

namespace SandboxPreview.Pattern

variable {α β : Type}

/-- What a pattern makes of a text: a result and the rest, or no match. -/
abbrev Reader (α : Type) := Text → Option (α × Text)

/-- The characters of `word`. -/
def literal : (word : Text) → (Text → Option β) → Text → Option β
  | [], next, text => next text
  | _ :: _, _, [] => none
  | w :: word, next, c :: text => if w = c then literal word next text else none

/-- One character of a class. -/
def one (p : Char → Bool) (next : Text → Option β) : Text → Option β
  | [] => none
  | c :: text => if p c then next text else none

/-- Characters that match the given classes in turn. -/
def each : (classes : List (Char → Bool)) → (Text → Option β) → Text → Option β
  | [], next => next
  | p :: classes, next => one p (each classes next)

/-- Any number of characters of a class, as many as what follows allows. -/
def greedy (p : Char → Bool) (next : Text → Option β) : Text → Option β
  | [] => next []
  | c :: text =>
    -- The longer run is tried first; only when it leads nowhere does the run end here.
    if p c then greedy p next text <|> next (c :: text) else next (c :: text)

/-- One or more characters of a class, as many as what follows allows. -/
def greedy₁ (p : Char → Bool) (next : Text → Option β) : Text → Option β :=
  one p (greedy p next)

/-- Any number of characters of a class, as few as what follows allows. -/
def lazily (p : Char → Bool) (next : Text → Option β) : Text → Option β
  | [] => next []
  | c :: text =>
    -- The run ends here if it can; only then is it tried with one character more.
    next (c :: text) <|> (if p c then lazily p next text else none)

/-- One or more characters of a class, as few as what follows allows. -/
def lazily₁ (p : Char → Bool) (next : Text → Option β) : Text → Option β :=
  one p (lazily p next)

/-- A character of a class if there is one. -/
def optionally (p : Char → Bool) (next : Text → Option β) (text : Text) : Option β :=
  one p next text <|> next text

/-- The first of several patterns that leads to a match. -/
def oneOf (choices : List ((Text → Option β) → Text → Option β)) (next : Text → Option β)
    (text : Text) : Option β :=
  choices.findSome? fun choice => choice next text

/-- The end of the text, or a line feed that ends it. -/
def atEnd (next : Text → Option β) (text : Text) : Option β :=
  if text = [] ∨ text = ['\n'] then next text else none

/-- Any character. -/
def anyChar (_ : Char) : Bool := true

/-- Any character but a line feed. -/
def inLine (c : Char) : Bool := c != '\n'

/-- Any character but the given one. -/
def except (stop c : Char) : Bool := c != stop

/-- A place in the text, given by what follows it. -/
def mark (next : (place : Text) → Text → Option β) (text : Text) : Option β := next text text

/-- The end of a pattern that matches without a result. -/
def done (rest : Text) : Option (Unit × Text) := some ((), rest)

/-- The leftmost match: the text before it, its result, and the text after it. -/
def first? (pattern : Reader α) : Text → Option (Text × α × Text)
  | [] => (pattern []).map fun (a, rest) => ([], a, rest)
  | c :: text =>
    match pattern (c :: text) with
    | some (a, rest) => some ([], a, rest)
    | none => (first? pattern text).map fun (before, found) => (c :: before, found)

/-- The pattern matches somewhere in the text. -/
def occurs (pattern : Reader α) (text : Text) : Bool := (first? pattern text).isSome

/-- A piece of a searched text. -/
inductive Segment (α : Type) where
  /-- A character outside all matches. -/
  | plain (c : Char)
  /-- A match. -/
  | found (a : α)

/-- The segments of a text, for matches that are not empty. At most `steps` of them are looked
for, which is enough when `steps` is the length of the text. -/
def segmentsWithin (pattern : Reader α) : (steps : Nat) → Text → List (Segment α)
  | 0, text => text.map .plain
  | _ + 1, [] => []
  | steps + 1, c :: text =>
    match pattern (c :: text) with
    | some (a, rest) => .found a :: segmentsWithin pattern steps rest
    | none => .plain c :: segmentsWithin pattern steps text

/-- The text cut into the matches of a pattern and the characters between them. -/
def segments (pattern : Reader α) (text : Text) : List (Segment α) :=
  segmentsWithin pattern text.length text

/-- The match of a segment. -/
def Segment.match? : Segment α → Option α
  | .plain _ => none
  | .found a => some a

/-- The text of a segment, with a text in the place of its match. -/
def Segment.render (f : α → Text) : Segment α → Text
  | .plain c => [c]
  | .found a => f a

/-- All matches, from left to right. -/
def findAll (pattern : Reader α) (text : Text) : List α :=
  (segments pattern text).filterMap Segment.match?

/-- The text with another text in the place of every match. -/
def replaceAll (pattern : Reader α) (f : α → Text) (text : Text) : Text :=
  (segments pattern text).flatMap (Segment.render f)

/-- The text without the matches. -/
def removeAll (pattern : Reader α) (text : Text) : Text := replaceAll pattern (fun _ => []) text

/-- The text with every occurrence of a word replaced, from left to right. -/
def replaceWord (word new text : Text) : Text :=
  replaceAll (literal word done) (fun _ => new) text

/-- The pieces between the occurrences of a word. -/
def splitWord (word text : Text) : List Text :=
  (segments (literal word done) text).foldr
    -- From the right: a character goes to the front of the first piece, a match starts a new one.
    (fun segment pieces =>
      match segment, pieces with
      | .found _, _ => [] :: pieces
      | .plain c, [] => [[c]]
      | .plain c, piece :: others => (c :: piece) :: others)
    [[]]

end SandboxPreview.Pattern
