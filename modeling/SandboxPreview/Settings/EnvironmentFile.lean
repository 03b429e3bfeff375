/-
# Environment files

A file of bindings, a name and a value on a line. A name may follow the word `export`, and may
stand between single quotes. A value stands between single or double quotes, inside which it may
run over lines and a backslash escapes, or it is the rest of the line up to a comment. A comment
starts with a number sign; a line that is malformed is passed over, and so is a byte order mark at
the start of the file.

A value may refer to another name, as in `${NAME}` or `${NAME:-default}`. What the file has
bound before goes before the environment.
-/
import SandboxPreview.Keyed
import SandboxPreview.Text.Blank
import SandboxPreview.Text.Pattern

namespace SandboxPreview.Settings.EnvironmentFile

/-! ### Lines -/

/-- The text with line feeds for all line ends. -/
def withLineFeeds : Text → Text
  | [] => []
  | '\r' :: '\n' :: text => '\n' :: withLineFeeds text
  | '\r' :: text => '\n' :: withLineFeeds text
  | c :: text => c :: withLineFeeds text

/-- The text after a byte order mark, when it starts with one. -/
def afterMark : Text → Text
  | '\uFEFF' :: text => text
  | text => text

/-- A blank that does not end the line. -/
def isGap (c : Char) : Bool := Text.isBlank c && c != '\n'

/-- The text after the blanks at its start, as far as they are on one line. -/
def skipGap (text : Text) : Text := text.dropWhile isGap

/-- The text after the end of the line. -/
def afterLine (text : Text) : Text := (text.dropWhile (· != '\n')).drop 1

/-! ### Names and values -/

/-- A name, with its value unless it stands alone. -/
structure Binding where
  name : Text
  value? : Option Text
  deriving DecidableEq

/-- The text after the word `export` and the blanks behind it, when it starts with them. -/
def afterExport (text : Text) : Text :=
  match Text.after? "export" text with
  | some (c :: rest) => if isGap c then skipGap rest else text
  | _ => text

/-- A character of a name without quotes. -/
def isNameChar (c : Char) : Bool := !Text.isBlank c && c != '=' && c != '#'

/-- The name at the start of a text, and the text after it. -/
def name? (text : Text) : Option (Text × Text) :=
  match text with
  | '\'' :: inside =>
    let name := inside.takeWhile (· != '\'')
    match inside.drop name.length with
    | _ :: rest => if name = [] then none else some (name, rest)
    | [] => none
  | _ =>
    let name := text.takeWhile isNameChar
    if name = [] then none else some (name, text.drop name.length)

/-- The characters up to the closing quote, after those already read, which are held in reverse,
and the text after the quote. A quote behind a backslash closes only when no later one does. -/
def untilQuote? (quote : Char) (read : List Char) : Text → Option (Text × Text)
  | [] => none
  | [c] => if c = quote then some (read.reverse, []) else none
  | c :: d :: text =>
    if c = quote then some (read.reverse, d :: text)
    else if c = '\\' ∧ d = quote then
      -- Without a later quote the escaped one closes, and the backslash stays in the value.
      untilQuote? quote (d :: c :: read) text <|> some ((c :: read).reverse, text)
    else untilQuote? quote (c :: read) (d :: text)

/-- The letters that may stand behind a backslash between single quotes, and what they mean. -/
def singleEscapes : List (Char × Char) := [('\\', '\\'), ('\'', '\'')]

/-- The letters that may stand behind a backslash between double quotes, and what they mean. -/
def doubleEscapes : List (Char × Char) :=
  singleEscapes ++
    [('\x22', '\x22'), ('a', '\x07'), ('b', '\x08'), ('f', '\x0c'), ('n', '\n'), ('r', '\r'),
     ('t', '\t'), ('v', '\x0b')]

/-- The text with its escapes replaced; any other backslash stands for itself. -/
def unescape (escapes : List (Char × Char)) : Text → Text
  | [] => []
  | [c] => [c]
  | c :: d :: text =>
    if c = '\\' then
      match escapes.lookup d with
      | some meant => meant :: unescape escapes text
      | none => c :: unescape escapes (d :: text)
    else c :: unescape escapes (d :: text)

/-- The text up to a number sign behind a blank. -/
def beforeComment : Text → Text
  | [] => []
  | [c] => [c]
  | c :: d :: text => if Text.isBlank c && d == '#' then [] else c :: beforeComment (d :: text)

/-- The value behind an equals sign, and the text after it; none when a quote is not closed. The
blanks around the value are no part of it, but a number sign behind one starts a comment. -/
def value? (text : Text) : Option (Text × Text) :=
  match skipGap text with
  | '\'' :: inside =>
    (untilQuote? '\'' [] inside).map fun (body, rest) => (unescape singleEscapes body, rest)
  | '\x22' :: inside =>
    (untilQuote? '\x22' [] inside).map fun (body, rest) => (unescape doubleEscapes body, rest)
  | _ =>
    -- A value without quotes ends with its line, whatever it holds.
    let line := text.takeWhile (· != '\n')
    some (Text.trim (beforeComment line), text.drop line.length)

/-- A binding is accepted when nothing but a comment follows it on the line. -/
def closeLine (binding : Binding) (text : Text) : Option Binding × Text :=
  match skipGap text with
  | [] => (some binding, [])
  | c :: rest => (if c = '\n' ∨ c = '#' then some binding else none, afterLine (c :: rest))

/-- The binding at the start of a text, if there is one, and the text after its line. -/
def readLine (text : Text) : Option Binding × Text :=
  let text := afterExport text
  match name? text with
  | none => (none, afterLine text)
  | some (name, rest) =>
    match skipGap rest with
    | '=' :: rest =>
      match value? rest with
      | none => (none, afterLine rest)
      | some (value, rest) => closeLine ⟨name, some value⟩ rest
    | rest => closeLine ⟨name, none⟩ rest

/-- The bindings of at most `steps` lines, which are enough when `steps` is the length of the
text. -/
def bindingsWithin : (steps : Nat) → Text → List Binding
  | 0, _ => []
  | steps + 1, text =>
    match Text.trimStart text with
    | [] => []
    | start =>
      let (binding?, rest) := readLine start
      binding?.toList ++ bindingsWithin steps rest

/-- The bindings of a file in order. -/
def bindings (text : Text) : List Binding :=
  -- Every line has at least its first character, so there are no more lines than characters.
  let text := withLineFeeds (afterMark text)
  bindingsWithin text.length text

/-! ### References -/

/-- A name that a value refers to, and the text that stands in when the name is not known. -/
structure Reference where
  name : Text
  absent : Text

/-- The reference at the start of a text. -/
def reference : Pattern.Reader Reference := fun text =>
  match Text.after? "$\x7b" text with
  | none => none
  | some inside =>
    let name := inside.takeWhile fun c => c != '\x7d' && c != ':'
    match inside.drop name.length with
    | '\x7d' :: rest => some (⟨name, []⟩, rest)
    | ':' :: '-' :: rest =>
      let absent := rest.takeWhile (· != '\x7d')
      match rest.drop absent.length with
      | _ :: rest => some (⟨name, absent⟩, rest)
      | [] => none
    | _ => none

/-- The names that the values of a file refer to. -/
def references (text : Text) : List Text :=
  (bindings text).flatMap fun b =>
    (Pattern.findAll reference (b.value?.getD [])).map Reference.name

/-- The text that a reference stands for. A name that is bound without a value stands for
nothing. -/
def resolve (environment : Keyed Text) (bound : Keyed (Option Text)) (r : Reference) : Text :=
  match bound.get? r.name with
  | some value? => value?.getD []
  | none => (environment.get? r.name).getD r.absent

/-- One more binding, with the references in its value resolved. -/
def bind (environment : Keyed Text) (bound : Keyed (Option Text)) (b : Binding) :
    Keyed (Option Text) :=
  bound.put b.name (b.value?.map (Pattern.replaceAll reference (resolve environment bound)))

/-- The names that a file binds, with their values unless they stand alone. -/
def read (environment : Keyed Text) (text : Text) : Keyed (Option Text) :=
  (bindings text).foldl (bind environment) []

end SandboxPreview.Settings.EnvironmentFile
