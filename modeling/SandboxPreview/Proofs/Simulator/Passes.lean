/-
# Passes over a printed message

A console program is rewritten by passes that look at its characters only, so they find what they
look for in the literals of the program too. What stands around a printed message is touched by
none of them. A pass that finds something in the message takes characters away that no pass puts
back, so a message that is touched once never comes out as it was.

## Main definitions

* `statement`: the statement that prints a message;
* `marks`: how many characters a text has that no pass puts back;
* `Cleans`: a pass that goes by the message of such a statement.

## Main results

* `Cleans.comp`: passes one after the other;
* `cleans_removeAll`, `cleans_declare`: the passes of a program;
* `declare_append_cons`: declarations on both sides of a mark.
-/
import SandboxPreview.Proofs.Text.Framing
import SandboxPreview.Proofs.Text.Trim
import SandboxPreview.Simulator.Cpp

namespace SandboxPreview.Simulator.Cpp

open Pattern Text

/-! ## Statements and marks -/

/-- What stands before a printed literal. -/
def command : Text := "cout << "

/-- The statement that prints a message. -/
def statement (message : Text) : Text := command ++ '\x22' :: (message ++ ['\x22', ';'])

/-- A character that words which are looked for have and new words do not have. -/
def isMark (c : Char) : Bool :=
  c == 'o' || c == 'i' || c == 'c' || c == 'r' || c == ':' || c == '<' || c == ';'

/-- The number of marks. -/
def marks (text : Text) : Nat := text.countP isMark

/-- The characters of a token. -/
def Token.text : Token → Text
  | .word letters => letters
  | .other c => [c]

variable {message text rest word : Text} {next : Reader Unit} {c : Char}
  {first second : Text → Text} {Touched Touched' : Text → Prop}

@[simp] theorem marks_nil : marks [] = 0 := rfl

@[simp] theorem marks_append (text rest : Text) : marks (text ++ rest) = marks text + marks rest :=
  List.countP_append

theorem marks_cons (c : Char) (text : Text) : marks (c :: text) = marks [c] + marks text :=
  marks_append [c] text

theorem marks_le_of_sublist (part : text.Sublist rest) : marks text ≤ marks rest :=
  part.countP_le

theorem marks_command : marks command = 4 := by decide

theorem marks_statement (message : Text) : marks (statement message) = marks message + 5 := by
  have quote : marks ['\x22'] = 0 := by decide
  have back : marks ['\x22', ';'] = 1 := by decide
  rw [statement, marks_append, marks_command, marks_cons, quote, marks_append, back]
  omega

/-! ## Passes -/

/-- A pass goes by the message of a statement that prints it: marks are lost of a message that is
touched, and others stay as they are. -/
structure Cleans (pass : Text → Text) (Touched : Text → Prop) : Prop where
  framed (message : Text) : pass (statement message) = statement (pass message)
  fewer {message : Text} (touched : Touched message) : marks (pass message) < marks message
  same {message : Text} (untouched : ¬ Touched message) : pass message = message

theorem Cleans.le (cleans : Cleans first Touched) (message : Text) :
    marks (first message) ≤ marks message := by
  by_cases touched : Touched message
  · exact (cleans.fewer touched).le
  · rw [cleans.same touched]

theorem Cleans.untouched (cleans : Cleans first Touched)
    (kept : marks message ≤ marks (first message)) : ¬ Touched message :=
  fun touched => absurd (cleans.fewer touched) (Nat.not_lt.mpr kept)

/-- Of two passes the second one meets the message as it was, or marks are lost already. -/
theorem Cleans.comp (cleans : Cleans first Touched) (cleans' : Cleans second Touched') :
    Cleans (second ∘ first) fun message => Touched message ∨ Touched' message where
  framed message := by
    rw [Function.comp_apply, cleans.framed, cleans'.framed, Function.comp_apply]
  fewer {message} touched := by
    rw [Function.comp_apply]
    by_cases here : Touched message
    · exact (cleans'.le _).trans_lt (cleans.fewer here)
    · rw [cleans.same here]
      exact cleans'.fewer (touched.resolve_left here)
  same {message} untouched := by
    rw [not_or] at untouched
    rw [Function.comp_apply, cleans.same untouched.1, cleans'.same untouched.2]

theorem Cleans.congr (cleans : Cleans first Touched)
    (same : ∀ message, Touched message ↔ Touched' message) : Cleans first Touched' := by
  obtain rfl : Touched = Touched' := funext fun message => propext (same message)
  exact cleans

/-! ### Taking out what starts with a word -/

theorem removeAll_sublist (advancing : Advancing next) (nonempty : word ≠ []) (text : Text) :
    (removeAll (literal word next) text).Sublist text := by
  have consuming := advancing.consuming nonempty
  induction text using induction_on_matches consuming with
  | nil => exact List.Sublist.slnil
  | found text a rest here ih =>
    rw [removeAll, replaceAll_of_some consuming here]
    exact ih.trans (advancing.literal word _ _ _ here).sublist
  | plain c rest missing ih =>
    rw [removeAll, replaceAll_cons_of_none missing]
    exact ih.cons_cons c

theorem marks_removeAll_lt (advancing : Advancing next) (marked : 0 < marks word)
    (found : occurs (literal word next) text = true) :
    marks (removeAll (literal word next) text) < marks text := by
  have nonempty : word ≠ [] := by
    rintro rfl
    simp at marked
  have consuming := advancing.consuming nonempty
  induction text using induction_on_matches consuming with
  | nil => simp [occurs, first?, consuming.eq_none] at found
  | found text a rest here =>
    rw [removeAll, replaceAll_of_some consuming here]
    obtain ⟨behind, rfl, more⟩ := literal_eq_some_iff.mp here
    have fewer := marks_le_of_sublist ((removeAll_sublist advancing nonempty rest).trans
      (advancing _ _ _ more).sublist)
    rw [List.nil_append, ← removeAll, marks_append]
    omega
  | plain c rest missing ih =>
    have later : occurs (literal word next) rest = true := by
      simpa [occurs, first?, missing] using found
    rw [removeAll, replaceAll_cons_of_none missing, marks_cons, marks_cons c rest]
    exact Nat.add_lt_add_left (ih later) _

/-- A word that is not before the message, behind whose matches the closing quote is not reached. -/
theorem cleans_removeAll (advancing : Advancing next) (marked : 0 < marks word)
    (quote : '\x22' ∉ word) (front : ¬ word <:+: command)
    (ignores : Ignores ['\x22', ';'] (literal word next))
    (back : removeAll (literal word next) ['\x22', ';'] = ['\x22', ';']) :
    Cleans (removeAll (literal word next)) fun message =>
      occurs (literal word next) message = true where
  framed message := by
    have nonempty : word ≠ [] := by
      rintro rfl
      simp at marked
    have missing (rest tail : Text) (some : tail ≠ []) (isTail : tail <:+ command ++ ['\x22']) :
        literal word next (tail ++ rest) = none :=
      (startsWith_literal word next).eq_none fun stands =>
        front (infix_of_prefix_suffix_append quote some isTail stands)
    rw [removeAll] at back
    rw [statement, List.append_cons, removeAll, replaceAll_append_of_none (missing _),
      replaceAll_append_of_ignores (advancing.consuming nonempty) ignores, back, ← removeAll,
      List.append_assoc]
    rfl
  fewer touched := marks_removeAll_lt advancing marked touched
  same untouched := replaceAll_of_not_occurs (by simpa using untouched)

/-! ### Declarations -/

/-- The tokens make up the text. -/
theorem flatMap_text_tokens (text : Text) : (tokens text).flatMap Token.text = text := by
  induction text with
  | nil => rfl
  | cons c text ih =>
    rw [tokens]
    split
    · cases split : tokens text with
      | nil => simpa [split, Token.text] using ih
      | cons token rest =>
        cases token <;> simpa [split, Token.text] using ih
    · simp [ih, Token.text]

/-- A character that no word holds cuts a text into its tokens. -/
theorem tokens_append_cons (outside : isWordChar c = false) (text rest : Text) :
    tokens (text ++ c :: rest) = tokens text ++ .other c :: tokens rest := by
  induction text with
  | nil => simp [tokens, outside]
  | cons d text ih =>
    rw [List.cons_append, tokens, tokens, ih]
    split
    · cases tokens text with
      | nil => rfl
      | cons token later => cases token <;> rfl
    · rfl

theorem declareTokens_append_other (solid : isBlank c = false) (b : Bool)
    (earlier later : List Token) :
    declareTokens b (earlier ++ .other c :: later) =
      declareTokens b earlier ++ c :: declareTokens false later := by
  induction earlier generalizing b with
  | nil => simp [declareTokens, solid]
  | cons token earlier ih =>
    cases token with
    | word letters =>
      rw [List.cons_append, declareTokens, declareTokens]
      split
      · rw [ih, List.append_assoc]
      · rw [ih, List.append_assoc]
    | other d =>
      rw [List.cons_append, declareTokens, declareTokens]
      split
      · exact ih true
      · rw [ih, List.cons_append]

/-- Neither a word nor a run of type words reaches over the character. -/
theorem declare_append_cons (outside : isWordChar c = false) (solid : isBlank c = false)
    (text rest : Text) : declare (text ++ c :: rest) = declare text ++ c :: declare rest := by
  rw [declare, tokens_append_cons outside, declareTokens_append_other solid]
  rfl

/-- There is a word of a type in the message. -/
def HasType (message : Text) : Prop := ∃ word ∈ typeWords, Token.word word ∈ tokens message

theorem declareTokens_of_no_type {written : List Token}
    (missing : ∀ word ∈ typeWords, Token.word word ∉ written) :
    declareTokens false written = written.flatMap Token.text := by
  induction written with
  | nil => rfl
  | cons token written ih =>
    have later := ih fun word member there => missing word member (List.mem_cons_of_mem token there)
    cases token with
    | word letters =>
      have other : ¬ typeWords.elem letters = true := fun member =>
        missing letters (List.elem_iff.mp member) List.mem_cons_self
      rw [declareTokens, if_neg other, later]
      rfl
    | other c => simp [declareTokens, later, Token.text]

theorem marks_typeWords : ∀ word ∈ typeWords, 0 < marks word := by decide

/-- No marks come with a declaration, and each word of a type has some. -/
theorem marks_declareTokens (b : Bool) (written : List Token) :
    marks (declareTokens b written) ≤ marks (written.flatMap Token.text) ∧
      ((∃ word ∈ typeWords, Token.word word ∈ written) →
        marks (declareTokens b written) < marks (written.flatMap Token.text)) := by
  induction written generalizing b with
  | nil => simp [declareTokens]
  | cons token written ih =>
    rw [List.flatMap_cons, marks_append]
    cases token with
    | word letters =>
      rw [declareTokens, Token.text]
      split
      case isTrue isType =>
        -- The new word has no marks, so those of the type are lost.
        have marked := marks_typeWords letters (List.elem_iff.mp isType)
        have none : marks (if b then [] else "let ".toList) = 0 := by cases b <;> decide
        have later := (ih true).1
        rw [marks_append, none]
        exact ⟨by omega, fun _ => by omega⟩
      case isFalse noType =>
        have later := ih false
        rw [marks_append]
        refine ⟨by omega, ?_⟩
        rintro ⟨word, member, there⟩
        rcases List.mem_cons.mp there with same | there
        · obtain rfl : word = letters := Token.word.inj same
          exact absurd (List.elem_iff.mpr member) noType
        · exact Nat.add_lt_add_left (later.2 ⟨word, member, there⟩) _
    | other c =>
      rw [declareTokens, Token.text]
      have inRest (found : ∃ word ∈ typeWords, Token.word word ∈ Token.other c :: written) :
          ∃ word ∈ typeWords, Token.word word ∈ written := by
        obtain ⟨word, member, there⟩ := found
        exact ⟨word, member, by simpa using there⟩
      split
      case isTrue =>
        have later := ih true
        exact ⟨by omega, fun found => Nat.lt_add_left _ (later.2 (inRest found))⟩
      case isFalse =>
        have later := ih false
        rw [marks_cons]
        exact ⟨by omega, fun found => Nat.add_lt_add_left (later.2 (inRest found)) _⟩

theorem cleans_declare : Cleans declare HasType where
  framed message := by
    have front : declare command = command := by decide +kernel
    have back : declare [';'] = [';'] := by decide +kernel
    have cut := declare_append_cons (c := '\x22') (by decide) (by decide)
    rw [statement, cut, cut, front, back, statement]
  fewer {message} touched := by
    have fewer := (marks_declareTokens false (tokens message)).2 touched
    rwa [flatMap_text_tokens] at fewer
  same {message} untouched := by
    rw [declare, declareTokens_of_no_type fun word member there => untouched ⟨word, member, there⟩,
      flatMap_text_tokens]

end SandboxPreview.Simulator.Cpp
