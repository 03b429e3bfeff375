/-
# Taking the imports out of a module

A module is written item by item: imports of bindings, imports for their effects, and other code in
which no import starts. Both patterns end an import at its first quote, so an import cannot reach
into the one behind it, whatever words stand among its bindings. What is left of an import is its
line feed, which starts no import, so the second pass meets only what stood in the module.

## Main definitions

* `Item`: an import or a piece of other code, as it is written;
* `Opens`, `Closed`: an import starts a text, or starts nowhere in it;
* `IsForm`, `Cuts`: a pattern for imports, and what a search with it makes of a part;
* `hoisted`: the statements of the imports that are not local.

## Main results

* `fromImport_bindings`, `effectImport_effects`: each pattern reads its imports as a whole;
* `IsForm.eq_none_of_closed`: no pattern for imports starts inside a closed text;
* `foldl_collect`: what is collected from a list of imports;
* `stripImports_items`: the module that is left, and the statements collected.
-/
import SandboxPreview.Linking.Statements
import SandboxPreview.Proofs.Text.Reading
import SandboxPreview.Proofs.Text.Trim

namespace SandboxPreview.Linking

open Pattern Text

/-! ## The items of a module -/

/-- An import starts the text: the word, and a blank behind it. -/
def Opens (text : Text) : Prop := ∃ c, isBlank c = true ∧ ("import" : Text) ++ [c] <+: text

/-- No import starts in the text. -/
def Closed (text : Text) : Prop := ∀ c, isBlank c = true → ¬ ("import" : Text) ++ [c] <:+: text

/-- There are no quotes in the text. -/
def Unquoted (text : Text) : Prop := ∀ c ∈ text, isQuote c = false

/-- What separates the words of an import. -/
structure Gap where
  text : Text
  nonempty : text ≠ []
  blank : Blank text

/-- What an import binds. -/
structure Names where
  text : Text
  nonempty : text ≠ []
  binding : ∀ c ∈ text, isBinding c = true

/-- A quoted specifier, with the semicolon behind it if there is one. The quotes may differ. -/
structure Source where
  opening : Char
  specifier : Text
  closing : Char
  semicolon : Bool
  opens : isQuote opening = true
  unquoted : Unquoted specifier
  solid : ∀ c ∈ specifier, isBlank c = false
  closes : isQuote closing = true

/-- A quoted specifier on one line. The quotes may differ. -/
structure Quoted where
  opening : Char
  specifier : Text
  closing : Char
  opens : isQuote opening = true
  unquoted : Unquoted specifier
  oneLine : '\n' ∉ specifier
  closes : isQuote closing = true

/-- Code in which no import starts. -/
structure Code where
  text : Text
  ended : ['\n'] <:+ text
  closed : Closed text

/-- A piece of a module. -/
inductive Item where
  /-- An import of bindings: the blanks before and behind its names, and those behind `from`. -/
  | bindings (before : Gap) (names : Names) (behind last : Gap) (source : Source)
  /-- An import for its effects: the blanks before its specifier. -/
  | effects (before : Gap) (source : Source)
  /-- Anything else. -/
  | other (code : Code)

def Source.text (source : Source) : Text :=
  source.opening :: (source.specifier ++ source.closing :: if source.semicolon then [';'] else [])

/-- The specifier as it is written, with the semicolon behind it if there is one. -/
def Quoted.text (q : Quoted) (semicolon : Bool) : Text :=
  q.opening :: (q.specifier ++ q.closing :: if semicolon then [';'] else [])

/-- An import of bindings up to its specifier. -/
def bindingsLead (before : Gap) (names : Names) (behind last : Gap) : Text :=
  ("import" : Text) ++
    (before.text ++ (names.text ++ (behind.text ++ (("from" : Text) ++ last.text))))

/-- An import for its effects up to its specifier. -/
def effectsLead (before : Gap) : Text := ("import" : Text) ++ before.text

/-- What a pattern makes of an import. -/
def importOf (lead : Text) (source : Source) : Import := ⟨lead ++ source.text, source.specifier⟩

namespace Item

/-- The item as it is written in the module; an import stands on lines of its own. -/
def text : Item → Text
  | bindings before names behind last source =>
    bindingsLead before names behind last ++ source.text ++ ['\n']
  | effects before source => effectsLead before ++ source.text ++ ['\n']
  | other code => code.text

/-- The item as an import of bindings. -/
def fromImport? : Item → Option Import
  | bindings before names behind last source =>
    some (importOf (bindingsLead before names behind last) source)
  | effects .. => none
  | other _ => none

/-- The item as an import for its effects. -/
def effectImport? : Item → Option Import
  | bindings .. => none
  | effects before source => some (importOf (effectsLead before) source)
  | other _ => none

/-- What is left when the imports of bindings are taken out. -/
def withoutBindings : Item → Text
  | bindings .. => ['\n']
  | effects before source => text (effects before source)
  | other code => code.text

/-- What is left when all imports are taken out. -/
def withoutImports : Item → Text
  | bindings .. => ['\n']
  | effects .. => ['\n']
  | other code => code.text

end Item

/-! ## Quotes -/

variable {start text rest lead : Text} {source : Source} {found : Import × Text}
  {semicolon : Bool}

theorem eq_of_isQuote {c : Char} (quote : isQuote c = true) : c = '\x27' ∨ c = '\x22' := by
  simpa [isQuote] using quote

theorem isBinding_of_isQuote (c : Char) (quote : isQuote c = true) : isBinding c = false := by
  rcases eq_of_isQuote quote with rfl | rfl <;> decide

theorem isBlank_of_isQuote (c : Char) (quote : isQuote c = true) : isBlank c = false := by
  rcases eq_of_isQuote quote with rfl | rfl <;> decide

/-- No character of a class without quotes is a quote. -/
theorem unquoted_of_class {p : Char → Bool} (excludes : ∀ c, isQuote c = true → p c = false)
    (all : ∀ c ∈ text, p c = true) : Unquoted text := by
  intro c member
  by_contra quote
  exact absurd (all c member) (by simp [excludes c (by simpa using quote)])

theorem unquoted_of_blank (blank : Blank text) : Unquoted text :=
  unquoted_of_class isBlank_of_isQuote blank

theorem unquoted_of_binding (binding : ∀ c ∈ text, isBinding c = true) : Unquoted text :=
  unquoted_of_class isBinding_of_isQuote binding

theorem unquoted_append {text' : Text} :
    Unquoted (text ++ text') ↔ Unquoted text ∧ Unquoted text' :=
  List.forall_mem_append

theorem unquoted_import : Unquoted "import" := by simp [Unquoted, isQuote]

theorem unquoted_from : Unquoted "from" := by simp [Unquoted, isQuote]

/-- The text from its first quote on. -/
def fromQuote (text : Text) : Text := text.dropWhile fun c => !isQuote c

theorem fromQuote_append {c : Char} (unquoted : Unquoted lead) (quote : isQuote c = true) :
    fromQuote (lead ++ c :: rest) = c :: rest := by
  rw [fromQuote, List.dropWhile_append_of_pos fun c member => by simp [unquoted c member]]
  exact List.dropWhile_cons_of_neg (by simp [quote])

/-! ## Where an import ends -/

/-- The line ends where the text starts. -/
def LineEnds (rest : Text) : Prop := ∀ c, rest.head? = some c → c = '\n'

theorem lineEnds_lineFeed (rest : Text) : LineEnds ('\n' :: rest) := by simp [LineEnds]

/-- A specifier without blanks is on one line. -/
def Source.quoted (source : Source) : Quoted :=
  { source with oneLine := fun member => absurd (source.solid _ member) (by decide) }

/-- The specifier ends at the next quote. -/
theorem importEnd_quoted (start : Text) (q : Quoted) (ends : LineEnds rest) :
    importEnd start (q.text semicolon ++ rest) =
      some (⟨between start rest, q.specifier⟩, rest) := by
  rw [importEnd, Quoted.text, List.cons_append, one, if_pos q.opens, mark, List.append_assoc,
    List.cons_append]
  apply lazily_of_some
  · intro c member
    have other : c ≠ '\n' := fun same => q.oneLine (same ▸ member)
    simpa [inLine] using other
  · rw [mark, one, if_pos q.closes, between_append]
    cases semicolon with
    | true => rfl
    | false =>
      cases rest with
      | nil => rfl
      | cons c rest =>
        obtain rfl := ends c rfl
        rfl
  · intro tail nonempty isTail
    obtain ⟨c, tail, rfl⟩ := List.exists_cons_of_ne_nil nonempty
    have unquoted := q.unquoted c (isTail.subset (by simp))
    simp [mark, one, unquoted]

/-- No specifier starts at the last quote of a line. -/
theorem importEnd_eq_none {c : Char} (unquoted : Unquoted text) (ends : LineEnds rest) :
    importEnd start (c :: (text ++ rest)) = none := by
  rw [Option.eq_none_iff_forall_ne_some]
  intro found matched
  obtain ⟨_, _, split, -, matched⟩ := exists_of_one matched
  obtain ⟨-, rfl⟩ := List.cons.inj split
  obtain ⟨run, _, split, onLine, matched⟩ := exists_of_lazily matched
  obtain ⟨quote, behind, rfl, closes, -⟩ := exists_of_one matched
  have quoteStart (same : rest = quote :: behind) : False := by
    obtain rfl := ends quote (by rw [same]; rfl)
    exact absurd closes (by decide)
  -- The closing quote is not in the text, and to get behind the text the run needs a line feed.
  rcases List.append_eq_append_iff.mp split with ⟨more, rfl, later⟩ | ⟨more, rfl, later⟩
  · cases more with
    | nil => exact quoteStart later
    | cons d more =>
      obtain rfl := ends d (by rw [later]; rfl)
      exact absurd (onLine '\n' (by simp)) (by decide)
  · cases more with
    | nil => exact quoteStart later.symm
    | cons d more =>
      obtain ⟨rfl, -⟩ := List.cons.inj later
      exact absurd closes (by simp [unquoted quote])

theorem fromQuote_statement (unquoted : Unquoted lead) (q : Quoted) (rest : Text) :
    fromQuote (lead ++ q.text semicolon ++ rest) = q.text semicolon ++ rest := by
  rw [List.append_assoc, Quoted.text, List.cons_append, fromQuote_append unquoted q.opens]

/-- The end of an import without quotes before its specifier. -/
theorem importEnd_statement (unquoted : Unquoted lead) (q : Quoted) (ends : LineEnds rest) :
    importEnd (lead ++ q.text semicolon ++ rest)
        (fromQuote (lead ++ q.text semicolon ++ rest)) =
      some (⟨lead ++ q.text semicolon, q.specifier⟩, rest) := by
  rw [fromQuote_statement unquoted, importEnd_quoted _ q ends, between_append]

theorem exists_of_importEnd (ends : importEnd start text = some found) :
    ∃ c tail, text = c :: tail ∧ isQuote c = true := by
  obtain ⟨c, tail, rfl, quote, -⟩ := exists_of_one ends
  exact ⟨c, tail, rfl, quote⟩

/-! ## What the patterns match -/

/-- Before its specifier a match of an import of bindings has the word `from` and no quote. -/
theorem exists_of_fromImport (matched : fromImport text = some found) :
    ∃ inner, text = ("import" : Text) ++ inner ++ fromQuote text ∧ 'f' ∈ inner ∧
      importEnd text (fromQuote text) = some found := by
  obtain ⟨text₁, split, matched⟩ := literal_eq_some_iff.mp matched
  obtain ⟨before, text₂, rfl, -, beforeBlank, matched⟩ := exists_of_greedy₁ matched
  obtain ⟨names, text₃, rfl, -, binding, matched⟩ := exists_of_lazily₁ matched
  obtain ⟨behind, text₄, rfl, -, behindBlank, matched⟩ := exists_of_greedy₁ matched
  obtain ⟨text₅, rfl, matched⟩ := literal_eq_some_iff.mp matched
  obtain ⟨last, text₆, rfl, -, lastBlank, ends⟩ := exists_of_greedy₁ matched
  obtain ⟨c, tail, rfl, quote⟩ := exists_of_importEnd ends
  have lead : text = ("import" : Text) ++
      (before ++ (names ++ (behind ++ (("from" : Text) ++ last)))) ++ c :: tail := by simp [split]
  have stops : fromQuote text = c :: tail := by
    rw [lead]
    refine fromQuote_append ?_ quote
    simp only [unquoted_append]
    exact ⟨unquoted_import, unquoted_of_blank beforeBlank, unquoted_of_binding binding,
      unquoted_of_blank behindBlank, unquoted_from, unquoted_of_blank lastBlank⟩
  rw [stops]
  exact ⟨_, lead, by simp, ends⟩

theorem importEnd_of_effectImport (matched : effectImport text = some found) :
    importEnd text (fromQuote text) = some found := by
  obtain ⟨text₁, split, matched⟩ := literal_eq_some_iff.mp matched
  obtain ⟨before, text₂, rfl, -, blank, ends⟩ := exists_of_greedy₁ matched
  obtain ⟨c, tail, rfl, quote⟩ := exists_of_importEnd ends
  have stops : fromQuote text = c :: tail := by
    rw [split, ← List.append_assoc]
    refine fromQuote_append ?_ quote
    exact unquoted_append.mpr ⟨unquoted_import, unquoted_of_blank blank⟩
  rwa [stops]

theorem opens_of_import {next : Reader Import}
    (matched : literal "import" (greedy₁ isBlank next) text = some found) : Opens text := by
  obtain ⟨text₁, rfl, matched⟩ := literal_eq_some_iff.mp matched
  obtain ⟨c, text₂, rfl, blank, -⟩ := exists_of_one matched
  exact ⟨c, blank, text₂, by simp⟩

theorem advancing_importEnd (start : Text) : Advancing (importEnd start) :=
  .one (.mark fun _ => .lazily (.mark fun _ => .one (.optionally (advancing_some _) _) _) _) _

/-- A pattern for imports: it starts at an import only, takes something of the text, and ends with
the first quoted specifier. -/
structure IsForm (form : Reader Import) : Prop where
  consuming : Consuming form
  opens {text : Text} {found : Import × Text} (matched : form text = some found) : Opens text
  ends {text : Text} {found : Import × Text} (matched : form text = some found) :
    importEnd text (fromQuote text) = some found

theorem isForm_fromImport : IsForm fromImport where
  consuming text a rest :=
    have advancing := ((((advancing_importEnd text).greedy₁ _).literal _).greedy₁ _).lazily₁ _
    (advancing.greedy₁ _).consuming (by decide) text a rest
  opens := opens_of_import
  ends matched := by
    obtain ⟨-, -, -, ends⟩ := exists_of_fromImport matched
    exact ends

theorem isForm_effectImport : IsForm effectImport where
  consuming text a rest := ((advancing_importEnd text).greedy₁ _).consuming (by decide) text a rest
  opens := opens_of_import
  ends := importEnd_of_effectImport

/-! ## Whole imports -/

theorem unquoted_bindingsLead (before : Gap) (names : Names) (behind last : Gap) :
    Unquoted (bindingsLead before names behind last) := by
  unfold bindingsLead
  simp only [unquoted_append]
  exact ⟨unquoted_import, unquoted_of_blank before.blank, unquoted_of_binding names.binding,
    unquoted_of_blank behind.blank, unquoted_from, unquoted_of_blank last.blank⟩

theorem unquoted_effectsLead (before : Gap) : Unquoted (effectsLead before) :=
  unquoted_append.mpr ⟨unquoted_import, unquoted_of_blank before.blank⟩

/-- An import of bindings is read up to the end of its line. -/
theorem fromImport_bindings (before : Gap) (names : Names) (behind last : Gap) (q : Quoted)
    (ends : LineEnds rest) :
    fromImport (bindingsLead before names behind last ++ q.text semicolon ++ rest) =
      some (⟨bindingsLead before names behind last ++ q.text semicolon, q.specifier⟩, rest) := by
  have someMatch : (fromImport
      (bindingsLead before names behind last ++ q.text semicolon ++ rest)).isSome := by
    unfold bindingsLead
    simp only [List.append_assoc]
    rw [fromImport, mark, literal_append]
    refine isSome_greedy₁ before.nonempty before.blank ?_
    refine isSome_lazily₁ names.nonempty names.binding ?_
    refine isSome_greedy₁ behind.nonempty behind.blank ?_
    rw [literal_append]
    refine isSome_greedy₁ last.nonempty last.blank ?_
    rw [importEnd_quoted _ q ends]
    rfl
  -- Wherever the bindings end for the pattern, the import ends behind its first quoted text.
  obtain ⟨found, matched⟩ := Option.isSome_iff_exists.mp someMatch
  rw [matched, ← isForm_fromImport.ends matched,
    importEnd_statement (unquoted_bindingsLead before names behind last) q ends]

/-- An import for its effects is read up to the end of its line. -/
theorem effectImport_effects (before : Gap) (q : Quoted) (ends : LineEnds rest) :
    effectImport (effectsLead before ++ q.text semicolon ++ rest) =
      some (⟨effectsLead before ++ q.text semicolon, q.specifier⟩, rest) := by
  have someMatch : (effectImport (effectsLead before ++ q.text semicolon ++ rest)).isSome := by
    unfold effectsLead
    rw [List.append_assoc, List.append_assoc, effectImport, mark, literal_append]
    refine isSome_greedy₁ before.nonempty before.blank ?_
    rw [importEnd_quoted _ q ends]
    rfl
  obtain ⟨found, matched⟩ := Option.isSome_iff_exists.mp someMatch
  rw [matched, ← importEnd_of_effectImport matched,
    importEnd_statement (unquoted_effectsLead before) q ends]

/-- An import for its effects has nothing but blanks before its first quote, so it is no import of
bindings. -/
theorem fromImport_effects (before : Gap) (q : Quoted) (rest : Text) :
    fromImport (effectsLead before ++ q.text semicolon ++ rest) = none := by
  rw [Option.eq_none_iff_forall_ne_some]
  intro found matched
  obtain ⟨inner, split, member, -⟩ := exists_of_fromImport matched
  rw [fromQuote_statement (unquoted_effectsLead before), List.append_assoc,
    List.append_cancel_right_eq] at split
  unfold effectsLead at split
  rw [List.append_cancel_left_eq] at split
  exact not_mem_of_blank (by decide) (split ▸ before.blank) member

/-! ## Text in which no import starts -/

/-- The word cannot reach over the line feed that ends the text, so what follows does not matter. -/
theorem not_opens_of_closed (ended : ['\n'] <:+ text) (closed : Closed text) {tail : Text}
    (nonempty : tail ≠ []) (isTail : tail <:+ text) (rest : Text) : ¬ Opens (tail ++ rest) := by
  rintro ⟨c, blank, stands⟩
  have inside : ¬ ("import" : Text) ++ [c] <:+: tail := fun inTail =>
    closed c blank (inTail.trans isTail.isInfix)
  have lineEnd : ['\n'] <:+ tail :=
    List.suffix_of_suffix_length_le ended isTail (List.length_pos_iff.mpr nonempty)
  rcases List.prefix_or_prefix_of_prefix stands (List.prefix_append tail rest) with short | long
  · exact inside short.isInfix
  · rcases List.prefix_concat_iff.mp long with whole | word
    · exact inside (whole ▸ List.infix_rfl)
    · exact absurd (word.subset (lineEnd.subset (List.mem_singleton_self _))) (by decide)

theorem closed_of_not_mem (absent : 'i' ∉ text) : Closed text := fun c _ stands =>
  absent (stands.subset (List.mem_append_left [c] (by decide)))

/-! ## The two passes -/

section

variable {form : Reader Import}

/-- The search takes the import out of a part and leaves its line feed, or passes over the part. -/
def Cuts (form : Reader Import) (part : Text) (taken? : Option Import) : Prop :=
  ∀ rest, segments form (part ++ rest) =
    taken?.elim (part.map .plain) (fun i => [.found i, .plain '\n']) ++ segments form rest

theorem IsForm.eq_none_of_lineFeed (isForm : IsForm form) (rest : Text) :
    form ('\n' :: rest) = none := by
  rw [Option.eq_none_iff_forall_ne_some]
  intro found matched
  obtain ⟨c, -, stands⟩ := isForm.opens matched
  exact absurd (List.cons_prefix_cons.mp stands).1 (by decide)

/-- The pattern starts nowhere in a closed text. -/
theorem IsForm.eq_none_of_closed (isForm : IsForm form) (ended : ['\n'] <:+ text)
    (closed : Closed text) {tail : Text} (nonempty : tail ≠ []) (isTail : tail <:+ text)
    (rest : Text) : form (tail ++ rest) = none := by
  rw [Option.eq_none_iff_forall_ne_some]
  exact fun found matched =>
    not_opens_of_closed ended closed nonempty isTail rest (isForm.opens matched)

/-- The pattern does not start in front of a quoted specifier unless an import starts there, and it
does not start inside the specifier, where only one more quote stands on the line. -/
theorem IsForm.eq_none_of_quoted (isForm : IsForm form) (closed : Closed lead) (q : Quoted)
    (ends : LineEnds rest) {tail : Text} (nonempty : tail ≠ [])
    (isTail : tail <:+ lead ++ q.text semicolon) : form (tail ++ rest) = none := by
  rw [Option.eq_none_iff_forall_ne_some]
  intro found matched
  obtain ⟨c, blank, stands⟩ := isForm.opens matched
  have first {d : Char} {text : Text} (quote : isQuote d = true) :
      ¬ ("import" : Text) ++ [c] <+: d :: text := by
    intro stands
    obtain rfl := (List.cons_prefix_cons.mp stands).1
    exact absurd quote (by decide)
  have absent {d : Char} (quote : isQuote d = true) : d ∉ ("import" : Text) ++ [c] := by
    intro member
    rcases List.mem_append.mp member with letter | last
    · exact absurd quote (by simp [unquoted_import d letter])
    · obtain rfl : d = c := by simpa using last
      exact absurd blank (by simp [isBlank_of_isQuote _ quote])
  have ending : Unquoted (if semicolon then [';'] else []) := by
    cases semicolon <;> simp [Unquoted, isQuote]
  rcases suffix_append_cases isTail with inside | ⟨start, nonempty, inLead, rfl⟩
  · rcases List.suffix_cons_iff.mp inside with rfl | behind
    · exact first q.opens stands
    rcases suffix_append_cases behind with close | ⟨start, -, inSpecifier, rfl⟩
    · rcases List.suffix_cons_iff.mp close with rfl | behind
      · exact first q.closes stands
      cases semicolon with
      | true =>
        rcases List.suffix_cons_iff.mp behind with rfl | behind
        · exact absurd (List.cons_prefix_cons.mp stands).1 (by decide)
        · exact nonempty (List.suffix_nil.mp behind)
      | false => exact nonempty (List.suffix_nil.mp behind)
    · have here := isForm.ends matched
      have unquoted : Unquoted start := fun d member => q.unquoted d (inSpecifier.subset member)
      rw [List.append_assoc, List.cons_append, fromQuote_append unquoted q.closes,
        importEnd_eq_none ending ends] at here
      exact absurd here nofun
  · rw [Quoted.text, List.append_assoc, List.cons_append,
      prefix_append_cons_iff (absent q.opens)] at stands
    exact closed c blank (stands.isInfix.trans inLead.isInfix)

theorem IsForm.cuts_of_match (isForm : IsForm form) {part : Text} {i : Import}
    (reads : ∀ rest, form (part ++ '\n' :: rest) = some (i, '\n' :: rest)) :
    Cuts form (part ++ ['\n']) (some i) := by
  intro rest
  rw [List.append_assoc, List.singleton_append, segments_of_some isForm.consuming (reads rest),
    segments_cons_of_none (isForm.eq_none_of_lineFeed rest)]
  rfl

theorem IsForm.cuts_of_closed (isForm : IsForm form) (ended : ['\n'] <:+ text)
    (closed : Closed text) : Cuts form text none := fun rest =>
  segments_append_of_none fun _ nonempty isTail =>
    isForm.eq_none_of_closed ended closed nonempty isTail rest

variable {part : Item → Text} {taken? : Item → Option Import}

/-- One pass over parts that are cut apart. -/
theorem stripForm_flatMap (cuts : ∀ item, Cuts form (part item) (taken? item))
    (items : List Item) (external : List Text) :
    stripForm form (items.flatMap part) external =
      (items.flatMap fun item => ((taken? item).map fun _ => ['\n']).getD (part item),
        (items.filterMap taken?).foldl collect external) := by
  have segments_eq := segments_flatMap fun item later (_ : item :: later <:+ items) =>
    cuts item (later.flatMap part)
  rw [stripForm, removeAll, replaceAll, findAll, segments_eq]
  refine Prod.ext ?_ (congrArg (List.foldl collect external) ?_)
  · rw [List.flatMap_assoc]
    refine List.flatMap_congr fun item _ => ?_
    cases taken? item with
    | some i => rfl
    | none => exact flatMap_render_plain _ (part item)
  · rw [List.filterMap_flatMap, List.filterMap_eq_flatMap_toList]
    refine List.flatMap_congr fun item _ => ?_
    cases taken? item with
    | some i => rfl
    | none => exact filterMap_match?_plain (part item)

end

/-- No import of bindings starts in an import for its effects. -/
theorem fromImport_eq_none_of_effects (before : Gap) (q : Quoted) (ends : LineEnds rest)
    {tail : Text} (nonempty : tail ≠ []) (isTail : tail <:+ effectsLead before ++ q.text semicolon) :
    fromImport (tail ++ rest) = none := by
  rcases List.suffix_cons_iff.mp isTail with rfl | behind
  · exact fromImport_effects before q rest
  · have noStart : 'i' ∉ ("mport" : Text) ++ before.text := by
      rw [List.mem_append, not_or]
      exact ⟨by decide, not_mem_of_blank (by decide) before.blank⟩
    exact isForm_fromImport.eq_none_of_quoted (closed_of_not_mem noStart) q ends nonempty behind

/-- The first pass takes out the imports of bindings. -/
theorem cuts_fromImport (item : Item) : Cuts fromImport item.text item.fromImport? := by
  cases item with
  | bindings before names behind last source =>
    exact isForm_fromImport.cuts_of_match fun rest =>
      fromImport_bindings before names behind last source.quoted (lineEnds_lineFeed rest)
  | effects before source =>
    refine fun rest => segments_append_of_none fun tail nonempty isTail => ?_
    rcases suffix_append_cases isTail with lineFeed | ⟨start, someStart, inImport, rfl⟩
    · rcases List.suffix_cons_iff.mp lineFeed with rfl | behind
      · exact isForm_fromImport.eq_none_of_lineFeed rest
      · exact absurd (List.suffix_nil.mp behind) nonempty
    · rw [List.append_assoc, List.singleton_append]
      exact fromImport_eq_none_of_effects before source.quoted (lineEnds_lineFeed rest) someStart
        inImport
  | other code => exact isForm_fromImport.cuts_of_closed code.ended code.closed

/-- The second pass takes out the imports for effects. -/
theorem cuts_effectImport (item : Item) :
    Cuts effectImport item.withoutBindings item.effectImport? := by
  cases item with
  | bindings =>
    have lineFeed : Closed ['\n'] := closed_of_not_mem (by decide)
    exact isForm_effectImport.cuts_of_closed List.suffix_rfl lineFeed
  | effects before source =>
    exact isForm_effectImport.cuts_of_match fun rest =>
      effectImport_effects before source.quoted (lineEnds_lineFeed rest)
  | other code => exact isForm_effectImport.cuts_of_closed code.ended code.closed

/-! ## What is collected -/

/-- The statements of the imports that are not local. -/
def hoisted (imports : List Import) : List Text :=
  (imports.filter fun i => !isLocal i.specifier).map Import.statement

@[simp] theorem hoisted_append (imports imports' : List Import) :
    hoisted (imports ++ imports') = hoisted imports ++ hoisted imports' := by
  simp [hoisted]

theorem hoisted_cons_of_local {i : Import} (here : isLocal i.specifier = true)
    (imports : List Import) : hoisted (i :: imports) = hoisted imports := by
  simp [hoisted, here]

theorem hoisted_cons_of_not_local {i : Import} (away : isLocal i.specifier = false)
    (imports : List Import) : hoisted (i :: imports) = i.statement :: hoisted imports := by
  simp [hoisted, away]

/-- What was collected stays in its place, and each further statement is put behind it once. -/
theorem foldl_collect (imports : List Import) (external : List Text) :
    imports.foldl collect external =
      external ++ ((hoisted imports).filter (· ∉ external)).eraseDups := by
  induction imports generalizing external with
  | nil => simp [hoisted]
  | cons i imports ih =>
    rw [List.foldl_cons, ih, collect]
    cases location : isLocal i.specifier with
    | true => simp [hoisted_cons_of_local location]
    | false =>
      rw [hoisted_cons_of_not_local location]
      by_cases known : i.statement ∈ external
      · simp [known]
      · -- The statement is new, and from now on it is among those collected.
        have later : (hoisted imports).filter (· ∉ external ++ [i.statement]) =
            ((hoisted imports).filter (· ∉ external)).filter fun s => !s == i.statement := by
          rw [List.filter_filter]
          refine List.filter_congr fun s _ => ?_
          simp [Bool.and_comm, beq_eq_decide]
        rw [if_neg (by simp [known]), later, List.filter_cons_of_pos (by simp [known]),
          List.eraseDups_cons, List.append_assoc, List.singleton_append]

/-- Each import leaves its line feed and the rest of the module stays as it is. To the statements
already collected come those that are not local, of the imports of bindings first and of the
imports for effects behind them, each once. -/
theorem stripImports_items (items : List Item) (external : List Text) :
    stripImports (items.flatMap Item.text) external =
      (items.flatMap Item.withoutImports,
        external ++ ((hoisted (items.filterMap Item.fromImport?) ++
          hoisted (items.filterMap Item.effectImport?)).filter (· ∉ external)).eraseDups) := by
  have left : (fun item : Item => (item.fromImport?.map fun _ => ['\n']).getD item.text) =
      Item.withoutBindings := by
    funext item
    cases item <;> rfl
  have left' : (fun item : Item => (item.effectImport?.map fun _ => ['\n']).getD
      item.withoutBindings) = Item.withoutImports := by
    funext item
    cases item <;> rfl
  rw [stripImports, stripForm_flatMap cuts_fromImport, left]
  dsimp only
  rw [stripForm_flatMap cuts_effectImport, left', ← List.foldl_append, foldl_collect,
    hoisted_append]

/-- A single space. -/
def Gap.space : Gap := ⟨[' '], by decide, by simp [Blank]; decide⟩

/-- One statement is collected already, one is local, and one binds a name that reads `from`. -/
theorem stripImports_items_of_mixed_imports : ∃ items : List Item,
    items.flatMap Item.text = ofLines ["import 'b';", "import './a.css';",
      "import from, x from \x22c\x22", "go();", ""] ∧
    stripImports (items.flatMap Item.text) [("import 'b';" : Text)] =
      (ofLines ["", "", "", "go();", ""],
        [("import 'b';" : Text), ("import from, x from \x22c\x22" : Text)]) := by
  refine ⟨[
    .effects .space
      ⟨'\x27', "b", '\x27', true, rfl, by simp [Unquoted, isQuote], by simp; decide, rfl⟩,
    .effects .space
      ⟨'\x27', "./a.css", '\x27', true, rfl, by simp [Unquoted, isQuote], by simp; decide, rfl⟩,
    .bindings .space ⟨"from, x", by decide, by simp; decide⟩ .space .space
      ⟨'\x22', "c", '\x22', false, rfl, by simp [Unquoted, isQuote], by simp; decide, rfl⟩,
    .other ⟨"go();\n", ⟨"go();", by decide⟩, closed_of_not_mem (by decide)⟩], by decide, ?_⟩
  rw [stripImports_items]
  decide +kernel

end SandboxPreview.Linking
