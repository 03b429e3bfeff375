/-
# Classes of names

Where a file is linked is read off its name: entry points, the application, and files in a folder of
components. The name is searched for the words of a class, so it is enough that a part of the path
ends in such a word. A file of another name that ends so, such as `domain.js` or `MyApp.jsx`, is
taken for one of the class, and is never linked earlier for it, but later than it should be.

## Main definitions

* `classBy`: the class of a name whose parts are compared with words in a given way;
* `ToldByParts`: the class of the name is told by whole parts of its path.

## Main results

* `isSome_anyCase_iff`: words are read whatever their case;
* `priority_eq_classBy`: parts of a path are compared by their ends;
* `classBy_mono`, `classBy_eq_iff`: against comparing the whole parts;
* `priority_reads_parts`: what the classes of names are, and what that means for the order.
-/
import SandboxPreview.Proofs.Linking.Arrangement
import SandboxPreview.Proofs.Text.Lines
import SandboxPreview.Proofs.Text.Matching

namespace SandboxPreview.Linking

open Pattern Text

variable {β : Type} {next : Text → Option β} {word words text name : Text}
  {fits fits' : (word part : Text) → Bool}

/-! ## Classes by the parts of a path -/

/-- The extensions of scripts. -/
def scriptExtensions : List Text := ["js", "jsx", "ts", "tsx"]

/-- The names of scripts with one of the stems. -/
def scriptNames (stems : List Text) : List Text :=
  stems.flatMap fun stem => scriptExtensions.map fun extension => stem ++ '.' :: extension

/-- The names of entry points, in lower case. -/
def entryNames : List Text := scriptNames ["index", "main"]

/-- The names of the application, in lower case. -/
def appNames : List Text := scriptNames ["app"]

/-- The names of folders of components, in lower case. -/
def componentNames : List Text := ["component", "components"]

/-- The name in lower case. -/
def lowered (name : Text) : Text := name.map Char.toLower

/-- The last part of the path fits one of the words. -/
def fileFits (fits : (word part : Text) → Bool) (words : List Text) (name : Text) : Bool :=
  words.any fun word => fits word (afterLast '/' (lowered name))

/-- Another part of the path fits one of the words. -/
def folderFits (fits : (word part : Text) → Bool) (words : List Text) (name : Text) : Bool :=
  (splitOn '/' (lowered name)).dropLast.any fun folder => words.any fun word => fits word folder

/-- The class of a name that shows the given ones. The one that is linked last wins. -/
def latest (entry app folder : Bool) : Nat :=
  if entry then 100 else if app then 50 else if folder then 10 else 0

/-- The class of a name whose parts are compared with words in the given way. -/
def classBy (fits : (word part : Text) → Bool) (name : Text) : Nat :=
  latest (fileFits fits entryNames name) (fileFits fits appNames name)
    (folderFits fits componentNames name)

/-- The part is the word. -/
def whole (word part : Text) : Bool := word == part

/-- The class of the name is told by whole parts of its path: where the end of a part shows the
class, a part is a word of that class. -/
structure ToldByParts (name : Text) : Prop where
  entry : fileFits endsWith entryNames name = true → fileFits whole entryNames name = true
  app : fileFits endsWith entryNames name = false →
    fileFits endsWith appNames name = true → fileFits whole appNames name = true
  folder : fileFits endsWith entryNames name = false → fileFits endsWith appNames name = false →
    folderFits endsWith componentNames name = true → folderFits whole componentNames name = true

/-- The name is one line of ASCII characters. -/
structure Plain (name : Text) : Prop where
  ascii : ∀ c ∈ name, c.toNat ≤ 0x7F
  oneLine : '\n' ∉ name

/-! ### Two ways to compare -/

theorem fileFits_mono (weaker : ∀ word part, fits word part = true → fits' word part = true)
    {words : List Text} (shown : fileFits fits words name = true) :
    fileFits fits' words name = true := by
  rw [fileFits, List.any_eq_true] at shown ⊢
  obtain ⟨word, member, fit⟩ := shown
  exact ⟨word, member, weaker _ _ fit⟩

theorem folderFits_mono (weaker : ∀ word part, fits word part = true → fits' word part = true)
    {words : List Text} (shown : folderFits fits words name = true) :
    folderFits fits' words name = true := by
  simp only [folderFits, List.any_eq_true] at shown ⊢
  obtain ⟨folder, there, word, member, fit⟩ := shown
  exact ⟨folder, there, word, member, weaker _ _ fit⟩

theorem latest_mono {e a f e' a' f' : Bool} (entry : e = true → e' = true)
    (app : a = true → a' = true) (folder : f = true → f' = true) :
    latest e a f ≤ latest e' a' f' := by
  revert e a f e' a' f'
  decide

theorem latest_eq_iff {e a f e' a' f' : Bool} (entry : e = true → e' = true)
    (app : a = true → a' = true) (folder : f = true → f' = true) :
    latest e' a' f' = latest e a f ↔
      (e' = true → e = true) ∧ (e' = false → a' = true → a = true) ∧
        (e' = false → a' = false → f' = true → f = true) := by
  revert e a f e' a' f'
  decide

theorem endsWith_of_whole (word part : Text) (same : whole word part = true) :
    endsWith word part = true := by
  rw [eq_of_beq same, endsWith, List.isSuffixOf_iff_suffix]

/-- Comparing ends never gives an earlier class than comparing the whole parts. -/
theorem classBy_whole_le (name : Text) : classBy whole name ≤ classBy endsWith name :=
  latest_mono (fileFits_mono endsWith_of_whole) (fileFits_mono endsWith_of_whole)
    (folderFits_mono endsWith_of_whole)

/-- Comparing ends gives the same class exactly when whole parts tell it. -/
theorem classBy_eq_iff : classBy endsWith name = classBy whole name ↔ ToldByParts name := by
  rw [classBy, classBy, latest_eq_iff (fileFits_mono endsWith_of_whole)
    (fileFits_mono endsWith_of_whole) (folderFits_mono endsWith_of_whole)]
  exact ⟨fun ⟨entry, app, folder⟩ => ⟨entry, app, folder⟩,
    fun ⟨entry, app, folder⟩ => ⟨entry, app, folder⟩⟩

instance : Decidable (ToldByParts name) := decidable_of_iff _ classBy_eq_iff

instance : Decidable (Plain name) :=
  decidable_of_iff (name.all (fun c => decide (c.toNat ≤ 0x7F)) = true ∧ '\n' ∉ name)
    ⟨fun ⟨ascii, oneLine⟩ => ⟨by simpa using ascii, oneLine⟩,
      fun ⟨ascii, oneLine⟩ => ⟨by simpa using ascii, oneLine⟩⟩

/-! ## Letters of either case -/

theorem sameLetter_iff {letter c : Char} (ascii : c.toNat ≤ 0x7F) :
    sameLetter letter c = true ↔ c.toLower = letter := by
  have other (d : Char) (far : 0x7F < d.toNat) : (c == d) = false := by
    rw [beq_eq_false_iff_ne]
    rintro rfl
    omega
  simp [sameLetter, other '\u0130' (by decide), other '\u0131' (by decide),
    other '\u017F' (by decide), other '\u212A' (by decide)]

theorem toLower_eq_iff {mark c : Char} (ascii : c.toNat ≤ 0x7F) (noLetter : mark.isAlpha = false) :
    c.toLower = mark ↔ c = mark := by
  have known : ∀ n < 0x80, (Char.ofNat n).toLower = Char.ofNat n ∨
      ((Char.ofNat n).toLower.isAlpha = true ∧ (Char.ofNat n).isAlpha = true) := by decide
  have here := known c.toNat (by omega)
  rw [Char.ofNat_toNat] at here
  rcases here with same | ⟨low, letter⟩
  · rw [same]
  · refine iff_of_false ?_ ?_ <;> rintro rfl
    · exact absurd low (by simp [noLetter])
    · exact absurd letter (by simp [noLetter])

/-- A character is read for one of a word when its lower case is that one. -/
theorem anyCase_cons {w c : Char} (ascii : c.toNat ≤ 0x7F) (next : Text → Option β) :
    anyCase (w :: word) next (c :: text) =
      if c.toLower = w then anyCase word next text else none := by
  have same : (if w.isAlpha then sameLetter w else (· == w)) c = true ↔ c.toLower = w := by
    by_cases letter : w.isAlpha = true
    · rw [if_pos letter, sameLetter_iff ascii]
    · rw [if_neg letter, toLower_eq_iff ascii (by simpa using letter), beq_iff_eq]
  rw [anyCase, List.map_cons, each, one, ← anyCase]
  exact if_congr same rfl rfl

theorem isSome_anyCase_iff (ascii : ∀ c ∈ text, c.toNat ≤ 0x7F) :
    (anyCase word next text).isSome = true ↔
      ∃ run rest, text = run ++ rest ∧ lowered run = word ∧ (next rest).isSome = true := by
  induction word generalizing text with
  | nil =>
    constructor
    · exact fun found => ⟨[], text, rfl, rfl, found⟩
    · rintro ⟨run, rest, rfl, empty, found⟩
      obtain rfl : run = [] := List.map_eq_nil_iff.mp empty
      exact found
  | cons w word ih =>
    cases text with
    | nil => simp [anyCase, each, one, lowered]
    | cons c text =>
      obtain ⟨small, others⟩ := List.forall_mem_cons.mp ascii
      rw [anyCase_cons small]
      constructor
      · intro found
        split at found
        case isTrue same =>
          obtain ⟨run, rest, rfl, rfl, more⟩ := (ih others).mp found
          exact ⟨c :: run, rest, rfl, by rw [← same]; rfl, more⟩
        case isFalse => simp at found
      · rintro ⟨run, rest, split, spelled, more⟩
        obtain ⟨d, run, rfl⟩ : ∃ d tail, run = d :: tail :=
          List.exists_cons_of_ne_nil (by rintro rfl; simp [lowered] at spelled)
        obtain ⟨rfl, rfl⟩ := List.cons.inj split
        obtain ⟨same, spelled⟩ := List.cons.inj spelled
        rw [if_pos same]
        exact (ih others).mpr ⟨run, rest, rfl, spelled, more⟩

theorem isSome_oneOf_anyCase_iff {words : List Text} (ascii : ∀ c ∈ text, c.toNat ≤ 0x7F) :
    (oneOf (words.map anyCase) next text).isSome = true ↔
      ∃ run rest, text = run ++ rest ∧ lowered run ∈ words ∧ (next rest).isSome = true := by
  rw [isSome_oneOf_iff]
  constructor
  · rintro ⟨choice, member, found⟩
    obtain ⟨word, inWords, rfl⟩ := List.mem_map.mp member
    obtain ⟨run, rest, split, rfl, more⟩ := (isSome_anyCase_iff ascii).mp found
    exact ⟨run, rest, split, inWords, more⟩
  · rintro ⟨run, rest, split, member, more⟩
    exact ⟨anyCase (lowered run), List.mem_map_of_mem member,
      (isSome_anyCase_iff ascii).mpr ⟨run, rest, split, rfl, more⟩⟩

/-! ## Words in a name -/

theorem Plain.of_suffix (plain : Plain name) (isTail : text <:+ name) : Plain text where
  ascii c member := plain.ascii c (isTail.subset member)
  oneLine member := plain.oneLine (isTail.subset member)

theorem lowered_append (front back : Text) :
    lowered (front ++ back) = lowered front ++ lowered back := List.map_append

/-- A mark in lower case was that mark. -/
theorem lowered_eq_cons_iff {mark : Char} {back : Text} (ascii : ∀ c ∈ text, c.toNat ≤ 0x7F)
    (noLetter : mark.isAlpha = false) :
    lowered text = mark :: back ↔ ∃ rest, text = mark :: rest ∧ lowered rest = back := by
  cases text with
  | nil => simp [lowered]
  | cons c text =>
    rw [lowered, List.map_cons, List.cons.injEq, toLower_eq_iff (ascii c (by simp)) noLetter]
    simp [lowered]

theorem isSome_scriptEnding_iff (plain : Plain text) :
    (scriptEnding done text).isSome = true ↔
      ∃ extension ∈ scriptExtensions, lowered text = '.' :: extension := by
  have ends (rest : Text) (inLine : '\n' ∉ rest) :
      (atEnd done rest).isSome = true ↔ rest = [] := by
    rw [atEnd]
    split
    case isTrue empty =>
      refine iff_of_true rfl (empty.resolve_right ?_)
      rintro rfl
      simp at inLine
    case isFalse more => exact iff_of_false nofun fun empty => more (Or.inl empty)
  have choices : [anyCase "js", anyCase "jsx", anyCase "ts", anyCase "tsx"] =
      (scriptExtensions.map anyCase : List ((Text → Option (Unit × Text)) → _)) := rfl
  rw [scriptEnding, isSome_literal_iff, choices]
  constructor
  · rintro ⟨behind, rfl, found⟩
    have inner := plain.of_suffix (List.suffix_append _ behind)
    obtain ⟨run, rest, rfl, member, last⟩ := (isSome_oneOf_anyCase_iff inner.ascii).mp found
    obtain rfl := (ends rest (inner.of_suffix (List.suffix_append run rest)).oneLine).mp last
    exact ⟨lowered run, member, by rw [lowered_append, List.append_nil]; rfl⟩
  · rintro ⟨extension, member, spelled⟩
    obtain ⟨rest, rfl, rfl⟩ := (lowered_eq_cons_iff plain.ascii (by decide)).mp spelled
    have inner := plain.of_suffix (List.suffix_cons '.' rest)
    exact ⟨rest, rfl, (isSome_oneOf_anyCase_iff inner.ascii).mpr
      ⟨rest, [], by simp, member, (ends [] (by simp)).mpr rfl⟩⟩

/-- The text is a stem with the extension of a script. -/
theorem lowered_mem_scriptNames_iff {stems : List Text} :
    lowered text ∈ scriptNames stems ↔
      ∃ stem rest, text = stem ++ rest ∧ lowered stem ∈ stems ∧
        ∃ extension ∈ scriptExtensions, lowered rest = '.' :: extension := by
  simp only [scriptNames, List.mem_flatMap, List.mem_map]
  constructor
  · rintro ⟨stem, inStems, extension, member, same⟩
    obtain ⟨front, back, rfl, rfl, spelled⟩ := List.map_eq_append_iff.mp same.symm
    exact ⟨front, back, rfl, inStems, extension, member, spelled⟩
  · rintro ⟨stem, rest, rfl, inStems, extension, member, spelled⟩
    exact ⟨lowered stem, inStems, extension, member, by rw [lowered_append, spelled]⟩

theorem isSome_entryName_iff (plain : Plain text) :
    (entryName text).isSome = true ↔ lowered text ∈ entryNames := by
  have choices : [anyCase "index", anyCase "main"] =
      (List.map anyCase ["index", "main"] : List ((Text → Option (Unit × Text)) → _)) := rfl
  rw [entryName, choices, isSome_oneOf_anyCase_iff plain.ascii, entryNames,
    lowered_mem_scriptNames_iff]
  refine exists_congr fun run => exists_congr fun rest => and_congr_right ?_
  rintro rfl
  rw [isSome_scriptEnding_iff (plain.of_suffix (List.suffix_append run rest))]

theorem isSome_appName_iff (plain : Plain text) :
    (appName text).isSome = true ↔ lowered text ∈ appNames := by
  rw [appName, isSome_anyCase_iff plain.ascii, appNames, lowered_mem_scriptNames_iff]
  refine exists_congr fun run => exists_congr fun rest => and_congr_right ?_
  rintro rfl
  rw [isSome_scriptEnding_iff (plain.of_suffix (List.suffix_append run rest)), List.mem_singleton]

theorem isSome_componentFolder_iff (ascii : ∀ c ∈ text, c.toNat ≤ 0x7F) :
    (componentFolder text).isSome = true ↔
      ∃ run rest, text = run ++ '/' :: rest ∧ lowered run ∈ componentNames := by
  have slash (rest : Text) :
      (literal "/" done rest).isSome = true ↔ ∃ back, rest = '/' :: back := by
    simp [isSome_literal_iff, done]
  rw [componentFolder, isSome_anyCase_iff ascii]
  simp only [isSome_optionally_iff, slash]
  constructor
  · -- One more character is read, in either case of `s`, or none.
    rintro ⟨run, rest, rfl, spelled, one | ⟨back, rfl⟩⟩
    · obtain ⟨found, result⟩ := Option.isSome_iff_exists.mp one
      obtain ⟨c, behind, rfl, letter, more⟩ := exists_of_one result
      obtain ⟨back, rfl⟩ := (slash behind).mp (by rw [more]; rfl)
      refine ⟨run ++ [c], back, by simp, ?_⟩
      have low : c.toLower = 's' := (sameLetter_iff (ascii c (by simp))).mp letter
      rw [lowered_append, spelled, lowered, List.map_singleton, low]
      decide
    · exact ⟨run, back, rfl, by rw [spelled]; decide⟩
  · rintro ⟨run, back, rfl, member⟩
    rcases List.mem_cons.mp member with singular | plural
    · exact ⟨run, '/' :: back, rfl, singular, Or.inr ⟨back, rfl⟩⟩
    · have split : lowered run = "component".toList ++ ['s'] := List.mem_singleton.mp plural
      obtain ⟨front, last, rfl, spelled, letter⟩ := List.map_eq_append_iff.mp split
      obtain ⟨c, rfl, low⟩ := List.map_eq_singleton_iff.mp letter
      refine ⟨front, c :: '/' :: back, by simp, spelled,
        Or.inl (isSome_one ?_ ((slash _).mpr ⟨back, rfl⟩))⟩
      exact (sameLetter_iff (ascii c (by simp))).mpr low

/-- A pattern that reads one of the words to the end of a name occurs in names that end in such a
word. -/
theorem occurs_iff_fileFits {pattern : Reader Unit} {words : List Text} (plain : Plain name)
    (reads : ∀ text, Plain text → ((pattern text).isSome = true ↔ lowered text ∈ words))
    (inPart : ∀ word ∈ words, '/' ∉ word) :
    occurs pattern name = true ↔ fileFits endsWith words name = true := by
  rw [occurs_iff, fileFits, List.any_eq_true]
  constructor
  · rintro ⟨tail, isTail, found⟩
    have member := (reads tail (plain.of_suffix isTail)).mp found
    refine ⟨lowered tail, member, ?_⟩
    rw [endsWith, List.isSuffixOf_iff_suffix, suffix_afterLast_iff (inPart _ member)]
    exact isTail.map _
  · rintro ⟨word, member, fit⟩
    rw [endsWith, List.isSuffixOf_iff_suffix, suffix_afterLast_iff (inPart _ member)] at fit
    obtain ⟨tail, isTail, rfl⟩ := List.suffix_map_iff.mp fit
    exact ⟨tail, isTail, (reads tail (plain.of_suffix isTail)).mpr member⟩

theorem occurs_componentFolder_iff (plain : Plain name) :
    occurs componentFolder name = true ↔ folderFits endsWith componentNames name = true := by
  have inPart : ∀ word ∈ componentNames, '/' ∉ word := by decide
  have folders : folderFits endsWith componentNames name = true ↔
      ∃ word ∈ componentNames, word ++ ['/'] <:+: lowered name := by
    simp only [folderFits, List.any_eq_true, endsWith, List.isSuffixOf_iff_suffix]
    constructor
    · rintro ⟨folder, there, word, member, ends⟩
      exact ⟨word, member, (infix_mark_iff (inPart word member) _).mpr ⟨folder, there, ends⟩⟩
    · rintro ⟨word, member, stands⟩
      obtain ⟨folder, there, ends⟩ := (infix_mark_iff (inPart word member) _).mp stands
      exact ⟨folder, there, word, member, ends⟩
  rw [occurs_iff, folders]
  constructor
  · rintro ⟨tail, isTail, found⟩
    obtain ⟨run, back, rfl, member⟩ :=
      (isSome_componentFolder_iff (plain.of_suffix isTail).ascii).mp found
    refine ⟨lowered run, member, ?_⟩
    have start : run ++ ['/'] <:+: run ++ '/' :: back := ⟨[], back, by simp⟩
    have whole := (start.trans isTail.isInfix).map Char.toLower
    rwa [List.map_append] at whole
  · rintro ⟨word, member, stands⟩
    obtain ⟨part, ⟨front, back, split⟩, same⟩ := List.infix_map_iff.mp stands
    obtain ⟨run, last, rfl, rfl, slash⟩ := List.map_eq_append_iff.mp same.symm
    have small : ∀ c ∈ last, c.toNat ≤ 0x7F := fun c inLast =>
      plain.ascii c (by rw [← split]; simp [inLast])
    obtain ⟨rest, rfl, empty⟩ := (lowered_eq_cons_iff small (by decide)).mp slash
    obtain rfl : rest = [] := List.map_eq_nil_iff.mp empty
    have isTail : run ++ '/' :: back <:+ name := ⟨front, by rw [← split]; simp⟩
    exact ⟨run ++ '/' :: back, isTail,
      (isSome_componentFolder_iff (plain.of_suffix isTail).ascii).mpr ⟨run, back, rfl, member⟩⟩

/-! ## Classes -/

/-- Parts of a path are compared with the words by their ends. -/
theorem priority_eq_classBy (plain : Plain name) : priority name = classBy endsWith name := by
  have entry := occurs_iff_fileFits plain (fun _ => isSome_entryName_iff) (by decide)
  have app := occurs_iff_fileFits plain (fun _ => isSome_appName_iff) (by decide)
  have folder := occurs_componentFolder_iff plain
  have same : priority name = latest (occurs entryName name) (occurs appName name)
      (occurs componentFolder name) := rfl
  rw [same, classBy, Bool.eq_iff_iff.mpr entry, Bool.eq_iff_iff.mpr app, Bool.eq_iff_iff.mpr folder]

/-- The class of a name is that of the words that the parts of its path end in. It is never earlier
than that of the words that the parts are, and it is that class exactly when whole parts tell it. So
modules whose classes are told by whole parts are linked in the order of these. -/
theorem priority_reads_parts {artifacts : List Artifact}
    (plain : ∀ a ∈ artifacts, Plain a.name) :
    (∀ a ∈ artifacts, priority a.name = classBy endsWith a.name ∧
      classBy whole a.name ≤ priority a.name ∧
      (priority a.name = classBy whole a.name ↔ ToldByParts a.name)) ∧
    ((∀ a ∈ artifacts, ToldByParts a.name) →
      (order artifacts).Pairwise fun a b => classBy whole a.name ≤ classBy whole b.name) := by
  have told {a : Artifact} (member : a ∈ artifacts) :
      priority a.name = classBy whole a.name ↔ ToldByParts a.name := by
    rw [priority_eq_classBy (plain a member), classBy_eq_iff]
  refine ⟨fun a member => ⟨priority_eq_classBy (plain a member), ?_, told member⟩, fun tell => ?_⟩
  · rw [priority_eq_classBy (plain a member)]
    exact classBy_whole_le a.name
  · obtain ⟨perm, ascending, -⟩ := arranges_order artifacts
    refine ascending.imp_of_mem fun first second le => ?_
    have member := perm.mem_iff.mp first
    have member' := perm.mem_iff.mp second
    rwa [(told member).mpr (tell _ member), (told member').mpr (tell _ member')] at le

/-- A component, the application and a utility, each in a folder. -/
theorem priority_reads_parts_of_folders :
    let button : Artifact := ⟨"src/components/Button.jsx", "jsx", []⟩
    let app : Artifact := ⟨"src/App.tsx", "tsx", []⟩
    let format : Artifact := ⟨"utils/format.js", "js", []⟩
    (∀ a ∈ [app, button, format], Plain a.name) ∧
      (∀ a ∈ [app, button, format], ToldByParts a.name) ∧
      (∀ a ∈ [app, button, format], priority a.name = classBy whole a.name) ∧
      (order [app, button, format]).Pairwise fun a b =>
        classBy whole a.name ≤ classBy whole b.name := by
  intro button app format
  have plain : ∀ a ∈ [app, button, format], Plain a.name := by decide +kernel
  have tell : ∀ a ∈ [app, button, format], ToldByParts a.name := by decide +kernel
  obtain ⟨names, ordered⟩ := priority_reads_parts plain
  refine ⟨plain, tell, fun a member => ?_, ordered tell⟩
  obtain ⟨-, -, told⟩ := names a member
  exact told.mpr (tell a member)

/-- A utility whose name ends in `main.js` is linked behind the application. -/
theorem domain_behind_app :
    let domain : Artifact := ⟨"domain.js", "js", []⟩
    let app : Artifact := ⟨"App.jsx", "jsx", []⟩
    Plain domain.name ∧ priority domain.name = 100 ∧ classBy whole domain.name = 0 ∧
      priority app.name = 50 ∧ classBy whole app.name = 50 ∧
      order [domain, app] = [app, domain] := by
  decide +kernel

end SandboxPreview.Linking
