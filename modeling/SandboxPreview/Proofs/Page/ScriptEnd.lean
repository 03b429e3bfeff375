/-
# Ends of script elements

A browser ends a script element where its text spells `</script` in letters of either case. The
document of a native program does so twice: at the end of its bridge and at the end of its own
script. Whatever a simulator writes goes into the script with a backslash inside each end that it
holds, so none is left there, and the backslash lets no other one come to be.

## Main definitions

* `closings`: what stands from each end of a script element on;
* `slashed`: a script with a backslash inside each end that it holds.

## Main results

* `keepOpen_eq_slashed`, `closings_slashed`: what the native document does to its script;
* `exists_bridge_end`: the bridge ends its element once, at its own end;
* `closings_nativeDocument`: the native document ends two elements.
-/
import SandboxPreview.Page.Shell
import SandboxPreview.Proofs.Page.Bridge

namespace SandboxPreview.Page

open Text Pattern

variable {same : Char → Char → Bool} {text front back word place value rest : Text} {c : Char}
  {written : List String} {last : String}

/-! ## Letters of either case -/

/-- A way to tell letters without regard to case: each letter of the word is told as itself, and no
character is told as a letter that the pattern of the document does not take for it. -/
structure IgnoresCase (same : Char → Char → Bool) : Prop where
  self : ∀ letter ∈ "script".toList, same letter letter = true
  within : ∀ letter c, same letter c = true → sameLetter letter c = true

theorem ignoresCase_sameLetter : IgnoresCase sameLetter where
  self := List.all_eq_true.mp (by decide)
  within _ _ told := told

/-- The case of letters in ASCII alone. -/
theorem ignoresCase_toLower : IgnoresCase fun letter c => c.toLower == letter where
  self := List.all_eq_true.mp (by decide)
  within letter c told := by simp [sameLetter, told]

/-- The word in letters of either case. -/
def Spells (same : Char → Char → Bool) (word : Text) : Prop :=
  List.Forall₂ (fun letter c => same letter c = true) "script".toList word

/-- The text starts with the end of a script element, up to its name. -/
def closesScript (same : Char → Char → Bool) (text : Text) : Bool :=
  (literal "</" (each ("script".toList.map same) done) text).isSome

/-- What stands from each end of a script element on. -/
def closings (same : Char → Char → Bool) (text : Text) : List Text :=
  text.tails.filter (closesScript same)

/-- The character stands neither for the slash nor for a letter of the name. -/
def Separates (c : Char) : Prop := c ≠ '/' ∧ ∀ letter ∈ "script".toList, sameLetter letter c = false

instance : Decidable (Separates c) :=
  decidable_of_iff (c ≠ '/' ∧ "script".toList.all (fun letter => !sameLetter letter c) = true)
    (by simp only [Separates, List.all_eq_true, Bool.not_eq_true'])

theorem separates_bracket : Separates '<' := by decide

theorem separates_lineFeed : Separates '\n' := by decide

theorem each_script_eq_some_iff {α : Type} {next : Text → Option α} {result : α} :
    each ("script".toList.map same) next text = some result ↔
      ∃ word rest, Spells same word ∧ text = word ++ rest ∧ next rest = some result := by
  constructor
  · intro found
    obtain ⟨word, rest, rfl, spelled, here⟩ := exists_of_each found
    exact ⟨word, rest, List.forall₂_map_left_iff.mp spelled, rfl, here⟩
  · rintro ⟨word, rest, spelled, rfl, here⟩
    exact (each_append (List.forall₂_map_left_iff.mpr spelled) rest).trans here

theorem closesScript_iff :
    closesScript same text = true ↔ ∃ word, Spells same word ∧ '<' :: '/' :: word <+: text := by
  rw [closesScript, Option.isSome_iff_exists]
  constructor
  · rintro ⟨found, here⟩
    obtain ⟨_, rfl, here⟩ := literal_eq_some_iff.mp here
    obtain ⟨word, rest, spelled, rfl, -⟩ := each_script_eq_some_iff.mp here
    exact ⟨word, spelled, rest, rfl⟩
  · rintro ⟨word, spelled, rest, rfl⟩
    refine ⟨((), rest), literal_eq_some_iff.mpr ⟨word ++ rest, rfl, ?_⟩⟩
    exact each_script_eq_some_iff.mpr ⟨word, rest, spelled, rfl, rfl⟩

theorem Spells.mono (spelled : Spells same word) (ignores : IgnoresCase same) :
    Spells sameLetter word :=
  spelled.imp fun letter c told => ignores.within letter c told

theorem not_mem_of_spells (ignores : IgnoresCase same) (spelled : Spells same word)
    (apart : Separates c) : c ∉ '/' :: word := by
  rw [List.mem_cons]
  refine not_or_intro apart.1 fun member => ?_
  -- Every character of the word is told as some letter of the name.
  obtain ⟨letter, inName, told⟩ : ∃ letter ∈ "script".toList, sameLetter letter c = true := by
    obtain ⟨k, inside, rfl⟩ := List.getElem_of_mem member
    have told := (spelled.mono ignores).get (spelled.length_eq ▸ inside) inside
    exact ⟨_, List.getElem_mem _, told⟩
  rw [apart.2 letter inName] at told
  exact Bool.false_ne_true told

/-! ## Ends in joined texts -/

theorem closings_cons (c : Char) (text : Text) : closings same (c :: text) =
    if closesScript same (c :: text) then (c :: text) :: closings same text
    else closings same text := by
  rw [closings, List.tails_cons, List.filter_cons]
  rfl

theorem closings_eq_nil_iff : closings same text = [] ↔
    ∀ word, Spells same word → ¬ '<' :: '/' :: word <:+: text := by
  simp only [closings, List.filter_eq_nil_iff, List.mem_tails, closesScript_iff,
    List.infix_iff_prefix_suffix]
  constructor
  · rintro none word spelled ⟨tail, here, isTail⟩
    exact none tail isTail ⟨word, spelled, here⟩
  · rintro none tail isTail ⟨word, spelled, here⟩
    exact none word spelled ⟨tail, here, isTail⟩

theorem closings_cons_of_ne (other : c ≠ '<') : closings same (c :: text) = closings same text := by
  rw [closings_cons, if_neg]
  rw [closesScript_iff]
  rintro ⟨word, -, here⟩
  exact other (List.cons_prefix_cons.mp here).1.symm

theorem closings_append_of_not_mem (plain : '<' ∉ front) :
    closings same (front ++ back) = closings same back := by
  induction front with
  | nil => rfl
  | cons c front ih =>
    obtain ⟨other, plain'⟩ := not_or.mp (mt List.mem_cons.mpr plain)
    rw [List.cons_append, closings_cons_of_ne (Ne.symm other), ih plain']

theorem closings_mono (ignores : IgnoresCase same) (free : closings sameLetter text = []) :
    closings same text = [] :=
  closings_eq_nil_iff.mpr fun word spelled =>
    closings_eq_nil_iff.mp free word (spelled.mono ignores)

/-- No end of a script element lies across a character that stands for none of its own. -/
theorem closings_append (ignores : IgnoresCase same) (apart : Separates c) (front back : Text) :
    closings same (front ++ c :: back) =
      (closings same front).map (· ++ c :: back) ++ closings same (c :: back) := by
  induction front with
  | nil => rfl
  | cons d front ih =>
    have here : closesScript same (d :: (front ++ c :: back)) = closesScript same (d :: front) := by
      rw [Bool.eq_iff_iff, closesScript_iff, closesScript_iff]
      refine exists_congr fun word => and_congr_right fun spelled => ?_
      rw [List.cons_prefix_cons, List.cons_prefix_cons,
        prefix_append_cons_iff (not_mem_of_spells ignores spelled apart)]
    rw [List.cons_append, closings_cons, closings_cons, here, ih]
    split <;> simp

theorem closings_append_cons (ignores : IgnoresCase same) (apart : Separates c)
    (free : closings same front = []) (back : Text) :
    closings same (front ++ c :: back) = closings same (c :: back) := by
  rw [closings_append ignores apart, free]
  rfl

/-- A literal is looked through by its characters, not by the bytes that it is stored in. -/
theorem closings_ofList {text : Text} (free : closings sameLetter text = []) :
    closings sameLetter (String.ofList text).toList = [] := by
  rwa [String.toList_ofList]

/-- Lines without ends of script elements do not make one together. -/
theorem closings_ofLines (ignores : IgnoresCase same) (ends : written.getLast? = some last)
    (free : ∀ line ∈ written.dropLast, closings sameLetter line.toList = []) (back : Text) :
    closings same (ofLines written ++ back) = closings same (last.toList ++ back) := by
  induction written with
  | nil => simp at ends
  | cons line written ih =>
    cases written with
    | nil =>
      obtain rfl : line = last := by simpa using ends
      rw [ofLines_singleton]
    | cons next written =>
      rw [List.dropLast_cons_cons, List.forall_mem_cons] at free
      rw [ofLines_cons_cons, List.append_assoc, List.cons_append,
        closings_append_cons ignores separates_lineFeed (closings_mono ignores free.1),
        closings_cons_of_ne (by decide), ih (by simpa using ends) free.2]

/-! ## The script of the document -/

/-- The script with a backslash behind the bracket of each end of a script element. -/
def slashed : Text → Text
  | [] => []
  | c :: text =>
    if closesScript sameLetter (c :: text) then c :: '\\' :: slashed text else c :: slashed text

theorem slashed_append_of_not_mem (plain : '<' ∉ front) :
    slashed (front ++ back) = front ++ slashed back := by
  induction front with
  | nil => rfl
  | cons c front ih =>
    obtain ⟨other, plain'⟩ := not_or.mp (mt List.mem_cons.mpr plain)
    have open' : ¬ closesScript sameLetter (c :: (front ++ back)) = true := by
      rw [closesScript_iff]
      rintro ⟨word, -, here⟩
      exact other (List.cons_prefix_cons.mp here).1
    rw [List.cons_append, slashed, if_neg open', ih plain', List.cons_append]

theorem scriptClose_eq_some_iff : scriptClose text = some (word, rest) ↔
    Spells sameLetter word ∧ text = '<' :: '/' :: (word ++ rest) := by
  rw [scriptClose, literal_eq_some_iff]
  simp only [mark, each_script_eq_some_iff]
  constructor
  · rintro ⟨_, rfl, word', rest', spelled, rfl, found⟩
    rw [between_append, Option.some.injEq, Prod.mk.injEq] at found
    obtain ⟨rfl, rfl⟩ := found
    exact ⟨spelled, rfl⟩
  · rintro ⟨spelled, rfl⟩
    exact ⟨word ++ rest, rfl, word, rest, spelled, rfl, by rw [between_append]⟩

theorem consuming_scriptClose : Consuming scriptClose := by
  intro text word rest found
  obtain ⟨-, rfl⟩ := scriptClose_eq_some_iff.mp found
  simp only [List.length_cons, List.length_append]
  omega

theorem scriptClose_eq_none_iff :
    scriptClose text = none ↔ closesScript sameLetter text = false := by
  rw [← Bool.not_eq_true, closesScript_iff, Option.eq_none_iff_forall_ne_some]
  constructor
  · rintro none ⟨word, spelled, rest, rfl⟩
    exact none (word, rest) (scriptClose_eq_some_iff.mpr ⟨spelled, rfl⟩)
  · rintro open' ⟨word, rest⟩ found
    obtain ⟨spelled, rfl⟩ := scriptClose_eq_some_iff.mp found
    exact open' ⟨word, spelled, rest, rfl⟩

/-- The replacement of the ends, from left to right, is a backslash inside each of them. -/
theorem keepOpen_eq_slashed (script : Text) : keepOpen script = slashed script := by
  rw [keepOpen]
  induction script using induction_on_matches consuming_scriptClose with
  | nil => rfl
  | found text word rest here ih =>
    obtain ⟨spelled, rfl⟩ := scriptClose_eq_some_iff.mp here
    have plain : '<' ∉ '/' :: word :=
      not_mem_of_spells ignoresCase_sameLetter spelled separates_bracket
    have closes : closesScript sameLetter ('<' :: '/' :: (word ++ rest)) = true :=
      closesScript_iff.mpr ⟨word, spelled, rest, rfl⟩
    rw [replaceAll_of_some consuming_scriptClose here, ih, slashed, if_pos closes,
      ← List.cons_append, slashed_append_of_not_mem plain]
    rfl
  | plain c rest missing ih =>
    have open' : ¬ closesScript sameLetter (c :: rest) = true := by
      rw [scriptClose_eq_none_iff.mp missing]
      exact Bool.false_ne_true
    rw [replaceAll_cons_of_none missing, ih, slashed, if_neg open']

theorem prefix_of_prefix_slashed (plain : '<' ∉ word) (stands : word <+: slashed text) :
    word <+: text := by
  induction text generalizing word with
  | nil => exact stands
  | cons c text ih =>
    cases word with
    | nil => exact List.nil_prefix
    | cons w word =>
      obtain ⟨other, plain'⟩ := not_or.mp (mt List.mem_cons.mpr plain)
      rw [slashed] at stands
      split at stands
      case isTrue closes =>
        -- An end starts with a bracket, which the word does not hold.
        obtain ⟨_, -, here⟩ := closesScript_iff.mp closes
        rw [← (List.cons_prefix_cons.mp stands).1] at here
        exact absurd (List.cons_prefix_cons.mp here).1 other
      case isFalse =>
        obtain ⟨rfl, behind⟩ := List.cons_prefix_cons.mp stands
        exact List.cons_prefix_cons.mpr ⟨rfl, ih plain' behind⟩

/-- No end is left in the script, and no new one comes to be. -/
theorem closings_slashed (ignores : IgnoresCase same) (script : Text) :
    closings same (slashed script) = [] := by
  refine closings_mono ignores ?_
  induction script with
  | nil => rfl
  | cons c text ih =>
    rw [slashed]
    split
    case isTrue closes =>
      have open' : ¬ closesScript sameLetter (c :: '\\' :: slashed text) = true := by
        rw [closesScript_iff]
        rintro ⟨word, -, here⟩
        have slash := (List.cons_prefix_cons.mp (List.cons_prefix_cons.mp here).2).1
        exact absurd slash (by decide)
      rw [closings_cons, if_neg open', closings_cons_of_ne (by decide), ih]
    case isFalse open' =>
      rw [closings_cons, if_neg, ih]
      rw [closesScript_iff] at open' ⊢
      rintro ⟨word, spelled, here⟩
      obtain ⟨rfl, behind⟩ := List.cons_prefix_cons.mp here
      have plain := not_mem_of_spells ignoresCase_sameLetter spelled separates_bracket
      exact open' ⟨word, spelled,
        List.cons_prefix_cons.mpr ⟨rfl, prefix_of_prefix_slashed plain behind⟩⟩

/-! ## The bridge -/

set_option maxRecDepth 2000 in
/-- The bridge with its places ends one element, at its end. -/
theorem closings_bridgeTemplate (ignores : IgnoresCase same) :
    closings same bridgeTemplate = closings same "</script>".toList := by
  rw [← List.append_nil bridgeTemplate, ← List.append_nil "</script>".toList]
  refine closings_ofLines ignores rfl ?_ []
  simp only [List.dropLast]
  repeat refine List.forall_mem_cons.mpr ⟨closings_ofList (by decide +kernel), ?_⟩
  exact List.forall_mem_nil _

theorem spells_script (ignores : IgnoresCase same) : Spells same "script".toList :=
  List.forall₂_same.mpr ignores.self

theorem closings_end (ignores : IgnoresCase same) (back : Text) :
    closings same ("</script>".toList ++ back) =
      ("</script>".toList ++ back) :: closings same back := by
  have closes : closesScript same ('<' :: ("/script>".toList ++ back)) = true :=
    closesScript_iff.mpr ⟨_, spells_script ignores, '>' :: back, rfl⟩
  change closings same ('<' :: ("/script>".toList ++ back)) = _
  rw [closings_cons, if_pos closes, closings_append_of_not_mem (by decide)]
  rfl

theorem closings_append_end (ignores : IgnoresCase same) (free : closings same front = [])
    (back : Text) : closings same (front ++ ("</script>".toList ++ back)) =
      ("</script>".toList ++ back) :: closings same back :=
  (closings_append_cons ignores separates_bracket free _).trans (closings_end ignores back)

/-- A quoted value holds no end of a script element that the value does not hold itself. -/
theorem closings_replaceWord_quote (ignores : IgnoresCase same) (nonempty : place ≠ [])
    (inValue : closings same value = []) (inText : closings same text = []) :
    closings same (replaceWord place (Json.quote value) text) = [] := by
  rw [closings_eq_nil_iff] at *
  intro word spelled stands
  have absent {c : Char} (apart : Separates c) (other : c ≠ '<') : c ∉ '<' :: '/' :: word :=
    fun member => (List.mem_cons.mp member).elim other (not_mem_of_spells ignores spelled apart)
  exact (infix_of_infix_replaceWord_quote nonempty (absent (by decide) (by decide))
    (absent (by decide) (by decide)) stands).elim (inText word spelled) (inValue word spelled)

/-- A value is written before the end of the bridge. -/
theorem replaceWord_append_end (nonempty : place ≠ []) (bracket : '<' ∉ place)
    (absent : ¬ place <:+: "/script>".toList) (new front : Text) :
    replaceWord place new (front ++ "</script>".toList) =
      replaceWord place new front ++ "</script>".toList := by
  have parts := replaceWord_append_cons nonempty new bracket front "/script>".toList
  rw [replaceWord_eq_self new absent] at parts
  exact parts

/-- The bridge ends its element once, at its own end. -/
theorem exists_bridge_end (ignores : IgnoresCase same) {sourceTag targetOrigin rootId : Text}
    (inSource : closings same sourceTag = []) (inOrigin : closings same targetOrigin = [])
    (inRoot : closings same rootId = []) :
    ∃ body, bridgeScript sourceTag targetOrigin rootId = body ++ "</script>".toList ∧
      closings same body = [] := by
  obtain ⟨front, whole⟩ : "</script>".toList <:+ bridgeTemplate := suffix_ofLines rfl
  have free : closings same front = [] := by
    have parts : closings same (front ++ "</script>".toList) =
        (closings same front).map (· ++ "</script>".toList) ++ closings same "</script>".toList :=
      closings_append ignores separates_bracket front "/script>".toList
    rw [whole, closings_bridgeTemplate ignores] at parts
    exact List.map_eq_nil_iff.mp (List.self_eq_append_left.mp parts)
  have write (place value : Text) {text : Text} (nonempty : place ≠ []) (bracket : '<' ∉ place)
      (absent : ¬ place <:+: "/script>".toList) (inValue : closings same value = [])
      (inText : closings same text = []) :
      ∃ body, replaceWord place (Json.quote value) (text ++ "</script>".toList) =
        body ++ "</script>".toList ∧ closings same body = [] :=
    ⟨_, replaceWord_append_end nonempty bracket absent _ text,
      closings_replaceWord_quote ignores nonempty inValue inText⟩
  obtain ⟨first, hfirst, free⟩ :=
    write sourcePlace sourceTag (by decide) (by decide) (by decide) inSource free
  obtain ⟨second, hsecond, free⟩ :=
    write originPlace targetOrigin (by decide) (by decide) (by decide) inOrigin free
  obtain ⟨third, hthird, free⟩ :=
    write rootPlace rootId (by decide) (by decide) (by decide) inRoot free
  refine ⟨third, ?_, free⟩
  rw [bridgeScript, ← whole, hfirst, hsecond, hthird]

/-! ## The native document -/

theorem bracket_not_mem_ofInt (i : Int) : '<' ∉ ofInt i := by
  have digit : ∀ d < 10, '<' ≠ Nat.digitChar d := by decide
  intro member
  rcases mem_ofInt member with sign | ⟨d, small, same⟩
  · exact absurd sign (by decide)
  · exact digit d small same

theorem closings_nativeStart (ignores : IgnoresCase same) (back : Text) :
    closings same (nativeStart ++ back) = closings same back := by
  refine (closings_ofLines ignores rfl ?_ back).trans (closings_append_of_not_mem (by decide))
  simp only [List.dropLast]
  repeat refine List.forall_mem_cons.mpr ⟨closings_ofList (by decide +kernel), ?_⟩
  exact List.forall_mem_nil _

theorem closings_nativeMiddle (ignores : IgnoresCase same) (back : Text) :
    closings same (nativeMiddle ++ back) = closings same back := by
  refine (closings_ofLines ignores rfl ?_ back).trans (closings_append_of_not_mem (by decide))
  simp only [List.dropLast]
  repeat refine List.forall_mem_cons.mpr ⟨closings_ofList (by decide +kernel), ?_⟩
  exact List.forall_mem_nil _

theorem closings_nativeEnd (ignores : IgnoresCase same) :
    closings same nativeEnd = ["</script>\n</body>\n</html>".toList] := by
  have whole : nativeEnd =
      ");\n  ".toList ++ ("</script>".toList ++ "\n</body>\n</html>".toList) := by
    simp only [nativeEnd, ofLines_cons_cons, ofLines_singleton]
    rfl
  have behind : closings same "\n</body>\n</html>".toList = [] :=
    closings_mono ignores (by decide +kernel)
  rw [whole, closings_append_of_not_mem (by decide), closings_end ignores, behind]
  rfl

/-- What stands between the script and the end of its element. -/
theorem closings_after_script (ignores : IgnoresCase same) (script : Text) (delay : Int) :
    closings same (slashed script ++ nativeDelay ++ ofInt delay ++ nativeEnd) =
      ["</script>\n</body>\n</html>".toList] := by
  have delayed : nativeDelay = '\n' :: "    \x7d, ".toList := by
    rw [nativeDelay, ofLines_cons_cons, ofLines_singleton]
    rfl
  have parts : slashed script ++ nativeDelay ++ ofInt delay ++ nativeEnd =
      slashed script ++ '\n' :: ("    \x7d, ".toList ++ (ofInt delay ++ nativeEnd)) := by
    rw [delayed]
    simp only [List.append_assoc, List.cons_append]
  rw [parts, closings_append_cons ignores separates_lineFeed (closings_slashed ignores script),
    closings_cons_of_ne (by decide), closings_append_of_not_mem (by decide),
    closings_append_of_not_mem (bracket_not_mem_ofInt delay), closings_nativeEnd ignores]

/-- The native document holds the simulated output with a backslash inside each end of a script
element, and otherwise as it is. It ends two elements: the bridge, at the end of it, and the script
that holds the output. No value of the options may hold such an end itself. -/
theorem closings_nativeDocument (ignores : IgnoresCase same) (a : Artifact) (o : Options)
    (inSource : closings same o.sourceTag = []) (inOrigin : closings same o.targetOrigin = [])
    (inRoot : closings same o.rootId = []) :
    let script := nativeMiddle ++ slashed (Simulator.simulate a) ++ nativeDelay ++
      ofInt o.nativeDelayMs ++ nativeEnd
    ∃ body, o.bridge = body ++ "</script>".toList ∧
      nativeDocument a o = nativeStart ++ o.bridge ++ script ∧
      closings same (nativeDocument a o) =
        ["</script>".toList ++ script, "</script>\n</body>\n</html>".toList] := by
  intro script
  obtain ⟨body, bridge, free⟩ := exists_bridge_end ignores inSource inOrigin inRoot
  have document : nativeDocument a o = nativeStart ++ o.bridge ++ script := by
    simp only [nativeDocument, keepOpen_eq_slashed, script, List.append_assoc]
  have inScript : closings same script = ["</script>\n</body>\n</html>".toList] := by
    have parts : script = nativeMiddle ++
        (slashed (Simulator.simulate a) ++ nativeDelay ++ ofInt o.nativeDelayMs ++ nativeEnd) := by
      simp only [script, List.append_assoc]
    rw [parts, closings_nativeMiddle ignores, closings_after_script ignores]
  refine ⟨body, bridge, document, ?_⟩
  calc closings same (nativeDocument a o)
      = closings same (nativeStart ++ (body ++ ("</script>".toList ++ script))) := by
        rw [document, Options.bridge, bridge]
        simp only [List.append_assoc]
    _ = ("</script>".toList ++ script) :: closings same script := by
        rw [closings_nativeStart ignores, closings_append_end ignores free]
    _ = ["</script>".toList ++ script, "</script>\n</body>\n</html>".toList] := by rw [inScript]

/-- A program whose output would end its element, with letters of either case or beyond ASCII. -/
theorem closings_nativeDocument_of_output :
    let program : Artifact := ⟨"a.py", "py", "print('</SCRIPT>')\nprint('</\u017Fcript>')"⟩
    slashed (Simulator.simulate program) =
        "console.log(\"<\\/SCRIPT>\");\nconsole.log(\"<\\/\u017Fcript>\");".toList ∧
      (closings sameLetter (nativeDocument program {})).length = 2 ∧
      (closings (fun letter c => c.toLower == letter) (nativeDocument program {})).length = 2 := by
  intro program
  obtain ⟨_, -, -, all⟩ := closings_nativeDocument ignoresCase_sameLetter program {} (by decide +kernel)
    (by decide +kernel) (by decide +kernel)
  obtain ⟨_, -, -, ascii⟩ := closings_nativeDocument ignoresCase_toLower program {} (by decide +kernel)
    (by decide +kernel) (by decide +kernel)
  refine ⟨by decide +kernel, ?_, ?_⟩
  · rw [all]
    rfl
  · rw [ascii]
    rfl

end SandboxPreview.Page
