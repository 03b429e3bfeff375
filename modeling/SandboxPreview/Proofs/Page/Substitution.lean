/-
# Values in the bridge

The values of the options are written into the bridge one after another, so the name of a place that
a value holds is written over when that place is filled later. Every name that is replaced brings
quotes with it, and no name holds a quote. So the bridge has as many quotes as its template with all
values written at once only if no value holds the name of a place that is filled after its own, and
then the two are the same.

## Main definitions

* `Frame`: the text around the places of the bridge.

## Main results

* `exists_frame`: each place stands in the template once;
* `bridgeScript_eq_replaceWords_iff`: when the values are written independently.
-/
import SandboxPreview.Page.Bridge
import SandboxPreview.Proofs.Json.Quote
import SandboxPreview.Proofs.Text.Lines
import SandboxPreview.Proofs.Text.Replacement

namespace SandboxPreview.Page

open Text Pattern

variable {α : Type} {place value text : Text}

/-! ## The text around the places -/

/-- The text before, between and behind three others, without the characters next to them. -/
structure Frame where
  beforeSource : Text
  beforeOrigin : Text
  beforeRoot : Text
  behindRoot : Text

variable {f : Frame}

/-- A frame with its three texts. -/
def Frame.around (f : Frame) (source origin root : Text) : Text :=
  f.beforeSource ++ ' ' :: (source ++ ',' :: (f.beforeOrigin ++ ' ' :: (origin ++ ')' ::
    (f.beforeRoot ++ '(' :: (root ++ ')' :: f.behindRoot)))))

/-- A frame without two underscores in a row, which all names of places start with. -/
structure Frame.Free (f : Frame) : Prop where
  beforeSource : ¬ "__".toList <:+: f.beforeSource
  beforeOrigin : ¬ "__".toList <:+: f.beforeOrigin
  beforeRoot : ¬ "__".toList <:+: f.beforeRoot
  behindRoot : ¬ "__".toList <:+: f.behindRoot

/-- The line of the bridge with the places of the source and the origin. -/
def postLine : String :=
  "        window.parent.postMessage(\x7b source: __SOURCE__, type: type, message: message \x7d, __ORIGIN__);"

/-- The line of the bridge with the place of the root. -/
def rootLine : String := "      const root = document.getElementById(__ROOT__);"

set_option maxRecDepth 2000 in
/-- No other line holds two underscores in a row. -/
theorem exists_lines : ∃ first middle last : List String,
    bridgeTemplate = ofLines (first ++ postLine :: (middle ++ rootLine :: last)) ∧
      ∀ line ∈ first ++ (middle ++ last), contains "__" line.toList = false := by
  obtain ⟨written, whole, split, plain⟩ : ∃ written, bridgeTemplate = ofLines written ∧
      written = written.take 12 ++ postLine :: ((written.drop 13).take 18 ++
        rootLine :: written.drop 32) ∧
      ∀ line ∈ written.take 12 ++ ((written.drop 13).take 18 ++ written.drop 32),
        contains "__" line.toList = false := by
    refine ⟨_, rfl, rfl, ?_⟩
    simp only [List.take_succ_cons, List.take_zero, List.drop_succ_cons, List.drop_zero,
      List.cons_append, List.nil_append]
    repeat refine List.forall_mem_cons.mpr ⟨contains_ofList (by decide +kernel), ?_⟩
    exact List.forall_mem_nil _
  exact ⟨_, _, _, whole.trans (congrArg ofLines split), plain⟩

/-- Each place stands in the template once. -/
theorem exists_frame : ∃ f : Frame,
    bridgeTemplate = f.around sourcePlace originPlace rootPlace ∧ f.Free := by
  obtain ⟨first, middle, last, whole, plain⟩ := exists_lines
  simp only [List.forall_mem_append] at plain
  obtain ⟨plainFirst, plainMiddle, plainLast⟩ := plain
  -- The two lines are cut on both sides of each place.
  have post : postLine.toList = "        window.parent.postMessage(\x7b source:".toList ++
      ' ' :: "__SOURCE__, type: type, message: message \x7d, __ORIGIN__);".toList :=
    toList_ofList_append_cons rfl
  have source : "__SOURCE__, type: type, message: message \x7d, __ORIGIN__);".toList =
      "__SOURCE__".toList ++ ',' :: " type: type, message: message \x7d, __ORIGIN__);".toList :=
    toList_ofList_append_cons rfl
  have between : " type: type, message: message \x7d, __ORIGIN__);".toList =
      " type: type, message: message \x7d,".toList ++ ' ' :: "__ORIGIN__);".toList :=
    toList_ofList_append_cons rfl
  have origin : "__ORIGIN__);".toList = "__ORIGIN__".toList ++ ')' :: ";".toList :=
    toList_ofList_append_cons rfl
  have root : rootLine.toList = "      const root = document.getElementById".toList ++
      '(' :: "__ROOT__);".toList := toList_ofList_append_cons rfl
  have root' : "__ROOT__);".toList = "__ROOT__".toList ++ ')' :: ";".toList :=
    toList_ofList_append_cons rfl
  have free {written : List String}
      (missing : ∀ line ∈ written, contains "__" line.toList = false) :
      ¬ "__".toList <:+: ofLines written :=
    not_infix_ofLines (by decide) (by decide) missing
  refine ⟨⟨ofLines (first ++ ["        window.parent.postMessage(\x7b source:"]),
    ofLines ([] ++ [" type: type, message: message \x7d,"]),
    ofLines (";" :: middle ++ ["      const root = document.getElementById"]),
    ofLines (";" :: last)⟩, ?_, ?_⟩
  · have cutSource := ofLines_append_cons source [] (middle ++ rootLine :: last)
    have cutBetween := ofLines_append_cons between [] (middle ++ rootLine :: last)
    have cutOrigin := ofLines_append_cons origin [] (middle ++ rootLine :: last)
    have cutRoot : ofLines (";" :: (middle ++ rootLine :: last)) = _ :=
      ofLines_append_cons root (";" :: middle) last
    have cutRoot' := ofLines_append_cons root' [] last
    rw [List.nil_append] at cutSource cutBetween cutOrigin cutRoot'
    rw [whole, ofLines_append_cons post, cutSource, cutBetween, cutOrigin, cutRoot, cutRoot']
    rfl
  · refine ⟨free ?_, free ?_, free ?_, free ?_⟩
    · exact List.forall_mem_append.mpr ⟨plainFirst, by decide⟩
    · decide
    · exact List.forall_mem_append.mpr
        ⟨List.forall_mem_cons.mpr ⟨by decide, plainMiddle⟩, by decide⟩
    · exact List.forall_mem_cons.mpr ⟨by decide, plainLast⟩

/-! ## Writing into the frame -/

/-- The names of the places. -/
def places : List Text := [sourcePlace, originPlace, rootPlace]

/-- The characters next to the places. -/
def edges : Text := [' ', ',', '(', ')']

/-- A name of a place starts with two underscores and holds none of the characters next to it. -/
structure IsPlace (place : Text) : Prop where
  ne_nil : place ≠ []
  underscores : "__".toList <+: place
  edge : ∀ c ∈ edges, c ∉ place

theorem isPlace_of_mem (member : place ∈ places) : IsPlace place := by
  have edge : places.all (fun place => edges.all fun c => decide (c ∉ place)) = true := by decide
  have start : ∀ place ∈ places, place ≠ [] ∧ "__".toList <+: place := by decide
  refine ⟨(start place member).1, (start place member).2, fun c inEdges => ?_⟩
  exact of_decide_eq_true (List.all_eq_true.mp (List.all_eq_true.mp edge place member) c inEdges)

theorem not_infix_of_not_underscores (member : place ∈ places) (free : ¬ "__".toList <:+: text) :
    ¬ place <:+: text := fun stands =>
  free ((isPlace_of_mem member).underscores.isInfix.trans stands)

/-- A pattern that does not match in the frame nor over its edges is replaced in the three texts. -/
theorem Frame.replaceAll_around {pattern : Reader α} {g : α → Text} (consuming : Consuming pattern)
    (stops : ∀ c ∈ edges, StopsAt c pattern)
    (kept : ∀ text, ¬ "__".toList <:+: text → replaceAll pattern g text = text)
    (free : f.Free) (source origin root : Text) :
    replaceAll pattern g (f.around source origin root) =
      f.around (replaceAll pattern g source) (replaceAll pattern g origin)
        (replaceAll pattern g root) := by
  have cut (c : Char) (member : c ∈ edges) (text rest : Text) :
      replaceAll pattern g (text ++ c :: rest) =
        replaceAll pattern g text ++ c :: replaceAll pattern g rest :=
    replaceAll_append_cons consuming (stops c member) text rest
  simp only [Frame.around, cut ' ' (by decide), cut ',' (by decide), cut '(' (by decide),
    cut ')' (by decide), kept _ free.beforeSource, kept _ free.beforeOrigin, kept _ free.beforeRoot,
    kept _ free.behindRoot]

theorem Frame.replaceWord_around (member : place ∈ places) (free : f.Free)
    (new source origin root : Text) :
    replaceWord place new (f.around source origin root) =
      f.around (replaceWord place new source) (replaceWord place new origin)
        (replaceWord place new root) := by
  have isPlace := isPlace_of_mem member
  refine Frame.replaceAll_around (consuming_literal isPlace.ne_nil) ?_ ?_ free source origin root
  · exact fun c inEdges => stopsAt_literal (isPlace.edge c inEdges) ()
  · exact fun text free => replaceWord_eq_self new (not_infix_of_not_underscores member free)

theorem Frame.replaceWords_around {words : List (Text × Text)} (members : ∀ w ∈ words, w.1 ∈ places)
    (free : f.Free) (source origin root : Text) :
    replaceWords words (f.around source origin root) =
      f.around (replaceWords words source) (replaceWords words origin)
        (replaceWords words root) := by
  have isPlace (w : Text × Text) (member : w ∈ words) := isPlace_of_mem (members w member)
  refine Frame.replaceAll_around (consuming_anyWord fun w member => (isPlace w member).ne_nil) ?_ ?_
    free source origin root
  · exact fun c inEdges => stopsAt_anyWord fun w member => (isPlace w member).edge c inEdges
  · exact fun text free => replaceWords_eq_self fun w member =>
      not_infix_of_not_underscores (members w member) free

/-! ## One after another, and all at once -/

/-- The names of the places with the values that are written for them. -/
def values (sourceTag targetOrigin rootId : Text) : List (Text × Text) :=
  [(sourcePlace, Json.quote sourceTag), (originPlace, Json.quote targetOrigin),
    (rootPlace, Json.quote rootId)]

variable {sourceTag targetOrigin rootId : Text}

theorem replaceWords_values (free : f.Free) :
    replaceWords (values sourceTag targetOrigin rootId)
        (f.around sourcePlace originPlace rootPlace) =
      f.around (Json.quote sourceTag) (Json.quote targetOrigin) (Json.quote rootId) := by
  have members : ∀ w ∈ values sourceTag targetOrigin rootId, w.1 ∈ places := by
    simp [values, places]
  have own {place value : Text}
      (found : anyWord (values sourceTag targetOrigin rootId) place = some (value, [])) :
      replaceWords (values sourceTag targetOrigin rootId) place = value := by
    have nonempty (w : Text × Text) (member : w ∈ values sourceTag targetOrigin rootId) :=
      (isPlace_of_mem (members w member)).ne_nil
    rw [replaceWords_of_some nonempty found]
    exact List.append_nil value
  rw [Frame.replaceWords_around members free, own rfl, own rfl, own rfl]

/-- The values of earlier places are written over by those of later ones. -/
theorem bridgeScript_eq (template : bridgeTemplate = f.around sourcePlace originPlace rootPlace)
    (free : f.Free) :
    bridgeScript sourceTag targetOrigin rootId =
      f.around
        (replaceWord rootPlace (Json.quote rootId)
          (replaceWord originPlace (Json.quote targetOrigin) (Json.quote sourceTag)))
        (replaceWord rootPlace (Json.quote rootId) (Json.quote targetOrigin))
        (Json.quote rootId) := by
  rw [bridgeScript, template, Frame.replaceWord_around (by decide) free,
    Frame.replaceWord_around (by decide) free, Frame.replaceWord_around (by decide) free,
    replaceWord_eq_self _ (by decide : ¬ sourcePlace <:+: originPlace),
    replaceWord_eq_self _ (by decide : ¬ sourcePlace <:+: rootPlace),
    replaceWord_eq_self _ (by decide : ¬ originPlace <:+: rootPlace),
    replaceWord_self (by decide : sourcePlace ≠ []),
    replaceWord_self (by decide : originPlace ≠ []),
    replaceWord_self (by decide : rootPlace ≠ [])]

theorem escapeChar_of_mem_place {c : Char} (member : place ∈ places) (inPlace : c ∈ place) :
    Json.escapeChar c = [c] := by
  have plain : places.all (fun place => place.all fun c => decide (Json.escapeChar c = [c])) =
      true := by decide
  exact of_decide_eq_true (List.all_eq_true.mp (List.all_eq_true.mp plain place member) c inPlace)

theorem infix_quote_place_iff (member : place ∈ places) (value : Text) :
    place <:+: Json.quote value ↔ place <:+: value := by
  have plain (c : Char) (inPlace : c ∈ place) := escapeChar_of_mem_place member inPlace
  simp only [places, List.mem_cons, List.not_mem_nil, or_false] at member
  rcases member with rfl | rfl | rfl
  all_goals exact Json.infix_quote_iff (by decide) plain

theorem quote_mem_quote (value : Text) : '\x22' ∈ Json.quote value := List.mem_cons_self

/-- The quotes around three texts that grow while one of them stays. -/
theorem eq_of_around_eq {source origin root source' origin' : Text}
    (grown : source.count '\x22' ≤ source'.count '\x22')
    (grown' : origin.count '\x22' ≤ origin'.count '\x22')
    (same : f.around source' origin' root = f.around source origin root) :
    source'.count '\x22' = source.count '\x22' ∧ origin'.count '\x22' = origin.count '\x22' := by
  have counts := congrArg (List.count '\x22') same
  simp only [Frame.around, List.count_append, List.count_cons] at counts
  omega

/-- The bridge is its template with every place filled by its own value at once exactly when no
value holds the name of a place that is filled after its own. -/
theorem bridgeScript_eq_replaceWords_iff (sourceTag targetOrigin rootId : Text) :
    bridgeScript sourceTag targetOrigin rootId =
        replaceWords [(sourcePlace, Json.quote sourceTag), (originPlace, Json.quote targetOrigin),
          (rootPlace, Json.quote rootId)] bridgeTemplate ↔
      ¬ originPlace <:+: sourceTag ∧ ¬ rootPlace <:+: sourceTag ∧ ¬ rootPlace <:+: targetOrigin := by
  obtain ⟨f, template, free⟩ := exists_frame
  have originMember : originPlace ∈ places := by decide
  have rootMember : rootPlace ∈ places := by decide
  rw [bridgeScript_eq template free, template]
  change _ = replaceWords (values sourceTag targetOrigin rootId) _ ↔ _
  rw [replaceWords_values free, ← infix_quote_place_iff originMember sourceTag,
    ← infix_quote_place_iff rootMember sourceTag, ← infix_quote_place_iff rootMember targetOrigin]
  constructor
  · intro same
    -- A name that is replaced brings quotes with it, which nothing takes away again.
    have kept (text : Text) := count_le_count_replaceWord (by decide : rootPlace ≠ [])
      (by decide : '\x22' ∉ rootPlace) (Json.quote rootId) text
    have kept' := count_le_count_replaceWord (by decide : originPlace ≠ [])
      (by decide : '\x22' ∉ originPlace) (Json.quote targetOrigin) (Json.quote sourceTag)
    obtain ⟨inSource, inOrigin⟩ := eq_of_around_eq (kept'.trans (kept _)) (kept _) same
    have more {text : Text} (stands : rootPlace <:+: text) :=
      count_lt_count_replaceWord (by decide) (by decide : '\x22' ∉ rootPlace)
        (quote_mem_quote rootId) stands
    have noOrigin : ¬ originPlace <:+: Json.quote sourceTag := fun stands => by
      have grown := count_lt_count_replaceWord (by decide) (by decide : '\x22' ∉ originPlace)
        (quote_mem_quote targetOrigin) stands
      have after := kept (replaceWord originPlace (Json.quote targetOrigin) (Json.quote sourceTag))
      omega
    rw [replaceWord_eq_self _ noOrigin] at inSource
    exact ⟨noOrigin, fun stands => (more stands).ne inSource.symm,
      fun stands => (more stands).ne inOrigin.symm⟩
  · rintro ⟨noOrigin, noRoot, noRoot'⟩
    rw [replaceWord_eq_self _ noOrigin, replaceWord_eq_self _ noRoot, replaceWord_eq_self _ noRoot']

end SandboxPreview.Page
