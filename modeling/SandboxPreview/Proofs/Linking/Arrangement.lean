/-
# The arrangement of linked modules

Modules are linked class by class, those of one class in the order in which they came. There is one
such list, which is the stable sort by class, so two sets of modules with the same classes are
linked alike. From each module linking takes its part of the script, its imports, and whether it
mounts an application; none of this depends on the modules before it. The head of the page is made
from the modules as they came, but it asks only whether some module holds a word.

## Main definitions

* `Arranges`: a list of all modules, class by class and in their own order;
* `part`, `imports`: what linking takes from a module.

## Main results

* `Arranges.eq_order`, `order_eq_mergeSort`: there is one such list, and it is the stable sort;
* `gather_eq`: what is gathered from all modules;
* `link_arranged`: bundles depend on the classes only, and what their scripts hold.
-/
import Mathlib.Data.List.Nodup
import SandboxPreview.Linking.Bundle
import SandboxPreview.Proofs.Text.Lines

namespace SandboxPreview.Linking

open Pattern

variable {artifacts others linked : List Artifact} {a : Artifact} {n : Nat}

/-! ## Class by class -/

/-- The list holds the artifacts class by class, and those of a class in their own order. -/
structure Arranges (artifacts linked : List Artifact) : Prop where
  perm : linked.Perm artifacts
  ascending : linked.Pairwise fun a b => priority a.name ≤ priority b.name
  stable : ∀ n, ofClass linked n = ofClass artifacts n

theorem priority_mem_classes (name : Text) : priority name ∈ classes := by
  rw [priority]
  split_ifs <;> decide

theorem mem_ofClass : a ∈ ofClass artifacts n ↔ a ∈ artifacts ∧ priority a.name = n := by
  simp [ofClass]

theorem ofClass_cons (a : Artifact) (artifacts : List Artifact) (n : Nat) :
    ofClass (a :: artifacts) n =
      if priority a.name = n then a :: ofClass artifacts n else ofClass artifacts n := by
  simp [ofClass, List.filter_cons]

/-- A list that goes up through the classes is in the order of linking. -/
theorem order_of_ascending
    (ascending : linked.Pairwise fun a b => priority a.name ≤ priority b.name) :
    order linked = linked := by
  induction linked with
  | nil => rfl
  | cons a linked ih =>
    obtain ⟨first, later⟩ := List.pairwise_cons.mp ascending
    have below (n : Nat) (less : n < priority a.name) : ofClass linked n = [] := by
      rw [List.eq_nil_iff_forall_not_mem]
      intro b member
      obtain ⟨inLinked, level⟩ := mem_ofClass.mp member
      have le := first b inLinked
      omega
    have here : order (a :: linked) = a :: order linked := by
      have known := priority_mem_classes a.name
      simp only [classes, List.mem_cons, List.not_mem_nil, or_false] at known
      simp only [order, classes, List.flatMap_cons, List.flatMap_nil, ofClass_cons]
      rcases known with level | level | level | level <;> simp [level, below]
    rw [here, ih later]

theorem order_congr (same : ∀ n ∈ classes, ofClass artifacts n = ofClass others n) :
    order artifacts = order others :=
  List.flatMap_congr same

/-- There is one arrangement. -/
theorem Arranges.eq_order (arranges : Arranges artifacts linked) : linked = order artifacts := by
  rw [← order_of_ascending arranges.ascending]
  exact order_congr fun n _ => arranges.stable n

/-! ## The stable sort -/

/-- The first artifact is not linked behind the second. -/
def notBehind (a b : Artifact) : Bool := decide (priority a.name ≤ priority b.name)

theorem notBehind_iff {a b : Artifact} :
    notBehind a b = true ↔ priority a.name ≤ priority b.name :=
  decide_eq_true_iff

theorem notBehind_trans (a b c : Artifact) (first : notBehind a b = true)
    (second : notBehind b c = true) : notBehind a c = true :=
  notBehind_iff.mpr (Nat.le_trans (notBehind_iff.mp first) (notBehind_iff.mp second))

theorem notBehind_total (a b : Artifact) : (notBehind a b || notBehind b a) = true := by
  rw [Bool.or_eq_true, notBehind_iff, notBehind_iff]
  exact Nat.le_total _ _

theorem arranges_mergeSort (artifacts : List Artifact) :
    Arranges artifacts (artifacts.mergeSort notBehind) where
  perm := List.mergeSort_perm artifacts notBehind
  ascending := (List.pairwise_mergeSort notBehind_trans notBehind_total artifacts).imp
    notBehind_iff.mp
  stable n := by
    have level : (ofClass artifacts n).Pairwise fun a b => notBehind a b = true := by
      rw [List.pairwise_iff_forall_sublist]
      intro a b pair
      obtain ⟨-, first⟩ := mem_ofClass.mp (pair.subset List.mem_cons_self)
      obtain ⟨-, second⟩ := mem_ofClass.mp (pair.subset (List.mem_cons_of_mem a List.mem_cons_self))
      exact notBehind_iff.mpr (by omega)
    -- The sort keeps every list that is sorted already, so it keeps each class.
    have kept := (List.sublist_mergeSort notBehind_trans notBehind_total level
      List.filter_sublist).filter fun a => priority a.name == n
    rw [ofClass, List.filter_filter] at kept
    simp only [Bool.and_self] at kept
    have sizes := ((List.mergeSort_perm artifacts notBehind).filter fun a =>
      priority a.name == n).length_eq
    exact (kept.eq_of_length sizes.symm).symm

theorem order_eq_mergeSort (artifacts : List Artifact) :
    order artifacts = artifacts.mergeSort notBehind :=
  (arranges_mergeSort artifacts).eq_order.symm

theorem arranges_order (artifacts : List Artifact) : Arranges artifacts (order artifacts) := by
  rw [order_eq_mergeSort]
  exact arranges_mergeSort artifacts

/-! ## What linking takes from a module -/

/-- A module without its imports and export words. -/
def stripped (source : Text) : Text :=
  stripExports (removeAll effectImport (removeAll fromImport source))

/-- The part of a module in the script, under a comment with its name. -/
def part (a : Artifact) : Text :=
  "// --- ".toList ++ a.name ++ " ---\n".toList ++ stripped a.content

/-- The imports that are taken out of a module, in the order in which they are found. -/
def imports (source : Text) : List Import :=
  findAll fromImport source ++ findAll effectImport (removeAll fromImport source)

theorem stripImports_eq (source : Text) (external : List Text) :
    stripImports source external =
      (removeAll effectImport (removeAll fromImport source),
        (imports source).foldl collect external) := by
  rw [imports, List.foldl_append]
  rfl

theorem Gathered.add_eq (g : Gathered) (a : Artifact) :
    g.add a = ⟨g.parts ++ [part a], (imports a.content).foldl collect g.external,
      g.entryPointFound || hasMountCall a.content⟩ := by
  rw [Gathered.add, stripImports_eq]
  rfl

theorem foldl_add (artifacts : List Artifact) (g : Gathered) :
    artifacts.foldl Gathered.add g =
      ⟨g.parts ++ artifacts.map part,
        (artifacts.flatMap fun a => imports a.content).foldl collect g.external,
        g.entryPointFound || artifacts.any fun a => hasMountCall a.content⟩ := by
  induction artifacts generalizing g with
  | nil => simp
  | cons a artifacts ih =>
    rw [List.foldl_cons, ih, Gathered.add_eq]
    simp [Bool.or_assoc]

theorem gather_eq (artifacts : List Artifact) :
    gather artifacts =
      ⟨(order artifacts).map part,
        ((order artifacts).flatMap fun a => imports a.content).foldl collect [],
        artifacts.any fun a => hasMountCall a.content⟩ := by
  rw [gather, foldl_add, (arranges_order artifacts).perm.any_eq]
  rfl

/-! ## Bundles -/

theorem nodup_collect {external : List Text} (distinct : external.Nodup) (i : Import) :
    (collect external i).Nodup := by
  rw [collect]
  split
  case isTrue => exact distinct
  case isFalse new =>
    have absent : i.statement ∉ external := fun member => new (by simp [member])
    rw [List.nodup_append]
    exact ⟨distinct, List.nodup_singleton _, by
      rintro s member t same rfl
      exact absent (List.mem_singleton.mp same ▸ member)⟩

theorem nodup_foldl_collect {external : List Text} (distinct : external.Nodup)
    (found : List Import) : (found.foldl collect external).Nodup := by
  induction found generalizing external with
  | nil => exact distinct
  | cons i found ih => exact ih (nodup_collect distinct i)

theorem nodup_external_gather (artifacts : List Artifact) :
    (gather artifacts).external.Nodup := by
  rw [gather_eq]
  exact nodup_foldl_collect List.nodup_nil _

theorem not_needsMount_of_entryPointFound {g : Gathered} (found : g.entryPointFound = true) :
    g.needsMount = false := by
  simp [Gathered.needsMount, found]

/-- The script stands in the body of the bundle. -/
theorem script_infix_body (artifacts : List Artifact) (rootId : Text) (includeStyles : Bool) :
    (gather artifacts).script rootId <:+: (link artifacts rootId includeStyles).body := by
  have inGuard : (gather artifacts).script rootId <:+:
      guarded ((gather artifacts).script rootId) rootId := by
    delta guarded
    simp only [List.append_assoc]
    exact (List.prefix_append _ _).isInfix.trans
      (List.suffix_append ("try \x7b\n" : Text) _).isInfix
  have inElement : guarded ((gather artifacts).script rootId) rootId <:+:
      (gather artifacts).element rootId := Text.infix_join_of_mem (by simp) _
  rw [link]
  exact (inGuard.trans inElement).trans (List.suffix_append _ _).isInfix

theorem part_infix_body (member : a ∈ artifacts) (rootId : Text) (includeStyles : Bool) :
    part a <:+: (link artifacts rootId includeStyles).body := by
  have inOrder : part a ∈ (gather artifacts).parts := by
    rw [gather_eq]
    exact List.mem_map_of_mem ((arranges_order artifacts).perm.mem_iff.mpr member)
  have inScript : part a <:+: (gather artifacts).script rootId :=
    (Text.infix_join_of_mem inOrder _).trans (List.prefix_append _ _).isInfix
  exact inScript.trans (script_infix_body artifacts rootId includeStyles)

/-- The head of the page does not depend on the order of the modules. -/
theorem headFragment_congr (same : artifacts.Perm others) (includeStyles : Bool) :
    headFragment artifacts includeStyles = headFragment others includeStyles := by
  have holds (needle : Text) : (artifacts.map Artifact.content).any (Text.contains needle) =
      (others.map Artifact.content).any (Text.contains needle) :=
    (same.map Artifact.content).any_eq
  simp only [headFragment, styleLinks, holds]

theorem link_congr (same : ∀ n ∈ classes, ofClass artifacts n = ofClass others n)
    (rootId : Text) (includeStyles : Bool) :
    link artifacts rootId includeStyles = link others rootId includeStyles := by
  have sameOrder := order_congr same
  have perm : artifacts.Perm others :=
    (arranges_order artifacts).perm.symm.trans (sameOrder ▸ (arranges_order others).perm)
  rw [link, link, gather, gather, sameOrder, headFragment_congr perm]

/-- Bundles depend only on the classes of modules, not on how these are mixed. The script has one
part for each module, class by class and in their own order within a class. No import is collected
twice, and no mounting call is added where an entry point was found. -/
theorem link_arranged (artifacts : List Artifact) (rootId : Text) (includeStyles : Bool) :
    let bundle := link artifacts rootId includeStyles
    (∀ others, (∀ n ∈ classes, ofClass artifacts n = ofClass others n) →
      bundle = link others rootId includeStyles) ∧
    (∃ linked, Arranges artifacts linked ∧
      bundle.body = "<script src=\"".toList ++ compilerAddress ++ "\"></script>\n".toList ++
        (⟨linked.map part, bundle.externalImports, bundle.entryPointFound⟩ : Gathered).element
          rootId) ∧
    bundle.externalImports.Nodup ∧
    ¬ (bundle.entryPointFound = true ∧ bundle.mountSynthesized = true) := by
  intro bundle
  have gathered : gather artifacts =
      ⟨(order artifacts).map part, bundle.externalImports, bundle.entryPointFound⟩ := by
    change gather artifacts =
      ⟨(order artifacts).map part, (gather artifacts).external, (gather artifacts).entryPointFound⟩
    rw [gather_eq]
  refine ⟨fun others same => link_congr same rootId includeStyles,
    ⟨order artifacts, arranges_order artifacts, ?_⟩, nodup_external_gather artifacts, ?_⟩
  · rw [← gathered]
    rfl
  · rintro ⟨found, added⟩
    exact absurd added (by simp [bundle, link, not_needsMount_of_entryPointFound found])

/-- The entry point and the application come first in one list and last in the other. -/
theorem link_arranged_of_shuffled :
    let index : Artifact := ⟨"src/index.jsx", "jsx", "import R from 'r';\nR.createRoot();"⟩
    let app : Artifact := ⟨"App.jsx", "jsx", "import R from 'r';\nexport default 1;"⟩
    let card : Artifact := ⟨"components/Card.jsx", "jsx", "export const c = 1;"⟩
    let first : Artifact := ⟨"b.js", "js", "import 'slick';"⟩
    let second : Artifact := ⟨"a.js", "js", "b();"⟩
    (∀ n ∈ classes, ofClass [index, first, app, second, card] n =
      ofClass [first, second, card, app, index] n) ∧
    link [index, first, app, second, card] "root" true =
      link [first, second, card, app, index] "root" true := by
  intro index app card first second
  have same : ∀ n ∈ classes, ofClass [index, first, app, second, card] n =
      ofClass [first, second, card, app, index] n := by decide +kernel
  exact ⟨same, (link_arranged [index, first, app, second, card] "root" true).1 _ same⟩

end SandboxPreview.Linking
