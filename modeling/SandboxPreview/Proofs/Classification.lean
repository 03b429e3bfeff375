/-
# Kinds by what is present

The kind of a set of artifacts is decided by probes in a fixed order of precedence. Each probe asks
whether some artifact of a sort is there, so neither the order of the artifacts nor repetitions
count, whatever the tables hold and however they overlap. A script with a word of a framework
settles the kind for good. A native set stays native until something comes that a browser shows.

## Main definitions

* `Shown`: the artifacts that a browser shows, by names and extensions;
* `Signed`: the scripts that give a framework away;
* `OfKind`: what makes a set one of a kind, told by what is present.

## Main results

* `isNative_iff`, `isFramework_iff`, `isSome_findTemplate_iff`: what each probe asks;
* `classify_eq_iff`: the kind of a set by what is present;
* `classify_by_presence`: the laws of classification.
-/
import SandboxPreview.Proofs.Page.Assembly

namespace SandboxPreview.Classifier

variable {c : Classifier} {xs ys : List Artifact} {a : Artifact}

/-! ## What is present -/

/-- A browser shows the artifact: it is the preview document, or markup, a script or a style by its
extension. -/
def Shown (a : Artifact) : Prop :=
  Text.lower a.name = previewDocument ∨ a.extension ∈ markupExtensions ∨
    a.extension ∈ scriptExtensions ∨ a.extension ∈ styleExtensions

instance : Decidable (Shown a) :=
  inferInstanceAs (Decidable (_ ∨ _ ∨ _ ∨ _))

/-- The artifact is a script that holds a word of a framework. -/
def Signed (c : Classifier) (a : Artifact) : Prop :=
  a.extension ∈ scriptExtensions ∧ ∃ needle ∈ c.frameworkNeedles, needle <:+: a.content

/-- There is a program and nothing that a browser shows. -/
def Native (c : Classifier) (xs : List Artifact) : Prop :=
  (∀ a ∈ xs, ¬ Shown a) ∧ ∃ a ∈ xs, a.extension ∈ c.nativeExtensions

/-- There is a script that gives a framework away. -/
def Framework (c : Classifier) (xs : List Artifact) : Prop := ∃ a ∈ xs, c.Signed a

/-- There is a template. -/
def Templated (c : Classifier) (xs : List Artifact) : Prop :=
  ∃ a ∈ xs, a.extension ∈ c.templatingExtensions

/-- What makes a set one of a kind. No set is both native and of a framework. -/
def OfKind (c : Classifier) (xs : List Artifact) : ProjectKind → Prop
  | .native => c.Native xs
  | .framework => c.Framework xs
  | .templating => ¬ c.Native xs ∧ ¬ c.Framework xs ∧ c.Templated xs
  | .plain => ¬ c.Native xs ∧ ¬ c.Framework xs ∧ ¬ c.Templated xs

/-! ## What the probes ask -/

theorem not_shown_iff :
    ¬ Shown a ↔ isPreview a = false ∧ isMarkup a = false ∧ isScript a = false ∧
      isStyle a = false := by
  by_cases preview : Text.lower a.name = previewDocument
  · simp [Shown, isPreview, preview]
  · simp [Shown, isPreview, isMarkup, isScript, isStyle, preview]

theorem Signed.shown (signed : c.Signed a) : Shown a :=
  Or.inr (Or.inr (Or.inl signed.1))

/-- The four probes for what a browser shows find nothing. -/
theorem none_shown_iff :
    (∀ a ∈ xs, ¬ Shown a) ↔
      findPreview xs = none ∧ findMarkup xs = none ∧ scripts xs = [] ∧ styles xs = [] := by
  simp only [not_shown_iff, findPreview, findMarkup, scripts, styles, List.find?_eq_none,
    List.filter_eq_nil_iff, Bool.not_eq_true, forall_and]

theorem isNative_iff : c.isNative xs = true ↔ c.Native xs := by
  simp only [isNative, findNative, Native, Bool.and_eq_true, Option.isNone_iff_eq_none,
    List.isEmpty_iff, List.find?_isSome, List.elem_iff, none_shown_iff, and_assoc]

theorem isFramework_iff : c.isFramework xs = true ↔ c.Framework xs := by
  simp only [isFramework, scripts, isScript, Framework, Signed, List.any_eq_true, List.mem_filter,
    List.elem_iff, Text.contains_iff, and_assoc]

theorem isSome_findTemplate_iff : (c.findTemplate xs).isSome = true ↔ c.Templated xs := by
  simp only [findTemplate, Templated, List.find?_isSome, List.elem_iff]

/-! ## Kinds -/

/-- What gives a framework away keeps a set from being native. -/
theorem Framework.not_native (framework : c.Framework xs) : ¬ c.Native xs := by
  obtain ⟨a, member, signed⟩ := framework
  intro native
  exact native.1 a member signed.shown

theorem classify_eq_iff {kind : ProjectKind} : c.classify xs = kind ↔ c.OfKind xs kind := by
  -- The probes in their order, each of which leaves one kind or goes on to the next.
  by_cases native : c.Native xs
  · have notFramework : ¬ c.Framework xs := fun framework => framework.not_native native
    rw [classify, if_pos (isNative_iff.mpr native)]
    cases kind <;> simp [OfKind, native, notFramework]
  · rw [classify, if_neg (isNative_iff.not.mpr native)]
    by_cases framework : c.Framework xs
    · rw [if_pos (isFramework_iff.mpr framework)]
      cases kind <;> simp [OfKind, native, framework]
    · rw [if_neg (isFramework_iff.not.mpr framework)]
      by_cases templated : c.Templated xs
      · rw [if_pos (isSome_findTemplate_iff.mpr templated)]
        cases kind <;> simp [OfKind, native, framework, templated]
      · rw [if_neg (isSome_findTemplate_iff.not.mpr templated)]
        cases kind <;> simp [OfKind, native, framework, templated]

theorem classify_eq_native_iff : c.classify xs = .native ↔ c.Native xs := classify_eq_iff

theorem classify_eq_framework_iff : c.classify xs = .framework ↔ c.Framework xs := classify_eq_iff

theorem ofKind_congr (same : ∀ a, a ∈ xs ↔ a ∈ ys) (kind : ProjectKind) :
    c.OfKind xs kind ↔ c.OfKind ys kind := by
  cases kind <;> simp only [OfKind, Native, Framework, Templated, same]

/-- Sets with the same artifacts are of one kind. -/
theorem classify_congr (same : ∀ a, a ∈ xs ↔ a ∈ ys) : c.classify xs = c.classify ys := by
  rw [classify_eq_iff, ofKind_congr same, ← classify_eq_iff]

theorem classify_append_of_framework (kind : c.classify xs = .framework) (ys : List Artifact) :
    c.classify (xs ++ ys) = .framework := by
  obtain ⟨a, member, signed⟩ := classify_eq_framework_iff.mp kind
  exact classify_eq_framework_iff.mpr ⟨a, List.mem_append_left ys member, signed⟩

/-- What joins a native set leaves it native unless a browser shows it. -/
theorem classify_append_eq_native_iff (kind : c.classify xs = .native) :
    c.classify (xs ++ ys) = .native ↔ ∀ a ∈ ys, ¬ Shown a := by
  obtain ⟨hidden, program, member, written⟩ := classify_eq_native_iff.mp kind
  rw [classify_eq_native_iff]
  constructor
  · rintro ⟨all, -⟩ a inOther
    exact all a (List.mem_append_right xs inOther)
  · intro others
    refine ⟨?_, program, List.mem_append_left ys member, written⟩
    intro a inBoth
    rcases List.mem_append.mp inBoth with here | there
    · exact hidden a here
    · exact others a there

/-- The kind depends on which artifacts are present and on nothing else. A framework stays one
whatever comes along, and a native set stays native exactly when nothing comes along that a browser
shows. A native set has a program and none of the rest, so its document imitates the program. -/
theorem classify_by_presence (c : Classifier) (xs ys : List Artifact) :
    (∀ kind, c.classify xs = kind ↔ c.OfKind xs kind) ∧
    ((∀ a, a ∈ xs ↔ a ∈ ys) → c.classify xs = c.classify ys) ∧
    (c.classify xs = .framework → c.classify (xs ++ ys) = .framework) ∧
    (c.classify xs = .native →
      (c.classify (xs ++ ys) = .native ↔ ∀ a ∈ ys, ¬ Shown a)) ∧
    (c.classify xs = .native → ∃ program ∈ xs, c.findNative xs = some program ∧
      findPreview xs = none ∧ findMarkup xs = none ∧ scripts xs = [] ∧ styles xs = [] ∧
      ∀ o, Page.assemble xs o c = Page.nativeDocument program o) := by
  refine ⟨fun kind => classify_eq_iff, classify_congr,
    fun kind => classify_append_of_framework kind ys, classify_append_eq_native_iff, ?_⟩
  intro kind
  obtain ⟨program, found, document⟩ := Page.assemble_of_native kind
  obtain ⟨hidden, -⟩ := classify_eq_native_iff.mp kind
  obtain ⟨noPreview, noMarkup, noScripts, noStyles⟩ := none_shown_iff.mp hidden
  exact ⟨program, List.mem_of_find?_eq_some found, found, noPreview, noMarkup, noScripts, noStyles,
    document⟩

/-- Tables that overlap: a program is a template as well, and a script is a program as well. -/
theorem classify_by_presence_in_overlapping_tables :
    let c : Classifier := ⟨["py", "js", "liquid"], ["import"], ["liquid", "py"]⟩
    let program : Artifact := ⟨"src/Main.PY", "py", "import os"⟩
    let theme : Artifact := ⟨"page.liquid", "liquid", ""⟩
    let script : Artifact := ⟨"app.js", "js", "import x"⟩
    (∀ a, a ∈ [program, theme] ↔ a ∈ [theme, program, theme]) ∧
      c.classify [program, theme] = c.classify [theme, program, theme] ∧
      c.classify [program] = .native ∧ c.classify ([program] ++ [theme]) = .native ∧
      c.classify ([program] ++ [script]) ≠ .native ∧
      c.classify [script] = .framework ∧ c.classify ([script] ++ [program]) = .framework ∧
      ∀ o, Page.assemble [program] o c = Page.nativeDocument program o := by
  intro c program theme script
  have same : ∀ a, a ∈ [program, theme] ↔ a ∈ [theme, program, theme] := by
    intro a
    simp [or_comm]
  have native : c.classify [program] = .native := by decide +kernel
  have framework : c.classify [script] = .framework := by decide +kernel
  obtain ⟨-, alike, -⟩ := classify_by_presence c [program, theme] [theme, program, theme]
  obtain ⟨-, -, -, joined, alone⟩ := classify_by_presence c [program] [theme]
  obtain ⟨-, -, -, lost, -⟩ := classify_by_presence c [program] [script]
  obtain ⟨-, -, kept, -⟩ := classify_by_presence c [script] [program]
  obtain ⟨_, member, -, -, -, -, -, document⟩ := alone native
  obtain rfl := List.mem_singleton.mp member
  refine ⟨same, alike same, native, (joined native).mpr (by decide +kernel), ?_, framework,
    kept framework, document⟩
  intro still
  exact (lost native).mp still script (by simp) (by decide +kernel)

end SandboxPreview.Classifier
