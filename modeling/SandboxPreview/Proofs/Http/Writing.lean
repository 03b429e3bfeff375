/-
# Responses that can be written

JSON has no way to write a number that is infinite or none at all, so a response that held one could
not be sent. What the service tells of its stores and its previews is made of texts, truth values
and counts; and the metadata of a session can be written when each of its values can.

## Main results

* `isNonstandard_array`, `isNonstandard_object`: a value can be written when its parts can;
* `isNonstandard_metadata`: metadata can be written when its values can;
* `writable_respond`: whatever a store answers can be sent.
-/
import SandboxPreview.Http.Service
import SandboxPreview.Proofs.Keyed

namespace SandboxPreview

/-! ## Values -/

namespace Json

theorem anyNonstandard_eq (items : List Json) : anyNonstandard items = items.any isNonstandard := by
  induction items with
  | nil => rfl
  | cons item items ih => rw [anyNonstandard, ih, List.any_cons]

theorem memberNonstandard_eq (members : List (Text × Json)) :
    memberNonstandard members = members.any fun member => member.2.isNonstandard := by
  induction members with
  | nil => rfl
  | cons member members ih => rw [memberNonstandard, ih, List.any_cons]

@[simp] theorem isNonstandard_text (s : Text) : (text s).isNonstandard = false := by
  simp [isNonstandard]

@[simp] theorem isNonstandard_bool (b : Bool) : (bool b).isNonstandard = false := by
  simp [isNonstandard]

@[simp] theorem isNonstandard_ofNat (n : Nat) : (ofNat n).isNonstandard = false := by
  simp [ofNat, isNonstandard]

@[simp] theorem isNonstandard_array (items : List Json) :
    (array items).isNonstandard = items.any isNonstandard := by
  rw [isNonstandard, anyNonstandard_eq]

@[simp] theorem isNonstandard_object (members : List (Text × Json)) :
    (object members).isNonstandard = members.any fun member => member.2.isNonstandard := by
  rw [isNonstandard, memberNonstandard_eq]

@[simp] theorem isNonstandard_record (members : List (String × Json)) :
    (record members).isNonstandard = members.any fun member => member.2.isNonstandard := by
  rw [record, isNonstandard_object, List.any_map]
  rfl

@[simp] theorem isNonstandard_texts (items : List Text) : (texts items).isNonstandard = false := by
  simp [texts]

end Json

/-! ## Metadata -/

namespace Session

/-- All values of the metadata can be written. -/
def Metadata.Writable (m : Metadata) : Prop := ∀ entry ∈ m, entry.2.isNonstandard = false

theorem writable_ofTexts (members : Keyed Text) : (Metadata.ofTexts members).Writable := by
  intro entry member
  obtain ⟨named, -, rfl⟩ := List.mem_map.mp member
  exact Json.isNonstandard_text _

theorem isNonstandard_metadata {m : Metadata} (writable : m.Writable) :
    m.toJson.isNonstandard = false := by
  have written (entries : Metadata) (of : entries.Writable) (members : Keyed Json)
      (before : ∀ entry ∈ members, entry.2.isNonstandard = false) :
      ∀ entry ∈ entries.foldl (fun members e => Keyed.put members (keyName e.1) e.2) members,
        entry.2.isNonstandard = false := by
    induction entries generalizing members with
    | nil => exact before
    | cons e entries ih =>
      exact ih (fun entry member => of entry (List.mem_cons_of_mem e member)) _
        (Keyed.forall_put (P := fun value : Json => value.isNonstandard = false) before
          (of e List.mem_cons_self))
  rw [Metadata.toJson, Json.isNonstandard_object, List.any_eq_false]
  exact fun entry member => Bool.eq_false_iff.mp (written m writable [] (by simp) entry member)

end Session

/-! ## Responses -/

namespace Http

open Service (writable respond)

variable {value : Json}

@[simp] theorem writable_ok : writable (.ok value) = !value.isNonstandard := rfl

@[simp] theorem writable_created : writable (.created value) = !value.isNonstandard := rfl

@[simp] theorem writable_detail (status : Nat) (reason : Text) :
    writable (.detail status reason) = true := by
  simp [writable, Response.detail]

@[simp] theorem isNonstandard_artifactsJson (artifacts : List Artifact) :
    (artifactsJson artifacts).isNonstandard = false := by
  simp [artifactsJson, Artifact.toJson]

@[simp] theorem isNonstandard_previewJson (preview : Preview) :
    (previewJson preview).isNonstandard = false := by
  simp [previewJson]

@[simp] theorem isNonstandard_loadedJson (l : Loaded) : (loadedJson l).isNonstandard = false := by
  simp [loadedJson]

@[simp] theorem isNonstandard_summaryJson (s : Summary) : (summaryJson s).isNonstandard = false := by
  simp [summaryJson]

@[simp] theorem isNonstandard_eventJson (e : Console.Event) :
    (eventJson e).isNonstandard = false := by
  simp [eventJson]

theorem isNonstandard_infoJson {i : Session.Info} (metadata : i.metadata.Writable) :
    (infoJson i).isNonstandard = false := by
  simp [infoJson, Session.isNonstandard_metadata metadata]

/-- Whatever a store answers can be sent. -/
theorem writable_respond (answer : ProjectStore.Answer) : writable (respond answer) = true := by
  cases answer with
  | nothing => rfl
  | loaded | projects | event | events | count | artifacts | text | kind | preview | flag =>
    simp [respond, List.any_map]

end Http

end SandboxPreview
