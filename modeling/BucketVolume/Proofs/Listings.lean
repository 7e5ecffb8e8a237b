import BucketVolume.Proofs.Json.Refusal
import BucketVolume.Proofs.VolumeJson

/-!
# BucketVolume.Proofs.Listings — requests and volumes are read however they are listed

Hosts keep volumes as JSON and may write them anew: with the members in another order, without the
empty ones, with members of their own, with maps in another order. None of this makes another volume of
it, on any of the three levels of a volume, and a request is no different. What does make a difference
is refused: a member given twice, and a secret reference that is there and has no name.

* `PersistentVolume.Refused`, `ProvisionRequest.Refused` — what is wrong with an object, on whichever
  level it is;
* `ReadAsListed.of_reader` — what follows for the texts of a type;
* `readAsListed_hostTypes` — the two types that hosts exchange.
-/

namespace BucketVolume

open Json

/-! ## Refused objects -/

/-- An object has two members under one of some names. -/
def Repeats (names : List String) (members : List (String × Json)) : Prop :=
  ∃ name ∈ names, 1 < (members.map Prod.fst).count name

namespace SecretReference

/-- An object that gives the name twice, or not at all. -/
inductive Refused : Json → Prop where
  | repeated {members : List (String × Json)} (h : Repeats ["name"] members) :
    Refused (.object members)
  | nameless {members : List (String × Json)} (h : "name" ∉ members.map Prod.fst) :
    Refused (.object members)

theorem alignedFields : AlignedFields recordType.fields := by
  simp only [AlignedFields, recordType, List.forall_mem_singleton]
  exact aligned_field aligned_text _ _

theorem Refused.rejects {json : Json} (h : Refused json) : Rejects recordType.read json := by
  cases h with
  | repeated h =>
    rcases h with ⟨name, hname, hcount⟩
    exact rejects_repeated alignedFields hname hcount
  | nameless h => exact rejects_missing alignedFields List.mem_cons_self h

end SecretReference

namespace FlexVolumeSource

/-- An object that gives a member twice, or a secret reference that is refused. -/
inductive Refused : Json → Prop where
  | repeated {members : List (String × Json)}
    (h : Repeats ["driver", "fsType", "secretRef", "readOnly", "options"] members) :
    Refused (.object members)
  | secretRef {members : List (String × Json)} {value : Json} (hmem : ("secretRef", value) ∈ members)
    (h : SecretReference.Refused value) : Refused (.object members)

theorem alignedFields : AlignedFields recordType.fields := by
  simp only [AlignedFields, recordType, List.forall_mem_cons]
  exact ⟨aligned_field aligned_text _ _, aligned_field aligned_text _ _,
    aligned_field (aligned_record SecretReference.alignedFields) _ _,
    aligned_field aligned_bool _ _, aligned_field aligned_annotations _ _, by simp⟩

theorem Refused.rejects {json : Json} (h : Refused json) : Rejects recordType.read json := by
  cases h with
  | repeated h =>
    rcases h with ⟨name, hname, hcount⟩
    exact rejects_repeated alignedFields hname hcount
  | secretRef hmem h =>
    have hfield := List.get_mem recordType.fields ⟨2, by decide⟩
    exact rejects_member alignedFields (by decide) hfield hmem fun _ => h.rejects.field _ _ _

end FlexVolumeSource

namespace PersistentVolume

/-- An object that gives a member twice, or a mount source that is refused. -/
inductive Refused : Json → Prop where
  | repeated {members : List (String × Json)}
    (h : Repeats ["name", "annotations", "capacity", "accessModes", "reclaimPolicy", "flexVolume"]
      members) : Refused (.object members)
  | flexVolume {members : List (String × Json)} {value : Json}
    (hmem : ("flexVolume", value) ∈ members) (h : FlexVolumeSource.Refused value) :
    Refused (.object members)

theorem alignedFields : AlignedFields recordType.fields := by
  simp only [AlignedFields, recordType, List.forall_mem_cons]
  exact ⟨aligned_field aligned_text _ _, aligned_field aligned_annotations _ _,
    aligned_field aligned_text _ _, aligned_field aligned_texts _ _,
    aligned_field aligned_text _ _,
    aligned_field (aligned_record FlexVolumeSource.alignedFields) _ _, by simp⟩

theorem Refused.rejects {json : Json} (h : Refused json) : Rejects recordType.read json := by
  cases h with
  | repeated h =>
    rcases h with ⟨name, hname, hcount⟩
    exact rejects_repeated alignedFields hname hcount
  | flexVolume hmem h =>
    have hfield := List.get_mem recordType.fields ⟨5, by decide⟩
    exact rejects_member alignedFields (by decide) hfield hmem fun _ => h.rejects.field _ _ _

end PersistentVolume

namespace ProvisionRequest

/-- An object that gives a member twice. -/
inductive Refused : Json → Prop where
  | repeated {members : List (String × Json)}
    (h : Repeats ["volumeName", "claimName", "claimNamespace", "claimAnnotations",
      "classParameters", "capacity", "accessModes", "reclaimPolicy"] members) :
    Refused (.object members)

theorem alignedFields : AlignedFields recordType.fields := by
  simp only [AlignedFields, recordType, List.forall_mem_cons]
  exact ⟨aligned_field aligned_text _ _, aligned_field aligned_text _ _,
    aligned_field aligned_text _ _, aligned_field aligned_annotations _ _,
    aligned_field aligned_annotations _ _, aligned_field aligned_text _ _,
    aligned_field aligned_texts _ _, aligned_field aligned_text _ _, by simp⟩

theorem Refused.rejects {json : Json} (h : Refused json) : Rejects recordType.read json := by
  cases h with
  | repeated h =>
    rcases h with ⟨name, hname, hcount⟩
    exact rejects_repeated alignedFields hname hcount

end ProvisionRequest

/-! ## Texts -/

/-- The texts of a type's values are read whatever the order and the blanks in them: a text that lists a
value is read as the value, so that writing it again gives one and the same text; and a text that is
refused is not read. -/
structure ReadAsListed {α : Type} (toJson : α → Json) (ofJsonText : String → Except ReadProblem α)
    (declared : α → List Declared) (Refused : Json → Prop) : Prop where
  written : ∀ a, Lists (declared a) (toJson a)
  read : ∀ a json text, Lists (declared a) json → Spelled json text → ofJsonText text = .ok a
  rewritten : ∀ a json text, Lists (declared a) json → Spelled json text →
    (ofJsonText text).map (fun b => (toJson b).compact) = .ok (toJson a).compact ∧
      (ofJsonText text).map (fun b => (toJson b).pretty) = .ok (toJson a).pretty
  refused : ∀ json text, Refused json → Spelled json text →
    ∃ problem, ofJsonText text = .error problem

theorem ReadAsListed.of_reader {α : Type} {toJson : α → Json} {reader : Reader α}
    {declared : α → List Declared} {Refused : Json → Prop}
    (hwritten : ∀ a, Lists (declared a) (toJson a))
    (hreads : ∀ a json, Lists (declared a) json → Reads reader json a)
    (hrejects : ∀ json, Refused json → Rejects reader json) :
    ReadAsListed toJson (readWholeText reader) declared Refused := by
  have hread : ∀ a json text, Lists (declared a) json → Spelled json text →
      readWholeText reader text = .ok a := fun a json text hlists htext =>
    readWholeText_spelled (hreads a json hlists) htext
  constructor
  case written => exact hwritten
  case read => exact hread
  case rewritten =>
    intro a json text hlists htext
    rw [hread a json text hlists htext]
    exact ⟨rfl, rfl⟩
  case refused => exact fun json text h htext => readWholeText_rejected (hrejects json h) htext

/-- Requests and volumes are read however they are listed. -/
theorem readAsListed_hostTypes :
    ReadAsListed ProvisionRequest.toJson ProvisionRequest.ofJsonText ProvisionRequest.declared
        ProvisionRequest.Refused ∧
      ReadAsListed PersistentVolume.toJson PersistentVolume.ofJsonText PersistentVolume.declared
        PersistentVolume.Refused :=
  ⟨.of_reader ProvisionRequest.lists_toJson (fun r _ => reads_listed r.follows)
      fun _ => ProvisionRequest.Refused.rejects,
    .of_reader PersistentVolume.lists_toJson (fun v _ => reads_listed v.follows)
      fun _ => PersistentVolume.Refused.rejects⟩

example : (PersistentVolume.ofJsonText (Json.object [("kept", .array [.null]),
      ("flexVolume", .object [("readOnly", .bool true)]), ("name", .text "pv")]).pretty).toOption =
    some { name := "pv", flexVolume := { readOnly := true } } := by
  decide +kernel

-- without the reference, or with an empty name in it, this is a volume
example : (PersistentVolume.ofJsonText (Json.object
      [("flexVolume", .object [("secretRef", .object [])])]).compact).toOption = none := by
  decide +kernel

end BucketVolume
