import BucketVolume.Proofs.Descriptor
import BucketVolume.Proofs.Json.Listing

/-!
# BucketVolume.Proofs.VolumeJson — requests and volumes as objects

What an object has to say of a request or a volume to list it, field by field, is written down once for
each type (`declared`), and once more which record the names seen so far tell (`upTo`). A field can
be left out where it is empty; only the name of a secret reference cannot. A map is listed by its
entries in any order, and of entries under one key the last one counts.

* `PersistentVolume.follows`, `ProvisionRequest.follows` — members are read into the record so far;
* `PersistentVolume.lists_toJson`, `ProvisionRequest.lists_toJson` — the writer lists its records;
* `PersistentVolume.ofJsonText_rendered`, `ProvisionRequest.ofJsonText_rendered` — so they are read
  back.
-/

namespace BucketVolume

open Json

/-! ## Maps -/

namespace Annotations

/-- An object lists a map if the last of its members under any key is the map's entry. -/
def ListedBy (m : Annotations) (json : Json) : Prop :=
  ∃ entries : List (String × String),
    json = .object (entries.map fun (key, text) => (key, .text text)) ∧
      ∀ key, m[key]? = entries.reverse.lookup key

/-- The entries of a map list it in any order. -/
theorem lookup_of_perm {m : Annotations} {entries : List (String × String)}
    (h : entries.Perm m.toList) (key : String) : m[key]? = entries.lookup key := by
  cases hlookup : entries.lookup key with
  | none =>
    rw [List.lookup_eq_none_iff] at hlookup
    cases hkey : m[key]? with
    | none => rfl
    | some text =>
      have hentry := h.mem_iff.mpr (Std.ExtTreeMap.mem_toList_iff_getElem?_eq_some.mpr hkey)
      simpa using hlookup _ hentry
  | some text =>
    rcases List.lookup_eq_some_iff.mp hlookup with ⟨before, after, hentries, -⟩
    apply Std.ExtTreeMap.mem_toList_iff_getElem?_eq_some.mp
    rw [← h.mem_iff, hentries]
    exact List.mem_append_right before List.mem_cons_self

theorem listedBy_of_perm {m : Annotations} {entries : List (String × String)}
    (h : entries.Perm m.toList) :
    m.ListedBy (.object (entries.map fun (key, text) => (key, .text text))) :=
  ⟨entries, rfl, lookup_of_perm (entries.reverse_perm.trans h)⟩

theorem listedBy_toJson (m : Annotations) : m.ListedBy m.toJson :=
  listedBy_of_perm (List.Perm.refl _)

/-- A map is read from every object that lists it. -/
theorem ListedBy.reads {m : Annotations} {json : Json} (h : m.ListedBy json) :
    Reads readAnnotations json m := by
  rcases h with ⟨entries, rfl, hentries⟩
  have hread := reads_entries entries
  have hmap : entries.foldl (fun m entry => m.insert entry.1 entry.2) ∅ = m := by
    apply Std.ExtTreeMap.ext_getElem?
    intro key
    have hlast := getElem?_foldl_insert id entries key
    rw [hentries key]
    simpa using hlast
  rwa [hmap] at hread

end Annotations

/-! ## Secret references -/

namespace SecretReference

/-- A reference that is there needs its name, even an empty one. -/
def declared (r : SecretReference) : List Declared :=
  [⟨"name", (· = .text r.name), False⟩]

/-- The reference as far as the names seen tell it. -/
def upTo (r : SecretReference) (seen : List String) : SecretReference where
  name := ifSeen seen "name" r.name ""

theorem follows (r : SecretReference) : Follows recordType r.declared r r.upTo where
  distinct := by simp [declared]
  start := rfl
  fields := .cons (.of (reads_text r.name).forall_eq (by simp [upTo, ifSeen])) .nil
  finish := by
    intro seen hseen
    simp only [declared, List.forall_mem_singleton] at hseen
    rw [upTo, ifSeen_eq fun hnot => (hseen hnot).elim]
  required := by simp [declared, recordType]

end SecretReference

/-! ## Mount sources -/

namespace FlexVolumeSource

/-- A source tells nothing by a field that is left out. -/
def declared (s : FlexVolumeSource) : List Declared := [
  ⟨"driver", (· = .text s.driver), s.driver = ""⟩,
  ⟨"fsType", (· = .text s.fsType), s.fsType = ""⟩,
  ⟨"secretRef", Lists s.secretRef.declared, s.secretRef = {}⟩,
  ⟨"readOnly", (· = .bool s.readOnly), s.readOnly = false⟩,
  ⟨"options", s.options.ListedBy, s.options = ∅⟩]

/-- The source as far as the names seen tell it. -/
def upTo (s : FlexVolumeSource) (seen : List String) : FlexVolumeSource where
  driver := ifSeen seen "driver" s.driver ""
  fsType := ifSeen seen "fsType" s.fsType ""
  secretRef := ifSeen seen "secretRef" s.secretRef {}
  readOnly := ifSeen seen "readOnly" s.readOnly false
  options := ifSeen seen "options" s.options ∅

theorem follows (s : FlexVolumeSource) : Follows recordType s.declared s s.upTo where
  distinct := by simp [declared]
  start := rfl
  fields :=
    .cons (.of (reads_text s.driver).forall_eq (by simp [upTo, ifSeen])) <|
    .cons (.of (reads_text s.fsType).forall_eq (by simp [upTo, ifSeen])) <|
    .cons (.of (fun _ => reads_listed s.secretRef.follows) (by simp [upTo, ifSeen])) <|
    .cons (.of (reads_bool s.readOnly).forall_eq (by simp [upTo, ifSeen])) <|
    .cons (.of (fun _ => Annotations.ListedBy.reads) (by simp [upTo, ifSeen])) .nil
  finish := by
    intro seen hseen
    simp only [declared, List.forall_mem_cons] at hseen
    rcases hseen with ⟨hdriver, hfsType, hsecretRef, hreadOnly, hoptions, -⟩
    rw [upTo, ifSeen_eq hdriver, ifSeen_eq hfsType, ifSeen_eq hsecretRef, ifSeen_eq hreadOnly,
      ifSeen_eq hoptions]
  required := by simp [recordType]

end FlexVolumeSource

/-! ## Volumes -/

namespace PersistentVolume

/-- A volume tells nothing by a field that is left out. -/
def declared (v : PersistentVolume) : List Declared := [
  ⟨"name", (· = .text v.name), v.name = ""⟩,
  ⟨"annotations", v.annotations.ListedBy, v.annotations = ∅⟩,
  ⟨"capacity", (· = .text v.capacity), v.capacity = ""⟩,
  ⟨"accessModes", (· = .ofTexts v.accessModes), v.accessModes = []⟩,
  ⟨"reclaimPolicy", (· = .text v.reclaimPolicy), v.reclaimPolicy = ""⟩,
  ⟨"flexVolume", Lists v.flexVolume.declared, v.flexVolume = {}⟩]

/-- The volume as far as the names seen tell it. -/
def upTo (v : PersistentVolume) (seen : List String) : PersistentVolume where
  name := ifSeen seen "name" v.name ""
  annotations := ifSeen seen "annotations" v.annotations ∅
  capacity := ifSeen seen "capacity" v.capacity ""
  accessModes := ifSeen seen "accessModes" v.accessModes []
  reclaimPolicy := ifSeen seen "reclaimPolicy" v.reclaimPolicy ""
  flexVolume := ifSeen seen "flexVolume" v.flexVolume {}

theorem follows (v : PersistentVolume) : Follows recordType v.declared v v.upTo where
  distinct := by simp [declared]
  start := rfl
  fields :=
    .cons (.of (reads_text v.name).forall_eq (by simp [upTo, ifSeen])) <|
    .cons (.of (fun _ => Annotations.ListedBy.reads) (by simp [upTo, ifSeen])) <|
    .cons (.of (reads_text v.capacity).forall_eq (by simp [upTo, ifSeen])) <|
    .cons (.of (reads_texts v.accessModes).forall_eq (by simp [upTo, ifSeen])) <|
    .cons (.of (reads_text v.reclaimPolicy).forall_eq (by simp [upTo, ifSeen])) <|
    .cons (.of (fun _ => reads_listed v.flexVolume.follows) (by simp [upTo, ifSeen])) .nil
  finish := by
    intro seen hseen
    simp only [declared, List.forall_mem_cons] at hseen
    rcases hseen with ⟨hname, hannotations, hcapacity, haccessModes, hreclaimPolicy, hflexVolume, -⟩
    rw [upTo, ifSeen_eq hname, ifSeen_eq hannotations, ifSeen_eq hcapacity, ifSeen_eq haccessModes,
      ifSeen_eq hreclaimPolicy, ifSeen_eq hflexVolume]
  required := by simp [recordType]

end PersistentVolume

/-! ## Requests -/

namespace ProvisionRequest

/-- A request tells nothing by a field that is left out. -/
def declared (r : ProvisionRequest) : List Declared := [
  ⟨"volumeName", (· = .text r.volumeName), r.volumeName = ""⟩,
  ⟨"claimName", (· = .text r.claimName), r.claimName = ""⟩,
  ⟨"claimNamespace", (· = .text r.claimNamespace), r.claimNamespace = ""⟩,
  ⟨"claimAnnotations", r.claimAnnotations.ListedBy, r.claimAnnotations = ∅⟩,
  ⟨"classParameters", r.classParameters.ListedBy, r.classParameters = ∅⟩,
  ⟨"capacity", (· = .text r.capacity), r.capacity = ""⟩,
  ⟨"accessModes", (· = .ofTexts r.accessModes), r.accessModes = []⟩,
  ⟨"reclaimPolicy", (· = .text r.reclaimPolicy), r.reclaimPolicy = ""⟩]

/-- The request as far as the names seen tell it. -/
def upTo (r : ProvisionRequest) (seen : List String) : ProvisionRequest where
  volumeName := ifSeen seen "volumeName" r.volumeName ""
  claimName := ifSeen seen "claimName" r.claimName ""
  claimNamespace := ifSeen seen "claimNamespace" r.claimNamespace ""
  claimAnnotations := ifSeen seen "claimAnnotations" r.claimAnnotations ∅
  classParameters := ifSeen seen "classParameters" r.classParameters ∅
  capacity := ifSeen seen "capacity" r.capacity ""
  accessModes := ifSeen seen "accessModes" r.accessModes []
  reclaimPolicy := ifSeen seen "reclaimPolicy" r.reclaimPolicy ""

theorem follows (r : ProvisionRequest) : Follows recordType r.declared r r.upTo where
  distinct := by simp [declared]
  start := rfl
  fields :=
    .cons (.of (reads_text r.volumeName).forall_eq (by simp [upTo, ifSeen])) <|
    .cons (.of (reads_text r.claimName).forall_eq (by simp [upTo, ifSeen])) <|
    .cons (.of (reads_text r.claimNamespace).forall_eq (by simp [upTo, ifSeen])) <|
    .cons (.of (fun _ => Annotations.ListedBy.reads) (by simp [upTo, ifSeen])) <|
    .cons (.of (fun _ => Annotations.ListedBy.reads) (by simp [upTo, ifSeen])) <|
    .cons (.of (reads_text r.capacity).forall_eq (by simp [upTo, ifSeen])) <|
    .cons (.of (reads_texts r.accessModes).forall_eq (by simp [upTo, ifSeen])) <|
    .cons (.of (reads_text r.reclaimPolicy).forall_eq (by simp [upTo, ifSeen])) .nil
  finish := by
    intro seen hseen
    simp only [declared, List.forall_mem_cons] at hseen
    rcases hseen with ⟨hvolumeName, hclaimName, hclaimNamespace, hclaimAnnotations,
      hclassParameters, hcapacity, haccessModes, hreclaimPolicy, -⟩
    rw [upTo, ifSeen_eq hvolumeName, ifSeen_eq hclaimName, ifSeen_eq hclaimNamespace,
      ifSeen_eq hclaimAnnotations, ifSeen_eq hclassParameters, ifSeen_eq hcapacity,
      ifSeen_eq haccessModes, ifSeen_eq hreclaimPolicy]
  required := by simp [recordType]

end ProvisionRequest

/-! ## Written objects -/

theorem SecretReference.lists_toJson (r : SecretReference) : Lists r.declared r.toJson :=
  Written.lists (.kept rfl .nil)

theorem FlexVolumeSource.lists_toJson (s : FlexVolumeSource) : Lists s.declared s.toJson :=
  Written.lists <| .kept rfl <| .kept rfl <| .kept s.secretRef.lists_toJson <| .kept rfl <|
    .kept s.options.listedBy_toJson .nil

theorem PersistentVolume.lists_toJson (v : PersistentVolume) : Lists v.declared v.toJson :=
  Written.lists <| .kept rfl <| .kept v.annotations.listedBy_toJson <| .kept rfl <| .kept rfl <|
    .kept rfl <| .kept v.flexVolume.lists_toJson .nil

theorem ProvisionRequest.lists_toJson (r : ProvisionRequest) : Lists r.declared r.toJson :=
  Written.lists <| .kept rfl <| .kept rfl <| .kept rfl <|
    .kept r.claimAnnotations.listedBy_toJson <| .kept r.classParameters.listedBy_toJson <|
    .kept rfl <| .kept rfl <| .kept rfl .nil

/-! ## Written texts -/

theorem lawfulMembers_map_text (entries : List (String × String)) :
    LawfulMembers (entries.map fun (key, s) => (key, .text s)) := by
  induction entries with
  | nil => exact trivial
  | cons entry rest ih => exact ⟨trivial, ih⟩

theorem Annotations.lawful_toJson (m : Annotations) : Lawful m.toJson :=
  lawfulMembers_map_text m.toList

/-- A written map is read back. -/
theorem Annotations.ofJsonText_rendered {m : Annotations} {text : String}
    (h : Rendered m.toJson text) : Annotations.ofJsonText text = .ok m :=
  readWholeText_rendered m.listedBy_toJson.reads m.lawful_toJson h

theorem Json.lawful_ofTexts (texts : List String) : Lawful (.ofTexts texts) := by
  rw [ofTexts, Lawful]
  induction texts with
  | nil => exact trivial
  | cons text rest ih => exact ⟨trivial, ih⟩

theorem FlexVolumeSource.lawful_toJson (s : FlexVolumeSource) : Lawful s.toJson :=
  ⟨trivial, trivial, ⟨trivial, trivial⟩, trivial, s.options.lawful_toJson, trivial⟩

theorem PersistentVolume.lawful_toJson (v : PersistentVolume) : Lawful v.toJson :=
  ⟨trivial, v.annotations.lawful_toJson, trivial, lawful_ofTexts v.accessModes, trivial,
    v.flexVolume.lawful_toJson, trivial⟩

theorem ProvisionRequest.lawful_toJson (r : ProvisionRequest) : Lawful r.toJson :=
  ⟨trivial, trivial, trivial, r.claimAnnotations.lawful_toJson, r.classParameters.lawful_toJson,
    trivial, lawful_ofTexts r.accessModes, trivial, trivial⟩

/-- Every spelling of a written volume is read as the volume. -/
theorem PersistentVolume.reads_toJson (v : PersistentVolume) :
    Reads PersistentVolume.recordType.read v.toJson v :=
  reads_listed v.follows v.lists_toJson

theorem PersistentVolume.ofJsonText_rendered {v : PersistentVolume} {text : String}
    (h : Rendered v.toJson text) : PersistentVolume.ofJsonText text = .ok v :=
  readWholeText_rendered v.reads_toJson v.lawful_toJson h

theorem ProvisionRequest.ofJsonText_rendered {r : ProvisionRequest} {text : String}
    (h : Rendered r.toJson text) : ProvisionRequest.ofJsonText text = .ok r :=
  readWholeText_rendered (reads_listed r.follows r.lists_toJson) r.lawful_toJson h

end BucketVolume
