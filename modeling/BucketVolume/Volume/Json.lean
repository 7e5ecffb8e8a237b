import BucketVolume.Json.Reader
import BucketVolume.Json.Value
import BucketVolume.Volume

/-!
# BucketVolume.Volume.Json — requests and volumes as JSON

Every field is written, in the order of its type; maps are written in the order of their keys. A
field that is not given is read as empty, except that a secret reference, once given, needs its name.
-/

namespace BucketVolume

/-- A map as an object. -/
def Annotations.toJson (m : Annotations) : Json :=
  .object (m.toList.map fun (key, text) => (key, .text text))

/-- Texts as an array. -/
def Json.ofTexts (texts : List String) : Json :=
  .array (texts.map .text)

open Json (Field readText readBool readTexts readAnnotations)

namespace ProvisionRequest

def toJson (r : ProvisionRequest) : Json :=
  .object [
    ("volumeName", .text r.volumeName),
    ("claimName", .text r.claimName),
    ("claimNamespace", .text r.claimNamespace),
    ("claimAnnotations", r.claimAnnotations.toJson),
    ("classParameters", r.classParameters.toJson),
    ("capacity", .text r.capacity),
    ("accessModes", .ofTexts r.accessModes),
    ("reclaimPolicy", .text r.reclaimPolicy)]

def recordType : Json.RecordType ProvisionRequest where
  name := "ProvisionRequest"
  empty := {}
  fields := [
    .of "volumeName" readText fun r v => { r with volumeName := v },
    .of "claimName" readText fun r v => { r with claimName := v },
    .of "claimNamespace" readText fun r v => { r with claimNamespace := v },
    .of "claimAnnotations" readAnnotations fun r v => { r with claimAnnotations := v },
    .of "classParameters" readAnnotations fun r v => { r with classParameters := v },
    .of "capacity" readText fun r v => { r with capacity := v },
    .of "accessModes" readTexts fun r v => { r with accessModes := v },
    .of "reclaimPolicy" readText fun r v => { r with reclaimPolicy := v }]

/-- Reads a request from its JSON text. -/
def ofJsonText (text : String) : Except Json.ReadProblem ProvisionRequest :=
  Json.readWholeText recordType.read text

end ProvisionRequest

namespace SecretReference

def toJson (r : SecretReference) : Json :=
  .object [("name", .text r.name)]

def recordType : Json.RecordType SecretReference where
  name := "SecretReference"
  empty := {}
  fields := [.of "name" readText fun r v => { r with name := v }]
  required := ["name"]

end SecretReference

namespace FlexVolumeSource

def toJson (s : FlexVolumeSource) : Json :=
  .object [
    ("driver", .text s.driver),
    ("fsType", .text s.fsType),
    ("secretRef", s.secretRef.toJson),
    ("readOnly", .bool s.readOnly),
    ("options", s.options.toJson)]

def recordType : Json.RecordType FlexVolumeSource where
  name := "FlexVolumeSource"
  empty := {}
  fields := [
    .of "driver" readText fun s v => { s with driver := v },
    .of "fsType" readText fun s v => { s with fsType := v },
    .of "secretRef" SecretReference.recordType.read fun s v => { s with secretRef := v },
    .of "readOnly" readBool fun s v => { s with readOnly := v },
    .of "options" readAnnotations fun s v => { s with options := v }]

end FlexVolumeSource

namespace PersistentVolume

def toJson (v : PersistentVolume) : Json :=
  .object [
    ("name", .text v.name),
    ("annotations", v.annotations.toJson),
    ("capacity", .text v.capacity),
    ("accessModes", .ofTexts v.accessModes),
    ("reclaimPolicy", .text v.reclaimPolicy),
    ("flexVolume", v.flexVolume.toJson)]

def recordType : Json.RecordType PersistentVolume where
  name := "PersistentVolume"
  empty := {}
  fields := [
    .of "name" readText fun r v => { r with name := v },
    .of "annotations" readAnnotations fun r v => { r with annotations := v },
    .of "capacity" readText fun r v => { r with capacity := v },
    .of "accessModes" readTexts fun r v => { r with accessModes := v },
    .of "reclaimPolicy" readText fun r v => { r with reclaimPolicy := v },
    .of "flexVolume" FlexVolumeSource.recordType.read fun r v => { r with flexVolume := v }]

/-- Reads a volume from its JSON text. -/
def ofJsonText (text : String) : Except Json.ReadProblem PersistentVolume :=
  Json.readWholeText recordType.read text

end PersistentVolume

/-- Reads a map of texts from its JSON text. -/
def Annotations.ofJsonText (text : String) : Except Json.ReadProblem Annotations :=
  Json.readWholeText readAnnotations text

end BucketVolume
