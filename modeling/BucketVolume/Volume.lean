import BucketVolume.Annotations

/-!
# BucketVolume.Volume — what hosts hand over and get back

A host asks for a volume with a `ProvisionRequest` and keeps the `PersistentVolume` it gets.
Capacity, access modes and reclaim policy go from one to the other untouched.
-/

namespace BucketVolume

/-- A claim to be served, and the storage class it names. -/
structure ProvisionRequest where
  volumeName : String := ""
  claimName : String := ""
  claimNamespace : String := ""
  claimAnnotations : Annotations := ∅
  classParameters : Annotations := ∅
  capacity : String := ""
  accessModes : List String := []
  reclaimPolicy : String := ""
deriving DecidableEq, Inhabited

/-- The secret that the mount driver is told of. -/
structure SecretReference where
  name : String := ""
deriving DecidableEq, Inhabited

/-- What the mount driver is told. -/
structure FlexVolumeSource where
  driver : String := ""
  fsType : String := ""
  secretRef : SecretReference := {}
  readOnly : Bool := false
  options : Annotations := ∅
deriving DecidableEq, Inhabited

/-- A provisioned volume. -/
structure PersistentVolume where
  name : String := ""
  annotations : Annotations := ∅
  capacity : String := ""
  accessModes : List String := []
  reclaimPolicy : String := ""
  flexVolume : FlexVolumeSource := {}
deriving DecidableEq, Inhabited

end BucketVolume
