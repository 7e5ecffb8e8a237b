import BucketVolume.Descriptor
import BucketVolume.Volume

/-!
# BucketVolume.Teardown — what a volume's annotations say about its end

Teardown and its report read a volume in the same way, and both report that they started to.
-/

namespace BucketVolume

open Activity

/-- Reads the descriptor that a volume remembers. -/
def PersistentVolume.readDescriptor (volume : PersistentVolume) :
    Activity StageFailure VolumeDescriptor := do
  emit (.volumeStageStarted volume.name .parsingDescriptor)
  atStage volume.name .parsingDescriptor (settle (VolumeDescriptor.ofAnnotations volume.annotations))

/-- What teardown would do to a volume's bucket. -/
structure TeardownReport where
  volume : String
  bucket : String
  deleteBucket : Bool
  secretName : String
  secretNamespace : String
  endpoint : String
  region : String
  iamEndpoint : String
deriving DecidableEq

namespace TeardownReport

/-- The report of a target. -/
def ofTarget (volume : String) (target : TeardownTarget) : TeardownReport where
  volume := volume
  bucket := target.bucket
  deleteBucket := target.autoDeleteBucket
  secretName := target.secret.name
  secretNamespace := target.secret.namespaceName
  endpoint := target.endpoint
  region := target.region
  iamEndpoint := target.iamEndpoint

/-- The report of a volume. -/
def ofVolume (volume : PersistentVolume) : Activity StageFailure TeardownReport := do
  let descriptor ← volume.readDescriptor
  return ofTarget volume.name descriptor.teardownTarget

end TeardownReport

end BucketVolume
