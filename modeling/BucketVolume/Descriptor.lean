import BucketVolume.Bucket
import BucketVolume.Configuration

/-!
# BucketVolume.Descriptor — what a volume remembers for its teardown

The descriptor is kept in the volume's annotations and is all that teardown gets. It is the claim
with the bucket, endpoint, region and IAM endpoint that were really used, and the namespace of the
credential secret.
-/

namespace BucketVolume

/-- The state of a claim that its volume remembers. -/
structure VolumeDescriptor where
  claim : Claim
  secretNamespace : String
deriving DecidableEq, Inhabited

/-- What teardown needs to know. -/
structure TeardownTarget where
  secret : SecretRef
  bucket : String
  autoDeleteBucket : Bool
  endpoint : String
  region : String
  iamEndpoint : String
deriving DecidableEq

namespace VolumeDescriptor

/-- The descriptor of a planned volume. -/
def ofPlan (claim : Claim) (bucket : BucketPlan) (config : Configuration)
    (secretNamespace : String) : VolumeDescriptor where
  claim := { claim with
    bucket := bucket.name
    endpoint := config.endpoint
    region := config.region
    iamEndpoint := config.iamEndpoint }
  secretNamespace := secretNamespace

/-- Writes the descriptor; the namespace of the secret is always there. -/
def toAnnotations (descriptor : VolumeDescriptor) : Annotations :=
  descriptor.claim.toAnnotations.insert Key.secretNamespace descriptor.secretNamespace

/-- Reads a descriptor. Only a malformed flag stands in the way. -/
def ofAnnotations (m : Annotations) : Except Failure VolumeDescriptor :=
  match Claim.ofAnnotations m with
  | .error failure => .error (.marshal failure.message)
  | .ok claim => .ok ⟨claim, m.text Key.secretNamespace⟩

/-- What teardown takes from the descriptor. -/
def teardownTarget (descriptor : VolumeDescriptor) : TeardownTarget where
  secret := ⟨descriptor.claim.secretName, descriptor.secretNamespace⟩
  bucket := descriptor.claim.bucket
  autoDeleteBucket := descriptor.claim.autoDeleteBucket
  endpoint := descriptor.claim.endpoint
  region := descriptor.claim.region
  iamEndpoint := descriptor.claim.iamEndpoint

end VolumeDescriptor

end BucketVolume
