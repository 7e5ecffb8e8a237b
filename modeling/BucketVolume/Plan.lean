import BucketVolume.Descriptor
import BucketVolume.MountOptions
import BucketVolume.Volume

/-!
# BucketVolume.Plan — all that is decided before anything is asked of the outside

`ProvisionPlan.prepare` reads, merges and checks a request and names its bucket; provisioning and the
dry run share it. The rest of the plan is computed from it: the steps a session would take, the
volume that would be returned, and a report of both.
-/

namespace BucketVolume

open Activity

/-- The decisions for one request. -/
structure ProvisionPlan where
  claim : Claim
  config : Configuration
  bucket : BucketPlan
  secret : SecretRef
deriving DecidableEq

/-- A step that a session would take. -/
inductive PlanStep where
  | createBucket
  | checkBucketAccess
  | checkObjectPath
deriving DecidableEq, Repr

def PlanStep.label : PlanStep → String
  | .createBucket => "create-bucket"
  | .checkBucketAccess => "check-bucket-access"
  | .checkObjectPath => "check-object-path"

/-- What a dry run tells. -/
structure PlanReport where
  claim : String
  bucket : String
  deleteOnRemoval : Bool
  secretName : String
  secretNamespace : String
  endpoint : String
  region : String
  steps : List PlanStep
  volume : PersistentVolume
deriving DecidableEq

namespace ProvisionPlan

/-- Reads the request's claim and storage class and merges them. -/
def resolveRequest (request : ProvisionRequest) : Except Failure (Claim × Configuration) := do
  let claim ← Claim.ofAnnotations request.claimAnnotations
  let cls ← StorageClass.ofParameters request.classParameters
  let config ← Configuration.resolve claim cls
  return (claim, config)

/-- Checks a claim and plans its bucket. -/
def planBucket (claim : Claim) : Activity Failure BucketPlan := do
  settle claim.checkPolicy
  BucketPlan.ofClaim claim

/-- Decides a request: its configuration, then its bucket. -/
def prepare (request : ProvisionRequest) : Activity StageFailure ProvisionPlan := do
  emit (.claimStageStarted request.claimName .resolving)
  let (claim, config) ←
    atStage request.claimName .resolving (settle (resolveRequest request))
  emit (.claimStageStarted request.claimName .validating)
  let bucket ← atStage request.claimName .validating (planBucket claim)
  return { claim, config, bucket, secret := ⟨claim.secretName, request.claimNamespace⟩ }

/-- What the volume will remember. -/
def descriptor (plan : ProvisionPlan) : VolumeDescriptor :=
  .ofPlan plan.claim plan.bucket plan.config plan.secret.namespaceName

/-- What the mount driver will be tuned with. -/
def mountOptions (plan : ProvisionPlan) : MountOptions :=
  .ofPlan plan.config plan.bucket

/-- The volume that the host gets once its bucket is ready. -/
def persistentVolume (plan : ProvisionPlan) (request : ProvisionRequest) (driverName : String) :
    PersistentVolume where
  name := request.volumeName
  annotations := plan.descriptor.toAnnotations
  capacity := request.capacity
  accessModes := request.accessModes
  reclaimPolicy := request.reclaimPolicy
  flexVolume := {
    driver := driverName
    secretRef := ⟨plan.secret.name⟩
    options := plan.mountOptions.toOptions }

/-- The steps that a session would take, in order. -/
def steps (plan : ProvisionPlan) : List PlanStep :=
  (if plan.bucket.create then [.createBucket] else []) ++
  (if plan.bucket.validateAccess then [.checkBucketAccess] else []) ++
  (if plan.bucket.objectPath.isSome then [.checkObjectPath] else [])

/-- The report of a dry run. -/
def report (plan : ProvisionPlan) (request : ProvisionRequest) (driverName : String) :
    PlanReport where
  claim := request.claimName
  bucket := plan.bucket.name
  deleteOnRemoval := plan.bucket.deleteOnRemoval
  secretName := plan.secret.name
  secretNamespace := plan.secret.namespaceName
  endpoint := plan.config.endpoint
  region := plan.config.region
  steps := plan.steps
  volume := plan.persistentVolume request driverName

end ProvisionPlan

end BucketVolume
