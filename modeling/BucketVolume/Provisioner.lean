import BucketVolume.Credential.Fetch
import BucketVolume.Lifecycle
import BucketVolume.Plan
import BucketVolume.Settings
import BucketVolume.Teardown

/-!
# BucketVolume.Provisioner — serving claims and tearing volumes down

Each call runs its stages in order and stops at the first failure. A call opens at most one session,
and only if its bucket needs one.
-/

namespace BucketVolume

open Activity

/-- What a provisioner is set up with. -/
structure Provisioner where
  driverName : String
  clusterId : String
deriving DecidableEq, Repr

namespace Provisioner

/-- The provisioner that a process makes of its settings, in the environment of that moment. -/
def ofSettings (settings : Settings) (env : Environment) : Provisioner :=
  ⟨settings.driverName, settings.effectiveClusterId env⟩

/-- Asks a session for all that the plan needs of its bucket. -/
def readyBucket (subject : String) (plan : ProvisionPlan) : Activity StageFailure Unit := do
  emit (.claimStageStarted subject .credentialResolution)
  let credentials ← atStage subject .credentialResolution
    ((Credentials.fetch plan.secret plan.config.iamEndpoint).mapFailure .credential)
  emit (.lifecycleStarted subject plan.bucket.name)
  atStage subject .lifecycleExecution do
    Lifecycle.openSession plan.config.endpoint plan.config.region credentials
    Lifecycle.execute plan.bucket credentials

/-- Writes the volume of a plan whose bucket is ready. -/
def finish (provisioner : Provisioner) (request : ProvisionRequest) (plan : ProvisionPlan) :
    Activity StageFailure PersistentVolume := do
  emit (.claimStageStarted request.claimName .descriptorBuilding)
  emit (.volumeProvisioned provisioner.clusterId request.claimName plan.bucket.name)
  return plan.persistentVolume request provisioner.driverName

/-- Serves a claim. -/
def provision (provisioner : Provisioner) (request : ProvisionRequest) :
    Activity StageFailure PersistentVolume := do
  emit (.volumeRequested provisioner.clusterId request.claimName request.claimNamespace
    request.volumeName)
  let plan ← ProvisionPlan.prepare request
  if plan.bucket.requiresSession then
    readyBucket request.claimName plan
  finish provisioner request plan

/-- Deletes the bucket of a teardown target. -/
def deleteTarget (subject : String) (target : TeardownTarget) : Activity StageFailure Unit := do
  emit (.volumeStageStarted subject .credentialResolution)
  let credentials ← atStage subject .credentialResolution
    ((Credentials.fetch target.secret target.iamEndpoint).mapFailure .credential)
  emit (.volumeStageStarted subject .bucketDelete)
  atStage subject .bucketDelete do
    Lifecycle.openSession target.endpoint target.region credentials
    Lifecycle.delete target.bucket

/-- Tears a volume down. A bucket that is not the provisioner's own stays. -/
def delete (provisioner : Provisioner) (volume : PersistentVolume) :
    Activity StageFailure Unit := do
  emit (.removalRequested provisioner.clusterId volume.name)
  let descriptor ← volume.readDescriptor
  let target := descriptor.teardownTarget
  if target.autoDeleteBucket then
    deleteTarget volume.name target
  else
    emit (.bucketRetained volume.name target.bucket)

end Provisioner

end BucketVolume
