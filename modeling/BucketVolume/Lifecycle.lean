import BucketVolume.Bucket
import BucketVolume.Credential

/-!
# BucketVolume.Lifecycle — what is asked of a session, in which order

A bucket is created, then its access is checked, then its object path, each only where the plan asks
for it; the first failure ends the sequence. Nothing is tried twice and nothing is undone. Teardown
asks for one thing, the deletion of the bucket.
-/

namespace BucketVolume.Lifecycle

open Activity

/-- Opens a session. -/
def openSession (endpoint region : String) (credentials : Credentials) : Activity Failure Unit :=
  record (.call (.openSession endpoint region credentials.iamEndpoint))

/-- Creates a bucket. An API key without a service instance is refused before anything is asked. -/
def create (bucket : String) (credentials : Credentials) : Activity Failure Unit :=
  if credentials.lacksServiceInstance then
    throw (.validation .createWithoutServiceInstance)
  else do
    emit (.creatingBucket bucket)
    match ← ask (.createBucket bucket) (·.createBucket · bucket) with
    | .error source => throw (.backend .create bucket source)
    | .ok none => return ()
    | .ok (some note) => if note = "" then return () else emit (.createNote bucket note)

/-- Checks that the session reaches a bucket. -/
def checkAccess (bucket : String) : Activity Failure Unit := do
  emit (.checkingAccess bucket)
  match ← ask (.checkAccess bucket) (·.checkAccess · bucket) with
  | .error source => throw (.backend .checkAccess bucket source)
  | .ok () => return ()

/-- Checks that an object path exists inside a bucket. -/
def checkObjectPath (bucket objectPath : String) : Activity Failure Unit := do
  emit (.checkingObjectPath bucket objectPath)
  match ← ask (.checkObjectPath bucket objectPath) (·.checkObjectPath · bucket objectPath) with
  | .error source => throw (.backend .checkObjectPath bucket source)
  | .ok true => return ()
  | .ok false => throw (.validation (.objectPathNotFound objectPath bucket))

/-- Makes a bucket ready for its volume. -/
def execute (plan : BucketPlan) (credentials : Credentials) : Activity Failure Unit := do
  if plan.create then
    create plan.name credentials
  if plan.validateAccess then
    checkAccess plan.name
  match plan.objectPath with
  | none => return ()
  | some objectPath => checkObjectPath plan.name objectPath

/-- Deletes a bucket. -/
def delete (bucket : String) : Activity Failure Unit := do
  emit (.deletingBucket bucket)
  match ← ask (.deleteBucket bucket) (·.deleteBucket · bucket) with
  | .error source =>
    emit (.deleteFailed bucket source)
    throw (.backend .delete bucket source)
  | .ok () => return ()

end BucketVolume.Lifecycle
