import BucketVolume.Activity
import BucketVolume.Claim

/-!
# BucketVolume.Bucket — which bucket a claim gets, and what has to be done to it

`Claim.checkPolicy` refuses claims whose flags and names contradict each other; its rules are tried
in a fixed order. `BucketPlan.ofClaim` then names the bucket, with a fresh token only if the bucket
is to be deleted with its volume, and says what a session has to do. Where the token comes from makes no
difference: `BucketPlan.drawing` plans with any generator.
-/

namespace BucketVolume

/-- Refuses a claim whose flags, bucket and object path do not go together. -/
def Claim.checkPolicy (claim : Claim) : Except Failure Unit :=
  if claim.autoCreateBucket ∧ claim.objectPath ≠ "" then
    .error (.validation (.objectPathWithAutoCreate claim.objectPath))
  else if claim.autoDeleteBucket then
    if !claim.autoCreateBucket then
      .error (.validation .autoDeleteWithoutAutoCreate)
    else if claim.bucket ≠ "" then
      .error (.validation (.bucketWithAutoDelete claim.bucket))
    else .ok ()
  else if claim.bucket = "" then
    .error (.validation .bucketNotSpecified)
  else .ok ()

/-- The name of a bucket and what its volume needs of it. -/
structure BucketPlan where
  name : String
  objectPath : Option String
  create : Bool
  deleteOnRemoval : Bool
  validateAccess : Bool
deriving DecidableEq, Repr

namespace BucketPlan

/-- The plan of a claim, given the bucket's name. -/
def named (claim : Claim) (name : String) : BucketPlan where
  name := name
  objectPath := if claim.objectPath = "" then none else some claim.objectPath
  create := claim.autoCreateBucket
  deleteOnRemoval := claim.autoDeleteBucket
  validateAccess := claim.requiresAccessCheck

/-- The plan of a claim, with a way to draw tokens. A bucket that is deleted with its volume gets a
generated name, and only that one needs a token. -/
def drawing {m : Type → Type} [Monad m] [MonadExceptOf Failure m]
    (draw : m (Except TokenFailure String)) (claim : Claim) : m BucketPlan :=
  if claim.autoDeleteBucket then do
    match ← draw with
    | .error failure => throw (.nameGeneration failure)
    | .ok token => return named claim (generatedBucketName token)
  else return named claim claim.bucket

/-- The plan of a claim, with the tokens that are left. -/
def ofClaim (claim : Claim) : Activity Failure BucketPlan :=
  drawing Activity.drawToken claim

/-- Whether anything has to be asked of a session. -/
def requiresSession (plan : BucketPlan) : Bool :=
  plan.create || plan.validateAccess || plan.objectPath.isSome

end BucketPlan

end BucketVolume
