import BucketVolume.Annotations
import BucketVolume.Failure
import BucketVolume.Flag
import BucketVolume.Knob

/-!
# BucketVolume.Claim — what a volume claim asks for

A claim is read from its annotations and can be written back. Texts are taken as they are, and an
empty text means that nothing is said; only the two flags can be malformed. Numeric overrides stay
texts until they are merged with the storage class.
-/

namespace BucketVolume

/-! ## Typed reading of one entry -/

namespace Annotations

/-- The truth value of a key, false if it says nothing. -/
def flag (m : Annotations) (key : String) : Except Failure Bool :=
  let word := m.text key
  if word = "" then .ok false
  else match Flag.parse? word with
    | some b => .ok b
    | none => .error (.configParse key (.flag word))

end Annotations

/-- Reads the integer text of a key. -/
def parseKeyedInt64 (key text : String) : Except Failure Int64 :=
  (Decimal.parseInt64 text).mapError fun problem => .configParse key (.integer problem)

/-! ## Claims -/

/-- The declared wishes of a volume claim. -/
structure Claim where
  autoCreateBucket : Bool := false
  autoDeleteBucket : Bool := false
  bucket : String := ""
  objectPath : String := ""
  endpoint : String := ""
  region : String := ""
  secretName : String := ""
  knobs : Knobs String := .ofFn fun _ => ""
  statCacheExpireSeconds : String := ""
  iamEndpoint : String := ""
  validateBucket : String := ""
deriving DecidableEq, Inhabited

namespace Claim

/-- The word that turns the access check off. -/
def validateBucketDisabled : String := "no"

/-- Reads a claim; entries under other keys are ignored. -/
def ofAnnotations (m : Annotations) : Except Failure Claim := do
  let autoCreateBucket ← m.flag Key.autoCreateBucket
  let autoDeleteBucket ← m.flag Key.autoDeleteBucket
  return {
    autoCreateBucket, autoDeleteBucket
    bucket := m.text Key.bucket
    objectPath := m.text Key.objectPath
    endpoint := m.text Key.endpoint
    region := m.text Key.region
    secretName := m.text Key.secretName
    knobs := .ofFn fun knob => m.text knob.key
    statCacheExpireSeconds := m.text Key.statCacheExpireSeconds
    iamEndpoint := m.text Key.iamEndpoint
    validateBucket := m.text Key.validateBucket }

/-- The entries that are written only when their texts are not empty. -/
def optionalEntries (claim : Claim) : List (String × String) :=
  [ (Key.objectPath, claim.objectPath),
    (Key.endpoint, claim.endpoint),
    (Key.region, claim.region) ] ++
  Knob.all.map (fun knob => (knob.key, claim.knobs.get knob)) ++
  [ (Key.statCacheExpireSeconds, claim.statCacheExpireSeconds),
    (Key.iamEndpoint, claim.iamEndpoint),
    (Key.validateBucket, claim.validateBucket) ]

/-- Writes a claim: the flags, the bucket and the secret always, the rest where it says something. -/
def toAnnotations (claim : Claim) : Annotations :=
  let always : Annotations := (∅ : Annotations)
    |>.insert Key.autoCreateBucket (Flag.render claim.autoCreateBucket)
    |>.insert Key.autoDeleteBucket (Flag.render claim.autoDeleteBucket)
    |>.insert Key.bucket claim.bucket
    |>.insert Key.secretName claim.secretName
  always.insertAllNonEmpty claim.optionalEntries

/-- Whether the claim opts out of the access check. -/
def validationDisabled (claim : Claim) : Bool :=
  claim.validateBucket == validateBucketDisabled

/-- Whether access to the bucket is checked: unless the claim opts out of it, and always if this
call creates the bucket. -/
def requiresAccessCheck (claim : Claim) : Bool :=
  !(claim.validationDisabled && !claim.autoCreateBucket)

end Claim

end BucketVolume
