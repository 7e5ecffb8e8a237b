import BucketVolume.Claim

/-!
# BucketVolume.StorageClass — the defaults that a storage class sets

A storage class is read from its parameters, integers before flags; the first malformed one in that
order is reported. A missing or empty integer is zero and a missing or empty flag is false.
-/

namespace BucketVolume

/-- The integer of a key, zero if it says nothing. -/
def Annotations.integer (m : Annotations) (key : String) : Except Failure Int64 :=
  let text := m.text key
  if text = "" then .ok 0 else parseKeyedInt64 key text

/-- The declared defaults of a storage class. -/
structure StorageClass where
  knobs : Knobs Int64 := .ofFn fun _ => 0
  tlsCipherSuite : String := ""
  debugLevel : String := ""
  iamEndpoint : String := ""
  objectStoreEndpoint : String := ""
  objectStoreStorageClass : String := ""
  curlDebug : Bool := false
  kernelCache : Bool := false
deriving DecidableEq, Inhabited

/-- Reads a storage class; entries under other keys are ignored. -/
def StorageClass.ofParameters (m : Annotations) : Except Failure StorageClass := do
  let chunkSizeMb ← m.integer Knob.chunkSizeMb.key
  let parallelCount ← m.integer Knob.parallelCount.key
  let multireqMax ← m.integer Knob.multireqMax.key
  let statCacheSize ← m.integer Knob.statCacheSize.key
  let fuseRetryCount ← m.integer Knob.fuseRetryCount.key
  let curlDebug ← m.flag Key.curlDebug
  let kernelCache ← m.flag Key.kernelCache
  return {
    knobs := { chunkSizeMb, parallelCount, multireqMax, statCacheSize, fuseRetryCount }
    tlsCipherSuite := m.text Key.tlsCipherSuite
    debugLevel := m.text Key.debugLevel
    iamEndpoint := m.text Key.iamEndpoint
    objectStoreEndpoint := m.text Key.objectStoreEndpoint
    objectStoreStorageClass := m.text Key.objectStoreStorageClass
    curlDebug, kernelCache }

end BucketVolume
