import BucketVolume.StorageClass

/-!
# BucketVolume.Configuration — claim and storage class merged

Each value has one source: a claim's text wins over its storage class where it is not empty, and the
values that only one of them can set come from that one. Merging checks what it merges, in a fixed
order: the two endpoints need a scheme, then the numeric overrides are read, then the expiry.
-/

namespace BucketVolume

/-- The merged configuration of a volume. -/
structure Configuration where
  endpoint : String := ""
  iamEndpoint : String := ""
  region : String := ""
  knobs : Knobs Int64 := .ofFn fun _ => 0
  statCacheExpireSeconds : String := ""
  tlsCipherSuite : String := ""
  debugLevel : String := ""
  curlDebug : Bool := false
  kernelCache : Bool := false
deriving DecidableEq, Inhabited

namespace Configuration

/-- The claim's text if it says something, else the class's. -/
def overrideText (claim cls : String) : String :=
  if claim = "" then cls else claim

/-- A text starts with a scheme that sessions understand. -/
def hasHttpScheme (value : String) : Bool :=
  "https://".toList.isPrefixOf value.toList || "http://".toList.isPrefixOf value.toList

/-- Refuses an endpoint without a scheme. -/
def requireHttpScheme (field value : String) : Except Failure Unit :=
  if hasHttpScheme value then .ok ()
  else .error (.validation (.missingScheme field value))

/-- The integer of the claim's text if it says something, else the class's. -/
def overrideInteger (field claim : String) (cls : Int64) : Except Failure Int64 :=
  if claim = "" then .ok cls else parseKeyedInt64 field claim

/-- The override of one knob. -/
def overrideKnob (claim : Claim) (cls : StorageClass) (knob : Knob) : Except Failure Int64 :=
  overrideInteger knob.key (claim.knobs.get knob) (cls.knobs.get knob)

/-- Checks the expiry and hands its text on: empty, or an integer that is not negative. -/
def checkExpiry (text : String) : Except Failure String :=
  if text = "" then .ok ""
  else match parseKeyedInt64 Key.statCacheExpireSeconds text with
    | .error failure => .error failure
    | .ok seconds =>
      if seconds < 0 then
        .error (.validation (.negativeExpiry Key.statCacheExpireSeconds seconds))
      else .ok text

/-- Merges a claim with its storage class. -/
def resolve (claim : Claim) (cls : StorageClass) : Except Failure Configuration := do
  let endpoint := overrideText claim.endpoint cls.objectStoreEndpoint
  requireHttpScheme Key.objectStoreEndpoint endpoint
  let iamEndpoint := overrideText claim.iamEndpoint cls.iamEndpoint
  requireHttpScheme Key.iamEndpoint iamEndpoint
  let fuseRetryCount ← overrideKnob claim cls .fuseRetryCount
  let chunkSizeMb ← overrideKnob claim cls .chunkSizeMb
  let parallelCount ← overrideKnob claim cls .parallelCount
  let multireqMax ← overrideKnob claim cls .multireqMax
  let statCacheSize ← overrideKnob claim cls .statCacheSize
  let statCacheExpireSeconds ← checkExpiry claim.statCacheExpireSeconds
  return {
    endpoint, iamEndpoint
    region := overrideText claim.region cls.objectStoreStorageClass
    knobs := { chunkSizeMb, parallelCount, multireqMax, statCacheSize, fuseRetryCount }
    statCacheExpireSeconds
    tlsCipherSuite := cls.tlsCipherSuite
    debugLevel := cls.debugLevel
    curlDebug := cls.curlDebug
    kernelCache := cls.kernelCache }

end Configuration

end BucketVolume
