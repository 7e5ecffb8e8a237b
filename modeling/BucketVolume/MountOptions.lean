import BucketVolume.Bucket
import BucketVolume.Configuration

/-!
# BucketVolume.MountOptions — what the mount driver is tuned with

Integers and flags are always written; a text is written where it says something.
-/

namespace BucketVolume

/-! ## Option names other than those of the knobs -/

namespace OptionName

def tlsCipherSuite : String := "tls-cipher-suite"
def curlDebug : String := "curl-debug"
def kernelCache : String := "kernel-cache"
def debugLevel : String := "debug-level"
def statCacheExpireSeconds : String := "stat-cache-expire-seconds"
def iamEndpoint : String := "iam-endpoint"
def objectStoreEndpoint : String := "object-store-endpoint"
def objectStoreStorageClass : String := "object-store-storage-class"
def bucket : String := "bucket"
def objectPath : String := "object-path"

end OptionName

/-- The tuning of one mount. -/
structure MountOptions where
  config : Configuration
  bucket : String
  objectPath : Option String
deriving DecidableEq

namespace MountOptions

/-- The tuning for a planned bucket. -/
def ofPlan (config : Configuration) (bucket : BucketPlan) : MountOptions :=
  ⟨config, bucket.name, bucket.objectPath⟩

/-- The options that are written only when their texts are not empty. -/
def textEntries (options : MountOptions) : List (String × String) :=
  [ (OptionName.tlsCipherSuite, options.config.tlsCipherSuite),
    (OptionName.debugLevel, options.config.debugLevel),
    (OptionName.statCacheExpireSeconds, options.config.statCacheExpireSeconds),
    (OptionName.iamEndpoint, options.config.iamEndpoint),
    (OptionName.objectStoreEndpoint, options.config.endpoint),
    (OptionName.objectStoreStorageClass, options.config.region),
    (OptionName.bucket, options.bucket),
    (OptionName.objectPath, options.objectPath.getD "") ]

/-- The options as the mount driver reads them. -/
def toOptions (options : MountOptions) : Annotations :=
  let numbers : Annotations := Knob.all.foldl
    (fun m knob => m.insert knob.option (Decimal.renderInt64 (options.config.knobs.get knob))) ∅
  let flags : Annotations := numbers
    |>.insert OptionName.curlDebug (Flag.render options.config.curlDebug)
    |>.insert OptionName.kernelCache (Flag.render options.config.kernelCache)
  flags.insertAllNonEmpty options.textEntries

end MountOptions

end BucketVolume
