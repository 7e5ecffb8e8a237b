import Std.Data.ExtTreeMap

/-!
# BucketVolume.Annotations — maps from texts to texts

Claims, storage classes, volumes and mount drivers all speak in flat maps from texts to texts,
listed by the code points of their keys. Two maps are equal when they hold the same entries. An
entry with an empty text says no more than a missing one wherever a text is read.
-/

namespace BucketVolume

/-- A map from texts to texts, listed in the order of its keys. -/
abbrev Annotations := Std.ExtTreeMap String String

namespace Annotations

/-- The text of a key, empty if the key is missing. -/
def text (m : Annotations) (key : String) : String :=
  m[key]?.getD ""

/-- Writes an entry unless its text is empty. -/
def insertNonEmpty (m : Annotations) (key value : String) : Annotations :=
  if value = "" then m else m.insert key value

/-- Writes the entries whose texts are not empty. -/
def insertAllNonEmpty (m : Annotations) (entries : List (String × String)) : Annotations :=
  entries.foldl (fun m entry => m.insertNonEmpty entry.1 entry.2) m

end Annotations

/-! ## Keys of claims, storage classes and volumes -/

namespace Key

def autoCreateBucket : String := "ibm.io/auto-create-bucket"
def autoDeleteBucket : String := "ibm.io/auto-delete-bucket"
def bucket : String := "ibm.io/bucket"
def objectPath : String := "ibm.io/object-path"
def endpoint : String := "ibm.io/endpoint"
def region : String := "ibm.io/region"
def secretName : String := "ibm.io/secret-name"
def secretNamespace : String := "ibm.io/secret-namespace"
def statCacheExpireSeconds : String := "ibm.io/stat-cache-expire-seconds"
def iamEndpoint : String := "ibm.io/iam-endpoint"
def validateBucket : String := "ibm.io/validate-bucket"
def tlsCipherSuite : String := "ibm.io/tls-cipher-suite"
def debugLevel : String := "ibm.io/debug-level"
def curlDebug : String := "ibm.io/curl-debug"
def kernelCache : String := "ibm.io/kernel-cache"
def objectStoreEndpoint : String := "ibm.io/object-store-endpoint"
def objectStoreStorageClass : String := "ibm.io/object-store-storage-class"

end Key

end BucketVolume
