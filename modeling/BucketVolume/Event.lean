import BucketVolume.Failure

/-!
# BucketVolume.Event — what a call reports while it runs

Each event is written as a level, a target that names the part of the provisioner it comes from, a
message, and named fields.
-/

namespace BucketVolume

/-- How much an event matters. -/
inductive Level where
  | debug
  | info
  | warn
deriving DecidableEq, Repr

def Level.label : Level → String
  | .debug => "DEBUG"
  | .info => "INFO"
  | .warn => "WARN"

/-- The part of the provisioner that an event comes from. -/
inductive EventTarget where
  | provision
  | teardown
  | credentials
  | buckets
deriving DecidableEq, Repr

def EventTarget.label : EventTarget → String
  | .provision => "s3fs_provisioner::provision"
  | .teardown => "s3fs_provisioner::teardown"
  | .credentials => "s3fs_provisioner::credentials"
  | .buckets => "s3fs_provisioner::buckets"

/-- What a call reports. -/
inductive Event where
  | volumeRequested (clusterId claim namespaceName volume : String)
  | claimStageStarted (claim : String) (stage : Stage)
  | lifecycleStarted (claim bucket : String)
  | volumeProvisioned (clusterId claim bucket : String)
  | removalRequested (clusterId volume : String)
  | volumeStageStarted (volume : String) (stage : Stage)
  | bucketRetained (volume bucket : String)
  | fetchingSecret (secret namespaceName : String)
  | creatingBucket (bucket : String)
  | createNote (bucket note : String)
  | checkingAccess (bucket : String)
  | checkingObjectPath (bucket objectPath : String)
  | deletingBucket (bucket : String)
  | deleteFailed (bucket error : String)
deriving DecidableEq, Repr

/-- A line of the log. -/
structure LogLine where
  level : String
  target : String
  message : String
  fields : List (String × String)
deriving DecidableEq, Repr

namespace Event

def level : Event → Level
  | volumeRequested .. | volumeProvisioned .. | removalRequested .. => .info
  | createNote .. | deletingBucket .. => .info
  | deleteFailed .. => .warn
  | _ => .debug

def target : Event → EventTarget
  | volumeRequested .. | claimStageStarted .. | lifecycleStarted .. | volumeProvisioned .. =>
    .provision
  | removalRequested .. | volumeStageStarted .. | bucketRetained .. => .teardown
  | fetchingSecret .. => .credentials
  | creatingBucket .. | createNote .. | checkingAccess .. | checkingObjectPath .. => .buckets
  | deletingBucket .. | deleteFailed .. => .buckets

def message : Event → String
  | volumeRequested .. => "provisioning volume"
  | claimStageStarted .. | lifecycleStarted .. | volumeStageStarted .. => "stage started"
  | volumeProvisioned .. => "volume provisioned"
  | removalRequested .. => "deleting volume"
  | bucketRetained .. => "bucket retained"
  | fetchingSecret .. => "fetching credential secret"
  | creatingBucket .. => "creating bucket"
  | createNote _ note => note
  | checkingAccess .. => "checking bucket access"
  | checkingObjectPath .. => "checking object-path existence"
  | deletingBucket .. => "deleting bucket"
  | deleteFailed .. => "bucket delete failed"

def fields : Event → List (String × String)
  | volumeRequested clusterId claim namespaceName volume =>
    [("cluster_id", clusterId), ("claim", claim), ("namespace", namespaceName), ("volume", volume)]
  | claimStageStarted claim stage => [("claim", claim), ("stage", stage.label)]
  | lifecycleStarted claim bucket =>
    [("claim", claim), ("stage", Stage.lifecycleExecution.label), ("bucket", bucket)]
  | volumeProvisioned clusterId claim bucket =>
    [("cluster_id", clusterId), ("claim", claim), ("bucket", bucket)]
  | removalRequested clusterId volume => [("cluster_id", clusterId), ("volume", volume)]
  | volumeStageStarted volume stage => [("volume", volume), ("stage", stage.label)]
  | bucketRetained volume bucket => [("volume", volume), ("bucket", bucket)]
  | fetchingSecret secret namespaceName => [("secret", secret), ("namespace", namespaceName)]
  | creatingBucket bucket | createNote bucket _ | checkingAccess bucket => [("bucket", bucket)]
  | checkingObjectPath bucket objectPath => [("bucket", bucket), ("object_path", objectPath)]
  | deletingBucket bucket => [("bucket", bucket)]
  | deleteFailed bucket error => [("bucket", bucket), ("error", error)]

/-- The event as it is written. -/
def line (event : Event) : LogLine where
  level := event.level.label
  target := event.target.label
  message := event.message
  fields := event.fields

end Event

end BucketVolume
