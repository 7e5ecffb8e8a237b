import BucketVolume.Text.Quoted
import BucketVolume.Decimal.Integer

/-!
# BucketVolume.Failure — what can go wrong, where, and in whose call

A `Failure` is a cause. A `StageFailure` adds the claim or volume whose call it was and the stage
that was running. `message` is the wording; `sources` lists the messages of the deeper causes, the
nearest first, each of which ends the message before it.
-/

namespace BucketVolume

/-! ## Causes -/

/-- Why the text of a key has no typed value. -/
inductive ParseProblem where
  | flag (word : String)
  | integer (problem : Decimal.IntegerProblem)
  | other (message : String)
deriving DecidableEq, Repr

/-- The wording of the problem. -/
def ParseProblem.message : ParseProblem → String
  | .flag word => "invalid boolean value " ++ Text.quoted word
  | .integer problem => problem.message
  | .other message => message

/-- A rule that a claim, its configuration or its bucket breaks. -/
inductive Violation where
  | missingScheme (field value : String)
  | negativeExpiry (field : String) (seconds : Int64)
  | objectPathWithAutoCreate (objectPath : String)
  | autoDeleteWithoutAutoCreate
  | bucketWithAutoDelete (bucket : String)
  | bucketNotSpecified
  | createWithoutServiceInstance
  | objectPathNotFound (objectPath bucket : String)
  | other (message : String)
deriving DecidableEq

/-- The wording of the rule. -/
def Violation.message : Violation → String
  | .missingScheme field value =>
    "bad value for " ++ field ++ " " ++ Text.quoted value ++
      ": scheme is missing, expected http://<hostname> or https://<hostname>"
  | .negativeExpiry field seconds =>
    "value of " ++ field ++ " should be >= 0, got " ++ Decimal.renderInt64 seconds
  | .objectPathWithAutoCreate objectPath =>
    "object-path cannot be set when auto-create is enabled, got: " ++ objectPath
  | .autoDeleteWithoutAutoCreate =>
    "bucket auto-create must be enabled when bucket auto-delete is enabled"
  | .bucketWithAutoDelete bucket =>
    "bucket cannot be set when auto-delete is enabled, got: " ++ bucket
  | .bucketNotSpecified => "bucket name not specified"
  | .createWithoutServiceInstance =>
    "cannot create bucket using API key without service-instance-id"
  | .objectPathNotFound objectPath bucket =>
    "object-path " ++ Text.quoted objectPath ++ " not found inside bucket " ++ bucket
  | .other message => message

/-- Why a secret gives no credentials: the store's own failure, or a field the secret lacks. -/
inductive CredentialFailure where
  | lookup (name namespaceName source : String)
  | missingField (field : String)
deriving DecidableEq, Repr

namespace CredentialFailure

def message : CredentialFailure → String
  | lookup name namespaceName source =>
    "cannot get secret " ++ name ++ " in namespace " ++ namespaceName ++ ": " ++ source
  | missingField field => field ++ " secret missing"

/-- The messages of the deeper causes. -/
def sources : CredentialFailure → List String
  | lookup _ _ source => [source]
  | missingField _ => []

end CredentialFailure

/-- What a session was asked to do to a bucket. -/
inductive BucketOperation where
  | create
  | checkAccess
  | checkObjectPath
  | delete
deriving DecidableEq, Repr

/-- The verb of the operation. -/
def BucketOperation.verb : BucketOperation → String
  | .create => "create"
  | .checkAccess => "access"
  | .checkObjectPath => "check object-path inside"
  | .delete => "delete"

/-- Why no token for a bucket name could be had. -/
structure TokenFailure where
  reason : String
deriving DecidableEq, Repr

def TokenFailure.message (failure : TokenFailure) : String :=
  "token generation failed: " ++ failure.reason

/-- What went wrong in a call. -/
inductive Failure where
  | configParse (field : String) (problem : ParseProblem)
  | validation (violation : Violation)
  | credential (failure : CredentialFailure)
  | backend (operation : BucketOperation) (bucket source : String)
  | marshal (message : String)
  | nameGeneration (failure : TokenFailure)
deriving DecidableEq

/-- The class of a failure, by which a host decides what to do about it. -/
inductive FailureKind where
  | configParse
  | validation
  | credential
  | backend
  | marshal
  | nameGeneration
deriving DecidableEq, Repr

namespace Failure

def kind : Failure → FailureKind
  | configParse .. => .configParse
  | validation .. => .validation
  | credential .. => .credential
  | backend .. => .backend
  | marshal .. => .marshal
  | nameGeneration .. => .nameGeneration

def message : Failure → String
  | configParse field problem => "cannot parse value of " ++ field ++ ": " ++ problem.message
  | validation violation => violation.message
  | credential failure => "cannot get credentials: " ++ failure.message
  | backend operation bucket source =>
    "cannot " ++ operation.verb ++ " bucket " ++ bucket ++ ": " ++ source
  | marshal message => "cannot unmarshal volume descriptor: " ++ message
  | nameGeneration failure => "cannot create unique token for bucket name: " ++ failure.message

/-- The messages of the deeper causes, the nearest first. -/
def sources : Failure → List String
  | credential failure => failure.message :: failure.sources
  | backend _ _ source => [source]
  | _ => []

end Failure

/-! ## Stages -/

/-- The stages of provisioning and teardown. -/
inductive Stage where
  | resolving
  | validating
  | credentialResolution
  | lifecycleExecution
  | descriptorBuilding
  | parsingDescriptor
  | bucketDelete
deriving DecidableEq, Repr

/-- What a stage is doing, as messages and events say it. -/
def Stage.label : Stage → String
  | .resolving => "resolving configuration"
  | .validating => "validating configuration"
  | .credentialResolution => "resolving credentials"
  | .lifecycleExecution => "executing bucket lifecycle"
  | .descriptorBuilding => "building volume descriptor"
  | .parsingDescriptor => "parsing volume descriptor"
  | .bucketDelete => "deleting bucket"

/-- A failure, the stage in which it happened, and the claim or volume whose call it ended. -/
structure StageFailure where
  subject : String
  stage : Stage
  cause : Failure
deriving DecidableEq

namespace StageFailure

def kind (failure : StageFailure) : FailureKind :=
  failure.cause.kind

def message (failure : StageFailure) : String :=
  failure.subject ++ ": " ++ failure.stage.label ++ ": " ++ failure.cause.message

/-- The messages of the deeper causes, the nearest first. -/
def sources (failure : StageFailure) : List String :=
  failure.cause.message :: failure.cause.sources

end StageFailure

end BucketVolume
