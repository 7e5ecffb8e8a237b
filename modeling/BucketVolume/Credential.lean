import BucketVolume.Failure
import BucketVolume.Secret

/-!
# BucketVolume.Credential — what opens a session

A secret holds an API key, perhaps with a service instance id, or a pair of access keys. An API key
wins over a pair. Only missing fields make a secret unusable, never what a field holds.
-/

namespace BucketVolume

/-- The two shapes of credentials. -/
inductive CredentialKind where
  | apiKey (key : String) (serviceInstanceId : Option String)
  | accessKeys (accessKey secretKey : String)
deriving DecidableEq

namespace CredentialKind

/-- The credentials as logs may show them: key values are hidden, the rest is quoted. -/
def redacted : CredentialKind → String
  | apiKey _ serviceInstanceId =>
    let shown := match serviceInstanceId with
      | none => "None"
      | some id => "Some(" ++ Text.quoted id ++ ")"
    "ApiKey \x7b api_key: \"<redacted>\", service_instance_id: " ++ shown ++ " \x7d"
  | accessKeys accessKey _ =>
    "AccessKeys \x7b access_key: " ++ Text.quoted accessKey ++ ", secret_key: \"<redacted>\" \x7d"

end CredentialKind

/-- Credentials and the endpoint that exchanges API keys for access. -/
structure Credentials where
  kind : CredentialKind
  iamEndpoint : String
deriving DecidableEq

namespace Credentials

/-! ## Fields of a secret -/

def apiKeyField : String := "api-key"
def serviceInstanceIdField : String := "service-instance-id"
def accessKeyField : String := "access-key"
def secretKeyField : String := "secret-key"

/-- The text of a field that must be there. -/
def requireField (data : SecretData) (field : String) : Except CredentialFailure String :=
  match data.read? field with
  | some text => .ok text
  | none => .error (.missingField field)

/-- The credentials that a secret holds. -/
def ofSecret (data : SecretData) (iamEndpoint : String) : Except CredentialFailure Credentials :=
  match data.read? apiKeyField with
  | some key => .ok ⟨.apiKey key (data.read? serviceInstanceIdField), iamEndpoint⟩
  | none => do
    let accessKey ← requireField data accessKeyField
    let secretKey ← requireField data secretKeyField
    return ⟨.accessKeys accessKey secretKey, iamEndpoint⟩

/-- An API key without a service instance id, which opens sessions but cannot create buckets. An
empty id is none. -/
def lacksServiceInstance (credentials : Credentials) : Bool :=
  match credentials.kind with
  | .apiKey _ none => true
  | .apiKey _ (some id) => id == ""
  | .accessKeys .. => false

end Credentials

end BucketVolume
