import BucketVolume.Activity
import BucketVolume.Credential

/-!
# BucketVolume.Credential.Fetch — credentials from the host's secrets

Fetching reports that it starts, makes exactly one look-up, and reads what it finds.
-/

namespace BucketVolume

open Activity

/-- Fetches the credentials that a secret holds. -/
def Credentials.fetch (ref : SecretRef) (iamEndpoint : String) :
    Activity CredentialFailure Credentials := do
  emit (.fetchingSecret ref.name ref.namespaceName)
  match ← lookUp ref with
  | .error source => throw (.lookup ref.name ref.namespaceName source)
  | .ok data => settle (Credentials.ofSecret data iamEndpoint)

end BucketVolume
