import BucketVolume.Proofs.Activity

/-!
# BucketVolume.Proofs.Credential — which secrets open sessions

A secret is usable if it holds an API key or both halves of a pair of access keys; whether a session
can be opened depends on nothing else.

* `ofSecret_ok_iff` — a secret gives credentials exactly if it is usable;
* `missing_of_ofSecret` — a secret that gives none is blamed for a field that it lacks;
* `lacksServiceInstance_iff` — which credentials cannot create buckets;
* `perform_fetch` — fetching credentials makes one look-up, whatever comes of it.
-/

namespace BucketVolume

open Activity

/-- A secret holds credentials: an API key, or both halves of a pair of access keys. -/
def SecretData.Usable (data : SecretData) : Prop :=
  Credentials.apiKeyField ∈ data ∨
    (Credentials.accessKeyField ∈ data ∧ Credentials.secretKeyField ∈ data)

/-- A field can be read exactly if it is there. -/
theorem SecretData.read?_isSome_iff (data : SecretData) (field : String) :
    (data.read? field).isSome = true ↔ field ∈ data := by
  simp [read?]

theorem SecretData.read?_eq_none_iff (data : SecretData) (field : String) :
    data.read? field = none ↔ field ∉ data := by
  rw [← Option.not_isSome_iff_eq_none, read?_isSome_iff]

namespace Credentials

/-- A secret gives credentials exactly if it is usable. -/
theorem ofSecret_ok_iff (data : SecretData) (iamEndpoint : String) :
    (∃ credentials, ofSecret data iamEndpoint = .ok credentials) ↔ data.Usable := by
  unfold SecretData.Usable ofSecret requireField
  simp only [← SecretData.read?_isSome_iff]
  -- only which of the three fields are there matters, never what they hold
  cases data.read? apiKeyField <;> cases data.read? accessKeyField <;>
    cases data.read? secretKeyField <;> simp [bind, Except.bind, pure, Except.pure]

/-- Only a missing field is ever blamed for a secret that gives no credentials. -/
theorem missing_of_ofSecret {data : SecretData} {iamEndpoint : String}
    {failure : CredentialFailure} (h : ofSecret data iamEndpoint = .error failure) :
    ∃ field, field ∉ data ∧ failure = .missingField field := by
  simp only [← SecretData.read?_eq_none_iff]
  unfold ofSecret requireField at h
  cases hkey : data.read? apiKeyField with
  | some key =>
    rw [hkey] at h
    cases h
  | none =>
    rw [hkey] at h
    cases haccess : data.read? accessKeyField with
    | none =>
      rw [haccess] at h
      exact ⟨accessKeyField, haccess, (Except.error.inj h).symm⟩
    | some accessKey =>
      cases hsecret : data.read? secretKeyField with
      | none =>
        rw [haccess, hsecret] at h
        exact ⟨secretKeyField, hsecret, (Except.error.inj h).symm⟩
      | some secretKey =>
        rw [haccess, hsecret] at h
        cases h

theorem iamEndpoint_ofSecret {data : SecretData} {iamEndpoint : String}
    {credentials : Credentials} (h : ofSecret data iamEndpoint = .ok credentials) :
    credentials.iamEndpoint = iamEndpoint := by
  unfold ofSecret requireField at h
  cases hkey : data.read? apiKeyField <;> cases haccess : data.read? accessKeyField <;>
    cases hsecret : data.read? secretKeyField <;>
    simp [hkey, haccess, hsecret, bind, Except.bind, pure, Except.pure] at h <;> simp [← h]

/-- Credentials that can create no bucket: an API key whose service instance id is missing or
empty. -/
def CannotCreate (credentials : Credentials) : Prop :=
  ∃ key, credentials.kind = .apiKey key none ∨ credentials.kind = .apiKey key (some "")

theorem lacksServiceInstance_iff (credentials : Credentials) :
    credentials.lacksServiceInstance = true ↔ credentials.CannotCreate := by
  rcases credentials with ⟨kind, iamEndpoint⟩
  unfold lacksServiceInstance CannotCreate
  cases kind with
  | apiKey key serviceInstanceId => cases serviceInstanceId <;> simp
  | accessKeys accessKey secretKey => simp

end Credentials

/-- The credentials that a host has under a reference. -/
def Host.credentials (host : Host) (ref : SecretRef) (iamEndpoint : String) :
    Except CredentialFailure Credentials :=
  match host.secret ref with
  | .error source => .error (.lookup ref.name ref.namespaceName source)
  | .ok data => Credentials.ofSecret data iamEndpoint

theorem Host.iamEndpoint_credentials {host : Host} {ref : SecretRef} {iamEndpoint : String}
    {credentials : Credentials} (h : host.credentials ref iamEndpoint = .ok credentials) :
    credentials.iamEndpoint = iamEndpoint := by
  unfold Host.credentials at h
  rcases hsecret : host.secret ref with source | data
  · simp [hsecret] at h
  · simp only [hsecret] at h
    exact Credentials.iamEndpoint_ofSecret h

/-- A host has no credentials for one of two reasons: its store finds no secret, and says why, or the
secret lacks a field. -/
theorem Host.cases_of_credentials_error {host : Host} {ref : SecretRef} {iamEndpoint : String}
    {cause : CredentialFailure} (h : host.credentials ref iamEndpoint = .error cause) :
    (∃ text, host.secret ref = .error text ∧ cause = .lookup ref.name ref.namespaceName text) ∨
    ∃ data field, host.secret ref = .ok data ∧ field ∉ data ∧ cause = .missingField field := by
  unfold Host.credentials at h
  rcases hsecret : host.secret ref with text | data
  · rw [hsecret] at h
    exact .inl ⟨text, rfl, (Except.error.inj h).symm⟩
  · rw [hsecret] at h
    obtain ⟨field, hmissing, rfl⟩ := Credentials.missing_of_ofSecret h
    exact .inr ⟨data, field, rfl, hmissing, rfl⟩

/-- Fetching credentials makes one look-up, whatever comes of it. -/
theorem perform_fetch (ref : SecretRef) (iamEndpoint : String) (host : Host)
    (tokens : TokenSource) (journal : List Entry) :
    (Credentials.fetch ref iamEndpoint).perform host ⟨tokens, journal⟩ =
      (host.credentials ref iamEndpoint,
        ⟨tokens, journal ++ [.event (.fetchingSecret ref.name ref.namespaceName), .lookup ref]⟩) := by
  simp only [Credentials.fetch, perform_bind, perform_emit, perform_lookUp, Host.credentials]
  rcases host.secret ref with source | data
  · simp
  · simp

/-- A bench has credentials under a reference exactly if its store holds a usable secret there. -/
theorem Bench.credentials_ok_iff (bench : Bench) (ref : SecretRef) (iamEndpoint : String) :
    (∃ credentials, bench.host.credentials ref iamEndpoint = .ok credentials) ↔
      ∃ data, bench.secrets.find? ref = some data ∧ data.Usable := by
  simp only [Host.credentials, Bench.host, SecretStore.get]
  rcases bench.secrets.find? ref with _ | data
  · simp
  · simp [Credentials.ofSecret_ok_iff]

/-- The credentials of a bench are those of the secret that its store holds. -/
theorem Bench.exists_secret_of_credentials {bench : Bench} {ref : SecretRef} {iamEndpoint : String}
    {credentials : Credentials} (h : bench.host.credentials ref iamEndpoint = .ok credentials) :
    ∃ data, bench.secrets.find? ref = some data ∧
      Credentials.ofSecret data iamEndpoint = .ok credentials := by
  simp only [Host.credentials, Bench.host, SecretStore.get] at h
  rcases hfind : bench.secrets.find? ref with _ | data
  · simp [hfind] at h
  · exact ⟨data, rfl, by simpa [hfind] using h⟩

end BucketVolume
