import BucketVolume.Proofs.Secrecy
import BucketVolume.Proofs.Utf8

/-!
# BucketVolume.Proofs.CredentialResolution — credentials are those last put into the store

A store is used in any order: secrets are put into it, and credentials are resolved from it. What is
found under a reference depends on the last insertion under exactly this reference and on no other
use: an insertion under it takes the place of everything older (`find?_use_insert`), and no other use
moves it (`find?_use_of_ne`, `find?_uses`). The texts of a secret come back from their bytes
(`read?_ofTexts`), so the credentials are made of the very texts that were put in
(`credentials_ofTexts`).

* `credential_resolution` — what a resolution comes to after any history of uses.
-/

namespace BucketVolume

open Activity

/-! ## Uses of a store -/

/-- One use of a store of secrets. -/
inductive StoreUse where
  | insert (ref : SecretRef) (pairs : List (String × String))
  | resolve (ref : SecretRef) (iamEndpoint : String)

/-- The reference that a use looks up. -/
def StoreUse.resolved? : StoreUse → Option SecretRef
  | insert .. => none
  | resolve ref _ => some ref

namespace Bench

/-- Resolves credentials from the secrets of a bench. -/
def resolve (bench : Bench) (ref : SecretRef) (iamEndpoint : String) :
    Except CredentialFailure Credentials × Bench :=
  let (outcome, progress) := (Credentials.fetch ref iamEndpoint).perform bench.host bench.progress
  (outcome, { bench with progress := progress })

/-- The bench after one use of its store. -/
def use (bench : Bench) : StoreUse → Bench
  | .insert ref pairs => { bench with secrets := bench.secrets.insert ref (.ofTexts pairs) }
  | .resolve ref iamEndpoint => (bench.resolve ref iamEndpoint).2

/-- The bench after uses of its store, one after the other. -/
def uses (bench : Bench) (history : List StoreUse) : Bench :=
  history.foldl use bench

theorem uses_cons (bench : Bench) (u : StoreUse) (rest : List StoreUse) :
    bench.uses (u :: rest) = (bench.use u).uses rest := rfl

theorem uses_append (bench : Bench) (a b : List StoreUse) :
    bench.uses (a ++ b) = (bench.uses a).uses b :=
  List.foldl_append

/-- The bench without secrets. -/
def emptied (bench : Bench) : Bench :=
  { bench with secrets := {} }

/-- The secret look-ups that a bench has seen. -/
def lookups (bench : Bench) : List SecretRef :=
  lookupsOf bench.progress.journal

variable (bench : Bench) (ref : SecretRef) (iamEndpoint : String)

/-- A resolution reads the host's secret and leaves a report and a look-up. -/
theorem resolve_eq :
    bench.resolve ref iamEndpoint =
      (bench.host.credentials ref iamEndpoint,
        { bench with progress := ⟨bench.progress.tokens, bench.progress.journal ++
          [.event (.fetchingSecret ref.name ref.namespaceName), .lookup ref]⟩ }) := by
  rw [resolve, perform_fetch]

/-- A resolution from a store that holds nothing under its reference. -/
theorem fst_resolve_none (h : bench.secrets.find? ref = none) :
    (bench.resolve ref iamEndpoint).1 =
      .error (.lookup ref.name ref.namespaceName ("secrets \"" ++ ref.name ++ "\" not found")) := by
  simp only [resolve_eq, Host.credentials, host, SecretStore.get, h]

/-- A resolution from a store that holds a secret under its reference. -/
theorem fst_resolve_some {data : SecretData} (h : bench.secrets.find? ref = some data) :
    (bench.resolve ref iamEndpoint).1 = Credentials.ofSecret data iamEndpoint := by
  simp only [resolve_eq, Host.credentials, host, SecretStore.get, h]

/-- Two stores that hold the same under a reference give the same credentials. -/
theorem fst_resolve_congr {bench other : Bench} {ref : SecretRef}
    (h : bench.secrets.find? ref = other.secrets.find? ref) (iamEndpoint : String) :
    (bench.resolve ref iamEndpoint).1 = (other.resolve ref iamEndpoint).1 := by
  simp only [resolve_eq, Host.credentials, host, SecretStore.get, h]

/-! ## What one use changes -/

/-- A use looks up what it resolves, whether or not it succeeds. -/
theorem lookups_use (u : StoreUse) :
    (bench.use u).lookups = bench.lookups ++ u.resolved?.toList := by
  cases u with
  | insert other pairs => simp [use, lookups, StoreUse.resolved?]
  | resolve other endpoint => simp [use, resolve_eq, lookups, StoreUse.resolved?]

/-- An insertion takes the place of what was there. -/
theorem find?_use_insert (pairs : List (String × String)) :
    (bench.use (.insert ref pairs)).secrets.find? ref = some (.ofTexts pairs) := by
  simp [use, SecretStore.insert, SecretStore.find?]

/-- A use that puts nothing under a reference leaves what is there. -/
theorem find?_use_of_ne {u : StoreUse} (h : ∀ pairs, u ≠ .insert ref pairs) :
    (bench.use u).secrets.find? ref = bench.secrets.find? ref := by
  cases u with
  | insert other pairs =>
    have hne : (ref == other) = false := by
      rw [beq_eq_false_iff_ne]
      rintro rfl
      exact h pairs rfl
    simp [use, SecretStore.insert, SecretStore.find?, List.lookup_cons, hne]
  | resolve other endpoint => simp [use, resolve_eq]

/-! ## What a history of uses changes -/

/-- The look-ups of a history are its resolutions, each once and in order. -/
theorem lookups_uses (history : List StoreUse) :
    (bench.uses history).lookups = bench.lookups ++ history.filterMap StoreUse.resolved? := by
  induction history generalizing bench with
  | nil => simp [uses]
  | cons u rest ih =>
    have hrest := ih (bench.use u)
    rw [lookups_use, List.append_assoc] at hrest
    rw [uses_cons, hrest]
    cases hu : u.resolved? with
    | none => simp [hu]
    | some other => simp [hu]

/-- A history that puts nothing under a reference leaves what is there. -/
theorem find?_uses {history : List StoreUse} (h : ∀ pairs, .insert ref pairs ∉ history) :
    (bench.uses history).secrets.find? ref = bench.secrets.find? ref := by
  induction history generalizing bench with
  | nil => rfl
  | cons u rest ih =>
    have hhead : ∀ pairs, u ≠ .insert ref pairs := by
      rintro pairs rfl
      exact h pairs List.mem_cons_self
    have htail : ∀ pairs, .insert ref pairs ∉ rest := fun pairs hmem =>
      h pairs (List.mem_cons_of_mem u hmem)
    rw [uses_cons, ih (bench.use u) htail, find?_use_of_ne bench ref hhead]

/-- What is found under a reference is its last insertion. -/
theorem find?_uses_last (earlier : List StoreUse) (pairs : List (String × String))
    {later : List StoreUse} (h : ∀ newer, .insert ref newer ∉ later) :
    (bench.uses (earlier ++ .insert ref pairs :: later)).secrets.find? ref =
      some (.ofTexts pairs) := by
  rw [uses_append, uses_cons, find?_uses _ ref h, find?_use_insert]

end Bench

/-! ## Credentials of a secret made of texts -/

/-- A field of a secret made of texts is read as the last text that it is given. -/
theorem SecretData.read?_ofTexts (pairs : List (String × String)) (field : String) :
    (ofTexts pairs).read? field = pairs.reverse.lookup field := by
  rw [read?, getElem?_ofTexts, Option.map_map]
  have hback : Text.textOf ∘ Text.bytesOf = id := funext Text.textOf_bytesOf
  rw [hback, Option.map_id_fun, id]

/-- What credentials made of pairs of texts are to be. Each name stands for its last text, and the
texts come out as they were put in. -/
structure Credentials.MadeOf (pairs : List (String × String)) (iamEndpoint : String)
    (outcome : Except CredentialFailure Credentials) : Prop where
  /-- An API key wins, whatever else there is; its service instance id may be missing. -/
  apiKey : ∀ key, pairs.reverse.lookup "api-key" = some key →
    outcome = .ok ⟨.apiKey key (pairs.reverse.lookup "service-instance-id"), iamEndpoint⟩
  /-- Without an API key both halves of a pair of access keys are taken. -/
  accessKeys : ∀ accessKey secretKey, pairs.reverse.lookup "api-key" = none →
    pairs.reverse.lookup "access-key" = some accessKey →
    pairs.reverse.lookup "secret-key" = some secretKey →
    outcome = .ok ⟨.accessKeys accessKey secretKey, iamEndpoint⟩
  /-- Of the missing halves the access key is named first. -/
  noAccessKey : pairs.reverse.lookup "api-key" = none →
    pairs.reverse.lookup "access-key" = none →
    outcome = .error (.missingField "access-key")
  noSecretKey : ∀ accessKey, pairs.reverse.lookup "api-key" = none →
    pairs.reverse.lookup "access-key" = some accessKey →
    pairs.reverse.lookup "secret-key" = none →
    outcome = .error (.missingField "secret-key")

/-- Credentials of a secret made of texts are made of these texts. -/
theorem credentials_ofTexts (pairs : List (String × String)) (iamEndpoint : String) :
    Credentials.MadeOf pairs iamEndpoint
      (Credentials.ofSecret (.ofTexts pairs) iamEndpoint) := by
  simp only [Credentials.ofSecret, Credentials.requireField, SecretData.read?_ofTexts,
    Credentials.apiKeyField, Credentials.serviceInstanceIdField, Credentials.accessKeyField,
    Credentials.secretKeyField]
  constructor
  case apiKey =>
    intro key hkey
    rw [hkey]
  case accessKeys =>
    intro accessKey secretKey hkey haccess hsecret
    rw [hkey, haccess, hsecret]
    rfl
  case noAccessKey =>
    intro hkey haccess
    rw [hkey, haccess]
    rfl
  case noSecretKey =>
    intro accessKey hkey haccess hsecret
    rw [hkey, haccess, hsecret]
    rfl

/-! ## Resolutions -/

/-- What a resolution comes to on a bench whose store was used before. -/
structure Bench.Resolves (bench : Bench) (history : List StoreUse) (ref : SecretRef)
    (iamEndpoint : String) : Prop where
  /-- Every resolution so far made one look-up, and nothing else did. -/
  lookupsSoFar : (bench.uses history).lookups =
    bench.lookups ++ history.filterMap StoreUse.resolved?
  /-- It makes one look-up, whether or not it succeeds. -/
  lookups : ((bench.uses history).resolve ref iamEndpoint).2.lookups =
    (bench.uses history).lookups ++ [ref]
  /-- It changes no secret. -/
  secrets : ((bench.uses history).resolve ref iamEndpoint).2.secrets =
    (bench.uses history).secrets
  /-- It fails under its name and namespace if nothing was put there. -/
  missing : (∀ pairs, StoreUse.insert ref pairs ∉ history) →
    ((bench.uses history).resolve ref iamEndpoint).1 =
      .error (.lookup ref.name ref.namespaceName ("secrets \"" ++ ref.name ++ "\" not found"))
  /-- Else the credentials are those of the last insertion under this name and namespace. -/
  last : ∀ earlier pairs later, history = earlier ++ .insert ref pairs :: later →
    (∀ newer, StoreUse.insert ref newer ∉ later) →
    Credentials.MadeOf pairs iamEndpoint ((bench.uses history).resolve ref iamEndpoint).1
  /-- A secret under another reference, be it the swapped one, is not looked at. -/
  elsewhere : ∀ other pairs, other ≠ ref →
    ((bench.uses (history ++ [.insert other pairs])).resolve ref iamEndpoint).1 =
      ((bench.uses history).resolve ref iamEndpoint).1

/-- After any uses of a store that was empty before, a resolution makes one look-up, and it gives
the credentials that were last put under its reference, text for text. -/
theorem credential_resolution (bench : Bench) (history : List StoreUse) (ref : SecretRef)
    (iamEndpoint : String) : bench.emptied.Resolves history ref iamEndpoint := by
  constructor
  case lookupsSoFar => exact Bench.lookups_uses bench.emptied history
  case lookups => exact Bench.lookups_use (bench.emptied.uses history) (.resolve ref iamEndpoint)
  case secrets => rw [Bench.resolve_eq]
  case missing =>
    intro hnever
    have hfind : (bench.emptied.uses history).secrets.find? ref = none :=
      Bench.find?_uses bench.emptied ref hnever
    exact Bench.fst_resolve_none _ ref iamEndpoint hfind
  case last =>
    rintro earlier pairs later rfl hlast
    have hfind := Bench.find?_uses_last bench.emptied ref earlier pairs hlast
    rw [Bench.fst_resolve_some _ ref iamEndpoint hfind]
    exact credentials_ofTexts pairs iamEndpoint
  case elsewhere =>
    intro other pairs hne
    have hother : ∀ newer, StoreUse.insert other pairs ≠ .insert ref newer := by
      intro newer hsame
      exact hne (StoreUse.insert.inj hsame).1
    have hsame := Bench.find?_use_of_ne (bench.emptied.uses history) ref hother
    rw [Bench.uses_append]
    exact Bench.fst_resolve_congr hsame iamEndpoint

end BucketVolume
