import BucketVolume.Proofs.Descriptor
import BucketVolume.Proofs.Provisioning

/-!
# BucketVolume.Proofs.Relevance — the entries that provisioning reads

A request carries two maps that anybody may have written to. Provisioning reads fifteen keys of the
claim's and twelve of the storage class's, each through its text; two requests whose maps agree on
these are one request to it, whatever else they hold. The keys of descriptors and of the other map
are among the ignored ones, so a claim can neither choose the namespace of its secret nor set what
only its class may set.

* `ofAnnotations_congr`, `ofParameters_congr` — reading a claim or a class depends on its keys alone;
* `provision_congr` — requests that say the same are served by one activity;
* `Serves.namespaces` — look-ups and volumes stay in the namespace of the claim.
-/

namespace BucketVolume

open Activity

/-! ## Maps that say the same -/

namespace Annotations

/-- Two maps say the same under some keys; an empty text says no more than a missing one. -/
def AgreeOn (keys : List String) (m m' : Annotations) : Prop :=
  ∀ key ∈ keys, m.text key = m'.text key

variable {m m' : Annotations} {key : String}

theorem flag_congr (h : m.text key = m'.text key) : m.flag key = m'.flag key := by
  simp only [flag, h]

theorem integer_congr (h : m.text key = m'.text key) : m.integer key = m'.integer key := by
  simp only [integer, h]

/-- Maps that differ under foreign keys only agree on all keys that are not foreign. -/
theorem agreeOn_of_foreign {keys foreign : List String} (hkeys : ∀ key ∈ keys, key ∉ foreign)
    (h : ∀ key, key ∉ foreign → m[key]? = m'[key]?) : AgreeOn keys m m' := by
  intro key hkey
  rw [text, h key (hkeys key hkey), text]

end Annotations

/-- A claim is read from its own keys. -/
theorem Claim.ofAnnotations_congr {m m' : Annotations}
    (h : Annotations.AgreeOn writtenKeys m m') : ofAnnotations m = ofAnnotations m' := by
  have hknobs : ∀ knob : Knob, m.text knob.key = m'.text knob.key := by
    intro knob
    apply h
    cases knob <;> simp [writtenKeys, Knob.all]
  simp only [ofAnnotations, hknobs,
    Annotations.flag_congr (h Key.autoCreateBucket (by simp [writtenKeys])),
    Annotations.flag_congr (h Key.autoDeleteBucket (by simp [writtenKeys])),
    h Key.bucket (by simp [writtenKeys]), h Key.objectPath (by simp [writtenKeys]),
    h Key.endpoint (by simp [writtenKeys]), h Key.region (by simp [writtenKeys]),
    h Key.secretName (by simp [writtenKeys]),
    h Key.statCacheExpireSeconds (by simp [writtenKeys]),
    h Key.iamEndpoint (by simp [writtenKeys]), h Key.validateBucket (by simp [writtenKeys])]

/-- The keys from which a storage class is read. -/
def StorageClass.readKeys : List String :=
  Knob.all.map Knob.key ++ [Key.tlsCipherSuite, Key.debugLevel, Key.iamEndpoint,
    Key.objectStoreEndpoint, Key.objectStoreStorageClass, Key.curlDebug, Key.kernelCache]

/-- A storage class is read from its own keys. -/
theorem StorageClass.ofParameters_congr {m m' : Annotations}
    (h : Annotations.AgreeOn readKeys m m') : ofParameters m = ofParameters m' := by
  have hknobs : ∀ knob : Knob, m.integer knob.key = m'.integer knob.key := by
    intro knob
    apply Annotations.integer_congr
    apply h
    cases knob <;> simp [readKeys, Knob.all]
  simp only [ofParameters, hknobs,
    Annotations.flag_congr (h Key.curlDebug (by simp [readKeys])),
    Annotations.flag_congr (h Key.kernelCache (by simp [readKeys])),
    h Key.tlsCipherSuite (by simp [readKeys]), h Key.debugLevel (by simp [readKeys]),
    h Key.iamEndpoint (by simp [readKeys]), h Key.objectStoreEndpoint (by simp [readKeys]),
    h Key.objectStoreStorageClass (by simp [readKeys])]

/-! ## Requests that say the same -/

/-- Two requests differ at most in entries that nobody reads. -/
structure ProvisionRequest.SaysTheSame (request other : ProvisionRequest) : Prop where
  fields : other = { request with
    claimAnnotations := other.claimAnnotations
    classParameters := other.classParameters }
  claim : Annotations.AgreeOn Claim.writtenKeys request.claimAnnotations other.claimAnnotations
  cls : Annotations.AgreeOn StorageClass.readKeys request.classParameters other.classParameters

/-- Requests that say the same are served in the same way. -/
theorem Provisioner.provision_congr (provisioner : Provisioner) {request other : ProvisionRequest}
    (h : request.SaysTheSame other) : provisioner.provision request = provisioner.provision other := by
  have hresolved : ProvisionPlan.resolveRequest request = ProvisionPlan.resolveRequest other := by
    simp only [ProvisionPlan.resolveRequest, Claim.ofAnnotations_congr h.claim,
      StorageClass.ofParameters_congr h.cls]
  -- beyond the two maps, all that is used of a request is the same in both
  rw [h.fields] at hresolved ⊢
  simp only [provision, ProvisionPlan.prepare, hresolved]
  rfl

/-! ## Keys without effect -/

/-- Keys that mean nothing in a claim: that of the secret's namespace, which only volumes have, and
those that only a storage class has. -/
def Claim.foreignKeys : List String :=
  [Key.secretNamespace, Key.tlsCipherSuite, Key.debugLevel, Key.curlDebug, Key.kernelCache,
    Key.objectStoreEndpoint, Key.objectStoreStorageClass]

/-- Keys that mean nothing in a storage class: those that only a claim has. -/
def StorageClass.foreignKeys : List String :=
  [Key.autoCreateBucket, Key.autoDeleteBucket, Key.bucket, Key.objectPath, Key.secretName,
    Key.endpoint, Key.region, Key.validateBucket, Key.statCacheExpireSeconds]

theorem Claim.notMem_foreignKeys : ∀ key ∈ writtenKeys, key ∉ foreignKeys := by
  decide +kernel

theorem StorageClass.notMem_foreignKeys : ∀ key ∈ readKeys, key ∉ foreignKeys := by
  decide +kernel

/-! ## The namespace of the secret -/

/-- The volume of a plan remembers the namespace of its secret. -/
theorem ProvisionPlan.secretNamespace_persistentVolume (plan : ProvisionPlan)
    (request : ProvisionRequest) (driverName : String) :
    (plan.persistentVolume request driverName).annotations[Key.secretNamespace]? =
      some plan.secret.namespaceName :=
  plan.descriptor.getElem?_toAnnotations_secretNamespace

/-- Whichever way a claim is served, secrets are looked up in its namespace, and a volume remembers
that namespace. -/
theorem Provisioner.Serves.namespaces {provisioner : Provisioner} {host : Host}
    {request : ProvisionRequest} {tokens left : TokenSource} {earlier : List Call}
    {result : Except StageFailure PersistentVolume} {entries : List Entry}
    (h : Serves provisioner host request tokens earlier result left entries) :
    (∀ ref ∈ lookupsOf entries, ref.namespaceName = request.claimNamespace) ∧
      ∀ volume, result = .ok volume →
        volume.annotations[Key.secretNamespace]? = some request.claimNamespace := by
  have hsecret : ∀ {plan left}, ProvisionPlan.decided request tokens = (.ok plan, left) →
      plan.secret.namespaceName = request.claimNamespace := by
    intro plan left hdecided
    rw [ProvisionPlan.secret_of_decided hdecided, ProvisionRequest.claimSecret]
  cases h with
  | undecided decision => simp
  | @offline plan _ decision noSession =>
    refine ⟨by simp, fun volume hvolume => ?_⟩
    rw [← Except.ok.inj hvolume, plan.secretNamespace_persistentVolume, hsecret decision]
  | locked decision session fetched => simp [hsecret decision]
  | broken decision session fetched serve =>
    simp [hsecret decision, lookupsOf_serve serve]
  | @served plan _ credentials made decision session fetched serve =>
    refine ⟨by simp [hsecret decision, lookupsOf_serve serve], fun volume hvolume => ?_⟩
    rw [← Except.ok.inj hvolume, plan.secretNamespace_persistentVolume, hsecret decision]

/-! ## What a claim has a say in -/

/-- Provisioning listens to the keys of claims and classes and to no others, and keeps to the
namespace of the claim. -/
structure OwnKeysOnly (provisioner : Provisioner) (bench : Bench) : Prop where
  alike : ∀ request other, request.SaysTheSame other →
    bench.observe (provisioner.provision request) = bench.observe (provisioner.provision other)
  foreign : ∀ request claim cls,
    (∀ key, key ∉ Claim.foreignKeys → request.claimAnnotations[key]? = claim[key]?) →
    (∀ key, key ∉ StorageClass.foreignKeys → request.classParameters[key]? = cls[key]?) →
    bench.observe (provisioner.provision request) =
      bench.observe (provisioner.provision
        { request with claimAnnotations := claim, classParameters := cls })
  lookups : ∀ request, ∀ ref ∈ (bench.observe (provisioner.provision request)).lookups,
    ref.namespaceName = request.claimNamespace
  remembered : ∀ request volume,
    (bench.observe (provisioner.provision request)).result = .ok volume →
    volume.annotations[Key.secretNamespace]? = some request.claimNamespace

/-- What a claim has a say in, on every bench. -/
theorem own_keys_only (provisioner : Provisioner) (bench : Bench) :
    OwnKeysOnly provisioner bench := by
  have hnamespaces : ∀ request,
      (∀ ref ∈ (bench.observe (provisioner.provision request)).lookups,
        ref.namespaceName = request.claimNamespace) ∧
      ∀ volume, (bench.observe (provisioner.provision request)).result = .ok volume →
        volume.annotations[Key.secretNamespace]? = some request.claimNamespace := by
    intro request
    obtain ⟨result, left, entries, hperform, hserves⟩ := provisioner.provision_serves bench.host
      request bench.progress.tokens bench.progress.journal
    rw [bench.observe_eq hperform]
    exact hserves.namespaces
  constructor
  case alike =>
    intro request other h
    rw [provisioner.provision_congr h]
  case foreign =>
    intro request claim cls hclaim hcls
    have hsame : request.SaysTheSame
        { request with claimAnnotations := claim, classParameters := cls } := by
      refine ⟨rfl, ?_, ?_⟩
      · exact Annotations.agreeOn_of_foreign Claim.notMem_foreignKeys hclaim
      · exact Annotations.agreeOn_of_foreign StorageClass.notMem_foreignKeys hcls
    rw [provisioner.provision_congr hsame]
  case lookups => exact fun request => (hnamespaces request).1
  case remembered => exact fun request => (hnamespaces request).2

end BucketVolume
