import BucketVolume.Proofs.Merging
import BucketVolume.Proofs.Policy

/-!
# BucketVolume.Proofs.CopiedVolume — a claim that repeats what a volume remembers

The annotations of a volume are a claim again: the one it was made for, with the endpoints, the region
and the bucket spelled out that were used. If that claim is served for the same storage class, what is
spelled out wins over the class, so the same configuration comes out and the same volume is planned. But
a bucket that goes with its volume has a generated name, and no claim may give the name of such a bucket:
a copied descriptor owns nothing.

* `resolve_descriptor` — merging is done once, and then it stays;
* `bucketDecided_ofPlan_kept`, `bucketDecided_ofPlan_owned` — what becomes of the bucket;
* `resolveRequest_copying` — a request that repeats a volume is resolved like the first one;
* `decided_copying_kept`, `decided_copying_owned` — how it is decided;
* `copied_volume_served` — both, as a claim gets to see them.
-/

namespace BucketVolume

open Activity

/-! ## The configuration -/

theorem SchemedText.ne_empty {value : String} (h : SchemedText value) : value ≠ "" := by
  rintro rfl
  rcases h with h | h
  · exact absurd (List.prefix_nil.mp h) (by decide)
  · exact absurd (List.prefix_nil.mp h) (by decide)

namespace Configuration

/-- What has been merged is merged to itself, whatever bucket it is for. -/
theorem resolve_descriptor {claim : Claim} {cls : StorageClass} {config : Configuration}
    (h : resolve claim cls = .ok config) (bucket : BucketPlan) (secretNamespace : String) :
    resolve (VolumeDescriptor.ofPlan claim bucket config secretNamespace).claim cls = .ok config := by
  rcases resolve_ok_iff.mp h with ⟨hmergeable, hmerged⟩
  have hendpoint : SchemedText config.endpoint := by
    rw [hmerged.endpoint]
    exact hmergeable.endpoint
  have hiam : SchemedText config.iamEndpoint := by
    rw [hmerged.iamEndpoint]
    exact hmergeable.iamEndpoint
  -- a region that is left empty was empty on both sides
  have hregion : config.region = "" → cls.objectStoreStorageClass = "" := by
    intro hempty
    rw [hmerged.region] at hempty
    split at hempty
    · exact hempty
    next hsays => exact absurd hempty hsays
  rw [resolve_ok_iff]
  constructor
  · constructor
    case endpoint =>
      show SchemedText (if config.endpoint = "" then _ else config.endpoint)
      rwa [if_neg hendpoint.ne_empty]
    case iamEndpoint =>
      show SchemedText (if config.iamEndpoint = "" then _ else config.iamEndpoint)
      rwa [if_neg hiam.ne_empty]
    case knobs => exact hmergeable.knobs
    case expiry => exact hmergeable.expiry
  · constructor
    case endpoint => exact (if_neg hendpoint.ne_empty).symm
    case iamEndpoint => exact (if_neg hiam.ne_empty).symm
    case region =>
      show config.region = if config.region = "" then _ else config.region
      by_cases hempty : config.region = ""
      · rw [if_pos hempty, hregion hempty, hempty]
      · rw [if_neg hempty]
    case inherited => exact hmerged.inherited
    case overridden => exact hmerged.overridden
    case expiry => exact hmerged.expiry
    case tlsCipherSuite => exact hmerged.tlsCipherSuite
    case debugLevel => exact hmerged.debugLevel
    case curlDebug => exact hmerged.curlDebug
    case kernelCache => exact hmerged.kernelCache

end Configuration

/-! ## The bucket -/

namespace ProvisionPlan

variable {claim : Claim} {bucket : BucketPlan} {config : Configuration} {secretNamespace : String}
variable {others : TokenSource}

/-- With the name that it had, a claim that keeps its bucket is what the policy has seen before. -/
theorem bucketDecided_ofPlan_kept (hpolicy : claim.checkPolicy = .ok ())
    (hkept : claim.autoDeleteBucket = false) :
    bucketDecided
        (VolumeDescriptor.ofPlan claim (.named claim claim.bucket) config secretNamespace).claim others =
      (.ok (.named claim claim.bucket), others) := by
  have hsame : Claim.checkPolicy
      (VolumeDescriptor.ofPlan claim (.named claim claim.bucket) config secretNamespace).claim =
        .ok () := hpolicy
  rw [bucketDecided, hsame]
  exact if_neg (ne_true_of_eq_false hkept)

/-- With a name, a claim whose bucket goes with the volume breaks the rule on names, and no other. -/
theorem bucketDecided_ofPlan_owned (hpolicy : claim.checkPolicy = .ok ())
    (howned : claim.autoDeleteBucket = true) (hname : bucket.name ≠ "") :
    bucketDecided (VolumeDescriptor.ofPlan claim bucket config secretNamespace).claim others =
      (.error (.validation (.bucketWithAutoDelete bucket.name)), others) := by
  rcases Claim.checkPolicy_autoDelete hpolicy howned with ⟨hcreate, -, hpath⟩
  have hbroken : Claim.checkPolicy
      (VolumeDescriptor.ofPlan claim bucket config secretNamespace).claim =
        .error (.validation (.bucketWithAutoDelete bucket.name)) := by
    simp [Claim.checkPolicy, VolumeDescriptor.ofPlan, hcreate, hpath, howned, hname]
  rw [bucketDecided, hbroken]

end ProvisionPlan

/-! ## The request -/

/-- The request with the annotations of a volume in the place of its claim's. -/
def ProvisionRequest.copying (request : ProvisionRequest) (volume : PersistentVolume) :
    ProvisionRequest :=
  { request with claimAnnotations := volume.annotations }

namespace ProvisionPlan

variable {request : ProvisionRequest} {tokens left : TokenSource} {plan : ProvisionPlan}

/-- The claim that a plan's volume remembers is read from its annotations. -/
theorem claim_of_annotations (plan : ProvisionPlan) :
    Claim.ofAnnotations plan.descriptor.toAnnotations = .ok plan.descriptor.claim :=
  (VolumeDescriptor.read_parts plan.descriptor.ofAnnotations_toAnnotations).1

/-- A request that repeats a volume is resolved to the configuration of that volume. -/
theorem resolveRequest_copying (hresolved : resolveRequest request = .ok (plan.claim, plan.config))
    (driverName : String) :
    resolveRequest (request.copying (plan.persistentVolume request driverName)) =
      .ok (plan.descriptor.claim, plan.config) := by
  rcases parts_of_resolved hresolved with ⟨-, cls, hcls, hmerged⟩
  have hclaim : Claim.ofAnnotations
      (request.copying (plan.persistentVolume request driverName)).claimAnnotations =
      .ok plan.descriptor.claim := plan.claim_of_annotations
  have hagain : Configuration.resolve plan.descriptor.claim cls = .ok plan.config :=
    Configuration.resolve_descriptor hmerged plan.bucket plan.secret.namespaceName
  rw [resolveRequest, hclaim]
  show (StorageClass.ofParameters request.classParameters >>= fun cls => _) = _
  rw [hcls]
  show (Configuration.resolve plan.descriptor.claim cls >>= fun config => _) = _
  rw [hagain]
  rfl

/-- A claim that keeps its bucket is planned again as it was, and no token is asked for. -/
theorem decided_copying_kept (h : decided request tokens = (.ok plan, left))
    (hkept : plan.claim.autoDeleteBucket = false) (driverName : String) (others : TokenSource) :
    decided (request.copying (plan.persistentVolume request driverName)) others =
      (.ok { plan with claim := plan.descriptor.claim }, others) := by
  have hresolved := resolveRequest_copying (resolved_of_decided h) driverName
  unfold decided
  simp only [hresolved]
  rcases decides_of_decided h with ⟨-, -, autoDelete, -⟩ | ⟨-, policy, -⟩
  · exact absurd (hkept.symm.trans autoDelete) (by decide)
  · simp only [descriptor, bucketDecided_ofPlan_kept policy hkept]
    rfl

/-- A claim whose bucket goes with the volume is turned away, and no token is asked for. -/
theorem decided_copying_owned (h : decided request tokens = (.ok plan, left))
    (howned : plan.claim.autoDeleteBucket = true) (driverName : String) (others : TokenSource) :
    decided (request.copying (plan.persistentVolume request driverName)) others =
      (.error ⟨request.claimName, .validating, .validation (.bucketWithAutoDelete plan.bucket.name)⟩,
        others) := by
  have hresolved := resolveRequest_copying (resolved_of_decided h) driverName
  unfold decided
  simp only [hresolved]
  rcases decides_of_decided h with @⟨claim, _, token, _, -, policy, -, -⟩ | ⟨-, -, autoDelete⟩
  · have hname : (BucketPlan.named claim (generatedBucketName token)).name ≠ "" :=
      BucketPlan.generatedBucketName_ne_empty token
    simp only [descriptor, bucketDecided_ofPlan_owned policy howned hname]
    rfl
  · exact absurd (howned.symm.trans autoDelete) (by decide)

end ProvisionPlan

/-! ## What the copy gets -/

open ProvisionPlan

/-- What a request gets whose claim repeats the annotations of a volume that was planned for it. -/
structure CopyServed (request : ProvisionRequest) (plan : ProvisionPlan) (volume : PersistentVolume) :
    Prop where
  kept : ¬ request.Sets Key.autoDeleteBucket → ∀ (host : Host) (progress : Progress),
    ∃ again : ProvisionPlan,
      ((prepare (request.copying volume)).perform host progress).1 = .ok again ∧
      ((prepare (request.copying volume)).perform host progress).2.tokens = progress.tokens ∧
      again.config = plan.config ∧ again.bucket = plan.bucket ∧ again.secret = plan.secret ∧
      again.steps = plan.steps ∧
      ∀ driverName, again.persistentVolume (request.copying volume) driverName =
        plan.persistentVolume request driverName
  owned : request.Sets Key.autoDeleteBucket → ∀ (host : Host) (progress : Progress),
    ∃ failure : StageFailure,
      ((prepare (request.copying volume)).perform host progress).1 = .error failure ∧
      ((prepare (request.copying volume)).perform host progress).2.tokens = progress.tokens ∧
      failure.stage = .validating ∧ failure.kind = .validation

/-- A claim that repeats the annotations of its volume comes to the same volume, unless that volume owns
its bucket. -/
theorem copied_volume_served {request : ProvisionRequest} {host : Host} {progress : Progress}
    {plan : ProvisionPlan} (h : ((prepare request).perform host progress).1 = .ok plan)
    (driverName : String) :
    CopyServed request plan (plan.persistentVolume request driverName) := by
  rcases decided_of_perform h with ⟨left, hdecided⟩
  have hclaim := claim_of_resolved (resolved_of_decided hdecided)
  have hsets : plan.claim.autoDeleteBucket = true ↔ request.Sets Key.autoDeleteBucket :=
    Annotations.flag_eq_true_iff (Claim.readFrom hclaim).autoDeleteBucket
  constructor
  case kept =>
    rintro hnot host ⟨others, journal⟩
    have hkept : plan.claim.autoDeleteBucket = false := by
      rwa [← hsets, Bool.not_eq_true] at hnot
    rw [perform_prepare, decided_copying_kept hdecided hkept driverName others]
    exact ⟨_, rfl, rfl, rfl, rfl, rfl, rfl, fun _ => rfl⟩
  case owned =>
    rintro howned host ⟨others, journal⟩
    rw [perform_prepare, decided_copying_owned hdecided (hsets.mpr howned) driverName others]
    exact ⟨_, rfl, rfl, rfl, rfl⟩

/-! ### A claim that overrides half of its class -/

/-- A claim that overrides one endpoint and one integer of its class, with further entries. -/
def overridingRequest (entries : List (String × String)) : ProvisionRequest where
  volumeName := "volume"
  claimName := "claim"
  claimNamespace := "default"
  claimAnnotations := .ofList (entries ++ [
    (Key.secretName, "keys"), (Key.endpoint, "https://s3.test"), (Knob.chunkSizeMb.key, "+016"),
    (Key.statCacheExpireSeconds, "30")])
  classParameters := .ofList [
    (Key.objectStoreEndpoint, "s3.class"), (Key.iamEndpoint, "http://iam.class"),
    (Knob.chunkSizeMb.key, "52"), (Knob.parallelCount.key, "-1"), (Key.kernelCache, "T")]

/-- Its bucket is the claim's own. -/
def keptRequest : ProvisionRequest :=
  overridingRequest [(Key.bucket, "photos"), (Key.objectPath, "2024/"), (Key.validateBucket, "no")]

/-- Its bucket goes with the volume. -/
def ownedRequest : ProvisionRequest :=
  overridingRequest [(Key.autoCreateBucket, "t"), (Key.autoDeleteBucket, "1")]

theorem exists_plan_keptRequest :
    ∃ plan, ((prepare keptRequest).perform (Bench.start []).host (Bench.start []).progress).1 =
      .ok plan :=
  exists_of_isOk (by decide +kernel)

theorem exists_plan_ownedRequest :
    ∃ plan, ((prepare ownedRequest).perform (Bench.start []).host
      (Bench.start ["token"]).progress).1 = .ok plan :=
  exists_of_isOk (by decide +kernel)

theorem copied_volume_served_overriding :
    (¬ keptRequest.Sets Key.autoDeleteBucket ∧
      ∃ plan, ((prepare keptRequest).perform (Bench.start []).host (Bench.start []).progress).1 =
          .ok plan ∧
        CopyServed keptRequest plan (plan.persistentVolume keptRequest "driver")) ∧
    ownedRequest.Sets Key.autoDeleteBucket ∧
      ∃ plan, ((prepare ownedRequest).perform (Bench.start []).host
          (Bench.start ["token"]).progress).1 = .ok plan ∧
        CopyServed ownedRequest plan (plan.persistentVolume ownedRequest "driver") := by
  rcases exists_plan_keptRequest with ⟨kept, hkept⟩
  rcases exists_plan_ownedRequest with ⟨owned, howned⟩
  exact ⟨⟨by decide +kernel, kept, hkept, copied_volume_served hkept "driver"⟩,
    by decide +kernel, owned, howned, copied_volume_served howned "driver"⟩

end BucketVolume
