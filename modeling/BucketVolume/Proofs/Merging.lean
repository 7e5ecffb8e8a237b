import BucketVolume.Proofs.Decimal
import BucketVolume.Proofs.OfflineChecks

/-!
# BucketVolume.Proofs.Merging — where the values of a configuration come from

Merging a claim with its storage class draws thirteen values from twenty-seven, most of them texts and
integers that could be taken for one another. The law of merging says of each value which one it is
(`MergedFrom`) and what has to be right for there to be any (`Mergeable`), both in terms of the texts
alone. A value that the other side overrides, or that merging does not name, has no say.

* `requireHttpScheme_ok_iff`, `overrideInteger_ok_iff`, `checkExpiry_ok_iff` — each rule by itself;
* `resolve_ok_iff` — the configurations that a claim and a class merge to;
* `resolve_class_congr`, `resolve_claim_congr` — the values without a say;
* `merge_law` — the law.
-/

namespace BucketVolume.Configuration

variable {claim : Claim} {cls : StorageClass} {config : Configuration}

/-! ## The rules, one by one -/

theorem requireHttpScheme_ok_iff (field value : String) :
    requireHttpScheme field value = .ok () ↔ SchemedText value := by
  rw [← OfflineCheck.schemeRefusal?_eq_none_iff, ← failure?_requireHttpScheme field value,
    failure?_eq_none_iff]
  constructor
  · exact fun h => ⟨(), h⟩
  · rintro ⟨⟨⟩, h⟩
    exact h

theorem parseKeyedInt64_ok_iff (key : String) {text : String} {n : Int64} :
    parseKeyedInt64 key text = .ok n ↔ Decimal.Denotes text.toList n.toInt := by
  rw [← Decimal.parseInt64_ok_iff, parseKeyedInt64]
  constructor
  · exact ok_of_mapError_ok _
  · intro h
    rw [h, mapError_ok]

/-- An integer is inherited where the claim says nothing, and else the one that the claim's text
denotes. -/
theorem overrideInteger_ok_iff {field text : String} {inherited n : Int64} :
    overrideInteger field text inherited = .ok n ↔
      (text = "" → n = inherited) ∧ (text ≠ "" → Decimal.Denotes text.toList n.toInt) := by
  unfold overrideInteger
  by_cases hempty : text = ""
  · simp [hempty, eq_comm]
  · simp [hempty, parseKeyedInt64_ok_iff]

/-- An expiry is handed on as it is, if it says nothing or is the text of an integer that is not
negative. -/
theorem checkExpiry_ok_iff {text checked : String} :
    checkExpiry text = .ok checked ↔ checked = text ∧
      (text = "" ∨ ∃ n : Int64, Decimal.Denotes text.toList n.toInt ∧ 0 ≤ n.toInt) := by
  unfold checkExpiry
  by_cases hempty : text = ""
  · simp [hempty, eq_comm]
  · simp only [hempty, if_false, false_or, ← parseKeyedInt64_ok_iff Key.statCacheExpireSeconds]
    rcases parseKeyedInt64 Key.statCacheExpireSeconds text with failure | n
    · simp
    · have hsign : n < 0 ↔ ¬ 0 ≤ n.toInt := by
        rw [Int64.lt_iff_toInt_lt, Int.not_le]
        rfl
      by_cases hn : 0 ≤ n.toInt
      · simp [hsign, hn, eq_comm]
      · simp [hsign, hn]

theorem overrideText_eq (text inherited : String) :
    overrideText text inherited = if text = "" then inherited else text := rfl

/-! ## Merging -/

/-- What has to be right before a claim and a class are merged: both endpoints have a scheme, and what
the claim says of integers are decimal texts in range, none of them negative for the expiry. -/
structure Mergeable (claim : Claim) (cls : StorageClass) : Prop where
  endpoint : SchemedText (if claim.endpoint = "" then cls.objectStoreEndpoint else claim.endpoint)
  iamEndpoint : SchemedText (if claim.iamEndpoint = "" then cls.iamEndpoint else claim.iamEndpoint)
  knobs : ∀ knob, claim.knobs.get knob = "" ∨
    ∃ n : Int64, Decimal.Denotes (claim.knobs.get knob).toList n.toInt
  expiry : claim.statCacheExpireSeconds = "" ∨
    ∃ n : Int64, Decimal.Denotes claim.statCacheExpireSeconds.toList n.toInt ∧ 0 ≤ n.toInt

/-- The one source of each value of a configuration. -/
structure MergedFrom (claim : Claim) (cls : StorageClass) (config : Configuration) : Prop where
  endpoint : config.endpoint =
    if claim.endpoint = "" then cls.objectStoreEndpoint else claim.endpoint
  iamEndpoint : config.iamEndpoint =
    if claim.iamEndpoint = "" then cls.iamEndpoint else claim.iamEndpoint
  region : config.region =
    if claim.region = "" then cls.objectStoreStorageClass else claim.region
  inherited : ∀ knob, claim.knobs.get knob = "" → config.knobs.get knob = cls.knobs.get knob
  overridden : ∀ knob, claim.knobs.get knob ≠ "" →
    Decimal.Denotes (claim.knobs.get knob).toList (config.knobs.get knob).toInt
  expiry : config.statCacheExpireSeconds = claim.statCacheExpireSeconds
  tlsCipherSuite : config.tlsCipherSuite = cls.tlsCipherSuite
  debugLevel : config.debugLevel = cls.debugLevel
  curlDebug : config.curlDebug = cls.curlDebug
  kernelCache : config.kernelCache = cls.kernelCache

/-- What is merged was mergeable, and each of its values has its source. -/
theorem merged_of_resolve (h : resolve claim cls = .ok config) :
    Mergeable claim cls ∧ MergedFrom claim cls config := by
  rcases exists_of_bind_ok h with ⟨⟨⟩, hendpoint, h⟩
  rcases exists_of_bind_ok h with ⟨⟨⟩, hiam, h⟩
  rcases exists_of_bind_ok h with ⟨fuseRetryCount, hfuse, h⟩
  rcases exists_of_bind_ok h with ⟨chunkSizeMb, hchunk, h⟩
  rcases exists_of_bind_ok h with ⟨parallelCount, hparallel, h⟩
  rcases exists_of_bind_ok h with ⟨multireqMax, hmultireq, h⟩
  rcases exists_of_bind_ok h with ⟨statCacheSize, hcache, h⟩
  rcases exists_of_bind_ok h with ⟨expiry, hexpiry, h⟩
  obtain rfl := Except.ok.inj h
  obtain ⟨rfl, hexpires⟩ := checkExpiry_ok_iff.mp hexpiry
  -- the integers, as one family
  have hknobs : ∀ knob, overrideKnob claim cls knob = .ok (Knobs.get
      ⟨chunkSizeMb, parallelCount, multireqMax, statCacheSize, fuseRetryCount⟩ knob) := by
    intro knob
    cases knob with
    | chunkSizeMb => exact hchunk
    | parallelCount => exact hparallel
    | multireqMax => exact hmultireq
    | statCacheSize => exact hcache
    | fuseRetryCount => exact hfuse
  constructor
  · constructor
    case endpoint => exact (requireHttpScheme_ok_iff _ _).mp hendpoint
    case iamEndpoint => exact (requireHttpScheme_ok_iff _ _).mp hiam
    case knobs =>
      intro knob
      by_cases hsilent : claim.knobs.get knob = ""
      · exact .inl hsilent
      · exact .inr ⟨_, (overrideInteger_ok_iff.mp (hknobs knob)).2 hsilent⟩
    case expiry => exact hexpires
  · constructor
    case inherited => exact fun knob => (overrideInteger_ok_iff.mp (hknobs knob)).1
    case overridden => exact fun knob => (overrideInteger_ok_iff.mp (hknobs knob)).2
    all_goals rfl

/-- What is mergeable is merged to the configuration whose values have these sources. -/
theorem resolve_of_merged (h : Mergeable claim cls) (hmerged : MergedFrom claim cls config) :
    resolve claim cls = .ok config := by
  have hendpoint : requireHttpScheme Key.objectStoreEndpoint config.endpoint = .ok () := by
    rw [requireHttpScheme_ok_iff, hmerged.endpoint]
    exact h.endpoint
  have hiam : requireHttpScheme Key.iamEndpoint config.iamEndpoint = .ok () := by
    rw [requireHttpScheme_ok_iff, hmerged.iamEndpoint]
    exact h.iamEndpoint
  have hknobs : ∀ knob, overrideKnob claim cls knob = .ok (config.knobs.get knob) := by
    intro knob
    exact overrideInteger_ok_iff.mpr ⟨hmerged.inherited knob, hmerged.overridden knob⟩
  have hexpiry : checkExpiry config.statCacheExpireSeconds = .ok config.statCacheExpireSeconds := by
    rw [checkExpiry_ok_iff, hmerged.expiry]
    exact ⟨rfl, h.expiry⟩
  simp only [resolve, overrideText_eq, ← hmerged.endpoint, ← hmerged.iamEndpoint, ← hmerged.region,
    ← hmerged.expiry, ← hmerged.tlsCipherSuite, ← hmerged.debugLevel, ← hmerged.curlDebug,
    ← hmerged.kernelCache, hendpoint, hiam, hknobs, hexpiry]
  rfl

/-- The configurations that a claim and a class merge to: one, if they can be merged. -/
theorem resolve_ok_iff :
    resolve claim cls = .ok config ↔ Mergeable claim cls ∧ MergedFrom claim cls config :=
  ⟨merged_of_resolve, fun h => resolve_of_merged h.1 h.2⟩

/-- There is a configuration with these sources for all that can be merged. -/
theorem Mergeable.exists_merged (h : Mergeable claim cls) :
    ∃ config, MergedFrom claim cls config := by
  have hknobs : ∀ knob, ∃ n : Int64, (claim.knobs.get knob = "" → n = cls.knobs.get knob) ∧
      (claim.knobs.get knob ≠ "" → Decimal.Denotes (claim.knobs.get knob).toList n.toInt) := by
    intro knob
    by_cases hsilent : claim.knobs.get knob = ""
    · exact ⟨cls.knobs.get knob, fun _ => rfl, fun hsays => absurd hsilent hsays⟩
    · rcases h.knobs knob with hsilent' | ⟨n, hn⟩
      · exact absurd hsilent' hsilent
      · exact ⟨n, fun hsilent' => absurd hsilent' hsilent, fun _ => hn⟩
  choose n hn using hknobs
  refine ⟨{
    endpoint := overrideText claim.endpoint cls.objectStoreEndpoint
    iamEndpoint := overrideText claim.iamEndpoint cls.iamEndpoint
    region := overrideText claim.region cls.objectStoreStorageClass
    knobs := .ofFn n
    statCacheExpireSeconds := claim.statCacheExpireSeconds
    tlsCipherSuite := cls.tlsCipherSuite
    debugLevel := cls.debugLevel
    curlDebug := cls.curlDebug
    kernelCache := cls.kernelCache }, ?_⟩
  constructor
  case inherited =>
    intro knob
    rw [Knobs.get_ofFn]
    exact (hn knob).1
  case overridden =>
    intro knob
    rw [Knobs.get_ofFn]
    exact (hn knob).2
  all_goals rfl

/-! ## Values without a say -/

/-- Two classes differ only where a claim overrides them. -/
structure AlikeUnder (claim : Claim) (cls other : StorageClass) : Prop where
  endpoint : claim.endpoint = "" → cls.objectStoreEndpoint = other.objectStoreEndpoint
  iamEndpoint : claim.iamEndpoint = "" → cls.iamEndpoint = other.iamEndpoint
  region : claim.region = "" → cls.objectStoreStorageClass = other.objectStoreStorageClass
  knobs : ∀ knob, claim.knobs.get knob = "" → cls.knobs.get knob = other.knobs.get knob
  tlsCipherSuite : cls.tlsCipherSuite = other.tlsCipherSuite
  debugLevel : cls.debugLevel = other.debugLevel
  curlDebug : cls.curlDebug = other.curlDebug
  kernelCache : cls.kernelCache = other.kernelCache

theorem overrideText_congr {text inherited other : String} (h : text = "" → inherited = other) :
    overrideText text inherited = overrideText text other := by
  unfold overrideText
  by_cases hempty : text = ""
  · rw [if_pos hempty, if_pos hempty, h hempty]
  · rw [if_neg hempty, if_neg hempty]

theorem overrideInteger_congr {field text : String} {inherited other : Int64}
    (h : text = "" → inherited = other) :
    overrideInteger field text inherited = overrideInteger field text other := by
  unfold overrideInteger
  by_cases hempty : text = ""
  · rw [if_pos hempty, if_pos hempty, h hempty]
  · rw [if_neg hempty, if_neg hempty]

/-- What a claim overrides in a class has no say, whether merging succeeds or not. -/
theorem resolve_class_congr {other : StorageClass} (h : AlikeUnder claim cls other) :
    resolve claim cls = resolve claim other := by
  have hknobs : ∀ knob, overrideKnob claim cls knob = overrideKnob claim other knob :=
    fun knob => overrideInteger_congr (h.knobs knob)
  simp only [resolve, hknobs, overrideText_congr h.endpoint, overrideText_congr h.iamEndpoint,
    overrideText_congr h.region, h.tlsCipherSuite, h.debugLevel, h.curlDebug, h.kernelCache]

/-- What merging does not name in a claim has no say. -/
theorem resolve_claim_congr (claim : Claim) (cls : StorageClass) (create delete : Bool)
    (bucket objectPath secretName validateBucket : String) :
    resolve { claim with
      autoCreateBucket := create, autoDeleteBucket := delete, bucket := bucket
      objectPath := objectPath, secretName := secretName, validateBucket := validateBucket } cls =
    resolve claim cls := rfl

/-! ## The law -/

/-- The law of merging a claim with a storage class. -/
structure MergeLaw (claim : Claim) (cls : StorageClass) : Prop where
  succeeds : (∃ config, resolve claim cls = .ok config) ↔ Mergeable claim cls
  sources : ∀ config, resolve claim cls = .ok config → MergedFrom claim cls config
  overridden : ∀ other, AlikeUnder claim cls other → resolve claim cls = resolve claim other
  unnamed : ∀ create delete bucket objectPath secretName validateBucket,
    resolve { claim with
      autoCreateBucket := create, autoDeleteBucket := delete, bucket := bucket
      objectPath := objectPath, secretName := secretName, validateBucket := validateBucket } cls =
    resolve claim cls

/-- Every claim and every class are merged by the law. -/
theorem merge_law (claim : Claim) (cls : StorageClass) : MergeLaw claim cls := by
  constructor
  case succeeds =>
    constructor
    · rintro ⟨config, h⟩
      exact (resolve_ok_iff.mp h).1
    · intro h
      rcases h.exists_merged with ⟨config, hmerged⟩
      exact ⟨config, resolve_ok_iff.mpr ⟨h, hmerged⟩⟩
  case sources => exact fun config h => (resolve_ok_iff.mp h).2
  case overridden => exact fun other h => resolve_class_congr h
  case unnamed => exact resolve_claim_congr claim cls

end BucketVolume.Configuration
