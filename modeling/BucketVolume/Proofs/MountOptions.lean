import BucketVolume.Proofs.CopiedVolume

/-!
# BucketVolume.Proofs.MountOptions — the mount driver is told the whole configuration

The options of a mount are one flat map of fifteen texts. Nothing is lost in it: every name is used once,
integers and flags are written so that they can be read back, and a text that is left out was empty. So a
configuration, the name of the bucket and the path inside it can be told from the options
(`toOptions_inj_iff`).

A volume holds its options beside its annotations, and six texts stand in both. They are taken from
different structures, the options from the merged configuration and the plan of the bucket, the
annotations from the claim; for a plan that was decided they are the same.

* `toOptions_eq_written` — what is always written, and what only if it says something;
* `toOptions_inj_iff` — equal options come from equal configurations;
* `getElem?_toOptions_knob`, `overrideInteger_renderInt64` — integers, as options and as overrides;
* `coherent_of_decided`, `options_eq_annotations` — what a volume says twice;
* `mount_options_law` — all of it.
-/

namespace BucketVolume

open Activity

theorem Flag.render_inj {b c : Bool} (h : Flag.render b = Flag.render c) : b = c := by
  have hparsed := congrArg Flag.parse? h
  rwa [Flag.parse?_render, Flag.parse?_render, Option.some_inj] at hparsed

/-! ## The written options -/

namespace MountOptions

/-- The options that are always written: integers and flags. -/
def requiredEntries (options : MountOptions) : List (String × String) :=
  Knob.all.map (fun knob => (knob.option, Decimal.renderInt64 (options.config.knobs.get knob))) ++
  [ (OptionName.curlDebug, Flag.render options.config.curlDebug),
    (OptionName.kernelCache, Flag.render options.config.kernelCache) ]

/-- The names under which options are written, each once. -/
def optionNames : List String :=
  Knob.all.map Knob.option ++
  [OptionName.curlDebug, OptionName.kernelCache, OptionName.tlsCipherSuite, OptionName.debugLevel,
    OptionName.statCacheExpireSeconds, OptionName.iamEndpoint, OptionName.objectStoreEndpoint,
    OptionName.objectStoreStorageClass, OptionName.bucket, OptionName.objectPath]

theorem map_fst_entries (options : MountOptions) :
    (options.requiredEntries ++ options.textEntries).map Prod.fst = optionNames := rfl

theorem nodup_optionNames : optionNames.Nodup := by
  decide +kernel

theorem nodup_entries (options : MountOptions) :
    ((options.requiredEntries ++ options.textEntries).map Prod.fst).Nodup := by
  rw [map_fst_entries]
  exact nodup_optionNames

theorem toOptions_eq_written (options : MountOptions) :
    options.toOptions = .written options.requiredEntries options.textEntries := by
  rw [Annotations.written, Std.ExtTreeMap.ofList_eq_foldl, requiredEntries, List.foldl_append,
    List.foldl_map]
  rfl

/-- All that was to be written can be told from the options. -/
theorem map_text_toOptions (options : MountOptions) :
    optionNames.map (fun name => (name, options.toOptions.text name)) =
      options.requiredEntries ++ options.textEntries := by
  rw [← map_fst_entries options, toOptions_eq_written]
  exact Annotations.map_text_written options.nodup_entries

/-! ## Options and configurations -/

/-- Equal options come from equal configurations, for one bucket and one path inside it. -/
theorem toOptions_inj_iff {options other : MountOptions} :
    options.toOptions = other.toOptions ↔
      options.config = other.config ∧ options.bucket = other.bucket ∧
        options.objectPath.getD "" = other.objectPath.getD "" := by
  constructor
  · intro h
    have hentries : options.requiredEntries ++ options.textEntries =
        other.requiredEntries ++ other.textEntries := by
      rw [← map_text_toOptions, ← map_text_toOptions, h]
    rcases List.append_inj hentries (by simp [requiredEntries]) with ⟨hrequired, htexts⟩
    rcases List.append_inj hrequired (by simp) with ⟨hnumbers, hflags⟩
    have hknobs : options.config.knobs = other.config.knobs := by
      apply Knobs.ext_get
      intro knob
      have hall := List.map_inj_left.mp hnumbers knob (by cases knob <;> decide)
      exact Decimal.renderInt64_inj (Prod.mk.inj hall).2
    simp only [List.cons.injEq, Prod.mk.injEq, true_and, and_true] at hflags
    simp only [textEntries, List.cons.injEq, Prod.mk.injEq, true_and, and_true] at htexts
    rcases hflags with ⟨hcurl, hkernel⟩
    rcases htexts with ⟨htls, hdebug, hexpiry, hiam, hendpoint, hregion, hbucket, hpath⟩
    refine ⟨?_, hbucket, hpath⟩
    rw [Configuration.mk.injEq]
    exact ⟨hendpoint, hiam, hregion, hknobs, hexpiry, htls, hdebug, Flag.render_inj hcurl,
      Flag.render_inj hkernel⟩
  · rintro ⟨hconfig, hbucket, hpath⟩
    rw [toOptions_eq_written, toOptions_eq_written, requiredEntries, requiredEntries, textEntries,
      textEntries, hconfig, hbucket, hpath]

/-- An integer is always there, in decimal. -/
theorem getElem?_toOptions_knob (options : MountOptions) (knob : Knob) :
    options.toOptions[knob.option]? =
      some (Decimal.renderInt64 (options.config.knobs.get knob)) := by
  rw [toOptions_eq_written]
  apply Annotations.getElem?_written_of_required options.nodup_entries
  apply List.mem_append_left
  exact List.mem_map.mpr ⟨knob, by cases knob <;> decide, rfl⟩

/-- A text is there if it says something. -/
theorem getElem?_toOptions_text {options : MountOptions} {name value : String}
    (h : (name, value) ∈ options.textEntries) :
    options.toOptions[name]? = if value = "" then none else some value := by
  rw [toOptions_eq_written]
  exact Annotations.getElem?_written_of_optional options.nodup_entries h

end MountOptions

/-- The decimal text of an integer overrides with that integer. -/
theorem Configuration.overrideInteger_renderInt64 (field : String) (n inherited : Int64) :
    overrideInteger field (Decimal.renderInt64 n) inherited = .ok n := by
  have hdenotes := Decimal.denotes_renderInt64 n
  rw [overrideInteger_ok_iff]
  refine ⟨fun hempty => ?_, fun _ => hdenotes⟩
  exact absurd (congrArg String.toList hempty) hdenotes.ne_nil

/-! ## What a volume says twice -/

/-- The options that repeat an annotation of their volume, each with the key of that annotation. -/
def sharedOptions : List (String × String) :=
  [ (OptionName.bucket, Key.bucket),
    (OptionName.objectStoreEndpoint, Key.endpoint),
    (OptionName.objectStoreStorageClass, Key.region),
    (OptionName.iamEndpoint, Key.iamEndpoint),
    (OptionName.objectPath, Key.objectPath),
    (OptionName.statCacheExpireSeconds, Key.statCacheExpireSeconds) ]

namespace ProvisionPlan

variable {request : ProvisionRequest} {tokens left : TokenSource} {plan : ProvisionPlan}

/-- A plan has a bucket with a name, and says what its claim says of the path inside it and of the
expiry. -/
structure Coherent (plan : ProvisionPlan) : Prop where
  isNamed : plan.bucket.name ≠ ""
  objectPath : plan.bucket.objectPath.getD "" = plan.claim.objectPath
  expiry : plan.config.statCacheExpireSeconds = plan.claim.statCacheExpireSeconds

theorem getD_objectPath_named (claim : Claim) (name : String) :
    (BucketPlan.named claim name).objectPath.getD "" = claim.objectPath := by
  by_cases hpath : claim.objectPath = "" <;> simp [BucketPlan.named, hpath]

/-- A plan that was decided is coherent. -/
theorem coherent_of_decided (h : decided request tokens = (.ok plan, left)) : plan.Coherent := by
  rcases parts_of_resolved (resolved_of_decided h) with ⟨-, cls, -, hmerged⟩
  have hexpiry := (Configuration.resolve_ok_iff.mp hmerged).2.expiry
  rcases decides_of_decided h with @⟨claim, _, token, _, -, -, -, -⟩ | @⟨claim, _, -, policy, kept⟩
  · exact ⟨BucketPlan.generatedBucketName_ne_empty token, getD_objectPath_named claim _, hexpiry⟩
  · exact ⟨(Claim.checkPolicy_ok_iff.mp policy).2.2 kept, getD_objectPath_named claim _, hexpiry⟩

/-- An optional entry of the claim that a volume remembers is among the annotations if it says
something. -/
theorem getElem?_annotations_of_optional {key value : String} (hkey : key ≠ Key.secretNamespace)
    (h : (key, value) ∈ plan.descriptor.claim.optionalEntries) :
    plan.descriptor.toAnnotations[key]? = if value = "" then none else some value := by
  rw [plan.descriptor.getElem?_toAnnotations_of_ne hkey]
  exact Claim.getElem?_toAnnotations_of_optional h

/-- The name of the bucket is always among the annotations. -/
theorem getElem?_annotations_bucket (plan : ProvisionPlan) :
    plan.descriptor.toAnnotations[Key.bucket]? = some plan.bucket.name := by
  rw [plan.descriptor.getElem?_toAnnotations_of_ne (by decide)]
  apply Claim.getElem?_toAnnotations_of_required
  simp [Claim.requiredEntries, descriptor, VolumeDescriptor.ofPlan]

/-- What a volume says twice, it says the same both times. -/
theorem options_eq_annotations (hplan : plan.Coherent) {name key : String}
    (h : (name, key) ∈ sharedOptions) :
    plan.mountOptions.toOptions[name]? = plan.descriptor.toAnnotations[key]? := by
  -- but for the name of the bucket, both are texts that may be left out
  have hoptional : ∀ {name key : String} (value : String), key ≠ Key.secretNamespace →
      (name, value) ∈ plan.mountOptions.textEntries →
      (key, value) ∈ plan.descriptor.claim.optionalEntries →
      plan.mountOptions.toOptions[name]? = plan.descriptor.toAnnotations[key]? := by
    intro name key value hkey hoption hannotation
    rw [MountOptions.getElem?_toOptions_text hoption, getElem?_annotations_of_optional hkey hannotation]
  simp only [sharedOptions, List.mem_cons, Prod.mk.injEq, List.not_mem_nil, or_false] at h
  rcases h with ⟨rfl, rfl⟩ | ⟨rfl, rfl⟩ | ⟨rfl, rfl⟩ | ⟨rfl, rfl⟩ | ⟨rfl, rfl⟩ | ⟨rfl, rfl⟩
  · have hname : (OptionName.bucket, plan.bucket.name) ∈ plan.mountOptions.textEntries := by
      simp [MountOptions.textEntries, mountOptions, MountOptions.ofPlan]
    rw [MountOptions.getElem?_toOptions_text hname, getElem?_annotations_bucket, if_neg hplan.isNamed]
  · apply hoptional plan.config.endpoint (by decide)
    · simp [MountOptions.textEntries, mountOptions, MountOptions.ofPlan]
    · simp [Claim.optionalEntries, descriptor, VolumeDescriptor.ofPlan]
  · apply hoptional plan.config.region (by decide)
    · simp [MountOptions.textEntries, mountOptions, MountOptions.ofPlan]
    · simp [Claim.optionalEntries, descriptor, VolumeDescriptor.ofPlan]
  · apply hoptional plan.config.iamEndpoint (by decide)
    · simp [MountOptions.textEntries, mountOptions, MountOptions.ofPlan]
    · simp [Claim.optionalEntries, descriptor, VolumeDescriptor.ofPlan]
  · apply hoptional plan.claim.objectPath (by decide)
    · simp [MountOptions.textEntries, mountOptions, MountOptions.ofPlan, hplan.objectPath]
    · simp [Claim.optionalEntries, descriptor, VolumeDescriptor.ofPlan]
  · apply hoptional plan.claim.statCacheExpireSeconds (by decide)
    · simp [MountOptions.textEntries, mountOptions, MountOptions.ofPlan, hplan.expiry]
    · simp [Claim.optionalEntries, descriptor, VolumeDescriptor.ofPlan]

end ProvisionPlan

/-! ## The law -/

open ProvisionPlan

/-- The options of a mount tell the configuration that it was made for, the name of its bucket and the
path inside that; and each integer among them is read back where a claim would override it. -/
structure OptionsTell (config : Configuration) (bucket : BucketPlan) : Prop where
  injective : ∀ (other : Configuration) (otherBucket : BucketPlan),
    (MountOptions.ofPlan config bucket).toOptions =
        (MountOptions.ofPlan other otherBucket).toOptions ↔
      config = other ∧ bucket.name = otherBucket.name ∧
        bucket.objectPath.getD "" = otherBucket.objectPath.getD ""
  integers : ∀ knob : Knob, ∃ text,
    (MountOptions.ofPlan config bucket).toOptions[knob.option]? = some text ∧
      ∀ (field : String) (inherited : Int64),
        parseKeyedInt64 field text = .ok (config.knobs.get knob) ∧
          Configuration.overrideInteger field text inherited = .ok (config.knobs.get knob)

/-- A volume says what it says twice the same both times, or leaves it out both times. -/
def PersistentVolume.SaysAlike (volume : PersistentVolume) : Prop :=
  ∀ name key, (name, key) ∈ sharedOptions →
    volume.flexVolume.options[name]? = volume.annotations[key]?

/-- Options of mounts keep the whole configuration, and a planned volume does not contradict itself. -/
theorem mount_options_law :
    (∀ (config : Configuration) (bucket : BucketPlan), OptionsTell config bucket) ∧
    ∀ (request : ProvisionRequest) (host : Host) (progress : Progress) (plan : ProvisionPlan),
      ((prepare request).perform host progress).1 = .ok plan →
      ∀ driverName, (plan.persistentVolume request driverName).SaysAlike := by
  constructor
  · intro config bucket
    constructor
    case injective => exact fun other otherBucket => MountOptions.toOptions_inj_iff
    case integers =>
      intro knob
      refine ⟨_, MountOptions.getElem?_toOptions_knob _ knob, fun field inherited => ⟨?_, ?_⟩⟩
      · exact (Configuration.parseKeyedInt64_ok_iff field).mpr (Decimal.denotes_renderInt64 _)
      · exact Configuration.overrideInteger_renderInt64 field _ inherited
  · intro request host progress plan hplan driverName name key hshared
    rcases decided_of_perform hplan with ⟨left, hdecided⟩
    exact options_eq_annotations (coherent_of_decided hdecided) hshared

theorem mount_options_law_kept :
    ∃ plan, ((prepare keptRequest).perform (Bench.start []).host (Bench.start []).progress).1 =
        .ok plan ∧
      OptionsTell plan.config plan.bucket ∧
      (plan.persistentVolume keptRequest "driver").SaysAlike := by
  rcases exists_plan_keptRequest with ⟨plan, h⟩
  exact ⟨plan, h, mount_options_law.1 _ _, mount_options_law.2 _ _ _ plan h "driver"⟩

end BucketVolume
