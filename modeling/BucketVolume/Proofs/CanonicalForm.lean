import BucketVolume.Proofs.Descriptor

/-!
# BucketVolume.Proofs.CanonicalForm — the one form in which a descriptor is written

Many maps of annotations say the same: flags have six words for either truth value, entries without a
text may be left out, and a host may add entries of its own. Reading such a map and writing it again
gives one form, which is told here entry by entry (`VolumeDescriptor.canonicalEntry`) from the texts
of the map alone.

* `flag_ok_iff`, `flag_error_iff` — when a flag is read, and how it is written then;
* `getElem?_toAnnotations_of_read` — the canonical form of a map that is read;
* `ofAnnotations_error_iff` — which maps are refused;
* `CanonicalCodec` — the laws of writing a descriptor and reading it, and that they hold.
-/

namespace BucketVolume

/-! ## Flags -/

namespace Annotations

variable {m : Annotations} {key : String}

/-- The word that is written for a flag: a flag that says nothing is not set. -/
theorem render_of_flag {b : Bool} (h : m.flag key = .ok b) :
    Flag.render b = if m.text key ∈ Flag.trueWords then "true" else "false" := by
  unfold flag at h
  by_cases hempty : m.text key = ""
  · simp only [hempty, if_true, Except.ok.injEq] at h ⊢
    rw [← h]
    decide
  · simp only [hempty, if_false, Flag.parse?] at h
    by_cases htrue : m.text key ∈ Flag.trueWords
    · simp only [htrue, if_true, Except.ok.injEq] at h ⊢
      rw [← h, Flag.render, if_pos rfl]
    · by_cases hfalse : m.text key ∈ Flag.falseWords
      · simp only [htrue, hfalse, if_true, if_false, Except.ok.injEq] at h ⊢
        rw [← h, Flag.render, if_neg (by decide)]
      · simp [htrue, hfalse] at h

/-- A flag is malformed exactly if it says something and that is none of the twelve words. -/
theorem flag_error_iff :
    (∃ failure, m.flag key = .error failure) ↔
      m.text key ≠ "" ∧ m.text key ∉ Flag.trueWords ++ Flag.falseWords := by
  rw [List.mem_append, not_or]
  unfold flag
  by_cases hempty : m.text key = ""
  · simp [hempty]
  · by_cases htrue : m.text key ∈ Flag.trueWords
    · simp [hempty, Flag.parse?, htrue]
    · by_cases hfalse : m.text key ∈ Flag.falseWords
      · simp [hempty, Flag.parse?, htrue, hfalse]
      · simp [hempty, Flag.parse?, htrue, hfalse]

end Annotations

/-! ## The texts that are read -/

namespace Claim

variable {m : Annotations} {claim : Claim}

/-- The keys of the flags. -/
def flagKeys : List String := [Key.autoCreateBucket, Key.autoDeleteBucket]

/-- The keys of the entries that are written only when their texts are not empty. -/
def optionalKeys : List String :=
  [Key.objectPath, Key.endpoint, Key.region] ++ Knob.all.map Knob.key ++
    [Key.statCacheExpireSeconds, Key.iamEndpoint, Key.validateBucket]

/-- A claim that is read holds the flags and the texts of its map. -/
theorem entries_of_read (h : ofAnnotations m = .ok claim) :
    ∃ create delete, m.flag Key.autoCreateBucket = .ok create ∧
      m.flag Key.autoDeleteBucket = .ok delete ∧
      claim.requiredEntries = [
        (Key.autoCreateBucket, Flag.render create), (Key.autoDeleteBucket, Flag.render delete),
        (Key.bucket, m.text Key.bucket), (Key.secretName, m.text Key.secretName)] ∧
      claim.optionalEntries = optionalKeys.map fun key => (key, m.text key) := by
  unfold ofAnnotations at h
  rcases hcreate : m.flag Key.autoCreateBucket with failure | create
  · rw [hcreate] at h
    cases h
  rcases hdelete : m.flag Key.autoDeleteBucket with failure | delete
  · rw [hcreate, hdelete] at h
    cases h
  rw [hcreate, hdelete] at h
  obtain rfl := Except.ok.inj h
  exact ⟨create, delete, rfl, rfl, rfl, rfl⟩

/-- A claim is refused exactly if one of its flags is malformed. -/
theorem ofAnnotations_error_iff :
    (∃ failure, ofAnnotations m = .error failure) ↔
      ∃ key ∈ flagKeys, ∃ failure, m.flag key = .error failure := by
  simp only [flagKeys, List.mem_cons, List.not_mem_nil, or_false, exists_eq_or_imp,
    exists_eq_left]
  unfold ofAnnotations
  rcases m.flag Key.autoCreateBucket with failure | create
  · simp [bind, Except.bind]
  · rcases m.flag Key.autoDeleteBucket with failure | delete
    · simp [bind, Except.bind]
    · simp [bind, Except.bind, pure, Except.pure]

end Claim

/-! ## The canonical form -/

namespace VolumeDescriptor

variable {m : Annotations} {descriptor : VolumeDescriptor}

/-- The keys of the texts that are always written. -/
def textKeys : List String := [Key.bucket, Key.secretName, Key.secretNamespace]

/-- What the canonical form of a map holds under a key. -/
def canonicalEntry (m : Annotations) (key : String) : Option String :=
  if key ∈ Claim.flagKeys then some (if m.text key ∈ Flag.trueWords then "true" else "false")
  else if key ∈ textKeys then some (m.text key)
  else if key ∈ Claim.optionalKeys then if m.text key = "" then none else some (m.text key)
  else none

/-- The keys under which a claim writes are those of flags, of texts and of optional entries. -/
theorem mem_writtenKeys {key : String} (hflag : key ∉ Claim.flagKeys) (htext : key ∉ textKeys)
    (hoptional : key ∉ Claim.optionalKeys) : key ∉ Claim.writtenKeys := by
  have hall : ∀ key ∈ Claim.writtenKeys,
      key ∈ Claim.flagKeys ∨ key ∈ textKeys ∨ key ∈ Claim.optionalKeys := by
    decide +kernel
  intro hkey
  rcases hall key hkey with h | h | h
  · exact hflag h
  · exact htext h
  · exact hoptional h

/-- A descriptor that is read was read from a claim and a namespace. -/
theorem read_parts (h : ofAnnotations m = .ok descriptor) :
    Claim.ofAnnotations m = .ok descriptor.claim ∧
      descriptor.secretNamespace = m.text Key.secretNamespace := by
  unfold ofAnnotations at h
  split at h
  · cases h
  next claim hclaim =>
    obtain rfl := Except.ok.inj h
    exact ⟨hclaim, rfl⟩

/-- What is written of a descriptor is the canonical form of the map that it was read from. -/
theorem getElem?_toAnnotations_of_read (h : ofAnnotations m = .ok descriptor) (key : String) :
    descriptor.toAnnotations[key]? = canonicalEntry m key := by
  rcases read_parts h with ⟨hclaim, hnamespace⟩
  rcases Claim.entries_of_read hclaim with ⟨create, delete, hcreate, hdelete, hrequired, hoptional⟩
  by_cases hkey : key = Key.secretNamespace
  · -- the namespace is no key of the claim
    subst hkey
    rw [getElem?_toAnnotations_secretNamespace, hnamespace, canonicalEntry, if_neg (by decide),
      if_pos (by decide)]
  rw [getElem?_toAnnotations_of_ne descriptor hkey, canonicalEntry]
  split
  next hflag =>
    simp only [Claim.flagKeys, List.mem_cons, List.not_mem_nil, or_false] at hflag
    rcases hflag with rfl | rfl
    · rw [← Annotations.render_of_flag hcreate]
      exact Claim.getElem?_toAnnotations_of_required (by simp [hrequired])
    · rw [← Annotations.render_of_flag hdelete]
      exact Claim.getElem?_toAnnotations_of_required (by simp [hrequired])
  next hflag =>
  split
  next htext =>
    simp only [textKeys, List.mem_cons, List.not_mem_nil, or_false, hkey] at htext
    rcases htext with rfl | rfl
    · exact Claim.getElem?_toAnnotations_of_required (by simp [hrequired])
    · exact Claim.getElem?_toAnnotations_of_required (by simp [hrequired])
  next htext =>
  split
  next hlisted =>
    apply Claim.getElem?_toAnnotations_of_optional
    rw [hoptional]
    exact List.mem_map.mpr ⟨key, hlisted, rfl⟩
  next hlisted =>
    exact Claim.getElem?_toAnnotations_of_notMem (mem_writtenKeys hflag htext hlisted)

/-- A map is refused exactly if one of its flags is malformed. -/
theorem ofAnnotations_error_iff :
    (∃ failure, ofAnnotations m = .error failure) ↔
      ∃ key ∈ Claim.flagKeys,
        m.text key ≠ "" ∧ m.text key ∉ Flag.trueWords ++ Flag.falseWords := by
  simp only [← Annotations.flag_error_iff, ← Claim.ofAnnotations_error_iff]
  unfold ofAnnotations
  rcases Claim.ofAnnotations m with failure | claim
  · simp
  · simp

/-- Reading gives back what was written, and writing gives one form for all maps that say the
same. -/
structure CanonicalCodec : Prop where
  lossless : ∀ descriptor, ofAnnotations descriptor.toAnnotations = .ok descriptor
  canonical : ∀ m descriptor, ofAnnotations m = .ok descriptor →
    ∀ key, descriptor.toAnnotations[key]? = canonicalEntry m key
  idempotent : ∀ m descriptor, ofAnnotations m = .ok descriptor →
    (ofAnnotations descriptor.toAnnotations).map toAnnotations = .ok descriptor.toAnnotations
  faithful : ∀ m m' descriptor descriptor', ofAnnotations m = .ok descriptor →
    ofAnnotations m' = .ok descriptor' →
    (descriptor = descriptor' ↔ descriptor.toAnnotations = descriptor'.toAnnotations)
  refused : ∀ m, (∃ failure, ofAnnotations m = .error failure) ↔
    ∃ key ∈ Claim.flagKeys, m.text key ≠ "" ∧ m.text key ∉ Flag.trueWords ++ Flag.falseWords
  refusal : ∀ m failure, ofAnnotations m = .error failure → failure.kind = .marshal

/-- The codec of descriptors loses nothing and has a canonical form. -/
theorem canonical_codec : CanonicalCodec := by
  constructor
  case lossless => exact ofAnnotations_toAnnotations
  case canonical =>
    intro m descriptor h key
    exact getElem?_toAnnotations_of_read h key
  case idempotent =>
    intro m descriptor _
    rw [ofAnnotations_toAnnotations]
    rfl
  case faithful =>
    intro m m' descriptor descriptor' _ _
    constructor
    · rintro rfl
      rfl
    · intro hsame
      -- both are read off the one map
      have hread := ofAnnotations_toAnnotations descriptor
      rw [hsame, ofAnnotations_toAnnotations] at hread
      exact (Except.ok.inj hread).symm
  case refused => exact fun m => ofAnnotations_error_iff
  case refusal => exact fun m failure h => kind_of_ofAnnotations h

end VolumeDescriptor

end BucketVolume
