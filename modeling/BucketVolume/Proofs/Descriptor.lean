import BucketVolume.Descriptor

/-!
# BucketVolume.Proofs.Descriptor — what is written to annotations is read back

Annotations are read through `Annotations.text`, which takes a missing entry for an empty text, so
that leaving an empty text out loses nothing. The laws of the three ways of writing say which entries
a map holds afterwards; the round trip of a claim, and of a descriptor, rests on them alone.

* `getElem?_insertAllNonEmpty_of_mem` — what becomes of a batch of entries under different keys;
* `getElem?_written_of_required`, `…_of_optional`, `…_of_notMem` — a map of required and optional ones;
* `map_text_written` — such a map loses none of them;
* `getElem?_toAnnotations_of_required`, `…_of_optional`, `…_of_notMem` — the entries of a claim;
* `ofAnnotations_toAnnotations` — reading what was written gives the descriptor back.
-/

namespace BucketVolume

namespace Annotations

/-! ## Entries that were written -/

theorem getElem?_ofList_of_nodup {entries : List (String × String)} {key value : String}
    (hkeys : (entries.map Prod.fst).Nodup) (h : (key, value) ∈ entries) :
    (Std.ExtTreeMap.ofList entries : Annotations)[key]? = some value := by
  refine Std.ExtTreeMap.getElem?_ofList_of_mem Std.ReflCmp.compare_self ?_ h
  rw [List.Nodup, List.pairwise_map] at hkeys
  exact hkeys.imp fun hne => by simpa using hne

theorem getElem?_ofList_of_notMem {entries : List (String × String)} {key : String}
    (h : key ∉ entries.map Prod.fst) :
    (Std.ExtTreeMap.ofList entries : Annotations)[key]? = none := by
  apply Std.ExtTreeMap.getElem?_ofList_of_contains_eq_false
  simpa using h

/-- Of entries that are written one after the other, the last one under a key stays. -/
theorem getElem?_foldl_insert {α β : Type} (f : α → β) (entries : List (String × α)) (key : String) :
    (entries.foldl (fun m entry => m.insert entry.1 (f entry.2))
      (∅ : Std.ExtTreeMap String β))[key]? = (entries.reverse.lookup key).map f := by
  rw [List.foldl_eq_foldr_reverse]
  induction entries.reverse with
  | nil => simp
  | cons entry rest ih =>
    rw [List.foldr_cons, Std.ExtTreeMap.getElem?_insert, ih, List.lookup_cons]
    by_cases h : entry.1 = key
    · simp [h]
    · have hother : (key == entry.1) = false := beq_false_of_ne (Ne.symm h)
      simp [h, hother]

theorem getElem?_insert_of_ne (m : Annotations) {key other : String} (value : String)
    (h : key ≠ other) : (m.insert key value)[other]? = m[other]? := by
  rw [Std.ExtTreeMap.getElem?_insert, if_neg (by simpa using h)]

theorem getElem?_insertNonEmpty_of_ne (m : Annotations) {key other : String} (value : String)
    (h : key ≠ other) : (m.insertNonEmpty key value)[other]? = m[other]? := by
  unfold insertNonEmpty
  split
  next => rfl
  next => exact getElem?_insert_of_ne m value h

theorem getElem?_insertNonEmpty_self {m : Annotations} {key : String} (value : String)
    (h : m[key]? = none) :
    (m.insertNonEmpty key value)[key]? = if value = "" then none else some value := by
  unfold insertNonEmpty
  split
  next => exact h
  next => exact Std.ExtTreeMap.getElem?_insert_self

theorem getElem?_insertAllNonEmpty_of_notMem (m : Annotations) {entries : List (String × String)}
    {key : String} (h : key ∉ entries.map Prod.fst) :
    (m.insertAllNonEmpty entries)[key]? = m[key]? := by
  induction entries generalizing m with
  | nil => rfl
  | cons entry rest ih =>
    rw [List.map_cons, List.mem_cons, not_or] at h
    have hrest := ih (m.insertNonEmpty entry.1 entry.2) h.2
    rw [insertAllNonEmpty, List.foldl_cons, ← insertAllNonEmpty, hrest]
    exact getElem?_insertNonEmpty_of_ne m entry.2 (Ne.symm h.1)

/-- Of a batch of entries under different keys, none of which was written before, those with a text
are there afterwards. -/
theorem getElem?_insertAllNonEmpty_of_mem {m : Annotations} {entries : List (String × String)}
    {key value : String} (hkeys : (entries.map Prod.fst).Nodup) (hentry : (key, value) ∈ entries)
    (hnew : m[key]? = none) :
    (m.insertAllNonEmpty entries)[key]? = if value = "" then none else some value := by
  induction entries generalizing m with
  | nil => cases hentry
  | cons entry rest ih =>
    rw [List.map_cons, List.nodup_cons] at hkeys
    rw [insertAllNonEmpty, List.foldl_cons, ← insertAllNonEmpty]
    rcases List.mem_cons.mp hentry with rfl | hrest
    · rw [getElem?_insertAllNonEmpty_of_notMem _ hkeys.1]
      exact getElem?_insertNonEmpty_self value hnew
    · have hne : entry.1 ≠ key := by
        rintro rfl
        exact hkeys.1 (List.mem_map.mpr ⟨_, hrest, rfl⟩)
      apply ih hkeys.2 hrest
      rw [getElem?_insertNonEmpty_of_ne m entry.2 hne, hnew]

/-! ## Texts and flags of entries -/

theorem text_of_getElem? {m : Annotations} {key value : String} (h : m[key]? = some value) :
    m.text key = value := by
  simp [text, h]

/-- An empty text may be left out. -/
theorem text_of_getElem?_nonEmpty {m : Annotations} {key value : String}
    (h : m[key]? = if value = "" then none else some value) : m.text key = value := by
  by_cases hempty : value = ""
  · simp [text, h, hempty]
  · simp [text, h, hempty]

theorem flag_of_text {m : Annotations} {key : String} {b : Bool} (h : m.text key = Flag.render b) :
    m.flag key = .ok b := by
  have hsome : Flag.render b ≠ "" := by
    cases b
    · decide
    · decide
  simp [flag, h, hsome]

/-! ## Maps of required and optional entries -/

/-- The map of some required entries, and of those optional ones that say something. -/
def written (required optional : List (String × String)) : Annotations :=
  insertAllNonEmpty (.ofList required) optional

section Written

variable {required optional : List (String × String)} {key value : String}

/-- A required entry is always there. -/
theorem getElem?_written_of_required (hkeys : ((required ++ optional).map Prod.fst).Nodup)
    (h : (key, value) ∈ required) : (written required optional)[key]? = some value := by
  rw [List.map_append, List.nodup_append] at hkeys
  rcases hkeys with ⟨hrequired, -, hdisjoint⟩
  have hnot : key ∉ optional.map Prod.fst := fun hother =>
    hdisjoint key (List.mem_map.mpr ⟨_, h, rfl⟩) key hother rfl
  rw [written, getElem?_insertAllNonEmpty_of_notMem _ hnot]
  exact getElem?_ofList_of_nodup hrequired h

/-- An optional entry is there if it says something. -/
theorem getElem?_written_of_optional (hkeys : ((required ++ optional).map Prod.fst).Nodup)
    (h : (key, value) ∈ optional) :
    (written required optional)[key]? = if value = "" then none else some value := by
  rw [List.map_append, List.nodup_append] at hkeys
  rcases hkeys with ⟨-, hoptional, hdisjoint⟩
  apply getElem?_insertAllNonEmpty_of_mem hoptional h
  apply getElem?_ofList_of_notMem
  intro hkey
  exact hdisjoint key hkey key (List.mem_map.mpr ⟨_, h, rfl⟩) rfl

/-- Nothing else is there. -/
theorem getElem?_written_of_notMem (h : key ∉ (required ++ optional).map Prod.fst) :
    (written required optional)[key]? = none := by
  rw [List.map_append, List.mem_append, not_or] at h
  rw [written, getElem?_insertAllNonEmpty_of_notMem _ h.2]
  exact getElem?_ofList_of_notMem h.1

/-- Every entry that had to be written can be read back. -/
theorem text_written_of_mem (hkeys : ((required ++ optional).map Prod.fst).Nodup)
    (h : (key, value) ∈ required ++ optional) : (written required optional).text key = value := by
  rcases List.mem_append.mp h with h | h
  · exact text_of_getElem? (getElem?_written_of_required hkeys h)
  · exact text_of_getElem?_nonEmpty (getElem?_written_of_optional hkeys h)

/-- The entries, optional ones without a text included, can be told from the map and the keys. -/
theorem map_text_written (hkeys : ((required ++ optional).map Prod.fst).Nodup) :
    ((required ++ optional).map Prod.fst).map (fun key => (key, (written required optional).text key)) =
      required ++ optional := by
  rw [List.map_map]
  refine (List.map_congr_left ?_).trans (List.map_id _)
  rintro ⟨key, value⟩ h
  exact congrArg (key, ·) (text_written_of_mem hkeys h)

end Written

end Annotations

/-! ## Claims -/

namespace Claim

/-- The entries that are always written. -/
def requiredEntries (claim : Claim) : List (String × String) :=
  [ (Key.autoCreateBucket, Flag.render claim.autoCreateBucket),
    (Key.autoDeleteBucket, Flag.render claim.autoDeleteBucket),
    (Key.bucket, claim.bucket),
    (Key.secretName, claim.secretName) ]

/-- The entries that are always written, as a map. -/
def requiredAnnotations (claim : Claim) : Annotations :=
  (∅ : Annotations)
    |>.insert Key.autoCreateBucket (Flag.render claim.autoCreateBucket)
    |>.insert Key.autoDeleteBucket (Flag.render claim.autoDeleteBucket)
    |>.insert Key.bucket claim.bucket
    |>.insert Key.secretName claim.secretName

theorem toAnnotations_eq (claim : Claim) :
    claim.toAnnotations = claim.requiredAnnotations.insertAllNonEmpty claim.optionalEntries := rfl

/-- The keys under which a claim writes, each once. -/
def writtenKeys : List String :=
  [Key.autoCreateBucket, Key.autoDeleteBucket, Key.bucket, Key.secretName,
    Key.objectPath, Key.endpoint, Key.region] ++ Knob.all.map Knob.key ++
    [Key.statCacheExpireSeconds, Key.iamEndpoint, Key.validateBucket]

theorem map_fst_entries (claim : Claim) :
    (claim.requiredEntries ++ claim.optionalEntries).map Prod.fst = writtenKeys := rfl

theorem nodup_writtenKeys : writtenKeys.Nodup := by
  decide +kernel

theorem requiredAnnotations_eq (claim : Claim) :
    claim.requiredAnnotations = .ofList claim.requiredEntries := by
  simp only [requiredAnnotations, requiredEntries, Std.ExtTreeMap.ofList_eq_insertMany_empty,
    Std.ExtTreeMap.insertMany_cons, Std.ExtTreeMap.insertMany_nil]

theorem toAnnotations_eq_written (claim : Claim) :
    claim.toAnnotations = .written claim.requiredEntries claim.optionalEntries := by
  rw [toAnnotations_eq, requiredAnnotations_eq, Annotations.written]

theorem nodup_entries (claim : Claim) :
    ((claim.requiredEntries ++ claim.optionalEntries).map Prod.fst).Nodup := by
  rw [map_fst_entries]
  exact nodup_writtenKeys

/-! ### The entries of a written claim -/

section Written

variable {claim : Claim} {key value : String}

/-- A required entry is always there. -/
theorem getElem?_toAnnotations_of_required (h : (key, value) ∈ claim.requiredEntries) :
    claim.toAnnotations[key]? = some value := by
  rw [toAnnotations_eq_written]
  exact Annotations.getElem?_written_of_required claim.nodup_entries h

/-- An optional entry is there if it says something. -/
theorem getElem?_toAnnotations_of_optional (h : (key, value) ∈ claim.optionalEntries) :
    claim.toAnnotations[key]? = if value = "" then none else some value := by
  rw [toAnnotations_eq_written]
  exact Annotations.getElem?_written_of_optional claim.nodup_entries h

/-- Nothing else is there. -/
theorem getElem?_toAnnotations_of_notMem (h : key ∉ writtenKeys) :
    claim.toAnnotations[key]? = none := by
  rw [← map_fst_entries claim] at h
  rw [toAnnotations_eq_written]
  exact Annotations.getElem?_written_of_notMem h

/-- Every entry that a claim has to write can be read back. -/
theorem text_toAnnotations_of_mem (h : (key, value) ∈ claim.requiredEntries ++ claim.optionalEntries) :
    claim.toAnnotations.text key = value := by
  rw [toAnnotations_eq_written]
  exact Annotations.text_written_of_mem claim.nodup_entries h

end Written

/-- A claim is read off any map that holds its texts. -/
theorem ofAnnotations_of_text {claim : Claim} {m : Annotations}
    (h : ∀ key value, (key, value) ∈ claim.requiredEntries ++ claim.optionalEntries →
      m.text key = value) :
    ofAnnotations m = .ok claim := by
  have hcreate := Annotations.flag_of_text
    (h Key.autoCreateBucket (Flag.render claim.autoCreateBucket) (by simp [requiredEntries]))
  have hdelete := Annotations.flag_of_text
    (h Key.autoDeleteBucket (Flag.render claim.autoDeleteBucket) (by simp [requiredEntries]))
  have hbucket := h Key.bucket claim.bucket (by simp [requiredEntries])
  have hsecret := h Key.secretName claim.secretName (by simp [requiredEntries])
  have hpath := h Key.objectPath claim.objectPath (by simp [optionalEntries])
  have hendpoint := h Key.endpoint claim.endpoint (by simp [optionalEntries])
  have hregion := h Key.region claim.region (by simp [optionalEntries])
  have hknobs : (Knobs.ofFn fun knob => m.text knob.key) = claim.knobs := by
    apply Knobs.ext_get
    intro knob
    rw [Knobs.get_ofFn]
    apply h
    cases knob <;> simp [optionalEntries, Knob.all]
  have hexpiry := h Key.statCacheExpireSeconds claim.statCacheExpireSeconds
    (by simp [optionalEntries])
  have hiam := h Key.iamEndpoint claim.iamEndpoint (by simp [optionalEntries])
  have hvalidate := h Key.validateBucket claim.validateBucket (by simp [optionalEntries])
  simp only [ofAnnotations, hcreate, hdelete, hbucket, hsecret, hpath, hendpoint, hregion, hknobs,
    hexpiry, hiam, hvalidate]
  rfl

end Claim

/-! ## Descriptors -/

namespace VolumeDescriptor

theorem secretNamespace_notMem_writtenKeys : Key.secretNamespace ∉ Claim.writtenKeys := by
  decide +kernel

/-- The namespace stands beside the entries of the claim. -/
theorem getElem?_toAnnotations_of_ne (descriptor : VolumeDescriptor) {key : String}
    (h : key ≠ Key.secretNamespace) :
    descriptor.toAnnotations[key]? = descriptor.claim.toAnnotations[key]? :=
  Annotations.getElem?_insert_of_ne _ _ (Ne.symm h)

/-- The namespace is always there. -/
theorem getElem?_toAnnotations_secretNamespace (descriptor : VolumeDescriptor) :
    descriptor.toAnnotations[Key.secretNamespace]? = some descriptor.secretNamespace :=
  Std.ExtTreeMap.getElem?_insert_self

/-- What was written of a descriptor is read back as it was. -/
theorem ofAnnotations_toAnnotations (descriptor : VolumeDescriptor) :
    ofAnnotations descriptor.toAnnotations = .ok descriptor := by
  have hclaim : Claim.ofAnnotations descriptor.toAnnotations = .ok descriptor.claim := by
    apply Claim.ofAnnotations_of_text
    intro key value hentry
    have hkey : key ≠ Key.secretNamespace := by
      rintro rfl
      apply secretNamespace_notMem_writtenKeys
      rw [← Claim.map_fst_entries descriptor.claim]
      exact List.mem_map.mpr ⟨_, hentry, rfl⟩
    rw [Annotations.text, getElem?_toAnnotations_of_ne descriptor hkey, ← Annotations.text]
    exact Claim.text_toAnnotations_of_mem hentry
  have hnamespace : descriptor.toAnnotations.text Key.secretNamespace =
      descriptor.secretNamespace :=
    Annotations.text_of_getElem? (getElem?_toAnnotations_secretNamespace descriptor)
  simp [ofAnnotations, hclaim, hnamespace]

/-- Whatever keeps a descriptor from being read is a malformed volume. -/
theorem kind_of_ofAnnotations {m : Annotations} {failure : Failure}
    (h : ofAnnotations m = .error failure) : failure.kind = .marshal := by
  unfold ofAnnotations at h
  split at h
  · obtain rfl := Except.error.inj h
    rfl
  · cases h

end VolumeDescriptor
end BucketVolume
