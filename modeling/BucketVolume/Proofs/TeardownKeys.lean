import BucketVolume.Proofs.CanonicalForm
import BucketVolume.Proofs.Relevance
import BucketVolume.Proofs.Teardown

/-!
# BucketVolume.Proofs.TeardownKeys — the entries that teardown reads

A host keeps the volumes that it was given, and may have edited them by the time it hands one back.
Reading a descriptor reads a whole claim, but only the flags of a claim can be malformed, so that
teardown comes to depend on eight entries and on nothing else of a volume but its name. A report
gives six of their texts back as they are, and the truth value of one flag; the other flag is only
checked.

* `map_teardownTarget_ofAnnotations` — what teardown takes from a map, in terms of its eight texts;
* `perform_ofVolume_congr`, `perform_delete_congr` — volumes with the same target are one to teardown;
* `entries_of_reported` — what a report tells of the volume that it was made of;
* `teardown_keys_only` — both ways together.
-/

namespace BucketVolume

open Activity

/-! ## What teardown takes from a map -/

namespace VolumeDescriptor

/-- The keys of the texts that make up a target. -/
def targetKeys : List String :=
  [Key.bucket, Key.secretName, Key.secretNamespace, Key.endpoint, Key.region, Key.iamEndpoint]

/-- The keys that teardown reads: both flags, and the texts of the target. -/
def teardownKeys : List String := Claim.flagKeys ++ targetKeys

/-- The target that the texts of a map describe. -/
def targetOf (m : Annotations) (owned : Bool) : TeardownTarget where
  secret := ⟨m.text Key.secretName, m.text Key.secretNamespace⟩
  bucket := m.text Key.bucket
  autoDeleteBucket := owned
  endpoint := m.text Key.endpoint
  region := m.text Key.region
  iamEndpoint := m.text Key.iamEndpoint

/-- Both flags have to be readable, although only the second one is part of the target. -/
theorem map_teardownTarget_ofAnnotations (m : Annotations) :
    (ofAnnotations m).map teardownTarget =
      match m.flag Key.autoCreateBucket, m.flag Key.autoDeleteBucket with
      | .error failure, _ => .error (.marshal failure.message)
      | .ok _, .error failure => .error (.marshal failure.message)
      | .ok _, .ok owned => .ok (targetOf m owned) := by
  unfold ofAnnotations Claim.ofAnnotations
  rcases m.flag Key.autoCreateBucket with failure | create
  · rfl
  · rcases m.flag Key.autoDeleteBucket with failure | owned
    · rfl
    · rfl

/-- Maps that agree on eight keys have the same target, or are refused in the same words. -/
theorem map_teardownTarget_congr {m m' : Annotations} (h : Annotations.AgreeOn teardownKeys m m') :
    (ofAnnotations m).map teardownTarget = (ofAnnotations m').map teardownTarget := by
  have hcreate := Annotations.flag_congr (h Key.autoCreateBucket (by decide))
  have hdelete := Annotations.flag_congr (h Key.autoDeleteBucket (by decide))
  have htarget : ∀ owned, targetOf m owned = targetOf m' owned := by
    intro owned
    simp only [targetOf, h Key.bucket (by decide), h Key.secretName (by decide),
      h Key.secretNamespace (by decide), h Key.endpoint (by decide), h Key.region (by decide),
      h Key.iamEndpoint (by decide)]
  simp only [map_teardownTarget_ofAnnotations, hcreate, hdelete, htarget]

end VolumeDescriptor

/-! ## Volumes with the same target -/

namespace PersistentVolume

/-- The target of a volume, or why it has none. -/
def target (volume : PersistentVolume) : Except Failure TeardownTarget :=
  (VolumeDescriptor.ofAnnotations volume.annotations).map VolumeDescriptor.teardownTarget

/-- Two volumes have one name, and say the same under the keys that teardown reads. -/
structure EndsAlike (volume other : PersistentVolume) : Prop where
  name : volume.name = other.name
  annotations : Annotations.AgreeOn VolumeDescriptor.teardownKeys volume.annotations
    other.annotations

theorem EndsAlike.target {volume other : PersistentVolume} (h : volume.EndsAlike other) :
    volume.target = other.target :=
  VolumeDescriptor.map_teardownTarget_congr h.annotations

end PersistentVolume

section Calls

variable {volume other : PersistentVolume}

/-- A report tells of a volume's target and of nothing else. -/
theorem TeardownReport.perform_ofVolume_eq (volume : PersistentVolume) (host : Host)
    (tokens : TokenSource) (journal : List Entry) :
    (ofVolume volume).perform host ⟨tokens, journal⟩ =
      ((volume.target.mapError (⟨volume.name, .parsingDescriptor, ·⟩)).map (ofTarget volume.name),
        ⟨tokens, journal ++ [.event (.volumeStageStarted volume.name .parsingDescriptor)]⟩) := by
  rw [perform_ofVolume, PersistentVolume.target]
  rcases VolumeDescriptor.ofAnnotations volume.annotations with failure | descriptor
  · rfl
  · rfl

/-- A teardown is settled by a volume's name and target. -/
theorem Provisioner.perform_delete_eq (provisioner : Provisioner) (volume : PersistentVolume)
    (host : Host) (tokens : TokenSource) (journal : List Entry) :
    (provisioner.delete volume).perform host ⟨tokens, journal⟩ =
      match volume.target with
      | .error failure =>
        (.error ⟨volume.name, .parsingDescriptor, failure⟩,
          ⟨tokens, journal ++ (provisioner.reading volume.name).map .event⟩)
      | .ok target =>
        Activity.perform
          (if target.autoDeleteBucket then deleteTarget volume.name target
            else emit (.bucketRetained volume.name target.bucket))
          host ⟨tokens, journal ++ (provisioner.reading volume.name).map .event⟩ := by
  simp only [delete, perform_bind, perform_emit, PersistentVolume.perform_readDescriptor,
    PersistentVolume.target]
  rcases VolumeDescriptor.ofAnnotations volume.annotations with failure | descriptor
  · simp [reading, Except.map]
  · simp [reading, Except.map]

theorem TeardownReport.perform_ofVolume_congr (h : volume.EndsAlike other) (host : Host)
    (progress : Progress) :
    (ofVolume volume).perform host progress = (ofVolume other).perform host progress := by
  rcases progress with ⟨tokens, journal⟩
  rw [perform_ofVolume_eq, perform_ofVolume_eq, h.target, h.name]

theorem Provisioner.perform_delete_congr (h : volume.EndsAlike other) (provisioner : Provisioner)
    (host : Host) (progress : Progress) :
    (provisioner.delete volume).perform host progress =
      (provisioner.delete other).perform host progress := by
  rcases progress with ⟨tokens, journal⟩
  rw [perform_delete_eq, perform_delete_eq, h.target, h.name]

end Calls

/-! ## What a report tells -/

/-- A volume reports a teardown, whoever asks. -/
def PersistentVolume.Reports (volume : PersistentVolume) (report : TeardownReport) : Prop :=
  ∃ host progress, ((TeardownReport.ofVolume volume).perform host progress).1 = .ok report

/-- A report gives six entries of its volume back, and the truth value of a seventh. -/
theorem PersistentVolume.Reports.entries {volume : PersistentVolume} {report : TeardownReport}
    (h : volume.Reports report) :
    volume.annotations.flag Key.autoDeleteBucket = .ok report.deleteBucket ∧
      report = .ofTarget volume.name
        (VolumeDescriptor.targetOf volume.annotations report.deleteBucket) := by
  rcases h with ⟨host, ⟨tokens, journal⟩, h⟩
  rw [TeardownReport.perform_ofVolume_eq] at h
  rcases exists_of_map_ok h with ⟨target, htarget, rfl⟩
  have hread := ok_of_mapError_ok _ htarget
  rw [PersistentVolume.target, VolumeDescriptor.map_teardownTarget_ofAnnotations] at hread
  split at hread
  · cases hread
  · cases hread
  next owned _ hdelete =>
    obtain rfl := Except.ok.inj hread
    exact ⟨hdelete, rfl⟩

/-- Volumes with one report agree on all texts of their target. -/
theorem PersistentVolume.agreeOn_of_reports {volume other : PersistentVolume}
    {report : TeardownReport} (h : volume.Reports report) (hother : other.Reports report) :
    Annotations.AgreeOn VolumeDescriptor.targetKeys volume.annotations other.annotations := by
  have hsame := h.entries.2.symm.trans hother.entries.2
  simp only [TeardownReport.ofTarget, VolumeDescriptor.targetOf, TeardownReport.mk.injEq] at hsame
  rcases hsame with ⟨-, hbucket, -, hname, hnamespace, hendpoint, hregion, hiam⟩
  simp only [Annotations.AgreeOn, VolumeDescriptor.targetKeys, List.forall_mem_cons,
    List.not_mem_nil, false_implies, implies_true, and_true]
  exact ⟨hbucket, hname, hnamespace, hendpoint, hregion, hiam⟩

/-! ## Eight keys -/

/-- Teardown tells two volumes apart by their names and by eight entries, and its report tells what
seven of these entries say. -/
structure TeardownKeysOnly (volume other : PersistentVolume) : Prop where
  reported : volume.EndsAlike other → ∀ host progress,
    (TeardownReport.ofVolume volume).perform host progress =
      (TeardownReport.ofVolume other).perform host progress
  tornDown : volume.EndsAlike other → ∀ (provisioner : Provisioner) (bench : Bench),
    bench.observe (provisioner.delete volume) = bench.observe (provisioner.delete other)
  texts : ∀ report, volume.Reports report → other.Reports report →
    Annotations.AgreeOn VolumeDescriptor.targetKeys volume.annotations other.annotations
  owned : ∀ report, volume.Reports report → other.Reports report →
    ∃ owned, volume.annotations.flag Key.autoDeleteBucket = .ok owned ∧
      other.annotations.flag Key.autoDeleteBucket = .ok owned

/-- Teardown depends on eight keys, whatever else a volume holds. -/
theorem teardown_keys_only (volume other : PersistentVolume) : TeardownKeysOnly volume other := by
  constructor
  case reported => exact fun h host progress => TeardownReport.perform_ofVolume_congr h host progress
  case tornDown =>
    intro h provisioner bench
    have hperform := Provisioner.perform_delete_congr h provisioner bench.host bench.progress
    simp only [Bench.observe, Bench.perform, hperform]
  case texts => exact fun report => PersistentVolume.agreeOn_of_reports
  case owned =>
    intro report h hother
    exact ⟨report.deleteBucket, h.entries.1, hother.entries.1⟩

/-- A number that no claim could be served with, a path and a note of the host make no difference. -/
example :
    PersistentVolume.EndsAlike
      { name := "volume", annotations := .ofList [(Key.bucket, "kept")] }
      { name := "volume", capacity := "1Gi"
        annotations := .ofList [(Key.bucket, "kept"), (Key.autoDeleteBucket, ""),
          (Knob.chunkSizeMb.key, "many"), (Key.objectPath, "path"), ("note", "edited")] } := by
  refine ⟨rfl, ?_⟩
  unfold Annotations.AgreeOn
  decide +kernel

end BucketVolume
