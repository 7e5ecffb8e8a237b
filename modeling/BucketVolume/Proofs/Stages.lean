import BucketVolume.Proofs.OfflineChecks
import BucketVolume.Proofs.Provisioning
import BucketVolume.Proofs.Teardown

/-!
# BucketVolume.Proofs.Stages — the stage that a failure names is the one that was running

A call says which stage it starts, in lines of its log; it says where it failed, in its result; and
it goes through its stages, in its code. Nothing ties the three together but the order in which they
are written. Here each of the courses that a call can take is checked against the stages that were to
be expected of it:

* `LogLine.startedStage?` — the stage that a line names, and the claim or volume in whose call, read
  off the line as it is written;
* `marksOf_eq_nil` — whatever a session reports, it names no stage;
* `Staged` — the stages that a call names are the first of the planned ones, and the last of them is
  the one that a failure is blamed on;
* `Announced` — a volume is announced exactly by the calls that return one, at their very end.
-/

namespace BucketVolume

open Activity

/-! ## Lines as they are written -/

/-- The stage that a text names. -/
def Stage.ofLabel? : String → Option Stage
  | "resolving configuration" => some .resolving
  | "validating configuration" => some .validating
  | "resolving credentials" => some .credentialResolution
  | "executing bucket lifecycle" => some .lifecycleExecution
  | "building volume descriptor" => some .descriptorBuilding
  | "parsing volume descriptor" => some .parsingDescriptor
  | "deleting bucket" => some .bucketDelete
  | _ => none

theorem Stage.ofLabel?_label (stage : Stage) : ofLabel? stage.label = some stage := by
  cases stage <;> rfl

namespace LogLine

/-- The field in which a line says whose call it is about, given by its target. -/
def subjectField? (line : LogLine) : Option String :=
  if line.target = "s3fs_provisioner::provision" then some "claim"
  else if line.target = "s3fs_provisioner::teardown" then some "volume"
  else none

/-- Whether the line says that a stage has started. The target has to be looked at, since a note of
the backend can have any wording. -/
def startsStage (line : LogLine) : Bool :=
  line.message = "stage started" ∧ line.subjectField?.isSome

/-- The claim or volume and the stage that the line names. -/
def startedStage? (line : LogLine) : Option (String × Stage) := do
  let subject ← line.fields.lookup (← line.subjectField?)
  let stage ← Stage.ofLabel? (← line.fields.lookup "stage")
  return (subject, stage)

/-- Whether the line says that a volume is provisioned. -/
def announcesVolume (line : LogLine) : Bool :=
  line.target = "s3fs_provisioner::provision" ∧ line.message = "volume provisioned"

end LogLine

/-- The line that announces a volume. -/
def volumeLine (clusterId claim bucket : String) : LogLine :=
  ⟨"INFO", "s3fs_provisioner::provision", "volume provisioned",
    [("cluster_id", clusterId), ("claim", claim), ("bucket", bucket)]⟩

namespace Event

variable {claim volume bucket clusterId : String} {stage : Stage}

@[simp] theorem startsStage_lifecycleStarted :
    (lifecycleStarted claim bucket).line.startsStage = true := rfl

@[simp] theorem startsStage_volumeStageStarted :
    (volumeStageStarted volume stage).line.startsStage = true := rfl

@[simp] theorem startsStage_bucketRetained :
    (bucketRetained volume bucket).line.startsStage = false := rfl

@[simp] theorem startedStage?_lifecycleStarted :
    (lifecycleStarted claim bucket).line.startedStage? = some (claim, .lifecycleExecution) := rfl

@[simp] theorem startedStage?_volumeStageStarted :
    (volumeStageStarted volume stage).line.startedStage? = some (volume, stage) := by
  -- both fields are there, so only the label of the stage is left to be read
  show (Stage.ofLabel? stage.label).bind (fun named => some (volume, named)) = _
  rw [Stage.ofLabel?_label]
  rfl

@[simp] theorem announcesVolume_claimStageStarted :
    (claimStageStarted claim stage).line.announcesVolume = false := rfl

@[simp] theorem announcesVolume_lifecycleStarted :
    (lifecycleStarted claim bucket).line.announcesVolume = false := rfl

@[simp] theorem line_volumeProvisioned :
    (volumeProvisioned clusterId claim bucket).line = volumeLine clusterId claim bucket := rfl

end Event

@[simp] theorem announcesVolume_volumeLine (clusterId claim bucket : String) :
    (volumeLine clusterId claim bucket).announcesVolume = true := rfl

/-- The stages that events say have started, each with the claim or volume in whose call, as their
lines have it. A line that says so without naming them is kept as `none`. -/
def marksOf (events : List Event) : List (Option (String × Stage)) :=
  ((events.map Event.line).filter LogLine.startsStage).map LogLine.startedStage?

/-- The lines of events that announce a volume. -/
def announcementsOf (events : List Event) : List LogLine :=
  (events.map Event.line).filter LogLine.announcesVolume

section

variable {event : Event} {a b events rest : List Event}

@[simp] theorem marksOf_nil : marksOf [] = [] := rfl

@[simp] theorem marksOf_append : marksOf (a ++ b) = marksOf a ++ marksOf b := by
  simp [marksOf]

@[simp] theorem marksOf_cons :
    marksOf (event :: rest) =
      (if event.line.startsStage then [event.line.startedStage?] else []) ++ marksOf rest := by
  cases h : event.line.startsStage <;> simp [marksOf, h]

@[simp] theorem announcementsOf_nil : announcementsOf [] = [] := rfl

@[simp] theorem announcementsOf_append :
    announcementsOf (a ++ b) = announcementsOf a ++ announcementsOf b := by
  simp [announcementsOf]

@[simp] theorem announcementsOf_cons :
    announcementsOf (event :: rest) =
      (if event.line.announcesVolume then [event.line] else []) ++ announcementsOf rest := by
  cases h : event.line.announcesVolume <;> simp [announcementsOf, h]

/-- The lines of work on buckets have its target. -/
theorem target_of_mem_lines {line : LogLine} (h : ∀ event ∈ events, event.target = .buckets)
    (hline : line ∈ events.map Event.line) : line.target = "s3fs_provisioner::buckets" := by
  rcases List.mem_map.mp hline with ⟨event, hevent, rfl⟩
  rw [Event.line, h event hevent, EventTarget.label]

/-- What is reported of work on buckets names no stage. -/
theorem marksOf_eq_nil (h : ∀ event ∈ events, event.target = .buckets) : marksOf events = [] := by
  rw [marksOf, List.map_eq_nil_iff, List.filter_eq_nil_iff]
  intro line hline
  simp [LogLine.startsStage, LogLine.subjectField?, target_of_mem_lines h hline]

/-- What is reported of work on buckets announces no volume. -/
theorem announcementsOf_eq_nil (h : ∀ event ∈ events, event.target = .buckets) :
    announcementsOf events = [] := by
  rw [announcementsOf, List.filter_eq_nil_iff]
  intro line hline
  simp [LogLine.announcesVolume, target_of_mem_lines h hline]

end

/-- A descriptor that is read holds what the annotations say of a claim. -/
theorem VolumeDescriptor.claim_of_read {m : Annotations} {descriptor : VolumeDescriptor}
    (h : ofAnnotations m = .ok descriptor) : descriptor.claim.ReadFrom m := by
  unfold ofAnnotations at h
  split at h
  · cases h
  · next claim hclaim =>
    rw [← Except.ok.inj h]
    exact Claim.readFrom hclaim

/-! ## The stages to be expected -/

/-- The stages of a provision call that goes through, given the decision of its request. -/
def ProvisionPlan.stages : Except StageFailure ProvisionPlan → List Stage
  | .error _ => [.resolving, .validating]
  | .ok plan =>
    [.resolving, .validating] ++
      (if plan.bucket.requiresSession then [.credentialResolution, .lifecycleExecution] else []) ++
      [.descriptorBuilding]

/-- The stages of a teardown that goes through. -/
def PersistentVolume.teardownStages (volume : PersistentVolume) : List Stage :=
  .parsingDescriptor ::
    match volume.annotations.flag Key.autoDeleteBucket with
    | .ok true => [.credentialResolution, .bucketDelete]
    | _ => []

/-- Whether a bucket is to be deleted is read off the volume in the same way by both. -/
theorem PersistentVolume.teardownStages_of_read {volume : PersistentVolume}
    {descriptor : VolumeDescriptor}
    (h : VolumeDescriptor.ofAnnotations volume.annotations = .ok descriptor) :
    volume.teardownStages = .parsingDescriptor ::
      if descriptor.teardownTarget.autoDeleteBucket then [.credentialResolution, .bucketDelete]
      else [] := by
  rw [teardownStages, (VolumeDescriptor.claim_of_read h).autoDeleteBucket]
  cases hflag : descriptor.claim.autoDeleteBucket
  all_goals
    simp [VolumeDescriptor.teardownTarget, hflag]

/-- The marks of stages that start one after the other in the call of a claim or volume. -/
def marksFor (subject : String) (stages : List Stage) : List (Option (String × Stage)) :=
  stages.map fun stage => some (subject, stage)

@[simp] theorem marksFor_nil (subject : String) : marksFor subject [] = [] := rfl

@[simp] theorem marksFor_cons (subject : String) (stage : Stage) (rest : List Stage) :
    marksFor subject (stage :: rest) = some (subject, stage) :: marksFor subject rest := rfl

@[simp] theorem marksFor_append (subject : String) (a b : List Stage) :
    marksFor subject (a ++ b) = marksFor subject a ++ marksFor subject b :=
  List.map_append

/-- A call that reports the planned stages, in their order and in the name of its subject, as far as
it gets; and that blames a failure on the last stage that it reported. -/
structure Staged {α : Type} (subject : String) (planned : List Stage) (seen : Observation α) :
    Prop where
  begun : marksOf seen.events ≠ []
  inOrder : marksOf seen.events <+: marksFor subject planned
  completed : ∀ value, seen.result = .ok value → marksOf seen.events = marksFor subject planned
  stopped : ∀ failure, seen.result = .error failure →
    failure.subject = subject ∧
      (marksOf seen.events).getLast? = some (some (failure.subject, failure.stage))

section Staged

variable {α : Type} {subject : String} {planned : List Stage} {seen : Observation α}

theorem Staged.of_completed {value : α} (hresult : seen.result = .ok value) (hsome : planned ≠ [])
    (hmarks : marksOf seen.events = marksFor subject planned) : Staged subject planned seen := by
  constructor
  case begun => simpa [hmarks, marksFor] using hsome
  case inOrder => exact hmarks ▸ List.prefix_refl _
  case completed => exact fun _ _ => hmarks
  case stopped =>
    intro failure h
    rw [hresult] at h
    cases h

/-- A call that fails in a planned stage, having reported all up to it. -/
theorem Staged.of_stopped {failure : StageFailure} (before after : List Stage)
    (hresult : seen.result = .error failure) (hsubject : failure.subject = subject)
    (hplanned : planned = before ++ failure.stage :: after)
    (hmarks : marksOf seen.events = marksFor subject (before ++ [failure.stage])) :
    Staged subject planned seen := by
  constructor
  case begun => simp [hmarks]
  case inOrder => exact ⟨marksFor subject after, by simp [hmarks, hplanned]⟩
  case completed =>
    intro value h
    rw [hresult] at h
    cases h
  case stopped =>
    intro other h
    rw [hresult, Except.error.injEq] at h
    simp [← h, hsubject, hmarks]

end Staged

/-! ## The announcement of a volume -/

/-- A call that announces a volume exactly if it returns one: once, at the end, with its bucket. -/
structure Announced (clusterId claim : String) (seen : Observation PersistentVolume) : Prop where
  succeeded : (∃ volume, seen.result = .ok volume) ↔ announcementsOf seen.events ≠ []
  once : (announcementsOf seen.events).length ≤ 1
  last : ∀ volume, seen.result = .ok volume →
    (seen.events.map Event.line).getLast? =
      some (volumeLine clusterId claim (volume.annotations.text Key.bucket))

section Announced

variable {clusterId claim : String} {seen : Observation PersistentVolume}

theorem Announced.of_failed {failure : StageFailure} (hresult : seen.result = .error failure)
    (hnone : announcementsOf seen.events = []) : Announced clusterId claim seen := by
  constructor
  case succeeded =>
    refine iff_of_false ?_ (not_not_intro hnone)
    rintro ⟨volume, h⟩
    rw [hresult] at h
    cases h
  case once => simp [hnone]
  case last =>
    intro volume h
    rw [hresult] at h
    cases h

/-- A call that succeeds and announces its volume after all else. -/
theorem Announced.of_succeeded {volume : PersistentVolume} (before : List Event)
    (hresult : seen.result = .ok volume)
    (hevents : seen.events = before ++
      [.volumeProvisioned clusterId claim (volume.annotations.text Key.bucket)])
    (hnone : announcementsOf before = []) : Announced clusterId claim seen := by
  constructor
  case succeeded => exact iff_of_true ⟨volume, hresult⟩ (by simp [hevents])
  case once => simp [hevents, hnone]
  case last =>
    intro other h
    rw [hresult, Except.ok.injEq] at h
    simp [← h, hevents]

end Announced

/-! ## Provision calls -/

namespace ProvisionPlan

variable {request : ProvisionRequest} {tokens left : TokenSource}

/-- A request that is not decided is blamed on the last stage that deciding it reported. -/
theorem stage_of_undecided {failure : StageFailure}
    (h : decided request tokens = (.error failure, left)) :
    failure.subject = request.claimName ∧
      ∃ before after, [Stage.resolving, .validating] = before ++ failure.stage :: after ∧
        marksOf (stageEvents request) =
          marksFor request.claimName (before ++ [failure.stage]) := by
  unfold decided at h
  unfold stageEvents
  rcases hresolve : resolveRequest request with cause | ⟨claim, config⟩
  · simp only [hresolve, Prod.mk.injEq, Except.error.injEq] at h
    rcases h with ⟨rfl, -⟩
    exact ⟨rfl, [], [.validating], rfl, rfl⟩
  · simp only [hresolve] at h
    rcases hbucket : bucketDecided claim tokens with ⟨cause | bucket, rest⟩
    · simp only [hbucket, Prod.mk.injEq, Except.error.injEq] at h
      rcases h with ⟨rfl, -⟩
      exact ⟨rfl, [.resolving], [], rfl, rfl⟩
    · simp [hbucket] at h

/-- Deciding a request reports both of its stages. -/
theorem marksOf_stageEvents {plan : ProvisionPlan}
    (h : decided request tokens = (.ok plan, left)) :
    marksOf (stageEvents request) =
      marksFor request.claimName [.resolving, .validating] := by
  have hresolved : ∃ resolved, resolveRequest request = .ok resolved := by
    rcases decides_of_decided h with ⟨resolved, -, -, -⟩ | ⟨resolved, -, -⟩
    · exact ⟨_, resolved⟩
    · exact ⟨_, resolved⟩
  rcases hresolved with ⟨resolved, hresolved⟩
  rw [stageEvents, hresolved]
  rfl

/-- The bucket of a plan is the one that its volume remembers. -/
theorem text_bucket_persistentVolume (plan : ProvisionPlan) (request : ProvisionRequest)
    (driverName : String) :
    (plan.persistentVolume request driverName).annotations.text Key.bucket = plan.bucket.name :=
  (VolumeDescriptor.claim_of_read
    (VolumeDescriptor.ofAnnotations_toAnnotations plan.descriptor)).bucket.symm

end ProvisionPlan

namespace Provisioner

variable {provisioner : Provisioner} {host : Host} {earlier : List Call}

@[simp] theorem marksOf_opening (request : ProvisionRequest) :
    marksOf (provisioner.opening request) = marksOf (ProvisionPlan.stageEvents request) := rfl

@[simp] theorem marksOf_fetching (subject : String) (plan : ProvisionPlan) :
    marksOf (eventsOf (fetching subject plan)) = marksFor subject [.credentialResolution] := rfl

@[simp] theorem marksOf_closing (request : ProvisionRequest) (plan : ProvisionPlan) :
    marksOf (provisioner.closing request plan) =
      marksFor request.claimName [.descriptorBuilding] := rfl

@[simp] theorem announcementsOf_opening (request : ProvisionRequest) :
    announcementsOf (provisioner.opening request) = [] := by
  rw [opening, ProvisionPlan.stageEvents]
  cases ProvisionPlan.resolveRequest request <;> rfl

@[simp] theorem announcementsOf_fetching (subject : String) (plan : ProvisionPlan) :
    announcementsOf (eventsOf (fetching subject plan)) = [] := rfl

section

variable {request : ProvisionRequest} {tokens left : TokenSource} {entries : List Entry}
variable {result : Except StageFailure PersistentVolume} {seen : Observation PersistentVolume}

/-- Whichever course a provision call takes, it reports its stages. -/
theorem Serves.staged (h : Serves provisioner host request tokens earlier result left entries)
    (hresult : seen.result = result) (hevents : seen.events = eventsOf entries) :
    Staged request.claimName (ProvisionPlan.stages (ProvisionPlan.decided request tokens).1)
      seen := by
  cases h with
  | undecided decision =>
    obtain ⟨hsubject, before, after, hplanned, hmarks⟩ := ProvisionPlan.stage_of_undecided decision
    rw [decision]
    refine .of_stopped before after hresult hsubject hplanned ?_
    rw [hevents, eventsOf_map_event, marksOf_opening, hmarks]
  | offline decision noSession =>
    have hmarks := ProvisionPlan.marksOf_stageEvents decision
    rw [decision]
    refine .of_completed hresult (by simp [ProvisionPlan.stages]) ?_
    simp [hevents, hmarks, ProvisionPlan.stages, noSession]
  | locked decision session fetched =>
    -- stopped by the secret, before the session
    have hmarks := ProvisionPlan.marksOf_stageEvents decision
    rw [decision]
    refine .of_stopped [.resolving, .validating] [.lifecycleExecution, .descriptorBuilding]
      hresult rfl ?_ ?_
    · simp [ProvisionPlan.stages, session]
    · simp [hevents, hmarks]
  | broken decision session fetched serve =>
    -- stopped in the session, whose own events name no stage
    have hmarks := ProvisionPlan.marksOf_stageEvents decision
    have hsession := marksOf_eq_nil fun event => target_of_mem_serve serve
    rw [decision]
    refine .of_stopped [.resolving, .validating, .credentialResolution] [.descriptorBuilding]
      hresult rfl ?_ ?_
    · simp [ProvisionPlan.stages, session]
    · simp [hevents, hmarks, hsession]
  | served decision session fetched serve =>
    have hmarks := ProvisionPlan.marksOf_stageEvents decision
    have hsession := marksOf_eq_nil fun event => target_of_mem_serve serve
    rw [decision]
    refine .of_completed hresult (by simp [ProvisionPlan.stages]) ?_
    simp [hevents, hmarks, hsession, ProvisionPlan.stages, session]

/-- Whichever course a provision call takes, it announces the volume that it returns and no other. -/
theorem Serves.announced (h : Serves provisioner host request tokens earlier result left entries)
    (hresult : seen.result = result) (hevents : seen.events = eventsOf entries) :
    Announced provisioner.clusterId request.claimName seen := by
  cases h with
  | undecided decision =>
    refine .of_failed hresult ?_
    rw [hevents, eventsOf_map_event, announcementsOf_opening]
  | @offline plan left decision noSession =>
    refine .of_succeeded (provisioner.opening request ++
      [.claimStageStarted request.claimName .descriptorBuilding]) hresult ?_ ?_
    · simp [hevents, closing, ProvisionPlan.text_bucket_persistentVolume]
    · simp
  | locked decision session fetched =>
    refine .of_failed hresult ?_
    simp [hevents]
  | broken decision session fetched serve =>
    have hsession := announcementsOf_eq_nil fun event => target_of_mem_serve serve
    refine .of_failed hresult ?_
    simp [hevents, hsession]
  | @served plan left credentials made decision session fetched serve =>
    have hsession := announcementsOf_eq_nil fun event => target_of_mem_serve serve
    refine .of_succeeded (provisioner.opening request ++
      eventsOf (fetching request.claimName plan) ++
      .lifecycleStarted request.claimName plan.bucket.name :: eventsOf made ++
      [.claimStageStarted request.claimName .descriptorBuilding]) hresult ?_ ?_
    · simp [hevents, closing, ProvisionPlan.text_bucket_persistentVolume]
    · simp [hsession]

end

/-! ## Teardowns -/

@[simp] theorem marksOf_reading (subject : String) :
    marksOf (provisioner.reading subject) = marksFor subject [.parsingDescriptor] := rfl

@[simp] theorem marksOf_unlocking (subject : String) (target : TeardownTarget) :
    marksOf (eventsOf (unlocking subject target)) = marksFor subject [.credentialResolution] := rfl

/-- Whichever course a teardown takes, it reports its stages. -/
theorem TearsDown.staged {volume : PersistentVolume} {result : Except StageFailure Unit}
    {entries : List Entry} {seen : Observation Unit}
    (h : TearsDown provisioner host volume earlier result entries)
    (hresult : seen.result = result) (hevents : seen.events = eventsOf entries) :
    Staged volume.name volume.teardownStages seen := by
  cases h with
  | unread read =>
    refine .of_stopped [] _ hresult rfl rfl ?_
    simp [hevents]
  | retained read kept =>
    have hplanned := PersistentVolume.teardownStages_of_read read
    simp only [kept, Bool.false_eq_true, if_false] at hplanned
    refine .of_completed hresult (by simp [hplanned]) ?_
    simp [hevents, hplanned]
  | locked read owned fetched =>
    have hplanned := PersistentVolume.teardownStages_of_read read
    simp only [owned, if_true] at hplanned
    refine .of_stopped [.parsingDescriptor] [.bucketDelete] hresult rfl hplanned ?_
    simp [hevents]
  | @asked descriptor credentials outcome made read owned fetched conducted =>
    have hplanned := PersistentVolume.teardownStages_of_read read
    simp only [owned, if_true] at hplanned
    have hmade : (host.backend.conduct earlier descriptor.teardownTarget.calls).2 = made := by
      rw [conducted]
    have hsession : marksOf (eventsOf made) = [] := by
      rw [← hmade]
      exact marksOf_eq_nil fun event => Backend.target_of_mem_conduct
    have hmarks : marksOf seen.events = marksFor volume.name volume.teardownStages := by
      simp [hevents, hplanned, hsession]
    -- all stages are reported before the answer is known
    rcases outcome with cause | ⟨⟩
    · refine .of_stopped [.parsingDescriptor, .credentialResolution] [] hresult rfl hplanned ?_
      rw [hmarks, hplanned]
      rfl
    · exact .of_completed hresult (by simp [hplanned]) hmarks

end Provisioner

/-- The stage that is reported is the stage that was running. On any bench, a provision call reports
the stages that a dry run of its request lets expect, and a teardown those that its volume does, as
far as the call gets; each in the name of the claim or the volume. A call that succeeds has reported
them all, one that fails is blamed on the last one it reported, and a volume is announced exactly by
the call that returns it. -/
theorem stages_reported (provisioner : Provisioner) (bench : Bench) :
    (∀ request : ProvisionRequest,
      let dry := bench.observe (ProvisionPlan.prepare request)
      let seen := bench.observe (provisioner.provision request)
      Staged request.claimName (ProvisionPlan.stages dry.result) seen ∧
        Announced provisioner.clusterId request.claimName seen) ∧
    ∀ volume : PersistentVolume,
      Staged volume.name volume.teardownStages (bench.observe (provisioner.delete volume)) := by
  constructor
  · intro request
    obtain ⟨result, left, entries, hperform, hserves⟩ := provisioner.provision_serves bench.host
      request bench.progress.tokens bench.progress.journal
    have hdry := ProvisionPlan.perform_prepare request bench.host bench.progress.tokens
      bench.progress.journal
    rw [bench.observe_eq hdry, bench.observe_eq hperform]
    exact ⟨hserves.staged rfl rfl, hserves.announced rfl rfl⟩
  · intro volume
    obtain ⟨result, entries, hperform, hdown⟩ := provisioner.delete_tearsDown bench.host volume
      bench.progress.tokens bench.progress.journal
    rw [bench.observe_eq hperform]
    exact hdown.staged rfl rfl

end BucketVolume
