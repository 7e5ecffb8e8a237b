import BucketVolume.Proofs.Provisioning

/-!
# BucketVolume.Proofs.DryRun — the dry run is what provisioning does

A dry run decides a request and reports the decision; provisioning decides it in the same way and
then acts. The steps of the report, whether a session is needed, and the calls of a session are three
accounts of one decision, and they agree whatever the backend answers.

* `map_step_calls`, `steps_ne_nil_iff` — the three accounts agree;
* `DryRunAgrees` — what a dry run says of a call that starts from the same tokens, and that it is so.
-/

namespace BucketVolume

open Activity

/-! ## Calls as steps -/

/-- A call as the step of a plan, by the label that a report gives it, and the bucket that it is
about. -/
def Call.step? : Call → Option (String × String)
  | .openSession .. => none
  | .createBucket bucket => some ("create-bucket", bucket)
  | .checkAccess bucket => some ("check-bucket-access", bucket)
  | .checkObjectPath bucket _ => some ("check-object-path", bucket)
  | .deleteBucket _ => none

/-- What a call did to buckets, as labelled steps. -/
def Observation.stepsMade {α : Type} (seen : Observation α) : List (Option (String × String)) :=
  (seen.calls.filter Call.isBucketCall).map Call.step?

namespace ProvisionPlan

/-- The labels of a plan's steps, on its bucket. -/
def stepsPlanned (plan : ProvisionPlan) : List (Option (String × String)) :=
  (plan.steps.map PlanStep.label).map fun label => some (label, plan.bucket.name)

/-- The calls that a plan asks of its session are its steps. -/
theorem map_step_calls (plan : ProvisionPlan) :
    plan.bucket.calls.map Call.step? = plan.stepsPlanned := by
  rcases plan with ⟨claim, config, ⟨name, objectPath, create, _, validateAccess⟩, secret⟩
  unfold stepsPlanned steps BucketPlan.calls
  cases create <;> cases validateAccess <;> cases objectPath <;> rfl

/-- A plan has steps exactly if its bucket needs a session. -/
theorem steps_ne_nil_iff (plan : ProvisionPlan) :
    plan.steps ≠ [] ↔ plan.bucket.requiresSession = true := by
  have hcalls := plan.map_step_calls
  rw [plan.bucket.requiresSession_iff]
  constructor
  · intro hsteps hnone
    rw [hnone, List.map_nil, eq_comm, stepsPlanned, List.map_eq_nil_iff, List.map_eq_nil_iff]
      at hcalls
    exact hsteps hcalls
  · intro hsome hsteps
    rw [stepsPlanned, hsteps, List.map_nil, List.map_nil, List.map_eq_nil_iff] at hcalls
    exact hsome hcalls

/-- A plan whose bucket needs no session has no steps. -/
theorem steps_eq_nil {plan : ProvisionPlan} (h : plan.bucket.requiresSession = false) :
    plan.steps = [] := by
  apply Decidable.byContradiction
  intro hsteps
  rw [plan.steps_ne_nil_iff.mp hsteps] at h
  cases h

/-- All that a plan asks of its session is about its bucket. -/
theorem isBucketCall_of_mem_calls {plan : BucketPlan} {call : Call} (h : call ∈ plan.calls) :
    call.isBucketCall = true := by
  rcases BucketPlan.mem_calls.mp h with ⟨-, rfl⟩ | ⟨-, rfl⟩ | ⟨objectPath, -, rfl⟩
  · rfl
  · rfl
  · rfl

end ProvisionPlan

/-- The steps that a call made are those of its session. -/
theorem Observation.stepsMade_of_session {α : Type} {seen : Observation α} {plan : ProvisionPlan}
    {made : List Call} (hmade : made <+: plan.bucket.calls)
    (hcalls : seen.calls =
      .openSession plan.config.endpoint plan.config.region plan.config.iamEndpoint :: made) :
    seen.stepsMade = made.map Call.step? := by
  have hkept : made.filter Call.isBucketCall = made := by
    rw [List.filter_eq_self]
    intro call hcall
    exact ProvisionPlan.isBucketCall_of_mem_calls (hmade.subset hcall)
  rw [stepsMade, hcalls, List.filter_cons_of_neg (by simp [Call.isBucketCall]), hkept]

/-! ## The dry run -/

/-- A dry run says what a provision call does. -/
structure DryRunAgrees (provisioner : Provisioner) (request : ProvisionRequest)
    (dry : Except StageFailure ProvisionPlan × Progress) (seen : Observation PersistentVolume) :
    Prop where
  failure : ∀ failure, dry.1 = .error failure ↔
    seen.result = .error failure ∧ (failure.stage = .resolving ∨ failure.stage = .validating)
  tokens : dry.2.tokens = seen.tokens
  succeeded : ∀ plan volume, dry.1 = .ok plan → seen.result = .ok volume →
    volume = (plan.report request provisioner.driverName).volume ∧
      seen.stepsMade = plan.stepsPlanned
  failed : ∀ plan failure, dry.1 = .ok plan → seen.result = .error failure →
    seen.stepsMade <+: plan.stepsPlanned
  lookup : ∀ plan, dry.1 = .ok plan → (seen.lookups ≠ [] ↔ plan.steps ≠ [])
  opened : ∀ plan endpoint region iamEndpoint, dry.1 = .ok plan →
    .openSession endpoint region iamEndpoint ∈ seen.calls → plan.steps ≠ []

/-- A dry run that decides a plan agrees with a call that serves it as far as it goes. -/
theorem DryRunAgrees.of_decided {provisioner : Provisioner} {request : ProvisionRequest}
    {plan : ProvisionPlan} {dry : Except StageFailure ProvisionPlan × Progress}
    {seen : Observation PersistentVolume}
    (hdry : dry.1 = .ok plan) (htokens : dry.2.tokens = seen.tokens)
    (hsucceeded : ∀ volume, seen.result = .ok volume →
      volume = plan.persistentVolume request provisioner.driverName ∧
        seen.stepsMade = plan.stepsPlanned)
    (hfailed : ∀ failure, seen.result = .error failure →
      ¬ (failure.stage = .resolving ∨ failure.stage = .validating) ∧
        seen.stepsMade <+: plan.stepsPlanned)
    (hlookup : seen.lookups ≠ [] ↔ plan.steps ≠ [])
    (hopened : seen.calls ≠ [] → plan.steps ≠ []) :
    DryRunAgrees provisioner request dry seen := by
  refine ⟨fun failure => ⟨fun h => ?_, fun h => ?_⟩, htokens, fun other volume h hok => ?_,
    fun other failure h herror => ?_, fun other h => ?_, fun other _ _ _ h hopen => ?_⟩
  · rw [hdry] at h
    cases h
  · exact absurd h.2 (hfailed failure h.1).1
  all_goals
    obtain rfl : plan = other := by simpa [hdry] using h
  · exact hsucceeded volume hok
  · exact (hfailed failure herror).2
  · exact hlookup
  · exact hopened (List.ne_nil_of_mem hopen)

/-- A dry run that starts from the same tokens, on any host and with any journal, says what a
provision call on a bench does. -/
theorem dryRun_agrees (provisioner : Provisioner) (bench : Bench) (request : ProvisionRequest)
    (elsewhere : Host) (journal : List Entry) :
    DryRunAgrees provisioner request
      ((ProvisionPlan.prepare request).perform elsewhere ⟨bench.progress.tokens, journal⟩)
      (bench.observe (provisioner.provision request)) := by
  obtain ⟨result, left, entries, hperform, hserves⟩ :=
    provisioner.provision_serves bench.host request bench.progress.tokens bench.progress.journal
  rw [bench.observe_eq hperform, ProvisionPlan.perform_prepare]
  cases hserves with
  | undecided decision =>
    -- both fail, with the same failure
    rcases ProvisionPlan.decided_error decision with ⟨-, hstage⟩
    rw [decision]
    refine ⟨fun failure => ⟨fun h => ?_, fun h => ?_⟩, rfl, fun plan _ h => ?_,
      fun plan _ h => ?_, fun plan h => ?_, fun plan _ _ _ h => ?_⟩
    · obtain rfl := Except.error.inj h
      exact ⟨rfl, hstage⟩
    · obtain rfl := Except.error.inj h.1
      rfl
    all_goals cases h
  | @offline plan _ decision noSession =>
    -- nothing is asked for, so no steps are planned and none are made
    have hnoSteps := ProvisionPlan.steps_eq_nil noSession
    rw [decision]
    refine DryRunAgrees.of_decided rfl rfl (fun volume h => ?_) (fun failure h => ?_) ?_ ?_
    · obtain rfl := Except.ok.inj h
      refine ⟨rfl, ?_⟩
      simp [Observation.stepsMade, ProvisionPlan.stepsPlanned, hnoSteps]
    · cases h
    · simp [hnoSteps]
    · simp
  | @locked plan _ cause decision session fetched =>
    have hsteps := plan.steps_ne_nil_iff.mpr session
    rw [decision]
    refine DryRunAgrees.of_decided rfl rfl (fun volume h => ?_) (fun failure h => ?_) ?_
      fun _ => hsteps
    · cases h
    · obtain rfl := Except.error.inj h
      simp [Observation.stepsMade]
    · simp [hsteps]
  | @broken plan _ credentials cause made decision session fetched serve =>
    have hsteps := plan.steps_ne_nil_iff.mpr session
    rcases callsOf_serve serve with ⟨calls, hstart, hcalls, -⟩
    rw [decision]
    refine DryRunAgrees.of_decided rfl rfl (fun volume h => ?_) (fun failure h => ?_) ?_
      fun _ => hsteps
    · cases h
    · -- what was made before the failure is the beginning of what was planned
      obtain rfl := Except.error.inj h
      refine ⟨by simp, ?_⟩
      rw [Observation.stepsMade_of_session hstart (by simp [hcalls]), ← plan.map_step_calls]
      exact hstart.map Call.step?
    · simp [hsteps]
  | @served plan _ credentials made decision session fetched serve =>
    have hsteps := plan.steps_ne_nil_iff.mpr session
    rcases callsOf_serve serve with ⟨calls, hstart, hcalls, hall⟩
    rw [decision]
    refine DryRunAgrees.of_decided rfl rfl (fun volume h => ?_) (fun failure h => ?_) ?_
      fun _ => hsteps
    · obtain rfl := Except.ok.inj h
      refine ⟨rfl, ?_⟩
      rw [Observation.stepsMade_of_session hstart (by simp [hcalls]), ← plan.map_step_calls,
        hall rfl]
    · cases h
    · simp [hsteps]

end BucketVolume
