import BucketVolume.Proofs.Provisioning

/-!
# BucketVolume.Proofs.Outcome — what a provision call comes to against scripted doubles

On a bench, the course of a provision call is settled by the request, the stored secrets, the
switches and the tokens. `SessionOutcome` tells what comes of a plan that gets its credentials: the
calls made, when the call succeeds, and what it fails with otherwise.

* `firstFailure?_none_iff` — a session goes through exactly if every step that is asked for passes;
* `kind_of_firstFailure?` — which failures are the plan's own fault, and which the backend's.
-/

namespace BucketVolume

open Activity

/-! ## What goes wrong first -/

namespace BucketPlan

variable {plan : BucketPlan} {credentials : Credentials} {switches : Switches}

/-- The first thing that goes wrong with a plan's session. -/
def firstFailure? (plan : BucketPlan) (credentials : Credentials) (switches : Switches) :
    Option Failure :=
  if plan.create && credentials.lacksServiceInstance then
    some (.validation .createWithoutServiceInstance)
  else plan.calls.findSome? switches.failure?

/-- The bucket calls of a plan's session: none if its credentials are refused, else as far as the
switches let it go. -/
def callsMade (plan : BucketPlan) (credentials : Credentials) (switches : Switches) : List Call :=
  if plan.create && credentials.lacksServiceInstance then [] else switches.made plan.calls

/-- Every step that a plan asks for passes. -/
structure EveryStepPasses (plan : BucketPlan) (credentials : Credentials) (switches : Switches) :
    Prop where
  create : plan.create = true → ¬ credentials.CannotCreate ∧ switches.failCreate = false
  access : plan.validateAccess = true → switches.failAccess = false
  objectPath : plan.objectPath ≠ none →
    switches.failObjectPathCheck = false ∧ switches.objectPathMissing = false

/-- The plan fails by itself: its credentials are refused, or all else passes and its object path is
not there. -/
def FailsValidation (plan : BucketPlan) (credentials : Credentials) (switches : Switches) : Prop :=
  (plan.create = true ∧ credentials.CannotCreate) ∨
  ((plan.create = true → switches.failCreate = false) ∧
    (plan.validateAccess = true → switches.failAccess = false) ∧
    plan.objectPath ≠ none ∧
    switches.failObjectPathCheck = false ∧ switches.objectPathMissing = true)

/-- A session goes through exactly if every step that its plan asks for passes. -/
theorem firstFailure?_none_iff :
    plan.firstFailure? credentials switches = none ↔ plan.EveryStepPasses credentials switches := by
  have hguard := credentials.lacksServiceInstance_iff
  constructor
  · intro h
    unfold firstFailure? at h
    split at h
    · cases h
    next hallowed =>
    rw [List.findSome?_eq_none_iff] at h
    have hstep : ∀ call ∈ plan.calls, switches.failure? call = none := h
    refine ⟨fun hcreate => ⟨fun hcannot => hallowed ?_, ?_⟩, fun haccess => ?_, fun hpath => ?_⟩
    · simp [hcreate, hguard.mpr hcannot]
    · have hpasses := hstep _ (mem_calls.mpr (.inl ⟨hcreate, rfl⟩))
      simpa [Switches.failure?] using hpasses
    · have hpasses := hstep _ (mem_calls.mpr (.inr (.inl ⟨haccess, rfl⟩)))
      simpa [Switches.failure?] using hpasses
    · rcases Option.ne_none_iff_exists'.mp hpath with ⟨objectPath, hpath⟩
      have hpasses := hstep _ (mem_calls.mpr (.inr (.inr ⟨objectPath, hpath, rfl⟩)))
      -- the check itself comes before its answer
      rw [Switches.failure?] at hpasses
      split at hpasses
      · cases hpasses
      next hchecked => exact ⟨by simpa using hchecked, by simpa using hpasses⟩
  · rintro ⟨hcreate, haccess, hpath⟩
    have hallowed : ¬ (plan.create && credentials.lacksServiceInstance) = true := by
      intro hrefused
      rcases Bool.and_eq_true_iff.mp hrefused with ⟨h, hlacks⟩
      exact (hcreate h).1 (hguard.mp hlacks)
    rw [firstFailure?, if_neg hallowed, List.findSome?_eq_none_iff]
    intro call hcall
    rcases mem_calls.mp hcall with ⟨h, rfl⟩ | ⟨h, rfl⟩ | ⟨objectPath, h, rfl⟩
    · simp [Switches.failure?, (hcreate h).2]
    · simp [Switches.failure?, haccess h]
    · have hpasses := hpath (by simp [h])
      simp [Switches.failure?, hpasses]

/-- The first failure of a plan's calls, step by step. -/
theorem findSome?_calls (plan : BucketPlan) (switches : Switches) :
    plan.calls.findSome? switches.failure? =
      if plan.create ∧ switches.failCreate then
        some (.backend .create plan.name "simulated create failure")
      else if plan.validateAccess ∧ switches.failAccess then
        some (.backend .checkAccess plan.name "simulated access failure")
      else plan.objectPath.bind fun objectPath =>
        switches.failure? (.checkObjectPath plan.name objectPath) := by
  rcases plan with ⟨name, objectPath, create, _, validateAccess⟩
  have hpath : (objectPath.map (Call.checkObjectPath name)).toList.findSome? switches.failure? =
      objectPath.bind fun objectPath => switches.failure? (.checkObjectPath name objectPath) := by
    cases objectPath with
    | none => rfl
    | some objectPath => simp
  simp only [calls, List.findSome?_append, hpath]
  cases create <;> cases validateAccess <;> cases hc : switches.failCreate <;>
    cases ha : switches.failAccess <;> simp [Switches.failure?, hc, ha]

/-- The plan is at fault for a failure, or else the backend is. -/
theorem kind_of_firstFailure? {failure : Failure}
    (h : plan.firstFailure? credentials switches = some failure) :
    (failure.kind = .validation ∧ plan.FailsValidation credentials switches) ∨
      (failure.kind = .backend ∧ ¬ plan.FailsValidation credentials switches) := by
  have hguard := credentials.lacksServiceInstance_iff
  unfold FailsValidation
  rw [← hguard]
  unfold firstFailure? at h
  split at h
  next hrefused =>
    -- the credentials are refused
    obtain rfl := Option.some.inj h
    exact .inl ⟨rfl, .inl (by simpa using hrefused)⟩
  next hallowed =>
    have hmay : ¬ (plan.create = true ∧ credentials.lacksServiceInstance = true) := by
      simpa using hallowed
    rw [findSome?_calls] at h
    split at h
    next hfails =>
      -- the bucket is not created
      obtain rfl := Option.some.inj h
      refine .inr ⟨rfl, ?_⟩
      rintro (hrefused | ⟨hcreate, -⟩)
      · exact hmay hrefused
      · simp [hcreate hfails.1] at hfails
    next hcreate =>
    split at h
    next hfails =>
      -- the bucket is not reached
      obtain rfl := Option.some.inj h
      refine .inr ⟨rfl, ?_⟩
      rintro (hrefused | ⟨-, haccess, -⟩)
      · exact hmay hrefused
      · simp [haccess hfails.1] at hfails
    next haccess =>
    rcases Option.bind_eq_some_iff.mp h with ⟨objectPath, hpath, hfailure⟩
    rw [Switches.failure?] at hfailure
    split at hfailure
    next hfails =>
      -- the object path cannot be looked for
      obtain rfl := Option.some.inj hfailure
      refine .inr ⟨rfl, ?_⟩
      rintro (hrefused | ⟨-, -, -, hchecked, -⟩)
      · exact hmay hrefused
      · simp [hchecked] at hfails
    next hchecked =>
    split at hfailure
    next hmissing =>
      -- the object path is not there
      obtain rfl := Option.some.inj hfailure
      refine .inl ⟨rfl, .inr ⟨?_, ?_, ?_, ?_, hmissing⟩⟩
      · simpa using hcreate
      · simpa using haccess
      · simp [hpath]
      · simpa using hchecked
    · cases hfailure

end BucketPlan

/-! ## A plan's session, scripted -/

/-- Against switches a session makes the calls that they let it make, and fails with what goes wrong
first. -/
theorem serve_scripted {switches : Switches} {earlier : List Call} {plan : ProvisionPlan}
    {credentials : Credentials} {result : Except Failure Unit} {entries : List Entry}
    (h : switches.backend.serve earlier plan credentials = (result, entries)) :
    (result = match plan.bucket.firstFailure? credentials switches with
      | some cause => .error cause
      | none => .ok ()) ∧
    callsOf entries =
      .openSession plan.config.endpoint plan.config.region plan.config.iamEndpoint ::
        plan.bucket.callsMade credentials switches := by
  have hresult : (switches.backend.serve earlier plan credentials).1 = result := by rw [h]
  have hentries : (switches.backend.serve earlier plan credentials).2 = entries := by rw [h]
  rw [← hresult, ← hentries]
  unfold Backend.serve BucketPlan.firstFailure? BucketPlan.callsMade
  split
  · exact ⟨rfl, rfl⟩
  · constructor
    · rw [Switches.scripted_conduct_result, List.findSome?_cons]
      rfl
    · rw [Switches.scripted_conduct_calls, Switches.made, List.takeWhile_cons, List.find?_cons]
      rfl

/-! ## The outcome of a call -/

/-- What a provision call shows whose plan gets a session. -/
structure SessionOutcome (provisioner : Provisioner) (request : ProvisionRequest)
    (plan : ProvisionPlan) (credentials : Credentials) (switches : Switches)
    (seen : Observation PersistentVolume) : Prop where
  calls : seen.calls =
    .openSession plan.config.endpoint plan.config.region plan.config.iamEndpoint ::
      plan.bucket.callsMade credentials switches
  result : seen.result =
    match plan.bucket.firstFailure? credentials switches with
    | some cause => .error ⟨request.claimName, .lifecycleExecution, cause⟩
    | none => .ok (plan.persistentVolume request provisioner.driverName)
  succeeds : (∃ volume, seen.result = .ok volume) ↔
    plan.bucket.EveryStepPasses credentials switches
  fails : ∀ failure, seen.result = .error failure →
    failure.stage = .lifecycleExecution ∧
      ((failure.kind = .validation ∧ plan.bucket.FailsValidation credentials switches) ∨
        (failure.kind = .backend ∧ ¬ plan.bucket.FailsValidation credentials switches))

/-- Calls and result settle the rest of a session's outcome. -/
theorem SessionOutcome.of_result {provisioner : Provisioner} {request : ProvisionRequest}
    {plan : ProvisionPlan} {credentials : Credentials} {switches : Switches}
    {seen : Observation PersistentVolume}
    (hcalls : seen.calls =
      .openSession plan.config.endpoint plan.config.region plan.config.iamEndpoint ::
        plan.bucket.callsMade credentials switches)
    (hresult : seen.result =
      match plan.bucket.firstFailure? credentials switches with
      | some cause => .error ⟨request.claimName, .lifecycleExecution, cause⟩
      | none => .ok (plan.persistentVolume request provisioner.driverName)) :
    SessionOutcome provisioner request plan credentials switches seen := by
  have hnone : plan.bucket.firstFailure? credentials switches = none ↔ _ :=
    BucketPlan.firstFailure?_none_iff
  rcases hfirst : plan.bucket.firstFailure? credentials switches with _ | cause
  · -- nothing goes wrong, so every step passed
    refine ⟨hcalls, hresult, ?_, ?_⟩
    · exact iff_of_true ⟨_, by simpa [hfirst] using hresult⟩ (hnone.mp hfirst)
    · intro failure hfailure
      simp [hfirst, hfailure] at hresult
  · -- the first thing that goes wrong is what the call fails with
    refine ⟨hcalls, hresult, ?_, ?_⟩
    · refine iff_of_false ?_ fun hpasses => ?_
      · rintro ⟨volume, hvolume⟩
        simp [hfirst, hvolume] at hresult
      · rw [hnone.mpr hpasses] at hfirst
        cases hfirst
    · intro failure hfailure
      simp only [hfirst, hfailure, Except.error.injEq] at hresult
      subst hresult
      exact ⟨rfl, BucketPlan.kind_of_firstFailure? hfirst⟩

/-- What a provision call shows once its request is decided. -/
structure ProvisionOutcome (provisioner : Provisioner) (bench : Bench) (request : ProvisionRequest)
    (plan : ProvisionPlan) (seen : Observation PersistentVolume) : Prop where
  offline : plan.bucket.requiresSession = false →
    seen.result = .ok (plan.persistentVolume request provisioner.driverName) ∧
      seen.lookups = [] ∧ seen.calls = []
  lookup : plan.bucket.requiresSession = true → seen.lookups = [request.claimSecret]
  locked : plan.bucket.requiresSession = true →
    (∀ data, bench.secrets.find? request.claimSecret = some data → ¬ data.Usable) →
    (∃ cause, seen.result =
      .error ⟨request.claimName, .credentialResolution, .credential cause⟩) ∧ seen.calls = []
  session : plan.bucket.requiresSession = true →
    ∀ data, bench.secrets.find? request.claimSecret = some data → data.Usable →
    ∃ credentials, Credentials.ofSecret data plan.config.iamEndpoint = .ok credentials ∧
      SessionOutcome provisioner request plan credentials bench.switches seen

/-- A call that got its credentials shows what its session came to. -/
theorem ProvisionOutcome.of_serve {provisioner : Provisioner} {bench : Bench}
    {request : ProvisionRequest} {plan : ProvisionPlan} {credentials : Credentials}
    {earlier : List Call} {result : Except Failure Unit} {entries : List Entry}
    {seen : Observation PersistentVolume}
    (hsession : plan.bucket.requiresSession = true)
    (hfetched : bench.host.credentials request.claimSecret plan.config.iamEndpoint = .ok credentials)
    (hlookups : seen.lookups = [request.claimSecret])
    (hcalls : seen.calls = callsOf entries)
    (hresult : seen.result =
      match result with
      | .error cause => .error ⟨request.claimName, .lifecycleExecution, cause⟩
      | .ok () => .ok (plan.persistentVolume request provisioner.driverName))
    (hserve : bench.switches.backend.serve earlier plan credentials = (result, entries)) :
    ProvisionOutcome provisioner bench request plan seen := by
  rcases serve_scripted hserve with ⟨hfirst, hmade⟩
  rcases Bench.exists_secret_of_credentials hfetched with ⟨stored, hstored, hread⟩
  refine ⟨fun h => ?_, fun _ => hlookups, fun _ hnone => ?_, fun _ data hdata _ => ?_⟩
  · rw [hsession] at h
    cases h
  · have husable := (Credentials.ofSecret_ok_iff stored _).mp ⟨credentials, hread⟩
    exact absurd husable (hnone stored hstored)
  · obtain rfl : stored = data := Option.some.inj (hstored.symm.trans hdata)
    refine ⟨credentials, hread, .of_result (hcalls.trans hmade) ?_⟩
    rw [hresult, hfirst]
    rcases plan.bucket.firstFailure? credentials bench.switches with _ | cause
    · rfl
    · rfl

/-- Every provision call on a bench ends as its plan, its secret and the switches say, and makes no
look-up and no call beyond those that they account for. -/
theorem provision_outcome (provisioner : Provisioner) (bench : Bench) (request : ProvisionRequest) :
    match (bench.observe (ProvisionPlan.prepare request)).result with
    | .error failure =>
      (bench.observe (provisioner.provision request)).result = .error failure ∧
        (bench.observe (provisioner.provision request)).lookups = [] ∧
        (bench.observe (provisioner.provision request)).calls = []
    | .ok plan =>
      ProvisionOutcome provisioner bench request plan
        (bench.observe (provisioner.provision request)) := by
  obtain ⟨result, left, entries, hperform, hserves⟩ :=
    provisioner.provision_serves bench.host request bench.progress.tokens bench.progress.journal
  have hprepare := bench.observe_eq (ProvisionPlan.perform_prepare request bench.host
    bench.progress.tokens bench.progress.journal)
  rw [hprepare, bench.observe_eq hperform]
  cases hserves with
  | undecided decision =>
    rw [decision]
    simp
  | offline decision noSession =>
    rw [decision]
    refine ⟨fun _ => ?_, ?_, ?_, ?_⟩
    · simp
    all_goals
      intro hsession
      rw [noSession] at hsession
      cases hsession
  | locked decision session fetched =>
    have hsecret := ProvisionPlan.secret_of_decided decision
    rw [hsecret] at fetched
    rw [decision]
    refine ⟨fun hoffline => ?_, fun _ => ?_, fun _ _ => ?_, fun _ data hdata husable => ?_⟩
    · rw [session] at hoffline
      cases hoffline
    · simp [hsecret]
    · simp
    · -- a usable secret would have given credentials
      rcases (bench.credentials_ok_iff _ _).mpr ⟨data, hdata, husable⟩ with ⟨credentials, h⟩
      rw [fetched] at h
      cases h
  | broken decision session fetched serve =>
    have hsecret := ProvisionPlan.secret_of_decided decision
    rw [decision]
    refine .of_serve session (hsecret ▸ fetched) ?_ ?_ rfl serve
    · simp [hsecret, lookupsOf_serve serve]
    · simp
  | served decision session fetched serve =>
    have hsecret := ProvisionPlan.secret_of_decided decision
    rw [decision]
    refine .of_serve session (hsecret ▸ fetched) ?_ ?_ rfl serve
    · simp [hsecret, lookupsOf_serve serve]
    · simp

end BucketVolume
