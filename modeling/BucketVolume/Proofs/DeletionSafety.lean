import BucketVolume.Proofs.Descriptor
import BucketVolume.Proofs.Outcome
import BucketVolume.Proofs.Policy
import BucketVolume.Proofs.Run

/-!
# BucketVolume.Proofs.DeletionSafety — no bucket is deleted that was not made for its volume

A bucket is deleted only in a teardown, and a teardown of a volume that provisioning returned deletes
the bucket of that volume's plan, if the claim asked for it. Such a plan has a generated name, and the
call that returned the volume created the bucket under that name, over the same endpoints.

* `provision_ok`, `delete_planned` — a plan as provisioning served it and as teardown finds it;
* `Returned.madeBucket` — the two put together, for one volume of a run;
* `DeletionSafe` — what that means for the calls of a whole run, and that it is so.
-/

namespace BucketVolume

open Activity

/-! ## Plans whose bucket goes with the volume -/

/-- A bucket that is created for a claim without an object path is created and then reached. -/
theorem BucketPlan.calls_named {claim : Claim} (name : String)
    (hcreate : claim.autoCreateBucket = true) (hpath : claim.objectPath = "") :
    (named claim name).calls = [.createBucket name, .checkAccess name] := by
  simp [named, calls, hcreate, hpath, Claim.requiresAccessCheck]

/-- A bucket is created unless the switches say otherwise. -/
theorem Switches.createBucket_ok {switches : Switches} (h : switches.failCreate = false)
    (earlier : List Call) (bucket : String) :
    switches.backend.createBucket earlier bucket = .ok switches.createNote := by
  rw [backend, answer, h]
  rfl

/-! ## A volume between its two calls -/

namespace ProvisionPlan

/-- A volume remembers its plan. -/
theorem descriptor_persistentVolume (plan : ProvisionPlan) (request : ProvisionRequest)
    (driverName : String) :
    VolumeDescriptor.ofAnnotations (plan.persistentVolume request driverName).annotations =
      .ok plan.descriptor :=
  VolumeDescriptor.ofAnnotations_toAnnotations plan.descriptor

/-- The calls that tear down a plan's volume are about what the plan's session was about. -/
theorem calls_teardownTarget (plan : ProvisionPlan) :
    plan.descriptor.teardownTarget.calls =
      [.openSession plan.config.endpoint plan.config.region plan.config.iamEndpoint,
        .deleteBucket plan.bucket.name] := rfl

end ProvisionPlan

namespace Bench

variable {provisioner : Provisioner} {bench : Bench} {request : ProvisionRequest}

/-- A provision call that succeeds was planned, and if its bucket was to be created it was. -/
theorem provision_ok {volume : PersistentVolume}
    (h : (bench.observe (provisioner.provision request)).result = .ok volume) :
    ∃ plan, ProvisionPlan.decided request bench.progress.tokens =
        (.ok plan, (bench.observe (provisioner.provision request)).tokens) ∧
      volume = plan.persistentVolume request provisioner.driverName ∧
      (plan.bucket.create = true →
        (bench.observe (provisioner.provision request)).calls =
          .openSession plan.config.endpoint plan.config.region plan.config.iamEndpoint ::
            plan.bucket.calls ∧
        bench.switches.failCreate = false) := by
  obtain ⟨result, left, entries, hperform, hserves⟩ :=
    provisioner.provision_serves bench.host request bench.progress.tokens bench.progress.journal
  rw [bench.observe_eq hperform] at h ⊢
  cases hserves with
  | undecided decision => cases h
  | offline decision noSession =>
    refine ⟨_, decision, (Except.ok.inj h).symm, fun hcreate => ?_⟩
    simp [BucketPlan.requiresSession, hcreate] at noSession
  | locked decision session fetched => cases h
  | broken decision session fetched serve => cases h
  | @served plan _ credentials made decision session fetched serve =>
    refine ⟨plan, decision, (Except.ok.inj h).symm, fun hcreate => ⟨?_, ?_⟩⟩
    · rcases callsOf_serve serve with ⟨calls, -, hcalls, hall⟩
      rw [← hall rfl]
      simp [hcalls]
    · have hserve : bench.switches.backend.serve _ plan credentials = _ := serve
      have hresult := (serve_scripted hserve).1
      rcases hfirst : plan.bucket.firstFailure? credentials bench.switches with _ | first
      · exact ((BucketPlan.firstFailure?_none_iff.mp hfirst).create hcreate).2
      · simp [hfirst] at hresult

/-- A provision call deletes nothing. -/
theorem deleteBucket_notMem_provision (provisioner : Provisioner) (bench : Bench)
    (request : ProvisionRequest) (bucket : String) :
    .deleteBucket bucket ∉ (bench.observe (provisioner.provision request)).calls := by
  obtain ⟨result, left, entries, hperform, hserves⟩ :=
    provisioner.provision_serves bench.host request bench.progress.tokens bench.progress.journal
  rw [bench.observe_eq hperform]
  have hsession : ∀ {backend earlier plan credentials result entries},
      Backend.serve backend earlier plan credentials = (result, entries) →
      .deleteBucket bucket ∉ callsOf entries := by
    intro backend earlier plan credentials result entries hserve hmem
    rcases callsOf_serve hserve with ⟨calls, hstart, hcalls, -⟩
    rw [hcalls, List.mem_cons] at hmem
    rcases hmem with hopen | hmade
    · cases hopen
    · have hasked := BucketPlan.mem_calls.mp (hstart.subset hmade)
      simp at hasked
  cases hserves with
  | undecided decision => simp
  | offline decision noSession => simp
  | locked decision session fetched => simp
  | broken decision session fetched serve => simpa using hsession serve
  | served decision session fetched serve => simpa using hsession serve

/-- The teardown of a planned volume deletes nothing but the plan's bucket, and that only if the
claim asked for it; otherwise it does nothing at all. -/
theorem delete_planned (provisioner : Provisioner) (bench : Bench) (plan : ProvisionPlan)
    (request : ProvisionRequest) (driverName : String) {seen : Observation Unit}
    (hseen : seen = bench.observe (provisioner.delete (plan.persistentVolume request driverName))) :
    (plan.claim.autoDeleteBucket = false →
      seen.result = .ok () ∧ seen.lookups = [] ∧ seen.calls = []) ∧
    ∀ bucket, .deleteBucket bucket ∈ seen.calls →
      plan.claim.autoDeleteBucket = true ∧ bucket = plan.bucket.name ∧
      seen.calls = [.openSession plan.config.endpoint plan.config.region plan.config.iamEndpoint,
        .deleteBucket bucket] := by
  have hdescriptor := plan.descriptor_persistentVolume request driverName
  obtain ⟨result, entries, hperform, hdown⟩ :=
    provisioner.delete_tearsDown bench.host (plan.persistentVolume request driverName)
      bench.progress.tokens bench.progress.journal
  rw [bench.observe_eq hperform] at hseen
  subst hseen
  cases hdown with
  | unread read =>
    -- what provisioning wrote can be read
    rw [hdescriptor] at read
    cases read
  | retained read kept =>
    exact ⟨fun _ => by simp, by simp⟩
  | locked read owned fetched =>
    -- without credentials no call is made
    rw [hdescriptor] at read
    obtain rfl := Except.ok.inj read
    refine ⟨fun hkept => ?_, by simp⟩
    exact absurd (owned.symm.trans hkept) (by decide)
  | @asked descriptor credentials result made read owned fetched conducted =>
    rw [hdescriptor] at read
    obtain rfl := Except.ok.inj read
    have hconducted : bench.switches.backend.conduct _ plan.descriptor.teardownTarget.calls = _ :=
      conducted
    have hcalls := (TeardownTarget.conduct_scripted hconducted).2.1
    rw [plan.calls_teardownTarget] at hcalls
    refine ⟨fun hkept => ?_, fun bucket hbucket => ?_⟩
    · exact absurd (owned.symm.trans hkept) (by decide)
    · have hname : bucket = plan.bucket.name := by simpa [hcalls] using hbucket
      refine ⟨owned, hname, ?_⟩
      simp [hcalls, hname]

end Bench

/-! ## Whole runs -/

/-- What a provision call did if the bucket of its volume may be deleted: it served a claim that
wanted its bucket created and deleted and named none, and created the bucket under the name that it
generated with a token of its own. -/
structure MadeBucket (request : ProvisionRequest) (before after : Bench)
    (bucket endpoint region iamEndpoint : String) : Prop where
  claim : ∃ claim, Claim.ofAnnotations request.claimAnnotations = .ok claim ∧
    claim.autoCreateBucket = true ∧ claim.autoDeleteBucket = true ∧ claim.bucket = ""
  name : ∃ token, before.progress.tokens.draw = (.ok token, after.progress.tokens) ∧
    bucket = "tmp-s3fs-" ++ token
  calls : callsOf (before.added after) =
    [.openSession endpoint region iamEndpoint, .createBucket bucket, .checkAccess bucket]
  created : ∀ earlier, ∃ note, before.host.backend.createBucket earlier bucket = .ok note

/-- A run deletes nothing but what it made. -/
structure DeletionSafe (provisioner : Provisioner) (start : Bench) (steps : List Step) : Prop where
  recorded : callsOf (start.final provisioner steps).progress.journal =
    callsOf start.progress.journal ++
      (start.run provisioner steps).flatMap fun (_, before, after) => callsOf (before.added after)
  deleted : ∀ i s outcome before after bucket,
    Bench.Took provisioner start steps i s outcome before after →
    .deleteBucket bucket ∈ callsOf (before.added after) →
    ∃ source endpoint region iamEndpoint, s = .delete source ∧
      callsOf (before.added after) =
        [.openSession endpoint region iamEndpoint, .deleteBucket bucket] ∧
      (∃ j request b a, j < i ∧
        Bench.Returned provisioner start steps j request (before.volume source) b a) ∧
      ∀ j request b a,
        Bench.Returned provisioner start steps j request (before.volume source) b a →
        MadeBucket request b a bucket endpoint region iamEndpoint
  provisioned : ∀ i slot request outcome before after,
    Bench.Took provisioner start steps i (.provision slot request) outcome before after →
    ∀ bucket, .deleteBucket bucket ∉ callsOf (before.added after)
  retained : ∀ i source outcome before after,
    Bench.Took provisioner start steps i (.delete source) outcome before after →
    ∀ j request b a,
      Bench.Returned provisioner start steps j request (before.volume source) b a →
    ∀ claim, Claim.ofAnnotations request.claimAnnotations = .ok claim →
      claim.autoDeleteBucket = false →
      outcome = .deleted (.ok ()) ∧ lookupsOf (before.added after) = [] ∧
        callsOf (before.added after) = []

namespace Bench

variable {provisioner : Provisioner} {start before after : Bench} {steps : List Step} {i : Nat}
variable {request : ProvisionRequest} {outcome : Outcome}

/-- The plan of a volume that a run returned. -/
theorem Returned.exists_plan {volume : PersistentVolume}
    (h : Returned provisioner start steps i request volume before after) :
    ∃ plan, ProvisionPlan.decided request before.progress.tokens =
        (.ok plan, after.progress.tokens) ∧
      volume = plan.persistentVolume request provisioner.driverName ∧
      (plan.bucket.create = true →
        callsOf (before.added after) =
          .openSession plan.config.endpoint plan.config.region plan.config.iamEndpoint ::
            plan.bucket.calls ∧
        before.switches.failCreate = false) := by
  rcases h with ⟨slot, htook⟩
  rcases step_provision htook.step with ⟨hresult, -, hcalls, htokens⟩
  rw [hcalls, htokens]
  exact provision_ok (Outcome.provisioned.inj hresult).symm

/-- The bucket that goes with a returned volume was made for it. -/
theorem Returned.madeBucket {volume : PersistentVolume} {bench : Bench} {bucket : String}
    (h : Returned provisioner start steps i request volume before after)
    (hdeleted : .deleteBucket bucket ∈ (bench.observe (provisioner.delete volume)).calls) :
    ∃ endpoint region iamEndpoint,
      (bench.observe (provisioner.delete volume)).calls =
        [.openSession endpoint region iamEndpoint, .deleteBucket bucket] ∧
      MadeBucket request before after bucket endpoint region iamEndpoint := by
  rcases h.exists_plan with ⟨plan, hdecided, rfl, hserved⟩
  rcases delete_planned provisioner bench plan request provisioner.driverName rfl with ⟨-, hplanned⟩
  rcases hplanned bucket hdeleted with ⟨howned, rfl, hcalls⟩
  refine ⟨plan.config.endpoint, plan.config.region, plan.config.iamEndpoint, hcalls, ?_⟩
  generalize hleft : after.progress.tokens = left at hdecided
  rcases ProvisionPlan.decides_of_decided hdecided with
    ⟨hresolved, hpolicy, hdelete, hdrawn⟩ | ⟨hresolved, hpolicy, hdelete⟩
  · -- the claim asked for the deletion, so its bucket was created under a generated name
    rcases Claim.checkPolicy_autoDelete hpolicy hdelete with ⟨hcreate, hbucket, hpath⟩
    rcases hserved hcreate with ⟨hmade, hsucceeds⟩
    rw [BucketPlan.calls_named _ hcreate hpath] at hmade
    refine ⟨⟨_, ProvisionPlan.claim_of_resolved hresolved, hcreate, hdelete, hbucket⟩,
      ⟨_, hleft ▸ hdrawn, rfl⟩, hmade, fun earlier => ⟨before.switches.createNote, ?_⟩⟩
    exact Switches.createBucket_ok hsucceeds earlier _
  · -- a bucket that the claim keeps is not torn down
    exact absurd (howned.symm.trans hdelete) (by decide)

/-- A returned volume whose claim keeps its bucket is torn down without a word to the outside. -/
theorem Returned.retained {volume : PersistentVolume} {claim : Claim} (bench : Bench)
    (h : Returned provisioner start steps i request volume before after)
    (hclaim : Claim.ofAnnotations request.claimAnnotations = .ok claim)
    (hkept : claim.autoDeleteBucket = false) :
    (bench.observe (provisioner.delete volume)).result = .ok () ∧
      (bench.observe (provisioner.delete volume)).lookups = [] ∧
      (bench.observe (provisioner.delete volume)).calls = [] := by
  rcases h.exists_plan with ⟨plan, hdecided, rfl, -⟩
  obtain ⟨hretained, -⟩ := delete_planned provisioner bench plan request provisioner.driverName rfl
  apply hretained
  generalize after.progress.tokens = left at hdecided
  rcases ProvisionPlan.decides_of_decided hdecided with
    ⟨hresolved, hpolicy, hdelete, -⟩ | ⟨hresolved, hpolicy, hdelete⟩
  · have hread := ProvisionPlan.claim_of_resolved hresolved
    rw [hclaim] at hread
    rw [Except.ok.inj hread] at hkept
    exact hkept
  · exact hdelete

end Bench

/-- Whatever is provisioned and torn down, in any order and with any failures in between: a bucket is
deleted only if it was made for the volume that is torn down. -/
theorem deletion_safe (provisioner : Provisioner) (tokens : List String) (steps : List Step)
    (hreturned : Bench.DeletesReturned provisioner (.start tokens) steps) :
    DeletionSafe provisioner (.start tokens) steps := by
  constructor
  case recorded => exact Bench.calls_final provisioner (.start tokens) steps
  case deleted =>
    intro i s outcome before after bucket htook hmem
    cases s with
    | delete source =>
      have hcalls := (Bench.step_delete htook.step).2.2.1
      rw [hcalls] at hmem
      rcases hreturned i source outcome before after htook with ⟨j, request, b, a, hj, hmade⟩
      rcases hmade.madeBucket hmem with ⟨endpoint, region, iamEndpoint, hasked, -⟩
      refine ⟨source, endpoint, region, iamEndpoint, rfl, hcalls.trans hasked,
        ⟨j, request, b, a, hj, hmade⟩, ?_⟩
      intro k other c d hother
      -- whichever call returned the volume, it opened its session to the same endpoints
      rcases hother.madeBucket hmem with ⟨endpoint', region', iamEndpoint', hasked', hown⟩
      rw [hasked] at hasked'
      simp only [List.cons.injEq, Call.openSession.injEq] at hasked'
      rcases hasked' with ⟨⟨rfl, rfl, rfl⟩, -⟩
      exact hown
    | provision slot request =>
      rw [(Bench.step_provision htook.step).2.2.1] at hmem
      exact absurd hmem (before.deleteBucket_notMem_provision provisioner request bucket)
    | insertSecret | script | report | annotate =>
      rw [(Bench.step_quiet htook.step (by simp) (by simp)).2] at hmem
      cases hmem
  case provisioned =>
    intro i slot request outcome before after htook bucket
    rw [(Bench.step_provision htook.step).2.2.1]
    exact before.deleteBucket_notMem_provision provisioner request bucket
  case retained =>
    intro i source outcome before after htook j request b a hmade claim hclaim hkept
    rcases Bench.step_delete htook.step with ⟨rfl, hlookups, hcalls, -⟩
    rcases hmade.retained before hclaim hkept with ⟨hresult, hnoLookups, hnoCalls⟩
    rw [hresult, hlookups, hcalls]
    exact ⟨rfl, hnoLookups, hnoCalls⟩

/-! ### A run that deletes a bucket -/

/-- A claim that wants its bucket created and deleted. -/
def sampleRequest : ProvisionRequest where
  volumeName := "volume"
  claimName := "claim"
  claimNamespace := "default"
  claimAnnotations := .ofList [
    (Key.autoCreateBucket, "true"), (Key.autoDeleteBucket, "true"), (Key.secretName, "secret"),
    (Key.endpoint, "https://s3.test"), (Key.iamEndpoint, "https://iam.test")]

/-- A run that provisions a volume and tears it down. -/
def sampleSteps : List Step := [
  .insertSecret ⟨"secret", "default"⟩ (.ofTexts [("access-key", "a"), ("secret-key", "s")]),
  .provision "kept" sampleRequest,
  .delete (.slot "kept")]

theorem deletion_safe_sample :
    Bench.DeletesReturned ⟨"driver", "cluster"⟩ (.start ["token"]) sampleSteps ∧
      DeletionSafe ⟨"driver", "cluster"⟩ (.start ["token"]) sampleSteps ∧
      .deleteBucket "tmp-s3fs-token" ∈ callsOf
        ((Bench.start ["token"]).final ⟨"driver", "cluster"⟩ sampleSteps).progress.journal := by
  have hreturned : Bench.DeletesReturned ⟨"driver", "cluster"⟩ (.start ["token"]) sampleSteps := by
    apply Bench.deletesReturned_of_slots rfl
    · simp [sampleSteps]
    · rintro i source outcome before after ⟨hstep, hrun⟩
      rcases i with _ | _ | _ | i
      · cases hstep
      · cases hstep
      · have hheld : (((Bench.start ["token"]).run ⟨"driver", "cluster"⟩ sampleSteps)[2]?.all
            fun (_, bench, _) => bench.slots["kept"]?.isSome) = true := by decide +kernel
        rw [hrun] at hheld
        refine ⟨"kept", (Step.delete.inj (Option.some.inj hstep)).symm, ?_⟩
        exact Option.isSome_iff_ne_none.mp hheld
      · cases hstep
  exact ⟨hreturned, deletion_safe _ _ _ hreturned, by decide +kernel⟩

end BucketVolume
