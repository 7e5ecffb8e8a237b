import BucketVolume.Proofs.Credential
import BucketVolume.Proofs.Lifecycle

/-!
# BucketVolume.Proofs.AnyBackend — the lifecycle of a bucket against any backend

A backend may answer each call as it likes, also by what it was asked before. Whatever it answers, the
calls of a plan are made in order up to the first that is not granted, and how the last call went is
how the lifecycle ends.

* `Backend.GrantsAll` — a backend grants calls that are made one after the other;
* `Backend.conducted` — calls go through, or stop at the first that is not granted;
* `mem_iff_append_isPrefix` — where a call stands tells whether it was made;
* `LifecycleRan`, `lifecycle_any_backend` — what a lifecycle makes and how it ends.
-/

namespace BucketVolume

open Activity

/-! ## Answers -/

namespace Backend

/-- A backend grants a call: it does not fail, and an object path that is asked for is there. What it
notes about a bucket that it created makes no difference. -/
def Grants (backend : Backend) (earlier : List Call) : Call → Prop
  | .openSession .. => True
  | .createBucket bucket => ∃ note, backend.createBucket earlier bucket = .ok note
  | .checkAccess bucket => backend.checkAccess earlier bucket = .ok ()
  | .checkObjectPath bucket objectPath =>
    backend.checkObjectPath earlier bucket objectPath = .ok true
  | .deleteBucket bucket => backend.deleteBucket earlier bucket = .ok ()

/-- A backend grants calls that are made one after the other. -/
def GrantsAll (backend : Backend) (earlier : List Call) : List Call → Prop
  | [] => True
  | call :: rest => backend.Grants earlier call ∧ backend.GrantsAll (earlier ++ [call]) rest

/-- A backend fails at a call: what it was asked to do to which bucket, and its own words. -/
inductive FailsAt (backend : Backend) (earlier : List Call) :
    Call → BucketOperation → String → String → Prop where
  | create {bucket source : String} (h : backend.createBucket earlier bucket = .error source) :
    FailsAt backend earlier (.createBucket bucket) .create bucket source
  | checkAccess {bucket source : String} (h : backend.checkAccess earlier bucket = .error source) :
    FailsAt backend earlier (.checkAccess bucket) .checkAccess bucket source
  | checkObjectPath {bucket objectPath source : String}
    (h : backend.checkObjectPath earlier bucket objectPath = .error source) :
    FailsAt backend earlier (.checkObjectPath bucket objectPath) .checkObjectPath bucket source
  | delete {bucket source : String} (h : backend.deleteBucket earlier bucket = .error source) :
    FailsAt backend earlier (.deleteBucket bucket) .delete bucket source

/-- A backend knows for sure that an object path is not there. -/
inductive Misses (backend : Backend) (earlier : List Call) : Call → String → String → Prop where
  | objectPath {bucket objectPath : String}
    (h : backend.checkObjectPath earlier bucket objectPath = .ok false) :
    Misses backend earlier (.checkObjectPath bucket objectPath) bucket objectPath

variable {backend : Backend} {earlier : List Call}

theorem failure?_eq_none_iff_grants {call : Call} :
    backend.failure? earlier call = none ↔ backend.Grants earlier call := by
  cases call with
  | openSession endpoint region iamEndpoint => simp [failure?, Grants]
  | createBucket bucket =>
    rcases h : backend.createBucket earlier bucket with source | note
    · simp [failure?, Grants, h]
    · simp [failure?, Grants, h]
  | checkAccess bucket =>
    rcases h : backend.checkAccess earlier bucket with source | ⟨⟩
    · simp [failure?, Grants, h]
    · simp [failure?, Grants, h]
  | checkObjectPath bucket objectPath =>
    rcases h : backend.checkObjectPath earlier bucket objectPath with source | found
    · simp [failure?, Grants, h]
    · cases found
      · simp [failure?, Grants, h]
      · simp [failure?, Grants, h]
  | deleteBucket bucket =>
    rcases h : backend.deleteBucket earlier bucket with source | ⟨⟩
    · simp [failure?, Grants, h]
    · simp [failure?, Grants, h]

/-- A call that is not granted fails with the backend's own words, unless it is an object path that is
not there. -/
theorem cases_of_failure? {call : Call} {failure : Failure}
    (h : backend.failure? earlier call = some failure) :
    (∃ bucket objectPath, backend.Misses earlier call bucket objectPath ∧
      failure = .validation (.objectPathNotFound objectPath bucket)) ∨
    ∃ operation bucket source, backend.FailsAt earlier call operation bucket source ∧
      failure = .backend operation bucket source := by
  cases call with
  | openSession endpoint region iamEndpoint => cases h
  | createBucket bucket =>
    rcases hanswer : backend.createBucket earlier bucket with source | note
    · simp only [failure?, hanswer, Option.some.injEq] at h
      exact .inr ⟨_, _, _, .create hanswer, h.symm⟩
    · simp [failure?, hanswer] at h
  | checkAccess bucket =>
    rcases hanswer : backend.checkAccess earlier bucket with source | ⟨⟩
    · simp only [failure?, hanswer, Option.some.injEq] at h
      exact .inr ⟨_, _, _, .checkAccess hanswer, h.symm⟩
    · simp [failure?, hanswer] at h
  | checkObjectPath bucket objectPath =>
    rcases hanswer : backend.checkObjectPath earlier bucket objectPath with source | found
    · simp only [failure?, hanswer, Option.some.injEq] at h
      exact .inr ⟨_, _, _, .checkObjectPath hanswer, h.symm⟩
    · cases found
      · simp only [failure?, hanswer, Option.some.injEq] at h
        exact .inl ⟨_, _, .objectPath hanswer, h.symm⟩
      · simp [failure?, hanswer] at h
  | deleteBucket bucket =>
    rcases hanswer : backend.deleteBucket earlier bucket with source | ⟨⟩
    · simp only [failure?, hanswer, Option.some.injEq] at h
      exact .inr ⟨_, _, _, .delete hanswer, h.symm⟩
    · simp [failure?, hanswer] at h

/-! ## Calls in a row -/

/-- Calls in two parts are granted if the first part is, and then the second. -/
theorem grantsAll_append {a b : List Call} :
    backend.GrantsAll earlier (a ++ b) ↔
      backend.GrantsAll earlier a ∧ backend.GrantsAll (earlier ++ a) b := by
  induction a generalizing earlier with
  | nil => simp [GrantsAll]
  | cons call rest ih => simp [GrantsAll, ih, and_assoc]

theorem GrantsAll.of_isPrefix {a b : List Call} (h : backend.GrantsAll earlier b) (hinitial : a <+: b) :
    backend.GrantsAll earlier a := by
  rcases hinitial with ⟨rest, rfl⟩
  exact (grantsAll_append.mp h).1

/-- How calls in a row go: all of them are granted, or they stop at the first that is not. -/
inductive Conducted (backend : Backend) (earlier calls : List Call) :
    Except Failure Unit → List Call → Prop where
  | through (granted : backend.GrantsAll earlier calls) :
    Conducted backend earlier calls (.ok ()) calls
  | stopped {before : List Call} {call : Call} {failure : Failure}
    (asked : before ++ [call] <+: calls) (granted : backend.GrantsAll earlier before)
    (refused : backend.failure? (earlier ++ before) call = some failure) :
    Conducted backend earlier calls (.error failure) (before ++ [call])

/-- A call that is granted is followed by the rest. -/
theorem Conducted.cons {call : Call} {rest made : List Call} {result : Except Failure Unit}
    (hcall : backend.Grants earlier call)
    (h : Conducted backend (earlier ++ [call]) rest result made) :
    Conducted backend earlier (call :: rest) result (call :: made) := by
  cases h with
  | through granted => exact .through ⟨hcall, granted⟩
  | @stopped before last failure asked granted refused =>
    rw [List.append_assoc, List.singleton_append] at refused
    have hasked : call :: before ++ [last] <+: call :: rest := (List.prefix_cons_inj call).mpr asked
    exact .stopped hasked ⟨hcall, granted⟩ refused

/-- Conducted calls go through, or stop at the first that is not granted. -/
theorem conducted (backend : Backend) (earlier calls : List Call) :
    Conducted backend earlier calls (backend.conduct earlier calls).1
      (callsOf (backend.conduct earlier calls).2) := by
  induction calls generalizing earlier with
  | nil => exact .through trivial
  | cons call rest ih =>
    simp only [conduct]
    rcases hcall : backend.failure? earlier call with _ | failure
    · simp only [callsOf_append, callsOf_entries, List.singleton_append]
      exact (ih (earlier ++ [call])).cons (failure?_eq_none_iff_grants.mp hcall)
    · simp only [callsOf_entries]
      have hasked : [] ++ [call] <+: call :: rest := ⟨rest, rfl⟩
      refine .stopped hasked trivial ?_
      rwa [List.append_nil]

end Backend

/-! ## Which calls were made -/

/-- Of calls that are all different, some first ones are made; a call is among them exactly if all up
to it are. -/
theorem mem_iff_append_isPrefix {calls made before : List Call} {call : Call}
    (hnodup : calls.Nodup) (hmade : made <+: calls) (hcall : before ++ [call] <+: calls) :
    call ∈ made ↔ before ++ [call] <+: made := by
  constructor
  · intro hmem
    rcases List.prefix_or_prefix_of_prefix hmade hcall with hshort | hlong
    · rcases List.prefix_concat_iff.mp hshort with rfl | hbefore
      · exact List.prefix_refl _
      · -- the call would stand at two places
        have htwice := (hcall.sublist.nodup hnodup)
        rw [List.nodup_append] at htwice
        exact absurd rfl (htwice.2.2 call (hbefore.mem hmem) call List.mem_cons_self)
    · exact hlong
  · intro h
    exact h.mem (List.mem_append_right before List.mem_cons_self)

/-- No plan asks for a call twice. -/
theorem BucketPlan.nodup_calls (plan : BucketPlan) : plan.calls.Nodup := by
  rcases plan with ⟨name, objectPath, create, _, validateAccess⟩
  cases create <;> cases validateAccess <;> cases objectPath <;> simp [calls]

section

variable {plan : BucketPlan} {backend : Backend} {earlier : List Call} {call : Call}

/-- Calls of a plan fail at the plan's bucket. -/
theorem BucketPlan.bucket_of_failsAt {operation : BucketOperation} {bucket source : String}
    (hcall : call ∈ plan.calls) (h : backend.FailsAt earlier call operation bucket source) :
    bucket = plan.name := by
  rcases mem_calls.mp hcall with ⟨-, rfl⟩ | ⟨-, rfl⟩ | ⟨objectPath, -, rfl⟩
  all_goals
    cases h
    rfl

/-- Object paths are looked for in the plan's bucket. -/
theorem BucketPlan.bucket_of_misses {bucket objectPath : String} (hcall : call ∈ plan.calls)
    (h : backend.Misses earlier call bucket objectPath) : bucket = plan.name := by
  cases h
  rcases mem_calls.mp hcall with ⟨-, hcall⟩ | ⟨-, hcall⟩ | ⟨_, -, hcall⟩
  · cases hcall
  · cases hcall
  · cases hcall
    rfl

end

/-! ## The lifecycle -/

/-- What a lifecycle makes of its plan, and how it ends. -/
structure LifecycleRan (backend : Backend) (earlier : List Call) (plan : BucketPlan)
    (credentials : Credentials) (result : Except Failure Unit) (made : List Call) : Prop where
  inOrder : made <+: plan.calls
  once : made.Nodup
  asked : ∀ call ∈ made,
    (plan.create = true ∧ call = .createBucket plan.name) ∨
    (plan.validateAccess = true ∧ call = .checkAccess plan.name) ∨
    ∃ objectPath, plan.objectPath = some objectPath ∧ call = .checkObjectPath plan.name objectPath
  made_iff : ∀ before call, before ++ [call] <+: plan.calls →
    (call ∈ made ↔ (plan.create = true → ¬ credentials.CannotCreate) ∧
      backend.GrantsAll earlier before)
  succeeds : result = .ok () ↔ made = plan.calls ∧ backend.GrantsAll earlier made
  fails : ∀ failure, result = .error failure →
    (plan.create = true ∧ credentials.CannotCreate ∧ made = [] ∧
      failure = .validation .createWithoutServiceInstance) ∨
    (∃ before call objectPath, made = before ++ [call] ∧
      backend.Misses (earlier ++ before) call plan.name objectPath ∧
      failure = .validation (.objectPathNotFound objectPath plan.name)) ∨
    (∃ before call operation source, made = before ++ [call] ∧
      backend.FailsAt (earlier ++ before) call operation plan.name source ∧
      failure = .backend operation plan.name source)

section

variable {backend : Backend} {earlier made : List Call} {plan : BucketPlan}
variable {credentials : Credentials} {result : Except Failure Unit}

/-- Credentials that cannot create the bucket that is asked for end a lifecycle before its first
call. -/
theorem LifecycleRan.of_refused (hcreate : plan.create = true) (hcannot : credentials.CannotCreate) :
    LifecycleRan backend earlier plan credentials
      (.error (.validation .createWithoutServiceInstance)) [] := by
  constructor
  case inOrder => exact List.nil_prefix
  case once => exact List.nodup_nil
  case asked => simp
  case made_iff =>
    intro before call _
    refine iff_of_false List.not_mem_nil ?_
    rintro ⟨hmay, -⟩
    exact hmay hcreate hcannot
  case succeeds =>
    -- the creation was asked for and not made
    refine iff_of_false nofun ?_
    rintro ⟨hmade, -⟩
    have hasked : Call.createBucket plan.name ∈ plan.calls :=
      BucketPlan.mem_calls.mpr (.inl ⟨hcreate, rfl⟩)
    rw [← hmade] at hasked
    cases hasked
  case fails =>
    intro failure h
    exact .inl ⟨hcreate, hcannot, rfl, (Except.error.inj h).symm⟩

/-- A lifecycle whose credentials are good is the row of its plan's calls. -/
theorem LifecycleRan.of_conducted (hmay : plan.create = true → ¬ credentials.CannotCreate)
    (h : backend.Conducted earlier plan.calls result made) :
    LifecycleRan backend earlier plan credentials result made := by
  have horder : made <+: plan.calls := by
    cases h with
    | through => exact List.prefix_refl _
    | stopped asked => exact asked
  constructor
  case inOrder => exact horder
  case once => exact horder.sublist.nodup plan.nodup_calls
  case asked =>
    intro call hcall
    exact BucketPlan.mem_calls.mp (horder.mem hcall)
  case made_iff =>
    intro before call hasked
    rw [mem_iff_append_isPrefix plan.nodup_calls horder hasked]
    cases h with
    | through granted =>
      refine iff_of_true hasked ⟨hmay, granted.of_isPrefix ?_⟩
      exact (List.prefix_append before [call]).trans hasked
    | @stopped first last failure asked granted refused =>
      constructor
      · intro hmade
        refine ⟨hmay, granted.of_isPrefix ?_⟩
        -- all that stands before a call that was made was granted
        rcases List.prefix_concat_iff.mp hmade with heq | hbefore
        · exact (List.append_inj_left' heq rfl) ▸ List.prefix_refl _
        · exact (List.prefix_append before [call]).trans hbefore
      · rintro ⟨-, hgranted⟩
        rcases List.prefix_or_prefix_of_prefix hasked asked with hshort | hlong
        · exact hshort
        rcases List.prefix_concat_iff.mp hlong with heq | hlast
        · exact heq ▸ List.prefix_refl _
        · -- the last call that was made would have been granted
          have hboth := Backend.grantsAll_append.mp (hgranted.of_isPrefix hlast)
          rw [Backend.failure?_eq_none_iff_grants.mpr hboth.2.1] at refused
          cases refused
  case succeeds =>
    cases h with
    | through granted => exact iff_of_true rfl ⟨rfl, granted⟩
    | stopped asked granted refused =>
      refine iff_of_false nofun ?_
      rintro ⟨-, hgranted⟩
      have hlast := (Backend.grantsAll_append.mp hgranted).2.1
      rw [Backend.failure?_eq_none_iff_grants.mpr hlast] at refused
      cases refused
  case fails =>
    intro failure herror
    cases h with
    | through => cases herror
    | @stopped before call cause asked granted refused =>
      obtain rfl := Except.error.inj herror
      have hcall : call ∈ plan.calls :=
        asked.mem (List.mem_append_right before List.mem_cons_self)
      rcases Backend.cases_of_failure? refused with
        ⟨bucket, objectPath, hmisses, rfl⟩ | ⟨operation, bucket, source, hfails, rfl⟩
      · obtain rfl := BucketPlan.bucket_of_misses hcall hmisses
        exact .inr (.inl ⟨before, call, objectPath, rfl, hmisses, rfl⟩)
      · obtain rfl := BucketPlan.bucket_of_failsAt hcall hfails
        exact .inr (.inr ⟨before, call, operation, source, rfl, hfails, rfl⟩)

end

/-- Whatever a backend answers, the lifecycle of a bucket asks for what its plan says, in order, until
a call is not granted, and ends as its last call went. -/
theorem lifecycle_any_backend (plan : BucketPlan) (credentials : Credentials) (host : Host)
    (tokens : TokenSource) (journal : List Entry) :
    ∃ result entries,
      (Lifecycle.execute plan credentials).perform host ⟨tokens, journal⟩ =
        (result, ⟨tokens, journal ++ entries⟩) ∧
      lookupsOf entries = [] ∧
      LifecycleRan host.backend (callsOf journal) plan credentials result (callsOf entries) := by
  by_cases hrefused : plan.create = true ∧ credentials.CannotCreate
  · rcases hrefused with ⟨hcreate, hcannot⟩
    have hlacks := (Credentials.lacksServiceInstance_iff credentials).mpr hcannot
    refine ⟨_, [], ?_, rfl, .of_refused hcreate hcannot⟩
    rw [Lifecycle.perform_execute_refused hcreate hlacks, List.append_nil]
  · rw [not_and] at hrefused
    have hmay : plan.create = true → credentials.lacksServiceInstance = false := by
      intro hcreate
      rw [← Bool.not_eq_true, Credentials.lacksServiceInstance_iff]
      exact hrefused hcreate
    have hconducts := Lifecycle.conducts_execute plan hmay
    refine ⟨_, _, hconducts host tokens journal, host.backend.lookupsOf_conduct _ _, ?_⟩
    exact .of_conducted hrefused (host.backend.conducted _ _)

end BucketVolume
