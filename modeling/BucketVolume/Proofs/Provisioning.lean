import BucketVolume.Proofs.Credential
import BucketVolume.Proofs.Decision
import BucketVolume.Proofs.Lifecycle

/-!
# BucketVolume.Proofs.Provisioning — the course of a provision call

A provision call takes one of five courses: it is not decided, it needs no session, it gets no
credentials, its session fails, or its session succeeds. `Provisioner.Serves` lists them, each with
its result, the tokens it leaves and its journal, against any host and after any calls; whatever is
said about provisioning is read off the five.

* `perform_session` — a session makes its plan's calls, unless its credentials are refused;
* `provision_serves` — every provision call takes one of the courses.
-/

namespace BucketVolume

open Activity

/-! ## A plan's session -/

/-- What comes of a plan's session: its calls one after the other, unless the credentials cannot
create the bucket that the plan wants created. -/
def Backend.serve (backend : Backend) (earlier : List Call) (plan : ProvisionPlan)
    (credentials : Credentials) : Except Failure Unit × List Entry :=
  let opening := Call.openSession plan.config.endpoint plan.config.region plan.config.iamEndpoint
  if plan.bucket.create && credentials.lacksServiceInstance then
    (.error (.validation .createWithoutServiceInstance), [.call opening])
  else backend.conduct earlier (opening :: plan.bucket.calls)

section Serve

variable {backend : Backend} {earlier : List Call} {plan : ProvisionPlan}
variable {credentials : Credentials} {result : Except Failure Unit} {entries : List Entry}

/-- Nothing is looked up in a session. -/
theorem lookupsOf_serve (h : backend.serve earlier plan credentials = (result, entries)) :
    lookupsOf entries = [] := by
  have hentries : (backend.serve earlier plan credentials).2 = entries := by rw [h]
  rw [← hentries, Backend.serve]
  split
  · rfl
  · exact backend.lookupsOf_conduct earlier _

/-- Whatever a session reports comes from the part that works on buckets. -/
theorem target_of_mem_serve (h : backend.serve earlier plan credentials = (result, entries))
    {event : Event} (hevent : event ∈ eventsOf entries) : event.target = .buckets := by
  have hentries : (backend.serve earlier plan credentials).2 = entries := by rw [h]
  rw [← hentries, Backend.serve] at hevent
  split at hevent
  · cases hevent
  · exact Backend.target_of_mem_conduct hevent

/-- A session is opened first; then its plan's calls are made in their order, all of them if it goes
through. -/
theorem callsOf_serve (h : backend.serve earlier plan credentials = (result, entries)) :
    ∃ made, made <+: plan.bucket.calls ∧
      callsOf entries =
        .openSession plan.config.endpoint plan.config.region plan.config.iamEndpoint :: made ∧
      (result = .ok () → made = plan.bucket.calls) := by
  have hresult : (backend.serve earlier plan credentials).1 = result := by rw [h]
  have hentries : (backend.serve earlier plan credentials).2 = entries := by rw [h]
  rw [← hresult, ← hentries, Backend.serve]
  split
  · -- the credentials are refused before the first call
    exact ⟨[], List.nil_prefix, rfl, fun hok => by cases hok⟩
  · -- opening a session never fails, so the plan's calls follow it
    simp only [Backend.conduct, Backend.failure?, callsOf_append, Backend.callsOf_entries]
    refine ⟨_, backend.isPrefix_callsOf_conduct _ plan.bucket.calls, rfl, fun hok => ?_⟩
    exact backend.callsOf_conduct_ok hok

end Serve

/-- A session makes its plan's calls, unless its credentials are refused. -/
theorem perform_session {plan : ProvisionPlan} {credentials : Credentials}
    (hiam : credentials.iamEndpoint = plan.config.iamEndpoint)
    (host : Host) (tokens : TokenSource) (journal : List Entry) :
    (do Lifecycle.openSession plan.config.endpoint plan.config.region credentials
        Lifecycle.execute plan.bucket credentials).perform host ⟨tokens, journal⟩ =
      ((host.backend.serve (callsOf journal) plan credentials).1,
        ⟨tokens, journal ++ (host.backend.serve (callsOf journal) plan credentials).2⟩) := by
  by_cases hrefused : (plan.bucket.create && credentials.lacksServiceInstance) = true
  · -- the session is open by the time the credentials are refused
    rcases Bool.and_eq_true_iff.mp hrefused with ⟨hcreate, hlacks⟩
    simp [perform_bind, Lifecycle.openSession, Lifecycle.perform_execute_refused hcreate hlacks,
      Backend.serve, hcreate, hlacks, hiam]
  · have hmay : plan.bucket.create = true → credentials.lacksServiceInstance = false := by
      simpa using hrefused
    have hconducts := conducts_bind
      (Lifecycle.conducts_openSession plan.config.endpoint plan.config.region credentials)
      (Lifecycle.conducts_execute plan.bucket hmay)
    rw [hconducts host tokens journal]
    simp [Backend.serve, hrefused, hiam]

/-! ## The course of a provision call -/

namespace Provisioner

/-- What a call reports until its request is decided. -/
def opening (provisioner : Provisioner) (request : ProvisionRequest) : List Event :=
  .volumeRequested provisioner.clusterId request.claimName request.claimNamespace
    request.volumeName :: ProvisionPlan.stageEvents request

/-- What fetching a plan's credentials leaves. -/
def fetching (subject : String) (plan : ProvisionPlan) : List Entry :=
  [.event (.claimStageStarted subject .credentialResolution),
    .event (.fetchingSecret plan.secret.name plan.secret.namespaceName),
    .lookup plan.secret]

@[simp] theorem callsOf_fetching (subject : String) (plan : ProvisionPlan) :
    callsOf (fetching subject plan) = [] := rfl

@[simp] theorem lookupsOf_fetching (subject : String) (plan : ProvisionPlan) :
    lookupsOf (fetching subject plan) = [plan.secret] := rfl

/-- What a call reports once its bucket is ready. -/
def closing (provisioner : Provisioner) (request : ProvisionRequest) (plan : ProvisionPlan) :
    List Event :=
  [.claimStageStarted request.claimName .descriptorBuilding,
    .volumeProvisioned provisioner.clusterId request.claimName plan.bucket.name]

/-- The ways that serving a claim can go: where it stops, with which result and with how many tokens,
and the journal of it. -/
inductive Serves (provisioner : Provisioner) (host : Host) (request : ProvisionRequest)
    (tokens : TokenSource) (earlier : List Call) :
    Except StageFailure PersistentVolume → TokenSource → List Entry → Prop where
  | undecided {failure : StageFailure} {left : TokenSource}
      (decision : ProvisionPlan.decided request tokens = (.error failure, left)) :
      Serves provisioner host request tokens earlier (.error failure) left
        ((provisioner.opening request).map .event)
  | offline {plan : ProvisionPlan} {left : TokenSource}
      (decision : ProvisionPlan.decided request tokens = (.ok plan, left))
      (noSession : plan.bucket.requiresSession = false) :
      Serves provisioner host request tokens earlier
        (.ok (plan.persistentVolume request provisioner.driverName)) left
        ((provisioner.opening request).map .event ++ (provisioner.closing request plan).map .event)
  | locked {plan : ProvisionPlan} {left : TokenSource} {cause : CredentialFailure}
      (decision : ProvisionPlan.decided request tokens = (.ok plan, left))
      (session : plan.bucket.requiresSession = true)
      (fetched : host.credentials plan.secret plan.config.iamEndpoint = .error cause) :
      Serves provisioner host request tokens earlier
        (.error ⟨request.claimName, .credentialResolution, .credential cause⟩) left
        ((provisioner.opening request).map .event ++ fetching request.claimName plan)
  | broken {plan : ProvisionPlan} {left : TokenSource} {credentials : Credentials}
      {cause : Failure} {entries : List Entry}
      (decision : ProvisionPlan.decided request tokens = (.ok plan, left))
      (session : plan.bucket.requiresSession = true)
      (fetched : host.credentials plan.secret plan.config.iamEndpoint = .ok credentials)
      (serve : host.backend.serve earlier plan credentials = (.error cause, entries)) :
      Serves provisioner host request tokens earlier
        (.error ⟨request.claimName, .lifecycleExecution, cause⟩) left
        ((provisioner.opening request).map .event ++ fetching request.claimName plan ++
          .event (.lifecycleStarted request.claimName plan.bucket.name) :: entries)
  | served {plan : ProvisionPlan} {left : TokenSource} {credentials : Credentials}
      {entries : List Entry}
      (decision : ProvisionPlan.decided request tokens = (.ok plan, left))
      (session : plan.bucket.requiresSession = true)
      (fetched : host.credentials plan.secret plan.config.iamEndpoint = .ok credentials)
      (serve : host.backend.serve earlier plan credentials = (.ok (), entries)) :
      Serves provisioner host request tokens earlier
        (.ok (plan.persistentVolume request provisioner.driverName)) left
        ((provisioner.opening request).map .event ++ fetching request.claimName plan ++
          .event (.lifecycleStarted request.claimName plan.bucket.name) :: entries ++
          (provisioner.closing request plan).map .event)

/-- Writing the volume of a plan cannot fail. -/
theorem perform_finish (provisioner : Provisioner) (request : ProvisionRequest)
    (plan : ProvisionPlan) (host : Host) (tokens : TokenSource) (journal : List Entry) :
    (provisioner.finish request plan).perform host ⟨tokens, journal⟩ =
      (.ok (plan.persistentVolume request provisioner.driverName),
        ⟨tokens, journal ++ (provisioner.closing request plan).map .event⟩) := by
  simp only [finish, perform_bind, perform_emit, perform_pure, closing, List.append_assoc]
  rfl

/-- Making a bucket ready fetches the plan's credentials and then opens its session. -/
theorem perform_readyBucket (subject : String) (plan : ProvisionPlan) (host : Host)
    (tokens : TokenSource) (journal : List Entry) :
    (readyBucket subject plan).perform host ⟨tokens, journal⟩ =
      match host.credentials plan.secret plan.config.iamEndpoint with
      | .error cause =>
        (.error ⟨subject, .credentialResolution, .credential cause⟩,
          ⟨tokens, journal ++ fetching subject plan⟩)
      | .ok credentials =>
        let (result, entries) := host.backend.serve (callsOf journal) plan credentials
        (result.mapError (⟨subject, .lifecycleExecution, ·⟩),
          ⟨tokens, journal ++ fetching subject plan ++
            .event (.lifecycleStarted subject plan.bucket.name) :: entries⟩) := by
  simp only [readyBucket, perform_bind, perform_emit, perform_atStage, perform_mapFailure,
    perform_fetch]
  rcases hfetched : host.credentials plan.secret plan.config.iamEndpoint with cause | credentials
  · simp [fetching]
  · have hsession := perform_session (Host.iamEndpoint_credentials hfetched) host tokens
    simp only [perform_bind] at hsession
    simp [hsession, fetching]

/-- Every provision call goes one of these ways. -/
theorem provision_serves (provisioner : Provisioner) (host : Host) (request : ProvisionRequest)
    (tokens : TokenSource) (journal : List Entry) :
    ∃ result left entries,
      (provisioner.provision request).perform host ⟨tokens, journal⟩ =
        (result, ⟨left, journal ++ entries⟩) ∧
      Serves provisioner host request tokens (callsOf journal) result left entries := by
  rcases hdecided : ProvisionPlan.decided request tokens with ⟨failure | plan, left⟩
  · -- the request is not decided
    refine ⟨_, _, _, ?_, .undecided hdecided⟩
    simp [provision, perform_bind, ProvisionPlan.perform_prepare, hdecided, opening]
  cases hsession : plan.bucket.requiresSession with
  | false =>
    -- nothing is asked for
    refine ⟨_, _, _, ?_, .offline hdecided hsession⟩
    simp [provision, perform_finish, perform_bind, ProvisionPlan.perform_prepare, hdecided, hsession,
      opening]
  | true =>
    rcases hfetched : host.credentials plan.secret plan.config.iamEndpoint with cause | credentials
    · -- there are no credentials
      refine ⟨_, _, _, ?_, .locked hdecided hsession hfetched⟩
      simp [provision, perform_bind, ProvisionPlan.perform_prepare, hdecided, hsession,
        perform_readyBucket, hfetched, opening]
    rcases hserve : host.backend.serve (callsOf journal) plan credentials with
      ⟨cause | ⟨⟩, entries⟩
    · -- the session fails
      refine ⟨_, _, _, ?_, .broken hdecided hsession hfetched hserve⟩
      simp [provision, perform_bind, ProvisionPlan.perform_prepare, hdecided, hsession,
        perform_readyBucket, hfetched, hserve, opening]
    · -- the session goes through
      refine ⟨_, _, _, ?_, .served hdecided hsession hfetched hserve⟩
      simp [provision, perform_finish, perform_bind, ProvisionPlan.perform_prepare, hdecided, hsession,
        perform_readyBucket, hfetched, hserve, opening]

end Provisioner
end BucketVolume
