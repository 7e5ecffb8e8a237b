import BucketVolume.Proofs.Activity

/-!
# BucketVolume.Proofs.Decision — deciding a request, offline

Deciding a request asks nothing of the outside: its result depends on the request and on the tokens
that are left, and all it does to the world is to draw a token and to report the stages it starts.

* `perform_prepare` — deciding a request as a function of the request and the tokens;
* `decides_of_decided` — the plans there can be: with a generated bucket name, or with a given one;
* `decided_of_perform`, `resolved_of_decided` — where a plan comes from;
* `decided_error` — a request that is not decided fails in one of the two offline stages.
-/

namespace BucketVolume

open Activity

/-! ## Naming a bucket -/

namespace BucketPlan

/-- The plan of a claim's bucket, and the tokens that are left once it has a name. -/
def chosen (claim : Claim) (tokens : TokenSource) : Except Failure BucketPlan × TokenSource :=
  if claim.autoDeleteBucket then
    match tokens.draw with
    | (.error failure, left) => (.error (.nameGeneration failure), left)
    | (.ok token, left) => (.ok (named claim (generatedBucketName token)), left)
  else (.ok (named claim claim.bucket), tokens)

theorem perform_ofClaim (claim : Claim) (host : Host) (tokens : TokenSource)
    (journal : List Entry) :
    (ofClaim claim).perform host ⟨tokens, journal⟩ =
      ((chosen claim tokens).1, ⟨(chosen claim tokens).2, journal⟩) := by
  unfold ofClaim drawing chosen
  cases claim.autoDeleteBucket
  · rfl
  · simp only [if_true, perform_bind, perform_drawToken]
    rcases tokens.draw with ⟨_ | token, left⟩
    · rfl
    · rfl

end BucketPlan

/-! ## Deciding a request -/

namespace ProvisionPlan

/-- The plan of a claim's bucket if the claim keeps to the policy, and the tokens left then. -/
def bucketDecided (claim : Claim) (tokens : TokenSource) :
    Except Failure BucketPlan × TokenSource :=
  match claim.checkPolicy with
  | .error cause => (.error cause, tokens)
  | .ok () => BucketPlan.chosen claim tokens

theorem perform_planBucket (claim : Claim) (host : Host) (tokens : TokenSource)
    (journal : List Entry) :
    (planBucket claim).perform host ⟨tokens, journal⟩ =
      ((bucketDecided claim tokens).1, ⟨(bucketDecided claim tokens).2, journal⟩) := by
  simp only [planBucket, perform_bind, perform_settle, bucketDecided]
  rcases claim.checkPolicy with cause | ⟨⟩
  · rfl
  · exact BucketPlan.perform_ofClaim claim host tokens journal

/-- How a request is decided, and the tokens that are left then. -/
def decided (request : ProvisionRequest) (tokens : TokenSource) :
    Except StageFailure ProvisionPlan × TokenSource :=
  match resolveRequest request with
  | .error cause => (.error ⟨request.claimName, .resolving, cause⟩, tokens)
  | .ok (claim, config) =>
    match bucketDecided claim tokens with
    | (.error cause, left) => (.error ⟨request.claimName, .validating, cause⟩, left)
    | (.ok bucket, left) =>
      (.ok { claim, config, bucket, secret := ⟨claim.secretName, request.claimNamespace⟩ }, left)

/-- What deciding a request reports: the stages it starts. -/
def stageEvents (request : ProvisionRequest) : List Event :=
  .claimStageStarted request.claimName .resolving ::
  match resolveRequest request with
  | .error _ => []
  | .ok _ => [.claimStageStarted request.claimName .validating]

/-- Deciding a request asks nothing of its host. -/
theorem perform_prepare (request : ProvisionRequest) (host : Host) (tokens : TokenSource)
    (journal : List Entry) :
    (prepare request).perform host ⟨tokens, journal⟩ =
      ((decided request tokens).1,
        ⟨(decided request tokens).2, journal ++ (stageEvents request).map .event⟩) := by
  simp only [prepare, perform_bind, perform_emit, perform_atStage, perform_settle, decided,
    stageEvents]
  rcases resolveRequest request with cause | ⟨claim, config⟩
  · rfl
  · simp only [mapError_ok, perform_emit, perform_planBucket]
    rcases bucketDecided claim tokens with ⟨cause | bucket, left⟩
    · simp
    · simp

/-- The plans that a request can be decided to. A claim that wants its bucket deleted draws a token
for the bucket's name; any other keeps the tokens and the name it came with. -/
inductive Decides (request : ProvisionRequest) (tokens : TokenSource) :
    ProvisionPlan → TokenSource → Prop where
  | generated {claim : Claim} {config : Configuration} {token : String} {left : TokenSource}
      (resolved : resolveRequest request = .ok (claim, config))
      (policy : claim.checkPolicy = .ok ())
      (autoDelete : claim.autoDeleteBucket = true)
      (drawn : tokens.draw = (.ok token, left)) :
      Decides request tokens
        { claim, config
          bucket := .named claim (generatedBucketName token)
          secret := ⟨claim.secretName, request.claimNamespace⟩ } left
  | kept {claim : Claim} {config : Configuration}
      (resolved : resolveRequest request = .ok (claim, config))
      (policy : claim.checkPolicy = .ok ())
      (autoDelete : claim.autoDeleteBucket = false) :
      Decides request tokens
        { claim, config
          bucket := .named claim claim.bucket
          secret := ⟨claim.secretName, request.claimNamespace⟩ } tokens

/-- A request is decided to no other plans. -/
theorem decides_of_decided {request : ProvisionRequest} {tokens left : TokenSource}
    {plan : ProvisionPlan} (h : decided request tokens = (.ok plan, left)) :
    Decides request tokens plan left := by
  unfold decided at h
  rcases hresolve : resolveRequest request with cause | ⟨claim, config⟩
  · simp [hresolve] at h
  simp only [hresolve, bucketDecided] at h
  rcases hpolicy : claim.checkPolicy with cause | ⟨⟩
  · simp [hpolicy] at h
  simp only [hpolicy, BucketPlan.chosen] at h
  cases hauto : claim.autoDeleteBucket with
  | false =>
    -- the name is the claim's own, and no token is drawn
    simp only [hauto, Bool.false_eq_true, if_false, Prod.mk.injEq, Except.ok.injEq] at h
    rcases h with ⟨rfl, rfl⟩
    exact .kept hresolve hpolicy hauto
  | true =>
    simp only [hauto, if_true] at h
    rcases hdraw : tokens.draw with ⟨failure | token, rest⟩
    · simp [hdraw] at h
    · -- the name is generated from the token that was drawn
      simp only [hdraw, Prod.mk.injEq, Except.ok.injEq] at h
      rcases h with ⟨rfl, rfl⟩
      exact .generated hresolve hpolicy hauto hdraw

/-- What deciding comes to, wherever it is done, was decided from the tokens alone. -/
theorem decided_of_perform {request : ProvisionRequest} {host : Host} {progress : Progress}
    {plan : ProvisionPlan} (h : ((prepare request).perform host progress).1 = .ok plan) :
    ∃ left, decided request progress.tokens = (.ok plan, left) := by
  rcases progress with ⟨tokens, journal⟩
  rw [perform_prepare] at h
  exact ⟨(decided request tokens).2, Prod.ext h rfl⟩

/-- A plan was resolved from its request. -/
theorem resolved_of_decided {request : ProvisionRequest} {tokens left : TokenSource}
    {plan : ProvisionPlan} (h : decided request tokens = (.ok plan, left)) :
    resolveRequest request = .ok (plan.claim, plan.config) := by
  rcases decides_of_decided h with ⟨resolved, -, -, -⟩ | ⟨resolved, -, -⟩
  · exact resolved
  · exact resolved

/-- A request that is not decided fails in one of the two stages of deciding, in the claim's name. -/
theorem decided_error {request : ProvisionRequest} {tokens left : TokenSource}
    {failure : StageFailure} (h : decided request tokens = (.error failure, left)) :
    failure.subject = request.claimName ∧
      (failure.stage = .resolving ∨ failure.stage = .validating) := by
  unfold decided at h
  rcases hresolve : resolveRequest request with cause | ⟨claim, config⟩
  · simp only [hresolve, Prod.mk.injEq, Except.error.injEq] at h
    rcases h with ⟨rfl, -⟩
    exact ⟨rfl, .inl rfl⟩
  · simp only [hresolve] at h
    rcases hbucket : bucketDecided claim tokens with ⟨cause | bucket, rest⟩
    · simp only [hbucket, Prod.mk.injEq, Except.error.injEq] at h
      rcases h with ⟨rfl, -⟩
      exact ⟨rfl, .inr rfl⟩
    · simp [hbucket] at h

end ProvisionPlan

/-! ## The secret of a plan -/

/-- The secret that a request's claim names, in the namespace of the claim. -/
def ProvisionRequest.claimSecret (request : ProvisionRequest) : SecretRef where
  name := request.claimAnnotations.text Key.secretName
  namespaceName := request.claimNamespace

/-- What a request is resolved from: its claim, its storage class, and the two merged. -/
theorem ProvisionPlan.parts_of_resolved {request : ProvisionRequest} {claim : Claim}
    {config : Configuration} (h : resolveRequest request = .ok (claim, config)) :
    Claim.ofAnnotations request.claimAnnotations = .ok claim ∧
      ∃ cls, StorageClass.ofParameters request.classParameters = .ok cls ∧
        Configuration.resolve claim cls = .ok config := by
  rcases exists_of_bind_ok h with ⟨parsed, hclaim, h⟩
  rcases exists_of_bind_ok h with ⟨cls, hcls, h⟩
  rcases exists_of_bind_ok h with ⟨merged, hmerged, h⟩
  obtain ⟨rfl, rfl⟩ := Prod.mk.inj (Except.ok.inj h)
  exact ⟨hclaim, cls, hcls, hmerged⟩

theorem ProvisionPlan.claim_of_resolved {request : ProvisionRequest} {claim : Claim}
    {config : Configuration} (h : resolveRequest request = .ok (claim, config)) :
    Claim.ofAnnotations request.claimAnnotations = .ok claim :=
  (parts_of_resolved h).1

theorem Claim.secretName_ofAnnotations {m : Annotations} {claim : Claim}
    (h : ofAnnotations m = .ok claim) : claim.secretName = m.text Key.secretName := by
  rcases exists_of_bind_ok h with ⟨create, -, h⟩
  rcases exists_of_bind_ok h with ⟨delete, -, h⟩
  rw [← Except.ok.inj h]

/-- The secret of a plan is the one that the claim names. -/
theorem ProvisionPlan.secret_of_decided {request : ProvisionRequest} {tokens left : TokenSource}
    {plan : ProvisionPlan} (h : decided request tokens = (.ok plan, left)) :
    plan.secret = request.claimSecret := by
  rcases decides_of_decided h with ⟨resolved, -, -, -⟩ | ⟨resolved, -, -⟩
  · have hname := Claim.secretName_ofAnnotations (claim_of_resolved resolved)
    simp [ProvisionRequest.claimSecret, hname]
  · have hname := Claim.secretName_ofAnnotations (claim_of_resolved resolved)
    simp [ProvisionRequest.claimSecret, hname]

end BucketVolume
