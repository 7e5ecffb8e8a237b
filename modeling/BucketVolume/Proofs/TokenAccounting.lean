import BucketVolume.Proofs.DeletionSafety
import BucketVolume.Proofs.Isolation

/-!
# BucketVolume.Proofs.TokenAccounting — which step of a run gets which token

Tokens are handed out in their order, one to each step that draws one and none to any other step.
`drawsBefore` counts the steps that drew one before a given step, so the invariant of a run is that its
source has been drawn from that often (`Took.tokens_before`), and all else is read off it: the number
of issued tokens, the token of each step, and what happens once there are none.

* `draw_afterDraws` — a source tells by the number of draws what the next one gives;
* `Took.tokens_before` — the invariant, by induction on the index of the step;
* `provision_planned`, `Took.usedToken` — what a call does with its token, whether or not it succeeds;
* `Took.told_eq` — a step that draws no token shows the same whatever tokens there are;
* `TokensAccounted` — the account of a whole run, and that it is right.
-/

namespace BucketVolume

/-! ## Sources by the number of draws -/

namespace TokenSource

/-- A source that has been drawn from a number of times. -/
def afterDraws (tokens : List String) (n : Nat) : TokenSource where
  remaining := tokens.drop n
  issued := min n tokens.length

theorem afterDraws_zero (tokens : List String) : afterDraws tokens 0 = { remaining := tokens } := by
  simp only [afterDraws, List.drop_zero, Nat.zero_min]

/-- Each draw gives the token at its own place, as long as there is one. -/
theorem draw_afterDraws (tokens : List String) (n : Nat) :
    (afterDraws tokens n).draw =
      (match tokens[n]? with
        | some token => .ok token
        | none => .error ⟨"token sequence exhausted"⟩,
        afterDraws tokens (n + 1)) := by
  by_cases hleft : n < tokens.length
  · have hnext : tokens.drop n = tokens[n] :: tokens.drop (n + 1) := List.drop_eq_getElem_cons hleft
    have hcount : min (n + 1) tokens.length = min n tokens.length + 1 := by omega
    simp only [draw, afterDraws, hnext, hcount, List.getElem?_eq_getElem hleft]
  · -- nothing is left, and the count stays
    have hgone : tokens.drop n = [] := List.drop_eq_nil_of_le (by omega)
    have hstill : tokens.drop (n + 1) = [] := List.drop_eq_nil_of_le (by omega)
    have hcount : min (n + 1) tokens.length = min n tokens.length := by omega
    have hnone : tokens[n]? = none := List.getElem?_eq_none_iff.mpr (by omega)
    simp only [draw, afterDraws, hgone, hstill, hcount, hnone]

end TokenSource

/-! ## Draws of a run -/

/-- How many of the steps before an index draw a token. -/
def drawsBefore (steps : List Step) (i : Nat) : Nat :=
  (steps.take i).countP Step.drawsToken

theorem drawsBefore_succ {steps : List Step} {i : Nat} {s : Step} (h : steps[i]? = some s) :
    drawsBefore steps (i + 1) = drawsBefore steps i + if s.drawsToken then 1 else 0 := by
  rw [drawsBefore, List.take_add_one, h, List.countP_append, Option.toList_some,
    List.countP_singleton]
  rfl

namespace Bench

variable {provisioner : Provisioner} {tokens : List String} {steps : List Step} {i : Nat} {s : Step}
variable {outcome : Outcome} {before after : Bench}

/-- A step that draws a token takes the next one, and any other step leaves them alone. -/
theorem tokensAfter_afterDraws (h : steps[i]? = some s) :
    s.tokensAfter (.afterDraws tokens (drawsBefore steps i)) =
      .afterDraws tokens (drawsBefore steps (i + 1)) := by
  rw [drawsBefore_succ h, Step.tokensAfter]
  cases s.drawsToken with
  | true =>
    simp only [if_true]
    rw [TokenSource.draw_afterDraws]
  | false => rfl

/-- Before each step, the source has been drawn from as often as the steps before it say. -/
theorem Took.tokens_before (h : Took provisioner (.start tokens) steps i s outcome before after) :
    before.progress.tokens = .afterDraws tokens (drawsBefore steps i) := by
  -- each step moves the source on by one draw or by none
  induction i generalizing s outcome before after with
  | zero =>
    rw [h.before_of_zero]
    exact (TokenSource.afterDraws_zero tokens).symm
  | succ i ih =>
    rcases h.exists_pred with ⟨t, earlier, previous, hprevious⟩
    rw [tokens_step hprevious.step, ih hprevious, tokensAfter_afterDraws hprevious.1]

theorem Took.tokens_after (h : Took provisioner (.start tokens) steps i s outcome before after) :
    after.progress.tokens = .afterDraws tokens (drawsBefore steps (i + 1)) := by
  rw [tokens_step h.step, h.tokens_before, tokensAfter_afterDraws h.1]

/-! ## What a call does with its token -/

variable {bench : Bench} {request : ProvisionRequest} {plan : ProvisionPlan} {left : TokenSource}

/-- A call whose request is refused asks for nothing. -/
theorem provision_refused (provisioner : Provisioner) {failure : StageFailure}
    (h : ProvisionPlan.decided request bench.progress.tokens = (.error failure, left)) :
    (bench.observe (provisioner.provision request)).result = .error failure ∧
      (bench.observe (provisioner.provision request)).lookups = [] ∧
      (bench.observe (provisioner.provision request)).calls = [] := by
  obtain ⟨result, rest, entries, hperform, hserves⟩ :=
    provisioner.provision_serves bench.host request bench.progress.tokens bench.progress.journal
  rw [bench.observe_eq hperform]
  cases hserves with
  | undecided decision =>
    cases h.symm.trans decision
    exact ⟨rfl, by simp, by simp⟩
  | offline decision | locked decision | broken decision | served decision =>
    cases h.symm.trans decision

/-- A call whose request is planned returns the volume of its plan or fails in its session, and makes
no other calls than those of its plan. -/
theorem provision_planned (provisioner : Provisioner)
    (h : ProvisionPlan.decided request bench.progress.tokens = (.ok plan, left)) :
    (∀ volume, (bench.observe (provisioner.provision request)).result = .ok volume →
      volume = plan.persistentVolume request provisioner.driverName) ∧
    (∀ failure, (bench.observe (provisioner.provision request)).result = .error failure →
      failure.stage = .credentialResolution ∨ failure.stage = .lifecycleExecution) ∧
    (bench.observe (provisioner.provision request)).calls <+:
      .openSession plan.config.endpoint plan.config.region plan.config.iamEndpoint ::
        plan.bucket.calls := by
  obtain ⟨result, rest, entries, hperform, hserves⟩ :=
    provisioner.provision_serves bench.host request bench.progress.tokens bench.progress.journal
  rw [bench.observe_eq hperform]
  -- a session that was begun made the first of its plan's calls
  have hsession : ∀ {credentials result entries},
      bench.host.backend.serve (callsOf bench.progress.journal) plan credentials =
        (result, entries) →
      callsOf entries <+:
        .openSession plan.config.endpoint plan.config.region plan.config.iamEndpoint ::
          plan.bucket.calls := by
    intro credentials result entries hserve
    rcases callsOf_serve hserve with ⟨made, hmade, hcalls, -⟩
    rw [hcalls]
    exact List.cons_prefix_cons.mpr ⟨rfl, hmade⟩
  cases hserves with
  | undecided decision => cases h.symm.trans decision
  | offline decision =>
    cases h.symm.trans decision
    refine ⟨?_, ?_, by simp⟩
    · intro volume hok
      exact (Except.ok.inj hok).symm
    · intro failure hfailed
      cases hfailed
  | locked decision =>
    cases h.symm.trans decision
    refine ⟨?_, ?_, by simp⟩
    · intro volume hok
      cases hok
    · intro failure hfailed
      obtain rfl := Except.error.inj hfailed
      exact .inl rfl
  | broken decision session fetched serve =>
    cases h.symm.trans decision
    refine ⟨?_, ?_, by simpa using hsession serve⟩
    · intro volume hok
      cases hok
    · intro failure hfailed
      obtain rfl := Except.error.inj hfailed
      exact .inr rfl
  | served decision session fetched serve =>
    cases h.symm.trans decision
    refine ⟨?_, ?_, by simpa using hsession serve⟩
    · intro volume hok
      exact (Except.ok.inj hok).symm
    · intro failure hfailed
      cases hfailed

/-! ## Runs with other tokens -/

/-- What a step does to the secrets and the switches depends on nothing else. -/
theorem agreeOn_step (provisioner : Provisioner) (s : Step) {other : Bench}
    (h : bench.AgreeOn (fun _ => False) other) :
    (bench.step provisioner s).2.AgreeOn (fun _ => False) (other.step provisioner s).2 := by
  by_cases hcall : s.IsCall
  · -- calls change neither
    rcases exists_effect provisioner bench hcall with ⟨effect, heffect⟩
    rcases exists_effect provisioner other hcall with ⟨effect', heffect'⟩
    rw [heffect.here, heffect'.here]
    exact ⟨h.secrets, h.switches, fun _ hname => hname.elim⟩
  · cases s with
    | insertSecret ref data =>
      exact ⟨congrArg (·.insert ref data) h.secrets, h.switches, fun _ hname => hname.elim⟩
    | script setting =>
      exact ⟨h.secrets, congrArg (·.set setting) h.switches, fun _ hname => hname.elim⟩
    | annotate name key value => exact ⟨h.secrets, h.switches, fun _ hname => hname.elim⟩
    | provision | delete | report => exact absurd trivial hcall

variable {other : List String} {s' : Step} {outcome' : Outcome} {before' after' : Bench}

/-- Runs of the same steps with different tokens have the same secrets and switches at each step. -/
theorem Took.agreeOn (h : Took provisioner (.start tokens) steps i s outcome before after)
    (h' : Took provisioner (.start other) steps i s' outcome' before' after') :
    before.AgreeOn (fun _ => False) before' := by
  induction i generalizing s outcome before after s' outcome' before' after' with
  | zero =>
    rw [h.before_of_zero, h'.before_of_zero]
    exact ⟨rfl, rfl, fun _ hname => hname.elim⟩
  | succ i ih =>
    rcases h.exists_pred with ⟨t, earlier, previous, hprevious⟩
    rcases h'.exists_pred with ⟨t', earlier', previous', hprevious'⟩
    -- both runs took the same step before
    obtain rfl : t = t' := Option.some.inj (hprevious.1.symm.trans hprevious'.1)
    have hstep := agreeOn_step provisioner t (ih hprevious hprevious')
    rwa [hprevious.step, hprevious'.step] at hstep

/-- A provision step that draws no token comes to the same in runs with different tokens. -/
theorem Took.told_eq {slot : String}
    (h : Took provisioner (.start tokens) steps i (.provision slot request) outcome before after)
    (h' : Took provisioner (.start other) steps i (.provision slot request) outcome' before' after')
    (hdraws : request.drawsToken = false) :
    told (outcome, before, after) = told (outcome', before', after') := by
  have hcall : (Step.provision slot request).IsCall := trivial
  have hkeeps : ¬ (Step.provision slot request).drawsToken = true := by
    rw [Step.drawsToken, hdraws]
    decide
  have hagree : before.AgreeOn (· ∈ (Step.provision slot request).reads) before' :=
    (h.agreeOn h').mono fun _ hname => List.not_mem_nil hname
  rcases exists_effect provisioner before hcall with ⟨effect, heffect⟩
  have hfirst := h.step.symm.trans heffect.here
  have hsecond := h'.step.symm.trans (heffect.there before' hagree fun h => absurd h hkeeps)
  obtain ⟨rfl, rfl⟩ := Prod.mk.inj hfirst
  obtain ⟨rfl, rfl⟩ := Prod.mk.inj hsecond
  rw [told_advance, told_advance]

end Bench

/-! ## The account of a run -/

/-- What a step does with a token that it draws: it plans the bucket that is named for the token, and
whatever it asks for is asked for that bucket, whether or not it succeeds. -/
structure UsedToken (provisioner : Provisioner) (request : ProvisionRequest) (token : String)
    (outcome : Outcome) (before after : Bench) (plan : ProvisionPlan) : Prop where
  planned : ((ProvisionPlan.prepare request).perform before.host before.progress).1 = .ok plan
  named : plan.bucket.name = "tmp-s3fs-" ++ token
  succeeded : ∀ volume, outcome = .provisioned (.ok volume) →
    volume = plan.persistentVolume request provisioner.driverName
  failed : ∀ failure, outcome = .provisioned (.error failure) →
    failure.stage = .credentialResolution ∨ failure.stage = .lifecycleExecution
  calls : callsOf (before.added after) <+:
    [.openSession plan.config.endpoint plan.config.region plan.config.iamEndpoint,
      .createBucket plan.bucket.name, .checkAccess plan.bucket.name]

/-- The tokens of a run are accounted for. -/
structure TokensAccounted (provisioner : Provisioner) (tokens : List String) (steps : List Step) :
    Prop where
  issued : ∀ i s outcome before after,
    Bench.Took provisioner (.start tokens) steps i s outcome before after →
    after.progress.tokens.issued = min (drawsBefore steps (i + 1)) tokens.length
  drawn : ∀ i slot request outcome before after token,
    Bench.Took provisioner (.start tokens) steps i (.provision slot request) outcome before after →
    request.drawsToken = true → tokens[drawsBefore steps i]? = some token →
    ∃ plan, UsedToken provisioner request token outcome before after plan
  exhausted : ∀ i slot request outcome before after,
    Bench.Took provisioner (.start tokens) steps i (.provision slot request) outcome before after →
    request.drawsToken = true → tokens.length ≤ drawsBefore steps i →
    outcome = .provisioned (.error ⟨request.claimName, .validating,
        .nameGeneration ⟨"token sequence exhausted"⟩⟩) ∧
      lookupsOf (before.added after) = [] ∧ callsOf (before.added after) = []
  unaffected : ∀ other i slot request outcome before after outcome' before' after',
    Bench.Took provisioner (.start tokens) steps i (.provision slot request) outcome before after →
    Bench.Took provisioner (.start other) steps i (.provision slot request) outcome' before' after' →
    request.drawsToken = false →
    outcome = outcome' ∧ before.added after = before'.added after'

namespace Bench

variable {provisioner : Provisioner} {tokens : List String} {steps : List Step} {i : Nat}
variable {slot : String} {request : ProvisionRequest} {outcome : Outcome} {before after : Bench}

/-- How a request that draws a token is decided, by the number of the draws before it. -/
theorem Took.exists_claim
    (h : Took provisioner (.start tokens) steps i (.provision slot request) outcome before after)
    (hdraws : request.drawsToken = true) :
    ∃ claim config, claim.checkPolicy = .ok () ∧ claim.autoDeleteBucket = true ∧
      ProvisionPlan.decided request before.progress.tokens =
        (match tokens[drawsBefore steps i]? with
          | some token => .ok {
              claim, config
              bucket := .named claim (generatedBucketName token)
              secret := ⟨claim.secretName, request.claimNamespace⟩ }
          | none => .error ⟨request.claimName, .validating,
              .nameGeneration ⟨"token sequence exhausted"⟩⟩,
          .afterDraws tokens (drawsBefore steps i + 1)) := by
  rcases ProvisionPlan.decided_of_drawsToken hdraws with
    ⟨claim, config, -, hpolicy, hdelete, hdecided⟩
  refine ⟨claim, config, hpolicy, hdelete, ?_⟩
  rw [hdecided, h.tokens_before, TokenSource.draw_afterDraws]
  cases tokens[drawsBefore steps i]? with
  | none => rfl
  | some token => rfl

/-- A step that draws a token while there is one uses it for its bucket. -/
theorem Took.usedToken {token : String}
    (h : Took provisioner (.start tokens) steps i (.provision slot request) outcome before after)
    (hdraws : request.drawsToken = true) (htoken : tokens[drawsBefore steps i]? = some token) :
    ∃ plan, UsedToken provisioner request token outcome before after plan := by
  rcases h.exists_claim hdraws with ⟨claim, config, hpolicy, hdelete, hdecided⟩
  rw [htoken] at hdecided
  rcases step_provision h.step with ⟨houtcome, -, hcalls, -⟩
  rcases provision_planned provisioner hdecided with ⟨hsucceeded, hfailed, hmade⟩
  rcases Claim.checkPolicy_autoDelete hpolicy hdelete with ⟨hcreate, -, hpath⟩
  have hplanned := congrArg Prod.fst
    (ProvisionPlan.perform_prepare request before.host before.progress.tokens before.progress.journal)
  rw [hdecided] at hplanned
  refine ⟨_, hplanned, rfl, ?_, ?_, ?_⟩
  · intro volume hok
    exact hsucceeded volume (Outcome.provisioned.inj (houtcome.symm.trans hok))
  · intro failure herror
    exact hfailed failure (Outcome.provisioned.inj (houtcome.symm.trans herror))
  · rw [BucketPlan.calls_named _ hcreate hpath] at hmade
    rw [hcalls]
    exact hmade

/-- A step that draws a token when there is none is refused before it asks for anything. -/
theorem Took.exhausted
    (h : Took provisioner (.start tokens) steps i (.provision slot request) outcome before after)
    (hdraws : request.drawsToken = true) (hgone : tokens.length ≤ drawsBefore steps i) :
    outcome = .provisioned (.error ⟨request.claimName, .validating,
        .nameGeneration ⟨"token sequence exhausted"⟩⟩) ∧
      lookupsOf (before.added after) = [] ∧ callsOf (before.added after) = [] := by
  rcases h.exists_claim hdraws with ⟨claim, config, -, -, hdecided⟩
  rw [List.getElem?_eq_none_iff.mpr hgone] at hdecided
  rcases step_provision h.step with ⟨rfl, hlookups, hcalls, -⟩
  rcases provision_refused provisioner hdecided with ⟨hresult, hnoLookups, hnoCalls⟩
  rw [hresult, hlookups, hcalls]
  exact ⟨rfl, hnoLookups, hnoCalls⟩

end Bench

/-- In whatever order steps fail and succeed, each token goes to one step, and no step that draws none
hangs on the tokens. -/
theorem tokens_accounted (provisioner : Provisioner) (tokens : List String) (steps : List Step) :
    TokensAccounted provisioner tokens steps := by
  constructor
  case issued =>
    intro i s outcome before after h
    rw [h.tokens_after]
    rfl
  case drawn =>
    intro i slot request outcome before after token h hdraws htoken
    exact h.usedToken hdraws htoken
  case exhausted =>
    intro i slot request outcome before after h hdraws hgone
    exact h.exhausted hdraws hgone
  case unaffected =>
    intro other i slot request outcome before after outcome' before' after' h h' hdraws
    exact Prod.mk.inj (h.told_eq h' hdraws)

/-! ### A run that is short of tokens -/

/-- A run in which two claims want a token, and there is one. -/
def scarceSteps : List Step :=
  sampleSteps ++ [.provision "other" sampleRequest]

theorem tokens_accounted_scarce :
    TokensAccounted ⟨"driver", "cluster"⟩ ["token"] scarceSteps ∧
      sampleRequest.drawsToken = true ∧
      drawsBefore scarceSteps 1 = 0 ∧ drawsBefore scarceSteps 3 = 1 :=
  ⟨tokens_accounted _ _ _, by decide +kernel, by decide +kernel, by decide +kernel⟩

end BucketVolume
