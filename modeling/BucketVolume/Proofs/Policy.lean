import BucketVolume.Proofs.Decision

/-!
# BucketVolume.Proofs.Policy — the policy lets through what can be planned well

The policy looks at a claim before anything is planned for it, and planning looks at no rule any more.
The two fit: a claim is let through exactly if its plan has a name, keeps the name that the claim gave,
deletes no bucket that it did not create, and expects nothing inside one that it does
(`BucketPlan.Fits`), whatever token a generated name is made of.

Tokens may come from any generator: a state machine that answers with a token or a failure.
`BucketPlan.planning` keeps the answers, so that it can be told when a generator is asked.

* `checkPolicy_ok_iff` — the rules of the policy;
* `planning_of_autoDelete`, `planning_of_kept` — planning with a generator, and without one;
* `fits_of_checkPolicy` — what is let through is planned well;
* `checkPolicy_of_fits` — the policy told from the plans, for a generator that does not always answer
  with the same token;
* `policy_fits_plans` — all of it, for one claim.
-/

namespace BucketVolume

open Activity

/-! ## The rules -/

namespace Claim

variable {claim : Claim}

/-- What the policy asks of a claim. -/
theorem checkPolicy_ok_iff :
    claim.checkPolicy = .ok () ↔
      (claim.autoCreateBucket = true → claim.objectPath = "") ∧
      (claim.autoDeleteBucket = true → claim.autoCreateBucket = true ∧ claim.bucket = "") ∧
      (claim.autoDeleteBucket = false → claim.bucket ≠ "") := by
  unfold checkPolicy
  by_cases hpath : claim.objectPath = "" <;> by_cases hbucket : claim.bucket = "" <;>
    cases claim.autoCreateBucket <;> cases claim.autoDeleteBucket <;> simp [hpath, hbucket]

/-- A claim whose bucket goes with its volume names no bucket and no path, and has it created. -/
theorem checkPolicy_autoDelete (hpolicy : claim.checkPolicy = .ok ())
    (hdelete : claim.autoDeleteBucket = true) :
    claim.autoCreateBucket = true ∧ claim.bucket = "" ∧ claim.objectPath = "" := by
  rcases checkPolicy_ok_iff.mp hpolicy with ⟨hpath, howned, -⟩
  rcases howned hdelete with ⟨hcreate, hbucket⟩
  exact ⟨hcreate, hbucket, hpath hcreate⟩

end Claim

/-! ## Planning with any generator -/

/-- A generator of tokens: what it answers in each of its states, and in which one that leaves it. -/
structure TokenGenerator (σ : Type) where
  next : σ → Except TokenFailure String × σ

namespace TokenGenerator

variable {σ : Type} (generator : TokenGenerator σ)

/-- In some state, the generator answers with a token. -/
def Yields (token : String) : Prop :=
  ∃ state, (generator.next state).1 = .ok token

/-- Asks the generator, and keeps its answer with those it gave before. -/
def ask : ExceptT Failure (StateM (σ × List (Except TokenFailure String)))
    (Except TokenFailure String) :=
  modifyGet fun (state, answers) =>
    ((generator.next state).1, ((generator.next state).2, answers ++ [(generator.next state).1]))

theorem run_ask (state : σ) (answers : List (Except TokenFailure String)) :
    generator.ask (state, answers) = (.ok (generator.next state).1,
      ((generator.next state).2, answers ++ [(generator.next state).1])) := rfl

end TokenGenerator

/-- The tokens that are left are a generator. -/
def TokenSource.generator : TokenGenerator TokenSource := ⟨draw⟩

namespace BucketPlan

/-- What planning with a generator comes to: its result, what the generator was made to answer, and the
state in which that leaves it. -/
structure Planning (σ : Type) where
  result : Except Failure BucketPlan
  answers : List (Except TokenFailure String)
  left : σ

variable {σ : Type} (generator : TokenGenerator σ) (state : σ) {claim : Claim}

/-- Plans the bucket of a claim with a generator that has not been asked yet. -/
def planning (claim : Claim) : Planning σ :=
  let (result, left, answers) := (drawing generator.ask claim).run.run (state, [])
  { result, answers, left }

/-- The plan that an answer leads to. -/
def ofAnswer (claim : Claim) : Except TokenFailure String → Except Failure BucketPlan
  | .error failure => .error (.nameGeneration failure)
  | .ok token => .ok (named claim (generatedBucketName token))

/-- A bucket that goes with its volume takes one answer of the generator. -/
theorem planning_of_autoDelete (h : claim.autoDeleteBucket = true) :
    planning generator state claim =
      { result := ofAnswer claim (generator.next state).1
        answers := [(generator.next state).1]
        left := (generator.next state).2 } := by
  unfold planning drawing
  rw [if_pos h]
  simp only [bind, ExceptT.bind, ExceptT.run, ExceptT.mk, StateT.bind, StateT.run,
    generator.run_ask]
  rcases generator.next state with ⟨failure | token, left⟩
  · rfl
  · rfl

/-- Any other bucket takes none. -/
theorem planning_of_kept (h : claim.autoDeleteBucket = false) :
    planning generator state claim =
      { result := .ok (named claim claim.bucket), answers := [], left := state } := by
  unfold planning drawing
  rw [if_neg (by simp [h])]
  rfl

/-- What planning does with the tokens that are left is what it does with any generator. -/
theorem perform_ofClaim_eq_planning (claim : Claim) (host : Host) (tokens : TokenSource)
    (journal : List Entry) :
    (ofClaim claim).perform host ⟨tokens, journal⟩ =
      ((planning TokenSource.generator tokens claim).result,
        ⟨(planning TokenSource.generator tokens claim).left, journal⟩) := by
  rw [perform_ofClaim]
  cases hdelete : claim.autoDeleteBucket with
  | false => simp [planning_of_kept _ _ hdelete, chosen, hdelete]
  | true =>
    simp only [planning_of_autoDelete _ _ hdelete, chosen, hdelete, if_true, TokenSource.generator]
    rcases tokens.draw with ⟨failure | token, left⟩
    · rfl
    · rfl

/-! ## Plans that fit their claims -/

/-- A plan fits a claim: its bucket has a name, which is the claim's if that gives one; it goes with the
volume only if it was created for it; and nothing is expected inside a new bucket. -/
structure Fits (claim : Claim) (plan : BucketPlan) : Prop where
  isNamed : plan.name ≠ ""
  keepsName : claim.bucket ≠ "" → plan.name = claim.bucket
  deletesOwn : plan.deleteOnRemoval = true → plan.create = true
  startsEmpty : plan.create = true → plan.objectPath = none

theorem generatedBucketName_ne_empty (token : String) : generatedBucketName token ≠ "" := by
  simp [generatedBucketName, generatedBucketStart]

theorem generatedBucketName_inj {token other : String}
    (h : generatedBucketName token = generatedBucketName other) : token = other :=
  String.append_right_inj _ |>.mp h

theorem objectPath_named_eq_none_iff (claim : Claim) (name : String) :
    (named claim name).objectPath = none ↔ claim.objectPath = "" := by
  simp [named]

/-- The plans that there can be: with the claim's name, or with a generated one. -/
theorem cases_of_planning {plan : BucketPlan} (h : (planning generator state claim).result = .ok plan) :
    (claim.autoDeleteBucket = false ∧ plan = named claim claim.bucket) ∨
      (claim.autoDeleteBucket = true ∧ ∃ token, (generator.next state).1 = .ok token ∧
        plan = named claim (generatedBucketName token)) := by
  cases hdelete : claim.autoDeleteBucket with
  | false =>
    rw [planning_of_kept _ _ hdelete] at h
    exact .inl ⟨rfl, (Except.ok.inj h).symm⟩
  | true =>
    rw [planning_of_autoDelete _ _ hdelete] at h
    rcases hanswer : (generator.next state).1 with failure | token
    · rw [hanswer] at h
      cases h
    · rw [hanswer] at h
      exact .inr ⟨rfl, token, rfl, (Except.ok.inj h).symm⟩

/-- What the policy lets through is planned well, whatever the generator answers. -/
theorem fits_of_checkPolicy (hpolicy : claim.checkPolicy = .ok ()) {plan : BucketPlan}
    (h : (planning generator state claim).result = .ok plan) : plan.Fits claim := by
  rcases Claim.checkPolicy_ok_iff.mp hpolicy with ⟨hpath, howned, hnamed⟩
  have hempty : ∀ name, (named claim name).create = true → (named claim name).objectPath = none :=
    fun name hcreate => (objectPath_named_eq_none_iff claim name).mpr (hpath hcreate)
  rcases cases_of_planning generator state h with ⟨hdelete, rfl⟩ | ⟨hdelete, token, -, rfl⟩
  · -- the claim gave the name
    refine ⟨hnamed hdelete, fun _ => rfl, fun hdeletes => ?_, hempty _⟩
    exact absurd (hdelete.symm.trans hdeletes) (by decide)
  · -- the name was generated
    refine ⟨generatedBucketName_ne_empty token, fun hgiven => ?_, fun _ => (howned hdelete).1, hempty _⟩
    exact absurd (howned hdelete).2 hgiven

/-- The policy keeps out no claim whose plans fit it, as far as a generator with two tokens can tell. -/
theorem checkPolicy_of_fits {token other : String} (htoken : generator.Yields token)
    (hother : generator.Yields other) (hne : token ≠ other)
    (hfits : ∀ state plan, (planning generator state claim).result = .ok plan → plan.Fits claim) :
    claim.checkPolicy = .ok () := by
  rcases htoken with ⟨state, htoken⟩
  rcases hother with ⟨state', hother⟩
  rw [Claim.checkPolicy_ok_iff]
  cases hdelete : claim.autoDeleteBucket with
  | false =>
    have h := hfits state (named claim claim.bucket) (by rw [planning_of_kept _ _ hdelete])
    refine ⟨fun hcreate => ?_, fun hdeletes => absurd hdeletes (by decide), fun _ => h.isNamed⟩
    exact (objectPath_named_eq_none_iff _ _).mp (h.startsEmpty hcreate)
  | true =>
    have h := hfits state (named claim (generatedBucketName token)) (by
      rw [planning_of_autoDelete _ _ hdelete, htoken]
      rfl)
    have h' := hfits state' (named claim (generatedBucketName other)) (by
      rw [planning_of_autoDelete _ _ hdelete, hother]
      rfl)
    have hcreate := h.deletesOwn hdelete
    refine ⟨fun _ => (objectPath_named_eq_none_iff _ _).mp (h.startsEmpty hcreate),
      fun _ => ⟨hcreate, ?_⟩, fun hkept => absurd hkept (by decide)⟩
    by_cases hgiven : claim.bucket = ""
    · exact hgiven
    · -- a name that the claim gave would have to be both of the generated ones
      have hboth := (h.keepsName hgiven).trans (h'.keepsName hgiven).symm
      exact absurd (generatedBucketName_inj hboth) hne

end BucketPlan

/-! ## The policy and the plans -/

open BucketPlan

/-- How the policy and the planning of buckets fit together for a claim. -/
structure PolicyFitsPlans (claim : Claim) : Prop where
  accepted : claim.checkPolicy = .ok () ↔
    ∀ (σ : Type) (generator : TokenGenerator σ) (state : σ) (plan : BucketPlan),
      (planning generator state claim).result = .ok plan → plan.Fits claim
  acceptedByOne : ∀ (σ : Type) (generator : TokenGenerator σ) (token other : String),
    generator.Yields token → generator.Yields other → token ≠ other →
    (claim.checkPolicy = .ok () ↔
      ∀ state plan, (planning generator state claim).result = .ok plan → plan.Fits claim)
  asked : ∀ (σ : Type) (generator : TokenGenerator σ) (state : σ),
    (planning generator state claim).answers =
      if claim.autoDeleteBucket then [(generator.next state).1] else []
  failed : ∀ (σ : Type) (generator : TokenGenerator σ) (state : σ) (failure : Failure),
    (planning generator state claim).result = .error failure ↔
      ∃ reason, .error reason ∈ (planning generator state claim).answers ∧
        failure = .nameGeneration reason
  planned : ∀ (σ : Type) (generator : TokenGenerator σ) (state : σ) (plan : BucketPlan),
    (planning generator state claim).result = .ok plan →
      plan.create = claim.autoCreateBucket ∧ plan.deleteOnRemoval = claim.autoDeleteBucket ∧
        plan.objectPath ≠ some "" ∧ (plan.create = true → plan.validateAccess = true)
  owned : claim.checkPolicy = .ok () → claim.autoDeleteBucket = true →
    ∀ (σ : Type) (generator : TokenGenerator σ) (state : σ) (token : String),
      (generator.next state).1 = .ok token →
      (planning generator state claim).result = .ok
        { name := "tmp-s3fs-" ++ token, objectPath := none, create := true, deleteOnRemoval := true
          validateAccess := true }
  inWorkflow : ∀ (host : Host) (tokens : TokenSource) (journal : List Entry),
    (ofClaim claim).perform host ⟨tokens, journal⟩ =
      ((planning TokenSource.generator tokens claim).result,
        ⟨(planning TokenSource.generator tokens claim).left, journal⟩)

/-- A claim is let through exactly if its plans fit it, and planning it asks for no token that it does
not need. -/
theorem policy_fits_plans (claim : Claim) : PolicyFitsPlans claim := by
  constructor
  case accepted =>
    constructor
    · intro hpolicy σ generator state plan hplan
      exact fits_of_checkPolicy generator state hpolicy hplan
    · intro hfits
      -- a generator that answers with its state yields every token
      let echo : TokenGenerator String := ⟨fun token => (.ok token, token)⟩
      exact checkPolicy_of_fits echo ⟨"0", rfl⟩ ⟨"1", rfl⟩ (by decide) (hfits String echo)
  case acceptedByOne =>
    intro σ generator token other htoken hother hne
    constructor
    · intro hpolicy state plan hplan
      exact fits_of_checkPolicy generator state hpolicy hplan
    · exact checkPolicy_of_fits generator htoken hother hne
  case asked =>
    intro σ generator state
    cases hdelete : claim.autoDeleteBucket with
    | false => simp [planning_of_kept _ _ hdelete]
    | true => simp [planning_of_autoDelete _ _ hdelete]
  case failed =>
    intro σ generator state failure
    cases hdelete : claim.autoDeleteBucket with
    | false => simp [planning_of_kept _ _ hdelete]
    | true =>
      rw [planning_of_autoDelete _ _ hdelete]
      rcases (generator.next state).1 with reason | token
      · simp [ofAnswer, eq_comm]
      · simp [ofAnswer]
  case planned =>
    intro σ generator state plan hplan
    have hnamed : ∃ name, plan = named claim name := by
      rcases cases_of_planning generator state hplan with ⟨-, rfl⟩ | ⟨-, token, -, rfl⟩
      · exact ⟨_, rfl⟩
      · exact ⟨_, rfl⟩
    rcases hnamed with ⟨name, rfl⟩
    refine ⟨rfl, rfl, ?_, fun hcreate => ?_⟩
    · by_cases hpath : claim.objectPath = "" <;> simp [named, hpath]
    · have hcreates : claim.autoCreateBucket = true := hcreate
      simp [named, Claim.requiresAccessCheck, hcreates]
  case owned =>
    intro hpolicy hdelete σ generator state token htoken
    rcases Claim.checkPolicy_autoDelete hpolicy hdelete with ⟨hcreate, -, hpath⟩
    rw [planning_of_autoDelete _ _ hdelete, htoken]
    simp [ofAnswer, named, hpath, hcreate, hdelete, Claim.requiresAccessCheck, generatedBucketName,
      generatedBucketStart]
  case inWorkflow => exact perform_ofClaim_eq_planning claim

end BucketVolume
