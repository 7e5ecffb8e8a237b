import BucketVolume.Proofs.CanonicalForm
import BucketVolume.Proofs.Decision

/-!
# BucketVolume.Proofs.OfflineChecks — the first check that fails is the one that is reported

Before anything is asked of the outside a request has to pass twenty-three checks, which are spread
over the readers of claims and storage classes, the merging of the two, the policy, and the naming of
the bucket. `OfflineCheck.inOrder` is their order, and each check is told from the texts of the request
alone (`OfflineCheck.Holds`, `OfflineCheck.refusal?`), so what a request gets to hear does not hang on
how the work is divided.

An outcome is `Guarded` by checks if it fails with what the first failing one of them says. Outcomes
are put together as the checks are strung together (`Guarded.bind`), so each stage is settled by its own
checks:

* `guarded_ofAnnotations`, `guarded_ofParameters`, `guarded_resolve` — the first stage;
* `guarded_checkPolicy`, `guarded_chosen` — the second one;
* `guarded_decided` — both, and `first_failing_check` says what that means for a request.
-/

namespace BucketVolume

open Activity

/-! ## Outcomes that checks guard -/

section Guarded

variable {κ ε ε' α β : Type} {verdict : κ → Option ε} {checks more : List κ}

/-- What an outcome fails with. -/
def failure? : Except ε α → Option ε
  | .error failure => some failure
  | .ok _ => none

theorem failure?_eq_none_iff {outcome : Except ε α} :
    failure? outcome = none ↔ ∃ a, outcome = .ok a := by
  cases outcome <;> simp [failure?]

theorem failure?_eq_some_iff {outcome : Except ε α} {failure : ε} :
    failure? outcome = some failure ↔ outcome = .error failure := by
  cases outcome <;> simp [failure?]

/-- An outcome fails with what the first failing check says, and succeeds if none fails. -/
def Guarded (verdict : κ → Option ε) (checks : List κ) (outcome : Except ε α) : Prop :=
  failure? outcome = checks.findSome? verdict

theorem Guarded.pure (a : α) : Guarded verdict [] (pure a : Except ε α) := rfl

theorem Guarded.single {check : κ} {outcome : Except ε α} (h : failure? outcome = verdict check) :
    Guarded verdict [check] outcome := by
  rw [Guarded, h, List.findSome?_singleton]

/-- The checks of what follows come after those of what went before, and count only if it succeeds. -/
theorem Guarded.bind {x : Except ε α} {f : α → Except ε β} (hx : Guarded verdict checks x)
    (hf : ∀ a, x = .ok a → Guarded verdict more (f a)) : Guarded verdict (checks ++ more) (x >>= f) := by
  unfold Guarded at hx hf ⊢
  rw [List.findSome?_append, ← hx]
  cases x with
  | error failure => rfl
  | ok a => exact hf a rfl

/-- One more check in front. -/
theorem Guarded.cons {check : κ} {x : Except ε α} {f : α → Except ε β}
    (hx : failure? x = verdict check) (hf : ∀ a, x = .ok a → Guarded verdict checks (f a)) :
    Guarded verdict (check :: checks) (x >>= f) :=
  (Guarded.single hx).bind hf

/-- Rewording failures rewords what the checks say. -/
theorem Guarded.mapError {x : Except ε α} (hx : Guarded verdict checks x) (reword : ε → ε')
    {verdict' : κ → Option ε'} (h : ∀ check ∈ checks, verdict' check = (verdict check).map reword) :
    Guarded verdict' checks (x.mapError reword) := by
  have hfirst : checks.findSome? verdict' = (checks.findSome? verdict).map reword := by
    clear hx
    induction checks with
    | nil => rfl
    | cons check rest ih =>
      rw [List.forall_mem_cons] at h
      rw [List.findSome?_cons, List.findSome?_cons, h.1]
      cases verdict check with
      | none => exact ih h.2
      | some failure => rfl
  rw [Guarded, hfirst, ← hx]
  cases x <;> rfl

end Guarded

/-! ## The checks -/

/-- What is checked of a request before anything is asked of the outside. -/
inductive OfflineCheck where
  | claimFlag (key : String)
  | classInteger (knob : Knob)
  | classFlag (key : String)
  | endpointScheme
  | iamEndpointScheme
  | claimInteger (knob : Knob)
  | expiryInteger
  | expirySign
  | noPathWithCreate
  | noDeleteWithoutCreate
  | noBucketWithDelete
  | bucketNamed
  | tokenLeft
deriving DecidableEq, Repr

/-! ### Texts -/

/-- A text may stand where a flag is read: it says nothing, or is one of the twelve words. -/
def FlagText (word : String) : Prop :=
  word = "" ∨ word ∈ Flag.trueWords ∨ word ∈ Flag.falseWords

/-- A text may stand where an integer is read: it says nothing, or is the text of one. -/
def IntegerText (text : String) : Prop :=
  text = "" ∨ ∃ n, Decimal.parseInt64 text = .ok n

/-- A text starts with a scheme. -/
def SchemedText (value : String) : Prop :=
  "http://".toList <+: value.toList ∨ "https://".toList <+: value.toList

/-- What a text that is no flag is refused with. -/
def flagRefusal? (key word : String) : Option Failure :=
  if word = "" ∨ (Flag.parse? word).isSome then none else some (.configParse key (.flag word))

/-- What a text that is no integer is refused with. -/
def integerRefusal? (key text : String) : Option Failure :=
  if text = "" then none
  else (failure? (Decimal.parseInt64 text)).map fun problem => .configParse key (.integer problem)

/-- What a text without a scheme is refused with. -/
def schemeRefusal? (key value : String) : Option Failure :=
  if Configuration.hasHttpScheme value then none else some (.validation (.missingScheme key value))

/-! ### Requests -/

namespace ProvisionRequest

/-- The endpoint that a request comes to. -/
def endpoint (request : ProvisionRequest) : String :=
  Configuration.overrideText (request.claimAnnotations.text Key.endpoint)
    (request.classParameters.text Key.objectStoreEndpoint)

/-- The IAM endpoint that a request comes to. -/
def iamEndpoint (request : ProvisionRequest) : String :=
  Configuration.overrideText (request.claimAnnotations.text Key.iamEndpoint)
    (request.classParameters.text Key.iamEndpoint)

/-- The claim sets a flag. -/
def Sets (request : ProvisionRequest) (key : String) : Prop :=
  request.claimAnnotations.text key ∈ Flag.trueWords

instance (request : ProvisionRequest) (key : String) : Decidable (request.Sets key) :=
  inferInstanceAs (Decidable (_ ∈ _))

end ProvisionRequest

namespace OfflineCheck

/-- A request passes a check. -/
def Holds (request : ProvisionRequest) (tokens : TokenSource) : OfflineCheck → Prop
  | claimFlag key => FlagText (request.claimAnnotations.text key)
  | classInteger knob => IntegerText (request.classParameters.text knob.key)
  | classFlag key => FlagText (request.classParameters.text key)
  | endpointScheme => SchemedText request.endpoint
  | iamEndpointScheme => SchemedText request.iamEndpoint
  | claimInteger knob => IntegerText (request.claimAnnotations.text knob.key)
  | expiryInteger => IntegerText (request.claimAnnotations.text Key.statCacheExpireSeconds)
  | expirySign =>
    ∀ n, Decimal.parseInt64 (request.claimAnnotations.text Key.statCacheExpireSeconds) = .ok n → 0 ≤ n
  | noPathWithCreate =>
    request.Sets Key.autoCreateBucket → request.claimAnnotations.text Key.objectPath = ""
  | noDeleteWithoutCreate => request.Sets Key.autoDeleteBucket → request.Sets Key.autoCreateBucket
  | noBucketWithDelete =>
    request.Sets Key.autoDeleteBucket → request.claimAnnotations.text Key.bucket = ""
  | bucketNamed =>
    ¬ request.Sets Key.autoDeleteBucket → request.claimAnnotations.text Key.bucket ≠ ""
  | tokenLeft => request.Sets Key.autoDeleteBucket → tokens.remaining ≠ []

/-- What a request that does not pass a check gets to hear. -/
def refusal? (request : ProvisionRequest) (tokens : TokenSource) : OfflineCheck → Option Failure
  | claimFlag key => flagRefusal? key (request.claimAnnotations.text key)
  | classInteger knob => integerRefusal? knob.key (request.classParameters.text knob.key)
  | classFlag key => flagRefusal? key (request.classParameters.text key)
  | endpointScheme => schemeRefusal? Key.objectStoreEndpoint request.endpoint
  | iamEndpointScheme => schemeRefusal? Key.iamEndpoint request.iamEndpoint
  | claimInteger knob => integerRefusal? knob.key (request.claimAnnotations.text knob.key)
  | expiryInteger =>
    integerRefusal? Key.statCacheExpireSeconds
      (request.claimAnnotations.text Key.statCacheExpireSeconds)
  | expirySign =>
    match Decimal.parseInt64 (request.claimAnnotations.text Key.statCacheExpireSeconds) with
    | .ok n =>
      if n < 0 then some (.validation (.negativeExpiry Key.statCacheExpireSeconds n)) else none
    | .error _ => none
  | noPathWithCreate =>
    let objectPath := request.claimAnnotations.text Key.objectPath
    if request.Sets Key.autoCreateBucket ∧ objectPath ≠ "" then
      some (.validation (.objectPathWithAutoCreate objectPath)) else none
  | noDeleteWithoutCreate =>
    if request.Sets Key.autoDeleteBucket ∧ ¬ request.Sets Key.autoCreateBucket then
      some (.validation .autoDeleteWithoutAutoCreate) else none
  | noBucketWithDelete =>
    let bucket := request.claimAnnotations.text Key.bucket
    if request.Sets Key.autoDeleteBucket ∧ bucket ≠ "" then
      some (.validation (.bucketWithAutoDelete bucket)) else none
  | bucketNamed =>
    if ¬ request.Sets Key.autoDeleteBucket ∧ request.claimAnnotations.text Key.bucket = "" then
      some (.validation .bucketNotSpecified) else none
  | tokenLeft =>
    if request.Sets Key.autoDeleteBucket ∧ tokens.remaining = [] then
      some (.nameGeneration ⟨"token sequence exhausted"⟩) else none

/-- The checks of a claim, of its storage class, and of the two merged. -/
def resolving : List OfflineCheck :=
  [claimFlag Key.autoCreateBucket, claimFlag Key.autoDeleteBucket] ++
  [classInteger .chunkSizeMb, classInteger .parallelCount, classInteger .multireqMax,
    classInteger .statCacheSize, classInteger .fuseRetryCount,
    classFlag Key.curlDebug, classFlag Key.kernelCache] ++
  [endpointScheme, iamEndpointScheme,
    claimInteger .fuseRetryCount, claimInteger .chunkSizeMb, claimInteger .parallelCount,
    claimInteger .multireqMax, claimInteger .statCacheSize,
    expiryInteger, expirySign]

/-- The checks of the policy, and of the bucket's name. -/
def validating : List OfflineCheck :=
  [noPathWithCreate, noDeleteWithoutCreate, noBucketWithDelete, bucketNamed] ++ [tokenLeft]

/-- All checks, in the order in which they count. -/
def inOrder : List OfflineCheck := resolving ++ validating

/-- The stage in which a check is made. -/
def stage : OfflineCheck → Stage
  | noPathWithCreate | noDeleteWithoutCreate | noBucketWithDelete | bucketNamed | tokenLeft =>
    .validating
  | _ => .resolving

/-- The kind of the failures that a check leads to. -/
def kind : OfflineCheck → FailureKind
  | claimFlag _ | classInteger _ | classFlag _ | claimInteger _ | expiryInteger => .configParse
  | tokenLeft => .nameGeneration
  | _ => .validation

/-- The key whose text a check reads as a flag or as an integer. -/
def readKey? : OfflineCheck → Option String
  | claimFlag key | classFlag key => some key
  | classInteger knob | claimInteger knob => some knob.key
  | expiryInteger => some Key.statCacheExpireSeconds
  | _ => none

variable {request : ProvisionRequest} {tokens : TokenSource} {check : OfflineCheck} {cause : Failure}

theorem flagRefusal?_eq_none_iff {key word : String} :
    flagRefusal? key word = none ↔ FlagText word := by
  unfold flagRefusal? FlagText Flag.parse?
  by_cases htrue : word ∈ Flag.trueWords
  · simp [htrue]
  · by_cases hfalse : word ∈ Flag.falseWords
    · simp [htrue, hfalse]
    · simp [htrue, hfalse]

theorem integerRefusal?_eq_none_iff {key text : String} :
    integerRefusal? key text = none ↔ IntegerText text := by
  unfold integerRefusal? IntegerText
  by_cases hempty : text = ""
  · simp [hempty]
  · simp [hempty, failure?_eq_none_iff]

theorem schemeRefusal?_eq_none_iff {key value : String} :
    schemeRefusal? key value = none ↔ SchemedText value := by
  unfold schemeRefusal? SchemedText
  rw [← List.isPrefixOf_iff_prefix, ← List.isPrefixOf_iff_prefix, or_comm, ← Bool.or_eq_true]
  show (if Configuration.hasHttpScheme value then _ else _) = _ ↔ Configuration.hasHttpScheme value = _
  cases Configuration.hasHttpScheme value <;> simp

/-- A check has nothing to say of a request that passes it. -/
theorem refusal?_eq_none_iff : check.refusal? request tokens = none ↔ check.Holds request tokens := by
  cases check with
  | claimFlag key => exact flagRefusal?_eq_none_iff
  | classInteger knob => exact integerRefusal?_eq_none_iff
  | classFlag key => exact flagRefusal?_eq_none_iff
  | endpointScheme => exact schemeRefusal?_eq_none_iff
  | iamEndpointScheme => exact schemeRefusal?_eq_none_iff
  | claimInteger knob => exact integerRefusal?_eq_none_iff
  | expiryInteger => exact integerRefusal?_eq_none_iff
  | expirySign =>
    simp only [refusal?, Holds]
    rcases Decimal.parseInt64 _ with problem | n
    · simp
    · simp [Int64.not_lt]
  | noPathWithCreate => simp [refusal?, Holds]
  | noDeleteWithoutCreate => simp [refusal?, Holds]
  | noBucketWithDelete => simp [refusal?, Holds]
  | bucketNamed => simp [refusal?, Holds]
  | tokenLeft => simp [refusal?, Holds]

theorem configParse_of_flagRefusal? {key word : String} (h : flagRefusal? key word = some cause) :
    ∃ problem, cause = .configParse key problem := by
  unfold flagRefusal? at h
  split at h
  · cases h
  · exact ⟨_, (Option.some.inj h).symm⟩

theorem configParse_of_integerRefusal? {key text : String}
    (h : integerRefusal? key text = some cause) : ∃ problem, cause = .configParse key problem := by
  unfold integerRefusal? at h
  split at h
  · cases h
  · rcases Option.map_eq_some_iff.mp h with ⟨problem, -, rfl⟩
    exact ⟨_, rfl⟩

/-- A check that reads the text of a key names that key. -/
theorem configParse_of_refusal? {key : String} (h : check.refusal? request tokens = some cause)
    (hkey : check.readKey? = some key) : ∃ problem, cause = .configParse key problem := by
  cases check with
  | claimFlag | classFlag =>
    obtain rfl := Option.some.inj hkey
    exact configParse_of_flagRefusal? h
  | classInteger | claimInteger | expiryInteger =>
    obtain rfl := Option.some.inj hkey
    exact configParse_of_integerRefusal? h
  | _ => cases hkey

/-- What a check says is of the check's kind. -/
theorem kind_of_refusal? (h : check.refusal? request tokens = some cause) :
    cause.kind = check.kind := by
  -- a check that reads the text of a key says that it cannot be read
  have hread : ∀ key, check.readKey? = some key → cause.kind = .configParse := by
    intro key hkey
    rcases configParse_of_refusal? h hkey with ⟨problem, rfl⟩
    rfl
  have hscheme : ∀ {key value}, schemeRefusal? key value = some cause →
      cause.kind = .validation := by
    intro key value h
    unfold schemeRefusal? at h
    split at h
    · cases h
    · obtain rfl := Option.some.inj h
      rfl
  cases check with
  | claimFlag | classInteger | classFlag | claimInteger | expiryInteger => exact hread _ rfl
  | endpointScheme | iamEndpointScheme => exact hscheme h
  | expirySign =>
    simp only [refusal?] at h
    split at h
    · split at h
      · obtain rfl := Option.some.inj h
        rfl
      · cases h
    · cases h
  | noPathWithCreate | noDeleteWithoutCreate | noBucketWithDelete | bucketNamed | tokenLeft =>
    simp only [refusal?, Option.ite_none_right_eq_some, Option.some.injEq] at h
    rcases h with ⟨-, rfl⟩
    rfl

end OfflineCheck

/-! ## The outcomes that they guard -/

section Outcomes

open OfflineCheck

variable {request : ProvisionRequest} {tokens : TokenSource} {claim : Claim} {cls : StorageClass}
variable {m : Annotations} {key : String}

theorem failure?_flag (m : Annotations) (key : String) :
    failure? (m.flag key) = flagRefusal? key (m.text key) := by
  unfold Annotations.flag flagRefusal?
  by_cases hempty : m.text key = ""
  · simp [hempty, failure?]
  · rcases hword : Flag.parse? (m.text key) with _ | b
    · simp [hempty, hword, failure?]
    · simp [hempty, hword, failure?]

theorem failure?_parseKeyedInt64 (key text : String) :
    failure? (parseKeyedInt64 key text) =
      (failure? (Decimal.parseInt64 text)).map fun problem => .configParse key (.integer problem) := by
  unfold parseKeyedInt64
  rcases Decimal.parseInt64 text with problem | n
  · rfl
  · rfl

theorem failure?_integer (m : Annotations) (key : String) :
    failure? (m.integer key) = integerRefusal? key (m.text key) := by
  unfold Annotations.integer integerRefusal?
  by_cases hempty : m.text key = ""
  · simp [hempty, failure?]
  · simp [hempty, failure?_parseKeyedInt64]

theorem failure?_overrideInteger (key text : String) (n : Int64) :
    failure? (Configuration.overrideInteger key text n) = integerRefusal? key text := by
  unfold Configuration.overrideInteger integerRefusal?
  by_cases hempty : text = ""
  · simp [hempty, failure?]
  · simp [hempty, failure?_parseKeyedInt64]

theorem failure?_requireHttpScheme (key value : String) :
    failure? (Configuration.requireHttpScheme key value) = schemeRefusal? key value := by
  unfold Configuration.requireHttpScheme schemeRefusal?
  cases Configuration.hasHttpScheme value with
  | true => rfl
  | false => rfl

/-- A claim is read if its flags can be. -/
theorem guarded_ofAnnotations (request : ProvisionRequest) (tokens : TokenSource) :
    Guarded (refusal? request tokens)
      [claimFlag Key.autoCreateBucket, claimFlag Key.autoDeleteBucket]
      (Claim.ofAnnotations request.claimAnnotations) :=
  .cons (failure?_flag _ _) fun _ _ => .cons (failure?_flag _ _) fun _ _ => .pure _

/-- A storage class is read if its integers and then its flags can be. -/
theorem guarded_ofParameters (request : ProvisionRequest) (tokens : TokenSource) :
    Guarded (refusal? request tokens)
      [classInteger .chunkSizeMb, classInteger .parallelCount, classInteger .multireqMax,
        classInteger .statCacheSize, classInteger .fuseRetryCount,
        classFlag Key.curlDebug, classFlag Key.kernelCache]
      (StorageClass.ofParameters request.classParameters) :=
  .cons (failure?_integer _ _) fun _ _ =>
  .cons (failure?_integer _ _) fun _ _ =>
  .cons (failure?_integer _ _) fun _ _ =>
  .cons (failure?_integer _ _) fun _ _ =>
  .cons (failure?_integer _ _) fun _ _ =>
  .cons (failure?_flag _ _) fun _ _ =>
  .cons (failure?_flag _ _) fun _ _ => .pure _

/-- What a claim holds when it is read. -/
structure Claim.ReadFrom (m : Annotations) (claim : Claim) : Prop where
  autoCreateBucket : m.flag Key.autoCreateBucket = .ok claim.autoCreateBucket
  autoDeleteBucket : m.flag Key.autoDeleteBucket = .ok claim.autoDeleteBucket
  bucket : claim.bucket = m.text Key.bucket
  objectPath : claim.objectPath = m.text Key.objectPath
  endpoint : claim.endpoint = m.text Key.endpoint
  iamEndpoint : claim.iamEndpoint = m.text Key.iamEndpoint
  knobs : ∀ knob, claim.knobs.get knob = m.text knob.key
  expiry : claim.statCacheExpireSeconds = m.text Key.statCacheExpireSeconds

theorem Claim.readFrom (h : ofAnnotations m = .ok claim) : claim.ReadFrom m := by
  rcases exists_of_bind_ok h with ⟨create, hcreate, h⟩
  rcases exists_of_bind_ok h with ⟨delete, hdelete, h⟩
  obtain rfl := Except.ok.inj h
  exact ⟨hcreate, hdelete, rfl, rfl, rfl, rfl, Knobs.get_ofFn _, rfl⟩

/-- What a storage class holds when it is read. -/
structure StorageClass.ReadFrom (m : Annotations) (cls : StorageClass) : Prop where
  knobs : ∀ knob, m.integer knob.key = .ok (cls.knobs.get knob)
  objectStoreEndpoint : cls.objectStoreEndpoint = m.text Key.objectStoreEndpoint
  iamEndpoint : cls.iamEndpoint = m.text Key.iamEndpoint

theorem StorageClass.readFrom (h : ofParameters m = .ok cls) : cls.ReadFrom m := by
  rcases exists_of_bind_ok h with ⟨chunkSizeMb, hchunk, h⟩
  rcases exists_of_bind_ok h with ⟨parallelCount, hparallel, h⟩
  rcases exists_of_bind_ok h with ⟨multireqMax, hmultireq, h⟩
  rcases exists_of_bind_ok h with ⟨statCacheSize, hcache, h⟩
  rcases exists_of_bind_ok h with ⟨fuseRetryCount, hfuse, h⟩
  rcases exists_of_bind_ok h with ⟨curlDebug, -, h⟩
  rcases exists_of_bind_ok h with ⟨kernelCache, -, h⟩
  obtain rfl := Except.ok.inj h
  refine ⟨?_, rfl, rfl⟩
  intro knob
  cases knob with
  | chunkSizeMb => exact hchunk
  | parallelCount => exact hparallel
  | multireqMax => exact hmultireq
  | statCacheSize => exact hcache
  | fuseRetryCount => exact hfuse

theorem guarded_checkExpiry (request : ProvisionRequest) (tokens : TokenSource) :
    Guarded (refusal? request tokens) [expiryInteger, expirySign]
      (Configuration.checkExpiry (request.claimAnnotations.text Key.statCacheExpireSeconds)) := by
  unfold Guarded Configuration.checkExpiry
  simp only [List.findSome?_cons, List.findSome?_nil, refusal?, integerRefusal?]
  generalize request.claimAnnotations.text Key.statCacheExpireSeconds = text
  by_cases hempty : text = ""
  · -- what says nothing is neither read nor compared
    subst hempty
    rfl
  · simp only [hempty, if_false]
    rcases hread : Decimal.parseInt64 text with problem | n
    · simp [parseKeyedInt64, hread, failure?]
    · by_cases hsign : n < 0
      · simp [parseKeyedInt64, hread, failure?, hsign]
      · simp [parseKeyedInt64, hread, failure?, hsign]

/-- A claim and a class are merged if the endpoints have schemes and the claim's integers can be
read. -/
theorem guarded_resolve (tokens : TokenSource)
    (hclaim : Claim.ofAnnotations request.claimAnnotations = .ok claim)
    (hcls : StorageClass.ofParameters request.classParameters = .ok cls) :
    Guarded (refusal? request tokens)
      [endpointScheme, iamEndpointScheme,
        claimInteger .fuseRetryCount, claimInteger .chunkSizeMb, claimInteger .parallelCount,
        claimInteger .multireqMax, claimInteger .statCacheSize, expiryInteger, expirySign]
      (Configuration.resolve claim cls) := by
  have hread := Claim.readFrom hclaim
  have hclass := StorageClass.readFrom hcls
  have hknob : ∀ knob, failure? (Configuration.overrideKnob claim cls knob) =
      refusal? request tokens (claimInteger knob) := by
    intro knob
    rw [Configuration.overrideKnob, hread.knobs knob]
    exact failure?_overrideInteger _ _ _
  unfold Configuration.resolve
  rw [hread.endpoint, hread.iamEndpoint, hread.expiry, hclass.objectStoreEndpoint,
    hclass.iamEndpoint]
  exact .cons (failure?_requireHttpScheme _ _) fun _ _ =>
    .cons (failure?_requireHttpScheme _ _) fun _ _ =>
    .cons (hknob _) fun _ _ => .cons (hknob _) fun _ _ => .cons (hknob _) fun _ _ =>
    .cons (hknob _) fun _ _ => .cons (hknob _) fun _ _ =>
    (guarded_checkExpiry request tokens).bind fun _ _ => .pure _

/-- A request is resolved if it passes the checks of the first stage. -/
theorem guarded_resolveRequest (request : ProvisionRequest) (tokens : TokenSource) :
    Guarded (refusal? request tokens) resolving (ProvisionPlan.resolveRequest request) := by
  unfold ProvisionPlan.resolveRequest resolving
  rw [List.append_assoc]
  refine (guarded_ofAnnotations request tokens).bind fun claim hclaim => ?_
  refine (guarded_ofParameters request tokens).bind fun cls hcls => ?_
  rw [← List.append_nil [endpointScheme, _, _, _, _, _, _, _, _]]
  exact (guarded_resolve tokens hclaim hcls).bind fun config _ => .pure _

/-- A flag that is read is set exactly if its text is one of the words for it. -/
theorem Annotations.flag_eq_true_iff {b : Bool} (h : m.flag key = .ok b) :
    b = true ↔ m.text key ∈ Flag.trueWords := by
  have hword := render_of_flag h
  by_cases htrue : m.text key ∈ Flag.trueWords
  · cases b with
    | true => exact iff_of_true rfl htrue
    | false => simp [htrue, Flag.render] at hword
  · cases b with
    | true => simp [htrue, Flag.render] at hword
    | false => exact iff_of_false (by decide) htrue

/-- The policy lets a claim through that passes its four checks. -/
theorem guarded_checkPolicy (tokens : TokenSource)
    (hclaim : Claim.ofAnnotations request.claimAnnotations = .ok claim) :
    Guarded (refusal? request tokens)
      [noPathWithCreate, noDeleteWithoutCreate, noBucketWithDelete, bucketNamed]
      claim.checkPolicy := by
  have hread := Claim.readFrom hclaim
  have hcreate : claim.autoCreateBucket = true ↔ request.Sets Key.autoCreateBucket :=
    Annotations.flag_eq_true_iff hread.autoCreateBucket
  have hdelete : claim.autoDeleteBucket = true ↔ request.Sets Key.autoDeleteBucket :=
    Annotations.flag_eq_true_iff hread.autoDeleteBucket
  unfold Guarded Claim.checkPolicy
  simp only [List.findSome?_cons, List.findSome?_nil, refusal?, ← hcreate, ← hdelete,
    ← hread.bucket, ← hread.objectPath]
  by_cases hpath : claim.objectPath = "" <;> by_cases hbucket : claim.bucket = "" <;>
    cases claim.autoCreateBucket <;> cases claim.autoDeleteBucket <;>
    simp [hpath, hbucket, failure?]

/-- A bucket is named unless a token is needed and none is left. -/
theorem guarded_chosen (tokens : TokenSource)
    (hclaim : Claim.ofAnnotations request.claimAnnotations = .ok claim) :
    Guarded (refusal? request tokens) [tokenLeft] (BucketPlan.chosen claim tokens).1 := by
  have hread := Claim.readFrom hclaim
  have hdelete : claim.autoDeleteBucket = true ↔ request.Sets Key.autoDeleteBucket :=
    Annotations.flag_eq_true_iff hread.autoDeleteBucket
  apply Guarded.single
  unfold BucketPlan.chosen TokenSource.draw
  simp only [refusal?, ← hdelete]
  cases claim.autoDeleteBucket with
  | false => rfl
  | true =>
    cases tokens.remaining with
    | nil => rfl
    | cons token rest => rfl

theorem guarded_bucketDecided (tokens : TokenSource)
    (hclaim : Claim.ofAnnotations request.claimAnnotations = .ok claim) :
    Guarded (refusal? request tokens) validating (ProvisionPlan.bucketDecided claim tokens).1 := by
  have hpolicy := (guarded_checkPolicy tokens hclaim).bind
    fun _ _ => guarded_chosen tokens hclaim
  unfold ProvisionPlan.bucketDecided
  rcases hchecked : claim.checkPolicy with cause | ⟨⟩
  · rw [hchecked] at hpolicy
    exact hpolicy
  · rw [hchecked] at hpolicy
    exact hpolicy

/-- How a request is decided, one stage after the other. -/
theorem ProvisionPlan.fst_decided (request : ProvisionRequest) (tokens : TokenSource) :
    (decided request tokens).1 = do
      let (claim, config) ←
        (resolveRequest request).mapError (⟨request.claimName, .resolving, ·⟩)
      let bucket ←
        (bucketDecided claim tokens).1.mapError (⟨request.claimName, .validating, ·⟩)
      return { claim, config, bucket, secret := ⟨claim.secretName, request.claimNamespace⟩ } := by
  unfold decided
  rcases resolveRequest request with cause | ⟨claim, config⟩
  · rfl
  · simp only [mapError_ok, bind, Except.bind]
    rcases bucketDecided claim tokens with ⟨cause | bucket, left⟩
    · rfl
    · rfl

/-- A request is decided if it passes all checks, in their order. -/
theorem guarded_decided (request : ProvisionRequest) (tokens : TokenSource) :
    Guarded
      (fun check => (check.refusal? request tokens).map (⟨request.claimName, check.stage, ·⟩))
      inOrder (ProvisionPlan.decided request tokens).1 := by
  have hresolving : ∀ check ∈ resolving, check.stage = .resolving := by decide
  have hvalidating : ∀ check ∈ validating, check.stage = .validating := by decide
  rw [ProvisionPlan.fst_decided]
  refine ((guarded_resolveRequest request tokens).mapError _ ?_).bind ?_
  · intro check hcheck
    rw [hresolving check hcheck]
  · rintro ⟨claim, config⟩ hresolved
    have hclaim := ProvisionPlan.claim_of_resolved (ok_of_mapError_ok _ hresolved)
    rw [← List.append_nil validating]
    refine ((guarded_bucketDecided tokens hclaim).mapError _ ?_).bind fun bucket _ => .pure _
    intro check hcheck
    rw [hvalidating check hcheck]

end Outcomes

/-! ## What a request gets to hear -/

/-- A request is decided if it passes every check, and else it gets to hear of the first one that it
does not pass: in which stage that is, of what kind, which key is to blame, and what is wrong. -/
structure FirstFailureWins (request : ProvisionRequest) (tokens : TokenSource)
    (result : Except StageFailure ProvisionPlan) : Prop where
  passed : (∃ plan, result = .ok plan) ↔
    ∀ check ∈ OfflineCheck.inOrder, check.Holds request tokens
  refused : ∀ before check after, OfflineCheck.inOrder = before ++ check :: after →
    (∀ earlier ∈ before, earlier.Holds request tokens) → ¬ check.Holds request tokens →
    ∃ cause, check.refusal? request tokens = some cause ∧ cause.kind = check.kind ∧
      (∀ key, check.readKey? = some key → ∃ problem, cause = .configParse key problem) ∧
      result = .error ⟨request.claimName, check.stage, cause⟩

/-- Whatever else is wrong with a request, the first check that it does not pass is reported. -/
theorem first_failing_check (request : ProvisionRequest) (tokens : TokenSource) (host : Host)
    (journal : List Entry) :
    FirstFailureWins request tokens
      ((ProvisionPlan.prepare request).perform host ⟨tokens, journal⟩).1 := by
  have hguarded := guarded_decided request tokens
  rw [ProvisionPlan.perform_prepare]
  constructor
  case passed =>
    rw [← failure?_eq_none_iff, hguarded, List.findSome?_eq_none_iff]
    simp only [Option.map_eq_none_iff, OfflineCheck.refusal?_eq_none_iff]
  case refused =>
    intro before check after horder hbefore hcheck
    rw [← OfflineCheck.refusal?_eq_none_iff, ← ne_eq, Option.ne_none_iff_exists'] at hcheck
    rcases hcheck with ⟨cause, hcause⟩
    refine ⟨cause, hcause, OfflineCheck.kind_of_refusal? hcause,
      fun key hkey => OfflineCheck.configParse_of_refusal? hcause hkey, ?_⟩
    -- the checks before it have nothing to say
    have hsilent : before.findSome?
        (fun check => (check.refusal? request tokens).map
          (⟨request.claimName, check.stage, ·⟩ : Failure → StageFailure)) = none := by
      rw [List.findSome?_eq_none_iff]
      intro earlier hearlier
      rw [Option.map_eq_none_iff, OfflineCheck.refusal?_eq_none_iff]
      exact hbefore earlier hearlier
    rw [← failure?_eq_some_iff, hguarded, horder, List.findSome?_append, hsilent,
      List.findSome?_cons, hcause]
    rfl

end BucketVolume
