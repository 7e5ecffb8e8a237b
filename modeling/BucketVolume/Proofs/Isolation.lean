import BucketVolume.Proofs.Run

/-!
# BucketVolume.Proofs.Isolation — what a call reads, and what it leaves behind

All calls of a run share one bench. Of that a call reads the secrets, the switches, the slot that it
names, and the tokens if it draws one; it leaves entries in the journal, perhaps one token fewer, and
perhaps a volume in its slot. Nothing else of what was done before can be told from its result or from
its entries, because a backend made of switches forgets what it was asked.

* `provision_determined` — once its request is decided, a provision call takes one course;
* `exists_effect` — a call has one effect on all benches that agree on what it reads;
* `tokens_step` — a step takes a token exactly if its request draws one;
* `InStep.step`, `InStep.run` — benches that agree on what a run reads stay so, and show the same.
-/

namespace BucketVolume

open Activity

/-! ## Backends that forget -/

namespace Backend

/-- The answers of a backend do not depend on the calls made before. -/
structure Forgetful (backend : Backend) : Prop where
  createBucket : ∀ earlier bucket,
    backend.createBucket earlier bucket = backend.createBucket [] bucket
  checkAccess : ∀ earlier bucket, backend.checkAccess earlier bucket = backend.checkAccess [] bucket
  checkObjectPath : ∀ earlier bucket objectPath,
    backend.checkObjectPath earlier bucket objectPath = backend.checkObjectPath [] bucket objectPath
  deleteBucket : ∀ earlier bucket,
    backend.deleteBucket earlier bucket = backend.deleteBucket [] bucket

namespace Forgetful

variable {backend : Backend} (h : backend.Forgetful)
include h

theorem failure?_eq (earlier : List Call) (call : Call) :
    backend.failure? earlier call = backend.failure? [] call := by
  cases call with
  | openSession endpoint region iamEndpoint => rfl
  | createBucket bucket => simp only [failure?, h.createBucket earlier]
  | checkAccess bucket => simp only [failure?, h.checkAccess earlier]
  | checkObjectPath bucket objectPath => simp only [failure?, h.checkObjectPath earlier]
  | deleteBucket bucket => simp only [failure?, h.deleteBucket earlier]

theorem entries_eq (earlier : List Call) (call : Call) :
    backend.entries earlier call = backend.entries [] call := by
  cases call with
  | createBucket bucket => simp only [entries, comment, h.createBucket earlier]
  | deleteBucket bucket => simp only [entries, comment, h.deleteBucket earlier]
  -- no other answer is commented on
  | openSession | checkAccess | checkObjectPath => rfl

/-- Calls go the same way whatever was called before. -/
theorem conduct_eq (earlier calls : List Call) :
    backend.conduct earlier calls = backend.conduct [] calls := by
  induction calls generalizing earlier with
  | nil => rfl
  | cons call rest ih =>
    have hrest : backend.conduct (earlier ++ [call]) rest = backend.conduct ([] ++ [call]) rest :=
      (ih (earlier ++ [call])).trans (ih ([] ++ [call])).symm
    simp only [conduct, h.failure?_eq earlier, h.entries_eq earlier, hrest]

/-- A plan's session goes the same way whatever was called before. -/
theorem serve_eq (earlier : List Call) (plan : ProvisionPlan) (credentials : Credentials) :
    backend.serve earlier plan credentials = backend.serve [] plan credentials := by
  simp only [serve, h.conduct_eq earlier]

end Forgetful

end Backend

theorem Switches.forgetful_backend (switches : Switches) : switches.backend.Forgetful :=
  ⟨fun _ _ => rfl, fun _ _ => rfl, fun _ _ _ => rfl, fun _ _ => rfl⟩

/-! ## Activities that stand alone -/

/-- An activity that draws no token, and whose result and entries are the same at all times. -/
def Activity.Detached {ε α : Type} (host : Host) (activity : Activity ε α) : Prop :=
  ∃ result entries, ∀ tokens journal,
    activity.perform host ⟨tokens, journal⟩ = (result, ⟨tokens, journal ++ entries⟩)

section Detached

variable {ε α β : Type} {host : Host}

theorem detached_emit (event : Event) : Detached host (emit event : Activity ε Unit) :=
  ⟨.ok (), [.event event], fun _ _ => rfl⟩

theorem detached_bind {x : Activity ε α} {f : α → Activity ε β} (hx : Detached host x)
    (hf : ∀ a, Detached host (f a)) : Detached host (x >>= f) := by
  rcases hx with ⟨failure | a, entries, hx⟩
  · refine ⟨.error failure, entries, ?_⟩
    intro tokens journal
    rw [perform_bind, hx]
  · rcases hf a with ⟨result, more, hf⟩
    refine ⟨result, entries ++ more, ?_⟩
    intro tokens journal
    rw [perform_bind, hx]
    simp only [hf, List.append_assoc]

theorem detached_finish (provisioner : Provisioner) (request : ProvisionRequest)
    (plan : ProvisionPlan) : Detached host (provisioner.finish request plan) :=
  ⟨_, _, fun tokens journal => provisioner.perform_finish request plan host tokens journal⟩

theorem detached_readDescriptor (volume : PersistentVolume) :
    Detached host volume.readDescriptor :=
  ⟨_, _, fun tokens journal => volume.perform_readDescriptor host tokens journal⟩

theorem detached_ofVolume (volume : PersistentVolume) :
    Detached host (TeardownReport.ofVolume volume) :=
  ⟨_, _, fun tokens journal => TeardownReport.perform_ofVolume volume host tokens journal⟩

variable (hforgets : host.backend.Forgetful)
include hforgets

theorem detached_readyBucket (subject : String) (plan : ProvisionPlan) :
    Detached host (Provisioner.readyBucket subject plan) := by
  rcases hfetched : host.credentials plan.secret plan.config.iamEndpoint with cause | credentials
  · refine ⟨.error ⟨subject, .credentialResolution, .credential cause⟩,
      Provisioner.fetching subject plan, ?_⟩
    intro tokens journal
    rw [Provisioner.perform_readyBucket, hfetched]
  · -- the session is the one that would follow no calls at all
    rcases hserve : host.backend.serve [] plan credentials with ⟨result, entries⟩
    refine ⟨result.mapError (⟨subject, .lifecycleExecution, ·⟩),
      Provisioner.fetching subject plan ++
        .event (.lifecycleStarted subject plan.bucket.name) :: entries, ?_⟩
    intro tokens journal
    rw [Provisioner.perform_readyBucket, hfetched]
    simp only [hforgets.serve_eq (callsOf journal), hserve, List.append_assoc]

theorem detached_deleteTarget (subject : String) (target : TeardownTarget) :
    Detached host (Provisioner.deleteTarget subject target) := by
  rcases hfetched : host.credentials target.secret target.iamEndpoint with cause | credentials
  · refine ⟨.error ⟨subject, .credentialResolution, .credential cause⟩,
      Provisioner.unlocking subject target, ?_⟩
    intro tokens journal
    rw [Provisioner.perform_deleteTarget, hfetched]
  · rcases hconduct : host.backend.conduct [] target.calls with ⟨result, entries⟩
    refine ⟨result.mapError (⟨subject, .bucketDelete, ·⟩),
      Provisioner.unlocking subject target ++
        .event (.volumeStageStarted subject .bucketDelete) :: entries, ?_⟩
    intro tokens journal
    rw [Provisioner.perform_deleteTarget, hfetched]
    simp only [hforgets.conduct_eq (callsOf journal), hconduct, List.append_assoc]

theorem detached_delete (provisioner : Provisioner) (volume : PersistentVolume) :
    Detached host (provisioner.delete volume) := by
  refine detached_bind (detached_emit _) fun _ => ?_
  refine detached_bind (detached_readDescriptor volume) fun descriptor => ?_
  cases hauto : descriptor.teardownTarget.autoDeleteBucket with
  | true =>
    simp only [hauto, if_true]
    exact detached_deleteTarget hforgets _ _
  | false =>
    simp only [hauto, Bool.false_eq_true, if_false]
    exact detached_emit _

end Detached

/-! ## Requests that draw a token -/

/-- A request draws a token if it can be read and merged, keeps to the policy, and wants its bucket
deleted with the volume. -/
def ProvisionRequest.drawsToken (request : ProvisionRequest) : Bool :=
  match ProvisionPlan.resolveRequest request with
  | .error _ => false
  | .ok (claim, _) => claim.checkPolicy.isOk && claim.autoDeleteBucket

namespace ProvisionPlan

variable {request : ProvisionRequest}

/-- The plan of a request that draws a token has that token in its bucket's name; without a token the
request is refused. -/
theorem decided_of_drawsToken (h : request.drawsToken = true) :
    ∃ claim config, resolveRequest request = .ok (claim, config) ∧ claim.checkPolicy = .ok () ∧
      claim.autoDeleteBucket = true ∧
      ∀ tokens, decided request tokens =
        (match tokens.draw.1 with
          | .error failure =>
            .error ⟨request.claimName, .validating, .nameGeneration failure⟩
          | .ok token => .ok {
              claim, config
              bucket := .named claim (generatedBucketName token)
              secret := ⟨claim.secretName, request.claimNamespace⟩ },
          tokens.draw.2) := by
  unfold ProvisionRequest.drawsToken at h
  rcases hresolved : resolveRequest request with cause | ⟨claim, config⟩
  · simp [hresolved] at h
  simp only [hresolved, Bool.and_eq_true] at h
  rcases hpolicy : claim.checkPolicy with cause | ⟨⟩
  · simp [hpolicy, Except.isOk, Except.toBool] at h
  have hdelete : claim.autoDeleteBucket = true := h.2
  refine ⟨claim, config, rfl, hpolicy, hdelete, ?_⟩
  intro tokens
  simp only [decided, hresolved, bucketDecided, hpolicy, BucketPlan.chosen, hdelete, if_true]
  rcases tokens.draw with ⟨failure | token, left⟩
  · rfl
  · rfl

/-- A request that draws no token is decided without regard to the tokens, and leaves them alone. -/
theorem decided_of_not_drawsToken (h : request.drawsToken = false) :
    ∃ verdict, ∀ tokens, decided request tokens = (verdict, tokens) := by
  unfold ProvisionRequest.drawsToken at h
  rcases hresolved : resolveRequest request with cause | ⟨claim, config⟩
  · -- it is refused in the first stage
    refine ⟨.error ⟨request.claimName, .resolving, cause⟩, ?_⟩
    intro tokens
    simp only [decided, hresolved]
  simp only [hresolved] at h
  rcases hpolicy : claim.checkPolicy with cause | ⟨⟩
  · -- it is refused by the policy
    refine ⟨.error ⟨request.claimName, .validating, cause⟩, ?_⟩
    intro tokens
    simp only [decided, hresolved, bucketDecided, hpolicy]
  · -- its bucket keeps the name that the claim gives it
    have hkept : claim.autoDeleteBucket = false := by
      simpa [hpolicy, Except.isOk, Except.toBool] using h
    refine ⟨.ok {
      claim, config
      bucket := .named claim claim.bucket
      secret := ⟨claim.secretName, request.claimNamespace⟩ }, ?_⟩
    intro tokens
    simp only [decided, hresolved, bucketDecided, hpolicy, BucketPlan.chosen, hkept,
      Bool.false_eq_true, if_false]

/-- The tokens that deciding a request leaves. -/
theorem snd_decided (request : ProvisionRequest) (tokens : TokenSource) :
    (decided request tokens).2 = if request.drawsToken then tokens.draw.2 else tokens := by
  cases h : request.drawsToken with
  | true =>
    rcases decided_of_drawsToken h with ⟨claim, config, -, -, -, hdecided⟩
    rw [hdecided]
    rfl
  | false =>
    rcases decided_of_not_drawsToken h with ⟨verdict, hdecided⟩
    rw [hdecided]
    rfl

/-- A request is decided in the same way before any tokens, if it draws none. -/
theorem fst_decided_eq {tokens tokens' : TokenSource}
    (h : request.drawsToken = true → tokens = tokens') :
    (decided request tokens).1 = (decided request tokens').1 := by
  cases hdraws : request.drawsToken with
  | true => rw [h hdraws]
  | false =>
    rcases decided_of_not_drawsToken hdraws with ⟨verdict, hdecided⟩
    rw [hdecided, hdecided]

end ProvisionPlan

/-- Once its request is decided, a provision call takes one course: it ends in one way, and adds the
same entries whenever it is taken. -/
theorem provision_determined {host : Host} (hforgets : host.backend.Forgetful)
    (provisioner : Provisioner) (request : ProvisionRequest)
    (verdict : Except StageFailure ProvisionPlan) :
    ∃ result entries, ∀ tokens journal,
      (ProvisionPlan.decided request tokens).1 = verdict →
      (provisioner.provision request).perform host ⟨tokens, journal⟩ =
        (result, ⟨(ProvisionPlan.decided request tokens).2, journal ++ entries⟩) := by
  rcases verdict with failure | plan
  · refine ⟨.error failure, (provisioner.opening request).map .event, ?_⟩
    intro tokens journal h
    simp [Provisioner.provision, perform_bind, ProvisionPlan.perform_prepare, h,
      Provisioner.opening]
  · -- what follows the decision stands alone
    have hrest : Detached host (do
        if plan.bucket.requiresSession then Provisioner.readyBucket request.claimName plan
        provisioner.finish request plan) := by
      cases plan.bucket.requiresSession with
      | false => exact detached_finish provisioner request plan
      | true =>
        exact detached_bind (detached_readyBucket hforgets _ _)
          fun _ => detached_finish provisioner request plan
    rcases hrest with ⟨result, entries, hrest⟩
    refine ⟨result, (provisioner.opening request).map .event ++ entries, ?_⟩
    intro tokens journal h
    simp only [Provisioner.provision, perform_bind, perform_emit, ProvisionPlan.perform_prepare, h]
    rw [hrest]
    simp [Provisioner.opening]

/-! ## Steps -/

/-- The slots that a source is in. -/
def VolumeSource.slots : VolumeSource → List String
  | .slot name => [name]
  | .given _ => []

namespace Step

/-- The slots whose volumes a step reads. -/
def reads : Step → List String
  | .annotate name _ _ => [name]
  | .delete source | .report source => source.slots
  | .provision .. | .insertSecret .. | .script _ => []

/-- The slots that a step touches: those that it reads, and the one in which it keeps a volume. -/
def slots : Step → List String
  | .provision name _ => [name]
  | s => s.reads

theorem mem_slots_of_mem_reads {s : Step} {name : String} (h : name ∈ s.reads) : name ∈ s.slots := by
  cases s with
  | provision => cases h
  | insertSecret | script | annotate | delete | report => exact h

/-- A step that calls the provisioner. -/
def IsCall : Step → Prop
  | .provision .. | .delete _ | .report _ => True
  | .insertSecret .. | .script _ | .annotate .. => False

/-- A step draws a token if it provisions for a request that draws one. -/
def drawsToken : Step → Bool
  | .provision _ request => request.drawsToken
  | _ => false

/-- Only calls draw tokens. -/
theorem isCall_of_drawsToken {s : Step} (h : s.drawsToken = true) : s.IsCall := by
  cases s with
  | insertSecret | script | annotate => cases h
  | provision | delete | report => trivial

/-- The tokens that a step leaves. -/
def tokensAfter (s : Step) (tokens : TokenSource) : TokenSource :=
  if s.drawsToken then tokens.draw.2 else tokens

end Step

/-- What a call comes to, what it adds to the journal, and the volume that it keeps. -/
structure Effect where
  outcome : Outcome
  entries : List Entry
  kept : Option (String × PersistentVolume)

namespace Bench

/-- The bench that a call leaves. -/
def advance (bench : Bench) (effect : Effect) (tokens : TokenSource) : Bench where
  secrets := bench.secrets
  switches := bench.switches
  progress := ⟨tokens, bench.progress.journal ++ effect.entries⟩
  slots := match effect.kept with
    | none => bench.slots
    | some (name, volume) => bench.slots.insert name volume

/-- Two benches have the same secrets and switches, and the same volumes in certain slots. -/
structure AgreeOn (names : String → Prop) (bench other : Bench) : Prop where
  secrets : bench.secrets = other.secrets
  switches : bench.switches = other.switches
  slots : ∀ name, names name → bench.slots[name]? = other.slots[name]?

variable {bench other : Bench} {names : String → Prop} {s : Step}

namespace AgreeOn

/-- A bench agrees with itself. -/
theorem refl (names : String → Prop) (bench : Bench) : bench.AgreeOn names bench :=
  ⟨rfl, rfl, fun _ _ => rfl⟩

theorem mono {fewer : String → Prop} (h : bench.AgreeOn names other)
    (hfewer : ∀ name, fewer name → names name) : bench.AgreeOn fewer other :=
  ⟨h.secrets, h.switches, fun name hname => h.slots name (hfewer name hname)⟩

theorem host (h : bench.AgreeOn names other) : other.host = bench.host := by
  rw [Bench.host, Bench.host, h.secrets, h.switches]

theorem volume (h : bench.AgreeOn names other) (source : VolumeSource)
    (hsource : ∀ name ∈ source.slots, names name) : other.volume source = bench.volume source := by
  cases source with
  | given volume => rfl
  | slot name =>
    have hname : names name := hsource name (List.mem_singleton_self name)
    simp only [Bench.volume, slot, h.slots name hname]

end AgreeOn

/-- A call leaves all slots alone but the one in which it keeps its volume. -/
theorem agreeOn_advance {effect : Effect} (tokens : TokenSource)
    (h : ∀ name volume, effect.kept = some (name, volume) → ¬ names name) :
    bench.AgreeOn names (bench.advance effect tokens) := by
  refine ⟨rfl, rfl, ?_⟩
  intro name hname
  simp only [advance]
  rcases hkept : effect.kept with _ | ⟨kept, volume⟩
  · rfl
  · have hother : kept ≠ name := by
      rintro rfl
      exact h kept volume hkept hname
    simp only [Std.ExtTreeMap.getElem?_insert, Std.LawfulEqCmp.compare_eq_iff_eq, hother, if_false]

/-- A call has an effect on a bench, and on all others that agree with it on the secrets, the switches
and the slot that the call reads, and have the same tokens if it draws one. Only a provision call keeps
a volume. -/
structure HasEffect (provisioner : Provisioner) (bench : Bench) (s : Step) (effect : Effect) :
    Prop where
  kept : ∀ name volume, effect.kept = some (name, volume) → ∃ request, s = .provision name request
  there : ∀ other, bench.AgreeOn (· ∈ s.reads) other →
    (s.drawsToken = true → other.progress.tokens = bench.progress.tokens) →
    other.step provisioner s =
      (effect.outcome, other.advance effect (s.tokensAfter other.progress.tokens))

theorem HasEffect.here {provisioner : Provisioner} {effect : Effect}
    (h : HasEffect provisioner bench s effect) :
    bench.step provisioner s =
      (effect.outcome, bench.advance effect (s.tokensAfter bench.progress.tokens)) :=
  h.there bench (.refl _ bench) fun _ => rfl

/-- Every call has an effect: what it comes to is settled by what it reads. -/
theorem exists_effect (provisioner : Provisioner) (bench : Bench) (hcall : s.IsCall) :
    ∃ effect, HasEffect provisioner bench s effect := by
  have hforgets : bench.host.backend.Forgetful := bench.switches.forgetful_backend
  cases s with
  | insertSecret | script | annotate => exact hcall.elim
  | provision name request =>
    rcases provision_determined hforgets provisioner request
      (ProvisionPlan.decided request bench.progress.tokens).1 with ⟨result, entries, hcourse⟩
    refine ⟨⟨.provisioned result, entries, match result with
      | .ok volume => some (name, volume)
      | .error _ => none⟩, ?_, ?_⟩
    · intro kept volume hkept
      rcases result with failure | volume
      · cases hkept
      · obtain ⟨rfl, -⟩ := Prod.mk.inj (Option.some.inj hkept)
        exact ⟨request, rfl⟩
    · intro other hagree htokens
      -- with or without a token, the request is decided as it is on the first bench
      have hverdict := ProvisionPlan.fst_decided_eq htokens
      have hperform := hcourse other.progress.tokens other.progress.journal hverdict
      rw [ProvisionPlan.snd_decided, ← hagree.host] at hperform
      simp only [Bench.step, Bench.perform, hperform]
      rcases result with failure | volume
      · rfl
      · rfl
  | delete source =>
    rcases detached_delete hforgets provisioner (bench.volume source) with
      ⟨result, entries, hperform⟩
    refine ⟨⟨.deleted result, entries, none⟩, fun _ _ hkept => (by cases hkept), ?_⟩
    intro other hagree _
    -- the volume is the same, since the benches agree on its slot
    rw [← hagree.host] at hperform
    simp only [Bench.step, Bench.perform, hagree.volume source fun _ => id, hperform]
    rfl
  | report source =>
    have hreport : Detached bench.host (TeardownReport.ofVolume (bench.volume source)) :=
      detached_ofVolume _
    rcases hreport with ⟨result, entries, hperform⟩
    refine ⟨⟨.reported result, entries, none⟩, fun _ _ hkept => (by cases hkept), ?_⟩
    intro other hagree _
    rw [← hagree.host] at hperform
    simp only [Bench.step, Bench.perform, hagree.volume source fun _ => id, hperform]
    rfl

/-! ## What a step shows -/

/-- What a step of a run comes to, and what it adds to the journal: its events, its look-ups and its
calls. -/
def told : Outcome × Bench × Bench → Outcome × List Entry
  | (outcome, before, after) => (outcome, before.added after)

theorem told_advance (bench : Bench) (effect : Effect) (tokens : TokenSource) :
    told (effect.outcome, bench, bench.advance effect tokens) = (effect.outcome, effect.entries) := by
  rw [told, added_of_append rfl]

variable {outcome : Outcome} {before after : Bench}

/-- A step that is no call adds nothing to the journal, and takes no token. -/
theorem progress_of_not_isCall (provisioner : Provisioner) (bench : Bench) (h : ¬ s.IsCall) :
    (bench.step provisioner s).2.progress = bench.progress := by
  cases s with
  | insertSecret | script | annotate => rfl
  | provision | delete | report => exact absurd trivial h

/-- A step takes a token exactly if its request draws one. -/
theorem tokens_step {provisioner : Provisioner}
    (h : before.step provisioner s = (outcome, after)) :
    after.progress.tokens = s.tokensAfter before.progress.tokens := by
  by_cases hcall : s.IsCall
  · rcases exists_effect provisioner before hcall with ⟨effect, heffect⟩
    rw [heffect.here] at h
    obtain ⟨-, rfl⟩ := Prod.mk.inj h
    rfl
  · have hquiet : ¬ s.drawsToken = true := fun hdraws => hcall (Step.isCall_of_drawsToken hdraws)
    have hsame := progress_of_not_isCall provisioner before hcall
    rw [h] at hsame
    rw [hsame, Step.tokensAfter, if_neg hquiet]

/-! ## Runs on benches that agree -/

/-- Two benches have the same tokens, and agree on the secrets, the switches and certain slots. -/
structure InStep (names : String → Prop) (bench other : Bench) : Prop
    extends AgreeOn names bench other where
  tokens : other.progress.tokens = bench.progress.tokens

namespace InStep

theorem refl (names : String → Prop) (bench : Bench) : bench.InStep names bench :=
  ⟨.refl names bench, rfl⟩

theorem advance (h : bench.InStep names other) (effect : Effect) (tokens : TokenSource) :
    (bench.advance effect tokens).InStep names (other.advance effect tokens) := by
  refine ⟨⟨h.secrets, h.switches, ?_⟩, rfl⟩
  intro name hname
  simp only [Bench.advance]
  rcases effect.kept with _ | ⟨kept, volume⟩
  · exact h.slots name hname
  · simp only [Std.ExtTreeMap.getElem?_insert, h.slots name hname]

theorem keep (h : bench.InStep names other) (name : String) (volume : PersistentVolume) :
    (bench.keep name volume).InStep names (other.keep name volume) := by
  refine ⟨⟨h.secrets, h.switches, ?_⟩, h.tokens⟩
  intro held hheld
  simp only [Bench.keep, Std.ExtTreeMap.getElem?_insert, h.slots held hheld]

variable (provisioner : Provisioner)

/-- A step shows the same on benches that agree on the slots that it reads, and leaves them so. -/
theorem step (h : bench.InStep names other) (hs : ∀ name ∈ s.reads, names name) :
    told ((bench.step provisioner s).1, bench, (bench.step provisioner s).2) =
        told ((other.step provisioner s).1, other, (other.step provisioner s).2) ∧
      (bench.step provisioner s).2.InStep names (other.step provisioner s).2 := by
  by_cases hcall : s.IsCall
  · -- a call has the same effect on both
    rcases exists_effect provisioner bench hcall with ⟨effect, heffect⟩
    rw [heffect.here, heffect.there other (h.mono hs) fun _ => h.tokens, h.tokens]
    refine ⟨?_, h.advance effect _⟩
    rw [told_advance, told_advance]
  · -- any other step changes both in the same way, and is not written down
    have hquiet : ∀ b : Bench, b.added (b.step provisioner s).2 = [] := by
      intro b
      rw [added, progress_of_not_isCall provisioner b hcall, List.drop_length]
    simp only [told, hquiet]
    cases s with
    | insertSecret ref data =>
      exact ⟨rfl, ⟨congrArg (·.insert ref data) h.secrets, h.switches, h.slots⟩, h.tokens⟩
    | script setting =>
      exact ⟨rfl, ⟨h.secrets, congrArg (·.set setting) h.switches, h.slots⟩, h.tokens⟩
    | annotate name key value =>
      have hslot : other.slot name = bench.slot name := h.volume (.slot name) hs
      have hafter : (bench.annotate name key value).InStep names
          (other.annotate name key value) := by
        simp only [annotate, hslot]
        exact h.keep name _
      have hread : (other.annotate name key value).slot name =
          (bench.annotate name key value).slot name := hafter.volume (.slot name) hs
      simp only [Bench.step, hread]
      exact ⟨trivial, hafter⟩
    | provision | delete | report => exact absurd trivial hcall

/-- Runs of steps that read only slots that two benches agree on show the same, and leave the benches
so. -/
theorem run (steps : List Step) (h : bench.InStep names other)
    (hsteps : ∀ s ∈ steps, ∀ name ∈ s.reads, names name) :
    (bench.run provisioner steps).map told = (other.run provisioner steps).map told ∧
      (bench.final provisioner steps).InStep names (other.final provisioner steps) := by
  induction steps generalizing bench other with
  | nil => exact ⟨rfl, h⟩
  | cons s rest ih =>
    rw [List.forall_mem_cons] at hsteps
    rcases h.step provisioner hsteps.1 with ⟨htold, hafter⟩
    rcases ih hafter hsteps.2 with ⟨hrest, hfinal⟩
    refine ⟨?_, hfinal⟩
    simp only [Bench.run, List.map_cons, List.cons.injEq]
    exact ⟨htold, hrest⟩

end InStep

end Bench

end BucketVolume
