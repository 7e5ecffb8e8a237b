import Mathlib.Data.List.Forall2
import BucketVolume.Proofs.Run
import BucketVolume.Proofs.Utf8

/-!
# BucketVolume.Proofs.Secrecy — what secrets hold stays in them

Two runs that differ only in what their secrets hold cannot be told apart: neither by the outcomes of
their steps, nor by the calls and look-ups that they make, nor by what they report. All that shows of
a secret is which of its fields are there, and whether its service instance id is empty, since an API
key needs one to create buckets.

The two runs are carried along together. Secrets that are alike give credentials that are as good as
each other (`credentials_alike`), so a call on either host is one and the same computation
(`perform_provision_alike`, `perform_delete_alike`); steps keep benches alike (`step_alike`), and a run
is its steps (`secrets_hidden`).
-/

namespace BucketVolume

open Activity

/-! ## Secrets that are alike -/

/-- The fields of a secret that credentials are made of. -/
def Credentials.fields : List String :=
  [apiKeyField, serviceInstanceIdField, accessKeyField, secretKeyField]

/-- Two secrets have the same fields, and a service instance id that is empty in both or neither. -/
structure SecretData.Alike (a b : SecretData) : Prop where
  present : ∀ field ∈ Credentials.fields, (field ∈ a ↔ field ∈ b)
  emptyId : a[Credentials.serviceInstanceIdField]? = some [] ↔
    b[Credentials.serviceInstanceIdField]? = some []

namespace SecretData.Alike

variable {a b : SecretData}

theorem refl (a : SecretData) : a.Alike a :=
  ⟨fun _ _ => Iff.rfl, Iff.rfl⟩

/-- A field is read from both or from neither. -/
theorem read? (h : a.Alike b) (field : String) (hfield : field ∈ Credentials.fields) :
    (a.read? field = none ∧ b.read? field = none) ∨
      ∃ x y, a.read? field = some x ∧ b.read? field = some y := by
  have hpresent := h.present field hfield
  rw [← a.read?_isSome_iff, ← b.read?_isSome_iff] at hpresent
  rcases ha : a.read? field with _ | x <;> rcases hb : b.read? field with _ | y
  · exact .inl ⟨rfl, rfl⟩
  · simp [ha, hb] at hpresent
  · simp [ha, hb] at hpresent
  · exact .inr ⟨x, y, rfl, rfl⟩

/-- The service instance ids of both are empty or neither is. -/
theorem read?_id (h : a.Alike b) :
    a.read? Credentials.serviceInstanceIdField = some "" ↔
      b.read? Credentials.serviceInstanceIdField = some "" := by
  simpa only [SecretData.read?, Option.map_eq_some_iff, Text.textOf_eq_empty_iff,
    exists_eq_right] using h.emptyId

end SecretData.Alike

/-! ### Secrets made of texts -/

/-- Each field of a secret made of texts holds the last text that it is given. -/
theorem SecretData.getElem?_ofTexts (pairs : List (String × String)) (field : String) :
    (ofTexts pairs)[field]? = (pairs.reverse.lookup field).map Text.bytesOf :=
  Annotations.getElem?_foldl_insert Text.bytesOf pairs field

/-- Secrets made of texts are alike if the last texts of their fields are. -/
theorem SecretData.alike_ofTexts {pairs pairs' : List (String × String)}
    (hpresent : ∀ field ∈ Credentials.fields,
      (pairs.reverse.lookup field).isSome = (pairs'.reverse.lookup field).isSome)
    (hid : pairs.reverse.lookup Credentials.serviceInstanceIdField = some "" ↔
      pairs'.reverse.lookup Credentials.serviceInstanceIdField = some "") :
    (ofTexts pairs).Alike (ofTexts pairs') := by
  constructor
  · intro field hfield
    rw [← Std.ExtTreeMap.isSome_getElem?_iff_mem, ← Std.ExtTreeMap.isSome_getElem?_iff_mem,
      getElem?_ofTexts, getElem?_ofTexts, Option.isSome_map, Option.isSome_map,
      hpresent field hfield]
  · simpa only [getElem?_ofTexts, Option.map_eq_some_iff, Text.bytesOf_eq_nil_iff,
      exists_eq_right] using hid

/-! ## Hosts that are alike -/

/-- Credentials of one secret are as good as those of another that is alike. -/
theorem Credentials.ofSecret_alike {a b : SecretData} (h : a.Alike b) (iamEndpoint : String) :
    (∃ cause, ofSecret a iamEndpoint = .error cause ∧ ofSecret b iamEndpoint = .error cause) ∨
      ∃ x y, ofSecret a iamEndpoint = .ok x ∧ ofSecret b iamEndpoint = .ok y ∧
        x.lacksServiceInstance = y.lacksServiceInstance := by
  unfold ofSecret requireField
  rcases h.read? apiKeyField (by simp [fields]) with ⟨hka, hkb⟩ | ⟨_, _, hka, hkb⟩
  · -- without an API key both halves of a pair are needed
    rw [hka, hkb]
    rcases h.read? accessKeyField (by simp [fields]) with ⟨ha, hb⟩ | ⟨_, _, ha, hb⟩
    · rw [ha, hb]
      exact .inl ⟨_, rfl, rfl⟩
    rw [ha, hb]
    rcases h.read? secretKeyField (by simp [fields]) with ⟨hsa, hsb⟩ | ⟨_, _, hsa, hsb⟩
    · rw [hsa, hsb]
      exact .inl ⟨_, rfl, rfl⟩
    · rw [hsa, hsb]
      exact .inr ⟨_, _, rfl, rfl, rfl⟩
  · -- an API key is as good as its service instance id
    rw [hka, hkb]
    refine .inr ⟨_, _, rfl, rfl, ?_⟩
    have hid := h.read?_id
    rcases h.read? serviceInstanceIdField (by simp [fields]) with
      ⟨hia, hib⟩ | ⟨x, y, hia, hib⟩
    · rw [hia, hib]
      rfl
    · rw [hia, hib, Option.some.injEq, Option.some.injEq] at hid
      rw [hia, hib]
      show (x == "") = (y == "")
      rw [Bool.eq_iff_iff, beq_iff_eq, beq_iff_eq]
      exact hid

/-- Two stores got secrets that are alike, under the same references and in the same order. -/
def SecretStore.Alike (a b : SecretStore) : Prop :=
  List.Forall₂ (fun x y => x.1 = y.1 ∧ x.2.Alike y.2) a.insertions b.insertions

/-- Two hosts have the same backend, and secrets that are alike. -/
structure Host.Alike (host other : Host) : Prop where
  backend : host.backend = other.backend
  secret : ∀ ref,
    (∃ source, host.secret ref = .error source ∧ other.secret ref = .error source) ∨
      ∃ a b, host.secret ref = .ok a ∧ other.secret ref = .ok b ∧ a.Alike b

/-- Stores that are alike have the same references, and secrets that are alike under them. -/
theorem SecretStore.Alike.find? {a b : SecretStore} (h : a.Alike b) (ref : SecretRef) :
    (a.find? ref = none ∧ b.find? ref = none) ∨
      ∃ x y, a.find? ref = some x ∧ b.find? ref = some y ∧ x.Alike y := by
  unfold SecretStore.Alike at h
  unfold SecretStore.find?
  generalize a.insertions = these at h ⊢
  generalize b.insertions = those at h ⊢
  induction h with
  | nil => exact .inl ⟨rfl, rfl⟩
  | @cons x y rest rest' hxy _ ih =>
    rw [List.lookup_cons, List.lookup_cons, hxy.1]
    cases ref == y.1 with
    | true => exact .inr ⟨_, _, rfl, rfl, hxy.2⟩
    | false => exact ih

section Calls

variable {host other : Host} (h : host.Alike other)
include h

/-- Whatever is fetched from hosts that are alike serves as well. -/
theorem Host.Alike.credentials (ref : SecretRef) (iamEndpoint : String) :
    (∃ cause, host.credentials ref iamEndpoint = .error cause ∧
      other.credentials ref iamEndpoint = .error cause) ∨
    ∃ x y, host.credentials ref iamEndpoint = .ok x ∧
      other.credentials ref iamEndpoint = .ok y ∧
      x.lacksServiceInstance = y.lacksServiceInstance := by
  unfold Host.credentials
  rcases h.secret ref with ⟨source, ha, hb⟩ | ⟨a, b, ha, hb, hab⟩
  · rw [ha, hb]
    exact .inl ⟨_, rfl, rfl⟩
  · rw [ha, hb]
    exact Credentials.ofSecret_alike hab iamEndpoint

/-! ## Calls on hosts that are alike -/

theorem perform_readyBucket_alike (subject : String) (plan : ProvisionPlan) (tokens : TokenSource)
    (journal : List Entry) :
    (Provisioner.readyBucket subject plan).perform host ⟨tokens, journal⟩ =
      (Provisioner.readyBucket subject plan).perform other ⟨tokens, journal⟩ := by
  rw [Provisioner.perform_readyBucket, Provisioner.perform_readyBucket]
  rcases h.credentials plan.secret plan.config.iamEndpoint with
    ⟨cause, ha, hb⟩ | ⟨x, y, ha, hb, hxy⟩
  · rw [ha, hb]
  · -- a session only asks whether its credentials can create buckets
    simp only [ha, hb, Backend.serve, hxy, h.backend]

/-- A provision call takes the same course on hosts that are alike. -/
theorem perform_provision_alike (provisioner : Provisioner) (request : ProvisionRequest)
    (progress : Progress) :
    (provisioner.provision request).perform host progress =
      (provisioner.provision request).perform other progress := by
  rcases progress with ⟨tokens, journal⟩
  simp only [Provisioner.provision, perform_bind, perform_emit, ProvisionPlan.perform_prepare]
  rcases ProvisionPlan.decided request tokens with ⟨failure | plan, left⟩
  · rfl
  · cases hsession : plan.bucket.requiresSession
    · simp only [hsession, Bool.false_eq_true, if_false, Provisioner.perform_finish]
    · simp only [hsession, if_true, perform_bind, perform_readyBucket_alike h]
      rcases (Provisioner.readyBucket request.claimName plan).perform other _ with
        ⟨failure | ⟨⟩, ⟨rest, written⟩⟩
      · rfl
      · simp only [Provisioner.perform_finish]

/-- A delete call takes the same course on hosts that are alike. -/
theorem perform_delete_alike (provisioner : Provisioner) (volume : PersistentVolume)
    (progress : Progress) :
    (provisioner.delete volume).perform host progress =
      (provisioner.delete volume).perform other progress := by
  rcases progress with ⟨tokens, journal⟩
  simp only [Provisioner.delete, perform_bind, perform_emit,
    PersistentVolume.perform_readDescriptor]
  rcases VolumeDescriptor.ofAnnotations volume.annotations with failure | descriptor
  · rfl
  · cases hauto : descriptor.teardownTarget.autoDeleteBucket
    · simp [hauto]
    · simp only [mapError_ok, hauto, if_true, Provisioner.perform_deleteTarget]
      rcases h.credentials descriptor.teardownTarget.secret
        descriptor.teardownTarget.iamEndpoint with ⟨cause, ha, hb⟩ | ⟨x, y, ha, hb, -⟩
      · rw [ha, hb]
      · simp only [ha, hb, h.backend]

end Calls

/-! ## Runs that are alike -/

/-- Two steps are the same, but for what is in a secret that they insert. -/
inductive Step.Alike : Step → Step → Prop where
  | secret (ref : SecretRef) {a b : SecretData} (alike : a.Alike b) :
      Alike (.insertSecret ref a) (.insertSecret ref b)
  | same (s : Step) : Alike s s

/-- Two benches are the same, but for what is in their secrets. -/
structure Bench.Alike (bench other : Bench) : Prop where
  secrets : bench.secrets.Alike other.secrets
  switches : bench.switches = other.switches
  progress : bench.progress = other.progress
  slots : bench.slots = other.slots

namespace Bench

/-- What a step of a run shows: what it comes to, what it reports and asks, and the tokens it
leaves. -/
def shown : Outcome × Bench × Bench → Outcome × List Event × List SecretRef × List Call × TokenSource
  | (outcome, before, after) =>
    (outcome, eventsOf (before.added after), lookupsOf (before.added after),
      callsOf (before.added after), after.progress.tokens)

namespace Alike

variable {bench other : Bench}

theorem refl (bench : Bench) : bench.Alike bench :=
  ⟨List.forall₂_same.mpr fun _ _ => ⟨rfl, .refl _⟩, rfl, rfl, rfl⟩

theorem host (h : bench.Alike other) : bench.host.Alike other.host := by
  constructor
  case backend => rw [Bench.host, Bench.host, h.switches]
  case secret =>
    intro ref
    simp only [Bench.host, SecretStore.get]
    rcases h.secrets.find? ref with ⟨ha, hb⟩ | ⟨a, b, ha, hb, hab⟩
    · rw [ha, hb]
      exact .inl ⟨_, rfl, rfl⟩
    · rw [ha, hb]
      exact .inr ⟨a, b, rfl, rfl, hab⟩

theorem volume (h : bench.Alike other) (source : VolumeSource) :
    bench.volume source = other.volume source := by
  cases source with
  | slot name => simp only [Bench.volume, slot, h.slots]
  | given volume => rfl

/-- A call that hosts cannot tell apart leaves benches alike. -/
theorem perform {α : Type} (h : bench.Alike other) {x y : Activity StageFailure α}
    (hsame : x.perform bench.host bench.progress = y.perform other.host bench.progress) :
    (bench.perform x).1 = (other.perform y).1 ∧ (bench.perform x).2.Alike (other.perform y).2 := by
  simp only [Bench.perform, ← h.progress, hsame]
  exact ⟨trivial, h.secrets, h.switches, rfl, h.slots⟩

theorem keep (h : bench.Alike other) (name : String) (volume : PersistentVolume) :
    (bench.keep name volume).Alike (other.keep name volume) :=
  ⟨h.secrets, h.switches, h.progress, by simp only [Bench.keep, h.slots]⟩

end Alike

variable {bench other : Bench} {s s' : Step}

/-- Steps that are alike come to the same and keep benches alike. -/
theorem step_alike (provisioner : Provisioner) (h : bench.Alike other) (hs : s.Alike s') :
    (bench.step provisioner s).1 = (other.step provisioner s').1 ∧
      (bench.step provisioner s).2.Alike (other.step provisioner s').2 := by
  cases hs with
  | secret ref alike =>
    exact ⟨rfl, .cons ⟨rfl, alike⟩ h.secrets, h.switches, h.progress, h.slots⟩
  | same =>
    cases s with
    | insertSecret ref data =>
      exact ⟨rfl, .cons ⟨rfl, .refl data⟩ h.secrets, h.switches, h.progress, h.slots⟩
    | script setting =>
      exact ⟨rfl, h.secrets, congrArg (·.set setting) h.switches, h.progress, h.slots⟩
    | provision name request =>
      have hcall := h.perform (perform_provision_alike h.host provisioner request bench.progress)
      simp only [Bench.step]
      rcases hdone : bench.perform (provisioner.provision request) with ⟨result, after⟩
      rcases hdone' : other.perform (provisioner.provision request) with ⟨result', after'⟩
      rw [hdone, hdone'] at hcall
      rcases hcall with ⟨rfl, hafter⟩
      rcases result with failure | volume
      · exact ⟨rfl, hafter⟩
      · exact ⟨rfl, hafter.keep name volume⟩
    | delete source =>
      have hcall := h.perform
        (perform_delete_alike h.host provisioner (bench.volume source) bench.progress)
      rw [h.volume source] at hcall
      simp only [Bench.step, h.volume source]
      exact ⟨congrArg Outcome.deleted hcall.1, hcall.2⟩
    | report source =>
      have hcall := h.perform
        ((TeardownReport.perform_ofVolume (bench.volume source) bench.host _ _).trans
          (TeardownReport.perform_ofVolume (bench.volume source) other.host _ _).symm)
      rw [h.volume source] at hcall
      simp only [Bench.step, h.volume source]
      exact ⟨congrArg Outcome.reported hcall.1, hcall.2⟩
    | annotate name key value =>
      have hafter : (bench.annotate name key value).Alike (other.annotate name key value) := by
        simp only [annotate, slot, h.slots]
        exact h.keep name _
      refine ⟨?_, hafter⟩
      simp only [Bench.step, slot, hafter.slots]

/-- Steps that are alike show the same. -/
theorem shown_alike {provisioner : Provisioner} (h : bench.Alike other) (hs : s.Alike s') :
    shown ((bench.step provisioner s).1, bench, (bench.step provisioner s).2) =
      shown ((other.step provisioner s').1, other, (other.step provisioner s').2) := by
  rcases step_alike provisioner h hs with ⟨houtcome, hafter⟩
  simp only [shown, added, houtcome, hafter.progress, h.progress]

/-- Runs that are alike show the same, step by step. -/
theorem run_alike (provisioner : Provisioner) {steps steps' : List Step} (h : bench.Alike other)
    (hsteps : List.Forall₂ Step.Alike steps steps') :
    (bench.run provisioner steps).map shown = (other.run provisioner steps').map shown := by
  induction hsteps generalizing bench other with
  | nil => rfl
  | cons hs _ ih =>
    simp only [run, List.map_cons, List.cons.injEq]
    exact ⟨shown_alike h hs, ih (step_alike provisioner h hs).2⟩

end Bench

/-- Runs of the same steps, but for what their secrets hold, show the same. -/
theorem secrets_hidden (provisioner : Provisioner) (start : Bench) {steps steps' : List Step}
    (h : List.Forall₂ Step.Alike steps steps') :
    (start.run provisioner steps).map Bench.shown =
      (start.run provisioner steps').map Bench.shown :=
  Bench.run_alike provisioner (.refl start) h

/-- A run that creates a bucket and deletes it, with an API key and a service instance id. -/
def keyedSteps (key id : String) : List Step := [
  .insertSecret ⟨"secret", "default"⟩
    (.ofTexts [("api-key", key), ("service-instance-id", id)]),
  .provision "kept" {
    claimName := "claim", claimNamespace := "default"
    claimAnnotations := .ofList [
      (Key.autoCreateBucket, "true"), (Key.autoDeleteBucket, "true"), (Key.secretName, "secret"),
      (Key.endpoint, "https://s3.test"), (Key.iamEndpoint, "https://iam.test")] },
  .delete (.slot "kept")]

theorem secrets_hidden_keyed :
    List.Forall₂ Step.Alike (keyedSteps "key" "id") (keyedSteps "other key" "other id") ∧
      ((Bench.start ["token"]).run ⟨"driver", "cluster"⟩ (keyedSteps "key" "id")).map Bench.shown =
        ((Bench.start ["token"]).run ⟨"driver", "cluster"⟩
          (keyedSteps "other key" "other id")).map Bench.shown ∧
      .deleteBucket "tmp-s3fs-token" ∈ callsOf
        ((Bench.start ["token"]).final ⟨"driver", "cluster"⟩
          (keyedSteps "key" "id")).progress.journal := by
  have halike : List.Forall₂ Step.Alike (keyedSteps "key" "id")
      (keyedSteps "other key" "other id") := by
    refine .cons (.secret _ ?_) (.cons (.same _) (.cons (.same _) .nil))
    apply SecretData.alike_ofTexts
    · decide
    · decide
  exact ⟨halike, secrets_hidden _ _ halike, by decide +kernel⟩

end BucketVolume
