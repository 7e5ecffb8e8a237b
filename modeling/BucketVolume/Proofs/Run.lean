import BucketVolume.Proofs.Provisioning
import BucketVolume.Proofs.Teardown

/-!
# BucketVolume.Proofs.Run — runs, step by step

A run is looked at through its steps: `Took` says which step was taken at an index, what it came to,
and the bench before and after it. What a step adds to the journal is what the call that it makes
shows, and the journal of a run is what its steps added, in order.

* `Took.step`, `Took.exists_pred` — each step starts where the one before it stopped;
* `calls_final` — the calls of a run are those of its steps;
* `returned_of_slot` — what a slot holds was returned by a provision call and not changed since.
-/

namespace BucketVolume.Bench

open Activity

variable {provisioner : Provisioner} {start before after : Bench} {steps : List Step} {i : Nat}
variable {s : Step} {outcome : Outcome}

/-! ## Steps of a run -/

/-- The step at an index of a run, what it came to, and the bench before and after it. -/
def Took (provisioner : Provisioner) (start : Bench) (steps : List Step) (i : Nat) (s : Step)
    (outcome : Outcome) (before after : Bench) : Prop :=
  steps[i]? = some s ∧ (start.run provisioner steps)[i]? = some (outcome, before, after)

/-- The bench at the end of a run. -/
def final (provisioner : Provisioner) (start : Bench) (steps : List Step) : Bench :=
  steps.foldl (fun bench s => (bench.step provisioner s).2) start

theorem took_zero {first : Step} {rest : List Step} :
    Took provisioner start (first :: rest) 0 s outcome before after ↔
      first = s ∧ before = start ∧ start.step provisioner s = (outcome, after) := by
  simp only [Took, run, List.getElem?_cons_zero, Option.some.injEq, Prod.mk.injEq]
  constructor
  · rintro ⟨rfl, hstep, rfl, hafter⟩
    exact ⟨rfl, rfl, Prod.ext hstep hafter⟩
  · rintro ⟨rfl, rfl, hstep⟩
    rw [hstep]
    exact ⟨rfl, rfl, rfl, rfl⟩

theorem took_succ {first : Step} {rest : List Step} :
    Took provisioner start (first :: rest) (i + 1) s outcome before after ↔
      Took provisioner (start.step provisioner first).2 rest i s outcome before after := by
  simp only [Took, run, List.getElem?_cons_succ]

/-- A step of a run is a step of its bench. -/
theorem Took.step (h : Took provisioner start steps i s outcome before after) :
    before.step provisioner s = (outcome, after) := by
  induction steps generalizing start i with
  | nil => cases h.1
  | cons first rest ih =>
    cases i with
    | zero =>
      rcases took_zero.mp h with ⟨rfl, rfl, hstep⟩
      exact hstep
    | succ i => exact ih (took_succ.mp h)

theorem Took.before_of_zero (h : Took provisioner start steps 0 s outcome before after) :
    before = start := by
  cases steps with
  | nil => cases h.1
  | cons first rest => exact (took_zero.mp h).2.1

/-- A step starts where the step before it stopped. -/
theorem Took.exists_pred (h : Took provisioner start steps (i + 1) s outcome before after) :
    ∃ t earlier previous, Took provisioner start steps i t earlier previous before := by
  induction steps generalizing start i with
  | nil => cases h.1
  | cons first rest ih =>
    have hrest := took_succ.mp h
    cases i with
    | zero =>
      refine ⟨first, (start.step provisioner first).1, start, took_zero.mpr ⟨rfl, rfl, ?_⟩⟩
      rw [hrest.before_of_zero]
    | succ i =>
      rcases ih hrest with ⟨t, earlier, previous, hprevious⟩
      exact ⟨t, earlier, previous, took_succ.mpr hprevious⟩

/-! ## What a step adds -/

/-- A provision step comes to what its call shows. -/
theorem step_provision {slot : String} {request : ProvisionRequest}
    (h : before.step provisioner (.provision slot request) = (outcome, after)) :
    outcome = .provisioned (before.observe (provisioner.provision request)).result ∧
      lookupsOf (before.added after) = (before.observe (provisioner.provision request)).lookups ∧
      callsOf (before.added after) = (before.observe (provisioner.provision request)).calls ∧
      after.progress.tokens = (before.observe (provisioner.provision request)).tokens := by
  unfold Bench.step at h
  unfold observe
  rcases hperform : before.perform (provisioner.provision request) with ⟨failure | volume, bench⟩
  · simp only [hperform, Prod.mk.injEq] at h
    rcases h with ⟨rfl, rfl⟩
    exact ⟨rfl, rfl, rfl, rfl⟩
  · simp only [hperform, Prod.mk.injEq] at h
    rcases h with ⟨rfl, rfl⟩
    exact ⟨rfl, rfl, rfl, rfl⟩

/-- A delete step comes to what its call shows. -/
theorem step_delete {source : VolumeSource}
    (h : before.step provisioner (.delete source) = (outcome, after)) :
    outcome = .deleted (before.observe (provisioner.delete (before.volume source))).result ∧
      lookupsOf (before.added after) =
        (before.observe (provisioner.delete (before.volume source))).lookups ∧
      callsOf (before.added after) =
        (before.observe (provisioner.delete (before.volume source))).calls ∧
      after.progress.tokens =
        (before.observe (provisioner.delete (before.volume source))).tokens := by
  simp only [Bench.step, Prod.mk.injEq] at h
  rcases h with ⟨rfl, rfl⟩
  exact ⟨rfl, rfl, rfl, rfl⟩

theorem isPrefix_perform {α : Type} {bench : Bench} {activity : Activity StageFailure α}
    (h : ∃ result tokens entries, activity.perform bench.host bench.progress =
      (result, ⟨tokens, bench.progress.journal ++ entries⟩)) :
    bench.progress.journal <+: (bench.perform activity).2.progress.journal := by
  rcases h with ⟨result, tokens, entries, hperform⟩
  refine ⟨entries, ?_⟩
  simp only [perform, hperform]

/-- A journal goes on from step to step; nothing is ever taken out of it. -/
theorem isPrefix_journal (h : before.step provisioner s = (outcome, after)) :
    before.progress.journal <+: after.progress.journal := by
  obtain rfl : (before.step provisioner s).2 = after := by rw [h]
  cases s with
  | insertSecret ref data => exact List.prefix_refl _
  | script setting => exact List.prefix_refl _
  | provision slot request =>
    obtain ⟨result, left, entries, hperform, -⟩ := provisioner.provision_serves before.host request
      before.progress.tokens before.progress.journal
    have hstart := isPrefix_perform ⟨result, left, entries, hperform⟩
    simp only [Bench.step]
    rcases hdone : before.perform (provisioner.provision request) with ⟨failure | volume, bench⟩
    · rwa [hdone] at hstart
    · rwa [hdone] at hstart
  | delete source =>
    obtain ⟨result, entries, hperform, -⟩ := provisioner.delete_tearsDown before.host
      (before.volume source) before.progress.tokens before.progress.journal
    exact isPrefix_perform ⟨result, _, entries, hperform⟩
  | report source =>
    exact isPrefix_perform ⟨_, _, _, TeardownReport.perform_ofVolume (before.volume source) before.host
      before.progress.tokens before.progress.journal⟩
  | annotate name key value => exact List.prefix_refl _

theorem journal_eq (h : before.step provisioner s = (outcome, after)) :
    after.progress.journal = before.progress.journal ++ before.added after := by
  rcases isPrefix_journal h with ⟨entries, hentries⟩
  rw [added_of_append hentries.symm, hentries]

/-- A step that makes no call of the provisioner looks nothing up and asks for nothing. -/
theorem step_quiet (h : before.step provisioner s = (outcome, after))
    (hprovision : ∀ slot request, s ≠ .provision slot request)
    (hdelete : ∀ source, s ≠ .delete source) :
    lookupsOf (before.added after) = [] ∧ callsOf (before.added after) = [] := by
  obtain rfl : (before.step provisioner s).2 = after := by rw [h]
  have hsame : ∀ bench : Bench, bench.progress.journal = before.progress.journal →
      lookupsOf (before.added bench) = [] ∧ callsOf (before.added bench) = [] := by
    intro bench hjournal
    rw [added, hjournal, List.drop_length]
    exact ⟨rfl, rfl⟩
  cases s with
  | insertSecret ref data => exact hsame _ rfl
  | script setting => exact hsame _ rfl
  | provision slot request => exact absurd rfl (hprovision slot request)
  | delete source => exact absurd rfl (hdelete source)
  | report source =>
    have hshown := before.observe_eq (TeardownReport.perform_ofVolume (before.volume source)
      before.host before.progress.tokens before.progress.journal)
    constructor
    · exact congrArg Observation.lookups hshown
    · exact congrArg Observation.calls hshown
  | annotate name key value => exact hsame _ rfl

/-! ## What a run adds -/

/-- The calls of a run are those of its steps, in order. -/
theorem calls_final (provisioner : Provisioner) (start : Bench) (steps : List Step) :
    callsOf (start.final provisioner steps).progress.journal =
      callsOf start.progress.journal ++
        (start.run provisioner steps).flatMap fun (_, before, after) =>
          callsOf (before.added after) := by
  induction steps generalizing start with
  | nil => simp [final, run]
  | cons s rest ih =>
    have hadded := @journal_eq provisioner start (start.step provisioner s).2 s
      (start.step provisioner s).1 rfl
    simp only [final, run, List.foldl_cons, List.flatMap_cons] at ih ⊢
    rw [ih, hadded, callsOf_append, List.append_assoc]

/-! ## Runs in two parts -/

theorem final_append (provisioner : Provisioner) (start : Bench) (a b : List Step) :
    start.final provisioner (a ++ b) = (start.final provisioner a).final provisioner b :=
  List.foldl_append

/-- The second part of a run starts where the first part stopped. -/
theorem run_append (provisioner : Provisioner) (start : Bench) (a b : List Step) :
    start.run provisioner (a ++ b) =
      start.run provisioner a ++ (start.final provisioner a).run provisioner b := by
  induction a generalizing start with
  | nil => rfl
  | cons s rest ih =>
    have hrest := ih (start.step provisioner s).2
    simp only [List.cons_append, run, hrest]
    rfl

theorem length_run (provisioner : Provisioner) (start : Bench) (steps : List Step) :
    (start.run provisioner steps).length = steps.length := by
  induction steps generalizing start with
  | nil => rfl
  | cons s rest ih => simp only [run, List.length_cons, ih]

/-! ## Volumes that a run returned -/

/-- The provision call at an index of a run returned a volume for a request. -/
def Returned (provisioner : Provisioner) (start : Bench) (steps : List Step) (i : Nat)
    (request : ProvisionRequest) (volume : PersistentVolume) (before after : Bench) : Prop :=
  ∃ slot, Took provisioner start steps i (.provision slot request) (.provisioned (.ok volume))
    before after

/-- In a run that starts with empty slots and edits no volume, what a slot holds was returned by a
provision call. -/
theorem returned_of_slot (hempty : start.slots = ∅)
    (hunedited : ∀ name key value, Step.annotate name key value ∉ steps)
    (h : Took provisioner start steps i s outcome before after) {name : String}
    {volume : PersistentVolume} (hslot : before.slots[name]? = some volume) :
    ∃ j request b a, j < i ∧ Returned provisioner start steps j request volume b a := by
  induction i generalizing s outcome before after with
  | zero =>
    rw [h.before_of_zero, hempty] at hslot
    simp at hslot
  | succ i ih =>
    rcases h.exists_pred with ⟨t, earlier, previous, hprevious⟩
    have hstep := hprevious.step
    have hearlier : previous.slots[name]? = some volume →
        ∃ j request b a, j < i + 1 ∧ Returned provisioner start steps j request volume b a := by
      intro hheld
      rcases ih hprevious hheld with ⟨j, request, b, a, hj, hreturned⟩
      exact ⟨j, request, b, a, by omega, hreturned⟩
    cases t with
    | insertSecret ref data =>
      rcases Prod.mk.inj hstep with ⟨-, rfl⟩
      exact hearlier hslot
    | script setting =>
      rcases Prod.mk.inj hstep with ⟨-, rfl⟩
      exact hearlier hslot
    | provision slot request =>
      simp only [Bench.step] at hstep
      have hslots : (previous.perform (provisioner.provision request)).2.slots = previous.slots := rfl
      rcases hdone : previous.perform (provisioner.provision request) with ⟨failure | kept, bench⟩
      · simp only [hdone, Prod.mk.injEq] at hstep hslots
        rw [← hstep.2, hslots] at hslot
        exact hearlier hslot
      · simp only [hdone, Prod.mk.injEq] at hstep hslots
        rw [← hstep.2, keep, hslots, Std.ExtTreeMap.getElem?_insert] at hslot
        split at hslot
        · -- the slot was written by this very step
          obtain rfl := Option.some.inj hslot
          refine ⟨i, request, previous, before, by omega, slot, ?_⟩
          rwa [← hstep.1] at hprevious
        · exact hearlier hslot
    | delete source =>
      rcases Prod.mk.inj hstep with ⟨-, rfl⟩
      exact hearlier hslot
    | report source =>
      rcases Prod.mk.inj hstep with ⟨-, rfl⟩
      exact hearlier hslot
    | annotate name key value =>
      exact absurd (List.mem_of_getElem? hprevious.1) (hunedited name key value)

/-- Every volume that a run tears down was returned by a provision call of the run before it. -/
def DeletesReturned (provisioner : Provisioner) (start : Bench) (steps : List Step) : Prop :=
  ∀ i source outcome before after,
    Took provisioner start steps i (.delete source) outcome before after →
    ∃ j request b a, j < i ∧ Returned provisioner start steps j request (before.volume source) b a

/-- A run that tears down what its slots hold, and edits nothing, tears down what it returned. -/
theorem deletesReturned_of_slots (hempty : start.slots = ∅)
    (hunedited : ∀ name key value, Step.annotate name key value ∉ steps)
    (hwritten : ∀ i source outcome before after,
      Took provisioner start steps i (.delete source) outcome before after →
      ∃ name, source = .slot name ∧ before.slots[name]? ≠ none) :
    DeletesReturned provisioner start steps := by
  intro i source outcome before after htook
  rcases hwritten i source outcome before after htook with ⟨name, rfl, hheld⟩
  rcases Option.ne_none_iff_exists'.mp hheld with ⟨volume, hvolume⟩
  have hsame : before.volume (.slot name) = volume := by simp [Bench.volume, slot, hvolume]
  rw [hsame]
  exact returned_of_slot hempty hunedited htook hvolume

end BucketVolume.Bench
