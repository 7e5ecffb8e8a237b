import BucketVolume.Proofs.DeletionSafety
import BucketVolume.Proofs.Isolation

/-!
# BucketVolume.Proofs.Interference — calls do not get in each other's way

Steps share secrets, switches, tokens and a backend, and a call may stop half-way. Still a call leaves
nothing behind that another one reads, but for the volume in its slot and the token that it draws. So a
run shows the same with other calls put in between (`Placed`), as long as they draw no token and keep
their volumes elsewhere, and two calls in a row that are apart can change places.

* `toldOwn_eq` — a run with bystanders, by induction on the places of its steps;
* `exchange` — two calls that are apart, on one bench;
* `NoInterference` — both, for whole runs.
-/

namespace BucketVolume

/-! ## Runs with calls put in between -/

/-- A place in a run: for a step of its own, or for one that is put in between. -/
inductive Placed where
  | own (s : Step)
  | extra (s : Step)

namespace Placed

/-- The step that is taken at a place. -/
def step : Placed → Step
  | own s | extra s => s

/-- The step at a place, if it is the run's own. -/
def own? : Placed → Option Step
  | own s => some s
  | extra _ => none

end Placed

/-- The steps of a run without those put in between. -/
def ownSteps (placed : List Placed) : List Step :=
  placed.filterMap Placed.own?

namespace Step

/-- A call that draws no token and keeps no volume in certain slots. -/
def Bystander (names : String → Prop) : Step → Prop
  | .provision name request => request.drawsToken = false ∧ ¬ names name
  | .delete _ | .report _ => True
  | .insertSecret .. | .script _ | .annotate .. => False

namespace Bystander

variable {names : String → Prop} {s : Step} (h : s.Bystander names)
include h

theorem isCall : s.IsCall := by
  cases s with
  | insertSecret | script | annotate => exact h
  | provision | delete | report => trivial

theorem tokensAfter (tokens : TokenSource) : s.tokensAfter tokens = tokens := by
  have hdraws : s.drawsToken = false := by
    cases s with
    | provision name request => exact h.1
    | insertSecret | script | annotate | delete | report => rfl
  rw [Step.tokensAfter, hdraws]
  rfl

end Bystander

/-- Two calls touch no slot in common, and at most one of them draws a token. -/
structure Apart (s t : Step) : Prop where
  first : s.IsCall
  second : t.IsCall
  slots : ∀ name ∈ s.slots, name ∉ t.slots
  tokens : ¬ (s.drawsToken = true ∧ t.drawsToken = true)

theorem Apart.symm {s t : Step} (h : s.Apart t) : t.Apart s :=
  ⟨h.second, h.first, fun name ht hs => h.slots name hs ht, fun hboth => h.tokens hboth.symm⟩

/-- A call leaves the tokens alone for a call that draws one. -/
theorem Apart.tokensAfter {s t : Step} (h : s.Apart t) (ht : t.drawsToken = true)
    (tokens : TokenSource) : s.tokensAfter tokens = tokens := by
  have hs : ¬ s.drawsToken = true := fun hs => h.tokens ⟨hs, ht⟩
  rw [Step.tokensAfter, if_neg hs]

end Step

namespace Bench

variable {provisioner : Provisioner} {bench other : Bench} {names : String → Prop} {s t : Step}

/-- What the own steps of a run show when others are put in between. -/
def toldOwn (provisioner : Provisioner) (start : Bench) (placed : List Placed) :
    List (Outcome × List Entry) :=
  (placed.zip (start.run provisioner (placed.map Placed.step))).filterMap fun (place, taken) =>
    place.own?.map fun _ => told taken

/-- A bystander leaves a bench in step with another one. -/
theorem InStep.bystander (provisioner : Provisioner) (h : bench.InStep names other)
    (hs : s.Bystander names) : (bench.step provisioner s).2.InStep names other := by
  rcases exists_effect provisioner bench hs.isCall with ⟨effect, heffect⟩
  rw [heffect.here, hs.tokensAfter]
  have hagree : bench.AgreeOn names (bench.advance effect bench.progress.tokens) := by
    apply agreeOn_advance
    intro name volume hvolume
    rcases heffect.kept name volume hvolume with ⟨request, rfl⟩
    exact hs.2
  refine ⟨⟨h.secrets, h.switches, ?_⟩, h.tokens⟩
  intro name hname
  exact (hagree.slots name hname).symm.trans (h.slots name hname)

/-- The own steps of a run show what they show without bystanders. -/
theorem toldOwn_eq {placed : List Placed} (h : bench.InStep names other)
    (hown : ∀ s ∈ ownSteps placed, ∀ name ∈ s.reads, names name)
    (hextra : ∀ s, .extra s ∈ placed → s.Bystander names) :
    toldOwn provisioner bench placed = (other.run provisioner (ownSteps placed)).map told ∧
      (bench.final provisioner (placed.map Placed.step)).InStep names
        (other.final provisioner (ownSteps placed)) := by
  -- own steps are taken on both benches, bystanders on the first one only
  induction placed generalizing bench other with
  | nil => exact ⟨rfl, h⟩
  | cons place rest ih =>
    have hextra' : ∀ s, .extra s ∈ rest → s.Bystander names :=
      fun s hs => hextra s (List.mem_cons_of_mem _ hs)
    cases place with
    | own s =>
      have hsteps : ownSteps (.own s :: rest) = s :: ownSteps rest := rfl
      rw [hsteps, List.forall_mem_cons] at hown
      rcases h.step provisioner hown.1 with ⟨htold, hafter⟩
      rcases ih hafter hown.2 hextra' with ⟨hrest, hfinal⟩
      refine ⟨?_, hfinal⟩
      rw [hsteps]
      simp only [Bench.run, List.map_cons]
      rw [← hrest, ← htold]
      rfl
    | extra s =>
      have hafter := h.bystander provisioner (hextra s List.mem_cons_self)
      exact ih hafter hown hextra'

/-! ## Calls that change places -/

variable {effectS effectT : Effect}

/-- A call that keeps a volume in a slot touches that slot. -/
theorem HasEffect.mem_slots (h : HasEffect provisioner bench s effectS) {name : String}
    {volume : PersistentVolume} (hkept : effectS.kept = some (name, volume)) : name ∈ s.slots := by
  rcases h.kept name volume hkept with ⟨request, rfl⟩
  exact List.mem_singleton_self name

/-- A call has the effect that it has on a bench also once another one, apart from it, was made. -/
theorem HasEffect.later (hs : HasEffect provisioner bench s effectS)
    (ht : HasEffect provisioner bench t effectT) (h : s.Apart t) :
    (bench.step provisioner s).2.step provisioner t =
      (effectT.outcome, (bench.step provisioner s).2.advance effectT
        (t.tokensAfter (s.tokensAfter bench.progress.tokens))) := by
  rw [hs.here]
  apply ht.there
  · apply agreeOn_advance
    intro name volume hkept hread
    exact h.slots name (hs.mem_slots hkept) (Step.mem_slots_of_mem_reads hread)
  · intro hdraws
    exact h.tokensAfter hdraws _

/-- Two calls that are apart take the same tokens in either order. -/
theorem tokensAfter_comm (h : s.Apart t) (tokens : TokenSource) :
    s.tokensAfter (t.tokensAfter tokens) = t.tokensAfter (s.tokensAfter tokens) := by
  by_cases ht : t.drawsToken = true
  · rw [h.tokensAfter ht, h.tokensAfter ht]
  · have hkeeps : ∀ tokens, t.tokensAfter tokens = tokens := by
      intro tokens
      rw [Step.tokensAfter, if_neg ht]
    rw [hkeeps, hkeeps]

/-- Two calls that are apart keep the same volumes in either order. -/
theorem slots_comm (hs : HasEffect provisioner bench s effectS)
    (ht : HasEffect provisioner bench t effectT) (h : s.Apart t) (a b c d : TokenSource)
    (name : String) :
    ((bench.advance effectS a).advance effectT b).slots[name]? =
      ((bench.advance effectT c).advance effectS d).slots[name]? := by
  simp only [advance]
  rcases hkeptS : effectS.kept with _ | ⟨x, volume⟩
  · rfl
  rcases hkeptT : effectT.kept with _ | ⟨y, volume'⟩
  · rfl
  -- both keep a volume, but not in the same slot
  have hne : x ≠ y := by
    rintro rfl
    exact h.slots x (hs.mem_slots hkeptS) (ht.mem_slots hkeptT)
  simp only [Std.ExtTreeMap.getElem?_insert, Std.LawfulEqCmp.compare_eq_iff_eq]
  by_cases hx : x = name
  · have hy : y ≠ name := fun hy => hne (hx.trans hy.symm)
    simp only [hx, hy, if_true, if_false]
  · simp only [hx, if_false]

/-- Two calls that are apart come to the same in either order, and leave the bench the same but for the
order of its journal. -/
theorem exchange (provisioner : Provisioner) (bench : Bench) (h : s.Apart t) :
    ∃ x y,
      (bench.run provisioner [s, t]).map told = [x, y] ∧
      (bench.run provisioner [t, s]).map told = [y, x] ∧
      (bench.final provisioner [s, t]).InStep (fun _ => True) (bench.final provisioner [t, s]) := by
  rcases exists_effect provisioner bench h.first with ⟨effectS, hs⟩
  rcases exists_effect provisioner bench h.second with ⟨effectT, ht⟩
  -- each call has its effect before the other one and after it
  have hst := hs.later ht h
  have hts := ht.later hs h.symm
  rw [hs.here] at hst
  rw [ht.here] at hts
  refine ⟨(effectS.outcome, effectS.entries), (effectT.outcome, effectT.entries), ?_, ?_, ?_⟩
  · simp only [Bench.run, hs.here, hst, List.map_cons, List.map_nil, told_advance]
  · simp only [Bench.run, ht.here, hts, List.map_cons, List.map_nil, told_advance]
  · -- only the journals tell the order
    simp only [final, List.foldl_cons, List.foldl_nil, hs.here, ht.here, hst, hts]
    refine ⟨⟨rfl, rfl, ?_⟩, tokensAfter_comm h _⟩
    intro name _
    exact slots_comm hs ht h _ _ _ _ name

end Bench

/-! ## Whole runs -/

/-- Calls do not get in each other's way. -/
structure NoInterference (provisioner : Provisioner) (start : Bench) : Prop where
  inserted : ∀ placed : List Placed,
    (∀ s, .extra s ∈ placed →
      s.Bystander fun name => ∃ own ∈ ownSteps placed, name ∈ own.slots) →
    start.toldOwn provisioner placed =
      (start.run provisioner (ownSteps placed)).map Bench.told ∧
    (start.final provisioner (placed.map Placed.step)).progress.tokens =
      (start.final provisioner (ownSteps placed)).progress.tokens
  exchanged : ∀ earlier s t later, s.Apart t →
    ∃ first x y rest, first.length = earlier.length ∧
      (start.run provisioner (earlier ++ s :: t :: later)).map Bench.told =
        first ++ x :: y :: rest ∧
      (start.run provisioner (earlier ++ t :: s :: later)).map Bench.told =
        first ++ y :: x :: rest ∧
      (start.final provisioner (earlier ++ s :: t :: later)).progress.tokens =
        (start.final provisioner (earlier ++ t :: s :: later)).progress.tokens

/-- Calls put in between change nothing in the steps of a run, and calls that are apart can change
places. -/
theorem no_interference (provisioner : Provisioner) (start : Bench) :
    NoInterference provisioner start := by
  constructor
  case inserted =>
    intro placed hextra
    have hown : ∀ s ∈ ownSteps placed, ∀ name ∈ s.reads,
        ∃ own ∈ ownSteps placed, name ∈ own.slots := by
      intro s hs name hread
      exact ⟨s, hs, Step.mem_slots_of_mem_reads hread⟩
    rcases Bench.toldOwn_eq (.refl _ start) hown hextra with ⟨htold, hfinal⟩
    exact ⟨htold, hfinal.tokens.symm⟩
  case exchanged =>
    intro earlier s t later h
    rcases Bench.exchange provisioner (start.final provisioner earlier) h with
      ⟨x, y, hst, hts, hfinal⟩
    -- what comes after the two calls starts on benches that differ in their journals only
    have hafter := hfinal.run provisioner later fun _ _ _ _ => trivial
    have hsplit : ∀ a b : Step, earlier ++ a :: b :: later = earlier ++ ([a, b] ++ later) :=
      fun _ _ => rfl
    refine ⟨(start.run provisioner earlier).map Bench.told, x, y,
      (((start.final provisioner earlier).final provisioner [s, t]).run provisioner later).map
        Bench.told, ?_, ?_, ?_, ?_⟩
    · rw [List.length_map, Bench.length_run]
    · rw [hsplit, Bench.run_append, Bench.run_append, List.map_append, List.map_append, hst]
      rfl
    · rw [hsplit, Bench.run_append, Bench.run_append, List.map_append, List.map_append, hts,
        ← hafter.1]
      rfl
    · rw [hsplit, hsplit, Bench.final_append, Bench.final_append, Bench.final_append,
        Bench.final_append]
      exact hafter.2.tokens.symm

/-! ### A run with calls in between -/

/-- A claim to a bucket that is there already, and is not checked. -/
def lentRequest : ProvisionRequest where
  volumeName := "aside"
  claimName := "guest"
  claimAnnotations := .ofList [
    (Key.bucket, "lent"), (Key.validateBucket, "no"),
    (Key.endpoint, "https://s3.test"), (Key.iamEndpoint, "https://iam.test")]

/-- A run that provisions a volume and tears it down, with calls about other volumes in between. -/
def crowdedSteps : List Placed := [
  .own (.insertSecret ⟨"secret", "default"⟩ (.ofTexts [("access-key", "a"), ("secret-key", "s")])),
  .extra (.delete (.given {})),
  .own (.provision "kept" sampleRequest),
  .extra (.provision "aside" lentRequest),
  .extra (.report (.slot "kept")),
  .own (.delete (.slot "kept"))]

theorem no_interference_crowded :
    (∀ s, .extra s ∈ crowdedSteps →
      s.Bystander fun name => ∃ own ∈ ownSteps crowdedSteps, name ∈ own.slots) ∧
    (Step.provision "kept" sampleRequest).Apart (.provision "aside" lentRequest) ∧
    (Bench.start ["token"]).toldOwn ⟨"driver", "cluster"⟩ crowdedSteps =
      ((Bench.start ["token"]).run ⟨"driver", "cluster"⟩ sampleSteps).map Bench.told := by
  have hdraws : lentRequest.drawsToken = false := by decide +kernel
  have hextra : ∀ s, .extra s ∈ crowdedSteps →
      s.Bystander fun name => ∃ own ∈ ownSteps crowdedSteps, name ∈ own.slots := by
    intro s hs
    simp only [crowdedSteps, List.mem_cons, Placed.extra.injEq, reduceCtorEq, false_or,
      List.not_mem_nil, or_false] at hs
    rcases hs with rfl | rfl | rfl
    · trivial
    · refine ⟨hdraws, ?_⟩
      simp [crowdedSteps, ownSteps, Placed.own?, Step.slots, Step.reads, VolumeSource.slots]
    · trivial
  have hapart : (Step.provision "kept" sampleRequest).Apart (.provision "aside" lentRequest) := by
    refine ⟨trivial, trivial, by simp [Step.slots], ?_⟩
    rintro ⟨-, hboth⟩
    rw [Step.drawsToken, hdraws] at hboth
    cases hboth
  have hinserted := (no_interference ⟨"driver", "cluster"⟩ (.start ["token"])).inserted _ hextra
  exact ⟨hextra, hapart, hinserted.1⟩

end BucketVolume
