import BucketVolume.Proofs.Run
import BucketVolume.Proofs.Tandem

/-!
# BucketVolume.Proofs.ProcessSettings — what a process is set up with stays out of its decisions

The settings of a process are the name of its mount driver and the id of its cluster. The first goes
into the volumes that it returns, the second into three kinds of events, and neither is ever looked at.
So two processes that start from one bench and take the same steps stay side by side, although the
volumes in their slots differ and are handed back to them: a teardown does not read the driver.

* `tandem_provision`, `tandem_delete` — calls of two provisioners run in tandem;
* `Bench.step_sideBySide` — a step keeps benches side by side and shows the same on both;
* `settings_neutral` — so does a run, from any bench on.
-/

namespace BucketVolume

open Activity

/-! ## Events of two clusters -/

namespace Event

/-- The field that names the cluster. -/
def clusterField : String := "cluster_id"

/-- Two fields of one name hold the ids of two clusters if that is the name, else the same value. -/
def SameField (id id' : String) (field other : String × String) : Prop :=
  field.1 = other.1 ∧
    if field.1 = clusterField then field.2 = id ∧ other.2 = id' else field.2 = other.2

/-- Two events are the same, but for the ids of two clusters. -/
structure SameBut (id id' : String) (event other : Event) : Prop where
  level : event.level = other.level
  target : event.target = other.target
  message : event.message = other.message
  fields : List.Forall₂ (SameField id id') event.fields other.fields

/-- The events that name their cluster. -/
def namesCluster : Event → Bool
  | volumeRequested .. | volumeProvisioned .. | removalRequested .. => true
  | _ => false

variable {event : Event} {id id' : String}

/-- Fields that do not name the cluster are the same in all clusters. -/
theorem sameFields_self {fields : List (String × String)}
    (h : clusterField ∉ fields.map Prod.fst) :
    List.Forall₂ (SameField id id') fields fields := by
  rw [List.forall₂_same]
  intro field hfield
  have hname : field.1 ≠ clusterField := by
    intro hname
    exact h (hname ▸ List.mem_map_of_mem hfield)
  refine ⟨rfl, ?_⟩
  rw [if_neg hname]

/-- The events that name their cluster name it first. -/
theorem sameFields_cluster {fields : List (String × String)}
    (h : clusterField ∉ fields.map Prod.fst) :
    List.Forall₂ (SameField id id') ((clusterField, id) :: fields) ((clusterField, id') :: fields) :=
  .cons ⟨rfl, by rw [if_pos rfl]; exact ⟨rfl, rfl⟩⟩ (sameFields_self h)

/-- An event that names no cluster is the same in all of them. -/
theorem sameBut_self (h : event.namesCluster = false) : event.SameBut id id' event := by
  refine ⟨rfl, rfl, rfl, sameFields_self ?_⟩
  cases event with
  | volumeRequested | volumeProvisioned | removalRequested => cases h
  | _ => simp [fields, clusterField]

/-- What is reported of buckets names no cluster. -/
theorem namesCluster_of_target (h : event.target = .buckets) : event.namesCluster = false := by
  cases event with
  | volumeRequested | volumeProvisioned | removalRequested => cases h
  | _ => rfl

theorem sameBut_volumeRequested (claim namespaceName volume : String) :
    (volumeRequested id claim namespaceName volume).SameBut id id'
      (volumeRequested id' claim namespaceName volume) :=
  ⟨rfl, rfl, rfl, sameFields_cluster (by simp [clusterField])⟩

theorem sameBut_volumeProvisioned (claim bucket : String) :
    (volumeProvisioned id claim bucket).SameBut id id' (volumeProvisioned id' claim bucket) :=
  ⟨rfl, rfl, rfl, sameFields_cluster (by simp [clusterField])⟩

theorem sameBut_removalRequested (volume : String) :
    (removalRequested id volume).SameBut id id' (removalRequested id' volume) :=
  ⟨rfl, rfl, rfl, sameFields_cluster (by simp [clusterField])⟩

end Event

/-! ## Volumes of two drivers -/

namespace PersistentVolume

/-- The volume with another mount driver. -/
def withDriver (volume : PersistentVolume) (driver : String) : PersistentVolume :=
  { volume with flexVolume := { volume.flexVolume with driver } }

/-- Two volumes are the same, but for their mount drivers. -/
def SameButDriver (volume other : PersistentVolume) : Prop :=
  other = volume.withDriver other.flexVolume.driver

variable {volume other : PersistentVolume}

theorem SameButDriver.refl (volume : PersistentVolume) : volume.SameButDriver volume := rfl

theorem SameButDriver.name (h : volume.SameButDriver other) : volume.name = other.name := by
  rw [h]
  rfl

theorem SameButDriver.annotations (h : volume.SameButDriver other) :
    volume.annotations = other.annotations := by
  rw [h]
  rfl

/-- An edit of the annotations does not touch the driver. -/
theorem SameButDriver.edit (h : volume.SameButDriver other) (f : Annotations → Annotations) :
    SameButDriver { volume with annotations := f volume.annotations }
      { other with annotations := f other.annotations } := by
  rw [SameButDriver, ← h.annotations]
  conv_lhs => rw [h]
  rfl

end PersistentVolume

/-! ## Calls of two provisioners -/

section Calls

variable {provisioner other : Provisioner}

/-- Events of two provisioners correspond if they differ in the cluster alone. -/
abbrev Provisioner.SameEvent (provisioner other : Provisioner) : Event → Event → Prop :=
  Event.SameBut provisioner.clusterId other.clusterId

/-- The part of a workflow that is the same for all provisioners. -/
abbrev Provisioner.Shared {α : Type} (provisioner other : Provisioner)
    (x : Activity StageFailure α) : Prop :=
  Tandem (provisioner.SameEvent other) Eq x x

/-- What names no cluster, and hears of the journal through its calls alone, is shared. -/
theorem shared_of_nameless {α : Type} {x : Activity StageFailure α}
    (h : ∀ host tokens calls, ∃ result left entries, (∀ e ∈ eventsOf entries, e.namesCluster = false) ∧
      ∀ journal, callsOf journal = calls →
        x.perform host ⟨tokens, journal⟩ = (result, ⟨left, journal ++ entries⟩)) :
    provisioner.Shared other x := by
  apply tandem_self
  intro host tokens calls
  rcases h host tokens calls with ⟨result, left, entries, hnameless, hperform⟩
  exact ⟨result, left, entries, fun e he => Event.sameBut_self (hnameless e he), hperform⟩

theorem shared_prepare (request : ProvisionRequest) :
    provisioner.Shared other (ProvisionPlan.prepare request) := by
  apply shared_of_nameless
  intro host tokens calls
  refine ⟨_, _, _, ?_, fun journal _ => ProvisionPlan.perform_prepare request host tokens journal⟩
  rw [eventsOf_map_event, ProvisionPlan.stageEvents]
  rcases ProvisionPlan.resolveRequest request with cause | resolved
  · simp [Event.namesCluster]
  · simp [Event.namesCluster]

theorem shared_readyBucket (subject : String) (plan : ProvisionPlan) :
    provisioner.Shared other (Provisioner.readyBucket subject plan) := by
  apply shared_of_nameless
  intro host tokens calls
  have hfetching : ∀ e ∈ eventsOf (Provisioner.fetching subject plan), e.namesCluster = false := by
    simp [Provisioner.fetching, Event.namesCluster]
  rcases hfetched : host.credentials plan.secret plan.config.iamEndpoint with cause | credentials
  · refine ⟨.error ⟨subject, .credentialResolution, .credential cause⟩, tokens,
      Provisioner.fetching subject plan, hfetching, fun journal _ => ?_⟩
    rw [Provisioner.perform_readyBucket, hfetched]
  · rcases hserve : host.backend.serve calls plan credentials with ⟨result, entries⟩
    refine ⟨result.mapError (⟨subject, .lifecycleExecution, ·⟩), tokens,
      Provisioner.fetching subject plan ++
        .event (.lifecycleStarted subject plan.bucket.name) :: entries, ?_, fun journal hcalls => ?_⟩
    · intro event hevent
      rw [eventsOf_append, eventsOf_cons, List.mem_append, List.mem_append] at hevent
      rcases hevent with hevent | hevent | hevent
      · exact hfetching event hevent
      · obtain rfl := List.mem_singleton.mp hevent
        simp [Event.namesCluster]
      · -- a session reports of buckets only
        exact Event.namesCluster_of_target (target_of_mem_serve hserve hevent)
    · rw [Provisioner.perform_readyBucket, hfetched]
      simp only [hcalls, hserve, List.append_assoc]

theorem shared_readDescriptor (volume : PersistentVolume) :
    provisioner.Shared other volume.readDescriptor := by
  apply shared_of_nameless
  intro host tokens calls
  refine ⟨_, _, _, ?_, fun journal _ => volume.perform_readDescriptor host tokens journal⟩
  simp [Event.namesCluster]

theorem shared_ofVolume (volume : PersistentVolume) :
    provisioner.Shared other (TeardownReport.ofVolume volume) :=
  (shared_readDescriptor volume).bind fun _ _ hread => hread ▸ .pure rfl

theorem shared_deleteTarget (subject : String) (target : TeardownTarget) :
    provisioner.Shared other (Provisioner.deleteTarget subject target) := by
  apply shared_of_nameless
  intro host tokens calls
  have hunlocking : ∀ e ∈ eventsOf (Provisioner.unlocking subject target), e.namesCluster = false := by
    simp [Provisioner.unlocking, Event.namesCluster]
  rcases hfetched : host.credentials target.secret target.iamEndpoint with cause | credentials
  · refine ⟨.error ⟨subject, .credentialResolution, .credential cause⟩, tokens,
      Provisioner.unlocking subject target, hunlocking, fun journal _ => ?_⟩
    rw [Provisioner.perform_deleteTarget, hfetched]
  · rcases hconduct : host.backend.conduct calls target.calls with ⟨result, entries⟩
    refine ⟨result.mapError (⟨subject, .bucketDelete, ·⟩), tokens,
      Provisioner.unlocking subject target ++
        .event (.volumeStageStarted subject .bucketDelete) :: entries, ?_, fun journal hcalls => ?_⟩
    · intro event hevent
      rw [eventsOf_append, eventsOf_cons, List.mem_append, List.mem_append] at hevent
      rcases hevent with hevent | hevent | hevent
      · exact hunlocking event hevent
      · obtain rfl := List.mem_singleton.mp hevent
        simp [Event.namesCluster]
      · have hentries : (host.backend.conduct calls target.calls).2 = entries := by rw [hconduct]
        rw [← hentries] at hevent
        exact Event.namesCluster_of_target (Backend.target_of_mem_conduct hevent)
    · rw [Provisioner.perform_deleteTarget, hfetched]
      simp only [hcalls, hconduct, List.append_assoc]

/-- Two provisioners return volumes that are the same but for the driver, which is their own. -/
structure Provisioner.SameVolume (provisioner other : Provisioner)
    (volume volume' : PersistentVolume) : Prop where
  same : volume.SameButDriver volume'
  driver : volume.flexVolume.driver = provisioner.driverName
  driver' : volume'.flexVolume.driver = other.driverName

theorem tandem_finish (request : ProvisionRequest) (plan : ProvisionPlan) :
    Tandem (provisioner.SameEvent other) (provisioner.SameVolume other)
      (provisioner.finish request plan) (other.finish request plan) := by
  unfold Provisioner.finish
  refine .bind (.emit (Event.sameBut_self rfl)) fun _ _ _ => ?_
  refine .bind (.emit (Event.sameBut_volumeProvisioned _ _)) fun _ _ _ => ?_
  exact .pure ⟨rfl, rfl, rfl⟩

/-- Serving a claim, side by side. -/
theorem tandem_provision (request : ProvisionRequest) :
    Tandem (provisioner.SameEvent other) (provisioner.SameVolume other)
      (provisioner.provision request) (other.provision request) := by
  unfold Provisioner.provision
  refine .bind (.emit (Event.sameBut_volumeRequested _ _ _)) fun _ _ _ => ?_
  refine .bind (shared_prepare request) ?_
  rintro plan _ rfl
  cases plan.bucket.requiresSession with
  | false => exact tandem_finish request plan
  | true => exact .bind (shared_readyBucket _ plan) fun _ _ _ => tandem_finish request plan

/-- Tearing a volume down, side by side. -/
theorem tandem_delete (volume : PersistentVolume) :
    Tandem (provisioner.SameEvent other) Eq (provisioner.delete volume) (other.delete volume) := by
  unfold Provisioner.delete
  refine .bind (.emit (Event.sameBut_removalRequested _)) fun _ _ _ => ?_
  refine .bind (shared_readDescriptor volume) ?_
  rintro descriptor _ rfl
  dsimp only
  split
  · exact shared_deleteTarget volume.name descriptor.teardownTarget
  · exact .emit (Event.sameBut_self rfl)

/-- A teardown does not read the driver. -/
theorem Provisioner.delete_eq_of_sameButDriver {volume volume' : PersistentVolume}
    (h : volume.SameButDriver volume') : other.delete volume = other.delete volume' := by
  simp only [Provisioner.delete, PersistentVolume.readDescriptor, h.name, h.annotations]

theorem TeardownReport.ofVolume_eq_of_sameButDriver {volume volume' : PersistentVolume}
    (h : volume.SameButDriver volume') : ofVolume volume = ofVolume volume' := by
  simp only [ofVolume, PersistentVolume.readDescriptor, h.name, h.annotations]

end Calls

/-! ## Benches side by side -/

/-- Two outcomes of a step are the same, but for the drivers of the volumes that were provisioned. -/
inductive Outcome.SameBut (provisioner other : Provisioner) : Outcome → Outcome → Prop where
  | done : SameBut provisioner other .done .done
  | provisioned {result result' : Except StageFailure PersistentVolume}
      (related : Parallel (provisioner.SameVolume other) result result') :
      SameBut provisioner other (.provisioned result) (.provisioned result')
  | deleted (result : Except StageFailure Unit) :
      SameBut provisioner other (.deleted result) (.deleted result)
  | reported (result : Except StageFailure TeardownReport) :
      SameBut provisioner other (.reported result) (.reported result)
  | annotated (annotations : Annotations) :
      SameBut provisioner other (.annotated annotations) (.annotated annotations)

namespace Bench

/-- Two benches are the same, but for the drivers of their volumes and for the events of the past. -/
structure SideBySide (bench bench' : Bench) : Prop where
  secrets : bench.secrets = bench'.secrets
  switches : bench.switches = bench'.switches
  tokens : bench.progress.tokens = bench'.progress.tokens
  calls : callsOf bench.progress.journal = callsOf bench'.progress.journal
  slots : ∀ name, (bench.slot name).SameButDriver (bench'.slot name)

/-- A step of a run and the same step of another one: what they come to and what they do. -/
structure StepSameBut (provisioner other : Provisioner)
    (taken taken' : Outcome × Bench × Bench) : Prop where
  outcome : Outcome.SameBut provisioner other taken.1 taken'.1
  calls : callsOf (taken.2.1.added taken.2.2) = callsOf (taken'.2.1.added taken'.2.2)
  lookups : lookupsOf (taken.2.1.added taken.2.2) = lookupsOf (taken'.2.1.added taken'.2.2)
  events : List.Forall₂ (Event.SameBut provisioner.clusterId other.clusterId)
    (eventsOf (taken.2.1.added taken.2.2)) (eventsOf (taken'.2.1.added taken'.2.2))
  tokens : taken.2.2.progress.tokens = taken'.2.2.progress.tokens

theorem slot_keep (bench : Bench) (name kept : String) (volume : PersistentVolume) :
    (bench.keep kept volume).slot name = if kept = name then volume else bench.slot name := by
  simp only [slot, keep, Std.ExtTreeMap.getElem?_insert, Std.LawfulEqCmp.compare_eq_iff_eq]
  split
  · rfl
  · rfl

variable {provisioner other : Provisioner} {bench bench' : Bench}

theorem SideBySide.refl (bench : Bench) : bench.SideBySide bench :=
  ⟨rfl, rfl, rfl, rfl, fun _ => .refl _⟩

namespace SideBySide

variable (h : bench.SideBySide bench')
include h

theorem volume (source : VolumeSource) :
    (bench.volume source).SameButDriver (bench'.volume source) := by
  cases source with
  | slot name => exact h.slots name
  | given volume => exact .refl volume

theorem keep {volume volume' : PersistentVolume} (hvolume : volume.SameButDriver volume')
    (name : String) : (bench.keep name volume).SideBySide (bench'.keep name volume') := by
  refine ⟨h.secrets, h.switches, h.tokens, h.calls, ?_⟩
  intro slot
  rw [slot_keep, slot_keep]
  by_cases hname : name = slot
  · rw [if_pos hname, if_pos hname]
    exact hvolume
  · rw [if_neg hname, if_neg hname]
    exact h.slots slot

/-- Calls that run in tandem come to results that correspond and leave benches side by side. -/
theorem perform {α β : Type} {R : α → β → Prop} {x : Activity StageFailure α}
    {y : Activity StageFailure β} (hxy : Tandem (provisioner.SameEvent other) R x y) :
    Parallel R (bench.perform x).1 (bench'.perform y).1 ∧
      (bench.perform x).2.SideBySide (bench'.perform y).2 ∧
      List.Forall₂ (Entry.Match (provisioner.SameEvent other))
        (bench.added (bench.perform x).2) (bench'.added (bench'.perform y).2) := by
  have hhost : bench.host = bench'.host := by rw [host, host, h.secrets, h.switches]
  rcases hxy bench.host bench.progress.tokens bench.progress.journal bench'.progress.journal h.calls with
    ⟨result, result', left, entries, entries', hx, hy, hresult, hentries⟩
  have hy' : y.perform bench'.host bench'.progress =
      (result', ⟨left, bench'.progress.journal ++ entries'⟩) := by
    rw [← hhost, ← hy, h.tokens]
  have hadded : bench.added (bench.perform x).2 = entries :=
    added_of_append (by simp only [Bench.perform, hx])
  have hadded' : bench'.added (bench'.perform y).2 = entries' :=
    added_of_append (by simp only [Bench.perform, hy'])
  rw [hadded, hadded']
  simp only [Bench.perform, hx, hy']
  refine ⟨hresult, ⟨h.secrets, h.switches, rfl, ?_, h.slots⟩, hentries⟩
  rw [callsOf_append, callsOf_append, h.calls, callsOf_match hentries]

end SideBySide

variable {outcome outcome' : Outcome} {after after' : Bench}

/-- A step does the same on both benches if what it adds to their journals matches. -/
theorem StepSameBut.of_sideBySide (houtcome : Outcome.SameBut provisioner other outcome outcome')
    (hafter : after.SideBySide after')
    (hadded : List.Forall₂ (Entry.Match (provisioner.SameEvent other)) (bench.added after)
      (bench'.added after')) :
    StepSameBut provisioner other (outcome, bench, after) (outcome', bench', after') := by
  constructor
  case outcome => exact houtcome
  case calls => exact callsOf_match hadded
  case lookups => exact lookupsOf_match hadded
  case events => exact eventsOf_match hadded
  case tokens => exact hafter.tokens

/-- A step that writes nothing down does the same on both benches. -/
theorem StepSameBut.of_quiet (houtcome : Outcome.SameBut provisioner other outcome outcome')
    (hafter : after.SideBySide after') (hquiet : after.progress = bench.progress)
    (hquiet' : after'.progress = bench'.progress) :
    StepSameBut provisioner other (outcome, bench, after) (outcome', bench', after') := by
  have hadded : bench.added after = [] := added_of_append (by rw [hquiet, List.append_nil])
  have hadded' : bench'.added after' = [] := added_of_append (by rw [hquiet', List.append_nil])
  refine .of_sideBySide houtcome hafter ?_
  rw [hadded, hadded']
  exact .nil

/-- A step is the same for two provisioners on benches side by side, and leaves them so. -/
theorem step_sideBySide (h : bench.SideBySide bench') (s : Step) :
    StepSameBut provisioner other
        ((bench.step provisioner s).1, bench, (bench.step provisioner s).2)
        ((bench'.step other s).1, bench', (bench'.step other s).2) ∧
      (bench.step provisioner s).2.SideBySide (bench'.step other s).2 := by
  cases s with
  | insertSecret ref data =>
    have hafter : (bench.step provisioner (.insertSecret ref data)).2.SideBySide
        (bench'.step other (.insertSecret ref data)).2 :=
      ⟨congrArg (·.insert ref data) h.secrets, h.switches, h.tokens, h.calls, h.slots⟩
    exact ⟨.of_quiet .done hafter rfl rfl, hafter⟩
  | script setting =>
    have hafter : (bench.step provisioner (.script setting)).2.SideBySide
        (bench'.step other (.script setting)).2 :=
      ⟨h.secrets, congrArg (·.set setting) h.switches, h.tokens, h.calls, h.slots⟩
    exact ⟨.of_quiet .done hafter rfl rfl, hafter⟩
  | provision name request =>
    have htandem : Tandem (provisioner.SameEvent other) (provisioner.SameVolume other)
        (provisioner.provision request) (other.provision request) := tandem_provision request
    rcases h.perform htandem with ⟨hresult, hafter, hadded⟩
    simp only [Bench.step]
    rcases hdone : bench.perform (provisioner.provision request) with ⟨result, after⟩
    rcases hdone' : bench'.perform (other.provision request) with ⟨result', after'⟩
    rw [hdone, hdone'] at hresult hafter hadded
    cases hresult with
    | failed failure => exact ⟨.of_sideBySide (.provisioned (.failed failure)) hafter hadded, hafter⟩
    | done related =>
      -- the slot gets two volumes that differ in their drivers
      have hkept := hafter.keep related.same name
      exact ⟨.of_sideBySide (.provisioned (.done related)) hkept hadded, hkept⟩
  | delete source =>
    -- the two volumes may differ in their drivers, which a teardown does not read
    have htandem : Tandem (provisioner.SameEvent other) Eq
        (provisioner.delete (bench.volume source)) (other.delete (bench'.volume source)) := by
      rw [← Provisioner.delete_eq_of_sameButDriver (h.volume source)]
      exact tandem_delete _
    rcases h.perform htandem with ⟨hresult, hafter, hadded⟩
    simp only [Bench.step, hresult.eq]
    exact ⟨.of_sideBySide (.deleted _) hafter hadded, hafter⟩
  | report source =>
    have htandem : Tandem (provisioner.SameEvent other) Eq
        (TeardownReport.ofVolume (bench.volume source))
        (TeardownReport.ofVolume (bench'.volume source)) := by
      rw [← TeardownReport.ofVolume_eq_of_sameButDriver (h.volume source)]
      exact shared_ofVolume _
    rcases h.perform htandem with ⟨hresult, hafter, hadded⟩
    simp only [Bench.step, hresult.eq]
    exact ⟨.of_sideBySide (.reported _) hafter hadded, hafter⟩
  | annotate name key value =>
    have hafter : (bench.annotate name key value).SideBySide (bench'.annotate name key value) := by
      cases value with
      | some text => exact h.keep ((h.slots name).edit (·.insert key text)) name
      | none => exact h.keep ((h.slots name).edit (·.erase key)) name
    simp only [Bench.step, (hafter.slots name).annotations]
    exact ⟨.of_quiet (.annotated _) hafter rfl rfl, hafter⟩

/-- Runs of the same steps by two provisioners are the same, step by step. -/
theorem run_sideBySide (h : bench.SideBySide bench') (steps : List Step) :
    List.Forall₂ (StepSameBut provisioner other) (bench.run provisioner steps)
      (bench'.run other steps) := by
  induction steps generalizing bench bench' with
  | nil => exact .nil
  | cons s rest ih =>
    rcases step_sideBySide h s with ⟨hstep, hafter⟩
    exact .cons hstep (ih hafter)

end Bench

/-! ## Two processes -/

/-- The cluster id of a process: its own if it has one, else that of its surroundings, else none. -/
structure Settings.Identifies (settings : Settings) (env : Environment) (id : String) : Prop where
  own : ∀ value, settings.clusterId = some value → id = value
  inherited : settings.clusterId = none → ∀ value, env.lookup "CLUSTER_ID" = some value → id = value
  unknown : settings.clusterId = none → env.lookup "CLUSTER_ID" = none → id = ""

theorem Settings.identifies_ofSettings (settings : Settings) (env : Environment) :
    settings.Identifies env (Provisioner.ofSettings settings env).clusterId := by
  unfold Provisioner.ofSettings effectiveClusterId
  constructor
  case own =>
    intro value hown
    rw [hown, Option.getD_some]
  case inherited =>
    intro hnone value hvalue
    rw [hnone, hvalue, Option.getD_none, Option.getD_some]
  case unknown =>
    intro hnone hunset
    rw [hnone, hunset, Option.getD_none, Option.getD_none]

/-- Two processes take the same course through the same steps. Where they show what they are set up
with, each of them shows its own driver and its own cluster. -/
structure SettingsNeutral (settings settings' : Settings) (env env' : Environment) (start : Bench)
    (steps : List Step) : Prop where
  course : List.Forall₂
    (Bench.StepSameBut (Provisioner.ofSettings settings env) (Provisioner.ofSettings settings' env'))
    (start.run (Provisioner.ofSettings settings env) steps)
    (start.run (Provisioner.ofSettings settings' env') steps)
  driver : (Provisioner.ofSettings settings env).driverName = settings.driverName
  driver' : (Provisioner.ofSettings settings' env').driverName = settings'.driverName
  cluster : settings.Identifies env (Provisioner.ofSettings settings env).clusterId
  cluster' : settings'.Identifies env' (Provisioner.ofSettings settings' env').clusterId

/-- Settings stay out of the decisions of every run, whatever bench it starts from. -/
theorem settings_neutral (settings settings' : Settings) (env env' : Environment) (start : Bench)
    (steps : List Step) : SettingsNeutral settings settings' env env' start steps := by
  constructor
  case course => exact Bench.run_sideBySide (.refl start) steps
  case driver => rfl
  case driver' => rfl
  case cluster => exact settings.identifies_ofSettings env
  case cluster' => exact settings'.identifies_ofSettings env'

end BucketVolume
