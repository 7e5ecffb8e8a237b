import BucketVolume.Provisioner

/-!
# BucketVolume.Bench — runs of one provisioner over a scripted host

A `Bench` holds everything that steps can change: secrets, switches, tokens, the journal, and volumes
kept under slot names. `Bench.step` takes one step and tells its outcome; a slot that was never
written holds the empty volume.
-/

namespace BucketVolume

/-- A scripted host with the volumes that it keeps. -/
structure Bench where
  secrets : SecretStore := {}
  switches : Switches := {}
  progress : Progress
  slots : Std.ExtTreeMap String PersistentVolume := ∅

/-- A volume given by its slot or by itself. -/
inductive VolumeSource where
  | slot (name : String)
  | given (volume : PersistentVolume)

/-- One step of a run. -/
inductive Step where
  | insertSecret (ref : SecretRef) (data : SecretData)
  | script (setting : Setting)
  | provision (slot : String) (request : ProvisionRequest)
  | delete (source : VolumeSource)
  | report (source : VolumeSource)
  | annotate (slot key : String) (value : Option String)

/-- What a step comes to. -/
inductive Outcome where
  | done
  | provisioned (result : Except StageFailure PersistentVolume)
  | deleted (result : Except StageFailure Unit)
  | reported (result : Except StageFailure TeardownReport)
  | annotated (annotations : Annotations)

namespace Bench

/-- A bench that has seen nothing yet. -/
def start (tokens : List String) : Bench where
  progress := { tokens := { remaining := tokens } }

/-- The host that calls see. -/
def host (bench : Bench) : Host where
  secret := bench.secrets.get
  backend := bench.switches.backend

/-- The volume kept in a slot. -/
def slot (bench : Bench) (name : String) : PersistentVolume :=
  bench.slots[name]?.getD {}

/-- The volume that a step speaks of. -/
def volume (bench : Bench) : VolumeSource → PersistentVolume
  | .slot name => bench.slot name
  | .given volume => volume

/-- Runs an activity on the bench. -/
def perform {α : Type} (bench : Bench) (activity : Activity StageFailure α) :
    Except StageFailure α × Bench :=
  let (result, progress) := activity.perform bench.host bench.progress
  (result, { bench with progress := progress })

/-- Keeps a volume in a slot. -/
def keep (bench : Bench) (name : String) (volume : PersistentVolume) : Bench :=
  { bench with slots := bench.slots.insert name volume }

/-- Sets or removes an annotation of the volume in a slot. -/
def annotate (bench : Bench) (name key : String) (value : Option String) : Bench :=
  let volume := bench.slot name
  bench.keep name { volume with annotations := match value with
    | some text => volume.annotations.insert key text
    | none => volume.annotations.erase key }

/-- Takes one step. -/
def step (provisioner : Provisioner) (bench : Bench) : Step → Outcome × Bench
  | .insertSecret ref data => (.done, { bench with secrets := bench.secrets.insert ref data })
  | .script setting => (.done, { bench with switches := bench.switches.set setting })
  | .provision name request =>
    match bench.perform (provisioner.provision request) with
    | (.ok volume, after) => (.provisioned (.ok volume), after.keep name volume)
    | (.error failure, after) => (.provisioned (.error failure), after)
  | .delete source =>
    let (result, after) := bench.perform (provisioner.delete (bench.volume source))
    (.deleted result, after)
  | .report source =>
    let (result, after) := bench.perform (TeardownReport.ofVolume (bench.volume source))
    (.reported result, after)
  | .annotate name key value =>
    let after := bench.annotate name key value
    (.annotated (after.slot name).annotations, after)

/-- The journal entries that a step added. -/
def added (before after : Bench) : List Entry :=
  after.progress.journal.drop before.progress.journal.length

/-- Takes steps one after the other and tells, for each, its outcome and the bench before and after
it. -/
def run (provisioner : Provisioner) (bench : Bench) : List Step → List (Outcome × Bench × Bench)
  | [] => []
  | s :: rest =>
    let (outcome, after) := bench.step provisioner s
    (outcome, bench, after) :: run provisioner after rest

end Bench

end BucketVolume
