import BucketVolume.Backend
import BucketVolume.Event
import BucketVolume.Secret
import BucketVolume.Token

/-!
# BucketVolume.Activity — computations that talk to their surroundings

A call sees a `Host`, which looks up secrets and answers session calls, and it changes `Progress`:
the tokens that are left, and a journal to which every event, look-up and call is added in the order
in which it happens. It ends with a value or a failure; what it did before it failed stays.
-/

namespace BucketVolume

/-- What a call can ask of the outside. -/
structure Host where
  secret : SecretRef → Except String SecretData
  backend : Backend

/-- One thing that happened. -/
inductive Entry where
  | event (event : Event)
  | lookup (ref : SecretRef)
  | call (call : Call)
deriving DecidableEq, Repr

/-- What calls leave behind. -/
structure Progress where
  tokens : TokenSource
  journal : List Entry := []

/-! ## Views of a journal -/

namespace Entry

def event? : Entry → Option Event
  | event e => some e
  | _ => none

def lookup? : Entry → Option SecretRef
  | lookup ref => some ref
  | _ => none

def call? : Entry → Option Call
  | call c => some c
  | _ => none

end Entry

/-- The events of a journal. -/
def eventsOf (journal : List Entry) : List Event :=
  journal.filterMap Entry.event?

/-- The secret look-ups of a journal. -/
def lookupsOf (journal : List Entry) : List SecretRef :=
  journal.filterMap Entry.lookup?

/-- The session calls of a journal. -/
def callsOf (journal : List Entry) : List Call :=
  journal.filterMap Entry.call?

/-! ## Activities -/

/-- A computation that asks its host, changes the progress and may fail. -/
abbrev Activity (ε α : Type) := ReaderT Host (ExceptT ε (StateM Progress)) α

namespace Activity

variable {ε ε' α : Type}

/-- Runs an activity. -/
def perform (activity : Activity ε α) (host : Host) (progress : Progress) :
    Except ε α × Progress :=
  (activity host).run.run progress

/-- Adds an entry to the journal. -/
def record (entry : Entry) : Activity ε Unit :=
  modify fun progress => { progress with journal := progress.journal ++ [entry] }

/-- Reports an event. -/
def emit (event : Event) : Activity ε Unit :=
  record (.event event)

/-- Takes a decided outcome as an activity. -/
def settle (outcome : Except ε α) : Activity ε α :=
  fun _ => ExceptT.mk (pure outcome)

/-- Rewords the failure of an activity. -/
def mapFailure (f : ε → ε') (activity : Activity ε α) : Activity ε' α :=
  fun host => (activity host).adapt f

/-- Looks up a secret. -/
def lookUp (ref : SecretRef) : Activity ε (Except String SecretData) := do
  record (.lookup ref)
  return (← read).secret ref

/-- Makes a session call and hears its answer, which may depend on the calls made before it. -/
def ask {β : Type} (call : Call) (answer : Backend → List Call → β) : Activity ε β := do
  let earlier := callsOf (← get).journal
  record (.call call)
  return answer (← read).backend earlier

/-- Draws a token. -/
def drawToken : Activity ε (Except TokenFailure String) :=
  modifyGet fun progress =>
    ((progress.tokens.draw).1, { progress with tokens := (progress.tokens.draw).2 })

/-- Names the stage, and whose call it is, in the failure of an activity. -/
def atStage (subject : String) (stage : Stage) (activity : Activity Failure α) :
    Activity StageFailure α :=
  activity.mapFailure fun cause => ⟨subject, stage, cause⟩

end Activity

end BucketVolume
