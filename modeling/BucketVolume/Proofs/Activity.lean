import BucketVolume.Bench

/-!
# BucketVolume.Proofs.Activity — what performing an activity comes to

Every activity ends with a result, leaves some tokens, and adds to the journal; nothing else of it
can be seen. This module says so combinator by combinator, in equations from which the modules on
provisioning and teardown compute what whole calls leave behind:

* `perform_bind` — a failure ends a sequence, and what was recorded before it stays;
* `callsOf_append`, `lookupsOf_append`, `eventsOf_append` — the views of a journal go part by part;
* `observe_eq` — what a bench shows of one call, read off its result and its new entries.
-/

namespace BucketVolume

open Activity

/-! ## Decided outcomes -/

section Decided

variable {ε ε' α β : Type} (f : ε → ε')

@[simp] theorem mapError_error (e : ε) : (.error e : Except ε α).mapError f = .error (f e) := rfl

@[simp] theorem mapError_ok (a : α) : (.ok a : Except ε α).mapError f = .ok a := rfl

/-- A sequence that succeeds has parts that do. -/
theorem exists_of_bind_ok {x : Except ε α} {g : α → Except ε β} {b : β}
    (h : (x >>= g) = .ok b) : ∃ a, x = .ok a ∧ g a = .ok b := by
  cases x with
  | error e => cases h
  | ok a => exact ⟨a, rfl, h⟩

theorem exists_of_isOk {x : Except ε α} (h : x.isOk = true) : ∃ a, x = .ok a := by
  cases x with
  | error e => cases h
  | ok a => exact ⟨a, rfl⟩

theorem exists_of_map_ok {x : Except ε α} {g : α → β} {b : β} (h : x.map g = .ok b) :
    ∃ a, x = .ok a ∧ g a = b := by
  cases x with
  | error e => cases h
  | ok a => exact ⟨a, rfl, Except.ok.inj h⟩

theorem ok_of_mapError_ok {x : Except ε α} {a : α} (h : x.mapError f = .ok a) : x = .ok a := by
  cases x with
  | error e => cases h
  | ok b => exact congrArg Except.ok (Except.ok.inj h)

end Decided

/-! ## Performing, one combinator at a time -/

namespace Activity

variable {ε ε' α β : Type} (host : Host) (progress : Progress)
variable (tokens : TokenSource) (journal : List Entry)

@[simp] theorem perform_pure (a : α) :
    (pure a : Activity ε α).perform host progress = (.ok a, progress) := rfl

@[simp] theorem perform_throw (e : ε) :
    (throw e : Activity ε α).perform host progress = (.error e, progress) := rfl

/-- A sequence goes on from where its first part stopped, unless that part failed. -/
theorem perform_bind (x : Activity ε α) (f : α → Activity ε β) :
    (x >>= f).perform host progress =
      match x.perform host progress with
      | (.ok a, next) => (f a).perform host next
      | (.error e, next) => (.error e, next) := by
  unfold perform
  simp only [bind, ReaderT.bind, ExceptT.bind, ExceptT.mk, ExceptT.run, StateT.bind, StateT.run]
  -- what follows is chosen by the result of the first part alone
  generalize x host progress = performed
  rcases performed with ⟨_ | _, next⟩
  · rfl
  · rfl

@[simp] theorem perform_record (entry : Entry) :
    (record entry : Activity ε Unit).perform host ⟨tokens, journal⟩ =
      (.ok (), ⟨tokens, journal ++ [entry]⟩) := rfl

@[simp] theorem perform_emit (event : Event) :
    (emit event : Activity ε Unit).perform host ⟨tokens, journal⟩ =
      (.ok (), ⟨tokens, journal ++ [.event event]⟩) := rfl

@[simp] theorem perform_settle (outcome : Except ε α) :
    (settle outcome).perform host progress = (outcome, progress) := rfl

/-- Rewording a failure changes nothing else. -/
@[simp] theorem perform_mapFailure (f : ε → ε') (x : Activity ε α) :
    (x.mapFailure f).perform host progress =
      ((x.perform host progress).1.mapError f, (x.perform host progress).2) := rfl

@[simp] theorem perform_atStage (subject : String) (stage : Stage) (x : Activity Failure α) :
    (atStage subject stage x).perform host progress =
      ((x.perform host progress).1.mapError (fun cause => ⟨subject, stage, cause⟩),
        (x.perform host progress).2) := rfl

@[simp] theorem perform_lookUp (ref : SecretRef) :
    (lookUp ref : Activity ε (Except String SecretData)).perform host ⟨tokens, journal⟩ =
      (.ok (host.secret ref), ⟨tokens, journal ++ [.lookup ref]⟩) := rfl

@[simp] theorem perform_ask (call : Call) (answer : Backend → List Call → β) :
    (ask call answer : Activity ε β).perform host ⟨tokens, journal⟩ =
      (.ok (answer host.backend (callsOf journal)), ⟨tokens, journal ++ [.call call]⟩) := rfl

@[simp] theorem perform_drawToken :
    (drawToken : Activity ε (Except TokenFailure String)).perform host ⟨tokens, journal⟩ =
      (.ok tokens.draw.1, ⟨tokens.draw.2, journal⟩) := rfl

end Activity

/-! ## Views of a journal -/

attribute [simp] Entry.event? Entry.lookup? Entry.call?

@[simp] theorem callsOf_nil : callsOf [] = [] := rfl

@[simp] theorem lookupsOf_nil : lookupsOf [] = [] := rfl

@[simp] theorem eventsOf_nil : eventsOf [] = [] := rfl

@[simp] theorem callsOf_append (a b : List Entry) : callsOf (a ++ b) = callsOf a ++ callsOf b :=
  List.filterMap_append

@[simp] theorem lookupsOf_append (a b : List Entry) :
    lookupsOf (a ++ b) = lookupsOf a ++ lookupsOf b :=
  List.filterMap_append

@[simp] theorem eventsOf_append (a b : List Entry) : eventsOf (a ++ b) = eventsOf a ++ eventsOf b :=
  List.filterMap_append

@[simp] theorem callsOf_cons (entry : Entry) (rest : List Entry) :
    callsOf (entry :: rest) = entry.call?.toList ++ callsOf rest := by
  cases entry <;> rfl

@[simp] theorem lookupsOf_cons (entry : Entry) (rest : List Entry) :
    lookupsOf (entry :: rest) = entry.lookup?.toList ++ lookupsOf rest := by
  cases entry <;> rfl

@[simp] theorem eventsOf_cons (entry : Entry) (rest : List Entry) :
    eventsOf (entry :: rest) = entry.event?.toList ++ eventsOf rest := by
  cases entry <;> rfl

/-- Events are no calls. -/
@[simp] theorem callsOf_map_event (events : List Event) : callsOf (events.map .event) = [] := by
  induction events with
  | nil => rfl
  | cons event rest ih => simpa using ih

/-- Events are no look-ups. -/
@[simp] theorem lookupsOf_map_event (events : List Event) :
    lookupsOf (events.map .event) = [] := by
  induction events with
  | nil => rfl
  | cons event rest ih => simpa using ih

@[simp] theorem eventsOf_map_event (events : List Event) :
    eventsOf (events.map .event) = events := by
  induction events with
  | nil => rfl
  | cons event rest ih => simp [ih]

/-! ## What one call shows -/

/-- All that a call shows: how it ends, what it reports and asks, and the tokens it leaves. -/
structure Observation (α : Type) where
  result : Except StageFailure α
  events : List Event
  lookups : List SecretRef
  calls : List Call
  tokens : TokenSource

namespace Bench

variable {α : Type}

/-- What a call on the bench shows. -/
def observe (bench : Bench) (activity : Activity StageFailure α) : Observation α :=
  let (result, after) := bench.perform activity
  { result
    events := eventsOf (bench.added after)
    lookups := lookupsOf (bench.added after)
    calls := callsOf (bench.added after)
    tokens := after.progress.tokens }

/-- What is added to a journal is what follows the part that was there. -/
theorem added_of_append {before after : Bench} {entries : List Entry}
    (h : after.progress.journal = before.progress.journal ++ entries) :
    before.added after = entries := by
  rw [added, h, List.drop_left]

/-- The observation of a call that adds entries to the journal. -/
theorem observe_eq {bench : Bench} {activity : Activity StageFailure α}
    {result : Except StageFailure α} {tokens : TokenSource} {entries : List Entry}
    (h : activity.perform bench.host bench.progress =
      (result, ⟨tokens, bench.progress.journal ++ entries⟩)) :
    bench.observe activity =
      ⟨result, eventsOf entries, lookupsOf entries, callsOf entries, tokens⟩ := by
  have hadded : bench.added (bench.perform activity).2 = entries := by
    apply added_of_append
    simp only [perform, h]
  simp only [observe, hadded]
  simp only [perform, h]

end Bench

end BucketVolume
