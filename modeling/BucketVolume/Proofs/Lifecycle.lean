import BucketVolume.Proofs.Activity

/-!
# BucketVolume.Proofs.Lifecycle — a session's calls, one after the other

What is done with a session is a list of calls, made in order until the first one fails
(`Backend.conduct`), whatever the backend and however its answers depend on the calls before. The
lifecycle of a bucket conducts the calls that its plan asks for; teardown conducts one deletion.

* `conducts_execute`, `conducts_delete` — what the two do with a session, as lists of calls;
* `isPrefix_callsOf_conduct` — no call is made out of order, and none that was not asked for;
* `callsOf_conduct_ok` — success means that all of them were made;
* `scripted_conduct_result`, `scripted_conduct_calls` — against switches: the calls that pass are
  made, then the first that does not, and its failure is the result.
-/

namespace BucketVolume

open Activity

/-! ## Conducting calls -/

/-- The calls that a plan asks of its session, in order. -/
def BucketPlan.calls (plan : BucketPlan) : List Call :=
  (if plan.create then [.createBucket plan.name] else []) ++
  (if plan.validateAccess then [.checkAccess plan.name] else []) ++
  (plan.objectPath.map (Call.checkObjectPath plan.name)).toList

/-- The calls there can be, and when each is asked for. -/
theorem BucketPlan.mem_calls {plan : BucketPlan} {call : Call} :
    call ∈ plan.calls ↔
      (plan.create = true ∧ call = .createBucket plan.name) ∨
      (plan.validateAccess = true ∧ call = .checkAccess plan.name) ∨
      ∃ objectPath, plan.objectPath = some objectPath ∧
        call = .checkObjectPath plan.name objectPath := by
  rcases plan with ⟨name, objectPath, create, _, validateAccess⟩
  cases create <;> cases validateAccess <;> cases objectPath <;> simp [calls]

/-- A plan needs a session exactly if it asks for calls. -/
theorem BucketPlan.requiresSession_iff (plan : BucketPlan) :
    plan.requiresSession = true ↔ plan.calls ≠ [] := by
  rcases plan with ⟨name, objectPath, create, _, validateAccess⟩
  cases create <;> cases validateAccess <;> cases objectPath <;>
    simp [requiresSession, calls]

namespace Backend

/-- The failure that a backend's answer to a call amounts to. -/
def failure? (backend : Backend) (earlier : List Call) : Call → Option Failure
  | .openSession .. => none
  | .createBucket bucket =>
    match backend.createBucket earlier bucket with
    | .error source => some (.backend .create bucket source)
    | .ok _ => none
  | .checkAccess bucket =>
    match backend.checkAccess earlier bucket with
    | .error source => some (.backend .checkAccess bucket source)
    | .ok () => none
  | .checkObjectPath bucket objectPath =>
    match backend.checkObjectPath earlier bucket objectPath with
    | .error source => some (.backend .checkObjectPath bucket source)
    | .ok false => some (.validation (.objectPathNotFound objectPath bucket))
    | .ok true => none
  | .deleteBucket bucket =>
    match backend.deleteBucket earlier bucket with
    | .error source => some (.backend .delete bucket source)
    | .ok () => none

/-- What is reported before a call is made. -/
def announcement : Call → List Event
  | .openSession .. => []
  | .createBucket bucket => [.creatingBucket bucket]
  | .checkAccess bucket => [.checkingAccess bucket]
  | .checkObjectPath bucket objectPath => [.checkingObjectPath bucket objectPath]
  | .deleteBucket bucket => [.deletingBucket bucket]

/-- What is reported once the backend has answered a call. -/
def comment (backend : Backend) (earlier : List Call) : Call → List Event
  | .createBucket bucket =>
    match backend.createBucket earlier bucket with
    | .ok (some note) => if note = "" then [] else [.createNote bucket note]
    | _ => []
  | .deleteBucket bucket =>
    match backend.deleteBucket earlier bucket with
    | .error source => [.deleteFailed bucket source]
    | .ok () => []
  | _ => []

/-- The journal of one call. -/
def entries (backend : Backend) (earlier : List Call) (call : Call) : List Entry :=
  (announcement call).map .event ++ .call call :: (backend.comment earlier call).map .event

/-- Makes calls in order until one fails: how that ends, and the journal of it. -/
def conduct (backend : Backend) (earlier : List Call) : List Call → Except Failure Unit × List Entry
  | [] => (.ok (), [])
  | call :: rest =>
    match backend.failure? earlier call with
    | some failure => (.error failure, backend.entries earlier call)
    | none =>
      let (result, entries) := backend.conduct (earlier ++ [call]) rest
      (result, backend.entries earlier call ++ entries)

variable (backend : Backend)

/-- The journal of a call holds that call and no other. -/
@[simp] theorem callsOf_entries (earlier : List Call) (call : Call) :
    callsOf (backend.entries earlier call) = [call] := by
  simp [entries]

/-- Nothing is looked up for a call. -/
@[simp] theorem lookupsOf_entries (earlier : List Call) (call : Call) :
    lookupsOf (backend.entries earlier call) = [] := by
  simp [entries]

@[simp] theorem lookupsOf_conduct (earlier calls : List Call) :
    lookupsOf (backend.conduct earlier calls).2 = [] := by
  induction calls generalizing earlier with
  | nil => rfl
  | cons call rest ih =>
    simp only [conduct]
    cases backend.failure? earlier call with
    | some failure => simp
    | none => simp [ih]

/-- A creation is commented on exactly if the backend has something to say of it. -/
theorem comment_createBucket (backend : Backend) (earlier : List Call) (bucket : String) :
    (backend.comment earlier (.createBucket bucket) = [] ∧
      ∀ note, backend.createBucket earlier bucket = .ok (some note) → note = "") ∨
    ∃ note, backend.createBucket earlier bucket = .ok (some note) ∧ note ≠ "" ∧
      backend.comment earlier (.createBucket bucket) = [.createNote bucket note] := by
  rcases h : backend.createBucket earlier bucket with source | ⟨_ | note⟩
  · exact .inl ⟨by simp only [comment, h], by simp⟩
  · exact .inl ⟨by simp only [comment, h], by simp⟩
  · by_cases hnote : note = ""
    · exact .inl ⟨by simp only [comment, h, if_pos hnote], by simp [hnote]⟩
    · exact .inr ⟨note, rfl, hnote, by simp only [comment, h, if_neg hnote]⟩

/-- A deletion is commented on exactly if it failed. -/
theorem comment_deleteBucket (backend : Backend) (earlier : List Call) (bucket : String) :
    (backend.deleteBucket earlier bucket = .ok () ∧
      backend.comment earlier (.deleteBucket bucket) = []) ∨
    ∃ source, backend.deleteBucket earlier bucket = .error source ∧
      backend.comment earlier (.deleteBucket bucket) = [.deleteFailed bucket source] := by
  rcases h : backend.deleteBucket earlier bucket with source | ⟨⟩
  · exact .inr ⟨source, rfl, by simp only [comment, h]⟩
  · exact .inl ⟨rfl, by simp only [comment, h]⟩

/-- The events of a call are what is reported before it and after it. -/
@[simp] theorem eventsOf_entries (earlier : List Call) (call : Call) :
    eventsOf (backend.entries earlier call) =
      announcement call ++ backend.comment earlier call := by
  simp [entries]

section

variable {backend : Backend} {earlier calls : List Call} {call : Call} {event : Event}

/-- Whatever is reported around a call comes from the part that works on buckets. -/
theorem target_of_mem_entries (h : event ∈ eventsOf (backend.entries earlier call)) :
    event.target = .buckets := by
  rw [eventsOf_entries, List.mem_append] at h
  rcases h with hbefore | hafter
  · cases call <;> simp [announcement] at hbefore <;> simp [hbefore, Event.target]
  · cases call with
    | openSession | checkAccess | checkObjectPath => cases hafter
    | createBucket bucket =>
      rcases backend.comment_createBucket earlier bucket with ⟨h, -⟩ | ⟨note, -, -, h⟩
      · simp [h] at hafter
      · simp [h] at hafter
        simp [hafter, Event.target]
    | deleteBucket bucket =>
      rcases backend.comment_deleteBucket earlier bucket with ⟨-, h⟩ | ⟨source, -, h⟩
      · simp [h] at hafter
      · simp [h] at hafter
        simp [hafter, Event.target]

theorem target_of_mem_conduct (h : event ∈ eventsOf (backend.conduct earlier calls).2) :
    event.target = .buckets := by
  induction calls generalizing earlier with
  | nil => cases h
  | cons call rest ih =>
    simp only [conduct] at h
    cases hcall : backend.failure? earlier call with
    | some failure =>
      simp only [hcall] at h
      exact target_of_mem_entries h
    | none =>
      simp only [hcall, eventsOf_append, List.mem_append] at h
      rcases h with hfirst | hrest
      · exact target_of_mem_entries hfirst
      · exact ih hrest

end

/-- The calls that are made are the first of those asked for. -/
theorem isPrefix_callsOf_conduct (earlier calls : List Call) :
    callsOf (backend.conduct earlier calls).2 <+: calls := by
  induction calls generalizing earlier with
  | nil => exact List.prefix_refl []
  | cons call rest ih =>
    simp only [conduct]
    cases backend.failure? earlier call with
    | some failure => exact ⟨rest, by simp⟩
    | none =>
      rcases ih (earlier ++ [call]) with ⟨unmade, hunmade⟩
      exact ⟨unmade, by simp [hunmade]⟩

/-- Calls that all go through are all made. -/
theorem callsOf_conduct_ok {earlier calls : List Call}
    (h : (backend.conduct earlier calls).1 = .ok ()) :
    callsOf (backend.conduct earlier calls).2 = calls := by
  induction calls generalizing earlier with
  | nil => rfl
  | cons call rest ih =>
    simp only [conduct] at h ⊢
    cases hcall : backend.failure? earlier call with
    | some failure => simp [hcall] at h
    | none =>
      simp only [hcall] at h
      simp [ih h]

/-- Calls in two parts: the second part is begun only if the first one went through. -/
theorem conduct_append (earlier a b : List Call) :
    backend.conduct earlier (a ++ b) =
      match backend.conduct earlier a with
      | (.ok (), entries) =>
        let (result, more) := backend.conduct (earlier ++ a) b
        (result, entries ++ more)
      | (.error failure, entries) => (.error failure, entries) := by
  induction a generalizing earlier with
  | nil => simp [conduct]
  | cons call rest ih =>
    simp only [List.cons_append, conduct]
    cases backend.failure? earlier call with
    | some failure => rfl
    | none =>
      simp only [ih, List.append_assoc, List.singleton_append]
      rcases backend.conduct (earlier ++ [call]) rest with ⟨_ | _, entries⟩
      · rfl
      · simp

end Backend

/-- An activity that makes calls in order until one fails, and does nothing else. -/
def Activity.Conducts (activity : Activity Failure Unit) (calls : List Call) : Prop :=
  ∀ (host : Host) (tokens : TokenSource) (journal : List Entry),
    activity.perform host ⟨tokens, journal⟩ =
      ((host.backend.conduct (callsOf journal) calls).1,
        ⟨tokens, journal ++ (host.backend.conduct (callsOf journal) calls).2⟩)

theorem conducts_pure : Conducts (pure ()) [] := by
  intro host tokens journal
  simp [Backend.conduct]

/-- An activity that makes one call ends as the call does. -/
theorem conducts_singleton {activity : Activity Failure Unit} {call : Call}
    (h : ∀ (host : Host) (tokens : TokenSource) (journal : List Entry),
      activity.perform host ⟨tokens, journal⟩ =
        (match host.backend.failure? (callsOf journal) call with
          | some failure => .error failure
          | none => .ok (),
          ⟨tokens, journal ++ host.backend.entries (callsOf journal) call⟩)) :
    Conducts activity [call] := by
  intro host tokens journal
  rw [h host tokens journal]
  simp only [Backend.conduct]
  rcases host.backend.failure? (callsOf journal) call with _ | failure
  · simp
  · rfl

/-- What follows a part that went through starts after all of its calls. -/
theorem conducts_bind {x y : Activity Failure Unit} {a b : List Call}
    (hx : Conducts x a) (hy : Conducts y b) : Conducts (x >>= fun _ => y) (a ++ b) := by
  intro host tokens journal
  rw [perform_bind, hx host tokens journal, Backend.conduct_append]
  have hmade := @Backend.callsOf_conduct_ok host.backend (callsOf journal) a
  generalize host.backend.conduct (callsOf journal) a = first at hmade ⊢
  rcases first with ⟨failure | ⟨⟩, entries⟩
  · -- the first part failed, so the second one is never begun
    rfl
  · -- the first part succeeded, so all of its calls are in the journal
    have hcalls : callsOf entries = a := hmade rfl
    simp [hy host tokens (journal ++ entries), hcalls]

/-- A part that is left out makes no calls. -/
theorem conducts_when {b : Bool} {x : Activity Failure Unit} {calls : List Call}
    (h : b = true → Conducts x calls) :
    Conducts (if b then x else pure ()) (if b then calls else []) := by
  cases b
  · exact conducts_pure
  · exact h rfl

/-! ## The lifecycle as calls -/

namespace Lifecycle

theorem conducts_openSession (endpoint region : String) (credentials : Credentials) :
    Conducts (openSession endpoint region credentials)
      [.openSession endpoint region credentials.iamEndpoint] := by
  intro host tokens journal
  rfl

theorem conducts_checkAccess (bucket : String) :
    Conducts (checkAccess bucket) [.checkAccess bucket] := by
  apply conducts_singleton
  intro host tokens journal
  simp only [checkAccess, perform_bind, perform_emit, perform_ask]
  rcases h : host.backend.checkAccess (callsOf journal) bucket with source | ⟨⟩
  · simp [h, Backend.failure?, Backend.entries, Backend.announcement, Backend.comment]
  · simp [h, Backend.failure?, Backend.entries, Backend.announcement, Backend.comment]

theorem conducts_checkObjectPath (bucket objectPath : String) :
    Conducts (checkObjectPath bucket objectPath) [.checkObjectPath bucket objectPath] := by
  apply conducts_singleton
  intro host tokens journal
  simp only [checkObjectPath, perform_bind, perform_emit, perform_ask]
  rcases h : host.backend.checkObjectPath (callsOf journal) bucket objectPath with source | found
  · simp [h, Backend.failure?, Backend.entries, Backend.announcement, Backend.comment]
  · -- an answer is a failure too if it says that nothing is there
    cases found
    · simp [h, Backend.failure?, Backend.entries, Backend.announcement, Backend.comment]
    · simp [h, Backend.failure?, Backend.entries, Backend.announcement, Backend.comment]

theorem conducts_create (bucket : String) {credentials : Credentials}
    (hallowed : credentials.lacksServiceInstance = false) :
    Conducts (create bucket credentials) [.createBucket bucket] := by
  apply conducts_singleton
  intro host tokens journal
  simp only [create, hallowed, Bool.false_eq_true, if_false, perform_bind, perform_emit,
    perform_ask]
  rcases h : host.backend.createBucket (callsOf journal) bucket with source | ⟨_ | note⟩
  · simp [h, Backend.failure?, Backend.entries, Backend.announcement, Backend.comment]
  · simp [h, Backend.failure?, Backend.entries, Backend.announcement, Backend.comment]
  · -- a note is reported only if it says something
    by_cases hnote : note = ""
    · simp [h, hnote, Backend.failure?, Backend.entries, Backend.announcement, Backend.comment]
    · simp [h, hnote, Backend.failure?, Backend.entries, Backend.announcement, Backend.comment]

theorem conducts_delete (bucket : String) : Conducts (delete bucket) [.deleteBucket bucket] := by
  apply conducts_singleton
  intro host tokens journal
  simp only [delete, perform_bind, perform_emit, perform_ask]
  rcases h : host.backend.deleteBucket (callsOf journal) bucket with source | ⟨⟩
  · simp [h, perform_bind, Backend.failure?, Backend.entries, Backend.announcement,
      Backend.comment]
  · simp [h, Backend.failure?, Backend.entries, Backend.announcement, Backend.comment]

/-- A bucket is made ready by the calls that its plan asks for, unless they are refused. -/
theorem conducts_execute (plan : BucketPlan) {credentials : Credentials}
    (h : plan.create = true → credentials.lacksServiceInstance = false) :
    Conducts (execute plan credentials) plan.calls := by
  have hcreate := conducts_when fun h' => conducts_create plan.name (h h')
  have haccess := conducts_when (b := plan.validateAccess) fun _ => conducts_checkAccess plan.name
  have hpath : Conducts (plan.objectPath.elim (pure ()) (checkObjectPath plan.name))
      (plan.objectPath.map (Call.checkObjectPath plan.name)).toList := by
    cases plan.objectPath with
    | none => exact conducts_pure
    | some objectPath => exact conducts_checkObjectPath plan.name objectPath
  have hall := conducts_bind hcreate (conducts_bind haccess hpath)
  rw [BucketPlan.calls, List.append_assoc]
  -- `execute` skips a part that is not asked for, which is as good as doing nothing in its place
  revert hall
  unfold execute
  cases plan.create <;> cases plan.validateAccess <;> cases plan.objectPath <;> exact id

/-- Credentials that can create no bucket are refused before anything is asked. -/
theorem perform_execute_refused {plan : BucketPlan} {credentials : Credentials}
    (hcreate : plan.create = true) (h : credentials.lacksServiceInstance = true)
    (host : Host) (progress : Progress) :
    (execute plan credentials).perform host progress =
      (.error (.validation .createWithoutServiceInstance), progress) := by
  simp [execute, create, hcreate, h, perform_bind]

end Lifecycle

/-! ## Against switches -/

namespace Switches

/-- The failure that the switches make of a call. -/
def failure? (switches : Switches) : Call → Option Failure
  | .openSession .. => none
  | .createBucket bucket =>
    if switches.failCreate then some (.backend .create bucket "simulated create failure")
    else none
  | .checkAccess bucket =>
    if switches.failAccess then some (.backend .checkAccess bucket "simulated access failure")
    else none
  | .checkObjectPath bucket objectPath =>
    if switches.failObjectPathCheck then
      some (.backend .checkObjectPath bucket "simulated object-path check failure")
    else if switches.objectPathMissing then
      some (.validation (.objectPathNotFound objectPath bucket))
    else none
  | .deleteBucket bucket =>
    if switches.failDelete then some (.backend .delete bucket "simulated delete failure")
    else none

/-- Whether the switches let a call pass. -/
def passes (switches : Switches) (call : Call) : Bool :=
  (switches.failure? call).isNone

/-- The calls that are made of those asked for: those that pass, and the first one that does not. -/
def made (switches : Switches) (calls : List Call) : List Call :=
  calls.takeWhile switches.passes ++ (calls.find? (!switches.passes ·)).toList

variable (switches : Switches)

/-- Switches do not look at the calls made before. -/
theorem failure?_backend (earlier : List Call) (call : Call) :
    switches.backend.failure? earlier call = switches.failure? call := by
  cases call with
  | openSession endpoint region iamEndpoint => rfl
  | createBucket bucket =>
    simp only [Backend.failure?, failure?, backend, answer]
    cases switches.failCreate
    · rfl
    · simp
  | checkAccess bucket =>
    simp only [Backend.failure?, failure?, backend, answer]
    cases switches.failAccess
    · rfl
    · simp
  | checkObjectPath bucket objectPath =>
    simp only [Backend.failure?, failure?, backend, answer]
    cases switches.failObjectPathCheck
    · cases switches.objectPathMissing
      · rfl
      · rfl
    · simp
  | deleteBucket bucket =>
    simp only [Backend.failure?, failure?, backend, answer]
    cases switches.failDelete
    · rfl
    · simp

/-- Scripted calls end as the first one that does not pass. -/
theorem scripted_conduct_result (earlier calls : List Call) :
    (switches.backend.conduct earlier calls).1 =
      match calls.findSome? switches.failure? with
      | some failure => .error failure
      | none => .ok () := by
  induction calls generalizing earlier with
  | nil => rfl
  | cons call rest ih =>
    simp only [Backend.conduct, failure?_backend, List.findSome?_cons]
    cases switches.failure? call with
    | some failure => rfl
    | none => exact ih (earlier ++ [call])

/-- The scripted calls that are made are recorded, and no others. -/
theorem scripted_conduct_calls (earlier calls : List Call) :
    callsOf (switches.backend.conduct earlier calls).2 = switches.made calls := by
  induction calls generalizing earlier with
  | nil => rfl
  | cons call rest ih =>
    cases hcall : switches.failure? call with
    | some failure =>
      have hpasses : switches.passes call = false := by simp [passes, hcall]
      simp [Backend.conduct, failure?_backend, hcall, hpasses, made]
    | none =>
      have hpasses : switches.passes call = true := by simp [passes, hcall]
      simp [Backend.conduct, failure?_backend, hcall, hpasses, ih, made]

end Switches
end BucketVolume
