import BucketVolume.Proofs.AnyBackend
import BucketVolume.Proofs.DeletionSafety

/-!
# BucketVolume.Proofs.AuditTrail — the log tells what was asked of the outside

Calls and the events that announce them are recorded one by one, with ways out between them. Still the
log of every step names exactly the calls and look-ups that the step made, in their order, and says of
a bucket's creation and deletion what the backend said.

* `Backend.linesFor` — the lines that calls in a row leave, given the backend's answers;
* `Logged` — a journal whose lines are those of its calls and look-ups; it is closed under `append`;
* `Serves.logged`, `TearsDown.logged` — the journals of both workflows are;
* `run_audited` — what the log of each step of a run says, and that it is so.
-/

namespace BucketVolume

/-! ## Lines of a log -/

/-- The target of all lines about buckets. -/
def bucketsTarget : String := "s3fs_provisioner::buckets"

/-- The target of all lines about credentials. -/
def credentialsTarget : String := "s3fs_provisioner::credentials"

/-- The log of a journal. -/
def linesOf (journal : List Entry) : List LogLine :=
  (eventsOf journal).map Event.line

/-- The lines of a log that have a target. -/
def linesAbout (target : String) (journal : List Entry) : List LogLine :=
  (linesOf journal).filter (·.target = target)

/-- The lines of a log that have a level and a target. -/
def linesAt (level target : String) (journal : List Entry) : List LogLine :=
  (linesOf journal).filter fun line => line.level = level ∧ line.target = target

/-- The line that announces what is asked of a bucket before its volume is made. -/
def Call.debugLine? : Call → Option LogLine
  | .createBucket bucket => some ⟨"DEBUG", bucketsTarget, "creating bucket", [("bucket", bucket)]⟩
  | .checkAccess bucket => some ⟨"DEBUG", bucketsTarget, "checking bucket access", [("bucket", bucket)]⟩
  | .checkObjectPath bucket objectPath =>
    some ⟨"DEBUG", bucketsTarget, "checking object-path existence",
      [("bucket", bucket), ("object_path", objectPath)]⟩
  | .openSession .. | .deleteBucket .. => none

/-- The line that announces a deletion. -/
def Call.deletionLine? : Call → Option LogLine
  | .deleteBucket bucket => some ⟨"INFO", bucketsTarget, "deleting bucket", [("bucket", bucket)]⟩
  | _ => none

/-- Whether a call creates a bucket. -/
def Call.isCreation : Call → Bool
  | .createBucket .. => true
  | _ => false

/-- The line that announces a look-up. -/
def SecretRef.fetchLine (ref : SecretRef) : LogLine :=
  ⟨"DEBUG", credentialsTarget, "fetching credential secret",
    [("secret", ref.name), ("namespace", ref.namespaceName)]⟩

/-- The line that hands on what a backend noted about a bucket that it created. -/
def noteLine (bucket note : String) : LogLine :=
  ⟨"INFO", bucketsTarget, note, [("bucket", bucket)]⟩

/-- The line that tells of a failed deletion. -/
def deleteFailedLine (bucket source : String) : LogLine :=
  ⟨"WARN", bucketsTarget, "bucket delete failed", [("bucket", bucket), ("error", source)]⟩

section

variable {target : String} {a b : List Entry}

@[simp] theorem linesOf_append : linesOf (a ++ b) = linesOf a ++ linesOf b := by
  simp [linesOf]

@[simp] theorem linesAbout_append :
    linesAbout target (a ++ b) = linesAbout target a ++ linesAbout target b := by
  simp [linesAbout]

theorem linesAt_eq (level target : String) (journal : List Entry) :
    linesAt level target journal = (linesAbout target journal).filter (·.level = level) := by
  simp [linesAt, linesAbout, List.filter_filter]

/-- Events with other targets leave no line with this one. -/
theorem linesAbout_eq_nil {events : List Event} (h : ∀ event ∈ events, event.target.label ≠ target) :
    linesAbout target (events.map .event) = [] := by
  rw [linesAbout, linesOf, eventsOf_map_event, List.filter_eq_nil_iff]
  intro line hline
  rcases List.mem_map.mp hline with ⟨event, hevent, rfl⟩
  exact fun htarget => h event hevent (of_decide_eq_true htarget)

end

/-! ## Calls in a row -/

namespace Backend

/-- The lines that calls leave which are made one after the other. -/
def linesFor (backend : Backend) (earlier : List Call) : List Call → List LogLine
  | [] => []
  | call :: rest =>
    linesOf (backend.entries earlier call) ++ backend.linesFor (earlier ++ [call]) rest

variable {backend : Backend} {earlier calls : List Call} {call : Call} {line : LogLine}

theorem linesFor_append {a b : List Call} :
    backend.linesFor earlier (a ++ b) =
      backend.linesFor earlier a ++ backend.linesFor (earlier ++ a) b := by
  induction a generalizing earlier with
  | nil => simp [linesFor]
  | cons call rest ih => simp [linesFor, ih]

/-- A line comes from one of the calls, given those before it. -/
theorem mem_linesFor :
    line ∈ backend.linesFor earlier calls ↔
      ∃ made call rest, calls = made ++ call :: rest ∧
        line ∈ linesOf (backend.entries (earlier ++ made) call) := by
  induction calls generalizing earlier with
  | nil => simp [linesFor]
  | cons first others ih =>
    rw [linesFor, List.mem_append, ih]
    constructor
    · rintro (hline | ⟨made, call, rest, rfl, hline⟩)
      · exact ⟨[], first, others, rfl, by rwa [List.append_nil]⟩
      · refine ⟨first :: made, call, rest, rfl, ?_⟩
        rwa [List.append_assoc] at hline
    · rintro ⟨_ | ⟨second, made⟩, call, rest, heq, hline⟩
      · rcases List.cons.inj heq with ⟨rfl, -⟩
        rw [List.append_nil] at hline
        exact .inl hline
      · rcases List.cons.inj heq with ⟨rfl, rfl⟩
        rw [List.append_cons] at hline
        exact .inr ⟨made, call, rest, rfl, hline⟩

theorem linesOf_entries (backend : Backend) (earlier : List Call) (call : Call) :
    linesOf (backend.entries earlier call) =
      (announcement call ++ backend.comment earlier call).map Event.line := by
  rw [linesOf, eventsOf_entries]

/-! ### What one call leaves -/

/-- The log of a call is about buckets. -/
theorem linesAbout_entries (backend : Backend) (earlier : List Call) (call : Call) :
    linesAbout bucketsTarget (backend.entries earlier call) = linesOf (backend.entries earlier call) ∧
      linesAbout credentialsTarget (backend.entries earlier call) = [] := by
  have htarget : ∀ line ∈ linesOf (backend.entries earlier call), line.target = bucketsTarget := by
    intro line hline
    rcases List.mem_map.mp hline with ⟨event, hevent, rfl⟩
    exact congrArg EventTarget.label (target_of_mem_entries hevent)
  constructor
  · rw [linesAbout, List.filter_eq_self]
    exact fun line hline => decide_eq_true (htarget line hline)
  · rw [linesAbout, List.filter_eq_nil_iff]
    intro line hline hcredentials
    rw [decide_eq_true_eq, htarget line hline] at hcredentials
    exact absurd hcredentials (by decide)

/-- The debug line of a call announces it. -/
theorem debug_entries (backend : Backend) (earlier : List Call) (call : Call) :
    (linesOf (backend.entries earlier call)).filter (·.level = "DEBUG") =
      call.debugLine?.toList := by
  rw [linesOf_entries]
  cases call with
  | openSession | checkAccess | checkObjectPath => rfl
  | createBucket bucket =>
    rcases backend.comment_createBucket earlier bucket with ⟨h, -⟩ | ⟨note, -, -, h⟩
    all_goals
      rw [h]
      rfl
  | deleteBucket bucket =>
    rcases backend.comment_deleteBucket earlier bucket with ⟨-, h⟩ | ⟨source, -, h⟩
    all_goals
      rw [h]
      rfl

/-- The debug lines of calls announce them, one by one. -/
theorem debug_linesFor (backend : Backend) (earlier calls : List Call) :
    (backend.linesFor earlier calls).filter (·.level = "DEBUG") =
      calls.filterMap Call.debugLine? := by
  induction calls generalizing earlier with
  | nil => rfl
  | cons call rest ih =>
    rw [linesFor, List.filter_append, debug_entries, ih]
    cases h : call.debugLine? <;> simp [h]

/-! ### What a creation or a deletion leaves -/

/-- A line of level info hands on a note, unless something is deleted. -/
theorem mem_info_entries (hdelete : ∀ bucket, call ≠ .deleteBucket bucket) :
    line ∈ (linesOf (backend.entries earlier call)).filter (·.level = "INFO") ↔
      ∃ bucket note, call = .createBucket bucket ∧
        backend.createBucket earlier bucket = .ok (some note) ∧ note ≠ "" ∧
        line = noteLine bucket note := by
  rw [linesOf_entries]
  cases call with
  | openSession | checkAccess | checkObjectPath =>
    refine iff_of_false List.not_mem_nil ?_
    rintro ⟨bucket, note, heq, -⟩
    cases heq
  | createBucket bucket =>
    rcases backend.comment_createBucket earlier bucket with ⟨h, hnote⟩ | ⟨note, hanswer, hnote, h⟩
    · rw [h]
      refine iff_of_false List.not_mem_nil ?_
      rintro ⟨bucket, note, heq, hanswer, hne, -⟩
      rw [← Call.createBucket.inj heq] at hanswer
      exact hne (hnote note hanswer)
    · have honly : ((announcement (.createBucket bucket) ++
          backend.comment earlier (.createBucket bucket)).map Event.line).filter
            (·.level = "INFO") = [noteLine bucket note] := by
        rw [h]
        rfl
      rw [honly, List.mem_singleton]
      constructor
      · rintro rfl
        exact ⟨bucket, note, rfl, hanswer, hnote, rfl⟩
      · rintro ⟨bucket, other, heq, hother, -, rfl⟩
        rw [← Call.createBucket.inj heq, hanswer, Except.ok.injEq, Option.some.injEq] at hother
        rw [hother, Call.createBucket.inj heq]
  | deleteBucket bucket => exact absurd rfl (hdelete bucket)

theorem length_info_entries (backend : Backend) (earlier : List Call)
    (hdelete : ∀ bucket, call ≠ .deleteBucket bucket) :
    ((linesOf (backend.entries earlier call)).filter (·.level = "INFO")).length ≤
      if call.isCreation then 1 else 0 := by
  rw [linesOf_entries]
  cases call with
  | openSession | checkAccess | checkObjectPath => exact Nat.le_refl 0
  | createBucket bucket =>
    rcases backend.comment_createBucket earlier bucket with ⟨h, -⟩ | ⟨note, -, -, h⟩
    · rw [h]
      exact Nat.zero_le 1
    · rw [h]
      exact Nat.le_refl 1
  | deleteBucket bucket => exact absurd rfl (hdelete bucket)

/-- Of calls that delete nothing, the lines of level info hand on the notes of those that create a
bucket. -/
theorem mem_info_linesFor (hdelete : ∀ bucket, .deleteBucket bucket ∉ calls) :
    line ∈ (backend.linesFor earlier calls).filter (·.level = "INFO") ↔
      ∃ made bucket rest note, calls = made ++ .createBucket bucket :: rest ∧
        backend.createBucket (earlier ++ made) bucket = .ok (some note) ∧ note ≠ "" ∧
        line = noteLine bucket note := by
  have hother : ∀ {made call rest}, calls = made ++ call :: rest →
      ∀ bucket, call ≠ .deleteBucket bucket := by
    rintro made call rest rfl bucket rfl
    exact hdelete bucket (List.mem_append_right made List.mem_cons_self)
  rw [List.mem_filter, mem_linesFor]
  constructor
  · rintro ⟨⟨made, call, rest, hcalls, hline⟩, hinfo⟩
    rcases (mem_info_entries (hother hcalls)).mp (List.mem_filter.mpr ⟨hline, hinfo⟩) with
      ⟨bucket, note, rfl, hnote⟩
    exact ⟨made, bucket, rest, note, hcalls, hnote⟩
  · rintro ⟨made, bucket, rest, note, hcalls, hnote⟩
    have hline := List.mem_filter.mp
      ((mem_info_entries (hother hcalls)).mpr ⟨bucket, note, rfl, hnote⟩)
    exact ⟨⟨made, .createBucket bucket, rest, hcalls, hline.1⟩, hline.2⟩

theorem length_info_linesFor (backend : Backend) (earlier : List Call)
    (hdelete : ∀ bucket, .deleteBucket bucket ∉ calls) :
    ((backend.linesFor earlier calls).filter (·.level = "INFO")).length ≤
      calls.countP Call.isCreation := by
  induction calls generalizing earlier with
  | nil => exact Nat.le_refl 0
  | cons call rest ih =>
    have hfirst : ((linesOf (backend.entries earlier call)).filter (·.level = "INFO")).length ≤
        if call.isCreation then 1 else 0 :=
      length_info_entries backend earlier fun bucket heq => hdelete bucket (heq ▸ List.mem_cons_self)
    have hrest := ih (earlier ++ [call])
      fun bucket hmem => hdelete bucket (List.mem_cons_of_mem call hmem)
    rw [linesFor, List.filter_append, List.length_append, List.countP_cons]
    omega

end Backend

/-! ## Journals that tell what was asked -/

/-- The log of a journal: what it says of buckets are the lines of the calls in it, and what it says of
credentials are the look-ups. -/
structure Logged (backend : Backend) (earlier : List Call) (entries : List Entry) : Prop where
  buckets : linesAbout bucketsTarget entries = backend.linesFor earlier (callsOf entries)
  credentials : linesAbout credentialsTarget entries = (lookupsOf entries).map SecretRef.fetchLine

section

variable {backend : Backend} {earlier : List Call}

/-- Journals go on telling what was asked, each from the calls before it. -/
theorem Logged.append {a b : List Entry} (ha : Logged backend earlier a)
    (hb : Logged backend (earlier ++ callsOf a) b) : Logged backend earlier (a ++ b) := by
  constructor
  case buckets =>
    rw [linesAbout_append, callsOf_append, Backend.linesFor_append, ha.buckets, hb.buckets]
  case credentials =>
    rw [linesAbout_append, lookupsOf_append, List.map_append, ha.credentials, hb.credentials]

/-- Events of the workflows themselves say nothing of calls or look-ups. -/
theorem logged_events {events : List Event}
    (h : ∀ event ∈ events, event.target = .provision ∨ event.target = .teardown) :
    Logged backend earlier (events.map .event) := by
  have hother : ∀ target, target = bucketsTarget ∨ target = credentialsTarget →
      linesAbout target (events.map .event) = [] := by
    intro target htarget
    apply linesAbout_eq_nil
    rintro event hevent rfl
    rcases h event hevent with hown | hown
    all_goals
      rw [hown] at htarget
      exact absurd htarget (by decide)
  constructor
  case buckets => simp [hother, Backend.linesFor]
  case credentials => simp [hother]

theorem logged_entries (call : Call) : Logged backend earlier (backend.entries earlier call) := by
  rcases backend.linesAbout_entries earlier call with ⟨hbuckets, hcredentials⟩
  constructor
  case buckets => simp [hbuckets, Backend.linesFor]
  case credentials => simp [hcredentials]

theorem logged_conduct (backend : Backend) (earlier calls : List Call) :
    Logged backend earlier (backend.conduct earlier calls).2 := by
  induction calls generalizing earlier with
  | nil => exact ⟨rfl, rfl⟩
  | cons call rest ih =>
    simp only [Backend.conduct]
    cases backend.failure? earlier call with
    | some failure => exact logged_entries call
    | none =>
      refine (logged_entries call).append ?_
      rw [Backend.callsOf_entries]
      exact ih (earlier ++ [call])

theorem logged_serve {plan : ProvisionPlan} {credentials : Credentials}
    {result : Except Failure Unit} {entries : List Entry}
    (h : backend.serve earlier plan credentials = (result, entries)) :
    Logged backend earlier entries := by
  obtain rfl : (backend.serve earlier plan credentials).2 = entries := by rw [h]
  rw [Backend.serve]
  split
  · -- only the session was opened
    exact logged_entries (.openSession ..)
  · exact logged_conduct _ _ _

theorem logged_fetching (subject : String) (plan : ProvisionPlan) :
    Logged backend earlier (Provisioner.fetching subject plan) :=
  ⟨rfl, rfl⟩

theorem logged_unlocking (subject : String) (target : TeardownTarget) :
    Logged backend earlier (Provisioner.unlocking subject target) :=
  ⟨rfl, rfl⟩

end

namespace Provisioner

variable {provisioner : Provisioner} {host : Host} {earlier : List Call} {entries : List Entry}

theorem logged_opening (request : ProvisionRequest) :
    Logged host.backend earlier ((provisioner.opening request).map .event) := by
  apply logged_events
  unfold opening ProvisionPlan.stageEvents
  cases ProvisionPlan.resolveRequest request <;> simp [Event.target]

theorem logged_closing (request : ProvisionRequest) (plan : ProvisionPlan) :
    Logged host.backend earlier ((provisioner.closing request plan).map .event) :=
  logged_events (by simp [closing, Event.target])

/-- The log of a provision call tells what it asked of the outside, whichever way it went. -/
theorem Serves.logged {request : ProvisionRequest} {tokens left : TokenSource}
    {result : Except StageFailure PersistentVolume}
    (h : Serves provisioner host request tokens earlier result left entries) :
    Logged host.backend earlier entries := by
  have hfront : ∀ plan, Logged host.backend earlier
      ((provisioner.opening request).map .event ++ fetching request.claimName plan) :=
    fun plan => (logged_opening request).append (logged_fetching _ plan)
  have hstarted : ∀ {earlier : List Call} (plan : ProvisionPlan), Logged host.backend earlier
      [.event (.lifecycleStarted request.claimName plan.bucket.name)] := fun plan => ⟨rfl, rfl⟩
  cases h with
  | undecided => exact logged_opening request
  | offline => exact (logged_opening request).append (logged_closing request _)
  | locked => exact hfront _
  | broken decision session fetched serve =>
    refine (hfront _).append ((hstarted _).append ?_)
    simpa using logged_serve serve
  | served decision session fetched serve =>
    refine ((hfront _).append ((hstarted _).append ?_)).append (logged_closing request _)
    simpa using logged_serve serve

/-- So does the log of a teardown. -/
theorem TearsDown.logged {volume : PersistentVolume} {result : Except StageFailure Unit}
    (h : TearsDown provisioner host volume earlier result entries) :
    Logged host.backend earlier entries := by
  have hreading : Logged host.backend earlier ((provisioner.reading volume.name).map .event) :=
    ⟨rfl, rfl⟩
  cases h with
  | unread => exact hreading
  | retained => exact hreading.append ⟨rfl, rfl⟩
  | locked => exact hreading.append (logged_unlocking _ _)
  | @asked descriptor credentials result made read owned fetched conducted =>
    have hstarted : ∀ {earlier : List Call}, Logged host.backend earlier
        [.event (.volumeStageStarted volume.name .bucketDelete)] := ⟨rfl, rfl⟩
    refine (hreading.append (logged_unlocking _ _)).append (hstarted.append ?_)
    have hconduct := logged_conduct host.backend earlier descriptor.teardownTarget.calls
    rw [conducted] at hconduct
    simpa using hconduct

end Provisioner

/-! ## The calls of a workflow -/

/-- A plan asks for at most one creation. -/
theorem BucketPlan.creations_calls (plan : BucketPlan) : plan.calls.countP Call.isCreation ≤ 1 := by
  rcases plan with ⟨name, objectPath, create, _, validateAccess⟩
  cases create <;> cases validateAccess <;> cases objectPath <;>
    simp [calls, List.countP_cons, Call.isCreation]

theorem BucketPlan.deleteBucket_notMem_calls (plan : BucketPlan) (bucket : String) :
    .deleteBucket bucket ∉ plan.calls := by
  simp [mem_calls]

/-- A session creates at most one bucket and deletes none. -/
theorem creations_serve {backend : Backend} {earlier : List Call} {plan : ProvisionPlan}
    {credentials : Credentials} {result : Except Failure Unit} {entries : List Entry}
    (h : backend.serve earlier plan credentials = (result, entries)) :
    (callsOf entries).countP Call.isCreation ≤ 1 ∧
      ∀ bucket, .deleteBucket bucket ∉ callsOf entries := by
  rcases callsOf_serve h with ⟨made, hmade, hcalls, -⟩
  rw [hcalls]
  constructor
  · have hfew := hmade.sublist.countP_le (p := Call.isCreation)
    have hone := plan.bucket.creations_calls
    rw [List.countP_cons_of_neg (by simp [Call.isCreation])]
    omega
  · intro bucket hmem
    rcases List.mem_cons.mp hmem with heq | hmem
    · cases heq
    · exact plan.bucket.deleteBucket_notMem_calls bucket (hmade.mem hmem)

/-- Calls in a row are not refused for want of a service instance. -/
theorem Backend.conduct_ne_refused {backend : Backend} {earlier calls : List Call} :
    (backend.conduct earlier calls).1 ≠ .error (.validation .createWithoutServiceInstance) := by
  intro h
  have hconducted := backend.conducted earlier calls
  rw [h] at hconducted
  generalize callsOf _ = made at hconducted
  cases hconducted with
  | stopped asked granted refused =>
    rcases cases_of_failure? refused with ⟨_, _, -, hcause⟩ | ⟨_, _, _, -, hcause⟩
    · cases hcause
    · cases hcause

/-- A session whose credentials are refused asks for nothing. -/
theorem callsOf_serve_refused {backend : Backend} {earlier : List Call} {plan : ProvisionPlan}
    {credentials : Credentials} {entries : List Entry}
    (h : backend.serve earlier plan credentials =
      (.error (.validation .createWithoutServiceInstance), entries)) :
    callsOf entries =
      [.openSession plan.config.endpoint plan.config.region plan.config.iamEndpoint] := by
  rw [Backend.serve] at h
  split at h
  · rw [← (Prod.mk.inj h).2]
    rfl
  · exact absurd (congrArg Prod.fst h) Backend.conduct_ne_refused

/-- Calls that open a session and nothing else leave no line. -/
theorem Backend.linesFor_openSession (backend : Backend) (earlier : List Call)
    (endpoint region iamEndpoint : String) :
    backend.linesFor earlier [.openSession endpoint region iamEndpoint] = [] := rfl

namespace TeardownTarget

variable {backend : Backend} {earlier : List Call} {target : TeardownTarget}

/-- The call that opens a target's session. -/
def opening (target : TeardownTarget) : Call :=
  .openSession target.endpoint target.region target.iamEndpoint

/-- Both calls of a target are made, and its teardown ends as the deletion does. -/
theorem conduct_calls {result : Except Failure Unit} {entries : List Entry}
    (h : backend.conduct earlier target.calls = (result, entries)) :
    callsOf entries = [target.opening, .deleteBucket target.bucket] ∧
      result = (backend.deleteBucket (earlier ++ [target.opening]) target.bucket).mapError
        (.backend .delete target.bucket) := by
  have hcalls : target.calls = [target.opening, .deleteBucket target.bucket] := rfl
  rcases hanswer : backend.deleteBucket (earlier ++ [target.opening]) target.bucket with source | ⟨⟩
  · simp only [hcalls, Backend.conduct, Backend.failure?, hanswer] at h
    rcases h with ⟨rfl, rfl⟩
    exact ⟨by simp, rfl⟩
  · simp only [hcalls, Backend.conduct, Backend.failure?, hanswer] at h
    rcases h with ⟨rfl, rfl⟩
    exact ⟨by simp, rfl⟩

/-- The lines of a deletion: that it is tried, and what the backend said if it failed. -/
theorem linesFor_calls (backend : Backend) (earlier : List Call) (target : TeardownTarget) :
    backend.linesFor earlier [target.opening, .deleteBucket target.bucket] =
      ⟨"INFO", bucketsTarget, "deleting bucket", [("bucket", target.bucket)]⟩ ::
        match backend.deleteBucket (earlier ++ [target.opening]) target.bucket with
        | .error source => [deleteFailedLine target.bucket source]
        | .ok () => [] := by
  simp only [Backend.linesFor, Backend.linesOf_entries, List.append_nil]
  rcases backend.comment_deleteBucket (earlier ++ [target.opening]) target.bucket with
    ⟨hanswer, hcomment⟩ | ⟨source, hanswer, hcomment⟩
  all_goals
    rw [hanswer, hcomment]
    rfl

end TeardownTarget

/-! ## Audits -/

/-- The log of a provision call, held against what the call asked and what it was told. -/
structure ProvisionAudited (backend : Backend) (earlier : List Call) (entries : List Entry)
    (result : Except StageFailure PersistentVolume) : Prop where
  calls : linesAt "DEBUG" bucketsTarget entries = (callsOf entries).filterMap Call.debugLine?
  lookups : linesAbout credentialsTarget entries = (lookupsOf entries).map SecretRef.fetchLine
  notes : ∀ line, line ∈ linesAt "INFO" bucketsTarget entries ↔
    ∃ made bucket rest note, callsOf entries = made ++ .createBucket bucket :: rest ∧
      backend.createBucket (earlier ++ made) bucket = .ok (some note) ∧ note ≠ "" ∧
      line = noteLine bucket note
  oneNote : (linesAt "INFO" bucketsTarget entries).length ≤ 1
  refused : ∀ failure, result = .error failure →
    failure.cause = .validation .createWithoutServiceInstance →
    linesAbout bucketsTarget entries = [] ∧ (callsOf entries).filter Call.isBucketCall = []

/-- The log of a teardown, held against what it asked and what it was told. -/
structure DeletionAudited (backend : Backend) (earlier : List Call) (entries : List Entry)
    (result : Except StageFailure Unit) : Prop where
  calls : linesAt "INFO" bucketsTarget entries = (callsOf entries).filterMap Call.deletionLine?
  lookups : linesAbout credentialsTarget entries = (lookupsOf entries).map SecretRef.fetchLine
  warned : linesAt "WARN" bucketsTarget entries ≠ [] ↔
    ∃ failure, result = .error failure ∧ failure.stage = .bucketDelete
  warning : ∀ failure, result = .error failure → failure.stage = .bucketDelete →
    ∃ made bucket source, callsOf entries = made ++ [.deleteBucket bucket] ∧
      backend.deleteBucket (earlier ++ made) bucket = .error source ∧
      failure.cause = .backend .delete bucket source ∧
      linesAt "WARN" bucketsTarget entries = [deleteFailedLine bucket source]

namespace Provisioner

variable {provisioner : Provisioner} {host : Host} {earlier : List Call} {entries : List Entry}

/-- A provision call creates at most one bucket and deletes none. -/
theorem Serves.creations {request : ProvisionRequest} {tokens left : TokenSource}
    {result : Except StageFailure PersistentVolume}
    (h : Serves provisioner host request tokens earlier result left entries) :
    (callsOf entries).countP Call.isCreation ≤ 1 ∧
      ∀ bucket, .deleteBucket bucket ∉ callsOf entries := by
  cases h with
  | undecided | offline | locked => simp
  | broken decision session fetched serve => simpa using creations_serve serve
  | served decision session fetched serve => simpa using creations_serve serve

/-- The log of a provision call stands up to an audit, whichever way the call went. -/
theorem Serves.audited {request : ProvisionRequest} {tokens left : TokenSource}
    {result : Except StageFailure PersistentVolume}
    (h : Serves provisioner host request tokens earlier result left entries) :
    ProvisionAudited host.backend earlier entries result := by
  have hlogged := h.logged
  rcases h.creations with ⟨hcreations, hdeletions⟩
  constructor
  case calls => rw [linesAt_eq, hlogged.buckets, Backend.debug_linesFor]
  case lookups => exact hlogged.credentials
  case notes =>
    intro line
    rw [linesAt_eq, hlogged.buckets]
    exact Backend.mem_info_linesFor hdeletions
  case oneNote =>
    rw [linesAt_eq, hlogged.buckets]
    exact Nat.le_trans (Backend.length_info_linesFor _ _ hdeletions) hcreations
  case refused =>
    intro failure herror hcause
    rw [hlogged.buckets]
    cases h with
    | undecided | locked => exact ⟨by simp [Backend.linesFor], by simp⟩
    | offline => cases herror
    | @broken plan _ credentials cause session _ _ _ serve =>
      obtain rfl := Except.error.inj herror
      obtain rfl : cause = _ := hcause
      simp [callsOf_serve_refused serve, Backend.linesFor_openSession, Call.isBucketCall]
    | served => cases herror

/-- So does the log of a teardown. -/
theorem TearsDown.audited {volume : PersistentVolume} {result : Except StageFailure Unit}
    (h : TearsDown provisioner host volume earlier result entries) :
    DeletionAudited host.backend earlier entries result := by
  have hlogged := h.logged
  cases h with
  | unread | retained | locked =>
    -- nothing is asked of a session
    have hnone : ∀ level, linesAt level bucketsTarget _ = [] := fun level => by
      rw [linesAt_eq, hlogged.buckets]
      simp [Backend.linesFor]
    constructor
    case calls => simp [hnone]
    case lookups => exact hlogged.credentials
    case warned => simp [hnone]
    case warning => simp
  | @asked descriptor credentials result made read owned fetched conducted =>
    rcases TeardownTarget.conduct_calls conducted with ⟨hmade, rfl⟩
    have hcalls : callsOf ((provisioner.reading volume.name).map .event ++
        unlocking volume.name descriptor.teardownTarget ++
        .event (.volumeStageStarted volume.name .bucketDelete) :: made) =
        [descriptor.teardownTarget.opening, .deleteBucket descriptor.teardownTarget.bucket] := by
      simp [hmade]
    have hlines := hlogged.buckets
    rw [hcalls, TeardownTarget.linesFor_calls] at hlines
    rcases hanswer : host.backend.deleteBucket
      (earlier ++ [descriptor.teardownTarget.opening]) descriptor.teardownTarget.bucket with
      source | ⟨⟩
    · -- the deletion failed
      rw [hanswer] at hlines
      constructor
      case calls =>
        rw [linesAt_eq, hlines, hcalls]
        rfl
      case lookups => exact hlogged.credentials
      case warned =>
        refine iff_of_true ?_ ⟨_, rfl, rfl⟩
        rw [linesAt_eq, hlines]
        exact List.cons_ne_nil _ _
      case warning =>
        intro failure herror _
        obtain rfl := Except.error.inj herror
        refine ⟨_, _, source, hcalls, hanswer, rfl, ?_⟩
        rw [linesAt_eq, hlines]
        rfl
    · -- the bucket is gone
      rw [hanswer] at hlines
      constructor
      case calls =>
        rw [linesAt_eq, hlines, hcalls]
        rfl
      case lookups => exact hlogged.credentials
      case warned =>
        refine iff_of_false ?_ (by rintro ⟨failure, herror, -⟩; cases herror)
        rw [linesAt_eq, hlines]
        exact fun hne => hne rfl
      case warning =>
        intro failure herror
        cases herror

end Provisioner

/-! ## Runs -/

namespace Bench

variable {provisioner : Provisioner} {before after : Bench} {outcome : Outcome}

/-- A provision step goes one of the ways of a provision call. -/
theorem step_serves {slot : String} {request : ProvisionRequest}
    (h : before.step provisioner (.provision slot request) = (outcome, after)) :
    ∃ result left, outcome = .provisioned result ∧
      provisioner.Serves before.host request before.progress.tokens
        (callsOf before.progress.journal) result left (before.added after) := by
  obtain ⟨result, left, entries, hperform, hserves⟩ := provisioner.provision_serves before.host
    request before.progress.tokens before.progress.journal
  simp only [Bench.step, perform, hperform] at h
  refine ⟨result, left, ?_, ?_⟩
  · rcases result with failure | volume
    · exact (Prod.mk.inj h).1.symm
    · exact (Prod.mk.inj h).1.symm
  · have hjournal : after.progress.journal = before.progress.journal ++ entries := by
      rcases result with failure | volume
      · rw [← (Prod.mk.inj h).2]
      · rw [← (Prod.mk.inj h).2, keep]
    rwa [added_of_append hjournal]

/-- A delete step goes one of the ways of a teardown. -/
theorem step_tearsDown {source : VolumeSource}
    (h : before.step provisioner (.delete source) = (outcome, after)) :
    ∃ result, outcome = .deleted result ∧
      provisioner.TearsDown before.host (before.volume source)
        (callsOf before.progress.journal) result (before.added after) := by
  obtain ⟨result, entries, hperform, hdown⟩ := provisioner.delete_tearsDown before.host
    (before.volume source) before.progress.tokens before.progress.journal
  simp only [Bench.step, perform, hperform] at h
  rcases Prod.mk.inj h with ⟨rfl, hafter⟩
  have hjournal : after.progress.journal = before.progress.journal ++ entries := by rw [← hafter]
  refine ⟨result, rfl, ?_⟩
  rwa [added_of_append hjournal]

end Bench

/-- The log of each provision and delete step of a run stands up to an audit. -/
structure RunAudited (provisioner : Provisioner) (start : Bench) (steps : List Step) : Prop where
  provision : ∀ i slot request outcome before after,
    Bench.Took provisioner start steps i (.provision slot request) outcome before after →
    ∃ result, outcome = .provisioned result ∧
      ProvisionAudited before.host.backend (callsOf before.progress.journal) (before.added after)
        result
  delete : ∀ i source outcome before after,
    Bench.Took provisioner start steps i (.delete source) outcome before after →
    ∃ result, outcome = .deleted result ∧
      DeletionAudited before.host.backend (callsOf before.progress.journal) (before.added after)
        result

/-- Whatever a run does and however its calls fail, its log tells what was asked of the outside. -/
theorem run_audited (provisioner : Provisioner) (start : Bench) (steps : List Step) :
    RunAudited provisioner start steps := by
  constructor
  case provision =>
    intro i slot request outcome before after h
    rcases Bench.step_serves h.step with ⟨result, left, rfl, hserves⟩
    exact ⟨result, rfl, hserves.audited⟩
  case delete =>
    intro i source outcome before after h
    rcases Bench.step_tearsDown h.step with ⟨result, rfl, hdown⟩
    exact ⟨result, rfl, hdown.audited⟩

/-! ### A run that is remarked on -/

/-- A run whose backend has something to say of a bucket that it creates, and fails to delete it. -/
def remarkedSteps : List Step := [
  .insertSecret ⟨"secret", "default"⟩ (.ofTexts [("access-key", "a"), ("secret-key", "s")]),
  .script (.createNote "in another region"),
  .provision "kept" sampleRequest,
  .script .failDelete,
  .delete (.slot "kept")]

theorem run_audited_remarked :
    RunAudited ⟨"driver", "cluster"⟩ (.start ["token"]) remarkedSteps ∧
      linesAt "INFO" bucketsTarget
          ((Bench.start ["token"]).final ⟨"driver", "cluster"⟩ remarkedSteps).progress.journal =
        [noteLine "tmp-s3fs-token" "in another region",
          ⟨"INFO", bucketsTarget, "deleting bucket", [("bucket", "tmp-s3fs-token")]⟩] ∧
      linesAt "WARN" bucketsTarget
          ((Bench.start ["token"]).final ⟨"driver", "cluster"⟩ remarkedSteps).progress.journal =
        [deleteFailedLine "tmp-s3fs-token" "simulated delete failure"] :=
  ⟨run_audited _ _ _, by decide +kernel, by decide +kernel⟩

end BucketVolume
