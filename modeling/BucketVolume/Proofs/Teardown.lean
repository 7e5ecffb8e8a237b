import BucketVolume.Proofs.Credential
import BucketVolume.Proofs.Descriptor
import BucketVolume.Proofs.Lifecycle

/-!
# BucketVolume.Proofs.Teardown — a teardown report predicts the teardown

Teardown reads a volume's descriptor and does what it says; the report reads the same descriptor and
only tells. A teardown takes one of four courses: the descriptor cannot be read, the bucket is not
the provisioner's own, there are no credentials, or the bucket's deletion is asked for.

* `delete_tearsDown` — every teardown takes one of the courses, and leaves the tokens alone;
* `conduct_scripted` — against switches both calls of a teardown are made;
* `TeardownPredicted` — what the report, made anywhere, says of a teardown, and that it is so on each
  of the courses.
-/

namespace BucketVolume

open Activity

/-! ## Reading a descriptor -/

/-- Reading a volume's descriptor reports that it starts and does nothing else. -/
theorem PersistentVolume.perform_readDescriptor (volume : PersistentVolume) (host : Host)
    (tokens : TokenSource) (journal : List Entry) :
    volume.readDescriptor.perform host ⟨tokens, journal⟩ =
      ((VolumeDescriptor.ofAnnotations volume.annotations).mapError
          (⟨volume.name, .parsingDescriptor, ·⟩),
        ⟨tokens, journal ++ [.event (.volumeStageStarted volume.name .parsingDescriptor)]⟩) := by
  simp only [readDescriptor, perform_bind, perform_emit, perform_atStage, perform_settle]

/-- The report of a volume reads its descriptor and asks for nothing. -/
theorem TeardownReport.perform_ofVolume (volume : PersistentVolume) (host : Host)
    (tokens : TokenSource) (journal : List Entry) :
    (ofVolume volume).perform host ⟨tokens, journal⟩ =
      (match VolumeDescriptor.ofAnnotations volume.annotations with
        | .error failure => .error ⟨volume.name, .parsingDescriptor, failure⟩
        | .ok descriptor => .ok (ofTarget volume.name descriptor.teardownTarget),
        ⟨tokens, journal ++ [.event (.volumeStageStarted volume.name .parsingDescriptor)]⟩) := by
  simp only [ofVolume, perform_bind, PersistentVolume.perform_readDescriptor]
  rcases VolumeDescriptor.ofAnnotations volume.annotations with failure | descriptor
  · rfl
  · rfl

/-! ## The course of a teardown -/

namespace Provisioner

/-- What a teardown reports until its descriptor is read. -/
def reading (provisioner : Provisioner) (subject : String) : List Event :=
  [.removalRequested provisioner.clusterId subject, .volumeStageStarted subject .parsingDescriptor]

/-- What fetching the credentials of a target leaves. -/
def unlocking (subject : String) (target : TeardownTarget) : List Entry :=
  [.event (.volumeStageStarted subject .credentialResolution),
    .event (.fetchingSecret target.secret.name target.secret.namespaceName),
    .lookup target.secret]

@[simp] theorem callsOf_unlocking (subject : String) (target : TeardownTarget) :
    callsOf (unlocking subject target) = [] := rfl

@[simp] theorem lookupsOf_unlocking (subject : String) (target : TeardownTarget) :
    lookupsOf (unlocking subject target) = [target.secret] := rfl

end Provisioner

/-- The calls that delete a target's bucket. -/
def TeardownTarget.calls (target : TeardownTarget) : List Call :=
  [.openSession target.endpoint target.region target.iamEndpoint, .deleteBucket target.bucket]

namespace Provisioner

/-- The ways that a teardown can go: how it ends, and the journal of it. -/
inductive TearsDown (provisioner : Provisioner) (host : Host) (volume : PersistentVolume)
    (earlier : List Call) : Except StageFailure Unit → List Entry → Prop where
  | unread {failure : Failure}
      (read : VolumeDescriptor.ofAnnotations volume.annotations = .error failure) :
      TearsDown provisioner host volume earlier
        (.error ⟨volume.name, .parsingDescriptor, failure⟩)
        ((provisioner.reading volume.name).map .event)
  | retained {descriptor : VolumeDescriptor}
      (read : VolumeDescriptor.ofAnnotations volume.annotations = .ok descriptor)
      (kept : descriptor.teardownTarget.autoDeleteBucket = false) :
      TearsDown provisioner host volume earlier (.ok ())
        ((provisioner.reading volume.name).map .event ++
          [.event (.bucketRetained volume.name descriptor.teardownTarget.bucket)])
  | locked {descriptor : VolumeDescriptor} {cause : CredentialFailure}
      (read : VolumeDescriptor.ofAnnotations volume.annotations = .ok descriptor)
      (owned : descriptor.teardownTarget.autoDeleteBucket = true)
      (fetched : host.credentials descriptor.teardownTarget.secret
        descriptor.teardownTarget.iamEndpoint = .error cause) :
      TearsDown provisioner host volume earlier
        (.error ⟨volume.name, .credentialResolution, .credential cause⟩)
        ((provisioner.reading volume.name).map .event ++
          unlocking volume.name descriptor.teardownTarget)
  | asked {descriptor : VolumeDescriptor} {credentials : Credentials}
      {result : Except Failure Unit} {entries : List Entry}
      (read : VolumeDescriptor.ofAnnotations volume.annotations = .ok descriptor)
      (owned : descriptor.teardownTarget.autoDeleteBucket = true)
      (fetched : host.credentials descriptor.teardownTarget.secret
        descriptor.teardownTarget.iamEndpoint = .ok credentials)
      (conducted : host.backend.conduct earlier descriptor.teardownTarget.calls =
        (result, entries)) :
      TearsDown provisioner host volume earlier
        (result.mapError (⟨volume.name, .bucketDelete, ·⟩))
        ((provisioner.reading volume.name).map .event ++
          unlocking volume.name descriptor.teardownTarget ++
          .event (.volumeStageStarted volume.name .bucketDelete) :: entries)

/-- Deleting a target fetches its credentials and then makes its calls. -/
theorem perform_deleteTarget (subject : String) (target : TeardownTarget) (host : Host)
    (tokens : TokenSource) (journal : List Entry) :
    (deleteTarget subject target).perform host ⟨tokens, journal⟩ =
      match host.credentials target.secret target.iamEndpoint with
      | .error cause =>
        (.error ⟨subject, .credentialResolution, .credential cause⟩,
          ⟨tokens, journal ++ unlocking subject target⟩)
      | .ok _ =>
        let (result, entries) := host.backend.conduct (callsOf journal) target.calls
        (result.mapError (⟨subject, .bucketDelete, ·⟩),
          ⟨tokens, journal ++ unlocking subject target ++
            .event (.volumeStageStarted subject .bucketDelete) :: entries⟩) := by
  simp only [deleteTarget, perform_bind, perform_emit, perform_atStage, perform_mapFailure,
    perform_fetch]
  rcases hfetched : host.credentials target.secret target.iamEndpoint with cause | credentials
  · simp [unlocking]
  · have hconducts := conducts_bind
      (Lifecycle.conducts_openSession target.endpoint target.region credentials)
      (Lifecycle.conducts_delete target.bucket) host tokens
    rw [Host.iamEndpoint_credentials hfetched] at hconducts
    simp only [perform_bind] at hconducts
    simp [hconducts, unlocking, TeardownTarget.calls]

/-- Every teardown goes one of these ways, and leaves the tokens as they are. -/
theorem delete_tearsDown (provisioner : Provisioner) (host : Host) (volume : PersistentVolume)
    (tokens : TokenSource) (journal : List Entry) :
    ∃ result entries,
      (provisioner.delete volume).perform host ⟨tokens, journal⟩ =
        (result, ⟨tokens, journal ++ entries⟩) ∧
      TearsDown provisioner host volume (callsOf journal) result entries := by
  rcases hread : VolumeDescriptor.ofAnnotations volume.annotations with failure | descriptor
  · -- the descriptor cannot be read
    refine ⟨_, _, ?_, .unread hread⟩
    simp [delete, perform_bind, PersistentVolume.perform_readDescriptor, hread,
      reading]
  cases howned : descriptor.teardownTarget.autoDeleteBucket with
  | false =>
    -- the bucket is not the provisioner's own
    refine ⟨_, _, ?_, .retained hread howned⟩
    simp [delete, perform_bind, PersistentVolume.perform_readDescriptor, hread,
      howned, reading]
  | true =>
    rcases hfetched : host.credentials descriptor.teardownTarget.secret
      descriptor.teardownTarget.iamEndpoint with cause | credentials
    · -- there are no credentials
      refine ⟨_, _, ?_, .locked hread howned hfetched⟩
      simp [delete, perform_bind, PersistentVolume.perform_readDescriptor, hread,
        howned, perform_deleteTarget, hfetched, reading]
    · -- the deletion is asked for, however it ends
      rcases hconducted : host.backend.conduct (callsOf journal) descriptor.teardownTarget.calls with
        ⟨result, entries⟩
      refine ⟨_, _, ?_, .asked hread howned hfetched hconducted⟩
      simp [delete, perform_bind, PersistentVolume.perform_readDescriptor, hread,
        howned, perform_deleteTarget, hfetched, hconducted, reading]

end Provisioner

/-! ## The report against the teardown -/

/-- Against switches both calls of a target are made, and only the deletion can fail. -/
theorem TeardownTarget.conduct_scripted {target : TeardownTarget} {switches : Switches}
    {earlier : List Call} {result : Except Failure Unit} {entries : List Entry}
    (h : switches.backend.conduct earlier target.calls = (result, entries)) :
    (result = if switches.failDelete then
      .error (.backend .delete target.bucket "simulated delete failure") else .ok ()) ∧
    callsOf entries = target.calls ∧ lookupsOf entries = [] := by
  have hresult := switches.scripted_conduct_result earlier target.calls
  have hcalls := switches.scripted_conduct_calls earlier target.calls
  have hlookups := switches.backend.lookupsOf_conduct earlier target.calls
  rw [h] at hresult hcalls hlookups
  refine ⟨?_, ?_, hlookups⟩
  · cases hdelete : switches.failDelete <;>
      simpa [calls, List.findSome?_cons, Switches.failure?, hdelete] using hresult
  · cases hdelete : switches.failDelete <;>
      simpa [calls, Switches.made, List.takeWhile_cons, Switches.passes, Switches.failure?,
        hdelete] using hcalls

/-- What a report says of a teardown. -/
structure TeardownPredicted (bench : Bench) (volume : PersistentVolume)
    (report : Except StageFailure TeardownReport) (seen : Observation Unit) : Prop where
  failure : ∀ failure, report = .error failure ↔
    seen.result = .error failure ∧ failure.stage = .parsingDescriptor
  unread : ∀ failure, report = .error failure →
    failure.subject = volume.name ∧ failure.kind = .marshal ∧ seen.lookups = [] ∧ seen.calls = []
  retained : ∀ r, report = .ok r → r.deleteBucket = false →
    seen.result = .ok () ∧ seen.lookups = [] ∧ seen.calls = []
  lookup : ∀ r, report = .ok r → r.deleteBucket = true →
    seen.lookups = [⟨r.secretName, r.secretNamespace⟩]
  locked : ∀ r, report = .ok r → r.deleteBucket = true →
    (∀ data, bench.secrets.find? ⟨r.secretName, r.secretNamespace⟩ = some data → ¬ data.Usable) →
    (∃ cause, seen.result =
      .error ⟨volume.name, .credentialResolution, .credential cause⟩) ∧ seen.calls = []
  session : ∀ r, report = .ok r → r.deleteBucket = true →
    ∀ data, bench.secrets.find? ⟨r.secretName, r.secretNamespace⟩ = some data → data.Usable →
    seen.calls = [.openSession r.endpoint r.region r.iamEndpoint, .deleteBucket r.bucket] ∧
      (seen.result = .ok () ↔ bench.switches.failDelete = false) ∧
      (bench.switches.failDelete = true → seen.result =
        .error ⟨volume.name, .bucketDelete, .backend .delete r.bucket "simulated delete failure"⟩)
  tokens : seen.tokens = bench.progress.tokens
  calls : ∀ call ∈ seen.calls,
    (∃ endpoint region iamEndpoint, call = .openSession endpoint region iamEndpoint) ∨
      ∃ bucket, call = .deleteBucket bucket

namespace TeardownPredicted

variable {bench : Bench} {volume : PersistentVolume} {seen : Observation Unit}

/-- A volume whose descriptor cannot be read: both fail, and nothing is asked for. -/
theorem of_unread {report : Except StageFailure TeardownReport} {failure : Failure}
    (hreport : report = .error ⟨volume.name, .parsingDescriptor, failure⟩)
    (hkind : failure.kind = .marshal)
    (hresult : seen.result = .error ⟨volume.name, .parsingDescriptor, failure⟩)
    (hlookups : seen.lookups = []) (hcalls : seen.calls = [])
    (htokens : seen.tokens = bench.progress.tokens) :
    TeardownPredicted bench volume report seen := by
  constructor
  case failure =>
    intro other
    rw [hreport, hresult]
    constructor
    · intro h
      obtain rfl := Except.error.inj h
      exact ⟨rfl, rfl⟩
    · rintro ⟨h, -⟩
      obtain rfl := Except.error.inj h
      rfl
  case unread =>
    intro other h
    rw [hreport] at h
    obtain rfl := Except.error.inj h
    exact ⟨rfl, hkind, hlookups, hcalls⟩
  case tokens => exact htokens
  case calls => simp [hcalls]
  all_goals
    intro r h
    rw [hreport] at h
    cases h

variable {r : TeardownReport}

/-- A volume whose bucket is not the provisioner's own: nothing is asked for. -/
theorem of_retained (hkept : r.deleteBucket = false) (hresult : seen.result = .ok ())
    (hlookups : seen.lookups = []) (hcalls : seen.calls = [])
    (htokens : seen.tokens = bench.progress.tokens) :
    TeardownPredicted bench volume (.ok r) seen := by
  constructor
  case failure => simp [hresult]
  case unread => simp
  case retained => exact fun _ _ _ => ⟨hresult, hlookups, hcalls⟩
  case tokens => exact htokens
  case calls => simp [hcalls]
  all_goals
    intro other h howned
    obtain rfl := Except.ok.inj h
    rw [hkept] at howned
    cases howned

/-- A volume whose bucket is the provisioner's own: its secret is looked up, and what comes of that is
told by whether the secret is usable. -/
theorem of_owned (howned : r.deleteBucket = true)
    (hstage : ∀ failure, seen.result = .error failure → failure.stage ≠ .parsingDescriptor)
    (hlookups : seen.lookups = [⟨r.secretName, r.secretNamespace⟩])
    (hlocked : (∀ data, bench.secrets.find? ⟨r.secretName, r.secretNamespace⟩ = some data →
        ¬ data.Usable) →
      (∃ cause, seen.result = .error ⟨volume.name, .credentialResolution, .credential cause⟩) ∧
        seen.calls = [])
    (hsession : ∀ data, bench.secrets.find? ⟨r.secretName, r.secretNamespace⟩ = some data →
      data.Usable →
      seen.calls = [.openSession r.endpoint r.region r.iamEndpoint, .deleteBucket r.bucket] ∧
        (seen.result = .ok () ↔ bench.switches.failDelete = false) ∧
        (bench.switches.failDelete = true → seen.result =
          .error ⟨volume.name, .bucketDelete, .backend .delete r.bucket "simulated delete failure"⟩))
    (htokens : seen.tokens = bench.progress.tokens)
    (hcalls : ∀ call ∈ seen.calls,
      (∃ endpoint region iamEndpoint, call = .openSession endpoint region iamEndpoint) ∨
        ∃ bucket, call = .deleteBucket bucket) :
    TeardownPredicted bench volume (.ok r) seen := by
  constructor
  case failure =>
    intro failure
    refine iff_of_false nofun ?_
    rintro ⟨h, hparsing⟩
    exact hstage failure h hparsing
  case unread => simp
  case retained =>
    intro other h hkept
    obtain rfl := Except.ok.inj h
    rw [howned] at hkept
    cases hkept
  case tokens => exact htokens
  case calls => exact hcalls
  all_goals
    intro other h _
    obtain rfl := Except.ok.inj h
  case lookup => exact hlookups
  case locked => exact hlocked
  case session => exact hsession

/-- A volume whose secret gives no credentials: it is looked up, and nothing is called. -/
theorem of_locked {cause : CredentialFailure} (howned : r.deleteBucket = true)
    (hunusable : ∀ data, bench.secrets.find? ⟨r.secretName, r.secretNamespace⟩ = some data →
      ¬ data.Usable)
    (hresult : seen.result = .error ⟨volume.name, .credentialResolution, .credential cause⟩)
    (hlookups : seen.lookups = [⟨r.secretName, r.secretNamespace⟩]) (hcalls : seen.calls = [])
    (htokens : seen.tokens = bench.progress.tokens) :
    TeardownPredicted bench volume (.ok r) seen := by
  refine of_owned howned ?_ hlookups (fun _ => ⟨⟨cause, hresult⟩, hcalls⟩) ?_ htokens
    (by simp [hcalls])
  · intro failure h
    rw [hresult] at h
    obtain rfl := Except.error.inj h
    nofun
  · intro data hdata husable
    exact absurd husable (hunusable data hdata)

/-- A volume whose bucket is asked to be deleted: the switches say how that ends. -/
theorem of_asked {data : SecretData} (howned : r.deleteBucket = true)
    (hdata : bench.secrets.find? ⟨r.secretName, r.secretNamespace⟩ = some data)
    (husable : data.Usable)
    (hresult : seen.result = if bench.switches.failDelete then
      .error ⟨volume.name, .bucketDelete, .backend .delete r.bucket "simulated delete failure"⟩
      else .ok ())
    (hlookups : seen.lookups = [⟨r.secretName, r.secretNamespace⟩])
    (hcalls : seen.calls = [.openSession r.endpoint r.region r.iamEndpoint, .deleteBucket r.bucket])
    (htokens : seen.tokens = bench.progress.tokens) :
    TeardownPredicted bench volume (.ok r) seen := by
  refine of_owned howned ?_ hlookups (fun hunusable => absurd husable (hunusable data hdata)) ?_
    htokens (by simp [hcalls])
  · -- only the deletion can have failed
    intro failure h
    rw [hresult] at h
    cases hdelete : bench.switches.failDelete
    · simp [hdelete] at h
    · simp only [hdelete, if_true, Except.error.injEq] at h
      subst h
      nofun
  · intro _ _ _
    refine ⟨hcalls, ?_⟩
    rw [hresult]
    cases bench.switches.failDelete
    · simp
    · simp

end TeardownPredicted

/-- A report made on any host, with any tokens and journal, says what a teardown on a bench does. -/
theorem teardown_predicted (provisioner : Provisioner) (bench : Bench) (volume : PersistentVolume)
    (elsewhere : Host) (progress : Progress) :
    TeardownPredicted bench volume ((TeardownReport.ofVolume volume).perform elsewhere progress).1
      (bench.observe (provisioner.delete volume)) := by
  obtain ⟨result, entries, hperform, hdown⟩ :=
    provisioner.delete_tearsDown bench.host volume bench.progress.tokens bench.progress.journal
  rcases progress with ⟨tokens, journal⟩
  rw [bench.observe_eq hperform, TeardownReport.perform_ofVolume]
  cases hdown with
  | unread read =>
    rw [read]
    exact .of_unread rfl (VolumeDescriptor.kind_of_ofAnnotations read) rfl (by simp) (by simp) rfl
  | retained read kept =>
    rw [read]
    exact .of_retained kept rfl (by simp) (by simp) rfl
  | @locked descriptor cause read owned fetched =>
    rw [read]
    refine .of_locked owned (fun data hdata husable => ?_) rfl ?_ (by simp) rfl
    · -- a usable secret would have given credentials
      obtain ⟨credentials, hcredentials⟩ := (bench.credentials_ok_iff _
        descriptor.teardownTarget.iamEndpoint).mpr ⟨data, hdata, husable⟩
      rw [TeardownReport.ofTarget, fetched] at hcredentials
      cases hcredentials
    · simp [TeardownReport.ofTarget]
  | @asked descriptor credentials result made read owned fetched conducted =>
    have hconducted : bench.switches.backend.conduct _ descriptor.teardownTarget.calls = _ :=
      conducted
    rcases TeardownTarget.conduct_scripted hconducted with ⟨hresult, hcalls, hlookups⟩
    rcases Bench.exists_secret_of_credentials fetched with ⟨stored, hstored, hread⟩
    have husable := (Credentials.ofSecret_ok_iff stored _).mp ⟨credentials, hread⟩
    rw [read]
    refine .of_asked owned hstored husable ?_ ?_ ?_ rfl
    · rw [hresult]
      cases bench.switches.failDelete
      · rfl
      · rfl
    · simp [TeardownReport.ofTarget, hlookups]
    · simp [hcalls, TeardownTarget.calls, TeardownReport.ofTarget]

end BucketVolume
