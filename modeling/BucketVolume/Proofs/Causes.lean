import Mathlib.Data.List.Chain
import BucketVolume.Proofs.AnyBackend
import BucketVolume.Proofs.DeletionSafety
import BucketVolume.Proofs.OfflineChecks

/-!
# BucketVolume.Proofs.Causes — what a failed call says of its causes

A failed call has a cause, and the cause may have one of its own, down to the words of the secret
store or of the backend. Hosts look at the stage and the kind of a failure to decide what to do about
it, and people read its message, so the three have to fit: no cause is lost on the way, every message
ends with the message of its cause, and each stage has its own kinds of failures.

* `Cause.chain` — the causes, each asked for the next; `Cause.behind_chain` — which ones there are;
* `Cause.isChain_endsWith_chain` — how their messages fit together;
* `Host.Raises` — the failures of each stage, and what the collaborators said for them;
* `Serves.raised`, `TearsDown.raised` — calls fail with no others;
* `failures_explained` — all of it, for provisioning, teardown and the report of a teardown.
-/

namespace BucketVolume

open Activity

/-! ## Chains of causes -/

/-- A failed call, or one of the causes that are found by asking it for its cause, and that one for its
own. What a collaborator says is its own text. -/
inductive Cause where
  | staged (failure : StageFailure)
  | plain (failure : Failure)
  | credential (failure : CredentialFailure)
  | words (text : String)

namespace Cause

def message : Cause → String
  | staged failure => failure.message
  | plain failure => failure.message
  | credential failure => failure.message
  | words text => text

/-- The cause of a cause. -/
def source? : Cause → Option Cause
  | staged failure => some (plain failure.cause)
  | plain (.credential failure) => some (credential failure)
  | plain (.backend _ _ text) => some (words text)
  | plain _ => none
  | credential (.lookup _ _ text) => some (words text)
  | credential (.missingField _) => none
  | words _ => none

/-- The message of a cause ends the message of what it caused. -/
def EndsWith (outer inner : Cause) : Prop :=
  ∃ start, outer.message = start ++ inner.message

/-- The causes that have one of their own, and which it is. -/
inductive HasSource : Cause → Cause → Prop where
  | staged (failure : StageFailure) : HasSource (.staged failure) (.plain failure.cause)
  | credential (failure : CredentialFailure) :
    HasSource (.plain (.credential failure)) (.credential failure)
  | backend (operation : BucketOperation) (bucket text : String) :
    HasSource (.plain (.backend operation bucket text)) (.words text)
  | lookup (name namespaceName text : String) :
    HasSource (.credential (.lookup name namespaceName text)) (.words text)

theorem hasSource_of_source? {cause source : Cause} (h : cause.source? = some source) :
    HasSource cause source := by
  unfold source? at h
  split at h
  all_goals cases h
  all_goals constructor

/-- How many causes there can be behind a cause. -/
def depth : Cause → Nat
  | staged _ => 3
  | plain _ => 2
  | credential _ => 1
  | words _ => 0

theorem HasSource.depth_lt {cause source : Cause} (h : HasSource cause source) :
    source.depth < cause.depth := by
  cases h <;> simp [depth]

theorem HasSource.endsWith {cause source : Cause} (h : HasSource cause source) :
    cause.EndsWith source := by
  cases h with
  | staged failure => exact ⟨failure.subject ++ ": " ++ failure.stage.label ++ ": ", rfl⟩
  | credential failure => exact ⟨"cannot get credentials: ", rfl⟩
  | backend operation bucket text =>
    exact ⟨"cannot " ++ operation.verb ++ " bucket " ++ bucket ++ ": ", rfl⟩
  | lookup name namespaceName text =>
    exact ⟨"cannot get secret " ++ name ++ " in namespace " ++ namespaceName ++ ": ", rfl⟩

/-- The causes behind a cause, the nearest first. -/
def chain (cause : Cause) : List Cause :=
  match _h : cause.source? with
  | none => []
  | some source => source :: source.chain
termination_by cause.depth
decreasing_by exact (hasSource_of_source? ‹_›).depth_lt

theorem chain_of_none {cause : Cause} (h : cause.source? = none) : cause.chain = [] := by
  rw [chain]
  split
  · rfl
  · next source hsource =>
    rw [h] at hsource
    cases hsource

theorem chain_of_some {cause source : Cause} (h : cause.source? = some source) :
    cause.chain = source :: source.chain := by
  rw [chain]
  split
  · next hnone =>
    rw [h] at hnone
    cases hnone
  · next other hother =>
    obtain rfl : source = other := Option.some.inj (h.symm.trans hother)
    rfl

@[simp] theorem chain_staged (failure : StageFailure) :
    (staged failure).chain = plain failure.cause :: (plain failure.cause).chain :=
  chain_of_some rfl

@[simp] theorem chain_words (text : String) : (words text).chain = [] :=
  chain_of_none rfl

/-- The causes of a failure that has no stage: credentials have one of their own, and what a
collaborator said ends the chain. -/
inductive Behind : Failure → List Cause → Prop where
  | lookup (name namespaceName text : String) :
    Behind (.credential (.lookup name namespaceName text))
      [.credential (.lookup name namespaceName text), .words text]
  | missingField (field : String) :
    Behind (.credential (.missingField field)) [.credential (.missingField field)]
  | backend (operation : BucketOperation) (bucket text : String) :
    Behind (.backend operation bucket text) [.words text]
  | alone {failure : Failure} (notCredential : failure.kind ≠ .credential)
    (notBackend : failure.kind ≠ .backend) : Behind failure []

theorem behind_chain (failure : Failure) : Behind failure (plain failure).chain := by
  cases failure with
  | credential cause =>
    rw [chain_of_some rfl]
    cases cause with
    | lookup name namespaceName text =>
      rw [chain_of_some rfl, chain_words]
      exact .lookup name namespaceName text
    | missingField field =>
      rw [chain_of_none rfl]
      exact .missingField field
  | backend operation bucket text =>
    rw [chain_of_some rfl, chain_words]
    exact .backend operation bucket text
  | configParse | validation | marshal | nameGeneration =>
    rw [chain_of_none rfl]
    exact .alone nofun nofun

theorem Behind.map_message {failure : Failure} {causes : List Cause} (h : Behind failure causes) :
    causes.map message = failure.sources := by
  cases h with
  | lookup | missingField | backend => rfl
  | alone notCredential notBackend =>
    cases failure with
    | credential => exact absurd rfl notCredential
    | backend => exact absurd rfl notBackend
    | configParse | validation | marshal | nameGeneration => rfl

/-- Along a chain every message ends with the next one. -/
theorem isChain_endsWith_chain (cause : Cause) : List.IsChain EndsWith (cause :: cause.chain) := by
  induction cause using chain.induct with
  | case1 cause hnone =>
    rw [chain_of_none hnone]
    exact .singleton cause
  | case2 cause source hsource ih =>
    rw [chain_of_some hsource]
    exact .cons_cons (hasSource_of_source? hsource).endsWith ih

end Cause

/-! ## Which failures a stage has -/

/-- The failures of each stage. A collaborator that is quoted has said so, and a field that is blamed
is missing. -/
inductive Host.Raises (host : Host) : Stage → Failure → Prop where
  | unreadable {field : String} {problem : ParseProblem} :
    Raises host .resolving (.configParse field problem)
  | misconfigured {violation : Violation} : Raises host .resolving (.validation violation)
  | forbidden {violation : Violation} : Raises host .validating (.validation violation)
  | unnamed {failure : TokenFailure} : Raises host .validating (.nameGeneration failure)
  | notFound {ref : SecretRef} {text : String} (said : host.secret ref = .error text) :
    Raises host .credentialResolution (.credential (.lookup ref.name ref.namespaceName text))
  | incomplete {ref : SecretRef} {data : SecretData} {field : String}
    (found : host.secret ref = .ok data) (missing : field ∉ data) :
    Raises host .credentialResolution (.credential (.missingField field))
  | refused {violation : Violation} : Raises host .lifecycleExecution (.validation violation)
  | broken {earlier : List Call} {call : Call} {operation : BucketOperation} {bucket text : String}
    (said : host.backend.FailsAt earlier call operation bucket text)
    (kept : operation ≠ .delete) :
    Raises host .lifecycleExecution (.backend operation bucket text)
  | unparsed {message : String} : Raises host .parsingDescriptor (.marshal message)
  | undeleted {earlier : List Call} {call : Call} {bucket text : String}
    (said : host.backend.FailsAt earlier call .delete bucket text) :
    Raises host .bucketDelete (.backend .delete bucket text)

section Raises

variable {host : Host} {earlier : List Call} {cause : Failure}

/-- Deciding a request fails in the first two stages. -/
theorem OfflineCheck.raises {check : OfflineCheck} {request : ProvisionRequest}
    {tokens : TokenSource} (h : check.refusal? request tokens = some cause) :
    host.Raises check.stage cause := by
  have hkind := OfflineCheck.kind_of_refusal? h
  cases check with
  | claimFlag | classInteger | classFlag | claimInteger | expiryInteger =>
    cases cause with
    | configParse => exact .unreadable
    | _ => cases hkind
  | endpointScheme | iamEndpointScheme | expirySign =>
    cases cause with
    | validation => exact .misconfigured
    | _ => cases hkind
  | noPathWithCreate | noDeleteWithoutCreate | noBucketWithDelete | bucketNamed =>
    cases cause with
    | validation => exact .forbidden
    | _ => cases hkind
  | tokenLeft =>
    cases cause with
    | nameGeneration => exact .unnamed
    | _ => cases hkind

theorem ProvisionPlan.raises_of_decided {request : ProvisionRequest} {tokens left : TokenSource}
    {failure : StageFailure} (h : decided request tokens = (.error failure, left)) :
    host.Raises failure.stage failure.cause := by
  have hguarded := guarded_decided request tokens
  rw [Guarded, h] at hguarded
  obtain ⟨check, -, hcheck⟩ := List.exists_of_findSome?_eq_some hguarded.symm
  obtain ⟨cause, hcause, rfl⟩ := Option.map_eq_some_iff.mp hcheck
  exact OfflineCheck.raises hcause

theorem VolumeDescriptor.raises_of_ofAnnotations {m : Annotations}
    (h : ofAnnotations m = .error cause) : host.Raises .parsingDescriptor cause := by
  have hkind := kind_of_ofAnnotations h
  cases cause with
  | marshal => exact .unparsed
  | _ => cases hkind

/-- Fetching credentials fails with the store's words, or for a missing field. -/
theorem Host.raises_of_credentials {ref : SecretRef} {iamEndpoint : String}
    {failure : CredentialFailure} (h : host.credentials ref iamEndpoint = .error failure) :
    host.Raises .credentialResolution (.credential failure) := by
  rcases Host.cases_of_credentials_error h with
    ⟨text, hsaid, rfl⟩ | ⟨data, field, hfound, hmissing, rfl⟩
  · exact .notFound hsaid
  · exact .incomplete hfound hmissing

/-- Calls that fail in a row fail at one that was asked for. -/
theorem Backend.exists_of_conduct {backend : Backend} {calls : List Call} {entries : List Entry}
    (h : backend.conduct earlier calls = (.error cause, entries)) :
    ∃ call ∈ calls, ∃ before, backend.failure? before call = some cause := by
  have hconducted := backend.conducted earlier calls
  rw [h] at hconducted
  generalize callsOf entries = made at hconducted
  cases hconducted with
  | @stopped before call _ asked _ refused =>
    have hmem : call ∈ before ++ [call] := List.mem_append_right _ List.mem_cons_self
    exact ⟨call, asked.mem hmem, earlier ++ before, refused⟩

/-- A session fails for one of the reasons of its stage. -/
theorem Backend.raises_of_serve {plan : ProvisionPlan} {credentials : Credentials}
    {entries : List Entry}
    (h : host.backend.serve earlier plan credentials = (.error cause, entries)) :
    host.Raises .lifecycleExecution cause := by
  unfold Backend.serve at h
  split at h
  · -- the credentials are refused
    obtain rfl := Except.error.inj (Prod.mk.inj h).1
    exact .refused
  · obtain ⟨call, hcall, before, hfails⟩ := Backend.exists_of_conduct h
    rcases Backend.cases_of_failure? hfails with
      ⟨bucket, objectPath, -, rfl⟩ | ⟨operation, bucket, text, hsaid, rfl⟩
    · exact .refused
    · refine .broken hsaid ?_
      rintro rfl
      -- no plan asks for a deletion
      cases hsaid
      rcases List.mem_cons.mp hcall with hopen | hplanned
      · cases hopen
      · rcases BucketPlan.mem_calls.mp hplanned with ⟨-, h⟩ | ⟨-, h⟩ | ⟨objectPath, -, h⟩
        all_goals cases h

/-- The calls of a teardown fail for one reason only. -/
theorem TeardownTarget.raises_of_conduct {target : TeardownTarget} {entries : List Entry}
    (h : host.backend.conduct earlier target.calls = (.error cause, entries)) :
    host.Raises .bucketDelete cause := by
  obtain ⟨call, hcall, before, hfails⟩ := Backend.exists_of_conduct h
  rcases List.mem_pair.mp hcall with rfl | rfl
  · cases hfails
  · rcases Backend.cases_of_failure? hfails with
      ⟨bucket, objectPath, hmisses, rfl⟩ | ⟨operation, bucket, text, hsaid, rfl⟩
    · cases hmisses
    · cases hsaid with
      | delete hanswer => exact .undeleted (.delete hanswer)

end Raises

namespace Provisioner

variable {provisioner : Provisioner} {host : Host} {earlier : List Call} {failure : StageFailure}

theorem Serves.raised {request : ProvisionRequest} {tokens left : TokenSource}
    {entries : List Entry}
    (h : provisioner.Serves host request tokens earlier (.error failure) left entries) :
    host.Raises failure.stage failure.cause := by
  cases h with
  | undecided decision => exact ProvisionPlan.raises_of_decided decision
  | locked decision session fetched => exact Host.raises_of_credentials fetched
  | broken decision session fetched serve => exact Backend.raises_of_serve serve

theorem TearsDown.raised {volume : PersistentVolume} {outcome : Except StageFailure Unit}
    {entries : List Entry} (h : provisioner.TearsDown host volume earlier outcome entries)
    (houtcome : outcome = .error failure) : host.Raises failure.stage failure.cause := by
  cases h with
  | unread read =>
    obtain rfl := Except.error.inj houtcome
    exact VolumeDescriptor.raises_of_ofAnnotations read
  | retained => cases houtcome
  | locked read owned fetched =>
    obtain rfl := Except.error.inj houtcome
    exact Host.raises_of_credentials fetched
  | @asked _ _ result _ read owned fetched conducted =>
    cases result with
    | ok => cases houtcome
    | error cause =>
      obtain rfl := Except.error.inj houtcome
      exact TeardownTarget.raises_of_conduct conducted

end Provisioner

/-! ## What a failed call says -/

/-- What the failure of a call says: which causes are behind it, how their messages fit, and how its
stage and its kind go together. -/
structure Explained (host : Host) (failure : StageFailure) : Prop where
  /-- The first cause is the failure without its stage; then come the causes behind that one. -/
  causes : ∃ rest, (Cause.staged failure).chain = .plain failure.cause :: rest ∧
    Cause.Behind failure.cause rest
  /-- Their messages are those that the failure lists. -/
  listed : (Cause.staged failure).chain.map Cause.message = failure.sources
  /-- Every message ends with the message of the next cause. -/
  fit : List.IsChain Cause.EndsWith (.staged failure :: (Cause.staged failure).chain)
  text : failure.message =
    String.intercalate ": " [failure.subject, failure.stage.label, failure.cause.message]
  kind : failure.kind = failure.cause.kind
  /-- The stage has such failures, and the collaborators said what is quoted of them. -/
  raised : host.Raises failure.stage failure.cause
  backend : failure.kind = .backend →
    failure.stage = .lifecycleExecution ∨ failure.stage = .bucketDelete
  /-- Only the deletion of a bucket fails as one, in its own stage. -/
  deletion : ∀ operation bucket text, failure.cause = .backend operation bucket text →
    (operation = .delete ↔ failure.stage = .bucketDelete)
  credential : failure.kind = .credential → failure.stage = .credentialResolution
  marshal : failure.kind = .marshal → failure.stage = .parsingDescriptor
  nameGeneration : failure.kind = .nameGeneration → failure.stage = .validating
  configParse : failure.kind = .configParse → failure.stage = .resolving

/-- What fails as its stage does is explained by its causes. -/
theorem Explained.of_raises {host : Host} {failure : StageFailure}
    (h : host.Raises failure.stage failure.cause) : Explained host failure := by
  have hbehind := Cause.behind_chain failure.cause
  constructor
  case causes => exact ⟨_, Cause.chain_staged failure, hbehind⟩
  case listed =>
    rw [Cause.chain_staged, List.map_cons, hbehind.map_message]
    rfl
  case fit => exact Cause.isChain_endsWith_chain (.staged failure)
  case text => rfl
  case kind => rfl
  case raised => exact h
  case backend | deletion | credential | marshal | nameGeneration | configParse =>
    -- each row of the table of stages agrees with it
    obtain ⟨subject, stage, cause⟩ := failure
    dsimp only at h
    cases h <;> simp_all [StageFailure.kind, Failure.kind]

/-- An outcome is explained if its failure is, in case it is one. -/
def OutcomeExplained {α : Type} (host : Host) (outcome : Except StageFailure α) : Prop :=
  ∀ failure, outcome = .error failure → Explained host failure

/-- Whatever provisioning, teardown or the report of a teardown fails with is explained by its causes,
whatever the store and the backend answer. -/
theorem failures_explained (provisioner : Provisioner) (host : Host) (progress : Progress)
    (request : ProvisionRequest) (volume : PersistentVolume) :
    OutcomeExplained host ((provisioner.provision request).perform host progress).1 ∧
      OutcomeExplained host ((provisioner.delete volume).perform host progress).1 ∧
      OutcomeExplained host ((TeardownReport.ofVolume volume).perform host progress).1 := by
  rcases progress with ⟨tokens, journal⟩
  refine ⟨?provision, ?delete, ?report⟩
  case provision =>
    obtain ⟨result, left, entries, hperform, hserves⟩ :=
      provisioner.provision_serves host request tokens journal
    rw [hperform]
    rintro failure rfl
    exact .of_raises hserves.raised
  case delete =>
    obtain ⟨result, entries, hperform, htears⟩ :=
      provisioner.delete_tearsDown host volume tokens journal
    rw [hperform]
    intro failure hfailure
    exact .of_raises (htears.raised hfailure)
  case report =>
    rw [TeardownReport.perform_ofVolume]
    intro failure hfailure
    rcases hread : VolumeDescriptor.ofAnnotations volume.annotations with cause | descriptor
    · rw [hread] at hfailure
      obtain rfl := Except.error.inj hfailure
      exact .of_raises (VolumeDescriptor.raises_of_ofAnnotations hread)
    · rw [hread] at hfailure
      cases hfailure

/-- A claim whose secret is in no store: what the store says is the last of three causes. -/
theorem failures_explained_locked :
    ∃ failure, (((Provisioner.mk "driver" "cluster").provision sampleRequest).perform
        (Bench.start ["token"]).host (Bench.start ["token"]).progress).1 = .error failure ∧
      Explained (Bench.start ["token"]).host failure ∧
      failure.sources = [
        "cannot get credentials: cannot get secret secret in namespace default: " ++
          "secrets \"secret\" not found",
        "cannot get secret secret in namespace default: secrets \"secret\" not found",
        "secrets \"secret\" not found"] := by
  have hlocked : failure? (((Provisioner.mk "driver" "cluster").provision sampleRequest).perform
      (Bench.start ["token"]).host (Bench.start ["token"]).progress).1 =
      some ⟨"claim", .credentialResolution,
        .credential (.lookup "secret" "default" "secrets \"secret\" not found")⟩ := by
    decide +kernel
  rw [failure?_eq_some_iff] at hlocked
  exact ⟨_, hlocked, (failures_explained _ _ _ _ {}).1 _ hlocked, by decide⟩

end BucketVolume
