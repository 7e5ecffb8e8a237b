import BucketVolume.CommandLine.Commands
import BucketVolume.Proofs.Decision
import BucketVolume.Proofs.Teardown
import BucketVolume.Proofs.VolumeJson

/-!
# BucketVolume.Proofs.Inspection — what a dry run prints can be inspected

A dry run prints a report with the volume that would be returned in it. Taken out of the report, in any
of its texts, the volume is read back as it was written, and its annotations as the descriptor that
was written to them; so inspecting it says of the volume what the report says.

* `ProvisionPlan.ofVolume_persistentVolume` — a planned volume is reported as its plan says;
* `FeedsInspect.of_reported` — so it is after it went through any text of the report;
* `plan_feeds_inspect` — this holds of every plan that a request is decided to, and of every report
  that the command prints.
-/

namespace BucketVolume

open Activity Json CommandLine

/-! ## Files -/

/-- The bytes of a text are read as the text. -/
theorem CommandLine.textOfContent_bytesOf (text : String) :
    textOfContent (Text.bytesOf text) = .ok text := by
  have hbytes : (⟨(Text.bytesOf text).toArray⟩ : ByteArray) = text.toByteArray := by
    rw [← String.utf8Encode_toList, List.utf8Encode]
    apply ByteArray.ext
    simp [Text.bytesOf, Text.encode]
  rw [textOfContent, hbytes, String.fromUTF8?, dif_pos text.isValidUTF8]
  rfl

/-! ## Reports of planned volumes -/

/-- What the inspection of a report's volume is to say. -/
def PlanReport.teardown (report : PlanReport) (volumeName iamEndpoint : String) :
    TeardownReport where
  volume := volumeName
  bucket := report.bucket
  deleteBucket := report.deleteOnRemoval
  secretName := report.secretName
  secretNamespace := report.secretNamespace
  endpoint := report.endpoint
  region := report.region
  iamEndpoint := iamEndpoint

namespace ProvisionPlan

variable {request : ProvisionRequest} {tokens left : TokenSource} {plan : ProvisionPlan}

/-- A plan's bucket is deleted if its claim says so, and its secret is the claim's. -/
theorem teardownTarget_eq (h : Decides request tokens plan left) :
    plan.descriptor.teardownTarget =
      { secret := plan.secret
        bucket := plan.bucket.name
        autoDeleteBucket := plan.bucket.deleteOnRemoval
        endpoint := plan.config.endpoint
        region := plan.config.region
        iamEndpoint := plan.config.iamEndpoint } := by
  cases h with
  | generated => rfl
  | kept => rfl

/-- The report of a planned volume says what the dry run's report says. -/
theorem ofVolume_persistentVolume (h : Decides request tokens plan left) (driverName : String)
    (host : Host) (progress : Progress) :
    ((TeardownReport.ofVolume (plan.persistentVolume request driverName)).perform
        host progress).1 =
      .ok ((plan.report request driverName).teardown request.volumeName
        plan.config.iamEndpoint) := by
  rcases progress with ⟨tokens, journal⟩
  have hread : VolumeDescriptor.ofAnnotations
      (plan.persistentVolume request driverName).annotations = .ok plan.descriptor :=
    VolumeDescriptor.ofAnnotations_toAnnotations plan.descriptor
  rw [TeardownReport.perform_ofVolume, hread]
  show Except.ok (TeardownReport.ofTarget request.volumeName plan.descriptor.teardownTarget) = _
  rw [teardownTarget_eq h]
  rfl

end ProvisionPlan

/-! ## Reports as texts -/

/-- The value that an object holds under a name. -/
def Json.member? (name : String) : Json → Option Json
  | .object members => members.lookup name
  | _ => none

/-- The volume that a text holds is reported as `expected`, and that report is what the command answers
when it is given a file with the text. -/
structure InspectedAs (text : String) (expected : TeardownReport) : Prop where
  reported : ∃ volume, PersistentVolume.ofJsonText text = .ok volume ∧
    ∀ host progress, ((TeardownReport.ofVolume volume).perform host progress).1 = .ok expected
  answered : ∀ (s : Surroundings) (path : String), s.contentOf path = .ok (Text.bytesOf text) →
    (Command.inspect path).answer s = .ok expected.toJson

/-- The volume in a report is reported as `expected`, whether it is taken out of the report and
rendered on its own or read where it stands in the rendered report. -/
structure FeedsInspect (report : PlanReport) (expected : TeardownReport) : Prop where
  extracted : ∃ volume, report.toJson.member? "volume" = some volume ∧
    ∀ text, Rendered volume text → InspectedAs text expected
  inPlace : ∀ text, Rendered report.toJson text → ∃ volume,
    readWholeText (onlyMember "volume" PersistentVolume.recordType.read {}).read text = .ok volume ∧
      ∀ host progress, ((TeardownReport.ofVolume volume).perform host progress).1 = .ok expected

theorem readJsonFile_ok {α : Type} {s : Surroundings} {ofJsonText : String → Except ReadProblem α}
    {path text : String} {a : α} (hfile : s.contentOf path = .ok (Text.bytesOf text))
    (hread : ofJsonText text = .ok a) : readJsonFile s ofJsonText path = .ok a := by
  have htext : (s.contentOf path).bind textOfContent = .ok text := by
    rw [hfile]
    exact textOfContent_bytesOf text
  rw [readJsonFile, htext]
  show (ofJsonText text).mapError (CommandFailure.json path) = .ok a
  rw [hread, mapError_ok]

theorem InspectedAs.of_read {text : String} {volume : PersistentVolume} {expected : TeardownReport}
    (hread : PersistentVolume.ofJsonText text = .ok volume)
    (hreport : ∀ host progress,
      ((TeardownReport.ofVolume volume).perform host progress).1 = .ok expected) :
    InspectedAs text expected := by
  constructor
  case reported => exact ⟨volume, hread, hreport⟩
  case answered =>
    intro s path hfile
    have hoffline : runOffline s.token (TeardownReport.ofVolume volume) = .ok expected :=
      hreport _ _
    rw [Command.answer, teardownReport, readJsonFile_ok hfile hread]
    show ((runOffline s.token (TeardownReport.ofVolume volume)).mapError _).map _ = _
    rw [hoffline]
    rfl

theorem PlanReport.lawful_toJson (r : PlanReport) : Lawful r.toJson :=
  ⟨trivial, trivial, trivial, trivial, trivial, trivial, trivial, lawful_ofTexts _,
    r.volume.lawful_toJson, trivial⟩

/-- What a report says before it comes to its volume. -/
def PlanReport.decisions (r : PlanReport) : List (String × Json) := [
  ("claim", .text r.claim), ("bucket", .text r.bucket),
  ("deleteOnRemoval", .bool r.deleteOnRemoval), ("secretName", .text r.secretName),
  ("secretNamespace", .text r.secretNamespace), ("endpoint", .text r.endpoint),
  ("region", .text r.region), ("steps", .ofTexts (r.steps.map PlanStep.label))]

theorem PlanReport.toJson_eq (r : PlanReport) :
    r.toJson = .object (r.decisions ++ [("volume", r.volume.toJson)]) := rfl

/-- The volume is read where it stands in a report. -/
theorem PlanReport.reads_volume (r : PlanReport) :
    Reads (onlyMember "volume" PersistentVolume.recordType.read {}).read r.toJson r.volume := by
  have hnames : r.decisions.map Prod.fst = ["claim", "bucket", "deleteOnRemoval", "secretName",
    "secretNamespace", "endpoint", "region", "steps"] := rfl
  have hbefore : "volume" ∉ r.decisions.map Prod.fst := by
    rw [hnames]
    decide
  rw [r.toJson_eq]
  exact reads_onlyMember r.volume.reads_toJson hbefore List.not_mem_nil

/-- A report whose volume is reported as `expected` feeds the inspection with it. -/
theorem FeedsInspect.of_reported {report : PlanReport} {expected : TeardownReport}
    (hreport : ∀ host progress,
      ((TeardownReport.ofVolume report.volume).perform host progress).1 = .ok expected) :
    FeedsInspect report expected := by
  constructor
  case extracted =>
    refine ⟨report.volume.toJson, rfl, ?_⟩
    intro text htext
    exact .of_read (PersistentVolume.ofJsonText_rendered htext) hreport
  case inPlace =>
    intro text htext
    exact ⟨report.volume, readWholeText_rendered report.reads_volume report.lawful_toJson htext,
      hreport⟩

/-! ## Plans -/

/-- Every plan that a request is decided to has a volume that is inspected as the plan says. -/
theorem feedsInspect_of_prepare {request : ProvisionRequest} {plan : ProvisionPlan} {host : Host}
    {progress : Progress}
    (h : ((ProvisionPlan.prepare request).perform host progress).1 = .ok plan)
    (driverName : String) :
    FeedsInspect (plan.report request driverName)
      ((plan.report request driverName).teardown request.volumeName plan.config.iamEndpoint) := by
  rcases progress with ⟨tokens, journal⟩
  rw [ProvisionPlan.perform_prepare] at h
  have hdecides := ProvisionPlan.decides_of_decided (Prod.ext h rfl)
  exact .of_reported fun host progress => plan.ofVolume_persistentVolume hdecides driverName host
    progress

/-- The request that `plan` makes of its options and of what its files hold. -/
def CommandLine.requestOf (namespaceName claimName volumeName : String)
    (claimAnnotations classParameters : Annotations) : ProvisionRequest where
  volumeName := volumeName
  claimName := claimName
  claimNamespace := namespaceName
  claimAnnotations := claimAnnotations
  classParameters := classParameters

/-- A report that the command makes is that of a plan for what its files hold. -/
theorem planReport_ok {s : Surroundings} {claim cls namespaceName claimName volumeName : String}
    {report : PlanReport}
    (h : planReport s claim cls namespaceName claimName volumeName = .ok report) :
    ∃ claimAnnotations classParameters request driverName plan,
      readJsonFile s Annotations.ofJsonText claim = .ok claimAnnotations ∧
      readJsonFile s Annotations.ofJsonText cls = .ok classParameters ∧
      request = requestOf namespaceName claimName volumeName claimAnnotations classParameters ∧
      runOffline s.token (ProvisionPlan.prepare request) = .ok plan ∧
      report = plan.report request driverName := by
  rcases exists_of_bind_ok h with ⟨settings, -, h⟩
  rcases exists_of_bind_ok h with ⟨_, -, h⟩
  rcases exists_of_bind_ok h with ⟨claimAnnotations, hclaim, h⟩
  rcases exists_of_bind_ok h with ⟨classParameters, hcls, h⟩
  rcases exists_of_bind_ok h with ⟨plan, hplan, h⟩
  exact ⟨claimAnnotations, classParameters, _, settings.driverName, plan, hclaim, hcls, rfl,
    ok_of_mapError_ok _ hplan, (Except.ok.inj h).symm⟩

/-- What a dry run reports can be inspected, and so can everything that the command prints. -/
theorem plan_feeds_inspect :
    (∀ (request : ProvisionRequest) (driverName : String) (host : Host) (progress : Progress)
      (plan : ProvisionPlan),
      ((ProvisionPlan.prepare request).perform host progress).1 = .ok plan →
        FeedsInspect (plan.report request driverName)
          ((plan.report request driverName).teardown request.volumeName
            plan.config.iamEndpoint)) ∧
    ∀ (s : Surroundings) (claim cls namespaceName claimName volumeName : String) (json : Json),
      (Command.plan claim cls namespaceName claimName volumeName).answer s = .ok json →
        ∃ claimAnnotations classParameters request driverName plan,
          readJsonFile s Annotations.ofJsonText claim = .ok claimAnnotations ∧
          readJsonFile s Annotations.ofJsonText cls = .ok classParameters ∧
          request =
            requestOf namespaceName claimName volumeName claimAnnotations classParameters ∧
          runOffline s.token (ProvisionPlan.prepare request) = .ok plan ∧
          json = (plan.report request driverName).toJson ∧
          FeedsInspect (plan.report request driverName)
            ((plan.report request driverName).teardown volumeName plan.config.iamEndpoint) := by
  constructor
  · intro request driverName host progress plan h
    exact feedsInspect_of_prepare h driverName
  · intro s claim cls namespaceName claimName volumeName json h
    rcases exists_of_map_ok h with ⟨report, hreport, rfl⟩
    rcases planReport_ok hreport with
      ⟨claimAnnotations, classParameters, request, driverName, plan, hclaim, hcls, rfl, hplan, rfl⟩
    exact ⟨claimAnnotations, classParameters, _, driverName, plan, hclaim, hcls, rfl, hplan, rfl,
      feedsInspect_of_prepare hplan driverName⟩

/-! ### A claim whose texts are escaped -/

/-- A claim with texts that JSON writes in escapes. -/
def quotedRequest : ProvisionRequest where
  volumeName := "volume"
  claimName := "claim"
  claimNamespace := "default"
  claimAnnotations := .ofList [
    (Key.bucket, "\"quoted\\bucket\""), (Key.secretName, "line\nend"),
    (Key.endpoint, "https://s3.test"), (Key.iamEndpoint, "https://iam.test")]

/-- Files that hold the claim, and a storage class that says nothing. -/
def quotedFiles : Surroundings where
  env := []
  settingsFile := none
  contentOf path := .ok (Text.bytesOf
    (if path = "claim.json" then quotedRequest.claimAnnotations.toJson.pretty
    else quotedRequest.classParameters.toJson.pretty))
  token := "token"

theorem plan_feeds_inspect_quoted :
    (∃ plan, runOffline "token" (ProvisionPlan.prepare quotedRequest) = .ok plan ∧
      FeedsInspect (plan.report quotedRequest "driver")
        ((plan.report quotedRequest "driver").teardown "volume" plan.config.iamEndpoint)) ∧
    ∃ json report expected,
      (Command.plan "claim.json" "class.json" "default" "claim" "volume").answer quotedFiles =
        .ok json ∧ json = report.toJson ∧ FeedsInspect report expected := by
  constructor
  · have hplan : (runOffline "token" (ProvisionPlan.prepare quotedRequest)).isOk = true := by
      decide +kernel
    cases hresult : runOffline "token" (ProvisionPlan.prepare quotedRequest) with
    | error failure =>
      rw [hresult] at hplan
      cases hplan
    | ok plan => exact ⟨plan, rfl, plan_feeds_inspect.1 _ _ _ _ plan hresult⟩
  · have hclaim : readJsonFile quotedFiles Annotations.ofJsonText "claim.json" =
        .ok quotedRequest.claimAnnotations :=
      readJsonFile_ok rfl (Annotations.ofJsonText_rendered .pretty)
    have hcls : readJsonFile quotedFiles Annotations.ofJsonText "class.json" =
        .ok quotedRequest.classParameters :=
      readJsonFile_ok rfl (Annotations.ofJsonText_rendered .pretty)
    have hanswer : ((Command.plan "claim.json" "class.json" "default" "claim" "volume").answer
        quotedFiles).isOk = true := by
      rw [Command.answer, planReport, hclaim, hcls]
      decide +kernel
    cases hresult : (Command.plan "claim.json" "class.json" "default" "claim" "volume").answer
        quotedFiles with
    | error failure =>
      rw [hresult] at hanswer
      cases hanswer
    | ok json =>
      rcases plan_feeds_inspect.2 _ _ _ _ _ _ json hresult with
        ⟨_, _, request, driverName, plan, -, -, -, -, rfl, hfeeds⟩
      exact ⟨_, plan.report request driverName, _, rfl, rfl, hfeeds⟩

end BucketVolume
