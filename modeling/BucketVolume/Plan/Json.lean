import BucketVolume.Plan
import BucketVolume.Teardown
import BucketVolume.Volume.Json

/-!
# BucketVolume.Plan.Json — the reports as JSON
-/

namespace BucketVolume

def PlanReport.toJson (r : PlanReport) : Json :=
  .object [
    ("claim", .text r.claim),
    ("bucket", .text r.bucket),
    ("deleteOnRemoval", .bool r.deleteOnRemoval),
    ("secretName", .text r.secretName),
    ("secretNamespace", .text r.secretNamespace),
    ("endpoint", .text r.endpoint),
    ("region", .text r.region),
    ("steps", .ofTexts (r.steps.map PlanStep.label)),
    ("volume", r.volume.toJson)]

def TeardownReport.toJson (r : TeardownReport) : Json :=
  .object [
    ("volume", .text r.volume),
    ("bucket", .text r.bucket),
    ("deleteBucket", .bool r.deleteBucket),
    ("secretName", .text r.secretName),
    ("secretNamespace", .text r.secretNamespace),
    ("endpoint", .text r.endpoint),
    ("region", .text r.region),
    ("iamEndpoint", .text r.iamEndpoint)]

end BucketVolume
