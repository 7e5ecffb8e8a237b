import BucketVolume.Bench
import BucketVolume.Main
import BucketVolume.Proofs.AnyBackend
import BucketVolume.Proofs.AuditTrail
import BucketVolume.Proofs.CanonicalForm
import BucketVolume.Proofs.Causes
import BucketVolume.Proofs.CopiedVolume
import BucketVolume.Proofs.CredentialResolution
import BucketVolume.Proofs.Decimal
import BucketVolume.Proofs.DeletionSafety
import BucketVolume.Proofs.DryRun
import BucketVolume.Proofs.Inspection
import BucketVolume.Proofs.IntegerTexts
import BucketVolume.Proofs.Interference
import BucketVolume.Proofs.Isolation
import BucketVolume.Proofs.Listings
import BucketVolume.Proofs.LossyDecoding
import BucketVolume.Proofs.Merging
import BucketVolume.Proofs.MountOptions
import BucketVolume.Proofs.OfflineChecks
import BucketVolume.Proofs.Policy
import BucketVolume.Proofs.ProcessSettings
import BucketVolume.Proofs.Redaction
import BucketVolume.Proofs.Relevance
import BucketVolume.Proofs.RoundTrip
import BucketVolume.Proofs.Secrecy
import BucketVolume.Proofs.Stages
import BucketVolume.Proofs.TeardownKeys
import BucketVolume.Proofs.TokenAccounting
