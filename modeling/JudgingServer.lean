import JudgingServer.Proofs.APIKeys
import JudgingServer.Proofs.ArtifactPaths
import JudgingServer.Proofs.Attempts
import JudgingServer.Proofs.BatchRefinement
import JudgingServer.Proofs.Bindings
import JudgingServer.Proofs.Boundaries
import JudgingServer.Proofs.BundleRuns
import JudgingServer.Proofs.CacheBytes
import JudgingServer.Proofs.CacheCalls
import JudgingServer.Proofs.Cancellation
import JudgingServer.Proofs.ExactOutputs
import JudgingServer.Proofs.Fairness
import JudgingServer.Proofs.Pagination
import JudgingServer.Proofs.Redaction
import JudgingServer.Proofs.RequestSizes
import JudgingServer.Proofs.Staging
import JudgingServer.Proofs.TaskRegistry
import JudgingServer.Proofs.TenantIsolation
import JudgingServer.Proofs.TokenBucket
import JudgingServer.Proofs.UploadMetadata
import JudgingServer.Proofs.WebhookTiming
