import SacmRuntime.Cognitive.CommitRuns
import SacmRuntime.Cognitive.ImpactAnalysis
import SacmRuntime.Governance.AuditWindow
import SacmRuntime.Governance.Batches
import SacmRuntime.Governance.Cursor
import SacmRuntime.Governance.EncryptedBackups
import SacmRuntime.Governance.ExportVerification
import SacmRuntime.Governance.HonestAttestations
import SacmRuntime.Governance.LegalHolds
import SacmRuntime.Governance.MemoryMerging
import SacmRuntime.Governance.PolicyActivation
import SacmRuntime.Governance.SecretProviders
import SacmRuntime.Runtime.ApprovalHistory
import SacmRuntime.Runtime.CandidateChanges
import SacmRuntime.Runtime.CompiledBudget
import SacmRuntime.Runtime.CompletionGate
import SacmRuntime.Runtime.EventPages
import SacmRuntime.Runtime.FaithfulDelivery
import SacmRuntime.Runtime.FingerprintedSources
import SacmRuntime.Runtime.GitHubDeliveries
import SacmRuntime.Runtime.HonouredPlans
import SacmRuntime.Runtime.ImpactCut
import SacmRuntime.Runtime.JiraPublished
import SacmRuntime.Runtime.LatestExecution
import SacmRuntime.Runtime.LiveTelemetry
import SacmRuntime.Runtime.OutcomeRouting
import SacmRuntime.Runtime.PatchRollback
import SacmRuntime.Runtime.PlanCoverage
import SacmRuntime.Runtime.PlanPolicy
import SacmRuntime.Runtime.QueuedJobs
import SacmRuntime.Runtime.RecoveryJobs
import SacmRuntime.Runtime.RedactedValues
import SacmRuntime.Runtime.RemoteRejection
import SacmRuntime.Runtime.RepeatedEvidence
import SacmRuntime.Runtime.RepeatedOrchestration
import SacmRuntime.Runtime.RepeatedPatch
import SacmRuntime.Runtime.SanitizedResults
import SacmRuntime.Runtime.SnapshotHandoff
import SacmRuntime.Runtime.SnapshotMerged
import SacmRuntime.Runtime.SnapshotParents
import SacmRuntime.Runtime.StatusChanges
import SacmRuntime.Runtime.StrandedJobs
import SacmRuntime.Runtime.TaskRunLease
import SacmRuntime.Runtime.TenantLeases
import SacmRuntime.Runtime.UsageTotals
import SacmRuntime.Runtime.VerifiedBundle
import SacmRuntime.Runtime.VerifiedCompletion
import SacmRuntime.Runtime.WorkConserving
import SacmRuntime.Runtime.WorkflowBudget
import SacmRuntime.Runtime.WorkflowClaims
import SacmRuntime.Runtime.ResourceRetry
import SacmRuntime.Runtime.CredentialLeases
import SacmRuntime.Runtime.TaskIntake
