import SacmRuntime.Lib.Clock
import SacmRuntime.Lib.JsonText
import SacmRuntime.Lib.Session
import SacmRuntime.Lib.Table

namespace SacmRuntime

inductive RunStatus where
  | created | planning | awaitingApproval | implementing | reviewing | fixing | testing | delivering
  | failed | completed | cancelled
  deriving DecidableEq

def RunStatus.name : RunStatus → String
  | .created => "CREATED"
  | .planning => "PLANNING"
  | .awaitingApproval => "AWAITING_APPROVAL"
  | .implementing => "IMPLEMENTING"
  | .reviewing => "REVIEWING"
  | .fixing => "FIXING"
  | .testing => "TESTING"
  | .delivering => "DELIVERING"
  | .failed => "FAILED"
  | .completed => "COMPLETED"
  | .cancelled => "CANCELLED"

inductive StepStatus where
  | pending | running | awaitingApproval | completed | failed | cancelled | interrupted
  deriving DecidableEq

def StepStatus.name : StepStatus → String
  | .pending => "PENDING"
  | .running => "RUNNING"
  | .awaitingApproval => "AWAITING_APPROVAL"
  | .completed => "COMPLETED"
  | .failed => "FAILED"
  | .cancelled => "CANCELLED"
  | .interrupted => "INTERRUPTED"

inductive ApprovalStatus where
  | pending | approved | rejected | expired | superseded
  deriving DecidableEq

inductive JobState where
  | queued | leased | running | completed | failed | expired | cancelled | deadLetter
  deriving DecidableEq

def JobState.name : JobState → String
  | .queued => "QUEUED"
  | .leased => "LEASED"
  | .running => "RUNNING"
  | .completed => "COMPLETED"
  | .failed => "FAILED"
  | .expired => "EXPIRED"
  | .cancelled => "CANCELLED"
  | .deadLetter => "DEAD_LETTER"

inductive WorkflowJobState where
  | queued | running | completed | failed | cancelled
  deriving DecidableEq

inductive ExecutorStatus where
  | active | offline | revoked
  deriving DecidableEq

/-- The exceptions the services raise, with their texts. -/
inductive Error where
  | valueError (message : String)
  | keyError (key : String)
  | permissionError (message : String)
  | integrityError (message : String)
  | executionConflict (message : String)
  | executorAuthenticationError (message : String)
  | executionAuthorizationError (message : String)
  | attributeError (message : String)
  | runtimeError (message : String)
  | other (className message : String)
  deriving DecidableEq

structure Project where
  id : String
  organizationId : String
  dataRegion : Option String
  dataClassification : Option String

structure Task where
  id : String
  organizationId : Option String
  projectId : Option String
  tenantAttribution : Option Json
  dataRegion : Option String
  dataClassification : Option String
  title : String
  description : String
  status : String
  targetRepoPath : Option String

structure Run where
  id : String
  organizationId : Option String
  projectId : Option String
  tenantAttribution : Option Json
  dataRegion : Option String
  dataClassification : Option String
  taskId : String
  status : RunStatus
  workflowVersion : String
  sourceRevision : Option String
  targetRepoPath : Option String
  cancellationRequested : Bool
  updatedAt : Option Nat
  startedAt : Option Nat
  completedAt : Option Nat
  supplyChainStatus : String
  missingSupplyChainEvidence : List String
  recoveryState : Option Json
  recoveryAttemptCount : Int
  lastFailureClassification : Option String
  lastRecoveryAction : Option String

structure RunStep where
  id : String
  runId : String
  sequence : Nat
  name : String
  status : StepStatus
  idempotencyKey : String
  input : Json
  output : Option Json
  retryCount : Nat
  startedAt : Option Nat
  completedAt : Option Nat

structure RuntimeEvent where
  runId : String
  stepId : Option String
  sequence : Nat
  eventType : String
  actor : String
  correlationId : String
  payload : Json
  dataRegion : Option String
  dataClassification : Option String
  previousEventHash : Option String
  eventHash : String
  occurredAt : Nat
  deriving DecidableEq

/-- `run_state` of a snapshot. The source stores instants as ISO texts and
parses them back; the instants themselves are kept here. -/
structure RunState where
  runId : String
  taskId : String
  status : RunStatus
  sourceRevision : Option String
  targetRepoPath : Option String
  cancellationRequested : Bool
  recoveryState : Option Json
  recoveryAttemptCount : Int
  lastFailureClassification : Option String
  lastRecoveryAction : Option String
  startedAt : Option Nat
  completedAt : Option Nat

/-- What a snapshot records; its checksum is taken over exactly this. -/
structure SnapshotContent where
  schemaVersion : String
  runId : String
  taskId : String
  eventSequence : Nat
  eventHash : String
  workflowVersion : String
  runState : RunState
  stepState : List RunStep
  executionPlanSummary : Json
  contextSummary : Json
  parentSnapshotId : Option String
  creationReason : String

structure RunSnapshot where
  id : String
  organizationId : Option String
  projectId : Option String
  checksum : String
  content : SnapshotContent
  createdAt : Nat

structure RunReplay where
  organizationId : Option String
  projectId : Option String
  sourceRunId : String
  sourceSnapshotId : String
  replayRunId : String
  overrides : Json
  replayReason : String

structure EvidencePack where
  id : String
  runId : String
  manifestHash : String
  createdAt : Nat

structure ExecutionPlan where
  id : String
  taskId : String
  revision : Nat
  schemaVersion : String
  status : String
  sourceHash : String
  applicationContextId : String
  stepCount : Nat
  secretRequirements : List Json

structure Approval where
  id : String
  runId : String
  organizationId : Option String
  projectId : Option String
  action : String
  resource : Json
  resourceDigest : Option String
  status : ApprovalStatus
  requestedAt : Nat
  expiresAt : Option Nat
  decidedAt : Option Nat
  decidedBy : Option String
  decisionReason : Option String

structure ContextEvent where
  id : String
  taskId : String
  eventType : String
  payload : Json
  createdAt : Nat

structure LifecycleMetric where
  metric : String
  runId : String
  taskId : Option String
  details : Json

structure ExecutorRegistration where
  id : String
  organizationId : Option String
  projectId : Option String
  customerDeploymentId : Option String
  capabilities : List String
  labels : List (String × String)
  publicSigningKey : String
  signingKeyFingerprint : String
  status : ExecutorStatus
  lastHeartbeatAt : Option Nat
  revokedAt : Option Nat
  revokedBy : Option String
  revocationReason : Option String
  scopeKey : String
  executorIdentity : String
  authTokenHash : String

structure ExecutionJob where
  id : String
  organizationId : Option String
  projectId : Option String
  customerDeploymentId : Option String
  scopeKey : String
  runId : String
  runStepId : String
  taskId : String
  state : JobState
  idempotencyKey : String
  requiredCapabilities : List String
  requiredLabels : List (String × String)
  secretRequirements : List Json
  payloadContract : Json
  payloadHash : String
  payloadSignature : String
  attempt : Nat
  maxAttempts : Nat
  recoveryCount : Nat
  lastRecoveryReason : Option String
  leaseOwnerId : Option String
  leaseTokenHash : Option String
  leaseExpiresAt : Option Nat
  leaseHeartbeatAt : Option Nat
  resultContract : Option Json
  resultHash : Option String
  resultSignature : Option String
  resultSignatureMetadata : Option Json
  failure : Option Json
  queuedAt : Nat
  leasedAt : Option Nat
  startedAt : Option Nat
  completedAt : Option Nat
  failedAt : Option Nat
  expiredAt : Option Nat
  cancelledAt : Option Nat
  deadLetteredAt : Option Nat
  updatedAt : Nat

/-- `workflow_jobs`: the local queue has one job for a run. -/
structure WorkflowJob where
  id : String
  runId : String
  state : WorkflowJobState
  attempt : Nat
  maxAttempts : Int
  availableAt : Nat
  leaseToken : Option String
  leaseExpiresAt : Option Nat
  lastError : Option String
  createdAt : Nat
  startedAt : Option Nat
  completedAt : Option Nat

structure CredentialLease where
  id : String
  jobId : String
  executorId : String
  expiresAt : Nat
  revokedAt : Option Nat
  revokedBy : Option String
  revocationReason : Option String

instance : Keyed Project := ⟨Project.id⟩
instance : Keyed Task := ⟨Task.id⟩
instance : Keyed Run := ⟨Run.id⟩
instance : Keyed RunStep := ⟨RunStep.id⟩
instance : Keyed Approval := ⟨Approval.id⟩
instance : Keyed ExecutorRegistration := ⟨ExecutorRegistration.id⟩
instance : Keyed ExecutionJob := ⟨ExecutionJob.id⟩
instance : Keyed WorkflowJob := ⟨WorkflowJob.id⟩
instance : Keyed CredentialLease := ⟨CredentialLease.id⟩

/-- The tables the run, approval and execution services share. -/
structure Db where
  projects : Table Project := .empty
  tasks : Table Task := .empty
  runs : Table Run := .empty
  steps : Table RunStep := .empty
  events : List RuntimeEvent := []
  snapshots : List RunSnapshot := []
  replays : List RunReplay := []
  packs : List EvidencePack := []
  plans : List ExecutionPlan := []
  approvals : Table Approval := .empty
  contextEvents : List ContextEvent := []
  metrics : List LifecycleMetric := []
  executors : Table ExecutorRegistration := .empty
  jobs : Table ExecutionJob := .empty
  workflowJobs : Table WorkflowJob := .empty
  leases : Table CredentialLease := .empty

abbrev Service (α : Type) : Type := Tx (Session Db) Error α

end SacmRuntime
