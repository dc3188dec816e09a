import SacmRuntime.Runtime.Rows

namespace SacmRuntime

/-- `RESOURCE_CATEGORIES`. -/
inductive ResourceCategory where
  | sourceContext | taskMetadata | runtimeEvents | logs | artifacts | evidence | backups | analytics | audit
  deriving DecidableEq

def ResourceCategory.name : ResourceCategory → String
  | .sourceContext => "source_context"
  | .taskMetadata => "task_metadata"
  | .runtimeEvents => "runtime_events"
  | .logs => "logs"
  | .artifacts => "artifacts"
  | .evidence => "evidence"
  | .backups => "backups"
  | .analytics => "analytics"
  | .audit => "audit"

inductive RequestType where
  | export | deletion
  deriving DecidableEq

def RequestType.name : RequestType → String
  | .export => "EXPORT"
  | .deletion => "DELETION"

inductive SubjectType where
  | tenant | dataSubject
  deriving DecidableEq

def SubjectType.name : SubjectType → String
  | .tenant => "TENANT"
  | .dataSubject => "DATA_SUBJECT"

inductive RequestStatus where
  | pendingApproval | approved | inventoried | processing | blocked | completed | failed | cancelled
  deriving DecidableEq

def RequestStatus.name : RequestStatus → String
  | .pendingApproval => "PENDING_APPROVAL"
  | .approved => "APPROVED"
  | .inventoried => "INVENTORIED"
  | .processing => "PROCESSING"
  | .blocked => "BLOCKED"
  | .completed => "COMPLETED"
  | .failed => "FAILED"
  | .cancelled => "CANCELLED"

inductive ItemStatus where
  | pending | exported | tombstoned | cryptographicallyDeleted | deleted | preserved | blockedLegalHold | failed
  deriving DecidableEq

def ItemStatus.name : ItemStatus → String
  | .pending => "PENDING"
  | .exported => "EXPORTED"
  | .tombstoned => "TOMBSTONED"
  | .cryptographicallyDeleted => "CRYPTOGRAPHICALLY_DELETED"
  | .deleted => "DELETED"
  | .preserved => "PRESERVED"
  | .blockedLegalHold => "BLOCKED_LEGAL_HOLD"
  | .failed => "FAILED"

inductive Preservation where
  | preserve | tombstone | delete
  deriving DecidableEq

def Preservation.name : Preservation → String
  | .preserve => "PRESERVE"
  | .tombstone => "TOMBSTONE"
  | .delete => "DELETE"

inductive DeletionMode where
  | tombstone | cryptographic | hardDelete
  deriving DecidableEq

def DeletionMode.name : DeletionMode → String
  | .tombstone => "TOMBSTONE"
  | .cryptographic => "CRYPTOGRAPHIC"
  | .hardDelete => "HARD_DELETE"

inductive HoldStatus where
  | active | released
  deriving DecidableEq

inductive PolicyStatus where
  | draft | active | retired
  deriving DecidableEq

inductive SinkType where
  | httpWebhook | syslog | file | objectStorage
  deriving DecidableEq

def SinkType.name : SinkType → String
  | .httpWebhook => "HTTP_WEBHOOK"
  | .syslog => "SYSLOG"
  | .file => "FILE"
  | .objectStorage => "OBJECT_STORAGE"

inductive SinkStatus where
  | active | paused | disabled
  deriving DecidableEq

inductive DeliveryStatus where
  | pending | retry | delivered | deadLetter
  deriving DecidableEq

structure Organization where
  id : String
  dataRegion : Option String
  dataClassification : Option String

structure Membership where
  organizationId : String
  actorId : String
  role : String
  permissions : Option (List String)

structure ServiceCredential where
  id : String
  organizationId : String
  projectId : Option String
  role : String
  permissions : List String
  expiresAt : Option Nat
  revokedAt : Option Nat
  tokenHash : String
  lastUsedAt : Option Nat

structure TenantAuditEvent where
  id : String
  organizationId : String
  projectId : Option String
  sequence : Nat
  actorId : String
  actorType : String
  serviceCredentialId : Option String
  action : String
  resourceType : String
  resourceId : Option String
  decision : String
  reason : String
  correlationId : Option String
  requestMetadata : Json
  dataRegion : Option String
  dataClassification : Option String
  previousEventHash : Option String
  eventHash : String
  createdAt : Nat

structure DataGovernancePolicy where
  id : String
  organizationId : String
  projectId : Option String
  version : Nat
  status : PolicyStatus

structure DataGovernancePolicyRule where
  policyId : String
  resourceCategory : ResourceCategory
  legalHold : Bool
  deletionMode : DeletionMode
  exportable : Bool
  evidencePreservation : Preservation

structure GovernanceLegalHold where
  id : String
  organizationId : String
  projectId : Option String
  resourceCategory : Option ResourceCategory
  resourceType : Option String
  resourceId : Option String
  subjectIdHash : Option String
  reason : String
  status : HoldStatus
  createdBy : String
  releasedBy : Option String
  createdAt : Nat
  releasedAt : Option Nat

structure GovernanceRequest where
  id : String
  organizationId : String
  projectId : Option String
  requestType : RequestType
  subjectType : SubjectType
  subjectIdHash : Option String
  requestedCategories : List ResourceCategory
  status : RequestStatus
  dryRunCompleted : Bool
  inventoryHash : Option String
  inventoryCount : Nat
  processedCount : Nat
  blockedCount : Nat
  processingCursor : Nat
  evidencePreservationPolicy : Preservation
  outputManifest : Option Json
  requestedBy : String
  approvedBy : Option String
  approvalReason : Option String
  createdAt : Nat
  approvedAt : Option Nat
  completedAt : Option Nat

structure GovernanceRequestItem where
  id : String
  requestId : String
  position : Nat
  resourceCategory : ResourceCategory
  resourceType : String
  resourceId : String
  status : ItemStatus
  action : RequestType
  checksum : String
  legalHoldId : Option String
  deletionMetadata : Option Json
  exportMetadata : Option Json
  attempts : Nat
  processedAt : Option Nat

inductive RecordModel where
  | task | artifact | evidencePack | backup | runOutcomeAnalytics | tenantAuditEvent | contextEvent | memoryChunk
  | runtimeEvent
  deriving DecidableEq

/-- The `resource_type` of an inventoried row. -/
def RecordModel.name : RecordModel → String
  | .task => "task"
  | .artifact => "artifact"
  | .evidencePack => "evidence_pack"
  | .backup => "backup"
  | .runOutcomeAnalytics => "run_outcome_analytics"
  | .tenantAuditEvent => "tenant_audit_event"
  | .contextEvent => "context_event"
  | .memoryChunk => "memory_chunk"
  | .runtimeEvent => "runtime_event"

/-- A row of one of these models. `organizationId` and `projectId` are those
of its run for a runtime event; a backup has no project. `subjectFields` are
the columns `_record_subject_hash` reads, in its order, and `columns` the ones
`_snapshot` reads beside the identifier. -/
structure Record where
  model : RecordModel
  id : String
  organizationId : Option String
  projectId : Option String
  eventType : Option String
  subjectFields : List Json
  columns : List (String × Json)

structure AuditExportBatch where
  id : String
  organizationId : String
  projectId : Option String
  startSequence : Nat
  endSequence : Nat
  eventCount : Nat
  chainRootHash : Option String
  chainEndHash : String
  canonicalManifest : Json
  manifestChecksum : String
  signatureKeyId : String
  publicKey : String
  publicKeyFingerprint : String
  signature : String
  createdBy : String
  createdAt : Nat

structure SIEMSink where
  id : String
  organizationId : String
  projectId : Option String
  sinkType : SinkType
  status : SinkStatus
  storageMetadata : Json
  credentialReferenceHash : Option String
  signingReferenceHash : Option String
  cursorSequence : Nat
  batchSize : Nat
  maxAttempts : Nat
  backoffSeconds : Nat
  lastSuccessAt : Option Nat
  lastFailureAt : Option Nat
  lastErrorCode : Option String

structure SIEMDelivery where
  id : String
  sinkId : String
  organizationId : String
  firstSequence : Nat
  lastSequence : Nat
  eventCount : Nat
  idempotencyKey : String
  payloadChecksum : String
  payloadSignature : String
  payloadMetadata : Json
  status : DeliveryStatus
  attempts : Nat
  nextAttemptAt : Option Nat
  responseMetadata : Option Json
  errorCode : Option String
  createdAt : Nat
  deliveredAt : Option Nat

instance : Keyed Organization := ⟨Organization.id⟩
instance : Keyed ServiceCredential := ⟨ServiceCredential.id⟩
instance : Keyed DataGovernancePolicy := ⟨DataGovernancePolicy.id⟩
instance : Keyed GovernanceLegalHold := ⟨GovernanceLegalHold.id⟩
instance : Keyed GovernanceRequest := ⟨GovernanceRequest.id⟩
instance : Keyed GovernanceRequestItem := ⟨GovernanceRequestItem.id⟩
instance : Keyed AuditExportBatch := ⟨AuditExportBatch.id⟩
instance : Keyed SIEMSink := ⟨SIEMSink.id⟩
instance : Keyed SIEMDelivery := ⟨SIEMDelivery.id⟩

structure GovernanceDb where
  organizations : Table Organization := .empty
  projects : Table Project := .empty
  memberships : List Membership := []
  credentials : Table ServiceCredential := .empty
  auditEvents : List TenantAuditEvent := []
  policies : Table DataGovernancePolicy := .empty
  rules : List DataGovernancePolicyRule := []
  holds : Table GovernanceLegalHold := .empty
  requests : Table GovernanceRequest := .empty
  items : Table GovernanceRequestItem := .empty
  records : List Record := []
  exports : Table AuditExportBatch := .empty
  sinks : Table SIEMSink := .empty
  deliveries : Table SIEMDelivery := .empty

abbrev GovernanceMethod (α : Type) : Type := Tx (Session GovernanceDb) Error α

/-- The private key of an export: what it signs, and its public half. -/
structure SigningKey where
  sign : String → String
  publicPem : String
  fingerprint : String

/-- What `public_key.verify` does with a signature. -/
inductive SignatureCheck where
  | valid | invalidSignature | invalidMetadata
  deriving DecidableEq

/-- What the governance services read from their surroundings: hashes, keys,
secrets and configuration. -/
structure GovernanceEnv where
  sha256 : String → String
  hmacSha256 : String → String → String
  autoflush : Bool
  secretResolver : String → Option String
  privateKey : Except Error SigningKey
  verifySignature : String → String → String → SignatureCheck
  signingKeyId : String

/-- `current_auth_context()`. -/
structure AuthContext where
  actorId : String
  actorType : String
  serviceCredentialId : Option String
  correlationId : Option String

end SacmRuntime
