import SacmRuntime.Governance.RequestService

namespace SacmRuntime
open Session

structure AuditExportCreate where
  projectId : Option String
  startSequence : Option Nat
  endSequence : Option Nat
  limit : Nat

structure VerificationReport where
  valid : Bool
  errors : List String
  deriving DecidableEq

namespace AuditExportService

/-- The `document` of `_event_document`. -/
def document (event : TenantAuditEvent) : Json :=
  .obj [("id", .str event.id), ("organization_id", .str event.organizationId),
    ("project_id", .ofOption event.projectId), ("sequence", .int event.sequence), ("actor_id", .str event.actorId),
    ("actor_type", .str event.actorType), ("service_credential_id", .ofOption event.serviceCredentialId),
    ("action", .str event.action), ("resource_type", .str event.resourceType),
    ("resource_id", .ofOption event.resourceId), ("decision", .str event.decision), ("reason", .str event.reason),
    ("correlation_id", .ofOption event.correlationId), ("request_metadata", sanitizeExport event.requestMetadata),
    ("previous_event_hash", .ofOption event.previousEventHash), ("event_hash", .str event.eventHash),
    ("created_at", .str (String.ofList (isoMicroseconds event.createdAt)))]

/-- `_event_document`. -/
def eventDocument (env : GovernanceEnv) (event : TenantAuditEvent) : Json :=
  .obj [("sequence", .int event.sequence), ("previous_event_hash", .ofOption event.previousEventHash),
    ("event_hash", .str event.eventHash), ("event_checksum", .str (canonicalSha256 env (document event))),
    ("event", document event)]

/-- The events an export request selects. A start or end of zero is no bound. -/
def selected (d : GovernanceDb) (organizationId : String) (payload : AuditExportCreate) : List TenantAuditEvent :=
  (Table.orderBy TenantAuditEvent.sequence ((d.eventsOf organizationId).filter fun event =>
    (decide (present payload.projectId = none) || decide (event.projectId = payload.projectId)) &&
      decide (payload.startSequence.getD 0 ≤ event.sequence) &&
      (decide (payload.endSequence.getD 0 = 0) || decide (event.sequence ≤ payload.endSequence.getD 0)))).take
        payload.limit

/-- The manifest of an export that starts and ends with the given events. -/
def manifest (env : GovernanceEnv) (organizationId : String) (projectId : Option String)
    (events : List TenantAuditEvent) (first last : TenantAuditEvent) : Json :=
  .obj [("schema_version", .str "audit-export/v1"), ("organization_id", .str organizationId),
    ("project_id", .ofOption projectId), ("start_sequence", .int first.sequence), ("end_sequence", .int last.sequence),
    ("event_count", .int events.length), ("scope_contiguous", .bool (decide (projectId = none))),
    ("chain_root_hash", .ofOption first.previousEventHash), ("chain_end_hash", .str last.eventHash),
    ("events", .arr (events.map (eventDocument env)))]

/-- The batch `create` stores. -/
def exportBatch (env : GovernanceEnv) (key : SigningKey) (organizationId : String) (projectId : Option String)
    (events : List TenantAuditEvent) (first last : TenantAuditEvent) (id actor : String) (createdAt : Nat) :
    AuditExportBatch :=
  let document := manifest env organizationId projectId events first last
  { id := id, organizationId := organizationId, projectId := projectId, startSequence := first.sequence,
    endSequence := last.sequence, eventCount := events.length, chainRootHash := first.previousEventHash,
    chainEndHash := last.eventHash, canonicalManifest := document,
    manifestChecksum := canonicalSha256 env document, signatureKeyId := env.signingKeyId,
    publicKey := key.publicPem, publicKeyFingerprint := key.fingerprint,
    signature := key.sign (document.text false), createdBy := actor, createdAt := createdAt }

/-- `AuditExportService.create`. -/
def create (env : GovernanceEnv) (auth : Option AuthContext) (organizationId : String) (payload : AuditExportCreate)
    (actor : String) : GovernanceMethod AuditExportBatch := do
  let _ ← TenancyService.requirePermission env auth organizationId actor "audit.export" payload.projectId
    "audit_export" (some organizationId)
  let events ← view fun d => selected d organizationId payload
  match events.head?, events.getLast? with
  | some first, some last =>
    let key ← Tx.ofExcept env.privateKey
    let id ← uuid4
    let createdAt ← utcnow
    let batch := exportBatch env key organizationId payload.projectId events first last id actor createdAt
    let inserted ← view fun d => d.exports.insert? batch
    let exports ← Tx.expect (.integrityError "audit_export_batches.id") inserted
    modify fun d => { d with exports := exports }
    commit
    let _ ← TenancyService.auditSensitive env auth organizationId payload.projectId actor "audit.export.create"
      "audit_export" (some batch.id) "Immutable signed audit export created."
      (some (.obj [("start_sequence", .int batch.startSequence), ("end_sequence", .int batch.endSequence),
        ("manifest_checksum", .str batch.manifestChecksum)]))
    return batch
  | _, _ => Tx.raise (.valueError "No audit events matched the export range.")

/-- The keys from which `verify` rebuilds the hashed record. -/
def canonicalKeys : List String :=
  ["organization_id", "project_id", "sequence", "actor_id", "actor_type", "service_credential_id", "action",
    "resource_type", "resource_id", "decision", "reason", "correlation_id", "request_metadata",
    "previous_event_hash", "created_at"]

def canonicalEvent (document : Json) : Json := .obj (canonicalKeys.map fun key => (key, document.get key))

def intOf : Json → Option Int
  | .int n => some n
  | _ => none

/-- What `verify` finds wrong with one exported event. -/
def eventError (env : GovernanceEnv) (event previous : Json) (previousSequence : Option Int) : Option String :=
  let consecutive := previousSequence.all fun number => event.get "sequence" = .int (number + 1)
  if consecutive ∧ event.get "previous_event_hash" ≠ previous then some "Audit event chain link mismatch."
  else if .str (canonicalSha256 env (event.get "event")) ≠ event.get "event_checksum" then
    some "Audit event checksum mismatch."
  else if event.get "event_hash" ≠ (event.get "event").get "event_hash" then
    some "Audit event hash metadata mismatch."
  else if .str (canonicalSha256 env (canonicalEvent (event.get "event"))) ≠ event.get "event_hash" then
    some "Audit event hash is invalid."
  else none

/-- The loop of `verify`: the first error, and the last hash that was accepted. -/
def eventErrors (env : GovernanceEnv) : List Json → Json → Option Int → Option String × Json
  | [], previous, _ => (none, previous)
  | event :: rest, previous, previousSequence =>
    match eventError env event previous previousSequence with
    | some message => (some message, previous)
    | none => eventErrors env rest (event.get "event_hash") (intOf (event.get "sequence"))

/-- What `verify` reports of the signature. -/
def signatureError : SignatureCheck → List String
  | .valid => []
  | .invalidSignature => ["Audit export signature is invalid."]
  | .invalidMetadata => ["Audit export signature metadata is invalid."]

/-- `AuditExportService.verify`. -/
def verify (env : GovernanceEnv) (batch : AuditExportBatch) : VerificationReport :=
  let manifest := batch.canonicalManifest
  let events := (manifest.get "events").items
  let (chain, previous) := eventErrors env events (manifest.get "chain_root_hash") none
  let errors :=
    (if canonicalSha256 env manifest ≠ batch.manifestChecksum then ["Manifest checksum mismatch."] else []) ++
    chain.toList ++
    (if events ≠ [] ∧ previous ≠ manifest.get "chain_end_hash" then ["Audit chain end hash mismatch."] else []) ++
    signatureError (env.verifySignature batch.publicKey batch.signature (manifest.text false))
  ⟨errors.isEmpty, errors⟩

end AuditExportService

end SacmRuntime
