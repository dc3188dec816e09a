import SacmRuntime.Governance.AuditExport

namespace SacmRuntime
open Session

/-- What the HTTP adapter makes of one delivery: a receipt, or the error code
of the exception it raised. The metadata adapter is part of the model. -/
abbrev HttpAdapter : Type := SIEMSink → SIEMDelivery → String → Except String Json

structure DrainReport where
  delivered : Nat := 0
  retried : Nat := 0
  deadLettered : Nat := 0
  cursorSequence : Nat := 0

namespace SIEMService

def updateSink (sinkId : String) (f : SIEMSink → SIEMSink) (d : GovernanceDb) : GovernanceDb :=
  { d with sinks := d.sinks.update sinkId f }

def updateDelivery (deliveryId : String) (f : SIEMDelivery → SIEMDelivery) (d : GovernanceDb) : GovernanceDb :=
  { d with deliveries := d.deliveries.update deliveryId f }

/-- `_authorized`. -/
def authorized (env : GovernanceEnv) (auth : Option AuthContext) (organizationId sinkId actor permission : String) :
    GovernanceMethod SIEMSink := do
  let found ← view fun d => (d.sinks.find sinkId).filter fun sink => sink.organizationId = organizationId
  let sink ← Tx.expect (.valueError "SIEM sink not found.") found
  let _ ← TenancyService.requirePermission env auth organizationId actor permission sink.projectId "siem_sink"
    (some sink.id)
  return sink

/-- `_secret`. -/
def secret (env : GovernanceEnv) (reference : Option String) : Except Error String :=
  match present reference with
  | none => .error (.valueError "SIEM secret reference is not configured.")
  | some hash =>
    match present (env.secretResolver hash) with
    | none => .error (.valueError "SIEM secret reference could not be resolved.")
    | some value => .ok value

/-- `_payload`. -/
def payload (sink : SIEMSink) (events : List TenantAuditEvent) : Json :=
  .obj [("schema_version", .str "siem-audit-batch/v1"), ("sink_id", .str sink.id),
    ("organization_id", .str sink.organizationId), ("project_id", .ofOption sink.projectId),
    ("events", .arr (events.map AuditExportService.document))]

def nextBatch (d : GovernanceDb) (sink : SIEMSink) : List TenantAuditEvent :=
  (Table.orderBy TenantAuditEvent.sequence ((d.eventsOf sink.organizationId).filter fun event =>
    decide (sink.cursorSequence < event.sequence) &&
      (decide (present sink.projectId = none) || decide (event.projectId = sink.projectId)))).take sink.batchSize

/-- The events `_deliver` reads back for a delivery. -/
def rangeEvents (d : GovernanceDb) (sink : SIEMSink) (delivery : SIEMDelivery) : List TenantAuditEvent :=
  Table.orderBy TenantAuditEvent.sequence ((d.eventsOf sink.organizationId).filter fun event =>
    decide (delivery.firstSequence ≤ event.sequence) && decide (event.sequence ≤ delivery.lastSequence))

def idempotencyKey (env : GovernanceEnv) (sink : SIEMSink) (first last : TenantAuditEvent) (checksum : String) :
    String :=
  canonicalSha256 env (.obj [("sink_id", .str sink.id), ("first_sequence", .int first.sequence),
    ("last_sequence", .int last.sequence), ("payload_checksum", .str checksum)])

def newDelivery (env : GovernanceEnv) (sink : SIEMSink) (events : List TenantAuditEvent)
    (first last : TenantAuditEvent) (signingSecret id : String) (nextAttemptAt createdAt : Nat) : SIEMDelivery :=
  let bytes := (payload sink events).text false
  { id := id, sinkId := sink.id, organizationId := sink.organizationId, firstSequence := first.sequence,
    lastSequence := last.sequence, eventCount := events.length,
    idempotencyKey := idempotencyKey env sink first last (env.sha256 bytes), payloadChecksum := env.sha256 bytes,
    payloadSignature := env.hmacSha256 signingSecret bytes,
    payloadMetadata := .obj [("schema_version", .str "siem-delivery/v1"),
      ("event_sequences", .arr (events.map fun event => .int event.sequence))]
    status := .pending, attempts := 0, nextAttemptAt := some nextAttemptAt, responseMetadata := none,
    errorCode := none, createdAt := createdAt, deliveredAt := none }

/-- `_create_delivery`. -/
def createDelivery (env : GovernanceEnv) (sink : SIEMSink) : GovernanceMethod Unit := do
  let events ← view fun d => nextBatch d sink
  match events.head?, events.getLast? with
  | some first, some last =>
    let signingSecret ← Tx.ofExcept (secret env sink.signingReferenceHash)
    let key := idempotencyKey env sink first last (env.sha256 ((payload sink events).text false))
    let existing ← view fun d => d.deliveries.rows.any fun delivery =>
      delivery.sinkId = sink.id ∧ delivery.idempotencyKey = key
    if existing then pure ()
    else
      let id ← uuid4
      let nextAttemptAt ← utcnow
      let createdAt ← utcnow
      let inserted ← view fun d => d.deliveries.insert?
        (newDelivery env sink events first last signingSecret id nextAttemptAt createdAt)
      let deliveries ← Tx.expect (.integrityError "siem_deliveries.id") inserted
      modify fun d => { d with deliveries := deliveries }
      commit
  | _, _ => pure ()

/-- `MetadataSIEMAdapter.deliver`. -/
def metadataAdapter (env : GovernanceEnv) (sink : SIEMSink) (delivery : SIEMDelivery) (bytes : String) :
    Except String Json :=
  let receipt := Json.obj [("contract", .str sink.sinkType.name), ("payload_checksum", .str (env.sha256 bytes)),
    ("signature", .str delivery.payloadSignature), ("idempotency_key", .str delivery.idempotencyKey)]
  match sink.sinkType with
  | .syslog =>
    if ["host", "port", "protocol"].all fun key => (sink.storageMetadata.field? key).isSome then .ok receipt
    else .error "ValueError"
  | .file | .objectStorage =>
    if (sink.storageMetadata.get "uri").truthy then .ok receipt else .error "ValueError"
  | .httpWebhook => .ok receipt

/-- The adapter call inside the `try` block of `_deliver`. -/
def attempt (env : GovernanceEnv) (http : HttpAdapter) (sink : SIEMSink) (delivery : SIEMDelivery) (bytes : String) :
    Except String Json :=
  match present sink.credentialReferenceHash, secret env sink.credentialReferenceHash with
  | some _, .error _ => .error "ValueError"
  | _, _ => if sink.sinkType = .httpWebhook then http sink delivery bytes else metadataAdapter env sink delivery bytes

/-- The columns `_deliver` writes on a delivery that went through. -/
def accepted (now : Nat) (receipt : Json) (delivery : SIEMDelivery) : SIEMDelivery :=
  { delivery with
    attempts := delivery.attempts + 1, status := .delivered, deliveredAt := some now, nextAttemptAt := none,
    responseMetadata := some (sanitizeExport receipt), errorCode := none }

/-- The columns `_deliver` writes on a delivery that did not. -/
def postponed (maxAttempts backoffSeconds now : Nat) (code : String) (delivery : SIEMDelivery) : SIEMDelivery :=
  if maxAttempts ≤ delivery.attempts + 1 then
    { delivery with
      attempts := delivery.attempts + 1, errorCode := some code, status := .deadLetter, nextAttemptAt := none }
  else
    { delivery with
      attempts := delivery.attempts + 1, errorCode := some code, status := .retry
      nextAttemptAt := some (now + backoffSeconds * 2 ^ delivery.attempts * 1000000) }

def existingDelivery (deliveryId : String) : GovernanceMethod SIEMDelivery := do
  let found ← view fun d => d.deliveries.find deliveryId
  Tx.expect (.valueError "SIEM delivery not found.") found

def existingSink (sinkId : String) : GovernanceMethod SIEMSink := do
  let found ← view fun d => d.sinks.find sinkId
  Tx.expect (.valueError "SIEM sink not found.") found

/-- `_deliver`. -/
def deliver (env : GovernanceEnv) (http : HttpAdapter) (sinkId deliveryId : String) :
    GovernanceMethod DeliveryStatus := do
  let sink ← existingSink sinkId
  let delivery ← existingDelivery deliveryId
  let events ← view fun d => rangeEvents d sink delivery
  let bytes := (payload sink events).text false
  if env.sha256 bytes ≠ delivery.payloadChecksum then do
    modify (updateDelivery deliveryId fun delivery =>
      { delivery with status := .deadLetter, errorCode := some "payload_checksum_mismatch" })
    commit
    return .deadLetter
  else
    let now ← utcnow
    match attempt env http sink delivery bytes with
    | .ok receipt => do
      modify fun d => updateSink sinkId (fun sink =>
        { sink with cursorSequence := max sink.cursorSequence delivery.lastSequence, lastSuccessAt := some now,
                    lastErrorCode := none }) (updateDelivery deliveryId (accepted now receipt) d)
      commit
      return .delivered
    | .error code => do
      let later ← utcnow
      modify fun d => updateSink sinkId (fun sink =>
        { sink with lastFailureAt := some now, lastErrorCode := some code })
          (updateDelivery deliveryId (postponed sink.maxAttempts sink.backoffSeconds later code) d)
      commit
      let settled ← existingDelivery deliveryId
      return settled.status

/-- The deliveries of a sink that wait for an attempt at the given time. -/
def due (d : GovernanceDb) (sinkId : String) (now limit : Nat) : List SIEMDelivery :=
  (Table.orderBy SIEMDelivery.createdAt (d.deliveries.rows.filter fun delivery => decide (delivery.sinkId = sinkId) &&
    decide (delivery.status = .pending ∨ delivery.status = .retry) &&
    delivery.nextAttemptAt.all fun instant => decide (instant ≤ now))).take limit

/-- The deliveries of a sink that were never attempted. -/
def fresh (d : GovernanceDb) (sinkId : String) (limit : Nat) : List SIEMDelivery :=
  (Table.orderBy SIEMDelivery.createdAt (d.deliveries.rows.filter fun delivery => decide (delivery.sinkId = sinkId) &&
    decide (delivery.status = .pending))).take limit

/-- The loop of `drain`. -/
def deliverAll (env : GovernanceEnv) (http : HttpAdapter) (sinkId : String) :
    List SIEMDelivery → DrainReport → GovernanceMethod DrainReport
  | [], report => pure report
  | delivery :: rest, report => do
    let outcome ← deliver env http sinkId delivery.id
    deliverAll env http sinkId rest (match outcome with
      | .delivered => { report with delivered := report.delivered + 1 }
      | .retry => { report with retried := report.retried + 1 }
      | _ => { report with deadLettered := report.deadLettered + 1 })

/-- The end of `drain`: the loop and its report. -/
def drainThrough (env : GovernanceEnv) (http : HttpAdapter) (sinkId : String) (waiting : List SIEMDelivery) :
    GovernanceMethod DrainReport := do
  let report ← deliverAll env http sinkId waiting {}
  let settled ← existingSink sinkId
  return { report with cursorSequence := settled.cursorSequence }

/-- `SIEMService.drain`. -/
def drain (env : GovernanceEnv) (auth : Option AuthContext) (http : HttpAdapter) (organizationId sinkId actor : String)
    (limit : Nat) : GovernanceMethod DrainReport := do
  let sink ← authorized env auth organizationId sinkId actor "data.manage"
  if sink.status ≠ .active then Tx.raise (.valueError "SIEM sink is not active.")
  else
    let now ← utcnow
    let waiting ← view fun d => due d sinkId now limit
    if waiting.isEmpty then do
      createDelivery env sink
      let waiting ← view fun d => fresh d sinkId limit
      drainThrough env http sinkId waiting
    else drainThrough env http sinkId waiting

/-- `SIEMService.retry_dead_letter`. -/
def retryDeadLetter (env : GovernanceEnv) (auth : Option AuthContext) (organizationId deliveryId actor : String) :
    GovernanceMethod SIEMDelivery := do
  let found ← view fun d => (d.deliveries.find deliveryId).filter fun delivery =>
    delivery.organizationId = organizationId
  let delivery ← Tx.expect (.valueError "SIEM delivery not found.") found
  let _ ← authorized env auth organizationId delivery.sinkId actor "data.manage"
  if delivery.status ≠ .deadLetter then
    Tx.raise (.valueError "Only dead-letter deliveries can be retried.")
  else
    let now ← utcnow
    modify fun d => updateSink delivery.sinkId (fun sink => { sink with lastErrorCode := none })
      (updateDelivery deliveryId (fun delivery =>
        { delivery with status := .retry, attempts := 0, nextAttemptAt := some now, errorCode := none }) d)
    commit
    existingDelivery deliveryId

end SIEMService

end SacmRuntime
