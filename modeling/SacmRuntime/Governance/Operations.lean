import SacmRuntime.Governance.Writes

namespace SacmRuntime
open Session SIEMService Table

section
variable {env : GovernanceEnv} {p : GovernanceDb → SIEMSink → Prop} {s : Session GovernanceDb}
  {auth : Option AuthContext} {http : HttpAdapter} {organizationId sinkId deliveryId actor : String}

theorem drainThrough_writesFrom {q : SIEMDelivery → Bool} {limit : Nat}
    (waits : ∀ delivery, q delivery = true → delivery.status ≠ .delivered ∧ delivery.sinkId = sinkId) :
    GovernanceWritesFrom env p (drainThrough env http sinkId
      ((orderBy SIEMDelivery.createdAt (s.working.deliveries.rows.filter q)).take limit)) s := by
  unfold drainThrough
  refine Tx.MovesFrom.bind ?_ fun _ _ => movesFrom_existingSink fun _ _ => Tx.movesFrom_pure _
  refine deliverAll_writesFrom (fun delivery member => ?_) (distinct_query _ _ _ _)
  obtain ⟨row, picked⟩ := List.mem_filter.mp (mem_orderBy.mp (List.mem_of_mem_take member))
  exact ⟨find_of_mem row, waits delivery picked⟩

/-- The clock reading with which a drain looks for due deliveries. -/
def drainInstant (d : GovernanceDb) (clock : Nat → Nat) (organizationId actor : String) : Nat :=
  clock (1 + TenancyService.readings d organizationId actor)

/-- A drain cuts a batch only when nothing is due, and after its permission
has been recorded. -/
theorem drain_writesFrom {limit : Nat}
    (allowed : ∀ sink event d, s.working.sinks.find sinkId = some sink → sink.organizationId = organizationId →
      due s.working sinkId (drainInstant s.working s.clock organizationId actor) limit = [] →
      Recorded env organizationId s.working d event → p d sink) :
    GovernanceWritesFrom env p (drain env auth http organizationId sinkId actor limit) s := by
  unfold drain
  refine Tx.MovesFrom.bind (sinkAuthorized_writes s) fun sink ok => ?_
  obtain ⟨t, run⟩ : ∃ t, SIEMService.authorized env auth organizationId sinkId actor "data.manage" s = (.ok sink, t) :=
    ⟨_, Prod.ext ok rfl⟩
  obtain ⟨found, ofOrganization, event, audited⟩ := sinkAuthorized_ok run
  rw [run]
  have key : sink.id = sinkId := find_key found
  have sameDeliveries : t.working.deliveries = s.working.deliveries := by rw [audited.recorded.store]
  have instant : t.clock 0 = drainInstant s.working s.clock organizationId actor := by rw [audited.clock]; rfl
  refine Tx.movesFrom_ite (fun _ => Tx.movesFrom_raise _) fun _ => movesFrom_now (movesFrom_view ?_)
  refine Tx.movesFrom_ite (fun idle => ?_) fun _ => drainThrough_writesFrom ?_
  · have nothing : due s.working sinkId (drainInstant s.working s.clock organizationId actor) limit = [] := by
      simpa [due, sameDeliveries, instant] using idle
    obtain ⟨current, atSink, same⟩ : ∃ current, t.working.sinks.find sink.id = some current ∧
        current.scope = sink.scope := by
      have kept := audited.recorded.sinks sinkId
      rw [found] at kept
      exact key ▸ Option.map_eq_some_iff.mp kept
    refine Tx.MovesFrom.bind ?_ fun _ _ => movesFrom_view (drainThrough_writesFrom ?_)
    · exact createDelivery_writesFrom atSink same (allowed sink event _ found ofOrganization nothing audited.recorded)
    · intro delivery waits
      simp only [Bool.and_eq_true, decide_eq_true_eq] at waits
      exact ⟨by simp [waits.2], waits.1⟩
  · intro delivery waits
    simp only [Bool.and_eq_true, decide_eq_true_eq] at waits
    refine ⟨?_, waits.1.1⟩
    rcases waits.1.2 with status | status <;> simp [status]

theorem retryDeadLetter_writes :
    GovernanceWrites env p (retryDeadLetter env auth organizationId deliveryId actor) := by
  intro s
  unfold retryDeadLetter
  refine movesFrom_view (Tx.movesFrom_expect fun delivery looked => ?_)
  obtain ⟨found, _⟩ := Option.filter_eq_some_iff.mp looked
  cases (show delivery.id = deliveryId from find_key found)
  refine Tx.MovesFrom.bind (sinkAuthorized_writes s) fun sink ok => ?_
  obtain ⟨t, run⟩ : ∃ t, SIEMService.authorized env auth organizationId delivery.sinkId actor "data.manage" s =
    (.ok sink, t) := ⟨_, Prod.ext ok rfl⟩
  obtain ⟨_, _, event, audited⟩ := sinkAuthorized_ok run
  rw [run]
  have live : t.working.deliveries.find delivery.id = some delivery := by rw [audited.recorded.store, found]
  refine Tx.movesFrom_ite (fun _ => Tx.movesFrom_raise _) fun dead => movesFrom_utcnow fun now _ => ?_
  refine movesFrom_write ?_ (movesFrom_commit (movesFrom_view (Tx.moves_expect _)))
  refine .undelivered
    (fun row => { row with status := .retry, attempts := 0, nextAttemptAt := some now, errorCode := none })
    live ?_ (fun _ => rfl) (by simp) rfl rfl (SinksKept.updateWhere fun _ => ⟨rfl, rfl⟩)
  simp [not_not.mp dead]

end

/-- The requests of the governance services, and any audit record another
service makes. -/
inductive GovernanceOperation where
  | record (auth : Option AuthContext) (entry : AuditEntry)
  | createRequest (auth : Option AuthContext) (organizationId : String) (payload : GovernanceRequestCreate)
      (actor : String)
  | approve (auth : Option AuthContext) (organizationId requestId actor : String) (approved : Bool) (reason : String)
  | inventory (auth : Option AuthContext) (organizationId requestId actor : String)
  | process (auth : Option AuthContext) (organizationId requestId actor : String) (batchSize : Nat)
  | createHold (auth : Option AuthContext) (organizationId : String) (payload : GovernanceLegalHoldCreate)
      (actor : String)
  | releaseHold (auth : Option AuthContext) (organizationId holdId actor : String)
  | exportAudit (auth : Option AuthContext) (organizationId : String) (payload : AuditExportCreate) (actor : String)
  | drain (auth : Option AuthContext) (http : HttpAdapter) (organizationId sinkId actor : String) (limit : Nat)
  | retryDeadLetter (auth : Option AuthContext) (organizationId deliveryId actor : String)

namespace GovernanceOperation

def exec (env : GovernanceEnv) : GovernanceOperation → GovernanceMethod Unit
  | record auth entry => Tx.void (TenantAuditService.record env auth entry)
  | createRequest auth organizationId payload actor =>
    Tx.void (GovernanceRequestService.create env auth organizationId payload actor)
  | approve auth organizationId requestId actor approved reason =>
    Tx.void (GovernanceRequestService.approve env auth organizationId requestId actor approved reason)
  | inventory auth organizationId requestId actor =>
    Tx.void (GovernanceRequestService.inventory env auth organizationId requestId actor)
  | process auth organizationId requestId actor batchSize =>
    Tx.void (GovernanceRequestService.process env auth organizationId requestId actor batchSize)
  | createHold auth organizationId payload actor =>
    Tx.void (GovernanceRequestService.createHold env auth organizationId payload actor)
  | releaseHold auth organizationId holdId actor =>
    Tx.void (GovernanceRequestService.releaseHold env auth organizationId holdId actor)
  | exportAudit auth organizationId payload actor =>
    Tx.void (AuditExportService.create env auth organizationId payload actor)
  | drain auth http organizationId sinkId actor limit =>
    Tx.void (SIEMService.drain env auth http organizationId sinkId actor limit)
  | retryDeadLetter auth organizationId deliveryId actor =>
    Tx.void (SIEMService.retryDeadLetter env auth organizationId deliveryId actor)

def after (env : GovernanceEnv) (op : GovernanceOperation) (d : GovernanceDb) (supply : Supply) : GovernanceDb :=
  (request (op.exec env) d supply).2

/-- The operation is a drain that finds nothing due on this sink, at a store
that differs from this one by the record of its permission. -/
def cuts (env : GovernanceEnv) (d : GovernanceDb) (supply : Supply) (op : GovernanceOperation) (e : GovernanceDb)
    (sink : SIEMSink) : Prop :=
  match op with
  | drain _ _ organizationId sinkId actor limit =>
    d.sinks.find sinkId = some sink ∧ sink.organizationId = organizationId ∧
      due d sinkId (drainInstant d supply.clock organizationId actor) limit = [] ∧
      ∃ event, Recorded env organizationId d e event
  | _ => False

theorem writes (env : GovernanceEnv) (d : GovernanceDb) (supply : Supply) (op : GovernanceOperation) :
    GovernanceWritesFrom env (op.cuts env d supply) (op.exec env) (start d supply) := by
  cases op with
  | record auth entry => exact Tx.MovesFrom.void (record_writes _)
  | createRequest auth organizationId payload actor => exact Tx.MovesFrom.void (createRequest_writes _)
  | approve auth organizationId requestId actor approved reason => exact Tx.MovesFrom.void (approve_writes _)
  | inventory auth organizationId requestId actor => exact Tx.MovesFrom.void (inventory_writes _)
  | process auth organizationId requestId actor batchSize => exact Tx.MovesFrom.void (process_writes _)
  | createHold auth organizationId payload actor => exact Tx.MovesFrom.void (createHold_writes _)
  | releaseHold auth organizationId holdId actor => exact Tx.MovesFrom.void (releaseHold_writes _)
  | exportAudit auth organizationId payload actor => exact Tx.MovesFrom.void (export_writes _)
  | drain auth http organizationId sinkId actor limit =>
    refine Tx.MovesFrom.void (drain_writesFrom fun sink event e found ofOrganization idle recorded => ?_)
    exact ⟨found, ofOrganization, idle, event, recorded⟩
  | retryDeadLetter auth organizationId deliveryId actor => exact Tx.MovesFrom.void (retryDeadLetter_writes _)

end GovernanceOperation

abbrev GovernanceExecution (env : GovernanceEnv)
    (meets : GovernanceDb → Supply → GovernanceOperation → Prop) : GovernanceDb → GovernanceDb → Prop :=
  Path (GovernanceOperation.after env) meets

namespace GovernanceSample

def key : SigningKey := ⟨fun text => "signed:" ++ text, "public", "fingerprint"⟩

def env : GovernanceEnv where
  sha256 := id
  hmacSha256 := fun secret text => secret ++ text
  autoflush := false
  secretResolver := fun _ => some "secret"
  privateKey := .ok key
  verifySignature := fun _ signature text =>
    if signature = "signed:" ++ text then .valid else .invalidSignature
  signingKeyId := "k1"

/-- A sink of the organization, or of one of its projects. -/
def sink (projectId : Option String) (batchSize : Nat) : SIEMSink where
  id := "k"
  organizationId := "o"
  projectId := projectId
  sinkType := .httpWebhook
  status := .active
  storageMetadata := .obj []
  credentialReferenceHash := none
  signingReferenceHash := some "h"
  cursorSequence := 0
  batchSize := batchSize
  maxAttempts := 3
  backoffSeconds := 60
  lastSuccessAt := none
  lastFailureAt := none
  lastErrorCode := none

/-- An organization with two projects, an owner and one sink. -/
def store (sink : SIEMSink) : GovernanceDb where
  organizations := .ofRows [⟨"o", none, none⟩]
  memberships := [⟨"o", "owner", "owner", none⟩]
  sinks := .ofRows [sink]

def approved : GovernanceRequest where
  id := "g"
  organizationId := "o"
  projectId := none
  requestType := .deletion
  subjectType := .tenant
  subjectIdHash := none
  requestedCategories := [.taskMetadata]
  status := .approved
  dryRunCompleted := false
  inventoryHash := none
  inventoryCount := 0
  processedCount := 0
  blockedCount := 0
  processingCursor := 0
  evidencePreservationPolicy := .preserve
  outputManifest := none
  requestedBy := "other"
  approvedBy := some "owner"
  approvalReason := none
  createdAt := 0
  approvedAt := some 1
  completedAt := none

def entry (projectId : Option String) : AuditEntry where
  organizationId := "o"
  projectId := projectId
  actorId := "owner"
  action := "runs.read"
  resourceType := "run"
  resourceId := none
  decision := "ALLOW"
  reason := "listed"

/-- The clock, the identifiers and the tokens of one request. -/
def supplyOf (name : String) (instant : Nat) : Supply :=
  ⟨fun n => instant + n, fun n => name ++ toString n, fun n => name ++ toString n⟩

def recordOf (name : String) (projectId : Option String) : GovernanceOperation × Supply :=
  (.record none (entry projectId), supplyOf name 0)

theorem returned_of_isSome {α : Type} {r : Except Error α × GovernanceDb} (ok : r.1.toOption.isSome = true) :
    ∃ a, r = (.ok a, r.2) := by
  obtain ⟨result, d⟩ := r
  cases result with
  | ok a => exact ⟨a, rfl⟩
  | error e => simp [Except.toOption] at ok

end GovernanceSample

end SacmRuntime
