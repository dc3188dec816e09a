import SacmRuntime.Governance.Siem

namespace SacmRuntime
open Session SIEMService TenancyService TenantAuditService
open Tx hiding Leaves

def SIEMSink.scope (sink : SIEMSink) : String × Option String × Nat × Nat :=
  (sink.organizationId, sink.projectId, sink.batchSize, sink.cursorSequence)

def SinksKept (old new : Table SIEMSink) : Prop :=
  ∀ id, (new.find id).map SIEMSink.scope = (old.find id).map SIEMSink.scope

def SIEMDelivery.batch (delivery : SIEMDelivery) : String × String × Nat × Nat × String × String :=
  (delivery.id, delivery.sinkId, delivery.firstSequence, delivery.lastSequence, delivery.idempotencyKey,
    delivery.payloadChecksum)

/-- An event that `record` adds to the log of its organization. -/
def NextEvent (env : GovernanceEnv) (d : GovernanceDb) (organizationId : String) (event : TenantAuditEvent) : Prop :=
  ∃ (auth : Option AuthContext) (entry : AuditEntry) (organization : Organization) (project : Option Project)
    (id : String) (createdAt : Nat), entry.organizationId = organizationId ∧
      event = entry.event env auth organization project (d.lastEvent organizationId) id createdAt

/-- The writes the services make on the audit log, the sinks and the
deliveries; `p` says which batches may be cut. -/
inductive GovernanceWrite (env : GovernanceEnv) (p : GovernanceDb → SIEMSink → Prop) :
    Session GovernanceDb → GovernanceDb → Prop
  | audit {s : Session GovernanceDb} {organizationId : String} {event : TenantAuditEvent}
      (next : NextEvent env s.working organizationId event) :
      GovernanceWrite env p s { s.working with auditEvents := s.working.auditEvents ++ [event] }
  | other {s : Session GovernanceDb} {d : GovernanceDb} (events : d.auditEvents = s.working.auditEvents)
      (deliveries : d.deliveries = s.working.deliveries) (sinks : SinksKept s.working.sinks d.sinks) :
      GovernanceWrite env p s d
  | cut {s : Session GovernanceDb} {sink current : SIEMSink} {first last : TenantAuditEvent}
      {deliveries : Table SIEMDelivery} {signingSecret id : String} {nextAttemptAt createdAt : Nat}
      (found : s.working.sinks.find sink.id = some current) (same : current.scope = sink.scope)
      (head : (nextBatch s.working sink).head? = some first)
      (final : (nextBatch s.working sink).getLast? = some last)
      (fresh : ∀ delivery ∈ s.working.deliveries.rows, delivery.sinkId = sink.id → delivery.idempotencyKey ≠
        idempotencyKey env sink first last (env.sha256 ((payload sink (nextBatch s.working sink)).text false)))
      (allowed : p s.working sink)
      (inserted : s.working.deliveries.insert? (newDelivery env sink (nextBatch s.working sink) first last
        signingSecret id nextAttemptAt createdAt) = some deliveries) :
      GovernanceWrite env p s { s.working with deliveries := deliveries }
  | delivered {s : Session GovernanceDb} {delivery : SIEMDelivery} (f : SIEMSink → SIEMSink)
      (g : SIEMDelivery → SIEMDelivery) (found : s.working.deliveries.find delivery.id = some delivery)
      (open_ : delivery.status ≠ .delivered)
      (moved : ∀ sink, (f sink).id = sink.id ∧ (f sink).scope = (sink.organizationId, sink.projectId, sink.batchSize,
        max sink.cursorSequence delivery.lastSequence))
      (kept : ∀ row, (g row).batch = row.batch) (done : ∀ row, (g row).status = .delivered) :
      GovernanceWrite env p s (updateSink delivery.sinkId f (updateDelivery delivery.id g s.working))
  | undelivered {s : Session GovernanceDb} {delivery : SIEMDelivery} {d : GovernanceDb}
    (g : SIEMDelivery → SIEMDelivery)
      (found : s.working.deliveries.find delivery.id = some delivery) (open_ : delivery.status ≠ .delivered)
      (kept : ∀ row, (g row).batch = row.batch) (failed : ∀ row, (g row).status ≠ .delivered)
      (events : d.auditEvents = s.working.auditEvents)
      (deliveries : d.deliveries = s.working.deliveries.update delivery.id g)
      (sinks : SinksKept s.working.sinks d.sinks) : GovernanceWrite env p s d

abbrev GovernanceWritesFrom {α : Type} (env : GovernanceEnv) (p : GovernanceDb → SIEMSink → Prop)
    (m : GovernanceMethod α) (s : Session GovernanceDb) : Prop := Tx.MovesFrom (Step (GovernanceWrite env p)) m s

abbrev GovernanceWrites {α : Type} (env : GovernanceEnv) (p : GovernanceDb → SIEMSink → Prop)
    (m : GovernanceMethod α) : Prop := Tx.Moves (Step (GovernanceWrite env p)) m

theorem SinksKept.refl (t : Table SIEMSink) : SinksKept t t := fun _ => rfl

theorem SinksKept.updateWhere {t : Table SIEMSink} {q : SIEMSink → Bool} {f : SIEMSink → SIEMSink}
    (keeps : ∀ sink, (f sink).id = sink.id ∧ (f sink).scope = sink.scope) : SinksKept t (t.updateWhere q f) := by
  intro id
  rw [Table.find_updateWhere, Option.map_map]
  congr 1
  funext sink
  simp only [Function.comp_apply]
  split
  · rw [Table.rewriteRow_of_keeps (keeps sink).1, (keeps sink).2]
  · rfl

structure Recorded (env : GovernanceEnv) (organizationId : String) (d e : GovernanceDb) (event : TenantAuditEvent) :
    Prop where
  next : NextEvent env d organizationId event
  sinks : SinksKept d.sinks e.sinks
  store : e = { d with auditEvents := d.auditEvents ++ [event], sinks := e.sinks }

structure Audited (env : GovernanceEnv) (organizationId : String) (s t : Session GovernanceDb)
    (event : TenantAuditEvent) : Prop where
  recorded : Recorded env organizationId s.working t.working event
  committed : t.committed = t.working
  flushed : t.flushed = t.working
  clock : t.clock = fun n => s.clock (n + 1)

section
variable {env : GovernanceEnv} {p : GovernanceDb → SIEMSink → Prop} {s : Session GovernanceDb}
  {auth : Option AuthContext}

/-- `record` raises for an unknown organization, or adds one event. -/
theorem record_run (entry : AuditEntry) :
    (∃ e, record env auth entry s = (.error e, s) ∧
      s.working.organizations.find entry.organizationId = none) ∨
      ∃ event t, record env auth entry s = (.ok event, t) ∧
        Audited env entry.organizationId s t event := by
  unfold record
  rw [bind_view]
  cases known : s.working.organizations.find entry.organizationId with
  | none => exact .inl ⟨_, rfl, rfl⟩
  | some organization =>
    right
    simp only [bind_expect_some, bind_view, bind_utcnow]
    rw [bind_run_ok (m := uuid4) _ rfl, bind_modify, bind_commit]
    unfold markPending
    rw [bind_run, bind_view]
    split
    all_goals
      rename_i result t run
      split at run
    · cases run
      refine ⟨_, _, rfl, ⟨⟨auth, entry, organization, _, _, _, rfl, rfl⟩, ?_, rfl⟩, rfl, rfl, rfl⟩
      exact SinksKept.updateWhere fun _ => ⟨rfl, rfl⟩
    · cases run
      exact ⟨_, _, rfl, ⟨⟨auth, entry, organization, _, _, _, rfl, rfl⟩, SinksKept.refl _, rfl⟩, rfl, rfl, rfl⟩
    · cases run
    · cases run

theorem record_writes {entry : AuditEntry} : GovernanceWrites env p (record env auth entry) := by
  intro s
  unfold record markPending
  refine movesFrom_view (movesFrom_expect fun organization _ => movesFrom_view (movesFrom_view ?_))
  refine movesFrom_utcnow fun createdAt _ => movesFrom_uuid4 fun id _ => ?_
  refine movesFrom_write (.audit ⟨auth, entry, organization, _, id, createdAt, rfl, rfl⟩) (movesFrom_commit ?_)
  refine Tx.MovesFrom.bind (movesFrom_view (movesFrom_ite (fun _ => ?_) fun _ => movesFrom_pure _))
    fun _ _ => movesFrom_pure _
  refine movesFrom_write (.other rfl rfl ?_) (moves_commit _)
  exact SinksKept.updateWhere fun _ => ⟨rfl, rfl⟩

section Tenancy
variable {organizationId actorId permission resourceType : String} {projectId resourceId : Option String}

/-- The clock readings of `principal`: one, when a credential may have expired. -/
def TenancyService.readings (d : GovernanceDb) (organizationId actorId : String) : Nat :=
  if servicePrefix.isPrefixOf actorId.toList then
    match (d.credentials.find (String.ofList (actorId.toList.drop servicePrefix.length))).filter fun credential =>
        credential.organizationId = organizationId ∧ credential.revokedAt = none with
    | none => 0
    | some credential => if credential.expiresAt.isSome then 1 else 0
  else 0

theorem principal_run (organizationId actorId : String) (s : Session GovernanceDb) :
    ∃ found, principal organizationId actorId s =
      (.ok found, { s with clock := fun n => s.clock (n + readings s.working organizationId actorId) }) := by
  unfold principal readings
  split
  · rw [bind_view]
    generalize Option.filter _ _ = usable
    cases usable with
    | none => exact ⟨_, rfl⟩
    | some credential => cases expiry : credential.expiresAt <;> simp only [expiry] <;> exact ⟨_, rfl⟩
  · exact ⟨_, rfl⟩

theorem requirePermission_ok {t : Session GovernanceDb} {granted : Principal}
    (run : requirePermission env auth organizationId actorId permission projectId resourceType
      resourceId s = (.ok granted, t)) :
    ∃ event, Audited env organizationId
      { s with clock := fun n => s.clock (n + readings s.working organizationId actorId) } t event := by
  unfold requirePermission at run
  obtain ⟨found, looked⟩ := principal_run organizationId actorId s
  rw [bind_run_ok _ looked] at run
  generalize judge permission projectId found = verdict at run
  obtain ⟨allowed, reason⟩ := verdict
  obtain ⟨event, mid, recorded, rest⟩ := bind_ok run
  have same : mid = t := by
    cases allowed <;> cases found <;> cases rest
    rfl
  rcases record_run _ with ⟨e, raised, -⟩ | ⟨other, after, ok, audited⟩
  · cases raised.symm.trans recorded
  · cases ok.symm.trans recorded
    exact ⟨event, same ▸ audited⟩

theorem principal_writes : GovernanceWrites env p (principal organizationId actorId) := by
  intro s
  obtain ⟨found, run⟩ := principal_run organizationId actorId s
  unfold Tx.MovesFrom
  rw [run]
  exact .single (.draw _ s.uuids s.tokens)

theorem requirePermission_writes : GovernanceWrites env p (requirePermission env auth organizationId
    actorId permission projectId resourceType resourceId) := by
  unfold requirePermission
  refine principal_writes.bind fun found => record_writes.bind fun _ s => ?_
  split
  · exact movesFrom_pure _
  · exact movesFrom_raise _

theorem auditSensitive_writes {action reason : String} {metadata : Option Json} :
    GovernanceWrites env p (auditSensitive env auth organizationId projectId actorId action resourceType
      resourceId reason metadata) := record_writes

end Tenancy

theorem aside {d : GovernanceDb} (events : d.auditEvents = s.working.auditEvents)
    (deliveries : d.deliveries = s.working.deliveries) (sinks : d.sinks = s.working.sinks) :
    GovernanceWrite env p s d := .other events deliveries (sinks ▸ SinksKept.refl _)

section Requests
open GovernanceRequestService
variable {organizationId requestId actor : String} {request : GovernanceRequest} {item : GovernanceRequestItem}

theorem updateRequest_writes {f : GovernanceRequest → GovernanceRequest} :
    GovernanceWrites env p (updateRequest requestId f) := fun _ => movesFrom_modify (aside rfl rfl rfl)

theorem updateItem_writes {itemId : String} {f : GovernanceRequestItem → GovernanceRequestItem} :
    GovernanceWrites env p (updateItem itemId f) := fun _ => movesFrom_modify (aside rfl rfl rfl)

theorem existingRequest_writes : GovernanceWrites env p (existingRequest requestId) :=
  fun _ => movesFrom_view (moves_expect _)

theorem audit_writes {action reason : String} {metadata : Option Json} :
    GovernanceWrites env p (audit env auth request actor action reason metadata) :=
  auditSensitive_writes.bind fun _ _ => movesFrom_pure _

theorem authorized_writes :
    GovernanceWrites env p (GovernanceRequestService.authorized env auth organizationId requestId actor) := by
  intro s
  unfold GovernanceRequestService.authorized
  refine movesFrom_view (movesFrom_expect fun request _ => ?_)
  exact requirePermission_writes.then fun _ _ => movesFrom_pure _

theorem requireProject_writes {projectId : Option String} :
    GovernanceWrites env p (requireProject organizationId projectId) := by
  intro s
  unfold requireProject
  split
  · exact movesFrom_pure _
  · exact movesFrom_view (movesFrom_ite (fun _ => movesFrom_pure _) fun _ => movesFrom_raise _)

theorem createRequest_writes {payload : GovernanceRequestCreate} :
    GovernanceWrites env p (GovernanceRequestService.create env auth organizationId payload actor) := by
  unfold GovernanceRequestService.create
  refine requirePermission_writes.bind fun _ => requireProject_writes.bind fun _ => moves_uuid4.bind fun _ => ?_
  refine moves_utcnow.bind fun _ s => movesFrom_view (movesFrom_expect fun requests _ => ?_)
  refine movesFrom_write (aside rfl rfl rfl) (movesFrom_commit ?_)
  exact audit_writes.then fun _ _ => movesFrom_pure _

theorem approve_writes {approved : Bool} {reason : String} :
    GovernanceWrites env p (approve env auth organizationId requestId actor approved reason) := by
  unfold approve
  refine authorized_writes.bind fun request s => ?_
  refine movesFrom_guard fun _ => ?_
  refine movesFrom_guard fun _ => movesFrom_utcnow fun _ _ => ?_
  refine updateRequest_writes.then fun _ _ => movesFrom_commit ?_
  exact audit_writes.then fun _ _ => existingRequest_writes _

theorem addItems_writes {position : Nat} {lines : List InventoryLine} :
    GovernanceWrites env p (addItems request position lines) := by
  induction lines generalizing position with
  | nil => exact fun _ => movesFrom_pure _
  | cons line rest ih =>
    unfold addItems
    refine moves_uuid4.bind fun _ s => movesFrom_view (movesFrom_view (movesFrom_expect fun items _ => ?_))
    exact movesFrom_write (aside rfl rfl rfl) (ih _)

theorem inventory_writes : GovernanceWrites env p (inventory env auth organizationId requestId actor) := by
  unfold inventory
  refine authorized_writes.bind fun request s => movesFrom_guard fun _ => ?_
  refine movesFrom_write (aside rfl rfl rfl) (movesFrom_view (movesFrom_ofExcept fun lines _ => ?_))
  refine addItems_writes.then fun _ _ => updateRequest_writes.then fun _ _ => movesFrom_commit ?_
  exact audit_writes.then fun _ _ => existingRequest_writes _

theorem applyDeletion_writes {rule : Option DataGovernancePolicyRule} :
    GovernanceWrites env p (applyDeletion env request item rule) := by
  intro s
  unfold applyDeletion
  refine movesFrom_ite (fun _ => updateItem_writes _) fun _ => ?_
  exact movesFrom_utcnow fun _ _ => movesFrom_uuid4 fun _ _ => updateItem_writes _

theorem processItem_writes : GovernanceWrites env p (processItem env request item) := by
  unfold processItem
  have tail : GovernanceWrites env p (do
      let now ← utcnow
      updateItem item.id fun item => { item with processedAt := some now }
      updateRequest request.id fun request =>
        { request with processingCursor := item.position, processedCount := request.processedCount + 1 }) :=
    moves_utcnow.bind fun _ => updateItem_writes.bind fun _ => updateRequest_writes
  refine updateItem_writes.bind fun _ s => movesFrom_view (movesFrom_view ?_)
  refine movesFrom_ite (fun _ => ?_) fun _ => movesFrom_ite (fun _ => ?_) fun _ => ?_
  · exact updateItem_writes.then fun _ _ => updateRequest_writes.then fun _ _ => tail _
  · exact updateItem_writes.then fun _ _ => tail _
  · exact applyDeletion_writes.then fun _ _ => tail _

theorem process_writes {batchSize : Nat} :
    GovernanceWrites env p (process env auth organizationId requestId actor batchSize) := by
  unfold process
  refine authorized_writes.bind fun request s => movesFrom_guard fun _ => ?_
  refine updateRequest_writes.then fun _ _ => movesFrom_view ?_
  refine (moves_forEach fun _ _ => processItem_writes).then fun _ s => ?_
  have tail : GovernanceWrites env p (do
      let remaining ← read fun s => (s.flushed.items.rows.filter fun item =>
        decide (item.requestId = request.id) && decide (item.status = .pending)).length
      let now ← utcnow
      updateRequest requestId (settleRequest remaining now)
      let settled ← existingRequest requestId
      let manifest ← view fun d => requestManifest env d settled
      updateRequest requestId fun request => { request with outputManifest := some manifest }
      commit
      audit env auth settled actor "governance.request.process" "Governance request batch processed."
        (some (.obj [("processed_count", .int settled.processedCount), ("blocked_count", .int settled.blockedCount),
          ("cursor", .int settled.processingCursor), ("status", .str settled.status.name)]))
      existingRequest requestId) := by
    intro s
    refine movesFrom_read (movesFrom_utcnow fun _ _ => updateRequest_writes.then fun _ _ => ?_)
    refine existingRequest_writes.then fun _ _ => movesFrom_view (updateRequest_writes.then fun _ _ => ?_)
    exact movesFrom_commit (audit_writes.then fun _ _ => existingRequest_writes _)
  exact movesFrom_ite (fun _ => movesFrom_flush (tail _)) fun _ => tail _

theorem createHold_writes {payload : GovernanceLegalHoldCreate} :
    GovernanceWrites env p (createHold env auth organizationId payload actor) := by
  unfold createHold
  refine requirePermission_writes.bind fun _ => moves_uuid4.bind fun _ => moves_utcnow.bind fun _ s => ?_
  refine movesFrom_view (movesFrom_expect fun holds _ => movesFrom_write (aside rfl rfl rfl) (movesFrom_commit ?_))
  exact auditSensitive_writes.then fun _ _ => movesFrom_pure _

theorem releaseHold_writes {holdId : String} :
    GovernanceWrites env p (releaseHold env auth organizationId holdId actor) := by
  intro s
  unfold releaseHold
  refine movesFrom_view (movesFrom_expect fun hold _ => requirePermission_writes.then fun _ _ => ?_)
  exact movesFrom_utcnow fun _ _ => movesFrom_write (aside rfl rfl rfl) (moves_commit _)

theorem export_writes {payload : AuditExportCreate} :
    GovernanceWrites env p (AuditExportService.create env auth organizationId payload actor) := by
  unfold AuditExportService.create
  refine requirePermission_writes.bind fun _ s => movesFrom_view ?_
  split
  · refine movesFrom_ofExcept fun key _ => movesFrom_uuid4 fun _ _ => movesFrom_utcnow fun _ _ => ?_
    refine movesFrom_view (movesFrom_expect fun exports _ => ?_)
    refine movesFrom_write (aside rfl rfl rfl) (movesFrom_commit ?_)
    exact auditSensitive_writes.then fun _ _ => movesFrom_pure _
  · exact movesFrom_raise _

end Requests

section Deliveries
variable {http : HttpAdapter} {organizationId sinkId deliveryId actor permission : String} {sink : SIEMSink}
  {delivery : SIEMDelivery}

theorem sinkAuthorized_writes :
    GovernanceWrites env p (SIEMService.authorized env auth organizationId sinkId actor permission) := by
  intro s
  unfold SIEMService.authorized
  refine movesFrom_view (movesFrom_expect fun sink _ => ?_)
  exact requirePermission_writes.then fun _ _ => movesFrom_pure _

theorem sinkAuthorized_ok {t : Session GovernanceDb}
    (run : SIEMService.authorized env auth organizationId sinkId actor permission s = (.ok sink, t)) :
    s.working.sinks.find sinkId = some sink ∧ sink.organizationId = organizationId ∧
      ∃ event, Audited env organizationId
        { s with clock := fun n => s.clock (n + readings s.working organizationId actor) } t event := by
  unfold SIEMService.authorized at run
  rw [bind_view] at run
  obtain ⟨found, mid, looked, rest⟩ := bind_ok run
  obtain ⟨atSink, rfl⟩ := expect_ok looked
  obtain ⟨granted, after, permitted, last⟩ := bind_ok rest
  cases last
  obtain ⟨inTable, ofOrganization⟩ := Option.filter_eq_some_iff.mp atSink
  exact ⟨inTable, by simpa using ofOrganization, requirePermission_ok permitted⟩

variable {A : Session GovernanceDb → Session GovernanceDb → Prop} {backoff maxAttempts now : Nat} {code : String}

theorem movesFrom_existingSink {α : Type} {f : SIEMSink → GovernanceMethod α}
    (rest : ∀ sink, s.working.sinks.find sinkId = some sink → Tx.MovesFrom A (f sink) s) :
    Tx.MovesFrom A (existingSink sinkId >>= f) s := by
  unfold existingSink
  exact movesFrom_expect rest

theorem movesFrom_existingDelivery {α : Type} {f : SIEMDelivery → GovernanceMethod α}
    (rest : ∀ delivery, s.working.deliveries.find deliveryId = some delivery → Tx.MovesFrom A (f delivery) s) :
    Tx.MovesFrom A (existingDelivery deliveryId >>= f) s := by
  unfold existingDelivery
  exact movesFrom_expect rest

theorem existingSink_leaves {γ : Type} {h : GovernanceDb → γ} : Leaves h (existingSink sinkId) := by
  unfold existingSink
  exact leaves_view fun _ => leaves_expect

theorem existingDelivery_leaves {γ : Type} {h : GovernanceDb → γ} : Leaves h (existingDelivery deliveryId) := by
  unfold existingDelivery
  exact leaves_view fun _ => leaves_expect

theorem accepted_batch {receipt : Json} (row : SIEMDelivery) : (accepted now receipt row).batch = row.batch :=
  rfl

theorem postponed_batch (row : SIEMDelivery) :
    (postponed maxAttempts backoff now code row).batch = row.batch := by
  unfold postponed
  split <;> rfl

theorem postponed_undelivered (row : SIEMDelivery) :
    (postponed maxAttempts backoff now code row).status ≠ .delivered := by
  unfold postponed
  split <;> simp

theorem deliver_writesFrom (found : s.working.deliveries.find delivery.id = some delivery)
    (waiting : delivery.status ≠ .delivered) (ofSink : delivery.sinkId = sinkId) :
    GovernanceWritesFrom env p (deliver env http sinkId delivery.id) s := by
  subst ofSink
  unfold deliver
  refine movesFrom_existingSink fun sink _ => movesFrom_existingDelivery fun row atRow => movesFrom_view ?_
  cases Option.some.inj (atRow.symm.trans found)
  refine movesFrom_ite (fun _ => ?_) fun _ => movesFrom_utcnow fun now _ => ?_
  · refine movesFrom_write ?_ (movesFrom_commit (movesFrom_pure _))
    exact .undelivered (fun row => { row with status := .deadLetter, errorCode := some "payload_checksum_mismatch" })
      found waiting (fun _ => rfl) (by simp) rfl rfl (SinksKept.refl _)
  · split
    · refine movesFrom_write ?_ (movesFrom_commit (movesFrom_pure _))
      exact .delivered _ _ found waiting (fun _ => ⟨rfl, rfl⟩) accepted_batch fun _ => rfl
    · refine movesFrom_utcnow fun later _ => movesFrom_write ?_ (movesFrom_commit ?_)
      · exact .undelivered _ found waiting postponed_batch postponed_undelivered rfl rfl
          (SinksKept.updateWhere fun _ => ⟨rfl, rfl⟩)
      · exact movesFrom_existingDelivery fun _ _ => movesFrom_pure _

def GovernanceDb.delivery? (id : String) (d : GovernanceDb) : Option SIEMDelivery := d.deliveries.find id

theorem deliver_leaves (env : GovernanceEnv) (http : HttpAdapter) (sinkId : String) {other : String}
    (different : other ≠ deliveryId) : Leaves (GovernanceDb.delivery? other) (deliver env http sinkId deliveryId) := by
  unfold deliver
  have rewrites : ∀ (f : GovernanceDb → GovernanceDb) (g : SIEMDelivery → SIEMDelivery),
      (∀ d, (f d).deliveries = d.deliveries.update deliveryId g) →
      Leaves (GovernanceDb.delivery? other) (modify f : GovernanceMethod Unit) := by
    intro f g same
    refine leaves_modify fun d => ?_
    rw [GovernanceDb.delivery?, same, Table.find_update_ne different]
    rfl
  refine Tx.Leaves.bind existingSink_leaves fun sink => Tx.Leaves.bind existingDelivery_leaves fun row => ?_
  refine leaves_view fun events => leaves_ite ?_ (Tx.Leaves.bind leaves_utcnow fun now => ?_)
  · refine Tx.Leaves.bind (rewrites _ _ fun _ => rfl) fun _ => ?_
    exact Tx.Leaves.bind leaves_commit fun _ => leaves_pure _
  · cases attempt env http sink row _ with
    | ok receipt =>
      refine Tx.Leaves.bind (rewrites _ _ fun _ => rfl) fun _ => ?_
      exact Tx.Leaves.bind leaves_commit fun _ => leaves_pure _
    | error code =>
      refine Tx.Leaves.bind leaves_utcnow fun later => Tx.Leaves.bind (rewrites _ _ fun _ => rfl) fun _ => ?_
      exact Tx.Leaves.bind leaves_commit fun _ => Tx.Leaves.bind existingDelivery_leaves fun _ => leaves_pure _

/-- The loop of `drain` over deliveries that still wait. -/
theorem deliverAll_writesFrom {waiting : List SIEMDelivery} {report : DrainReport}
    (live : ∀ delivery ∈ waiting, s.working.deliveries.find delivery.id = some delivery ∧
      delivery.status ≠ .delivered ∧ delivery.sinkId = sinkId)
    (distinct : (waiting.map SIEMDelivery.id).Nodup) :
    GovernanceWritesFrom env p (deliverAll env http sinkId waiting report) s := by
  induction waiting generalizing s report with
  | nil => exact movesFrom_pure _
  | cons delivery rest ih =>
    obtain ⟨apart, distinct⟩ := List.nodup_cons.mp distinct
    obtain ⟨found, waits, ofSink⟩ := live delivery (by simp)
    unfold deliverAll
    refine Tx.MovesFrom.bind (deliver_writesFrom found waits ofSink) fun outcome _ => ih ?_ distinct
    intro other member
    have different : other.id ≠ delivery.id := fun same => apart (same ▸ List.mem_map_of_mem member)
    have same := deliver_leaves env http sinkId different s
    obtain ⟨atOther, facts⟩ := live other (by simp [member])
    exact ⟨same.trans atOther, facts⟩

theorem createDelivery_writesFrom {current : SIEMSink} (found : s.working.sinks.find sink.id = some current)
    (same : current.scope = sink.scope) (allowed : p s.working sink) :
    GovernanceWritesFrom env p (createDelivery env sink) s := by
  unfold createDelivery
  refine movesFrom_view ?_
  split
  · rename_i first last head final
    refine movesFrom_ofExcept fun signingSecret _ => movesFrom_view ?_
    refine movesFrom_ite (fun _ => movesFrom_pure _) fun absent => ?_
    refine movesFrom_uuid4 fun id _ => movesFrom_utcnow fun _ _ => movesFrom_utcnow fun _ _ => ?_
    refine movesFrom_view (movesFrom_expect fun deliveries inserted => movesFrom_write ?_ (moves_commit _))
    refine .cut found same head final (fun delivery member ofSink key => absent ?_) allowed inserted
    exact List.any_eq_true.mpr ⟨delivery, member, by simpa using ⟨ofSink, key⟩⟩
  · exact movesFrom_pure _

end Deliveries

end

end SacmRuntime
