import SacmRuntime.Lib.JsonSize
import SacmRuntime.Governance.AuditLog

namespace SacmRuntime
open Session SIEMService Table Json Tx

/-- The events a sink wants: all of its organization, or those of its project. -/
def SIEMSink.wants (sink : SIEMSink) (event : TenantAuditEvent) : Bool :=
  decide (present sink.projectId = none) || decide (event.projectId = sink.projectId)

/-- The audit events of an organization in a range of sequences. -/
def GovernanceDb.eventsBetween (d : GovernanceDb) (organizationId : String) (first last : Nat) :
    List TenantAuditEvent :=
  (d.eventsOf organizationId).filter fun event => decide (first ≤ event.sequence) && decide (event.sequence ≤ last)

section
variable {env : GovernanceEnv} {d e : GovernanceDb} {sink : SIEMSink} {delivery : SIEMDelivery}

/-- `_deliver` reads back the whole range. -/
theorem rangeEvents_eq (linked : AuditLinked env d) (sink : SIEMSink) (delivery : SIEMDelivery) :
    rangeEvents d sink delivery =
      d.eventsBetween sink.organizationId delivery.firstSequence delivery.lastSequence :=
  (linked sink.organizationId).sorted List.filter_sublist

variable {current : SIEMSink} {first last : TenantAuditEvent} {http : HttpAdapter} {id organizationId : String}
  {row : SIEMDelivery} {s t : Session GovernanceDb} {supply : Supply}

/-- `_create_delivery` takes from the range what the sink wants. -/
theorem nextBatch_eq (linked : AuditLinked env d) (head : (nextBatch d sink).head? = some first)
    (final : (nextBatch d sink).getLast? = some last) :
    nextBatch d sink = (d.eventsBetween sink.organizationId first.sequence last.sequence).filter sink.wants := by
  have chain := linked sink.organizationId
  have sorted : nextBatch d sink = ((d.eventsOf sink.organizationId).filter fun event =>
      decide (sink.cursorSequence < event.sequence) && sink.wants event).take sink.batchSize :=
    congrArg (List.take sink.batchSize) (chain.sorted List.filter_sublist)
  rw [sorted] at head final ⊢
  rw [chain.take_filter _ _ head final]
  have past : sink.cursorSequence < first.sequence := by
    have member := (List.mem_filter.mp (List.mem_of_mem_take (List.mem_of_head? head))).2
    simp only [Bool.and_eq_true, decide_eq_true_eq] at member
    exact member.1
  refine List.filter_congr fun event member => ?_
  have inRange := (List.mem_filter.mp member).2
  simp only [Bool.and_eq_true, decide_eq_true_eq] at inRange
  have late : sink.cursorSequence < event.sequence := Nat.lt_of_lt_of_le past inRange.1
  simp only [late, decide_true, Bool.true_and]

theorem sequence_le (linked : AuditLinked env d) {event : TenantAuditEvent}
    (member : event ∈ d.eventsOf organizationId) : event.sequence ≤ (d.eventsOf organizationId).length := by
  have below : event.sequence < 1 + (d.eventsOf organizationId).length := ((linked organizationId).number_lt member).2
  omega

theorem eventsBetween_grown {first last : Nat} (linked : AuditLinked env d) (grown : LogGrown env d.auditEvents e)
    (written : last ≤ (d.eventsOf organizationId).length) :
    e.eventsBetween organizationId first last = d.eventsBetween organizationId first last := by
  obtain ⟨more, events⟩ := grown.2
  have parts : e.eventsOf organizationId =
      d.eventsOf organizationId ++ more.filter fun event => event.organizationId == organizationId := by
    unfold GovernanceDb.eventsOf
    rw [← events, List.filter_append]
  have numbers := (grown.1 organizationId).numbers
  rw [parts, List.map_append, List.length_append, ← List.range'_append_1, (linked organizationId).numbers] at numbers
  have later : ∀ event ∈ more.filter fun event => event.organizationId == organizationId, last < event.sequence := by
    intro event member
    have number : event.sequence ∈ (more.filter fun event => event.organizationId == organizationId).map
      (auditLink env).number := List.mem_map_of_mem member
    rw [List.append_cancel_left numbers, List.mem_range'_1] at number
    omega
  unfold GovernanceDb.eventsBetween
  rw [parts, List.filter_append]
  refine List.append_right_eq_self.mpr (List.filter_eq_nil_iff.mpr fun event member => ?_)
  have beyond := later event member
  simp only [Bool.and_eq_true, decide_eq_true_eq, not_and]
  omega

theorem payload_filter_iff {events : List TenantAuditEvent} {q : TenantAuditEvent → Bool}
    (some : events.filter q ≠ []) :
    (payload sink (events.filter q)).text false = (payload sink events).text false ↔ events.filter q = events := by
  refine ⟨fun same => ?_, fun same => by rw [same]⟩
  have texts : size false (payload sink (events.filter q)) = size false (payload sink events) :=
    congrArg List.length (String.ofList_injective same)
  have sizes := itemsSize_filter false AuditExportService.document q events
  obtain ⟨event, rest, kept⟩ := List.exists_cons_of_ne_nil some
  have positive : 0 < itemsSize false ((events.filter q).map AuditExportService.document) := by
    rw [kept, List.map_cons, itemsSize_cons]
    omega
  refine sizes.2 ?_
  simp only [payload, size_obj, fieldsSize_cons, fieldsSize_nil, size_arr] at texts
  omega

/-- The delivery was cut for the next batch of the sink at this store. -/
def CutFrom (env : GovernanceEnv) (d : GovernanceDb) (sink : SIEMSink) (delivery : SIEMDelivery) : Prop :=
  ∃ first last, (nextBatch d sink).head? = some first ∧ (nextBatch d sink).getLast? = some last ∧
    delivery.firstSequence = first.sequence ∧ delivery.lastSequence = last.sequence ∧
    delivery.payloadChecksum = env.sha256 ((payload sink (nextBatch d sink)).text false)

/-- `_create_delivery` cuts the next batch unless it was cut before. -/
theorem createDelivery_run {signingSecret : String} {deliveries : Table SIEMDelivery}
    (head : (nextBatch s.working sink).head? = some first) (final : (nextBatch s.working sink).getLast? = some last)
    (resolved : secret env sink.signingReferenceHash = .ok signingSecret)
    (absent : ∀ delivery ∈ s.working.deliveries.rows, delivery.sinkId = sink.id →
      delivery.idempotencyKey ≠ idempotencyKey env sink first last
    (env.sha256 ((payload sink (nextBatch s.working sink)).text false)))
    (inserted : s.working.deliveries.insert?
      (newDelivery env sink (nextBatch s.working sink) first last signingSecret (s.uuids 0) (s.clock 0)
      (s.clock 1)) = some deliveries) :
    createDelivery env sink s = (.ok (), { s.commitAs { s.working with deliveries := deliveries } 2 with
      uuids := fun n => s.uuids (n + 1) }) := by
  unfold createDelivery
  rw [bind_view]
  simp only [head, final, resolved]
  rw [bind_run_ok _ (show (ofExcept (.ok signingSecret) : GovernanceMethod String) s = (.ok signingSecret, s) from rfl),
    bind_view, if_neg, bind_run_ok (m := uuid4) _ rfl, bind_utcnow, bind_utcnow, bind_view]
  · rw [show s.working.deliveries.insert? _ = _ from inserted]
    rfl
  · simp only [List.any_eq_true, decide_eq_true_eq, not_exists, not_and]
    exact fun delivery member ofSink => absent delivery member ofSink

/-- A delivery that `_create_delivery` added is the one of the next batch. -/
theorem createDelivery_new (run : createDelivery env sink s = (.ok (), t))
    (absent : s.working.deliveries.find id = none) (found : t.working.deliveries.find id = some delivery) :
    t.committed = t.working ∧ t.working = { s.working with deliveries := t.working.deliveries } ∧
      CutFrom env s.working sink delivery := by
  unfold createDelivery at run
  rw [bind_view] at run
  have unchanged : t ≠ s := by
    rintro rfl
    simp [absent] at found
  cases head : (nextBatch s.working sink).head? with
  | none =>
    simp only [head] at run
    cases run
    exact absurd rfl unchanged
  | some first =>
    cases final : (nextBatch s.working sink).getLast? with
    | none =>
      simp only [head, final] at run
      cases run
      exact absurd rfl unchanged
    | some last =>
      simp only [head, final] at run
      obtain ⟨signingSecret, mid, resolved, rest⟩ := bind_ok run
      cases (ofExcept_ok resolved).2
      rw [bind_view] at rest
      split at rest
      · cases rest
        exact absurd rfl unchanged
      · rw [bind_run_ok (m := uuid4) _ rfl, bind_utcnow, bind_utcnow, bind_view] at rest
        obtain ⟨deliveries, mid, inserted, rest⟩ := bind_ok rest
        obtain ⟨added, rfl⟩ := expect_ok inserted
        rw [bind_modify] at rest
        cases rest
        have looked := find_insert? added id
        rw [found] at looked
        split at looked
        · rename_i same
          cases same
          cases looked
          exact ⟨rfl, rfl, first, last, head, final, rfl, rfl, rfl⟩
        · rw [absent] at looked
          cases looked

section Writes
variable {p : GovernanceDb → SIEMSink → Prop} {s : Session GovernanceDb} {id : String}

def SIEMSink.source (sink : SIEMSink) : String × Option String := (sink.organizationId, sink.projectId)

theorem SinksKept.source {old new : Table SIEMSink} {sink : SIEMSink} (kept : SinksKept old new)
    (found : old.find id = some sink) : ∃ current, new.find id = some current ∧ current.source = sink.source := by
  have same := kept id
  rw [found] at same
  obtain ⟨current, atId, scope⟩ := Option.map_eq_some_iff.mp same
  simp only [SIEMSink.scope, Prod.mk.injEq] at scope
  exact ⟨current, atId, by rw [SIEMSink.source, scope.1, scope.2.1]; rfl⟩

theorem GovernanceWrite.keeps_sink (write : GovernanceWrite env p s d) (found : s.working.sinks.find id = some sink) :
    ∃ current, d.sinks.find id = some current ∧ current.source = sink.source := by
  cases write with
  | audit | cut => exact ⟨sink, found, rfl⟩
  | other _ _ sinks => exact sinks.source found
  | delivered f g _ _ moved =>
    have same : ∀ other, ((s.working.sinks.update other f).find id).map SIEMSink.source = some sink.source := by
      intro other
      rw [find_update, found]
      split
      · have scope := (moved sink).2
        simp only [SIEMSink.scope, Prod.mk.injEq] at scope
        rw [Option.map_some, Option.map_some, rewriteRow_of_keeps (moved sink).1, SIEMSink.source, scope.1,
          scope.2.1]
        rfl
      · rfl
    exact Option.map_eq_some_iff.mp (same _)
  | undelivered _ _ _ _ _ _ _ sinks => exact sinks.source found

theorem GovernanceWrite.keeps_batch {row : SIEMDelivery} (write : GovernanceWrite env p s d)
    (found : s.working.deliveries.find id = some row) :
    ∃ current, d.deliveries.find id = some current ∧ current.batch = row.batch := by
  have rewritten : ∀ (other : String) (g : SIEMDelivery → SIEMDelivery), (∀ row, (g row).batch = row.batch) →
      ∃ current, (s.working.deliveries.update other g).find id = some current ∧ current.batch = row.batch := by
    intro other g kept
    rw [find_update, found]
    split
    · refine ⟨g row, ?_, kept row⟩
      rw [Option.map_some, rewriteRow_of_keeps (congrArg Prod.fst (kept row))]
    · exact ⟨row, rfl, rfl⟩
  cases write with
  | audit => exact ⟨row, found, rfl⟩
  | other _ deliveries => exact ⟨row, deliveries ▸ found, rfl⟩
  | cut _ _ _ _ _ _ inserted => exact ⟨row, find_insert?_of_some inserted found, rfl⟩
  | delivered f g _ _ _ kept => exact rewritten _ g kept
  | undelivered g _ _ kept _ _ deliveries => exact deliveries ▸ rewritten _ g kept

/-- What a store of the governance services keeps of an earlier one: the log
goes on, a delivery stays with its batch and never changes once it is accepted,
and no cursor goes back. -/
structure GovernanceDb.Retains (d e : GovernanceDb) : Prop where
  log : d.auditEvents <+: e.auditEvents
  deliveries : d.deliveries.Carries (fun old new => new.batch = old.batch ∧ (old.status = .delivered → new = old))
    e.deliveries
  sinks : d.sinks.Carries (fun old new => new.source = old.source ∧ old.cursorSequence ≤ new.cursorSequence) e.sinks

theorem GovernanceDb.retains_refl (d : GovernanceDb) : d.Retains d :=
  ⟨List.prefix_rfl, carries_refl (fun _ => ⟨rfl, fun _ => rfl⟩) _, carries_refl (fun _ => ⟨rfl, le_rfl⟩) _⟩

theorem GovernanceDb.Retains.trans {f : GovernanceDb} (first : d.Retains e) (second : e.Retains f) : d.Retains f where
  log := first.log.trans second.log
  deliveries := first.deliveries.trans (fun _ _ _ one two => ⟨two.1.trans one.1, fun accepted => by
    cases one.2 accepted
    exact two.2 accepted⟩) second.deliveries
  sinks := first.sinks.trans (fun _ _ _ one two => ⟨two.1.trans one.1, one.2.trans two.2⟩) second.sinks

theorem SinksKept.carries {old new : Table SIEMSink} (kept : SinksKept old new) :
    old.Carries (fun old new => new.source = old.source ∧ old.cursorSequence ≤ new.cursorSequence) new := by
  intro id sink found
  have same := kept id
  rw [found] at same
  obtain ⟨current, atId, scope⟩ := Option.map_eq_some_iff.mp same
  simp only [SIEMSink.scope, Prod.mk.injEq] at scope
  exact ⟨current, atId, Prod.ext scope.1 scope.2.1, scope.2.2.2.ge⟩

theorem GovernanceWrite.retains (write : GovernanceWrite env p s d) : s.working.Retains d := by
  have settled : ∀ {other : SIEMDelivery} (g : SIEMDelivery → SIEMDelivery), (∀ row, (g row).batch = row.batch) →
      s.working.deliveries.find other.id = some other → other.status ≠ .delivered →
      s.working.deliveries.Carries (fun old new => new.batch = old.batch ∧ (old.status = .delivered → new = old))
        (s.working.deliveries.update other.id g) := by
    intro other g kept found pending
    refine carries_update (fun _ => ⟨rfl, fun _ => rfl⟩) fun row atId => ?_
    cases found.symm.trans atId
    exact ⟨congrArg Prod.fst (kept other), kept other, fun accepted => (pending accepted).elim⟩
  have same := s.working.retains_refl
  cases write with
  | audit => exact ⟨List.prefix_append _ _, same.deliveries, same.sinks⟩
  | other events deliveries sinks => exact ⟨events ▸ List.prefix_rfl, deliveries ▸ same.deliveries, sinks.carries⟩
  | cut _ _ _ _ _ _ inserted =>
    exact ⟨List.prefix_rfl, carries_insert? (fun _ => ⟨rfl, fun _ => rfl⟩) inserted, same.sinks⟩
  | delivered f g found pending moved kept =>
    refine ⟨List.prefix_rfl, settled g kept found pending, ?_⟩
    refine carries_update (fun _ => ⟨rfl, le_rfl⟩) fun sink _ => ?_
    obtain ⟨key, scope⟩ := moved sink
    simp only [SIEMSink.scope, Prod.mk.injEq] at scope
    exact ⟨key, Prod.ext scope.1 scope.2.1, (le_max_left ..).trans scope.2.2.2.ge⟩
  | undelivered g found pending kept _ events deliveries sinks =>
    exact ⟨events ▸ List.prefix_rfl, deliveries ▸ settled g kept found pending, sinks.carries⟩

/-- Whatever the governance services are asked, in any order and with any
failures, nothing of the audit log is rewritten, no delivery is lost or given
another batch, an accepted one is final, and no cursor goes back. -/
theorem governance_durable (env : GovernanceEnv) (d : GovernanceDb)
    (requests : List (GovernanceOperation × Supply)) :
    d.Retains (Path.storeAfter (GovernanceOperation.after env) d requests) := by
  induction requests generalizing d with
  | nil => exact d.retains_refl
  | cons request rest ih =>
    have first : d.Retains (request.1.after env d request.2) :=
      request_keeps (request.1.writes env d request.2) (fun _ _ write before => before.trans write.retains)
        d.retains_refl
    exact first.trans (ih _)

end Writes

structure Continues (env : GovernanceEnv) (log : List TenantAuditEvent) (sink : SIEMSink) (delivery : SIEMDelivery)
    (e : GovernanceDb) : Prop where
  log : LogGrown env log e
  sink : ∃ current, e.sinks.find sink.id = some current ∧ current.source = sink.source
  delivery : ∃ row, e.deliveries.find delivery.id = some row ∧ row.batch = delivery.batch

theorem Continues.after {log : List TenantAuditEvent} (op : GovernanceOperation)
    (holds : Continues env log sink delivery d) : Continues env log sink delivery (op.after env d supply) := by
  refine request_keeps (op.writes env d supply) (fun s d write holds => ?_) holds
  obtain ⟨current, atSink, source⟩ := holds.sink
  obtain ⟨row, atRow, batch⟩ := holds.delivery
  obtain ⟨linked, longer⟩ := write.keeps_log holds.log.1
  obtain ⟨next, atNext, nextSource⟩ := write.keeps_sink atSink
  obtain ⟨nextRow, atNextRow, nextBatch⟩ := write.keeps_batch atRow
  exact ⟨⟨linked, holds.log.2.trans longer⟩, ⟨next, atNext, nextSource.trans source⟩,
    ⟨nextRow, atNextRow, nextBatch.trans batch⟩⟩

section Attempts
variable {http : HttpAdapter} {s : Session GovernanceDb} {current : SIEMSink} {row settled : SIEMDelivery}

variable {backoff maxAttempts now : Nat} {code id : String}

theorem existingSink_run (found : s.working.sinks.find id = some current) :
    existingSink id s = (.ok current, s) := by
  simp [existingSink, found, expect]

theorem existingDelivery_run (found : s.working.deliveries.find id = some row) :
    existingDelivery id s = (.ok row, s) := by
  simp [existingDelivery, found, expect]

theorem accepted_id {receipt : Json} (row : SIEMDelivery) :
    Keyed.key (accepted now receipt row) = Keyed.key row := rfl

theorem postponed_id (row : SIEMDelivery) :
    Keyed.key (postponed maxAttempts backoff now code row) = Keyed.key row := congrArg Prod.fst (postponed_batch row)

theorem postponed_code (row : SIEMDelivery) :
    (postponed maxAttempts backoff now code row).errorCode = some code := by
  unfold postponed
  split <;> rfl

def arrivedStore (row : SIEMDelivery) (now : Nat) (receipt : Json) (sinkId deliveryId : String) (d : GovernanceDb) :
    GovernanceDb :=
  updateSink sinkId (fun sink =>
    { sink with cursorSequence := max sink.cursorSequence row.lastSequence, lastSuccessAt := some now,
                lastErrorCode := none }) (updateDelivery deliveryId (accepted now receipt) d)

def failedStore (sink : SIEMSink) (now later : Nat) (code : String) (sinkId deliveryId : String) (d : GovernanceDb) :
    GovernanceDb :=
  updateSink sinkId (fun sink => { sink with lastFailureAt := some now, lastErrorCode := some code })
    (updateDelivery deliveryId (postponed sink.maxAttempts sink.backoffSeconds later code) d)

theorem deliver_run (http : HttpAdapter) (atSink : s.working.sinks.find sink.id = some current)
    (atRow : s.working.deliveries.find delivery.id = some row)
    (same : env.sha256 ((payload current (rangeEvents s.working current row)).text false) = row.payloadChecksum) :
    (∃ receipt, attempt env http current row ((payload current (rangeEvents s.working current row)).text false) =
        .ok receipt ∧ deliver env http sink.id delivery.id s = (.ok .delivered, s.commitAs
          (arrivedStore row (s.clock 0) receipt sink.id delivery.id s.working) 1)) ∨
      ∃ code status, attempt env http current row
          ((payload current (rangeEvents s.working current row)).text false) = .error code ∧
        deliver env http sink.id delivery.id s = (.ok status, s.commitAs
          (failedStore current (s.clock 0) (s.clock 1) code sink.id delivery.id s.working) 2) := by
  unfold deliver
  rw [bind_run_ok _ (existingSink_run atSink), bind_run_ok _ (existingDelivery_run atRow), bind_view,
    if_neg (not_not.mpr same), bind_utcnow]
  cases attempted : attempt env http current row
      ((payload current (rangeEvents s.working current row)).text false) with
  | ok receipt => exact .inl ⟨receipt, rfl, rfl⟩
  | error code =>
    refine .inr ⟨code, (postponed current.maxAttempts current.backoffSeconds (s.clock 1) code row).status, rfl, ?_⟩
    have atSettled : (failedStore current (s.clock 0) (s.clock 1) code sink.id delivery.id s.working).deliveries.find
        delivery.id = some (postponed current.maxAttempts current.backoffSeconds (s.clock 1) code row) := by
      rw [failedStore, updateSink, updateDelivery, find_update_self postponed_id, atRow]
      rfl
    exact bind_run_ok _ (existingDelivery_run (s := s.commitAs _ 2) atSettled)

theorem deliver_code (atSink : s.working.sinks.find sink.id = some current)
    (atRow : s.working.deliveries.find delivery.id = some row)
    (same : env.sha256 ((payload current (rangeEvents s.working current row)).text false) = row.payloadChecksum)
    (found : (deliver env http sink.id delivery.id s).2.working.deliveries.find delivery.id = some settled) :
    settled.errorCode = none ∨ ∃ code, settled.errorCode = some code ∧
      attempt env http current row ((payload current (rangeEvents s.working current row)).text false) =
        .error code := by
  rcases deliver_run http atSink atRow same with ⟨receipt, _, run⟩ | ⟨code, status, failed, run⟩
  · rw [run] at found
    simp only [Session.commitAs, arrivedStore, updateSink, updateDelivery] at found
    rw [find_update_self accepted_id, atRow] at found
    cases found
    exact .inl rfl
  · rw [run] at found
    simp only [Session.commitAs, failedStore, updateSink, updateDelivery] at found
    rw [find_update_self postponed_id, atRow] at found
    cases found
    exact .inr ⟨code, postponed_code row, failed⟩

end Attempts

/-- The error code of a delivery whose bytes do not match. -/
def mismatchCode : String := "payload_checksum_mismatch"

/-- An adapter whose errors are those of `_safe_error_code`: an HTTP status or
the name of an exception class. -/
def HttpAdapter.Plain (http : HttpAdapter) : Prop :=
  ∀ sink delivery bytes code, http sink delivery bytes = .error code → code ≠ mismatchCode

theorem attempt_plain {bytes code : String} (plain : http.Plain)
    (failed : attempt env http current row bytes = .error code) : code ≠ mismatchCode := by
  have raised : ∀ other : String, Except.error (ε := String) (α := Json) "ValueError" = .error other →
      other ≠ mismatchCode := by
    rintro other ⟨⟩
    decide
  unfold attempt at failed
  split at failed
  · exact raised code failed
  · split at failed
    · exact plain _ _ _ _ failed
    · unfold metadataAdapter at failed
      dsimp only at failed
      split at failed
      · split at failed
        · cases failed
        · exact raised code failed
      · split at failed
        · cases failed
        · exact raised code failed
      · split at failed
        · cases failed
        · exact raised code failed
      · cases failed

/-- At a later store the delivery still stands for the bytes it was created
with, and no attempt gives it up for another checksum. -/
structure Reproduced (env : GovernanceEnv) (sink : SIEMSink) (delivery : SIEMDelivery) (d e : GovernanceDb) : Prop where
  checksum : delivery.payloadChecksum = env.sha256 ((payload sink (nextBatch d sink)).text false)
  bytes : ∀ current, e.sinks.find sink.id = some current →
    (payload current (rangeEvents e current delivery)).text false = (payload sink (nextBatch d sink)).text false
  attempts : ∀ (http : HttpAdapter) (supply : Supply) (row : SIEMDelivery), http.Plain →
    (deliver env http sink.id delivery.id (start e supply)).2.working.deliveries.find delivery.id = some row →
      row.errorCode ≠ some mismatchCode

/-- The sink wants every event between the first and the last of its batch. -/
def Unmixed (d : GovernanceDb) (sink : SIEMSink) : Prop :=
  present sink.projectId = none ∨ ∀ event ∈ d.eventsOf sink.organizationId,
    (∃ first ∈ nextBatch d sink, first.sequence ≤ event.sequence) →
    (∃ last ∈ nextBatch d sink, event.sequence ≤ last.sequence) → event.projectId = sink.projectId

theorem unmixed_iff (linked : AuditLinked env d) (head : (nextBatch d sink).head? = some first)
    (final : (nextBatch d sink).getLast? = some last) :
    Unmixed d sink ↔ (d.eventsBetween sink.organizationId first.sequence last.sequence).filter sink.wants =
      d.eventsBetween sink.organizationId first.sequence last.sequence := by
  have inRange : ∀ event, event ∈ d.eventsBetween sink.organizationId first.sequence last.sequence ↔
      event ∈ d.eventsOf sink.organizationId ∧ first.sequence ≤ event.sequence ∧ event.sequence ≤ last.sequence := by
    simp [GovernanceDb.eventsBetween]
  have picked : ∀ event ∈ nextBatch d sink, first.sequence ≤ event.sequence ∧ event.sequence ≤ last.sequence := by
    intro event member
    rw [nextBatch_eq linked head final] at member
    exact ((inRange event).mp (List.mem_of_mem_filter member)).2
  rw [List.filter_eq_self]
  constructor
  · rintro (whole | others) event member
    · simp [SIEMSink.wants, whole]
    · obtain ⟨inLog, low, high⟩ := (inRange event).mp member
      have same := others event inLog ⟨first, List.mem_of_head? head, low⟩ ⟨last, List.mem_of_getLast? final, high⟩
      simp [SIEMSink.wants, same]
  · intro all
    by_cases whole : present sink.projectId = none
    · exact .inl whole
    · refine .inr fun event inLog ⟨a, aIn, low⟩ ⟨b, bIn, high⟩ => ?_
      have member := (inRange event).mpr ⟨inLog, (picked a aIn).1.trans low, high.trans (picked b bIn).2⟩
      simpa [SIEMSink.wants, whole] using all event member

section
variable (ends : Continues env d.auditEvents sink delivery e)
include ends

theorem Continues.bytes_iff (linked : AuditLinked env d) (cut : CutFrom env d sink delivery)
    (atSink : e.sinks.find sink.id = some current) :
    (payload current (rangeEvents e current delivery)).text false = (payload sink (nextBatch d sink)).text false ↔
      Unmixed d sink := by
  obtain ⟨first, last, atFirst, atLast, low, high, _⟩ := cut
  obtain ⟨other, atOther, source⟩ := ends.sink
  cases atSink.symm.trans atOther
  obtain ⟨sameOrganization, sameProject⟩ : current.organizationId = sink.organizationId ∧
    current.projectId = sink.projectId := Prod.mk.inj source
  have sameId : current.id = sink.id := find_key atSink
  have inLog : last ∈ d.eventsOf sink.organizationId := by
    have member := List.mem_of_getLast? atLast
    rw [nextBatch_eq linked atFirst atLast] at member
    exact List.mem_of_mem_filter (List.mem_of_mem_filter member)
  have read : rangeEvents e current delivery = d.eventsBetween sink.organizationId first.sequence last.sequence := by
    rw [rangeEvents_eq ends.log.1, sameOrganization, low, high]
    exact eventsBetween_grown linked ends.log (sequence_le linked inLog)
  have text : payload current (rangeEvents e current delivery) =
      payload sink (d.eventsBetween sink.organizationId first.sequence last.sequence) := by
    rw [read, payload, payload, sameId, sameOrganization, sameProject]
  have some : nextBatch d sink ≠ [] := fun none => by simp [none] at atFirst
  rw [unmixed_iff linked atFirst atLast, text]
  rw [nextBatch_eq linked atFirst atLast] at some ⊢
  rw [← payload_filter_iff some]
  exact eq_comm

theorem Continues.same (cut : CutFrom env d sink delivery) (atRow : e.deliveries.find delivery.id = some row)
    (bytes : (payload current (rangeEvents e current delivery)).text false = (payload sink (nextBatch d sink)).text
      false) :
    env.sha256 ((payload current (rangeEvents e current row)).text false) = row.payloadChecksum := by
  obtain ⟨_, _, _, _, _, _, checksum⟩ := cut
  obtain ⟨other, atOther, batch⟩ := ends.delivery
  cases atRow.symm.trans atOther
  simp only [SIEMDelivery.batch, Prod.mk.injEq] at batch
  obtain ⟨_, _, sameFirst, sameLast, _, sameChecksum⟩ := batch
  have sameRange : rangeEvents e current row = rangeEvents e current delivery := by
    rw [rangeEvents, rangeEvents, sameFirst, sameLast]
  rw [sameRange, bytes, sameChecksum, checksum]

theorem Continues.attempted (cut : CutFrom env d sink delivery) (atSink : e.sinks.find sink.id = some current)
    (bytes : (payload current (rangeEvents e current delivery)).text false = (payload sink (nextBatch d sink)).text
      false)
    {settled : SIEMDelivery} (plain : http.Plain)
    (found : (deliver env http sink.id delivery.id (start e supply)).2.working.deliveries.find delivery.id =
      some settled)
    : settled.errorCode ≠ some mismatchCode := by
  obtain ⟨row, atRow, _⟩ := ends.delivery
  intro code
  rcases deliver_code (s := start e supply) atSink atRow (ends.same cut atRow bytes) found with
    none | ⟨other, stored, failed⟩
  · simp [none] at code
  · cases stored.symm.trans code
    exact attempt_plain plain failed rfl

end

/-- What `_create_delivery` leaves behind continues from the store it found. -/
theorem Continues.start {stored : SIEMSink} (linked : AuditLinked env d) (found : d.sinks.find sink.id = some stored)
    (same : stored.source = sink.source) (created : createDelivery env sink (Session.start d supply) = (.ok (), t))
    (absent : d.deliveries.find id = none) (added : t.working.deliveries.find id = some delivery) :
    CutFrom env d sink delivery ∧ Continues env d.auditEvents sink delivery t.committed := by
  obtain ⟨committed, store, cut⟩ := createDelivery_new created absent added
  rw [start_working] at store cut
  have key : delivery.id = id := find_key added
  have sameLog : t.working.auditEvents = d.auditEvents := by rw [store]
  have sameSinks : t.working.sinks = d.sinks := by rw [store]
  refine ⟨cut, ?_⟩
  rw [committed]
  exact ⟨⟨linked.of_same sameLog, sameLog ▸ List.prefix_rfl⟩, ⟨stored, sameSinks ▸ found, same⟩,
    ⟨delivery, key ▸ added, rfl⟩⟩

/-- Whatever happens after a delivery was created, it keeps its bytes exactly
when its sink wants all events of its range. -/
theorem delivery_reproduced {before later : GovernanceDb → Supply → GovernanceOperation → Prop} {first : GovernanceDb}
    {supply : Supply} {t : Session GovernanceDb} {id : String} {stored : SIEMSink} (empty : first.auditEvents = [])
    (run : GovernanceExecution env before first d) (found : d.sinks.find sink.id = some stored)
    (same : stored.source = sink.source) (created : createDelivery env sink (start d supply) = (.ok (), t))
    (absent : d.deliveries.find id = none)
    (added : t.working.deliveries.find id = some delivery) (rest : GovernanceExecution env later t.committed e) :
    Reproduced env sink delivery d e ↔ Unmixed d sink := by
  have linked : AuditLinked env d := (audit_log_grows run (AuditLinked.of_empty empty)).1
  obtain ⟨cut, begins⟩ := Continues.start linked found same created absent added
  have ends : Continues env d.auditEvents sink delivery e := rest.keeps (fun _ _ op _ holds => holds.after op) begins
  obtain ⟨current, atSink, _⟩ := ends.sink
  have bytes := ends.bytes_iff linked cut atSink
  constructor
  · exact fun holds => bytes.mp (holds.bytes current atSink)
  · intro unmixed
    refine ⟨?_, fun other atOther => ?_, fun http supply settled plain => ?_⟩
    · obtain ⟨_, _, _, _, _, _, checksum⟩ := cut
      exact checksum
    · exact (ends.bytes_iff linked cut atOther).mpr unmixed
    · exact ends.attempted cut atSink (bytes.mpr unmixed) plain

end

instance (d : GovernanceDb) (sink : SIEMSink) : Decidable (Unmixed d sink) :=
  inferInstanceAs (Decidable (_ ∨ _))

namespace GovernanceSample

/-- Events of one project, with one of another project between them when asked. -/
def projectRecords (mixed : Bool) : List (GovernanceOperation × Supply) :=
  [recordOf "a" (some "p")] ++ (if mixed then [recordOf "b" (some "q")] else []) ++ [recordOf "c" (some "p")]

def projectSink : SIEMSink := sink (some "p") 2

def projectLog (mixed : Bool) : GovernanceDb :=
  Path.storeAfter (GovernanceOperation.after env) (store projectSink) (projectRecords mixed)

/-- What `_create_delivery` does with that log. -/
def cutBatch (mixed : Bool) : Except Error Unit × Session GovernanceDb :=
  createDelivery env projectSink (start (projectLog mixed) (supplyOf "s" 10))

theorem projectLog_reached (mixed : Bool) :
    GovernanceExecution env (fun _ _ _ => True) (store projectSink) (projectLog mixed) :=
  Path.of_requests (fun _ _ _ => trivial) .start

theorem cutBatch_stored (mixed : Bool) :
    (∃ stored, (projectLog mixed).sinks.find "k" = some stored ∧ stored.source = projectSink.source) ∧
      ∃ delivery t, cutBatch mixed = (.ok (), t) ∧ (projectLog mixed).deliveries.find "s0" = none ∧
        t.working.deliveries.find "s0" = some delivery := by
  have facts : ∀ mixed, ((projectLog mixed).sinks.find "k").map SIEMSink.source = some projectSink.source ∧
      (cutBatch mixed).1.toOption = some () ∧ ((projectLog mixed).deliveries.find "s0").isNone = true ∧
      ((cutBatch mixed).2.working.deliveries.find "s0").isSome = true := by
    decide +kernel
  obtain ⟨atSink, ok, absent, added⟩ := facts mixed
  obtain ⟨delivery, added⟩ := Option.isSome_iff_exists.mp added
  refine ⟨Option.map_eq_some_iff.mp atSink, delivery, _, Prod.ext ?_ rfl, by simpa using absent, added⟩
  cases result : (cutBatch mixed).1 with
  | ok _ => rfl
  | error e => simp [result, Except.toOption] at ok

def recordedLater (d : GovernanceDb) : GovernanceDb :=
  GovernanceOperation.after env (recordOf "d" (some "q")).1 d (recordOf "d" (some "q")).2

/-- A project's own events alone are delivered as they were cut. -/
theorem delivery_reproduced_sample : ∃ delivery t, cutBatch false = (.ok (), t) ∧
    Unmixed (projectLog false) projectSink ∧
    Reproduced env projectSink delivery (projectLog false) (recordedLater t.committed) := by
  obtain ⟨⟨stored, found, same⟩, delivery, t, created, absent, added⟩ := cutBatch_stored false
  have unmixed : Unmixed (projectLog false) projectSink := by decide +kernel
  have rest : GovernanceExecution env (fun _ _ _ => True) t.committed (recordedLater t.committed) :=
    .next .start _ _ trivial
  exact ⟨delivery, t, created, unmixed,
    (delivery_reproduced rfl (projectLog_reached false) found same created absent added rest).mpr unmixed⟩

/-- An event of another project inside the range makes the delivery fail. -/
theorem mixed_batch_rejected : ∃ delivery t, cutBatch true = (.ok (), t) ∧
    t.working.deliveries.find "s0" = some delivery ∧
    ¬Reproduced env projectSink delivery (projectLog true) t.committed := by
  obtain ⟨⟨stored, found, same⟩, delivery, t, created, absent, added⟩ := cutBatch_stored true
  have linked : AuditLinked env (projectLog true) :=
    (audit_log_grows (projectLog_reached true) (AuditLinked.of_empty rfl)).1
  obtain ⟨cut, begins⟩ := Continues.start linked found same created absent added
  obtain ⟨current, atSink, _⟩ := begins.sink
  refine ⟨delivery, t, created, added, fun holds => ?_⟩
  have unmixed := (begins.bytes_iff linked cut atSink).mp (holds.bytes current atSink)
  exact absurd unmixed (by decide +kernel)

end GovernanceSample

end SacmRuntime
