import SacmRuntime.Lib.Outbox
import SacmRuntime.Governance.Delivery

namespace SacmRuntime
open Session SIEMService Table GovernanceDb

def SIEMDelivery.span (delivery : SIEMDelivery) : Span :=
  ⟨delivery.firstSequence, delivery.lastSequence, decide (delivery.status = .delivered)⟩

/-- What a sink has forwarded of the log of its organization. -/
def outboxOf (organizationId sinkId : String) (d : GovernanceDb) : Outbox String where
  length := (d.eventsOf organizationId).length
  cursor := ((d.sinks.find sinkId).map SIEMSink.cursorSequence).getD 0
  spans id := ((d.deliveries.find id).filter fun delivery => delivery.sinkId = sinkId).map SIEMDelivery.span

section
variable {env : GovernanceEnv} {p : GovernanceDb → SIEMSink → Prop} {s : Session GovernanceDb}
  {d e : GovernanceDb} {sink current : SIEMSink} {organizationId sinkId : String}

variable {delivery row : SIEMDelivery} {first last : TenantAuditEvent} {id : String} {q : Outbox String → Prop}
  {supply : Supply}

theorem outboxOf_spans {span : Span} (found : (outboxOf organizationId sinkId d).spans id = some span) :
    ∃ delivery, d.deliveries.find id = some delivery ∧ delivery.sinkId = sinkId ∧ delivery.span = span := by
  obtain ⟨delivery, picked, same⟩ := Option.map_eq_some_iff.mp found
  obtain ⟨atId, ofSink⟩ := Option.filter_eq_some_iff.mp picked
  exact ⟨delivery, atId, by simpa using ofSink, same⟩

theorem nextBatch_range (linked : AuditLinked env d) (wide : present sink.projectId = none)
    (head : (nextBatch d sink).head? = some first) (final : (nextBatch d sink).getLast? = some last) :
    first.sequence = sink.cursorSequence + 1 ∧ sink.cursorSequence < last.sequence ∧
      last.sequence = min (sink.cursorSequence + sink.batchSize) (d.eventsOf sink.organizationId).length := by
  have chain := linked sink.organizationId
  have rest : nextBatch d sink =
      ((d.eventsOf sink.organizationId).drop sink.cursorSequence).take sink.batchSize := by
    have sorted : nextBatch d sink = ((d.eventsOf sink.organizationId).filter fun event =>
        decide (sink.cursorSequence < event.sequence) && sink.wants event).take sink.batchSize :=
      congrArg (List.take sink.batchSize) (chain.sorted List.filter_sublist)
    rw [sorted, ← chain.filter_ge]
    congr 2
    funext event
    simp only [SIEMSink.wants, wide, decide_true, Bool.true_or, Bool.and_true, decide_eq_decide]
    change _ ↔ 1 + sink.cursorSequence ≤ event.sequence
    omega
  obtain ⟨previous, after⟩ := chain.drop sink.cursorSequence
  have batch := after.take sink.batchSize
  rw [← rest] at batch
  have length : (nextBatch d sink).length =
      min sink.batchSize ((d.eventsOf sink.organizationId).length - sink.cursorSequence) := by
    rw [rest, List.length_take, List.length_drop]
  have atFirst : first.sequence = 1 + sink.cursorSequence := by
    cases events : nextBatch d sink with
    | nil => simp [events] at head
    | cons event others =>
      rw [events] at head batch
      cases head
      exact batch.1
  have atLast : last.sequence + 1 = 1 + sink.cursorSequence + (nextBatch d sink).length := batch.number_last final
  have some : 0 < (nextBatch d sink).length := List.length_pos_of_mem (List.mem_of_head? head)
  omega

theorem outboxOf_congr (length : (e.eventsOf organizationId).length = (d.eventsOf organizationId).length)
    (cursor : (e.sinks.find sinkId).map SIEMSink.cursorSequence = (d.sinks.find sinkId).map SIEMSink.cursorSequence)
    (spans : (outboxOf organizationId sinkId e).spans = (outboxOf organizationId sinkId d).spans) :
    outboxOf organizationId sinkId e = outboxOf organizationId sinkId d :=
  Outbox.ext length (congrArg (Option.getD · 0) cursor) spans

theorem SinksKept.cursor {old new : Table SIEMSink} (kept : SinksKept old new) (id : String) :
    (new.find id).map SIEMSink.cursorSequence = (old.find id).map SIEMSink.cursorSequence := by
  have same := congrArg (Option.map fun scope => scope.2.2.2) (kept id)
  simpa [Option.map_map, Function.comp_def, SIEMSink.scope] using same

theorem spans_rewritten {g : SIEMDelivery → SIEMDelivery} (found : d.deliveries.find delivery.id = some delivery)
    (kept : ∀ row, (g row).batch = row.batch) (rewritten : e.deliveries = d.deliveries.update delivery.id g) :
    (outboxOf organizationId sinkId e).spans = if delivery.sinkId = sinkId then
      Function.update (outboxOf organizationId sinkId d).spans delivery.id (some (g delivery).span)
    else (outboxOf organizationId sinkId d).spans := by
  have batch := kept delivery
  simp only [SIEMDelivery.batch, Prod.mk.injEq] at batch
  have key : ∀ row, Keyed.key (g row) = Keyed.key row := fun row => congrArg Prod.fst (kept row)
  funext id
  by_cases here : id = delivery.id
  · subst here
    have atRow : e.deliveries.find delivery.id = some (g delivery) := by
      rw [rewritten, find_update_self key, found]
      rfl
    by_cases ofSink : delivery.sinkId = sinkId
    · simp [outboxOf, atRow, ofSink, batch.2.1, Option.filter_some]
    · simp [outboxOf, atRow, found, ofSink, batch.2.1, Option.filter_some]
  · have atRow : e.deliveries.find id = d.deliveries.find id := by rw [rewritten, find_update_ne here]
    by_cases ofSink : delivery.sinkId = sinkId
    · simp [outboxOf, atRow, ofSink, here]
    · simp [outboxOf, atRow, ofSink]

theorem spans_inserted {deliveries : Table SIEMDelivery} (inserted : d.deliveries.insert? delivery = some deliveries) :
    (outboxOf organizationId sinkId { d with deliveries := deliveries }).spans = if delivery.sinkId = sinkId then
      Function.update (outboxOf organizationId sinkId d).spans delivery.id (some delivery.span)
    else (outboxOf organizationId sinkId d).spans := by
  have fresh : d.deliveries.find delivery.id = none := (insert?_eq_some inserted).1
  funext id
  have found := find_insert? inserted id
  by_cases here : id = delivery.id
  · subst here
    rw [if_pos (show delivery.id = Keyed.key delivery from rfl)] at found
    by_cases ofSink : delivery.sinkId = sinkId
    · simp [outboxOf, found, ofSink, Option.filter_some]
    · simp [outboxOf, found, fresh, ofSink, Option.filter_some]
  · rw [if_neg (show ¬id = Keyed.key delivery from here)] at found
    by_cases ofSink : delivery.sinkId = sinkId
    · simp [outboxOf, found, ofSink, here]
    · simp [outboxOf, found, ofSink]

/-- A cut may happen at the forwarding states `q` allows. -/
def CutsWhere (env : GovernanceEnv) (p : GovernanceDb → SIEMSink → Prop) (organizationId sinkId : String)
    (q : Outbox String → Prop) (d : GovernanceDb) : Prop :=
  ∀ sink current first last, sink.id = sinkId → d.sinks.find sinkId = some current → current.scope = sink.scope →
    (nextBatch d sink).head? = some first → (nextBatch d sink).getLast? = some last →
    (∀ delivery ∈ d.deliveries.rows, delivery.sinkId = sink.id → delivery.idempotencyKey ≠
      idempotencyKey env sink first last (env.sha256 ((payload sink (nextBatch d sink)).text false))) →
    p d sink → q (outboxOf organizationId sinkId d)

theorem GovernanceWrite.forwards (write : GovernanceWrite env p s d) (linked : AuditLinked env s.working)
    (found : s.working.sinks.find sinkId = some current) (ofOrganization : current.organizationId = organizationId)
    (wide : present current.projectId = none) (cuts : CutsWhere env p organizationId sinkId q s.working) :
    outboxOf organizationId sinkId d = outboxOf organizationId sinkId s.working ∨
      Outbox.Step q (outboxOf organizationId sinkId s.working) (outboxOf organizationId sinkId d) := by
  cases write with
  | audit next =>
    refine .inr (.grow ?_)
    exact ((List.prefix_append _ _).filter _).length_le
  | other events deliveries sinks =>
    refine .inl (outboxOf_congr ?_ (sinks.cursor sinkId) ?_)
    · rw [eventsOf, events]
      rfl
    · simp only [outboxOf, deliveries]
  | @cut sink stored first last deliveries _ id _ _ atSink same head final fresh allowed inserted =>
    have spans := @spans_inserted s.working organizationId sinkId _ _ inserted
    by_cases here : sink.id = sinkId
    · subst here
      cases atSink.symm.trans found
      have sameScope := same
      simp only [SIEMSink.scope, Prod.mk.injEq] at sameScope
      obtain ⟨sameOrganization, sameProject, _, sameCursor⟩ := sameScope
      have range := nextBatch_range linked (sameProject ▸ wide) head final
      rw [if_pos (by rfl)] at spans
      have cursor : (outboxOf organizationId sink.id s.working).cursor = sink.cursorSequence := by
        simp [outboxOf, atSink, sameCursor]
      have absent : (outboxOf organizationId sink.id s.working).spans id = none := by
        have free : s.working.deliveries.find id = none := (insert?_eq_some inserted).1
        simp [outboxOf, free]
      have next : outboxOf organizationId sink.id { s.working with deliveries := deliveries } =
          { outboxOf organizationId sink.id s.working with
            spans := Function.update (outboxOf organizationId sink.id s.working).spans id
              (some ⟨(outboxOf organizationId sink.id s.working).cursor + 1, last.sequence, false⟩) } := by
        refine Outbox.ext rfl rfl (spans.trans ?_)
        rw [cursor, ← range.1]
        rfl
      rw [next]
      refine .inr
        (.cut absent (cursor ▸ range.2.1) ?_
        (cuts sink current first last rfl atSink same head final fresh allowed))
      change last.sequence ≤ (s.working.eventsOf organizationId).length
      rw [← ofOrganization, sameOrganization]
      omega
    · rw [if_neg (by exact here)] at spans
      exact .inl (outboxOf_congr rfl rfl spans)
  | @delivered delivery f g atRow open_ moved kept done =>
    have spans := @spans_rewritten s.working (updateSink delivery.sinkId f (updateDelivery delivery.id g s.working))
      organizationId sinkId _ _ atRow kept rfl
    by_cases here : delivery.sinkId = sinkId
    · subst here
      rw [if_pos rfl] at spans
      have waits : (outboxOf organizationId delivery.sinkId s.working).spans delivery.id = some delivery.span := by
        simp [outboxOf, atRow, Option.filter_some]
      have arrived : (g delivery).span = { delivery.span with done := true } := by
        have batch := kept delivery
        simp only [SIEMDelivery.batch, Prod.mk.injEq] at batch
        simp [SIEMDelivery.span, done, batch]
      have cursor : (f current).cursorSequence = max current.cursorSequence delivery.lastSequence :=
        congrArg (fun scope => scope.2.2.2) (moved current).2
      have next : outboxOf organizationId delivery.sinkId
          (updateSink delivery.sinkId f (updateDelivery delivery.id g s.working)) =
          { outboxOf organizationId delivery.sinkId s.working with
            cursor := max (outboxOf organizationId delivery.sinkId s.working).cursor delivery.span.last
            spans := Function.update (outboxOf organizationId delivery.sinkId s.working).spans delivery.id
              (some { delivery.span with done := true }) } := by
        refine Outbox.ext rfl ?_ (spans.trans (by rw [arrived]))
        have atSink : (s.working.sinks.update delivery.sinkId f).find delivery.sinkId = some (f current) := by
          rw [find_update_self fun sink => (moved sink).1, found]
          rfl
        simp [outboxOf, updateSink, updateDelivery, atSink, found, cursor, SIEMDelivery.span]
      rw [next]
      exact .inr (.arrive waits (by simp [SIEMDelivery.span, open_]))
    · rw [if_neg here] at spans
      refine .inl (outboxOf_congr rfl ?_ spans)
      rw [updateSink, find_update_ne (Ne.symm here)]
      rfl
  | @undelivered delivery d g atRow open_ kept failed events deliveries sinks =>
    have spans := @spans_rewritten s.working d organizationId sinkId _ _ atRow kept deliveries
    refine .inl (outboxOf_congr ?_ (sinks.cursor sinkId) ?_)
    · rw [eventsOf, events]
      rfl
    · rw [spans]
      split
      · rename_i ofSink
        have same : (outboxOf organizationId sinkId s.working).spans delivery.id = some (g delivery).span := by
          have batch := kept delivery
          simp only [SIEMDelivery.batch, Prod.mk.injEq] at batch
          simp [outboxOf, atRow, Option.filter_some, SIEMDelivery.span, batch, ofSink, open_, failed]
        rw [← same, Function.update_eq_self]
      · rfl

def rangeKey (env : GovernanceEnv) (sinkId : String) (first last : Nat) (checksum : String) : String :=
  canonicalSha256 env (.obj [("sink_id", .str sinkId), ("first_sequence", .int first), ("last_sequence", .int last),
    ("payload_checksum", .str checksum)])

/-- Every delivery of the sink carries the key of the events in its range. -/
def RangesKeyed (env : GovernanceEnv) (sink : SIEMSink) (d : GovernanceDb) : Prop :=
  ∀ id delivery, d.deliveries.find id = some delivery → delivery.sinkId = sink.id →
    delivery.lastSequence ≤ (d.eventsOf sink.organizationId).length ∧
    delivery.payloadChecksum = env.sha256 ((payload sink (d.eventsBetween sink.organizationId delivery.firstSequence
      delivery.lastSequence)).text false) ∧
    delivery.idempotencyKey = rangeKey env sink.id delivery.firstSequence delivery.lastSequence delivery.payloadChecksum

theorem payload_congr {other : SIEMSink} (id : other.id = sink.id) (source : other.source = sink.source)
    (events : List TenantAuditEvent) : payload other events = payload sink events := by
  obtain ⟨sameOrganization, sameProject⟩ : other.organizationId = sink.organizationId ∧
    other.projectId = sink.projectId := Prod.mk.inj source
  rw [payload, payload, id, sameOrganization, sameProject]

theorem nextBatch_wide (linked : AuditLinked env d) (wide : present sink.projectId = none)
    (head : (nextBatch d sink).head? = some first) (final : (nextBatch d sink).getLast? = some last) :
    nextBatch d sink = d.eventsBetween sink.organizationId first.sequence last.sequence := by
  rw [nextBatch_eq linked head final, List.filter_eq_self]
  intro event _
  simp [SIEMSink.wants, wide]

theorem GovernanceWrite.batch_from (write : GovernanceWrite env p s d) (found : d.deliveries.find id = some row) :
    (∃ old, s.working.deliveries.find id = some old ∧ row.batch = old.batch) ∨
      ∃ sink current first last signingSecret nextAttemptAt createdAt, s.working.sinks.find sink.id = some current ∧
        current.scope = sink.scope ∧ (nextBatch s.working sink).head? = some first ∧
        (nextBatch s.working sink).getLast? = some last ∧ d.auditEvents = s.working.auditEvents ∧
        row = newDelivery env sink (nextBatch s.working sink) first last signingSecret id nextAttemptAt createdAt := by
  have rewritten : ∀ (other : String) (g : SIEMDelivery → SIEMDelivery), (∀ row, (g row).batch = row.batch) →
      (s.working.deliveries.update other g).find id = some row →
      ∃ old, s.working.deliveries.find id = some old ∧ row.batch = old.batch := by
    intro other g kept atRow
    rw [find_update] at atRow
    split at atRow
    · obtain ⟨old, atOld, rfl⟩ := Option.map_eq_some_iff.mp atRow
      refine ⟨old, atOld, ?_⟩
      rw [rewriteRow_of_keeps (congrArg Prod.fst (kept old)), kept]
    · exact ⟨row, atRow, rfl⟩
  cases write with
  | audit => exact .inl ⟨row, found, rfl⟩
  | other _ deliveries => exact .inl ⟨row, deliveries ▸ found, rfl⟩
  | @cut sink current first last deliveries signingSecret newId nextAttemptAt createdAt atSink same head final fresh
      allowed inserted =>
    have looked := find_insert? inserted id
    rw [found] at looked
    split at looked
    · rename_i here
      cases looked
      refine .inr ⟨sink, current, first, last, signingSecret, nextAttemptAt, createdAt, atSink, same, head, final,
        rfl, ?_⟩
      rw [here]
      rfl
    · exact .inl ⟨row, looked.symm, rfl⟩
  | delivered f g _ _ _ kept => exact .inl (rewritten _ g kept found)
  | undelivered g _ _ kept _ _ deliveries => exact .inl (rewritten _ g kept (deliveries ▸ found))

theorem GovernanceWrite.keeps_keys (write : GovernanceWrite env p s d) (linked : AuditLinked env s.working)
    (found : s.working.sinks.find sink.id = some current) (source : current.source = sink.source)
    (wide : present sink.projectId = none) (keyed : RangesKeyed env sink s.working) : RangesKeyed env sink d := by
  have grown := write.keeps_log linked
  intro id row atRow ofSink
  rcases write.batch_from atRow with ⟨old, atOld, batch⟩ | ⟨cutting, stored, first, last, _, _, _, atSink, same, head,
    final, sameLog, rfl⟩
  · simp only [SIEMDelivery.batch, Prod.mk.injEq] at batch
    obtain ⟨_, sameSink, sameFirst, sameLast, sameKey, sameChecksum⟩ := batch
    obtain ⟨written, checksum, key⟩ := keyed id old atOld (sameSink ▸ ofSink)
    rw [sameFirst, sameLast, sameKey, sameChecksum, eventsBetween_grown linked grown written]
    exact ⟨written.trans (grown.2.filter _).length_le, checksum, key⟩
  · have sameId : cutting.id = sink.id := ofSink
    rw [sameId] at atSink
    cases atSink.symm.trans found
    simp only [SIEMSink.scope, Prod.mk.injEq] at same
    have sameSource : cutting.source = sink.source := by
      rw [← source, SIEMSink.source, SIEMSink.source, same.1, same.2.1]
    obtain ⟨sameOrganization, sameProject⟩ : cutting.organizationId = sink.organizationId ∧
      cutting.projectId = sink.projectId := Prod.mk.inj sameSource
    have whole := nextBatch_wide linked (sameProject ▸ wide) head final
    have range := nextBatch_range linked (sameProject ▸ wide) head final
    have log : ∀ organizationId, d.eventsOf organizationId = s.working.eventsOf organizationId := by
      intro organizationId
      rw [eventsOf, sameLog]
      rfl
    have bytes : payload cutting (nextBatch s.working cutting) = payload sink (d.eventsBetween sink.organizationId
        first.sequence last.sequence) := by
      rw [eventsBetween, log, payload_congr sameId sameSource, whole, sameOrganization]
      rfl
    refine ⟨?_, congrArg (fun payload : Json => env.sha256 (payload.text false)) bytes, ?_⟩
    · change last.sequence ≤ _
      rw [log, ← sameOrganization]
      omega
    · change idempotencyKey env cutting first last _ = rangeKey env sink.id first.sequence last.sequence _
      rw [idempotencyKey, sameId]
      rfl

structure Forwarding (env : GovernanceEnv) (sink : SIEMSink) (d : GovernanceDb) : Prop where
  linked : AuditLinked env d
  stored : ∃ current, d.sinks.find sink.id = some current ∧ current.source = sink.source
  keyed : RangesKeyed env sink d
  sound : (outboxOf sink.organizationId sink.id d).Sound

theorem Forwarding.write (holds : Forwarding env sink s.working) (wide : present sink.projectId = none)
    (write : GovernanceWrite env p s d) (cuts : CutsWhere env p sink.organizationId sink.id q s.working) :
    Forwarding env sink d ∧ (outboxOf sink.organizationId sink.id d = outboxOf sink.organizationId sink.id s.working ∨
      Outbox.Step q (outboxOf sink.organizationId sink.id s.working) (outboxOf sink.organizationId sink.id d)) := by
  obtain ⟨current, found, source⟩ := holds.stored
  obtain ⟨sameOrganization, sameProject⟩ : current.organizationId = sink.organizationId ∧
    current.projectId = sink.projectId := Prod.mk.inj source
  obtain ⟨next, atNext, nextSource⟩ := write.keeps_sink found
  have moved := write.forwards holds.linked found sameOrganization (sameProject ▸ wide) cuts
  refine ⟨⟨(write.keeps_log holds.linked).1, ⟨next, atNext, nextSource.trans source⟩,
    write.keeps_keys holds.linked found source wide holds.keyed, ?_⟩, moved⟩
  rcases moved with same | step
  · rw [same]
    exact holds.sound
  · exact step.keeps_sound holds.sound

theorem cutsWhere_any : CutsWhere env p organizationId sinkId (fun _ => True) d :=
  fun _ _ _ _ _ _ _ _ _ _ _ => trivial

theorem GovernanceOperation.keeps_forwarding {cursor : Nat} (op : GovernanceOperation)
    (wide : present sink.projectId = none)
    (holds : Forwarding env sink d ∧ cursor ≤ (outboxOf sink.organizationId sink.id d).cursor) :
    Forwarding env sink (op.after env d supply) ∧
      cursor ≤ (outboxOf sink.organizationId sink.id (op.after env d supply)).cursor := by
  refine request_keeps (op.writes env d supply) (P := fun e => Forwarding env sink e ∧
    cursor ≤ (outboxOf sink.organizationId sink.id e).cursor) (fun s e write holds => ?_) holds
  obtain ⟨next, moved⟩ := holds.1.write wide write cutsWhere_any
  refine ⟨next, ?_⟩
  rcases moved with same | step
  · rw [same]
    exact holds.2
  · exact holds.2.trans step.cursor_le

/-- The sequence with which the next batch of a drain ends: the drain first
records its own permission. -/
def nextEnd (d : GovernanceDb) (sink : SIEMSink) : Nat :=
  min (sink.cursorSequence + sink.batchSize) ((d.eventsOf sink.organizationId).length + 1)

/-- The operation is no drain of the sink, or something is due, or every
delivery that still waits ends where the next batch would. -/
def GovernanceOperation.CutsClear (sinkId : String) (d : GovernanceDb) (supply : Supply) : GovernanceOperation → Prop
  | drain _ _ organizationId id actor limit => id = sinkId → ∀ sink, d.sinks.find sinkId = some sink →
    due d sinkId (drainInstant d supply.clock organizationId actor) limit = [] →
    ∀ delivery ∈ d.deliveries.rows, delivery.sinkId = sinkId → delivery.status ≠ .delivered →
      delivery.lastSequence = nextEnd d sink
  | _ => True

/-- Such an operation cuts only when everything has arrived: a batch that
waits already has the key of the next one. -/
theorem GovernanceOperation.CutsClear.idle {op : GovernanceOperation} (clear : op.CutsClear sink.id d supply)
    (wide : present sink.projectId = none) (holds : Forwarding env sink e)
    (exact_ : (outboxOf sink.organizationId sink.id e).Exact) :
    CutsWhere env (op.cuts env d supply) sink.organizationId sink.id Outbox.Idle e := by
  intro cutting current first last sameId found scope head final fresh allowed id span atSpan
  obtain ⟨row, atRow, ofSink, rfl⟩ := outboxOf_spans atSpan
  by_contra waits
  have undelivered : row.status ≠ .delivered := by simpa [SIEMDelivery.span] using waits
  cases op with
  | drain auth http organizationId drained actor limit =>
    obtain ⟨inTable, ofOrganization, idle, event, recorded⟩ := allowed
    have drains : drained = sink.id := (find_key inTable).symm.trans sameId
    subst drains
    have sameDeliveries : e.deliveries = d.deliveries := by rw [recorded.store]
    have member : row ∈ d.deliveries.rows := sameDeliveries ▸ find_mem atRow
    have ends := clear rfl cutting inTable idle row member ofSink undelivered
    obtain ⟨other, atOther, source⟩ := holds.stored
    cases found.symm.trans atOther
    simp only [SIEMSink.scope, Prod.mk.injEq] at scope
    obtain ⟨sameOrganization, sameProject, _, sameCursor⟩ := scope
    have cutSource : cutting.source = sink.source := by
      rw [← source, SIEMSink.source, SIEMSink.source, sameOrganization, sameProject]
    have toSink : cutting.organizationId = sink.organizationId := congrArg Prod.fst cutSource
    have cutWide : present cutting.projectId = none := by
      rw [show cutting.projectId = sink.projectId from congrArg Prod.snd cutSource]
      exact wide
    have begins : row.firstSequence = current.cursorSequence + 1 := by
      have start := exact_.waiting id row.span atSpan (by simpa using waits)
      simpa [outboxOf, found, SIEMDelivery.span] using start
    have longer : (e.eventsOf cutting.organizationId).length = (d.eventsOf cutting.organizationId).length + 1 := by
      have events : e.auditEvents = d.auditEvents ++ [event] := by rw [recorded.store]
      rw [auditEvents_append events, recorded.next.organization, if_pos ofOrganization.symm, List.length_append]
      rfl
    obtain ⟨atFirst, _, atLast⟩ := nextBatch_range holds.linked cutWide head final
    have sameFirst : row.firstSequence = first.sequence := by omega
    have sameLast : row.lastSequence = last.sequence := by rw [ends, nextEnd, atLast, longer]
    obtain ⟨_, checksum, key⟩ := holds.keyed id row atRow ofSink
    refine fresh row (find_mem atRow) (ofSink.trans sameId.symm) (key.trans ?_)
    rw [checksum, nextBatch_wide holds.linked cutWide head final, payload_congr sameId cutSource, toSink, sameFirst,
      sameLast, idempotencyKey, sameId]
    rfl
  | _ => exact allowed.elim

theorem GovernanceOperation.keeps_exact (op : GovernanceOperation) (clear : op.CutsClear sink.id d supply)
    (wide : present sink.projectId = none)
    (holds : Forwarding env sink d ∧ (outboxOf sink.organizationId sink.id d).Exact) :
    Forwarding env sink (op.after env d supply) ∧
      (outboxOf sink.organizationId sink.id (op.after env d supply)).Exact := by
  refine request_keeps (op.writes env d supply) (P := fun e => Forwarding env sink e ∧
    (outboxOf sink.organizationId sink.id e).Exact) (fun s e write holds => ?_) holds
  obtain ⟨next, moved⟩ := holds.1.write wide write (clear.idle wide holds.1 holds.2)
  refine ⟨next, ?_⟩
  rcases moved with same | step
  · rw [same]
    exact holds.2
  · exact step.keeps_exact holds.1.sound holds.2

/-- A sink of a whole organization that has forwarded nothing yet. -/
structure NewSink (sink : SIEMSink) (d : GovernanceDb) : Prop where
  empty : d.auditEvents = []
  stored : d.sinks.find sink.id = some sink
  wide : present sink.projectId = none
  zero : sink.cursorSequence = 0
  unused : ∀ delivery ∈ d.deliveries.rows, delivery.sinkId ≠ sink.id

theorem NewSink.spans (new : NewSink sink d) (id : String) :
    (outboxOf sink.organizationId sink.id d).spans id = none := by
  cases found : (outboxOf sink.organizationId sink.id d).spans id with
  | none => rfl
  | some span =>
    obtain ⟨delivery, atId, ofSink, _⟩ := outboxOf_spans found
    exact absurd ofSink (new.unused delivery (find_mem atId))

theorem NewSink.forwarding (new : NewSink sink d) : Forwarding env sink d where
  linked := AuditLinked.of_empty new.empty
  stored := ⟨sink, new.stored, rfl⟩
  keyed id delivery atId ofSink := absurd ofSink (new.unused delivery (find_mem atId))
  sound := by
    refine Outbox.sound_of_empty ?_ new.spans
    simp [outboxOf, new.stored, new.zero]

/-- The delivered deliveries of a sink that contain the event. -/
def DeliveredIn (d : GovernanceDb) (sink : SIEMSink) (event : TenantAuditEvent) (delivery : SIEMDelivery) : Prop :=
  delivery ∈ d.deliveries.rows ∧ delivery.sinkId = sink.id ∧ delivery.status = .delivered ∧
    delivery.firstSequence ≤ event.sequence ∧ event.sequence ≤ delivery.lastSequence

def NoLoss (d : GovernanceDb) (sink : SIEMSink) : Prop :=
  ∀ current, d.sinks.find sink.id = some current → ∀ event ∈ d.eventsOf sink.organizationId,
    event.sequence ≤ current.cursorSequence → ∃ delivery, DeliveredIn d sink event delivery

def NoOverlap (d : GovernanceDb) (sink : SIEMSink) : Prop :=
  ∀ event ∈ d.eventsOf sink.organizationId, ∀ delivery other, DeliveredIn d sink event delivery →
    DeliveredIn d sink event other → delivery = other

def CursorKept (d e : GovernanceDb) (sink : SIEMSink) : Prop :=
  ∀ before after, d.sinks.find sink.id = some before → e.sinks.find sink.id = some after →
    before.cursorSequence ≤ after.cursorSequence

theorem Forwarding.noLoss (holds : Forwarding env sink d) : NoLoss d sink := by
  intro current found event member reached
  have low : 1 ≤ event.sequence := ((holds.linked sink.organizationId).number_lt member).1
  have high : event.sequence ≤ (outboxOf sink.organizationId sink.id d).cursor := by
    simpa [outboxOf, found] using reached
  obtain ⟨id, span, atSpan, done, covers⟩ := holds.sound.covered event.sequence low high
  obtain ⟨delivery, atId, ofSink, rfl⟩ := outboxOf_spans atSpan
  exact ⟨delivery, find_mem atId, ofSink, by simpa [SIEMDelivery.span] using done, covers⟩

theorem noOverlap_of_exact (exact_ : (outboxOf sink.organizationId sink.id d).Exact) : NoOverlap d sink := by
  intro event _ delivery other ⟨member, ofSink, delivered, low, high⟩ ⟨otherMember, otherSink, otherDelivered, otherLow,
    otherHigh⟩
  have spanAt : ∀ row ∈ d.deliveries.rows, row.sinkId = sink.id →
      (outboxOf sink.organizationId sink.id d).spans row.id = some row.span := by
    intro row inRows rowSink
    have found : d.deliveries.find row.id = some row := find_of_mem inRows
    simp [outboxOf, found, rowSink, Option.filter_some]
  have same : delivery.id = other.id :=
    exact_.disjoint delivery.id other.id delivery.span other.span event.sequence (spanAt _ member ofSink)
      (spanAt _ otherMember otherSink) (by simp [SIEMDelivery.span, delivered])
      (by simp [SIEMDelivery.span, otherDelivered]) ⟨low, high⟩ ⟨otherLow, otherHigh⟩
  have found : d.deliveries.find delivery.id = some delivery := find_of_mem member
  have otherFound : d.deliveries.find other.id = some other := find_of_mem otherMember
  rw [same] at found
  exact Option.some.inj (found.symm.trans otherFound)

/-- However the requests go, nothing up to the cursor is lost and the cursor
never goes back. -/
theorem siem_no_loss {meets : GovernanceDb → Supply → GovernanceOperation → Prop} {first : GovernanceDb}
    (new : NewSink sink first) (run : GovernanceExecution env meets first d)
    (rest : GovernanceExecution env meets d e) :
    NoLoss e sink ∧ CursorKept d e sink := by
  have onward : ∀ {d e : GovernanceDb} (cursor : Nat), GovernanceExecution env meets d e →
      Forwarding env sink d ∧ cursor ≤ (outboxOf sink.organizationId sink.id d).cursor →
      Forwarding env sink e ∧ cursor ≤ (outboxOf sink.organizationId sink.id e).cursor := by
    intro d e cursor path holds
    exact path.keeps (P := fun e => Forwarding env sink e ∧ cursor ≤ (outboxOf sink.organizationId sink.id e).cursor)
      (fun _ _ op _ holds => op.keeps_forwarding new.wide holds) holds
  have atD : Forwarding env sink d := (onward 0 run ⟨new.forwarding, Nat.zero_le _⟩).1
  have atE := onward _ rest ⟨atD, Nat.le_refl _⟩
  refine ⟨atE.1.noLoss, fun before after atBefore atAfter => ?_⟩
  simpa [outboxOf, atBefore, atAfter] using atE.2

/-- Where no drain cuts over a delivery that still waits, nothing is
delivered twice either. -/
theorem siem_cursor_exact {first : GovernanceDb} (new : NewSink sink first)
    (run : GovernanceExecution env (fun d supply op => op.CutsClear sink.id d supply) first d)
    (rest : GovernanceExecution env (fun d supply op => op.CutsClear sink.id d supply) d e) :
    NoLoss e sink ∧ CursorKept d e sink ∧ NoOverlap e sink := by
  have begins : Forwarding env sink first ∧ (outboxOf sink.organizationId sink.id first).Exact :=
    ⟨new.forwarding, Outbox.exact_of_empty new.spans⟩
  have onward : ∀ {d e : GovernanceDb},
      GovernanceExecution env (fun d supply op => op.CutsClear sink.id d supply) d e →
      Forwarding env sink d ∧ (outboxOf sink.organizationId sink.id d).Exact →
      Forwarding env sink e ∧ (outboxOf sink.organizationId sink.id e).Exact := by
    intro d e path holds
    exact path.keeps (P := fun e => Forwarding env sink e ∧ (outboxOf sink.organizationId sink.id e).Exact)
      (fun _ _ op clear holds => op.keeps_exact clear new.wide holds) holds
  have atE := onward rest (onward run begins)
  obtain ⟨noLoss, cursor⟩ := siem_no_loss new run rest
  exact ⟨noLoss, cursor, noOverlap_of_exact atE.2⟩

theorem Forwarding.same (holds : Forwarding env sink d) (atSink : d.sinks.find sink.id = some current)
    (atRow : d.deliveries.find id = some row) (ofSink : row.sinkId = sink.id) :
    env.sha256 ((payload current (rangeEvents d current row)).text false) = row.payloadChecksum := by
  obtain ⟨other, atOther, source⟩ := holds.stored
  cases atSink.symm.trans atOther
  have organization : current.organizationId = sink.organizationId := congrArg Prod.fst source
  rw [rangeEvents_eq holds.linked, payload_congr (find_key atSink) source, organization,
    (holds.keyed id row atRow ofSink).2.1]

theorem Forwarding.moves {α : Type} {m : GovernanceMethod α} (holds : Everywhere (Forwarding env sink) s)
    (wide : present sink.projectId = none) (moves : GovernanceWritesFrom env p m s) :
    Everywhere (Forwarding env sink) (m s).2 :=
  moves.keeps (fun _ _ step => step.everywhere fun _ _ write holds => (holds.write wide write cutsWhere_any).1) holds

section Drains
variable {auth : Option AuthContext} {http : HttpAdapter} {actor : String} {limit : Nat} {t u v : Session GovernanceDb}
  {delivery : SIEMDelivery} {status : DeliveryStatus}

theorem drainThrough_one (attempted : deliver env http sinkId delivery.id u = (.ok status, v))
    (there : v.working.sinks.find sinkId = some current) : (drainThrough env http sinkId [delivery] u).2 = v := by
  obtain ⟨report, loop⟩ : ∃ report, deliverAll env http sinkId [delivery] {} u = (.ok report, v) := by
    unfold deliverAll
    exact ⟨_, Tx.bind_run_ok _ attempted⟩
  unfold drainThrough
  rw [Tx.bind_run_ok _ loop, Tx.bind_run_ok _ (existingSink_run there)]
  rfl

section
variable (authorized : SIEMService.authorized env auth organizationId sinkId actor "data.manage" s = (.ok sink, t))
  (active : sink.status = .active)
include authorized active

theorem drain_due (waiting : due t.working sinkId (t.clock 0) limit = [delivery])
    (attempted : deliver env http sinkId delivery.id { t with clock := fun n => t.clock (n + 1) } = (.ok status, v))
    (there : v.working.sinks.find sinkId = some current) :
    (drain env auth http organizationId sinkId actor limit s).2 = v := by
  unfold drain
  rw [Tx.bind_run_ok _ authorized, if_neg (not_not.mpr active), bind_utcnow, bind_view, waiting, if_neg (by simp)]
  exact drainThrough_one attempted there

theorem drain_cut (idle : due t.working sinkId (t.clock 0) limit = [])
    (cut : createDelivery env sink { t with clock := fun n => t.clock (n + 1) } = (.ok (), u))
    (waiting : fresh u.working sinkId limit = [delivery])
    (attempted : deliver env http sinkId delivery.id u = (.ok status, v))
    (there : v.working.sinks.find sinkId = some current) :
    (drain env auth http organizationId sinkId actor limit s).2 = v := by
  unfold drain
  rw [Tx.bind_run_ok _ authorized, if_neg (not_not.mpr active), bind_utcnow, bind_view, idle, if_pos (by rfl),
    Tx.bind_run_ok _ cut, bind_view, waiting]
  exact drainThrough_one attempted there

end

end Drains

end

namespace GovernanceSample

def wideSink : SIEMSink := sink none 5

def accepting : HttpAdapter := fun _ _ _ => .ok .null

def refusing : HttpAdapter := fun _ _ _ => .error "http_status_503"

def drainOf (http : HttpAdapter) : GovernanceOperation := .drain none http "o" "k" "owner" 20

def sinkOf (d : GovernanceDb) : SIEMSink := (d.sinks.find "k").getD wideSink

theorem newSink : NewSink wideSink (store wideSink) := ⟨rfl, rfl, rfl, rfl, by simp [store, empty]⟩

/-- The session of a drain once its permission is recorded. -/
def permitted (d : GovernanceDb) (supply : Supply) : Except Error SIEMSink × Session GovernanceDb :=
  SIEMService.authorized env none "o" "k" "owner" "data.manage" (start d supply)

def ticked (s : Session GovernanceDb) : Session GovernanceDb := { s with clock := fun n => s.clock (n + 1) }

def cutSession (s : Session GovernanceDb) (sink : SIEMSink) : Option (Session GovernanceDb) := do
  let first ← (nextBatch s.working sink).head?
  let last ← (nextBatch s.working sink).getLast?
  let deliveries ← s.working.deliveries.insert? (newDelivery env sink (nextBatch s.working sink) first last "secret"
    (s.uuids 0) (s.clock 0) (s.clock 1))
  return { s.commitAs { s.working with deliveries := deliveries } 2 with uuids := fun n => s.uuids (n + 1) }

/-- The store after an attempt at a delivery whose bytes match. -/
def attempted (http : HttpAdapter) (s : Session GovernanceDb) (row : SIEMDelivery) : GovernanceDb :=
  match attempt env http (sinkOf s.working) row ((payload (sinkOf s.working)
      (rangeEvents s.working (sinkOf s.working) row)).text false) with
  | .ok receipt => arrivedStore row (s.clock 0) receipt "k" row.id s.working
  | .error code => failedStore (sinkOf s.working) (s.clock 0) (s.clock 1) code "k" row.id s.working

/-- The store after a drain that attempts one delivery, be it due or newly cut. -/
def drained (http : HttpAdapter) (d : GovernanceDb) (supply : Supply) : Option GovernanceDb := do
  let t := (permitted d supply).2
  match due t.working "k" (t.clock 0) 20 with
  | [row] => return attempted http (ticked t) row
  | [] =>
    let u ← cutSession (ticked t) (sinkOf d)
    match fresh u.working "k" 20 with
    | [row] => return attempted http u row
    | _ => none
  | _ => none

variable {d : GovernanceDb} {http : HttpAdapter} {limit : Nat} {row : SIEMDelivery} {s : Session GovernanceDb}
  {sinkId : String} {supply : Supply}

theorem sinkOf_eq {current : SIEMSink} (found : d.sinks.find "k" = some current) : sinkOf d = current := by
  simp [sinkOf, found]

theorem attempted_sink (http : HttpAdapter) (s : Session GovernanceDb) (row : SIEMDelivery) :
    ((attempted http s row).sinks.find "k").isSome = (s.working.sinks.find "k").isSome := by
  unfold attempted
  split <;> simp only [arrivedStore, failedStore, updateSink, updateDelivery, find_update_isSome]

theorem deliver_attempted (http : HttpAdapter) (holds : Forwarding env wideSink s.working)
    (member : row ∈ s.working.deliveries.rows) (ofSink : row.sinkId = "k") :
    ∃ status v current, deliver env http "k" row.id s = (.ok status, v) ∧ v.committed = attempted http s row ∧
      v.working.sinks.find "k" = some current := by
  obtain ⟨current, atSink, _⟩ := holds.stored
  have atRow : s.working.deliveries.find row.id = some row := find_of_mem member
  obtain ⟨status, n, run⟩ : ∃ status n, deliver env http "k" row.id s =
      (.ok status, s.commitAs (attempted http s row) n) := by
    unfold attempted
    rw [sinkOf_eq atSink]
    rcases deliver_run http atSink atRow (holds.same atSink atRow ofSink) with
      ⟨receipt, ok, run⟩ | ⟨code, status, failed, run⟩
    · rw [ok]
      exact ⟨_, _, run⟩
    · rw [failed]
      exact ⟨_, _, run⟩
  have stays : ((attempted http s row).sinks.find "k").isSome = true := by
    rw [attempted_sink]
    exact Option.isSome_iff_exists.mpr ⟨current, atSink⟩
  obtain ⟨later, there⟩ := Option.isSome_iff_exists.mp stays
  exact ⟨status, _, later, run, rfl, there⟩

theorem mem_due {now : Nat} (member : row ∈ due d sinkId now limit) :
    row ∈ d.deliveries.rows ∧ row.sinkId = sinkId := by
  obtain ⟨inRows, picked⟩ := List.mem_filter.mp (mem_orderBy.mp (List.mem_of_mem_take member))
  simp only [Bool.and_eq_true, decide_eq_true_eq] at picked
  exact ⟨inRows, picked.1.1⟩

theorem mem_fresh (member : row ∈ fresh d sinkId limit) : row ∈ d.deliveries.rows ∧ row.sinkId = sinkId := by
  obtain ⟨inRows, picked⟩ := List.mem_filter.mp (mem_orderBy.mp (List.mem_of_mem_take member))
  simp only [Bool.and_eq_true, decide_eq_true_eq] at picked
  exact ⟨inRows, picked.1⟩

/-- No delivery of the sink has the key of the batch to be cut. -/
def KeyFree (s : Session GovernanceDb) (sink : SIEMSink) : Prop :=
  ∀ first last, (nextBatch s.working sink).head? = some first → (nextBatch s.working sink).getLast? = some last →
    ∀ delivery ∈ s.working.deliveries.rows, delivery.sinkId = sink.id → delivery.idempotencyKey ≠
      idempotencyKey env sink first last (env.sha256 ((payload sink (nextBatch s.working sink)).text false))

theorem cutSession_run {u : Session GovernanceDb} {sink : SIEMSink} (signed : sink.signingReferenceHash = some "h")
    (free : KeyFree s sink) (cut : cutSession s sink = some u) : createDelivery env sink s = (.ok (), u) := by
  obtain ⟨first, head, cut⟩ := Option.bind_eq_some_iff.mp cut
  obtain ⟨last, final, cut⟩ := Option.bind_eq_some_iff.mp cut
  obtain ⟨deliveries, inserted, cut⟩ := Option.bind_eq_some_iff.mp cut
  cases cut
  exact createDelivery_run head final (by rw [signed]; rfl) (free first last head final) inserted

theorem permitted_forwarding (supply : Supply) (holds : Forwarding env wideSink d) :
    Everywhere (Forwarding env wideSink) (ticked (permitted d supply).2) := by
  have moved := Forwarding.moves (p := fun _ _ => True) (start_everywhere supply holds) rfl
    (m := SIEMService.authorized env none "o" "k" "owner" "data.manage") (sinkAuthorized_writes _)
  exact ⟨moved.committed, moved.flushed, moved.working⟩

/-- The drain does what `drained` says. -/
theorem drained_after {e : GovernanceDb} (holds : Forwarding env wideSink d)
    (granted : (permitted d supply).1.toOption.isSome = true)
    (columns : (sinkOf d).status = .active ∧ (sinkOf d).signingReferenceHash = some "h")
    (free : due (permitted d supply).2.working "k" ((permitted d supply).2.clock 0) 20 = [] →
      KeyFree (ticked (permitted d supply).2) (sinkOf d))
    (sketch : drained http d supply = some e) :
    (drainOf http).after env d supply = e := by
  obtain ⟨sink, ok⟩ : ∃ sink, (permitted d supply).1 = .ok sink := by
    cases result : (permitted d supply).1 with
    | ok sink => exact ⟨sink, rfl⟩
    | error e => simp [result, Except.toOption] at granted
  have run : permitted d supply = (.ok sink, (permitted d supply).2) := Prod.ext ok rfl
  obtain ⟨found, _, event, audited⟩ := sinkAuthorized_ok run
  have same : sinkOf d = sink := sinkOf_eq found
  rw [same] at columns free
  have held := permitted_forwarding supply holds
  have effect : (drainOf http).after env d supply =
      (drain env none http "o" "k" "owner" 20 (start d supply)).2.committed :=
    congrArg Session.committed (Tx.bind_pure_state _ _ _)
  have active : sink.status = .active := columns.1
  rw [effect]
  unfold drained at sketch
  dsimp only at sketch
  split at sketch
  · rename_i row waiting
    obtain ⟨member, ofSink⟩ := mem_due (waiting ▸ List.mem_singleton.mpr rfl)
    obtain ⟨status, v, current, delivered, committed, there⟩ := deliver_attempted http held.working
      member ofSink
    rw [drain_due run active waiting delivered there, committed]
    exact Option.some.inj sketch
  · rename_i idle
    obtain ⟨u, cut, sketch⟩ := Option.bind_eq_some_iff.mp sketch
    rw [same] at cut
    have created := cutSession_run columns.2 (free idle) cut
    split at sketch
    · rename_i row waiting
      obtain ⟨member, ofSink⟩ := mem_fresh (waiting ▸ List.mem_singleton.mpr rfl)
      have heldCut : Forwarding env wideSink u.working := by
        have kept := audited.recorded.sinks "k"
        rw [found] at kept
        obtain ⟨stored, atStored, scope⟩ := Option.map_eq_some_iff.mp kept
        have key : sink.id = "k" := find_key found
        have moved := Forwarding.moves held rfl (createDelivery_writesFrom (p := fun _ _ => True)
          (s := ticked (permitted d supply).2) (key ▸ atStored) scope trivial)
        rw [created] at moved
        exact moved.working
      obtain ⟨status, v, current, delivered, committed, there⟩ := deliver_attempted http heldCut member ofSink
      rw [drain_cut run active idle created waiting delivered there, committed]
      exact Option.some.inj sketch
    · cases sketch
  · cases sketch

theorem rangeKey_ne (checksum other : String) : rangeKey env "k" 1 1 checksum ≠ rangeKey env "k" 1 2 other := by
  intro same
  have texts := String.ofList_injective same
  have one : (Int.repr 1).toList = ['1'] := by decide +kernel
  have two : (Int.repr 2).toList = ['2'] := by decide +kernel
  simp [Json.dumps, Json.dumpsFields, Json.sortByKey, Json.commaJoin, Json.member, one, two] at texts

/-- The receiver refuses the first batch; before it is due again a longer one
is cut and arrives; then the first one arrives too. -/
def refused : GovernanceDb := (drained refusing (store wideSink) (supplyOf "a" 0)).getD {}

def overtaken : GovernanceDb := (drained accepting refused (supplyOf "b" 10)).getD {}

def redelivered : GovernanceDb := (drained accepting overtaken (supplyOf "c" 100000000)).getD {}

def ready (http : HttpAdapter) (d : GovernanceDb) (supply : Supply) : Bool :=
  (permitted d supply).1.toOption.isSome && decide ((sinkOf d).status = .active) &&
    decide ((sinkOf d).signingReferenceHash = some "h") && (drained http d supply).isSome

theorem after_drained (holds : Forwarding env wideSink d) (isReady : ready http d supply = true)
    (free : due (permitted d supply).2.working "k" ((permitted d supply).2.clock 0) 20 = [] →
      KeyFree (ticked (permitted d supply).2) (sinkOf d)) :
    (drainOf http).after env d supply = (drained http d supply).getD {} ∧
      Forwarding env wideSink ((drained http d supply).getD {}) := by
  simp only [ready, Bool.and_eq_true, decide_eq_true_eq] at isReady
  obtain ⟨⟨⟨granted, active⟩, signed⟩, done⟩ := isReady
  obtain ⟨e, sketch⟩ := Option.isSome_iff_exists.mp done
  have effect := drained_after holds granted ⟨active, signed⟩ free sketch
  rw [sketch]
  have start : Forwarding env wideSink d ∧ 0 ≤ (outboxOf "o" "k" d).cursor := ⟨holds, Nat.zero_le _⟩
  exact ⟨effect, effect ▸ ((drainOf http).keeps_forwarding rfl start).1⟩

theorem refused_after : (drainOf refusing).after env (store wideSink) (supplyOf "a" 0) = refused ∧
    Forwarding env wideSink refused := by
  refine after_drained newSink.forwarding (by decide +kernel) fun _ first last _ _ delivery member => ?_
  have none : (ticked (permitted (store wideSink) (supplyOf "a" 0)).2).working.deliveries.rows.isEmpty = true := by
    decide +kernel
  rw [List.isEmpty_iff.mp none] at member
  cases member

theorem overtaken_after : (drainOf accepting).after env refused (supplyOf "b" 10) = overtaken ∧
    Forwarding env wideSink overtaken := by
  refine after_drained refused_after.2 (by decide +kernel) fun _ first last head final delivery member ofSink => ?_
  have held := (permitted_forwarding (supplyOf "b" 10) refused_after.2).working
  have sinkId : (sinkOf refused).id = "k" := by decide +kernel
  have rows : ((ticked (permitted refused (supplyOf "b" 10)).2).working.deliveries.rows.all fun row =>
      decide (row.firstSequence = 1 ∧ row.lastSequence = 1)) = true := by
    decide +kernel
  have bounds : ((nextBatch (ticked (permitted refused (supplyOf "b" 10)).2).working (sinkOf refused)).head?.map
      TenantAuditEvent.sequence) = some 1 ∧
      ((nextBatch (ticked (permitted refused (supplyOf "b" 10)).2).working (sinkOf refused)).getLast?.map
        TenantAuditEvent.sequence) = some 2 := by
    decide +kernel
  have range : delivery.firstSequence = 1 ∧ delivery.lastSequence = 1 := by
    simpa using List.all_eq_true.mp rows delivery member
  rw [head, final] at bounds
  have atFirst : first.sequence = 1 := Option.some.inj bounds.1
  have atLast : last.sequence = 2 := Option.some.inj bounds.2
  have key := (held.keyed delivery.id delivery (find_of_mem member) (ofSink.trans sinkId)).2.2
  rw [range.1, range.2] at key
  rw [key, idempotencyKey, sinkId, atFirst, atLast]
  exact rangeKey_ne _ _

theorem redelivered_after : (drainOf accepting).after env overtaken (supplyOf "c" 100000000) = redelivered ∧
    Forwarding env wideSink redelivered := by
  refine after_drained overtaken_after.2 (by decide +kernel) fun idle => ?_
  have some : (due (permitted overtaken (supplyOf "c" 100000000)).2.working "k"
      ((permitted overtaken (supplyOf "c" 100000000)).2.clock 0) 20).isEmpty = false := by
    decide +kernel
  simp [idle] at some

/-- Nothing waits when the first batch is cut, and the receiver takes it. -/
theorem siem_cursor_exact_sample :
    NoLoss ((drainOf accepting).after env (store wideSink) (supplyOf "a" 0)) wideSink ∧
      CursorKept (store wideSink) ((drainOf accepting).after env (store wideSink) (supplyOf "a" 0)) wideSink ∧
      NoOverlap ((drainOf accepting).after env (store wideSink) (supplyOf "a" 0)) wideSink := by
  have clear : (drainOf accepting).CutsClear wideSink.id (store wideSink) (supplyOf "a" 0) := by
    intro _ sink _ _ delivery member
    exact absurd member List.not_mem_nil
  exact siem_cursor_exact newSink .start (.next .start (drainOf accepting) (supplyOf "a" 0) clear)

/-- An event delivered twice: the batch that waited and the longer one cut
over it both arrive. -/
theorem overlapping_batches_delivered :
    NewSink wideSink (store wideSink) ∧ GovernanceExecution env (fun _ _ _ => True) (store wideSink) redelivered ∧
      ¬NoOverlap redelivered wideSink := by
  have first : GovernanceExecution env (fun _ _ _ => True) (store wideSink) refused :=
    Path.step .start (drainOf refusing) (supplyOf "a" 0) trivial refused_after.1
  have second : GovernanceExecution env (fun _ _ _ => True) (store wideSink) overtaken :=
    first.step (drainOf accepting) (supplyOf "b" 10) trivial overtaken_after.1
  have third : GovernanceExecution env (fun _ _ _ => True) (store wideSink) redelivered :=
    second.step (drainOf accepting) (supplyOf "c" 100000000) trivial redelivered_after.1
  refine ⟨newSink, third, fun exact_ => ?_⟩
  have logged : ∃ event ∈ redelivered.eventsOf "o", event.sequence = 1 := by decide +kernel
  have rows : ∃ delivery ∈ redelivered.deliveries.rows, ∃ other ∈ redelivered.deliveries.rows,
      delivery.lastSequence ≠ other.lastSequence ∧
        (delivery.sinkId = "k" ∧ delivery.status = .delivered ∧ delivery.firstSequence ≤ 1 ∧
          1 ≤ delivery.lastSequence) ∧
        other.sinkId = "k" ∧ other.status = .delivered ∧ other.firstSequence ≤ 1 ∧ 1 ≤ other.lastSequence := by
    decide +kernel
  obtain ⟨event, member, one⟩ := logged
  obtain ⟨delivery, inRows, other, otherInRows, differ, range, otherRange⟩ := rows
  rw [← one] at range otherRange
  have same := exact_ event member delivery other ⟨inRows, range⟩ ⟨otherInRows, otherRange⟩
  exact differ (congrArg SIEMDelivery.lastSequence same)

end GovernanceSample

end SacmRuntime
