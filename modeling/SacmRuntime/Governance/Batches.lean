import SacmRuntime.Governance.Operations
import SacmRuntime.Governance.Processing

namespace SacmRuntime
open Session GovernanceRequestService Table

/-- The items of a request, reduced, in the order they were added. -/
def itemsOf (d : GovernanceDb) (requestId : String) : List GovernanceRequestItem :=
  (plainItems d.items).filter fun item => item.requestId = requestId

def judged (judge : GovernanceRequestItem → ItemStatus) (item : GovernanceRequestItem) : GovernanceRequestItem :=
  { item with status := judge item }

/-- An inventory: pending items of one request, numbered from one. -/
structure Inventory (requestId : String) (items : List GovernanceRequestItem) : Prop where
  plain : ∀ item ∈ items, item.plain = item
  ofRequest : ∀ item ∈ items, item.requestId = requestId
  pending : ∀ item ∈ items, item.status = .pending
  numbered : items.map GovernanceRequestItem.position = List.range' 1 items.length

/-- The first items of an inventory are settled, the others wait, and the
counters of the request say so. -/
structure Progress (terms : GovernanceRequest) (judge : GovernanceRequestItem → ItemStatus)
    (items : List GovernanceRequestItem) (done : Nat) (d : GovernanceDb) : Prop where
  within : done ≤ items.length
  statuses : itemsOf d terms.id = (items.take done).map (judged judge) ++ items.drop done
  request : ∃ row, d.requests.find terms.id = some row ∧ row.terms = terms ∧ row.processedCount = done ∧
    row.processingCursor = done ∧
    row.blockedCount = (items.take done).countP fun item => judge item = .blockedLegalHold

section
variable {env : GovernanceEnv} {terms request row : GovernanceRequest} {judge : GovernanceRequestItem → ItemStatus}
  {items : List GovernanceRequestItem} {done : Nat} {d e : GovernanceDb}

theorem verdict_ne_pending (d : GovernanceDb) (request : GovernanceRequest) (item : GovernanceRequestItem) :
    verdict d request item ≠ .pending := by
  unfold verdict
  split
  · simp
  · split
    · split <;> simp
    · split
      · simp
      · generalize Option.getD _ _ = mode
        cases mode <;> simp [DeletionMode.outcome]

section Counters

theorem countItems_terms (judge : GovernanceRequestItem → ItemStatus) (items : List GovernanceRequestItem)
    (request : GovernanceRequest) : (countItems judge items request).terms = request.terms := by
  induction items generalizing request with
  | nil => rfl
  | cons item rest ih => exact ih _

theorem countItems_processed (judge : GovernanceRequestItem → ItemStatus) (items : List GovernanceRequestItem)
    (request : GovernanceRequest) :
    (countItems judge items request).processedCount = request.processedCount + items.length := by
  induction items generalizing request with
  | nil => rfl
  | cons item rest ih =>
    refine (ih _).trans ?_
    simp only [countItem, List.length_cons]
    omega

theorem countItems_blocked (judge : GovernanceRequestItem → ItemStatus) (items : List GovernanceRequestItem)
    (request : GovernanceRequest) :
    (countItems judge items request).blockedCount =
      request.blockedCount + items.countP fun item => judge item = .blockedLegalHold := by
  induction items generalizing request with
  | nil => rfl
  | cons item rest ih =>
    refine (ih _).trans ?_
    by_cases blocked : judge item = .blockedLegalHold
    · simp only [countItem, blocked, List.countP_cons, decide_true, if_true]
      omega
    · simp [countItem, blocked]

theorem countItems_cursor (judge : GovernanceRequestItem → ItemStatus) (request : GovernanceRequest)
    (numbered : items.map GovernanceRequestItem.position = List.range' (request.processingCursor + 1) items.length) :
    (countItems judge items request).processingCursor = request.processingCursor + items.length := by
  induction items generalizing request with
  | nil => rfl
  | cons item rest ih =>
    simp only [List.map_cons, List.length_cons, List.range'_succ, List.cons.injEq] at numbered
    have here : (countItem (judge item) item.position request).processingCursor = request.processingCursor + 1 :=
      numbered.1
    have rest_ : (countItems judge rest (countItem (judge item) item.position request)).processingCursor =
        (countItem (judge item) item.position request).processingCursor + rest.length := by
      apply ih
      rw [here]
      exact numbered.2
    refine rest_.trans ?_
    rw [here, List.length_cons]
    omega

end Counters

theorem map_plain_filter {p : GovernanceRequestItem → Bool} (agrees : ∀ item, p item.plain = p item)
    (t : Table GovernanceRequestItem) :
    (t.rows.filter p).map GovernanceRequestItem.plain = (plainItems t).filter p := by
  rw [plainItems, List.filter_map]
  congr 2
  funext item
  exact (agrees item).symm

theorem map_plain_orderBy (rows : List GovernanceRequestItem) :
    (orderBy GovernanceRequestItem.position rows).map GovernanceRequestItem.plain =
      orderBy GovernanceRequestItem.position (rows.map GovernanceRequestItem.plain) :=
  List.map_insertionSort _ _ _ _ fun _ _ _ _ => Iff.rfl

theorem Inventory.drop_positions (inventory : Inventory request.id items) (done : Nat) :
    (items.drop done).map GovernanceRequestItem.position = List.range' (1 + done) (items.length - done) := by
  rw [List.map_drop, inventory.numbered, List.drop_range', Nat.mul_one]

theorem Inventory.past (inventory : Inventory request.id items) {item : GovernanceRequestItem}
    (member : item ∈ items.drop done) : done < item.position := by
  have position : item.position ∈ (items.drop done).map GovernanceRequestItem.position := List.mem_map_of_mem member
  rw [inventory.drop_positions, List.mem_range'_1] at position
  omega

theorem Progress.pending (progress : Progress terms (verdict d terms) items done d)
    (inventory : Inventory terms.id items) :
    ((itemsOf d terms.id).filter fun item => decide (item.status = .pending)) = items.drop done := by
  rw [progress.statuses, List.filter_append]
  have settled : (((items.take done).map (judged (verdict d terms))).filter fun item =>
      decide (item.status = .pending)) = [] := by
    refine List.filter_eq_nil_iff.mpr fun item member => ?_
    obtain ⟨old, _, rfl⟩ := List.mem_map.mp member
    simp [judged, verdict_ne_pending]
  have open_ : ((items.drop done).filter fun item => decide (item.status = .pending)) = items.drop done := by
    refine List.filter_eq_self.mpr fun item member => ?_
    simpa using inventory.pending item (List.mem_of_mem_drop member)
  rw [settled, open_, List.nil_append]

theorem Progress.next_batch (progress : Progress terms (verdict d terms) items done d)
    (inventory : Inventory terms.id items)
    (id : row.id = terms.id) (cursor : row.processingCursor = done) (batchSize : Nat) :
    (batch d row batchSize).map GovernanceRequestItem.plain = (items.drop done).take batchSize := by
  have waiting : ((plainItems d.items).filter fun item => decide (item.requestId = row.id) &&
      decide (item.status = .pending) && decide (row.processingCursor < item.position)) = items.drop done := by
    have past : ((items.drop done).filter fun item => decide (done < item.position)) = items.drop done := by
      refine List.filter_eq_self.mpr fun item member => ?_
      simpa using inventory.past member
    rw [id, cursor, ← past, ← progress.pending inventory, itemsOf, List.filter_filter, List.filter_filter]
    refine List.filter_congr fun item _ => ?_
    simp only [Bool.and_assoc, Bool.and_comm]
  have sorted : orderBy GovernanceRequestItem.position (items.drop done) = items.drop done := by
    refine List.Pairwise.insertionSort_eq (List.pairwise_map.mp ?_)
    rw [inventory.drop_positions]
    exact (List.pairwise_lt_range' 1).imp Nat.le_of_lt
  unfold GovernanceRequestService.batch
  rw [List.map_take, map_plain_orderBy, map_plain_filter (fun _ => rfl), waiting, sorted]

theorem settleRows_requestId (judge : GovernanceRequestItem → ItemStatus) (items : List GovernanceRequestItem)
    (row : GovernanceRequestItem) : (settleRows judge items row).requestId = row.requestId := by
  induction items generalizing row with
  | nil => rfl
  | cons item rest ih =>
    refine (ih _).trans ?_
    dsimp only [settleRow]
    split <;> rfl

theorem BatchDone.itemsOf {batch : List GovernanceRequestItem} (finished : BatchDone env row batch d e) (id : String) :
    itemsOf e id = (itemsOf d id).map (settleRows (verdict d row) batch) := by
  unfold SacmRuntime.itemsOf
  rw [finished.statuses, List.filter_map]
  congr 2
  funext item
  simp only [Function.comp_apply, settleRows_requestId]

theorem Progress.distinct (progress : Progress terms judge items done d) :
    (items.map GovernanceRequestItem.id).Nodup := by
  have same : (itemsOf d terms.id).map GovernanceRequestItem.id = items.map GovernanceRequestItem.id := by
    rw [progress.statuses, List.map_append, List.map_map]
    exact (List.map_append.symm).trans (congrArg _ (List.take_append_drop done items))
  have table : ((plainItems d.items).map GovernanceRequestItem.id).Nodup := by
    rw [plainItems, List.map_map]
    exact d.items.distinct
  rw [← same]
  exact (List.filter_sublist.map _).nodup table

/-- Settling the next items of an inventory leaves those before and after
them alone. -/
theorem settle_append {batch first next rest : List GovernanceRequestItem}
    (distinct : ((first ++ (next ++ rest)).map GovernanceRequestItem.id).Nodup)
    (same : batch.map GovernanceRequestItem.plain = next) :
    (first.map (judged (verdict d row.terms)) ++ (next ++ rest)).map (settleRows (verdict d row) batch) =
      (first ++ next).map (judged (verdict d row.terms)) ++ rest := by
  have ids : batch.map GovernanceRequestItem.id = next.map GovernanceRequestItem.id := by
    rw [← same, List.map_map]
    rfl
  simp only [List.map_append, List.nodup_append, List.mem_append] at distinct
  obtain ⟨_, ⟨nextDistinct, _, nextApart⟩, firstApart⟩ := distinct
  have notIn : ∀ item : GovernanceRequestItem, (∀ id ∈ next.map GovernanceRequestItem.id, id ≠ item.id) →
      settleRows (verdict d row) batch item = item := by
    intro item apart
    refine settleRows_absent fun other member => apart other.id ?_
    rw [← ids]
    exact List.mem_map_of_mem member
  have before : (first.map (judged (verdict d row.terms))).map (settleRows (verdict d row) batch) =
      first.map (judged (verdict d row.terms)) := by
    rw [List.map_map]
    refine List.map_congr_left fun item member => notIn _ fun id inNext clash => ?_
    exact firstApart item.id (List.mem_map_of_mem member) id (.inl inNext) clash.symm
  have after : rest.map (settleRows (verdict d row) batch) = rest := by
    refine (List.map_congr_left fun item member => ?_).trans (List.map_id rest)
    exact notIn item fun id inNext => nextApart id inNext item.id (List.mem_map_of_mem member)
  have here : next.map (settleRows (verdict d row) batch) = next.map (judged (verdict d row.terms)) := by
    refine List.map_congr_left fun item member => ?_
    rw [← same] at member
    obtain ⟨live, inBatch, rfl⟩ := List.mem_map.mp member
    have settled : settleRows (verdict d row) batch live.plain = { live.plain with status := verdict d row live } :=
      settleRows_present (ids ▸ nextDistinct) inBatch rfl
    exact settled
  simp only [List.map_append, before, after, here, List.append_assoc]

theorem settleRequest_fields (remaining now : Nat) (request : GovernanceRequest) :
    (settleRequest remaining now request).terms = request.terms ∧
      (settleRequest remaining now request).processedCount = request.processedCount ∧
      (settleRequest remaining now request).blockedCount = request.blockedCount ∧
      (settleRequest remaining now request).processingCursor = request.processingCursor := by
  unfold settleRequest
  split
  · exact ⟨rfl, rfl, rfl, rfl⟩
  · split
    · exact ⟨rfl, rfl, rfl, rfl⟩
    · exact ⟨rfl, rfl, rfl, rfl⟩

/-- One call of `process` settles as many items as fit its batch. -/
theorem Progress.step {batchSize : Nat} (progress : Progress terms (verdict d terms) items done d)
    (inventory : Inventory terms.id items) (atRow : d.requests.find terms.id = some row)
    (finished : BatchDone env row (batch d row batchSize) d e) :
    Progress terms (verdict e terms) items (done + min batchSize (items.length - done)) e := by
  obtain ⟨current, atCurrent, sameTerms, processed, cursor, blocked⟩ := progress.request
  cases atCurrent.symm.trans atRow
  subst sameTerms
  have next : (batch d row batchSize).map GovernanceRequestItem.plain =
      (items.drop done).take (min batchSize (items.length - done)) := by
    rw [progress.next_batch inventory (find_key atRow) cursor, List.take_eq_take_min, List.length_drop]
  generalize settledCount : min batchSize (items.length - done) = count at next ⊢
  have fits : done + count ≤ items.length := by
    have := progress.within
    omega
  have size : (batch d row batchSize).length = count := by
    have lengths := congrArg List.length next
    rw [List.length_map, List.length_take, List.length_drop] at lengths
    omega
  refine ⟨fits, ?_, ?_⟩
  · have split : items.drop done = (items.drop done).take count ++ items.drop (done + count) := by
      rw [← List.drop_drop, List.take_append_drop]
    have distinct := progress.distinct
    rw [← List.take_append_drop done items, split] at distinct
    rw [finished.itemsOf, finished.rules.verdict, progress.statuses, split, List.take_add]
    exact settle_append distinct next
  · obtain ⟨now, manifest, final⟩ := finished.request
    have numbered : (batch d row batchSize).map GovernanceRequestItem.position =
        List.range' (row.processingCursor + 1) (batch d row batchSize).length := by
      have positions := congrArg (List.map GovernanceRequestItem.position) next
      rw [List.map_map, List.map_take, inventory.drop_positions, List.take_range'_of_length_ge (by omega)] at positions
      rw [size, cursor, Nat.add_comm]
      exact positions
    have counts : ((batch d row batchSize).countP fun item => verdict d row item = .blockedLegalHold) =
        ((items.drop done).take count).countP fun item => verdict d row.terms item = .blockedLegalHold := by
      rw [← next, List.countP_map]
      rfl
    obtain ⟨same, processedSame, blockedSame, cursorSame⟩ := settleRequest_fields
      (pendingCount (if env.autoflush then e.items else d.items) row.id) now
      (countItems (verdict d row) (batch d row batchSize) { row with status := .processing })
    refine ⟨_, final, ?_, ?_, ?_, ?_⟩
    · refine same.trans ?_
      rw [countItems_terms]
      rfl
    · refine processedSame.trans ?_
      rw [countItems_processed, size]
      exact congrArg (· + count) processed
    · refine cursorSame.trans ?_
      have moved := countItems_cursor (verdict d row) { row with status := .processing } numbered
      rw [moved, size]
      exact congrArg (· + count) cursor
    · refine blockedSame.trans ?_
      rw [countItems_blocked, counts, List.take_add, List.countP_append, finished.rules.verdict]
      exact congrArg (· + _) blocked

/-- The status that says whether items are pending or were blocked. -/
def honestStatus (pending blocked : Nat) : RequestStatus :=
  if pending ≠ 0 then .processing else if blocked ≠ 0 then .blocked else .completed

/-- The status of the request is the one its items call for. -/
def Truthful (d : GovernanceDb) (requestId : String) : Prop :=
  ∃ row, d.requests.find requestId = some row ∧
    row.status = honestStatus (pendingCount d.items requestId) row.blockedCount

theorem honestStatus_eq_iff {before after blocked : Nat} (fewer : after ≤ before) :
    honestStatus before blocked = honestStatus after blocked ↔ before = 0 ∨ after ≠ 0 := by
  unfold honestStatus
  by_cases none : before = 0
  · have : after = 0 := by omega
    simp [none, this]
  · by_cases some : after = 0
    · by_cases quiet : blocked = 0 <;> simp [none, some, quiet]
    · simp [none, some]

theorem settleRequest_status (remaining now : Nat) (request : GovernanceRequest) :
    (settleRequest remaining now request).status = honestStatus remaining request.blockedCount := by
  unfold settleRequest honestStatus
  split
  · rfl
  · split <;> rfl

theorem Progress.pendingCount (progress : Progress terms (verdict d terms) items done d)
    (inventory : Inventory terms.id items) : pendingCount d.items terms.id = items.length - done := by
  have reduced := congrArg List.length (map_plain_filter (p := fun item => decide (item.requestId = terms.id) &&
    decide (item.status = .pending)) (fun _ => rfl) d.items)
  rw [List.length_map] at reduced
  have waiting := congrArg List.length (progress.pending inventory)
  rw [itemsOf, List.filter_filter, List.length_drop] at waiting
  rw [← waiting, SacmRuntime.pendingCount, reduced]
  congr 2
  funext item
  rw [Bool.and_comm]

/-- Without autoflush the count sees the items as they were before: the
status is right when nothing was pending or something still is. -/
theorem Progress.truthful_iff {batchSize : Nat} (off : env.autoflush = false)
    (progress : Progress terms (verdict d terms) items done d) (inventory : Inventory terms.id items)
    (atRow : d.requests.find terms.id = some row) (finished : BatchDone env row (batch d row batchSize) d e) :
    Truthful e terms.id ↔ SacmRuntime.pendingCount d.items terms.id = 0 ∨
      batchSize < SacmRuntime.pendingCount d.items terms.id := by
  have before := progress.pendingCount inventory
  have after := (progress.step inventory atRow finished).pendingCount inventory
  have key : row.id = terms.id := find_key atRow
  obtain ⟨now, manifest, final⟩ := finished.request
  rw [off, key] at final
  simp only [Bool.false_eq_true, if_false] at final
  generalize countItems (verdict d row) _ _ = counted at final
  have status := settleRequest_status (SacmRuntime.pendingCount d.items terms.id) now counted
  have blocked := (settleRequest_fields (SacmRuntime.pendingCount d.items terms.id) now counted).2.2.1
  have seen : Truthful e terms.id ↔ honestStatus (SacmRuntime.pendingCount d.items terms.id) counted.blockedCount =
      honestStatus (SacmRuntime.pendingCount e.items terms.id) counted.blockedCount := by
    constructor
    · rintro ⟨other, atOther, honest⟩
      cases atOther.symm.trans final
      rw [← status, ← blocked]
      exact honest
    · intro same
      refine ⟨_, final, status.trans ?_⟩
      rw [same, ← blocked]
  rw [seen, honestStatus_eq_iff (by omega), before, after]
  omega

/-- A call of `process`: its batch size and the stores around it. -/
structure Stage where
  size : Nat
  before : GovernanceDb
  after : GovernanceDb

/-- The request, its items, the holds and the rules are the same. -/
structure Untouched (requestId : String) (d e : GovernanceDb) : Prop extends SameRules d e where
  request : e.requests.find requestId = d.requests.find requestId
  items : itemsOf e requestId = itemsOf d requestId

/-- Calls of `process` that return, one after another. In between anything
may happen that touches neither the request nor the holds and rules. -/
inductive Batches (env : GovernanceEnv) (organizationId requestId : String) (first : GovernanceDb) :
    List Stage → GovernanceDb → Prop
  | start : Batches env organizationId requestId first [] first
  | call {stages d e f auth actor size supply result} (before : Batches env organizationId requestId first stages d)
      (meanwhile : Untouched requestId d e)
      (returned : Session.request (process env auth organizationId requestId actor size) e supply = (.ok result, f)) :
      Batches env organizationId requestId first (stages ++ [⟨size, e, f⟩]) f

def outcome (d : GovernanceDb) (requestId : String) : List (String × ItemStatus) × Option (Nat × Nat × Nat) :=
  ((itemsOf d requestId).map fun item => (item.id, item.status),
    (d.requests.find requestId).map fun row => (row.processedCount, row.blockedCount, row.processingCursor))

theorem Progress.outcome_eq (progress : Progress terms judge items done d) (other : Progress terms judge items done e) :
    outcome d terms.id = outcome e terms.id := by
  obtain ⟨row, atRow, _, processed, cursor, blocked⟩ := progress.request
  obtain ⟨otherRow, atOther, _, otherProcessed, otherCursor, otherBlocked⟩ := other.request
  unfold outcome
  rw [progress.statuses, other.statuses, atRow, atOther]
  simp only [Option.map_some, processed, cursor, blocked, otherProcessed, otherCursor, otherBlocked]

theorem Progress.untouched (progress : Progress terms (verdict d terms) items done d) (same : Untouched terms.id d e) :
    Progress terms (verdict e terms) items done e := by
  refine ⟨progress.within, ?_, ?_⟩
  · rw [same.items, same.toSameRules.verdict]
    exact progress.statuses
  · rw [same.request, same.toSameRules.verdict]
    exact progress.request

theorem Batches.progress {organizationId : String} {first : GovernanceDb} {stages : List Stage}
    (inventory : Inventory terms.id items) (begins : Progress terms (verdict first terms) items 0 first)
    (run : Batches env organizationId terms.id first stages d) :
    SameRules first d ∧ Progress terms (verdict d terms) items (min (stages.map Stage.size).sum items.length) d := by
  induction run with
  | start => exact ⟨SameRules.refl first, by simpa using begins⟩
  | call before meanwhile returned ih =>
    obtain ⟨row, atRow, finished⟩ := batchDone_of_returned returned
    have found := ih.2.untouched meanwhile
    have next := found.step inventory atRow finished
    refine ⟨(ih.1.trans meanwhile.toSameRules).trans finished.rules, ?_⟩
    rw [List.map_append, List.sum_append]
    simp only [List.map_cons, List.map_nil, List.sum_cons, List.sum_nil, Nat.add_zero]
    convert next using 1
    omega

/-- In a sequence of calls the status is right after each call exactly when
each of them found nothing pending or left something pending. -/
theorem Batches.truthful_iff {organizationId : String} {first : GovernanceDb} {stages : List Stage}
    (off : env.autoflush = false) (inventory : Inventory terms.id items)
    (begins : Progress terms (verdict first terms) items 0 first)
    (run : Batches env organizationId terms.id first stages d) :
    (∀ stage ∈ stages, Truthful stage.after terms.id) ↔ ∀ stage ∈ stages,
      SacmRuntime.pendingCount stage.before.items terms.id = 0 ∨
        stage.size < SacmRuntime.pendingCount stage.before.items terms.id := by
  induction run with
  | start => simp
  | call before meanwhile returned ih =>
    obtain ⟨row, atRow, finished⟩ := batchDone_of_returned returned
    have found := (before.progress inventory begins).2.untouched meanwhile
    have last := found.truthful_iff off inventory atRow finished
    simp only [List.forall_mem_append, List.forall_mem_singleton]
    exact and_congr ih last

/-- The items `inventory` adds are pending, of the request, and numbered on. -/
theorem addItems_ok {position : Nat} {lines : List InventoryLine} {s t : Session GovernanceDb} {u : Unit}
    (run : addItems request position lines s = (.ok u, t)) :
    ∃ added : List GovernanceRequestItem, t.working = { s.working with items := t.working.items } ∧
      t.working.items.rows = s.working.items.rows ++ added ∧ added.length = lines.length ∧
      (∀ item ∈ added, item.requestId = request.id ∧ item.status = .pending) ∧
      added.map GovernanceRequestItem.position = List.range' position lines.length := by
  induction lines generalizing position s with
  | nil =>
    cases run
    exact ⟨[], rfl, by simp, rfl, by simp, rfl⟩
  | cons line rest ih =>
    unfold addItems at run
    obtain ⟨id, mid, drawn, run⟩ := Tx.bind_ok run
    cases drawn
    rw [bind_view, bind_view] at run
    obtain ⟨items, mid, inserted, run⟩ := Tx.bind_ok run
    obtain ⟨some_, rfl⟩ := Tx.expect_ok inserted
    rw [bind_modify] at run
    obtain ⟨added, frame, rows, length, fields, numbered⟩ := ih run
    split at some_
    · cases some_
    · obtain ⟨item, appended, ofRequest, pending, here⟩ : ∃ item : GovernanceRequestItem,
          items.rows = s.working.items.rows ++ [item] ∧ item.requestId = request.id ∧ item.status = .pending ∧
            item.position = position := ⟨_, (insert?_eq_some some_).2, rfl, rfl, rfl⟩
      refine ⟨item :: added, ?_, ?_, ?_, ?_, ?_⟩
      · rw [frame]
      · rw [rows]
        exact (congrArg (· ++ added) appended).trans (List.append_assoc _ _ _)
      · simp [length]
      · intro other member
        rcases List.mem_cons.mp member with rfl | later
        · exact ⟨ofRequest, pending⟩
        · exact fields other later
      · simp [numbered, here, List.range'_succ]

theorem inventory_ok {auth : Option AuthContext} {organizationId requestId actor : String} {supply : Supply}
    (returned : Session.request (inventory env auth organizationId requestId actor) d supply = (.ok row, e)) :
    ∃ items, row.terms.id = requestId ∧ row.inventoryCount = items.length ∧ Inventory requestId items ∧
      Progress row.terms (verdict e row.terms) items 0 e := by
  obtain ⟨t, run, rfl⟩ : ∃ t, inventory env auth organizationId requestId actor (start d supply) =
      (.ok row, t) ∧ t.committed = e := by
    obtain ⟨ok, store⟩ := Prod.mk.inj returned
    exact ⟨_, Prod.ext ok rfl, store⟩
  unfold inventory at run
  obtain ⟨found, mid, authorized, run⟩ := Tx.bind_ok run
  obtain ⟨inTable, _, event, audited⟩ := requestAuthorized_ok authorized
  have key : found.id = requestId := find_key inTable
  have same : SameRequests d mid.working := audited.recorded.sameRequests
  split at run
  · cases run
  · rw [bind_modify, bind_view] at run
    obtain ⟨lines, after, listed, run⟩ := Tx.bind_ok run
    obtain ⟨_, rfl⟩ := Tx.ofExcept_ok listed
    obtain ⟨_, filled, added, run⟩ := Tx.bind_ok run
    obtain ⟨items, frame, rows, length, fields, numbered⟩ := addItems_ok added
    rw [Tx.bind_run_ok (m := updateRequest requestId _) _ rfl, bind_commit] at run
    obtain ⟨_, last, recorded, run⟩ := Tx.bind_ok run
    obtain ⟨_, final⟩ := audit_ok recorded
    obtain ⟨atRow, rfl⟩ := existingRequest_ok run
    have kept := final.recorded.sameRequests
    have atFound : filled.working.requests.find requestId = some found := by
      rw [frame]
      exact (congrArg (·.find requestId) same.requests).trans inTable
    obtain ⟨counted, requests, fresh⟩ : ∃ f : GovernanceRequest → GovernanceRequest,
        t.working.requests = filled.working.requests.update requestId f ∧ ∀ request, (f request).id = request.id ∧
          (f request).inventoryCount = lines.length ∧ (f request).processedCount = 0 ∧
          (f request).processingCursor = 0 ∧ (f request).blockedCount = 0 :=
      ⟨_, kept.requests, fun _ => ⟨rfl, rfl, rfl, rfl, rfl⟩⟩
    have atEnd : t.working.requests.find requestId = some (counted found) := by
      rw [requests, find_update_self fun request => (fresh request).1, atFound]
      rfl
    cases atRow.symm.trans atEnd
    obtain ⟨sameId, inventoried, processed, cursor, blocked⟩ := fresh found
    have id : (counted found).terms.id = requestId := sameId.trans key
    have committed : t.committed = t.working := final.committed
    have rowsAtEnd :
      t.working.items.rows = (mid.working.items.deleteWhere fun item => item.requestId = found.id).rows ++
        items := by
      rw [kept.items]
      exact rows
    have listedItems : itemsOf t.working requestId = items.map GovernanceRequestItem.plain := by
      have removed : ((mid.working.items.deleteWhere fun item => item.requestId = found.id).rows.filter fun item =>
          decide (item.requestId = requestId)) = [] := by
        refine List.filter_eq_nil_iff.mpr fun item member => ?_
        have kept := (List.mem_filter.mp member).2
        simpa [key] using kept
      have all : (items.filter fun item => decide (item.requestId = requestId)) = items := by
        refine List.filter_eq_self.mpr fun item member => ?_
        simpa [key] using (fields item member).1
      rw [itemsOf, ← map_plain_filter fun _ => rfl, rowsAtEnd, List.filter_append, removed, all, List.nil_append]
    refine ⟨items.map GovernanceRequestItem.plain, id, ?_, ⟨?_, ?_, ?_, ?_⟩, ⟨Nat.zero_le _, ?_, ?_⟩⟩
    · rw [List.length_map, length, inventoried]
    · intro item member
      obtain ⟨old, _, rfl⟩ := List.mem_map.mp member
      rfl
    · intro item member
      obtain ⟨old, inItems, rfl⟩ := List.mem_map.mp member
      exact (fields old inItems).1.trans key
    · intro item member
      obtain ⟨old, inItems, rfl⟩ := List.mem_map.mp member
      exact (fields old inItems).2
    · rw [List.map_map, List.length_map, length]
      exact numbered
    · rw [committed, id, listedItems]
      rfl
    · rw [committed, id]
      exact ⟨_, atEnd, rfl, processed, cursor, blocked⟩

/-- Processing in batches comes to what one call comes to, and the status is
right after each call exactly when each call found nothing pending or left
something pending. -/
theorem processing_in_batches {auth : Option AuthContext} {organizationId requestId actor : String} {supply : Supply}
    {first : GovernanceDb} {stages : List Stage} (off : env.autoflush = false)
    (inventoried : Session.request (inventory env auth organizationId requestId actor) first supply = (.ok row, d))
    (run : Batches env organizationId requestId d stages e) :
    (∀ alone f, Batches env organizationId requestId d [alone] f → row.inventoryCount ≤ alone.size →
        row.inventoryCount ≤ (stages.map Stage.size).sum → outcome e requestId = outcome f requestId) ∧
      ((∀ stage ∈ stages, Truthful stage.after requestId) ↔ ∀ stage ∈ stages,
        SacmRuntime.pendingCount stage.before.items requestId = 0 ∨
          stage.size < SacmRuntime.pendingCount stage.before.items requestId) := by
  obtain ⟨items, rfl, count, inventory, begins⟩ := inventory_ok inventoried
  refine ⟨fun alone f once fits covered => ?_, run.truthful_iff off inventory begins⟩
  obtain ⟨rules, reached⟩ := run.progress inventory begins
  obtain ⟨onceRules, onceReached⟩ := once.progress inventory begins
  have all : min (stages.map Stage.size).sum items.length = items.length := by omega
  have allOnce : min ([alone].map Stage.size).sum items.length = items.length := by
    simp only [List.map_cons, List.map_nil, List.sum_cons, List.sum_nil]
    omega
  rw [all, rules.verdict] at reached
  rw [allOnce, onceRules.verdict] at onceReached
  exact reached.outcome_eq onceReached

end

namespace GovernanceSample

def approvedStore : GovernanceDb where
  organizations := .ofRows [⟨"o", none, none⟩]
  memberships := [⟨"o", "owner", "owner", none⟩]
  requests := .ofRows [approved]
  records := [⟨.task, "a", some "o", none, none, [], []⟩, ⟨.task, "b", some "o", none, none, [], []⟩]

def inventorying : Except Error GovernanceRequest × GovernanceDb :=
  Session.request (inventory env none "o" "g" "owner") approvedStore (supplyOf "i" 0)

/-- One call of `process` on the inventory. -/
def processing (size : Nat) : Except Error GovernanceRequest × GovernanceDb :=
  Session.request (process env none "o" "g" "owner" size) inventorying.2 (supplyOf "p" 9)

theorem inventorying_returned : ∃ row, inventorying = (.ok row, inventorying.2) :=
  returned_of_isSome (by decide +kernel)

theorem processing_batches (size : Nat) (ok : (processing size).1.toOption.isSome = true) :
    Batches env "o" "g" inventorying.2 [⟨size, inventorying.2, (processing size).2⟩] (processing size).2 := by
  obtain ⟨result, returned⟩ := returned_of_isSome ok
  exact .call .start ⟨SameRules.refl _, rfl, rfl⟩ returned

/-- The first of two items: the other one is still pending, and the status says so. -/
theorem processing_in_batches_sample : Batches env "o" "g" inventorying.2
    [⟨1, inventorying.2, (processing 1).2⟩] (processing 1).2 ∧ Truthful (processing 1).2 "g" := by
  obtain ⟨row, inventoried⟩ := inventorying_returned
  have run := processing_batches 1 (by decide +kernel)
  have two : 1 < pendingCount inventorying.2.items "g" := by decide +kernel
  have each := (processing_in_batches rfl inventoried run).2.mpr (by simpa using .inr two)
  exact ⟨run, each _ (List.mem_singleton.mpr rfl)⟩

/-- Both items at once: none is pending, and the request is still processing. -/
theorem finished_request_processing : (∃ row, inventorying = (.ok row, inventorying.2)) ∧
    Batches env "o" "g" inventorying.2 [⟨100, inventorying.2, (processing 100).2⟩] (processing 100).2 ∧
      ¬Truthful (processing 100).2 "g" := by
  refine ⟨inventorying_returned, processing_batches 100 (by decide +kernel), ?_⟩
  rintro ⟨row, atRow, honest⟩
  have final : ((processing 100).2.requests.find "g").map (fun row => (row.status, row.blockedCount)) =
      some (.processing, 0) := by
    decide +kernel
  have none : pendingCount (processing 100).2.items "g" = 0 := by decide +kernel
  rw [atRow] at final
  obtain ⟨status, blocked⟩ := Prod.mk.inj (Option.some.inj final)
  rw [none, blocked, status] at honest
  simp [honestStatus] at honest

end GovernanceSample

end SacmRuntime
