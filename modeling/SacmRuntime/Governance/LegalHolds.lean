import SacmRuntime.Governance.Operations
import SacmRuntime.Governance.Processing

namespace SacmRuntime
open Session GovernanceRequestService

def ItemStatus.Gone (status : ItemStatus) : Prop :=
  status = .deleted ∨ status = .tombstoned ∨ status = .cryptographicallyDeleted

structure Underlies (request : GovernanceRequest) (item : GovernanceRequestItem) (record : Record) : Prop where
  organization : record.organizationId = some request.organizationId
  model : record.model.name = item.resourceType
  id : record.id = item.resourceId

/-- An active hold that covers a record: what it names is the record's own. -/
structure Covers (hold : GovernanceLegalHold) (category : ResourceCategory) (record : Record) : Prop where
  active : hold.status = .active
  project : hold.projectId = none ∨ hold.projectId = record.projectId
  category : hold.resourceCategory = none ∨ hold.resourceCategory = some category
  model : hold.resourceType = none ∨ hold.resourceType = some record.model.name
  id : hold.resourceId = none ∨ hold.resourceId = some record.id
  subject : hold.subjectIdHash = none ∨ hold.subjectIdHash = recordSubjectHash record

/-- Some active hold of the organization covers the record of the item. -/
def Held (d : GovernanceDb) (request : GovernanceRequest) (item : GovernanceRequestItem) : Prop :=
  ∃ record ∈ d.records, Underlies request item record ∧ ∃ hold ∈ d.holds.rows,
    hold.organizationId = request.organizationId ∧ Covers hold item.resourceCategory record

/-- No item under a hold was deleted between two stores. -/
def HoldsWin (d e : GovernanceDb) (request : GovernanceRequest) : Prop :=
  ∀ item ∈ d.items.rows, item.requestId = request.id → Held d request item → ¬item.status.Gone →
    ∀ after, e.items.find item.id = some after → ¬after.status.Gone

/-- `process` does not delete the item: `_active_hold`, which asks for the
project and the subject of the request, finds a hold, or the rule keeps it. -/
def Spared (d : GovernanceDb) (request : GovernanceRequest) (item : GovernanceRequestItem) : Prop :=
  Blocks d request item ∨ preserved request item (ruleFor d request item) = true

instance (d : GovernanceDb) (request : GovernanceRequest) (item : GovernanceRequestItem) :
    Decidable (Spared d request item) := inferInstanceAs (Decidable (_ ∨ _))

section
variable {env : GovernanceEnv} {request : GovernanceRequest} {items : List GovernanceRequestItem} {d e : GovernanceDb}
  {item : GovernanceRequestItem}

theorem verdict_gone_iff (deletion : request.requestType = .deletion) :
    (verdict d request item).Gone ↔ ¬Spared d request item := by
  unfold verdict Spared
  by_cases blocks : Blocks d request item
  · simp [deletion, blocks, ItemStatus.Gone]
  · by_cases kept : preserved request item (ruleFor d request item) = true
    · simp [deletion, blocks, kept, ItemStatus.Gone]
    · generalize Option.getD _ _ = mode
      cases mode <;> simp [deletion, blocks, kept, ItemStatus.Gone, DeletionMode.outcome]

variable {batchSize : Nat}

theorem mem_batch (member : item ∈ batch d request batchSize) :
    item ∈ d.items.rows ∧ item.requestId = request.id ∧ item.status = .pending := by
  obtain ⟨row, picked⟩ := List.mem_filter.mp (Table.mem_orderBy.mp (List.mem_of_mem_take member))
  simp only [Bool.and_eq_true, decide_eq_true_eq] at picked
  exact ⟨row, picked.1.1, picked.1.2⟩

theorem batch_distinct (d : GovernanceDb) (request : GovernanceRequest) (batchSize : Nat) :
    ((batch d request batchSize).map GovernanceRequestItem.id).Nodup := Table.distinct_query _ _ _ _

theorem BatchDone.find (done : BatchDone env request items d e) (row : item ∈ d.items.rows) :
    (e.items.find item.id).map GovernanceRequestItem.plain =
      some (settleRows (verdict d request) items item.plain) := by
  have there : d.items.find item.id = some item := Table.find_of_mem row
  rw [find_plain (settleRows_id _ _) done.statuses, there]
  rfl

theorem BatchDone.inside (done : BatchDone env request (batch d request batchSize) d e)
    (member : item ∈ batch d request batchSize) :
    ∃ after, e.items.find item.id = some after ∧ after.status = verdict d request item := by
  have settled := done.find (mem_batch member).1
  have same : item.plain.id = item.id := rfl
  rw [settleRows_present (batch_distinct d request batchSize) member same] at settled
  obtain ⟨after, there, same⟩ := Option.map_eq_some_iff.mp settled
  exact ⟨after, there, congrArg (·.status) same⟩

theorem BatchDone.outside (done : BatchDone env request (batch d request batchSize) d e) (row : item ∈ d.items.rows)
    (apart : item ∉ batch d request batchSize) :
    ∃ after, e.items.find item.id = some after ∧ after.status = item.status := by
  have settled := done.find row
  rw [settleRows_absent] at settled
  · obtain ⟨after, there, same⟩ := Option.map_eq_some_iff.mp settled
    exact ⟨after, there, congrArg (·.status) same⟩
  · intro other member clash
    have otherRow : d.items.find other.id = some other := Table.find_of_mem (mem_batch member).1
    have itemRow : d.items.find item.id = some item := Table.find_of_mem row
    have sameRow : other = item := by
      rw [show other.id = item.id from clash] at otherRow
      exact Option.some.inj (otherRow.symm.trans itemRow)
    exact apart (sameRow ▸ member)

/-- A deletion spares what is under a hold exactly when every such item of
its batch is blocked or preserved. -/
theorem legal_hold_wins {auth : Option AuthContext} {organizationId requestId actor : String} {batchSize : Nat}
    {supply : Supply} {result : GovernanceRequest}
    (returned : Session.request (process env auth organizationId requestId actor batchSize) d supply = (.ok result, e))
    (found : d.requests.find requestId = some request) (deletion : request.requestType = .deletion) :
    HoldsWin d e request ↔ ∀ item ∈ batch d request batchSize, Held d request item → Spared d request item := by
  obtain ⟨other, atOther, done⟩ := batchDone_of_returned returned
  cases atOther.symm.trans found
  constructor
  · intro win item member held
    obtain ⟨row, ofRequest, pending⟩ := mem_batch member
    obtain ⟨after, there, status⟩ := done.inside member
    have live : ¬item.status.Gone := by simp [pending, ItemStatus.Gone]
    have kept := win item row ofRequest held live after there
    rw [status, verdict_gone_iff deletion, not_not] at kept
    exact kept
  · intro spared item row _ held live after there
    by_cases member : item ∈ batch d request batchSize
    · obtain ⟨settled, atSettled, status⟩ := done.inside member
      cases atSettled.symm.trans there
      rw [status, verdict_gone_iff deletion, not_not]
      exact spared item member held
    · obtain ⟨same, atSame, status⟩ := done.outside row member
      cases atSame.symm.trans there
      rw [status]
      exact live

end

namespace GovernanceSample

def deletion : GovernanceRequest :=
  { approved with status := .inventoried, dryRunCompleted := true, inventoryCount := 1 }

def taskItem : GovernanceRequestItem where
  id := "i"
  requestId := "g"
  position := 1
  resourceCategory := .taskMetadata
  resourceType := "task"
  resourceId := "t"
  status := .pending
  action := .deletion
  checksum := "c"
  legalHoldId := none
  deletionMetadata := none
  exportMetadata := none
  attempts := 0
  processedAt := none

def taskRecord : Record := ⟨.task, "t", some "o", some "p", none, [], []⟩

def hold (projectId : Option String) : GovernanceLegalHold where
  id := "h"
  organizationId := "o"
  projectId := projectId
  resourceCategory := none
  resourceType := none
  resourceId := none
  subjectIdHash := none
  reason := "litigation"
  status := .active
  createdBy := "owner"
  releasedBy := none
  createdAt := 0
  releasedAt := none

def heldStore (projectId : Option String) : GovernanceDb where
  organizations := .ofRows [⟨"o", none, none⟩]
  memberships := [⟨"o", "owner", "owner", none⟩]
  holds := .ofRows [hold projectId]
  requests := .ofRows [deletion]
  items := .ofRows [taskItem]
  records := [taskRecord]

def deleting (projectId : Option String) : Except Error GovernanceRequest × GovernanceDb :=
  Session.request (process env none "o" "g" "owner" 100) (heldStore projectId) (supplyOf "a" 0)

/-- A hold on the whole organization stops a deletion of the whole organization. -/
theorem legal_hold_wins_sample : (∃ result, deleting none = (.ok result, (deleting none).2)) ∧
    HoldsWin (heldStore none) (deleting none).2 deletion := by
  obtain ⟨result, returned⟩ := returned_of_isSome (r := deleting none) (by decide +kernel)
  have spared : ((batch (heldStore none) deletion 100).all fun item =>
      decide (Spared (heldStore none) deletion item)) = true := by
    decide +kernel
  refine ⟨⟨result, returned⟩, (legal_hold_wins returned rfl rfl).mpr fun item member _ => ?_⟩
  simpa using List.all_eq_true.mp spared item member

/-- A hold on the project of the task does not. -/
theorem project_hold_overlooked : (∃ result, deleting (some "p") = (.ok result, (deleting (some "p")).2)) ∧
    ¬HoldsWin (heldStore (some "p")) (deleting (some "p")).2 deletion := by
  have status : ((deleting (some "p")).2.items.find "i").map GovernanceRequestItem.status = some .tombstoned := by
    decide +kernel
  have held : Held (heldStore (some "p")) deletion taskItem :=
    ⟨taskRecord, .head _, ⟨rfl, rfl, rfl⟩, hold (some "p"), .head _, rfl,
      ⟨rfl, .inr rfl, .inl rfl, .inl rfl, .inl rfl, .inl rfl⟩⟩
  obtain ⟨after, there, gone⟩ := Option.map_eq_some_iff.mp status
  refine ⟨returned_of_isSome (by decide +kernel), fun win => ?_⟩
  exact win taskItem (.head _) rfl held (by simp [taskItem, ItemStatus.Gone]) after there (.inr (.inl gone))

end GovernanceSample

end SacmRuntime
