import SacmRuntime.Governance.Writes

namespace SacmRuntime
open Session GovernanceRequestService Table Tx

def DeletionMode.outcome : DeletionMode → ItemStatus
  | .cryptographic => .cryptographicallyDeleted
  | .hardDelete => .deleted
  | .tombstone => .tombstoned

/-- The rule `process` applies to an item. -/
def ruleFor (d : GovernanceDb) (request : GovernanceRequest) (item : GovernanceRequestItem) :
    Option DataGovernancePolicyRule :=
  ResidencyService.rule d request.organizationId request.projectId item.resourceCategory

/-- A hold or the rule keeps `process` from deleting the item. -/
def Blocks (d : GovernanceDb) (request : GovernanceRequest) (item : GovernanceRequestItem) : Prop :=
  (activeHold d request item).isSome ∨ (ruleFor d request item).any DataGovernancePolicyRule.legalHold

instance (d : GovernanceDb) (request : GovernanceRequest) (item : GovernanceRequestItem) :
    Decidable (Blocks d request item) := inferInstanceAs (Decidable (_ ∨ _))

/-- The status `process` gives an item. -/
def verdict (d : GovernanceDb) (request : GovernanceRequest) (item : GovernanceRequestItem) : ItemStatus :=
  if request.requestType = .deletion ∧ Blocks d request item then .blockedLegalHold
  else if request.requestType = .export then
    if (ruleFor d request item).all DataGovernancePolicyRule.exportable then .exported else .preserved
  else if preserved request item (ruleFor d request item) then .preserved
  else (((ruleFor d request item).map DataGovernancePolicyRule.deletionMode).getD .tombstone).outcome

def GovernanceRequestItem.plain (item : GovernanceRequestItem) : GovernanceRequestItem :=
  { item with legalHoldId := none, deletionMetadata := none, exportMetadata := none, attempts := 0,
              processedAt := none }

def GovernanceRequest.terms (request : GovernanceRequest) : GovernanceRequest :=
  { request with status := .processing, processedCount := 0, blockedCount := 0, processingCursor := 0,
                 outputManifest := none, completedAt := none }

def countItem (status : ItemStatus) (position : Nat) (request : GovernanceRequest) : GovernanceRequest :=
  { request with blockedCount := request.blockedCount + if status = .blockedLegalHold then 1 else 0,
                 processingCursor := position, processedCount := request.processedCount + 1 }

theorem countItem_open {status : ItemStatus} (open_ : ¬status = .blockedLegalHold) (position : Nat) :
    countItem status position = fun request =>
      { request with processingCursor := position, processedCount := request.processedCount + 1 } := by
  funext request
  simp [countItem, open_]

def plainItems (items : Table GovernanceRequestItem) : List GovernanceRequestItem :=
  items.rows.map GovernanceRequestItem.plain

def settleRow (id : String) (status : ItemStatus) (row : GovernanceRequestItem) : GovernanceRequestItem :=
  if row.id = id then { row with status := status } else row

section
variable {items : Table GovernanceRequestItem} {f g : GovernanceRequestItem → GovernanceRequestItem}

theorem plain_rewrite (agrees : ∀ row, (f row).plain = g row.plain) (keeps : ∀ row, (f row).id = row.id) (id : String) :
    plainItems (items.update id f) = (plainItems items).map fun row => if row.id = id then g row else row := by
  simp only [update, updateWhere, List.map_map, plainItems]
  refine List.map_congr_left fun row _ => ?_
  simp only [Function.comp_apply]
  by_cases here : row.id = id
  · have key : (Keyed.key row == id) = true := beq_iff_eq.mpr here
    rw [if_pos (show row.plain.id = id from here), if_pos key, rewriteRow_of_keeps (keeps row), agrees row]
  · have key : ¬(Keyed.key row == id) = true := fun same => here (beq_iff_eq.mp same)
    rw [if_neg (show ¬row.plain.id = id from here), if_neg key]

theorem plain_update (quiet : ∀ row, (f row).plain = row.plain) (id : String) :
    plainItems (items.update id f) = plainItems items := by
  have keeps : ∀ row, (f row).id = row.id := fun row => congrArg (·.id) (quiet row)
  rw [plain_rewrite (g := fun row => row) quiet keeps]
  simp

theorem plain_settle {status : ItemStatus} (settles : ∀ row, (f row).plain = { row.plain with status := status })
    (id : String) : plainItems (items.update id f) = (plainItems items).map (settleRow id status) := by
  have keeps : ∀ row, (f row).id = row.id := fun row => congrArg (·.id) (settles row)
  exact plain_rewrite (g := fun row => { row with status := status }) settles keeps id

theorem find_plain {after : Table GovernanceRequestItem} (keeps : ∀ row, (g row).id = row.id)
    (same : plainItems after = (plainItems items).map g) (id : String) :
    (after.find id).map GovernanceRequestItem.plain = ((items.find id).map GovernanceRequestItem.plain).map g := by
  have reduced : ∀ t : Table GovernanceRequestItem, (t.find id).map GovernanceRequestItem.plain =
      (plainItems t).find? fun row => row.id == id := by
    intro t
    rw [plainItems, List.find?_map]
    rfl
  have there : (fun row => (g row).id == id) = fun row : GovernanceRequestItem => row.id == id := by
    funext row
    rw [keeps]
  rw [reduced, reduced, same, List.find?_map]
  congr 2

theorem plain_round {counted dated : GovernanceRequestItem → GovernanceRequestItem} {status : ItemStatus} {id : String}
    (quiet : ∀ row, (counted row).plain = row.plain)
    (settles : ∀ row, (f row).plain = { row.plain with status := status })
    (quietToo : ∀ row, (dated row).plain = row.plain) :
    plainItems (((items.update id counted).update id f).update id dated) =
      (plainItems items).map (settleRow id status) := by
  rw [plain_update quietToo, plain_settle settles, plain_update quiet]

end

section
variable {env : GovernanceEnv} {request : GovernanceRequest} {item : GovernanceRequestItem} {d e : GovernanceDb}
  {s t : Session GovernanceDb}

theorem exportItem_plain (exportable : Bool) (row : GovernanceRequestItem) : (exportItem exportable row).plain =
    { row.plain with status := if exportable then .exported else .preserved } := by
  cases exportable <;> rfl

theorem applyDeletion_run (env : GovernanceEnv) (request : GovernanceRequest) (item : GovernanceRequestItem)
    (rule : Option DataGovernancePolicyRule) (s : Session GovernanceDb) :
    ∃ (f : GovernanceRequestItem → GovernanceRequestItem) (clock : Nat → Nat) (uuids : Nat → String),
      applyDeletion env request item rule s = (.ok (), { s with
        working := { s.working with items := s.working.items.update item.id f }, clock := clock, uuids := uuids }) ∧
      ∀ row, (f row).plain = { row.plain with status := if preserved request item rule then .preserved else
        ((rule.map DataGovernancePolicyRule.deletionMode).getD .tombstone).outcome } := by
  unfold applyDeletion
  split
  · exact ⟨_, _, _, rfl, fun row => rfl⟩
  · refine ⟨_, _, _, rfl, fun row => ?_⟩
    generalize (rule.map DataGovernancePolicyRule.deletionMode).getD .tombstone = mode
    cases mode <;> rfl

/-- What a loop over items leaves of the session: the holds, rules and
records stay, the counters of the request and the statuses move. -/
structure Rounds (request : GovernanceRequest) (count : GovernanceRequest → GovernanceRequest)
    (settle : GovernanceRequestItem → GovernanceRequestItem) (s t : Session GovernanceDb) : Prop where
  committed : t.committed = s.committed
  flushed : t.flushed = s.flushed
  frame : t.working = { s.working with items := t.working.items, requests := t.working.requests }
  requests : t.working.requests = s.working.requests.update request.id count
  items : plainItems t.working.items = (plainItems s.working.items).map settle

theorem processItem_run (env : GovernanceEnv) (request : GovernanceRequest) (item : GovernanceRequestItem)
    (s : Session GovernanceDb) :
    ∃ t, processItem env request item s = (.ok (), t) ∧
      Rounds request (countItem (verdict s.working request item) item.position)
        (settleRow item.id (verdict s.working request item)) s t := by
  unfold processItem
  simp only [updateItem, updateRequest, bind_modify, bind_view]
  split
  · rename_i held
    have blocked : verdict s.working request item = .blockedLegalHold := if_pos held
    rw [blocked]
    refine ⟨_, rfl, rfl, rfl, rfl, ?_, ?_⟩
    · exact update_update (fun _ => rfl) fun _ => rfl
    · exact plain_round (fun _ => rfl) (fun _ => rfl) fun _ => rfl
  · rename_i free
    have notBlocked : ¬(request.requestType = .deletion ∧ Blocks s.working request item) := free
    split
    · rename_i exporting
      have exported : verdict s.working request item = if (ruleFor s.working request item).all
          DataGovernancePolicyRule.exportable then .exported else .preserved := by
        rw [verdict, if_neg notBlocked, if_pos exporting]
      have open_ : ¬verdict s.working request item = .blockedLegalHold := by
        rw [exported]
        split <;> simp
      refine ⟨_, rfl, rfl, rfl, rfl, ?_, ?_⟩
      · rw [countItem_open open_]
      · refine plain_round (fun _ => rfl) (fun row => ?_) fun _ => rfl
        rw [exported]
        exact exportItem_plain _ row
    · rename_i deleting
      have deleted : verdict s.working request item = if preserved request item (ruleFor s.working request item)
          then .preserved else (((ruleFor s.working request item).map
            DataGovernancePolicyRule.deletionMode).getD .tombstone).outcome := by
        rw [verdict, if_neg notBlocked, if_neg deleting]
      have open_ : ¬verdict s.working request item = .blockedLegalHold := by
        rw [deleted]
        split
        · simp
        · generalize Option.getD _ _ = mode
          cases mode <;> simp [DeletionMode.outcome]
      refine outcome_bind (P := fun r => ∃ t, r = (.ok (), t) ∧ Rounds request _ _ s t) (fun e t run => ?_)
        fun _ t run => ?_
      · obtain ⟨f, clock, uuids, ran, _⟩ := applyDeletion_run env request item _ _
        cases ran.symm.trans run
      · obtain ⟨f, clock, uuids, ran, settles⟩ := applyDeletion_run env request item _ _
        cases ran.symm.trans run
        refine ⟨_, rfl, rfl, rfl, rfl, ?_, ?_⟩
        · rw [countItem_open open_]
        · refine plain_round (fun _ => rfl) (fun row => ?_) fun _ => rfl
          rw [deleted]
          exact settles row

def countItems (judge : GovernanceRequestItem → ItemStatus) (items : List GovernanceRequestItem)
    (request : GovernanceRequest) : GovernanceRequest :=
  items.foldl (fun request item => countItem (judge item) item.position request) request

def settleRows (judge : GovernanceRequestItem → ItemStatus) (items : List GovernanceRequestItem)
    (row : GovernanceRequestItem) : GovernanceRequestItem :=
  items.foldl (fun row item => settleRow item.id (judge item) row) row

theorem countItems_id (judge : GovernanceRequestItem → ItemStatus) (items : List GovernanceRequestItem)
    (request : GovernanceRequest) : (countItems judge items request).id = request.id := by
  induction items generalizing request with
  | nil => rfl
  | cons item rest ih => exact ih _

theorem settleRow_id (id : String) (status : ItemStatus) (row : GovernanceRequestItem) :
    (settleRow id status row).id = row.id := by
  unfold settleRow
  split <;> rfl

theorem settleRows_id (judge : GovernanceRequestItem → ItemStatus) (items : List GovernanceRequestItem)
    (row : GovernanceRequestItem) : (settleRows judge items row).id = row.id := by
  induction items generalizing row with
  | nil => rfl
  | cons item rest ih => exact (ih _).trans (settleRow_id _ _ _)

theorem settleRows_absent {judge : GovernanceRequestItem → ItemStatus} {items : List GovernanceRequestItem}
    {row : GovernanceRequestItem} (absent : ∀ item ∈ items, item.id ≠ row.id) : settleRows judge items row = row := by
  induction items with
  | nil => rfl
  | cons item rest ih =>
    have other : settleRow item.id (judge item) row = row := if_neg fun same => absent item (by simp) same.symm
    exact (congrArg (settleRows judge rest) other).trans (ih fun item member => absent item (by simp [member]))

theorem settleRows_present {judge : GovernanceRequestItem → ItemStatus} {items : List GovernanceRequestItem}
    {item row : GovernanceRequestItem} (distinct : (items.map GovernanceRequestItem.id).Nodup) (member : item ∈ items)
    (same : row.id = item.id) : settleRows judge items row = { row with status := judge item } := by
  induction items generalizing row with
  | nil => exact absurd member List.not_mem_nil
  | cons first rest ih =>
    rw [List.map_cons, List.nodup_cons] at distinct
    have unroll : settleRows judge (first :: rest) row = settleRows judge rest (settleRow first.id (judge first) row) :=
      rfl
    rcases List.mem_cons.mp member with rfl | later
    · have here : settleRow item.id (judge item) row = { row with status := judge item } := if_pos same
      rw [unroll, here]
      refine settleRows_absent fun other inRest clash => distinct.1 (List.mem_map.mpr ⟨other, inRest, ?_⟩)
      exact clash.trans same
    · have apart : row.id ≠ first.id := fun clash =>
        distinct.1 (List.mem_map.mpr ⟨item, later, same.symm.trans clash⟩)
      have there : settleRow first.id (judge first) row = row := if_neg apart
      rw [unroll, there]
      exact ih distinct.2 later same

/-- The loop of `process`. -/
theorem rounds_run (env : GovernanceEnv) (request : GovernanceRequest) (items : List GovernanceRequestItem)
    (s : Session GovernanceDb) :
    ∃ t, forEach items (processItem env request) s = (.ok (), t) ∧
      Rounds request (countItems (verdict s.working request) items)
        (settleRows (verdict s.working request) items) s t := by
  induction items generalizing s with
  | nil =>
    refine ⟨s, rfl, rfl, rfl, rfl, (update_of_same fun _ => rfl).symm, ?_⟩
    exact (List.map_id _).symm
  | cons item rest ih =>
    obtain ⟨mid, first, one⟩ := processItem_run env request item s
    obtain ⟨t, loop, others⟩ := ih mid
    have same : verdict mid.working request = verdict s.working request := by
      rw [one.frame]
      rfl
    rw [same] at others
    refine ⟨t, ?_, others.committed.trans one.committed, others.flushed.trans one.flushed, ?_, ?_, ?_⟩
    · unfold forEach
      rw [bind_run_ok _ first, loop]
    · rw [others.frame, one.frame]
    · rw [others.requests, one.requests]
      exact update_update (fun _ => rfl) (countItems_id _ _)
    · rw [others.items, one.items, List.map_map]
      rfl

def pendingCount (items : Table GovernanceRequestItem) (requestId : String) : Nat :=
  (items.rows.filter fun item => decide (item.requestId = requestId) && decide (item.status = .pending)).length

/-- The parts of the store that decide a verdict are the same. -/
structure SameRules (d e : GovernanceDb) : Prop where
  holds : e.holds = d.holds
  policies : e.policies = d.policies
  rules : e.rules = d.rules

theorem SameRules.refl (d : GovernanceDb) : SameRules d d := ⟨rfl, rfl, rfl⟩

theorem SameRules.trans {f : GovernanceDb} (first : SameRules d e) (second : SameRules e f) : SameRules d f :=
  ⟨second.holds.trans first.holds, second.policies.trans first.policies, second.rules.trans first.rules⟩

theorem SameRules.verdict (same : SameRules d e) : verdict e = verdict d := by
  obtain ⟨holds, policies, rules⟩ := same
  cases d
  cases e
  cases holds
  cases policies
  cases rules
  rfl

structure SameRequests (d e : GovernanceDb) : Prop extends SameRules d e where
  requests : e.requests = d.requests
  items : e.items = d.items

theorem Recorded.sameRequests {organizationId : String} {event : TenantAuditEvent}
    (recorded : Recorded env organizationId d e event) : SameRequests d e := by
  rw [recorded.store]
  exact ⟨⟨rfl, rfl, rfl⟩, rfl, rfl⟩

/-- What a call of `process` that returns leaves of the request it found. -/
structure BatchDone (env : GovernanceEnv) (request : GovernanceRequest) (items : List GovernanceRequestItem)
    (d e : GovernanceDb) : Prop where
  rules : SameRules d e
  statuses : plainItems e.items = (plainItems d.items).map (settleRows (verdict d request) items)
  request : ∃ now manifest, e.requests.find request.id = some
    { settleRequest (pendingCount (if env.autoflush then e.items else d.items) request.id) now
        (countItems (verdict d request) items { request with status := .processing }) with
      outputManifest := some manifest }

/-- The state of a request in which `process` works on it. -/
def Processable (request : GovernanceRequest) : Prop :=
  request.dryRunCompleted = true ∧
    (request.status = .inventoried ∨ request.status = .processing ∨ request.status = .blocked)

section
variable {auth : Option AuthContext} {organizationId requestId actor : String}

theorem requestAuthorized_ok
    (run : GovernanceRequestService.authorized env auth organizationId requestId actor s = (.ok request, t)) :
    s.working.requests.find requestId = some request ∧ request.organizationId = organizationId ∧
      ∃ event, Audited env organizationId
        { s with clock := fun n => s.clock (n + TenancyService.readings s.working organizationId actor) } t event := by
  unfold GovernanceRequestService.authorized at run
  rw [bind_view] at run
  obtain ⟨found, mid, looked, rest⟩ := bind_ok run
  obtain ⟨atRequest, rfl⟩ := expect_ok looked
  obtain ⟨granted, after, permitted, last⟩ := bind_ok rest
  cases last
  obtain ⟨inTable, ofOrganization⟩ := Option.filter_eq_some_iff.mp atRequest
  exact ⟨inTable, by simpa using ofOrganization, requirePermission_ok permitted⟩

theorem audit_ok {action reason : String} {metadata : Option Json} {u : Unit}
    (run : audit env auth request actor action reason metadata s = (.ok u, t)) :
    ∃ event, Audited env request.organizationId s t event := by
  unfold audit TenancyService.auditSensitive at run
  obtain ⟨event, mid, recorded, last⟩ := bind_ok run
  cases last
  rcases record_run _ with ⟨e, raised, -⟩ | ⟨other, after, ok, audited⟩
  · cases raised.symm.trans recorded
  · cases ok.symm.trans recorded
    exact ⟨event, audited⟩

theorem existingRequest_ok (run : existingRequest requestId s = (.ok request, t)) :
    s.working.requests.find requestId = some request ∧ t = s := by
  unfold existingRequest at run
  rw [bind_view] at run
  exact expect_ok run

theorem settleRequest_id (remaining now : Nat) (request : GovernanceRequest) :
    (settleRequest remaining now request).id = request.id := by
  unfold settleRequest
  split
  · rfl
  · split <;> rfl

/-- The end of `process`: the status is settled, the rest is bookkeeping. -/
theorem closing_ok {counted result : GovernanceRequest} (atRequest : s.working.requests.find requestId = some counted)
    (run : (do
      let remaining ← read fun s => (s.flushed.items.rows.filter fun item =>
        decide (item.requestId = request.id) && decide (item.status = .pending)).length
      let now ← utcnow
      updateRequest requestId (settleRequest remaining now)
      let settled ← existingRequest requestId
      let manifest ← view fun d => requestManifest env d settled
      updateRequest requestId fun request => { request with outputManifest := some manifest }
      commit
      audit env auth settled actor "governance.request.process" "Governance request batch processed."
        (some (.obj [("processed_count", .int settled.processedCount), ("blocked_count", .int settled.blockedCount),
          ("cursor", .int settled.processingCursor), ("status", .str settled.status.name)]))
      existingRequest requestId : GovernanceMethod GovernanceRequest) s = (.ok result, t)) :
    t.committed = t.working ∧ SameRules s.working t.working ∧ t.working.items = s.working.items ∧
      ∃ now manifest, t.working.requests.find requestId = some
        { settleRequest (pendingCount s.flushed.items request.id) now counted with outputManifest := some manifest }
          := by
  unfold updateRequest at run
  obtain ⟨remaining, _, counts, run⟩ := bind_ok run
  cases counts
  rw [bind_utcnow, bind_modify] at run
  obtain ⟨settled, mid, found, run⟩ := bind_ok run
  obtain ⟨atSettled, rfl⟩ := existingRequest_ok found
  rw [bind_view, bind_modify, bind_commit] at run
  obtain ⟨_, last, recorded, run⟩ := bind_ok run
  obtain ⟨event, audited⟩ := audit_ok recorded
  obtain ⟨_, rfl⟩ := existingRequest_ok run
  have store := audited.recorded.store
  rw [find_update_self (settleRequest_id _ _), atRequest] at atSettled
  obtain ⟨manifest, requests⟩ : ∃ manifest, t.working.requests =
      (s.working.requests.update requestId (settleRequest (pendingCount s.flushed.items request.id) (s.clock 0))).update
        requestId fun request => { request with outputManifest := some manifest } :=
    ⟨_, congrArg GovernanceDb.requests store⟩
  have final : t.working.requests.find requestId = some
      { settleRequest (pendingCount s.flushed.items request.id) (s.clock 0) counted with
        outputManifest := some manifest } := by
    rw [requests, find_update_self (by exact fun _ => rfl), find_update_self (settleRequest_id _ _), atRequest]
    rfl
  refine ⟨audited.committed, ⟨?_, ?_, ?_⟩, ?_, _, _, final⟩
  · rw [store]
  · rw [store]
  · rw [store]
  · rw [store]

/-- What a call of `process` that returns has done. -/
theorem process_ok {batchSize : Nat} {result : GovernanceRequest}
    (run : process env auth organizationId requestId actor batchSize s = (.ok result, t)) :
    ∃ found, s.working.requests.find requestId = some found ∧ found.organizationId = organizationId ∧
      Processable found ∧ t.committed = t.working ∧
      BatchDone env found (batch s.working found batchSize) s.working t.working := by
  unfold process at run
  obtain ⟨found, mid, authorized, rest⟩ := bind_ok run
  obtain ⟨inTable, ofOrganization, event, audited⟩ := requestAuthorized_ok authorized
  have key : found.id = requestId := find_key inTable
  have same : SameRequests s.working mid.working := audited.recorded.sameRequests
  have sameBatch : batch mid.working found batchSize = batch s.working found batchSize := by
    unfold batch
    rw [same.items]
  have atFound : mid.working.requests.find found.id = some found := by rw [same.requests, key, inTable]
  split at rest
  · cases rest
  · rename_i passes
    have processable : Processable found := by
      unfold Processable
      simp only [not_or, not_and_or, ne_eq, not_not] at passes
      simpa using passes
    let opened : Session GovernanceDb :=
      { mid with working := { mid.working with requests := mid.working.requests.update found.id fun request =>
        { request with status := .processing } } }
    obtain ⟨after, loop, rounds⟩ := rounds_run env found (batch s.working found batchSize) opened
    have rules : SameRules s.working opened.working := ⟨same.holds, same.policies, same.rules⟩
    rw [rules.verdict] at rounds
    rw [← sameBatch] at loop
    cases key
    have run : (forEach (batch mid.working found batchSize) (processItem env found) >>= fun _ => _) opened = _ := rest
    rw [bind_run_ok _ loop] at run
    have counted : after.working.requests.find found.id = some (countItems (verdict s.working found)
        (batch s.working found batchSize) { found with status := .processing }) := by
      have open_ : opened.working.requests.find found.id = some { found with status := .processing } := by
        have updated : opened.working.requests.find found.id = (mid.working.requests.find found.id).map fun request =>
            { request with status := .processing } := find_update_self fun _ => rfl
        rw [updated, atFound]
        rfl
      rw [rounds.requests, find_update_self (countItems_id _ _), open_]
      rfl
    have afterRules : SameRules s.working after.working := by
      rw [rounds.frame]
      exact ⟨rules.holds, rules.policies, rules.rules⟩
    have statuses : plainItems after.working.items = (plainItems s.working.items).map
        (settleRows (verdict s.working found) (batch s.working found batchSize)) := by
      rw [rounds.items, ← same.items]
    have before : after.flushed.items = s.working.items := by
      rw [rounds.flushed, ← same.items, ← audited.flushed]
    refine ⟨found, inTable, ofOrganization, processable, ?_⟩
    by_cases flushes : env.autoflush = true
    · rw [if_pos flushes] at run
      rw [bind_flush] at run
      obtain ⟨committed, last, items, now, manifest, final⟩ := closing_ok (s := { after with flushed := after.working })
        counted run
      refine ⟨committed, afterRules.trans last, ?_, now, manifest, ?_⟩
      · rw [items, statuses]
      · rw [if_pos flushes, items, final]
    · rw [if_neg flushes] at run
      obtain ⟨committed, last, items, now, manifest, final⟩ := closing_ok counted run
      refine ⟨committed, afterRules.trans last, ?_, now, manifest, ?_⟩
      · rw [items, statuses]
      · rw [if_neg flushes, final, before]

theorem batchDone_of_returned {batchSize : Nat} {supply : Supply} {result : GovernanceRequest}
    (returned : Session.request (process env auth organizationId requestId actor batchSize) d supply =
      (.ok result, e)) :
    ∃ row, d.requests.find requestId = some row ∧ BatchDone env row (batch d row batchSize) d e := by
  obtain ⟨t, run, rfl⟩ : ∃ t, process env auth organizationId requestId actor batchSize (start d supply) =
      (.ok result, t) ∧ t.committed = e := by
    obtain ⟨ok, store⟩ := Prod.mk.inj returned
    exact ⟨_, Prod.ext ok rfl, store⟩
  obtain ⟨row, atRow, _, _, committed, finished⟩ := process_ok run
  rw [committed]
  exact ⟨row, atRow, finished⟩

end

end

end SacmRuntime
