import Std.Data.String.ToNat
import SacmRuntime.Lib.JsonTail
import SacmRuntime.Lib.ScopedCheck
import SacmRuntime.Governance.AuditLog

namespace SacmRuntime
open Session TenantAuditService

/-- What `_measure` returns for the metric `audit_delivery`. -/
structure AuditMeasure where
  total : Nat
  bad : Nat
  chainContiguous : Bool
  siemDeliveries : Nat
  siemDeliveryFailures : Nat

/-- What `_audit_health` returns. -/
structure AuditHealth where
  status : String
  chainValid : Bool
  eventsChecked : Option Nat

/-- `row.organization_id or "global"`. -/
def auditScope (event : TenantAuditEvent) : String := (present (some event.organizationId)).getD "global"

def asked (organizationId : Option String) (rowOrganization : String) : Bool :=
  (present organizationId).all fun named => rowOrganization == named

/-- The order of both queries: by organization, and then by sequence. -/
def chainOrder (events : List TenantAuditEvent) : List TenantAuditEvent :=
  events.insertionSort fun a b => toLex (a.organizationId, a.sequence) ≤ toLex (b.organizationId, b.sequence)

/-- The loop of `_measure`: a row names the hash of the row before it. -/
def measureCheck : ScopedCheck TenantAuditEvent String String where
  scope := auditScope
  fits before event := event.previousEventHash == before
  mark := TenantAuditEvent.eventHash

/-- The loop of `_audit_health`: it looks at the sequence as well. -/
def healthCheck : ScopedCheck TenantAuditEvent String (Nat × String) where
  scope := TenantAuditEvent.organizationId
  fits before event :=
    match before with
    | none => event.sequence == 1 && event.previousEventHash == none
    | some prior => event.sequence == prior.1 + 1 && event.previousEventHash == some prior.2
  mark event := (event.sequence, event.eventHash)

/-- The events of the window, of the organization that is asked for. -/
def GovernanceDb.windowEvents (d : GovernanceDb) (organizationId : Option String) (start : Nat) :
    List TenantAuditEvent :=
  d.auditEvents.filter fun event => decide (start ≤ event.createdAt) && asked organizationId event.organizationId

def GovernanceDb.windowDeliveries (d : GovernanceDb) (organizationId : Option String) (start : Nat) :
    List SIEMDelivery :=
  d.deliveries.rows.filter fun delivery =>
    decide (start ≤ delivery.createdAt) && asked organizationId delivery.organizationId

/-- `SLOService._measure` for the metric `audit_delivery`. -/
def SLOService.measureAuditDelivery (d : GovernanceDb) (organizationId : Option String) (start : Nat) : AuditMeasure :=
  let rows := chainOrder (d.windowEvents organizationId start)
  let bad := (measureCheck.verdicts (fun _ => none) rows).count false
  let deliveries := d.windowDeliveries organizationId start
  let deliveryBad := deliveries.countP fun delivery => delivery.status ≠ .delivered
  { total := rows.length + deliveries.length, bad := bad + deliveryBad, chainContiguous := bad == 0,
    siemDeliveries := deliveries.length, siemDeliveryFailures := deliveryBad }

/-- `OperationalHealthService._audit_health`. It returns at the first row that
does not fit. -/
def OperationalHealthService.auditHealth (d : GovernanceDb) (organizationId : Option String) : AuditHealth :=
  let rows := chainOrder (d.auditEvents.filter fun event => asked organizationId event.organizationId)
  if (healthCheck.verdicts (fun _ => none) rows).all id then ⟨"HEALTHY", true, some rows.length⟩
  else ⟨"UNHEALTHY", false, none⟩

section Hashes
open Json

/-- The text `record` hashes, up to the sequence. -/
def eventFront (event : TenantAuditEvent) : List Char :=
  '\x7b' :: (commaJoin ([("action", dumps true (.str event.action)), ("actor_id", dumps true (.str event.actorId)),
    ("actor_type", dumps true (.str event.actorType)), ("correlation_id", dumps true (ofOption event.correlationId)),
    ("created_at", dumps true (.str (String.ofList (isoMicroseconds event.createdAt)))),
    ("decision", dumps true (.str event.decision)), ("organization_id", dumps true (.str event.organizationId)),
    ("previous_event_hash", dumps true (ofOption event.previousEventHash)),
    ("project_id", dumps true (ofOption event.projectId)), ("reason", dumps true (.str event.reason)),
    ("request_metadata", dumps true event.requestMetadata), ("resource_id", dumps true (ofOption event.resourceId)),
    ("resource_type", dumps true (.str event.resourceType))].map (member true)) ++ ',' :: quote true "sequence".toList)

theorem dumps_event (event : TenantAuditEvent) : dumps true (canonical event) =
    ((eventFront event ++ ':' :: dumps true (.int event.sequence)) ++
      ',' :: quote true "service_credential_id".toList ++
      ':' :: dumps true (ofOption event.serviceCredentialId)) ++ ['\x7d'] := by
  simp [canonical, eventFront, dumps, dumpsFields, sortByKey, List.insertionSort, List.orderedInsert, commaJoin, member]

theorem colon_tail {x y s t : List Char} (inFirst : ':' ∉ s) (inSecond : ':' ∉ t)
    (same : x ++ ':' :: s = y ++ ':' :: t) : s = t := by
  rcases List.append_eq_append_iff.mp same with ⟨middle, -, rest⟩ | ⟨middle, -, rest⟩
  · cases middle with
    | nil => exact (List.cons.inj rest).2
    | cons c middle =>
      have inside : s = middle ++ ':' :: t := (List.cons.inj rest).2
      exact absurd (by simp [inside]) inFirst
  · cases middle with
    | nil => exact (List.cons.inj rest).2.symm
    | cons c middle =>
      have inside : t = middle ++ ':' :: s := (List.cons.inj rest).2
      exact absurd (by simp [inside]) inSecond

theorem dumps_nat (ensureAscii : Bool) (n : Nat) : dumps ensureAscii (.int n) = Nat.toDigits 10 n := by
  have digits : (toString (n : Int)).toList = Nat.toDigits 10 n := by
    change (toString (Int.ofNat n)).toList = _
    simp [toString, Int.repr, Nat.repr]
  simpa [dumps] using digits

theorem int_tail {x y : List Char} {a b : Nat}
    (same : x ++ ':' :: dumps true (.int a) = y ++ ':' :: dumps true (.int b)) : a = b := by
  have plain : ∀ n, ':' ∉ Nat.toDigits 10 n := by
    intro n member
    have digit := Nat.isDigit_of_mem_toDigits (by decide) (by decide) member
    exact absurd digit (by decide)
  rw [dumps_nat, dumps_nat] at same
  have digits := congrArg (Nat.ofDigitChars 10 · 0) (colon_tail (plain a) (plain b) same)
  simpa [Nat.ofDigitChars_toDigits] using digits

theorem sequence_of_hash {env : GovernanceEnv} {a b : TenantAuditEvent} (ideal : Function.Injective env.sha256)
    (same : eventHash env a = eventHash env b) : a.sequence = b.sequence := by
  have whole := String.ofList_injective (ideal same)
  rw [dumps_event a, dumps_event b] at whole
  have credentials := (ofOption_tail (List.append_cancel_right whole)).1
  exact int_tail (List.append_cancel_right credentials)

end Hashes

def Intact {μ : Type} (check : ScopedCheck TenantAuditEvent String μ) (events : List TenantAuditEvent) : Prop :=
  ∀ verdict ∈ check.verdicts (fun _ => none) (chainOrder events), verdict = true

def ofTenant (organizationId : String) (events : List TenantAuditEvent) : List TenantAuditEvent :=
  events.filter fun event => event.organizationId = organizationId

section Chains
variable {env : GovernanceEnv} {d : GovernanceDb} {μ : Type} {check : ScopedCheck TenantAuditEvent String μ}
  {events : List TenantAuditEvent} {organizationId : String} {p : TenantAuditEvent → Bool}

theorem ofTenant_chainOrder (ascending : (ofTenant organizationId events).Pairwise fun a b => a.sequence < b.sequence) :
    ofTenant organizationId (chainOrder events) = ofTenant organizationId events := by
  have sorted : (ofTenant organizationId events).Pairwise fun a b : TenantAuditEvent =>
      toLex (a.organizationId, a.sequence) ≤ toLex (b.organizationId, b.sequence) := by
    refine ascending.imp_of_mem fun inA inB below => ?_
    have ofA : _ = organizationId := of_decide_eq_true (List.mem_filter.mp inA).2
    have ofB : _ = organizationId := of_decide_eq_true (List.mem_filter.mp inB).2
    rw [ofA, ofB, Prod.Lex.toLex_le_toLex]
    exact .inr ⟨rfl, below.le⟩
  have within : (ofTenant organizationId events).Sublist (ofTenant organizationId (chainOrder events)) := by
    have sub := (List.sublist_insertionSort sorted List.filter_sublist).filter
      fun event => decide (event.organizationId = organizationId)
    simpa only [ofTenant, chainOrder, List.filter_filter, Bool.and_self] using sub
  have lengths : (ofTenant organizationId (chainOrder events)).length = (ofTenant organizationId events).length :=
    ((List.perm_insertionSort _ events).filter _).length_eq
  exact (within.eq_of_length lengths.symm).symm

theorem intact_iff (keyed : ∀ event ∈ events, check.scope event = event.organizationId)
    (ascending : ∀ organizationId, (ofTenant organizationId events).Pairwise fun a b => a.sequence < b.sequence) :
    Intact check events ↔ ∀ organizationId, check.Along none (ofTenant organizationId events) := by
  unfold Intact
  rw [ScopedCheck.verdicts_iff]
  refine forall_congr' fun organizationId => ?_
  rw [← ofTenant_chainOrder (ascending organizationId), ofTenant]
  rw [List.filter_congr fun event member => by rw [keyed event ((List.mem_insertionSort _).mp member)]]

theorem ofTenant_eq (d : GovernanceDb) (organizationId : String) :
    ofTenant organizationId d.auditEvents = d.eventsOf organizationId := by
  unfold ofTenant GovernanceDb.eventsOf
  exact List.filter_congr fun event _ => by simp [beq_eq_decide]

theorem mem_auditEventsOf {event : TenantAuditEvent} :
    event ∈ d.eventsOf organizationId ↔ event ∈ d.auditEvents ∧ event.organizationId = organizationId := by
  simp [GovernanceDb.eventsOf]

theorem ofTenant_filter (events : List TenantAuditEvent) :
    ofTenant organizationId (events.filter p) = (ofTenant organizationId events).filter p := by
  unfold ofTenant
  rw [List.filter_comm]

/-- The events picked from a chained log are intact when from each chain an
initial part is picked. -/
theorem intact_filter_iff (linked : AuditLinked env d)
    (keyed : ∀ event ∈ d.auditEvents, check.scope event = event.organizationId)
    (along : ∀ organizationId, check.Along none (d.eventsOf organizationId))
    (sole : ∀ a b event, check.fits a event = true → check.fits b event = true → a = b)
    (distinct : ∀ organizationId, ((d.eventsOf organizationId).map check.mark).Nodup) :
    Intact check (d.auditEvents.filter p) ↔ ∀ a ∈ d.auditEvents, ∀ b ∈ d.auditEvents,
      b.organizationId = a.organizationId → a.sequence < b.sequence → p b = true → p a = true := by
  have ascending : ∀ organizationId, (d.eventsOf organizationId).Pairwise fun a b => a.sequence < b.sequence :=
    fun organizationId => (linked organizationId).ascending
  rw [intact_iff fun event member => keyed event (List.mem_of_mem_filter member)]
  · have each : ∀ organizationId, check.Along none (ofTenant organizationId (d.auditEvents.filter p)) ↔
        ∀ a ∈ d.eventsOf organizationId, ∀ b ∈ d.eventsOf organizationId, a.sequence < b.sequence →
          p b = true → p a = true := by
      intro organizationId
      rw [ofTenant_filter, ofTenant_eq, ScopedCheck.along_none_filter_iff sole (distinct organizationId)
        (along organizationId)]
      exact pairwise_iff_of_ascending (ascending organizationId)
    simp only [each]
    constructor
    · intro all a inA b inB same below
      exact all a.organizationId a (mem_auditEventsOf.mpr ⟨inA, rfl⟩) b (mem_auditEventsOf.mpr ⟨inB, same⟩) below
    · intro all organizationId a inA b inB below
      obtain ⟨loggedA, rfl⟩ := mem_auditEventsOf.mp inA
      obtain ⟨loggedB, same⟩ := mem_auditEventsOf.mp inB
      exact all a loggedA b loggedB same below
  · intro organizationId
    rw [ofTenant_filter, ofTenant_eq]
    exact (ascending organizationId).sublist List.filter_sublist

end Chains

end SacmRuntime
