import SacmRuntime.Lib.HashChain
import SacmRuntime.Governance.Operations

namespace SacmRuntime
open Session SIEMService

/-- Audit events as links of a chain: an event is sound when its hash is the
one `record` computes and its metadata went through `_sanitize`. -/
def auditLink (env : GovernanceEnv) : ChainLink TenantAuditEvent String where
  number := TenantAuditEvent.sequence
  previous := TenantAuditEvent.previousEventHash
  hash := TenantAuditEvent.eventHash
  Sound event := event.eventHash = TenantAuditService.eventHash env event ∧
    ∃ metadata, event.requestMetadata = TenantAuditService.sanitize metadata

/-- The audit events of every organization form a chain that begins at one. -/
def AuditLinked (env : GovernanceEnv) (d : GovernanceDb) : Prop :=
  ∀ organizationId, (auditLink env).Linked 1 none (d.eventsOf organizationId)

section
variable {env : GovernanceEnv} {p : GovernanceDb → SIEMSink → Prop} {s : Session GovernanceDb}
  {d e : GovernanceDb} {organizationId : String} {event : TenantAuditEvent}

theorem lastEvent_eq (linked : AuditLinked env d) (organizationId : String) :
    d.lastEvent organizationId = (d.eventsOf organizationId).getLast? := (linked organizationId).argmax_last

theorem auditEvents_append (events : e.auditEvents = d.auditEvents ++ [event]) (organizationId : String) :
    e.eventsOf organizationId =
      d.eventsOf organizationId ++ if event.organizationId = organizationId then [event] else [] := by
  unfold GovernanceDb.eventsOf
  rw [events, List.filter_append]
  by_cases same : event.organizationId = organizationId <;> simp [same]

/-- The event `record` adds continues the chain of its organization. -/
theorem NextEvent.linked (next : NextEvent env d organizationId event) (linked : AuditLinked env d) :
    (auditLink env).Linked 1 none (d.eventsOf organizationId ++ [event]) := by
  obtain ⟨auth, entry, organization, project, id, createdAt, rfl, rfl⟩ := next
  rw [lastEvent_eq linked]
  refine (linked entry.organizationId).extend ?_ ?_ ⟨rfl, _, rfl⟩
  · cases (d.eventsOf entry.organizationId).getLast? <;> rfl
  · unfold ChainLink.tip
    cases (d.eventsOf entry.organizationId).getLast? <;> rfl

theorem NextEvent.organization (next : NextEvent env d organizationId event) :
    event.organizationId = organizationId := by
  obtain ⟨auth, entry, organization, project, id, createdAt, rfl, rfl⟩ := next
  rfl

theorem AuditLinked.append (linked : AuditLinked env d) (next : NextEvent env d organizationId event)
    (events : e.auditEvents = d.auditEvents ++ [event]) : AuditLinked env e := by
  intro other
  rw [auditEvents_append events, next.organization]
  by_cases here : organizationId = other
  · subst here
    simpa using next.linked linked
  · simpa [here] using linked other

theorem AuditLinked.of_same (linked : AuditLinked env d) (events : e.auditEvents = d.auditEvents) :
    AuditLinked env e := by
  intro organizationId
  unfold GovernanceDb.eventsOf
  rw [events]
  exact linked organizationId

theorem AuditLinked.of_empty (empty : d.auditEvents = []) : AuditLinked env d := by
  intro organizationId
  unfold GovernanceDb.eventsOf
  rw [empty]
  trivial

theorem GovernanceWrite.keeps_log (write : GovernanceWrite env p s d) (linked : AuditLinked env s.working) :
    AuditLinked env d ∧ s.working.auditEvents <+: d.auditEvents := by
  cases write with
  | audit next => exact ⟨linked.append next rfl, List.prefix_append _ _⟩
  | other events => exact ⟨linked.of_same events, events ▸ List.prefix_rfl⟩
  | cut | delivered => exact ⟨linked.of_same rfl, List.prefix_rfl⟩
  | undelivered _ _ _ _ _ events => exact ⟨linked.of_same events, events ▸ List.prefix_rfl⟩

def LogGrown (env : GovernanceEnv) (log : List TenantAuditEvent) (d : GovernanceDb) : Prop :=
  AuditLinked env d ∧ log <+: d.auditEvents

theorem GovernanceOperation.keeps_log {log : List TenantAuditEvent} {supply : Supply} (op : GovernanceOperation)
    (grown : LogGrown env log d) : LogGrown env log (op.after env d supply) := by
  refine request_keeps (op.writes env d supply) (fun s d write grown => ?_) grown
  obtain ⟨linked, longer⟩ := write.keeps_log grown.1
  exact ⟨linked, grown.2.trans longer⟩

theorem audit_log_grows {meets : GovernanceDb → Supply → GovernanceOperation → Prop}
    (run : GovernanceExecution env meets d e) (linked : AuditLinked env d) : LogGrown env d.auditEvents e :=
  run.keeps (fun _ _ op _ grown => op.keeps_log grown) ⟨linked, List.prefix_rfl⟩

end

end SacmRuntime
