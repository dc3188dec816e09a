import Mathlib.Data.List.Infix
import Mathlib.Data.List.MinMax
import SacmRuntime.Governance.Rows

namespace SacmRuntime
open Session

/-- What `if value:` and `value or other` keep of an optional string. -/
def present (value : Option String) : Option String := value.filter (· ≠ "")

/-- `str.lower` on one character. Of the letters outside ASCII only these two
have a lower case with an ASCII letter in it; no word that is searched for
depends on the others. -/
def lowerChar (c : Char) : List Char :=
  if 65 ≤ c.toNat ∧ c.toNat ≤ 90 then [Char.ofNat (c.toNat + 32)]
  else if c.toNat = 0x212A then ['k']
  else if c.toNat = 0x130 then ['i', Char.ofNat 0x307]
  else [c]

/-- `part in text`. -/
def contains (text part : List Char) : Bool := decide (part <:+: text)

/-- `_SENSITIVE_KEYS`. -/
def sensitiveKeys : List String := ["authorization", "credential", "password", "private_key", "secret", "token"]

def sensitiveKey (key : String) : Bool :=
  sensitiveKeys.any fun part => contains (key.toList.flatMap lowerChar) part.toList

def redacted : Json := .str "[REDACTED]"

mutual
/-- The two `_sanitize` functions: they differ in the strings they hide. -/
def redact (secret : String → Bool) : Json → Json
  | .str s => if secret s then redacted else .str s
  | .arr items => .arr (redactItems secret items)
  | .obj fields => .obj (redactFields secret fields)
  | .null => .null
  | .bool b => .bool b
  | .int n => .int n
  | .float x => .float x

def redactItems (secret : String → Bool) : List Json → List Json
  | [] => []
  | item :: rest => redact secret item :: redactItems secret rest

def redactFields (secret : String → Bool) : List (String × Json) → List (String × Json)
  | [] => []
  | (key, value) :: rest =>
    (key, if sensitiveKey key then redacted else redact secret value) :: redactFields secret rest
end

def serviceToken (s : String) : Bool := "sacm_service_".toList.isPrefixOf s.toList

namespace TenantAuditService

/-- `TenantAuditService._sanitize`. -/
def sanitize : Json → Json := redact serviceToken

/-- The fields `record` hashes. -/
def canonical (event : TenantAuditEvent) : Json :=
  .obj [("organization_id", .str event.organizationId), ("project_id", .ofOption event.projectId),
    ("sequence", .int event.sequence), ("actor_id", .str event.actorId), ("actor_type", .str event.actorType),
    ("service_credential_id", .ofOption event.serviceCredentialId), ("action", .str event.action),
    ("resource_type", .str event.resourceType), ("resource_id", .ofOption event.resourceId),
    ("decision", .str event.decision), ("reason", .str event.reason),
    ("correlation_id", .ofOption event.correlationId), ("request_metadata", event.requestMetadata),
    ("previous_event_hash", .ofOption event.previousEventHash),
    ("created_at", .str (String.ofList (isoMicroseconds event.createdAt)))]

def eventHash (env : GovernanceEnv) (event : TenantAuditEvent) : String := env.sha256 ((canonical event).text true)

end TenantAuditService

structure AuditEntry where
  organizationId : String
  projectId : Option String
  actorId : String
  action : String
  resourceType : String
  resourceId : Option String
  decision : String
  reason : String
  metadata : Option Json := none

namespace GovernanceDb

def eventsOf (d : GovernanceDb) (organizationId : String) : List TenantAuditEvent :=
  d.auditEvents.filter fun event => event.organizationId == organizationId

def lastEvent (d : GovernanceDb) (organizationId : String) : Option TenantAuditEvent :=
  (d.eventsOf organizationId).argmax TenantAuditEvent.sequence

end GovernanceDb

def servicePrefix : List Char := "service:".toList

namespace AuditEntry

def actorType (auth : Option AuthContext) (actorId : String) : String :=
  match auth.filter fun context => context.actorId == actorId with
  | some context => context.actorType
  | none => if servicePrefix.isPrefixOf actorId.toList then "service" else "user"

def credentialId (auth : Option AuthContext) (actorId : String) : Option String :=
  match auth.filter fun context => context.actorId == actorId with
  | some context => context.serviceCredentialId
  | none =>
    if servicePrefix.isPrefixOf actorId.toList then some (String.ofList (actorId.toList.drop servicePrefix.length))
    else none

/-- The row `record` adds after the given event. -/
def event (env : GovernanceEnv) (auth : Option AuthContext) (entry : AuditEntry) (organization : Organization)
    (project : Option Project) (previous : Option TenantAuditEvent) (id : String) (createdAt : Nat) :
    TenantAuditEvent :=
  let unhashed : TenantAuditEvent :=
    { id := id, organizationId := entry.organizationId, projectId := entry.projectId,
      sequence := match previous with
        | some last => last.sequence + 1
        | none => 1
      actorId := entry.actorId, actorType := actorType auth entry.actorId,
      serviceCredentialId := credentialId auth entry.actorId, action := entry.action,
      resourceType := entry.resourceType, resourceId := entry.resourceId, decision := entry.decision,
      reason := entry.reason, correlationId := auth.bind AuthContext.correlationId,
      requestMetadata := TenantAuditService.sanitize (entry.metadata.getD (.obj [])),
      dataRegion := (project.bind fun project => present project.dataRegion).orElse fun _ => organization.dataRegion
      dataClassification := (project.bind fun project => present project.dataClassification).orElse fun _ =>
        (present organization.dataClassification).orElse fun _ => some "Confidential"
      previousEventHash := previous.map TenantAuditEvent.eventHash, eventHash := "", createdAt := createdAt }
  { unhashed with eventHash := TenantAuditService.eventHash env unhashed }

end AuditEntry

namespace SIEMService

/-- The sequence up to which a sink has been told of events. -/
def pendingThrough (sink : SIEMSink) : Int :=
  match sink.storageMetadata.get "pending_through_sequence" with
  | .int n => n
  | _ => 0

def behind (event : TenantAuditEvent) (sink : SIEMSink) : Bool :=
  sink.organizationId == event.organizationId && decide (sink.status = .active) &&
    decide (pendingThrough sink < event.sequence)

/-- `SIEMService.mark_pending`. -/
def markPending (event : TenantAuditEvent) : GovernanceMethod Unit := do
  let changed ← view fun d => d.sinks.rows.any (behind event)
  if changed then do
    modify fun d => { d with sinks := d.sinks.updateWhere (behind event) fun sink =>
      { sink with storageMetadata := sink.storageMetadata.set "pending_through_sequence" (.int event.sequence) } }
    commit
  else pure ()

end SIEMService

namespace TenantAuditService

/-- `TenantAuditService.record`. It commits the event it adds, so no session
ever holds an unwritten one and its queries see all events. -/
def record (env : GovernanceEnv) (auth : Option AuthContext) (entry : AuditEntry) :
    GovernanceMethod TenantAuditEvent := do
  let found ← view fun d => d.organizations.find entry.organizationId
  let organization ← Tx.expect (.valueError "Organization not found.") found
  let project ← view fun d => (present entry.projectId).bind d.projects.find
  let previous ← view fun d => d.lastEvent entry.organizationId
  let createdAt ← utcnow
  let id ← uuid4
  let event := entry.event env auth organization project previous id createdAt
  modify fun d => { d with auditEvents := d.auditEvents ++ [event] }
  commit
  SIEMService.markPending event
  return event

end TenantAuditService

inductive Principal where
  | membership (member : Membership)
  | credential (credential : ServiceCredential)

def Principal.role : Principal → String
  | .membership member => member.role
  | .credential issued => issued.role

/-- The project a decision about the principal's role is recorded under. -/
def Principal.projectId : Principal → Option String
  | .membership _ => none
  | .credential issued => issued.projectId

inductive Role where
  | viewer | developer | admin | owner
  deriving DecidableEq

def Role.name : Role → String
  | .viewer => "viewer"
  | .developer => "developer"
  | .admin => "admin"
  | .owner => "owner"

/-- `_ROLE_RANK[role]`. -/
def Role.rank : Role → Int
  | .viewer => 0
  | .developer => 1
  | .admin => 2
  | .owner => 3

/-- `_ROLE_RANK.get(role, -1)`. -/
def roleRank (role : String) : Int :=
  (([.viewer, .developer, .admin, .owner] : List Role).find? fun known => known.name = role).elim (-1) Role.rank

/-- `ALL_PERMISSIONS`. -/
def allPermissions : List String :=
  ["runs.read", "runs.write", "runs.execute", "tasks.read", "tasks.write", "evidence.read", "evidence.build",
    "approvals.read", "approvals.decide", "executors.manage", "executors.use", "secrets.read", "secrets.manage",
    "audit.export", "data.manage", "resilience.read", "resilience.manage", "operations.manage"]

/-- `ROLE_PERMISSIONS`, with no permissions for a role it does not list. -/
def rolePermissions (role : String) : List String :=
  if role = "viewer" then ["runs.read", "tasks.read", "evidence.read", "approvals.read", "resilience.read"]
  else if role = "developer" then
    ["runs.read", "runs.write", "runs.execute", "tasks.read", "tasks.write", "evidence.read", "evidence.build",
      "approvals.read", "executors.use", "resilience.read"]
  else if role = "admin" ∨ role = "owner" then allPermissions
  else []

namespace TenancyService

/-- `_effective_permissions`. -/
def effectivePermissions : Principal → List String
  | .membership member => rolePermissions member.role ++ member.permissions.getD []
  | .credential credential => rolePermissions credential.role ++ credential.permissions

/-- `_principal`. -/
def principal (organizationId actorId : String) : GovernanceMethod (Option Principal) :=
  if servicePrefix.isPrefixOf actorId.toList then do
    let found ← view fun d => d.credentials.find (String.ofList (actorId.toList.drop servicePrefix.length))
    match found.filter fun credential => credential.organizationId = organizationId ∧ credential.revokedAt = none with
    | none => return none
    | some credential =>
      match credential.expiresAt with
      | none => return some (.credential credential)
      | some expiry =>
        let now ← utcnow
        return if expiry ≤ now then none else some (.credential credential)
  else
    view fun d => (d.memberships.find? fun member =>
      member.organizationId == organizationId && member.actorId == actorId).map .membership

/-- Whether the principal has the permission, and the reason that is recorded. -/
def judge (permission : String) (projectId : Option String) : Option Principal → Bool × String
  | none => (false, "Actor is not a member of the organization.")
  | some (.credential credential) =>
    if (credential.projectId = none ∨ credential.projectId = projectId) ∧
        permission ∈ effectivePermissions (.credential credential) then
      (true, "Allowed by scoped service credential.")
    else (false, "Service credential scope or permission does not allow this action.")
  | some (.membership member) =>
    if permission ∈ effectivePermissions (.membership member) then (true, "Allowed by organization membership.")
    else (false, "Organization role does not grant the required permission.")

/-- `TenancyService.require_permission`. The decision is recorded either way. -/
def requirePermission (env : GovernanceEnv) (auth : Option AuthContext) (organizationId actorId permission : String)
    (projectId : Option String) (resourceType : String) (resourceId : Option String) : GovernanceMethod Principal := do
  let found ← principal organizationId actorId
  let (allowed, reason) := judge permission projectId found
  let _ ← TenantAuditService.record env auth
    { organizationId := organizationId, projectId := projectId, actorId := actorId,
      action := "authorization." ++ permission, resourceType := resourceType, resourceId := resourceId,
      decision := if allowed then "ALLOW" else "DENY", reason := reason }
  match allowed, found with
  | true, some principal => return principal
  | _, _ => Tx.raise (.permissionError "Resource is not accessible.")

/-- `TenancyService.require_project_permission`. -/
def requireProjectPermission (env : GovernanceEnv) (auth : Option AuthContext) (projectId actorId permission : String)
    (resourceType : String) (resourceId : Option String) : GovernanceMethod Project := do
  let found ← view fun d => d.projects.find projectId
  let project ← Tx.expect (.valueError "Project not found.") found
  let _ ← requirePermission env auth project.organizationId actorId permission (some project.id) resourceType
    (some ((present resourceId).getD project.id))
  return project

/-- `TenancyService.require_role`. A membership is recorded without a project. -/
def requireRole (env : GovernanceEnv) (auth : Option AuthContext) (organizationId actorId : String)
    (minimumRole : Role) : GovernanceMethod Principal := do
  let found ← principal organizationId actorId
  let allowed := found.any fun principal => decide (minimumRole.rank ≤ roleRank principal.role)
  let _ ← TenantAuditService.record env auth
    { organizationId := organizationId, projectId := found.bind Principal.projectId, actorId := actorId,
      action := "authorization.role." ++ minimumRole.name, resourceType := "organization",
      resourceId := some organizationId, decision := if allowed then "ALLOW" else "DENY",
      reason := if allowed then "Role requirement satisfied."
        else "Organization role requirement was not satisfied." }
  match allowed, found with
  | true, some principal => return principal
  | _, _ => Tx.raise (.permissionError "Insufficient organization role.")

/-- `TenancyService.require_project_role`. -/
def requireProjectRole (env : GovernanceEnv) (auth : Option AuthContext) (projectId actorId : String)
    (minimumRole : Role) : GovernanceMethod Project := do
  let found ← view fun d => d.projects.find projectId
  let project ← Tx.expect (.valueError "Project not found.") found
  let _ ← requireRole env auth project.organizationId actorId minimumRole
  return project

/-- `TenancyService.audit_sensitive`. -/
def auditSensitive (env : GovernanceEnv) (auth : Option AuthContext) (organizationId : String)
    (projectId : Option String) (actorId action resourceType : String) (resourceId : Option String)
    (reason : String) (metadata : Option Json := none) : GovernanceMethod TenantAuditEvent :=
  TenantAuditService.record env auth
    { organizationId := organizationId, projectId := projectId, actorId := actorId, action := action,
      resourceType := resourceType, resourceId := resourceId, decision := "ALLOW", reason := reason,
      metadata := metadata }

end TenancyService

end SacmRuntime
