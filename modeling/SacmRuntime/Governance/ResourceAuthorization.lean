import SacmRuntime.Governance.ProjectScope

namespace SacmRuntime
open Session

structure TenantContext where
  organizationId : String
  projectId : Option String
  source : String

/-- What the checks read outside the tables of the tenancy services: the
shared tables, two columns these leave out, and `_production()`. -/
structure Resources where
  shared : Db
  taskContract : String → Json
  runCreatedAt : Run → Nat
  production : Bool

namespace ResourceAuthorizationService

/-- The projects a task is linked to by its runs and its contract. -/
def projectIds (resources : Resources) (task : Task) : List String :=
  let ofRuns := (resources.shared.runs.rows.filter fun run => run.taskId == task.id).filterMap fun run =>
    present run.projectId
  let ofContract := match (resources.taskContract task.id).get "project_id" with
    | .str projectId => [projectId]
    | _ => []
  (ofRuns ++ ofContract).dedup

/-- `task_context`. -/
def taskContext (resources : Resources) (d : GovernanceDb) (task : Task) : Option TenantContext :=
  match present task.organizationId with
  | some organizationId => some ⟨organizationId, task.projectId, "task.tenant_context"⟩
  | none =>
    match projectIds resources task with
    | [projectId] => (d.projects.find projectId).map fun project =>
        ⟨project.organizationId, some project.id, "task/run bridge"⟩
    | _ => none

/-- `run_context`. -/
def runContext (resources : Resources) (d : GovernanceDb) (run : Run) : Except Error (Option TenantContext) :=
  match present run.organizationId with
  | some organizationId => .ok (some ⟨organizationId, run.projectId, "run.tenant_context"⟩)
  | none =>
    match (present run.projectId).bind d.projects.find with
    | some project => .ok (some ⟨project.organizationId, some project.id, "run/project bridge"⟩)
    | none =>
      match resources.shared.tasks.find run.taskId with
      | none => .error (.attributeError "'NoneType' object has no attribute 'organization_id'")
      | some task => .ok (taskContext resources d task)

/-- `require_run`. -/
def requireRun (env : GovernanceEnv) (auth : Option AuthContext) (resources : Resources)
    (runId actorId permission : String) : GovernanceMethod Run := do
  let run ← Tx.expect (.valueError "Run not found.") (resources.shared.runs.find runId)
  let resolved ← view fun d => runContext resources d run
  let context ← Tx.ofExcept resolved
  match context with
  | none => if resources.production then Tx.raise (.permissionError "Resource is not accessible.") else return run
  | some context =>
    let _ ← TenancyService.requirePermission env auth context.organizationId actorId permission context.projectId "run"
      (some run.id)
    return run

/-- `require_task`. -/
def requireTask (env : GovernanceEnv) (auth : Option AuthContext) (resources : Resources)
    (taskId actorId permission : String) : GovernanceMethod Task := do
  let task ← Tx.expect (.valueError "Task not found.") (resources.shared.tasks.find taskId)
  let context ← view fun d => taskContext resources d task
  match context with
  | none => if resources.production then Tx.raise (.permissionError "Resource is not accessible.") else return task
  | some context =>
    let _ ← TenancyService.requirePermission env auth context.organizationId actorId permission context.projectId "task"
      (some task.id)
    return task

/-- `require_approval`. -/
def requireApproval (env : GovernanceEnv) (auth : Option AuthContext) (resources : Resources)
    (approvalId actorId permission : String) : GovernanceMethod Approval := do
  let approval ← Tx.expect (.valueError "Approval not found.") (resources.shared.approvals.find approvalId)
  let _ ← requireRun env auth resources approval.runId actorId permission
  return approval

section
variable {env : GovernanceEnv} {auth : Option AuthContext} {permission : String} {s t : Session GovernanceDb}

theorem requireTask_ok {resources : Resources} {id actor : String} {task : Task}
    (passed : requireTask env auth resources id actor permission s = (.ok task, t)) :
    resources.shared.tasks.find id = some task ∧ t.working.projects = s.working.projects := by
  unfold requireTask at passed
  cases found : resources.shared.tasks.find id with
  | none =>
    rw [found] at passed
    cases passed
  | some row =>
    rw [found, Tx.bind_expect_some, bind_view] at passed
    cases context : taskContext resources s.working row with
    | none =>
      rw [context] at passed
      dsimp only at passed
      cases production : resources.production <;> rw [production] at passed <;> cases passed
      exact ⟨rfl, rfl⟩
    | some tenant =>
      rw [context] at passed
      obtain ⟨granted, mid, ran, rest⟩ := Tx.bind_ok passed
      cases rest
      obtain ⟨event, audited⟩ := requirePermission_ok ran
      exact ⟨rfl, by rw [audited.recorded.store]⟩

end

end ResourceAuthorizationService

/-- The credential an actor with the service prefix names. -/
def namedCredential (d : GovernanceDb) (actorId : String) : Option ServiceCredential :=
  d.credentials.find (String.ofList (actorId.toList.drop servicePrefix.length))

/-- The organizations in which a membership of the actor has the permission. -/
def permittedOrganizations (d : GovernanceDb) (actorId permission : String) : List String :=
  (d.memberships.filter fun member => member.actorId == actorId &&
    permission ∈ TenancyService.effectivePermissions (.membership member)).map Membership.organizationId

/-- The rows of a listing by the tenant columns: those of the actor's
organizations, or of the scope of its credential. -/
def tenantFilter (d : GovernanceDb) (actorId permission : String) (organizationId projectId : Option String) : Bool :=
  if servicePrefix.isPrefixOf actorId.toList then
    (namedCredential d actorId).any fun credential =>
      permission ∈ TenancyService.effectivePermissions (.credential credential) &&
        organizationId = some credential.organizationId &&
        (present credential.projectId).all fun scope => projectId = some scope
  else organizationId.any fun organizationId => organizationId ∈ permittedOrganizations d actorId permission

/-- `ResourceAuthorizationService.accessible_runs`. -/
def ResourceAuthorizationService.accessibleRuns (resources : Resources) (d : GovernanceDb)
    (actorId permission : String) : List Run :=
  let newestFirst (runs : List Run) := (Table.orderBy resources.runCreatedAt runs).reverse
  if !resources.production then newestFirst resources.shared.runs.rows
  else newestFirst (resources.shared.runs.rows.filter fun run =>
    tenantFilter d actorId permission run.organizationId run.projectId)

/-- `PolicyService.list_approvals`. -/
def PolicyService.listApprovals (env : GovernanceEnv) (auth : Option AuthContext) (resources : Resources)
    (actorId : String) (runId : Option String) : GovernanceMethod (List Approval) :=
  let newestFirst (approvals : List Approval) := (Table.orderBy Approval.requestedAt approvals).reverse
  let approvals := resources.shared.approvals.rows
  match present runId with
  | some runId => do
    let _ ← ResourceAuthorizationService.requireRun env auth resources runId actorId "approvals.read"
    return newestFirst (approvals.filter fun approval => approval.runId == runId)
  | none => do
    let listed ← view fun d => approvals.filter fun approval =>
      tenantFilter d actorId "approvals.read" approval.organizationId approval.projectId
    return newestFirst listed

end SacmRuntime
