import SacmRuntime.Runtime.ExecutionPlane
import SacmRuntime.Runtime.ExecutionPlanning

namespace SacmRuntime
open Session

structure PlannedStep where
  id : String
  title : String
  objective : String
  acceptanceCriteria : List String
  contextReferences : List String
  requiredTools : List String
  dependsOn : List String
  role : String
  configuration : Json

namespace PlannedStep

def ofJson (step : Json) : PlannedStep where
  id := (step.get "id").str?.getD ""
  title := (step.get "title").str?.getD ""
  objective := (step.get "objective").str?.getD ""
  acceptanceCriteria := (step.get "acceptance_criteria").strings
  contextReferences := (step.get "context_references").strings
  requiredTools := (step.get "required_tools").strings
  dependsOn := (step.get "depends_on").strings
  role := ((step.get "agent").get "role").str?.getD ""
  configuration := (step.get "agent").get "configuration"

def agentRole (planned : PlannedStep) : String :=
  if planned.role ∈ ["reasoner", "coder", "reviewer", "tester", "security"] then planned.role else "reasoner"

end PlannedStep

def ExecutionPlanV1.plannedSteps (plan : ExecutionPlanV1) : List PlannedStep := plan.steps.map PlannedStep.ofJson

/-- What an orchestration is told by other services: whether the actor may
write the task, the `readiness_details` of the task, the application contexts
once they are built, the outcomes inside the planning, and what becomes of the
status sent to Jira. -/
structure DeliveryChecks where
  authorized : Except Error Unit
  readiness : Json
  contexts : Except Error (List ApplicationContext)
  build : BuildChecks
  synced : Except Error Unit

namespace JiraOrchestrationService

/-- `_source_revision`. -/
def sourceRevision (contract : Json) : Option String :=
  match (contract.get "repositories").items with
  | .obj fields :: _ =>
    let value := (Json.obj fields).get "base_revision"
    if value.truthy then value.str? else none
  | _ => none

/-- `_run`. The runs of a task are stored in the order of their creation. -/
def runOf (env : Env) (task : Task) (sourceRevision : Option String) : Service Run := do
  let existing ← view fun d => (d.runs.rows.filter fun run => run.taskId == task.id).getLast?
  match existing with
  | some run => return run
  | none =>
    let runId ← uuid4
    let now ← utcnow
    let run : Run := { newRun runId task .planning now with sourceRevision := sourceRevision }
    insertRun run
    flush
    let _ ← appendEvent env run "JiraDeliveryRunCreated" "jira-orchestrator"
      (.obj [("task_id", .str task.id), ("project_id", .ofOption task.projectId)])
    checkpoint env run "jira_delivery_run_created"
    commit
    requireRun runId

def stepKey (planId stepId : String) : String := "jira-plan:" ++ planId ++ ":" ++ stepId

def jobKey (planId stepId : String) : String := "jira-job:" ++ planId ++ ":" ++ stepId

def stepInput (planId stepId : String) : Json :=
  .obj [("execution_plan_id", .str planId), ("execution_plan_step_id", .str stepId)]

/-- The constraints on the fields of `AgentTaskV1`. -/
def validTask (planned : PlannedStep) (tokenBudget timeoutSeconds : Int) : Bool :=
  decide (planned.objective ≠ "") && decide (0 < tokenBudget) && decide (0 < timeoutSeconds)

def taskDump (planId runId stepId : String) (planned : PlannedStep) (tokenBudget timeoutSeconds : Int) : Json :=
  .obj [("schema_version", .str "agent-task/v1"), ("run_id", .str runId), ("step_id", .str stepId),
    ("role", .str planned.agentRole), ("objective", .str planned.objective),
    ("acceptance_criteria", .ofStrings planned.acceptanceCriteria),
    ("context_references", .ofStrings planned.contextReferences), ("allowed_tools", .ofStrings planned.requiredTools),
    ("denied_tools", .arr []), ("token_budget", .int tokenBudget), ("cost_budget_usd", .null),
    ("timeout_seconds", .int timeoutSeconds), ("output_schema", .str "agent-result/v1"),
    ("execution_context", stepInput planId planned.id)]

def agentTask (parsing : IntParsing) (planId runId stepId : String) (planned : PlannedStep) :
    Except Error AgentTaskV1 := do
  let tokenBudget ← parsing.int ((planned.configuration.field? "token_budget").getD (.int 8000))
  let timeoutSeconds ← parsing.int ((planned.configuration.field? "timeout_seconds").getD (.int 900))
  if validTask planned tokenBudget timeoutSeconds then
    .ok ⟨runId, stepId, taskDump planId runId stepId planned tokenBudget timeoutSeconds⟩
  else .error (.other "ValidationError" "AgentTaskV1")

/-- One round of the loop of `_schedule`. -/
def scheduleStep (env : Env) (parsing : IntParsing) (runId planId : String) (planned : PlannedStep) :
    Service ExecutionJob := do
  let step ← RunService.addStep env runId planned.title (stepInput planId planned.id) (stepKey planId planned.id)
  let task ← Tx.ofExcept (agentTask parsing planId runId step.id planned)
  ExecutionPlaneService.schedule env runId step.id task (jobKey planId planned.id) [planned.agentRole] [] 3 none

def scheduleSteps (env : Env) (parsing : IntParsing) (runId planId : String) :
    List PlannedStep → Service (List ExecutionJob)
  | [] => pure []
  | planned :: rest => do
    let job ← scheduleStep env parsing runId planId planned
    let jobs ← scheduleSteps env parsing runId planId rest
    return job :: jobs

def executorActive (d : Db) (run : Run) : Bool :=
  d.executors.rows.any fun executor => decide (executor.projectId = run.projectId) && decide (executor.status = .active)

/-- `_schedule`. It assigns `run.status` itself. -/
def schedule (env : Env) (parsing : IntParsing) (run : Run) (plan : ExecutionPlanV1) : Service (List ExecutionJob) := do
  let active ← view fun d => executorActive d run
  if !active then return []
  else
    let jobs ← scheduleSteps env parsing run.id plan.id plan.plannedSteps
    if jobs.isEmpty then return []
    else
      let now ← utcnow
      updateRun run.id fun run =>
        if run.status = .implementing then run else { run with status := .implementing, updatedAt := some now }
      commit
      return jobs

/-- A method over the shared tables, in a session over all that planning uses. -/
def onShared {α : Type} (m : Service α) : PlanningMethod α := onPart PlanningDb.shared
    (fun d shared => { d with shared := shared }) m

/-- `orchestrate`. -/
def orchestrate (env : Env) (tools : PlanningTools) (parsing : IntParsing) (checks : DeliveryChecks)
    (connectorProject taskId policyPack actor : String) : PlanningMethod (List ExecutionJob) := do
  Tx.ofExcept checks.authorized
  let found ← view fun d => d.shared.tasks.find taskId
  let task ← Tx.expect (.valueError ("Task " ++ taskId ++ " not found.")) found
  if task.projectId ≠ some connectorProject then
    Tx.raise (.permissionError "Task is outside the Jira connector project.")
  else if !(checks.readiness.get "ready").truthy then
    Tx.ofExcept checks.synced
    return []
  else
    let contexts ← Tx.ofExcept checks.contexts
    modify fun d => { d with contexts := contexts }
    commit
    let plan ← ExecutionPlanningService.build env tools checks.build taskId policyPack (some actor)
    let revision ← view fun d => sourceRevision (d.taskContract taskId)
    let run ← onShared (runOf env task revision)
    let jobs ← onShared (schedule env parsing run plan)
    Tx.ofExcept checks.synced
    return jobs

end JiraOrchestrationService

end SacmRuntime
