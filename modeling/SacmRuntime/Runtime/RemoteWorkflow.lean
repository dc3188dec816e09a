import SacmRuntime.Runtime.ExecutionPlane
import SacmRuntime.Runtime.Snapshots

namespace SacmRuntime
open Session

/-- `^[a-zA-Z0-9_.-]+$` on one character. -/
def frameworkChar (c : Char) : Bool := c.isAlphanum || c = '_' || c = '.' || c = '-'

/-- The constraints on the fields of `ExternalAgentStepCreate`. -/
def ExternalAgentStepCreate.valid (payload : ExternalAgentStepCreate) : Bool :=
  decide (1 ≤ payload.framework.length ∧ payload.framework.length ≤ 100) &&
    payload.framework.toList.all frameworkChar &&
    decide (1 ≤ payload.agentName.length ∧ payload.agentName.length ≤ 255) &&
    decide (1 ≤ payload.idempotencyKey.length ∧ payload.idempotencyKey.length ≤ 255) &&
    decide (1 ≤ payload.objective.length) && decide (0 < payload.tokenBudget) && decide (0 < payload.timeoutSeconds)

/-- What the remote backend reads from its environment, and the column of a
project that the shared tables leave out. Texts that have to be parsed are
held as what parsing them gives. -/
structure RemoteConfig where
  repositoryFullName : String → Option String
  customerRepositoryCoordinate : Option String
  tokenBudget : Except Error Nat
  timeoutSeconds : Except Error Nat
  requiredCapabilities : List String
  requiredLabels : Except Error (List (String × String))

namespace RemoteWorkflow

def remoteKey (runId : String) : String := runId ++ ":remote-workflow"

/-- `project.repository_full_name` where there is one, else the configured coordinate. -/
def repositoryCoordinate (config : RemoteConfig) (d : Db) (run : Run) : Option String :=
  let project := (run.projectId.filter (· ≠ "")).bind d.projects.find
  ((project.bind fun project => config.repositoryFullName project.id).filter (· ≠ "")).or
    config.customerRepositoryCoordinate

def remoteStep (coordinate : Option String) (run : Run) (task : Task) (tokenBudget timeoutSeconds : Nat) :
    ExternalAgentStepCreate where
  framework := "sacm-remote"
  agentName := "workflow-executor"
  idempotencyKey := remoteKey run.id
  role := "reasoner"
  objective := task.description
  acceptanceCriteria := ["Return a valid AgentResultV1 for the scheduled run step."]
  contextReferences := ["task:" ++ run.taskId, "run:" ++ run.id]
  allowedTools := []
  deniedTools := []
  tokenBudget := tokenBudget
  costBudgetUsd := none
  timeoutSeconds := timeoutSeconds
  executionContext := .obj [("repository_coordinate", .ofOption coordinate),
    ("source_revision", .ofOption run.sourceRevision), ("workflow_backend", .str "remote"),
    ("workspace_location", .str "customer-managed")]

/-- The guards of `execute` and the transition that starts the run. -/
def startRun (env : Env) (runId : String) : Service Run := do
  let run ← requireRun runId
  if run.cancellationRequested ∨ run.status = .cancelled then
    Tx.raise (.valueError ("Run " ++ runId ++ " is cancelled"))
  else if run.status = .created then RunService.transition env runId .planning "RemoteRunSubmitted"
  else if run.status = .failed then RunService.resume env runId
  else if run.status ≠ .planning ∧ run.status ≠ .fixing ∧ run.status ≠ .implementing then
    Tx.raise (.valueError ("Run " ++ runId ++ " cannot schedule from " ++ run.status.name))
  else return run

/-- The step a scheduled recovery continues, when it carries an agent task. -/
def recoveryStep (d : Db) (runId : String) (recovery : Json) : Option RunStep :=
  let found := match recovery.get "last_step_id" with
    | .str stepId => if stepId = "" then none else d.getStep runId stepId
    | _ => none
  found.filter fun step => recovery.get "status" = .str "SCHEDULED" && (step.input.get "agent_task").truthy

/-- The step, its task and the key of the job to schedule. -/
def chooseStep (env : Env) (config : RemoteConfig) (run : Run) : Service (RunStep × AgentTaskV1 × String) := do
  let coordinate ← view fun d => repositoryCoordinate config d run
  let recovery := run.recoveryState.getD (.obj [])
  let recovering ← view fun d => recoveryStep d run.id recovery
  if recovery.get "status" = .str "ESCALATED" then
    Tx.raise (.valueError "Run recovery is escalated and requires an explicit recovery decision.")
  else
    match recovering with
    | some step =>
      let task ← Tx.ofExcept (env.validateTask (step.input.get "agent_task"))
      return (step, task, remoteKey run.id ++ ":recovery:" ++ toString run.recoveryAttemptCount)
    | none =>
      let found ← view fun d => d.tasks.find run.taskId
      let task ← Tx.expect (.attributeError "'NoneType' object has no attribute 'description'") found
      let tokenBudget ← Tx.ofExcept config.tokenBudget
      let timeoutSeconds ← Tx.ofExcept config.timeoutSeconds
      let payload := remoteStep coordinate run task tokenBudget timeoutSeconds
      if !payload.valid then Tx.raise (.other "ValidationError" "ExternalAgentStepCreate")
      else
        let (step, contract) ← ExternalAgentService.schedule env run.id payload none true
        return (step, contract, remoteKey run.id)

/-- `RemoteWorkflowBackend.execute`. -/
def execute (env : Env) (config : RemoteConfig) (runId : String) : Service Json := do
  let run ← startRun env runId
  let (step, task, jobKey) ← chooseStep env config run
  let labels ← Tx.ofExcept config.requiredLabels
  let job ← ExecutionPlaneService.schedule env runId step.id task jobKey config.requiredCapabilities labels 3 none
  return .obj [("run_id", .str runId), ("status", .str "SCHEDULED"), ("backend", .str "remote"),
    ("job_id", .str job.id), ("job_state", .str job.state.name), ("payload_hash", .str job.payloadHash)]

end RemoteWorkflow

end SacmRuntime
