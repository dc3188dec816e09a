import SacmRuntime.Runtime.PolicyService
import SacmRuntime.Runtime.RecoveryService

namespace SacmRuntime
open Session

/-- `EventService.save` with the payload `save_agent_result` builds. -/
def saveAgentResult (taskId agentName : String) (artifacts : List Json) (task : AgentTaskV1)
    (result : AgentResultV1) (commits : Bool) : Service Unit := do
  let eventId ← uuid4
  let createdAt ← utcnow
  let ofType (kind : String) := Json.arr (artifacts.filter fun artifact => artifact.get "type" = .str kind)
  let payload := Json.obj [("agent_name", .str agentName), ("summary", .str result.summary),
    ("confidence", .float result.confidence), ("next_state_hint", .str result.nextStateHint),
    ("actions", .arr result.actions), ("provider", .null), ("model", .null), ("framework", .null),
    ("run_id", .str task.runId), ("usage", ofType "usage"), ("tool_execution", ofType "tool_execution"),
    ("agent_task_contract", task.modelDump), ("agent_result_contract", result.modelDump)]
  modify fun d => { d with contextEvents := d.contextEvents ++ [⟨eventId, taskId, "agent_result", payload, createdAt⟩] }
  RunService.settle commits

structure ExternalAgentSubmission where
  step : RunStep
  approvalId : Option String := none
  recovery : Option RecoveryDecisionV1 := none
  analyticsError : Option String := none

namespace ExternalAgentService

/-- `ExternalAgentService._artifact_payload`. -/
def artifactPayload (artifact : Json) : Json :=
  let rest := (artifact.erase "metadata").erase "artifact_type"
  let present := match rest with
    | .obj fields => Json.obj (fields.filter fun field => field.2 ≠ .null)
    | other => other
  ((Json.obj [("type", artifact.get "artifact_type")]).merge present).merge (artifact.get "metadata")

/-- The artifacts `_persist_result` stores: distinct ones in order, then usage. -/
def storedArtifacts (result : AgentResultV1) : List Json :=
  (result.artifacts ++ result.evidence).foldl (fun kept artifact =>
    if artifactPayload artifact ∈ kept then kept else kept ++ [artifactPayload artifact]) [] ++
  result.usage.map fun usage => (Json.obj [("type", .str "usage")]).merge usage

/-- `ExternalAgentService._persist_result`. -/
def persistResult (step : RunStep) (task : AgentTaskV1) (result : AgentResultV1) (commits : Bool) :
    Service Unit := do
  let agentName ← Tx.expect (.keyError "agent_name") (step.input.field? "agent_name")
  let framework ← Tx.expect (.keyError "framework") (step.input.field? "framework")
  let run ← requireRun step.runId
  saveAgentResult run.taskId (framework.str?.getD "" ++ ":" ++ agentName.str?.getD "")
    (storedArtifacts result) task result commits

/-- `ExternalAgentService._approval_for`. -/
def approvalFor (d : Db) (step : RunStep) : Option Approval :=
  match (step.output.getD .null).get "sacm_approval_id" with
  | .str approvalId => if approvalId = "" then none else d.approvals.find approvalId
  | _ => none

/-- `ExternalAgentService._plan_binding`. -/
def planBinding (d : Db) (taskId : String) : List (String × Json) :=
  match d.latestPlan taskId with
  | none => [("execution_plan_id", .null), ("plan_revision", .null), ("plan_source_hash", .null)]
  | some plan => [("execution_plan_id", .str plan.id), ("plan_revision", .int plan.revision),
      ("plan_source_hash", .str plan.sourceHash)]

/-- `ExternalAgentService._approval_is_current`. -/
def approvalIsCurrent (d : Db) (approval : Approval) (taskId : String) : Bool :=
  (planBinding d taskId).all fun entry => approval.resource.get entry.1 = entry.2

/-- `ExternalAgentService._approval_resource`. -/
def approvalResource (d : Db) (taskId : String) (step : RunStep) (result : AgentResultV1) : Json :=
  (Json.obj [("step_id", .str step.id), ("framework", step.input.get "framework"),
    ("agent_name", step.input.get "agent_name"), ("summary", .str result.summary),
    ("actions", .arr result.actions)]).merge (.obj (planBinding d taskId))

def defaultFailure (result : AgentResultV1) : Json :=
  .obj [("type", .str "ExternalAgentFailure"), ("message", .str result.summary)]

/-- `ExternalAgentService._failure_dict`. -/
def failureDict (result : AgentResultV1) : Option Json :=
  if result.status ≠ .failed then none
  else some ((result.failure.getD .null).orElse (defaultFailure result))

/-- `ExternalAgentService._same_failure`. -/
def sameFailure (recorded submitted : Json) : Bool :=
  match recorded with
  | .obj _ =>
    decide (recorded.get "type" = submitted.get "type") &&
      decide (recorded.get "message" = submitted.get "message") &&
      (!(submitted.get "classification").truthy ||
        decide (recorded.get "classification" = submitted.get "classification"))
  | _ => false

/-- `ExternalAgentService._current_recovery`. -/
def currentRecovery (env : Env) (run : Option Run) : Service (Option RecoveryDecisionV1) :=
  let decision := ((run.bind Run.recoveryState).getD .null).get "last_decision"
  if decision.truthy then do
    let validated ← Tx.ofExcept (env.validateDecision decision)
    return some validated
  else pure none

/-- `ExternalAgentService.refresh_analytics`. -/
def refreshAnalytics (env : Env) (runId : String) : Service (Option String) := do
  let failure ← view fun d => env.recomputeRun d runId
  if failure.isSome then do
    rollback
    return failure
  else
    commit
    return none

/-- `ExternalAgentService._result_output`. -/
def resultOutput (output : Option Json) : Json := (output.getD (.obj [])).erase "sacm_approval_id"

/-- `ExternalAgentService.schedule`. -/
def schedule (env : Env) (runId : String) (payload : ExternalAgentStepCreate)
    (actorId : Option String := none) (trustedInternal : Bool := false) : Service (RunStep × AgentTaskV1) := do
  Tx.ofExcept (env.authorizeRun runId actorId trustedInternal)
  let request := payload.modelDump
  let step ← RunService.addStep env runId (payload.framework ++ ":" ++ payload.agentName)
    (.obj [("external_agent_request", request)]) payload.idempotencyKey
  if !(step.input.get "external_agent_request").pyEq request then
    Tx.raise (.valueError "The idempotency key is already used by a different agent task.")
  else if step.input.get "agent_task" = .null then do
    let task := payload.task runId step.id
    updateStep step.id fun step =>
      { step with input := ((step.input.set "framework" (.str payload.framework)).set "agent_name"
        (.str payload.agentName)).set "agent_task" task.modelDump }
    commit
    let stored ← requireStep runId step.id
    return (stored, task)
  else
    let task ← Tx.ofExcept (env.validateTask (step.input.get "agent_task"))
    return (step, task)

/-- The part of `submit` after the approval gate: store the result, then
ask for approval, hand the failure to recovery, or complete the step. -/
def accept (env : Env) (runId stepId : String) (step : RunStep) (task : AgentTaskV1) (result : AgentResultV1)
    (approval : Option Approval) (commits : Bool) : Service ExternalAgentSubmission := do
  let output := result.modelDump
  persistResult step task result commits
  match result.status with
  | .needsApproval =>
    let run ← existingRun runId
    let resource ← view fun d => approvalResource d run.taskId step result
    let requested ← PolicyService.requestApproval env runId "external_agent_result" resource
    let waiting ← RunService.awaitStepApproval env runId stepId
      (output.set "sacm_approval_id" (.str requested.id))
    return { step := waiting, approvalId := some requested.id }
  | .failed =>
    let agentFailure := (failureDict result).getD (defaultFailure result)
    let failed ← RunService.failStep env runId stepId agentFailure commits
    let (recovered, _, decision) ← RecoveryService.handle env runId failed.id agentFailure none commits
    let analyticsError ← if commits then refreshAnalytics env runId else pure none
    return { step := recovered, recovery := some decision, analyticsError := analyticsError }
  | .completed =>
    let output := match approval with
      | some bound => output.set "sacm_approval_id" (.str bound.id)
      | none => output
    let completed ← RunService.completeStep env runId stepId output
    let analyticsError ← if commits then refreshAnalytics env runId else pure none
    return { step := completed, approvalId := approval.map Approval.id, analyticsError := analyticsError }

/-- `ExternalAgentService.submit`. -/
def submit (env : Env) (runId stepId : String) (result : AgentResultV1) (actorId : Option String := none)
    (trustedInternal : Bool := false) (commits : Bool := true) : Service ExternalAgentSubmission := do
  Tx.ofExcept (env.authorizeRun runId actorId trustedInternal)
  let step ← existingStep runId stepId
  if step.input.get "agent_task" = .null then
    Tx.raise (.valueError "The step is not an external agent contract step.")
  else
  let task ← Tx.ofExcept (env.validateTask (step.input.get "agent_task"))
  if result.runId ≠ runId ∨ result.stepId ≠ stepId then
    Tx.raise (.valueError "Agent result run_id and step_id must match the endpoint.")
  else
  let stored := step.output.getD .null
  let run ← view fun d => d.run? runId
  let classified := ((run.bind Run.recoveryState).getD .null).get "last_failure"
  if step.status = .pending ∧ result.status = .failed ∧ (stored.get "recovery").truthy then
    if !sameFailure classified ((failureDict result).getD .null) then
      Tx.raise (.valueError "The recovery step already records a different failure.")
    else
      let recovery ← currentRecovery env run
      return { step := step, recovery := recovery }
  else if step.status = .completed then
    if !(resultOutput step.output).pyEq result.modelDump then
      Tx.raise (.valueError "The completed step already has a different result.")
    else return { step := step, approvalId := (stored.get "sacm_approval_id").str? }
  else if step.status = .failed then
    let failure := (failureDict result).getD (defaultFailure result)
    let recorded := (stored.get "failure").orElse (stored.get "last_failure")
    if result.status ≠ .failed ∨ !(sameFailure recorded failure || sameFailure classified failure) then
      Tx.raise (.valueError "The failed step cannot accept a different result.")
    else
      let recovery ← currentRecovery env run
      return { step := step, recovery := recovery }
  else
  let approval ← view fun d => approvalFor d step
  if step.status = .awaitingApproval then
    match approval with
    | none => Tx.raise (.valueError "The step is missing its approval record.")
    | some bound =>
      if bound.status = .pending then
        Tx.raise (.valueError ("Approval " ++ bound.id ++ " is still pending."))
      else if bound.status = .rejected then do
        let failed ← RunService.failStep env runId stepId
          (.obj [("type", .str "ApprovalRejected"), ("approval_id", .str bound.id),
            ("reason", .ofOption bound.decisionReason)])
        return { step := failed, approvalId := some bound.id }
      else if bound.status = .approved then do
        let run ← existingRun runId
        let current ← view fun d => approvalIsCurrent d bound run.taskId
        if current then accept env runId stepId step task result approval commits
        else
          updateApproval bound.id fun approval => { approval with status := .superseded }
          commit
          Tx.raise (.valueError ("Approval is bound to a superseded execution plan; " ++
            "submit the result again for a new approval."))
      -- EXPIRED and SUPERSEDED approvals meet no branch of the gate.
      else accept env runId stepId step task result approval commits
  else accept env runId stepId step task result approval commits

end ExternalAgentService

end SacmRuntime
