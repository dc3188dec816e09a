import SacmRuntime.Runtime.Events

namespace SacmRuntime
open Session

/-- `_ALLOWED_TRANSITIONS`. -/
def allowedTransitions : RunStatus → List RunStatus
  | .created => [.planning, .cancelled]
  | .planning => [.awaitingApproval, .implementing, .failed, .cancelled]
  | .awaitingApproval => [.implementing, .cancelled]
  | .implementing => [.reviewing, .failed, .cancelled]
  | .reviewing => [.fixing, .testing, .failed, .cancelled]
  | .fixing => [.implementing, .reviewing, .failed, .cancelled]
  | .testing => [.fixing, .delivering, .failed, .cancelled]
  | .delivering => [.completed, .failed, .cancelled]
  | .failed => [.planning, .implementing, .reviewing, .fixing, .testing, .cancelled]
  | .completed => []
  | .cancelled => []

structure RunCreate where
  title : String
  description : String
  targetRepoPath : Option String
  sourceRevision : Option String
  projectId : Option String

/-- `payload.project_id` unless it is absent, empty or a legacy reference. -/
def RunCreate.project (payload : RunCreate) : Option String :=
  payload.projectId.filter fun p => p != "" && !p.startsWith "legacy:"

def newRun (id : String) (task : Task) (status : RunStatus) (now : Nat) : Run where
  id := id
  organizationId := task.organizationId
  projectId := task.projectId
  tenantAttribution := task.tenantAttribution
  dataRegion := task.dataRegion
  dataClassification := task.dataClassification
  taskId := task.id
  status := status
  workflowVersion := "run/v1"
  sourceRevision := none
  targetRepoPath := task.targetRepoPath
  cancellationRequested := false
  updatedAt := some now
  startedAt := none
  completedAt := none
  supplyChainStatus := "NOT_EVALUATED"
  missingSupplyChainEvidence := []
  recoveryState := none
  recoveryAttemptCount := 0
  lastFailureClassification := none
  lastRecoveryAction := none

/-- The common tail of `create` and `create_for_task`. -/
def addRun (env : Env) (run : Run) : Service Run := do
  insertRun run
  let _ ← appendEvent env run "RunCreated" "system"
    (.obj [("task_id", .str run.taskId), ("workflow_version", .str run.workflowVersion)])
  checkpoint env run "run_created"
  commit
  requireRun run.id

namespace RunService

/-- `RunService.create`. -/
def create (env : Env) (payload : RunCreate) : Service Run := do
  let project ← view fun d => payload.project.bind d.projects.find
  let attribution := project.map fun _ =>
    Json.obj [("schema_version", .str "tenant-attribution/v1"), ("source", .str "run.create")]
  let taskId ← uuid4
  let task : Task :=
    { id := taskId, organizationId := project.map Project.organizationId, projectId := project.map Project.id,
      tenantAttribution := attribution, dataRegion := project.bind Project.dataRegion,
      dataClassification := project.bind Project.dataClassification, title := payload.title,
      description := payload.description, status := "pending", targetRepoPath := payload.targetRepoPath }
  let inserted ← view fun d => d.tasks.insert? task
  let tasks ← Tx.expect (.integrityError "tasks.id") inserted
  modify fun d => { d with tasks := tasks }
  let runId ← uuid4
  let now ← utcnow
  addRun env { newRun runId task .created now with
    sourceRevision := payload.sourceRevision, projectId := payload.project }

/-- `RunService.create_for_task`. -/
def createForTask (env : Env) (task : Task) : Service Run := do
  let runId ← uuid4
  let now ← utcnow
  addRun env (newRun runId task .created now)

end RunService

/-- `SupplyChainService.refresh_completeness`; returns the missing types. -/
def refreshCompleteness (env : Env) (runId : String) : Service (List String) := do
  let missing := env.missingSupplyChain runId
  let run ← requireRun runId
  updateRun run.id fun run =>
    { run with supplyChainStatus := if missing = [] then "COMPLETE" else "INCOMPLETE",
               missingSupplyChainEvidence := missing }
  commit
  return missing

/-- `RunService._validate_completion`. -/
def validateCompletion (env : Env) (run : Run) : Service Unit := do
  let pack ← view fun d => (d.packs.filter fun pack => pack.runId == run.id).argmax EvidencePack.createdAt
  if pack = none then
    Tx.raise (.valueError "A run cannot complete until a hash-checked evidence pack is recorded.")
  else
    let incomplete ← view fun d => (d.listSteps run.id).filter fun step => step.status ≠ .completed
    if incomplete ≠ [] then
      Tx.raise (.valueError ("A run cannot complete while steps remain incomplete: " ++
        ", ".intercalate (incomplete.map RunStep.id)))
    else
      let missing ← refreshCompleteness env run.id
      if env.production ∧ missing ≠ [] then
        Tx.raise (.valueError ("A production run cannot complete without mandatory supply-chain evidence: " ++
          ", ".intercalate missing))
      else
        return ()

/-- The columns `transition` writes. -/
def Run.moveTo (run : Run) (status : RunStatus) (now : Nat) : Run :=
  { run with
    status := status
    updatedAt := some now
    startedAt := if status = .planning ∧ run.startedAt = none then some now else run.startedAt
    completedAt := if status = .completed ∨ status = .failed ∨ status = .cancelled then some now else none }

/-- `LifecycleMetricService.record`. -/
def recordMetric (metric runId : String) (details : Json) : Service Unit := do
  let taskId ← view fun d => (d.run? runId).map Run.taskId
  modify fun d => { d with metrics := d.metrics ++ [⟨metric, runId, taskId, details⟩] }
  commit

/-- `CredentialLeaseService._revoke_record`. -/
def CredentialLease.revoke (actor reason : String) (now : Nat) (lease : CredentialLease) : CredentialLease :=
  if lease.revokedAt = none then
    { lease with revokedAt := some now, revokedBy := some actor, revocationReason := some reason }
  else lease

/-- `CredentialLeaseService.revoke_for_job`. -/
def revokeForJob (jobId actor reason : String) : Service Unit := do
  let now ← utcnow
  modify fun d =>
    let leases := d.leases.updateWhere (fun lease => lease.jobId == jobId && lease.revokedAt.isNone)
      (CredentialLease.revoke actor reason now)
    { d with leases := leases }

/-- The jobs whose stored row satisfies the filter, as live objects. -/
def selectJobs (env : Env) (p : ExecutionJob → Bool) : Service (List ExecutionJob) := do
  autoflush env
  Tx.read fun s => (s.flushed.jobs.rows.filter p).filterMap fun row => s.working.jobs.find row.id

def updateJob (jobId : String) (f : ExecutionJob → ExecutionJob) : Service Unit :=
  modify fun d => { d with jobs := d.jobs.update jobId f }

def ExecutionJob.cancel (now : Nat) (job : ExecutionJob) : ExecutionJob :=
  { job with state := .cancelled, cancelledAt := some now, leaseOwnerId := none, leaseTokenHash := none,
             leaseExpiresAt := none, leaseHeartbeatAt := none, updatedAt := now }

namespace RunService

/-- `RunService.transition`. -/
def transition (env : Env) (runId : String) (status : RunStatus) (eventType : String)
    (actor : String := "system") (payload : Json := .obj []) (stepId : Option String := none) :
    Service Run := do
  let run ← requireRun runId
  if status ≠ run.status ∧ status ∉ allowedTransitions run.status then
    Tx.raise (.valueError ("Invalid transition: " ++ run.status.name ++ " -> " ++ status.name))
  else
    if status = .completed then validateCompletion env run else pure ()
    let now ← utcnow
    updateRun runId fun run => run.moveTo status now
    let _ ← appendEvent env run eventType actor payload stepId
    checkpoint env run ("run_transition:" ++ eventType)
    commit
    requireRun runId

/-- `RunService.add_step`. -/
def addStep (env : Env) (runId name : String) (input : Json) (idempotencyKey : String) : Service RunStep := do
  let run ← requireRun runId
  let existing ← view fun d => d.steps.rows.find? fun step =>
    step.runId == runId && step.idempotencyKey == idempotencyKey
  match existing with
  | some step => return step
  | none =>
    let sequence ← view fun d => (d.listSteps runId).length + 1
    let stepId ← uuid4
    insertStep { id := stepId, runId := runId, sequence := sequence, name := name, status := .pending,
                 idempotencyKey := idempotencyKey, input := input, output := none, retryCount := 0,
                 startedAt := none, completedAt := none }
    let _ ← appendEvent env run "StepScheduled" "system"
      (.obj [("name", .str name), ("idempotency_key", .str idempotencyKey)]) (some stepId)
    checkpoint env run ("step_scheduled:" ++ stepId)
    commit
    requireStep runId stepId

/-- `RunService.start_step`. -/
def startStep (env : Env) (runId stepId : String) : Service RunStep := do
  let run ← requireRun runId
  let step ← requireStep runId stepId
  if step.status = .running then return step
  else if step.status ≠ .pending then
    Tx.raise (.valueError ("Step " ++ stepId ++ " cannot start from " ++ step.status.name))
  else
    let now ← utcnow
    updateStep stepId fun step => { step with status := .running, startedAt := some now }
    let _ ← appendEvent env run "StepStarted" "system" (.obj [("name", .str step.name)]) (some stepId)
    commit
    requireStep runId stepId

/-- `RunService.complete_step`. -/
def completeStep (env : Env) (runId stepId : String) (output : Json) : Service RunStep := do
  let run ← requireRun runId
  let step ← requireStep runId stepId
  if step.status = .completed then return step
  else if step.status ≠ .pending ∧ step.status ≠ .running ∧ step.status ≠ .awaitingApproval then
    Tx.raise (.valueError ("Step " ++ stepId ++ " cannot complete from " ++ step.status.name))
  else
    let now ← utcnow
    updateStep stepId fun step =>
      { step with status := .completed, output := some output, completedAt := some now }
    let _ ← appendEvent env run "StepCompleted" "system" (.obj [("name", .str step.name)]) (some stepId)
    checkpoint env run ("step_completed:" ++ stepId)
    commit
    requireStep runId stepId

/-- `RunService.await_step_approval`. -/
def awaitStepApproval (env : Env) (runId stepId : String) (output : Json) : Service RunStep := do
  let run ← requireRun runId
  let step ← requireStep runId stepId
  let payload := Json.obj [("name", .str step.name), ("approval_id", output.get "sacm_approval_id")]
  if step.status = .awaitingApproval then
    updateStep stepId fun step => { step with output := some output }
    let _ ← appendEvent env run "StepApprovalRebound" "system" payload (some stepId)
    checkpoint env run ("step_approval_rebound:" ++ stepId)
    commit
    requireStep runId stepId
  else if step.status ≠ .pending ∧ step.status ≠ .running then
    Tx.raise (.valueError ("Step " ++ stepId ++ " cannot await approval from " ++ step.status.name))
  else
    updateStep stepId fun step => { step with status := .awaitingApproval, output := some output }
    let _ ← appendEvent env run "StepAwaitingApproval" "system" payload (some stepId)
    checkpoint env run ("step_awaiting_approval:" ++ stepId)
    commit
    requireStep runId stepId

/-- Commit, or only flush when the caller owns the transaction. -/
def settle (commits : Bool) : Service Unit := if commits then commit else flush

/-- `RunService.fail_step`. -/
def failStep (env : Env) (runId stepId : String) (failure : Json) (commits : Bool := true) :
    Service RunStep := do
  let run ← requireRun runId
  let step ← requireStep runId stepId
  let now ← utcnow
  updateStep stepId fun step =>
    { step with status := .failed, output := some (.obj [("failure", failure)]), completedAt := some now }
  let _ ← appendEvent env run "StepFailed" "system"
    (.obj [("name", .str step.name), ("failure", failure)]) (some stepId)
  checkpoint env run ("step_failed:" ++ stepId)
  settle commits
  requireStep runId stepId

/-- `RunService.interrupt_step`. -/
def interruptStep (env : Env) (runId stepId reason : String) (cancelled : Bool := false) :
    Service RunStep := do
  let run ← requireRun runId
  let step ← requireStep runId stepId
  if step.status = .completed ∨ step.status = .failed ∨ step.status = .cancelled ∨ step.status = .interrupted then
    return step
  else
    let now ← utcnow
    updateStep stepId fun step =>
      { step with
        status := if cancelled then .cancelled else .interrupted
        output := some (.obj [("interruption", .obj
          [("type", .str (if cancelled then "RunCancelled" else "StaleResultIgnored")),
            ("message", .str reason)])])
        completedAt := some now }
    let _ ← appendEvent env run (if cancelled then "StepCancelled" else "StepInterrupted") "system"
      (.obj [("name", .str step.name), ("reason", .str reason)]) (some stepId)
    checkpoint env run ("step_interrupted:" ++ stepId)
    commit
    recordMetric (if cancelled then "workflow.cancelled_step" else "workflow.stale_result") runId
      (.obj [("step_id", .str stepId), ("reason", .str reason)])
    requireStep runId stepId

/-- `RunService.cancel`. -/
def cancel (env : Env) (runId : String) : Service Run := do
  let run ← requireRun runId
  if run.status = .completed ∨ run.status = .cancelled then
    Tx.raise (.valueError ("Run " ++ runId ++ " cannot be cancelled from " ++ run.status.name))
  else
    if env.executionJobsAvailable then do
      let now ← utcnow
      let jobs ← selectJobs env fun job => job.runId == runId &&
        (job.state = .queued ∨ job.state = .leased ∨ job.state = .running)
      Tx.forEach jobs fun job => do
        updateJob job.id (ExecutionJob.cancel now)
        revokeForJob job.id "user" "Execution run cancelled."
    else pure ()
    updateRun runId fun run => { run with cancellationRequested := true }
    let cancelled ← transition env runId .cancelled "RunCancelled" "user"
    recordMetric "workflow.cancelled" runId (.obj [])
    return cancelled

/-- `RunService.resume`. -/
def resume (env : Env) (runId : String) : Service Run := do
  let run ← requireRun runId
  if run.status ≠ .failed then Tx.raise (.valueError "Only failed runs can be resumed.")
  else transition env runId .planning "RunResumed" "user"

/-- `RunService.retry_step`. -/
def retryStep (env : Env) (runId stepId : String) : Service RunStep := do
  let run ← requireRun runId
  let step ← requireStep runId stepId
  if step.status ≠ .failed then Tx.raise (.valueError "Only failed steps can be retried.")
  else
    updateStep stepId fun step =>
      { step with status := .pending, retryCount := step.retryCount + 1, startedAt := none, completedAt := none }
    let _ ← appendEvent env run "StepRetryScheduled" "user"
      (.obj [("name", .str step.name), ("retry_count", .int (step.retryCount + 1))]) (some stepId)
    checkpoint env run ("step_retry_scheduled:" ++ stepId)
    commit
    requireStep runId stepId

end RunService

end SacmRuntime
