import SacmRuntime.Runtime.RunService

namespace SacmRuntime
open Session

/-- `recovery_state` as `schedule_recovery` rewrites it. -/
def recoveryState (run : Run) (stepId : String) (failure : Json) (decision : RecoveryDecisionV1)
    (recordedAt : Nat) : Json :=
  let history := ((run.recoveryState.getD .null).get "history").items ++
    [.obj [("attempt", .int decision.attempt), ("step_id", .str stepId), ("failure", failure),
      ("decision", decision.modelDump), ("recorded_at", .str (isoformat recordedAt))]]
  .obj [("schema_version", .str "recovery-state/v1"), ("status", .str decision.status.name),
    ("attempt_count", .int decision.attempt), ("last_step_id", .str stepId), ("last_failure", failure),
    ("last_decision", decision.modelDump), ("history", .arr history)]

/-- `step.input_` with the recovery context added. -/
def recoveryInput (input failure : Json) (decision : RecoveryDecisionV1) : Json :=
  let recovery := Json.obj [("failure", failure), ("decision", decision.modelDump)]
  let task := input.get "agent_task"
  if task.truthy then
    let context := (task.get "execution_context").orElse (.obj [])
    input.set "agent_task" (task.set "execution_context" (context.set "recovery" recovery))
  else input.set "recovery" recovery

def RunStep.recover (failure : Json) (decision : RecoveryDecisionV1) (step : RunStep) : RunStep :=
  { step with
    input := recoveryInput step.input failure decision
    status := .pending
    retryCount := step.retryCount + 1
    startedAt := none
    completedAt := none
    output := some (.obj [("last_failure", failure), ("recovery", decision.modelDump)]) }

namespace RunService

/-- `RunService.schedule_recovery`. It assigns `run.status` itself. -/
def scheduleRecovery (env : Env) (runId stepId : String) (failure : Json) (decision : RecoveryDecisionV1)
    (commits : Bool := true) : Service RunStep := do
  let run ← requireRun runId
  let step ← requireStep runId stepId
  if step.status ≠ .failed then Tx.raise (.valueError "Recovery requires a failed step.")
  else
    let recordedAt ← utcnow
    let classification ← Tx.expect (.keyError "classification") (failure.field? "classification")
    updateRun runId fun run =>
      { run with
        recoveryAttemptCount := decision.attempt
        lastFailureClassification := classification.str?
        lastRecoveryAction := some decision.action.value
        recoveryState := some (recoveryState run stepId failure decision recordedAt) }
    let _ ← appendEvent env run "FailureClassified" "system" failure (some stepId)
    let _ ← appendEvent env run "RecoveryPlanned" "system" decision.modelDump (some stepId)
    let now ← utcnow
    if decision.status = .escalated then do
      updateRun runId fun run => { run with status := .failed, completedAt := some now }
      let _ ← appendEvent env run "RecoveryEscalated" "system" decision.modelDump (some stepId)
      pure ()
    else do
      updateStep stepId (RunStep.recover failure decision)
      updateRun runId fun run => { run with status := decision.targetRunStatus, completedAt := none }
      let _ ← appendEvent env run "RecoveryScheduled" "system"
        (decision.modelDump.merge (.obj [("step_name", .str step.name),
          ("retry_count", .int (step.retryCount + 1))])) (some stepId)
      pure ()
    updateRun runId fun run => { run with updatedAt := some now }
    checkpoint env run ("recovery:" ++ decision.action.value.toLower)
    settle commits
    requireStep runId stepId

/-- `RunService.recover_interrupted`. -/
def recoverInterrupted (env : Env) (runId : String) : Service Run := do
  let run ← requireRun runId
  let interrupted ← view fun d => (d.listSteps runId).filter fun step => step.status = .running
  if interrupted = [] then return run
  else
    Tx.forEach interrupted fun step => do
      let _ ← failStep env runId step.id (.obj [("type", .str "ProcessInterrupted"),
        ("message", .str "The runtime restarted while this step was running.")])
      pure ()
    if run.status ≠ .failed ∧ run.status ≠ .cancelled ∧ run.status ≠ .completed then
      transition env runId .failed "RunRecoveryDetected" "system"
        (.obj [("interrupted_step_ids", .ofStrings (interrupted.map RunStep.id))])
    else requireRun runId

end RunService

namespace RecoveryService

/-- `_ACTION_BY_FAILURE`. -/
def actionByFailure : FailureClassification → RecoveryAction
  | .compilation => .repairCode
  | .testRegression => .debug
  | .wrongAssumption => .replan
  | .missingContext => .expandContext
  | .architectureMismatch => .replan
  | .badPlan => .replan
  | .apiIncompatibility => .repairCode
  | .environment => .retry
  | .toolFailure => .retry
  | .modelStuck => .switchModel

/-- `_TARGET_BY_ACTION`. -/
def targetByAction : RecoveryAction → RunStatus
  | .repairCode => .fixing
  | .debug => .fixing
  | .replan => .planning
  | .expandContext => .planning
  | .switchModel => .planning
  | .retry => .implementing
  | .escalate => .failed

/-- `RecoveryService._repeated_identical_patch`. -/
def repeatedIdenticalPatch (history : List Json) (failure : FailureReportV1) : Bool :=
  let patchHash := failure.details.get "patch_hash"
  let fingerprint := Json.ofOption failure.diagnosisFingerprint
  if !patchHash.truthy || !fingerprint.truthy then false
  else history.any fun item =>
    decide ((item.get "failure").get "diagnosis_fingerprint" = fingerprint) &&
      decide (((item.get "failure").get "details").get "patch_hash" = patchHash)

/-- `RecoveryService._instructions`. -/
def instructions (action : RecoveryAction) (failure : FailureReportV1) : List String :=
  (match action with
  | .repairCode => ["Use the diagnostics to produce the smallest compatible code repair.",
      "Add or update a regression test before resubmitting."]
  | .debug => ["Reproduce the failure and isolate its root cause before editing.",
      "Return the reproducer and the passing regression test as evidence."]
  | .replan => ["Discard assumptions invalidated by the failure.",
      "Produce a revised plan linked to the acceptance criteria."]
  | .expandContext => ["Request the missing symbols, callers, tests, and contracts.",
      "Do not modify code until the context gap is resolved."]
  | .switchModel => ["Route the retry to a different model family.",
      "Include the previous failed approach as negative evidence."]
  | .retry => ["Retry only after validating the execution environment and tools."]
  | .escalate => ["Stop autonomous execution and request human intervention."]) ++
    ["Failure: " ++ failure.message]

/-- `RecoveryService.decide_for_attempt`. -/
def decideForAttempt (env : Env) (failure : FailureReportV1) (attemptCount : Int) (history : List Json)
    (requestedAction : Option RecoveryAction) : Except Error RecoveryDecisionV1 :=
  if env.maxRecoveryAttempts < 0 then
    .error (.valueError "SACM_MAX_RECOVERY_ATTEMPTS cannot be negative.")
  else if ¬(0 ≤ env.minimumConfidence ∧ env.minimumConfidence ≤ 1) then
    .error (.valueError "SACM_DIAGNOSTIC_MIN_CONFIDENCE must be between 0 and 1.")
  else if attemptCount < 0 then
    .error (.valueError "Recovery attempt count cannot be negative.")
  else
    let attempt := attemptCount + 1
    let repeated := repeatedIdenticalPatch history failure
    let confidenceBlock : Bool :=
      requestedAction.isNone && decide (failure.confidence.value < env.minimumConfidence)
    let action : RecoveryAction :=
      if attempt > env.maxRecoveryAttempts || !failure.retryable || confidenceBlock || repeated then .escalate
      else requestedAction.getD (actionByFailure failure.classification)
    let reason :=
      if attempt > env.maxRecoveryAttempts then
        "Recovery attempt budget exhausted (" ++ toString env.maxRecoveryAttempts ++ ")."
      else if !failure.retryable then "Failure is explicitly non-retryable."
      else if confidenceBlock then
        "Diagnostic confidence " ++ fixed3 failure.confidence.value ++
          " is below the autonomous threshold " ++ fixed3 env.minimumConfidence ++ "."
      else if repeated then "The same patch and root cause already failed; retry is blocked."
      else failure.classification.value ++ " maps to " ++ action.value ++ "."
    .ok { action := action
          status := if action = .escalate then .escalated else .scheduled
          reason := reason
          attempt := attempt
          maxAttempts := env.maxRecoveryAttempts
          targetRunStatus := targetByAction action
          instructions := instructions action failure }

/-- `RecoveryService.decide`. -/
def decide (env : Env) (run : Run) (failure : FailureReportV1) (requestedAction : Option RecoveryAction) :
    Except Error RecoveryDecisionV1 :=
  decideForAttempt env failure run.recoveryAttemptCount ((run.recoveryState.getD .null).get "history").items
    requestedAction

/-- The reasons for which no recovery is scheduled, whatever action is asked for. -/
def blocked (env : Env) (failure : FailureReportV1) (attemptCount : Int) (history : List Json)
    (requestedAction : Option RecoveryAction) : Bool :=
  attemptCount + 1 > env.maxRecoveryAttempts || !failure.retryable ||
    (requestedAction.isNone && Decidable.decide (failure.confidence.value < env.minimumConfidence)) ||
    repeatedIdenticalPatch history failure

structure Decided (env : Env) (failure : FailureReportV1) (attemptCount : Int) (history : List Json)
    (requestedAction : Option RecoveryAction) (decision : RecoveryDecisionV1) : Prop where
  counted : 0 ≤ attemptCount
  attempt : decision.attempt = attemptCount + 1
  action : decision.action = if blocked env failure attemptCount history requestedAction then .escalate
    else requestedAction.getD (actionByFailure failure.classification)
  status : decision.status = if decision.action = .escalate then .escalated else .scheduled
  target : decision.targetRunStatus = targetByAction decision.action

theorem decided_of_decide {env : Env} {run : Run} {failure : FailureReportV1}
    {requestedAction : Option RecoveryAction} {decision : RecoveryDecisionV1}
    (decides : decide env run failure requestedAction = .ok decision) :
    Decided env failure run.recoveryAttemptCount ((run.recoveryState.getD .null).get "history").items
      requestedAction decision := by
  unfold decide decideForAttempt at decides
  split at decides
  · cases decides
  split at decides
  · cases decides
  split at decides
  · cases decides
  · cases decides
    rename_i nonnegative
    exact ⟨by omega, rfl, rfl, rfl, rfl⟩

/-- `RecoveryService.handle`. -/
def handle (env : Env) (runId stepId : String) (failure : Json)
    (requestedAction : Option RecoveryAction := none) (commits : Bool := true) :
    Service (RunStep × FailureReportV1 × RecoveryDecisionV1) := do
  let run ← existingRun runId
  let step ← existingStep runId stepId
  if step.status ≠ .failed then Tx.raise (.valueError "Recovery requires a failed step.")
  else
    let report ← Tx.ofExcept (env.diagnose failure)
    let decision ← Tx.ofExcept (decide env run report requestedAction)
    let recovered ← RunService.scheduleRecovery env runId stepId report.modelDump decision commits
    if commits then
      recordMetric "workflow.recovery_decision" runId
        (.obj [("step_id", .str stepId), ("classification", .str report.classification.value),
          ("action", .str decision.action.value), ("status", .str decision.status.name),
          ("attempt", .int decision.attempt)])
    else pure ()
    return (recovered, report, decision)

end RecoveryService

end SacmRuntime
