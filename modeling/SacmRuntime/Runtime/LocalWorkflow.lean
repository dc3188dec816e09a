import SacmRuntime.Runtime.ExternalAgentService

namespace SacmRuntime
open Session

/-- `exc.__class__.__name__`. -/
def Error.className : Error → String
  | .valueError _ => "ValueError"
  | .keyError _ => "KeyError"
  | .permissionError _ => "PermissionError"
  | .integrityError _ => "IntegrityError"
  | .executionConflict _ => "ExecutionConflict"
  | .executorAuthenticationError _ => "ExecutorAuthenticationError"
  | .executionAuthorizationError _ => "ExecutionAuthorizationError"
  | .attributeError _ => "AttributeError"
  | .runtimeError _ => "RuntimeError"
  | .other className _ => className

/-- `str(exc)`; a `KeyError` shows its key quoted. -/
def Error.text : Error → String
  | .keyError key => "'" ++ key ++ "'"
  | .valueError message | .permissionError message | .integrityError message | .executionConflict message
  | .executorAuthenticationError message | .executionAuthorizationError message | .attributeError message
  | .runtimeError message | .other _ message => message

/-- Replace the rows a table holds by their stored versions; pending rows stay. -/
def Table.refresh {ρ : Type} [Keyed ρ] (stored held : Table ρ) : Table ρ :=
  held.updateWhere (fun row => (stored.find (Keyed.key row)).isSome) fun row =>
    (stored.find (Keyed.key row)).getD row

/-- The session after unflushed changes of persistent objects were dropped. -/
def Session.expired (s : Session Db) : Session Db :=
  { s with working :=
      { s.working with
        projects := s.flushed.projects.refresh s.working.projects
        tasks := s.flushed.tasks.refresh s.working.tasks
        runs := s.flushed.runs.refresh s.working.runs
        steps := s.flushed.steps.refresh s.working.steps
        approvals := s.flushed.approvals.refresh s.working.approvals
        executors := s.flushed.executors.refresh s.working.executors
        jobs := s.flushed.jobs.refresh s.working.jobs
        leases := s.flushed.leases.refresh s.working.leases } }

/-- `Session.expire_all`. -/
def expireAll : Service Unit := Tx.shift Session.expired

/-- One call of a service outside this model: how it ends, the evidence packs
it stores, what else it writes, and whether it has committed that. -/
structure Call (α : Type) where
  result : Except Error α
  packs : List EvidencePack
  writes : Db → Db
  commits : Bool

def Call.play {α : Type} (call : Call α) : Service α := do
  modify fun d => { call.writes d with packs := (call.writes d).packs ++ call.packs }
  if call.commits then commit else pure ()
  Tx.ofExcept call.result

inductive VerificationStatus where
  | valid | invalid | unsigned
  deriving DecidableEq

/-- What `EvidenceService.verify` reports. -/
structure VerificationResultV1 where
  status : VerificationStatus
  errors : List String

/-- What the orchestrator and the evidence service do during one round of
the retry loop: `run_task`, then `build` and `verify` before and after the
run completes. -/
structure Attempt where
  runTask : Call Json
  build : Call EvidencePack
  verify : Call VerificationResultV1
  finalBuild : Call EvidencePack
  finalVerify : Call VerificationResultV1

namespace LocalWorkflow

def stepKey (runId : String) : String := runId ++ ":legacy-orchestrator"

/-- `self.runs.get(run_id)` where the run has to be there still. -/
def currentRun (runId : String) : Service Run := do
  let found ← view fun d => d.run? runId
  Tx.expect (.valueError ("Run " ++ runId ++ " disappeared during execution")) found

/-- The guards of `execute` and the transition that starts the run. -/
def startRun (env : Env) (runId : String) : Service Run := do
  let run ← requireRun runId
  if run.cancellationRequested ∨ run.status = .cancelled then
    Tx.raise (.valueError ("Run " ++ runId ++ " is cancelled"))
  else if run.status = .created then RunService.transition env runId .planning "RunStarted"
  else if run.status = .failed then RunService.resume env runId
  else if run.status ≠ .planning ∧ run.status ≠ .fixing ∧ run.status ≠ .implementing then
    Tx.raise (.valueError ("Run " ++ runId ++ " cannot execute from " ++ run.status.name))
  else return run

def escalatedResult (runId : String) (error : Json) (decision : RecoveryDecisionV1) : Json :=
  .obj [("run_id", .str runId), ("status", .str "FAILED"), ("error", error), ("recovery", decision.modelDump)]

/-- The head of the loop: a step left FAILED by an earlier call goes through
recovery first. -/
def recoverFailed (env : Env) (runId : String) (step : RunStep) : Service (Json ⊕ RunStep) :=
  if step.status = .failed then do
    let failure := ((step.output.getD .null).get "failure").orElse
      (.obj [("type", .str "PreviousExecutionFailure"),
        ("message", .str "Retrying a previously failed workflow step.")])
    let (recovered, _, decision) ← RecoveryService.handle env runId step.id failure
    if decision.status = .escalated then do
      let message ← Tx.expect (.keyError "message") (failure.field? "message")
      return .inl (escalatedResult runId message decision)
    else return .inr recovered
  else pure (.inr step)

/-- Start the step and the run; the run returned is the one later states are
compared with. -/
def beginAttempt (env : Env) (runId stepId : String) : Service Run := do
  let _ ← RunService.startStep env runId stepId
  let current ← currentRun runId
  if current.status ≠ .implementing then do
    let _ ← RunService.transition env runId .implementing "WorkflowImplementing" "system" (.obj []) (some stepId)
    pure ()
  else pure ()
  expireAll
  currentRun runId

/-- `current_run.status != expected_run_status or current_run.updated_at != expected_run_updated_at`. -/
def changed (expected current : Run) : Bool :=
  current.status ≠ expected.status ∨ current.updatedAt ≠ expected.updatedAt

def newestPack (d : Db) (runId : String) : Option EvidencePack :=
  (d.packs.filter fun pack => pack.runId == runId).argmax fun pack => toLex (pack.createdAt, pack.id)

def completedResult (runId : String) (completed : Run) (output : Json) (analyticsError : Option String) : Json :=
  .obj [("run_id", .str runId), ("status", .str completed.status.name), ("output", output),
    ("analytics", match analyticsError with
      | some error => .obj [("status", .str "FAILED"), ("error", .str error)]
      | none => .obj [("status", .str "COMPLETED")])]

/-- The part of the `try` block from the verification of the evidence pack on. -/
def completeRun (env : Env) (runId stepId : String) (attempt : Attempt) (output : Json) : Service Json := do
  let verification ← attempt.verify.play
  if verification.status = .invalid then
    Tx.raise (.runtimeError ("Evidence Pack integrity verification failed: " ++
      "; ".intercalate verification.errors))
  else
    let completed ← RunService.transition env runId .completed "RunCompleted" "system" (.obj []) (some stepId)
    let _ ← attempt.finalBuild.play
    let final ← attempt.finalVerify.play
    if final.status = .invalid then
      Tx.raise (.runtimeError ("Final Evidence Pack integrity verification failed: " ++
        "; ".intercalate final.errors))
    else
      let analyticsError ← ExternalAgentService.refreshAnalytics env runId
      return completedResult runId completed output analyticsError

/-- The part of the `try` block from `complete_step` on. -/
def deliver (env : Env) (runId stepId : String) (attempt : Attempt) (output : Json) : Service Json := do
  let _ ← RunService.completeStep env runId stepId output
  let _ ← RunService.transition env runId .reviewing "WorkflowReviewing" "system" (.obj []) (some stepId)
  let _ ← RunService.transition env runId .testing "WorkflowTesting" "system" (.obj []) (some stepId)
  let _ ← RunService.transition env runId .delivering "WorkflowDelivering" "system" (.obj []) (some stepId)
  let stored ← Tx.read fun s => newestPack s.flushed runId
  if stored.isSome then completeRun env runId stepId attempt output
  else
    let _ ← attempt.build.play
    completeRun env runId stepId attempt output

/-- The branch for a task whose own recovery escalated. -/
def escalate (env : Env) (runId stepId : String) (recovery : Json) : Service Json := do
  let failure := (recovery.get "failure").orElse
    (.obj [("type", .str "TaskRecoveryEscalated"), ("message", .str "Task-level autonomous recovery escalated."),
      ("retryable", .bool false)])
  let _ ← RunService.failStep env runId stepId failure
  let (_, _, decision) ← RecoveryService.handle env runId stepId failure (some .escalate)
  let message ← Tx.expect (.keyError "message") (failure.field? "message")
  return escalatedResult runId message decision

/-- The `try` block of `execute`. -/
def tryAttempt (env : Env) (runId stepId : String) (expected : Run) (attempt : Attempt) : Service Json := do
  let output ← attempt.runTask.play
  expireAll
  let current ← currentRun runId
  if current.cancellationRequested ∨ current.status = .cancelled then
    let _ ← RunService.interruptStep env runId stepId "Run was cancelled while the orchestrator was executing." true
    return .obj [("run_id", .str runId), ("status", .str current.status.name)]
  else if changed expected current then
    let _ ← RunService.interruptStep env runId stepId "The run changed while the orchestrator was executing."
    return .obj [("run_id", .str runId), ("status", .str current.status.name), ("output", output),
      ("stale_result_ignored", .bool true)]
  else
    let status ← Tx.expect (.keyError "status") (output.field? "status")
    if status ≠ .str "done" then
      let recovery := (output.get "recovery").orElse (.obj [])
      let decision := (recovery.get "decision").orElse (.obj [])
      if decision.get "status" = .str "ESCALATED" then escalate env runId stepId recovery
      else Tx.raise (.runtimeError "The orchestrator did not produce a verified completed task.")
    else deliver env runId stepId attempt output

/-- The result of a call that takes the run to have moved on without it. -/
def staleResult (runId : String) (current : Run) (error : Error) : Json :=
  .obj [("run_id", .str runId), ("status", .str current.status.name), ("error", .str error.text),
    ("stale_result_ignored", .bool true)]

/-- The `except` block of `execute`. -/
def onException (env : Env) (runId stepId : String) (expected : Run) (error : Error) :
    Service (Json ⊕ RunStep) := do
  expireAll
  let current ← currentRun runId
  if current.cancellationRequested ∨ current.status = .cancelled then
    let _ ← RunService.interruptStep env runId stepId "Run was cancelled while the orchestrator was executing." true
    return .inl (staleResult runId current error)
  else if changed expected current then
    let _ ← RunService.interruptStep env runId stepId "The run changed while the orchestrator was executing."
    return .inl (staleResult runId current error)
  else
    let failure := Json.obj [("type", .str error.className), ("message", .str error.text)]
    let _ ← RunService.failStep env runId stepId failure
    let (recovered, _, decision) ← RecoveryService.handle env runId stepId failure
    if decision.status = .escalated then return .inl (escalatedResult runId (.str error.text) decision)
    else return .inr recovered

/-- One round of the retry loop: a result, or the step to try again. -/
def tryStep (env : Env) (runId : String) (step : RunStep) (attempt : Attempt) : Service (Json ⊕ RunStep) := do
  let expected ← beginAttempt env runId step.id
  Tx.catchRaise
    (do
      let result ← tryAttempt env runId step.id expected attempt
      return .inl result)
    (onException env runId step.id expected)

/-- The retry loop, one round for each attempt. It returns its result with
the attempts that were not made, or nothing when the attempts run out. -/
def retryLoop (env : Env) (runId : String) : List Attempt → RunStep → Service (Option (Json × List Attempt))
  | [], step => do
    let head ← recoverFailed env runId step
    match head with
    | .inl result => return some (result, [])
    | .inr _ => return none
  | attempt :: rest, step => do
    let head ← recoverFailed env runId step
    match head with
    | .inl result => return some (result, attempt :: rest)
    | .inr step =>
      let outcome ← tryStep env runId step attempt
      match outcome with
      | .inl result => return some (result, rest)
      | .inr next => retryLoop env runId rest next

/-- `LocalWorkflow.execute`. -/
def execute (env : Env) (runId : String) (attempts : List Attempt) : Service (Option (Json × List Attempt)) := do
  let run ← startRun env runId
  let step ← RunService.addStep env runId "legacy-orchestrator" (.obj [("task_id", .str run.taskId)]) (stepKey runId)
  retryLoop env runId attempts step

end LocalWorkflow

end SacmRuntime
