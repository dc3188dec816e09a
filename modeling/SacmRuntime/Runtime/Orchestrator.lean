import SacmRuntime.Runtime.Contracts
import SacmRuntime.Runtime.Verifier

namespace SacmRuntime
namespace Orchestrator

/-- The columns of a task row that the orchestrator checks and writes. -/
structure TaskState where
  status : String
  updatedAt : Nat
  deriving DecidableEq

/-- The places where the orchestrator updates the status. -/
inductive Site where
  | start | step | repair
  deriving DecidableEq

/-- What happens to the task row during a call, and what its steps found. -/
inductive Entry where
  | changed (row : Option TaskState)
  | started
  | read (row : Option TaskState)
  | verified (matrix : VerificationMatrixV2)
  | wrote (site : Site) (before : TaskState) (status : String)

/-- The task row, what others will have done to it at each access, the clock,
and the course of the call so far, latest entry first. -/
structure World where
  row : Option TaskState
  others : Nat → Option TaskState → Option TaskState
  clock : Nat → Nat
  log : List Entry

abbrev Method (α : Type) : Type := Tx World Error α

/-- The world when the orchestrator next looks: the others were there first. -/
def World.interrupted (w : World) : World :=
  { w with
    row := w.others 0 w.row
    others := fun n => w.others (n + 1)
    log := if w.others 0 w.row = w.row then w.log else .changed (w.others 0 w.row) :: w.log }

def World.logged (w : World) (entry : Entry) : World := { w with log := entry :: w.log }

def note (entry : Entry) : Method Unit := Tx.shift fun w => w.logged entry

/-- `TaskService.get`. -/
def get : Method (Option TaskState) := fun w =>
  (.ok w.interrupted.row, w.interrupted.logged (.read w.interrupted.row))

def matchesRow (expectedStatus : Option String) (expectedUpdatedAt : Option Nat) (row : TaskState) : Bool :=
  expectedStatus.all (· == row.status) && expectedUpdatedAt.all (· == row.updatedAt)

/-- `TaskService.is_current`. -/
def isCurrent (expectedStatus : String) (expectedUpdatedAt : Nat) : Method Bool := fun w =>
  (.ok (w.interrupted.row.any (matchesRow (some expectedStatus) (some expectedUpdatedAt))), w.interrupted)

/-- `TaskService.update_status`. -/
def updateStatus (site : Site) (status : String) (expectedStatus : Option String) (expectedUpdatedAt : Option Nat) :
    Method Bool := fun w =>
  let w := { w.interrupted with clock := fun n => w.clock (n + 1) }
  match w.row with
  | some row =>
    if matchesRow expectedStatus expectedUpdatedAt row then
      (.ok true, { w with row := some ⟨status, w.clock 0⟩ }.logged (.wrote site row status))
    else (.ok false, w)
  | none => (.ok false, w)

/-- What the other services answer in one step of the loop. -/
structure StepServices where
  agent : Except Error AgentResult
  recorded : Except Error Unit
  evaluated : Except Error VerificationMatrixV2
  saved : Except Error Unit
  provisional : Except Error String
  final : Except Error String
  observed : Except Error Unit
  publish : Except Error Json
  delivered : Except Error Unit
  recovery : Except Error (Option (RecoveryAction × Json))

/-- What the other services answer in a call of `run_task`. -/
structure Services where
  focused : Bool
  acquired : Except Error Unit
  prepared : Except Error Unit
  steps : Nat → StepServices
  lastEvents : Except Error (List Json)
  finished : Except Error Unit
  released : Except Error Unit

/-- The verification of a step: the matrix, and for a technically complete run
the two evidence packs that finalize it. -/
def verification (services : StepServices) (runId : Option String) : Except Error VerificationMatrixV2 := do
  let matrix ← services.evaluated
  services.saved
  if matrix.strict && matrix.technicalComplete && runId.isSome then do
    let provisional ← services.provisional
    let finalized := Verifier.finalizeEvidence matrix (provisional != "INVALID")
    if finalized.complete then do
      let final ← services.final
      .ok (if final = "INVALID" then Verifier.finalizeEvidence finalized false else finalized)
    else .ok finalized
  else .ok matrix

/-- `_unverified_next_state`. -/
def unverifiedNextState (hint : String) : String := if hint = "done" then "testing" else hint

def recoveryPhase : RecoveryAction → String
  | .repairCode => "coding"
  | .debug => "debugging"
  | .replan => "planning"
  | .expandContext => "planning"
  | .switchModel => "planning"
  | .retry => "coding"
  | .escalate => "blocked"

structure Progress where
  stepsTaken : Nat
  verificationComplete : Bool
  deliveryResult : Option Json
  lastRecovery : Option Json

def required (updated : Bool) (message : String) : Method Unit :=
  Tx.ofExcept (if updated then .ok () else .error (.runtimeError message))

/-- The end of a step, after its verification: the task is done, recovers, or
goes to its next phase. -/
def settle (taskId : String) (services : StepServices) (task : TaskState) (result : AgentResult) (complete : Bool)
    (progress : Progress) : Method (Progress × Bool) := do
  if complete then do
    let delivery ← Tx.ofExcept services.publish
    Tx.ofExcept services.delivered
    let updated ← updateStatus .step "done" (some task.status) (some task.updatedAt)
    required updated
      ("Task " ++ taskId ++ " changed before verified completion; the stale orchestrator result was not applied.")
    pure ({ progress with deliveryResult := some delivery }, false)
  else do
    let recovery ← Tx.ofExcept services.recovery
    match recovery with
    | some (action, payload) => do
      let updated ← updateStatus .step (recoveryPhase action) (some task.status) (some task.updatedAt)
      required updated ("Task " ++ taskId ++ (if action = .escalate then " changed before recovery escalation"
        else " changed before recovery transition") ++ "; the stale orchestrator result was not applied.")
      pure ({ progress with lastRecovery := some payload }, action ≠ .escalate)
    | none =>
      if result.nextStateHint = "" then pure (progress, true)
      else do
        let updated ← updateStatus .step (unverifiedNextState result.nextStateHint) (some task.status)
          (some task.updatedAt)
        required updated
          ("Task " ++ taskId ++ " changed before phase transition; the stale orchestrator result was not applied.")
        pure (progress, true)

/-- One step of the loop, and whether another may follow it. -/
def step (taskId : String) (runId : Option String) (services : StepServices) (index : Nat) (progress : Progress) :
    Method (Progress × Bool) := do
  note .started
  let found ← get
  let task ← Tx.expect (.valueError ("Task " ++ taskId ++ " not found during execution")) found
  let result ← Tx.ofExcept services.agent
  let current ← isCurrent task.status task.updatedAt
  required current
    ("Task " ++ taskId ++ " changed during agent execution; the stale orchestrator result was not applied.")
  Tx.ofExcept services.recorded
  let matrix ← Tx.ofExcept (verification services runId)
  note (.verified matrix)
  Tx.ofExcept services.observed
  settle taskId services task result matrix.complete
    { progress with stepsTaken := index + 1, verificationComplete := matrix.complete }

def loop (taskId : String) (runId : Option String) (services : Nat → StepServices) :
    Nat → Nat → Progress → Method Progress
  | 0, _, progress => pure progress
  | left + 1, index, progress => do
    let next ← step taskId runId (services index) index progress
    if next.2 then loop taskId runId services left (index + 1) next.1 else pure next.1

structure Response where
  taskId : String
  status : String
  steps : Nat
  lastEvents : List Json
  deliveryStatus : Option Json
  delivery : Option Json
  recovery : Option Json

/-- The response of a call that ends with the task in the given status. -/
def respond (taskId status : String) (events : List Json) (progress : Progress) : Response where
  taskId := taskId
  status := status
  steps := progress.stepsTaken
  lastEvents := events
  deliveryStatus := (progress.deliveryResult.filter Json.truthy).map (·.get "status")
  delivery := progress.deliveryResult
  recovery := progress.lastRecovery.filter Json.truthy

/-- The end of `_run_task_locked`: nothing that is not verified stays done. -/
def conclude (taskId : String) (services : Services) (progress : Progress) : Method Response := do
  let found ← get
  let task ← Tx.expect (.valueError ("Task " ++ taskId ++ " missing after execution")) found
  if task.status = "done" ∧ progress.verificationComplete = false then do
    let repaired ← updateStatus .repair "testing" (some task.status) (some task.updatedAt)
    required repaired ("Task " ++ taskId ++ " changed while preventing unverified completion.")
    let again ← get
    let task ← Tx.expect (.valueError ("Task " ++ taskId ++ " missing after execution")) again
    let events ← Tx.ofExcept services.lastEvents
    pure (respond taskId task.status events progress)
  else do
    let events ← Tx.ofExcept services.lastEvents
    pure (respond taskId task.status events progress)

def startPlanning (taskId : String) (task : TaskState) : Method Unit :=
  if task.status = "pending" then do
    let initialized ← updateStatus .start "planning" (some task.status) (some task.updatedAt)
    required initialized ("Task " ++ taskId ++ " changed while the orchestrator was starting.")
  else pure ()

/-- `_run_task_locked`. -/
def runTaskLocked (taskId : String) (runId : Option String) (recoveryContext : Option Json) (services : Services)
    (maxSteps : Nat) : Method Response := do
  let found ← get
  let task ← Tx.expect (.valueError ("Task " ++ taskId ++ " not found")) found
  startPlanning taskId task
  Tx.ofExcept services.prepared
  let progress ← loop taskId runId services.steps maxSteps 0 ⟨0, false, none, recoveryContext⟩
  conclude taskId services progress

/-- The step budget `TaskExecutionAssessmentService.assess` grants. -/
def assess (services : Services) (maxSteps : Int) : Except Error Nat :=
  if maxSteps < 1 then .error (.valueError "requested_max_steps must be positive.")
  else .ok (if services.focused then min maxSteps 2 else maxSteps).toNat

/-- `run_task`. -/
def runTask (taskId : String) (maxSteps : Int) (runId : Option String) (recoveryContext : Option Json)
    (services : Services) : Method Response := do
  let found ← get
  let _ ← Tx.expect (.valueError ("Task " ++ taskId ++ " not found")) found
  let budget ← Tx.ofExcept (assess services maxSteps)
  Tx.ofExcept services.acquired
  let response ← Tx.onRaise (do
    let response ← runTaskLocked taskId runId recoveryContext services budget
    Tx.ofExcept services.finished
    pure response) (Tx.void get)
  Tx.ofExcept services.released
  pure response

end Orchestrator
end SacmRuntime
