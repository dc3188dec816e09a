import Mathlib.Data.List.MinMax
import Mathlib.Data.Prod.Lex
import SacmRuntime.Runtime.Contracts

namespace SacmRuntime
open Session

namespace Db

def run? (d : Db) (runId : String) : Option Run := d.runs.find runId

/-- `RunService.list_steps`. -/
def listSteps (d : Db) (runId : String) : List RunStep :=
  Table.orderBy RunStep.sequence (d.steps.rows.filter fun step => step.runId == runId)

/-- `RunService.get_step`. -/
def getStep (d : Db) (runId stepId : String) : Option RunStep :=
  (d.steps.find stepId).filter fun step => step.runId == runId

def eventsOf (d : Db) (runId : String) : List RuntimeEvent :=
  d.events.filter fun event => event.runId == runId

/-- The newest event of a run, as `order_by(sequence.desc()).first()` finds it. -/
def lastEvent (d : Db) (runId : String) : Option RuntimeEvent :=
  (d.eventsOf runId).argmax RuntimeEvent.sequence

/-- The execution plan of a task with the highest revision. -/
def latestPlan (d : Db) (taskId : String) : Option ExecutionPlan :=
  (d.plans.filter fun plan => plan.taskId == taskId).argmax ExecutionPlan.revision

end Db

/-- A query flushes pending objects first when the session autoflushes. -/
def autoflush (env : Env) : Service Unit := if env.autoflush then flush else pure ()

/-- `RunService._require`. -/
def requireRun (runId : String) : Service Run := do
  let found ← view fun d => d.run? runId
  Tx.expect (.valueError ("Run " ++ runId ++ " not found")) found

/-- The same lookup where services outside `RunService` make it. -/
def existingRun (runId : String) : Service Run := do
  let found ← view fun d => d.run? runId
  Tx.expect (.valueError ("Run " ++ runId ++ " not found.")) found

/-- `RunService._require_step`. -/
def requireStep (runId stepId : String) : Service RunStep := do
  let found ← view fun d => d.getStep runId stepId
  Tx.expect (.valueError ("Step " ++ stepId ++ " not found in run " ++ runId)) found

/-- The same lookup where services outside `RunService` make it. -/
def existingStep (runId stepId : String) : Service RunStep := do
  let found ← view fun d => d.getStep runId stepId
  Tx.expect (.valueError ("Step " ++ stepId ++ " not found for run " ++ runId ++ ".")) found

def updateRun (runId : String) (f : Run → Run) : Service Unit :=
  modify fun d => { d with runs := d.runs.update runId f }

def updateStep (stepId : String) (f : RunStep → RunStep) : Service Unit :=
  modify fun d => { d with steps := d.steps.update stepId f }

def insertRun (run : Run) : Service Unit := do
  let inserted ← view fun d => d.runs.insert? run
  let runs ← Tx.expect (.integrityError "runs.id") inserted
  modify fun d => { d with runs := runs }

def insertStep (step : RunStep) : Service Unit := do
  let inserted ← view fun d => d.steps.insert? step
  let steps ← Tx.expect (.integrityError "run_steps.id") inserted
  modify fun d => { d with steps := steps }

/-- The predecessor of the next event of a run: the highest sequence among
the newest persisted event and the events still pending in the session. -/
def previousEvent (s : Session Db) (runId : String) : Option RuntimeEvent :=
  let persistedPrevious := s.flushed.lastEvent runId
  let pending := (s.working.eventsOf runId).filter fun event => decide (event ∉ s.flushed.events)
  (persistedPrevious.toList ++ pending).argmax RuntimeEvent.sequence

/-- The event `_append_event` adds, with the record it hashes. -/
def nextEvent (env : Env) (s : Session Db) (run : Run) (eventType actor : String) (payload : Json)
    (stepId : Option String) (occurredAt : Nat) : RuntimeEvent :=
  let previous := previousEvent s run.id
  let sequence : Nat := match previous with
    | none => 1
    | some event => event.sequence + 1
  let previousHash := previous.map RuntimeEvent.eventHash
  let eventPayload := Json.obj [("run_id", .str run.id), ("step_id", .ofOption stepId),
    ("sequence", .int sequence), ("event_type", .str eventType), ("actor", .str actor),
    ("payload", payload), ("previous_event_hash", .ofOption previousHash),
    ("occurred_at", .str (isoformat occurredAt))]
  { runId := run.id, stepId := stepId, sequence := sequence, eventType := eventType, actor := actor,
    correlationId := run.id, payload := payload, dataRegion := run.dataRegion,
    dataClassification := run.dataClassification, previousEventHash := previousHash,
    eventHash := env.sha256 (eventPayload.text true), occurredAt := occurredAt }

/-- `RunService._append_event`. -/
def appendEvent (env : Env) (run : Run) (eventType actor : String) (payload : Json)
    (stepId : Option String := none) : Service RuntimeEvent := do
  autoflush env
  let occurredAt ← utcnow
  let event ← Tx.read fun s => nextEvent env s run eventType actor payload stepId occurredAt
  modify fun d => { d with events := d.events ++ [event] }
  return event

def isoOption : Option Nat → Json
  | some t => .str (isoformat t)
  | none => .null

def RunState.toJson (r : RunState) : Json :=
  .obj [("run_id", .str r.runId), ("task_id", .str r.taskId), ("status", .str r.status.name),
    ("source_revision", .ofOption r.sourceRevision), ("target_repo_path", .ofOption r.targetRepoPath),
    ("cancellation_requested", .bool r.cancellationRequested),
    ("recovery_state", r.recoveryState.getD .null),
    ("recovery_attempt_count", .int r.recoveryAttemptCount),
    ("last_failure_classification", .ofOption r.lastFailureClassification),
    ("last_recovery_action", .ofOption r.lastRecoveryAction), ("started_at", isoOption r.startedAt),
    ("completed_at", isoOption r.completedAt)]

/-- One entry of `step_state`. -/
def RunStep.toJson (step : RunStep) : Json :=
  .obj [("id", .str step.id), ("sequence", .int step.sequence), ("name", .str step.name),
    ("status", .str step.status.name), ("idempotency_key", .str step.idempotencyKey),
    ("input", step.input), ("output", step.output.getD .null), ("retry_count", .int step.retryCount),
    ("started_at", isoOption step.startedAt), ("completed_at", isoOption step.completedAt)]

def SnapshotContent.toJson (c : SnapshotContent) : Json :=
  .obj [("schema_version", .str c.schemaVersion), ("run_id", .str c.runId), ("task_id", .str c.taskId),
    ("event_sequence", .int c.eventSequence), ("event_hash", .str c.eventHash),
    ("workflow_version", .str c.workflowVersion), ("run_state", c.runState.toJson),
    ("step_state", .arr (c.stepState.map RunStep.toJson)),
    ("execution_plan_summary", c.executionPlanSummary), ("context_summary", c.contextSummary),
    ("parent_snapshot_id", .ofOption c.parentSnapshotId), ("creation_reason", .str c.creationReason)]

/-- `SnapshotService._checksum`. -/
def SnapshotContent.checksum (env : Env) (c : SnapshotContent) : String := env.sha256 (c.toJson.text true)

def ExecutionPlan.summary (plan : ExecutionPlan) : Json :=
  .obj [("id", .str plan.id), ("schema_version", .str plan.schemaVersion), ("revision", .int plan.revision),
    ("status", .str plan.status), ("source_hash", .str plan.sourceHash),
    ("application_context_id", .str plan.applicationContextId), ("step_count", .int plan.stepCount)]

/-- `SnapshotService._content`. -/
def snapshotContent (env : Env) (d : Db) (run : Run) (steps : List RunStep) (event : RuntimeEvent)
    (reason : String) (parentSnapshotId : Option String) : SnapshotContent where
  schemaVersion := "run-snapshot/v1"
  runId := run.id
  taskId := run.taskId
  eventSequence := event.sequence
  eventHash := event.eventHash
  workflowVersion := run.workflowVersion
  runState :=
    { runId := run.id, taskId := run.taskId, status := run.status, sourceRevision := run.sourceRevision,
      targetRepoPath := run.targetRepoPath, cancellationRequested := run.cancellationRequested,
      recoveryState := run.recoveryState, recoveryAttemptCount := run.recoveryAttemptCount,
      lastFailureClassification := run.lastFailureClassification,
      lastRecoveryAction := run.lastRecoveryAction, startedAt := run.startedAt,
      completedAt := run.completedAt }
  stepState := steps
  executionPlanSummary := ((d.latestPlan run.taskId).map ExecutionPlan.summary).getD .null
  contextSummary := env.runContext d run
  parentSnapshotId := parentSnapshotId
  creationReason := reason

/-- The newest snapshot of a run below the given event sequence. -/
def parentSnapshot (d : Db) (runId : String) (sequence : Nat) : Option RunSnapshot :=
  (d.snapshots.filter fun snapshot =>
    snapshot.content.runId == runId && decide (snapshot.content.eventSequence < sequence)).argmax
      fun snapshot => toLex (snapshot.content.eventSequence, snapshot.createdAt)

/-- `SnapshotService.create`. -/
def createSnapshot (env : Env) (runId reason : String) : Service RunSnapshot := do
  let run ← requireRun runId
  let steps ← view fun d => d.listSteps runId
  if steps.any fun step => step.status = .running then
    Tx.raise (.valueError "A snapshot cannot be created while a step is running.")
  else
    flush
    let newest ← Tx.read fun s => s.flushed.lastEvent runId
    let event ← Tx.expect (.valueError "A run snapshot requires at least one persisted event.") newest
    let parent ← view fun d => parentSnapshot d runId event.sequence
    let content ← view fun d => snapshotContent env d run steps event reason (parent.map RunSnapshot.id)
    let checksum := content.checksum env
    let existing ← view fun d => d.snapshots.find? fun snapshot =>
      snapshot.content.runId == runId && snapshot.checksum == checksum
    match existing with
    | some snapshot => return snapshot
    | none =>
      let createdAt ← utcnow
      let snapshot : RunSnapshot :=
        { id := env.uuid5 ("https://sacm.dev/snapshots/" ++ runId ++ "/" ++ checksum),
          organizationId := run.organizationId, projectId := run.projectId, checksum := checksum,
          content := content, createdAt := createdAt }
      modify fun d => { d with snapshots := d.snapshots ++ [snapshot] }
      flush
      return snapshot

/-- `RunService._checkpoint`. -/
def checkpoint (env : Env) (run : Run) (reason : String) : Service Unit :=
  if env.snapshotsAvailable then do
    flush
    let steps ← view fun d => d.listSteps run.id
    if steps.any fun step => step.status = .running then
      return ()
    else
      let _ ← createSnapshot env run.id reason
      return ()
  else pure ()

end SacmRuntime
