import SacmRuntime.Runtime.RunService

namespace SacmRuntime
open Session

/-- The loop of `str.replace` for a pattern that is not empty; `skip`
characters of the occurrence just replaced are still to be passed over. -/
def replaceChars (old new : List Char) : Nat → List Char → List Char
  | _, [] => []
  | skip + 1, _ :: rest => replaceChars old new skip rest
  | 0, c :: rest =>
    if old.isPrefixOf (c :: rest) then new ++ replaceChars old new (old.length - 1) rest
    else c :: replaceChars old new 0 rest

/-- `text.replace(old, new)`. -/
def pyReplace (text old new : String) : String :=
  if old = "" then String.ofList (new.toList ++ text.toList.flatMap fun c => c :: new.toList)
  else String.ofList (replaceChars old.toList new.toList 0 text.toList)

namespace SnapshotService

/-- The hash `_validate_event_chain` expects of a stored event. The record
is built here a second time, apart from the one `_append_event` hashes. -/
def expectedHash (env : Env) (runId : String) (event : RuntimeEvent) : String :=
  let payload := Json.obj [("run_id", .str runId), ("step_id", .ofOption event.stepId),
    ("sequence", .int event.sequence), ("event_type", .str event.eventType), ("actor", .str event.actor),
    ("payload", event.payload), ("previous_event_hash", .ofOption event.previousEventHash),
    ("occurred_at", .str (isoformat event.occurredAt))]
  env.sha256 (payload.text true)

/-- The loop of `_validate_event_chain`. -/
def checkLinks (env : Env) (runId : String) (expectedSequence : Nat) (previousHash : Option String) :
    List RuntimeEvent → Except Error Unit
  | [] => .ok ()
  | event :: rest =>
    if event.sequence ≠ expectedSequence ∨ event.previousEventHash ≠ previousHash ∨
        event.eventHash ≠ expectedHash env runId event then
      .error (.valueError "Snapshot event chain validation failed.")
    else checkLinks env runId (expectedSequence + 1) (some event.eventHash) rest

/-- `SnapshotService._validate_event_chain` on the stored events. -/
def validateEventChain (env : Env) (d : Db) (runId : String) (snapshot : RunSnapshot) : Except Error Unit := do
  let events := Table.orderBy RuntimeEvent.sequence
    ((d.eventsOf runId).filter fun event => decide (event.sequence ≤ snapshot.content.eventSequence))
  if events.length ≠ snapshot.content.eventSequence then
    throw (.valueError "Snapshot event chain is stale or incomplete.")
  else
    checkLinks env runId 1 none events
    match events.getLast? with
    | none => throw (.valueError "Snapshot event anchor is stale or corrupt.")
    | some last =>
      if last.sequence ≠ snapshot.content.eventSequence ∨ last.eventHash ≠ snapshot.content.eventHash then
        throw (.valueError "Snapshot event anchor is stale or corrupt.")
      else return ()

/-- `SnapshotService.validate`. -/
def validate (env : Env) (run : Run) (snapshot : RunSnapshot) : Service Unit := do
  let content := snapshot.content
  let state := content.runState
  if content.runId ≠ run.id ∨ content.taskId ≠ run.taskId then
    Tx.raise (.valueError "Snapshot run identity does not match the selected run.")
  else if content.workflowVersion ≠ run.workflowVersion then
    Tx.raise (.valueError "Snapshot is stale for the run workflow version.")
  else if state.runId ≠ run.id ∨ state.taskId ≠ run.taskId ∨ state.sourceRevision ≠ run.sourceRevision then
    Tx.raise (.valueError "Snapshot is stale for the current run identity.")
  else if snapshot.checksum ≠ content.checksum env then
    Tx.raise (.valueError "Snapshot checksum validation failed.")
  else
    autoflush env
    let verdict ← Tx.read fun s => validateEventChain env s.flushed run.id snapshot
    Tx.ofExcept verdict

/-- `SnapshotService._require_snapshot`. -/
def requireSnapshot (runId snapshotId : String) : Service RunSnapshot := do
  let found ← view fun d => d.snapshots.find? fun snapshot =>
    snapshot.id == snapshotId && snapshot.content.runId == runId
  Tx.expect (.valueError ("Snapshot " ++ snapshotId ++ " not found in run " ++ runId)) found

/-- `SnapshotService.create` as a request of its own. -/
def create (env : Env) (runId reason : String) : Service RunSnapshot := do
  let snapshot ← createSnapshot env runId reason
  commit
  return snapshot

/-- The columns `restore` copies back onto the run. -/
def restoreRun (state : RunState) (now : Nat) (run : Run) : Run :=
  { run with
    status := state.status
    cancellationRequested := state.cancellationRequested
    startedAt := state.startedAt
    completedAt := state.completedAt
    recoveryState := state.recoveryState
    recoveryAttemptCount := state.recoveryAttemptCount
    lastFailureClassification := state.lastFailureClassification
    lastRecoveryAction := state.lastRecoveryAction
    updatedAt := some now }

/-- The columns `restore` copies back onto one step. -/
def restoreStep (item step : RunStep) : RunStep :=
  { step with
    status := item.status
    input := item.input
    output := item.output
    retryCount := item.retryCount
    startedAt := item.startedAt
    completedAt := item.completedAt }

def captured (snapshot : RunSnapshot) (stepId : String) : Option RunStep :=
  snapshot.content.stepState.find? fun item => item.id == stepId

/-- Whether the captured and the current steps are the same ones. -/
def sameTopology (snapshot : RunSnapshot) (current : List RunStep) : Bool :=
  snapshot.content.stepState.all (fun item => current.any fun step => step.id == item.id) &&
    current.all fun step => (captured snapshot step.id).isSome

/-- `SnapshotService.restore`. -/
def restore (env : Env) (runId snapshotId reason : String) : Service (Run × List String) := do
  let run ← requireRun runId
  let snapshot ← requireSnapshot runId snapshotId
  validate env run snapshot
  let state := snapshot.content.runState
  if run.status ≠ .failed then
    Tx.raise (.valueError ("Snapshot restore requires a FAILED run; use resume for ordinary " ++
      "FAILED-run continuation."))
  else if state.status = .completed ∨ state.status = .failed ∨ state.status = .cancelled then
    Tx.raise (.valueError "The selected snapshot is not a resumable checkpoint.")
  else
    let current ← view fun d => d.listSteps runId
    if !sameTopology snapshot current then
      Tx.raise (.valueError "Snapshot is stale because the run step topology has changed.")
    else if snapshot.content.stepState.any fun item => item.status = .running then
      Tx.raise (.valueError "A snapshot containing a running step cannot be restored.")
    else
      let restoredIds := (snapshot.content.stepState.map RunStep.id).dedup.insertionSort (· ≤ ·)
      let now ← utcnow
      updateRun runId (restoreRun state now)
      Tx.forEach current fun step => match captured snapshot step.id with
        | some item => updateStep step.id (restoreStep item)
        | none => pure ()
      let _ ← appendEvent env run "SnapshotRestored" "user"
        (.obj [("schema_version", .str "snapshot-restore/v1"), ("snapshot_id", .str snapshot.id),
          ("snapshot_checksum", .str snapshot.checksum), ("reason", .str reason),
          ("restored_status", .str state.status.name), ("restored_step_ids", .ofStrings restoredIds)])
      let _ ← createSnapshot env run.id ("snapshot_restored:" ++ snapshot.id)
      commit
      let restored ← requireRun runId
      return (restored, restoredIds)

/-- `SnapshotService._replay_idempotency_key`; a key without the source's
identifier is its own replacement. -/
def replayIdempotencyKey (sourceKey sourceId replayId : String) : String := pyReplace sourceKey sourceId replayId

/-- The steps `replay` gives the new run. -/
def replayStep (sourceId replayId stepId : String) (item : RunStep) : RunStep where
  id := stepId
  runId := replayId
  sequence := item.sequence
  name := item.name
  status := .pending
  idempotencyKey := replayIdempotencyKey item.idempotencyKey sourceId replayId
  input := item.input
  output := none
  retryCount := 0
  startedAt := none
  completedAt := none

/-- The run `replay` creates. -/
def replayRun (source : Run) (id : String) (now : Nat) : Run :=
  { source with
    id := id, status := .planning, cancellationRequested := false, updatedAt := some now,
    startedAt := some now, completedAt := none, supplyChainStatus := "NOT_EVALUATED",
    missingSupplyChainEvidence := [], recoveryState := none, recoveryAttemptCount := 0,
    lastFailureClassification := none, lastRecoveryAction := none }

/-- `SnapshotService.replay`. -/
def replay (env : Env) (runId snapshotId reason : String) (overrides : List (String × Json)) :
    Service RunReplay := do
  let source ← requireRun runId
  let snapshot ← requireSnapshot runId snapshotId
  validate env source snapshot
  let replayId ← uuid4
  let now ← utcnow
  let replay := replayRun source replayId now
  insertRun replay
  flush
  Tx.forEach snapshot.content.stepState fun item => do
    let stepId ← uuid4
    insertStep (replayStep source.id replayId stepId item)
  let kept := Json.obj (overrides.filter fun entry => entry.2 ≠ .null)
  let link : RunReplay :=
    { organizationId := source.organizationId, projectId := source.projectId, sourceRunId := source.id,
      sourceSnapshotId := snapshot.id, replayRunId := replayId, overrides := kept, replayReason := reason }
  modify fun d => { d with replays := d.replays ++ [link] }
  let _ ← appendEvent env replay "ReplayCreated" "user"
    (.obj [("schema_version", .str "run-replay/v1"), ("source_run_id", .str source.id),
      ("source_snapshot_id", .str snapshot.id), ("source_snapshot_checksum", .str snapshot.checksum),
      ("overrides", kept), ("replay_reason", .str reason)])
  flush
  let _ ← createSnapshot env replayId ("replay_initialized:" ++ snapshot.id)
  commit
  return link

end SnapshotService

end SacmRuntime
