import SacmRuntime.Runtime.ExecutionPlane
import SacmRuntime.Runtime.Snapshots

namespace SacmRuntime
open Session
open Tx hiding Leaves

/-- What `_validate_completion` checks: an evidence pack, and every step done. -/
def Gate (d : Db) (runId : String) : Prop :=
  (∃ pack ∈ d.packs, pack.runId = runId) ∧ ∀ step ∈ d.steps.rows, step.runId = runId → step.status = .completed

def ExecutionJob.Finished (job : ExecutionJob) : Prop := job.state = .completed ∨ job.state = .failed

/-- A lease token is only stored while a lease is held or its result is final. -/
def ExecutionJob.Held (job : ExecutionJob) : Prop :=
  job.leaseTokenHash ≠ none → job.state = .leased ∨ job.state = .running ∨ job.Finished

/-- A final result is stored together with its own hash. -/
def ExecutionJob.Recorded (env : Env) (job : ExecutionJob) : Prop :=
  job.Finished → ∃ contract, job.resultContract = some contract ∧ job.resultHash = some (canonicalHash env contract)

/-- A step that neither waits for an approval nor is completed names none. -/
def RunStep.Unbound (step : RunStep) : Prop :=
  step.status ≠ .awaitingApproval → step.status ≠ .completed →
    (step.output.getD .null).get "sacm_approval_id" = .null

/-- A step that carries no agent task and that nobody asked an agent for. -/
def RunStep.Taskless (step : RunStep) : Prop :=
  step.input.get "agent_task" = .null ∧ step.input.get "external_agent_request" = .null

/-- The writes one operation may make beyond those every operation may
make. Each group of results says what it grants. -/
structure Permit where
  /-- assign a run's status without consulting the table -/
  assign : String → RunStatus → Prop
  /-- complete a run through the gate -/
  complete : String → Prop
  /-- add a step to a run -/
  addStep : String → Prop
  /-- rewrite a completed step of a run -/
  unsettle : String → Prop
  /-- complete a step -/
  finish : String → Prop
  /-- bring back captured steps of a run -/
  rewind : String → Prop
  /-- queue a job with this many attempts -/
  schedule : Nat → Prop
  /-- store this lease token hash on this job -/
  issue : String → String → Prop
  /-- queue a job again whatever its attempts -/
  requeue : String → Prop
  /-- record this recovery decision on this run -/
  recover : Run → RecoveryDecisionV1 → Prop

def Run.recoveries (run : Run) : Option Json × Int := (run.recoveryState, run.recoveryAttemptCount)

structure RunMove (p : Permit) (d : Db) (old new : Run) : Prop where
  id : new.id = old.id
  status : new.status = old.status ∨
    (new.status ∈ allowedTransitions old.status ∧ (new.status = .completed → p.complete old.id ∧ Gate d old.id)) ∨
    p.assign old.id new.status ∨
    (old.status = .failed ∧ new.status ≠ .completed ∧ new.status ≠ .cancelled)
  identity : new.taskId = old.taskId ∧ new.workflowVersion = old.workflowVersion ∧
    new.sourceRevision = old.sourceRevision
  recovery : new.recoveries = old.recoveries ∨
    (∃ stepId failure decision recordedAt, p.recover old decision ∧
      new.recoveries = (some (recoveryState old stepId failure decision recordedAt), decision.attempt)) ∨
    p.rewind old.id

structure StepMove (p : Permit) (old new : RunStep) : Prop where
  id : new.id = old.id
  runId : new.runId = old.runId
  settled : old.status = .completed → new.status = .completed ∨ p.unsettle old.runId
  finished : new.status = .completed → old.status = .completed ∨ p.finish old.id ∨ p.rewind old.runId
  unbound : old.Unbound → new.Unbound ∨ p.rewind old.runId
  taskless : old.Taskless → new.Taskless ∨ p.rewind old.runId

def ExecutionJob.order (job : ExecutionJob) : (String × String) × (String × String) × (Json × String) :=
  ((job.runId, job.runStepId), (job.scopeKey, job.idempotencyKey), (job.payloadContract, job.payloadHash))

structure JobMove (env : Env) (p : Permit) (old new : ExecutionJob) : Prop where
  id : new.id = old.id
  maxAttempts : new.maxAttempts = old.maxAttempts
  order : new.order = old.order
  final : old.Finished → new.state = old.state ∧ new.resultContract = old.resultContract ∧
    new.resultHash = old.resultHash ∧ new.resultSignature = old.resultSignature
  token : new.leaseTokenHash = none ∨ new.leaseTokenHash = old.leaseTokenHash ∨
    ∃ hash, new.leaseTokenHash = some hash ∧ p.issue old.id hash
  held : old.Held → new.Held
  recorded : old.Recorded env → new.Recorded env
  queued : new.state = .queued → new.attempt = 0 ∨ new.attempt < new.maxAttempts ∨
    (old.state = .queued ∧ new.attempt = old.attempt) ∨ p.requeue old.id
  leased : new.state = .leased → (old.state = .leased ∧ new.leaseTokenHash = old.leaseTokenHash) ∨
    ∃ hash, new.leaseTokenHash = some hash ∧ p.issue old.id hash

inductive Write (env : Env) (p : Permit) : Session Db → Db → Prop
  | other {s : Session Db} {d : Db} (runs : d.runs = s.working.runs) (steps : d.steps = s.working.steps)
      (events : d.events = s.working.events) (snapshots : d.snapshots = s.working.snapshots)
      (jobs : d.jobs = s.working.jobs) (packs : s.working.packs ⊆ d.packs) : Write env p s d
  | insertRun {s : Session Db} {run : Run} {runs : Table Run}
      (initial : run.status = .created ∨ run.status = .planning) (unrecovered : run.recoveries = (none, 0))
      (inserted : s.working.runs.insert? run = some runs) : Write env p s { s.working with runs := runs }
  | run {s : Session Db} (runId : String) (f : Run → Run)
      (move : ∀ old, s.working.runs.find runId = some old → RunMove p s.working old (f old)) :
      Write env p s { s.working with runs := s.working.runs.update runId f }
  | insertStep {s : Session Db} {step : RunStep} {steps : Table RunStep} (allowed : p.addStep step.runId)
      (fresh : step.status = .pending ∧ step.output = none) (inserted : s.working.steps.insert? step = some steps) :
      Write env p s { s.working with steps := steps }
  | step {s : Session Db} (stepId : String) (f : RunStep → RunStep)
      (move : ∀ old, s.working.steps.find stepId = some old → StepMove p old (f old)) :
      Write env p s { s.working with steps := s.working.steps.update stepId f }
  | event {s : Session Db} (run : Run) (eventType actor : String) (payload : Json) (stepId : Option String)
      (occurredAt : Nat) : Write env p s { s.working with
        events := s.working.events ++ [nextEvent env s run eventType actor payload stepId occurredAt] }
  | snapshot {s : Session Db} {snapshot : RunSnapshot} {event : RuntimeEvent}
      (newest : s.flushed.lastEvent snapshot.content.runId = some event)
      (sequence : snapshot.content.eventSequence = event.sequence)
      (hash : snapshot.content.eventHash = event.eventHash)
        (checked : snapshot.checksum = snapshot.content.checksum env)
      (named : snapshot.id =
        env.uuid5 ("https://sacm.dev/snapshots/" ++ snapshot.content.runId ++ "/" ++ snapshot.checksum))
      (fresh : ∀ old ∈ s.working.snapshots, old.content.runId = snapshot.content.runId →
        old.checksum ≠ snapshot.checksum)
      (parent : snapshot.content.parentSnapshotId =
        (parentSnapshot s.working snapshot.content.runId snapshot.content.eventSequence).map RunSnapshot.id) :
      Write env p s { s.working with snapshots := s.working.snapshots ++ [snapshot] }
  | insertJob {s : Session Db} {job : ExecutionJob} {jobs : Table ExecutionJob} (state : job.state = .queued)
      (attempt : job.attempt = 0) (token : job.leaseTokenHash = none) (allowed : p.schedule job.maxAttempts)
      (inserted : s.working.jobs.insert? job = some jobs) : Write env p s { s.working with jobs := jobs }
  | job {s : Session Db} (jobId : String) (f : ExecutionJob → ExecutionJob)
      (move : ∀ old, s.working.jobs.find jobId = some old → JobMove env p old (f old)) :
      Write env p s { s.working with jobs := s.working.jobs.update jobId f }

/-- A computation that only makes the permitted writes. -/
abbrev WritesFrom {α : Type} (env : Env) (p : Permit) (m : Service α) (s : Session Db) : Prop :=
  Tx.MovesFrom (Step (Write env p)) m s

abbrev Writes {α : Type} (env : Env) (p : Permit) (m : Service α) : Prop := Tx.Moves (Step (Write env p)) m

section Reads
variable {α : Type} {A : Session Db → Session Db → Prop} {s : Session Db} {runId stepId jobId : String}

variable {f : Run → Service α} {t : Session Db}

section
variable (rest : ∀ run, s.working.run? runId = some run → Tx.MovesFrom A (f run) s)
include rest

theorem movesFrom_requireRun :
    Tx.MovesFrom A (requireRun runId >>= f) s := by
  unfold requireRun
  exact movesFrom_expect rest

theorem movesFrom_existingRun :
    Tx.MovesFrom A (existingRun runId >>= f) s := by
  unfold existingRun
  exact movesFrom_expect rest

end

theorem movesFrom_requireStep {f : RunStep → Service α}
    (rest : ∀ step, s.working.getStep runId stepId = some step → Tx.MovesFrom A (f step) s) :
    Tx.MovesFrom A (requireStep runId stepId >>= f) s := by
  unfold requireStep
  exact movesFrom_expect rest

theorem movesFrom_existingStep {f : RunStep → Service α}
    (rest : ∀ step, s.working.getStep runId stepId = some step → Tx.MovesFrom A (f step) s) :
    Tx.MovesFrom A (existingStep runId stepId >>= f) s := by
  unfold existingStep
  exact movesFrom_expect rest

theorem moves_requireRun : Tx.Moves A (requireRun runId) := by
  intro s
  unfold requireRun
  exact movesFrom_read (moves_expect s)

theorem moves_requireStep : Tx.Moves A (requireStep runId stepId) := by
  intro s
  unfold requireStep
  exact movesFrom_read (moves_expect s)

theorem requireRun_ok {run : Run} (required : requireRun runId s = (.ok run, t)) :
    s.working.run? runId = some run ∧ t = s := by
  unfold requireRun at required
  obtain ⟨_, _, read, required⟩ := bind_ok required
  cases read
  exact expect_ok required

theorem requireStep_ok {step : RunStep} (required : requireStep runId stepId s = (.ok step, t)) :
    s.working.getStep runId stepId = some step ∧ t = s := by
  unfold requireStep at required
  obtain ⟨_, _, read, required⟩ := bind_ok required
  cases read
  exact expect_ok required

end Reads

theorem getStep_find {d : Db} {runId stepId : String} {step : RunStep}
    (found : d.getStep runId stepId = some step) : d.steps.find stepId = some step ∧ step.runId = runId := by
  have ⟨inTable, same⟩ := Option.filter_eq_some_iff.mp found
  exact ⟨inTable, by simpa using same⟩

section Basic
variable {env : Env} {p : Permit} {s : Session Db}

theorem autoflush_writes : Writes env p (autoflush env) := by
  intro s
  unfold autoflush
  split
  · exact moves_flush s
  · exact .refl

variable {actor eventType reason : String} {payload : Json} {run : Run} {stepId : Option String}

theorem appendEvent_writes :
    Writes env p (appendEvent env run eventType actor payload stepId) := by
  intro s
  unfold appendEvent
  refine autoflush_writes.then fun _ t => movesFrom_utcnow fun now clock => movesFrom_read ?_
  exact movesFrom_write (.event run eventType actor payload stepId now) (movesFrom_pure _)

theorem createSnapshot_writes {runId : String} : Writes env p (createSnapshot env runId reason) := by
  intro s
  unfold createSnapshot
  refine movesFrom_requireRun fun run found => movesFrom_view (movesFrom_ite ?_ ?_)
  · exact fun _ => movesFrom_raise _
  · intro _
    refine movesFrom_flush (movesFrom_read (movesFrom_expect fun event newest => ?_))
    refine movesFrom_view (movesFrom_view (movesFrom_view ?_))
    have sameId : run.id = runId := Table.find_key found
    split
    · exact movesFrom_pure _
    · rename_i unseen
      refine movesFrom_utcnow fun now clock => movesFrom_write ?_ (movesFrom_flush (movesFrom_pure _))
      refine .snapshot ?_ rfl rfl rfl ?_ (fun old member ofRun same => ?_) ?_
      · simpa [snapshotContent, sameId] using newest
      · simp only [snapshotContent, sameId]
      · have absent := List.find?_eq_none.mp unseen old member
        have here : old.content.runId = runId := ofRun.trans sameId
        rw [same, here] at absent
        simp at absent
      · simp only [snapshotContent, sameId]

theorem checkpoint_writes : Writes env p (checkpoint env run reason) := by
  intro s
  unfold checkpoint
  split
  · refine movesFrom_flush (movesFrom_view (movesFrom_ite (fun _ => movesFrom_pure _) fun _ => ?_))
    exact createSnapshot_writes.then fun _ _ => movesFrom_pure _
  · exact movesFrom_pure _

section Frames
variable {γ : Type} {h : Db → γ}

variable {reason runId : String} {run : Run}

theorem requireRun_leaves : Leaves h (requireRun runId) := by
  unfold requireRun
  exact leaves_view fun _ => leaves_expect

theorem requireStep_leaves {stepId : String} : Leaves h (requireStep runId stepId) := by
  unfold requireStep
  exact leaves_view fun _ => leaves_expect

theorem autoflush_leaves : Leaves h (autoflush env) := by
  unfold autoflush
  split
  · exact leaves_flush
  · exact leaves_pure _

theorem appendEvent_leaves {eventType actor : String} {payload : Json} {stepId : Option String}
    (same : ∀ d event, event.eventType = eventType → h { d with events := d.events ++ [event] } = h d) :
    Leaves h (appendEvent env run eventType actor payload stepId) := by
  intro s
  unfold appendEvent autoflush
  cases env.autoflush <;> simp only [if_true, Bool.false_eq_true, if_false] <;> exact same s.working _ rfl

theorem createSnapshot_leaves (same : ∀ d snapshots, h { d with snapshots := snapshots } = h d) :
    Leaves h (createSnapshot env runId reason) := by
  unfold createSnapshot
  refine requireRun_leaves.bind fun _ => leaves_view fun _ => leaves_ite (leaves_raise _) ?_
  refine leaves_flush.bind fun _ => leaves_read fun _ => leaves_expect.bind fun _ => ?_
  refine leaves_view fun _ => leaves_view fun _ => leaves_view fun existing => ?_
  cases existing with
  | some snapshot => exact leaves_pure _
  | none =>
    refine leaves_utcnow.bind fun _ => (leaves_modify fun d => same d _).bind fun _ => ?_
    exact leaves_flush.bind fun _ => leaves_pure _

theorem checkpoint_leaves (same : ∀ d snapshots, h { d with snapshots := snapshots } = h d) :
    Leaves h (checkpoint env run reason) := by
  unfold checkpoint
  refine leaves_ite ?_ (leaves_pure _)
  refine leaves_flush.bind fun _ => leaves_view fun _ => leaves_ite (leaves_pure _) ?_
  exact (createSnapshot_leaves same).bind fun _ => leaves_pure _

end Frames

theorem movesFrom_appendEvent {α : Type} {f : RuntimeEvent → Service α}
    (rest : ∀ event flushed clock events,
      WritesFrom env p (f event)
    { s with flushed := flushed, clock := clock, working := { s.working with events := events } }) :
    WritesFrom env p (appendEvent env run eventType actor payload stepId >>= f) s := by
  refine (appendEvent_writes s).bind fun event ok => ?_
  unfold appendEvent autoflush at ok ⊢
  cases flushes : env.autoflush <;> simp only [flushes, if_true, Bool.false_eq_true, if_false] at ok ⊢ <;>
    exact rest _ _ _ _

/-- What every writing method ends with: an event, a checkpoint, a commit
and a last read. -/
theorem closing_writes {α : Type} {last : Service α} (reads : Writes env p last) :
    Writes env p (do
      let _ ← appendEvent env run eventType actor payload stepId
      checkpoint env run reason
      commit
      last) :=
  appendEvent_writes.bind fun _ => checkpoint_writes.bind fun _ => moves_commit.bind fun _ => reads

end Basic

end SacmRuntime
