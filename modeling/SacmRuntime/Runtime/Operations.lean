import SacmRuntime.Runtime.JobWrites
import SacmRuntime.Runtime.SnapshotWrites

namespace SacmRuntime
open Session

/-- The requests the control plane serves. The last three stand for the
services that record evidence packs, plans and executors. -/
inductive Operation where
  | create (payload : RunCreate)
  | createForTask (task : Task)
  | transition (runId : String) (status : RunStatus) (eventType actor : String) (payload : Json)
      (stepId : Option String)
  | addStep (runId name : String) (input : Json) (idempotencyKey : String)
  | startStep (runId stepId : String)
  | completeStep (runId stepId : String) (output : Json)
  | awaitStepApproval (runId stepId : String) (output : Json)
  | failStep (runId stepId : String) (failure : Json) (commits : Bool)
  | interruptStep (runId stepId reason : String) (cancelled : Bool)
  | cancel (runId : String)
  | resume (runId : String)
  | retryStep (runId stepId : String)
  | scheduleRecovery (runId stepId : String) (failure : Json) (decision : RecoveryDecisionV1) (commits : Bool)
  | recoverInterrupted (runId : String)
  | handleFailure (runId stepId : String) (failure : Json) (requestedAction : Option RecoveryAction)
      (commits : Bool)
  | scheduleAgent (runId : String) (payload : ExternalAgentStepCreate) (actorId : Option String)
      (trustedInternal : Bool)
  | submit (runId stepId : String) (result : AgentResultV1) (actorId : Option String)
      (trustedInternal commits : Bool)
  | requestApproval (runId action : String) (resource : Json)
  | decide (approvalId : String) (approve : Bool) (actor reason : String)
  | createSnapshot (runId reason : String)
  | restore (runId snapshotId reason : String)
  | replay (runId snapshotId reason : String) (overrides : List (String × Json))
  | scheduleJob (runId runStepId : String) (task : AgentTaskV1) (idempotencyKey : String)
      (requiredCapabilities : List String) (requiredLabels : List (String × String)) (maxAttempts : Nat)
      (customerDeploymentId : Option String) (commits : Bool)
  | acquireLease (executorId : String) (leaseSeconds : Option Nat)
  | startJob (executorId jobId leaseToken : String)
  | heartbeatJob (executorId jobId leaseToken : String) (leaseSeconds : Option Nat)
  | completeJob (executorId jobId : String) (submission : SignedJobResult)
  | failJob (executorId jobId : String) (submission : SignedJobResult)
  | recoverExpired (now : Option Nat) (commits : Bool)
  | recoverOrphaned (now : Option Nat) (organizationId : Option String) (commits : Bool)
  | requeueDeadLetter (jobId reason : String) (resetAttempts : Bool)
  | revokeExecutor (executorId actor reason : String)
  | recordPack (pack : EvidencePack)
  | recordPlan (plan : ExecutionPlan)
  | recordExecutors (executors : Table ExecutorRegistration)

namespace Operation

def exec (env : Env) : Operation → Service Unit
  | create payload => Tx.void (RunService.create env payload)
  | createForTask task => Tx.void (RunService.createForTask env task)
  | transition runId status eventType actor payload stepId =>
    Tx.void (RunService.transition env runId status eventType actor payload stepId)
  | addStep runId name input key => Tx.void (RunService.addStep env runId name input key)
  | startStep runId stepId => Tx.void (RunService.startStep env runId stepId)
  | completeStep runId stepId output => Tx.void (RunService.completeStep env runId stepId output)
  | awaitStepApproval runId stepId output => Tx.void (RunService.awaitStepApproval env runId stepId output)
  | failStep runId stepId failure commits => Tx.void (RunService.failStep env runId stepId failure commits)
  | interruptStep runId stepId reason cancelled =>
    Tx.void (RunService.interruptStep env runId stepId reason cancelled)
  | cancel runId => Tx.void (RunService.cancel env runId)
  | resume runId => Tx.void (RunService.resume env runId)
  | retryStep runId stepId => Tx.void (RunService.retryStep env runId stepId)
  | scheduleRecovery runId stepId failure decision commits =>
    Tx.void (RunService.scheduleRecovery env runId stepId failure decision commits)
  | recoverInterrupted runId => Tx.void (RunService.recoverInterrupted env runId)
  | handleFailure runId stepId failure requestedAction commits =>
    Tx.void (RecoveryService.handle env runId stepId failure requestedAction commits)
  | scheduleAgent runId payload actorId trusted =>
    Tx.void (ExternalAgentService.schedule env runId payload actorId trusted)
  | submit runId stepId result actorId trusted commits =>
    Tx.void (ExternalAgentService.submit env runId stepId result actorId trusted commits)
  | requestApproval runId action resource => Tx.void (PolicyService.requestApproval env runId action resource)
  | decide approvalId approve actor reason => Tx.void (PolicyService.decide env approvalId approve actor reason)
  | createSnapshot runId reason => Tx.void (SnapshotService.create env runId reason)
  | restore runId snapshotId reason => Tx.void (SnapshotService.restore env runId snapshotId reason)
  | replay runId snapshotId reason overrides =>
    Tx.void (SnapshotService.replay env runId snapshotId reason overrides)
  | scheduleJob runId runStepId task key capabilities labels maxAttempts deployment commits =>
    Tx.void (ExecutionPlaneService.schedule env runId runStepId task key capabilities labels maxAttempts deployment
      commits)
  | acquireLease executorId seconds => Tx.void (ExecutionPlaneService.acquireLease env executorId seconds)
  | startJob executorId jobId token => Tx.void (ExecutionPlaneService.startJob env executorId jobId token)
  | heartbeatJob executorId jobId token seconds =>
    Tx.void (ExecutionPlaneService.heartbeatJob env executorId jobId token seconds)
  | completeJob executorId jobId submission =>
    Tx.void (ExecutionPlaneService.completeJob env executorId jobId submission)
  | failJob executorId jobId submission => Tx.void (ExecutionPlaneService.failJob env executorId jobId submission)
  | recoverExpired now commits => Tx.void (ExecutionPlaneService.recoverExpired env now commits)
  | recoverOrphaned now organizationId commits =>
    Tx.void (ExecutionPlaneService.recoverOrphaned env now organizationId commits)
  | requeueDeadLetter jobId reason reset => Tx.void (ExecutionPlaneService.requeueDeadLetter jobId reason reset)
  | revokeExecutor executorId actor reason =>
    Tx.void (ExecutionPlaneService.revokeExecutor env executorId actor reason)
  | recordPack pack => do
    modify fun d => { d with packs := d.packs ++ [pack] }
    commit
  | recordPlan plan => do
    modify fun d => { d with plans := d.plans ++ [plan] }
    commit
  | recordExecutors executors => do
    modify fun d => { d with executors := executors }
    commit

/-- The store after a request: what the request did not commit is gone. -/
def after (env : Env) (op : Operation) (d : Db) (supply : Supply) : Db := (request (op.exec env) d supply).2

def recoveryStatus (env : Env) (d : Db) (runId : String) (failure : Json) (requested : Option RecoveryAction)
    (status : RunStatus) : Prop :=
  ∃ run report decision, d.run? runId = some run ∧ env.diagnose failure = .ok report ∧
    RecoveryService.decide env run report requested = .ok decision ∧ status = decision.runStatus

/-- The statuses a failed agent result may give its run. -/
def submissionStatus (env : Env) (d : Db) (runId stepId : String) (result : AgentResultV1)
    (actorId : Option String) (trusted : Bool) (status : RunStatus) : Prop :=
  result.status = .failed ∧
    (∃ step task approval, Passes env d runId stepId result actorId trusted step task approval ∧
      (step.input.field? "agent_name").isSome ∧ (step.input.field? "framework").isSome) ∧
    recoveryStatus env d runId
      ((ExternalAgentService.failureDict result).getD (ExternalAgentService.defaultFailure result)) none status

/-- The operation reaches `schedule_recovery` on this run and gives it this status. -/
def assigns (env : Env) (d : Db) : Operation → String → RunStatus → Prop
  | scheduleRecovery runId stepId failure decision _, id, status =>
    id = runId ∧ status = decision.runStatus ∧ (failure.field? "classification").isSome ∧
      ∃ step, d.getStep runId stepId = some step ∧ step.status = .failed
  | handleFailure runId stepId failure requested _, id, status =>
    id = runId ∧ (∃ step, d.getStep runId stepId = some step ∧ step.status = .failed) ∧
      recoveryStatus env d runId failure requested status
  | submit runId stepId result actorId trusted _, id, status =>
    id = runId ∧ submissionStatus env d runId stepId result actorId trusted status
  | failJob _ jobId submission, id, status =>
    ∃ job, d.jobs.find jobId = some job ∧ job.active = true ∧ id = job.runId ∧
      submissionStatus env d job.runId job.runStepId submission.result none true status
  | _, _, _ => False

/-- The operation may complete this run through the gate. -/
def completes : Operation → String → Prop
  | transition runId status _ _ _ _, id => id = runId ∧ status = .completed
  | _, _ => False

def addsStep (d : Db) (supply : Supply) : Operation → String → Prop
  | addStep runId _ _ key, id => id = runId ∧
      (d.steps.rows.find? fun step => step.runId == runId && step.idempotencyKey == key) = none
  | scheduleAgent runId payload _ _, id => id = runId ∧
      (d.steps.rows.find? fun step => step.runId == runId && step.idempotencyKey == payload.idempotencyKey) = none
  | replay _ _ _ _, id => id = supply.uuids 0 ∧ d.runs.find id = none
  | _, _ => False

/-- The operation may rewrite a completed step of this run. -/
def unsettles (d : Db) : Operation → String → Prop
  | failStep runId stepId _ _, id => id = runId ∧
      ∃ step, d.getStep runId stepId = some step ∧ step.status = .completed
  | recoverInterrupted runId, id => id = runId ∧
      ∃ step ∈ d.steps.rows, step.runId = runId ∧ step.status = .running
  | restore runId _ _, id => id = runId ∧ ∃ run, d.run? runId = some run ∧ run.status = .failed
  | _, _ => False

def finishes (env : Env) (d : Db) : Operation → String → Prop
  | completeStep _ stepId _, id => id = stepId
  | submit runId stepId result actorId trusted _, id => id = stepId ∧ result.status = .completed ∧
      ∃ step task approval, Passes env d runId stepId result actorId trusted step task approval
  | completeJob _ jobId _, id => ∃ job, d.jobs.find jobId = some job ∧ id = job.runStepId
  | failJob _ jobId _, id => ∃ job, d.jobs.find jobId = some job ∧ id = job.runStepId
  | _, _ => False

/-- The operation may bring back captured steps of this run. -/
def rewinds : Operation → String → Prop
  | restore runId _ _, id => id = runId
  | _, _ => False

/-- The operation may queue a job with this many attempts. -/
def schedules (d : Db) : Operation → Nat → Prop
  | scheduleJob _ _ _ _ _ _ maxAttempts _ _, n => n = maxAttempts
  | completeJob _ jobId _, n => ∃ job, d.jobs.find jobId = some job ∧ n = job.maxAttempts
  | failJob _ jobId _, n => ∃ job, d.jobs.find jobId = some job ∧ n = job.maxAttempts
  | _, _ => False

/-- The operation stores this lease token hash on this job. -/
def issues (env : Env) (d : Db) (supply : Supply) : Operation → String → String → Prop
  | acquireLease executorId seconds, jobId, hash =>
    ∃ leased, (request (ExecutionPlaneService.acquireLease env executorId seconds) d supply).1 = .ok (some leased) ∧
      jobId = leased.job.id ∧ hash = tokenHash env "lease" leased.leaseToken
  | _, _, _ => False

/-- The operation queues this job again although its attempts are used up. -/
def requeues (d : Db) : Operation → String → Prop
  | requeueDeadLetter jobId _ reset, id => id = jobId ∧ reset = false ∧
      ∃ job, d.jobs.find jobId = some job ∧ job.state = .deadLetter ∧ job.maxAttempts ≤ job.attempt
  | _, _ => False

/-- The operation records this decision on a run that remembers these recoveries. -/
def recovers (env : Env) : Operation → Run → RecoveryDecisionV1 → Prop
  | scheduleRecovery runId _ _ given _, run, decision => run.id = runId ∧ decision = given
  | handleFailure _ _ _ requested _, run, decision =>
    ∃ report, RecoveryService.decide env run report requested = .ok decision
  | submit _ _ _ _ _ _, run, decision => ∃ report, RecoveryService.decide env run report none = .ok decision
  | failJob _ _ _, run, decision => ∃ report, RecoveryService.decide env run report none = .ok decision
  | _, _, _ => False

/-- All that an operation may write, read off its arguments and the store it starts from. -/
def permit (env : Env) (d : Db) (supply : Supply) (op : Operation) : Permit where
  assign := op.assigns env d
  complete := op.completes
  addStep := op.addsStep d supply
  unsettle := op.unsettles d
  finish := op.finishes env d
  rewind := op.rewinds
  schedule := op.schedules d
  issue := op.issues env d supply
  requeue := op.requeues d
  recover := op.recovers env

theorem writes (env : Env) (d : Db) (supply : Supply) (op : Operation) :
    WritesFrom env (op.permit env d supply) (op.exec env) (start d supply) := by
  cases op with
  | create payload => exact Tx.MovesFrom.void (create_writes _)
  | createForTask task => exact Tx.MovesFrom.void (createForTask_writes _)
  | transition runId status eventType actor payload stepId =>
    exact Tx.MovesFrom.void (transition_writesFrom fun completes => ⟨rfl, completes⟩)
  | addStep runId name input key => exact Tx.MovesFrom.void (addStep_writesFrom fun fresh => ⟨rfl, fresh⟩)
  | startStep runId stepId => exact Tx.MovesFrom.void (startStep_writes _)
  | completeStep runId stepId output => exact Tx.MovesFrom.void (completeStep_writes rfl _)
  | awaitStepApproval runId stepId output => exact Tx.MovesFrom.void (awaitStepApproval_writes _)
  | failStep runId stepId failure commits =>
    exact Tx.MovesFrom.void (failStep_writesFrom fun step found done => ⟨rfl, step, found, done⟩)
  | interruptStep runId stepId reason cancelled => exact Tx.MovesFrom.void (interruptStep_writes _)
  | cancel runId => exact Tx.MovesFrom.void (cancel_writesFrom rfl)
  | resume runId => exact Tx.MovesFrom.void (resume_writes _)
  | retryStep runId stepId => exact Tx.MovesFrom.void (retryStep_writes _)
  | scheduleRecovery runId stepId failure decision commits =>
    refine Tx.MovesFrom.void (scheduleRecovery_writesFrom fun run step classification atRun found failed named => ?_)
    exact ⟨⟨rfl, rfl, by simp [named], step, found, failed⟩, Table.find_key atRun, rfl⟩
  | recoverInterrupted runId =>
    exact Tx.MovesFrom.void (recoverInterrupted_writesFrom fun step member ofRun running =>
      ⟨rfl, step, member, ofRun, running⟩)
  | handleFailure runId stepId failure requested commits =>
    refine Tx.MovesFrom.void
      (handle_writesFrom fun run step report decision atRun atStep failed diagnosed decided => ?_)
    exact ⟨⟨rfl, ⟨step, atStep, failed⟩, run, report, decision, atRun, diagnosed, decided, rfl⟩, report, decided⟩
  | scheduleAgent runId payload actorId trusted =>
    exact Tx.MovesFrom.void (agentSchedule_writesFrom fun fresh => ⟨rfl, fresh⟩)
  | submit runId stepId result actorId trusted commits =>
    refine Tx.MovesFrom.void (submit_writesFrom (fun step task approval run report decision failed passes agent
      framework atRun diagnosed decided => ?_) fun step task approval completed passes =>
        ⟨rfl, completed, step, task, approval, passes⟩)
    exact ⟨⟨rfl, failed, ⟨step, task, approval, passes, agent, framework⟩, run, report, decision, atRun, diagnosed,
      decided, rfl⟩, report, decided⟩
  | requestApproval runId action resource => exact Tx.MovesFrom.void (requestApproval_writes _)
  | decide approvalId approve actor reason => exact Tx.MovesFrom.void (decide_writes _)
  | createSnapshot runId reason => exact Tx.MovesFrom.void (create_snapshot_writes _)
  | restore runId snapshotId reason =>
    exact Tx.MovesFrom.void (restore_writesFrom fun run found failed => ⟨⟨rfl, run, found, failed⟩, rfl⟩)
  | replay runId snapshotId reason overrides => exact Tx.MovesFrom.void (replay_writesFrom fun fresh => ⟨rfl, fresh⟩)
  | scheduleJob runId runStepId task key capabilities labels maxAttempts deployment commits =>
    exact Tx.MovesFrom.void (schedule_writes rfl _)
  | acquireLease executorId seconds =>
    exact Tx.MovesFrom.void (acquireLease_writesFrom rfl fun leased claimed => ⟨leased, claimed, rfl, rfl⟩)
  | startJob executorId jobId token => exact Tx.MovesFrom.void startJob_writesFrom
  | heartbeatJob executorId jobId token seconds => exact Tx.MovesFrom.void heartbeatJob_writesFrom
  | completeJob executorId jobId submission =>
    refine Tx.MovesFrom.void (finishJob_writesFrom fun job found active endpoint =>
      ⟨?_, ⟨job, found, rfl⟩, job, found, rfl⟩)
    intro step task approval run report decision failed
    simp at endpoint
    exact absurd failed endpoint
  | failJob executorId jobId submission =>
    refine Tx.MovesFrom.void (finishJob_writesFrom fun job found active _ =>
      ⟨?_, ⟨job, found, rfl⟩, job, found, rfl⟩)
    intro step task approval run report decision failed passes agent framework atRun diagnosed decided
    exact ⟨⟨job, found, active, rfl, failed, ⟨step, task, approval, passes, agent, framework⟩, run, report, decision,
      atRun, diagnosed, decided, rfl⟩, report, decided⟩
  | recoverExpired now commits => exact Tx.MovesFrom.void (recoverExpired_writesFrom rfl)
  | recoverOrphaned now organizationId commits => exact Tx.MovesFrom.void (recoverOrphaned_writesFrom rfl)
  | requeueDeadLetter jobId reason reset =>
    refine Tx.MovesFrom.void (requeueDeadLetter_writesFrom fun job found dead kept => ?_)
    have key : job.id = jobId := Table.find_key found
    rcases Nat.lt_or_ge job.attempt job.maxAttempts with fewer | exhausted
    · exact .inl fewer
    · exact .inr ⟨key, kept, job, found, dead, exhausted⟩
  | revokeExecutor executorId actor reason => exact Tx.MovesFrom.void (revokeExecutor_writesFrom rfl)
  | recordPack pack =>
    exact movesFrom_write (.other rfl rfl rfl rfl rfl (List.subset_append_left _ _)) (moves_commit _)
  | recordPlan plan => exact movesFrom_write (.other rfl rfl rfl rfl rfl (List.Subset.refl _)) (moves_commit _)
  | recordExecutors executors =>
    exact movesFrom_write (.other rfl rfl rfl rfl rfl (List.Subset.refl _)) (moves_commit _)

end Operation

abbrev Execution (env : Env) (meets : Db → Supply → Operation → Prop) : Db → Db → Prop :=
  Path (Operation.after env) meets

abbrev afterAll (env : Env) : Db → List (Operation × Supply) → Db := Path.storeAfter (Operation.after env)

namespace Sample

def one : FloatText := ⟨['1', '.', '0'], FloatText.one_printable⟩

def report : FailureReportV1 where
  classification := .compilation
  type := "CompilationError"
  message := "build failed"
  evidence := []
  details := .obj []
  retryable := true
  confidence := ⟨1, one⟩
  rootCause := none
  reasonCodes := []
  diagnosisFingerprint := some "f1"
  diagnosticBundle := .null
  stages := []

def env : Env where
  sha256 := id
  uuid5 := id
  autoflush := false
  snapshotsAvailable := false
  executionJobsAvailable := true
  production := false
  approvalTtlSeconds := 0
  maxRecoveryAttempts := 3
  minimumConfidence := 0
  executionLeaseSeconds := 120
  defaultCustomerDeploymentId := "local-development"
  missingSupplyChain := fun _ => []
  runContext := fun _ _ => .null
  diagnose := fun _ => .ok report
  validateTask := fun contract => .ok ⟨"r", "s", contract⟩
  validateDecision := fun _ => .error (.valueError "no decision")
  authorizeRun := fun _ _ _ => .ok ()
  authorizeApproval := fun _ _ => .ok ()
  authorizeExecutorAdmin := fun _ _ => .ok ()
  signPayload := fun _ => "signature"
  verifyEd25519 := fun _ _ _ => .ok ()
  recomputeRun := fun _ _ => none

/-- A task, and below it a run with one external agent step. -/
def task : Task := ⟨"t", none, none, none, none, none, "title", "", "pending", none⟩

def step (status : StepStatus) : RunStep where
  id := "s"
  runId := "r"
  sequence := 1
  name := "codex:coder"
  status := status
  idempotencyKey := "k"
  input := .obj [("framework", .str "codex"), ("agent_name", .str "coder"), ("agent_task", .obj [])]
  output := none
  retryCount := 0
  startedAt := none
  completedAt := none

def store (run : RunStatus) (status : StepStatus) : Db where
  tasks := .ofRows [task]
  runs := .ofRows [newRun "r" task run 0]
  steps := .ofRows [step status]

def supply : Supply := ⟨fun n => n, fun n => toString n, fun n => "token-" ++ toString n⟩

/-- Identifiers of one request, apart from those of the others. -/
def supplyOf (name : String) : Supply := { supply with uuids := fun n => name ++ toString n }

def succeeded : AgentResultV1 where
  runId := "r"
  stepId := "s"
  status := .completed
  summary := "done"

def failed : AgentResultV1 where
  runId := "r"
  stepId := "s"
  status := .failed
  summary := "build failed"
  failure := some report.modelDump

def executor : ExecutorRegistration :=
  ⟨"x", none, none, some "local-development", [], [], "key", "fingerprint", .active, none, none, none, none,
    "customer-deployment:local-development", "executor", "token"⟩

def plane : Db := { store .planning .pending with executors := .ofRows [executor] }

/-- A job of the step under a lease of the executor until instant 100. -/
def heldJob (state : JobState) (maxAttempts : Nat) : ExecutionJob where
  id := "j"
  organizationId := none
  projectId := none
  customerDeploymentId := some "local-development"
  scopeKey := "customer-deployment:local-development"
  runId := "r"
  runStepId := "s"
  taskId := "t"
  state := state
  idempotencyKey := "job-key"
  requiredCapabilities := []
  requiredLabels := []
  secretRequirements := []
  payloadContract := .obj []
  payloadHash := ""
  payloadSignature := ""
  attempt := 1
  maxAttempts := maxAttempts
  recoveryCount := 0
  lastRecoveryReason := none
  leaseOwnerId := some "x"
  leaseTokenHash := some (tokenHash env "lease" "token")
  leaseExpiresAt := some 100
  leaseHeartbeatAt := some 0
  resultContract := none
  resultHash := none
  resultSignature := none
  resultSignatureMetadata := none
  failure := none
  queuedAt := 0
  leasedAt := some 0
  startedAt := none
  completedAt := none
  failedAt := none
  expiredAt := none
  cancelledAt := none
  deadLetteredAt := none
  updatedAt := 0

def queueJob (maxAttempts : Nat) : Operation :=
  .scheduleJob "r" "s" ⟨"r", "s", .obj []⟩ "job-key" [] [] maxAttempts none true

end Sample

end SacmRuntime
