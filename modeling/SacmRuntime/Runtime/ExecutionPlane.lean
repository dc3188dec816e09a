import SacmRuntime.Runtime.ExternalAgentService

namespace SacmRuntime
open Session

/-- `canonical_hash` of `execution_signing`: keys sorted, text not escaped. -/
def canonicalHash (env : Env) (value : Json) : String := env.sha256 (value.text false)

/-- `_token_hash`. -/
def tokenHash (env : Env) (kind token : String) : String := env.sha256 ("sacm:" ++ kind ++ ":v1:" ++ token)

structure LeasedJob where
  job : ExecutionJob
  leaseToken : String

/-- The counters `recover_orphaned` reports. -/
structure OrphanReport where
  recovered : Nat := 0
  requeued : Nat := 0
  deadLettered : Nat := 0
  reconciledSteps : Nat := 0
  jobIds : List String := []

def insertJob (job : ExecutionJob) : Service Unit := do
  let inserted ← view fun d => d.jobs.insert? job
  let jobs ← Tx.expect (.integrityError "execution_jobs.id") inserted
  modify fun d => { d with jobs := jobs }

def updateExecutor (executorId : String) (f : ExecutorRegistration → ExecutorRegistration) : Service Unit :=
  modify fun d => { d with executors := d.executors.update executorId f }

/-- `CredentialLeaseService.revoke_for_executor`. -/
def revokeForExecutor (executorId actor reason : String) : Service Unit := do
  let now ← utcnow
  modify fun d =>
    let leases := d.leases.updateWhere (fun lease => lease.executorId == executorId && lease.revokedAt.isNone)
      (CredentialLease.revoke actor reason now)
    { d with leases := leases }

namespace ExecutionJob

def active (job : ExecutionJob) : Bool := job.state = .leased ∨ job.state = .running

/-- The columns `_release_or_expire` writes. -/
def release (now : Nat) (reason : String) (job : ExecutionJob) : ExecutionJob :=
  let terminal : Bool := job.attempt ≥ job.maxAttempts
  { job with
    state := if terminal then .deadLetter else .queued
    recoveryCount := job.recoveryCount + 1
    lastRecoveryReason := some reason
    failure := some (.obj [("type", .str reason),
      ("message", .str (if terminal then "Execution job exhausted its lease attempts."
        else "Execution job lease was released for retry.")),
      ("attempt", .int job.attempt)])
    expiredAt := if terminal then some now else job.expiredAt
    deadLetteredAt := if terminal then some now else job.deadLetteredAt
    queuedAt := if terminal then job.queuedAt else now
    leaseOwnerId := none
    leaseTokenHash := none
    leaseExpiresAt := none
    leaseHeartbeatAt := none
    leasedAt := none
    updatedAt := now }

def lease (executorId hash : String) (now seconds attempt : Nat) (job : ExecutionJob) : ExecutionJob :=
  { job with
    state := .leased
    attempt := attempt
    leaseOwnerId := some executorId
    leaseTokenHash := some hash
    leasedAt := some now
    leaseHeartbeatAt := some now
    leaseExpiresAt := some (now + seconds * 1000000)
    updatedAt := now }

def begin (now : Nat) (job : ExecutionJob) : ExecutionJob :=
  { job with state := .running, startedAt := some now, updatedAt := now }

def extend (now seconds : Nat) (job : ExecutionJob) : ExecutionJob :=
  { job with leaseHeartbeatAt := some now, leaseExpiresAt := some (now + seconds * 1000000), updatedAt := now }

/-- The columns `_finish_job` writes; the lease fields stay. -/
def finish (now : Nat) (executorId hash : String) (submission : SignedJobResult) (failed : Bool)
    (job : ExecutionJob) : ExecutionJob :=
  { job with
    state := if failed then .failed else .completed
    resultContract := some submission.result.modelDump
    resultHash := some hash
    resultSignature := some submission.signature
    resultSignatureMetadata := some (.obj [("algorithm", .str submission.signatureAlgorithm),
      ("key_fingerprint", .str submission.signingKeyFingerprint), ("executor_id", .str executorId)])
    failure := if failed then submission.result.failure else none
    updatedAt := now
    failedAt := if failed then some now else job.failedAt
    completedAt := if failed then job.completedAt else some now }

/-- The columns `requeue_dead_letter` writes. -/
def requeue (now : Nat) (reason : String) (resetAttempts : Bool) (job : ExecutionJob) : ExecutionJob :=
  { job with
    state := .queued
    queuedAt := now
    deadLetteredAt := none
    expiredAt := none
    failure := none
    lastRecoveryReason := some ("ManualRequeue:" ++ reason)
    attempt := if resetAttempts then 0 else job.attempt }

/-- `_scope_predicate`. A comparison with `None` asks for null. -/
def inScope (executor : ExecutorRegistration) (job : ExecutionJob) : Bool :=
  if executor.projectId.any (· ≠ "") then job.projectId = executor.projectId
  else if executor.organizationId.any (· ≠ "") then job.organizationId = executor.organizationId
  else job.customerDeploymentId = executor.customerDeploymentId

/-- The filter of `acquire_lease`. -/
def eligible (executor : ExecutorRegistration) (job : ExecutionJob) : Bool :=
  decide (job.state = .queued) && decide (job.attempt < job.maxAttempts) && job.inScope executor

/-- `_matches`. -/
def matchedBy (executor : ExecutorRegistration) (job : ExecutionJob) : Bool :=
  job.requiredCapabilities.all (fun capability => executor.capabilities.contains capability) &&
    job.requiredLabels.all fun label =>
      decide ((executor.labels.find? fun entry => entry.1 == label.1).map Prod.snd = some label.2)

end ExecutionJob

/-- The columns `recover_orphaned` writes on a running step. -/
def RunStep.reconcile (deadLettered : Bool) (now : Nat) (step : RunStep) : RunStep :=
  { step with
    retryCount := step.retryCount + 1
    status := if deadLettered then .failed else .pending
    startedAt := if deadLettered then step.startedAt else none
    completedAt := if deadLettered then some now else step.completedAt }

/-- The columns `requeue_dead_letter` writes on a failed step. -/
def RunStep.requeue (step : RunStep) : RunStep :=
  { step with status := .pending, startedAt := none, completedAt := none }

namespace ExecutionPlaneService

def existingExecutor (executorId : String) : Service ExecutorRegistration := do
  let found ← view fun d => d.executors.find executorId
  Tx.expect (.executorAuthenticationError "Invalid or revoked executor token.") found

/-- `_require_active`. -/
def requireActive (executor : ExecutorRegistration) : Service Unit :=
  if executor.status ≠ .active then Tx.raise (.executorAuthenticationError "Executor is not active.")
  else pure ()

def existingJob (jobId : String) : Service ExecutionJob := do
  let found ← view fun d => d.jobs.find jobId
  Tx.expect (.valueError "Execution job not found.") found

/-- `_release_or_expire`. -/
def releaseOrExpire (jobId : String) (now : Nat) (reason : String) : Service Unit := do
  updateJob jobId (ExecutionJob.release now reason)
  revokeForJob jobId "control-plane" reason

/-- `revoke_executor`. -/
def revokeExecutor (env : Env) (executorId actor reason : String) : Service ExecutorRegistration := do
  let found ← view fun d => d.executors.find executorId
  let executor ← Tx.expect (.valueError "Executor not found.") found
  Tx.ofExcept (env.authorizeExecutorAdmin executorId actor)
  if executor.status = .revoked then return executor
  else
    let now ← utcnow
    updateExecutor executorId fun executor =>
      { executor with status := .revoked, revokedAt := some now, revokedBy := some actor,
                      revocationReason := some reason }
    let activeJobs ← selectJobs env fun job => decide (job.leaseOwnerId = some executorId) && job.active
    Tx.forEach activeJobs fun job => releaseOrExpire job.id now "ExecutorRevoked"
    revokeForExecutor executorId actor "Owning executor revoked."
    commit
    existingExecutor executorId

def scopeOf (env : Env) (run : Run) (customerDeploymentId : Option String) :
    Service (String × Option String × Option String) :=
  match run.projectId with
  | some projectId => do
    let found ← view fun d => d.projects.find projectId
    let project ← Tx.expect (.valueError "Run project not found.") found
    return ("project:" ++ projectId, some project.organizationId, customerDeploymentId)
  | none => do
    let deployment := (customerDeploymentId.filter (· ≠ "")).getD env.defaultCustomerDeploymentId
    return ("customer-deployment:" ++ deployment, none, some deployment)

/-- `schedule`. -/
def schedule (env : Env) (runId runStepId : String) (task : AgentTaskV1) (idempotencyKey : String)
    (requiredCapabilities : List String) (requiredLabels : List (String × String)) (maxAttempts : Nat)
    (customerDeploymentId : Option String) (commits : Bool := true) : Service ExecutionJob := do
  let foundRun ← view fun d => d.run? runId
  let run ← Tx.expect (.valueError "Run not found.") foundRun
  let foundStep ← view fun d => d.getStep runId runStepId
  let step ← Tx.expect (.valueError "Run step not found.") foundStep
  if task.runId ≠ runId ∨ task.stepId ≠ runStepId then
    Tx.raise (.executionConflict "AgentTaskV1 identity does not match the job.")
  else
    let (scopeKey, organizationId, deployment) ← scopeOf env run customerDeploymentId
    let payloadHash := canonicalHash env task.modelDump
    let stored ← selectJobs env fun job => job.scopeKey == scopeKey && job.idempotencyKey == idempotencyKey
    match stored.head? with
    | some existing =>
      if existing.payloadHash ≠ payloadHash then
        Tx.raise (.executionConflict "The execution job idempotency key has a different payload.")
      else return existing
    | none =>
      let plan ← view fun d => d.latestPlan run.taskId
      let now ← utcnow
      let jobId ← uuid4
      let job : ExecutionJob :=
        { id := jobId, organizationId := organizationId, projectId := run.projectId,
          customerDeploymentId := deployment, scopeKey := scopeKey, runId := runId, runStepId := runStepId,
          taskId := run.taskId, state := .queued, idempotencyKey := idempotencyKey,
          requiredCapabilities := requiredCapabilities.dedup.insertionSort (· ≤ ·),
          requiredLabels := Json.sortByKey requiredLabels,
          secretRequirements := (plan.map ExecutionPlan.secretRequirements).getD [],
          payloadContract := task.modelDump, payloadHash := payloadHash,
          payloadSignature := env.signPayload task.modelDump, attempt := 0, maxAttempts := maxAttempts,
          recoveryCount := 0, lastRecoveryReason := none, leaseOwnerId := none, leaseTokenHash := none,
          leaseExpiresAt := none, leaseHeartbeatAt := none, resultContract := none, resultHash := none,
          resultSignature := none, resultSignatureMetadata := none, failure := none, queuedAt := now,
          leasedAt := none, startedAt := none, completedAt := none, failedAt := none, expiredAt := none,
          cancelledAt := none, deadLetteredAt := none, updatedAt := now }
      insertJob job
      let _ ← appendEvent env run "ExecutionJobQueued" "control-plane"
        (.obj [("job_id", .str jobId), ("required_capabilities", .ofStrings job.requiredCapabilities),
          ("payload_hash", .str payloadHash)]) (some step.id)
      checkpoint env run ("execution_job_queued:" ++ jobId)
      RunService.settle commits
      existingJob jobId

/-- `recover_expired`. -/
def recoverExpired (env : Env) (now : Option Nat := none) (commits : Bool := true) :
    Service (List ExecutionJob) := do
  let now ← match now with
    | some instant => pure instant
    | none => utcnow
  let recovered ← selectJobs env fun job => job.active && job.leaseExpiresAt.any (· ≤ now)
  Tx.forEach recovered fun job => releaseOrExpire job.id now "LeaseExpired"
  if commits then commit else pure ()
  return recovered

/-- The writes of `acquire_lease` on the candidate it claims. -/
def claim (env : Env) (executor : ExecutorRegistration) (now seconds : Nat) (candidate : ExecutionJob)
    (leaseToken : String) : Service (Option LeasedJob) := do
  updateJob candidate.id (ExecutionJob.lease executor.id (tokenHash env "lease" leaseToken) now seconds
    (candidate.attempt + 1))
  updateExecutor executor.id fun executor => { executor with lastHeartbeatAt := some now }
  commit
  let job ← existingJob candidate.id
  return some ⟨job, leaseToken⟩

/-- The loop of `acquire_lease`: claim the first matching candidate whose
stored row is still queued. -/
def claimFirst (env : Env) (executor : ExecutorRegistration) (now seconds : Nat) :
    List ExecutionJob → Service (Option LeasedJob)
  | [] => do
    commit
    return none
  | candidate :: rest => do
    if !candidate.matchedBy executor then claimFirst env executor now seconds rest
    else
      let leaseToken ← tokenUrlsafe
      let claimed ← Tx.read fun s => (s.flushed.jobs.find candidate.id).any fun row => row.state = .queued
      if !claimed then claimFirst env executor now seconds rest
      else claim env executor now seconds candidate leaseToken

/-- `lease_seconds or SACM_EXECUTION_LEASE_SECONDS`. -/
def leaseDuration (env : Env) (leaseSeconds : Option Nat) : Nat :=
  (leaseSeconds.filter (· ≠ 0)).getD env.executionLeaseSeconds

/-- `acquire_lease`. -/
def acquireLease (env : Env) (executorId : String) (leaseSeconds : Option Nat := none) :
    Service (Option LeasedJob) := do
  let executor ← existingExecutor executorId
  requireActive executor
  let now ← utcnow
  let _ ← recoverExpired env (some now) false
  let queued ← selectJobs env (ExecutionJob.eligible executor)
  let candidates := (queued.insertionSort fun a b => toLex (a.queuedAt, a.id) ≤ toLex (b.queuedAt, b.id)).take 100
  claimFirst env executor now (leaseDuration env leaseSeconds) candidates

/-- `_owned_job`. -/
def ownedJob (env : Env) (executor : ExecutorRegistration) (jobId leaseToken : String) :
    Service ExecutionJob := do
  requireActive executor
  let job ← existingJob jobId
  if job.leaseOwnerId ≠ some executor.id then
    Tx.raise (.executionAuthorizationError "The execution job lease belongs to another executor.")
  else if job.leaseTokenHash ≠ some (tokenHash env "lease" leaseToken) then
    Tx.raise (.executorAuthenticationError "Invalid execution job lease token.")
  else return job

/-- `_leased_job`: an expired lease is released on the way out. -/
def leasedJob (env : Env) (executor : ExecutorRegistration) (jobId leaseToken : String) :
    Service ExecutionJob := do
  let job ← ownedJob env executor jobId leaseToken
  let now ← if job.active then utcnow else pure 0
  if job.active ∧ (job.leaseExpiresAt = none ∨ job.leaseExpiresAt.any (· ≤ now)) then do
    let released ← utcnow
    releaseOrExpire jobId released "LeaseExpired"
    commit
    Tx.raise (.executionConflict "Execution job lease has expired.")
  else return job

/-- `start_job`. -/
def startJob (env : Env) (executorId jobId leaseToken : String) : Service ExecutionJob := do
  let executor ← existingExecutor executorId
  let job ← leasedJob env executor jobId leaseToken
  if job.state = .running then return job
  else if job.state ≠ .leased then
    Tx.raise (.executionConflict ("Job cannot start from " ++ job.state.name ++ "."))
  else
    let now ← utcnow
    updateJob jobId (ExecutionJob.begin now)
    let found ← view fun d => d.steps.find job.runStepId
    let step ← Tx.expect (.valueError "Run step not found.") found
    if step.status = .pending then do
      let _ ← RunService.startStep env job.runId job.runStepId
      pure ()
    else pure ()
    let run ← view fun d => d.run? job.runId
    if run.any fun run => run.status = .planning then do
      let _ ← RunService.transition env job.runId .implementing "RemoteExecutionStarted"
        ("executor:" ++ executor.id) (.obj [("job_id", .str job.id), ("attempt", .int job.attempt)])
        (some job.runStepId)
      pure ()
    else commit
    existingJob jobId

/-- `heartbeat_job`. -/
def heartbeatJob (env : Env) (executorId jobId leaseToken : String) (leaseSeconds : Option Nat := none) :
    Service ExecutionJob := do
  let executor ← existingExecutor executorId
  let job ← leasedJob env executor jobId leaseToken
  if !job.active then
    Tx.raise (.executionConflict ("Job cannot heartbeat from " ++ job.state.name ++ "."))
  else
    let now ← utcnow
    updateJob jobId (ExecutionJob.extend now (leaseDuration env leaseSeconds))
    updateExecutor executor.id fun executor => { executor with lastHeartbeatAt := some now }
    commit
    existingJob jobId

/-- `metadata.update(analytics_status="FAILED", analytics_error=...)`. -/
def analyticsFailed (metadata : Option Json) (message : String) : Json :=
  ((metadata.getD (.obj [])).set "analytics_status" (.str "FAILED")).set "analytics_error" (.str message)

/-- The metadata `_refresh_job_analytics` writes. -/
def refreshedMetadata (metadata : Option Json) : Option String → Json
  | some message => analyticsFailed metadata message
  | none => ((metadata.getD (.obj [])).set "analytics_status" (.str "COMPLETED")).erase "analytics_error"

/-- `_refresh_job_analytics`. -/
def refreshJobAnalytics (env : Env) (jobId runId : String) : Service Unit := do
  let analyticsError ← ExternalAgentService.refreshAnalytics env runId
  updateJob jobId fun job =>
    { job with resultSignatureMetadata := some (refreshedMetadata job.resultSignatureMetadata analyticsError) }
  commit

/-- The job `_finish_job` queues for a failure whose recovery was scheduled. -/
def rescheduleRecovery (env : Env) (job : ExecutionJob) (agentSubmission : ExternalAgentSubmission)
    (failed : Bool) : Service Unit :=
  match failed, agentSubmission.recovery with
  | true, some recovery =>
    if recovery.status = .scheduled then do
      let retryTask ← Tx.ofExcept (env.validateTask (agentSubmission.step.input.get "agent_task"))
      let _ ← schedule env job.runId job.runStepId retryTask
        (job.runId ++ ":remote-workflow:recovery:" ++ toString recovery.attempt) job.requiredCapabilities
        job.requiredLabels job.maxAttempts job.customerDeploymentId false
      pure ()
    else pure ()
  | _, _ => pure ()

/-- The event and checkpoint `_finish_job` adds to the run of the job. -/
def recordJobEvent (env : Env) (executor : ExecutorRegistration) (job : ExecutionJob) (hash : String)
    (submission : SignedJobResult) (failed : Bool) : Service Unit := do
  let run ← view fun d => d.run? job.runId
  match run with
  | some run =>
    let _ ← appendEvent env run (if failed then "ExecutionJobFailed" else "ExecutionJobCompleted")
      ("executor:" ++ executor.id)
      (.obj [("job_id", .str job.id), ("attempt", .int job.attempt), ("result_hash", .str hash),
        ("signing_key_fingerprint", .str submission.signingKeyFingerprint)]) (some job.runStepId)
    checkpoint env run ((if failed then "execution_job_failed:" else "execution_job_completed:") ++ job.id)
  | none => pure ()

/-- The body of the `try` block of `_finish_job`. -/
def recordResult (env : Env) (executor : ExecutorRegistration) (job : ExecutionJob) (hash : String)
    (submission : SignedJobResult) (failed : Bool) : Service ExternalAgentSubmission := do
  let agentSubmission ← ExternalAgentService.submit env job.runId job.runStepId submission.result none true
    (!failed)
  rescheduleRecovery env job agentSubmission failed
  recordJobEvent env executor job hash submission failed
  commit
  return agentSubmission

/-- An analytics error is noted on the job; the result stands. -/
def markAnalytics (jobId : String) : Option String → Service Unit
  | some message => do
    updateJob jobId fun job =>
      { job with resultSignatureMetadata := some (analyticsFailed job.resultSignatureMetadata message) }
    commit
  | none => pure ()

/-- The part of `_finish_job` for a job that still holds its lease. -/
def recordFinish (env : Env) (executor : ExecutorRegistration) (job : ExecutionJob) (hash : String)
    (submission : SignedJobResult) (failed : Bool) : Service ExecutionJob := do
  let now ← utcnow
  updateJob job.id (ExecutionJob.finish now executor.id hash submission failed)
  revokeForJob job.id ("executor:" ++ executor.id) "Execution job reached a terminal state."
  let agentSubmission ← Tx.onRaise (recordResult env executor job hash submission failed) rollback
  let analyticsError ← if failed then ExternalAgentService.refreshAnalytics env job.runId
    else pure agentSubmission.analyticsError
  markAnalytics job.id analyticsError
  existingJob job.id

/-- `_finish_job`. -/
def finishJob (env : Env) (executorId jobId : String) (submission : SignedJobResult) (failed : Bool) :
    Service ExecutionJob := do
  let executor ← existingExecutor executorId
  let job ← ownedJob env executor jobId submission.leaseToken
  let actualHash := canonicalHash env submission.result.modelDump
  if actualHash ≠ submission.resultHash then
    Tx.raise (.executionConflict "Result hash does not match the canonical result.")
  else if job.state = .completed ∨ job.state = .failed then
    if job.state = (if failed then .failed else .completed) ∧ job.resultHash.getD "" = actualHash then do
      if (job.resultSignatureMetadata.getD (.obj [])).get "analytics_status" = .str "FAILED" then
        refreshJobAnalytics env jobId job.runId
      else pure ()
      existingJob jobId
    else Tx.raise (.executionConflict "The job already has a different terminal result.")
  else if !job.active then
    Tx.raise (.executionConflict ("Job cannot finish from " ++ job.state.name ++ "."))
  else if submission.result.runId ≠ job.runId ∨ submission.result.stepId ≠ job.runStepId then
    Tx.raise (.executionConflict "Result run_id and step_id do not match the job.")
  else if failed ∧ submission.result.status ≠ .failed then
    Tx.raise (.executionConflict "The fail endpoint requires a FAILED result.")
  else if ¬failed ∧ submission.result.status = .failed then
    Tx.raise (.executionConflict "FAILED results must use the fail endpoint.")
  else if executor.signingKeyFingerprint ≠ submission.signingKeyFingerprint then
    Tx.raise (.executorAuthenticationError "Result signing key fingerprint does not match the executor.")
  else
    match env.verifyEd25519 executor.publicSigningKey submission.result.modelDump submission.signature with
    | .error message => Tx.raise (.executionConflict message)
    | .ok _ => recordFinish env executor job actualHash submission failed

/-- `complete_job`. -/
def completeJob (env : Env) (executorId jobId : String) (submission : SignedJobResult) : Service ExecutionJob :=
  finishJob env executorId jobId submission false

/-- `fail_job`. -/
def failJob (env : Env) (executorId jobId : String) (submission : SignedJobResult) : Service ExecutionJob :=
  finishJob env executorId jobId submission true

/-- Why `recover_orphaned` takes a lease back, if it does. -/
def orphanReason (d : Db) (now : Nat) (job : ExecutionJob) : Option String :=
  let owner := (job.leaseOwnerId.filter (· ≠ "")).bind d.executors.find
  if job.leaseExpiresAt = none ∨ job.leaseExpiresAt.any (· ≤ now) then some "LeaseExpired"
  else match owner with
    | none => some "OrphanedLeaseOwner"
    | some owner =>
      if owner.status = .revoked then some "ExecutorRevoked"
      else if (job.leaseTokenHash.filter (· ≠ "")) = none then some "OrphanedLeaseToken"
      else none

/-- One round of the loop of `recover_orphaned`. -/
def recoverOrphan (now : Nat) (job : ExecutionJob) (reason : String) (report : OrphanReport) :
    Service OrphanReport := do
  releaseOrExpire job.id now reason
  let released ← existingJob job.id
  let dead : Bool := released.state = .deadLetter
  let step ← view fun d => d.steps.find job.runStepId
  let running := step.any fun step => step.status = .running
  if running then updateStep job.runStepId (RunStep.reconcile dead now) else pure ()
  return { recovered := report.recovered + 1
           requeued := if dead then report.requeued else report.requeued + 1
           deadLettered := if dead then report.deadLettered + 1 else report.deadLettered
           reconciledSteps := if running then report.reconciledSteps + 1 else report.reconciledSteps
           jobIds := report.jobIds ++ [job.id] }

/-- The loop of `recover_orphaned`. -/
def recoverOrphans (now : Nat) : List ExecutionJob → OrphanReport → Service OrphanReport
  | [], report => pure report
  | job :: rest, report => do
    let reason ← view fun d => orphanReason d now job
    match reason with
    | none => recoverOrphans now rest report
    | some reason =>
      let next ← recoverOrphan now job reason report
      recoverOrphans now rest next

/-- `recover_orphaned`. -/
def recoverOrphaned (env : Env) (now : Option Nat := none) (organizationId : Option String := none)
    (commits : Bool := true) : Service OrphanReport := do
  let now ← match now with
    | some instant => pure instant
    | none => utcnow
  let jobs ← selectJobs env fun job => job.active &&
    (decide (organizationId.filter (· ≠ "") = none) || decide (job.organizationId = organizationId))
  let report ← recoverOrphans now jobs {}
  if commits then commit else pure ()
  return report

/-- `requeue_dead_letter`. -/
def requeueDeadLetter (jobId reason : String) (resetAttempts : Bool := false) : Service ExecutionJob := do
  let job ← existingJob jobId
  if job.state ≠ .deadLetter then
    Tx.raise (.executionConflict "Only dead-lettered jobs can be requeued.")
  else
    let now ← utcnow
    updateJob jobId (ExecutionJob.requeue now reason resetAttempts)
    let step ← view fun d => d.steps.find job.runStepId
    if step.any fun step => step.status = .failed then updateStep job.runStepId RunStep.requeue else pure ()
    commit
    existingJob jobId

end ExecutionPlaneService

end SacmRuntime
