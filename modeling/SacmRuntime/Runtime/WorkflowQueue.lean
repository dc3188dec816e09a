import SacmRuntime.Runtime.RunEffects

namespace SacmRuntime
open Session Tx Table

def updateWorkflowJob (jobId : String) (f : WorkflowJob → WorkflowJob) : Service Unit :=
  modify fun d => { d with workflowJobs := d.workflowJobs.update jobId f }

namespace WorkflowJob

/-- The retry delay of `fail`, in seconds. -/
def delay (job : WorkflowJob) : Nat := min 300 (2 ^ (job.attempt - 1))

def Exhausted (job : WorkflowJob) : Prop := ¬(job.attempt : Int) < job.maxAttempts

instance (job : WorkflowJob) : Decidable job.Exhausted := inferInstanceAs (Decidable ¬_)

def OwnedWith (token : String) (job : WorkflowJob) : Prop := job.state = .running ∧ job.leaseToken = some token

instance (token : String) (job : WorkflowJob) : Decidable (job.OwnedWith token) := inferInstanceAs (Decidable (_ ∧ _))

/-- The lease has run out by `now`. -/
def expired (now : Nat) (job : WorkflowJob) : Bool :=
  decide (job.state = .running) && job.leaseExpiresAt.any fun expiresAt => decide (expiresAt ≤ now)

/-- `renew` matches the job. -/
def renewable (token : String) (now : Nat) (job : WorkflowJob) : Bool :=
  decide (job.OwnedWith token) && job.leaseExpiresAt.any fun expiresAt => decide (now < expiresAt)

/-- The job may be claimed at `now`. -/
def claimable (now : Nat) (job : WorkflowJob) : Bool :=
  decide (job.state = .queued) && decide (job.availableAt ≤ now)

def resubmit (now : Nat) (job : WorkflowJob) : WorkflowJob :=
  { job with state := .queued, availableAt := now, leaseToken := none, leaseExpiresAt := none, lastError := none,
             completedAt := none }

def finish (state : WorkflowJobState) (now : Nat) (job : WorkflowJob) : WorkflowJob :=
  { job with state := state, leaseToken := none, leaseExpiresAt := none, completedAt := some now }

/-- The update of `claim`. -/
def take (token : String) (now leaseSeconds : Nat) (job : WorkflowJob) : WorkflowJob :=
  { job with state := .running, attempt := job.attempt + 1, leaseToken := some token,
             leaseExpiresAt := some (now + leaseSeconds * 1000000), startedAt := some now }

def extend (now leaseSeconds : Nat) (job : WorkflowJob) : WorkflowJob :=
  { job with leaseExpiresAt := some (now + leaseSeconds * 1000000) }

def retry (error : String) (availableAt : Nat) (job : WorkflowJob) : WorkflowJob :=
  { job with state := .queued, leaseToken := none, leaseExpiresAt := none, lastError := some error,
             availableAt := availableAt }

/-- What `fail` makes of a job whose last attempt failed. -/
def giveUp (error : String) (now : Nat) (job : WorkflowJob) : WorkflowJob :=
  { job.finish .failed now with lastError := some error }

/-- What `_recover_expired` makes of a job whose lease has run out. -/
def recover (now : Nat) (job : WorkflowJob) : WorkflowJob :=
  if job.Exhausted then job.giveUp "Workflow worker lease expired." now
  else job.retry "Workflow worker lease expired." now

def details (job : WorkflowJob) : Json := .obj [("job_id", .str job.id), ("attempt", .int job.attempt)]

end WorkflowJob

structure QueueConfig where
  leaseSeconds : Nat
  maxAttempts : Int

namespace WorkflowQueueService

def leaseLost : Error := .runtimeError "Workflow job lease was lost."

/-- `WorkflowQueueService.get_for_run`. -/
def getForRun (d : Db) (runId : String) : Option WorkflowJob := d.workflowJobs.rows.find? fun job => job.runId == runId

def newJob (config : QueueConfig) (id runId : String) (now : Nat) : WorkflowJob where
  id := id
  runId := runId
  state := .queued
  attempt := 0
  maxAttempts := config.maxAttempts
  availableAt := now
  leaseToken := none
  leaseExpiresAt := none
  lastError := none
  createdAt := now
  startedAt := none
  completedAt := none

/-- The end of `submit`: the job as it was committed. -/
def queued (runId jobId : String) : Service WorkflowJob := do
  commit
  let found ← view fun d => d.workflowJobs.find jobId
  let job ← Tx.expect (.other "InvalidRequestError" "Could not refresh instance") found
  recordMetric "workflow.queued" runId job.details
  return job

/-- `WorkflowQueueService.submit`. -/
def submit (config : QueueConfig) (runId : String) : Service WorkflowJob := do
  let found ← view fun d => d.run? runId
  let run ← Tx.expect (.valueError ("Run " ++ runId ++ " not found")) found
  if run.status = .completed ∨ run.status = .cancelled then
    Tx.raise (.valueError ("Run " ++ runId ++ " cannot be queued from " ++ run.status.name))
  else
    let existing ← view fun d => getForRun d runId
    match existing with
    | some job =>
      if job.state = .queued ∨ job.state = .running then return job
      else
        let now ← utcnow
        updateWorkflowJob job.id (WorkflowJob.resubmit now)
        queued runId job.id
    | none =>
      let jobId ← uuid4
      let now ← utcnow
      let inserted ← view fun d => d.workflowJobs.insert? (newJob config jobId runId now)
      let jobs ← Tx.expect (.integrityError "workflow_jobs.id") inserted
      modify fun d => { d with workflowJobs := jobs }
      queued runId jobId

/-- `WorkflowQueueService.cancel`. -/
def cancel (runId : String) : Service (Option WorkflowJob) := do
  let found ← view fun d => getForRun d runId
  match found with
  | none => return none
  | some job =>
    if job.state = .completed ∨ job.state = .failed ∨ job.state = .cancelled then return some job
    else
      let now ← utcnow
      updateWorkflowJob job.id (WorkflowJob.finish .cancelled now)
      commit
      recordMetric "workflow.queue_cancelled" runId (.obj [("job_id", .str job.id)])
      return some (job.finish .cancelled now)

/-- `WorkflowQueueService._recover_expired`. -/
def recoverExpired (now : Nat) : Service Unit := do
  let expired ← view fun d => d.workflowJobs.rows.filter (WorkflowJob.expired now)
  modify fun d =>
    { d with workflowJobs := d.workflowJobs.updateWhere (WorkflowJob.expired now) (WorkflowJob.recover now) }
  if expired = [] then return ()
  else
    commit
    Tx.forEach expired fun job => recordMetric "workflow.lease_expired" job.runId
      (.obj [("job_id", .str job.id), ("attempt", .int job.attempt), ("requeued", .bool (decide ¬job.Exhausted))])

/-- The candidate of `claim`: the first claimable job by availability and age. -/
def candidate (d : Db) (now : Nat) : Option WorkflowJob :=
  (d.workflowJobs.rows.filter (WorkflowJob.claimable now)).argmin fun job => toLex (job.availableAt, job.createdAt)

/-- The conditional update of `claim` and what follows it. -/
def claimUpdate (config : QueueConfig) (jobId token : String) (now : Nat) :
    Service (Option (WorkflowJob × String)) := do
  let found ← view fun d => d.workflowJobs.find jobId
  match found.filter fun job => decide (job.state = .queued) with
  | none =>
    commit
    return none
  | some job =>
    updateWorkflowJob jobId (WorkflowJob.take token now config.leaseSeconds)
    commit
    let claimed := job.take token now config.leaseSeconds
    recordMetric "workflow.queue_latency_ms" claimed.runId claimed.details
    return some (claimed, token)

/-- `WorkflowQueueService.claim`. -/
def claim (config : QueueConfig) : Service (Option (WorkflowJob × String)) := do
  let now ← utcnow
  recoverExpired now
  let found ← view fun d => candidate d now
  match found with
  | none => return none
  | some job =>
    let token ← uuid4
    claimUpdate config job.id token now

/-- `WorkflowQueueService.renew`. -/
def renew (config : QueueConfig) (jobId token : String) : Service Unit := do
  let now ← utcnow
  let found ← view fun d => d.workflowJobs.find jobId
  if found.any (WorkflowJob.renewable token now) then
    updateWorkflowJob jobId (WorkflowJob.extend now config.leaseSeconds)
    commit
  else
    rollback
    Tx.raise leaseLost

/-- `WorkflowQueueService._require_owned`. -/
def requireOwned (jobId token : String) : Service WorkflowJob := do
  let found ← view fun d => d.workflowJobs.find jobId
  Tx.expect leaseLost (found.filter fun job => decide (job.OwnedWith token))

/-- `WorkflowQueueService.complete`. -/
def complete (jobId token : String) : Service Unit := do
  let job ← requireOwned jobId token
  let now ← utcnow
  updateWorkflowJob jobId (WorkflowJob.finish .completed now)
  commit
  recordMetric "workflow.completed" job.runId job.details

/-- What `fail` does to the run of an exhausted job. -/
def failRun (env : Env) (job : WorkflowJob) (error : String) : Service Unit := do
  let found ← view fun d => d.run? job.runId
  match found with
  | none => return ()
  | some run =>
    if run.status = .failed ∨ run.status = .completed ∨ run.status = .cancelled then return ()
    else
      let _ ← RunService.transition env run.id .failed "WorkflowJobFailed" "system"
        (.obj [("job_id", .str job.id), ("error", .str error)])
      return ()

/-- `error[:4_000]`. -/
def kept (error : String) : String := (error.take 4000).toString

/-- The branch of `fail` for a job that has no attempt left. -/
def exhaust (env : Env) (job : WorkflowJob) (error : String) (now : Nat) : Service Unit := do
  updateWorkflowJob job.id (WorkflowJob.giveUp error now)
  failRun env job error
  commit
  recordMetric "workflow.failed" job.runId job.details

/-- `WorkflowQueueService.fail`. -/
def fail (env : Env) (jobId token error : String) : Service Unit := do
  let job ← requireOwned jobId token
  let now ← utcnow
  if job.Exhausted then exhaust env job (kept error) now
  else
    updateWorkflowJob jobId (WorkflowJob.retry (kept error) (now + job.delay * 1000000))
    commit
    recordMetric "workflow.retry_scheduled" job.runId job.details

section
variable {env : Env} {config : QueueConfig} {d : Db} {supply : Supply} {s : Session Db}
  {runId jobId token error : String}
  {now : Nat} {job : WorkflowJob} {run : Run}

theorem recordMetric_commits (metric runId : String) (details : Json) (s : Session Db) :
    Commits (recordMetric metric runId details) s () s.working :=
  ⟨_, rfl, ⟨rfl, rfl⟩, Logged.metric _ _⟩

theorem request_commits {α : Type} {m : Service α} {result : α} {e : Db}
    (commits : Commits m (start d supply) result e) :
    (request m d supply).1 = .ok result ∧ Logged e (request m d supply).2 := by
  obtain ⟨t, ran, clean, logged⟩ := commits
  unfold request
  rw [ran]
  exact ⟨rfl, clean.1 ▸ logged⟩

theorem requireOwned_run (found : s.working.workflowJobs.find jobId = some job) (owned : job.OwnedWith token) :
    requireOwned jobId token s = (.ok job, s) := by
  unfold requireOwned
  rw [bind_view, found, Option.filter_some, if_pos (by simpa using owned)]
  rfl

theorem requireOwned_lost (lost : ∀ job, s.working.workflowJobs.find jobId = some job → ¬job.OwnedWith token) :
    requireOwned jobId token s = (.error leaseLost, s) := by
  unfold requireOwned
  rw [bind_view]
  cases found : s.working.workflowJobs.find jobId with
  | none => rfl
  | some job =>
    rw [Option.filter_some, if_neg (by simpa using lost job found)]
    rfl

theorem closing_metric (metric runId : String) (details : Json) (s : Session Db) :
    Commits (commit >>= fun _ => recordMetric metric runId details) s () s.working := by
  obtain ⟨t, ran, clean, logged⟩ :=
    recordMetric_commits metric runId details { s with committed := s.working, flushed := s.working }
  exact ⟨t, ran, clean, logged⟩

theorem complete_lost (lost : ∀ job, d.workflowJobs.find jobId = some job → ¬job.OwnedWith token) :
    request (complete jobId token) d supply = (.error leaseLost, d) := by
  unfold request complete
  rw [bind_run_error _ (requireOwned_lost (s := start d supply) lost)]
  rfl

theorem complete_owned (found : d.workflowJobs.find jobId = some job) (owned : job.OwnedWith token) :
    (request (complete jobId token) d supply).1 = .ok () ∧
      Logged { d with workflowJobs := d.workflowJobs.update jobId (WorkflowJob.finish .completed (supply.clock 0)) }
        (request (complete jobId token) d supply).2 := by
  refine request_commits ?_
  unfold complete
  rw [Commits, bind_run_ok _ (requireOwned_run (s := start d supply) found owned)]
  exact closing_metric _ _ _ _

theorem renew_lost (lost : (d.workflowJobs.find jobId).any (WorkflowJob.renewable token (supply.clock 0)) = false) :
    request (renew config jobId token) d supply = (.error leaseLost, d) := by
  unfold request renew
  simp only [bind_utcnow, bind_view]
  rw [if_neg (by simpa [start] using lost)]
  rfl

theorem renew_owned (live : (d.workflowJobs.find jobId).any (WorkflowJob.renewable token (supply.clock 0)) = true) :
    (request (renew config jobId token) d supply).1 = .ok () ∧
      Logged
        { d with
          workflowJobs := d.workflowJobs.update jobId (WorkflowJob.extend (supply.clock 0) config.leaseSeconds) }
        (request (renew config jobId token) d supply).2 := by
  refine request_commits ?_
  unfold renew
  rw [Commits]
  simp only [bind_utcnow, bind_view]
  rw [if_pos (by simpa [start] using live)]
  exact ⟨_, rfl, ⟨rfl, rfl⟩, Logged.refl _⟩

theorem fail_lost (lost : ∀ job, d.workflowJobs.find jobId = some job → ¬job.OwnedWith token) :
    request (fail env jobId token error) d supply = (.error leaseLost, d) := by
  unfold request fail
  rw [bind_run_error _ (requireOwned_lost (s := start d supply) lost)]
  rfl

theorem fail_retries (found : d.workflowJobs.find jobId = some job) (owned : job.OwnedWith token)
    (left : ¬job.Exhausted) :
    (request (fail env jobId token error) d supply).1 = .ok () ∧
      Logged { d with
          workflowJobs := d.workflowJobs.update jobId
            (WorkflowJob.retry (kept error) (supply.clock 0 + job.delay * 1000000)) }
        (request (fail env jobId token error) d supply).2 := by
  refine request_commits ?_
  unfold fail
  rw [Commits, bind_run_ok _ (requireOwned_run (s := start d supply) found owned)]
  simp only [bind_utcnow, if_neg left]
  exact closing_metric _ _ _ _

/-- The store in which `fail` has given a job up. -/
def givenUp (jobId error : String) (now : Nat) (d : Db) : Db :=
  { d with workflowJobs := d.workflowJobs.update jobId (WorkflowJob.giveUp (kept error) now) }

/-- The session in which `fail` looks at the run. -/
def givingUp (jobId error : String) (d : Db) (supply : Supply) : Session Db :=
  { start d supply with
    working := givenUp jobId error (supply.clock 0) d, clock := fun n => supply.clock (n + 1) }

section
variable (found : d.workflowJobs.find jobId = some job) (owned : job.OwnedWith token) (exhausted : job.Exhausted)
include found owned exhausted

/-- A job without attempts: `fail` gives it up, and goes on with its run. -/
theorem fail_exhausted : fail env jobId token error (start d supply) =
      (failRun env job (kept error) >>= fun _ => commit >>= fun _ =>
        recordMetric "workflow.failed" job.runId job.details) (givingUp jobId error d supply) := by
  have key : job.id = jobId := find_key found
  unfold fail
  rw [bind_run_ok _ (requireOwned_run (s := start d supply) found owned)]
  simp only [bind_utcnow, if_pos exhausted]
  subst key
  rfl

theorem fail_gives_up
    (ended : ∀ run, d.run? job.runId = some run → run.status = .failed ∨ run.status = .completed ∨
      run.status = .cancelled) :
    (request (fail env jobId token error) d supply).1 = .ok () ∧
      Logged (givenUp jobId error (supply.clock 0) d) (request (fail env jobId token error) d supply).2 := by
  refine request_commits ?_
  rw [Commits, fail_exhausted found owned exhausted]
  have untouched : failRun env job (kept error) (givingUp jobId error d supply) =
      (.ok (), givingUp jobId error d supply) := by
    unfold failRun
    rw [bind_view]
    have same : (givingUp jobId error d supply).working.run? job.runId = d.run? job.runId := rfl
    rw [same]
    cases atRun : d.run? job.runId with
    | none => rfl
    | some run =>
      simp only [if_pos (ended run atRun)]
      rfl
  rw [bind_run_ok _ untouched]
  exact closing_metric _ _ _ _

theorem fail_moves_run (atRun : d.run? job.runId = some run)
    (open_ : ¬(run.status = .failed ∨ run.status = .completed ∨ run.status = .cancelled))
    (legal : RunStatus.failed ∈ allowedTransitions run.status) :
    (request (fail env jobId token error) d supply).1 = .ok () ∧
      Logged { givenUp jobId error (supply.clock 0) d with
          runs := d.runs.update job.runId fun run => run.moveTo .failed (supply.clock 1) }
        (request (fail env jobId token error) d supply).2 := by
  refine request_commits ?_
  rw [Commits, fail_exhausted found owned exhausted]
  have key : run.id = job.runId := find_key atRun
  have here : (givingUp jobId error d supply).working.run? run.id = some run := by
    rw [key]
    exact atRun
  obtain ⟨t, moved, -, logged⟩ := transition_run env "WorkflowJobFailed" "system"
    (.obj [("job_id", .str job.id), ("error", .str (kept error))]) none here (.inr legal) (by decide)
  have ran : failRun env job (kept error) (givingUp jobId error d supply) = (.ok (), t) := by
    unfold failRun
    rw [bind_view]
    have same : (givingUp jobId error d supply).working.run? job.runId = some run := atRun
    rw [same]
    simp only [if_neg open_]
    rw [bind_run_ok _ moved]
    rfl
  rw [bind_run_ok _ ran]
  obtain ⟨u, closed, clean, more⟩ := closing_metric "workflow.failed" job.runId job.details t
  rw [key] at logged
  exact ⟨u, closed, clean, logged.trans more⟩

theorem fail_raises (atRun : d.run? job.runId = some run)
    (open_ : ¬(run.status = .failed ∨ run.status = .completed ∨ run.status = .cancelled))
    (illegal : RunStatus.failed ∉ allowedTransitions run.status) :
    request (fail env jobId token error) d supply =
      (.error (.valueError ("Invalid transition: " ++ run.status.name ++ " -> " ++ RunStatus.failed.name)), d) := by
  have key : run.id = job.runId := find_key atRun
  have here : (givingUp jobId error d supply).working.run? run.id = some run := by
    rw [key]
    exact atRun
  have refused : RunStatus.failed ≠ run.status ∧ RunStatus.failed ∉ allowedTransitions run.status :=
    ⟨fun same => open_ (.inl same.symm), illegal⟩
  have raised : failRun env job (kept error) (givingUp jobId error d supply) =
      (.error (.valueError ("Invalid transition: " ++ run.status.name ++ " -> " ++ RunStatus.failed.name)),
        givingUp jobId error d supply) := by
    unfold failRun
    rw [bind_view]
    have same : (givingUp jobId error d supply).working.run? job.runId = some run := atRun
    rw [same]
    simp only [if_neg open_]
    unfold RunService.transition
    rw [bind_assoc_run, bind_run_ok _ (requireRun_run here), if_pos refused]
    rfl
  unfold request
  rw [fail_exhausted found owned exhausted, bind_run_error _ raised]
  rfl

end

theorem forEach_metrics {α : Type} (metric about : α → String) (details : α → Json) (items : List α) (d : Db) :
    ∃ e, Logged d e ∧ ∀ supply,
      forEach items (fun item => recordMetric (metric item) (about item) (details item)) (start d supply) =
        (.ok (), start e supply) := by
  induction items generalizing d with
  | nil => exact ⟨d, Logged.refl d, fun _ => rfl⟩
  | cons item rest ih =>
    obtain ⟨e, logged, ran⟩ := ih { d with
      metrics := d.metrics ++ [⟨metric item, about item, (d.run? (about item)).map Run.taskId, details item⟩] }
    refine ⟨e, (Logged.metric d _).trans logged, fun supply => ?_⟩
    unfold forEach
    exact ran supply

def recovered (now : Nat) (d : Db) : Db :=
  { d with workflowJobs := d.workflowJobs.updateWhere (WorkflowJob.expired now) (WorkflowJob.recover now) }

theorem recoverExpired_run (d : Db) (now : Nat) : ∃ e, Logged (recovered now d) e ∧ ∀ supply,
    recoverExpired now (start d supply) = (.ok (), start e supply) := by
  by_cases idle : d.workflowJobs.rows.filter (WorkflowJob.expired now) = []
  · have same : d.workflowJobs.updateWhere (WorkflowJob.expired now) (WorkflowJob.recover now) = d.workflowJobs :=
      updateWhere_of_none idle
    refine ⟨d, ?_, fun supply => ?_⟩
    · unfold recovered
      rw [same]
      exact Logged.refl d
    · unfold recoverExpired
      simp only [bind_view, bind_modify, start_working, idle, same, if_true]
      rfl
  · obtain ⟨e, logged, ran⟩ := forEach_metrics (fun _ => "workflow.lease_expired") WorkflowJob.runId
      (fun job => .obj [("job_id", .str job.id), ("attempt", .int job.attempt),
        ("requeued", .bool (decide ¬job.Exhausted))])
      (d.workflowJobs.rows.filter (WorkflowJob.expired now)) (recovered now d)
    refine ⟨e, logged, fun supply => ?_⟩
    unfold recoverExpired
    simp only [bind_view, bind_modify]
    split
    · exact absurd (by assumption) idle
    · exact ran supply

theorem submit_refused (refused : ∀ run, d.run? runId = some run → run.status = .completed ∨ run.status = .cancelled) :
    ∃ e, request (submit config runId) d supply = (.error e, d) := by
  unfold request submit
  rw [bind_view]
  cases atRun : d.run? runId with
  | none =>
    have absent : (start d supply).working.run? runId = none := atRun
    rw [absent]
    exact ⟨_, rfl⟩
  | some run =>
    have here : (start d supply).working.run? runId = some run := atRun
    rw [here, bind_expect_some, if_pos (refused run atRun)]
    exact ⟨_, rfl⟩

theorem submit_waiting (atRun : d.run? runId = some run) (open_ : ¬(run.status = .completed ∨ run.status = .cancelled))
    (found : getForRun d runId = some job) (waiting : job.state = .queued ∨ job.state = .running) :
    request (submit config runId) d supply = (.ok job, d) := by
  have here : (start d supply).working.run? runId = some run := atRun
  have existing : getForRun (start d supply).working runId = some job := found
  unfold request submit
  rw [bind_view, here, bind_expect_some, if_neg open_, bind_view, existing]
  simp only [if_pos waiting]
  rfl

theorem queued_run (found : s.working.workflowJobs.find jobId = some job) :
    Commits (queued runId jobId) s job s.working := by
  obtain ⟨t, recorded, clean, logged⟩ :=
    recordMetric_commits "workflow.queued" runId job.details { s with committed := s.working, flushed := s.working }
  refine ⟨t, ?_, clean, logged⟩
  unfold queued
  rw [bind_commit, bind_view, found, bind_expect_some, bind_run_ok _ recorded]
  rfl

section
variable (atRun : d.run? runId = some run) (open_ : ¬(run.status = .completed ∨ run.status = .cancelled))
include atRun open_

theorem submit_requeues (found : getForRun d runId = some job) (done : ¬(job.state = .queued ∨ job.state = .running)) :
    (request (submit config runId) d supply).1 = .ok (job.resubmit (supply.clock 0)) ∧
      Logged { d with workflowJobs := d.workflowJobs.update job.id (WorkflowJob.resubmit (supply.clock 0)) }
        (request (submit config runId) d supply).2 := by
  refine request_commits ?_
  have here : (start d supply).working.run? runId = some run := atRun
  have existing : getForRun (start d supply).working runId = some job := found
  have inTable : d.workflowJobs.find job.id = some job := find_of_mem (List.mem_of_find?_eq_some found)
  unfold submit
  rw [Commits, bind_view, here, bind_expect_some, if_neg open_, bind_view, existing]
  simp only [if_neg done, bind_utcnow, updateWorkflowJob, bind_modify]
  refine queued_run ?_
  have updated : (d.workflowJobs.update job.id (WorkflowJob.resubmit (supply.clock 0))).find job.id =
      (d.workflowJobs.find job.id).map (WorkflowJob.resubmit (supply.clock 0)) := find_update_self fun _ => rfl
  rw [inTable] at updated
  exact updated

theorem submit_inserts {next : Table WorkflowJob} (absent : getForRun d runId = none)
    (inserted : d.workflowJobs.insert? (newJob config (supply.uuids 0) runId (supply.clock 0)) = some next) :
    (request (submit config runId) d supply).1 = .ok (newJob config (supply.uuids 0) runId (supply.clock 0)) ∧
      Logged { d with workflowJobs := next } (request (submit config runId) d supply).2 := by
  refine request_commits ?_
  have here : (start d supply).working.run? runId = some run := atRun
  have missing : getForRun (start d supply).working runId = none := absent
  have new : (start d supply).working.workflowJobs.insert?
      (newJob config ((start d supply).uuids 0) runId ((start d supply).clock 0)) = some next := inserted
  unfold submit
  rw [Commits, bind_view, here, bind_expect_some, if_neg open_, bind_view, missing]
  simp only [bind_uuid4, bind_utcnow, bind_view, new, bind_expect_some, bind_modify]
  refine queued_run ?_
  have added := find_insert? inserted (supply.uuids 0)
  exact added.trans (if_pos rfl)

theorem submit_clashes (absent : getForRun d runId = none)
    (clash : d.workflowJobs.insert? (newJob config (supply.uuids 0) runId (supply.clock 0)) = none) :
    request (submit config runId) d supply = (.error (.integrityError "workflow_jobs.id"), d) := by
  have here : (start d supply).working.run? runId = some run := atRun
  have missing : getForRun (start d supply).working runId = none := absent
  have taken : (start d supply).working.workflowJobs.insert?
      (newJob config ((start d supply).uuids 0) runId ((start d supply).clock 0)) = none := clash
  unfold request submit
  rw [bind_view, here, bind_expect_some, if_neg open_, bind_view, missing]
  simp only [bind_uuid4, bind_utcnow, bind_view, taken]
  rfl

end

theorem cancel_idle (idle : ∀ job, getForRun d runId = some job →
      job.state = .completed ∨ job.state = .failed ∨ job.state = .cancelled) :
    request (cancel runId) d supply = (.ok (getForRun d runId), d) := by
  unfold request cancel
  rw [bind_view]
  have same : getForRun (start d supply).working runId = getForRun d runId := rfl
  rw [same]
  cases found : getForRun d runId with
  | none => rfl
  | some job =>
    simp only [if_pos (idle job found)]
    rfl

theorem cancel_active (found : getForRun d runId = some job)
    (active : ¬(job.state = .completed ∨ job.state = .failed ∨ job.state = .cancelled)) :
    (request (cancel runId) d supply).1 = .ok (some (job.finish .cancelled (supply.clock 0))) ∧
      Logged { d with workflowJobs := d.workflowJobs.update job.id (WorkflowJob.finish .cancelled (supply.clock 0)) }
        (request (cancel runId) d supply).2 := by
  refine request_commits ?_
  have existing : getForRun (start d supply).working runId = some job := found
  unfold cancel
  rw [Commits, bind_view, existing]
  simp only [if_neg active, bind_utcnow, updateWorkflowJob, bind_modify, bind_commit]
  exact ⟨_, rfl, ⟨rfl, rfl⟩, Logged.metric _ _⟩

theorem claimUpdate_missed (missed : ∀ job, d.workflowJobs.find jobId = some job → job.state ≠ .queued) :
    claimUpdate config jobId token now (start d supply) = (.ok none, start d supply) := by
  unfold claimUpdate
  rw [bind_view, start_working]
  have unmatched : (d.workflowJobs.find jobId).filter (fun job => decide (job.state = .queued)) = none := by
    cases found : d.workflowJobs.find jobId with
    | none => rfl
    | some job => rw [Option.filter_some, if_neg (by simpa using missed job found)]
  rw [unmatched]
  rfl

theorem claimUpdate_run (config : QueueConfig) (token : String) (now : Nat)
    (found : d.workflowJobs.find jobId = some job) (waiting : job.state = .queued) :
    ∃ e, Logged { d with
        workflowJobs := d.workflowJobs.update jobId (WorkflowJob.take token now config.leaseSeconds) } e ∧
      ∀ supply, claimUpdate config jobId token now (start d supply) =
        (.ok (some (job.take token now config.leaseSeconds, token)), start e supply) := by
  let taken : Db := { d with
    workflowJobs := d.workflowJobs.update jobId (WorkflowJob.take token now config.leaseSeconds) }
  refine ⟨_, Logged.metric taken ⟨"workflow.queue_latency_ms", job.runId, (d.run? job.runId).map Run.taskId,
    (job.take token now config.leaseSeconds).details⟩, fun supply => ?_⟩
  unfold claimUpdate
  rw [bind_view, start_working, found, Option.filter_some, if_pos (by simpa using waiting)]
  rfl

theorem candidate_waits (read : candidate d now = some job) :
    d.workflowJobs.find job.id = some job ∧ job.state = .queued := by
  have picked := List.mem_filter.mp (List.argmin_mem read)
  have claimable := picked.2
  simp only [WorkflowJob.claimable, Bool.and_eq_true, decide_eq_true_eq] at claimable
  exact ⟨find_of_mem picked.1, claimable.1⟩

theorem claim_run (config : QueueConfig) (d : Db) (supply : Supply) :
    claim config (start d supply) =
      match candidate (request (recoverExpired (supply.clock 0)) d supply).2 (supply.clock 0) with
      | none => (.ok none, start (request (recoverExpired (supply.clock 0)) d supply).2
          ⟨fun n => supply.clock (n + 1), supply.uuids, supply.tokens⟩)
      | some job => claimUpdate config job.id (supply.uuids 0) (supply.clock 0)
          (start (request (recoverExpired (supply.clock 0)) d supply).2
            ⟨fun n => supply.clock (n + 1), fun n => supply.uuids (n + 1), supply.tokens⟩) := by
  obtain ⟨e, -, ran⟩ := recoverExpired_run d (supply.clock 0)
  have here : (request (recoverExpired (supply.clock 0)) d supply).2 = e := by
    unfold request
    rw [ran]
    rfl
  have later := ran ⟨fun n => supply.clock (n + 1), supply.uuids, supply.tokens⟩
  rw [here]
  unfold claim
  rw [bind_utcnow]
  refine (bind_run_ok _ later).trans ?_
  have reading : (start d supply).clock 0 = supply.clock 0 := rfl
  rw [bind_view, start_working, reading]
  cases candidate e (supply.clock 0) <;> rfl

end

end WorkflowQueueService

end SacmRuntime
