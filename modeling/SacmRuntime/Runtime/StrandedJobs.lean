import SacmRuntime.Runtime.ApprovalGate
import SacmRuntime.Runtime.OrchestratedJobs

namespace SacmRuntime
open Session ExecutionPlaneService JiraOrchestrationService Table Tx ExternalAgentService

/-- The job is stored, and its step carries no agent task. -/
def Stranded (jobId : String) (d : Db) : Prop :=
  ∃ job step, d.jobs.find jobId = some job ∧ d.steps.find job.runStepId = some step ∧ step.Taskless

/-- Every job has its step: the foreign key of `execution_jobs`. -/
def JobsLinked (d : Db) : Prop := ∀ job ∈ d.jobs.rows, (d.steps.find job.runStepId).isSome

/-- A step of the second store that carries an agent task carried one in the first. -/
def NoneAssigned (d e : Db) : Prop :=
  ∀ stepId step, e.steps.find stepId = some step →
    step.Taskless ∨ ∃ old, d.steps.find stepId = some old ∧ ¬old.Taskless

section
variable {env : Env} {p : Permit} {s : Session Db} {d e : Db} {jobId runId planId : String}
  {plannedSteps : List PlannedStep} {planned : PlannedStep}

theorem Write.keeps_stranded {next : Db} (write : Write env p s next) (unrewound : ∀ runId, ¬p.rewind runId)
    (stranded : Stranded jobId s.working) : Stranded jobId next := by
  obtain ⟨job, step, found, atStep, taskless⟩ := stranded
  cases write with
  | other _ steps _ _ jobs => exact ⟨job, step, jobs ▸ found, steps ▸ atStep, taskless⟩
  | insertRun | run | event | snapshot => exact ⟨job, step, found, atStep, taskless⟩
  | insertStep _ _ inserted => exact ⟨job, step, found, find_insert?_of_some inserted atStep, taskless⟩
  | insertJob _ _ _ _ inserted => exact ⟨job, step, find_insert?_of_some inserted found, atStep, taskless⟩
  | step id f move =>
    by_cases here : job.runStepId = id
    · subst here
      have moved := move step atStep
      have after : (s.working.steps.update job.runStepId f).find job.runStepId = some (f step) := by
        rw [find_update, if_pos rfl, atStep]
        exact congrArg some (rewriteRow_of_keeps moved.id)
      exact ⟨job, f step, found, after, (moved.taskless taskless).resolve_right (unrewound step.runId)⟩
    · exact ⟨job, step, found, (find_update_ne here).trans atStep, taskless⟩
  | job id f move =>
    by_cases here : jobId = id
    · subst here
      have moved := move job found
      have after : (s.working.jobs.update jobId f).find jobId = some (f job) := by
        rw [find_update, if_pos rfl, found]
        exact congrArg some (rewriteRow_of_keeps moved.id)
      have sameStep : (f job).runStepId = job.runStepId := congrArg (fun order => order.1.2) moved.order
      exact ⟨f job, step, after, by rw [sameStep]; exact atStep, taskless⟩
    · exact ⟨job, step, (find_update_ne here).trans found, atStep, taskless⟩

theorem Forward.keeps_stranded (history : Forward env d e) (stranded : Stranded jobId d) : Stranded jobId e := by
  refine history.keeps (P := Stranded jobId) (fun d supply op forward kept => ?_) stranded
  exact request_keeps (op.writes env d supply) (fun _ _ write => write.keeps_stranded forward) kept

theorem JiraOrchestrationService.Stores.keeps_linked (stores : Stores env runId planId planned d e)
    (linked : JobsLinked d) : JobsLinked e := by
  cases stores with
  | records logged =>
    intro job member
    rw [logged.jobs] at member
    rw [logged.steps]
    exact linked job member
  | step _ _ inserted =>
    intro job member
    obtain ⟨step, found⟩ := Option.isSome_iff_exists.mp (linked job member)
    exact Option.isSome_iff_exists.mpr ⟨step, find_insert?_of_some inserted found⟩
  | @job step _ _ _ _ found _ order _ inserted =>
    intro job member
    rcases (mem_insert? inserted).mp member with old | rfl
    · exact linked job old
    · have ofStep : job.runStepId = step.id := congrArg (fun order => order.1.2) order
      exact Option.isSome_iff_exists.mpr ⟨step, ofStep ▸ (stepWith_some found).1⟩

theorem JiraOrchestrationService.Stores.keeps_unassigned {first : Db} (stores : Stores env runId planId planned d e)
    (none : NoneAssigned first d) : NoneAssigned first e := by
  intro stepId step found
  cases stores with
  | records logged => exact none stepId step (logged.steps ▸ found)
  | job => exact none stepId step found
  | step id unused inserted =>
    change find _ stepId = some step at found
    rw [find_insert? inserted] at found
    split at found
    · cases found
      exact .inl ⟨rfl, rfl⟩
    · exact none stepId step found

variable {job : ExecutionJob} {step : RunStep}

/-- A job the orchestration returned is stranded, unless its step was stored
with an agent task before. -/
theorem JiraOrchestrationService.Returned.stranded {mid last : Db} (linked : JobsLinked mid)
    (stored : StoresAll env runId planId plannedSteps mid last) (returned : Returned planId planned last job)
    (unassigned : ∀ step, mid.steps.find job.runStepId = some step → step.Taskless) : Stranded job.id last := by
  have linkedAfter : JobsLinked last := stored.keeps (fun _ _ _ _ stores => stores.keeps_linked) linked
  have noneAssigned : NoneAssigned mid last := by
    refine stored.keeps (P := NoneAssigned mid) (fun _ _ _ _ stores => stores.keeps_unassigned) fun stepId step
      found => ?_
    by_cases taskless : step.Taskless
    · exact .inl taskless
    · exact .inr ⟨step, found, taskless⟩
  obtain ⟨step, found⟩ := Option.isSome_iff_exists.mp (linkedAfter job (find_mem returned.found))
  refine ⟨job, step, returned.found, found, ?_⟩
  rcases noneAssigned _ step found with taskless | ⟨old, before, assigned⟩
  · exact taskless
  · exact absurd (unassigned old before) assigned

/-- `submit` raises on a step that carries no agent task, before it writes anything. -/
theorem submit_taskless (env : Env) (runId : String) {stepId : String} (result : AgentResultV1)
    (actorId : Option String) (trusted commits : Bool) (found : s.working.steps.find stepId = some step)
    (taskless : step.Taskless) :
    ∃ error, submit env runId stepId result actorId trusted commits s = (.error error, s) := by
  let P (outcome : Except Error ExternalAgentSubmission × Session Db) : Prop := ∃ error, outcome = (.error error, s)
  change P (submit env runId stepId result actorId trusted commits s)
  unfold submit existingStep
  refine outcome_ofExcept (P := P) (fun error => ⟨error, rfl⟩) fun _ _ => ?_
  rw [bind_assoc_run, bind_view]
  refine outcome_expect (P := P) ⟨_, rfl⟩ fun row atStep => ?_
  cases Option.some.inj ((getStep_find atStep).1.symm.trans found)
  rw [if_pos taskless.1]
  exact ⟨_, rfl⟩

theorem recordFinish_stranded (executor : ExecutorRegistration) (hash : String) (submission : SignedJobResult)
    (failed : Bool) (found : s.working.steps.find job.runStepId = some step) (taskless : step.Taskless) :
    ∃ error t, recordFinish env executor job hash submission failed s = (.error error, t) ∧
      t.committed = s.committed := by
  unfold recordFinish updateJob revokeForJob
  rw [bind_utcnow, bind_modify, bind_assoc_run, bind_utcnow, bind_modify]
  generalize written : Session.mk _ _ _ _ _ _ = mid
  have atStep : mid.working.steps.find job.runStepId = some step := by
    rw [← written]
    exact found
  have kept : mid.committed = s.committed := by rw [← written]
  obtain ⟨error, refused⟩ := submit_taskless env job.runId submission.result none true (!failed) atStep taskless
  have stops : onRaise (recordResult env executor job hash submission failed) rollback mid =
      (.error error, (rollback mid : Except Error Unit × Session Db).2) := by
    unfold onRaise recordResult
    rw [bind_run_error _ refused]
  rw [bind_run_error _ stops]
  exact ⟨error, _, rfl, kept⟩

/-- Whoever holds the lease of a stranded job, with whatever result: the
request raises and leaves nothing behind. -/
theorem finishJob_stranded (stranded : Stranded jobId d)
    (active : ∀ job, d.jobs.find jobId = some job → job.active = true)
    (executorId : String) (submission : SignedJobResult) (failed : Bool) (supply : Supply) :
    ∃ error, request (finishJob env executorId jobId submission failed) d supply = (.error error, d) := by
  obtain ⟨job, step, found, atStep, taskless⟩ := stranded
  let P (outcome : Except Error ExecutionJob × Session Db) : Prop :=
    ∃ error, outcome.1 = .error error ∧ outcome.2.committed = d
  suffices ends : P (finishJob env executorId jobId submission failed (start d supply)) by
    obtain ⟨error, raised, kept⟩ := ends
    exact ⟨error, Prod.ext raised kept⟩
  unfold finishJob existingExecutor
  rw [bind_assoc_run, bind_view]
  refine outcome_expect (P := P) ⟨_, rfl, rfl⟩ fun executor _ => ?_
  rcases ownedJob_run env executor jobId submission.leaseToken (start d supply) with ⟨error, ran⟩ | ⟨held, owned, ran⟩
  · rw [bind_run_error _ ran]
    exact ⟨error, rfl, rfl⟩
  rw [bind_run_ok _ ran]
  cases Option.some.inj (owned.found.symm.trans found)
  have isActive : job.active = true := active job found
  refine outcome_ite (P := P) (fun _ => ⟨_, rfl, rfl⟩) fun _ => ?_
  refine outcome_ite (P := P) (fun done => absurd done (unfinished_of_active isActive)) fun _ => ?_
  refine outcome_ite (P := P) (fun _ => ⟨_, rfl, rfl⟩) fun _ => ?_
  refine outcome_ite (P := P) (fun _ => ⟨_, rfl, rfl⟩) fun _ => ?_
  refine outcome_ite (P := P) (fun _ => ⟨_, rfl, rfl⟩) fun _ => ?_
  refine outcome_ite (P := P) (fun _ => ⟨_, rfl, rfl⟩) fun _ => ?_
  refine outcome_ite (P := P) (fun _ => ⟨_, rfl, rfl⟩) fun _ => ?_
  cases env.verifyEd25519 executor.publicSigningKey submission.result.modelDump submission.signature with
  | error message => exact ⟨_, rfl, rfl⟩
  | ok _ =>
    obtain ⟨error, t, refused, kept⟩ := recordFinish_stranded executor (canonicalHash env submission.result.modelDump)
      submission failed (s := start d supply) atStep taskless
    exact ⟨error, congrArg Prod.fst refused, (congrArg (fun outcome => outcome.2.committed) refused).trans kept⟩

end

/-- A job that an orchestration returned can never be finished. Unless its
step was stored with an agent task before the call, then whatever requests
follow, as long as the job is leased or running every `complete_job` and every
`fail_job` raises and changes nothing. -/
theorem orchestrated_job_never_finishes {env : Env} {tools : PlanningTools} {parsing : IntParsing}
    {checks : DeliveryChecks} {connectorProject taskId policyPack actor : String} {d e : PlanningDb} {supply : Supply}
    {jobs : List ExecutionJob} {job held : ExecutionJob} {later : Db} (linked : JobsLinked d.shared)
    (returned : request (orchestrate env tools parsing checks connectorProject taskId policyPack actor) d supply =
      (.ok jobs, e))
    (member : job ∈ jobs) (unassigned : ∀ step, d.shared.steps.find job.runStepId = some step → step.Taskless)
    (history : Forward env e.shared later) (found : later.jobs.find job.id = some held) (active : held.active = true)
    (executorId : String) (submission : SignedJobResult) (last : Supply) :
    (∃ error, request (completeJob env executorId job.id submission) later last = (.error error, later)) ∧
      ∃ error, request (failJob env executorId job.id submission) later last = (.error error, later) := by
  have stranded : Stranded job.id e.shared := by
    have ends := orchestrate_ends env tools parsing checks connectorProject taskId policyPack actor d supply
    rw [returned] at ends
    cases ends with
    | idle _ _ none =>
      rw [none jobs rfl] at member
      cases member
    | @queued plan run mid _ _ _ _ _ _ _ _ stepsBefore jobsBefore _ _ _ writes stepsAfter jobsAfter all =>
      obtain ⟨planned, _, isReturned⟩ := exists_related (all jobs rfl).flip job member
      have linkedMid : JobsLinked mid := by
        unfold JobsLinked
        rw [jobsBefore, stepsBefore]
        exact linked
      obtain ⟨row, step, atJob, atStep, taskless⟩ := isReturned.stranded linkedMid writes (by rwa [stepsBefore])
      exact ⟨row, step, jobsAfter ▸ atJob, stepsAfter ▸ atStep, taskless⟩
  have still := history.keeps_stranded stranded
  have isActive : ∀ row, later.jobs.find job.id = some row → row.active = true := by
    intro row atRow
    cases Option.some.inj (atRow.symm.trans found)
    exact active
  exact ⟨finishJob_stranded still isActive executorId submission false last,
    finishJob_stranded still isActive executorId submission true last⟩

namespace Sample

def queuedDelivery : Except Error (List ExecutionJob) × PlanningDb :=
  orchestrated [plannedStep "implement" []] allowed deliveryStore "a"

def deliveryStarted : Db :=
  afterAll deliveryEnv queuedDelivery.2.shared
    [(.acquireLease "x" none, supply), (.startJob "x" "a2" "token-0", supplyOf "b")]

def deliveryResult (status : ResultStatus) : SignedJobResult :=
  let result : AgentResultV1 := { runId := "a0", stepId := "a1", status := status, summary := "done" }
  ⟨"token-0", result, canonicalHash deliveryEnv result.modelDump, "signature", "Ed25519", "fingerprint"⟩

theorem queuedDelivery_job : ∃ job, queuedDelivery = (.ok [job], queuedDelivery.2) ∧ job.id = "a2" := by
  have ids : queuedDelivery.1.toOption.map (List.map ExecutionJob.id) = some ["a2"] := by decide +kernel
  rcases ran : queuedDelivery with ⟨result, e⟩
  rw [ran] at ids
  cases result with
  | error error => cases ids
  | ok jobs =>
    obtain ⟨job, rfl, named⟩ := List.map_eq_singleton_iff.mp (Option.some.inj ids)
    exact ⟨job, rfl, named⟩

theorem deliveryStarted_running :
    ∃ held, deliveryStarted.jobs.find "a2" = some held ∧ held.state = .running := by
  have state : (deliveryStarted.jobs.find "a2").map ExecutionJob.state = some .running := by decide +kernel
  obtain ⟨held, found, running⟩ := Option.map_eq_some_iff.mp state
  exact ⟨held, found, running⟩

theorem deliveryStarted_history : Forward deliveryEnv queuedDelivery.2.shared deliveryStarted :=
  Path.of_requests (by simp [Operation.rewinds]) .start

end Sample

open Sample in
/-- A job that has been leased and started keeps running whatever is submitted. -/
theorem orchestrated_job_never_finishes_sample :
    ∃ job, queuedDelivery.1 = .ok [job] ∧
      ∃ error, request (completeJob deliveryEnv "x" job.id (deliveryResult .completed)) deliveryStarted supply =
        (.error error, deliveryStarted) := by
  obtain ⟨job, returned, named⟩ := queuedDelivery_job
  obtain ⟨held, found, running⟩ := deliveryStarted_running
  refine ⟨job, by rw [returned], ?_⟩
  refine (orchestrated_job_never_finishes (d := deliveryStore) ?_ returned (by simp) ?_ deliveryStarted_history
    (named ▸ found) (by simp [ExecutionJob.active, running]) "x" (deliveryResult .completed) supply).1
  · intro job member
    cases member
  · intro step inTable
    cases inTable

open Sample in
/-- A result with the right token, identity, hash and signature is refused for
the job of a step that the orchestration planned, by both endpoints. -/
theorem orchestrated_job_refused :
    (∃ job, queuedDelivery = (.ok [job], queuedDelivery.2) ∧ job.id = "a2") ∧
      Forward deliveryEnv queuedDelivery.2.shared deliveryStarted ∧
      (∃ held, deliveryStarted.jobs.find "a2" = some held ∧ held.state = .running) ∧
      (request (completeJob deliveryEnv "x" "a2" (deliveryResult .completed)) deliveryStarted
        supply).1.toOption.isNone ∧
      (request (failJob deliveryEnv "x" "a2" (deliveryResult .failed)) deliveryStarted supply).1.toOption.isNone := by
  refine ⟨queuedDelivery_job, deliveryStarted_history, deliveryStarted_running, ?_, ?_⟩
  · decide +kernel
  · decide +kernel

end SacmRuntime
