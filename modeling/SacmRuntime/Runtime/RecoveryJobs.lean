import SacmRuntime.Runtime.FailedResults

namespace SacmRuntime
open Session ExecutionPlaneService Table
open Tx hiding Leaves

/-- The key under which the job of a recovery attempt is queued. -/
def recoveryKey (runId : String) (attempt : Int) : String := runId ++ ":remote-workflow:recovery:" ++ toString attempt

def Db.Awaits (d : Db) (stepId : String) (task : AgentTaskV1) : Prop :=
  ∃ job ∈ d.jobs.rows, job.state = .queued ∧ job.runStepId = stepId ∧ job.payloadContract = task.modelDump

/-- A queued job of the step carries the agent task the step has now. -/
def Db.HasRetryJob (env : Env) (d : Db) (runId stepId : String) : Prop :=
  ∃ step task, d.getStep runId stepId = some step ∧ env.validateTask (step.input.get "agent_task") = .ok task ∧
    d.Awaits stepId task

/-- The job of a recovery can be queued, or has been queued with the same task. -/
structure Retriable (env : Env) (d : Db) (uuids : Nat → String) (job : ExecutionJob) (taking : Taking)
    (decision : RecoveryDecisionV1) (task : AgentTaskV1) : Prop where
  valid : env.validateTask (taking.input.get "agent_task") = .ok task
  schedulable : Schedulable env d (uuids (if taking.recorded then 1 else 0)) job.runId job.runStepId
    (recoveryKey job.runId decision.attempt) task job.customerDeploymentId

/-- A job that has the key of the recovery is no obstacle: a queued job carries the task. -/
def Provided (env : Env) (d : Db) (job : ExecutionJob) (decision : RecoveryDecisionV1) (task : AgentTaskV1) : Prop :=
  ∀ scopeKey old, d.jobScope env job.runId job.customerDeploymentId = some scopeKey →
    d.jobWith scopeKey (recoveryKey job.runId decision.attempt) = some old → d.Awaits job.runStepId task

structure SignedFailure (env : Env) (executor : ExecutorRegistration) (job : ExecutionJob)
    (submission : SignedJobResult) :
    Prop where
  hash : canonicalHash env submission.result.modelDump = submission.resultHash
  identity : submission.result.runId = job.runId ∧ submission.result.stepId = job.runStepId
  failed : submission.result.status = .failed
  fingerprint : executor.signingKeyFingerprint = submission.signingKeyFingerprint
  verified : env.verifyEd25519 executor.publicSigningKey submission.result.modelDump submission.signature = .ok ()

/-- If a scheduled recovery of the job's step has been recorded, the step has a queued job with its task. -/
def RetryQueued (env : Env) (d e : Db) (job : ExecutionJob) : Prop :=
  ∀ events, e.recoveryPlans = d.recoveryPlans ++ events →
    (∃ event ∈ events, event.payload.get "status" = .str "SCHEDULED") → e.HasRetryJob env job.runId job.runStepId

/-- The step accepts the failed result, and the job of a scheduled recovery can be queued. -/
def Acceptable (env : Env) (d : Db) (supply : Supply) (submission : SignedJobResult) (job : ExecutionJob) : Prop :=
  ∃ taking, Takes env d job.runId job.runStepId submission.result taking ∧
    ∀ decision, taking.recovery = some decision → decision.status = .scheduled →
      ∃ task, Retriable env d supply.uuids job taking decision task

/-- No old job is in the place of the job of a recovery that the failed result schedules. -/
def Unobstructed (env : Env) (d : Db) (submission : SignedJobResult) (job : ExecutionJob) : Prop :=
  ∀ taking decision task, Takes env d job.runId job.runStepId submission.result taking → taking.recorded = true →
    taking.recovery = some decision → decision.status = .scheduled →
      env.validateTask (taking.input.get "agent_task") = .ok task → Provided env d job decision task

section
variable {env : Env} {s t : Session Db} {d e : Db}

theorem scopeOf_leaves {γ : Type} (g : Session Db → γ) (run : Run) (deployment : Option String) :
    Tx.Leaves g (scopeOf env run deployment) := fun s => congrArg g (scopeOf_state env run deployment s)

theorem schedule_plans (env : Env) (runId runStepId : String) (task : AgentTaskV1) (key : String)
    (capabilities : List String) (labels : List (String × String)) (maxAttempts : Nat) (deployment : Option String)
    (commits : Bool) :
    Leaves Db.recoveryPlans
      (schedule env runId runStepId task key capabilities labels maxAttempts deployment commits) := by
  unfold schedule
  refine leaves_view fun _ => leaves_expect.bind fun run => leaves_view fun _ => leaves_expect.bind fun step => ?_
  refine leaves_ite (leaves_raise _) ((scopeOf_leaves _ run deployment).bind fun scope => ?_)
  dsimp only
  refine Tx.Leaves.bind ?_ fun stored => ?_
  · unfold selectJobs
    exact autoflush_leaves.bind fun _ => fun _ => rfl
  cases stored.head? with
  | some existing => exact leaves_ite (leaves_raise _) (leaves_pure _)
  | none =>
    refine leaves_view fun plan => leaves_utcnow.bind fun now => leaves_uuid4.bind fun jobId => ?_
    refine Tx.Leaves.bind ?_ fun _ => Tx.Leaves.bind (appendEvent_leaves (keeps_plans (by decide))) fun _ => ?_
    · unfold insertJob
      exact leaves_view fun _ => leaves_expect.bind fun _ => leaves_modify fun _ => rfl
    refine Tx.Leaves.bind (checkpoint_leaves fun _ _ => rfl) fun _ => ?_
    unfold RunService.settle existingJob
    exact (leaves_ite leaves_commit leaves_flush).bind fun _ => leaves_view fun _ => leaves_expect

theorem recordJobEvent_run (env : Env) (executor : ExecutorRegistration) (job : ExecutionJob) (hash : String)
    (submission : SignedJobResult) (s : Session Db) :
    ∃ t, recordJobEvent env executor job hash submission true s = (.ok (), t) ∧ Logged s.working t.working ∧
      t.working.recoveryPlans = s.working.recoveryPlans := by
  have plans : Leaves Db.recoveryPlans (recordJobEvent env executor job hash submission true) := by
    unfold recordJobEvent
    refine leaves_view fun run => ?_
    cases run with
    | none => exact leaves_pure _
    | some run =>
      exact Tx.Leaves.bind (appendEvent_leaves (keeps_plans (by decide))) fun _ => checkpoint_leaves fun _ _ => rfl
  obtain ⟨t, ran, logged⟩ : ∃ t, recordJobEvent env executor job hash submission true s = (.ok (), t) ∧
      Logged s.working t.working := by
    unfold recordJobEvent
    rw [bind_view]
    cases atRun : s.working.run? job.runId with
    | none => exact ⟨s, rfl, .refl _⟩
    | some run =>
      have key : run.id = job.runId := find_key atRun
      let P (outcome : Except Error Unit × Session Db) : Prop := ∃ t, outcome = (.ok (), t) ∧ Logged s.working t.working
      refine outcome_appendEvent (P := P) fun event mid effect ofRun => outcome_last (P := P) ?_
      refine outcome_checkpoint (P := P) ?_ ?_ fun t snapshots after => ⟨t, rfl, ?_⟩
      · rw [effect, key]
        exact Option.isSome_iff_exists.mpr ⟨run, atRun⟩
      · rw [effect]
        have member : event ∈ s.working.events ++ [event] := List.mem_append_right _ (List.mem_singleton_self event)
        exact List.ne_nil_of_mem (List.mem_filter.mpr ⟨member, by simp [ofRun]⟩)
      · rw [after, effect]
        exact ⟨[event], snapshots, [], by simp⟩
  exact ⟨t, ran, logged, plans.after ran⟩

variable {executor : ExecutorRegistration} {f : ExecutionJob → ExecutionJob} {id jobId runId : String}
  {job : ExecutionJob} {jobs : Table ExecutionJob} {submission : SignedJobResult} {supply : Supply}

/-- Whether a job can be queued depends on the jobs, the project of the run and the presence of the step. -/
theorem Schedulable.congr {runStepId key : String} {task : AgentTaskV1} {deployment : Option String}
    (jobs : e.jobs = d.jobs) (scope : e.jobScope env runId deployment = d.jobScope env runId deployment)
    (step : (e.getStep runId runStepId).isSome = (d.getStep runId runStepId).isSome) :
    Schedulable env e jobId runId runStepId key task deployment ↔
      Schedulable env d jobId runId runStepId key task deployment := by
  constructor
  · rintro ⟨atStep, identity, scopeKey, found, same, free⟩
    unfold Db.jobWith at same free
    rw [jobs] at same free
    exact ⟨step ▸ atStep, identity, scopeKey, scope ▸ found, same, free⟩
  · rintro ⟨atStep, identity, scopeKey, found, same, free⟩
    unfold Db.jobWith at same free
    rw [← jobs] at same free
    exact ⟨step ▸ atStep, identity, scopeKey, scope ▸ found, same, free⟩

theorem jobScope_around (env : Env) (deployment : Option String)
    (around : e.aroundRecovery runId = d.aroundRecovery runId) :
    e.jobScope env runId deployment = d.jobScope env runId deployment := by
  unfold Db.aroundRecovery at around
  simp only [Prod.mk.injEq] at around
  obtain ⟨-, projects, project⟩ := around
  have scope : ∀ d : Db, d.jobScope env runId deployment = ((d.run? runId).map Run.projectId).bind fun projectId =>
      projectId.elim
        (some ("customer-deployment:" ++ (deployment.filter (· ≠ "")).getD env.defaultCustomerDeploymentId))
        fun projectId => (d.projects.find projectId).map fun _ => "project:" ++ projectId := by
    intro d
    unfold Db.jobScope
    cases d.run? runId with
    | none => rfl
    | some run =>
      rcases within : run.projectId with _ | projectId
      · simp [within]
      · simp [within]
  rw [scope, scope, project, projects]

theorem seesJobs_updated (key : String)
    (keeps : ∀ job, (f job).id = job.id ∧ (f job).scopeKey = job.scopeKey ∧ (f job).idempotencyKey = job.idempotencyKey)
    (held : s.working.jobs = jobs.update id f) (stored : s.flushed.jobs = s.working.jobs ∨ s.flushed.jobs = jobs) :
    SeesJobs env s key := by
  intro scopeKey
  generalize named : (fun job : ExecutionJob => job.scopeKey == scopeKey && job.idempotencyKey == key) = q
  have sameKey : ∀ job, q (f job) = q job := by
    intro job
    rw [← named]
    simp only [(keeps job).2.1, (keeps job).2.2]
  let rewritten (row : ExecutionJob) : ExecutionJob := if row.id == id then rewriteRow f row else row
  have rows : (jobs.update id f).rows = jobs.rows.map rewritten := rfl
  have sameRow : ∀ row, (rewritten row).id = row.id ∧ q (rewritten row) = q row := by
    intro row
    simp only [rewritten]
    split
    · rw [rewriteRow_of_keeps (keeps row).1]
      exact ⟨(keeps row).1, sameKey row⟩
    · exact ⟨rfl, rfl⟩
  have updated : ((jobs.rows.filter q).filterMap fun row => (jobs.update id f).find row.id) =
      (jobs.update id f).rows.filter q := by
    have each : ∀ row ∈ jobs.rows.filter q, (jobs.update id f).find row.id = some (rewritten row) := by
      intro row member
      have inTable : rewritten row ∈ (jobs.update id f).rows := by
        rw [rows]
        exact List.mem_map_of_mem (List.mem_of_mem_filter member)
      have found := find_of_mem inTable
      rwa [show Keyed.key (rewritten row) = row.id from (sameRow row).1] at found
    have unchanged : q ∘ rewritten = q := funext fun row => (sameRow row).2
    rw [List.filterMap_congr each, rows, List.filter_map, unchanged]
    exact congrFun List.filterMap_eq_map' _
  have selected : ((s.flushed.jobs.rows.filter q).filterMap fun row => s.working.jobs.find row.id) =
      s.working.jobs.rows.filter q := by
    rcases stored with same | same
    · rw [same, selected_held]
    · rw [same, held, updated]
  cases flushes : env.autoflush <;>
    simp [selectJobs, autoflush, flushes, flush, Session.queried, bind_run, selected, selected_held]

section
variable {taking : Taking} {decision : RecoveryDecisionV1} {task : AgentTaskV1} {scopeKey : String}
  {submission : ExternalAgentSubmission} (took : Took job.runId job.runStepId taking s t submission)
include took

/-- What a failed result changes has no part in whether its recovery can be queued. -/
theorem Took.schedulable {key : String} (atStep : (s.working.getStep job.runId job.runStepId).isSome) :
    Schedulable env t.working (t.uuids 0) job.runId job.runStepId key task job.customerDeploymentId ↔
      Schedulable env s.working (s.uuids (if taking.recorded then 1 else 0)) job.runId job.runStepId key task
        job.customerDeploymentId := by
  have drawn : t.uuids 0 = s.uuids (if taking.recorded then 1 else 0) := by simp only [took.uuids, Nat.zero_add]
  have present :
      (t.working.getStep job.runId job.runStepId).isSome = (s.working.getStep job.runId job.runStepId).isSome := by
    rw [took.step, atStep]
    rfl
  rw [drawn]
  exact Schedulable.congr (congrArg Prod.fst took.around) (jobScope_around env job.customerDeploymentId took.around)
    present

/-- Where the recovery has its job already, the step waits with it exactly if it is no obstacle. -/
theorem Took.keeps_job {u : Session Db} {old : ExecutionJob} (same : u.working = t.working)
    (valid : env.validateTask (taking.input.get "agent_task") = .ok task)
    (atScope : t.working.jobScope env job.runId job.customerDeploymentId = some scopeKey)
    (stored : t.working.jobWith scopeKey (recoveryKey job.runId decision.attempt) = some old) :
    u.working.HasRetryJob env job.runId job.runStepId ↔ Provided env s.working job decision task := by
  have jobs : t.working.jobs = s.working.jobs := congrArg Prod.fst took.around
  have scope := jobScope_around env job.customerDeploymentId took.around
  have atJob : s.working.jobWith scopeKey (recoveryKey job.runId decision.attempt) = some old := by
    unfold Db.jobWith at stored ⊢
    rwa [jobs] at stored
  have awaits : u.working.Awaits job.runStepId task ↔ s.working.Awaits job.runStepId task := by
    unfold Db.Awaits
    rw [same, jobs]
  constructor
  · rintro ⟨step, other, foundStep, validStep, waiting⟩ _ _ _ _
    rw [same, took.step] at foundStep
    cases foundStep
    rw [took.input, valid] at validStep
    cases validStep
    exact awaits.mp waiting
  · intro provided
    refine ⟨submission.step, task, ?_, by rw [took.input]; exact valid, awaits.mpr
      (provided scopeKey old (scope.symm.trans atScope) atJob)⟩
    rw [same]
    exact took.step

theorem Took.adds_job {u : Session Db} {new : ExecutionJob} {table : Table ExecutionJob}
    (valid : env.validateTask (taking.input.get "agent_task") = .ok task)
    (logged : Logged { t.working with jobs := table } u.working) (inTable : new ∈ table.rows)
    (queued : new.state = .queued) (ofStep : new.runStepId = job.runStepId)
    (carries : new.payloadContract = task.modelDump) : u.working.HasRetryJob env job.runId job.runStepId := by
  refine ⟨submission.step, task, (logged.getStep _ _).trans took.step, by rw [took.input]; exact valid, new, ?_, queued,
    ofStep, carries⟩
  rw [logged.jobs]
  exact inTable

end

/-- After a failed result has been taken: the job of a scheduled recovery cannot
be queued, or the step has its job exactly if a job with the key is no obstacle. -/
theorem rescheduleRecovery_ends {taking : Taking} {submission : ExternalAgentSubmission}
    (took : Took job.runId job.runStepId taking s t submission)
    (atStep : (s.working.getStep job.runId job.runStepId).isSome) (sees : ∀ key, SeesJobs env t key) :
    Yields
      (fun _ _ => ∃ decision, taking.recovery = some decision ∧ decision.status = .scheduled ∧
        ∀ task, ¬Retriable env s.working s.uuids job taking decision task)
      (fun _ u => u.working.recoveryPlans = t.working.recoveryPlans ∧
        (∀ id, (t.working.jobs.find id).isSome → (u.working.jobs.find id).isSome) ∧
        ∀ decision, taking.recovery = some decision → decision.status = .scheduled →
          ∃ task, Retriable env s.working s.uuids job taking decision task ∧
            (u.working.HasRetryJob env job.runId job.runStepId ↔ Provided env s.working job decision task))
      (rescheduleRecovery env job submission true t) := by
  have scope := jobScope_around env job.customerDeploymentId took.around
  unfold rescheduleRecovery
  rw [took.recovery]
  cases recovery : taking.recovery with
  | none => exact ⟨rfl, fun _ => id, nofun⟩
  | some decision =>
  by_cases scheduled : decision.status = .scheduled
  swap
  · simp only [if_neg scheduled]
    refine ⟨rfl, fun _ => id, fun other same => ?_⟩
    cases same
    exact fun isScheduled => absurd isScheduled scheduled
  let key := recoveryKey job.runId decision.attempt
  have input := took.input
  dsimp only
  rw [if_pos scheduled]
  refine outcome_ofExcept_cases (fun e invalid => ⟨decision, rfl, scheduled, fun task retriable => ?_⟩)
    fun task valid => ?_
  · rw [input] at invalid
    cases invalid.symm.trans retriable.valid
  rw [input] at valid
  rw [show job.runId ++ ":remote-workflow:recovery:" ++ toString decision.attempt = key from rfl]
  have plans := schedule_plans env job.runId job.runStepId task key job.requiredCapabilities job.requiredLabels
    job.maxAttempts job.customerDeploymentId false
  rcases (schedule_ends env job.runId job.runStepId task job.requiredCapabilities job.requiredLabels job.maxAttempts
      job.customerDeploymentId false (sees key)).cases with ⟨e, u, ran, -, blocked⟩ |
    ⟨new, u, ran, run, found, schedules,
      ⟨rfl, stored, same⟩ | ⟨table, unused, named, order, queued, -, inserted, -, logged, -⟩⟩
  · rw [bind_run_error _ ran]
    refine ⟨decision, rfl, scheduled, fun other retriable => blocked ?_⟩
    cases valid.symm.trans retriable.valid
    exact (took.schedulable atStep).mpr retriable.schedulable
  · rw [bind_run_ok _ ran]
    have atScope := scopeOf_jobScope schedules.atRun schedules.atScope
    have retriable : Retriable env s.working s.uuids job taking decision task := by
      refine ⟨valid, (took.schedulable atStep).mp ⟨schedules.atStep, schedules.identity, found.1, atScope, ?_, ?_⟩⟩
      · intro other isOther
        cases Option.some.inj (stored.symm.trans isOther)
        exact same
      · intro unused
        cases stored.symm.trans unused
    refine ⟨congrArg Db.recoveryPlans (queried_working env t), fun id here => ?_, fun other isOther _ => ?_⟩
    · rwa [queried_working]
    cases isOther
    exact ⟨task, retriable, took.keeps_job (queried_working env t) valid atScope stored⟩
  · rw [bind_run_ok _ ran]
    have atScope := scopeOf_jobScope schedules.atRun schedules.atScope
    obtain ⟨free, rows⟩ := insert?_eq_some inserted
    have unusedId : t.working.jobs.find (t.uuids 0) = none := by
      rw [← named]
      exact free
    have retriable : Retriable env s.working s.uuids job taking decision task := by
      refine ⟨valid,
        (took.schedulable atStep).mp ⟨schedules.atStep, schedules.identity, found.1, atScope, ?_, fun _ => unusedId⟩⟩
      intro other isOther
      cases unused.symm.trans isOther
    have noneStored : s.working.jobWith found.1 key = none := by
      unfold Db.jobWith at unused ⊢
      rwa [show t.working.jobs = s.working.jobs from congrArg Prod.fst took.around] at unused
    refine ⟨plans.after ran, fun id here => ?_, fun other isOther _ => ?_⟩
    · obtain ⟨row, isThere⟩ := Option.isSome_iff_exists.mp here
      rw [logged.jobs]
      exact Option.isSome_iff_exists.mpr ⟨row, find_insert?_of_some inserted isThere⟩
    cases isOther
    refine ⟨task, retriable, ?_⟩
    have inTable : new ∈ table.rows := by
      rw [rows]
      exact List.mem_append_right _ (List.mem_singleton_self new)
    have waiting : u.working.HasRetryJob env job.runId job.runStepId :=
      took.adds_job valid logged inTable queued (congrArg (fun order => order.1.2) order)
        (congrArg (fun order => order.2.2.1) order)
    refine iff_of_true waiting fun scopeKey old isScope isOld => ?_
    cases Option.some.inj ((scope.symm.trans atScope).symm.trans isScope)
    cases noneStored.symm.trans isOld

/-- The body of the `try` block of `_finish_job` for a failed result: the step
does not take the result or its job cannot be queued, or all of it is committed. -/
theorem recordResult_ends {hash : String} (failed : submission.result.status = .failed)
    (identity : submission.result.runId = job.runId ∧ submission.result.stepId = job.runStepId)
    (keeps : ∀ job, (f job).id = job.id ∧ (f job).scopeKey = job.scopeKey ∧ (f job).idempotencyKey = job.idempotencyKey)
    (held : s.working.jobs = jobs.update id f) (stored : s.flushed.jobs = jobs) :
    Yields
      (fun _ _ => ∀ taking, Takes env s.working job.runId job.runStepId submission.result taking →
        ∃ decision, taking.recovery = some decision ∧ decision.status = .scheduled ∧
          ∀ task, ¬Retriable env s.working s.uuids job taking decision task)
      (fun _ t => t.Clean ∧ (∀ id, (s.working.jobs.find id).isSome → (t.working.jobs.find id).isSome) ∧
        ∃ taking, Takes env s.working job.runId job.runStepId submission.result taking ∧
          (∃ events, t.working.recoveryPlans = s.working.recoveryPlans ++ events ∧ events.map RuntimeEvent.payload =
            if taking.recorded then taking.recovery.toList.map RecoveryDecisionV1.modelDump else []) ∧
          ∀ decision, taking.recovery = some decision → decision.status = .scheduled →
            ∃ task, Retriable env s.working s.uuids job taking decision task ∧
              (t.working.HasRetryJob env job.runId job.runStepId ↔ Provided env s.working job decision task))
      (recordResult env executor job hash submission true s) := by
  unfold recordResult
  rw [Bool.not_true]
  refine (submit_takes (s := s) failed identity).bind (fun e t none taking takes => absurd takes (none taking))
    fun answer t ⟨taking, takes, took⟩ => ?_
  have sameJobs : t.working.jobs = s.working.jobs := congrArg Prod.fst took.around
  have flushed : t.flushed.jobs = t.working.jobs ∨ t.flushed.jobs = jobs := by
    rcases took.flushed with same | same
    · exact .inl (congrArg Db.jobs same)
    · exact .inr ((congrArg Db.jobs same).trans stored)
  have atStep : (s.working.getStep job.runId job.runStepId).isSome := by
    obtain ⟨step, contracted, -⟩ := takes.atStep
    exact Option.isSome_iff_exists.mpr ⟨step, contracted.found⟩
  refine (rescheduleRecovery_ends took atStep fun key => seesJobs_updated key keeps (sameJobs.trans held) flushed).bind
    (fun e u unqueued other takesToo => ?_) fun _ u ⟨plans, present, queues⟩ => ?_
  · cases takes.unique failed takesToo
    exact unqueued
  obtain ⟨v, noted, logged, plansAfter⟩ := recordJobEvent_run env executor job hash submission u
  rw [bind_run_ok _ noted, bind_commit]
  refine ⟨⟨rfl, rfl⟩, fun id here => ?_, taking, takes, ?_, fun decision recovery scheduled => ?_⟩
  · rw [logged.jobs]
    exact present id (sameJobs ▸ here)
  · obtain ⟨events, added, carried⟩ := took.plans
    exact ⟨events, (plansAfter.trans plans).trans added, carried⟩
  · obtain ⟨task, retriable, has⟩ := queues decision recovery scheduled
    have same : v.working.HasRetryJob env job.runId job.runStepId ↔
        u.working.HasRetryJob env job.runId job.runStepId := by
      unfold Db.HasRetryJob Db.Awaits
      rw [logged.getStep, logged.jobs]
    exact ⟨task, retriable, same.trans has⟩

section
variable {jobs : Table ExecutionJob} {jobId : String} {f : ExecutionJob → ExecutionJob}

theorem awaits_update (stepId : String) (task : AgentTaskV1) (held : e.jobs = d.jobs.update jobId f)
    (keeps : ∀ job, d.jobs.find jobId = some job → (f job).id = job.id ∧
      ((f job).state = .queued ↔ job.state = .queued) ∧
      (f job).runStepId = job.runStepId ∧ (f job).payloadContract = job.payloadContract) :
    e.Awaits stepId task ↔ d.Awaits stepId task := by
  unfold Db.Awaits
  rw [held]
  constructor
  · rintro ⟨job, member, queued, ofStep, carries⟩
    rcases mem_update_iff.mp member with ⟨old, -⟩ | ⟨old, found, rfl⟩
    · exact ⟨job, old, queued, ofStep, carries⟩
    · obtain ⟨id, state, step, contract⟩ := keeps old found
      rw [rewriteRow_of_keeps id] at queued ofStep carries
      exact ⟨old, find_mem found, state.mp queued, step ▸ ofStep, contract ▸ carries⟩
  · rintro ⟨job, member, queued, ofStep, carries⟩
    by_cases here : job.id = jobId
    · subst here
      have found := find_of_mem member
      obtain ⟨id, state, step, contract⟩ := keeps job found
      refine ⟨f job, mem_update_iff.mpr (.inr ⟨job, found, ?_⟩), state.mpr queued, step.trans ofStep,
        contract.trans carries⟩
      exact (rewriteRow_of_keeps id).symm
    · exact ⟨job, mem_update_iff.mpr (.inl ⟨member, here⟩), queued, ofStep, carries⟩

theorem jobWith_update (scopeKey key : String) (held : e.jobs = d.jobs.update jobId f)
    (keeps : ∀ job, (f job).id = job.id ∧ (f job).scopeKey = job.scopeKey ∧
      (f job).idempotencyKey = job.idempotencyKey ∧
      (f job).payloadHash = job.payloadHash) :
    ∃ g : ExecutionJob → ExecutionJob, (∀ job, (g job).payloadHash = job.payloadHash) ∧
      e.jobWith scopeKey key = (d.jobWith scopeKey key).map g := by
  let rewritten (row : ExecutionJob) : ExecutionJob := if row.id == jobId then rewriteRow f row else row
  have rows : (d.jobs.update jobId f).rows = d.jobs.rows.map rewritten := rfl
  have same : ∀ row, (rewritten row).scopeKey = row.scopeKey ∧ (rewritten row).idempotencyKey = row.idempotencyKey ∧
      (rewritten row).payloadHash = row.payloadHash := by
    intro row
    simp only [rewritten]
    split
    · rw [rewriteRow_of_keeps (keeps row).1]
      exact (keeps row).2
    · exact ⟨rfl, rfl, rfl⟩
  refine ⟨rewritten, fun row => (same row).2.2, ?_⟩
  unfold Db.jobWith
  rw [held, rows, List.find?_map]
  have unchanged : ((fun job : ExecutionJob => job.scopeKey == scopeKey && job.idempotencyKey == key) ∘ rewritten) =
      fun job => job.scopeKey == scopeKey && job.idempotencyKey == key := by
    funext row
    simp only [Function.comp_apply, (same row).1, (same row).2.1]
  rw [unchanged]

theorem schedulable_update {id runId runStepId key : String} {task : AgentTaskV1} {deployment : Option String}
    (held : e.jobs = d.jobs.update jobId f)
    (keeps : ∀ job, (f job).id = job.id ∧ (f job).scopeKey = job.scopeKey ∧
      (f job).idempotencyKey = job.idempotencyKey ∧
      (f job).payloadHash = job.payloadHash)
    (scope : e.jobScope env runId deployment = d.jobScope env runId deployment)
    (steps : e.getStep runId runStepId = d.getStep runId runStepId) :
    Schedulable env e id runId runStepId key task deployment ↔
      Schedulable env d id runId runStepId key task deployment := by
  have free : e.jobs.find id = none ↔ d.jobs.find id = none := by
    rw [held, ← Option.isNone_iff_eq_none, ← Option.isNone_iff_eq_none, ← Option.not_isSome, ← Option.not_isSome,
      find_update_isSome]
  have hashes :
    ∀ scopeKey, ((∀ job, e.jobWith scopeKey key = some job → job.payloadHash = canonicalHash env task.modelDump) ↔
      ∀ job, d.jobWith scopeKey key = some job → job.payloadHash = canonicalHash env task.modelDump) ∧
      (e.jobWith scopeKey key = none ↔ d.jobWith scopeKey key = none) := by
    intro scopeKey
    obtain ⟨g, same, found⟩ := jobWith_update scopeKey key held keeps
    rw [found]
    cases d.jobWith scopeKey key <;> simp [same]
  constructor
  · rintro ⟨atStep, identity, scopeKey, found, same, unused⟩
    exact ⟨steps ▸ atStep, identity, scopeKey, scope ▸ found, (hashes scopeKey).1.mp same,
      fun none => free.mp (unused ((hashes scopeKey).2.mpr none))⟩
  · rintro ⟨atStep, identity, scopeKey, found, same, unused⟩
    exact ⟨steps ▸ atStep, identity, scopeKey, scope ▸ found, (hashes scopeKey).1.mpr same,
      fun none => free.mpr (unused ((hashes scopeKey).2.mp none))⟩

end

theorem refreshAnalytics_clean (env : Env) (runId : String) (clean : s.Clean) :
    ∃ failure, ExternalAgentService.refreshAnalytics env runId s = (.ok failure, s) := by
  obtain ⟨committed, flushed, working, clock, uuids, tokens⟩ := s
  obtain ⟨sameCommitted, sameFlushed⟩ : committed = working ∧ flushed = working := clean
  subst sameCommitted sameFlushed
  unfold ExternalAgentService.refreshAnalytics
  rw [bind_view]
  split
  · exact ⟨_, rfl⟩
  · exact ⟨_, rfl⟩

/-- The last part of `_finish_job` touches the metadata of the job only. -/
theorem markAnalytics_run (env : Env) (analyticsError : Option String) (clean : s.Clean)
    (found : s.working.jobs.find id = some job) :
    ∃ finished t, (markAnalytics id analyticsError >>= fun _ => existingJob id) s = (.ok finished, t) ∧
      t.committed.recoveryPlans = s.working.recoveryPlans ∧
      ∀ runId stepId, t.committed.HasRetryJob env runId stepId ↔ s.working.HasRetryJob env runId stepId := by
  cases analyticsError with
  | none =>
    refine ⟨job, s, ?_, by rw [clean.1], fun runId stepId => by rw [clean.1]⟩
    unfold markAnalytics
    rw [bind_pure_run, existingJob_run found]
  | some message =>
    unfold markAnalytics updateJob
    rw [bind_assoc_run, bind_modify, bind_commit]
    have stored : (s.working.jobs.update id fun job => { job with
        resultSignatureMetadata := some (analyticsFailed job.resultSignatureMetadata message) }).find id = _ :=
      find_update_self fun _ => rfl
    rw [found] at stored
    rw [existingJob_run stored]
    refine ⟨_, _, rfl, rfl, fun runId stepId => ?_⟩
    unfold Db.HasRetryJob
    have awaits := fun task => awaits_update (d := s.working) stepId task (e := { s.working with
      jobs := s.working.jobs.update id fun job => { job with
        resultSignatureMetadata := some (analyticsFailed job.resultSignatureMetadata message) } }) rfl
      fun _ _ => ⟨rfl, .rfl, rfl, rfl⟩
    simp only [awaits]
    exact .rfl

/-- The job with the columns of its failure, its credentials revoked. -/
def failing (env : Env) (executor : ExecutorRegistration) (job : ExecutionJob) (submission : SignedJobResult) (d : Db)
    (supply : Supply) : Session Db :=
  ⟨d, d, { d with
    jobs := d.jobs.update job.id (ExecutionJob.finish (supply.clock 0) executor.id
      (canonicalHash env submission.result.modelDump) submission true)
    leases := d.leases.updateWhere (fun lease => lease.jobId == job.id && lease.revokedAt.isNone)
      (CredentialLease.revoke ("executor:" ++ executor.id) "Execution job reached a terminal state."
        (supply.clock 1)) },
    fun n => supply.clock (n + 1 + 1), supply.uuids, supply.tokens⟩

/-- `fail_job` of a job under a lease, once the submission has been checked. -/
theorem outcome_failJob {P : Except Error ExecutionJob × Session Db → Prop}
    (registered : d.executors.find executor.id = some executor)
    (owned : Owned env d executor job.id submission.leaseToken job) (active : job.active = true)
    (signed : SignedFailure env executor job submission)
    (rest : P
      ((onRaise (recordResult env executor job (canonicalHash env submission.result.modelDump) submission true)
      rollback >>= fun _ => ExternalAgentService.refreshAnalytics env job.runId >>= fun analyticsError =>
      markAnalytics job.id analyticsError >>= fun _ => existingJob job.id)
      (failing env executor job submission d supply))) :
    P (failJob env executor.id job.id submission (start d supply)) := by
  unfold failJob finishJob
  rw [bind_run_ok _ (existingExecutor_run (s := start d supply) registered),
    bind_run_ok _ (ownedJob_ok (s := start d supply) owned)]
  refine outcome_ite (P := P) (fun wrong => absurd signed.hash wrong) fun _ => ?_
  refine outcome_ite (P := P) (fun done => absurd done (unfinished_of_active active)) fun _ => ?_
  refine outcome_ite (P := P) (fun idle => ?_) fun _ => ?_
  · rw [active] at idle
    cases idle
  refine outcome_ite (P := P) (fun other => ?_) fun _ => ?_
  · exact other.elim (absurd signed.identity.1) (absurd signed.identity.2)
  refine outcome_ite (P := P) (fun other => absurd signed.failed other.2) fun _ => ?_
  refine outcome_ite (P := P) (fun other => absurd rfl other.1) fun _ => ?_
  refine outcome_ite (P := P) (fun other => absurd signed.fingerprint other) fun _ => ?_
  rw [signed.verified]
  exact rest

section
variable {executor : ExecutorRegistration} {job : ExecutionJob} {submission : SignedJobResult} {supply : Supply}
  {taking : Taking} {decision : RecoveryDecisionV1} {task : AgentTaskV1}

theorem retriable_failing : Retriable env (failing env executor job submission d supply).working supply.uuids job taking
    decision task ↔ Retriable env d supply.uuids job taking decision task := by
  have same : ∀ id, Schedulable env (failing env executor job submission d supply).working id job.runId job.runStepId
      (recoveryKey job.runId decision.attempt) task job.customerDeploymentId ↔ Schedulable env d id job.runId
        job.runStepId (recoveryKey job.runId decision.attempt) task job.customerDeploymentId := by
    intro id
    refine schedulable_update rfl ?_ rfl rfl
    exact fun _ => ⟨rfl, rfl, rfl, rfl⟩
  exact ⟨fun retriable => ⟨retriable.valid, (same _).mp retriable.schedulable⟩,
    fun retriable => ⟨retriable.valid, (same _).mpr retriable.schedulable⟩⟩

theorem provided_failing (found : d.jobs.find job.id = some job) (active : job.active = true) :
    Provided env (failing env executor job submission d supply).working job decision task ↔
      Provided env d job decision task := by
  have awaits : (failing env executor job submission d supply).working.Awaits job.runStepId task ↔
      d.Awaits job.runStepId task := by
    refine awaits_update job.runStepId task rfl fun old atJob => ⟨rfl, ?_, rfl, rfl⟩
    cases Option.some.inj (found.symm.trans atJob)
    refine iff_of_false (by simp [ExecutionJob.finish]) fun queued => ?_
    simp [ExecutionJob.active, queued] at active
  have stored : ∀ scopeKey, ((failing env executor job submission d supply).working.jobWith scopeKey
      (recoveryKey job.runId decision.attempt)).isSome =
          (d.jobWith scopeKey (recoveryKey job.runId decision.attempt)).isSome := by
    intro scopeKey
    obtain ⟨g, -, same⟩ := jobWith_update scopeKey (recoveryKey job.runId decision.attempt)
      (e := (failing env executor job submission d supply).working) (d := d) rfl fun _ => ⟨rfl, rfl, rfl, rfl⟩
    rw [same, Option.isSome_map]
  have restated : ∀ d : Db, Provided env d job decision task ↔ ∀ scopeKey,
      d.jobScope env job.runId job.customerDeploymentId = some scopeKey →
        (d.jobWith scopeKey (recoveryKey job.runId decision.attempt)).isSome → d.Awaits job.runStepId task := by
    intro d
    refine forall_congr' fun scopeKey => ?_
    simp only [Option.isSome_iff_exists]
    tauto
  rw [restated, restated]
  simp only [stored, awaits]
  exact .rfl

theorem decision_status (decision : RecoveryDecisionV1) :
    decision.modelDump.get "status" = .str "SCHEDULED" ↔ decision.status = .scheduled := by
  have named : decision.modelDump.get "status" = .str decision.status.name := rfl
  rw [named]
  cases decision.status <;> decide

/-- A job under a lease whose executor reports a correctly signed failure: the
request raises and the result was not acceptable, or it returns, and a
scheduled recovery has its job exactly if no old job is in its place. -/
theorem failJob_yields (supply : Supply) (registered : d.executors.find executor.id = some executor)
    (owned : Owned env d executor job.id submission.leaseToken job) (active : job.active = true)
    (signed : SignedFailure env executor job submission) :
    Yields (fun _ _ => ¬Acceptable env d supply submission job)
      (fun _ t => Acceptable env d supply submission job ∧
        (RetryQueued env d t.committed job ↔ Unobstructed env d submission job))
      (failJob env executor.id job.id submission (start d supply)) := by
  refine outcome_failJob registered owned active signed ?_
  rcases (recordResult_ends (s := failing env executor job submission d supply)
    (f := ExecutionJob.finish (supply.clock 0)
      executor.id (canonicalHash env submission.result.modelDump) submission true) signed.failed signed.identity
      (fun _ => ⟨rfl, rfl, rfl⟩) rfl rfl).cases with
    ⟨e, t, ran, unqueued⟩ | ⟨answer, t, ran, clean, present, taking, takes, planned, queues⟩
  · have raises : onRaise (recordResult env executor job (canonicalHash env submission.result.modelDump) submission
        true) rollback (failing env executor job submission d supply) =
            (.error e, (rollback t : Except Error Unit × _).2) := by
      unfold onRaise
      rw [ran]
    rw [bind_run_error _ raises]
    rintro ⟨taking, takes, queues⟩
    obtain ⟨decision, recovery, scheduled, blocked⟩ := unqueued taking (takes.withJobs _ _)
    obtain ⟨task, retriable⟩ := queues decision recovery scheduled
    exact blocked task (retriable_failing.mpr retriable)
  have returns : onRaise (recordResult env executor job (canonicalHash env submission.result.modelDump) submission
      true) rollback (failing env executor job submission d supply) = (.ok answer, t) := by
    unfold onRaise
    rw [ran]
  rw [bind_run_ok _ returns]
  obtain ⟨failure, refreshed⟩ := refreshAnalytics_clean env job.runId clean
  have stillThere : (t.working.jobs.find job.id).isSome := by
    refine present job.id ?_
    change ((d.jobs.update job.id _).find job.id).isSome
    rw [find_update_isSome, owned.found]
    rfl
  obtain ⟨row, found⟩ := Option.isSome_iff_exists.mp stillThere
  obtain ⟨finished, u, ended, plans, same⟩ := markAnalytics_run env failure clean found
  obtain ⟨events, added, carried⟩ := planned
  have after : u.committed.recoveryPlans = d.recoveryPlans ++ events := plans.trans added
  have taken : Takes env d job.runId job.runStepId submission.result taking := takes_withJobs.mp takes
  rw [bind_run_ok _ refreshed, ended]
  refine ⟨⟨taking, taken, fun decision recovery scheduled => ?_⟩, fun queued => ?_, fun free => ?_⟩
  · obtain ⟨task, retriable, -⟩ := queues decision recovery scheduled
    exact ⟨task, retriable_failing.mp retriable⟩
  · intro other decision task takesToo recorded recovery scheduled valid
    cases taken.unique signed.failed takesToo
    obtain ⟨again, retriable, has⟩ := queues decision recovery scheduled
    cases retriable.valid.symm.trans valid
    rw [recorded, recovery] at carried
    obtain ⟨event, member, carries⟩ : ∃ event ∈ events, event.payload = decision.modelDump := by
      refine List.mem_map.mp ?_
      rw [carried]
      exact List.mem_singleton_self _
    have waiting := queued events after ⟨event, member, by rw [carries]; exact (decision_status decision).mpr scheduled⟩
    exact (provided_failing owned.found active).mp (has.mp ((same _ _).mp waiting))
  · rintro others appended ⟨event, member, status⟩
    cases List.append_cancel_left (after.symm.trans appended)
    have payload : event.payload ∈ events.map RuntimeEvent.payload := List.mem_map_of_mem member
    rw [carried] at payload
    split at payload
    · rename_i recorded
      obtain ⟨decision, remembered, carries⟩ := List.mem_map.mp payload
      have recovery : taking.recovery = some decision := Option.mem_toList.mp remembered
      rw [← carries] at status
      have scheduled := (decision_status decision).mp status
      obtain ⟨task, retriable, has⟩ := queues decision recovery scheduled
      have provided := free taking decision task taken recorded recovery scheduled retriable.valid
      exact (same _ _).mpr (has.mpr ((provided_failing owned.found active).mpr provided))
    · cases payload

theorem failJob_ends (supply : Supply) (registered : d.executors.find executor.id = some executor)
    (owned : Owned env d executor job.id submission.leaseToken job) (active : job.active = true)
    (signed : SignedFailure env executor job submission) :
    (∃ error e, request (failJob env executor.id job.id submission) d supply = (.error error, e) ∧
      ¬Acceptable env d supply submission job) ∨
    ∃ finished e, request (failJob env executor.id job.id submission) d supply = (.ok finished, e) ∧
      Acceptable env d supply submission job ∧ (RetryQueued env d e job ↔ Unobstructed env d submission job) := by
  rcases (failJob_yields supply registered owned active signed).cases with ⟨error, t, ran, unacceptable⟩ |
    ⟨finished, t, ran, acceptable, queued⟩
  · exact .inl ⟨error, _, request_run ran, unacceptable⟩
  · exact .inr ⟨finished, _, request_run ran, acceptable, queued⟩

end

/-- A `fail_job` that returns took a correctly signed failure of a job under a
lease, or recorded no decision. -/
theorem failJob_returned {executorId : String} {finished : ExecutionJob} (found : d.jobs.find jobId = some job)
    (returned : request (failJob env executorId jobId submission) d supply = (.ok finished, e)) :
    (∃ executor, d.executors.find executorId = some executor ∧ Owned env d executor jobId submission.leaseToken job ∧
      job.active = true ∧ SignedFailure env executor job submission) ∨ e.recoveryPlans = d.recoveryPlans := by
  let P := Yields (fun (_ : Error) _ => True) fun (_ : ExecutionJob) (t : Session Db) =>
    (∃ executor, d.executors.find executorId = some executor ∧ Owned env d executor jobId submission.leaseToken job ∧
      job.active = true ∧ SignedFailure env executor job submission) ∨ t.committed.recoveryPlans = d.recoveryPlans
  suffices ends : P (failJob env executorId jobId submission (start d supply)) by
    obtain ⟨ran, rfl⟩ := Prod.mk.inj returned
    rcases answered : failJob env executorId jobId submission (start d supply) with ⟨result, t⟩
    rw [answered] at ran ends
    cases ran
    exact ends
  have stops : ∀ error t, P (.error error, t) := fun _ _ => trivial
  have reads : ∀ t, t.committed.recoveryPlans = d.recoveryPlans → P (existingJob jobId t) := by
    intro t kept
    unfold existingJob
    rw [bind_view]
    exact outcome_last (P := P) (outcome_expect (P := P) trivial fun row _ => .inr kept)
  unfold failJob finishJob existingExecutor
  rw [bind_assoc_run, bind_view]
  refine outcome_expect_cases (P := P) (fun _ => stops _ _) fun executor registered => ?_
  rcases ownedJob_run env executor jobId submission.leaseToken (start d supply) with ⟨error, ran⟩ | ⟨held, owned, ran⟩
  · rw [bind_run_error _ ran]
    exact stops _ _
  rw [bind_run_ok _ ran]
  cases Option.some.inj (owned.found.symm.trans found)
  refine outcome_ite (P := P) (fun _ => stops _ _) fun hash => ?_
  refine outcome_ite (P := P) (fun _ => ?_) fun _ => ?_
  · refine outcome_ite (P := P) (fun _ => ?_) fun _ => stops _ _
    refine outcome_ite (P := P) (fun _ => ?_) fun _ => reads _ rfl
    obtain ⟨failure, refreshed⟩ := refreshAnalytics_clean env job.runId (start_clean d supply)
    unfold refreshJobAnalytics updateJob
    rw [bind_assoc_run, bind_run_ok _ refreshed, bind_assoc_run, bind_modify, bind_commit]
    exact reads _ rfl
  refine outcome_ite (P := P) (fun _ => stops _ _) fun active => ?_
  refine outcome_ite (P := P) (fun _ => stops _ _) fun identity => ?_
  refine outcome_ite (P := P) (fun _ => stops _ _) fun status => ?_
  refine outcome_ite (P := P) (fun _ => stops _ _) fun _ => ?_
  refine outcome_ite (P := P) (fun _ => stops _ _) fun fingerprint => ?_
  cases verified : env.verifyEd25519 executor.publicSigningKey submission.result.modelDump submission.signature with
  | error message => exact stops _ _
  | ok _ =>
    dsimp only
    generalize recordFinish env executor job _ submission true (start d supply) = recorded
    rcases recorded with ⟨error | row, t⟩
    · exact stops error t
    refine .inl ⟨executor, registered, owned, by simpa using active, ?_⟩
    exact ⟨not_not.mp hash, by tauto, by simpa using status, not_not.mp fingerprint, verified⟩

end

/-- What is asked of a `fail_job`: a recovery it schedules has its job, and it
does not raise for a correctly signed failure of a running job. -/
def RecoveryHasJob (env : Env) (d : Db) (supply : Supply) : Operation → Prop
  | .failJob executorId jobId submission =>
    (∀ job finished e, d.jobs.find jobId = some job →
      request (failJob env executorId jobId submission) d supply = (.ok finished, e) → RetryQueued env d e job) ∧
    ∀ executor job, d.executors.find executorId = some executor →
      Owned env d executor jobId submission.leaseToken job → job.state = .running →
        SignedFailure env executor job submission →
          ∃ finished e, request (failJob env executorId jobId submission) d supply = (.ok finished, e)
  | _ => True

/-- The failed result is acceptable, and no old job is in the place of the job it would queue. -/
def RecoveryPossible (env : Env) (d : Db) (supply : Supply) : Operation → Prop
  | .failJob executorId jobId submission => ∀ executor job, d.executors.find executorId = some executor →
      Owned env d executor jobId submission.leaseToken job → job.active = true →
        SignedFailure env executor job submission →
        (job.state = .running → Acceptable env d supply submission job) ∧
          (Acceptable env d supply submission job → Unobstructed env d submission job)
  | _ => True

/-- In every history of requests, every `fail_job` does what is asked of it
exactly if every one finds its failed result acceptable and no old job in the
place of the job of the recovery. -/
theorem scheduled_recovery_has_job (env : Env) (first : Db) (requests : List (Operation × Supply)) :
    Path.Throughout (Operation.after env) (RecoveryHasJob env) first requests ↔
      Path.Throughout (Operation.after env) (RecoveryPossible env) first requests := by
  refine Path.throughout_congr (fun d supply op => ?_) requests
  cases op
  case failJob executorId jobId submission =>
    constructor
    · rintro ⟨queues, returns⟩ executor job registered owned active signed
      cases (Table.find_key registered : executor.id = executorId)
      cases (Table.find_key owned.found : job.id = jobId)
      rcases failJob_ends supply registered owned active signed with ⟨error, e, ran, unacceptable⟩ |
        ⟨finished, e, ran, acceptable, queued⟩
      · refine ⟨fun running => ?_, fun acceptable => absurd acceptable unacceptable⟩
        obtain ⟨finished, e, returned⟩ := returns executor job registered owned running signed
        cases ran.symm.trans returned
      · exact ⟨fun _ => acceptable, fun _ => queued.mp (queues job finished e owned.found ran)⟩
    · intro possible
      refine ⟨fun job finished e found returned => ?_, fun executor job registered owned running signed => ?_⟩
      · rcases failJob_returned found returned with ⟨executor, registered, owned, active, signed⟩ | unplanned
        · cases (Table.find_key registered : executor.id = executorId)
          cases (Table.find_key owned.found : job.id = jobId)
          obtain ⟨-, free⟩ := possible executor job registered owned active signed
          rcases failJob_ends supply registered owned active signed with ⟨error, e, ran, unacceptable⟩ |
            ⟨finished, e, ran, acceptable, queued⟩
          · cases ran.symm.trans returned
          · cases ran.symm.trans returned
            exact queued.mpr (free acceptable)
        · rintro events appended ⟨event, member, -⟩
          rw [unplanned] at appended
          rw [List.self_eq_append_right.mp appended] at member
          cases member
      · have active : job.active = true := by simp [ExecutionJob.active, running]
        cases (Table.find_key registered : executor.id = executorId)
        cases (Table.find_key owned.found : job.id = jobId)
        obtain ⟨acceptable, -⟩ := possible executor job registered owned active signed
        rcases failJob_ends supply registered owned active signed with ⟨error, e, ran, unacceptable⟩ |
          ⟨finished, e, ran, -, -⟩
        · exact absurd (acceptable running) unacceptable
        · exact ⟨finished, e, ran⟩
  all_goals exact .rfl

namespace Sample

/-- One recovery is allowed, checkpoints are taken, and every digest is the same. -/
def recoveringEnv : Env := { deliveryEnv with snapshotsAvailable := true, maxRecoveryAttempts := 1 }

def recoveringTask : AgentTaskV1 := ⟨"r", "s", .obj [("objective", .str "build")]⟩

def recoveringStore : Db :=
  { plane with steps := .ofRows [{ step .pending with input := .obj [("framework", .str "codex"),
      ("agent_name", .str "coder"), ("agent_task", recoveringTask.modelDump)] }] }

def brokenBuild : SignedJobResult :=
  ⟨"token-0", failed, canonicalHash recoveringEnv failed.modelDump, "signature", "Ed25519", "fingerprint"⟩

def queueRecovering (key name : String) : Operation × Supply :=
  (.scheduleJob "r" "s" recoveringTask key [] [] 3 none true, supplyOf name)

/-- The job of the step fails, and so does the job of its recovery: the run is
failed, it is restored to its first snapshot, and a second job of the step is started. -/
def recoveringHistory : List (Operation × Supply) :=
  [queueRecovering "first" "a", (.acquireLease "x" none, supplyOf "b"), (.startJob "x" "a0" "token-0", supplyOf "c"),
    (.failJob "x" "a0" brokenBuild, supplyOf "d"), (.acquireLease "x" none, supplyOf "e"),
    (.startJob "x" "d1" "token-0", supplyOf "f"), (.failJob "x" "d1" brokenBuild, supplyOf "g"),
    (.restore "r" "https://sacm.dev/snapshots/r/digest" "again", supplyOf "h"), queueRecovering "second" "i",
    (.acquireLease "x" none, supplyOf "j"), (.startJob "x" "i0" "token-0", supplyOf "k")]

def restarted : Db := afterAll recoveringEnv recoveringStore recoveringHistory

def brokenAgain : Except Error ExecutionJob × Db :=
  request (failJob recoveringEnv "x" "i0" brokenBuild) restarted (supplyOf "l")

end Sample

open Sample in
/-- The recovery of the restored run gets the key of the recovery before: it is
recorded as scheduled, and every job of the run has failed. -/
theorem restored_recovery_reuses_job :
    brokenAgain.2.jobs.rows.map
      (fun job => (job.runStepId, job.state)) = [("s", .failed), ("s", .failed), ("s", .failed)] ∧
      ¬Path.Throughout (Operation.after recoveringEnv) (RecoveryHasJob recoveringEnv) recoveringStore
        (recoveringHistory ++ [(.failJob "x" "i0" brokenBuild, supplyOf "l")]) := by
  have states : brokenAgain.2.jobs.rows.map (fun job => (job.runStepId, job.state)) =
      [("s", .failed), ("s", .failed), ("s", .failed)] := by decide +kernel
  have returns : brokenAgain.1.toOption.isSome = true ∧ (restarted.jobs.find "i0").isSome = true := by decide +kernel
  have plans : brokenAgain.2.recoveryPlans =
        restarted.recoveryPlans ++ brokenAgain.2.recoveryPlans.drop restarted.recoveryPlans.length ∧
      ∃ event ∈ brokenAgain.2.recoveryPlans.drop restarted.recoveryPlans.length,
        event.payload.get "status" = .str "SCHEDULED" := by decide +kernel
  refine ⟨states, fun throughout => ?_⟩
  obtain ⟨-, ⟨queues, -⟩, -⟩ := (Path.throughout_append _ _).mp throughout
  obtain ⟨job, found⟩ := Option.isSome_iff_exists.mp returns.2
  rcases ran : brokenAgain with ⟨result, e⟩
  rw [ran] at states returns plans
  cases result with
  | error error => cases returns.1
  | ok finished =>
    obtain ⟨step, task, -, -, waiting, member, queued, -⟩ := queues job finished e found ran _ plans.1 plans.2
    have listed : (waiting.runStepId, waiting.state) ∈ e.jobs.rows.map fun job => (job.runStepId, job.state) :=
      List.mem_map_of_mem member
    rw [states, queued] at listed
    simp at listed

end SacmRuntime
