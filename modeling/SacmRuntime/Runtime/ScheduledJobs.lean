import SacmRuntime.Runtime.LeaseRecovery
import SacmRuntime.Runtime.RunEffects

namespace SacmRuntime
open Session Tx Table
open ExecutionPlaneService hiding schedule

def Db.jobWith (d : Db) (scopeKey idempotencyKey : String) : Option ExecutionJob :=
  d.jobs.rows.find? fun job => job.scopeKey == scopeKey && job.idempotencyKey == idempotencyKey

def queuedOrder (env : Env) (runId runStepId scopeKey idempotencyKey : String) (task : AgentTaskV1) :
    (String × String) × (String × String) × (Json × String) :=
  ((runId, runStepId), (scopeKey, idempotencyKey), (task.modelDump, canonicalHash env task.modelDump))

def ExecutionJob.tenancy (job : ExecutionJob) : Option String × Option String × Option String :=
  (job.projectId, job.organizationId, job.customerDeploymentId)

/-- What `schedule` has found before it looks for a job under the key. -/
structure Schedules (env : Env) (s : Session Db) (runId runStepId : String) (task : AgentTaskV1)
    (deployment : Option String) (run : Run) (scope : String × Option String × Option String) : Prop where
  atRun : s.working.run? runId = some run
  atStep : (s.working.getStep runId runStepId).isSome
  identity : task.runId = runId ∧ task.stepId = runStepId
  atScope : ExecutionPlaneService.scopeOf env run deployment s = (.ok scope, s)

/-- The scope in which a job of the run is queued, if the run and its project are known. -/
def Db.jobScope (env : Env) (d : Db) (runId : String) (deployment : Option String) : Option String :=
  (d.run? runId).bind fun run => match run.projectId with
    | some projectId => (d.projects.find projectId).map fun _ => "project:" ++ projectId
    | none => some ("customer-deployment:" ++ (deployment.filter (· ≠ "")).getD env.defaultCustomerDeploymentId)

/-- The job can be queued under this identifier, or has been queued with the same payload. -/
structure Schedulable (env : Env) (d : Db) (jobId runId runStepId key : String) (task : AgentTaskV1)
    (deployment : Option String) : Prop where
  atStep : (d.getStep runId runStepId).isSome
  identity : task.runId = runId ∧ task.stepId = runStepId
  scope : ∃ scopeKey, d.jobScope env runId deployment = some scopeKey ∧
    (∀ job, d.jobWith scopeKey key = some job → job.payloadHash = canonicalHash env task.modelDump) ∧
      (d.jobWith scopeKey key = none → d.jobs.find jobId = none)

def Session.queried (env : Env) (s : Session Db) : Session Db := if env.autoflush then
    { s with flushed := s.working } else s

/-- A query for the jobs under the key finds them as they are held. -/
def SeesJobs (env : Env) (s : Session Db) (key : String) : Prop := ∀ scopeKey,
  selectJobs env (fun job => job.scopeKey == scopeKey && job.idempotencyKey == key) s =
    (.ok (s.working.jobs.rows.filter fun job => job.scopeKey == scopeKey && job.idempotencyKey == key), s.queried env)

section
variable {env : Env} {s t : Session Db} {runId runStepId key name : String} {input : Json} {task : AgentTaskV1}

theorem selectJobs_ofClean (env : Env) (q : ExecutionJob → Bool) (clean : s.Clean) :
    selectJobs env q s = (.ok (s.working.jobs.rows.filter q), s) := by
  obtain ⟨committed, flushed, working, clock, uuids, tokens⟩ := s
  obtain ⟨sameCommitted, sameFlushed⟩ : committed = working ∧ flushed = working := clean
  subst sameCommitted sameFlushed
  exact selectJobs_clean env q flushed ⟨clock, uuids, tokens⟩

variable {d : Db} {deployment : Option String} {run : Run} {step : RunStep}

theorem jobWith_some {scopeKey : String} {job : ExecutionJob} (found : d.jobWith scopeKey key = some job) :
    d.jobs.find job.id = some job ∧ job.scopeKey = scopeKey ∧ job.idempotencyKey = key := by
  have holds := List.find?_some found
  rw [Bool.and_eq_true, beq_iff_eq, beq_iff_eq] at holds
  exact ⟨find_of_mem (List.mem_of_find?_eq_some found), holds.1, holds.2⟩

theorem stepWith_some (found : d.stepWith runId key = some step) :
    d.steps.find step.id = some step ∧ step.runId = runId ∧ step.idempotencyKey = key := by
  have holds := List.find?_some found
  rw [Bool.and_eq_true, beq_iff_eq, beq_iff_eq] at holds
  exact ⟨find_of_mem (List.mem_of_find?_eq_some found), holds.1, holds.2⟩

theorem scopeOf_state (env : Env) (run : Run) (deployment : Option String) (s : Session Db) :
    (scopeOf env run deployment s).2 = s := by
  unfold scopeOf
  cases run.projectId with
  | none => rfl
  | some projectId =>
    simp only [bind_view]
    cases s.working.projects.find projectId <;> rfl

theorem queried_clean (env : Env) (clean : s.Clean) : s.queried env = s := by
  unfold Session.queried
  split
  · exact congrArg (fun flushed => { s with flushed := flushed }) clean.2.symm
  · rfl

theorem queried_working (env : Env) (s : Session Db) : (s.queried env).working = s.working := by
  unfold Session.queried
  split <;> rfl

theorem queried_committed (env : Env) (s : Session Db) : (s.queried env).committed = s.committed := by
  unfold Session.queried
  split <;> rfl

theorem queried_uuids (env : Env) (s : Session Db) : (s.queried env).uuids = s.uuids := by
  unfold Session.queried
  split <;> rfl

theorem seesJobs_ofClean (env : Env) (key : String) (clean : s.Clean) : SeesJobs env s key := by
  intro scopeKey
  rw [selectJobs_ofClean env _ clean, queried_clean env clean]

/-- `scope_of` finds the scope of the jobs of the run. -/
theorem scopeOf_jobScope {scope : String × Option String × Option String} (atRun : s.working.run? runId = some run)
    (found : scopeOf env run deployment s = (.ok scope, s)) :
    s.working.jobScope env runId deployment = some scope.1 := by
  unfold scopeOf at found
  unfold Db.jobScope
  rw [atRun, Option.bind_some]
  cases named : run.projectId with
  | none =>
    rw [named] at found
    cases found
    rfl
  | some projectId =>
    rw [named] at found
    simp only [bind_view] at found
    cases atProject : s.working.projects.find projectId with
    | none =>
      rw [atProject] at found
      cases found
    | some project =>
      rw [atProject] at found
      cases found
      simp only [atProject, Option.map_some]

theorem jobScope_none {e : Error} (atRun : s.working.run? runId = some run)
    (raised : (scopeOf env run deployment s).1 = .error e) :
    s.working.jobScope env runId deployment = none := by
  unfold scopeOf at raised
  unfold Db.jobScope
  rw [atRun, Option.bind_some]
  cases named : run.projectId with
  | none =>
    rw [named] at raised
    cases raised
  | some projectId =>
    rw [named] at raised
    simp only [bind_view] at raised
    cases atProject : s.working.projects.find projectId with
    | none => simp only [atProject, Option.map_none]
    | some project =>
      rw [atProject] at raised
      cases raised

structure Queues (env : Env) (s : Session Db) (runId runStepId key : String) (task : AgentTaskV1) (run : Run)
    (scope : String × Option String × Option String) (commits : Bool) (job : ExecutionJob) (jobs : Table ExecutionJob)
    (t : Session Db) : Prop where
  unused : s.working.jobWith scope.1 key = none
  named : job.id = s.uuids 0
  order : job.order = queuedOrder env runId runStepId scope.1 key task
  queued : job.state = .queued
  tenancy : job.tenancy = (run.projectId, scope.2)
  inserted : s.working.jobs.insert? job = some jobs
  clean : commits = true → t.Clean
  logged : Logged { s.working with jobs := jobs } t.working
  others : ∀ other, other ≠ runId → t.working.eventsOf other = s.working.eventsOf other

/-- What `schedule` does: it raises before it has stored anything, a job has the
key and the same payload, or a job is queued. -/
theorem schedule_ends (env : Env) (runId runStepId : String) (task : AgentTaskV1) (capabilities : List String)
    (labels : List (String × String)) (maxAttempts : Nat) (deployment : Option String) (commits : Bool)
    (sees : SeesJobs env s key) :
    Yields
      (fun _ t => t.committed = s.committed ∧
        ¬Schedulable env s.working (s.uuids 0) runId runStepId key task deployment)
      (fun job t => ∃ run scope, Schedules env s runId runStepId task deployment run scope ∧
        ((t = s.queried env ∧ s.working.jobWith scope.1 key = some job ∧
            job.payloadHash = canonicalHash env task.modelDump) ∨
          ∃ jobs, Queues env s runId runStepId key task run scope commits job jobs t))
      (ExecutionPlaneService.schedule env runId runStepId task key capabilities labels maxAttempts deployment commits
        s) := by
  unfold ExecutionPlaneService.schedule
  rw [bind_view]
  cases atRun : s.working.run? runId with
  | none =>
    refine ⟨rfl, fun schedulable => ?_⟩
    obtain ⟨scopeKey, atScope, -⟩ := schedulable.scope
    unfold Db.jobScope at atScope
    rw [atRun] at atScope
    cases atScope
  | some run =>
  rw [bind_expect_some, bind_view]
  cases atStep : s.working.getStep runId runStepId with
  | none =>
    refine ⟨rfl, fun schedulable => ?_⟩
    have present := schedulable.atStep
    rw [atStep] at present
    cases present
  | some step =>
  rw [bind_expect_some]
  refine outcome_ite (fun other => ⟨rfl, fun schedulable => ?_⟩) fun matched => ?_
  · exact other.elim (absurd schedulable.identity.1) (absurd schedulable.identity.2)
  have identity : task.runId = runId ∧ task.stepId = runStepId := by tauto
  refine outcome_bind (fun e t ran => ?_) fun scope t ran => ?_
  · have same := scopeOf_state env run deployment s
    rw [ran] at same
    cases same
    refine ⟨rfl, fun schedulable => ?_⟩
    obtain ⟨scopeKey, atScope, -⟩ := schedulable.scope
    cases (jobScope_none atRun (congrArg Prod.fst ran)).symm.trans atScope
  have same := scopeOf_state env run deployment s
  rw [ran] at same
  subst same
  have found : Schedules env t runId runStepId task deployment run scope := ⟨atRun, by simp [atStep], identity, ran⟩
  have atScope := scopeOf_jobScope atRun ran
  obtain ⟨scopeKey, organizationId, deploymentId⟩ := scope
  dsimp only
  rw [bind_run_ok _ (sees scopeKey), List.head?_filter]
  cases stored : t.working.jobWith scopeKey key with
  | some job =>
    have here := stored
    unfold Db.jobWith at here
    rw [here]
    refine outcome_ite (fun other => ?_) fun same => ?_
    · refine ⟨queried_committed env t, fun schedulable => ?_⟩
      obtain ⟨sameScope, found, equal, -⟩ := schedulable.scope
      cases Option.some.inj (atScope.symm.trans found)
      exact other (equal job stored)
    · exact ⟨run, _, found, .inl ⟨rfl, stored, not_not.mp same⟩⟩
  | none =>
    have here := stored
    unfold Db.jobWith at here
    rw [here]
    simp only [bind_view, bind_utcnow, bind_uuid4]
    have unchanged := queried_working env t
    have drawn := queried_uuids env t
    have kept := queried_committed env t
    generalize t.queried env = u at unchanged drawn kept
    obtain ⟨committed, flushed, working, clock, uuids, tokens⟩ := u
    obtain rfl : working = t.working := unchanged
    obtain rfl : uuids = t.uuids := drawn
    generalize made : ExecutionJob.mk (t.uuids 0) .. = job
    obtain ⟨named, order, queued, tenancy⟩ : job.id = t.uuids 0 ∧
        job.order = queuedOrder env runId runStepId scopeKey key task ∧ job.state = .queued ∧
        job.tenancy = (run.projectId, organizationId, deploymentId) := by
      cases made
      exact ⟨rfl, rfl, rfl, rfl⟩
    clear made
    unfold insertJob
    rw [bind_assoc_run, bind_view, bind_assoc_run]
    refine outcome_expect_cases (fun refused => ⟨kept, fun schedulable => ?_⟩) fun jobs inserted => ?_
    · obtain ⟨sameScope, found, -, free⟩ := schedulable.scope
      cases Option.some.inj (atScope.symm.trans found)
      have unusedId : t.working.jobs.find (Keyed.key job) = none := by
        change t.working.jobs.find job.id = none
        rw [named]
        exact free stored
      obtain ⟨jobs, possible⟩ := insert?_isSome_of_fresh unusedId
      cases refused.symm.trans possible
    have inTable : jobs.find (t.uuids 0) = some job := by
      rw [find_insert? inserted, ← named]
      exact if_pos rfl
    rw [bind_modify]
    exact outcome_settling commits (find_key atRun) atRun
      (fun later logged => existingJob_run (by rw [logged.jobs]; exact inTable)) fun later closed =>
      ⟨run, _, found,
        .inr ⟨jobs, stored, named, order, queued, tenancy, inserted, closed.clean, closed.logged, closed.others⟩⟩

/-- The step `add_step` has just inserted has its key. -/
theorem stepWith_inserted {steps : Table RunStep} (unused : d.stepWith runId key = none) (ofRun : step.runId = runId)
    (named : step.idempotencyKey = key) (inserted : d.steps.insert? step = some steps) :
    Db.stepWith { d with steps := steps } runId key = some step := by
  unfold Db.stepWith at unused ⊢
  rw [(insert?_eq_some inserted).2, List.find?_append, unused]
  simp [ofRun, named]

theorem Logged.stepWith {e : Db} (logged : Logged d e) : e.stepWith runId key = d.stepWith runId key := by
  unfold Db.stepWith
  rw [logged.steps]

end

end SacmRuntime
