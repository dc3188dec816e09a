import SacmRuntime.Runtime.JiraOrchestration
import SacmRuntime.Runtime.LatestPlan
import SacmRuntime.Runtime.ReplayedRun

namespace SacmRuntime
open Session Tx Table
open ExecutionPlaneService hiding schedule

namespace JiraOrchestrationService

/-- What the orchestration stores for a planned step: records in the logs, the
run step under its key, and a job for the run step that has the key. -/
inductive Stores (env : Env) (runId planId : String) (planned : PlannedStep) (d : Db) : Db → Prop
  | records {e : Db} (logged : Logged d e) : Stores env runId planId planned d e
  | step {steps : Table RunStep} (stepId : String) (unused : d.stepWith runId (stepKey planId planned.id) = none)
      (inserted : d.steps.insert? (scheduledStep d runId planned.title (stepInput planId planned.id)
        (stepKey planId planned.id) stepId) = some steps) : Stores env runId planId planned d { d with steps := steps }
  | job {step : RunStep} {scopeKey : String} {task : AgentTaskV1} {job : ExecutionJob} {jobs : Table ExecutionJob}
      (found : d.stepWith runId (stepKey planId planned.id) = some step)
      (unused : d.jobWith scopeKey (jobKey planId planned.id) = none)
      (order : job.order = queuedOrder env runId step.id scopeKey (jobKey planId planned.id) task)
      (queued : job.state = .queued) (inserted : d.jobs.insert? job = some jobs) :
      Stores env runId planId planned d { d with jobs := jobs }

/-- What the orchestration stores for some of these steps, one write after another. -/
abbrev StoresAll (env : Env) (runId planId : String) (plannedSteps : List PlannedStep) : Db → Db → Prop :=
  Relation.ReflTransGen fun d e => ∃ planned ∈ plannedSteps, Stores env runId planId planned d e

/-- A job the orchestration returned for a planned step. -/
structure Returned (planId : String) (planned : PlannedStep) (d : Db) (job : ExecutionJob) : Prop where
  found : d.jobs.find job.id = some job
  named : job.idempotencyKey = jobKey planId planned.id

/-- The scope in which a job of the run is queued, if its project is known. -/
def scopeKeyOf (env : Env) (d : Db) (run : Run) : Option String :=
  match run.projectId with
  | some projectId => (d.projects.find projectId).map fun _ => "project:" ++ projectId
  | none => some ("customer-deployment:" ++ env.defaultCustomerDeploymentId)

/-- The run has a step for the planned step, and a job has been queued for it
with the task the orchestration would queue now. -/
def Queued (env : Env) (parsing : IntParsing) (d : Db) (runId planId : String) (planned : PlannedStep) : Prop :=
  ∃ run step task scopeKey job, d.run? runId = some run ∧
    d.stepWith runId (stepKey planId planned.id) = some step ∧
    agentTask parsing planId runId step.id planned = .ok task ∧ scopeKeyOf env d run = some scopeKey ∧
    d.jobWith scopeKey (jobKey planId planned.id) = some job ∧ job.payloadHash = canonicalHash env task.modelDump

def rowCount (d : Db) : Nat := d.steps.rows.length + d.jobs.rows.length

section
variable {env : Env} {parsing : IntParsing} {runId planId : String} {planned : PlannedStep}
variable {plannedSteps : List PlannedStep} {s : Session Db} {d e : Db}

theorem scopeOf_key {run : Run} {scope : String × Option String × Option String}
    (ran : scopeOf env run none s = (.ok scope, s)) :
    scopeKeyOf env s.working run = some scope.1 := by
  unfold scopeOf at ran
  unfold scopeKeyOf
  cases named : run.projectId with
  | none =>
    rw [named] at ran
    cases ran
    rfl
  | some projectId =>
    rw [named] at ran
    simp only [bind_view] at ran
    cases found : s.working.projects.find projectId with
    | none =>
      rw [found] at ran
      cases ran
    | some project =>
      rw [found] at ran
      cases ran
      simp only [found, Option.map_some]

theorem Logged.rowCount (logged : Logged d e) : rowCount e = rowCount d := by
  unfold JiraOrchestrationService.rowCount
  rw [logged.steps, logged.jobs]

theorem rowCount_step {step : RunStep} {steps : Table RunStep} (inserted : d.steps.insert? step = some steps) :
    rowCount { d with steps := steps } = rowCount d + 1 := by
  simp only [rowCount, (insert?_eq_some inserted).2, List.length_append, List.length_singleton]
  omega

theorem rowCount_job {job : ExecutionJob} {jobs : Table ExecutionJob} (inserted : d.jobs.insert? job = some jobs) :
    rowCount { d with jobs := jobs } = rowCount d + 1 := by
  simp only [rowCount, (insert?_eq_some inserted).2, List.length_append, List.length_singleton]
  omega

theorem Stores.rowCount_le (stores : Stores env runId planId planned d e) : rowCount d ≤ rowCount e := by
  cases stores with
  | records logged => exact (Logged.rowCount logged).ge
  | step _ _ inserted => exact (rowCount_step inserted).ge.trans' (Nat.le_succ _)
  | job _ _ _ _ inserted => exact (rowCount_job inserted).ge.trans' (Nat.le_succ _)

/-- One round, whether it raises or returns: what it committed, and the job it
returns. A round that returns stores something or changes nothing. -/
theorem scheduleStep_ends (env : Env) (parsing : IntParsing) (runId planId : String) (planned : PlannedStep)
    (clean : s.Clean) :
    Yields (fun _ t => StoresAll env runId planId [planned] s.working t.committed)
      (fun job t => t.Clean ∧ StoresAll env runId planId [planned] s.working t.working ∧
        Returned planId planned t.working job ∧
        ((t = s ∧ Queued env parsing s.working runId planId planned) ∨ rowCount s.working < rowCount t.working))
      (scheduleStep env parsing runId planId planned s) := by
  have one : ∀ {d e}, Stores env runId planId planned d e → StoresAll env runId planId [planned] d e :=
    fun stores => .single ⟨planned, by simp, stores⟩
  unfold scheduleStep
  cases atRun : s.working.run? runId with
  | none =>
    have absent :
      RunService.addStep env runId planned.title (stepInput planId planned.id) (stepKey planId planned.id) s =
        (.error (.valueError ("Run " ++ runId ++ " not found")), s) := by
      unfold RunService.addStep
      rw [bind_run_error _ (requireRun_absent atRun)]
    rw [bind_run_error _ absent, ← clean.1]
  | some run =>
  refine (addStep_ends env _ _ _ atRun).bind (fun error t ⟨_, _, same⟩ => ?_) fun step t added => ?_
  · change StoresAll env runId planId [planned] s.working t.committed
    rw [same, clean.1]
  -- The task and the job, once the step is there.
  obtain ⟨cleanHere, before, found, more⟩ : t.Clean ∧ StoresAll env runId planId [planned] s.working t.working ∧
      t.working.stepWith runId (stepKey planId planned.id) = some step ∧
      (t = s ∨ rowCount s.working < rowCount t.working) := by
    rcases added with ⟨rfl, here⟩ | ⟨steps, absent, rfl, inserted, closed⟩
    · exact ⟨clean, .refl, here, .inl rfl⟩
    · refine ⟨closed.clean rfl, (one (.step (s.uuids 0) absent inserted)).trans (one (.records closed.logged)), ?_,
        .inr ?_⟩
      · rw [closed.logged.stepWith]
        exact stepWith_inserted absent rfl rfl inserted
      · rw [Logged.rowCount closed.logged, rowCount_step inserted]
        exact Nat.lt_succ_self _
  have nothing : ∀ u : Session Db, u.committed = t.committed →
      StoresAll env runId planId [planned] s.working u.committed := by
    intro u same
    rw [same, cleanHere.1]
    exact before
  refine outcome_ofExcept (fun error => nothing t rfl) fun task built => ?_
  refine outcome_last ((schedule_ends env runId step.id task [planned.agentRole] [] 3 none true
    (seesJobs_ofClean env _ cleanHere)).bind (fun error u ⟨same, _⟩ => nothing u same) ?_)
  rintro job u ⟨run, scope, scheduled, ⟨rfl, here, same⟩ | ⟨jobs, queues⟩⟩
  · obtain ⟨inTable, _, named⟩ := jobWith_some here
    rw [queried_clean env cleanHere]
    refine ⟨cleanHere, before, ⟨inTable, named⟩, more.imp_left fun unmoved => ⟨unmoved, ?_⟩⟩
    subst unmoved
    exact ⟨run, step, task, scope.1, job, scheduled.atRun, found, built, scopeOf_key scheduled.atScope, here, same⟩
  · have inTable : jobs.find job.id = some job := by
      rw [find_insert? queues.inserted]
      exact if_pos rfl
    have longer : rowCount t.working < rowCount u.working := by
      rw [Logged.rowCount queues.logged, rowCount_job queues.inserted]
      exact Nat.lt_succ_self _
    refine ⟨queues.clean rfl, ?_,
      ⟨by rw [queues.logged.jobs]; exact inTable, congrArg (fun order => order.2.1.2) queues.order⟩,
      .inr ?_⟩
    · have stores : Stores env runId planId planned t.working { t.working with jobs := jobs } :=
        .job found queues.unused queues.order queues.queued queues.inserted
      exact (before.trans (one stores)).trans (one (.records queues.logged))
    · rcases more with rfl | more
      · exact longer
      · exact more.trans longer

theorem StoresAll.mono {few many : List PlannedStep} (within : few ⊆ many)
    (stored : StoresAll env runId planId few d e) :
    StoresAll env runId planId many d e :=
  Relation.ReflTransGen.mono (fun _ _ ⟨planned, member, stores⟩ => ⟨planned, within member, stores⟩) _ _ stored

section
variable (stored : StoresAll env runId planId plannedSteps d e)
include stored

theorem StoresAll.keeps {P : Db → Prop}
    (each : ∀ planned ∈ plannedSteps, ∀ d e, Stores env runId planId planned d e → P d → P e) (first : P d) : P e := by
  induction stored with
  | refl => exact first
  | tail _ last ih =>
    obtain ⟨planned, member, stores⟩ := last
    exact each planned member _ _ stores ih

theorem StoresAll.keeps_returned {job : ExecutionJob} (returned : Returned planId planned d job) :
    Returned planId planned e job := by
  refine ⟨stored.keeps (P := fun d => d.jobs.find job.id = some job)
    (fun other _ d e stores found => ?_) returned.found,
    returned.named⟩
  cases stores with
  | records logged => rw [logged.jobs]; exact found
  | step => exact found
  | job _ _ _ _ inserted => exact find_insert?_of_some inserted found

theorem StoresAll.rowCount_le : rowCount d ≤ rowCount e := by
  induction stored with
  | refl => exact le_rfl
  | tail _ last ih =>
    obtain ⟨_, _, stores⟩ := last
    exact ih.trans stores.rowCount_le

end

/-- The loop of `_schedule`, whether it raises or returns. -/
theorem scheduleSteps_ends (env : Env) (parsing : IntParsing) (runId planId : String) (plannedSteps : List PlannedStep)
    (clean : s.Clean) :
    Yields (fun _ t => StoresAll env runId planId plannedSteps s.working t.committed)
      (fun jobs t => t.Clean ∧ StoresAll env runId planId plannedSteps s.working t.working ∧
        List.Forall₂ (fun planned job => Returned planId planned t.working job) plannedSteps jobs ∧
        ((t = s ∧ ∀ planned ∈ plannedSteps, Queued env parsing s.working runId planId planned) ∨
          rowCount s.working < rowCount t.working))
      (scheduleSteps env parsing runId planId plannedSteps s) := by
  induction plannedSteps generalizing s with
  | nil => exact ⟨clean, .refl, .nil, .inl ⟨rfl, by simp⟩⟩
  | cons planned rest ih =>
    have head : [planned] ⊆ planned :: rest := by simp
    have tail : rest ⊆ planned :: rest := List.subset_cons_self _ _
    unfold scheduleSteps
    refine (scheduleStep_ends env parsing runId planId planned clean).bind (fun _ t stored => stored.mono head)
      fun job t ⟨cleanAfter, stored, returned, first⟩ => ?_
    refine (ih cleanAfter).bind (fun _ u later => (stored.mono head).trans (later.mono tail))
      fun jobs u ⟨cleanLast, later, all, others⟩ => ?_
    refine ⟨cleanLast, (stored.mono head).trans (later.mono tail), .cons (later.keeps_returned returned) all, ?_⟩
    rcases first with ⟨rfl, queued⟩ | more
    · exact others.imp_left fun ⟨unmoved, queuedRest⟩ => ⟨unmoved, by simpa using ⟨queued, queuedRest⟩⟩
    · exact .inr (more.trans_le later.rowCount_le)

/-- `_schedule`, whether it raises or returns. Only the runs differ from what
the loop stored. -/
theorem schedule_ends (env : Env) (parsing : IntParsing) (run : Run) (plan : ExecutionPlanV1) (clean : s.Clean) :
    Yields
      (fun _ t => executorActive s.working run = true ∧
        StoresAll env run.id plan.id plan.plannedSteps s.working t.committed)
      (fun jobs t => (jobs = [] ∧ t = s ∧ executorActive s.working run = false) ∨
        t.Clean ∧ executorActive s.working run = true ∧ ∃ last runs,
          StoresAll env run.id plan.id plan.plannedSteps s.working last ∧ t.working = { last with runs := runs } ∧
          List.Forall₂ (fun planned job => Returned plan.id planned last job) plan.plannedSteps jobs)
      (schedule env parsing run plan s) := by
  unfold schedule
  rw [bind_view]
  cases active : executorActive s.working run with
  | false => exact .inl ⟨rfl, rfl, rfl⟩
  | true =>
    rw [if_neg (by simp)]
    refine (scheduleSteps_ends env parsing run.id plan.id plan.plannedSteps clean).bind
      (fun _ t stored => ⟨rfl, stored⟩)
      fun jobs t ⟨cleanAfter, stored, all, _⟩ => ?_
    cases jobs with
    | nil => exact .inr ⟨cleanAfter, rfl, t.working, t.working.runs, stored, rfl, all⟩
    | cons job rest => exact .inr ⟨⟨rfl, rfl⟩, rfl, t.working, _, stored, rfl, all⟩

/-- `_run`, whether it raises or returns: the steps and the jobs stay as they are. -/
theorem runOf_ends (env : Env) (task : Task) (revision : Option String) (s : Session Db) :
    Yields (fun _ t => t.committed = s.committed)
      (fun run t => (t = s ∧ (s.working.runs.rows.filter fun run => run.taskId == task.id).getLast? = some run) ∨
        t.Clean ∧ run.projectId = task.projectId ∧
        (s.working.runs.rows.filter fun run => run.taskId == task.id) = [] ∧
        ∃ runs, s.working.runs.insert? run = some runs ∧ Logged { s.working with runs := runs } t.working)
      (runOf env task revision s) := by
  unfold runOf
  rw [bind_view]
  cases existing : (s.working.runs.rows.filter fun run => run.taskId == task.id).getLast? with
  | some run => exact .inl ⟨rfl, rfl⟩
  | none =>
    simp only [bind_uuid4, bind_utcnow]
    refine outcome_bind (fun error t stopped => ?_) fun _ t inserted => ?_
    · have kept : Tx.Leaves Session.committed
          (insertRun { newRun (s.uuids 0) task .planning (s.clock 0) with sourceRevision := revision }) := by
        unfold insertRun
        exact leaves_read fun _ => leaves_expect.bind fun _ _ => rfl
      exact kept.after (s := { s with uuids := fun n => s.uuids (n + 1), clock := fun n => s.clock (n + 1) }) stopped
    · obtain ⟨runs, fresh, rfl⟩ := insertRun_ok inserted
      have stored : Db.run? { s.working with runs := runs } (s.uuids 0) = some
          { newRun (s.uuids 0) task .planning (s.clock 0) with sourceRevision := revision } := by
        unfold Db.run?
        rw [find_insert? fresh]
        exact if_pos rfl
      rw [bind_flush]
      exact outcome_settling true rfl stored
        (fun later logged => requireRun_run ((logged.run? _).trans stored)) fun later closed =>
        .inr ⟨closed.clean rfl, rfl, List.getLast?_eq_none_iff.mp existing, runs, fresh, closed.logged⟩

end

end JiraOrchestrationService

namespace ExecutionPlanningService

def Replanned (d e : PlanningDb) : Prop :=
  ∃ plans bodies, e = { d with shared := { d.shared with plans := plans }, bodies := bodies }

theorem Replanned.refl (d : PlanningDb) : Replanned d d := ⟨d.shared.plans, d.bodies, rfl⟩

theorem Replanned.tables {d e : PlanningDb} (replanned : Replanned d e) : e.shared.steps = d.shared.steps ∧
    e.shared.jobs = d.shared.jobs ∧ e.shared.executors = d.shared.executors ∧ e.shared.runs = d.shared.runs := by
  obtain ⟨plans, bodies, rfl⟩ := replanned
  exact ⟨rfl, rfl, rfl, rfl⟩

/-- `build`, whether it raises or returns. -/
theorem build_ends (env : Env) (tools : PlanningTools) (checks : BuildChecks) (taskId policyPack : String)
    (actorId : Option String) {s : Session PlanningDb} (clean : s.Clean) :
    Yields (fun _ t => Replanned s.working t.committed) (fun _ t => t.Clean ∧ Replanned s.working t.working)
      (build env tools checks taskId policyPack actorId s) := by
  have stops : ∀ t : Session PlanningDb, t.committed = s.committed → Replanned s.working t.committed := by
    intro t same
    rw [same, clean.1]
    exact .refl _
  have reads : ∀ (result : Except Error ExecutionPlanV1) (t : Session PlanningDb), t.Clean →
      Replanned s.working t.working → Yields (fun _ t => Replanned s.working t.committed)
        (fun _ t => t.Clean ∧ Replanned s.working t.working) (ofExcept result t) := by
    intro result t cleanHere replanned
    cases result with
    | error error =>
      change Replanned s.working t.committed
      exact cleanHere.1 ▸ replanned
    | ok plan => exact ⟨cleanHere, replanned⟩
  unfold build
  refine outcome_ite (fun _ => stops _ rfl) fun _ => ?_
  rw [bind_view]
  refine outcome_expect (stops _ rfl) fun _ _ => ?_
  refine outcome_ite (fun _ => stops _ rfl) fun _ => ?_
  refine outcome_ofExcept (fun error => stops _ rfl) fun _ _ => ?_
  rw [bind_view]
  refine outcome_ofExcept (fun error => stops _ rfl) fun found _ => ?_
  rw [bind_view]
  cases existingPlan s.working taskId found.hash with
  | some plan => exact reads _ s clean (.refl _)
  | none =>
    dsimp only
    unfold compose
    rw [bind_view]
    refine outcome_ofExcept (fun error => stops _ rfl) fun planned _ => ?_
    refine outcome_ofExcept (fun error => stops _ rfl) fun decision _ => ?_
    rw [bind_utcnow]
    generalize made : ExecutionPlan.mk (env.uuid5 _) .. = row
    refine outcome_bind (fun error t stopped => ?_) fun _ t inserted => ?_
    · unfold insertPlan at stopped
      rw [bind_view] at stopped
      split at stopped <;> cases stopped
      exact stops _ rfl
    · obtain ⟨rfl, -⟩ := insertPlan_ok inserted
      rw [bind_flush]
      refine outcome_ofExcept (fun error => stops _ rfl) fun reviewer _ => ?_
      refine outcome_ofExcept (fun error => stops _ rfl) fun secrets _ => ?_
      rw [bind_modify, bind_commit]
      refine outcome_ofExcept (fun error => ⟨_, _, rfl⟩) fun _ _ => ?_
      refine outcome_ofExcept (fun error => ⟨_, _, rfl⟩) fun _ _ => ?_
      rw [bind_view]
      exact reads _ _ ⟨rfl, rfl⟩ ⟨_, _, rfl⟩

end ExecutionPlanningService

namespace JiraOrchestrationService
open ExecutionPlanningService

/-- The project of the run an orchestration works on: the latest run of the
task, or a new one. -/
def runProject (d : Db) (connectorProject taskId : String) : Option String :=
  match (d.runs.rows.filter fun run => run.taskId == taskId).getLast? with
  | some run => run.projectId
  | none => some connectorProject

/-- How an orchestration ends, as far as steps and jobs go: it left them
alone, or it stored some for a plan that was built from these tables. -/
inductive Orchestrates (env : Env) (tools : PlanningTools) (checks : DeliveryChecks)
    (connectorProject taskId policyPack actor : String) (d : PlanningDb) :
      Except Error (List ExecutionJob) → PlanningDb → Prop
  | idle {result : Except Error (List ExecutionJob)} {e : PlanningDb} (steps : e.shared.steps = d.shared.steps)
      (jobs : e.shared.jobs = d.shared.jobs) (none : ∀ jobs, result = .ok jobs → jobs = []) :
      Orchestrates env tools checks connectorProject taskId policyPack actor d result e
  | queued {result : Except Error (List ExecutionJob)} {e : PlanningDb} {plan : ExecutionPlanV1} {run : Run}
      {mid last : Db} {s t : Session PlanningDb} {contexts : List ApplicationContext}
      (given : checks.contexts = .ok contexts) (clean : s.Clean) (from_ : s.working = { d with contexts := contexts })
      (built : build env tools checks.build taskId policyPack (some actor) s = (.ok plan, t))
      (stepsBefore : mid.steps = d.shared.steps) (jobsBefore : mid.jobs = d.shared.jobs)
      (executors : mid.executors = d.shared.executors) (active : executorActive mid run = true)
      (project : run.projectId = runProject d.shared connectorProject taskId)
      (stored : StoresAll env run.id plan.id plan.plannedSteps mid last)
      (steps : e.shared.steps = last.steps) (jobs : e.shared.jobs = last.jobs)
      (returned : ∀ jobs, result = .ok jobs →
        List.Forall₂ (fun planned job => Returned plan.id planned last job) plan.plannedSteps jobs) :
      Orchestrates env tools checks connectorProject taskId policyPack actor d result e

/-- The part of a planning session that the shared services see. -/
def sharedPart (s : Session PlanningDb) : Session Db :=
  ⟨s.committed.shared, s.flushed.shared, s.working.shared, s.clock, s.uuids, s.tokens⟩

/-- A session of planning after a shared service has left its part so. -/
def withShared (s : Session PlanningDb) (t : Session Db) : Session PlanningDb :=
  ⟨{ s.committed with shared := t.committed }, { s.flushed with shared := t.flushed },
    { s.working with shared := t.working }, t.clock, t.uuids, t.tokens⟩

section
variable {α : Type} {s : Session PlanningDb} {t : Session Db}

theorem onShared_run {m : Service α} {result : Except Error α} (ran : m (sharedPart s) = (result, t)) :
    onShared m s = (result, withShared s t) := by
  have split : onShared m s = ((m (sharedPart s)).1, withShared s (m (sharedPart s)).2) := rfl
  rw [split, ran]

theorem sharedPart_clean (clean : s.Clean) : (sharedPart s).Clean := by
  unfold sharedPart
  exact ⟨by rw [clean.1], by rw [clean.2]⟩

theorem withShared_clean (clean : s.Clean) (inside : t.Clean) : (withShared s t).Clean := by
  unfold withShared
  exact ⟨by rw [clean.1, inside.1], by rw [clean.2, inside.2]⟩

end

/-- `orchestrate`, whether it raises or returns. -/
theorem orchestrate_ends (env : Env) (tools : PlanningTools) (parsing : IntParsing) (checks : DeliveryChecks)
    (connectorProject taskId policyPack actor : String) (d : PlanningDb) (supply : Supply) :
    Orchestrates env tools checks connectorProject taskId policyPack actor d
      (request (orchestrate env tools parsing checks connectorProject taskId policyPack actor) d supply).1
      (request (orchestrate env tools parsing checks connectorProject taskId policyPack actor) d supply).2 := by
  let P (outcome : Except Error (List ExecutionJob) × Session PlanningDb) : Prop :=
    Orchestrates env tools checks connectorProject taskId policyPack actor d outcome.1 outcome.2.committed
  change P (orchestrate env tools parsing checks connectorProject taskId policyPack actor (start d supply))
  have stops : ∀ error (t : Session PlanningDb), t.committed.shared.steps = d.shared.steps →
      t.committed.shared.jobs = d.shared.jobs → P (.error error, t) :=
    fun error t steps jobs => .idle steps jobs fun _ returned => by cases returned
  unfold orchestrate
  refine outcome_ofExcept (P := P) (fun error => stops error _ rfl rfl) fun _ _ => ?_
  rw [bind_view]
  refine outcome_expect (P := P) (stops _ _ rfl rfl) fun task found => ?_
  refine outcome_ite (P := P) (fun _ => stops _ _ rfl rfl) fun inProject => ?_
  refine outcome_ite (P := P) (fun _ => ?_) fun _ => ?_
  · refine outcome_ofExcept (P := P) (fun error => stops error _ rfl rfl) fun _ _ => ?_
    exact .idle rfl rfl fun jobs returned => (Except.ok.inj returned).symm
  · refine outcome_ofExcept (P := P) (fun error => stops error _ rfl rfl) fun contexts given => ?_
    rw [bind_modify, bind_commit]
    let ready : Session PlanningDb :=
      { start { d with contexts := contexts } supply with committed := { d with contexts := contexts } }
    have readyClean : ready.Clean := ⟨rfl, rfl⟩
    change P (((build env tools checks.build taskId policyPack (some actor)) >>= _) ready)
    rcases (build_ends env tools checks.build taskId policyPack (some actor) readyClean).cases with
      ⟨error, t, ran, replanned⟩ | ⟨plan, t, ran, clean, replanned⟩
    · rw [bind_run_error _ ran]
      exact stops error t replanned.tables.1 replanned.tables.2.1
    · obtain ⟨steps, jobs, executors, runs⟩ : t.working.shared.steps = d.shared.steps ∧
          t.working.shared.jobs = d.shared.jobs ∧ t.working.shared.executors = d.shared.executors ∧
          t.working.shared.runs = d.shared.runs := replanned.tables
      have planned : t.committed.shared = t.working.shared := by rw [clean.1]
      rw [bind_run_ok _ ran, bind_view]
      have part := sharedPart_clean clean
      have named : task.id = taskId := find_key found
      -- The run is there: what is left is to queue the jobs and to tell Jira.
      have queue : ∀ (run : Run) (u : Session Db), u.Clean → u.working.steps = d.shared.steps →
          u.working.jobs = d.shared.jobs → u.working.executors = d.shared.executors →
          run.projectId = runProject d.shared connectorProject taskId →
          P ((do
            let jobs ← onShared (schedule env parsing run plan)
            ofExcept checks.synced
            return jobs) (withShared t u)) := by
        intro run u cleanHere stepsHere jobsHere executorsHere project
        have inside := sharedPart_clean (withShared_clean clean cleanHere)
        rcases (schedule_ends env parsing run plan inside).cases with ⟨error, v, scheduled, active, stored⟩ |
          ⟨queuedJobs, v, scheduled, ⟨rfl, rfl, _⟩ | ⟨cleanAfter, active, last, runs, stored, effect, all⟩⟩
        · rw [bind_run_error _ (onShared_run scheduled)]
          exact .queued given readyClean rfl ran stepsHere jobsHere executorsHere active project stored rfl rfl
              fun _ returned => by
            cases returned
        · rw [bind_run_ok _ (onShared_run scheduled)]
          have idle : ∀ result, (∀ jobs, result = .ok jobs → jobs = []) →
              P (result, withShared (withShared t u) (sharedPart (withShared t u))) :=
            fun result none => .idle (by rw [← stepsHere, ← cleanHere.1]; rfl)
              (by rw [← jobsHere, ← cleanHere.1]; rfl) none
          refine outcome_ofExcept (P := P) (fun error => idle _ fun _ returned => by cases returned) fun _ _ => ?_
          exact idle _ fun jobs returned => (Except.ok.inj returned).symm
        · rw [bind_run_ok _ (onShared_run scheduled)]
          have ends : ∀ result, (∀ jobs, result = .ok jobs → jobs = queuedJobs) →
              P (result, withShared (withShared t u) v) := by
            intro result only
            refine .queued given readyClean rfl ran stepsHere jobsHere executorsHere active project stored ?_ ?_
              fun jobs returned => ?_
            · change v.committed.steps = last.steps
              rw [cleanAfter.1, effect]
            · change v.committed.jobs = last.jobs
              rw [cleanAfter.1, effect]
            · rw [only jobs returned]
              exact all
          refine outcome_ofExcept (P := P) (fun error => ends _ fun _ returned => by cases returned) fun _ _ => ?_
          exact ends _ fun jobs returned => (Except.ok.inj returned).symm
      rcases (runOf_ends env task (sourceRevision (t.working.taskContract taskId)) (sharedPart t)).cases with
        ⟨error, u, chosen, kept⟩ | ⟨run, u, chosen, ⟨rfl, latest⟩ | ⟨cleanAfter, ofTask, none, _, _, logged⟩⟩
      · rw [bind_run_error _ (onShared_run chosen)]
        refine stops error _ ?_ ?_
        · change u.committed.steps = d.shared.steps
          rw [kept, ← steps, ← planned]
          rfl
        · change u.committed.jobs = d.shared.jobs
          rw [kept, ← jobs, ← planned]
          rfl
      · rw [bind_run_ok _ (onShared_run chosen)]
        refine queue run _ part steps jobs executors ?_
        change (t.working.shared.runs.rows.filter fun run => run.taskId == task.id).getLast? = some run at latest
        rw [runs, named] at latest
        unfold runProject
        rw [latest]
      · rw [bind_run_ok _ (onShared_run chosen)]
        refine queue run u cleanAfter (logged.steps.trans steps) (logged.jobs.trans jobs) ?_ ?_
        · obtain ⟨_, _, _, after⟩ := logged
          rw [after]
          exact executors
        · change (t.working.shared.runs.rows.filter fun run => run.taskId == task.id) = [] at none
          rw [runs, named] at none
          unfold runProject
          rw [none, ofTask]
          exact not_not.mp inProject

end JiraOrchestrationService

namespace Sample

/-- A planned step, carried out by the coder after the steps it depends on. -/
def plannedStep (id : String) (dependsOn : List String) : Json :=
  .obj [("id", .str id), ("title", .str id), ("objective", .str "Update the parser."),
    ("acceptance_criteria", .arr []), ("context_references", .arr []), ("required_tools", .arr []),
    ("depends_on", .ofStrings dependsOn), ("agent", .obj [("role", .str "coder"), ("configuration", .obj [])])]

/-- Planning that makes these steps, under this policy decision. -/
def deliveryTools (steps : List Json) (decision : PolicyDecisionV1) : PlanningTools :=
  { planningTools with
    buildSteps := fun _ _ _ _ => .ok ⟨steps, .null, .null⟩
    evaluatePlan := fun _ _ => .ok decision }

def allowed : PolicyDecisionV1 := ⟨true, false, false, [], .null⟩

def parsing : IntParsing := ⟨fun _ => .ok 0, fun _ => .ok 0⟩

def deliveryChecks : DeliveryChecks :=
  ⟨.ok (), .obj [("ready", .bool true)], .ok [⟨"context", "t", "g", .null, .null, .null⟩], ⟨.ok (), .ok (), .ok ()⟩,
    .ok ()⟩

/-- A task of a project, and an executor of the project. -/
def deliveryStore : PlanningDb where
  shared := { projects := .ofRows [⟨"p", "o", none, none⟩], tasks := .ofRows [{ task with projectId := some "p" }],
              executors := .ofRows [{ executor with projectId := some "p", capabilities := ["coder"] }] }
  taskContract _ := .obj [("title", .str "Update the parser.")]
  contexts := []
  bodies := []

/-- Every digest is the same: no text is compared with another one here. -/
def deliveryEnv : Env := { env with sha256 := fun _ => "digest" }

def orchestrated (steps : List Json) (decision : PolicyDecisionV1) (d : PlanningDb) (name : String) :
    Except Error (List ExecutionJob) × PlanningDb :=
  request (JiraOrchestrationService.orchestrate deliveryEnv (deliveryTools steps decision) parsing deliveryChecks
    "p" "t" "default"
    "user") d (supplyOf name)

end Sample

end SacmRuntime
