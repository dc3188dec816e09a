import SacmRuntime.Runtime.OrchestratedJobs

namespace SacmRuntime
open Session ExecutionPlanningService
open Tx hiding read

namespace JiraOrchestrationService

/-- The task has been planned from these inputs before, and it has a run:
the orchestration is called again, and no other service refuses it. -/
structure CalledAgain (env : Env) (tools : PlanningTools) (checks : DeliveryChecks)
    (connectorProject taskId policyPack : String) (d : PlanningDb) (run : Run) (plan : ExecutionPlanV1) : Prop where
  authorized : checks.authorized = .ok ()
  atTask : ∃ task, d.shared.tasks.find taskId = some task ∧ task.projectId = some connectorProject
  ready : (checks.readiness.get "ready").truthy = true
  contexts : checks.contexts = .ok d.contexts
  pack : policyPack = "default" ∨ policyPack = "strict"
  planner : checks.build.authorized = .ok ()
  planned : ∃ found row, inputs env tools d taskId policyPack = .ok found ∧
    existingPlan d taskId found.hash = some row ∧
    read tools d row = .ok plan
  latest : (d.shared.runs.rows.filter fun run => run.taskId == taskId).getLast? = some run
  synced : checks.synced = .ok ()

/-- The call returns, adds no step and no job, and leaves the status of the run. -/
def Unrepeated (result : Except Error (List ExecutionJob)) (d e : Db) (run : Run) : Prop :=
  (∃ jobs, result = .ok jobs) ∧ e.steps = d.steps ∧ e.jobs = d.jobs ∧ (e.run? run.id).map Run.status = some run.status

/-- There is nothing left to queue: no executor of the run's project is
active, or the plan has no steps, or the run is being implemented and every
planned step has its step and its job. -/
def NothingLeft (env : Env) (parsing : IntParsing) (d : Db) (run : Run) (plan : ExecutionPlanV1) : Prop :=
  executorActive d run = false ∨ plan.plannedSteps = [] ∨
    (run.status = .implementing ∧ ∀ planned ∈ plan.plannedSteps, Queued env parsing d run.id plan.id planned)

section
variable {env : Env} {parsing : IntParsing} {runId planId : String} {planned : PlannedStep} {run : Run}
  {plan : ExecutionPlanV1} {plannedSteps : List PlannedStep} {s : Session Db}

theorem agentTask_identity {stepId : String} {task : AgentTaskV1}
    (built : agentTask parsing planId runId stepId planned = .ok task) : task.runId = runId ∧ task.stepId = stepId := by
  unfold agentTask at built
  cases tokens : parsing.int ((planned.configuration.field? "token_budget").getD (.int 8000)) with
  | error error =>
    rw [tokens] at built
    cases built
  | ok tokenBudget =>
    cases seconds : parsing.int ((planned.configuration.field? "timeout_seconds").getD (.int 900)) with
    | error error =>
      rw [tokens, seconds] at built
      cases built
    | ok timeoutSeconds =>
      rw [tokens, seconds] at built
      change (if _ then _ else _) = _ at built
      split at built
      · cases built
        exact ⟨rfl, rfl⟩
      · cases built

theorem scopeOf_known {scopeKey : String} (known : scopeKeyOf env s.working run = some scopeKey) :
    ∃ rest, ExecutionPlaneService.scopeOf env run none s = (.ok (scopeKey, rest), s) := by
  unfold scopeKeyOf at known
  unfold ExecutionPlaneService.scopeOf
  cases named : run.projectId with
  | none =>
    rw [named] at known
    cases known
    exact ⟨_, rfl⟩
  | some projectId =>
    rw [named] at known
    obtain ⟨project, found, rfl⟩ := Option.map_eq_some_iff.mp known
    simp only [bind_view, found, bind_expect_some]
    exact ⟨_, rfl⟩

theorem scheduleStep_queued (clean : s.Clean) (queued : Queued env parsing s.working runId planId planned) :
    ∃ job, scheduleStep env parsing runId planId planned s = (.ok job, s) := by
  obtain ⟨run, step, task, scopeKey, job, atRun, found, built, scope, stored, same⟩ := queued
  obtain ⟨inTable, ofRun, _⟩ := stepWith_some found
  have atStep : s.working.getStep runId step.id = some step := by
    simp [Db.getStep, inTable, ofRun]
  have matched : ¬(task.runId ≠ runId ∨ task.stepId ≠ step.id) := by
    have identity := agentTask_identity built
    tauto
  obtain ⟨rest, atScope⟩ := scopeOf_known scope
  have added : RunService.addStep env runId planned.title (stepInput planId planned.id) (stepKey planId planned.id) s =
      (.ok step, s) := by
    unfold RunService.addStep
    have here := found
    unfold Db.stepWith at here
    rw [bind_run_ok _ (requireRun_run atRun), bind_view, here]
    rfl
  unfold scheduleStep ExecutionPlaneService.schedule
  rw [bind_run_ok _ added, built]
  simp only [Tx.ofExcept, bind_pure_run, bind_view, atRun, atStep, bind_expect_some, if_neg matched]
  rw [bind_run_ok _ atScope]
  dsimp only
  have here := stored
  unfold Db.jobWith at here
  rw [bind_run_ok _ (selectJobs_ofClean env _ clean), List.head?_filter, here]
  simp only [same, ne_eq, not_true_eq_false, if_false]
  exact ⟨job, rfl⟩

theorem scheduleSteps_queued (clean : s.Clean)
    (queued : ∀ planned ∈ plannedSteps, Queued env parsing s.working runId planId planned) :
    ∃ jobs, scheduleSteps env parsing runId planId plannedSteps s = (.ok jobs, s) := by
  induction plannedSteps with
  | nil => exact ⟨[], rfl⟩
  | cons planned rest ih =>
    obtain ⟨job, first⟩ := scheduleStep_queued clean (queued planned (by simp))
    obtain ⟨jobs, others⟩ := ih fun other member => queued other (by simp [member])
    unfold scheduleSteps
    rw [bind_run_ok _ first, bind_run_ok _ others]
    exact ⟨job :: jobs, rfl⟩

/-- The run as `_schedule` leaves it when it has queued jobs. -/
def implementing (now : Nat) (run : Run) : Run :=
  if run.status = .implementing then run else { run with status := .implementing, updatedAt := some now }

theorem implementing_status (now : Nat) (run : Run) : (implementing now run).status = .implementing := by
  unfold implementing
  split
  · assumption
  · rfl

theorem implementing_id (now : Nat) (run : Run) : (implementing now run).id = run.id := by
  unfold implementing
  split <;> rfl

/-- `_schedule` on a run that is stored: it repeats nothing exactly when there
is nothing left to queue. -/
theorem schedule_unrepeated_iff (env : Env) (parsing : IntParsing) (plan : ExecutionPlanV1) (clean : s.Clean)
    (atRun : s.working.run? run.id = some run) :
    (∃ jobs t, schedule env parsing run plan s = (.ok jobs, t) ∧ Unrepeated (.ok jobs) s.working t.committed run) ↔
      NothingLeft env parsing s.working run plan := by
  have unmoved : ∀ jobs, Unrepeated (.ok jobs) s.working s.committed run := by
    intro jobs
    rw [clean.1]
    exact ⟨⟨jobs, rfl⟩, rfl, rfl, by rw [atRun]; rfl⟩
  have after : ∀ now, Db.run? { s.working with runs := s.working.runs.update run.id (implementing now) } run.id =
      some (implementing now run) := fun now => run?_update (implementing_id now) atRun
  unfold NothingLeft schedule
  rw [bind_view]
  cases active : executorActive s.working run with
  | false => exact iff_of_true ⟨[], s, rfl, unmoved []⟩ (.inl rfl)
  | true =>
    rw [if_neg (by simp)]
    constructor
    · rintro ⟨jobs, t, ran, ⟨_, steps, jobsSame, status⟩⟩
      refine .inr ?_
      rcases (scheduleSteps_ends env parsing run.id plan.id plan.plannedSteps clean).cases with
        ⟨error, u, loop, _⟩ | ⟨queuedJobs, u, loop, cleanAfter, stored, all, grown⟩
      · rw [bind_run_error _ loop] at ran
        cases ran
      rw [bind_run_ok _ loop] at ran
      cases queuedJobs with
      | nil => exact .inl (List.forall₂_nil_right_iff.mp all)
      | cons job rest =>
        cases ran
        have same : rowCount u.working = rowCount s.working := by
          unfold rowCount
          exact congrArg₂
            (fun (steps : Table RunStep) (jobs : Table ExecutionJob) => steps.rows.length + jobs.rows.length)
            steps jobsSame
        rcases grown with ⟨rfl, queued⟩ | more
        · have stays : (implementing (u.clock 0) run).status = run.status := by
            have found := after (u.clock 0)
            change (Db.run? { u.working with runs := u.working.runs.update run.id (implementing (u.clock 0)) }
              run.id).map Run.status = some run.status at status
            rw [found] at status
            exact Option.some.inj status
          exact .inr ⟨stays.symm.trans (implementing_status _ run), queued⟩
        · omega
    · rintro (inactive | empty | ⟨status, queued⟩)
      · cases inactive
      · rw [empty]
        exact ⟨[], s, rfl, unmoved []⟩
      · obtain ⟨jobs, loop⟩ := scheduleSteps_queued clean queued
        rw [bind_run_ok _ loop]
        cases jobs with
        | nil => exact ⟨[], s, rfl, unmoved []⟩
        | cons job rest =>
          refine ⟨job :: rest, _, rfl, ⟨_, rfl⟩, rfl, rfl, ?_⟩
          change (Db.run? { s.working with runs := s.working.runs.update run.id (implementing (s.clock 0)) }
            run.id).map Run.status = some run.status
          rw [after]
          exact congrArg some ((implementing_status _ run).trans status.symm)

variable {checks : DeliveryChecks} {connectorProject policyPack taskId : String} {d : PlanningDb}
  {tools : PlanningTools}

theorem build_again {actor : String} (supply : Supply)
    (again : CalledAgain env tools checks connectorProject taskId policyPack d run plan) :
    build env tools checks.build taskId policyPack (some actor) (start d supply) = (.ok plan, start d supply) := by
  obtain ⟨task, found, _⟩ := again.atTask
  obtain ⟨inputsFound, row, checked, existing, readBack⟩ := again.planned
  have known : ¬(policyPack ≠ "default" ∧ policyPack ≠ "strict") := by
    have either := again.pack
    tauto
  have named : ¬(some actor = none ∧ env.production = true) := by simp
  unfold build
  simp only [if_neg known, bind_view, start_working, found, bind_expect_some, if_neg named, Option.isSome_some, if_true,
    again.planner, Tx.ofExcept, bind_pure_run, checked, existing, readBack]
  rfl

/-- Called again, the orchestration comes down to `_schedule`. -/
theorem orchestrate_again (actor : String) (supply : Supply)
    (again : CalledAgain env tools checks connectorProject taskId policyPack d run plan) :
    request (orchestrate env tools parsing checks connectorProject taskId policyPack actor) d supply =
      ((schedule env parsing run plan (start d.shared supply)).1,
        { d with shared := (schedule env parsing run plan (start d.shared supply)).2.committed }) := by
  obtain ⟨task, found, inProject⟩ := again.atTask
  have named : task.id = taskId := Table.find_key found
  have chosen : runOf env task (sourceRevision (d.taskContract taskId)) (sharedPart (start d supply)) =
      (.ok run, sharedPart (start d supply)) := by
    have latest := again.latest
    rw [← named] at latest
    have atStart : ((sharedPart (start d supply)).working.runs.rows.filter fun run => run.taskId == task.id).getLast? =
        some run := latest
    unfold runOf
    rw [bind_view, atStart]
    rfl
  have ends : orchestrate env tools parsing checks connectorProject taskId policyPack actor (start d supply) =
      ((schedule env parsing run plan (start d.shared supply)).1,
        withShared (start d supply) (schedule env parsing run plan (start d.shared supply)).2) := by
    unfold orchestrate
    simp only [again.authorized, again.ready, again.contexts, again.synced, Tx.ofExcept, bind_pure_run, bind_view,
      start_working, found, bind_expect_some, inProject, ne_eq, not_true_eq_false, if_false, Bool.not_true,
      Bool.false_eq_true, bind_modify, bind_commit]
    change (build env tools checks.build taskId policyPack (some actor) >>= _) (start d supply) = _
    rw [bind_run_ok _ (build_again supply again), bind_view, start_working,
      bind_run_ok _ (onShared_run chosen)]
    change (onShared (schedule env parsing run plan) >>= _) (start d supply) = _
    rcases scheduled : schedule env parsing run plan (start d.shared supply) with ⟨result, t⟩
    have within : schedule env parsing run plan (sharedPart (start d supply)) = (result, t) := scheduled
    cases result with
    | error error => rw [bind_run_error _ (onShared_run within)]
    | ok jobs =>
      rw [bind_run_ok _ (onShared_run within)]
      rfl
  unfold request
  rw [ends]
  rfl

end

end JiraOrchestrationService

open JiraOrchestrationService

/-- Called again with the same inputs, the orchestration returns, adds no step
and no job and leaves the status of the latest run, exactly when there is
nothing left to queue. In particular the run is IMPLEMENTING then, unless
nothing is queued at all. -/
theorem orchestration_repeats_nothing_iff {env : Env} {tools : PlanningTools} {parsing : IntParsing}
    {checks : DeliveryChecks} {connectorProject taskId policyPack : String} {d : PlanningDb} {run : Run}
    {plan : ExecutionPlanV1} (again : CalledAgain env tools checks connectorProject taskId policyPack d run plan)
    (actor : String) (supply : Supply) :
    Unrepeated (request (orchestrate env tools parsing checks connectorProject taskId policyPack actor) d supply).1
      d.shared (request (orchestrate env tools parsing checks connectorProject taskId policyPack actor) d
        supply).2.shared
      run ↔ NothingLeft env parsing d.shared run plan := by
  have member : run ∈ d.shared.runs.rows := List.mem_of_mem_filter (List.mem_of_getLast? again.latest)
  have atRun : (start d.shared supply).working.run? run.id = some run := Table.find_of_mem member
  rw [orchestrate_again actor supply again]
  have ends := schedule_unrepeated_iff env parsing plan (start_clean d.shared supply) atRun
  refine Iff.trans ?_ ends
  constructor
  · rintro ⟨⟨jobs, returned⟩, rest⟩
    exact ⟨jobs, _, Prod.ext returned rfl, ⟨jobs, rfl⟩, rest⟩
  · rintro ⟨jobs, t, ran, unrepeated⟩
    rw [ran]
    exact unrepeated

namespace Sample

def deliveryContext : ApplicationContext := ⟨"context", "t", "g", .null, .null, .null⟩

/-- The plan of the task, stored under the hash of its inputs. -/
def deliveryPlan : ExecutionPlan where
  id := "plan"
  taskId := "t"
  revision := 1
  schemaVersion := "execution-plan/v1"
  status := "READY"
  sourceHash := sourceHash deliveryEnv ⟨deliveryStore.taskContract "t"⟩ deliveryContext "default" []
  applicationContextId := "context"
  stepCount := 1
  secretRequirements := []

def deliveryBody : PlanBody where
  planId := "plan"
  plannerVersion := plannerVersion
  policyPack := "default"
  steps := [plannedStep "implement" []]
  riskDecision := .null
  policyDecision := .null
  securityReview := ⟨true, "PENDING", .null, [], none, none⟩
  secretRequirements := []
  approvalGates := []
  createdAt := 0

/-- The run of the task is being implemented: its step and its job are stored. -/
def deliveryRunning : PlanningDb :=
  let planned := PlannedStep.ofJson (plannedStep "implement" [])
  let step := { step .running with
    idempotencyKey := stepKey "plan" "implement", input := stepInput "plan" "implement" }
  let job := { heldJob .running 3 with
    scopeKey := "project:p", projectId := some "p", idempotencyKey := jobKey "plan" "implement",
    payloadHash := canonicalHash deliveryEnv (taskDump "plan" "r" "s" planned 8000 900) }
  let run := newRun "r" { task with projectId := some "p" } .implementing 0
  { deliveryStore with
    shared := { deliveryStore.shared with
      runs := .ofRows [run], steps := .ofRows [step], jobs := .ofRows [job], plans := [deliveryPlan] }
    contexts := [deliveryContext]
    bodies := [deliveryBody] }

/-- The plan has been orchestrated, and the run has been cancelled. -/
def cancelledDelivery : PlanningDb :=
  let first := (orchestrated [plannedStep "implement" []] allowed deliveryStore "a").2
  { first with shared := afterAll deliveryEnv first.shared [(.cancel "a0", supply)] }

end Sample

open Sample in
/-- Called again while the run is being implemented. -/
theorem orchestration_repeats_nothing_sample :
    Unrepeated (orchestrated [] allowed deliveryRunning "b").1 deliveryRunning.shared
      (orchestrated [] allowed deliveryRunning "b").2.shared
      (newRun "r" { task with projectId := some "p" } .implementing 0) := by
  let found : Inputs := ⟨⟨deliveryStore.taskContract "t"⟩, deliveryContext, [], deliveryPlan.sourceHash⟩
  have existing : existingPlan deliveryRunning "t" found.hash = some deliveryPlan := by
    simp [existingPlan, deliveryRunning, found, deliveryPlan]
  have again : ∃ plan, plan.plannedSteps = [PlannedStep.ofJson (plannedStep "implement" [])] ∧ plan.id = "plan" ∧
      CalledAgain deliveryEnv (deliveryTools [] allowed) deliveryChecks "p" "t" "default" deliveryRunning
        (newRun "r" { task with projectId := some "p" } .implementing 0) plan := by
    refine ⟨_, ?_, ?_, ⟨rfl, ⟨_, rfl, rfl⟩, rfl, rfl, .inl rfl, rfl, ⟨found, deliveryPlan, rfl, existing, rfl⟩, rfl,
      rfl⟩⟩
    · rfl
    · rfl
  obtain ⟨plan, steps, named, again⟩ := again
  refine (orchestration_repeats_nothing_iff again "user" (supplyOf "b")).mpr (.inr (.inr ⟨rfl, ?_⟩))
  rw [steps, named]
  simp only [List.mem_singleton, forall_eq]
  refine ⟨_, _, _, _, _, rfl, rfl, rfl, rfl, rfl, rfl⟩

open Sample in
/-- A cancelled run is moved back to IMPLEMENTING. -/
theorem orchestration_revives_cancelled_run :
    ∃ run, cancelledDelivery.shared.run? "a0" = some run ∧ run.status = .cancelled ∧
      ¬Unrepeated (orchestrated [plannedStep "implement" []] allowed cancelledDelivery "b").1 cancelledDelivery.shared
        (orchestrated [plannedStep "implement" []] allowed cancelledDelivery "b").2.shared run := by
  have before : (cancelledDelivery.shared.run? "a0").map Run.status = some .cancelled := by decide +kernel
  have after : ((orchestrated [plannedStep "implement" []] allowed cancelledDelivery "b").2.shared.run? "a0").map
      Run.status = some .implementing := by decide +kernel
  obtain ⟨run, found, cancelled⟩ := Option.map_eq_some_iff.mp before
  refine ⟨run, found, cancelled, ?_⟩
  rintro ⟨_, _, _, kept⟩
  rw [show run.id = "a0" from Table.find_key found, after, cancelled] at kept
  cases kept

end SacmRuntime
