import SacmRuntime.Runtime.Fencing
import SacmRuntime.Runtime.LeaseOrder
import SacmRuntime.Runtime.OrchestratedJobs
import SacmRuntime.Runtime.PlanCoverage

namespace SacmRuntime
open Session JiraOrchestrationService Table

/-- A request of a delivery: to the planner, to the orchestration, or to a
service that shares its tables with the executors. -/
inductive DeliveryRequest where
  | plan (call : PlanningCall)
  | orchestrate (tools : PlanningTools) (parsing : IntParsing) (checks : DeliveryChecks)
      (connectorProject taskId policyPack actor : String)
  | serve (op : Operation)

def DeliveryRequest.after (env : Env) (call : DeliveryRequest) (d : PlanningDb) (supply : Supply) : PlanningDb :=
  match call with
  | .plan call => call.after env d supply
  | .orchestrate tools parsing checks connectorProject taskId policyPack actor =>
    (request (JiraOrchestrationService.orchestrate env tools parsing checks connectorProject taskId policyPack actor) d
      supply).2
  | .serve op => { d with shared := op.after env d.shared supply }

def Builds (env : Env) (tools : PlanningTools) (checks : DeliveryChecks) (taskId policyPack actor : String)
    (d : PlanningDb) (plan : ExecutionPlanV1) : Prop :=
  ∃ s t : Session PlanningDb, ∃ contexts, checks.contexts = .ok contexts ∧ s.Clean ∧
    s.working = { d with contexts := contexts } ∧
    ExecutionPlanningService.build env tools checks.build taskId policyPack (some actor) s = (.ok plan, t)

/-- The plan is not blocked, and every gate that lists the step is approved. -/
def ExecutionPlanV1.Releases (plan : ExecutionPlanV1) (stepId : String) : Prop :=
  plan.status ≠ "BLOCKED" ∧ ∀ gate ∈ plan.approvalGates, stepId ∈ gate.stepIds → gate.status = "APPROVED"

def RunStep.CarriesOut (step : RunStep) (planId stepId : String) : Prop :=
  step.input.get "execution_plan_id" = .str planId ∧ step.input.get "execution_plan_step_id" = .str stepId

/-- Every step that the planned step of the job depends on has a completed
run step in the run of the job. -/
def DependenciesDone (d : PlanningDb) (job : ExecutionJob) : Prop :=
  ∀ step body planned, d.shared.steps.find job.runStepId = some step → body ∈ d.bodies →
    planned ∈ body.steps.map PlannedStep.ofJson → step.CarriesOut body.planId planned.id →
    ∀ dependency ∈ planned.dependsOn, ∃ done ∈ d.shared.steps.rows, done.runId = job.runId ∧
      done.CarriesOut body.planId dependency ∧ done.status = .completed

def BecomesLeased (d e : Db) (job : ExecutionJob) : Prop :=
  e.jobs.find job.id = some job ∧ job.state = .leased ∧
    ∀ old, d.jobs.find job.id = some old → old.state = .leased → old.leaseTokenHash ≠ job.leaseTokenHash

namespace DeliveryRequest

/-- What the request promises about the plan: an orchestration queues no job
for a step its plan withholds, and no request leases a job ahead of the steps
it depends on. -/
structure Honours (env : Env) (d : PlanningDb) (supply : Supply) (call : DeliveryRequest) : Prop where
  queued : ∀ tools parsing checks connectorProject taskId policyPack actor plan,
    call = .orchestrate tools parsing checks connectorProject taskId policyPack actor →
    Builds env tools checks taskId policyPack actor d plan →
    ∀ job ∈ (call.after env d supply).shared.jobs.rows, d.shared.jobs.find job.id = none →
      ∀ planned ∈ plan.plannedSteps, job.idempotencyKey = jobKey plan.id planned.id → plan.Releases planned.id
  leased : ∀ job, BecomesLeased d.shared (call.after env d supply).shared job → DependenciesDone d job

/-- The policy allows the steps that are planned from these inputs, and asks for
no approval of one of them. -/
def PolicyAllows (tools : PlanningTools) (planId policyPack : String) (found : ExecutionPlanningService.Inputs) :
    Prop :=
  ∀ planned decision, tools.buildSteps planId found.contract found.context found.requests = .ok planned →
    tools.evaluatePlan planned.policyInput policyPack = .ok decision → decision.allow = true ∧
      ∀ gate ∈ decision.approvalGates, ∀ step ∈ planned.steps.map PlannedStep.ofJson, step.id ∉ gate.stepIds

/-- Every stored gate of the plan that lists one of its steps is approved. -/
def GatesOpen (d : PlanningDb) (planId : String) : Prop :=
  ∀ body ∈ d.bodies, body.planId = planId → ∀ gate ∈ body.approvalGates,
    ∀ step ∈ body.steps.map PlannedStep.ofJson, step.id ∈ gate.stepIds → gate.status = "APPROVED"

/-- The stored plan of these inputs is not blocked and its gates are open; if
there is none, the policy allows the steps. -/
def Permits (env : Env) (tools : PlanningTools) (d : PlanningDb) (taskId policyPack : String) : Prop :=
  ∀ found, ExecutionPlanningService.inputs env tools d taskId policyPack = .ok found →
    match ExecutionPlanningService.existingPlan d taskId found.hash with
    | some row => row.status ≠ "BLOCKED" ∧ GatesOpen d row.id
    | none => GatesOpen d (env.uuid5 (taskId ++ ":" ++ found.hash)) ∧
        PolicyAllows tools (env.uuid5 (taskId ++ ":" ++ found.hash)) policyPack found

/-- The plan or the policy permits the steps, or no executor of the project is
active; the job the executor is given next waits for no step. -/
def Meets (env : Env) (d : PlanningDb) (supply : Supply) : DeliveryRequest → Prop
  | orchestrate tools _ checks connectorProject taskId policyPack _ =>
    (∀ executor ∈ d.shared.executors.rows, executor.status = .active →
      executor.projectId ≠ runProject d.shared connectorProject taskId) ∨
    ∀ contexts, checks.contexts = .ok contexts → Permits env tools { d with contexts := contexts } taskId policyPack
  | serve (.acquireLease executorId _) =>
    ∀ executor job, d.shared.executors.find executorId = some executor →
      NextLeased env d.shared executor (supply.clock 0) job → DependenciesDone d job
  | _ => True

end DeliveryRequest

/-- Where the jobs of a store come from, as far as leases go. -/
structure LeaseFrom (p : Permit) (d : Db) (job : ExecutionJob) : Prop where
  order : ∀ old, d.jobs.find job.id = some old → job.order = old.order
  leased : job.state = .leased →
    (∃ old, d.jobs.find job.id = some old ∧ old.state = .leased ∧ old.leaseTokenHash = job.leaseTokenHash) ∨
      ∃ hash, job.leaseTokenHash = some hash ∧ p.issue job.id hash

/-- All jobs are kept, and every job comes from an earlier store. -/
structure LeasesFrom (p : Permit) (d e : Db) : Prop where
  kept : ∀ id, (d.jobs.find id).isSome → (e.jobs.find id).isSome
  rows : ∀ job ∈ e.jobs.rows, LeaseFrom p d job

section
variable {env : Env} {p : Permit} {s : Session Db} {d : Db}

theorem LeasesFrom.refl (p : Permit) (d : Db) : LeasesFrom p d d where
  kept _ held := held
  rows job member := by
    have found : d.jobs.find job.id = some job := find_of_mem member
    refine ⟨fun old before => ?_, fun leased => .inl ⟨job, found, leased, rfl⟩⟩
    rw [Option.some.inj (before.symm.trans found)]

theorem Write.keeps_leases {next : Db} (write : Write env p s next) (from_ : LeasesFrom p d s.working) :
    LeasesFrom p d next := by
  obtain ⟨kept, rows⟩ := from_
  cases write with
  | other _ _ _ _ jobs => exact ⟨jobs ▸ kept, jobs ▸ rows⟩
  | insertRun | run | insertStep | step | event | snapshot => exact ⟨kept, rows⟩
  | @insertJob job jobs state attempt token allowed inserted =>
    constructor
    · intro id held
      obtain ⟨old, found⟩ := Option.isSome_iff_exists.mp (kept id held)
      exact Option.isSome_iff_exists.mpr ⟨old, find_insert?_of_some inserted found⟩
    · intro row member
      rcases (mem_insert? inserted).mp member with old | rfl
      · exact rows row old
      · have fresh : s.working.jobs.find row.id = none := (insert?_eq_some inserted).1
        refine ⟨fun old before => ?_, fun leased => ?_⟩
        · have held := kept row.id (by simp [before])
          simp [fresh] at held
        · rw [state] at leased
          cases leased
  | job id f move =>
    constructor
    · intro other held
      rw [find_update_isSome]
      exact kept other held
    · intro row member
      rcases mem_update member with old | ⟨old, found, rfl⟩
      · exact rows row old
      · have moved := move old found
        obtain ⟨order, leased⟩ := rows old (find_mem found)
        rw [rewriteRow_of_keeps moved.id]
        refine ⟨fun first before => ?_, fun now_ => ?_⟩
        · rw [moved.id] at before
          exact moved.order.trans (order first before)
        · rw [moved.id]
          rcases moved.leased now_ with ⟨before, sameToken⟩ | granted
          · rw [sameToken]
            exact leased before
          · exact .inr granted

theorem Operation.leases_from (env : Env) (d : Db) (supply : Supply) (op : Operation) :
    LeasesFrom (op.permit env d supply) d (op.after env d supply) :=
  request_keeps (op.writes env d supply) (fun _ _ write => write.keeps_leases) (.refl _ d)

end

theorem BecomesLeased.acquired {env : Env} {d : Db} {supply : Supply} {op : Operation} {job : ExecutionJob}
    (becomes : BecomesLeased d (op.after env d supply) job) :
    ∃ executorId seconds executor next, op = .acquireLease executorId seconds ∧
      d.executors.find executorId = some executor ∧ NextLeased env d executor (supply.clock 0) next ∧
      job.order = next.order := by
  obtain ⟨found, leased, fresh⟩ := becomes
  obtain ⟨order, origin⟩ := (op.leases_from env d supply).rows job (find_mem found)
  rcases origin leased with ⟨old, before, wasLeased, sameToken⟩ | ⟨hash, _, issued⟩
  · exact absurd sameToken (fresh old before wasLeased)
  · cases op with
    | acquireLease executorId seconds =>
      obtain ⟨given, claimed, named, _⟩ := issued
      obtain ⟨executor, next, atExecutor, isNext, -, same⟩ := acquireLease_picks claimed
      have atNext : d.jobs.find job.id = some next := by
        rw [named, same]
        exact find_of_mem isNext.1
      exact ⟨executorId, seconds, executor, next, rfl, atExecutor, isNext, order next atNext⟩
    | _ => exact issued.elim

theorem JiraOrchestrationService.StoresAll.leases {env : Env} {runId planId : String} {plannedSteps : List PlannedStep}
    {d e : Db} (stored : StoresAll env runId planId plannedSteps d e) :
    ∀ job ∈ e.jobs.rows, job.state = .leased → d.jobs.find job.id = some job := by
  refine stored.keeps (P := fun e => ∀ job ∈ e.jobs.rows, job.state = .leased → d.jobs.find job.id = some job)
    (fun planned _ d e stores kept => ?_) fun job member _ => find_of_mem member
  cases stores with
  | records logged => exact logged.jobs ▸ kept
  | step => exact kept
  | job found unused order queued inserted =>
    intro row member leased
    rcases (mem_insert? inserted).mp member with old | rfl
    · exact kept row old leased
    · rw [queued] at leased
      cases leased

theorem DeliveryRequest.orchestrate_jobs (env : Env) (tools : PlanningTools) (parsing : IntParsing)
    (checks : DeliveryChecks) (connectorProject taskId policyPack actor : String) (d : PlanningDb) (supply : Supply) :
    ((after env (.orchestrate tools parsing checks connectorProject taskId policyPack actor) d supply).shared.jobs =
        d.shared.jobs) ∨
      ∃ plan run mid last, Builds env tools checks taskId policyPack actor d plan ∧ mid.jobs = d.shared.jobs ∧
        mid.executors = d.shared.executors ∧ executorActive mid run = true ∧
        run.projectId = runProject d.shared connectorProject taskId ∧
        StoresAll env run.id plan.id plan.plannedSteps mid last ∧
        (after env (.orchestrate tools parsing checks connectorProject taskId policyPack actor) d supply).shared.jobs =
          last.jobs := by
  have ends := orchestrate_ends env tools parsing checks connectorProject taskId policyPack actor d supply
  change (request
    (JiraOrchestrationService.orchestrate env tools parsing checks connectorProject taskId policyPack actor)
    d supply).2.shared.jobs = _ ∨ ∃ plan run mid last, _ ∧ _ ∧ _ ∧ _ ∧ _ ∧ _ ∧ (request _ d supply).2.shared.jobs = _
  generalize request
    (JiraOrchestrationService.orchestrate env tools parsing checks connectorProject taskId policyPack actor)
    d supply = outcome at ends ⊢
  obtain ⟨result, e⟩ := outcome
  cases ends with
  | idle _ jobs _ => exact .inl jobs
  | @queued plan run mid last s t contexts given clean from_ built _ jobsBefore executors active project stored _
      jobs _ =>
    exact .inr ⟨plan, run, mid, last, ⟨s, t, contexts, given, clean, from_, built⟩, jobsBefore, executors, active,
      project, stored, jobs⟩

section Releases
variable {env : Env} {tools : PlanningTools} {checks : DeliveryChecks} {taskId policyPack actor : String}
  {d : PlanningDb} {plan : ExecutionPlanV1} {row : ExecutionPlan}
open DeliveryRequest ExecutionPlanningService

/-- A plan releases its steps if its row is not blocked and its gates are open. -/
theorem releases_of_rows (readBack : read tools d row = .ok plan) (status : row.status ≠ "BLOCKED")
    (gates : GatesOpen d row.id) : ∀ planned ∈ plan.plannedSteps, plan.Releases planned.id := by
  obtain ⟨sameStatus, body, member, named, steps, sameGates⟩ := read_rows readBack
  intro planned atPlan
  refine ⟨by rwa [sameStatus], fun gate atGate listed => ?_⟩
  unfold ExecutionPlanV1.plannedSteps at atPlan
  rw [steps] at atPlan
  rw [sameGates] at atGate
  exact gates body member named gate atGate planned atPlan listed

theorem Builds.releases (builds : Builds env tools checks taskId policyPack actor d plan)
    (permits : ∀ contexts, checks.contexts = .ok contexts →
      Permits env tools { d with contexts := contexts } taskId policyPack) :
    ∀ planned ∈ plan.plannedSteps, plan.Releases planned.id := by
  obtain ⟨s, t, contexts, given, -, before, ran⟩ := builds
  obtain ⟨found, passed, outcome⟩ := build_ran ran
  rw [before] at passed outcome
  have permitted := permits contexts given found passed
  rcases outcome with ⟨row, existing, readBack, -⟩ | ⟨unbuilt, row, composed, readBack⟩
  · rw [existing] at permitted
    exact releases_of_rows readBack permitted.1 permitted.2
  · rw [unbuilt] at permitted
    obtain ⟨planned, decision, body, steps, decided, status, bodies, sameSteps, sameGates⟩ := composed.decided
    rw [composed.id] at steps
    obtain ⟨allow, ungated⟩ := permitted.2 planned decision steps decided
    refine releases_of_rows readBack ?_ fun other member named gate atGate step atStep listed => ?_
    · rw [status]
      unfold planStatus
      rw [allow]
      split <;> try split
      all_goals simp_all
    · rw [bodies, List.mem_append, List.mem_singleton] at member
      rcases member with old | rfl
      · exact permitted.1 other old (named.trans composed.id) gate atGate step atStep listed
      · rw [sameGates] at atGate
        rw [sameSteps] at atStep
        obtain ⟨requirement, asked, rfl⟩ := List.mem_map.mp atGate
        exact absurd listed (ungated requirement asked step atStep)

end Releases

theorem not_becomesLeased {d e : Db} {job : ExecutionJob}
    (kept : ∀ job ∈ e.jobs.rows, job.state = .leased → d.jobs.find job.id = some job) : ¬BecomesLeased d e job := by
  rintro ⟨found, leased, fresh⟩
  have before := kept job (find_mem found) leased
  exact fresh job before leased rfl

theorem PlanningCall.after_jobs (env : Env) (call : PlanningCall) (d : PlanningDb) (supply : Supply) :
    (call.after env d supply).shared.jobs = d.shared.jobs := by
  cases call with
  | change => rfl
  | build tools checks taskId policyPack actorId =>
    change (request (ExecutionPlanningService.build env tools checks taskId policyPack actorId) d
      supply).2.shared.jobs = _
    unfold request
    rcases (ExecutionPlanningService.build_ends env tools checks taskId policyPack actorId
      (start_clean d supply)).cases with
      ⟨error, t, ran, replanned⟩ | ⟨plan, t, ran, clean, replanned⟩
    · rw [ran]
      exact replanned.tables.2.1
    · rw [ran]
      change t.committed.shared.jobs = _
      rw [clean.1]
      exact replanned.tables.2.1

theorem DeliveryRequest.Meets.honours {env : Env} {d : PlanningDb} {supply : Supply} {call : DeliveryRequest}
    (meets : call.Meets env d supply) : call.Honours env d supply := by
  cases call with
  | plan call =>
    constructor
    · intro _ _ _ _ _ _ _ _ same
      cases same
    · intro job becomes
      refine absurd becomes (not_becomesLeased fun row member _ => ?_)
      change row ∈ (call.after env d supply).shared.jobs.rows at member
      rw [call.after_jobs env d supply] at member
      exact find_of_mem member
  | orchestrate tools parsing checks connectorProject taskId policyPack actor =>
    have ends := DeliveryRequest.orchestrate_jobs env tools parsing checks connectorProject taskId policyPack actor
      d supply
    constructor
    · intro _ _ _ _ _ _ _ plan same built job member fresh planned planned_ _
      cases same
      rcases meets with inactive | permits
      · rcases ends with unmoved | ⟨_, run, mid, _, _, _, executors, active, project, _, _⟩
        · rw [unmoved] at member
          have found : d.shared.jobs.find job.id = some job := find_of_mem member
          rw [found] at fresh
          cases fresh
        · unfold executorActive at active
          obtain ⟨executor, registered, holds⟩ := List.any_eq_true.mp active
          simp only [Bool.and_eq_true, decide_eq_true_eq] at holds
          rw [executors] at registered
          exact absurd (holds.1.trans project) (inactive executor registered holds.2)
      · exact built.releases permits planned planned_
    · intro job becomes
      refine absurd becomes (not_becomesLeased fun row member leased => ?_)
      rcases ends with unmoved | ⟨_, run, mid, last, _, jobsBefore, _, _, _, stored, jobsAfter⟩
      · rw [unmoved] at member
        exact find_of_mem member
      · rw [jobsAfter] at member
        rw [← jobsBefore]
        exact stored.leases row member leased
  | serve op =>
    constructor
    · intro _ _ _ _ _ _ _ _ same
      cases same
    · intro job becomes
      obtain ⟨executorId, seconds, executor, next, rfl, atExecutor, isNext, order⟩ :=
        BecomesLeased.acquired becomes
      have done := meets executor next atExecutor isNext
      unfold DependenciesDone at done ⊢
      have sameStep : job.runStepId = next.runStepId := congrArg (fun order => order.1.2) order
      have sameRun : job.runId = next.runId := congrArg (fun order => order.1.1) order
      rw [sameStep, sameRun]
      exact done

/-- In every run of plans, orchestrations and requests of executors in which
no orchestration queues a plan that withholds a step and no executor asks for a
job while the next one waits for a step, every request honours the plan. -/
theorem orchestration_honours_plan {env : Env} {first last : PlanningDb}
    (run : Path (DeliveryRequest.after env) (fun d supply call => call.Meets env d supply) first last) :
    Path (DeliveryRequest.after env) (fun d supply call => call.Honours env d supply) first last := by
  induction run with
  | start => exact .start
  | next before call supply meets ih => exact .next ih call supply meets.honours

section Decide
variable {env : Env} {d : PlanningDb} {supply : Supply} {executorId : String} {seconds : Option Nat}

instance (plan : ExecutionPlanV1) (stepId : String) : Decidable (plan.Releases stepId) :=
  inferInstanceAs (Decidable (_ ∧ _))

instance (step : RunStep) (planId stepId : String) : Decidable (step.CarriesOut planId stepId) :=
  inferInstanceAs (Decidable (_ ∧ _))

instance (d : PlanningDb) (job : ExecutionJob) : Decidable (DependenciesDone d job) :=
  decidable_of_iff (∀ step ∈ d.shared.steps.find job.runStepId, ∀ body ∈ d.bodies,
      ∀ planned ∈ body.steps.map PlannedStep.ofJson, step.CarriesOut body.planId planned.id →
      ∀ dependency ∈ planned.dependsOn, ∃ done ∈ d.shared.steps.rows, done.runId = job.runId ∧
        done.CarriesOut body.planId dependency ∧ done.status = .completed)
    ⟨fun all step body planned found member => all step found body member planned,
      fun done step found body member planned => done step body planned found member⟩

theorem meets_acquireLease (ready : ∀ executor ∈ d.shared.executors.find executorId, ∀ job ∈ d.shared.jobs.rows,
      (job.atLease env (supply.clock 0)).givenTo executor = true →
      (∀ other ∈ d.shared.jobs.rows, (other.atLease env (supply.clock 0)).givenTo executor = true →
        (job.atLease env (supply.clock 0)).Before (other.atLease env (supply.clock 0))) → DependenciesDone d job) :
    DeliveryRequest.Meets env d supply (.serve (.acquireLease executorId seconds)) := by
  intro executor job found next
  exact ready executor found job next.1 next.2.1 next.2.2

/-- A plan that is built withholds a step that is queued. -/
theorem not_honours_queued {tools : PlanningTools} {parsing : IntParsing} {checks : DeliveryChecks}
    {connectorProject taskId policyPack actor : String} {contexts : List ApplicationContext}
    (given : checks.contexts = .ok contexts)
    (withheld : ∃ plan ∈ (ExecutionPlanningService.build env tools checks.build taskId policyPack (some actor)
        (start { d with contexts := contexts } supply)).1.toOption,
      ∃ job ∈ (DeliveryRequest.after env (.orchestrate tools parsing checks connectorProject taskId policyPack actor) d
          supply).shared.jobs.rows,
        d.shared.jobs.find job.id = none ∧ ∃ planned ∈ plan.plannedSteps,
          job.idempotencyKey = jobKey plan.id planned.id ∧ ¬plan.Releases planned.id) :
    ¬DeliveryRequest.Honours env d supply
      (.orchestrate tools parsing checks connectorProject taskId policyPack actor) := by
  intro honours
  obtain ⟨plan, built, job, member, fresh, planned, atPlan, key, unreleased⟩ := withheld
  refine unreleased (honours.queued _ _ _ _ _ _ _ plan rfl ⟨start { d with contexts := contexts } supply, _, contexts,
    given, start_clean _ _, rfl, Prod.ext ?_ rfl⟩ job member fresh planned atPlan key)
  cases ran : (ExecutionPlanningService.build env tools checks.build taskId policyPack (some actor)
      (start { d with contexts := contexts } supply)).1 with
  | error e =>
    rw [ran] at built
    cases built
  | ok plan_ =>
    rw [ran] at built
    cases built
    rfl

end Decide

namespace Sample

def contract : TaskTexts := ⟨"t", String.ofList ['a', '.'], [String.ofList ['a', '.']], []⟩

/-- The document of a step that was built. -/
def stepDocument (step : ExecutionPlanStepV1) : Json :=
  .obj [("id", .str step.id), ("title", .str step.title), ("objective", .str step.objective),
    ("acceptance_criteria", .ofStrings step.acceptanceCriteria),
    ("context_references", .ofStrings step.contextReferences), ("required_tools", .ofStrings step.requiredTools),
    ("depends_on", .ofStrings step.dependsOn),
    ("agent", .obj [("role", .str step.agent.role), ("configuration", .obj [])])]

/-- Planning with the steps the planner builds, under this policy decision. -/
def plannerTools (decision : PolicyDecisionV1) : PlanningTools :=
  { planningTools with
    buildSteps := fun planId _ _ _ => do
      let steps ← ExecutionPlanningService.buildSteps ExecutionPlanningService.Sample.planner planId contract
        ExecutionPlanningService.Sample.noContext []
      return ⟨steps.map stepDocument, .null, .null⟩
    evaluatePlan := fun _ _ => .ok decision }

def policyDenial : PolicyDecisionV1 := ⟨false, false, false, [], .null⟩

/-- The policy asks for an approval of the step to implement. -/
def gated : PolicyDecisionV1 :=
  ⟨true, true, false, [⟨"approval", "deploy", "privileged tool", ["t:digest:implementation-a."]⟩], .null⟩

/-- The executor codes and tests. -/
def staffed : PlanningDb :=
  { deliveryStore with
    shared := { deliveryStore.shared with
      executors := .ofRows [{ executor with projectId := some "p", capabilities := ["coder", "tester"] }] } }

def orchestration (decision : PolicyDecisionV1) : DeliveryRequest :=
  .orchestrate (plannerTools decision) parsing deliveryChecks "p" "t" "default" "user"

def lease : DeliveryRequest := .serve (.acquireLease "x" none)

/-- The run step that implements is completed. -/
def completion : DeliveryRequest := .serve (.completeStep "a0" "a1" (.obj []))

def queuedPlan : PlanningDb := (orchestration allowed).after deliveryEnv staffed (supplyOf "a")
def implementing : PlanningDb := lease.after deliveryEnv queuedPlan (supplyOf "b")
def implemented : PlanningDb := completion.after deliveryEnv implementing (supplyOf "c")
def verifying : PlanningDb := lease.after deliveryEnv implemented (supplyOf "d")

end Sample

open Sample in
/-- A plan is queued, its first step is leased and completed, and then the step
that verifies it is leased. -/
theorem orchestration_honours_plan_sample :
    Path (DeliveryRequest.after deliveryEnv)
      (fun d supply call => call.Honours deliveryEnv d supply) staffed verifying ∧
      verifying.shared.jobs.rows.map ExecutionJob.state = [.leased, .leased, .queued] := by
  have orchestrated_ : (orchestration allowed).Meets deliveryEnv staffed (supplyOf "a") := by
    refine .inr fun contexts _ found _ => ⟨nofun, fun planned decision _ decided => ?_⟩
    cases decided
    exact ⟨rfl, nofun⟩
  have first : lease.Meets deliveryEnv queuedPlan (supplyOf "b") := meets_acquireLease (by decide +kernel)
  have second : lease.Meets deliveryEnv implemented (supplyOf "d") := meets_acquireLease (by decide +kernel)
  have meets : Path (DeliveryRequest.after deliveryEnv) (fun d supply call => call.Meets deliveryEnv d supply) staffed
      verifying :=
    (((Path.start.next (orchestration allowed) (supplyOf "a") orchestrated_).next lease (supplyOf "b") first).next
      completion (supplyOf "c") trivial).next lease (supplyOf "d") second
  exact ⟨orchestration_honours_plan meets, by decide +kernel⟩

open Sample in
/-- The steps of a plan that is blocked or gated are queued, and the verifying
step is leased while the step it depends on is pending. -/
theorem withheld_steps_queued :
    ¬(orchestration policyDenial).Honours deliveryEnv staffed (supplyOf "a") ∧
      ¬(orchestration gated).Honours deliveryEnv staffed (supplyOf "a") ∧
      ¬lease.Honours deliveryEnv implementing (supplyOf "c") := by
  refine ⟨not_honours_queued rfl ?_, not_honours_queued rfl ?_, fun honours => ?_⟩
  · decide +kernel
  · decide +kernel
  · obtain ⟨job, member, leased, fresh, waits⟩ :
        ∃ job ∈ (lease.after deliveryEnv implementing (supplyOf "c")).shared.jobs.rows, job.state = .leased ∧
          (∀ old ∈ implementing.shared.jobs.find job.id, old.state = .leased →
            old.leaseTokenHash ≠ job.leaseTokenHash) ∧
          ¬DependenciesDone implementing job := by decide +kernel
    exact waits (honours.leased job ⟨find_of_mem member, leased, fresh⟩)

end SacmRuntime
