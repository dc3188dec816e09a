import SacmRuntime.Runtime.RemoteWorkflow
import SacmRuntime.Runtime.ScheduledJobs

namespace SacmRuntime
open Session SnapshotService ExecutionPlaneService Table

/-- What a replay leaves behind: a new run with the captured steps under new
identifiers, an event of the new run, and nothing else but snapshots and the
link between the two runs. -/
structure Replayed (source : Run) (snapshot : RunSnapshot) (replayId : String) (d e : Db) : Prop where
  fresh : d.run? replayId = none
  replay : ∃ now, e.run? replayId = some (replayRun source replayId now)
  otherRuns : ∀ id, id ≠ replayId → e.run? id = d.run? id
  steps : ∃ added, e.steps.rows = d.steps.rows ++ added ∧
    List.Forall₂ (fun item step => ∃ id, step = replayStep source.id replayId id item)
      snapshot.content.stepState added
  events : ∃ event, e.events = d.events ++ [event] ∧ event.runId = replayId
  unchanged : e.jobs = d.jobs ∧ e.projects = d.projects ∧ e.tasks = d.tasks

section
variable {env : Env} {s t : Session Db} {runId snapshotId reason : String} {overrides : List (String × Json)}
variable {link : RunReplay}

variable {run : Run} {step : RunStep}

theorem insertStep_ok (inserted : insertStep step s = (.ok (), t)) :
    ∃ steps, s.working.steps.insert? step = some steps ∧
      t = { s with working := { s.working with steps := steps } } := by
  unfold insertStep at inserted
  rw [bind_view] at inserted
  obtain ⟨steps, mid, expected, modified⟩ := Tx.bind_ok inserted
  obtain ⟨row, rfl⟩ := Tx.expect_ok expected
  cases modified
  exact ⟨steps, row, rfl⟩

/-- The loop of `replay`: every captured step is added once, under the new run. -/
theorem replaySteps_ok {sourceId replayId : String} {items : List RunStep}
    (ran : Tx.forEach items (fun item => do
      let stepId ← uuid4
      insertStep (replayStep sourceId replayId stepId item)) s = (.ok (), t)) :
    ∃ (steps : Table RunStep) (added : List RunStep), t.working = { s.working with steps := steps } ∧
      steps.rows = s.working.steps.rows ++ added ∧
      List.Forall₂ (fun item step => ∃ id, step = replayStep sourceId replayId id item) items added := by
  induction items generalizing s with
  | nil =>
    cases ran
    exact ⟨t.working.steps, [], rfl, by simp, .nil⟩
  | cons item rest ih =>
    unfold Tx.forEach at ran
    obtain ⟨_, mid, first, continued⟩ := Tx.bind_ok ran
    rw [bind_uuid4] at first
    obtain ⟨steps, inserted, rfl⟩ := insertStep_ok first
    obtain ⟨last, added, effect, rows, copies⟩ := ih continued
    refine ⟨last, replayStep sourceId replayId (s.uuids 0) item :: added, effect, ?_, .cons ⟨_, rfl⟩ copies⟩
    rw [rows, (insert?_eq_some inserted).2, List.append_assoc]
    rfl

theorem insertRun_ok (inserted : insertRun run s = (.ok (), t)) :
    ∃ runs, s.working.runs.insert? run = some runs ∧
      t = { s with working := { s.working with runs := runs } } := by
  unfold insertRun at inserted
  rw [bind_view] at inserted
  obtain ⟨runs, mid, expected, modified⟩ := Tx.bind_ok inserted
  obtain ⟨row, rfl⟩ := Tx.expect_ok expected
  cases modified
  exact ⟨runs, row, rfl⟩

theorem requireSnapshot_ok {snapshot : RunSnapshot} (looked : requireSnapshot runId snapshotId s = (.ok snapshot, t)) :
    (s.working.snapshots.find? fun snapshot => snapshot.id == snapshotId && snapshot.content.runId == runId) =
      some snapshot ∧ t = s := by
  unfold requireSnapshot at looked
  rw [bind_view] at looked
  exact Tx.expect_ok looked

theorem appendEvent_ok {eventType actor : String} {payload : Json} {about : Option String} {event : RuntimeEvent}
    (appended : appendEvent env run eventType actor payload about s = (.ok event, t)) :
    t.working = { s.working with events := s.working.events ++ [event] } ∧ event.runId = run.id := by
  obtain ⟨_, _, ran, effect, ofRun, -, -⟩ := appendEvent_run env run eventType actor payload about s
  cases appended.symm.trans ran
  exact ⟨effect, ofRun⟩

theorem replay_ok (returned : replay env runId snapshotId reason overrides s = (.ok link, t)) :
    ∃ source snapshot, s.working.run? runId = some source ∧
      (s.working.snapshots.find? fun snapshot =>
        snapshot.id == snapshotId && snapshot.content.runId == runId) = some snapshot ∧
      link.replayRunId = s.uuids 0 ∧ Replayed source snapshot (s.uuids 0) s.working t.working ∧
      t.committed = t.working := by
  unfold replay at returned
  obtain ⟨source, s1, required, rest⟩ := Tx.bind_ok returned
  obtain ⟨found, rfl⟩ := requireRun_ok required
  obtain ⟨snapshot, s2, looked, rest2⟩ := Tx.bind_ok rest
  obtain ⟨atSnapshot, rfl⟩ := requireSnapshot_ok looked
  obtain ⟨_, s3, validated, rest3⟩ := Tx.bind_ok rest2
  have kept := validate_leaves env source snapshot s2
  rw [validated] at kept
  obtain ⟨sameStore, sameSupply⟩ := Prod.mk.inj kept
  rw [bind_uuid4, bind_utcnow] at rest3
  obtain ⟨_, s4, runInserted, rest4⟩ := Tx.bind_ok rest3
  obtain ⟨runs, newRow, rfl⟩ := insertRun_ok runInserted
  rw [bind_flush] at rest4
  obtain ⟨_, s5, copied, rest5⟩ := Tx.bind_ok rest4
  obtain ⟨steps, added, effect, rows, copies⟩ := replaySteps_ok copied
  rw [bind_modify] at rest5
  obtain ⟨event, s6, appended, rest6⟩ := Tx.bind_ok rest5
  rw [bind_flush] at rest6
  obtain ⟨_, s7, created, rest7⟩ := Tx.bind_ok rest6
  rw [bind_commit] at rest7
  cases rest7
  obtain ⟨logged, ofReplay⟩ := appendEvent_ok appended
  have kept := Leaves.after (createSnapshot_leaves (h := fun d => { d with snapshots := [] }) fun _ _ => rfl) created
  simp only [logged, effect] at kept
  obtain ⟨atProjects, atTasks, atRuns, atSteps, atEvents, -, -, -, -, -, -, -, -, atJobs, -⟩ := Db.mk.inj kept
  rw [sameSupply] at newRow logged effect ofReplay copies
  have newRuns : ∀ id, runs.find id = if id = s2.uuids 0 then some (replayRun source (s2.uuids 0) (s3.clock 0))
      else s2.working.run? id := by
    intro id
    rw [find_insert? newRow, sameStore]
    rfl
  refine ⟨source, snapshot, found, atSnapshot, congrArg (fun supply => supply 0) sameSupply, ?_, rfl⟩
  exact
    { fresh := by
        have free := (insert?_eq_some newRow).1
        rwa [sameStore] at free
      replay := ⟨s3.clock 0, by
        unfold Db.run?
        rw [atRuns, newRuns, if_pos rfl]⟩
      otherRuns := fun id other => by
        unfold Db.run?
        rw [atRuns, newRuns, if_neg other]
        rfl
      steps := ⟨added, by rw [atSteps, rows, sameStore], copies⟩
      events := ⟨event, by rw [atEvents, sameStore], ofReplay⟩
      unchanged := ⟨by rw [atJobs, sameStore], by rw [atProjects, sameStore], by rw [atTasks, sameStore]⟩ }

/-- The input of a scheduled agent step: the request, and the task made of it. -/
def agentStepInput (payload : ExternalAgentStepCreate) (runId stepId : String) : Json :=
  (((Json.obj [("external_agent_request", payload.modelDump)]).set "framework" (.str payload.framework)).set
    "agent_name" (.str payload.agentName)).set "agent_task" (payload.task runId stepId).modelDump

/-- The step an agent task is scheduled on under a key that is new to the run. -/
def agentStep (d : Db) (payload : ExternalAgentStepCreate) (runId stepId : String) : RunStep :=
  { scheduledStep d runId (payload.framework ++ ":" ++ payload.agentName)
      (.obj [("external_agent_request", payload.modelDump)]) payload.idempotencyKey stepId with
    input := agentStepInput payload runId stepId }

theorem stampStep_run {stepId : String} {f : RunStep → RunStep} (task : AgentTaskV1)
    (keeps : ∀ step, (f step).id = step.id) (sameRun : ∀ step, (f step).runId = step.runId)
    (found : s.working.getStep runId stepId = some step) :
    (do
      updateStep stepId f
      commit
      let stored ← requireStep runId stepId
      return (stored, task) : Service (RunStep × AgentTaskV1)) s =
    (.ok (f step, task),
      let d := { s.working with steps := s.working.steps.update stepId f }
      { s with committed := d, flushed := d, working := d }) := by
  unfold updateStep
  simp only [bind_modify, bind_commit]
  rw [Tx.bind_run_ok _ (requireStep_run (getStep_update keeps sameRun found))]
  rfl

namespace RemoteWorkflow

def NewStep (env : Env) (d : Db) (stepId runId key : String) : Prop :=
  env.authorizeRun runId none true = .ok () ∧ d.stepWith runId key = none ∧ d.steps.find stepId = none

/-- Runs and events are as they were, and nothing is uncommitted. -/
def Quietly (s t : Session Db) : Prop :=
  t.Clean ∧ t.working.runs = s.working.runs ∧ t.working.events = s.working.events

end RemoteWorkflow

open RemoteWorkflow

/-- An agent task has been scheduled on a step of its own. -/
structure AddsAgentStep (payload : ExternalAgentStepCreate) (runId : String) (s : Session Db)
    (scheduled : RunStep × AgentTaskV1) (t : Session Db) : Prop where
  scheduled : scheduled = (agentStep s.working payload runId (s.uuids 0), payload.task runId (s.uuids 0))
  clean : t.Clean
  uuids : t.uuids = fun n => s.uuids (n + 1)
  others : ∀ other, other ≠ runId → t.working.eventsOf other = s.working.eventsOf other
  longer : (s.working.eventsOf runId).length < (t.working.eventsOf runId).length
  stored : ∃ steps :
    Table RunStep, steps.rows = s.working.steps.rows ++ [agentStep s.working payload runId (s.uuids 0)] ∧
    Logged { s.working with steps := steps } t.working

/-- How scheduling an agent task ends. A step that has the key already must
hold the same request; under a new key a step is added. -/
theorem scheduleAgent_ends (env : Env) (payload : ExternalAgentStepCreate) (clean : s.Clean)
    (atRun : s.working.run? runId = some run) :
    Tx.Yields
      (fun e t => t.committed = s.committed ∧ ¬NewStep env s.working (s.uuids 0) runId payload.idempotencyKey ∧
        ∀ step, env.authorizeRun runId none true = .ok () →
          s.working.stepWith runId payload.idempotencyKey = some step →
          (step.input.get "external_agent_request").pyEq payload.modelDump = false →
          e = .valueError "The idempotency key is already used by a different agent task." ∧ t = s)
      (fun scheduled t =>
        NewStep env s.working (s.uuids 0) runId payload.idempotencyKey ∧ AddsAgentStep payload runId s scheduled t ∨
        ¬NewStep env s.working (s.uuids 0) runId payload.idempotencyKey ∧ Quietly s t ∧
          ∀ step, s.working.stepWith runId payload.idempotencyKey = some step →
            (step.input.get "external_agent_request").pyEq payload.modelDump = true)
      (ExternalAgentService.schedule env runId payload none true s) := by
  unfold ExternalAgentService.schedule
  cases trusted : env.authorizeRun runId none true with
  | error e =>
    refine ⟨rfl, ?_, fun _ allowed => by cases allowed⟩
    rintro ⟨allowed, -⟩
    cases trusted.symm.trans allowed
  | ok allowed =>
  refine (addStep_ends env _ _ _ atRun).bind (fun e t ⟨absent, taken, same⟩ => ⟨same, fun new => taken new.2.2, ?_⟩)
    fun step t added => ?_
  · intro step _ here
    cases absent.symm.trans here
  rcases added with ⟨unmoved, here⟩ | ⟨steps, absent, made, inserted, closed⟩
  · subst unmoved
    have old : ¬NewStep env t.working (t.uuids 0) runId payload.idempotencyKey := by
      rintro ⟨-, absent, -⟩
      cases absent.symm.trans here
    refine Tx.outcome_ite (fun _ => ⟨rfl, old, fun _ _ _ _ => ⟨rfl, rfl⟩⟩) fun same => ?_
    have equal : ∀ other, t.working.stepWith runId payload.idempotencyKey = some other →
        (other.input.get "external_agent_request").pyEq payload.modelDump = true := by
      intro other found
      cases here.symm.trans found
      simpa using same
    refine Tx.outcome_ite (fun _ => ?_) fun _ => ?_
    · obtain ⟨inTable, ofRun, -⟩ := stepWith_some here
      have found : t.working.getStep runId step.id = some step := by simp [Db.getStep, inTable, ofRun]
      have ran := stampStep_run (payload.task runId step.id)
        (f := fun row => { row with input := ((row.input.set "framework" (.str payload.framework)).set "agent_name"
          (.str payload.agentName)).set "agent_task" (payload.task runId step.id).modelDump })
        (fun _ => rfl) (fun _ => rfl) found
      exact (congrArg (Tx.Yields _ _) ran).mpr (.inr ⟨old, ⟨⟨rfl, rfl⟩, rfl, rfl⟩, equal⟩)
    · refine Tx.outcome_ofExcept (fun e => ⟨rfl, old, fun other _ found different => ?_⟩) fun task _ =>
        .inr ⟨old, ⟨clean, rfl, rfl⟩, equal⟩
      rw [equal other found] at different
      cases different
  · subst made
    let row := scheduledStep s.working runId (payload.framework ++ ":" ++ payload.agentName)
      (.obj [("external_agent_request", payload.modelDump)]) payload.idempotencyKey (s.uuids 0)
    let write (step : RunStep) : RunStep :=
      { step with input := ((step.input.set "framework" (.str payload.framework)).set "agent_name"
        (.str payload.agentName)).set "agent_task" (payload.task runId (s.uuids 0)).modelDump }
    have request : row.input.get "external_agent_request" = payload.modelDump := rfl
    have fresh : row.input.get "agent_task" = .null := rfl
    have found : t.working.getStep runId (s.uuids 0) = some row := by
      have inTable : steps.find (s.uuids 0) = some row := by
        rw [find_insert? inserted]
        exact if_pos rfl
      rw [closed.logged.getStep]
      simp [Db.getStep, inTable, row, scheduledStep]
    have rows : (t.working.steps.update (s.uuids 0) write).rows =
        s.working.steps.rows ++ [agentStep s.working payload runId (s.uuids 0)] := by
      rw [closed.logged.steps]
      exact rows_update_insert? (f := write) inserted rfl
    have after : Logged { s.working with steps := t.working.steps.update (s.uuids 0) write }
        { t.working with steps := t.working.steps.update (s.uuids 0) write } := by
      obtain ⟨events, snapshots, metrics, same⟩ := closed.logged
      exact ⟨events, snapshots, metrics, by rw [same]⟩
    rw [request, fresh, Json.pyEq_self]
    simp only [Bool.not_true, Bool.false_eq_true, if_false, if_true]
    have ran := stampStep_run (f := write) (payload.task runId (s.uuids 0)) (fun _ => rfl) (fun _ => rfl) found
    refine (congrArg (Tx.Yields _ _) ran).mpr (.inl ⟨⟨trusted, absent, (insert?_eq_some inserted).1⟩, ?_⟩)
    exact ⟨rfl, ⟨rfl, rfl⟩, closed.uuids, closed.others, closed.longer, _, rows, after⟩

end

namespace RemoteWorkflow

/-- The configuration and the rows the backend needs to schedule a run. -/
structure Schedulable (config : RemoteConfig) (d : Db) (run : Run) : Prop where
  task : ∃ task, d.tasks.find run.taskId = some task ∧ 1 ≤ task.description.length
  project : ∀ projectId, run.projectId = some projectId → (d.projects.find projectId).isSome
  tokenBudget : ∃ tokens, config.tokenBudget = .ok tokens ∧ 0 < tokens
  timeout : ∃ seconds, config.timeoutSeconds = .ok seconds ∧ 0 < seconds
  labels : ∃ labels, config.requiredLabels = .ok labels

section
variable {env : Env} {config : RemoteConfig} {d : Db} {supply : Supply} {runId : String} {run : Run}

theorem remoteStep_valid {coordinate : Option String} {task : Task} {tokens seconds : Nat}
    (described : 1 ≤ task.description.length) (budget : 0 < tokens) (timeout : 0 < seconds)
    (short : run.id.length ≤ 239) : (remoteStep coordinate run task tokens seconds).valid = true := by
  have named : (remoteKey run.id).length = run.id.length + 16 := by
    unfold remoteKey
    rw [String.length_append]
    rfl
  have framework : decide (1 ≤ "sacm-remote".length ∧ "sacm-remote".length ≤ 100) = true := by decide
  have letters : "sacm-remote".toList.all frameworkChar = true := by decide
  have agent : decide (1 ≤ "workflow-executor".length ∧ "workflow-executor".length ≤ 255) = true := by decide
  unfold ExternalAgentStepCreate.valid remoteStep
  simp only [framework, letters, agent, named, Bool.true_and, Bool.and_eq_true, decide_eq_true_eq]
  omega

theorem remoteStep_mentions (coordinate : Option String) (run : Run) (task : Task) (tokens seconds : Nat) :
    (remoteStep coordinate run task tokens seconds).modelDump.Mentions run.id :=
  Json.mentions_obj (k := "idempotency_key") (.tail _ (.tail _ (.head _))) (Json.mentions_str_append run.id _)

/-- What `execute` stores for a run it schedules for the first time. -/
structure Scheduled (d : Db) (runId stepId : String) (answer : Json) (e : Db) : Prop where
  step : ∃ step, step.id = stepId ∧ step.runId = runId ∧ e.steps.rows = d.steps.rows ++ [step]
  job : ∃ job, d.jobs.find job.id = none ∧ job.runId = runId ∧ job.runStepId = stepId ∧
    job.payloadContract.get "run_id" = .str runId ∧
    job.payloadContract.get "step_id" = .str stepId ∧ answer.get "job_id" = .str job.id ∧
    e.jobs.rows = d.jobs.rows ++ [job]
  runs : e.runs = d.runs
  otherEvents : ∀ other, other ≠ runId → e.eventsOf other = d.eventsOf other

/-- The step of a planned run is asked for under the key of its remote step. -/
theorem chooseStep_planned (env : Env) (supply : Supply) {task : Task} {tokens seconds : Nat}
    (unrecovered : run.recoveryState = none) (atTask : d.tasks.find run.taskId = some task)
    (budget : config.tokenBudget = .ok tokens)
    (timeout : config.timeoutSeconds = .ok seconds)
    (valid : (remoteStep (repositoryCoordinate config d run) run task tokens seconds).valid = true) :
    chooseStep env config run (start d supply) =
      (ExternalAgentService.schedule env run.id (remoteStep (repositoryCoordinate config d run) run task tokens seconds)
        none true >>= fun scheduled => pure (scheduled.1, scheduled.2, remoteKey run.id)) (start d supply) := by
  have unescalated : ¬(Json.obj []).get "status" = .str "ESCALATED" := by decide
  have fresh : recoveryStep d run.id (.obj []) = none := rfl
  unfold chooseStep
  simp only [bind_view, unrecovered, Option.getD_none, start_working, if_neg unescalated, fresh, atTask,
    Tx.bind_expect_some, budget, timeout, Tx.ofExcept, Tx.bind_pure_run]
  change (if (!(remoteStep _ run task tokens seconds).valid) = true then _ else _ :
    Service (RunStep × AgentTaskV1 × String)) (start d supply) = _
  rw [valid]
  rfl

/-- A step that asks for the same as the remote step of a run mentions the run. -/
theorem remoteStep_unequal {coordinate : Option String} {task : Task} {tokens seconds : Nat} {step : RunStep}
    (unseen : ¬step.input.Mentions run.id) :
    (step.input.get "external_agent_request").pyEq (remoteStep coordinate run task tokens seconds).modelDump =
      false := by
  by_contra same
  have stored : (step.input.get "external_agent_request").Mentions run.id :=
    (remoteStep_mentions _ run task tokens seconds).of_pyEq (Bool.of_not_eq_false same)
  have present : step.input.get "external_agent_request" ≠ .null := by
    intro absent
    rw [absent] at same
    exact same (Json.pyEq_null_obj _)
  exact unseen (Json.mentions_of_get present stored)

theorem exists_jobScope (atRun : d.run? runId = some run)
    (project : ∀ projectId, run.projectId = some projectId → (d.projects.find projectId).isSome) :
    ∃ scopeKey, d.jobScope env runId none = some scopeKey := by
  unfold Db.jobScope
  rw [atRun]
  cases named : run.projectId with
  | none =>
    simp only [Option.bind_some, named]
    exact ⟨_, rfl⟩
  | some projectId =>
    obtain ⟨row, found⟩ := Option.isSome_iff_exists.mp (project projectId named)
    simp only [Option.bind_some, named, found]
    exact ⟨_, rfl⟩

/-- A planned run whose own steps do not mention it is scheduled, unless one
of them has the key of the remote step. -/
theorem execute_planned (config : RemoteConfig) (supply : Supply)
    (trusted : env.authorizeRun runId none true = .ok ()) (atRun : d.run? runId = some run)
    (planning : run.status = .planning) (kept : run.cancellationRequested = false)
    (unrecovered : run.recoveryState = none) (schedulable : Schedulable config d run) (short : runId.length ≤ 239)
    (unseen : ∀ step ∈ d.steps.rows, step.runId = runId → ¬step.input.Mentions runId)
    (unused : ∀ job ∈ d.jobs.rows, job.idempotencyKey ≠ remoteKey runId)
    (free : ∀ n, d.steps.find (supply.uuids n) = none ∧ d.jobs.find (supply.uuids n) = none) :
    Tx.Yields
      (fun e t => d.stepWith runId (remoteKey runId) ≠ none ∧
        e = .valueError "The idempotency key is already used by a different agent task." ∧ t = start d supply)
      (fun answer t => d.stepWith runId (remoteKey runId) = none ∧ t.Clean ∧
        Scheduled d runId (supply.uuids 0) answer t.working)
      (execute env config runId (start d supply)) := by
  obtain ⟨task, atTask, described⟩ := schedulable.task
  obtain ⟨tokens, budget, positive⟩ := schedulable.tokenBudget
  obtain ⟨seconds, timeout, positiveTime⟩ := schedulable.timeout
  obtain ⟨labels, atLabels⟩ := schedulable.labels
  obtain rfl : run.id = runId := find_key atRun
  let payload := remoteStep (repositoryCoordinate config d run) run task tokens seconds
  have valid : payload.valid = true := remoteStep_valid described positive positiveTime short
  have started : startRun env run.id (start d supply) = (.ok run, start d supply) := by
    unfold startRun
    rw [Tx.bind_run_ok _ (requireRun_run atRun)]
    simp [planning, kept]
  have chosen := chooseStep_planned env supply unrecovered atTask budget timeout valid
  unfold execute
  rw [Tx.bind_run_ok _ started, Tx.bind_run, chosen, ← Tx.bind_run, atLabels, Tx.bind_assoc_run]
  have unequal : ∀ step, d.stepWith run.id (remoteKey run.id) = some step →
      (step.input.get "external_agent_request").pyEq payload.modelDump = false := by
    intro step here
    obtain ⟨inTable, ofRun, -⟩ := stepWith_some here
    exact remoteStep_unequal (unseen step (find_mem inTable) ofRun)
  have keyed : ¬NewStep env d (supply.uuids 0) run.id (remoteKey run.id) →
      ∃ step, d.stepWith run.id (remoteKey run.id) = some step :=
    fun old => Option.ne_none_iff_exists'.mp fun absent => old ⟨trusted, absent, (free 0).1⟩
  refine (scheduleAgent_ends env payload (start_clean d supply) atRun).bind (fun e t refused => ?_)
    fun scheduled t how => ?_
  · obtain ⟨-, old, exact_⟩ := refused
    obtain ⟨step, here⟩ := keyed old
    exact ⟨Option.ne_none_iff_exists'.mpr ⟨step, here⟩, exact_ step trusted here (unequal step here)⟩
  rcases how with ⟨⟨-, absent, -⟩, added⟩ | ⟨old, -, equal⟩
  case inr =>
    obtain ⟨step, here⟩ := keyed old
    cases (unequal step here).symm.trans (equal step here)
  obtain ⟨steps, rows, logged⟩ := added.stored
  let step := agentStep d payload run.id (supply.uuids 0)
  have atRunAfter : t.working.run? run.id = some run := (logged.run? run.id).trans atRun
  have atStep : t.working.getStep run.id (supply.uuids 0) = some step := by
    have inTable : steps.find (supply.uuids 0) = some step :=
      find_eq_some_iff.mpr ⟨by rw [rows]; exact List.mem_append_right _ (List.mem_singleton_self step), rfl⟩
    rw [logged.getStep]
    simp [Db.getStep, inTable, step, agentStep, scheduledStep]
  have projects : t.working.projects = d.projects := logged.projects
  have jobs : t.working.jobs = d.jobs := logged.jobs
  have unqueued : ∀ scopeKey, t.working.jobWith scopeKey (remoteKey run.id) = none := by
    intro scopeKey
    unfold Db.jobWith
    rw [jobs, List.find?_eq_none]
    intro job member
    simp [unused job member]
  obtain ⟨scopeKey, atScope⟩ : ∃ scopeKey, t.working.jobScope env run.id none = some scopeKey :=
    exists_jobScope atRunAfter (by rw [projects]; exact schedulable.project)
  obtain rfl := added.scheduled
  refine (schedule_ends env run.id _ _ _ _ 3 none true (seesJobs_ofClean env _ added.clean)).bind
    (fun e u refused => ?_) ?_
  · obtain ⟨-, blocked⟩ := refused
    refine absurd ⟨Option.isSome_iff_exists.mpr ⟨step, atStep⟩, ⟨rfl, rfl⟩, scopeKey, atScope, fun job here => ?_,
      fun _ => ?_⟩ blocked
    · cases (unqueued scopeKey).symm.trans here
    · rw [jobs, added.uuids]
      exact (free 1).2
  rintro job u ⟨_, scope, -, ⟨-, here, -⟩ | ⟨table, queues⟩⟩
  · cases (unqueued _).symm.trans here
  have contract : job.payloadContract = (payload.task run.id (supply.uuids 0)).modelDump :=
    congrArg (fun order => order.2.2.1) queues.order
  refine ⟨absent, queues.clean rfl, ?_⟩
  exact
    { step := ⟨step, rfl, rfl, by
        rw [queues.logged.steps]
        exact (congrArg Table.rows logged.steps).trans rows⟩
      job := ⟨job, by rw [queues.named, added.uuids]; exact (free 1).2,
        congrArg (fun order => order.1.1) queues.order, congrArg (fun order => order.1.2) queues.order,
        by rw [contract]; rfl, by rw [contract]; rfl, rfl, by
        rw [queues.logged.jobs, ← jobs]
        exact (insert?_eq_some queues.inserted).2⟩
      runs := queues.logged.runs.trans logged.runs
      otherEvents := fun other different => (queues.others other different).trans (added.others other different) }

end

end RemoteWorkflow

open RemoteWorkflow

/-- A run, its steps, its jobs and its events are the same in both stores. -/
structure SameRun (runId : String) (d e : Db) : Prop where
  run : e.run? runId = d.run? runId
  steps : e.listSteps runId = d.listSteps runId
  jobs : (e.jobs.rows.filter fun job => job.runId == runId) = d.jobs.rows.filter fun job => job.runId == runId
  events : e.eventsOf runId = d.eventsOf runId

structure Unseen (d : Db) (id : String) : Prop where
  steps : ∀ step ∈ d.steps.rows, step.runId ≠ id
  jobs : ∀ job ∈ d.jobs.rows, job.idempotencyKey ≠ remoteKey id
  captured : ∀ snapshot ∈ d.snapshots, ∀ item ∈ snapshot.content.stepState, ¬item.input.Mentions id

/-- The remote backend schedules the replay: a new job whose task carries the
replay and one of its steps, while the source is as it was before the replay. -/
def ReplayExecutes (env : Env) (config : RemoteConfig) (sourceId replayId : String) (before d : Db) (supply : Supply) :
    Prop :=
  ∃ answer e, request (execute env config replayId) d supply = (.ok answer, e) ∧
    (∃ job ∈ e.jobs.rows, d.jobs.find job.id = none ∧ answer.get "job_id" = .str job.id ∧ job.runId = replayId ∧
      job.payloadContract.get "run_id" = .str replayId ∧ job.payloadContract.get "step_id" = .str job.runStepId ∧
      ∃ step ∈ e.steps.rows, step.id = job.runStepId ∧ step.runId = replayId) ∧
    SameRun sourceId before e

section
variable {env : Env} {config : RemoteConfig} {d e : Db} {source : Run} {snapshot : RunSnapshot} {replayId : String}

variable {runId : String}

theorem filter_append_other {α : Type} {runOf : α → String} {rows added : List α}
    (other : ∀ row ∈ added, runOf row ≠ runId) :
    ((rows ++ added).filter fun row => runOf row == runId) = rows.filter fun row => runOf row == runId := by
  have none : (added.filter fun row => runOf row == runId) = [] := by
    simpa using other
  rw [List.filter_append, none, List.append_nil]

theorem exists_related {α β : Type} {R : α → β → Prop} {items : List α} {others : List β}
    (related : List.Forall₂ R items others) : ∀ item ∈ items, ∃ other ∈ others, R item other := by
  induction related with
  | nil => simp
  | cons here _ ih =>
    intro item member
    rcases List.mem_cons.mp member with rfl | later
    · exact ⟨_, by simp, here⟩
    · obtain ⟨other, among, same⟩ := ih item later
      exact ⟨other, by simp [among], same⟩

theorem SameRun.of_replayed (replayed : Replayed source snapshot replayId d e) (different : runId ≠ replayId) :
    SameRun runId d e := by
  obtain ⟨added, rows, copies⟩ := replayed.steps
  obtain ⟨event, logged, ofReplay⟩ := replayed.events
  have foreign : ∀ step ∈ added, step.runId ≠ runId := by
    intro step member
    obtain ⟨item, -, id, rfl⟩ := exists_related copies.flip step member
    exact different.symm
  exact
    { run := replayed.otherRuns runId different
      steps := by
        unfold Db.listSteps
        rw [rows, filter_append_other foreign]
      jobs := by rw [replayed.unchanged.1]
      events := by
        unfold Db.eventsOf
        rw [logged]
        exact filter_append_other (by simp [ofReplay, different.symm]) }

theorem SameRun.of_scheduled {stepId : String} {answer : Json} (scheduled : Scheduled d replayId stepId answer e)
    (different : runId ≠ replayId) : SameRun runId d e := by
  obtain ⟨step, -, ofReplay, steps⟩ := scheduled.step
  obtain ⟨job, -, jobOfReplay, -, -, -, -, jobs⟩ := scheduled.job
  exact
    { run := by
        unfold Db.run?
        rw [scheduled.runs]
      steps := by
        unfold Db.listSteps
        rw [steps, filter_append_other (by simp [ofReplay, different.symm])]
      jobs := by rw [jobs, filter_append_other (by simp [jobOfReplay, different.symm])]
      events := scheduled.otherEvents runId different }

theorem SameRun.trans {f : Db} (first : SameRun runId d e) (second : SameRun runId e f) :
    SameRun runId d f :=
  ⟨second.run.trans first.run, second.steps.trans first.steps, second.jobs.trans first.jobs,
    second.events.trans first.events⟩

/-- The replay has a step under the key of its remote step exactly when a
captured key becomes that key. -/
theorem Replayed.stepWith_iff (replayed : Replayed source snapshot replayId d e) (unseen : Unseen d replayId) :
    e.stepWith replayId (remoteKey replayId) ≠ none ↔ ∃ item ∈ snapshot.content.stepState,
      replayIdempotencyKey item.idempotencyKey source.id replayId = remoteKey replayId := by
  obtain ⟨added, rows, copies⟩ := replayed.steps
  unfold Db.stepWith
  rw [Ne, List.find?_eq_none, rows]
  constructor
  · intro present
    push Not at present
    obtain ⟨step, member, here⟩ := present
    rw [Bool.and_eq_true, beq_iff_eq, beq_iff_eq] at here
    rcases List.mem_append.mp member with old | new
    · exact absurd here.1 (unseen.steps step old)
    · obtain ⟨item, captured, id, rfl⟩ := exists_related copies.flip step new
      exact ⟨item, captured, here.2⟩
  · rintro ⟨item, captured, becomes⟩ absent
    obtain ⟨step, new, id, rfl⟩ := exists_related copies item captured
    exact absent _ (List.mem_append_right _ new) (by simp [replayStep, becomes])

/-- After a replay has returned, the remote backend executes the new run
exactly when no captured step's key becomes the key of the remote step. -/
theorem replayed_run_executes_iff {runId snapshotId reason : String} {overrides : List (String × Json)}
    {supply later : Supply} {link : RunReplay} (trusted : ∀ id, env.authorizeRun id none true = .ok ())
    (replayed : request (SnapshotService.replay env runId snapshotId reason overrides) d supply = (.ok link, e))
    (schedulable : ∀ source, d.run? runId = some source → RemoteWorkflow.Schedulable config d source)
    (short : (supply.uuids 0).length ≤ 239) (unseen : Unseen d (supply.uuids 0))
    (free : ∀ n, e.steps.find (later.uuids n) = none ∧ e.jobs.find (later.uuids n) = none) :
    ReplayExecutes env config runId link.replayRunId d e later ↔
      ∀ snapshot, (d.snapshots.find? fun snapshot =>
          snapshot.id == snapshotId && snapshot.content.runId == runId) = some snapshot →
        ∀ item ∈ snapshot.content.stepState,
          replayIdempotencyKey item.idempotencyKey runId link.replayRunId ≠ remoteKey link.replayRunId := by
  obtain ⟨t, returned, rfl⟩ : ∃ t, SnapshotService.replay env runId snapshotId reason overrides (start d supply) =
      (.ok link, t) ∧ t.committed = e := by
    obtain ⟨result, same⟩ := Prod.mk.inj replayed
    exact ⟨_, Prod.ext result rfl, same⟩
  obtain ⟨source, snapshot, found, atSnapshot, named, effect, clean⟩ := replay_ok returned
  obtain rfl : source.id = runId := Table.find_key found
  have atSource : d.run? source.id = some source := found
  rw [clean] at free ⊢
  change link.replayRunId = supply.uuids 0 at named
  change Replayed source snapshot (supply.uuids 0) d t.working at effect
  rw [named]
  have different : source.id ≠ supply.uuids 0 := by
    intro same
    have fresh : d.run? (supply.uuids 0) = none := effect.fresh
    rw [← same, atSource] at fresh
    cases fresh
  have untouched : SameRun source.id d t.working := .of_replayed effect different
  obtain ⟨now, atReplay⟩ := effect.replay
  obtain ⟨sameJobs, sameProjects, sameTasks⟩ := effect.unchanged
  have schedules : RemoteWorkflow.Schedulable config t.working (replayRun source (supply.uuids 0) now) := by
    have before := schedulable source atSource
    exact
      { before with
        task := by
          rw [sameTasks]
          exact before.task
        project := by
          rw [sameProjects]
          exact before.project }
  have ownInputs : ∀ step ∈ t.working.steps.rows, step.runId = supply.uuids 0 →
      ¬step.input.Mentions (supply.uuids 0) := by
    intro step member ofReplay
    obtain ⟨added, rows, copies⟩ := effect.steps
    rw [rows] at member
    rcases List.mem_append.mp member with old | new
    · exact absurd ofReplay (unseen.steps step old)
    · obtain ⟨item, captured, id, rfl⟩ := exists_related copies.flip step new
      exact unseen.captured snapshot (List.mem_of_find?_eq_some atSnapshot) item captured
  have condition : (∀ snapshot, (d.snapshots.find? fun snapshot =>
        snapshot.id == snapshotId && snapshot.content.runId == source.id) = some snapshot →
      ∀ item ∈ snapshot.content.stepState,
        replayIdempotencyKey item.idempotencyKey source.id (supply.uuids 0) ≠ remoteKey (supply.uuids 0)) ↔
      t.working.stepWith (supply.uuids 0) (remoteKey (supply.uuids 0)) = none := by
    rw [← not_iff_not, ← Ne, effect.stepWith_iff unseen]
    push Not
    constructor
    · rintro ⟨other, atOther, item, captured, becomes⟩
      cases Option.some.inj (atOther.symm.trans atSnapshot)
      exact ⟨item, captured, becomes⟩
    · rintro ⟨item, captured, becomes⟩
      exact ⟨snapshot, atSnapshot, item, captured, becomes⟩
  rw [condition]
  rcases (execute_planned config later (trusted _) atReplay rfl rfl rfl schedules short ownInputs
    (by rw [sameJobs]; exact unseen.jobs) free).cases with
    ⟨e, u, raised, taken, -, -⟩ | ⟨answer, u, ran, absent, cleanAfter, scheduled⟩
  · refine iff_of_false ?_ taken
    rintro ⟨answer, f, ran, -⟩
    have result := congrArg Prod.fst ran
    unfold request at result
    rw [raised] at result
    cases result
  · refine iff_of_true ?_ absent
    have ended : request (execute env config (supply.uuids 0)) t.working later = (.ok answer, u.working) := by
      unfold request
      rw [ran, cleanAfter.1]
    obtain ⟨step, named, ofReplay, stepRows⟩ := scheduled.step
    obtain ⟨job, new, jobOfReplay, jobStep, runNamed, stepNamed, answered, jobRows⟩ := scheduled.job
    refine ⟨answer, u.working, ended, ⟨job, by simp [jobRows], new, answered, jobOfReplay, runNamed,
      by rw [jobStep]; exact stepNamed, step, by simp [stepRows], named.trans jobStep.symm, ofReplay⟩,
      untouched.trans (.of_scheduled scheduled different)⟩

end

namespace Sample

def remoteEnv : Env := { env with snapshotsAvailable := true, sha256 := fun _ => "h" }

def remoteConfig : RemoteConfig := ⟨fun _ => none, none, .ok 12000, .ok 1800, ["agent-task/v1"], .ok []⟩

def planned : Db :=
  { tasks := .ofRows [{ task with description := "Update the parser." }],
    runs := .ofRows [newRun "source" task .planning 0] }

def checkpointed : Db :=
  Operation.after remoteEnv (.transition "source" .planning "Planned" "system" (.obj []) none) planned supply

def scheduling : Except Error Json × Db :=
  request (execute remoteEnv remoteConfig "source") planned (supplyOf "first-")

def replaying (d : Db) : Except Error RunReplay × Db :=
  request (SnapshotService.replay remoteEnv "source" "https://sacm.dev/snapshots/source/h" "again" []) d
    (supplyOf "replay-")

end Sample

open Sample in
/-- The replay of a run that had no step yet is executed. -/
theorem replayed_run_executes_sample :
    ∃ link e, replaying checkpointed = (.ok link, e) ∧
      ReplayExecutes remoteEnv remoteConfig "source" link.replayRunId checkpointed e (supplyOf "later-") := by
  have ran : (replaying checkpointed).1.toOption.isSome = true ∧
      (replaying checkpointed).2.steps.rows.isEmpty = true ∧ (replaying checkpointed).2.jobs.rows.isEmpty = true := by
    decide +kernel
  have before : checkpointed.steps.rows.isEmpty = true ∧ checkpointed.jobs.rows.isEmpty = true ∧
      (checkpointed.snapshots.all fun snapshot => snapshot.content.stepState.isEmpty) = true ∧
      (checkpointed.run? "source").map Run.projectId = some none ∧
      (checkpointed.run? "source").map Run.taskId = some "t" ∧
      (checkpointed.tasks.find "t").map Task.description = some "Update the parser." := by
    decide +kernel
  obtain ⟨returned, noSteps, noJobs⟩ := ran
  obtain ⟨noStepsBefore, noJobsBefore, noCaptured, noProject, ofTask, described⟩ := before
  rcases result : replaying checkpointed with ⟨outcome, e⟩
  rw [result] at returned noSteps noJobs
  cases outcome with
  | error error => cases returned
  | ok link =>
    have uncaptured : ∀ snapshot ∈ checkpointed.snapshots, snapshot.content.stepState = [] := by
      simpa [List.isEmpty_iff] using noCaptured
    have schedulable : ∀ source, checkpointed.run? "source" = some source →
        RemoteWorkflow.Schedulable remoteConfig checkpointed source := by
      intro source found
      rw [found] at noProject ofTask
      obtain ⟨task, atTask, text⟩ := Option.map_eq_some_iff.mp described
      have unowned : source.projectId = none := Option.some.inj noProject
      have named : source.taskId = "t" := Option.some.inj ofTask
      exact
        { task := ⟨task, by rw [named]; exact atTask, by rw [text]; decide⟩
          project := fun projectId owned => by
            rw [unowned] at owned
            cases owned
          tokenBudget := ⟨12000, rfl, by decide⟩
          timeout := ⟨1800, rfl, by decide⟩
          labels := ⟨[], rfl⟩ }
    have unseen : Unseen checkpointed "replay-0" :=
      { steps := by simp [List.isEmpty_iff.mp noStepsBefore]
        jobs := by simp [List.isEmpty_iff.mp noJobsBefore]
        captured := fun snapshot member => by simp [uncaptured snapshot member] }
    have free : ∀ n, e.steps.find ((supplyOf "later-").uuids n) = none ∧
        e.jobs.find ((supplyOf "later-").uuids n) = none := by
      intro n
      unfold Table.find
      rw [List.isEmpty_iff.mp noSteps, List.isEmpty_iff.mp noJobs]
      exact ⟨rfl, rfl⟩
    refine ⟨link, e, rfl, (replayed_run_executes_iff (fun _ => rfl) result schedulable (by decide) unseen free).mpr ?_⟩
    intro snapshot found item member
    rw [uncaptured snapshot (List.mem_of_find?_eq_some found)] at member
    cases member

open Sample in
/-- A snapshot taken after the remote backend scheduled the source holds the
source's own request, which the replay's request is not. -/
theorem replayed_run_rejected :
    scheduling.1.toOption.isSome = true ∧
    ∃ link e, replaying scheduling.2 = (.ok link, e) ∧
      ¬ReplayExecutes remoteEnv remoteConfig "source" link.replayRunId scheduling.2 e (supplyOf "later-") := by
  have ran : scheduling.1.toOption.isSome = true ∧
      (replaying scheduling.2).1.toOption.map RunReplay.replayRunId = some "replay-0" ∧
      (request (execute remoteEnv remoteConfig "replay-0") (replaying scheduling.2).2
        (supplyOf "later-")).1.toOption.isSome = false := by
    decide +kernel
  obtain ⟨scheduled, replayed, rejected⟩ := ran
  refine ⟨scheduled, ?_⟩
  rcases result : replaying scheduling.2 with ⟨outcome, e⟩
  rw [result] at replayed rejected
  cases outcome with
  | error error => cases replayed
  | ok link =>
    refine ⟨link, e, rfl, ?_⟩
    rintro ⟨answer, f, executed, -⟩
    have named : link.replayRunId = "replay-0" := Option.some.inj replayed
    rw [named] at executed
    rw [executed] at rejected
    cases rejected

end SacmRuntime
