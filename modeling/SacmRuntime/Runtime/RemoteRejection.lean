import SacmRuntime.Runtime.ReplayedRun

namespace SacmRuntime
open Session ExecutionPlaneService Tx RunService

namespace RemoteWorkflow

/-- The call goes on to add the remote step: nothing before that raises, and
the run has no step under the remote key yet. -/
def AddsStep (env : Env) (config : RemoteConfig) (d : Db) (stepId : String) (run : Run) : Prop :=
  (run.recoveryState.getD (.obj [])).get "status" ≠ .str "ESCALATED" ∧
  recoveryStep d run.id (run.recoveryState.getD (.obj [])) = none ∧
  (∃ task tokens seconds, d.tasks.find run.taskId = some task ∧ config.tokenBudget = .ok tokens ∧
    config.timeoutSeconds = .ok seconds ∧
    (remoteStep (repositoryCoordinate config d run) run task tokens seconds).valid = true) ∧
  env.authorizeRun run.id none true = .ok () ∧ d.stepWith run.id (remoteKey run.id) = none ∧
  d.steps.find stepId = none

/-- An event of the run has been committed; the runs are as they were. -/
def Loudly (runId : String) (s t : Session Db) : Prop :=
  t.Clean ∧ t.working.runs = s.working.runs ∧
    (s.working.eventsOf runId).length < (t.working.eventsOf runId).length

section
variable {env : Env} {config : RemoteConfig} {s t : Session Db} {run : Run}

variable {e : Error} {runId stepId : String}

/-- The part of `execute` that chooses the step commits an event of the run
exactly when it adds a step. -/
theorem chooseStep_ends (config : RemoteConfig) (clean : s.Clean) (atRun : s.working.run? run.id = some run) :
    Yields (fun _ t => ¬AddsStep env config s.working (s.uuids 0) run ∧ t.committed = s.committed)
      (fun _ t => AddsStep env config s.working (s.uuids 0) run ∧ Loudly run.id s t ∨
        ¬AddsStep env config s.working (s.uuids 0) run ∧ Quietly s t)
      (chooseStep env config run s) := by
  unfold chooseStep
  simp only [bind_view]
  refine outcome_ite (fun escalated => ⟨fun adds => adds.1 escalated, rfl⟩) fun open_ => ?_
  cases recovering : recoveryStep s.working run.id (run.recoveryState.getD (.obj [])) with
  | some step =>
    have old : ¬AddsStep env config s.working (s.uuids 0) run := by
      rintro ⟨-, none_, -⟩
      cases recovering.symm.trans none_
    exact outcome_ofExcept (fun e => ⟨old, rfl⟩) fun task _ => .inr ⟨old, clean, rfl, rfl⟩
  | none =>
    simp only [bind_view]
    refine outcome_expect_cases (fun atTask => ⟨?_, rfl⟩) fun task atTask => ?_
    · rintro ⟨-, -, ⟨other, -, -, found, -⟩, -⟩
      cases atTask.symm.trans found
    refine outcome_ofExcept_cases (fun e budget => ⟨?_, rfl⟩) fun tokens budget => ?_
    · rintro ⟨-, -, ⟨-, other, -, -, found, -⟩, -⟩
      cases budget.symm.trans found
    refine outcome_ofExcept_cases (fun e timeout => ⟨?_, rfl⟩) fun seconds timeout => ?_
    · rintro ⟨-, -, ⟨-, -, other, -, -, found, -⟩, -⟩
      cases timeout.symm.trans found
    let payload := remoteStep (repositoryCoordinate config s.working run) run task tokens seconds
    refine outcome_ite (fun invalid => ⟨?_, rfl⟩) fun valid => ?_
    · rintro ⟨-, -, ⟨other, otherTokens, otherSeconds, atOther, otherBudget, otherTimeout, valid⟩, -⟩
      cases atTask.symm.trans atOther
      cases budget.symm.trans otherBudget
      cases timeout.symm.trans otherTimeout
      simp [valid] at invalid
    rw [Bool.not_eq_true, Bool.not_eq_false'] at valid
    have adds_iff : AddsStep env config s.working (s.uuids 0) run ↔
        NewStep env s.working (s.uuids 0) run.id payload.idempotencyKey := by
      constructor
      · exact fun adds => adds.2.2.2
      · exact fun new => ⟨open_, recovering, ⟨task, tokens, seconds, atTask, budget, timeout, valid⟩, new⟩
    refine (scheduleAgent_ends env payload clean atRun).bind (fun e t ⟨same, old, _⟩ => ⟨old ∘ adds_iff.mp, same⟩) ?_
    rintro scheduled t (⟨new, added⟩ | ⟨old, quiet, -⟩)
    · obtain ⟨steps, -, logged⟩ := added.stored
      exact .inl ⟨adds_iff.mpr new, added.clean, logged.runs, added.longer⟩
    · exact .inr ⟨old ∘ adds_iff.mp, quiet⟩

theorem scheduleJob_raised {key : String} {task : AgentTaskV1} {capabilities : List String}
    {labels : List (String × String)} {maxAttempts : Nat} {deployment : Option String} (clean : s.Clean)
    (raised : schedule env runId stepId task key capabilities labels maxAttempts deployment true s = (.error e, t))
    : t.committed = s.committed := by
  have ends := schedule_ends env runId stepId task capabilities labels maxAttempts deployment true
    (seesJobs_ofClean env key clean)
  rw [raised] at ends
  exact ends.1

/-- The run's status, its completion time and its events are the same in both stores. -/
structure Untouched (runId : String) (d e : Db) : Prop where
  row : (e.run? runId).map (fun run => (run.status, run.completedAt)) =
    (d.run? runId).map (fun run => (run.status, run.completedAt))
  events : e.eventsOf runId = d.eventsOf runId

/-- The run passes the first guards of `execute`, and a write to it is
committed before the last check that may raise. -/
def CommitsEarly (env : Env) (config : RemoteConfig) (d : Db) (stepId runId : String) : Prop :=
  ∃ run, d.run? runId = some run ∧ run.cancellationRequested = false ∧
    (run.status = .created ∨ run.status = .failed ∨
      ((run.status = .planning ∨ run.status = .fixing ∨ run.status = .implementing) ∧
        AddsStep env config d stepId run))

/-- What `execute` does with the step it chose. -/
def submitJob (env : Env) (config : RemoteConfig) (runId : String) (chosen : RunStep × AgentTaskV1 × String) :
    Service Json := do
  let labels ← Tx.ofExcept config.requiredLabels
  let job ← ExecutionPlaneService.schedule env runId chosen.1.id chosen.2.1 chosen.2.2
    config.requiredCapabilities labels 3 none
  return .obj [("run_id", .str runId), ("status", .str "SCHEDULED"), ("backend", .str "remote"),
    ("job_id", .str job.id), ("job_state", .str job.state.name), ("payload_hash", .str job.payloadHash)]

theorem execute_eq (runId : String) : execute env config runId =
    startRun env runId >>= fun run => chooseStep env config run >>= submitJob env config runId := rfl

theorem submitJob_raised {chosen : RunStep × AgentTaskV1 × String} (clean : s.Clean) :
    Yields (fun _ t => t.committed = s.committed) (fun _ _ => True) (submitJob env config runId chosen s) := by
  unfold submitJob
  refine outcome_ofExcept (fun _ => rfl) fun labels _ => ?_
  exact outcome_bind (fun e u stops => scheduleJob_raised clean stops) fun job u _ => trivial

/-- What a raise after the start of the run leaves: the runs as they are
there, and the run's events as well unless a step was added. -/
theorem raised_after_start (clean : s.Clean) (atRun : s.working.run? run.id = some run)
    (raised : (chooseStep env config run >>= submitJob env config runId) s = (.error e, t)) :
    t.committed.runs = s.working.runs ∧
      (t.committed.eventsOf run.id = s.working.eventsOf run.id ↔ ¬AddsStep env config s.working (s.uuids 0) run) := by
  have ends : Yields (fun _ t => t.committed.runs = s.working.runs ∧
      (t.committed.eventsOf run.id = s.working.eventsOf run.id ↔ ¬AddsStep env config s.working (s.uuids 0) run))
      (fun _ _ => True) ((chooseStep env config run >>= submitJob env config runId) s) := by
    refine (chooseStep_ends config clean atRun).bind (fun e u ⟨old, same⟩ => ?_) ?_
    · change _ ∧ _
      rw [same, clean.1]
      simp [old]
    rintro chosen u (⟨adds, cleanAfter, runs, longer⟩ | ⟨old, cleanAfter, runs, events⟩)
    all_goals
      refine outcome_last ((submitJob_raised cleanAfter).bind (fun e v same => ?_) fun _ _ _ => trivial)
      change _ ∧ _
      rw [same, cleanAfter.1]
      refine ⟨runs, ?_⟩
    · simp only [adds, not_true_eq_false, iff_false]
      intro same
      rw [same] at longer
      exact lt_irrefl _ longer
    · unfold Db.eventsOf
      rw [events]
      simp [old]
  rwa [raised] at ends

theorem startRun_ready (atRun : s.working.run? runId = some run) (kept : run.cancellationRequested = false)
    (ready : run.status = .planning ∨ run.status = .fixing ∨ run.status = .implementing) :
    startRun env runId s = (.ok run, s) := by
  unfold startRun
  rw [bind_run_ok _ (requireRun_run atRun)]
  rcases ready with status | status | status <;> simp [kept, status]

theorem startRun_moved (env : Env) (atRun : s.working.run? runId = some run)
    (kept : run.cancellationRequested = false) (idle : run.status = .created ∨ run.status = .failed) :
    ∃ moved t, startRun env runId s = (.ok moved, t) ∧ t.Clean ∧ moved.status = .planning ∧
      t.working.run? runId = some moved := by
  have legal : RunStatus.planning ∈ allowedTransitions run.status := by
    rcases idle with status | status <;> simp [status, allowedTransitions]
  have moves : ∀ eventType actor, ∃ moved t, transition env runId .planning eventType actor (.obj []) none s =
      (.ok moved, t) ∧ t.Clean ∧ moved.status = .planning ∧ t.working.run? runId = some moved := by
    intro eventType actor
    obtain ⟨t, ran, clean, logged⟩ := transition_run env eventType actor (.obj []) none atRun (.inr legal) (by decide)
    have stored := run?_update (f := fun run => run.moveTo .planning (s.clock 0)) (fun _ => rfl) atRun
    exact ⟨_, t, ran, clean, rfl, (logged.run? runId).trans stored⟩
  have runs : startRun env runId s = (if run.status = .created then
      transition env runId .planning "RemoteRunSubmitted" else resume env runId) s := by
    unfold startRun
    rw [bind_run_ok _ (requireRun_run atRun)]
    rcases idle with status | status <;> simp [kept, status]
  rw [runs]
  rcases idle with status | status
  · rw [if_pos status]
    exact moves _ _
  · have resumed : resume env runId s =
        transition env runId .planning "RunResumed" "user" (.obj []) none s := by
      unfold resume
      rw [bind_run_ok _ (requireRun_run atRun)]
      simp [status]
    rw [if_neg (by simp [status]), resumed]
    exact moves _ _

theorem startRun_refused (env : Env)
    (refused : ∀ run, s.working.run? runId = some run → run.cancellationRequested = true ∨
      (run.status ≠ .created ∧ run.status ≠ .failed ∧ run.status ≠ .planning ∧ run.status ≠ .fixing ∧
      run.status ≠ .implementing)) :
    ∃ e, startRun env runId s = (.error e, s) := by
  unfold startRun requireRun
  rw [bind_assoc_run, bind_view]
  cases atRun : s.working.run? runId with
  | none => exact ⟨_, rfl⟩
  | some run =>
    rw [bind_expect_some]
    by_cases stopped : run.cancellationRequested ∨ run.status = .cancelled
    · rw [if_pos stopped]
      exact ⟨_, rfl⟩
    · have other := (refused run atRun).resolve_left fun cancelled => stopped (.inl cancelled)
      rw [if_neg stopped, if_neg other.1, if_neg other.2.1, if_pos other.2.2]
      exact ⟨_, rfl⟩

end

end RemoteWorkflow

open RemoteWorkflow

/-- A rejected execution leaves its run as it was unless a write to the run
was committed before the check that raised. -/
theorem rejected_execution_untouched_iff {env : Env} {config : RemoteConfig} {d : Db} {supply : Supply}
    {runId : String} {e : Error} (raised : (request (execute env config runId) d supply).1 = .error e) :
    RemoteWorkflow.Untouched runId d (request (execute env config runId) d supply).2 ↔
      ¬CommitsEarly env config d (supply.uuids 0) runId := by
  let s : Session Db := start d supply
  obtain ⟨t, committed, ran⟩ : ∃ t : Session Db, (request (execute env config runId) d supply).2 = t.committed ∧
      execute env config runId s = (.error e, t) := ⟨_, rfl, Prod.ext raised rfl⟩
  rw [committed]
  rw [execute_eq] at ran
  by_cases refused : ∀ run, s.working.run? runId = some run →
      run.cancellationRequested = true ∨ (run.status ≠ .created ∧ run.status ≠ .failed ∧ run.status ≠ .planning ∧
        run.status ≠ .fixing ∧ run.status ≠ .implementing)
  · obtain ⟨e', stopped⟩ := startRun_refused env refused
    rw [Tx.bind_run_error _ stopped] at ran
    obtain ⟨-, rfl⟩ := Prod.mk.inj ran
    have late : ¬CommitsEarly env config d (supply.uuids 0) runId := by
      rintro ⟨run, atRun, kept, status⟩
      have guarded := refused run atRun
      simp only [kept, Bool.false_eq_true, false_or] at guarded
      tauto
    simp only [late, not_false_eq_true, iff_true]
    exact ⟨rfl, rfl⟩
  push Not at refused
  obtain ⟨run, atRun, notCancelled, status⟩ := refused
  have kept : run.cancellationRequested = false := by simpa using notCancelled
  have named : run.id = runId := Table.find_key atRun
  by_cases idle : run.status = .created ∨ run.status = .failed
  · -- the transition has been committed, and no later step takes it back
    obtain ⟨moved, u, started, clean, planning, atMoved⟩ := startRun_moved env atRun kept idle
    rw [Tx.bind_run_ok _ started] at ran
    have movedNamed : moved.id = runId := Table.find_key atMoved
    obtain ⟨runs, -⟩ := raised_after_start clean (by rw [movedNamed]; exact atMoved) ran
    have early : CommitsEarly env config d (supply.uuids 0) runId := ⟨run, atRun, kept, by tauto⟩
    simp only [early, not_true_eq_false, iff_false]
    intro untouched
    have rows := untouched.row
    have now : t.committed.run? runId = some moved := by
      unfold Db.run? at atMoved ⊢
      rw [runs]
      exact atMoved
    have before : d.run? runId = some run := atRun
    rw [now, before] at rows
    obtain ⟨same, -⟩ := Prod.mk.inj (Option.some.inj rows)
    rw [planning] at same
    simp [← same] at idle
  · have ready : run.status = .planning ∨ run.status = .fixing ∨ run.status = .implementing := by tauto
    rw [Tx.bind_run_ok _ (startRun_ready atRun kept ready)] at ran
    obtain ⟨runs, events⟩ := raised_after_start (start_clean d supply) (by rw [named]; exact atRun) ran
    have early_iff : CommitsEarly env config d (supply.uuids 0) runId ↔
        AddsStep env config d (supply.uuids 0) run := by
      constructor
      · rintro ⟨other, atOther, -, moved | failed | ⟨-, adds⟩⟩
        all_goals cases Option.some.inj (atOther.symm.trans atRun)
        · exact absurd (.inl moved) idle
        · exact absurd (.inr failed) idle
        · exact adds
      · exact fun adds => ⟨run, atRun, kept, .inr (.inr ⟨ready, adds⟩)⟩
    rw [early_iff, ← named]
    have rows : t.committed.run? run.id = d.run? run.id := congrArg (Table.find · run.id) runs
    constructor
    · exact fun untouched => events.mp untouched.events
    · exact fun late => ⟨by rw [rows], events.mpr late⟩

namespace Sample

/-- A run whose recovery was escalated, in the given status. -/
def escalated (status : RunStatus) : Db :=
  { tasks := .ofRows [{ task with description := "Update the parser." }],
    runs := .ofRows [{ newRun "source" task status 0 with
      completedAt := some 5, recoveryState := some (.obj [("status", .str "ESCALATED")]) }] }

def executing (status : RunStatus) : Except Error Json × Db :=
  request (execute remoteEnv remoteConfig "source") (escalated status) (supplyOf "step-")

end Sample

open Sample in
/-- A run in planning is refused and stays as it was. -/
theorem rejected_execution_untouched_sample :
    ∃ e, (executing .planning).1 = .error e ∧ RemoteWorkflow.Untouched "source" (escalated .planning)
      (executing .planning).2 := by
  have refused : (executing .planning).1.toOption.isSome = false := by decide +kernel
  have stops : ∃ e, (executing .planning).1 = .error e := by
    cases ran : (executing .planning).1 with
    | error e => exact ⟨e, rfl⟩
    | ok answer =>
      rw [ran] at refused
      cases refused
  obtain ⟨e, raised⟩ := stops
  refine ⟨e, raised, (rejected_execution_untouched_iff raised).mpr ?_⟩
  rintro ⟨run, atRun, -, created | failed | ⟨-, unescalated, -⟩⟩
  all_goals
    have row : (escalated .planning).run? "source" = some _ := rfl
    cases Option.some.inj (row.symm.trans atRun)
  · cases created
  · cases failed
  · exact unescalated rfl

open Sample in
/-- A failed run is refused as well, but has been resumed by then. -/
theorem rejected_execution_resumes :
    ∃ e, (executing .failed).1 = .error e ∧ ¬RemoteWorkflow.Untouched "source" (escalated .failed)
      (executing .failed).2 := by
  have ran : (executing .failed).1.toOption.isSome = false ∧
      ((executing .failed).2.run? "source").map Run.status = some .planning ∧
      ((escalated .failed).run? "source").map Run.status = some .failed := by
    decide +kernel
  obtain ⟨refused, after, before⟩ := ran
  cases result : (executing .failed).1 with
  | ok answer =>
    rw [result] at refused
    cases refused
  | error e =>
    refine ⟨e, rfl, ?_⟩
    intro untouched
    obtain ⟨last, atLast, planning⟩ := Option.map_eq_some_iff.mp after
    obtain ⟨first, atFirst, failed⟩ := Option.map_eq_some_iff.mp before
    have rows := untouched.row
    rw [atLast, atFirst] at rows
    obtain ⟨same, -⟩ := Prod.mk.inj (Option.some.inj rows)
    rw [planning, failed] at same
    cases same

end SacmRuntime
