import SacmRuntime.Runtime.Fencing
import SacmRuntime.Runtime.OrchestratedJobs

namespace SacmRuntime
open Session ExternalAgentService RecoveryService RunService Db
open Tx hiding Leaves

def Db.recoveryPlans (d : Db) : List RuntimeEvent := d.events.filter fun event => event.eventType == "RecoveryPlanned"

/-- What the recovery of a step of this run leaves alone. -/
def Db.aroundRecovery (runId : String) (d : Db) : Table ExecutionJob × Table Project × Option (Option String) :=
  (d.jobs, d.projects, (d.run? runId).map Run.projectId)

def reportedFailure (result : AgentResultV1) : Json := (failureDict result).getD (defaultFailure result)

/-- What a run remembers as its last recovery decision. -/
def rememberedDecision (env : Env) (run : Option Run) : Except Error (Option RecoveryDecisionV1) :=
  let decision := ((run.bind Run.recoveryState).getD .null).get "last_decision"
  if decision.truthy then (env.validateDecision decision).map some else .ok none

def inputAfter (step : RunStep) (report : FailureReportV1) (decision : RecoveryDecisionV1) : Json :=
  if decision.status = .escalated then step.input else recoveryInput step.input report.modelDump decision

/-- What recovery needs to decide on a failed result of a step. -/
structure Decides (env : Env) (d : Db) (runId : String) (step : RunStep) (result : AgentResultV1)
    (report : FailureReportV1) (decision : RecoveryDecisionV1) : Prop where
  named : (step.input.field? "agent_name").isSome ∧ (step.input.field? "framework").isSome
  decided : ∃ run, d.run? runId = some run ∧ env.diagnose (reportedFailure result) = .ok report ∧
    RecoveryService.decide env run report none = .ok decision

/-- How a step takes a failed result: the decision that is returned, the input
of the step afterwards, and whether the decision has been recorded just now. -/
structure Taking where
  recovery : Option RecoveryDecisionV1 := none
  input : Json
  recorded : Bool := false

/-- What `submit` leaves of the session when it has taken a failed result. -/
structure Took (runId stepId : String) (taking : Taking) (s t : Session Db) (submission : ExternalAgentSubmission) :
    Prop where
  recovery : submission.recovery = taking.recovery
  input : submission.step.input = taking.input
  step : t.working.getStep runId stepId = some submission.step
  around : t.working.aroundRecovery runId = s.working.aroundRecovery runId
  flushed : t.flushed = t.working ∨ t.flushed = s.flushed
  uuids : t.uuids = fun n => s.uuids (n + if taking.recorded then 1 else 0)
  plans : ∃ events, t.working.recoveryPlans = s.working.recoveryPlans ++ events ∧
    events.map RuntimeEvent.payload = if taking.recorded
      then taking.recovery.toList.map RecoveryDecisionV1.modelDump else []

/-- The step a result is for, with the contract it carries. -/
structure Contracted (env : Env) (d : Db) (runId stepId : String) (step : RunStep) : Prop where
  authorized : env.authorizeRun runId none true = .ok ()
  found : d.getStep runId stepId = some step
  contract : step.input.get "agent_task" ≠ .null
  valid : ∃ task, env.validateTask (step.input.get "agent_task") = .ok task

def KnownFailure (d : Db) (runId : String) (step : RunStep) (result : AgentResultV1) : Prop :=
  let stored := step.output.getD .null
  let classified := (((d.run? runId).bind Run.recoveryState).getD .null).get "last_failure"
  (step.status = .pending ∧ (stored.get "recovery").truthy = true ∧
    sameFailure classified ((failureDict result).getD .null) = true) ∨
  (step.status = .failed ∧ (sameFailure ((stored.get "failure").orElse (stored.get "last_failure"))
    (reportedFailure result) || sameFailure classified (reportedFailure result)) = true)

/-- The step accepts a failed result: one it has reported before, one that it
completed with, one after its approval was rejected, or a new one on which
recovery decides. -/
inductive Takes (env : Env) (d : Db) (runId stepId : String) (result : AgentResultV1) : Taking → Prop
  | known {step : RunStep} {recovery : Option RecoveryDecisionV1} (contracted : Contracted env d runId stepId step)
      (same : KnownFailure d runId step result) (remembered : rememberedDecision env (d.run? runId) = .ok recovery) :
      Takes env d runId stepId result ⟨recovery, step.input, false⟩
  | completed {step : RunStep} (contracted : Contracted env d runId stepId step) (done : step.status = .completed)
      (same : (resultOutput step.output).pyEq result.modelDump = true) :
      Takes env d runId stepId result ⟨none, step.input, false⟩
  | rejected {step : RunStep} {record : Approval} (contracted : Contracted env d runId stepId step)
      (waits : step.status = .awaitingApproval) (bound : approvalFor d step = some record)
      (refused : record.status = .rejected) (atRun : (d.run? runId).isSome) :
      Takes env d runId stepId result ⟨none, step.input, false⟩
  | decided {step : RunStep} {task : AgentTaskV1} {approval : Option Approval} {report : FailureReportV1}
      {decision : RecoveryDecisionV1} (passes : Passes env d runId stepId result none true step task approval)
      (decides : Decides env d runId step result report decision) :
      Takes env d runId stepId result ⟨some decision, inputAfter step report decision, true⟩

/-- A reading of the session that the steps of a run can move without, short of planning a recovery. -/
structure RecoveryQuiet {γ : Type} (env : Env) (runId stepId : String) (commits : Bool) (g : Session Db → γ) :
    Prop where
  clock : Tx.Leaves g (utcnow : Service Nat)
  run : ∀ f : Run → Run, (∀ run, (f run).id = run.id ∧ (f run).projectId = run.projectId) →
    Tx.Leaves g (updateRun runId f)
  step : ∀ f, Tx.Leaves g (updateStep stepId f)
  event : ∀ run eventType payload, eventType ≠ "RecoveryPlanned" →
    Tx.Leaves g (appendEvent env run eventType "system" payload (some stepId))
  checkpoint : ∀ run reason, Tx.Leaves g (checkpoint env run reason)
  settle : Tx.Leaves g (RunService.settle commits)

section
variable {env : Env} {s t : Session Db} {runId stepId : String}

theorem keeps_plans {eventType : String} (other : eventType ≠ "RecoveryPlanned") (d : Db) (event : RuntimeEvent)
    (ofType : event.eventType = eventType) :
    recoveryPlans { d with events := d.events ++ [event] } = d.recoveryPlans := by
  have unplanned : (event.eventType == "RecoveryPlanned") = false := by
    rw [ofType, beq_eq_false_iff_ne]
    exact other
  unfold recoveryPlans
  rw [List.filter_append, List.filter_singleton, unplanned]
  simp

theorem updateRun_leaves_around {f : Run → Run}
    (keeps : ∀ run, (f run).id = run.id ∧ (f run).projectId = run.projectId) :
    Leaves (aroundRecovery runId) (updateRun runId f) := by
  refine leaves_modify fun d => ?_
  have here : (d.runs.update runId f).find runId = (d.runs.find runId).map f :=
    Table.find_update_self fun run => (keeps run).1
  unfold aroundRecovery run?
  rw [here, Option.map_map]
  exact congrArg (fun column => (d.jobs, d.projects, (d.runs.find runId).map column)) (funext fun run => (keeps run).2)

theorem quiet_plans (env : Env) (runId stepId : String) (commits : Bool) :
    RecoveryQuiet env runId stepId commits fun s => s.working.recoveryPlans where
  clock _ := rfl
  run _ _ := leaves_modify fun _ => rfl
  step _ := leaves_modify fun _ => rfl
  event _ _ _ other := appendEvent_leaves (keeps_plans other)
  checkpoint _ _ := checkpoint_leaves fun _ _ => rfl
  settle := by
    unfold settle
    exact leaves_ite leaves_commit leaves_flush

theorem quiet_around (env : Env) (runId stepId : String) (commits : Bool) :
    RecoveryQuiet env runId stepId commits fun s => (s.working.aroundRecovery runId, s.uuids) where
  clock _ := rfl
  run f keeps s := congrArg (·, s.uuids) (updateRun_leaves_around keeps s)
  step _ _ := rfl
  event run eventType payload _ s := Prod.ext (appendEvent_leaves (h := aroundRecovery runId) (fun _ _ _ => rfl) s)
    (appendEvent_uuids env run eventType "system" payload (some stepId) s)
  checkpoint run reason s := Prod.ext (checkpoint_leaves (h := aroundRecovery runId) (fun _ _ => rfl) s)
    (checkpoint_uuids env run reason s)
  settle s := by
    cases commits <;> rfl

variable {commits : Bool} {d : Db} {decision : RecoveryDecisionV1} {failure : Json}
  {requested : Option RecoveryAction} {result : AgentResultV1} {run : Run} {step : RunStep} {taking : Taking}

theorem scheduleRecovery_plans {γ : Type} {g : Session Db → γ} {result : RunStep}
    (quiet : RecoveryQuiet env runId stepId commits g)
    (returned : scheduleRecovery env runId stepId failure decision commits s = (.ok result, t)) :
    ∃ run before event after, g before = g s ∧ g t = g after ∧
      appendEvent env run "RecoveryPlanned" "system" decision.modelDump (some stepId) before = (.ok event, after) := by
  unfold scheduleRecovery at returned
  obtain ⟨run, s1, required, atStep⟩ := bind_ok returned
  obtain ⟨-, rfl⟩ := requireRun_ok required
  obtain ⟨step, s2, requiredStep, checked⟩ := bind_ok atStep
  obtain ⟨-, rfl⟩ := requireStep_ok requiredStep
  split at checked
  · cases checked
  obtain ⟨recordedAt, s3, now, timed⟩ := bind_ok checked
  obtain ⟨classification, s4, classified, named⟩ := bind_ok timed
  obtain ⟨-, rfl⟩ := expect_ok classified
  obtain ⟨_, s5, noted, reporting⟩ := bind_ok named
  obtain ⟨_, s6, reported, planning⟩ := bind_ok reporting
  obtain ⟨planned, s7, appended, rest⟩ := bind_ok planning
  have written : g s5 = g s4 := by
    refine Tx.Leaves.after (quiet.run _ ?_) noted
    exact fun _ => ⟨rfl, rfl⟩
  have before : g s6 = g s2 := by
    rw [(quiet.event _ _ _ (by decide)).after reported, written, quiet.clock.after now]
  refine ⟨run, s6, planned, s7, before, ?_, appended⟩
  refine Tx.Leaves.after ?_ rest
  refine quiet.clock.bind fun now => ?_
  have closing : Tx.Leaves g (updateRun runId (fun run => { run with updatedAt := some now }) >>=
      fun _ => checkpoint env run ("recovery:" ++ decision.action.value.toLower) >>= fun _ =>
        settle commits >>= fun _ => requireStep runId stepId) := by
    refine Tx.Leaves.bind (quiet.run _ fun _ => ⟨rfl, rfl⟩) fun _ => (quiet.checkpoint _ _).bind fun _ => ?_
    exact quiet.settle.bind fun _ => leaves_read fun _ => leaves_expect
  refine leaves_ite ?_ ?_
  · refine Tx.Leaves.bind (quiet.run _ fun _ => ⟨rfl, rfl⟩) fun _ => ?_
    exact Tx.Leaves.bind (quiet.event _ _ _ (by decide)) fun _ => closing
  · refine Tx.Leaves.bind (quiet.step _) fun _ => Tx.Leaves.bind (quiet.run _ fun _ => ⟨rfl, rfl⟩) fun _ => ?_
    exact Tx.Leaves.bind (quiet.event _ _ _ (by decide)) fun _ => closing

theorem appendPlan_run (runId : String) {event : RuntimeEvent}
    (appended : appendEvent env run "RecoveryPlanned" "system" decision.modelDump (some stepId) s = (.ok event, t)) :
    t.working.aroundRecovery runId = s.working.aroundRecovery runId ∧ t.uuids = s.uuids ∧
      t.working.recoveryPlans = s.working.recoveryPlans ++ [event] ∧ event.payload = decision.modelDump := by
  have around := (appendEvent_leaves (h := aroundRecovery runId) fun _ _ _ => rfl).after appended
  have drawn := (appendEvent_uuids env run "RecoveryPlanned" "system" decision.modelDump (some stepId)).after appended
  obtain ⟨plan, u, ran, effect, -, ofType, -, carries⟩ := appendEvent_run env run "RecoveryPlanned" "system"
    decision.modelDump (some stepId) s
  cases appended.symm.trans ran
  refine ⟨around, drawn, ?_, carries⟩
  have isPlan : (event.eventType == "RecoveryPlanned") = true := by rw [ofType, beq_self_eq_true]
  rw [effect]
  unfold recoveryPlans
  rw [List.filter_append, List.filter_singleton, isPlan]
  rfl

theorem scheduleRecovery_records {result : RunStep}
    (returned : scheduleRecovery env runId stepId failure decision commits s = (.ok result, t)) :
    t.working.aroundRecovery runId = s.working.aroundRecovery runId ∧ t.uuids = s.uuids ∧
      ∃ event, t.working.recoveryPlans = s.working.recoveryPlans ++ [event] ∧ event.payload = decision.modelDump := by
  obtain ⟨run, before, event, after, same, sameAfter, appended⟩ :=
    scheduleRecovery_plans (quiet_around env runId stepId commits) returned
  obtain ⟨around, drawn, -, -⟩ := appendPlan_run runId appended
  simp only [Prod.mk.injEq] at same sameAfter
  refine ⟨(sameAfter.1.trans around).trans same.1, (sameAfter.2.trans drawn).trans same.2, ?_⟩
  obtain ⟨run, before, event, after, same, sameAfter, appended⟩ :=
    scheduleRecovery_plans (quiet_plans env runId stepId commits) returned
  obtain ⟨-, -, planned, carries⟩ := appendPlan_run runId appended
  exact ⟨event, by rw [sameAfter, planned, same], carries⟩

/-- A recovery that returned recorded its decision with `schedule_recovery`. -/
theorem handle_scheduled {result : RunStep} {report : FailureReportV1}
    (returned : handle env runId stepId failure requested false s = (.ok (result, report, decision), t)) :
    scheduleRecovery env runId stepId report.modelDump decision false s = (.ok result, t) := by
  unfold handle at returned
  obtain ⟨run, s1, looked, atStep⟩ := bind_ok returned
  obtain ⟨-, rfl⟩ := existingRun_ok looked
  obtain ⟨step, s2, lookedToo, checked⟩ := bind_ok atStep
  obtain ⟨-, rfl⟩ := existingStep_ok lookedToo
  split at checked
  · cases checked
  obtain ⟨diagnosed, -, deciding⟩ := bind_ofExcept_ok checked
  obtain ⟨decided, -, scheduling⟩ := bind_ofExcept_ok deciding
  obtain ⟨recovered, s3, scheduled, last⟩ := bind_ok scheduling
  cases last
  exact scheduled

theorem persistResult_run (task : AgentTaskV1) (result : AgentResultV1)
    (named : (step.input.field? "agent_name").isSome ∧ (step.input.field? "framework").isSome)
    (atRun : s.working.run? step.runId = some run) :
    ∃ contextEvents t, persistResult step task result false s = (.ok (), t) ∧
      t.working = { s.working with contextEvents := contextEvents } ∧ t.flushed = t.working ∧
        t.uuids = fun n => s.uuids (n + 1) := by
  obtain ⟨agentName, atName⟩ := Option.isSome_iff_exists.mp named.1
  obtain ⟨framework, atFramework⟩ := Option.isSome_iff_exists.mp named.2
  unfold persistResult
  rw [atName, atFramework, bind_expect_some, bind_expect_some, bind_run_ok _ (requireRun_run atRun)]
  unfold saveAgentResult
  simp only [bind_uuid4, bind_utcnow, bind_modify]
  exact ⟨_, _, rfl, rfl, rfl, rfl⟩

/-- The rest of `submit` for a failed result: it raises where recovery cannot
decide, and otherwise records the decision. -/
theorem accept_failed (task : AgentTaskV1) (approval : Option Approval) (failed : result.status = .failed)
    (found : s.working.getStep runId stepId = some step) :
    Yields (fun _ _ => ∀ report decision, ¬Decides env s.working runId step result report decision)
      (fun submission t => ∃ report decision, Decides env s.working runId step result report decision ∧
        Took runId stepId ⟨some decision, inputAfter step report decision, true⟩ s t submission)
      (accept env runId stepId step task result approval false s) := by
  obtain ⟨inTable, ofRun⟩ := getStep_find found
  by_cases named : (step.input.field? "agent_name").isSome ∧ (step.input.field? "framework").isSome
  swap
  · unfold accept persistResult
    refine outcome_bind (fun e t _ report decision decides => named decides.named) ?_
    intro _ t ran
    obtain ⟨_, _, first, later⟩ := bind_ok ran
    obtain ⟨_, _, second, _⟩ := bind_ok later
    exact absurd ⟨by simp [(expect_ok first).1], by simp [(expect_ok second).1]⟩ named
  cases atRun : s.working.run? runId with
  | none =>
    have stops : accept env runId stepId step task result approval false s =
        (.error (.valueError ("Run " ++ runId ++ " not found")), s) := by
      obtain ⟨agentName, atName⟩ := Option.isSome_iff_exists.mp named.1
      obtain ⟨framework, atFramework⟩ := Option.isSome_iff_exists.mp named.2
      unfold accept persistResult
      rw [atName, atFramework, ofRun, bind_assoc_run, bind_expect_some, bind_assoc_run, bind_expect_some,
        bind_assoc_run, bind_run_error _ (requireRun_absent atRun)]
    rw [stops]
    intro report decision decides
    obtain ⟨run, found, -⟩ := decides.decided
    cases atRun.symm.trans found
  | some run =>
    obtain ⟨contextEvents, mid, stored, effect, -, drawn⟩ := persistResult_run (s := s) task result named
      (by rw [ofRun]; exact atRun)
    have atRunMid : mid.working.run? runId = some run := by
      rw [effect]
      exact atRun
    have foundMid : mid.working.getStep runId stepId = some step := by
      rw [effect]
      exact found
    obtain ⟨u, failing, closed⟩ := failStep_closes env (reportedFailure result) false atRunMid foundMid
    have logged := closed.logged
    have atRunAfter : u.working.run? runId = some run := (logged.run? runId).trans atRunMid
    have foundAfter : u.working.getStep runId stepId = some (step.fail (reportedFailure result) (mid.clock 0)) :=
      (logged.getStep runId stepId).trans
        (getStep_update (f := RunStep.fail (reportedFailure result) (mid.clock 0)) (fun _ => rfl)
          (fun _ => rfl) foundMid)
    have sameId : (step.fail (reportedFailure result) (mid.clock 0)).id = stepId := Table.find_key inTable
    have reported : (failureDict result).getD (defaultFailure result) = reportedFailure result := rfl
    unfold accept
    rw [bind_run_ok _ stored]
    simp only [failed, reported]
    rw [bind_run_ok _ failing, sameId]
    refine outcome_bind (fun e t ran => ?_) fun (recovered, report, decision) t ran => ?_
    all_goals
      have ends := handle_ends env (reportedFailure result) none false atRunAfter foundAfter rfl
      rw [ran] at ends
    · rintro report decision ⟨-, other, foundRun, diagnosed, decided⟩
      cases Option.some.inj (atRun.symm.trans foundRun)
      exact ends.2 report decision diagnosed decided
    obtain ⟨diagnosed, decided, after⟩ := ends
    obtain ⟨around, drawnAfter, event, planned, carries⟩ := scheduleRecovery_records (handle_scheduled ran)
    refine ⟨report, decision, ⟨named, run, atRun, diagnosed, decided⟩, ?_⟩
    have aroundFailing : u.working.aroundRecovery runId = s.working.aroundRecovery runId := by
      unfold aroundRecovery
      rw [logged.jobs, logged.projects, atRunAfter, atRun, effect]
    have plansBefore : u.working.recoveryPlans = s.working.recoveryPlans := by
      rw [(failStep_leaves (h := recoveryPlans) (fun _ _ => rfl) (keeps_plans (by decide)) fun _ _ => rfl).after
        failing,
        effect]
      rfl
    have input := after.input _ foundAfter
    exact
      { recovery := rfl
        input := input
        step := after.step
        around := around.trans aroundFailing
        flushed := .inl after.flushed
        uuids := (drawnAfter.trans closed.uuids).trans drawn
        plans := ⟨[event], by rw [planned, plansBefore], by simp [carries]⟩ }

theorem Takes.atStep (takes : Takes env d runId stepId result taking) :
    ∃ step, Contracted env d runId stepId step ∧
      ((KnownFailure d runId step result ∧ ∃ recovery, rememberedDecision env (d.run? runId) = .ok recovery) ∨
        (step.status = .completed ∧ (resultOutput step.output).pyEq result.modelDump = true) ∨
        (step.status = .awaitingApproval ∧ ∃ record, approvalFor d step = some record ∧ record.status = .rejected ∧
          (d.run? runId).isSome) ∨
        ∃ task approval, Passes env d runId stepId result none true step task approval ∧
          ∃ report decision, Decides env d runId step result report decision) := by
  cases takes with
  | @known step recovery contracted same remembered => exact ⟨step, contracted, .inl ⟨same, recovery, remembered⟩⟩
  | @completed step contracted done same => exact ⟨step, contracted, .inr (.inl ⟨done, same⟩)⟩
  | @rejected step record contracted waits bound refused atRun =>
    exact ⟨step, contracted, .inr (.inr (.inl ⟨waits, record, bound, refused, atRun⟩))⟩
  | @decided step task approval report decision passes decides =>
    exact ⟨step, ⟨passes.authorized, passes.found, passes.contract, task, passes.valid⟩,
      .inr (.inr (.inr ⟨task, approval, passes, report, decision, decides⟩))⟩

theorem KnownFailure.only (env : Env) (stepId : String) (failed : result.status = .failed)
    (known : KnownFailure d runId step result) : step.status ≠ .completed ∧ step.status ≠ .awaitingApproval ∧
      ∀ task approval, ¬Passes env d runId stepId result none true step task approval := by
  rcases known with ⟨waits, truthy, -⟩ | ⟨broken, -⟩
  · exact ⟨by simp [waits], by simp [waits], fun _ _ passes => passes.fresh ⟨waits, failed, truthy⟩⟩
  · exact ⟨by simp [broken], by simp [broken], fun _ _ passes => passes.unfailed broken⟩

theorem rejected_only {record : Approval} (waits : step.status = .awaitingApproval)
    (bound : approvalFor d step = some record) (rejected : record.status = .rejected) :
    step.status ≠ .completed ∧ ∀ task approval, ¬Passes env d runId stepId result none true step task approval := by
  refine ⟨by simp [waits], fun task approval passes => ?_⟩
  obtain ⟨other, isBound, -, unrejected, -⟩ := passes.gate waits
  cases (passes.bound.symm.trans isBound).symm.trans bound
  exact unrejected rejected

theorem Takes.unique {a b : Taking} (failed : result.status = .failed) (first : Takes env d runId stepId result a)
    (second : Takes env d runId stepId result b) : a = b := by
  have sameStep : ∀ {step other}, d.getStep runId stepId = some step → d.getStep runId stepId = some other →
      step = other := fun found foundToo => Option.some.inj (found.symm.trans foundToo)
  cases first with
  | known contracted same remembered =>
    obtain ⟨uncompleted, ungated, fresh⟩ := same.only env stepId failed
    cases second with
    | known contracted' _ remembered' =>
      cases sameStep contracted.found contracted'.found
      cases remembered.symm.trans remembered'
      rfl
    | completed contracted' done _ => cases sameStep contracted.found contracted'.found; exact absurd done uncompleted
    | rejected contracted' waits => cases sameStep contracted.found contracted'.found; exact absurd waits ungated
    | decided passes => cases sameStep contracted.found passes.found; exact absurd passes (fresh _ _)
  | completed contracted done =>
    cases second with
    | known contracted' same =>
      cases sameStep contracted.found contracted'.found
      exact absurd done (same.only env stepId failed).1
    | completed contracted' => cases sameStep contracted.found contracted'.found; rfl
    | rejected contracted' waits =>
      cases sameStep contracted.found contracted'.found
      cases done.symm.trans waits
    | decided passes => cases sameStep contracted.found passes.found; exact absurd done passes.uncompleted
  | rejected contracted waits bound refused =>
    cases second with
    | known contracted' same =>
      cases sameStep contracted.found contracted'.found
      exact absurd waits (same.only env stepId failed).2.1
    | completed contracted' done =>
      cases sameStep contracted.found contracted'.found
      cases done.symm.trans waits
    | rejected contracted' => cases sameStep contracted.found contracted'.found; rfl
    | decided passes =>
      cases sameStep contracted.found passes.found
      exact absurd passes ((rejected_only waits bound refused).2 _ _)
  | decided passes decides =>
    cases second with
    | known contracted' same =>
      cases sameStep passes.found contracted'.found
      exact absurd passes ((same.only env stepId failed).2.2 _ _)
    | completed contracted' done => cases sameStep passes.found contracted'.found; exact absurd done passes.uncompleted
    | rejected contracted' waits bound refused =>
      cases sameStep passes.found contracted'.found
      exact absurd passes ((rejected_only waits bound refused).2 _ _)
    | decided passes' decides' =>
      cases sameStep passes.found passes'.found
      obtain ⟨run, atRun, diagnosed, decided⟩ := decides.decided
      obtain ⟨other, atOther, diagnosed', decided'⟩ := decides'.decided
      cases Option.some.inj (atRun.symm.trans atOther)
      cases diagnosed.symm.trans diagnosed'
      cases decided.symm.trans decided'
      rfl

theorem Takes.withJobs (jobs : Table ExecutionJob) (leases : Table CredentialLease)
    (takes : Takes env d runId stepId result taking) :
    Takes env { d with jobs := jobs, leases := leases } runId stepId result taking := by
  cases takes with
  | known contracted same remembered =>
    exact .known ⟨contracted.authorized, contracted.found, contracted.contract, contracted.valid⟩ same remembered
  | completed contracted done same =>
    exact .completed ⟨contracted.authorized, contracted.found, contracted.contract, contracted.valid⟩ done same
  | rejected contracted waits bound refused atRun =>
    exact .rejected ⟨contracted.authorized, contracted.found, contracted.contract, contracted.valid⟩ waits bound
      refused atRun
  | decided passes decides =>
    exact .decided ⟨passes.authorized, passes.found, passes.contract, passes.valid, passes.identity, passes.fresh,
      passes.uncompleted, passes.unfailed, passes.bound, passes.gate⟩ ⟨decides.named, decides.decided⟩

theorem takes_withJobs {jobs : Table ExecutionJob} {leases : Table CredentialLease} :
    Takes env { d with jobs := jobs, leases := leases } runId stepId result taking ↔
      Takes env d runId stepId result taking :=
  ⟨fun takes => takes.withJobs d.jobs d.leases, fun takes => takes.withJobs jobs leases⟩

theorem took_same {recovery : Option RecoveryDecisionV1} {approvalId : Option String}
    (found : s.working.getStep runId stepId = some step) :
    Took runId stepId ⟨recovery, step.input, false⟩ s s ⟨step, approvalId, recovery, none⟩ where
  recovery := rfl
  input := rfl
  step := found
  around := rfl
  flushed := .inr rfl
  uuids := rfl
  plans := ⟨[], by simp, rfl⟩

theorem failStep_took (env : Env) (failure : Json) (atRun : s.working.run? runId = some run)
    (found : s.working.getStep runId stepId = some step) :
    ∃ result t, failStep env runId stepId failure true s = (.ok result, t) ∧
      ∀ approvalId, Took runId stepId ⟨none, step.input, false⟩ s t ⟨result, approvalId, none, none⟩ := by
  obtain ⟨t, ran, closed⟩ := failStep_closes env failure true atRun found
  have logged := closed.logged
  have after := getStep_update (f := RunStep.fail failure (s.clock 0)) (fun _ => rfl) (fun _ => rfl) found
  have plans :=
    (failStep_leaves (h := recoveryPlans) (fun _ _ => rfl) (keeps_plans (by decide)) fun _ _ => rfl).after ran
  refine ⟨_, t, ran, fun approvalId => ?_⟩
  exact
    { recovery := rfl
      input := rfl
      step := (logged.getStep runId stepId).trans after
      around := by
        unfold aroundRecovery
        rw [logged.jobs, logged.projects, logged.run? runId]
        rfl
      flushed := .inl closed.flushed
      uuids := closed.uuids
      plans := ⟨[], by simpa using plans, rfl⟩ }

/-- The rest of `submit` after it has read the decision the run remembers. -/
theorem outcome_remembered {β : Type} {P : Except Error β × Session Db → Prop} {run : Option Run}
    {f : Option RecoveryDecisionV1 → Service β} (raised : ∀ e, rememberedDecision env run = .error e → P (.error e, s))
    (rest : ∀ recovery, rememberedDecision env run = .ok recovery → P (f recovery s)) :
    P ((currentRecovery env run >>= f) s) := by
  unfold currentRecovery
  unfold rememberedDecision at raised rest
  dsimp only at raised rest ⊢
  generalize Json.get _ "last_decision" = decision at raised rest ⊢
  by_cases given : decision.truthy = true
  · rw [if_pos given] at raised rest ⊢
    rw [bind_assoc_run]
    refine outcome_ofExcept_cases (fun e invalid => raised e ?_) fun decision valid => rest (some decision) ?_
    · rw [invalid]
      rfl
    · rw [valid]
      rfl
  · rw [if_neg given] at raised rest ⊢
    exact rest none rfl

section Accepted
variable {taking : Taking} (takes : Takes env d runId stepId result taking) (found : d.getStep runId stepId = some step)
include takes found

theorem Takes.contracted : Contracted env d runId stepId step := by
  obtain ⟨other, contracted, -⟩ := takes.atStep
  cases Option.some.inj (found.symm.trans contracted.found)
  exact contracted

/-- A step that is no candidate for a new failure takes one that it knows. -/
theorem Takes.knows (open_ : step.status ≠ .completed ∧ step.status ≠ .awaitingApproval)
    (closed : ∀ task approval, ¬Passes env d runId stepId result none true step task approval) :
    KnownFailure d runId step result ∧ ∃ recovery, rememberedDecision env (d.run? runId) = .ok recovery := by
  obtain ⟨other, contracted, ways⟩ := takes.atStep
  cases Option.some.inj (found.symm.trans contracted.found)
  rcases ways with known | ⟨done, -⟩ | ⟨waiting, -⟩ | ⟨_, _, passes, -⟩
  · exact known
  · exact absurd done open_.1
  · exact absurd waiting open_.2
  · exact absurd passes (closed _ _)

theorem Takes.again (failed : result.status = .failed) (done : step.status = .completed) :
    (resultOutput step.output).pyEq result.modelDump = true := by
  obtain ⟨other, contracted, ways⟩ := takes.atStep
  cases Option.some.inj (found.symm.trans contracted.found)
  rcases ways with ⟨known, -⟩ | ⟨-, same⟩ | ⟨waiting, -⟩ | ⟨_, _, passes, -⟩
  · exact absurd done (known.only env stepId failed).1
  · exact same
  · cases done.symm.trans waiting
  · exact absurd done passes.uncompleted

/-- A step that waits for an approval takes a failure when the approval is
rejected, or decided and up to date. -/
theorem Takes.gated (failed : result.status = .failed) (waiting : step.status = .awaitingApproval) :
    ∃ record, approvalFor d step = some record ∧ ((record.status = .rejected ∧ (d.run? runId).isSome) ∨
      (record.status ≠ .pending ∧ record.status ≠ .rejected ∧ (record.status = .approved →
        ∃ run, d.run? runId = some run ∧ approvalIsCurrent d record run.taskId = true))) := by
  obtain ⟨other, contracted, ways⟩ := takes.atStep
  cases Option.some.inj (found.symm.trans contracted.found)
  rcases ways with ⟨known, -⟩ | ⟨done, -⟩ | ⟨-, record, bound, rejected⟩ | ⟨_, _, passes, -⟩
  · exact absurd waiting (known.only env stepId failed).2.1
  · cases waiting.symm.trans done
  · exact ⟨record, bound, .inl rejected⟩
  · obtain ⟨record, isBound, gate⟩ := passes.gate waiting
    exact ⟨record, passes.bound.symm.trans isBound, .inr gate⟩

theorem Takes.decides {task : AgentTaskV1} {approval : Option Approval} (failed : result.status = .failed)
    (passes : Passes env d runId stepId result none true step task approval) :
    ∃ report decision, Decides env d runId step result report decision := by
  obtain ⟨other, contracted, ways⟩ := takes.atStep
  cases Option.some.inj (found.symm.trans contracted.found)
  rcases ways with ⟨known, -⟩ | ⟨done, -⟩ | ⟨waiting, record, bound, rejected, -⟩ | ⟨_, _, -, decides⟩
  · exact absurd passes ((known.only env stepId failed).2.2 _ _)
  · exact absurd done passes.uncompleted
  · exact absurd passes ((rejected_only waiting bound rejected).2 _ _)
  · exact decides

theorem Takes.gatedBy {record : Approval} (failed : result.status = .failed) (waiting : step.status = .awaitingApproval)
    (bound : approvalFor d step = some record) :
    (record.status = .rejected ∧ (d.run? runId).isSome) ∨ (record.status ≠ .pending ∧ record.status ≠ .rejected ∧
      (record.status = .approved → ∃ run, d.run? runId = some run ∧ approvalIsCurrent d record run.taskId = true)) := by
  obtain ⟨other, isBound, ways⟩ := takes.gated found failed waiting
  cases bound.symm.trans isBound
  exact ways

end Accepted

abbrev SubmitEnds (env : Env) (runId stepId : String) (result : AgentResultV1) (s : Session Db) :
    Except Error ExternalAgentSubmission × Session Db → Prop :=
  Yields (fun _ _ => ∀ taking, ¬Takes env s.working runId stepId result taking)
    (fun submission t => ∃ taking, Takes env s.working runId stepId result taking ∧
      Took runId stepId taking s t submission)

theorem remembered_ends (contracted : Contracted env s.working runId stepId step)
    (known : KnownFailure s.working runId step result)
    (open_ : step.status ≠ .completed ∧ step.status ≠ .awaitingApproval)
    (closed : ∀ task approval, ¬Passes env s.working runId stepId result none true step task approval) :
    SubmitEnds env runId stepId result s ((currentRecovery env (s.working.run? runId) >>= fun recovery =>
      pure { step := step, recovery := recovery }) s) := by
  refine outcome_remembered (fun e invalid taking takes => ?_) fun recovery remembered => ?_
  · obtain ⟨-, recovery, remembered⟩ := takes.knows contracted.found open_ closed
    cases invalid.symm.trans remembered
  · exact ⟨_, .known contracted known remembered, took_same contracted.found⟩

theorem accept_ends {task : AgentTaskV1} {approval : Option Approval} (failed : result.status = .failed)
    (passes : Passes env s.working runId stepId result none true step task approval) :
    SubmitEnds env runId stepId result s (accept env runId stepId step task result approval false s) := by
  rcases (accept_failed task approval failed passes.found).cases with
    ⟨e, t, ran, undecided⟩ | ⟨submission, t, ran, report, decision, decides, took⟩
  · rw [ran]
    intro taking takes
    obtain ⟨report, decision, decides⟩ := takes.decides passes.found failed passes
    exact undecided report decision decides
  · rw [ran]
    exact ⟨_, .decided passes decides, took⟩

theorem rejected_ends {record : Approval} {approvalId : Option String} {failure : Json}
    (failed : result.status = .failed) (contracted : Contracted env s.working runId stepId step)
    (waiting : step.status = .awaitingApproval) (bound : approvalFor s.working step = some record)
    (rejected : record.status = .rejected) :
    SubmitEnds env runId stepId result s ((failStep env runId stepId failure >>= fun failed =>
      pure { step := failed, approvalId := approvalId }) s) := by
  cases atRun : s.working.run? runId with
  | none =>
    have stops : failStep env runId stepId failure true s =
        (.error (.valueError ("Run " ++ runId ++ " not found")), s) := by
      unfold failStep
      rw [bind_run_error _ (requireRun_absent atRun)]
    rw [bind_run_error _ stops]
    intro taking takes
    rcases takes.gatedBy contracted.found failed waiting bound with ⟨-, present⟩ | ⟨-, unrejected, -⟩
    · rw [atRun] at present
      cases present
    · exact unrejected rejected
  | some run =>
    obtain ⟨_, t, ran, took⟩ := failStep_took env failure atRun contracted.found
    rw [bind_run_ok _ ran]
    exact ⟨_, .rejected contracted waiting bound rejected (by simp [atRun]), took _⟩

/-- `submit` of a failed result: it raises where the step does not accept the
result, and otherwise takes it. -/
theorem submit_takes (failed : result.status = .failed) (identity : result.runId = runId ∧ result.stepId = stepId) :
    Yields (fun _ _ => ∀ taking, ¬Takes env s.working runId stepId result taking)
      (fun submission t => ∃ taking, Takes env s.working runId stepId result taking ∧
        Took runId stepId taking s t submission)
      (submit env runId stepId result none true false s) := by
  unfold submit existingStep
  refine outcome_ofExcept_cases (fun e unauthorized taking takes => ?_) fun _ authorized => ?_
  · obtain ⟨step, contracted, -⟩ := takes.atStep
    cases unauthorized.symm.trans contracted.authorized
  rw [bind_assoc_run, bind_view]
  refine outcome_expect_cases (fun missing taking takes => ?_) fun step found => ?_
  · obtain ⟨step, contracted, -⟩ := takes.atStep
    cases missing.symm.trans contracted.found
  refine outcome_ite (fun absent => ?_) fun contract => ?_
  · exact fun taking takes => (takes.contracted found).contract absent
  refine outcome_ofExcept_cases (fun e invalid taking takes => ?_) fun task valid => ?_
  · obtain ⟨task, given⟩ := (takes.contracted found).valid
    cases invalid.symm.trans given
  have contracted : Contracted env s.working runId stepId step := ⟨authorized, found, contract, task, valid⟩
  refine outcome_ite (fun other => ?_) fun _ => ?_
  · exact other.elim (absurd identity.1) (absurd identity.2)
  dsimp only
  rw [bind_view]
  refine outcome_ite (fun waits => ?_) fun fresh => ?_
  · -- A pending step that was given a recovery takes the failure it was given it for.
    have open_ : step.status ≠ .completed ∧ step.status ≠ .awaitingApproval := by simp [waits.1]
    have closed : ∀ task approval, ¬Passes env s.working runId stepId result none true step task approval :=
      fun _ _ passes => passes.fresh waits
    refine outcome_ite (fun other taking takes => ?_) fun same => ?_
    · rcases (takes.knows found open_ closed).1 with ⟨-, -, same⟩ | ⟨broken, -⟩
      · simp [same] at other
      · cases waits.1.symm.trans broken
    · exact remembered_ends contracted (.inl ⟨waits.1, waits.2.2, by simpa using same⟩) open_ closed
  refine outcome_ite (fun done => ?_) fun uncompleted => ?_
  · refine outcome_ite (fun other taking takes => ?_) fun same => ?_
    · simp [takes.again found failed done] at other
    · exact ⟨_, .completed contracted done (by simpa using same), took_same found⟩
  refine outcome_ite (fun broken => ?_) fun unfailed => ?_
  · have open_ : step.status ≠ .completed ∧ step.status ≠ .awaitingApproval := by simp [broken]
    have closed : ∀ task approval, ¬Passes env s.working runId stepId result none true step task approval :=
      fun _ _ passes => passes.unfailed broken
    refine outcome_ite (fun other taking takes => ?_) fun same => ?_
    · rcases (takes.knows found open_ closed).1 with ⟨waits, -⟩ | ⟨-, same⟩
      · cases broken.symm.trans waits
      · unfold reportedFailure at same
        simp [same, failed] at other
    · have same : (sameFailure (((step.output.getD .null).get "failure").orElse
          ((step.output.getD .null).get "last_failure")) (reportedFailure result) ||
          sameFailure ((((s.working.run? runId).bind Run.recoveryState).getD .null).get "last_failure")
            (reportedFailure result)) = true := by
        by_contra different
        exact (not_or.mp same).2 (by rw [Bool.not_eq_true']; exact Bool.eq_false_of_not_eq_true different)
      exact remembered_ends contracted (.inr ⟨broken, same⟩) open_ closed
  have passes : ∀ approval, approval = approvalFor s.working step → _ →
      Passes env s.working runId stepId result none true step task approval :=
    fun _ bound gate => ⟨authorized, found, contract, valid, identity, fresh, uncompleted, unfailed, bound, gate⟩
  rw [bind_view]
  refine outcome_ite (fun waiting => ?_) fun free => accept_ends failed
    (passes _ rfl fun waiting => absurd waiting free)
  cases bound : approvalFor s.working step with
  | none =>
    intro taking takes
    obtain ⟨record, isBound, -⟩ := takes.gated found failed waiting
    cases bound.symm.trans isBound
  | some record =>
    refine outcome_ite (fun pending taking takes => ?_) fun decided => ?_
    · rcases takes.gatedBy found failed waiting bound with ⟨rejected, -⟩ | ⟨unpending, -⟩
      · cases pending.symm.trans rejected
      · exact unpending pending
    refine outcome_ite (fun rejected => rejected_ends failed contracted waiting bound rejected) fun unrejected => ?_
    refine outcome_ite (fun approved => ?_) fun unapproved => ?_
    · unfold existingRun
      rw [bind_assoc_run, bind_view]
      refine outcome_expect_cases (fun missing taking takes => ?_) fun run atRun => ?_
      · rcases takes.gatedBy found failed waiting bound with ⟨rejected, -⟩ | ⟨-, -, current⟩
        · exact unrejected rejected
        · obtain ⟨run, atRun, -⟩ := current approved
          cases missing.symm.trans atRun
      rw [bind_view]
      refine outcome_ite (fun current => ?_) fun outdated => ?_
      · exact accept_ends failed
          (passes _ bound.symm fun _ => ⟨record, rfl, decided, unrejected, fun _ => ⟨run, atRun, current⟩⟩)
      · intro taking takes
        rcases takes.gatedBy found failed waiting bound with ⟨rejected, -⟩ | ⟨-, -, current⟩
        · exact unrejected rejected
        · obtain ⟨other, atOther, isCurrent⟩ := current approved
          cases Option.some.inj (atRun.symm.trans atOther)
          exact outdated isCurrent
    · exact accept_ends failed (passes _ bound.symm fun _ =>
        ⟨record, rfl, decided, unrejected, fun approved => absurd approved unapproved⟩)

end

end SacmRuntime
