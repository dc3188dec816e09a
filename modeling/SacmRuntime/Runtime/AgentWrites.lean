import SacmRuntime.Runtime.RunWrites

namespace SacmRuntime
open Session ExternalAgentService RunService
open Tx hiding Leaves

/-- The checks of `submit` up to the point where the result is stored. -/
structure Passes (env : Env) (d : Db) (runId stepId : String) (result : AgentResultV1)
    (actorId : Option String) (trustedInternal : Bool) (step : RunStep) (task : AgentTaskV1)
    (approval : Option Approval) : Prop where
  authorized : env.authorizeRun runId actorId trustedInternal = .ok ()
  found : d.getStep runId stepId = some step
  contract : step.input.get "agent_task" ≠ .null
  valid : env.validateTask (step.input.get "agent_task") = .ok task
  identity : result.runId = runId ∧ result.stepId = stepId
  fresh : ¬(step.status = .pending ∧ result.status = .failed ∧ ((step.output.getD .null).get "recovery").truthy)
  uncompleted : step.status ≠ .completed
  unfailed : step.status ≠ .failed
  bound : approval = ExternalAgentService.approvalFor d step
  gate : step.status = .awaitingApproval → ∃ record, approval = some record ∧
    record.status ≠ .pending ∧ record.status ≠ .rejected ∧ (record.status = .approved →
      ∃ run, d.run? runId = some run ∧ ExternalAgentService.approvalIsCurrent d record run.taskId = true)

section
variable {env : Env} {s : Session Db} {runId stepId : String} {result : AgentResultV1}
  {actorId : Option String} {trustedInternal commits : Bool}

theorem outcome_currentRecovery {β : Type} {P : Except Error β × Session Db → Prop} {run : Option Run}
    {f : Option RecoveryDecisionV1 → β} (quiet : ∀ outcome, P (outcome, s)) :
    P ((currentRecovery env run >>= fun recovery => pure (f recovery)) s) := by
  unfold currentRecovery
  dsimp only
  split
  · cases env.validateDecision (((run.bind Run.recoveryState).getD Json.null).get "last_decision") <;>
      exact quiet _
  · exact quiet _

/-- The ways a submission goes: it writes nothing, fails the step for a
rejected approval, supersedes an outdated approval, or is accepted. -/
theorem submit_outcome {P : Except Error ExternalAgentSubmission × Session Db → Prop}
    (quiet : ∀ outcome, P (outcome, s))
    (rejected : ∀ step record failure, s.working.getStep runId stepId = some step →
      step.status = .awaitingApproval → approvalFor s.working step = some record →
      record.status = .rejected →
      P ((failStep env runId stepId failure >>= fun failed =>
        pure { step := failed, approvalId := some record.id }) s))
    (superseded : ∀ step record run message, s.working.getStep runId stepId = some step →
      step.status = .awaitingApproval → approvalFor s.working step = some record →
      record.status = .approved → s.working.run? runId = some run →
      approvalIsCurrent s.working record run.taskId = false →
      P ((updateApproval record.id (fun approval => { approval with status := .superseded }) >>= fun _ =>
        commit >>= fun _ => raise (.valueError message)) s))
    (accepted : ∀ step task approval,
      Passes env s.working runId stepId result actorId trustedInternal step task approval →
      P (accept env runId stepId step task result approval commits s)) :
    P (submit env runId stepId result actorId trustedInternal commits s) := by
  unfold submit existingStep
  refine outcome_ofExcept (fun _ => quiet _) fun _ authorized => ?_
  refine outcome_expect (quiet _) fun step found => ?_
  refine outcome_ite (fun _ => quiet _) fun contract => ?_
  refine outcome_ofExcept (fun _ => quiet _) fun task valid => ?_
  refine outcome_ite (fun _ => quiet _) fun identity => ?_
  refine outcome_ite (fun _ => ?_) fun fresh => ?_
  · exact outcome_ite (fun _ => quiet _) fun _ => outcome_currentRecovery quiet
  refine outcome_ite (fun _ => outcome_ite (fun _ => quiet _) fun _ => quiet _) fun uncompleted => ?_
  refine outcome_ite (fun _ => ?_) fun unfailed => ?_
  · exact outcome_ite (fun _ => quiet _) fun _ => outcome_currentRecovery quiet
  have passes : ∀ approval, approval = approvalFor s.working step → _ →
      Passes env s.working runId stepId result actorId trustedInternal step task approval :=
    fun _ bound gate => ⟨authorized, found, contract, valid, by tauto, fresh, uncompleted, unfailed, bound, gate⟩
  refine outcome_ite (fun waiting => ?_) fun free => ?_
  · dsimp only
    cases bound : approvalFor s.working step with
    | none => exact quiet _
    | some record =>
      refine outcome_ite (fun _ => quiet _) fun decided => ?_
      refine outcome_ite (fun refused => ?_) fun unrefused => ?_
      · exact rejected step record _ found waiting bound refused
      refine outcome_ite (fun approved => ?_) fun unapproved => ?_
      · unfold existingRun
        refine outcome_expect (quiet _) fun run atRun => ?_
        refine outcome_ite (fun current => ?_) fun outdated => ?_
        · exact accepted step task _ (passes _ bound.symm fun _ =>
            ⟨record, rfl, decided, unrefused, fun _ => ⟨run, atRun, current⟩⟩)
        · exact superseded step record run _ found waiting bound approved atRun (by simpa using outdated)
      · exact accepted step task _ (passes _ bound.symm fun _ =>
          ⟨record, rfl, decided, unrefused, fun approved => absurd approved unapproved⟩)
  · exact accepted step task _ (passes _ rfl fun waiting => absurd waiting free)

end

section
variable {env : Env} {p : Permit} {s : Session Db} {runId stepId : String} {result : AgentResultV1}
  {actorId : Option String} {trustedInternal commits : Bool}

variable {approvalId : String} {step : RunStep} {task : AgentTaskV1}

theorem updateApproval_writes {f : Approval → Approval} :
    Writes env p (updateApproval approvalId f) :=
  fun _ => movesFrom_modify (.other rfl rfl rfl rfl rfl (List.Subset.refl _))

theorem matching_writes {digest : String} {candidates : List Approval} :
    Writes env p (PolicyService.matching env digest candidates) := by
  induction candidates with
  | nil => exact fun _ => movesFrom_pure _
  | cons candidate rest ih =>
    intro s
    unfold PolicyService.matching
    refine movesFrom_ite (fun _ => ih s) fun _ => movesFrom_utcnow fun now clock => ?_
    refine movesFrom_ite (fun _ => ?_) fun _ => movesFrom_pure _
    refine movesFrom_ite (fun _ => ?_) fun _ => ih _
    exact updateApproval_writes.then fun _ _ => movesFrom_commit (ih _)

theorem requestApproval_writes {action : String} {resource : Json} :
    Writes env p (PolicyService.requestApproval env runId action resource) := by
  intro s
  unfold PolicyService.requestApproval
  refine movesFrom_existingRun fun run _ => movesFrom_view (matching_writes.then fun candidate t => ?_)
  cases candidate with
  | some approval => exact movesFrom_pure _
  | none =>
    refine movesFrom_uuid4 fun _ _ => movesFrom_utcnow fun _ _ => movesFrom_utcnow fun _ _ => ?_
    refine movesFrom_view (movesFrom_expect fun table _ => ?_)
    exact movesFrom_write (.other rfl rfl rfl rfl rfl (List.Subset.refl _)) (movesFrom_commit (movesFrom_pure _))

theorem decide_writes {actor reason : String} {approve : Bool} :
    Writes env p (PolicyService.decide env approvalId approve actor reason) := by
  intro s
  unfold PolicyService.decide
  refine movesFrom_view (movesFrom_expect fun approval _ => movesFrom_ofExcept fun _ _ => ?_)
  refine movesFrom_utcnow fun now clock => movesFrom_ite (fun _ => ?_) fun _ => ?_
  · exact updateApproval_writes.then fun _ _ => movesFrom_commit (movesFrom_raise _)
  · refine movesFrom_guard fun _ => movesFrom_utcnow fun _ _ => ?_
    exact updateApproval_writes.then fun _ _ => movesFrom_commit (movesFrom_view (moves_expect _))

theorem saveAgentResult_writes {taskId agentName : String} {artifacts : List Json} :
    Writes env p (saveAgentResult taskId agentName artifacts task result commits) := by
  intro s
  unfold saveAgentResult
  refine movesFrom_uuid4 fun _ _ => movesFrom_utcnow fun _ _ => ?_
  exact movesFrom_write (.other rfl rfl rfl rfl rfl (List.Subset.refl _)) (settle_writes _)

theorem persistResult_writes :
    Writes env p (persistResult step task result commits) := by
  intro s
  unfold persistResult
  refine movesFrom_expect fun _ _ => movesFrom_expect fun _ _ => movesFrom_requireRun fun _ _ => ?_
  exact saveAgentResult_writes _

theorem persistResult_leaves {γ : Type} {h : Db → γ}
    (same : ∀ d contextEvents, h { d with contextEvents := contextEvents } = h d) :
    Leaves h (persistResult step task result commits) := by
  unfold persistResult saveAgentResult settle
  refine leaves_expect.bind fun _ => leaves_expect.bind fun _ => requireRun_leaves.bind fun _ => ?_
  refine leaves_uuid4.bind fun _ => leaves_utcnow.bind fun _ => ?_
  exact Tx.Leaves.bind (leaves_modify fun d => same d _) fun _ => leaves_ite leaves_commit leaves_flush

theorem persistResult_named (stored : (persistResult step task result commits s).1 = .ok ()) :
    (step.input.field? "agent_name").isSome ∧ (step.input.field? "framework").isSome := by
  unfold persistResult at stored
  cases agent : step.input.field? "agent_name" with
  | none =>
    rw [agent] at stored
    cases stored
  | some _ =>
    cases framework : step.input.field? "framework" with
    | none =>
      rw [agent, framework] at stored
      cases stored
    | some _ => simp

theorem refreshAnalytics_writes : Writes env p (refreshAnalytics env runId) := by
  intro s
  unfold refreshAnalytics
  refine movesFrom_view (movesFrom_ite (fun _ => ?_) fun _ => movesFrom_commit (movesFrom_pure _))
  exact moves_rollback.then fun _ _ => movesFrom_pure _

theorem analyticsIf_writes {c : Prop} [Decidable c] {f : Option String → ExternalAgentSubmission} :
    Writes env p (do
      let analyticsError ← if c then refreshAnalytics env runId else pure none
      return f analyticsError) := by
  intro s
  refine movesFrom_ite (fun _ => ?_) fun _ => movesFrom_pure _
  exact refreshAnalytics_writes.then fun _ _ => movesFrom_pure _

theorem accept_writesFrom {approval : Option Approval} (found : s.working.getStep runId stepId = some step)
    (uncompleted : step.status ≠ .completed)
    (allowed : ∀ run report decision, result.status = .failed → (step.input.field? "agent_name").isSome →
      (step.input.field? "framework").isSome → s.working.run? runId = some run → env.diagnose
    ((failureDict result).getD (defaultFailure result)) = .ok report →
      RecoveryService.decide env run report none = .ok decision → p.assign runId decision.runStatus ∧
      p.recover run decision)
    (finishes : result.status = .completed → p.finish stepId) :
    WritesFrom env p (accept env runId stepId step task result approval commits) s := by
  unfold accept
  refine (persistResult_writes s).bind fun _ stored => ?_
  have named := persistResult_named stored
  have steps : (persistResult step task result commits s).2.working.steps = s.working.steps :=
    persistResult_leaves (h := Db.steps) (fun _ _ => rfl) s
  have runs : (persistResult step task result commits s).2.working.runs = s.working.runs :=
    persistResult_leaves (h := Db.runs) (fun _ _ => rfl) s
  generalize (persistResult step task result commits s).2 = t at steps runs
  cases kind : result.status with
  | needsApproval =>
    refine movesFrom_existingRun fun run _ => movesFrom_view (requestApproval_writes.then fun _ _ => ?_)
    exact awaitStepApproval_writes.then fun _ _ => movesFrom_pure _
  | completed => exact (completeStep_writes (finishes kind)).then fun _ _ => analyticsIf_writes _
  | failed =>
    have stillFound : t.working.getStep runId stepId = some step := by
      unfold Db.getStep at found ⊢
      rw [steps, found]
    refine Tx.MovesFrom.bind (failStep_writesFrom fun other atOther done => ?_) fun failed ok => ?_
    · cases Option.some.inj (atOther.symm.trans stillFound)
      exact absurd done uncompleted
    · refine Tx.MovesFrom.bind (handle_writesFrom fun run _ report decision atRun _ _ diagnosed decided => ?_)
        fun _ _ => analyticsIf_writes _
      refine allowed run report decision kind named.1 named.2 ?_ diagnosed decided
      unfold Db.run? at atRun ⊢
      rw [← runs, ← atRun]
      exact congrArg (Table.find · runId) (failStep_leaves_runs t).symm

theorem submit_writesFrom
    (allowed : ∀ step task approval run report decision, result.status = .failed →
      Passes env s.working runId stepId result actorId trustedInternal step task approval →
      (step.input.field? "agent_name").isSome → (step.input.field? "framework").isSome →
      s.working.run? runId = some run →
      env.diagnose ((failureDict result).getD (defaultFailure result)) =
        .ok report → RecoveryService.decide env run report none = .ok decision →
      p.assign runId decision.runStatus ∧ p.recover run decision)
    (finishes : ∀ step task approval, result.status = .completed →
      Passes env s.working runId stepId result actorId trustedInternal step task approval → p.finish stepId) :
    WritesFrom env p (submit env runId stepId result actorId trustedInternal commits) s := by
  refine submit_outcome (P := fun outcome => Relation.ReflTransGen _ s outcome.2) (fun _ => .refl) ?_ ?_ ?_
  · intro step record failure found waiting _ _
    refine Tx.MovesFrom.bind (failStep_writesFrom fun other atOther done => ?_) fun _ _ => movesFrom_pure _
    cases Option.some.inj (atOther.symm.trans found)
    simp [waiting] at done
  · intro step record run message _ _ _ _ _ _
    exact updateApproval_writes.then fun _ _ => movesFrom_commit (movesFrom_raise _)
  · intro step task approval passes
    refine accept_writesFrom passes.found passes.uncompleted (fun run report decision failed agent framework => ?_)
      fun completed => finishes step task approval completed passes
    exact allowed step task approval run report decision failed passes agent framework

/-- The step `add_step` returns is stored. -/
theorem addStep_stored {t : Session Db} {name idempotencyKey : String} {input : Json}
    (added : addStep env runId name input idempotencyKey s = (.ok step, t)) :
    t.working.steps.find step.id = some step := by
  unfold addStep at added
  obtain ⟨run, _, required, added⟩ := bind_ok added
  cases (requireRun_ok required).2
  rw [bind_view] at added
  cases found : s.working.steps.rows.find? fun step => step.runId == runId && step.idempotencyKey == idempotencyKey with
  | some existing =>
    rw [found] at added
    cases added
    exact Table.find_of_mem (List.mem_of_find?_eq_some found)
  | none =>
    rw [found] at added
    simp only [bind_view, bind_uuid4] at added
    obtain ⟨_, inserted, _, added⟩ := bind_ok added
    obtain ⟨_, logged, _, added⟩ := bind_ok added
    obtain ⟨_, checked, _, added⟩ := bind_ok added
    rw [bind_commit] at added
    obtain ⟨found, rfl⟩ := requireStep_ok added
    have stored := (getStep_find found).1
    have key : step.id = s.uuids 0 := Table.find_key stored
    rw [key]
    exact stored

theorem agentSchedule_writesFrom {payload : ExternalAgentStepCreate}
    (allowed : (s.working.steps.rows.find? fun step =>
      step.runId == runId && step.idempotencyKey == payload.idempotencyKey) = none → p.addStep runId) :
    WritesFrom env p (schedule env runId payload actorId trustedInternal) s := by
  unfold schedule
  refine movesFrom_ofExcept fun _ _ => ?_
  refine Tx.MovesFrom.bind (addStep_writesFrom allowed) fun step added => ?_
  refine movesFrom_guard fun asked => movesFrom_ite (fun _ => ?_) fun _ => ?_
  · refine movesFrom_write (.step _ _ fun old found => ⟨rfl, rfl, .inl, .inl, .inl, fun free => ?_⟩) ?_
    · have stored := addStep_stored (Prod.ext added rfl)
      cases Option.some.inj (found.symm.trans stored)
      have unasked := free.2
      have compared : Json.pyEq .null payload.modelDump = false := Json.pyEq_null_obj _
      rw [unasked] at asked
      simp [compared] at asked
    exact movesFrom_commit (movesFrom_requireStep fun _ _ => movesFrom_pure _)
  · exact movesFrom_ofExcept fun _ _ => movesFrom_pure _

end

end SacmRuntime
