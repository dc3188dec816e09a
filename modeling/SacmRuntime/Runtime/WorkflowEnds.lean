import SacmRuntime.Runtime.LocalWorkflow
import SacmRuntime.Runtime.Operations
import SacmRuntime.Runtime.RunEffects

namespace SacmRuntime
open Session RunService Table RecoveryService Tx

theorem Table.find_refresh {ρ : Type} [Keyed ρ] (stored held : Table ρ) (id : String) :
    (stored.refresh held).find id = (held.find id).map fun row => (stored.find id).getD row := by
  unfold refresh
  rw [find_updateWhere]
  cases found : held.find id with
  | none => rfl
  | some row =>
    have key : Keyed.key row = id := find_key found
    simp only [Option.map_some, key]
    cases old : stored.find id with
    | none => simp
    | some row' =>
      have same : Keyed.key row' = Keyed.key row := (find_key old).trans key.symm
      simp [rewriteRow, key, old, same]

/-- The call leaves the run and its steps as they are; the packs it stores
are the ones it declares. -/
structure Call.Quiet {α : Type} (runId : String) (call : Call α) : Prop where
  run : ∀ d, (call.writes d).run? runId = d.run? runId
  steps : ∀ d stepId, (call.writes d).getStep runId stepId = d.getStep runId stepId
  packs : ∀ d, (call.writes d).packs = d.packs

/-- Nobody else modifies the run during the attempt, and `build` stores the
pack it returns. -/
structure Attempt.Quiet (runId : String) (attempt : Attempt) : Prop where
  runTask : attempt.runTask.Quiet runId
  build : attempt.build.Quiet runId
  verify : attempt.verify.Quiet runId
  finalBuild : attempt.finalBuild.Quiet runId
  finalVerify : attempt.finalVerify.Quiet runId
  built : ∀ pack, attempt.build.result = .ok pack → ∃ stored ∈ attempt.build.packs, stored.runId = runId

def Attempt.Done (attempt : Attempt) : Prop :=
  ∃ output, attempt.runTask.result = .ok output ∧ output.field? "status" = some (.str "done")

/-- Evidence can be had and verified, and the run may complete. -/
def Attempt.Delivers (runId : String) (ready : Prop) (packs : List EvidencePack) (attempt : Attempt) : Prop :=
  ((∃ pack ∈ packs, pack.runId = runId) ∨ ∃ pack, attempt.build.result = .ok pack) ∧
    (∃ report, attempt.verify.result = .ok report ∧ report.status ≠ .invalid) ∧ ready

namespace LocalWorkflow

/-- Every attempt whose task is done delivers, given the packs stored by then. -/
def Finishes (runId : String) (ready : Prop) : List EvidencePack → List Attempt → Prop
  | _, [] => True
  | packs, attempt :: rest =>
    (attempt.Done → attempt.Delivers runId ready (packs ++ attempt.runTask.packs)) ∧
      Finishes runId ready (packs ++ attempt.runTask.packs) rest

/-- The run is in a status from which it is ended or can be submitted again. -/
def Over (run : Run) : Prop := run.status = .completed ∨ run.status = .failed ∨ run.status = .cancelled

def Finished (runId : String) (s : Session Db) : Prop := ∃ run, s.committed.run? runId = some run ∧ Over run

/-- The workflow's own step, if an earlier call added it. -/
def ownStep (d : Db) (runId : String) : Option RunStep :=
  d.steps.rows.find? fun step => step.runId == runId && step.idempotencyKey == stepKey runId

/-- The completion check would pass once the workflow's own step is complete
and an evidence pack is there. -/
def Completable (env : Env) (d : Db) (runId : String) : Prop :=
  (∀ step ∈ d.listSteps runId, some step.id ≠ (ownStep d runId).map RunStep.id → step.status = .completed) ∧
    ¬(env.production ∧ env.missingSupplyChain runId ≠ [])

/-- The session between two calls: every view holds the run and its steps
alike, and only the workflow's own step has changed since the start. -/
structure Holds (d : Db) (runId stepId : String) (run : Run) (step : RunStep) (packs : List EvidencePack)
    (s : Session Db) : Prop where
  committed : s.committed.run? runId = some run
  flushed : s.flushed.run? runId = some run
  working : s.working.run? runId = some run
  step : s.working.getStep runId stepId = some step
  steps : ∀ id, s.flushed.getStep runId id = s.working.getStep runId id
  others : ∀ id, id ≠ stepId → s.working.getStep runId id = d.getStep runId id
  packs : s.working.packs = packs

section
variable {env : Env} {d : Db} {runId stepId : String} {run expected : Run} {step : RunStep}
  {packs : List EvidencePack} {s t : Session Db} {β : Type} {P : Except Error β × Session Db → Prop}

theorem Holds.of_clean (clean : s.Clean) (working : s.working.run? runId = some run)
    (own : s.working.getStep runId stepId = some step)
    (others : ∀ id, id ≠ stepId → s.working.getStep runId id = d.getStep runId id) :
    Holds d runId stepId run step s.working.packs s where
  committed := by
    rw [clean.1]
    exact working
  flushed := by
    rw [clean.2]
    exact working
  working := working
  step := own
  steps id := by rw [clean.2]
  others := others
  packs := rfl

theorem Holds.expired (holds : Holds d runId stepId run step packs s) :
    Holds d runId stepId run step packs s.expired := by
  have sameSteps : ∀ id, s.expired.working.getStep runId id = s.working.getStep runId id := by
    intro id
    have alike := holds.steps id
    unfold Db.getStep at alike ⊢
    change Option.filter _ ((s.flushed.steps.refresh s.working.steps).find id) = _
    rw [find_refresh]
    cases held : s.working.steps.find id with
    | none => rfl
    | some row =>
      rw [held] at alike
      cases stored : s.flushed.steps.find id with
      | none => rfl
      | some row' =>
        rw [stored] at alike
        simpa using alike
  have sameRun : s.expired.working.run? runId = some run := by
    have stored := holds.flushed
    have held := holds.working
    unfold Db.run? at stored held ⊢
    change (s.flushed.runs.refresh s.working.runs).find runId = _
    rw [find_refresh, held, stored]
    rfl
  exact ⟨holds.committed, holds.flushed, sameRun, (sameSteps stepId).trans holds.step,
    fun id => (holds.steps id).trans (sameSteps id).symm,
    fun id other => (sameSteps id).trans (holds.others id other), holds.packs⟩

theorem currentRun_run (holds : Holds d runId stepId run step packs s) : currentRun runId s = (.ok run, s) := by
  simp [currentRun, holds.working, expect]

theorem outcome_play {α : Type} {call : Call α} {f : α → Service β} (quiet : call.Quiet runId)
    (holds : Holds d runId stepId run step packs s)
    (raised : ∀ e t, call.result = .error e → Holds d runId stepId run step (packs ++ call.packs) t →
      P (.error e, t))
    (rest : ∀ a t, call.result = .ok a → Holds d runId stepId run step (packs ++ call.packs) t → P (f a t)) :
    P ((call.play >>= f) s) := by
  obtain ⟨t, played, after⟩ : ∃ t, call.play s = (call.result, t) ∧
      Holds d runId stepId run step (packs ++ call.packs) t := by
    let e : Db := { call.writes s.working with packs := (call.writes s.working).packs ++ call.packs }
    have working : e.run? runId = some run := (quiet.run s.working).trans holds.working
    have sameSteps : ∀ id, e.getStep runId id = s.working.getStep runId id := quiet.steps s.working
    have stored : e.packs = packs ++ call.packs := by
      rw [← holds.packs, ← quiet.packs s.working]
    have own := (sameSteps stepId).trans holds.step
    have others := fun id other => (sameSteps id).trans (holds.others id other)
    unfold Call.play
    cases commits : call.commits with
    | true =>
      refine ⟨{ s with committed := e, flushed := e, working := e }, ?_, ?_⟩
      · cases result : call.result <;> simp [Tx.ofExcept, e]
      · exact ⟨working, working, working, own, fun _ => rfl, others, stored⟩
    | false =>
      refine ⟨{ s with working := e }, ?_, ?_⟩
      · cases result : call.result <;> simp [Tx.ofExcept, e]
      · exact ⟨holds.committed, holds.flushed, working, own,
          fun id => (holds.steps id).trans (sameSteps id).symm, others, stored⟩
  cases result : call.result with
  | ok a =>
    rw [result] at played
    rw [bind_run_ok _ played]
    exact rest a t result after
  | error e =>
    rw [result] at played
    rw [bind_run_error _ played]
    exact raised e t result after

theorem Holds.commits {α : Type} {m : Service α} {u : Session Db} {result : α} {e : Db} {run' : Run} {step' : RunStep}
    (holds : Holds d runId stepId run step packs s) (committed : Commits m u result e)
    (atRun : e.run? runId = some run') (own : e.getStep runId stepId = some step')
    (others : ∀ id, id ≠ stepId → e.getStep runId id = s.working.getStep runId id)
    (samePacks : e.packs = s.working.packs) :
    ∃ t, m u = (.ok result, t) ∧ t.Clean ∧ Holds d runId stepId run' step' packs t := by
  obtain ⟨t, ran, clean, logged⟩ := committed
  have stored : t.working.packs = packs := (logged.packs.trans samePacks).trans holds.packs
  have held : Holds d runId stepId run' step' t.working.packs t := .of_clean clean ((logged.run? runId).trans atRun)
    ((logged.getStep runId stepId).trans own)
    fun id other => ((logged.getStep runId id).trans (others id other)).trans (holds.others id other)
  rw [stored] at held
  exact ⟨t, ran, clean, held⟩

theorem getStep_update_ne {d : Db} {f : RunStep → RunStep} {id : String} (other : id ≠ stepId) :
    Db.getStep { d with steps := d.steps.update stepId f } runId id = d.getStep runId id := by
  unfold Db.getStep
  rw [find_update_ne other]

variable {decision : RecoveryDecisionV1} {f : Run → Service β} {failure result : Json} {report : FailureReportV1}
  {requestedAction : Option RecoveryAction} {rest : List Attempt} {stored : List EvidencePack}

section
variable (holds : Holds d runId stepId run step packs s)
include holds

theorem outcome_transition {status : RunStatus} {eventType actor : String} {payload : Json} {about : Option String}
    (legal : status ∈ allowedTransitions run.status) (open_ : status ≠ .completed)
    (rest : ∀ now t, t.Clean → Holds d runId stepId (run.moveTo status now) step packs t →
      P (f (run.moveTo status now) t)) :
    P ((transition env runId status eventType actor payload about >>= f) s) := by
  obtain ⟨t, ran, clean, after⟩ := holds.commits
    (transition_run env eventType actor payload about holds.working (.inr legal) open_)
    (run?_update (fun _ => rfl) holds.working) holds.step (fun _ _ => rfl) rfl
  rw [bind_run_ok _ ran]
  exact rest _ t clean after

theorem outcome_startStep {f : RunStep → Service β} (raised : ∀ e, P (.error e, s))
    (rest : ∀ step' t, step'.status = .running → Holds d runId stepId run step' packs t → P (f step' t)) :
    P ((startStep env runId stepId >>= f) s) := by
  by_cases running : step.status = .running
  · have ran : startStep env runId stepId s = (.ok step, s) := by
      unfold startStep
      rw [bind_run_ok _ (requireRun_run holds.working), bind_run_ok _ (requireStep_run holds.step),
        if_pos running]
      rfl
    rw [bind_run_ok _ ran]
    exact rest step s running holds
  by_cases pending : step.status = .pending
  · obtain ⟨t, ran, clean, after⟩ := holds.commits (startStep_run env holds.working holds.step pending) holds.working
      (getStep_update (fun _ => rfl) (fun _ => rfl) holds.step) (fun _ other => getStep_update_ne other) rfl
    rw [bind_run_ok _ ran]
    exact rest _ t rfl after
  · obtain ⟨e, ran⟩ : ∃ e, startStep env runId stepId s = (.error e, s) := by
      unfold startStep
      rw [bind_run_ok _ (requireRun_run holds.working), bind_run_ok _ (requireStep_run holds.step),
        if_neg running, if_pos pending]
      exact ⟨_, rfl⟩
    rw [bind_run_error _ ran]
    exact raised e

theorem outcome_completeStep {output : Json} {f : RunStep → Service β} (running : step.status = .running)
    (rest : ∀ step' t, step'.status = .completed → Holds d runId stepId run step' packs t → P (f step' t)) :
    P ((completeStep env runId stepId output >>= f) s) := by
  obtain ⟨t, ran, clean, after⟩ := holds.commits
    (completeStep_run env output holds.working holds.step (.inr (.inl running))) holds.working
    (getStep_update (fun _ => rfl) (fun _ => rfl) holds.step) (fun _ other => getStep_update_ne other) rfl
  rw [bind_run_ok _ ran]
  exact rest _ t rfl after

theorem outcome_failStep {f : RunStep → Service β}
    (rest : ∀ step' t, step'.status = .failed → Holds d runId stepId run step' packs t → P (f step' t)) :
    P ((failStep env runId stepId failure >>= f) s) := by
  obtain ⟨t, ran, clean, after⟩ := holds.commits (failStep_run env failure holds.working holds.step) holds.working
    (getStep_update (fun _ => rfl) (fun _ => rfl) holds.step) (fun _ other => getStep_update_ne other) rfl
  rw [bind_run_ok _ ran]
  exact rest _ t rfl after

theorem outcome_recovery {f : RunStep × FailureReportV1 × RecoveryDecisionV1 → Service β}
    (failed : step.status = .failed) (raised : ∀ e, P (.error e, s))
    (rest : ∀ result report decision after t, decide env run report requestedAction = .ok decision →
      after.status = decision.runStatus → after.cancellationRequested = run.cancellationRequested →
      result.status = (if decision.status = .escalated then .failed else .pending) →
      Holds d runId stepId after result packs t → P (f (result, report, decision) t)) :
    P ((handle env runId stepId failure requestedAction >>= f) s) := by
  refine (handle_ends env _ _ _ holds.working holds.step failed).bind (fun e t ⟨same, _⟩ => same ▸ raised e)
    fun (result, report, decision) t ⟨_, decided, recovered⟩ => ?_
  obtain ⟨after, -, atRun, status, flag, -⟩ := recovered.run
  have stored : t.working.packs = packs := recovered.packs.trans holds.packs
  have held : Holds d runId stepId after result t.working.packs t :=
    .of_clean (recovered.clean rfl) atRun recovered.step
    fun id other => by
      rw [← holds.others id other]
      unfold Db.getStep
      rw [recovered.others id other]
  rw [stored] at held
  exact rest result report decision after t decided status flag recovered.status held

end

/-- Every step other than the own one is complete, and no evidence is missing. -/
def Ready (env : Env) (d : Db) (runId stepId : String) : Prop :=
  (∀ id row, id ≠ stepId → d.getStep runId id = some row → row.status = .completed) ∧
    ¬(env.production ∧ env.missingSupplyChain runId ≠ [])

theorem mem_listSteps {row : RunStep} : row ∈ d.listSteps runId ↔ d.getStep runId row.id = some row := by
  unfold Db.listSteps Db.getStep
  rw [mem_orderBy, List.mem_filter, Option.filter_eq_some_iff, find_eq_some_iff]
  exact ⟨fun ⟨member, ofRun⟩ => ⟨⟨member, rfl⟩, ofRun⟩, fun ⟨⟨member, _⟩, ofRun⟩ => ⟨member, ofRun⟩⟩

/-- The incomplete steps `_validate_completion` finds once the own step is complete. -/
theorem incomplete_eq_nil (holds : Holds d runId stepId run step packs s) (done : step.status = .completed) :
    (s.working.listSteps runId).filter (fun step => decide (step.status ≠ .completed)) = [] ↔
      ∀ id row, id ≠ stepId → d.getStep runId id = some row → row.status = .completed := by
  rw [List.filter_eq_nil_iff]
  constructor
  · intro none_left id row other found
    have here : s.working.getStep runId id = some row := (holds.others id other).trans found
    have key : row.id = id := find_key (getStep_find here).1
    subst key
    simpa using none_left row (mem_listSteps.mpr here)
  · intro complete row member
    have found := mem_listSteps.mp member
    by_cases own : row.id = stepId
    · rw [own, holds.step] at found
      cases found
      simp [done]
    · have before := (holds.others row.id own).symm.trans found
      simp [complete row.id row own before]

/-- The columns `refresh_completeness` writes. -/
def supplied (missing : List String) (run : Run) : Run :=
  { run with supplyChainStatus := if missing = [] then "COMPLETE" else "INCOMPLETE",
             missingSupplyChainEvidence := missing }

section
variable (holds : Holds d runId stepId run step packs s)
include holds

theorem outcome_validateCompletion {f : Unit → Service β} (done : step.status = .completed)
    (raised : ∀ e run' t, ¬((∃ pack ∈ packs, pack.runId = runId) ∧ Ready env d runId stepId) →
      run'.status = run.status → run'.cancellationRequested = run.cancellationRequested →
      Holds d runId stepId run' step packs t → P (.error e, t))
    (rest : ∀ t, (∃ pack ∈ packs, pack.runId = runId) ∧ Ready env d runId stepId →
      Holds d runId stepId (supplied (env.missingSupplyChain runId) run) step packs t → P (f () t)) :
    P ((validateCompletion env run >>= f) s) := by
  have key : run.id = runId := find_key holds.working
  subst key
  have packed : (s.working.packs.filter fun pack => pack.runId == run.id).argmax EvidencePack.createdAt = none ↔
      ¬∃ pack ∈ packs, pack.runId = run.id := by
    rw [List.argmax_eq_none, List.filter_eq_nil_iff, holds.packs]
    simp
  have left := incomplete_eq_nil holds done
  by_cases stored : ∃ pack ∈ packs, pack.runId = run.id
  case neg =>
    have ran : ∃ e, validateCompletion env run s = (.error e, s) := by
      unfold validateCompletion
      rw [bind_view, if_pos (packed.mpr stored)]
      exact ⟨_, rfl⟩
    obtain ⟨e, ran⟩ := ran
    rw [bind_run_error _ ran]
    exact raised e run s (fun both => stored both.1) rfl rfl holds
  have hasPack := packed.not.mpr (not_not.mpr stored)
  by_cases complete : ∀ id row, id ≠ stepId → d.getStep run.id id = some row → row.status = .completed
  case neg =>
    have ran : ∃ e, validateCompletion env run s = (.error e, s) := by
      unfold validateCompletion
      rw [bind_view, if_neg hasPack, bind_view, if_pos (left.not.mpr complete)]
      exact ⟨_, rfl⟩
    obtain ⟨e, ran⟩ := ran
    rw [bind_run_error _ ran]
    exact raised e run s (fun both => complete both.2.1) rfl rfl holds
  let missing := env.missingSupplyChain run.id
  let e : Db := { s.working with runs := s.working.runs.update run.id (supplied missing) }
  have after : Holds d run.id stepId (supplied missing run) step packs
      { s with committed := e, flushed := e, working := e } := by
    have atRun : e.run? run.id = some (supplied missing run) := run?_update (fun _ => rfl) holds.working
    exact ⟨atRun, atRun, atRun, holds.step, fun _ => rfl, holds.others, holds.packs⟩
  have refreshed : refreshCompleteness env run.id s =
      (.ok missing, { s with committed := e, flushed := e, working := e }) := by
    unfold refreshCompleteness
    rw [bind_run_ok _ (requireRun_run holds.working)]
    rfl
  by_cases lacking : env.production ∧ missing ≠ []
  · have ran : ∃ error, validateCompletion env run s =
        (.error error, { s with committed := e, flushed := e, working := e }) := by
      unfold validateCompletion
      rw [bind_view, if_neg hasPack, bind_view, if_neg (not_not.mpr (left.mpr complete)),
        bind_run_ok _ refreshed, if_pos lacking]
      exact ⟨_, rfl⟩
    obtain ⟨error, ran⟩ := ran
    rw [bind_run_error _ ran]
    exact raised error (supplied missing run) _ (fun both => both.2.2 lacking) rfl rfl after
  · have ran : validateCompletion env run s =
        (.ok (), { s with committed := e, flushed := e, working := e }) := by
      unfold validateCompletion
      rw [bind_view, if_neg hasPack, bind_view, if_neg (not_not.mpr (left.mpr complete)),
        bind_run_ok _ refreshed, if_neg lacking]
      rfl
    rw [bind_run_ok _ ran]
    exact rest _ ⟨stored, complete, lacking⟩ after

theorem outcome_complete (delivering : run.status = .delivering) (done : step.status = .completed)
    (raised : ∀ e run' t, ¬((∃ pack ∈ packs, pack.runId = runId) ∧ Ready env d runId stepId) →
      run'.status = .delivering → run'.cancellationRequested = run.cancellationRequested →
      Holds d runId stepId run' step packs t → P (.error e, t))
    (rest : ∀ run' t, (∃ pack ∈ packs, pack.runId = runId) ∧ Ready env d runId stepId → run'.status = .completed →
      run'.cancellationRequested = run.cancellationRequested → Holds d runId stepId run' step packs t → P
    (f run' t)) :
    P ((transition env runId .completed "RunCompleted" "system" (.obj []) (some stepId) >>= f) s) := by
  have legal : ¬(RunStatus.completed ≠ run.status ∧ .completed ∉ allowedTransitions run.status) := by
    simp [delivering, allowedTransitions]
  -- The outcome of the transition alone decides which of the two premises applies.
  have ends : Yields
      (fun _ t => ∃ run', ¬((∃ pack ∈ packs, pack.runId = runId) ∧ Ready env d runId stepId) ∧
        run'.status = .delivering ∧ run'.cancellationRequested = run.cancellationRequested ∧
        Holds d runId stepId run' step packs t)
      (fun run' t => ((∃ pack ∈ packs, pack.runId = runId) ∧ Ready env d runId stepId) ∧
        run'.status = .completed ∧ run'.cancellationRequested = run.cancellationRequested ∧
        Holds d runId stepId run' step packs t)
      (transition env runId .completed "RunCompleted" "system" (.obj []) (some stepId) s) := by
    unfold transition
    rw [bind_run_ok _ (requireRun_run holds.working), if_neg legal, if_pos rfl]
    refine outcome_validateCompletion holds done ?_ fun t both after => ?_
    · exact fun e run' t stuck status flag held => ⟨run', stuck, status.trans delivering, flag, held⟩
    · simp only [bind_utcnow, updateRun, bind_modify]
      let u : Session Db :=
        { t with clock := fun n => t.clock (n + 1)
                 working := { t.working with
                   runs := t.working.runs.update runId fun run => run.moveTo .completed (t.clock 0) } }
      have moved : u.working.run? runId = some _ := run?_update (fun _ => rfl) after.working
      obtain ⟨last, ran, -, held⟩ := after.commits (closing_commits (s := u) (find_key holds.working) moved
        fun later logged => requireRun_run ((logged.run? runId).trans moved)) moved after.step (fun _ _ => rfl) rfl
      exact (congrArg (Yields _ _) ran).mpr ⟨both, rfl, rfl, held⟩
  refine ends.bind (fun e t failed => ?_) fun run' t completed => ?_
  · obtain ⟨run', stuck, status, flag, held⟩ := failed
    exact raised e run' t stuck status flag held
  · obtain ⟨both, status, flag, held⟩ := completed
    exact rest run' t both status flag held

theorem Holds.finished_iff : Finished runId s ↔ Over run := by
  constructor
  · rintro ⟨row, found, ended⟩
    rw [holds.committed] at found
    cases found
    exact ended
  · exact fun ended => ⟨run, holds.committed, ended⟩

end

/-- How the `try` block ends. It returns with the run ended; or it raises
before it changed the run, or with the step closed and the run moved on. -/
def Tried (d : Db) (runId stepId : String) (expected : Run) (packs : List EvidencePack) (done good : Prop) :
    Except Error Json × Session Db → Prop
  | (.ok _, t) => Finished runId t ∧ good
  | (.error _, t) => ∃ run step stored, Holds d runId stepId run step stored t ∧
      run.cancellationRequested = false ∧
      (run = expected ∧ stored = packs ∧ ¬done ∨
        run.status ≠ .implementing ∧ (step.status = .completed ∨ step.status = .failed) ∧ (Over run ↔ good))

theorem refreshAnalytics_run (env : Env) (holds : Holds d runId stepId run step packs s) :
    ∃ error t, ExternalAgentService.refreshAnalytics env runId s = (.ok error, t) ∧
      t.committed.run? runId = some run := by
  unfold ExternalAgentService.refreshAnalytics
  rw [bind_view]
  split
  · exact ⟨_, _, rfl, holds.committed⟩
  · exact ⟨_, _, rfl, holds.working⟩

variable {attempt : Attempt} {output : Json}

theorem tried_delivering {done good : Prop} (e : Error) (holds : Holds d runId stepId run step stored t)
    (delivering : run.status = .delivering) (open_ : run.cancellationRequested = false)
    (completed : step.status = .completed) (fails : ¬good) :
    Tried d runId stepId expected packs done good (.error e, t) := by
  refine ⟨run, step, stored, holds, open_, .inr ⟨by simp [delivering], .inl completed, ?_⟩⟩
  exact iff_of_false (by simp [Over, delivering]) fails

theorem tried_completed {done good : Prop} (e : Error) (holds : Holds d runId stepId run step stored t)
    (ended : run.status = .completed) (open_ : run.cancellationRequested = false)
    (completed : step.status = .completed) (succeeds : good) :
    Tried d runId stepId expected packs done good (.error e, t) := by
  refine ⟨run, step, stored, holds, open_, .inr ⟨by simp [ended], .inl completed, ?_⟩⟩
  exact iff_of_true (.inl ended) succeeds

/-- With the evidence at hand, the run completes exactly if its verification
and the completion check pass. -/
theorem completeRun_ends (quiet : attempt.Quiet runId) (holds : Holds d runId stepId run step stored s)
    (delivering : run.status = .delivering) (open_ : run.cancellationRequested = false)
    (completed : step.status = .completed) (packed : ∃ pack ∈ stored, pack.runId = runId) {done good : Prop}
    (exactly : good ↔ (∃ report, attempt.verify.result = .ok report ∧ report.status ≠ .invalid) ∧
      Ready env d runId stepId) :
    Tried d runId stepId expected packs done good (completeRun env runId stepId attempt output s) := by
  let P := Tried d runId stepId expected packs done good
  unfold completeRun
  refine outcome_play (P := P) quiet.verify holds ?_ fun report s1 verified holds1 => ?_
  · intro e t raised held
    refine tried_delivering e held delivering open_ completed fun succeeds => ?_
    obtain ⟨report, verified, -⟩ := (exactly.mp succeeds).1
    simp [raised] at verified
  refine outcome_ite (P := P) (fun invalid => ?_) fun valid => ?_
  · refine tried_delivering _ holds1 delivering open_ completed fun succeeds => ?_
    obtain ⟨other, same, notInvalid⟩ := (exactly.mp succeeds).1
    rw [verified] at same
    cases same
    exact notInvalid invalid
  have packed1 : ∃ pack ∈ stored ++ attempt.verify.packs, pack.runId = runId := by
    obtain ⟨pack, member, ofRun⟩ := packed
    exact ⟨pack, List.mem_append_left _ member, ofRun⟩
  refine outcome_complete (P := P) holds1 delivering completed ?_ fun run2 s2 both status2 flag2 holds2 => ?_
  · intro e run' t stuck status flag held
    refine tried_delivering e held status (flag.trans open_) completed fun succeeds => ?_
    exact stuck ⟨packed1, (exactly.mp succeeds).2⟩
  have succeeds : good := exactly.mpr ⟨⟨report, verified, valid⟩, both.2⟩
  have open2 := flag2.trans open_
  refine outcome_play (P := P) quiet.finalBuild holds2 ?_ fun pack s3 _ holds3 => ?_
  · exact fun e t _ held => tried_completed e held status2 open2 completed succeeds
  refine outcome_play (P := P) quiet.finalVerify holds3 ?_ fun final s4 _ holds4 => ?_
  · exact fun e t _ held => tried_completed e held status2 open2 completed succeeds
  refine outcome_ite (P := P) (fun _ => ?_) fun _ => ?_
  · exact tried_completed _ holds4 status2 open2 completed succeeds
  · obtain ⟨error, t, refreshed, atRun⟩ := refreshAnalytics_run env holds4
    rw [bind_run_ok _ refreshed]
    exact ⟨⟨run2, atRun, .inl status2⟩, succeeds⟩

theorem newestPack_isSome {d : Db} : (newestPack d runId).isSome ↔ ∃ pack ∈ d.packs, pack.runId = runId := by
  unfold newestPack
  rw [Option.isSome_iff_ne_none, ne_eq, List.argmax_eq_none, List.filter_eq_nil_iff]
  simp

/-- From `complete_step` on the run is ended exactly if the attempt delivers. -/
theorem deliver_ends (quiet : attempt.Quiet runId) (holds : Holds d runId stepId expected step packs s)
    (implementing : expected.status = .implementing) (open_ : expected.cancellationRequested = false)
    (running : step.status = .running) {done good : Prop}
    (exactly : good ↔ attempt.Delivers runId (Ready env d runId stepId) packs) :
    Tried d runId stepId expected packs done good (deliver env runId stepId attempt output s) := by
  let P := Tried d runId stepId expected packs done good
  unfold deliver
  refine outcome_completeStep (P := P) holds running fun step1 s1 completed holds1 => ?_
  refine outcome_transition (P := P) holds1 (by simp [implementing, allowedTransitions]) (by simp)
    fun now2 s2 _ holds2 => ?_
  refine outcome_transition (P := P) holds2 (by simp [Run.moveTo, allowedTransitions]) (by simp)
    fun now3 s3 _ holds3 => ?_
  refine outcome_transition (P := P) holds3 (by simp [Run.moveTo, allowedTransitions]) (by simp)
    fun now4 s4 clean4 holds4 => ?_
  rw [bind_run_ok _ (read_run _ _)]
  have found : (newestPack s4.flushed runId).isSome ↔ ∃ pack ∈ packs, pack.runId = runId := by
    rw [newestPack_isSome, clean4.2, holds4.packs]
  refine outcome_ite (P := P) (fun stored => ?_) fun missing => ?_
  · refine completeRun_ends quiet holds4 rfl open_ completed (found.mp stored) ?_
    rw [exactly]
    exact ⟨And.right, fun rest => ⟨.inl (found.mp stored), rest⟩⟩
  have none_stored := found.not.mp missing
  refine outcome_play (P := P) quiet.build holds4 ?_ fun pack s5 built holds5 => ?_
  · intro e t raised held
    refine tried_delivering e held rfl open_ completed fun succeeds => ?_
    rcases (exactly.mp succeeds).1 with stored | ⟨pack, built⟩
    · exact none_stored stored
    · simp [raised] at built
  obtain ⟨stored, member, ofRun⟩ := quiet.built pack built
  refine completeRun_ends quiet holds5 rfl open_ completed ⟨stored, List.mem_append_right _ member, ofRun⟩ ?_
  rw [exactly]
  exact ⟨And.right, fun rest => ⟨.inr ⟨pack, built⟩, rest⟩⟩

theorem decide_escalate (decides : decide env run report (some .escalate) = .ok decision) :
    decision.status = .escalated := by
  have decided := decided_of_decide decides
  rw [decided.status, decided.action]
  simp

theorem decide_scheduled (decides : decide env run report requestedAction = .ok decision)
    (scheduled : decision.status ≠ .escalated) :
    decision.runStatus = .planning ∨ decision.runStatus = .fixing ∨ decision.runStatus = .implementing := by
  have decided := decided_of_decide decides
  have status := decided.status
  unfold RecoveryDecisionV1.runStatus
  rw [if_neg scheduled, decided.target]
  cases action : decision.action with
  | escalate => exact absurd (by simpa [action] using status) scheduled
  | _ => simp [targetByAction]

theorem escalate_ends {recovery : Json} (holds : Holds d runId stepId expected step packs s)
    (open_ : expected.cancellationRequested = false) {done good : Prop} (unfinished : ¬done) (succeeds : good) :
    Tried d runId stepId expected packs done good (escalate env runId stepId recovery s) := by
  let P := Tried d runId stepId expected packs done good
  unfold escalate
  refine outcome_failStep (P := P) holds fun step1 s1 failed holds1 => ?_
  refine outcome_recovery (P := P) holds1 failed (fun e => ?_)
    fun result report decision after t decided status flag closed held => ?_
  · exact ⟨expected, step1, packs, holds1, open_, .inl ⟨rfl, rfl, unfinished⟩⟩
  have escalated : decision.status = .escalated := decide_escalate decided
  have ended : after.status = .failed := by simp [status, RecoveryDecisionV1.runStatus, escalated]
  refine outcome_expect (P := P) ?_ fun message _ => ?_
  · refine ⟨after, result, packs, held, flag.trans open_, .inr ⟨by simp [ended], .inr ?_, ?_⟩⟩
    · simp [closed, escalated]
    · exact iff_of_true (.inr (.inl ended)) succeeds
  · exact ⟨⟨after, held.committed, .inr (.inl ended)⟩, succeeds⟩

/-- How the `try` block ends, with the packs the task stored. -/
theorem tryAttempt_ends (env : Env) (quiet : attempt.Quiet runId) (holds : Holds d runId stepId expected step packs s)
    (implementing : expected.status = .implementing) (open_ : expected.cancellationRequested = false)
    (running : step.status = .running) :
    Tried d runId stepId expected (packs ++ attempt.runTask.packs) attempt.Done
      (attempt.Done → attempt.Delivers runId (Ready env d runId stepId) (packs ++ attempt.runTask.packs))
      (tryAttempt env runId stepId expected attempt s) := by
  let good := attempt.Done → attempt.Delivers runId (Ready env d runId stepId) (packs ++ attempt.runTask.packs)
  let P := Tried d runId stepId expected (packs ++ attempt.runTask.packs) attempt.Done good
  unfold tryAttempt
  refine outcome_play (P := P) quiet.runTask holds ?_ fun output s1 returned holds1 => ?_
  · intro e t raised held
    refine ⟨expected, step, _, held, open_, .inl ⟨rfl, rfl, ?_⟩⟩
    rintro ⟨output, returned, -⟩
    simp [raised] at returned
  have holds2 := holds1.expired
  have notCancelled : ¬(expected.cancellationRequested = true ∨ expected.status = .cancelled) := by
    simp [open_, implementing]
  have same : ¬changed expected expected = true := by simp [changed]
  rw [expireAll, bind_run_ok _ (shift_run _ _), bind_run_ok _ (currentRun_run holds2), if_neg notCancelled,
    if_neg same]
  have before : ∀ e, ¬attempt.Done → P (.error e, s1.expired) := fun e unfinished =>
    ⟨expected, step, _, holds2, open_, .inl ⟨rfl, rfl, unfinished⟩⟩
  have done_iff : attempt.Done ↔ output.field? "status" = some (.str "done") := by
    constructor
    · rintro ⟨other, same, done⟩
      rw [returned] at same
      cases same
      exact done
    · exact fun done => ⟨output, returned, done⟩
  cases named : output.field? "status" with
  | none => exact before _ (by simp [done_iff, named])
  | some status =>
  rw [bind_expect_some]
  by_cases done : status = .str "done"
  · have finished : attempt.Done := done_iff.mpr (by rw [named, done])
    rw [if_neg (not_not.mpr done)]
    refine deliver_ends quiet holds2 implementing open_ running ?_
    exact ⟨fun delivers => delivers finished, fun delivers _ => delivers⟩
  · have unfinished : ¬attempt.Done := by
      rw [done_iff, named]
      exact fun same => done (Option.some.inj same)
    rw [if_pos done]
    refine outcome_ite (P := P) (fun _ => ?_) fun _ => before _ unfinished
    exact escalate_ends holds2 open_ unfinished fun finished => absurd finished unfinished

structure AtHead (d : Db) (runId stepId : String) (step : RunStep) (packs : List EvidencePack) (s : Session Db) :
    Prop where
  own : step.id = stepId
  holds : ∃ run, Holds d runId stepId run step packs s ∧ run.cancellationRequested = false ∧
    (run.status = .planning ∨ run.status = .fixing ∨ run.status = .implementing)

/-- How a round ends: with a result, or at the head of the next round. -/
def Round (d : Db) (runId stepId : String) (packs : List EvidencePack) (done good : Prop) :
    Except Error (Json ⊕ RunStep) × Session Db → Prop
  | (.ok (.inl _), t) => Finished runId t ↔ good
  | (.ok (.inr next), t) => ¬done ∧ AtHead d runId stepId next packs t
  | (.error _, _) => True

/-- What the handler makes of the two ways the `try` block raises. -/
theorem onException_ends {done good : Prop} {e : Error} (implementing : expected.status = .implementing)
    (vacuous : ¬done → good) (tried : Tried d runId stepId expected packs done good (.error e, s)) :
    Round d runId stepId packs done good (onException env runId stepId expected e s) := by
  let P := Round d runId stepId packs done good
  obtain ⟨run, step, stored, holds, open_, how⟩ := tried
  have holds1 := holds.expired
  unfold onException
  rw [expireAll, bind_run_ok _ (shift_run _ _), bind_run_ok _ (currentRun_run holds1)]
  rcases how with ⟨rfl, rfl, unfinished⟩ | ⟨moved, closed, exactly⟩
  · have notCancelled : ¬(run.cancellationRequested = true ∨ run.status = .cancelled) := by
      simp [open_, implementing]
    have same : ¬changed run run = true := by simp [changed]
    rw [if_neg notCancelled, if_neg same]
    refine outcome_failStep (P := P) holds1 fun step1 s1 failed holds2 => ?_
    refine outcome_recovery (P := P) holds2 failed (fun _ => trivial)
      fun result report decision after t decided status flag left held => ?_
    refine outcome_ite (P := P) (fun escalated => ?_) fun scheduled => ?_
    · have ended : Over after := .inr (.inl (by simp [status, RecoveryDecisionV1.runStatus, escalated]))
      exact iff_of_true (held.finished_iff.mpr ended) (vacuous unfinished)
    · refine ⟨unfinished, find_key (getStep_find held.step).1, after, held, flag.trans open_, ?_⟩
      rw [status]
      exact decide_scheduled decided scheduled
  · have stale : changed expected run = true := by simp [changed, implementing, moved]
    have kept : ∀ reason cancelled, interruptStep env runId stepId reason cancelled s.expired =
        (.ok step, s.expired) := fun reason cancelled =>
      interruptStep_run env reason cancelled holds1.working holds1.step (by tauto)
    have ends : Finished runId s.expired ↔ good := holds1.finished_iff.trans exactly
    refine outcome_ite (P := P) (fun _ => ?_) fun _ => ?_
    · rw [bind_run_ok _ (kept _ _)]
      exact ends
    · rw [if_pos stale, bind_run_ok _ (kept _ _)]
      exact ends

theorem outcome_beginAttempt (holds : Holds d runId stepId run step packs s)
    (open_ : run.cancellationRequested = false)
    (resumable : run.status = .planning ∨ run.status = .fixing ∨ run.status = .implementing)
    (raised : ∀ e t, P (.error e, t))
    (rest : ∀ expected step t, expected.status = .implementing → expected.cancellationRequested = false →
      step.status = .running → Holds d runId stepId expected step packs t → P (f expected t)) :
    P ((beginAttempt env runId stepId >>= f) s) := by
  let Q := Yields (fun (_ : Error) (_ : Session Db) => True) fun (expected : Run) t => ∃ step,
    expected.status = .implementing ∧ expected.cancellationRequested = false ∧ step.status = .running ∧
      Holds d runId stepId expected step packs t
  have begins : Q (beginAttempt env runId stepId s) := by
    unfold beginAttempt
    refine outcome_startStep (P := Q) holds (fun e => trivial) fun step1 s1 running holds1 => ?_
    rw [bind_run_ok _ (currentRun_run holds1)]
    have reread : ∀ (run : Run) (t : Session Db), run.status = .implementing → run.cancellationRequested = false →
        Holds d runId stepId run step1 packs t → Q ((expireAll >>= fun _ => currentRun runId) t) := by
      intro run t implementing flag held
      rw [expireAll, bind_run_ok _ (shift_run _ _), currentRun_run held.expired]
      exact ⟨step1, implementing, flag, running, held.expired⟩
    by_cases implementing : run.status = .implementing
    · rw [if_neg (not_not.mpr implementing)]
      exact reread run s1 implementing open_ holds1
    · have legal : RunStatus.implementing ∈ allowedTransitions run.status := by
        rcases resumable with status | status | status <;> simp_all [allowedTransitions]
      rw [if_pos implementing]
      refine outcome_transition (P := Q) holds1 legal (by simp) fun now s2 _ holds2 => ?_
      exact reread (run.moveTo .implementing now) s2 rfl open_ holds2
  exact begins.bind (fun e t _ => raised e t)
    fun expected t ⟨step, implementing, flag, running, held⟩ => rest expected step t implementing flag running held

theorem tryStep_ends (env : Env) (quiet : attempt.Quiet runId) (head : AtHead d runId stepId step packs s) :
    Round d runId stepId (packs ++ attempt.runTask.packs) attempt.Done
      (attempt.Done → attempt.Delivers runId (Ready env d runId stepId) (packs ++ attempt.runTask.packs))
      (tryStep env runId step attempt s) := by
  let P := Round d runId stepId (packs ++ attempt.runTask.packs) attempt.Done
    (attempt.Done → attempt.Delivers runId (Ready env d runId stepId) (packs ++ attempt.runTask.packs))
  obtain ⟨rfl, run, holds, open_, resumable⟩ := head
  unfold tryStep
  refine outcome_beginAttempt (P := P) holds open_ resumable (fun _ _ => trivial)
    fun expected step1 t implementing open1 running held => ?_
  have tried := tryAttempt_ends env quiet held implementing open1 running
  unfold catchRaise
  rw [bind_run]
  rcases ran : tryAttempt env runId step.id expected attempt t with ⟨result, u⟩
  rw [ran] at tried
  cases result with
  | ok value => exact iff_of_true tried.1 tried.2
  | error e => exact onException_ends implementing (fun unfinished done => absurd done unfinished) tried

theorem recoverFailed_ends (env : Env) (head : AtHead d runId stepId step packs s) :
    Round d runId stepId packs False True (recoverFailed env runId step s) := by
  let P := Round d runId stepId packs False True
  obtain ⟨rfl, run, holds, open_, resumable⟩ := head
  unfold recoverFailed
  refine outcome_ite (P := P) (fun failed => ?_) fun _ => ?_
  · refine outcome_recovery (P := P) holds failed (fun _ => trivial)
      fun result report decision after t decided status flag left held => ?_
    refine outcome_ite (P := P) (fun escalated => ?_) fun scheduled => ?_
    · refine outcome_expect (P := P) trivial fun message _ => ?_
      have ended : Over after := .inr (.inl (by simp [status, RecoveryDecisionV1.runStatus, escalated]))
      exact iff_of_true (held.finished_iff.mpr ended) trivial
    · refine ⟨id, find_key (getStep_find held.step).1, after, held, flag.trans open_, ?_⟩
      rw [status]
      exact decide_scheduled decided scheduled
  · exact ⟨id, rfl, run, holds, open_, resumable⟩

theorem retryLoop_rest {attempts : List Attempt}
    (returned : retryLoop env runId attempts step s = (.ok (some (result, rest)), t)) :
    rest.length ≤ attempts.length := by
  induction attempts generalizing step s with
  | nil =>
    unfold retryLoop at returned
    obtain ⟨outcome, mid, -, continued⟩ := bind_ok returned
    cases outcome with
    | inl value =>
      cases continued
      exact le_rfl
    | inr next => cases continued
  | cons attempt later ih =>
    unfold retryLoop at returned
    obtain ⟨outcome, mid, -, continued⟩ := bind_ok returned
    cases outcome with
    | inl value =>
      cases continued
      exact le_rfl
    | inr next =>
      obtain ⟨tried, mid, -, last⟩ := bind_ok continued
      rw [List.length_cons]
      cases tried with
      | inl value =>
        cases last
        omega
      | inr again =>
        have shorter := ih last
        omega

theorem retryLoop_ends {made : List Attempt} (quiet : ∀ attempt ∈ made, attempt.Quiet runId)
    (head : AtHead d runId stepId step packs s)
    (returned : retryLoop env runId (made ++ rest) step s = (.ok (some (result, rest)), t)) :
    Finished runId t ↔ Finishes runId (Ready env d runId stepId) packs made := by
  induction made generalizing step packs s with
  | nil =>
    -- Only the recovery at the head returns without an attempt.
    have ends := recoverFailed_ends env head
    rw [List.nil_append] at returned
    cases rest with
    | nil =>
      unfold retryLoop at returned
      obtain ⟨outcome, mid, recovered, continued⟩ := bind_ok returned
      rw [recovered] at ends
      cases outcome with
      | inl value =>
        cases continued
        exact ends
      | inr next => cases continued
    | cons attempt later =>
      unfold retryLoop at returned
      obtain ⟨outcome, mid, recovered, continued⟩ := bind_ok returned
      rw [recovered] at ends
      cases outcome with
      | inl value =>
        cases continued
        exact ends
      | inr next =>
        obtain ⟨tried, mid, -, last⟩ := bind_ok continued
        have shorter : (attempt :: later).length ≤ later.length := by
          cases tried with
          | inl value =>
            injection last with same
            have := congrArg List.length (Prod.mk.inj (Option.some.inj (Except.ok.inj same))).2
            exact this.ge
          | inr again => exact retryLoop_rest last
        simp at shorter
  | cons attempt later ih =>
    rw [List.cons_append] at returned
    unfold retryLoop at returned
    obtain ⟨outcome, mid, recovered, continued⟩ := bind_ok returned
    have ends := recoverFailed_ends env head
    rw [recovered] at ends
    cases outcome with
    | inl value =>
      injection continued with same
      have lengths := congrArg List.length (Prod.mk.inj (Option.some.inj (Except.ok.inj same))).2
      simp at lengths
      omega
    | inr next =>
      obtain ⟨tried, mid, ran, last⟩ := bind_ok continued
      have round := tryStep_ends env (quiet attempt (by simp)) ends.2
      rw [ran] at round
      cases tried with
      | inl value =>
        injection last with same finished
        have none_left : later = [] := by
          have lengths := congrArg List.length (Prod.mk.inj (Option.some.inj (Except.ok.inj same))).2
          simpa using lengths
        subst none_left
        rw [← finished]
        exact round.trans (by simp [Finishes])
      | inr again =>
        have loop := ih (fun other member => quiet other (by simp [member])) round.2 last
        simp only [Finishes, loop, round.1, false_implies, true_and]

/-- The rest after the guards of `execute`. -/
theorem outcome_startRun {supply : Supply} (raised : ∀ e t, P (.error e, t))
    (rest : ∀ run t, t.Clean → t.working.run? runId = some run → run.cancellationRequested = false →
      (run.status = .planning ∨ run.status = .fixing ∨ run.status = .implementing) → t.working.steps = d.steps →
      t.working.packs = d.packs → P (f run t)) :
    P ((startRun env runId >>= f) (start d supply)) := by
  let Q := Yields (fun (_ : Error) (_ : Session Db) => True) fun (run : Run) t => t.Clean ∧
    t.working.run? runId = some run ∧ run.cancellationRequested = false ∧
    (run.status = .planning ∨ run.status = .fixing ∨ run.status = .implementing) ∧
    t.working.steps = d.steps ∧ t.working.packs = d.packs
  have starts : Q (startRun env runId (start d supply)) := by
    unfold startRun
    cases found : d.run? runId with
    | none =>
      rw [bind_run_error _ (requireRun_absent (s := start d supply) found)]
      trivial
    | some run =>
      have atRun : (start d supply).working.run? runId = some run := found
      rw [bind_run_ok _ (requireRun_run atRun)]
      refine outcome_ite (P := Q) (fun _ => trivial) fun notCancelled => ?_
      have open_ : run.cancellationRequested = false := by
        simpa using fun flag => notCancelled (.inl flag)
      have moves : ∀ eventType actor, RunStatus.planning ∈ allowedTransitions run.status →
          Q (transition env runId .planning eventType actor (.obj []) none (start d supply)) := by
        intro eventType actor legal
        obtain ⟨t, ran, clean, logged⟩ :=
          transition_run env eventType actor (.obj []) none atRun (.inr legal) (by simp)
        rw [ran]
        have moved := (logged.run? runId).trans (run?_update (fun _ => rfl) atRun)
        exact ⟨clean, moved, open_, .inl rfl, logged.steps, logged.packs⟩
      refine outcome_ite (P := Q) (fun created => ?_) fun _ => ?_
      · exact moves _ _ (by simp [created, allowedTransitions])
      refine outcome_ite (P := Q) (fun failed => ?_) fun _ => ?_
      · unfold resume
        rw [bind_run_ok _ (requireRun_run atRun), if_neg (not_not.mpr failed)]
        exact moves _ _ (by simp [failed, allowedTransitions])
      refine outcome_ite (P := Q) (fun _ => trivial) fun resumable => ?_
      exact ⟨⟨rfl, rfl⟩, atRun, open_, by tauto, rfl, rfl⟩
  exact starts.bind (fun e t _ => raised e t)
    fun run t ⟨clean, found, open_, resumable, steps, packs⟩ => rest run t clean found open_ resumable steps packs

end

section
variable {env : Env} {d : Db} {runId : String}

theorem completable_iff : Completable env d runId ↔
    (∀ id row, some id ≠ (ownStep d runId).map RunStep.id → d.getStep runId id = some row → row.status = .completed) ∧
      ¬(env.production ∧ env.missingSupplyChain runId ≠ []) := by
  unfold Completable
  refine and_congr_left fun _ => ⟨fun complete id row other found => ?_, fun complete step member other => ?_⟩
  · have key : row.id = id := find_key (getStep_find found).1
    subst key
    exact complete row (mem_listSteps.mpr found) other
  · exact complete step.id step other (mem_listSteps.mp member)

/-- The workflow leaves its run ended, exactly if every attempt it made that
ends with the task done also delivers it. -/
theorem execute_finishes_iff {made rest : List Attempt} {supply : Supply} {result : Json} {t : Session Db}
    (quiet : ∀ attempt ∈ made, attempt.Quiet runId)
    (returned : execute env runId (made ++ rest) (start d supply) = (.ok (some (result, rest)), t)) :
    Finished runId t ↔ Finishes runId (Completable env d runId) d.packs made := by
  let P (outcome : Except Error (Option (Json × List Attempt)) × Session Db) : Prop :=
    outcome = (.ok (some (result, rest)), t) →
      (Finished runId t ↔ Finishes runId (Completable env d runId) d.packs made)
  refine (?_ : P (execute env runId (made ++ rest) (start d supply))) returned
  unfold execute
  refine outcome_startRun (P := P) (fun e t raised => by cases raised)
    fun run s clean atRun open_ resumable steps packs => ?_
  have same : ∀ id, s.working.getStep runId id = d.getStep runId id := fun id => by rw [Db.getStep, steps, Db.getStep]
  -- Whatever the own step is, the completion check looks at all the others.
  have loop : ∀ (step : RunStep) (u : Session Db), u.Clean → u.working.run? runId = some run →
      u.working.packs = d.packs → u.working.getStep runId step.id = some step →
      (∀ id, id ≠ step.id → u.working.getStep runId id = d.getStep runId id) →
      (Ready env d runId step.id ↔ Completable env d runId) → P (retryLoop env runId (made ++ rest) step u) := by
    intro step u clean atRun packs own others ready finished
    have held := Holds.of_clean clean atRun own others
    rw [packs] at held
    rw [← ready]
    exact retryLoop_ends quiet ⟨rfl, run, held, open_, resumable⟩ finished
  refine outcome_addStep (P := P) atRun (fun e t _ _ raised => by cases raised) (fun step existing => ?_)
    fun table u absent inserted clean' _ logged' _ _ => ?_
  · have here : s.working.getStep runId step.id = some step := by
      obtain ⟨ofRun, -⟩ : step.runId = runId ∧ step.idempotencyKey = stepKey runId := by
        simpa using List.find?_some existing
      have inTable : s.working.steps.find step.id = some step :=
        Table.find_of_mem (List.mem_of_find?_eq_some existing)
      simp [Db.getStep, inTable, ofRun]
    have own : ownStep d runId = some step := by
      unfold ownStep
      rw [← steps]
      exact existing
    refine loop step s clean atRun packs here (fun id _ => same id) ?_
    rw [completable_iff, own]
    simp only [Ready, Option.map_some, ne_eq, Option.some.injEq]
  · have fresh := (Table.insert?_eq_some inserted).1
    have stepsNow : ∀ id, id ≠ s.uuids 0 → u.working.getStep runId id = d.getStep runId id := by
      intro id other
      rw [logged'.getStep, ← same id]
      unfold Db.getStep
      rw [Table.find_insert? inserted]
      exact congrArg _ (if_neg other)
    have here : u.working.getStep runId (s.uuids 0) =
        some (scheduledStep s.working runId "legacy-orchestrator" (.obj [("task_id", .str run.taskId)]) (stepKey runId)
          (s.uuids 0)) := by
      rw [logged'.getStep]
      unfold Db.getStep
      rw [Table.find_insert? inserted]
      simp [scheduledStep, Keyed.key]
    have own : ownStep d runId = none := by
      unfold ownStep
      rw [← steps]
      exact absent
    have unused : d.getStep runId (s.uuids 0) = none := by
      have free : s.working.steps.find (s.uuids 0) = none := fresh
      rw [← same]
      simp [Db.getStep, free]
    refine loop _ u clean' ((logged'.run? runId).trans atRun) (logged'.packs.trans packs) here stepsNow ?_
    rw [completable_iff, own]
    refine and_congr_left fun _ => ⟨fun complete id row _ found => ?_, fun complete id row _ => ?_⟩
    · refine complete id row ?_ found
      rintro rfl
      exact absurd (unused.symm.trans found) (by simp)
    · exact complete id row (by simp)

end

section Samples
open Sample

def answers {α : Type} (result : Except Error α) (packs : List EvidencePack := []) : Call α := ⟨result, packs, id, true⟩

theorem answers_quiet {α : Type} (runId : String) (result : Except Error α) (packs : List EvidencePack) :
    (answers result packs).Quiet runId := ⟨fun _ => rfl, fun _ _ => rfl, fun _ => rfl⟩

def pack : EvidencePack := ⟨"p", "r", "", 0⟩

/-- The task is done and the evidence verified with the given status. -/
def verifiedAs (status : VerificationStatus) : Attempt where
  runTask := answers (.ok (.obj [("status", .str "done")]))
  build := answers (.ok pack) [pack]
  verify := answers (.ok ⟨status, []⟩)
  finalBuild := answers (.ok pack)
  finalVerify := answers (.ok ⟨.valid, []⟩)

theorem verifiedAs_quiet (status : VerificationStatus) : (verifiedAs status).Quiet "r" :=
  ⟨answers_quiet _ _ _, answers_quiet _ _ _, answers_quiet _ _ _, answers_quiet _ _ _, answers_quiet _ _ _,
    fun _ _ => ⟨pack, List.mem_singleton_self pack, rfl⟩⟩

def planned : Db := { tasks := .ofRows [task], runs := .ofRows [newRun "r" task .planning 0] }

/-- Invalid evidence strands the run in DELIVERING. -/
theorem invalid_evidence_strands : (verifiedAs .invalid).Quiet "r" ∧
    (∃ returned t, execute env "r" [verifiedAs .invalid] (start planned supply) = (.ok (some returned), t)) ∧
    ¬Finished "r" (execute env "r" [verifiedAs .invalid] (start planned supply)).2 := by
  refine ⟨verifiedAs_quiet .invalid, ⟨_, _, rfl⟩, fun ⟨run, found, ended⟩ => ?_⟩
  have delivering : ((execute env "r" [verifiedAs .invalid] (start planned supply)).2.committed.run? "r").map
      Run.status = some .delivering := rfl
  rw [found] at delivering
  have status : run.status = .delivering := Option.some.inj delivering
  rw [Over, status] at ended
  simp at ended

theorem verified_completes : Finished "r" (execute env "r" [verifiedAs .valid] (start planned supply)).2 := by
  have quiet : ∀ attempt ∈ [verifiedAs .valid], attempt.Quiet "r" := by
    simpa using verifiedAs_quiet .valid
  obtain ⟨result, ran⟩ : ∃ result, execute env "r" ([verifiedAs .valid] ++ []) (start planned supply) =
      (.ok (some (result, [])), (execute env "r" [verifiedAs .valid] (start planned supply)).2) := ⟨_, rfl⟩
  have ready :
    Completable env planned "r" := ⟨fun step member => (by cases member), fun production => nomatch production.1⟩
  exact (execute_finishes_iff quiet ran).mpr
    ⟨fun _ => ⟨.inr ⟨pack, rfl⟩, ⟨⟨.valid, []⟩, rfl, nofun⟩, ready⟩, trivial⟩

end Samples

end LocalWorkflow

end SacmRuntime
