import SacmRuntime.Runtime.Writes

namespace SacmRuntime
open Session RunService Table RecoveryService
open Tx hiding Leaves

section
variable {env : Env} {p : Permit} {s t : Session Db} {runId stepId : String}

variable {actor jobId reason : String} {commits : Bool} {decision : RecoveryDecisionV1} {f : Run → Run}
  {failure output : Json} {job : ExecutionJob} {jobs : List ExecutionJob} {live : Table ExecutionJob} {now : Nat}
  {q : ExecutionJob → Bool} {run : Run} {status : RunStatus} {step : RunStep}

theorem settle_writes : Writes env p (settle commits) := by
  intro s
  unfold settle
  split
  · exact moves_commit s
  · exact moves_flush s

theorem recordMetric_writes {metric : String} {details : Json} :
    Writes env p (recordMetric metric runId details) := by
  intro s
  unfold recordMetric
  refine movesFrom_view (movesFrom_write ?_ (moves_commit _))
  exact .other rfl rfl rfl rfl rfl (List.Subset.refl _)

theorem updateRun_writes
    (keeps : ∀ run, (f run).id = run.id ∧ (f run).status = run.status ∧ (f run).recoveries = run.recoveries ∧
      (f run).taskId = run.taskId ∧ (f run).workflowVersion = run.workflowVersion ∧
    (f run).sourceRevision = run.sourceRevision)
    : Writes env p (updateRun runId f) := by
  refine fun _ => movesFrom_modify (.run runId f fun old _ => ?_)
  obtain ⟨id, status, recoveries, identity⟩ := keeps old
  exact ⟨id, .inl status, identity, .inl recoveries⟩

theorem refreshCompleteness_writes : Writes env p (refreshCompleteness env runId) := by
  intro s
  unfold refreshCompleteness
  refine movesFrom_requireRun fun run _ => ?_
  refine (updateRun_writes ?_).then fun _ _ => movesFrom_commit (movesFrom_pure _)
  exact fun _ => ⟨rfl, rfl, rfl, rfl, rfl, rfl⟩

theorem refreshCompleteness_ok {missing : List String}
    (refreshed : refreshCompleteness env runId s = (.ok missing, t)) :
    t.working.steps = s.working.steps ∧ t.working.packs = s.working.packs ∧
      ∀ id old, t.working.runs.find id = some old →
        ∃ before, s.working.runs.find id = some before ∧ old.status = before.status := by
  unfold refreshCompleteness at refreshed
  obtain ⟨run, mid, required, rest⟩ := bind_ok refreshed
  obtain ⟨_, rfl⟩ := requireRun_ok required
  cases rest
  refine ⟨rfl, rfl, fun id old atOld => ?_⟩
  change (mid.working.runs.update run.id _).find id = some old at atOld
  rw [find_update] at atOld
  split at atOld
  · obtain ⟨before, atBefore, rfl⟩ := Option.map_eq_some_iff.mp atOld
    exact ⟨before, atBefore, by rw [rewriteRow_of_keeps rfl]⟩
  · exact ⟨old, atOld, rfl⟩

theorem validateCompletion_writes : Writes env p (validateCompletion env run) := by
  intro s
  unfold validateCompletion
  refine movesFrom_view (movesFrom_guard fun _ => ?_)
  refine movesFrom_view (movesFrom_guard fun _ => ?_)
  refine refreshCompleteness_writes.then fun _ _ => ?_
  exact movesFrom_guard fun _ => movesFrom_pure _

theorem validateCompletion_ok (passed : validateCompletion env run s = (.ok (), t)) :
    Gate t.working run.id ∧ ∀ id old, t.working.runs.find id = some old →
      ∃ before, s.working.runs.find id = some before ∧ old.status = before.status := by
  unfold validateCompletion at passed
  obtain ⟨pack, mid, read, passed⟩ := bind_ok passed
  cases read
  split at passed
  · simp at passed
  rename_i some_pack
  obtain ⟨incomplete, mid, read, passed⟩ := bind_ok passed
  cases read
  split at passed
  · simp at passed
  rename_i all_done
  obtain ⟨missing, mid, refreshed, passed⟩ := bind_ok passed
  have last : mid = t := by
    split at passed
    · simp at passed
    · exact (Prod.ext_iff.mp passed).2
  subst last
  obtain ⟨steps, packs, statuses⟩ := refreshCompleteness_ok refreshed
  refine ⟨⟨?_, ?_⟩, statuses⟩
  · rw [packs]
    obtain ⟨pack, newest⟩ := Option.ne_none_iff_exists'.mp some_pack
    have member := List.argmax_mem newest
    simp only [List.mem_filter, beq_iff_eq] at member
    exact ⟨pack, member.1, member.2⟩
  · rw [steps]
    intro step member ofRun
    by_contra undone
    apply all_done
    refine List.ne_nil_of_mem (a := step) (List.mem_filter.mpr ⟨?_, by simpa using undone⟩)
    simp [Db.listSteps, member, ofRun]

section
variable (initial : run.status = .created ∨ run.status = .planning) (unrecovered : run.recoveries = (none, 0))
include initial unrecovered

theorem insertRun_writes : Writes env p (insertRun run) := by
  intro s
  unfold insertRun
  exact movesFrom_view
    (movesFrom_expect fun runs inserted => movesFrom_modify (.insertRun initial unrecovered inserted))

theorem addRun_writes : Writes env p (addRun env run) := by
  unfold addRun
  exact (insertRun_writes initial unrecovered).bind fun _ => closing_writes moves_requireRun

end

theorem createForTask_writes {task : Task} : Writes env p (createForTask env task) := by
  intro s
  unfold createForTask
  exact movesFrom_uuid4 fun _ _ => movesFrom_utcnow fun _ _ => addRun_writes (.inl rfl) rfl _

theorem create_writes {payload : RunCreate} : Writes env p (create env payload) := by
  intro s
  unfold create
  refine movesFrom_view (movesFrom_uuid4 fun _ _ => movesFrom_view (movesFrom_expect fun tasks _ => ?_))
  refine movesFrom_write (.other rfl rfl rfl rfl rfl (List.Subset.refl _)) ?_
  exact movesFrom_uuid4 fun _ _ => movesFrom_utcnow fun _ _ => addRun_writes (.inl rfl) rfl _

theorem moveTo_write
    (legal : ∀ old, s.working.runs.find runId = some old → status = old.status ∨ status ∈ allowedTransitions old.status)
    (gate : status = .completed → p.complete runId ∧ Gate s.working runId) :
    Write env p s { s.working with runs := s.working.runs.update runId fun run => run.moveTo status now } := by
  refine .run runId _ fun old found => ⟨rfl, ?_, ⟨rfl, rfl, rfl⟩, .inl rfl⟩
  have key : old.id = runId := find_key found
  rcases legal old found with same | listed
  · exact .inl same
  · refine .inr (.inl ⟨listed, fun completes => ?_⟩)
    rw [key]
    exact gate completes

theorem transition_writesFrom {eventType : String} {payload : Json} {stepId : Option String}
    (allowed : status = .completed → p.complete runId) :
    WritesFrom env p (transition env runId status eventType actor payload stepId) s := by
  unfold transition
  refine movesFrom_requireRun fun run found => movesFrom_guard fun legal => ?_
  have legal : status = run.status ∨ status ∈ allowedTransitions run.status := by tauto
  have key : run.id = runId := find_key found
  dsimp only
  refine movesFrom_ite (fun completes => ?_) fun open_ => ?_
  · refine (validateCompletion_writes s).bind fun _ passed => ?_
    obtain ⟨gate, statuses⟩ := validateCompletion_ok (Prod.ext passed rfl)
    refine movesFrom_utcnow fun now clock => movesFrom_write ?_ (closing_writes moves_requireRun _)
    refine moveTo_write (fun old atOld => ?_) fun _ => ⟨allowed completes, key ▸ gate⟩
    obtain ⟨before, atBefore, same⟩ := statuses runId old atOld
    cases Option.some.inj (atBefore.symm.trans found)
    rw [same]
    exact legal
  · refine movesFrom_utcnow fun now clock => movesFrom_write ?_ (closing_writes moves_requireRun _)
    refine moveTo_write (fun old atOld => ?_) fun completes => absurd completes open_
    cases Option.some.inj (atOld.symm.trans found)
    exact legal

theorem updateStep_write {f : RunStep → RunStep} (found : s.working.steps.find stepId = some step)
    (move : StepMove p step (f step)) :
    Write env p s { s.working with steps := s.working.steps.update stepId f } := by
  refine .step stepId f fun old atOld => ?_
  cases Option.some.inj (atOld.symm.trans found)
  exact move

theorem recover_taskless (free : step.Taskless) :
    (RunStep.recover failure decision step).Taskless := by
  obtain ⟨taskless, unasked⟩ := free
  have untouched : recoveryInput step.input failure decision =
      step.input.set "recovery" (.obj [("failure", failure), ("decision", decision.modelDump)]) := by
    simp [recoveryInput, taskless, Json.truthy]
  unfold RunStep.Taskless RunStep.recover
  rw [untouched, Json.get_set_ne (by decide), Json.get_set_ne (by decide)]
  exact ⟨taskless, unasked⟩

section Moves
variable {old new : RunStep}

theorem StepMove.keptOutput (keeps : new.id = old.id ∧ new.runId = old.runId ∧ new.input = old.input)
    (free : old.status ≠ .awaitingApproval ∧ old.status ≠ .completed)
    (unfinished : new.status ≠ .completed) (output : new.output = old.output) : StepMove p old new where
  id := keeps.1
  runId := keeps.2.1
  taskless free := .inl (by rwa [RunStep.Taskless, keeps.2.2])
  settled done := absurd done free.2
  finished done := absurd done unfinished
  unbound names := .inl fun _ _ => output ▸ names free.1 free.2

theorem StepMove.newOutput (keeps : new.id = old.id ∧ new.runId = old.runId) (taskless : old.Taskless → new.Taskless)
    (settled : old.status = .completed → p.unsettle old.runId)
    (unfinished : new.status ≠ .completed)
    (output : (new.output.getD .null).get "sacm_approval_id" = .null) : StepMove p old new where
  id := keeps.1
  runId := keeps.2
  taskless free := .inl (taskless free)
  settled done := .inr (settled done)
  finished done := absurd done unfinished
  unbound _ := .inl fun _ _ => output

theorem StepMove.waiting (keeps : new.id = old.id ∧ new.runId = old.runId ∧ new.input = old.input)
    (unsettled : old.status ≠ .completed) (status : new.status = .awaitingApproval) :
    StepMove p old new where
  id := keeps.1
  runId := keeps.2.1
  taskless free := .inl (by rwa [RunStep.Taskless, keeps.2.2])
  settled done := absurd done unsettled
  finished done := by simp [status] at done
  unbound _ := .inl fun free => absurd status free

end Moves

theorem addStep_writesFrom {name : String} {input : Json} {idempotencyKey : String}
    (allowed : (s.working.steps.rows.find? fun step =>
      step.runId == runId && step.idempotencyKey == idempotencyKey) = none → p.addStep runId) :
    WritesFrom env p (addStep env runId name input idempotencyKey) s := by
  unfold addStep insertStep
  refine movesFrom_requireRun fun run _ => movesFrom_view ?_
  split
  · exact movesFrom_pure _
  · rename_i fresh
    refine movesFrom_view (movesFrom_uuid4 fun _ _ => ?_)
    refine Tx.MovesFrom.bind ?_ fun _ _ => closing_writes moves_requireStep _
    refine movesFrom_view (movesFrom_expect fun steps inserted => movesFrom_modify ?_)
    exact .insertStep (allowed fresh) ⟨rfl, rfl⟩ inserted

theorem startStep_writes : Writes env p (startStep env runId stepId) := by
  intro s
  unfold startStep
  refine movesFrom_requireRun fun run _ => movesFrom_requireStep fun step found => ?_
  refine movesFrom_ite (fun _ => movesFrom_pure _) fun _ => ?_
  refine movesFrom_guard fun pending => ?_
  have pending : step.status = .pending := not_not.mp pending
  refine movesFrom_utcnow fun now clock => movesFrom_write ?_ ?_
  · exact updateStep_write (getStep_find found).1 (.keptOutput ⟨rfl, rfl, rfl⟩ (by simp [pending]) (by simp) rfl)
  · exact appendEvent_writes.then fun _ _ => movesFrom_commit (moves_requireStep _)

theorem completeStep_writes (allowed : p.finish stepId) :
    Writes env p (completeStep env runId stepId output) := by
  intro s
  unfold completeStep
  refine movesFrom_requireRun fun run _ => movesFrom_requireStep fun step found => ?_
  refine movesFrom_ite (fun _ => movesFrom_pure _) fun _ => ?_
  refine movesFrom_guard fun _ => ?_
  refine movesFrom_utcnow fun now clock => movesFrom_write ?_ (closing_writes moves_requireStep _)
  have inTable := (getStep_find found).1
  refine updateStep_write inTable ⟨rfl, rfl, fun _ => .inl rfl, fun _ => .inr (.inl ?_), fun _ => .inl ?_, .inl⟩
  · have key : step.id = stepId := find_key inTable
    exact key ▸ allowed
  · exact fun _ unfinished => absurd rfl unfinished

theorem awaitStepApproval_writes :
    Writes env p (awaitStepApproval env runId stepId output) := by
  intro s
  unfold awaitStepApproval
  refine movesFrom_requireRun fun run _ => movesFrom_requireStep fun step found => ?_
  refine movesFrom_ite (fun waiting => ?_) fun _ => ?_
  · refine movesFrom_write ?_ (closing_writes moves_requireStep _)
    exact updateStep_write (getStep_find found).1 (.waiting ⟨rfl, rfl, rfl⟩ (by simp [waiting]) waiting)
  · refine movesFrom_guard fun startable => ?_
    refine movesFrom_write ?_ (closing_writes moves_requireStep _)
    refine updateStep_write (getStep_find found).1 (.waiting ⟨rfl, rfl, rfl⟩ (fun done => ?_) rfl)
    simp [done] at startable

theorem failStep_writesFrom
    (allowed : ∀ step, s.working.getStep runId stepId = some step → step.status = .completed → p.unsettle runId) :
    WritesFrom env p (failStep env runId stepId failure commits) s := by
  unfold failStep
  refine movesFrom_requireRun fun run _ => movesFrom_requireStep fun step found => ?_
  refine movesFrom_utcnow fun now clock => movesFrom_write ?_ ?_
  · obtain ⟨inTable, ofRun⟩ := getStep_find found
    refine updateStep_write inTable (.newOutput ⟨rfl, rfl⟩ id (fun done => ?_) (by simp) rfl)
    exact ofRun ▸ allowed step found done
  · exact appendEvent_writes.then fun _ _ => checkpoint_writes.then fun _ _ =>
      settle_writes.then fun _ _ => moves_requireStep _

theorem failStep_leaves {γ : Type} {h : Db → γ} (steps : ∀ d steps, h { d with steps := steps } = h d)
    (events : ∀ d event, event.eventType = "StepFailed" → h { d with events := d.events ++ [event] } = h d)
    (snapshots : ∀ d snapshots, h { d with snapshots := snapshots } = h d) :
    Leaves h (failStep env runId stepId failure commits) := by
  unfold failStep settle
  refine requireRun_leaves.bind fun _ => requireStep_leaves.bind fun _ => leaves_utcnow.bind fun _ => ?_
  refine Tx.Leaves.bind (leaves_modify fun d => steps d _) fun _ => (appendEvent_leaves events).bind fun _ => ?_
  refine (checkpoint_leaves snapshots).bind fun _ => ?_
  exact (leaves_ite leaves_commit leaves_flush).bind fun _ => requireStep_leaves

theorem failStep_leaves_runs :
    Leaves Db.runs (failStep env runId stepId failure commits) :=
  failStep_leaves (fun _ _ => rfl) (fun _ _ _ => rfl) fun _ _ => rfl

theorem interruptStep_writes {cancelled : Bool} :
    Writes env p (interruptStep env runId stepId reason cancelled) := by
  intro s
  unfold interruptStep
  refine movesFrom_requireRun fun run _ => movesFrom_requireStep fun step found => ?_
  refine movesFrom_ite (fun _ => movesFrom_pure _) fun open_ => ?_
  refine movesFrom_utcnow fun now clock => movesFrom_write ?_ ?_
  · refine updateStep_write (getStep_find found).1
      (.newOutput ⟨rfl, rfl⟩ id (fun done => absurd (.inl done) open_) ?_ rfl)
    cases cancelled <;> simp
  · exact closing_writes (recordMetric_writes.bind fun _ => moves_requireStep) _

theorem retryStep_writes : Writes env p (retryStep env runId stepId) := by
  intro s
  unfold retryStep
  refine movesFrom_requireRun fun run _ => movesFrom_requireStep fun step found => ?_
  refine movesFrom_guard fun failed => ?_
  have failed : step.status = .failed := not_not.mp failed
  refine movesFrom_write ?_ (closing_writes moves_requireStep _)
  exact updateStep_write (getStep_find found).1 (.keptOutput ⟨rfl, rfl, rfl⟩ (by simp [failed]) (by simp) rfl)

theorem resume_writes : Writes env p (resume env runId) := by
  intro s
  unfold resume
  refine movesFrom_requireRun fun run _ => movesFrom_guard fun _ => ?_
  exact transition_writesFrom (by simp)

theorem revokeForJob_writes : Writes env p (revokeForJob jobId actor reason) := by
  intro s
  unfold revokeForJob
  exact movesFrom_utcnow fun now clock =>
    movesFrom_modify (.other rfl rfl rfl rfl rfl (List.Subset.refl _))

theorem updateJob_write {f : ExecutionJob → ExecutionJob} (found : s.working.jobs.find jobId = some job)
    (move : JobMove env p job (f job)) :
    Write env p s { s.working with jobs := s.working.jobs.update jobId f } := by
  refine .job jobId f fun old atOld => ?_
  cases Option.some.inj (atOld.symm.trans found)
  exact move

theorem sweep_writesFrom {f : ExecutionJob → ExecutionJob}
    (live : ∀ job ∈ jobs, s.working.jobs.find job.id = some job) (distinct : (jobs.map ExecutionJob.id).Nodup)
    (move : ∀ job ∈ jobs, JobMove env p job (f job)) :
    WritesFrom env p (forEach jobs fun job => do
      updateJob job.id f
      revokeForJob job.id actor reason) s := by
  induction jobs generalizing s with
  | nil => exact movesFrom_pure _
  | cons job rest ih =>
    obtain ⟨apart, distinct⟩ := List.nodup_cons.mp distinct
    refine Tx.MovesFrom.bind ?_ fun _ _ => ih ?_ distinct fun other member => move other (by simp [member])
    · refine movesFrom_write (updateJob_write (live job (by simp)) (move job (by simp))) ?_
      exact revokeForJob_writes _
    · intro other member
      have elsewhere : other.id ≠ job.id := fun same => apart (same ▸ List.mem_map_of_mem member)
      change (s.working.jobs.update job.id f).find other.id = some other
      rw [find_update_ne elsewhere]
      exact live other (by simp [member])

/-- The jobs a query returns: live, distinct, and with a stored row that
satisfies the filter. -/
structure Selected (live stored : Table ExecutionJob) (q : ExecutionJob → Bool) (jobs : List ExecutionJob) :
    Prop where
  live : ∀ job ∈ jobs, live.find job.id = some job
  distinct : (jobs.map ExecutionJob.id).Nodup
  matching : ∀ job ∈ jobs, ∃ row, stored.find job.id = some row ∧ q row = true

theorem selected_filterMap {stored : Table ExecutionJob} :
    Selected live stored q ((stored.rows.filter q).filterMap fun row => live.find row.id) := by
  have key : ∀ row job : ExecutionJob, live.find row.id = some job → job.id = row.id := fun _ _ => find_key
  refine ⟨?_, ?_, ?_⟩
  · intro job member
    obtain ⟨row, _, found⟩ := List.mem_filterMap.mp member
    rw [key row job found]
    exact found
  · have shorter := keys_filterMap_sublist (fun row found => key row found) (stored.rows.filter q)
    exact (shorter.trans (List.filter_sublist.map _)).nodup stored.distinct
  · intro job member
    obtain ⟨row, inRows, found⟩ := List.mem_filterMap.mp member
    obtain ⟨inTable, satisfied⟩ := List.mem_filter.mp inRows
    exact ⟨row, by rw [key row job found]; exact find_of_mem inTable, satisfied⟩

theorem Selected.satisfies (selected : Selected live live q jobs) : ∀ job ∈ jobs, q job = true := by
  intro job member
  obtain ⟨row, stored, satisfied⟩ := selected.matching job member
  cases Option.some.inj (stored.symm.trans (selected.live job member))
  exact satisfied

theorem selectJobs_run (env : Env) (q : ExecutionJob → Bool) (s : Session Db) :
    ∃ jobs flushed, selectJobs env q s = (.ok jobs, { s with flushed := flushed }) ∧
      (flushed = s.flushed ∨ flushed = s.working) ∧ Selected s.working.jobs flushed.jobs q jobs := by
  cases flushes : env.autoflush with
  | true => exact ⟨_, s.working, by simp [selectJobs, autoflush, flushes, flush, bind_run], .inr rfl,
      selected_filterMap⟩
  | false => exact ⟨_, s.flushed, by simp [selectJobs, autoflush, flushes, bind_run], .inl rfl, selected_filterMap⟩

theorem selectJobs_writes : Writes env p (selectJobs env q) := by
  unfold selectJobs
  exact autoflush_writes.bind fun _ _ => .refl

theorem movesFrom_selectJobs {α : Type} {f : List ExecutionJob → Service α}
    (rest : ∀ jobs flushed, (flushed = s.flushed ∨ flushed = s.working) →
      Selected s.working.jobs flushed.jobs q jobs → WritesFrom env p (f jobs) { s with flushed := flushed }) :
    WritesFrom env p (selectJobs env q >>= f) s := by
  obtain ⟨jobs, flushed, run, layer, selected⟩ := selectJobs_run env q s
  refine (selectJobs_writes s).bind fun found ok => ?_
  rw [run] at ok ⊢
  cases ok
  exact rest jobs flushed layer selected

theorem movesFrom_selectClean {α : Type} {f : List ExecutionJob → Service α} (clean : s.flushed.jobs = s.working.jobs)
    (rest : ∀ jobs flushed, flushed.jobs = s.working.jobs → Selected s.working.jobs s.working.jobs q jobs →
      WritesFrom env p (f jobs) { s with flushed := flushed }) :
    WritesFrom env p (selectJobs env q >>= f) s := by
  refine movesFrom_selectJobs fun jobs flushed layer selected => ?_
  have same : flushed.jobs = s.working.jobs := by
    rcases layer with rfl | rfl
    · exact clean
    · rfl
  exact rest jobs flushed same (same ▸ selected)

theorem cancel_jobMove (unfinished : ¬job.Finished) :
    JobMove env p job (job.cancel now) where
  id := rfl
  maxAttempts := rfl
  order := rfl
  final done := absurd done unfinished
  token := .inl rfl
  held _ stored := absurd rfl stored
  recorded _ done := by rcases done with done | done <;> cases done
  queued impossible := by cases impossible
  leased impossible := by cases impossible

theorem cancel_writesFrom (clean : s.flushed.jobs = s.working.jobs) :
    WritesFrom env p (cancel env runId) s := by
  unfold cancel
  refine movesFrom_requireRun fun run _ => movesFrom_guard fun _ => ?_
  have tail : Writes env p (do
      updateRun runId fun run => { run with cancellationRequested := true }
      let cancelled ← transition env runId .cancelled "RunCancelled" "user"
      recordMetric "workflow.cancelled" runId (.obj [])
      return cancelled) := by
    refine Tx.Moves.bind (updateRun_writes ?_) fun _ => ?_
    · exact fun _ => ⟨rfl, rfl, rfl, rfl, rfl, rfl⟩
    refine Tx.Moves.bind (fun _ => transition_writesFrom (by simp)) fun _ => ?_
    exact recordMetric_writes.bind fun _ => fun _ => movesFrom_pure _
  dsimp only
  refine movesFrom_ite (fun _ => ?_) fun _ => tail s
  refine movesFrom_utcnow fun now clock => movesFrom_selectClean clean fun jobs flushed _ selected => ?_
  refine Tx.MovesFrom.bind (sweep_writesFrom selected.live selected.distinct ?_) fun _ _ => tail _
  intro job member
  have unfinished := selected.satisfies job member
  refine cancel_jobMove fun done => ?_
  rcases done with done | done <;> simp [done] at unfinished

/-- The status `schedule_recovery` gives the run. -/
def RecoveryDecisionV1.runStatus (decision : RecoveryDecisionV1) : RunStatus :=
  if decision.status = .escalated then .failed else decision.targetRunStatus

theorem assign_write
    (keeps : ∀ run, (f run).id = run.id ∧ (f run).recoveries = run.recoveries ∧ (f run).taskId = run.taskId ∧
      (f run).workflowVersion = run.workflowVersion ∧ (f run).sourceRevision = run.sourceRevision)
    (assigns : ∀ run, (f run).status = status) (allowed : p.assign runId status) :
    Write env p s { s.working with runs := s.working.runs.update runId f } := by
  refine .run runId f fun old found => ?_
  obtain ⟨id, recoveries, identity⟩ := keeps old
  refine ⟨id, .inr (.inr (.inl ?_)), identity, .inl recoveries⟩
  have key : old.id = runId := find_key found
  rw [key, assigns]
  exact allowed

theorem scheduleRecovery_writesFrom
    (allowed : ∀ run step classification, s.working.run? runId = some run →
      s.working.getStep runId stepId = some step → step.status = .failed →
      failure.field? "classification" = some classification → p.assign runId decision.runStatus ∧
      p.recover run decision) :
    WritesFrom env p (scheduleRecovery env runId stepId failure decision commits) s := by
  unfold scheduleRecovery
  refine movesFrom_requireRun fun run atRun => movesFrom_requireStep fun step found => ?_
  refine movesFrom_guard fun failed => ?_
  have failed : step.status = .failed := not_not.mp failed
  refine movesFrom_utcnow fun recordedAt _ => movesFrom_expect fun classification named => ?_
  obtain ⟨assign, recovers⟩ := allowed run step classification atRun found failed named
  refine movesFrom_write (.run runId _ fun old atOld => ?_) ?_
  · cases Option.some.inj (atOld.symm.trans atRun)
    exact ⟨rfl, .inl rfl, ⟨rfl, rfl, rfl⟩, .inr (.inl ⟨stepId, failure, decision, recordedAt, recovers, rfl⟩)⟩
  refine movesFrom_appendEvent fun _ _ _ _ => movesFrom_appendEvent fun _ _ _ _ => ?_
  refine movesFrom_utcnow fun now _ => ?_
  have tail : Writes env p (do
      updateRun runId fun run => { run with updatedAt := some now }
      checkpoint env run ("recovery:" ++ decision.action.value.toLower)
      settle commits
      requireStep runId stepId) := by
    refine Tx.Moves.bind (updateRun_writes fun _ => ⟨rfl, rfl, rfl, rfl, rfl, rfl⟩) fun _ => ?_
    exact checkpoint_writes.bind fun _ => settle_writes.bind fun _ => moves_requireStep
  dsimp only
  refine movesFrom_ite (fun escalated => ?_) fun scheduled => ?_
  · refine movesFrom_write (assign_write (fun _ => ⟨rfl, rfl, rfl, rfl, rfl⟩) (fun _ => rfl) ?_) ?_
    · simpa [RecoveryDecisionV1.runStatus, escalated] using assign
    · exact appendEvent_writes.then fun _ _ => tail _
  · refine movesFrom_write ?_ (movesFrom_write (assign_write (fun _ => ⟨rfl, rfl, rfl, rfl, rfl⟩) (fun _ => rfl) ?_) ?_)
    · exact updateStep_write (getStep_find found).1
        (.newOutput ⟨rfl, rfl⟩ recover_taskless (by simp [failed]) (by simp [RunStep.recover]) rfl)
    · simpa [RecoveryDecisionV1.runStatus, scheduled] using assign
    · exact appendEvent_writes.then fun _ _ => tail _

theorem recoverInterrupted_writesFrom
    (allowed : ∀ step ∈ s.working.steps.rows, step.runId = runId → step.status = .running → p.unsettle runId) :
    WritesFrom env p (recoverInterrupted env runId) s := by
  unfold recoverInterrupted
  refine movesFrom_requireRun fun run _ => movesFrom_view ?_
  refine movesFrom_ite (fun _ => movesFrom_pure _) fun _ => ?_
  refine Tx.MovesFrom.bind (moves_forEach (fun step member => ?_) s) fun _ _ => ?_
  · simp only [List.mem_filter, Db.listSteps, mem_orderBy, beq_iff_eq, decide_eq_true_eq] at member
    have grant := allowed step member.1.1 member.1.2 member.2
    exact Tx.Moves.bind (fun _ => failStep_writesFrom fun _ _ _ => grant) fun _ _ => movesFrom_pure _
  · exact movesFrom_ite (fun _ => transition_writesFrom (by simp)) fun _ => moves_requireRun _

theorem handle_writesFrom {requestedAction : Option RecoveryAction}
    (allowed : ∀ run step report decision, s.working.run? runId = some run →
      s.working.getStep runId stepId = some step → step.status = .failed → env.diagnose failure = .ok report →
      decide env run report requestedAction = .ok decision → p.assign runId decision.runStatus ∧
      p.recover run decision) :
    WritesFrom env p (handle env runId stepId failure requestedAction commits) s := by
  unfold handle
  refine movesFrom_existingRun fun run atRun => movesFrom_existingStep fun step atStep => ?_
  refine movesFrom_guard fun failed => ?_
  refine movesFrom_ofExcept fun report diagnosed => movesFrom_ofExcept fun decision decided => ?_
  have grant := allowed run step report decision atRun atStep (not_not.mp failed) diagnosed decided
  refine Tx.MovesFrom.bind (scheduleRecovery_writesFrom fun other _ _ atOther _ _ _ => ?_) fun recovered _ => ?_
  · cases Option.some.inj (atOther.symm.trans atRun)
    exact grant
  dsimp only
  refine movesFrom_ite (fun _ => ?_) fun _ => movesFrom_pure _
  exact recordMetric_writes.then fun _ _ => movesFrom_pure _

end

end SacmRuntime
