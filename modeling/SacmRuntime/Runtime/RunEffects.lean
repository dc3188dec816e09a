import SacmRuntime.Runtime.RunWrites

namespace SacmRuntime
open Session RecoveryService RunService Table Tx

def Session.Clean {δ : Type} (s : Session δ) : Prop := s.committed = s.working ∧ s.flushed = s.working

theorem Session.start_clean {δ : Type} (d : δ) (supply : Supply) : (start d supply).Clean := ⟨rfl, rfl⟩

/-- The second store is the first with records added to its logs. -/
def Logged (d e : Db) : Prop :=
  ∃ events snapshots metrics, e = { d with
    events := d.events ++ events, snapshots := d.snapshots ++ snapshots, metrics := d.metrics ++ metrics }

namespace Logged
variable {d e f : Db}

theorem refl (d : Db) : Logged d d := ⟨[], [], [], by simp⟩

theorem trans (first : Logged d e) (second : Logged e f) : Logged d f := by
  obtain ⟨events, snapshots, metrics, rfl⟩ := first
  obtain ⟨later, laterSnapshots, laterMetrics, rfl⟩ := second
  exact ⟨events ++ later, snapshots ++ laterSnapshots, metrics ++ laterMetrics, by simp⟩

theorem event (d : Db) (event : RuntimeEvent) : Logged d { d with events := d.events ++ [event] } :=
  ⟨[event], [], [], by simp⟩

theorem metric (d : Db) (metric : LifecycleMetric) : Logged d { d with metrics := d.metrics ++ [metric] } :=
  ⟨[], [], [metric], by simp⟩

section
variable (logged : Logged d e)
include logged

theorem runs : e.runs = d.runs := by
  obtain ⟨_, _, _, rfl⟩ := logged
  rfl

theorem steps : e.steps = d.steps := by
  obtain ⟨_, _, _, rfl⟩ := logged
  rfl

theorem jobs : e.jobs = d.jobs := by
  obtain ⟨_, _, _, rfl⟩ := logged
  rfl

theorem packs : e.packs = d.packs := by
  obtain ⟨_, _, _, rfl⟩ := logged
  rfl

theorem projects : e.projects = d.projects := by
  obtain ⟨_, _, _, rfl⟩ := logged
  rfl

theorem run? (runId : String) : e.run? runId = d.run? runId := by
  unfold Db.run?
  rw [logged.runs]

theorem getStep (runId stepId : String) : e.getStep runId stepId = d.getStep runId stepId := by
  unfold Db.getStep
  rw [logged.steps]

end

end Logged

section
variable {env : Env} {s : Session Db} {runId stepId : String} {run row : Run} {step : RunStep}

theorem requireRun_run (found : s.working.run? runId = some run) : requireRun runId s = (.ok run, s) := by
  simp [requireRun, found, expect]

theorem requireRun_absent (absent : s.working.run? runId = none) :
    requireRun runId s = (.error (.valueError ("Run " ++ runId ++ " not found")), s) := by
  simp [requireRun, absent, expect]

theorem existingRun_run (found : s.working.run? runId = some run) : existingRun runId s = (.ok run, s) := by
  simp [existingRun, found, expect]

theorem requireStep_run (found : s.working.getStep runId stepId = some step) :
    requireStep runId stepId s = (.ok step, s) := by
  simp [requireStep, found, expect]

theorem existingStep_run (found : s.working.getStep runId stepId = some step) :
    existingStep runId stepId s = (.ok step, s) := by
  simp [existingStep, found, expect]

variable {about : Option String} {actor eventType reason : String} {commits : Bool} {d : Db}
  {decision : RecoveryDecisionV1} {failure payload : Json} {requestedAction : Option RecoveryAction} {t : Session Db}

theorem existingRun_ok (looked : existingRun runId s = (.ok run, t)) :
    s.working.run? runId = some run ∧ t = s := by
  unfold existingRun at looked
  obtain ⟨_, _, read, looked⟩ := bind_ok looked
  cases read
  exact expect_ok looked

theorem existingStep_ok (looked : existingStep runId stepId s = (.ok step, t)) :
    s.working.getStep runId stepId = some step ∧ t = s := by
  unfold existingStep at looked
  obtain ⟨_, _, read, looked⟩ := bind_ok looked
  cases read
  exact expect_ok looked

theorem run?_update {f : Run → Run} (keeps : ∀ run, (f run).id = run.id) (found : d.run? runId = some run) :
    Db.run? { d with runs := d.runs.update runId f } runId = some (f run) := by
  have here : (d.runs.update runId f).find runId = (d.runs.find runId).map f := find_update_self keeps
  unfold Db.run? at found ⊢
  rw [here, found]
  rfl

theorem getStep_update {f : RunStep → RunStep} (keeps : ∀ step, (f step).id = step.id)
    (sameRun : ∀ step, (f step).runId = step.runId) (found : d.getStep runId stepId = some step) :
    Db.getStep { d with steps := d.steps.update stepId f } runId stepId = some (f step) := by
  obtain ⟨inTable, ofRun⟩ := getStep_find found
  have here : (d.steps.update stepId f).find stepId = (d.steps.find stepId).map f := find_update_self keeps
  unfold Db.getStep
  rw [here, inTable]
  simp [sameRun, ofRun]

theorem appendEvent_run (env : Env) (run : Run) (eventType actor : String) (payload : Json) (about : Option String)
    (s : Session Db) : ∃ event t, appendEvent env run eventType actor payload about s = (.ok event, t) ∧
      t.working = { s.working with events := s.working.events ++ [event] } ∧ event.runId = run.id ∧
      event.eventType = eventType ∧ t.committed = s.committed ∧ event.payload = payload := by
  unfold appendEvent autoflush
  cases flushes : env.autoflush <;> simp only [if_true, Bool.false_eq_true, if_false] <;>
    exact ⟨_, _, rfl, rfl, rfl, rfl, rfl, rfl⟩

theorem outcome_appendEvent {β : Type} {P : Except Error β × Session Db → Prop} {f : RuntimeEvent → Service β}
    (rest : ∀ event t, t.working = { s.working with events := s.working.events ++ [event] } → event.runId = run.id →
      P (f event t))
    : P ((appendEvent env run eventType actor payload about >>= f) s) := by
  obtain ⟨event, t, appended, effect, ofRun, -, -⟩ := appendEvent_run env run eventType actor payload about s
  rw [bind_run_ok _ appended]
  exact rest event t effect ofRun

theorem appendEvent_uuids (env : Env) (run : Run) (eventType actor : String) (payload : Json) (about : Option String) :
    Tx.Leaves Session.uuids (appendEvent env run eventType actor payload about) := by
  unfold appendEvent autoflush
  refine (leaves_ite (fun _ => rfl) (leaves_pure _)).bind fun _ => Tx.Leaves.bind (fun _ => rfl) fun _ => ?_
  exact leaves_read fun _ => Tx.Leaves.bind (fun _ => rfl) fun _ => leaves_pure _

theorem checkpoint_uuids (env : Env) (run : Run) (reason : String) :
    Tx.Leaves Session.uuids (checkpoint env run reason) := by
  have created : Tx.Leaves Session.uuids (createSnapshot env run.id reason) := by
    unfold createSnapshot requireRun
    refine Tx.Leaves.bind (leaves_read fun _ => leaves_expect) fun _ => leaves_read fun _ => ?_
    refine leaves_ite (leaves_raise _) (Tx.Leaves.bind (fun _ => rfl) fun _ => leaves_read fun _ => ?_)
    refine leaves_expect.bind fun event => leaves_read fun _ => leaves_read fun _ => ?_
    refine leaves_read fun existing => ?_
    cases existing with
    | some snapshot => exact leaves_pure _
    | none =>
      refine Tx.Leaves.bind (fun _ => rfl) fun _ => Tx.Leaves.bind (fun _ => rfl) fun _ => ?_
      exact Tx.Leaves.bind (fun _ => rfl) fun _ => leaves_pure _
  unfold checkpoint
  refine leaves_ite (Tx.Leaves.bind (fun _ => rfl) fun _ => leaves_read fun _ => ?_) (leaves_pure _)
  exact leaves_ite (leaves_pure _) (created.bind fun _ => leaves_pure _)

theorem createSnapshot_run (env : Env) (reason : String) (found : s.working.run? runId = some run)
    (idle : ((s.working.listSteps runId).any fun step => step.status = .running) = false)
    (logged : s.working.eventsOf runId ≠ []) :
    ∃ snapshot snapshots t, createSnapshot env runId reason s = (.ok snapshot, t) ∧
      t.working = { s.working with snapshots := s.working.snapshots ++ snapshots } ∧ t.committed = s.committed := by
  obtain ⟨event, newest⟩ : ∃ event, s.working.lastEvent runId = some event := by
    cases newest : s.working.lastEvent runId with
    | none => exact absurd (List.argmax_eq_none.mp newest) logged
    | some event => exact ⟨event, rfl⟩
  unfold createSnapshot
  rw [bind_run_ok _ (requireRun_run found)]
  simp only [bind_view, idle, Bool.false_eq_true, if_false, bind_flush]
  rw [bind_run_ok _ (read_run _ _)]
  simp only [newest, bind_expect_some, bind_view]
  generalize List.find? _ s.working.snapshots = existing
  cases existing with
  | some snapshot => exact ⟨snapshot, [], _, rfl, by simp, rfl⟩
  | none => exact ⟨_, [_], _, rfl, rfl, rfl⟩

theorem checkpoint_run (env : Env) (reason : String) (found : s.working.run? run.id = some row)
    (logged : s.working.eventsOf run.id ≠ []) :
    ∃ snapshots t, checkpoint env run reason s = (.ok (), t) ∧
      t.working = { s.working with snapshots := s.working.snapshots ++ snapshots } ∧ t.committed = s.committed := by
  unfold checkpoint
  cases available : env.snapshotsAvailable with
  | false => exact ⟨[], s, by simp, by simp, rfl⟩
  | true =>
    simp only [if_true, bind_flush, bind_view]
    cases idle : (s.working.listSteps run.id).any fun step => decide (step.status = .running) with
    | true => exact ⟨[], _, rfl, by simp, rfl⟩
    | false =>
      obtain ⟨snapshot, snapshots, t, made, effect, committed⟩ := createSnapshot_run env reason
        (s := { s with flushed := s.working }) found idle logged
      simp only [Bool.false_eq_true, if_false]
      rw [bind_run_ok _ made]
      exact ⟨snapshots, t, rfl, effect, committed⟩

theorem outcome_checkpoint {β : Type} {P : Except Error β × Session Db → Prop} {f : Unit → Service β}
    (held : (s.working.run? run.id).isSome) (logged : s.working.eventsOf run.id ≠ [])
    (rest : ∀ t snapshots, t.working = { s.working with snapshots := s.working.snapshots ++ snapshots } → P (f () t)) :
    P ((checkpoint env run reason >>= f) s) := by
  obtain ⟨row, found⟩ := Option.isSome_iff_exists.mp held
  obtain ⟨snapshots, t, checked, after, -⟩ := checkpoint_run env reason found logged
  rw [bind_run_ok _ checked]
  exact rest t snapshots after

/-- The method returns this result and commits this store, with records added to its logs. -/
abbrev Commits {α : Type} (m : Service α) (s : Session Db) (result : α) (d : Db) : Prop :=
  ∃ t, m s = (.ok result, t) ∧ t.Clean ∧ Logged d t.working

/-- What a method leaves that ends with an event of the run, a checkpoint, and a
commit or a flush. -/
structure Closed (runId : String) (commits : Bool) (uuids : Nat → String) (d : Db) (t : Session Db) : Prop where
  clean : commits = true → t.Clean
  flushed : t.flushed = t.working
  uuids : t.uuids = uuids
  logged : Logged d t.working
  others : ∀ other, other ≠ runId → t.working.eventsOf other = d.eventsOf other
  longer : (d.eventsOf runId).length < (t.working.eventsOf runId).length

theorem settle_run (commits : Bool) (s : Session Db) : ∃ t, settle commits s = (.ok (), t) ∧
    (commits = true → t.Clean) ∧ t.flushed = t.working ∧ t.working = s.working ∧ t.uuids = s.uuids := by
  cases commits with
  | true => exact ⟨_, rfl, fun _ => ⟨rfl, rfl⟩, rfl, rfl, rfl⟩
  | false => exact ⟨_, rfl, by simp, rfl, rfl, rfl⟩

/-- What every writing method ends with: an event, a checkpoint, a commit or a
flush, and a last read. -/
theorem outcome_settling {α : Type} {P : Except Error α × Session Db → Prop} {last : Service α} {result : α}
    (commits : Bool) (key : run.id = runId) (found : s.working.run? runId = some row)
    (reads : ∀ t, Logged s.working t.working → last t = (.ok result, t))
    (rest : ∀ t, Closed runId commits s.uuids s.working t → P (.ok result, t)) :
    P ((do
      let _ ← appendEvent env run eventType actor payload about
      checkpoint env run reason
      settle commits
      last) s) := by
  subst key
  obtain ⟨event, mid, appended, effect, ofRun, -, -⟩ := appendEvent_run env run eventType actor payload about s
  have stillFound : mid.working.run? run.id = some row := by
    rw [effect]
    exact found
  have logged : mid.working.eventsOf run.id ≠ [] := by
    rw [effect]
    have member : event ∈ s.working.events ++ [event] := List.mem_append_right _ (List.mem_singleton_self event)
    exact List.ne_nil_of_mem (List.mem_filter.mpr ⟨member, by simp [ofRun]⟩)
  obtain ⟨snapshots, t, checked, after, -⟩ := checkpoint_run env reason stillFound logged
  obtain ⟨u, settled, clean, flushed, held, drawn⟩ := settle_run commits t
  have working : u.working = { s.working with
      events := s.working.events ++ [event], snapshots := s.working.snapshots ++ snapshots } := by
    rw [held, after, effect]
  have kept : Logged s.working u.working := by
    rw [working]
    exact ⟨[event], snapshots, [], by simp⟩
  rw [bind_run_ok _ appended, bind_run_ok _ checked, bind_run_ok _ settled, reads u kept]
  refine rest u ⟨clean, flushed, ?_, kept, fun other different => ?_, ?_⟩
  · have first := (appendEvent_uuids env run eventType actor payload about).after appended
    exact (drawn.trans ((checkpoint_uuids env run reason).after checked)).trans first
  · unfold Db.eventsOf
    simp [working, List.filter_append, ofRun, different.symm]
  · unfold Db.eventsOf
    simp [working, List.filter_append, ofRun]

/-- The method returns this result and leaves this store, with records added to its logs. -/
abbrev Closes {α : Type} (m : Service α) (s : Session Db) (result : α) (runId : String) (commits : Bool) (d : Db) :
    Prop :=
  ∃ t, m s = (.ok result, t) ∧ Closed runId commits s.uuids d t

theorem settling_closes {α : Type} {last : Service α} {result : α} (commits : Bool) (key : run.id = runId)
    (found : s.working.run? runId = some row) (reads : ∀ t, Logged s.working t.working → last t = (.ok result, t)) :
    Closes (do
      let _ ← appendEvent env run eventType actor payload about
      checkpoint env run reason
      settle commits
      last) s result runId commits s.working :=
  outcome_settling (P := fun outcome => ∃ t, outcome = (.ok result, t) ∧ Closed runId commits s.uuids s.working t)
    commits
    key found reads fun t closed => ⟨t, rfl, closed⟩

theorem closing_commits {α : Type} {last : Service α} {result : α} (key : run.id = runId)
    (found : s.working.run? runId = some row) (reads : ∀ t, Logged s.working t.working → last t = (.ok result, t)) :
    Commits (do
      let _ ← appendEvent env run eventType actor payload about
      checkpoint env run reason
      commit
      last) s result s.working :=
  outcome_settling (P := fun outcome => ∃ t, outcome = (.ok result, t) ∧ t.Clean ∧ Logged s.working t.working) true
    key found reads fun t closed => ⟨t, rfl, closed.clean rfl, closed.logged⟩

theorem transition_run (env : Env) {status : RunStatus} (eventType actor : String) (payload : Json)
    (about : Option String) (found : s.working.run? runId = some run)
    (legal : status = run.status ∨ status ∈ allowedTransitions run.status) (open_ : status ≠ .completed) :
    Commits (transition env runId status eventType actor payload about) s (run.moveTo status (s.clock 0))
      { s.working with runs := s.working.runs.update runId fun run => run.moveTo status (s.clock 0) } := by
  have allowed : ¬(status ≠ run.status ∧ status ∉ allowedTransitions run.status) := by tauto
  have moved := run?_update (f := fun run => run.moveTo status (s.clock 0)) (fun _ => rfl) found
  unfold Commits transition
  rw [bind_run_ok _ (requireRun_run found)]
  simp only [if_neg allowed, if_neg open_, bind_utcnow, updateRun, bind_modify]
  exact closing_commits (find_key found) moved fun t logged => requireRun_run ((logged.run? runId).trans moved)

def Db.stepWith (d : Db) (runId idempotencyKey : String) : Option RunStep :=
  d.steps.rows.find? fun step => step.runId == runId && step.idempotencyKey == idempotencyKey

/-- The step `add_step` inserts. -/
def scheduledStep (d : Db) (runId name : String) (input : Json) (idempotencyKey stepId : String) : RunStep where
  id := stepId
  runId := runId
  sequence := (d.listSteps runId).length + 1
  name := name
  status := .pending
  idempotencyKey := idempotencyKey
  input := input
  output := none
  retryCount := 0
  startedAt := none
  completedAt := none

/-- `add_step` raises where the identifier is taken; the step was there, or it
has been inserted. -/
theorem addStep_ends (env : Env) (name idempotencyKey : String) (input : Json)
    (atRun : s.working.run? runId = some run) :
    Yields (fun _ t => s.working.stepWith runId idempotencyKey = none ∧ s.working.steps.find (s.uuids 0) ≠ none ∧
        t.committed = s.committed)
      (fun step t => t = s ∧ s.working.stepWith runId idempotencyKey = some step ∨ ∃ steps,
        s.working.stepWith runId idempotencyKey = none ∧
        step = scheduledStep s.working runId name input idempotencyKey (s.uuids 0) ∧
        s.working.steps.insert? step = some steps ∧
        Closed runId true (fun n => s.uuids (n + 1)) { s.working with steps := steps } t)
      (addStep env runId name input idempotencyKey s) := by
  let step := scheduledStep s.working runId name input idempotencyKey (s.uuids 0)
  unfold addStep
  rw [bind_run_ok _ (requireRun_run atRun), bind_view]
  cases here : s.working.stepWith runId idempotencyKey with
  | some step =>
    unfold Db.stepWith at here
    rw [here]
    exact .inl ⟨rfl, rfl⟩
  | none =>
    unfold Db.stepWith at here
    rw [here]
    simp only [bind_view, bind_uuid4]
    unfold insertStep
    rw [bind_assoc_run, bind_view, bind_assoc_run]
    refine outcome_expect_cases (fun refused => ⟨trivial, fun fresh => ?_, rfl⟩) fun steps inserted => ?_
    · obtain ⟨steps, some_steps⟩ : ∃ steps, s.working.steps.insert? step = some steps :=
        insert?_isSome_of_fresh fresh
      cases refused.symm.trans some_steps
    · have stored : Db.getStep { s.working with steps := steps } runId (s.uuids 0) = some step := by
        have here : steps.find (s.uuids 0) = some step := by
          rw [find_insert? inserted]
          exact if_pos rfl
        simp [Db.getStep, here, step, scheduledStep]
      rw [bind_modify]
      exact outcome_settling true (find_key atRun) atRun
        (fun later logged => requireStep_run ((logged.getStep runId (s.uuids 0)).trans stored))
        fun t closed => .inr ⟨steps, trivial, rfl, inserted, closed⟩

/-- The rest of a method after `add_step`: the step was there, or it has
been inserted under an identifier that was free. -/
theorem outcome_addStep {β : Type} {P : Except Error β × Session Db → Prop} {name idempotencyKey : String}
    {input : Json} {f : RunStep → Service β} (atRun : s.working.run? runId = some run)
    (raised : ∀ e t, s.working.steps.find (s.uuids 0) ≠ none → t.committed = s.committed → P (.error e, t))
    (existing : ∀ step, s.working.stepWith runId idempotencyKey = some step → P (f step s))
    (added : ∀ steps t, s.working.stepWith runId idempotencyKey = none →
      s.working.steps.insert? (scheduledStep s.working runId name input idempotencyKey (s.uuids 0)) = some steps →
      t.Clean → t.uuids = (fun n => s.uuids (n + 1)) → Logged { s.working with steps := steps } t.working →
      (∀ other, other ≠ runId → t.working.eventsOf other = s.working.eventsOf other) →
      (s.working.eventsOf runId).length < (t.working.eventsOf runId).length →
      P (f (scheduledStep s.working runId name input idempotencyKey (s.uuids 0)) t)) :
    P ((addStep env runId name input idempotencyKey >>= f) s) := by
  refine (addStep_ends env name idempotencyKey input atRun).bind (fun e t ⟨_, taken, same⟩ => raised e t taken same)
    fun step t how => ?_
  rcases how with ⟨same, here⟩ | ⟨steps, absent, made, inserted, closed⟩
  · subst same
    exact existing step here
  · subst made
    exact added steps t absent inserted (closed.clean rfl) closed.uuids closed.logged closed.others closed.longer

theorem startStep_run (env : Env) (atRun : s.working.run? runId = some run)
    (found : s.working.getStep runId stepId = some step) (pending : step.status = .pending) :
    Commits (startStep env runId stepId) s { step with status := .running, startedAt := some (s.clock 0) }
      { s.working with steps := s.working.steps.update stepId fun step =>
          { step with status := .running, startedAt := some (s.clock 0) } } := by
  have started := getStep_update (f := fun step => { step with status := .running, startedAt := some (s.clock 0) })
    (fun _ => rfl) (fun _ => rfl) found
  unfold Commits startStep
  rw [bind_run_ok _ (requireRun_run atRun), bind_run_ok _ (requireStep_run found)]
  simp only [pending, reduceCtorEq, if_false, ne_eq, not_true_eq_false, bind_utcnow, updateStep, bind_modify]
  obtain ⟨event, t, appended, effect, -, -, -⟩ := appendEvent_run env run "StepStarted" "system"
    (.obj [("name", .str step.name)]) (some stepId)
    (Session.mk s.committed s.flushed { s.working with steps := s.working.steps.update stepId fun step =>
      { step with status := .running, startedAt := some (s.clock 0) } } (fun n => s.clock (n + 1)) s.uuids s.tokens)
  rw [bind_run_ok _ appended, bind_commit]
  have stored :
      t.working.getStep runId stepId = some { step with status := .running, startedAt := some (s.clock 0) } := by
    rw [effect]
    exact started
  rw [requireStep_run (s := { t with committed := t.working, flushed := t.working }) stored]
  refine ⟨_, rfl, ⟨rfl, rfl⟩, ?_⟩
  change Logged _ t.working
  rw [effect]
  exact .event _ event

theorem completeStep_run (env : Env) (output : Json) (atRun : s.working.run? runId = some run)
    (found : s.working.getStep runId stepId = some step)
    (open_ : step.status = .pending ∨ step.status = .running ∨ step.status = .awaitingApproval) :
    Commits (completeStep env runId stepId output) s
      { step with status := .completed, output := some output, completedAt := some (s.clock 0) }
      { s.working with steps := s.working.steps.update stepId fun step =>
          { step with status := .completed, output := some output, completedAt := some (s.clock 0) } } := by
  have completed := getStep_update
    (f := fun step => { step with status := .completed, output := some output, completedAt := some (s.clock 0) })
    (fun _ => rfl) (fun _ => rfl) found
  have unfinished : step.status ≠ .completed := by
    rintro done
    simp [done] at open_
  have allowed : ¬(step.status ≠ .pending ∧ step.status ≠ .running ∧ step.status ≠ .awaitingApproval) := by tauto
  unfold Commits completeStep
  rw [bind_run_ok _ (requireRun_run atRun), bind_run_ok _ (requireStep_run found)]
  simp only [if_neg unfinished, if_neg allowed, bind_utcnow, updateStep, bind_modify]
  exact closing_commits (find_key atRun) atRun fun t logged =>
    requireStep_run ((logged.getStep runId stepId).trans completed)

def RunStep.fail (failure : Json) (now : Nat) (step : RunStep) : RunStep :=
  { step with status := .failed, output := some (.obj [("failure", failure)]), completedAt := some now }

theorem failStep_closes (env : Env) (failure : Json) (commits : Bool) (atRun : s.working.run? runId = some run)
    (found : s.working.getStep runId stepId = some step) :
    Closes (failStep env runId stepId failure commits) s (step.fail failure (s.clock 0)) runId commits
      { s.working with steps := s.working.steps.update stepId (RunStep.fail failure (s.clock 0)) } := by
  have failed := getStep_update (f := RunStep.fail failure (s.clock 0)) (fun _ => rfl) (fun _ => rfl) found
  unfold Closes failStep
  rw [bind_run_ok _ (requireRun_run atRun), bind_run_ok _ (requireStep_run found)]
  simp only [bind_utcnow, updateStep, bind_modify]
  exact settling_closes commits (find_key atRun) atRun fun t logged =>
    requireStep_run ((logged.getStep runId stepId).trans failed)

theorem failStep_run (env : Env) (failure : Json) (atRun : s.working.run? runId = some run)
    (found : s.working.getStep runId stepId = some step) :
    Commits (failStep env runId stepId failure) s
      { step with status := .failed, output := some (.obj [("failure", failure)]), completedAt := some (s.clock 0) }
      { s.working with steps := s.working.steps.update stepId fun step =>
          { step with status := .failed, output := some (.obj [("failure", failure)]),
                      completedAt := some (s.clock 0) } } := by
  obtain ⟨t, ran, closed⟩ := failStep_closes env failure true atRun found
  exact ⟨t, ran, closed.clean rfl, closed.logged⟩

theorem interruptStep_run (env : Env) (reason : String) (cancelled : Bool) (atRun : s.working.run? runId = some run)
    (found : s.working.getStep runId stepId = some step)
    (closed : step.status = .completed ∨ step.status = .failed ∨ step.status = .cancelled ∨
      step.status = .interrupted) :
    interruptStep env runId stepId reason cancelled s = (.ok step, s) := by
  unfold interruptStep
  rw [bind_run_ok _ (requireRun_run atRun), bind_run_ok _ (requireStep_run found), if_pos closed]
  rfl

/-- What a recorded recovery decision leaves of its run and its step. -/
structure Recovered (runId stepId : String) (run : Run) (failure : Json) (decision : RecoveryDecisionV1)
    (commits : Bool) (s t : Session Db) (result : RunStep) : Prop where
  clean : commits = true → t.Clean
  run : ∃ after recordedAt, t.working.run? runId = some after ∧ after.status = decision.runStatus ∧
    after.cancellationRequested = run.cancellationRequested ∧
    after.recoveries = (some (recoveryState run stepId failure decision recordedAt), decision.attempt)
  step : t.working.getStep runId stepId = some result
  status : result.status = if decision.status = .escalated then .failed else .pending
  input : ∀ before, s.working.getStep runId stepId = some before →
    result.input = if decision.status = .escalated then before.input else recoveryInput before.input failure decision
  flushed : t.flushed = t.working
  others : ∀ id, id ≠ stepId → t.working.steps.find id = s.working.steps.find id
  packs : t.working.packs = s.working.packs

theorem Recovered.logged {s u : Session Db} {result : RunStep}
    (recovered : Recovered runId stepId run failure decision commits s t result) (clean : u.Clean)
    (logged : Logged t.working u.working) : Recovered runId stepId run failure decision commits s u result where
  clean _ := clean
  run := by
    rw [logged.run?]
    exact recovered.run
  step := by
    rw [logged.getStep]
    exact recovered.step
  status := recovered.status
  input := recovered.input
  flushed := clean.2
  others id other := by
    rw [logged.steps]
    exact recovered.others id other
  packs := logged.packs.trans recovered.packs

/-- The last part of `schedule_recovery`: the decision's event, a stamp, a checkpoint and a commit. -/
theorem outcome_closeRecovery {P : Except Error RunStep × Session Db → Prop} {now : Nat} (step : RunStep)
    (key : run.id = runId) (held : (s.working.run? runId).isSome) (found : s.working.getStep runId stepId = some step)
    (rest : ∀ t, (commits = true → t.Clean) → t.flushed = t.working →
      Logged { s.working with runs := s.working.runs.update runId fun run => { run with updatedAt := some now } }
      t.working → P (.ok step, t)) :
    P ((do
      let _ ← appendEvent env run eventType "system" payload (some stepId)
      updateRun runId fun run => { run with updatedAt := some now }
      checkpoint env run reason
      settle commits
      requireStep runId stepId) s) := by
  subst key
  refine outcome_appendEvent (P := P) fun event mid effect ofRun => ?_
  simp only [updateRun, bind_modify, effect]
  refine outcome_checkpoint (P := P) ?_ ?_ fun t snapshots after => ?_
  · unfold Db.run? at held ⊢
    rw [find_update_isSome]
    exact held
  · have member : event ∈ s.working.events ++ [event] := List.mem_append_right _ (List.mem_singleton_self event)
    exact List.ne_nil_of_mem (List.mem_filter.mpr ⟨member, by simp [ofRun]⟩)
  have kept : Logged { s.working with runs := s.working.runs.update run.id fun run =>
      { run with updatedAt := some now } } t.working := by
    rw [after]
    exact ⟨[event], snapshots, [], by simp⟩
  have stillFound : t.working.getStep run.id stepId = some step := (kept.getStep run.id stepId).trans found
  obtain ⟨u, settled, clean, flushed, same, -⟩ := settle_run commits t
  have read : requireStep run.id stepId u = (.ok step, u) := by
    rw [← same] at stillFound
    exact requireStep_run stillFound
  rw [bind_run_ok _ settled, read]
  exact rest u clean flushed (same ▸ kept)

theorem scheduleRecovery_run (env : Env) {classification : Json} (decision : RecoveryDecisionV1) (commits : Bool)
    (atRun : s.working.run? runId = some run) (found : s.working.getStep runId stepId = some step)
    (failed : step.status = .failed) (classified : failure.field? "classification" = some classification) :
    ∃ result t, scheduleRecovery env runId stepId failure decision commits s = (.ok result, t) ∧
      Recovered runId stepId run failure decision commits s t result := by
  have key : run.id = runId := find_key atRun
  let P (outcome : Except Error RunStep × Session Db) : Prop :=
    ∃ result t, outcome = (.ok result, t) ∧ Recovered runId stepId run failure decision commits s t result
  unfold scheduleRecovery
  rw [bind_run_ok _ (requireRun_run atRun), bind_run_ok _ (requireStep_run found)]
  simp only [failed, ne_eq, not_true_eq_false, if_false, bind_utcnow, classified, bind_expect_some, updateRun,
    bind_modify]
  refine outcome_appendEvent (P := P) fun first s1 effect1 _ => ?_
  refine outcome_appendEvent (P := P) fun second s2 effect2 _ => ?_
  obtain ⟨noted, atRun2, keeps, counted⟩ : ∃ noted, s2.working.run? runId = some noted ∧
      noted.cancellationRequested = run.cancellationRequested ∧
      noted.recoveries = (some (recoveryState run stepId failure decision (s.clock 0)), decision.attempt) := by
    rw [effect2, effect1]
    exact ⟨_, run?_update (fun _ => rfl) atRun, rfl, rfl⟩
  have found2 : s2.working.getStep runId stepId = some step := by
    rw [effect2, effect1]
    exact found
  have steps2 : s2.working.steps = s.working.steps := by rw [effect2, effect1]
  have packs2 : s2.working.packs = s.working.packs := by rw [effect2, effect1]
  by_cases escalated : decision.status = .escalated
  · simp only [escalated, if_true, bind_utcnow, bind_modify]
    have assigned := run?_update (f := fun run => { run with status := .failed, completedAt := some (s2.clock 0) })
      (fun _ => rfl) atRun2
    refine outcome_closeRecovery (P := P) step key ?_ found2 fun t clean flushed logged => ?_
    · exact Option.isSome_iff_exists.mpr ⟨_, assigned⟩
    have stamped := run?_update (f := fun run => { run with updatedAt := some (s2.clock 0) }) (fun _ => rfl) assigned
    refine ⟨step, t, rfl, clean, ⟨_, _, (logged.run? runId).trans stamped, ?_, keeps, counted⟩,
      (logged.getStep runId stepId).trans found2, by simp [escalated, failed], fun before same => ?_, flushed,
      fun id _ => ?_, ?_⟩
    · simp [RecoveryDecisionV1.runStatus, escalated]
    · rw [if_pos escalated, Option.some.inj (found.symm.trans same)]
    · rw [logged.steps]
      exact congrArg (find · id) steps2
    · rw [logged.packs]
      exact packs2
  · simp only [escalated, if_false, bind_utcnow, bind_modify, updateStep]
    have assigned := run?_update (f := fun run => { run with status := decision.targetRunStatus, completedAt := none })
      (fun _ => rfl) atRun2
    have retried := getStep_update (f := RunStep.recover failure decision) (fun _ => rfl) (fun _ => rfl) found2
    refine outcome_closeRecovery (P := P) (RunStep.recover failure decision step) key ?_ ?_
      fun t clean flushed logged => ?_
    · exact Option.isSome_iff_exists.mpr ⟨_, assigned⟩
    · exact retried
    have stamped := run?_update (f := fun run => { run with updatedAt := some (s2.clock 0) }) (fun _ => rfl) assigned
    refine ⟨_, t, rfl, clean, ⟨_, _, (logged.run? runId).trans stamped, ?_, keeps, counted⟩,
      (logged.getStep runId stepId).trans retried, by simp [escalated, RunStep.recover], fun before same => ?_, flushed,
      fun id other => ?_, ?_⟩
    · simp [RecoveryDecisionV1.runStatus, escalated]
    · rw [if_neg escalated, ← Option.some.inj (found.symm.trans same)]
      rfl
    · rw [logged.steps]
      exact (find_update_ne other).trans (congrArg (find · id) steps2)
    · rw [logged.packs]
      exact packs2

theorem handle_ends (env : Env) (failure : Json) (requestedAction : Option RecoveryAction) (commits : Bool)
    (atRun : s.working.run? runId = some run) (found : s.working.getStep runId stepId = some step)
    (failed : step.status = .failed) :
    Yields
      (fun _ t => t = s ∧ ∀ report decision, env.diagnose failure = .ok report →
        decide env run report requestedAction ≠ .ok decision)
      (fun (result, report, decision) t => env.diagnose failure = .ok report ∧
        decide env run report requestedAction = .ok decision ∧
        Recovered runId stepId run report.modelDump decision commits s t result)
      (handle env runId stepId failure requestedAction commits s) := by
  unfold handle
  rw [bind_run_ok _ (existingRun_run atRun), bind_run_ok _ (existingStep_run found), if_neg (not_not.mpr failed)]
  refine outcome_ofExcept_cases (fun e raised => ⟨rfl, fun report decision given => ?_⟩) fun report diagnosed => ?_
  · cases raised.symm.trans given
  refine outcome_ofExcept_cases (fun e raised => ⟨rfl, fun other decision given same => ?_⟩) fun decision decided => ?_
  · cases diagnosed.symm.trans given
    cases raised.symm.trans same
  have classified : report.modelDump.field? "classification" = some (.str report.classification.value) := rfl
  obtain ⟨result, mid, scheduled, recovered⟩ :=
    scheduleRecovery_run env decision commits atRun found failed classified
  rw [bind_run_ok _ scheduled]
  cases commits with
  | false => exact ⟨diagnosed, decided, recovered⟩
  | true => exact ⟨diagnosed, decided, recovered.logged ⟨rfl, rfl⟩ (.metric _ _)⟩

/-- A recovery that returned found its run and the failed step, and recorded
what the diagnosis and the decision gave. -/
theorem handle_ok {result : RunStep} {report : FailureReportV1}
    (returned : handle env runId stepId failure requestedAction commits s = (.ok (result, report, decision), t)) :
    ∃ run step, s.working.run? runId = some run ∧ s.working.getStep runId stepId = some step ∧
      step.status = .failed ∧ env.diagnose failure = .ok report ∧
      decide env run report requestedAction = .ok decision ∧
      Recovered runId stepId run report.modelDump decision commits s t result := by
  have started := returned
  unfold handle at started
  obtain ⟨run, s1, looked, continued⟩ := bind_ok started
  obtain ⟨atRun, rfl⟩ := existingRun_ok looked
  obtain ⟨step, s2, lookedToo, last⟩ := bind_ok continued
  obtain ⟨found, rfl⟩ := existingStep_ok lookedToo
  have failed : step.status = .failed := by
    by_contra other
    rw [if_pos other] at last
    cases last
  have ends := handle_ends env failure requestedAction commits atRun found failed
  rw [returned] at ends
  exact ⟨run, step, atRun, found, failed, ends⟩

end

end SacmRuntime
