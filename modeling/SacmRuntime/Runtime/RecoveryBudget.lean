import SacmRuntime.Runtime.WorkflowEnds

namespace SacmRuntime
open Session RecoveryService Tx Table

/-- `run.recovery_state["history"]`. -/
def Run.recoveryHistory (run : Run) : List Json := ((run.recoveryState.getD .null).get "history").items

def scheduledEntry (entry : Json) : Bool := (entry.get "decision").get "status" = .str "SCHEDULED"

/-- The counter and the history of a run agree, and no recovery was scheduled
beyond the budget. -/
structure Budgeted (env : Env) (run : Run) : Prop where
  counted : run.recoveryAttemptCount = run.recoveryHistory.length
  numbered : ∀ (i : Nat) (entry : Json), run.recoveryHistory[i]? = some entry → entry.get "attempt" = .int (i + 1)
  within : ∀ (i : Nat) (entry : Json), run.recoveryHistory[i]? = some entry → scheduledEntry entry →
    (i : Int) + 1 ≤ env.maxRecoveryAttempts

theorem length_filter_le_of_places {α : Type} {p : α → Bool} {history : List α} {n : Nat}
    (places : ∀ i entry, history[i]? = some entry → p entry → i < n) : (history.filter p).length ≤ n := by
  have late : (history.drop n).filter p = [] := by
    refine List.filter_eq_nil_iff.mpr fun entry member holds => ?_
    obtain ⟨i, found⟩ := List.mem_iff_getElem?.mp member
    rw [List.getElem?_drop] at found
    have := places (n + i) entry found holds
    omega
  calc (history.filter p).length
      = ((history.take n).filter p).length + ((history.drop n).filter p).length := by
        rw [← List.length_append, ← List.filter_append, List.take_append_drop]
    _ ≤ n := by
        rw [late, List.length_nil, Nat.add_zero]
        exact (List.length_filter_le _ _).trans (List.length_take_le _ _)

section
variable {env : Env} {run old new : Run} {runId stepId : String}

theorem Budgeted.scheduled_le (budgeted : Budgeted env run) :
    (run.recoveryHistory.filter scheduledEntry).length ≤ env.maxRecoveryAttempts.toNat := by
  refine length_filter_le_of_places fun i entry found scheduled => ?_
  have := budgeted.within i entry found scheduled
  omega

theorem Run.recoveryHistory_of_recoveries (same : new.recoveries = old.recoveries) :
    new.recoveryHistory = old.recoveryHistory ∧ new.recoveryAttemptCount = old.recoveryAttemptCount := by
  have both := Prod.mk.inj same
  unfold Run.recoveryHistory
  rw [both.1]
  exact ⟨rfl, both.2⟩

theorem Budgeted.of_recoveries (budgeted : Budgeted env old) (same : new.recoveries = old.recoveries) :
    Budgeted env new := by
  obtain ⟨history, count⟩ := Run.recoveryHistory_of_recoveries same
  constructor
  · rw [count, history]
    exact budgeted.counted
  · rw [history]
    exact budgeted.numbered
  · rw [history]
    exact budgeted.within

theorem Budgeted.unrecovered (none_yet : run.recoveries = (none, 0)) : Budgeted env run := by
  have both := Prod.mk.inj none_yet
  have empty : run.recoveryHistory = [] := by
    unfold Run.recoveryHistory
    rw [both.1]
    rfl
  constructor
  · rw [both.2, empty]
    rfl
  · simp [empty]
  · simp [empty]

/-- The entry `schedule_recovery` appends. -/
def recoveryEntry (stepId : String) (failure : Json) (decision : RecoveryDecisionV1) (recordedAt : Nat) : Json :=
  .obj [("attempt", .int decision.attempt), ("step_id", .str stepId), ("failure", failure),
    ("decision", decision.modelDump), ("recorded_at", .str (isoformat recordedAt))]

variable {d : Db} {decision : RecoveryDecisionV1} {failure : Json} {recordedAt : Nat} {report : FailureReportV1}
  {requested : Option RecoveryAction}

theorem recoveryHistory_recovered
    (recorded : new.recoveries = (some (recoveryState old stepId failure decision recordedAt), decision.attempt)) :
    new.recoveryHistory = old.recoveryHistory ++ [recoveryEntry stepId failure decision recordedAt] := by
  unfold Run.recoveryHistory
  rw [(Prod.mk.inj recorded).1]
  rfl

theorem scheduledEntry_iff :
    scheduledEntry (recoveryEntry stepId failure decision recordedAt) ↔ decision.status = .scheduled := by
  have status : ((recoveryEntry stepId failure decision recordedAt).get "decision").get "status" =
      .str decision.status.name := rfl
  unfold scheduledEntry
  rw [status]
  cases decision.status <;> simp [RecoveryStatus.name]

theorem decided_within (decides : decide env old report requested = .ok decision)
    (scheduled : decision.status = .scheduled) : decision.attempt ≤ env.maxRecoveryAttempts := by
  have decided := decided_of_decide decides
  have open_ : ¬blocked env report old.recoveryAttemptCount
      ((old.recoveryState.getD .null).get "history").items requested = true := by
    intro blocked
    have action := decided.action
    rw [if_pos blocked] at action
    simp [decided.status, action] at scheduled
  have room : ¬env.maxRecoveryAttempts < old.recoveryAttemptCount + 1 := by
    intro exceeded
    exact open_ (by simp [blocked, exceeded])
  rw [decided.attempt]
  omega

theorem Budgeted.record (budgeted : Budgeted env old)
    (decides : decide env old report requested = .ok decision)
    (recorded : new.recoveries = (some (recoveryState old stepId failure decision recordedAt), decision.attempt)) :
    Budgeted env new := by
  have attempt := (decided_of_decide decides).attempt
  have history := recoveryHistory_recovered recorded
  have count : new.recoveryAttemptCount = decision.attempt := (Prod.mk.inj recorded).2
  have placed : decision.attempt = old.recoveryHistory.length + 1 := by rw [attempt, budgeted.counted]
  -- An entry of the new history is an old one, or the last.
  have places : ∀ i entry, new.recoveryHistory[i]? = some entry → old.recoveryHistory[i]? = some entry ∨
      (i = old.recoveryHistory.length ∧ entry = recoveryEntry stepId failure decision recordedAt) := by
    intro i entry found
    rw [history, List.getElem?_append] at found
    split at found
    · exact .inl found
    · have here : i - old.recoveryHistory.length = 0 := by
        by_contra later
        simp [later] at found
      rw [here] at found
      exact .inr ⟨by omega, (Option.some.inj found).symm⟩
  constructor
  · rw [count, placed, history]
    simp
  · intro i entry found
    rcases places i entry found with before | ⟨rfl, rfl⟩
    · exact budgeted.numbered i entry before
    · rw [← placed]
      rfl
  · intro i entry found scheduled
    rcases places i entry found with before | ⟨rfl, rfl⟩
    · exact budgeted.within i entry before scheduled
    · rw [← placed]
      exact decided_within decides (scheduledEntry_iff.mp scheduled)

def WithinBudget (env : Env) (runId : String) (d : Db) : Prop := ∀ run, d.run? runId = some run → Budgeted env run

/-- A write that records only decided recoveries on the run and restores
nothing keeps its budget. -/
theorem Write.keeps_budget {p : Permit} {s : Session Db} (write : Write env p s d)
    (decides : ∀ run decision, run.id = runId → p.recover run decision → ∃ report requested,
      decide env run report requested = .ok decision)
    (unrestored : ¬p.rewind runId) (within : WithinBudget env runId s.working) : WithinBudget env runId d := by
  intro run found
  unfold Db.run? at found
  cases write with
  | other runs => exact within run (by rw [← found, runs]; rfl)
  | insertStep | step | event | snapshot | insertJob | job => exact within run found
  | insertRun _ unrecovered inserted =>
    rw [find_insert? inserted] at found
    split at found
    · cases found
      exact .unrecovered unrecovered
    · exact within run found
  | run id f move =>
    change (s.working.runs.update id f).find runId = some run at found
    rw [find_update] at found
    split at found
    · rename_i here
      obtain ⟨old, atOld, rfl⟩ := Option.map_eq_some_iff.mp found
      have moved := move old (here ▸ atOld)
      have key : old.id = runId := find_key atOld
      rw [rewriteRow_of_keeps moved.id]
      rcases moved.recovery with same | ⟨stepId, failure, decision, recordedAt, granted, recorded⟩ | restored
      · exact (within old atOld).of_recoveries same
      · obtain ⟨report, requested, decided⟩ := decides old decision key granted
        exact (within old atOld).record decided recorded
      · exact absurd (key ▸ restored) unrestored
    · exact within run found

/-- The request neither restores a snapshot of the run nor records a
decision on it that did not come from `decide`. -/
def Operation.RespectsBudget (runId : String) (op : Operation) : Prop :=
  (∀ snapshotId reason, op ≠ .restore runId snapshotId reason) ∧
    ∀ stepId failure decision commits, op ≠ .scheduleRecovery runId stepId failure decision commits

theorem Operation.keeps_budget {supply : Supply} {op : Operation} (respects : op.RespectsBudget runId)
    (within : WithinBudget env runId d) : WithinBudget env runId (op.after env d supply) := by
  refine request_keeps (op.writes env d supply) (fun s e write => write.keeps_budget ?_ ?_) within
  · intro run decision key granted
    cases op with
    | scheduleRecovery id stepId failure given commits =>
      obtain ⟨rfl, -⟩ : run.id = id ∧ decision = given := granted
      exact absurd (key ▸ rfl) (respects.2 stepId failure given commits)
    | handleFailure | submit | failJob =>
      obtain ⟨report, decided⟩ := granted
      exact ⟨report, _, decided⟩
    | _ => exact granted.elim
  · intro restored
    cases op with
    | restore id snapshotId reason =>
      obtain rfl : runId = id := restored
      exact respects.1 snapshotId reason rfl
    | _ => exact restored

end

def Counted (runId : String) (n : Int) (d : Db) : Prop :=
  ∃ run, d.run? runId = some run ∧ n ≤ run.recoveryAttemptCount

/-- The call does not set the run's recovery counter back. -/
def Call.KeepsCount {α : Type} (runId : String) (call : Call α) : Prop :=
  ∀ d run, d.run? runId = some run →
    ∃ later, (call.writes d).run? runId = some later ∧ run.recoveryAttemptCount ≤ later.recoveryAttemptCount

structure Attempt.KeepsCount (runId : String) (attempt : Attempt) : Prop where
  runTask : attempt.runTask.KeepsCount runId
  build : attempt.build.KeepsCount runId
  verify : attempt.verify.KeepsCount runId
  finalBuild : attempt.finalBuild.KeepsCount runId
  finalVerify : attempt.finalVerify.KeepsCount runId

/-- Everything is granted but a restore, and recoveries as `decide` decides them. -/
def deciding (env : Env) : Permit where
  assign _ _ := True
  complete _ := True
  addStep _ := True
  unsettle _ := True
  finish _ := True
  rewind _ := False
  schedule _ := True
  issue _ _ := True
  requeue _ := True
  recover run decision := ∃ report requested, RecoveryService.decide env run report requested = .ok decision

namespace LocalWorkflow

section
variable {env : Env} {runId stepId : String} {n : Int} {α : Type}

def Counting (runId : String) (n : Int) (s t : Session Db) : Prop :=
  Everywhere (Counted runId n) s → Everywhere (Counted runId n) t

variable {commits : Bool} {expected : Run} {failure : Json} {m : Service α} {next step : RunStep}
  {requested : Option RecoveryAction} {s t : Session Db}

theorem write_counts {d : Db} (write : Write env (deciding env) s d) (counted : Counted runId n s.working) :
    Counted runId n d := by
  obtain ⟨run, found, least⟩ := counted
  unfold Counted Db.run? at *
  cases write with
  | other runs => exact ⟨run, by rw [runs]; exact found, least⟩
  | insertStep | step | event | snapshot | insertJob | job => exact ⟨run, found, least⟩
  | insertRun _ _ inserted => exact ⟨run, find_insert?_of_some inserted found, least⟩
  | run id f move =>
    by_cases here : runId = id
    · subst here
      have moved := move run found
      refine ⟨f run, ?_, ?_⟩
      · rw [find_update, if_pos rfl, found]
        exact congrArg some (rewriteRow_of_keeps moved.id)
      · rcases moved.recovery with same | ⟨_, _, decision, _, ⟨report, requested, decides⟩, recorded⟩ | restored
        · rw [(Prod.mk.inj same).2]
          exact least
        · rw [(Prod.mk.inj recorded).2, (decided_of_decide decides).attempt]
          omega
        · exact restored.elim
    · exact ⟨run, by rw [find_update_ne here]; exact found, least⟩

theorem counts_of_writes (writes : Writes env (deciding env) m) : Tx.Moves (Counting runId n) m :=
  writes.mono fun _ _ step => step.everywhere fun _ _ write => write_counts write

theorem play_counts {call : Call α} (keeps : call.KeepsCount runId) : Tx.Moves (Counting runId n) call.play := by
  unfold Call.play
  refine Tx.Moves.bind (fun s => movesFrom_shift fun counted => ?_) fun _ => moves_ite ?_ moves_ofExcept
  · obtain ⟨run, found, least⟩ := counted.working
    obtain ⟨later, kept, more⟩ := keeps s.working run found
    exact ⟨counted.committed, counted.flushed, later, kept, least.trans more⟩
  · exact Tx.Moves.bind (fun s => .single fun counted => ⟨counted.working, counted.working, counted.working⟩)
      fun _ => moves_ofExcept

theorem expireAll_counts : Tx.Moves (Counting runId n) expireAll := by
  refine fun s => .single fun counted => ⟨counted.committed, counted.flushed, ?_⟩
  obtain ⟨held, found, least⟩ := counted.working
  obtain ⟨stored, atStored, leastStored⟩ := counted.flushed
  refine ⟨stored, ?_, leastStored⟩
  unfold Db.run? at *
  change (s.flushed.runs.refresh s.working.runs).find runId = _
  rw [find_refresh, found, atStored]
  rfl

theorem currentRun_counts : Tx.Moves (Counting runId n) (currentRun runId) := by
  unfold currentRun
  exact fun s => movesFrom_read (moves_expect s)

theorem transition_counts {status : RunStatus} {eventType actor : String} {payload : Json} {about : Option String} :
    Tx.Moves (Counting runId n) (RunService.transition env runId status eventType actor payload about) :=
  counts_of_writes fun _ => transition_writesFrom fun _ => trivial

theorem handle_counts :
    Tx.Moves (Counting runId n) (handle env runId stepId failure requested commits) :=
  counts_of_writes fun _ => handle_writesFrom fun _ _ report _ _ _ _ _ decided => ⟨trivial, report, _, decided⟩

theorem failStep_counts :
    Tx.Moves (Counting runId n) (RunService.failStep env runId stepId failure commits) :=
  counts_of_writes fun _ => failStep_writesFrom fun _ _ _ => trivial

theorem interruptStep_counts {reason : String} {cancelled : Bool} :
    Tx.Moves (Counting runId n) (RunService.interruptStep env runId stepId reason cancelled) :=
  counts_of_writes interruptStep_writes

variable {attempt : Attempt} {output : Json}

theorem completeRun_counts (keeps : attempt.KeepsCount runId) :
    Tx.Moves (Counting runId n) (completeRun env runId stepId attempt output) := by
  unfold completeRun
  refine (play_counts keeps.verify).bind fun report => moves_ite (fun _ => movesFrom_raise _) ?_
  refine transition_counts.bind fun completed => (play_counts keeps.finalBuild).bind fun pack => ?_
  refine (play_counts keeps.finalVerify).bind fun final => moves_ite (fun _ => movesFrom_raise _) ?_
  exact (counts_of_writes refreshAnalytics_writes).bind fun error _ => movesFrom_pure _

theorem deliver_counts (keeps : attempt.KeepsCount runId) :
    Tx.Moves (Counting runId n) (deliver env runId stepId attempt output) := by
  unfold deliver
  refine (counts_of_writes (completeStep_writes trivial)).bind fun step => ?_
  refine transition_counts.bind fun _ => transition_counts.bind fun _ => transition_counts.bind fun _ => ?_
  refine Tx.Moves.bind (fun _ => .refl) fun stored => moves_ite (completeRun_counts keeps) ?_
  exact (play_counts keeps.build).bind fun _ => completeRun_counts keeps

theorem escalate_counts {recovery : Json} : Tx.Moves (Counting runId n) (escalate env runId stepId recovery) := by
  unfold escalate
  refine failStep_counts.bind fun step => handle_counts.bind fun handled => ?_
  exact moves_expect.bind fun message _ => movesFrom_pure _

theorem tryAttempt_counts (keeps : attempt.KeepsCount runId) :
    Tx.Moves (Counting runId n) (tryAttempt env runId stepId expected attempt) := by
  unfold tryAttempt
  refine (play_counts keeps.runTask).bind fun output => expireAll_counts.bind fun _ => ?_
  refine currentRun_counts.bind fun current => ?_
  refine moves_ite (interruptStep_counts.bind fun _ _ => movesFrom_pure _) ?_
  refine moves_ite (interruptStep_counts.bind fun _ _ => movesFrom_pure _) ?_
  refine moves_expect.bind fun status => moves_ite ?_ (deliver_counts keeps)
  exact moves_ite escalate_counts fun _ => movesFrom_raise _

theorem beginAttempt_counts : Tx.Moves (Counting runId n) (beginAttempt env runId stepId) := by
  unfold beginAttempt
  refine (counts_of_writes startStep_writes).bind fun step => currentRun_counts.bind fun current => ?_
  have reread : Tx.Moves (Counting runId n) (expireAll >>= fun _ => currentRun runId) :=
    expireAll_counts.bind fun _ => currentRun_counts
  exact moves_ite (transition_counts.bind fun _ => reread) reread

theorem counted_after {r : Except Error α} (ran : m s = (r, t)) (moves : Tx.Moves (Counting runId n) m)
    (counted : Everywhere (Counted runId n) s) :
    Everywhere (Counted runId n) t := by
  have after := (moves s).keeps (fun _ _ counts => counts) counted
  rwa [ran] at after

theorem handle_scheduled {result : RunStep} {report : FailureReportV1} {decision : RecoveryDecisionV1}
    (counted : Everywhere (Counted runId n) s)
    (returned : handle env runId stepId failure requested true s = (.ok (result, report, decision), t))
    (scheduled : decision.status ≠ .escalated) :
    Everywhere (Counted runId (max n 0 + 1)) t ∧ max n 0 + 1 ≤ env.maxRecoveryAttempts := by
  obtain ⟨run, step, atRun, -, -, -, decides, recovered⟩ := handle_ok returned
  obtain ⟨row, found, least⟩ := counted.working
  rw [atRun] at found
  cases found
  have decided := decided_of_decide decides
  have more : max n 0 + 1 ≤ decision.attempt := by
    have nonnegative := decided.counted
    rw [decided.attempt]
    omega
  obtain ⟨after, recordedAt, atAfter, -, -, recorded⟩ := recovered.run
  have here : Counted runId (max n 0 + 1) t.working :=
    ⟨after, atAfter, by rw [(Prod.mk.inj recorded).2]; exact more⟩
  obtain ⟨committed, flushed⟩ := recovered.clean rfl
  refine ⟨⟨?_, ?_, here⟩, more.trans (decided_within decides ?_)⟩
  · rw [committed]
    exact here
  · rw [flushed]
    exact here
  · cases status : decision.status with
    | scheduled => rfl
    | escalated => exact absurd status scheduled

theorem onException_retries {e : Error} (counted : Everywhere (Counted runId n) s)
    (retried : onException env runId stepId expected e s = (.ok (.inr next), t)) :
    Everywhere (Counted runId (max n 0 + 1)) t ∧ max n 0 + 1 ≤ env.maxRecoveryAttempts := by
  unfold onException at retried
  obtain ⟨_, s1, expiredAll, rest⟩ := bind_ok retried
  have counted1 := counted_after expiredAll expireAll_counts counted
  obtain ⟨current, s2, read, rest⟩ := bind_ok rest
  have counted2 := counted_after read currentRun_counts counted1
  split at rest
  · obtain ⟨_, _, _, last⟩ := bind_ok rest
    cases last
  split at rest
  · obtain ⟨_, _, _, last⟩ := bind_ok rest
    cases last
  obtain ⟨failed, s3, failing, rest⟩ := bind_ok rest
  have counted3 := counted_after failing failStep_counts counted2
  obtain ⟨⟨recovered, report, decision⟩, s4, handled, last⟩ := bind_ok rest
  dsimp only at last
  split at last
  · cases last
  · rename_i scheduled
    cases last
    exact handle_scheduled counted3 handled scheduled

theorem tryStep_retries (keeps : attempt.KeepsCount runId) (counted : Everywhere (Counted runId n) s)
    (retried : tryStep env runId step attempt s = (.ok (.inr next), t)) :
    Everywhere (Counted runId (max n 0 + 1)) t ∧ max n 0 + 1 ≤ env.maxRecoveryAttempts := by
  unfold tryStep at retried
  obtain ⟨expected, s1, began, rest⟩ := bind_ok retried
  have counted1 := counted_after began beginAttempt_counts counted
  unfold catchRaise at rest
  rcases ran : tryAttempt env runId step.id expected attempt s1 with ⟨result, s2⟩
  rw [bind_run, ran] at rest
  have counted2 := counted_after ran (tryAttempt_counts keeps) counted1
  cases result with
  | ok value => cases rest
  | error e => exact onException_retries counted2 rest

theorem recoverFailed_counts : Tx.Moves (Counting runId n) (recoverFailed env runId step) := by
  unfold recoverFailed
  refine moves_ite (handle_counts.bind fun handled => moves_ite ?_ fun _ => movesFrom_pure _)
    fun _ => movesFrom_pure _
  exact moves_expect.bind fun message _ => movesFrom_pure _

theorem startRun_counts : Tx.Moves (Counting runId n) (startRun env runId) := by
  unfold startRun
  refine moves_requireRun.bind fun run => moves_ite (fun _ => movesFrom_raise _) ?_
  refine moves_ite transition_counts (moves_ite (counts_of_writes resume_writes) ?_)
  exact moves_ite (fun _ => movesFrom_raise _) fun _ => movesFrom_pure _

theorem retryLoop_exhausted {attempts : List Attempt} (keeps : ∀ attempt ∈ attempts, attempt.KeepsCount runId)
    (counted : Everywhere (Counted runId n) s) (ended : retryLoop env runId attempts step s = (.ok none, t)) :
    attempts = [] ∨ max n 0 + attempts.length ≤ env.maxRecoveryAttempts := by
  induction attempts generalizing n step s with
  | nil => exact .inl rfl
  | cons attempt rest ih =>
    unfold retryLoop at ended
    obtain ⟨head, s1, recovered, continued⟩ := bind_ok ended
    have counted1 := counted_after recovered recoverFailed_counts counted
    cases head with
    | inl value => cases continued
    | inr again =>
      obtain ⟨tried, s2, ran, last⟩ := bind_ok continued
      cases tried with
      | inl value => cases last
      | inr next =>
        obtain ⟨counted2, within⟩ := tryStep_retries (keeps attempt (by simp)) counted1 ran
        rw [List.length_cons]
        rcases ih (fun other member => keeps other (by simp [member])) counted2 last with rfl | more
        · simpa using within
        · omega

end

/-- Whatever the orchestrator does, the call never asks for more attempts
than one and the budget. -/
theorem execute_within_budget {env : Env} {runId : String} {attempts : List Attempt} {s t : Session Db}
    (clean : s.Clean) (keeps : ∀ attempt ∈ attempts, attempt.KeepsCount runId)
    (more : env.maxRecoveryAttempts.toNat < attempts.length) : execute env runId attempts s ≠ (.ok none, t) := by
  intro ended
  unfold execute at ended
  obtain ⟨run, s1, started, continued⟩ := bind_ok ended
  obtain ⟨row, found⟩ : ∃ row, s.working.run? runId = some row := by
    have looked := started
    unfold startRun at looked
    obtain ⟨row, _, required, _⟩ := bind_ok looked
    exact ⟨row, (requireRun_ok required).1⟩
  have counted : Everywhere (Counted runId row.recoveryAttemptCount) s := by
    have here : Counted runId row.recoveryAttemptCount s.working := ⟨row, found, le_rfl⟩
    exact ⟨clean.1 ▸ here, clean.2 ▸ here, here⟩
  have counted1 := counted_after started startRun_counts counted
  obtain ⟨step, s2, added, looped⟩ := bind_ok continued
  have counted2 := counted_after added (counts_of_writes fun _ => addStep_writesFrom fun _ => trivial) counted1
  rcases retryLoop_exhausted keeps counted2 looped with none_left | within
  · simp [none_left] at more
  · omega

end LocalWorkflow

/-- Along every run of the control plane whose requests recover the run only
through `handle` and restore no snapshot of it, the counter is the length of
the history, whose entries are numbered 1, 2, 3 and so on; each recovery
counts one more; at most the budget is ever scheduled; and the retry loop of
the local workflow needs no more attempts than one and the budget. -/
theorem recovery_budget {env : Env} {d e : Db} {runId : String}
    (path : Execution env (fun _ _ op => op.RespectsBudget runId) d e)
    (unrecovered : ∀ run, d.run? runId = some run → run.recoveries = (none, 0)) :
    (∀ run, e.run? runId = some run →
      run.recoveryAttemptCount = run.recoveryHistory.length ∧
      (∀ (i : Nat) (entry : Json), run.recoveryHistory[i]? = some entry → entry.get "attempt" = .int (i + 1)) ∧
      (run.recoveryHistory.filter scheduledEntry).length ≤ env.maxRecoveryAttempts.toNat) ∧
    (∀ supply stepId failure requested commits handled t,
      RecoveryService.handle env runId stepId failure requested commits (start e supply) = (.ok handled, t) →
      ∃ old new, e.run? runId = some old ∧ t.working.run? runId = some new ∧
        new.recoveryAttemptCount = old.recoveryAttemptCount + 1 ∧
        new.recoveryHistory.length = old.recoveryHistory.length + 1) ∧
    ∀ supply attempts t, (∀ attempt ∈ attempts, attempt.KeepsCount runId) →
      env.maxRecoveryAttempts.toNat < attempts.length →
      LocalWorkflow.execute env runId attempts (start e supply) ≠ (.ok none, t) := by
  have within : WithinBudget env runId e :=
    path.keeps (fun _ _ _ respects kept => Operation.keeps_budget respects kept)
      fun run found => .unrecovered (unrecovered run found)
  refine ⟨fun run found => ?_, ?_, ?_⟩
  · have budgeted := within run found
    exact ⟨budgeted.counted, budgeted.numbered, budgeted.scheduled_le⟩
  · rintro supply stepId failure requested commits ⟨result, report, decision⟩ t returned
    obtain ⟨old, step, atRun, -, -, -, decides, recovered⟩ := handle_ok returned
    obtain ⟨new, recordedAt, atNew, -, -, recorded⟩ := recovered.run
    refine ⟨old, new, atRun, atNew, ?_, ?_⟩
    · rw [(Prod.mk.inj recorded).2, (RecoveryService.decided_of_decide decides).attempt]
    · rw [recoveryHistory_recovered recorded]
      simp
  · exact fun supply attempts t keeps more => LocalWorkflow.execute_within_budget ⟨rfl, rfl⟩ keeps more

open Sample in
/-- One handled failure: the counter and the history both stand at one. -/
theorem recovery_budget_sample :
    ∃ run, (Operation.after env (.handleFailure "r" "s" (.obj []) none true) (store .failed .failed) supply).run? "r" =
        some run ∧
      run.recoveryAttemptCount = 1 ∧ run.recoveryAttemptCount = run.recoveryHistory.length ∧
      (run.recoveryHistory.filter scheduledEntry).length ≤ 3 := by
  have counted : ((Operation.after env (.handleFailure "r" "s" (.obj []) none true) (store .failed .failed) supply).run?
      "r").map Run.recoveryAttemptCount = some 1 := by
    decide +kernel
  obtain ⟨run, found, one⟩ := Option.map_eq_some_iff.mp counted
  have path : Execution env (fun _ _ op => op.RespectsBudget "r") (store .failed .failed)
      (Operation.after env (.handleFailure "r" "s" (.obj []) none true) (store .failed .failed) supply) :=
    .next .start _ supply (by simp [Operation.RespectsBudget])
  have unrecovered : ∀ run, (store .failed .failed).run? "r" = some run → run.recoveries = (none, 0) := by
    intro run atRun
    cases atRun
    rfl
  obtain ⟨same, -, within⟩ := (recovery_budget path unrecovered).1 run found
  exact ⟨run, found, one, same, within⟩

end SacmRuntime
