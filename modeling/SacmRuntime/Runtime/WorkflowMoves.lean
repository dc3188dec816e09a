import SacmRuntime.Runtime.WorkflowQueue

namespace SacmRuntime
open Session WorkflowQueueService
open Table hiding insert updateWhere update

theorem Logged.workflowJobs {d e : Db} (logged : Logged d e) : e.workflowJobs = d.workflowJobs := by
  obtain ⟨_, _, _, rfl⟩ := logged
  rfl

/-- A request on the queue other than `claim`; `recover` is the first thing a claim does. -/
inductive QueueOp where
  | submit (config : QueueConfig) (runId : String)
  | cancel (runId : String)
  | renew (config : QueueConfig) (jobId token : String)
  | complete (jobId token : String)
  | fail (jobId token error : String)
  | recover (now : Nat)

def QueueOp.after (env : Env) (d : Db) (supply : Supply) : QueueOp → Db
  | submit config runId => (request (WorkflowQueueService.submit config runId) d supply).2
  | cancel runId => (request (WorkflowQueueService.cancel runId) d supply).2
  | renew config jobId token => (request (WorkflowQueueService.renew config jobId token) d supply).2
  | complete jobId token => (request (WorkflowQueueService.complete jobId token) d supply).2
  | fail jobId token error => (request (WorkflowQueueService.fail env jobId token error) d supply).2
  | recover now => (request (recoverExpired now) d supply).2

/-- What a request on the store `d` can make of one job. -/
inductive QueueMove (d : Db) : QueueOp → WorkflowJob → WorkflowJob → Prop
  | stay {op : QueueOp} (job : WorkflowJob) : QueueMove d op job job
  | resubmit {job : WorkflowJob} (config : QueueConfig) (now : Nat) (found : getForRun d job.runId = some job)
      (done : ¬(job.state = .queued ∨ job.state = .running)) :
      QueueMove d (.submit config job.runId) job (job.resubmit now)
  | cancel {job : WorkflowJob} (now : Nat) : QueueMove d (.cancel job.runId) job (job.finish .cancelled now)
  | renew {job : WorkflowJob} {token : String} (config : QueueConfig) (now : Nat)
    (live : job.renewable token now = true) :
      QueueMove d (.renew config job.id token) job (job.extend now config.leaseSeconds)
  | complete {job : WorkflowJob} {token : String} (now : Nat) (owned : job.OwnedWith token) :
      QueueMove d (.complete job.id token) job (job.finish .completed now)
  | retry {job : WorkflowJob} {token : String} (error : String) (availableAt : Nat) (owned : job.OwnedWith token)
      (left : ¬job.Exhausted) : QueueMove d (.fail job.id token error) job (job.retry (kept error) availableAt)
  | giveUp {job : WorkflowJob} {token : String} (error : String) (now : Nat) (owned : job.OwnedWith token)
      (exhausted : job.Exhausted) : QueueMove d (.fail job.id token error) job (job.giveUp (kept error) now)
  | recover {job : WorkflowJob} (now : Nat) (late : job.expired now = true) :
      QueueMove d (.recover now) job (job.recover now)

theorem QueueMove.keeps {d : Db} {op : QueueOp} {old new : WorkflowJob} (move : QueueMove d op old new) :
    new.id = old.id ∧ new.runId = old.runId ∧ new.attempt = old.attempt ∧ new.maxAttempts = old.maxAttempts ∧
      (new.leaseToken = none ∨ new.leaseToken = old.leaseToken) := by
  cases move with
  | stay | renew => exact ⟨rfl, rfl, rfl, rfl, .inr rfl⟩
  | resubmit | cancel | complete | retry | giveUp => exact ⟨rfl, rfl, rfl, rfl, .inl rfl⟩
  | recover now late =>
    unfold WorkflowJob.recover
    split <;> exact ⟨rfl, rfl, rfl, rfl, .inl rfl⟩

/-- The job is the one just submitted for a run that had none. -/
structure Submitted (d : Db) (op : QueueOp) (job : WorkflowJob) : Prop where
  run : (d.run? job.runId).isSome
  absent : getForRun d job.runId = none
  fresh : d.workflowJobs.find job.id = none
  made : ∃ config now, op = .submit config job.runId ∧ job = newJob config job.id job.runId now

/-- What a request makes of all jobs: no run or job disappears, and each job
is moved, or is the one just submitted. -/
structure QueueMoved (op : QueueOp) (d e : Db) : Prop where
  runs : ∀ id, (d.run? id).isSome → (e.run? id).isSome
  stay : ∀ id, (d.workflowJobs.find id).isSome → (e.workflowJobs.find id).isSome
  origin : ∀ job ∈ e.workflowJobs.rows,
    Submitted d op job ∨ ∃ old, d.workflowJobs.find job.id = some old ∧ QueueMove d op old job

namespace QueueMoved
variable {op : QueueOp} {d e : Db} {p : WorkflowJob → Bool} {f : WorkflowJob → WorkflowJob}

theorem of_same (runs : ∀ id, (d.run? id).isSome → (e.run? id).isSome) (same : e.workflowJobs = d.workflowJobs) :
    QueueMoved op d e where
  runs := runs
  stay _ held := same ▸ held
  origin job member := .inr ⟨job, find_of_mem (same ▸ member), .stay job⟩

theorem refl (op : QueueOp) (d : Db) : QueueMoved op d d := of_same (fun _ held => held) rfl

theorem updateWhere (runs : ∀ id, (d.run? id).isSome → (e.run? id).isSome)
    (same : e.workflowJobs = d.workflowJobs.updateWhere p f)
    (move : ∀ job ∈ d.workflowJobs.rows, p job = true → QueueMove d op job (f job)) : QueueMoved op d e where
  runs := runs
  stay other held := by
    rw [same, find_updateWhere]
    simpa using held
  origin job member := by
    rw [same] at member
    obtain ⟨old, inOld, changed⟩ := List.mem_map.mp member
    split at changed
    · rename_i selected
      have moved := move old inOld selected
      rw [rewriteRow_of_keeps moved.keeps.1] at changed
      subst changed
      have key : (f old).id = old.id := moved.keeps.1
      exact .inr ⟨old, key ▸ find_of_mem inOld, moved⟩
    · subst changed
      exact .inr ⟨old, find_of_mem inOld, .stay old⟩

variable {job : WorkflowJob} {jobId : String}

theorem update (runs : ∀ id, (d.run? id).isSome → (e.run? id).isSome)
    (same : e.workflowJobs = d.workflowJobs.update jobId f) (found : d.workflowJobs.find jobId = some job)
    (move : QueueMove d op job (f job)) : QueueMoved op d e := by
  refine updateWhere runs same fun row member selected => ?_
  have here : d.workflowJobs.find jobId = some row := find_eq_some_iff.mpr ⟨member, by simpa using selected⟩
  cases Option.some.inj (found.symm.trans here)
  exact move

theorem of_logged (logged : Logged { d with workflowJobs := d.workflowJobs.update jobId f } e)
    (found : d.workflowJobs.find jobId = some job) (move : QueueMove d op job (f job)) : QueueMoved op d e := by
  refine update (fun id held => ?_) logged.workflowJobs found move
  rw [logged.run? id]
  exact held

theorem insert {config : QueueConfig} {id runId : String} {now : Nat} {next : Table WorkflowJob}
    (held : (d.run? runId).isSome) (absent : getForRun d runId = none)
    (inserted : d.workflowJobs.insert? (newJob config id runId now) = some next)
    (logged : Logged { d with workflowJobs := next } e) : QueueMoved (.submit config runId) d e where
  runs other known := by
    rw [logged.run? other]
    exact known
  stay other known := by
    rw [logged.workflowJobs, find_insert? inserted]
    split <;> simp_all
  origin row member := by
    obtain ⟨fresh, rows⟩ := insert?_eq_some inserted
    rw [logged.workflowJobs, rows] at member
    rcases List.mem_append.mp member with old | newest
    · exact .inr ⟨row, find_of_mem old, .stay row⟩
    · cases List.mem_singleton.mp newest
      exact .inl ⟨held, absent, fresh, config, now, rfl, rfl⟩

end QueueMoved

section
variable {env : Env} {d : Db} {supply : Supply}

theorem getForRun_find {runId : String} {job : WorkflowJob} (found : getForRun d runId = some job) :
    d.workflowJobs.find job.id = some job ∧ job.runId = runId :=
  ⟨find_of_mem (List.mem_of_find?_eq_some found), by simpa using List.find?_some found⟩

theorem submit_moves (config : QueueConfig) (runId : String) :
    QueueMoved (.submit config runId) d (request (submit config runId) d supply).2 := by
  by_cases refused : ∀ run, d.run? runId = some run → run.status = .completed ∨ run.status = .cancelled
  · obtain ⟨e, ran⟩ : ∃ e, request (submit config runId) d supply = (.error e, d) := submit_refused refused
    rw [ran]
    exact .refl _ d
  · push Not at refused
    obtain ⟨run, atRun, live⟩ := refused
    have open_ : ¬(run.status = .completed ∨ run.status = .cancelled) := not_or.mpr live
    cases found : getForRun d runId with
    | some job =>
      by_cases waiting : job.state = .queued ∨ job.state = .running
      · rw [submit_waiting atRun open_ found waiting]
        exact .refl _ d
      · obtain ⟨inTable, ofRun⟩ := getForRun_find found
        subst ofRun
        exact .of_logged (submit_requeues atRun open_ found waiting).2 inTable (.resubmit _ _ found waiting)
    | none =>
      cases inserted : d.workflowJobs.insert? (newJob config (supply.uuids 0) runId (supply.clock 0)) with
      | none =>
        rw [submit_clashes atRun open_ found inserted]
        exact .refl _ d
      | some next =>
        exact .insert (by simp [atRun]) found inserted (submit_inserts atRun open_ found inserted).2

theorem cancel_moves (runId : String) : QueueMoved (.cancel runId) d (request (cancel runId) d supply).2 := by
  by_cases idle : ∀ job, getForRun d runId = some job →
      job.state = .completed ∨ job.state = .failed ∨ job.state = .cancelled
  · rw [cancel_idle idle]
    exact .refl _ d
  · push Not at idle
    obtain ⟨job, found, active⟩ := idle
    have running : ¬(job.state = .completed ∨ job.state = .failed ∨ job.state = .cancelled) := by tauto
    obtain ⟨inTable, ofRun⟩ := getForRun_find found
    subst ofRun
    exact .of_logged (cancel_active found running).2 inTable (.cancel _)

theorem renew_moves (config : QueueConfig) (jobId token : String) :
    QueueMoved (.renew config jobId token) d (request (renew config jobId token) d supply).2 := by
  cases live : (d.workflowJobs.find jobId).any (WorkflowJob.renewable token (supply.clock 0)) with
  | false =>
    rw [renew_lost live]
    exact .refl _ d
  | true =>
    cases found : d.workflowJobs.find jobId with
    | none => simp [found] at live
    | some job =>
      have renewable : job.renewable token (supply.clock 0) = true := by simpa [found] using live
      have key : job.id = jobId := find_key found
      subst key
      exact .of_logged (renew_owned live).2 found (.renew config _ renewable)

theorem complete_moves (jobId token : String) :
    QueueMoved (.complete jobId token) d (request (complete jobId token) d supply).2 := by
  by_cases lost : ∀ job, d.workflowJobs.find jobId = some job → ¬job.OwnedWith token
  · rw [complete_lost lost]
    exact .refl _ d
  · push Not at lost
    obtain ⟨job, found, owned⟩ := lost
    have key : job.id = jobId := find_key found
    subst key
    exact .of_logged (complete_owned found owned).2 found (.complete _ owned)

theorem fail_moves (jobId token error : String) :
    QueueMoved (.fail jobId token error) d (request (fail env jobId token error) d supply).2 := by
  by_cases lost : ∀ job, d.workflowJobs.find jobId = some job → ¬job.OwnedWith token
  · rw [fail_lost lost]
    exact .refl _ d
  · push Not at lost
    obtain ⟨job, found, owned⟩ := lost
    have key : job.id = jobId := find_key found
    subst key
    by_cases exhausted : job.Exhausted
    · by_cases ended : ∀ run, d.run? job.runId = some run →
          run.status = .failed ∨ run.status = .completed ∨ run.status = .cancelled
      · exact .of_logged (fail_gives_up found owned exhausted ended).2 found (.giveUp error _ owned exhausted)
      · push Not at ended
        obtain ⟨run, atRun, live⟩ := ended
        have open_ : ¬(run.status = .failed ∨ run.status = .completed ∨ run.status = .cancelled) := by tauto
        by_cases legal : RunStatus.failed ∈ allowedTransitions run.status
        · obtain ⟨-, logged⟩ := fail_moves_run found owned exhausted atRun open_ legal
          refine .update (fun id held => ?_) logged.workflowJobs found (.giveUp error _ owned exhausted)
          rw [logged.run? id]
          exact find_update_isSome.trans held
        · rw [fail_raises found owned exhausted atRun open_ legal]
          exact .refl _ d
    · exact .of_logged (fail_retries found owned exhausted).2 found (.retry error _ owned exhausted)

theorem recover_moves (d : Db) (supply : Supply) (now : Nat) :
    QueueMoved (.recover now) d (request (recoverExpired now) d supply).2 := by
  obtain ⟨e, logged, ran⟩ := recoverExpired_run d now
  unfold request
  rw [ran]
  have runs : ∀ id, (d.run? id).isSome → (e.run? id).isSome := by
    intro id held
    rw [logged.run? id]
    exact held
  exact .updateWhere runs logged.workflowJobs fun job _ late => .recover now late

theorem QueueOp.moves (env : Env) (d : Db) (supply : Supply) (op : QueueOp) :
    QueueMoved op d (op.after env d supply) := by
  cases op with
  | submit config runId => exact submit_moves config runId
  | cancel runId => exact cancel_moves runId
  | renew config jobId token => exact renew_moves config jobId token
  | complete jobId token => exact complete_moves jobId token
  | fail jobId token error => exact fail_moves jobId token error
  | recover now => exact recover_moves d supply now

end

end SacmRuntime
