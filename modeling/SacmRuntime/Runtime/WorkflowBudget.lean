import SacmRuntime.Runtime.Operations
import SacmRuntime.Runtime.WorkflowMoves

namespace SacmRuntime
open Session WorkflowQueueService Table

/-- The run is in a status in which a failed job leaves it alone. -/
def Run.Ended (run : Run) : Prop := run.status = .failed ∨ run.status = .completed ∨ run.status = .cancelled

/-- What can happen to the queue: a request, a whole claim, or a change elsewhere in the store. -/
inductive QueueEvent where
  | request (op : QueueOp)
  | claim (config : QueueConfig)
  | elsewhere (e : Db)

def QueueEvent.after (env : Env) (event : QueueEvent) (d : Db) (supply : Supply) : Db :=
  match event with
  | request op => op.after env d supply
  | claim config => (Session.request (WorkflowQueueService.claim config) d supply).2
  | elsewhere e => e

/-- No lease of a last attempt has run out while its run is still going on. -/
def LastLeasesEnded (d : Db) (now : Nat) : Prop :=
  ∀ job ∈ d.workflowJobs.rows, job.expired now = true → job.Exhausted →
    ∀ run, d.run? job.runId = some run → run.Ended

/-- The requests that keep failed jobs and runs, and attempts and budgets, together. -/
def QueueOp.Sound (d : Db) : QueueOp → Prop
  | submit config runId => (getForRun d runId = none → 1 ≤ config.maxAttempts) ∧
      ∀ job, getForRun d runId = some job → ¬(job.state = .queued ∨ job.state = .running) → ¬job.Exhausted
  | fail jobId token _ => ∀ job, d.workflowJobs.find jobId = some job → job.OwnedWith token → job.Exhausted →
      ∀ run, d.run? job.runId = some run → run.status ≠ .created ∧ run.status ≠ .awaitingApproval
  | recover now => LastLeasesEnded d now
  | cancel _ | renew .. | complete .. => True

/-- Other services leave the queue alone and delete no run. -/
def QueueEvent.Sound (d : Db) (supply : Supply) : QueueEvent → Prop
  | request op => op.Sound d
  | claim _ => LastLeasesEnded d (supply.clock 0)
  | elsewhere e => e.workflowJobs = d.workflowJobs ∧ ∀ id, (d.run? id).isSome → (e.run? id).isSome

/-- Every job has its run, a waiting job an attempt left, and a running job at most its budget. -/
structure JobsWithinBudget (d : Db) : Prop where
  run : ∀ job ∈ d.workflowJobs.rows, (d.run? job.runId).isSome
  waiting : ∀ job ∈ d.workflowJobs.rows, job.state = .queued → ¬job.Exhausted
  running : ∀ job ∈ d.workflowJobs.rows, job.state = .running → (job.attempt : Int) ≤ job.maxAttempts

section
variable {env : Env} {d e : Db} {supply : Supply} {op : QueueOp} {job old : WorkflowJob}

theorem not_exhausted_of_same (attempt : job.attempt = old.attempt) (maxAttempts : job.maxAttempts = old.maxAttempts)
    (left : ¬old.Exhausted) : ¬job.Exhausted := by
  unfold WorkflowJob.Exhausted at left ⊢
  rwa [attempt, maxAttempts]

theorem QueueMove.budget (move : QueueMove d op old job) (sound : op.Sound d) :
    (job.state = .queued → old.state = .queued ∨ ¬job.Exhausted) ∧ (job.state = .running → old.state = .running) := by
  cases move with
  | stay => exact ⟨.inl, id⟩
  | resubmit config now found done =>
    refine ⟨fun _ => .inr (not_exhausted_of_same rfl rfl (sound.2 old found done)), fun state => ?_⟩
    cases state
  | cancel now =>
    constructor <;> intro state <;> cases state
  | renew config now live => exact ⟨fun state => .inl state, fun state => state⟩
  | complete now owned =>
    constructor <;> intro state <;> cases state
  | retry error availableAt owned left =>
    refine ⟨fun _ => .inr (not_exhausted_of_same rfl rfl left), fun state => ?_⟩
    cases state
  | giveUp error now owned exhausted =>
    constructor <;> intro state <;> cases state
  | recover now late =>
    unfold WorkflowJob.recover
    split
    · constructor <;> intro state <;> cases state
    · rename_i left
      refine ⟨fun _ => .inr (not_exhausted_of_same rfl rfl left), fun state => ?_⟩
      cases state

theorem JobsWithinBudget.moved (budget : JobsWithinBudget d) (moved : QueueMoved op d e) (sound : op.Sound d) :
    JobsWithinBudget e where
  run := by
    intro job member
    rcases moved.origin job member with submitted | ⟨old, found, move⟩
    · exact moved.runs _ submitted.run
    · rw [move.keeps.2.1]
      exact moved.runs _ (budget.run old (find_mem found))
  waiting := by
    intro job member queued
    rcases moved.origin job member with submitted | ⟨old, found, move⟩
    · obtain ⟨config, now, rfl, made⟩ := submitted.made
      have enough := sound.1 submitted.absent
      have fresh : job.attempt = 0 ∧ job.maxAttempts = config.maxAttempts := by
        rw [made]
        exact ⟨rfl, rfl⟩
      unfold WorkflowJob.Exhausted
      omega
    · rcases (move.budget sound).1 queued with before | left
      · exact not_exhausted_of_same move.keeps.2.2.1 move.keeps.2.2.2.1
          (budget.waiting old (find_mem found) before)
      · exact left
  running := by
    intro job member running
    rcases moved.origin job member with submitted | ⟨old, found, move⟩
    · obtain ⟨config, now, -, made⟩ := submitted.made
      rw [made] at running
      cases running
    · have before := budget.running old (find_mem found) ((move.budget sound).2 running)
      rwa [move.keeps.2.2.1, move.keeps.2.2.2.1]

theorem JobsWithinBudget.taken {jobId token : String} {now seconds : Nat} (budget : JobsWithinBudget d)
    (found : d.workflowJobs.find jobId = some old) (waiting : old.state = .queued)
    (logged : Logged { d with workflowJobs := d.workflowJobs.update jobId (WorkflowJob.take token now seconds) } e) :
    JobsWithinBudget e := by
  have rows : ∀ job ∈ e.workflowJobs.rows, job ∈ d.workflowJobs.rows ∨ job = old.take token now seconds := by
    intro job member
    rw [logged.workflowJobs] at member
    rcases mem_update member with before | ⟨row, atId, rfl⟩
    · exact .inl before
    · cases Option.some.inj (found.symm.trans atId)
      exact .inr (rewriteRow_of_keeps rfl)
  have left := budget.waiting old (find_mem found) waiting
  constructor
  · intro job member
    rw [logged.run?]
    rcases rows job member with before | rfl
    · exact budget.run job before
    · exact budget.run old (find_mem found)
  · intro job member queued
    rcases rows job member with before | rfl
    · exact budget.waiting job before queued
    · cases queued
  · intro job member running
    rcases rows job member with before | rfl
    · exact budget.running job before running
    · unfold WorkflowJob.Exhausted at left
      change ((old.attempt + 1 : Nat) : Int) ≤ old.maxAttempts
      omega

theorem Run.ended_or_legal (run : Run) (begun : run.status ≠ .created ∧ run.status ≠ .awaitingApproval) :
    run.Ended ∨ RunStatus.failed ∈ allowedTransitions run.status := by
  unfold Run.Ended
  cases status : run.status <;> simp_all [allowedTransitions]

theorem fail_settles {token error : String} (budget : JobsWithinBudget d)
    (found : d.workflowJobs.find job.id = some job)
    (owned : job.OwnedWith token) (exhausted : job.Exhausted) (sound : (QueueOp.fail job.id token error).Sound d) :
    (request (fail env job.id token error) d supply).1 = .ok () ∧
      ∃ run, (request (fail env job.id token error) d supply).2.run? job.runId = some run ∧ run.Ended := by
  obtain ⟨run, atRun⟩ := Option.isSome_iff_exists.mp (budget.run job (find_mem found))
  by_cases ended : run.Ended
  · have allEnded : ∀ other, d.run? job.runId = some other → other.Ended := by
      intro other same
      cases Option.some.inj (atRun.symm.trans same)
      exact ended
    obtain ⟨returned, logged⟩ : (request (fail env job.id token error) d supply).1 = .ok () ∧ _ :=
      fail_gives_up found owned exhausted allEnded
    refine ⟨returned, run, ?_, ended⟩
    rw [logged.run?]
    exact atRun
  · have legal := (run.ended_or_legal (sound job found owned exhausted run atRun)).resolve_left ended
    obtain ⟨returned, logged⟩ : (request (fail env job.id token error) d supply).1 = .ok () ∧ _ :=
      fail_moves_run found owned exhausted atRun ended legal
    refine ⟨returned, run.moveTo .failed (supply.clock 1), ?_, .inl rfl⟩
    rw [logged.run?]
    exact run?_update (fun _ => rfl) atRun

/-- Whatever job failed between two stores, its run has ended in the second. -/
def Settled (d e : Db) : Prop :=
  ∀ later ∈ e.workflowJobs.rows, ∀ job, d.workflowJobs.find later.id = some job → job.state ≠ .failed →
    later.state = .failed → ∃ run, e.run? later.runId = some run ∧ run.Ended

theorem QueueMove.to_failed (move : QueueMove d op old job) (before : old.state ≠ .failed)
    (after : job.state = .failed) :
    (∃ token error, op = .fail old.id token error ∧ old.OwnedWith token ∧ old.Exhausted) ∨
    ∃ now, op = .recover now ∧ old.expired now = true ∧ old.Exhausted := by
  cases move with
  | stay | renew => exact absurd after before
  | resubmit | cancel | complete | retry => cases after
  | giveUp error now owned exhausted => exact .inl ⟨_, error, rfl, owned, exhausted⟩
  | recover now late =>
    unfold WorkflowJob.recover at after
    split at after
    · rename_i exhausted
      exact .inr ⟨now, rfl, late, exhausted⟩
    · cases after

theorem recover_settles (now : Nat) (budget : JobsWithinBudget d) (sound : LastLeasesEnded d now) :
    Settled d (request (recoverExpired now) d supply).2 := by
  intro later member job found before after
  rcases (recover_moves d supply now).origin later member with submitted | ⟨old, atOld, move⟩
  · rw [submitted.fresh] at found
    cases found
  · cases Option.some.inj (found.symm.trans atOld)
    obtain ⟨token, error, impossible, -⟩ | ⟨instant, same, late, exhausted⟩ := move.to_failed before after
    · cases impossible
    · cases same
      obtain ⟨run, atRun⟩ := Option.isSome_iff_exists.mp (budget.run job (find_mem found))
      obtain ⟨e, logged, ran⟩ := recoverExpired_run d now
      refine ⟨run, ?_, sound job (find_mem found) late exhausted run atRun⟩
      unfold request
      rw [ran, move.keeps.2.1]
      exact (logged.run? _).trans atRun

theorem QueueOp.settles (budget : JobsWithinBudget d) (sound : op.Sound d) : Settled d (op.after env d supply) := by
  intro later member job found before after
  rcases (op.moves env d supply).origin later member with submitted | ⟨old, atOld, move⟩
  · rw [submitted.fresh] at found
    cases found
  · cases Option.some.inj (found.symm.trans atOld)
    have key : job.id = later.id := find_key found
    obtain ⟨token, error, rfl, owned, exhausted⟩ | ⟨now, rfl, -, -⟩ := move.to_failed before after
    · rw [move.keeps.2.1]
      exact (fail_settles budget (key.symm ▸ found) owned exhausted sound).2
    · exact recover_settles now budget sound later member job found before after

theorem claim_settles (config : QueueConfig) (budget : JobsWithinBudget d)
    (sound : LastLeasesEnded d (supply.clock 0)) :
    JobsWithinBudget (request (claim config) d supply).2 ∧ Settled d (request (claim config) d supply).2 ∧
      ∃ claimed, (request (claim config) d supply).1 = .ok claimed := by
  have within : JobsWithinBudget (request (recoverExpired (supply.clock 0)) d supply).2 :=
    budget.moved (recover_moves d supply _) sound
  have settled : Settled d (request (recoverExpired (supply.clock 0)) d supply).2 :=
    recover_settles (supply.clock 0) budget sound
  unfold request at within settled ⊢
  rw [WorkflowQueueService.claim_run]
  unfold request
  generalize (recoverExpired (supply.clock 0) (start d supply)).2.committed = mid at *
  cases read : candidate mid (supply.clock 0) with
  | none => exact ⟨within, settled, _, rfl⟩
  | some job =>
    obtain ⟨found, waiting⟩ := candidate_waits read
    obtain ⟨e, logged, returns⟩ := claimUpdate_run config (supply.uuids 0) (supply.clock 0) found waiting
    simp only [returns]
    refine ⟨within.taken found waiting logged, ?_, _, rfl⟩
    intro later member before atBefore open_ after
    have inTable : later ∈ e.workflowJobs.rows := member
    rw [logged.workflowJobs] at inTable
    rcases mem_update inTable with stayed | ⟨row, atId, rfl⟩
    · obtain ⟨run, atRun, ended⟩ := settled later stayed before atBefore open_ after
      exact ⟨run, (logged.run? _).trans atRun, ended⟩
    · rw [rewriteRow_of_keeps rfl] at after
      cases after

theorem QueueEvent.keeps {event : QueueEvent} (budget : JobsWithinBudget d) (sound : event.Sound d supply) :
    JobsWithinBudget (event.after env d supply) ∧ Settled d (event.after env d supply) := by
  cases event with
  | request op => exact ⟨budget.moved (op.moves env d supply) sound, QueueOp.settles budget sound⟩
  | claim config =>
    obtain ⟨within, settled, -⟩ := claim_settles config budget sound
    exact ⟨within, settled⟩
  | elsewhere e =>
    obtain ⟨same, runs⟩ := sound
    have jobs : ∀ job ∈ e.workflowJobs.rows, job ∈ d.workflowJobs.rows := fun job member => same ▸ member
    refine ⟨⟨fun job member => runs _ (budget.run job (jobs job member)),
      fun job member => budget.waiting job (jobs job member),
      fun job member => budget.running job (jobs job member)⟩, ?_⟩
    intro later member job found before after
    have here : d.workflowJobs.find later.id = some later := find_of_mem (jobs later member)
    cases Option.some.inj (found.symm.trans here)
    exact absurd after before

end

/-- Along every run of sound events, a RUNNING job is within its budget; a
sound event leaves the run of every job it fails ended, and neither a claim
nor a failure of an owned job raises. -/
theorem workflow_failures_settled {env : Env} {first d : Db} (noJobs : first.workflowJobs.rows = [])
    (path : Path (QueueEvent.after env) (fun d supply event => event.Sound d supply) first d) :
    (∀ job ∈ d.workflowJobs.rows, job.state = .running → (job.attempt : Int) ≤ job.maxAttempts) ∧
    ∀ (event : QueueEvent) (supply : Supply), event.Sound d supply →
      Settled d (event.after env d supply) ∧
      (∀ config, event = .claim config → ∃ claimed, (request (claim config) d supply).1 = .ok claimed) ∧
      ∀ jobId token error job, event = .request (.fail jobId token error) →
        d.workflowJobs.find jobId = some job → job.OwnedWith token →
        (request (fail env jobId token error) d supply).1 = .ok () := by
  have start : JobsWithinBudget first := by
    constructor <;> intro job member <;> rw [noJobs] at member <;> cases member
  have budget := path.keeps (fun d supply event sound within => (QueueEvent.keeps within sound).1) start
  refine ⟨budget.running, fun event supply sound => ⟨(QueueEvent.keeps budget sound).2, ?_, ?_⟩⟩
  · rintro config rfl
    exact (claim_settles config budget sound).2.2
  · rintro jobId token error job rfl found owned
    have key : job.id = jobId := Table.find_key found
    subst key
    by_cases exhausted : job.Exhausted
    · exact (fail_settles budget found owned exhausted sound).1
    · exact (fail_retries found owned exhausted).1

namespace QueueSample
open Sample

/-- A run in the given status is submitted, with room for one attempt. -/
def submittedOnce (status : RunStatus) : Db :=
  (QueueEvent.request (.submit ⟨1, 1⟩ "r")).after env (store status .pending) (supplyOf "job-")

def claimedOnce (status : RunStatus) : Db :=
  (QueueEvent.claim ⟨1, 1⟩).after env (submittedOnce status) (supplyOf "token-")

/-- An environment in which every lease of the sample has run out. -/
def later : Supply := { supplyOf "later-" with clock := fun n => 3000000 + n }

def expiredOnce : Db := (QueueEvent.claim ⟨1, 1⟩).after env (claimedOnce .implementing) later

def claimedAgain : Db :=
  Path.storeAfter (QueueEvent.after env) expiredOnce [(.request (.submit ⟨1, 1⟩ "r"), later), (.claim ⟨1, 1⟩, later)]

theorem claimedOnce_sound : Path (QueueEvent.after env) (fun d supply event => event.Sound d supply)
    (store .implementing .pending) (claimedOnce .implementing) := by
  have noJobs : getForRun (store .implementing .pending) "r" = none := rfl
  have submitting : (QueueEvent.request (.submit ⟨1, 1⟩ "r")).Sound (store .implementing .pending)
      (supplyOf "job-") := by
    refine ⟨fun _ => le_rfl, fun job found => ?_⟩
    rw [noJobs] at found
    cases found
  have claiming : (QueueEvent.claim ⟨1, 1⟩).Sound (submittedOnce .implementing) (supplyOf "token-") := by
    intro job member late
    cases List.mem_singleton.mp member
    cases late
  have submitted : Path (QueueEvent.after env) (fun d supply event => event.Sound d supply)
      (store .implementing .pending) (submittedOnce .implementing) := Path.step .start _ _ submitting rfl
  exact Path.step submitted _ _ claiming rfl

end QueueSample

open QueueSample Sample in
/-- A FAILED job whose run goes on, a last failure that raises, and a second attempt where one was allowed. -/
theorem workflow_failures_unsettled :
    ((claimedOnce .implementing).workflowJobs.find "job-0").map WorkflowJob.state = some .running ∧
    (expiredOnce.workflowJobs.find "job-0").map WorkflowJob.state = some .failed ∧
    (expiredOnce.run? "r").map Run.status = some .implementing ∧
    (request (fail env "job-0" "token-0" "boom") (claimedOnce .created) later).1 =
      .error (.valueError "Invalid transition: CREATED -> FAILED") ∧
    (claimedAgain.workflowJobs.find "job-0").map (fun job => (job.state, job.attempt, job.maxAttempts)) =
      some (.running, 2, 1) := by
  decide +kernel

open QueueSample Sample in
/-- The only attempt of an implementing run fails: the call returns and the run has ended. -/
theorem workflow_failures_settled_sample :
    (request (fail env "job-0" "token-0" "boom") (claimedOnce .implementing) later).1 = .ok () ∧
    Settled (claimedOnce .implementing)
      (request (fail env "job-0" "token-0" "boom") (claimedOnce .implementing) later).2 := by
  have sound : (QueueEvent.request (.fail "job-0" "token-0" "boom")).Sound (claimedOnce .implementing) later := by
    intro job found owned exhausted run atRun
    have status : ((claimedOnce .implementing).run? "r").map Run.status = some .implementing := rfl
    have ofRun : ((claimedOnce .implementing).workflowJobs.find "job-0").map WorkflowJob.runId = some "r" := rfl
    rw [found] at ofRun
    rw [← Option.some.inj ofRun, atRun] at status
    have implementing : run.status = .implementing := Option.some.inj status
    simp [implementing]
  obtain ⟨settled, -, returns⟩ := (workflow_failures_settled rfl claimedOnce_sound).2 _ later sound
  obtain ⟨job, found⟩ : ∃ job, (claimedOnce .implementing).workflowJobs.find "job-0" = some job := ⟨_, rfl⟩
  have owned : job.OwnedWith "token-0" := by
    cases Option.some.inj (found.symm.trans rfl)
    exact ⟨rfl, rfl⟩
  exact ⟨returns _ _ _ job rfl found owned, settled⟩

end SacmRuntime
