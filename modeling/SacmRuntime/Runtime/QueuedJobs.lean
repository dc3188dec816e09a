import SacmRuntime.Runtime.Operations

namespace SacmRuntime
open Session Table

/-- Every job may be attempted at all, and a queued one may be attempted again. -/
def JobsReady (d : Db) : Prop :=
  ∀ job ∈ d.jobs.rows, 1 ≤ job.maxAttempts ∧ (job.state = .queued → job.attempt < job.maxAttempts)

/-- New jobs get at least one attempt, and a dead letter that used up its
attempts is requeued only with its counter reset. -/
structure Operation.LeavesAttempts (d : Db) (op : Operation) : Prop where
  schedules : ∀ runId runStepId task key capabilities labels maxAttempts deployment commits,
    op = .scheduleJob runId runStepId task key capabilities labels maxAttempts deployment commits → 1 ≤ maxAttempts
  requeues : ∀ jobId, ¬op.requeues d jobId

theorem Write.keeps_ready {env : Env} {p : Permit} {s : Session Db} {d : Db} (write : Write env p s d)
    (attempts : ∀ n, p.schedule n → 1 ≤ n) (unrequeued : ∀ jobId, ¬p.requeue jobId) (ready : JobsReady s.working) :
    JobsReady d := by
  cases write with
  | other _ _ _ _ jobs =>
    unfold JobsReady
    rw [jobs]
    exact ready
  | insertRun | run | insertStep | step | event | snapshot => exact ready
  | @insertJob job jobs state attempt token allowed inserted =>
    intro row member
    rcases (mem_insert? inserted).mp member with old | rfl
    · exact ready row old
    · have positive := attempts _ allowed
      exact ⟨positive, fun _ => by omega⟩
  | job id f move =>
    intro row member
    rcases mem_update member with old | ⟨old, found, rfl⟩
    · exact ready row old
    · have moved := move old found
      obtain ⟨positive, queued⟩ := ready old (find_mem found)
      rw [rewriteRow_of_keeps moved.id]
      rw [← moved.maxAttempts] at positive
      refine ⟨positive, fun again => ?_⟩
      rcases moved.queued again with reset | fewer | ⟨before, same⟩ | granted
      · omega
      · exact fewer
      · rw [same, moved.maxAttempts]
        exact queued before
      · exact absurd granted (unrequeued old.id)

theorem Operation.keeps_ready {env : Env} {d : Db} {supply : Supply} {op : Operation} (leaves : op.LeavesAttempts d)
    (ready : JobsReady d) : JobsReady (op.after env d supply) := by
  refine request_keeps (op.writes env d supply) (fun s e write => ?_) ready
  refine write.keeps_ready (fun n scheduled => ?_) leaves.requeues
  cases op with
  | scheduleJob runId runStepId task key capabilities labels maxAttempts deployment commits =>
    cases scheduled
    exact leaves.schedules _ _ _ _ _ _ _ _ _ rfl
  | completeJob executorId jobId submission =>
    obtain ⟨job, found, rfl⟩ := scheduled
    exact (ready job (find_mem found)).1
  | failJob executorId jobId submission =>
    obtain ⟨job, found, rfl⟩ := scheduled
    exact (ready job (find_mem found)).1
  | _ => exact scheduled.elim

/-- Along every run of the control plane that resets the counter of an
exhausted dead letter when it requeues it, a queued job has an attempt left
and passes the filter of `acquire_lease` for every executor of its scope. -/
theorem queued_job_claimable {env : Env} {d e : Db} {job : ExecutionJob}
    (path : Execution env (fun d _ op => op.LeavesAttempts d) d e) (ready : JobsReady d)
    (member : job ∈ e.jobs.rows) (queued : job.state = .queued) :
    job.attempt < job.maxAttempts ∧
      ∀ executor, job.inScope executor = true → job.eligible executor = true := by
  have fewer : job.attempt < job.maxAttempts :=
    (path.keeps (fun _ _ _ leaves holds => Operation.keeps_ready leaves holds) ready job member).2 queued
  refine ⟨fewer, fun executor inScope => ?_⟩
  simp [ExecutionJob.eligible, queued, fewer, inScope]

open Sample in
theorem queued_job_claimable_sample :
    ∃ job ∈ ((queueJob 1).after env plane supply).jobs.rows, job.attempt < job.maxAttempts ∧
      ∀ executor, job.inScope executor = true → job.eligible executor = true := by
  have queued : ∃ job ∈ ((queueJob 1).after env plane supply).jobs.rows, job.state = .queued := by decide +kernel
  obtain ⟨job, member, state⟩ := queued
  refine ⟨job, member, queued_job_claimable (.next .start (queueJob 1) supply ⟨?_, ?_⟩) ?_ member state⟩
  · intro _ _ _ _ _ _ maxAttempts _ _ same
    cases same
    exact Nat.le_refl 1
  · exact fun _ requeued => requeued
  · exact fun _ none_yet => by cases none_yet

open Sample in
/-- A job with one attempt is leased, expires, is dead-lettered and requeued
without a reset: it is queued with no attempt left. -/
theorem requeued_job_stuck :
    let queued := (queueJob 1).after env plane supply
    let leased := Operation.after env (.acquireLease "x" none) queued supply
    let dead := Operation.after env (.recoverExpired (some 1000000000) true) leased supply
    let stuck := Operation.after env (.requeueDeadLetter "0" "operator" false) dead supply
    ∃ job ∈ stuck.jobs.rows, job.state = .queued ∧ job.maxAttempts ≤ job.attempt := by
  decide +kernel

end SacmRuntime
