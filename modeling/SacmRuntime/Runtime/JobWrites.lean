import SacmRuntime.Runtime.AgentWrites

namespace SacmRuntime
open Session ExecutionPlaneService
open Tx hiding Leaves

section
variable {env : Env} {p : Permit} {s : Session Db} {job : ExecutionJob} {jobId executorId : String} {now : Nat}

theorem unfinished_of_active (active : job.active = true) : ¬job.Finished := by
  intro done
  rcases done with done | done <;> simp [ExecutionJob.active, done] at active

variable {actor hash leaseToken reason runId : String} {at_ leaseSeconds : Option Nat}
  {commits failed resetAttempts : Bool} {deployment : Option String} {executor : ExecutorRegistration}
  {jobs : List ExecutionJob} {report : OrphanReport} {seconds : Nat} {submission : SignedJobResult}
  {task : AgentTaskV1}

theorem release_unfinished : ¬(job.release now reason).Finished := by
  unfold ExecutionJob.release ExecutionJob.Finished
  dsimp only
  split <;> simp

theorem release_jobMove (unfinished : ¬job.Finished) :
    JobMove env p job (job.release now reason) where
  id := rfl
  maxAttempts := rfl
  order := rfl
  final done := absurd done unfinished
  token := .inl rfl
  held _ stored := absurd rfl stored
  recorded _ done := absurd done release_unfinished
  queued requeued := by
    by_cases exhausted : job.attempt ≥ job.maxAttempts
    · simp [ExecutionJob.release, exhausted] at requeued
    · exact .inr (.inl (Nat.lt_of_not_le exhausted))
  leased impossible := by
    unfold ExecutionJob.release at impossible
    dsimp only at impossible
    split at impossible <;> cases impossible

theorem lease_jobMove {attempt : Nat} (unfinished : ¬job.Finished) (issued : p.issue job.id hash) :
    JobMove env p job (job.lease executorId hash now seconds attempt) where
  id := rfl
  maxAttempts := rfl
  order := rfl
  final done := absurd done unfinished
  token := .inr (.inr ⟨hash, rfl, issued⟩)
  held _ _ := .inl rfl
  recorded _ done := by rcases done with done | done <;> cases done
  queued impossible := by cases impossible
  leased _ := .inr ⟨hash, rfl, issued⟩

theorem begin_jobMove (leased : job.state = .leased) : JobMove env p job (job.begin now) where
  id := rfl
  maxAttempts := rfl
  order := rfl
  final done := by rcases done with done | done <;> simp [leased] at done
  token := .inr (.inl rfl)
  held _ _ := .inr (.inl rfl)
  recorded _ done := by rcases done with done | done <;> cases done
  queued impossible := by cases impossible
  leased impossible := by cases impossible

theorem extend_jobMove : JobMove env p job (job.extend now seconds) where
  id := rfl
  maxAttempts := rfl
  order := rfl
  final _ := ⟨rfl, rfl, rfl, rfl⟩
  token := .inr (.inl rfl)
  held old := old
  recorded old := old
  queued same := .inr (.inr (.inl ⟨same, rfl⟩))
  leased same := .inl ⟨same, rfl⟩

theorem metadata_jobMove {metadata : Option Json} :
    JobMove env p job { job with resultSignatureMetadata := metadata } where
  id := rfl
  maxAttempts := rfl
  order := rfl
  final _ := ⟨rfl, rfl, rfl, rfl⟩
  token := .inr (.inl rfl)
  held old := old
  recorded old := old
  queued same := .inr (.inr (.inl ⟨same, rfl⟩))
  leased same := .inl ⟨same, rfl⟩

theorem finish_jobMove (active : job.active = true) :
    JobMove env p job (job.finish now executorId (canonicalHash env submission.result.modelDump) submission failed)
      where
  id := rfl
  maxAttempts := rfl
  order := rfl
  final done := absurd done (unfinished_of_active active)
  token := .inr (.inl rfl)
  held _ _ := by cases failed <;> simp [ExecutionJob.finish, ExecutionJob.Finished]
  recorded _ _ := ⟨_, rfl, rfl⟩
  queued impossible := by cases failed <;> cases impossible
  leased impossible := by cases failed <;> cases impossible

theorem requeue_jobMove (dead : job.state = .deadLetter)
    (allowed : resetAttempts = false → job.attempt < job.maxAttempts ∨ p.requeue job.id) :
    JobMove env p job (job.requeue now reason resetAttempts) where
  id := rfl
  maxAttempts := rfl
  order := rfl
  final done := by rcases done with done | done <;> simp [dead] at done
  token := .inr (.inl rfl)
  held old stored := by
    rcases old stored with impossible | impossible | done
    · simp [dead] at impossible
    · simp [dead] at impossible
    · rcases done with done | done <;> simp [dead] at done
  recorded _ done := by rcases done with done | done <;> cases done
  queued _ := by
    cases resetAttempts with
    | true => exact .inl rfl
    | false =>
      rcases allowed rfl with fewer | granted
      · exact .inr (.inl fewer)
      · exact .inr (.inr (.inr granted))
  leased impossible := by cases impossible

theorem updateExecutor_writes {f : ExecutorRegistration → ExecutorRegistration} :
    Writes env p (updateExecutor executorId f) :=
  fun _ => movesFrom_modify (.other rfl rfl rfl rfl rfl (List.Subset.refl _))

theorem revokeForExecutor_writes :
    Writes env p (revokeForExecutor executorId actor reason) := by
  intro s
  unfold revokeForExecutor
  exact movesFrom_utcnow fun _ _ => movesFrom_modify (.other rfl rfl rfl rfl rfl (List.Subset.refl _))

theorem existingJob_writes : Writes env p (existingJob jobId) := by
  intro s
  unfold existingJob
  exact movesFrom_view (moves_expect s)

theorem existingExecutor_writes : Writes env p (existingExecutor executorId) := by
  intro s
  unfold existingExecutor
  exact movesFrom_view (moves_expect s)

theorem movesFrom_existingJob {α : Type} {f : ExecutionJob → Service α}
    (rest : ∀ job, s.working.jobs.find jobId = some job → WritesFrom env p (f job) s) :
    WritesFrom env p (existingJob jobId >>= f) s := by
  unfold existingJob
  exact movesFrom_expect rest

theorem movesFrom_existingExecutor {α : Type} {f : ExecutorRegistration → Service α}
    (rest : ∀ executor, s.working.executors.find executorId = some executor → WritesFrom env p (f executor) s) :
    WritesFrom env p (existingExecutor executorId >>= f) s := by
  unfold existingExecutor
  exact movesFrom_expect rest

theorem releaseOrExpire_writesFrom (found : s.working.jobs.find jobId = some job) (unfinished : ¬job.Finished) :
    WritesFrom env p (releaseOrExpire jobId now reason) s := by
  unfold releaseOrExpire
  exact movesFrom_write (updateJob_write found (release_jobMove unfinished)) (revokeForJob_writes _)

theorem releaseSweep_writesFrom {q : ExecutionJob → Bool} (selected : Selected s.working.jobs s.working.jobs q jobs)
    (active : ∀ job, q job = true → job.active = true) :
    WritesFrom env p (forEach jobs fun job => releaseOrExpire job.id now reason) s :=
  sweep_writesFrom selected.live selected.distinct fun job member =>
    release_jobMove (unfinished_of_active (active job (selected.satisfies job member)))

theorem revokeExecutor_writesFrom (clean : s.flushed.jobs = s.working.jobs) :
    WritesFrom env p (revokeExecutor env executorId actor reason) s := by
  unfold revokeExecutor
  refine movesFrom_view (movesFrom_expect fun executor _ => movesFrom_ofExcept fun _ _ => ?_)
  refine movesFrom_ite (fun _ => movesFrom_pure _) fun _ => movesFrom_utcnow fun now clock => ?_
  refine movesFrom_write (.other rfl rfl rfl rfl rfl (List.Subset.refl _)) ?_
  refine movesFrom_selectClean clean fun jobs flushed _ selected => ?_
  refine Tx.MovesFrom.bind (releaseSweep_writesFrom selected fun job => ?_) fun _ _ => ?_
  · simp only [Bool.and_eq_true]
    exact And.right
  · exact revokeForExecutor_writes.then fun _ _ => movesFrom_commit (existingExecutor_writes _)

theorem scopeOf_writes {run : Run} : Writes env p (scopeOf env run deployment) := by
  intro s
  unfold scopeOf
  cases run.projectId with
  | none => exact movesFrom_pure _
  | some projectId => exact movesFrom_view (movesFrom_expect fun _ _ => movesFrom_pure _)

theorem insertJob_writes (state : job.state = .queued) (attempt : job.attempt = 0)
    (token : job.leaseTokenHash = none) (allowed : p.schedule job.maxAttempts) : Writes env p (insertJob job) := by
  intro s
  unfold insertJob
  refine movesFrom_view (movesFrom_expect fun jobs inserted => movesFrom_modify ?_)
  exact .insertJob state attempt token allowed inserted

theorem schedule_writes {runStepId : String} {idempotencyKey : String} {capabilities : List String}
    {labels : List (String × String)} {maxAttempts : Nat} (allowed : p.schedule maxAttempts) :
    Writes env p (schedule env runId runStepId task idempotencyKey capabilities labels maxAttempts deployment
      commits) := by
  intro s
  unfold schedule
  refine movesFrom_view (movesFrom_expect fun run _ => movesFrom_view (movesFrom_expect fun step _ => ?_))
  refine movesFrom_guard fun _ => scopeOf_writes.then fun scope t => ?_
  refine movesFrom_selectJobs fun stored flushed _ _ => ?_
  cases stored.head? with
  | some existing => exact movesFrom_guard fun _ => movesFrom_pure _
  | none =>
    refine movesFrom_view (movesFrom_utcnow fun now _ => movesFrom_uuid4 fun jobId _ => ?_)
    refine (insertJob_writes rfl rfl rfl allowed).then fun _ _ => appendEvent_writes.then fun _ _ => ?_
    exact checkpoint_writes.then fun _ _ => settle_writes.then fun _ _ => existingJob_writes _

theorem recoverExpired_writesFrom (clean : s.flushed.jobs = s.working.jobs) :
    WritesFrom env p (recoverExpired env at_ commits) s := by
  have body : ∀ now clock, WritesFrom env p (do
      let recovered ← selectJobs env fun job => job.active && job.leaseExpiresAt.any (· ≤ now)
      forEach recovered fun job => releaseOrExpire job.id now "LeaseExpired"
      if commits then commit else pure ()
      return recovered) { s with clock := clock } := by
    intro now clock
    refine movesFrom_selectClean clean fun jobs flushed _ selected => ?_
    refine Tx.MovesFrom.bind (releaseSweep_writesFrom selected fun job => ?_) fun _ _ => ?_
    · simp only [Bool.and_eq_true]
      exact And.left
    · exact movesFrom_ite (fun _ => movesFrom_commit (movesFrom_pure _)) fun _ => movesFrom_pure _
  unfold recoverExpired
  cases at_ with
  | some instant => exact body instant s.clock
  | none => exact movesFrom_utcnow body

/-- A job stored as queued is not held as finished: what makes a claim safe. -/
def ClaimSafe (s : Session Db) : Prop :=
  ∀ id row job, s.flushed.jobs.find id = some row → row.state = .queued →
    s.working.jobs.find id = some job → ¬job.Finished

theorem claimSafe_of_clean (clean : s.flushed.jobs = s.working.jobs) : ClaimSafe s := by
  intro id row job stored queued held done
  rw [clean, held] at stored
  cases stored
  rcases done with done | done <;> simp [queued] at done

theorem releaseOrExpire_claimSafe (safe : ClaimSafe s) :
    ClaimSafe (releaseOrExpire jobId now reason s).2 := by
  intro id row job stored queued held
  change (s.working.jobs.update jobId (ExecutionJob.release now reason)).find id = some job at held
  rw [Table.find_update] at held
  split at held
  · obtain ⟨old, _, rfl⟩ := Option.map_eq_some_iff.mp held
    rw [Table.rewriteRow_of_keeps rfl]
    exact release_unfinished
  · exact safe id row job stored queued held

theorem recoverExpired_claimSafe (env : Env) (now : Nat) (clean : s.flushed.jobs = s.working.jobs) :
    ClaimSafe (recoverExpired env (some now) false s).2 := by
  obtain ⟨jobs, flushed, run, layer, _⟩ := selectJobs_run env
    (fun job => job.active && job.leaseExpiresAt.any (· ≤ now)) s
  have same : flushed.jobs = s.working.jobs := by
    rcases layer with rfl | rfl
    · exact clean
    · rfl
  have swept : ClaimSafe (forEach jobs (fun job => releaseOrExpire job.id now "LeaseExpired")
      { s with flushed := flushed }).2 :=
    forEach_keeps (fun _ _ _ safe => releaseOrExpire_claimSafe safe) (claimSafe_of_clean same)
  unfold recoverExpired
  dsimp only
  rw [bind_run_ok _ (pure_run now s), bind_run_ok _ run]
  simp only [Bool.false_eq_true, if_false]
  rw [bind_pure_state]
  exact swept

theorem claimFirst_round (env : Env) (executor : ExecutorRegistration) (now seconds : Nat) (candidate : ExecutionJob)
    (rest : List ExecutionJob) (s : Session Db) :
    claimFirst env executor now seconds (candidate :: rest) s = claimFirst env executor now seconds rest s ∨
    claimFirst env executor now seconds (candidate :: rest) s =
      claimFirst env executor now seconds rest { s with tokens := fun n => s.tokens (n + 1) } ∨
    claimFirst env executor now seconds (candidate :: rest) s =
      claim env executor now seconds candidate (s.tokens 0) { s with tokens := fun n => s.tokens (n + 1) } := by
  rw [claimFirst]
  refine outcome_ite (P := fun outcome => outcome = _ ∨ outcome = _ ∨ outcome = _) (fun _ => .inl rfl) fun _ => ?_
  refine outcome_tokenUrlsafe (P := fun outcome => outcome = _ ∨ outcome = _ ∨ outcome = _) ?_
  refine outcome_read (P := fun outcome => outcome = _ ∨ outcome = _ ∨ outcome = _) ?_
  exact outcome_ite (P := fun outcome => outcome = _ ∨ outcome = _ ∨ outcome = _)
    (fun _ => .inr (.inl rfl)) fun _ => .inr (.inr rfl)

theorem existingJob_run (found : s.working.jobs.find jobId = some job) : existingJob jobId s = (.ok job, s) := by
  simp [existingJob, found, expect]

theorem existingExecutor_run (found : s.working.executors.find executorId = some executor) :
    existingExecutor executorId s = (.ok executor, s) := by
  simp [existingExecutor, found, expect]

theorem claim_run (env : Env) (executor : ExecutorRegistration) (now seconds : Nat) (token : String)
    (found : s.working.jobs.find job.id = some job) :
    ∃ t, claim env executor now seconds job token s = (.ok (some ⟨job.lease executor.id
        (tokenHash env "lease" token) now seconds (job.attempt + 1), token⟩), t) ∧
      t.committed.jobs.find job.id = some (job.lease executor.id (tokenHash env "lease" token) now seconds
        (job.attempt + 1)) := by
  have stored : (s.working.jobs.update job.id (ExecutionJob.lease executor.id (tokenHash env "lease" token) now seconds
      (job.attempt + 1))).find job.id = _ := Table.find_update_self fun _ => rfl
  rw [found] at stored
  unfold claim updateJob updateExecutor
  simp only [bind_modify, bind_commit]
  rw [bind_run_ok _ (existingJob_run stored)]
  exact ⟨_, rfl, stored⟩

theorem claimFirst_writesFrom {candidates : List ExecutionJob}
    (claimable : ∀ job ∈ candidates, s.working.jobs.find job.id = some job ∧ ¬job.Finished)
    (issued : ∀ leased, (claimFirst env executor now seconds candidates s).1 = .ok (some leased) →
      p.issue leased.job.id (tokenHash env "lease" leased.leaseToken)) :
    WritesFrom env p (claimFirst env executor now seconds candidates) s := by
  induction candidates generalizing s with
  | nil => exact movesFrom_commit (movesFrom_pure _)
  | cons candidate rest ih =>
    have others : ∀ job ∈ rest, s.working.jobs.find job.id = some job ∧ ¬job.Finished :=
      fun job member => claimable job (by simp [member])
    obtain ⟨found, unfinished⟩ := claimable candidate (by simp)
    unfold WritesFrom Tx.MovesFrom at *
    rcases claimFirst_round env executor now seconds candidate rest s with skip | skip | claims
    · rw [skip] at issued ⊢
      exact ih others issued
    · rw [skip] at issued ⊢
      exact .head (.draw ..) (ih (s := { s with tokens := _ }) others issued)
    · rw [claims] at issued ⊢
      obtain ⟨t, run, _⟩ := claim_run env executor now seconds (s.tokens 0)
        (s := { s with tokens := fun n => s.tokens (n + 1) }) found
      have grant := issued _ (congrArg Prod.fst run)
      refine .head (.draw s.clock s.uuids fun n => s.tokens (n + 1)) ?_
      refine movesFrom_write (updateJob_write found (lease_jobMove unfinished grant)) ?_
      refine updateExecutor_writes.then fun _ _ => movesFrom_commit (movesFrom_existingJob fun _ _ => ?_)
      exact movesFrom_pure _

theorem outcome_requireActive {β : Type} {P : Except Error β × Session Db → Prop} {f : Unit → Service β}
    (raised : ∀ e, P (.error e, s)) (rest : executor.status = .active → P (f () s)) :
    P ((requireActive executor >>= f) s) := by
  unfold requireActive
  split
  · exact raised _
  · exact rest (not_not.mp ‹_›)

/-- The two ways of `acquire_lease`: it raises, or it reaches the claim loop
with candidates that may be claimed. -/
theorem acquireLease_outcome {P : Except Error (Option LeasedJob) × Session Db → Prop}
    (clean : s.flushed.jobs = s.working.jobs)
    (raised : ∀ e t, (∀ p, Relation.ReflTransGen (Step (Write env p)) s t) → P (.error e, t))
    (claims : ∀ executor now candidates t, (∀ p, Relation.ReflTransGen (Step (Write env p)) s t) →
      (∀ job ∈ candidates, t.working.jobs.find job.id = some job ∧ ¬job.Finished) → P
    (claimFirst env executor now (leaseDuration env leaseSeconds) candidates t)) :
    P (acquireLease env executorId leaseSeconds s) := by
  unfold acquireLease existingExecutor
  refine outcome_expect (raised _ _ fun _ => .refl) fun executor _ => ?_
  refine outcome_requireActive (fun _ => raised _ _ fun _ => .refl) fun _ => ?_
  have drawn : ∀ p, Relation.ReflTransGen (Step (Write env p)) s { s with clock := fun n => s.clock (n + 1) } :=
    fun _ => .single (.draw ..)
  have recovers : ∀ p, WritesFrom env p (recoverExpired env (some (s.clock 0)) false)
      { s with clock := fun n => s.clock (n + 1) } := fun _ => recoverExpired_writesFrom clean
  have safe := recoverExpired_claimSafe env (s.clock 0)
    (s := { s with clock := fun n => s.clock (n + 1) }) clean
  refine outcome_bind (s := { s with clock := fun n => s.clock (n + 1) }) (fun e t run => ?_) fun _ t run => ?_
  · exact raised e t fun p => (drawn p).trans (by simpa [Tx.MovesFrom, run] using recovers p)
  rw [run] at safe
  have reached : ∀ p, Relation.ReflTransGen (Step (Write env p)) s t :=
    fun p => (drawn p).trans (by simpa [Tx.MovesFrom, run] using recovers p)
  obtain ⟨queued, flushed, selects, layer, selected⟩ := selectJobs_run env (ExecutionJob.eligible executor) t
  rw [bind_run_ok _ selects]
  refine claims executor _ _ _ (fun p => (reached p).trans ?_) fun job member => ?_
  · have moved : WritesFrom env p (selectJobs env (ExecutionJob.eligible executor)) t := selectJobs_writes t
    simpa [Tx.MovesFrom, selects] using moved
  · have inQueue : job ∈ queued := (List.mem_insertionSort _).mp (List.mem_of_mem_take member)
    refine ⟨selected.live job inQueue, ?_⟩
    obtain ⟨row, stored, satisfied⟩ := selected.matching job inQueue
    simp only [ExecutionJob.eligible, Bool.and_eq_true, decide_eq_true_eq] at satisfied
    rcases layer with rfl | rfl
    · exact safe job.id row job stored satisfied.1.1 (selected.live job inQueue)
    · cases Option.some.inj (stored.symm.trans (selected.live job inQueue))
      intro done
      rcases done with done | done <;> simp [satisfied.1.1] at done

theorem acquireLease_writesFrom (clean : s.flushed.jobs = s.working.jobs)
    (issued : ∀ leased, (acquireLease env executorId leaseSeconds s).1 = .ok (some leased) →
      p.issue leased.job.id (tokenHash env "lease" leased.leaseToken)) :
    WritesFrom env p (acquireLease env executorId leaseSeconds) s := by
  revert issued
  refine acquireLease_outcome (P := fun outcome => (∀ leased, outcome.1 = .ok (some leased) →
    p.issue leased.job.id (tokenHash env "lease" leased.leaseToken)) →
      Relation.ReflTransGen (Step (Write env p)) s outcome.2) clean (fun _ _ reached _ => reached p) ?_
  intro executor now candidates t reached claimable issued
  exact (reached p).trans (claimFirst_writesFrom claimable issued)

/-- What `_owned_job` has checked of the job it returns. -/
structure Owned (env : Env) (d : Db) (executor : ExecutorRegistration) (jobId leaseToken : String)
    (job : ExecutionJob) : Prop where
  active : executor.status = .active
  found : d.jobs.find jobId = some job
  owner : job.leaseOwnerId = some executor.id
  token : job.leaseTokenHash = some (tokenHash env "lease" leaseToken)

theorem ownedJob_run (env : Env) (executor : ExecutorRegistration) (jobId leaseToken : String) (s : Session Db) :
    (∃ e, ownedJob env executor jobId leaseToken s = (.error e, s)) ∨
      ∃ job, Owned env s.working executor jobId leaseToken job ∧
        ownedJob env executor jobId leaseToken s = (.ok job, s) := by
  let P (outcome : Except Error ExecutionJob × Session Db) : Prop := (∃ e, outcome = (.error e, s)) ∨
    ∃ job, Owned env s.working executor jobId leaseToken job ∧ outcome = (.ok job, s)
  unfold ownedJob existingJob
  refine outcome_requireActive (P := P) (fun e => .inl ⟨e, rfl⟩) fun active => ?_
  refine outcome_bind (P := P) (fun e t run => .inl ⟨e, ?_⟩) fun job t run => ?_
  · cases found : s.working.jobs.find jobId <;> simp_all [expect]
  · obtain ⟨found, rfl⟩ := expect_ok (s := s) run
    refine outcome_ite (P := P) (fun _ => .inl ⟨_, rfl⟩) fun owner => ?_
    refine outcome_ite (P := P) (fun _ => .inl ⟨_, rfl⟩) fun token => ?_
    exact .inr ⟨job, ⟨active, found, not_not.mp owner, not_not.mp token⟩, rfl⟩

theorem movesFrom_ownedJob {α : Type} {f : ExecutionJob → Service α}
    (rest : ∀ job, Owned env s.working executor jobId leaseToken job → WritesFrom env p (f job) s) :
    WritesFrom env p (ownedJob env executor jobId leaseToken >>= f) s := by
  unfold WritesFrom Tx.MovesFrom at *
  rcases ownedJob_run env executor jobId leaseToken s with
    ⟨e, run⟩ | ⟨job, owned, run⟩
  · rw [bind_run_error _ run]
  · rw [bind_run_ok _ run]
    exact rest job owned

/-- `_leased_job` returns a job that is owned, or raises, after releasing the
lease if it has expired. -/
theorem leasedJob_run (env : Env) (executor : ExecutorRegistration) (jobId leaseToken : String) (s : Session Db) :
    (∃ e t, leasedJob env executor jobId leaseToken s = (.error e, t) ∧
      ∀ p, Relation.ReflTransGen (Step (Write env p)) s t) ∨
    ∃ job clock, Owned env s.working executor jobId leaseToken job ∧
      leasedJob env executor jobId leaseToken s = (.ok job, { s with clock := clock }) := by
  unfold leasedJob
  rcases ownedJob_run env executor jobId leaseToken s with
    ⟨e, run⟩ | ⟨job, owned, run⟩
  · exact .inl ⟨e, s, bind_run_error _ run, fun _ => .refl⟩
  rw [bind_run_ok _ run]
  cases held : job.active with
  | false => exact .inr ⟨job, s.clock, owned, by simp⟩
  | true =>
    simp only [if_true, true_and, bind_utcnow]
    by_cases expired : job.leaseExpiresAt = none ∨ job.leaseExpiresAt.any (· ≤ s.clock 0) = true
    case neg => exact .inr ⟨job, _, owned, by rw [if_neg expired]; rfl⟩
    rw [if_pos expired]
    refine .inl ⟨_, _, rfl, fun p => ?_⟩
    refine .head (.draw (fun n => s.clock (n + 1)) s.uuids s.tokens) ?_
    have path : WritesFrom env p (do
        let released ← utcnow
        releaseOrExpire jobId released "LeaseExpired"
        commit
        (raise (.executionConflict "Execution job lease has expired.") : Service Unit))
        { s with clock := fun n => s.clock (n + 1) } := by
      refine movesFrom_utcnow fun released clock => ?_
      refine Tx.MovesFrom.bind (releaseOrExpire_writesFrom owned.found (unfinished_of_active held)) fun _ _ => ?_
      exact movesFrom_commit (movesFrom_raise _)
    exact path

theorem movesFrom_leasedJob {α : Type} {f : ExecutionJob → Service α}
    (rest : ∀ job clock, Owned env s.working executor jobId leaseToken job →
      WritesFrom env p (f job) { s with clock := clock }) :
    WritesFrom env p (leasedJob env executor jobId leaseToken >>= f) s := by
  unfold WritesFrom Tx.MovesFrom at *
  rcases leasedJob_run env executor jobId leaseToken s with
    ⟨e, t, run, reached⟩ | ⟨job, clock, owned, run⟩
  · rw [bind_run_error _ run]
    exact reached p
  · rw [bind_run_ok _ run]
    exact .head (.draw clock s.uuids s.tokens) (rest job clock owned)

theorem startJob_writesFrom : WritesFrom env p (startJob env executorId jobId leaseToken) s := by
  unfold startJob
  refine movesFrom_existingExecutor fun executor _ => movesFrom_leasedJob fun job clock owned => ?_
  refine movesFrom_ite (fun _ => movesFrom_pure _) fun _ => ?_
  refine movesFrom_guard fun leased => movesFrom_utcnow fun now _ => ?_
  refine movesFrom_write (updateJob_write owned.found (begin_jobMove (not_not.mp leased))) ?_
  refine movesFrom_view (movesFrom_expect fun step _ => ?_)
  have tail : Writes env p (do
      let run ← view fun d => d.run? job.runId
      if run.any fun run => run.status = .planning then do
        let _ ← RunService.transition env job.runId .implementing "RemoteExecutionStarted"
          ("executor:" ++ executor.id) (.obj [("job_id", .str job.id), ("attempt", .int job.attempt)])
          (some job.runStepId)
        pure ()
      else commit
      existingJob jobId) := by
    intro t
    refine movesFrom_view (movesFrom_ite (fun _ => ?_) fun _ => movesFrom_commit (existingJob_writes _))
    exact Tx.MovesFrom.bind (transition_writesFrom (by simp)) fun _ _ => existingJob_writes _
  refine movesFrom_ite (fun _ => ?_) fun _ => tail _
  exact startStep_writes.then fun _ _ => tail _

theorem heartbeatJob_writesFrom :
    WritesFrom env p (heartbeatJob env executorId jobId leaseToken leaseSeconds) s := by
  unfold heartbeatJob
  refine movesFrom_existingExecutor fun executor _ => movesFrom_leasedJob fun job clock owned => ?_
  refine movesFrom_guard fun _ => movesFrom_utcnow fun now _ => ?_
  refine movesFrom_write (updateJob_write owned.found extend_jobMove) ?_
  exact updateExecutor_writes.then fun _ _ => movesFrom_commit (existingJob_writes _)

theorem Passes.congr {d d' : Db} {stepId : String} {result : AgentResultV1} {actorId : Option String} {trusted : Bool}
    {step : RunStep} {approval : Option Approval} (steps : d'.steps = d.steps) (runs : d'.runs = d.runs)
    (approvals : d'.approvals = d.approvals) (plans : d'.plans = d.plans)
    (passes : Passes env d' runId stepId result actorId trusted step task approval) :
    Passes env d runId stepId result actorId trusted step task approval := by
  obtain ⟨authorized, found, contract, valid, identity, fresh, uncompleted, unfailed, bound, gate⟩ := passes
  simp only [Db.getStep, Db.run?, ExternalAgentService.approvalFor, ExternalAgentService.approvalIsCurrent,
    ExternalAgentService.planBinding, Db.latestPlan, steps, runs, approvals, plans] at found bound gate
  exact ⟨authorized, found, contract, valid, identity, fresh, uncompleted, unfailed, bound, gate⟩

/-- What a finished job hands on: recovery may assign the run's status, and
a scheduled recovery queues a job with the same number of attempts. -/
structure Finishes (env : Env) (p : Permit) (d : Db) (job : ExecutionJob) (result : AgentResultV1) : Prop where
  assign : ∀ step task approval run report decision, result.status = .failed →
    Passes env d job.runId job.runStepId result none true step task approval →
    (step.input.field? "agent_name").isSome → (step.input.field? "framework").isSome →
    d.run? job.runId = some run →
    env.diagnose ((ExternalAgentService.failureDict result).getD (ExternalAgentService.defaultFailure result)) =
      .ok report → RecoveryService.decide env run report none = .ok decision →
    p.assign job.runId decision.runStatus ∧ p.recover run decision
  finish : p.finish job.runStepId
  schedule : p.schedule job.maxAttempts

theorem rescheduleRecovery_writes {agent : ExternalAgentSubmission} (allowed : p.schedule job.maxAttempts) :
    Writes env p (rescheduleRecovery env job agent failed) := by
  intro s
  unfold rescheduleRecovery
  split
  · refine movesFrom_ite (fun _ => movesFrom_ofExcept fun retryTask _ => ?_) fun _ => movesFrom_pure _
    exact (schedule_writes allowed).then fun _ _ => movesFrom_pure _
  · exact movesFrom_pure _

theorem recordJobEvent_writes : Writes env p (recordJobEvent env executor job hash submission failed) := by
  intro s
  unfold recordJobEvent
  refine movesFrom_view ?_
  cases s.working.run? job.runId with
  | none => exact movesFrom_pure _
  | some run => exact appendEvent_writes.then fun _ _ => checkpoint_writes _

theorem recordResult_writesFrom (finishes : Finishes env p s.working job submission.result) :
    WritesFrom env p (recordResult env executor job hash submission failed) s := by
  unfold recordResult
  refine Tx.MovesFrom.bind (submit_writesFrom finishes.assign fun _ _ _ _ _ => finishes.finish) fun agent _ => ?_
  refine (rescheduleRecovery_writes finishes.schedule).then fun _ _ => ?_
  exact recordJobEvent_writes.then fun _ _ => movesFrom_commit (movesFrom_pure _)

theorem markAnalytics_writes {failure : Option String} : Writes env p (markAnalytics jobId failure) := by
  intro s
  cases failure with
  | none => exact movesFrom_pure _
  | some message => exact movesFrom_write (.job _ _ fun _ _ => metadata_jobMove) (moves_commit _)

theorem refreshJobAnalytics_writes : Writes env p (refreshJobAnalytics env jobId runId) := by
  intro s
  unfold refreshJobAnalytics
  refine refreshAnalytics_writes.then fun failure _ => ?_
  exact movesFrom_write (.job _ _ fun _ _ => metadata_jobMove) (moves_commit _)

theorem recordFinish_writesFrom (found : s.working.jobs.find job.id = some job) (active : job.active = true)
    (finishes : Finishes env p s.working job submission.result) :
    WritesFrom env p (recordFinish env executor job (canonicalHash env submission.result.modelDump) submission
      failed) s := by
  unfold recordFinish
  refine movesFrom_utcnow fun now clock => movesFrom_write (updateJob_write found (finish_jobMove active)) ?_
  refine (revokeForJob_writes _).bind fun _ _ => ?_
  refine Tx.MovesFrom.bind
    (Tx.MovesFrom.onRaise (recordResult_writesFrom ⟨?_, finishes.finish, finishes.schedule⟩) moves_rollback)
    fun agent _ => ?_
  · exact fun step task approval run report decision isFailed passes =>
      finishes.assign step task approval run report decision isFailed
        (passes.congr (by rfl) (by rfl) (by rfl) (by rfl))
  have tail : ∀ failure, Writes env p (markAnalytics job.id failure >>= fun _ => existingJob job.id) :=
    fun _ => markAnalytics_writes.bind fun _ => existingJob_writes
  refine movesFrom_ite (fun _ => ?_) fun _ => tail _ _
  exact refreshAnalytics_writes.then fun failure _ => tail failure _

theorem finishJob_writesFrom
    (finishes : ∀ job, s.working.jobs.find jobId = some job → job.active = true →
      (submission.result.status = .failed → failed = true) → Finishes env p s.working job submission.result) :
    WritesFrom env p (finishJob env executorId jobId submission failed) s := by
  unfold finishJob
  refine movesFrom_existingExecutor fun executor _ => movesFrom_ownedJob fun job owned => ?_
  refine movesFrom_guard fun _ => ?_
  refine movesFrom_ite (fun _ => ?_) fun _ => ?_
  · refine movesFrom_ite (fun _ => ?_) fun _ => movesFrom_raise _
    refine movesFrom_ite (fun _ => ?_) fun _ => existingJob_writes _
    exact refreshJobAnalytics_writes.then fun _ _ => existingJob_writes _
  refine movesFrom_guard fun active => ?_
  refine movesFrom_guard fun _ => ?_
  refine movesFrom_guard fun _ => ?_
  refine movesFrom_guard fun endpoint => ?_
  refine movesFrom_guard fun _ => ?_
  have active : job.active = true := by simpa using active
  have endpoint : submission.result.status = .failed → failed = true :=
    fun isFailed => by_contra fun completing => endpoint ⟨completing, isFailed⟩
  have key : job.id = jobId := Table.find_key owned.found
  split
  · exact movesFrom_raise _
  · exact recordFinish_writesFrom (key ▸ owned.found) active (finishes job owned.found active endpoint)

theorem status_of_any {found : Option RunStep} {status : StepStatus}
    (holds : (found.any fun step => decide (step.status = status)) = true) :
    ∃ step, found = some step ∧ step.status = status := by
  simpa [Option.any_eq_true] using holds

theorem recoverOrphan_writesFrom (found : s.working.jobs.find job.id = some job) (unfinished : ¬job.Finished) :
    WritesFrom env p (recoverOrphan now job reason report) s := by
  unfold recoverOrphan
  refine Tx.MovesFrom.bind (releaseOrExpire_writesFrom found unfinished) fun _ _ => ?_
  refine movesFrom_existingJob fun released _ => movesFrom_view ?_
  refine movesFrom_ite (fun running => ?_) fun _ => movesFrom_pure _
  obtain ⟨step, atStep, isRunning⟩ := status_of_any running
  refine movesFrom_write (updateStep_write atStep (.keptOutput ⟨rfl, rfl, rfl⟩ (by simp [isRunning]) ?_ rfl))
    (movesFrom_pure _)
  unfold RunStep.reconcile
  split <;> simp

theorem recoverOrphan_jobs :
    (recoverOrphan now job reason report s).2.working.jobs =
      s.working.jobs.update job.id (ExecutionJob.release now reason) := by
  have rest : Leaves Db.jobs (do
      let released ← existingJob job.id
      let dead : Bool := released.state = .deadLetter
      let step ← view fun d => d.steps.find job.runStepId
      let running := step.any fun step => step.status = .running
      if running then updateStep job.runStepId (RunStep.reconcile dead now) else pure ()
      return { recovered := report.recovered + 1
               requeued := if dead then report.requeued else report.requeued + 1
               deadLettered := if dead then report.deadLettered + 1 else report.deadLettered
               reconciledSteps := if running then report.reconciledSteps + 1 else report.reconciledSteps
               jobIds := report.jobIds ++ [job.id] } : Service OrphanReport) := by
    unfold existingJob
    refine Tx.Leaves.bind (leaves_view fun _ => leaves_expect) fun _ => leaves_view fun _ => ?_
    exact leaves_ite (Tx.Leaves.bind (leaves_modify fun _ => rfl) fun _ => leaves_pure _) (leaves_pure _)
  exact rest (releaseOrExpire job.id now reason s).2

theorem recoverOrphans_writesFrom (live : ∀ job ∈ jobs, s.working.jobs.find job.id = some job)
    (distinct : (jobs.map ExecutionJob.id).Nodup) (unfinished : ∀ job ∈ jobs, ¬job.Finished) :
    WritesFrom env p (recoverOrphans now jobs report) s := by
  induction jobs generalizing s report with
  | nil => exact movesFrom_pure _
  | cons job rest ih =>
    obtain ⟨apart, distinct⟩ := List.nodup_cons.mp distinct
    have others : ∀ other ∈ rest, ¬other.Finished := fun other member => unfinished other (by simp [member])
    unfold recoverOrphans
    refine movesFrom_view ?_
    cases orphanReason s.working now job with
    | none => exact ih (fun other member => live other (by simp [member])) distinct others
    | some reason =>
      refine Tx.MovesFrom.bind (recoverOrphan_writesFrom (live job (by simp)) (unfinished job (by simp)))
        fun next _ => ih ?_ distinct others
      intro other member
      have elsewhere : other.id ≠ job.id := fun same => apart (same ▸ List.mem_map_of_mem member)
      rw [recoverOrphan_jobs, Table.find_update_ne elsewhere]
      exact live other (by simp [member])

theorem recoverOrphaned_writesFrom {organizationId : Option String} (clean : s.flushed.jobs = s.working.jobs) :
    WritesFrom env p (recoverOrphaned env at_ organizationId commits) s := by
  have body : ∀ now clock, WritesFrom env p (do
      let jobs ← selectJobs env fun job => job.active &&
        (decide (organizationId.filter (· ≠ "") = none) || decide (job.organizationId = organizationId))
      let report ← recoverOrphans now jobs {}
      if commits then commit else pure ()
      return report) { s with clock := clock } := by
    intro now clock
    refine movesFrom_selectClean clean fun jobs flushed _ selected => ?_
    refine Tx.MovesFrom.bind (recoverOrphans_writesFrom selected.live selected.distinct ?_) fun report _ => ?_
    · intro job member
      have satisfied := selected.satisfies job member
      simp only [Bool.and_eq_true] at satisfied
      exact unfinished_of_active satisfied.1
    · exact movesFrom_ite (fun _ => movesFrom_commit (movesFrom_pure _)) fun _ => movesFrom_pure _
  unfold recoverOrphaned
  cases at_ with
  | some instant => exact body instant s.clock
  | none => exact movesFrom_utcnow body

theorem requeueDeadLetter_writesFrom
    (allowed : ∀ job, s.working.jobs.find jobId = some job → job.state = .deadLetter → resetAttempts = false →
      job.attempt < job.maxAttempts ∨ p.requeue job.id) :
    WritesFrom env p (requeueDeadLetter jobId reason resetAttempts) s := by
  unfold requeueDeadLetter
  refine movesFrom_existingJob fun job found => movesFrom_guard fun dead => ?_
  have dead : job.state = .deadLetter := not_not.mp dead
  refine movesFrom_utcnow fun now clock => ?_
  refine movesFrom_write (updateJob_write found (requeue_jobMove dead (allowed job found dead))) (movesFrom_view ?_)
  refine movesFrom_ite (fun failed => ?_) fun _ => movesFrom_commit (existingJob_writes _)
  obtain ⟨step, atStep, isFailed⟩ := status_of_any failed
  refine movesFrom_write (updateStep_write atStep (.keptOutput ⟨rfl, rfl, rfl⟩ (by simp [isFailed]) ?_ rfl))
    (movesFrom_commit (existingJob_writes _))
  simp [RunStep.requeue]

end

end SacmRuntime
