import SacmRuntime.Runtime.Operations

namespace SacmRuntime
open Session ExecutionPlaneService Table Tx

def LeasesExpired (d : Db) (now : Nat) : Prop :=
  ∀ job ∈ d.jobs.rows, job.active = true → job.leaseExpiresAt.any (· ≤ now) = true

/-- The store `recover_expired` leaves. -/
def afterExpired (env : Env) (d : Db) (now : Nat) (commits : Bool) (supply : Supply) : Db :=
  (recoverExpired env (some now) commits (start d supply)).2.working

/-- The store `recover_orphaned` leaves. -/
def afterOrphaned (env : Env) (d : Db) (now : Nat) (commits : Bool) (supply : Supply) : Db :=
  (recoverOrphaned env (some now) none commits (start d supply)).2.working

/-- Both stores have the same job states and the same step states. -/
structure StatesAgree (d e : Db) : Prop where
  jobs : ∀ id, (d.jobs.find id).map ExecutionJob.state = (e.jobs.find id).map ExecutionJob.state
  steps : ∀ id, (d.steps.find id).map RunStep.status = (e.steps.find id).map RunStep.status

/-- No job that held a lease is dead-lettered while its step is running. -/
def NoneStranded (d e : Db) : Prop :=
  ∀ job ∈ d.jobs.rows, job.active = true → ∀ after, e.jobs.find job.id = some after → after.state = .deadLetter →
    ∀ step, e.steps.find after.runStepId = some step → step.status ≠ .running

def StepRuns (d : Db) (job : ExecutionJob) : Prop :=
  (d.steps.find job.runStepId).any (fun step => step.status = .running) = true

section
variable {env : Env} {d e : Db} {s t : Session Db} {now : Nat} {jobs : List ExecutionJob}

theorem selected_held (jobs : Table ExecutionJob) (q : ExecutionJob → Bool) :
    ((jobs.rows.filter q).filterMap fun row => jobs.find row.id) = jobs.rows.filter q := by
  have each : ∀ row ∈ jobs.rows.filter q, jobs.find row.id = some row := by
    intro row member
    exact find_of_mem (List.mem_of_mem_filter member)
  rw [List.filterMap_congr each, List.filterMap_some]

theorem selectJobs_clean (env : Env) (q : ExecutionJob → Bool) (d : Db) (supply : Supply) :
    selectJobs env q (start d supply) = (.ok (d.jobs.rows.filter q), start d supply) := by
  cases flushes : env.autoflush <;> simp [selectJobs, autoflush, flushes, flush, start, bind_run, selected_held]

/-- The jobs of the list are released, the others are as they were. -/
def JobsReleased (now : Nat) (jobs : List ExecutionJob) (d e : Db) : Prop :=
  ∀ id, e.jobs.find id = if id ∈ jobs.map ExecutionJob.id then
    (d.jobs.find id).map (ExecutionJob.release now "LeaseExpired") else d.jobs.find id

variable {job : ExecutionJob} {mid : Db}

theorem JobsReleased.cons (fresh : job.id ∉ jobs.map ExecutionJob.id)
    (first : mid.jobs = d.jobs.update job.id (ExecutionJob.release now "LeaseExpired"))
    (rest : JobsReleased now jobs mid e) : JobsReleased now (job :: jobs) d e := by
  intro id
  rw [rest id, first]
  by_cases here : id = job.id
  · subst here
    have released : (d.jobs.update job.id (ExecutionJob.release now "LeaseExpired")).find job.id =
        (d.jobs.find job.id).map (ExecutionJob.release now "LeaseExpired") :=
      find_update_self fun _ => rfl
    rw [if_neg fresh, if_pos (by simp), released]
  · rw [find_update_ne here]
    simp [here]

theorem releaseOrExpire_run (jobId reason : String) (now : Nat) (s : Session Db) :
    ∃ t, releaseOrExpire jobId now reason s = (.ok (), t) ∧ t.working.steps = s.working.steps ∧
      t.working.jobs = s.working.jobs.update jobId (ExecutionJob.release now reason) := ⟨_, rfl, rfl, rfl⟩

/-- The loop of `recover_expired`. -/
theorem releaseAll_run (now : Nat) (s : Session Db) (distinct : (jobs.map ExecutionJob.id).Nodup) :
    ∃ t, forEach jobs (fun job => releaseOrExpire job.id now "LeaseExpired") s = (.ok (), t) ∧
      t.working.steps = s.working.steps ∧ JobsReleased now jobs s.working t.working := by
  induction jobs generalizing s with
  | nil => exact ⟨s, rfl, rfl, fun id => by simp⟩
  | cons job rest ih =>
    rw [List.map_cons, List.nodup_cons] at distinct
    obtain ⟨mid, first, steps, released⟩ := releaseOrExpire_run job.id "LeaseExpired" now s
    obtain ⟨t, loop, stepsToo, others⟩ := ih mid distinct.2
    refine ⟨t, ?_, stepsToo.trans steps, others.cons distinct.1 released⟩
    unfold forEach
    rw [bind_run_ok _ first, loop]

structure StepsReconciled (jobs : List ExecutionJob) (d e : Db) : Prop where
  idle : ∀ id, (d.steps.find id).any (fun step => step.status = .running) = false →
    e.steps.find id = d.steps.find id
  untouched : ∀ id, id ∉ jobs.map ExecutionJob.runStepId → e.steps.find id = d.steps.find id
  settled : ∀ job ∈ jobs, (e.steps.find job.runStepId).any (fun step => step.status = .running) = false

theorem reconcile_find (d : Db) (stepId : String) (dead : Bool) (now : Nat) :
    (d.steps.update stepId (RunStep.reconcile dead now)).find stepId =
      (d.steps.find stepId).map (RunStep.reconcile dead now) := find_update_self fun _ => rfl

theorem reconcile_not_running (dead : Bool) (now : Nat) (step : RunStep) :
    (step.reconcile dead now).status ≠ .running := by
  cases dead <;> simp [RunStep.reconcile]

theorem StepsReconciled.cons (first : StepsReconciled [job] d mid) (rest : StepsReconciled jobs mid e) :
    StepsReconciled (job :: jobs) d e where
  idle id calm := by
    have same := first.idle id calm
    rw [rest.idle id (by rw [same]; exact calm), same]
  untouched id absent := by
    simp only [List.map_cons, List.mem_cons, not_or] at absent
    rw [rest.untouched id absent.2, first.untouched id (by simpa using absent.1)]
  settled other member := by
    rcases List.mem_cons.mp member with here | later
    · subst here
      have calm := first.settled other (by simp)
      rw [rest.idle _ calm]
      exact calm
    · exact rest.settled other later

/-- One round of the loop of `recover_orphaned`. -/
theorem recoverOrphan_run (now : Nat) (job : ExecutionJob) (reason : String) (report : OrphanReport) (s : Session Db)
    (held : (s.working.jobs.find job.id).isSome) : ∃ next t,
      recoverOrphan now job reason report s = (.ok next, t) ∧
      t.working.jobs = s.working.jobs.update job.id (ExecutionJob.release now reason) ∧
      StepsReconciled [job] s.working t.working := by
  obtain ⟨mid, first, steps, released⟩ := releaseOrExpire_run job.id reason now s
  have kept : (mid.working.jobs.find job.id).isSome := by rw [released, find_update_isSome]; exact held
  obtain ⟨row, found⟩ := Option.isSome_iff_exists.mp kept
  have again : existingJob job.id mid = (.ok row, mid) := by
    simp [existingJob, found, expect]
  unfold recoverOrphan
  rw [bind_run_ok _ first, bind_run_ok _ again]
  simp only [bind_view, steps]
  by_cases running : (s.working.steps.find job.runStepId).any (fun step => step.status = .running) = true
  · simp only [running, if_true]
    refine ⟨_, _, rfl, released, ?_, ?_, ?_⟩
    · intro id calm
      have other : id ≠ job.runStepId := by
        intro same
        rw [same, running] at calm
        cases calm
      simp only [steps]
      exact find_update_ne other
    · intro id absent
      have other : id ≠ job.runStepId := by simpa using absent
      simp only [steps]
      exact find_update_ne other
    · intro other member
      rw [List.mem_singleton.mp member]
      simp only [steps]
      rw [reconcile_find]
      cases s.working.steps.find job.runStepId with
      | none => rfl
      | some step => simp [reconcile_not_running]
  · have calm : (s.working.steps.find job.runStepId).any (fun step => step.status = .running) = false := by
      simpa using running
    simp only [calm, Bool.false_eq_true, if_false]
    refine ⟨_, _, rfl, released, fun id _ => by simp only [steps], fun id _ => by simp only [steps], ?_⟩
    intro other member
    rw [List.mem_singleton.mp member]
    simp only [steps]
    exact calm

/-- The loop of `recover_orphaned` over jobs whose lease has expired. -/
theorem recoverOrphans_run (now : Nat) (report : OrphanReport) (s : Session Db)
    (distinct : (jobs.map ExecutionJob.id).Nodup) (held : ∀ job ∈ jobs, (s.working.jobs.find job.id).isSome)
    (expired : ∀ job ∈ jobs, job.leaseExpiresAt.any (· ≤ now) = true) : ∃ next t,
      recoverOrphans now jobs report s = (.ok next, t) ∧ JobsReleased now jobs s.working t.working ∧
      StepsReconciled jobs s.working t.working := by
  induction jobs generalizing report s with
  | nil =>
    refine ⟨report, s, rfl, fun id => by simp, fun _ _ => rfl, fun _ _ => rfl, ?_⟩
    intro job member
    cases member
  | cons job rest ih =>
    rw [List.map_cons, List.nodup_cons] at distinct
    have reason : orphanReason s.working now job = some "LeaseExpired" := by
      unfold orphanReason
      rw [if_pos (Or.inr (expired job (by simp)))]
    obtain ⟨next, mid, round, released, reconciled⟩ :=
      recoverOrphan_run now job "LeaseExpired" report s (held job (by simp))
    have heldToo : ∀ other ∈ rest, (mid.working.jobs.find other.id).isSome := by
      intro other member
      rw [released, find_update_isSome]
      exact held other (by simp [member])
    obtain ⟨last, t, loop, others, stepsToo⟩ := ih next mid distinct.2 heldToo fun other member =>
      expired other (by simp [member])
    refine ⟨last, t, ?_, others.cons distinct.1 released, reconciled.cons stepsToo⟩
    unfold recoverOrphans
    simp only [bind_view, reason]
    rw [bind_run_ok _ round, loop]

def activeJobs (d : Db) : List ExecutionJob := d.jobs.rows.filter ExecutionJob.active

theorem activeJobs_distinct (d : Db) : ((activeJobs d).map ExecutionJob.id).Nodup :=
  (List.filter_sublist.map ExecutionJob.id).nodup d.jobs.distinct

theorem activeJobs_held (member : job ∈ activeJobs d) : d.jobs.find job.id = some job :=
  find_of_mem (List.mem_of_mem_filter member)

/-- With every lease expired `recover_expired` releases the jobs that hold one and touches no step. -/
theorem afterExpired_spec (env : Env) (expired : LeasesExpired d now) (commits : Bool) (supply : Supply) :
    (afterExpired env d now commits supply).steps = d.steps ∧
      JobsReleased now (activeJobs d) d (afterExpired env d now commits supply) := by
  have picked : d.jobs.rows.filter (fun job => job.active && job.leaseExpiresAt.any (· ≤ now)) = activeJobs d := by
    refine List.filter_congr fun job member => ?_
    cases active : job.active with
    | false => rfl
    | true => simpa using expired job member active
  obtain ⟨t, loop, steps, released⟩ := releaseAll_run now (start d supply) (activeJobs_distinct d)
  have same : afterExpired env d now commits supply = t.working := by
    simp only [afterExpired, recoverExpired, bind_pure_run]
    rw [bind_run_ok _ (selectJobs_clean env _ d supply), picked, bind_run_ok _ loop]
    cases commits <;> rfl
  rw [same]
  exact ⟨steps, released⟩

/-- With every lease expired `recover_orphaned` releases the same jobs and reconciles their steps. -/
theorem afterOrphaned_spec (env : Env) (expired : LeasesExpired d now) (commits : Bool) (supply : Supply) :
    JobsReleased now (activeJobs d) d (afterOrphaned env d now commits supply) ∧
      StepsReconciled (activeJobs d) d (afterOrphaned env d now commits supply) := by
  have picked : d.jobs.rows.filter (fun job => job.active &&
      (decide ((none : Option String).filter (· ≠ "") = none) || decide (job.organizationId = none))) =
          activeJobs d := by
    refine List.filter_congr fun job _ => ?_
    simp
  have held : ∀ job ∈ activeJobs d, ((start d supply).working.jobs.find job.id).isSome := by
    intro job member
    rw [start_working, activeJobs_held member]
    rfl
  obtain ⟨next, t, loop, released, reconciled⟩ := recoverOrphans_run now {} (start d supply) (activeJobs_distinct d)
    held fun job member => expired job (List.mem_of_mem_filter member) (List.of_mem_filter member)
  have same : afterOrphaned env d now commits supply = t.working := by
    simp only [afterOrphaned, recoverOrphaned, bind_pure_run]
    rw [bind_run_ok _ (selectJobs_clean env _ d supply), picked, bind_run_ok _ loop]
    cases commits <;> rfl
  rw [same]
  exact ⟨released, reconciled⟩

theorem JobsReleased.step_of {after : ExecutionJob} (released : JobsReleased now jobs d e)
    (before : d.jobs.find job.id = some job) (found : e.jobs.find job.id = some after) :
    after.runStepId = job.runStepId := by
  rw [released job.id, before] at found
  split at found
  · cases found
    rfl
  · cases found
    rfl

/-- With every lease expired the two recovery paths agree and strand no job
exactly when no job that holds a lease has a running step. -/
theorem lease_recovery_agrees (env : Env) (expired : LeasesExpired d now) (commits : Bool) (supply : Supply) :
    (StatesAgree (afterExpired env d now commits supply) (afterOrphaned env d now commits supply) ∧
      NoneStranded d (afterExpired env d now commits supply) ∧
      NoneStranded d (afterOrphaned env d now commits supply)) ↔
    ∀ job ∈ d.jobs.rows, job.active = true → ¬StepRuns d job := by
  obtain ⟨steps, released⟩ := afterExpired_spec env expired commits supply
  obtain ⟨releasedToo, reconciled⟩ := afterOrphaned_spec env expired commits supply
  constructor
  · rintro ⟨agree, -, -⟩ job member active runs
    -- recover_expired leaves the step running, recover_orphaned does not
    have settled := reconciled.settled job (List.mem_filter.mpr ⟨member, active⟩)
    have same := agree.steps job.runStepId
    rw [steps] at same
    obtain ⟨row, before, running⟩ := (Option.any_eq_true _ _).mp runs
    rw [before, Option.map_some, of_decide_eq_true running] at same
    obtain ⟨last, after, lastRuns⟩ := Option.map_eq_some_iff.mp same.symm
    simp [after, lastRuns] at settled
  · intro calm
    have unchanged : ∀ id, (afterOrphaned env d now commits supply).steps.find id = d.steps.find id := by
      intro id
      by_cases touched : id ∈ (activeJobs d).map ExecutionJob.runStepId
      · obtain ⟨job, member, rfl⟩ := List.mem_map.mp touched
        refine reconciled.idle _ ?_
        simpa [StepRuns] using calm job (List.mem_of_mem_filter member) (List.of_mem_filter member)
      · exact reconciled.untouched id touched
    have none_stranded : ∀ e, JobsReleased now (activeJobs d) d e → (∀ id, e.steps.find id = d.steps.find id) →
        NoneStranded d e := by
      intro e freed same job member active after found _ step holds running
      rw [freed.step_of (Table.find_of_mem member) found, same] at holds
      exact calm job member active (by simp [StepRuns, holds, running])
    refine ⟨⟨fun id => ?_, fun id => ?_⟩, none_stranded _ released fun id => by rw [steps],
      none_stranded _ releasedToo unchanged⟩
    · rw [released id, releasedToo id]
    · rw [steps, unchanged id]

end

namespace Sample

def held (state : JobState) (status : StepStatus) : Db :=
  { store .implementing status with jobs := .ofRows [heldJob state 1] }

theorem held_expired (state : JobState) (status : StepStatus) : LeasesExpired (held state status) 100 := by
  intro job member _
  rw [show (held state status).jobs.rows = [heldJob state 1] from rfl, List.mem_singleton] at member
  rw [member]
  rfl

end Sample

open Sample in
/-- A running job on its last attempt is dead-lettered and its step goes on running. -/
theorem running_step_stranded : ¬∀ (env : Env) (d : Db) (now : Nat) (supply : Supply), LeasesExpired d now →
    StatesAgree (afterExpired env d now true supply) (afterOrphaned env d now true supply) ∧
      NoneStranded d (afterExpired env d now true supply) ∧
      NoneStranded d (afterOrphaned env d now true supply) := by
  intro all
  obtain ⟨-, expired, -⟩ := all env (held .running .running) 100 supply (held_expired _ _)
  exact expired (heldJob .running 1)
    (by simp [held, Table.ofRows, Table.insert?, Table.find, Table.insert, Table.empty])
    rfl _ rfl rfl _ rfl rfl

open Sample in
theorem leased_before_start : StatesAgree (afterExpired env (held .leased .pending) 100 true supply)
    (afterOrphaned env (held .leased .pending) 100 true supply) ∧
      NoneStranded (held .leased .pending) (afterExpired env (held .leased .pending) 100 true supply) ∧
      NoneStranded (held .leased .pending) (afterOrphaned env (held .leased .pending) 100 true supply) := by
  refine (lease_recovery_agrees env (held_expired .leased .pending) true supply).mpr ?_
  intro job member _
  rw [show (held .leased .pending).jobs.rows = [heldJob .leased 1] from rfl, List.mem_singleton] at member
  rw [member]
  simp [StepRuns, show (held .leased .pending).steps.find "s" = some (step .pending) from rfl, heldJob, step]

end SacmRuntime
