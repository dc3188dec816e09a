import SacmRuntime.Runtime.LeaseRecovery

namespace SacmRuntime
open Session ExecutionPlaneService Table Tx

def ExecutionJob.expired (now : Nat) (job : ExecutionJob) : Bool := job.active && job.leaseExpiresAt.any (· ≤ now)

/-- A job as the query of `acquire_lease` finds it: its expired lease has been
taken back, if the session flushes before it queries. -/
def ExecutionJob.atLease (env : Env) (now : Nat) (job : ExecutionJob) : ExecutionJob :=
  if env.autoflush && job.expired now then job.release now "LeaseExpired" else job

def ExecutionJob.givenTo (executor : ExecutorRegistration) (job : ExecutionJob) : Bool :=
  job.eligible executor && job.matchedBy executor

def ExecutionJob.Before (a b : ExecutionJob) : Prop := toLex (a.queuedAt, a.id) ≤ toLex (b.queuedAt, b.id)

instance : DecidableRel ExecutionJob.Before := fun a b =>
  inferInstanceAs (Decidable (toLex (a.queuedAt, a.id) ≤ toLex (b.queuedAt, b.id)))

def NextLeased (env : Env) (d : Db) (executor : ExecutorRegistration) (now : Nat) (job : ExecutionJob) : Prop :=
  job ∈ d.jobs.rows ∧ (job.atLease env now).givenTo executor = true ∧
    ∀ other ∈ d.jobs.rows, (other.atLease env now).givenTo executor = true →
      (job.atLease env now).Before (other.atLease env now)

section
variable {env : Env} {s t : Session Db} {d : Db} {now seconds : Nat} {executor : ExecutorRegistration}
  {candidates : List ExecutionJob} {leased : LeasedJob}

theorem atLease_id (env : Env) (now : Nat) (job : ExecutionJob) : (job.atLease env now).id = job.id := by
  unfold ExecutionJob.atLease
  split <;> rfl

theorem claimFirst_ok
    (queued : ∀ job ∈ candidates, (s.flushed.jobs.find job.id).any (fun row => row.state = .queued) = true)
    (held : ∀ job ∈ candidates, s.working.jobs.find job.id = some job)
    (claimed : (claimFirst env executor now seconds candidates s).1 = .ok (some leased)) :
    ∃ passed job rest, candidates = passed ++ job :: rest ∧ (∀ other ∈ passed, other.matchedBy executor = false) ∧
      job.matchedBy executor = true ∧ leased.job.id = job.id := by
  induction candidates with
  | nil => cases claimed
  | cons candidate rest ih =>
    rw [claimFirst] at claimed
    cases matched : candidate.matchedBy executor with
    | false =>
      rw [matched] at claimed
      obtain ⟨passed, job, later, split, unmatched, isMatched, same⟩ :=
        ih (fun job member => queued job (by simp [member])) (fun job member => held job (by simp [member])) claimed
      refine ⟨candidate :: passed, job, later, by rw [split]; rfl, ?_, isMatched, same⟩
      intro other member
      rcases List.mem_cons.mp member with rfl | among
      · exact matched
      · exact unmatched other among
    | true =>
      have claims : claimFirst env executor now seconds (candidate :: rest) s =
          claim env executor now seconds candidate (s.tokens 0) { s with tokens := fun n => s.tokens (n + 1) } := by
        have stored := queued candidate (by simp)
        rw [claimFirst, matched]
        change (if (!((s.flushed.jobs.find candidate.id).any fun row => row.state = .queued)) = true then _ else _ :
          Service (Option LeasedJob)) _ = _
        rw [stored]
        rfl
      rw [← claimFirst] at claimed
      obtain ⟨u, ran, _⟩ := claim_run env executor now seconds (s.tokens 0)
        (s := { s with tokens := fun n => s.tokens (n + 1) }) (held candidate (by simp))
      rw [claims, ran] at claimed
      cases claimed
      exact ⟨[], candidate, rest, rfl, by simp, matched, rfl⟩

/-- `recover_expired` inside `acquire_lease`: the released jobs are not flushed yet. -/
theorem recoverExpired_releases (env : Env) (d : Db) (now : Nat) (supply : Supply) :
    ∃ jobs t, recoverExpired env (some now) false (start d supply) = (.ok jobs, t) ∧ t.flushed = d ∧
      ∀ id, t.working.jobs.find id = (d.jobs.find id).map fun job =>
        if job.expired now then job.release now "LeaseExpired" else job := by
  have distinct : ((d.jobs.rows.filter (ExecutionJob.expired now)).map ExecutionJob.id).Nodup :=
    (List.filter_sublist.map ExecutionJob.id).nodup d.jobs.distinct
  obtain ⟨t, loop, _, released⟩ := releaseAll_run now (start d supply) distinct
  have unflushed : t.flushed = d := by
    have kept : (forEach (d.jobs.rows.filter (ExecutionJob.expired now))
        (fun job => releaseOrExpire job.id now "LeaseExpired") (start d supply)).2.flushed = d :=
      forEach_keeps (I := fun s : Session Db => s.flushed = d) (fun _ _ _ same => same) rfl
    rwa [loop] at kept
  refine ⟨d.jobs.rows.filter (ExecutionJob.expired now), t, ?_, unflushed, fun id => ?_⟩
  · unfold recoverExpired
    dsimp only
    have selected := selectJobs_clean env (ExecutionJob.expired now) d supply
    unfold ExecutionJob.expired at selected loop
    rw [bind_pure_run, bind_run_ok _ selected, bind_run_ok _ loop]
    rfl
  · rw [released id]
    change (if _ then (d.jobs.find id).map _ else d.jobs.find id) = _
    cases found : d.jobs.find id with
    | none => simp
    | some job =>
      have key : job.id = id := find_key found
      have listed : id ∈ (d.jobs.rows.filter (ExecutionJob.expired now)).map ExecutionJob.id ↔
          job.expired now = true := by
        constructor
        · intro member
          obtain ⟨other, inList, same⟩ := List.mem_map.mp member
          obtain ⟨inTable, isExpired⟩ := List.mem_filter.mp inList
          have atOther : d.jobs.find id = some other := same ▸ find_of_mem inTable
          cases Option.some.inj (atOther.symm.trans found)
          exact isExpired
        · intro isExpired
          exact List.mem_map.mpr ⟨job, List.mem_filter.mpr ⟨find_mem found, isExpired⟩, key⟩
      simp only [listed, Option.map_some]
      split <;> rfl

theorem eligible_queued {job : ExecutionJob} (eligible : job.eligible executor = true) : job.state = .queued := by
  simp only [ExecutionJob.eligible, Bool.and_eq_true, decide_eq_true_eq] at eligible
  exact eligible.1.1

theorem filterMap_held {table live : Table ExecutionJob} {q : ExecutionJob → Bool}
    (same : ∀ row ∈ table.rows, q row = true → live.find row.id = some row) :
    ((table.rows.filter q).filterMap fun row => live.find row.id) = table.rows.filter q := by
  have each : ∀ row ∈ table.rows.filter q, live.find row.id = some row := by
    intro row member
    obtain ⟨inTable, holds⟩ := List.mem_filter.mp member
    exact same row inTable holds
  rw [List.filterMap_congr each, List.filterMap_some]

/-- Without a flush the query of `acquire_lease` sees the rows as they were
stored, and what it finds is still held as it was. -/
theorem selectQueued_unflushed (flushes : env.autoflush = false) (executor : ExecutorRegistration)
    (clean : t.flushed = d)
    (released : ∀ id, t.working.jobs.find id = (d.jobs.find id).map fun job =>
      if job.expired now then job.release now "LeaseExpired" else job) :
    selectJobs env (ExecutionJob.eligible executor) t = (.ok (d.jobs.rows.filter (ExecutionJob.eligible executor)), t) ∧
      ∀ row ∈ d.jobs.rows, row.eligible executor = true → t.working.jobs.find row.id = some row := by
  have live : ∀ row ∈ d.jobs.rows, row.eligible executor = true → t.working.jobs.find row.id = some row := by
    intro row member eligible
    have found : d.jobs.find row.id = some row := find_of_mem member
    have waits : row.expired now = false := by
      simp [ExecutionJob.expired, ExecutionJob.active, eligible_queued eligible]
    rw [released, found, Option.map_some, waits]
    rfl
  have queued := filterMap_held live
  refine ⟨?_, live⟩
  simp [selectJobs, autoflush, flushes, bind_run, clean, queued]

/-- The query of `acquire_lease`, after the expired leases were taken back. -/
theorem selectQueued_run (env : Env) (executor : ExecutorRegistration) (clean : t.flushed = d)
    (released : ∀ id, t.working.jobs.find id = (d.jobs.find id).map fun job =>
      if job.expired now then job.release now "LeaseExpired" else job) :
    ∃ queued u, selectJobs env (ExecutionJob.eligible executor) t = (.ok queued, u) ∧
      (∀ job, job ∈ queued ↔ ∃ old ∈ d.jobs.rows, old.atLease env now = job ∧ job.eligible executor = true) ∧
      (∀ job ∈ queued, (u.flushed.jobs.find job.id).any (fun row => row.state = .queued) = true) ∧
      ∀ job ∈ queued, u.working.jobs.find job.id = some job := by
  have stored : ∀ {table : Table ExecutionJob} {job : ExecutionJob},
    job ∈ table.rows.filter (ExecutionJob.eligible executor) →
      table.find job.id = some job ∧ (table.find job.id).any (fun row => row.state = .queued) = true := by
    intro table job member
    obtain ⟨inTable, eligible⟩ := List.mem_filter.mp member
    have found : table.find job.id = some job := find_of_mem inTable
    exact ⟨found, by simp [found, eligible_queued eligible]⟩
  cases flushes : env.autoflush with
  | true =>
    have queued : ((t.working.jobs.rows.filter (ExecutionJob.eligible executor)).filterMap fun row =>
        t.working.jobs.find row.id) = t.working.jobs.rows.filter (ExecutionJob.eligible executor) :=
      filterMap_held fun row member _ => find_of_mem member
    refine ⟨t.working.jobs.rows.filter (ExecutionJob.eligible executor), { t with flushed := t.working }, ?_, ?_,
      fun job member => (stored member).2, fun job member => (stored member).1⟩
    · simp [selectJobs, autoflush, flushes, flush, bind_run, queued]
    · intro job
      have inTable : job ∈ t.working.jobs.rows ↔ ∃ old ∈ d.jobs.rows, old.atLease env now = job := by
        unfold ExecutionJob.atLease
        rw [flushes]
        constructor
        · intro member
          have found : t.working.jobs.find job.id = some job := find_of_mem member
          rw [released] at found
          obtain ⟨old, atOld, same⟩ := Option.map_eq_some_iff.mp found
          exact ⟨old, find_mem atOld, same⟩
        · rintro ⟨old, member, same⟩
          have atOld : d.jobs.find old.id = some old := find_of_mem member
          have found := released old.id
          rw [atOld] at found
          have now_ : t.working.jobs.find old.id = some job := by
            rw [found, ← same]
            rfl
          exact find_mem now_
      rw [List.mem_filter, inTable]
      constructor
      · rintro ⟨⟨old, member, same⟩, eligible⟩
        exact ⟨old, member, same, eligible⟩
      · rintro ⟨old, member, same, eligible⟩
        exact ⟨⟨old, member, same⟩, eligible⟩
  | false =>
    obtain ⟨selected, live⟩ := selectQueued_unflushed flushes executor clean released
    refine ⟨d.jobs.rows.filter (ExecutionJob.eligible executor), t, selected, ?_, fun job member => ?_,
      fun job member => ?_⟩
    · intro job
      unfold ExecutionJob.atLease
      rw [flushes, List.mem_filter]
      constructor
      · rintro ⟨member, eligible⟩
        exact ⟨job, member, rfl, eligible⟩
      · rintro ⟨old, member, rfl, eligible⟩
        exact ⟨member, eligible⟩
    · rw [clean]
      exact (stored member).2
    · obtain ⟨inTable, eligible⟩ := List.mem_filter.mp member
      exact live job inTable eligible

theorem sorted_first {passed rest : List ExecutionJob} {job other : ExecutionJob}
    (sorted : (passed ++ job :: rest).Pairwise ExecutionJob.Before) (member : other ∈ passed ++ job :: rest)
    (kept : other ∉ passed) : job.Before other := by
  rcases List.mem_append.mp member with before | after
  · exact absurd before kept
  · rcases List.mem_cons.mp after with rfl | later
    · exact le_refl (toLex (other.queuedAt, other.id))
    · exact (List.pairwise_cons.mp (List.pairwise_append.mp sorted).2.1).1 other later

theorem insertionSort_before (jobs : List ExecutionJob) :
    (jobs.insertionSort ExecutionJob.Before).Pairwise ExecutionJob.Before := by
  have total :
    Std.Total ExecutionJob.Before := ⟨fun a b => le_total (toLex (a.queuedAt, a.id)) (toLex (b.queuedAt, b.id))⟩
  have trans : IsTrans ExecutionJob ExecutionJob.Before := ⟨fun _ _ _ => le_trans⟩
  exact List.pairwise_insertionSort _ _

/-- `acquire_lease` gives an executor the job that is next for it. -/
theorem acquireLease_picks {supply : Supply} {executorId : String} {leaseSeconds : Option Nat}
    (claimed : (request (acquireLease env executorId leaseSeconds) d supply).1 = .ok (some leased)) :
    ∃ executor job, d.executors.find executorId = some executor ∧ NextLeased env d executor (supply.clock 0) job ∧
      executor.status = .active ∧ leased.job.id = job.id := by
  have ran : acquireLease env executorId leaseSeconds (start d supply) =
      (.ok (some leased), (acquireLease env executorId leaseSeconds (start d supply)).2) := Prod.ext claimed rfl
  revert ran
  generalize (acquireLease env executorId leaseSeconds (start d supply)).2 = last
  intro ran
  unfold acquireLease existingExecutor at ran
  rw [bind_assoc_run, bind_view] at ran
  obtain ⟨executor, _, known, ran⟩ := bind_ok ran
  obtain ⟨found, rfl⟩ := expect_ok known
  obtain ⟨_, s1, active, ran⟩ := bind_ok ran
  obtain ⟨inUse, same⟩ : executor.status = .active ∧ s1 = start d supply := by
    unfold requireActive at active
    split at active
    · cases active
    · cases active
      exact ⟨not_not.mp ‹_›, rfl⟩
  subst same
  rw [bind_utcnow] at ran
  obtain ⟨jobs, t, recovered, unflushed, released⟩ := recoverExpired_releases env d (supply.clock 0)
    ⟨fun n => supply.clock (n + 1), supply.uuids, supply.tokens⟩
  have recovers : recoverExpired env (some ((start d supply).clock 0)) false
      { start d supply with clock := fun n => (start d supply).clock (n + 1) } = (.ok jobs, t) := recovered
  rw [bind_run_ok _ recovers] at ran
  obtain ⟨queued, u, selected, members, stored, held⟩ := selectQueued_run env executor unflushed released
  rw [bind_run_ok _ selected] at ran
  let sorted := queued.insertionSort ExecutionJob.Before
  change claimFirst env executor _ _ (sorted.take 100) u = _ at ran
  have listed : ∀ job, job ∈ sorted ↔ job ∈ queued := fun job => List.mem_insertionSort _
  have first := congrArg Prod.fst ran
  obtain ⟨passed, job, rest, split, unmatched, matched, same⟩ := claimFirst_ok
    (fun job member => stored job ((listed job).mp (List.mem_of_mem_take member)))
    (fun job member => held job ((listed job).mp (List.mem_of_mem_take member))) first
  have whole : sorted = passed ++ job :: (rest ++ sorted.drop 100) := by
    rw [← List.cons_append, ← List.append_assoc, ← split, List.take_append_drop]
  have inQueue : job ∈ queued := (listed job).mp (by rw [whole]; simp)
  obtain ⟨old, inTable, seen, eligible⟩ := (members job).mp inQueue
  refine ⟨executor, old, found, ⟨inTable, ?_, ?_⟩, inUse, ?_⟩
  · rw [seen]
    simp [ExecutionJob.givenTo, eligible, matched]
  · intro other otherInTable given
    rw [ExecutionJob.givenTo, Bool.and_eq_true] at given
    have otherQueued : other.atLease env (supply.clock 0) ∈ queued :=
      (members _).mpr ⟨other, otherInTable, rfl, given.1⟩
    rw [seen]
    refine sorted_first (whole ▸ insertionSort_before queued) (whole ▸ (listed _).mpr otherQueued) fun among => ?_
    have unlike := unmatched _ among
    rw [given.2] at unlike
    cases unlike
  · rw [same, ← seen, atLease_id]

end

end SacmRuntime
