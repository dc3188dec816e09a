import SacmRuntime.Runtime.LeaseOrder

namespace SacmRuntime
open Session ExecutionPlaneService

def ExecutionJob.recovered (now : Nat) (job : ExecutionJob) : ExecutionJob :=
  if job.expired now then job.release now "LeaseExpired" else job

/-- After the recovery the job waits, and the executor may be given it. -/
def ExecutionJob.WaitsFor (executor : ExecutorRegistration) (now : Nat) (job : ExecutionJob) : Prop :=
  (job.recovered now).givenTo executor = true

def FirstWaiting (d : Db) (executor : ExecutorRegistration) (now : Nat) (job : ExecutionJob) : Prop :=
  job ∈ d.jobs.rows ∧ job.WaitsFor executor now ∧
    ∀ other ∈ d.jobs.rows, other.WaitsFor executor now → (job.recovered now).Before (other.recovered now)

/-- A call for an active executor gives it the first job that waits, or none
if none waits. -/
def WorkConserving (env : Env) (d : Db) (supply : Supply) (executor : ExecutorRegistration)
    (leaseSeconds : Option Nat) :
    Prop :=
  ((request (acquireLease env executor.id leaseSeconds) d supply).1 = .ok none ∧
      ∀ job ∈ d.jobs.rows, ¬job.WaitsFor executor (supply.clock 0)) ∨
    ∃ leased job, (request (acquireLease env executor.id leaseSeconds) d supply).1 = .ok (some leased) ∧
      FirstWaiting d executor (supply.clock 0) job ∧ leased.job.id = job.id ∧ leased.job.state = .leased ∧
      leased.job.leaseOwnerId = some executor.id ∧ leased.job.attempt = (job.recovered (supply.clock 0)).attempt + 1 ∧
      (request (acquireLease env executor.id leaseSeconds) d supply).2.jobs.find job.id = some leased.job

/-- How many stored jobs in the scope of the executor are queued before the job. -/
def queuedBefore (d : Db) (executor : ExecutorRegistration) (job : ExecutionJob) : Nat :=
  (d.jobs.rows.filter (ExecutionJob.eligible executor)).countP fun other => other.id ≠ job.id ∧ other.Before job

section
variable {env : Env} {d : Db} {s t : Session Db} {now seconds : Nat} {executor : ExecutorRegistration}
  {candidates : List ExecutionJob} {supply : Supply} {leaseSeconds : Option Nat} {job other : ExecutionJob}

theorem before_antisymm (first : job.Before other) (second : other.Before job) : job.id = other.id := by
  have same : toLex (job.queuedAt, job.id) = toLex (other.queuedAt, other.id) := le_antisymm first second
  exact congrArg (fun key => (ofLex key).2) same

theorem mem_take_iff {jobs : List ExecutionJob} {most : Nat} (distinct : (jobs.map ExecutionJob.id).Nodup)
    (sorted : jobs.Pairwise ExecutionJob.Before) (member : job ∈ jobs) :
    job ∈ jobs.take most ↔ jobs.countP (fun other => other.id ≠ job.id ∧ other.Before job) < most := by
  obtain ⟨earlier, later, rfl⟩ := List.append_of_mem member
  rw [List.map_append, List.map_cons, List.nodup_append] at distinct
  obtain ⟨-, distinctLater, apart⟩ := distinct
  obtain ⟨-, sortedLater, across⟩ := List.pairwise_append.mp sorted
  have countEarlier : earlier.countP (fun other => other.id ≠ job.id ∧ other.Before job) = earlier.length := by
    refine List.countP_eq_length.mpr fun other inEarlier =>
      decide_eq_true ⟨?_, across other inEarlier job List.mem_cons_self⟩
    exact apart other.id (List.mem_map_of_mem inEarlier) job.id List.mem_cons_self
  have countLater : (job :: later).countP (fun other => other.id ≠ job.id ∧ other.Before job) = 0 := by
    refine List.countP_eq_zero.mpr fun other inLater holds => ?_
    obtain ⟨different, before⟩ := of_decide_eq_true holds
    rcases List.mem_cons.mp inLater with rfl | behind
    · exact different rfl
    · exact different (before_antisymm before ((List.pairwise_cons.mp sortedLater).1 other behind))
  rw [List.countP_append, countEarlier, countLater, Nat.add_zero, List.take_append]
  constructor
  · intro inTake
    by_contra many
    rcases List.mem_append.mp inTake with first | second
    · exact apart job.id (List.mem_map_of_mem (List.mem_of_mem_take first)) job.id List.mem_cons_self rfl
    · have nothing : most - earlier.length = 0 := by omega
      rw [nothing, List.take_zero] at second
      cases second
  · intro few
    refine List.mem_append_right _ ?_
    obtain ⟨k, room⟩ : ∃ k, most - earlier.length = k + 1 := ⟨most - earlier.length - 1, by omega⟩
    rw [room, List.take_succ_cons]
    exact List.mem_cons_self

theorem claimFirst_run
    (queued : ∀ job ∈ candidates, (s.flushed.jobs.find job.id).any (fun row => row.state = .queued) = true)
    (held : ∀ job ∈ candidates, s.working.jobs.find job.id = some job) :
    (candidates.find? (ExecutionJob.matchedBy executor) = none ∧
        (claimFirst env executor now seconds candidates s).1 = .ok none) ∨
      ∃ job token, candidates.find? (ExecutionJob.matchedBy executor) = some job ∧
        ∃ t, claimFirst env executor now seconds candidates s = (.ok (some ⟨job.lease executor.id
            (tokenHash env "lease" token) now seconds (job.attempt + 1), token⟩), t) ∧
          t.committed.jobs.find job.id = some (job.lease executor.id (tokenHash env "lease" token) now seconds
            (job.attempt + 1)) := by
  induction candidates with
  | nil => exact .inl ⟨rfl, rfl⟩
  | cons candidate rest ih =>
    cases matched : candidate.matchedBy executor with
    | false =>
      have skips :
          claimFirst env executor now seconds (candidate :: rest) s = claimFirst env executor now seconds rest
          s := by
        rw [claimFirst, matched]
        rfl
      rw [skips, List.find?_cons_of_neg (by rw [matched]; exact Bool.false_ne_true)]
      exact ih (fun job member => queued job (List.mem_cons_of_mem _ member))
        fun job member => held job (List.mem_cons_of_mem _ member)
    | true =>
      have claims : claimFirst env executor now seconds (candidate :: rest) s =
          claim env executor now seconds candidate (s.tokens 0) { s with tokens := fun n => s.tokens (n + 1) } := by
        have stored := queued candidate List.mem_cons_self
        rw [claimFirst, matched]
        change (if (!((s.flushed.jobs.find candidate.id).any fun row => row.state = .queued)) = true then _ else _ :
          Service (Option LeasedJob)) _ = _
        rw [stored]
        rfl
      obtain ⟨t, ran, stored⟩ := claim_run env executor now seconds (s.tokens 0)
        (s := { s with tokens := fun n => s.tokens (n + 1) }) (held candidate List.mem_cons_self)
      rw [claims, List.find?_cons_of_pos matched]
      exact .inr ⟨candidate, s.tokens 0, rfl, t, ran, stored⟩

def lookedAt (d : Db) (executor : ExecutorRegistration) : List ExecutionJob :=
  ((d.jobs.rows.filter (ExecutionJob.eligible executor)).insertionSort ExecutionJob.Before).take 100

theorem acquireLease_run (flushes : env.autoflush = false) (known : d.executors.find executor.id = some executor)
    (active : executor.status = .active) :
    ((lookedAt d executor).find? (ExecutionJob.matchedBy executor) = none ∧
        (request (acquireLease env executor.id leaseSeconds) d supply).1 = .ok none) ∨
      ∃ job token, (lookedAt d executor).find? (ExecutionJob.matchedBy executor) = some job ∧
        (request (acquireLease env executor.id leaseSeconds) d supply).1 = .ok (some ⟨job.lease executor.id
            (tokenHash env "lease" token) (supply.clock 0) (leaseDuration env leaseSeconds) (job.attempt + 1), token⟩) ∧
        (request (acquireLease env executor.id leaseSeconds) d supply).2.jobs.find job.id =
          some (job.lease executor.id (tokenHash env "lease" token) (supply.clock 0) (leaseDuration env leaseSeconds)
            (job.attempt + 1)) := by
  obtain ⟨jobs, t, recovered, unflushed, released⟩ := recoverExpired_releases env d (supply.clock 0)
    ⟨fun n => supply.clock (n + 1), supply.uuids, supply.tokens⟩
  obtain ⟨selected, live⟩ := selectQueued_unflushed flushes executor unflushed released
  have reaches : acquireLease env executor.id leaseSeconds (start d supply) =
      claimFirst env executor (supply.clock 0) (leaseDuration env leaseSeconds) (lookedAt d executor) t := by
    unfold acquireLease existingExecutor
    rw [Tx.bind_assoc_run, bind_view, start_working, known]
    have passes : requireActive executor (start d supply) = (.ok (), start d supply) := by
      unfold requireActive
      rw [if_neg (not_not.mpr active)]
      rfl
    rw [Tx.bind_expect_some, Tx.bind_run_ok _ passes, bind_utcnow]
    have recovers : recoverExpired env (some ((start d supply).clock 0)) false
        { start d supply with clock := fun n => (start d supply).clock (n + 1) } = (.ok jobs, t) := recovered
    rw [Tx.bind_run_ok _ recovers, Tx.bind_run_ok _ selected]
    rfl
  have among : ∀ job ∈ lookedAt d executor, job ∈ d.jobs.rows ∧ job.eligible executor = true := fun job member =>
    List.mem_filter.mp ((List.mem_insertionSort _).mp (List.mem_of_mem_take member))
  have stored : ∀ job ∈ lookedAt d executor, (t.flushed.jobs.find job.id).any (fun row => row.state = .queued) =
      true := by
    intro job member
    obtain ⟨inRows, eligible⟩ := among job member
    have found : d.jobs.find job.id = some job := Table.find_of_mem inRows
    rw [unflushed, found, Option.any_some]
    exact decide_eq_true (eligible_queued eligible)
  unfold request
  rw [reaches]
  rcases claimFirst_run stored fun job member => live job (among job member).1 (among job member).2 with
    ⟨none_, ran⟩ | ⟨job, token, first, u, ran, leased⟩
  · exact .inl ⟨none_, ran⟩
  · refine .inr ⟨job, token, first, congrArg Prod.fst ran, ?_⟩
    rw [ran]
    exact leased

theorem recovered_id (now : Nat) (job : ExecutionJob) : (job.recovered now).id = job.id := by
  unfold ExecutionJob.recovered
  split
  · rfl
  · rfl

theorem eligible_recovered (now : Nat) (eligible : job.eligible executor = true) :
    job.expired now = false ∧ job.recovered now = job := by
  have waits : job.expired now = false := by
    simp [ExecutionJob.expired, ExecutionJob.active, eligible_queued eligible]
  refine ⟨waits, ?_⟩
  unfold ExecutionJob.recovered
  rw [waits]
  rfl

theorem mem_lookedAt : job ∈ lookedAt d executor ↔
    job ∈ d.jobs.rows ∧ job.eligible executor = true ∧ queuedBefore d executor job < 100 := by
  have perm := List.perm_insertionSort ExecutionJob.Before (d.jobs.rows.filter (ExecutionJob.eligible executor))
  have distinct : (((d.jobs.rows.filter (ExecutionJob.eligible executor)).insertionSort ExecutionJob.Before).map
      ExecutionJob.id).Nodup := by
    have rows : ((d.jobs.rows.filter (ExecutionJob.eligible executor)).map ExecutionJob.id).Nodup :=
      (List.filter_sublist.map ExecutionJob.id).nodup d.jobs.distinct
    exact (perm.map ExecutionJob.id).nodup_iff.mpr rows
  have place : ∀ inSorted :
    job ∈ (d.jobs.rows.filter (ExecutionJob.eligible executor)).insertionSort ExecutionJob.Before,
      (job ∈ lookedAt d executor ↔ queuedBefore d executor job < 100) := by
    intro inSorted
    have iff_ : job ∈ List.take 100 _ ↔ _ := mem_take_iff distinct (insertionSort_before _) inSorted
    rw [perm.countP_eq] at iff_
    exact iff_
  constructor
  · intro member
    have inSorted := List.mem_of_mem_take member
    obtain ⟨inRows, eligible⟩ := List.mem_filter.mp (perm.mem_iff.mp inSorted)
    exact ⟨inRows, eligible, (place inSorted).mp member⟩
  · rintro ⟨inRows, eligible, few⟩
    exact (place (perm.mem_iff.mpr (List.mem_filter.mpr ⟨inRows, eligible⟩))).mpr few

theorem givenTo_iff : job.givenTo executor = true ↔ job.eligible executor = true ∧ job.matchedBy executor = true :=
  Bool.and_eq_true_iff

theorem found_firstWaiting (first : FirstWaiting d executor now job) (fresh : job.expired now = false)
    (few : queuedBefore d executor job < 100) :
    (lookedAt d executor).find? (ExecutionJob.matchedBy executor) = some job := by
  obtain ⟨inRows, waits, before⟩ := first
  have same : job.recovered now = job := by
    unfold ExecutionJob.recovered
    rw [fresh]
    rfl
  have given : job.givenTo executor = true := by
    have waits' := waits
    unfold ExecutionJob.WaitsFor at waits'
    rwa [same] at waits'
  obtain ⟨eligible, matched⟩ := givenTo_iff.mp given
  have looked : job ∈ lookedAt d executor := mem_lookedAt.mpr ⟨inRows, eligible, few⟩
  cases found : (lookedAt d executor).find? (ExecutionJob.matchedBy executor) with
  | none => exact absurd matched (List.find?_eq_none.mp found job looked)
  | some other =>
    obtain ⟨otherMatched, earlier, later, split, unmatched⟩ := List.find?_eq_some_iff_append.mp found
    have otherLooked : other ∈ lookedAt d executor := List.mem_of_find?_eq_some found
    obtain ⟨otherRows, otherEligible, -⟩ := mem_lookedAt.mp otherLooked
    have otherSame := (eligible_recovered now otherEligible).2
    have otherWaits : other.WaitsFor executor now := by
      unfold ExecutionJob.WaitsFor
      rw [otherSame]
      exact givenTo_iff.mpr ⟨otherEligible, otherMatched⟩
    have jobFirst := before other otherRows otherWaits
    rw [same, otherSame] at jobFirst
    have sorted : (lookedAt d executor).Pairwise ExecutionJob.Before :=
      (insertionSort_before _).sublist (List.take_sublist _ _)
    have otherFirst : other.Before job := by
      rw [split] at sorted looked
      refine sorted_first sorted looked fun among => ?_
      have unlike := unmatched job among
      rw [matched] at unlike
      cases unlike
    have ids := before_antisymm otherFirst jobFirst
    exact congrArg some (List.inj_on_of_nodup_map d.jobs.distinct otherRows inRows ids)

theorem exists_firstWaiting (waiting : ∃ job ∈ d.jobs.rows, job.WaitsFor executor now) :
    ∃ job, FirstWaiting d executor now job := by
  let key (job : ExecutionJob) : ℕ ×ₗ String := toLex ((job.recovered now).queuedAt, (job.recovered now).id)
  let waits : List ExecutionJob := d.jobs.rows.filter fun job => (job.recovered now).givenTo executor
  have among : ∀ job, job ∈ waits ↔ job ∈ d.jobs.rows ∧ job.WaitsFor executor now := fun job => List.mem_filter
  cases least : waits.argmin key with
  | none =>
    obtain ⟨job, inRows, isWaiting⟩ := waiting
    have member := (among job).mpr ⟨inRows, isWaiting⟩
    rw [List.argmin_eq_none.mp least] at member
    cases member
  | some job =>
    obtain ⟨inRows, isWaiting⟩ := (among job).mp (List.argmin_mem least)
    refine ⟨job, inRows, isWaiting, fun other otherRow otherWaits => ?_⟩
    have least_ : key job ≤ key other := List.le_of_mem_argmin ((among other).mpr ⟨otherRow, otherWaits⟩) least
    exact least_

theorem firstWaiting_unique (first : FirstWaiting d executor now job) (second : FirstWaiting d executor now other) :
    job.id = other.id := by
  have ids := before_antisymm (first.2.2 other second.1 second.2.1) (second.2.2 job first.1 first.2.1)
  rwa [recovered_id, recovered_id] at ids

end

/-- Leasing is work-conserving, when the session does not flush before a query,
exactly if the first job that waits was queued already when the call began and
fewer than a hundred in the scope of the executor are queued before it. -/
theorem workConserving_iff {env : Env} {d : Db} {supply : Supply} {executor : ExecutorRegistration}
    {leaseSeconds : Option Nat} (flushes : env.autoflush = false)
    (known : d.executors.find executor.id = some executor) (active : executor.status = .active) :
    WorkConserving env d supply executor leaseSeconds ↔
      ∀ job, FirstWaiting d executor (supply.clock 0) job →
        job.expired (supply.clock 0) = false ∧ queuedBefore d executor job < 100 := by
  have outcome : ((lookedAt d executor).find? (ExecutionJob.matchedBy executor) = none ∧
        (request (acquireLease env executor.id leaseSeconds) d supply).1 = .ok none) ∨
      ∃ job token, (lookedAt d executor).find? (ExecutionJob.matchedBy executor) = some job ∧
        (request (acquireLease env executor.id leaseSeconds) d supply).1 = .ok (some ⟨job.lease executor.id
            (tokenHash env "lease" token) (supply.clock 0) (leaseDuration env leaseSeconds) (job.attempt + 1), token⟩) ∧
        (request (acquireLease env executor.id leaseSeconds) d supply).2.jobs.find job.id =
          some (job.lease executor.id (tokenHash env "lease" token) (supply.clock 0) (leaseDuration env leaseSeconds)
            (job.attempt + 1)) := acquireLease_run flushes known active
  constructor
  · intro conserving job first
    have leasedOne : ∃ chosen, (lookedAt d executor).find? (ExecutionJob.matchedBy executor) = some chosen ∧
        chosen.id = job.id := by
      rcases conserving with ⟨-, nobody⟩ | ⟨leased, chosen, ran, isFirst, same, -⟩
      · exact absurd first.2.1 (nobody job first.1)
      · rcases outcome with ⟨-, none_⟩ | ⟨candidate, token, found, some_, -⟩
        · rw [none_] at ran
          cases ran
        · rw [some_] at ran
          cases ran
          exact ⟨candidate, found, same.trans (firstWaiting_unique isFirst first)⟩
    obtain ⟨chosen, found, same⟩ := leasedOne
    obtain ⟨inRows, eligible, few⟩ := mem_lookedAt.mp (List.mem_of_find?_eq_some found)
    cases List.inj_on_of_nodup_map d.jobs.distinct inRows first.1 same
    exact ⟨(eligible_recovered _ eligible).1, few⟩
  · intro condition
    by_cases waiting : ∃ job ∈ d.jobs.rows, job.WaitsFor executor (supply.clock 0)
    · obtain ⟨job, first⟩ := exists_firstWaiting waiting
      obtain ⟨fresh, few⟩ := condition job first
      have found := found_firstWaiting first fresh few
      have same : job.recovered (supply.clock 0) = job := by
        unfold ExecutionJob.recovered
        rw [fresh]
        rfl
      rcases outcome with ⟨none_, -⟩ | ⟨candidate, token, isFound, ran, stored⟩
      · rw [found] at none_
        cases none_
      · rw [found] at isFound
        cases isFound
        refine .inr ⟨_, job, ran, first, rfl, rfl, rfl, ?_, stored⟩
        rw [same]
        rfl
    · refine .inl ⟨?_, fun job inRows waits => waiting ⟨job, inRows, waits⟩⟩
      rcases outcome with ⟨-, ran⟩ | ⟨candidate, token, found, -, -⟩
      · exact ran
      · obtain ⟨inRows, eligible, -⟩ := mem_lookedAt.mp (List.mem_of_find?_eq_some found)
        have matched := List.find?_some found
        refine absurd ⟨candidate, inRows, ?_⟩ waiting
        unfold ExecutionJob.WaitsFor
        rw [(eligible_recovered _ eligible).2]
        exact givenTo_iff.mpr ⟨eligible, matched⟩

namespace Sample

def oneQueued :
    Db := { plane with jobs := .ofRows [{ heldJob .queued 3 with leaseOwnerId := none, leaseExpiresAt := none }] }

theorem queued_leased : WorkConserving env oneQueued supply executor none := by
  refine (workConserving_iff rfl rfl rfl).mpr fun job first => ?_
  cases List.mem_singleton.mp first.1
  exact ⟨rfl, by decide +kernel⟩

def oneExpired : Db := { plane with jobs := .ofRows [heldJob .running 3] }

/-- The expired lease is taken back, and the call still says that no job waits. -/
theorem recovered_overlooked :
    ¬WorkConserving env oneExpired ⟨fun n => n + 200, supply.uuids, supply.tokens⟩ executor none := by
  have looked : lookedAt oneExpired executor = [] := by decide +kernel
  intro conserving
  have waits : (heldJob .running 3).WaitsFor executor 200 := by
    unfold ExecutionJob.WaitsFor
    decide +kernel
  rcases conserving with ⟨-, nobody⟩ | ⟨leased, job, ran, -⟩
  · exact nobody (heldJob .running 3) List.mem_cons_self waits
  · have nobody : (request (acquireLease env executor.id none) oneExpired
        ⟨fun n => n + 200, supply.uuids, supply.tokens⟩).1 = .ok none := by
      rcases @acquireLease_run env oneExpired executor ⟨fun n => n + 200, supply.uuids, supply.tokens⟩ none
        rfl rfl rfl with ⟨-, none_⟩ | ⟨other, token, found, -, -⟩
      · exact none_
      · rw [looked] at found
        cases found
    rw [nobody] at ran
    cases ran

end Sample

end SacmRuntime
