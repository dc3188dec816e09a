import SacmRuntime.Lib.Interleaving
import SacmRuntime.Runtime.Operations
import SacmRuntime.Runtime.WorkflowMoves

namespace SacmRuntime
open Session WorkflowQueueService Table

/-- A worker's call of `claim`: its settings and what the environment hands it. -/
structure Claiming where
  config : QueueConfig
  supply : Supply

def Claiming.now (c : Claiming) : Nat := c.supply.clock 0

def Claiming.token (c : Claiming) : String := c.supply.uuids 0

/-- A call of `claim` under way, by the statement it executes next. -/
inductive ClaimCall where
  | recover (c : Claiming)
  | read (c : Claiming)
  | update (c : Claiming) (jobId : String)

def ClaimCall.token : ClaimCall → String
  | recover c | read c | update c _ => c.token

/-- A successful claim: the attempt it counted and the token it issued. -/
structure QueueClaim where
  jobId : String
  attempt : Nat
  token : String

/-- What the workers share: the store, the tokens drawn so far, and an
observer's lists of the successful claims and of the leases taken back. -/
structure Queue where
  db : Db
  drawn : List String
  claimed : List QueueClaim
  ended : List (String × String)

/-- The leases that a job had in one store and has not in a later one. -/
def leasesEnded (d e : Db) : List (String × String) :=
  d.workflowJobs.rows.filterMap fun job => job.leaseToken.bind fun token =>
    if (e.workflowJobs.find job.id).bind WorkflowJob.leaseToken = none then some (job.id, token) else none

namespace Queue

def after (q : Queue) (e : Db) : Queue := { q with db := e, ended := q.ended ++ leasesEnded q.db e }

def claimsOf (q : Queue) (jobId : String) : List QueueClaim := q.claimed.filter fun claim => claim.jobId == jobId

def claims (q : Queue) (jobId : String) (claimed : WorkflowJob × String) (e : Db) : Queue :=
  { q with db := e, claimed := q.claimed ++ [⟨jobId, claimed.1.attempt, claimed.2⟩] }

/-- The next statement of a claim: lease-expiry recovery, reading a
candidate, and the conditional update. -/
def statement (q : Queue) : ClaimCall → Queue × Option ClaimCall
  | .recover c => (q.after (request (recoverExpired c.now) q.db c.supply).2, some (.read c))
  | .read c =>
    match candidate q.db c.now with
    | none => (q, none)
    | some job => (q, some (.update c job.id))
  | .update c jobId =>
    match request (claimUpdate c.config jobId c.token c.now) q.db c.supply with
    | (.ok (some claimed), e) => (q.claims jobId claimed e, none)
    | (_, e) => ({ q with db := e }, none)

/-- A claim enters with a token that was never drawn before. -/
inductive Begins (q : Queue) : Queue → ClaimCall → Prop
  | claim (c : Claiming) : c.token ∉ q.drawn → Begins q { q with drawn := c.token :: q.drawn } (.recover c)

/-- Any other request on the queue, or a change elsewhere in the store. -/
inductive Moves (env : Env) (q : Queue) : Queue → Prop
  | request (op : QueueOp) (supply : Supply) : Moves env q (q.after (op.after env q.db supply))
  | elsewhere (e : Db) : e.workflowJobs = q.db.workflowJobs → Moves env q { q with db := e }

/-- Any number of workers that claim jobs while other requests come in. -/
def calls (env : Env) : Calls Queue ClaimCall := ⟨Begins, statement, Moves env⟩

def initial (d : Db) : Queue := ⟨d, [], [], []⟩

/-- Attempts are counted by claims one by one, and a job's lease is that of a claim and was not taken back. -/
structure Inv (q : Queue) : Prop where
  distinct : (q.claimed.map QueueClaim.token).Nodup
  drawn : ∀ claim ∈ q.claimed, claim.token ∈ q.drawn
  known : ∀ claim ∈ q.claimed, (q.db.workflowJobs.find claim.jobId).isSome
  counted : ∀ job ∈ q.db.workflowJobs.rows,
    (q.claimsOf job.id).map QueueClaim.attempt = List.range' 1 job.attempt
  leased : ∀ job ∈ q.db.workflowJobs.rows, ∀ token, job.leaseToken = some token →
    (∃ claim ∈ q.claimed, claim.jobId = job.id ∧ claim.token = token) ∧ (job.id, token) ∉ q.ended
  ended : ∀ entry ∈ q.ended, ∃ claim ∈ q.claimed, claim.jobId = entry.1 ∧ claim.token = entry.2

/-- What a claim under way may rely on: its token is new. -/
def Own (q : Queue) (call : ClaimCall) : Prop :=
  call.token ∈ q.drawn ∧ call.token ∉ q.claimed.map QueueClaim.token

def Apart (c d : ClaimCall) : Prop := c.token ≠ d.token

variable {env : Env} {q : Queue} {d e : Db} {op : QueueOp}

theorem mem_leasesEnded {entry : String × String} (member : entry ∈ leasesEnded d e) :
    ∃ job ∈ d.workflowJobs.rows, job.leaseToken = some entry.2 ∧ entry.1 = job.id ∧
      (e.workflowJobs.find job.id).bind WorkflowJob.leaseToken = none := by
  obtain ⟨job, inTable, ended⟩ := List.mem_filterMap.mp member
  obtain ⟨token, held, taken⟩ := Option.bind_eq_some_iff.mp ended
  split at taken
  · rename_i gone
    cases Option.some.inj taken
    exact ⟨job, inTable, held, rfl, gone⟩
  · cases taken

theorem Inv.after (inv : Inv q) (moved : QueueMoved op q.db e) : Inv (q.after e) where
  distinct := inv.distinct
  drawn := inv.drawn
  known claim member := moved.stay _ (inv.known claim member)
  counted := by
    intro job member
    rcases moved.origin job member with submitted | ⟨old, found, move⟩
    · have unclaimed : q.claimsOf job.id = [] := by
        refine List.filter_eq_nil_iff.mpr fun claim inLog same => ?_
        have held := inv.known claim inLog
        rw [eq_of_beq same, submitted.fresh] at held
        cases held
      have zero : job.attempt = 0 := by
        obtain ⟨config, now, -, made⟩ := submitted.made
        rw [made]
        rfl
      have same : (q.after e).claimsOf job.id = q.claimsOf job.id := rfl
      rw [same, unclaimed, zero]
      rfl
    · have same : (q.after e).claimsOf job.id = q.claimsOf job.id := rfl
      have key : old.id = job.id := find_key found
      rw [same, move.keeps.2.2.1, ← key]
      exact inv.counted old (find_mem found)
  leased := by
    intro job member token held
    rcases moved.origin job member with submitted | ⟨old, found, move⟩
    · obtain ⟨config, now, -, made⟩ := submitted.made
      rw [made] at held
      cases held
    · have key : old.id = job.id := find_key found
      have heldBefore : old.leaseToken = some token := by
        rcases move.keeps.2.2.2.2 with cleared | same
        · rw [cleared] at held
          cases held
        · rw [← same, held]
      obtain ⟨issued, live⟩ := inv.leased old (find_mem found) token heldBefore
      rw [key] at issued live
      refine ⟨issued, fun inLog => ?_⟩
      rcases List.mem_append.mp inLog with before | now
      · exact live before
      · obtain ⟨other, -, -, sameJob, gone⟩ := mem_leasesEnded now
        have sameJob : job.id = other.id := sameJob
        have here : e.workflowJobs.find job.id = some job := find_of_mem member
        rw [← sameJob, here] at gone
        exact Option.some_ne_none token (held.symm.trans gone)
  ended := by
    intro entry member
    rcases List.mem_append.mp member with before | now
    · exact inv.ended entry before
    · obtain ⟨job, inTable, held, same, -⟩ := mem_leasesEnded now
      rw [same]
      exact (inv.leased job inTable entry.2 held).1

theorem Inv.claims {jobId token : String} {job : WorkflowJob} {now seconds : Nat} (inv : Inv q)
    (found : q.db.workflowJobs.find jobId = some job) (mine : token ∈ q.drawn ∧ token ∉ q.claimed.map QueueClaim.token)
    (jobs : e.workflowJobs = q.db.workflowJobs.update jobId (WorkflowJob.take token now seconds)) :
    Inv (q.claims jobId (job.take token now seconds, token) e) := by
  have key : job.id = jobId := find_key found
  have row_cases : ∀ row ∈ e.workflowJobs.rows,
      (row ∈ q.db.workflowJobs.rows ∧ row.id ≠ jobId) ∨ row = job.take token now seconds := by
    intro row member
    have atRow : e.workflowJobs.find row.id = some row := find_of_mem member
    rw [jobs, find_update] at atRow
    split at atRow
    · rename_i here
      rw [here, found] at atRow
      have changed : rewriteRow (WorkflowJob.take token now seconds) job = row := Option.some.inj atRow
      rw [rewriteRow_of_keeps rfl] at changed
      exact .inr changed.symm
    · rename_i other
      exact .inl ⟨find_mem atRow, other⟩
  constructor
  · simp only [Queue.claims, List.map_append, List.map_cons, List.map_nil]
    refine List.nodup_append.mpr ⟨inv.distinct, by simp, fun a inOld b isNew => ?_⟩
    rw [List.mem_singleton.mp isNew]
    exact fun same => mine.2 (same ▸ inOld)
  · intro claim member
    rcases List.mem_append.mp member with old | newest
    · exact inv.drawn claim old
    · cases List.mem_singleton.mp newest
      exact mine.1
  · intro claim member
    change (e.workflowJobs.find claim.jobId).isSome
    rw [jobs, find_update_isSome]
    rcases List.mem_append.mp member with old | newest
    · exact inv.known claim old
    · cases List.mem_singleton.mp newest
      rw [found]
      rfl
  · intro row member
    rcases row_cases row member with ⟨old, other⟩ | rfl
    · have same : (q.claims jobId (job.take token now seconds, token) e).claimsOf row.id = q.claimsOf row.id := by
        have foreign : (jobId == row.id) = false := by simpa using other.symm
        simp [claimsOf, Queue.claims, List.filter_append, foreign]
      rw [same]
      exact inv.counted row old
    · have more : (q.claims jobId (job.take token now seconds, token) e).claimsOf jobId =
          q.claimsOf jobId ++ [⟨jobId, job.attempt + 1, token⟩] := by
        simp [claimsOf, Queue.claims, List.filter_append, WorkflowJob.take]
      have before := inv.counted job (find_mem found)
      have taken : (job.take token now seconds).id = jobId := key
      rw [key] at before
      rw [taken, more, List.map_append, before]
      change List.range' 1 job.attempt ++ [job.attempt + 1] = List.range' 1 (job.attempt + 1)
      rw [List.range'_concat]
      simp [Nat.add_comm]
  · intro row member other held
    rcases row_cases row member with ⟨old, different⟩ | rfl
    · obtain ⟨⟨claim, inLog, about⟩, live⟩ := inv.leased row old other held
      exact ⟨⟨claim, List.mem_append_left _ inLog, about⟩, live⟩
    · cases held
      refine ⟨⟨⟨jobId, job.attempt + 1, token⟩, List.mem_append_right _ (List.mem_singleton_self _), key.symm, rfl⟩,
        fun inLog => ?_⟩
      obtain ⟨claim, member, -, same⟩ := inv.ended _ inLog
      exact mine.2 (List.mem_map.mpr ⟨claim, member, same⟩)
  · intro entry member
    obtain ⟨claim, inLog, about⟩ := inv.ended entry member
    exact ⟨claim, List.mem_append_left _ inLog, about⟩

theorem Own.claims {call : ClaimCall} {jobId token : String} {claimed : WorkflowJob} (own : Own q call)
    (other : call.token ≠ token) : Own (q.claims jobId (claimed, token) e) call := by
  refine ⟨own.1, fun member => ?_⟩
  simp only [Queue.claims, List.map_append, List.mem_append, List.map_cons, List.map_nil, List.mem_singleton] at member
  rcases member with old | newest
  · exact own.2 old
  · exact other newest

theorem Inv.same_jobs (inv : Inv q) (same : e.workflowJobs = q.db.workflowJobs) : Inv { q with db := e } where
  distinct := inv.distinct
  drawn := inv.drawn
  known claim member := same ▸ inv.known claim member
  counted job member := inv.counted job (same ▸ member)
  leased job member := inv.leased job (same ▸ member)
  ended := inv.ended

theorem undisturbed (env : Env) : Undisturbed (calls env) Inv Own Apart where
  symm apart := Ne.symm apart
  begins := by
    rintro q t call inv ⟨c, new⟩
    have unused : c.token ∉ q.claimed.map QueueClaim.token := by
      intro member
      obtain ⟨claim, inLog, same⟩ := List.mem_map.mp member
      exact new (same ▸ inv.drawn claim inLog)
    refine ⟨⟨inv.distinct, fun claim member => List.mem_cons_of_mem _ (inv.drawn claim member), inv.known,
      inv.counted, inv.leased, inv.ended⟩, ⟨List.mem_cons_self, unused⟩, fun other own => ?_⟩
    refine ⟨⟨List.mem_cons_of_mem _ own.1, own.2⟩, fun same => new ?_⟩
    have drawn : other.token = c.token := same
    exact drawn ▸ own.1
  statement := by
    intro q call inv own
    cases call with
    | recover c =>
      refine ⟨inv.after (recover_moves _ _ c.now), fun rest same => ?_, fun other others _ => others⟩
      cases same
      exact ⟨own, fun other apart => apart⟩
    | read c =>
      cases found : candidate q.db c.now with
      | none =>
        simp only [calls, statement, found]
        exact ⟨inv, fun rest same => (by cases same), fun other others _ => others⟩
      | some job =>
        simp only [calls, statement, found]
        refine ⟨inv, fun rest same => ?_, fun other others _ => others⟩
        cases same
        exact ⟨own, fun other apart => apart⟩
    | update c jobId =>
      by_cases missed : ∀ job, q.db.workflowJobs.find jobId = some job → job.state ≠ .queued
      · have ran : request (claimUpdate c.config jobId c.token c.now) q.db c.supply = (.ok none, q.db) := by
          unfold request
          rw [claimUpdate_missed missed]
          rfl
        simp only [calls, statement, ran]
        exact ⟨inv, fun rest same => (by cases same), fun other others _ => others⟩
      · push Not at missed
        obtain ⟨job, found, waiting⟩ := missed
        obtain ⟨e, logged, returns⟩ := claimUpdate_run c.config c.token c.now found waiting
        have ran : request (claimUpdate c.config jobId c.token c.now) q.db c.supply =
            (.ok (some (job.take c.token c.now c.config.leaseSeconds, c.token)), e) := by
          unfold request
          rw [returns]
          rfl
        simp only [calls, statement, ran]
        exact ⟨inv.claims found own logged.workflowJobs, fun rest same => (by cases same),
          fun other others apart => others.claims (Ne.symm apart)⟩
  around := by
    rintro q t inv (⟨op, supply⟩ | ⟨e, same⟩)
    · exact ⟨inv.after (op.moves env q.db supply), fun other own => own⟩
    · exact ⟨inv.same_jobs same, fun other own => own⟩

theorem initial_inv (noJobs : d.workflowJobs.rows = []) : Inv (initial d) where
  distinct := List.nodup_nil
  drawn _ member := absurd member List.not_mem_nil
  known _ member := absurd member List.not_mem_nil
  counted job member := by
    have inTable : job ∈ d.workflowJobs.rows := member
    rw [noJobs] at inTable
    cases inTable
  leased job member := by
    have inTable : job ∈ d.workflowJobs.rows := member
    rw [noJobs] at inTable
    cases inTable
  ended _ member := absurd member List.not_mem_nil

end Queue

namespace Queue
variable {env : Env} {first q : Queue}

end Queue

/-- A token is accepted for a job when some renewal, completion or failure
with it is not answered by a lost lease. -/
def TokenAccepted (env : Env) (d : Db) (jobId token : String) : Prop :=
  ∃ supply, (∃ config, (request (renew config jobId token) d supply).1 ≠ .error leaseLost) ∨
    (request (complete jobId token) d supply).1 ≠ .error leaseLost ∨
    ∃ error, (request (fail env jobId token error) d supply).1 ≠ .error leaseLost

theorem TokenAccepted.owned {env : Env} {d : Db} {jobId token : String} (accepted : TokenAccepted env d jobId token) :
    ∃ job, d.workflowJobs.find jobId = some job ∧ job.OwnedWith token := by
  by_contra lost
  push Not at lost
  obtain ⟨supply, ⟨config, renews⟩ | completes | ⟨error, fails⟩⟩ := accepted
  · have unmatched : (d.workflowJobs.find jobId).any (WorkflowJob.renewable token (supply.clock 0)) = false := by
      cases found : d.workflowJobs.find jobId with
      | none => rfl
      | some job => simp [WorkflowJob.renewable, lost job found]
    rw [renew_lost unmatched] at renews
    exact renews rfl
  · rw [complete_lost lost] at completes
    exact completes rfl
  · rw [fail_lost lost] at fails
    exact fails rfl

open Queue

namespace QueueSample
open Sample

def config : QueueConfig := ⟨1, 2⟩

def submitted : Queue :=
  (initial (store .implementing .pending)).after
    ((QueueOp.submit config "r").after env (store .implementing .pending) (supplyOf "job-"))

end QueueSample

end SacmRuntime
