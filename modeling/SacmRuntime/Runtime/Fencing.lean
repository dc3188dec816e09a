import SacmRuntime.Runtime.Operations

namespace SacmRuntime
open Session ExecutionPlaneService Table Tx

inductive LeaseEntry where
  | issued (jobId token : String)
  | released (jobId : String)
  deriving DecidableEq

def LeaseEntry.jobId : LeaseEntry → String
  | issued jobId _ => jobId
  | released jobId => jobId

def latest (log : List LeaseEntry) (jobId : String) : Option LeaseEntry :=
  (log.filter fun entry => entry.jobId == jobId).getLast?

def ExecutionJob.LeaseTaken (job : ExecutionJob) : Bool :=
  job.state = .queued ∨ job.state = .deadLetter ∨ job.state = .cancelled

/-- The leases that were held in one store and are taken back in a later one. -/
def releasedBetween (d e : Db) : List LeaseEntry :=
  (d.jobs.rows.filter fun job => job.active && (e.jobs.find job.id).any ExecutionJob.LeaseTaken).map fun job =>
    .released job.id

def Operation.issuedBy (env : Env) (d : Db) (supply : Supply) : Operation → List LeaseEntry
  | acquireLease executorId seconds =>
    match (request (ExecutionPlaneService.acquireLease env executorId seconds) d supply).1 with
    | .ok (some leased) => [.issued leased.job.id leased.leaseToken]
    | _ => []
  | _ => []

/-- Requests one after another, in any order, with the log an observer keeps. -/
inductive Leasing (env : Env) (first : Db) : Db → List LeaseEntry → Prop
  | start : Leasing env first first []
  | next {d : Db} {log : List LeaseEntry} (before : Leasing env first d log) (op : Operation) (supply : Supply) :
      Leasing env first (op.after env d supply)
        (log ++ releasedBetween d (op.after env d supply) ++ op.issuedBy env d supply)

/-- What every stored job keeps: its token is the one last issued for it. -/
structure JobFenced (env : Env) (log : List LeaseEntry) (job : ExecutionJob) : Prop where
  held : job.Held
  recorded : job.Recorded env
  token : ∀ hash, job.leaseTokenHash = some hash →
    ∃ token, latest log job.id = some (.issued job.id token) ∧ hash = tokenHash env "lease" token

section
variable {env : Env} {p : Permit} {s t : Session Db} {d e : Db}

/-- How the jobs of a store come from those of an earlier one. -/
structure JobFrom (env : Env) (p : Permit) (d : Db) (job : ExecutionJob) : Prop where
  held : job.Held
  recorded : job.Recorded env
  token : ∀ hash, job.leaseTokenHash = some hash →
    (∃ old, d.jobs.find job.id = some old ∧ old.leaseTokenHash = some hash) ∨ p.issue job.id hash

variable {executor : ExecutorRegistration} {executorId jobId token : String} {job : ExecutionJob} {leased : LeasedJob}
  {log : List LeaseEntry} {next : Db} {op : Operation} {supply : Supply}

theorem Write.keeps_jobs (write : Write env p s next) (kept : ∀ job ∈ s.working.jobs.rows, JobFrom env p d job) :
    ∀ job ∈ next.jobs.rows, JobFrom env p d job := by
  cases write with
  | other _ _ _ _ jobs => exact jobs ▸ kept
  | insertRun | run | insertStep | step | event | snapshot => exact kept
  | @insertJob job jobs state attempt token allowed inserted =>
    intro row member
    rcases (mem_insert? inserted).mp member with old | rfl
    · exact kept row old
    · refine ⟨fun stored => absurd token stored, fun done => ?_, fun hash stored => ?_⟩
      · rcases done with done | done <;> simp [state] at done
      · simp [token] at stored
  | job id f move =>
    intro row member
    rcases mem_update member with old | ⟨old, found, rfl⟩
    · exact kept row old
    · have moved := move old found
      obtain ⟨held, recorded, tokens⟩ := kept old (find_mem found)
      rw [rewriteRow_of_keeps moved.id]
      refine ⟨moved.held held, moved.recorded recorded, fun hash stored => ?_⟩
      rw [moved.id]
      rcases moved.token with cleared | same | ⟨other, issued, granted⟩
      · simp [cleared] at stored
      · exact tokens hash (same ▸ stored)
      · cases Option.some.inj (issued.symm.trans stored)
        exact .inr granted

theorem claimFirst_stored {now seconds : Nat} {candidates : List ExecutionJob}
    (live : ∀ job ∈ candidates, s.working.jobs.find job.id = some job ∧ ¬job.Finished)
    (claimed : (claimFirst env executor now seconds candidates s).1 = .ok (some leased)) :
    (claimFirst env executor now seconds candidates s).2.committed.jobs.find leased.job.id = some leased.job ∧
      leased.job.leaseTokenHash = some (tokenHash env "lease" leased.leaseToken) := by
  induction candidates generalizing s with
  | nil => cases claimed
  | cons candidate rest ih =>
    have others : ∀ job ∈ rest, s.working.jobs.find job.id = some job ∧ ¬job.Finished :=
      fun job member => live job (by simp [member])
    rcases claimFirst_round env executor now seconds candidate rest s with skip | skip | claims
    · rw [skip] at claimed ⊢
      exact ih others claimed
    · rw [skip] at claimed ⊢
      exact ih (s := { s with tokens := fun n => s.tokens (n + 1) }) others claimed
    · rw [claims] at claimed ⊢
      obtain ⟨t, run, stored⟩ := claim_run env executor now seconds (s.tokens 0)
        (s := { s with tokens := fun n => s.tokens (n + 1) })
        (live candidate (by simp)).1
      rw [run] at claimed ⊢
      cases claimed
      exact ⟨stored, rfl⟩

theorem acquireLease_stored {seconds : Option Nat}
    (claimed : (request (acquireLease env executorId seconds) d supply).1 = .ok (some leased)) :
    (Operation.after env (.acquireLease executorId seconds) d supply).jobs.find leased.job.id = some leased.job ∧
      leased.job.leaseTokenHash = some (tokenHash env "lease" leased.leaseToken) := by
  have state : Operation.after env (.acquireLease executorId seconds) d supply =
      (acquireLease env executorId seconds (start d supply)).2.committed :=
    congrArg Session.committed (bind_pure_state _ _ _)
  rw [state]
  revert claimed
  refine acquireLease_outcome (P := fun outcome => outcome.1 = .ok (some leased) →
    outcome.2.committed.jobs.find leased.job.id = some leased.job ∧ _) rfl (fun _ _ _ impossible => ?_) ?_
  · cases impossible
  · intro executor now candidates t _ live claimed
    exact claimFirst_stored live claimed

theorem Operation.jobs_from (supply : Supply) (op : Operation)
    (sound : ∀ job ∈ d.jobs.rows, job.Held ∧ job.Recorded env) :
    ∀ job ∈ (op.after env d supply).jobs.rows, JobFrom env (op.permit env d supply) d job := by
  refine request_keeps (P := fun e => ∀ job ∈ e.jobs.rows, JobFrom env (op.permit env d supply) d job)
    (op.writes env d supply) (fun s e write => write.keeps_jobs) ?_
  intro job member
  exact ⟨(sound job member).1, (sound job member).2, fun hash stored => .inl ⟨job, find_of_mem member, stored⟩⟩

theorem Operation.issues_logged {hash : String} (issued : op.issues env d supply jobId hash) :
    ∃ token, op.issuedBy env d supply = [.issued jobId token] ∧ hash = tokenHash env "lease" token := by
  cases op with
  | acquireLease executorId seconds =>
    obtain ⟨leased, claimed, rfl, rfl⟩ := issued
    exact ⟨leased.leaseToken, by rw [issuedBy, claimed], rfl⟩
  | _ => exact issued.elim

theorem Operation.issuedBy_cases (env : Env) (d : Db) (supply : Supply) (op : Operation) :
    op.issuedBy env d supply = [] ∨ ∃ jobId token job, op.issuedBy env d supply = [.issued jobId token] ∧
      (op.after env d supply).jobs.find jobId = some job ∧
      job.leaseTokenHash = some (tokenHash env "lease" token) := by
  cases op with
  | acquireLease executorId seconds =>
    rw [issuedBy]
    cases claimed : (request (ExecutionPlaneService.acquireLease env executorId seconds) d supply).1 with
    | error e => exact .inl rfl
    | ok outcome =>
      cases outcome with
      | none => exact .inl rfl
      | some leased => exact .inr ⟨_, _, leased.job, rfl, acquireLease_stored claimed⟩
  | _ => exact .inl rfl

theorem latest_append_other {more : List LeaseEntry} (elsewhere : ∀ entry ∈ more, entry.jobId ≠ jobId) :
    latest (log ++ more) jobId = latest log jobId := by
  unfold latest
  have none_here : (more.filter fun entry => entry.jobId == jobId) = [] :=
    List.filter_eq_nil_iff.mpr fun entry member => by simpa using elsewhere entry member
  rw [List.filter_append, none_here, List.append_nil]

theorem latest_append_self {entry : LeaseEntry} :
    latest (log ++ [entry]) entry.jobId = some entry := by
  simp [latest]

theorem not_released (found : e.jobs.find job.id = some job) (held : job.Held) (stored : job.leaseTokenHash ≠ none) :
    ∀ entry ∈ releasedBetween d e, entry.jobId ≠ job.id := by
  intro entry member same
  obtain ⟨old, selected, rfl⟩ := List.mem_map.mp member
  change old.id = job.id at same
  have taken := (List.mem_filter.mp selected).2
  rw [same, found] at taken
  rcases held stored with state | state | state | state <;> simp [ExecutionJob.LeaseTaken, state] at taken

theorem Operation.keeps_fenced (fenced : ∀ job ∈ d.jobs.rows, JobFenced env log job) :
    ∀ job ∈ (op.after env d supply).jobs.rows, JobFenced env
      (log ++ releasedBetween d (op.after env d supply) ++ op.issuedBy env d supply) job := by
  intro job member
  have origin := Operation.jobs_from supply op
    (fun job member => ⟨(fenced job member).held, (fenced job member).recorded⟩) job member
  have found := find_of_mem member
  refine ⟨origin.held, origin.recorded, fun hash stored => ?_⟩
  have apart := not_released (d := d) found origin.held (by simp [stored])
  -- Either the job's token is the one just issued, or the log gained nothing about the job.
  rcases Operation.issuedBy_cases env d supply op with quiet | ⟨jobId, token, row, issued, atRow, tokenAt⟩
  · rcases origin.token hash stored with ⟨old, atOld, sameToken⟩ | granted
    · have key : old.id = job.id := find_key atOld
      rw [quiet, List.append_nil, latest_append_other apart, ← key]
      exact (fenced old (find_mem atOld)).token hash sameToken
    · obtain ⟨token, logged, _⟩ := Operation.issues_logged granted
      simp [quiet] at logged
  · rw [issued]
    by_cases here : jobId = job.id
    · subst here
      cases Option.some.inj (atRow.symm.trans found)
      exact ⟨token, latest_append_self, Option.some.inj (stored.symm.trans tokenAt)⟩
    · rcases origin.token hash stored with ⟨old, atOld, sameToken⟩ | granted
      · have key : old.id = job.id := find_key atOld
        rw [latest_append_other (by simpa [LeaseEntry.jobId] using here), latest_append_other apart, ← key]
        exact (fenced old (find_mem atOld)).token hash sameToken
      · obtain ⟨other, logged, _⟩ := Operation.issues_logged granted
        simp [issued, here] at logged

theorem Leasing.fenced {first : Db} (path : Leasing env first d log) (noJobs : first.jobs.rows = []) :
    ∀ job ∈ d.jobs.rows, JobFenced env log job := by
  induction path with
  | start => simp [noJobs]
  | next before op supply ih => exact Operation.keeps_fenced ih

/-- A token is accepted when the request made with it returns. -/
def Accepts (env : Env) (d : Db) (supply : Supply) (jobId token : String) : Prop :=
  ∃ executorId job, (request (startJob env executorId jobId token) d supply).1 = .ok job ∨
    (∃ seconds, (request (heartbeatJob env executorId jobId token seconds) d supply).1 = .ok job) ∨
    ∃ submission, submission.leaseToken = token ∧
      ((request (completeJob env executorId jobId submission) d supply).1 = .ok job ∨
        (request (failJob env executorId jobId submission) d supply).1 = .ok job)

theorem existingExecutor_ok (found : existingExecutor executorId s = (.ok executor, t)) :
    s.working.executors.find executorId = some executor ∧ t = s := by
  unfold existingExecutor at found
  rw [bind_view] at found
  exact expect_ok found

theorem leased_owned {α : Type} {a : α} {f : ExecutorRegistration → ExecutionJob → Service α}
    (returned : ((existingExecutor executorId >>= fun executor => leasedJob env executor jobId token >>= f executor)
      s).1 = .ok a) :
    ∃ executor job, Owned env s.working executor jobId token job := by
  obtain ⟨executor, mid, found, rest⟩ := bind_ok (Prod.ext returned rfl)
  obtain ⟨_, rfl⟩ := existingExecutor_ok found
  obtain ⟨job, later, leased, _⟩ := bind_ok rest
  rcases leasedJob_run env executor jobId token mid with
    ⟨e, t, run, _⟩ | ⟨job, clock, owned, _⟩
  · rw [run] at leased
    cases leased
  · exact ⟨executor, job, owned⟩

theorem finished_owned {submission : SignedJobResult} {failed : Bool}
    (returned : (finishJob env executorId jobId submission failed s).1 = .ok job) :
    ∃ executor job, Owned env s.working executor jobId submission.leaseToken job := by
  unfold finishJob at returned
  obtain ⟨executor, mid, found, rest⟩ := bind_ok (Prod.ext returned rfl)
  obtain ⟨_, rfl⟩ := existingExecutor_ok found
  obtain ⟨job, later, run, _⟩ := bind_ok rest
  rcases ownedJob_run env executor jobId submission.leaseToken mid
    with ⟨e, raised⟩ | ⟨job, owned, _⟩
  · rw [raised] at run
    cases run
  · exact ⟨executor, job, owned⟩

theorem Accepts.owned (accepts : Accepts env d supply jobId token) :
    ∃ executor job, Owned env d executor jobId token job := by
  obtain ⟨executorId, job, started | ⟨seconds, extended⟩ | ⟨submission, rfl, completed | failed⟩⟩ := accepts
  · exact leased_owned (s := start d supply) started
  · exact leased_owned (s := start d supply) extended
  · exact finished_owned (s := start d supply) completed
  · exact finished_owned (s := start d supply) failed

/-- The result of a finished job, as later stores have it. -/
def ResultKept (job : ExecutionJob) (d : Db) : Prop :=
  ∃ later, d.jobs.find job.id = some later ∧ later.state = job.state ∧
    later.resultContract = job.resultContract ∧ later.resultHash = job.resultHash ∧
    later.resultSignature = job.resultSignature

theorem Write.keeps_result (write : Write env p s next) (done : job.Finished) (kept : ResultKept job s.working) :
    ResultKept job next := by
  obtain ⟨later, found, same⟩ := kept
  unfold ResultKept
  cases write with
  | other _ _ _ _ jobs => exact ⟨later, jobs ▸ found, same⟩
  | insertRun | run | insertStep | step | event | snapshot => exact ⟨later, found, same⟩
  | insertJob _ _ _ _ inserted => exact ⟨later, find_insert?_of_some inserted found, same⟩
  | job id f move =>
    rw [find_update]
    split
    · rename_i here
      have moved := move later (here ▸ found)
      have finished : later.Finished := by
        unfold ExecutionJob.Finished at done ⊢
        rwa [same.1]
      obtain ⟨state, contract, hash, signature⟩ := moved.final finished
      refine ⟨f later, ?_, state.trans same.1, contract.trans same.2.1, hash.trans same.2.2.1,
        signature.trans same.2.2.2⟩
      rw [found]
      exact congrArg some (rewriteRow_of_keeps moved.id)
    · exact ⟨later, found, same⟩

theorem Execution.keeps_result {meets : Db → Supply → Operation → Prop} (path : Execution env meets d e)
    (done : job.Finished) (member : job ∈ d.jobs.rows) : ResultKept job e := by
  refine path.keeps (P := ResultKept job) (fun d supply op _ kept => ?_)
    ⟨job, find_of_mem member, rfl, rfl, rfl, rfl⟩
  exact request_keeps (op.writes env d supply) (fun _ _ write => write.keeps_result done) kept

/-- The submission repeats the recorded result at the same endpoint. -/
def Repeats (env : Env) (job : ExecutionJob) (submission : SignedJobResult) (failed : Bool) : Prop :=
  job.state = (if failed then .failed else .completed) ∧
    submission.resultHash = canonicalHash env submission.result.modelDump ∧
    ∃ contract, job.resultContract = some contract ∧
      canonicalHash env submission.result.modelDump = canonicalHash env contract

/-- Unchanged up to the analytics entries of the signature metadata, and
wholly unchanged unless a failed analytics refresh was pending. -/
structure SameButAnalytics (job later : ExecutionJob) : Prop where
  columns : later = { job with resultSignatureMetadata := later.resultSignatureMetadata }
  metadata : ∀ key, key ≠ "analytics_status" → key ≠ "analytics_error" →
    (later.resultSignatureMetadata.getD (.obj [])).get key = (job.resultSignatureMetadata.getD (.obj [])).get key
  settled : (job.resultSignatureMetadata.getD (.obj [])).get "analytics_status" ≠ .str "FAILED" → later = job

theorem ownedJob_ok (owned : Owned env s.working executor jobId token job) :
    ownedJob env executor jobId token s = (.ok job, s) := by
  rcases ownedJob_run env executor jobId token s with
    ⟨e, raised⟩ | ⟨other, otherOwned, run⟩
  · unfold ownedJob requireActive at raised
    simp [owned.active, existingJob, owned.found, owned.owner, owned.token, bind_run, expect, view] at raised
  · cases Option.some.inj (otherOwned.found.symm.trans owned.found)
    exact run

section Resubmission
variable {executor : ExecutorRegistration} {job : ExecutionJob} {submission : SignedJobResult} {failed : Bool}

theorem repeats_iff (recorded : job.Recorded env) (done : job.Finished) :
    Repeats env job submission failed ↔
      canonicalHash env submission.result.modelDump = submission.resultHash ∧
        job.state = (if failed then .failed else .completed) ∧
        job.resultHash.getD "" = canonicalHash env submission.result.modelDump := by
  obtain ⟨contract, contractAt, hashAt⟩ := recorded done
  unfold Repeats
  simp only [contractAt, hashAt, Option.some.injEq, Option.getD_some]
  constructor
  · rintro ⟨endpoint, hash, other, rfl, same⟩
    exact ⟨hash.symm, endpoint, same.symm⟩
  · rintro ⟨hash, endpoint, same⟩
    exact ⟨endpoint, hash.symm, contract, rfl, same.symm⟩

theorem finishJob_conflict (atExecutor : s.working.executors.find executor.id = some executor)
    (owned : Owned env s.working executor job.id submission.leaseToken job) (recorded : job.Recorded env)
    (done : job.Finished) (other : ¬Repeats env job submission failed) :
    ∃ message, finishJob env executor.id job.id submission failed s = (.error (.executionConflict message), s) := by
  rw [repeats_iff recorded done] at other
  let P (outcome : Except Error ExecutionJob × Session Db) : Prop :=
    ∃ message, outcome = (.error (.executionConflict message), s)
  unfold finishJob
  rw [bind_run_ok _ (existingExecutor_run atExecutor), bind_run_ok _ (ownedJob_ok owned)]
  refine outcome_ite (P := P) (fun _ => ⟨_, rfl⟩) fun hash => ?_
  refine outcome_ite (P := P) (fun _ => ?_) fun unfinished => absurd done unfinished
  refine outcome_ite (P := P) (fun same => ?_) fun _ => ⟨_, rfl⟩
  exact absurd ⟨not_not.mp hash, same⟩ other

theorem refreshAnalytics_run (env : Env) (d : Db) (runId : String) (supply : Supply) :
    ∃ failure t, ExternalAgentService.refreshAnalytics env runId (start d supply) = (.ok failure, t) ∧
      t.working = d := by
  unfold ExternalAgentService.refreshAnalytics
  rw [bind_view]
  split
  · exact ⟨_, _, rfl, rfl⟩
  · exact ⟨_, _, rfl, rfl⟩

theorem refreshed_metadata {metadata : Option Json} {failure : Option String} {key : String}
    (status : key ≠ "analytics_status") (message : key ≠ "analytics_error") :
    (refreshedMetadata metadata failure).get key = (metadata.getD (.obj [])).get key := by
  cases failure with
  | none => rw [refreshedMetadata, Json.get_erase_ne message, Json.get_set_ne status]
  | some text => rw [refreshedMetadata, analyticsFailed, Json.get_set_ne message, Json.get_set_ne status]

/-- `_refresh_job_analytics` stores the job with its analytics entries renewed. -/
theorem refreshJobAnalytics_run (supply : Supply) (found : d.jobs.find job.id = some job) :
    ∃ later t, refreshJobAnalytics env job.id job.runId (start d supply) = (.ok (), t) ∧
      t.working.jobs.find job.id = some later ∧
      later = { job with resultSignatureMetadata := later.resultSignatureMetadata } ∧
      ∀ key, key ≠ "analytics_status" → key ≠ "analytics_error" →
        (later.resultSignatureMetadata.getD (.obj [])).get key = (job.resultSignatureMetadata.getD (.obj [])).get
          key := by
  obtain ⟨failure, t, refreshed, unchanged⟩ := refreshAnalytics_run env d job.runId supply
  unfold refreshJobAnalytics updateJob
  rw [bind_run_ok _ refreshed, bind_modify]
  have stored : (t.working.jobs.update job.id fun job => { job with
      resultSignatureMetadata := some (refreshedMetadata job.resultSignatureMetadata failure) }).find job.id = _ :=
    find_update_self fun _ => rfl
  rw [unchanged, found, ← unchanged] at stored
  exact ⟨_, _, rfl, stored, rfl, fun key status message => refreshed_metadata status message⟩

/-- The recorded result, submitted again, returns the job as it is but for a
pending analytics refresh. -/
theorem finishJob_repeat {supply : Supply} (atExecutor : d.executors.find executor.id = some executor)
    (owned : Owned env d executor job.id submission.leaseToken job) (recorded : job.Recorded env)
    (done : job.Finished) (same : Repeats env job submission failed) :
    ∃ later, (finishJob env executor.id job.id submission failed (start d supply)).1 = .ok later ∧
      SameButAnalytics job later := by
  rw [repeats_iff recorded done] at same
  unfold finishJob
  rw [bind_run_ok _ (existingExecutor_run (s := start d supply) atExecutor),
    bind_run_ok _ (ownedJob_ok (s := start d supply) owned)]
  dsimp only
  rw [if_neg (not_not.mpr same.1), if_pos (show job.state = .completed ∨ job.state = .failed from done),
    if_pos same.2]
  by_cases pending : (job.resultSignatureMetadata.getD (.obj [])).get "analytics_status" = .str "FAILED"
  · rw [if_pos pending]
    obtain ⟨later, t, run, stored, columns, entries⟩ := refreshJobAnalytics_run supply owned.found
    rw [bind_run_ok _ run, existingJob_run stored]
    exact ⟨later, rfl, columns, entries, fun settled => absurd pending settled⟩
  · rw [if_neg pending, existingJob_run (s := start d supply) owned.found]
    exact ⟨job, rfl, rfl, fun _ _ _ => rfl, fun _ => rfl⟩

end Resubmission

end

/-- Along every interleaving of requests that starts without jobs, a token is
accepted only while it is the last one issued for its job and not taken back;
the result of a finished job never changes; and the lease holder that submits
again gets the job back, refreshed in its analytics entries only, for the
recorded result and a conflict for any other. -/
theorem job_fencing {env : Env} {first d : Db} {log : List LeaseEntry}
    (injective : ∀ a b, tokenHash env "lease" a = tokenHash env "lease" b → a = b)
    (noJobs : first.jobs.rows = []) (path : Leasing env first d log) :
    (∀ supply jobId token, Accepts env d supply jobId token → latest log jobId = some (.issued jobId token)) ∧
      ∀ job ∈ d.jobs.rows, job.Finished →
        (∀ e, Execution env (fun _ _ _ => True) d e → ResultKept job e) ∧
        ∀ executor supply submission failed, d.executors.find executor.id = some executor →
          Owned env d executor job.id submission.leaseToken job →
          (Repeats env job submission failed → ∃ later,
            (request (finishJob env executor.id job.id submission failed) d supply).1 = .ok later ∧
              SameButAnalytics job later) ∧
          (¬Repeats env job submission failed → ∃ message,
            request (finishJob env executor.id job.id submission failed) d supply =
              (.error (.executionConflict message), d)) := by
  have fenced := path.fenced noJobs
  constructor
  · intro supply jobId token accepts
    obtain ⟨executor, job, owned⟩ := accepts.owned
    obtain ⟨other, logged, hash⟩ := (fenced job (Table.find_mem owned.found)).token _ owned.token
    have key : job.id = jobId := Table.find_key owned.found
    rw [key] at logged
    rw [logged, injective _ _ hash]
  · intro job member done
    refine ⟨fun e later => later.keeps_result done member, fun executor supply submission failed registered owned => ?_⟩
    have recorded := (fenced job member).recorded
    refine ⟨fun same => finishJob_repeat registered owned recorded done same, fun other => ?_⟩
    obtain ⟨message, refused⟩ := finishJob_conflict (s := start d supply) registered owned recorded done other
    exact ⟨message, by rw [request, refused]; rfl⟩

namespace Sample

/-- Analytics that fail until the run has an evidence pack. -/
def flaky : Env :=
  { env with recomputeRun := fun d _ => if d.packs.isEmpty then some "no evidence to analyse" else none }

def delivery : SignedJobResult where
  leaseToken := "token-0"
  result := succeeded
  resultHash := canonicalHash flaky succeeded.modelDump
  signature := "signature"
  signingKeyFingerprint := "fingerprint"

def leasing : List (Operation × Supply) :=
  [(queueJob 1, supplyOf ""), (.acquireLease "x" none, supplyOf "a"), (.startJob "x" "0" "token-0", supplyOf "b")]

def finishing : List (Operation × Supply) :=
  [(.completeJob "x" "0" delivery, supplyOf "c"), (.recordPack ⟨"p", "r", "manifest", 0⟩, supplyOf "d")]

end Sample

theorem Leasing.run (env : Env) (first : Db) (requests : List (Operation × Supply)) :
    ∃ log, Leasing env first (afterAll env first requests) log := by
  induction requests using List.reverseRecOn with
  | nil => exact ⟨[], .start⟩
  | append_singleton before request ih =>
    obtain ⟨log, path⟩ := ih
    rw [afterAll, Path.storeAfter_append]
    exact ⟨_, .next path request.1 request.2⟩

open Sample in
theorem job_fencing_sample :
    ∃ log, Leasing flaky plane (afterAll flaky plane leasing) log ∧
      Accepts flaky (afterAll flaky plane leasing) (supplyOf "h") "0" "token-0" ∧
      latest log "0" = some (.issued "0" "token-0") := by
  obtain ⟨log, path⟩ := Leasing.run flaky plane leasing
  have heartbeat : ∃ job, (request (heartbeatJob flaky "x" "0" "token-0" none) (afterAll flaky plane leasing)
      (supplyOf "h")).1 = .ok job := by
    have returns : (request (heartbeatJob flaky "x" "0" "token-0" none) (afterAll flaky plane leasing)
        (supplyOf "h")).1.toBool = true := by decide +kernel
    cases outcome :
        (request (heartbeatJob flaky "x" "0" "token-0" none) (afterAll flaky plane leasing) (supplyOf "h")).1 with
    | error e => simp [outcome, Except.toBool] at returns
    | ok job => exact ⟨job, rfl⟩
  obtain ⟨job, accepted⟩ := heartbeat
  have accepts : Accepts flaky (afterAll flaky plane leasing) (supplyOf "h") "0" "token-0" :=
    ⟨"x", job, .inr (.inl ⟨none, accepted⟩)⟩
  refine ⟨log, path, accepts, (job_fencing (fun a b same => ?_) rfl path).1 _ _ _ accepts⟩
  exact String.append_right_inj _ |>.mp same

namespace Sample

def finished : Db := afterAll flaky plane (leasing ++ finishing)

/-- What the lease holder gets for submitting its result once more. -/
def resubmitted : Except Error ExecutionJob := (request (completeJob flaky "x" "0" delivery) finished (supplyOf "e")).1

def analyticsStatus (job : ExecutionJob) : Json := (job.resultSignatureMetadata.getD (.obj [])).get "analytics_status"

end Sample

open Sample in
/-- The analytics of the finished run failed. The identical result, submitted
again, returns the job with other signature metadata than it had. -/
theorem resubmission_rewrites_metadata :
    plane.jobs.rows = [] ∧ (∃ log, Leasing flaky plane finished log) ∧
      ∃ job later, finished.jobs.find "0" = some job ∧ job.state = .completed ∧
        job.resultContract = some delivery.result.modelDump ∧ resubmitted = .ok later ∧ later ≠ job := by
  refine ⟨rfl, Leasing.run flaky plane (leasing ++ finishing), ?_⟩
  have runs : (finished.jobs.find "0").map (fun job => (job.state, job.resultContract, analyticsStatus job)) =
        some (.completed, some delivery.result.modelDump, .str "FAILED") ∧
      resubmitted.toOption.map analyticsStatus = some (.str "COMPLETED") := by decide +kernel
  obtain ⟨before, after⟩ := runs
  obtain ⟨job, found, facts⟩ := Option.map_eq_some_iff.mp before
  simp only [Prod.mk.injEq] at facts
  cases outcome : resubmitted with
  | error e => simp [outcome, Except.toOption] at after
  | ok later =>
    refine ⟨job, later, found, facts.1, facts.2.1, rfl, fun same => ?_⟩
    simp [outcome, Except.toOption, same, facts.2.2] at after

end SacmRuntime
