import SacmRuntime.Cognitive.StateService
import SacmRuntime.Runtime.LocalWorkflow

namespace SacmRuntime
namespace Cognitive
open Session

/-- The Git of the host: opening the repository at a path, and what a command
prints there, stripped; `none` if it fails. -/
structure Git where
  repository : String → Except String String
  run : String → List String → Option String

/-- `_git`. -/
def Git.output (git : Git) (repository : String) (arguments : List String) : Except Error String :=
  match git.run repository arguments with
  | some text => .ok text
  | none => .error (stateError "Unable to inspect the requested Git commit.")

/-- `_git_lines`. -/
def Git.lines (git : Git) (repository : String) (arguments : List String) : Except Error (List String) := do
  let text ← git.output repository arguments
  safePaths (((text.toList.splitOnP lineBreak).filter (· ≠ [])).map String.ofList)

structure GitCommitAnalyze where
  commitHash : String
  agentId : Option String
  traceId : Option String
  semanticSummary : Option String

/-- The limits of the fields of `GitCommitAnalyzeV1`. -/
def GitCommitAnalyze.valid (p : GitCommitAnalyze) : Bool :=
  7 ≤ p.commitHash.length && p.commitHash.length ≤ 128 &&
    p.commitHash.toList.all (fun c => c.isDigit || ('a' ≤ c && c ≤ 'f') || ('A' ≤ c && c ≤ 'F')) &&
    p.agentId.all (·.length ≤ 200) && p.traceId.all (·.length ≤ 200) && p.semanticSummary.all (·.length ≤ 50000)

/-- `text.split("\x00", 2)`: at most three parts. -/
def splitNul (text : List Char) : List (List Char) :=
  let first := text.takeWhile (·.toNat ≠ 0)
  match text.drop first.length with
  | [] => [first]
  | _ :: rest =>
    let second := rest.takeWhile (·.toNat ≠ 0)
    match rest.drop second.length with
    | [] => [first, second]
    | _ :: third => [first, second, third]

/-- `CommitIngestV1(...)`. -/
def checkIngest (payload : CommitIngest) : Except Error CommitIngest :=
  if payload.valid then .ok payload else .error (validationError "CommitIngestV1")

/-- The name `git rev-parse` is asked for. -/
def revision (commitHash : String) : List String := ["rev-parse", "--verify", commitHash ++ "^\x7bcommit\x7d"]

def configuredPath (project : CognitiveProject) : Except Error String :=
  match given project.repositoryPath with
  | some path => .ok path
  | none => .error (stateError "Project does not have a configured repository path.")

/-- `RepositoryAdapter(...)`, with the `RepositoryError` it raises turned into the service's own. -/
def Git.openAt (git : Git) (path : String) : Except Error String :=
  match git.repository path with
  | .ok repository => .ok repository
  | .error text => .error (stateError text)

/-- What `analyze_and_ingest_git_commit` collects of a commit before it ingests it. -/
def analyze (env : Env) (git : Git) (project : CognitiveProject) (p : GitCommitAnalyze) :
    Except Error CommitIngest := do
  let path ← configuredPath project
  let repository ← git.openAt path
  let commitHash ← git.output repository (revision p.commitHash)
  let shown ← git.output repository ["show", "-s", "--format=%P%x00%D%x00%B", commitHash]
  let metadata := splitNul shown.toList
  let parents := ((metadata.head?.getD []).splitOnP env.isSpace).filter (· ≠ [])
  let decorations := String.ofList (strip env (metadata[1]?.getD []))
  let message := String.ofList (strip env (metadata[2]?.getD []))
  let files ← git.lines repository ["diff-tree", "--root", "--no-commit-id", "--name-only", "-r", commitHash]
  let branches ← git.lines repository ["branch", "--contains", commitHash, "--format=%(refname:short)"]
  checkIngest { commitHash := commitHash, parentHash := parents.head?.map String.ofList,
                branch := branches.head?.orElse fun _ => given (some decorations), message := message,
                agentId := p.agentId, traceId := p.traceId, files := files, tests := files.filter isTestPath,
                semanticSummary := p.semanticSummary }

/-- `analyze_and_ingest_git_commit`. -/
def analyzeAndIngest (env : Env) (git : Git) (stop : Option CommitPoint) (projectId : String) (p : GitCommitAnalyze) :
    Service Ingested := do
  let found ← project projectId
  let payload ← ofExcept (analyze env git found p)
  ingestCommit env stop projectId payload

structure CommitQueueConfig where
  leaseSeconds : Nat
  maxAttempts : Int

namespace CommitQueue

def leaseLost : Error := .runtimeError "Cognitive commit job lease was lost."

def requested (job : CognitiveCommitJob) : GitCommitAnalyze :=
  ⟨job.commitHash, job.agentId, job.traceId, job.semanticSummary⟩

def newJob (config : CommitQueueConfig) (projectId : String) (p : GitCommitAnalyze) (id : String) (now : Nat) :
    CognitiveCommitJob where
  id := id
  projectId := projectId
  commitHash := p.commitHash
  agentId := p.agentId
  traceId := p.traceId
  semanticSummary := p.semanticSummary
  state := .queued
  attempt := 0
  maxAttempts := config.maxAttempts
  availableAt := now
  leaseToken := none
  leaseExpiresAt := none
  lastError := none
  createdAt := now
  updatedAt := now
  completedAt := none

/-- `submit`. -/
def submit (env : Env) (config : CommitQueueConfig) (stop : Option CommitPoint) (projectId : String)
    (p : GitCommitAnalyze) :
    Service CognitiveCommitJob := do
  let existing ← view fun d => d.jobs.rows.find? fun job => job.projectId == projectId && job.commitHash == p.commitHash
  match existing with
  | some job => return job
  | none =>
    let event ← recordEvent env stop projectId
      { eventType := "COMMIT_ANALYSIS_QUEUED", agentId := p.agentId, commitHash := some p.commitHash,
        traceId := p.traceId,
        payload := .obj [("semantic_summary_provided", .bool p.semanticSummary.isSome)] } false
    let id ← uuid4
    let job := newJob config projectId p id event.createdAt
    let inserted ← view fun d => d.jobs.insert? job
    let jobs ← expect (.integrityError "cognitive_commit_jobs.id") inserted
    modify fun d => { d with jobs := jobs }
    save stop .submitted
    return job

/-- The lease has run out by `now`. -/
def expired (now : Nat) (job : CognitiveCommitJob) : Bool :=
  decide (job.state = .running) && job.leaseExpiresAt.any fun expiresAt => decide (expiresAt ≤ now)

/-- What `_recover_expired` makes of a job whose lease has run out. -/
def recover (now : Nat) (job : CognitiveCommitJob) : CognitiveCommitJob :=
  if (job.attempt : Int) < job.maxAttempts then
    { job with state := .queued, leaseToken := none, leaseExpiresAt := none, availableAt := now, updatedAt := now }
  else
    { job with state := .failed, leaseToken := none, leaseExpiresAt := none, availableAt := now, updatedAt := now,
               completedAt := some now, lastError := some "Cognitive commit worker lease expired." }

/-- `_recover_expired`. -/
def recoverExpired (stop : Option CommitPoint) (now : Nat) : Service Unit := do
  let found ← view fun d => d.jobs.rows.filter (expired now)
  if found = [] then return ()
  else
    modify fun d => { d with jobs := d.jobs.updateWhere (expired now) (recover now) }
    save stop .recovered

/-- The job that `_claim` takes: the first of those available, by availability and age. -/
def candidate (d : CognitiveDb) (now : Nat) : Option CognitiveCommitJob :=
  (d.jobs.rows.filter fun job => decide (job.state = .queued) && decide (job.availableAt ≤ now)).argmin
    fun job => toLex (job.availableAt, job.createdAt)

/-- What `_claim` makes of the job. -/
def take (config : CommitQueueConfig) (token : String) (now : Nat) (job : CognitiveCommitJob) : CognitiveCommitJob :=
  { job with state := .running, attempt := job.attempt + 1, leaseToken := some token,
             leaseExpiresAt := some (now + config.leaseSeconds * 1000000), updatedAt := now }

/-- `_claim`. -/
def claim (config : CommitQueueConfig) (stop : Option CommitPoint) :
    Service (Option (CognitiveCommitJob × String)) := do
  let now ← utcnow
  recoverExpired stop now
  let found ← view fun d => candidate d now
  match found with
  | none => return none
  | some job =>
    let token ← uuid4
    modify fun d => { d with jobs := d.jobs.update job.id (take config token now) }
    save stop .claimed
    return some (take config token now job, token)

/-- `_owned`. -/
def owned (jobId token : String) : Service CognitiveCommitJob := do
  let found ← view fun d => d.jobs.find jobId
  expect leaseLost (found.filter fun job => decide (job.state = .running ∧ job.leaseToken = some token))

/-- What `_complete` makes of the job. -/
def finish (now : Nat) (job : CognitiveCommitJob) : CognitiveCommitJob :=
  { job with
    state := .completed, leaseToken := none, leaseExpiresAt := none, completedAt := some now, updatedAt := now }

/-- `_complete`. -/
def complete (stop : Option CommitPoint) (jobId token : String) : Service Unit := do
  let _ ← owned jobId token
  let now ← utcnow
  modify fun d => { d with jobs := d.jobs.update jobId (finish now) }
  save stop .completed

/-- What `_fail` makes of the job. -/
def giveBack (error : String) (now : Nat) (job : CognitiveCommitJob) : CognitiveCommitJob :=
  let failed := { job with lastError := some (String.ofList (error.toList.take 4000)), leaseToken := none,
                           leaseExpiresAt := none, updatedAt := now }
  if job.maxAttempts ≤ (job.attempt : Int) then { failed with state := .failed, completedAt := some now }
  else { failed with state := .queued, availableAt := now + min 300 (2 ^ (job.attempt - 1)) * 1000000 }

/-- `_fail`. -/
def fail (stop : Option CommitPoint) (jobId token error : String) : Service Unit := do
  let _ ← owned jobId token
  let now ← utcnow
  modify fun d => { d with jobs := d.jobs.update jobId (giveBack error now) }
  save stop .failed

/-- `try m except Exception`: no handler sees the process stop. -/
def attempt {α : Type} (m : Service α) : Service (Except Error α) := fun s =>
  match m s with
  | (.ok a, t) => (.ok (.ok a), t)
  | (.error (.raised error), t) => (.ok (.error error), t)
  | (.error .stopped, t) => (.error .stopped, t)

/-- What `process_one` answers about the job it took. -/
inductive Processed where
  | completed (jobId : String) (result : Ingested)
  | failed (jobId : String) (error : String)

/-- The handler of `process_one`. After a flush that failed the session
refuses every further use until it is rolled back. -/
def giveUp (stop : Option CommitPoint) (job : CognitiveCommitJob) (token : String) : Error → Service (Option Processed)
  | .integrityError _ => Cognitive.fail
    (.other "PendingRollbackError" "This Session's transaction has been rolled back")
  | error => do
    fail stop job.id token error.text
    return some (.failed job.id error.text)

def analyzedEvent (job : CognitiveCommitJob) (taken : CognitiveSnapshot) : CognitiveEventCreate where
  eventType := "COMMIT_ANALYZED"
  agentId := job.agentId
  commitHash := some job.commitHash
  traceId := job.traceId
  payload := .obj [("job_id", .str job.id), ("snapshot_id", .str taken.id)]

/-- `process_one`. -/
def processOne (env : Env) (git : Git) (config : CommitQueueConfig) (stop : Option CommitPoint) :
    Service (Option Processed) := do
  let claimed ← claim config stop
  match claimed with
  | none => return none
  | some (job, token) =>
    let outcome ← attempt (analyzeAndIngest env git stop job.projectId (requested job))
    match outcome with
    | .error error => giveUp stop job token error
    | .ok result =>
      complete stop job.id token
      let taken ← expect (.attributeError "'NoneType' object has no attribute 'id'") result.snapshot
      let _ ← recordEvent env stop job.projectId (analyzedEvent job taken) true
      return some (.completed job.id result)

end CommitQueue
end Cognitive
end SacmRuntime
