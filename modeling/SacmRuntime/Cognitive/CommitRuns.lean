import SacmRuntime.Cognitive.CommitWorker

namespace SacmRuntime
namespace Cognitive
open Session CommitQueue

/-- One Git answers as another does when it finds a repository and a commit.
It may fail where the other does not. -/
structure Git.Agrees (git reference : Git) : Prop where
  repository : ∀ path repository, git.repository path = .ok repository → reference.repository path = .ok repository
  names : ∀ repository name commitHash,
    git.run repository (revision name) = some commitHash → reference.run repository (revision name) = some commitHash

/-- What a call needs for the job it takes: its identifiers are new, and the
commit is not indexed, with every file listed once, or indexed with a snapshot. -/
structure Recoverable (env : Env) (d : CognitiveDb) (supply : Supply) (job : CognitiveCommitJob)
    (payload : CommitIngest) : Prop where
  fresh : Fresh (draws env payload + 2) (start d supply)
  snapshot : commitEvents d job.projectId payload.commitHash ≠ [] →
    ∃ taken ∈ d.snapshots.rows, taken.projectId = job.projectId ∧ taken.commitHash = some payload.commitHash
  files : commitEvents d job.projectId payload.commitHash = [] →
    ∀ facts, commitFacts env payload = .ok facts → facts.files.Nodup

/-- No call of the method raises, and the queue stays in order. -/
def Settles {α : Type} (git : Git) (outcome : Except Fault α × Session CognitiveDb) : Prop :=
  (∀ error, outcome.1 ≠ .error (.raised error)) ∧ QueueInv git outcome.2.committed

section Processing
variable {env : Env} {git reference : Git} {config : CommitQueueConfig} {stop : Option CommitPoint}
  {s t : Session CognitiveDb}
  {job : CognitiveCommitJob} {token : String}

theorem settles_stopped {α : Type} (inv : QueueInv reference t.committed) :
    Settles reference ((.error .stopped, t) : Except Fault α × Session CognitiveDb) := by
  refine ⟨fun error same => ?_, inv⟩
  cases same

theorem settles_returned {α : Type} {a : α} (inv : QueueInv reference t.committed) :
    Settles reference ((.ok a, t) : Except Fault α × Session CognitiveDb) := by
  refine ⟨fun error same => ?_, inv⟩
  cases same

theorem resolved_agrees {projects : Table CognitiveProject} {commitHash : String} (agrees : git.Agrees reference)
    (names : resolved git projects job = some commitHash) : resolved reference projects job = some commitHash := by
  unfold resolved at names ⊢
  simp only [Option.bind_eq_bind, Option.bind_eq_some_iff] at names ⊢
  obtain ⟨project, known, path, configured, repository, opened, named⟩ := names
  refine ⟨project, known, path, configured, repository, ?_, agrees.names _ _ _ named⟩
  cases answer : git.repository path with
  | error text => simp [answer, Except.toOption] at opened
  | ok found =>
    simp only [answer, Except.toOption, Option.some.injEq] at opened
    rw [agrees.repository _ _ answer, opened]
    rfl

section
variable (claimed : Claimed s job token t)
include claimed

theorem Claimed.analysis {old : CognitiveCommitJob} (same : SameJob old job) :
    analysis env git t.working job = analysis env git s.working old := by
  unfold Cognitive.analysis
  rw [claimed.working, same.projectId, same.request]

theorem Claimed.commitEvents (projectId commitHash : String) :
    commitEvents t.working projectId commitHash = commitEvents s.working projectId commitHash := by
  rw [claimed.working]
  rfl

theorem Claimed.snapshots : t.working.snapshots = s.working.snapshots := by
  rw [claimed.working]

theorem Claimed.holds : Holds t job token := ⟨claimed.member, claimed.running, claimed.owned⟩

theorem Claimed.fresh {n : Nat} (fresh : Fresh (n + 1) s) : Fresh n t :=
  fresh.draw claimed.uuids fun _ member => .inr (claimed.ids ▸ member)

end

theorem settles_completed {payload : CommitIngest} {result : Ingested} {u : Session CognitiveDb}
    {found : CognitiveProject}
    (inv : QueueInv reference u.working) (survives : stop ≠ some .completed) (holds : Holds u job token)
    (names : resolved reference u.working.projects job = some payload.commitHash)
    (known : u.working.projects.find job.projectId = some found) (fresh : Fresh 1 u)
    (indexed : commitEvents u.working job.projectId payload.commitHash ≠ [])
    (snapshot : ∃ taken, result.snapshot = some taken ∧ taken ∈ u.working.snapshots.rows ∧
      taken.projectId = job.projectId ∧
      taken.commitHash = some payload.commitHash) :
    Settles reference ((do
      complete stop job.id token
      let taken ← expect (.attributeError "'NoneType' object has no attribute 'id'") result.snapshot
      let _ ← recordEvent env stop job.projectId (analyzedEvent job taken) true
      return some (Processed.completed job.id result) : Service (Option Processed)) u) := by
  obtain ⟨taken, answered, stored, own, ofCommit⟩ := snapshot
  refine outcome_complete holds survives fun now v working uuids => ?_
  have used : usedIds v.working = usedIds u.working := by
    rw [working]
    exact usedIds_updateWhere fun _ => rfl
  have fresher : Fresh 1 v := fresh.same uuids (by rw [used]; exact List.Subset.refl _)
  rw [answered]
  unfold expect
  rw [Tx.bind_expect_some]
  unfold recordEvent
  rw [Tx.bind_assoc_run]
  have still : v.working.projects.find job.projectId = some found := by
    rw [working]
    exact known
  refine outcome_appendEvent_fresh fresher (analyzedEvent_valid (inv.valid job holds.member)) rfl still
    fun event w recorded _ _ => ?_
  have finished : QueueInv reference w.working := by
    have frame := recorded.working
    rw [working] at frame
    have events : w.working.events.rows = u.working.events.rows ++ [newEvent env job.projectId (analyzedEvent job taken)
        (lastEvent v.working job.projectId) event.createdAt event.id] := by
      have appended := recorded.appended.trans (congrArg (v.working.events.rows ++ [·]) recorded.built)
      rw [appended, working]
    have jobs : w.working.jobs = u.working.jobs.update job.id (finish now) := by rw [frame]
    refine inv.complete holds.member (by rw [holds.running]; decide) names indexed
      ⟨taken, stored, own, ofCommit⟩ ?_ ?_ events jobs
    · rw [frame]
    · rw [frame]
  rw [if_pos rfl, Tx.bind_assoc_run]
  exact outcome_save (fun _ => settles_stopped finished) (settles_returned finished)

theorem processOne_outcome (capitals : env.Capitals) (agrees : git.Agrees reference) (clean : s.committed = s.working)
    (inv : QueueInv reference s.working) (survives : stop ≠ some .completed) {supply : Supply}
    (begun : s = start s.working supply)
    (recoverable : ∀ old payload, claimable s.working (s.clock 0) = some old →
      analysis env git s.working old = .ok payload →
      Recoverable env s.working supply old payload) :
    Settles reference (processOne env git config stop s) := by
  unfold processOne
  refine outcome_claim clean
    (fun t (evolves : Relation.ReflTransGen (Evolves env) _ _) => settles_stopped (inv.evolutions evolves))
    (fun t evolves same => settles_returned (by rw [same]; exact inv.evolutions evolves)) fun job token t evolves
      claimed => ?_
  obtain ⟨old, due, same⟩ := claimed.origin
  have after := inv.evolutions evolves
  have sound : ∀ payload, analysis env git t.working job = .ok payload → Recoverable env s.working supply old payload :=
    fun payload analyzed => recoverable old payload due ((claimed.analysis same).symm.trans analyzed)
  have fresh : ∀ payload, analysis env git t.working job = .ok payload → Fresh (1 + draws env payload) t := by
    intro payload analyzed
    have before := (sound payload analyzed).fresh
    rw [← begun] at before
    exact (claimed.fresh before).mono (by omega)
  have failing : ∀ (error : Error) (u : Session CognitiveDb), Clashless error → QueueInv reference u.working →
    Holds u job token →
      Settles reference (giveUp stop job token error u) := by
    intro error u clashless invariant holds
    rw [giveUp_of_clashless clashless]
    exact outcome_fail holds (fun v (evolved : Evolves env _ _) => settles_stopped (invariant.evolves evolved))
      fun v evolved => settles_returned (invariant.evolves evolved)
  refine outcome_attempt (analyzeAndIngest_outcome claimed.clean fresh) (fun result u ends => ?_)
    (fun error u ends => ?_)
    fun u ends => ?_
  · rcases ends with ⟨error, -, impossible⟩ | ⟨payload, analyzed, ⟨ingested, last⟩⟩
    · cases impossible
    · obtain ⟨-, -, -, names, found, known⟩ := analysis_ok analyzed
      have stored := ingested.snapshot fun indexed => by
        obtain ⟨taken, member, own, ofCommit⟩ := (sound payload analyzed).snapshot
          (by rwa [← claimed.commitEvents, ← same.projectId])
        exact ⟨taken, by rwa [claimed.snapshots], own.trans same.projectId.symm, ofCommit⟩
      have still : u.working.projects.find job.projectId = some found := by rw [ingested.projects, known]
      refine settles_completed (after.evolutions ingested.evolves) survives ?_ ?_ still last ingested.indexed stored
      · exact ⟨ingested.jobs ▸ claimed.member, claimed.running, claimed.owned⟩
      · rw [ingested.projects]
        exact resolved_agrees agrees names
  · rcases ends with ⟨found, clashless, unchanged⟩ | ⟨payload, analyzed, -, evolved, jobs, clashless⟩
    · cases unchanged
      exact failing error t clashless after claimed.holds
    · refine failing error u (clashless fun unindexed => ?_) (after.evolutions evolved)
        ⟨jobs ▸ claimed.member, claimed.running, claimed.owned⟩
      obtain ⟨-, plain, tests, -, -⟩ := analysis_ok analyzed
      refine distinct_of_nodup capitals plain fun facts read => ?_
      have files : facts.files.Nodup := by
        refine (sound payload analyzed).files ?_ facts read
        rwa [← claimed.commitEvents, ← same.projectId]
      exact ⟨files, nodup_tests read tests files⟩
  · rcases ends with ⟨error, -, impossible⟩ | ⟨payload, -, evolved⟩
    · cases impossible
    · exact settles_stopped (after.evolutions evolved)

end Processing

section Submission
variable {env : Env} {git : Git} {config : CommitQueueConfig} {stop : Option CommitPoint} {d : CognitiveDb}
  {s : Session CognitiveDb} {job : CognitiveCommitJob} {projectId : String}

theorem QueueInv.insert {jobs : Table CognitiveCommitJob} (inv : QueueInv git d)
    (rows : jobs.rows = d.jobs.rows ++ [job])
    (valid : (requested job).valid = true) (queued : job.state ≠ .completed)
    (new : ∀ row ∈ d.jobs.rows, row.projectId = job.projectId → row.commitHash ≠ job.commitHash) :
    QueueInv git { d with jobs := jobs } where
  valid := by
    intro row member
    rcases List.mem_append.mp (rows ▸ member) with old | added
    · exact inv.valid row old
    · cases List.mem_singleton.mp added
      exact valid
  unique := by
    intro a inA b inB sameProject sameCommit
    rcases List.mem_append.mp (rows ▸ inA) with oldA | addedA
    · rcases List.mem_append.mp (rows ▸ inB) with oldB | addedB
      · exact inv.unique a oldA b oldB sameProject sameCommit
      · cases List.mem_singleton.mp addedB
        exact absurd sameCommit (new a oldA sameProject)
    · cases List.mem_singleton.mp addedA
      rcases List.mem_append.mp (rows ▸ inB) with oldB | addedB
      · exact absurd sameCommit.symm (new b oldB sameProject.symm)
      · exact (List.mem_singleton.mp addedB).symm
  single := inv.single
  settled := by
    intro row member completed
    rcases List.mem_append.mp (rows ▸ member) with old | added
    · obtain ⟨commitHash, settled⟩ := inv.settled row old completed
      exact ⟨commitHash, settled.resolved, settled.created, settled.snapshot, settled.analyzed⟩
    · cases List.mem_singleton.mp added
      exact absurd completed queued
  pending := by
    intro projectId commitHash none
    have earlier : ∀ row ∈ d.jobs.rows, row.projectId = projectId → row.commitHash = commitHash →
        row.state ≠ .completed := by
      intro row member
      exact none row (by rw [rows]; exact List.mem_append_left _ member)
    exact inv.pending projectId commitHash earlier

theorem submit_outcome {p : GitCommitAnalyze} (clean : s.committed = s.working) (inv : QueueInv git s.working)
    (valid : p.valid = true) : QueueInv git (submit env config stop projectId p s).2.committed := by
  have unchanged : QueueInv git s.committed := clean ▸ inv
  unfold submit
  rw [bind_view]
  cases present : s.working.jobs.rows.find? fun job => job.projectId == projectId && job.commitHash == p.commitHash with
  | some job => exact unchanged
  | none =>
    refine outcome_recordEvent (P := fun outcome => QueueInv git outcome.2.committed)
      (fun _ t same _ => same ▸ unchanged) fun event t recorded => ?_
    have evolves : Evolves env s.working t.working := by
      have frame := recorded.working
      refine evolves_of_history ?_ ?_ (.inr ⟨projectId, _, event.createdAt, event.id,
        recorded.appended.trans (congrArg (_ ++ [·]) recorded.built), not_misindexes (by simp), by simp⟩) ?_
      · rw [frame]
      · rw [frame]
      · rw [frame]
        exact List.Subset.refl _
    rw [bind_uuid4, bind_view]
    refine outcome_expect (P := fun outcome => QueueInv git outcome.2.committed)
      (recorded.committed ▸ unchanged) fun jobs inserted => ?_
    rw [bind_modify]
    have queued : QueueInv git { t.working with jobs := jobs } := by
      refine (inv.evolves evolves).insert (Table.insert?_eq_some inserted).2 valid
        (by simp [newJob]) fun row member own same => ?_
      have known : t.working.jobs = s.working.jobs := by rw [recorded.working]
      rw [known] at member
      have absent := List.find?_eq_none.mp present row member
      exact absent (by simp [own, same, newJob])
    exact outcome_save (P := fun outcome => QueueInv git outcome.2.committed) (fun _ => queued) queued

end Submission

/-- The calls that a queue of commits and its workers serve. -/
inductive QueueOp where
  | submit (config : CommitQueueConfig) (projectId : String) (p : GitCommitAnalyze)
  | ingest (projectId : String) (payload : CommitIngest)
  | process (config : CommitQueueConfig) (git : Git)

/-- The store after a call, which may stop after one of its commits. -/
def QueueOp.after (env : Env) (op : QueueOp × Option CommitPoint) (d : CognitiveDb) (supply : Supply) : CognitiveDb :=
  match op.1 with
  | .submit config projectId p => (request (CommitQueue.submit env config op.2 projectId p) d supply).2
  | .ingest projectId payload => (request (ingestCommit env op.2 projectId payload) d supply).2
  | .process config git => (request (processOne env git config op.2) d supply).2

/-- No call stops between the commit that completes its job and the one that
records its event, and every call that takes a job can recover its commit. -/
def QueueOp.Meets (env : Env) (reference : Git) (d : CognitiveDb) (supply : Supply)
    (op : QueueOp × Option CommitPoint) : Prop :=
  match op.1 with
  | .submit _ _ p => p.valid = true
  | .ingest _ payload => payload.valid = true ∧ Fresh (draws env payload) (start d supply)
  | .process _ git => git.Agrees reference ∧ op.2 ≠ some .completed ∧
      ∀ job payload, claimable d (supply.clock 0) = some job → analysis env git d job = .ok payload →
        Recoverable env d supply job payload

section Runs
variable {env : Env} {reference : Git} {d e : CognitiveDb} {supply : Supply}

theorem QueueInv.initial (projects : Table CognitiveProject) : QueueInv reference (.initial projects) where
  valid _ member := absurd member List.not_mem_nil
  unique _ member := absurd member List.not_mem_nil
  single _ _ := Nat.zero_le _
  settled _ member := absurd member List.not_mem_nil
  pending _ _ _ := rfl

theorem processOne_settles {config : CommitQueueConfig} {git : Git} {stop : Option CommitPoint}
    (capitals : env.Capitals)
    (inv : QueueInv reference d) (meets : QueueOp.Meets env reference d supply (.process config git, stop)) :
    Settles reference (processOne env git config stop (start d supply)) := by
  obtain ⟨agrees, survives, recoverable⟩ := meets
  exact processOne_outcome capitals agrees rfl inv survives rfl recoverable

theorem QueueInv.after {op : QueueOp × Option CommitPoint} (capitals : env.Capitals) (inv : QueueInv reference d)
    (meets : QueueOp.Meets env reference d supply op) : QueueInv reference (QueueOp.after env op d supply) := by
  have clean : (start d supply).committed = (start d supply).working := rfl
  obtain ⟨op, stop⟩ := op
  cases op with
  | submit config projectId p => exact submit_outcome clean inv meets
  | ingest projectId payload =>
    obtain ⟨valid, fresh⟩ := meets
    have ends :
        IngestEnds env projectId payload 0 (start d supply)
        (ingestCommit env stop projectId payload (start d supply)) :=
      ingestCommit_outcome clean (fresh.mono (by omega)) valid
    change QueueInv reference (ingestCommit env stop projectId payload (start d supply)).2.committed
    rcases outcome : ingestCommit env stop projectId payload (start d supply) with ⟨result, t⟩
    rw [outcome] at ends
    cases result with
    | ok result =>
      change QueueInv reference t.committed
      rw [ends.1.clean]
      exact inv.evolutions ends.1.evolves
    | error fault =>
      cases fault with
      | stopped => exact inv.evolutions ends
      | raised error =>
        change QueueInv reference t.committed
        rw [ends.1]
        exact inv
  | process config git => exact (processOne_settles capitals inv meets).2

/-- Along every run that meets the condition the completed jobs are settled,
and no further call that meets it raises. -/
theorem commit_ingestion_recovers {projects : Table CognitiveProject} (capitals : env.Capitals)
    (run : Path (QueueOp.after env) (QueueOp.Meets env reference) (.initial projects) d) :
    AllSettled reference d ∧ ∀ config git stop supply, QueueOp.Meets env reference d supply
      (.process config git, stop) →
      ∀ error, (request (processOne env git config stop) d supply).1 ≠ .error (.raised error) := by
  have inv : QueueInv reference d :=
    run.keeps (fun _ _ _ meets inv => inv.after capitals meets) (.initial projects)
  exact ⟨inv.settled, fun config git stop supply meets => (processOne_settles capitals inv meets).1⟩

end Runs

namespace QueueSample

def env : Env := ⟨id, fun c => c == ' ', id⟩

def git : Git where
  repository path := .ok path
  run _ arguments :=
    if arguments.head? = some "rev-parse" then some "a82f91c0"
    else if arguments.head? = some "diff-tree" then some "src/auth.py"
    else some ""

def projects : Table CognitiveProject := .ofRows [⟨"project", some "/repository"⟩]

def config : CommitQueueConfig := ⟨300, 3⟩

/-- What the clock reads and which identifiers are drawn during the `n`-th request. -/
def supply (n : Nat) : Supply :=
  ⟨fun k => 1000000000 * n + k, fun k => String.ofList (List.replicate (n + 1) 'x' ++ List.replicate k 'y'),
    fun _ => ""⟩

def submission : (QueueOp × Option CommitPoint) × Supply :=
  ((.submit config "project" ⟨"a82f91c", none, none, none⟩, none), supply 0)

/-- A worker that stops after a commit, and one that takes over when its lease has run out. -/
def workers (stop : CommitPoint) : List ((QueueOp × Option CommitPoint) × Supply) :=
  [((.process config git, some stop), supply 1), ((.process config git, none), supply 2)]

def store (requests : List ((QueueOp × Option CommitPoint) × Supply)) : CognitiveDb :=
  Path.storeAfter (QueueOp.after env) (.initial projects) requests

theorem capitals : env.Capitals := fun _ _ => rfl

/-- What a call finds out about the job it takes: how many identifiers it
draws, whether the commit is indexed and snapshotted, the files. -/
def finds (d : CognitiveDb) (n : Nat) : Nat × Bool × Bool × List String :=
  match claimable d ((supply n).clock 0) with
  | none => (0, false, false, [])
  | some job =>
    match analysis env git d job with
    | .error _ => (0, false, false, [])
    | .ok payload =>
      (draws env payload, !(commitEvents d job.projectId payload.commitHash).isEmpty,
        d.snapshots.rows.any fun taken => taken.projectId == job.projectId &&
          taken.commitHash == some payload.commitHash,
        ((commitFacts env payload).toOption.map CommitFacts.files).getD [])

theorem meets_of_finds {d : CognitiveDb} {n : Nat} {stop : Option CommitPoint} {indexed snapshotted : Bool}
    (found : finds d n = (4, indexed, snapshotted, ["src/auth.py"])) (survives : stop ≠ some .completed)
    (taken : indexed = true → snapshotted = true) (fresh : Fresh 6 (start d (supply n))) :
    QueueOp.Meets env git d (supply n) (.process config git, stop) := by
  refine ⟨⟨fun _ _ same => same, fun _ _ _ same => same⟩, survives, fun job payload due analyzed => ?_⟩
  unfold finds at found
  rw [due] at found
  simp only [analyzed, Prod.mk.injEq] at found
  obtain ⟨count, isIndexed, isSnapshotted, listed⟩ := found
  refine ⟨by rw [count]; exact fresh, fun again => ?_, fun _ facts read => ?_⟩
  · have snapshot := taken (by rw [← isIndexed]; simpa using again)
    rw [← isSnapshotted] at snapshot
    simpa using snapshot
  · rw [read] at listed
    have files : facts.files = ["src/auth.py"] := listed
    rw [files]
    decide

theorem fresh_of_ids {d : CognitiveDb} {n : Nat} (unused : ∀ a < 6, (supply n).uuids a ∉ usedIds d)
    (bounded : n ≤ 2) : Fresh 6 (start d (supply n)) where
  different := by
    intro a _ b _ same
    have lengths := congrArg String.length same
    simpa [start, supply] using lengths
  unused := unused
  short := by
    intro a below
    have length : ((supply n).uuids a).length = n + 1 + a := by simp [supply]
    change ((supply n).uuids a).length ≤ 100
    omega

theorem found_unindexed : finds (store [submission]) 1 = (4, false, false, ["src/auth.py"]) := by
  decide +kernel

theorem found_snapshotted : finds (store (submission :: (workers .snapshot).take 1)) 2 =
    (4, true, true, ["src/auth.py"]) := by
  decide +kernel

end QueueSample

open QueueSample in
/-- A worker stops after it has taken the snapshot; another one completes the job. -/
theorem commit_ingestion_recovers_sample :
    ((store (submission :: workers .snapshot)).jobs.rows.map CognitiveCommitJob.state = [.completed]) ∧
    AllSettled git (store (submission :: workers .snapshot)) := by
  have submitted : Path (QueueOp.after env) (QueueOp.Meets env git) (.initial projects) (store [submission]) :=
    .next .start submission.1 submission.2 (show GitCommitAnalyze.valid _ = true by decide +kernel)
  have stopped : Path (QueueOp.after env) (QueueOp.Meets env git) (.initial projects)
      (store (submission :: (workers .snapshot).take 1)) :=
    .next submitted (.process config git, some .snapshot) (supply 1)
      (meets_of_finds found_unindexed (by decide) (by decide)
        (fresh_of_ids (by decide +kernel) (by decide)))
  have finished : Path (QueueOp.after env) (QueueOp.Meets env git) (.initial projects)
      (store (submission :: workers .snapshot)) :=
    .next stopped (.process config git, none) (supply 2)
      (meets_of_finds found_snapshotted (by decide) (by decide) (fresh_of_ids (by decide +kernel) (by decide)))
  exact ⟨by decide +kernel, (commit_ingestion_recovers capitals finished).1⟩

def raises {α : Type} : Except Fault α → Option Error
  | .error (.raised error) => some error
  | _ => none

open QueueSample in
/-- A worker stops before it has taken the snapshot; the next one completes
the job without it and raises. -/
theorem commit_ingestion_unrecovered :
    (store (submission :: workers .evidence)).jobs.rows.map CognitiveCommitJob.state = [.completed] ∧
    ¬AllSettled git (store (submission :: workers .evidence)) ∧
    ∃ error, (request (processOne env git config none) (store (submission :: (workers .evidence).take 1))
      (supply 2)).1 =
      .error (.raised error) := by
  have states : (store (submission :: workers .evidence)).jobs.rows.map CognitiveCommitJob.state = [.completed] := by
    decide +kernel
  have snapshots :
    (store (submission :: workers .evidence)).snapshots.rows.map CognitiveSnapshot.id = [] := by decide +kernel
  refine ⟨states, fun settled => ?_, ?_⟩
  · obtain ⟨job, member, completed⟩ := List.mem_map.mp (states ▸ List.mem_singleton.mpr rfl :
      CommitJobState.completed ∈ (store (submission :: workers .evidence)).jobs.rows.map CognitiveCommitJob.state)
    obtain ⟨commitHash, done⟩ := settled job member completed
    obtain ⟨taken, stored, -⟩ := done.snapshot
    rw [List.map_eq_nil_iff.mp snapshots] at stored
    exact absurd stored List.not_mem_nil
  · have raised :
      raises (request (processOne env git config none) (store (submission :: (workers .evidence).take 1))
      (supply 2)).1 =
        some (.attributeError "'NoneType' object has no attribute 'id'") := by decide +kernel
    revert raised
    rcases (request (processOne env git config none) (store (submission :: (workers .evidence).take 1))
      (supply 2)).1 with
      (_ | error) | _
    · intro raised
      cases raised
    · exact fun _ => ⟨error, rfl⟩
    · intro raised
      cases raised

end Cognitive
end SacmRuntime
