import SacmRuntime.Cognitive.CommitProcessing

namespace SacmRuntime
open Table
namespace Cognitive
open Session CommitQueue

section Jobs
variable {env : Env} {git : Git} {d : CognitiveDb} {p : CognitiveCommitJob → Bool}
  {f : CognitiveCommitJob → CognitiveCommitJob}

theorem evolves_updateWhere (same : ∀ job ∈ d.jobs.rows, p job → SameJob job (f job)) :
    Evolves env d { d with jobs := d.jobs.updateWhere p f } where
  projects := rfl
  events := .inl rfl
  snapshots := List.Subset.refl _
  jobs := by
    intro job member
    obtain ⟨old, inOld, rewritten⟩ := List.mem_map.mp member
    refine ⟨old, inOld, ?_⟩
    by_cases chosen : p old = true
    · rw [if_pos chosen, rewriteRow_of_keeps (same old inOld chosen).id] at rewritten
      exact rewritten ▸ same old inOld chosen
    · rw [if_neg chosen] at rewritten
      exact rewritten ▸ .refl old
  kept := by
    intro old inOld
    refine ⟨_, List.mem_map_of_mem inOld, ?_⟩
    by_cases chosen : p old = true
    · rw [if_pos chosen, rewriteRow_of_keeps (same old inOld chosen).id]
      exact same old inOld chosen
    · rw [if_neg chosen]
      exact .refl old

variable {job : CognitiveCommitJob} {now : Nat}

theorem evolves_update (member : job ∈ d.jobs.rows) (same : SameJob job (f job)) :
    Evolves env d { d with jobs := d.jobs.update job.id f } :=
  evolves_updateWhere fun row inRows here => by
    have ids : row.id = job.id := by simpa [Keyed.key] using here
    rw [List.inj_on_of_nodup_map d.jobs.distinct inRows member ids]
    exact same

theorem QueueInv.evolutions {e : CognitiveDb} (inv : QueueInv git d)
    (evolves : Relation.ReflTransGen (Evolves env) d e) :
    QueueInv git e := by
  induction evolves with
  | refl => exact inv
  | tail _ last ih => exact ih.evolves last

theorem recover_same (ended : CommitQueue.expired now job = true) : SameJob job (recover now job) := by
  have running : job.state = .running := by
    simp only [CommitQueue.expired, Bool.and_eq_true, decide_eq_true_eq] at ended
    exact ended.1
  unfold recover
  split
  · exact ⟨rfl, rfl, rfl, by simp [running]⟩
  · exact ⟨rfl, rfl, rfl, by simp [running]⟩

theorem take_same {config : CommitQueueConfig} {token : String} (queued : job.state = .queued) :
    SameJob job (take config token now job) :=
  ⟨rfl, rfl, rfl, by simp [take, queued]⟩

theorem giveBack_same {error : String} (running : job.state = .running) :
    SameJob job (giveBack error now job) := by
  unfold giveBack
  simp only
  split
  · exact ⟨rfl, rfl, rfl, by simp [running]⟩
  · exact ⟨rfl, rfl, rfl, by simp [running]⟩

def recovered (d : CognitiveDb) (now : Nat) : CognitiveDb :=
  { d with jobs := d.jobs.updateWhere (CommitQueue.expired now) (recover now) }

/-- The job that a call of `process_one` at this time takes. -/
def claimable (d : CognitiveDb) (now : Nat) : Option CognitiveCommitJob := candidate (recovered d now) now

theorem candidate_queued (found : candidate d now = some job) :
    job ∈ d.jobs.rows ∧ job.state = .queued := by
  have member := List.argmin_mem found
  simp only [List.mem_filter, Bool.and_eq_true, decide_eq_true_eq] at member
  exact ⟨member.1, member.2.1⟩

theorem usedIds_updateWhere (keeps : ∀ job, (f job).id = job.id) :
    usedIds { d with jobs := d.jobs.updateWhere p f } = usedIds d := by
  have ids : (d.jobs.updateWhere p f).rows.map CognitiveCommitJob.id = d.jobs.rows.map CognitiveCommitJob.id := by
    unfold updateWhere
    rw [List.map_map]
    refine List.map_congr_left fun job _ => ?_
    simp only [Function.comp_apply]
    split
    · rw [rewriteRow_of_keeps (keeps job)]
      exact keeps job
    · rfl
  unfold usedIds
  rw [ids]

end Jobs

section Claim
variable {β : Type} {P : Except Fault β × Session CognitiveDb → Prop} {env : Env} {config : CommitQueueConfig}
  {stop : Option CommitPoint} {s : Session CognitiveDb}

structure Claimed (s : Session CognitiveDb) (job : CognitiveCommitJob) (token : String) (t : Session CognitiveDb) :
    Prop where
  clean : t.committed = t.working
  member : job ∈ t.working.jobs.rows
  running : job.state = .running
  owned : job.leaseToken = some token
  working : t.working = { s.working with jobs := t.working.jobs }
  ids : usedIds t.working = usedIds s.working
  uuids : t.uuids = fun n => s.uuids (n + 1)
  origin : ∃ old, claimable s.working (s.clock 0) = some old ∧ SameJob old job

theorem outcome_recoverExpired {now : Nat} {f : Unit → Service β} (clean : s.committed = s.working)
    (stopped : ∀ t, t.committed = recovered s.working now → P (.error .stopped, t))
    (rest : ∀ t, t.committed = t.working → t.working = recovered s.working now → t.uuids = s.uuids → P (f () t)) :
    P ((recoverExpired stop now >>= f) s) := by
  unfold recoverExpired
  rw [Tx.bind_assoc_run, bind_view]
  by_cases none : s.working.jobs.rows.filter (CommitQueue.expired now) = []
  · rw [if_pos none]
    have same : recovered s.working now = s.working := by
      unfold recovered
      rw [updateWhere_of_none none]
    exact rest s clean same.symm rfl
  · rw [if_neg none, Tx.bind_assoc_run, bind_modify]
    exact outcome_save (fun _ => stopped _ rfl) (rest _ rfl rfl rfl)

theorem outcome_claim {f : Option (CognitiveCommitJob × String) → Service β} (clean : s.committed = s.working)
    (stopped : ∀ t, Relation.ReflTransGen (Evolves env) s.working t.committed → P (.error .stopped, t))
    (idle : ∀ t, Relation.ReflTransGen (Evolves env) s.working t.working → t.committed = t.working → P (f none t))
    (rest : ∀ job token t, Relation.ReflTransGen (Evolves env) s.working t.working → Claimed s job token t →
      P (f (some (job, token)) t)) :
    P ((claim config stop >>= f) s) := by
  have first : Evolves env s.working (recovered s.working (s.clock 0)) :=
    evolves_updateWhere fun job _ ended => recover_same ended
  unfold claim
  rw [Tx.bind_assoc_run, bind_utcnow, Tx.bind_assoc_run]
  refine outcome_recoverExpired clean (fun t same => stopped t (by rw [same]; exact .single first))
    fun t cleaned same uuids => ?_
  rw [Tx.bind_assoc_run, bind_view]
  cases found : candidate t.working (s.clock 0) with
  | none => exact idle t (by rw [same]; exact .single first) cleaned
  | some old =>
    obtain ⟨member, queued⟩ := candidate_queued found
    have second : Evolves env t.working
        { t.working with jobs := t.working.jobs.update old.id (take config (t.uuids 0) (s.clock 0)) } :=
      evolves_update member (take_same queued)
    have both : Relation.ReflTransGen (Evolves env) s.working
        { t.working with jobs := t.working.jobs.update old.id (take config (t.uuids 0) (s.clock 0)) } :=
      .tail (.single (same ▸ first)) second
    rw [Tx.bind_assoc_run, bind_uuid4, Tx.bind_assoc_run, bind_modify, Tx.bind_assoc_run]
    refine outcome_save (fun _ => stopped _ both) (rest _ _ _ both ⟨rfl, ?_, rfl, rfl, ?_, ?_, ?_, ?_⟩)
    · exact mem_update_iff.mpr (.inr ⟨old, find_of_mem member, (rewriteRow_of_keeps rfl).symm⟩)
    · have shape : t.working = { s.working with jobs := t.working.jobs } := by
        rw [same]
        rfl
      exact congrArg (fun d : CognitiveDb =>
        { d with jobs := t.working.jobs.update old.id (take config (t.uuids 0) (s.clock 0)) }) shape
    · have taken :
        usedIds { t.working with jobs := t.working.jobs.update old.id (take config (t.uuids 0) (s.clock 0)) } =
          usedIds t.working := usedIds_updateWhere fun _ => rfl
      have before : usedIds (recovered s.working (s.clock 0)) = usedIds s.working :=
        usedIds_updateWhere fun job => by unfold recover; split <;> rfl
      exact taken.trans ((congrArg usedIds same).trans before)
    · change (fun n => t.uuids (n + 1)) = _
      rw [uuids]
    · refine ⟨old, ?_, take_same queued⟩
      unfold claimable
      rw [← same]
      exact found

end Claim

section Settling
variable {β : Type} {P : Except Fault β × Session CognitiveDb → Prop} {env : Env} {git : Git}
  {config : CommitQueueConfig}
  {stop : Option CommitPoint} {s : Session CognitiveDb} {job : CognitiveCommitJob} {token : String}

structure Holds (s : Session CognitiveDb) (job : CognitiveCommitJob) (token : String) : Prop where
  member : job ∈ s.working.jobs.rows
  running : job.state = .running
  owned : job.leaseToken = some token

theorem outcome_owned {f : CognitiveCommitJob → Service β} (holds : Holds s job token) (rest : P (f job s)) :
    P ((owned job.id token >>= f) s) := by
  have found : s.working.jobs.find job.id = some job := find_of_mem holds.member
  have accepted : (some job).filter (fun job => decide (job.state = .running ∧ job.leaseToken = some token)) =
      some job := by
    simp [holds.running, holds.owned]
  unfold owned expect
  rw [Tx.bind_assoc_run, bind_view, found, accepted]
  exact rest

theorem outcome_fail {text : String} {f : Unit → Service β} (holds : Holds s job token)
    (stopped : ∀ t, Evolves env s.working t.committed → P (.error .stopped, t))
    (rest : ∀ t, Evolves env s.working t.committed → P (f () t)) :
      P ((CommitQueue.fail stop job.id token text >>= f) s) := by
  have evolves : Evolves env s.working
      { s.working with jobs := s.working.jobs.update job.id (giveBack text (s.clock 0)) } :=
    evolves_update holds.member (giveBack_same holds.running)
  unfold CommitQueue.fail
  rw [Tx.bind_assoc_run]
  refine outcome_owned holds ?_
  rw [Tx.bind_assoc_run, bind_utcnow, Tx.bind_assoc_run, bind_modify]
  exact outcome_save (fun _ => stopped _ evolves) (rest _ evolves)

theorem outcome_complete {f : Unit → Service β} (holds : Holds s job token) (survives : stop ≠ some .completed)
    (rest : ∀ now t, t.working = { s.working with jobs := s.working.jobs.update job.id (finish now) } →
      t.uuids = s.uuids → P (f () t)) : P ((complete stop job.id token >>= f) s) := by
  unfold complete
  rw [Tx.bind_assoc_run]
  refine outcome_owned holds ?_
  rw [Tx.bind_assoc_run, bind_utcnow, Tx.bind_assoc_run, bind_modify]
  exact outcome_save (fun dies => absurd dies survives) (rest _ _ rfl rfl)

theorem giveUp_of_clashless {error : Error} (clashless : Clashless error) :
    giveUp stop job token error = (do
      CommitQueue.fail stop job.id token error.text
      return some (.failed job.id error.text)) := by
  unfold giveUp
  split
  · rename_i message
    exact absurd rfl (clashless message)
  · rfl

/-- What `try` catches, by what the body ends with. -/
theorem outcome_attempt {α : Type} {Q : Except Fault α × Session CognitiveDb → Prop} {m : Service α}
    {f : Except Error α → Service β} (ends : Q (m s)) (ok : ∀ a t, Q (.ok a, t) → P (f (.ok a) t))
    (raised : ∀ error t, Q (.error (.raised error), t) → P (f (.error error) t))
    (stopped : ∀ t, Q (.error .stopped, t) → P (.error .stopped, t)) : P ((attempt m >>= f) s) := by
  rcases outcome : m s with ⟨result, t⟩
  rw [outcome] at ends
  cases result with
  | error fault =>
    cases fault with
    | stopped =>
      have run : (attempt m >>= f) s = (.error .stopped, t) := by simp [bind, attempt, outcome]
      exact run ▸ stopped t ends
    | raised error =>
      have run : (attempt m >>= f) s = f (.error error) t := by simp [bind, attempt, outcome]
      exact run ▸ raised error t ends
  | ok a =>
    have run : (attempt m >>= f) s = f (.ok a) t := by simp [bind, attempt, outcome]
    exact run ▸ ok a t ends

/-- What `analyze_and_ingest_git_commit` can end with: the analysis fails
before anything is written, or its result is ingested. -/
def AnalysisEnds (env : Env) (git : Git) (job : CognitiveCommitJob) (s : Session CognitiveDb)
    (outcome : Except Fault Ingested × Session CognitiveDb) : Prop :=
  (∃ error, Clashless error ∧ outcome = (.error (.raised error), s)) ∨
    ∃ payload, analysis env git s.working job = .ok payload ∧ IngestEnds env job.projectId payload 1 s outcome

theorem analyzeAndIngest_outcome (clean : s.committed = s.working)
    (fresh : ∀ payload, analysis env git s.working job = .ok payload → Fresh (1 + draws env payload) s) :
    AnalysisEnds env git job s (analyzeAndIngest env git stop job.projectId (requested job) s) := by
  unfold analyzeAndIngest
  refine outcome_project (.inl ⟨_, clashless_other _ _, rfl⟩) fun found known => ?_
  have read : analysis env git s.working job = analyze env git found (requested job) := by
    unfold analysis
    rw [known]
  cases analyzed : analyze env git found (requested job) with
  | error error => exact .inl ⟨error, neverClashes_analyze found (requested job) error analyzed, rfl⟩
  | ok payload =>
    have ends : IngestEnds env job.projectId payload 1 s (ingestCommit env stop job.projectId payload s) :=
      ingestCommit_outcome clean (fresh payload (read.trans analyzed)) (analyze_ok analyzed).valid
    exact .inr ⟨payload, read.trans analyzed, ends⟩

theorem analyzedEvent_valid {taken : CognitiveSnapshot} (valid : (requested job).valid = true) :
    (analyzedEvent job taken).valid = true := by
  simp only [GitCommitAnalyze.valid, requested, Bool.and_eq_true] at valid
  obtain ⟨⟨⟨⟨⟨-, hash⟩, -⟩, agent⟩, trace⟩, -⟩ := valid
  have kind : decide (1 ≤ "COMMIT_ANALYZED".length) = true ∧ decide ("COMMIT_ANALYZED".length ≤ 120) = true := by decide
  simp only [CognitiveEventCreate.valid, analyzedEvent, Option.all_some, Option.all_none, Bool.and_eq_true, and_true]
  exact ⟨⟨⟨kind, agent⟩, hash⟩, trace⟩

end Settling

end Cognitive
end SacmRuntime
