import SacmRuntime.Cognitive.CommitQueue
import SacmRuntime.Cognitive.TimeTravel

namespace SacmRuntime
open Table
namespace Cognitive
open Session CommitQueue

/-- The commit that Git knows by the name a job was submitted with. -/
def resolved (git : Git) (projects : Table CognitiveProject) (job : CognitiveCommitJob) : Option String := do
  let project ← projects.find job.projectId
  let path ← given project.repositoryPath
  let repository ← (git.repository path).toOption
  git.run repository (revision job.commitHash)

def analyzedEvents (d : CognitiveDb) (projectId commitHash : String) : List CognitiveEvent :=
  (d.eventsOf projectId).filter fun event =>
    event.eventType == "COMMIT_ANALYZED" && event.commitHash == some commitHash

/-- What the completion of a job promises: its commit was created once, has a
snapshot, and was analyzed once. -/
structure Settled (git : Git) (d : CognitiveDb) (job : CognitiveCommitJob) (commitHash : String) : Prop where
  resolved : resolved git d.projects job = some commitHash
  created : (commitEvents d job.projectId commitHash).length = 1
  snapshot : ∃ taken ∈ d.snapshots.rows, taken.projectId = job.projectId ∧ taken.commitHash = some commitHash
  analyzed : (analyzedEvents d job.projectId job.commitHash).length = 1

def AllSettled (git : Git) (d : CognitiveDb) : Prop :=
  ∀ job ∈ d.jobs.rows, job.state = .completed → ∃ commitHash, Settled git d job commitHash

/-- What holds of the queue and the history between requests. -/
structure QueueInv (git : Git) (d : CognitiveDb) : Prop where
  valid : ∀ job ∈ d.jobs.rows, (requested job).valid = true
  unique : ∀ a ∈ d.jobs.rows, ∀ b ∈ d.jobs.rows, a.projectId = b.projectId → a.commitHash = b.commitHash → a = b
  single : ∀ projectId commitHash, (commitEvents d projectId commitHash).length ≤ 1
  settled : AllSettled git d
  pending : ∀ projectId commitHash, (∀ job ∈ d.jobs.rows, job.projectId = projectId → job.commitHash = commitHash →
    job.state ≠ .completed) → analyzedEvents d projectId commitHash = []

/-- The same job at a later time, completed if and only if it was before. -/
structure SameJob (old new : CognitiveCommitJob) : Prop where
  id : new.id = old.id
  projectId : new.projectId = old.projectId
  request : requested new = requested old
  completed : new.state = .completed ↔ old.state = .completed

theorem SameJob.refl (job : CognitiveCommitJob) : SameJob job job := ⟨rfl, rfl, rfl, Iff.rfl⟩

theorem SameJob.commitHash {old new : CognitiveCommitJob} (same : SameJob old new) : new.commitHash = old.commitHash :=
  congrArg GitCommitAnalyze.commitHash same.request

/-- A change of the store that completes no job: at most one event, which
neither says that a commit was analyzed nor indexes one improperly. -/
structure Evolves (env : Env) (d e : CognitiveDb) : Prop where
  projects : e.projects = d.projects
  events : e.events = d.events ∨ ∃ projectId payload createdAt id,
    e.events.rows = d.events.rows ++ [newEvent env projectId payload (lastEvent d projectId) createdAt id] ∧
    ¬Misindexes d projectId payload ∧ payload.eventType ≠ "COMMIT_ANALYZED"
  snapshots : d.snapshots.rows ⊆ e.snapshots.rows
  jobs : ∀ job ∈ e.jobs.rows, ∃ old ∈ d.jobs.rows, SameJob old job
  kept : ∀ old ∈ d.jobs.rows, ∃ job ∈ e.jobs.rows, SameJob old job

section
variable {env : Env} {git : Git} {d e : CognitiveDb} {projectId commitHash : String}

theorem eventsOf_filter_append {event : CognitiveEvent} (rows : e.events.rows = d.events.rows ++ [event])
    (p : CognitiveEvent → Bool) :
    (e.eventsOf projectId).filter p =
      (d.eventsOf projectId).filter p ++ if event.projectId = projectId ∧ p event then [event] else [] := by
  unfold CognitiveDb.eventsOf
  rw [rows, List.filter_append, List.filter_append]
  congr 1
  by_cases own : event.projectId = projectId <;> by_cases holds : p event = true <;> simp [own, holds]

theorem Evolves.same_analyzed (evolves : Evolves env d e) (projectId commitHash : String) :
    analyzedEvents e projectId commitHash = analyzedEvents d projectId commitHash := by
  rcases evolves.events with same | ⟨project, payload, createdAt, id, rows, -, kind⟩
  · unfold analyzedEvents CognitiveDb.eventsOf
    rw [same]
  · unfold analyzedEvents
    rw [eventsOf_filter_append rows, if_neg, List.append_nil]
    simp [newEvent, draft, kind]

theorem Evolves.commits_cases (evolves : Evolves env d e) (projectId commitHash : String) :
    commitEvents e projectId commitHash = commitEvents d projectId commitHash ∨
    (commitEvents d projectId commitHash = [] ∧ (commitEvents e projectId commitHash).length ≤ 1) := by
  rcases evolves.events with same | ⟨project, payload, createdAt, id, rows, proper, -⟩
  · left
    unfold commitEvents CognitiveDb.eventsOf
    rw [same]
  · by_cases indexed : commitEvents d projectId commitHash = []
    · right
      refine ⟨indexed, ?_⟩
      unfold commitEvents at indexed ⊢
      rw [eventsOf_filter_append rows, indexed, List.nil_append]
      split <;> simp
    · left
      unfold commitEvents
      rw [eventsOf_filter_append rows, if_neg, List.append_nil]
      rintro ⟨own, here⟩
      simp only [newEvent, draft, Bool.and_eq_true, beq_iff_eq] at own here
      subst own
      exact proper ⟨here.1, commitHash, here.2, .inr indexed⟩

theorem Settled.evolves {job old : CognitiveCommitJob} (settled : Settled git d old commitHash)
    (evolves : Evolves env d e)
    (same : SameJob old job) : Settled git e job commitHash where
  resolved := by
    have before := settled.resolved
    unfold Cognitive.resolved at before ⊢
    rwa [evolves.projects, same.projectId, same.commitHash]
  created := by
    rw [same.projectId]
    rcases evolves.commits_cases old.projectId commitHash with kept | ⟨none, -⟩
    · rw [kept, settled.created]
    · have one := settled.created
      simp [none] at one
  snapshot := by
    obtain ⟨taken, member, own, ofCommit⟩ := settled.snapshot
    exact ⟨taken, evolves.snapshots member, own.trans same.projectId.symm, ofCommit⟩
  analyzed := by
    rw [evolves.same_analyzed, same.projectId, same.commitHash, settled.analyzed]

theorem QueueInv.evolves (inv : QueueInv git d) (evolves : Evolves env d e) : QueueInv git e where
  valid := by
    intro job member
    obtain ⟨old, inOld, same⟩ := evolves.jobs job member
    rw [same.request]
    exact inv.valid old inOld
  unique := by
    intro a inA b inB sameProject sameCommit
    obtain ⟨oldA, memberA, sameA⟩ := evolves.jobs a inA
    obtain ⟨oldB, memberB, sameB⟩ := evolves.jobs b inB
    have origin : oldA = oldB := inv.unique oldA memberA oldB memberB
      (sameA.projectId.symm.trans (sameProject.trans sameB.projectId))
      (sameA.commitHash.symm.trans (sameCommit.trans sameB.commitHash))
    have ids : a.id = b.id := by rw [sameA.id, sameB.id, origin]
    exact List.inj_on_of_nodup_map e.jobs.distinct inA inB ids
  single := by
    intro projectId commitHash
    rcases evolves.commits_cases projectId commitHash with same | ⟨-, one⟩
    · rw [same]
      exact inv.single projectId commitHash
    · exact one
  settled := by
    intro job member completed
    obtain ⟨old, inOld, same⟩ := evolves.jobs job member
    obtain ⟨commitHash, settled⟩ := inv.settled old inOld (same.completed.mp completed)
    exact ⟨commitHash, settled.evolves evolves same⟩
  pending := by
    intro projectId commitHash none
    rw [evolves.same_analyzed]
    refine inv.pending projectId commitHash fun old inOld ofProject ofCommit completed => ?_
    obtain ⟨job, member, same⟩ := evolves.kept old inOld
    exact none job member (same.projectId.trans ofProject) (same.commitHash.trans ofCommit)
      (same.completed.mpr completed)

/-- A job that was not completed is completed, and its event recorded, after
its commit was indexed and snapshotted. -/
theorem QueueInv.complete {job : CognitiveCommitJob} {taken : CognitiveSnapshot} {previous : Option CognitiveEvent}
    {now createdAt : Nat} {id : String} (inv : QueueInv git d) (member : job ∈ d.jobs.rows)
    (running : job.state ≠ .completed)
    (names : resolved git d.projects job = some commitHash) (created : commitEvents d job.projectId commitHash ≠ [])
    (snapshot : ∃ taken ∈ d.snapshots.rows, taken.projectId = job.projectId ∧ taken.commitHash = some commitHash)
    (projects : e.projects = d.projects) (snapshots : e.snapshots = d.snapshots)
    (events : e.events.rows = d.events.rows ++
      [newEvent env job.projectId (analyzedEvent job taken) previous createdAt id])
    (jobs : e.jobs = d.jobs.update job.id (finish now)) : QueueInv git e := by
  have sameCommits :
      ∀ projectId commitHash, commitEvents e projectId commitHash = commitEvents d projectId commitHash := by
    intro projectId commitHash
    unfold commitEvents
    rw [eventsOf_filter_append events, if_neg, List.append_nil]
    simp [newEvent, draft, analyzedEvent]
  have analyzed :
    ∀ projectId commitHash, analyzedEvents e projectId commitHash = analyzedEvents d projectId commitHash ++
      if job.projectId = projectId ∧ job.commitHash = commitHash then
        [newEvent env job.projectId (analyzedEvent job taken) previous createdAt id] else [] := by
    intro projectId commitHash
    unfold analyzedEvents
    rw [eventsOf_filter_append events]
    simp [newEvent, draft, analyzedEvent]
  -- The rows of the jobs: the one that was completed, and the others as they were.
  have atJob : d.jobs.find job.id = some job := find_of_mem member
  have origin : ∀ row ∈ e.jobs.rows, row = finish now job ∨ (row ∈ d.jobs.rows ∧ row.id ≠ job.id) := by
    intro row inRows
    rw [jobs] at inRows
    rcases mem_update_iff.mp inRows with old | ⟨old, found, rewritten⟩
    · exact .inr old
    · cases Option.some.inj (atJob.symm.trans found)
      exact .inl (rewritten.trans (rewriteRow_of_keeps rfl))
  have finished : finish now job ∈ e.jobs.rows := by
    rw [jobs]
    exact mem_update_iff.mpr (.inr ⟨job, atJob, (rewriteRow_of_keeps rfl).symm⟩)
  have others : ∀ row ∈ d.jobs.rows, row.id ≠ job.id → row ∈ e.jobs.rows := by
    intro row inRows different
    rw [jobs]
    exact mem_update_iff.mpr (.inl ⟨inRows, different⟩)
  have elsewhere :
      ∀ row ∈ d.jobs.rows, row.id ≠ job.id → ¬(job.projectId = row.projectId ∧ job.commitHash = row.commitHash) :=
    fun row inRows different same => different (by rw [inv.unique job member row inRows same.1 same.2])
  have none : analyzedEvents d job.projectId job.commitHash = [] :=
    inv.pending _ _ fun row inRows sameProject sameCommit => by
      rw [inv.unique row inRows job member sameProject sameCommit]
      exact running
  refine ⟨?_, ?_, ?_, ?_, ?_⟩
  · intro row inRows
    rcases origin row inRows with rfl | ⟨old, -⟩
    · exact inv.valid job member
    · exact inv.valid row old
  · intro a inA b inB sameProject sameCommit
    rcases origin a inA with rfl | ⟨oldA, otherA⟩
    · rcases origin b inB with rfl | ⟨oldB, otherB⟩
      · rfl
      · exact absurd ⟨sameProject, sameCommit⟩ (elsewhere b oldB otherB)
    · rcases origin b inB with rfl | ⟨oldB, otherB⟩
      · exact absurd ⟨sameProject.symm, sameCommit.symm⟩ (elsewhere a oldA otherA)
      · exact inv.unique a oldA b oldB sameProject sameCommit
  · intro projectId commitHash
    rw [sameCommits]
    exact inv.single projectId commitHash
  · intro row inRows completed
    rcases origin row inRows with rfl | ⟨old, other⟩
    · refine ⟨commitHash, ?_, ?_, ?_, ?_⟩
      · rw [projects]
        exact names
      · have most := inv.single job.projectId commitHash
        have least := List.length_pos_iff.mpr created
        change (commitEvents e job.projectId commitHash).length = 1
        rw [sameCommits]
        omega
      · rw [snapshots]
        exact snapshot
      · change (analyzedEvents e job.projectId job.commitHash).length = 1
        rw [analyzed, none, if_pos ⟨rfl, rfl⟩]
        rfl
    · obtain ⟨hash, settled⟩ := inv.settled row old completed
      refine ⟨hash, ?_, ?_, ?_, ?_⟩
      · rw [projects]
        exact settled.resolved
      · rw [sameCommits]
        exact settled.created
      · rw [snapshots]
        exact settled.snapshot
      · rw [analyzed, if_neg (elsewhere row old other), List.append_nil]
        exact settled.analyzed
  · intro projectId commitHash unfinished
    rw [analyzed, if_neg, List.append_nil]
    · refine inv.pending projectId commitHash fun row inRows sameProject sameCommit => ?_
      by_cases here : row.id = job.id
      · rw [List.inj_on_of_nodup_map d.jobs.distinct inRows member here]
        exact running
      · exact unfinished row (others row inRows here) sameProject sameCommit
    · rintro ⟨sameProject, sameCommit⟩
      exact unfinished _ finished sameProject sameCommit rfl

end

end Cognitive
end SacmRuntime
