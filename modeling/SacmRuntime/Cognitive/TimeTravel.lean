import SacmRuntime.Cognitive.History

namespace SacmRuntime
namespace Cognitive
open Session

/-- The state at a commit, recomputed from the relations up to its time. -/
def reconstructed (d : CognitiveDb) (projectId commitHash : String) : Except Error CognitiveState :=
  (timeForCommit d projectId (some commitHash)).map (state d projectId)

/-- What operations that index commits by ingesting them can lead to. -/
abbrev Travel (env : Env) : CognitiveDb → CognitiveDb → Prop := Path (Operation.after env) fun _ _ op => op.1.Ingests

def Rising (d : CognitiveDb) (projectId : String) : Prop :=
  (d.eventsOf projectId).Pairwise fun a b => a.createdAt < b.createdAt

section
variable {env : Env} {d e : CognitiveDb} {projectId commitHash : String}

theorem Travel.advances (travel : Travel env d e) : Advances env false d e := by
  induction travel with
  | start => exact .refl
  | next before op supply ingests ih => exact ih.trans (Operation.after_advances fun _ => ingests)

theorem Transaction.eventsOf_prefix {direct : Bool} (transaction : Transaction env direct d e) (projectId : String) :
    d.eventsOf projectId <+: e.eventsOf projectId := by
  rcases transaction.eventsOf projectId with same | ⟨payload, createdAt, id, appended⟩
  · exact ⟨[], (List.append_nil _).trans same.symm⟩
  · rw [appended]
    exact List.prefix_append _ _

theorem Rising.before (rising : Rising e projectId) (grown : d.eventsOf projectId <+: e.eventsOf projectId) :
    Rising d projectId := List.Pairwise.sublist grown.sublist rising

theorem Advances.eventsOf_prefix {direct : Bool} (advances : Advances env direct d e) (projectId : String) :
    d.eventsOf projectId <+: e.eventsOf projectId := by
  induction advances with
  | refl => exact List.prefix_rfl
  | tail _ last ih => exact ih.trans (last.eventsOf_prefix projectId)

theorem Transaction.same_commitEvents (transaction : Transaction env false d e)
    (barred : commitHash = "" ∨ commitEvents d projectId commitHash ≠ []) :
    commitEvents e projectId commitHash = commitEvents d projectId commitHash := by
  have appended : ∀ project payload createdAt id, ¬Misindexes d project payload →
      e.events.rows = d.events.rows ++ [newEvent env project payload (lastEvent d project) createdAt id] →
      commitEvents e projectId commitHash = commitEvents d projectId commitHash := by
    intro project payload createdAt id proper rows
    have none : (([newEvent env project payload (lastEvent d project) createdAt id].filter
        fun event => event.projectId == projectId).filter fun event =>
          event.eventType == "COMMIT_CREATED" && event.commitHash == some commitHash) = [] := by
      rw [List.filter_filter, List.filter_eq_nil_iff]
      intro event member
      cases List.mem_singleton.mp member
      simp only [newEvent, draft, Bool.and_eq_true, beq_iff_eq]
      rintro ⟨⟨kind, same⟩, rfl⟩
      exact proper ⟨kind, commitHash, same, barred⟩
    unfold commitEvents CognitiveDb.eventsOf
    rw [rows, List.filter_append, List.filter_append, none, List.append_nil]
  cases transaction with
  | evidence project payload createdAt id _ events _ _ _ new =>
    exact appended project payload createdAt id (new rfl) events
  | snapshot project payload createdAt id _ _ events _ _ _ _ _ kind =>
    exact appended project payload createdAt id (not_misindexes (by simp [kind])) events
  | other events =>
    unfold commitEvents CognitiveDb.eventsOf
    rw [events]

theorem timeForCommit_ok {asOf : Option Nat} (time : timeForCommit d projectId (some commitHash) = .ok asOf)
    (named : commitHash ≠ "") : ∃ event ∈ commitEvents d projectId commitHash, asOf = some event.createdAt := by
  unfold timeForCommit given at time
  rw [Option.filter_some, if_pos (by simpa using named)] at time
  simp only at time
  split at time
  · cases time
  · rename_i event found
    cases time
    exact ⟨event, List.argmax_mem found, rfl⟩

theorem timeForCommit_indexed (indexed : commitEvents d projectId commitHash ≠ []) (named : commitHash ≠ "") :
    ∃ event ∈ commitEvents d projectId commitHash, timeForCommit d projectId (some commitHash) = .ok
      (some event.createdAt) := by
  have found : ∃ event, (commitEvents d projectId commitHash).argmax CognitiveEvent.createdAt = some event := by
    cases best : (commitEvents d projectId commitHash).argmax CognitiveEvent.createdAt with
    | none => exact absurd (List.argmax_eq_none.mp best) indexed
    | some event => exact ⟨event, rfl⟩
  obtain ⟨event, best⟩ := found
  refine ⟨event, List.argmax_mem best, ?_⟩
  unfold timeForCommit given
  rw [Option.filter_some, if_pos (by simpa using named)]
  simp only [best]

theorem commitEvents_subset : commitEvents d projectId commitHash ⊆ d.eventsOf projectId :=
  fun _ member => List.mem_of_mem_filter member

theorem Transaction.same_relations {past : CognitiveEvent} (transaction : Transaction env false d e)
    (rising : Rising e projectId) (earlier : past ∈ d.eventsOf projectId) :
    relations e projectId (some past.createdAt) = relations d projectId (some past.createdAt) := by
  unfold relations
  congr 1
  cases transaction with
  | evidence project payload createdAt id rows events added within =>
    rw [added, List.filter_append, List.append_right_eq_self, List.filter_eq_nil_iff]
    intro row member
    obtain ⟨ofProject, valid⟩ := within row member
    simp only [Option.all_some, Bool.and_eq_true, beq_iff_eq, decide_eq_true_eq, not_and, Nat.not_le]
    intro own
    rw [ofProject] at own
    subst own
    -- The relation dates from the new event, which the project has after the past one.
    have appended : e.eventsOf project =
        d.eventsOf project ++ [newEvent env project payload (lastEvent d project) createdAt id] := by
      unfold CognitiveDb.eventsOf
      rw [events, List.filter_append]
      simp [newEvent, draft]
    unfold Rising at rising
    rw [appended] at rising
    have later := (List.pairwise_append.mp rising).2.2 past earlier _ List.mem_cons_self
    rw [valid]
    exact later
  | snapshot _ _ _ _ _ _ _ same => rw [same]
  | other _ same => rw [same]

theorem Transaction.same_state (transaction : Transaction env false d e) (rising : Rising e projectId)
    (named : commitHash ≠ "") (indexed : commitEvents d projectId commitHash ≠ []) :
    reconstructed e projectId commitHash = reconstructed d projectId commitHash := by
  obtain ⟨past, member, time⟩ := timeForCommit_indexed indexed named
  have sameTime : timeForCommit e projectId (some commitHash) = timeForCommit d projectId (some commitHash) := by
    unfold timeForCommit given
    rw [Option.filter_some, if_pos (by simpa using named)]
    simp only [transaction.same_commitEvents (.inr indexed)]
  unfold reconstructed
  rw [sameTime, time]
  simp only [Except.map, state]
  rw [transaction.same_relations rising (commitEvents_subset member)]

theorem Advances.indexed (advances : Advances env false d e) (indexed : commitEvents d projectId commitHash ≠ []) :
    commitEvents e projectId commitHash ≠ [] := by
  induction advances with
  | refl => exact indexed
  | tail _ last ih => rwa [last.same_commitEvents (.inr ih)]

theorem Advances.same_state (advances : Advances env false d e) (rising : Rising e projectId) (named : commitHash ≠ "")
    (indexed : commitEvents d projectId commitHash ≠ []) :
    reconstructed e projectId commitHash = reconstructed d projectId commitHash := by
  induction advances with
  | refl => rfl
  | tail before last ih =>
    rw [last.same_state rising named (Advances.indexed before indexed)]
    exact ih (rising.before (last.eventsOf_prefix projectId))

/-- Every snapshot taken for the commit has the state that is recomputed for it. -/
def Faithful (d : CognitiveDb) (projectId commitHash : String) : Prop :=
  ∀ taken ∈ d.snapshots.rows, taken.projectId = projectId → taken.commitHash = some commitHash →
    commitEvents d projectId commitHash ≠ [] ∧ reconstructed d projectId commitHash = .ok taken.state

theorem Faithful.step (faithful : Faithful d projectId commitHash) (transaction : Transaction env false d e)
    (rising : Rising e projectId) (named : commitHash ≠ "") : Faithful e projectId commitHash := by
  have kept : ∀ taken : CognitiveSnapshot, commitEvents d projectId commitHash ≠ [] →
      reconstructed d projectId commitHash = .ok taken.state →
      commitEvents e projectId commitHash ≠ [] ∧ reconstructed e projectId commitHash = .ok taken.state := by
    intro taken indexed same
    rw [transaction.same_commitEvents (.inr indexed), transaction.same_state rising named indexed]
    exact ⟨indexed, same⟩
  intro taken member own commit
  have older : taken ∈ d.snapshots.rows → _ := fun old =>
    kept taken (faithful taken old own commit).1 (faithful taken old own commit).2
  cases transaction with
  | evidence _ _ _ _ _ _ _ _ same => exact older (same ▸ member)
  | other _ _ same => exact older (same ▸ member)
  | snapshot project payload createdAt id new asOf _ _ snapshots ofProject time state =>
    rw [snapshots] at member
    rcases List.mem_append.mp member with old | isNew
    · exact older old
    · cases List.mem_singleton.mp isNew
      rw [own] at ofProject
      subst ofProject
      rw [commit] at time
      obtain ⟨past, inCommit, -⟩ := timeForCommit_ok time named
      refine kept taken (List.ne_nil_of_mem inCommit) ?_
      unfold reconstructed
      rw [time, state]
      rfl

theorem Advances.faithful (advances : Advances env false d e) (rising : Rising e projectId) (named : commitHash ≠ "")
    (first : Faithful d projectId commitHash) : Faithful e projectId commitHash := by
  induction advances with
  | refl => exact first
  | tail _ last ih => exact (ih (rising.before (last.eventsOf_prefix projectId))).step last rising named

theorem Advances.named (advances : Advances env false d e) (first : commitEvents d projectId "" = []) :
    commitEvents e projectId "" = [] := by
  induction advances with
  | refl => exact first
  | tail _ last ih => rw [last.same_commitEvents (.inl rfl), ih]

theorem snapshot_for_commit {taken : CognitiveSnapshot}
    (found : snapshot d projectId none (some commitHash) = some taken)
    (named : commitHash ≠ "") :
    taken ∈ d.snapshots.rows ∧ taken.projectId = projectId ∧ taken.commitHash = some commitHash := by
  unfold snapshot given at found
  rw [Option.filter_none, Option.filter_some, if_pos (by simpa using named)] at found
  have member := List.argmax_mem found
  simp only [List.mem_filter, beq_iff_eq] at member
  exact ⟨member.1.1, member.1.2, member.2⟩

/-- Whatever follows, the state at an indexed commit stays what it is, every
snapshot taken for the commit has it, and `state_at_commit` answers it. -/
theorem time_travel_stable {projects : Table CognitiveProject} (history : Travel env (.initial projects) d)
    (later : Travel env d e) (rising : Rising e projectId) (indexed : commitEvents d projectId commitHash ≠ []) :
    (∃ state, reconstructed d projectId commitHash = .ok state) ∧
    reconstructed e projectId commitHash = reconstructed d projectId commitHash ∧
    (∀ taken ∈ e.snapshots.rows, taken.projectId = projectId → taken.commitHash = some commitHash →
      reconstructed e projectId commitHash = .ok taken.state) ∧
    stateAtCommit e projectId commitHash = reconstructed e projectId commitHash := by
  have named : commitHash ≠ "" := by
    rintro rfl
    exact indexed (history.advances.named rfl)
  have fresh : Faithful (.initial projects) projectId commitHash := fun _ member => absurd member List.not_mem_nil
  have faithful : Faithful e projectId commitHash :=
    later.advances.faithful rising named (history.advances.faithful
      (rising.before (later.advances.eventsOf_prefix projectId)) named fresh)
  refine ⟨?_, later.advances.same_state rising named indexed,
    fun taken member own commit => (faithful taken member own commit).2, ?_⟩
  · obtain ⟨past, -, time⟩ := timeForCommit_indexed indexed named
    exact ⟨state d projectId (some past.createdAt), by unfold reconstructed; rw [time]; rfl⟩
  · unfold stateAtCommit
    cases found : snapshot e projectId none (some commitHash) with
    | none => rfl
    | some taken =>
      obtain ⟨member, own, commit⟩ := snapshot_for_commit found named
      rw [(faithful taken member own commit).2]

end

namespace TravelSample

open HistorySample (env projects)

/-- What the clock reads and which identifiers are drawn during the `n`-th request. -/
def supply (n : Nat) : Supply :=
  ⟨fun k => 100 * n + k, fun k => String.ofList (List.replicate (n + 1) 'x' ++ List.replicate k 'y'), fun _ => ""⟩

def first : List ((Operation × Option CommitPoint) × Supply) :=
  [((.ingestCommit "project" { commitHash := "a82f91c", requirements := ["REQ-184"], files := ["src/auth.py"] }, none),
    supply 0)]

/-- Another commit, a relation and a snapshot of the first commit follow. -/
def second : List ((Operation × Option CommitPoint) × Supply) :=
  [((.ingestCommit "project" { commitHash := "b92f01d", requirements := ["REQ-191"], files := ["src/oidc.py"] }, none),
      supply 1),
    ((.addRelation "project" ⟨"FILE", "src/auth.py", "SERVICE", "auth", "PART_OF", none, .obj []⟩ none, none),
      supply 2),
    ((.createSnapshot "project" (some "a82f91c") "MANUAL" none, none), supply 3)]

def store (requests : List ((Operation × Option CommitPoint) × Supply)) : CognitiveDb :=
  Path.storeAfter (Operation.after env) (.initial projects) requests

theorem history : Travel env (.initial projects) (store first) := by
  refine Path.of_requests (fun request member d => ?_) .start
  cases List.mem_singleton.mp member
  change CommitIngest.valid _ = true
  decide +kernel

theorem later : Travel env (store first) (store (first ++ second)) := by
  unfold store
  rw [Path.storeAfter_append]
  refine Path.of_requests (fun request member d => ?_) .start
  simp only [second, List.mem_cons, List.not_mem_nil, or_false] at member
  rcases member with rfl | rfl | rfl
  · change CommitIngest.valid _ = true
    decide +kernel
  · trivial
  · trivial

theorem rising : Rising (store (first ++ second)) "project" := by
  have times :
      ((store (first ++ second)).eventsOf "project").map CognitiveEvent.createdAt = [0, 3, 100, 103, 200, 302] := by
    decide +kernel
  unfold Rising
  rw [← List.pairwise_map, times]
  decide

theorem indexed : commitEvents (store first) "project" "a82f91c" ≠ [] := by
  have some : ((commitEvents (store first) "project" "a82f91c").map CognitiveEvent.createdAt) = [0] := by decide +kernel
  intro none
  rw [none] at some
  cases some

end TravelSample

open TravelSample in
/-- Three later requests leave the state at the first commit as it was. -/
theorem time_travel_stable_sample :
    (∃ state, reconstructed (store first) "project" "a82f91c" = .ok state) ∧
    reconstructed (store (first ++ second)) "project" "a82f91c" = reconstructed (store first) "project" "a82f91c" := by
  obtain ⟨found, same, -⟩ := time_travel_stable history later rising indexed
  exact ⟨found, same⟩

end Cognitive
end SacmRuntime
