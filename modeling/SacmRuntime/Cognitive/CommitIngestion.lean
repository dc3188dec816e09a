import Mathlib.Data.List.Dedup
import SacmRuntime.Cognitive.CommitRecovery

namespace SacmRuntime
namespace Cognitive
open Session CommitQueue

/-- How many identifiers the ingestion of a commit draws. -/
def draws (env : Env) (payload : CommitIngest) : Nat :=
  match commitFacts env payload with
  | .ok facts => (commitRelations payload.commitHash facts payload.dependencies).length + 3
  | .error _ => 0

/-- What `ingest_commit` can end with. A clash in the store is possible only
for a new commit whose relations repeat one another. -/
def IngestEnds (env : Env) (projectId : String) (payload : CommitIngest) (n : Nat) (s : Session CognitiveDb) :
    Except Fault Ingested × Session CognitiveDb → Prop
  | (.ok result, t) => Ingestion env projectId payload.commitHash s result t ∧ Fresh n t
  | (.error .stopped, t) => Relation.ReflTransGen (Evolves env) s.working t.committed
  | (.error (.raised error), t) =>
    t.committed = s.committed ∧ Relation.ReflTransGen (Evolves env) s.working t.working ∧
      t.working.jobs = s.working.jobs ∧
      ((commitEvents s.working projectId payload.commitHash = [] → Distinct env projectId payload) → Clashless error)

section
variable {env : Env} {stop : Option CommitPoint} {projectId commitHash : String} {payload : CommitIngest} {n : Nat}
  {d : CognitiveDb} {s t u : Session CognitiveDb} {event : CognitiveEvent}

theorem ingestEnds_refused {error : Error} (clashless : Clashless error) :
    IngestEnds env projectId payload n s (.error (.raised error), s) :=
  ⟨rfl, .refl, rfl, fun _ => clashless⟩

theorem clashless_other (kind message : String) : Clashless (.other kind message) := by
  intro message same
  cases same

theorem snapshot_of_exists (named : commitHash ≠ "")
    (stored : ∃ taken ∈ d.snapshots.rows, taken.projectId = projectId ∧ taken.commitHash = some commitHash) :
    ∃ taken, snapshot d projectId none (some commitHash) = some taken := by
  obtain ⟨taken, member, own, ofCommit⟩ := stored
  unfold snapshot given
  rw [Option.filter_none, Option.filter_some, if_pos (by simpa using named)]
  simp only
  cases best : ((d.snapshots.rows.filter fun s => s.projectId == projectId).filter
      fun s => s.commitHash == some commitHash).argmax CognitiveSnapshot.createdAt with
  | some found => exact ⟨found, rfl⟩
  | none =>
    have listed : taken ∈ (d.snapshots.rows.filter fun s => s.projectId == projectId).filter
        fun s => s.commitHash == some commitHash := by
      simp [List.mem_filter, member, own, ofCommit]
    rw [List.argmax_eq_none.mp best] at listed
    exact absurd listed List.not_mem_nil

theorem ingestEnds_indexed (clean : s.committed = s.working) (fresh : Fresh n s) (named : payload.commitHash ≠ "")
    (indexed : commitEvents s.working projectId payload.commitHash ≠ []) :
    IngestEnds env projectId payload n s
      (.ok ⟨event, snapshot s.working projectId none (some payload.commitHash), true⟩, s) := by
  refine ⟨⟨clean, .refl, rfl, rfl, indexed, fun stored => ?_⟩, fresh⟩
  obtain ⟨taken, found⟩ := snapshot_of_exists named (stored indexed)
  obtain ⟨member, own, ofCommit⟩ := snapshot_for_commit found named
  exact ⟨taken, found, member, own, ofCommit⟩

variable {facts : CommitFacts} {rows : List CognitiveRelation}

theorem evolves_of_commit (named : payload.commitHash ≠ "")
    (unindexed : commitEvents s.working projectId payload.commitHash = [])
    (recorded : Recorded env projectId (commitEvent payload facts) s event t)
    (related : Related projectId event t rows u) :
    Evolves env s.working u.working ∧ u.working.jobs = s.working.jobs ∧ u.working.projects = s.working.projects := by
  have frame := related.working
  rw [recorded.working] at frame
  refine ⟨evolves_of_history ?_ ?_
    (.inr ⟨projectId, commitEvent payload facts, event.createdAt, event.id, ?_, ?_, ?_⟩) ?_,
    ?_, ?_⟩
  · rw [frame]
  · rw [frame]
  · rw [frame]
    exact recorded.appended.trans (congrArg (_ ++ [·]) recorded.built)
  · rintro ⟨-, hash, same, nameless | again⟩
    · cases same
      exact named nameless
    · cases same
      exact again unindexed
  · simp [commitEvent]
  · rw [frame]
    exact List.Subset.refl _
  · rw [frame]
  · rw [frame]

theorem indexed_of_recorded (recorded : Recorded env projectId (commitEvent payload facts) s event t)
    (related : Related projectId event t rows u) :
    commitEvents u.working projectId payload.commitHash ≠ [] := by
  have listed : event ∈ u.working.events.rows := by
    rw [related.working]
    change event ∈ t.working.events.rows
    rw [recorded.appended]
    simp
  have own : event.projectId = projectId := by rw [recorded.built]; rfl
  have kind : event.eventType = "COMMIT_CREATED" := by rw [recorded.built]; rfl
  have ofCommit : event.commitHash = some payload.commitHash := by rw [recorded.built]; rfl
  apply List.ne_nil_of_mem (a := event)
  simp [commitEvents, CognitiveDb.eventsOf, List.mem_filter, listed, own, kind, ofCommit]

theorem edge_new (fresh : Fresh (n + 1) s) (recorded : Recorded env projectId (commitEvent payload facts) s event t)
    (drawn : event.id = s.uuids 0) (payloads : List (Except Error CognitiveRelationCreate)) :
    ∀ edge ∈ edgesOf env projectId event payloads, edge ∉ t.working.relations.rows.map CognitiveRelation.edge := by
  intro edge member stored
  obtain ⟨row, inRows, same⟩ := List.mem_map.mp stored
  obtain ⟨payload, -, built⟩ := List.mem_filterMap.mp member
  have ofEvent : row.createdEventId = event.id := by
    cases shape : payload.toOption with
    | none => simp [shape] at built
    | some created =>
      simp only [shape, Option.map_some, Option.some.injEq] at built
      have columns := same.trans built.symm
      simp only [CognitiveRelation.edge, edgeOf, newRelation, List.cons.injEq] at columns
      exact columns.2.2.2.2.2.2.1
  have used : event.id ∈ usedIds s.working := by
    rw [recorded.working] at inRows
    have listed := List.mem_map_of_mem (f := CognitiveRelation.createdEventId) inRows
    rw [ofEvent] at listed
    simp only [usedIds, List.mem_append]
    exact .inl (.inl (.inr listed))
  rw [drawn] at used
  exact fresh.unused 0 (by omega) used

theorem short_commitHash (valid : payload.valid = true) : (some payload.commitHash).all (·.length ≤ 128) = true := by
  simp only [CommitIngest.valid, Bool.and_eq_true, decide_eq_true_eq] at valid
  simp [valid.1.1.1.1.1.1.1.1.1.1.1.1.1.2]

theorem Evolves.stays_indexed {e : CognitiveDb} (evolves : Evolves env d e)
    (indexed : commitEvents d projectId commitHash ≠ []) : commitEvents e projectId commitHash ≠ [] := by
  rcases evolves.commits_cases projectId commitHash with same | ⟨none, -⟩
  · rwa [same]
  · exact absurd none indexed

theorem outcome_recordEvent_invalid {β : Type} {P : Except Fault β × Session CognitiveDb → Prop}
    {payload : CognitiveEventCreate} {f : CognitiveEvent → Service β} (invalid : ¬payload.valid = true)
    (raised : P (.error (.raised (validationError "CognitiveEventCreateV1")), s)) :
    P ((recordEvent env stop projectId payload false >>= f) s) := by
  unfold recordEvent appendEvent checkEvent
  rw [if_neg invalid]
  exact raised

theorem ingestCommit_outcome (clean : s.committed = s.working) (fresh : Fresh (n + draws env payload) s)
    (valid : payload.valid = true) :
    IngestEnds env projectId payload n s (ingestCommit env stop projectId payload s) := by
  have named := CommitIngest.commitHash_ne valid
  unfold ingestCommit
  refine outcome_project (ingestEnds_refused (clashless_other _ _)) fun found known => ?_
  rw [bind_view]
  cases first : (commitEvents s.working projectId payload.commitHash).head? with
  | some event =>
    have indexed : commitEvents s.working projectId payload.commitHash ≠ [] := by
      intro none
      rw [none] at first
      cases first
    exact ingestEnds_indexed clean (fresh.mono (by omega)) named indexed
  | none =>
    have unindexed := List.head?_eq_none_iff.mp first
    refine outcome_ofExcept (fun error failed => ingestEnds_refused (clashless_commitFacts failed)) fun facts read => ?_
    have enough : draws env payload = (commitRelations payload.commitHash facts payload.dependencies).length + 3 := by
      unfold draws
      rw [read]
    rw [enough] at fresh
    by_cases within : (commitEvent payload facts).valid = true
    · have first :=
        fresh.mono (n := n + 2 + (commitRelations payload.commitHash facts payload.dependencies).length + 1)
        (by omega)
      refine outcome_recordEvent_fresh first within rfl known fun event t recorded drawn fresher => ?_
      refine outcome_addRelations_fresh (n := n + 2) fresher ?_
        (fun error member => clashless_commitRelations member) (fun error rows u related clashless => ?_)
        fun rows u related freshest => ?_
      · rw [recorded.appended]
        simp
      · obtain ⟨evolves, jobs, -⟩ := evolves_of_commit named unindexed recorded related
        refine ⟨related.committed.trans recorded.committed, .single evolves, jobs, fun distinct => ?_⟩
        exact clashless (distinct unindexed facts event read)
          (edge_new (fresh.mono (n := n + 1) (by omega)) recorded drawn _)
      · obtain ⟨evolves, jobs, projects⟩ := evolves_of_commit named unindexed recorded related
        have indexed := indexed_of_recorded recorded related
        obtain ⟨_, -, time⟩ := timeForCommit_indexed indexed named
        have still : u.working.projects.find projectId = some found := by rw [projects, known]
        refine outcome_save (fun _ => .single evolves) ?_
        refine outcome_createSnapshot_fresh (freshest.same rfl (List.Subset.refl _)) still
          time (short_commitHash valid) (fun taken v taking => ?_) fun taken v taking last => ?_
        · change Relation.ReflTransGen (Evolves env) s.working v.committed
          rw [taking.clean]
          exact .tail (.single evolves) taking.evolves
        · refine ⟨⟨taking.clean, .tail (.single evolves) taking.evolves, taking.jobs.trans jobs,
            taking.evolves.projects.trans projects, ?_,
              fun _ => ⟨taken, rfl, taking.member, taking.own, taking.ofCommit⟩⟩, last⟩
          exact taking.evolves.stays_indexed indexed
    · exact outcome_recordEvent_invalid within (ingestEnds_refused (clashless_other _ _))

end

/-- `str.upper` leaves the names of the node types as they are. -/
def Env.Capitals (env : Env) : Prop :=
  ∀ word ∈ ["COMMIT", "DECISION", "AGENT", "SKILL", "FILE", "TEST"], env.upper word = word

/-- The relations of a commit without dependencies, before they are checked:
the target type of each group, with the ends of its relations. -/
def commitGroups (commitHash : String) (facts : CommitFacts) : List (String × List (String × String)) :=
  [("COMMIT", facts.requirements.map (·, commitHash)), ("DECISION", facts.decisions.map (commitHash, ·)),
    ("AGENT", (given facts.agentId).toList.map (commitHash, ·)), ("SKILL", facts.skills.map (commitHash, ·)),
    ("FILE", facts.files.map (commitHash, ·)), ("TEST", facts.tests.map (commitHash, ·))]

def edgeEnds (edge : List String) : String × String × String :=
  (edge.getD 3 "", edge.getD 2 "", edge.getD 4 "")

section
variable {env : Env} {projectId commitHash : String} {payload : CommitIngest} {facts : CommitFacts}

def commitDrafts (commitHash : String) (facts : CommitFacts) : List CognitiveRelationCreate :=
  let relate := fun sourceType sourceId targetType targetId relation =>
    (⟨sourceType, sourceId, targetType, targetId, relation, some commitHash, .obj []⟩ : CognitiveRelationCreate)
  facts.requirements.map (fun requirement => relate "REQUIREMENT" requirement "COMMIT" commitHash "IMPLEMENTED_BY") ++
  facts.decisions.map (fun decision => relate "COMMIT" commitHash "DECISION" decision "BASED_ON") ++
  (given facts.agentId).toList.map (fun agentId => relate "COMMIT" commitHash "AGENT" agentId "CREATED_BY") ++
  facts.skills.map (fun skill => relate "COMMIT" commitHash "SKILL" skill "USED_SKILL") ++
  facts.files.map (fun path => relate "COMMIT" commitHash "FILE" path "MODIFIES") ++
  facts.tests.map (fun test => relate "COMMIT" commitHash "TEST" test "VALIDATED_BY")

theorem commitRelations_drafts : commitRelations commitHash facts
    [] = (commitDrafts commitHash facts).map checkRelation := by
  simp only [commitRelations, commitDrafts, List.map_append, List.map_map, List.map_nil, List.append_nil]
  rfl

theorem commitDrafts_ends (capitals : env.Capitals) (event : CognitiveEvent) :
    (commitDrafts commitHash facts).map (edgeEnds ∘ edgeOf env projectId event) =
      (commitGroups commitHash facts).flatMap fun group => group.2.map (Prod.mk group.1) := by
  have commit := capitals "COMMIT" (by simp)
  have decision := capitals "DECISION" (by simp)
  have agent := capitals "AGENT" (by simp)
  have skill := capitals "SKILL" (by simp)
  have file := capitals "FILE" (by simp)
  have test := capitals "TEST" (by simp)
  simp [commitDrafts, commitGroups, edgeEnds, edgeOf, newRelation, CognitiveRelation.edge, Function.comp_def,
    commit, decision,
    agent, skill, file, test]

theorem nodup_sortedSet (items : List String) : (sortedSet items).Nodup :=
  (List.perm_insertionSort _ _).nodup_iff.mpr (List.nodup_dedup items)

theorem edgesOf_checked (event : CognitiveEvent) (drafts : List CognitiveRelationCreate) :
    (edgesOf env projectId event (drafts.map checkRelation)).Sublist (drafts.map (edgeOf env projectId event)) := by
  induction drafts with
  | nil => exact .slnil
  | cons draft rest ih =>
    unfold edgesOf at ih ⊢
    rw [List.map_cons, List.map_cons, List.filterMap_cons]
    unfold checkRelation
    split
    · exact ih.cons _
    · rename_i edge built
      have same : edge = edgeOf env projectId event draft := by
        split at built
        · simpa [Except.toOption] using built.symm
        · simp [Except.toOption] at built
      rw [same]
      exact ih.cons_cons _

theorem nodup_commitGroups (requirements : facts.requirements.Nodup) (decisions : facts.decisions.Nodup)
    (skills : facts.skills.Nodup) (files : facts.files.Nodup) (tests : facts.tests.Nodup) :
    ((commitGroups commitHash facts).flatMap fun group => group.2.map (Prod.mk group.1)).Nodup := by
  have agent : (given facts.agentId).toList.Nodup := by
    cases given facts.agentId <;> simp
  have second : ∀ items : List String, items.Nodup → (items.map (Prod.mk commitHash)).Nodup :=
    fun items distinct => distinct.map (Prod.mk_right_injective commitHash)
  have first : (facts.requirements.map (·, commitHash)).Nodup :=
    requirements.map (Prod.mk_left_injective commitHash)
  rw [List.nodup_flatMap]
  constructor
  · intro group member
    apply List.Nodup.map (Prod.mk_right_injective group.1)
    simp only [commitGroups, List.mem_cons, List.not_mem_nil, or_false] at member
    rcases member with rfl | rfl | rfl | rfl | rfl | rfl
    · exact first
    · exact second _ decisions
    · exact second _ agent
    · exact second _ skills
    · exact second _ files
    · exact second _ tests
  · -- The groups differ in their target types.
    have apart : ((commitGroups commitHash facts).map Prod.fst).Nodup := by
      simp [commitGroups]
    refine (List.pairwise_map.mp apart).imp fun {a b} different => ?_
    intro item inA inB
    obtain ⟨_, -, rfl⟩ := List.mem_map.mp inA
    obtain ⟨_, -, same⟩ := List.mem_map.mp inB
    exact different (congrArg Prod.fst same).symm

theorem distinct_of_nodup (capitals : env.Capitals) (plain : payload.dependencies = [])
    (listed : ∀ facts, commitFacts env payload = .ok facts → facts.files.Nodup ∧ facts.tests.Nodup) :
    Distinct env projectId payload := by
  intro facts event read
  obtain ⟨files, tests⟩ := listed facts read
  have merged : facts.requirements.Nodup ∧ facts.decisions.Nodup ∧ facts.skills.Nodup := by
    unfold commitFacts at read
    cases paths : safePaths payload.files with
    | error found => rw [paths] at read; cases read
    | ok files =>
      rw [paths] at read
      cases others : safePaths payload.tests with
      | error found => rw [others] at read; cases read
      | ok tests =>
        rw [others] at read
        cases read
        exact ⟨nodup_sortedSet _, nodup_sortedSet _, nodup_sortedSet _⟩
  rw [plain, commitRelations_drafts]
  refine (edgesOf_checked event _).nodup (List.Nodup.of_map edgeEnds ?_)
  rw [List.map_map, commitDrafts_ends capitals]
  exact nodup_commitGroups merged.1 merged.2.1 merged.2.2 files tests

end

end Cognitive
end SacmRuntime
