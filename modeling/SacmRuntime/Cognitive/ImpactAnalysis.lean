import SacmRuntime.Cognitive.CommitIngestion
import SacmRuntime.Lib.BreadthFirst

namespace SacmRuntime
open BreadthFirst

/-- A node of the provenance graph: its kind and its identifier. -/
abbrev Node : Type := String × String

def CognitiveRelation.left (r : CognitiveRelation) : Node := (r.sourceType, r.sourceId)

def CognitiveRelation.right (r : CognitiveRelation) : Node := (r.targetType, r.targetId)

namespace Cognitive

structure SetOrder where
  list : List Node → List Node
  perm : ∀ nodes, (list nodes).Perm nodes

/-- `ImpactAnalysisV1`. -/
structure ImpactAnalysis where
  projectId : String
  file : String
  affectedFiles : List String
  affectedRequirements : List String
  affectedTests : List String
  affectedServices : List String
  architecturalDecisions : List String
  evidence : List CognitiveRelation

/-- `adjacent[node]`. -/
def adjacent (relations : List CognitiveRelation) (node : Node) : List Node :=
  (relations.flatMap fun edge =>
    (if edge.left = node then [edge.right] else []) ++
      if edge.right = node then [edge.left] else []).dedup

/-- `evidence[node]`. -/
def evidenceOf (relations : List CognitiveRelation) (node : Node) : List CognitiveRelation :=
  relations.flatMap fun edge =>
    (if edge.left = node then [edge] else []) ++
      if edge.right = node then [edge] else []

/-- `seen` and `queue`. -/
structure ImpactSearch where
  seen : List Node
  queue : List (Node × Nat)

def lookAt (depth : Nat) (s : ImpactSearch) (neighbor : Node) : ImpactSearch :=
  if neighbor ∈ s.seen then s
  else { seen := s.seen ++ [neighbor], queue := s.queue ++ [(neighbor, depth + 1)] }

/-- `while queue`, for so many rounds. -/
def searchImpact (order : SetOrder) (relations : List CognitiveRelation) : Nat → ImpactSearch → ImpactSearch
  | 0, s => s
  | rounds + 1, s =>
    match s.queue with
    | [] => s
    | (node, depth) :: rest =>
      let popped := { s with queue := rest }
      searchImpact order relations rounds
        (if depth = 3 then popped else (order.list (adjacent relations node)).foldl (lookAt depth) popped)

/-- The search of `impact_analysis` from a file. Every node but the file is an
end of a relation. -/
def impactFrom (order : SetOrder) (relations : List CognitiveRelation) (file : String) : ImpactSearch :=
  searchImpact order relations (2 * relations.length + 1) { seen := [("FILE", file)], queue := [(("FILE", file), 0)] }

/-- `sorted(set(grouped[kind]))`. -/
def affected (seen : List Node) (file kind : String) : List String :=
  sortedSet ((seen.filter fun node => node ≠ ("FILE", file) ∧ node.1 = kind).map Prod.snd)

/-- `impact_analysis`. -/
def impactAnalysis (order : SetOrder) (d : CognitiveDb) (projectId path : String) (commitHash : Option String) :
    Except Error ImpactAnalysis := do
  let path ← safePath path
  let asOf ← timeForCommit d projectId commitHash
  let relations := relations d projectId asOf
  let seen := (impactFrom order relations path).seen
  return { projectId := projectId, file := path, affectedFiles := affected seen path "FILE"
           affectedRequirements := affected seen path "REQUIREMENT", affectedTests := affected seen path "TEST"
           affectedServices := affected seen path "SERVICE", architecturalDecisions := affected seen path "DECISION"
           evidence := (order.list seen).flatMap fun node =>
             (evidenceOf relations node).filter fun edge => edge.relation = "DEPENDS_ON" }

def provenance (relations : List CognitiveRelation) : SimpleGraph Node :=
  SimpleGraph.fromRel fun a b => ∃ edge ∈ relations, edge.left = a ∧ edge.right = b

/-- The node is another one than the file, and no more than three relations away from it. -/
def Affected (relations : List CognitiveRelation) (file : String) (node : Node) : Prop :=
  1 ≤ (provenance relations).edist ("FILE", file) node ∧ (provenance relations).edist ("FILE", file) node ≤ 3

section
variable {order : SetOrder} {relations : List CognitiveRelation} {file kind : String} {s : ImpactSearch}
  {search : BreadthFirst Node}

theorem mem_adjacent {a b : Node} : b ∈ adjacent relations a ↔ ∃ edge ∈ relations,
    (edge.left = a ∧ edge.right = b) ∨
      (edge.right = a ∧ edge.left = b) := by
  unfold adjacent
  rw [List.mem_dedup, List.mem_flatMap]
  refine exists_congr fun edge => and_congr_right fun _ => ?_
  rw [List.mem_append]
  constructor
  · rintro (first | second)
    · split at first
      · exact .inl ⟨by assumption, (List.mem_singleton.mp first).symm⟩
      · cases first
    · split at second
      · exact .inr ⟨by assumption, (List.mem_singleton.mp second).symm⟩
      · cases second
  · rintro (⟨leaves, enters⟩ | ⟨leaves, enters⟩)
    · rw [if_pos leaves, enters]
      exact .inl List.mem_cons_self
    · rw [if_pos leaves, enters]
      exact .inr List.mem_cons_self

/-- The neighbours in the order in which they are looked at. -/
def neighbours (order : SetOrder) (relations : List CognitiveRelation) (node : Node) : List Node :=
  order.list (adjacent relations node)

theorem neighbours_undirected : Undirected (neighbours order relations) (provenance relations) := by
  intro a b different
  unfold neighbours provenance
  rw [(order.perm _).mem_iff, mem_adjacent, SimpleGraph.fromRel_adj]
  constructor
  · rintro ⟨edge, member, ⟨leaves, enters⟩ | ⟨leaves, enters⟩⟩
    · exact ⟨different, .inl ⟨edge, member, leaves, enters⟩⟩
    · exact ⟨different, .inr ⟨edge, member, enters, leaves⟩⟩
  · rintro ⟨-, ⟨edge, member, leaves, enters⟩ | ⟨edge, member, leaves, enters⟩⟩
    · exact ⟨edge, member, .inl ⟨leaves, enters⟩⟩
    · exact ⟨edge, member, .inr ⟨enters, leaves⟩⟩

def ends (relations : List CognitiveRelation) (file : String) : List Node :=
  ("FILE", file) :: (relations.map CognitiveRelation.left ++ relations.map CognitiveRelation.right)

theorem walk_ends {n : Nat} {node : Node} (walk : Walk (neighbours order relations) [("FILE", file)] n node) :
    node ∈ ends relations file := by
  cases walk with
  | seed member =>
    rw [List.mem_singleton.mp member]
    exact List.mem_cons_self
  | step before edge =>
    unfold neighbours at edge
    rw [(order.perm _).mem_iff, mem_adjacent] at edge
    obtain ⟨relation, member, ⟨-, rfl⟩ | ⟨-, rfl⟩⟩ := edge
    · exact List.mem_cons_of_mem _ (List.mem_append_right _ (List.mem_map_of_mem member))
    · exact List.mem_cons_of_mem _ (List.mem_append_left _ (List.mem_map_of_mem member))

/-- The two sets of the analysis are those of a breadth-first search. -/
structure Follows (s : ImpactSearch) (search : BreadthFirst Node) : Prop where
  seen : s.seen = search.found.map Prod.fst
  queue : s.queue = search.queue

theorem lookAt_follows {depth : Nat} {node : Node} (follows : Follows s search) :
    Follows (lookAt depth s node) (discover (depth + 1) search node) := by
  unfold lookAt discover
  rw [follows.seen]
  by_cases known : node ∈ search.found.map Prod.fst
  · rw [if_pos known, if_pos known]
    exact follows
  · rw [if_neg known, if_neg known]
    refine ⟨?_, ?_⟩
    · change search.found.map Prod.fst ++ [node] = (search.found ++ [(node, depth + 1)]).map Prod.fst
      rw [List.map_append]
      rfl
    · change s.queue ++ _ = search.queue ++ _
      rw [follows.queue]

theorem lookAll_follows {depth : Nat} (nodes : List Node) (follows : Follows s search) :
    Follows (nodes.foldl (lookAt depth) s) (nodes.foldl (discover (depth + 1)) search) := by
  induction nodes generalizing s search with
  | nil => exact follows
  | cons node rest ih => exact ih (lookAt_follows follows)

theorem searchImpact_follows {rounds : Nat} {done : List (Node × Nat)} (follows : Follows s search)
    (sound : BreadthFirst.Sound (neighbours order relations) [("FILE", file)] 3 done search) :
    Follows (searchImpact order relations rounds s)
      (run (neighbours order relations) 3 (fun _ => false) rounds search) := by
  induction rounds generalizing s search done with
  | zero => exact follows
  | succ rounds ih =>
    unfold searchImpact run
    rw [follows.queue]
    cases queue : search.queue with
    | nil => exact follows
    | cons first rest =>
      obtain ⟨node, depth⟩ := first
      have depthBound : depth ≤ 3 := by
        refine sound.within (node, depth) ?_
        rw [sound.found, queue]
        exact List.mem_append_right _ List.mem_cons_self
      have next := sound_visit sound queue
      refine ih ?_ next
      unfold visit
      rw [queue]
      dsimp only
      by_cases deepest : depth = 3
      · rw [if_pos deepest, if_pos (by omega)]
        exact ⟨follows.seen, rfl⟩
      · rw [if_neg deepest, if_neg (by omega)]
        exact lookAll_follows _ ⟨follows.seen, rfl⟩

theorem impactFrom_exact : (impactFrom order relations file).queue = [] ∧
    ∀ node, node ∈ (impactFrom order relations file).seen ↔ (provenance relations).edist ("FILE", file) node ≤ 3 := by
  have begun : BreadthFirst.Sound (neighbours order relations) [("FILE", file)] 3 [] (.start [("FILE", file)]) :=
    sound_start (List.nodup_singleton _)
  have follows : Follows (impactFrom order relations file)
      (run (neighbours order relations) 3 (fun _ => false) (2 * relations.length + 1)
        (.start [("FILE", file)])) := searchImpact_follows ⟨rfl, rfl⟩ begun
  have enough : (ends relations file).length ≤ 2 * relations.length + 1 + ([] : List (Node × Nat)).length := by
    unfold ends
    rw [List.length_cons, List.length_append, List.length_map, List.length_map, List.length_nil]
    omega
  obtain ⟨done, sound, finished⟩ : ∃ done, BreadthFirst.Sound (neighbours order relations) [("FILE", file)] 3 done
      (run (neighbours order relations) 3 (fun _ => false) (2 * relations.length + 1)
        (.start [("FILE", file)])) ∧ (_ ∨ false = true) :=
    sound_run begun (fun node n walk => walk_ends walk) enough
  have empty := finished.resolve_right Bool.false_ne_true
  refine ⟨follows.queue.trans empty, fun node => ?_⟩
  rw [follows.seen]
  have near : (∃ m ≤ 3, Walk (neighbours order relations) [("FILE", file)] m node) ↔
      ∃ start ∈ [("FILE", file)], (provenance relations).edist start node ≤ (3 : Nat) :=
        walk_within_iff neighbours_undirected
  constructor
  · intro seen
    obtain ⟨x, inFound, rfl⟩ := List.mem_map.mp seen
    obtain ⟨start, isFile, distance⟩ := near.mp ⟨x.2, sound.within x inFound, sound.walks x inFound⟩
    rw [List.mem_singleton.mp isFile] at distance
    exact distance
  · intro distance
    obtain ⟨n, inside, walk⟩ := near.mpr ⟨_, List.mem_cons_self, distance⟩
    obtain ⟨m, isDone⟩ := sound.mem_visited.mp (sound.complete_iff.mp empty node n inside walk)
    refine List.mem_map.mpr ⟨(node, m), ?_, rfl⟩
    rw [sound.found]
    exact List.mem_append_left _ isDone

theorem sortedSet_sorted (items : List String) : (sortedSet items).Pairwise (· < ·) := by
  have sorted : (sortedSet items).Pairwise (· ≤ ·) := List.pairwise_insertionSort _ _
  have once : (sortedSet items).Nodup := nodup_sortedSet items
  exact (List.pairwise_and_iff.mpr ⟨sorted, once⟩).imp fun both => lt_of_le_of_ne both.1 both.2

theorem mem_affected {seen : List Node} {identifier : String} :
    identifier ∈ affected seen file kind ↔ (kind, identifier) ∈ seen ∧ (kind, identifier) ≠ ("FILE", file) := by
  unfold affected sortedSet
  rw [List.mem_insertionSort, List.mem_dedup, List.mem_map]
  constructor
  · rintro ⟨node, member, rfl⟩
    obtain ⟨inSeen, holds⟩ := List.mem_filter.mp member
    obtain ⟨other, rfl⟩ := of_decide_eq_true holds
    exact ⟨inSeen, other⟩
  · rintro ⟨inSeen, other⟩
    exact ⟨(kind, identifier), List.mem_filter.mpr ⟨inSeen, decide_eq_true ⟨other, rfl⟩⟩, rfl⟩

/-- The list has the nodes of the kind that a change of the file affects. -/
def ListsAffected (relations : List CognitiveRelation) (file kind : String) (listed : List String) : Prop :=
  listed.Pairwise (· < ·) ∧ ∀ identifier, identifier ∈ listed ↔ Affected relations file (kind, identifier)

theorem affected_exact : ListsAffected relations file kind
    (affected (impactFrom order relations file).seen file kind) := by
  refine ⟨sortedSet_sorted _, fun identifier => ?_⟩
  rw [mem_affected, impactFrom_exact.2]
  unfold Affected
  rw [and_comm]
  refine and_congr_left fun _ => ?_
  rw [Order.one_le_iff_ne_zero, Ne, Ne, SimpleGraph.edist_eq_zero_iff, eq_comm]

end

/-- The analysis lists exactly what is one to three relations away from the
file, by kind, and its search comes to an end. -/
theorem impactAnalysis_exact {order : SetOrder} {d : CognitiveDb} {projectId path : String} {commitHash : Option String}
    {analysis : ImpactAnalysis} (analysed : impactAnalysis order d projectId path commitHash = .ok analysis) :
    ∃ asOf, timeForCommit d projectId commitHash = .ok asOf ∧ safePath path = .ok analysis.file ∧
      (impactFrom order (relations d projectId asOf) analysis.file).queue = [] ∧
      ListsAffected (relations d projectId asOf) analysis.file "FILE" analysis.affectedFiles ∧
      ListsAffected (relations d projectId asOf) analysis.file "REQUIREMENT" analysis.affectedRequirements ∧
      ListsAffected (relations d projectId asOf) analysis.file "TEST" analysis.affectedTests ∧
      ListsAffected (relations d projectId asOf) analysis.file "SERVICE" analysis.affectedServices ∧
      ListsAffected (relations d projectId asOf) analysis.file "DECISION" analysis.architecturalDecisions := by
  unfold impactAnalysis at analysed
  cases safe : safePath path with
  | error e =>
    rw [safe] at analysed
    cases analysed
  | ok file =>
    cases time : timeForCommit d projectId commitHash with
    | error e =>
      rw [safe, time] at analysed
      cases analysed
    | ok asOf =>
      rw [safe, time] at analysed
      cases analysed
      exact ⟨asOf, rfl, rfl, impactFrom_exact.1, affected_exact, affected_exact, affected_exact, affected_exact,
        affected_exact⟩

namespace Sample

def inOrder : SetOrder := ⟨fun nodes => nodes, fun _ => .rfl⟩

/-- Five files, each of which depends on the next. -/
def dependent : CognitiveDb :=
  { CognitiveDb.initial .empty with
    relations := .ofRows ([("a.py", "b.py"), ("b.py", "c.py"), ("c.py", "d.py"), ("d.py", "e.py")].map fun (f, g) =>
      ⟨f, "p", "FILE", f, "FILE", g, "DEPENDS_ON", none, .obj [], "e", 0⟩) }

theorem dependency_affected : ∃ analysis, impactAnalysis inOrder dependent "p" "a.py" none = .ok analysis ∧
    analysis.affectedFiles = ["b.py", "c.py", "d.py"] ∧
    ListsAffected (relations dependent "p" none) "a.py" "FILE" analysis.affectedFiles := by
  have ran : ∃ analysis, impactAnalysis inOrder dependent "p" "a.py" none = .ok analysis ∧
      analysis.affectedFiles = ["b.py", "c.py", "d.py"] ∧ analysis.file = "a.py" :=
    ⟨_, rfl, by decide +kernel, by decide +kernel⟩
  obtain ⟨analysis, analysed, files, file⟩ := ran
  obtain ⟨asOf, time, -, -, listed, -⟩ := impactAnalysis_exact analysed
  cases time
  rw [file] at listed
  exact ⟨analysis, analysed, files, listed⟩

end Sample

end Cognitive
end SacmRuntime
