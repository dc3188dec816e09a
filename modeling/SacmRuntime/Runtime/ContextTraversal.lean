import Mathlib.Data.Prod.Lex
import SacmRuntime.Lib.BreadthFirst
import SacmRuntime.Lib.Json

namespace SacmRuntime
open BreadthFirst

structure GraphNode where
  id : String
  type : String
  label : String
  repository : String
  path : Option String
  metadata : Json

structure GraphEdge where
  source : String
  target : String
  type : String

structure ContextGraph where
  nodes : List GraphNode
  edges : List GraphEdge

/-- `nodes.get(id)` of the nodes by their ids, of which the last counts. -/
def ContextGraph.node? (graph : ContextGraph) (id : String) : Option GraphNode :=
  graph.nodes.reverse.find? fun node => node.id = id

/-- What `_seed_reasons` returns: it names nodes of the graph. -/
structure SeedReasons (graph : ContextGraph) where
  entries : List (String × List String)
  distinct : (entries.map Prod.fst).Nodup
  known : ∀ id ∈ entries.map Prod.fst, (graph.node? id).isSome = true

structure ContextBounds where
  role : String
  maxDepth : Nat
  maxNodes : Nat

structure ContextNodeReference where
  node : GraphNode
  distance : Nat
  reasons : List String

/-- The parts of a context package that come from the traversal. -/
structure ContextPackage where
  seedNodeIds : List String
  nodes : List ContextNodeReference
  edges : List GraphEdge
  truncated : Bool

namespace ContextEngineService

/-- `_role_priority`, as it is asked. -/
def rolePriority (role type : String) : Nat :=
  let common := [("semantic_symbol", 0), ("test_symbol", 0), ("symbol", 1), ("api_route", 2), ("database_schema", 3),
    ("file", 4), ("dependency_manifest", 5), ("module", 6), ("dependency", 7), ("repository", 8)]
  let update :=
    if role ∈ ["reviewer", "security"] then [("api_route", 0), ("database_schema", 1), ("dependency", 2)]
    else if role ∈ ["tester", "verifier"] then [("test_symbol", 0), ("api_route", 1), ("symbol", 2)]
    else []
  ((update.lookup type).or (common.lookup type)).getD 50

/-- `adjacency[node_id]`. -/
def adjacency (graph : ContextGraph) (nodeId : String) : List (String × String) :=
  graph.edges.flatMap fun edge =>
    (if edge.source = nodeId then [(edge.target, edge.type)] else []) ++
      if edge.target = nodeId then [(edge.source, edge.type)] else []

def neighborKey (graph : ContextGraph) (role : String) (item : String × String) : ℕ ×ₗ String ×ₗ String :=
  toLex (rolePriority role (((graph.node? item.1).map GraphNode.type).getD ""), toLex (item.2, item.1))

def neighbors (graph : ContextGraph) (role nodeId : String) : List (String × String) :=
  (adjacency graph nodeId).insertionSort fun a b => neighborKey graph role a ≤ neighborKey graph role b

/-- The local variables of `_traverse`. -/
structure Traversal where
  queue : List (String × Nat)
  distances : List (String × Nat)
  reasons : List (String × List String)
  ordered : List String

/-- `reasons[key].add(reason)`. -/
def addReason (key reason : String) (reasons : List (String × List String)) : List (String × List String) :=
  if key ∈ reasons.map Prod.fst then
    reasons.map fun entry => if entry.1 = key ∧ reason ∉ entry.2 then (key, entry.2 ++ [reason]) else entry
  else reasons ++ [(key, [reason])]

def lookAt (graph : ContextGraph) (nodeId : String) (distance : Nat) (s : Traversal) (item : String × String) :
    Traversal :=
  if (graph.node? item.1).isNone || decide (item.1 ∈ s.distances.map Prod.fst) then s
  else
    { s with
      distances := s.distances ++ [(item.1, distance + 1)]
      reasons := addReason item.1 (item.2 ++ ":" ++ nodeId) s.reasons
      queue := s.queue ++ [(item.1, distance + 1)] }

def visitNode (graph : ContextGraph) (bounds : ContextBounds) (s : Traversal) : Traversal :=
  match s.queue with
  | [] => s
  | (nodeId, distance) :: rest =>
    let popped := { s with queue := rest }
    if (graph.node? nodeId).isNone || decide (nodeId ∈ s.ordered) then popped
    else
      let visited := { popped with ordered := s.ordered ++ [nodeId] }
      if bounds.maxDepth ≤ distance then visited
      else (neighbors graph bounds.role nodeId).foldl (lookAt graph nodeId distance) visited

/-- `while queue and len(ordered) < max_nodes`, for so many rounds. -/
def traverseLoop (graph : ContextGraph) (bounds : ContextBounds) : Nat → Traversal → Traversal
  | 0, s => s
  | rounds + 1, s =>
    if s.queue.isEmpty || decide (bounds.maxNodes ≤ s.ordered.length) then s
    else traverseLoop graph bounds rounds (visitNode graph bounds s)

/-- `sorted(reasons)`. -/
def sortedKeys (reasons : List (String × List String)) : List String :=
  (reasons.map Prod.fst).insertionSort fun a b => a ≤ b

/-- `_traverse`, with the reasons it adds. Every node enters the queue once. -/
def traverse (graph : ContextGraph) (reasons : SeedReasons graph) (bounds : ContextBounds) : Traversal × Bool :=
  let s := traverseLoop graph bounds graph.nodes.length
    { queue := (sortedKeys reasons.entries).map fun nodeId => (nodeId, 0)
      distances := (sortedKeys reasons.entries).map fun nodeId => (nodeId, 0)
      reasons := reasons.entries, ordered := [] }
  (s, !s.queue.isEmpty || decide (s.ordered.length < s.distances.length))

/-- The package `build` makes of the traversal. -/
def buildPackage (graph : ContextGraph) (reasons : SeedReasons graph) (bounds : ContextBounds) : ContextPackage :=
  let (s, truncated) := traverse graph reasons bounds
  { seedNodeIds := sortedKeys s.reasons
    nodes := s.ordered.filterMap fun nodeId => (graph.node? nodeId).map fun node =>
      { node := node, distance := (s.distances.lookup nodeId).getD 0
        reasons := ((s.reasons.lookup nodeId).getD []).insertionSort fun a b => a ≤ b }
    edges := graph.edges.filter fun edge => edge.source ∈ s.ordered ∧ edge.target ∈ s.ordered
    truncated := truncated }

end ContextEngineService

open ContextEngineService

def ContextGraph.Exists (graph : ContextGraph) (id : String) : Prop := (graph.node? id).isSome = true

instance (graph : ContextGraph) : DecidablePred graph.Exists := fun id =>
  inferInstanceAs (Decidable ((graph.node? id).isSome = true))

/-- The application graph, between its nodes and without directions. -/
def ContextGraph.undirected (graph : ContextGraph) : SimpleGraph String :=
  SimpleGraph.fromRel fun a b => graph.Exists a ∧ graph.Exists b ∧ ∃ edge ∈ graph.edges, edge.source = a ∧
    edge.target = b

def SeedReasons.seeds {graph : ContextGraph} (reasons : SeedReasons graph) : List String := sortedKeys reasons.entries

/-- The node is no more than the given number of edges away from a seed. -/
def WithinDepth (graph : ContextGraph) (seeds : List String) (depth : Nat) (id : String) : Prop :=
  ∃ seed ∈ seeds, graph.undirected.edist seed id ≤ depth

/-- The list of the traversal, its distances and its flag are exact. -/
structure TraversalExact (graph : ContextGraph) (reasons : SeedReasons graph) (bounds : ContextBounds) : Prop where
  once : (traverse graph reasons bounds).1.ordered.Nodup
  bounded : (traverse graph reasons bounds).1.ordered.length ≤ bounds.maxNodes
  existing : ∀ id ∈ (traverse graph reasons bounds).1.ordered, graph.Exists id
  recorded : ∀ id ∈ (traverse graph reasons bounds).1.ordered, ∃ n,
    (id, n) ∈ (traverse graph reasons bounds).1.distances
  ascending : ∃ distances : List Nat, distances.Pairwise (· ≤ ·) ∧
    (traverse graph reasons bounds).1.ordered.zip distances <+: (traverse graph reasons bounds).1.distances ∧
    distances.length = (traverse graph reasons bounds).1.ordered.length
  shortest : ∀ id n, (id, n) ∈ (traverse graph reasons bounds).1.distances → Nearest graph.undirected reasons.seeds id n
  complete : (traverse graph reasons bounds).2 = false ↔
    ∀ id, WithinDepth graph reasons.seeds bounds.maxDepth id → id ∈ (traverse graph reasons bounds).1.ordered

/-- The seeds of the package are the nodes at distance 0. -/
def SeedsExact (graph : ContextGraph) (reasons : SeedReasons graph) (bounds : ContextBounds) : Prop :=
  ∀ id, id ∈ (buildPackage graph reasons bounds).seedNodeIds ↔ Nearest graph.undirected reasons.seeds id 0

/-- A node next to one of the seeds that are visited is a seed itself, if the
traversal leaves the seeds. -/
def SeedsClosed (graph : ContextGraph) (reasons : SeedReasons graph) (bounds : ContextBounds) : Prop :=
  bounds.maxDepth = 0 ∨ ∀ seed ∈ reasons.seeds.take bounds.maxNodes, ∀ id, graph.undirected.Adj seed id →
    id ∈ reasons.seeds

section
variable {graph : ContextGraph} {reasons : SeedReasons graph} {bounds : ContextBounds} {s : Traversal}
  {search : BreadthFirst String} {done : List (String × Nat)}

/-- The neighbours of a node that are looked at, in their order. -/
def nextNodes (graph : ContextGraph) (role nodeId : String) : List String :=
  if graph.Exists nodeId then ((neighbors graph role nodeId).map Prod.fst).filter fun id => graph.Exists id else []

variable {a b id nodeId role : String} {distance : Nat}

theorem mem_adjacency {type : String} : (b, type) ∈ adjacency graph a ↔ ∃ edge ∈ graph.edges,
    edge.type = type ∧ (edge.source = a ∧ edge.target = b ∨ edge.target = a ∧ edge.source = b) := by
  unfold adjacency
  rw [List.mem_flatMap]
  refine exists_congr fun edge => and_congr_right fun _ => ?_
  rw [List.mem_append]
  constructor
  · rintro (first | second)
    · split at first
      · cases List.mem_singleton.mp first
        exact ⟨rfl, .inl ⟨by assumption, rfl⟩⟩
      · cases first
    · split at second
      · cases List.mem_singleton.mp second
        exact ⟨rfl, .inr ⟨by assumption, rfl⟩⟩
      · cases second
  · rintro ⟨kind, ⟨leaves, enters⟩ | ⟨leaves, enters⟩⟩
    · rw [if_pos leaves, enters, kind]
      exact .inl List.mem_cons_self
    · rw [if_pos leaves, enters, kind]
      exact .inr List.mem_cons_self

theorem mem_nextNodes : b ∈ nextNodes graph role a ↔ graph.Exists a ∧ graph.Exists b ∧
    ∃ edge ∈ graph.edges, edge.source = a ∧ edge.target = b ∨ edge.target = a ∧ edge.source = b := by
  unfold nextNodes
  split
  · rename_i known
    rw [List.mem_filter, List.mem_map, decide_eq_true_iff]
    constructor
    · rintro ⟨⟨item, member, rfl⟩, existing⟩
      obtain ⟨edge, inEdges, -, joins⟩ := mem_adjacency.mp ((List.mem_insertionSort _).mp member)
      exact ⟨known, existing, edge, inEdges, joins⟩
    · rintro ⟨-, existing, edge, inEdges, joins⟩
      refine ⟨⟨(b, edge.type), (List.mem_insertionSort _).mpr (mem_adjacency.mpr ?_), rfl⟩, existing⟩
      exact ⟨edge, inEdges, rfl, joins⟩
  · rename_i unknown
    exact ⟨fun member => (nomatch member), fun joined => absurd joined.1 unknown⟩

theorem nextNodes_undirected (role : String) : Undirected (nextNodes graph role) graph.undirected := by
  intro a b different
  unfold ContextGraph.undirected
  rw [mem_nextNodes, SimpleGraph.fromRel_adj]
  constructor
  · rintro ⟨known, existing, edge, member, ⟨leaves, enters⟩ | ⟨leaves, enters⟩⟩
    · exact ⟨different, .inl ⟨known, existing, edge, member, leaves, enters⟩⟩
    · exact ⟨different, .inr ⟨existing, known, edge, member, enters, leaves⟩⟩
  · rintro ⟨-, ⟨known, existing, edge, member, leaves, enters⟩ | ⟨existing, known, edge, member, leaves, enters⟩⟩
    · exact ⟨known, existing, edge, member, .inl ⟨leaves, enters⟩⟩
    · exact ⟨known, existing, edge, member, .inr ⟨enters, leaves⟩⟩

theorem mem_seeds : id ∈ reasons.seeds ↔ id ∈ reasons.entries.map Prod.fst := List.mem_insertionSort _

theorem seeds_nodup : reasons.seeds.Nodup := (List.perm_insertionSort _ _).nodup_iff.mpr reasons.distinct

theorem walk_exists {n : Nat} (walk : Walk (nextNodes graph role) reasons.seeds n id) :
    graph.Exists id := by
  cases walk with
  | seed member => exact reasons.known id (mem_seeds.mp member)
  | step before edge => exact (mem_nextNodes.mp edge).2.1

/-- The traversal is a breadth-first search, and it has reasons for whatever it finds. -/
structure Traces (s : Traversal) (search : BreadthFirst String) : Prop where
  queue : s.queue = search.queue
  distances : s.distances = search.found
  ordered : s.ordered = search.visited
  reasons : ∀ id, id ∈ s.reasons.map Prod.fst ↔ id ∈ search.found.map Prod.fst

theorem mem_addReason {key reason : String} {entries : List (String × List String)} :
    id ∈ (addReason key reason entries).map Prod.fst ↔ id = key ∨ id ∈ entries.map Prod.fst := by
  unfold addReason
  split
  · rename_i known
    have keys :
      (entries.map fun entry => if entry.1 = key ∧ reason ∉ entry.2 then (key, entry.2 ++ [reason]) else entry).map
        Prod.fst = entries.map Prod.fst := by
      rw [List.map_map]
      refine List.map_congr_left fun entry _ => ?_
      change (if _ then _ else _ : String × List String).1 = entry.1
      split
      · rename_i same
        exact same.1.symm
      · rfl
    rw [keys]
    constructor
    · exact .inr
    · rintro (rfl | old)
      · exact known
      · exact old
  · rw [List.map_append, List.mem_append, List.map_singleton, List.mem_singleton, or_comm]

theorem lookAt_traces {item : String × String} (traces : Traces s search) :
    Traces (lookAt graph nodeId distance s item)
      (if graph.Exists item.1 then discover (distance + 1) search item.1 else search) := by
  unfold lookAt
  by_cases existing : graph.Exists item.1
  · have known : (graph.node? item.1).isNone = false := by
      rw [← Option.not_isSome, existing]
      rfl
    rw [known, if_pos existing, traces.distances]
    unfold discover
    by_cases found : item.1 ∈ search.found.map Prod.fst
    · rw [decide_eq_true found, if_pos found]
      exact traces
    · rw [decide_eq_false found, if_neg found]
      refine ⟨?_, rfl, traces.ordered, fun id => ?_⟩
      · change s.queue ++ _ = search.queue ++ _
        rw [traces.queue]
      · change id ∈ (addReason _ _ s.reasons).map Prod.fst ↔ id ∈ (search.found ++ [_]).map Prod.fst
        rw [mem_addReason, traces.reasons, List.map_append, List.mem_append, List.map_singleton, List.mem_singleton,
          or_comm]
  · have unknown : (graph.node? item.1).isNone = true := by
      rw [← Option.not_isSome, Bool.not_eq_true']
      exact Bool.eq_false_of_not_eq_true existing
    rw [unknown, if_neg existing]
    exact traces

theorem lookAll_traces (items : List (String × String)) (traces : Traces s search) :
    Traces (items.foldl (lookAt graph nodeId distance) s)
      (((items.map Prod.fst).filter fun id => graph.Exists id).foldl (discover (distance + 1)) search) := by
  induction items generalizing s search with
  | nil => exact traces
  | cons item rest ih =>
    have first : Traces (lookAt graph nodeId distance s item)
      (if graph.Exists item.1 then discover (distance + 1) search item.1 else search) := lookAt_traces traces
    have step := ih first
    rw [List.map_cons, List.filter_cons]
    by_cases existing : graph.Exists item.1
    · rw [if_pos existing] at step
      rw [if_pos (decide_eq_true existing)]
      exact step
    · rw [if_neg existing] at step
      rw [decide_eq_false existing]
      exact step

/-- A visit of the traversal is one of the search: what waits exists, and it
has not been visited. -/
theorem visitNode_traces (traces : Traces s search) {node : String × Nat} {rest : List (String × Nat)}
    (sound : BreadthFirst.Sound (nextNodes graph bounds.role) reasons.seeds bounds.maxDepth done search)
    (queue : search.queue = node :: rest) :
    Traces (visitNode graph bounds s) (visit (nextNodes graph bounds.role) bounds.maxDepth search) := by
  obtain ⟨nodeId, distance⟩ := node
  have inFound : (nodeId, distance) ∈ search.found := by
    rw [sound.found, queue]
    exact List.mem_append_right _ List.mem_cons_self
  have existing : graph.Exists nodeId := walk_exists (sound.walks _ inFound)
  have known : (graph.node? nodeId).isNone = false := by
    rw [← Option.not_isSome, existing]
    rfl
  have fresh : nodeId ∉ s.ordered := by
    intro again
    rw [traces.ordered, sound.mem_visited] at again
    obtain ⟨n, isDone⟩ := again
    have once := sound.once
    rw [sound.found, queue, List.map_append] at once
    exact (List.nodup_append.mp once).2.2 _ (List.mem_map_of_mem isDone) _ List.mem_cons_self rfl
  unfold visitNode visit
  rw [traces.queue, queue]
  dsimp only
  rw [known, decide_eq_false fresh]
  change Traces (if bounds.maxDepth ≤ distance then _ else _) _
  by_cases far : bounds.maxDepth ≤ distance
  · rw [if_pos far, if_pos far]
    exact ⟨rfl, traces.distances, congrArg (· ++ [nodeId]) traces.ordered, traces.reasons⟩
  · rw [if_neg far, if_neg far]
    have next : nextNodes graph bounds.role nodeId =
        ((neighbors graph bounds.role nodeId).map Prod.fst).filter fun id => graph.Exists id := if_pos existing
    rw [next]
    exact lookAll_traces _ ⟨rfl, traces.distances, congrArg (· ++ [nodeId]) traces.ordered, traces.reasons⟩

def full (bounds : ContextBounds) (visited : List String) : Bool := decide (bounds.maxNodes ≤ visited.length)

theorem traverseLoop_traces {rounds : Nat} (traces : Traces s search)
    (sound : BreadthFirst.Sound (nextNodes graph bounds.role) reasons.seeds bounds.maxDepth done search) :
    Traces (traverseLoop graph bounds rounds s)
      (run (nextNodes graph bounds.role) bounds.maxDepth (full bounds) rounds search) := by
  induction rounds generalizing s search done with
  | zero => exact traces
  | succ rounds ih =>
    unfold traverseLoop run full
    rw [traces.queue, traces.ordered]
    split
    · exact traces
    · rename_i goesOn
      cases queue : search.queue with
      | nil =>
        rw [queue] at goesOn
        exact absurd rfl goesOn
      | cons node rest => exact ih (visitNode_traces traces sound queue) (sound_visit sound queue)

/-- The search that the traversal follows, at its start and at its end. -/
def startSearch (reasons : SeedReasons graph) : BreadthFirst String := .start reasons.seeds

def endSearch (reasons : SeedReasons graph) (bounds : ContextBounds) : BreadthFirst String :=
  BreadthFirst.run (nextNodes graph bounds.role) bounds.maxDepth (full bounds) graph.nodes.length (startSearch reasons)

theorem exists_mem (existing : graph.Exists id) : id ∈ graph.nodes.map GraphNode.id := by
  obtain ⟨node, found⟩ := Option.isSome_iff_exists.mp existing
  have same := List.find?_some found
  have member := List.mem_reverse.mp (List.mem_of_find?_eq_some found)
  exact List.mem_map.mpr ⟨node, member, of_decide_eq_true same⟩

theorem endSearch_sound (reasons : SeedReasons graph) (bounds : ContextBounds) :
    ∃ done, BreadthFirst.Sound (nextNodes graph bounds.role) reasons.seeds bounds.maxDepth done
        (endSearch reasons bounds) ∧
      ((endSearch reasons bounds).queue = [] ∨ bounds.maxNodes ≤ (endSearch reasons bounds).visited.length) := by
  have begun : BreadthFirst.Sound (nextNodes graph bounds.role) reasons.seeds bounds.maxDepth []
      (startSearch reasons) :=
    sound_start seeds_nodup
  have enough : (graph.nodes.map GraphNode.id).length ≤ graph.nodes.length + ([] : List (String × Nat)).length := by
    rw [List.length_map]
    exact Nat.le_refl _
  obtain ⟨done, sound, finished⟩ : ∃ done,
      BreadthFirst.Sound (nextNodes graph bounds.role) reasons.seeds bounds.maxDepth done (endSearch reasons bounds) ∧
        ((endSearch reasons bounds).queue = [] ∨ full bounds (endSearch reasons bounds).visited = true) :=
    sound_run begun (fun id n walk => exists_mem (walk_exists walk)) enough
  exact ⟨done, sound, finished.imp_right of_decide_eq_true⟩

theorem traverse_traces (reasons : SeedReasons graph) (bounds : ContextBounds) :
    Traces (traverse graph reasons bounds).1 (endSearch reasons bounds) := by
  have begun : BreadthFirst.Sound (nextNodes graph bounds.role) reasons.seeds bounds.maxDepth []
      (startSearch reasons) :=
    sound_start seeds_nodup
  refine traverseLoop_traces ⟨rfl, rfl, rfl, fun id => ?_⟩ begun
  have keys : (startSearch reasons).found.map Prod.fst = reasons.seeds := by
    change (reasons.seeds.map fun id => (id, 0)).map Prod.fst = _
    rw [List.map_map]
    exact List.map_id _
  rw [keys, mem_seeds]

theorem traverse_exact (reasons : SeedReasons graph) (bounds : ContextBounds) :
    TraversalExact graph reasons bounds := by
  obtain ⟨done, sound, -⟩ := endSearch_sound reasons bounds
  have traces := traverse_traces reasons bounds
  have bounded : (endSearch reasons bounds).visited.length ≤ bounds.maxNodes := run_bounded (Nat.zero_le _)
  have waits : (traverse graph reasons bounds).2 = false ↔ (endSearch reasons bounds).queue = [] := by
    change (!(traverse graph reasons bounds).1.queue.isEmpty ||
      decide ((traverse graph reasons bounds).1.ordered.length < (traverse graph reasons bounds).1.distances.length)) =
        false ↔ _
    rw [traces.queue, traces.ordered, traces.distances, sound.visited, sound.found, List.length_map, List.length_append]
    cases (endSearch reasons bounds).queue with
    | nil => simp
    | cons node rest => simp
  refine ⟨?_, ?_, fun id member => ?_, fun id member => ?_, ?_, fun id n inFound => ?_, ?_⟩
  · rw [traces.ordered]
    exact sound.visited_nodup
  · rw [traces.ordered]
    exact bounded
  · rw [traces.ordered, sound.mem_visited] at member
    obtain ⟨n, isDone⟩ := member
    refine walk_exists (sound.walks (id, n) ?_)
    rw [sound.found]
    exact List.mem_append_left _ isDone
  · rw [traces.ordered, sound.mem_visited] at member
    obtain ⟨n, isDone⟩ := member
    refine ⟨n, ?_⟩
    rw [traces.distances, sound.found]
    exact List.mem_append_left _ isDone
  · obtain ⟨distances, zipped, ascending, length⟩ := sound.visited_sorted
    refine ⟨distances, ascending, ?_, ?_⟩
    · rw [traces.ordered, traces.distances, zipped, sound.found]
      exact List.prefix_append _ _
    · rw [traces.ordered]
      exact length
  · rw [traces.distances] at inFound
    exact (sound.exact inFound).nearest (nextNodes_undirected bounds.role)
  · rw [waits, sound.complete_iff, traces.ordered]
    constructor
    · intro complete id within
      obtain ⟨n, inside, walk⟩ := (walk_within_iff (nextNodes_undirected bounds.role)).mpr within
      exact complete id n inside walk
    · intro complete id n inside walk
      exact complete id ((walk_within_iff (nextNodes_undirected bounds.role)).mp ⟨n, inside, walk⟩)

theorem nearest_zero : Nearest graph.undirected reasons.seeds id 0 ↔ id ∈ reasons.seeds := by
  constructor
  · rintro ⟨⟨seed, member, distance⟩, -⟩
    rw [SimpleGraph.edist_eq_zero_iff.mp distance] at member
    exact member
  · intro member
    exact ⟨⟨id, member, SimpleGraph.edist_self⟩, fun _ _ => zero_le⟩

theorem seedsExact_iff : SeedsExact graph reasons bounds ↔
    ∀ id, id ∈ (endSearch reasons bounds).found.map Prod.fst ↔ id ∈ reasons.seeds := by
  unfold SeedsExact
  refine forall_congr' fun id => ?_
  rw [nearest_zero]
  have keys : id ∈ (buildPackage graph reasons bounds).seedNodeIds ↔
      id ∈ (endSearch reasons bounds).found.map Prod.fst := by
    rw [← (traverse_traces reasons bounds).reasons]
    exact List.mem_insertionSort _
  rw [keys]

theorem adj_iff (role : String) {seed : String} (known : seed ∈ reasons.seeds) :
    (id ∈ nextNodes graph role seed → id ∈ reasons.seeds) ↔ (graph.undirected.Adj seed id → id ∈ reasons.seeds) := by
  by_cases same : seed = id
  · subst same
    exact ⟨fun _ _ => known, fun _ _ => known⟩
  · rw [nextNodes_undirected role seed id same]

theorem found_seeds_iff (reasons : SeedReasons graph) (bounds : ContextBounds) :
    (∀ id, id ∈ (endSearch reasons bounds).found.map Prod.fst ↔ id ∈ reasons.seeds) ↔
      SeedsClosed graph reasons bounds := by
  obtain ⟨done, sound, finished⟩ := endSearch_sound reasons bounds
  constructor
  · intro only
    by_cases deep : bounds.maxDepth = 0
    · exact .inl deep
    refine .inr fun seed early id => (adj_iff bounds.role (List.mem_of_mem_take early)).mp fun edge => ?_
    have grown : (reasons.seeds.map fun id => (id, 0)) <+: (endSearch reasons bounds).found :=
      run_grows (nextNodes graph bounds.role) bounds.maxDepth (full bounds) graph.nodes.length
        (startSearch reasons)
    have firsts : ((reasons.seeds.map fun id => (id, 0)).take bounds.maxNodes) <+: done := by
      have inFound : done <+: (endSearch reasons bounds).found := by
        rw [sound.found]
        exact List.prefix_append _ _
      rcases finished with empty | most
      · have all : (endSearch reasons bounds).found = done := by rw [sound.found, empty, List.append_nil]
        rw [all] at grown
        exact (List.take_prefix _ _).trans grown
      · refine List.prefix_of_prefix_length_le ((List.take_prefix _ _).trans grown) inFound ?_
        rw [sound.visited, List.length_map] at most
        rw [List.length_take]
        omega
    have isDone : (seed, 0) ∈ done := by
      refine firsts.subset ?_
      rw [← List.map_take]
      exact List.mem_map.mpr ⟨seed, early, rfl⟩
    obtain ⟨n, -, inFound⟩ := sound.closed (seed, 0) isDone (Nat.pos_of_ne_zero deep) id edge
    exact (only id).mp (List.mem_map.mpr ⟨_, inFound, rfl⟩)
  · intro closed
    have settled : (endSearch reasons bounds).found = reasons.seeds.map fun id => (id, 0) := by
      refine run_settled (k := 0) ?_ rfl rfl rfl
      refine closed.imp_right fun inSeeds seed early id edge => ?_
      exact (adj_iff bounds.role (List.mem_of_mem_take early)).mpr (inSeeds seed early id) edge
    have keys : (endSearch reasons bounds).found.map Prod.fst = reasons.seeds := by
      rw [settled, List.map_map]
      exact List.map_id _
    intro id
    rw [keys]

end

/-- The traversal is exact, and the seeds of its package are the nodes at
distance 0, exactly if the seeds that are visited lead to seeds only. -/
theorem context_exact_iff (graph : ContextGraph) (reasons : SeedReasons graph) (bounds : ContextBounds) :
    TraversalExact graph reasons bounds ∧ SeedsExact graph reasons bounds ↔ SeedsClosed graph reasons bounds := by
  rw [and_iff_right (traverse_exact reasons bounds), seedsExact_iff, found_seeds_iff]

namespace Sample

def importing : ContextGraph where
  nodes := [⟨"a", "file", "a.py", "app", some "a.py", .null⟩, ⟨"b", "file", "b.py", "app", some "b.py", .null⟩]
  edges := [⟨"a", "b", "imports"⟩]

def changed : SeedReasons importing := ⟨[("a", ["changed_file"])], by decide, by decide⟩

/-- The other file is at distance 1, and the package calls it a seed. -/
theorem neighbour_called_seed :
    ¬(TraversalExact importing changed ⟨"coder", 2, 10⟩ ∧ SeedsExact importing changed ⟨"coder", 2, 10⟩) := by
  rintro ⟨-, exact_⟩
  have listed : "b" ∈ (buildPackage importing changed ⟨"coder", 2, 10⟩).seedNodeIds := by decide +kernel
  have isSeed := nearest_zero.mp ((exact_ "b").mp listed)
  exact absurd isSeed (by decide +kernel)

end Sample

end SacmRuntime
