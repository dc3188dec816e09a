import SacmRuntime.Runtime.ApplicationGraph

namespace SacmRuntime
open Ranking
namespace ApplicationContextService

def SharesTerm (contract : TaskTexts) (node : GraphNode) : Prop :=
  ∃ term ∈ (weightedTerms contract).map Prod.fst, term ∈ nodeTerms node

/-- An edge joins the two nodes, in one direction or the other. -/
def Joined (graph : ContextGraph) (a b : GraphNode) : Prop :=
  ∃ edge ∈ graph.edges, (edge.source = a.id ∧ edge.target = b.id) ∨ (edge.target = a.id ∧ edge.source = b.id)

instance {contract : TaskTexts} {node : GraphNode} : Decidable (SharesTerm contract node) :=
  inferInstanceAs (Decidable (∃ term ∈ (weightedTerms contract).map Prod.fst, term ∈ nodeTerms node))

instance {graph : ContextGraph} {a b : GraphNode} : Decidable (Joined graph a b) :=
  inferInstanceAs (Decidable (∃ edge ∈ graph.edges, _ ∨ _))

/-- The node shares a term with the task, or one of its neighbours does. -/
def Impacted (contract : TaskTexts) (graph : ContextGraph) (node : GraphNode) : Prop :=
  SharesTerm contract node ∨ ∃ other ∈ graph.nodes, SharesTerm contract other ∧ Joined graph other node

instance {contract : TaskTexts} {graph : ContextGraph} {node : GraphNode} : Decidable (Impacted contract graph node) :=
  inferInstanceAs (Decidable (_ ∨ ∃ other ∈ graph.nodes, _ ∧ _))

def impactSet (contract : TaskTexts) (graph : ContextGraph) : List GraphNode := graph.nodes.filter
    (Impacted contract graph ·)

/-- The entry of a node of the full impact set: its own terms count, or else
those of the first neighbour, by id, that has some. -/
def impactOf (contract : TaskTexts) (graph : ContextGraph) (node : GraphNode) : Option ImpactItem :=
  match directItem contract node with
  | some item => some item
  | none =>
    ((directById contract graph).find? fun item => node.id ∈ neighborIds graph item.nodeId).map fun item =>
      propagated item node.id

def allImpacts (contract : TaskTexts) (graph : ContextGraph) : List ImpactItem :=
  graph.nodes.filterMap (impactOf contract graph)

/-- How many nodes of the full impact set rank before a node: those with a
higher score, and those with the same score and a smaller id. -/
def outrankedBy (contract : TaskTexts) (graph : ContextGraph) (node : GraphNode) : Nat :=
  match impactOf contract graph node with
  | none => 0
  | some item => Ranking.ahead impactKey (allImpacts contract graph) item

def spanned (nodes : List GraphNode) : List String := (nodes.flatMap repositoriesOf).dedup

/-- The types of nodes that bring a risk factor of their own. -/
def riskTypes : List (String × List String) :=
  [("database_change", ["database_schema"]), ("api_change", ["api_route"]),
    ("dependency_change", ["dependency", "dependency_manifest"])]

/-- The analysis of the impact shows the hundred best nodes of the full set
and says whether there are more; the analysis of the risk has the factors of
the full set. -/
structure ImpactExact (contract : TaskTexts) (repositories : List ContextRepositoryRow) (graph : ApplicationGraph) :
    Prop where
  ordered : (analyzeImpact contract graph.toContextGraph).impactedNodes.Pairwise fun a b => impactKey a < impactKey b
  best : ∀ item, item ∈ (analyzeImpact contract graph.toContextGraph).impactedNodes ↔
    ∃ node ∈ impactSet contract graph.toContextGraph, impactOf contract graph.toContextGraph node = some item ∧
      outrankedBy contract graph.toContextGraph node < maxImpactNodes
  truncated : (analyzeImpact contract graph.toContextGraph).truncated = true ↔
    maxImpactNodes < (impactSet contract graph.toContextGraph).length
  types : ∀ entry ∈ riskTypes,
    entry.1 ∈ (analyzeRisk contract repositories graph (analyzeImpact contract graph.toContextGraph)).factors.map
      RiskFactor.code ↔ ∃ node ∈ impactSet contract graph.toContextGraph, node.type ∈ entry.2
  repositories : "cross_repository_change" ∈
    (analyzeRisk contract repositories graph (analyzeImpact contract graph.toContextGraph)).factors.map
      RiskFactor.code ↔ 1 < (spanned (impactSet contract graph.toContextGraph)).length

/-- Whatever brings a factor does so within the first hundred: of the types
in the full set some node is outranked by fewer than a hundred nodes, and if
the set spans several repositories, so do the nodes outranked by fewer. -/
def CutKeeps (contract : TaskTexts) (graph : ContextGraph) : Prop :=
  (∀ entry ∈ riskTypes, (∃ node ∈ impactSet contract graph, node.type ∈ entry.2) →
    ∃ node ∈ impactSet contract graph, node.type ∈ entry.2 ∧ outrankedBy contract graph node < maxImpactNodes) ∧
  (1 < (spanned (impactSet contract graph)).length →
    1 < (spanned ((impactSet contract graph).filter fun node =>
      outrankedBy contract graph node < maxImpactNodes)).length)

section
variable {contract : TaskTexts} {graph : ContextGraph} {node : GraphNode} {item : ImpactItem}

theorem directItem_id (found : directItem contract node = some item) : item.nodeId = node.id := by
  unfold directItem at found
  dsimp only at found
  split at found
  · cases found
  · cases found
    rfl

theorem directItem_isSome : (directItem contract node).isSome = true ↔ SharesTerm contract node := by
  unfold directItem SharesTerm
  dsimp only
  have matched : (((weightedTerms contract).map Prod.fst).filter fun term => term ∈ nodeTerms node).insertionSort
      (fun a b => a ≤ b) = [] ↔ ¬ ∃ term ∈ (weightedTerms contract).map Prod.fst, term ∈ nodeTerms node := by
    rw [← List.length_eq_zero_iff, List.length_insertionSort, List.length_eq_zero_iff, List.filter_eq_nil_iff]
    simp
  by_cases none_ : (((weightedTerms contract).map Prod.fst).filter fun term => term ∈ nodeTerms node).insertionSort
      (fun a b => a ≤ b) = []
  · rw [if_pos none_]
    simpa using matched.mp none_
  · rw [if_neg none_]
    simpa using not_not.mp fun absent => none_ (matched.mpr absent)

theorem impactOf_id (found : impactOf contract graph node = some item) : item.nodeId = node.id := by
  unfold impactOf at found
  cases own : directItem contract node with
  | some direct =>
    rw [own] at found
    cases found
    exact directItem_id own
  | none =>
    rw [own] at found
    obtain ⟨source, _, rfl⟩ := Option.map_eq_some_iff.mp found
    rfl

theorem mem_neighborIds {a : String} : a ∈ neighborIds graph item.nodeId ↔
    ∃ edge ∈ graph.edges, (edge.source = item.nodeId ∧ edge.target = a) ∨
      (edge.target = item.nodeId ∧ edge.source = a) := by
  unfold neighborIds Cognitive.sortedSet ContextEngineService.adjacency
  rw [List.mem_insertionSort, List.mem_dedup, List.mem_map]
  constructor
  · rintro ⟨entry, member, rfl⟩
    obtain ⟨edge, inEdges, inBoth⟩ := List.mem_flatMap.mp member
    refine ⟨edge, inEdges, ?_⟩
    rcases List.mem_append.mp inBoth with forward | backward
    · split at forward
      · cases List.mem_singleton.mp forward
        exact .inl ⟨by assumption, rfl⟩
      · cases forward
    · split at backward
      · cases List.mem_singleton.mp backward
        exact .inr ⟨by assumption, rfl⟩
      · cases backward
  · rintro ⟨edge, inEdges, ⟨leaves, enters⟩ | ⟨enters, leaves⟩⟩
    · refine ⟨(edge.target, edge.type), List.mem_flatMap.mpr ⟨edge, inEdges, ?_⟩, enters⟩
      rw [if_pos leaves]
      exact List.mem_append_left _ List.mem_cons_self
    · refine ⟨(edge.source, edge.type), List.mem_flatMap.mpr ⟨edge, inEdges, ?_⟩, leaves⟩
      rw [if_pos enters]
      exact List.mem_append_right _ List.mem_cons_self

theorem mem_direct : item ∈ direct contract graph ↔ ∃ node ∈ graph.nodes, directItem contract node = some item :=
  List.mem_filterMap

theorem mem_directById : item ∈ directById contract graph ↔ item ∈ direct contract graph := List.mem_insertionSort _

theorem impactOf_isSome : (impactOf contract graph node).isSome = true ↔ Impacted contract graph node := by
  unfold impactOf Impacted
  cases own : directItem contract node with
  | some item =>
    have shares : SharesTerm contract node := directItem_isSome.mp (by rw [own]; rfl)
    exact ⟨fun _ => .inl shares, fun _ => rfl⟩
  | none =>
    have alone : ¬ SharesTerm contract node := fun shares => by
      have found := directItem_isSome.mpr shares
      rw [own] at found
      cases found
    simp only [Option.isSome_map, List.find?_isSome, decide_eq_true_eq]
    constructor
    · rintro ⟨item, inDirect, near⟩
      obtain ⟨other, inNodes, found⟩ := mem_direct.mp (mem_directById.mp inDirect)
      obtain ⟨edge, inEdges, ends⟩ := mem_neighborIds.mp near
      rw [directItem_id found] at ends
      exact .inr ⟨other, inNodes, directItem_isSome.mp (by rw [found]; rfl), edge, inEdges, ends⟩
    · rintro (shares | ⟨other, inNodes, shares, edge, inEdges, ends⟩)
      · exact absurd shares alone
      · obtain ⟨item, found⟩ := Option.isSome_iff_exists.mp (directItem_isSome.mpr shares)
        refine ⟨item, mem_directById.mpr (mem_direct.mpr ⟨other, inNodes, found⟩),
          mem_neighborIds.mpr ⟨edge, inEdges, ?_⟩⟩
        rw [directItem_id found]
        exact ends

theorem nodup_ids_filterMap {f : GraphNode → Option ImpactItem}
    (named : ∀ node item, f node = some item → item.nodeId = node.id)
    (distinct : (graph.nodes.map GraphNode.id).Nodup) : ((graph.nodes.filterMap f).map ImpactItem.nodeId).Nodup := by
  generalize graph.nodes = nodes at distinct ⊢
  induction nodes with
  | nil => exact List.nodup_nil
  | cons node rest ih =>
    obtain ⟨fresh, distinct⟩ := List.nodup_cons.mp distinct
    cases found : f node with
    | none =>
      rw [List.filterMap_cons_none found]
      exact ih distinct
    | some item =>
      rw [List.filterMap_cons_some found, List.map_cons]
      refine List.nodup_cons.mpr ⟨fun again => fresh ?_, ih distinct⟩
      obtain ⟨other, inRest, same⟩ := List.mem_map.mp again
      obtain ⟨twin, inNodes, foundTwin⟩ := List.mem_filterMap.mp inRest
      rw [named node item found, named twin other foundTwin] at same
      exact List.mem_map.mpr ⟨twin, inNodes, same⟩

/-- A source adds an entry for each of its neighbours that has none, and changes no
entry. -/
theorem foldl_reach (graph : ContextGraph) (source : ImpactItem) (ids : List String) {acc : List ImpactItem}
    (distinct : (acc.map ImpactItem.nodeId).Nodup) :
    ((ids.foldl (reach graph source) acc).map ImpactItem.nodeId).Nodup ∧
    ∀ item, item ∈ ids.foldl (reach graph source) acc ↔ item ∈ acc ∨
      ∃ id ∈ ids, id ∉ acc.map ImpactItem.nodeId ∧ id ∈ graph.nodes.map GraphNode.id ∧ item = propagated source id := by
  induction ids generalizing acc with
  | nil => exact ⟨distinct, fun item => by simp⟩
  | cons id ids ih =>
    rw [List.foldl_cons]
    by_cases skipped : id ∈ acc.map ImpactItem.nodeId ∨ id ∉ graph.nodes.map GraphNode.id
    · have same : reach graph source acc id = acc := if_pos skipped
      rw [same]
      refine ⟨(ih distinct).1, fun item => ?_⟩
      rw [(ih distinct).2]
      constructor
      · rintro (old | ⟨other, member, new⟩)
        · exact .inl old
        · exact .inr ⟨other, List.mem_cons_of_mem _ member, new⟩
      · rintro (old | ⟨other, member, fresh, known, new⟩)
        · exact .inl old
        · rcases List.mem_cons.mp member with rfl | member
          · rcases skipped with held | unknown
            · exact absurd held fresh
            · exact absurd known unknown
          · exact .inr ⟨other, member, fresh, known, new⟩
    · obtain ⟨fresh, known⟩ := not_or.mp skipped
      have known : id ∈ graph.nodes.map GraphNode.id := not_not.mp known
      have added : reach graph source acc id = acc ++ [propagated source id] := if_neg skipped
      have ids_added : (acc ++ [propagated source id]).map ImpactItem.nodeId = acc.map ImpactItem.nodeId ++ [id] := by
        simp [propagated]
      have distinct_added : ((acc ++ [propagated source id]).map ImpactItem.nodeId).Nodup := by
        rw [ids_added]
        exact List.nodup_append.mpr ⟨distinct, List.nodup_singleton _, fun a atAcc b atNew same => by
          cases List.mem_singleton.mp atNew
          exact fresh (same ▸ atAcc)⟩
      rw [added]
      refine ⟨(ih distinct_added).1, fun item => ?_⟩
      rw [(ih distinct_added).2, ids_added, List.mem_append, List.mem_singleton]
      constructor
      · rintro ((old | new) | ⟨other, member, unheld, inNodes, new⟩)
        · exact .inl old
        · exact .inr ⟨id, List.mem_cons_self, fresh, known, new⟩
        · exact .inr ⟨other, List.mem_cons_of_mem _ member, fun held => unheld (List.mem_append_left _ held),
            inNodes, new⟩
      · rintro (old | ⟨other, member, unheld, inNodes, new⟩)
        · exact .inl (.inl old)
        · rcases List.mem_cons.mp member with rfl | member
          · exact .inl (.inr new)
          · by_cases same : other = id
            · subst same
              exact .inl (.inr new)
            · refine .inr ⟨other, member, ?_, inNodes, new⟩
              simpa [same] using unheld

/-- After some of the direct entries have been sources: every node is entered once at
most, with the first source that reaches it. -/
theorem foldl_direct (contract : TaskTexts) (distinct : (graph.nodes.map GraphNode.id).Nodup) (done : List ImpactItem) :
    let acc := done.foldl (fun impacts item => (neighborIds graph item.nodeId).foldl (reach graph item) impacts)
      (direct contract graph)
    (acc.map ImpactItem.nodeId).Nodup ∧
    ∀ item, item ∈ acc ↔ item ∈ direct contract graph ∨
      ∃ node ∈ graph.nodes, directItem contract node = none ∧
        ∃ source, done.find? (fun other => node.id ∈ neighborIds graph other.nodeId) = some source ∧
          item = propagated source node.id := by
  have once : ((direct contract graph).map ImpactItem.nodeId).Nodup :=
    nodup_ids_filterMap (fun _ _ => directItem_id) distinct
  induction done using List.reverseRecOn with
  | nil => exact ⟨once, fun item => by simp⟩
  | append_singleton done source ih =>
    obtain ⟨nodup, held⟩ := ih
    rw [List.foldl_append, List.foldl_cons, List.foldl_nil]
    obtain ⟨nodupNext, heldNext⟩ := foldl_reach graph source (neighborIds graph source.nodeId) nodup
    refine ⟨nodupNext, fun item => ?_⟩
    rw [heldNext, held]
    generalize done.foldl _ (direct contract graph) = acc at held
    have idHeld (node : GraphNode) (inNodes : node ∈ graph.nodes) : node.id ∈ acc.map ImpactItem.nodeId ↔
        (directItem contract node).isSome ∨
            (done.find? fun other => node.id ∈ neighborIds graph other.nodeId).isSome := by
      constructor
      · intro inAcc
        obtain ⟨item, member, same⟩ := List.mem_map.mp inAcc
        rcases (held item).mp member with old | ⟨other, inOthers, alone, source, found, rfl⟩
        · obtain ⟨other, inOthers, found⟩ := mem_direct.mp old
          rw [directItem_id found] at same
          rw [← List.inj_on_of_nodup_map distinct inOthers inNodes same, found]
          exact .inl rfl
        · have same : other.id = node.id := same
          rw [← same, found]
          exact .inr rfl
      · intro either
        cases own : directItem contract node with
        | some item =>
          have member : item ∈ acc := (held item).mpr (.inl (mem_direct.mpr ⟨node, inNodes, own⟩))
          exact List.mem_map.mpr ⟨item, member, directItem_id own⟩
        | none =>
          rw [own] at either
          rcases either with absurd_ | found
          · cases absurd_
          · obtain ⟨source, found⟩ := Option.isSome_iff_exists.mp found
            exact List.mem_map.mpr ⟨_, (held _).mpr (.inr ⟨node, inNodes, own, source, found, rfl⟩), rfl⟩
    constructor
    · rintro ((old | ⟨node, inNodes, alone, first, found, same⟩) | ⟨id, near, fresh, known, same⟩)
      · exact .inl old
      · refine .inr ⟨node, inNodes, alone, first, ?_, same⟩
        rw [List.find?_append, found]
        rfl
      · obtain ⟨node, inNodes, rfl⟩ := List.mem_map.mp known
        have unheld := mt (idHeld node inNodes).mpr fresh
        obtain ⟨alone, unreached⟩ := not_or.mp unheld
        refine .inr ⟨node, inNodes, by simpa using alone, source, ?_, same⟩
        have unreached : done.find? (fun other => node.id ∈ neighborIds graph other.nodeId) = none := by
          simpa using unreached
        rw [List.find?_append, unreached]
        simp [near]
    · rintro (old | ⟨node, inNodes, alone, first, found, same⟩)
      · exact .inl (.inl old)
      · rw [List.find?_append] at found
        cases reached : done.find? (fun other => node.id ∈ neighborIds graph other.nodeId) with
        | some other =>
          rw [reached] at found
          cases found
          exact .inl (.inr ⟨node, inNodes, alone, first, reached, same⟩)
        | none =>
          rw [reached] at found
          have found : [source].find? (fun other => node.id ∈ neighborIds graph other.nodeId) = some first := found
          have here : first = source := List.mem_singleton.mp (List.mem_of_find?_eq_some found)
          subst here
          have near := List.find?_some found
          refine .inr ⟨node.id, by simpa using near, ?_, List.mem_map_of_mem inNodes, same⟩
          rw [idHeld node inNodes, alone, reached]
          simp

theorem nodup_allImpacts (distinct : (graph.nodes.map GraphNode.id).Nodup) :
    ((allImpacts contract graph).map ImpactItem.nodeId).Nodup :=
  nodup_ids_filterMap (fun _ _ => impactOf_id) distinct

/-- The two loops find the full impact set. -/
theorem impacts_perm (distinct : (graph.nodes.map GraphNode.id).Nodup) :
    (impacts contract graph).Perm (allImpacts contract graph) := by
  obtain ⟨nodup, held⟩ := foldl_direct contract distinct (directById contract graph)
  refine (List.perm_ext_iff_of_nodup nodup.of_map (nodup_allImpacts distinct).of_map).mpr fun item => ?_
  refine (held item).trans ?_
  unfold allImpacts
  rw [List.mem_filterMap]
  constructor
  · rintro (old | ⟨node, inNodes, alone, source, found, rfl⟩)
    · obtain ⟨node, inNodes, found⟩ := mem_direct.mp old
      refine ⟨node, inNodes, ?_⟩
      unfold impactOf
      rw [found]
    · refine ⟨node, inNodes, ?_⟩
      unfold impactOf
      rw [alone, found]
      rfl
  · rintro ⟨node, inNodes, found⟩
    unfold impactOf at found
    cases own : directItem contract node with
    | some direct =>
      rw [own] at found
      cases found
      exact .inl (mem_direct.mpr ⟨node, inNodes, own⟩)
    | none =>
      rw [own] at found
      obtain ⟨source, reached, rfl⟩ := Option.map_eq_some_iff.mp found
      exact .inr ⟨node, inNodes, own, source, reached, rfl⟩

theorem mem_impactSet : node ∈ impactSet contract graph ↔ node ∈ graph.nodes ∧ Impacted contract graph node := by
  unfold impactSet
  rw [List.mem_filter, decide_eq_true_eq]

theorem length_allImpacts : (allImpacts contract graph).length = (impactSet contract graph).length := by
  unfold allImpacts impactSet
  rw [List.length_filterMap_eq_countP, List.countP_eq_length_filter]
  congr 1
  refine List.filter_congr fun node _ => ?_
  exact Bool.eq_iff_iff.mpr (impactOf_isSome.trans decide_eq_true_iff.symm)

theorem nodup_keys {items : List ImpactItem} (distinct : (items.map ImpactItem.nodeId).Nodup) :
    (items.map impactKey).Nodup := by
  have named : items.map ImpactItem.nodeId = (items.map impactKey).map fun key => (ofLex key).2 := by
    rw [List.map_map]
    rfl
  rw [named] at distinct
  exact distinct.of_map

section
variable (distinct : (graph.nodes.map GraphNode.id).Nodup)
include distinct

/-- What is shown are the nodes that fewer than a hundred others outrank. -/
theorem mem_impactedNodes :
    item ∈ (analyzeImpact contract graph).impactedNodes ↔
      ∃ node ∈ impactSet contract graph, impactOf contract graph node = some item ∧
        outrankedBy contract graph node < maxImpactNodes := by
  have same : (impacts contract graph).Perm (allImpacts contract graph) := impacts_perm distinct
  have keys : ((impacts contract graph).map impactKey).Nodup :=
    (same.map impactKey).nodup_iff.mpr (nodup_keys (nodup_allImpacts distinct))
  have shown : item ∈ (analyzeImpact contract graph).impactedNodes ↔
      item ∈ allImpacts contract graph ∧ ahead impactKey (allImpacts contract graph) item < maxImpactNodes := by
    refine (mem_first_iff keys).trans ?_
    unfold ahead
    rw [same.mem_iff, same.countP_eq]
  rw [shown]
  unfold allImpacts at *
  rw [List.mem_filterMap]
  constructor
  · rintro ⟨⟨node, inNodes, found⟩, few⟩
    refine ⟨node, mem_impactSet.mpr ⟨inNodes, impactOf_isSome.mp (by rw [found]; rfl)⟩, found, ?_⟩
    unfold outrankedBy
    rw [found]
    exact few
  · rintro ⟨node, inSet, found, few⟩
    unfold outrankedBy at few
    rw [found] at few
    exact ⟨⟨node, (mem_impactSet.mp inSet).1, found⟩, few⟩

theorem mem_impactedIds (inNodes : node ∈ graph.nodes) :
    node.id ∈ (analyzeImpact contract graph).impactedNodes.map ImpactItem.nodeId ↔
      node ∈ impactSet contract graph ∧ outrankedBy contract graph node < maxImpactNodes := by
  rw [List.mem_map]
  constructor
  · rintro ⟨item, member, same⟩
    obtain ⟨other, inSet, found, few⟩ := (mem_impactedNodes distinct).mp member
    rw [impactOf_id found] at same
    rw [← List.inj_on_of_nodup_map distinct (mem_impactSet.mp inSet).1 inNodes same]
    exact ⟨inSet, few⟩
  · rintro ⟨inSet, few⟩
    obtain ⟨item, found⟩ := Option.isSome_iff_exists.mp (impactOf_isSome.mpr (mem_impactSet.mp inSet).2)
    exact ⟨item, (mem_impactedNodes distinct).mpr ⟨node, inSet, found, few⟩, impactOf_id found⟩

theorem node?_eq (inNodes : node ∈ graph.nodes) :
    graph.node? node.id = some node := by
  unfold ContextGraph.node?
  cases found : graph.nodes.reverse.find? (fun other => other.id = node.id) with
  | none =>
    have absent := List.find?_eq_none.mp found node (List.mem_reverse.mpr inNodes)
    simp at absent
  | some other =>
    have same : other.id = node.id := by simpa using List.find?_some found
    rw [List.inj_on_of_nodup_map distinct (List.mem_reverse.mp (List.mem_of_find?_eq_some found)) inNodes same]

theorem impactedRepositoryCount_eq :
    (analyzeImpact contract graph).impactedRepositoryCount =
      (spanned ((impactSet contract graph).filter fun node =>
        outrankedBy contract graph node < maxImpactNodes)).length := by
  refine List.Perm.length_eq ((List.perm_ext_iff_of_nodup (List.nodup_dedup _) (List.nodup_dedup _)).mpr fun name => ?_)
  rw [List.mem_dedup, List.mem_dedup, List.mem_flatMap, List.mem_flatMap]
  refine exists_congr fun node => and_congr_left fun _ => ?_
  rw [List.mem_filterMap, List.mem_filter, decide_eq_true_eq]
  constructor
  · rintro ⟨item, member, found⟩
    obtain ⟨other, inSet, foundOther, few⟩ := (mem_impactedNodes distinct).mp member
    rw [impactOf_id foundOther, node?_eq distinct (mem_impactSet.mp inSet).1] at found
    cases found
    exact ⟨inSet, few⟩
  · rintro ⟨inSet, few⟩
    obtain ⟨item, member, same⟩ := List.mem_map.mp
      ((mem_impactedIds distinct (mem_impactSet.mp inSet).1).mpr ⟨inSet, few⟩)
    exact ⟨item, member, same ▸ node?_eq distinct (mem_impactSet.mp inSet).1⟩

end

end

section
variable {contract : TaskTexts} {repositories : List ContextRepositoryRow} {graph : ApplicationGraph}

theorem code_mem_factors {impact : NodeImpact} {code : String} :
    code ∈ (analyzeRisk contract repositories graph impact).factors.map RiskFactor.code ↔
      ∃ factor ∈ considered contract repositories graph impact, factor.contribution ≠ 0 ∧ factor.code = code := by
  unfold analyzeRisk
  simp [and_assoc]

/-- The factor of a type is there if a node of the type is shown. -/
theorem type_factor {entry : String × List String} (member : entry ∈ riskTypes) :
    entry.1 ∈ (analyzeRisk contract repositories graph (analyzeImpact contract graph.toContextGraph)).factors.map
      RiskFactor.code ↔ ∃ node ∈ impactSet contract graph.toContextGraph, node.type ∈ entry.2 ∧
        outrankedBy contract graph.toContextGraph node < maxImpactNodes := by
  have reached (type : String) : type ∈ (graph.nodes.filter fun node => node.id ∈
      (analyzeImpact contract graph.toContextGraph).impactedNodes.map ImpactItem.nodeId).map GraphNode.type ↔
      ∃ node ∈ impactSet contract graph.toContextGraph, node.type = type ∧
        outrankedBy contract graph.toContextGraph node < maxImpactNodes := by
    rw [List.mem_map]
    constructor
    · rintro ⟨node, inFiltered, same⟩
      obtain ⟨inNodes, named⟩ := List.mem_filter.mp inFiltered
      obtain ⟨inSet, few⟩ := (mem_impactedIds graph.distinct inNodes).mp (of_decide_eq_true named)
      exact ⟨node, inSet, same, few⟩
    · rintro ⟨node, inSet, same, few⟩
      have inNodes := (mem_impactSet.mp inSet).1
      have named := (mem_impactedIds graph.distinct inNodes).mpr ⟨inSet, few⟩
      exact ⟨node, List.mem_filter.mpr ⟨inNodes, decide_eq_true named⟩, same⟩
  rw [code_mem_factors]
  unfold considered
  dsimp only
  generalize (graph.nodes.filter _).map GraphNode.type = types at reached ⊢
  simp only [riskTypes, List.mem_cons, List.not_mem_nil, or_false] at member
  rcases member with rfl | rfl | rfl
  · simpa using reached "database_schema"
  · simpa using reached "api_route"
  · have either := or_congr (reached "dependency") (reached "dependency_manifest")
    have split : (∃ node ∈ impactSet contract graph.toContextGraph, node.type ∈ ["dependency", "dependency_manifest"] ∧
        outrankedBy contract graph.toContextGraph node < maxImpactNodes) ↔
        "dependency" ∈ types ∨ "dependency_manifest" ∈ types := by
      simp only [List.mem_cons, List.not_mem_nil, or_false, or_and_right, and_or_left, exists_or]
      exact either.symm
    rw [split]
    simp
    exact or_iff_not_imp_left.symm

/-- The factor for several repositories counts those of the shown nodes. -/
theorem repository_factor :
    "cross_repository_change" ∈
      (analyzeRisk contract repositories graph (analyzeImpact contract graph.toContextGraph)).factors.map
        RiskFactor.code ↔
      1 < (spanned ((impactSet contract graph.toContextGraph).filter fun node =>
        outrankedBy contract graph.toContextGraph node < maxImpactNodes)).length := by
  rw [code_mem_factors, ← impactedRepositoryCount_eq graph.distinct]
  unfold considered
  dsimp only
  simp

theorem length_spanned_mono {some_ all_ : List GraphNode} (subset : some_ ⊆ all_) :
    (spanned some_).length ≤ (spanned all_).length := by
  refine ((List.nodup_dedup _).subperm fun name member => ?_).length_le
  obtain ⟨node, inSome, named⟩ := List.mem_flatMap.mp (List.mem_dedup.mp member)
  exact List.mem_dedup.mpr (List.mem_flatMap.mpr ⟨node, subset inSome, named⟩)

/-- The impact analysis always shows the hundred best nodes and says whether
it was cut. The risk factors are those of the full impact set exactly when
whatever brings a factor does so within the first hundred. -/
theorem impact_cut_exact (contract : TaskTexts) (repositories : List ContextRepositoryRow) (graph : ApplicationGraph) :
    ImpactExact contract repositories graph ↔ CutKeeps contract graph.toContextGraph := by
  constructor
  · intro exact_
    refine ⟨fun entry member full => ?_, fun several => ?_⟩
    · exact (type_factor member).mp ((exact_.types entry member).mpr full)
    · exact repository_factor.mp (exact_.repositories.mpr several)
  · rintro ⟨types, several⟩
    refine ⟨?_, fun item => mem_impactedNodes graph.distinct, ?_, fun entry member => ?_, ?_⟩
    · have keys : ((impacts contract graph.toContextGraph).map impactKey).Nodup :=
        ((impacts_perm graph.distinct).map impactKey).nodup_iff.mpr (nodup_keys (nodup_allImpacts graph.distinct))
      exact (Ranking.ranked_strict keys).sublist (List.take_sublist _ _)
    · have length : (Ranking.ranked impactKey (impacts contract graph.toContextGraph)).length =
          (impactSet contract graph.toContextGraph).length :=
        ((Ranking.ranked_perm _).length_eq.trans (impacts_perm graph.distinct).length_eq).trans length_allImpacts
      change decide (_ < (Ranking.ranked impactKey (impacts contract graph.toContextGraph)).length) = true ↔ _
      rw [length, decide_eq_true_eq]
    · rw [type_factor member]
      constructor
      · rintro ⟨node, inSet, type, _⟩
        exact ⟨node, inSet, type⟩
      · exact types entry member
    · rw [repository_factor]
      constructor
      · intro shown
        exact shown.trans_le (length_spanned_mono (List.filter_subset_self _))
      · exact several

end

theorem mem_tokens_append {before rest term : List Char} {sep : Char} (plain : lowerChar sep = [sep])
    (apart : tokenChar sep = false) :
    term ∈ tokens (before ++ sep :: rest) ↔ term ∈ tokens before ∨ term ∈ tokens rest := by
  unfold tokens
  rw [List.flatMap_append, List.flatMap_cons, plain, List.singleton_append,
    List.splitOnP_append_cons _ _ (by simp [apart])]
  simp only [List.mem_insertionSort, List.mem_dedup, List.filter_append, List.mem_append]

namespace Sample

def retries : TaskTexts where
  title := "Pay retry"
  description := ""
  acceptanceCriteria := []
  labels := ["ledger"]

/-- `pay_retry_` with two digits. -/
def retryName (i : Nat) : List Char :=
  ['p', 'a', 'y', '_', 'r', 'e', 't', 'r', 'y', '_', Char.ofNat (48 + i / 10), Char.ofNat (48 + i % 10), '.', 'p', 'y']

def retryFile (i : Nat) : GraphNode where
  id := "repository:000:file:" ++ String.ofList (retryName i)
  type := "file"
  label := String.ofList (retryName i)
  repository := "repository:000"
  path := some (String.ofList (retryName i))
  metadata := .obj [("size_bytes", .int 120)]

def ledger : GraphNode where
  id := "repository:000:database_schema:ledger.py:000010:000"
  type := "database_schema"
  label := "Ledger"
  repository := "repository:000"
  path := some "ledger.py"
  metadata := .obj [("declaration_type", .str "sqlalchemy_model"), ("line", .int 10), ("name", .str "Ledger")]

theorem weights : weightedTerms retries =
    [(['p', 'a', 'y'], 4), (['r', 'e', 't', 'r', 'y'], 4), (['l', 'e', 'd', 'g', 'e', 'r'], 2)] := by decide +kernel

theorem score_retryFile (i : Nat) : ∃ item, directItem retries (retryFile i) = some item ∧ 8 ≤ item.score := by
  have pay : ['p', 'a', 'y'] ∈ nodeTerms (retryFile i) := by
    unfold nodeTerms retryFile
    rw [String.toList_ofList]
    change _ ∈ tokens (['p', 'a', 'y'] ++ '_' :: _)
    rw [mem_tokens_append rfl rfl]
    exact .inl (by decide +kernel)
  have retry : ['r', 'e', 't', 'r', 'y'] ∈ nodeTerms (retryFile i) := by
    unfold nodeTerms retryFile
    rw [String.toList_ofList]
    change _ ∈ tokens (['p', 'a', 'y'] ++ '_' :: (['r', 'e', 't', 'r', 'y'] ++ '_' :: _))
    rw [mem_tokens_append rfl rfl, mem_tokens_append rfl rfl]
    exact .inr (.inl (by decide +kernel))
  unfold directItem
  rw [weights]
  simp only [List.map_cons, List.map_nil, List.filter_cons, pay, retry, decide_true, if_true]
  have ends : (List.filter (fun term => decide (term ∈ nodeTerms (retryFile i))) [] : List (List Char)) = [] := rfl
  rw [ends]
  by_cases other : ['l', 'e', 'd', 'g', 'e', 'r'] ∈ nodeTerms (retryFile i)
  · simp only [other, decide_true, if_true]
    refine ⟨_, rfl, Nat.le_trans ?_ (Nat.le_add_right _ _)⟩
    decide
  · simp only [other, decide_false, Bool.false_eq_true, if_false]
    refine ⟨_, rfl, Nat.le_trans ?_ (Nat.le_add_right _ _)⟩
    decide

theorem score_ledger : (directItem retries ledger).map ImpactItem.score = some 4 := by
  unfold directItem
  simp only [weights]
  decide +kernel

theorem retryFile_inj {i j : Nat} (boundI : i < 100) (boundJ : j < 100) (same : (retryFile i).id = (retryFile j).id) :
    i = j := by
  have digits : ∀ a < 10, ∀ b < 10, Char.ofNat (48 + a) = Char.ofNat (48 + b) → a = b := by decide
  have names : retryName i = retryName j := String.ofList_injective (String.append_right_inj _ |>.mp same)
  unfold retryName at names
  simp only [List.cons.injEq, true_and, and_true] at names
  have tens := digits (i / 10) (by omega) (j / 10) (by omega) names.1
  have ones := digits (i % 10) (by omega) (j % 10) (by omega) names.2
  omega

theorem ledger_apart (i : Nat) : (retryFile i).id ≠ ledger.id := by
  intro same
  have file : (retryFile i).id.length = 35 := by
    change ("repository:000:file:" ++ String.ofList (retryName i)).length = 35
    rw [String.length_append, String.length_ofList, String.length_ofList]
    rfl
  have table : ledger.id.length = 51 := by decide +kernel
  rw [same, table] at file
  cases file

/-- A graph with a hundred files that rank before the table. -/
def crowded : ApplicationGraph where
  nodes := (List.range 100).map retryFile ++ [ledger]
  edges := []
  truncated := false
  distinct := by
    rw [List.map_append, List.map_map]
    refine List.nodup_append.mpr ⟨?_, List.nodup_singleton _, ?_⟩
    · refine List.Nodup.map_on (fun i atI j atJ same => ?_) List.nodup_range
      exact retryFile_inj (List.mem_range.mp atI) (List.mem_range.mp atJ) same
    · intro a atFiles b atLedger
      obtain ⟨i, _, rfl⟩ := List.mem_map.mp atFiles
      cases List.mem_singleton.mp atLedger
      exact ledger_apart i

theorem crowded_nodes : crowded.nodes = (List.range 100).map retryFile ++ [ledger] := rfl

theorem ledger_crowded : ledger ∈ crowded.nodes := by
  rw [crowded_nodes]
  exact List.mem_append_right _ List.mem_cons_self

theorem ledger_outranked : maxImpactNodes ≤ outrankedBy retries crowded.toContextGraph ledger := by
  obtain ⟨own, found, score⟩ := Option.map_eq_some_iff.mp score_ledger
  have entry : impactOf retries crowded.toContextGraph ledger = some own := by
    unfold impactOf
    rw [found]
  have before : ∀ i ∈ List.range 100, ((((impactOf retries crowded.toContextGraph ∘ retryFile) i).map fun item =>
      decide (impactKey item < impactKey own)).getD false) = true := by
    intro i _
    obtain ⟨item, foundItem, scoreItem⟩ := score_retryFile i
    have entry : impactOf retries crowded.toContextGraph (retryFile i) = some item := by
      unfold impactOf
      rw [foundItem]
    rw [Function.comp_apply, entry]
    refine decide_eq_true (Prod.Lex.toLex_lt_toLex.mpr (.inl (OrderDual.toDual_lt_toDual.mpr ?_)))
    omega
  unfold outrankedBy
  rw [entry]
  change 100 ≤ ahead impactKey (allImpacts retries crowded.toContextGraph) own
  unfold ahead allImpacts
  rw [crowded_nodes, List.filterMap_append, List.countP_append, List.filterMap_map, List.countP_filterMap]
  rw [List.countP_eq_length.mpr before, List.length_range]
  exact Nat.le_add_right _ _

end Sample

open ApplicationContextService.Sample in
/-- A table is behind a hundred files of the task: the risk analysis does not
say that the change reaches a schema. -/
theorem schema_behind_cut : ¬ ImpactExact retries [] crowded := by
  intro exact_
  have shares : SharesTerm retries ledger := directItem_isSome.mp (by
    obtain ⟨own, found, _⟩ := Option.map_eq_some_iff.mp score_ledger
    rw [found]
    rfl)
  have inSet : ledger ∈ impactSet retries crowded.toContextGraph := mem_impactSet.mpr ⟨ledger_crowded, .inl shares⟩
  have member : ("database_change", ["database_schema"]) ∈ riskTypes := List.mem_cons_self
  have factor := (exact_.types _ member).mpr ⟨ledger, inSet, List.mem_cons_self⟩
  obtain ⟨node, inNodes, type, few⟩ := (type_factor member).mp factor
  have inNodes := (mem_impactSet.mp inNodes).1
  rw [crowded_nodes] at inNodes
  rcases List.mem_append.mp inNodes with file | table
  · obtain ⟨i, _, rfl⟩ := List.mem_map.mp file
    have other : "file" ∈ ["database_schema"] := type
    simp at other
  · cases List.mem_singleton.mp table
    exact absurd few (Nat.not_lt.mpr ledger_outranked)

end ApplicationContextService
end SacmRuntime
