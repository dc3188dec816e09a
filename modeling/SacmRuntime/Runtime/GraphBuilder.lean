import SacmRuntime.Lib.Table
import SacmRuntime.Runtime.ContextTraversal

namespace SacmRuntime

deriving instance DecidableEq for GraphNode
deriving instance DecidableEq for GraphEdge

instance : Keyed GraphNode := ⟨GraphNode.id⟩

structure GraphBuilder where
  nodes : Table GraphNode := .empty
  edges : Finset GraphEdge := ∅
  truncated : Bool := false

namespace GraphBuilder

def maxNodes : Nat := 20000

def maxEdges : Nat := 40000

/-- `add_node`. -/
def addNode (node : GraphNode) (g : GraphBuilder) : Bool × GraphBuilder :=
  match g.nodes.insert? node with
  | none => (true, g)
  | some nodes =>
    if maxNodes ≤ g.nodes.rows.length then (false, { g with truncated := true })
    else (true, { g with nodes := nodes })

/-- `add_edge`. -/
def addEdge (source target type : String) (g : GraphBuilder) : GraphBuilder :=
  if (g.nodes.find source).isNone || (g.nodes.find target).isNone then g
  else if maxEdges ≤ g.edges.card then { g with truncated := true }
  else { g with edges := insert ⟨source, target, type⟩ g.edges }

/-- `nodes[id]["metadata"]` is changed in place. -/
def annotate (id : String) (f : Json → Json) (g : GraphBuilder) : GraphBuilder :=
  { g with nodes := g.nodes.update id fun node => { node with metadata := f node.metadata } }

/-- What the graph can only gain: nodes, edges and the mark that it is truncated. -/
structure Within (g h : GraphBuilder) : Prop where
  nodes : ∀ id, (g.nodes.find id).isSome → (h.nodes.find id).isSome
  edges : g.edges ⊆ h.edges
  truncated : g.truncated = true → h.truncated = true

variable {g h k : GraphBuilder} {node : GraphNode} {source target type id : String} {f : Json → Json}

theorem Within.refl (g : GraphBuilder) : Within g g := ⟨fun _ here => here, Finset.Subset.refl _, fun here => here⟩

theorem Within.trans (first : Within g h) (second : Within h k) : Within g k :=
  ⟨fun id here => second.nodes id (first.nodes id here), first.edges.trans second.edges,
    fun here => second.truncated (first.truncated here)⟩

theorem Within.whole (within : Within g h) (whole : h.truncated = false) : g.truncated = false := by
  cases marked : g.truncated with
  | false => rfl
  | true =>
    rw [within.truncated marked] at whole
    cases whole

theorem addNode_within : Within g (addNode node g).2 := by
  unfold addNode
  cases inserted : g.nodes.insert? node with
  | none => exact .refl g
  | some nodes =>
    by_cases full : maxNodes ≤ g.nodes.rows.length
    · simp only [if_pos full]
      exact ⟨fun _ here => here, Finset.Subset.refl _, fun _ => rfl⟩
    · simp only [if_neg full]
      refine ⟨fun id here => ?_, Finset.Subset.refl _, fun here => here⟩
      rw [Table.find_insert? inserted]
      split
      · rfl
      · exact here

theorem addEdge_within : Within g (addEdge source target type g) := by
  unfold addEdge
  split
  · exact .refl g
  · split
    · exact ⟨fun _ here => here, Finset.Subset.refl _, fun _ => rfl⟩
    · exact ⟨fun _ here => here, Finset.subset_insert _ _, fun here => here⟩

theorem annotate_within : Within g (annotate id f g) :=
  ⟨fun _ here => Table.find_update_isSome.trans here, Finset.Subset.refl _, fun here => here⟩

theorem addNode_lands (whole : (addNode node g).2.truncated = false) :
    ((addNode node g).2.nodes.find node.id).isSome := by
  unfold addNode at whole ⊢
  cases inserted : g.nodes.insert? node with
  | none =>
    change (g.nodes.find node.id).isSome = true
    cases found : g.nodes.find node.id with
    | some known => rfl
    | none =>
      obtain ⟨nodes, room⟩ := Table.insert?_isSome_of_fresh found
      rw [inserted] at room
      cases room
  | some nodes =>
    simp only [inserted] at whole ⊢
    split at whole
    · cases whole
    · rename_i room
      rw [if_neg room]
      have here := Table.find_insert? inserted (Keyed.key node)
      rw [if_pos rfl] at here
      change (nodes.find (Keyed.key node)).isSome = true
      rw [here]
      rfl

theorem addEdge_lands (atSource : (g.nodes.find source).isSome) (atTarget : (g.nodes.find target).isSome)
    (whole : (addEdge source target type g).truncated = false) :
    ⟨source, target, type⟩ ∈ (addEdge source target type g).edges := by
  have both : ¬((g.nodes.find source).isNone || (g.nodes.find target).isNone) = true := by
    simp [Option.isNone_eq_false_iff.mpr atSource, Option.isNone_eq_false_iff.mpr atTarget]
  unfold addEdge at whole ⊢
  rw [if_neg both] at whole ⊢
  split at whole
  · cases whole
  · rename_i room
    rw [if_neg room]
    exact Finset.mem_insert_self _ _

theorem foldl_addEdge_within (types : List String) :
    Within g (types.foldl (fun graph type => graph.addEdge source target type) g) := by
  induction types generalizing g with
  | nil => exact .refl g
  | cons type rest ih => exact addEdge_within.trans ih

theorem foldl_addEdge_lands {types : List String} (atSource : (g.nodes.find source).isSome)
    (atTarget : (g.nodes.find target).isSome)
    (whole : (types.foldl (fun graph type => graph.addEdge source target type) g).truncated = false) :
    ∀ type ∈ types, ⟨source, target, type⟩ ∈
      (types.foldl (fun graph type => graph.addEdge source target type) g).edges := by
  induction types generalizing g with
  | nil =>
    intro type member
    cases member
  | cons first rest ih =>
    intro type member
    have next : Within g (g.addEdge source target first) := addEdge_within
    have later : Within (g.addEdge source target first) ((first :: rest).foldl
        (fun graph type => graph.addEdge source target type) g) := foldl_addEdge_within rest
    rcases List.mem_cons.mp member with rfl | inRest
    · exact later.edges (addEdge_lands atSource atTarget (later.whole whole))
    · exact ih (next.nodes _ atSource) (next.nodes _ atTarget) whole type inRest

end GraphBuilder

end SacmRuntime
