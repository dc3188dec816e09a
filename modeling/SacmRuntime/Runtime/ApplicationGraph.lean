import SacmRuntime.Cognitive.Text
import SacmRuntime.Governance.Tenancy
import SacmRuntime.Lib.JsonIndent
import SacmRuntime.Lib.Ranking
import SacmRuntime.Runtime.ContextTraversal

namespace SacmRuntime

/-- What `GraphBuilder.dump` gives: the nodes of a dictionary, so that no two
share their id. -/
structure ApplicationGraph extends ContextGraph where
  truncated : Bool
  distinct : (nodes.map GraphNode.id).Nodup

/-- The parts of a `TaskContractV1` that are searched for terms. -/
structure TaskTexts where
  title : String
  description : String
  acceptanceCriteria : List String
  labels : List String

/-- The columns of `ApplicationContextRepository` the risk depends on;
`codeIntelligence` is the status in `scan_metadata`. -/
structure ContextRepositoryRow where
  status : String
  codeIntelligence : Option String

/-- An entry of `impacted_nodes`. -/
structure ImpactItem where
  nodeId : String
  score : Nat
  matchedTerms : List (List Char)
  reasons : List String

/-- What `_analyze_impact` returns. -/
structure NodeImpact where
  queryTerms : List (List Char)
  impactedNodes : List ImpactItem
  impactedRepositoryCount : Nat
  truncated : Bool

structure RiskFactor where
  code : String
  contribution : Nat
  explanation : String

/-- What `_analyze_risk` returns. -/
structure RiskAnalysis where
  score : Nat
  level : String
  factors : List RiskFactor

namespace ApplicationContextService

def maxImpactNodes : Nat := 100

def stopWords : List (List Char) :=
  ["acceptance", "add", "after", "against", "all", "and", "application", "are", "build", "change", "criteria",
    "description", "for", "from", "have", "implement", "into", "must", "new", "not", "phase", "repository",
    "repositories", "should", "task", "that", "the", "this", "through", "use", "using", "where", "with", "file",
    "files", "module", "modules"].map String.toList

def highRiskTerms : List (List Char) :=
  ["auth", "authentication", "authorization", "billing", "credential", "delete", "migration", "payment",
    "permission", "production", "schema", "secret", "security"].map String.toList

/-- `[a-z0-9]`. -/
def tokenChar (c : Char) : Bool := ('a' ≤ c && c ≤ 'z') || ('0' ≤ c && c ≤ '9')

/-- `_tokens`. -/
def tokens (value : List Char) : List (List Char) :=
  let found := (value.flatMap lowerChar).splitOnP fun c => !tokenChar c
  (found.filter fun token => 2 ≤ token.length ∧ token ∉ stopWords).dedup.insertionSort fun a b => a ≤ b

/-- `" ".join(texts)`. -/
def joined (texts : List (List Char)) : List Char := [' '].intercalate texts

def sources (contract : TaskTexts) : List (List Char × Nat) :=
  [(contract.title.toList, 4), (contract.description.toList, 2),
    (joined (contract.acceptanceCriteria.map String.toList), 3), (joined (contract.labels.map String.toList), 2)]

/-- `weighted_terms[term] = max(weighted_terms[term], weight)`. -/
def raiseWeight (weight : Nat) (weights : List (List Char × Nat)) (term : List Char) : List (List Char × Nat) :=
  if term ∈ weights.map Prod.fst then
    weights.map fun entry => if entry.1 = term then (term, max entry.2 weight) else entry
  else weights ++ [(term, weight)]

def weightedTerms (contract : TaskTexts) : List (List Char × Nat) :=
  (sources contract).foldl (fun weights source => (tokens source.1).foldl (raiseWeight source.2) weights) []

def nodeTerms (node : GraphNode) : List (List Char) :=
  tokens (joined [node.label.toList, (node.path.getD "").toList, node.type.toList, node.metadata.spaced])

/-- The entry of a node that shares a term with the task. -/
def directItem (contract : TaskTexts) (node : GraphNode) : Option ImpactItem :=
  let weights := weightedTerms contract
  let terms := nodeTerms node
  let matched := ((weights.map Prod.fst).filter fun term => term ∈ terms).insertionSort fun a b => a ≤ b
  if matched = [] then none
  else
    let score := (matched.map fun term => (weights.lookup term).getD 0).sum
    let bonus := if node.type ∈ ["api_route", "database_schema", "dependency", "dependency_manifest"] then 2 else 0
    some { nodeId := node.id, score := score + bonus, matchedTerms := matched, reasons := ["task_terms_match_node"] }

def direct (contract : TaskTexts) (graph : ContextGraph) : List ImpactItem := graph.nodes.filterMap
    (directItem contract)

/-- `sorted(adjacency[node_id])`. -/
def neighborIds (graph : ContextGraph) (nodeId : String) : List String :=
  Cognitive.sortedSet ((ContextEngineService.adjacency graph nodeId).map Prod.fst)

def propagated (item : ImpactItem) (neighbor : String) : ImpactItem where
  nodeId := neighbor
  score := max 1 (item.score / 2)
  matchedTerms := item.matchedTerms
  reasons := ["connected_to:" ++ item.nodeId]

def reach (graph : ContextGraph) (item : ImpactItem) (impacts : List ImpactItem) (neighbor : String) :
    List ImpactItem :=
  if neighbor ∈ impacts.map ImpactItem.nodeId ∨ neighbor ∉ graph.nodes.map GraphNode.id then impacts
  else impacts ++ [propagated item neighbor]

def directById (contract : TaskTexts) (graph : ContextGraph) : List ImpactItem :=
  (direct contract graph).insertionSort fun a b => a.nodeId ≤ b.nodeId

/-- `impacts`, after the loops. -/
def impacts (contract : TaskTexts) (graph : ContextGraph) : List ImpactItem :=
  (directById contract graph).foldl
    (fun impacts item => (neighborIds graph item.nodeId).foldl (reach graph item) impacts) (direct contract graph)

/-- The key `(-score, node_id)`. -/
def impactKey (item : ImpactItem) : ℕᵒᵈ ×ₗ String := toLex (OrderDual.toDual item.score, item.nodeId)

/-- The repositories a node stands for: a canonical one, those of its definitions. -/
def repositoriesOf (node : GraphNode) : List String :=
  if node.repository = "canonical" then
    (node.metadata.get "definitions").items.filterMap fun definition => present (definition.get "repository").str?
  else [node.repository]

/-- `_analyze_impact`. -/
def analyzeImpact (contract : TaskTexts) (graph : ContextGraph) : NodeImpact :=
  let ordered := Ranking.ranked impactKey (impacts contract graph)
  let selected := ordered.take maxImpactNodes
  let repositories := ((selected.filterMap fun item => graph.node? item.nodeId).flatMap repositoriesOf).dedup
  { queryTerms := ((weightedTerms contract).map Prod.fst).insertionSort fun a b => a ≤ b
    impactedNodes := selected
    impactedRepositoryCount := repositories.length
    truncated := decide (maxImpactNodes < ordered.length) }

/-- `sorted(task_terms & HIGH_RISK_TERMS)`. -/
def riskyTerms (contract : TaskTexts) : List (List Char) :=
  (tokens (joined ((contract.title :: contract.description :: (contract.acceptanceCriteria ++ contract.labels)).map
    String.toList))).filter fun term => term ∈ highRiskTerms

/-- The incomplete statuses of code intelligence among the repositories, sorted. -/
def incompleteIntelligence (repositories : List ContextRepositoryRow) : List String :=
  ["INVALID", "PARTIAL", "STALE", "TRUNCATED"].filter fun status =>
    some status ∈ repositories.map ContextRepositoryRow.codeIntelligence

/-- The factors in the order in which they are added, those without a contribution included. -/
def considered (contract : TaskTexts) (repositories : List ContextRepositoryRow) (graph : ApplicationGraph)
    (impact : NodeImpact) : List RiskFactor :=
  let unavailable := repositories.countP fun row => row.status = "unavailable"
  let impactedIds := impact.impactedNodes.map ImpactItem.nodeId
  let impactedTypes := (graph.nodes.filter fun node => node.id ∈ impactedIds).map GraphNode.type
  let impactedCount := impact.impactedNodes.length
  let repoCount := impact.impactedRepositoryCount
  let risky := riskyTerms contract
  let incomplete := incompleteIntelligence repositories
  [⟨"no_repositories", if repositories = [] then 25 else 0, "The task contract does not identify a repository."⟩,
    ⟨"unavailable_repositories", min 30 (unavailable * 15),
      toString unavailable ++ " requested repositories are unavailable."⟩,
    ⟨"database_change", if "database_schema" ∈ impactedTypes then 20 else 0,
      "Impact analysis reaches database or schema declarations."⟩,
    ⟨"api_change", if "api_route" ∈ impactedTypes then 15 else 0, "Impact analysis reaches HTTP API routes."⟩,
    ⟨"dependency_change", if "dependency" ∈ impactedTypes ∨ "dependency_manifest" ∈ impactedTypes then 15 else 0,
      "Impact analysis reaches dependency declarations."⟩,
    ⟨"impact_breadth", min 20 (impactedCount / 10 * 5),
      toString impactedCount ++ " graph nodes are in the bounded impact set."⟩,
    ⟨"cross_repository_change", if 1 < repoCount then 10 else 0,
      "Impact spans " ++ toString repoCount ++ " repositories."⟩,
    ⟨"sensitive_change_terms", min 20 (risky.length * 5),
      "Sensitive task terms: " ++ ", ".intercalate (risky.map String.ofList)⟩,
    ⟨"missing_acceptance_criteria", if contract.acceptanceCriteria = [] then 10 else 0,
      "The task contract has no acceptance criteria."⟩,
    ⟨"truncated_graph", if graph.truncated then 10 else 0, "The graph reached a deterministic scan bound."⟩,
    ⟨"code_intelligence_incomplete", if incomplete = [] then 0 else 15,
      "Code intelligence status requires reduced autonomy: " ++ ", ".intercalate incomplete⟩]

/-- `_analyze_risk`. -/
def analyzeRisk (contract : TaskTexts) (repositories : List ContextRepositoryRow) (graph : ApplicationGraph)
    (impact : NodeImpact) : RiskAnalysis :=
  let factors := (considered contract repositories graph impact).filter fun factor => factor.contribution ≠ 0
  let score := min 100 (factors.map RiskFactor.contribution).sum
  let level := if 80 ≤ score then "critical" else if 60 ≤ score then "high" else if 30 ≤ score then "medium" else "low"
  ⟨score, level, factors⟩

end ApplicationContextService

end SacmRuntime
