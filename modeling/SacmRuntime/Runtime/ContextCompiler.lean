import SacmRuntime.Lib.PythonRepr
import SacmRuntime.Runtime.ContextTraversal

namespace SacmRuntime

/-- `ContextFileExcerpt`, without what the compiler leaves aside. -/
structure ContextFileExcerpt where
  repository : String
  path : String
  contentHash : String
  startLine : Nat
  endLine : Nat
  content : List Char
  nodeIds : List String

/-- The parts of a `ContextPackageV2` that the compiler reads. -/
structure ContextPackageV2 where
  schemaVersion : String
  packageHash : String
  graphHash : String
  reason : String
  seedNodeIds : List String
  requirements : List String
  nodes : List ContextNodeReference
  edges : List GraphEdge
  files : List ContextFileExcerpt
  truncated : Bool

/-- The payload of a package: its fields and lists, in their order. -/
structure CompactPayload where
  schemaVersion : String
  packageHash : String
  graphHash : String
  reason : String
  seedNodeIds : List Json := []
  requirements : List Json := []
  nodes : List Json := []
  edges : List Json := []
  files : List Json := []
  truncated : Bool

def CompactPayload.toJson (payload : CompactPayload) : Json :=
  .obj [("schema_version", .str payload.schemaVersion), ("package_hash", .str payload.packageHash),
    ("graph_hash", .str payload.graphHash), ("reason", .str payload.reason),
    ("seed_node_ids", .arr payload.seedNodeIds), ("requirements", .arr payload.requirements),
    ("nodes", .arr payload.nodes), ("edges", .arr payload.edges), ("files", .arr payload.files),
    ("truncated", .bool payload.truncated)]

/-- The result of `load_repository_config`. -/
structure RepositoryRuntimeConfig where
  build : Option String
  test : Option String
  constraints : List (List Char)

structure AgentHistoryEvent where
  eventType : String
  summary : List Char

/-- What `compile` is called with, and the configuration that it loads. -/
structure CompileRequest where
  tokenBudget : Int
  taskId : String
  description : List Char
  status : String
  targetRepoPath : Option String
  role : List Char
  config : Option RepositoryRuntimeConfig
  history : List AgentHistoryEvent
  memory : List (List Char)
  package : Option ContextPackageV2
  briefing : Option Json
  includeTestCommand : Bool

structure AgentContext where
  taskId : String
  task : List Char
  goal : List Char
  currentState : String
  targetRepoPath : Option String
  relevantMemory : List (List Char)
  files : List (List Char × List Char)
  constraints : List (List Char)
  previousFindings : List (List Char)
  testCommand : Option String
  buildCommand : Option String
  tokenBudget : Int
  contextPackage : Option Json
  briefing : Option Json

namespace ContextCompiler

/-- `_estimate_tokens`. -/
def estimateTokens (text : List Char) : Nat := max 1 ((text.length + 3) / 4)

/-- `_trim`. -/
def trim (text : List Char) (budget : Int) : List Char := text.take ((max 0 budget).toNat * 4)

/-- `_fit`. -/
def fit : List (List Char) → Int → List (List Char) × Int
  | [], remaining => ([], remaining)
  | value :: rest, remaining =>
    if value = [] ∨ remaining ≤ 0 then fit rest remaining
    else
      let trimmed := trim value remaining
      let (fitted, left) := fit rest (remaining - estimateTokens trimmed)
      (trimmed :: fitted, left)

section Package
variable (quoted : String → List Char)

/-- `self._estimate_tokens(str(payload))`. -/
def payloadTokens (payload : CompactPayload) : Nat := estimateTokens (payload.toJson.repr quoted)

/-- The payload that `_compact_package` begins with. -/
def basePayload (package : ContextPackageV2) : CompactPayload where
  schemaVersion := package.schemaVersion
  packageHash := package.packageHash
  graphHash := package.graphHash
  reason := package.reason
  truncated := package.truncated

/-- A loop that adds items until one of them takes too many tokens. -/
def addWhile (maxTokens : Nat) (add : Json → CompactPayload → CompactPayload) :
    List Json → CompactPayload → CompactPayload
  | [], payload => payload
  | item :: rest, payload =>
    if maxTokens < payloadTokens quoted (add item payload) then payload
    else addWhile maxTokens add rest (add item payload)

def addSeed (item : Json) (payload : CompactPayload) : CompactPayload :=
  { payload with seedNodeIds := payload.seedNodeIds ++ [item] }

def addRequirement (item : Json) (payload : CompactPayload) : CompactPayload :=
  { payload with requirements := payload.requirements ++ [item] }

def addNode (item : Json) (payload : CompactPayload) : CompactPayload :=
  { payload with nodes := payload.nodes ++ [item] }

def addEdge (item : Json) (payload : CompactPayload) : CompactPayload :=
  { payload with edges := payload.edges ++ [item] }

def addFile (item : Json) (payload : CompactPayload) : CompactPayload :=
  { payload with files := payload.files ++ [item] }

/-- `value[:200]` of the first twelve values. -/
def shortTexts (values : List String) : List Json :=
  (values.take 12).map fun value => .str (String.ofList (value.toList.take 200))

def nodePayload (node : ContextNodeReference) : Json :=
  .obj [("node_id", .str node.node.id), ("type", .str node.node.type), ("label", .str node.node.label),
    ("path", .ofOption node.node.path), ("distance", .int node.distance),
    ("reasons", .arr ((node.reasons.take 4).map .str)), ("line", node.node.metadata.get "line"),
    ("end_line", node.node.metadata.get "end_line"), ("kind", node.node.metadata.get "kind")]

def edgePayload (edge : GraphEdge) : Json :=
  .obj [("source", .str edge.source), ("target", .str edge.target), ("type", .str edge.type)]

def filePayload (excerpt : ContextFileExcerpt) : Json :=
  .obj [("repository", .str excerpt.repository), ("path", .str excerpt.path),
    ("content_hash", .str excerpt.contentHash), ("start_line", .int excerpt.startLine),
    ("end_line", .int excerpt.endLine), ("node_ids", .arr (excerpt.nodeIds.map .str))]

def includedEdges (package : ContextPackageV2) (payload : CompactPayload) : List GraphEdge :=
  package.edges.filter fun edge =>
    (payload.nodes.any fun node => node.get "node_id" = .str edge.source) &&
      payload.nodes.any fun node => node.get "node_id" = .str edge.target

/-- `_compact_package`. -/
def compactPackage (package : ContextPackageV2) (maxTokens : Nat) : CompactPayload :=
  let seeded := addWhile quoted maxTokens addSeed (shortTexts package.seedNodeIds) (basePayload package)
  let required := addWhile quoted maxTokens addRequirement (shortTexts package.requirements) seeded
  let noded := addWhile quoted maxTokens addNode (package.nodes.map nodePayload) required
  let edged := addWhile quoted maxTokens addEdge ((includedEdges package noded).map edgePayload) noded
  addWhile quoted maxTokens addFile (package.files.map filePayload) edged

/-- `min(max(0, remaining // 3), max(0, self.token_budget // 4))`. -/
def packageBudget (tokenBudget remaining : Int) : Nat := min (remaining / 3).toNat (tokenBudget / 4).toNat

/-- The payload of the package of a request, if one is made. -/
def packagePayload (request : CompileRequest) (remaining : Int) : Option CompactPayload :=
  request.package.bind fun package =>
    if 64 ≤ packageBudget request.tokenBudget remaining then
      some (compactPackage quoted package (packageBudget request.tokenBudget remaining))
    else none

end Package

/-- `files[key] = content`. -/
def setFile (key content : List Char) : List (List Char × List Char) → List (List Char × List Char)
  | [] => [(key, content)]
  | file :: rest => if file.1 = key then (key, content) :: rest else file :: setFile key content rest

def excerptKey (excerpt : ContextFileExcerpt) : List Char :=
  excerpt.repository.toList ++ ':' :: (excerpt.path.toList ++ ':' :: (toString excerpt.startLine).toList)

def addFiles : List ContextFileExcerpt → List (List Char × List Char) → Int → List (List Char × List Char)
  | [], files, _ => files
  | excerpt :: rest, files, remaining =>
    if remaining ≤ 0 then files
    else
      let content := trim excerpt.content remaining
      addFiles rest (setFile (excerptKey excerpt) content files) (remaining - estimateTokens content)

def taskText (request : CompileRequest) : List Char := trim request.description request.tokenBudget

def goalText (request : CompileRequest) : List Char :=
  trim ("Complete task: ".toList ++ request.description) request.tokenBudget

def firstConstraints (request : CompileRequest) : List (List Char) :=
  ("Agent role: ".toList ++ request.role) :: ("Token budget: ".toList ++ (toString request.tokenBudget).toList) ::
    (request.config.map RepositoryRuntimeConfig.constraints).getD []

def tokensOf (texts : List (List Char)) : Nat := (texts.map estimateTokens).sum

/-- What is left of the budget after the task, the goal and the first constraints. -/
def afterTask (request : CompileRequest) : Int :=
  request.tokenBudget - estimateTokens (taskText request) - estimateTokens (goalText request) -
    tokensOf (firstConstraints request)

def relevantMemory (request : CompileRequest) : List (List Char) × Int :=
  fit (request.memory.take 8) (afterTask request)

def previousFindings (request : CompileRequest) : List (List Char) × Int :=
  fit (((request.history.take 5).filter fun event => event.eventType = "agent_result").map AgentHistoryEvent.summary)
    (relevantMemory request).2

def packageConstraint (package : ContextPackageV2) : List Char :=
  "Use only context-package/v2 evidence ".toList ++ package.packageHash.toList ++ " for graph-based assumptions.".toList

def afterPayload (quoted : String → List Char) (request : CompileRequest) : Int :=
  match packagePayload quoted request (previousFindings request).2 with
  | some payload => (previousFindings request).2 - payloadTokens quoted payload
  | none => (previousFindings request).2

/-- The constraint of a package, when there is room for it. -/
def lastConstraints (request : CompileRequest) (remaining : Int) : List (List Char) :=
  match request.package with
  | some package =>
    if (estimateTokens (packageConstraint package) : Int) ≤ remaining then [packageConstraint package] else []
  | none => []

/-- `compile`. -/
def compile (quoted : String → List Char) (request : CompileRequest) : AgentContext :=
  let remaining := afterPayload quoted request
  let last := lastConstraints request remaining
  { taskId := request.taskId
    task := taskText request
    goal := goalText request
    currentState := request.status
    targetRepoPath := request.targetRepoPath
    relevantMemory := (relevantMemory request).1
    files := addFiles ((request.package.map ContextPackageV2.files).getD []) [] (remaining - tokensOf last)
    constraints := firstConstraints request ++ last
    previousFindings := (previousFindings request).1
    testCommand := if request.includeTestCommand then request.config.bind RepositoryRuntimeConfig.test else none
    buildCommand := request.config.bind RepositoryRuntimeConfig.build
    tokenBudget := request.tokenBudget
    contextPackage := (packagePayload quoted request (previousFindings request).2).map CompactPayload.toJson
    briefing := request.briefing }

end ContextCompiler

def AgentContext.tokens (quoted : String → List Char) (context : AgentContext) : Nat :=
  ContextCompiler.estimateTokens context.task + ContextCompiler.estimateTokens context.goal +
    ContextCompiler.tokensOf context.constraints + ContextCompiler.tokensOf context.relevantMemory +
    ContextCompiler.tokensOf context.previousFindings +
    (context.contextPackage.map fun payload => ContextCompiler.estimateTokens (payload.repr quoted)).getD 0 +
    ContextCompiler.tokensOf (context.files.map Prod.snd)

end SacmRuntime
