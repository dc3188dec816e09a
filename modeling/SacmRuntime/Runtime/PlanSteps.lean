import SacmRuntime.Governance.Authentication
import SacmRuntime.Lib.FirstDistinct
import SacmRuntime.Runtime.ApplicationGraph

namespace SacmRuntime

structure RegisteredAgent where
  name : String
  role : String
  contractRole : String

structure AgentConfigurationV1 where
  runtimeKind : String
  agentName : String
  role : String
  implementationRef : String
  capabilities : List String
  adapter : String
  portableContractOnly : Bool

inductive StepKind where
  | implementation
  | verification
  | securityReview
  deriving DecidableEq

def StepKind.name : StepKind → String
  | implementation => "implementation"
  | verification => "verification"
  | securityReview => "security_review"

structure ExecutionPlanStepV1 where
  id : String
  sequence : Nat
  stableKey : String
  kind : StepKind
  title : String
  objective : String
  acceptanceCriteria : List String
  contextReferences : List String
  impactedNodeIds : List String
  requiredTools : List String
  riskTags : List String
  dependsOn : List String
  agent : AgentConfigurationV1

/-- The parts of an `ApplicationContext` the steps refer to. -/
structure PlannedContext where
  id : String
  graphHash : String
  graph : ContextGraph
  impactedNodes : List String

/-- `str.split()`. -/
def splitSpaces (text : List Char) : List (List Char) := (text.splitOnP isSpace).filter (· ≠ [])

/-- What the planner takes from its surroundings: hashes, `str.lower`, which
leaves blank ends aside, and the agents that are registered. -/
structure PlannerEnv where
  sha256 : List Char → List Char
  uuid5 : String → String
  lower : List Char → List Char
  lower_stripped : ∀ text, splitSpaces (lower (stripped text)) = splitSpaces (lower text)
  agents : List RegisteredAgent

namespace ExecutionPlanningService

/-- `" ".join(value.lower().split())`. -/
def normalized (env : PlannerEnv) (value : List Char) : List Char := [' '].intercalate (splitSpaces (env.lower value))

/-- `_stable_key`. -/
def stableKey (env : PlannerEnv) (kind : StepKind) (value : List Char) : String :=
  kind.name ++ "-" ++ String.ofList ((env.sha256 (normalized env value)).take 16)

/-- How much of a text `(?:\r?\n)+` matches at its beginning. -/
def lineBreaks : List Char → Nat
  | '\n' :: rest => 1 + lineBreaks rest
  | '\r' :: '\n' :: rest => 2 + lineBreaks rest
  | _ => 0

/-- How much `_SENTENCE_BOUNDARY` matches at the beginning of a text, after a character. -/
def boundary (before : Option Char) (text : List Char) : Nat :=
  if lineBreaks text ≠ 0 then lineBreaks text
  else if before.any fun c => c = '.' || c = '!' || c = '?' then (text.takeWhile isSpace).length
  else 0

/-- `_SENTENCE_BOUNDARY.split`, with the character before, what is still to
be skipped of a boundary, and the fragment that is being read. -/
def fragments (before : Option Char) (skip : Nat) (fragment : List Char) : List Char → List (List Char)
  | [] => [fragment]
  | c :: rest =>
    match skip with
    | skip + 1 => fragments (some c) skip fragment rest
    | 0 =>
      match boundary before (c :: rest) with
      | matched + 1 => fragment :: fragments (some c) matched [] rest
      | 0 => fragments (some c) 0 (fragment ++ [c]) rest

/-- `fragment.strip(" \t-*")`. -/
def trimmed (fragment : List Char) : List Char :=
  let edge (c : Char) : Bool := c = ' ' || c = '\t' || c = '-' || c = '*'
  ((fragment.dropWhile edge).reverse.dropWhile edge).reverse

/-- The criteria and the statements of the description, none of them blank. -/
def ordered (contract : TaskTexts) : List (List Char) :=
  ((contract.acceptanceCriteria.map fun value => stripped value.toList).filter (· ≠ [])) ++
    (((fragments none 0 [] contract.description.toList).map trimmed).filter (· ≠ []))

def maxRequirements : Nat := 50

/-- The loop of `_requirements`. -/
def requirementList (env : PlannerEnv) (contract : TaskTexts) : List (List Char) :=
  FirstDistinct.collect (normalized env) maxRequirements (ordered contract) [] []

/-- `_requirements`. -/
def requirements (env : PlannerEnv) (contract : TaskTexts) : Except Error (List (List Char)) :=
  if requirementList env contract = [] then
    .error (.valueError "Task has no decomposable acceptance criteria or description.")
  else .ok (requirementList env contract)

def wordChar (c : Char) : Bool :=
  c.isAlphanum || c = '_' || c = '.' || c = ':' || c = '/' || c = '-'

/-- `_WORDS.finditer`, with what is still to be skipped of a match. -/
def words (skip : Nat) : List Char → List (List Char)
  | [] => []
  | c :: rest =>
    match skip with
    | skip + 1 => words skip rest
    | 0 =>
      let more := rest.takeWhile wordChar
      if c.isAlpha && decide (2 ≤ more.length) then (c :: more) :: words more.length rest else words 0 rest

/-- The text of a node that is searched; a node that is missing has none. -/
def haystack (env : PlannerEnv) (node : Option GraphNode) : List Char :=
  env.lower (ApplicationContextService.joined (match node with
    | some node => [node.label.toList, (node.path.getD "None").toList, node.repository.toList, node.type.toList]
    | none => [[], [], [], []]))

/-- `_context_for_requirement`: the matched nodes, the references and the types. -/
def contextForRequirement (env : PlannerEnv) (requirement : List Char) (context : PlannedContext) :
    List String × List String × List String :=
  let terms := (words 0 requirement).map env.lower
  let found := context.impactedNodes.filter fun nodeId =>
    terms.any fun term => contains (haystack env (context.graph.node? nodeId)) term
  let matched := if found = [] then
      (context.impactedNodes.take 5).filter fun nodeId => (context.graph.node? nodeId).isSome
    else found
  let matched := matched.take 20
  (matched, matched.map fun nodeId => "application-context:" ++ context.id ++ "#node=" ++ nodeId,
    (matched.filterMap fun nodeId => (context.graph.node? nodeId).map GraphNode.type).dedup)

/-- `any(term in text for term in terms)`. -/
def mentions (text : List Char) (terms : List String) : Bool := terms.any fun term => contains text term.toList

/-- `_risk_tags`. -/
def riskTags (env : PlannerEnv) (requirement : List Char) (nodeTypes : List String) : List String :=
  let text := env.lower requirement
  (if mentions text ["deploy", "deployment", "production", "release", "rollout"] then ["deployment"] else []) ++
  (if "database_schema" ∈ nodeTypes || mentions text ["schema", "migration", "database", "table", "column"] then
    ["schema"] else []) ++
  if mentions text ["security", "authentication", "authorization", "credential", "secret", "token", "permission"] then
    ["security_sensitive"] else []

/-- `_preferred_agent`. -/
def preferredAgent (env : PlannerEnv) (requirement : List Char) (nodeTypes riskTags : List String) : String :=
  let text := env.lower requirement
  if "deployment" ∈ riskTags || mentions text ["infrastructure", "terraform", "kubernetes"] then "InfrastructureAgent"
  else if contains text "frontend".toList || mentions text ["react", "component", "browser", "ui"] then "FrontendAgent"
  else if "api_route" ∈ nodeTypes || "database_schema" ∈ nodeTypes then "BackendAgent"
  else "CodexCoder"

/-- `_agent_configuration`. -/
def agentConfiguration (env : PlannerEnv) (role preferred : String) : Except Error AgentConfigurationV1 :=
  let candidates := (env.agents.filter fun agent => agent.contractRole = role).insertionSort fun a b => a.name ≤ b.name
  match (candidates.find? fun agent => agent.name = preferred).or candidates.head? with
  | none => .error (.valueError ("No registered agent satisfies required role: " ++ role ++ "."))
  | some agent =>
    .ok { runtimeKind := "registered", agentName := agent.name, role := agent.contractRole,
          implementationRef := "registry://" ++ agent.name,
          capabilities := Cognitive.sortedSet [agent.role, agent.contractRole], adapter := "registered-agent",
          portableContractOnly := true }

/-- `_title`. -/
def title (requirement : List Char) : List Char :=
  let title := ((stripped requirement).reverse.dropWhile (· = '.')).reverse
  if title.length ≤ 120 then title
  else ((title.take 117).reverse.dropWhile isSpace).reverse ++ ['.', '.', '.']

def stepId (env : PlannerEnv) (planId key : String) : String := env.uuid5 (planId ++ ":" ++ key)

/-- One implementation step; `stepKeys` are those of the secret requests. -/
def implementationStep (env : PlannerEnv) (planId : String) (context : PlannedContext) (stepKeys : List (List String))
    (sequence : Nat) (requirement : List Char) : Except Error ExecutionPlanStepV1 := do
  let key := stableKey env .implementation requirement
  let (nodeIds, references, nodeTypes) := contextForRequirement env requirement context
  let tags := riskTags env requirement nodeTypes
  let tools := ["source.read", "workspace.edit"] ++ (if "schema" ∈ tags then ["schema.migrate"] else []) ++
    (if "deployment" ∈ tags then ["deployment.execute"] else []) ++
    if stepKeys.any fun keys => keys = [] ∨ key ∈ keys then ["secrets.resolve"] else []
  let agent ← agentConfiguration env "coder" (preferredAgent env requirement nodeTypes tags)
  return { id := stepId env planId key, sequence := sequence, stableKey := key, kind := .implementation,
           title := String.ofList (title requirement), objective := String.ofList requirement,
           acceptanceCriteria := [String.ofList requirement], contextReferences := references,
           impactedNodeIds := nodeIds, requiredTools := Cognitive.sortedSet tools, riskTags := tags,
           dependsOn := [], agent := agent }

def implementationSteps (env : PlannerEnv) (planId : String) (context : PlannedContext)
    (stepKeys : List (List String)) :
    Nat → List (List Char) → Except Error (List ExecutionPlanStepV1)
  | _, [] => .ok []
  | sequence, requirement :: rest => do
    let step ← implementationStep env planId context stepKeys sequence requirement
    let steps ← implementationSteps env planId context stepKeys (sequence + 1) rest
    return step :: steps

def verificationKey (env : PlannerEnv) (contract : TaskTexts) : String :=
  stableKey env .verification (List.intercalate ['\n'] (contract.acceptanceCriteria.map String.toList))

def verificationStep (env : PlannerEnv) (planId : String) (contract : TaskTexts) (context : PlannedContext)
    (steps : List ExecutionPlanStepV1) : Except Error ExecutionPlanStepV1 := do
  let agent ← agentConfiguration env "tester" "TestGenerator"
  return { id := stepId env planId (verificationKey env contract), sequence := steps.length + 1,
           stableKey := verificationKey env contract, kind := .verification, title := "Verify acceptance criteria",
           objective := "Verify every acceptance criterion against the implemented changes.",
           acceptanceCriteria := contract.acceptanceCriteria,
           contextReferences := ["application-context:" ++ context.id], impactedNodeIds := [],
           requiredTools := ["source.read", "tests.execute"], riskTags := [],
           dependsOn := steps.map ExecutionPlanStepV1.id, agent := agent }

def securityKey (env : PlannerEnv) (context : PlannedContext) : String :=
  stableKey env .securityReview context.graphHash.toList

def securityStep (env : PlannerEnv) (planId : String) (context : PlannedContext) (sequence : Nat)
    (verificationId : String) : Except Error ExecutionPlanStepV1 := do
  let agent ← agentConfiguration env "security" "SecurityAuditor"
  return { id := stepId env planId (securityKey env context), sequence := sequence,
           stableKey := securityKey env context, kind := .securityReview, title := "Review execution plan security",
           objective := "Review the complete plan, privileged tools, secret references, and application-impact risk " ++
             "before execution.",
           acceptanceCriteria := ["Security findings are recorded using security-finding/v1.",
             "The security gate is explicitly approved or changes are required."],
           contextReferences := ["application-context:" ++ context.id, "execution-plan:" ++ planId],
           impactedNodeIds := [], requiredTools := ["source.read", "security.scan"],
           riskTags := ["security_sensitive"], dependsOn := [verificationId], agent := agent }

/-- `_build_steps`. -/
def buildSteps (env : PlannerEnv) (planId : String) (contract : TaskTexts) (context : PlannedContext)
    (stepKeys : List (List String)) : Except Error (List ExecutionPlanStepV1) := do
  let found ← requirements env contract
  let steps ← implementationSteps env planId context stepKeys 1 found
  let verification ← verificationStep env planId contract context steps
  let security ← securityStep env planId context (steps.length + 2) verification.id
  return steps ++ [verification, security]

end ExecutionPlanningService

end SacmRuntime
