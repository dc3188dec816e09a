import Mathlib.Algebra.Order.Floor.Ring
import Mathlib.Data.List.MinMax
import Mathlib.Data.Prod.Lex
import Mathlib.Data.Rat.Floor
import SacmRuntime.Governance.Authentication
import SacmRuntime.Lib.LatestPer
import SacmRuntime.Lib.PythonRepr
import SacmRuntime.Lib.Ranking
import SacmRuntime.Runtime.Rows

namespace SacmRuntime

/-- What the router takes from Python: `\w`, the letters that `re.IGNORECASE`
takes for one another, `str.upper`, `int` and `repr` of a text, and the
environment variables. -/
structure OutcomeEnv where
  isWord : Char → Bool
  fold : Char → Char
  upper : String → String
  integer : String → Option Int
  quoted : String → List Char
  getenv : String → Option String

inductive AgentRole
  | reasoner | coder | reviewer | tester | security
  deriving DecidableEq

def AgentRole.name : AgentRole → String
  | .reasoner => "reasoner"
  | .coder => "coder"
  | .reviewer => "reviewer"
  | .tester => "tester"
  | .security => "security"

structure ContractAgent where
  name : String
  contractRole : AgentRole

/-- The agents by their names, as they were registered. -/
structure AgentRegistry where
  agents : List ContractAgent
  distinct : (agents.map ContractAgent.name).Nodup

structure AgentRecord where
  name : String
  provider : String
  modelName : String

structure AgentOutcomeAnalytics where
  id : String
  runId : String
  agentName : String
  role : Option String
  outcome : Option String
  latencyMs : Option Int
  retryCount : Int
  estimatedCostUsd : Option Rat
  testCount : Int
  verificationCount : Int
  failure : Option Json
  computedAt : Nat

instance : Keyed AgentRecord := ⟨AgentRecord.name⟩
instance : Keyed AgentOutcomeAnalytics := ⟨AgentOutcomeAnalytics.id⟩

structure OutcomeDb where
  agents : Table AgentRecord
  runs : Table Run
  tasks : Table Task
  analytics : Table AgentOutcomeAnalytics

/-- A row of the query: the analytics, the project of its run, and the text of its task. -/
structure OutcomeRow where
  row : AgentOutcomeAnalytics
  projectId : Option String
  text : String

/-- The arguments of `rank`. -/
structure RankRequest where
  task : Task
  role : Option AgentRole
  riskLevel : Option String
  costBudgetUsd : Option Rat
  latencyBudgetMs : Option Int
  previousFailureClassification : Option String
  agentProbs : List Rat

structure RouterCandidateV1 where
  agentName : String
  role : AgentRole
  provider : Option String
  modelName : Option String
  framework : String
  samples : Nat
  successes : Nat
  failures : Nat
  neuralPrior : Rat
  posteriorSuccessProbability : Rat
  confidenceWeight : Rat
  averageCostUsd : Option Rat
  averageLatencyMs : Option Rat
  averageRetries : Rat
  score : Rat
  trustedOutcomes : Bool
  dataScope : String
  capabilityMatch : Rat
  reasons : List String

inductive RouterStrategy
  | outcomeAdaptive | neuralFallback | deterministicFallback
  deriving DecidableEq

structure RouterDecisionV1 where
  taskId : String
  selectedAgentName : String
  selectedAgentIndex : Nat
  strategy : RouterStrategy
  minimumSamples : Nat
  role : Option AgentRole
  riskLevel : Option String
  taskTags : List String
  taskType : String
  fallbackReason : Option String
  candidates : List RouterCandidateV1

/-- `ValueError` with its text, or a `ValidationError` with the fields it is about. -/
inductive RankError
  | valueError (message : String)
  | validationError (fields : List String)

namespace OutcomeRouter

/-- How a pattern ends after one of its words: `\b`, `\w*`, or `\w*\s+` and one of other words with `\b`. -/
inductive PatternEnd
  | boundary
  | letters
  | followed (words : List String)

/-- `\b(word|…)` with its end. -/
structure WordPattern where
  words : List String
  ending : PatternEnd

def tagPatterns : List (String × WordPattern) :=
  [("python", ⟨["python", "pytest", "django", "fastapi", "flask"], .boundary⟩),
    ("typescript", ⟨["typescript", "javascript", "react", "node", "npm", "vite"], .boundary⟩),
    ("java", ⟨["java", "spring", "maven", "gradle"], .boundary⟩),
    ("database", ⟨["database", "sql", "postgres", "mysql", "schema", "migration"], .boundary⟩),
    ("api", ⟨["api", "endpoint", "rest", "graphql", "grpc", "contract"], .boundary⟩),
    ("security", ⟨["security", "auth", "oauth", "oidc", "secret", "vulnerability"], .boundary⟩),
    ("infrastructure", ⟨["kubernetes", "terraform", "docker", "deployment", "infrastructure"], .boundary⟩),
    ("testing", ⟨["test", "regression", "coverage", "mutation", "property"], .boundary⟩)]

/-- `analy[sz]` is written as its two words. -/
def taskTypePatterns : List (String × WordPattern) :=
  [("delivery", ⟨["release", "deploy", "delivery", "pull request", "publikac", "wdroż", "wydan"], .letters⟩),
    ("security", ⟨["vulnerab", "exploit", "penetration", "security audit", "podatno", "bezpieczeń"], .letters⟩),
    ("testing", ⟨["add", "write", "fix", "generate", "dodaj", "napisz", "napraw", "wygeneruj"],
      .followed ["test", "tests", "coverage", "testy"]⟩),
    ("infrastructure", ⟨["kubernetes", "terraform", "docker", "infrastructure", "infra", "devops"], .boundary⟩),
    ("frontend", ⟨["frontend", "react", "ui", "component", "screen", "ekran", "komponent"], .letters⟩),
    ("backend", ⟨["backend", "api", "endpoint", "database", "schema", "service", "bff", "baza"], .letters⟩),
    ("implementation", ⟨["implement", "fix", "add", "change", "refactor", "zastosuj", "wdroż", "napraw", "dodaj",
      "zmień"], .letters⟩),
    ("analysis", ⟨["analys", "analyz", "assess", "review", "report", "architecture", "oceń", "ocen", "przeanaliz",
      "raport", "architektur"], .letters⟩)]

def taskTypeAgents : String → List String
  | "analysis" => ["ClaudeReasoner", "Architect", "ContextAgent", "OpenAIAgentsExecutor"]
  | "security" => ["SecurityAuditor", "Reviewer", "SecurityDelivery"]
  | "testing" => ["TestGenerator", "CloudExecutor", "MobileE2E"]
  | "infrastructure" => ["InfrastructureAgent", "CloudExecutor", "CodexExecutor"]
  | "frontend" => ["FrontendAgent", "CodexCoder", "CodexExecutor"]
  | "backend" => ["BackendAgent", "CodexCoder", "CodexExecutor"]
  | "implementation" => ["CodexCoder", "CodexExecutor", "CloudExecutor"]
  | "delivery" => ["GitHubDelivery", "EASWorkflow", "SecurityDelivery"]
  | _ => ["ClaudeReasoner", "ContextAgent", "Architect"]

section Text
variable (env : OutcomeEnv)

/-- `\b` between two characters. -/
def boundary (before behind : Option Char) : Bool := before.any env.isWord != behind.any env.isWord

/-- The text after a word, with the last character of the word as the text has it. -/
def afterWord (before : Option Char) : List Char → List Char → Option (Option Char × List Char)
  | [], text => some (before, text)
  | _ :: _, [] => none
  | letter :: word, c :: text => if env.fold c = env.fold letter then afterWord (some c) word text else none

def wholeWord (word : String) (text : List Char) : Bool :=
  match afterWord env none word.toList text with
  | some (last, rest) => boundary env last rest.head?
  | none => false

def matchesHere (before : Option Char) (text : List Char) (pattern : WordPattern) : Bool :=
  boundary env before text.head? && pattern.words.any fun word =>
    match afterWord env none word.toList text, pattern.ending with
    | none, _ => false
    | some (last, rest), .boundary => boundary env last rest.head?
    | some _, .letters => true
    | some (_, rest), .followed words =>
      let gap := rest.dropWhile env.isWord
      (gap.head?.any isSpace) && words.any fun word => wholeWord env word (gap.dropWhile isSpace)

/-- `re.search`. -/
def search (pattern : WordPattern) (before : Option Char) : List Char → Bool
  | [] => matchesHere env before [] pattern
  | c :: rest => matchesHere env before (c :: rest) pattern || search pattern (some c) rest

/-- `task_tags`. -/
def taskTags (text : String) : List String :=
  ((tagPatterns.filter fun tag => search env tag.2 none text.toList).map Prod.fst).insertionSort (· ≤ ·)

/-- `task_type`. -/
def taskType (text : String) : String :=
  ((taskTypePatterns.find? fun kind => search env kind.2 none text.toList).map Prod.fst).getD "general"

end Text

def halfEven (x : Rat) : Int :=
  let rest := x - x.floor
  if rest < 1 / 2 then x.floor else if 1 / 2 < rest then x.floor + 1 else if x.floor % 2 = 0 then x.floor
    else x.floor + 1

/-- `format(x, ".3f")` and the like. -/
def fixed (places : Nat) (x : Rat) : String :=
  let units := (halfEven (|x| * 10 ^ places)).toNat
  let digits := (toString (units % 10 ^ places)).toList
  (if x < 0 then "-" else "") ++ toString (units / 10 ^ places) ++ "." ++
    String.ofList (List.replicate (places - digits.length) '0' ++ digits)

/-- The rows of `_outcomes`, before they are grouped. -/
def joined (db : OutcomeDb) : List (AgentOutcomeAnalytics × Run × Task) :=
  db.analytics.rows.filterMap fun row => (db.runs.find row.runId).bind fun run =>
    (db.tasks.find run.taskId).map fun task => (row, run, task)

/-- The outcomes of one agent, of `_outcomes`. -/
def outcomes (role : Option AgentRole) (organizationId : Option String) (name : String)
    (rows : List (AgentOutcomeAnalytics × Run × Task)) : List OutcomeRow :=
  (rows.filter fun (row, _, task) => row.agentName = name ∧
    (row.outcome = some "success" ∨ row.outcome = some "failure") ∧ task.organizationId = organizationId ∧
    (role.all fun role => row.role = some role.name)).map fun (row, run, task) =>
      ⟨row, run.projectId, task.title ++ "\n" ++ task.description⟩

/-- `_distinct_run_count`. -/
def distinctRunCount (rows : List OutcomeRow) : Nat := (rows.map fun item => item.row.runId).dedup.length

/-- `_scoped_rows`. -/
def scopedRows (env : OutcomeEnv) (rows : List OutcomeRow) (projectId : Option String) (taskTagList : List String)
    (minimumSamples : Nat) : List OutcomeRow × String :=
  let projectRows := rows.filter fun item => (present projectId).isSome && item.projectId = projectId
  let tagRows := rows.filter fun item => taskTagList ≠ [] && taskTagList.any fun tag => tag ∈ taskTags env item.text
  if minimumSamples ≤ distinctRunCount projectRows then (projectRows, "project")
  else if minimumSamples ≤ distinctRunCount tagRows then (tagRows, "task_tags")
  else if rows ≠ [] then (rows, "global")
  else ([], "none")

/-- `computed_at`, then `id`. -/
def stamp (item : OutcomeRow) : Nat ×ₗ String := toLex (item.row.computedAt, item.row.id)

/-- `_latest_per_run`. -/
def latestPerRun (rows : List OutcomeRow) : List OutcomeRow :=
  LatestPer.latestPer (fun item => item.row.runId) stamp rows

/-- `_failure_classification`. -/
def failureClassification (env : OutcomeEnv) (failure : Option Json) : Option String :=
  match failure with
  | some (.obj (field :: fields)) =>
    match Json.get (.obj (field :: fields)) "classification" with
    | .str text => some text
    | other => some (String.ofList (other.repr env.quoted))
  | _ => none

def average (values : List Rat) : Option Rat := if values = [] then none else some (values.sum / values.length)

/-- What `rank` gathers of an agent. -/
structure RawCandidate where
  agent : ContractAgent
  metadata : Option AgentRecord
  prior : Rat
  samples : Nat
  successes : Nat
  failures : Nat
  posterior : Rat
  confidence : Rat
  averageCost : Option Rat
  averageLatency : Option Rat
  averageRetries : Rat
  repeatedFailures : Nat
  scope : String
  verificationRate : Rat
  capabilityMatch : Rat

section Gathered
variable (env : OutcomeEnv) (request : RankRequest)

def taskText : String := request.task.title ++ "\n" ++ request.task.description

/-- `preferred_order`. -/
def preferredOrder : List String := taskTypeAgents (taskType env (taskText request))

/-- `index_by_name`. -/
def indexByName (registry : AgentRegistry) (name : String) : Nat :=
  registry.agents.findIdx fun agent => agent.name = name

def priorOf (registry : AgentRegistry) (agent : ContractAgent) : Rat :=
  (request.agentProbs[indexByName registry agent.name]?).getD (1 / registry.agents.length)

def gathered (minimumSamples : Nat) (agent : ContractAgent) (metadata : Option AgentRecord) (prior : Rat)
    (scope : String) (rows : List OutcomeRow) : RawCandidate :=
  let samples := rows.length
  let successes := rows.countP fun item => item.row.outcome = some "success"
  { agent := agent
    metadata := metadata
    prior := prior
    samples := samples
    successes := successes
    failures := rows.countP fun item => item.row.outcome = some "failure"
    posterior := (successes + 1 + 2 * prior) / (samples + 2 + 2)
    confidence := min 1 ((samples : Rat) / minimumSamples)
    averageCost := average (rows.filterMap fun item => item.row.estimatedCostUsd)
    averageLatency := average (rows.filterMap fun item => item.row.latencyMs.map fun latency => (latency : Rat))
    averageRetries := (average (rows.map fun item => (item.row.retryCount : Rat))).getD 0
    repeatedFailures :=
      if (present request.previousFailureClassification).isSome then
        rows.countP fun item => failureClassification env item.row.failure = request.previousFailureClassification
      else 0
    scope := scope
    verificationRate :=
      if samples ≠ 0 then
        (rows.countP fun item => 0 < item.row.verificationCount ∨ 0 < item.row.testCount : Rat) / samples
      else 0
    capabilityMatch := if agent.name ∈ preferredOrder env request then 1 else 0 }

/-- The entry of an agent in `raw`. -/
def rawCandidate (registry : AgentRegistry) (db : OutcomeDb) (minimumSamples : Nat) (agent : ContractAgent) :
    RawCandidate :=
  let chosen := scopedRows env (outcomes request.role request.task.organizationId agent.name (joined db))
    request.task.projectId (taskTags env (taskText request)) minimumSamples
  gathered env request minimumSamples agent (db.agents.find agent.name) (priorOf request registry agent) chosen.2
    (latestPerRun chosen.1)

/-- The share of a penalty: nothing where the amount or what it is measured by is missing. -/
def penalty (amount : Option Rat) (denominator weight : Rat) : Option Rat :=
  amount.bind fun amount => if denominator ≠ 0 then some (min (amount / denominator) 2 * weight) else none

/-- `value or other`, of a number. -/
def orElse (value : Option Rat) (other : Rat) : Rat := (value.filter (· ≠ 0)).getD other

def refusedFields (item : RawCandidate) : List String :=
  let share := fun x : Rat => decide (0 ≤ x ∧ x ≤ 1)
  let positive := fun x : Option Rat => x.all fun x => decide (0 ≤ x)
  ([("neural_prior", share item.prior), ("posterior_success_probability", share item.posterior),
    ("confidence_weight", share item.confidence), ("average_cost_usd", positive item.averageCost),
    ("average_latency_ms", positive item.averageLatency), ("average_retries", positive (some item.averageRetries)),
    ("capability_match", share item.capabilityMatch)].filter fun field => !field.2).map Prod.fst

/-- `_candidate`. -/
def candidate (minimumSamples : Nat) (maxCost maxLatency : Rat) (item : RawCandidate) :
    Except RankError RouterCandidateV1 :=
  let costPenalty := penalty item.averageCost (orElse request.costBudgetUsd maxCost) (8 / 100)
  let latencyPenalty :=
    penalty item.averageLatency (orElse (request.latencyBudgetMs.map fun budget => (budget : Rat)) maxLatency) (5 / 100)
  let retryPenalty := min (item.averageRetries * (3 / 100)) (15 / 100)
  let failurePenalty := min ((item.repeatedFailures : Rat) * (4 / 100)) (20 / 100)
  let highRisk := env.upper (request.riskLevel.getD "") ∈ ["HIGH", "CRITICAL"]
  let verificationBonus := item.verificationRate * (8 / 100)
  let score := item.confidence * item.posterior + (1 - item.confidence) * item.prior + item.capabilityMatch * (2 / 10) -
    costPenalty.getD 0 - latencyPenalty.getD 0 - (retryPenalty + failurePenalty) +
    (if highRisk then verificationBonus else 0)
  let reasons :=
    [toString item.samples ++ " real outcome sample(s) in " ++ item.scope ++ " scope.",
      "Posterior success proxy " ++ fixed 3 item.posterior ++ "; neural prior " ++ fixed 3 item.prior ++ ".",
      "Capability match " ++ fixed 1 item.capabilityMatch ++ "."] ++
    (costPenalty.map fun penalty => "Cost penalty " ++ fixed 3 penalty ++ ".").toList ++
    (latencyPenalty.map fun penalty => "Latency penalty " ++ fixed 3 penalty ++ ".").toList ++
    (if retryPenalty ≠ 0 then ["Retry penalty " ++ fixed 3 retryPenalty ++ "."] else []) ++
    (if failurePenalty ≠ 0 then ["Repeated-failure penalty " ++ fixed 3 failurePenalty ++ "."] else []) ++
    (if highRisk then ["High-risk verification bonus " ++ fixed 3 verificationBonus ++ "."] else [])
  if refusedFields item = [] then
    .ok
      { agentName := item.agent.name
        role := item.agent.contractRole
        provider := item.metadata.map AgentRecord.provider
        modelName := item.metadata.map AgentRecord.modelName
        framework := "sacm-registered"
        samples := item.samples
        successes := item.successes
        failures := item.failures
        neuralPrior := item.prior
        posteriorSuccessProbability := item.posterior
        confidenceWeight := item.confidence
        averageCostUsd := item.averageCost
        averageLatencyMs := item.averageLatency
        averageRetries := item.averageRetries
        score := score
        trustedOutcomes := minimumSamples ≤ item.samples
        dataScope := item.scope
        capabilityMatch := item.capabilityMatch
        reasons := reasons }
  else .error (.validationError (refusedFields item))

end Gathered

def scoreKey (item : RouterCandidateV1) : Ratᵒᵈ ×ₗ String := toLex (OrderDual.toDual item.score, item.agentName)

/-- What the deterministic choice looks at: the match, the place in the preferred order and in the registry. -/
def fallbackKey (registry : AgentRegistry) (preferred : List String) (item : RouterCandidateV1) :
    Rat ×ₗ Natᵒᵈ ×ₗ Natᵒᵈ :=
  toLex (item.capabilityMatch, toLex (OrderDual.toDual (preferred.idxOf item.agentName),
    OrderDual.toDual (indexByName registry item.agentName)))

section Rank
variable (env : OutcomeEnv) (registry : AgentRegistry) (request : RankRequest)

/-- `SACM_ROUTER_MIN_SAMPLES`. -/
def minimumSamplesOf : Except RankError Nat :=
  let text := (env.getenv "SACM_ROUTER_MIN_SAMPLES").getD "3"
  match env.integer text with
  | none => .error (.valueError ("invalid literal for int() with base 10: " ++ String.ofList (env.quoted text)))
  | some value =>
    if value < 1 then .error (.valueError "SACM_ROUTER_MIN_SAMPLES must be at least 1.") else .ok value.toNat

/-- The agents that are ranked: of the role, the preferred ones if there are any. -/
def rankedAgents : Except RankError (List ContractAgent) :=
  let allRoleAgents := registry.agents.filter fun agent => request.role.all fun role => agent.contractRole = role
  let preferred := allRoleAgents.filter fun agent => agent.name ∈ preferredOrder env request
  if allRoleAgents = [] then
    .error (.valueError ("No registered agents satisfy role " ++ (request.role.map AgentRole.name).getD "None" ++ "."))
  else .ok (if preferred ≠ [] then preferred else allRoleAgents)

/-- The greatest of the averages, those that are missing taken for zero. -/
def greatest (averages : List (Option Rat)) : Rat := ((averages.map fun value => value.getD 0).max?).getD 0

def candidatesOf (db : OutcomeDb) (minimumSamples : Nat) (agents : List ContractAgent) :
    Except RankError (List RouterCandidateV1) :=
  let raw := agents.map (rawCandidate env request registry db minimumSamples)
  (raw.mapM (candidate env request minimumSamples (greatest (raw.map RawCandidate.averageCost))
    (greatest (raw.map RawCandidate.averageLatency)))).map (Ranking.ranked scoreKey)

def choose (minimumSamples : Nat) (candidates : List RouterCandidateV1) : Except RankError RouterDecisionV1 :=
  let kind := taskType env (taskText request)
  let decision := fun (selected : RouterCandidateV1) strategy fallbackReason =>
    { taskId := request.task.id
      selectedAgentName := selected.agentName
      selectedAgentIndex := indexByName registry selected.agentName
      strategy := strategy
      minimumSamples := minimumSamples
      role := request.role
      riskLevel := request.riskLevel
      taskTags := taskTags env (taskText request)
      taskType := kind
      fallbackReason := fallbackReason
      candidates := candidates : RouterDecisionV1 }
  match candidates.filter RouterCandidateV1.trustedOutcomes with
  | selected :: _ => .ok (decision selected .outcomeAdaptive none)
  | [] =>
    match candidates.argmax (fallbackKey registry (preferredOrder env request)) with
    | none => .error (.valueError "max() iterable argument is empty")
    | some selected => .ok (decision selected .deterministicFallback (some
        ("No candidate has the required " ++ toString minimumSamples ++
          " outcome samples; selected by deterministic " ++ kind ++ " capability match.")))

/-- `rank`. -/
def rank (db : OutcomeDb) : Except RankError RouterDecisionV1 := do
  let minimumSamples ← minimumSamplesOf env
  let agents ← rankedAgents env registry request
  let candidates ← candidatesOf env registry request db minimumSamples agents
  choose env registry request minimumSamples candidates

end Rank

end OutcomeRouter

end SacmRuntime
