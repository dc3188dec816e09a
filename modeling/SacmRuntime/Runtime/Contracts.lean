import SacmRuntime.Runtime.Rows

namespace SacmRuntime

/-- A number as the program computes with it and as it prints it. -/
structure PyFloat where
  value : ℚ
  repr : FloatText

namespace Json

/-- `{**a, **b}`. -/
def merge (a b : Json) : Json :=
  match b with
  | .obj fields => fields.foldl (fun current field => current.set field.1 field.2) a
  | _ => a

def ofStrings (items : List String) : Json := .arr (items.map .str)

def strings (j : Json) : List String := j.items.filterMap str?

end Json

/-- What `int(..)` makes of a float and of a text. -/
structure IntParsing where
  ofFloat : FloatText → Except Error Int
  ofText : String → Except Error Int

/-- `int(value)`. -/
def IntParsing.int (parsing : IntParsing) : Json → Except Error Int
  | .int n => .ok n
  | .bool b => .ok (if b then 1 else 0)
  | .float x => parsing.ofFloat x
  | .str s => parsing.ofText s
  | _ => .error (.other "TypeError" "int() argument must be a string, a bytes-like object or a real number")

inductive FailureClassification where
  | compilation | testRegression | wrongAssumption | missingContext | architectureMismatch | badPlan
  | apiIncompatibility | environment | toolFailure | modelStuck
  deriving DecidableEq

def FailureClassification.value : FailureClassification → String
  | .compilation => "COMPILATION"
  | .testRegression => "TEST_REGRESSION"
  | .wrongAssumption => "WRONG_ASSUMPTION"
  | .missingContext => "MISSING_CONTEXT"
  | .architectureMismatch => "ARCHITECTURE_MISMATCH"
  | .badPlan => "BAD_PLAN"
  | .apiIncompatibility => "API_INCOMPATIBILITY"
  | .environment => "ENVIRONMENT"
  | .toolFailure => "TOOL_FAILURE"
  | .modelStuck => "MODEL_STUCK"

inductive RecoveryAction where
  | repairCode | debug | replan | expandContext | switchModel | retry | escalate
  deriving DecidableEq

def RecoveryAction.value : RecoveryAction → String
  | .repairCode => "REPAIR_CODE"
  | .debug => "DEBUG"
  | .replan => "REPLAN"
  | .expandContext => "EXPAND_CONTEXT"
  | .switchModel => "SWITCH_MODEL"
  | .retry => "RETRY"
  | .escalate => "ESCALATE"

structure FailureReportV1 where
  classification : FailureClassification
  type : String
  message : String
  evidence : List Json
  details : Json
  retryable : Bool
  confidence : PyFloat
  rootCause : Option String
  reasonCodes : List String
  diagnosisFingerprint : Option String
  diagnosticBundle : Json
  stages : List String

def FailureReportV1.modelDump (r : FailureReportV1) : Json :=
  .obj [("schema_version", .str "failure-report/v1"), ("classification", .str r.classification.value),
    ("type", .str r.type), ("message", .str r.message), ("evidence", .arr r.evidence),
    ("details", r.details), ("retryable", .bool r.retryable), ("confidence", .float r.confidence.repr),
    ("root_cause", .ofOption r.rootCause), ("reason_codes", .ofStrings r.reasonCodes),
    ("diagnosis_fingerprint", .ofOption r.diagnosisFingerprint),
    ("diagnostic_bundle", r.diagnosticBundle), ("stages", .ofStrings r.stages)]

inductive RecoveryStatus where
  | scheduled | escalated
  deriving DecidableEq

def RecoveryStatus.name : RecoveryStatus → String
  | .scheduled => "SCHEDULED"
  | .escalated => "ESCALATED"

structure RecoveryDecisionV1 where
  action : RecoveryAction
  status : RecoveryStatus
  reason : String
  attempt : Int
  maxAttempts : Int
  targetRunStatus : RunStatus
  instructions : List String

def RecoveryDecisionV1.modelDump (d : RecoveryDecisionV1) : Json :=
  .obj [("schema_version", .str "recovery-decision/v1"), ("action", .str d.action.value),
    ("status", .str d.status.name), ("reason", .str d.reason), ("attempt", .int d.attempt),
    ("max_attempts", .int d.maxAttempts), ("target_run_status", .str d.targetRunStatus.name),
    ("instructions", .ofStrings d.instructions)]

/-- A validated task contract: the two identities the services compare, and
the document `model_dump(mode="json")` gives. -/
structure AgentTaskV1 where
  runId : String
  stepId : String
  modelDump : Json

inductive ResultStatus where
  | completed | failed | needsApproval
  deriving DecidableEq

def ResultStatus.name : ResultStatus → String
  | .completed => "COMPLETED"
  | .failed => "FAILED"
  | .needsApproval => "NEEDS_APPROVAL"

/-- An agent result. Nested models (artifacts, usage records, a structured
failure) are held as the documents they dump to. -/
structure AgentResultV1 where
  runId : String
  stepId : String
  status : ResultStatus
  summary : String
  artifacts : List Json := []
  evidence : List Json := []
  decisions : List Json := []
  findings : List Json := []
  usage : List Json := []
  failure : Option Json := none
  actions : List Json := []
  confidence : FloatText := ⟨['0', '.', '0'], FloatText.zero_printable⟩
  nextStateHint : String := ""
  memoryUpdate : Option String := none
  skillsContributed : List Json := []

def AgentResultV1.modelDump (r : AgentResultV1) : Json :=
  .obj [("schema_version", .str "agent-result/v1"), ("run_id", .str r.runId), ("step_id", .str r.stepId),
    ("status", .str r.status.name), ("summary", .str r.summary), ("artifacts", .arr r.artifacts),
    ("evidence", .arr r.evidence), ("decisions", .arr r.decisions), ("findings", .arr r.findings),
    ("usage", .arr r.usage), ("failure", r.failure.getD .null), ("actions", .arr r.actions),
    ("confidence", .float r.confidence), ("next_state_hint", .str r.nextStateHint),
    ("memory_update", .ofOption r.memoryUpdate), ("skills_contributed", .arr r.skillsContributed)]

structure ExternalAgentStepCreate where
  framework : String
  agentName : String
  idempotencyKey : String
  role : String
  objective : String
  acceptanceCriteria : List String
  contextReferences : List String
  allowedTools : List String
  deniedTools : List String
  tokenBudget : Nat
  costBudgetUsd : Option FloatText
  timeoutSeconds : Nat
  executionContext : Json

def ExternalAgentStepCreate.modelDump (p : ExternalAgentStepCreate) : Json :=
  .obj [("framework", .str p.framework), ("agent_name", .str p.agentName),
    ("idempotency_key", .str p.idempotencyKey), ("role", .str p.role), ("objective", .str p.objective),
    ("acceptance_criteria", .ofStrings p.acceptanceCriteria),
    ("context_references", .ofStrings p.contextReferences), ("allowed_tools", .ofStrings p.allowedTools),
    ("denied_tools", .ofStrings p.deniedTools), ("token_budget", .int p.tokenBudget),
    ("cost_budget_usd", (p.costBudgetUsd.map Json.float).getD .null),
    ("timeout_seconds", .int p.timeoutSeconds), ("execution_context", p.executionContext)]

/-- The task contract built for a scheduled external agent step. -/
def ExternalAgentStepCreate.task (p : ExternalAgentStepCreate) (runId stepId : String) : AgentTaskV1 where
  runId := runId
  stepId := stepId
  modelDump := .obj [("schema_version", .str "agent-task/v1"), ("run_id", .str runId),
    ("step_id", .str stepId), ("role", .str p.role), ("objective", .str p.objective),
    ("acceptance_criteria", .ofStrings p.acceptanceCriteria),
    ("context_references", .ofStrings p.contextReferences), ("allowed_tools", .ofStrings p.allowedTools),
    ("denied_tools", .ofStrings p.deniedTools), ("token_budget", .int p.tokenBudget),
    ("cost_budget_usd", (p.costBudgetUsd.map Json.float).getD .null),
    ("timeout_seconds", .int p.timeoutSeconds), ("output_schema", .str "agent-result/v1"),
    ("execution_context", p.executionContext)]

structure SignedJobResult where
  leaseToken : String
  result : AgentResultV1
  resultHash : String
  signature : String
  signatureAlgorithm : String := "Ed25519"
  signingKeyFingerprint : String

/-- What the services read from their surroundings: configuration, the
database's schema, cryptography, validation of stored contracts, and the
outcomes of services that write none of the shared tables. -/
structure Env where
  sha256 : String → String
  uuid5 : String → String
  autoflush : Bool
  snapshotsAvailable : Bool
  executionJobsAvailable : Bool
  production : Bool
  approvalTtlSeconds : Int
  maxRecoveryAttempts : Int
  minimumConfidence : ℚ
  executionLeaseSeconds : Nat
  defaultCustomerDeploymentId : String
  missingSupplyChain : String → List String
  runContext : Db → Run → Json
  diagnose : Json → Except Error FailureReportV1
  validateTask : Json → Except Error AgentTaskV1
  validateDecision : Json → Except Error RecoveryDecisionV1
  authorizeRun : String → Option String → Bool → Except Error Unit
  authorizeApproval : String → String → Except Error Unit
  authorizeExecutorAdmin : String → String → Except Error Unit
  signPayload : Json → String
  verifyEd25519 : String → Json → String → Except String Unit
  recomputeRun : Db → String → Option String

end SacmRuntime
