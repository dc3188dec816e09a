import SacmRuntime.Runtime.CostService

namespace SacmRuntime

def Json.ofPart {α : Type} (part : Option α) (dump : α → Json) : Json := (part.map dump).getD .null

namespace RunContextService

structure Clarification where
  id : String
  fieldName : String
  question : String
  status : String
  answer : Option Json
  createdAt : Nat
  answeredAt : Option Nat

structure TaskDetails where
  contractVersion : String
  connectorType : Option String
  externalId : Option String
  externalUrl : Option String
  taskContract : Option Json
  readinessScore : Option Int
  readinessDetails : Option Json
  clarifications : List Clarification
  createdAt : Nat
  updatedAt : Nat

structure OrganizationDetails where
  id : String
  slug : String
  name : String

structure ProjectDetails where
  id : String
  slug : String
  name : String
  repositoryFullName : Option String
  repositoryPath : Option String
  organization : Option OrganizationDetails

structure ScannedRepository where
  position : Int
  fullName : Option String
  requestedPath : Option String
  resolvedPath : Option String
  baseRevision : Option String
  status : String
  errorCode : Option String
  errorMessage : Option String
  fileCount : Int
  skippedFileCount : Int

structure ApplicationContext where
  id : String
  status : String
  scannerVersion : String
  graphHash : String
  impactAnalysis : Json
  riskAnalysis : Json
  repositories : List ScannedRepository

structure SecurityReview where
  required : Bool
  status : String
  reviewerConfiguration : Json
  findings : Json
  reviewedAt : Option Nat
  reviewedBy : Option String

structure PlanGate where
  id : String
  gateType : String
  action : String
  reason : String
  status : String
  stepIds : Json
  approvalId : Option String

structure PlanStep where
  id : String
  sequence : Int
  kind : String
  title : String
  objective : String
  acceptanceCriteria : Json
  requiredTools : Json
  riskTags : Json
  dependsOn : Json
  agentConfiguration : Json

/-- The parts of an execution plan that only its context shows. -/
structure PlanDetails where
  policyPack : Json
  riskDecision : String
  policyDecision : String
  securityReview : Option SecurityReview
  approvalGates : List PlanGate
  steps : List PlanStep

structure JiraDeliveryState where
  status : String
  jiraStatus : Option String
  statusCommentId : Option String
  prStatus : String
  prUrl : Option String
  context : Json
  lastError : Option String
  updatedAt : Nat

/-- The rows beside the shared tables that a context is built from, by the
identifiers of their task, project and plan, and the sum of floats. -/
structure ContextRows where
  task : String → TaskDetails
  project : String → Option ProjectDetails
  applicationContext : String → Option ApplicationContext
  plan : String → PlanDetails
  jiraDelivery : String → Option JiraDeliveryState
  floatSum : List Json → Json

def clarification (item : Clarification) : Json :=
  .obj [("id", .str item.id), ("field_name", .str item.fieldName), ("question", .str item.question),
    ("status", .str item.status), ("answer", item.answer.getD .null), ("created_at", .str (isoformat item.createdAt)),
    ("answered_at", isoOption item.answeredAt)]

/-- `_application_context`. -/
def applicationContext (context : ApplicationContext) : Json :=
  .obj [("id", .str context.id), ("status", .str context.status), ("scanner_version", .str context.scannerVersion),
    ("graph_hash", .str context.graphHash), ("impact_analysis", context.impactAnalysis),
    ("risk_analysis", context.riskAnalysis),
    ("repositories", .arr (context.repositories.map fun repository => .obj [("position", .int repository.position),
      ("full_name", .ofOption repository.fullName), ("requested_path", .ofOption repository.requestedPath),
      ("resolved_path", .ofOption repository.resolvedPath), ("base_revision", .ofOption repository.baseRevision),
      ("status", .str repository.status), ("error_code", .ofOption repository.errorCode),
      ("error_message", .ofOption repository.errorMessage), ("file_count", .int repository.fileCount),
      ("skipped_file_count", .int repository.skippedFileCount)]))]

/-- `_execution_plan`. -/
def executionPlan (details : PlanDetails) (plan : ExecutionPlan) : Json :=
  .obj [("id", .str plan.id), ("revision", .int plan.revision), ("status", .str plan.status),
    ("policy_pack", details.policyPack), ("risk_decision", .str details.riskDecision),
    ("policy_decision", .str details.policyDecision),
    ("security_review", .ofPart details.securityReview fun security => .obj [("required", .bool security.required),
      ("status", .str security.status), ("reviewer", security.reviewerConfiguration), ("findings", security.findings),
      ("reviewed_at", isoOption security.reviewedAt), ("reviewed_by", .ofOption security.reviewedBy)]),
    ("approval_gates", .arr (details.approvalGates.map fun gate => .obj [("id", .str gate.id),
      ("gate_type", .str gate.gateType), ("action", .str gate.action), ("reason", .str gate.reason),
      ("status", .str gate.status), ("step_ids", gate.stepIds), ("approval_id", .ofOption gate.approvalId)])),
    ("steps", .arr (details.steps.map fun step => .obj [("id", .str step.id), ("sequence", .int step.sequence),
      ("kind", .str step.kind), ("title", .str step.title), ("objective", .str step.objective),
      ("acceptance_criteria", step.acceptanceCriteria), ("required_tools", step.requiredTools),
      ("risk_tags", step.riskTags), ("depends_on", step.dependsOn), ("agent", step.agentConfiguration)]))]

/-- `_agent_invocation`. -/
def agentInvocation (event : ContextEvent) : Json :=
  let payload := event.payload
  let taskContract := (payload.get "agent_task_contract").orElse (.obj [])
  let resultContract := (payload.get "agent_result_contract").orElse (.obj [])
  .obj [("event_id", .str event.id), ("name", (payload.get "agent_name").orElse (.str "unknown-agent")),
    ("role", taskContract.get "role"), ("status", resultContract.get "status"), ("summary", payload.get "summary"),
    ("confidence", payload.get "confidence"), ("next_state_hint", payload.get "next_state_hint"),
    ("usage", (payload.field? "usage").getD (.arr [])),
      ("tool_execution", (payload.field? "tool_execution").getD (.arr [])),
    ("created_at", .str (isoformat event.createdAt))]

/-- The answer of `summarize_task` as a document. -/
def costs (floatSum : List Json → Json) (summary : CostSummary) : Json :=
  .obj [("task_id", .str summary.taskId),
    ("usage", .arr (summary.usage.map fun entry => .obj [("provider", .str entry.provider), ("model", .str entry.model),
      ("input_tokens", .int entry.inputTokens), ("output_tokens", .int entry.outputTokens),
      ("estimated_cost_usd", floatSum entry.estimatedCostUsd),
      ("cost_estimation_available", .bool !entry.estimatedCostUsd.isEmpty),
      ("premium_requests", .int entry.premiumRequests), ("total_nano_aiu", .int entry.totalNanoAiu)])),
    ("input_tokens", .int summary.inputTokens), ("output_tokens", .int summary.outputTokens),
    ("estimated_cost_usd", floatSum (summary.estimatedCostUsd.map floatSum)),
    ("cost_estimation_available", .bool summary.costEstimationAvailable),
    ("premium_requests", .int summary.premiumRequests), ("total_nano_aiu", .int summary.totalNanoAiu),
    ("tool_execution_count", .int summary.toolExecutionCount), ("tool_duration_ms", .int summary.toolDurationMs),
    ("failed_tool_execution_count", .int summary.failedToolExecutionCount)]

/-- `latest_metadata`. -/
def latestMetadata (d : Db) (runId : String) : Json :=
  .ofPart ((d.snapshots.filter fun snapshot => snapshot.content.runId == runId).argmax fun snapshot =>
      toLex (snapshot.content.eventSequence, snapshot.createdAt)) fun snapshot =>
    .obj [("id", .str snapshot.id), ("schema_version", .str snapshot.content.schemaVersion),
      ("event_sequence", .int snapshot.content.eventSequence), ("event_hash", .str snapshot.content.eventHash),
      ("checksum", .str snapshot.checksum), ("creation_reason", .str snapshot.content.creationReason)]

/-- `replay_metadata`. -/
def replayMetadata (d : Db) (runId : String) : Json :=
  .ofPart (d.replays.find? fun link => link.replayRunId == runId) fun link =>
    .obj [("schema_version", .str "run-replay/v1"), ("source_run_id", .str link.sourceRunId),
      ("source_snapshot_id", .str link.sourceSnapshotId), ("overrides", link.overrides),
      ("replay_reason", .str link.replayReason)]

/-- `build`, of a run with its task; `available` says whether snapshots have a table. -/
def build (available : Bool) (rows : ContextRows) (d : Db) (run : Run) (task : Task) (includeSnapshotMetadata : Bool) :
    Except Error Json := do
  let details := rows.task task.id
  let project := run.projectId.bind rows.project
  let agentEvents := Table.orderBy ContextEvent.createdAt
    (d.contextEvents.filter fun event => event.taskId == task.id && event.eventType == "agent_result")
  let plan := ((d.plans.filter fun plan => plan.taskId == task.id).insertionSort fun a b =>
    b.revision < a.revision ∨ b.revision = a.revision ∧ a.id ≤ b.id).head?
  let summary ← CostService.summarizeTask d task.id
  let context : List (String × Json) :=
    [("run", .obj [("id", .str run.id), ("workflow_version", .str run.workflowVersion),
        ("source_revision", .ofOption run.sourceRevision), ("target_repo_path", .ofOption run.targetRepoPath),
        ("recovery_state", run.recoveryState.getD .null), ("recovery_attempt_count", .int run.recoveryAttemptCount),
        ("last_failure_classification", .ofOption run.lastFailureClassification),
        ("last_recovery_action", .ofOption run.lastRecoveryAction)]),
      ("task", .obj [("id", .str task.id), ("title", .str task.title), ("description", .str task.description),
        ("status", .str task.status), ("target_repo_path", .ofOption task.targetRepoPath),
        ("contract_version", .str details.contractVersion), ("connector_type", .ofOption details.connectorType),
        ("external_id", .ofOption details.externalId), ("external_url", .ofOption details.externalUrl),
        ("task_contract", details.taskContract.getD .null), ("readiness_score", .ofPart details.readinessScore .int),
        ("readiness_details", details.readinessDetails.getD .null),
        ("clarifications", .arr (details.clarifications.map clarification)),
        ("created_at", .str (isoformat details.createdAt)), ("updated_at", .str (isoformat details.updatedAt))]),
      ("organization", .ofPart (project.bind ProjectDetails.organization) fun organization =>
        .obj [("id", .str organization.id), ("slug", .str organization.slug), ("name", .str organization.name)]),
      ("project", .ofPart project fun project => .obj [("id", .str project.id), ("slug", .str project.slug),
        ("name", .str project.name), ("repository_full_name", .ofOption project.repositoryFullName),
        ("repository_path", .ofOption project.repositoryPath)]),
      ("agents", .arr (agentEvents.map agentInvocation)), ("costs", costs rows.floatSum summary),
      ("application_context", .ofPart (rows.applicationContext task.id) applicationContext),
      ("execution_plan", .ofPart plan fun plan => executionPlan (rows.plan plan.id) plan),
      ("jira_delivery", .ofPart (rows.jiraDelivery task.id) fun delivery => .obj [("status", .str delivery.status),
        ("jira_status", .ofOption delivery.jiraStatus), ("status_comment_id", .ofOption delivery.statusCommentId),
        ("pr_status", .str delivery.prStatus), ("pr_url", .ofOption delivery.prUrl), ("context", delivery.context),
        ("last_error", .ofOption delivery.lastError), ("updated_at", .str (isoformat delivery.updatedAt))])]
  if includeSnapshotMetadata && available then
    .ok (.obj (context ++ [("snapshot", latestMetadata d run.id), ("replay", replayMetadata d run.id)]))
  else .ok (.obj context)

/-- The context a snapshot holds. Where `build` raises, there is no snapshot,
and here the context is empty. -/
def snapshotContext (available : Bool) (rows : ContextRows) (d : Db) (run : Run) : Json :=
  .ofPart (d.tasks.find run.taskId) fun task => ((build available rows d run task false).toOption).getD .null

variable {available : Bool} {d : Db} {rows : ContextRows} {run : Run}

theorem build_snapshots {task : Task} (snapshots : List RunSnapshot) :
    build available rows { d with snapshots := snapshots } run task false = build available rows d run task false := rfl

theorem snapshotContext_snapshots (snapshots : List RunSnapshot) :
    snapshotContext available rows { d with snapshots := snapshots } run = snapshotContext available rows d run := by
  unfold snapshotContext
  simp only [build_snapshots]

end RunContextService

end SacmRuntime
