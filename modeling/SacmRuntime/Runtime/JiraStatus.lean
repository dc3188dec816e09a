import SacmRuntime.Runtime.GitHubWebhook
import SacmRuntime.Runtime.JiraClient

namespace SacmRuntime
open EvidenceService Jira

/-- What the Jira service takes from its surroundings, with the SHA-256 of a
text and `str.casefold`. -/
structure JiraEnv extends WebhookEnv where
  sha256 : List Char → String
  casefold : String → String

/-- A row of `jira_connectors`, as the service reads it. -/
structure JiraConnector where
  id : String
  projectId : String
  baseUrl : String
  jiraProjectKey : String
  fieldMapping : List (String × String)
  statusMapping : List (String × String)
  maxAttempts : Nat

/-- What a status says about a task: its readiness score in hundredths, and
its `readiness_details`. The id is a generated one, on a single line. -/
structure JiraTask where
  id : String
  readinessScore : Option Nat
  readinessDetails : Json
  plain : Plain id.toList

inductive JiraOperationStatus where
  | pending
  | completed
  | failed
  deriving DecidableEq

/-- A row of `jira_connector_operations`. -/
structure JiraConnectorOperation where
  connectorId : String
  taskId : String
  runId : Option String
  operationType : String
  idempotencyKey : String
  payloadHash : String
  status : JiraOperationStatus := .pending
  attemptCount : Nat := 0
  externalId : Option String := none
  result : Json := .null
  error : Option String := none

/-- A row of `jira_delivery_states`. -/
structure JiraDeliveryState where
  connectorId : String
  taskId : String
  runId : Option String := none
  status : String := "INGESTED"
  jiraStatus : Option String := none
  statusCommentId : Option String := none
  context : Json := .obj []
  lastError : Option String := none

structure JiraEvent where
  taskId : String
  eventType : String
  payload : Json

structure JiraDb where
  operations : List JiraConnectorOperation := []
  states : List JiraDeliveryState := []
  events : List JiraEvent := []

namespace JiraDb

def operation? (d : JiraDb) (connectorId key : String) : Option JiraConnectorOperation :=
  d.operations.find? fun row => row.connectorId == connectorId && row.idempotencyKey == key

def state? (d : JiraDb) (taskId : String) : Option JiraDeliveryState := d.states.find? fun row => row.taskId == taskId

def completed (d : JiraDb) (connectorId key : String) : Bool :=
  (d.operation? connectorId key).any fun row => row.status == .completed

def setOperation (connectorId key : String) (f : JiraConnectorOperation → JiraConnectorOperation) (d : JiraDb) :
    JiraDb :=
  { d with operations := d.operations.map fun row =>
      if row.connectorId == connectorId && row.idempotencyKey == key then f row else row }

def setState (taskId : String) (f : JiraDeliveryState → JiraDeliveryState) (d : JiraDb) : JiraDb :=
  { d with states := d.states.map fun row => if row.taskId == taskId then f row else row }

end JiraDb

/-- The rows as they are committed and as the session holds them, and the
Jira side of the call. -/
structure JiraUnit where
  committed : JiraDb
  working : JiraDb
  remote : JiraRemote

abbrev JiraMethod (α : Type) : Type := Tx JiraUnit Error α

namespace JiraService
open JiraCloudClient

def rows {α : Type} (g : JiraDb → α) : JiraMethod α := Tx.read fun unit => g unit.working

def change (f : JiraDb → JiraDb) : JiraMethod Unit := Tx.shift fun unit => { unit with working := f unit.working }

def commit : JiraMethod Unit := Tx.shift fun unit => { unit with committed := unit.working }

def onJira {α : Type} (m : Tx JiraRemote Error α) : JiraMethod α := fun unit =>
  ((m unit.remote).1, { unit with remote := (m unit.remote).2 })

/-- `canonical_hash`. -/
def canonicalHash (env : JiraEnv) (value : Json) : String := env.sha256 (Json.dumps true value)

/-- `_safe_error`. -/
def safeError : Error → String
  | .other "JiraError" message => message
  | .other className _ => className
  | .valueError _ => "ValueError"
  | .keyError _ => "KeyError"
  | .permissionError _ => "PermissionError"
  | .integrityError _ => "IntegrityError"
  | .executionConflict _ => "ExecutionConflict"
  | .executorAuthenticationError _ => "ExecutorAuthenticationError"
  | .executionAuthorizationError _ => "ExecutionAuthorizationError"
  | .attributeError _ => "AttributeError"
  | .runtimeError _ => "RuntimeError"

def isJiraError : Error → Bool
  | .other "JiraError" _ => true
  | _ => false

def marker (taskId : String) : String := "[SACM-STATUS:v1 task_id=" ++ taskId ++ "]"

/-- `marker in adf_text(item.get("body"))`. -/
def carries (taskId : String) (comment : JiraComment) : Bool := contains (adfText comment.body) (marker taskId).toList

/-- One line of the summary, with the text for a missing one. -/
def summaryLine (env : JiraEnv) (summary : Json) (label key absent : String) : List Char :=
  label.toList ++ ':' :: ' ' ::
    (GitHubWebhookService.text env.toWebhookEnv ((summary.field? key).getD (.str absent))).toList

/-- `_status_text`. -/
def statusText (env : JiraEnv) (task : JiraTask) (summary : Json) (targetState : String) : List Char :=
  let missing := List.intercalate [',', ' '] ((task.readinessDetails.get "missing_fields").strings.map String.toList)
  List.intercalate ['\n'] ["SACM delivery status".toList, "State: ".toList ++ targetState.toList,
    "Definition of Ready: ".toList ++ (toString (task.readinessScore.getD 0)).toList ++ "% (missing: ".toList ++
      (if missing = [] then "none".toList else missing) ++ [')'],
    summaryLine env summary "Questions" "questions" "none",
    summaryLine env summary "Application impact/risk" "impact_risk" "not built",
    summaryLine env summary "Plan/policy/approvals" "plan" "not built",
    summaryLine env summary "Run/agents/tests/evidence" "run" "not started",
    summaryLine env summary "Pull request" "pull_request" "not configured"]

def statusBody (env : JiraEnv) (task : JiraTask) (summary : Json) (targetState : String) : Json :=
  adfDocument ((marker task.id).toList ++ '\n' :: statusText env task summary targetState)

/-- `_delivery_state`. -/
def deliveryState (connector : JiraConnector) (taskId : String) : JiraMethod Unit := do
  let found ← rows fun d => d.state? taskId
  match found with
  | some _ => pure ()
  | none => do
    change fun d => { d with states := d.states ++ [{ connectorId := connector.id, taskId := taskId }] }
    commit

/-- `_operation`. -/
def operation (connector : JiraConnector) (taskId : String) (runId : Option String)
    (operationType key payloadHash : String) : JiraMethod JiraConnectorOperation := do
  let found ← rows fun d => d.operation? connector.id key
  match found with
  | some row =>
    if row.payloadHash ≠ payloadHash then Tx.raise (.valueError "Jira operation idempotency payload mismatch.")
    else pure row
  | none => do
    let row : JiraConnectorOperation :=
      { connectorId := connector.id, taskId := taskId, runId := runId, operationType := operationType,
        idempotencyKey := key, payloadHash := payloadHash }
    change fun d => { d with operations := d.operations ++ [row] }
    commit
    pure row

def reconcileComment (access : Access) (taskId : String) (e : Error) : JiraMethod JiraComment :=
  if !isJiraError e then Tx.raise e
  else do
    let again ← onJira (comments access)
    Tx.expect e (again.find? (carries taskId))

def createStatusComment (access : Access) (taskId : String) (body : Json) : JiraMethod JiraComment :=
  Tx.catchRaise (onJira (createComment access body)) (reconcileComment access taskId)

def writeStatusComment (access : Access) (taskId : String) (body : Json) (comment : Option JiraComment) :
    JiraMethod JiraComment :=
  match comment with
  | some comment => onJira (updateComment access comment.id body)
  | none => createStatusComment access taskId body

/-- The body of `try` in `sync_status`. -/
def tryStatusComment (access : Access) (connectorId taskId key : String) (body : Json) (comment : Option JiraComment) :
    JiraMethod Unit := do
  change (JiraDb.setOperation connectorId key fun row => { row with attemptCount := row.attemptCount + 1 })
  let result ← writeStatusComment access taskId body comment
  change (JiraDb.setOperation connectorId key fun row =>
    { row with
      externalId := some result.id, result := .obj [("comment_id", .str result.id)], status := .completed,
      error := none })
  change (JiraDb.setState taskId fun row => { row with statusCommentId := some result.id })

/-- The handler of `try` in `sync_status`. -/
def failStatusComment (connectorId taskId key : String) (e : Error) : JiraMethod Unit := do
  change (JiraDb.setOperation connectorId key fun row => { row with status := .failed, error := some (safeError e) })
  change (JiraDb.setState taskId fun row => { row with lastError := some (safeError e) })
  commit
  Tx.raise e

/-- The part of `sync_status` that writes the comment. -/
def publishComment (access : Access) (connectorId taskId key : String) (body : Json) : JiraMethod Unit := do
  let comments ← onJira (comments access)
  Tx.catchRaise (tryStatusComment access connectorId taskId key body (comments.find? (carries taskId)))
    (failStatusComment connectorId taskId key)

def commentKey (taskId payloadHash : String) : String := "status-comment:" ++ taskId ++ ":" ++ payloadHash

/-- The comment of a call, unless its operation is completed. -/
def syncComment (env : JiraEnv) (access : Access) (connector : JiraConnector) (taskId : String) (runId : Option String)
    (body : Json) : JiraMethod Unit := do
  let key := commentKey taskId (canonicalHash env body)
  let operation ← operation connector taskId runId "STATUS_COMMENT" key (canonicalHash env body)
  if operation.status = .completed then pure ()
  else publishComment access connector.id taskId key body

def mappedStatus (connector : JiraConnector) (targetState : String) : Option String :=
  ((connector.statusMapping.find? fun entry => entry.1 == targetState).map Prod.snd).filter fun target => target != ""

/-- A transition that leads to the mapped status: by its id, its name or its status. -/
def leadsTo (env : JiraEnv) (target : String) (item : JiraTransition) : Bool :=
  item.id == target || env.casefold item.name == env.casefold target || env.casefold item.target == env.casefold target

/-- A lost answer is made good if the issue has the status. -/
def reconcileTransition (access : Access) (target : String) (e : Error) : JiraMethod Unit :=
  if !isJiraError e then Tx.raise e
  else do
    let current ← onJira (issueStatus access)
    if current ≠ target then Tx.raise e else pure ()

def requestTransition (access : Access) (target : String) (item : JiraTransition) : JiraMethod Unit :=
  Tx.catchRaise (onJira (transition access item.id)) (reconcileTransition access target)

def transitionKey (taskId targetState target : String) : String :=
  "transition:" ++ taskId ++ ":" ++ targetState ++ ":" ++ target

def completeTransition (connectorId key : String) (result : Json) : JiraMethod Unit :=
  change (JiraDb.setOperation connectorId key fun row => { row with status := .completed, result := result })

/-- `_transition`, past the operation that is completed already. -/
def moveStatus (env : JiraEnv) (access : Access) (connectorId key target : String) : JiraMethod Unit := do
  let current ← onJira (issueStatus access)
  if current = target then
    completeTransition connectorId key (.obj [("status", .str target), ("reconciled", .bool true)])
  else
    let items ← onJira (transitions access)
    let item ← Tx.expect (jiraError "Configured Jira transition is not currently available.")
      (items.find? (leadsTo env target))
    change (JiraDb.setOperation connectorId key fun row => { row with attemptCount := row.attemptCount + 1 })
    requestTransition access target item
    completeTransition connectorId key (.obj [("status", .str target)])

/-- `_transition`. -/
def syncTransition (env : JiraEnv) (access : Access) (connector : JiraConnector) (taskId : String)
    (runId : Option String)
    (targetState : String) : JiraMethod (Option String) := do
  match mappedStatus connector targetState with
  | none => pure none
  | some target => do
    let key := transitionKey taskId targetState target
    let operation ← operation connector taskId runId "STATUS_TRANSITION" key
      (canonicalHash env (.obj [("target", .str target)]))
    if operation.status = .completed then
      pure (some (GitHubWebhookService.text env.toWebhookEnv ((operation.result.get "status").orElse (.str target))))
    else do
      moveStatus env access connector.id key target
      pure (some target)

/-- What `sync_status` stores once Jira is written. -/
def recordStatus (connector : JiraConnector) (taskId : String) (summary : Json) (targetState : String)
    (runId jiraStatus : Option String) : JiraMethod JiraDeliveryState := do
  change (JiraDb.setState taskId fun row =>
    { row with status := targetState, jiraStatus := jiraStatus.orElse fun _ => row.jiraStatus, context := summary,
               lastError := none })
  let commentId ← rows fun d => (d.state? taskId).bind JiraDeliveryState.statusCommentId
  change fun d => { d with events := d.events ++ [⟨taskId, "jira_status_synchronized", .obj [
    ("connector_id", .str connector.id), ("delivery_status", .str targetState), ("jira_status", .ofOption jiraStatus),
    ("status_comment_id", .ofOption commentId), ("run_id", .ofOption runId)]⟩] }
  commit
  let state ← rows fun d => d.state? taskId
  Tx.expect (.other "InvalidRequestError" "Could not refresh instance") state

end JiraService

/-- One call of `sync_status`: its arguments, what becomes of its requests,
and whether the session goes on to be used when it raises. -/
structure SyncCall where
  connector : JiraConnector
  task : JiraTask
  summary : Json
  targetState : String
  runId : Option String := none
  secret : Except Error Unit := .ok ()
  attempts : Nat → HttpAttempt
  kept : Bool := false

structure JiraWorld where
  db : JiraDb
  issue : JiraIssue

namespace SyncCall
open JiraService
variable (env : JiraEnv) (site : JiraSite)

def access (call : SyncCall) : JiraCloudClient.Access := ⟨site, call.secret, call.connector.maxAttempts⟩

def body (call : SyncCall) : Json := statusBody env call.task call.summary call.targetState

/-- `sync_status`. -/
def syncStatus (call : SyncCall) : JiraMethod JiraDeliveryState := do
  deliveryState call.connector call.task.id
  change (JiraDb.setState call.task.id fun row => { row with runId := (present call.runId).orElse fun _ => row.runId })
  syncComment env (call.access site) call.connector call.task.id call.runId (call.body env)
  let jiraStatus ← syncTransition env (call.access site) call.connector call.task.id call.runId call.targetState
  recordStatus call.connector call.task.id call.summary call.targetState call.runId jiraStatus

def run (call : SyncCall) (world : JiraWorld) : Except Error JiraDeliveryState × JiraUnit :=
  call.syncStatus env site ⟨world.db, world.db, ⟨world.issue, call.attempts⟩⟩

def after (call : SyncCall) (world : JiraWorld) : JiraWorld :=
  let unit := (call.run env site world).2
  ⟨if call.kept then unit.working else unit.committed, unit.remote.issue⟩

end SyncCall

/-- What happens next: a call, or others write to the tables. -/
inductive SyncAction where
  | sync (call : SyncCall)
  | around (db : JiraDb)

def SyncAction.after (env : JiraEnv) (site : JiraSite) (action : SyncAction) (world : JiraWorld) (_ : Supply) :
    JiraWorld :=
  match action with
  | .sync call => call.after env site world
  | .around db => { world with db := db }

def SyncAction.Concerns (taskId : String) (_ : JiraWorld) (_ : Supply) : SyncAction → Prop
  | .sync call => call.task.id = taskId
  | .around _ => True

namespace JiraIssue

def marked (issue : JiraIssue) (taskId : String) : List JiraComment :=
  issue.comments.filter (JiraService.carries taskId)

end JiraIssue

namespace SyncCall
open JiraService
variable (env : JiraEnv) (site : JiraSite)

/-- The issue shows what the call renders: one comment with the marker, of the
rendered body, and the mapped status. -/
structure Shown (call : SyncCall) (issue : JiraIssue) : Prop where
  comment : (issue.marked call.task.id).map JiraComment.body = [call.body env]
  status : ∀ target, mappedStatus call.connector call.targetState = some target → issue.status = target

/-- The issue has the mapped status, or the transition that is taken for it leads there. -/
def Reaches (target status : String) : Prop :=
  status = target ∨ ∃ item, (site.transitions status).find? (leadsTo env target) = some item ∧ item.target = target

/-- The condition: an operation of the call that is completed is still shown,
and else the task's comment is on the page that is read, and the transition
that is taken leads to the mapped status. -/
structure Current (call : SyncCall) (world : JiraWorld) : Prop where
  comment :
    if world.db.completed call.connector.id
    (commentKey call.task.id (JiraService.canonicalHash env (call.body env))) = true
    then (world.issue.marked call.task.id).map JiraComment.body = [call.body env]
    else ∀ comment ∈ world.issue.marked call.task.id, comment ∈ world.issue.listed
  status : ∀ target, mappedStatus call.connector call.targetState = some target →
    if world.db.completed call.connector.id (transitionKey call.task.id call.targetState target) = true
      then world.issue.status = target else Reaches env site target world.issue.status

end SyncCall

end SacmRuntime
