import SacmRuntime.Governance.Authentication
import SacmRuntime.Governance.NetworkBoundary

namespace SacmRuntime
open Session

structure ProjectRepository where
  id : String
  repositoryFullName : Option String
  repositoryPath : Option String

/-- What the webhook takes from its surroundings: the variables of the process,
`json.loads`, and the text of lists and dicts. -/
structure WebhookEnv where
  getenv : String → Option String
  loads : String → Option Json
  repr : Json → String

/-- A row of `github_webhook_deliveries`. -/
structure GitHubWebhookDelivery where
  deliveryId : String
  runId : String

namespace GitHubWebhookService

/-- `str(value)`. -/
def text (env : WebhookEnv) : Json → String
  | .null => "None"
  | .bool b => if b then "True" else "False"
  | .int n => toString n
  | .float x => String.ofList x.text
  | .str s => s
  | other => env.repr other

/-- `value.get(key)` where the value is not known to be a dict. -/
def dictGet (value : Json) (key : String) : Except Error Json :=
  match value with
  | .obj _ => .ok (value.get key)
  | other => .error (.attributeError ("'" ++ NetworkBoundary.typeName other ++ "' object has no attribute 'get'"))

def isDict : Json → Bool
  | .obj _ => true
  | _ => false

/-- `_project`; a project from the variables is never stored. -/
def project (env : WebhookEnv) (projects : List ProjectRepository) (fullName : Json) : Option ProjectRepository :=
  match fullName with
  | .str name =>
    match projects.find? fun row => row.repositoryFullName == some name with
    | some row => some row
    | none =>
      let mappings := (env.loads ((env.getenv "SACM_GITHUB_REPOSITORIES_JSON").getD "{}")).getD .null
      match mappings.get name with
      | .str path => if path = "" then none else some ⟨"legacy:" ++ name, some name, some path⟩
      | _ => none
  | _ => none

/-- `str(issue.get(key) or "").strip()`. -/
def issueText (env : WebhookEnv) (issue : Json) (key : String) : List Char :=
  stripped (text env ((issue.get key).orElse (.str ""))).toList

/-- The `RunCreate` of an issue; a revision must be a string or null. -/
def runCreate (project : ProjectRepository) (title body : List Char) (revision : Json) : Except Error RunCreate :=
  let payload (sourceRevision : Option String) : RunCreate :=
    { title := String.ofList (title.take 255), description := String.ofList (if body = [] then title else body),
      targetRepoPath := project.repositoryPath, sourceRevision := sourceRevision, projectId := some project.id }
  match revision with
  | .null => .ok (payload none)
  | .str name => .ok (payload (some name))
  | _ => .error (.other "ValidationError" "RunCreate")

/-- The part of `create_run` that reads the payload: the run that is asked
for, or none. -/
def intake (env : WebhookEnv) (projects : List ProjectRepository) (payload : Json) :
    Except Error (Option RunCreate) := do
  if payload.get "action" ≠ .str "labeled" then return none
  else
    let issue := payload.get "issue"
    let repository := payload.get "repository"
    let label ← dictGet ((payload.field? "label").getD (.obj [])) "name"
    if !isDict issue || !isDict repository then return none
    else if (issue.get "pull_request").truthy then return none
    else if label ≠ .str ((env.getenv "SACM_GITHUB_TRIGGER_LABEL").getD "sacm") then return none
    else
      match project env projects (repository.get "full_name") with
      | none => return none
      | some project =>
        let title := issueText env issue "title"
        let body := issueText env issue "body"
        if title = [] then return none
        else return some (← runCreate project title body (repository.get "default_branch"))

/-- How far a call of `create_run` has come. -/
inductive Phase where
  | asked
  /-- No delivery row was found, and the payload asks for this run. -/
  | accepted (payload : RunCreate)
  /-- `RunService.create` has committed this run. -/
  | started (runId : String)
  /-- The row of the delivery, if it has an id, is committed. -/
  | recorded (runId : String)
  | answered (result : Option String)
  | raised (error : Error)
  /-- The process stopped between the commit of this run and the commit of the row. -/
  | abandoned (runId : String)
  | stopped

/-- A call of `create_run`, and the runs that its commits have added. -/
structure Call where
  delivery : Option String
  payload : Json
  phase : Phase := .asked
  made : List String := []

def Call.key (call : Call) : Option String := call.delivery.filter fun id => id != ""

/-- The committed rows, and every call since the beginning. -/
structure World where
  store : Db
  projects : List ProjectRepository := []
  deliveries : List GitHubWebhookDelivery := []
  calls : List Call := []

/-- The runs of the second store that the first does not have. -/
def newRuns (before after : Db) : List String :=
  (after.runs.rows.map Run.id).filter fun id => (before.runs.find id).isNone

def delivered (deliveries : List GitHubWebhookDelivery) (key : Option String) : Option GitHubWebhookDelivery :=
  key.bind fun id => deliveries.find? fun row => row.deliveryId == id

/-- The lookup of the delivery and the reading of the payload. -/
def check (env : WebhookEnv) (world : World) (call : Call) : Phase :=
  match delivered world.deliveries call.key with
  | some row => .answered (some row.runId)
  | none =>
    match intake env world.projects call.payload with
    | .error e => .raised e
    | .ok none => .answered none
    | .ok (some payload) => .accepted payload

def createRun (runEnv : Env) (world : World) (call : Call) (payload : RunCreate) (supply : Supply) : World × Call :=
  let (result, store) := request (RunService.create runEnv payload) world.store supply
  let phase := match result with
    | .ok run => .started run.id
    | .error e => .raised e
  ({ world with store := store }, { call with phase := phase, made := call.made ++ newRuns world.store store })

def recordDelivery (world : World) (call : Call) (runId : String) : World × Call :=
  match call.key with
  | none => (world, { call with phase := .recorded runId })
  | some id =>
    if (delivered world.deliveries call.key).isSome then
      (world, { call with phase := .raised (.integrityError "github_webhook_deliveries.delivery_id") })
    else
      ({ world with deliveries := world.deliveries ++ [⟨id, runId⟩] }, { call with phase := .recorded runId })

def advance (env : WebhookEnv) (runEnv : Env) (supply : Supply) (world : World) (call : Call) : World × Call :=
  match call.phase with
  | .asked => (world, { call with phase := check env world call })
  | .accepted payload => createRun runEnv world call payload supply
  | .started runId => recordDelivery world call runId
  | .recorded runId => (world, { call with phase := .answered (some runId) })
  | _ => (world, call)

/-- A statement or a commit of the call raises; its open transaction is lost. -/
def Call.fails (e : Error) (call : Call) : Call :=
  match call.phase with
  | .asked | .accepted _ | .started _ | .recorded _ => { call with phase := .raised e }
  | _ => call

def Call.stops (call : Call) : Call :=
  match call.phase with
  | .asked | .accepted _ | .recorded _ => { call with phase := .stopped }
  | .started runId => { call with phase := .abandoned runId }
  | _ => call

/-- What happens next: a call comes in, goes on, raises or stops, or others
change the rows that no webhook writes. -/
inductive Action where
  | arrive (delivery : Option String) (payload : Json)
  | proceed (position : Nat)
  | fail (position : Nat) (error : Error)
  | stop (position : Nat)
  | around (store : Db) (projects : List ProjectRepository)

def World.move (world : World) (position : Nat) (step : World → Call → World × Call) : World :=
  match world.calls[position]? with
  | none => world
  | some call =>
    let (next, moved) := step world call
    { next with calls := world.calls.set position moved }

def Action.after (env : WebhookEnv) (runEnv : Env) (action : Action) (world : World) (supply : Supply) : World :=
  match action with
  | .arrive delivery payload => { world with calls := world.calls ++ [{ delivery := delivery, payload := payload }] }
  | .proceed position => world.move position (advance env runEnv supply)
  | .fail position e => world.move position fun world call => (world, call.fails e)
  | .stop position => world.move position fun world call => (world, call.stops)
  | .around store projects => { world with store := store, projects := projects }

def World.runsOf (world : World) (id : String) : List String :=
  (world.calls.filter fun call => call.key = some id).flatMap Call.made

/-- One delivery starts at most one run, its answers name that run, and no call
that raised has added a run. -/
structure ExactlyOnce (world : World) : Prop where
  one : ∀ id, (world.runsOf id).length ≤ 1
  answers : ∀ call ∈ world.calls, ∀ id, call.key = some id → ∀ runId, call.phase = .answered (some runId) →
    world.runsOf id = [runId]
  clean : ∀ call ∈ world.calls, ∀ e, call.phase = .raised e → call.made = []

/-- The call is past its check and its run has no row yet. -/
def Call.Open (call : Call) : Prop :=
  match call.phase with
  | .accepted _ | .started _ | .abandoned _ => True
  | _ => False

/-- The condition on a step: a call checks its delivery only while no other
call of the delivery is open, unless its payload asks for no run, and no call
raises once its run is committed. -/
def Orderly (env : WebhookEnv) (world : World) (_ : Supply) : Action → Prop
  | .proceed position => ∀ call, world.calls[position]? = some call → call.phase = .asked →
      ∀ payload, intake env world.projects call.payload = .ok (some payload) →
      ∀ id, call.key = some id → ∀ other ∈ world.calls, other.key = some id → ¬other.Open
  | .fail position _ => ∀ call, world.calls[position]? = some call →
      ∀ runId, call.phase ≠ .started runId ∧ call.phase ≠ .recorded runId
  | _ => True

end GitHubWebhookService

end SacmRuntime
