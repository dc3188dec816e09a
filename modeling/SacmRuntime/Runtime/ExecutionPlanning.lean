import SacmRuntime.Runtime.ExternalAgentService

namespace SacmRuntime
open Session

structure ApplicationContext where
  id : String
  taskId : String
  graphHash : String
  graph : Json
  impactAnalysis : Json
  riskAnalysis : Json

/-- A `TaskContractV1` that has been validated, as `model_dump` gives it. -/
structure TaskContractV1 where
  dump : Json

structure SecretRequestV1 where
  name : String
  dump : Json

structure GateRequirement where
  gateType : String
  action : String
  reason : String
  stepIds : List String

structure PolicyDecisionV1 where
  allow : Bool
  requiresApproval : Bool
  requiresSecurityReview : Bool
  approvalGates : List GateRequirement
  dump : Json

structure SecurityReview where
  required : Bool
  status : String
  reviewer : Json
  findings : List Json
  reviewedAt : Option Nat
  reviewedBy : Option String

structure ApprovalGateV1 where
  id : String
  gateType : String
  action : String
  reason : String
  status : String
  stepIds : List String
  approvalId : Option String

/-- The rows of a plan beside its own: its steps, decisions, review, secret
requirements and gates, and the columns the shared plan row leaves out. -/
structure PlanBody where
  planId : String
  plannerVersion : String
  policyPack : String
  steps : List Json
  riskDecision : Json
  policyDecision : Json
  securityReview : SecurityReview
  secretRequirements : List (Json × Json)
  approvalGates : List ApprovalGateV1
  createdAt : Nat

structure ExecutionPlanV1 where
  id : String
  taskId : String
  applicationContextId : String
  revision : Nat
  plannerVersion : String
  sourceHash : String
  status : String
  policyPack : String
  steps : List Json
  riskDecision : Json
  policyDecision : Json
  securityReview : SecurityReview
  secretRequirements : List Json
  secretReferences : List Json
  approvalGates : List ApprovalGateV1
  createdAt : Nat

structure ExecutionPlanPolicyRead where
  planId : String
  riskDecision : Json
  policyDecision : Json
  approvalGates : List ApprovalGateV1

structure ExecutionPlanSecretsRead where
  planId : String
  requirements : List Json
  references : List Json

/-- The tables planning works on: the shared ones, the `task_contract` of
each task, the application contexts and the rows of the plans. -/
structure PlanningDb where
  shared : Db
  taskContract : String → Json
  contexts : List ApplicationContext
  bodies : List PlanBody

abbrev PlanningMethod (α : Type) : Type := Tx (Session PlanningDb) Error α

/-- The parts of a new plan that are derived from its inputs alone. -/
structure PlannedSteps where
  steps : List Json
  riskDecision : Json
  policyInput : Json

/-- What planning uses of other services and of the schemas. -/
structure PlanningTools where
  validateContract : Json → Except Error TaskContractV1
  assess : TaskContractV1 → Bool × List String
  validateSecretRequest : Json → Except Error SecretRequestV1
  buildSteps : String → TaskContractV1 → ApplicationContext → List SecretRequestV1 → Except Error PlannedSteps
  evaluatePlan : Json → String → Except Error PolicyDecisionV1
  reviewer : Except Error Json
  resolveSecret : SecretRequestV1 → Except Error Json
  validatePlan : ExecutionPlanV1 → Except Error Unit

/-- What a call of `build` is told by the tenancy services, and what becomes
of its audit record and of the refresh of the traceability links. -/
structure BuildChecks where
  authorized : Except Error Unit
  audited : Except Error Unit
  refreshed : Except Error Unit

def plannerVersion : String := "deterministic-planner/v1"

namespace ExecutionPlanningService

/-- `_contract`. -/
def contractOf (tools : PlanningTools) (d : PlanningDb) (taskId : String) : Except Error TaskContractV1 :=
  if (d.taskContract taskId).truthy then
    match tools.validateContract (d.taskContract taskId) with
    | .ok contract => .ok contract
    | .error _ => .error (.valueError ("Task " ++ taskId ++ " has an invalid TaskContractV1."))
  else .error (.valueError ("Task " ++ taskId ++ " has no durable TaskContractV1."))

def validateAll (tools : PlanningTools) : List Json → Except Error (List SecretRequestV1)
  | [] => .ok []
  | item :: rest =>
    match tools.validateSecretRequest item, validateAll tools rest with
    | .ok request, .ok requests => .ok (request :: requests)
    | _, _ => .error (.valueError "Task metadata contains an invalid secret-request/v1 object.")

/-- `_secret_requests`. -/
def secretRequests (tools : PlanningTools) (contract : TaskContractV1) : Except Error (List SecretRequestV1) :=
  match (contract.dump.get "metadata").get "secret_requests" with
  | .null => .ok []
  | .arr items =>
    match validateAll tools items with
    | .error e => .error e
    | .ok requests =>
      if (requests.map SecretRequestV1.name).Nodup then
        .ok (requests.insertionSort fun a b => a.name ≤ b.name)
      else .error (.valueError "Secret request names must be unique.")
  | _ => .error (.valueError "Task metadata secret_requests must be a list of secret-request/v1 objects.")

/-- `_source_hash`. -/
def sourceHash (env : Env) (contract : TaskContractV1) (context : ApplicationContext) (policyPack : String)
    (requests : List SecretRequestV1) : String :=
  env.sha256 ((Json.obj [("planner_version", .str plannerVersion), ("contract", contract.dump),
    ("application_context_id", .str context.id), ("graph_hash", .str context.graphHash),
    ("impact_analysis", context.impactAnalysis), ("risk_analysis", context.riskAnalysis),
    ("policy_pack", .str policyPack), ("secret_requests", .arr (requests.map SecretRequestV1.dump))]).text true)

/-- What `build` reads before it looks for a plan: the contract, the context,
the secret requests and the hash of them all. -/
structure Inputs where
  contract : TaskContractV1
  context : ApplicationContext
  requests : List SecretRequestV1
  hash : String

/-- The checks of `build` on its inputs, and the inputs that pass them. -/
def inputs (env : Env) (tools : PlanningTools) (d : PlanningDb) (taskId policyPack : String) : Except Error Inputs := do
  let contract ← contractOf tools d taskId
  if (tools.assess contract).1 = false then
    .error (.valueError ("Task " ++ taskId ++ " is not Definition-of-Ready; missing: " ++
      ", ".intercalate (tools.assess contract).2 ++ "."))
  else
    match d.contexts.find? fun context => context.taskId == taskId with
    | none => .error (.valueError ("Task " ++ taskId ++ " requires an existing application context."))
    | some context =>
      let requests ← secretRequests tools contract
      .ok ⟨contract, context, requests, sourceHash env contract context policyPack requests⟩

/-- `_read`. -/
def read (tools : PlanningTools) (d : PlanningDb) (plan : ExecutionPlan) : Except Error ExecutionPlanV1 :=
  match d.bodies.find? fun body => body.planId == plan.id with
  | none => .error (.attributeError "'NoneType' object has no attribute 'required'")
  | some body =>
    let result : ExecutionPlanV1 :=
      { id := plan.id, taskId := plan.taskId, applicationContextId := plan.applicationContextId,
        revision := plan.revision, plannerVersion := body.plannerVersion, sourceHash := plan.sourceHash,
        status := plan.status, policyPack := body.policyPack, steps := body.steps, riskDecision := body.riskDecision,
        policyDecision := body.policyDecision, securityReview := body.securityReview,
        secretRequirements := body.secretRequirements.map Prod.fst,
        secretReferences := body.secretRequirements.map Prod.snd, approvalGates := body.approvalGates,
        createdAt := body.createdAt }
    match tools.validatePlan result with
    | .ok _ => .ok result
    | .error e => .error e

/-- The plan of the task that was built from these inputs. -/
def existingPlan (d : PlanningDb) (taskId hash : String) : Option ExecutionPlan :=
  d.shared.plans.find? fun plan => plan.taskId == taskId && plan.sourceHash == hash

def nextRevision (d : PlanningDb) (taskId : String) : Nat :=
  ((d.shared.plans.filter fun plan => plan.taskId == taskId).map ExecutionPlan.revision).foldr max 0 + 1

def planStatus (decision : PolicyDecisionV1) : String :=
  if !decision.allow then "BLOCKED"
  else if decision.requiresApproval || decision.requiresSecurityReview then "GATED"
  else "READY"

/-- Add a plan row; its identifier and both unique constraints must be free. -/
def insertPlan (plan : ExecutionPlan) : PlanningMethod Unit := do
  let taken ← view fun d => d.shared.plans.any fun other => other.id == plan.id ||
    (other.taskId == plan.taskId && (other.revision == plan.revision || other.sourceHash == plan.sourceHash))
  if taken then Tx.raise (.integrityError "execution_plans")
  else modify fun d => { d with shared := { d.shared with plans := d.shared.plans ++ [plan] } }

/-- The references of the secrets, in the order of the requests. -/
def resolveAll (tools : PlanningTools) : List SecretRequestV1 → Except Error (List (Json × Json))
  | [] => .ok []
  | request :: rest => do
    let reference ← tools.resolveSecret request
    let references ← resolveAll tools rest
    .ok ((request.dump, reference) :: references)

def gateOf (env : Env) (planId : String) (requirement : GateRequirement) : ApprovalGateV1 where
  id := env.uuid5 (planId ++ ":gate:" ++ requirement.gateType ++ ":" ++ requirement.action)
  gateType := requirement.gateType
  action := requirement.action
  reason := requirement.reason
  status := "PENDING"
  stepIds := requirement.stepIds
  approvalId := none

/-- The part of `build` that composes and stores a new plan. -/
def compose (env : Env) (tools : PlanningTools) (checks : BuildChecks) (taskId policyPack : String)
    (inputs : Inputs) : PlanningMethod ExecutionPlanV1 := do
  let revision ← view fun d => nextRevision d taskId
  let planId := env.uuid5 (taskId ++ ":" ++ inputs.hash)
  let planned ← Tx.ofExcept (tools.buildSteps planId inputs.contract inputs.context inputs.requests)
  let decision ← Tx.ofExcept (tools.evaluatePlan planned.policyInput policyPack)
  let now ← utcnow
  let plan : ExecutionPlan :=
    { id := planId, taskId := taskId, revision := revision, schemaVersion := "execution-plan/v1",
      status := planStatus decision, sourceHash := inputs.hash, applicationContextId := inputs.context.id,
      stepCount := planned.steps.length, secretRequirements := inputs.requests.map SecretRequestV1.dump }
  insertPlan plan
  flush
  let reviewer ← Tx.ofExcept tools.reviewer
  let secrets ← Tx.ofExcept (resolveAll tools inputs.requests)
  let body : PlanBody :=
    { planId := planId, plannerVersion := plannerVersion, policyPack := policyPack, steps := planned.steps,
      riskDecision := planned.riskDecision, policyDecision := decision.dump,
      securityReview := { required := true, status := "PENDING", reviewer := reviewer, findings := [],
                          reviewedAt := none, reviewedBy := none },
      secretRequirements := secrets, approvalGates := decision.approvalGates.map (gateOf env planId),
      createdAt := now }
  modify fun d => { d with bodies := d.bodies ++ [body] }
  commit
  Tx.ofExcept checks.audited
  Tx.ofExcept checks.refreshed
  let result ← view fun d => read tools d plan
  Tx.ofExcept result

/-- `ExecutionPlanningService.build`. -/
def build (env : Env) (tools : PlanningTools) (checks : BuildChecks) (taskId policyPack : String)
    (actorId : Option String) : PlanningMethod ExecutionPlanV1 := do
  if policyPack ≠ "default" ∧ policyPack ≠ "strict" then
    Tx.raise (.valueError ("Unknown policy pack: " ++ policyPack))
  else
    let found ← view fun d => d.shared.tasks.find taskId
    let _ ← Tx.expect (.valueError ("Task " ++ taskId ++ " not found.")) found
    if actorId = none ∧ env.production = true then
      Tx.raise (.permissionError "Authenticated tenant context is required.")
    else
      Tx.ofExcept (if actorId.isSome then checks.authorized else .ok ())
      let checked ← view fun d => inputs env tools d taskId policyPack
      let inputs ← Tx.ofExcept checked
      let existing ← view fun d => existingPlan d taskId inputs.hash
      match existing with
      | some plan => do
        let result ← view fun d => read tools d plan
        Tx.ofExcept result
      | none => compose env tools checks taskId policyPack inputs

/-- `_latest`. -/
def latest (d : PlanningDb) (taskId : String) : Option ExecutionPlan := d.shared.latestPlan taskId

/-- `get`. -/
def get (tools : PlanningTools) (d : PlanningDb) (taskId : String) : Except Error (Option ExecutionPlanV1) :=
  match latest d taskId with
  | none => .ok none
  | some plan => (read tools d plan).map some

/-- `get_policy`. -/
def getPolicy (tools : PlanningTools) (d : PlanningDb) (taskId : String) :
    Except Error (Option ExecutionPlanPolicyRead) :=
  match latest d taskId with
  | none => .ok none
  | some plan => (read tools d plan).map fun plan =>
      some ⟨plan.id, plan.riskDecision, plan.policyDecision, plan.approvalGates⟩

/-- `get_security_review`. -/
def getSecurityReview (tools : PlanningTools) (d : PlanningDb) (taskId : String) :
    Except Error (Option SecurityReview) :=
  match latest d taskId with
  | none => .ok none
  | some plan => (read tools d plan).map fun plan => some plan.securityReview

/-- `get_secret_requirements`. -/
def getSecretRequirements (tools : PlanningTools) (d : PlanningDb) (taskId : String) :
    Except Error (Option ExecutionPlanSecretsRead) :=
  match latest d taskId with
  | none => .ok none
  | some plan => (read tools d plan).map fun plan =>
      some ⟨plan.id, plan.secretRequirements, plan.secretReferences⟩

end ExecutionPlanningService

/-- A change of what plans are made from, or a `build`. -/
inductive PlanningCall where
  | change (tasks : Table Task) (taskContract : String → Json) (contexts : List ApplicationContext)
  | build (tools : PlanningTools) (checks : BuildChecks) (taskId policyPack : String) (actorId : Option String)

def PlanningCall.after (env : Env) (call : PlanningCall) (d : PlanningDb) (supply : Supply) : PlanningDb :=
  match call with
  | .change tasks taskContract contexts =>
    { d with shared := { d.shared with tasks := tasks }, taskContract := taskContract, contexts := contexts }
  | .build tools checks taskId policyPack actorId =>
    (request (ExecutionPlanningService.build env tools checks taskId policyPack actorId) d supply).2

abbrev PlanningHistory (env : Env) : PlanningDb → PlanningDb → Prop := Path (PlanningCall.after env) fun _ _ _ => True

end SacmRuntime
