import SacmRuntime.Runtime.PolicyService

namespace SacmRuntime
open Session

structure PolicyDecision where
  allowed : Bool
  reason : String
  requiresApproval : Bool := false

/-- What became of the request to OPA: an `httpx.HTTPError`, another raise,
or the `result` of the answer. -/
inductive OpaAnswer where
  | httpError (text : String)
  | raised (e : Error)
  | result (value : Json)

/-- What the policies read from the environment of the process, and `str()`. -/
structure PolicyConfig where
  opa : Option (Json → OpaAnswer)
  opaFailClosed : Bool
  deniedToolActions : List String
  approvalRequiredActions : List String
  str : Json → String

/-- What a call is told by the tables of the tenancy services: whether
`require_run` and `run_context` find a tenant context, and what becomes of
the audit record. -/
structure TenantChecks where
  context : Except Error Bool
  record : Except Error Unit

namespace PolicyService

/-- `_evaluate_local`. -/
def evaluateLocal (config : PolicyConfig) (action : String) : PolicyDecision :=
  if action ∈ config.deniedToolActions then { allowed := false, reason := action ++ " is denied by local policy." }
  else
    { allowed := true, reason := "Allowed by local policy.",
      requiresApproval := Decidable.decide (action ∈ config.approvalRequiredActions) }

/-- `_evaluate_opa`. -/
def evaluateOpa (config : PolicyConfig) (ask : Json → OpaAnswer) (payload : Json) : Except Error PolicyDecision :=
  match ask payload with
  | .httpError text =>
    if config.opaFailClosed then .ok { allowed := false, reason := "OPA policy evaluation failed: " ++ text }
    else .ok { allowed := true, reason := "OPA unavailable; fail-open explicitly configured." }
  | .raised e => .error e
  | .result (.bool allowed) => .ok { allowed := allowed, reason := "OPA policy decision." }
  | .result (.obj fields) =>
    let result := Json.obj fields
    .ok { allowed := (result.get "allow").truthy,
          reason := ((result.field? "reason").map config.str).getD "OPA policy decision.",
          requiresApproval := (result.get "requires_approval").truthy }
  | .result _ => .ok { allowed := false, reason := "OPA returned an invalid policy decision." }

/-- `PolicyService.evaluate`. -/
def evaluate (config : PolicyConfig) (action : String) (resource : Json) (runId : Option String) :
    Except Error PolicyDecision :=
  match config.opa with
  | some ask => evaluateOpa config ask
      (.obj [("action", .str action), ("resource", resource), ("run_id", .ofOption runId)])
  | none => .ok (evaluateLocal config action)

/-- The tenant check of `require_allowed`: whether there is a context to record under. -/
def allowedContext (env : Env) (checks : TenantChecks) (runId actorId : Option String) (trustedInternal : Bool) :
    Except Error Bool :=
  match runId.filter (· ≠ "") with
  | none => .ok false
  | some _ =>
    if actorId = none ∧ env.production = true ∧ trustedInternal = false then
      .error (.permissionError "Authenticated tenant context is required.")
    else checks.context

/-- `PolicyService.require_allowed`, with a database. -/
def requireAllowed (env : Env) (config : PolicyConfig) (checks : TenantChecks) (action : String) (resource : Json)
    (runId actorId : Option String) (trustedInternal : Bool) : Service Unit := do
  let context ← Tx.ofExcept (allowedContext env checks runId actorId trustedInternal)
  let decision ← Tx.ofExcept (evaluate config action resource runId)
  Tx.ofExcept (if context ∧ (actorId.filter (· ≠ "")).isSome then checks.record else .ok ())
  if !decision.allowed then Tx.raise (.permissionError decision.reason)
  else if !decision.requiresApproval then return ()
  else
    match runId.filter (· ≠ "") with
    | none => Tx.raise (.permissionError (action ++ " requires a durable run and an approved request."))
    | some runId => do
      let approval ← requestApproval env runId action resource
      if approval.status ≠ .approved then
        Tx.raise (.permissionError ("Action requires approval: " ++ approval.id))
      else return ()

end PolicyService

/-- The calls a history of approvals is made of. What the tenant checks and
the configuration say may differ from call to call. -/
inductive PolicyCall where
  | requireAllowed (config : PolicyConfig) (checks : TenantChecks) (action : String) (resource : Json)
      (runId actorId : Option String) (trustedInternal : Bool)
  | requestApproval (runId action : String) (resource : Json)
  | decide (authorized : Except Error Unit) (approvalId : String) (approve : Bool) (actor reason : String)

namespace PolicyCall

def exec (env : Env) : PolicyCall → Service Unit
  | requireAllowed config checks action resource runId actorId trustedInternal =>
    PolicyService.requireAllowed env config checks action resource runId actorId trustedInternal
  | requestApproval runId action resource => Tx.void (PolicyService.requestApproval env runId action resource)
  | decide authorized approvalId approve actor reason =>
    Tx.void (PolicyService.decide { env with authorizeApproval := fun _ _ => authorized } approvalId approve actor
      reason)

def after (env : Env) (call : PolicyCall) (d : Db) (supply : Supply) : Db := (request (call.exec env) d supply).2

end PolicyCall

/-- Calls one after another, in any order and at any instants. -/
abbrev PolicyHistory (env : Env) : Db → Db → Prop := Path (PolicyCall.after env) fun _ _ _ => True

end SacmRuntime
