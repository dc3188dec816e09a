import SacmRuntime.Runtime.ExecutorIdentity
import SacmRuntime.Runtime.OrchestratedJobs
import SacmRuntime.Runtime.LeaseOrder

namespace SacmRuntime
open Session ExecutionPlaneService

/-- `ExecutorScope`: an organization, a project or a customer deployment. -/
structure ExecutorScope where
  organizationId : Option String := none
  projectId : Option String := none
  customerDeploymentId : Option String := none
  one : [organizationId.isSome, projectId.isSome, customerDeploymentId.isSome].count true = 1

/-- A row of `executor_enrollment_tokens`. -/
structure ExecutorEnrollmentToken where
  id : String
  scope : ExecutorScope
  scopeKey : String
  tokenHash : String
  expiresAt : Nat
  usedAt : Option Nat
  revokedAt : Option Nat

instance : Keyed ExecutorEnrollmentToken := ⟨ExecutorEnrollmentToken.id⟩

structure ExecutorEnrollmentTokenCreate where
  scope : ExecutorScope
  expiresInSeconds : Nat := 900

/-- What of an `ExecutorEnroll` the registration is made of. -/
structure ExecutorEnroll where
  enrollmentToken : String
  executorIdentity : String
  publicSigningKey : String
  capabilities : List String
  labels : List (String × String)

/-- The tables of the execution plane and the enrollment tokens. -/
structure EnrollmentDb where
  plane : Db
  tokens : Table ExecutorEnrollmentToken := .empty

abbrev EnrollmentMethod (α : Type) : Type := Tx (Session EnrollmentDb) Error α

/-- What enrollment asks of the other services: the permissions of the actor,
the foreign keys where the database checks them, and the checks of the sandbox
policy, the encryption key, the storage and the network boundary. -/
structure EnrollmentEnv extends IdentityEnv where
  requireProjectPermission : String → String → Except Error Unit
  requirePermission : String → String → Except Error Unit
  platformAdmin : String → Bool
  references : ExecutorScope → Except Error Unit
  admits : ExecutorEnrollmentToken → ExecutorEnroll → Except Error Unit

namespace ExecutionPlaneService

/-- `_authorize_scope_admin`. -/
def authorizeScopeAdmin (env : EnrollmentEnv) (scope : ExecutorScope) (actor : String) : Except Error String :=
  match scope.projectId.filter (· ≠ ""), scope.organizationId.filter (· ≠ "") with
  | some projectId, _ => do
    env.requireProjectPermission projectId actor
    return "project:" ++ projectId
  | none, some organizationId => do
    env.requirePermission organizationId actor
    return "organization:" ++ organizationId
  | none, none =>
    if env.platformAdmin actor then .ok ("customer-deployment:" ++ scope.customerDeploymentId.getD "None")
    else .error (.permissionError "Customer deployment executor administration requires a platform admin.")

/-- `issue_enrollment_token`. The audit record follows the commit. -/
def issueEnrollmentToken (env : EnrollmentEnv) (audited : Except Error Unit) (p : ExecutorEnrollmentTokenCreate)
    (actor : String) : EnrollmentMethod (ExecutorEnrollmentToken × String) := do
  let scopeKey ← Tx.ofExcept (authorizeScopeAdmin env p.scope actor)
  let token ← tokenUrlsafe
  let id ← uuid4
  let now ← utcnow
  let hash := tokenHash env.toEnv "enrollment" token
  let record : ExecutorEnrollmentToken :=
    { id := id, scope := p.scope, scopeKey := scopeKey, tokenHash := hash
      expiresAt := now + p.expiresInSeconds * 1000000, usedAt := none, revokedAt := none }
  let taken ← view fun d => d.tokens.rows.any fun row => row.tokenHash == hash
  if taken then Tx.raise (.integrityError "uq_executor_enrollment_token_hash")
  else do
    Tx.ofExcept (env.references p.scope)
    let inserted ← view fun d => d.tokens.insert? record
    let tokens ← Tx.expect (.integrityError "executor_enrollment_tokens.id") inserted
    modify fun d => { d with tokens := tokens }
    commit
    Tx.ofExcept audited
    return (record, token)

def usable (now : Nat) (token : ExecutorEnrollmentToken) : Bool :=
  token.revokedAt.isNone && token.usedAt.isNone && decide (now < token.expiresAt)

/-- The registration `enroll` adds. -/
def enrolled (env : EnrollmentEnv) (p : ExecutorEnroll) (enrollment : ExecutorEnrollmentToken)
    (id fingerprint authToken : String) (now : Nat) : ExecutorRegistration where
  id := id
  organizationId := enrollment.scope.organizationId
  projectId := enrollment.scope.projectId
  customerDeploymentId := enrollment.scope.customerDeploymentId
  capabilities := p.capabilities.dedup.insertionSort (· ≤ ·)
  labels := Json.sortByKey p.labels
  publicSigningKey := p.publicSigningKey
  signingKeyFingerprint := fingerprint
  status := .active
  lastHeartbeatAt := some now
  revokedAt := none
  revokedBy := none
  revocationReason := none
  scopeKey := enrollment.scopeKey
  executorIdentity := p.executorIdentity
  authTokenHash := tokenHash env.toEnv "executor-auth" authToken

/-- `enroll`. The audit record follows the commit. -/
def enroll (env : EnrollmentEnv) (audited : Except Error Unit) (p : ExecutorEnroll) :
    EnrollmentMethod (ExecutorRegistration × String) := do
  let now ← utcnow
  let found ← view fun d => d.tokens.rows.find? fun row =>
    row.tokenHash == tokenHash env.toEnv "enrollment" p.enrollmentToken
  let enrollment ← Tx.expect
    (.executorAuthenticationError "Enrollment token is invalid, expired, revoked, or already used.")
    (found.filter (usable now))
  match env.publicKeyFingerprint p.publicSigningKey with
  | .error message => Tx.raise (.executionConflict ("Invalid executor public signing key: " ++ message))
  | .ok fingerprint => do
    let existing ← view fun d => d.plane.executors.rows.any fun row =>
      row.scopeKey == enrollment.scopeKey && row.executorIdentity == p.executorIdentity
    if existing then
      Tx.raise (.executionConflict "An executor with this identity is already enrolled in the scope.")
    else do
      let authToken ← tokenUrlsafe
      Tx.ofExcept (env.admits enrollment p)
      let id ← uuid4
      let executor := enrolled env p enrollment id fingerprint authToken now
      let taken ← view fun d => d.plane.executors.rows.any fun row => row.authTokenHash == executor.authTokenHash
      if taken then Tx.raise (.integrityError "uq_executor_auth_token_hash")
      else do
        let inserted ← view fun d => d.plane.executors.insert? executor
        let executors ← Tx.expect (.integrityError "executor_registrations.id") inserted
        modify fun d =>
          { d with
            plane := { d.plane with executors := executors }
            tokens := d.tokens.update enrollment.id fun row => { row with usedAt := some now } }
        commit
        Tx.ofExcept audited
        return (executor, authToken)

end ExecutionPlaneService

/-- The requests that enroll executors, queue jobs and lease them. -/
inductive TenantOperation where
  | issueEnrollmentToken (audited : Except Error Unit) (p : ExecutorEnrollmentTokenCreate) (actor : String)
  | enroll (audited : Except Error Unit) (p : ExecutorEnroll)
  | schedule (runId runStepId : String) (task : AgentTaskV1) (idempotencyKey : String)
      (requiredCapabilities : List String) (requiredLabels : List (String × String)) (maxAttempts : Nat)
      (customerDeploymentId : Option String)
  | acquireLease (executorId : String) (leaseSeconds : Option Nat)

namespace TenantOperation

def after (env : EnrollmentEnv) (op : TenantOperation) (d : EnrollmentDb) (supply : Supply) : EnrollmentDb :=
  match op with
  | issueEnrollmentToken audited p actor =>
    (request (ExecutionPlaneService.issueEnrollmentToken env audited p actor) d supply).2
  | enroll audited p => (request (ExecutionPlaneService.enroll env audited p) d supply).2
  | schedule runId runStepId task key capabilities labels maxAttempts customerDeploymentId =>
    { d with plane := (request (ExecutionPlaneService.schedule env.toEnv runId runStepId task key capabilities labels
        maxAttempts customerDeploymentId) d.plane supply).2 }
  | acquireLease executorId leaseSeconds =>
    { d with plane := (request (ExecutionPlaneService.acquireLease env.toEnv executorId leaseSeconds) d.plane
      supply).2 }

end TenantOperation

end SacmRuntime
