import SacmRuntime.Governance.NetworkBoundary
import SacmRuntime.Governance.Rows

namespace SacmRuntime
open Session

/-- `data_governance_policies`, with the columns that the policy service reads and writes. -/
structure GovernancePolicy where
  id : String
  organizationId : String
  projectId : Option String
  scopeKey : String
  name : String
  version : Nat
  status : PolicyStatus
  description : String
  createdBy : String
  activatedBy : Option String
  activatedAt : Option Nat
  retiredAt : Option Nat

/-- `data_governance_policy_rules`, by the category they are about. -/
structure GovernanceRule where
  id : String
  policyId : String
  resourceCategory : ResourceCategory

instance : Keyed GovernancePolicy := ⟨GovernancePolicy.id⟩
instance : Keyed GovernanceRule := ⟨GovernanceRule.id⟩

/-- The tables that the policies and the admission of executors share. -/
structure PolicyDb where
  organizations : Table GovernedOrganization
  projects : Table GovernedProject
  policies : Table GovernancePolicy
  rules : Table GovernanceRule

abbrev PolicyMethod (α : Type) : Type := Tx (Session PolicyDb) Error α

/-- What `require_permission` and `audit_sensitive` do in one call. Neither
touches the tables of this service. -/
structure PolicyChecks where
  permission : Except Error Unit
  audit : Except Error Unit

/-- `GovernancePolicyCreate`. -/
structure GovernancePolicyCreate where
  projectId : Option String
  name : String
  description : String
  rules : List ResourceCategory

namespace GovernancePolicyService

/-- `_scope_key`. -/
def scopeKey (organizationId : String) (projectId : Option String) : String :=
  match projectId.filter (· ≠ "") with
  | some projectId => "organization:" ++ organizationId ++ ":project:" ++ projectId
  | none => "organization:" ++ organizationId

/-- `_validate_project`. -/
def validateProject (organizationId : String) (projectId : Option String) : PolicyMethod Unit := do
  match projectId.filter (· ≠ "") with
  | none => return ()
  | some projectId =>
    let found ← view fun d => d.projects.find projectId
    let _ ← Tx.expect (.valueError "Project not found.")
      (found.filter fun project => project.organizationId == organizationId)
    return ()

def latestVersion (d : PolicyDb) (scope : String) : Nat :=
  ((d.policies.rows.filter fun policy => policy.scopeKey == scope).map GovernancePolicy.version).foldr max 0

/-- `uq_data_governance_policy_scope_version`, with the primary key. -/
def insertPolicy (policies : Table GovernancePolicy) (policy : GovernancePolicy) : Option (Table GovernancePolicy) :=
  if policies.rows.any fun row => row.scopeKey == policy.scopeKey && row.version == policy.version then none
  else policies.insert? policy

/-- The rules of a new policy, added one after another. -/
def addRules (policyId : String) : List ResourceCategory → PolicyMethod Unit
  | [] => return ()
  | category :: rest => do
    let id ← uuid4
    let inserted ← view fun d => d.rules.insert? ⟨id, policyId, category⟩
    let rules ← Tx.expect (.integrityError "data_governance_policy_rules.id") inserted
    modify fun d => { d with rules := rules }
    addRules policyId rest

/-- `create`. -/
def create (checks : PolicyChecks) (organizationId : String) (payload : GovernancePolicyCreate) (actor : String) :
    PolicyMethod GovernancePolicy := do
  Tx.ofExcept checks.permission
  validateProject organizationId payload.projectId
  let scope := scopeKey organizationId payload.projectId
  let latest ← view fun d => latestVersion d scope
  let id ← uuid4
  let policy : GovernancePolicy :=
    { id := id, organizationId := organizationId, projectId := payload.projectId, scopeKey := scope,
      name := payload.name,
      version := latest + 1, status := .draft, description := payload.description, createdBy := actor,
      activatedBy := none, activatedAt := none, retiredAt := none }
  let inserted ← view fun d => insertPolicy d.policies policy
  let policies ← Tx.expect (.integrityError "uq_data_governance_policy_scope_version") inserted
  modify fun d => { d with policies := policies }
  flush
  addRules id payload.rules
  commit
  Tx.ofExcept checks.audit
  return policy

/-- The policy that `_authorized` finds. -/
def ownPolicy (d : PolicyDb) (organizationId policyId : String) : Option GovernancePolicy :=
  (d.policies.find policyId).filter fun policy => policy.organizationId == organizationId

/-- `_authorized`. -/
def authorized (checks : PolicyChecks) (organizationId policyId : String) : PolicyMethod GovernancePolicy := do
  let found ← view fun d => ownPolicy d organizationId policyId
  let policy ← Tx.expect (.valueError "Governance policy not found.") found
  Tx.ofExcept checks.permission
  return policy

def resourceCategories : List ResourceCategory :=
  [.sourceContext, .taskMetadata, .runtimeEvents, .logs, .artifacts, .evidence, .backups, .analytics, .audit]

def missingCategories (d : PolicyDb) (policyId : String) : List ResourceCategory :=
  resourceCategories.filter fun category =>
    !d.rules.rows.any fun rule => rule.policyId == policyId && decide (rule.resourceCategory = category)

/-- The error that names the missing categories in order. -/
def missingError (missing : List ResourceCategory) : Error :=
  .valueError ("Policy is missing resource categories: " ++
    ", ".intercalate ((missing.map ResourceCategory.name).insertionSort (· ≤ ·)) ++ ".")

/-- What `activate` writes about an organization or a project: the metadata as a whole. -/
def activeMetadata (policy : GovernancePolicy) (now : Nat) : Json :=
  .obj [("active_policy_id", .str policy.id), ("active_policy_version", .int policy.version),
    ("activated_at", .str (isoformat now))]

/-- What `activate` does to the tables. -/
def activated (organizationId actor : String) (now : Nat) (policy : GovernancePolicy) (d : PolicyDb) : PolicyDb :=
  let policies := (d.policies.updateWhere (fun row => row.scopeKey == policy.scopeKey && decide (row.status = .active))
    fun row => { row with status := .retired, retiredAt := some now }).update policy.id
    fun row => { row with status := .active, activatedBy := some actor, activatedAt := some now }
  match policy.projectId.filter (· ≠ "") with
  | some projectId =>
    { d with policies := policies,
             projects := d.projects.update projectId fun row =>
               { row with governanceMetadata := some (activeMetadata policy now) } }
  | none =>
    { d with policies := policies,
             organizations := d.organizations.update organizationId fun row =>
               { row with governanceMetadata := some (activeMetadata policy now) } }

/-- `activate`. -/
def activate (checks : PolicyChecks) (organizationId policyId actor : String) : PolicyMethod GovernancePolicy := do
  let policy ← authorized checks organizationId policyId
  if policy.status ≠ .draft then Tx.raise (.valueError "Only draft policies can be activated.")
  else
    let missing ← view fun d => missingCategories d policy.id
    if missing ≠ [] then Tx.raise (missingError missing)
    else
      let now ← utcnow
      modify (activated organizationId actor now policy)
      commit
      Tx.ofExcept checks.audit
      return { policy with status := .active, activatedBy := some actor, activatedAt := some now }

/-- `retire`. -/
def retire (checks : PolicyChecks) (organizationId policyId : String) : PolicyMethod GovernancePolicy := do
  let policy ← authorized checks organizationId policyId
  if policy.status ≠ .active then Tx.raise (.valueError "Only active policies can be retired.")
  else
    let now ← utcnow
    modify fun d => { d with policies := d.policies.update policy.id fun row =>
      { row with status := .retired, retiredAt := some now } }
    commit
    Tx.ofExcept checks.audit
    return { policy with status := .retired, retiredAt := some now }

end GovernancePolicyService

end SacmRuntime
