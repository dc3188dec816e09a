import SacmRuntime.Governance.ResourceAuthorization
import SacmRuntime.Runtime.Operations

namespace SacmRuntime
open Session TenancyService ResourceAuthorizationService PolicyService

def Grants {α : Type} (m : GovernanceMethod α) (d : GovernanceDb) (supply : Supply) : Prop :=
  ∃ a, (request m d supply).1 = .ok a

/-- What the keys of the schema and the writers of the rows guarantee: one
membership for each organization and actor, references to rows that exist
and have an identifier, and approvals attributed as their runs are. -/
structure TenantRows (resources : Resources) (d : GovernanceDb) : Prop where
  membership : ∀ a ∈ d.memberships, ∀ b ∈ d.memberships,
    a.organizationId = b.organizationId → a.actorId = b.actorId → a = b
  organization : ∀ run ∈ resources.shared.runs.rows, ∀ organizationId, run.organizationId = some organizationId →
    organizationId ≠ "" ∧ (d.organizations.find organizationId).isSome
  scope : ∀ credential ∈ d.credentials.rows, credential.projectId ≠ some ""
  approval : ∀ approval ∈ resources.shared.approvals.rows, ∀ organizationId,
    approval.organizationId = some organizationId → ∃ run, resources.shared.runs.find approval.runId = some run ∧
      run.organizationId = some organizationId ∧ run.projectId = approval.projectId

/-- The tenant columns of a row lie in the scope of the credential. -/
def ServiceCredential.covers (credential : ServiceCredential) (organizationId projectId : Option String) : Prop :=
  organizationId = some credential.organizationId ∧
    ∀ scope, present credential.projectId = some scope → projectId = some scope

section
variable {env : GovernanceEnv} {auth : Option AuthContext} {resources : Resources} {d : GovernanceDb} {supply : Supply}
  {actorId permission : String}

theorem tenantFilter_service (service : servicePrefix.isPrefixOf actorId.toList = true)
    (organizationId projectId : Option String) : tenantFilter d actorId permission organizationId projectId = true ↔
      ∃ credential, namedCredential d actorId = some credential ∧
        permission ∈ effectivePermissions (.credential credential) ∧ credential.covers organizationId projectId := by
  unfold tenantFilter
  rw [if_pos service]
  cases namedCredential d actorId with
  | none => simp
  | some credential =>
    cases within : present credential.projectId <;> simp [ServiceCredential.covers, within, and_assoc]

theorem tenantFilter_member (member : servicePrefix.isPrefixOf actorId.toList = false)
    (organizationId projectId : Option String) : tenantFilter d actorId permission organizationId projectId = true ↔
      ∃ row ∈ d.memberships, organizationId = some row.organizationId ∧ row.actorId = actorId ∧
        permission ∈ effectivePermissions (.membership row) := by
  unfold tenantFilter permittedOrganizations
  rw [if_neg (by simp [member])]
  cases organizationId with
  | none => simp
  | some organizationId =>
    simp only [Option.any_some, decide_eq_true_eq, List.mem_map, List.mem_filter, Bool.and_eq_true, beq_iff_eq,
      Option.some.injEq]
    constructor
    · rintro ⟨row, ⟨inTable, ofActor, granted⟩, rfl⟩
      exact ⟨row, inTable, rfl, ofActor, granted⟩
    · rintro ⟨row, inTable, rfl, ofActor, granted⟩
      exact ⟨row, ⟨inTable, ofActor, granted⟩, rfl⟩

theorem actor_of_named {credential : ServiceCredential} (service : servicePrefix.isPrefixOf actorId.toList = true)
    (named : namedCredential d actorId = some credential) :
    credential.actor = actorId ∧ d.credentials.find credential.id = some credential := by
  have key : credential.id = String.ofList (actorId.toList.drop servicePrefix.length) := Table.find_key named
  refine ⟨?_, key ▸ named⟩
  obtain ⟨rest, split⟩ := List.isPrefixOf_iff_prefix.mp service
  have text : credential.actor.toList = actorId.toList := by
    unfold ServiceCredential.actor
    have prefixed : "service:".toList = servicePrefix := rfl
    rw [String.toList_append, prefixed, key, String.toList_ofList, ← split, List.drop_left]
  exact String.toList_inj.mp text

variable {organizationId : String} {projectId runId : Option String} {run : Run}

theorem requireRun_attributed (found : resources.shared.runs.find run.id = some run)
    (attributed : run.organizationId = some organizationId) (named : organizationId ≠ "") :
    Grants (ResourceAuthorizationService.requireRun env auth resources run.id actorId permission) d supply ↔
      Grants (requirePermission env auth organizationId actorId permission run.projectId "run" (some run.id)) d
        supply := by
  have owner : present run.organizationId = some organizationId := by
    simp [present, attributed, named]
  have context : runContext resources d run = .ok (some ⟨organizationId, run.projectId, "run.tenant_context"⟩) := by
    simp [runContext, owner]
  unfold Grants request ResourceAuthorizationService.requireRun
  rw [found, Tx.bind_expect_some, bind_view, start_working, context]
  simp only [Tx.ofExcept, Tx.bind_pure_run]
  rw [Tx.bind_run]
  rcases requirePermission env auth organizationId actorId permission run.projectId "run" (some run.id)
    (start d supply) with ⟨result, t⟩
  cases result <;> simp

theorem requirePermission_passes_iff {resourceType : String} {resourceId : Option String} {found : Option Principal}
    {mid : Session GovernanceDb} (looked : principal organizationId actorId (start d supply) = (.ok found, mid))
    (same : mid.working = d) (known : (d.organizations.find organizationId).isSome) :
    Grants (requirePermission env auth organizationId actorId permission projectId resourceType resourceId) d supply ↔
      (judge permission projectId found).1 = true := by
  obtain ⟨t, event, ran, -⟩ :=
    requirePermission_decides env auth permission resourceType projectId resourceId looked same known
  unfold Grants request
  rw [ran]
  cases found with
  | none => simp [TenancyService.verdict, judge]
  | some granted => cases (judge permission projectId (some granted)).1 <;> simp [TenancyService.verdict]

theorem principal_member {member : Membership} (unique : ∀ a ∈ d.memberships, ∀ b ∈ d.memberships,
      a.organizationId = b.organizationId → a.actorId = b.actorId → a = b) (inTable : member ∈ d.memberships)
    (person : servicePrefix.isPrefixOf member.actorId.toList = false) :
    principal member.organizationId member.actorId (start d supply) =
      (.ok (some (.membership member)), start d supply) := by
  have atMember : (d.memberships.find? fun row =>
      row.organizationId == member.organizationId && row.actorId == member.actorId) = some member := by
    cases found : d.memberships.find? fun row =>
        row.organizationId == member.organizationId && row.actorId == member.actorId with
    | none =>
      have absent := List.find?_eq_none.mp found member inTable
      simp at absent
    | some row =>
      have same := List.find?_some found
      rw [Bool.and_eq_true, beq_iff_eq, beq_iff_eq] at same
      rw [unique row (List.mem_of_find?_eq_some found) member inTable same.1 same.2]
  unfold principal
  rw [if_neg (by simp [person])]
  change (Except.ok ((d.memberships.find? _).map _), start d supply) = _
  rw [atMember]
  rfl

theorem tenantFilter_organization {organizationId : Option String}
    (listed : tenantFilter d actorId permission organizationId projectId = true) : organizationId.isSome := by
  cases service : servicePrefix.isPrefixOf actorId.toList with
  | false =>
    obtain ⟨member, -, ofOrganization, -⟩ := (tenantFilter_member service _ _).mp listed
    simp [ofOrganization]
  | true =>
    obtain ⟨credential, -, -, ofOrganization, -⟩ := (tenantFilter_service service _ _).mp listed
    simp [ofOrganization]

/-- A run that a listing shows passes its check unless the credential it is
listed for can no longer be used. -/
theorem listed_passes_iff (rows : TenantRows resources d) (found : resources.shared.runs.find run.id = some run)
    (listed : tenantFilter d actorId permission run.organizationId run.projectId = true) :
    Grants (ResourceAuthorizationService.requireRun env auth resources run.id actorId permission) d supply ↔
      ∀ credential, servicePrefix.isPrefixOf actorId.toList = true → namedCredential d actorId = some credential →
        credential.usableAt (supply.clock 0) = true := by
  obtain ⟨organizationId, attributed⟩ := Option.isSome_iff_exists.mp (tenantFilter_organization listed)
  obtain ⟨filled, known⟩ := rows.organization run (Table.find_mem found) organizationId attributed
  rw [requireRun_attributed found attributed filled]
  cases service : servicePrefix.isPrefixOf actorId.toList with
  | false =>
    obtain ⟨member, inTable, ofOrganization, rfl, granted⟩ := (tenantFilter_member service _ _).mp listed
    cases Option.some.inj (attributed.symm.trans ofOrganization)
    rw [requirePermission_passes_iff (principal_member rows.membership inTable service) rfl known]
    simp [judge, granted]
  | true =>
    obtain ⟨credential, named, granted, ofOrganization, within⟩ := (tenantFilter_service service _ _).mp listed
    cases Option.some.inj (attributed.symm.trans ofOrganization)
    obtain ⟨rfl, stored⟩ := actor_of_named service named
    obtain ⟨mid, looked, same⟩ := principal_credential (s := start d supply) stored
    rw [requirePermission_passes_iff looked same known]
    have inScope : credential.projectId = none ∨ credential.projectId = run.projectId := by
      cases scope : credential.projectId with
      | none => exact .inl rfl
      | some project =>
        have nonempty : project ≠ "" := fun empty => rows.scope credential (Table.find_mem stored) (empty ▸ scope)
        exact .inr (within project (by simp [present, scope, nonempty])).symm
    have now : (start d supply).clock 0 = supply.clock 0 := rfl
    rw [now]
    cases usable : credential.usableAt (supply.clock 0) with
    | false => simp [judge, named, usable]
    | true => simp [judge, named, usable, granted, inScope]

theorem mem_accessibleRuns (production : resources.production = true) :
    run ∈ accessibleRuns resources d actorId permission ↔ run ∈ resources.shared.runs.rows ∧
      tenantFilter d actorId permission run.organizationId run.projectId = true := by
  unfold accessibleRuns
  simp [production]

theorem listApprovals_all (env : GovernanceEnv) (auth : Option AuthContext) (resources : Resources) (d : GovernanceDb)
    (supply : Supply) (actorId : String) (unnamed : present runId = none) :
    ∃ approvals, request (listApprovals env auth resources actorId runId) d supply = (.ok approvals, d) ∧
      ∀ approval, approval ∈ approvals ↔ approval ∈ resources.shared.approvals.rows ∧
        tenantFilter d actorId "approvals.read" approval.organizationId approval.projectId = true := by
  unfold listApprovals
  rw [unnamed]
  exact ⟨_, rfl, by simp⟩

theorem listApprovals_run {named : String} {approvals : List Approval} {e : GovernanceDb}
    (given : present runId = some named)
    (listed : request (listApprovals env auth resources actorId runId) d supply = (.ok approvals, e)) :
    Grants (ResourceAuthorizationService.requireRun env auth resources named actorId "approvals.read") d supply ∧
      ∀ approval ∈ approvals, approval ∈ resources.shared.approvals.rows ∧ approval.runId = named := by
  unfold listApprovals request at listed
  rw [given] at listed
  have returned := congrArg Prod.fst listed
  unfold Grants request
  rcases ran : ResourceAuthorizationService.requireRun env auth resources named actorId "approvals.read"
    (start d supply) with ⟨result, t⟩
  cases result with
  | error e =>
    simp only [Tx.bind_run_error _ ran] at returned
    cases returned
  | ok run =>
    simp only [Tx.bind_run_ok _ ran] at returned
    cases returned
    exact ⟨⟨run, rfl⟩, fun approval member => by simpa using member⟩

theorem requireApproval_passes_iff {approval : Approval}
    (found : resources.shared.approvals.find approval.id = some approval) :
    Grants (requireApproval env auth resources approval.id actorId permission) d supply ↔
      Grants (ResourceAuthorizationService.requireRun env auth resources approval.runId actorId permission) d
        supply := by
  unfold Grants request requireApproval
  rw [found, Tx.bind_expect_some, Tx.bind_run]
  rcases ResourceAuthorizationService.requireRun env auth resources approval.runId actorId permission
    (start d supply) with ⟨result, t⟩
  cases result <;> simp

end

/-- Every run and every approval that is listed for the actor passes its check. -/
def ListingsAuthorized (env : GovernanceEnv) (auth : Option AuthContext) (resources : Resources) (d : GovernanceDb)
    (supply : Supply) (actorId permission : String) : Prop :=
  (∀ run ∈ accessibleRuns resources d actorId permission,
    Grants (ResourceAuthorizationService.requireRun env auth resources run.id actorId permission) d supply) ∧
  ∀ runId approvals e, request (PolicyService.listApprovals env auth resources actorId runId) d supply =
      (.ok approvals, e) → ∀ approval ∈ approvals,
    Grants (requireApproval env auth resources approval.id actorId "approvals.read") d supply

/-- No run and no approval lies in the scope of the credential, as far as its permissions go. -/
def ServiceCredential.CoversNothing (credential : ServiceCredential) (resources : Resources) (permission : String) :
    Prop :=
  (permission ∈ effectivePermissions (.credential credential) → ∀ run ∈ resources.shared.runs.rows,
    ¬credential.covers run.organizationId run.projectId) ∧
  ("approvals.read" ∈ effectivePermissions (.credential credential) → ∀ approval ∈ resources.shared.approvals.rows,
    ¬credential.covers approval.organizationId approval.projectId)

/-- In production the listings show nothing that the checks deny, except to
a credential that is revoked or expired and has something in its scope. -/
theorem listings_authorized_iff {env : GovernanceEnv} {auth : Option AuthContext} {resources : Resources}
    {d : GovernanceDb} {supply : Supply} {actorId permission : String} (production : resources.production = true)
    (rows : TenantRows resources d) : ListingsAuthorized env auth resources d supply actorId permission ↔
      ∀ credential, servicePrefix.isPrefixOf actorId.toList = true → namedCredential d actorId = some credential →
        credential.usableAt (supply.clock 0) = true ∨ credential.CoversNothing resources permission := by
  have runOf : ∀ approval ∈ resources.shared.approvals.rows,
      tenantFilter d actorId "approvals.read" approval.organizationId approval.projectId = true →
      ∃ run, resources.shared.runs.find run.id = some run ∧ run.id = approval.runId ∧
        tenantFilter d actorId "approvals.read" run.organizationId run.projectId = true := by
    intro approval member listed
    obtain ⟨organizationId, attributed⟩ := Option.isSome_iff_exists.mp (tenantFilter_organization listed)
    obtain ⟨run, found, sameOrganization, sameProject⟩ := rows.approval approval member organizationId attributed
    have named : run.id = approval.runId := Table.find_key found
    exact ⟨run, named ▸ found, named, by rw [sameOrganization, sameProject, ← attributed]; exact listed⟩
  constructor
  · rintro ⟨runs, approvals⟩ credential service named
    refine or_iff_not_imp_left.mpr fun unusable => ⟨fun granted run member covered => ?_,
      fun granted approval member covered => ?_⟩
    · have listed := (tenantFilter_service service _ _).mpr ⟨credential, named, granted, covered⟩
      have passes := runs run ((mem_accessibleRuns production).mpr ⟨member, listed⟩)
      exact unusable ((listed_passes_iff rows (Table.find_of_mem member) listed).mp passes credential service named)
    · have listed := (tenantFilter_service service _ _).mpr ⟨credential, named, granted, covered⟩
      have unnamed : present none = none := rfl
      obtain ⟨shown, ran, shows_⟩ := listApprovals_all env auth resources d supply actorId unnamed
      have passes := approvals none shown d ran approval ((shows_ approval).mpr ⟨member, listed⟩)
      rw [requireApproval_passes_iff (Table.find_of_mem member)] at passes
      obtain ⟨run, found, ofRun, runListed⟩ := runOf approval member listed
      rw [← ofRun] at passes
      exact unusable ((listed_passes_iff rows found runListed).mp passes credential service named)
  · intro condition
    have usable : ∀ organizationId projectId wanted,
        tenantFilter d actorId wanted organizationId projectId = true →
        (∀ credential : ServiceCredential, credential.covers organizationId projectId →
          wanted ∈ effectivePermissions (.credential credential) → ¬credential.CoversNothing resources permission) →
        ∀ credential, servicePrefix.isPrefixOf actorId.toList = true → namedCredential d actorId = some credential →
          credential.usableAt (supply.clock 0) = true := by
      intro organizationId projectId wanted listed something credential service named
      obtain ⟨other, atOther, granted, covered⟩ := (tenantFilter_service service _ _).mp listed
      cases Option.some.inj (atOther.symm.trans named)
      exact (condition credential service named).resolve_right (something credential covered granted)
    constructor
    · intro run member
      obtain ⟨inTable, listed⟩ := (mem_accessibleRuns production).mp member
      refine (listed_passes_iff rows (Table.find_of_mem inTable) listed).mpr (usable _ _ _ listed ?_)
      exact fun credential covered granted nothing => nothing.1 granted run inTable covered
    · intro runId shown e ran approval member
      cases given : present runId with
      | none =>
        obtain ⟨all, ranAll, shows_⟩ := listApprovals_all env auth resources d supply actorId given
        cases ranAll.symm.trans ran
        obtain ⟨inTable, listed⟩ := (shows_ approval).mp member
        rw [requireApproval_passes_iff (Table.find_of_mem inTable)]
        obtain ⟨run, found, ofRun, runListed⟩ := runOf approval inTable listed
        rw [← ofRun]
        refine (listed_passes_iff rows found runListed).mpr (usable _ _ _ listed ?_)
        exact fun credential covered granted nothing => nothing.2 granted approval inTable covered
      | some named =>
        obtain ⟨passes, ofRun⟩ := listApprovals_run given ran
        obtain ⟨inTable, rfl⟩ := ofRun approval member
        exact (requireApproval_passes_iff (Table.find_of_mem inTable)).mpr passes

namespace GovernanceSample

/-- An organization with a credential, revoked at the given instant. -/
def tenant (revokedAt : Option Nat) : GovernanceDb where
  organizations := .ofRows [⟨"o", none, none⟩]
  credentials := .ofRows [⟨"c", "o", none, "viewer", [], none, revokedAt, "h", none⟩]

def tenantRun : Run := { newRun "r" Sample.task .planning 0 with organizationId := some "o" }

def resources : Resources where
  shared := { runs := .ofRows [tenantRun] }
  taskContract := fun _ => .null
  runCreatedAt := fun _ => 0
  production := true

theorem tenant_rows (revokedAt : Option Nat) : TenantRows resources (tenant revokedAt) where
  membership := fun a member => absurd member List.not_mem_nil
  organization := by
    intro run member organizationId attributed
    cases List.mem_singleton.mp member
    cases attributed
    exact ⟨by decide, rfl⟩
  scope := by
    intro credential member
    cases List.mem_singleton.mp member
    simp
  approval := fun approval member => absurd member List.not_mem_nil

end GovernanceSample

open GovernanceSample in
/-- A credential in use is shown what it may read. -/
theorem listings_authorized_sample :
    ListingsAuthorized env none resources (tenant none) (supplyOf "e" 5) "service:c" "runs.read" := by
  refine (listings_authorized_iff rfl (tenant_rows none)).mpr fun credential _ named => .inl ?_
  have stored :
    namedCredential (tenant none) "service:c" = some ⟨"c", "o", none, "viewer", [], none, none, "h", none⟩ := rfl
  cases Option.some.inj (named.symm.trans stored)
  rfl

open GovernanceSample in
/-- A revoked credential is still shown the runs of its organization. -/
theorem revoked_credential_lists :
    ¬ListingsAuthorized env none resources (tenant (some 1)) (supplyOf "e" 5) "service:c" "runs.read" := by
  rintro ⟨runs, -⟩
  have listed : tenantRun ∈ accessibleRuns resources (tenant (some 1)) "service:c" "runs.read" := by
    refine (mem_accessibleRuns rfl).mpr ⟨List.mem_singleton_self _, ?_⟩
    decide
  obtain ⟨run, passed⟩ := runs tenantRun listed
  have refused : (request
      (ResourceAuthorizationService.requireRun env none resources tenantRun.id "service:c" "runs.read")
        (tenant (some 1))
      (supplyOf "e" 5)).1.toOption.isSome = false := by
    decide +kernel
  rw [passed] at refused
  cases refused

end SacmRuntime
