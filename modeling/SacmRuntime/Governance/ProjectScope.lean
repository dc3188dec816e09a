import SacmRuntime.Governance.Operations

namespace SacmRuntime
open Session

def ServiceCredential.actor (credential : ServiceCredential) : String := "service:" ++ credential.id

/-- The call raises `AuthorizationError`. -/
def Refuses {α : Type} (m : GovernanceMethod α) (d : GovernanceDb) (supply : Supply) : Prop :=
  ∃ message, (request m d supply).1 = .error (.permissionError message)

def AuditsOnce {α : Type} (m : GovernanceMethod α) (d : GovernanceDb) (supply : Supply) : Prop :=
  ∃ event, (request m d supply).2.auditEvents = d.auditEvents ++ [event]

/-- The credential is neither revoked nor expired at the given instant. -/
def ServiceCredential.usableAt (credential : ServiceCredential) (now : Nat) : Bool :=
  credential.revokedAt.isNone && credential.expiresAt.all (now < ·)

namespace TenancyService

section
variable {env : GovernanceEnv} {auth : Option AuthContext} {d : GovernanceDb} {supply : Supply}
  {s : Session GovernanceDb}
  {credential : ServiceCredential}

theorem actor_id (credential : ServiceCredential) :
    servicePrefix.isPrefixOf credential.actor.toList = true ∧
      String.ofList (credential.actor.toList.drop servicePrefix.length) = credential.id := by
  have text : credential.actor.toList = servicePrefix ++ credential.id.toList := String.toList_append
  rw [text, List.drop_left]
  exact ⟨List.isPrefixOf_iff_prefix.mpr (List.prefix_append _ _), String.ofList_toList⟩

theorem principal_credential (stored : s.working.credentials.find credential.id = some credential) :
    ∃ t, principal credential.organizationId credential.actor s =
      (.ok (if credential.usableAt (s.clock 0) then some (.credential credential) else none), t) ∧
      t.working = s.working := by
  obtain ⟨service, named⟩ := actor_id credential
  unfold principal
  rw [if_pos service, named, bind_view, stored]
  cases revoked : credential.revokedAt with
  | some instant =>
    have unusable : (some credential).filter (fun row =>
        decide (row.organizationId = credential.organizationId ∧ row.revokedAt = none)) = none := by
      simp [revoked]
    rw [unusable]
    exact ⟨s, by simp [revoked, ServiceCredential.usableAt], rfl⟩
  | none =>
    have usable : (some credential).filter (fun row =>
        decide (row.organizationId = credential.organizationId ∧ row.revokedAt = none)) = some credential := by
      simp [revoked]
    rw [usable]
    cases expires : credential.expiresAt with
    | none =>
      refine ⟨s, ?_, rfl⟩
      simp [revoked, expires, ServiceCredential.usableAt]
    | some expiry =>
      refine ⟨{ s with clock := fun n => s.clock (n + 1) }, ?_, rfl⟩
      simp only [expires, bind_utcnow]
      by_cases expired : expiry ≤ s.clock 0
      · have late : ¬s.clock 0 < expiry := Nat.not_lt.mpr expired
        simp [revoked, expires, ServiceCredential.usableAt, expired, late]
      · have early : s.clock 0 < expiry := Nat.not_le.mp expired
        simp [revoked, expires, ServiceCredential.usableAt, expired, early]

/-- How an entry point answers once its decision is recorded. -/
def verdict (message : String) (allowed : Bool) (found : Option Principal) : Except Error Principal :=
  match allowed, found with
  | true, some principal => .ok principal
  | _, _ => .error (.permissionError message)

theorem outcome_record {α : Type} {P : Except Error α × Session GovernanceDb → Prop} {entry : AuditEntry}
    {f : TenantAuditEvent → GovernanceMethod α} (known : (s.working.organizations.find entry.organizationId).isSome)
    (rest : ∀ event t, t.committed.auditEvents = s.working.auditEvents ++ [event] → P (f event t)) :
    P ((TenantAuditService.record env auth entry >>= f) s) := by
  rcases record_run entry with ⟨e, -, unknown⟩ | ⟨event, t, recorded, audited⟩
  · rw [unknown] at known
    cases known
  · rw [Tx.bind_run_ok _ recorded]
    refine rest event t ?_
    rw [audited.committed, audited.recorded.store]

section
variable {organizationId actorId : String} {found : Option Principal} {mid : Session GovernanceDb}

variable (env auth)

/-- `require_permission` answers from the principal and records one event. -/
theorem requirePermission_decides (permission resourceType : String) (projectId resourceId : Option String)
    (looked : principal organizationId actorId s = (.ok found, mid))
    (same : mid.working = s.working) (known : (s.working.organizations.find organizationId).isSome) :
    ∃ t event, requirePermission env auth organizationId actorId permission projectId resourceType resourceId s =
        (verdict "Resource is not accessible." (judge permission projectId found).1 found, t) ∧
      t.committed.auditEvents = s.working.auditEvents ++ [event] := by
  rcases judged : judge permission projectId found with ⟨allowed, reason⟩
  let P (outcome : Except Error Principal × Session GovernanceDb) : Prop := ∃ t event,
    outcome = (verdict "Resource is not accessible." allowed found, t) ∧
      t.committed.auditEvents = s.working.auditEvents ++ [event]
  change P (requirePermission env auth organizationId actorId permission projectId resourceType resourceId s)
  unfold requirePermission
  rw [Tx.bind_run_ok _ looked, judged]
  refine outcome_record (P := P) (by rw [same]; exact known) fun event t recorded => ⟨t, event, ?_, same ▸ recorded⟩
  unfold verdict
  cases allowed <;> cases found <;> rfl

/-- `require_role` answers from the principal's rank and records one event. -/
theorem requireRole_decides (minimum : Role) (looked : principal organizationId actorId s = (.ok found, mid))
    (same : mid.working = s.working) (known : (s.working.organizations.find organizationId).isSome) :
    ∃ t event, requireRole env auth organizationId actorId minimum s =
        (verdict "Insufficient organization role."
          (found.any fun principal => decide (minimum.rank ≤ roleRank principal.role)) found, t) ∧
      t.committed.auditEvents = s.working.auditEvents ++ [event] := by
  generalize decided : (found.any fun principal => decide (minimum.rank ≤ roleRank principal.role)) = allowed
  let P (outcome : Except Error Principal × Session GovernanceDb) : Prop := ∃ t event,
    outcome = (verdict "Insufficient organization role." allowed found, t) ∧
      t.committed.auditEvents = s.working.auditEvents ++ [event]
  change P (requireRole env auth organizationId actorId minimum s)
  unfold requireRole
  rw [Tx.bind_run_ok _ looked]
  simp only [decided]
  refine outcome_record (P := P) (by rw [same]; exact known) fun event t recorded => ⟨t, event, ?_, same ▸ recorded⟩
  unfold verdict
  cases allowed <;> cases found <;> rfl

end

/-- A last `return` decides neither the refusal nor the events. -/
theorem refuses_return {α β : Type} {m : GovernanceMethod α} {b : β} :
    Refuses (m >>= fun _ => pure b) d supply ↔ Refuses m d supply := by
  unfold Refuses request
  rw [Tx.bind_run]
  rcases m (start d supply) with ⟨result, t⟩
  cases result <;> simp

theorem auditsOnce_return {α β : Type} {m : GovernanceMethod α} {b : β} :
    AuditsOnce (m >>= fun _ => pure b) d supply ↔ AuditsOnce m d supply := by
  unfold AuditsOnce request
  rw [Tx.bind_pure_state]

section
variable {organizationId actorId permission resourceType : String} {projectId resourceId : Option String}
  {minimum : Role} {project : Project}

theorem requirePermission_audits (known : (d.organizations.find organizationId).isSome) :
    AuditsOnce (requirePermission env auth organizationId actorId permission projectId resourceType resourceId) d
      supply := by
  obtain ⟨found, looked⟩ := principal_run organizationId actorId (start d supply)
  obtain ⟨t, event, ran, recorded⟩ :=
    requirePermission_decides env auth permission resourceType projectId resourceId looked rfl known
  refine ⟨event, ?_⟩
  unfold request
  rw [ran]
  exact recorded

theorem requireRole_audits (known : (d.organizations.find organizationId).isSome) :
    AuditsOnce (requireRole env auth organizationId actorId minimum) d supply := by
  obtain ⟨found, looked⟩ := principal_run organizationId actorId (start d supply)
  obtain ⟨t, event, ran, recorded⟩ := requireRole_decides env auth minimum looked rfl known
  refine ⟨event, ?_⟩
  unfold request
  rw [ran]
  exact recorded

end

theorem requirePermission_refused {target resourceId : Option String} {permission resourceType project : String}
    (stored : d.credentials.find credential.id = some credential)
    (known : (d.organizations.find credential.organizationId).isSome) (scope : credential.projectId = some project)
    (outside : target ≠ some project) : Refuses (requirePermission env auth credential.organizationId credential.actor
      permission target resourceType resourceId) d supply := by
  obtain ⟨mid, looked, same⟩ := principal_credential (s := start d supply) stored
  obtain ⟨t, event, ran, -⟩ := requirePermission_decides env auth permission resourceType target resourceId looked same
    known
  refine ⟨"Resource is not accessible.", ?_⟩
  unfold request
  rw [ran]
  cases credential.usableAt ((start d supply).clock 0) with
  | false => rfl
  | true =>
    have elsewhere : ¬(some project = target) := fun here => outside here.symm
    simp [judge, scope, elsewhere, verdict]

/-- A minimum role is refused to a credential that is not usable, or whose
own role is too low, and to no other. -/
theorem requireRole_refused_iff (env : GovernanceEnv) (auth : Option AuthContext) {minimum : Role}
    (stored : d.credentials.find credential.id = some credential)
    (known : (d.organizations.find credential.organizationId).isSome) :
    Refuses (requireRole env auth credential.organizationId credential.actor minimum) d supply ↔
      credential.usableAt (supply.clock 0) = false ∨ roleRank credential.role < minimum.rank := by
  obtain ⟨mid, looked, same⟩ := principal_credential (s := start d supply) stored
  have now : (start d supply).clock 0 = supply.clock 0 := rfl
  rw [now] at looked
  cases usable : credential.usableAt (supply.clock 0) with
  | false =>
    rw [usable] at looked
    obtain ⟨t, event, ran, -⟩ := requireRole_decides env auth minimum looked same known
    unfold Refuses request
    rw [ran]
    simp [verdict]
  | true =>
    rw [usable] at looked
    obtain ⟨t, event, ran, -⟩ := requireRole_decides env auth minimum looked same known
    unfold Refuses request
    rw [ran]
    by_cases enough : minimum.rank ≤ roleRank credential.role
    · simp [verdict, Principal.role, enough]
    · simp [verdict, Principal.role, enough, not_le.mp enough]

end

end TenancyService

open TenancyService

/-- The four entry points refuse the credential in the given project. -/
structure ScopeIsolated (env : GovernanceEnv) (auth : Option AuthContext) (d : GovernanceDb) (supply : Supply)
    (credential : ServiceCredential) (projectId permission : String) (minimum : Role) : Prop where
  permissions : ∀ target resourceType resourceId, target = some projectId ∨ target = none →
    Refuses (requirePermission env auth credential.organizationId credential.actor permission target resourceType
      resourceId) d supply
  projectPermissions : ∀ resourceType resourceId,
    Refuses (requireProjectPermission env auth projectId credential.actor permission resourceType resourceId) d supply
  projectRole : Refuses (requireProjectRole env auth projectId credential.actor minimum) d supply

/-- Every decision about the actor, whichever way it goes, is recorded once. -/
structure DecisionsAudited (env : GovernanceEnv) (auth : Option AuthContext) (d : GovernanceDb) (supply : Supply)
    (organizationId projectId actorId permission : String) (minimum : Role) : Prop where
  permissions : ∀ target resourceType resourceId,
    AuditsOnce (requirePermission env auth organizationId actorId permission target resourceType resourceId) d supply
  role : AuditsOnce (requireRole env auth organizationId actorId minimum) d supply
  projectPermissions : ∀ resourceType resourceId,
    AuditsOnce (requireProjectPermission env auth projectId actorId permission resourceType resourceId) d supply
  projectRole : AuditsOnce (requireProjectRole env auth projectId actorId minimum) d supply

section
variable {env : GovernanceEnv} {auth : Option AuthContext} {d : GovernanceDb} {supply : Supply}

variable {actorId projectId : String} {project : Project}

/-- On a project that exists the two project entry points decide as the two
others do in its organization. -/
theorem requireProjectPermission_eq {permission resourceType : String} {resourceId : Option String}
    (found : d.projects.find projectId = some project) :
    requireProjectPermission env auth projectId actorId permission resourceType resourceId (start d supply) =
      (requirePermission env auth project.organizationId actorId permission (some projectId) resourceType
        (some ((present resourceId).getD projectId)) >>= fun _ => pure project) (start d supply) := by
  obtain rfl : project.id = projectId := Table.find_key found
  unfold requireProjectPermission
  rw [bind_view, start_working, found]
  rfl

theorem requireProjectRole_eq {minimum : Role} (found : d.projects.find projectId = some project) :
    requireProjectRole env auth projectId actorId minimum (start d supply) =
      (requireRole env auth project.organizationId actorId minimum >>= fun _ => pure project) (start d supply) := by
  unfold requireProjectRole
  rw [bind_view, start_working, found]
  rfl

theorem decisions_audited (env : GovernanceEnv) (auth : Option AuthContext) (supply : Supply)
    {organizationId : String} (actorId permission : String) (minimum : Role)
    (known : (d.organizations.find organizationId).isSome) (found : d.projects.find projectId = some project)
    (ofOrganization : project.organizationId = organizationId) :
    DecisionsAudited env auth d supply organizationId projectId actorId permission minimum := by
  subst ofOrganization
  refine ⟨fun _ _ _ => requirePermission_audits known, requireRole_audits known, fun _ _ => ?_, ?_⟩
  · unfold AuditsOnce request
    rw [requireProjectPermission_eq found]
    exact auditsOnce_return.mpr (requirePermission_audits known)
  · unfold AuditsOnce request
    rw [requireProjectRole_eq found]
    exact auditsOnce_return.mpr (requireRole_audits known)

/-- A credential of one project is kept out of another by the permissions in
every case, and by the roles exactly when it would not pass them anywhere. -/
theorem project_scope_iff {credential : ServiceCredential} {other : Project} {projectId otherId permission : String}
    {minimum : Role} (stored : d.credentials.find credential.id = some credential)
    (known : (d.organizations.find credential.organizationId).isSome) (scope : credential.projectId = some projectId)
    (found : d.projects.find otherId = some other) (ofOrganization : other.organizationId = credential.organizationId)
    (different : otherId ≠ projectId) :
    (ScopeIsolated env auth d supply credential otherId permission minimum ∧
        ∀ actorId, DecisionsAudited env auth d supply credential.organizationId otherId actorId permission minimum) ↔
      credential.usableAt (supply.clock 0) = false ∨ roleRank credential.role < minimum.rank := by
  have audited actorId := decisions_audited env auth supply actorId permission minimum known found ofOrganization
  have refused : ∀ target resourceType resourceId, target = some otherId ∨ target = none →
      Refuses (requirePermission env auth credential.organizationId credential.actor permission target resourceType
        resourceId) d supply := by
    intro target resourceType resourceId which
    refine requirePermission_refused stored known scope ?_
    rcases which with rfl | rfl
    · simpa using different
    · simp
  have projectRefused : ∀ resourceType resourceId,
      Refuses (requireProjectPermission env auth otherId credential.actor permission resourceType resourceId) d
        supply := by
    intro resourceType resourceId
    unfold Refuses request
    rw [requireProjectPermission_eq found, ofOrganization]
    exact refuses_return.mpr (refused _ _ _ (.inl rfl))
  have roleRefused_iff : Refuses (requireProjectRole env auth otherId credential.actor minimum) d supply ↔
      credential.usableAt (supply.clock 0) = false ∨ roleRank credential.role < minimum.rank := by
    rw [← requireRole_refused_iff env auth stored known]
    unfold Refuses request
    rw [requireProjectRole_eq found, ofOrganization]
    exact refuses_return
  constructor
  · rintro ⟨isolated, -⟩
    exact roleRefused_iff.mp isolated.projectRole
  · intro barred
    exact ⟨⟨refused, projectRefused, roleRefused_iff.mpr barred⟩, audited⟩

end

namespace GovernanceSample

/-- A developer credential of the first of two projects. -/
def projectCredential (expiresAt : Option Nat) : ServiceCredential :=
  ⟨"c", "o", some "p", "developer", [], expiresAt, none, "h", none⟩

def twoProjects (expiresAt : Option Nat) : GovernanceDb where
  organizations := .ofRows [⟨"o", none, none⟩]
  projects := .ofRows [⟨"p", "o", none, none⟩, ⟨"q", "o", none, none⟩]
  credentials := .ofRows [projectCredential expiresAt]

end GovernanceSample

open GovernanceSample in
/-- The credential is kept out of the other project as an administrator. -/
theorem project_scope_sample :
    ScopeIsolated env none (twoProjects none) (supplyOf "e" 0) (projectCredential none) "q" "runs.write" .admin ∧
      ∀ actorId, DecisionsAudited env none (twoProjects none) (supplyOf "e" 0) "o" "q" actorId "runs.write" .admin := by
  have different : "q" ≠ "p" := by decide
  have low : roleRank (projectCredential none).role < Role.admin.rank := by decide
  exact (project_scope_iff rfl rfl rfl rfl rfl different).mpr (.inr low)

open GovernanceSample in
/-- It satisfies the role of a developer in a project that is not its own. -/
theorem project_scope_crossed :
    ¬ScopeIsolated env none (twoProjects none) (supplyOf "e" 0) (projectCredential none) "q" "runs.write"
      .developer := by
  rintro ⟨-, -, message, refused⟩
  have returned :
    (request (requireProjectRole env none "q" (projectCredential none).actor .developer) (twoProjects none)
      (supplyOf "e" 0)).1.toOption.isSome = true := by
    decide +kernel
  rw [refused] at returned
  cases returned

end SacmRuntime
