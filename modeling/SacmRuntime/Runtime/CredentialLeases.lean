import SacmRuntime.Governance.SecretProviders
import SacmRuntime.Runtime.Operations

namespace SacmRuntime
open Session

/-- What the service reads of a requirement of a plan. -/
structure CredentialLeaseService.SecretRequestV1 where
  name : String
  provider : String
  providerConfig : Option String
  environmentVariable : Option String
  resource : Option String
  permissions : List String
  audience : Option String

/-- A row of `credential_leases`, with the columns that only this service reads. -/
structure CredentialRow extends CredentialLease where
  organizationId : Option String
  projectId : Option String
  taskId : String
  runId : String
  requirementName : String
  requestedPermissions : List String
  resource : Option String
  provider : String
  providerConfigId : Option String
  opaqueHandle : String
  issuedAt : Nat
  lastUsedAt : Option Nat
  useCount : Nat
  audience : String
  providerLeaseIdHash : Option String

instance : Keyed CredentialRow := ⟨fun row => row.id⟩

structure CredentialMaterial where
  value : String
  providerLeaseId : Option String
  contentType : String
  expiresAt : Option Nat

structure WrappedCredentialResult where
  ciphertext : String
  wrappingAlgorithm : String
  encryptionKeyFingerprint : String
  contentType : String
  expiresAt : Nat

/-- The tables the service works on: its own, the provider configurations, the
keys for wrapping that executors enrolled, and those of the other services. -/
structure CredentialDb where
  plane : Db := {}
  providerConfigs : List SecretProviderConfig := []
  wrappingKeys : String → Option String × Option String := fun _ => (none, none)
  credentials : Table CredentialRow := .empty

abbrev CredentialMethod (α : Type) : Type := Tx (Session CredentialDb) Error α

structure CredentialEnv extends Env where
  providers : ProviderEnv
  validateRequest : Json → Except Error CredentialLeaseService.SecretRequestV1
  leaseMaxSeconds : Nat

/-- What one request meets outside: the secret broker, the wrapping of the
material, the audit log and the check of a permission. -/
structure CredentialWorld where
  fetch : CredentialLeaseService.SecretRequestV1 → Json → Nat → Except Error CredentialMaterial
  wrap : String → String → Except Error (String × String × String)
  audit : CredentialRow → String → String → String → Except Error Unit
  requirePermission : CredentialRow → String → String → Except Error Unit

/-- The session as the services of the control plane see it. -/
def planeSession (s : Session CredentialDb) : Session Db :=
  ⟨s.committed.plane, s.flushed.plane, s.working.plane, s.clock, s.uuids, s.tokens⟩

/-- A lease is named by its identifier or by its handle. -/
def CredentialDb.named (d : CredentialDb) (leaseId : String) : Option CredentialRow :=
  (d.credentials.find leaseId).or (d.credentials.rows.find? fun row => row.opaqueHandle == leaseId)

namespace CredentialLeaseService
variable (env : CredentialEnv) (world : CredentialWorld)

def updateCredential (id : String) (f : CredentialRow → CredentialRow) : CredentialMethod Unit :=
  modify fun d => { d with credentials := d.credentials.update id f }

/-- The executor that the request was authenticated as. -/
def existingExecutor (executorId : String) : CredentialMethod ExecutorRegistration := do
  let found ← view fun d => d.plane.executors.find executorId
  Tx.expect (.executorAuthenticationError "Invalid or revoked executor token.") found

/-- `_owned_active_job`. -/
def ownedActiveJob (executor : ExecutorRegistration) (jobId leaseToken : String) : CredentialMethod ExecutionJob :=
  if executor.status ≠ .active then Tx.raise (.permissionError "Executor is not active.")
  else do
    let found ← view fun d => d.plane.jobs.find jobId
    let job ← Tx.expect (.runtimeError "Execution job not found.") found
    if job.leaseOwnerId ≠ some executor.id then
      Tx.raise (.permissionError "The execution job lease belongs to another executor.")
    else if present job.leaseTokenHash ≠ some (tokenHash env.toEnv "lease" leaseToken) then
      Tx.raise (.permissionError "Invalid execution job lease token.")
    else if job.active = false then Tx.raise (.runtimeError "Execution job is not active.")
    else do
      let now ← utcnow
      if job.leaseExpiresAt.all (· ≤ now) then Tx.raise (.runtimeError "Execution job lease has expired.")
      else return job

/-- The loop of `_declared_requirement`. -/
def firstNamed (name : String) : List Json → Except Error SecretRequestV1
  | [] => .error (.permissionError "Credential request is not declared by the execution plan for this job.")
  | raw :: rest => do
    let request ← env.validateRequest raw
    if request.name = name then return request else firstNamed name rest

/-- What the job, or else the latest plan of its task, asks for. -/
def requirementsOf (d : Db) (job : ExecutionJob) : List Json :=
  if job.secretRequirements = [] then ((d.latestPlan job.taskId).map ExecutionPlan.secretRequirements).getD []
  else job.secretRequirements

/-- `_declared_requirement`. -/
def declaredRequirement (job : ExecutionJob) (name : String) : CredentialMethod SecretRequestV1 := do
  let requirements ← view fun d => requirementsOf d.plane job
  Tx.ofExcept (firstNamed env name requirements)

/-- `_active_lease`. -/
def activeLease (executor : ExecutorRegistration) (leaseId leaseToken : String) : CredentialMethod CredentialRow := do
  let found ← view fun d => d.named leaseId
  let record ← Tx.expect (.runtimeError "Credential lease not found.") found
  let _ ← ownedActiveJob env executor record.jobId leaseToken
  if record.executorId ≠ executor.id then Tx.raise (.permissionError "Credential lease belongs to another executor.")
  else if record.revokedAt ≠ none then Tx.raise (.runtimeError "Credential lease is revoked.")
  else do
    let now ← utcnow
    if record.expiresAt ≤ now then Tx.raise (.runtimeError "Credential lease is expired.")
    else return record

/-- `_append_runtime_event`; a run that is gone has no log. -/
def appendRuntimeEvent (job : ExecutionJob) (eventType executorId : String) (payload : Json) :
    CredentialMethod Unit := do
  let found ← view fun d => d.plane.run? job.runId
  match found with
  | none => pure ()
  | some run => do
    if env.autoflush then flush else pure ()
    let occurredAt ← utcnow
    let event ← Tx.read fun s => nextEvent env.toEnv (planeSession s) run eventType ("executor:" ++ executorId) payload
      (some job.runStepId) occurredAt
    modify fun d => { d with plane := { d.plane with events := d.plane.events ++ [event] } }

/-- `_audit`: a lease without an organization is not recorded. -/
def audit (row : CredentialRow) (actorId action reason : String) : CredentialMethod Unit :=
  match present row.organizationId with
  | none => pure ()
  | some _ => Tx.ofExcept (world.audit row actorId action reason)

def policyDecision : Json :=
  .obj [("schema_version", .str "credential-policy-decision/v1"), ("allow", .bool true),
    ("reason", .str "Declared execution-plan requirement for owned active job."), ("least_privilege", .bool true),
    ("one_time_exchange", .bool true), ("max_uses", .int 1)]

/-- The end of a lease that is asked for now. A limit that is not positive ends it at once. -/
def requestedEnd (now ttlSeconds : Nat) : Nat := now + min ttlSeconds (min env.leaseMaxSeconds 900) * 1000000

/-- An unused lease of the job for the requirement. -/
def reusable (job : ExecutionJob) (executorId name : String) (now : Nat) (row : CredentialRow) : Bool :=
  row.jobId == job.id && row.executorId == executorId && row.requirementName == name && row.revokedAt.isNone &&
    decide (now < row.expiresAt) && row.useCount == 0

/-- The row `issue` inserts. -/
def newCredential (job : ExecutionJob) (executorId : String) (request : SecretRequestV1)
    (config : Option SecretProviderConfig) (id token : String) (now expiresAt : Nat) : CredentialRow where
  id := id
  jobId := job.id
  executorId := executorId
  expiresAt := expiresAt
  revokedAt := none
  revokedBy := none
  revocationReason := none
  organizationId := job.organizationId
  projectId := job.projectId
  taskId := job.taskId
  runId := job.runId
  requirementName := request.name
  requestedPermissions := request.permissions.dedup.insertionSort (· ≤ ·)
  resource := (present request.resource).or request.environmentVariable
  provider := request.provider
  providerConfigId := config.map SecretProviderConfig.id
  opaqueHandle := "credlease_" ++ token
  issuedAt := now
  lastUsedAt := none
  useCount := 0
  audience := (present request.audience).getD ("executor:" ++ executorId)
  providerLeaseIdHash := none

/-- `issue`. -/
def issue (executorId jobId leaseToken requirementName : String) (ttlSeconds : Nat) :
    CredentialMethod CredentialRow := do
  let executor ← existingExecutor executorId
  let job ← ownedActiveJob env executor jobId leaseToken
  let requirement ← declaredRequirement env job requirementName
  let configs ← view CredentialDb.providerConfigs
  let config ← Tx.ofExcept ((providerConfig env.providers configs ⟨job.organizationId, job.projectId⟩
    ⟨requirement.provider, requirement.providerConfig⟩).mapError .runtimeError)
  let now ← utcnow
  let expiresAt := job.leaseExpiresAt.elim (requestedEnd env now ttlSeconds) (min (requestedEnd env now ttlSeconds))
  if expiresAt ≤ now then Tx.raise (.runtimeError "Execution job lease is too close to expiry.")
  else do
    let existing ← view fun d => d.credentials.rows.find? (reusable job executor.id requirement.name now)
    match existing with
    | some row => return row
    | none => do
      let id ← uuid4
      let token ← tokenUrlsafe
      let row := newCredential job executor.id requirement config id token now expiresAt
      let inserted ← view fun d => d.credentials.insert? row
      let credentials ← Tx.expect (.integrityError "credential_leases.id") inserted
      modify fun d => { d with credentials := credentials }
      appendRuntimeEvent env job "CredentialLeaseIssued" executor.id
        (.obj [("credential_lease_id", .str id), ("requirement_name", .str requirement.name),
          ("provider", .str requirement.provider), ("resource_hash", .str (env.sha256 (row.resource.getD "None"))),
          ("expires_at", .str (isoformat expiresAt)), ("policy_decision", policyDecision)])
      commit
      audit world row ("executor:" ++ executor.id) "credential_lease.issue"
        "Credential lease issued for a declared job requirement."
      return row

/-- The columns `exchange` writes. -/
def consume (now expiresAt : Nat) (hash : Option String) (row : CredentialRow) : CredentialRow :=
  { row with lastUsedAt := some now, useCount := 1, expiresAt := expiresAt, providerLeaseIdHash := hash }

/-- `exchange`. -/
def exchange (executorId leaseId leaseToken : String) : CredentialMethod WrappedCredentialResult := do
  let executor ← existingExecutor executorId
  let record ← activeLease env executor leaseId leaseToken
  if record.useCount ≠ 0 then
    Tx.raise (.runtimeError "Credential material exchange is one-time and already consumed.")
  else do
    let keys ← view fun d => d.wrappingKeys executor.id
    let key ← Tx.expect (.runtimeError "Executor did not enroll a credential wrapping public key.") (present keys.1)
    let found ← view fun d => d.plane.jobs.find record.jobId
    let job ← Tx.expect (.runtimeError "Execution job not found.") found
    let requirement ← declaredRequirement env job record.requirementName
    let config ← view fun d => (present record.providerConfigId).bind fun id =>
      d.providerConfigs.find? fun config => config.id == id
    let asked ← utcnow
    let material ← Tx.ofExcept (world.fetch requirement ((config.map SecretProviderConfig.metadata).getD (.obj []))
      (max 1 ((record.expiresAt - asked) / 1000000)))
    let wrapped ← Tx.ofExcept (world.wrap key material.value)
    if (present keys.2).any (· ≠ wrapped.2.2) then
      Tx.raise (.runtimeError "Executor credential wrapping key fingerprint changed.")
    else do
      let now ← utcnow
      let expiresAt := min record.expiresAt (material.expiresAt.getD record.expiresAt)
      let hash := (present material.providerLeaseId).map fun id =>
        env.sha256 ("sacm:" ++ record.provider ++ ":lease:v1:" ++ id)
      updateCredential record.id (consume now expiresAt hash)
      appendRuntimeEvent env job "CredentialMaterialWrapped" executor.id
        (.obj [("credential_lease_id", .str record.id), ("provider", .str record.provider),
          ("provider_lease_id_hash", .ofOption hash), ("wrapping_algorithm", .str wrapped.2.1),
          ("encryption_key_fingerprint", .str wrapped.2.2), ("expires_at", .str (isoformat expiresAt))])
      commit
      audit world (consume now expiresAt hash record) ("executor:" ++ executor.id) "credential_lease.exchange"
        "Credential material wrapped to the owning executor public key."
      return ⟨wrapped.1, wrapped.2.1, wrapped.2.2, material.contentType, expiresAt⟩

/-- A renewed lease still ends fifteen minutes after its issue, and with the lease of the job. -/
def renewedEnd (row : CredentialRow) (now ttlSeconds jobEnd : Nat) : Nat :=
  min (min (requestedEnd env now ttlSeconds) (row.issuedAt + 900000000)) jobEnd

/-- The end of `renew`; a lease that would be over at once is not renewed. -/
def renewTo (record : CredentialRow) (executorId : String) (expiresAt now : Nat) : CredentialMethod CredentialRow :=
  if expiresAt ≤ now then Tx.raise (.runtimeError "Credential lease cannot be renewed.")
  else do
    updateCredential record.id fun row => { row with expiresAt := expiresAt }
    commit
    audit world { record with expiresAt := expiresAt } ("executor:" ++ executorId) "credential_lease.renew"
      "Unused credential lease renewed within job and absolute TTL bounds."
    return { record with expiresAt := expiresAt }

/-- `renew`. -/
def renew (executorId leaseId leaseToken : String) (ttlSeconds : Nat) : CredentialMethod CredentialRow := do
  let executor ← existingExecutor executorId
  let record ← activeLease env executor leaseId leaseToken
  if record.useCount ≠ 0 then
    Tx.raise (.runtimeError "A consumed one-time credential lease cannot be renewed.")
  else do
    let found ← view fun d => (d.plane.jobs.find record.jobId).bind ExecutionJob.leaseExpiresAt
    let jobEnd ← Tx.expect (.runtimeError "Execution job lease is unavailable.") found
    let now ← utcnow
    let later ← utcnow
    renewTo world record executor.id (renewedEnd env record now ttlSeconds jobEnd) later

/-- `_revoke_record`. -/
def revokeRecord (actorId reason : String) (row : CredentialRow) : CredentialMethod Unit := do
  let now ← utcnow
  updateCredential row.id fun row => { row with toCredentialLease := row.toCredentialLease.revoke actorId reason now }

/-- `revoke`. -/
def revoke (organizationId leaseId actorId reason : String) : CredentialMethod Unit := do
  let found ← view fun d => d.named leaseId
  match found.filter fun row => row.organizationId == some organizationId with
  | none => Tx.raise (.permissionError "Resource is not accessible.")
  | some record => do
    Tx.ofExcept (world.requirePermission record actorId "secrets.manage")
    revokeRecord actorId reason record
    commit
    audit world record actorId "credential_lease.revoke" "Credential lease revoked."

/-- `revoke_for_job` and `revoke_for_executor`, with the commit of their caller. -/
def revokeWhere (among : CredentialRow → Bool) (actorId reason : String) : CredentialMethod Unit := do
  let records ← view fun d => d.credentials.rows.filter fun row => among row && row.revokedAt.isNone
  Tx.forEach records (revokeRecord actorId reason)
  commit

end CredentialLeaseService

open CredentialLeaseService

/-- The columns of a lease that are written once. -/
def CredentialRow.terms (row : CredentialRow) : CredentialRow :=
  { row with
    expiresAt := 0, revokedAt := none, revokedBy := none, revocationReason := none, lastUsedAt := none, useCount := 0,
    providerLeaseIdHash := none }

/-- A lease lasts fifteen minutes at most and is used once at most. -/
structure CredentialRow.Sound (row : CredentialRow) : Prop where
  bounded : row.expiresAt ≤ row.issuedAt + 900000000
  once : row.useCount ≤ 1
  used : row.useCount = 0 ↔ row.lastUsedAt = none

/-- What a lease may become. -/
structure CredentialRow.Becomes (old new : CredentialRow) : Prop where
  terms : new.terms = old.terms
  final : old.revokedAt ≠ none → new = old
  spent : old.useCount ≠ 0 → new.useCount ≠ 0 ∧ new.expiresAt = old.expiresAt
  sound : old.Sound → new.Sound

theorem CredentialRow.becomes_refl (row : CredentialRow) : row.Becomes row :=
  ⟨rfl, fun _ => rfl, fun used => ⟨used, rfl⟩, id⟩

theorem CredentialRow.Becomes.trans (a b c : CredentialRow) (first : a.Becomes b) (second : b.Becomes c) :
    a.Becomes c where
  terms := second.terms.trans first.terms
  final revoked := by
    obtain rfl := first.final revoked
    exact second.final revoked
  spent used := by
    obtain ⟨usedToo, expiry⟩ := first.spent used
    obtain ⟨still, expiryToo⟩ := second.spent usedToo
    exact ⟨still, expiryToo.trans expiry⟩
  sound := second.sound ∘ first.sound

theorem CredentialRow.Becomes.id_eq {old new : CredentialRow} (becomes : old.Becomes new) : new.id = old.id :=
  (congrArg (fun row : CredentialRow => row.id) becomes.terms :)

/-- How the leases of a store come from those of an earlier one. -/
structure CredentialsGo (d e : CredentialDb) : Prop where
  carries : d.credentials.Carries CredentialRow.Becomes e.credentials
  sound : (∀ row ∈ d.credentials.rows, row.Sound) → ∀ row ∈ e.credentials.rows, row.Sound

theorem CredentialsGo.of_same {d e : CredentialDb} (same : e.credentials = d.credentials) : CredentialsGo d e where
  carries := same ▸ Table.carries_refl CredentialRow.becomes_refl _
  sound := by
    rw [same]
    exact id

theorem CredentialsGo.trans {d e f : CredentialDb} (first : CredentialsGo d e) (second : CredentialsGo e f) :
    CredentialsGo d f :=
  ⟨first.carries.trans CredentialRow.Becomes.trans second.carries, second.sound ∘ first.sound⟩

theorem CredentialsGo.update {d e : CredentialDb} {id : String} {f : CredentialRow → CredentialRow}
    (becomes : ∀ row, d.credentials.find id = some row → row.Becomes (f row))
    (same : e.credentials = d.credentials.update id f) : CredentialsGo d e where
  carries := same ▸ Table.carries_update CredentialRow.becomes_refl fun row found =>
    ⟨(becomes row found).id_eq, becomes row found⟩
  sound all row member := by
    rw [same] at member
    rcases Table.mem_update member with old | ⟨old, found, rfl⟩
    · exact all row old
    · rw [Table.rewriteRow_of_keeps (becomes old found).id_eq]
      exact (becomes old found).sound (all old (Table.find_mem found))

/-- The executor holds the lease of the job with this token. -/
structure HoldsJob (env : CredentialEnv) (d : CredentialDb) (clock : Nat → Nat) (executor : ExecutorRegistration)
    (jobId leaseToken : String) (job : ExecutionJob) : Prop where
  working : executor.status = .active
  stored : d.plane.jobs.find jobId = some job
  owner : job.leaseOwnerId = some executor.id
  token : job.leaseTokenHash = some (tokenHash env.toEnv "lease" leaseToken)
  active : job.active = true
  unexpired : ∃ n expiry, job.leaseExpiresAt = some expiry ∧ clock n < expiry

/-- A lease that the executor may use. -/
structure Usable (env : CredentialEnv) (d : CredentialDb) (clock : Nat → Nat) (executorId leaseToken : String)
    (row : CredentialRow) : Prop where
  stored : d.credentials.find row.id = some row
  job : ∃ executor job, d.plane.executors.find executorId = some executor ∧
    HoldsJob env d clock executor row.jobId leaseToken job
  owner : row.executorId = executorId
  unrevoked : row.revokedAt = none
  live : ∃ n, clock n < row.expiresAt

section Methods
variable {env : CredentialEnv} {world : CredentialWorld} {s : Session CredentialDb} {d : CredentialDb}
  {executor : ExecutorRegistration} {executorId jobId leaseId leaseToken : String}

theorem ownedActiveJob_yields : Tx.Yields (fun _ t => t.committed = s.committed)
    (fun job t => HoldsJob env s.working s.clock executor jobId leaseToken job ∧
      t = { s with clock := fun n => s.clock (n + 1) }) (ownedActiveJob env executor jobId leaseToken s) := by
  unfold ownedActiveJob
  refine Tx.outcome_ite (fun _ => rfl) fun active => ?_
  rw [bind_view]
  refine Tx.outcome_expect rfl fun job stored => Tx.outcome_ite (fun _ => rfl) fun owner => ?_
  refine Tx.outcome_ite (fun _ => rfl) fun token => Tx.outcome_ite (fun _ => rfl) fun running => ?_
  rw [bind_utcnow]
  refine Tx.outcome_ite (fun _ => rfl) fun unexpired => ⟨⟨not_not.mp active, stored, not_not.mp owner, ?_, ?_, ?_⟩, rfl⟩
  · exact (Option.filter_eq_some_iff.mp (not_not.mp token)).1
  · simpa using running
  · cases expiry : job.leaseExpiresAt with
    | none => simp [expiry] at unexpired
    | some instant => exact ⟨0, instant, rfl, by simpa [expiry] using unexpired⟩

theorem named_stored {row : CredentialRow} (named : d.named leaseId = some row) :
    d.credentials.find row.id = some row := by
  rcases Option.or_eq_some_iff.mp named with found | ⟨-, found⟩
  · exact Table.find_of_mem (Table.find_mem found)
  · exact Table.find_of_mem (List.mem_of_find?_eq_some found)

theorem activeLease_yields (atExecutor : s.working.plane.executors.find executorId = some executor) :
    Tx.Yields (fun _ t => t.committed = s.committed)
      (fun row t => s.working.named leaseId = some row ∧ Usable env s.working s.clock executorId leaseToken row ∧
        ∃ clock, t = { s with clock := clock }) (activeLease env executor leaseId leaseToken s) := by
  have key : executor.id = executorId := Table.find_key atExecutor
  unfold activeLease
  rw [bind_view]
  refine Tx.outcome_expect rfl fun row named => ownedActiveJob_yields.bind (fun _ _ same => same) fun job t held => ?_
  obtain ⟨holds, rfl⟩ := held
  refine Tx.outcome_ite (fun _ => rfl) fun owner => Tx.outcome_ite (fun _ => rfl) fun unrevoked => ?_
  rw [bind_utcnow]
  refine Tx.outcome_ite (fun _ => rfl) fun live => ⟨named, ?_, _, rfl⟩
  exact ⟨named_stored named, ⟨executor, job, atExecutor, holds⟩, (not_not.mp owner).trans key, not_not.mp unrevoked, 1,
    not_le.mp live⟩

theorem appendRuntimeEvent_yields {job : ExecutionJob} {eventType : String} {payload : Json} :
    Tx.Yields (fun _ _ => False) (fun _ t => t.working.credentials = s.working.credentials)
      (appendRuntimeEvent env job eventType executorId payload s) := by
  unfold appendRuntimeEvent
  rw [bind_view]
  cases s.working.plane.run? job.runId with
  | none => exact rfl
  | some run => cases env.autoflush <;> exact rfl

theorem audit_yields {row : CredentialRow} {actorId action reason : String} :
    Tx.Yields (fun _ t => t = s) (fun _ t => t = s) (audit world row actorId action reason s) := by
  unfold audit
  cases present row.organizationId with
  | none => exact rfl
  | some _ => cases world.audit row actorId action reason <;> exact rfl

/-- What an exchange leaves: the lease it was for is used up. -/
def Spends (env : CredentialEnv) (s : Session CredentialDb) (executorId leaseId leaseToken : String)
    (row : CredentialRow) (e : CredentialDb) : Prop :=
  s.working.named leaseId = some row ∧ Usable env s.working s.clock executorId leaseToken row ∧ row.useCount = 0 ∧
    ∃ now expiresAt hash, expiresAt ≤ row.expiresAt ∧
      e.credentials = s.working.credentials.update row.id (consume now expiresAt hash)

theorem exchange_yields (atRest : s.committed = s.working) : Tx.Yields
    (fun _ t => t.committed.credentials = s.working.credentials ∨
      ∃ row, Spends env s executorId leaseId leaseToken row t.committed)
    (fun _ t => ∃ row, Spends env s executorId leaseId leaseToken row t.committed)
    (exchange env world executorId leaseId leaseToken s) := by
  have untouched : s.committed.credentials = s.working.credentials := congrArg _ atRest
  unfold exchange existingExecutor
  rw [Tx.bind_assoc_run, bind_view]
  refine Tx.outcome_expect (.inl untouched) fun executor atExecutor => ?_
  refine (activeLease_yields atExecutor).bind (fun _ _ same => .inl (by rw [same, untouched])) fun row t held => ?_
  obtain ⟨named, usable, clock, rfl⟩ := held
  refine Tx.outcome_ite (fun _ => .inl untouched) fun unused => ?_
  rw [bind_view]
  refine Tx.outcome_expect (.inl untouched) fun key _ => ?_
  rw [bind_view]
  refine Tx.outcome_expect (.inl untouched) fun job _ => ?_
  unfold declaredRequirement
  rw [Tx.bind_assoc_run, bind_view]
  refine Tx.outcome_ofExcept (fun _ => .inl untouched) fun requirement _ => ?_
  rw [bind_view, bind_utcnow]
  refine Tx.outcome_ofExcept (fun _ => .inl untouched) fun material _ => ?_
  refine Tx.outcome_ofExcept (fun _ => .inl untouched) fun wrapped _ => ?_
  refine Tx.outcome_ite (fun _ => .inl untouched) fun _ => ?_
  rw [bind_utcnow]
  unfold updateCredential
  rw [bind_modify]
  refine appendRuntimeEvent_yields.bind (fun _ _ no => no.elim) fun _ t logged => ?_
  have spent : Spends env s executorId leaseId leaseToken row t.working :=
    ⟨named, usable, not_not.mp unused, _, _, _, min_le_left .., logged⟩
  rw [bind_commit]
  refine audit_yields.bind (fun _ u same => ?_) fun _ u same => ?_
  · exact same ▸ .inr ⟨row, spent⟩
  · exact same ▸ ⟨row, spent⟩

theorem Spends.goes {row : CredentialRow} {e : CredentialDb}
    (spends : Spends env s executorId leaseId leaseToken row e) : CredentialsGo s.working e := by
  obtain ⟨-, usable, unused, now, expiresAt, hash, sooner, same⟩ := spends
  refine .update (fun old found => ?_) same
  cases usable.stored.symm.trans found
  exact ⟨rfl, fun revoked => (revoked usable.unrevoked).elim, fun used => (used unused).elim, fun sound =>
    ⟨sooner.trans sound.bounded, le_rfl, by simp [consume]⟩⟩

theorem Spends.used {row : CredentialRow} {e : CredentialDb}
    (spends : Spends env s executorId leaseId leaseToken row e) :
    ∃ spent, e.credentials.find row.id = some spent ∧ spent.useCount ≠ 0 := by
  obtain ⟨-, usable, -, now, expiresAt, hash, -, same⟩ := spends
  refine ⟨consume now expiresAt hash row, ?_, one_ne_zero⟩
  have found : (s.working.credentials.update row.id (consume now expiresAt hash)).find row.id =
      (s.working.credentials.find row.id).map (consume now expiresAt hash) := Table.find_update_self fun _ => rfl
  rw [same, found, usable.stored]
  rfl

/-- A method that changes the leases as they may change. -/
abbrev GoesFrom (d : CredentialDb) {α : Type} : Except Error α × Session CredentialDb → Prop :=
  Tx.Yields (fun _ t => CredentialsGo d t.committed) fun _ t => CredentialsGo d t.committed

theorem exchange_goes (atRest : s.committed = s.working) :
    GoesFrom s.working (exchange env world executorId leaseId leaseToken s) := by
  rcases (exchange_yields atRest).cases with ⟨e, t, ran, same | ⟨row, spends⟩⟩ | ⟨result, t, ran, row, spends⟩
  · rw [ran]
    exact CredentialsGo.of_same same
  · rw [ran]
    exact spends.goes
  · rw [ran]
    exact spends.goes

theorem requestedEnd_le (now ttlSeconds : Nat) : requestedEnd env now ttlSeconds ≤ now + 900000000 := by
  unfold requestedEnd
  omega

theorem renewedEnd_le (row : CredentialRow) (now ttlSeconds jobEnd : Nat) :
    renewedEnd env row now ttlSeconds jobEnd ≤ row.issuedAt + 900000000 :=
  (Nat.min_le_left ..).trans (Nat.min_le_right ..)

theorem renewTo_goes {t : Session CredentialDb} {row : CredentialRow} {expiresAt now : Nat}
    (working : t.working = s.working) (atRest : t.committed = s.working)
    (usable : Usable env s.working s.clock executorId leaseToken row) (unused : row.useCount = 0)
    (sooner : expiresAt ≤ row.issuedAt + 900000000) :
    GoesFrom s.working (renewTo world row executorId expiresAt now t) := by
  unfold renewTo updateCredential
  refine Tx.outcome_ite (fun _ => .of_same (congrArg _ atRest)) fun _ => ?_
  rw [bind_modify, bind_commit]
  refine audit_yields.bind (fun _ u same => ?_) fun _ u same => ?_
  all_goals
    rw [same, working]
    refine .update (fun old found => ?_) rfl
    cases usable.stored.symm.trans found
    exact ⟨rfl, fun revoked => (revoked usable.unrevoked).elim, fun used => (used unused).elim, fun sound =>
      ⟨sooner, sound.once, sound.used⟩⟩

theorem renew_goes {ttlSeconds : Nat} (atRest : s.committed = s.working) :
    GoesFrom s.working (renew env world executorId leaseId leaseToken ttlSeconds s) := by
  have untouched : CredentialsGo s.working s.committed := .of_same (congrArg _ atRest)
  unfold renew existingExecutor
  rw [Tx.bind_assoc_run, bind_view]
  refine Tx.outcome_expect untouched fun executor atExecutor => ?_
  refine (activeLease_yields atExecutor).bind (fun _ _ same => CredentialsGo.of_same (by rw [same, atRest]))
    fun row t held => ?_
  obtain ⟨named, usable, clock, rfl⟩ := held
  refine Tx.outcome_ite (fun _ => untouched) fun unused => ?_
  rw [bind_view]
  cases (s.working.plane.jobs.find row.jobId).bind ExecutionJob.leaseExpiresAt with
  | none => exact untouched
  | some jobEnd =>
    have key : executor.id = executorId := Table.find_key atExecutor
    rw [Tx.bind_expect_some, bind_utcnow, bind_utcnow, key]
    exact renewTo_goes rfl atRest usable (not_not.mp unused) (renewedEnd_le ..)

/-- The end of the lease of the job only shortens what was asked for. -/
theorem newCredential_sound {job : ExecutionJob} {request : CredentialLeaseService.SecretRequestV1}
    {config : Option SecretProviderConfig} {id token : String} {now asked : Nat} (bounded : asked ≤ now + 900000000) :
    (newCredential job executorId request config id token now (job.leaseExpiresAt.elim asked (min asked))).Sound where
  bounded := by
    cases job.leaseExpiresAt with
    | none => exact bounded
    | some expiry => exact (Nat.min_le_left ..).trans bounded
  once := Nat.zero_le 1
  used := iff_of_true rfl rfl

theorem issue_goes {requirementName : String} {ttlSeconds : Nat} (atRest : s.committed = s.working) :
    GoesFrom s.working (issue env world executorId jobId leaseToken requirementName ttlSeconds s) := by
  have untouched : CredentialsGo s.working s.committed := .of_same (congrArg _ atRest)
  unfold issue existingExecutor
  rw [Tx.bind_assoc_run, bind_view]
  refine Tx.outcome_expect untouched fun executor atExecutor => ?_
  refine ownedActiveJob_yields.bind (fun _ _ same => CredentialsGo.of_same (by rw [same, atRest])) fun job t held => ?_
  obtain ⟨-, rfl⟩ := held
  unfold declaredRequirement
  rw [Tx.bind_assoc_run, bind_view]
  refine Tx.outcome_ofExcept (fun _ => untouched) fun requirement _ => ?_
  rw [bind_view]
  refine Tx.outcome_ofExcept (fun _ => untouched) fun config _ => ?_
  rw [bind_utcnow]
  refine Tx.outcome_ite (fun _ => untouched) fun _ => ?_
  rw [bind_view]
  cases s.working.credentials.rows.find? _ with
  | some row => exact untouched
  | none =>
    dsimp only
    rw [bind_uuid4]
    refine outcome_tokenUrlsafe ?_
    rw [bind_view]
    refine Tx.outcome_expect untouched fun credentials inserted => ?_
    rw [bind_modify]
    refine appendRuntimeEvent_yields.bind (fun _ _ no => no.elim) fun _ t logged => ?_
    have goes : CredentialsGo s.working t.working := by
      refine ⟨logged ▸ Table.carries_insert? CredentialRow.becomes_refl inserted, fun all row member => ?_⟩
      rw [logged, Table.mem_insert? inserted] at member
      rcases member with old | rfl
      · exact all row old
      · exact newCredential_sound (requestedEnd_le ..)
    rw [bind_commit]
    exact audit_yields.bind (fun _ u same => same ▸ goes) fun _ u same => same ▸ goes

theorem CredentialRow.becomes_revoked (row : CredentialRow) (actorId reason : String) (now : Nat) :
    row.Becomes { row with toCredentialLease := row.toCredentialLease.revoke actorId reason now } := by
  unfold CredentialLease.revoke
  split
  · rename_i unrevoked
    exact ⟨rfl, fun revoked => (revoked unrevoked).elim, fun used => ⟨used, rfl⟩, fun sound =>
      ⟨sound.bounded, sound.once, sound.used⟩⟩
  · exact row.becomes_refl

theorem revokeRecord_goes {actorId reason : String} {row : CredentialRow} (goes : CredentialsGo d s.working) :
    CredentialsGo d (revokeRecord actorId reason row s).2.working :=
  goes.trans (.update (fun old _ => old.becomes_revoked actorId reason (s.clock 0)) rfl)

theorem revoke_goes {organizationId actorId reason : String} (atRest : s.committed = s.working) :
    GoesFrom s.working (revoke world organizationId leaseId actorId reason s) := by
  have untouched : CredentialsGo s.working s.committed := .of_same (congrArg _ atRest)
  unfold revoke
  rw [bind_view]
  cases (s.working.named leaseId).filter _ with
  | none => exact untouched
  | some record =>
    dsimp only
    refine Tx.outcome_ofExcept (fun _ => untouched) fun _ _ => ?_
    have goes : CredentialsGo s.working (revokeRecord actorId reason record s).2.working :=
      revokeRecord_goes (.of_same rfl)
    refine Tx.outcome_bind (fun e t run => nomatch run) fun _ t run => ?_
    rw [run] at goes
    rw [bind_commit]
    refine Tx.outcome_last (audit_yields.bind (fun _ u same => ?_) fun _ u same => ?_)
    · exact same ▸ goes
    · exact same ▸ goes

theorem revokeRecords_goes {actorId reason : String} {rows : List CredentialRow} {result : Except Error Unit}
    {t : Session CredentialDb} (atRest : s.committed = s.working)
    (ran : Tx.forEach rows (revokeRecord actorId reason) s = (result, t)) :
    CredentialsGo s.working t.committed ∧ CredentialsGo s.working t.working := by
  have kept : CredentialsGo s.working (Tx.forEach rows (revokeRecord actorId reason) s).2.committed ∧
      CredentialsGo s.working (Tx.forEach rows (revokeRecord actorId reason) s).2.working :=
    Tx.forEach_keeps
      (I := fun t : Session CredentialDb => CredentialsGo s.working t.committed ∧ CredentialsGo s.working t.working)
      (fun _ _ _ held => ⟨held.1, revokeRecord_goes held.2⟩) ⟨.of_same (congrArg _ atRest), .of_same rfl⟩
  rwa [ran] at kept

theorem revokeWhere_goes {among : CredentialRow → Bool} {actorId reason : String} (atRest : s.committed = s.working) :
    GoesFrom s.working (revokeWhere among actorId reason s) := by
  unfold revokeWhere
  rw [bind_view]
  refine Tx.outcome_bind (fun _ _ ran => ?_) fun _ _ ran => ?_
  · exact (revokeRecords_goes atRest ran).1
  · exact (revokeRecords_goes atRest ran).2

end Methods

/-- The requests that reach the leases, each with what it meets outside, and the
writes of the other services, which leave the leases alone. -/
inductive CredentialCall
  | others (plane : Db) (providerConfigs : List SecretProviderConfig)
      (wrappingKeys : String → Option String × Option String)
  | issue (world : CredentialWorld) (executorId jobId leaseToken requirementName : String) (ttlSeconds : Nat)
  | exchange (world : CredentialWorld) (executorId leaseId leaseToken : String)
  | renew (world : CredentialWorld) (executorId leaseId leaseToken : String) (ttlSeconds : Nat)
  | revoke (world : CredentialWorld) (organizationId leaseId actorId reason : String)
  | revokeWhere (among : CredentialRow → Bool) (actorId reason : String)

namespace CredentialCall
variable (env : CredentialEnv)

def after (call : CredentialCall) (d : CredentialDb) (supply : Supply) : CredentialDb :=
  match call with
  | .others plane configs keys => { d with plane := plane, providerConfigs := configs, wrappingKeys := keys }
  | .issue world executorId jobId leaseToken name ttl =>
    (request (CredentialLeaseService.issue env world executorId jobId leaseToken name ttl) d supply).2
  | .exchange world executorId leaseId leaseToken =>
    (request (CredentialLeaseService.exchange env world executorId leaseId leaseToken) d supply).2
  | .renew world executorId leaseId leaseToken ttl =>
    (request (CredentialLeaseService.renew env world executorId leaseId leaseToken ttl) d supply).2
  | .revoke world organizationId leaseId actorId reason =>
    (request (CredentialLeaseService.revoke world organizationId leaseId actorId reason) d supply).2
  | .revokeWhere among actorId reason =>
    (request (CredentialLeaseService.revokeWhere among actorId reason) d supply).2

/-- The store the calls lead to. -/
abbrev storeAfter : CredentialDb → List (CredentialCall × Supply) → CredentialDb := Path.storeAfter (after env)

/-- The lease whose material a call hands to its executor. -/
def handsOut (call : CredentialCall) (d : CredentialDb) (supply : Supply) : Option CredentialRow :=
  match call with
  | .exchange world executorId leaseId leaseToken =>
    match (request (CredentialLeaseService.exchange env world executorId leaseId leaseToken) d supply).1 with
    | .ok _ => d.named leaseId
    | .error _ => none
  | _ => none

/-- The leases whose material the calls hand out, one after another. -/
def handedOut : CredentialDb → List (CredentialCall × Supply) → List CredentialRow
  | _, [] => []
  | d, (call, supply) :: rest => (call.handsOut env d supply).toList ++ handedOut (call.after env d supply) rest

variable {env} {call : CredentialCall} {d : CredentialDb} {supply : Supply} {row : CredentialRow}

theorem request_goes {α : Type} {m : CredentialMethod α} (goes : GoesFrom d (m (start d supply))) :
    CredentialsGo d (request m d supply).2 := by
  rcases run : m (start d supply) with ⟨result, t⟩
  rw [run] at goes
  rw [request_run run]
  cases result <;> exact goes

theorem handsOut_spends (hands : call.handsOut env d supply = some row) :
    ∃ executorId leaseId leaseToken,
      Spends env (start d supply) executorId leaseId leaseToken row (call.after env d supply) := by
  cases call with
  | exchange world executorId leaseId leaseToken =>
    have ends : Tx.Yields _
        (fun _ t => ∃ row, Spends env (start d supply) executorId leaseId leaseToken row t.committed)
        (CredentialLeaseService.exchange env world executorId leaseId leaseToken (start d supply)) :=
      exchange_yields rfl
    simp only [handsOut, after, request] at hands ⊢
    rcases ends.cases with ⟨e, t, ran, -⟩ | ⟨result, t, ran, other, spends⟩
    · simp [ran] at hands
    · rw [ran] at hands ⊢
      cases spends.1.symm.trans hands
      exact ⟨executorId, leaseId, leaseToken, spends⟩
  | _ => cases hands

theorem after_goes (call : CredentialCall) : CredentialsGo d (call.after env d supply) := by
  cases call with
  | others => exact .of_same rfl
  | issue => exact request_goes (issue_goes rfl)
  | exchange => exact request_goes (exchange_goes rfl)
  | renew => exact request_goes (renew_goes rfl)
  | revoke => exact request_goes (revoke_goes rfl)
  | revokeWhere => exact request_goes (revokeWhere_goes rfl)

theorem storeAfter_goes (calls : List (CredentialCall × Supply)) :
    CredentialsGo d (storeAfter env d calls) := by
  induction calls generalizing d with
  | nil => exact .of_same rfl
  | cons call rest ih => exact (after_goes call.1).trans ih

theorem handedOut_fresh {calls : List (CredentialCall × Supply)} {old : CredentialRow}
    (handed : row ∈ handedOut env d calls) (stored : d.credentials.find row.id = some old) :
    old.useCount = 0 ∧ old.revokedAt = none := by
  induction calls generalizing d old with
  | nil => cases handed
  | cons call rest ih =>
    rcases List.mem_append.mp handed with now | later
    · obtain ⟨_, _, _, -, usable, unused, -⟩ := handsOut_spends (Option.mem_toList.mp now)
      cases usable.stored.symm.trans stored
      exact ⟨unused, usable.unrevoked⟩
    · obtain ⟨new, found, becomes⟩ := (after_goes call.1).carries row.id old stored
      obtain ⟨unused, unrevoked⟩ := ih later found
      refine ⟨not_not.mp fun used => (becomes.spent used).1 unused, not_not.mp fun revoked => ?_⟩
      exact revoked (becomes.final revoked ▸ unrevoked)

theorem handedOut_used {calls : List (CredentialCall × Supply)} (handed : row ∈ handedOut env d calls) :
    ∃ new, (storeAfter env d calls).credentials.find row.id = some new ∧ new.useCount ≠ 0 := by
  induction calls generalizing d with
  | nil => cases handed
  | cons call rest ih =>
    rcases List.mem_append.mp handed with now | later
    · obtain ⟨_, _, _, spends⟩ := handsOut_spends (Option.mem_toList.mp now)
      obtain ⟨spent, found, used⟩ := spends.used
      obtain ⟨new, still, becomes⟩ := (storeAfter_goes rest).carries row.id spent found
      exact ⟨new, still, (becomes.spent used).1⟩
    · exact ih later

theorem handedOut_nodup (calls : List (CredentialCall × Supply)) :
    ((handedOut env d calls).map fun row => row.id).Nodup := by
  induction calls generalizing d with
  | nil => exact .nil
  | cons call rest ih =>
    unfold handedOut
    cases hands : call.1.handsOut env d call.2 with
    | none => exact ih
    | some row =>
      refine List.nodup_cons.mpr ⟨fun again => ?_, ih⟩
      obtain ⟨other, handed, same⟩ := List.mem_map.mp again
      obtain ⟨_, _, _, spends⟩ := handsOut_spends hands
      obtain ⟨spent, found, used⟩ := spends.used
      exact used (handedOut_fresh handed (same ▸ found)).1

end CredentialCall

open CredentialCall

namespace LeaseSample

def leaseEnv : CredentialEnv :=
  { Sample.env with
    providers := ⟨.last, false, fun _ _ => .ok ()⟩
    validateRequest := fun raw => .ok ⟨raw.text false, "environment", none, some "NPM_TOKEN", none, ["read"], none⟩
    leaseMaxSeconds := 300 }

def world : CredentialWorld where
  fetch := fun _ _ _ => .ok ⟨"secret", none, "text/plain", none⟩
  wrap := fun _ value => .ok ("wrapped " ++ value, "RSA-OAEP-256", "fingerprint")
  audit := fun _ _ _ _ => .ok ()
  requirePermission := fun _ _ _ => .ok ()

/-- A running job that needs a secret, and the executor that leases it. -/
def store : CredentialDb where
  plane :=
    { executors := .ofRows [Sample.executor]
      jobs := .ofRows [{ Sample.heldJob .running 3 with secretRequirements := [.int 7] }] }
  wrappingKeys := fun _ => (some "public key", none)

def issued : CredentialCall × Supply := (.issue world "x" "j" "token" "7" 300, Sample.supply)

def exchanged : CredentialCall × Supply := (.exchange world "x" "0" "token", Sample.supply)

def revoked : CredentialCall × Supply := (.revokeWhere (fun row => row.jobId == "j") "x" "cancelled", Sample.supply)

end LeaseSample

/-- Over any requests, one after another, the material of a lease is handed out
once at most, and only for a lease that is neither revoked nor expired nor used,
to the active executor that holds the job it was issued for, leased or running. -/
theorem credential_exchanged_once (env : CredentialEnv) (d : CredentialDb) (calls : List (CredentialCall × Supply)) :
    ((handedOut env d calls).map fun row => row.id).Nodup ∧
      ∀ call supply row, CredentialCall.handsOut env call (storeAfter env d calls) supply = some row →
        row.id ∉ (handedOut env d calls).map (fun row => row.id) ∧ row.useCount = 0 ∧
          ∃ executorId leaseToken,
            Usable env (storeAfter env d calls) supply.clock executorId leaseToken row := by
  refine ⟨handedOut_nodup calls, fun call supply row hands => ?_⟩
  obtain ⟨executorId, leaseId, leaseToken, -, usable, unused, -⟩ := handsOut_spends hands
  refine ⟨fun again => ?_, unused, executorId, leaseToken, usable⟩
  obtain ⟨other, handed, same⟩ := List.mem_map.mp again
  obtain ⟨new, found, used⟩ := handedOut_used handed
  rw [same] at found
  cases usable.stored.symm.trans found
  exact used unused

open LeaseSample in
example : (handedOut leaseEnv store [issued, exchanged, exchanged]).map (fun row => row.id) = ["0"] := by decide

/-- In every run from a store without leases, a lease ends within fifteen minutes
of its issue and is used once at most. Whatever follows, its terms stay, a used
one is not extended, and a revoked one never changes and is never handed out. -/
theorem credential_lifetime (env : CredentialEnv) (d : CredentialDb) (empty : d.credentials = .empty)
    (calls later : List (CredentialCall × Supply)) (row : CredentialRow)
    (stored : row ∈ (storeAfter env d calls).credentials.rows) :
    row.Sound ∧
      (∃ new, (storeAfter env d (calls ++ later)).credentials.find row.id = some new ∧
        row.Becomes new) ∧
      (row.revokedAt ≠ none →
        row.id ∉ (handedOut env (storeAfter env d calls) later).map fun row => row.id) := by
  refine ⟨?_, ?_, fun revoked handed => ?_⟩
  · refine (storeAfter_goes calls).sound (fun old member => ?_) row stored
    rw [empty] at member
    cases member
  · rw [storeAfter, Path.storeAfter_append]
    exact (storeAfter_goes later).carries row.id row (Table.find_of_mem stored)
  · obtain ⟨other, handed, same⟩ := List.mem_map.mp handed
    exact revoked (handedOut_fresh handed (same ▸ Table.find_of_mem stored)).2

open LeaseSample in
theorem credential_lifetime_sample :
    ∃ row ∈ (storeAfter leaseEnv store [issued, revoked]).credentials.rows,
      row.Sound ∧ row.revokedAt ≠ none ∧
        row.id ∉ (handedOut leaseEnv (storeAfter leaseEnv store [issued, revoked])
          [exchanged]).map fun row => row.id := by
  have rows : ((storeAfter leaseEnv store [issued, revoked]).credentials.rows.map
      fun row => row.revokedAt.isSome) = [true] := by decide
  obtain ⟨row, stored, ended⟩ := List.mem_map.mp (rows ▸ List.mem_singleton_self true)
  have revokedRow : row.revokedAt ≠ none := Option.isSome_iff_ne_none.mp ended
  have life := credential_lifetime leaseEnv store rfl [issued, revoked] [exchanged] row stored
  exact ⟨row, stored, life.1, revokedRow, life.2.2 revokedRow⟩

end SacmRuntime
