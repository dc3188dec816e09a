import SacmRuntime.Runtime.ExecutionPlane

namespace SacmRuntime
open Session

/-- What the identity of an executor rests on besides the plane: the time until
it counts as offline, and Ed25519. A generated key has a fingerprint, and what
it signs is verified with its public half. -/
structure IdentityEnv extends Env where
  offlineSeconds : Int
  publicKeyFingerprint : String → Except String String
  publicKey : String → String
  sign : String → Json → String
  printed : ∀ key, ∃ fingerprint, publicKeyFingerprint (publicKey key) = .ok fingerprint
  verified : ∀ key value, verifyEd25519 (publicKey key) value (sign key value) = .ok ()

/-- Where a rotation can stop or lose a message: on the way to the server, in
its commit or in the audit after it, on the way back, and before each of the
writes of the executor. -/
inductive RotationPoint where
  | request | commit | audit | response | privateKey | token | metadata | resume
  deriving DecidableEq

def interrupted : Error := .other "Interrupted" ""

/-- The rotation stops here when this is where it stops. -/
def passes {σ : Type} (stop : Option RotationPoint) (point : RotationPoint) : Tx σ Error Unit :=
  if stop = some point then Tx.raise interrupted else pure ()

/-- `executor.status = "OFFLINE"`. -/
def ExecutorRegistration.goOffline (executor : ExecutorRegistration) : ExecutorRegistration :=
  { executor with status := .offline }

/-- The columns `rotate_executor_identity` writes. -/
def ExecutorRegistration.rotated (publicKey fingerprint hash : String) (executor : ExecutorRegistration) :
    ExecutorRegistration :=
  { executor with publicSigningKey := publicKey, signingKeyFingerprint := fingerprint, authTokenHash := hash }

namespace ExecutionPlaneService

def invalidToken : Error := .executorAuthenticationError "Invalid or revoked executor token."

/-- `authenticate_executor`. -/
def authenticateExecutor (env : IdentityEnv) (token : String) : Service ExecutorRegistration := do
  let found ← view fun d => d.executors.rows.find? fun row =>
    row.authTokenHash == tokenHash env.toEnv "executor-auth" token
  match found with
  | none => Tx.raise invalidToken
  | some executor =>
    if executor.status = .revoked then Tx.raise invalidToken
    else
      match executor.status, executor.lastHeartbeatAt with
      | .active, some heartbeat => do
        let now ← utcnow
        if (heartbeat : Int) ≤ now - env.offlineSeconds then do
          updateExecutor executor.id ExecutorRegistration.goOffline
          commit
          return ExecutorRegistration.goOffline executor
        else return executor
      | _, _ => return executor

/-- `rotate_executor_identity`. The commit fails when another registration has
the hash of the new token; the audit record follows the commit. -/
def rotateExecutorIdentity (env : IdentityEnv) (stop : Option RotationPoint) (executor : ExecutorRegistration)
    (publicSigningKey signingKeyFingerprint : String) : Service (ExecutorRegistration × String) :=
  match env.publicKeyFingerprint publicSigningKey with
  | .error message => Tx.raise (.executionConflict ("Invalid executor public signing key: " ++ message))
  | .ok actualFingerprint =>
    if actualFingerprint ≠ signingKeyFingerprint then
      Tx.raise (.executionConflict "Signing key fingerprint does not match the public key.")
    else do
      let authToken ← tokenUrlsafe
      let hash := tokenHash env.toEnv "executor-auth" authToken
      let taken ← view fun d => d.executors.rows.any fun row => row.id != executor.id && row.authTokenHash == hash
      if taken then Tx.raise (.integrityError "uq_executor_auth_token_hash")
      else do
        updateExecutor executor.id (ExecutorRegistration.rotated publicSigningKey actualFingerprint hash)
        passes stop .commit
        commit
        passes stop .audit
        return (ExecutorRegistration.rotated publicSigningKey actualFingerprint hash executor, authToken)

section
variable {env : IdentityEnv} {d : Db} {supply : Supply} {token : String} {row executor : ExecutorRegistration}
  {t : Session Db}

/-- A registration that authenticates a token: it has its hash. -/
def HasToken (env : IdentityEnv) (d : Db) (token : String) (row : ExecutorRegistration) : Prop :=
  row ∈ d.executors.rows ∧ row.authTokenHash = tokenHash env.toEnv "executor-auth" token

def TokensUnique (d : Db) : Prop :=
  ∀ a ∈ d.executors.rows, ∀ b ∈ d.executors.rows, a.authTokenHash = b.authTokenHash → a = b

theorem find_token (unique : TokensUnique d) (has : HasToken env d token row) :
    (d.executors.rows.find? fun row => row.authTokenHash == tokenHash env.toEnv "executor-auth" token) = some row := by
  obtain ⟨member, hashed⟩ := has
  cases found : d.executors.rows.find? fun row => row.authTokenHash == tokenHash env.toEnv "executor-auth" token with
  | none =>
    have absent := List.find?_eq_none.mp found row member
    simp [hashed] at absent
  | some other =>
    have same := List.find?_some found
    have sameHash : other.authTokenHash = row.authTokenHash := (beq_iff_eq.mp same).trans hashed.symm
    rw [unique other (List.mem_of_find?_eq_some found) row member sameHash]

def Noted (f : ExecutorRegistration → ExecutorRegistration) : Prop :=
  f = id ∨ f = ExecutorRegistration.goOffline

theorem Noted.keeps {f : ExecutorRegistration → ExecutorRegistration} (noted : Noted f) (row : ExecutorRegistration) :
    (f row).id = row.id ∧ (f row).publicSigningKey = row.publicSigningKey ∧
      (f row).signingKeyFingerprint = row.signingKeyFingerprint ∧ (f row).authTokenHash = row.authTokenHash ∧
      (row.status ≠ .revoked → (f row).status ≠ .revoked) := by
  rcases noted with rfl | rfl
  · exact ⟨rfl, rfl, rfl, rfl, id⟩
  · exact ⟨rfl, rfl, rfl, rfl, fun _ => by simp [ExecutorRegistration.goOffline]⟩

theorem authenticateExecutor_run (supply : Supply) (unique : TokensUnique d) (has : HasToken env d token row)
    (inUse : row.status ≠ .revoked) :
    ∃ f clock, Noted f ∧ authenticateExecutor env token (start d supply) =
      (.ok (f row), start { d with executors := d.executors.update row.id f } ⟨clock, supply.uuids, supply.tokens⟩)
        := by
  have same : { d with executors := d.executors.update row.id id } = d := by
    have unchanged : d.executors.update row.id id = d.executors := Table.update_of_same fun _ => rfl
    rw [unchanged]
  unfold authenticateExecutor
  rw [bind_view, start_working, find_token unique has]
  dsimp only
  rw [if_neg inUse]
  cases status : row.status with
  | revoked => exact absurd status inUse
  | offline => exact ⟨id, supply.clock, .inl rfl, by rw [same]; rfl⟩
  | active =>
    cases heartbeat : row.lastHeartbeatAt with
    | none => exact ⟨id, supply.clock, .inl rfl, by rw [same]; rfl⟩
    | some beat =>
      dsimp only
      rw [bind_utcnow]
      by_cases late : (beat : Int) ≤ (start d supply).clock 0 - env.offlineSeconds
      · rw [if_pos late]
        exact ⟨ExecutorRegistration.goOffline, fun n => supply.clock (n + 1), .inr rfl, rfl⟩
      · rw [if_neg late]
        exact ⟨id, fun n => supply.clock (n + 1), .inl rfl, by rw [same]; rfl⟩

theorem authenticateExecutor_refused (supply : Supply)
    (unknown : ∀ row ∈ d.executors.rows, row.authTokenHash ≠ tokenHash env.toEnv "executor-auth" token) :
    authenticateExecutor env token (start d supply) = (.error invalidToken, start d supply) := by
  have missing : (d.executors.rows.find? fun row =>
      row.authTokenHash == tokenHash env.toEnv "executor-auth" token) = none := by
    rw [List.find?_eq_none]
    intro row member
    simp [unknown row member]
  unfold authenticateExecutor
  rw [bind_view, start_working, missing]
  rfl

theorem authenticateExecutor_ok (ran : authenticateExecutor env token (start d supply) = (.ok executor, t)) :
    ∃ row f, HasToken env d token row ∧ row.status ≠ .revoked ∧ Noted f ∧ executor = f row := by
  unfold authenticateExecutor at ran
  rw [bind_view, start_working] at ran
  cases found : d.executors.rows.find? fun row => row.authTokenHash == tokenHash env.toEnv "executor-auth" token with
  | none =>
    rw [found] at ran
    cases ran
  | some row =>
    have hashed := List.find?_some found
    have has : HasToken env d token row := ⟨List.mem_of_find?_eq_some found, beq_iff_eq.mp hashed⟩
    rw [found] at ran
    dsimp only at ran
    by_cases revoked : row.status = .revoked
    · rw [if_pos revoked] at ran
      cases ran
    · rw [if_neg revoked] at ran
      refine ⟨row, ?_⟩
      cases status : row.status with
      | revoked => exact absurd status revoked
      | offline =>
        rw [status] at ran
        cases ran
        exact ⟨id, has, by simp, .inl rfl, rfl⟩
      | active =>
        cases heartbeat : row.lastHeartbeatAt with
        | none =>
          rw [status, heartbeat] at ran
          cases ran
          exact ⟨id, has, by simp, .inl rfl, rfl⟩
        | some beat =>
          rw [status, heartbeat] at ran
          dsimp only at ran
          rw [bind_utcnow] at ran
          by_cases late : (beat : Int) ≤ (start d supply).clock 0 - env.offlineSeconds
          · rw [if_pos late] at ran
            cases ran
            exact ⟨ExecutorRegistration.goOffline, has, by simp, .inr rfl, rfl⟩
          · rw [if_neg late] at ran
            cases ran
            exact ⟨id, has, by simp, .inl rfl, rfl⟩

end

end ExecutionPlaneService

end SacmRuntime
