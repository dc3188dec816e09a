import SacmRuntime.Runtime.ExecutorIdentity
import SacmRuntime.Runtime.Operations

namespace SacmRuntime
open Session ExecutionPlaneService Table

/-- The files of an executor's `IdentityStore`. Each is written by renaming a
complete file, so a write happens or does not. -/
structure IdentityStore where
  privateKey : String
  token : String
  metadata : Option ExecutorRegistration
  drain : Option String

structure RotationState where
  plane : Db
  store : IdentityStore

abbrev Rotation (α : Type) : Type := Tx RotationState Error α

/-- One run of the `rotate` command: the key it generates, what the server
draws, and where it stops. -/
structure RotationAttempt where
  candidate : String
  supply : Supply
  stop : Option RotationPoint

def RotationAttempt.authToken (a : RotationAttempt) : String := a.supply.tokens 0

def writeStore (f : IdentityStore → IdentityStore) : Rotation Unit := Tx.shift fun s => { s with store := f s.store }

def onPlane {α : Type} (supply : Supply) (m : Service α) : Rotation α := fun s =>
  ((request m s.plane supply).1, { s with plane := (request m s.plane supply).2 })

/-- The route of `HttpxControlPlaneClient.rotate`. -/
def rotateRoute (env : IdentityEnv) (stop : Option RotationPoint) (token publicKey fingerprint : String) :
    Service (ExecutorRegistration × String) := do
  let executor ← authenticateExecutor env token
  rotateExecutorIdentity env stop executor publicKey fingerprint

/-- The command `rotate`, with `IdentityStore.rotate_with` in it. -/
def rotate (env : IdentityEnv) (a : RotationAttempt) : Rotation Unit := do
  writeStore fun store => { store with drain := some "identity rotation" }
  let token ← Tx.read fun s => s.store.token
  let publicKey := env.publicKey a.candidate
  match env.publicKeyFingerprint publicKey with
  | .error message => Tx.raise (.valueError message)
  | .ok fingerprint => do
    passes a.stop .request
    let answer ← onPlane a.supply (rotateRoute env a.stop token publicKey fingerprint)
    passes a.stop .response
    passes a.stop .privateKey
    writeStore fun store => { store with privateKey := a.candidate }
    passes a.stop .token
    if answer.2 = "" then Tx.raise (.valueError "Executor auth token cannot be empty.")
    else do
      writeStore fun store => { store with token := answer.2 }
      passes a.stop .metadata
      writeStore fun store => { store with metadata := some answer.1 }
      passes a.stop .resume
      writeStore fun store => { store with drain := none }

def afterAttempts (env : IdentityEnv) (s : RotationState) (attempts : List RotationAttempt) : RotationState :=
  attempts.foldl (fun s a => (rotate env a s).2) s

section
variable {env : IdentityEnv} {d : Db} {supply : Supply} {stop : Option RotationPoint}
  {token publicKey fingerprint : String} {row : ExecutorRegistration}

theorem rotateExecutorIdentity_run (stop : Option RotationPoint) (supply : Supply)
    (printed : env.publicKeyFingerprint publicKey = .ok fingerprint)
    (untaken : (d.executors.rows.any fun other => other.id != row.id &&
      other.authTokenHash == tokenHash env.toEnv "executor-auth" (supply.tokens 0)) = false) :
    let rotated := ExecutorRegistration.rotated publicKey fingerprint
      (tokenHash env.toEnv "executor-auth" (supply.tokens 0))
    request (rotateExecutorIdentity env stop row publicKey fingerprint) d supply =
      (if stop = some .commit ∨ stop = some .audit then .error interrupted
        else .ok (rotated row, supply.tokens 0),
        if stop = some .commit then d else { d with executors := d.executors.update row.id rotated }) := by
  have drawn : (tokenUrlsafe (start d supply) : Except Error String × Session Db) =
      (.ok (supply.tokens 0), start d ⟨supply.clock, supply.uuids, fun n => supply.tokens (n + 1)⟩) := rfl
  unfold request rotateExecutorIdentity
  rw [printed]
  dsimp only
  rw [if_neg (not_not.mpr rfl), Tx.bind_run_ok _ drawn, bind_view, start_working, untaken, if_neg (by simp)]
  unfold updateExecutor
  rw [bind_modify]
  by_cases committing : stop = some .commit
  · subst committing
    rfl
  · by_cases auditing : stop = some .audit
    · subst auditing
      rfl
    · simp only [passes, committing, auditing, if_false, or_self]
      rfl

theorem rotateRoute_run (supply : Supply) (stop : Option RotationPoint) (unique : TokensUnique d)
    (has : HasToken env d token row)
    (inUse : row.status ≠ .revoked) (printed : env.publicKeyFingerprint publicKey = .ok fingerprint)
    (fresh : ∀ other ∈ d.executors.rows,
      other.authTokenHash ≠ tokenHash env.toEnv "executor-auth" (supply.tokens 0)) :
    ∃ f, Noted f ∧
      let hash := tokenHash env.toEnv "executor-auth" (supply.tokens 0)
      let rotated := ExecutorRegistration.rotated publicKey fingerprint hash
      request (rotateRoute env stop token publicKey fingerprint) d supply =
        (if stop = some .commit ∨ stop = some .audit then .error interrupted
          else .ok (rotated (f row), supply.tokens 0),
          { d with executors := d.executors.update row.id (if stop = some .commit then f else rotated ∘ f) }) := by
  obtain ⟨f, clock, noted, authenticated⟩ := authenticateExecutor_run supply unique has inUse
  refine ⟨f, noted, ?_⟩
  have untaken : ((d.executors.update row.id f).rows.any fun other => other.id != (f row).id &&
      other.authTokenHash == tokenHash env.toEnv "executor-auth" (supply.tokens 0)) = false := by
    rw [List.any_eq_false]
    intro other member
    have old : other.authTokenHash ≠ tokenHash env.toEnv "executor-auth" (supply.tokens 0) := by
      rcases mem_update member with inTable | ⟨before, found, rfl⟩
      · exact fresh other inTable
      · rw [rewriteRow_of_keeps (noted.keeps before).1, (noted.keeps before).2.2.2.1]
        exact fresh before (find_mem found)
    simp [old]
  have twice : ∀ hash, (d.executors.update row.id f).update (f row).id
      (ExecutorRegistration.rotated publicKey fingerprint hash) =
        d.executors.update row.id (ExecutorRegistration.rotated publicKey fingerprint hash ∘ f) := by
    intro hash
    rw [(noted.keeps row).1]
    exact update_update (fun other => (noted.keeps other).1) fun _ => rfl
  have ran := rotateExecutorIdentity_run (d := { d with executors := d.executors.update row.id f }) stop
    ⟨clock, supply.uuids, supply.tokens⟩ printed untaken
  unfold request rotateRoute at *
  rw [Tx.bind_run_ok _ authenticated]
  refine ran.trans ?_
  by_cases committing : stop = some .commit
  · simp only [committing, true_or, if_true]
  · simp only [committing, if_false, twice]

end

/-- The stored token is that of a registration in use, which has the public half
of the stored private key. The hashes of the tokens are unique. -/
structure Enrolled (env : IdentityEnv) (s : RotationState) (row : ExecutorRegistration) : Prop where
  unique : TokensUnique s.plane
  has : HasToken env s.plane s.store.token row
  inUse : row.status ≠ .revoked
  key : row.publicSigningKey = env.publicKey s.store.privateKey
  printed : env.publicKeyFingerprint (env.publicKey s.store.privateKey) = .ok row.signingKeyFingerprint

def LockedOut (env : IdentityEnv) (s : RotationState) : Prop :=
  ∀ row ∈ s.plane.executors.rows, row.authTokenHash ≠ tokenHash env.toEnv "executor-auth" s.store.token

def NewToken (env : IdentityEnv) (s : RotationState) (a : RotationAttempt) : Prop :=
  a.authToken ≠ "" ∧ ∀ row ∈ s.plane.executors.rows,
    row.authTokenHash ≠ tokenHash env.toEnv "executor-auth" a.authToken

/-- The attempt stops after the commit of the server and before the executor
has written its new token. -/
def RotationAttempt.losesToken (a : RotationAttempt) : Prop :=
  a.stop = some .audit ∨ a.stop = some .response ∨ a.stop = some .privateKey ∨ a.stop = some .token

instance (a : RotationAttempt) : Decidable a.losesToken := by
  unfold RotationAttempt.losesToken
  infer_instance

section
variable {env : IdentityEnv} {s : RotationState} {a : RotationAttempt} {row : ExecutorRegistration}

/-- What a rotation leaves behind: the registration as the server stored it, and
the files as far as the executor wrote them. -/
theorem rotate_run (enrolled : Enrolled env s row) (fresh : NewToken env s a) :
    ∃ f fingerprint, Noted f ∧ env.publicKeyFingerprint (env.publicKey a.candidate) = .ok fingerprint ∧
      (rotate env a s).2.plane.executors = s.plane.executors.update row.id
        (if a.stop = some .request ∨ a.stop = some .commit then f
          else ExecutorRegistration.rotated (env.publicKey a.candidate) fingerprint
            (tokenHash env.toEnv "executor-auth" a.authToken) ∘ f) ∧
      (rotate env a s).2.store.token =
        (if a.stop = some .request ∨ a.stop = some .commit ∨ a.losesToken then s.store.token else a.authToken) ∧
      (¬a.losesToken → (rotate env a s).2.store.privateKey =
        (if a.stop = some .request ∨ a.stop = some .commit then s.store.privateKey else a.candidate)) := by
  obtain ⟨fingerprint, printed⟩ := env.printed a.candidate
  obtain ⟨f, noted, served⟩ := rotateRoute_run a.supply a.stop enrolled.unique enrolled.has enrolled.inUse
    printed fresh.2
  obtain ⟨candidate, supply, stop⟩ := a
  have filled : supply.tokens 0 ≠ "" := fresh.1
  unfold rotate RotationAttempt.losesToken RotationAttempt.authToken
  dsimp only at served printed ⊢
  rw [printed]
  by_cases lost : stop = some .request
  · have unchanged : s.plane.executors.update row.id id = s.plane.executors := update_of_same fun _ => rfl
    refine ⟨id, fingerprint, .inl rfl, rfl, ?_⟩
    simp [lost, passes, writeStore, Tx.bind_run, unchanged]
  · refine ⟨f, fingerprint, noted, rfl, ?_⟩
    obtain ⟨answered, stored⟩ := Prod.mk.inj served
    cases stop with
    | none => simp_all [passes, writeStore, onPlane, Tx.bind_run, request]
    | some point =>
      cases point with
      | request => exact absurd rfl lost
      | _ => simp_all [passes, writeStore, onPlane, Tx.bind_run, request]

variable {d : Db} {g : ExecutorRegistration → ExecutorRegistration} {other : ExecutorRegistration}

theorem mem_changed {table : Table ExecutorRegistration} (member : row ∈ d.executors.rows)
    (same : table = d.executors.update row.id g) (keeps : ∀ other, (g other).id = other.id) :
    other ∈ table.rows ↔ (other ∈ d.executors.rows ∧ other.id ≠ row.id) ∨ other = g row := by
  have found : d.executors.find row.id = some row := find_of_mem member
  rw [same, mem_update_iff, found]
  constructor
  · rintro (old | ⟨before, held, rfl⟩)
    · exact .inl old
    · cases held
      exact .inr (rewriteRow_of_keeps (keeps row))
  · rintro (old | rfl)
    · exact .inl old
    · exact .inr ⟨row, rfl, (rewriteRow_of_keeps (keeps row)).symm⟩

theorem tokensUnique_changed {e : Db} (unique : TokensUnique d) (member : row ∈ d.executors.rows)
    (same : e.executors = d.executors.update row.id g) (keeps : ∀ other, (g other).id = other.id)
    (other : ∀ old ∈ d.executors.rows, old.id ≠ row.id → old.authTokenHash ≠ (g row).authTokenHash) :
    TokensUnique e := by
  intro a inA b inB equal
  rcases (mem_changed member same keeps).mp inA with ⟨oldA, awayA⟩ | rfl
  · rcases (mem_changed member same keeps).mp inB with ⟨oldB, awayB⟩ | rfl
    · exact unique a oldA b oldB equal
    · exact absurd equal (other a oldA awayA)
  · rcases (mem_changed member same keeps).mp inB with ⟨oldB, awayB⟩ | rfl
    · exact absurd equal.symm (other b oldB awayB)
    · rfl

section
variable (enrolled : Enrolled env s row) (fresh : NewToken env s a)
include enrolled fresh

theorem rotate_tokens (member : other ∈ (rotate env a s).2.plane.executors.rows) :
    (∃ old ∈ s.plane.executors.rows, other.authTokenHash = old.authTokenHash) ∨
      other.authTokenHash = tokenHash env.toEnv "executor-auth" a.authToken := by
  obtain ⟨f, fingerprint, noted, -, executors, -⟩ := rotate_run enrolled fresh
  rw [executors] at member
  rcases mem_update member with inTable | ⟨old, found, rfl⟩
  · exact .inl ⟨other, inTable, rfl⟩
  · split
    · rw [rewriteRow_of_keeps (noted.keeps old).1, (noted.keeps old).2.2.2.1]
      exact .inl ⟨old, find_mem found, rfl⟩
    · rw [rewriteRow_of_keeps (noted.keeps old).1]
      exact .inr rfl

theorem rotate_enrolled (kept : ¬a.losesToken) :
    ∃ next, Enrolled env (rotate env a s).2 next := by
  obtain ⟨f, fingerprint, noted, printed, executors, token, key⟩ := rotate_run enrolled fresh
  have member := enrolled.has.1
  have privateKey := key kept
  by_cases before : a.stop = some .request ∨ a.stop = some .commit
  · have early : a.stop = some .request ∨ a.stop = some .commit ∨ a.losesToken := by
      rcases before with lost | uncommitted
      · exact .inl lost
      · exact .inr (.inl uncommitted)
    rw [if_pos before] at executors privateKey
    rw [if_pos early] at token
    obtain ⟨-, sameKey, samePrint, sameToken, inUse⟩ := noted.keeps row
    have keeps : ∀ other, (f other).id = other.id := fun other => (noted.keeps other).1
    refine ⟨f row, tokensUnique_changed enrolled.unique member executors keeps ?_, ⟨?_, ?_⟩, inUse enrolled.inUse,
      ?_, ?_⟩
    · intro old inTable away equal
      rw [sameToken] at equal
      exact away (congrArg ExecutorRegistration.id (enrolled.unique old inTable row member equal))
    · exact (mem_changed member executors keeps).mpr (.inr rfl)
    · rw [sameToken, token]
      exact enrolled.has.2
    · rw [sameKey, privateKey]
      exact enrolled.key
    · rw [samePrint, privateKey]
      exact enrolled.printed
  · have late : ¬(a.stop = some .request ∨ a.stop = some .commit ∨ a.losesToken) := by
      rintro (lost | uncommitted | loses)
      · exact before (.inl lost)
      · exact before (.inr uncommitted)
      · exact kept loses
    rw [if_neg before] at executors privateKey
    rw [if_neg late] at token
    have keeps : ∀ other, ((ExecutorRegistration.rotated (env.publicKey a.candidate) fingerprint
        (tokenHash env.toEnv "executor-auth" a.authToken) ∘ f) other).id = other.id :=
      fun other => (noted.keeps other).1
    refine ⟨_, tokensUnique_changed enrolled.unique member executors keeps ?_,
      ⟨(mem_changed member executors keeps).mpr (.inr rfl), ?_⟩, ?_, ?_, ?_⟩
    · exact fun old inTable _ => fresh.2 old inTable
    · rw [token]
      rfl
    · exact (noted.keeps row).2.2.2.2 enrolled.inUse
    · rw [privateKey]
      rfl
    · rw [privateKey]
      exact printed

theorem rotate_locks (loses : a.losesToken) :
    LockedOut env (rotate env a s).2 := by
  obtain ⟨f, fingerprint, noted, -, executors, token, -⟩ := rotate_run enrolled fresh
  have after : ¬(a.stop = some .request ∨ a.stop = some .commit) := by
    unfold RotationAttempt.losesToken at loses
    rintro (lost | uncommitted)
    · simp [lost] at loses
    · simp [uncommitted] at loses
  rw [if_neg after] at executors
  rw [if_pos (.inr (.inr loses))] at token
  have keeps : ∀ other, ((ExecutorRegistration.rotated (env.publicKey a.candidate) fingerprint
      (tokenHash env.toEnv "executor-auth" a.authToken) ∘ f) other).id = other.id :=
    fun other => (noted.keeps other).1
  intro other member equal
  rw [token] at equal
  rcases (mem_changed enrolled.has.1 executors keeps).mp member with ⟨old, away⟩ | rfl
  · have same := enrolled.unique other old row enrolled.has.1 (equal.trans enrolled.has.2.symm)
    exact away (congrArg ExecutorRegistration.id same)
  · exact fresh.2 row enrolled.has.1 (enrolled.has.2.trans equal.symm)

end

theorem LockedOut.rotate (locked : LockedOut env s) (a : RotationAttempt) :
    LockedOut env (SacmRuntime.rotate env a s).2 := by
  have refused : ∀ publicKey fingerprint, request (rotateRoute env a.stop s.store.token publicKey fingerprint) s.plane
      a.supply = (.error invalidToken, s.plane) := by
    intro publicKey fingerprint
    unfold request rotateRoute
    rw [Tx.bind_run_error _ (authenticateExecutor_refused a.supply locked)]
    rfl
  obtain ⟨fingerprint, printed⟩ := env.printed a.candidate
  have same : (SacmRuntime.rotate env a s).2.plane = s.plane ∧
      (SacmRuntime.rotate env a s).2.store.token = s.store.token := by
    unfold SacmRuntime.rotate
    by_cases lost : a.stop = some .request
    · simp [lost, printed, passes, writeStore, Tx.bind_run]
    · simp [lost, printed, passes, writeStore, Tx.bind_run, onPlane, refused]
  unfold LockedOut
  rw [same.1, same.2]
  exact locked

end

/-- The stored token authenticates as the registration. -/
def Authenticated (env : IdentityEnv) (s : RotationState) (executor : ExecutorRegistration) : Prop :=
  ∃ supply t, authenticateExecutor env s.store.token (start s.plane supply) = (.ok executor, t)

/-- The stored token authenticates, and the stored private key matches the registered public key. -/
def Identified (env : IdentityEnv) (s : RotationState) : Prop :=
  ∃ executor, Authenticated env s executor ∧ executor.publicSigningKey = env.publicKey s.store.privateKey

/-- The executor is identified, or is after it ran `rotate` again without a new enrollment. -/
def Recoverable (env : IdentityEnv) (s : RotationState) : Prop :=
  Identified env s ∨ ∃ again, (∀ a ∈ again, a.stop = none) ∧ Identified env (afterAttempts env s again)

/-- Where the token is accepted, a result signed with the stored key passes the
two checks of its signature. -/
def ResultsAccepted (env : IdentityEnv) (s : RotationState) : Prop :=
  ∀ executor, Authenticated env s executor → ∀ result,
    env.publicKeyFingerprint (env.publicKey s.store.privateKey) = .ok executor.signingKeyFingerprint ∧
      env.verifyEd25519 executor.publicSigningKey result (env.sign s.store.privateKey result) = .ok ()

/-- After each of the attempts the executor can be recovered, and its results are accepted. -/
def KeepsIdentity (env : IdentityEnv) (s : RotationState) (attempts : List RotationAttempt) : Prop :=
  ∀ n, Recoverable env (afterAttempts env s (attempts.take n)) ∧
    ResultsAccepted env (afterAttempts env s (attempts.take n))

structure NewTokens (env : IdentityEnv) (s : RotationState) (attempts : List RotationAttempt) : Prop where
  fresh : ∀ a ∈ attempts, NewToken env s a
  distinct : (attempts.map fun a => tokenHash env.toEnv "executor-auth" a.authToken).Nodup

section
variable {env : IdentityEnv} {s : RotationState} {row : ExecutorRegistration} {attempts : List RotationAttempt}

theorem Enrolled.identified (enrolled : Enrolled env s row) : Identified env s := by
  let supply : Supply := ⟨fun _ => 0, fun _ => "", fun _ => ""⟩
  obtain ⟨f, clock, noted, ran⟩ := authenticateExecutor_run supply enrolled.unique enrolled.has enrolled.inUse
  refine ⟨f row, ⟨supply, _, ran⟩, ?_⟩
  rw [(noted.keeps row).2.1]
  exact enrolled.key

theorem Enrolled.resultsAccepted (enrolled : Enrolled env s row) : ResultsAccepted env s := by
  rintro executor ⟨supply, t, ran⟩ result
  obtain ⟨other, f, has, inUse, noted, rfl⟩ := authenticateExecutor_ok ran
  have same := enrolled.unique other has.1 row enrolled.has.1 (has.2.trans enrolled.has.2.symm)
  subst same
  obtain ⟨-, sameKey, samePrint, -⟩ := noted.keeps other
  rw [sameKey, samePrint, enrolled.key]
  exact ⟨enrolled.printed, env.verified _ _⟩

theorem LockedOut.unauthenticated (locked : LockedOut env s) (executor : ExecutorRegistration) :
    ¬Authenticated env s executor := by
  rintro ⟨supply, t, ran⟩
  obtain ⟨row, f, has, -⟩ := authenticateExecutor_ok ran
  exact locked row has.1 has.2

theorem LockedOut.stays (locked : LockedOut env s) (attempts : List RotationAttempt) :
    LockedOut env (afterAttempts env s attempts) := by
  unfold afterAttempts
  induction attempts generalizing s with
  | nil => exact locked
  | cons a rest ih => exact ih (locked.rotate a)

theorem LockedOut.unrecoverable (locked : LockedOut env s) : ¬Recoverable env s := by
  rintro (⟨executor, authenticated, -⟩ | ⟨again, -, executor, authenticated, -⟩)
  · exact locked.unauthenticated executor authenticated
  · exact (locked.stays again).unauthenticated executor authenticated

theorem NewTokens.after {a : RotationAttempt} {rest : List RotationAttempt} (enrolled : Enrolled env s row)
    (fresh : NewTokens env s (a :: rest)) : NewTokens env (rotate env a s).2 rest := by
  have first := fresh.fresh a List.mem_cons_self
  obtain ⟨apart, distinct⟩ := List.nodup_cons.mp fresh.distinct
  refine ⟨fun later member => ?_, distinct⟩
  obtain ⟨filled, unseen⟩ := fresh.fresh later (List.mem_cons_of_mem _ member)
  refine ⟨filled, fun other inTable equal => ?_⟩
  rcases rotate_tokens enrolled first inTable with ⟨old, before, same⟩ | drawn
  · exact unseen old before (same.symm.trans equal)
  · exact apart (List.mem_map.mpr ⟨later, member, equal.symm.trans drawn⟩)

theorem afterAttempts_cases (enrolled : Enrolled env s row) (fresh : NewTokens env s attempts) :
    ((∀ a ∈ attempts, ¬a.losesToken) ∧ ∃ next, Enrolled env (afterAttempts env s attempts) next) ∨
      ((∃ a ∈ attempts, a.losesToken) ∧ LockedOut env (afterAttempts env s attempts)) := by
  induction attempts generalizing s row with
  | nil => exact .inl ⟨by simp, row, enrolled⟩
  | cons a rest ih =>
    have first := fresh.fresh a List.mem_cons_self
    by_cases loses : a.losesToken
    · exact .inr ⟨⟨a, List.mem_cons_self, loses⟩, (rotate_locks enrolled first loses).stays rest⟩
    · obtain ⟨next, stays⟩ := rotate_enrolled enrolled first loses
      rcases ih stays (fresh.after enrolled) with ⟨kept, still⟩ | ⟨⟨later, member, lost⟩, locked⟩
      · refine .inl ⟨fun other member => ?_, still⟩
        rcases List.mem_cons.mp member with rfl | inRest
        · exact loses
        · exact kept other inRest
      · exact .inr ⟨⟨later, List.mem_cons_of_mem _ member, lost⟩, locked⟩

theorem NewTokens.take (fresh : NewTokens env s attempts) (n : Nat) : NewTokens env s (attempts.take n) :=
  ⟨fun a member => fresh.fresh a (List.mem_of_mem_take member),
    (List.take_sublist n attempts).map _ |>.nodup fresh.distinct⟩

/-- Wherever the attempts stop, a result signed with the stored key is accepted
while the stored token is. -/
theorem results_accepted (enrolled : Enrolled env s row) (fresh : NewTokens env s attempts) :
    ResultsAccepted env (afterAttempts env s attempts) := by
  rcases afterAttempts_cases enrolled fresh with ⟨-, next, stays⟩ | ⟨-, locked⟩
  · exact stays.resultsAccepted
  · exact fun executor authenticated => absurd authenticated (locked.unauthenticated executor)

/-- Attempts to rotate keep an enrolled executor its identity exactly when none
of them stops after the commit of the server and before the executor has
written its new token. -/
theorem rotation_keeps_identity_iff (enrolled : Enrolled env s row) (fresh : NewTokens env s attempts) :
    KeepsIdentity env s attempts ↔ ∀ a ∈ attempts, ¬a.losesToken := by
  constructor
  · intro keeps
    rcases afterAttempts_cases enrolled fresh with ⟨kept, -⟩ | ⟨-, locked⟩
    · exact kept
    · have last := (keeps attempts.length).1
      rw [List.take_length] at last
      exact absurd last locked.unrecoverable
  · intro kept n
    refine ⟨?_, results_accepted enrolled (fresh.take n)⟩
    rcases afterAttempts_cases enrolled (fresh.take n) with ⟨-, next, stays⟩ | ⟨⟨a, member, loses⟩, -⟩
    · exact .inl stays.identified
    · exact absurd loses (kept a (List.mem_of_mem_take member))

end

namespace Sample

/-- Keys that are their own public half, and sign by naming themselves. -/
def identityEnv : IdentityEnv where
  toEnv := { env with verifyEd25519 := fun key _ signature => if signature = key then .ok () else .error "" }
  offlineSeconds := 300
  publicKeyFingerprint := .ok
  publicKey := id
  sign key _ := key
  printed key := ⟨key, rfl⟩
  verified key value := by simp

def enrolledState : RotationState where
  plane := { executors := .ofRows [{ executor with
    publicSigningKey := "key", signingKeyFingerprint := "key",
    authTokenHash := tokenHash env "executor-auth" "token" }] }
  store := ⟨"key", "token", none, none⟩

def rotating (stop : Option RotationPoint) :
    RotationAttempt := ⟨"next key", { supply with tokens := fun _ => "next token" }, stop⟩

theorem enrolledState_enrolled : Enrolled identityEnv enrolledState { executor with
    publicSigningKey := "key", signingKeyFingerprint := "key",
    authTokenHash := tokenHash env "executor-auth" "token" } where
  unique a inA b inB _ := (List.mem_singleton.mp inA).trans (List.mem_singleton.mp inB).symm
  has := ⟨List.mem_singleton.mpr rfl, rfl⟩
  inUse := by decide
  key := rfl
  printed := rfl

theorem rotating_new (stop : Option RotationPoint) : NewTokens identityEnv enrolledState [rotating stop] where
  fresh a member := by
    cases List.mem_singleton.mp member
    have drawn : (rotating stop).authToken = "next token" := rfl
    rw [NewToken, drawn]
    refine ⟨by decide, fun row inTable => ?_⟩
    have only : row ∈ [_] := inTable
    cases List.mem_singleton.mp only
    decide +kernel
  distinct := List.nodup_singleton _

end Sample

open Sample in
/-- A rotation that is not interrupted keeps the identity. -/
theorem rotation_keeps_identity_sample : KeepsIdentity identityEnv enrolledState [rotating none] := by
  refine (rotation_keeps_identity_iff enrolledState_enrolled (rotating_new none)).mpr fun a member => ?_
  cases List.mem_singleton.mp member
  decide

open Sample in
/-- A rotation whose answer is lost locks the executor out. -/
theorem lost_answer_locks_out : ¬KeepsIdentity identityEnv enrolledState [rotating (some .response)] := by
  intro keeps
  have fresh := (rotating_new (some .response)).fresh _ List.mem_cons_self
  have locked := rotate_locks enrolledState_enrolled fresh (by decide)
  exact locked.unrecoverable (keeps 1).1

end SacmRuntime
