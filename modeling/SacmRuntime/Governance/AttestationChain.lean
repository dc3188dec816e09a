import SacmRuntime.Lib.JsonTail
import SacmRuntime.Lib.LatestLink
import SacmRuntime.Lib.ScopedCheck
import SacmRuntime.Governance.SupplyChain
import SacmRuntime.Runtime.HonestEvidence

namespace SacmRuntime
open Session EvidenceService SupplyChainService

/-- An Ed25519 key as an ideal signature has it: its public half accepts what
it signed and rejects the rest with one message, and a signature it made stands
for one text only. -/
structure IdealKey {Bytes : Type} (env : EvidenceEnv Bytes) (key : PrivateKey) : Prop where
  fingerprint : env.fingerprint key.publicPem = .ok key.fingerprint
  accepts : ∀ text, env.checkEd25519 key.publicPem (key.sign text) text = .ok ()
  rejects : ∀ signature text e, env.checkEd25519 key.publicPem signature text = .error e →
    e = .valueError "Ed25519 signature is invalid."
  binds : ∀ text other, env.checkEd25519 key.publicPem (key.sign text) other = .ok () → other = text

/-- Attestations as entries that name the newest of their run before them. -/
def attestationLink : LatestLink SupplyChainAttestation Nat String where
  key := SupplyChainAttestation.createdAt
  previous := SupplyChainAttestation.previousAttestationHash
  hash := SupplyChainAttestation.attestationHash

/-- A row that carries a key of the run and a statement. -/
structure SignedWith {Bytes : Type} (env : EvidenceEnv Bytes) (key : PrivateKey) (row : SupplyChainAttestation) :
    Prop where
  ideal : IdealKey env key
  algorithm : row.signatureAlgorithm = "ed25519"
  publicKey : row.publicKey = some key.publicPem
  fingerprint : row.publicKeyFingerprint = some key.fingerprint
  statement : ∃ members, row.statement = .obj members

/-- A row as `attest` makes it. -/
structure Attested {Bytes : Type} (env : EvidenceEnv Bytes) (row : SupplyChainAttestation) : Prop where
  signed : ∃ key, SignedWith env key row ∧ row.signature = key.sign (row.statement.text false)
  subject : row.statement.get "subject" = .arr [subjectDocument row.subjectName row.subjectDigest]
  hashed : EvidenceService.canonicalSha256 env row.statement = row.statementHash
  linked : EvidenceService.canonicalSha256 env
    (linkDocument row.statementHash row.previousAttestationHash row.signature) =
    row.attestationHash

/-- The public key of the row accepts its signature of the statement. -/
def SignatureAccepted {Bytes : Type} (env : EvidenceEnv Bytes) (row : SupplyChainAttestation) : Prop :=
  ∃ publicPem, row.publicKey = some publicPem ∧
    env.checkEd25519 publicPem row.signature (row.statement.text false) = .ok ()

/-- The checks of `verify_attestation` all pass. -/
structure Clean {Bytes : Type} (env : EvidenceEnv Bytes) (d : SupplyChainDb) (row : SupplyChainAttestation) : Prop where
  hashed : EvidenceService.canonicalSha256 env row.statement = row.statementHash
  subject : subjectListed row (row.statement.get "subject") = true
  signature : SignatureAccepted env row
  follows : row.previousAttestationHash = (predecessorOf d row).map SupplyChainAttestation.attestationHash
  linked : EvidenceService.canonicalSha256 env
    (linkDocument row.statementHash row.previousAttestationHash row.signature) =
    row.attestationHash

/-- The predecessors as `verify_chain` checks them. -/
def attestationCheck : ScopedCheck SupplyChainAttestation Unit String where
  scope _ := ()
  fits before row := row.previousAttestationHash == before
  mark := SupplyChainAttestation.attestationHash

section Verification
variable {Bytes : Type} {env : EvidenceEnv Bytes} {hmacKey : Except Error (Option String)} {d : SupplyChainDb}
  {key : PrivateKey} {row : SupplyChainAttestation}

theorem verifySigned_returns (signed : SignedWith env key row) :
    ∃ result, verifySignedStatement env hmacKey (signedDocument row) = .ok result ∧
      (result.errors = [] ↔ SignatureAccepted env row) := by
  obtain ⟨ideal, algorithm, publicKey, fingerprint, members, statement⟩ := signed
  have sole : SignatureAccepted env row ↔
      env.checkEd25519 key.publicPem row.signature (row.statement.text false) = .ok () := by
    unfold SignatureAccepted
    rw [publicKey]
    simp
  have accepted : signatureAccepted env hmacKey (signedDocument row) row.statement row.signature =
      env.checkEd25519 key.publicPem row.signature (row.statement.text false) := by
    have first : (signedDocument row).get "algorithm" = .str "ed25519" := by
      simp [signedDocument, Json.get, algorithm]
    have pem : (signedDocument row).get "public_key" = .str key.publicPem := by
      simp [signedDocument, Json.get, publicKey, Json.ofOption]
    have print : (signedDocument row).get "public_key_fingerprint" = .str key.fingerprint := by
      simp [signedDocument, Json.get, fingerprint, Json.ofOption]
    unfold signatureAccepted
    rw [if_pos first, pem]
    simp [ideal.fingerprint, print, bind, Except.bind]
  unfold verifySignedStatement
  have document : (signedDocument row).get "statement" = .obj members := by
    simp [signedDocument, Json.get, statement]
  have signature : (signedDocument row).get "signature" = .str row.signature := by simp [signedDocument, Json.get]
  have algorithmField : (signedDocument row).get "algorithm" = .str row.signatureAlgorithm := by
    simp [signedDocument, Json.get]
  have keyField : (signedDocument row).get "key_id" = .ofOption row.signatureKeyId := by
    simp [signedDocument, Json.get]
  have printField : (signedDocument row).get "public_key_fingerprint" = .ofOption row.publicKeyFingerprint := by
    simp [signedDocument, Json.get]
  rw [statement] at accepted
  rw [sole, document, signature, algorithmField, keyField, printField, textField_ofOption, textField_ofOption]
  dsimp only
  rw [accepted, statement]
  cases checked : env.checkEd25519 key.publicPem row.signature ((Json.obj members).text false) with
  | ok _ => exact ⟨_, rfl, by simp⟩
  | error e =>
    rw [ideal.rejects _ _ _ checked]
    exact ⟨_, rfl, by simp⟩

theorem subjectsOf_obj (statement : ∃ members, row.statement = .obj members) :
    subjectsOf row = .ok (row.statement.get "subject") := by
  obtain ⟨members, statement⟩ := statement
  unfold subjectsOf
  rw [statement]

theorem verifyAttestation_returns (signed : SignedWith env key row) :
    ∃ result, verifyAttestation env hmacKey d row = .ok result ∧ (result.errors = [] ↔ Clean env d row) ∧
      (result.status = .valid ↔ result.errors = []) := by
  have checked : ∃ result, verifySignedStatement env hmacKey (signedDocument row) = .ok result ∧
      (result.errors = [] ↔ SignatureAccepted env row) := verifySigned_returns signed
  obtain ⟨signature, ran, accepts⟩ := checked
  unfold verifyAttestation
  rw [subjectsOf_obj signed.statement, ran]
  refine ⟨_, rfl, ?_, ?_⟩
  · dsimp only
    simp only [List.append_eq_nil_iff, accepts, ite_eq_left_iff, ite_eq_right_iff, reduceCtorEq, imp_false, not_not]
    constructor
    · rintro ⟨⟨⟨⟨hashed, subject⟩, signature⟩, follows⟩, linked⟩
      exact ⟨hashed, subject, signature, follows, linked⟩
    · rintro ⟨hashed, subject, signature, follows, linked⟩
      exact ⟨⟨⟨⟨hashed, subject⟩, signature⟩, follows⟩, linked⟩
  · dsimp only
    split <;> simp_all

theorem chainErrors_returns {before : Option String} {rows : List SupplyChainAttestation}
    (signed : ∀ row ∈ rows, ∃ key, SignedWith env key row) :
    ∃ errors, chainErrors env hmacKey d before rows = .ok errors ∧
      (errors = [] ↔ attestationCheck.Along before rows ∧ ∀ row ∈ rows, Clean env d row) := by
  induction rows generalizing before with
  | nil => exact ⟨[], rfl, ⟨fun _ => ⟨trivial, fun row member => absurd member List.not_mem_nil⟩, fun _ => rfl⟩⟩
  | cons row rest ih =>
    obtain ⟨key, signedRow⟩ := signed row List.mem_cons_self
    obtain ⟨later, ranRest, cleanRest⟩ : ∃ errors,
        chainErrors env hmacKey d (some row.attestationHash) rest = .ok errors ∧
          (errors = [] ↔ attestationCheck.Along (some row.attestationHash) rest ∧ ∀ row ∈ rest, Clean env d row) :=
      ih fun other member => signed other (List.mem_cons_of_mem _ member)
    obtain ⟨result, ran, clean, -⟩ : ∃ result, verifyAttestation env hmacKey d row = .ok result ∧
        (result.errors = [] ↔ Clean env d row) ∧ (result.status = .valid ↔ result.errors = []) :=
      verifyAttestation_returns signedRow
    unfold chainErrors
    rw [ran]
    dsimp only [bind, Except.bind]
    rw [ranRest]
    refine ⟨_, rfl, ?_⟩
    have fits : attestationCheck.fits before row = true ↔ row.previousAttestationHash = before := beq_iff_eq
    simp only [List.append_eq_nil_iff, List.map_eq_nil_iff, clean, cleanRest, ScopedCheck.Along, fits,
      List.forall_mem_cons, ite_eq_right_iff, reduceCtorEq, imp_false, not_not]
    constructor
    · rintro ⟨⟨follows, cleanRow⟩, along, cleanLater⟩
      exact ⟨⟨follows, along⟩, cleanRow, cleanLater⟩
    · rintro ⟨⟨follows, along⟩, cleanRow, cleanLater⟩
      exact ⟨⟨follows, cleanRow⟩, along, cleanLater⟩

/-- The verdict of `verify_chain` on rows that carry keys. -/
theorem verifyChain_returns {runId : String} (signed : ∀ row ∈ attestationsOf d runId, ∃ key, SignedWith env key row) :
    ∃ result, verifyChain env hmacKey d runId = .ok result ∧
      (result.errors = [] ↔ attestationCheck.Along none (attestationOrder (attestationsOf d runId)) ∧
        ∀ row ∈ attestationsOf d runId, Clean env d row) ∧
      (result.status = .valid ↔ attestationsOf d runId ≠ [] ∧ result.errors = []) ∧
      (result.status = .invalid ↔ attestationsOf d runId ≠ [] ∧ result.errors ≠ []) := by
  have among : ∀ row, row ∈ attestationOrder (attestationsOf d runId) ↔ row ∈ attestationsOf d runId :=
    fun row => List.mem_insertionSort _
  have empty : attestationOrder (attestationsOf d runId) = [] ↔ attestationsOf d runId = [] := by
    simp only [List.eq_nil_iff_forall_not_mem, among]
  have nonempty : attestationsOf d runId ≠ [] ↔ attestationOrder (attestationsOf d runId) ≠ [] := not_congr empty.symm
  obtain ⟨errors, ran, clean⟩ : ∃ errors, chainErrors env hmacKey d none (attestationOrder (attestationsOf d runId)) =
      .ok errors ∧ (errors = [] ↔ attestationCheck.Along none (attestationOrder (attestationsOf d runId)) ∧
        ∀ row ∈ attestationOrder (attestationsOf d runId), Clean env d row) :=
    chainErrors_returns fun row member => signed row ((among row).mp member)
  unfold verifyChain
  dsimp only
  rw [ran]
  refine ⟨_, rfl, ?_, ?_, ?_⟩
  · dsimp only
    rw [clean]
    simp only [among]
  all_goals
    dsimp only
    rw [nonempty]
    by_cases none_ : attestationOrder (attestationsOf d runId) = []
    · simp [none_]
    · by_cases good : errors = [] <;> simp [none_, good]

end Verification

/-- The attestations of a run as calls of `attest` at times in order leave them. -/
structure AttestationLog {Bytes : Type} (env : EvidenceEnv Bytes) (d : SupplyChainDb) (runId : String) : Prop where
  grown : attestationLink.Grown (attestationsOf d runId)
  ordered : (attestationsOf d runId).Pairwise fun a b => a.createdAt ≤ b.createdAt
  attested : ∀ row ∈ attestationsOf d runId, Attested env row

section Log
variable {Bytes : Type} {env : EvidenceEnv Bytes} {hmacKey : Except Error (Option String)} {d : SupplyChainDb}
  {runId : String} {row : SupplyChainAttestation}

open Json in
theorem previous_of_link {statementHash otherHash signature otherSignature : String} {a b : Option String}
    (digits : ∀ h ∈ a, ∀ c ∈ h.toList, c ∈ "0123456789abcdef".toList)
    (otherDigits : ∀ h ∈ b, ∀ c ∈ h.toList, c ∈ "0123456789abcdef".toList)
    (same : (linkDocument statementHash a signature).text false = (linkDocument otherHash b otherSignature).text
      false) :
    a = b := by
  have sorted : ∀ x y z :
    List Char, sortByKey [("statement_hash", x), ("previous_attestation_hash", y), ("signature", z)] =
      [("previous_attestation_hash", y), ("signature", z), ("statement_hash", x)] := by
    intro x y z
    simp [sortByKey, List.insertionSort, List.orderedInsert]
  have shape : ∀ (h : String) (p : Option String) (s : String), dumps false (linkDocument h p s) =
      ((('\x7b' :: quote false "previous_attestation_hash".toList) ++ ':' :: dumps false (ofOption p)) ++
        ',' :: quote false "signature".toList ++ ':' :: quote false s.toList) ++
        ',' :: quote false "statement_hash".toList ++ ':' :: quote false h.toList ++ ['\x7d'] := by
    intro h p s
    simp only [linkDocument, dumps, dumpsFields, sorted, List.map_cons, List.map_nil, commaJoin, member,
      List.append_assoc, List.cons_append]
  have whole := String.ofList_injective same
  rw [shape, shape] at whole
  have statements := (quote_tail (List.append_cancel_right whole)).1
  have signatures := (quote_tail (List.append_cancel_right statements)).1
  exact ofOption_digits digits otherDigits (ofOption_tail (List.append_cancel_right signatures)).2

theorem AttestationLog.separated (digest : Digest fun text => env.sha256 (env.encode text))
    (log : AttestationLog env d runId) : attestationLink.Separated (attestationsOf d runId) := by
  have digits : ∀ row ∈ attestationsOf d runId, ∀ h ∈ row.previousAttestationHash,
      ∀ c ∈ h.toList, c ∈ "0123456789abcdef".toList := by
    intro row member h names
    obtain ⟨other, among, rfl⟩ := log.grown.named member names
    change ∀ c ∈ other.attestationHash.toList, _
    rw [← (log.attested other among).linked]
    exact digest.digits _
  intro a inA b inB same
  have hashes : a.attestationHash = b.attestationHash := same
  rw [← (log.attested a inA).linked, ← (log.attested b inB).linked] at hashes
  exact previous_of_link (digits a inA) (digits b inB) (digest.injective hashes)

theorem subjectListed_iff {name digest : String} :
    subjectListed row (.arr [subjectDocument name digest]) = true ↔ name = row.subjectName ∧
      digest = row.subjectDigest := by
  simp [subjectListed, subjectDocument, Json.same_iff, Json.sortKeys, Json.sortFields, Json.sortByKey,
    List.insertionSort, List.orderedInsert]
  exact and_comm

theorem Attested.clean (attested : Attested env row)
    (follows : row.previousAttestationHash = (predecessorOf d row).map SupplyChainAttestation.attestationHash) :
    Clean env d row := by
  obtain ⟨key, signed, signature⟩ := attested.signed
  refine ⟨attested.hashed, ?_, ⟨key.publicPem, signed.publicKey, ?_⟩, follows, attested.linked⟩
  · rw [attested.subject, subjectListed_iff]
    exact ⟨rfl, rfl⟩
  · rw [signature]
    exact signed.ideal.accepts _

variable {rows : List SupplyChainAttestation}

theorem along_of_ascending (grown : attestationLink.Grown rows) (ascending : attestationLink.Ascending rows) :
    attestationCheck.Along none rows := by
  induction grown with
  | start => trivial
  | @next init entry _ link ih =>
    refine (ih ascending.init).concat (beq_iff_eq.mpr ?_)
    change attestationLink.previous entry = _
    rw [link, ascending.init.argmax_eq, Option.or_none]
    rfl

theorem attestationOrder_eq (ascending : attestationLink.Ascending rows) :
    attestationOrder rows = rows := by
  refine List.Pairwise.insertionSort_eq (ascending.imp fun {a b} below => ?_)
  exact (Prod.Lex.toLex_lt_toLex.mpr (.inl below)).le

end Log

end SacmRuntime
