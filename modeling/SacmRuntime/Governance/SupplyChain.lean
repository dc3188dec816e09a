import Mathlib.Data.Prod.Lex
import SacmRuntime.Lib.JsonSort
import SacmRuntime.Governance.Tenancy
import SacmRuntime.Runtime.EvidenceService

namespace SacmRuntime
open Session EvidenceService

/-- A row another service stores for a run, as the links of an attestation read it. -/
structure SupplyChainRecord where
  id : String
  runId : String

structure SupplyChainArtifact where
  id : String
  taskId : String

structure SupplyChainProduct where
  id : String
  runId : String
  name : String
  digest : String

/-- A row of `supply_chain_attestations`, without the verification status that
no check reads. -/
structure SupplyChainAttestation where
  id : String
  schemaVersion : String
  runId : String
  recordId : Option String
  artifactId : Option String
  imageId : Option String
  releaseId : Option String
  subjectName : String
  subjectDigest : String
  predicateType : String
  statement : Json
  statementHash : String
  previousAttestationHash : Option String
  attestationHash : String
  signatureAlgorithm : String
  signatureKeyId : Option String
  publicKeyFingerprint : Option String
  publicKey : Option String
  signature : String
  createdAt : Nat

instance : Keyed SupplyChainRecord := ⟨SupplyChainRecord.id⟩
instance : Keyed SupplyChainArtifact := ⟨SupplyChainArtifact.id⟩
instance : Keyed SupplyChainProduct := ⟨SupplyChainProduct.id⟩
instance : Keyed SupplyChainAttestation := ⟨SupplyChainAttestation.id⟩

/-- The tables the supply-chain service reads and writes. -/
structure SupplyChainDb where
  runs : Table Run := .empty
  records : Table SupplyChainRecord := .empty
  artifacts : Table SupplyChainArtifact := .empty
  images : Table SupplyChainProduct := .empty
  releases : Table SupplyChainProduct := .empty
  attestations : Table SupplyChainAttestation := .empty

abbrev SupplyChainMethod (α : Type) : Type := Tx (Session SupplyChainDb) Error α

structure SupplyChainSubject where
  name : String
  digest : String

structure AttestationCreate where
  schemaVersion : String := "supply-chain-attestation/v1"
  subject : SupplyChainSubject
  predicateType : String
  predicate : Json
  recordId : Option String := none
  artifactId : Option String := none
  imageId : Option String := none
  releaseId : Option String := none
  keyId : Option String := none

/-- `normalize_sha256`. -/
def normalizeSha256 (value : String) : Except Error String :=
  let scheme := "sha256:".toList
  let bare := if scheme.isPrefixOf value.toList then value.toList.drop scheme.length else value.toList
  let digest := bare.flatMap lowerChar
  if digest.length ≠ 64 ∨ digest.any (· ∉ "0123456789abcdef".toList) then
    .error (.valueError "A valid SHA-256 digest is required.")
  else .ok (String.ofList digest)

namespace SupplyChainService

section
variable {Bytes : Type} (env : EvidenceEnv Bytes)

/-- `sign_statement`, with the key identifier `attest` passes on. -/
def signStatement (signing : Signing) (statement : Json) (keyId : Option String) : Except Error SignedStatement := do
  let signed ← EvidenceService.signStatement env signing statement
  return { signed with keyId := (present keyId).getD signed.keyId }

def subjectDocument (name digest : String) : Json :=
  .obj [("name", .str name), ("digest", .obj [("sha256", .str digest)])]

/-- The statement `attest` signs. -/
def statementOf (p : AttestationCreate) (digest : String) : Json :=
  .obj [("_type", .str "https://in-toto.io/Statement/v1"), ("subject", .arr [subjectDocument p.subject.name digest]),
    ("predicateType", .str p.predicateType), ("predicate", p.predicate)]

def linkDocument (statementHash : String) (previous : Option String) (signature : String) : Json :=
  .obj [("statement_hash", .str statementHash), ("previous_attestation_hash", .ofOption previous),
    ("signature", .str signature)]

/-- The attestations of a run, in the order they were stored. -/
def attestationsOf (d : SupplyChainDb) (runId : String) : List SupplyChainAttestation :=
  d.attestations.rows.filter fun row => row.runId = runId

/-- `_validate_subject_link`. -/
def validateSubjectLink (d : SupplyChainDb) (run : Run) (name digest : String) (imageId releaseId : Option String) :
    Except Error Unit := do
  let normalized ← normalizeSha256 digest
  let matches_ (product : SupplyChainProduct) : Bool :=
    product.runId = run.id && product.name = name && product.digest = normalized
  match present imageId with
  | none => pure ()
  | some imageId =>
    if (d.images.find imageId).any matches_ then pure ()
    else .error (.valueError "Image subject identity does not match.")
  match present releaseId with
  | none => pure ()
  | some releaseId =>
    if (d.releases.find releaseId).any matches_ then pure ()
    else .error (.valueError "Release subject identity does not match.")

/-- `_validate_attestation_links`. -/
def validateAttestationLinks (d : SupplyChainDb) (run : Run) (p : AttestationCreate) : Except Error Unit := do
  match present p.recordId with
  | none => pure ()
  | some recordId =>
    if (d.records.find recordId).any fun record => record.runId = run.id then pure ()
    else .error (.valueError "Supply-chain record does not belong to the run.")
  match present p.artifactId with
  | none => pure ()
  | some artifactId =>
    if (d.artifacts.find artifactId).any fun artifact => artifact.taskId = run.taskId then pure ()
    else .error (.valueError "Artifact does not belong to the run.")
  validateSubjectLink d run p.subject.name p.subject.digest p.imageId p.releaseId

/-- The row `attest` adds after the given one. -/
def newAttestation (runId : String) (p : AttestationCreate) (digest : String) (previous : Option SupplyChainAttestation)
    (signed : SignedStatement) (id : String) (createdAt : Nat) : SupplyChainAttestation where
  id := id
  schemaVersion := p.schemaVersion
  runId := runId
  recordId := p.recordId
  artifactId := p.artifactId
  imageId := p.imageId
  releaseId := p.releaseId
  subjectName := p.subject.name
  subjectDigest := digest
  predicateType := p.predicateType
  statement := statementOf p digest
  statementHash := EvidenceService.canonicalSha256 env (statementOf p digest)
  previousAttestationHash := previous.map SupplyChainAttestation.attestationHash
  attestationHash :=
    EvidenceService.canonicalSha256 env (linkDocument (EvidenceService.canonicalSha256 env (statementOf p digest))
    (previous.map SupplyChainAttestation.attestationHash) signed.signature)
  signatureAlgorithm := signed.algorithm
  signatureKeyId := some signed.keyId
  publicKeyFingerprint := signed.publicKeyFingerprint
  publicKey := signed.publicKey
  signature := signed.signature
  createdAt := createdAt

/-- `attestation.statement.get("subject", [])`. -/
def subjectsOf (row : SupplyChainAttestation) : Except Error Json :=
  match row.statement with
  | .obj _ => .ok (row.statement.get "subject")
  | _ => .error (.attributeError "object has no attribute 'get'")

def subjectListed (row : SupplyChainAttestation) : Json → Bool
  | .arr subjects => subjects.any fun subject =>
      subject.sortKeys.same (subjectDocument row.subjectName row.subjectDigest).sortKeys
  | _ => false

/-- The newest attestation of the run from before the row. -/
def predecessorOf (d : SupplyChainDb) (row : SupplyChainAttestation) : Option SupplyChainAttestation :=
  ((attestationsOf d row.runId).filter fun other => other.createdAt < row.createdAt).argmax
    SupplyChainAttestation.createdAt

/-- The dictionary `verify_attestation` passes to `verify_signed_statement`. -/
def signedDocument (row : SupplyChainAttestation) : Json :=
  .obj [("statement", row.statement), ("algorithm", .str row.signatureAlgorithm),
    ("key_id", .ofOption row.signatureKeyId),
    ("public_key_fingerprint", .ofOption row.publicKeyFingerprint), ("public_key", .ofOption row.publicKey),
    ("signature", .str row.signature)]

/-- `verify_attestation`. -/
def verifyAttestation (hmacKey : Except Error (Option String)) (d : SupplyChainDb) (row : SupplyChainAttestation) :
    Except Error VerificationResultV1 := do
  let subject ← subjectsOf row
  let signature ← verifySignedStatement env hmacKey (signedDocument row)
  let linked := row.previousAttestationHash = (predecessorOf d row).map SupplyChainAttestation.attestationHash
  let hashed :=
    EvidenceService.canonicalSha256 env (linkDocument row.statementHash row.previousAttestationHash row.signature) =
    row.attestationHash
  let errors :=
    (if EvidenceService.canonicalSha256 env row.statement ≠ row.statementHash then ["Statement hash mismatch."]
      else []) ++
    (if subjectListed row subject then [] else ["Attestation subject identity mismatch."]) ++
    signature.errors ++
    (if linked then [] else ["Attestation chain predecessor mismatch."]) ++
    (if hashed then [] else ["Attestation chain hash mismatch."])
  return { status := if errors = [] then .valid else .invalid
           algorithm := some row.signatureAlgorithm
           keyId := row.signatureKeyId
           publicKeyFingerprint := row.publicKeyFingerprint
           chainValid := linked && hashed
           errors := errors }

/-- `attest`. The row stays when the verification at its end raises. -/
def attest (signing : Signing) (runId : String) (p : AttestationCreate) : SupplyChainMethod SupplyChainAttestation := do
  let found ← view fun d => d.runs.find runId
  let run ← Tx.expect (.valueError ("Run " ++ runId ++ " not found.")) found
  let linked ← view fun d => validateAttestationLinks d run p
  Tx.ofExcept linked
  let digest ← Tx.ofExcept (normalizeSha256 p.subject.digest)
  let previous ← view fun d => (attestationsOf d runId).argmax SupplyChainAttestation.createdAt
  let signed ← Tx.ofExcept (signStatement env signing (statementOf p digest) p.keyId)
  let id ← uuid4
  let createdAt ← utcnow
  let attestation := newAttestation env runId p digest previous signed id createdAt
  let inserted ← view fun d => d.attestations.insert? attestation
  let attestations ← Tx.expect (.integrityError "supply_chain_attestations.id") inserted
  modify fun d => { d with attestations := attestations }
  commit
  let verified ← view fun d => verifyAttestation env signing.hmacKey d attestation
  let _ ← Tx.ofExcept verified
  return attestation

/-- The loop of `verify_chain`. -/
def chainErrors (hmacKey : Except Error (Option String)) (d : SupplyChainDb) :
    Option String → List SupplyChainAttestation → Except Error (List String)
  | _, [] => .ok []
  | previousHash, row :: rest => do
    let result ← verifyAttestation env hmacKey d row
    let later ← chainErrors hmacKey d (some row.attestationHash) rest
    return (if row.previousAttestationHash ≠ previousHash then [row.id ++ ": predecessor mismatch"] else []) ++
      (result.errors.map fun error => row.id ++ ": " ++ error) ++ later

/-- The order `verify_chain` reads the attestations in. -/
def attestationOrder (rows : List SupplyChainAttestation) : List SupplyChainAttestation :=
  rows.insertionSort fun a b => toLex (a.createdAt, a.id) ≤ toLex (b.createdAt, b.id)

/-- `verify_chain`. -/
def verifyChain (hmacKey : Except Error (Option String)) (d : SupplyChainDb) (runId : String) :
    Except Error VerificationResultV1 := do
  let rows := attestationOrder (attestationsOf d runId)
  let errors ← chainErrors env hmacKey d none rows
  return { status := if rows ≠ [] ∧ errors = [] then .valid else if rows = [] then .unsigned else .invalid
           chainValid := errors = []
           errors := errors }

end

end SupplyChainService

end SacmRuntime
