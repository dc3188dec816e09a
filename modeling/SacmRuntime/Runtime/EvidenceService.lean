import Mathlib.Data.List.MinMax
import SacmRuntime.Runtime.Redaction
import SacmRuntime.Runtime.Rows

namespace SacmRuntime
namespace EvidenceService
open Redaction

inductive Verdict where
  | valid | invalid | unsigned
  deriving DecidableEq

structure VerificationResultV1 where
  status : Verdict
  algorithm : Option String := none
  keyId : Option String := none
  publicKeyFingerprint : Option String := none
  chainValid : Bool
  errors : List String := []

/-- A row of `evidence_packs`, without the columns about tenants and storage. -/
structure EvidencePack where
  id : String
  runId : String
  path : String
  manifestHash : String
  packHash : Option String
  previousPackHash : Option String
  signatureAlgorithm : Option String
  signatureKeyId : Option String
  publicKeyFingerprint : Option String
  publicKey : Option String
  signature : Option String
  verificationStatus : String
  createdAt : Nat
  deriving DecidableEq

abbrev Directory (Bytes : Type) := List (String × Bytes)

namespace Directory
variable {Bytes : Type}

def read (directory : Directory Bytes) (name : String) : Option Bytes :=
  (directory.find? fun file => file.1 == name).map Prod.snd

/-- Write a file, in the place of the one that has its name. -/
def write (name : String) (bytes : Bytes) : Directory Bytes → Directory Bytes
  | [] => [(name, bytes)]
  | file :: rest => if file.1 = name then (name, bytes) :: rest else file :: write name bytes rest

end Directory

/-- The evidence packs, and the directories below `SACM_EVIDENCE_ROOT`. -/
structure EvidenceDb (Bytes : Type) where
  packs : List EvidencePack
  storage : String → Directory Bytes

/-- How `json.loads` ends without a document. -/
inductive LoadsError where
  | decode
  | raised (e : Error)

/-- The private key of `SACM_EVIDENCE_SIGNING_PRIVATE_KEY_FILE`. -/
structure PrivateKey where
  sign : String → String
  publicPem : String
  fingerprint : String

/-- What the service uses of the language's library and of the cryptography package. -/
structure EvidenceEnv (Bytes : Type) where
  encode : String → Bytes
  readText : Bytes → Option String
  dumps : Json → String
  dumpsIndented : Json → String
  loads : String → Except LoadsError Json
  str : Json → String
  sameNumber : Json → Json → Bool
  isoformat : Nat → String
  sha256 : Bytes → String
  hmacSha256 : String → Bytes → String
  fingerprint : String → Except Error String
  checkEd25519 : String → String → String → Except Error Unit
  inRoot : String → Bool
  /-- What `is_file()` raises for a file of this name, as where the name is too long. -/
  statRaises : String → Option Error

structure Signing where
  privateKey : Option (Except Error PrivateKey)
  hmacConfigured : Bool
  hmacKey : Except Error (Option String)
  keyId : Option String

/-- A dictionary signed by `sign_statement`. -/
structure SignedStatement where
  statement : Json
  algorithm : String
  keyId : String
  publicKeyFingerprint : Option String
  publicKey : Option String
  signature : String

/-- The signed statement as it is written to `signature.sig`. -/
def SignedStatement.dump (signed : SignedStatement) : Json :=
  .obj [("schema_version", .str "signed-statement/v1"), ("statement", signed.statement),
    ("algorithm", .str signed.algorithm), ("key_id", .str signed.keyId),
    ("public_key_fingerprint", .ofOption signed.publicKeyFingerprint), ("public_key", .ofOption signed.publicKey),
    ("signature", .str signed.signature), ("signed_file", .str "run-manifest.json")]

inductive RecordedFile where
  | patchDiff | reviewReport | verificationResults | testResults | securityFindings | sbom | provenance
  deriving DecidableEq

def RecordedFile.name : RecordedFile → String
  | .patchDiff => "patch.diff"
  | .reviewReport => "review-report.json"
  | .verificationResults => "verification-results.json"
  | .testResults => "test-results.xml"
  | .securityFindings => "security-findings.sarif"
  | .sbom => "sbom.spdx.json"
  | .provenance => "provenance.intoto.jsonl"

/-- What `build` gathers about a run: the documents it writes, and the files of
the agents' records and of the artifacts. -/
structure RunContent (Bytes : Type) where
  manifest : List (String × Json)
  request : Json
  steps : Json
  events : List RuntimeEvent
  costs : Json
  recorded : List (RecordedFile × Bytes)
  provenance : Json → Json
  external : List (RecordedFile × Bytes)

mutual
/-- `a == b` for two documents; numbers are compared as the language does. -/
def equals (sameNumber : Json → Json → Bool) : Json → Json → Bool
  | .null, .null => true
  | .str a, .str b => a == b
  | .arr as, .arr bs => equalItems sameNumber as bs
  | .obj as, .obj bs => as.length == bs.length && equalFields sameNumber as bs
  | .bool a, b => sameNumber (.bool a) b
  | .int a, b => sameNumber (.int a) b
  | .float a, b => sameNumber (.float a) b
  | _, _ => false

def equalItems (sameNumber : Json → Json → Bool) : List Json → List Json → Bool
  | [], [] => true
  | a :: as, b :: bs => equals sameNumber a b && equalItems sameNumber as bs
  | _, _ => false

/-- Every member of the first object is one of the second. -/
def equalFields (sameNumber : Json → Json → Bool) : List (String × Json) → List (String × Json) → Bool
  | [], _ => true
  | (key, a) :: as, bs =>
    (((bs.find? fun field => field.1 == key).map Prod.snd).any fun b => equals sameNumber a b) &&
      equalFields sameNumber as bs
end

section
variable {Bytes : Type} (env : EvidenceEnv Bytes)

/-- `canonical_sha256`. -/
def canonicalSha256 (value : Json) : String := env.sha256 (env.encode (value.text false))

/-- `_write_json`. -/
def writeJson (rules : Rules) (name : String) (content : Json) (directory : Directory Bytes) : Directory Bytes :=
  directory.write name (env.encode (env.dumpsIndented (sanitize rules content)))

/-- A line of `events.jsonl`. -/
def eventLine (rules : Rules) (event : RuntimeEvent) : String :=
  env.dumps (.obj [("sequence", .int event.sequence), ("event_type", .str event.eventType), ("actor", .str event.actor),
    ("payload", sanitize rules event.payload), ("event_hash", .str event.eventHash),
    ("previous_event_hash", .ofOption event.previousEventHash),
    ("occurred_at", .str (env.isoformat event.occurredAt))]) ++ "\n"

/-- `_checksums`. -/
def checksums (directory : Directory Bytes) : String :=
  String.join (((directory.filter fun file => file.1 ≠ "checksums.sha256").insertionSort fun a b => a.1 ≤ b.1).map
    fun file => env.sha256 file.2 ++ "  " ++ file.1 ++ "\n")

/-- `_signing_metadata()["present"]`. -/
def Signing.present (signing : Signing) : Bool := signing.privateKey.isSome || signing.hmacConfigured

/-- `sign_statement`. -/
def signStatement (signing : Signing) (statement : Json) : Except Error SignedStatement :=
  match signing.privateKey with
  | some loaded => do
    let key ← loaded
    .ok { statement := statement, algorithm := "ed25519", publicKeyFingerprint := some key.fingerprint
          keyId := (signing.keyId.filter (· ≠ "")).getD (String.ofList (key.fingerprint.toList.take 16))
          publicKey := some key.publicPem, signature := key.sign (statement.text false) }
  | none => do
    let found ← signing.hmacKey
    match found.filter (· ≠ "") with
    | some key =>
      .ok { statement := statement, algorithm := "hmac-sha256", keyId := "legacy-hmac", publicKeyFingerprint := none
            publicKey := none, signature := env.hmacSha256 key (env.encode (statement.text false)) }
    | none =>
      .error (.runtimeError "Configure SACM_EVIDENCE_SIGNING_PRIVATE_KEY_FILE or an HMAC key.")

/-- `json.loads(path.read_text(encoding="utf-8"))`. -/
def readJson (bytes : Bytes) : Except Error (Except Unit Json) :=
  match env.readText bytes with
  | none => .error (.other "UnicodeDecodeError" "invalid start byte")
  | some text =>
    match env.loads text with
    | .ok document => .ok (.ok document)
    | .error .decode => .ok (.error ())
    | .error (.raised e) => .error e

/-- `_write_signature`. -/
def writeSignature (rules : Rules) (signing : Signing) (directory : Directory Bytes) :
    Except Error (Option SignedStatement × Directory Bytes) :=
  if signing.present then
    match directory.read "run-manifest.json" with
    | none => .error (.other "FileNotFoundError" "run-manifest.json")
    | some bytes => do
      let loaded ← readJson env bytes
      match loaded with
      | .error _ => .error (.other "JSONDecodeError" "run-manifest.json")
      | .ok manifest => do
        let signed ← signStatement env signing manifest
        .ok (some signed, writeJson env rules "signature.sig" signed.dump directory)
  else .ok (none, directory)

/-- The files `build` writes before it signs them. -/
def writeContent (rules : Rules) (content : RunContent Bytes) (directory : Directory Bytes) : Directory Bytes :=
  let manifest := sanitize rules (.obj content.manifest)
  let directory := writeJson env rules "run-manifest.json" manifest directory
  let directory := writeJson env rules "request.json" content.request directory
  let directory := writeJson env rules "steps.json" content.steps directory
  let directory := directory.write "events.jsonl" (env.encode (String.join (content.events.map (eventLine env rules))))
  let directory := writeJson env rules "cost-report.json" content.costs directory
  let directory := content.recorded.foldl (fun directory file => directory.write file.1.name file.2) directory
  let directory := writeJson env rules RecordedFile.provenance.name (content.provenance manifest) directory
  content.external.foldl (fun directory file => directory.write file.1.name file.2) directory

def packsOf (d : EvidenceDb Bytes) (runId : String) :
    List EvidencePack := d.packs.filter fun pack => pack.runId == runId

def packSeal (manifestHash : String) (previousPackHash signature : Option String) : Json :=
  .obj [("manifest_hash", .str manifestHash), ("previous_pack_hash", .ofOption previousPackHash),
    ("signature", .ofOption signature)]

/-- The call of `build`: who asks, what is gathered, the answers of the services
that decide about residency and traceability, and the identifiers and the clock
of the process. -/
structure BuildCall (Bytes : Type) where
  runId : String
  authorized : Except Error Unit
  gathered : Except Error (RunContent Bytes)
  rules : Rules
  signing : Signing
  uuid : String
  packId : String
  now : Nat
  resolved : Except Error Unit
  refreshed : Except Error Unit

def directoryName (d : EvidenceDb Bytes) (call : BuildCall Bytes) : String :=
  if (packsOf d call.runId).isEmpty then call.runId else call.runId ++ "-" ++ call.uuid

def newPack (d : EvidenceDb Bytes) (call : BuildCall Bytes) (signed : Option SignedStatement) (manifestHash : String) :
    EvidencePack :=
  let previous := ((packsOf d call.runId).argmax EvidencePack.createdAt).bind EvidencePack.packHash
  { id := call.packId
    runId := call.runId
    path := directoryName d call
    manifestHash := manifestHash
    packHash := some (canonicalSha256 env (packSeal manifestHash previous (signed.map SignedStatement.signature)))
    previousPackHash := previous
    signatureAlgorithm := signed.map SignedStatement.algorithm
    signatureKeyId := signed.map SignedStatement.keyId
    publicKeyFingerprint := signed.bind SignedStatement.publicKeyFingerprint
    publicKey := signed.bind SignedStatement.publicKey
    signature := signed.map SignedStatement.signature
    verificationStatus := "UNVERIFIED"
    createdAt := call.now }

def EvidenceDb.withDirectory (d : EvidenceDb Bytes) (name : String) (directory : Directory Bytes) : EvidenceDb Bytes :=
  { d with storage := Function.update d.storage name directory }

def writeChecksums (directory : Directory Bytes) : Directory Bytes :=
  directory.write "checksums.sha256" (env.encode (checksums env directory))

/-- `build`. Files that are written stay when a later part raises. -/
def build (call : BuildCall Bytes) : Tx (EvidenceDb Bytes) Error EvidencePack := do
  Tx.ofExcept call.authorized
  let name ← Tx.read fun d => directoryName d call
  Tx.ofExcept (if env.inRoot name then .ok ()
    else .error (.valueError "Evidence path must remain inside SACM_EVIDENCE_ROOT."))
  let content ← Tx.ofExcept call.gathered
  Tx.shift fun d => d.withDirectory name (writeContent env call.rules content (d.storage name))
  let written ← Tx.read fun d => d.storage name
  let signed ← Tx.ofExcept (writeSignature env call.rules call.signing written)
  Tx.shift fun d => d.withDirectory name (writeChecksums env signed.2)
  let manifestHash ← Tx.read fun d => (((d.storage name).read "run-manifest.json").map env.sha256).getD ""
  Tx.ofExcept call.resolved
  let pack ← Tx.read fun d => newPack env d call signed.1 manifestHash
  Tx.shift fun d => { d with packs := d.packs ++ [pack] }
  Tx.ofExcept call.refreshed
  pure pack

/-- The characters `splitlines` breaks a text at. -/
def lineBreak (c : Char) : Bool :=
  c == '\n' || c == '\r' || c == '\x0b' || c == '\x0c' || c == '\x1c' || c == '\x1d' || c == '\x1e' ||
    c == '\u0085' || c == '\u2028' || c == '\u2029'

/-- `text.splitlines()`. -/
def splitLines : List Char → List (List Char)
  | [] => []
  | '\r' :: '\n' :: rest => [] :: splitLines rest
  | c :: rest =>
    if lineBreak c then [] :: splitLines rest
    else
      match splitLines rest with
      | [] => [[c]]
      | line :: lines => (c :: line) :: lines

/-- `line.split("  ", 1)`, when there are two parts. -/
def splitTwo : List Char → Option (List Char × List Char)
  | ' ' :: ' ' :: rest => some ([], rest)
  | c :: rest => (splitTwo rest).map fun parts => (c :: parts.1, parts.2)
  | [] => none

def hasDigest (files : String → Option Bytes) (expected name : String) : Bool :=
  (files name).any fun bytes => env.sha256 bytes == expected

/-- What `verify` says about the manifest, and the manifest it found. -/
def manifestCheck (files : String → Option Bytes) (pack : EvidencePack) : Except Error (List String × Json) :=
  match files "run-manifest.json" with
  | none => .ok (["Evidence manifest is unavailable."], .obj [])
  | some bytes => do
    let loaded ← readJson env bytes
    let mismatch := if env.sha256 bytes = pack.manifestHash then [] else ["Evidence manifest checksum mismatch."]
    match loaded with
    | .ok (.obj fields) => .ok (mismatch, .obj fields)
    | .ok _ => .ok ("Evidence manifest is invalid." :: mismatch, .obj [])
    | .error _ => .ok ("Evidence manifest is invalid JSON." :: mismatch, .obj [])

/-- What `verify` says about a line of the list of checksums. -/
def lineErrors (files : String → Option Bytes) (line : List Char) : List String :=
  match splitTwo line with
  | none => ["Evidence checksum file is malformed."]
  | some (expected, name) =>
    if hasDigest env files (String.ofList expected) (String.ofList name) then []
    else ["Checksum mismatch: " ++ String.ofList name]

/-- What the line's `is_file()` raises. -/
def lineRaises (line : List Char) : Option Error :=
  (splitTwo line).bind fun parts => env.statRaises (String.ofList parts.2)

/-- What `verify` says about the list of checksums, unless a line of it raises. -/
def checksumCheck (files : String → Option Bytes) : Except Error (List String) :=
  match files "checksums.sha256" with
  | none => .ok ["Evidence checksums are unavailable."]
  | some bytes =>
    match env.readText bytes with
    | none => .error (.other "UnicodeDecodeError" "invalid start byte")
    | some text =>
      match (splitLines text.toList).findSome? (lineRaises env) with
      | some e => .error e
      | none => .ok ((splitLines text.toList).flatMap (lineErrors env files))

/-- The errors that `except (ValueError, TypeError)` catches, with their texts. -/
def caught : Error → Option String
  | .valueError message => some message
  | .other "TypeError" message => some message
  | _ => none

/-- The checks of `verify_signed_statement` that raise when they fail. -/
def signatureAccepted (hmacKey : Except Error (Option String)) (signed : Json) (statement : Json)
    (signature : String) : Except Error Unit :=
  if signed.get "algorithm" = .str "ed25519" then
    match signed.get "public_key" with
    | .str publicKey => do
      let fingerprint ← env.fingerprint publicKey
      if signed.get "public_key_fingerprint" = .str fingerprint then
        env.checkEd25519 publicKey signature (statement.text false)
      else .error (.valueError "Public key fingerprint mismatch.")
    | _ => .error (.valueError "Ed25519 public key is missing.")
  else if signed.get "algorithm" = .str "hmac-sha256" then do
    let found ← hmacKey
    match found.filter (· ≠ "") with
    | none => .error (.valueError "HMAC verification key is unavailable.")
    | some key =>
      if signature.toList.all (·.toNat < 128) then
        if env.hmacSha256 key (env.encode (statement.text false)) = signature then .ok ()
        else .error (.valueError "HMAC signature is invalid.")
      else .error (.other "TypeError" "comparing strings with non-ASCII characters is not supported")
  else .error (.valueError "Unsupported signature algorithm.")

def textField : Json → Except Error (Option String)
  | .str s => .ok (some s)
  | .null => .ok none
  | _ => .error (.other "ValidationError" "Input should be a valid string")

/-- `verify_signed_statement`. -/
def verifySignedStatement (hmacKey : Except Error (Option String)) (signed : Json) :
    Except Error VerificationResultV1 :=
  match signed.get "statement", signed.get "signature" with
  | .obj statement, .str signature =>
    let decided : Except Error (List String) :=
      match signatureAccepted env hmacKey signed (.obj statement) signature with
      | .ok _ => .ok []
      | .error e =>
        match caught e with
        | some message => .ok [message]
        | none => .error e
    do
      let errors ← decided
      let algorithm ← textField (signed.get "algorithm")
      let keyId ← textField (signed.get "key_id")
      let fingerprint ← textField (signed.get "public_key_fingerprint")
      .ok { status := if errors.isEmpty then .valid else .invalid, algorithm := algorithm, keyId := keyId,
            publicKeyFingerprint := fingerprint, chainValid := errors.isEmpty, errors := errors }
  | _, _ =>
    .ok { status := .unsigned, algorithm := (signed.get "algorithm").str?, chainValid := false
          errors := ["Signed statement is incomplete."] }

/-- The check of a signature file of the older form, which signs the bytes of the manifest. -/
def legacyCheck (hmacKey : Except Error (Option String)) (files : String → Option Bytes) (signed : Json) :
    Except Error (List String × VerificationResultV1) := do
  let found ← hmacKey
  let unsigned : VerificationResultV1 := { status := .unsigned, chainValid := true }
  match found.filter (· ≠ "") with
  | none => .ok (["Legacy HMAC signature is invalid."], unsigned)
  | some key =>
    match files "run-manifest.json" with
    | none => .error (.other "FileNotFoundError" "run-manifest.json")
    | some bytes =>
      let expected := env.hmacSha256 key bytes
      let given := match signed.field? "signature" with
        | none => ""
        | some (.str s) => s
        | some other => env.str other
      if expected = "" then .ok (["Legacy HMAC signature is invalid."], unsigned)
      else if given.toList.all (·.toNat < 128) then
        if expected = given then
          .ok ([], { status := .valid, algorithm := some "hmac-sha256", keyId := some "legacy-hmac"
                     chainValid := true })
        else .ok (["Legacy HMAC signature is invalid."], unsigned)
      else .error (.other "TypeError" "comparing strings with non-ASCII characters is not supported")

/-- The recorded columns that a signature file must repeat. -/
def recordedFields (pack : EvidencePack) : List (String × Option String) :=
  [("algorithm", pack.signatureAlgorithm), ("key_id", pack.signatureKeyId),
    ("public_key_fingerprint", pack.publicKeyFingerprint), ("public_key", pack.publicKey),
      ("signature", pack.signature)]

/-- What `verify` says about the signature file, if there is one. -/
def signatureCheck (hmacKey : Except Error (Option String)) (files : String → Option Bytes) (pack : EvidencePack)
    (manifest : Json) : Except Error (List String × VerificationResultV1) :=
  let unsigned : VerificationResultV1 := { status := .unsigned, chainValid := true }
  match files "signature.sig" with
  | none => .ok ([], unsigned)
  | some bytes => do
    let loaded ← readJson env bytes
    match loaded with
    | .ok (.obj fields) =>
      let signed := Json.obj fields
      if signed.get "algorithm" = .str "hmac-sha256" ∧ (signed.field? "statement").isNone then
        legacyCheck env hmacKey files signed
      else do
        let content :=
          if equals env.sameNumber (signed.get "statement") manifest then [] else ["Signed manifest content mismatch."]
        let fields := ((recordedFields pack).filter fun field => signed.get field.1 ≠ .ofOption field.2).map
            fun field =>
          "Recorded evidence " ++ field.1 ++ " mismatch."
        let result ← verifySignedStatement env hmacKey signed
        .ok (content ++ fields ++ result.errors, result)
    | _ => .ok (["Evidence signature is invalid JSON."], unsigned)

/-- What `verify` says about the place of the pack in the chain of its run. -/
def chainCheck (d : EvidenceDb Bytes) (pack : EvidencePack) : List String × Bool :=
  let previous := ((packsOf d pack.runId).filter fun other => other.createdAt < pack.createdAt).argmax
    EvidencePack.createdAt
  match pack.packHash with
  | none => ([], previous.isNone)
  | some packHash =>
    let follows := pack.previousPackHash = previous.bind EvidencePack.packHash
    let sealed_ := packHash = canonicalSha256 env (packSeal pack.manifestHash pack.previousPackHash pack.signature)
    ((if follows then [] else ["Evidence chain predecessor mismatch."]) ++
      (if sealed_ then [] else ["Evidence chain hash mismatch."]), decide (follows ∧ sealed_))

def verdict (signature : Verdict) (errors : List String) : Verdict :=
  if signature = .unsigned ∧ errors = [] then .unsigned else if errors = [] then .valid else .invalid

def Verdict.name : Verdict → String
  | .valid => "VALID"
  | .invalid => "INVALID"
  | .unsigned => "UNSIGNED"

/-- `verify`, of a pack whose directory holds these files. -/
def verify (authorized : Except Error Unit) (hmacKey : Except Error (Option String)) (d : EvidenceDb Bytes)
    (files : String → Option Bytes) (runId evidenceId : String) :
    Except Error (VerificationResultV1 × EvidenceDb Bytes) := do
  authorized
  match d.packs.find? fun pack => pack.id == evidenceId && pack.runId == runId with
  | none => .error (.valueError ("Evidence pack " ++ evidenceId ++ " not found."))
  | some pack => do
    let location := if env.inRoot pack.path then [] else ["Evidence path is outside SACM_EVIDENCE_ROOT."]
    let (manifestErrors, manifest) ← manifestCheck env files pack
    let checksumErrors ← checksumCheck env files
    let (signatureErrors, signature) ← signatureCheck env hmacKey files pack manifest
    let chain := chainCheck env d pack
    let errors := location ++ manifestErrors ++ checksumErrors ++ signatureErrors ++ chain.1
    let status := verdict signature.status errors
    .ok ({ status := status
           algorithm := (pack.signatureAlgorithm.filter (· ≠ "")).orElse fun _ => signature.algorithm
           keyId := (pack.signatureKeyId.filter (· ≠ "")).orElse fun _ => signature.keyId
           publicKeyFingerprint :=
             (pack.publicKeyFingerprint.filter (· ≠ "")).orElse fun _ => signature.publicKeyFingerprint
           chainValid := chain.2, errors := errors },
      { d with packs := d.packs.map fun other =>
          if other.id = evidenceId ∧ other.runId = runId then { other with verificationStatus := status.name }
          else other })

end

end EvidenceService
end SacmRuntime
