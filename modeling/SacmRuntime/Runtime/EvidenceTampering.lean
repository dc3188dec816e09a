import SacmRuntime.Lib.Checked
import SacmRuntime.Lib.HexText
import SacmRuntime.Lib.JsonSort
import SacmRuntime.Runtime.ChecksumList

namespace SacmRuntime
open Checked Json Tx

namespace EvidenceService
open Redaction

namespace Directory
variable {Bytes : Type} {directory : Directory Bytes} {name : String}

def Has (name : String) (directory : Directory Bytes) : Prop := ∃ bytes, directory.read name = some bytes

variable {bytes : Bytes} {files : List (RecordedFile × Bytes)}

theorem has_write_self : Has name (directory.write name bytes) := ⟨bytes, read_write_self⟩

theorem Has.write {other : String} (present : Has name directory) :
    Has name (directory.write other bytes) := by
  by_cases same : name = other
  · subst same
    exact has_write_self
  · obtain ⟨old, found⟩ := present
    exact ⟨old, by rw [read_write_ne same, found]⟩

theorem Has.writeFiles (present : Has name directory) :
    Has name (files.foldl (fun directory file => directory.write file.1.name file.2) directory) := by
  induction files generalizing directory with
  | nil => exact present
  | cons file rest ih => exact ih present.write

theorem has_writeFiles {file : RecordedFile × Bytes} (member : file ∈ files) :
    Has file.1.name (files.foldl (fun directory file => directory.write file.1.name file.2) directory) := by
  induction files generalizing directory with
  | nil => cases member
  | cons first rest ih =>
    rcases List.mem_cons.mp member with rfl | later
    · exact has_write_self.writeFiles
    · exact ih later

end Directory

section
variable {Bytes : Type} {env : EvidenceEnv Bytes} {d e : EvidenceDb Bytes} {call : BuildCall Bytes}
  {pack : EvidencePack} {files : String → Option Bytes} {hmacKey : Except Error (Option String)}

/-- What a `build` that returns has done. -/
theorem build_ok (run : build env call d = (.ok pack, e)) :
    ∃ content signed directory, call.gathered = .ok content ∧ env.inRoot (directoryName d call) = true ∧
      writeSignature env call.rules call.signing
        (writeContent env call.rules content (d.storage (directoryName d call))) = .ok (signed, directory) ∧
      pack = newPack env d call signed
        (((writeChecksums env directory).read "run-manifest.json").map env.sha256 |>.getD "") ∧
      e.packs = d.packs ++ [pack] ∧
      e.storage = Function.update d.storage (directoryName d call) (writeChecksums env directory) := by
  obtain ⟨_, -, run⟩ := bind_ofExcept_ok run
  rw [bind_read_run] at run
  obtain ⟨_, root, run⟩ := bind_ofExcept_ok run
  obtain ⟨content, gathered, run⟩ := bind_ofExcept_ok run
  rw [bind_shift_run, bind_read_run] at run
  obtain ⟨⟨signed, directory⟩, signature, run⟩ := bind_ofExcept_ok run
  rw [bind_shift_run, bind_read_run] at run
  obtain ⟨_, -, run⟩ := bind_ofExcept_ok run
  rw [bind_read_run, bind_shift_run] at run
  obtain ⟨_, -, run⟩ := bind_ofExcept_ok run
  cases run
  simp only [EvidenceDb.withDirectory, Function.update_self] at signature
  refine ⟨content, signed, directory, gathered, ?_, signature, ?_, rfl, ?_⟩
  · by_contra outside
    rw [if_neg outside] at root
    cases root
  · simp only [EvidenceDb.withDirectory, Function.update_self]
    rfl
  · simp only [EvidenceDb.withDirectory, Function.update_idem]

variable {after directory leftover : Directory Bytes} {content : RunContent Bytes} {document : Json} {name : String}
  {rules : Rules} {signed : Option SignedStatement} {signing : Signing}

/-- A `build` of which every part succeeds. -/
theorem build_returns (d : EvidenceDb Bytes) (call : BuildCall Bytes) (authorized : call.authorized = .ok ())
    (root : env.inRoot (directoryName d call) = true) (gathered : call.gathered = .ok content)
    (signature : writeSignature env call.rules call.signing
      (writeContent env call.rules content (d.storage (directoryName d call))) = .ok (signed, directory))
    (resolved : call.resolved = .ok ()) (refreshed : call.refreshed = .ok ()) :
    (build env call d).1 = .ok (newPack env d call signed
      (((writeChecksums env directory).read "run-manifest.json").map env.sha256 |>.getD "")) := by
  unfold build
  rw [authorized, gathered, resolved, refreshed]
  simp only [Tx.ofExcept, bind_pure_run, bind_read_run, bind_shift_run, root, if_true,
    EvidenceDb.withDirectory, Function.update_self]
  rw [signature]
  simp only [bind_pure_run, bind_read_run, bind_shift_run, pure_run, Function.update_self]
  rfl

theorem readJson_ok {bytes : Bytes} {text : String} (read : env.readText bytes = some text)
    (loaded : env.loads text = .ok document) : readJson env bytes = .ok (.ok document) := by
  unfold readJson
  rw [read]
  simp only [loaded]

theorem writeContent_manifest :
    (writeContent env rules content directory).read "run-manifest.json" =
      some (env.encode (env.dumpsIndented (sanitize rules (sanitize rules (.obj content.manifest))))) := by
  have other : ∀ file : RecordedFile, file.name ≠ "run-manifest.json" := by
    intro file
    cases file <;> decide
  unfold writeContent writeJson
  rw [Directory.read_writeFiles_ne other, Directory.read_write_ne (by decide), Directory.read_writeFiles_ne other,
    Directory.read_write_ne (by decide), Directory.read_write_ne (by decide), Directory.read_write_ne (by decide),
    Directory.read_write_ne (by decide), Directory.read_write_self]

theorem signed_manifest :
    (writeChecksums env (writeJson env rules "signature.sig" document (writeContent env rules content directory))).read
      "run-manifest.json" =
        some (env.encode (env.dumpsIndented (sanitize rules (sanitize rules (.obj content.manifest))))) := by
  unfold writeChecksums writeJson
  rw [Directory.read_write_ne (by decide), Directory.read_write_ne (by decide), writeContent_manifest]

theorem signed_signature :
    (writeChecksums env (writeJson env rules "signature.sig" document directory)).read "signature.sig" =
      some (env.encode (env.dumpsIndented (sanitize rules document))) := by
  unfold writeChecksums writeJson
  rw [Directory.read_write_ne (by decide), Directory.read_write_self]

/-- What is left of an attempt to build is only files of the names that `build` writes. -/
theorem writeContent_tidy (tidy : directory.Tidy fileNames) :
    (writeContent env rules content directory).Tidy fileNames := by
  unfold writeContent writeJson
  apply Directory.Tidy.writeFiles _ recordedFile_listed
  apply Directory.Tidy.write _ (recordedFile_listed .provenance)
  apply Directory.Tidy.writeFiles _ recordedFile_listed
  exact ((((tidy.write (by decide)).write (by decide)).write (by decide)).write (by decide)).write (by decide)

theorem writeSignature_tidy (tidy : directory.Tidy fileNames)
    (ran : writeSignature env rules signing directory = .ok (signed, after)) : after.Tidy fileNames := by
  unfold writeSignature at ran
  split at ran
  · split at ran
    · cases ran
    · obtain ⟨loaded, -, ran⟩ := bind_ok ran
      cases loaded with
      | error _ => cases ran
      | ok manifest =>
        obtain ⟨statement, -, ran⟩ := bind_ok ran
        cases ran
        exact tidy.write (by decide)
  · cases ran
    exact tidy

theorem writeSignature_ok (present : signing.present = true)
    (ran : writeSignature env rules signing directory = .ok (signed, after)) :
    ∃ bytes manifest statement, directory.read "run-manifest.json" = some bytes ∧
      readJson env bytes = .ok (.ok manifest) ∧ signStatement env signing manifest = .ok statement ∧
      signed = some statement ∧ after = writeJson env rules "signature.sig" statement.dump directory := by
  unfold writeSignature at ran
  rw [if_pos present] at ran
  split at ran
  · cases ran
  · rename_i bytes found
    obtain ⟨loaded, read, ran⟩ := bind_ok ran
    cases loaded with
    | error _ => cases ran
    | ok manifest =>
      obtain ⟨statement, sealed_, ran⟩ := bind_ok ran
      cases ran
      exact ⟨bytes, manifest, statement, found, read, sealed_, rfl, rfl⟩

end

section
variable {Bytes : Type} (env : EvidenceEnv Bytes) (hmacKey : Except Error (Option String)) (d : EvidenceDb Bytes)
  (content : RunContent Bytes) (built : Directory Bytes) (files : String → Option Bytes) (pack : EvidencePack)

def manifestOf : Json :=
  match (files "run-manifest.json").map (readJson env) with
  | some (.ok (.ok (.obj fields))) => .obj fields
  | _ => .obj []

def Fits (line : List Char) : Prop :=
  ∃ digest name bytes, splitTwo line = some (digest, name) ∧ files (String.ofList name) = some bytes ∧
    env.sha256 bytes = String.ofList digest

end

section
variable {Bytes : Type} {env : EvidenceEnv Bytes} {hmacKey : Except Error (Option String)} {d : EvidenceDb Bytes}
  {built : Directory Bytes} {files : String → Option Bytes} {pack : EvidencePack}

variable {checksums errors : List String} {manifest : Json} {result : VerificationResultV1} {status : String}

theorem manifestCheck_ok (ran : manifestCheck env files pack = .ok (errors, manifest)) :
    manifest = manifestOf env files ∧
      (errors = [] ↔ ∃ bytes fields, files "run-manifest.json" = some bytes ∧ env.sha256 bytes = pack.manifestHash ∧
        readJson env bytes = .ok (.ok (.obj fields))) := by
  unfold manifestCheck at ran
  unfold manifestOf
  cases found : files "run-manifest.json" with
  | none =>
    rw [found] at ran
    cases ran
    simp
  | some bytes =>
    rw [found] at ran
    obtain ⟨loaded, read, ran⟩ := bind_ok ran
    cases loaded with
    | error _ =>
      cases ran
      simp [read]
    | ok document =>
      cases document <;> cases ran <;> simp [read]

theorem signatureCheck_ok {bytes : Bytes} {fields : List (String × Json)} (found : files "signature.sig" = some bytes)
    (read : readJson env bytes = .ok (.ok (.obj fields)))
    (stated : ((obj fields).field? "statement").isSome = true)
    (statement : equals env.sameNumber ((obj fields).get "statement") manifest = true)
    (recorded : ∀ field ∈ recordedFields pack, (obj fields).get field.1 = .ofOption field.2)
    (verified : verifySignedStatement env hmacKey (.obj fields) = .ok result) (clean : result.errors = []) :
    signatureCheck env hmacKey files pack manifest = .ok ([], result) := by
  have present : ((obj fields).field? "statement").isNone = false := by
    rw [← Option.not_isSome, stated]
    rfl
  unfold signatureCheck
  rw [found]
  simp [read, bind, Except.bind, present, statement, verified, clean]
  exact fun name value => recorded (name, value)

/-- What `verify` reports when its checks found this. -/
def Reports (env : EvidenceEnv Bytes) (d : EvidenceDb Bytes) (pack : EvidencePack)
    (manifest checksums signature : List String)
    (signatureResult : VerificationResultV1) (result : VerificationResultV1) : Prop :=
  result.errors = (if env.inRoot pack.path then [] else ["Evidence path is outside SACM_EVIDENCE_ROOT."]) ++ manifest ++
      checksums ++ signature ++ (chainCheck env d pack).1 ∧
    result.status = verdict signatureResult.status result.errors ∧ result.chainValid = (chainCheck env d pack).2

/-- A `verify` that returns has run every check of the pack. -/
theorem verify_ok {after : EvidenceDb Bytes}
    (kept : d.packs.find? (fun other => other.id == pack.id && other.runId == pack.runId) = some
      { pack with verificationStatus := status })
    (ran : verify env (.ok ()) hmacKey d files pack.runId pack.id = .ok (result, after)) :
    ∃ manifest checksums signature, manifestCheck env files pack = .ok manifest ∧
      checksumCheck env files = .ok checksums ∧ signatureCheck env hmacKey files pack manifest.2 = .ok signature ∧
      Reports env d pack manifest.1 checksums signature.1 signature.2 result := by
  unfold verify at ran
  obtain ⟨_, -, ran⟩ := bind_ok ran
  rw [kept] at ran
  obtain ⟨manifest, checked, ran⟩ := bind_ok ran
  obtain ⟨checksums, listed, ran⟩ := bind_ok ran
  obtain ⟨signature, signed, ran⟩ := bind_ok ran
  obtain ⟨rfl, -⟩ := Prod.mk.inj (Except.ok.inj ran)
  exact ⟨manifest, checksums, signature, checked, listed, signed, rfl, rfl, rfl⟩

theorem verify_returns {manifest : List String × Json} {signature : List String × VerificationResultV1}
    (kept : d.packs.find? (fun other => other.id == pack.id && other.runId == pack.runId) = some
      { pack with verificationStatus := status })
    (checked : manifestCheck env files pack = .ok manifest) (listed : checksumCheck env files = .ok checksums)
    (signed : signatureCheck env hmacKey files pack manifest.2 = .ok signature) :
    ∃ result after, verify env (.ok ()) hmacKey d files pack.runId pack.id = .ok (result, after) ∧
      Reports env d pack manifest.1 checksums signature.1 signature.2 result := by
  have onRow : manifestCheck env files { pack with verificationStatus := status } = .ok manifest := checked
  have signedRow :
    signatureCheck env hmacKey files { pack with verificationStatus := status } manifest.2 = .ok signature := signed
  cases ran : verify env (.ok ()) hmacKey d files pack.runId pack.id with
  | error e =>
    unfold verify at ran
    rw [kept] at ran
    simp only [bind, Except.bind, onRow, listed, signedRow] at ran
    cases ran
  | ok result =>
    obtain ⟨manifest', checksums', signature', checked', listed', signed', reports⟩ := verify_ok kept ran
    cases Except.ok.inj (checked.symm.trans checked')
    cases Except.ok.inj (listed.symm.trans listed')
    cases Except.ok.inj (signed.symm.trans signed')
    exact ⟨result.1, result.2, rfl, reports⟩

end

section
variable {Bytes : Type} {env : EvidenceEnv Bytes} {hmacKey : Except Error (Option String)} {call : BuildCall Bytes}
  {content : RunContent Bytes} {before after later : EvidenceDb Bytes} {pack : EvidencePack}
  {files : String → Option Bytes}

end

/-! A run that contributes one text, `given`, signed with an HMAC key. The manifest
says `status` when it is written, and its copy in the signature file `copied`. -/
namespace SignedPack
open HexText

def statement (status : String) : Json := .obj [("status", .str status)]

def mac (key : String) (bytes : List Char) : String :=
  String.ofList (digits (bytes.foldl (fun code c => (code * 31 + c.toNat) % 65521) key.length) 4)

def signed (status : String) : SignedStatement :=
  { statement := statement status, algorithm := "hmac-sha256", keyId := "legacy-hmac", publicKeyFingerprint := none
    publicKey := none, signature := mac "key" ((statement status).text false).toList }

/-- The signature file, with the copy of the manifest in it. -/
def signatureFile (status copied : String) : Json := { signed status with statement := statement copied }.dump

-- The texts of the manifest and the signature file part at their sixth character.
def manifestText (status : String) : String := "\x7b\n  \"s" ++ ("tatus\": \"" ++ status ++ "\"\n\x7d")

def signatureText (status copied : String) : String :=
  "\x7b\n  \"a" ++ ("lgorithm\": \"hmac-sha256\",\n  \"key_id\": \"legacy-hmac\",\n  \"public_key\": null,\n" ++
    "  \"public_key_fingerprint\": null,\n  \"schema_version\": \"signed-statement/v1\",\n  \"signature\": \"" ++
    (signed status).signature ++ "\",\n  \"signed_file\": \"run-manifest.json\",\n" ++
    "  \"statement\": \x7b\n    \"status\": \"" ++ copied ++ "\"\n  \x7d\n\x7d")

def readBack (text : String) : String := String.ofList (universalNewlines text.toList)

def env (status copied : String) : EvidenceEnv (List Char) where
  encode text := text.toList
  readText bytes := some (String.ofList (universalNewlines bytes))
  dumps document := document.text true
  dumpsIndented document :=
    if document = statement status then manifestText status
    else if document = signatureFile status copied then signatureText status copied else document.text true
  loads text :=
    if text = readBack (manifestText status) then .ok (statement status)
    else if text = readBack (signatureText status copied) then .ok (signatureFile status copied).sortKeys
    else .error .decode
  str document := document.text true
  sameNumber a b := a.same b
  isoformat seconds := toString seconds
  sha256 bytes := String.ofList (hexText bytes)
  hmacSha256 := mac
  fingerprint _ := .error (.valueError "Could not deserialize key data.")
  checkEd25519 _ _ _ := .error (.valueError "Ed25519 signature is invalid.")
  inRoot _ := true
  statRaises _ := none

def content (given : String) : RunContent (List Char) :=
  { manifest := [("status", .str given)], request := .obj [], steps := .arr [], events := [], costs := .obj []
    recorded := [], provenance := fun _ => .obj [], external := [] }

def rules (environ : List (String × String)) : Rules :=
  { isWord := Char.isAlphanum, isSpace := Char.isWhitespace, environ := environ }

def call (environ : List (String × String)) (given : String) : BuildCall (List Char) :=
  { runId := "run-1", authorized := .ok (), gathered := .ok (content given), rules := rules environ
    signing := { privateKey := none, hmacConfigured := true, hmacKey := .ok (some "key"), keyId := none }
    uuid := "uuid-1", packId := "pack-1", now := 1, resolved := .ok (), refreshed := .ok () }

def before : EvidenceDb (List Char) := { packs := [], storage := fun _ => [] }

section
variable (environ : List (String × String)) (given status copied : String)

def after : EvidenceDb (List Char) := (build (env status copied) (call environ given) before).2

def pack : EvidencePack :=
  newPack (env status copied) before (call environ given) (some (signed status))
    ((env status copied).sha256 ((env status copied).encode ((env status copied).dumpsIndented (statement status))))

/-- What redaction makes of the text, when the manifest is written and when it is signed. -/
structure Redacts : Prop where
  manifest : sanitize (rules environ) (sanitize (rules environ) (statement given)) = statement status
  signature : sanitize (rules environ) (signed status).dump = signatureFile status copied

end

section
variable {environ : List (String × String)} {given status copied : String}

theorem ideal : Ideal (env status copied) where
  readable text := rfl
  plainDigest bytes := by
    have digit : ∀ c ∈ "0123456789abcdef".toList, lineBreak c = false ∧ c ≠ ' ' := by decide
    constructor
    · intro c member
      exact (digit c (hexText_mem (by simpa [env] using member))).1
    · intro member
      exact (digit ' ' (hexText_mem (by simpa [env] using member))).2 rfl
  injective first second same := hexText_injective (String.ofList_injective same)
  short _ _ := rfl

theorem manifest_read : readJson (env status copied)
    ((env status copied).encode ((env status copied).dumpsIndented (statement status))) =
      .ok (.ok (statement status)) := by
  simp [readJson, env, readBack]

theorem heads_differ (first second : String) :
    readBack ("\x7b\n  \"a" ++ first) ≠ readBack ("\x7b\n  \"s" ++ second) := by
  intro same
  have lists := congrArg String.toList same
  rw [readBack, readBack, String.toList_ofList, String.toList_ofList, String.toList_append,
    String.toList_append] at lists
  simp [universalNewlines] at lists

theorem texts_differ : readBack (signatureText status copied) ≠ readBack (manifestText status) := heads_differ _ _

theorem signature_read (status copied : String) : readJson (env status copied)
    ((env status copied).encode ((env status copied).dumpsIndented (signatureFile status copied))) =
      .ok (.ok (signatureFile status copied).sortKeys) := by
  have other : signatureFile status copied ≠ statement status := by
    simp [signatureFile, SignedStatement.dump, statement]
  have text : (env status copied).dumpsIndented (signatureFile status copied) = signatureText status copied := by
    simp [env, other]
  have loaded : (env status copied).loads (readBack (signatureText status copied)) =
      .ok (signatureFile status copied).sortKeys := by
    simp [env, texts_differ]
  rw [text]
  exact readJson_ok (ideal.readable (signatureText status copied)) loaded

theorem signed_made :
    signStatement (env status copied) (call environ given).signing (statement status) = .ok (signed status) := by
  simp [signStatement, call, signed, env, bind, Except.bind, Option.filter]

section
variable (redacts : Redacts environ given status copied)
include redacts

theorem signed_written :
    writeSignature (env status copied) (rules environ) (call environ given).signing
      (writeContent (env status copied) (rules environ) (content given) []) =
        .ok (some (signed status), writeJson (env status copied) (rules environ) "signature.sig" (signed status).dump
          (writeContent (env status copied) (rules environ) (content given) [])) := by
  have object : obj (content given).manifest = statement given := rfl
  unfold writeSignature
  rw [if_pos (by rfl), writeContent_manifest, object, redacts.manifest]
  simp only [manifest_read, bind, Except.bind, signed_made]

theorem built :
    build (env status copied) (call environ given) before =
      (.ok (pack environ given status copied), after environ given status copied) := by
  have object : obj (content given).manifest = statement given := rfl
  have ran := build_returns before (call environ given) rfl rfl rfl (signed_written redacts) rfl rfl
  rw [signed_manifest, object, redacts.manifest, Option.map_some, Option.getD_some] at ran
  unfold pack after
  rw [← ran]

theorem kept :
    (after environ given status copied).packs.find? (fun other => other.id == (pack environ given status copied).id &&
      other.runId == (pack environ given status copied).runId) =
        some { pack environ given status copied with
          verificationStatus := (pack environ given status copied).verificationStatus } := by
  obtain ⟨_, _, _, -, -, -, -, packs, -⟩ := build_ok (built redacts)
  rw [packs]
  rfl

theorem left :
    (after environ given status copied).storage (pack environ given status copied).path =
      writeChecksums (env status copied) (writeJson (env status copied) (rules environ) "signature.sig"
        (signed status).dump (writeContent (env status copied) (rules environ) (content given) [])) := by
  obtain ⟨content', _, directory, gathered, -, signature, -, -, storage⟩ := build_ok (built redacts)
  cases gathered
  cases (signed_written redacts).symm.trans signature
  rw [storage]
  exact Function.update_self _ _ _

theorem left_manifest :
    ((after environ given status copied).storage (pack environ given status copied).path).read "run-manifest.json" =
      some ((env status copied).encode ((env status copied).dumpsIndented (statement status))) := by
  have object : obj (content given).manifest = statement given := rfl
  rw [left redacts, signed_manifest, object, redacts.manifest]

theorem left_signature :
    ((after environ given status copied).storage (pack environ given status copied).path).read "signature.sig" =
      some ((env status copied).encode ((env status copied).dumpsIndented (signatureFile status copied))) := by
  rw [left redacts, signed_signature, redacts.signature]

end

end

theorem plain_redacts : Redacts [] "DONE" "DONE" "DONE" := ⟨by decide +kernel, by decide +kernel⟩

section
variable {files : String → Option (List Char)}

end

end SignedPack

end EvidenceService

end SacmRuntime
