import SacmRuntime.Runtime.EvidenceHistory

namespace SacmRuntime
open Checked Json

namespace EvidenceService
open Redaction

section
variable {Bytes : Type} (env : EvidenceEnv Bytes)

/-- What is written of the document is read back, with its keys in order. -/
def ReadsBack (document : Json) : Prop :=
  readJson env (env.encode (env.dumpsIndented document)) = .ok (.ok document.sortKeys)

def writtenManifest (rules : Rules) (content : RunContent Bytes) : Json :=
  sanitize rules (sanitize rules (.obj content.manifest))

def signedManifest (rules : Rules) (content : RunContent Bytes) : Json := (writtenManifest rules content).sortKeys

/-- The documents of the pack that are read again are read as they were written. -/
structure Legible (entry : Entry Bytes) : Prop where
  manifest : ∀ content, entry.call.gathered = .ok content → ReadsBack env (writtenManifest entry.call.rules content)
  signature : ∀ content signed, entry.call.gathered = .ok content →
    signStatement env entry.call.signing (signedManifest entry.call.rules content) = .ok signed →
      ReadsBack env (sanitize entry.call.rules signed.dump)

/-- The signature scheme accepts what was signed: the key pair belongs together,
or the HMAC key is the one that signed. -/
structure Genuine (signing : Signing) (hmacKey : Except Error (Option String)) : Prop where
  fingerprint : ∀ key, signing.privateKey = some (.ok key) → env.fingerprint key.publicPem = .ok key.fingerprint
  accepts : ∀ key, signing.privateKey = some (.ok key) →
    ∀ text, env.checkEd25519 key.publicPem (key.sign text) text = .ok ()
  sameKey : signing.privateKey = none → hmacKey = signing.hmacKey
  hexadecimal : ∀ key bytes, ∀ c ∈ (env.hmacSha256 key bytes).toList, c.toNat < 128

/-- Redaction leaves the manifest that was written alone, and what a signature
says of itself; and the manifest has no number that differs from itself. -/
structure Undisturbed (call : BuildCall Bytes) (content : RunContent Bytes) : Prop where
  manifest : sanitize call.rules (signedManifest call.rules content) = signedManifest call.rules content
  numbers : equals env.sameNumber (signedManifest call.rules content) (signedManifest call.rules content) = true
  fields : ∀ signed, signStatement env call.signing (signedManifest call.rules content) = .ok signed →
    ∀ text ∈ [signed.algorithm, signed.keyId, signed.signature] ++ signed.publicKeyFingerprint.toList ++
      signed.publicKey.toList, redactText call.rules text = text

/-- A signed pack is not disturbed by redaction; an unsigned one finds no signature of an abandoned call. -/
def Honest (entry : Entry Bytes) : Prop :=
  ∀ content, entry.call.gathered = .ok content →
    if entry.call.signing.present then Undisturbed env entry.call content
    else entry.leftover.read "signature.sig" = none

end

/-- The document says of the signature what the statement does. -/
structure Repeats (document : Json) (signed : SignedStatement) : Prop where
  statement : document.get "statement" = signed.statement
  algorithm : document.get "algorithm" = .str signed.algorithm
  keyId : document.get "key_id" = .str signed.keyId
  fingerprint : document.get "public_key_fingerprint" = .ofOption signed.publicKeyFingerprint
  publicKey : document.get "public_key" = .ofOption signed.publicKey
  signature : document.get "signature" = .str signed.signature

section
variable {Bytes : Type} {env : EvidenceEnv Bytes} {rules : Rules} {signing : Signing}
  {hmacKey : Except Error (Option String)}

theorem sanitize_ofOption {text : Option String} (same : ∀ s ∈ text.toList, redactText rules s = s) :
    sanitize rules (.ofOption text) = .ofOption text := by
  cases text with
  | none => rfl
  | some s => simp [ofOption, sanitize, same s (by simp)]

theorem sortKeys_ofOption (text : Option String) : (ofOption text).sortKeys = .ofOption text := by
  cases text <;> rfl

theorem signed_keys : ∀ key ∈ ["schema_version", "statement", "algorithm", "key_id", "public_key_fingerprint",
    "public_key", "signature", "signed_file"], secretKey key = false := by
  decide +kernel

variable {content : RunContent Bytes} {directory : Directory Bytes} {document statement : Json}
  {signed : SignedStatement}

theorem sanitize_dump (statement : sanitize rules signed.statement = signed.statement)
    (fields : ∀ text ∈ [signed.algorithm, signed.keyId, signed.signature] ++ signed.publicKeyFingerprint.toList ++
      signed.publicKey.toList, redactText rules text = text) :
    sanitize rules signed.dump = .obj [("schema_version", .str (redactText rules "signed-statement/v1")),
      ("statement", signed.statement), ("algorithm", .str signed.algorithm), ("key_id", .str signed.keyId),
      ("public_key_fingerprint", .ofOption signed.publicKeyFingerprint), ("public_key", .ofOption signed.publicKey),
      ("signature", .str signed.signature), ("signed_file", .str (redactText rules "run-manifest.json"))] := by
  have plain := signed_keys
  simp only [List.mem_cons, List.not_mem_nil, or_false, forall_eq_or_imp, forall_eq] at plain
  obtain ⟨k1, k2, k3, k4, k5, k6, k7, k8⟩ := plain
  have fingerprint : sanitize rules (.ofOption signed.publicKeyFingerprint) = .ofOption signed.publicKeyFingerprint :=
    sanitize_ofOption fun s member => fields s (by simp [Option.mem_toList.mp member])
  have publicKey : sanitize rules (.ofOption signed.publicKey) = .ofOption signed.publicKey :=
    sanitize_ofOption fun s member => fields s (by simp [Option.mem_toList.mp member])
  simp [SignedStatement.dump, sanitize, sanitizeFields, k1, k2, k3, k4, k5, k6, k7, k8, statement, fingerprint,
    publicKey, fields signed.algorithm (by simp), fields signed.keyId (by simp), fields signed.signature (by simp)]

theorem repeats_dump (statement : sanitize rules signed.statement = signed.statement)
    (sorted : signed.statement.sortKeys = signed.statement)
    (fields : ∀ text ∈ [signed.algorithm, signed.keyId, signed.signature] ++ signed.publicKeyFingerprint.toList ++
      signed.publicKey.toList, redactText rules text = text) :
    ∃ members, (sanitize rules signed.dump).sortKeys = .obj members ∧ Repeats (.obj members) signed ∧
      ((obj members).field? "statement").isSome = true := by
  rw [sanitize_dump statement fields]
  refine ⟨_, by rw [sortKeys], ?_, ?_⟩
  · constructor
    all_goals
      rw [← sortKeys, get_sortKeys _ (by simp)]
    · exact sorted
    · rfl
    · rfl
    · exact sortKeys_ofOption _
    · exact sortKeys_ofOption _
    · rfl
  · rw [← sortKeys, field_sortKeys _ (by simp)]
    rfl

theorem signStatement_ok (made : signStatement env signing statement = .ok signed) : signed.statement = statement ∧
      ((∃ key, signing.privateKey = some (.ok key) ∧ signed.algorithm = "ed25519" ∧
          signed.publicKey = some key.publicPem ∧ signed.publicKeyFingerprint = some key.fingerprint ∧
          signed.signature = key.sign (statement.text false)) ∨
        ∃ found key, signing.privateKey = none ∧ signing.hmacKey = .ok found ∧ found.filter (· ≠ "") = some key ∧
          signed.algorithm = "hmac-sha256" ∧
          signed.signature = env.hmacSha256 key (env.encode (statement.text false))) := by
  unfold signStatement at made
  cases loaded : signing.privateKey with
  | some key =>
    rw [loaded] at made
    obtain ⟨key, rfl, made⟩ := bind_ok made
    cases made
    exact ⟨rfl, .inl ⟨key, rfl, rfl, rfl, rfl, rfl⟩⟩
  | none =>
    rw [loaded] at made
    obtain ⟨found, configured, made⟩ := bind_ok made
    cases given : found.filter (· ≠ "") with
    | none =>
      rw [given] at made
      cases made
    | some key =>
      rw [given] at made
      cases made
      exact ⟨rfl, .inr ⟨found, key, rfl, configured, given, rfl, rfl⟩⟩

theorem signatureAccepted_ok (genuine : Genuine env signing hmacKey)
    (made : signStatement env signing statement = .ok signed) (repeats : Repeats document signed) :
    signatureAccepted env hmacKey document statement signed.signature = .ok () := by
  obtain ⟨-, ⟨key, loaded, algorithm, publicKey, fingerprint, signature⟩ |
    ⟨found, key, unloaded, configured, given, algorithm, signature⟩⟩ := signStatement_ok made
  · have first : document.get "algorithm" = .str "ed25519" := by rw [repeats.algorithm, algorithm]
    have pem : document.get "public_key" = .str key.publicPem := by rw [repeats.publicKey, publicKey]; rfl
    have print : document.get "public_key_fingerprint" = .str key.fingerprint := by
      rw [repeats.fingerprint, fingerprint]; rfl
    unfold signatureAccepted
    rw [if_pos first, pem, signature]
    simp [genuine.fingerprint key loaded, print, genuine.accepts key loaded, bind, Except.bind]
  · have second : document.get "algorithm" = .str "hmac-sha256" := by rw [repeats.algorithm, algorithm]
    have ascii : signed.signature.toList.all (·.toNat < 128) = true := by
      rw [signature, List.all_eq_true]
      intro c member
      simpa using genuine.hexadecimal _ _ c member
    unfold signatureAccepted
    rw [if_neg (by simp [second]), if_pos second, genuine.sameKey unloaded, configured]
    simp only [bind, Except.bind, given, ascii, if_true]
    rw [if_pos signature.symm]

theorem textField_ofOption (text : Option String) : textField (.ofOption text) = .ok text := by
  cases text <;> rfl

theorem verifySignedStatement_ok {members : List (String × Json)} (genuine : Genuine env signing hmacKey)
    (made : signStatement env signing (.obj members) = .ok signed) (repeats : Repeats document signed) :
    ∃ result, verifySignedStatement env hmacKey document = .ok result ∧ result.errors = [] ∧
      result.status = .valid := by
  have statement : document.get "statement" = .obj members := by
    rw [repeats.statement, (signStatement_ok made).1]
  have accepted := signatureAccepted_ok genuine made repeats
  unfold verifySignedStatement
  rw [statement, repeats.signature, repeats.algorithm, repeats.keyId, repeats.fingerprint, textField_ofOption]
  simp only [accepted, textField, bind, Except.bind]
  exact ⟨_, rfl, rfl, rfl⟩

theorem signedManifest_obj (rules : Rules) (content : RunContent Bytes) :
    ∃ members, signedManifest rules content = .obj members := by
  unfold signedManifest writtenManifest
  rw [sanitize, sanitize, sortKeys]
  exact ⟨_, rfl⟩

theorem signedManifest_sorted (content : RunContent Bytes) :
    (signedManifest rules content).sortKeys = signedManifest rules content := sortKeys_sortKeys _

theorem writeContent_signature :
    (writeContent env rules content directory).read "signature.sig" = directory.read "signature.sig" := by
  have other : ∀ file : RecordedFile, file.name ≠ "signature.sig" := by
    intro file
    cases file <;> decide
  unfold writeContent writeJson
  rw [Directory.read_writeFiles_ne other, Directory.read_write_ne (by decide), Directory.read_writeFiles_ne other,
    Directory.read_write_ne (by decide), Directory.read_write_ne (by decide), Directory.read_write_ne (by decide),
    Directory.read_write_ne (by decide), Directory.read_write_ne (by decide)]

theorem writeSignature_unsigned {after : Directory Bytes} {signed : Option SignedStatement}
    (absent : signing.present = false) (ran : writeSignature env rules signing directory = .ok (signed, after)) :
    signed = none ∧ after = directory := by
  unfold writeSignature at ran
  rw [if_neg (by simp [absent])] at ran
  cases ran
  exact ⟨rfl, rfl⟩

theorem built_manifest {leftover : Directory Bytes} {signed : Option SignedStatement}
    (wrote : writeSignature env rules signing (writeContent env rules content leftover) = .ok (signed, directory)) :
    (writeChecksums env directory).read "run-manifest.json" =
      some (env.encode (env.dumpsIndented (writtenManifest rules content))) := by
  cases present : signing.present with
  | true =>
    obtain ⟨_, _, _, -, -, -, -, rfl⟩ := writeSignature_ok present wrote
    exact signed_manifest
  | false =>
    obtain ⟨-, rfl⟩ := writeSignature_unsigned present wrote
    unfold writeChecksums
    rw [Directory.read_write_ne (by decide), writeContent_manifest]
    rfl

end

section
variable {Bytes : Type} {env : EvidenceEnv Bytes} {log : List (Entry Bytes)} {d : EvidenceDb Bytes}
  {entry : Entry Bytes} {hmacKey : Except Error (Option String)}

section
variable (filed : Filed env d entry)
include filed

theorem Filed.manifestCheck (legible : Legible env entry) :
    ∃ content, entry.call.gathered = .ok content ∧ EvidenceService.manifestCheck env (d.storage entry.pack.path).read
      entry.pack = .ok ([], signedManifest entry.call.rules content) := by
  obtain ⟨before, content, signed, directory, gathered, wrote, row, -, built⟩ := filed.made
  have manifest := built_manifest wrote
  have hash : entry.pack.manifestHash =
      env.sha256 (env.encode (env.dumpsIndented (writtenManifest entry.call.rules content))) := by
    rw [row, manifest]
    rfl
  have read := legible.manifest content gathered
  unfold ReadsBack at read
  obtain ⟨members, object⟩ := signedManifest_obj entry.call.rules content
  refine ⟨content, gathered, ?_⟩
  unfold EvidenceService.manifestCheck
  rw [built, manifest, object]
  unfold signedManifest at object
  rw [object] at read
  simp [read, bind, Except.bind, hash]

theorem Filed.signatureCheck {content : RunContent Bytes} (legible : Legible env entry) (honest : Honest env entry)
    (genuine : Genuine env entry.call.signing hmacKey) (gathered : entry.call.gathered = .ok content) :
    ∃ result, EvidenceService.signatureCheck env hmacKey (d.storage entry.pack.path).read entry.pack
      (signedManifest entry.call.rules content) = .ok ([], result) ∧
        result.status = if entry.call.signing.present then .valid else .unsigned := by
  obtain ⟨before, content', signed, directory, gathered', wrote, row, -, built⟩ := filed.made
  cases Except.ok.inj (gathered.symm.trans gathered')
  have condition := honest content gathered
  cases present : entry.call.signing.present with
  | true =>
    rw [present, if_pos rfl] at condition
    obtain ⟨bytes, manifest, statement, found, read, made, rfl, rfl⟩ := writeSignature_ok present wrote
    have manifest_eq : manifest = signedManifest entry.call.rules content := by
      rw [writeContent_manifest] at found
      cases found
      have again := legible.manifest content gathered
      unfold ReadsBack writtenManifest at again
      cases read.symm.trans again
      rfl
    subst manifest_eq
    obtain ⟨sameStatement, -⟩ := signStatement_ok made
    have undisturbed : sanitize entry.call.rules statement.statement = statement.statement := by
      rw [sameStatement]
      exact condition.manifest
    have sorted : statement.statement.sortKeys = statement.statement := by
      rw [sameStatement]
      exact signedManifest_sorted content
    obtain ⟨members, object, repeats, stated⟩ := repeats_dump undisturbed sorted (condition.fields statement made)
    have signatureRead := legible.signature content statement gathered made
    unfold ReadsBack at signatureRead
    rw [object] at signatureRead
    obtain ⟨manifestMembers, manifestObject⟩ := signedManifest_obj entry.call.rules content
    rw [manifestObject] at made
    obtain ⟨result, verified, clean, valid⟩ := verifySignedStatement_ok genuine made repeats
    refine ⟨result, ?_, valid⟩
    rw [built]
    refine signatureCheck_ok signed_signature signatureRead stated ?_ ?_ verified clean
    · rw [repeats.statement, sameStatement]
      exact condition.numbers
    · have recorded : recordedFields entry.pack = [("algorithm", some statement.algorithm),
          ("key_id", some statement.keyId), ("public_key_fingerprint", statement.publicKeyFingerprint),
          ("public_key", statement.publicKey), ("signature", some statement.signature)] := by
        rw [row]
        rfl
      rw [recorded]
      simp only [List.mem_cons, List.not_mem_nil, or_false, forall_eq_or_imp, forall_eq]
      exact ⟨repeats.algorithm, repeats.keyId, repeats.fingerprint, repeats.publicKey, repeats.signature⟩
  | false =>
    rw [present, if_neg (by simp)] at condition
    obtain ⟨rfl, rfl⟩ := writeSignature_unsigned present wrote
    have absent : (d.storage entry.pack.path).read "signature.sig" = none := by
      rw [built]
      unfold writeChecksums
      rw [Directory.read_write_ne (by decide), writeContent_signature, condition]
    unfold EvidenceService.signatureCheck
    rw [absent]
    exact ⟨_, rfl, rfl⟩

theorem Filed.chainCheck : EvidenceService.chainCheck env d entry.pack = ([], true) := by
  obtain ⟨before, content, signed, directory, -, -, row, -, -⟩ := filed.made
  have sealed_ : entry.pack.packHash = some (canonicalSha256 env
      (packSeal entry.pack.manifestHash entry.pack.previousPackHash entry.pack.signature)) := by
    rw [row]
    rfl
  have follows := filed.follows
  unfold predecessor at follows
  unfold EvidenceService.chainCheck packsOf
  rw [sealed_]
  simp only [← follows]
  simp

theorem Filed.verifies (ideal : Ideal env) (legible : Legible env entry) (honest : Honest env entry)
    (genuine : Genuine env entry.call.signing hmacKey) :
    ∃ result after, verify env (.ok ()) hmacKey d (d.storage entry.pack.path).read entry.pack.runId entry.pack.id =
      .ok (result, after) ∧ result.errors = [] ∧ result.chainValid = true ∧
        result.status = if entry.call.signing.present then .valid else .unsigned := by
  obtain ⟨content, gathered, manifest⟩ := filed.manifestCheck legible
  obtain ⟨signature, signed, status⟩ := filed.signatureCheck legible honest genuine gathered
  have chain := filed.chainCheck
  obtain ⟨tidy, ⟨before, content', statement, directory, gathered', wrote, row, root, built⟩, ⟨written, kept⟩, -⟩ :=
    filed
  have listed : checksumCheck env (d.storage entry.pack.path).read = .ok [] := by
    rw [built]
    exact checksums_fit ideal (writeSignature_tidy (writeContent_tidy tidy) wrote)
  obtain ⟨result, after, ran, errors, verdict_, chained⟩ := verify_returns kept manifest listed signed
  rw [root, chain] at errors
  rw [chain] at chained
  have clean : result.errors = [] := by simpa using errors
  refine ⟨result, after, ran, clean, chained, ?_⟩
  rw [verdict_, clean, status]
  cases entry.call.signing.present <;> rfl

end

theorem Course.entry_of_pack (course : Course env log d) {pack : EvidencePack} (member : pack ∈ d.packs) :
    ∃ entry ∈ log, ∃ status, pack = { entry.pack with verificationStatus := status } := by
  induction course generalizing pack with
  | start => cases member
  | abandoned course fresh packs ih => exact ih (packs ▸ member)
  | built course fresh packs ih =>
    rw [packs] at member
    rcases List.mem_append.mp member with old | new
    · obtain ⟨entry, logged, same⟩ := ih old
      exact ⟨entry, List.mem_append_left _ logged, same⟩
    · rw [List.mem_singleton.mp new]
      exact ⟨_, List.mem_append_right _ List.mem_cons_self, _, rfl⟩
  | verified course ran ih =>
    obtain ⟨written, same⟩ := verify_writes ran
    rw [same] at member
    obtain ⟨other, old, rfl⟩ := List.mem_map.mp member
    obtain ⟨entry, logged, status, rfl⟩ := ih old
    refine ⟨entry, logged, ?_⟩
    split
    · exact ⟨written, rfl⟩
    · exact ⟨status, rfl⟩

/-- In every course whose signed packs redaction does not disturb, and whose
unsigned packs find no old signature, every pack verifies at any time. -/
theorem honest_evidence_verifies (ideal : Ideal env) (course : Course env log d)
    (legible : ∀ entry ∈ log, Legible env entry) (honest : ∀ entry ∈ log, Honest env entry)
    (genuine : ∀ entry ∈ log, Genuine env entry.call.signing hmacKey) {pack : EvidencePack} (member : pack ∈ d.packs) :
    ∃ entry ∈ log, entry.pack.id = pack.id ∧ entry.pack.runId = pack.runId ∧
      ∃ result after, verify env (.ok ()) hmacKey d (d.storage pack.path).read pack.runId pack.id =
        .ok (result, after) ∧ result.errors = [] ∧ result.chainValid = true ∧
          result.status = if entry.call.signing.present then .valid else .unsigned := by
  obtain ⟨entry, logged, status, rfl⟩ := course.entry_of_pack member
  exact ⟨entry, logged, rfl, rfl,
    (course.filed.2 entry logged).verifies ideal (legible entry logged) (honest entry logged) (genuine entry logged)⟩

end

theorem signatureCheck_clean {Bytes : Type} {env : EvidenceEnv Bytes} {hmacKey : Except Error (Option String)}
    {files : String → Option Bytes} {pack : EvidencePack} {bytes : Bytes} {members : List (String × Json)}
    {manifest : Json} {result : VerificationResultV1} (found : files "signature.sig" = some bytes)
    (read : readJson env bytes = .ok (.ok (.obj members)))
    (stated : ((obj members).field? "statement").isSome = true)
    (ran : signatureCheck env hmacKey files pack manifest = .ok ([], result)) :
    equals env.sameNumber ((obj members).get "statement") manifest = true := by
  have present : ((obj members).field? "statement").isNone = false := by
    rw [← Option.not_isSome, stated]
    rfl
  unfold signatureCheck at ran
  rw [found] at ran
  simp only [read, bind, Except.bind, present] at ran
  rw [if_neg (by simp)] at ran
  by_contra different
  split at ran
  · cases ran
  · rw [if_neg different] at ran
    cases ran

namespace SignedPack
variable {environ : List (String × String)} {given status copied : String}

def packEntry (environ : List (String × String)) (given status copied : String) : Entry (List Char) :=
  ⟨call environ given, [], pack environ given status copied⟩

section
variable (redacts : Redacts environ given status copied)
include redacts

theorem course :
    Course (env status copied) [packEntry environ given status copied] (after environ given status copied) := by
  obtain ⟨_, _, _, -, -, -, -, packs, -⟩ := build_ok (built redacts)
  have fresh : Fresh before (call environ given) := ⟨by simp [before], by simp [before], by simp [before]⟩
  have added : (build (env status copied) (call environ given) before).2.packs =
      before.packs ++ [pack environ given status copied] := by
    rw [built redacts]
    exact packs
  have first : Course (env status copied) [] before := Course.start
  have second := first.built fresh added
  rw [built redacts, List.nil_append] at second
  dsimp only at second
  exact second

theorem manifest_eq :
    signedManifest (rules environ) (content given) = statement status := by
  have object : obj (content given).manifest = statement given := rfl
  unfold signedManifest writtenManifest
  rw [object, redacts.manifest]
  rfl

theorem legible :
    Legible (env status copied) (packEntry environ given status copied) := by
  constructor
  · intro other gathered
    cases gathered
    have object : obj (content given).manifest = statement given := rfl
    change ReadsBack _ (writtenManifest (rules environ) (content given))
    unfold ReadsBack writtenManifest
    rw [object, redacts.manifest]
    exact manifest_read
  · intro other signed' gathered made
    cases gathered
    change signStatement _ (call environ given).signing (signedManifest (rules environ) (content given)) = _ at made
    rw [manifest_eq redacts, signed_made] at made
    cases made
    change ReadsBack _ (sanitize (rules environ) (signed status).dump)
    unfold ReadsBack
    rw [redacts.signature]
    exact signature_read status copied

end

theorem genuine :
    Genuine (env status copied) (packEntry environ given status copied).call.signing (.ok (some "key")) where
  fingerprint _ loaded := by cases loaded
  accepts _ loaded := by cases loaded
  sameKey _ := rfl
  hexadecimal key bytes c member := by
    have small : ∀ c ∈ "0123456789abcdef".toList, c.toNat < 128 := by decide
    exact small c (HexText.digits_mem (by simpa [env, mac] using member))

theorem plain_honest : Honest (env "DONE" "DONE") (packEntry [] "DONE" "DONE" "DONE") := by
  intro other gathered
  cases gathered
  have manifest := manifest_eq plain_redacts
  rw [if_pos (by rfl)]
  constructor
  · change sanitize (rules []) (signedManifest (rules []) (content "DONE")) = signedManifest (rules []) (content "DONE")
    rw [manifest]
    decide +kernel
  · change equals _ (signedManifest (rules []) (content "DONE")) (signedManifest (rules []) (content "DONE")) = true
    rw [manifest]
    decide +kernel
  · intro signed' made
    change signStatement _ (call [] "DONE").signing (signedManifest (rules []) (content "DONE")) = _ at made
    rw [manifest, signed_made] at made
    cases made
    change ∀ text ∈ _, redactText (rules []) text = text
    decide +kernel

theorem disturbed_redacts : Redacts [("API_TOKEN", "]abc")] "]abcabcabc" "[REDACTED[REDACTED]abc"
    "[REDACTED[REDACTED[REDACTED]" := ⟨by decide +kernel, by decide +kernel⟩

section
variable (redacts : Redacts environ given status copied)
include redacts

theorem copy_found {result : VerificationResultV1}
    (ran : signatureCheck (env status copied) (.ok (some "key"))
      ((after environ given status copied).storage (pack environ given status copied).path).read
    (pack environ given status copied) (statement status) = .ok ([], result)) :
    equals same (statement copied) (statement status) = true := by
  obtain ⟨members, object⟩ : ∃ members, (signatureFile status copied).sortKeys = .obj members := ⟨_, rfl⟩
  have keys : (signatureFile status copied).sortKeys.field? "statement" = some (statement copied) := by
    rw [signatureFile, SignedStatement.dump, field_sortKeys _ (by simp)]
    rfl
  have read := signature_read status copied
  rw [object] at read keys
  have repeated := signatureCheck_clean (left_signature redacts) read (by rw [keys]; rfl) ran
  rw [get_eq_field, keys] at repeated
  exact repeated

theorem pack_listed :
    pack environ given status copied ∈ (after environ given status copied).packs := by
  obtain ⟨_, _, _, -, -, -, -, packs, -⟩ := build_ok (built redacts)
  rw [packs]
  exact List.mem_append_right _ List.mem_cons_self

theorem copy_refused (different : equals same (statement copied) (statement status) = false) :
    ¬∃ result later, verify (env status copied) (.ok ()) (.ok (some "key")) (after environ given status copied)
      ((after environ given status copied).storage (pack environ given status copied).path).read
      (pack environ given status copied).runId (pack environ given status copied).id = .ok (result, later) ∧
        result.errors = [] := by
  rintro ⟨result, later, ran, clean⟩
  obtain ⟨manifest, checksums, signature, checked, listed, sig, errors, -, -⟩ := verify_ok (kept redacts) ran
  have silent : signature.1 = [] := by
    rw [clean] at errors
    simp only [List.nil_eq, List.append_eq_nil_iff] at errors
    exact errors.1.2
  have read : manifest.2 = statement status := by
    rw [(manifestCheck_ok checked).1]
    unfold manifestOf
    rw [left_manifest redacts, Option.map_some, manifest_read]
    rfl
  have passed : signature = ([], signature.2) := Prod.ext silent rfl
  rw [read, passed] at sig
  rw [copy_found redacts sig] at different
  cases different

end

/-- What is refused although the assumptions hold of it. -/
structure Refused (environment : EvidenceEnv (List Char)) (entry : Entry (List Char)) (d : EvidenceDb (List Char)) :
    Prop where
  ideal : Ideal environment
  course : Course environment [entry] d
  listed : entry.pack ∈ d.packs
  signing : entry.call.signing.present = true
  legible : Legible environment entry
  genuine : Genuine environment entry.call.signing (.ok (some "key"))
  refused : ¬∃ result later, verify environment (.ok ()) (.ok (some "key")) d (d.storage entry.pack.path).read
    entry.pack.runId entry.pack.id = .ok (result, later) ∧ result.errors = []

theorem refused_of_copy (redacts : Redacts environ given status copied)
    (different : equals same (statement copied) (statement status) = false) :
    Refused (env status copied) (packEntry environ given status copied) (after environ given status copied) := by
  refine ⟨ideal, course redacts, ?_, rfl, legible redacts, genuine, ?_⟩
  · dsimp only [packEntry]
    exact pack_listed redacts
  · dsimp only [packEntry]
    exact copy_refused redacts different

end SignedPack

open SignedPack in
theorem honest_evidence_sample : ∃ entry ∈ [packEntry [] "DONE" "DONE" "DONE"], entry.pack.id = "pack-1" ∧
    entry.pack.runId = "run-1" ∧
      ∃ result later, verify (env "DONE" "DONE") (.ok ()) (.ok (some "key")) (after [] "DONE" "DONE" "DONE")
        ((after [] "DONE" "DONE" "DONE").storage (pack [] "DONE" "DONE" "DONE").path).read "run-1" "pack-1" =
          .ok (result, later) ∧ result.errors = [] ∧ result.chainValid = true ∧
            result.status = if entry.call.signing.present then .valid else .unsigned := by
  exact honest_evidence_verifies ideal (course plain_redacts) (by simpa using legible plain_redacts)
    (by simpa using plain_honest) (by simpa using genuine) (pack_listed plain_redacts)

open SignedPack in
/-- The text is redacted once more in the signature file than in the manifest. The
pack does not verify, in a course of which the assumptions hold. -/
theorem redaction_disturbs : ¬"]abc".toList <:+: "[REDACTED]".toList ∧
    Refused (env "[REDACTED[REDACTED]abc" "[REDACTED[REDACTED[REDACTED]")
      (packEntry [("API_TOKEN", "]abc")] "]abcabcabc" "[REDACTED[REDACTED]abc" "[REDACTED[REDACTED[REDACTED]")
      (after [("API_TOKEN", "]abc")] "]abcabcabc" "[REDACTED[REDACTED]abc" "[REDACTED[REDACTED[REDACTED]") :=
  ⟨by decide +kernel, refused_of_copy disturbed_redacts (by decide +kernel)⟩

end EvidenceService

end SacmRuntime
