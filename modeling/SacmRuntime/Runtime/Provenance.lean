import SacmRuntime.Lib.JsonIndent
import SacmRuntime.Runtime.HonestEvidence
import SacmRuntime.Runtime.RunService

namespace SacmRuntime
open Json
namespace EvidenceService
open Redaction

/-- `_signing_metadata()["algorithm"]`. -/
def Signing.algorithm (signing : Signing) : Option String :=
  if signing.privateKey.isSome then some "ed25519" else if signing.hmacConfigured then some "hmac-sha256" else none

/-- What `build` puts in the manifest of a run. -/
structure RunManifest where
  run : Run
  events : List RuntimeEvent
  signing : Signing
  snapshot : Json
  replay : Json
  taskContext : Json
  applicationContext : Json
  executionPlan : Json
  policySecurityApprovals : Json
  deliveryEvidence : Json
  costs : Json
  verificationMatrix : Json
  traceability : Json
  artifactInventory : Json
  supplyChainRecords : Json
  supplyChainCompleteness : Json

/-- `manifest`, before `_sanitize`. -/
def RunManifest.fields (m : RunManifest) : List (String × Json) :=
  [("schema_version", .str "run-manifest/v2"), ("evidence_pack_version", .str "2.0"),
    ("evidence_pack_schema_version", .str "evidence-pack/v2"), ("run_id", .str m.run.id),
      ("task_id", .str m.run.taskId),
    ("status", .str m.run.status.name), ("workflow_version", .str m.run.workflowVersion),
    ("source_revision", .ofOption m.run.sourceRevision),
    ("recovery", .obj [("state", m.run.recoveryState.getD .null), ("attempt_count", .int m.run.recoveryAttemptCount),
      ("last_failure_classification", .ofOption m.run.lastFailureClassification),
      ("last_action", .ofOption m.run.lastRecoveryAction)]),
    ("event_chain_hash", .ofOption (m.events.getLast?.map RuntimeEvent.eventHash)), ("snapshot", m.snapshot),
    ("replay", m.replay), ("task", m.taskContext), ("readiness", m.taskContext.get "readiness"),
    ("application_context", m.applicationContext), ("execution_plan", m.executionPlan),
    ("policy_security_approvals", m.policySecurityApprovals), ("delivery", m.deliveryEvidence), ("usage_cost", m.costs),
    ("verification_matrix", m.verificationMatrix), ("traceability", m.traceability), ("artifacts", m.artifactInventory),
    ("supply_chain", .obj [("records", m.supplyChainRecords), ("completeness", m.supplyChainCompleteness)]),
    ("event_chain", .obj [("algorithm", .str "sha256"), ("event_count", .int m.events.length),
      ("first_event_hash", .ofOption (m.events.head?.map RuntimeEvent.eventHash)),
      ("last_event_hash", .ofOption (m.events.getLast?.map RuntimeEvent.eventHash)),
      ("sequences", .arr (m.events.map fun event => .int event.sequence))]),
    ("integrity", .obj [("manifest_checksum_algorithm", .str "sha256"), ("checksums_file", .str "checksums.sha256"),
      ("signature", .obj [("present", .bool m.signing.present), ("algorithm", .ofOption m.signing.algorithm),
        ("key_id", .ofOption m.signing.keyId),
          ("path", .ofOption (if m.signing.present then some "signature.sig" else none)),
        ("signed_file", .str "run-manifest.json")])])]

section
variable {Bytes : Type} (env : EvidenceEnv Bytes)

/-- The digest `_write_provenance` takes of the manifest. -/
def compactDigest (manifest : Json) : String := env.sha256 (env.encode (manifest.text true))

/-- The statement `_write_provenance` writes. -/
def provenanceStatement (run : Run) (manifest : Json) : Json :=
  .obj [("_type", .str "https://in-toto.io/Statement/v1"),
    ("subject", .arr [.obj [("name", .str "run-manifest.json"),
      ("digest", .obj [("sha256", .str (compactDigest env manifest))])]]),
    ("predicateType", .str "https://slsa.dev/provenance/v1"),
    ("predicate", .obj [
      ("buildDefinition", .obj [("buildType", .str "https://sacm.dev/run/v1"),
        ("externalParameters", .obj [("task_id", .str run.taskId)]),
        ("internalParameters", .obj [("workflow_version", .str run.workflowVersion)]),
        ("resolvedDependencies", .arr [.obj [("uri", .str (run.targetRepoPath.getD "")),
          ("digest",
            .obj (((run.sourceRevision.filter (· ≠ "")).map fun revision =>
            ("gitCommit", .str revision)).toList))]])]),
      ("runDetails", .obj [("builder", .obj [("id", .str "sacm-agent-runtime")])])])]

/-- The content of a run has its manifest, and the statement about it. -/
structure Describes (m : RunManifest) (content : RunContent Bytes) : Prop where
  manifest : content.manifest = m.fields
  provenance : content.provenance = provenanceStatement env m.run

/-- The provenance file of the directory is read, and gives the manifest this digest. -/
def Identifies (directory : Directory Bytes) (digest : String) : Prop :=
  ∃ bytes document, directory.read RecordedFile.provenance.name = some bytes ∧
    readJson env bytes = .ok (.ok document) ∧
    ∃ subject ∈ (document.get "subject").items, subject.get "name" = .str "run-manifest.json" ∧
      (subject.get "digest").get "sha256" = .str digest

def Indents : Prop := ∀ document : Json, env.dumpsIndented document = String.ofList (document.indented 0)

end

section
variable {rules : Rules}

theorem replaceSecret_marks (secret : List Char) (skip : Nat) (text : List Char) (whole : skip = 0) :
    replaceSecret secret skip text = text ∨ '[' ∈ replaceSecret secret skip text := by
  induction text with
  | nil => exact .inl rfl
  | cons c rest ih =>
    subst whole
    rw [replaceSecret]
    split
    · exact .inr (List.mem_append_left _ (by decide))
    · rcases ih with same | marked
      · exact .inl (congrArg (c :: ·) same)
      · exact .inr (List.mem_cons_of_mem c marked)

theorem subAssignments_marks (prev : Option Char) (text : List Char) :
    subAssignments rules prev 0 text = text ∨ '[' ∈ subAssignments rules prev 0 text := by
  induction text generalizing prev with
  | nil => exact .inl rfl
  | cons c rest ih =>
    rw [subAssignments]
    split
    · exact .inr (List.mem_append_left _ (List.mem_append_right _ (by decide)))
    · rcases ih (some c) with same | marked
      · exact .inl (congrArg (c :: ·) same)
      · exact .inr (List.mem_cons_of_mem c marked)

theorem replaceSecrets_marks (secrets : List String) (text : List Char) :
    secrets.foldl (fun text secret => replaceSecret secret.toList 0 text) text = text ∨
      '[' ∈ secrets.foldl (fun text secret => replaceSecret secret.toList 0 text) text := by
  induction secrets generalizing text with
  | nil => exact .inl rfl
  | cons secret rest ih =>
    rw [List.foldl_cons]
    rcases replaceSecret_marks secret.toList 0 text rfl with same | marked
    · rw [same]
      exact ih text
    · rcases ih (replaceSecret secret.toList 0 text) with same | still
      · rw [same]
        exact .inr marked
      · exact .inr still

theorem redactText_marks (rules : Rules) (text : String) :
    redactText rules text = text ∨ '[' ∈ (redactText rules text).toList := by
  unfold redactText
  rw [String.toList_ofList]
  rcases replaceSecrets_marks (secrets rules) (subAssignments rules none 0 text.toList) with same | marked
  · rw [same]
    rcases subAssignments_marks none text.toList with kept | marked
    · rw [kept, String.ofList_toList]
      exact .inl rfl
    · exact .inr marked
  · exact .inr marked

end

section
variable {Bytes : Type} {env : EvidenceEnv Bytes} {rules : Rules} {signing : Signing} {content : RunContent Bytes}
  {m : RunManifest} {leftover directory : Directory Bytes} {signed : Option SignedStatement}

theorem subject_keys : ∀ key ∈ ["subject", "name", "digest", "sha256"], secretKey key = false := by
  decide +kernel

theorem name_injective : Function.Injective RecordedFile.name := by
  intro first second same
  cases first <;> cases second <;> first | rfl | (revert same; decide)

theorem read_files_free {files : List (RecordedFile × Bytes)} {file : RecordedFile}
    (free : ∀ other ∈ files, other.1 ≠ file) :
    (files.foldl (fun directory file => directory.write file.1.name file.2) directory).read file.name =
      directory.read file.name := by
  induction files generalizing directory with
  | nil => rfl
  | cons other rest ih =>
    have different : file.name ≠ other.1.name := fun same => free other List.mem_cons_self (name_injective same).symm
    rw [List.foldl_cons, ih fun later member => free later (List.mem_cons_of_mem _ member),
      Directory.read_write_ne different]

theorem built_provenance (generated : ∀ file ∈ content.external, file.1 ≠ .provenance)
    (wrote : writeSignature env rules signing (writeContent env rules content leftover) = .ok (signed, directory)) :
    (writeChecksums env directory).read RecordedFile.provenance.name =
      some (env.encode
        (env.dumpsIndented (sanitize rules (content.provenance (sanitize rules (.obj content.manifest)))))) := by
  have written : (writeContent env rules content leftover).read RecordedFile.provenance.name =
      some (env.encode
          (env.dumpsIndented (sanitize rules (content.provenance (sanitize rules (.obj content.manifest)))))) := by
    unfold writeContent writeJson
    rw [read_files_free generated, Directory.read_write_self]
  cases present : signing.present with
  | true =>
    obtain ⟨_, _, _, -, -, -, -, rfl⟩ := writeSignature_ok present wrote
    unfold writeChecksums writeJson
    rw [Directory.read_write_ne (by decide), Directory.read_write_ne (by decide), written]
  | false =>
    obtain ⟨-, rfl⟩ := writeSignature_unsigned present wrote
    unfold writeChecksums
    rw [Directory.read_write_ne (by decide), written]

theorem read_digest {document subject : Json} {run : Run} {manifest : Json}
    (read : document = (sanitize rules (provenanceStatement env run manifest)).sortKeys)
    (member : subject ∈ (document.get "subject").items) :
    (subject.get "digest").get "sha256" = .str (redactText rules (compactDigest env manifest)) := by
  have plain := subject_keys
  simp only [List.mem_cons, List.not_mem_nil, or_false, forall_eq_or_imp, forall_eq] at plain
  obtain ⟨subjectKey, nameKey, digestKey, shaKey⟩ := plain
  have items : (document.get "subject").items =
      [(obj [("name", .str (redactText rules "run-manifest.json")),
        ("digest", .obj [("sha256", .str (redactText rules (compactDigest env manifest)))])]).sortKeys] := by
    rw [read, provenanceStatement, sanitize, get_sortKeys "subject" (by simp [sanitizeFields])]
    simp [sanitizeFields, sanitize, sanitizeItems, Json.get, sortKeys, sortItems, items, subjectKey, nameKey,
      digestKey, shaKey]
  rw [items, List.mem_singleton] at member
  rw [member, get_sortKeys "digest" (by simp)]
  simp [Json.get, sortKeys, sortFields, sortByKey]

theorem digests_differ {fields others : List (String × Json)} (ideal : Ideal env) (indents : Indents env)
    (some_ : fields ≠ []) (others_ : others ≠ []) :
    compactDigest env (.obj fields) ≠ env.sha256 (env.encode (env.dumpsIndented (.obj others))) := by
  intro same
  obtain ⟨compact, compactText⟩ := dumps_obj_head true some_
  obtain ⟨lines, indentedText⟩ := indented_obj_head others_
  have texts := congrArg env.readText (ideal.injective same)
  rw [ideal.readable, ideal.readable, indents, indentedText, text, compactText] at texts
  have lists := String.ofList_injective (Option.some.inj texts)
  simp [universalNewlines] at lists

theorem sanitizeFields_ne_nil {fields : List (String × Json)} (some_ : fields ≠ []) :
    sanitizeFields rules fields ≠ [] := by
  cases fields with
  | nil => exact absurd rfl some_
  | cons field rest =>
    obtain ⟨k, v⟩ := field
    unfold sanitizeFields
    exact List.cons_ne_nil _ _

theorem not_identifies (ideal : Ideal env) (indents : Indents env)
    (hexadecimal : ∀ bytes, ∀ c ∈ (env.sha256 bytes).toList, c ∈ "0123456789abcdef".toList)
    (describes : Describes env m content) (generated : ∀ file ∈ content.external, file.1 ≠ .provenance)
    (reads : ReadsBack env (sanitize rules (content.provenance (sanitize rules (.obj content.manifest)))))
    (wrote : writeSignature env rules signing (writeContent env rules content leftover) = .ok (signed, directory)) :
    ¬Identifies env (writeChecksums env directory)
      (env.sha256 (env.encode (env.dumpsIndented (writtenManifest rules content)))) := by
  rintro ⟨bytes, document, found, read, subject, member, -, digest⟩
  rw [built_provenance generated wrote] at found
  cases found
  unfold ReadsBack at reads
  rw [reads, describes.provenance] at read
  cases read
  have recorded := read_digest rfl member
  rw [digest] at recorded
  have same := str.inj recorded
  have some_ : content.manifest ≠ [] := by
    rw [describes.manifest]
    exact List.cons_ne_nil _ _
  rcases redactText_marks rules (compactDigest env (sanitize rules (.obj content.manifest))) with kept | marked
  · rw [kept, writtenManifest, sanitize, sanitize] at same
    exact digests_differ ideal indents (sanitizeFields_ne_nil some_)
      (sanitizeFields_ne_nil (sanitizeFields_ne_nil some_)) same.symm
  · rw [← same] at marked
    exact absurd (hexadecimal _ '[' marked) (by decide)

theorem built_pack {d e : EvidenceDb Bytes} {call : BuildCall Bytes} {pack : EvidencePack}
    (gathered : call.gathered = .ok content) (ran : build env call d = (.ok pack, e)) :
    ∃ signed directory, writeSignature env call.rules call.signing
        (writeContent env call.rules content (d.storage (directoryName d call))) = .ok (signed, directory) ∧
      e.storage pack.path = writeChecksums env directory ∧
      pack.manifestHash = env.sha256 (env.encode (env.dumpsIndented (writtenManifest call.rules content))) := by
  obtain ⟨other, signed, directory, gathered', -, wrote, row, -, storage⟩ := build_ok ran
  rw [gathered] at gathered'
  cases gathered'
  have path : pack.path = directoryName d call := by
    rw [row]
    rfl
  refine ⟨signed, directory, wrote, ?_, ?_⟩
  · rw [storage, path, Function.update_self]
  · rw [row, built_manifest wrote]
    rfl

end

/-- The statement of a pack never identifies its manifest, if it was generated:
the digest is that of another text. -/
theorem provenance_never_identifies {Bytes : Type} {env : EvidenceEnv Bytes} {d e : EvidenceDb Bytes}
    {call : BuildCall Bytes} {pack : EvidencePack} {content : RunContent Bytes} {m : RunManifest} (ideal : Ideal env)
    (indents : Indents env) (hexadecimal : ∀ bytes, ∀ c ∈ (env.sha256 bytes).toList, c ∈ "0123456789abcdef".toList)
    (gathered : call.gathered = .ok content) (describes : Describes env m content)
    (generated : ∀ file ∈ content.external, file.1 ≠ .provenance)
    (reads : ReadsBack env (sanitize call.rules (content.provenance (sanitize call.rules (.obj content.manifest)))))
    (ran : build env call d = (.ok pack, e)) :
    ∃ bytes, (e.storage pack.path).read "run-manifest.json" = some bytes ∧ pack.manifestHash = env.sha256 bytes ∧
      ¬Identifies env (e.storage pack.path) pack.manifestHash := by
  obtain ⟨signed, directory, wrote, storage, hash⟩ := built_pack gathered ran
  rw [storage, hash]
  exact ⟨_, built_manifest wrote, rfl, not_identifies ideal indents hexadecimal describes generated reads wrote⟩

namespace ProvenanceSample

def run : Run :=
  newRun "run-1"
    { id := "task-1", organizationId := none, projectId := none, tenantAttribution := none, dataRegion := none
      dataClassification := none, title := "", description := "", status := "", targetRepoPath := none } .testing 1

def manifest : RunManifest :=
  { run := run, events := []
    signing := { privateKey := none, hmacConfigured := false, hmacKey := .ok none, keyId := none }
    snapshot := .null, replay := .null, taskContext := .obj [], applicationContext := .null, executionPlan := .null
    policySecurityApprovals := .obj [], deliveryEvidence := .obj [], costs := .obj [], verificationMatrix := .null
    traceability := .obj [], artifactInventory := .arr [], supplyChainRecords := .arr []
    supplyChainCompleteness := .obj [] }

/-- The encoders, a hash that gives the text in hexadecimal digits, and a parser that knows one document. -/
def env (document : Json) : EvidenceEnv (List Char) :=
  { SignedPack.env "DONE" "DONE" with
    dumpsIndented := fun document => String.ofList (document.indented 0)
    loads := fun text =>
      if text = SignedPack.readBack (String.ofList (document.indented 0)) then .ok document.sortKeys
        else .error .decode }

def content : RunContent (List Char) :=
  { manifest := manifest.fields, request := .obj [], steps := .arr [], events := [], costs := .obj [], recorded := []
    provenance := provenanceStatement (env .null) manifest.run, external := [] }

def call : BuildCall (List Char) :=
  { SignedPack.call [] "DONE" with gathered := .ok content, signing := manifest.signing }

def statement : Json :=
  sanitize call.rules (content.provenance (sanitize call.rules (.obj content.manifest)))

theorem ideal (document : Json) : Ideal (env document) :=
  have sample : Ideal (SignedPack.env "DONE" "DONE") := SignedPack.ideal
  ⟨sample.readable, sample.plainDigest, sample.injective, sample.short⟩

theorem hexadecimal (document : Json) (bytes : List Char) :
    ∀ c ∈ ((env document).sha256 bytes).toList, c ∈ "0123456789abcdef".toList := by
  intro c member
  exact HexText.hexText_mem (by simpa [env, SignedPack.env] using member)

theorem reads (document : Json) : ReadsBack (env document) document := by
  have loaded : (env document).loads (SignedPack.readBack (String.ofList (document.indented 0))) =
      .ok document.sortKeys := by
    simp [env]
  exact readJson_ok ((ideal document).readable _) loaded

theorem describes (document : Json) : Describes (env document) manifest content := by
  refine ⟨rfl, ?_⟩
  have digest : compactDigest (env document) = compactDigest (env .null) := by
    funext manifest
    simp only [compactDigest, env]
  change provenanceStatement (env .null) manifest.run = _
  funext manifest
  unfold provenanceStatement
  rw [digest]

theorem generated : ∀ file ∈ content.external, file.1 ≠ .provenance := by
  intro file member
  exact absurd member List.not_mem_nil

theorem gathered : call.gathered = .ok content := rfl

def leftover : Directory (List Char) := SignedPack.before.storage (directoryName SignedPack.before call)

theorem wrote : writeSignature (env statement) call.rules call.signing
    (writeContent (env statement) call.rules content leftover) =
      .ok (none, writeContent (env statement) call.rules content leftover) := by
  have absent : ¬call.signing.present = true := by decide
  unfold writeSignature
  rw [if_neg absent]

def pack : EvidencePack :=
  newPack (env statement) SignedPack.before call none
    (((writeChecksums (env statement) (writeContent (env statement) call.rules content leftover)).read
      "run-manifest.json").map (env statement).sha256 |>.getD "")

def after : EvidenceDb (List Char) := (build (env statement) call SignedPack.before).2

theorem built : build (env statement) call SignedPack.before = (.ok pack, after) := by
  have ran : (build (env statement) call SignedPack.before).1 = .ok pack :=
    build_returns SignedPack.before call rfl rfl gathered wrote rfl rfl
  unfold after
  exact Prod.fst_eq_iff.mp ran

/-- A run whose statement is generated. -/
theorem statement_other : ∃ bytes, (after.storage pack.path).read "run-manifest.json" = some bytes ∧
    pack.manifestHash = (env statement).sha256 bytes ∧
    ¬Identifies (env statement) (after.storage pack.path) pack.manifestHash :=
  provenance_never_identifies (ideal statement) (fun _ => rfl) (hexadecimal statement) gathered
    (describes statement) generated (reads statement) built

/-- The digest in the statement of a run is not the hash of its manifest. -/
theorem statement_refused : build (env statement) call SignedPack.before = (.ok pack, after) ∧
    ¬Identifies (env statement) (after.storage pack.path) pack.manifestHash := by
  obtain ⟨signed, directory, wrote, storage, hash⟩ := built_pack gathered built
  rw [storage, hash]
  exact ⟨built, not_identifies (ideal statement) (fun _ => rfl) (hexadecimal statement)
    (describes statement) generated (reads statement) wrote⟩

end ProvenanceSample

end EvidenceService
end SacmRuntime
