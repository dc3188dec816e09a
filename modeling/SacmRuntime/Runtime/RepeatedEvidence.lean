import SacmRuntime.Runtime.RecordedEvidence

namespace SacmRuntime
namespace EvidenceService
open Redaction

structure Gathers {Bytes : Type} (env : EvidenceEnv Bytes) (sources : Sources Bytes) (d : EvidenceDb Bytes)
    (call : BuildCall Bytes) (run : Run) (content : RunContent Bytes) : Prop where
  gathered : call.gathered = .ok content
  ofRun : sources.runs call.runId = some run
  recorded : recordedFiles env call.rules sources (directoryName d call) = .ok content.recorded
  external : externalFiles env call.rules sources.files run sources.artifacts = .ok content.external

/-- A directory with a new identifier in its name is empty, and its name is not that of a run. -/
def NewDirectory {Bytes : Type} (sources : Sources Bytes) (d : EvidenceDb Bytes) (call : BuildCall Bytes) : Prop :=
  packsOf d call.runId ≠ [] → d.storage (directoryName d call) = [] ∧ sources.runs (directoryName d call) = none

/-- The same names, and the same files but for the documents about the build. -/
def SameEvidence {Bytes : Type} (first second : Directory Bytes) : Prop :=
  (∀ name, (first.read name).isSome = (second.read name).isSome) ∧
    ∀ file : RecordedFile, file ≠ .provenance → first.read file.name = second.read file.name

section
variable {Bytes : Type} (env : EvidenceEnv Bytes) (rules : Rules) (sources : Sources Bytes) (run : Run)

/-- The files that are copied into a directory of this name. -/
def filesOfCopies (directoryName : String) : List (RecordedFile × Bytes) :=
  ((recordedArtifacts sources.records).bind (copiedFiles env rules sources directoryName)).toOption.getD []

def filesOfRecords : List (RecordedFile × Bytes) :=
  ((recordedArtifacts sources.records).map (composedFiles env rules sources.records)).toOption.getD []

/-- The files that the rows of `artifacts` give. -/
def filesOfArtifacts :
    List (RecordedFile × Bytes) := (externalFiles env rules sources.files run sources.artifacts).toOption.getD []

def fixedNames (signing : Signing) : List String :=
  ["run-manifest.json", "request.json", "steps.json", "events.jsonl", "cost-report.json", RecordedFile.provenance.name,
    "checksums.sha256"] ++ if signing.present then ["signature.sig"] else []

/-- What lies in the directory of the first pack is written again by every
build, and what is copied into it is given by a row of `artifacts` too. -/
structure Repeatable (signing : Signing) (runId : String) (leftover : Directory Bytes) : Prop where
  stale : ∀ name, (leftover.read name).isSome = true → name ∈ fixedNames signing ++
    ((filesOfRecords env rules sources).map Prod.fst ++ (filesOfArtifacts env rules sources run).map Prod.fst).map
      RecordedFile.name
  copied : ∀ file ∈ (filesOfCopies env rules sources runId).map Prod.fst,
    file ∈ (filesOfArtifacts env rules sources run).map Prod.fst

end

section
variable {Bytes : Type} {env : EvidenceEnv Bytes} {rules : Rules} {signing : Signing} {content : RunContent Bytes}
  {leftover directory : Directory Bytes} {signed : Option SignedStatement} {files : List (RecordedFile × Bytes)}
  {sources : Sources Bytes} {run : Run}

def lastFile (files : List (RecordedFile × Bytes)) (file : RecordedFile) : Option Bytes :=
  (files.reverse.find? fun other => other.1 = file).map Prod.snd

theorem lastFile_cons {file : RecordedFile} {first : RecordedFile × Bytes} :
    lastFile (first :: files) file = (lastFile files file).or (if first.1 = file then some first.2 else none) := by
  unfold lastFile
  rw [List.reverse_cons, List.find?_append, List.find?_singleton]
  cases files.reverse.find? fun other => other.1 = file with
  | some other => rfl
  | none => by_cases same : first.1 = file <;> simp [same]

theorem lastFile_append {others : List (RecordedFile × Bytes)} {file : RecordedFile} :
    lastFile (files ++ others) file = (lastFile others file).or (lastFile files file) := by
  unfold lastFile
  rw [List.reverse_append, List.find?_append]
  cases others.reverse.find? fun other => other.1 = file <;> rfl

theorem lastFile_isSome {file : RecordedFile} : (lastFile files file).isSome = true ↔ file ∈ files.map Prod.fst := by
  unfold lastFile
  rw [Option.isSome_map, List.find?_isSome]
  simp

theorem read_write {name other : String} {bytes : Bytes} :
    (directory.write name bytes).read other = if other = name then some bytes else directory.read other := by
  split
  · rename_i same
    rw [same, Directory.read_write_self]
  · rename_i different
    exact Directory.read_write_ne different

theorem read_writeFiles {file : RecordedFile} :
    (files.foldl (fun directory file => directory.write file.1.name file.2) directory).read file.name =
      (lastFile files file).or (directory.read file.name) := by
  induction files generalizing directory with
  | nil => rfl
  | cons first rest ih =>
    rw [List.foldl_cons, ih, lastFile_cons, read_write]
    by_cases same : first.1 = file
    · rw [if_pos (congrArg RecordedFile.name same.symm), if_pos same]
      cases lastFile rest file <;> rfl
    · rw [if_neg fun names => same (name_injective names).symm, if_neg same]
      cases lastFile rest file <;> rfl

theorem has_writeFiles {name : String} :
    ((files.foldl (fun directory file => directory.write file.1.name file.2) directory).read name).isSome = true ↔
      name ∈ (files.map Prod.fst).map RecordedFile.name ∨ (directory.read name).isSome = true := by
  by_cases known : ∃ file : RecordedFile, file.name = name
  · obtain ⟨file, rfl⟩ := known
    rw [read_writeFiles, Option.isSome_or, Bool.or_eq_true, lastFile_isSome, List.mem_map_of_injective name_injective]
  · have free : ∀ file : RecordedFile, file.name ≠ name := fun file same => known ⟨file, same⟩
    rw [Directory.read_writeFiles_ne free]
    refine ⟨.inr, ?_⟩
    rintro (written | there)
    · obtain ⟨file, -, same⟩ := List.mem_map.mp written
      exact absurd same (free file)
    · exact there

theorem has_write {name other : String} {bytes : Bytes} :
    ((directory.write name bytes).read other).isSome = true ↔ other = name ∨ (directory.read other).isSome = true := by
  rw [read_write]
  split
  · rename_i same
    simp [same]
  · rename_i different
    simp [different]

theorem built_has {name : String}
    (wrote : writeSignature env rules signing (writeContent env rules content leftover) = .ok (signed, directory)) :
    ((writeChecksums env directory).read name).isSome = true ↔
      name ∈ fixedNames signing ++ (content.recorded.map Prod.fst ++ content.external.map Prod.fst).map
        RecordedFile.name ∨
        (leftover.read name).isSome = true := by
  have written : ((writeContent env rules content leftover).read name).isSome = true ↔
      name ∈ ["run-manifest.json", "request.json", "steps.json", "events.jsonl", "cost-report.json",
          RecordedFile.provenance.name] ++
        (content.recorded.map Prod.fst ++ content.external.map Prod.fst).map RecordedFile.name ∨
        (leftover.read name).isSome = true := by
    unfold writeContent writeJson
    rw [has_writeFiles, has_write, has_writeFiles, has_write, has_write, has_write, has_write, has_write]
    simp only [List.map_append, List.mem_append, List.mem_cons, List.not_mem_nil, or_false]
    grind
  unfold fixedNames writeChecksums
  cases present : signing.present with
  | true =>
    obtain ⟨_, _, _, -, -, -, -, rfl⟩ := writeSignature_ok present wrote
    unfold writeJson
    rw [has_write, has_write, written]
    simp only [List.mem_append, List.mem_cons, List.not_mem_nil, or_false, if_true]
    grind
  | false =>
    obtain ⟨-, rfl⟩ := writeSignature_unsigned present wrote
    rw [has_write, written]
    simp only [List.mem_append, List.mem_cons, List.not_mem_nil, or_false, Bool.false_eq_true, if_false]
    grind

theorem built_file {file : RecordedFile} (other : file ≠ .provenance)
    (wrote : writeSignature env rules signing (writeContent env rules content leftover) = .ok (signed, directory)) :
    (writeChecksums env directory).read file.name =
      (lastFile (content.recorded ++ content.external) file).or (leftover.read file.name) := by
  have apart : ∀ name ∈ ["run-manifest.json", "request.json", "steps.json", "events.jsonl", "cost-report.json",
      "checksums.sha256", "signature.sig"], file.name ≠ name := by
    cases file <;> decide
  have provenance : file.name ≠ RecordedFile.provenance.name := fun same => other (name_injective same)
  simp only [List.mem_cons, List.not_mem_nil, or_false, forall_eq_or_imp, forall_eq] at apart
  obtain ⟨manifest, request, steps, events, costs, checksums, signature⟩ := apart
  have written : (writeContent env rules content leftover).read file.name =
      (lastFile (content.recorded ++ content.external) file).or (leftover.read file.name) := by
    unfold writeContent writeJson
    rw [read_writeFiles, Directory.read_write_ne provenance, read_writeFiles, Directory.read_write_ne costs,
      Directory.read_write_ne events, Directory.read_write_ne steps, Directory.read_write_ne request,
      Directory.read_write_ne manifest, lastFile_append, Option.or_assoc]
  unfold writeChecksums
  cases present : signing.present with
  | true =>
    obtain ⟨_, _, _, -, -, -, -, rfl⟩ := writeSignature_ok present wrote
    unfold writeJson
    rw [Directory.read_write_ne checksums, Directory.read_write_ne signature, written]
  | false =>
    obtain ⟨-, rfl⟩ := writeSignature_unsigned present wrote
    rw [Directory.read_write_ne checksums, written]

theorem name_not_fixed {file : RecordedFile} (other : file ≠ .provenance) : file.name ∉ fixedNames signing := by
  unfold fixedNames
  cases signing.present <;> cases file <;> first | exact absurd rfl other | decide

theorem composed_kinds {records : List AgentRecord} {artifacts : List Json} :
    ∀ file ∈ composedFiles env rules records artifacts,
      file.1 = .patchDiff ∨ file.1 = .reviewReport ∨ file.1 = .verificationResults := by
  intro file member
  unfold composedFiles at member
  simp only [List.mem_append] at member
  rcases member with (patch | review) | verification
  · split at patch
    · cases patch
    · cases List.mem_singleton.mp patch
      exact .inl rfl
  · split at review
    · cases review
    · cases List.mem_singleton.mp review
      exact .inr (.inl rfl)
  · split at verification
    · cases verification
    · cases List.mem_singleton.mp verification
      exact .inr (.inr rfl)

theorem copyFile_kind {files : SourceFiles Bytes} {target : RecordedFile} {source : List FileName}
    {copies : List (RecordedFile × Bytes)} (ran : copyFile env rules files target source = .ok copies) :
    ∀ file ∈ copies, file.1 = target := by
  unfold copyFile at ran
  split at ran
  · cases ran
    intro file member
    cases member
  · obtain ⟨safe, -, ran⟩ := Checked.bind_ok ran
    cases ran
    intro file member
    cases List.mem_singleton.mp member
    rfl

theorem copyRecordedFile_kind {directoryName : String} {target : RecordedFile} {uri : Json}
    {copies : List (RecordedFile × Bytes)}
    (ran : copyRecordedFile env rules sources directoryName target uri = .ok copies) :
      ∀ file ∈ copies, file.1 = target := by
  have nothing : ∀ copies : List (RecordedFile × Bytes), (Except.ok [] : Except Error _) = .ok copies →
      ∀ file ∈ copies, file.1 = target := by
    rintro _ ⟨⟩ file member
    cases member
  unfold copyRecordedFile at ran
  split at ran
  · exact nothing _ ran
  · split at ran
    · split at ran
      · exact nothing _ ran
      · dsimp only at ran
        split at ran
        · exact copyFile_kind ran
        · exact nothing _ ran
    · exact nothing _ ran

theorem copyTarget_kind {artifact : Json} {target : RecordedFile} (found : copyTarget artifact = some target) :
    target = .testResults ∨ target = .securityFindings := by
  unfold copyTarget at found
  split at found
  · cases found
    exact .inl rfl
  · cases found
    exact .inr rfl
  · cases found

theorem copiedFiles_kinds {directoryName : String} {artifacts : List Json} {copies : List (RecordedFile × Bytes)}
    (ran : copiedFiles env rules sources directoryName artifacts = .ok copies) :
    ∀ file ∈ copies, file.1 = .testResults ∨ file.1 = .securityFindings := by
  induction artifacts generalizing copies with
  | nil =>
    cases ran
    intro file member
    cases member
  | cons artifact rest ih =>
    unfold copiedFiles at ran
    obtain ⟨first, here, ran⟩ := Checked.bind_ok ran
    obtain ⟨others, later, ran⟩ := Checked.bind_ok ran
    cases ran
    intro file member
    rcases List.mem_append.mp member with inFirst | inOthers
    · unfold copyArtifact at here
      split at here
      · rename_i target found
        rw [copyRecordedFile_kind here file inFirst]
        exact copyTarget_kind found
      · cases here
        cases inFirst
    · exact ih later file inOthers

theorem copiedFiles_unknown {directoryName : String} (unknown : sources.runs directoryName = none)
    (artifacts : List Json) :
    copiedFiles env rules sources directoryName artifacts = .ok [] := by
  induction artifacts with
  | nil => rfl
  | cons artifact rest ih =>
    have none_ : ∀ target uri, copyRecordedFile env rules sources directoryName target uri = .ok [] := by
      intro target uri
      unfold copyRecordedFile
      rw [unknown]
      cases uri.str? with
      | none => rfl
      | some text => exact ite_self _
    have skipped : copyArtifact env rules sources directoryName artifact = .ok [] := by
      unfold copyArtifact
      cases copyTarget artifact with
      | none => rfl
      | some target => exact none_ target _
    unfold copiedFiles
    rw [ih, skipped]
    rfl

theorem Gathers.written {d : EvidenceDb Bytes} {call : BuildCall Bytes}
    (gathers : Gathers env sources d call run content) :
    content.recorded = filesOfRecords env call.rules sources ++ filesOfCopies env call.rules sources
      (directoryName d call) ∧
      content.external = filesOfArtifacts env call.rules sources run := by
  have recorded := gathers.recorded
  unfold recordedFiles at recorded
  obtain ⟨artifacts, listed, recorded⟩ := Checked.bind_ok recorded
  obtain ⟨copies, ran, recorded⟩ := Checked.bind_ok recorded
  unfold filesOfRecords filesOfCopies filesOfArtifacts
  rw [listed, gathers.external, ← Except.ok.inj recorded]
  refine ⟨?_, rfl⟩
  change _ = _ ++ ((copiedFiles env call.rules sources (directoryName d call) artifacts).toOption.getD [])
  rw [ran]
  rfl

theorem composed_kind : ∀ file ∈ (filesOfRecords env rules sources).map Prod.fst,
    file = .patchDiff ∨ file = .reviewReport ∨ file = .verificationResults := by
  intro file member
  obtain ⟨written, inFiles, rfl⟩ := List.mem_map.mp member
  unfold filesOfRecords at inFiles
  cases listed : recordedArtifacts sources.records with
  | error e =>
    rw [listed] at inFiles
    cases inFiles
  | ok artifacts =>
    rw [listed] at inFiles
    change written ∈ composedFiles env rules sources.records artifacts at inFiles
    exact composed_kinds written inFiles

theorem copied_kind {directoryName : String} : ∀ file ∈ (filesOfCopies env rules sources directoryName).map Prod.fst,
    file = .testResults ∨ file = .securityFindings := by
  intro file member
  obtain ⟨written, inFiles, rfl⟩ := List.mem_map.mp member
  unfold filesOfCopies at inFiles
  cases ran : (recordedArtifacts sources.records).bind (copiedFiles env rules sources directoryName) with
  | error e =>
    rw [ran] at inFiles
    cases inFiles
  | ok copies =>
    rw [ran] at inFiles
    obtain ⟨artifacts, -, copying⟩ := Checked.bind_ok ran
    exact copiedFiles_kinds copying written inFiles

theorem copied_unknown {directoryName : String} (unknown : sources.runs directoryName = none) :
    filesOfCopies env rules sources directoryName = [] := by
  unfold filesOfCopies
  cases recordedArtifacts sources.records with
  | error e => rfl
  | ok artifacts =>
    change ((copiedFiles env rules sources directoryName artifacts).toOption.getD []) = []
    rw [copiedFiles_unknown unknown]
    rfl

theorem first_same_iff {runId : String} {earlier later : Directory Bytes}
    (has : ∀ name, (earlier.read name).isSome = true ↔ name ∈ fixedNames signing ++
      ((filesOfRecords env rules sources ++ filesOfCopies env rules sources runId).map Prod.fst ++
        (filesOfArtifacts env rules sources run).map Prod.fst).map RecordedFile.name ∨
          (leftover.read name).isSome = true)
    (hasLater : ∀ name, (later.read name).isSome = true ↔ name ∈ fixedNames signing ++
      ((filesOfRecords env rules sources).map Prod.fst ++ (filesOfArtifacts env rules sources run).map Prod.fst).map
        RecordedFile.name)
    (reads : ∀ file : RecordedFile, file ≠ .provenance →
      earlier.read file.name = (lastFile (filesOfRecords env rules sources ++
      filesOfCopies env rules sources runId ++ filesOfArtifacts env rules sources run) file).or
        (leftover.read file.name))
    (readsLater : ∀ file : RecordedFile, file ≠ .provenance → later.read file.name =
      lastFile (filesOfRecords env rules sources ++ filesOfArtifacts env rules sources run) file) :
    SameEvidence earlier later ↔ Repeatable env rules sources run signing runId leftover := by
  constructor
  · rintro ⟨names, -⟩
    refine ⟨fun name stale => (hasLater name).mp (names name ▸ (has name).mpr (.inr stale)), fun file isCopied => ?_⟩
    have kind : file = .testResults ∨ file = .securityFindings := copied_kind file isCopied
    have other : file ≠ .provenance := by
      rcases kind with rfl | rfl <;> decide
    have inEarlier : (earlier.read file.name).isSome = true := by
      refine (has file.name).mpr (.inl (List.mem_append_right _ (List.mem_map_of_mem (List.mem_append_left _ ?_))))
      rw [List.map_append]
      exact List.mem_append_right _ isCopied
    rcases List.mem_append.mp ((hasLater file.name).mp (names file.name ▸ inEarlier)) with isFixed | given
    · exact absurd isFixed (name_not_fixed other)
    · rcases List.mem_append.mp ((List.mem_map_of_injective name_injective).mp given) with isComposed | isGiven
      · rcases composed_kind file isComposed with rfl | rfl | rfl <;> rcases kind with kind | kind <;> cases kind
      · exact isGiven
  · intro repeatable
    have names : ∀ name, (earlier.read name).isSome = true ↔ (later.read name).isSome = true := by
      intro name
      rw [has, hasLater]
      constructor
      · rintro (written | stale)
        · rcases List.mem_append.mp written with isFixed | given
          · exact List.mem_append_left _ isFixed
          · obtain ⟨file, listed, rfl⟩ := List.mem_map.mp given
            refine List.mem_append_right _ (List.mem_map_of_mem ?_)
            rw [List.map_append, List.append_assoc] at listed
            rcases List.mem_append.mp listed with isComposed | rest
            · exact List.mem_append_left _ isComposed
            · rcases List.mem_append.mp rest with isCopied | isGiven
              · exact List.mem_append_right _ (repeatable.copied file isCopied)
              · exact List.mem_append_right _ isGiven
        · exact repeatable.stale name stale
      · intro written
        refine .inl ?_
        rcases List.mem_append.mp written with isFixed | given
        · exact List.mem_append_left _ isFixed
        · obtain ⟨file, listed, rfl⟩ := List.mem_map.mp given
          refine List.mem_append_right _ (List.mem_map_of_mem ?_)
          rw [List.map_append, List.append_assoc]
          rcases List.mem_append.mp listed with isComposed | isGiven
          · exact List.mem_append_left _ isComposed
          · exact List.mem_append_right _ (List.mem_append_right _ isGiven)
    refine ⟨fun name => Bool.eq_iff_iff.mpr (names name), fun file other => ?_⟩
    have same := names file.name
    rw [reads file other, readsLater file other] at same ⊢
    rw [lastFile_append, lastFile_append, lastFile_append] at same ⊢
    cases isGiven : lastFile (filesOfArtifacts env rules sources run) file with
    | some bytes => rfl
    | none =>
      have notGiven : file ∉ (filesOfArtifacts env rules sources run).map Prod.fst := by
        rw [← lastFile_isSome, isGiven]
        exact Bool.false_ne_true
      have notCopied : lastFile (filesOfCopies env rules sources runId) file = none := by
        rw [← Option.not_isSome_iff_eq_none, lastFile_isSome]
        exact fun isCopied => notGiven (repeatable.copied file isCopied)
      rw [isGiven, notCopied] at same
      rw [notCopied]
      cases isComposed : lastFile (filesOfRecords env rules sources) file with
      | some bytes => rfl
      | none =>
        rw [isComposed] at same
        simp only [Option.none_or] at same ⊢
        exact Option.not_isSome_iff_eq_none.mp (mt same.mp Bool.false_ne_true)

end

/-- A second pack of a run, of the same records and artifacts and in the same
environment, has the files of the first, exactly if the first was not the first
of its run, or all that lay in its directory is written again and all that was
copied into it is given by a row of `artifacts`. -/
theorem rebuilt_evidence_same_iff {Bytes : Type} {env : EvidenceEnv Bytes} {sources : Sources Bytes} {run : Run}
    {d e d2 f : EvidenceDb Bytes} {first second : BuildCall Bytes} {firstPack secondPack : EvidencePack}
    {firstContent secondContent : RunContent Bytes} (firstRan : build env first d = (.ok firstPack, e))
    (secondRan : build env second d2 = (.ok secondPack, f)) (sameRun : second.runId = first.runId)
    (listed : firstPack ∈ d2.packs) (sameRules : second.rules = first.rules)
    (sameSigning : second.signing = first.signing) (firstGathers : Gathers env sources d first run firstContent)
    (secondGathers : Gathers env sources d2 second run secondContent) (firstNew : NewDirectory sources d first)
    (secondNew : NewDirectory sources d2 second) :
    SameEvidence (e.storage firstPack.path) (f.storage secondPack.path) ↔
      packsOf d first.runId ≠ [] ∨
        Repeatable env first.rules sources run first.signing first.runId (d.storage (directoryName d first)) := by
  obtain ⟨firstSigned, firstDirectory, firstWrote, firstStored, -⟩ := built_pack firstGathers.gathered firstRan
  obtain ⟨secondSigned, secondDirectory, secondWrote, secondStored, -⟩ := built_pack secondGathers.gathered secondRan
  obtain ⟨firstRecorded, firstExternal⟩ := firstGathers.written
  obtain ⟨secondRecorded, secondExternal⟩ := secondGathers.written
  have ofRun : firstPack.runId = first.runId := by
    obtain ⟨_, _, _, -, -, -, row, -, -⟩ := build_ok firstRan
    rw [row]
    rfl
  have later : packsOf d2 second.runId ≠ [] := by
    refine List.ne_nil_of_mem (List.mem_filter.mpr ⟨listed, ?_⟩)
    rw [sameRun, ofRun]
    exact beq_self_eq_true _
  obtain ⟨empty, unknown⟩ := secondNew later
  rw [empty] at secondWrote
  rw [copied_unknown unknown, List.append_nil, sameRules] at secondRecorded
  rw [sameRules] at secondExternal
  rw [sameRules, sameSigning] at secondWrote
  rw [firstStored, secondStored]
  have same : SameEvidence (writeChecksums env firstDirectory) (writeChecksums env secondDirectory) ↔
      Repeatable env first.rules sources run first.signing (directoryName d first)
          (d.storage (directoryName d first)) := by
    refine first_same_iff (fun name => ?_) (fun name => ?_) (fun file other => ?_) fun file other => ?_
    · rw [built_has firstWrote, firstRecorded, firstExternal]
    · rw [built_has secondWrote, secondRecorded, secondExternal]
      exact or_iff_left Bool.false_ne_true
    · rw [built_file other firstWrote, firstRecorded, firstExternal]
    · rw [built_file other secondWrote, secondRecorded, secondExternal]
      exact Option.or_none
  rw [same]
  by_cases none_ : packsOf d first.runId = []
  · have named : directoryName d first = first.runId := if_pos (List.isEmpty_iff.mpr none_)
    rw [named]
    exact ⟨.inr, fun either => either.resolve_left (not_not.mpr none_)⟩
  · refine ⟨fun _ => .inl none_, fun _ => ?_⟩
    obtain ⟨emptyFirst, unknownFirst⟩ := firstNew none_
    rw [emptyFirst]
    refine ⟨fun name stale => absurd stale Bool.false_ne_true, fun file isCopied => ?_⟩
    rw [copied_unknown unknownFirst] at isCopied
    cases isCopied

namespace RepeatSample

def run : Run := { ProvenanceSample.run with targetRepoPath := some "/repo" }

def files : SourceFiles (List Char) where
  resolve text := (PosixPath.parse text.toList).parts
  bytes source := if source = ["repo".toList, "junit.xml".toList] then some "<testsuite/>".toList else none
  decode content := some (String.ofList content)
  holds _ _ := false

/-- The results of the tests, as an agent recorded them. -/
def tested : AgentRecord :=
  ⟨.obj [], .obj [("artifacts", .arr [.obj [("artifact_type", .str "test_results_junit"),
    ("uri", .str "file:///repo/junit.xml")]])]⟩

def env : EvidenceEnv (List Char) := ProvenanceSample.env .null

/-- The row of `artifacts` for the same results. -/
def tests : ArtifactRow := ⟨"test_results_junit", some "/repo/junit.xml", some (env.sha256 "<testsuite/>".toList)⟩

def sources (artifacts : List ArtifactRow) : Sources (List Char) :=
  { runs := fun id => if id = "run-1" then some run else none, records := [tested], artifacts := artifacts,
    files := files }

/-- The bytes of the test results as a pack has them. -/
def results : List (RecordedFile × List Char) := [(.testResults, "<testsuite/>".toList)]

def content (recorded external : List (RecordedFile × List Char)) : RunContent (List Char) :=
  { ProvenanceSample.content with recorded := recorded, external := external }

/-- The first call copies the results that the agent recorded. -/
def firstCall (external : List (RecordedFile × List Char)) : BuildCall (List Char) :=
  { ProvenanceSample.call with gathered := .ok (content results external) }

def secondCall (external : List (RecordedFile × List Char)) : BuildCall (List Char) :=
  { ProvenanceSample.call with gathered := .ok (content [] external), uuid := "uuid-2", packId := "pack-2", now := 2 }

theorem wrote {rules : Rules} {recorded external : List (RecordedFile × List Char)} {leftover : Directory (List Char)} :
    writeSignature env rules ProvenanceSample.manifest.signing
      (writeContent env rules (content recorded external) leftover) =
      .ok (none, writeContent env rules (content recorded external) leftover) := by
  have absent : ¬ProvenanceSample.manifest.signing.present = true := by decide
  unfold writeSignature
  rw [if_neg absent]

def firstPack (external : List (RecordedFile × List Char)) : EvidencePack :=
  newPack env SignedPack.before (firstCall external) none (((writeChecksums env (writeContent env
    (firstCall external).rules (content results external) (SignedPack.before.storage "run-1"))).read
      "run-manifest.json").map env.sha256 |>.getD "")

def after (external : List (RecordedFile × List Char)) : EvidenceDb (List Char) :=
  (build env (firstCall external) SignedPack.before).2

section
variable (external : List (RecordedFile × List Char))
include external

theorem firstBuilt :
    build env (firstCall external) SignedPack.before = (.ok (firstPack external), after external) := by
  have ran : (build env (firstCall external) SignedPack.before).1 = .ok (firstPack external) :=
    build_returns SignedPack.before (firstCall external) rfl rfl rfl wrote rfl rfl
  unfold after
  exact Prod.fst_eq_iff.mp ran

theorem after_packs : (after external).packs = [firstPack external] := by
  obtain ⟨_, _, _, -, -, -, -, packs, -⟩ := build_ok (firstBuilt external)
  rw [packs]
  rfl

theorem second_named :
    directoryName (after external) (secondCall external) = "run-1-uuid-2" := by
  unfold directoryName packsOf
  rw [after_packs]
  rfl

theorem second_new (artifacts : List ArtifactRow) :
    NewDirectory (sources artifacts) (after external) (secondCall external) := by
  intro _
  rw [second_named]
  obtain ⟨_, _, _, -, -, -, -, -, storage⟩ := build_ok (firstBuilt external)
  have named : directoryName SignedPack.before (firstCall external) = "run-1" := rfl
  rw [storage, named, Function.update_of_ne (by decide)]
  exact ⟨rfl, rfl⟩

theorem secondBuilt :
    ∃ pack, build env (secondCall external)
      (after external) = (.ok pack, (build env (secondCall external) (after external)).2) := by
  have ran := build_returns (after external) (secondCall external) rfl rfl rfl wrote rfl rfl
  exact ⟨_, Prod.fst_eq_iff.mp ran⟩

theorem first_new (artifacts : List ArtifactRow) :
    NewDirectory (sources artifacts) SignedPack.before (firstCall external) := fun some_ => absurd rfl some_

theorem first_gathers {artifacts : List ArtifactRow}
    (copied : recordedFiles env ProvenanceSample.call.rules (sources artifacts) "run-1" = .ok results)
    (given : externalFiles env ProvenanceSample.call.rules files run artifacts = .ok external) :
    Gathers env (sources artifacts) SignedPack.before (firstCall external) run (content results external) :=
  ⟨rfl, rfl, copied, given⟩

theorem second_gathers {artifacts : List ArtifactRow}
    (given : externalFiles env (secondCall external).rules files run artifacts = .ok external) :
    Gathers env (sources artifacts) (after external) (secondCall external) run (content [] external) := by
  refine ⟨rfl, rfl, ?_, given⟩
  rw [second_named]
  rfl

end

/-- The results have a row of `artifacts` too: both packs have the same files. -/
theorem results_kept : ∃ pack f, build env (secondCall results) (after results) = (.ok pack, f) ∧
    SameEvidence ((after results).storage (firstPack results).path) (f.storage pack.path) := by
  obtain ⟨pack, built⟩ := secondBuilt results
  have listed : firstPack results ∈ (after results).packs := by
    rw [after_packs]
    exact List.mem_singleton_self _
  have kept : recordedFiles env ProvenanceSample.call.rules (sources [tests]) "run-1" = .ok results := rfl
  refine ⟨pack, _, built, (rebuilt_evidence_same_iff (firstBuilt results) built rfl listed rfl rfl
    (first_gathers results kept rfl) (second_gathers results rfl) (first_new results [tests])
    (second_new results [tests])).mpr (.inr ⟨fun name stale => ?_, ?_⟩)⟩
  · exact absurd stale Bool.false_ne_true
  · decide

/-- Without that row the test results are in the first pack and not in the second. -/
theorem results_lost : ∃ pack f, build env (firstCall []) SignedPack.before = (.ok (firstPack []), after []) ∧
    Gathers env (sources []) SignedPack.before (firstCall []) run (content results []) ∧
    build env (secondCall []) (after []) = (.ok pack, f) ∧
    Gathers env (sources []) (after []) (secondCall []) run (content [] []) ∧
    ¬SameEvidence ((after []).storage (firstPack []).path) (f.storage pack.path) := by
  obtain ⟨pack, built⟩ := secondBuilt []
  have copied : recordedFiles env ProvenanceSample.call.rules (sources []) "run-1" = .ok results := rfl
  have first := first_gathers [] copied rfl
  have second : Gathers env (sources []) (after []) (secondCall []) run (content [] []) := second_gathers [] rfl
  refine ⟨pack, _, firstBuilt [], first, built, second, fun same => ?_⟩
  obtain ⟨_, _, firstWrote, firstStored, -⟩ := built_pack first.gathered (firstBuilt [])
  obtain ⟨_, _, secondWrote, secondStored, -⟩ := built_pack second.gathered built
  have reads := same.2 .testResults (by decide)
  have empty : (after []).storage (directoryName (after []) (secondCall [])) = [] := by
    refine (second_new [] [] ?_).1
    unfold packsOf
    rw [after_packs]
    exact List.cons_ne_nil _ _
  rw [firstStored, secondStored, built_file (by decide) firstWrote, built_file (by decide) secondWrote, empty] at reads
  revert reads
  decide

end RepeatSample

end EvidenceService
end SacmRuntime
