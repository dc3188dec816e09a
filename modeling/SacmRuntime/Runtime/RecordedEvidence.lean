import SacmRuntime.Lib.PosixPath
import SacmRuntime.Runtime.CostService
import SacmRuntime.Runtime.Provenance

namespace SacmRuntime
namespace EvidenceService
open Redaction

/-- The files a pack may copy, by their resolved paths. -/
structure SourceFiles (Bytes : Type) where
  /-- `Path(text).resolve()` -/
  resolve : String → List FileName
  /-- `path.read_bytes()`, if there is a file -/
  bytes : List FileName → Option Bytes
  /-- `content.decode("utf-8")` -/
  decode : Bytes → Option String
  /-- `secret.encode() in content` -/
  holds : String → Bytes → Bool

/-- The two contracts of an `agent_result` event. -/
structure AgentRecord where
  task : Json
  result : Json

/-- A row of `artifacts`. -/
structure ArtifactRow where
  artifactType : String
  path : Option String
  contentHash : Option String

/-- What the files of a pack are taken from: the runs, and the records, the
artifacts and the files of the task. -/
structure Sources (Bytes : Type) where
  runs : String → Option Run
  records : List AgentRecord
  artifacts : List ArtifactRow
  files : SourceFiles Bytes

/-- `root in source.parents`. -/
def below (root source : List FileName) : Bool := root.isPrefixOf source && root != source

def repository (run : Run) : Option String := run.targetRepoPath.filter (· ≠ "")

/-- The dictionaries among the artifacts of the records. -/
def recordedArtifacts : List AgentRecord → Except Error (List Json)
  | [] => .ok []
  | record :: rest => do
    let artifacts ← record.result.loopItems "artifacts"
    let others ← recordedArtifacts rest
    .ok ((artifacts.filter fun artifact => match artifact with
      | .obj _ => true
      | _ => false) ++ others)

def diffs (artifacts : List Json) : List String :=
  artifacts.filterMap fun artifact =>
    if artifact.get "artifact_type" = .str "diff" then ((artifact.get "metadata").get "content").str? else none

def reviews (records : List AgentRecord) : List Json :=
  (records.filter fun record => record.task.get "role" = .str "reviewer").map fun record =>
    .obj [("summary", record.result.get "summary"), ("decisions", (record.result.field? "decisions").getD (.arr [])),
      ("findings", (record.result.field? "findings").getD (.arr [])), ("confidence", record.result.get "confidence")]

def verifications (artifacts : List Json) : List Json :=
  (artifacts.filter fun artifact => artifact.get "artifact_type" = .str "verification").map fun artifact =>
    (artifact.field? "metadata").getD (.obj [])

def copyTarget (artifact : Json) : Option RecordedFile :=
  match artifact.get "artifact_type" with
  | .str "test_results_junit" => some .testResults
  | .str "security_findings_sarif" => some .securityFindings
  | _ => none

/-- The file that a row of `artifacts` is written to. -/
def externalTarget (artifactType : String) : Option RecordedFile :=
  match artifactType with
  | "test_results_junit" => some .testResults
  | "security_findings_sarif" => some .securityFindings
  | "sbom_spdx" => some .sbom
  | "provenance_intoto" => some .provenance
  | "patch_diff" => some .patchDiff
  | _ => none

section
variable {Bytes : Type} (env : EvidenceEnv Bytes) (rules : Rules)

/-- `_safe_artifact_bytes`. -/
def safeArtifactBytes (files : SourceFiles Bytes) (source : List FileName) (content : Bytes) : Except Error Bytes :=
  match files.decode content with
  | some text => .ok (env.encode (redactText rules text))
  | none =>
    if (secrets rules).any fun secret => files.holds secret content then
      .error (.valueError ("Artifact " ++ String.ofList (source.getLastD []) ++ " contains secret material."))
    else .ok content

def copyFile (files : SourceFiles Bytes) (target : RecordedFile) (source : List FileName) :
    Except Error (List (RecordedFile × Bytes)) :=
  match files.bytes source with
  | none => .ok []
  | some content => do
    let safe ← safeArtifactBytes env rules files source content
    .ok [(target, safe)]

/-- `_copy_recorded_file`: the run is looked up by the name of the directory. -/
def copyRecordedFile (sources : Sources Bytes) (directoryName : String) (target : RecordedFile) (uri : Json) :
    Except Error (List (RecordedFile × Bytes)) :=
  match uri.str? with
  | none => .ok []
  | some uri =>
    if "file://".toList.isPrefixOf uri.toList then
      match (sources.runs directoryName).bind repository with
      | none => .ok []
      | some repository =>
        let source := sources.files.resolve (String.ofList (uri.toList.drop 7))
        if below (sources.files.resolve repository) source then copyFile env rules sources.files target source
          else .ok []
    else .ok []

/-- One artifact of the loop over those that are copied. -/
def copyArtifact (sources : Sources Bytes) (directoryName : String) (artifact : Json) :
    Except Error (List (RecordedFile × Bytes)) :=
  match copyTarget artifact with
  | some target => copyRecordedFile env rules sources directoryName target (artifact.get "uri")
  | none => .ok []

def copiedFiles (sources : Sources Bytes) (directoryName : String) :
    List Json → Except Error (List (RecordedFile × Bytes))
  | [] => .ok []
  | artifact :: rest => do
    let first ← copyArtifact env rules sources directoryName artifact
    let others ← copiedFiles sources directoryName rest
    .ok (first ++ others)

/-- The files that `_write_recorded_artifacts` writes itself. -/
def composedFiles (records : List AgentRecord) (artifacts : List Json) : List (RecordedFile × Bytes) :=
  (if diffs artifacts = [] then []
    else [(.patchDiff, env.encode (redactText rules ("\n".intercalate (diffs artifacts))))]) ++
  (if reviews records = [] then []
    else [(.reviewReport, env.encode (env.dumpsIndented (sanitize rules (.arr (reviews records)))))]) ++
  (if verifications artifacts = [] then []
    else [(.verificationResults, env.encode (env.dumpsIndented (sanitize rules (.arr (verifications artifacts)))))])

/-- `_write_recorded_artifacts`. -/
def recordedFiles (sources : Sources Bytes) (directoryName : String) : Except Error (List (RecordedFile × Bytes)) := do
  let artifacts ← recordedArtifacts sources.records
  let copied ← copiedFiles env rules sources directoryName artifacts
  .ok (composedFiles env rules sources.records artifacts ++ copied)

/-- One artifact of `_write_external_artifacts`. -/
def externalFile (files : SourceFiles Bytes) (run : Run) (artifact : ArtifactRow) :
    Except Error (List (RecordedFile × Bytes)) :=
  match externalTarget artifact.artifactType, artifact.path.filter (· ≠ ""), repository run with
  | some target, some path, some repository =>
    let source := files.resolve path
    let root := files.resolve repository
    if (source = root ∨ below root source = true) ∧ (files.bytes source).map env.sha256 = artifact.contentHash then
      copyFile env rules files target source
    else .ok []
  | _, _, _ => .ok []

/-- `_write_external_artifacts`. -/
def externalFiles (files : SourceFiles Bytes) (run : Run) :
    List ArtifactRow → Except Error (List (RecordedFile × Bytes))
  | [] => .ok []
  | artifact :: rest => do
    let first ← externalFile env rules files run artifact
    let others ← externalFiles files run rest
    .ok (first ++ others)

end

end EvidenceService
end SacmRuntime
