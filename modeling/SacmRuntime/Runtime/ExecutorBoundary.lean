import SacmRuntime.Governance.NetworkBoundary
import SacmRuntime.Governance.Tenancy
import SacmRuntime.Lib.Checked
import SacmRuntime.Lib.FileTree

namespace SacmRuntime

inductive DeploymentType where
  | vpc | vnet | onPremises | airGapped
  deriving DecidableEq

/-- The boundary in the configuration of a customer's executor. -/
structure ExecutorBoundary where
  deploymentType : DeploymentType
  boundaryId : String
  residencyRegion : String
  outboundAllowlist : List String := []
  proxyUrl : Option String := none

structure ArtifactReference where
  artifactType : String
  uri : Option String := none
  sha256 : Option String := none
  metadata : List (String × Json) := []

/-- The part of an `AgentResultV1` that leaves the boundary under a check. -/
structure RunnerResult where
  runId : String
  stepId : String
  artifacts : List ArtifactReference
  evidence : List ArtifactReference

/-- What an executor finds around it: its file system, its working directory,
and the functions of the library. -/
structure RunnerHost where
  tree : FileTree
  steps : Nat
  cwd : List FileName
  access : FileAccess
  sha256 : List UInt8 → String
  lower : String → String
  urlsplit : String → Except String SplitUrl

inductive RunnerError where
  | valueError (message : String)
  | osError (cause : OsError)
  deriving DecidableEq

namespace ExecutorBoundary

/-- `item.lower().split(":", 1)[0]`. -/
def normalized (lower : String → String) (item : String) : String :=
  String.ofList ((lower item).toList.takeWhile (· ≠ ':'))

def forbidden : List String := ["169.254.169.254", "metadata.google.internal", "100.100.100.200"]

def checkProxy (host : RunnerHost) (proxyUrl : Option String) : Except String Unit :=
  match present proxyUrl with
  | none => .ok ()
  | some url => do
    let proxy ← host.urlsplit url
    if (proxy.scheme ≠ "http" ∧ proxy.scheme ≠ "https") ∨ present proxy.hostname = none then
      .error "proxy_url must be an absolute HTTP(S) URL."
    else if (present proxy.username).isSome ∨ (present proxy.password).isSome then
      .error "Proxy credentials must not be stored in boundary metadata."
    else .ok ()

/-- The bounds of the fields, and `validate_boundary`. -/
def validateBoundary (host : RunnerHost) (boundary : ExecutorBoundary) : Except String Unit :=
  if ¬(1 ≤ boundary.boundaryId.length ∧ boundary.boundaryId.length ≤ 255) then
    .error "String should have between 1 and 255 characters"
  else if ¬(1 ≤ boundary.residencyRegion.length ∧ boundary.residencyRegion.length ≤ 100) then
    .error "String should have between 1 and 100 characters"
  else if ∃ item ∈ boundary.outboundAllowlist, normalized host.lower item ∈ forbidden then
    .error "Cloud metadata services cannot be outbound allowlisted."
  else if boundary.deploymentType = .airGapped ∧ boundary.outboundAllowlist ≠ [] then
    .error "Air-gapped executors cannot declare outbound destinations."
  else checkProxy host boundary.proxyUrl

end ExecutorBoundary

namespace IsolatedCommandRunner
open ExecutorBoundary

/-- `Path(uri).resolve()`. -/
def resolve (host : RunnerHost) (uri : String) : Except RunnerError (List FileName) :=
  if Char.ofNat 0 ∈ uri.toList then .error (.valueError "embedded null byte")
  else
    let path := PosixPath.parse uri.toList
    match host.tree.follow host.steps (if path.absolute then path.parts else host.cwd ++ path.parts) with
    | some place => .ok place
    | none => .error (.osError .loop)

/-- `path.read_bytes()` of a resolved path. -/
def readBytes (host : RunnerHost) (place : List FileName) : Except RunnerError (List UInt8) :=
  match host.tree place with
  | some (.file content mode) => if host.access.readable mode then .ok content else .error (.osError .permission)
  | some .directory => .error (.osError .isDirectory)
  | some _ => .error (.osError .permission)
  | none => .error (.osError .notFound)

def remoteSchemes : List String := ["https", "s3", "az"]

def sanitizeRemote (host : RunnerHost) (boundary : ExecutorBoundary) (reference : ArtifactReference)
    (parsed : SplitUrl) : Except RunnerError ArtifactReference :=
  let name := host.lower (parsed.hostname.getD "")
  let allowed := boundary.outboundAllowlist.map (normalized host.lower)
  if allowed ≠ [] ∧ name ∉ allowed then .error (.valueError "Artifact upload URI is not boundary-approved.")
  else if present reference.sha256 = none then .error (.valueError "Uploaded artifacts must include a SHA-256 hash.")
  else .ok reference

def sanitizeFile (host : RunnerHost) (root : List FileName) (reference : ArtifactReference) (uri : String) :
    Except RunnerError ArtifactReference := do
  let path ← resolve host uri
  if ¬root <+: path then .error (.valueError "Artifact path escaped the isolated workspace.")
  else do
    let content ← readBytes host path
    .ok { reference with
      sha256 := some (host.sha256 content)
      uri := none
      metadata := Json.setField "transport" (.str "hash-only") reference.metadata }

def sanitizeReference (host : RunnerHost) (boundary : ExecutorBoundary) (root : List FileName)
    (reference : ArtifactReference) : Except RunnerError ArtifactReference :=
  match present reference.uri with
  | none =>
    if present reference.sha256 = none then .error (.valueError "Artifact references must contain a SHA-256 hash.")
    else .ok reference
  | some uri => do
    let parsed ← (host.urlsplit uri).mapError RunnerError.valueError
    if parsed.scheme ∈ remoteSchemes then sanitizeRemote host boundary reference parsed
    else sanitizeFile host root reference uri

/-- `_sanitize_artifacts`. -/
def sanitizeArtifacts (host : RunnerHost) (boundary : ExecutorBoundary) (workspace : String) (result : RunnerResult) :
    Except RunnerError RunnerResult := do
  let root ← resolve host workspace
  let artifacts ← result.artifacts.mapM (sanitizeReference host boundary root)
  let evidence ← result.evidence.mapM (sanitizeReference host boundary root)
  .ok { result with artifacts := artifacts, evidence := evidence }

end IsolatedCommandRunner

namespace CustomerExecutorDaemon

/-- `_validate_result`, for a task of these identifiers. -/
def validateResult (result : RunnerResult) (runId stepId : String) : Except RunnerError Unit :=
  if result.runId ≠ runId ∨ result.stepId ≠ stepId then
    .error (.valueError "Runner result identity does not match the leased job.")
  else if ∃ reference ∈ result.artifacts ++ result.evidence,
      ∀ sha256 ∈ present reference.sha256, sha256.length ≠ 64 then
    .error (.valueError "Runner results may return only hash-addressed evidence.")
  else .ok ()

end CustomerExecutorDaemon

end SacmRuntime
