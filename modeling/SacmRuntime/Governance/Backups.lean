import SacmRuntime.Governance.Tenancy
import SacmRuntime.Lib.PosixPath

namespace SacmRuntime

inductive BackupStatus where
  | pending | running | completed | failed | corrupt
  deriving DecidableEq

structure BackupRecord where
  id : String
  organizationId : Option String
  status : BackupStatus
  checksum : Option String
  storageUri : String
  encryptionMetadata : Json
  snapshotAt : Option Nat
  completedAt : Option Nat
  createdAt : Nat

/-- `backup.encryption_metadata.get("algorithm") == "age"`. -/
def BackupRecord.encrypted (backup : BackupRecord) : Prop := backup.encryptionMetadata.get "algorithm" = .str "age"

instance (backup : BackupRecord) : Decidable backup.encrypted :=
  inferInstanceAs (Decidable (backup.encryptionMetadata.get "algorithm" = .str "age"))

/-- The exceptions of the backup service, with the name of their class. -/
inductive BackupError where
  | osError (className message : String)
  | subprocessError (className message : String)
  | valueError (message : String)
  | authorizationError (message : String)
  | integrityError (message : String)

inductive CommandFailure where
  | osError (className message : String)
  | subprocessError (className message : String)

def CommandFailure.raised : CommandFailure → BackupError
  | osError className message => .osError className message
  | subprocessError className message => .subprocessError className message

inductive ReadFailure where
  | osError (className message : String)
  | decodeError (message : String)

def ReadFailure.raised : ReadFailure → BackupError
  | osError className message => .osError className message
  | decodeError message => .valueError message

/-- The parts of a URI that `_safe_storage_path` looks at. -/
structure SplitUri where
  scheme : String
  netloc : String
  path : String
  credentials : Bool
  queried : Bool

/-- What says where backups may be stored, and who may manage them: the parser of
the library, the file system, the settings and the permissions. -/
structure StorageEnv where
  files : FileSystem
  urlsplit : String → SplitUri
  unquote : String → String
  backupRoot : String
  authorize : Option String → String → String → Except BackupError Unit

/-- A `BackupCreate` payload; `encryptionMetadata` is a dictionary. -/
structure BackupCreate where
  organizationId : Option String
  sourceDatabase : String
  storageUri : String
  storageRegion : Option String
  storageClassification : Option String
  storageClass : Option String
  rpoTargetSeconds : Nat
  rtoTargetSeconds : Nat
  encryptionMetadata : List (String × Json)
  artifactMetadata : Json
  evidenceMetadata : Json
  execute : Bool

structure StorageChoice where
  region : Option String
  classification : Option String
  storageClass : Option String

structure BackupRow extends BackupRecord where
  scopeType : String
  storageRegion : Option String
  storageClassification : Option String
  storageClass : Option String
  sourceDatabase : String
  artifactMetadata : Json
  evidenceMetadata : Json
  rpoTargetSeconds : Nat
  rtoTargetSeconds : Nat
  requestedBy : String
  startedAt : Option Nat := none
  sizeBytes : Option Nat := none
  failure : Option (String × String) := none

/-- What wrote a file: `pg_dump`, the age command, or something else. -/
inductive FileOrigin where
  | dump | encrypted | other
  deriving DecidableEq

abbrev Disk : Type := List FileName → Option FileOrigin

/-- How an external command ends: with status 0, its output being there, or
with an exception, some output being there or not. -/
inductive CommandEnd where
  | done
  | failed (failure : CommandFailure) (left : Bool)

/-- The surroundings of the backup service that stay the same. -/
structure BackupEnv extends StorageEnv where
  isDirectory : List FileName → Bool
  resolveResidency : BackupCreate → Except BackupError StorageChoice

/-- What `create` reads from its environment, and the new identifier. -/
structure CreationSettings where
  recipientsFile : Option String
  encryptionKeyId : Option String
  id : String
  createdAt : Nat

/-- What an execution meets: who asks, the recipients file of the moment, and
how each thing outside goes. -/
structure BackupAttempt where
  actor : String
  recipientsFile : Option String
  directory : Except CommandFailure Unit
  credentials : Except ReadFailure Unit
  dump : CommandEnd
  encryption : CommandEnd
  measured : Except CommandFailure (String × Nat)
  startedAt : Nat
  completedAt : Nat

structure BackupState where
  row : BackupRow
  disk : Disk

abbrev BackupMethod (α : Type) : Type := Tx BackupState BackupError α

def BackupStatus.name : BackupStatus → String
  | pending => "PENDING"
  | running => "RUNNING"
  | completed => "COMPLETED"
  | failed => "FAILED"
  | corrupt => "CORRUPT"

namespace BackupService

/-- `_safe_storage_path`. -/
def safeStoragePath (env : StorageEnv) (storageUri : String) : Except BackupError (List FileName) :=
  let parsed := env.urlsplit storageUri
  if parsed.credentials || parsed.queried then
    .error (.valueError "Storage URI must not contain credentials, query, or fragment.")
  else if parsed.scheme ∉ ["", "file"] ∨ parsed.netloc ∉ ["", "localhost"] then
    .error (.valueError "Only credential-free file storage URIs are supported.")
  else
    let path := env.files.realpath (env.unquote (if parsed.scheme ≠ "" then parsed.path else storageUri)).toList
    if env.files.realpath env.backupRoot.toList <+: path then .ok path
    else .error (.valueError "Backup storage path must be inside SACM_BACKUP_ROOT.")

def encryptionOf (payload : BackupCreate) (settings : CreationSettings) : Json :=
  let encryption := Json.obj payload.encryptionMetadata
  match present settings.recipientsFile with
  | some _ => ((encryption.set "algorithm" (.str "age")).set "recipients_source" (.str "file")).set "key_id"
      (.ofOption settings.encryptionKeyId)
  | none => if (encryption.field? "algorithm").isSome then encryption else encryption.set "algorithm" (.str "none")

/-- The record that `create` adds. -/
def newRow (payload : BackupCreate) (actor : String) (settings : CreationSettings) (storage : StorageChoice) :
    BackupRow where
  id := settings.id
  organizationId := payload.organizationId
  status := .pending
  checksum := none
  storageUri := payload.storageUri
  encryptionMetadata := encryptionOf payload settings
  snapshotAt := none
  completedAt := none
  createdAt := settings.createdAt
  scopeType := if (present payload.organizationId).isSome then "ORGANIZATION" else "GLOBAL"
  storageRegion := storage.region
  storageClassification := storage.classification
  storageClass := storage.storageClass
  sourceDatabase := payload.sourceDatabase
  artifactMetadata := payload.artifactMetadata
  evidenceMetadata := payload.evidenceMetadata
  rpoTargetSeconds := payload.rpoTargetSeconds
  rtoTargetSeconds := payload.rtoTargetSeconds
  requestedBy := actor

/-- The residency rules decide for a tenant, the payload otherwise. -/
def chosenStorage (env : BackupEnv) (payload : BackupCreate) : Except BackupError StorageChoice :=
  if (present payload.organizationId).isSome then env.resolveResidency payload
  else .ok ⟨payload.storageRegion, payload.storageClassification, payload.storageClass⟩

/-- `create`, up to the commit; with `execute` the first execution follows. -/
def create (env : BackupEnv) (productionMode : Bool) (payload : BackupCreate) (actor : String)
    (settings : CreationSettings) : Except BackupError BackupRow := do
  env.authorize payload.organizationId actor "resilience.manage"
  let path ← safeStoragePath env.toStorageEnv payload.storageUri
  if env.isDirectory path then .error (.valueError "Backup storage URI must identify a file.")
  else if productionMode = true ∧ (encryptionOf payload settings).get "algorithm" = .str "none" then
    .error (.valueError "Production logical backups must be encrypted.")
  else
    let storage ← chosenStorage env payload
    .ok (newRow payload actor settings storage)

/-- `destination.with_name(f".{destination.name}.{record.id}.raw")`. -/
def rawPath (destination : List FileName) (id : String) : List FileName :=
  destination.dropLast ++ ['.' :: (destination.getLast?.getD [] ++ '.' :: (id.toList ++ ".raw".toList))]

def write (path : List FileName) (artifact : FileOrigin) (s : BackupState) : BackupState :=
  { s with disk := fun other => if other = path then some artifact else s.disk other }

/-- `path.unlink()`. -/
def remove (path : List FileName) (s : BackupState) : BackupState :=
  { s with disk := fun other => if other = path then none else s.disk other }

def updateRow (f : BackupRow → BackupRow) : BackupMethod Unit := Tx.shift fun s => { s with row := f s.row }

/-- `_run` of a command with one output file. -/
def runCommand (output : List FileName) (artifact : FileOrigin) : CommandEnd → BackupMethod Unit
  | .done => Tx.shift (write output artifact)
  | .failed failure left => do
    Tx.shift fun s => if left then write output artifact s else s
    Tx.raise failure.raised

def encrypt (attempt : BackupAttempt) (destination : List FileName) : BackupMethod Unit :=
  match present attempt.recipientsFile with
  | none => Tx.raise (.valueError "age recipients file is not configured.")
  | some _ => runCommand destination .encrypted attempt.encryption

/-- `_checksum` and `stat` of the file: it has to be there. -/
def measure (attempt : BackupAttempt) (destination : List FileName) : BackupMethod (String × Nat) := do
  let file ← Tx.read fun s => s.disk destination
  match file with
  | none => Tx.raise (.osError "FileNotFoundError" "No such file or directory")
  | some _ => Tx.ofExcept (attempt.measured.mapError CommandFailure.raised)

/-- The body of the `try` of `execute`. -/
def produce (attempt : BackupAttempt) (encrypted : Bool) (destination raw : List FileName) : BackupMethod Unit := do
  Tx.ofExcept (attempt.credentials.mapError ReadFailure.raised)
  runCommand raw .dump attempt.dump
  if encrypted then encrypt attempt destination else pure ()
  let (checksum, size) ← measure attempt destination
  updateRow fun row => { row with
    checksum := some checksum, sizeBytes := some size, snapshotAt := row.startedAt
    completedAt := some attempt.completedAt, status := .completed }

def markFailed (className : String) : BackupMethod Unit :=
  updateRow fun row => { row with status := .failed, failure := some (className, "Backup command failed.") }

/-- `except (OSError, SubprocessError, ValueError)`. -/
def backupFailed : BackupError → BackupMethod Unit
  | .osError className _ => markFailed className
  | .subprocessError className _ => markFailed className
  | .valueError _ => markFailed "ValueError"
  | .authorizationError message => Tx.raise (.authorizationError message)
  | .integrityError message => Tx.raise (.integrityError message)

/-- The `try` with its `except` and its `finally`. -/
def attemptBackup (attempt : BackupAttempt) (encrypted : Bool) (destination raw : List FileName) : BackupMethod Unit :=
  Tx.andFinally (Tx.catchRaise (produce attempt encrypted destination raw) backupFailed)
    (if encrypted then Tx.shift (remove raw) else pure ())

/-- `execute`. -/
def execute (env : BackupEnv) (attempt : BackupAttempt) : BackupMethod BackupRow := do
  let row ← Tx.read BackupState.row
  Tx.ofExcept (env.authorize row.organizationId attempt.actor "resilience.manage")
  if row.status ≠ .pending ∧ row.status ≠ .failed then
    Tx.raise (.valueError ("Backup cannot execute from " ++ row.status.name ++ "."))
  else
    let destination ← Tx.ofExcept (safeStoragePath env.toStorageEnv row.storageUri)
    Tx.ofExcept (attempt.directory.mapError CommandFailure.raised)
    let encrypted := decide row.encrypted
    let raw := if encrypted then rawPath destination row.id else destination
    updateRow fun row => { row with status := .running, startedAt := some attempt.startedAt, failure := none }
    attemptBackup attempt encrypted destination raw
    Tx.read BackupState.row

end BackupService

end SacmRuntime
