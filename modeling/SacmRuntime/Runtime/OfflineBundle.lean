import SacmRuntime.Governance.Tenancy
import SacmRuntime.Lib.Checked
import SacmRuntime.Lib.JsonIndent
import SacmRuntime.Lib.JsonSort
import SacmRuntime.Lib.PythonRepr
import SacmRuntime.Runtime.EvidenceService

namespace SacmRuntime

abbrev FileBytes : Type := List UInt8

/-- The entries of a zip file, in their order; a name may come twice. -/
abbrev Archive : Type := List (String × FileBytes)

inductive BundleError where
  | valueError (message : String)
  | keyError (key : String)
  | typeError
  | attributeError
  deriving DecidableEq

/-- What the script uses of the language's library and of the cryptography package. -/
structure BundleEnv where
  encode : String → FileBytes
  loads : FileBytes → Except BundleError Json
  quoted : String → List Char
  sha256 : FileBytes → String
  fingerprint : String → Except BundleError String
  checkEd25519 : String → String → String → Except BundleError Unit

namespace OfflineBundle

def manifestName : String := "bundle-manifest.json"

def artifactPath (name : String) : String := "artifacts/" ++ name

section Values

/-- `value[key]`. -/
def subscript (value : Json) (key : String) : Except BundleError Json :=
  match value with
  | .obj _ =>
    match value.field? key with
    | some found => .ok found
    | none => .error (.keyError key)
  | _ => .error .typeError

/-- `for item in value`. -/
def iterate : Json → Except BundleError (List Json)
  | .arr items => .ok items
  | .obj fields => .ok (fields.map fun field => .str field.1)
  | .str s => .ok (s.toList.map fun c => .str (String.singleton c))
  | _ => .error .typeError

def asText : Json → Except BundleError String
  | .str s => .ok s
  | _ => .error .attributeError

/-- `str(value)`. -/
def textOf (env : BundleEnv) : Json → String
  | .str s => s
  | other => String.ofList (other.repr env.quoted)

/-- `size == n`. A float of this size is written with one decimal, up to the
10 ** 16 from where on an exponent is used. -/
def isSize (size : Json) (n : Nat) : Bool :=
  match size with
  | .int k => k == n
  | .bool b => b.toNat == n
  | .float x => x.text == (toString n).toList ++ ['.', '0'] || (n == 0 && x.text == "-0.0".toList)
  | _ => false

/-- `value.lower()`. -/
def lower (text : String) : List Char := text.toList.flatMap lowerChar

end Values

/-- `bundle.read(name)`: the last entry of the name. -/
def read (archive : Archive) (name : String) : Except BundleError FileBytes :=
  match archive.reverse.find? fun entry => entry.1 == name with
  | some entry => .ok entry.2
  | none => .error (.keyError name)

/-- `verify_ed25519`; the signature is decoded from base64 there. -/
def verifyEd25519 (env : BundleEnv) (publicKey : String) (value signature : Json) : Except BundleError Unit :=
  match signature with
  | .str signature => env.checkEd25519 publicKey signature (value.text false)
  | _ => .error .typeError

/-- The checks of `signature_metadata`; the public key it names. -/
def checkKey (env : BundleEnv) (metadata : Json) (trusted : String) : Except BundleError String :=
  match metadata with
  | .obj _ =>
    if metadata.get "algorithm" ≠ .str "Ed25519" then .error (.valueError "Unsupported offline bundle signature.")
    else do
      let publicKey ← subscript metadata "public_key"
      let publicKey ← asText publicKey
      let fingerprint ← env.fingerprint publicKey
      let declared ← subscript metadata "key_fingerprint"
      if declared ≠ .str fingerprint then .error (.valueError "Offline bundle signing fingerprint mismatch.")
      else if lower fingerprint ≠ lower trusted then
        .error (.valueError "Offline bundle is not signed by the trusted release key.")
      else .ok publicKey
  | _ => .error .attributeError

/-- The checks of one file of the manifest; the name it has in the archive. -/
def checkFile (env : BundleEnv) (archive : Archive) (item : Json) : Except BundleError String := do
  let name ← subscript item "name"
  let value ← read archive (artifactPath (textOf env name))
  let size ← subscript item "size"
  if isSize size value.length = false then
    .error (.valueError ("Offline bundle size mismatch: " ++ textOf env name))
  else do
    let sha256 ← subscript item "sha256"
    if sha256 ≠ .str (env.sha256 value) then
      .error (.valueError ("Offline bundle checksum mismatch: " ++ textOf env name))
    else .ok (artifactPath (textOf env name))

def checkFiles (env : BundleEnv) (archive : Archive) (manifest : Json) : Except BundleError Unit := do
  let files ← subscript manifest "files"
  let items ← iterate files
  let declared ← items.mapM (checkFile env archive)
  if (∀ name ∈ archive.map Prod.fst, name ∈ manifestName :: declared) ∧
      ∀ name ∈ manifestName :: declared, name ∈ archive.map Prod.fst then .ok ()
  else .error (.valueError "Offline bundle contains undeclared files.")

def verify (env : BundleEnv) (archive : Archive) (trusted : String) : Except BundleError Unit :=
  if manifestName ∉ archive.map Prod.fst then .error (.valueError "Offline bundle manifest is missing.")
  else do
    let content ← read archive manifestName
    let envelope ← env.loads content
    let manifest ← subscript envelope "manifest"
    let metadata ← subscript envelope "signature_metadata"
    let publicKey ← checkKey env metadata trusted
    let signature ← subscript envelope "signature"
    verifyEd25519 env publicKey manifest signature
    checkFiles env archive manifest

abbrev Artifact : Type := String × FileBytes

def fileOf (env : BundleEnv) (artifact : Artifact) : Json :=
  .obj [("name", .str artifact.1), ("sha256", .str (env.sha256 artifact.2)), ("size", .int artifact.2.length)]

def collectFiles (env : BundleEnv) : List String → List Artifact → Except BundleError (List Json)
  | _, [] => .ok []
  | names, artifact :: rest =>
    if artifact.1 ∈ names then .error (.valueError ("Duplicate bundle artifact name: " ++ artifact.1))
    else do
      let files ← collectFiles env (artifact.1 :: names) rest
      .ok (fileOf env artifact :: files)

/-- `sorted(files, key=lambda item: str(item["name"]))`. -/
def sortedFiles (env : BundleEnv) (files : List Json) : List Json :=
  files.mergeSort fun a b => decide (textOf env (a.get "name") ≤ textOf env (b.get "name"))

def manifestOf (env : BundleEnv) (createdAt : String) (files : List Json) : Json :=
  .obj [("schema_version", .str "executor-offline-bundle/v1"), ("created_at", .str createdAt),
    ("files", .arr (sortedFiles env files)), ("automatic_update", .bool false)]

def metadataOf (key : EvidenceService.PrivateKey) (fingerprint : String) : Json :=
  .obj [("algorithm", .str "Ed25519"), ("key_fingerprint", .str fingerprint), ("public_key", .str key.publicPem)]

def envelopeOf (key : EvidenceService.PrivateKey) (fingerprint : String) (manifest : Json) : Json :=
  .obj [("manifest", manifest), ("signature", .str (key.sign (manifest.text false))),
    ("signature_metadata", metadataOf key fingerprint)]

def manifestBytes (env : BundleEnv) (envelope : Json) : FileBytes := env.encode (String.ofList (envelope.indented 0))

/-- `generate` with an Ed25519 key: the archive, and the fingerprint. -/
def generate (env : BundleEnv) (key : EvidenceService.PrivateKey) (createdAt : String) (artifacts : List Artifact) :
    Except BundleError (Archive × String) := do
  let files ← collectFiles env [] artifacts
  let fingerprint ← env.fingerprint key.publicPem
  let envelope := envelopeOf key fingerprint (manifestOf env createdAt files)
  .ok (artifacts.map (fun artifact => (artifactPath artifact.1, artifact.2)) ++
    [(manifestName, manifestBytes env envelope)], fingerprint)

end OfflineBundle

end SacmRuntime
