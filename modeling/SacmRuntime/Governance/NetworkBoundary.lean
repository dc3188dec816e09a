import SacmRuntime.Runtime.Rows

namespace SacmRuntime

/-- A project and an organization, as executor admission reads them: with the
`governance_metadata` that two services share. -/
structure GovernedProject where
  id : String
  organizationId : String
  governanceMetadata : Option Json

structure GovernedOrganization where
  id : String
  governanceMetadata : Option Json

instance : Keyed GovernedProject := ⟨GovernedProject.id⟩
instance : Keyed GovernedOrganization := ⟨GovernedOrganization.id⟩

/-- What `urlsplit` finds in a URL. -/
structure SplitUrl where
  scheme : String
  hostname : Option String
  username : Option String
  password : Option String

/-- What the validation takes from its surroundings: the mode, the text of
lists and dicts, `str.lower`, `urlsplit` and the key that signs. -/
structure BoundaryEnv where
  production : Bool
  repr : Json → String
  lower : String → String
  urlsplit : String → Except Error SplitUrl
  signingFingerprint : Except Error String

namespace NetworkBoundary

def conflict (message : String) : Error := .executionConflict message

def demand (holds : Bool) (message : String) : Except Error Unit := if holds then .ok () else .error (conflict message)

def typeName : Json → String
  | .null => "NoneType"
  | .bool _ => "bool"
  | .int _ => "int"
  | .float _ => "float"
  | .str _ => "str"
  | .arr _ => "list"
  | .obj _ => "dict"

def typeError (message : String) : Error := .other "TypeError" message

/-- `str(value)`. -/
def text (env : BoundaryEnv) : Json → String
  | .null => "None"
  | .bool b => if b then "True" else "False"
  | .int n => toString n
  | .float x => String.ofList x.text
  | .str s => s
  | other => env.repr other

/-- `iter(value)`. -/
def iterate : Json → Except Error (List Json)
  | .arr items => .ok items
  | .str s => .ok (s.toList.map fun c => .str (String.ofList [c]))
  | .obj fields => .ok (fields.map fun field => .str field.1)
  | other => .error (typeError ("'" ++ typeName other ++ "' object is not iterable"))

def hashable : Json → Bool
  | .arr _ => false
  | .obj _ => false
  | _ => true

/-- `set(value or [])`. -/
def setOf (value : Json) : Except Error (List Json) := do
  let items ← iterate (value.orElse (.arr []))
  match items.find? fun item => !hashable item with
  | some item => .error (typeError ("unhashable type: '" ++ typeName item ++ "'"))
  | none => .ok items

/-- `value.get(key)`. -/
def dictGet (value : Json) (key : String) : Except Error Json :=
  match value with
  | .obj fields => .ok ((Json.obj fields).get key)
  | other => .error (.attributeError ("'" ++ typeName other ++ "' object has no attribute 'get'"))

def hexDigits : List Char := "0123456789abcdefABCDEF".toList

/-- `any(character not in "0123456789abcdefABCDEF" for character in items)`. -/
def anyForeign : List Json → Except Error Bool
  | [] => .ok false
  | .str s :: rest => if s.toList <:+: hexDigits then anyForeign rest else .ok true
  | other :: _ => .error (typeError ("'in <string>' requires string as left operand, not " ++ typeName other))

def isFingerprint (digits : String) : Bool := digits.length == 64 && digits.toList.all fun c => decide (c ∈ hexDigits)

/-- `str(value).lower().split(":", 1)[0]`. -/
def host (env : BoundaryEnv) (value : Json) : String :=
  String.ofList ((env.lower (text env value)).toList.takeWhile (· ≠ ':'))

def nonempty (value : Option String) : Bool := value.any (· ≠ "")

/-- What is declared once the checks that no policy enters into have passed. -/
structure Declared where
  deploymentType : String
  region : String
  outbound : List String
  proxyUrl : Json
  fingerprint : Json
  signingFingerprint : Json

def checkDeployment (boundary : Json) : Except Error String :=
  match boundary.get "deployment_type" with
  | .str kind =>
    if kind ∈ ["vpc", "vnet", "on-premises", "air-gapped"] then .ok kind
    else .error (conflict "Executor network boundary type is invalid.")
  | other =>
    if hashable other then .error (conflict "Executor network boundary type is invalid.")
    else .error (typeError ("unhashable type: '" ++ typeName other ++ "'"))

def checkRegion (boundary : Json) (storageRegion : Option String) : Except Error String :=
  match boundary.get "residency_region" with
  | .str region =>
    if region = "" ∨ (nonempty storageRegion ∧ storageRegion ≠ some region) then
      .error (conflict "Executor boundary residency must match its approved storage region.")
    else .ok region
  | _ => .error (conflict "Executor boundary residency must match its approved storage region.")

def checkBoundaryId (boundary : Json) : Except Error Unit :=
  match boundary.get "boundary_id" with
  | .str id => demand (id ≠ "" && id.length ≤ 255) "Executor network boundary ID is invalid."
  | _ => .error (conflict "Executor network boundary ID is invalid.")

def checkOutbound (env : BoundaryEnv) (boundary : Json) : Except Error (List String) :=
  match (boundary.field? "outbound_allowlist").getD (.arr []) with
  | .arr values =>
    if values.length ≤ 256 ∧ values.all (·.str?.isSome) then .ok (values.map (host env))
    else .error (conflict "Executor outbound allowlist is invalid.")
  | _ => .error (conflict "Executor outbound allowlist is invalid.")

def metadataHosts : List String := ["169.254.169.254", "metadata.google.internal", "100.100.100.200"]

def checkProxy (env : BoundaryEnv) (proxyUrl : Json) : Except Error Unit := do
  if proxyUrl.truthy then
    let parsed ← env.urlsplit (text env proxyUrl)
    demand (parsed.scheme ∈ ["http", "https"] && nonempty parsed.hostname && !nonempty parsed.username &&
      !nonempty parsed.password) "Executor proxy metadata must be credential-free HTTP(S)."
  else .ok ()

def checkTls (boundary : Json) : Except Error Json :=
  match (boundary.get "tls").orElse (.obj []) with
  | .obj fields => .ok (.obj fields)
  | _ => .error (conflict "Executor TLS boundary metadata is invalid.")

/-- The fingerprint is read character by character and not as its text. -/
def checkServer (env : BoundaryEnv) (fingerprint : Json) : Except Error Unit := do
  if fingerprint.truthy then
    if (text env fingerprint).length = 64 then
      let items ← iterate fingerprint
      let foreign ← anyForeign items
      demand (!foreign) "Control-plane TLS fingerprint metadata is invalid."
    else .error (conflict "Control-plane TLS fingerprint metadata is invalid.")
  else .ok ()

def checkClient (env : BoundaryEnv) (tls : Json) : Except Error Unit :=
  let client := tls.get "client_certificate_sha256"
  demand (tls.get "mtls" ≠ .bool true || (client.truthy && isFingerprint (text env client)))
    "Executor mTLS certificate fingerprint is invalid."

def checkSigning (env : BoundaryEnv) (signing : Json) : Except Error Unit := do
  if signing.truthy then
    demand (isFingerprint (text env signing)) "Control-plane signing fingerprint metadata is invalid."
    let own ← env.signingFingerprint
    demand (env.lower (text env signing) == env.lower own) "Executor declared the wrong control-plane signing key."
  else .ok ()

/-- `_validate_network_boundary` up to the lookup of the policy. -/
def declare (env : BoundaryEnv) (boundary : Json) (storageRegion : Option String) : Except Error Declared := do
  let deploymentType ← checkDeployment boundary
  demand (boundary.get "metadata_service_blocked" = .bool true) "Executor must block cloud metadata services."
  let region ← checkRegion boundary storageRegion
  checkBoundaryId boundary
  let outbound ← checkOutbound env boundary
  demand (outbound.all (· ∉ metadataHosts)) "Executor boundary allows a metadata service."
  demand (deploymentType ≠ "air-gapped" || outbound.isEmpty)
    "Air-gapped executor boundaries cannot allow outbound destinations."
  checkProxy env (boundary.get "proxy_url")
  let tls ← checkTls boundary
  let fingerprint := tls.get "server_certificate_sha256"
  let signing := tls.get "signing_key_sha256"
  demand (!env.production || (fingerprint.truthy && signing.truthy))
    "Production executor boundaries require TLS and signing-key pins."
  checkServer env fingerprint
  checkClient env tls
  checkSigning env signing
  return ⟨deploymentType, region, outbound, boundary.get "proxy_url", fingerprint, signing⟩

/-- The checks of `_validate_network_boundary` against a policy. -/
def checkPolicy (env : BoundaryEnv) (policy : Json) (declared : Declared) : Except Error Unit := do
  let types ← dictGet policy "allowed_boundary_types"
  let types ← setOf types
  demand (types.isEmpty || .str declared.deploymentType ∈ types)
    "Executor boundary type is not allowed by organization policy."
  let regions ← dictGet policy "allowed_regions"
  let regions ← setOf regions
  demand (regions.isEmpty || .str declared.region ∈ regions) "Executor residency is not allowed by organization policy."
  let hosts ← dictGet policy "allowed_outbound_hosts"
  let hosts ← iterate (hosts.orElse (.arr []))
  demand (hosts.isEmpty || declared.outbound.all (· ∈ hosts.map (host env)))
    "Executor outbound allowlist exceeds organization policy."
  let requireProxy ← dictGet policy "require_proxy"
  demand (!requireProxy.truthy || declared.proxyUrl.truthy) "Organization policy requires an executor proxy."
  let prints ← dictGet policy "control_plane_tls_fingerprints"
  let prints ← iterate (prints.orElse (.arr []))
  demand (prints.isEmpty || env.lower (text env declared.fingerprint) ∈ prints.map fun value =>
    env.lower (text env value))
    "Executor control-plane TLS fingerprint is not organization-approved."
  let signers ← dictGet policy "control_plane_signing_fingerprints"
  let signers ← iterate (signers.orElse (.arr []))
  demand (signers.isEmpty || env.lower (text env declared.signingFingerprint) ∈ signers.map fun value =>
    env.lower (text env value))
    "Executor control-plane signing key is not organization-approved."

/-- `metadata.update(other)`, for an attribute that may be missing or empty. -/
def update (metadata : Json) : Option Json → Json
  | some (.obj fields) => fields.foldl (fun merged field => merged.set field.1 field.2) metadata
  | _ => metadata

/-- The executor policy that is in force for a scope: the project's metadata
goes over that of its organization. -/
def executorPolicy (organizations : Table GovernedOrganization) (projects : Table GovernedProject)
    (organizationId projectId : Option String) : Json :=
  let project := (projectId.filter (· ≠ "")).bind projects.find
  let owner := match project with
    | some project => some project.organizationId
    | none => organizationId
  let organization := (owner.filter (· ≠ "")).bind organizations.find
  let metadata := update (update (.obj []) (organization.bind GovernedOrganization.governanceMetadata))
    (project.bind GovernedProject.governanceMetadata)
  (metadata.get "executor_network_policy").orElse (.obj [])

end NetworkBoundary

open NetworkBoundary in
/-- `_validate_network_boundary`. -/
def validateNetworkBoundary (env : BoundaryEnv) (organizations : Table GovernedOrganization)
    (projects : Table GovernedProject) (organizationId projectId : Option String) (boundary : Json)
    (storageRegion : Option String) : Except Error Unit :=
  if boundary.get "schema_version" = .str "executor-network-boundary/v1" then do
    let declared ← declare env boundary storageRegion
    checkPolicy env (executorPolicy organizations projects organizationId projectId) declared
  else demand (!env.production) "Production enrollment requires executor-network-boundary/v1."

end SacmRuntime
