import SacmRuntime.Governance.Authentication

namespace SacmRuntime
open Session

/-- A row of `memory_chunks`, without the time of its last update. -/
structure MemoryChunk where
  id : String
  organizationId : Option String
  projectId : Option String
  tenantAttribution : Option Json
  dataRegion : Option String
  dataClassification : Option String
  taskId : String
  sourceType : String
  sourceId : Option String
  kind : String
  scopeKey : String
  content : String
  contentHash : String
  embedding : Option (List ℚ)
  importance : ℚ
  confidence : ℚ
  validUntil : Option Nat
  supersedesId : Option String
  supersededAt : Option Nat
  createdAt : Nat

instance : Keyed MemoryChunk := ⟨MemoryChunk.id⟩

structure MemoryDb where
  governance : GovernanceDb
  chunks : Table MemoryChunk := .empty

abbrev MemoryMethod (α : Type) : Type := Tx (Session MemoryDb) Error α

/-- What the memory service takes from its surroundings: hashes, the embedding
of a text and the distance of two embeddings, and the dialect of the database. -/
structure MemoryEnv where
  sha256 : List Char → String
  embed : String → List ℚ
  cosineDistance : List ℚ → List ℚ → ℚ
  postgresql : Bool
  governance : GovernanceEnv
  resources : Resources

/-- The arguments of `add`. -/
structure MemoryAdd where
  taskId : String
  content : String
  sourceType : String := "manual"
  importance : ℚ := 1 / 2
  actorId : Option String := none
  sourceId : Option String := none
  confidence : ℚ := 7 / 10
  kind : String := "task"
  validUntil : Option Nat := none
  supersedesId : Option String := none

/-- The arguments of `search`. -/
structure MemorySearch where
  taskId : String
  query : String
  topK : Int := 8
  actorId : Option String := none
  scopes : Option (List String) := none

def MemoryChunk.valid (now : Nat) (chunk : MemoryChunk) : Bool :=
  chunk.supersededAt.isNone && chunk.validUntil.all (now < ·)

/-- What a repeated addition changes in the chunk it finds. -/
def MemoryChunk.reinforce (p : MemoryAdd) (chunk : MemoryChunk) : MemoryChunk :=
  { chunk with
    importance := max chunk.importance p.importance
    confidence := max chunk.confidence p.confidence
    validUntil := match p.validUntil, chunk.validUntil with
      | some later, some known => if known < later then some later else some known
      | some later, none => some later
      | none, known => known }

namespace MemoryService

def onGovernance {α : Type} (m : GovernanceMethod α) : MemoryMethod α :=
  onPart MemoryDb.governance (fun d governance => { d with governance := governance }) m

/-- `re.sub(r"\\s+", " ", content).strip()`. -/
def normalized (content : String) : List Char :=
  [' '].intercalate ((content.toList.splitOnP isSpace).filter (· ≠ []))

/-- `_scope_key`. -/
def scopeKey (task : Task) (context : Option TenantContext) (scope : String) : Except Error String :=
  let unavailable : Error := .valueError ("Memory scope '" ++ scope ++ "' is unavailable for this task.")
  if scope = "task" then .ok task.id
  else
    let key :=
      if scope = "project" then context.bind fun context => present context.projectId
      else if scope = "organization" then context.bind fun context => present (some context.organizationId)
      else if scope = "repository" then present task.targetRepoPath
      else none
    match key with
    | some key => .ok key
    | none => .error unavailable

/-- `_authorize`. -/
def authorize (env : MemoryEnv) (auth : Option AuthContext) (taskId : String) (actorId : Option String)
    (permission : String) : MemoryMethod (Option Task) :=
  match actorId with
  | some actorId => do
    let task ← onGovernance
      (ResourceAuthorizationService.requireTask env.governance auth env.resources taskId actorId permission)
    return some task
  | none =>
    if env.resources.production then Tx.raise (.permissionError "Authenticated tenant context is required.")
    else return env.resources.shared.tasks.find taskId

/-- The row `add` inserts. -/
def newChunk (env : MemoryEnv) (p : MemoryAdd) (task : Task) (context : Option TenantContext) (key hash id : String)
    (createdAt : Nat) : MemoryChunk where
  id := id
  organizationId := context.map TenantContext.organizationId
  projectId := context.bind TenantContext.projectId
  tenantAttribution := context.map fun context =>
    .obj [("schema_version", .str "tenant-attribution/v1"), ("source", .str context.source)]
  dataRegion := task.dataRegion
  dataClassification := task.dataClassification
  taskId := p.taskId
  sourceType := p.sourceType
  sourceId := p.sourceId
  kind := p.kind
  scopeKey := key
  content := p.content
  contentHash := hash
  embedding := some (env.embed p.content)
  importance := p.importance
  confidence := p.confidence
  validUntil := p.validUntil
  supersedesId := p.supersedesId
  supersededAt := none
  createdAt := createdAt

/-- The end of `add`: the chunk replaces the one it names, and is stored. -/
def store (p : MemoryAdd) (key : String) (chunk : MemoryChunk) : MemoryMethod MemoryChunk := do
  match present p.supersedesId with
  | none => pure ()
  | some previousId =>
    let found ← view fun d => d.chunks.find previousId
    let previous ← Tx.expect (.valueError "Superseded memory chunk not found.") found
    if previous.kind ≠ p.kind ∨ previous.scopeKey ≠ key then
      Tx.raise (.valueError "Memory may supersede only within the same scope.")
    else do
      let now ← utcnow
      modify fun d => { d with chunks := d.chunks.update previousId fun row => { row with supersededAt := some now } }
  let inserted ← view fun d => d.chunks.insert? chunk
  let chunks ← Tx.expect (.integrityError "memory_chunks.id") inserted
  modify fun d => { d with chunks := chunks }
  commit
  return chunk

/-- `add`. -/
def add (env : MemoryEnv) (auth : Option AuthContext) (p : MemoryAdd) : MemoryMethod MemoryChunk := do
  let found ← authorize env auth p.taskId p.actorId "tasks.write"
  let task ← Tx.expect (.valueError ("Task " ++ p.taskId ++ " not found.")) found
  let context ← view fun d => ResourceAuthorizationService.taskContext env.resources d.governance task
  if ¬(0 ≤ p.importance ∧ p.importance ≤ 1) ∨ ¬(0 ≤ p.confidence ∧ p.confidence ≤ 1) then
    Tx.raise (.valueError "Memory importance and confidence must be between 0 and 1.")
  else do
    let key ← Tx.ofExcept (scopeKey task context p.kind)
    if normalized p.content = [] then Tx.raise (.valueError "Memory content must not be empty.")
    else do
      let hash := env.sha256 (normalized p.content)
      let now ← utcnow
      let existing ← view fun d => (Table.orderBy MemoryChunk.createdAt (d.chunks.rows.filter fun chunk =>
        chunk.kind == p.kind && chunk.scopeKey == key && chunk.contentHash == hash &&
          MemoryChunk.valid now chunk)).getLast?
      match existing with
      | some chunk => do
        modify fun d => { d with chunks := d.chunks.update chunk.id (MemoryChunk.reinforce p) }
        commit
        return MemoryChunk.reinforce p chunk
      | none => do
        let id ← uuid4
        let createdAt ← utcnow
        store p key (newChunk env p task context key hash id createdAt)

/-- The pairs of scope and key a search may see: `_scope_filters`. -/
def scopeFilters (task : Task) (context : Option TenantContext) (scopes : Option (List String)) :
    List (String × String) :=
  let requested := ((scopes.filter (· ≠ [])).getD ["task", "project", "repository", "organization"]).dedup
  let allowed := requested.filterMap fun scope => (scopeKey task context scope).toOption.map fun key => (scope, key)
  if allowed = [] then [("task", task.id)] else allowed

/-- The order of the chunks a search finds: on PostgreSQL by distance first. -/
def ranked (env : MemoryEnv) (query : String) (chunks : List MemoryChunk) : List MemoryChunk :=
  let merit (chunk : MemoryChunk) : Lex (ℚ × Lex (ℚ × Int)) :=
    toLex (-chunk.confidence, toLex (-chunk.importance, -(chunk.createdAt : Int)))
  if env.postgresql then
    let distance (chunk : MemoryChunk) : ℚ := env.cosineDistance (chunk.embedding.getD []) (env.embed query)
    (chunks.filter fun chunk => chunk.embedding.isSome).insertionSort fun a b =>
      toLex (distance a, merit a) ≤ toLex (distance b, merit b)
  else chunks.insertionSort fun a b => merit a ≤ merit b

/-- `search`. -/
def search (env : MemoryEnv) (auth : Option AuthContext) (q : MemorySearch) : MemoryMethod (List MemoryChunk) := do
  let found ← authorize env auth q.taskId q.actorId "tasks.read"
  match found with
  | none => return []
  | some task =>
    if q.topK < 1 then return []
    else do
      let context ← view fun d => ResourceAuthorizationService.taskContext env.resources d.governance task
      let allowed := scopeFilters task context q.scopes
      let now ← utcnow
      view fun d => (ranked env q.query (d.chunks.rows.filter fun chunk =>
        (chunk.kind, chunk.scopeKey) ∈ allowed && MemoryChunk.valid now chunk)).take q.topK.toNat

end MemoryService

end SacmRuntime
