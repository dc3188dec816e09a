import SacmRuntime.Governance.Tenancy
import SacmRuntime.Lib.Loop
import SacmRuntime.Lib.PythonRepr
import SacmRuntime.Runtime.GraphBuilder

namespace SacmRuntime

/-- What the adapter calls of the standard library: `sha256(data).hexdigest()`;
`json.loads`, unless it raises; `int` of a text and of a number, unless it
raises; `repr` of a text; `\w`. -/
structure ScipEnv where
  sha256 : List UInt8 → List Char
  loads : List UInt8 → Option Json
  intOfText : String → Option Int
  intOfFloat : FloatText → Option Int
  quoted : String → List Char
  isWord : Char → Bool

/-- A regular file in the repository; what cannot be read raises. -/
structure ScipFile where
  size : Option Nat
  bytes : Option (List UInt8)

structure RepositoryCodeState where
  revision : String
  workspaceHash : String
  dirty : Bool
  fingerprintComplete : Bool

/-- The arguments of `merge` besides the graph, with the files at the two paths. -/
structure ScipImport where
  index : Option ScipFile
  manifest : Option ScipFile
  repositoryId : String
  fileIds : List (String × String)
  state : RepositoryCodeState

/-- The statuses, and `raised` where an `OverflowError` leaves `merge`. -/
inductive ScipStatus
  | unavailable | truncated | stale | invalid | partially | complete | raised
  deriving DecidableEq

structure CodeIntelligenceImport where
  status : ScipStatus := .unavailable
  fingerprint : Option String := none
  expectedFingerprint : Option String := none
  toolName : Option String := none
  toolVersion : Option String := none
  documentCount : Nat := 0
  symbolCount : Nat := 0
  occurrenceCount : Nat := 0
  repositoryRevision : String
  indexRevision : Option String := none
  workspaceHash : String
  indexWorkspaceHash : Option String := none
  workspaceComplete : Bool
  indexWorkspaceComplete : Json := .null
  generatedAt : Option String := none
  dirty : Bool
  indexers : List (List (String × String)) := []
  errors : List String := []

/-- An occurrence, and the semantic node it was attached to. -/
structure Attachment where
  repository : String
  path : String
  indexer : Option String
  symbol : String
  symbolId : String
  deriving DecidableEq

/-- An entry of `symbol_information`. -/
structure SymbolInformation where
  information : Json
  path : Option String
  indexer : Option String

/-- The local variables of `merge` once the index is read. `raised` and
`attached` are none of them: whether an exception has ended the loops, and the
occurrences that they have attached. -/
structure ScipMerging where
  graph : GraphBuilder
  result : CodeIntelligenceImport
  symbols : List (String × String) := []
  occurrenceLimitReached : Bool := false
  relationshipCount : Nat := 0
  raised : Bool := false
  attached : List Attachment := []

namespace ScipJsonAdapter

def maxBytes : Nat := 8 * 1024 * 1024

def maxContainers : Nat := 100000

def maxSeparators : Nat := 500000

def maxDepth : Nat := 64

def maxDocuments : Nat := 20000

def maxOccurrences : Nat := 200000

def maxSymbols : Nat := 50000

def maxRelationships : Nat := 100000

def maxSymbolLength : Nat := 4096

variable (env : ScipEnv)

/-- The local variables of `_preflight_json`. -/
structure Preflight where
  inString : Bool := false
  escaped : Bool := false
  depth : Nat := 0
  containers : Nat := 0
  separators : Nat := 0

/-- One character; nothing where `False` is returned. -/
def Preflight.read (p : Preflight) (value : UInt8) : Option Preflight :=
  let character := Char.ofNat value.toNat
  if p.inString then
    if p.escaped then some { p with escaped := false }
    else if character = '\\' then some { p with escaped := true }
    else if character = '"' then some { p with inString := false }
    else some p
  else if character = '"' then some { p with inString := true }
  else if character ∈ ['[', '{'] then
    if maxDepth < p.depth + 1 || maxContainers < p.containers + 1 then none
    else some { p with depth := p.depth + 1, containers := p.containers + 1 }
  else if character ∈ [']', '}'] then
    if p.depth = 0 then none else some { p with depth := p.depth - 1 }
  else if character = ',' then
    if maxSeparators < p.separators + 1 then none else some { p with separators := p.separators + 1 }
  else some p

/-- `_preflight_json`. -/
def preflightJson (raw : List UInt8) : Bool :=
  match raw.foldlM Preflight.read ({} : Preflight) with
  | some p => p.depth = 0 && !p.inString
  | none => false

/-- `str(value)`. -/
def text (value : Json) : String :=
  match value with
  | .str s => s
  | other => String.ofList (other.repr env.quoted)

/-- `str(value or "") or None`. -/
def textOrNone (value : Json) : Option String := present (some (text env (value.orElse (.str ""))))

/-- `_value`. -/
def value (payload : Json) (snake camel : String) : Json :=
  (payload.field? snake).getD (payload.get camel)

/-- `_integer`. -/
def integer (value : Json) : Int :=
  match value with
  | .bool true => 1
  | .int n => n
  | .float x => (env.intOfFloat x).getD 0
  | .str s => if s = "" then 0 else (env.intOfText s).getD 0
  | _ => 0

/-- `int` of an infinite number raises an `OverflowError`, which `_integer` does not catch. -/
def infinite (value : Json) : Bool :=
  match value with
  | .float x => x.text ∈ ["inf".toList, "-inf".toList]
  | _ => false

/-- `_valid_symbol`, with the symbol. -/
def validSymbol (value : Json) : Option String :=
  match value with
  | .str s => if 0 < s.length ∧ s.length ≤ maxSymbolLength then some s else none
  | _ => none

/-- `symbol.startswith("local ")`. -/
def isLocal (symbol : String) : Bool := "local ".toList.isPrefixOf symbol.toList

/-- `_symbol_key`. -/
def symbolKey (relativePath symbol : String) (indexer : Option String) : String :=
  if isLocal symbol then (present indexer).getD "unknown" ++ "\x00" ++ relativePath ++ "\x00" ++ symbol else symbol

/-- `_canonical`. -/
def canonical (value : String) : Bool :=
  let parts := value.toList.splitOn '/'
  value ≠ "" && value.toList.head? ≠ some '/' && ['.', '.'] ∉ parts && ['.'] ∉ parts && '\\' ∉ value.toList &&
    !contains value.toList ['/', '/']

/-- The first run of a name that ends the text, but for one of the given endings. -/
def nameBefore (endings : List (List Char)) : List Char → Option (List Char)
  | [] => none
  | c :: rest =>
    let head := ('A' ≤ c && c ≤ 'Z') || ('a' ≤ c && c ≤ 'z') || c = '_' || c = '$'
    let inside := fun d => env.isWord d || d = '$'
    if head && rest.dropWhile inside ∈ endings then some (c :: rest.takeWhile inside) else nameBefore endings rest

/-- What `$` matches: the end, or a newline before it. -/
def atEnd (endings : List String) : List (List Char) :=
  endings.flatMap fun ending => [ending.toList, ending.toList ++ ['\n']]

/-- `_simple_name`. -/
def simpleName (symbol : String) : String :=
  let function := nameBefore env (atEnd ["()", "()."]) symbol.toList
  let descriptor := nameBefore env (atEnd ["", "#", ".", "/"]) symbol.toList
  String.ofList ((function.or descriptor).getD (symbol.toList.drop (symbol.length - 500)))

/-- An entry of `definitions` or `sources`: at most twenty different ones. -/
def collect (key : String) (entry metadata : Json) : Json :=
  let known := (metadata.get key).items
  metadata.set key (.arr (if entry ∈ known ∨ 20 ≤ known.length then known else known ++ [entry]))

/-- The id that `_symbol_node` gives a symbol. -/
def symbolId (repositoryId key symbol : String) : String :=
  let digest := String.ofList ((env.sha256 key.toUTF8.toList).take 24)
  if isLocal symbol then repositoryId ++ ":semantic_local_symbol:" ++ digest else "semantic_symbol:" ++ digest

/-- The node that `_symbol_node` adds. -/
def semanticNode (repositoryId key symbol : String) (information : Json) (result : CodeIntelligenceImport) :
    GraphNode where
  id := symbolId env repositoryId key symbol
  type := "semantic_symbol"
  repository := if isLocal symbol then repositoryId else "canonical"
  label :=
    let name := ((information.get "display_name").orElse (information.get "displayName")).orElse
      (.str (simpleName env symbol))
    String.ofList ((text env name).toList.take 500)
  path := none
  metadata := .obj [("kind", information.get "kind"), ("semantic", .bool true), ("symbol", .str symbol),
    ("tool_name", .ofOption result.toolName), ("tool_version", .ofOption result.toolVersion)]

/-- `_symbol_node`. -/
def symbolNode (repositoryId key symbol : String) (information : Json) (result : CodeIntelligenceImport)
    (graph : GraphBuilder) : String × GraphBuilder :=
  let id := symbolId env repositoryId key symbol
  let source := Json.obj [("repository", .str repositoryId), ("tool_name", .ofOption result.toolName),
    ("tool_version", .ofOption result.toolVersion)]
  let added := (graph.addNode (semanticNode env repositoryId key symbol information result)).2
  (id, added.annotate id (collect "sources" source))

/-- `_record_error`. -/
def recordError (code : String) (errors : List String) : List String :=
  if code ∈ errors then errors else errors ++ [code]

/-- `errors.append`. -/
def report (code : String) (m : ScipMerging) : ScipMerging :=
  { m with result := { m.result with errors := m.result.errors ++ [code] } }

/-- The node of a key: known to this merge, or a new one unless there are too many. -/
def resolve (repositoryId key symbol : String) (information : List (String × SymbolInformation)) (m : ScipMerging) :
    Option (String × ScipMerging) :=
  match m.symbols.lookup key with
  | some id => some (id, m)
  | none =>
    if maxSymbols ≤ m.symbols.length then none
    else
      let about := ((information.lookup key).map SymbolInformation.information).getD (.obj [])
      let (id, graph) := symbolNode env repositoryId key symbol about m.result m.graph
      some (id, { m with graph := graph, symbols := m.symbols ++ [(key, id)] })

/-- The symbol limit is recorded where a node was refused. -/
def refused (m : ScipMerging) : ScipMerging :=
  { m with result := { m.result with errors := recordError "scip_symbol_limit_exceeded" m.result.errors } }

/-- What `_line` reads. -/
def lineStart (occurrence : Json) : Option Json :=
  let single := (occurrence.get "single_line_range").orElse (occurrence.get "singleLineRange")
  let multi := (occurrence.get "multi_line_range").orElse (occurrence.get "multiLineRange")
  let starts := [single.get "line", single.get "start_line", single.get "startLine", multi.get "start_line",
    multi.get "startLine"]
  (starts.find? (· ≠ .null)).or (occurrence.get "range").items.head?

/-- `_line`. -/
def line (occurrence : Json) : Json :=
  match lineStart occurrence with
  | some start => .int (integer env start + 1)
  | none => .null

structure ScannedDocument where
  path : String
  indexer : Option String
  fileId : String

/-- `roles & 1`. -/
def definesSymbol (roles : Int) : Bool := roles % 2 = 1

/-- `roles & 32`. -/
def testsSymbol (roles : Int) : Bool := roles / 32 % 2 = 1

/-- What is done for an occurrence once it has its node. -/
def attach (repositoryId : String) (document : ScannedDocument) (occurrence : Json) (symbol id : String)
    (m : ScipMerging) : ScipMerging :=
  let roles := integer env (value occurrence "symbol_roles" "symbolRoles")
  let definition := Json.obj [("repository", .str repositoryId), ("path", .str document.path),
    ("line", line env occurrence), ("indexer", .ofOption document.indexer)]
  let graph := if definesSymbol roles then m.graph.annotate id (collect "definitions" definition) else m.graph
  let type := if definesSymbol roles then "defines_semantic_symbol" else "references_semantic_symbol"
  let graph := graph.addEdge document.fileId id type
  let graph := if testsSymbol roles then graph.addEdge document.fileId id "tests_semantic_symbol" else graph
  { m with graph := graph
           result := { m.result with occurrenceCount := m.result.occurrenceCount + 1 }
           attached := m.attached ++ [⟨repositoryId, document.path, document.indexer, symbol, id⟩] }

def raises (occurrence : Json) : Bool :=
  infinite (value occurrence "symbol_roles" "symbolRoles") || (lineStart occurrence).any infinite

/-- Where an exception ends the merge: what it did to the graph is left, and no result. -/
def overflow (graph : GraphBuilder) (m : ScipMerging) : ScipMerging :=
  { report "OverflowError" m with graph := graph, occurrenceLimitReached := true, raised := true }

/-- The body of the loop over the occurrences of a document. -/
def occurrencePass (repositoryId : String) (information : List (String × SymbolInformation))
    (document : ScannedDocument) (occurrence : Json) (m : ScipMerging) : Pass ScipMerging :=
  match validSymbol (occurrence.get "symbol") with
  | none => .next m
  | some symbol =>
    if maxOccurrences ≤ m.result.occurrenceCount then
      .stop { report "scip_occurrence_limit_exceeded" m with occurrenceLimitReached := true }
    else
      match resolve env repositoryId (symbolKey document.path symbol document.indexer) symbol information m with
      | none => .stop (refused m)
      | some (id, n) =>
        if raises occurrence then .stop (overflow n.graph m)
        else .next (attach env repositoryId document occurrence symbol id n)

/-- `document.get("sacm_indexer")`. -/
def documentIndexer (document : Json) : Option String :=
  if (document.get "sacm_indexer").truthy then some (text env (document.get "sacm_indexer")) else none

def documentPath (document : Json) : Option String :=
  (value document "relative_path" "relativePath").str?.filter canonical

def documentPass (call : ScipImport) (information : List (String × SymbolInformation)) (document : Json)
    (m : ScipMerging) : Pass ScipMerging :=
  if m.occurrenceLimitReached then .stop m
  else
    match document with
    | .obj _ =>
      match documentPath document with
      | none => .next (report "scip_document_path_invalid" m)
      | some path =>
        match call.fileIds.lookup path with
        | none => .next m
        | some fileId =>
          let m := { m with result := { m.result with documentCount := m.result.documentCount + 1 } }
          match (document.get "occurrences").orElse (.arr []) with
          | .arr occurrences =>
            .next (Loop.run (occurrencePass env call.repositoryId information
              ⟨path, documentIndexer env document, fileId⟩) occurrences m)
          | _ => .next (report "scip_occurrences_invalid" m)
    | _ => .next m

/-- `symbol_information[key] = entry`: a key keeps its place. -/
def assign (key : String) (entry : SymbolInformation) :
    List (String × SymbolInformation) → List (String × SymbolInformation)
  | [] => [(key, entry)]
  | (other, known) :: rest => if other = key then (key, entry) :: rest else (other, known) :: assign key entry rest

structure Collecting where
  information : List (String × SymbolInformation) := []
  errors : List String := []
  symbolLimitReached : Bool := false

/-- The body of the loop over the symbols of a document. -/
def symbolPass (path : String) (indexer : Option String) (item : Json) (c : Collecting) : Pass Collecting :=
  if maxSymbols ≤ c.information.length then
    .stop { c with errors := c.errors ++ ["scip_symbol_limit_exceeded"], symbolLimitReached := true }
  else
    match validSymbol (item.get "symbol") with
    | none => .next c
    | some symbol =>
      .next { c with information := assign (symbolKey path symbol indexer) ⟨item, some path, indexer⟩ c.information }

def informationPass (document : Json) (c : Collecting) : Pass Collecting :=
  if c.symbolLimitReached then .stop c
  else
    match document with
    | .obj _ =>
      match documentPath document, (document.get "symbols").orElse (.arr []) with
      | some path, .arr symbols => .next (Loop.run (symbolPass path (documentIndexer env document)) symbols c)
      | _, _ => .next c
    | _ => .next c

/-- The symbols that the index declares outside its documents. -/
def externalSymbols (payload : Json) : List Json :=
  ((payload.field? "external_symbols").getD ((payload.field? "externalSymbols").getD (.arr []))).items

def collectInformation (payload : Json) (documents : List Json) : Collecting :=
  let declared := externalSymbols payload
  let information := (declared.take maxSymbols).foldl
    (fun information item =>
      match validSymbol (item.get "symbol") with
      | none => information
      | some symbol => assign symbol ⟨item, none, none⟩ information) []
  let errors := (if maxSymbols < declared.length then ["scip_symbol_limit_exceeded"] else []) ++
    if maxDocuments < documents.length then ["scip_document_limit_exceeded"] else []
  Loop.run (informationPass env) (documents.take maxDocuments)
    ⟨information, errors, maxSymbols ≤ information.length⟩

/-- `_relationship_types`. -/
def relationshipTypes (relationship : Json) : List String :=
  let mapping := [("is_implementation", "isImplementation", "implements"),
    ("is_type_definition", "isTypeDefinition", "type_definition"), ("is_definition", "isDefinition", "definition_of"),
    ("is_reference", "isReference", "semantic_reference")]
  (mapping.filter fun entry => (relationship.get entry.1).truthy || (relationship.get entry.2.1).truthy).map
    fun entry => entry.2.2

def relate (source target : String) (relationship : Json) (m : ScipMerging) : ScipMerging :=
  let types := relationshipTypes relationship
  { m with graph := types.foldl (fun graph type => graph.addEdge source target type) m.graph
           relationshipCount := m.relationshipCount + types.length }

/-- The body of the loop over the relationships of a symbol. -/
def relationshipPass (repositoryId : String) (information : List (String × SymbolInformation)) (source : String)
    (entry : SymbolInformation) (relationship : Json) (m : ScipMerging) : Pass ScipMerging :=
  if maxRelationships ≤ m.relationshipCount then .stop (report "scip_relationship_limit_exceeded" m)
  else
    match validSymbol (relationship.get "symbol") with
    | none => .next m
    | some symbol =>
      match resolve env repositoryId (symbolKey (entry.path.getD "") symbol entry.indexer) symbol information m with
      | none => .stop (refused m)
      | some (target, m) => .next (relate source target relationship m)

/-- The body of the loop over the symbols with information. -/
def relationshipsPass (repositoryId : String) (information : List (String × SymbolInformation))
    (entry : String × SymbolInformation) (m : ScipMerging) : Pass ScipMerging :=
  match m.symbols.lookup entry.1 with
  | none => .next m
  | some source =>
    match (entry.2.information.get "relationships").orElse (.arr []) with
    | .arr relationships =>
      .next (Loop.run (relationshipPass env repositoryId information source entry.2) relationships m)
    | _ => .next m

def definedIn (node semantic : GraphNode) : Bool :=
  (semantic.metadata.get "definitions").items.any fun definition =>
    definition.get "repository" == .str node.repository && definition.get "path" == .ofOption node.path

/-- `_link_syntactic_fallback`. -/
def linkSyntacticFallback (symbols : List (String × String)) (graph : GraphBuilder) : GraphBuilder :=
  let semantic := (symbols.map Prod.snd).dedup.filterMap graph.nodes.find
  graph.nodes.rows.foldl
    (fun linked node =>
      if node.type ∈ ["symbol", "test_symbol"] then
        match semantic.filter fun candidate => candidate.label = node.label && definedIn node candidate with
        | [candidate] => linked.addEdge node.id candidate.id "resolved_as"
        | _ => linked
      else linked)
    graph

def truncatedErrors : List String :=
  ["scip_document_limit_exceeded", "scip_occurrence_limit_exceeded", "scip_relationship_limit_exceeded",
    "scip_symbol_limit_exceeded"]

def finalStatus (result : CodeIntelligenceImport) : ScipStatus :=
  if result.errors.any (· ∈ truncatedErrors) then .truncated
  else if result.errors ≠ [] ∨ result.documentCount = 0 then .partially
  else .complete

/-- `merge`, from the relationships on. -/
def mergeRelationships (call : ScipImport) (information : List (String × SymbolInformation)) (m : ScipMerging) :
    ScipMerging :=
  let m := Loop.run (relationshipsPass env call.repositoryId information) information m
  let result := { m.result with symbolCount := m.symbols.length }
  { m with graph := linkSyntacticFallback m.symbols m.graph, result := { result with status := finalStatus result } }

/-- The loops of `merge` over the documents. -/
def scanDocuments (call : ScipImport) (payload : Json) (documents : List Json) (result : CodeIntelligenceImport)
    (graph : GraphBuilder) : ScipMerging :=
  let collected := collectInformation env payload documents
  Loop.run (documentPass env call collected.information) (documents.take maxDocuments)
    { graph := graph, result := { result with errors := result.errors ++ collected.errors } }

/-- `merge`, from the documents of the index on. -/
def mergeDocuments (call : ScipImport) (payload : Json) (documents : List Json) (result : CodeIntelligenceImport)
    (graph : GraphBuilder) : ScipMerging :=
  let m := scanDocuments env call payload documents result graph
  if m.raised then { m with result := { m.result with status := .raised } }
  else mergeRelationships env call (collectInformation env payload documents).information m

def refuse (graph : GraphBuilder) (result : CodeIntelligenceImport) (status : ScipStatus) (error : String) :
    ScipMerging :=
  { graph := graph, result := { result with status := status, errors := result.errors ++ [error] } }

def readManifest (manifest : Json) (result : CodeIntelligenceImport) : CodeIntelligenceImport :=
  let named := fun item : Json =>
    match item with
    | .obj fields =>
      some ((fields.filter fun field => field.1 ∈ ["language", "name", "version"]).map
        fun field => (field.1, text env field.2))
    | _ => none
  { result with
    indexRevision := textOrNone env (manifest.get "repository_revision")
    indexWorkspaceHash := textOrNone env (manifest.get "workspace_hash")
    indexWorkspaceComplete := manifest.get "workspace_complete"
    generatedAt := textOrNone env (manifest.get "generated_at")
    expectedFingerprint := textOrNone env (manifest.get "index_sha256")
    indexers := ((manifest.get "indexers").items.filterMap named).take 20 }

def current (state : RepositoryCodeState) (result : CodeIntelligenceImport) : Bool :=
  result.indexRevision = some state.revision && result.indexWorkspaceHash = some state.workspaceHash &&
    result.indexWorkspaceComplete = .bool true

/-- What `metadata` of the index says. -/
def readMetadata (metadata : Json) (raw : List UInt8) (result : CodeIntelligenceImport) : CodeIntelligenceImport :=
  let tool := value metadata "tool_info" "toolInfo"
  { result with
    toolName := textOrNone env (tool.get "name")
    toolVersion := textOrNone env (tool.get "version")
    fingerprint := some (String.ofList (env.sha256 raw)) }

/-- `merge`, from the payload of the index on. -/
def mergePayload (call : ScipImport) (raw : List UInt8) (payload : Json) (result : CodeIntelligenceImport)
    (graph : GraphBuilder) : ScipMerging :=
  match payload.get "metadata" with
  | .obj fields =>
    let result := readMetadata env (.obj fields) raw result
    if result.expectedFingerprint = none ∨ result.fingerprint ≠ result.expectedFingerprint then
      refuse graph result .invalid "scip_snapshot_digest_mismatch"
    else
      match (payload.get "documents").orElse (.arr []) with
      | .arr documents => mergeDocuments env call payload documents result graph
      | _ => refuse graph result .invalid "scip_documents_invalid"
  | _ => refuse graph result .invalid "scip_index_invalid"

/-- `merge`, from the index file on. -/
def mergeIndex (call : ScipImport) (index : ScipFile) (result : CodeIntelligenceImport) (graph : GraphBuilder) :
    ScipMerging :=
  match index.size with
  | none => refuse graph result .invalid "scip_index_invalid"
  | some size =>
    if maxBytes < size then refuse graph result .truncated "scip_index_oversized"
    else
      match index.bytes with
      | none => refuse graph result .invalid "scip_index_invalid"
      | some raw =>
        if !preflightJson raw then refuse graph result .truncated "scip_index_structure_limit_exceeded"
        else
          match env.loads raw with
          | none => refuse graph result .invalid "scip_index_invalid"
          | some payload => mergePayload env call raw payload result graph

/-- The manifest, unless it is oversized or cannot be read. -/
def loadManifest (file : ScipFile) : Option Json :=
  match file.size, file.bytes with
  | some size, some raw => if 64 * 1024 < size then none else env.loads raw
  | _, _ => none

/-- `merge`. -/
def merge (call : ScipImport) (graph : GraphBuilder) : ScipMerging :=
  let result : CodeIntelligenceImport :=
    { repositoryRevision := call.state.revision, workspaceHash := call.state.workspaceHash, dirty := call.state.dirty,
      workspaceComplete := call.state.fingerprintComplete }
  match call.index with
  | none => { graph := graph, result := result }
  | some index =>
    if !call.state.fingerprintComplete then refuse graph result .truncated "workspace_fingerprint_truncated"
    else
      match call.manifest with
      | none => refuse graph result .stale "scip_snapshot_metadata_missing"
      | some file =>
        match loadManifest env file with
        | some (.obj fields) =>
          if Json.get (.obj fields) "schema_version" ≠ .str "code-intelligence-snapshot/v1" then
            refuse graph result .invalid "scip_snapshot_metadata_invalid"
          else
            let result := readManifest env (.obj fields) result
            if !current call.state result then refuse graph result .stale "scip_snapshot_revision_mismatch"
            else mergeIndex env call index result graph
        | _ => refuse graph result .invalid "scip_snapshot_metadata_invalid"

end ScipJsonAdapter

end SacmRuntime
