import SacmRuntime.Runtime.ScipMerge

namespace SacmRuntime
open ScipJsonAdapter

/-- The key under which an occurrence looks for its node. -/
def Attachment.key (a : Attachment) : String := symbolKey a.path a.symbol a.indexer

/-- The occurrences are of one symbol: of a global one, or of one local to a document. -/
def SameSymbol (a b : Attachment) : Prop :=
  (isLocal a.symbol = false ∧ isLocal b.symbol = false ∧ a.symbol = b.symbol) ∨
    (isLocal a.symbol = true ∧ isLocal b.symbol = true ∧ a.repository = b.repository ∧ a.path = b.path ∧
      a.indexer = b.indexer ∧ a.symbol = b.symbol)

def merges (env : ScipEnv) : List ScipImport → GraphBuilder → List ScipMerging
  | [], _ => []
  | call :: rest, graph => merge env call graph :: merges env rest (merge env call graph).graph

/-- Two occurrences are attached to one node exactly if they are of one symbol. -/
def SymbolIdentity (merged : List ScipMerging) : Prop :=
  ∀ m ∈ merged, ∀ n ∈ merged, ∀ a ∈ m.attached, ∀ b ∈ n.attached, a.symbolId = b.symbolId ↔ SameSymbol a b

/-- No global symbol of a merge is the key of a local one, and local symbols of
a repository share a key only if they agree. -/
structure KeysApart (merged : List ScipMerging) : Prop where
  kinds : ∀ m ∈ merged, ∀ a ∈ m.attached, ∀ b ∈ m.attached, a.key = b.key → isLocal a.symbol = isLocal b.symbol
  locals : ∀ m ∈ merged, ∀ n ∈ merged, ∀ a ∈ m.attached, ∀ b ∈ n.attached, isLocal a.symbol = true →
    isLocal b.symbol = true → a.repository = b.repository → a.key = b.key →
      a.path = b.path ∧ a.indexer = b.indexer ∧ a.symbol = b.symbol

structure DigestsApart (env : ScipEnv) (merged : List ScipMerging) : Prop where
  length : ∀ data, (env.sha256 data).length = 64
  apart : ∀ m ∈ merged, ∀ n ∈ merged, ∀ a ∈ m.attached, ∀ b ∈ n.attached,
    (env.sha256 a.key.toUTF8.toList).take 24 = (env.sha256 b.key.toUTF8.toList).take 24 → a.key = b.key

section Ids
variable {env : ScipEnv} {repository other : String} {a b : Attachment}

theorem symbolId_congr {key symbol first : String} (kind : isLocal symbol = isLocal first) :
    symbolId env repository key symbol = symbolId env repository key first := by
  unfold symbolId
  rw [kind]

theorem digest_append_inj {x y : List Char} {s t : String} (same : s ++ String.ofList x = t ++ String.ofList y)
    (length : x.length = y.length) : s = t ∧ x = y := by
  have lists := congrArg String.toList same
  rw [String.toList_append, String.toList_append, String.toList_ofList, String.toList_ofList] at lists
  obtain ⟨front, back⟩ := List.append_inj' lists length
  exact ⟨String.toList_injective front, back⟩

theorem symbolId_inj {key key' symbol symbol' : String} (length : ∀ data, (env.sha256 data).length = 64)
    (apart : (env.sha256 key.toUTF8.toList).take 24 = (env.sha256 key'.toUTF8.toList).take 24 → key = key')
    (same : symbolId env repository key symbol = symbolId env other key' symbol') :
    key = key' ∧ isLocal symbol = isLocal symbol' ∧ (isLocal symbol = true → repository = other) := by
  have digests : ∀ k k' : String, ((env.sha256 k.toUTF8.toList).take 24).length =
      ((env.sha256 k'.toUTF8.toList).take 24).length := by
    intro k k'
    rw [List.length_take, List.length_take, length, length]
  have different : ∀ name : String, "semantic_symbol:" ≠ name ++ ":semantic_local_symbol:" := by
    intro name equal
    have counted := congrArg (fun s : String => s.toList.length) equal
    rw [String.toList_append, List.length_append] at counted
    have short : ("semantic_symbol:".toList).length = 16 := by decide
    have long : (":semantic_local_symbol:".toList).length = 23 := by decide
    omega
  unfold symbolId at same
  cases first : isLocal symbol <;> cases second : isLocal symbol' <;> simp only [first, second] at same
  · exact ⟨apart (digest_append_inj same (digests key key')).2, rfl, fun local_ => by cases local_⟩
  · exact absurd (digest_append_inj same (digests key key')).1 (different other)
  · exact absurd (digest_append_inj same (digests key key')).1.symm (different repository)
  · obtain ⟨front, back⟩ := digest_append_inj same (digests key key')
    have lists := congrArg String.toList front
    rw [String.toList_append, String.toList_append] at lists
    exact ⟨apart back, rfl, fun _ => String.toList_injective (List.append_cancel_right lists)⟩

theorem SameSymbol.key (same : SameSymbol a b) : a.key = b.key := by
  unfold Attachment.key symbolKey
  rcases same with ⟨first, second, symbol⟩ | ⟨first, second, -, path, indexer, symbol⟩
  · rw [first, second]
    exact symbol
  · rw [path, indexer, symbol]

end Ids

/-- The occurrences that a merge has attached: those with one key share the id
that the first of them was given. -/
def Coherent (env : ScipEnv) (repository : String) (attached : List Attachment) : Prop :=
  (∀ a ∈ attached, a.repository = repository) ∧
    ∀ a ∈ attached, ∃ first ∈ attached, first.key = a.key ∧ ∀ b ∈ attached, b.key = a.key →
      b.symbolId = symbolId env repository a.key first.symbol

structure Attaching (env : ScipEnv) (repository : String) (m : ScipMerging) : Prop where
  origin : ∀ a ∈ m.attached, a.repository = repository
  known : ∀ a ∈ m.attached, m.symbols.lookup a.key = some a.symbolId
  named : ∀ key id, m.symbols.lookup key = some id →
    ∃ a ∈ m.attached, a.key = key ∧ id = symbolId env repository key a.symbol

def Reads (env : ScipEnv) (call : ScipImport) (raw : List UInt8) (payload : Json) : Prop :=
  ∃ file, call.index = some file ∧ file.bytes = some raw ∧ env.loads raw = some payload

/-- The manifest binds the index to the state of the repository: revision,
hash of the workspace, and digest of the index. -/
def Bound (env : ScipEnv) (call : ScipImport) (raw : List UInt8) : Prop :=
  ∃ file manifest, call.manifest = some file ∧ loadManifest env file = some manifest ∧
    textOrNone env (manifest.get "repository_revision") = some call.state.revision ∧
    textOrNone env (manifest.get "workspace_hash") = some call.state.workspaceHash ∧
    textOrNone env (manifest.get "index_sha256") = some (String.ofList (env.sha256 raw))

section Merge
variable {env : ScipEnv} {repository : String} {information : List (String × SymbolInformation)} {m n : ScipMerging}
  {call : ScipImport}

theorem Attaching.coherent (attaching : Attaching env repository m) : Coherent env repository m.attached := by
  refine ⟨attaching.origin, fun a member => ?_⟩
  obtain ⟨first, inAttached, key, id⟩ := attaching.named a.key a.symbolId (attaching.known a member)
  refine ⟨first, inAttached, key, fun b inB same => ?_⟩
  have atB := attaching.known b inB
  rw [same, attaching.known a member] at atB
  rw [← Option.some.inj atB, id]

theorem Attaching.congr (attaching : Attaching env repository m) (symbols : n.symbols = m.symbols)
    (attached : n.attached = m.attached) : Attaching env repository n where
  origin := attached ▸ attaching.origin
  known := by
    rw [symbols, attached]
    exact attaching.known
  named := by
    rw [symbols, attached]
    exact attaching.named

variable {document : ScannedDocument} {graph : GraphBuilder} {id key symbol : String} {occurrence payload : Json}
  {result : CodeIntelligenceImport}

/-- Resolving a key finds its node, or adds one and changes nothing but the
graph and the keys. -/
theorem resolve_cases (resolved : resolve env repository key symbol information m = some (id, n)) :
    (m.symbols.lookup key = some id ∧ n = m) ∨
      ∃ about, m.symbols.lookup key = none ∧ id = symbolId env repository key symbol ∧
        n = { m with graph := (symbolNode env repository key symbol about m.result m.graph).2,
                     symbols := m.symbols ++ [(key, id)] } := by
  unfold resolve at resolved
  cases known : m.symbols.lookup key with
  | some known_ =>
    rw [known] at resolved
    cases Option.some.inj resolved
    exact .inl ⟨rfl, rfl⟩
  | none =>
    rw [known] at resolved
    simp only at resolved
    split at resolved
    · cases resolved
    · cases Option.some.inj resolved
      exact .inr ⟨_, rfl, rfl, rfl⟩

theorem resolve_attached (resolved : resolve env repository key symbol information m = some (id, n)) :
    n.attached = m.attached := by
  rcases resolve_cases resolved with ⟨-, rfl⟩ | ⟨about, -, -, rfl⟩ <;> rfl

theorem resolve_symbols (resolved : resolve env repository key symbol information m = some (id, n)) :
    (m.symbols.lookup key = some id ∧ n.symbols = m.symbols) ∨
      (m.symbols.lookup key = none ∧ id = symbolId env repository key symbol ∧
        n.symbols = m.symbols ++ [(key, id)]) := by
  rcases resolve_cases resolved with ⟨known, rfl⟩ | ⟨about, fresh, first, rfl⟩
  · exact .inl ⟨known, rfl⟩
  · exact .inr ⟨fresh, first, rfl⟩

theorem Attaching.attach (attaching : Attaching env repository m)
    (resolved : resolve env repository (symbolKey document.path symbol document.indexer) symbol information m =
      some (id, n)) : Attaching env repository (attach env repository document occurrence symbol id n) := by
  have before := resolve_attached resolved
  let new : Attachment := ⟨repository, document.path, document.indexer, symbol, id⟩
  have attached : (ScipJsonAdapter.attach env repository document occurrence symbol id n).attached =
      m.attached ++ [new] := by
    rw [← before]
    rfl
  have symbols : (ScipJsonAdapter.attach env repository document occurrence symbol id n).symbols = n.symbols := rfl
  rcases resolve_symbols resolved with ⟨known, same⟩ | ⟨fresh, first, grown⟩
  · constructor
    · intro a member
      rw [attached, List.mem_append, List.mem_singleton] at member
      rcases member with earlier | rfl
      · exact attaching.origin a earlier
      · rfl
    · intro a member
      rw [symbols, same]
      rw [attached, List.mem_append, List.mem_singleton] at member
      rcases member with earlier | rfl
      · exact attaching.known a earlier
      · exact known
    · intro key found atKey
      rw [symbols, same] at atKey
      obtain ⟨a, member, named, id⟩ := attaching.named key found atKey
      exact ⟨a, attached ▸ List.mem_append_left _ member, named, id⟩
  · constructor
    · intro a member
      rw [attached, List.mem_append, List.mem_singleton] at member
      rcases member with earlier | rfl
      · exact attaching.origin a earlier
      · rfl
    · intro a member
      rw [symbols, grown, List.lookup_append]
      rw [attached, List.mem_append, List.mem_singleton] at member
      rcases member with earlier | rfl
      · rw [attaching.known a earlier]
        rfl
      · have here : m.symbols.lookup new.key = none := fresh
        rw [here]
        exact List.lookup_cons_self
    · intro key found atKey
      rw [symbols, grown, List.lookup_append] at atKey
      cases earlier : m.symbols.lookup key with
      | some known =>
        rw [earlier] at atKey
        obtain ⟨a, member, named, id⟩ := attaching.named key known earlier
        exact ⟨a, attached ▸ List.mem_append_left _ member, named, (Option.some.inj atKey).symm.trans id⟩
      | none =>
        rw [earlier, Option.none_or, List.lookup_cons] at atKey
        split at atKey
        · rename_i same
          have named : key = new.key := eq_of_beq same
          refine ⟨new, attached ▸ List.mem_append_right _ (List.mem_singleton.mpr rfl), named.symm, ?_⟩
          rw [← Option.some.inj atKey, first, named]
          rfl
        · cases atKey

theorem occurrencePass_attaching (attaching : Attaching env repository m) :
    Attaching env repository (occurrencePass env repository information document occurrence m).state := by
  unfold occurrencePass
  cases validSymbol (occurrence.get "symbol") with
  | none => exact attaching
  | some symbol =>
    simp only
    split
    · exact attaching.congr rfl rfl
    · split
      · exact attaching.congr rfl rfl
      · split
        · exact attaching.congr rfl rfl
        · rename_i resolved _
          exact attaching.attach resolved

theorem documentPass_attaching {document : Json} (attaching : Attaching env call.repositoryId m) :
    Attaching env call.repositoryId (documentPass env call information document m).state := by
  unfold documentPass
  split
  · exact attaching
  · cases document with
    | obj fields =>
      simp only
      cases documentPath (.obj fields) with
      | none => exact attaching.congr rfl rfl
      | some path =>
        simp only
        cases call.fileIds.lookup path with
        | none => exact attaching
        | some fileId =>
          simp only
          split
          · exact Loop.keeps (fun _ _ _ kept => occurrencePass_attaching kept) (attaching.congr rfl rfl)
          · exact attaching.congr rfl rfl
    | _ => exact attaching

theorem relationshipPass_attached {source : String} {entry : SymbolInformation} {relationship : Json} :
    (relationshipPass env repository information source entry relationship m).state.attached = m.attached := by
  unfold relationshipPass
  split
  · rfl
  · cases validSymbol (relationship.get "symbol") with
    | none => rfl
    | some symbol =>
      simp only
      split
      · rfl
      · rename_i resolved
        have before := resolve_attached resolved
        exact before

theorem relationshipsPass_attached {entry : String × SymbolInformation} :
    (relationshipsPass env repository information entry m).state.attached = m.attached := by
  unfold relationshipsPass
  split
  · rfl
  · split
    · exact Loop.keeps (P := fun n : ScipMerging => n.attached = m.attached)
        (fun _ _ _ same => relationshipPass_attached.trans same) rfl
    · rfl

theorem relationships_attached (entries : List (String × SymbolInformation)) :
    (Loop.run (relationshipsPass env repository information) entries m).attached = m.attached :=
  Loop.keeps (P := fun n : ScipMerging => n.attached = m.attached)
    (fun _ _ _ same => relationshipsPass_attached.trans same) rfl

theorem scanDocuments_attaching {documents : List Json} :
    Attaching env call.repositoryId (scanDocuments env call payload documents result graph) :=
  Loop.keeps (fun _ _ _ kept => documentPass_attaching kept) ⟨nofun, nofun, nofun⟩

theorem mergeDocuments_coherent {documents : List Json} :
    Coherent env call.repositoryId (mergeDocuments env call payload documents result graph).attached := by
  unfold mergeDocuments
  simp only
  split
  · exact scanDocuments_attaching.coherent
  · unfold mergeRelationships
    simp only
    rw [relationships_attached]
    exact scanDocuments_attaching.coherent

theorem coherent_nil : Coherent env repository [] := by
  refine ⟨fun a member => ?_, fun a member => ?_⟩
  · cases member
  · cases member

theorem documents_items {value : Json} {documents : List Json} (given : value.orElse (.arr []) = .arr documents) :
    documents = value.items := by
  unfold Json.orElse at given
  split at given
  · rw [given]
    rfl
  · rename_i falsy
    cases Json.arr.inj given
    cases value with
    | arr items =>
      cases items with
      | nil => rfl
      | cons first rest => exact absurd rfl falsy
    | _ => rfl

/-- Merging either leaves the graph alone, without being complete, or it goes
through the documents of an index that the manifest binds to the repository. -/
theorem merge_cases (env : ScipEnv) (call : ScipImport) (graph : GraphBuilder) :
    ((merge env call graph).graph = graph ∧ (merge env call graph).result.status ≠ .complete ∧
        (merge env call graph).attached = []) ∨
      ∃ raw payload result, Reads env call raw payload ∧ Bound env call raw ∧
        merge env call graph = mergeDocuments env call payload (payload.get "documents").items result graph := by
  have refused : ∀ result status error, status ≠ ScipStatus.complete →
      (refuse graph result status error).graph = graph ∧ (refuse graph result status error).result.status ≠ .complete ∧
        (refuse graph result status error).attached = [] := fun _ _ _ different => ⟨rfl, different, rfl⟩
  unfold merge
  simp only
  cases indexed : call.index with
  | none => exact .inl ⟨rfl, by simp, rfl⟩
  | some index =>
    simp only
    split
    · exact .inl (refused _ _ _ (by simp))
    cases described : call.manifest with
    | none => exact .inl (refused _ _ _ (by simp))
    | some file =>
      simp only
      split
      swap
      · exact .inl (refused _ _ _ (by simp))
      rename_i fields loaded
      split
      · exact .inl (refused _ _ _ (by simp))
      split
      · exact .inl (refused _ _ _ (by simp))
      rename_i fresh
      unfold mergeIndex
      cases index.size with
      | none => exact .inl (refused _ _ _ (by simp))
      | some size =>
        simp only
        split
        · exact .inl (refused _ _ _ (by simp))
        cases bytes : index.bytes with
        | none => exact .inl (refused _ _ _ (by simp))
        | some raw =>
          simp only
          split
          · exact .inl (refused _ _ _ (by simp))
          cases read : env.loads raw with
          | none => exact .inl (refused _ _ _ (by simp))
          | some payload =>
            simp only
            unfold mergePayload
            split
            swap
            · exact .inl (refused _ _ _ (by simp))
            simp only
            split
            · exact .inl (refused _ _ _ (by simp))
            rename_i digest
            split
            swap
            · exact .inl (refused _ _ _ (by simp))
            rename_i documents given
            rw [documents_items given]
            refine .inr ⟨raw, payload, _, ⟨index, indexed, bytes, read⟩, ?_, rfl⟩
            unfold current at fresh
            simp only [Bool.not_eq_true', Bool.not_eq_false, Bool.and_eq_true, decide_eq_true_eq] at fresh
            push Not at digest
            exact ⟨file, .obj fields, described, loaded, fresh.1.1, fresh.1.2, digest.2.symm⟩

theorem merge_coherent (graph : GraphBuilder) : Coherent env call.repositoryId (merge env call graph).attached := by
  rcases merge_cases env call graph with ⟨-, -, nothing⟩ | ⟨_, _, _, -, -, merged⟩
  · rw [nothing]
    exact coherent_nil
  · rw [merged]
    exact mergeDocuments_coherent

theorem merges_coherent (calls : List ScipImport) (graph : GraphBuilder) :
    ∀ m ∈ merges env calls graph, ∃ repository, Coherent env repository m.attached := by
  induction calls generalizing graph with
  | nil =>
    intro m member
    cases member
  | cons call rest ih =>
    intro m member
    rcases List.mem_cons.mp member with rfl | later
    · exact ⟨_, merge_coherent graph⟩
    · exact ih _ m later

theorem Coherent.own {attached : List Attachment} {a : Attachment} (coherent : Coherent env repository attached)
    (kinds : ∀ a ∈ attached, ∀ b ∈ attached, a.key = b.key → isLocal a.symbol = isLocal b.symbol)
    (member : a ∈ attached) : a.symbolId = symbolId env a.repository a.key a.symbol := by
  obtain ⟨first, inAttached, key, ids⟩ := coherent.2 a member
  rw [ids a member rfl, coherent.1 a member]
  exact symbolId_congr (kinds first inAttached a member key)

end Merge

/-- Occurrences are attached by their symbols exactly if the keys keep apart
what is different. -/
theorem symbol_identity_iff (env : ScipEnv) (calls : List ScipImport) (graph : GraphBuilder)
    (digests : DigestsApart env (merges env calls graph)) :
    SymbolIdentity (merges env calls graph) ↔ KeysApart (merges env calls graph) := by
  have coherent : ∀ m ∈ merges env calls graph, ∃ repository, Coherent env repository m.attached :=
    merges_coherent calls graph
  constructor
  · intro identity
    have kinds : ∀ m ∈ merges env calls graph, ∀ a ∈ m.attached, ∀ b ∈ m.attached, a.key = b.key →
        isLocal a.symbol = isLocal b.symbol := by
      intro m inMerges a inA b inB key
      obtain ⟨repository, held⟩ := coherent m inMerges
      obtain ⟨first, -, -, ids⟩ := held.2 b inB
      have same : a.symbolId = b.symbolId := (ids a inA key).trans (ids b inB rfl).symm
      rcases (identity m inMerges m inMerges a inA b inB).mp same with ⟨first, second, -⟩ | ⟨first, second, -⟩
      · rw [first, second]
      · rw [first, second]
    refine ⟨kinds, fun m inM n inN a inA b inB localA localB repository key => ?_⟩
    obtain ⟨_, heldM⟩ := coherent m inM
    obtain ⟨_, heldN⟩ := coherent n inN
    have same : a.symbolId = b.symbolId := by
      rw [heldM.own (kinds m inM) inA, heldN.own (kinds n inN) inB, repository, key]
      exact symbolId_congr (localA.trans localB.symm)
    rcases (identity m inM n inN a inA b inB).mp same with ⟨first, -⟩ | ⟨-, -, -, agree⟩
    · rw [localA] at first
      cases first
    · exact agree
  · intro apart m inM n inN a inA b inB
    obtain ⟨_, heldM⟩ := coherent m inM
    obtain ⟨_, heldN⟩ := coherent n inN
    rw [heldM.own (apart.kinds m inM) inA, heldN.own (apart.kinds n inN) inB]
    constructor
    · intro same
      obtain ⟨key, kind, repository⟩ := symbolId_inj digests.length (digests.apart m inM n inN a inA b inB) same
      cases first : isLocal a.symbol with
      | false =>
        rw [first] at kind
        unfold Attachment.key symbolKey at key
        rw [first, ← kind] at key
        exact .inl ⟨first, kind.symm, key⟩
      | true =>
        rw [first] at kind
        have here := repository first
        exact .inr ⟨first, kind.symm, here, apart.locals m inM n inN a inA b inB first kind.symm here key⟩
    · intro same
      rw [same.key]
      rcases same with ⟨first, second, -⟩ | ⟨first, second, repository, -⟩
      · unfold symbolId
        rw [first, second]
        rfl
      · rw [repository]
        exact symbolId_congr (first.trans second.symm)

namespace ScipSample

def bytesOf (document : Json) : List UInt8 := (document.dumps true).map fun c => UInt8.ofNat c.toNat

/-- A digest of texts that differ early, and a reader of the two given documents. -/
def env (manifest payload : Json) : ScipEnv where
  sha256 data := ((data.map fun b => Char.ofNat b.toNat) ++ List.replicate 64 '0').take 64
  loads data :=
    if data = bytesOf manifest then some manifest else if data = bytesOf payload then some payload else none
  intOfText _ := none
  intOfFloat _ := none
  quoted s := s.toList
  isWord c := c.isAlphanum || c == '_'

/-- The index of a file, in which the given symbols occur. -/
def payload (symbols : List String) : Json :=
  .obj [("metadata", .obj []), ("documents", .arr [.obj [("relative_path", .str "a.py"),
    ("occurrences", .arr (symbols.map fun symbol => .obj [("symbol", .str symbol)]))]])]

def fileOf (document : Json) : ScipFile where
  size := some (bytesOf document).length
  bytes := some (bytesOf document)

def manifest (payload : Json) : Json :=
  .obj [("schema_version", .str "code-intelligence-snapshot/v1"), ("repository_revision", .str "r"),
    ("workspace_hash", .str "w"), ("workspace_complete", .bool true),
    ("index_sha256", .str (String.ofList ((env .null .null).sha256 (bytesOf payload))))]

def importOf (payload : Json) (repositoryId : String) : ScipImport where
  index := some (fileOf payload)
  manifest := some (fileOf (manifest payload))
  repositoryId := repositoryId
  fileIds := [("a.py", repositoryId ++ ":file:a.py")]
  state := ⟨"r", "w", false, true⟩

def mergedTwice (symbols : List String) : List ScipMerging :=
  merges (env (manifest (payload symbols)) (payload symbols))
    [importOf (payload symbols) "r", importOf (payload symbols) "s"] {}

theorem sha256_length (manifest payload : Json) (data : List UInt8) :
    ((env manifest payload).sha256 data).length = 64 := by
  simp [env]

def bothKinds (repository : String) : List Attachment :=
  [⟨repository, "a.py", none, "S", "semantic_symbol:S00000000000000000000000"⟩,
    ⟨repository, "a.py", none, "local 1", repository ++ ":semantic_local_symbol:unknown\x00a.py\x00local 10000"⟩]

/-- The occurrences of a local symbol, and of a global one named like its key. -/
def confused (repository : String) : List Attachment :=
  [⟨repository, "a.py", none, "local 1", repository ++ ":semantic_local_symbol:unknown\x00a.py\x00local 10000"⟩,
    ⟨repository, "a.py", none, "unknown\x00a.py\x00local 1",
      repository ++ ":semantic_local_symbol:unknown\x00a.py\x00local 10000"⟩]

theorem bothKinds_attached :
    (mergedTwice ["S", "local 1"]).map ScipMerging.attached = [bothKinds "r", bothKinds "s"] := by decide +kernel

theorem confused_attached :
    (mergedTwice ["local 1", "unknown\x00a.py\x00local 1"]).map ScipMerging.attached =
    [confused "r", confused "s"] := by
  decide +kernel

theorem pairs_of_lists {merged : List ScipMerging} {lists : List (List Attachment)} {P : Attachment → Attachment → Prop}
    (attached : merged.map ScipMerging.attached = lists)
    (pairs : ∀ first ∈ lists, ∀ second ∈ lists, ∀ a ∈ first, ∀ b ∈ second, P a b) :
    ∀ m ∈ merged, ∀ n ∈ merged, ∀ a ∈ m.attached, ∀ b ∈ n.attached, P a b := by
  subst attached
  intro m inM n inN
  exact pairs _ (List.mem_map_of_mem inM) _ (List.mem_map_of_mem inN)

end ScipSample

open ScipSample in
/-- A global and a local symbol in each of two repositories. -/
theorem symbol_identity_sample : SymbolIdentity (mergedTwice ["S", "local 1"]) := by
  have apart : ∀ m ∈ mergedTwice ["S", "local 1"], ∀ n ∈ mergedTwice ["S", "local 1"], ∀ a ∈ m.attached,
      ∀ b ∈ n.attached, a.key = b.key → a.path = b.path ∧ a.indexer = b.indexer ∧ a.symbol = b.symbol :=
    pairs_of_lists bothKinds_attached (by decide +kernel)
  refine (symbol_identity_iff _ _ _ ⟨sha256_length _ _, ?_⟩).mpr ⟨fun m inM a inA b inB key => ?_, ?_⟩
  · exact pairs_of_lists bothKinds_attached (by decide +kernel)
  · rw [(apart m inM m inM a inA b inB key).2.2]
  · exact fun m inM n inN a inA b inB _ _ _ key => apart m inM n inN a inA b inB key

open ScipSample in
/-- A global symbol that is the key of a local one is attached to its node. -/
theorem global_named_as_local :
    let symbols := ["local 1", "unknown\x00a.py\x00local 1"]
    DigestsApart (env (manifest (payload symbols)) (payload symbols)) (mergedTwice symbols) ∧
      ¬SymbolIdentity (mergedTwice symbols) := by
  intro symbols
  refine ⟨⟨sha256_length _ _, pairs_of_lists confused_attached (by decide +kernel)⟩, fun held => ?_⟩
  have first : ∃ m ∈ mergedTwice ["local 1", "unknown\x00a.py\x00local 1"], m.attached = confused "r" := by
    refine List.mem_map.mp ?_
    rw [confused_attached]
    exact List.mem_cons_self
  obtain ⟨m, inMerged, attached⟩ := first
  have same := held m inMerged m inMerged
  rw [attached] at same
  rcases (same _ List.mem_cons_self _ (List.mem_cons_of_mem _ List.mem_cons_self)).mp rfl with
    ⟨global, -⟩ | ⟨-, local_, -⟩
  · exact absurd global (by decide)
  · exact absurd local_ (by decide)

end SacmRuntime
