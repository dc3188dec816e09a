import SacmRuntime.Runtime.SymbolIdentity

namespace SacmRuntime
open ScipJsonAdapter GraphBuilder Loop

/-- Every symbol with an id has its node, unless the graph is truncated. -/
def Placed (m : ScipMerging) : Prop :=
  m.graph.truncated = false → ∀ key id, m.symbols.lookup key = some id → (m.graph.nodes.find id).isSome

/-- That there are too many occurrences is among the errors. -/
def Reported (m : ScipMerging) : Prop := m.occurrenceLimitReached = true → m.result.errors ≠ []

/-- What a merge gains and keeps from one state to a later one. -/
structure Advances (m n : ScipMerging) : Prop where
  graph : m.graph.Within n.graph
  symbols : ∀ key id, m.symbols.lookup key = some id → n.symbols.lookup key = some id
  attached : m.attached ⊆ n.attached
  errors : n.result.errors = [] → m.result.errors = []
  placed : Placed m → Placed n
  reported : Reported m → Reported n

def roles (env : ScipEnv) (occurrence : Json) : Int := integer env (value occurrence "symbol_roles" "symbolRoles")

def edgeType (env : ScipEnv) (occurrence : Json) : String :=
  if definesSymbol (roles env occurrence) then "defines_semantic_symbol" else "references_semantic_symbol"

structure OccurrenceEdges (env : ScipEnv) (fileId : String) (occurrence : Json) (id : String) (graph : GraphBuilder) :
    Prop where
  uses : ⟨fileId, id, edgeType env occurrence⟩ ∈ graph.edges
  tests : testsSymbol (roles env occurrence) = true → ⟨fileId, id, "tests_semantic_symbol"⟩ ∈ graph.edges

/-- The occurrence has a node under its key, and its edges. -/
def OccurrenceMerged (env : ScipEnv) (call : ScipImport) (m : ScipMerging) (document occurrence : Json)
    (path fileId symbol : String) : Prop :=
  ∃ id, ⟨call.repositoryId, path, documentIndexer env document, symbol, id⟩ ∈ m.attached ∧
    OccurrenceEdges env fileId occurrence id m.graph

/-- The declarations among the external symbols, each under its symbol. -/
def externalDeclarations (payload : Json) : List (String × SymbolInformation) :=
  (externalSymbols payload).filterMap fun item =>
    (validSymbol (item.get "symbol")).map fun symbol => (symbol, ⟨item, none, none⟩)

def declaration (path : String) (indexer : Option String) (item : Json) : Option (String × SymbolInformation) :=
  (validSymbol (item.get "symbol")).map fun symbol => (symbolKey path symbol indexer, ⟨item, some path, indexer⟩)

/-- The declarations among the symbols of a document, each under the key that the document gives its symbol. -/
def documentDeclarations (env : ScipEnv) (document : Json) : List (String × SymbolInformation) :=
  match documentPath document with
  | some path => (document.get "symbols").items.filterMap (declaration path (documentIndexer env document))
  | none => []

/-- All that an index declares, in order. -/
def declarations (env : ScipEnv) (payload : Json) : List (String × SymbolInformation) :=
  externalDeclarations payload ++ (payload.get "documents").items.flatMap (documentDeclarations env)

/-- The index has fewer different external symbols than the limit. -/
def ExternalBelow (payload : Json) : Prop :=
  ((externalDeclarations payload).map Prod.fst).dedup.length < maxSymbols

section Passes
variable {env : ScipEnv} {repository : String} {information : List (String × SymbolInformation)} {m n k : ScipMerging}
  {call : ScipImport} {key symbol id : String} {document : ScannedDocument} {occurrence relationship : Json}

theorem Advances.refl (m : ScipMerging) : Advances m m :=
  ⟨.refl _, fun _ _ known => known, fun _ member => member, fun none => none, fun placed => placed,
    fun reported => reported⟩

theorem Advances.trans (m n k : ScipMerging) (first : Advances m n) (second : Advances n k) : Advances m k :=
  ⟨first.graph.trans second.graph, fun key id known => second.symbols key id (first.symbols key id known),
    fun _ member => second.attached (first.attached member), fun none => first.errors (second.errors none),
    fun placed => second.placed (first.placed placed), fun reported => second.reported (first.reported reported)⟩

section
variable (graph : n.graph = m.graph) (symbols : n.symbols = m.symbols) (attached : n.attached = m.attached)
include graph symbols attached

theorem advances_of_same (errors : n.result.errors = [] → m.result.errors = []) (reported : Reported m → Reported n) :
    Advances m n := by
  refine ⟨?_, ?_, ?_, errors, ?_, reported⟩
  · rw [graph]
    exact .refl _
  · rw [symbols]
    exact fun _ _ known => known
  · rw [attached]
    exact fun _ member => member
  · unfold Placed
    rw [graph, symbols]
    exact fun placed => placed

theorem advances_of_error (error : n.result.errors ≠ []) : Advances m n :=
  advances_of_same graph symbols attached (fun none => absurd none error) fun _ _ => error

end

theorem report_errors {code : String} : (report code m).result.errors ≠ [] := by simp [report]

theorem refused_errors : (refused m).result.errors ≠ [] := by
  unfold refused recordError
  simp only
  split
  · rename_i member
    exact List.ne_nil_of_mem member
  · simp

theorem symbolNode_within {information : Json} {result : CodeIntelligenceImport} {graph : GraphBuilder} :
    graph.Within (symbolNode env repository key symbol information result graph).2 :=
  addNode_within.trans annotate_within

theorem symbolNode_lands {information : Json} {result : CodeIntelligenceImport} {graph : GraphBuilder}
    (whole : (symbolNode env repository key symbol information result graph).2.truncated = false) :
    ((symbolNode env repository key symbol information result graph).2.nodes.find
      (symbolId env repository key symbol)).isSome := by
  have added : ((graph.addNode (semanticNode env repository key symbol information result)).2).truncated = false :=
    whole
  exact annotate_within.nodes _ (addNode_lands added)

theorem resolve_known (resolved : resolve env repository key symbol information m = some (id, n)) :
    n.symbols.lookup key = some id := by
  rcases resolve_cases resolved with ⟨known, rfl⟩ | ⟨about, fresh, -, rfl⟩
  · exact known
  · rw [List.lookup_append, fresh]
    exact List.lookup_cons_self

theorem resolve_placed (placed : Placed m)
    (resolved : resolve env repository key symbol information m = some (id, n)) : Placed n := by
  rcases resolve_cases resolved with ⟨-, rfl⟩ | ⟨about, fresh, first, rfl⟩
  · exact placed
  · intro whole other found atOther
    have before : m.graph.truncated = false := symbolNode_within.whole whole
    rw [List.lookup_append] at atOther
    cases earlier : m.symbols.lookup other with
    | some known =>
      rw [earlier] at atOther
      cases Option.some.inj atOther
      exact symbolNode_within.nodes _ (placed before other _ earlier)
    | none =>
      rw [earlier, Option.none_or, List.lookup_cons] at atOther
      split at atOther
      · cases Option.some.inj atOther
        rw [first]
        exact symbolNode_lands whole
      · cases atOther

theorem resolve_advances (resolved : resolve env repository key symbol information m = some (id, n)) :
    Advances m n := by
  have placed : Placed m → Placed n := fun placed => resolve_placed placed resolved
  rcases resolve_cases resolved with ⟨-, rfl⟩ | ⟨about, fresh, -, rfl⟩
  · exact .refl _
  · refine ⟨symbolNode_within, fun other found known => ?_, fun _ member => member, fun none => none, placed,
      fun reported => reported⟩
    rw [List.lookup_append, known]
    rfl

def notedDefinition (env : ScipEnv) (repository : String) (document : ScannedDocument) (occurrence : Json) (id : String)
    (graph : GraphBuilder) : GraphBuilder :=
  if definesSymbol (roles env occurrence) then
    graph.annotate id (collect "definitions" (.obj [("repository", .str repository), ("path", .str document.path),
      ("line", line env occurrence), ("indexer", .ofOption document.indexer)]))
  else graph

theorem notedDefinition_within {graph : GraphBuilder} :
    graph.Within (notedDefinition env repository document occurrence id graph) := by
  unfold notedDefinition
  split
  · exact annotate_within
  · exact .refl _

def withUse (env : ScipEnv) (repository : String) (document : ScannedDocument) (occurrence : Json) (id : String)
    (graph : GraphBuilder) : GraphBuilder :=
  (notedDefinition env repository document occurrence id graph).addEdge document.fileId id (edgeType env occurrence)

theorem withUse_within {graph : GraphBuilder} :
    graph.Within (withUse env repository document occurrence id graph) :=
  notedDefinition_within.trans addEdge_within

theorem attach_graph : (attach env repository document occurrence symbol id m).graph =
    if testsSymbol (roles env occurrence) then
      (withUse env repository document occurrence id m.graph).addEdge document.fileId id "tests_semantic_symbol"
    else withUse env repository document occurrence id m.graph := rfl

theorem withUse_attach : (withUse env repository document occurrence id m.graph).Within
    (attach env repository document occurrence symbol id m).graph := by
  rw [attach_graph]
  split
  · exact addEdge_within
  · exact .refl _

theorem attach_advances : Advances m (attach env repository document occurrence symbol id m) := by
  have within : m.graph.Within (attach env repository document occurrence symbol id m).graph :=
    withUse_within.trans withUse_attach
  refine ⟨within, fun _ _ known => known, List.subset_append_left _ _, fun none => none, ?_, fun reported => reported⟩
  intro placed whole key id known
  exact within.nodes _ (placed (within.whole whole) key id known)

theorem attach_lands (atFile : (m.graph.nodes.find document.fileId).isSome) (atSymbol : (m.graph.nodes.find id).isSome)
    (whole : (attach env repository document occurrence symbol id m).graph.truncated = false) :
    OccurrenceEdges env document.fileId occurrence id
      (attach env repository document occurrence symbol id m).graph := by
  have used : (⟨document.fileId, id, edgeType env occurrence⟩ : GraphEdge) ∈
      (withUse env repository document occurrence id m.graph).edges :=
    addEdge_lands (notedDefinition_within.nodes _ atFile) (notedDefinition_within.nodes _ atSymbol)
      (withUse_attach.whole whole)
  refine ⟨withUse_attach.edges used, fun tests => ?_⟩
  rw [attach_graph, if_pos tests] at whole ⊢
  exact addEdge_lands (withUse_within.nodes _ atFile) (withUse_within.nodes _ atSymbol) whole

theorem occurrencePass_advances :
    Advances m (occurrencePass env repository information document occurrence m).state := by
  unfold occurrencePass
  cases validSymbol (occurrence.get "symbol") with
  | none => exact .refl _
  | some symbol =>
    simp only
    split
    · exact advances_of_error rfl rfl rfl report_errors
    · split
      · exact advances_of_error rfl rfl rfl refused_errors
      · rename_i resolved
        have advances := resolve_advances resolved
        split
        · refine ⟨advances.graph, fun _ _ known => known, fun _ member => member, fun none => absurd none report_errors,
            fun placed whole key id known => ?_, fun _ _ => report_errors⟩
          exact advances.graph.nodes _ (placed (advances.graph.whole whole) key id known)
        · exact .trans _ _ _ advances attach_advances

theorem occurrencePass_stop (stopped : occurrencePass env repository information document occurrence m = .stop n) :
    n.result.errors ≠ [] := by
  unfold occurrencePass at stopped
  cases valid : validSymbol (occurrence.get "symbol") with
  | none =>
    rw [valid] at stopped
    cases stopped
  | some symbol =>
    rw [valid] at stopped
    simp only at stopped
    split at stopped
    · cases stopped
      exact report_errors
    · split at stopped
      · cases stopped
        exact refused_errors
      · split at stopped <;> cases stopped
        exact report_errors

theorem occurrencePass_lands (passed : occurrencePass env repository information document occurrence m = .next n)
    (valid : validSymbol (occurrence.get "symbol") = some symbol) (placed : Placed m)
    (atFile : (m.graph.nodes.find document.fileId).isSome) (whole : n.graph.truncated = false) :
    ∃ id, ⟨repository, document.path, document.indexer, symbol, id⟩ ∈ n.attached ∧
      OccurrenceEdges env document.fileId occurrence id n.graph := by
  unfold occurrencePass at passed
  rw [valid] at passed
  simp only at passed
  split at passed
  · cases passed
  · split at passed
    · cases passed
    · rename_i id t resolved
      split at passed <;> cases passed
      have before : t.graph.truncated = false := attach_advances.graph.whole whole
      have atSymbol := resolve_placed placed resolved before _ id (resolve_known resolved)
      refine ⟨id, List.mem_append_right _ (List.mem_singleton.mpr rfl), ?_⟩
      exact attach_lands ((resolve_advances resolved).graph.nodes _ atFile) atSymbol whole

/-- A list with an item is what `value or []` gives. -/
theorem orElse_items {value item : Json} (member : item ∈ value.items) : value.orElse (.arr []) = .arr value.items := by
  cases value with
  | arr items =>
    cases items with
    | nil => cases member
    | cons first rest => rfl
  | _ => cases member

theorem documentPass_advances {document : Json} : Advances m (documentPass env call information document m).state := by
  unfold documentPass
  split
  · exact .refl _
  · cases document with
    | obj fields =>
      simp only
      cases documentPath (.obj fields) with
      | none => exact advances_of_error rfl rfl rfl report_errors
      | some path =>
        simp only
        cases call.fileIds.lookup path with
        | none => exact .refl _
        | some fileId =>
          simp only
          split
          · let counted := { m with result := { m.result with documentCount := m.result.documentCount + 1 } }
            have start : Advances m counted :=
              advances_of_same rfl rfl rfl (fun none => none) fun reported => reported
            exact start.trans _ _ _ (moves (R := Advances) .refl .trans (fun _ _ _ => occurrencePass_advances) counted)
          · exact advances_of_error rfl rfl rfl report_errors
    | _ => exact .refl _

theorem documentPass_stop {document : Json} (stopped : documentPass env call information document m = .stop n) :
    n.occurrenceLimitReached = true := by
  unfold documentPass at stopped
  split at stopped
  · rename_i limit
    cases stopped
    exact limit
  · cases document with
    | obj fields =>
      simp only at stopped
      cases found : documentPath (.obj fields) with
      | none =>
        rw [found] at stopped
        cases stopped
      | some path =>
        rw [found] at stopped
        simp only at stopped
        cases scanned : call.fileIds.lookup path with
        | none =>
          rw [scanned] at stopped
          cases stopped
        | some fileId =>
          rw [scanned] at stopped
          simp only at stopped
          split at stopped <;> cases stopped
    | _ => cases stopped

theorem documentPass_lands {document occurrence : Json} {path fileId symbol : String}
    (passed : documentPass env call information document m = .next n)
    (named : value document "relative_path" "relativePath" = .str path)
    (scanned : call.fileIds.lookup path = some fileId)
    (member : occurrence ∈ (document.get "occurrences").items)
    (valid : validSymbol (occurrence.get "symbol") = some symbol) (placed : Placed m)
    (atFile : (m.graph.nodes.find fileId).isSome) (errors : n.result.errors = []) (whole : n.graph.truncated = false) :
    OccurrenceMerged env call n document occurrence path fileId symbol := by
  have below : ¬m.occurrenceLimitReached = true := by
    intro limit
    unfold documentPass at passed
    rw [if_pos limit] at passed
    cases passed
  unfold documentPass at passed
  rw [if_neg below] at passed
  cases document with
  | obj fields =>
    simp only at passed
    cases found : documentPath (.obj fields) with
    | none =>
      rw [found] at passed
      cases passed
      exact absurd errors report_errors
    | some canonicalPath =>
      have same : canonicalPath = path := by
        unfold documentPath at found
        rw [named] at found
        exact (Option.some.inj (Option.filter_eq_some_iff.mp found).1).symm
      subst same
      rw [found] at passed
      simp only [scanned] at passed
      rw [orElse_items member] at passed
      simp only at passed
      cases passed
      have start : Placed { m with result := { m.result with documentCount := m.result.documentCount + 1 } } := placed
      obtain ⟨t, u, before, ran, after⟩ := Loop.passes (R := Advances) (W := fun m => m.result.errors = [])
        .refl .trans (fun _ _ _ => occurrencePass_advances) (fun _ _ _ _ => occurrencePass_stop) errors member
      obtain ⟨id, attached, edges⟩ := occurrencePass_lands ran valid (before.placed start)
        (before.graph.nodes _ atFile) (after.graph.whole whole)
      exact ⟨id, after.attached attached, after.graph.edges edges.uses, fun tests =>
        after.graph.edges (edges.tests tests)⟩
  | _ => cases member

theorem relate_advances {source target : String} : Advances m (relate source target relationship m) := by
  have within : m.graph.Within (relate source target relationship m).graph := foldl_addEdge_within _
  refine ⟨within, fun _ _ known => known, fun _ member => member, fun none => none, ?_, fun reported => reported⟩
  intro placed whole key id known
  exact within.nodes _ (placed (within.whole whole) key id known)

theorem relationshipPass_advances {source : String} {entry : SymbolInformation} :
    Advances m (relationshipPass env repository information source entry relationship m).state := by
  unfold relationshipPass
  split
  · exact advances_of_error rfl rfl rfl report_errors
  · cases validSymbol (relationship.get "symbol") with
    | none => exact .refl _
    | some symbol =>
      simp only
      split
      · exact advances_of_error rfl rfl rfl refused_errors
      · rename_i resolved
        exact .trans _ _ _ (resolve_advances resolved) relate_advances

theorem relationshipPass_stop {source : String} {entry : SymbolInformation}
    (stopped : relationshipPass env repository information source entry relationship m = .stop n) :
    n.result.errors ≠ [] := by
  unfold relationshipPass at stopped
  split at stopped
  · cases stopped
    exact report_errors
  · cases valid : validSymbol (relationship.get "symbol") with
    | none =>
      rw [valid] at stopped
      cases stopped
    | some symbol =>
      rw [valid] at stopped
      simp only at stopped
      split at stopped
      · cases stopped
        exact refused_errors
      · cases stopped

theorem relationshipPass_lands {source : String} {entry : SymbolInformation}
    (passed : relationshipPass env repository information source entry relationship m = .next n)
    (valid : validSymbol (relationship.get "symbol") = some symbol) (placed : Placed m)
    (atSource : (m.graph.nodes.find source).isSome) (whole : n.graph.truncated = false) :
    ∃ target, n.symbols.lookup (symbolKey (entry.path.getD "") symbol entry.indexer) = some target ∧
      ∀ type ∈ relationshipTypes relationship, ⟨source, target, type⟩ ∈ n.graph.edges := by
  unfold relationshipPass at passed
  split at passed
  · cases passed
  · rw [valid] at passed
    simp only at passed
    split at passed
    · cases passed
    · rename_i target t resolved
      cases passed
      have before : t.graph.truncated = false := relate_advances.graph.whole whole
      have atTarget := resolve_placed placed resolved before _ target (resolve_known resolved)
      have known := resolve_known resolved
      refine ⟨target, known, ?_⟩
      exact foldl_addEdge_lands ((resolve_advances resolved).graph.nodes _ atSource) atTarget whole

theorem relationshipsPass_advances {entry : String × SymbolInformation} :
    Advances m (relationshipsPass env repository information entry m).state := by
  unfold relationshipsPass
  split
  · exact .refl _
  · split
    · exact moves (R := Advances) .refl .trans (fun _ _ _ => relationshipPass_advances) _
    · exact .refl _

theorem relationshipsPass_next {entry : String × SymbolInformation} :
    relationshipsPass env repository information entry m =
      .next (relationshipsPass env repository information entry m).state := by
  unfold relationshipsPass
  split
  · rfl
  · split <;> rfl

theorem relationshipsPass_lands {entry : String × SymbolInformation} {source : String}
    (atSource : m.symbols.lookup entry.1 = some source)
    (member : relationship ∈ (entry.2.information.get "relationships").items)
    (valid : validSymbol (relationship.get "symbol") = some symbol) (placed : Placed m)
    (errors : (relationshipsPass env repository information entry m).state.result.errors = [])
    (whole : (relationshipsPass env repository information entry m).state.graph.truncated = false) :
    ∃ target, (relationshipsPass env repository information entry m).state.symbols.lookup
        (symbolKey (entry.2.path.getD "") symbol entry.2.indexer) = some target ∧
      ∀ type ∈ relationshipTypes relationship, ⟨source, target, type⟩ ∈
        (relationshipsPass env repository information entry m).state.graph.edges := by
  have before : m.graph.truncated = false := relationshipsPass_advances.graph.whole whole
  have listed : (entry.2.information.get "relationships").orElse (.arr []) =
      .arr (entry.2.information.get "relationships").items := orElse_items member
  unfold relationshipsPass at errors whole ⊢
  simp only [atSource, listed, Pass.state] at errors whole ⊢
  obtain ⟨t, u, earlier, ran, after⟩ := Loop.passes (R := Advances) (W := fun m => m.result.errors = [])
    .refl .trans (fun _ _ _ => relationshipPass_advances) (fun _ _ _ _ => relationshipPass_stop) errors member
  obtain ⟨target, known, edges⟩ := relationshipPass_lands ran valid (earlier.placed placed)
    (earlier.graph.nodes _ (placed before _ _ atSource)) (after.graph.whole whole)
  exact ⟨target, after.symbols _ _ known, fun type flagged => after.graph.edges (edges type flagged)⟩

theorem linkSyntacticFallback_within {symbols : List (String × String)} {graph : GraphBuilder} :
    graph.Within (linkSyntacticFallback symbols graph) := by
  unfold linkSyntacticFallback
  simp only
  generalize graph.nodes.rows = nodes
  generalize (symbols.map Prod.snd).dedup.filterMap graph.nodes.find = semantic
  induction nodes generalizing graph with
  | nil => exact .refl _
  | cons node rest ih =>
    refine .trans ?_ ih
    simp only
    split
    · split
      · exact addEdge_within
      · exact .refl _
    · exact .refl _

/-- The table of a key holds its last declaration. -/
def declare (information : List (String × SymbolInformation)) (declared : String × SymbolInformation) :
    List (String × SymbolInformation) :=
  assign declared.1 declared.2 information

theorem lookup_assign {key other : String} {entry : SymbolInformation} :
    (assign key entry information).lookup other = if other == key then some entry else information.lookup other := by
  induction information with
  | nil =>
    unfold assign
    rw [List.lookup_cons]
    cases other == key <;> rfl
  | cons first rest ih =>
    unfold assign
    split
    · rename_i same
      rw [List.lookup_cons, List.lookup_cons, same]
      split <;> simp_all
    · rename_i different
      rw [List.lookup_cons, List.lookup_cons, ih]
      split
      · rename_i atFirst
        rw [if_neg (by grind)]
      · rfl

theorem keys_assign {key : String} {entry : SymbolInformation} :
    (assign key entry information).map Prod.fst =
      if key ∈ information.map Prod.fst then information.map Prod.fst else information.map Prod.fst ++ [key] := by
  induction information with
  | nil => rfl
  | cons first rest ih =>
    unfold assign
    split
    · rename_i same
      simp [same]
    · rename_i different
      rw [List.map_cons, ih]
      have other : key ≠ first.1 := fun same => different same.symm
      by_cases later : key ∈ rest.map Prod.fst <;> simp_all

theorem lookup_declared (declared : List (String × SymbolInformation)) :
    (declared.foldl declare information).lookup key = (declared.reverse.lookup key).or (information.lookup key) := by
  induction declared generalizing information with
  | nil => rfl
  | cons first rest ih =>
    obtain ⟨name, entry⟩ := first
    rw [List.foldl_cons, ih, List.reverse_cons, List.lookup_append, Option.or_assoc]
    congr 1
    unfold declare
    rw [lookup_assign, List.lookup_cons]
    cases key == name <;> rfl

/-- The table has no more keys than were declared. -/
theorem declared_length (declared : List (String × SymbolInformation)) :
    (declared.foldl declare []).length ≤ (declared.map Prod.fst).dedup.length := by
  have keys : ∀ rest information : List (String × SymbolInformation), (information.map Prod.fst).Nodup →
      information.map Prod.fst ⊆ declared.map Prod.fst → rest.map Prod.fst ⊆ declared.map Prod.fst →
      ((rest.foldl declare information).map Prod.fst).Nodup ∧
        (rest.foldl declare information).map Prod.fst ⊆ declared.map Prod.fst := by
    intro rest
    induction rest with
    | nil => exact fun _ nodup within _ => ⟨nodup, within⟩
    | cons first rest ih =>
      intro information nodup within listed
      rw [List.map_cons, List.cons_subset] at listed
      refine ih _ ?_ ?_ listed.2
      · unfold declare
        rw [keys_assign]
        split
        · exact nodup
        · rename_i fresh
          exact List.nodup_append.mpr ⟨nodup, List.nodup_singleton _, by grind⟩
      · unfold declare
        rw [keys_assign]
        split
        · exact within
        · exact List.append_subset.mpr ⟨within, List.cons_subset.mpr ⟨listed.1, List.nil_subset _⟩⟩
  obtain ⟨nodup, within⟩ := keys declared [] List.nodup_nil (List.nil_subset _) (List.Subset.refl _)
  have below := (nodup.subperm (fun key member => List.mem_dedup.mpr (within member))).length_le
  rwa [List.length_map] at below

/-- A pass over the symbols without an error has declared all of them. -/
theorem symbols_declared {path : String} {indexer : Option String} {symbols : List Json} {c : Collecting}
    (errors : (Loop.run (symbolPass path indexer) symbols c).errors = []) :
    Loop.run (symbolPass path indexer) symbols c =
      { c with information := (symbols.filterMap (declaration path indexer)).foldl declare c.information } := by
  induction symbols generalizing c with
  | nil => rfl
  | cons item rest ih =>
    by_cases full : maxSymbols ≤ c.information.length
    · have stopped : symbolPass path indexer item c = .stop _ := if_pos full
      rw [Loop.run_stop stopped] at errors
      exact absurd errors (by simp)
    · cases valid : validSymbol (item.get "symbol") with
      | none =>
        have passed : symbolPass path indexer item c = .next c := by
          unfold symbolPass
          rw [if_neg full, valid]
        have declared : declaration path indexer item = none := by
          unfold declaration
          rw [valid]
          rfl
        rw [Loop.run_next passed] at errors ⊢
        rw [ih errors, List.filterMap_cons_none declared]
      | some symbol =>
        have passed : symbolPass path indexer item c = .next { c with
            information := declare c.information (symbolKey path symbol indexer, ⟨item, some path, indexer⟩) } := by
          unfold symbolPass
          rw [if_neg full, valid]
          rfl
        have declared : declaration path indexer item =
            some (symbolKey path symbol indexer, ⟨item, some path, indexer⟩) := by
          unfold declaration
          rw [valid]
          rfl
        rw [Loop.run_next passed] at errors ⊢
        rw [ih errors, List.filterMap_cons_some declared, List.foldl_cons]

theorem symbolPass_errors {path : String} {indexer : Option String} {item : Json} {c : Collecting}
    (erroneous : c.errors ≠ []) : (symbolPass path indexer item c).state.errors ≠ [] := by
  unfold symbolPass
  split
  · simp [Pass.state]
  · split <;> exact erroneous

theorem informationPass_errors {document : Json} {c : Collecting} (erroneous : c.errors ≠ []) :
    (informationPass env document c).state.errors ≠ [] := by
  unfold informationPass
  split
  · exact erroneous
  · split
    · split
      · exact keeps (P := fun c : Collecting => c.errors ≠ []) (fun _ _ _ => symbolPass_errors) erroneous
      · exact erroneous
    · exact erroneous

theorem collect_errors {documents : List Json} {c : Collecting} (erroneous : c.errors ≠ []) :
    (Loop.run (informationPass env) documents c).errors ≠ [] :=
  keeps (P := fun c : Collecting => c.errors ≠ []) (fun _ _ _ => informationPass_errors) erroneous

theorem informationPass_declared {document : Json} {c : Collecting} (going : c.symbolLimitReached = false)
    (errors : (informationPass env document c).state.errors = []) : informationPass env document c =
      .next { c with information := (documentDeclarations env document).foldl declare c.information } := by
  have running : ¬c.symbolLimitReached = true := by simp [going]
  unfold informationPass at errors ⊢
  rw [if_neg running] at errors ⊢
  cases document with
  | obj fields =>
    simp only at errors ⊢
    unfold documentDeclarations
    cases named : documentPath (.obj fields) with
    | none => rfl
    | some path =>
      rw [named] at errors
      by_cases listed : ∃ symbols, ((Json.obj fields).get "symbols").orElse (.arr []) = .arr symbols
      · obtain ⟨symbols, given⟩ := listed
        rw [given] at errors ⊢
        simp only [Pass.state] at errors ⊢
        rw [symbols_declared errors, documents_items given]
      · have noItems : ((Json.obj fields).get "symbols").items = [] := by
          by_contra some_
          obtain ⟨item, member⟩ := List.exists_mem_of_ne_nil _ some_
          exact listed ⟨_, orElse_items member⟩
        rw [noItems]
        split
        · rename_i symbols _ given
          exact absurd ⟨symbols, given⟩ listed
        · rfl
  | _ => rfl

theorem documents_declared {documents : List Json} {c : Collecting} (going : c.symbolLimitReached = false)
    (errors : (Loop.run (informationPass env) documents c).errors = []) :
    Loop.run (informationPass env) documents c =
      { c with information := (documents.flatMap (documentDeclarations env)).foldl declare c.information } := by
  induction documents generalizing c with
  | nil => rfl
  | cons document rest ih =>
    have first : (informationPass env document c).state.errors = [] := by
      by_contra erroneous
      cases passed : informationPass env document c with
      | next t =>
        rw [passed] at erroneous
        rw [Loop.run_next passed] at errors
        exact collect_errors erroneous errors
      | stop t =>
        rw [passed] at erroneous
        rw [Loop.run_stop passed] at errors
        exact erroneous errors
    have passed := informationPass_declared going first
    rw [Loop.run_next passed] at errors ⊢
    rw [ih (by exact going) errors, List.flatMap_cons, List.foldl_append]

theorem collectInformation_errors {payload : Json} {documents : List Json}
    (errors : (collectInformation env payload documents).errors = []) :
    (externalSymbols payload).length ≤ maxSymbols ∧ documents.length ≤ maxDocuments := by
  by_contra many
  refine collect_errors ?_ errors
  simp only [ne_eq, List.append_eq_nil_iff, not_and_or]
  by_cases external : maxSymbols < (externalSymbols payload).length
  · exact .inl (by simp [external])
  · exact .inr (by simp [show maxDocuments < documents.length by omega])

/-- The table starts with what the external symbols declare. -/
theorem collectInformation_start (env : ScipEnv) (documents : List Json) {payload : Json}
    (few : (externalSymbols payload).length ≤ maxSymbols) :
    ∃ errors, collectInformation env payload documents = Loop.run (informationPass env) (documents.take maxDocuments)
      ⟨(externalDeclarations payload).foldl declare [], errors,
        maxSymbols ≤ ((externalDeclarations payload).foldl declare []).length⟩ := by
  have noted : (externalDeclarations payload).foldl declare [] = ((externalSymbols payload).take maxSymbols).foldl
      (fun information item => (validSymbol (item.get "symbol")).elim information
        fun symbol => assign symbol ⟨item, none, none⟩ information) [] := by
    rw [List.take_of_length_le few, externalDeclarations, List.foldl_filterMap]
    congr 1
    funext information item
    cases validSymbol (item.get "symbol") <;> rfl
  rw [noted]
  refine ⟨(if maxSymbols < (externalSymbols payload).length then ["scip_symbol_limit_exceeded"] else []) ++
    if maxDocuments < documents.length then ["scip_document_limit_exceeded"] else [], ?_⟩
  unfold collectInformation
  simp only
  congr 3
  · funext information item
    cases validSymbol (item.get "symbol") <;> rfl
  · congr 3
    funext information item
    cases validSymbol (item.get "symbol") <;> rfl

/-- Without an error, and with few external symbols, the table holds what was
declared last for a key. -/
theorem collectInformation_declared {payload : Json} {entry : SymbolInformation} (few : ExternalBelow payload)
    (errors : (collectInformation env payload (payload.get "documents").items).errors = [])
    (last : (declarations env payload).reverse.lookup key = some entry) :
    (key, entry) ∈ (collectInformation env payload (payload.get "documents").items).information := by
  obtain ⟨external, documents⟩ := collectInformation_errors errors
  obtain ⟨noted, started⟩ := collectInformation_start env (payload.get "documents").items external
  have below : ((externalDeclarations payload).foldl declare []).length < maxSymbols :=
    lt_of_le_of_lt (declared_length _) few
  rw [started] at errors ⊢
  rw [documents_declared (decide_eq_false (by omega)) errors, List.take_of_length_le documents]
  have found : ((declarations env payload).foldl declare []).lookup key = some entry := by
    rw [lookup_declared, last]
    rfl
  obtain ⟨before, after, table, -⟩ := List.lookup_eq_some_iff.mp found
  rw [declarations, List.foldl_append] at table
  simp only
  rw [table]
  exact List.mem_append_right _ List.mem_cons_self

/-- What the loops leave before the fallback is linked. -/
def afterRelationships (env : ScipEnv) (call : ScipImport) (payload : Json) (documents : List Json)
    (result : CodeIntelligenceImport) (graph : GraphBuilder) : ScipMerging :=
  let collected := collectInformation env payload documents
  Loop.run (relationshipsPass env call.repositoryId collected.information) collected.information
    (scanDocuments env call payload documents result graph)

variable {payload : Json} {documents : List Json} {result : CodeIntelligenceImport} {graph : GraphBuilder}

theorem relationships_advance : Advances (scanDocuments env call payload documents result graph)
    (afterRelationships env call payload documents result graph) :=
  moves (R := Advances) .refl .trans (fun _ _ _ => relationshipsPass_advances) _

theorem merge_unraised
    (complete : (mergeDocuments env call payload documents result graph).result.status = .complete) :
    mergeDocuments env call payload documents result graph = mergeRelationships env call
      (collectInformation env payload documents).information
      (scanDocuments env call payload documents result graph) := by
  unfold mergeDocuments at complete ⊢
  simp only at complete ⊢
  split at complete
  · cases complete
  · exact if_neg ‹_›

theorem complete_errors
    (complete : (mergeDocuments env call payload documents result graph).result.status = .complete) :
    (afterRelationships env call payload documents result graph).result.errors = [] := by
  rw [merge_unraised complete] at complete
  have status : finalStatus { (afterRelationships env call payload documents result graph).result with
      symbolCount := (afterRelationships env call payload documents result graph).symbols.length } =
        .complete := complete
  unfold finalStatus at status
  split at status
  · cases status
  · split at status
    · cases status
    · rename_i clean
      by_contra some_
      exact clean (.inl some_)

theorem fallback_within
    (complete : (mergeDocuments env call payload documents result graph).result.status = .complete) :
    (afterRelationships env call payload documents result graph).graph.Within
      (mergeDocuments env call payload documents result graph).graph := by
  rw [merge_unraised complete]
  exact linkSyntacticFallback_within

theorem start_placed {errors : List String} :
    Placed { graph := graph, result := { result with errors := errors } } := by
  intro _ key id known
  cases known

theorem start_reported {errors : List String} :
    Reported { graph := graph, result := { result with errors := errors } } := by
  intro limit
  cases limit

theorem scanDocuments_advances : Advances { graph := graph, result := { result with
      errors := result.errors ++ (collectInformation env payload documents).errors } }
    (scanDocuments env call payload documents result graph) :=
  moves (R := Advances) .refl .trans (fun _ _ _ => documentPass_advances) _

theorem collected_errors
    (complete : (mergeDocuments env call payload documents result graph).result.status = .complete) :
    (collectInformation env payload documents).errors = [] := by
  have start := scanDocuments_advances.errors (relationships_advance.errors (complete_errors complete))
  exact (List.append_eq_nil_iff.mp start).2

section
variable (complete : (mergeDocuments env call payload documents result graph).result.status = .complete)
  (whole : (mergeDocuments env call payload documents result graph).graph.truncated = false)
include complete whole

/-- A complete merge into a graph that is not truncated has the edges of every
occurrence of a valid symbol in a file with a node. -/
theorem mergeDocuments_occurrences {document occurrence : Json} {path fileId symbol : String}
    (listed : document ∈ documents) (named : value document "relative_path" "relativePath" = .str path)
    (scanned : call.fileIds.lookup path = some fileId) (atFile : (graph.nodes.find fileId).isSome)
    (member : occurrence ∈ (document.get "occurrences").items)
    (valid : validSymbol (occurrence.get "symbol") = some symbol) :
    OccurrenceMerged env call (mergeDocuments env call payload documents result graph) document occurrence path fileId
      symbol := by
  have none := relationships_advance.errors (complete_errors complete)
  have few : documents.length ≤ maxDocuments := (collectInformation_errors (collected_errors complete)).2
  have inLoop : document ∈ documents.take maxDocuments := by
    rw [List.take_of_length_le few]
    exact listed
  have advances : Advances _ (scanDocuments env call payload documents result graph) := scanDocuments_advances
  have below : (scanDocuments env call payload documents result graph).occurrenceLimitReached = false := by
    cases limit : (scanDocuments env call payload documents result graph).occurrenceLimitReached with
    | false => rfl
    | true => exact absurd none (advances.reported start_reported limit)
  have later : (scanDocuments env call payload documents result graph).graph.Within
      (mergeDocuments env call payload documents result graph).graph :=
    relationships_advance.graph.trans (fallback_within complete)
  obtain ⟨t, u, before, ran, after⟩ := Loop.passes (R := Advances)
    (W := fun m => m.result.errors = [] ∧ m.occurrenceLimitReached = false) .refl .trans
    (fun _ _ _ => documentPass_advances)
    (fun _ _ _ _ stopped well => by rw [documentPass_stop stopped] at well; cases well.2) ⟨none, below⟩ inLoop
  obtain ⟨id, attached, edges⟩ := documentPass_lands ran named scanned member valid (before.placed start_placed)
    (before.graph.nodes _ atFile) (after.errors none) (after.graph.whole (later.whole whole))
  refine ⟨id, ?_, later.edges (after.graph.edges edges.uses), fun tests =>
    later.edges (after.graph.edges (edges.tests tests))⟩
  rw [merge_unraised complete]
  exact relationships_advance.attached (after.attached attached)

/-- A complete merge into a graph that is not truncated has the edges of every
relationship that it holds for a symbol that occurs. -/
theorem mergeDocuments_relationships {entry : SymbolInformation} {target : String} {a : Attachment}
    (occurs : a ∈ (mergeDocuments env call payload documents result graph).attached)
    (held : (a.key, entry) ∈ (collectInformation env payload documents).information)
    (member : relationship ∈ (entry.information.get "relationships").items)
    (valid : validSymbol (relationship.get "symbol") = some target) :
    ∃ targetId, (mergeDocuments env call payload documents result graph).symbols.lookup
        (symbolKey (entry.path.getD "") target entry.indexer) = some targetId ∧
      ∀ type ∈ relationshipTypes relationship, ⟨a.symbolId, targetId, type⟩ ∈
        (mergeDocuments env call payload documents result graph).graph.edges := by
  have none := complete_errors complete
  have advances : Advances _ (scanDocuments env call payload documents result graph) := scanDocuments_advances
  have finished := merge_unraised complete
  have attached : a ∈ (scanDocuments env call payload documents result graph).attached := by
    rw [finished] at occurs
    have same : (afterRelationships env call payload documents result graph).attached = _ := relationships_attached _
    exact same ▸ occurs
  obtain ⟨t, u, before, ran, after⟩ := Loop.passes (R := Advances) (W := fun m => m.result.errors = [])
    .refl .trans (fun _ _ _ => relationshipsPass_advances)
    (fun _ _ _ _ stopped => by rw [relationshipsPass_next] at stopped; cases stopped) none held
  rw [relationshipsPass_next] at ran
  cases ran
  have later := after.graph.trans (fallback_within complete)
  obtain ⟨targetId, known, edges⟩ := relationshipsPass_lands
    (before.symbols _ _ (scanDocuments_attaching.known a attached)) member valid
    (before.placed (advances.placed start_placed)) (after.errors none) (later.whole whole)
  rw [finished] at later ⊢
  exact ⟨targetId, after.symbols _ _ known, fun type flagged => later.edges (edges type flagged)⟩

end

theorem Reads.unique {raw raw' : List UInt8} {payload payload' : Json} (first : Reads env call raw payload)
    (second : Reads env call raw' payload') : payload = payload' := by
  obtain ⟨file, atIndex, bytes, read⟩ := first
  obtain ⟨file', atIndex', bytes', read'⟩ := second
  have files := Option.some.inj (atIndex.symm.trans atIndex')
  subst files
  have raws := Option.some.inj (bytes.symm.trans bytes')
  subst raws
  exact Option.some.inj (read.symm.trans read')

theorem finalStatus_cases (result : CodeIntelligenceImport) :
    finalStatus result = .truncated ∨ finalStatus result = .partially ∨ finalStatus result = .complete := by
  unfold finalStatus
  split
  · exact .inl rfl
  · split
    · exact .inr (.inl rfl)
    · exact .inr (.inr rfl)

end Passes

/-- A snapshot is merged only where it is bound to the repository, and is called
complete only where the facts of the index are in the graph: its occurrences, and
the relationships of what it declares last for the key of a symbol that occurs. -/
structure SnapshotMerged (env : ScipEnv) (call : ScipImport) (graph : GraphBuilder) (m : ScipMerging) : Prop where
  untouched : m.result.status ∈ [.unavailable, .stale, .invalid] → m.graph = graph
  bound : m.graph ≠ graph → ∃ raw payload, Reads env call raw payload ∧ Bound env call raw
  occurrences : m.result.status = .complete → m.graph.truncated = false → ∀ raw payload, Reads env call raw payload →
    ∀ document ∈ (payload.get "documents").items, ∀ path fileId,
      value document "relative_path" "relativePath" = .str path → call.fileIds.lookup path = some fileId →
      (graph.nodes.find fileId).isSome → ∀ occurrence ∈ (document.get "occurrences").items, ∀ symbol,
        validSymbol (occurrence.get "symbol") = some symbol →
          OccurrenceMerged env call m document occurrence path fileId symbol
  relationships : m.result.status = .complete → m.graph.truncated = false → ∀ raw payload, Reads env call raw payload →
    ExternalBelow payload → ∀ a ∈ m.attached, ∀ entry, (declarations env payload).reverse.lookup a.key = some entry →
      ∀ relationship ∈ (entry.information.get "relationships").items, ∀ target,
        validSymbol (relationship.get "symbol") = some target →
          ∃ targetId, m.symbols.lookup (symbolKey (entry.path.getD "") target entry.indexer) = some targetId ∧
            ∀ type ∈ relationshipTypes relationship, ⟨a.symbolId, targetId, type⟩ ∈ m.graph.edges

/-- Every merge is such. -/
theorem snapshot_merged (env : ScipEnv) (call : ScipImport) (graph : GraphBuilder) :
    SnapshotMerged env call graph (merge env call graph) := by
  rcases merge_cases env call graph with ⟨same, status, -⟩ | ⟨raw, payload, result, reads, bound, merged⟩
  · exact ⟨fun _ => same, fun changed => absurd same changed, fun complete => absurd complete status,
      fun complete => absurd complete status⟩
  · rw [merged]
    refine ⟨fun refused => ?_, fun _ => ⟨raw, payload, reads, bound⟩, ?_, ?_⟩
    · unfold mergeDocuments at refused
      simp only at refused
      split at refused
      · simp at refused
      · unfold mergeRelationships at refused
        simp only at refused
        rcases finalStatus_cases _ with same | same | same <;> rw [same] at refused <;> simp at refused
    · intro complete whole raw' payload' reads' document listed path fileId named scanned atFile occurrence member
        symbol
        valid
      have same := reads.unique reads'
      subst same
      exact mergeDocuments_occurrences complete whole listed named scanned atFile member valid
    · intro complete whole raw' payload' reads' few a occurs entry last relationship member target valid
      have same := reads.unique reads'
      subst same
      have held := collectInformation_declared few (collected_errors complete) last
      exact mergeDocuments_relationships complete whole occurs held member valid

/-- A complete merge has an edge for every occurrence with a symbol in a scanned document. -/
def EveryOccurrence (env : ScipEnv) (call : ScipImport) (graph : GraphBuilder) : Prop :=
  (merge env call graph).result.status = .complete → ∀ raw payload, Reads env call raw payload →
    ∀ document ∈ (payload.get "documents").items, ∀ path fileId,
      value document "relative_path" "relativePath" = .str path → call.fileIds.lookup path = some fileId →
      ∀ occurrence ∈ (document.get "occurrences").items, ∀ symbol,
        occurrence.get "symbol" = .str symbol → symbol ≠ "" →
          ∃ id, ⟨fileId, id, edgeType env occurrence⟩ ∈ (merge env call graph).graph.edges

open ScipSample in
/-- An index whose file has no node, as the node limit leaves it: the merge is
complete, and the graph has no edge. -/
theorem unplaced_file_dropped : ¬EveryOccurrence (env (manifest (payload ["S"])) (payload ["S"]))
    (importOf (payload ["S"]) "r") { truncated := true } := by
  intro every
  have complete : (merge (env (manifest (payload ["S"])) (payload ["S"])) (importOf (payload ["S"]) "r")
      { truncated := true }).result.status = .complete := by decide +kernel
  have none : (merge (env (manifest (payload ["S"])) (payload ["S"])) (importOf (payload ["S"]) "r")
      { truncated := true }).graph.edges = ∅ := by decide +kernel
  have placed := every complete (bytesOf (payload ["S"])) (payload ["S"])
    ⟨fileOf (payload ["S"]), rfl, rfl, by decide +kernel⟩ _ List.mem_cons_self "a.py" "r:file:a.py" rfl rfl _
    List.mem_cons_self "S" rfl (by decide)
  rw [none] at placed
  obtain ⟨id, edge⟩ := placed
  exact Finset.notMem_empty _ edge

end SacmRuntime
