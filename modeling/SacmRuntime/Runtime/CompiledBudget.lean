import SacmRuntime.Runtime.ContextCompiler

namespace SacmRuntime
open ContextCompiler

section Payloads
variable {quoted : String → List Char} {maxTokens : Nat} {add : Json → CompactPayload → CompactPayload}
  {items : List Json} {payload : CompactPayload}

theorem estimateTokens_mono {short long : List Char} (longer : short.length ≤ long.length) :
    estimateTokens short ≤ estimateTokens long := by
  unfold estimateTokens
  omega

theorem addWhile_within (within : payloadTokens quoted payload ≤ maxTokens) :
    payloadTokens quoted (addWhile quoted maxTokens add items payload) ≤ maxTokens := by
  induction items generalizing payload with
  | nil => exact within
  | cons item rest ih =>
    rw [addWhile]
    split
    · exact within
    · exact ih (by omega)

theorem addWhile_stuck (beyond : maxTokens < payloadTokens quoted payload)
    (grows : ∀ item, payloadTokens quoted payload ≤ payloadTokens quoted (add item payload)) :
    addWhile quoted maxTokens add items payload = payload := by
  cases items with
  | nil => rfl
  | cons item rest =>
    rw [addWhile, if_pos]
    have longer := grows item
    omega

theorem payloadTokens_mono {other : CompactPayload}
    (fields : List.Forall₂ (fun a b : String × Json => a.1 = b.1 ∧ (a.2.repr quoted).length ≤ (b.2.repr quoted).length)
      [("schema_version", .str payload.schemaVersion), ("package_hash", .str payload.packageHash),
        ("graph_hash", .str payload.graphHash), ("reason", .str payload.reason),
        ("seed_node_ids", .arr payload.seedNodeIds), ("requirements", .arr payload.requirements),
        ("nodes", .arr payload.nodes), ("edges", .arr payload.edges), ("files", .arr payload.files),
        ("truncated", .bool payload.truncated)]
      [("schema_version", .str other.schemaVersion), ("package_hash", .str other.packageHash),
        ("graph_hash", .str other.graphHash), ("reason", .str other.reason),
        ("seed_node_ids", .arr other.seedNodeIds), ("requirements", .arr other.requirements),
        ("nodes", .arr other.nodes), ("edges", .arr other.edges), ("files", .arr other.files),
        ("truncated", .bool other.truncated)]) :
    payloadTokens quoted payload ≤ payloadTokens quoted other :=
  estimateTokens_mono (Json.length_obj_le fields)

theorem addSeed_grows (item : Json) : payloadTokens quoted payload ≤ payloadTokens quoted (addSeed item payload) :=
  payloadTokens_mono (by simp [addSeed, Json.length_arr_concat])

theorem addRequirement_grows (item : Json) :
    payloadTokens quoted payload ≤ payloadTokens quoted (addRequirement item payload) :=
  payloadTokens_mono (by simp [addRequirement, Json.length_arr_concat])

theorem addNode_grows (item : Json) : payloadTokens quoted payload ≤ payloadTokens quoted (addNode item payload) :=
  payloadTokens_mono (by simp [addNode, Json.length_arr_concat])

theorem addEdge_grows (item : Json) : payloadTokens quoted payload ≤ payloadTokens quoted (addEdge item payload) :=
  payloadTokens_mono (by simp [addEdge, Json.length_arr_concat])

theorem addFile_grows (item : Json) : payloadTokens quoted payload ≤ payloadTokens quoted (addFile item payload) :=
  payloadTokens_mono (by simp [addFile, Json.length_arr_concat])

variable {package : ContextPackageV2}

theorem compactPackage_within (within : payloadTokens quoted (basePayload package) ≤ maxTokens) :
    payloadTokens quoted (compactPackage quoted package maxTokens) ≤ maxTokens := by
  unfold compactPackage
  exact addWhile_within (addWhile_within (addWhile_within (addWhile_within (addWhile_within within))))

theorem compactPackage_beyond (beyond : maxTokens < payloadTokens quoted (basePayload package)) :
    compactPackage quoted package maxTokens = basePayload package := by
  unfold compactPackage
  simp only [addWhile_stuck beyond addSeed_grows, addWhile_stuck beyond addRequirement_grows,
    addWhile_stuck beyond addNode_grows, addWhile_stuck beyond addEdge_grows, addWhile_stuck beyond addFile_grows]

theorem compactPackage_iff :
    payloadTokens quoted (compactPackage quoted package maxTokens) ≤ maxTokens ↔
      payloadTokens quoted (basePayload package) ≤ maxTokens := by
  by_cases within : payloadTokens quoted (basePayload package) ≤ maxTokens
  · exact iff_of_true (compactPackage_within within) within
  · rw [compactPackage_beyond (Nat.lt_of_not_le within)]

end Payloads

section Fitting
variable {values : List (List Char)} {text : List Char} {remaining : Int}

theorem trim_tokens (positive : 0 < remaining) : (estimateTokens (trim text remaining) : Int) ≤ remaining := by
  unfold estimateTokens trim
  rw [List.length_take]
  omega

theorem tokensOf_cons : tokensOf (text :: values) = estimateTokens text + tokensOf values := by
  unfold tokensOf
  rw [List.map_cons, List.sum_cons]

theorem tokensOf_append {others : List (List Char)} :
    tokensOf (values ++ others) = tokensOf values + tokensOf others := by
  unfold tokensOf
  rw [List.map_append, List.sum_append]

theorem fit_tokens : (fit values remaining).2 = remaining - tokensOf (fit values remaining).1 := by
  induction values generalizing remaining with
  | nil => simp [fit, tokensOf]
  | cons value rest ih =>
    rw [fit]
    split
    · exact ih
    · simp only [tokensOf_cons]
      rw [ih]
      omega

theorem fit_nonneg (rich : 0 ≤ remaining) : 0 ≤ (fit values remaining).2 := by
  induction values generalizing remaining with
  | nil => exact rich
  | cons value rest ih =>
    rw [fit]
    split
    · exact ih rich
    · rename_i kept
      have trimmed : (estimateTokens (trim value remaining) : Int) ≤ remaining := trim_tokens (by omega)
      exact ih (by omega)

theorem fit_poor (poor : remaining ≤ 0) : (fit values remaining).2 = remaining := by
  induction values generalizing remaining with
  | nil => rfl
  | cons value rest ih =>
    rw [fit, if_pos (.inr poor)]
    exact ih poor

end Fitting

section Files
variable {files : List (List Char × List Char)} {key content : List Char} {remaining : Int}

theorem setFile_tokens : tokensOf ((setFile key content files).map Prod.snd) ≤
    tokensOf (files.map Prod.snd) + estimateTokens content := by
  induction files with
  | nil => simp [setFile, tokensOf]
  | cons file rest ih =>
    rw [setFile]
    split
    · simp only [List.map_cons, tokensOf_cons]
      omega
    · simp only [List.map_cons, tokensOf_cons]
      omega

theorem addFiles_tokens {excerpts : List ContextFileExcerpt} (rich : 0 ≤ remaining) :
    (tokensOf ((addFiles excerpts files remaining).map Prod.snd) : Int) ≤
      tokensOf (files.map Prod.snd) + remaining := by
  induction excerpts generalizing files remaining with
  | nil => simpa [addFiles] using rich
  | cons excerpt rest ih =>
    rw [addFiles]
    split
    · omega
    · have trimmed : (estimateTokens (trim excerpt.content remaining) : Int) ≤ remaining := trim_tokens (by omega)
      have later := @ih (setFile (excerptKey excerpt) (trim excerpt.content remaining) files)
        (remaining - estimateTokens (trim excerpt.content remaining)) (by omega)
      have added : tokensOf ((setFile (excerptKey excerpt) (trim excerpt.content remaining) files).map Prod.snd) ≤
          tokensOf (files.map Prod.snd) + estimateTokens (trim excerpt.content remaining) := setFile_tokens
      simp only
      omega

end Files

/-- The task, the goal and the first constraints fit in the budget, and so
does the bare payload of a package, where one is made, in what is left after
memory and findings. -/
structure Affordable (quoted : String → List Char) (request : CompileRequest) : Prop where
  fixed : (estimateTokens (taskText request) + estimateTokens (goalText request) +
    tokensOf (firstConstraints request) : Int) ≤ request.tokenBudget
  package : ∀ package, request.package = some package →
    64 ≤ packageBudget request.tokenBudget (previousFindings request).2 →
      (payloadTokens quoted (basePayload package) : Int) ≤ (previousFindings request).2

section Requests
variable {quoted : String → List Char} {request : CompileRequest}

theorem afterNotes_nonneg_iff : 0 ≤ (previousFindings request).2 ↔ 0 ≤ afterTask request := by
  unfold previousFindings relevantMemory
  by_cases rich : 0 ≤ afterTask request
  · exact iff_of_true (fit_nonneg (fit_nonneg rich)) rich
  · have first : (fit (request.memory.take 8) (afterTask request)).2 = afterTask request := fit_poor (by omega)
    rw [first, fit_poor (by omega)]

theorem payload_fits_iff {package : ContextPackageV2} {remaining : Int}
    (enough : 64 ≤ packageBudget request.tokenBudget remaining) :
    (payloadTokens quoted (compactPackage quoted package (packageBudget request.tokenBudget remaining)) : Int) ≤
      remaining ↔ (payloadTokens quoted (basePayload package) : Int) ≤ remaining := by
  have third : packageBudget request.tokenBudget remaining ≤ (remaining / 3).toNat := Nat.min_le_left _ _
  by_cases within : payloadTokens quoted (basePayload package) ≤ packageBudget request.tokenBudget remaining
  · have compact := compactPackage_within within
    refine iff_of_true ?_ ?_ <;> omega
  · rw [compactPackage_beyond (Nat.lt_of_not_le within)]

theorem afterPayload_nonneg_iff : 0 ≤ afterPayload quoted request ↔ Affordable quoted request := by
  have notes : 0 ≤ (previousFindings request).2 ↔ (estimateTokens (taskText request) +
      estimateTokens (goalText request) + tokensOf (firstConstraints request) : Int) ≤ request.tokenBudget := by
    rw [afterNotes_nonneg_iff, afterTask]
    omega
  unfold afterPayload packagePayload
  cases given : request.package with
  | none =>
    simp only [Option.bind_none]
    rw [notes]
    exact ⟨fun fixed => ⟨fixed, fun _ same => by rw [given] at same; cases same⟩, Affordable.fixed⟩
  | some package =>
    rw [Option.bind_some]
    by_cases enough : 64 ≤ packageBudget request.tokenBudget (previousFindings request).2
    · rw [if_pos enough]
      simp only
      have third : packageBudget request.tokenBudget (previousFindings request).2 ≤
          ((previousFindings request).2 / 3).toNat := Nat.min_le_left _ _
      rw [Int.sub_nonneg, payload_fits_iff enough]
      constructor
      · intro fits
        refine ⟨notes.mp (by omega), fun other same _ => ?_⟩
        rw [given] at same
        cases same
        exact fits
      · exact fun affordable => affordable.package package given enough
    · rw [if_neg enough]
      simp only
      rw [notes]
      exact ⟨fun fixed => ⟨fixed, fun _ _ more => absurd more enough⟩, Affordable.fixed⟩

theorem tokens_split : ((compile quoted request).tokens quoted : Int) =
    request.tokenBudget - afterPayload quoted request +
      tokensOf (lastConstraints request (afterPayload quoted request)) +
      tokensOf ((compile quoted request).files.map Prod.snd) := by
  have memory : (relevantMemory request).2 = afterTask request - tokensOf (relevantMemory request).1 := fit_tokens
  have findings : (previousFindings request).2 = (relevantMemory request).2 - tokensOf (previousFindings request).1 :=
    fit_tokens
  have payload : afterPayload quoted request = (previousFindings request).2 -
      ((((packagePayload quoted request (previousFindings request).2).map CompactPayload.toJson).map
        fun payload => estimateTokens (payload.repr quoted)).getD 0 : Nat) := by
    unfold afterPayload
    cases packagePayload quoted request (previousFindings request).2 with
    | none => simp
    | some payload => rfl
  unfold AgentContext.tokens
  rw [show (compile quoted request).constraints =
    firstConstraints request ++ lastConstraints request (afterPayload quoted request) from rfl, tokensOf_append]
  simp only [compile]
  unfold afterTask at memory
  omega

theorem lastConstraints_tokens {remaining : Int} (rich : 0 ≤ remaining) :
    (tokensOf (lastConstraints request remaining) : Int) ≤ remaining := by
  unfold lastConstraints
  split
  · split
    · simpa [tokensOf]
    · exact rich
  · exact rich

end Requests

/-- A compiled context stays within its budget, and a compacted payload within
its tokens, exactly when what is never shortened does. -/
theorem compile_within_budget (quoted : String → List Char) :
    (∀ request, ((compile quoted request).tokens quoted : Int) ≤ request.tokenBudget ↔ Affordable quoted request) ∧
      ∀ package maxTokens, payloadTokens quoted (compactPackage quoted package maxTokens) ≤ maxTokens ↔
        payloadTokens quoted (basePayload package) ≤ maxTokens := by
  refine ⟨fun request => ?_, fun package maxTokens => compactPackage_iff⟩
  rw [← afterPayload_nonneg_iff, tokens_split]
  by_cases rich : 0 ≤ afterPayload quoted request
  · have last : (tokensOf (lastConstraints request (afterPayload quoted request)) : Int) ≤
        afterPayload quoted request := lastConstraints_tokens rich
    have excerpts : (tokensOf ((compile quoted request).files.map Prod.snd) : Int) ≤
        tokensOf (([] : List (List Char × List Char)).map Prod.snd) +
          (afterPayload quoted request - tokensOf (lastConstraints request (afterPayload quoted request))) :=
      addFiles_tokens (by omega)
    have empty : tokensOf (([] : List (List Char × List Char)).map Prod.snd) = 0 := rfl
    rw [empty] at excerpts
    refine iff_of_true ?_ rich
    omega
  · exact iff_of_false (by omega) rich

namespace CompilerSample

def request : CompileRequest where
  tokenBudget := 20
  taskId := "t"
  description := List.replicate 80 'x'
  status := "planned"
  targetRepoPath := none
  role := "coder".toList
  config := none
  history := []
  memory := []
  package := none
  briefing := none
  includeTestCommand := true

/-- Task and goal take the budget twice. -/
theorem task_twice :
    ¬((compile (fun s => s.toList) request).tokens (fun s => s.toList) : Int) ≤ request.tokenBudget := by
  decide +kernel

end CompilerSample

end SacmRuntime
