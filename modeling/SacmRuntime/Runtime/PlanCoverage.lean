import Mathlib.Data.List.TakeWhile
import SacmRuntime.Lib.Checked
import SacmRuntime.Runtime.PlanSteps

namespace SacmRuntime
namespace ExecutionPlanningService

structure PlanWellFormed (steps : List ExecutionPlanStepV1) : Prop where
  ids : (steps.map ExecutionPlanStepV1.id).Nodup
  keys : (steps.map ExecutionPlanStepV1.stableKey).Nodup
  sequences : steps.map ExecutionPlanStepV1.sequence = List.range' 1 steps.length
  earlier : ∀ before step after, steps = before ++ step :: after →
    step.dependsOn ⊆ before.map ExecutionPlanStepV1.id
  verified : ∃ verification ∈ steps, verification.kind = .verification ∧
    ∀ step ∈ steps, step.kind = .implementation → step.id ∈ verification.dependsOn
  reviewed : ∃ review ∈ steps, review.kind = .securityReview ∧
    ∀ step ∈ steps, step.kind = .verification → step.id ∈ review.dependsOn

def criteria (contract : TaskTexts) : List String := contract.acceptanceCriteria.filter fun value =>
    stripped value.toList ≠ []

/-- Every criterion that is not blank is the objective of an implementation
step, up to case and whitespace. -/
def Covers (env : PlannerEnv) (contract : TaskTexts) (steps : List ExecutionPlanStepV1) : Prop :=
  ∀ criterion ∈ criteria contract, ∃ step ∈ steps, step.kind = .implementation ∧
    normalized env step.objective.toList = normalized env criterion.toList

def planKeys (env : PlannerEnv) (contract : TaskTexts) (context : PlannedContext) : List String :=
  (requirementList env contract).map (stableKey env .implementation) ++
    [verificationKey env contract, securityKey env context]

/-- Truncated hashes of different requirements are different. -/
def KeysApart (env : PlannerEnv) (contract : TaskTexts) : Prop :=
  ∀ a ∈ requirementList env contract, ∀ b ∈ requirementList env contract,
    (env.sha256 (normalized env a)).take 16 = (env.sha256 (normalized env b)).take 16 →
      normalized env a = normalized env b

/-- The identifiers made of different keys of a plan are different. -/
def IdsApart (env : PlannerEnv) (planId : String) (contract : TaskTexts) (context : PlannedContext) : Prop :=
  ∀ a ∈ planKeys env contract context, ∀ b ∈ planKeys env contract context,
    stepId env planId a = stepId env planId b → a = b

section
variable {env : PlannerEnv} {planId : String} {contract : TaskTexts} {context : PlannedContext}
  {stepKeys : List (List String)} {requirement : List Char} {found : List (List Char)} {n : Nat}
  {step : ExecutionPlanStepV1} {steps : List ExecutionPlanStepV1}

theorem implementationStep_ok (built : implementationStep env planId context stepKeys n requirement = .ok step) :
    step.id = stepId env planId (stableKey env .implementation requirement) ∧ step.sequence = n ∧
      step.stableKey = stableKey env .implementation requirement ∧ step.kind = .implementation ∧
      step.objective = String.ofList requirement ∧ step.dependsOn = [] := by
  unfold implementationStep at built
  obtain ⟨agent, _, made⟩ := Checked.bind_ok built
  cases made
  exact ⟨rfl, rfl, rfl, rfl, rfl, rfl⟩

/-- The implementation steps follow the requirements one by one. -/
structure Implements (env : PlannerEnv) (planId : String) (n : Nat) (found : List (List Char))
    (steps : List ExecutionPlanStepV1) : Prop where
  keys : steps.map ExecutionPlanStepV1.stableKey = found.map (stableKey env .implementation)
  objectives : steps.map ExecutionPlanStepV1.objective = found.map String.ofList
  sequences : steps.map ExecutionPlanStepV1.sequence = List.range' n steps.length
  each : ∀ step ∈ steps, step.id = stepId env planId step.stableKey ∧ step.kind = .implementation ∧ step.dependsOn = []

theorem implementationSteps_ok (built : implementationSteps env planId context stepKeys n found = .ok steps) :
    Implements env planId n found steps := by
  induction found generalizing n steps with
  | nil =>
    cases built
    exact ⟨rfl, rfl, rfl, by simp⟩
  | cons requirement rest ih =>
    unfold implementationSteps at built
    obtain ⟨step, first, remainder⟩ := Checked.bind_ok built
    obtain ⟨others, later, made⟩ := Checked.bind_ok remainder
    cases made
    obtain ⟨id, sequence, key, kind, objective, depends⟩ := implementationStep_ok first
    obtain ⟨keys, objectives, sequences, each⟩ := ih later
    refine ⟨?_, ?_, ?_, ?_⟩
    · rw [List.map_cons, List.map_cons, key, keys]
    · rw [List.map_cons, List.map_cons, objective, objectives]
    · rw [List.map_cons, sequence, sequences, List.length_cons, List.range'_succ]
    · intro other member
      rcases List.mem_cons.mp member with rfl | inRest
      · exact ⟨key ▸ id, kind, depends⟩
      · exact each other inRest

/-- A plan is the implementation steps of its requirements, the verification
and the review. -/
theorem buildSteps_ok (built : buildSteps env planId contract context stepKeys = .ok steps) :
    ∃ implementation verification review, steps = implementation ++ [verification, review] ∧
      Implements env planId 1 (requirementList env contract) implementation ∧
      (verification.id = stepId env planId (verificationKey env contract) ∧
        verification.stableKey = verificationKey env contract ∧ verification.kind = .verification ∧
        verification.sequence = implementation.length + 1 ∧
        verification.dependsOn = implementation.map ExecutionPlanStepV1.id) ∧
      (review.id = stepId env planId (securityKey env context) ∧ review.stableKey = securityKey env context ∧
        review.kind = .securityReview ∧ review.sequence = implementation.length + 2 ∧
        review.dependsOn = [verification.id]) := by
  unfold buildSteps at built
  obtain ⟨found, gathered, remainder⟩ := Checked.bind_ok built
  obtain ⟨implementation, implemented, remainder⟩ := Checked.bind_ok remainder
  obtain ⟨verification, verified, remainder⟩ := Checked.bind_ok remainder
  obtain ⟨review, reviewed, made⟩ := Checked.bind_ok remainder
  cases made
  have same : requirementList env contract = found := by
    unfold requirements at gathered
    split at gathered
    · cases gathered
    · exact Except.ok.inj gathered
  subst same
  unfold verificationStep at verified
  obtain ⟨tester, _, madeVerification⟩ := Checked.bind_ok verified
  unfold securityStep at reviewed
  obtain ⟨auditor, _, madeReview⟩ := Checked.bind_ok reviewed
  cases madeVerification
  cases madeReview
  exact ⟨implementation, _, _, rfl, implementationSteps_ok implemented, ⟨rfl, rfl, rfl, rfl, rfl⟩,
    rfl, rfl, rfl, rfl, rfl⟩

theorem stableKey_head (env : PlannerEnv) (kind : StepKind) (value : List Char) :
    (stableKey env kind value).toList.head? = kind.name.toList.head? := by
  unfold stableKey
  rw [String.toList_append, String.toList_append]
  cases kind <;> rfl

theorem stableKey_kind {first second : StepKind} {a b : List Char}
    (same : stableKey env first a = stableKey env second b) : first = second := by
  have heads : first.name.toList.head? = second.name.toList.head? := by
    rw [← stableKey_head env first a, ← stableKey_head env second b, same]
  revert heads
  cases first <;> cases second <;> decide

theorem stableKey_hash {kind : StepKind} {a b : List Char} (same : stableKey env kind a = stableKey env kind b) :
    (env.sha256 (normalized env a)).take 16 = (env.sha256 (normalized env b)).take 16 :=
  String.ofList_injective ((String.append_right_inj _).mp same)

theorem requirementList_kept : ((requirementList env contract).map (normalized env)).Nodup ∧
    (requirementList env contract).length ≤ maxRequirements :=
  FirstDistinct.collect_distinct (normalized env) (ordered contract) (by decide)

theorem planKeys_nodup (hashes : KeysApart env contract) : (planKeys env contract context).Nodup := by
  have implementation : ((requirementList env contract).map (stableKey env .implementation)).Nodup := by
    refine List.Nodup.map_on (fun a atA b atB same => ?_) requirementList_kept.1.of_map
    exact List.inj_on_of_nodup_map requirementList_kept.1 atA atB (hashes a atA b atB (stableKey_hash same))
  refine List.nodup_append.mpr ⟨implementation, ?_, ?_⟩
  · refine List.nodup_cons.mpr ⟨fun member => ?_, List.nodup_singleton _⟩
    exact absurd (stableKey_kind (List.mem_singleton.mp member)) (by decide)
  · intro a atA b atB same
    obtain ⟨requirement, _, rfl⟩ := List.mem_map.mp atA
    rcases List.mem_cons.mp atB with rfl | member
    · exact absurd (stableKey_kind same) (by decide)
    · cases List.mem_singleton.mp member
      exact absurd (stableKey_kind same) (by decide)

theorem buildSteps_wellFormed (hashes : KeysApart env contract) (ids : IdsApart env planId contract context)
    (built : buildSteps env planId contract context stepKeys = .ok steps) : PlanWellFormed steps := by
  obtain ⟨implementation, verification, review, rfl, implements_, ⟨verificationId, verificationKey_, verificationKind,
    verificationSequence, verificationDepends⟩, reviewId, reviewKey, reviewKind, reviewSequence, reviewDepends⟩ :=
    buildSteps_ok built
  have keys : (implementation ++ [verification, review]).map ExecutionPlanStepV1.stableKey =
      planKeys env contract context := by
    rw [List.map_append, implements_.keys, List.map_cons, List.map_cons, List.map_nil, verificationKey_, reviewKey]
    rfl
  have named : ∀ step ∈ implementation ++ [verification, review], step.id = stepId env planId step.stableKey := by
    intro step member
    rcases List.mem_append.mp member with early | late
    · exact (implements_.each step early).1
    · rcases List.mem_cons.mp late with rfl | last
      · rw [verificationId, verificationKey_]
      · cases List.mem_singleton.mp last
        rw [reviewId, reviewKey]
  have distinct : (planKeys env contract context).Nodup := planKeys_nodup hashes
  rw [← keys] at distinct
  have imp {step : ExecutionPlanStepV1} (member : step ∈ implementation) : step.kind = .implementation :=
    (implements_.each step member).2.1
  refine ⟨?_, distinct, ?_, ?_, ⟨verification, by simp, verificationKind, ?_⟩, review, by simp, reviewKind, ?_⟩
  · refine List.Nodup.map_on (fun a atA b atB same => ?_) distinct.of_map
    refine List.inj_on_of_nodup_map distinct atA atB (ids _ ?_ _ ?_ ?_)
    · exact keys ▸ List.mem_map_of_mem atA
    · exact keys ▸ List.mem_map_of_mem atB
    · rw [← named a atA, ← named b atB, same]
  · rw [List.map_append, implements_.sequences, List.map_cons, List.map_cons, List.map_nil, verificationSequence,
      reviewSequence, List.length_append, ← List.range'_append_1]
    congr 1
    rw [List.length_cons, List.length_singleton, List.range'_succ, List.range'_succ, List.range'_zero, Nat.add_comm 1]
  · intro before step after split
    have free {early : ExecutionPlanStepV1} (member : early ∈ implementation) (ids : List String) :
        early.dependsOn ⊆ ids := by
      rw [(implements_.each early member).2.2]
      exact List.nil_subset _
    rcases List.append_eq_append_iff.mp split with ⟨middle, rfl, tail⟩ | ⟨middle, whole, tail⟩
    · cases middle with
      | nil =>
        cases tail
        rw [verificationDepends, List.append_nil]
        exact List.Subset.refl _
      | cons first middle =>
        cases middle with
        | nil =>
          cases tail
          rw [reviewDepends, List.map_append]
          exact List.subset_append_right _ _
        | cons second middle =>
          cases middle <;> cases tail
    · cases middle with
      | nil =>
        cases tail
        rw [verificationDepends, whole, List.append_nil]
        exact List.Subset.refl _
      | cons first middle =>
        cases tail
        exact free (whole ▸ List.mem_append_right _ List.mem_cons_self) _
  · intro step member kind
    rcases List.mem_append.mp member with early | late
    · rw [verificationDepends]
      exact List.mem_map_of_mem early
    · rcases List.mem_cons.mp late with rfl | last
      · rw [verificationKind] at kind
        cases kind
      · cases List.mem_singleton.mp last
        rw [reviewKind] at kind
        cases kind
  · intro step member kind
    rcases List.mem_append.mp member with early | late
    · rw [imp early] at kind
      cases kind
    · rcases List.mem_cons.mp late with rfl | last
      · rw [reviewDepends]
        exact List.mem_singleton_self _
      · cases List.mem_singleton.mp last
        rw [reviewKind] at kind
        cases kind

theorem normalized_stripped (text : List Char) : normalized env (stripped text) = normalized env text := by
  unfold normalized
  rw [env.lower_stripped]

theorem ordered_criteria : (contract.acceptanceCriteria.map fun value => stripped value.toList).filter (· ≠ []) =
    (criteria contract).map fun value => stripped value.toList := by
  unfold criteria
  rw [List.filter_map]
  rfl

theorem covers_iff (built : buildSteps env planId contract context stepKeys = .ok steps) :
    Covers env contract steps ↔
      ((criteria contract).map fun value => normalized env value.toList).dedup.length ≤ maxRequirements := by
  obtain ⟨implementation, verification, review, rfl, implements_, ⟨_, _, verificationKind, _⟩, _, _, reviewKind, _⟩ :=
    buildSteps_ok built
  have loop := FirstDistinct.covers_iff (normalized env) ((criteria contract).map fun value => stripped value.toList)
    (((fragments none 0 [] contract.description.toList).map trimmed).filter (· ≠ []))
    (show 0 < maxRequirements by decide)
  have texts : ((criteria contract).map fun value => stripped value.toList).map (normalized env) =
      (criteria contract).map fun value => normalized env value.toList := by
    rw [List.map_map]
    exact List.map_congr_left fun value _ => normalized_stripped value.toList
  have listed : (criteria contract).map (fun value => stripped value.toList) ++
      ((fragments none 0 [] contract.description.toList).map trimmed).filter (· ≠ []) = ordered contract := by
    unfold ordered
    rw [ordered_criteria]
  rw [texts, listed] at loop
  rw [← loop]
  change _ ↔ ∀ a ∈ _, normalized env a ∈ (requirementList env contract).map (normalized env)
  constructor
  · intro covers a member
    obtain ⟨criterion, inCriteria, rfl⟩ := List.mem_map.mp member
    obtain ⟨step, inSteps, kind, same⟩ := covers criterion inCriteria
    rcases List.mem_append.mp inSteps with early | late
    · have objective : step.objective ∈ (requirementList env contract).map String.ofList :=
        implements_.objectives ▸ List.mem_map_of_mem early
      obtain ⟨requirement, inList, written⟩ := List.mem_map.mp objective
      rw [← written, String.toList_ofList] at same
      rw [normalized_stripped, ← same]
      exact List.mem_map_of_mem inList
    · rcases List.mem_cons.mp late with rfl | last
      · rw [verificationKind] at kind
        cases kind
      · cases List.mem_singleton.mp last
        rw [reviewKind] at kind
        cases kind
  · intro all criterion inCriteria
    obtain ⟨requirement, inList, same⟩ := List.mem_map.mp (all _ (List.mem_map_of_mem inCriteria))
    have objective : String.ofList requirement ∈ implementation.map ExecutionPlanStepV1.objective :=
      implements_.objectives.symm ▸ List.mem_map_of_mem inList
    obtain ⟨step, inSteps, written⟩ := List.mem_map.mp objective
    refine ⟨step, List.mem_append_left _ inSteps, (implements_.each step inSteps).2.1, ?_⟩
    rw [written, String.toList_ofList, same, normalized_stripped]

/-- A plan whose hashes do not collide is always well formed. It covers its
contract exactly when the criteria that are not blank have at most fifty
different texts, up to case and whitespace. -/
theorem plan_covers_contract (hashes : KeysApart env contract) (ids : IdsApart env planId contract context)
    (built : buildSteps env planId contract context stepKeys = .ok steps) :
    PlanWellFormed steps ∧ Covers env contract steps ↔
      ((criteria contract).map fun value => normalized env value.toList).dedup.length ≤ maxRequirements := by
  rw [← covers_iff built]
  exact and_iff_right (buildSteps_wellFormed hashes ids built)

theorem buildSteps_exists (planId : String) (context : PlannedContext) (stepKeys : List (List String))
    (some_ : ordered contract ≠ [])
    (agents : ∀ role ∈ ["coder", "tester", "security"], ∃ agent ∈ env.agents, agent.contractRole = role) :
    ∃ steps, buildSteps env planId contract context stepKeys = .ok steps := by
  have configured (role preferred : String) (member : role ∈ ["coder", "tester", "security"]) :
      ∃ agent, agentConfiguration env role preferred = .ok agent := by
    obtain ⟨agent, inAgents, same⟩ := agents role member
    have candidate : agent ∈ (env.agents.filter fun agent => agent.contractRole = role).insertionSort
        fun a b => a.name ≤ b.name := by
      rw [List.mem_insertionSort, List.mem_filter]
      exact ⟨inAgents, decide_eq_true same⟩
    unfold agentConfiguration
    dsimp only
    generalize (env.agents.filter fun agent => agent.contractRole = role).insertionSort
      (fun a b => a.name ≤ b.name) = candidates at candidate ⊢
    cases candidates with
    | nil => cases candidate
    | cons first rest =>
      cases (first :: rest).find? fun agent => agent.name = preferred <;> exact ⟨_, rfl⟩
  have implemented (n : Nat) (found : List (List Char)) :
      ∃ steps, implementationSteps env planId context stepKeys n found = .ok steps := by
    induction found generalizing n with
    | nil => exact ⟨[], rfl⟩
    | cons requirement rest ih =>
      obtain ⟨others, later⟩ := ih (n + 1)
      obtain ⟨agent, coder⟩ := configured "coder" (preferredAgent env requirement
        (contextForRequirement env requirement context).2.2
        (riskTags env requirement (contextForRequirement env requirement context).2.2)) (by simp)
      unfold implementationSteps implementationStep
      simp only [coder, later, bind, Except.bind, pure, Except.pure]
      exact ⟨_, rfl⟩
  obtain ⟨steps, first⟩ := implemented 1 (requirementList env contract)
  obtain ⟨tester, second⟩ := configured "tester" "TestGenerator" (by simp)
  obtain ⟨auditor, third⟩ := configured "security" "SecurityAuditor" (by simp)
  unfold buildSteps requirements verificationStep securityStep
  have some_ : requirementList env contract ≠ [] :=
    FirstDistinct.collect_ne_nil (normalized env) some_ (show 0 < maxRequirements by decide)
  simp only [if_neg some_, first, second, third, bind, Except.bind, pure, Except.pure]
  exact ⟨_, rfl⟩

end

namespace Sample

variable {c : Char} {spaces : List Char}

theorem lowerChar_space (space : isSpace c = true) : lowerChar c = [c] := by
  unfold isSpace at space
  simp only [List.mem_cons, List.not_mem_nil, or_false, Bool.or_eq_true, Bool.and_eq_true, decide_eq_true_eq] at space
  unfold lowerChar
  rw [if_neg (by omega), if_neg (by omega), if_neg (by omega)]

theorem lower_spaces (all : ∀ c ∈ spaces, isSpace c = true) : spaces.flatMap lowerChar = spaces := by
  induction spaces with
  | nil => rfl
  | cons c rest ih =>
    rw [List.flatMap_cons, lowerChar_space (all c List.mem_cons_self), ih fun d member =>
      all d (List.mem_cons_of_mem _ member)]
    rfl

theorem splitSpaces_cons (before rest : List Char) (space : isSpace c = true) :
    splitSpaces (before ++ c :: rest) = splitSpaces before ++ splitSpaces rest := by
  unfold splitSpaces
  rw [List.splitOnP_append_cons _ _ space, List.filter_append]

theorem splitSpaces_spaces (all : ∀ c ∈ spaces, isSpace c = true) : splitSpaces spaces = [] := by
  induction spaces with
  | nil => rfl
  | cons c rest ih =>
    have first := splitSpaces_cons [] rest (all c List.mem_cons_self)
    rw [List.nil_append] at first
    rw [first, ih fun d member => all d (List.mem_cons_of_mem _ member)]
    rfl

theorem splitSpaces_ends {before text after : List Char} (start : ∀ c ∈ before, isSpace c = true)
    (ends : ∀ c ∈ after, isSpace c = true) : splitSpaces (before ++ text ++ after) = splitSpaces text := by
  have left : splitSpaces (before ++ text) = splitSpaces text := by
    induction before with
    | nil => rfl
    | cons c rest ih =>
      have first := splitSpaces_cons [] (rest ++ text) (start c List.mem_cons_self)
      rw [List.nil_append] at first
      rw [List.cons_append, first, ih fun d member => start d (List.mem_cons_of_mem _ member)]
      rfl
  cases after with
  | nil => rw [List.append_nil, left]
  | cons c rest =>
    rw [splitSpaces_cons _ _ (ends c List.mem_cons_self), left,
      splitSpaces_spaces fun d member => ends d (List.mem_cons_of_mem _ member), List.append_nil]

theorem lower_stripped (text : List Char) :
    splitSpaces ((stripped text).flatMap lowerChar) = splitSpaces (text.flatMap lowerChar) := by
  have start : ∀ c ∈ text.takeWhile isSpace, isSpace c = true := fun c member => List.mem_takeWhile_imp member
  have ends : ∀ c ∈ ((text.dropWhile isSpace).reverse.takeWhile isSpace).reverse, isSpace c = true :=
    fun c member => List.mem_takeWhile_imp (List.mem_reverse.mp member)
  have middle :
      text.dropWhile isSpace = stripped text ++ ((text.dropWhile isSpace).reverse.takeWhile isSpace).reverse := by
    unfold stripped
    rw [← List.reverse_append, List.takeWhile_append_dropWhile, List.reverse_reverse]
  have whole : text = text.takeWhile isSpace ++ stripped text ++
      ((text.dropWhile isSpace).reverse.takeWhile isSpace).reverse := by
    rw [List.append_assoc, ← middle, List.takeWhile_append_dropWhile]
  conv => rhs; rw [whole]
  rw [List.flatMap_append, List.flatMap_append, lower_spaces start, lower_spaces ends, splitSpaces_ends start ends]

/-- Hashes that never collide on short texts, and one agent for each role. -/
def planner : PlannerEnv where
  sha256 := id
  uuid5 := id
  lower := List.flatMap lowerChar
  lower_stripped := lower_stripped
  agents := [⟨"CodexCoder", "coding", "coder"⟩, ⟨"SecurityAuditor", "security", "security"⟩,
    ⟨"TestGenerator", "testing", "tester"⟩]

def noContext : PlannedContext := ⟨"c", "h", ⟨[], []⟩, []⟩

/-- Two criteria that differ in their spaces and capitals, and another one. -/
def small : TaskTexts where
  title := "t"
  description := String.ofList ['d', '.', ' ', 'e', '.']
  acceptanceCriteria := [String.ofList ['A', ' ', 'b'], String.ofList ['a', ' ', ' ', 'B'], String.ofList ['c']]
  labels := []

/-- The criteria `a`, `aa`, `aaa` and so on. -/
def long : TaskTexts where
  title := "t"
  description := String.ofList ['d', '.']
  acceptanceCriteria := (List.range 51).map fun i => String.ofList (List.replicate (i + 1) 'a')
  labels := []

theorem planner_ids (planId : String) (contract : TaskTexts) (context : PlannedContext) :
    IdsApart planner planId contract context := by
  intro a _ b _ same
  exact (String.append_right_inj _).mp same

theorem requirements_small :
    requirementList planner small = [['A', ' ', 'b'], ['c'], ['d', '.'], ['e', '.']] := by
  unfold requirementList ordered small
  simp only [List.map_cons, List.map_nil, String.toList_ofList]
  decide +kernel

theorem small_keys : KeysApart planner small := by
  unfold KeysApart
  rw [requirements_small]
  decide +kernel

theorem planner_agents : ∀ role ∈ ["coder", "tester", "security"], ∃ agent ∈ planner.agents,
    agent.contractRole = role := by
  decide +kernel

end Sample

open ExecutionPlanningService.Sample in
theorem plan_covers_contract_small : ∃ steps, buildSteps planner "p" small noContext [] = .ok steps ∧
    PlanWellFormed steps ∧ Covers planner small steps := by
  have some_ : ordered small ≠ [] := by
    unfold ordered small
    simp only [List.map_cons, List.map_nil, String.toList_ofList]
    decide
  obtain ⟨steps, built⟩ := buildSteps_exists "p" noContext [] some_ planner_agents
  have few : ((criteria small).map fun value => normalized planner value.toList).dedup.length ≤ maxRequirements :=
    (List.dedup_sublist _).length_le.trans (by decide +kernel)
  exact ⟨steps, built, (plan_covers_contract small_keys (planner_ids _ _ _) built).mpr few⟩

open ExecutionPlanningService.Sample in
/-- Of fifty-one criteria one has no implementation step. -/
theorem criterion_left_out : ∃ steps, buildSteps planner "p" long noContext [] = .ok steps ∧
    ¬ (PlanWellFormed steps ∧ Covers planner long steps) := by
  have texts : (criteria long).map (fun value => normalized planner value.toList) =
      (List.range 51).map fun i => List.replicate (i + 1) 'a' := by
    unfold criteria long
    rw [List.filter_map, List.map_map]
    simp only [Function.comp_def, String.toList_ofList]
    decide +kernel
  have many : ¬ ((criteria long).map fun value => normalized planner value.toList).dedup.length ≤ maxRequirements := by
    rw [texts]
    decide +kernel
  have some_ : ordered long ≠ [] := by
    unfold ordered
    rw [ordered_criteria]
    intro none_
    rw [List.map_eq_nil_iff.mp (List.append_eq_nil_iff.mp none_).1] at many
    exact many (by decide)
  obtain ⟨steps, built⟩ := buildSteps_exists "p" noContext [] some_ planner_agents
  exact ⟨steps, built, fun complete => many ((covers_iff built).mp complete.2)⟩

end ExecutionPlanningService
end SacmRuntime
