import SacmRuntime.Lib.Json

namespace SacmRuntime

inductive PolicyPack where
  | default | strict
  deriving DecidableEq

def PolicyPack.name : PolicyPack → String
  | default => "default"
  | strict => "strict"

structure PlanInputStep where
  id : String
  kind : Option String
  requiredTools : Option (List String)
  riskTags : Option (List String)

/-- The document of a plan, without the name of its policy pack. -/
structure PlanInput where
  riskLevel : Option String
  steps : List PlanInputStep

inductive RuleEffect where
  | securityReview | approval | deny
  deriving DecidableEq

structure MatchedRule where
  ruleId : String
  effect : RuleEffect
  reason : String
  stepIds : List String

structure PlanGate where
  gateType : String
  action : String
  reason : String
  stepIds : List String

structure PlanEvaluation where
  schemaVersion : String := "policy-decision/v1"
  pack : String
  allow : Bool
  requiresApproval : Bool
  requiresSecurityReview : Bool := true
  matchedRules : List MatchedRule
  approvalGates : List PlanGate
  denials : List String
  input : PlanInput

namespace PlanInputStep

/-- `step.get("required_tools", [])`. -/
def tools (step : PlanInputStep) : List String := step.requiredTools.getD []

/-- `step.get("risk_tags", [])`. -/
def tags (step : PlanInputStep) : List String := step.riskTags.getD []

def privilegedTools : List String :=
  ["deployment.execute", "repository.admin", "schema.migrate", "secrets.resolve", "workspace.execute"]

def privileged (step : PlanInputStep) : Bool := step.tools.any fun tool => tool ∈ privilegedTools

end PlanInputStep

namespace PlanInput

/-- `str(risk.get("level", "critical"))`. -/
def level (input : PlanInput) : String := input.riskLevel.getD "critical"

def stepsWith (input : PlanInput) (p : PlanInputStep → Bool) : List String :=
  (input.steps.filter p).map PlanInputStep.id

end PlanInput

namespace PlanPolicy

structure Finding where
  rule : MatchedRule
  gate : Option PlanGate

def about (stepIds : List String) (finding : List String → Finding) : List Finding :=
  if stepIds = [] then [] else [finding stepIds]

def riskThreshold : PolicyPack → List String
  | .default => ["high", "critical"]
  | .strict => ["medium", "high", "critical"]

def applicationRisk (pack : PolicyPack) (input : PlanInput) : List Finding :=
  if input.level ∈ riskThreshold pack then
    [{ rule :=
        { ruleId := pack.name ++ "-application-risk", effect := .approval
          reason := input.level ++ " application risk requires approval under the " ++ pack.name ++ " pack."
          stepIds := input.stepsWith fun _ => true }
       gate := some
        { gateType := "application_risk", action := "execution.start"
          reason := "Application risk is " ++ input.level ++ "."
          stepIds := input.stepsWith fun _ => true } }]
  else []

def privilegedTools (input : PlanInput) : List Finding :=
  about (input.stepsWith PlanInputStep.privileged) fun affected =>
    { rule :=
        { ruleId := "privileged-tools", effect := .approval
          reason := "Privileged tools require explicit approval.", stepIds := affected }
      gate := some
        { gateType := "privileged_tools", action := "tools.privileged"
          reason := "One or more steps request privileged tools.", stepIds := affected } }

def taggedWork (input : PlanInput) (tag gateType action reason : String) : List Finding :=
  about (input.stepsWith fun step => tag ∈ step.tags) fun affected =>
    { rule := { ruleId := tag ++ "-sensitive-work", effect := .approval, reason := reason, stepIds := affected }
      gate := some { gateType := gateType, action := action, reason := reason, stepIds := affected } }

def deploymentWork (input : PlanInput) : List Finding :=
  taggedWork input "deployment" "deployment" "deployment.execute" "Deployment work requires explicit approval."

def schemaWork (input : PlanInput) : List Finding :=
  taggedWork input "schema" "schema_change" "schema.migrate" "Schema-changing work requires explicit approval."

def securitySensitive (pack : PolicyPack) (input : PlanInput) : List Finding :=
  about (input.stepsWith fun step => "security_sensitive" ∈ step.tags) fun sensitive =>
    { rule :=
        { ruleId := "security-sensitive-work", effect := .securityReview
          reason := "Security-sensitive work requires focused reviewer coverage.", stepIds := sensitive }
      gate :=
        if pack = .strict then
          some { gateType := "security_sensitive", action := "security.change"
                 reason := "Strict policy requires approval for security-sensitive work.", stepIds := sensitive }
        else none }

def findings (pack : PolicyPack) (input : PlanInput) : List Finding :=
  applicationRisk pack input ++ privilegedTools input ++ deploymentWork input ++ schemaWork input ++
    securitySensitive pack input

/-- The loop over the candidates: the first with its type and action is kept. -/
def firstGates (seen : List (String × String)) : List PlanGate → List PlanGate
  | [] => []
  | candidate :: rest =>
    let key := (candidate.gateType, candidate.action)
    if key ∈ seen then firstGates seen rest else candidate :: firstGates (key :: seen) rest

def reviewRule (input : PlanInput) : MatchedRule :=
  { ruleId := "security-review-required", effect := .securityReview
    reason := "Every execution plan requires an independent security review."
    stepIds := input.stepsWith fun step => step.kind = some "security_review" }

/-- Strict policy denies a deployment under a critical risk. -/
def denied (pack : PolicyPack) (input : PlanInput) : List MatchedRule :=
  let affected := input.stepsWith fun step => "deployment" ∈ step.tags
  if pack = .strict ∧ input.level = "critical" ∧ affected ≠ [] then
    [{ ruleId := "strict-critical-deployment", effect := .deny
       reason := "Strict policy denies critical-risk deployment plans until risk is reduced.", stepIds := affected }]
  else []

/-- `_evaluate_execution_plan_local`. -/
def evaluate (pack : PolicyPack) (input : PlanInput) : PlanEvaluation :=
  let found := findings pack input
  let approvalGates := firstGates [] (found.filterMap Finding.gate)
  let denials := denied pack input
  { pack := pack.name, allow := denials.isEmpty, requiresApproval := !approvalGates.isEmpty
    matchedRules := reviewRule input :: (found.map Finding.rule ++ denials), approvalGates := approvalGates
    denials := denials.map MatchedRule.reason, input := input }

end PlanPolicy

open PlanPolicy

/-- A gate of the evaluation has the type and lists the step. -/
def PlanEvaluation.Gates (evaluation : PlanEvaluation) (gateType stepId : String) : Prop :=
  ∃ gate ∈ evaluation.approvalGates, gate.gateType = gateType ∧ stepId ∈ gate.stepIds

/-- One evaluation asks for at least what another one asks for. -/
structure PlanEvaluation.Dominates (strict default : PlanEvaluation) : Prop where
  allow : strict.allow = true → default.allow = true
  gates : ∀ gate ∈ default.approvalGates, ∃ other ∈ strict.approvalGates,
    other.gateType = gate.gateType ∧ other.action = gate.action ∧ gate.stepIds ⊆ other.stepIds

/-- The gates list the steps of the document that they must. -/
structure PlanEvaluation.Covers (evaluation : PlanEvaluation) (input : PlanInput) : Prop where
  privileged : ∀ step ∈ input.steps, (∃ tool ∈ step.tools, tool ∈ PlanInputStep.privilegedTools) →
    evaluation.Gates "privileged_tools" step.id
  deployment : ∀ step ∈ input.steps, "deployment" ∈ step.tags → evaluation.Gates "deployment" step.id
  schema : ∀ step ∈ input.steps, "schema" ∈ step.tags → evaluation.Gates "schema_change" step.id
  approval : evaluation.requiresApproval = true ↔ evaluation.approvalGates ≠ []

section
variable {pack : PolicyPack} {input : PlanInput} {step : PlanInputStep} {gate : PlanGate}

def PlanGate.key (gate : PlanGate) : String × String := (gate.gateType, gate.action)

theorem firstGates_distinct {seen : List (String × String)} {candidates : List PlanGate}
    (distinct : (candidates.map PlanGate.key).Nodup) (fresh : ∀ gate ∈ candidates, gate.key ∉ seen) :
    firstGates seen candidates = candidates := by
  induction candidates generalizing seen with
  | nil => rfl
  | cons candidate rest ih =>
    obtain ⟨first, others⟩ := List.nodup_cons.mp distinct
    unfold firstGates
    rw [if_neg (show (candidate.gateType, candidate.action) ∉ seen from fresh candidate List.mem_cons_self)]
    refine congrArg (candidate :: ·) (ih others fun gate member again => ?_)
    rcases List.mem_cons.mp again with same | old
    · exact first (List.mem_map.mpr ⟨gate, member, same⟩)
    · exact fresh gate (List.mem_cons_of_mem _ member) old

def gatesOf (found : List Finding) : List PlanGate := found.filterMap Finding.gate

variable {finding : List String → Finding} {stepIds : List String}

theorem gatesOf_about {key : String × String} (keyed : ∀ ids, ∀ gate ∈ (finding ids).gate, gate.key = key) :
    ((gatesOf (about stepIds finding)).map PlanGate.key).Sublist [key] := by
  unfold about gatesOf
  split
  · exact List.nil_sublist _
  · cases asked : (finding stepIds).gate with
    | none => simp [asked]
    | some gate => simp [asked, keyed stepIds gate asked]

theorem taggedWork_key (input : PlanInput) (tag gateType action reason : String) :
    ((gatesOf (taggedWork input tag gateType action reason)).map PlanGate.key).Sublist [(gateType, action)] := by
  unfold taggedWork
  refine gatesOf_about fun ids gate asked => ?_
  cases asked
  rfl

theorem gates_keys (pack : PolicyPack) (input : PlanInput) :
    ((gatesOf (findings pack input)).map PlanGate.key).Sublist
      [("application_risk", "execution.start"), ("privileged_tools", "tools.privileged"),
        ("deployment", "deployment.execute"), ("schema_change", "schema.migrate"),
        ("security_sensitive", "security.change")] := by
  have risk : ((gatesOf (applicationRisk pack input)).map PlanGate.key).Sublist
      [("application_risk", "execution.start")] := by
    unfold applicationRisk
    split
    · exact List.Sublist.refl _
    · exact List.nil_sublist _
  have tools : ((gatesOf (PlanPolicy.privilegedTools input)).map PlanGate.key).Sublist
      [("privileged_tools", "tools.privileged")] := by
    refine gatesOf_about fun ids gate asked => ?_
    cases asked
    rfl
  have deployment : ((gatesOf (deploymentWork input)).map PlanGate.key).Sublist
      [("deployment", "deployment.execute")] := taggedWork_key ..
  have schema : ((gatesOf (schemaWork input)).map PlanGate.key).Sublist
      [("schema_change", "schema.migrate")] := taggedWork_key ..
  have sensitive : ((gatesOf (securitySensitive pack input)).map PlanGate.key).Sublist
      [("security_sensitive", "security.change")] := by
    refine gatesOf_about fun ids gate asked => ?_
    dsimp only at asked
    split at asked
    · cases asked
      rfl
    · cases asked
  unfold findings
  simp only [gatesOf, List.filterMap_append, List.map_append] at risk tools deployment schema sensitive ⊢
  exact (((risk.append tools).append deployment).append schema).append sensitive

theorem approvalGates_eq (pack : PolicyPack) (input : PlanInput) :
    (evaluate pack input).approvalGates = gatesOf (findings pack input) := by
  refine firstGates_distinct ((gates_keys pack input).nodup (by decide)) fun gate _ seen => ?_
  cases seen

theorem mem_gatesOf_about {id : String} (member : id ∈ stepIds) (asked : (finding stepIds).gate = some gate) :
    gate ∈ gatesOf (about stepIds finding) := by
  unfold about gatesOf
  rw [if_neg (List.ne_nil_of_mem member)]
  exact List.mem_filterMap.mpr ⟨_, List.mem_cons_self, asked⟩

theorem mem_stepsWith {p : PlanInputStep → Bool} (member : step ∈ input.steps) (holds : p step = true) :
    step.id ∈ input.stepsWith p := List.mem_map_of_mem (List.mem_filter.mpr ⟨member, holds⟩)

theorem taggedWork_gates {tag : String} (gateType action reason : String) (member : step ∈ input.steps)
    (tagged : tag ∈ step.tags) : ∃ gate ∈ gatesOf (taggedWork input tag gateType action reason),
      gate.gateType = gateType ∧ step.id ∈ gate.stepIds := by
  have listed : step.id ∈ input.stepsWith fun step => tag ∈ step.tags := mem_stepsWith member (decide_eq_true tagged)
  unfold taggedWork
  exact ⟨_, mem_gatesOf_about listed rfl, rfl, listed⟩

theorem mem_findings {finding : Finding} : finding ∈ findings pack input ↔ finding ∈ applicationRisk pack input ∨
    finding ∈ PlanPolicy.privilegedTools input ∨ finding ∈ deploymentWork input ∨ finding ∈ schemaWork input ∨
    finding ∈ securitySensitive pack input := by
  unfold findings
  rw [List.mem_append, List.mem_append, List.mem_append, List.mem_append, or_assoc, or_assoc, or_assoc]

theorem evaluate_covers (pack : PolicyPack) (input : PlanInput) : (evaluate pack input).Covers input := by
  have within : ∀ {found : List Finding}, (∀ finding ∈ found, finding ∈ findings pack input) →
      ∀ gate ∈ gatesOf found, gate ∈ (evaluate pack input).approvalGates := by
    intro found inFindings gate member
    rw [approvalGates_eq]
    obtain ⟨finding, isFound, asked⟩ := List.mem_filterMap.mp member
    exact List.mem_filterMap.mpr ⟨finding, inFindings finding isFound, asked⟩
  refine ⟨fun step member requests => ?_, fun step member tagged => ?_, fun step member tagged => ?_, ?_⟩
  · have privileged : step.privileged = true := by
      obtain ⟨tool, inTools, isPrivileged⟩ := requests
      exact List.any_eq_true.mpr ⟨tool, inTools, decide_eq_true isPrivileged⟩
    have listed := mem_stepsWith member privileged
    refine ⟨_, within (fun finding isFound => mem_findings.mpr (.inr (.inl isFound))) _
      (mem_gatesOf_about listed rfl), rfl, listed⟩
  · obtain ⟨gate, asked, lists⟩ := taggedWork_gates "deployment" "deployment.execute"
      "Deployment work requires explicit approval." member tagged
    exact ⟨gate, within (fun finding isFound => mem_findings.mpr (.inr (.inr (.inl isFound)))) gate asked, lists⟩
  · obtain ⟨gate, asked, lists⟩ := taggedWork_gates "schema_change" "schema.migrate"
      "Schema-changing work requires explicit approval." member tagged
    exact ⟨gate, within (fun finding isFound => mem_findings.mpr (.inr (.inr (.inr (.inl isFound))))) gate asked, lists⟩
  · change (!(evaluate pack input).approvalGates.isEmpty) = true ↔ _
    rw [Bool.not_eq_true', ← Bool.not_eq_true, List.isEmpty_iff]

theorem applicationRisk_strict (asks : gate ∈ gatesOf (applicationRisk .default input)) :
    gate ∈ gatesOf (applicationRisk .strict input) := by
  unfold applicationRisk at asks ⊢
  split at asks
  · rename_i risky
    have also : input.level ∈ riskThreshold .strict := List.mem_cons_of_mem _ risky
    rw [if_pos also]
    exact asks
  · cases asks

theorem securitySensitive_default : gatesOf (securitySensitive .default input) = [] := by
  unfold securitySensitive about gatesOf
  split
  · rfl
  · rfl

theorem strict_dominates (input : PlanInput) : (evaluate .strict input).Dominates (evaluate .default input) := by
  refine ⟨fun _ => rfl, fun gate member => ⟨gate, ?_, rfl, rfl, List.Subset.refl _⟩⟩
  rw [approvalGates_eq] at member ⊢
  unfold findings at member ⊢
  simp only [gatesOf, List.filterMap_append, List.mem_append] at member ⊢
  rcases member with (((risk | tools) | deployment) | schema) | sensitive
  · exact .inl (.inl (.inl (.inl (applicationRisk_strict risk))))
  · exact .inl (.inl (.inl (.inr tools)))
  · exact .inl (.inl (.inr deployment))
  · exact .inl (.inr schema)
  · have none_ : gate ∈ gatesOf (securitySensitive .default input) := sensitive
    rw [securitySensitive_default] at none_
    cases none_

end

/-- Strict policy dominates default policy on every document, and under both
the gates cover the steps they must. -/
theorem plan_policy_sound (input : PlanInput) :
    (evaluate .strict input).Dominates (evaluate .default input) ∧ ∀ pack, (evaluate pack input).Covers input :=
  ⟨strict_dominates input, fun pack => evaluate_covers pack input⟩

namespace PlanPolicy.Sample

def release : PlanInputStep := ⟨"b", some "implementation", some ["deployment.execute"], some ["deployment"]⟩

/-- A step of code and one of deployment, under a critical risk. -/
def input : PlanInput := ⟨some "critical", [⟨"a", none, some ["source.read"], none⟩, release]⟩

/-- Strict policy denies what default policy allows behind its gates. -/
theorem plan_policy_sound_release :
    (evaluate .strict input).allow = false ∧ (evaluate .default input).allow = true ∧
      (evaluate .default input).Gates "deployment" "b" ∧ ¬(evaluate .default input).Gates "deployment" "a" := by
  have listed : ∀ gate ∈ (evaluate .default input).approvalGates, gate.gateType = "deployment" →
      "a" ∉ gate.stepIds := by decide
  have gated := ((plan_policy_sound input).2 .default).deployment release (List.mem_cons_of_mem _ List.mem_cons_self)
    (by decide)
  exact ⟨by decide, by decide, gated, fun ⟨gate, member, type_, lists⟩ => listed gate member type_ lists⟩

end PlanPolicy.Sample

end SacmRuntime
