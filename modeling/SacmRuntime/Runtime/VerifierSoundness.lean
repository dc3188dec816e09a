import SacmRuntime.Lib.Checked
import SacmRuntime.Runtime.Verifier

namespace SacmRuntime
open Checked

namespace Verifier

section
variable (env : VerifierEnv) (d : VerifierDb) (taskId runId : String) (result : AgentResult)

/-- A loop over a field of the document meets this object. -/
def Lists (j : Json) (key : String) (item : Json) : Prop :=
  ∃ items, iterateKey j key = .ok items ∧ item ∈ items ∧ isDict item = true

structure RunEvent (event : ContextEvent) : Prop where
  stored : event ∈ d.events
  ofTask : event.taskId = taskId
  kind : event.eventType = "agent_result"
  ofRun : (event.payload.get "agent_task_contract").get "run_id" = .str runId

def Unrecorded : Prop := ∀ event, RunEvent d taskId runId event → ∀ action, ¬Lists event.payload "actions" action

/-- An action recorded for the run. As long as nothing is recorded, the
result that is being evaluated stands in. -/
def RunAction (action : Json) : Prop :=
  (∃ event, RunEvent d taskId runId event ∧ Lists event.payload "actions" action) ∨
    Unrecorded d taskId runId ∧ action ∈ result.actions

/-- A tool execution recorded for the run, with the same stand-in. -/
def RunExecution (execution : Json) : Prop :=
  (∃ event, RunEvent d taskId runId event ∧ Lists event.payload "tool_execution" execution) ∨
    Unrecorded d taskId runId ∧ execution ∈ result.artifacts ∧ execution.get "type" = .str "tool_execution"

/-- The command was executed in the run, with return code 0. -/
def Ran (command : String) : Prop :=
  ∃ execution, RunExecution d taskId runId result execution ∧ executionCommand env execution = command ∧
    isZero (execution.get "returncode") = true

/-- The command was executed in the run, with another return code. -/
def RanAndFailed (command : String) : Prop :=
  ∃ execution, RunExecution d taskId runId result execution ∧ executionCommand env execution = command ∧
    isNonZeroInt (execution.get "returncode") = true

/-- The hash is that of an artifact of the run, up to case. -/
def HashRecorded (hash : String) : Prop :=
  ∃ artifact ∈ d.artifacts, artifact.taskId = taskId ∧ artifact.metadata.get "run_id" = .str runId ∧
    ∃ stored, artifact.contentHash = some stored ∧ env.lower stored = env.lower hash

/-- The actions list evidence, and every hash in it is recorded. -/
structure Backed (actions : List Json) : Prop where
  listed : ∃ action ∈ actions, ∃ item, Lists action "evidence" item
  recorded : ∀ action ∈ actions, ∀ item, Lists action "evidence" item →
    ∃ hash, item.get "sha256" = .str hash ∧ HashRecorded env d taskId runId hash

/-- An action of the run that says it passed, and whose command did. -/
structure Passed (kind : String) (action : Json) : Prop where
  recorded : RunAction d taskId runId result action
  kind : action.get "type" = .str kind
  claimed : action.get "passed" = .bool true
  named : commandOf env action ≠ ""
  ran : Ran env d taskId runId result (commandOf env action)

structure VerifiedBy (requirement : RequirementRead) (action : Json) : Prop where
  recorded : RunAction d taskId runId result action
  kind : action.get "type" = .str "REQUIREMENT_VERIFICATION"
  about : verifies env requirement action = true
  claimed : action.get "passed" = .bool true
  implementation : ∃ references, listOf (action.get "implementation_references") = .ok references ∧ references ≠ []
  tests : ∃ tests, listOf (action.get "test_references") = .ok tests ∧ tests ≠ [] ∧ ∀ test ∈ tests,
    ∃ passed, Passed env d taskId runId result "TEST_RESULT" passed ∧
      ∃ listed, iterateKey passed "tests" = .ok listed ∧ ∃ name ∈ listed, test = .str (textOf env name)
  commands : ∃ commands, listOf (action.get "verification_commands") = .ok commands ∧ commands ≠ [] ∧
    ∀ command ∈ commands, ∃ name, command = .str name ∧ Ran env d taskId runId result name
  backed : Backed env d taskId runId [action]

structure TechnicallyVerified : Prop where
  requirements : ∀ requirements, d.refresh taskId = .ok requirements → ∀ requirement ∈ requirements,
    ∃ action, VerifiedBy env d taskId runId result requirement action
  build : ∃ action, Passed env d taskId runId result "BUILD_RESULT" action ∧ Backed env d taskId runId [action]
  regression : ∃ focused affected, Passed env d taskId runId result "TEST_RESULT" focused ∧
    focused.get "scope" = .str "focused" ∧ Passed env d taskId runId result "TEST_RESULT" affected ∧
    affected.get "scope" = .str "affected-regression" ∧ Backed env d taskId runId [focused, affected] ∧
    RanAndFailed env d taskId runId result (textOf env ((focused.get "base_revision_command").orElse (.str "")))
  contract : ∃ action, Passed env d taskId runId result "CONTRACT_COMPATIBILITY" action ∧
    Backed env d taskId runId [action]
  security : ∃ action, Passed env d taskId runId result "SECURITY_RESULT" action ∧
    Backed env d taskId runId [action]
  integrity : ∃ action, Passed env d taskId runId result "TEST_INTEGRITY" action ∧
    Backed env d taskId runId [action] ∧ listOf (action.get "tests_removed") = .ok [] ∧
    listOf (action.get "weakened_assertions") = .ok []

end

section
variable {env : VerifierEnv} {d : VerifierDb} {taskId run kind : String} {result : AgentResult}
  {actions executions : List Json} {action : Json} {found : Option Json}

theorem ofRun_true {event : ContextEvent} (kept : ofRun (some run) event = .ok true) :
    (event.payload.get "agent_task_contract").get "run_id" = .str run := by
  unfold ofRun at kept
  by_cases given : (event.payload.get "agent_task_contract").truthy = true
  · rw [Json.orElse, if_pos given] at kept
    split at kept
    · rename_i fields contract
      rw [contract]
      simpa using kept
    · cases kept
  · rw [Json.orElse, if_neg given] at kept
    cases kept

theorem ofRun_false {event : ContextEvent} (dropped : ofRun (some run) event = .ok false) :
    (event.payload.get "agent_task_contract").get "run_id" ≠ .str run := by
  unfold ofRun at dropped
  by_cases given : (event.payload.get "agent_task_contract").truthy = true
  · rw [Json.orElse, if_pos given] at dropped
    split at dropped
    · rename_i fields contract
      rw [contract]
      simpa using dropped
    · cases dropped
  · intro ofRun
    cases contract : event.payload.get "agent_task_contract" with
    | obj fields =>
      rw [contract] at given ofRun
      cases fields with
      | nil => cases ofRun
      | cons field rest => exact given rfl
    | _ =>
      rw [contract] at ofRun
      cases ofRun

theorem recorded_sound {events : List ContextEvent}
    (collected : recorded (some run) events = .ok (actions, executions)) :
    (∀ action ∈ actions, ∃ event ∈ events, (event.payload.get "agent_task_contract").get "run_id" = .str run ∧
        Lists event.payload "actions" action) ∧
      (∀ execution ∈ executions, ∃ event ∈ events,
        (event.payload.get "agent_task_contract").get "run_id" = .str run ∧
          Lists event.payload "tool_execution" execution) ∧
      ∀ event ∈ events, (event.payload.get "agent_task_contract").get "run_id" = .str run →
        ∀ action, Lists event.payload "actions" action → action ∈ actions := by
  induction events generalizing actions executions with
  | nil =>
    cases collected
    simp
  | cons event rest ih =>
    unfold recorded at collected
    obtain ⟨kept, decided, collected⟩ := bind_ok collected
    cases kept with
    | false =>
      have other := ofRun_false decided
      obtain ⟨fromActions, fromExecutions, complete⟩ := ih collected
      refine ⟨?_, ?_, ?_⟩
      · intro action member
        obtain ⟨origin, inRest, found⟩ := fromActions action member
        exact ⟨origin, List.mem_cons_of_mem _ inRest, found⟩
      · intro execution member
        obtain ⟨origin, inRest, found⟩ := fromExecutions execution member
        exact ⟨origin, List.mem_cons_of_mem _ inRest, found⟩
      · intro origin member ofRun
        rcases List.mem_cons.mp member with rfl | inRest
        · exact absurd ofRun other
        · exact complete origin inRest ofRun
    | true =>
      have same := ofRun_true decided
      rw [if_pos rfl] at collected
      obtain ⟨given, atGiven, collected⟩ := bind_ok collected
      obtain ⟨tools, atTools, collected⟩ := bind_ok collected
      obtain ⟨⟨laterActions, laterExecutions⟩, atLater, collected⟩ := bind_ok collected
      cases collected
      obtain ⟨fromActions, fromExecutions, complete⟩ := ih atLater
      refine ⟨?_, ?_, ?_⟩
      · intro action member
        rcases List.mem_append.mp member with here | later
        · obtain ⟨inGiven, dict⟩ := List.mem_filter.mp here
          exact ⟨event, List.mem_cons_self, same, given, atGiven, inGiven, dict⟩
        · obtain ⟨origin, inRest, found⟩ := fromActions action later
          exact ⟨origin, List.mem_cons_of_mem _ inRest, found⟩
      · intro execution member
        rcases List.mem_append.mp member with here | later
        · obtain ⟨inTools, dict⟩ := List.mem_filter.mp here
          exact ⟨event, List.mem_cons_self, same, tools, atTools, inTools, dict⟩
        · obtain ⟨origin, inRest, found⟩ := fromExecutions execution later
          exact ⟨origin, List.mem_cons_of_mem _ inRest, found⟩
      · rintro origin member ofRun action ⟨items, atItems, inItems, dict⟩
        rcases List.mem_cons.mp member with rfl | inRest
        · cases Except.ok.inj (atItems.symm.trans atGiven)
          exact List.mem_append_left _ (List.mem_filter.mpr ⟨inItems, dict⟩)
        · exact List.mem_append_right _ (complete origin inRest ofRun action ⟨items, atItems, inItems, dict⟩)

theorem mem_agentResults {event : ContextEvent} :
    event ∈ agentResults d taskId ↔ event ∈ d.events ∧ event.taskId = taskId ∧ event.eventType = "agent_result" := by
  unfold agentResults
  rw [List.mem_insertionSort, List.mem_filter, Bool.and_eq_true, beq_iff_eq, beq_iff_eq]

theorem records_sound (collected : records (some d) taskId result (some run) = .ok (actions, executions)) :
    (∀ action ∈ actions, RunAction d taskId run result action) ∧
      ∀ execution ∈ executions, RunExecution d taskId run result execution := by
  unfold records at collected
  obtain ⟨⟨foundActions, foundExecutions⟩, atFound, collected⟩ := bind_ok collected
  obtain ⟨fromActions, fromExecutions, complete⟩ := recorded_sound atFound
  have stored : ∀ event ∈ agentResults d taskId,
      (event.payload.get "agent_task_contract").get "run_id" = .str run → RunEvent d taskId run event := by
    intro event member ofRun
    obtain ⟨inTable, ofTask, kind⟩ := mem_agentResults.mp member
    exact ⟨inTable, ofTask, kind, ofRun⟩
  have executed : ∀ execution ∈ foundExecutions, RunExecution d taskId run result execution := by
    intro execution member
    obtain ⟨event, inResults, ofRun, lists⟩ := fromExecutions execution member
    exact .inl ⟨event, stored event inResults ofRun, lists⟩
  cases foundActions with
  | cons first rest =>
    cases collected
    refine ⟨fun action member => ?_, executed⟩
    obtain ⟨event, inResults, ofRun, lists⟩ := fromActions action member
    exact .inl ⟨event, stored event inResults ofRun, lists⟩
  | nil =>
    cases collected
    have unrecorded : Unrecorded d taskId run := by
      intro event inRun action lists
      cases complete event (mem_agentResults.mpr ⟨inRun.stored, inRun.ofTask, inRun.kind⟩) inRun.ofRun action lists
    refine ⟨fun action member => .inr ⟨unrecorded, member⟩, fun execution member => ?_⟩
    rcases List.mem_append.mp member with recorded | reported
    · exact executed execution recorded
    · obtain ⟨inArtifacts, tool⟩ := List.mem_filter.mp reported
      exact .inr ⟨unrecorded, inArtifacts, by simpa using tool⟩

theorem latest_some (atLatest : latest actions kind = some action) :
    action ∈ actions ∧ action.get "type" = .str kind := by
  have member := List.mem_reverse.mp (List.mem_of_find?_eq_some atLatest)
  have typed := List.find?_some atLatest
  exact ⟨member, beq_iff_eq.mp typed⟩

theorem testAction_some {scope : String} (atLatest : testAction actions scope = some action) :
    action ∈ actions ∧ action.get "type" = .str "TEST_RESULT" ∧ action.get "scope" = .str scope := by
  have member := List.mem_reverse.mp (List.mem_of_find?_eq_some atLatest)
  have typed := List.find?_some atLatest
  rw [Bool.and_eq_true, beq_iff_eq, beq_iff_eq] at typed
  exact ⟨member, typed⟩

theorem passedStatus_pass (pass : passedStatus env found executions = .pass) :
    ∃ action, found = some action ∧ actionPassed env action executions = true := by
  cases found with
  | none => cases pass
  | some action =>
    refine ⟨action, rfl, ?_⟩
    by_contra notPassed
    simp [passedStatus, notPassed] at pass

theorem explicitStatus_pass (pass : explicitStatus env found executions = .pass) :
    ∃ action, found = some action ∧ actionPassed env action executions = true := by
  cases found with
  | none => cases pass
  | some action =>
    refine ⟨action, rfl, ?_⟩
    by_contra notPassed
    simp [explicitStatus, notPassed] at pass

theorem blocker_nil {status : VerificationStatus} {valid : Bool} {unverified unbacked : String}
    (quiet : blocker status valid unverified unbacked = []) : status = .pass ∧ valid = true := by
  unfold blocker at quiet
  split at quiet
  · cases quiet
  · rename_i pass
    split at quiet
    · rename_i backed
      exact ⟨not_not.mp pass, backed⟩
    · cases quiet

theorem mem_evidenceOf {found : List (Option Json)} {evidence : List Json} (given : evidenceOf found = .ok evidence)
    {item : Json} : item ∈ evidence ↔ ∃ action, some action ∈ found ∧ Lists action "evidence" item := by
  unfold evidenceOf at given
  obtain ⟨lists, atLists, given⟩ := bind_ok given
  cases given
  rw [List.mem_filter, List.mem_flatten]
  constructor
  · rintro ⟨⟨items, inLists, inItems⟩, dict⟩
    obtain ⟨action, inFound, atItems⟩ := mapM_origin atLists inLists
    obtain ⟨_, member, rfl⟩ := List.mem_filterMap.mp inFound
    exact ⟨action, member, items, atItems, inItems, dict⟩
  · rintro ⟨action, member, items, atItems, inItems, dict⟩
    obtain ⟨found, inLists, atFound⟩ := mapM_result atLists (List.mem_filterMap.mpr ⟨_, member, rfl⟩)
    cases Except.ok.inj (atFound.symm.trans atItems)
    exact ⟨⟨items, inLists, inItems⟩, dict⟩

theorem mem_artifactHashes {hash : String}
    (member : env.lower hash ∈ artifactHashes env (some d) taskId (some run)) : HashRecorded env d taskId run hash := by
  unfold artifactHashes at member
  obtain ⟨artifact, inRows, atHash⟩ := List.mem_filterMap.mp member
  rw [List.mem_filter, Bool.and_eq_true, beq_iff_eq, beq_iff_eq] at inRows
  obtain ⟨stored, atStored, lowered⟩ := Option.map_eq_some_iff.mp atHash
  exact ⟨artifact, inRows.1, inRows.2.1, inRows.2.2, stored, atStored, lowered⟩

theorem validEvidence_backed (found : List Json) {evidence : List Json}
    (given : evidenceOf (found.map some) = .ok evidence)
    (valid : validEvidence env evidence (artifactHashes env (some d) taskId (some run)) = true) :
    Backed env d taskId run found := by
  unfold validEvidence at valid
  rw [Bool.and_eq_true, List.all_eq_true] at valid
  constructor
  · cases evidence with
    | nil => cases valid.1
    | cons item rest =>
      obtain ⟨action, member, lists⟩ := (mem_evidenceOf given).mp List.mem_cons_self
      obtain ⟨_, inFound, same⟩ := List.mem_map.mp member
      cases same
      exact ⟨action, inFound, item, lists⟩
  · intro action inFound item lists
    have member := (mem_evidenceOf given).mpr ⟨action, List.mem_map_of_mem inFound, lists⟩
    have checked := valid.2 item member
    split at checked
    · rename_i hash atHash
      exact ⟨hash, atHash, mem_artifactHashes (List.contains_iff_mem.mp checked)⟩
    · cases checked

/-- The records that are evaluated are those of the run. -/
structure OfRun (env : VerifierEnv) (d : VerifierDb) (taskId run : String) (result : AgentResult)
    (actions executions : List Json) : Prop where
  actions : ∀ action ∈ actions, RunAction d taskId run result action
  executions : ∀ execution ∈ executions, RunExecution d taskId run result execution

theorem OfRun.passed (ofRun : OfRun env d taskId run result actions executions) (member : action ∈ actions)
    (typed : action.get "type" = .str kind) (passed : actionPassed env action executions = true) :
    Passed env d taskId run result kind action := by
  unfold actionPassed at passed
  rw [Bool.and_eq_true, Bool.and_eq_true, bne_iff_ne, beq_iff_eq, List.any_eq_true] at passed
  obtain ⟨⟨named, claimed⟩, execution, executed, returned⟩ := passed
  rw [Bool.and_eq_true, beq_iff_eq] at returned
  exact ⟨ofRun.actions action member, typed, claimed, named, execution, ofRun.executions execution executed, returned⟩

theorem OfRun.failed (ofRun : OfRun env d taskId run result actions executions)
    (failed : baseFailed env action executions = true) :
    RanAndFailed env d taskId run result (textOf env ((action.get "base_revision_command").orElse (.str ""))) := by
  unfold baseFailed at failed
  rw [Bool.and_eq_true, List.any_eq_true] at failed
  obtain ⟨-, execution, executed, returned⟩ := failed
  rw [Bool.and_eq_true, beq_iff_eq] at returned
  exact ⟨execution, ofRun.executions execution executed, returned⟩

theorem memberOf_true {texts : List String} {value : Json} (member : memberOf texts value = .ok true) :
    ∃ text ∈ texts, value = .str text := by
  cases value with
  | str text =>
    have inTexts : texts.contains text = true := Except.ok.inj member
    exact ⟨text, List.contains_iff_mem.mp inTexts, rfl⟩
  | arr items => cases member
  | obj fields => cases member
  | _ => cases Except.ok.inj member

section
variable (ofRun : OfRun env d taskId run result actions executions)
include ofRun

theorem OfRun.tested {tested : List String} (collected : executedTests env actions executions = .ok tested)
    {test : String} (member : test ∈ tested) :
    ∃ passed, Passed env d taskId run result "TEST_RESULT" passed ∧
      ∃ listed, iterateKey passed "tests" = .ok listed ∧ ∃ name ∈ listed, Json.str test = .str (textOf env name) := by
  unfold executedTests at collected
  obtain ⟨lists, atLists, collected⟩ := bind_ok collected
  cases collected
  obtain ⟨name, inLists, rfl⟩ := List.mem_map.mp member
  obtain ⟨listed, atListed, inListed⟩ := List.mem_flatten.mp inLists
  obtain ⟨passed, inActions, atTests⟩ := mapM_origin atLists atListed
  rw [List.mem_filter, Bool.and_eq_true, beq_iff_eq] at inActions
  exact ⟨passed, ofRun.passed inActions.1 inActions.2.1 inActions.2.2, listed, atTests, name, inListed, rfl⟩

theorem OfRun.requirement {tested : List String} (collected : executedTests env actions executions = .ok tested)
    {requirement : RequirementRead} {verification : RequirementVerificationV1}
    (checked : requirementOf env actions executions tested (artifactHashes env (some d) taskId (some run))
      requirement = .ok verification)
    (pass : verification.status = .pass) :
    ∃ action, VerifiedBy env d taskId run result requirement action := by
  unfold requirementOf at checked
  obtain ⟨implementation, atImplementation, checked⟩ := bind_ok checked
  obtain ⟨tests, atTests, checked⟩ := bind_ok checked
  obtain ⟨commands, atCommands, checked⟩ := bind_ok checked
  obtain ⟨evidence, atEvidence, checked⟩ := bind_ok checked
  obtain ⟨passed, decided, checked⟩ := bind_ok checked
  obtain ⟨_, -, checked⟩ := bind_ok checked
  obtain ⟨_, -, checked⟩ := bind_ok checked
  obtain ⟨_, -, checked⟩ := bind_ok checked
  cases checked
  cases passed with
  | false => cases pass
  | true =>
    unfold requirementPassed at decided
    dsimp only at decided
    split at decided
    · rename_i complete
      simp only [Bool.and_eq_true, Bool.not_eq_true', beq_iff_eq] at complete
      obtain ⟨⟨⟨⟨⟨submitted, claimed⟩, implemented⟩, covered⟩, commanded⟩, -⟩ := complete
      obtain ⟨action, atAction⟩ := Option.isSome_iff_exists.mp submitted
      rw [atAction] at atImplementation atTests atCommands atEvidence claimed
      have about := List.find?_some atAction
      have inSubmitted := List.mem_reverse.mp (List.mem_of_find?_eq_some atAction)
      rw [List.mem_filter, beq_iff_eq] at inSubmitted
      obtain ⟨ran, atRan, decided⟩ := bind_ok decided
      cases ran with
      | false => cases decided
      | true =>
        obtain ⟨listed, atListed, decided⟩ := bind_ok decided
        obtain ⟨allListed, valid⟩ := Bool.and_eq_true_iff.mp (Except.ok.inj decided)
        cases allListed
        refine ⟨action, ofRun.actions action inSubmitted.1, inSubmitted.2, about, claimed, ?_, ?_, ?_, ?_⟩
        · exact ⟨implementation, atImplementation, List.isEmpty_eq_false_iff.mp implemented⟩
        · refine ⟨tests, atTests, List.isEmpty_eq_false_iff.mp covered, fun test member => ?_⟩
          obtain ⟨name, inTested, rfl⟩ := memberOf_true (allM_true atListed member)
          exact ofRun.tested collected inTested
        · refine ⟨commands, atCommands, List.isEmpty_eq_false_iff.mp commanded, fun command member => ?_⟩
          obtain ⟨name, inExecuted, rfl⟩ := memberOf_true (allM_true atRan member)
          obtain ⟨execution, zero, rfl⟩ := List.mem_map.mp inExecuted
          rw [List.mem_filter] at zero
          exact ⟨_, rfl, execution, ofRun.executions execution zero.1, rfl, zero.2⟩
        · exact validEvidence_backed [action] atEvidence valid
    · cases decided

theorem OfRun.explicit {evidence : List Json} (given : evidenceOf [latest actions kind] = .ok evidence)
    (pass : explicitStatus env (latest actions kind) executions = .pass)
    (valid : validEvidence env evidence (artifactHashes env (some d) taskId (some run)) = true) :
    ∃ action, latest actions kind = some action ∧ Passed env d taskId run result kind action ∧
      Backed env d taskId run [action] := by
  obtain ⟨action, atLatest, passed⟩ := explicitStatus_pass pass
  obtain ⟨member, typed⟩ := latest_some atLatest
  rw [atLatest] at given
  exact ⟨action, atLatest, ofRun.passed member typed passed, validEvidence_backed [action] given valid⟩

theorem OfRun.regression {proof : RegressionProofV1}
    (checked : regressionProof env (testAction actions "focused") (testAction actions "affected-regression")
      executions = .ok proof)
    (pass : proof.status = .pass)
    (valid : validEvidence env proof.evidence (artifactHashes env (some d) taskId (some run)) = true) :
    ∃ focused affected, Passed env d taskId run result "TEST_RESULT" focused ∧
      focused.get "scope" = .str "focused" ∧ Passed env d taskId run result "TEST_RESULT" affected ∧
      affected.get "scope" = .str "affected-regression" ∧ Backed env d taskId run [focused, affected] ∧
      RanAndFailed env d taskId run result
        (textOf env ((focused.get "base_revision_command").orElse (.str ""))) := by
  unfold regressionProof at checked
  obtain ⟨evidence, atEvidence, checked⟩ := bind_ok checked
  cases checked
  dsimp only at pass valid
  split at pass
  · rename_i proved
    rw [Bool.and_eq_true, Option.any_eq_true, Option.any_eq_true] at proved
    obtain ⟨⟨focused, atFocused, focusedPassed⟩, affected, atAffected, affectedPassed⟩ := proved
    rw [Bool.and_eq_true, Bool.and_eq_true] at focusedPassed
    obtain ⟨focusedIn, focusedType, focusedScope⟩ := testAction_some atFocused
    obtain ⟨affectedIn, affectedType, affectedScope⟩ := testAction_some atAffected
    rw [atFocused, atAffected] at atEvidence
    exact ⟨focused, affected, ofRun.passed focusedIn focusedType focusedPassed.1.1, focusedScope,
      ofRun.passed affectedIn affectedType affectedPassed, affectedScope,
      validEvidence_backed [focused, affected] atEvidence valid, ofRun.failed focusedPassed.2⟩
  · cases pass

end

/-- The evidence of the actions can be read and is valid. -/
def EvidenceValid (env : VerifierEnv) (hashes : List String) (found : List (Option Json)) : Prop :=
  ∃ evidence, evidenceOf found = .ok evidence ∧ validEvidence env evidence hashes = true

/-- How a strict matrix is put together from the latest actions. -/
structure Assembled (env : VerifierEnv) (actions executions : List Json) (hashes : List String)
    (requirements : List RequirementVerificationV1) (matrix : VerificationMatrixV2) : Prop where
  build : matrix.buildStatus = passedStatus env (latest actions "BUILD_RESULT") executions
  regression :
    regressionProof env (testAction actions "focused") (testAction actions "affected-regression") executions =
    .ok matrix.regression
  contract : matrix.contractCompatibility.status =
    explicitStatus env (latest actions "CONTRACT_COMPATIBILITY") executions
  security : matrix.securityStatus = explicitStatus env (latest actions "SECURITY_RESULT") executions
  integrity : ∃ removed weakened,
    listOf (((latest actions "TEST_INTEGRITY").getD (.obj [])).get "tests_removed") = .ok removed ∧
    listOf (((latest actions "TEST_INTEGRITY").getD (.obj [])).get "weakened_assertions") = .ok weakened ∧
    matrix.testIntegrity.status = if removed.isEmpty && weakened.isEmpty then
      explicitStatus env (latest actions "TEST_INTEGRITY") executions else .fail
  complete : matrix.technicalComplete = true → (∀ item ∈ requirements, item.status = .pass) ∧
    (matrix.buildStatus = .pass ∧ EvidenceValid env hashes [latest actions "BUILD_RESULT"]) ∧
    (matrix.regression.status = .pass ∧ validEvidence env matrix.regression.evidence hashes = true) ∧
    (matrix.contractCompatibility.status = .pass ∧ EvidenceValid env hashes [latest actions "CONTRACT_COMPATIBILITY"]) ∧
    (matrix.securityStatus = .pass ∧ EvidenceValid env hashes [latest actions "SECURITY_RESULT"]) ∧
    (matrix.testIntegrity.status = .pass ∧ EvidenceValid env hashes [latest actions "TEST_INTEGRITY"])

theorem strictMatrix_ok {hashes : List String} {requirements : List RequirementVerificationV1}
    {matrix : VerificationMatrixV2}
    (evaluated : strictMatrix env taskId run actions executions hashes requirements = .ok matrix) :
    Assembled env actions executions hashes requirements matrix := by
  unfold strictMatrix at evaluated
  obtain ⟨buildEvidence, atBuild, evaluated⟩ := bind_ok evaluated
  obtain ⟨regression, atRegression, evaluated⟩ := bind_ok evaluated
  obtain ⟨checks, -, evaluated⟩ := bind_ok evaluated
  obtain ⟨contractEvidence, atContract, evaluated⟩ := bind_ok evaluated
  obtain ⟨contractChecks, -, evaluated⟩ := bind_ok evaluated
  obtain ⟨securityEvidence, atSecurity, evaluated⟩ := bind_ok evaluated
  obtain ⟨removed, atRemoved, evaluated⟩ := bind_ok evaluated
  obtain ⟨weakened, atWeakened, evaluated⟩ := bind_ok evaluated
  obtain ⟨integrityEvidence, atIntegrity, evaluated⟩ := bind_ok evaluated
  obtain ⟨testsRemoved, -, evaluated⟩ := bind_ok evaluated
  obtain ⟨weakenedAssertions, -, evaluated⟩ := bind_ok evaluated
  cases evaluated
  refine ⟨rfl, atRegression, rfl, rfl, ⟨removed, weakened, atRemoved, atWeakened, rfl⟩, fun complete => ?_⟩
  simp only [List.isEmpty_iff, List.append_eq_nil_iff] at complete
  obtain ⟨⟨⟨⟨⟨verified, build⟩, regressed⟩, compatible⟩, secure⟩, intact⟩ := complete
  have allPass : ∀ item ∈ requirements, item.status = .pass := by
    intro item member
    by_contra notPass
    rw [if_pos (List.any_eq_true.mpr ⟨item, member, by simpa using notPass⟩)] at verified
    cases verified
  obtain ⟨buildPass, buildValid⟩ := blocker_nil build
  obtain ⟨contractPass, contractValid⟩ := blocker_nil compatible
  obtain ⟨securityPass, securityValid⟩ := blocker_nil secure
  obtain ⟨integrityPass, integrityValid⟩ := blocker_nil intact
  exact ⟨allPass, ⟨buildPass, buildEvidence, atBuild, buildValid⟩, blocker_nil regressed,
    ⟨contractPass, contractEvidence, atContract, contractValid⟩,
    ⟨securityPass, securityEvidence, atSecurity, securityValid⟩,
    ⟨integrityPass, integrityEvidence, atIntegrity, integrityValid⟩⟩

theorem evaluate_ok {db : Option VerifierDb} {runId : Option String} {matrix : VerificationMatrixV2}
    (evaluated : evaluate env db taskId result runId = .ok matrix) :
    ∃ actions executions found, records db taskId result runId = .ok (actions, executions) ∧
      requirements env db taskId actions executions runId = .ok found ∧
      ((found = [] ∧ ∃ complete, legacyComplete env result actions = .ok complete ∧
          matrix = legacyMatrix taskId runId complete found) ∨
        (found ≠ [] ∧ runId = none ∧ matrix = missingRunMatrix taskId found) ∨
        found ≠ [] ∧ ∃ run, runId = some run ∧
          strictMatrix env taskId run actions executions (artifactHashes env db taskId runId) found = .ok matrix) := by
  unfold evaluate at evaluated
  obtain ⟨⟨actions, executions⟩, collected, evaluated⟩ := bind_ok evaluated
  obtain ⟨found, checked, evaluated⟩ := bind_ok evaluated
  refine ⟨actions, executions, found, collected, checked, ?_⟩
  split at evaluated
  · rename_i none
    obtain ⟨complete, decided, evaluated⟩ := bind_ok evaluated
    exact .inl ⟨List.isEmpty_iff.mp none, complete, decided, (Except.ok.inj evaluated).symm⟩
  · rename_i some
    have present : found ≠ [] := fun empty => some (List.isEmpty_iff.mpr empty)
    cases runId with
    | none => exact .inr (.inl ⟨present, rfl, (Except.ok.inj evaluated).symm⟩)
    | some run => exact .inr (.inr ⟨present, run, rfl, evaluated⟩)

end

end Verifier

open Verifier

/-- A task with requirements is technically complete only when everything
that counts was recorded for its run, and complete only with valid evidence. -/
theorem technical_complete_sound {env : VerifierEnv} {d : VerifierDb} {taskId : String} {result : AgentResult}
    {runId : Option String} {matrix : VerificationMatrixV2} {required : List RequirementRead}
    (derived : d.refresh taskId = .ok required) (present : required ≠ [])
    (evaluated : evaluate env (some d) taskId result runId = .ok matrix) :
    (matrix.technicalComplete = true →
      ∃ run, runId = some run ∧ TechnicallyVerified env d taskId run result) ∧
      ∀ valid, (finalizeEvidence matrix valid).complete = true → matrix.technicalComplete = true ∧ valid = true := by
  refine ⟨fun complete => ?_, fun valid final => Bool.and_eq_true_iff.mp final⟩
  obtain ⟨actions, executions, found, collected, checked, ending⟩ := evaluate_ok evaluated
  unfold requirements at checked
  obtain ⟨derivedAgain, atDerived, checked⟩ := bind_ok checked
  cases Except.ok.inj (atDerived.symm.trans derived)
  obtain ⟨tested, atTested, checked⟩ := bind_ok checked
  rcases ending with ⟨empty, -⟩ | ⟨-, -, rfl⟩ | ⟨-, run, rfl, strict⟩
  · cases required with
    | nil => exact absurd rfl present
    | cons requirement rest =>
      obtain ⟨item, member, -⟩ := mapM_result checked List.mem_cons_self
      rw [empty] at member
      cases member
  · cases complete
  · have ofRun : OfRun env d taskId run result actions executions :=
      ⟨(records_sound collected).1, (records_sound collected).2⟩
    have assembled := strictMatrix_ok strict
    obtain ⟨verified, ⟨build, buildEvidence, atBuild, buildValid⟩, ⟨regressed, regressionValid⟩,
      ⟨contract, contractEvidence, atContract, contractValid⟩, ⟨security, securityEvidence, atSecurity, securityValid⟩,
      ⟨integrity, integrityEvidence, atIntegrity, integrityValid⟩⟩ := assembled.complete complete
    refine ⟨run, rfl, ?_, ?_, ofRun.regression assembled.regression regressed regressionValid, ?_, ?_, ?_⟩
    · intro again atAgain requirement member
      cases Except.ok.inj (atAgain.symm.trans derived)
      obtain ⟨item, inFound, checkedItem⟩ := mapM_result checked member
      exact ofRun.requirement atTested checkedItem (verified item inFound)
    · rw [assembled.build] at build
      obtain ⟨action, atLatest, passed⟩ := passedStatus_pass build
      obtain ⟨member, typed⟩ := latest_some atLatest
      rw [atLatest] at atBuild
      exact ⟨action, ofRun.passed member typed passed, validEvidence_backed [action] atBuild buildValid⟩
    · rw [assembled.contract] at contract
      obtain ⟨action, -, passed, backed⟩ := ofRun.explicit atContract contract contractValid
      exact ⟨action, passed, backed⟩
    · rw [assembled.security] at security
      obtain ⟨action, -, passed, backed⟩ := ofRun.explicit atSecurity security securityValid
      exact ⟨action, passed, backed⟩
    · obtain ⟨removed, weakened, atRemoved, atWeakened, status⟩ := assembled.integrity
      rw [status] at integrity
      split at integrity
      · rename_i intact
        obtain ⟨noneRemoved, noneWeakened⟩ := Bool.and_eq_true_iff.mp intact
        cases List.isEmpty_iff.mp noneRemoved
        cases List.isEmpty_iff.mp noneWeakened
        obtain ⟨action, atLatest, passed, backed⟩ := ofRun.explicit atIntegrity integrity integrityValid
        rw [atLatest] at atRemoved atWeakened
        exact ⟨action, passed, backed, atRemoved, atWeakened⟩
      · cases integrity

namespace Sample

/-- The texts of the examples are already in the case and shape asked for. -/
def verifierEnv : VerifierEnv := ⟨fun _ => "", id, id, id, fun _ => false⟩

def evidence : String × Json := ("evidence", .arr [.obj [("sha256", .str "a")]])

def actionOf (kind command : String) (fields : List (String × Json)) : Json :=
  .obj ([("type", .str kind), ("passed", .bool true), ("command", .str command)] ++ fields)

/-- The actions of a fix whose affected-area test lists the given fields. -/
def verifiedActions (affected : List (String × Json)) : List Json :=
  [.obj [("type", .str "REQUIREMENT_VERIFICATION"), ("requirement_id", .str "q"), ("passed", .bool true),
      ("implementation_references", .arr [.str "retry.py"]), ("test_references", .arr [.str "test_retry"]),
      ("verification_commands", .arr [.str "pytest"]), ("evidence_integrity", .str "VALID"), evidence],
    actionOf "BUILD_RESULT" "make" [evidence],
    actionOf "TEST_RESULT" "pytest retry" [("scope", .str "focused"), ("failed_before_fix", .bool true),
      ("base_revision_command", .str "pytest base"), ("tests", .arr [.str "test_retry"]), evidence],
    actionOf "TEST_RESULT" "pytest" (("scope", .str "affected-regression") :: affected),
    actionOf "CONTRACT_COMPATIBILITY" "openapi-diff" [("status", .str "PASS"), evidence],
    actionOf "SECURITY_RESULT" "semgrep" [("status", .str "PASS"), evidence],
    actionOf "TEST_INTEGRITY" "test-integrity" [("status", .str "PASS"), evidence]]

def executionOf (command : String) (returncode : Int) : Json :=
  .obj [("type", .str "tool_execution"), ("command", .str command), ("returncode", .int returncode)]

def toolExecutions : List Json :=
  [executionOf "make" 0, executionOf "pytest base" 1, executionOf "pytest retry" 0, executionOf "pytest" 0,
    executionOf "openapi-diff" 0, executionOf "semgrep" 0, executionOf "test-integrity" 0]

def agentResult (actions executions : List Json) : ContextEvent where
  id := "e"
  taskId := "t"
  eventType := "agent_result"
  payload := .obj [("agent_task_contract", .obj [("run_id", .str "r")]), ("actions", .arr actions),
    ("tool_execution", .arr executions)]
  createdAt := 1

/-- One requirement, one artifact of the run, and the given events. -/
def verifierStore (events : List ContextEvent) : VerifierDb where
  events := events
  artifacts := [⟨"t", some "a", .obj [("run_id", .str "r")]⟩]
  refresh _ := .ok [⟨"q", "limit retries", "limit retries"⟩]

/-- A result that reports the given actions and executions. -/
def reported (actions executions : List Json) : AgentResult where
  actions := actions
  artifacts := executions
  confidence := ⟨['0', '.', '0'], FloatText.zero_printable⟩
  nextStateHint := "blocked"

/-- The evaluation of a run whose actions and executions were recorded. -/
def evaluating (affected : List (String × Json)) : Except Error VerificationMatrixV2 :=
  evaluate verifierEnv (some (verifierStore [agentResult (verifiedActions affected) toolExecutions])) "t"
    (reported [] []) (some "r")

end Sample

open Sample in
/-- A recorded fix is complete, so all of it stands behind the run. -/
theorem technical_complete_sample :
    TechnicallyVerified verifierEnv (verifierStore [agentResult (verifiedActions [evidence]) toolExecutions]) "t" "r"
      (reported [] []) := by
  have complete : (evaluating [evidence]).toOption.map VerificationMatrixV2.technicalComplete = some true := by
    decide +kernel
  cases evaluated : evaluating [evidence] with
  | error e =>
    rw [evaluated] at complete
    cases complete
  | ok matrix =>
    rw [evaluated] at complete
    have derived : (verifierStore [agentResult (verifiedActions [evidence]) toolExecutions]).refresh "t" =
        .ok [⟨"q", "limit retries", "limit retries"⟩] := rfl
    obtain ⟨run, named, verified⟩ :=
      (technical_complete_sound derived (by simp) evaluated).1 (Option.some.inj complete)
    cases named
    exact verified

open Sample in
/-- The affected-area test of a complete run may list no evidence of its own,
and nothing has to be recorded for the run as long as the result reports it. -/
theorem affected_regression_unbacked :
    ((evaluating []).toOption.map VerificationMatrixV2.technicalComplete = some true ∧
      ¬∃ action, Passed verifierEnv (verifierStore [agentResult (verifiedActions []) toolExecutions]) "t" "r"
        (reported [] []) "TEST_RESULT" action ∧ action.get "scope" = .str "affected-regression" ∧
        Backed verifierEnv (verifierStore [agentResult (verifiedActions []) toolExecutions]) "t" "r" [action]) ∧
    (evaluate verifierEnv (some (verifierStore [])) "t" (reported (verifiedActions [evidence]) toolExecutions)
        (some "r")).toOption.map VerificationMatrixV2.technicalComplete = some true ∧
      ¬∃ event, RunEvent (verifierStore []) "t" "r" event := by
  refine ⟨⟨by decide +kernel, ?_⟩, by decide +kernel, ?_⟩
  · rintro ⟨action, passed, scope, backed⟩
    have unlisted : ∀ action ∈ verifiedActions [], action.get "scope" = .str "affected-regression" →
        action.field? "evidence" = none := by
      decide
    rcases passed.recorded with ⟨event, inRun, items, atItems, inItems, -⟩ | ⟨-, inResult⟩
    · cases List.mem_singleton.mp inRun.stored
      cases atItems
      obtain ⟨_, atAction, item, listed, atListed, inListed, -⟩ := backed.listed
      cases List.mem_singleton.mp atAction
      unfold iterateKey at atListed
      rw [unlisted action inItems scope] at atListed
      cases atListed
      cases inListed
    · cases inResult
  · rintro ⟨event, inRun⟩
    cases inRun.stored

end SacmRuntime
