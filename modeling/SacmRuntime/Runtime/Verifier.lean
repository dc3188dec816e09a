import SacmRuntime.Runtime.Rows

namespace SacmRuntime

inductive Verifier.VerificationStatus where
  | pass | fail | missing | notApplicable
  deriving DecidableEq

inductive EvidenceIntegrity where
  | valid | invalid | missing
  deriving DecidableEq

structure RequirementVerificationV1 where
  requirementId : String
  requirementText : String
  status : Verifier.VerificationStatus
  implementationReferences : List String
  testReferences : List String
  verificationCommands : List String
  evidenceIntegrity : EvidenceIntegrity
  evidence : List Json

structure RegressionProofV1 where
  focusedTestStatus : Verifier.VerificationStatus
  failedBeforeFix : Bool
  affectedAreaStatus : Verifier.VerificationStatus
  commands : List String := []
  evidence : List Json := []
  status : Verifier.VerificationStatus

structure ContractCompatibilityResultV1 where
  status : Verifier.VerificationStatus
  checks : List String := []
  evidence : List Json := []

structure TestIntegrityResultV1 where
  status : Verifier.VerificationStatus
  testsRemoved : List String := []
  weakenedAssertions : List String := []
  evidence : List Json := []

structure VerificationMatrixV2 where
  taskId : String
  runId : Option String := none
  strict : Bool
  buildStatus : Verifier.VerificationStatus
  requirements : List RequirementVerificationV1
  regression : RegressionProofV1
  contractCompatibility : ContractCompatibilityResultV1
  securityStatus : Verifier.VerificationStatus
  testIntegrity : TestIntegrityResultV1
  technicalComplete : Bool
  evidenceComplete : Bool
  complete : Bool
  blockingReasons : List String

structure AgentResult where
  actions : List Json
  artifacts : List Json
  confidence : FloatText
  nextStateHint : String

structure Artifact where
  taskId : String
  contentHash : Option String
  metadata : Json

/-- A requirement as `TraceabilityService.refresh` reports it. -/
structure RequirementRead where
  id : String
  text : String
  normalizedText : String

/-- What the verifier reads of a session: the events in the order they are
stored, the artifacts, and the answer of `TraceabilityService.refresh`. -/
structure VerifierDb where
  events : List ContextEvent
  artifacts : List Artifact
  refresh : String → Except Error (List RequirementRead)

/-- The text functions the verifier uses (`str` of what is no string, `upper`,
`lower`, `TraceabilityService.normalize`) and the test `confidence >= 0.95`. -/
structure VerifierEnv where
  str : Json → String
  upper : String → String
  lower : String → String
  normalize : String → String
  confident : FloatText → Bool

namespace Verifier

def typeError {α : Type} (message : String) : Except Error α := .error (.other "TypeError" message)

/-- `str(value)`. -/
def textOf (env : VerifierEnv) : Json → String
  | .str s => s
  | other => env.str other

/-- The items a `for` loop over the value meets. -/
def iterate : Json → Except Error (List Json)
  | .arr items => .ok items
  | .str s => .ok (s.toList.map fun c => .str (String.singleton c))
  | .obj fields => .ok (fields.map fun field => .str field.1)
  | .null => typeError "'NoneType' object is not iterable"
  | .bool _ => typeError "'bool' object is not iterable"
  | .int _ => typeError "'int' object is not iterable"
  | .float _ => typeError "'float' object is not iterable"

/-- `list(value or [])`. -/
def listOf (value : Json) : Except Error (List Json) := iterate (value.orElse (.arr []))

/-- `d.get(key, [])`, and a loop over it. -/
def iterateKey (j : Json) (key : String) : Except Error (List Json) := iterate ((j.field? key).getD (.arr []))

def isDict : Json → Bool
  | .obj _ => true
  | _ => false

/-- `value in texts`, for a set of texts. -/
def memberOf (texts : List String) : Json → Except Error Bool
  | .str s => .ok (texts.contains s)
  | .arr _ => typeError "unhashable type: 'list'"
  | .obj _ => typeError "unhashable type: 'dict'"
  | _ => .ok false

/-- The validation of a `list[str]` field. -/
def strings : List Json → Except Error (List String)
  | [] => .ok []
  | .str s :: rest => (strings rest).map (s :: ·)
  | _ :: _ => .error (.other "ValidationError" "Input should be a valid string")

/-- `value == 0`. -/
def isZero : Json → Bool
  | .bool b => !b
  | .int n => n == 0
  | .float x => x.text == ['0', '.', '0'] || x.text == ['-', '0', '.', '0']
  | _ => false

/-- `isinstance(value, int) and value != 0`. -/
def isNonZeroInt : Json → Bool
  | .bool b => b
  | .int n => n != 0
  | _ => false

section
variable (env : VerifierEnv)

/-- `str(action.get("command") or "")`. -/
def commandOf (action : Json) : String := textOf env ((action.get "command").orElse (.str ""))

/-- `_execution_command`. -/
def executionCommand (execution : Json) : String :=
  textOf env (((execution.get "command").orElse (execution.get "tool")).orElse (.str ""))

/-- `_action_passed`. -/
def actionPassed (action : Json) (executions : List Json) : Bool :=
  commandOf env action != "" && action.get "passed" == .bool true &&
    executions.any fun execution =>
      executionCommand env execution == commandOf env action && isZero (execution.get "returncode")

/-- `_base_failed`. -/
def baseFailed (action : Json) (executions : List Json) : Bool :=
  let command := textOf env ((action.get "base_revision_command").orElse (.str ""))
  command != "" && executions.any fun execution =>
    executionCommand env execution == command && isNonZeroInt (execution.get "returncode")

/-- `_latest`. -/
def latest (actions : List Json) (actionType : String) : Option Json :=
  actions.reverse.find? fun action => action.get "type" == .str actionType

/-- `_test_action`. -/
def testAction (actions : List Json) (scope : String) : Option Json :=
  actions.reverse.find? fun action => action.get "type" == .str "TEST_RESULT" && action.get "scope" == .str scope

/-- `_passed_status`. -/
def passedStatus (action : Option Json) (executions : List Json) : VerificationStatus :=
  match action with
  | none => .missing
  | some action => if actionPassed env action executions then .pass else .fail

/-- The text of the action's own `status`. -/
def statusText (action : Json) : String := env.upper (textOf env ((action.get "status").orElse (.str "")))

/-- `_explicit_status`. -/
def explicitStatus (action : Option Json) (executions : List Json) : VerificationStatus :=
  match action with
  | none => .missing
  | some action =>
    if statusText env action = "PASS" then if actionPassed env action executions then .pass else .fail
    else if statusText env action = "FAIL" then .fail
    else if actionPassed env action executions then .pass
    else .fail

/-- `_integrity`. -/
def integrity (action : Json) : EvidenceIntegrity :=
  let integrity := env.upper (textOf env ((action.get "evidence_integrity").orElse (.str "MISSING")))
  if integrity = "VALID" then .valid else if integrity = "INVALID" then .invalid else .missing

/-- `_commands`. -/
def commands (actions : List (Option Json)) : List String :=
  ((actions.filterMap id).filter fun action => (action.get "command").truthy).map (commandOf env)

/-- `_evidence`. -/
def evidenceOf (actions : List (Option Json)) : Except Error (List Json) := do
  let evidence ← (actions.filterMap id).mapM fun action => iterateKey action "evidence"
  .ok (evidence.flatten.filter isDict)

/-- `_valid_evidence`. -/
def validEvidence (evidence : List Json) (artifactHashes : List String) : Bool :=
  !evidence.isEmpty && evidence.all fun item =>
    match item.get "sha256" with
    | .str hash => artifactHashes.contains (env.lower hash)
    | _ => false

/-- `_artifact_hashes`. -/
def artifactHashes (db : Option VerifierDb) (taskId : String) (runId : Option String) : List String :=
  match db, runId with
  | some d, some runId =>
    (d.artifacts.filter fun row => row.taskId == taskId && row.metadata.get "run_id" == .str runId).filterMap fun row =>
      row.contentHash.map env.lower
  | _, _ => []

/-- The `agent_result` events of the task, oldest first. -/
def agentResults (d : VerifierDb) (taskId : String) : List ContextEvent :=
  (d.events.filter fun event => event.taskId == taskId && event.eventType == "agent_result").insertionSort fun a b =>
    a.createdAt < b.createdAt ∨ a.createdAt = b.createdAt ∧ a.id ≤ b.id

/-- Is the event one of the run, when a run is asked for? -/
def ofRun (runId : Option String) (event : ContextEvent) : Except Error Bool :=
  match (event.payload.get "agent_task_contract").orElse (.obj []) with
  | .obj fields => .ok (runId.all fun runId => (Json.obj fields).get "run_id" == .str runId)
  | _ => if runId.isSome then .error (.attributeError "agent_task_contract has no attribute 'get'") else .ok true

/-- The actions and tool executions that events record. -/
def recorded (runId : Option String) : List ContextEvent → Except Error (List Json × List Json)
  | [] => .ok ([], [])
  | event :: rest => do
    let kept ← ofRun runId event
    if kept then
      let actions ← iterateKey event.payload "actions"
      let executions ← iterateKey event.payload "tool_execution"
      let later ← recorded runId rest
      .ok (actions.filter isDict ++ later.1, executions.filter isDict ++ later.2)
    else recorded runId rest

/-- `_records`. -/
def records (db : Option VerifierDb) (taskId : String) (result : AgentResult) (runId : Option String) :
    Except Error (List Json × List Json) := do
  let found ← match db with
    | none => .ok ([], [])
    | some d => recorded runId (agentResults d taskId)
  if found.1.isEmpty then
    .ok (result.actions, found.2 ++ result.artifacts.filter fun item => item.get "type" == .str "tool_execution")
  else .ok found

def executedTests (actions executions : List Json) : Except Error (List String) := do
  let tests ← (actions.filter fun action =>
    action.get "type" == .str "TEST_RESULT" && actionPassed env action executions).mapM fun action =>
      iterateKey action "tests"
  .ok (tests.flatten.map (textOf env))

def verifies (requirement : RequirementRead) (action : Json) : Bool :=
  action.get "requirement_id" == .str requirement.id ||
    env.normalize (textOf env ((action.get "requirement_text").orElse (.str ""))) == requirement.normalizedText

/-- The test of `_requirements` that decides whether the action verifies its requirement. -/
def requirementPassed (action : Option Json) (implementation tests commands evidence : List Json)
    (executed tested hashes : List String) : Except Error Bool :=
  let given := action.getD (.obj [])
  if action.isSome && given.get "passed" == .bool true && !implementation.isEmpty && !tests.isEmpty &&
      !commands.isEmpty && integrity env given == .valid then do
    let ran ← commands.allM (memberOf executed)
    if ran then do
      let covered ← tests.allM (memberOf tested)
      .ok (covered && validEvidence env evidence hashes)
    else .ok false
  else .ok false

/-- What `_requirements` says of one requirement. -/
def requirementOf (actions executions : List Json) (tested : List String) (hashes : List String)
    (requirement : RequirementRead) : Except Error RequirementVerificationV1 := do
  let submitted := actions.filter fun action => action.get "type" == .str "REQUIREMENT_VERIFICATION"
  let executed := (executions.filter fun execution => isZero (execution.get "returncode")).map (executionCommand env)
  let action := submitted.reverse.find? (verifies env requirement)
  let given := action.getD (.obj [])
  let implementation ← listOf (given.get "implementation_references")
  let tests ← listOf (given.get "test_references")
  let commands ← listOf (given.get "verification_commands")
  let evidence ← evidenceOf [action]
  let passed ← requirementPassed env action implementation tests commands evidence executed tested hashes
  let implementationReferences ← strings implementation
  let testReferences ← strings tests
  let verificationCommands ← strings commands
  .ok { requirementId := requirement.id, requirementText := requirement.text,
        status := if passed then .pass else .missing, implementationReferences := implementationReferences,
        testReferences := testReferences, verificationCommands := verificationCommands,
        evidenceIntegrity := integrity env given, evidence := evidence }

/-- `_requirements`. -/
def requirements (db : Option VerifierDb) (taskId : String) (actions executions : List Json)
    (runId : Option String) : Except Error (List RequirementVerificationV1) :=
  match db with
  | none => .ok []
  | some d => do
    let traceability ← d.refresh taskId
    let tested ← executedTests env actions executions
    traceability.mapM (requirementOf env actions executions tested (artifactHashes env db taskId runId))

/-- Does the action claim a build, a test or a verification that succeeded? -/
def successful (action : Json) : Except Error Bool := do
  let verification ← memberOf ["BUILD_RESULT", "TEST_RESULT", "VERIFICATION"] (action.get "type")
  .ok (verification && (action.get "passed" == .bool true || action.get "success" == .bool true))

/-- `has_successful_verification`. -/
def hasSuccessfulVerification (result : AgentResult) : Except Error Bool := do
  let claimed ← result.actions.anyM successful
  .ok (claimed || result.artifacts.any fun artifact =>
    artifact.get "type" == .str "verification" && artifact.get "passed" == .bool true)

/-- When a task without requirements counts as verified. -/
def legacyComplete (result : AgentResult) (actions : List Json) : Except Error Bool := do
  let reported ← hasSuccessfulVerification result
  let recorded ← if reported then .ok false else actions.anyM successful
  .ok ((reported || recorded) && result.nextStateHint != "blocked" && result.nextStateHint != "debugging" &&
    (result.nextStateHint == "done" || env.confident result.confidence))

/-- `_legacy_matrix`. -/
def legacyMatrix (taskId : String) (runId : Option String) (complete : Bool)
    (requirements : List RequirementVerificationV1) : VerificationMatrixV2 :=
  let status : VerificationStatus := if complete then .pass else .missing
  { taskId := taskId, runId := runId, strict := false, buildStatus := status, requirements := requirements,
    regression := { focusedTestStatus := status, failedBeforeFix := complete, affectedAreaStatus := status,
                    status := status },
    contractCompatibility := { status := .notApplicable }, securityStatus := .notApplicable,
    testIntegrity := { status := status }, technicalComplete := complete, evidenceComplete := complete,
    complete := complete, blockingReasons := if complete then [] else ["No successful verification."] }

/-- `_missing_run_matrix`. -/
def missingRunMatrix (taskId : String) (requirements : List RequirementVerificationV1) : VerificationMatrixV2 where
  taskId := taskId
  strict := true
  buildStatus := .missing
  requirements := requirements
  regression := { focusedTestStatus := .missing, failedBeforeFix := false, affectedAreaStatus := .missing,
                  status := .missing }
  contractCompatibility := { status := .missing }
  securityStatus := .missing
  testIntegrity := { status := .missing }
  technicalComplete := false
  evidenceComplete := false
  complete := false
  blockingReasons := ["Strict verification requires an explicit run identifier."]

/-- The reason a dimension blocks for: its status, or else its evidence. -/
def blocker (status : VerificationStatus) (evidenceValid : Bool) (unverified unbacked : String) : List String :=
  if status ≠ .pass then [unverified] else if evidenceValid then [] else [unbacked]

/-- The regression proof that the two test results give. -/
def regressionProof (focused affected : Option Json) (executions : List Json) :
    Except Error RegressionProofV1 := do
  let evidence ← evidenceOf [focused, affected]
  .ok { focusedTestStatus := passedStatus env focused executions
        failedBeforeFix := focused.any (baseFailed env · executions)
        affectedAreaStatus := passedStatus env affected executions
        commands := commands env [focused, affected]
        evidence := evidence
        status :=
          if (focused.any fun focused => actionPassed env focused executions &&
                focused.get "failed_before_fix" == .bool true && baseFailed env focused executions) &&
              affected.any (actionPassed env · executions) then .pass
          else .fail }

/-- The part of `evaluate` for a task with requirements and a run. -/
def strictMatrix (taskId runId : String) (actions executions : List Json) (hashes : List String)
    (requirements : List RequirementVerificationV1) : Except Error VerificationMatrixV2 := do
  let build := latest actions "BUILD_RESULT"
  let buildStatus := passedStatus env build executions
  let buildEvidence ← evidenceOf [build]
  let regression ← regressionProof env (testAction actions "focused") (testAction actions "affected-regression")
    executions
  let contractAction := latest actions "CONTRACT_COMPATIBILITY"
  let checks ← listOf ((contractAction.getD (.obj [])).get "checks")
  let contractEvidence ← evidenceOf [contractAction]
  let contractChecks ← strings checks
  let contract : ContractCompatibilityResultV1 :=
    { status := explicitStatus env contractAction executions, checks := contractChecks, evidence := contractEvidence }
  let securityAction := latest actions "SECURITY_RESULT"
  let securityStatus := explicitStatus env securityAction executions
  let securityEvidence ← evidenceOf [securityAction]
  let integrityAction := latest actions "TEST_INTEGRITY"
  let removed ← listOf ((integrityAction.getD (.obj [])).get "tests_removed")
  let weakened ← listOf ((integrityAction.getD (.obj [])).get "weakened_assertions")
  let integrityEvidence ← evidenceOf [integrityAction]
  let testsRemoved ← strings removed
  let weakenedAssertions ← strings weakened
  let testIntegrity : TestIntegrityResultV1 :=
    { status := if removed.isEmpty && weakened.isEmpty then explicitStatus env integrityAction executions else .fail
      testsRemoved := testsRemoved, weakenedAssertions := weakenedAssertions, evidence := integrityEvidence }
  let blocking :=
    (if requirements.any fun item => item.status ≠ .pass then
      ["Not all mandatory acceptance criteria are verified."] else []) ++
    blocker buildStatus (validEvidence env buildEvidence hashes) "Build verification is not passing."
      "Build evidence is missing or invalid." ++
    blocker regression.status (validEvidence env regression.evidence hashes)
      "Regression proof must pass and fail on the pre-fix revision." "Regression evidence is missing or invalid." ++
    blocker contract.status (validEvidence env contract.evidence hashes)
      "API/schema compatibility is not verified." "Contract compatibility evidence is invalid." ++
    blocker securityStatus (validEvidence env securityEvidence hashes) "Security verification is not passing."
      "Security evidence is missing or invalid." ++
    blocker testIntegrity.status (validEvidence env testIntegrity.evidence hashes)
      "Tests were removed, weakened, or not integrity-checked." "Test-integrity evidence is missing or invalid."
  .ok { taskId := taskId, runId := some runId, strict := true, buildStatus := buildStatus,
        requirements := requirements, regression := regression, contractCompatibility := contract,
        securityStatus := securityStatus, testIntegrity := testIntegrity, technicalComplete := blocking.isEmpty,
        evidenceComplete := false, complete := false,
        blockingReasons := blocking ++ ["A verified Evidence Pack is required."] }

/-- `evaluate`. -/
def evaluate (db : Option VerifierDb) (taskId : String) (result : AgentResult) (runId : Option String) :
    Except Error VerificationMatrixV2 := do
  let (actions, executions) ← records db taskId result runId
  let requirements ← requirements env db taskId actions executions runId
  if requirements.isEmpty then
    let complete ← legacyComplete env result actions
    .ok (legacyMatrix taskId runId complete requirements)
  else
    match runId with
    | none => .ok (missingRunMatrix taskId requirements)
    | some run => strictMatrix env taskId run actions executions (artifactHashes env db taskId runId) requirements

end

/-- `finalize_evidence`. -/
def finalizeEvidence (matrix : VerificationMatrixV2) (evidenceValid : Bool) : VerificationMatrixV2 :=
  { matrix with
    evidenceComplete := evidenceValid
    complete := matrix.technicalComplete && evidenceValid
    blockingReasons := matrix.blockingReasons.filter (· ≠ "A verified Evidence Pack is required.") ++
      if evidenceValid then [] else ["Evidence Pack integrity verification failed."] }

end Verifier

end SacmRuntime
