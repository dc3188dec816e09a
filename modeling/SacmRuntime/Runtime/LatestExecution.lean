import SacmRuntime.Runtime.VerifierSoundness

namespace SacmRuntime
open Checked

namespace Verifier

inductive Dimension where
  | build | focused | affected | contract | security | integrity
  deriving DecidableEq

/-- The action that decides a dimension: the latest of its kind. -/
def Dimension.action (actions : List Json) : Dimension → Option Json
  | .build => latest actions "BUILD_RESULT"
  | .focused => testAction actions "focused"
  | .affected => testAction actions "affected-regression"
  | .contract => latest actions "CONTRACT_COMPATIBILITY"
  | .security => latest actions "SECURITY_RESULT"
  | .integrity => latest actions "TEST_INTEGRITY"

def Dimension.status (matrix : VerificationMatrixV2) : Dimension → VerificationStatus
  | .build => matrix.buildStatus
  | .focused => matrix.regression.focusedTestStatus
  | .affected => matrix.regression.affectedAreaStatus
  | .contract => matrix.contractCompatibility.status
  | .security => matrix.securityStatus
  | .integrity => matrix.testIntegrity.status

section
variable (env : VerifierEnv)

def lastExecution (executions : List Json) (command : String) : Option Json :=
  executions.reverse.find? fun execution => executionCommand env execution == command

/-- The action names a command that returned another code than 0 when it was last executed. -/
def FailedLast (executions : List Json) (action : Json) : Prop :=
  commandOf env action ≠ "" ∧ ∃ execution, lastExecution env executions (commandOf env action) = some execution ∧
    isNonZeroInt (execution.get "returncode") = true

/-- What the matrix owes to the most recent executions. -/
structure MostRecentCounts (actions executions : List Json) (matrix : VerificationMatrixV2) : Prop where
  status : ∀ (dimension : Dimension) action, dimension.action actions = some action →
    FailedLast env executions action → dimension.status matrix ≠ .pass
  incomplete : matrix.technicalComplete = true → ∀ (dimension : Dimension) action,
    dimension.action actions = some action → ¬FailedLast env executions action

/-- The action does not pass for a reason of its own: it does not say so, its
command never returned 0, or its own fields report a failure. -/
def FailsAnyway (executions : List Json) (dimension : Dimension) (action : Json) : Prop :=
  action.get "passed" ≠ .bool true ∨
    (∀ execution ∈ executions, executionCommand env execution = commandOf env action →
      isZero (execution.get "returncode") = false) ∨
    (dimension ∈ [Dimension.contract, .security, .integrity] ∧ statusText env action = "FAIL") ∨
    dimension = .integrity ∧
      ((action.get "tests_removed").truthy = true ∨ (action.get "weakened_assertions").truthy = true)

def Required (db : Option VerifierDb) (taskId : String) : Prop :=
  ∃ d requirements, db = some d ∧ d.refresh taskId = .ok requirements ∧ requirements ≠ []

end

section
variable {env : VerifierEnv} {db : Option VerifierDb} {taskId : String} {runId : Option String} {result : AgentResult}
  {actions executions : List Json} {action : Json} {matrix : VerificationMatrixV2}
  {found : List RequirementVerificationV1}

theorem required_iff (checked : requirements env db taskId actions executions runId = .ok found) :
    Required db taskId ↔ found ≠ [] := by
  unfold requirements at checked
  cases db with
  | none =>
    cases checked
    refine iff_of_false ?_ (by simp)
    rintro ⟨d, _, none, -⟩
    cases none
  | some d =>
    obtain ⟨derived, atDerived, checked⟩ := bind_ok checked
    obtain ⟨tested, -, checked⟩ := bind_ok checked
    constructor
    · rintro ⟨_, again, same, atAgain, present⟩ empty
      cases same
      cases Except.ok.inj (atAgain.symm.trans atDerived)
      cases derived with
      | nil => exact present rfl
      | cons requirement rest =>
        obtain ⟨item, member, -⟩ := mapM_result checked List.mem_cons_self
        rw [empty] at member
        cases member
    · intro present
      refine ⟨d, derived, rfl, atDerived, ?_⟩
      rintro rfl
      cases checked
      exact present rfl

theorem listOf_nil {value : Json} {items : List Json} (listed : listOf value = .ok items) :
    items = [] ↔ value.truthy = false := by
  unfold listOf Json.orElse at listed
  by_cases truthy : value.truthy = true
  · rw [if_pos truthy] at listed
    refine iff_of_false ?_ (by simp [truthy])
    rintro rfl
    cases value with
    | arr items =>
      cases listed
      cases truthy
    | str text =>
      have empty : text.toList.map (fun c => Json.str (String.singleton c)) = [] := Except.ok.inj listed
      rw [List.map_eq_nil_iff, String.toList_eq_nil_iff] at empty
      subst empty
      cases truthy
    | obj fields =>
      have empty : fields.map (fun field => Json.str field.1) = [] := Except.ok.inj listed
      rw [List.map_eq_nil_iff] at empty
      subst empty
      cases truthy
    | _ => cases listed
  · rw [if_neg truthy] at listed
    cases listed
    exact iff_of_true rfl (Bool.not_eq_true _ ▸ truthy)

theorem actionPassed_false (named : commandOf env action ≠ "") :
    actionPassed env action executions = false ↔ action.get "passed" ≠ .bool true ∨
      ∀ execution ∈ executions, executionCommand env execution = commandOf env action →
        isZero (execution.get "returncode") = false := by
  unfold actionPassed
  rw [bne_iff_ne.mpr named, Bool.true_and, Bool.and_eq_false_iff, beq_eq_false_iff_ne, List.any_eq_false]
  simp only [Bool.and_eq_true, beq_iff_eq, not_and, Bool.not_eq_true]

theorem passedStatus_some : passedStatus env (some action) executions ≠ .pass ↔
    actionPassed env action executions = false := by
  unfold passedStatus
  cases passed : actionPassed env action executions <;> simp [passed]

theorem explicitStatus_some : explicitStatus env (some action) executions ≠ .pass ↔
    actionPassed env action executions = false ∨ statusText env action = "FAIL" := by
  unfold explicitStatus
  cases passed : actionPassed env action executions with
  | false => simp [passed]
  | true =>
    by_cases failed : statusText env action = "FAIL"
    · simp [failed]
    · simp [failed, passed]

/-- In a strict matrix, a dimension whose action names a command fails to pass
exactly for one of these reasons. -/
theorem strict_status {hashes : List String} (assembled : Assembled env actions executions hashes found matrix)
    {dimension : Dimension} (decides : dimension.action actions = some action) (named : commandOf env action ≠ "") :
    dimension.status matrix ≠ .pass ↔ FailsAnyway env executions dimension action := by
  unfold FailsAnyway
  rw [← or_assoc, ← actionPassed_false named]
  have proof := assembled.regression
  unfold regressionProof at proof
  obtain ⟨evidence, -, proof⟩ := bind_ok proof
  have regression := Except.ok.inj proof
  cases dimension with
  | build =>
    have status : Dimension.build.status matrix = passedStatus env (some action) executions := by
      rw [← decides]
      exact assembled.build
    rw [status, passedStatus_some]
    simp
  | focused =>
    have status : Dimension.focused.status matrix = passedStatus env (some action) executions := by
      rw [← decides]
      exact (congrArg RegressionProofV1.focusedTestStatus regression).symm
    rw [status, passedStatus_some]
    simp
  | affected =>
    have status : Dimension.affected.status matrix = passedStatus env (some action) executions := by
      rw [← decides]
      exact (congrArg RegressionProofV1.affectedAreaStatus regression).symm
    rw [status, passedStatus_some]
    simp
  | contract =>
    have status : Dimension.contract.status matrix = explicitStatus env (some action) executions := by
      rw [← decides]
      exact assembled.contract
    rw [status, explicitStatus_some]
    simp
  | security =>
    have status : Dimension.security.status matrix = explicitStatus env (some action) executions := by
      rw [← decides]
      exact assembled.security
    rw [status, explicitStatus_some]
    simp
  | integrity =>
    obtain ⟨removed, weakened, atRemoved, atWeakened, status⟩ := assembled.integrity
    have atAction : latest actions "TEST_INTEGRITY" = some action := decides
    rw [atAction] at atRemoved atWeakened status
    have noneRemoved := listOf_nil atRemoved
    have noneWeakened := listOf_nil atWeakened
    rw [show Dimension.integrity.status matrix = _ from status]
    split
    · rename_i intact
      rw [Bool.and_eq_true, List.isEmpty_iff, List.isEmpty_iff] at intact
      have kept := noneRemoved.mp intact.1
      have strong := noneWeakened.mp intact.2
      rw [explicitStatus_some]
      simp only [Option.getD_some] at kept strong
      simp [kept, strong]
    · rename_i touched
      refine iff_of_true (by simp) (.inr (.inr ⟨rfl, ?_⟩))
      rw [Bool.and_eq_true, List.isEmpty_iff, List.isEmpty_iff, noneRemoved, noneWeakened] at touched
      by_contra untouched
      simp only [not_or, Bool.not_eq_true] at untouched
      exact touched untouched

theorem strict_complete {hashes : List String} (assembled : Assembled env actions executions hashes found matrix)
    (complete : matrix.technicalComplete = true) (dimension : Dimension) : dimension.status matrix = .pass := by
  obtain ⟨-, build, regression, contract, security, integrity⟩ := assembled.complete complete
  have proof := assembled.regression
  unfold regressionProof at proof
  obtain ⟨evidence, -, proof⟩ := bind_ok proof
  have same := Except.ok.inj proof
  have pass := regression.1
  rw [← same] at pass
  dsimp only at pass
  split at pass
  · rename_i proved
    rw [Bool.and_eq_true, Option.any_eq_true, Option.any_eq_true] at proved
    obtain ⟨⟨focused, atFocused, focusedPassed⟩, affected, atAffected, affectedPassed⟩ := proved
    rw [Bool.and_eq_true, Bool.and_eq_true] at focusedPassed
    cases dimension with
    | build => exact build.1
    | focused =>
      change matrix.regression.focusedTestStatus = .pass
      rw [← same, atFocused]
      exact if_pos focusedPassed.1.1
    | affected =>
      change matrix.regression.affectedAreaStatus = .pass
      rw [← same, atAffected]
      exact if_pos affectedPassed
    | contract => exact contract.1
    | security => exact security.1
    | integrity => exact integrity.1
  · cases pass

end

end Verifier

open Verifier

/-- The most recent executions count exactly when every action whose command
failed last fails for a reason of its own, in a task with requirements, and
the result and the records claim no success, in one without. -/
theorem latest_execution_counts_iff {env : VerifierEnv} {db : Option VerifierDb} {taskId : String}
    {runId : Option String} {result : AgentResult} {actions executions : List Json} {matrix : VerificationMatrixV2}
    (collected : records db taskId result runId = .ok (actions, executions))
    (evaluated : evaluate env db taskId result runId = .ok matrix) :
    MostRecentCounts env actions executions matrix ↔
      ∀ (dimension : Dimension) action, dimension.action actions = some action → FailedLast env executions action →
        (Required db taskId → runId = none ∨ FailsAnyway env executions dimension action) ∧
          (¬Required db taskId → legacyComplete env result actions = .ok false) := by
  obtain ⟨_, _, found, again, checked, ending⟩ := evaluate_ok evaluated
  cases Except.ok.inj (again.symm.trans collected)
  have required := required_iff checked
  rcases ending with ⟨none, complete, decided, rfl⟩ | ⟨present, rfl, rfl⟩ | ⟨present, run, rfl, strict⟩
  · have unrequired : ¬Required db taskId := fun any => required.mp any none
    constructor
    · intro counts dimension action decides failed
      refine ⟨fun any => absurd any unrequired, fun _ => ?_⟩
      cases complete with
      | false => exact decided
      | true => exact absurd failed (counts.incomplete rfl dimension action decides)
    · intro condition
      have incomplete : ∀ (dimension : Dimension) action, dimension.action actions = some action →
          FailedLast env executions action → complete = false := by
        intro dimension action decides failed
        exact Except.ok.inj (decided.symm.trans ((condition dimension action decides failed).2 unrequired))
      constructor
      · intro dimension action decides failed
        rw [incomplete dimension action decides failed]
        cases dimension <;> simp [Dimension.status, legacyMatrix]
      · intro done dimension action decides failed
        have notDone := incomplete dimension action decides failed
        change complete = true at done
        rw [notDone] at done
        cases done
  · refine iff_of_true ⟨fun dimension _ _ _ => ?_, fun done => ?_⟩ ?_
    · cases dimension <;> simp [Dimension.status, missingRunMatrix]
    · cases done
    · exact fun _ _ _ _ => ⟨fun _ => .inl rfl, fun unrequired => absurd (required.mpr present) unrequired⟩
  · have assembled := strictMatrix_ok strict
    constructor
    · intro counts dimension action decides failed
      refine ⟨fun _ => .inr ?_, fun unrequired => absurd (required.mpr present) unrequired⟩
      exact (strict_status assembled decides failed.1).mp (counts.status dimension action decides failed)
    · intro condition
      have status : ∀ (dimension : Dimension) action, dimension.action actions = some action →
          FailedLast env executions action → dimension.status matrix ≠ .pass := by
        intro dimension action decides failed
        rcases (condition dimension action decides failed).1 (required.mpr present) with none | anyway
        · cases none
        · exact (strict_status assembled decides failed.1).mpr anyway
      exact ⟨status, fun complete dimension action decides failed =>
        status dimension action decides failed (strict_complete assembled complete dimension)⟩

namespace Sample

/-- The recorded fix, with further executions after it. -/
def laterStore (later : List Json) : VerifierDb :=
  verifierStore [agentResult (verifiedActions [evidence]) (toolExecutions ++ later)]

def evaluatingLater (later : List Json) : Except Error VerificationMatrixV2 :=
  evaluate verifierEnv (some (laterStore later)) "t" (reported [] []) (some "r")

theorem laterStore_records (later : List Json) (dicts : later.filter isDict = later) :
    records (some (laterStore later)) "t" (reported [] []) (some "r") =
      .ok (verifiedActions [evidence], toolExecutions ++ later) := by
  have kept : (toolExecutions ++ later).filter isDict = toolExecutions ++ later := by
    rw [List.filter_append, dicts]
    rfl
  change Except.ok (verifiedActions [evidence], (toolExecutions ++ later).filter isDict ++ []) = _
  rw [kept, List.append_nil]

end Sample

open Sample in
/-- Every command of the recorded fix returned 0 when it was last executed. -/
theorem latest_execution_sample :
    ∃ matrix, evaluatingLater [] = .ok matrix ∧
      MostRecentCounts verifierEnv (verifiedActions [evidence]) toolExecutions matrix := by
  have returned : (evaluatingLater []).toOption.map VerificationMatrixV2.technicalComplete = some true := by
    decide +kernel
  cases evaluated : evaluatingLater [] with
  | error e =>
    rw [evaluated] at returned
    cases returned
  | ok matrix =>
    refine ⟨matrix, rfl, (latest_execution_counts_iff (laterStore_records [] rfl) evaluated).mpr ?_⟩
    rintro dimension action decides ⟨-, execution, atLast, nonZero⟩
    have member := List.mem_reverse.mp (List.mem_of_find?_eq_some atLast)
    have command := List.find?_some atLast
    rw [beq_iff_eq] at command
    have onlyBase : ∀ execution ∈ toolExecutions, isNonZeroInt (execution.get "returncode") = true →
        executionCommand verifierEnv execution = "pytest base" := by
      decide
    have noneBase : ∀ action ∈ verifiedActions [evidence], commandOf verifierEnv action ≠ "pytest base" := by
      decide
    have inActions : action ∈ verifiedActions [evidence] := by
      cases dimension with
      | focused => exact (testAction_some decides).1
      | affected => exact (testAction_some decides).1
      | _ => exact (latest_some decides).1
    exact absurd (command.symm.trans (onlyBase execution member nonZero)) (noneBase action inActions)

open Sample in
/-- A build that succeeded once and failed when it was last run still passes,
and the run is technically complete. -/
theorem stale_build_passes :
    ∃ matrix, evaluatingLater [executionOf "make" 1] = .ok matrix ∧ matrix.technicalComplete = true ∧
      ¬MostRecentCounts verifierEnv (verifiedActions [evidence]) (toolExecutions ++ [executionOf "make" 1]) matrix := by
  have returned : (evaluatingLater [executionOf "make" 1]).toOption.map VerificationMatrixV2.technicalComplete =
      some true := by
    decide +kernel
  cases evaluated : evaluatingLater [executionOf "make" 1] with
  | error e =>
    rw [evaluated] at returned
    cases returned
  | ok matrix =>
    rw [evaluated] at returned
    have complete : matrix.technicalComplete = true := Option.some.inj returned
    refine ⟨matrix, rfl, complete, fun counts => counts.incomplete complete .build _ rfl ?_⟩
    exact ⟨by decide, _, rfl, rfl⟩

end SacmRuntime
