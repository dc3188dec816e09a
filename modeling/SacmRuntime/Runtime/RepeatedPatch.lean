import SacmRuntime.Runtime.DiagnosticService
import SacmRuntime.Runtime.RecoveryBudget

namespace SacmRuntime
open Session RecoveryService Json

/-- The validators keep what they are given: `patch_hash` of a bundle, and the
details and the fingerprint of a report; a digest is not empty. -/
structure DiagnosticTools.Faithful (tools : DiagnosticTools) (sha256 : String → String) : Prop where
  bundle : ∀ value bundle, tools.validateBundle value = .ok bundle →
    Json.ofOption bundle.patchHash = value.get "patch_hash"
  details : ∀ value report, tools.validateReport value = .ok report →
    report.details.get "patch_hash" = (value.get "details").get "patch_hash"
  fingerprint : ∀ value report, tools.validateReport value = .ok report →
    Json.ofOption report.diagnosisFingerprint = value.get "diagnosis_fingerprint"
  digest : ∀ text, sha256 text ≠ ""

/-- The patch hash a failure gives: in its bundle, in its details, or at top level. -/
def givenHash (failure : Json) : Json :=
  ((failure.get "diagnostic_bundle").get "patch_hash").orElse
    (((failure.get "details").get "patch_hash").orElse (failure.get "patch_hash"))

/-- The patch hash that reaches the details of its report: a report keeps the
one in its details, a failure with a bundle only the one in the bundle. -/
def keptHash (failure : Json) : Json :=
  if DiagnosticService.isReport failure then (failure.get "details").get "patch_hash"
  else if (failure.get "diagnostic_bundle").truthy then (failure.get "diagnostic_bundle").get "patch_hash"
  else ((failure.get "details").get "patch_hash").orElse (failure.get "patch_hash")

theorem Json.get_of_not_truthy {j : Json} (falsy : ¬j.truthy) (key : String) : j.get key = .null := by
  cases j with
  | obj fields =>
    cases fields with
    | nil => rfl
    | cons field rest => simp [truthy] at falsy
  | _ => rfl

theorem Json.get_orElse_empty (j : Json) (key : String) : (j.orElse (.obj [])).get key = j.get key := by
  unfold orElse
  split
  · rfl
  · rename_i falsy
    rw [get_of_not_truthy falsy]
    rfl

namespace DiagnosticService

theorem bind_ok {α β : Type} {x : Except Error α} {f : α → Except Error β} {b : β} (ok : (x >>= f) = .ok b) :
    ∃ a, x = .ok a ∧ f a = .ok b := by
  cases x with
  | error e => cases ok
  | ok a => exact ⟨a, rfl, ok⟩

section
variable {tools : DiagnosticTools} {sha256 : String → String} {failure : Json} {report : FailureReportV1}

theorem requireDict_ok {value details : Json} (required : requireDict value = .ok details) : details = value := by
  unfold requireDict at required
  split at required
  · exact (Except.ok.inj required).symm
  · cases required

section
variable (faithful : tools.Faithful sha256)
include faithful

theorem givenBundle_patchHash {given : DiagnosticBundleV2} (made : givenBundle tools failure = .ok given) :
    ofOption given.patchHash =
      if (failure.get "diagnostic_bundle").truthy then (failure.get "diagnostic_bundle").get "patch_hash"
      else ((failure.get "details").get "patch_hash").orElse (failure.get "patch_hash") := by
  unfold givenBundle at made
  dsimp only at made
  split at made
  · rename_i supplied
    rw [if_pos supplied]
    exact faithful.bundle _ _ made
  · rename_i unsupplied
    rw [if_neg unsupplied]
    obtain ⟨details, required, made⟩ := bind_ok made
    obtain ⟨symbols, -, made⟩ := bind_ok made
    obtain ⟨requirements, -, made⟩ := bind_ok made
    obtain ⟨graph, -, made⟩ := bind_ok made
    have same : details.get "patch_hash" = (failure.get "details").get "patch_hash" := by
      rw [requireDict_ok required]
      exact get_orElse_empty _ _
    rw [faithful.bundle _ _ made, ← same]
    rfl

theorem bundle_patchHash {made : DiagnosticBundleV2} (ok : bundle tools failure = .ok made) :
    ofOption made.patchHash =
      if (failure.get "diagnostic_bundle").truthy then (failure.get "diagnostic_bundle").get "patch_hash"
      else ((failure.get "details").get "patch_hash").orElse (failure.get "patch_hash") := by
  unfold bundle at ok
  obtain ⟨given, from_, parsed⟩ := bind_ok ok
  rw [← givenBundle_patchHash faithful from_]
  split at parsed <;> cases parsed <;> rfl

theorem diagnose_patchHash (ok : diagnose tools sha256 failure = .ok report) :
    report.details.get "patch_hash" = keptHash failure := by
  unfold diagnose at ok
  unfold keptHash
  split at ok
  · rename_i made_before
    rw [if_pos made_before]
    exact faithful.details _ _ ok
  · rename_i raw
    rw [if_neg raw]
    obtain ⟨made, bundled, ok⟩ := bind_ok ok
    obtain ⟨_, -, ok⟩ := bind_ok ok
    obtain ⟨legacy, -, ok⟩ := bind_ok ok
    obtain ⟨given, -, ok⟩ := bind_ok ok
    cases ok
    rw [← bundle_patchHash faithful bundled]
    exact get_set_self _ _ _

theorem diagnose_fingerprint (ok : diagnose tools sha256 failure = .ok report) :
    (ofOption report.diagnosisFingerprint).truthy = true := by
  unfold diagnose at ok
  split at ok
  · rename_i made_before
    rw [faithful.fingerprint _ _ ok]
    unfold isReport at made_before
    simp only [Bool.and_eq_true] at made_before
    exact made_before.2
  · obtain ⟨made, bundled, ok⟩ := bind_ok ok
    obtain ⟨_, -, ok⟩ := bind_ok ok
    obtain ⟨legacy, -, ok⟩ := bind_ok ok
    obtain ⟨given, -, ok⟩ := bind_ok ok
    cases ok
    simp [ofOption, truthy, fingerprint, faithful.digest]

end

end

end DiagnosticService

/-- Some recorded failure kept the hash this failure kept, with the same fingerprint. -/
def RepeatsKept (run : Run) (failure : Json) (fingerprint : Option String) : Prop :=
  (keptHash failure).truthy ∧ ∃ entry ∈ run.recoveryHistory,
    (entry.get "failure").get "diagnosis_fingerprint" = .ofOption fingerprint ∧
      ((entry.get "failure").get "details").get "patch_hash" = keptHash failure

/-- The decision is an escalation for a reason of its own: an escalation is
asked for, the budget is used up, the failure cannot be retried, or nothing is
asked for and the confidence is too low. -/
def EscalatesAnyway (env : Env) (run : Run) (report : FailureReportV1) (requested : Option RecoveryAction) : Prop :=
  requested = some .escalate ∨ env.maxRecoveryAttempts < run.recoveryAttemptCount + 1 ∨ report.retryable = false ∨
    (requested = none ∧ report.confidence.value < env.minimumConfidence)

section
variable {env : Env} {tools : DiagnosticTools} {run : Run} {failure : Json} {report : FailureReportV1}
  {requested : Option RecoveryAction} {decision : RecoveryDecisionV1}

theorem repeatedIdenticalPatch_iff (faithful : tools.Faithful env.sha256)
    (diagnosed : DiagnosticService.diagnose tools env.sha256 failure = .ok report) :
    repeatedIdenticalPatch run.recoveryHistory report = true ↔
      RepeatsKept run failure report.diagnosisFingerprint := by
  have hash := DiagnosticService.diagnose_patchHash faithful diagnosed
  have named := DiagnosticService.diagnose_fingerprint faithful diagnosed
  unfold repeatedIdenticalPatch RepeatsKept
  rw [hash]
  cases kept : (keptHash failure).truthy <;> simp [kept, named]

theorem escalated_iff (decides : decide env run report requested = .ok decision) :
    decision.status = .escalated ↔ EscalatesAnyway env run report requested ∨
      repeatedIdenticalPatch run.recoveryHistory report = true := by
  have decided := decided_of_decide decides
  have never : actionByFailure report.classification ≠ .escalate := by
    cases report.classification <;> simp [actionByFailure]
  have status : decision.status = .escalated ↔ blocked env report run.recoveryAttemptCount
      run.recoveryHistory requested = true ∨ requested = some .escalate := by
    rw [decided.status, decided.action]
    by_cases blocked : blocked env report run.recoveryAttemptCount
        ((run.recoveryState.getD .null).get "history").items requested = true
    · exact iff_of_true (by simp [blocked]) (.inl blocked)
    · rw [if_neg blocked]
      refine Iff.trans ?_ (or_iff_right blocked).symm
      cases requested <;> simp [never]
  rw [status]
  unfold blocked EscalatesAnyway
  simp only [Bool.or_eq_true, Bool.and_eq_true, decide_eq_true_eq, Bool.not_eq_true', Option.isNone_iff_eq_none,
    gt_iff_lt]
  tauto

/-- The failure gives a patch hash, and the run has recorded a failure that
gave the same one and was diagnosed with the same fingerprint. -/
def RepeatsGiven (env : Env) (run : Run) (failure : Json) (fingerprint : Option String) : Prop :=
  (givenHash failure).truthy ∧ ∃ entry ∈ run.recoveryHistory, ∃ source report, env.diagnose source = .ok report ∧
    entry.get "failure" = report.modelDump ∧ givenHash source = givenHash failure ∧
    report.diagnosisFingerprint = fingerprint

/-- An identical patch and root cause is escalated exactly if there is another
reason to, or the hash of the failure reached its report and an earlier report
with the same fingerprint has it too. -/
theorem identical_patch_escalates_iff {runId stepId : String} {commits : Bool} {s t : Session Db} {result : RunStep}
    (faithful : tools.Faithful env.sha256) (diagnoses : env.diagnose = DiagnosticService.diagnose tools env.sha256)
    (found : s.working.run? runId = some run)
    (handled : RecoveryService.handle env runId stepId failure requested commits s =
      (.ok (result, report, decision), t)) :
    (RepeatsGiven env run failure report.diagnosisFingerprint → decision.status = .escalated) ↔
      (RepeatsGiven env run failure report.diagnosisFingerprint →
        EscalatesAnyway env run report requested ∨ RepeatsKept run failure report.diagnosisFingerprint) := by
  obtain ⟨row, step, atRun, -, -, diagnosed, decides, -⟩ := handle_ok handled
  rw [found] at atRun
  cases atRun
  rw [diagnoses] at diagnosed
  rw [escalated_iff decides, repeatedIdenticalPatch_iff faithful diagnosed]

end

namespace Sample

/-- A validator of bundles, for objects without evidence. -/
def validBundle (value : Json) : Except Error DiagnosticBundleV2 :=
  let made (patchHash : Option String) : DiagnosticBundleV2 :=
    { command := (value.get "command").str?, exitCode := none, tool := (value.get "tool").str?,
      rawOutput := (value.get "raw_output").str?, compilerDiagnostics := [], failedTests := [], stackTraces := [],
      changedSymbols := [], affectedRequirements := [], environmentErrors := [], previousAttempts := [],
      graphContext := .obj [], rootCauseAnalysis := .null, patchHash := patchHash }
  match value.get "patch_hash" with
  | .str hash => .ok (made (some hash))
  | .null => .ok (made none)
  | _ => .error (.valueError "patch_hash")

def tools : DiagnosticTools where
  search _ _ := false
  parse _ _ := ⟨[], [], []⟩
  validateBundle := validBundle
  validateReport _ := .error (.valueError "no report")
  validateEvidence _ := .error (.valueError "no evidence")
  str value := value.str?.getD ""
  list value := .ok value
  dict value := .ok value
  float _ := .error (.valueError "no number")
  dumps _ := "\x7b\x7d"
  lower := id
  lines text := [text]
  occursIn _ _ := false
  calibrate confidence _ _ := confidence

def digest (text : String) : String := "sha256 " ++ text

def diagnosing : Env := { env with sha256 := digest, diagnose := DiagnosticService.diagnose tools digest }

theorem tools_faithful : tools.Faithful digest where
  bundle value bundle made := by
    change validBundle value = .ok bundle at made
    unfold validBundle at made
    dsimp only at made
    split at made <;> cases made <;> simp_all [ofOption]
  details _ _ made := by cases made
  fingerprint _ _ made := by cases made
  digest text := by simp [digest]

/-- A failed build whose patch hash is in its details; with or without a bundle. -/
def failedBuild (bundle : Json) : Json :=
  .obj [("type", .str "CompilationError"), ("message", .str "build failed"),
    ("details", .obj [("patch_hash", .str "p1")]), ("diagnostic_bundle", bundle)]

def recordedOnce (failure : Json) : Json :=
  match diagnosing.diagnose failure with
  | .ok report => .obj [("history", .arr [.obj [("failure", report.modelDump)]])]
  | .error _ => .null

/-- A failed step of a run that has recorded the failure once. -/
def failedAgain (failure : Json) : Db :=
  { store .failed .failed with
    runs := .ofRows [{ newRun "r" task .failed 0 with
      recoveryState := some (recordedOnce failure), recoveryAttemptCount := 1 }] }

section
variable {failure : Json} {report : FailureReportV1} {run : Run}

theorem failedAgain_history (diagnosed : diagnosing.diagnose failure = .ok report)
    (found : (failedAgain failure).run? "r" = some run) :
    run.recoveryHistory = [.obj [("failure", report.modelDump)]] := by
  have recorded : recordedOnce failure = .obj [("history", .arr [.obj [("failure", report.modelDump)]])] := by
    unfold recordedOnce
    rw [diagnosed]
  have same : run = { newRun "r" task .failed 0 with
      recoveryState := some (recordedOnce failure), recoveryAttemptCount := 1 } := (Option.some.inj found).symm
  rw [same, recorded]
  rfl

theorem failedAgain_repeats (diagnosed : diagnosing.diagnose failure = .ok report) (given : (givenHash failure).truthy)
    (found : (failedAgain failure).run? "r" = some run) :
    RepeatsGiven diagnosing run failure report.diagnosisFingerprint := by
  refine ⟨given, .obj [("failure", report.modelDump)], ?_, failure, report, diagnosed, rfl, rfl, rfl⟩
  rw [failedAgain_history diagnosed found]
  exact List.mem_singleton_self _

end

def handledAgain (failure : Json) : Except Error (RunStep × FailureReportV1 × RecoveryDecisionV1) × Session Db :=
  RecoveryService.handle diagnosing "r" "s" failure none true (start (failedAgain failure) supply)

theorem handledAgain_ok (failure : Json) (status : RecoveryStatus)
    (returned : (handledAgain failure).1.toOption.map (fun handled => handled.2.2.status) = some status) :
    ∃ result report decision t, handle diagnosing "r" "s" failure none true
        (start (failedAgain failure) supply) = (.ok (result, report, decision), t) ∧
      diagnosing.diagnose failure = .ok report ∧ decision.status = status := by
  rcases handled : handledAgain failure with ⟨outcome, t⟩
  rw [handled] at returned
  cases outcome with
  | error e => cases returned
  | ok value =>
    obtain ⟨result, report, decision⟩ := value
    obtain ⟨_, _, _, _, _, diagnosed, _, _⟩ := handle_ok handled
    exact ⟨result, report, decision, t, handled, diagnosed, Option.some.inj returned⟩

end Sample

open Sample in
/-- The hash of a failure with a bundle is lost, and the same patch is retried. -/
theorem identical_patch_retried :
    let failure := failedBuild (.obj [("raw_output", .str "build failed")])
    tools.Faithful diagnosing.sha256 ∧ ∃ run result report decision t, (failedAgain failure).run? "r" = some run ∧
      RecoveryService.handle diagnosing "r" "s" failure none true (start (failedAgain failure) supply) =
        (.ok (result, report, decision), t) ∧
      RepeatsGiven diagnosing run failure report.diagnosisFingerprint ∧ decision.status ≠ .escalated := by
  intro failure
  obtain ⟨result, report, decision, t, handled, diagnosed, scheduled⟩ :=
    handledAgain_ok failure .scheduled (by decide +kernel)
  obtain ⟨run, found⟩ : ∃ run, (failedAgain failure).run? "r" = some run := ⟨_, rfl⟩
  refine ⟨tools_faithful, run, result, report, decision, t, found, handled, failedAgain_repeats diagnosed rfl found, ?_⟩
  rw [scheduled]
  decide

open Sample in
/-- Without a bundle the hash in the details counts. -/
theorem identical_patch_stopped : ∃ (run : Run) (report : FailureReportV1) (decision : RecoveryDecisionV1),
    (failedAgain (failedBuild .null)).run? "r" = some run ∧ diagnosing.diagnose (failedBuild .null) = .ok report ∧
      RepeatsGiven diagnosing run (failedBuild .null) report.diagnosisFingerprint ∧ decision.status = .escalated := by
  obtain ⟨result, report, decision, t, handled, diagnosed, -⟩ :=
    handledAgain_ok (failedBuild .null) .escalated (by decide +kernel)
  obtain ⟨run, found⟩ : ∃ run, (failedAgain (failedBuild .null)).run? "r" = some run := ⟨_, rfl⟩
  have repeats := failedAgain_repeats diagnosed rfl found
  have repeated : ∀ report ∈ (diagnosing.diagnose (failedBuild .null)).toOption,
      repeatedIdenticalPatch [.obj [("failure", report.modelDump)]] report = true := by decide +kernel
  have kept : RepeatsKept run (failedBuild .null) report.diagnosisFingerprint := by
    have made : DiagnosticService.diagnose tools diagnosing.sha256 (failedBuild .null) = .ok report := diagnosed
    refine (repeatedIdenticalPatch_iff tools_faithful made).mp ?_
    rw [failedAgain_history diagnosed found]
    exact repeated report (by rw [diagnosed]; rfl)
  exact ⟨run, report, decision, found, diagnosed, repeats,
    (identical_patch_escalates_iff tools_faithful rfl found handled).mpr (fun _ => .inr kept) repeats⟩

end SacmRuntime
