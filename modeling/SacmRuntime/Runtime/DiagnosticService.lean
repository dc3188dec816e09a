import SacmRuntime.Runtime.RecoveryService

namespace SacmRuntime

/-- Evidence taken from tool output or given by the caller. -/
structure DiagnosticEvidenceV2 where
  kind : String
  source : String
  message : String
  code : Option String := none
  file : Option String := none
  line : Option Int := none
  testName : Option String := none
  requirementId : Option String := none

def DiagnosticEvidenceV2.modelDump (e : DiagnosticEvidenceV2) : Json :=
  .obj [("kind", .str e.kind), ("source", .str e.source), ("message", .str e.message), ("code", .ofOption e.code),
    ("file", .ofOption e.file), ("line", (e.line.map Json.int).getD .null), ("test_name", .ofOption e.testName),
    ("requirement_id", .ofOption e.requirementId)]

structure DiagnosticBundleV2 where
  command : Option String
  exitCode : Option Int
  tool : Option String
  rawOutput : Option String
  compilerDiagnostics : List DiagnosticEvidenceV2
  failedTests : List DiagnosticEvidenceV2
  stackTraces : List DiagnosticEvidenceV2
  changedSymbols : List String
  affectedRequirements : List String
  environmentErrors : List DiagnosticEvidenceV2
  previousAttempts : List Json
  graphContext : Json
  rootCauseAnalysis : Json
  patchHash : Option String

def DiagnosticBundleV2.modelDump (b : DiagnosticBundleV2) : Json :=
  let dumps (items : List DiagnosticEvidenceV2) : Json := .arr (items.map DiagnosticEvidenceV2.modelDump)
  .obj [("schema_version", .str "diagnostic-bundle/v2"), ("command", .ofOption b.command),
    ("exit_code", (b.exitCode.map Json.int).getD .null), ("tool", .ofOption b.tool),
    ("raw_output", .ofOption b.rawOutput), ("compiler_diagnostics", dumps b.compilerDiagnostics),
    ("failed_tests", dumps b.failedTests), ("stack_traces", dumps b.stackTraces),
    ("changed_symbols", .ofStrings b.changedSymbols), ("affected_requirements", .ofStrings b.affectedRequirements),
    ("environment_errors", dumps b.environmentErrors), ("previous_attempts", .arr b.previousAttempts),
    ("graph_context", b.graphContext), ("root_cause_analysis", b.rootCauseAnalysis),
    ("patch_hash", .ofOption b.patchHash)]

/-- The regular expressions the classification searches a text for. -/
inductive DiagnosticPattern where
  | environment | failOrError | api | context | architecture | plan | assumption | modelStuck | tool
  | compilerText | testText

/-- What `_parse_output` adds to a bundle. -/
structure ParsedOutput where
  compilerDiagnostics : List DiagnosticEvidenceV2
  failedTests : List DiagnosticEvidenceV2
  environmentErrors : List DiagnosticEvidenceV2

/-- The regular expressions, document parsers, built-in conversions and
validators the service is written with. -/
structure DiagnosticTools where
  search : DiagnosticPattern → String → Bool
  /-- the matches in the output of a tool -/
  parse : Option String → String → ParsedOutput
  /-- `DiagnosticBundleV2.model_validate` -/
  validateBundle : Json → Except Error DiagnosticBundleV2
  /-- `FailureReportV1.model_validate` -/
  validateReport : Json → Except Error FailureReportV1
  /-- the constructor of `DiagnosticEvidenceV2` on keyword arguments -/
  validateEvidence : Json → Except Error DiagnosticEvidenceV2
  /-- `str(value)` -/
  str : Json → String
  /-- `list(value)` -/
  list : Json → Except Error Json
  /-- `dict(value)` -/
  dict : Json → Except Error Json
  /-- `float(value)` -/
  float : Json → Except Error PyFloat
  /-- `json.dumps(value, sort_keys=True)` -/
  dumps : Json → String
  /-- `text.lower()` -/
  lower : String → String
  /-- the lines of a text that are not blank, stripped -/
  lines : String → List String
  /-- `name in text` -/
  occursIn : String → String → Bool
  /-- the arithmetic of `_calibrate` -/
  calibrate : PyFloat → Nat → Bool → PyFloat

namespace DiagnosticService

/-- `DiagnosticService._has_parsed_evidence`. -/
def hasParsedEvidence (bundle : DiagnosticBundleV2) : Bool :=
  !bundle.compilerDiagnostics.isEmpty || !bundle.failedTests.isEmpty || !bundle.stackTraces.isEmpty ||
    !bundle.environmentErrors.isEmpty

/-- `DiagnosticService._parse_output`. -/
def parseOutput (tools : DiagnosticTools) (bundle : DiagnosticBundleV2) : DiagnosticBundleV2 :=
  let parsed := tools.parse bundle.tool (bundle.rawOutput.getD "")
  { bundle with
    compilerDiagnostics := bundle.compilerDiagnostics ++ parsed.compilerDiagnostics
    failedTests := bundle.failedTests ++ parsed.failedTests
    environmentErrors := bundle.environmentErrors ++ parsed.environmentErrors }

/-- A value whose `get` is called: anything but a `dict` has none. -/
def requireDict (value : Json) : Except Error Json :=
  match value with
  | .obj fields => .ok (.obj fields)
  | _ => .error (.attributeError "object has no attribute 'get'")

/-- The bundle as validated: the supplied one, or one made of the failure's
details. -/
def givenBundle (tools : DiagnosticTools) (failure : Json) : Except Error DiagnosticBundleV2 := do
  let supplied := failure.get "diagnostic_bundle"
  if supplied.truthy then tools.validateBundle supplied
  else
    let details ← requireDict ((failure.get "details").orElse (.obj []))
    let changedSymbols ← tools.list ((details.get "changed_symbols").orElse (.arr []))
    let affectedRequirements ← tools.list ((details.get "affected_requirements").orElse (.arr []))
    let graphContext ← tools.dict ((details.get "graph_context").orElse (.obj []))
    tools.validateBundle (.obj [
      ("command", details.get "command"),
      ("exit_code", (details.field? "exit_code").getD (failure.get "returncode")),
      ("tool", details.get "tool"),
      ("raw_output", ((details.get "raw_output").orElse (failure.get "output")).orElse (failure.get "message")),
      ("changed_symbols", changedSymbols),
      ("affected_requirements", affectedRequirements),
      ("graph_context", graphContext),
      ("patch_hash", (details.get "patch_hash").orElse (failure.get "patch_hash"))])

/-- `DiagnosticService._bundle`. -/
def bundle (tools : DiagnosticTools) (failure : Json) : Except Error DiagnosticBundleV2 := do
  let bundle ← givenBundle tools failure
  if bundle.rawOutput.any (· != "") && !hasParsedEvidence bundle then return parseOutput tools bundle
  else return bundle

/-- `DiagnosticService._searchable_text`. -/
def searchableText (tools : DiagnosticTools) (failure : Json) (bundle : DiagnosticBundleV2) : String :=
  "\n".intercalate ([tools.str ((failure.get "type").orElse (.str "")),
    tools.str ((failure.get "message").orElse (.str "")), bundle.rawOutput.getD "",
    tools.dumps bundle.graphContext].filter (· != ""))

def testTools : List String := ["pytest", "jest", "vitest", "playwright", "cypress", "surefire", "go test"]

def validationTools : List String :=
  ["javac", "maven", "gradle", "mypy", "ruff", "tsc", "eslint", "vet", "staticcheck", "terraform", "helm",
    "kubeconform"]

/-- The rules tried in order when the bundle itself says nothing. -/
def rules : List (DiagnosticPattern × FailureClassification × String) :=
  [(.api, .apiIncompatibility, "API_SIGNAL"), (.context, .missingContext, "CONTEXT_SIGNAL"),
    (.architecture, .architectureMismatch, "ARCHITECTURE_SIGNAL"), (.plan, .badPlan, "PLAN_SIGNAL"),
    (.assumption, .wrongAssumption, "ASSUMPTION_SIGNAL"), (.modelStuck, .modelStuck, "MODEL_STUCK_SIGNAL")]

/-- `DiagnosticService._classify`. -/
def classify (tools : DiagnosticTools) (bundle : DiagnosticBundleV2) (text : String) :
    FailureClassification × String × PyFloat :=
  let tool := tools.lower (bundle.tool.getD "")
  if !bundle.environmentErrors.isEmpty || tools.search .environment text then
    (.environment, "ENVIRONMENT_SIGNAL", ⟨98 / 100, ⟨['0', '.', '9', '8'], by decide⟩⟩)
  else if !bundle.failedTests.isEmpty then
    (.testRegression, "FAILED_TEST_SIGNAL", ⟨97 / 100, ⟨['0', '.', '9', '7'], by decide⟩⟩)
  else if !bundle.compilerDiagnostics.isEmpty then
    (.compilation, "COMPILER_SIGNAL", ⟨98 / 100, ⟨['0', '.', '9', '8'], by decide⟩⟩)
  else if testTools.any (tools.occursIn · tool) && tools.search .failOrError text then
    (.testRegression, "TEST_TOOL_SIGNAL", ⟨9 / 10, ⟨['0', '.', '9'], by decide⟩⟩)
  else if validationTools.any (tools.occursIn · tool) then
    (.compilation, "VALIDATION_TOOL_SIGNAL", ⟨9 / 10, ⟨['0', '.', '9'], by decide⟩⟩)
  else match rules.find? fun rule => tools.search rule.1 text with
  | some (_, classification, reason) => (classification, reason, ⟨88 / 100, ⟨['0', '.', '8', '8'], by decide⟩⟩)
  | none =>
    if tools.search .tool text then
      (.toolFailure, "TOOL_SIGNAL", ⟨75 / 100, ⟨['0', '.', '7', '5'], by decide⟩⟩)
    else if tools.search .compilerText text then
      (.compilation, "COMPILER_TEXT_SIGNAL", ⟨86 / 100, ⟨['0', '.', '8', '6'], by decide⟩⟩)
    else if tools.search .testText text then
      (.testRegression, "TEST_TEXT_SIGNAL", ⟨86 / 100, ⟨['0', '.', '8', '6'], by decide⟩⟩)
    else (.toolFailure, "UNCLASSIFIED_TOOL_FAILURE", ⟨4 / 10, ⟨['0', '.', '4'], by decide⟩⟩)

/-- `DiagnosticService._evidence_kind`. -/
def evidenceKind : FailureClassification → String
  | .compilation => "compiler"
  | .testRegression => "test"
  | .apiIncompatibility => "contract"
  | .environment => "environment"
  | _ => "tool"

/-- `DiagnosticService._evidence`. -/
def evidence (bundle : DiagnosticBundleV2) : List DiagnosticEvidenceV2 :=
  bundle.compilerDiagnostics ++ bundle.failedTests ++ bundle.stackTraces ++ bundle.environmentErrors ++
    bundle.affectedRequirements.map fun requirement =>
      { kind := "requirement", source := "application-graph",
        message := "Failure affects requirement " ++ requirement ++ ".", requirementId := some requirement }

def allowedKinds : List String :=
  ["compiler", "test", "stack_trace", "environment", "contract", "tool", "requirement", "history"]

/-- The kind of an item, if it is an allowed one; a container cannot be looked up in a set. -/
def normalizedKind : Json → Except Error String
  | .str kind => .ok (if allowedKinds.contains kind then kind else "tool")
  | .arr _ => .error (.other "TypeError" "unhashable type: 'list'")
  | .obj _ => .error (.other "TypeError" "unhashable type: 'dict'")
  | _ => .ok "tool"

/-- One item of `_legacy_evidence`. -/
def normalized (tools : DiagnosticTools) (item : Json) : Except Error DiagnosticEvidenceV2 := do
  let kind ← normalizedKind (item.get "kind")
  tools.validateEvidence (.obj [
    ("kind", .str kind),
    ("source", .str (tools.str (((item.get "source").orElse (item.get "type")).orElse (.str "caller")))),
    ("message", .str (tools.str (((item.get "message").orElse (item.get "detail")).orElse (.str (tools.dumps item))))),
    ("code", item.get "code"), ("file", item.get "file"), ("line", item.get "line"),
    ("test_name", item.get "test_name"), ("requirement_id", item.get "requirement_id")])

/-- The objects met in a loop over a value; the characters of a string and
the keys of an object are none. -/
def objectsIn : Json → Except Error (List Json)
  | .arr items => .ok (items.filter fun item =>
      match item with
      | .obj _ => true
      | _ => false)
  | .str _ | .obj _ => .ok []
  | _ => .error (.other "TypeError" "object is not iterable")

/-- `DiagnosticService._legacy_evidence`. -/
def legacyEvidence (tools : DiagnosticTools) (failure : Json) : Except Error (List DiagnosticEvidenceV2) := do
  let items ← objectsIn ((failure.get "evidence").orElse (.arr []))
  items.mapM (normalized tools)

/-- `DiagnosticService._merge_evidence`: of equal items the first stays. -/
def mergeEvidence (items : List DiagnosticEvidenceV2) : List DiagnosticEvidenceV2 :=
  items.foldl (fun merged item =>
    if merged.any fun other => other.modelDump.pyEq item.modelDump then merged else merged ++ [item]) []

/-- `DiagnosticService._root_cause`. -/
def rootCause (tools : DiagnosticTools) (classification : FailureClassification) (bundle : DiagnosticBundleV2)
    (text : String) : String :=
  let analysis := bundle.rootCauseAnalysis.get "root_cause"
  if analysis.truthy then tools.str analysis
  else match evidence bundle with
  | first :: _ => first.message
  | [] =>
    match tools.lines (bundle.rawOutput.getD "") with
    | first :: _ => first
    | [] =>
      match tools.lines text with
      | _ :: second :: _ => second
      | [only] => only
      | [] => classification.value

/-- `DiagnosticService._fingerprint`. -/
def fingerprint (sha256 : String → String) (classification : FailureClassification) (rootCause : String)
    (bundle : DiagnosticBundleV2) : String :=
  sha256 (Json.text true (.obj [
    ("classification", .str classification.value), ("root_cause", .str rootCause),
    ("command", .ofOption bundle.command), ("tool", .ofOption bundle.tool),
    ("changed_symbols", .ofStrings (bundle.changedSymbols.insertionSort (· ≤ ·))),
    ("evidence", .arr ((evidence bundle).map fun item => .obj [("code", .ofOption item.code),
      ("file", .ofOption item.file), ("line", (item.line.map Json.int).getD .null),
      ("test_name", .ofOption item.testName)]))]))

def isReport (failure : Json) : Bool :=
  failure.get "schema_version" = .str "failure-report/v1" && (failure.get "diagnosis_fingerprint").truthy

/-- `FailureClassification(value)`. -/
def classificationOf (value : String) : Except Error FailureClassification :=
  match [FailureClassification.compilation, .testRegression, .wrongAssumption, .missingContext,
    .architectureMismatch, .badPlan, .apiIncompatibility, .environment, .toolFailure, .modelStuck].find?
      fun classification => classification.value == value with
  | some classification => .ok classification
  | none => .error (.valueError ("'" ++ value ++ "' is not a valid FailureClassification"))

def known : List String :=
  ["schema_version", "classification", "type", "message", "evidence", "details", "retryable", "confidence",
    "diagnostic_bundle"]

/-- The details of the report: those given, every unknown key of the failure,
and the bundle's patch hash over all of them. -/
def reportDetails (given failure : Json) (bundle : DiagnosticBundleV2) : Json :=
  let unknown : List (String × Json) := match failure with
    | .obj fields => fields.filter fun field => !known.contains field.1
    | _ => []
  (given.merge (.obj unknown)).set "patch_hash" (.ofOption bundle.patchHash)

/-- The classification a failure names itself, or the one its text gives. -/
def classified (tools : DiagnosticTools) (failure : Json) (bundle : DiagnosticBundleV2) (text : String) :
    Except Error (FailureClassification × String × PyFloat) :=
  let explicit := failure.get "classification"
  if explicit.truthy then do
    let classification ← classificationOf (tools.str explicit)
    let confidence ← tools.float ((failure.get "confidence").orElse (.float ⟨['1', '.', '0'], FloatText.one_printable⟩))
    return (classification, "EXPLICIT_CLASSIFICATION", confidence)
  else return classify tools bundle text

/-- `DiagnosticService.diagnose`. -/
def diagnose (tools : DiagnosticTools) (sha256 : String → String) (failure : Json) :
    Except Error FailureReportV1 :=
  if isReport failure then tools.validateReport failure
  else do
    let bundle ← bundle tools failure
    let text := searchableText tools failure bundle
    let (classification, reasonCode, confidence) ← classified tools failure bundle text
    let legacy ← legacyEvidence tools failure
    let cause := rootCause tools classification bundle text
    let merged := mergeEvidence (legacy ++ evidence bundle)
    let items := if merged.isEmpty then
      [{ kind := evidenceKind classification,
         source := (bundle.tool.filter (· != "")).getD (tools.str ((failure.get "type").orElse (.str "runtime"))),
         message := cause : DiagnosticEvidenceV2 }]
      else merged
    let given ← tools.dict ((failure.get "details").orElse (.obj []))
    return {
      classification := classification
      type := tools.str ((failure.get "type").orElse (.str "AgentFailure"))
      message := tools.str (((failure.get "message").orElse (failure.get "detail")).orElse
        (.str "Agent execution failed."))
      evidence := items.map DiagnosticEvidenceV2.modelDump
      details := reportDetails given failure bundle
      retryable := match failure.get "retryable" with
        | .null => true
        | retryable => retryable.truthy
      confidence := tools.calibrate confidence items.length (failure.get "diagnostic_bundle" != .null)
      rootCause := some cause
      reasonCodes := [reasonCode] ++
        (if bundle.changedSymbols.isEmpty then [] else ["GRAPH_SYMBOL_CORRELATION"]) ++
        (if bundle.affectedRequirements.isEmpty then [] else ["GRAPH_REQUIREMENT_CORRELATION"]) ++
        (if bundle.rootCauseAnalysis.truthy then ["MODEL_ROOT_CAUSE"] else [])
      diagnosisFingerprint := some (fingerprint sha256 classification cause bundle)
      diagnosticBundle := bundle.modelDump
      stages := ["DETERMINISTIC_PARSE", "RULE_CLASSIFICATION", "GRAPH_CORRELATION", "ROOT_CAUSE_ANALYSIS",
        "CONFIDENCE_CALIBRATION", "RECOVERY_POLICY"] }

end DiagnosticService

end SacmRuntime
