import SacmRuntime.Lib.FiberSum
import SacmRuntime.Runtime.EventService

namespace SacmRuntime

inductive TokenKind where
  | input | output
  deriving DecidableEq

def TokenKind.key : TokenKind → String
  | .input => "input_tokens"
  | .output => "output_tokens"

namespace Json

/-- `value if isinstance(value, int) and not isinstance(value, bool)`. -/
def plainInt? : Json → Option Int
  | .int n => some n
  | _ => none

/-- `value if isinstance(value, int)`: a truth value is an integer. -/
def int? : Json → Option Int
  | .int n => some n
  | .bool b => some (if b then 1 else 0)
  | _ => none

/-- `isinstance(value, (int, float)) and not isinstance(value, bool)`. -/
def isNumber : Json → Bool
  | .int _ | .float _ => true
  | _ => false

/-- `value if isinstance(value, dict) else {}`. -/
def mapping : Json → Json
  | .obj fields => .obj fields
  | _ => .obj []

/-- What a `for` loop over `payload.get(key, [])` runs through. -/
def loopItems (payload : Json) (key : String) : Except Error (List Json) :=
  match payload.field? key with
  | none => .ok []
  | some (.arr items) => .ok items
  | some (.obj fields) => .ok (fields.map fun field => .str field.1)
  | some (.str s) => .ok (s.toList.map fun c => .str (String.singleton c))
  | some _ => .error (.other "TypeError" "object is not iterable")

end Json

/-- The totals of one provider and model. The cost is a sum of floats, kept
as the numbers that are added, in their order. -/
structure UsageTotal where
  provider : String
  model : String
  inputTokens : Int := 0
  outputTokens : Int := 0
  estimatedCostUsd : List Json := []
  premiumRequests : Int := 0
  totalNanoAiu : Int := 0

structure CostSummary where
  taskId : String
  usage : List UsageTotal
  inputTokens : Int
  outputTokens : Int
  estimatedCostUsd : List (List Json)
  costEstimationAvailable : Bool
  premiumRequests : Int
  totalNanoAiu : Int
  toolExecutionCount : Nat
  toolDurationMs : Int
  failedToolExecutionCount : Nat

def UsageTotal.tokens (total : UsageTotal) : TokenKind → Int
  | .input => total.inputTokens
  | .output => total.outputTokens

def CostSummary.tokens (summary : CostSummary) : TokenKind → Int
  | .input => summary.inputTokens
  | .output => summary.outputTokens

namespace CostService

/-- `_event_run_id`. -/
def eventRunId (payload : Json) : Option String :=
  [payload.get "run_id", (payload.get "agent_task_contract").mapping.get "run_id",
    (payload.get "agent_result_contract").mapping.get "run_id"].findSome? Json.str?

/-- `_telemetry_scope`. -/
def telemetryScope (payload : Json) : Option String :=
  match payload.get "telemetry_scope" with
  | .str scope => some scope
  | _ =>
    let task := (payload.get "agent_task_contract").mapping
    match task.get "run_id", task.get "step_id" with
    | .str runId, .str stepId => some (runId ++ ":" ++ stepId)
    | _, _ => none

def liveScopes (events : List ContextEvent) : List String :=
  (events.filter fun event => event.eventType == "agent_telemetry").filterMap fun event => telemetryScope event.payload

/-- A result of a scope that has telemetry is left out. -/
def leftOut (events : List ContextEvent) (event : ContextEvent) : Bool :=
  event.eventType == "agent_result" && (telemetryScope event.payload).any fun scope =>
    (liveScopes events).contains scope

def UsageTotal.add (record : Json) (total : UsageTotal) : UsageTotal :=
  { total with
    inputTokens := total.inputTokens + ((record.get "input_tokens").plainInt?.getD 0)
    outputTokens := total.outputTokens + ((record.get "output_tokens").plainInt?.getD 0)
    estimatedCostUsd := total.estimatedCostUsd ++ [record.get "estimated_cost_usd"].filter Json.isNumber
    premiumRequests := total.premiumRequests + ((record.get "premium_requests").plainInt?.getD 0)
    totalNanoAiu := total.totalNanoAiu + ((record.get "total_nano_aiu").plainInt?.getD 0) }

/-- `totals[(provider, model)]`, with the record added. -/
def accumulate (provider model : String) (record : Json) : List UsageTotal → List UsageTotal
  | [] => [UsageTotal.add record { provider := provider, model := model }]
  | total :: rest =>
    if total.provider = provider ∧ total.model = model then UsageTotal.add record total :: rest
    else total :: accumulate provider model record rest

def addRecord (totals : List UsageTotal) (record : Json) : List UsageTotal :=
  match record with
  | .obj fields =>
    match (Json.obj fields).get "provider", (Json.obj fields).get "model" with
    | .str provider, .str model => accumulate provider model (.obj fields) totals
    | _, _ => totals
  | _ => totals

def recordsOf (key : String) : List ContextEvent → Except Error (List Json)
  | [] => .ok []
  | event :: rest => do
    let records ← event.payload.loopItems key
    let others ← recordsOf key rest
    .ok (records ++ others)

def isExecution (record : Json) : Bool :=
  (record.get "duration_ms").int?.isSome && (record.get "returncode").int?.isSome

/-- The answer of `_summarize` for the records it has collected. -/
def total (taskId : String) (records tools : List Json) : CostSummary :=
  let totals := records.foldl addRecord []
  let entries := totals.insertionSort fun a b => toLex (a.provider, a.model) ≤ toLex (b.provider, b.model)
  let executions := tools.filter isExecution
  { taskId := taskId
    usage := entries
    inputTokens := (entries.map UsageTotal.inputTokens).sum
    outputTokens := (entries.map UsageTotal.outputTokens).sum
    estimatedCostUsd := entries.map UsageTotal.estimatedCostUsd
    costEstimationAvailable := entries.any fun entry => !entry.estimatedCostUsd.isEmpty
    premiumRequests := (entries.map UsageTotal.premiumRequests).sum
    totalNanoAiu := (entries.map UsageTotal.totalNanoAiu).sum
    toolExecutionCount := executions.length
    toolDurationMs := (executions.map fun record => (record.get "duration_ms").int?.getD 0).sum
    failedToolExecutionCount := executions.countP fun record => (record.get "returncode").int? != some 0 }

/-- `_summarize`. -/
def summarize (taskId : String) (events : List ContextEvent) : Except Error CostSummary := do
  let events := events.filter fun event => !leftOut events event
  let records ← recordsOf "usage" events
  let tools ← recordsOf "tool_execution" events
  .ok (total taskId records tools)

def taskEvents (d : Db) (taskId : String) : List ContextEvent :=
  d.contextEvents.filter fun event => event.taskId == taskId &&
    (event.eventType == "agent_result" || event.eventType == "agent_telemetry")

/-- `summarize_task`. -/
def summarizeTask (d : Db) (taskId : String) : Except Error CostSummary := summarize taskId (taskEvents d taskId)

def runsOf (d : Db) (taskId : String) : List Run := d.runs.rows.filter fun run => run.taskId == taskId

/-- The events `summarize_run` keeps for a run. -/
def ofRun (d : Db) (run : Run) (event : ContextEvent) : Bool :=
  decide (eventRunId event.payload = some run.id) ||
    (decide (eventRunId event.payload = none) && decide ((runsOf d run.taskId).length = 1))

/-- `summarize_run`. -/
def summarizeRun (d : Db) (runId : String) : Except Error CostSummary :=
  match d.run? runId with
  | none => .error (.valueError "Run not found.")
  | some run =>
    let events := (taskEvents d run.taskId).insertionSort fun a b => toLex (a.createdAt, a.id) ≤ toLex
      (b.createdAt, b.id)
    summarize run.taskId (events.filter (ofRun d run))

def reported (kind : TokenKind) (answer : Except Error CostSummary) : Option Int :=
  match answer with
  | .ok summary => some (summary.tokens kind)
  | .error _ => none

def recordTokens (kind : TokenKind) (record : Json) : Int :=
  match record.get "provider", record.get "model" with
  | .str _, .str _ => (record.get kind.key).plainInt?.getD 0
  | _, _ => 0

def usageOf (event : ContextEvent) : List Json := (event.payload.get "usage").items

def eventTokens (kind : TokenKind) (event : ContextEvent) : Int := ((usageOf event).map (recordTokens kind)).sum

def tokenSum (kind : TokenKind) (totals : List UsageTotal) : Int := (totals.map fun total => total.tokens kind).sum

section
variable (kind : TokenKind) {events others : List ContextEvent} {taskId : String}

theorem tokenSum_cons (first : UsageTotal) (rest : List UsageTotal) :
    tokenSum kind (first :: rest) = first.tokens kind + tokenSum kind rest := by
  simp [tokenSum]

theorem tokens_add (record : Json) (first : UsageTotal) :
    (UsageTotal.add record first).tokens kind = first.tokens kind + (record.get kind.key).plainInt?.getD 0 := by
  cases kind <;> rfl

theorem tokens_fresh (provider model : String) :
    UsageTotal.tokens { provider := provider, model := model } kind = 0 := by
  cases kind <;> rfl

theorem tokens_accumulate (provider model : String) (record : Json) (totals : List UsageTotal) :
    tokenSum kind (accumulate provider model record totals) =
      tokenSum kind totals + (record.get kind.key).plainInt?.getD 0 := by
  induction totals with
  | nil =>
    rw [accumulate, tokenSum_cons, tokens_add, tokens_fresh]
    simp [tokenSum]
  | cons first rest ih =>
    by_cases same : first.provider = provider ∧ first.model = model
    · rw [accumulate, if_pos same, tokenSum_cons, tokenSum_cons, tokens_add]
      omega
    · rw [accumulate, if_neg same, tokenSum_cons, tokenSum_cons, ih]
      omega

theorem tokens_addRecord (totals : List UsageTotal) (record : Json) :
    tokenSum kind (addRecord totals record) = tokenSum kind totals + recordTokens kind record := by
  cases record with
  | obj fields =>
    simp only [addRecord, recordTokens]
    split
    · exact tokens_accumulate ..
    · omega
  | _ => simp [addRecord, recordTokens, Json.get]

theorem tokens_foldl (records : List Json) (totals : List UsageTotal) :
    tokenSum kind (records.foldl addRecord totals) = tokenSum kind totals + (records.map (recordTokens kind)).sum := by
  induction records generalizing totals with
  | nil => simp
  | cons record rest ih =>
    have first := tokens_addRecord kind totals record
    rw [List.foldl_cons, ih, first, List.map_cons, List.sum_cons]
    omega

theorem tokens_total (records tools : List Json) :
    (total taskId records tools).tokens kind = (records.map (recordTokens kind)).sum := by
  have sorted : ((records.foldl addRecord []).insertionSort fun a b => toLex (a.provider, a.model) ≤
      toLex (b.provider, b.model)).Perm (records.foldl addRecord []) := List.perm_insertionSort _ _
  have same := (sorted.map fun total => total.tokens kind).sum_eq
  have counted := tokens_foldl kind records []
  have empty : tokenSum kind [] = 0 := rfl
  rw [empty, tokenSum, ← same, zero_add] at counted
  rw [← counted]
  cases kind <;> rfl

theorem stored_lists {event : ContextEvent} (stored : event.Stored) :
    event.payload.loopItems "usage" = .ok (usageOf event) ∧
      ∃ tools, event.payload.loopItems "tool_execution" = .ok tools := by
  obtain ⟨call, supply, rfl⟩ := stored
  cases call with
  | telemetry taskId runId stepId event => exact ⟨rfl, _, rfl⟩
  | result taskId agentName reported source =>
    obtain ⟨provider, model, framework, task, result, scope⟩ := source
    cases task <;> cases scope <;> cases result <;> exact ⟨rfl, _, rfl⟩

theorem recordsOf_stored (stored : ∀ event ∈ events, event.Stored) :
    recordsOf "usage" events = .ok (events.flatMap usageOf) ∧ ∃ tools,
      recordsOf "tool_execution" events = .ok tools := by
  induction events with
  | nil => exact ⟨rfl, _, rfl⟩
  | cons event rest ih =>
    obtain ⟨usage, tools, listed⟩ := stored_lists (stored event List.mem_cons_self)
    obtain ⟨others, more, rest⟩ := ih fun event member => stored event (List.mem_cons_of_mem _ member)
    refine ⟨?_, tools ++ more, ?_⟩
    · simp [recordsOf, usage, others]
      rfl
    · simp [recordsOf, listed, rest]
      rfl

theorem tokens_flatMap (events : List ContextEvent) :
    ((events.flatMap usageOf).map (recordTokens kind)).sum = (events.map (eventTokens kind)).sum := by
  induction events with
  | nil => rfl
  | cons event rest ih => simp [eventTokens, ih]

theorem summarize_stored (stored : ∀ event ∈ events, event.Stored) :
    reported kind (summarize taskId events) =
      some (sumOver (eventTokens kind) (fun event => !leftOut events event) events) := by
  have kept : ∀ event ∈ events.filter fun event => !leftOut events event, event.Stored :=
    fun event member => stored event (List.mem_of_mem_filter member)
  obtain ⟨usage, tools, listed⟩ := recordsOf_stored kept
  have answered : summarize taskId events =
      .ok (total taskId ((events.filter fun event => !leftOut events event).flatMap usageOf) tools) := by
    simp only [summarize]
    rw [usage, listed]
    rfl
  rw [answered, reported, tokens_total, tokens_flatMap, sumOver]

theorem leftOut_perm (perm : events.Perm others) : leftOut events = leftOut others := by
  have same : ∀ scope, (liveScopes events).contains scope = (liveScopes others).contains scope := by
    intro scope
    have scopes : (liveScopes events).Perm (liveScopes others) := (perm.filter _).filterMap _
    rw [Bool.eq_iff_iff, List.contains_iff_mem, List.contains_iff_mem]
    exact scopes.mem_iff
  funext event
  simp only [leftOut, same]

end

end CostService

end SacmRuntime
