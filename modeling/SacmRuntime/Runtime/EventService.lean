import SacmRuntime.Runtime.ExternalAgentService
import SacmRuntime.Runtime.Verifier

namespace SacmRuntime
open Session

/-- An agent's result with all that an event keeps of it. -/
structure ReportedResult extends AgentResult where
  summary : String

/-- What `save_agent_result` is told beside the result. -/
structure ResultSource where
  provider : Option String := none
  model : Option String := none
  framework : Option String := none
  taskContract : Option AgentTaskV1 := none
  resultContract : Option AgentResultV1 := none
  telemetryScope : Option String := none

namespace EventService

/-- `EventService.save`. -/
def save (taskId eventType : String) (payload : Json) (commits : Bool := true) : Service ContextEvent := do
  let eventId ← uuid4
  let createdAt ← utcnow
  let event : ContextEvent := ⟨eventId, taskId, eventType, payload, createdAt⟩
  modify fun d => { d with contextEvents := d.contextEvents ++ [event] }
  RunService.settle commits
  return event

def ofType (artifacts : List Json) (kind : String) :
    Json := .arr (artifacts.filter fun artifact => artifact.get "type" = .str kind)

/-- The payload of an `agent_result` event. -/
def resultPayload (agentName : String) (result : ReportedResult) (source : ResultSource) : Json :=
  .obj ([("agent_name", .str agentName), ("summary", .str result.summary), ("confidence", .float result.confidence),
    ("next_state_hint", .str result.nextStateHint), ("actions", .arr result.actions),
    ("provider", .ofOption source.provider), ("model", .ofOption source.model),
    ("framework", .ofOption source.framework)] ++
    (source.taskContract.map fun contract => ("run_id", Json.str contract.runId)).toList ++
    (source.telemetryScope.map fun scope => ("telemetry_scope", Json.str scope)).toList ++
    [("usage", ofType result.artifacts "usage"), ("tool_execution", ofType result.artifacts "tool_execution")] ++
    match source.taskContract, source.resultContract with
    | some task, some result => [("agent_task_contract", task.modelDump), ("agent_result_contract", result.modelDump)]
    | _, _ => [])

/-- `EventService.save_agent_result`. -/
def saveAgentResult (taskId agentName : String) (result : ReportedResult) (source : ResultSource)
    (commits : Bool := true) :
    Service Unit := Tx.void (save taskId "agent_result" (resultPayload agentName result source) commits)

/-- The members of a telemetry event that `save_agent_telemetry` keeps of a finished tool. -/
def toolExecution (event : Json) : Json :=
  match event with
  | .obj fields => .obj (fields.filter fun field => field.1 ∈ ["tool", "command", "duration_ms", "returncode"])
  | other => other

/-- The payload of an `agent_telemetry` event. -/
def telemetryPayload (runId stepId : String) (event : Json) : Json :=
  let usage := match event.get "usage" with
    | .obj fields => [Json.obj fields]
    | _ => []
  let tool := if event.get "type" = .str "tool_completed" then toolExecution event else .null
  .obj [("run_id", .str runId), ("step_id", .str stepId), ("telemetry_scope", .str (runId ++ ":" ++ stepId)),
    ("event", event.get "type"), ("usage", .arr usage), ("tool_execution", .arr (if tool.truthy then [tool] else []))]

/-- `EventService.save_agent_telemetry`. -/
def saveAgentTelemetry (taskId runId stepId : String) (event : Json) : Service ContextEvent :=
  save taskId "agent_telemetry" (telemetryPayload runId stepId event)

end EventService

inductive UsageCall where
  | result (taskId agentName : String) (reported : ReportedResult) (source : ResultSource)
  | telemetry (taskId runId stepId : String) (event : Json)

namespace UsageCall

def exec : UsageCall → Service Unit
  | result taskId agentName reported source => EventService.saveAgentResult taskId agentName reported source
  | telemetry taskId runId stepId event => Tx.void (EventService.saveAgentTelemetry taskId runId stepId event)

def after (call : UsageCall) (d : Db) (supply : Supply) : Db := (request call.exec d supply).2

def taskId : UsageCall → String
  | result taskId .. | telemetry taskId .. => taskId

def eventType : UsageCall → String
  | result .. => "agent_result"
  | telemetry .. => "agent_telemetry"

def payload : UsageCall → Json
  | result _ agentName reported source => EventService.resultPayload agentName reported source
  | telemetry _ runId stepId event => EventService.telemetryPayload runId stepId event

def event (call : UsageCall) (supply : Supply) : ContextEvent :=
  ⟨supply.uuids 0, call.taskId, call.eventType, call.payload, supply.clock 0⟩

theorem after_eq (call : UsageCall) (d : Db) (supply : Supply) :
    call.after d supply = { d with contextEvents := d.contextEvents ++ [call.event supply] } := by
  cases call <;> rfl

end UsageCall

/-- Calls that store results and telemetry, one after another. -/
abbrev UsageHistory : Db → Db → Prop := Path UsageCall.after fun _ _ _ => True

def ContextEvent.Stored (event : ContextEvent) : Prop := ∃ call supply, event = UsageCall.event call supply

theorem UsageHistory.stored {d e : Db} (history : UsageHistory d e) (none : d.contextEvents = []) :
    ∀ event ∈ e.contextEvents, event.Stored := by
  refine Path.keeps (P := fun d => ∀ event ∈ d.contextEvents, event.Stored) history
    (fun d supply call _ stored => ?_) ?_
  · rw [UsageCall.after_eq]
    intro event member
    rcases List.mem_append.mp member with earlier | newest
    · exact stored event earlier
    · cases List.mem_singleton.mp newest
      exact ⟨call, supply, rfl⟩
  · rw [none]
    exact fun event member => absurd member List.not_mem_nil

end SacmRuntime
