import Mathlib.Data.List.MinMax
import SacmRuntime.Cognitive.Rows

namespace SacmRuntime
namespace Cognitive
open Session

/-- Why a method did not return: the process stopped for good, or it raised. -/
inductive Fault where
  | stopped
  | raised (error : Error)
  deriving DecidableEq

inductive CommitPoint where
  | event
  | relation
  | evidence
  | snapshot
  | submitted
  | recovered
  | claimed
  | completed
  | failed
  deriving DecidableEq

abbrev Service (α : Type) : Type := Tx (Session CognitiveDb) Fault α

def fail {α : Type} (error : Error) : Service α := Tx.raise (.raised error)

def expect {α : Type} (error : Error) (found : Option α) : Service α := Tx.expect (.raised error) found

def ofExcept {α : Type} : Except Error α → Service α
  | .ok a => pure a
  | .error error => fail error

/-- `db.commit()`, after which the process stops if it is to stop there. -/
def save (stop : Option CommitPoint) (point : CommitPoint) : Service Unit := do
  commit
  if stop = some point then Tx.raise .stopped else return ()

/-- What the constructor of a payload raises when a field is out of its limits. -/
def validationError (model : String) : Error := .other "ValidationError" model

def given (text : Option String) : Option String := text.filter (· ≠ "")

section Queries
variable (d : CognitiveDb) (projectId : String)

/-- The predecessor `record_event` looks up: `ORDER BY created_at DESC, id DESC`. -/
def lastEvent : Option CognitiveEvent := (d.eventsOf projectId).argmax CognitiveEvent.key

def commitEvents (commitHash : String) : List CognitiveEvent :=
  (d.eventsOf projectId).filter fun event =>
    event.eventType == "COMMIT_CREATED" && event.commitHash == some commitHash

/-- `_time_for_commit`. -/
def timeForCommit (commitHash : Option String) : Except Error (Option Nat) :=
  match given commitHash with
  | none => .ok none
  | some commitHash =>
    match (commitEvents d projectId commitHash).argmax CognitiveEvent.createdAt with
    | none => .error (notFound ("Commit " ++ commitHash ++ " is not indexed."))
    | some event => .ok (some event.createdAt)

/-- `_relations`. -/
def relations (asOf : Option Nat) : List CognitiveRelation :=
  (d.relations.rows.filter fun r => r.projectId == projectId && asOf.all fun limit =>
    decide (r.validFrom ≤ limit)).insertionSort
    fun a b => a.key ≤ b.key

/-- `_events`. -/
def events (asOf : Option Nat) (limit : Nat) : List CognitiveEvent :=
  (((d.eventsOf projectId).filter fun event => asOf.all fun limit => decide (event.createdAt ≤ limit)).insertionSort
    fun a b => b.key ≤ a.key).take limit

/-- The member of `_values` for one kind of node. -/
def values (edges : List CognitiveRelation) (kind : String) : List String :=
  sortedSet (edges.flatMap fun r =>
    (if r.sourceType = kind then [r.sourceId] else []) ++ if r.targetType = kind then [r.targetId] else [])

/-- `_state`, without the time it was generated at. -/
def state (asOf : Option Nat) : CognitiveState :=
  let edges := relations d projectId asOf
  { requirements := values edges "REQUIREMENT", decisions := values edges "DECISION", agents := values edges "AGENT",
    skills := values edges "SKILL", files := values edges "FILE", tests := values edges "TEST",
    commits := values edges "COMMIT", services := values edges "SERVICE" }

/-- `snapshot`. -/
def snapshot (snapshotId commitHash : Option String) : Option CognitiveSnapshot :=
  let own := d.snapshots.rows.filter fun s => s.projectId == projectId
  match given snapshotId with
  | some id => own.find? fun s => s.id == id
  | none =>
    match given commitHash with
    | some commitHash => (own.filter fun s => s.commitHash == some commitHash).argmax CognitiveSnapshot.createdAt
    | none => own.argmax CognitiveSnapshot.createdAt

/-- `state_at_commit`: the state of the latest snapshot, or the recomputed one. -/
def stateAtCommit (commitHash : String) : Except Error CognitiveState :=
  match snapshot d projectId none (some commitHash) with
  | some found => .ok found.state
  | none => (timeForCommit d projectId (some commitHash)).map (state d projectId)

def deliveryEvent (deliveryId : String) : Option CognitiveEvent :=
  (events d projectId none 10000).find? fun event =>
    event.eventType == "DELIVERY_COMPLETED" && decide (event.payload.get "delivery_id" = .str deliveryId)

/-- `_delivery_snapshot`. -/
def deliverySnapshot (deliveryId : String) : Option CognitiveSnapshot :=
  ((d.relations.rows.filter fun r => r.projectId == projectId && r.sourceType == "DELIVERY" &&
    r.sourceId == deliveryId &&
      r.targetType == "SNAPSHOT" && r.relation == "PART_OF").argmax CognitiveRelation.key).bind
    fun r => snapshot d projectId (some r.targetId) none

end Queries

/-- `_project`. -/
def project (projectId : String) : Service CognitiveProject := do
  let found ← view fun d => d.projects.find projectId
  expect (notFound "Project not found.") found

def canonical (event : CognitiveEvent) : Json :=
  .obj [("project_id", .str event.projectId), ("event_type", .str event.eventType),
    ("agent_id", .ofOption event.agentId), ("commit_hash", .ofOption event.commitHash),
    ("snapshot_id", .ofOption event.snapshotId), ("trace_id", .ofOption event.traceId),
    ("parent_event_id", .ofOption event.parentEventId), ("payload", event.payload),
    ("previous_event_hash", .ofOption event.previousEventHash),
    ("created_at", .str (String.ofList (isoMicroseconds event.createdAt)))]

/-- The event as `record_event` builds it, still without its hash. -/
def draft (projectId : String) (payload : CognitiveEventCreate) (previous : Option CognitiveEvent)
    (createdAt : Nat) (id : String) : CognitiveEvent where
  id := id
  projectId := projectId
  eventType := payload.eventType
  agentId := payload.agentId
  commitHash := payload.commitHash
  snapshotId := payload.snapshotId
  traceId := payload.traceId
  parentEventId := payload.parentEventId
  payload := sanitize payload.payload
  previousEventHash := previous.map CognitiveEvent.eventHash
  eventHash := ""
  createdAt := createdAt

/-- The event `record_event` appends. -/
def newEvent (env : Env) (projectId : String) (payload : CognitiveEventCreate) (previous : Option CognitiveEvent)
    (createdAt : Nat) (id : String) : CognitiveEvent :=
  let event := draft projectId payload previous createdAt id
  { event with eventHash := hash env (canonical event) }

/-- `CognitiveEventCreateV1(...)`. -/
def checkEvent (payload : CognitiveEventCreate) : Service CognitiveEventCreate :=
  if payload.valid then return payload else fail (validationError "CognitiveEventCreateV1")

/-- `record_event` up to its flush, with the construction of its payload. -/
def appendEvent (env : Env) (projectId : String) (payload : CognitiveEventCreate) : Service CognitiveEvent := do
  let payload ← checkEvent payload
  let _ ← project projectId
  let orphaned ← view fun d => (given payload.parentEventId).any fun id => (d.events.find id).isNone
  if orphaned then fail (notFound "Parent cognitive event not found.")
  else
    let previous ← view fun d => lastEvent d projectId
    let createdAt ← utcnow
    let id ← uuid4
    let event := newEvent env projectId payload previous createdAt id
    let inserted ← view fun d => d.events.insert? event
    let events ← expect (.integrityError "cognitive_events.id") inserted
    modify fun d => { d with events := events }
    flush
    return event

/-- `record_event`. -/
def recordEvent (env : Env) (stop : Option CommitPoint) (projectId : String) (payload : CognitiveEventCreate)
    (commits : Bool) : Service CognitiveEvent := do
  let event ← appendEvent env projectId payload
  if commits then
    save stop .event
    return event
  else return event

/-- The row of `_relation`. -/
def newRelation (env : Env) (projectId : String) (payload : CognitiveRelationCreate) (event : CognitiveEvent)
    (id : String) : CognitiveRelation where
  id := id
  projectId := projectId
  sourceType := env.upper payload.sourceType
  sourceId := payload.sourceId
  targetType := env.upper payload.targetType
  targetId := payload.targetId
  relation := env.upper payload.relation
  commitHash := payload.commitHash
  metadata := sanitize payload.metadata
  createdEventId := event.id
  validFrom := event.createdAt

/-- The rows with one more behind them, unless its key or its edge is there already. -/
def insertRelation (table : Table CognitiveRelation) (row : CognitiveRelation) : Option (Table CognitiveRelation) :=
  if row.edge ∈ table.rows.map CognitiveRelation.edge then none else table.insert? row

/-- `CognitiveRelationCreateV1(...)`. -/
def checkRelation (payload : CognitiveRelationCreate) : Except Error CognitiveRelationCreate :=
  if payload.valid then .ok payload else .error (validationError "CognitiveRelationCreateV1")

/-- `db.add` of the relations of an event and the flush that follows. The
payloads are built one by one; the constraint of the table is checked as each
row is added and not at the flush, but the transaction is lost either way. -/
def addRelations (env : Env) (projectId : String) (event : CognitiveEvent) :
    List (Except Error CognitiveRelationCreate) → Service (List CognitiveRelation)
  | [] => do
    flush
    return []
  | payload :: rest => do
    let payload ← ofExcept payload
    let id ← uuid4
    let row := newRelation env projectId payload event id
    let inserted ← view fun d => insertRelation d.relations row
    let table ← expect (.integrityError "uq_cognitive_relation_event") inserted
    modify fun d => { d with relations := table }
    let others ← addRelations env projectId event rest
    return row :: others

/-- `_relation_payload`. -/
def relationPayload (payload : CognitiveRelationCreate) : Json :=
  .obj [("source_type", .str payload.sourceType), ("source_id", .str payload.sourceId),
    ("target_type", .str payload.targetType), ("target_id", .str payload.targetId), ("relation", .str payload.relation)]

/-- The query of `add_relation`. -/
def sameRelation (env : Env) (d : CognitiveDb) (projectId : String) (payload : CognitiveRelationCreate) :
    Option CognitiveRelation :=
  (d.relations.rows.filter fun r => r.projectId == projectId && r.sourceType == env.upper payload.sourceType &&
      r.sourceId == payload.sourceId && r.targetType == env.upper payload.targetType &&
        r.targetId == payload.targetId &&
      r.relation == env.upper payload.relation && r.commitHash == payload.commitHash).argmax CognitiveRelation.validFrom

/-- `add_relation`. -/
def addRelation (env : Env) (stop : Option CommitPoint) (projectId : String) (payload : CognitiveRelationCreate)
    (actorId : Option String) : Service CognitiveRelation := do
  let _ ← project projectId
  let existing ← view fun d => sameRelation env d projectId payload
  match existing with
  | some found => return found
  | none =>
    let event ← recordEvent env stop projectId
      { eventType := "DEPENDENCY_CREATED", agentId := actorId, commitHash := payload.commitHash,
        payload := .obj [("relation", relationPayload payload)] } false
    let rows ← addRelations env projectId event [.ok payload]
    save stop .relation
    expect (.other "InvalidRequestError" "Could not refresh instance") rows.head?

def stateJson (state : CognitiveState) (generatedAt : Nat) (commitHash reason : Option String) : Json :=
  let texts := fun (items : List String) => Json.arr (items.map Json.str)
  .obj [("requirements", texts state.requirements), ("decisions", texts state.decisions),
    ("agents", texts state.agents),
    ("skills", texts state.skills), ("files", texts state.files), ("tests", texts state.tests),
    ("commits", texts state.commits), ("services", texts state.services),
      ("generated_at", .str (isoformat generatedAt)),
    ("commit_hash", .ofOption commitHash), ("reason", .ofOption reason)]

/-- The row of `create_snapshot`. -/
def newSnapshot (env : Env) (projectId : String) (commitHash : Option String) (snapshotType : String)
    (reason : Option String) (state : CognitiveState) (generatedAt createdAt : Nat) (id : String) :
      CognitiveSnapshot where
  id := id
  projectId := projectId
  commitHash := commitHash
  snapshotType := snapshotType
  state := state
  generatedAt := generatedAt
  reason := reason
  stateHash := hash env (stateJson state generatedAt commitHash reason)
  createdAt := createdAt

def snapshotEvent (taken : CognitiveSnapshot) : CognitiveEventCreate where
  eventType := "SNAPSHOT_CREATED"
  commitHash := taken.commitHash
  snapshotId := some taken.id
  payload := .obj [("snapshot_type", .str taken.snapshotType), ("state_hash", .str taken.stateHash),
    ("reason", .ofOption taken.reason)]

/-- `create_snapshot`. -/
def createSnapshot (env : Env) (stop : Option CommitPoint) (projectId : String) (commitHash : Option String)
    (snapshotType : String) (reason : Option String) : Service CognitiveSnapshot := do
  let _ ← project projectId
  let time ← view fun d => timeForCommit d projectId commitHash
  let asOf ← ofExcept time
  let state ← view fun d => state d projectId asOf
  let generatedAt ← utcnow
  let id ← uuid4
  let createdAt ← utcnow
  let taken := newSnapshot env projectId commitHash snapshotType reason state generatedAt createdAt id
  let inserted ← view fun d => d.snapshots.insert? taken
  let snapshots ← expect (.integrityError "cognitive_snapshots.id") inserted
  modify fun d => { d with snapshots := snapshots }
  flush
  let _ ← recordEvent env stop projectId (snapshotEvent taken) false
  save stop .snapshot
  return taken

/-- What `ingest_commit` answers. -/
structure Ingested where
  event : CognitiveEvent
  snapshot : Option CognitiveSnapshot
  idempotent : Bool

/-- What `ingest_commit` reads out of its payload. -/
structure CommitFacts where
  requirements : List String
  decisions : List String
  skills : List String
  agentId : Option String
  files : List String
  tests : List String

def commitFacts (env : Env) (payload : CommitIngest) : Except Error CommitFacts := do
  let files ← safePaths payload.files
  let tests ← safePaths payload.tests
  return { requirements := mergeIds env payload.requirements (messageMetadata env payload.message "REQ")
           decisions := mergeIds env payload.decisions (messageMetadata env payload.message "DECISION")
           skills := mergeIds env payload.skills (messageMetadata env payload.message "SKILLS")
           agentId := (given payload.agentId).orElse fun _ => (messageMetadata env payload.message "AGENT").head?
           files := files, tests := tests }

def commitEvent (payload : CommitIngest) (facts : CommitFacts) : CognitiveEventCreate :=
  let texts := fun (items : List String) => Json.arr (items.map Json.str)
  { eventType := "COMMIT_CREATED", agentId := facts.agentId, commitHash := some payload.commitHash,
    traceId := payload.traceId,
    payload := .obj [("parent_hash", .ofOption payload.parentHash), ("branch", .ofOption payload.branch),
      ("message", .str payload.message), ("requirements", texts facts.requirements),
      ("decisions", texts facts.decisions), ("skills", texts facts.skills), ("files", texts facts.files),
      ("tests", texts facts.tests),
      ("dependencies", .arr (payload.dependencies.map fun edge => .arr [.str edge.1, .str edge.2])),
      ("risk", .str payload.risk)] }

def commitRelations (commitHash : String) (facts : CommitFacts) (dependencies : List (String × String)) :
    List (Except Error CognitiveRelationCreate) :=
  let relate := fun sourceType sourceId targetType targetId relation =>
    checkRelation ⟨sourceType, sourceId, targetType, targetId, relation, some commitHash, .obj []⟩
  facts.requirements.map (fun requirement => relate "REQUIREMENT" requirement "COMMIT" commitHash "IMPLEMENTED_BY") ++
  facts.decisions.map (fun decision => relate "COMMIT" commitHash "DECISION" decision "BASED_ON") ++
  (given facts.agentId).toList.map (fun agentId => relate "COMMIT" commitHash "AGENT" agentId "CREATED_BY") ++
  facts.skills.map (fun skill => relate "COMMIT" commitHash "SKILL" skill "USED_SKILL") ++
  facts.files.map (fun path => relate "COMMIT" commitHash "FILE" path "MODIFIES") ++
  facts.tests.map (fun test => relate "COMMIT" commitHash "TEST" test "VALIDATED_BY") ++
  dependencies.map fun (source, target) => do
    let source ← safePath source
    let target ← safePath target
    relate "FILE" source "FILE" target "DEPENDS_ON"

/-- `ingest_commit`. -/
def ingestCommit (env : Env) (stop : Option CommitPoint) (projectId : String) (payload : CommitIngest) :
    Service Ingested := do
  let _ ← project projectId
  let existing ← view fun d => (commitEvents d projectId payload.commitHash).head?
  match existing with
  | some event =>
    let found ← view fun d => snapshot d projectId none (some payload.commitHash)
    return { event := event, snapshot := found, idempotent := true }
  | none =>
    let facts ← ofExcept (commitFacts env payload)
    let event ← recordEvent env stop projectId (commitEvent payload facts) false
    let _ ← addRelations env projectId event (commitRelations payload.commitHash facts payload.dependencies)
    save stop .evidence
    let snapshot ← createSnapshot env stop projectId (some payload.commitHash) "MICRO" (some "commit_ingested")
    return { event := event, snapshot := some snapshot, idempotent := false }

def handoffRelations (payload : AgentHandoffCreate) (eventId : String) : List (Except Error CognitiveRelationCreate) :=
  let relate := fun sourceType sourceId targetType targetId relation =>
    checkRelation ⟨sourceType, sourceId, targetType, targetId, relation, none, .obj []⟩
  [relate "AGENT" payload.fromAgent "AGENT" payload.toAgent "HANDOFF_TO",
    relate "HANDOFF" eventId "AGENT" payload.fromAgent "FROM_AGENT",
    relate "HANDOFF" eventId "AGENT" payload.toAgent "TO_AGENT"] ++
  (given payload.snapshotId).toList.map (fun id => relate "HANDOFF" eventId "SNAPSHOT" id "REFERENCES") ++
  payload.requirementIds.map (fun id => relate "HANDOFF" eventId "REQUIREMENT" id "CARRIES_REQUIREMENT") ++
  payload.decisionIds.map fun id => relate "HANDOFF" eventId "DECISION" id "CARRIES_DECISION"

def handoffSnapshot (d : CognitiveDb) (projectId : String) (payload : AgentHandoffCreate) : Bool :=
  (given payload.snapshotId).all fun id => (snapshot d projectId (some id) none).isSome

/-- `handoff`. -/
def handoff (env : Env) (stop : Option CommitPoint) (projectId : String) (payload : AgentHandoffCreate) :
    Service CognitiveEvent := do
  let _ ← project projectId
  let present ← view fun d => handoffSnapshot d projectId payload
  if present then
    let texts := fun (items : List String) => Json.arr (items.map Json.str)
    let event ← recordEvent env stop projectId
      { eventType := "AGENT_HANDOFF", agentId := some payload.fromAgent, snapshotId := payload.snapshotId,
        payload := .obj [("from_agent", .str payload.fromAgent), ("to_agent", .str payload.toAgent),
          ("requirement_ids", texts payload.requirementIds), ("decision_ids", texts payload.decisionIds),
          ("constraints", texts payload.constraints), ("context_hash", .str payload.contextHash)] } false
    let _ ← addRelations env projectId event (handoffRelations payload event.id)
    save stop .evidence
    return event
  else fail (notFound "Cognitive snapshot not found.")

/-- The identifier of a piece of evidence, if it has one: a string or a number. -/
def evidenceId (item : Json) : Option String :=
  match item.get "id" with
  | .str id => if id = "" then none else some id
  | .int id => if id = 0 then none else some (toString id)
  | _ => none

def deliveryRelations (p : DeliveryCompletion) (indexed : Option String) :
    List (Except Error CognitiveRelationCreate) :=
  let relate := fun targetType targetId relation =>
    checkRelation ⟨"DELIVERY", p.deliveryId, targetType, targetId, relation, indexed, .obj []⟩
  [relate "TASK" p.taskId "DELIVERS", relate "RUN" p.runId "COMPLETES", relate "AGENT" p.actorId "CREATED_BY"] ++
  p.requirementIds.map (fun id => relate "REQUIREMENT" id "SATISFIES") ++
  (p.evidence.filterMap evidenceId).map (fun id => relate "EVIDENCE" id "PROVEN_BY") ++
  (given (p.pullRequest.get "url").str?).toList.map (fun url => relate "PULL_REQUEST" url "PROPOSES") ++
  (given indexed).toList.map fun hash => relate "COMMIT" hash "DELIVERS"

/-- The revision of a delivery, if it is an indexed commit. -/
def indexedCommit (d : CognitiveDb) (projectId : String) (sourceRevision : Option String) : Option String :=
  (given sourceRevision).filter fun hash => !(commitEvents d projectId hash).isEmpty

/-- What `record_delivery_completion` answers. -/
structure Delivered where
  event : CognitiveEvent
  snapshot : Option CognitiveSnapshot
  idempotent : Bool

/-- `record_delivery_completion`. -/
def recordDeliveryCompletion (env : Env) (stop : Option CommitPoint) (projectId : String) (p : DeliveryCompletion) :
    Service Delivered := do
  let _ ← project projectId
  let existing ← view fun d => deliveryEvent d projectId p.deliveryId
  match existing with
  | some event =>
    let found ← view fun d => deliverySnapshot d projectId p.deliveryId
    return { event := event, snapshot := found, idempotent := true }
  | none =>
    let indexed ← view fun d => indexedCommit d projectId p.sourceRevision
    let event ← recordEvent env stop projectId
      { eventType := "DELIVERY_COMPLETED", agentId := some p.actorId, commitHash := indexed,
        payload := .obj [("delivery_id", .str p.deliveryId), ("task_id", .str p.taskId), ("run_id", .str p.runId),
          ("requirement_ids", .arr (p.requirementIds.map Json.str)), ("evidence", .arr p.evidence),
          ("pull_request", p.pullRequest), ("traceability", p.traceability),
          ("source_revision", .ofOption p.sourceRevision)] } false
    let _ ← addRelations env projectId event (deliveryRelations p indexed)
    save stop .evidence
    let snapshot ← createSnapshot env stop projectId indexed "FEATURE" (some ("delivery_completed:" ++ p.deliveryId))
    let link ← ofExcept (checkRelation
      ⟨"DELIVERY", p.deliveryId, "SNAPSHOT", snapshot.id, "PART_OF", indexed, .obj []⟩)
    let _ ← addRelation env stop projectId link (some p.actorId)
    return { event := event, snapshot := some snapshot, idempotent := false }

/-- What `reconstruct_context` answers, with the rows its listings are read
from. -/
structure CognitiveContext where
  snapshot : Option CognitiveSnapshot
  task : String
  requirements : List String
  decisions : List String
  skills : List String
  code : List String
  dependencies : List (String × String)
  tests : List String
  agents : List String
  handoffs : List CognitiveEvent
  provenance : List CognitiveEvent

def contextTime (d : CognitiveDb) (projectId : String) (p : ContextReconstruct) : Except Error (Option Nat) :=
  match given p.snapshotId with
  | some _ =>
    match snapshot d projectId p.snapshotId p.commitHash with
    | none => .ok none
    | some found =>
      match given found.commitHash with
      | some hash => timeForCommit d projectId (some hash)
      | none => .ok (some found.createdAt)
  | none => timeForCommit d projectId p.commitHash

/-- `reconstruct_context`. -/
def reconstructContext (env : Env) (stop : Option CommitPoint) (projectId : String) (p : ContextReconstruct) :
    Service CognitiveContext := do
  let found ← view fun d => snapshot d projectId p.snapshotId p.commitHash
  let time ← view fun d => contextTime d projectId p
  let asOf ← ofExcept time
  let edges ← view fun d => relations d projectId asOf
  let state ← view fun d => state d projectId asOf
  let _ ← utcnow
  let recent ← view fun d => events d projectId asOf p.maxItems
  let _ ← recordEvent env stop projectId
    { eventType := "CONTEXT_RECONSTRUCTED", agentId := some p.agentId,
      commitHash := (given p.commitHash).orElse fun _ => found.bind CognitiveSnapshot.commitHash,
      snapshotId := found.map CognitiveSnapshot.id,
      payload := .obj [("task_hash", .str (hash env (.str p.task))), ("max_items", .int p.maxItems)] } true
  return { snapshot := found, task := p.task, requirements := state.requirements.take p.maxItems,
           decisions := state.decisions.take p.maxItems, skills := state.skills.take p.maxItems,
           code := state.files.take p.maxItems,
           dependencies := ((edges.filter fun r => r.relation == "DEPENDS_ON").map
             fun r => (r.sourceId, r.targetId)).take p.maxItems
           tests := state.tests.take p.maxItems, agents := state.agents.take p.maxItems,
           handoffs := recent.filter fun event => event.eventType == "AGENT_HANDOFF", provenance := recent }

end Cognitive
end SacmRuntime
