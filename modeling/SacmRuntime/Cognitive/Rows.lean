import Mathlib.Data.Prod.Lex
import SacmRuntime.Cognitive.Text

namespace SacmRuntime

/-- `cognitive_events`: append-only history of a project. -/
structure CognitiveEvent where
  id : String
  projectId : String
  eventType : String
  agentId : Option String
  commitHash : Option String
  snapshotId : Option String
  traceId : Option String
  parentEventId : Option String
  payload : Json
  previousEventHash : Option String
  eventHash : String
  createdAt : Nat
  deriving DecidableEq

instance : Keyed CognitiveEvent := ⟨CognitiveEvent.id⟩

/-- What `record_event` is given. -/
structure CognitiveEventCreate where
  eventType : String
  agentId : Option String := none
  commitHash : Option String := none
  snapshotId : Option String := none
  traceId : Option String := none
  parentEventId : Option String := none
  payload : Json := .obj []

/-- The limits of the fields of `CognitiveEventCreateV1`. -/
def CognitiveEventCreate.valid (p : CognitiveEventCreate) : Bool :=
  1 ≤ p.eventType.length && p.eventType.length ≤ 120 && p.agentId.all (·.length ≤ 200) &&
    p.commitHash.all (·.length ≤ 128) && p.snapshotId.all (·.length ≤ 100) && p.traceId.all (·.length ≤ 200) &&
    p.parentEventId.all (·.length ≤ 100)

/-- `cognitive_relations`: temporal edges of the provenance graph. -/
structure CognitiveRelation where
  id : String
  projectId : String
  sourceType : String
  sourceId : String
  targetType : String
  targetId : String
  relation : String
  commitHash : Option String
  metadata : Json
  createdEventId : String
  validFrom : Nat
  deriving DecidableEq

instance : Keyed CognitiveRelation := ⟨CognitiveRelation.id⟩

/-- The columns of `uq_cognitive_relation_event`. -/
def CognitiveRelation.edge (r : CognitiveRelation) : List String :=
  [r.projectId, r.sourceType, r.sourceId, r.targetType, r.targetId, r.relation, r.createdEventId]

structure CognitiveRelationCreate where
  sourceType : String
  sourceId : String
  targetType : String
  targetId : String
  relation : String
  commitHash : Option String := none
  metadata : Json := .obj []

/-- The limits of the fields of `CognitiveRelationCreateV1`. -/
def CognitiveRelationCreate.valid (p : CognitiveRelationCreate) : Bool :=
  1 ≤ p.sourceType.length && p.sourceType.length ≤ 80 && 1 ≤ p.sourceId.length && p.sourceId.length ≤ 500 &&
    1 ≤ p.targetType.length && p.targetType.length ≤ 80 && 1 ≤ p.targetId.length && p.targetId.length ≤ 500 &&
    1 ≤ p.relation.length && p.relation.length ≤ 100 && p.commitHash.all (·.length ≤ 128)

/-- What a project consists of, as `_state` collects it. -/
structure CognitiveState where
  requirements : List String
  decisions : List String
  agents : List String
  skills : List String
  files : List String
  tests : List String
  commits : List String
  services : List String
  deriving DecidableEq

/-- `cognitive_snapshots`. The stored state also says when, for which commit
and why it was taken. -/
structure CognitiveSnapshot where
  id : String
  projectId : String
  commitHash : Option String
  snapshotType : String
  state : CognitiveState
  generatedAt : Nat
  reason : Option String
  stateHash : String
  createdAt : Nat
  deriving DecidableEq

instance : Keyed CognitiveSnapshot := ⟨CognitiveSnapshot.id⟩

inductive CommitJobState where
  | queued
  | running
  | completed
  | failed
  deriving DecidableEq

/-- `cognitive_commit_jobs`. -/
structure CognitiveCommitJob where
  id : String
  projectId : String
  commitHash : String
  agentId : Option String
  traceId : Option String
  semanticSummary : Option String
  state : CommitJobState
  attempt : Nat
  maxAttempts : Int
  availableAt : Nat
  leaseToken : Option String
  leaseExpiresAt : Option Nat
  lastError : Option String
  createdAt : Nat
  updatedAt : Nat
  completedAt : Option Nat
  deriving DecidableEq

instance : Keyed CognitiveCommitJob := ⟨CognitiveCommitJob.id⟩

structure CognitiveProject where
  id : String
  repositoryPath : Option String
  deriving DecidableEq

instance : Keyed CognitiveProject := ⟨CognitiveProject.id⟩

structure CognitiveDb where
  projects : Table CognitiveProject
  events : Table CognitiveEvent
  relations : Table CognitiveRelation
  snapshots : Table CognitiveSnapshot
  jobs : Table CognitiveCommitJob

namespace CognitiveDb

def initial (projects : Table CognitiveProject) : CognitiveDb := ⟨projects, .empty, .empty, .empty, .empty⟩

/-- The events of a project, in the order they were appended. -/
def eventsOf (d : CognitiveDb) (projectId : String) : List CognitiveEvent :=
  d.events.rows.filter fun event => event.projectId == projectId

end CognitiveDb

/-- What `ORDER BY created_at, id` compares. -/
def CognitiveEvent.key (event : CognitiveEvent) : ℕ ×ₗ String := toLex (event.createdAt, event.id)

/-- What `ORDER BY valid_from, id` compares. -/
def CognitiveRelation.key (r : CognitiveRelation) : ℕ ×ₗ String := toLex (r.validFrom, r.id)

/-- What an analysis of a commit hands to `ingest_commit`. -/
structure CommitIngest where
  commitHash : String
  parentHash : Option String := none
  branch : Option String := none
  message : String := ""
  agentId : Option String := none
  traceId : Option String := none
  requirements : List String := []
  decisions : List String := []
  skills : List String := []
  files : List String := []
  tests : List String := []
  dependencies : List (String × String) := []
  semanticSummary : Option String := none
  risk : String := "MEDIUM"

/-- The limits of the fields of `CommitIngestV1`. -/
def CommitIngest.valid (p : CommitIngest) : Bool :=
  7 ≤ p.commitHash.length && p.commitHash.length ≤ 128 && p.parentHash.all (·.length ≤ 128) &&
    p.branch.all (·.length ≤ 300) && p.message.length ≤ 20000 && p.agentId.all (·.length ≤ 200) &&
    p.traceId.all (·.length ≤ 200) && p.requirements.length ≤ 100 && p.decisions.length ≤ 100 &&
    p.skills.length ≤ 100 && p.files.length ≤ 10000 && p.tests.length ≤ 10000 && p.dependencies.length ≤ 10000 &&
    p.semanticSummary.all (·.length ≤ 50000) && p.risk ∈ ["LOW", "MEDIUM", "HIGH", "CRITICAL"]

structure AgentHandoffCreate where
  fromAgent : String
  toAgent : String
  snapshotId : Option String
  requirementIds : List String
  decisionIds : List String
  constraints : List String
  contextHash : String

/-- The arguments of `record_delivery_completion`. -/
structure DeliveryCompletion where
  deliveryId : String
  taskId : String
  runId : String
  actorId : String
  requirementIds : List String
  evidence : List Json
  pullRequest : Json
  traceability : Json
  sourceRevision : Option String

/-- The arguments of `reconstruct_context`. -/
structure ContextReconstruct where
  agentId : String
  task : String
  commitHash : Option String
  snapshotId : Option String
  maxItems : Nat

end SacmRuntime
