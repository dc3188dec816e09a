import SacmRuntime.Cognitive.Transactions
import SacmRuntime.Lib.HexText
import SacmRuntime.Lib.JsonTail
import SacmRuntime.Lib.LatestLink

namespace SacmRuntime
namespace Cognitive
open Session

inductive Operation where
  | recordEvent (projectId : String) (payload : CognitiveEventCreate)
  | addRelation (projectId : String) (payload : CognitiveRelationCreate) (actorId : Option String)
  | ingestCommit (projectId : String) (payload : CommitIngest)
  | handoff (projectId : String) (payload : AgentHandoffCreate)
  | createSnapshot (projectId : String) (commitHash : Option String) (snapshotType : String) (reason : Option String)
  | recordDeliveryCompletion (projectId : String) (payload : DeliveryCompletion)
  | reconstructContext (projectId : String) (payload : ContextReconstruct)

def Operation.run (env : Env) (stop : Option CommitPoint) : Operation → Service Unit
  | .recordEvent projectId payload => Tx.void (Cognitive.recordEvent env stop projectId payload true)
  | .addRelation projectId payload actorId => Tx.void (Cognitive.addRelation env stop projectId payload actorId)
  | .ingestCommit projectId payload => Tx.void (Cognitive.ingestCommit env stop projectId payload)
  | .handoff projectId payload => Tx.void (Cognitive.handoff env stop projectId payload)
  | .createSnapshot projectId commitHash snapshotType reason =>
    Tx.void (Cognitive.createSnapshot env stop projectId commitHash snapshotType reason)
  | .recordDeliveryCompletion projectId payload =>
      Tx.void (Cognitive.recordDeliveryCompletion env stop projectId payload)
  | .reconstructContext projectId payload => Tx.void (Cognitive.reconstructContext env stop projectId payload)

/-- The store after an operation, which may stop after one of its commits. -/
def Operation.after (env : Env) (op : Operation × Option CommitPoint) (d : CognitiveDb) (supply : Supply) :
    CognitiveDb :=
  (request (op.1.run env op.2) d supply).2

/-- The operation indexes commits, if any, by ingesting them. -/
def Operation.Ingests : Operation → Prop
  | .recordEvent _ payload => payload.eventType ≠ "COMMIT_CREATED"
  | .ingestCommit _ payload => payload.valid = true
  | _ => True

abbrev History (env : Env) : CognitiveDb → CognitiveDb → Prop := Path (Operation.after env) fun _ _ _ => True

section
variable {env : Env} {direct : Bool} {d e : CognitiveDb} {supply : Supply}

theorem CommitIngest.commitHash_ne {payload : CommitIngest} (valid : payload.valid = true) :
    payload.commitHash ≠ "" := by
  intro empty
  simp [CommitIngest.valid, empty] at valid

theorem Operation.after_advances {op : Operation} {stop : Option CommitPoint} (ingests : direct = false → op.Ingests) :
    Advances env direct d (Operation.after env (op, stop) d supply) := by
  have clean : (start d supply).committed = (start d supply).working := rfl
  cases op with
  | recordEvent projectId payload =>
    exact ends_return (recordEvent_ends clean fun indirect => not_misindexes (ingests indirect))
  | addRelation projectId payload actorId => exact ends_return (addRelation_ends clean)
  | ingestCommit projectId payload =>
      exact ends_return (ingestCommit_ends clean fun indirect => CommitIngest.commitHash_ne (ingests indirect))
  | handoff projectId payload => exact ends_return (handoff_ends clean)
  | createSnapshot projectId commitHash snapshotType reason => exact createSnapshot_ends clean
  | recordDeliveryCompletion projectId payload => exact ends_return (recordDeliveryCompletion_ends clean)
  | reconstructContext projectId payload => exact ends_return (reconstructContext_ends clean)

theorem History.advances (history : History env d e) : Advances env true d e := by
  induction history with
  | start => exact .refl
  | next before op supply _ ih => exact ih.trans (Operation.after_advances (by simp))

theorem Advances.keeps {I : CognitiveDb → Prop} (advances : Advances env direct d e)
    (step : ∀ d e, Transaction env direct d e → I d → I e) (first : I d) : I e := by
  induction advances with
  | refl => exact first
  | tail _ last ih => exact step _ _ last ih

structure Extends (d e : CognitiveDb) : Prop where
  events : d.events.rows <+: e.events.rows
  relations : d.relations.rows <+: e.relations.rows
  snapshots : d.snapshots.rows <+: e.snapshots.rows

theorem Transaction.extends_ (transaction : Transaction env direct d e) : Extends d e := by
  cases transaction with
  | evidence _ _ _ _ rows events relations _ snapshots =>
    exact ⟨events ▸ List.prefix_append _ _, relations ▸ List.prefix_append _ _, snapshots ▸ List.prefix_rfl⟩
  | snapshot _ _ _ _ _ _ events relations snapshots =>
    exact ⟨events ▸ List.prefix_append _ _, relations ▸ List.prefix_rfl, snapshots ▸ List.prefix_append _ _⟩
  | other events relations snapshots =>
    exact ⟨events ▸ List.prefix_rfl, relations ▸ List.prefix_rfl, snapshots ▸ List.prefix_rfl⟩

/-- Whatever operations are made, wherever they raise or stop between their
commits, the cognitive history is only added to. -/
theorem cognitive_append_only (env : Env) (d : CognitiveDb)
    (operations : List ((Operation × Option CommitPoint) × Supply)) :
    Extends d (Path.storeAfter (Operation.after env) d operations) := by
  have history : History env d (Path.storeAfter (Operation.after env) d operations) :=
    .of_requests (fun _ _ _ => trivial) .start
  refine history.advances.keeps (fun _ _ transaction kept => ?_) ⟨List.prefix_rfl, List.prefix_rfl, List.prefix_rfl⟩
  have last := transaction.extends_
  exact ⟨kept.events.trans last.events, kept.relations.trans last.relations, kept.snapshots.trans last.snapshots⟩

/-- A transaction leaves the events of a project, or appends the one that
`record_event` builds. -/
theorem Transaction.eventsOf (transaction : Transaction env direct d e) (projectId : String) :
    e.eventsOf projectId = d.eventsOf projectId ∨ ∃ payload createdAt id,
      e.eventsOf projectId =
        d.eventsOf projectId ++ [newEvent env projectId payload (lastEvent d projectId) createdAt id] := by
  have recorded : ∀ project payload createdAt id,
      e.events.rows = d.events.rows ++ [newEvent env project payload (lastEvent d project) createdAt id] →
      e.eventsOf projectId = d.eventsOf projectId ∨ ∃ payload createdAt id,
        e.eventsOf projectId =
          d.eventsOf projectId ++ [newEvent env projectId payload (lastEvent d projectId) createdAt id] := by
    intro project payload createdAt id rows
    unfold CognitiveDb.eventsOf
    rw [rows, List.filter_append]
    by_cases own : project = projectId
    · subst own
      exact .inr ⟨payload, createdAt, id, by simp [newEvent, draft]⟩
    · exact .inl (by simp [newEvent, draft, own])
  cases transaction with
  | evidence project payload createdAt id _ events => exact recorded project payload createdAt id events
  | snapshot project payload createdAt id _ _ events => exact recorded project payload createdAt id events
  | other events =>
    left
    unfold CognitiveDb.eventsOf
    rw [events]

end

/-- Events as entries that name the newest of their project before them. -/
def historyLink : LatestLink CognitiveEvent (ℕ ×ₗ String) String where
  key := CognitiveEvent.key
  previous := CognitiveEvent.previousEventHash
  hash := CognitiveEvent.eventHash

/-- How the events of a project came about: each names the newest before it,
and its hash is the digest of what it says. -/
structure Chronicle (env : Env) (projectId : String) (d : CognitiveDb) : Prop where
  grown : historyLink.Grown (d.eventsOf projectId)
  hashed : ∀ event ∈ d.eventsOf projectId, event.eventHash = hash env (canonical event)

section
variable {env : Env} {direct : Bool} {d e : CognitiveDb} {projectId : String}

theorem hash_newEvent (payload : CognitiveEventCreate) (previous : Option CognitiveEvent) (createdAt : Nat)
    (id : String) :
    (newEvent env projectId payload previous createdAt id).eventHash =
      hash env (canonical (newEvent env projectId payload previous createdAt id)) := rfl

theorem Chronicle.step (transaction : Transaction env direct d e) (chronicle : Chronicle env projectId d) :
    Chronicle env projectId e := by
  rcases transaction.eventsOf projectId with same | ⟨payload, createdAt, id, appended⟩
  · exact ⟨same ▸ chronicle.grown, same ▸ chronicle.hashed⟩
  · refine ⟨appended ▸ .next chronicle.grown rfl, fun event member => ?_⟩
    rw [appended] at member
    rcases List.mem_append.mp member with old | new
    · exact chronicle.hashed event old
    · cases List.mem_singleton.mp new
      exact hash_newEvent payload _ createdAt id

theorem chronicle_initial (projects : Table CognitiveProject) : Chronicle env projectId (.initial projects) :=
  ⟨.start, fun _ member => absurd member List.not_mem_nil⟩

theorem History.chronicle {projects : Table CognitiveProject} (history : History env (.initial projects) d) :
    Chronicle env projectId d :=
  history.advances.keeps (fun _ _ transaction => Chronicle.step transaction) (chronicle_initial projects)

open Json in
/-- The text of an event's document up to the name of its predecessor. -/
def frontText (event : CognitiveEvent) : List Char :=
  '\x7b' :: (commaJoin ([("agent_id", dumps true (ofOption event.agentId)),
    ("commit_hash", dumps true (ofOption event.commitHash)),
    ("created_at", dumps true (.str (String.ofList (isoMicroseconds event.createdAt)))),
    ("event_type", dumps true (.str event.eventType)), ("parent_event_id", dumps true (ofOption event.parentEventId)),
    ("payload", dumps true event.payload)].map (member true)) ++ ',' :: quote true "previous_event_hash".toList)

open Json in
theorem dumps_canonical (event : CognitiveEvent) : dumps true (canonical event) =
    (((frontText event ++ ':' :: dumps true (ofOption event.previousEventHash)) ++
      ',' :: quote true "project_id".toList ++
      ':' :: quote true event.projectId.toList) ++ ',' :: quote true "snapshot_id".toList ++
      ':' :: dumps true (ofOption event.snapshotId)) ++ ',' :: quote true "trace_id".toList ++
      ':' :: dumps true (ofOption event.traceId) ++ ['\x7d'] := by
  simp [canonical, frontText, dumps, dumpsFields, sortByKey, List.insertionSort, List.orderedInsert, commaJoin, member]

theorem previous_of_text {a b : CognitiveEvent} (same : (canonical a).text true = (canonical b).text true) :
    Json.dumps true (.ofOption a.previousEventHash) = Json.dumps true (.ofOption b.previousEventHash) := by
  have whole := String.ofList_injective same
  rw [dumps_canonical a, dumps_canonical b] at whole
  have traces := (Json.ofOption_tail (List.append_cancel_right whole)).1
  have snapshots := (Json.ofOption_tail (List.append_cancel_right traces)).1
  have projects := (Json.quote_tail (List.append_cancel_right snapshots)).1
  exact (Json.ofOption_tail (List.append_cancel_right projects)).2

theorem Chronicle.separated (digest : Digest env.sha256) (chronicle : Chronicle env projectId d) :
    historyLink.Separated (d.eventsOf projectId) := by
  have digits : ∀ event ∈ d.eventsOf projectId, ∀ h, event.previousEventHash = some h →
      ∀ c ∈ h.toList, c ∈ "0123456789abcdef".toList := by
    intro event member h names
    obtain ⟨other, inLog, rfl⟩ := chronicle.grown.named member names
    change ∀ c ∈ other.eventHash.toList, _
    rw [chronicle.hashed other inLog]
    exact digest.digits _
  intro a inA b inB same
  change a.eventHash = b.eventHash at same
  rw [chronicle.hashed a inA, chronicle.hashed b inB] at same
  exact ofOption_digits (digits a inA) (digits b inB) (previous_of_text (digest.injective same))

end

/-- The first event was given the smaller timestamp, or with the same one the smaller identifier. -/
def InOrder (a b : CognitiveEvent) : Prop := a.createdAt < b.createdAt ∨ a.createdAt = b.createdAt ∧ a.id < b.id

theorem ascending_iff (events : List CognitiveEvent) : historyLink.Ascending events ↔ events.Pairwise InOrder := by
  unfold LatestLink.Ascending
  refine List.Pairwise.iff fun a b => ?_
  exact Prod.Lex.toLex_lt_toLex

theorem keys_nodup (d : CognitiveDb) (projectId : String) : ((d.eventsOf projectId).map historyLink.key).Nodup := by
  have ids : ((d.eventsOf projectId).map CognitiveEvent.id).Nodup :=
    (List.filter_sublist.map CognitiveEvent.id).nodup d.events.distinct
  have same : (d.eventsOf projectId).map CognitiveEvent.id =
      ((d.eventsOf projectId).map historyLink.key).map fun key => (ofLex key).2 := by
    rw [List.map_map]
    rfl
  rw [same] at ids
  exact ids.of_map _

/-- The history of a project is one chain exactly if every event but the
latest was given a timestamp and identifier above those before it. -/
theorem cognitive_history_linear {env : Env} {projects : Table CognitiveProject} {d : CognitiveDb}
    (digest : Digest env.sha256) (history : History env (.initial projects) d) (projectId : String) :
    historyLink.Linear (d.eventsOf projectId) ↔ (d.eventsOf projectId).dropLast.Pairwise InOrder := by
  have chronicle : Chronicle env projectId d := history.chronicle
  rw [← ascending_iff]
  exact chronicle.grown.linear_iff (keys_nodup d projectId) (chronicle.separated digest)

namespace HistorySample

def env : Env := ⟨fun text => String.ofList (HexText.hexText text.toList), fun c => c == ' ', id⟩

theorem digest : Digest env.sha256 where
  injective a b same := String.toList_injective (HexText.hexText_injective (String.ofList_injective same))
  digits text c member := HexText.hexText_mem (by simpa [env] using member)

def projects : Table CognitiveProject := .ofRows [⟨"project", none⟩]

/-- Events with the given identifiers, all recorded at one instant. -/
def recorded (ids : List String) : CognitiveDb :=
  Path.storeAfter (Operation.after env) (.initial projects)
    (ids.map fun id => ((.recordEvent "project" ⟨"NOTE", none, none, none, none, none, .obj []⟩, none),
      ⟨fun _ => 7, fun _ => id, fun _ => ""⟩))

/-- The timestamp and the identifier that an event was given. -/
def stamp (event : CognitiveEvent) : Nat × String := (event.createdAt, event.id)

theorem recorded_stamps : ∀ ids ∈ [["b", "a", "c"], ["a", "b", "c"]],
    ((recorded ids).eventsOf "project").map stamp = ids.map fun id => (7, id) := by
  decide +kernel

theorem inOrder_iff {events : List CognitiveEvent} {stamps : List (Nat × String)} (given : events.map stamp = stamps) :
    events.dropLast.Pairwise InOrder ↔ stamps.dropLast.Pairwise fun p q => p.1 < q.1 ∨ p.1 = q.1 ∧ p.2 < q.2 := by
  rw [← given, ← List.map_dropLast, List.pairwise_map]
  rfl

theorem recorded_run (ids : List String) :
    Path (Operation.after env) (fun _ supply _ => ∀ n, supply.clock n = 7) (.initial projects) (recorded ids) := by
  refine Path.of_requests (fun request member d n => ?_) .start
  obtain ⟨id, -, rfl⟩ := List.mem_map.mp member
  rfl

theorem recorded_history (ids : List String) : History env (.initial projects) (recorded ids) :=
  Path.of_requests (fun _ _ _ => trivial) .start

end HistorySample

open HistorySample in
/-- Three events of one instant whose identifiers ascend. -/
theorem cognitive_history_linear_sample :
    Digest env.sha256 ∧ historyLink.Linear ((recorded ["a", "b", "c"]).eventsOf "project") := by
  refine ⟨digest, (cognitive_history_linear digest (recorded_history _) "project").mpr ?_⟩
  rw [inOrder_iff (recorded_stamps _ (by decide))]
  decide

open HistorySample in
/-- Three events of one instant: the second is given a smaller identifier
than the first, and the third names the first again. -/
theorem cognitive_history_forks : ∃ d, Digest env.sha256 ∧
    Path (Operation.after env) (fun _ supply _ => ∀ n, supply.clock n = 7) (.initial projects) d ∧
    ¬historyLink.Linear (d.eventsOf "project") := by
  refine ⟨recorded ["b", "a", "c"], digest, recorded_run _, fun linear => ?_⟩
  have chronicle : Chronicle env "project" (recorded ["b", "a", "c"]) := (recorded_history _).chronicle
  have ascending := chronicle.grown.ascending (keys_nodup _ _) linear
  rw [ascending_iff, inOrder_iff (recorded_stamps _ (by decide))] at ascending
  revert ascending
  decide

end Cognitive
end SacmRuntime
