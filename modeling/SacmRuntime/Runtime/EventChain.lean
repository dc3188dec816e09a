import SacmRuntime.Lib.HashChain
import SacmRuntime.Lib.HexText
import SacmRuntime.Lib.JsonTail
import SacmRuntime.Runtime.Operations

namespace SacmRuntime
open Session SnapshotService

/-- Run events as links of a chain: an event is sound when its hash is the
one the snapshot validator computes. -/
def eventLink (env : Env) (runId : String) : ChainLink RuntimeEvent String where
  number := RuntimeEvent.sequence
  previous := RuntimeEvent.previousEventHash
  hash := RuntimeEvent.eventHash
  Sound event := event.eventHash = expectedHash env runId event

/-- The events of every run form a chain that begins at one. -/
def Chained (env : Env) (d : Db) : Prop := ∀ runId, (eventLink env runId).Linked 1 none (d.eventsOf runId)

def Anchored (d : Db) : Prop :=
  ∀ snapshot ∈ d.snapshots, ∃ event ∈ d.eventsOf snapshot.content.runId,
    event.sequence = snapshot.content.eventSequence ∧ event.eventHash = snapshot.content.eventHash

/-- What the event log keeps during a unit of work. The stored events are the
first of those held, so pending events follow all persisted ones. -/
structure LogKept (env : Env) (s : Session Db) : Prop where
  chained : Everywhere (Chained env) s
  anchored : Everywhere Anchored s
  stored : s.flushed.events <+: s.working.events

section
variable {env : Env} {p : Permit} {s t : Session Db} {d : Db} {runId : String}

theorem eventsOf_subset {e : Db} (grown : d.events <+: e.events) : d.eventsOf runId ⊆ e.eventsOf runId :=
  List.filter_subset _ grown.subset

/-- The predecessor `_append_event` finds is the last event held. -/
theorem previousEvent_eq (kept : LogKept env s) (runId : String) :
    previousEvent s runId = (s.working.eventsOf runId).getLast? := by
  have chain := kept.chained.working runId
  have held : ∀ event ∈ (s.flushed.lastEvent runId).toList ++
      ((s.working.eventsOf runId).filter fun event => decide (event ∉ s.flushed.events)),
      event ∈ s.working.eventsOf runId := by
    intro event member
    rcases List.mem_append.mp member with persisted | pending
    · exact eventsOf_subset kept.stored (List.argmax_mem (Option.mem_toList.mp persisted))
    · exact List.mem_of_mem_filter pending
  cases last : (s.working.eventsOf runId).getLast? with
  | none =>
    refine List.argmax_eq_none.mpr (List.eq_nil_iff_forall_not_mem.mpr fun event member => ?_)
    have inRun := held event member
    rw [List.getLast?_eq_none_iff.mp last] at inRun
    exact List.not_mem_nil inRun
  | some newest =>
    refine chain.argmax_eq last held (List.mem_append.mpr ?_)
    have atLast : newest ∈ s.working.eventsOf runId := List.mem_of_getLast? last
    by_cases persisted : newest ∈ s.flushed.events
    · have inRun : newest ∈ s.flushed.eventsOf runId :=
        List.mem_filter.mpr ⟨persisted, (List.mem_filter.mp atLast).2⟩
      have found : s.flushed.lastEvent runId = some newest :=
        chain.argmax_eq last (fun _ member => eventsOf_subset kept.stored member) inRun
      exact .inl (by simp [found])
    · exact .inr (List.mem_filter.mpr ⟨atLast, by simpa using persisted⟩)

/-- The event `_append_event` adds continues the chain of its run. -/
theorem nextEvent_linked (kept : LogKept env s) (run : Run) (eventType actor : String) (payload : Json)
    (stepId : Option String) (occurredAt : Nat) :
    (eventLink env run.id).Linked 1 none
      (s.working.eventsOf run.id ++ [nextEvent env s run eventType actor payload stepId occurredAt]) := by
  have chain := kept.chained.working run.id
  have before := previousEvent_eq kept run.id
  refine chain.extend ?_ ?_ rfl
  · rw [← before]
    show (nextEvent env s run eventType actor payload stepId occurredAt).sequence = _
    unfold nextEvent
    cases previousEvent s run.id <;> rfl
  · change (previousEvent s run.id).map RuntimeEvent.eventHash = _
    rw [before]
    unfold ChainLink.tip
    cases (s.working.eventsOf run.id).getLast? <;> rfl

theorem eventsOf_append {event : RuntimeEvent} :
    Db.eventsOf { d with events := d.events ++ [event] } runId =
      d.eventsOf runId ++ if event.runId = runId then [event] else [] := by
  unfold Db.eventsOf
  rw [List.filter_append]
  by_cases same : event.runId = runId <;> simp [same]

theorem Anchored.grow {e : Db} (anchored : Anchored d) (grown : d.events <+: e.events)
    (same : e.snapshots = d.snapshots) : Anchored e := by
  intro snapshot member
  obtain ⟨event, inRun, anchor⟩ := anchored snapshot (same ▸ member)
  exact ⟨event, eventsOf_subset grown inRun, anchor⟩

theorem Write.keeps_log (write : Write env p s d) (kept : LogKept env s) :
    Chained env d ∧ Anchored d ∧ s.working.events <+: d.events := by
  cases write with
  | other _ _ events snapshots =>
    have grown : s.working.events <+: d.events := events ▸ List.prefix_rfl
    refine ⟨fun id => ?_, kept.anchored.working.grow grown snapshots, grown⟩
    unfold Db.eventsOf
    rw [events]
    exact kept.chained.working id
  | insertRun | run | insertStep | step | insertJob | job =>
    exact ⟨kept.chained.working, kept.anchored.working, List.prefix_rfl⟩
  | event run eventType actor payload stepId occurredAt =>
    refine ⟨fun id => ?_, kept.anchored.working.grow (List.prefix_append _ _) rfl, List.prefix_append _ _⟩
    rw [eventsOf_append]
    by_cases here : run.id = id
    · subst here
      rw [if_pos (by rfl)]
      exact nextEvent_linked kept run eventType actor payload stepId occurredAt
    · rw [if_neg (by exact here), List.append_nil]
      exact kept.chained.working id
  | @snapshot snapshot event newest sequence hash =>
    refine ⟨kept.chained.working, ?_, List.prefix_rfl⟩
    intro other member
    rcases List.mem_append.mp member with old | new
    · exact kept.anchored.working other old
    · cases List.mem_singleton.mp new
      exact ⟨event, eventsOf_subset kept.stored (List.argmax_mem newest), sequence.symm, hash.symm⟩

theorem Session.Step.keeps_log (step : Step (Write env p) s t) (kept : LogKept env s) : LogKept env t := by
  obtain ⟨chained, anchored, stored⟩ := kept
  cases step with
  | write allowed =>
    obtain ⟨nextChained, nextAnchored, grown⟩ := allowed.keeps_log ⟨chained, anchored, stored⟩
    exact ⟨⟨chained.committed, chained.flushed, nextChained⟩,
      ⟨anchored.committed, anchored.flushed, nextAnchored⟩, stored.trans grown⟩
  | flush =>
    exact ⟨⟨chained.committed, chained.working, chained.working⟩,
      ⟨anchored.committed, anchored.working, anchored.working⟩, List.prefix_rfl⟩
  | commit =>
    exact ⟨⟨chained.working, chained.working, chained.working⟩,
      ⟨anchored.working, anchored.working, anchored.working⟩, List.prefix_rfl⟩
  | rollback =>
    exact ⟨⟨chained.committed, chained.committed, chained.committed⟩,
      ⟨anchored.committed, anchored.committed, anchored.committed⟩, List.prefix_rfl⟩
  | draw =>
    exact ⟨⟨chained.committed, chained.flushed, chained.working⟩,
      ⟨anchored.committed, anchored.flushed, anchored.working⟩, stored⟩

theorem Operation.keeps_log {supply : Supply} {op : Operation} (chained : Chained env d) (anchored : Anchored d) :
    Chained env (op.after env d supply) ∧ Anchored (op.after env d supply) := by
  have first : LogKept env (start d supply) :=
    ⟨start_everywhere supply chained, start_everywhere supply anchored, List.prefix_rfl⟩
  have last := (op.writes env d supply).keeps (fun _ _ step => step.keeps_log) first
  exact ⟨last.chained.committed, last.anchored.committed⟩

end

theorem checkLinks_of_linked {env : Env} {runId : String} {events : List RuntimeEvent} {n : Nat}
    {before : Option String} (linked : (eventLink env runId).Linked n before events) :
    checkLinks env runId n before events = .ok () := by
  induction events generalizing n before with
  | nil => rfl
  | cons event rest ih =>
    obtain ⟨number, previous, sound, linked⟩ := linked
    unfold checkLinks
    rw [if_neg]
    · exact ih linked
    · rintro (unnumbered | unlinked | unsound)
      · exact unnumbered number
      · exact unlinked previous
      · exact unsound sound

theorem validateEventChain_ok {env : Env} {d : Db} {snapshot : RunSnapshot} (chained : Chained env d)
    (anchored : Anchored d) (member : snapshot ∈ d.snapshots) :
    validateEventChain env d snapshot.content.runId snapshot = .ok () := by
  obtain ⟨event, inRun, sequence, hash⟩ := anchored snapshot member
  have chain := chained snapshot.content.runId
  have bounds := chain.number_lt inRun
  change 1 ≤ event.sequence ∧ event.sequence < 1 + (d.eventsOf snapshot.content.runId).length at bounds
  have cut : ((d.eventsOf snapshot.content.runId).filter fun event =>
      decide (event.sequence ≤ snapshot.content.eventSequence)) =
        (d.eventsOf snapshot.content.runId).take snapshot.content.eventSequence := by
    rw [← chain.filter_le]
    congr 1
    funext other
    change decide _ = decide (other.sequence < _)
    simp only [decide_eq_decide]
    omega
  have linked := chain.take snapshot.content.eventSequence
  have length : ((d.eventsOf snapshot.content.runId).take snapshot.content.eventSequence).length =
      snapshot.content.eventSequence := by
    rw [List.length_take]
    omega
  have ordered : Table.orderBy RuntimeEvent.sequence
      ((d.eventsOf snapshot.content.runId).take snapshot.content.eventSequence) =
        (d.eventsOf snapshot.content.runId).take snapshot.content.eventSequence := linked.sorted (.refl _)
  unfold validateEventChain
  dsimp only
  rw [cut, ordered, if_neg (not_not.mpr length), checkLinks_of_linked linked]
  cases last : ((d.eventsOf snapshot.content.runId).take snapshot.content.eventSequence).getLast? with
  | none =>
    rw [List.getLast?_eq_none_iff.mp last] at length
    simp only [List.length_nil] at length
    omega
  | some newest =>
    have top : newest.sequence + 1 = 1 + _ := linked.number_last last
    rw [length] at top
    have same : newest = event := chain.number_inj (List.mem_of_mem_take (List.mem_of_getLast? last)) inRun
      (show newest.sequence = event.sequence by omega)
    subst same
    simp [sequence, hash, bind, Except.bind, pure, Except.pure]

/-- Along every run of the control plane that begins with an empty log, the
stored events of each run are numbered from one, each carries the hash of
its predecessor, and the validator accepts every snapshot. -/
theorem event_log_chain {env : Env} {d e : Db} (path : Execution env (fun _ _ _ => True) d e)
    (noEvents : d.events = []) (noSnapshots : d.snapshots = []) (runId : String) :
    (e.eventsOf runId).map RuntimeEvent.sequence = List.range' 1 (e.eventsOf runId).length ∧
    (∀ first, (e.eventsOf runId).head? = some first → first.previousEventHash = none) ∧
    (∀ i first second, (e.eventsOf runId)[i]? = some first → (e.eventsOf runId)[i + 1]? = some second →
      second.previousEventHash = some first.eventHash) ∧
    ∀ snapshot ∈ e.snapshots, snapshot.content.runId = runId → validateEventChain env e runId snapshot = .ok () := by
  have kept : Chained env e ∧ Anchored e := by
    refine path.keeps (P := fun e => Chained env e ∧ Anchored e) (fun _ _ _ _ kept => Operation.keeps_log kept.1 kept.2)
      ⟨fun id => ?_, ?_⟩
    · unfold Db.eventsOf
      rw [noEvents]
      trivial
    · unfold Anchored
      simp [noSnapshots]
  have chain := kept.1 runId
  refine ⟨chain.numbers, ?_, fun i first second atFirst atSecond => chain.previous_succ atFirst atSecond, ?_⟩
  · intro first atHead
    cases events : e.eventsOf runId with
    | nil => simp [events] at atHead
    | cons head rest =>
      rw [events] at chain atHead
      simp only [List.head?_cons, Option.some.injEq] at atHead
      exact atHead ▸ chain.2.1
  · intro snapshot member ofRun
    subst ofRun
    exact validateEventChain_ok kept.1 kept.2 member

namespace Sample

def checkpointing : Env := { env with snapshotsAvailable := true }

/-- A planned run that moves on, and then has its step started. -/
def moved : Db :=
  Operation.after checkpointing (.startStep "r" "s")
    (Operation.after checkpointing (.transition "r" .implementing "Started" "system" (.obj []) none)
      (store .planning .pending) supply) supply

end Sample

open Sample in
theorem event_log_chain_sample :
    (moved.snapshots.length = 1 ∧ moved.events.length = 2) ∧
    (moved.eventsOf "r").map RuntimeEvent.sequence = List.range' 1 (moved.eventsOf "r").length ∧
    (∀ first, (moved.eventsOf "r").head? = some first → first.previousEventHash = none) ∧
    (∀ i first second, (moved.eventsOf "r")[i]? = some first → (moved.eventsOf "r")[i + 1]? = some second →
      second.previousEventHash = some first.eventHash) ∧
    ∀ snapshot ∈ moved.snapshots, snapshot.content.runId = "r" →
      validateEventChain checkpointing moved "r" snapshot = .ok () :=
  ⟨by decide +kernel, event_log_chain (.next (.next .start _ supply trivial) _ supply trivial) rfl rfl "r"⟩

/-- The record of an event whose hash the validator computes. -/
def RuntimeEvent.record (runId : String) (event : RuntimeEvent) : Json :=
  .obj [("run_id", .str runId), ("step_id", .ofOption event.stepId), ("sequence", .int event.sequence),
    ("event_type", .str event.eventType), ("actor", .str event.actor), ("payload", event.payload),
    ("previous_event_hash", .ofOption event.previousEventHash), ("occurred_at", .str (isoformat event.occurredAt))]

/-- The stored events that the validator reads for a snapshot. -/
def RunSnapshot.sealed (snapshot : RunSnapshot) (d : Db) : List RuntimeEvent :=
  Table.orderBy RuntimeEvent.sequence ((d.eventsOf snapshot.content.runId).filter fun event =>
    decide (event.sequence ≤ snapshot.content.eventSequence))

theorem Execution.log_kept {env : Env} {d e : Db} (path : Execution env (fun _ _ _ => True) d e)
    (noEvents : d.events = []) (noSnapshots : d.snapshots = []) : Chained env e ∧ Anchored e := by
  refine path.keeps (P := fun e => Chained env e ∧ Anchored e) (fun _ _ _ _ kept => Operation.keeps_log kept.1 kept.2)
    ⟨fun id => ?_, ?_⟩
  · unfold Db.eventsOf
    rw [noEvents]
    trivial
  · unfold Anchored
    simp [noSnapshots]

section Sealed
variable {env : Env} {runId : String} {d e : Db} {snapshot : RunSnapshot}

theorem linked_of_checkLinks {events : List RuntimeEvent} {n : Nat} {before : Option String}
    (accepted : checkLinks env runId n before events = .ok ()) : (eventLink env runId).Linked n before events := by
  induction events generalizing n before with
  | nil => trivial
  | cons event rest ih =>
    unfold checkLinks at accepted
    by_cases broken : event.sequence ≠ n ∨ event.previousEventHash ≠ before ∨
      event.eventHash ≠ expectedHash env runId event
    · rw [if_pos broken] at accepted
      cases accepted
    · rw [if_neg broken] at accepted
      obtain ⟨number, previous, sound⟩ : event.sequence = n ∧ event.previousEventHash = before ∧
          event.eventHash = expectedHash env runId event := by simpa using broken
      exact ⟨number, previous, sound, ih accepted⟩

theorem sealed_of_accepted (accepted : validateEventChain env d snapshot.content.runId snapshot = .ok ()) :
    (snapshot.sealed d).length = snapshot.content.eventSequence ∧
      (eventLink env snapshot.content.runId).Linked 1 none (snapshot.sealed d) ∧
      (eventLink env snapshot.content.runId).tip none (snapshot.sealed d) = some snapshot.content.eventHash := by
  unfold validateEventChain at accepted
  dsimp only at accepted
  rw [show Table.orderBy _ _ = snapshot.sealed d from rfl] at accepted
  by_cases stale : (snapshot.sealed d).length ≠ snapshot.content.eventSequence
  · rw [if_pos stale] at accepted
    cases accepted
  rw [if_neg stale] at accepted
  cases links : checkLinks env snapshot.content.runId 1 none (snapshot.sealed d) with
  | error e =>
    rw [links] at accepted
    cases accepted
  | ok _ =>
    rw [links] at accepted
    refine ⟨not_not.mp stale, linked_of_checkLinks links, ?_⟩
    unfold ChainLink.tip
    cases last : (snapshot.sealed d).getLast? with
    | none =>
      rw [last] at accepted
      cases accepted
    | some newest =>
      rw [last] at accepted
      change (if newest.sequence ≠ snapshot.content.eventSequence ∨ newest.eventHash ≠ snapshot.content.eventHash then _
        else _ : Except Error Unit) = _ at accepted
      by_cases other : newest.sequence ≠ snapshot.content.eventSequence ∨ newest.eventHash ≠ snapshot.content.eventHash
      · rw [if_pos other] at accepted
        cases accepted
      · exact congrArg some (not_not.mp (not_or.mp other).2)

open Json in
theorem dumps_record (runId : String) (event : RuntimeEvent) : ∃ front, dumps true (event.record runId) =
    ((front ++ ':' :: dumps true (ofOption event.previousEventHash)) ++ (',' :: quote true "run_id".toList ++ ':' ::
      quote true runId.toList ++ ',' :: quote true "sequence".toList ++ ':' :: dumps true (.int event.sequence) ++
      ',' :: quote true "step_id".toList)) ++ ':' :: dumps true (ofOption event.stepId) ++ ['\x7d'] := by
  have sorted : ∀ a b c d e f g h : List Char, sortByKey [("run_id", a), ("step_id", b), ("sequence", c),
      ("event_type", d), ("actor", e), ("payload", f), ("previous_event_hash", g), ("occurred_at", h)] =
      [("actor", e), ("event_type", d), ("occurred_at", h), ("payload", f), ("previous_event_hash", g), ("run_id", a),
        ("sequence", c), ("step_id", b)] := by
    intro a b c d e f g h
    simp [sortByKey, List.insertionSort, List.orderedInsert]
  refine ⟨'\x7b' :: quote true "actor".toList ++ ':' :: quote true event.actor.toList ++ ',' ::
    quote true "event_type".toList ++ ':' :: quote true event.eventType.toList ++ ',' ::
    quote true "occurred_at".toList ++ ':' :: quote true (isoformat event.occurredAt).toList ++ ',' ::
    quote true "payload".toList ++ ':' :: dumps true event.payload ++
      ',' :: quote true "previous_event_hash".toList, ?_⟩
  simp only [RuntimeEvent.record, dumps, dumpsFields, sorted, List.map_cons, List.map_nil, commaJoin, member,
    List.append_assoc, List.cons_append]

theorem previous_of_record {a b : RuntimeEvent} (digest : Digest env.sha256)
    (hashes : expectedHash env runId a = expectedHash env runId b) (numbers : a.sequence = b.sequence)
    (digitsA : ∀ h ∈ a.previousEventHash, ∀ c ∈ h.toList, c ∈ "0123456789abcdef".toList)
    (digitsB : ∀ h ∈ b.previousEventHash, ∀ c ∈ h.toList, c ∈ "0123456789abcdef".toList) :
    a.previousEventHash = b.previousEventHash := by
  have whole : Json.dumps true (a.record runId) = Json.dumps true (b.record runId) :=
    String.ofList_injective (digest.injective hashes)
  obtain ⟨frontA, textA⟩ := dumps_record runId a
  obtain ⟨frontB, textB⟩ := dumps_record runId b
  rw [textA, textB, numbers] at whole
  have steps := (Json.ofOption_tail (List.append_cancel_right whole)).1
  have names := (Json.ofOption_tail (List.append_cancel_right steps)).2
  exact ofOption_digits digitsA digitsB names

theorem sealed_alike (digest : Digest env.sha256)
    (accepted : validateEventChain env d snapshot.content.runId snapshot = .ok ())
    (again : validateEventChain env e snapshot.content.runId snapshot = .ok ()) :
    List.Forall₂ (fun a b => (a.record snapshot.content.runId).pyEq (b.record snapshot.content.runId) = true)
      (snapshot.sealed d) (snapshot.sealed e) := by
  obtain ⟨length, linked, tip⟩ := sealed_of_accepted accepted
  obtain ⟨lengthToo, linkedToo, tipToo⟩ := sealed_of_accepted again
  have alike := linked.eq_of_tip (P := fun h => ∀ c ∈ h.toList, c ∈ "0123456789abcdef".toList) ?digests ?separated
    nofun nofun linkedToo (length.trans lengthToo.symm) (tip.trans tipToo.symm)
  case digests =>
    intro event sound
    have hash : event.eventHash = expectedHash env snapshot.content.runId event := sound
    change ∀ c ∈ event.eventHash.toList, _
    rw [hash]
    exact digest.digits _
  case separated =>
    intro a b soundA soundB numbers same
    exact previous_of_record digest (soundA.symm.trans (same.trans soundB)) numbers
  refine alike.2.imp fun a b ⟨soundA, soundB, same⟩ => ?_
  exact decide_eq_true (String.ofList_injective (digest.injective (soundA.symm.trans (same.trans soundB))))

end Sealed

/-- A snapshot of the control plane seals the events before it: whatever has
become of a store, if the validator accepts the snapshot there, then up to
the snapshot the log records what it recorded when it was written. -/
theorem snapshot_seals_log {env : Env} {first d e : Db} {snapshot : RunSnapshot} (digest : Digest env.sha256)
    (path : Execution env (fun _ _ _ => True) first d) (noEvents : first.events = [])
    (noSnapshots : first.snapshots = []) (member : snapshot ∈ d.snapshots)
    (accepted : validateEventChain env e snapshot.content.runId snapshot = .ok ()) :
    List.Forall₂ (fun a b => (a.record snapshot.content.runId).pyEq (b.record snapshot.content.runId) = true)
      (snapshot.sealed d) (snapshot.sealed e) := by
  obtain ⟨chained, anchored⟩ := path.log_kept noEvents noSnapshots
  exact sealed_alike digest (validateEventChain_ok chained anchored member) accepted

namespace Sample

def hashing : Env := { checkpointing with sha256 := fun text => String.ofList (HexText.hexText text.toList) }

def snapshotted : Db :=
  Operation.after hashing (.transition "r" .implementing "Started" "system" (.obj []) none) (store .planning .pending)
    supply

theorem hashing_digest : Digest hashing.sha256 where
  injective a b same := String.toList_injective (HexText.hexText_injective (String.ofList_injective same))
  digits text c member := HexText.hexText_mem (by simpa [hashing] using member)

end Sample

open Sample in
theorem snapshot_seals_log_sample : ∃ snapshot ∈ snapshotted.snapshots, snapshot.content.runId = "r" ∧
    List.Forall₂ (fun a b => (a.record snapshot.content.runId).pyEq (b.record snapshot.content.runId) = true)
      (snapshot.sealed snapshotted) (snapshot.sealed snapshotted) := by
  have path : Execution hashing (fun _ _ _ => True) (store .planning .pending) snapshotted :=
    .next .start _ supply trivial
  obtain ⟨snapshot, taken, ofRun⟩ : ∃ snapshot ∈ snapshotted.snapshots, snapshot.content.runId = "r" := by
    decide +kernel
  obtain ⟨chained, anchored⟩ := path.log_kept rfl rfl
  exact ⟨snapshot, taken, ofRun, snapshot_seals_log hashing_digest path rfl rfl taken
    (validateEventChain_ok chained anchored taken)⟩

def Run.subject (run : Run) : String × String × Option String := (run.taskId, run.workflowVersion, run.sourceRevision)

/-- A job goes on as the one that was queued, and with the result it has. -/
structure ExecutionJob.Lasts (old new : ExecutionJob) : Prop where
  order : new.order = old.order
  maxAttempts : new.maxAttempts = old.maxAttempts
  final : old.Finished → new.state = old.state ∧ new.resultContract = old.resultContract ∧
    new.resultHash = old.resultHash ∧ new.resultSignature = old.resultSignature

structure Remembers (d e : Db) : Prop where
  events : d.events <+: e.events
  snapshots : d.snapshots <+: e.snapshots
  packs : d.packs ⊆ e.packs
  runs : d.runs.Carries (fun old new => new.subject = old.subject) e.runs
  steps : d.steps.Carries (fun old new => new.runId = old.runId) e.steps
  jobs : d.jobs.Carries ExecutionJob.Lasts e.jobs

theorem ExecutionJob.lasts_refl (job : ExecutionJob) : job.Lasts job := ⟨rfl, rfl, fun _ => ⟨rfl, rfl, rfl, rfl⟩⟩

theorem ExecutionJob.Lasts.trans (a b c : ExecutionJob) (first : a.Lasts b) (second : b.Lasts c) : a.Lasts c where
  order := second.order.trans first.order
  maxAttempts := second.maxAttempts.trans first.maxAttempts
  final := by
    intro done
    obtain ⟨state, contract, hash, signature⟩ := first.final done
    have still : b.Finished := by
      unfold ExecutionJob.Finished at done ⊢
      rwa [state]
    obtain ⟨stateToo, contractToo, hashToo, signatureToo⟩ := second.final still
    exact ⟨stateToo.trans state, contractToo.trans contract, hashToo.trans hash, signatureToo.trans signature⟩

namespace Remembers
variable {d e f : Db}

theorem refl (d : Db) : Remembers d d where
  events := List.prefix_rfl
  snapshots := List.prefix_rfl
  packs := List.Subset.refl _
  runs _ old found := ⟨old, found, rfl⟩
  steps _ old found := ⟨old, found, rfl⟩
  jobs := Table.carries_refl ExecutionJob.lasts_refl _

theorem trans (first : Remembers d e) (second : Remembers e f) : Remembers d f where
  events := first.events.trans second.events
  snapshots := first.snapshots.trans second.snapshots
  packs := List.Subset.trans first.packs second.packs
  runs := first.runs.trans (fun _ _ _ one other => other.trans one) second.runs
  steps := first.steps.trans (fun _ _ _ one other => other.trans one) second.steps
  jobs := first.jobs.trans ExecutionJob.Lasts.trans second.jobs

end Remembers

theorem Write.remembers {env : Env} {p : Permit} {s : Session Db} {d : Db} (write : Write env p s d) :
    Remembers s.working d := by
  cases write with
  | other runs steps events snapshots jobs packs =>
    exact
      { Remembers.refl d with
        events := events ▸ List.prefix_rfl
        snapshots := snapshots ▸ List.prefix_rfl
        packs := packs
        runs := runs ▸ (Remembers.refl d).runs
        steps := steps ▸ (Remembers.refl d).steps
        jobs := jobs ▸ (Remembers.refl d).jobs }
  | insertRun _ _ inserted => exact { Remembers.refl _ with runs := Table.carries_insert? (fun _ => rfl) inserted }
  | insertStep _ _ inserted => exact { Remembers.refl _ with steps := Table.carries_insert? (fun _ => rfl) inserted }
  | insertJob _ _ _ _ inserted =>
    exact { Remembers.refl _ with jobs := Table.carries_insert? ExecutionJob.lasts_refl inserted }
  | event => exact { Remembers.refl _ with events := List.prefix_append _ _ }
  | snapshot => exact { Remembers.refl _ with snapshots := List.prefix_append _ _ }
  | run runId f move =>
    refine { Remembers.refl _ with runs := Table.carries_update (fun _ => rfl) fun old found => ?_ }
    obtain ⟨task, workflow, revision⟩ := (move old found).identity
    exact ⟨(move old found).id, by simp [Run.subject, task, workflow, revision]⟩
  | step stepId f move =>
    refine { Remembers.refl _ with steps := Table.carries_update (fun _ => rfl) fun old found => ?_ }
    exact ⟨(move old found).id, (move old found).runId⟩
  | job jobId f move =>
    refine { Remembers.refl _ with jobs := Table.carries_update ExecutionJob.lasts_refl fun old found => ?_ }
    have moved := move old found
    exact ⟨moved.id, moved.order, moved.maxAttempts, moved.final⟩

/-- Whatever is requested, in any order, and wherever a request raises: the
store goes on to hold the events, the snapshots and the packs it held, every
run, step and job, what these are about, and the results that are final. -/
theorem history_durable (env : Env) (d : Db) (requests : List (Operation × Supply)) :
    Remembers d (afterAll env d requests) := by
  have path : Execution env (fun _ _ _ => True) d (afterAll env d requests) :=
    Path.of_requests (fun _ _ _ => trivial) .start
  refine path.keeps (fun e supply op _ before => ?_) (.refl d)
  exact request_keeps (P := Remembers d) (op.writes env e supply) (fun _ _ write kept => kept.trans write.remembers)
    before

end SacmRuntime
