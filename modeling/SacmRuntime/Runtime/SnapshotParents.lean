import Mathlib.Data.List.Pairwise
import SacmRuntime.Runtime.Operations
import SacmRuntime.Runtime.RunContext

namespace SacmRuntime
open Session

/-- Every parent is a snapshot of the same run, of an earlier event. -/
def ParentsBelow (d : Db) : Prop :=
  ∀ snapshot ∈ d.snapshots, ∀ id, snapshot.content.parentSnapshotId = some id → ∃ parent ∈ d.snapshots, parent.id = id ∧
    parent.content.runId = snapshot.content.runId ∧ parent.content.eventSequence < snapshot.content.eventSequence

def ChecksumsDiffer (d : Db) : Prop :=
  d.snapshots.Pairwise fun first second => first.content.runId = second.content.runId → first.checksum ≠ second.checksum

def IsParent (d : Db) (parent child : RunSnapshot) : Prop :=
  parent ∈ d.snapshots ∧ child ∈ d.snapshots ∧ child.content.parentSnapshotId = some parent.id

/-- What `EvidenceService.build` does to the log of a run before it gathers the evidence. -/
def beginPack (env : Env) (runId path : String) : Service Unit := do
  let run ← requireRun runId
  let _ ← appendEvent env run "EvidencePackCreated" "system" (.obj [("path", .str path)])
  flush
  if env.snapshotsAvailable then Tx.void (createSnapshot env run.id "evidence_pack_created") else pure ()

/-- The requests that may add a snapshot: those of the services, and a pack
that is built and committed. -/
inductive SnapshotRequest where
  | service (op : Operation)
  | buildPack (runId path : String)

namespace SnapshotRequest

def exec (env : Env) : SnapshotRequest → Service Unit
  | service op => op.exec env
  | buildPack runId path => do
    beginPack env runId path
    commit

def after (env : Env) (asked : SnapshotRequest) (d : Db) (supply : Supply) : Db := (request (asked.exec env) d supply).2

end SnapshotRequest

section
variable {env : Env} {p : Permit} {s t u : Session Db} {d e : Db} {supply : Supply} {runId reason : String}
  {snapshot : RunSnapshot}

variable {event : RuntimeEvent} {parent : RunSnapshot} {rows : RunContextService.ContextRows} {run : Run}
  {sequence : Nat}

theorem parentSnapshot_some (found : parentSnapshot d runId sequence = some parent) :
    parent ∈ d.snapshots ∧ parent.content.runId = runId ∧ parent.content.eventSequence < sequence := by
  have member := List.mem_filter.mp (List.argmax_mem found)
  simpa using member

theorem ParentsBelow.of_snapshots (below : ParentsBelow d) (same : e.snapshots = d.snapshots) : ParentsBelow e := by
  unfold ParentsBelow
  rw [same]
  exact below

theorem Write.keeps_parents (write : Write env p s d) (below : ParentsBelow s.working) : ParentsBelow d := by
  cases write with
  | other _ _ _ snapshots => exact below.of_snapshots snapshots
  | insertRun | run | insertStep | step | event | insertJob | job => exact below.of_snapshots rfl
  | @snapshot snapshot event newest sequence hash checked named fresh parent =>
    intro other member id isParent
    rcases List.mem_append.mp member with old | new
    · obtain ⟨found, inRows, facts⟩ := below other old id isParent
      exact ⟨found, List.mem_append_left _ inRows, facts⟩
    · cases List.mem_singleton.mp new
      rw [parent] at isParent
      obtain ⟨found, atParent, rfl⟩ := Option.map_eq_some_iff.mp isParent
      obtain ⟨inRows, ofRun, lower⟩ := parentSnapshot_some atParent
      exact ⟨found, List.mem_append_left _ inRows, rfl, ofRun, lower⟩

theorem Write.keeps_checksums (write : Write env p s d) (differ : ChecksumsDiffer s.working) : ChecksumsDiffer d := by
  cases write with
  | other _ _ _ snapshots =>
    unfold ChecksumsDiffer
    rw [snapshots]
    exact differ
  | insertRun | run | insertStep | step | event | insertJob | job => exact differ
  | @snapshot snapshot event newest sequence hash checked named fresh parent =>
    refine List.pairwise_append.mpr ⟨differ, List.pairwise_singleton _ _, fun old member new isNew ofRun => ?_⟩
    cases List.mem_singleton.mp isNew
    exact fresh old member ofRun

theorem beginPack_writes {path : String} : Writes env p (beginPack env runId path) := by
  intro s
  unfold beginPack
  refine movesFrom_requireRun fun run found => appendEvent_writes.then fun _ _ => movesFrom_flush ?_
  exact Tx.movesFrom_ite (fun _ => Tx.MovesFrom.void (createSnapshot_writes _)) fun _ => Tx.movesFrom_pure _

theorem SnapshotRequest.writes (asked : SnapshotRequest) :
    ∃ p, WritesFrom env p (asked.exec env) (start d supply) := by
  cases asked with
  | service op => exact ⟨op.permit env d supply, op.writes env d supply⟩
  | buildPack runId path =>
    refine ⟨(Operation.createSnapshot runId path).permit env d supply, ?_⟩
    exact (beginPack_writes _).bind fun _ _ => moves_commit _

theorem SnapshotRequest.keeps {P : Db → Prop} (asked : SnapshotRequest)
    (keeps : ∀ p s d, Write env p s d → P s.working → P d) (holds : P d) : P (asked.after env d supply) := by
  obtain ⟨p, writes⟩ := asked.writes
  exact request_keeps writes (keeps p) holds

/-- The content of the snapshot that a call would make now. -/
def nextContent (env : Env) (d : Db) (run : Run) (event : RuntimeEvent) (reason : String) : SnapshotContent :=
  snapshotContent env d run (d.listSteps run.id) event reason
    ((parentSnapshot d run.id event.sequence).map RunSnapshot.id)

/-- The row of the run with the checksum of this content, if there is one. -/
def withChecksum (env : Env) (d : Db) (run : Run) (content : SnapshotContent) : Option RunSnapshot :=
  d.snapshots.find? fun snapshot => snapshot.content.runId == run.id && snapshot.checksum == content.checksum env

def newSnapshot (env : Env) (run : Run) (content : SnapshotContent) (now : Nat) : RunSnapshot where
  id := env.uuid5 ("https://sacm.dev/snapshots/" ++ run.id ++ "/" ++ content.checksum env)
  organizationId := run.organizationId
  projectId := run.projectId
  checksum := content.checksum env
  content := content
  createdAt := now

/-- What a call that returns has found: the run at rest, and its last event. -/
structure AtRest (d : Db) (run : Run) (event : RuntimeEvent) : Prop where
  found : d.run? run.id = some run
  rests : ¬((d.listSteps run.id).any fun step => step.status = .running) = true
  last : d.lastEvent run.id = some event

theorem createSnapshot_atRest (env : Env) (reason : String) (atRest : AtRest s.working run event) :
    createSnapshot env run.id reason s =
      match withChecksum env s.working run (nextContent env s.working run event reason) with
      | some snapshot => (.ok snapshot, { s with flushed := s.working })
      | none =>
        let snapshot := newSnapshot env run (nextContent env s.working run event reason) (s.clock 0)
        let d := { s.working with snapshots := s.working.snapshots ++ [snapshot] }
        (.ok snapshot, { s with working := d, flushed := d, clock := fun n => s.clock (n + 1) }) := by
  unfold createSnapshot requireRun
  rw [Tx.bind_assoc_run, bind_view, atRest.found, Tx.bind_expect_some, bind_view, if_neg atRest.rests, bind_flush,
    Tx.bind_read_run]
  dsimp only
  rw [atRest.last, Tx.bind_expect_some, bind_view, bind_view, bind_view]
  change (match withChecksum env s.working run (nextContent env s.working run event reason) with
    | some snapshot => _
    | none => _ : Service RunSnapshot) _ = _
  cases withChecksum env s.working run (nextContent env s.working run event reason) with
  | some snapshot => rfl
  | none => rfl

theorem createSnapshot_returns (created : createSnapshot env runId reason s = (.ok snapshot, t)) :
    ∃ run event, run.id = runId ∧ AtRest s.working run event := by
  unfold createSnapshot at created
  obtain ⟨run, s1, required, rest⟩ := Tx.bind_ok created
  obtain ⟨found, rfl⟩ := requireRun_ok required
  have id : run.id = runId := Table.find_key found
  rw [bind_view] at rest
  split at rest
  · cases rest
  · rename_i rests
    rw [bind_flush, Tx.bind_read_run] at rest
    obtain ⟨event, _, last, -⟩ := Tx.bind_ok rest
    obtain ⟨last, -⟩ := Tx.expect_ok last
    subst id
    exact ⟨run, event, rfl, found, rests, last⟩

theorem parentSnapshot_append (late : snapshot.content.eventSequence = sequence) :
    parentSnapshot { d with snapshots := d.snapshots ++ [snapshot] } runId sequence =
      parentSnapshot d runId sequence := by
  have notBelow : ¬snapshot.content.eventSequence < sequence := by omega
  unfold parentSnapshot
  rw [List.filter_append, List.filter_singleton]
  simp [notBelow]

section
variable (context : env.runContext = RunContextService.snapshotContext env.snapshotsAvailable rows)
include context

theorem nextContent_append (late : snapshot.content.eventSequence = event.sequence) :
    nextContent env { d with snapshots := d.snapshots ++ [snapshot] } run event reason =
      nextContent env d run event reason := by
  unfold nextContent
  rw [parentSnapshot_append late]
  unfold snapshotContent
  rw [context, RunContextService.snapshotContext_snapshots]
  rfl

theorem createSnapshot_again (created : createSnapshot env runId reason s = (.ok snapshot, t))
    (same : u.working = t.working) :
    snapshot ∈ t.working.snapshots ∧
      createSnapshot env runId reason u = (.ok snapshot, { u with flushed := u.working }) := by
  obtain ⟨run, event, rfl, atRest⟩ := createSnapshot_returns created
  have ran := createSnapshot_atRest env reason atRest
  rw [created] at ran
  cases found : withChecksum env s.working run (nextContent env s.working run event reason) with
  | some existing =>
    rw [found] at ran
    cases ran
    have atRest' : AtRest u.working run event := by
      rw [same]
      exact atRest
    have again := createSnapshot_atRest env reason atRest'
    rw [same, found, ← same] at again
    exact ⟨List.mem_of_find?_eq_some found, again⟩
  | none =>
    rw [found] at ran
    cases ran
    have atRest' : AtRest u.working run event := by
      rw [same]
      exact ⟨atRest.found, atRest.rests, atRest.last⟩
    have again := createSnapshot_atRest env reason atRest'
    have content : nextContent env { s.working with snapshots := s.working.snapshots ++
        [newSnapshot env run (nextContent env s.working run event reason) (s.clock 0)] } run event reason =
          nextContent env s.working run event reason := nextContent_append context rfl
    have kept : withChecksum env u.working run (nextContent env u.working run event reason) =
        some (newSnapshot env run (nextContent env s.working run event reason) (s.clock 0)) := by
      rw [same, content]
      unfold withChecksum at found ⊢
      rw [List.find?_append, found, Option.none_or, List.find?_cons_of_pos]
      simp [newSnapshot, nextContent, snapshotContent]
    rw [kept] at again
    exact ⟨List.mem_append_right _ (List.mem_singleton_self _), again⟩

end

theorem isParent_below (below : ParentsBelow d) (keyed : (d.snapshots.map RunSnapshot.id).Nodup) {child : RunSnapshot}
    (isParent : IsParent d parent child) : parent.content.runId = child.content.runId ∧
      parent.content.eventSequence < child.content.eventSequence := by
  obtain ⟨inRows, childRow, names⟩ := isParent
  obtain ⟨found, foundRow, same, facts⟩ := below child childRow parent.id names
  cases List.inj_on_of_nodup_map keyed foundRow inRows same
  exact facts

theorem isParent_wellFounded (below : ParentsBelow d) (keyed : (d.snapshots.map RunSnapshot.id).Nodup) :
    WellFounded (IsParent d) := by
  refine Subrelation.wf (fun {parent child} isParent => ?_)
    (InvImage.wf (fun snapshot : RunSnapshot => snapshot.content.eventSequence) Nat.lt_wfRel.wf)
  exact (isParent_below below keyed isParent).2

theorem ChecksumsDiffer.unique (differ : ChecksumsDiffer d) {first second : RunSnapshot} (atFirst : first ∈ d.snapshots)
    (atSecond : second ∈ d.snapshots) (ofRun : first.content.runId = second.content.runId)
    (same : first.checksum = second.checksum) : first = second := by
  by_contra different
  have symmetric : Std.Symm fun first second : RunSnapshot =>
      first.content.runId = second.content.runId → first.checksum ≠ second.checksum :=
    ⟨fun _ _ apart ofRun same => apart ofRun.symm same.symm⟩
  exact differ.forall atFirst atSecond different ofRun same

end

/-- A snapshot is made once: asked for again with nothing changed, the call
returns the same row and changes none. -/
def MadeOnce (env : Env) : Prop :=
  ∀ runId reason s t snapshot, createSnapshot env runId reason s = (.ok snapshot, t) →
    snapshot ∈ t.working.snapshots ∧
      ∀ u, u.working = t.working → createSnapshot env runId reason u = (.ok snapshot, { u with flushed := u.working })

/-- Along every run of the control plane that begins without snapshots: a
snapshot is made once; each parent is a row of the same run with a smaller
event sequence, and the chains of parents end; a checksum names one row of a run. -/
theorem snapshots_sound {env : Env} {rows : RunContextService.ContextRows} {d e : Db}
    (context : env.runContext = RunContextService.snapshotContext env.snapshotsAvailable rows)
    (empty : d.snapshots = [])
    (path : Path (SnapshotRequest.after env) (fun _ _ _ => True) d e)
    (keyed : (e.snapshots.map RunSnapshot.id).Nodup) :
    MadeOnce env ∧
    (∀ child ∈ e.snapshots, ∀ id, child.content.parentSnapshotId = some id →
      ∃ parent, parent.id = id ∧ IsParent e parent child) ∧
    (∀ parent child, IsParent e parent child → parent.content.runId = child.content.runId ∧
      parent.content.eventSequence < child.content.eventSequence) ∧
    WellFounded (IsParent e) ∧
    ∀ first ∈ e.snapshots, ∀ second ∈ e.snapshots, first.content.runId = second.content.runId →
      first.checksum = second.checksum → first = second := by
  have kept : ParentsBelow e ∧ ChecksumsDiffer e := by
    refine path.keeps (P := fun e => ParentsBelow e ∧ ChecksumsDiffer e) (fun d supply asked _ kept => ⟨?_, ?_⟩)
      ⟨?_, ?_⟩
    · exact asked.keeps (fun _ _ _ write => write.keeps_parents) kept.1
    · exact asked.keeps (fun _ _ _ write => write.keeps_checksums) kept.2
    · unfold ParentsBelow
      simp [empty]
    · unfold ChecksumsDiffer
      simp [empty]
  refine ⟨fun runId reason s t snapshot created => ?_, fun child member id names => ?_, fun _ _ isParent => ?_, ?_, ?_⟩
  · obtain ⟨first, -⟩ := createSnapshot_again context created rfl
    exact ⟨first, fun u same => (createSnapshot_again context created same).2⟩
  · obtain ⟨parent, inRows, rfl, -⟩ := kept.1 child member id names
    exact ⟨parent, rfl, inRows, member, names⟩
  · exact isParent_below kept.1 keyed isParent
  · exact isParent_wellFounded kept.1 keyed
  · exact fun first atFirst second atSecond ofRun same => kept.2.unique atFirst atSecond ofRun same

namespace Sample

/-- Rows for contexts in which only the shared tables say something. -/
def contextRows : RunContextService.ContextRows where
  task := fun _ => ⟨"task/v1", none, none, none, none, none, none, [], 0, 0⟩
  project := fun _ => none
  applicationContext := fun _ => none
  plan := fun _ => ⟨.null, "", "", none, [], []⟩
  jiraDelivery := fun _ => none
  floatSum := .arr

def contextual : Env :=
  { env with snapshotsAvailable := true, runContext := RunContextService.snapshotContext true contextRows }

def begun : Db :=
  SnapshotRequest.after contextual (.service (.transition "r" .implementing "Started" "system" (.obj []) none))
    (store .planning .pending) supply

theorem snapshots_sound_begun :
    begun.snapshots.length = 1 ∧ MadeOnce contextual ∧
    (∀ child ∈ begun.snapshots, ∀ id, child.content.parentSnapshotId = some id →
      ∃ parent, parent.id = id ∧ IsParent begun parent child) ∧
    (∀ parent child, IsParent begun parent child → parent.content.runId = child.content.runId ∧
      parent.content.eventSequence < child.content.eventSequence) ∧
    WellFounded (IsParent begun) ∧
    ∀ first ∈ begun.snapshots, ∀ second ∈ begun.snapshots, first.content.runId = second.content.runId →
      first.checksum = second.checksum → first = second := by
  have one : begun.snapshots.length = 1 := by decide +kernel
  have keyed : (begun.snapshots.map RunSnapshot.id).Nodup := by
    obtain ⟨snapshot, rows⟩ := List.length_eq_one_iff.mp one
    rw [rows]
    exact List.nodup_singleton _
  exact ⟨one, snapshots_sound rfl rfl (.next .start _ supply trivial) keyed⟩

end Sample

end SacmRuntime
