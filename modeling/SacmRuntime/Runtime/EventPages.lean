import SacmRuntime.Lib.KeysetPages
import SacmRuntime.Runtime.EventChain

namespace SacmRuntime
open Session KeysetPages

/-- The events of the given type; no type and the empty one stand for all. -/
def ofType (eventType : Option String) (event : RuntimeEvent) : Bool :=
  match eventType with
  | none => true
  | some wanted => wanted == "" || event.eventType == wanted

namespace RunService

/-- `RunService.event_page`. -/
def eventPage (d : Db) (runId : String) (limit : Nat) (beforeSequence : Option Nat) (eventType : Option String) :
    Except Error (List RuntimeEvent × Option Nat) :=
  let query := d.eventsOf runId
  let query := match beforeSequence with
    | some sequence => query.filter fun (event : RuntimeEvent) => event.sequence < sequence
    | none => query
  let query := query.filter (ofType eventType)
  let newestFirst := (KeysetPages.newestFirst RuntimeEvent.sequence query).take (limit + 1)
  let page := newestFirst.take limit
  if limit < newestFirst.length then
    match page.getLast? with
    | some last => .ok (page.reverse, some last.sequence)
    | none => .error (.other "IndexError" "list index out of range")
  else .ok (page.reverse, none)

end RunService

/-- A client that asks for page after page, each time before the cursor the
last answer gave, until there is none. Every call has the database and the
limit of its moment; nothing is returned when the calls end first. -/
def fetchEvents (runId : String) (eventType : Option String) : Option Nat → List (Db × Nat) →
    Option (List (List RuntimeEvent))
  | _, [] => none
  | before, (d, limit) :: calls =>
    match RunService.eventPage d runId limit before eventType with
    | .error _ => none
    | .ok (page, none) => some [page]
    | .ok (page, some sequence) => (fetchEvents runId eventType (some sequence) calls).map (page :: ·)

/-- The events of a run that a later database adds are numbered after those
the earlier one has. -/
def EventsAppended (runId : String) (d e : Db) : Prop :=
  KeysetPages.Grown RuntimeEvent.sequence (d.eventsOf runId) (e.eventsOf runId)

/-- No two events of a run share their number (`uq_runtime_events_sequence`). -/
def EventsDistinct (runId : String) (d : Db) : Prop := ((d.eventsOf runId).map RuntimeEvent.sequence).Nodup

section
variable {env : Env} {p : Permit} {s t : Session Db} {d e : Db} {runId : String} {eventType : Option String}

def matching (d : Db) (runId : String) (eventType : Option String) : List RuntimeEvent :=
  (d.eventsOf runId).filter (ofType eventType)

theorem eventPage_eq {limit : Nat} {before : Option Nat} (positive : 1 ≤ limit) :
    RunService.eventPage d runId limit before eventType =
      .ok (page RuntimeEvent.sequence limit before (matching d runId eventType)) := by
  have query : (match before with
      | some sequence => (d.eventsOf runId).filter fun (event : RuntimeEvent) => event.sequence < sequence
      | none => d.eventsOf runId).filter (ofType eventType) =
      (matching d runId eventType).filter (within RuntimeEvent.sequence before) := by
    cases before with
    | none => exact (List.filter_eq_self.mpr fun _ _ => rfl).symm
    | some sequence =>
      unfold matching
      rw [List.filter_comm]
      rfl
  unfold RunService.eventPage page
  simp only [query]
  generalize (newestFirst RuntimeEvent.sequence _).take (limit + 1) = fetched
  by_cases more : limit < fetched.length
  · have some_last : fetched.take limit ≠ [] := by
      intro empty
      have length := congrArg List.length empty
      simp only [List.length_take, List.length_nil] at length
      omega
    rw [if_pos more, if_pos more, List.getLast?_eq_some_getLast some_last]
    rfl
  · rw [if_neg more, if_neg more]

theorem fetchEvents_eq {calls : List (Db × Nat)} {before : Option Nat} (limits : ∀ call ∈ calls, 1 ≤ call.2) :
    fetchEvents runId eventType before calls = fetchAll RuntimeEvent.sequence before
      (calls.map fun call => (matching call.1 runId eventType, call.2)) := by
  induction calls generalizing before with
  | nil => rfl
  | cons call calls ih =>
    obtain ⟨d, limit⟩ := call
    have positive : 1 ≤ limit := limits (d, limit) List.mem_cons_self
    have others := fun before => @ih before fun call member => limits call (List.mem_cons_of_mem _ member)
    simp only [fetchEvents, eventPage_eq positive, List.map_cons, fetchAll]
    generalize page RuntimeEvent.sequence limit before (matching d runId eventType) = answer
    obtain ⟨page, next⟩ := answer
    cases next with
    | none => rfl
    | some sequence => simp only [others]

theorem Operation.appends {supply : Supply} {op : Operation} (chained : Chained env d) (anchored : Anchored d) :
    d.events <+: (op.after env d supply).events := by
  have first : LogKept env (start d supply) ∧ Everywhere (fun e => d.events <+: e.events) (start d supply) :=
    ⟨⟨start_everywhere supply chained, start_everywhere supply anchored, List.prefix_rfl⟩,
      start_everywhere supply List.prefix_rfl⟩
  have last := (op.writes env d supply).keeps
    (I := fun s => LogKept env s ∧ Everywhere (fun e => d.events <+: e.events) s) ?_ first
  · exact last.2.committed
  · rintro s t step ⟨kept, grown⟩
    refine ⟨step.keeps_log kept, ?_⟩
    cases step with
    | write allowed => exact ⟨grown.committed, grown.flushed, grown.working.trans (allowed.keeps_log kept).2.2⟩
    | flush => exact ⟨grown.committed, grown.working, grown.working⟩
    | commit => exact ⟨grown.working, grown.working, grown.working⟩
    | rollback => exact ⟨grown.committed, grown.committed, grown.committed⟩
    | draw => exact ⟨grown.committed, grown.flushed, grown.working⟩

theorem Chained.distinct (chained : Chained env d) (runId : String) : EventsDistinct runId d := by
  unfold EventsDistinct
  have numbers := (chained runId).numbers
  change (d.eventsOf runId).map RuntimeEvent.sequence = _ at numbers
  rw [numbers]
  exact List.nodup_range'

theorem Chained.appended (chained : Chained env e) (grown : d.events <+: e.events) :
    EventsAppended runId d e := by
  obtain ⟨added, split⟩ := grown
  have halves : e.eventsOf runId = d.eventsOf runId ++ added.filter fun event => event.runId == runId := by
    unfold Db.eventsOf
    rw [← split, List.filter_append]
  refine ⟨_, List.Perm.of_eq halves, fun old atOld new atNew => ?_⟩
  have numbers := (chained runId).numbers
  change (e.eventsOf runId).map RuntimeEvent.sequence = _ at numbers
  have ordered : ((e.eventsOf runId).map RuntimeEvent.sequence).Pairwise (· < ·) := by
    rw [numbers]
    exact List.pairwise_lt_range'
  rw [halves, List.map_append] at ordered
  exact (List.pairwise_append.mp ordered).2.2 _ (List.mem_map_of_mem atOld) _ (List.mem_map_of_mem atNew)

/-- Along a run of the control plane that begins with an empty log, events
are only appended, and no two of a run share their number. -/
theorem Execution.appends {c : Db} (before : Execution env (fun _ _ _ => True) c d)
    (path : Execution env (fun _ _ _ => True) d e)
    (noEvents : c.events = []) (noSnapshots : c.snapshots = []) (runId : String) :
    EventsAppended runId d e ∧ EventsDistinct runId d := by
  have start : Chained env c ∧ Anchored c := by
    refine ⟨fun id => ?_, ?_⟩
    · unfold Db.eventsOf
      rw [noEvents]
      trivial
    · unfold Anchored
      simp [noSnapshots]
  have kept := before.keeps (P := fun e => Chained env e ∧ Anchored e)
    (fun _ _ _ _ kept => Operation.keeps_log kept.1 kept.2) start
  have last := path.keeps (P := fun e => (Chained env e ∧ Anchored e) ∧ d.events <+: e.events)
    (fun _ _ _ _ kept => ⟨Operation.keeps_log kept.1.1 kept.1.2,
      kept.2.trans (Operation.appends kept.1.1 kept.1.2)⟩) ⟨kept, List.prefix_rfl⟩
  exact ⟨last.1.1.appended last.2, kept.1.distinct runId⟩

/-- A client that pages back through the log of a run, with any type and any
positive limits, comes to an end. Its pages, the last one first, are the
matching events of its first call in the order of their numbers, each once,
whatever is appended between the calls. -/
theorem event_pages_tile {runId : String} {eventType : Option String} {logs : Nat → Db} {limits : Nat → Nat}
    (positive : ∀ i, 1 ≤ limits i) (distinct : ∀ i, EventsDistinct runId (logs i))
    (appended : ∀ i, EventsAppended runId (logs i) (logs (i + 1))) :
    ∃ n pages, fetchEvents runId eventType none ((List.range n).map fun i => (logs i, limits i)) = some pages ∧
      pages.reverse.flatten = Table.orderBy RuntimeEvent.sequence (matching (logs 0) runId eventType) ∧
      (pages.reverse.flatten.map RuntimeEvent.sequence).Pairwise (· < ·) ∧
      ∀ event, (∃ page ∈ pages, event ∈ page) ↔ event ∈ matching (logs 0) runId eventType := by
  have apart (i : Nat) : ((matching (logs i) runId eventType).map RuntimeEvent.sequence).Nodup :=
    (List.filter_sublist.map RuntimeEvent.sequence).nodup (distinct i)
  have grown (i : Nat) : EventsAppended runId (logs 0) (logs i) := by
    induction i with
    | zero => exact .refl
    | succ i ih => exact ih.trans (appended i)
  let calls := (List.range (matching (logs 0) runId eventType).length).map fun i => (logs (i + 1), limits (i + 1))
  let seen := calls.map fun call => (matching call.1 runId eventType, call.2)
  have tiles := KeysetPages.fetchAll_tiles seen (apart 0) (positive 0)
    (by
      intro call member
      simp only [seen, calls, List.map_map, List.mem_map] at member
      obtain ⟨i, _, rfl⟩ := member
      exact positive (i + 1))
    (by
      intro call member
      simp only [seen, calls, List.map_map, List.mem_map] at member
      obtain ⟨i, _, rfl⟩ := member
      exact ⟨(grown (i + 1)).filter _, apart (i + 1)⟩)
  obtain ⟨pages, fetched⟩ := Option.isSome_iff_exists.mp (tiles.1 (by simp [seen, calls]))
  have tiled := tiles.2 pages fetched
  have strict : (pages.reverse.flatten).Pairwise fun a b => a.sequence < b.sequence := by
    rw [tiled]
    exact List.pairwise_reverse.mpr (KeysetPages.newestFirst_strict (apart 0))
  have inPages : pages.reverse.flatten.Perm (matching (logs 0) runId eventType) := by
    rw [tiled]
    exact (List.reverse_perm _).trans (KeysetPages.newestFirst_perm _ _)
  refine ⟨(matching (logs 0) runId eventType).length + 1, pages, ?_, ?_, List.pairwise_map.mpr strict, fun event => ?_⟩
  · rw [fetchEvents_eq]
    · simp only [seen, calls, List.map_map, Function.comp_def] at fetched
      simpa only [List.range_succ_eq_map, List.map_cons, List.map_map, Function.comp_def] using fetched
    · intro call member
      obtain ⟨i, _, rfl⟩ := List.mem_map.mp member
      exact positive i
  · have sorted : (Table.orderBy RuntimeEvent.sequence (matching (logs 0) runId eventType)).Pairwise
        fun a b => a.sequence ≤ b.sequence := List.pairwise_insertionSort _ _
    refine (inPages.trans (List.perm_insertionSort _ _).symm).eq_of_pairwise ?_
      (strict.imp fun less => Nat.le_of_lt less) sorted
    intro first second atFirst atSecond below above
    exact List.inj_on_of_nodup_map (apart 0) (inPages.mem_iff.mp atFirst) (Table.mem_orderBy.mp atSecond)
      (Nat.le_antisymm below above)
  · rw [← inPages.mem_iff]
    simp

end

namespace Sample

/-- The log a client reads: two events at its first call, a third one from then on. -/
def followed (call : Nat) : Db :=
  if call = 0 then moved
  else Operation.after checkpointing (.transition "r" .failed "StepStarted" "system" (.obj []) none) moved supply

end Sample

open Sample in
theorem event_pages_tile_followed :
    ((followed 0).events.length = 2 ∧ (followed 1).events.length = 3) ∧
    ∃ n pages, fetchEvents "r" none none ((List.range n).map fun i => (followed i, 1)) = some pages ∧
      pages.reverse.flatten = Table.orderBy RuntimeEvent.sequence (matching (followed 0) "r" none) ∧
      (pages.reverse.flatten.map RuntimeEvent.sequence).Pairwise (· < ·) ∧
      ∀ event, (∃ page ∈ pages, event ∈ page) ↔ event ∈ matching (followed 0) "r" none := by
  have early : Execution checkpointing (fun _ _ _ => True) (store .planning .pending) moved :=
    .next (.next .start _ supply trivial) _ supply trivial
  have step : Execution checkpointing (fun _ _ _ => True) moved (followed 1) := .next .start _ supply trivial
  have late : Execution checkpointing (fun _ _ _ => True) (store .planning .pending) (followed 1) :=
    .next early _ supply trivial
  refine ⟨by decide +kernel, event_pages_tile (fun _ => Nat.le_refl 1) (fun i => ?_) fun i => ?_⟩
  · cases i with
    | zero => exact (early.appends step rfl rfl "r").2
    | succ i => exact (late.appends .start rfl rfl "r").2
  · cases i with
    | zero => exact (early.appends step rfl rfl "r").1
    | succ i => exact .refl

end SacmRuntime
