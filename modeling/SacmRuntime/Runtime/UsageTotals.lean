import Mathlib.Data.List.Dedup
import SacmRuntime.Runtime.CostService

namespace SacmRuntime
open Session CostService

variable {d₀ d : Db} {taskId scope : String} {kind : TokenKind} {events : List ContextEvent}

namespace CostService

def scopeOf (event : ContextEvent) : Option String := telemetryScope event.payload

def runOf (event : ContextEvent) : Option String := eventRunId event.payload

/-- The tokens that the events of one type report for a scope. -/
def tokensFrom (eventType : String) (kind : TokenKind) (scope : String) (events : List ContextEvent) : Int :=
  sumOver (eventTokens kind) (fun event => event.eventType == eventType && decide (scopeOf event = some scope)) events

def carried (scope : String) (events : List ContextEvent) : Bool :=
  events.any fun event => event.eventType == "agent_telemetry" && decide (scopeOf event = some scope) &&
    !(usageOf event).isEmpty

/-- What a scope has used: what its telemetry says, else what its results say. -/
def scopeTokens (kind : TokenKind) (scope : String) (events : List ContextEvent) : Int :=
  if carried scope events then tokensFrom "agent_telemetry" kind scope events
    else tokensFrom "agent_result" kind scope events

def scopesOf (events : List ContextEvent) : List String := (events.filterMap scopeOf).dedup

def unscopedTokens (kind : TokenKind) (events : List ContextEvent) : Int :=
  sumOver (eventTokens kind) (fun event => decide (scopeOf event = none)) events

def sameRun (events : List ContextEvent) (event : ContextEvent) : List ContextEvent :=
  events.filter fun other => decide (runOf other = runOf event)

end CostService

def NamesRuns (d : Db) (taskId : String) : Prop :=
  ∀ event ∈ taskEvents d taskId, ∃ run ∈ runsOf d taskId, runOf event = some run.id

/-- The usage of a task is counted once: scope by scope, in sum, whatever
the order of the events, and run by run. -/
structure CountedOnce (d : Db) (taskId : String) : Prop where
  scopes : ∀ scope kind,
    reported kind (summarize taskId ((taskEvents d taskId).filter fun event => decide (scopeOf event = some scope))) =
      some (scopeTokens kind scope (taskEvents d taskId))
  task : ∀ kind, reported kind (summarizeTask d taskId) =
    some (((scopesOf (taskEvents d taskId)).map fun scope => scopeTokens kind scope (taskEvents d taskId)).sum +
      unscopedTokens kind (taskEvents d taskId))
  unordered : ∀ events, events.Perm d.contextEvents → ∀ kind,
    reported kind (summarizeTask { d with contextEvents := events } taskId) = reported kind (summarizeTask d taskId)
  runs : NamesRuns d taskId → ∀ kind,
    ((runsOf d taskId).mapM fun run => reported kind (summarizeRun d run.id)).map List.sum =
      reported kind (summarizeTask d taskId)

/-- Nothing is lost with the results that telemetry replaces: those of a
scope whose telemetry carries no usage report no tokens, and neither do those
that telemetry of another run replaces. -/
structure UsageKept (d : Db) (taskId : String) : Prop where
  live : ∀ scope kind, scope ∈ liveScopes (taskEvents d taskId) → carried scope (taskEvents d taskId) = false →
    tokensFrom "agent_result" kind scope (taskEvents d taskId) = 0
  runs : NamesRuns d taskId → ∀ kind,
    sumOver (eventTokens kind) (fun event => leftOut (taskEvents d taskId) event &&
      !leftOut (sameRun (taskEvents d taskId) event) event) (taskEvents d taskId) = 0

namespace CostService

theorem mem_liveScopes : scope ∈ liveScopes events ↔
    ∃ event ∈ events, event.eventType = "agent_telemetry" ∧ scopeOf event = some scope := by
  simp [liveScopes, scopeOf, and_assoc]

variable {event : ContextEvent} {run : Run}

theorem leftOut_iff : leftOut events event = true ↔
    event.eventType = "agent_result" ∧ ∃ scope, scopeOf event = some scope ∧ scope ∈ liveScopes events := by
  simp [leftOut, scopeOf, Option.any_eq_true]

def Sourced (events : List ContextEvent) : Prop :=
  ∀ event ∈ events, event.eventType = "agent_result" ∨ event.eventType = "agent_telemetry"

theorem taskEvents_sourced : Sourced (taskEvents d taskId) := by
  intro event member
  have chosen := List.of_mem_filter member
  simpa using (Bool.and_eq_true_iff.mp chosen).2

def scopeCounted (kind : TokenKind) (scope : String) (events : List ContextEvent) : Int :=
  sumOver (eventTokens kind) (fun event => !leftOut events event && decide (scopeOf event = some scope)) events

theorem summarize_scope (stored : ∀ event ∈ events, event.Stored) :
    reported kind (summarize taskId (events.filter fun event => decide (scopeOf event = some scope))) =
      some (scopeCounted kind scope events) := by
  rw [summarize_stored kind fun event member => stored event (List.mem_of_mem_filter member), sumOver_filter,
    scopeCounted]
  congr 1
  refine sumOver_congr fun event member => ?_
  by_cases here : scopeOf event = some scope
  · have live : scope ∈ liveScopes (events.filter fun event => decide (scopeOf event = some scope)) ↔
        scope ∈ liveScopes events := by
      rw [mem_liveScopes, mem_liveScopes]
      constructor
      · rintro ⟨other, chosen, facts⟩
        exact ⟨other, List.mem_of_mem_filter chosen, facts⟩
      · rintro ⟨other, present, telemetry, named⟩
        exact ⟨other, List.mem_filter.mpr ⟨present, by simpa using named⟩, telemetry, named⟩
    have same :
        leftOut (events.filter fun event => decide (scopeOf event = some scope)) event = leftOut events event := by
      rw [Bool.eq_iff_iff, leftOut_iff, leftOut_iff, here]
      simp [live]
    rw [same]
  · simp [here]

theorem scopeCounted_eq (sourced : Sourced events) : scopeCounted kind scope events =
    if scope ∈ liveScopes events then tokensFrom "agent_telemetry" kind scope events
    else tokensFrom "agent_result" kind scope events := by
  unfold scopeCounted tokensFrom
  by_cases live : scope ∈ liveScopes events
  · rw [if_pos live]
    refine sumOver_congr fun event member => ?_
    by_cases here : scopeOf event = some scope
    · have replaced : leftOut events event = true ↔ event.eventType = "agent_result" := by
        rw [leftOut_iff, here]
        simp [live]
      rcases sourced event member with result | telemetry
      · simp [here, replaced.mpr result, result]
      · have kept : leftOut events event = false := by
          rw [← Bool.not_eq_true, replaced, telemetry]
          decide
        simp [here, kept, telemetry]
    · simp [here]
  · rw [if_neg live]
    refine sumOver_congr fun event member => ?_
    by_cases here : scopeOf event = some scope
    · have kept : leftOut events event = false := by
        rw [← Bool.not_eq_true, leftOut_iff, here]
        simp [live]
      have result : event.eventType = "agent_result" := by
        rcases sourced event member with result | telemetry
        · exact result
        · exact absurd (mem_liveScopes.mpr ⟨event, member, telemetry, here⟩) live
      simp [here, kept, result]
    · simp [here]

theorem carried_live (some : carried scope events = true) : scope ∈ liveScopes events := by
  obtain ⟨event, member, facts⟩ := List.any_eq_true.mp some
  simp only [Bool.and_eq_true, beq_iff_eq, decide_eq_true_eq] at facts
  exact mem_liveScopes.mpr ⟨event, member, facts.1⟩

theorem telemetry_empty (kind : TokenKind) (none : carried scope events = false) :
    tokensFrom "agent_telemetry" kind scope events = 0 := by
  refine sumOver_zero fun event member chosen => ?_
  have empty := List.any_eq_false.mp none event member
  simp only [chosen, Bool.true_and, Bool.not_eq_true, Bool.not_eq_false', List.isEmpty_iff] at empty
  rw [eventTokens, empty]
  rfl

theorem scopeCounted_exact (sourced : Sourced events) : scopeCounted kind scope events = scopeTokens kind scope events ↔
    (scope ∈ liveScopes events → carried scope events = false → tokensFrom "agent_result" kind scope events = 0) := by
  rw [scopeCounted_eq sourced, scopeTokens]
  by_cases live : scope ∈ liveScopes events
  · rw [if_pos live]
    cases usage : carried scope events with
    | true => simp
    | false =>
      have nothing := telemetry_empty kind usage
      simp only [live, nothing, if_false, Bool.false_eq_true, forall_const]
      omega
  · have silent : carried scope events = false := by
      rw [← Bool.not_eq_true]
      exact fun some => live (carried_live some)
    simp [live, silent]

theorem counted_by_scope (events : List ContextEvent) :
    sumOver (eventTokens kind) (fun event => !leftOut events event) events =
      ((scopesOf events).map fun scope => scopeCounted kind scope events).sum + unscopedTokens kind events := by
  have grouped := sum_sumOver_key (List.nodup_dedup (events.filterMap scopeOf)) scopeOf (eventTokens kind)
    (fun event => !leftOut events event) events
  have inScopes : sumOver (eventTokens kind) (fun event => !leftOut events event &&
      (events.filterMap scopeOf).dedup.any fun scope => decide (scopeOf event = some scope)) events =
      sumOver (eventTokens kind) (fun event => !leftOut events event && !decide (scopeOf event = none)) events := by
    refine sumOver_congr fun event member => ?_
    cases scope : scopeOf event with
    | none => simp
    | some scope' =>
      have listed : scope' ∈ events.filterMap scopeOf := List.mem_filterMap.mpr ⟨event, member, scope⟩
      have found : ((events.filterMap scopeOf).dedup.any fun other => decide (some scope' = some other)) = true :=
        List.any_eq_true.mpr ⟨scope', List.mem_dedup.mpr listed, by simp⟩
      rw [found]
      simp
  have unscoped :
    sumOver (eventTokens kind) (fun event => !leftOut events event && decide (scopeOf event = none)) events =
      unscopedTokens kind events := by
    refine sumOver_congr fun event _ => ?_
    by_cases scope : scopeOf event = none
    · have kept : leftOut events event = false := by
        rw [← Bool.not_eq_true, leftOut_iff, scope]
        simp
      simp [kept]
    · simp [scope]
  have split := sumOver_split (eventTokens kind) (fun event => !leftOut events event)
    (fun event => decide (scopeOf event = none)) events
  rw [split, unscoped, ← inScopes, ← grouped, add_comm]
  rfl

theorem run_events (named : NamesRuns d taskId) (run : Run) :
    (taskEvents d taskId).filter (ofRun d run) = (taskEvents d taskId).filter fun event => decide
    (runOf event = some run.id) := by
  refine List.filter_congr fun event present => ?_
  obtain ⟨other, _, name⟩ := named event present
  have known : eventRunId event.payload = some other.id := name
  simp [ofRun, known, runOf]

theorem leftOut_sameRun (name : runOf event = some run.id) :
    leftOut (events.filter fun other => decide (runOf other = some run.id)) event = leftOut
      (sameRun events event) event := by
  rw [sameRun, name]

theorem summarize_run (stored : ∀ event ∈ taskEvents d taskId, event.Stored) (named : NamesRuns d taskId)
    (member : run ∈ runsOf d taskId) : reported kind (summarizeRun d run.id) =
      some (sumOver (eventTokens kind) (fun event => !leftOut (sameRun (taskEvents d taskId) event) event &&
        decide (runOf event = some run.id)) (taskEvents d taskId)) := by
  have row : run ∈ d.runs.rows := List.mem_of_mem_filter member
  have task : run.taskId = taskId := by simpa using List.of_mem_filter member
  have found : d.run? run.id = some run := Table.find_of_mem row
  have sorted :=
    ((taskEvents d taskId).perm_insertionSort fun a b => toLex (a.createdAt, a.id) ≤ toLex
    (b.createdAt, b.id)).filter
    (ofRun d run)
  have kept : ∀ event ∈ (taskEvents d taskId).filter fun event => decide (runOf event = some run.id), event.Stored :=
    fun event present => stored event (List.mem_of_mem_filter present)
  rw [run_events named run] at sorted
  have own : reported kind (summarize taskId (((taskEvents d taskId).insertionSort fun a b =>
      toLex (a.createdAt, a.id) ≤ toLex (b.createdAt, b.id)).filter (ofRun d run))) = _ :=
    summarize_stored kind fun event present => kept event (sorted.mem_iff.mp present)
  rw [leftOut_perm sorted, sumOver_perm sorted, sumOver_filter] at own
  have answered : summarizeRun d run.id = summarize taskId (((taskEvents d taskId).insertionSort fun a b =>
      toLex (a.createdAt, a.id) ≤ toLex (b.createdAt, b.id)).filter (ofRun d run)) := by
    rw [summarizeRun, found]
    simp only [task]
  rw [answered, own]
  congr 1
  refine sumOver_congr fun event present => ?_
  by_cases name : runOf event = some run.id
  · rw [leftOut_sameRun name]
  · simp [name]

theorem mapM_some {α β : Type} {f : α → Option β} {g : α → β} {items : List α}
    (each : ∀ item ∈ items, f item = some (g item)) :
    items.mapM f = some (items.map g) := by
  induction items with
  | nil => rfl
  | cons item rest ih =>
    rw [List.mapM_cons, each item List.mem_cons_self, ih fun other member => each other (List.mem_cons_of_mem _ member)]
    rfl

theorem leftOut_of_sameRun (own : leftOut (sameRun events event) event = true) :
    leftOut events event = true := by
  obtain ⟨result, scope, here, live⟩ := leftOut_iff.mp own
  obtain ⟨other, present, facts⟩ := mem_liveScopes.mp live
  exact leftOut_iff.mpr ⟨result, scope, here, mem_liveScopes.mpr ⟨other, List.mem_of_mem_filter present, facts⟩⟩

theorem runs_total (stored : ∀ event ∈ taskEvents d taskId, event.Stored) (named : NamesRuns d taskId) :
    ((runsOf d taskId).mapM fun run => reported kind (summarizeRun d run.id)).map List.sum =
      some (sumOver (eventTokens kind) (fun event => !leftOut (taskEvents d taskId) event) (taskEvents d taskId) +
        sumOver (eventTokens kind) (fun event => leftOut (taskEvents d taskId) event &&
          !leftOut (sameRun (taskEvents d taskId) event) event) (taskEvents d taskId)) := by
  have distinct : ((runsOf d taskId).map Run.id).Nodup := (List.filter_sublist.map Run.id).nodup d.runs.distinct
  have grouped := sum_sumOver_key distinct runOf (eventTokens kind)
    (fun event => !leftOut (sameRun (taskEvents d taskId) event) event) (taskEvents d taskId)
  have every : sumOver (eventTokens kind) (fun event => !leftOut (sameRun (taskEvents d taskId) event) event &&
      ((runsOf d taskId).map Run.id).any fun run => decide (runOf event = some run)) (taskEvents d taskId) =
      sumOver (eventTokens kind) (fun event => !leftOut (sameRun (taskEvents d taskId) event) event)
          (taskEvents d taskId) := by
    refine sumOver_congr fun event present => ?_
    obtain ⟨run, member, name⟩ := named event present
    have found : (((runsOf d taskId).map Run.id).any fun other => decide (runOf event = some other)) = true :=
      List.any_eq_true.mpr ⟨run.id, List.mem_map_of_mem member, by simpa using name⟩
    rw [found, Bool.and_true]
  have split := sumOver_split (eventTokens kind) (fun event => !leftOut (sameRun (taskEvents d taskId) event) event)
    (leftOut (taskEvents d taskId)) (taskEvents d taskId)
  have replaced : sumOver (eventTokens kind) (fun event => !leftOut (sameRun (taskEvents d taskId) event) event &&
      leftOut (taskEvents d taskId) event) (taskEvents d taskId) =
      sumOver (eventTokens kind) (fun event => leftOut (taskEvents d taskId) event &&
        !leftOut (sameRun (taskEvents d taskId) event) event) (taskEvents d taskId) :=
    sumOver_congr fun event _ => Bool.and_comm _ _
  have counted : sumOver (eventTokens kind) (fun event => !leftOut (sameRun (taskEvents d taskId) event) event &&
      !leftOut (taskEvents d taskId) event) (taskEvents d taskId) =
      sumOver (eventTokens kind) (fun event => !leftOut (taskEvents d taskId) event) (taskEvents d taskId) := by
    refine sumOver_congr fun event _ => ?_
    cases own : leftOut (sameRun (taskEvents d taskId) event) event with
    | true => rw [leftOut_of_sameRun own]; rfl
    | false => rfl
  rw [mapM_some fun run member => summarize_run stored named member, Option.map_some]
  rw [List.map_map] at grouped
  congr 1
  calc _ = _ := grouped
    _ = _ := every
    _ = _ := split
    _ = _ := by rw [replaced, counted, add_comm]

theorem taskEvents_stored (stored : ∀ event ∈ d.contextEvents, event.Stored) :
    ∀ event ∈ taskEvents d taskId, event.Stored := fun event member => stored event (List.mem_of_mem_filter member)

end CostService

/-- A task's usage is counted once exactly when nothing is lost with the
results that telemetry replaces. -/
theorem usage_counted_once_iff (history : UsageHistory d₀ d) (fresh : d₀.contextEvents = []) (taskId : String) :
    CountedOnce d taskId ↔ UsageKept d taskId := by
  have all := history.stored fresh
  have stored : ∀ event ∈ taskEvents d taskId, event.Stored := taskEvents_stored all
  have sourced : Sourced (taskEvents d taskId) := taskEvents_sourced
  have total : ∀ kind, reported kind (summarizeTask d taskId) =
      some (sumOver (eventTokens kind) (fun event => !leftOut (taskEvents d taskId) event) (taskEvents d taskId)) :=
    fun kind => summarize_stored kind stored
  constructor
  · intro counted
    constructor
    · intro scope kind
      have exact := counted.scopes scope kind
      rw [summarize_scope stored] at exact
      exact (scopeCounted_exact sourced).mp (Option.some.inj exact)
    · intro named kind
      have agree := counted.runs named kind
      rw [runs_total stored named, total] at agree
      have equal := Option.some.inj agree
      omega
  · intro kept
    have exact : ∀ scope kind, scopeCounted kind scope (taskEvents d taskId) = scopeTokens kind scope
        (taskEvents d taskId) :=
      fun scope kind => (scopeCounted_exact sourced).mpr (kept.live scope kind)
    refine
      { scopes := fun scope kind => ?_, task := fun kind => ?_, unordered := fun events perm kind => ?_, runs := ?_ }
    · rw [summarize_scope stored, exact]
    · rw [total, counted_by_scope]
      simp only [exact]
    · have reordered : (taskEvents { d with contextEvents := events } taskId).Perm (taskEvents d taskId) :=
        perm.filter _
      have restored : ∀ event ∈ taskEvents { d with contextEvents := events } taskId, event.Stored :=
        fun event member => stored event (reordered.mem_iff.mp member)
      rw [total, summarizeTask, summarize_stored kind restored, leftOut_perm reordered, sumOver_perm reordered]
    · intro named kind
      have nothing := kept.runs named kind
      rw [runs_total stored named, total, nothing, add_zero]

namespace UsageSample

def usageRecord : Json :=
  .obj [("type", .str "usage"), ("provider", .str "acme"), ("model", .str "large"), ("input_tokens", .int 100),
    ("output_tokens", .int 20)]

def toolEvent : Json :=
  .obj [("type", .str "tool_completed"), ("tool", .str "pytest"), ("duration_ms", .int 5), ("returncode", .int 0)]

def outcome : ReportedResult :=
  ⟨⟨[], [usageRecord], ⟨['1', '.', '0'], FloatText.one_printable⟩, "VERIFYING"⟩, "Tests were added."⟩

def supply : Supply := ⟨id, fun k => String.ofList (List.replicate (k + 1) 'e'), fun _ => ""⟩

/-- A step whose only telemetry is a finished tool, and its result. -/
def calls : List (UsageCall × Supply) :=
  [(.telemetry "task" "run" "step" toolEvent, supply),
    (.result "task" "developer" outcome { telemetryScope := some "run:step" }, supply)]

def counted : Db := Path.storeAfter UsageCall.after {} calls

/-- A step of a run whose telemetry and result carry its usage. -/
def live : Db :=
  let task : Task := ⟨"task", none, none, none, none, none, "", "", "", none⟩
  Path.storeAfter UsageCall.after { runs := .ofRows [newRun "run" task .testing 1] }
    [(.telemetry "task" "run" "step" (.obj [("type", .str "turn.completed"), ("usage", usageRecord)]), supply),
      (.result "task" "developer" outcome
        { taskContract := some ⟨"run", "step", .null⟩, telemetryScope := some "run:step" },
        { supply with uuids := fun _ => "r" })]

theorem history : UsageHistory {} counted := Path.of_requests (fun _ _ _ => trivial) .start

end UsageSample

open UsageSample in
/-- The usage of a step is reported live and in its result, and counted once. -/
theorem usage_counted_once_sample : CountedOnce live "task" ∧
    reported .input (summarizeTask live "task") = some 100 := by
  refine ⟨(usage_counted_once_iff (Path.of_requests (fun _ _ _ => trivial) .start) rfl "task").mpr ⟨?_, ?_⟩, by decide⟩
  · have carries : ∀ scope ∈ liveScopes (taskEvents live "task"), carried scope (taskEvents live "task") = true := by
      decide
    intro scope _ inLive uncarried
    exact absurd ((carries scope inLive).symm.trans uncarried) (by decide)
  · rintro - (_ | _) <;> decide

open UsageSample in
/-- The telemetry of a tool, which carries no usage, makes the summary lose
the tokens of the step's result. -/
theorem tool_telemetry_loses_usage : UsageHistory {} counted ∧ ¬CountedOnce counted "task" ∧
    reported .input (summarizeTask counted "task") = some 0 ∧
    scopeTokens .input "run:step" (taskEvents counted "task") = 100 := by
  refine ⟨history, fun once => ?_, by decide, by decide⟩
  have total := once.scopes "run:step" .input
  revert total
  decide

end SacmRuntime
