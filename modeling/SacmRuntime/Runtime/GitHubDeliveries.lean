import Mathlib.Data.List.ReduceOption
import SacmRuntime.Runtime.GitHubWebhook
import SacmRuntime.Runtime.RunEffects

namespace SacmRuntime
open Session RunService

namespace GitHubWebhookService

section
variable {env : WebhookEnv} {runEnv : Env} {supply : Supply}

theorem newRuns_self (d : Db) : newRuns d d = [] := by
  refine List.filter_eq_nil_iff.mpr fun id member => ?_
  obtain ⟨run, inRows, rfl⟩ := List.mem_map.mp member
  have found : d.runs.find run.id = some run := Table.find_of_mem inRows
  simp [found]

theorem newRuns_insert {d e : Db} {run : Run} (inserted : d.runs.insert? run = some e.runs) :
    newRuns d e = [run.id] := by
  obtain ⟨fresh, rows⟩ := Table.insert?_eq_some inserted
  have new : (d.runs.find run.id).isNone = true := by
    rw [show d.runs.find run.id = none from fresh]
    rfl
  have old : (d.runs.rows.map Run.id).filter (fun id => (d.runs.find id).isNone) = [] := newRuns_self d
  unfold newRuns
  rw [rows, List.map_append, List.filter_append, old, List.map_singleton, List.filter_singleton, new]
  rfl

theorem addRun_outcome (run : Run) (s : Session Db) :
    (∃ t, addRun runEnv run s = (.ok run, t) ∧ newRuns s.working t.committed = [run.id]) ∨
      ∃ e t, addRun runEnv run s = (.error e, t) ∧ t.committed = s.committed := by
  unfold addRun
  cases inserted : s.working.runs.insert? run with
  | none =>
    refine .inr ⟨.integrityError "runs.id", s, Tx.bind_run_error _ ?_, rfl⟩
    simp only [insertRun, bind_view, inserted]
    rfl
  | some runs =>
    let mid : Session Db := { s with working := { s.working with runs := runs } }
    have ran : insertRun run s = (.ok (), mid) := by
      simp only [insertRun, bind_view, inserted]
      rfl
    have found : mid.working.run? run.id = some run := (Table.find_insert? inserted run.id).trans (if_pos rfl)
    rw [Tx.bind_run_ok _ ran]
    obtain ⟨t, closed, clean, logged⟩ := closing_commits rfl found fun t logged =>
      requireRun_run ((logged.run? run.id).trans found)
    refine .inl ⟨t, closed, newRuns_insert ?_⟩
    rw [clean.1, logged.runs]
    exact inserted

/-- `RunService.create` commits one new run and returns it, or commits nothing and raises. -/
theorem create_outcome (runEnv : Env) (payload : RunCreate) (d : Db) (supply : Supply) :
    (∃ run, (request (create runEnv payload) d supply).1 = .ok run ∧
        newRuns d (request (create runEnv payload) d supply).2 = [run.id]) ∨
      ∃ e, (request (create runEnv payload) d supply).1 = .error e ∧
        (request (create runEnv payload) d supply).2 = d := by
  unfold request create
  simp only [bind_view, bind_uuid4]
  refine Tx.outcome_expect (P := fun outcome : Except Error Run × Session Db =>
    (∃ run, outcome.1 = .ok run ∧ newRuns d outcome.2.committed = [run.id]) ∨
      ∃ e, outcome.1 = .error e ∧ outcome.2.committed = d) (.inr ⟨_, rfl, rfl⟩) fun tasks _ => ?_
  simp only [bind_modify, bind_uuid4, bind_utcnow]
  rcases addRun_outcome _ _ with ⟨t, ran, new⟩ | ⟨e, t, ran, same⟩
  · exact .inl ⟨_, congrArg Prod.fst ran, by rw [ran]; exact new⟩
  · exact .inr ⟨e, congrArg Prod.fst ran, by rw [ran]; exact same⟩

def Call.openRun (call : Call) : List (Option String) :=
  match call.phase with
  | .accepted _ => [none]
  | .started runId | .abandoned runId => [some runId]
  | _ => []

def Call.result (call : Call) : Option String :=
  match call.phase with
  | .recorded runId => some runId
  | .answered result => result
  | _ => none

/-- A call that is not past its check, or that raised, has added no run. -/
def Call.Sound (call : Call) : Prop :=
  match call.phase with
  | .asked | .accepted _ | .raised _ => call.made = []
  | _ => True

def World.openOf (world : World) (id : String) : List (Option String) :=
  (world.calls.filter fun call => call.key = some id).flatMap Call.openRun

def World.recordedOf (world : World) (id : String) : List String :=
  (world.deliveries.filter fun row => row.deliveryId == id).map GitHubWebhookDelivery.runId

/-- What the rows of a delivery and its open calls say about its runs. -/
structure Accounted (recorded : List String) (pending : List (Option String)) (made : List String) : Prop where
  few : recorded.length + pending.length ≤ 1
  made : made = recorded ++ pending.reduceOption

/-- The invariant: a delivery has a row or one open call, not both, and they
account for its runs. -/
structure Settled (world : World) : Prop where
  accounted : ∀ id, Accounted (world.recordedOf id) (world.openOf id) (world.runsOf id)
  results : ∀ call ∈ world.calls, ∀ id, call.key = some id → ∀ runId, call.result = some runId →
    world.recordedOf id = [runId]
  sound : ∀ call ∈ world.calls, call.Sound

variable {call moved : Call} {earlier later : List Call} {id : String} {position : Nat} {world : World}

theorem Settled.exactlyOnce (settled : Settled world) : ExactlyOnce world where
  one id := by
    obtain ⟨few, made⟩ := settled.accounted id
    have fewer : (world.openOf id).reduceOption.length ≤ (world.openOf id).length := List.reduceOption_length_le _
    rw [made, List.length_append]
    omega
  answers call member id key runId answered := by
    have recorded := settled.results call member id key runId (by rw [Call.result, answered])
    obtain ⟨few, made⟩ := settled.accounted id
    rw [recorded] at few made
    have none : world.openOf id = [] := List.length_eq_zero_iff.mp (by simpa using few)
    rw [made, none]
    rfl
  clean call member e raised := by
    have sound := settled.sound call member
    rwa [Call.Sound, raised] at sound

theorem flatMap_ofKey {β : Type} (part : Call → List β) (key : call.key = some id) :
    ((earlier ++ call :: later).filter fun call => call.key = some id).flatMap part =
      (earlier.filter fun call => call.key = some id).flatMap part ++ part call ++
        (later.filter fun call => call.key = some id).flatMap part := by
  simp [key]

theorem flatMap_arrived {β : Type} {calls : List Call} {part : Call → List β} (nothing : part call = []) :
    ((calls ++ [call]).filter fun call => call.key = some id).flatMap part =
      (calls.filter fun call => call.key = some id).flatMap part := by
  by_cases key : call.key = some id <;> simp [key, nothing]

theorem Settled.replace {next : World} (settled : Settled world) (split : world.calls = earlier ++ call :: later)
    (calls : next.calls = earlier ++ moved :: later) (sameKey : moved.key = call.key)
    (others : ∀ id, call.key ≠ some id → next.recordedOf id = world.recordedOf id)
    (kept : ∀ id runId, world.recordedOf id = [runId] → next.recordedOf id = [runId])
    (accounted : ∀ id, call.key = some id → ∀ before after made rest, world.openOf id = before ++ call.openRun ++
      after → Accounted (world.recordedOf id) (before ++ call.openRun ++ after) (made ++ call.made ++ rest) →
      Accounted (next.recordedOf id) (before ++ moved.openRun ++ after) (made ++ moved.made ++ rest))
    (result : ∀ id, call.key = some id → ∀ runId, moved.result = some runId → next.recordedOf id = [runId])
    (sound : moved.Sound) : Settled next where
  accounted id := by
    have before := settled.accounted id
    by_cases key : call.key = some id
    · rw [World.openOf, World.runsOf, split, flatMap_ofKey _ key, flatMap_ofKey _ key] at before
      rw [World.openOf, World.runsOf, calls, flatMap_ofKey _ (sameKey.trans key), flatMap_ofKey _ (sameKey.trans key)]
      refine accounted id key _ _ _ _ ?_ before
      rw [World.openOf, split, flatMap_ofKey _ key]
    · have otherKey : moved.key ≠ some id := by rwa [sameKey]
      have opens : next.openOf id = world.openOf id := by simp [World.openOf, calls, split, key, otherKey]
      have runs : next.runsOf id = world.runsOf id := by simp [World.runsOf, calls, split, key, otherKey]
      rw [others id key, opens, runs]
      exact before
  results other member id key runId holds := by
    rw [calls] at member
    rcases List.mem_append.mp member with inEarlier | onward
    · exact kept id runId (settled.results other (by simp [split, inEarlier]) id key runId holds)
    · rcases List.mem_cons.mp onward with rfl | inLater
      · exact result id (sameKey.symm.trans key) runId holds
      · exact kept id runId (settled.results other (by simp [split, inLater]) id key runId holds)
  sound other member := by
    rw [calls] at member
    rcases List.mem_append.mp member with inEarlier | onward
    · exact settled.sound other (by simp [split, inEarlier])
    · rcases List.mem_cons.mp onward with rfl | inLater
      · exact sound
      · exact settled.sound other (by simp [split, inLater])

namespace Accounted
variable {recorded made rest : List String} {before after : List (Option String)} {runId : String}

theorem alone {entry : Option String} (accounted : Accounted recorded (before ++ [entry] ++ after) made) :
    recorded = [] ∧ before = [] ∧ after = [] ∧ made = [entry].reduceOption := by
  obtain ⟨few, same⟩ := accounted
  simp only [List.length_append, List.length_singleton] at few
  have noRow : recorded = [] := List.length_eq_zero_iff.mp (by omega)
  have noEarlier : before = [] := List.length_eq_zero_iff.mp (by omega)
  have noLater : after = [] := List.length_eq_zero_iff.mp (by omega)
  subst noRow noEarlier noLater
  exact ⟨rfl, rfl, rfl, same⟩

theorem opened (pending : before ++ after = []) (row : recorded = [])
    (accounted : Accounted recorded (before ++ [] ++ after) made) :
      Accounted recorded (before ++ [none] ++ after) made := by
  obtain ⟨rfl, rfl⟩ := List.append_eq_nil_iff.mp pending
  subst row
  exact ⟨le_rfl, accounted.made⟩

theorem started (accounted : Accounted recorded (before ++ [none] ++ after) (made ++ [] ++ rest)) :
    Accounted recorded (before ++ [some runId] ++ after) (made ++ [runId] ++ rest) := by
  obtain ⟨rfl, rfl, rfl, same⟩ := accounted.alone
  have nothing : made ++ rest = [] := by simpa [List.reduceOption] using same
  obtain ⟨rfl, rfl⟩ := List.append_eq_nil_iff.mp nothing
  exact ⟨le_rfl, rfl⟩

theorem withRow (accounted : Accounted recorded (before ++ [some runId] ++ after) made) :
    Accounted [runId] (before ++ [] ++ after) made := by
  obtain ⟨rfl, rfl, rfl, rfl⟩ := accounted.alone
  exact ⟨le_rfl, rfl⟩

theorem closed (accounted : Accounted recorded (before ++ [none] ++ after) made) :
    Accounted recorded (before ++ [] ++ after) made := by
  obtain ⟨rfl, rfl, rfl, rfl⟩ := accounted.alone
  exact ⟨Nat.zero_le _, rfl⟩

end Accounted

theorem Settled.move {step : World → Call → World × Call} (settled : Settled world)
    (each : ∀ call earlier later, world.calls[position]? = some call → world.calls = earlier ++ call :: later →
      Settled { (step world call).1 with calls := earlier ++ (step world call).2 :: later }) :
    Settled (world.move position step) := by
  unfold World.move
  cases found : world.calls[position]? with
  | none => exact settled
  | some call =>
    obtain ⟨inside, here⟩ := List.getElem?_eq_some_iff.mp found
    have split : world.calls = world.calls.take position ++ call :: world.calls.drop (position + 1) := by
      rw [← here, List.cons_getElem_drop_succ, List.take_append_drop]
    have replaced (moved : Call) : world.calls.set position moved =
        world.calls.take position ++ moved :: world.calls.drop (position + 1) := by
      rw [List.set_eq_take_append_cons_drop, if_pos inside]
    simpa only [replaced] using each call _ _ found split

theorem Settled.quiet (settled : Settled world) (split : world.calls = earlier ++ call :: later)
    (sameKey : moved.key = call.key) (sameRuns : moved.made = call.made)
    (left : moved.openRun = call.openRun ∨ call.openRun = [none] ∧ moved.openRun = [])
    (result : ∀ id, call.key = some id → ∀ runId, moved.result = some runId → world.recordedOf id = [runId])
    (sound : moved.Sound) : Settled { world with calls := earlier ++ moved :: later } := by
  refine settled.replace split rfl sameKey (fun _ _ => rfl) (fun _ _ same => same) ?_ result sound
  intro id key before after made rest _ accounted
  rw [sameRuns]
  rcases left with same | ⟨opened, closed⟩
  · rw [same]
    exact accounted
  · rw [opened] at accounted
    rw [closed]
    exact accounted.closed

theorem delivered_isNone (key : call.key = some id) (absent : delivered world.deliveries call.key = none) :
    world.recordedOf id = [] := by
  rw [delivered, key, Option.bind_some, List.find?_eq_none] at absent
  rw [World.recordedOf, List.map_eq_nil_iff, List.filter_eq_nil_iff]
  exact absent

theorem delivered_recorded {row : GitHubWebhookDelivery} (settled : Settled world) (key : call.key = some id)
    (found : delivered world.deliveries call.key = some row) :
    world.recordedOf id = [row.runId] := by
  rw [delivered, key, Option.bind_some] at found
  have named := List.find?_some found
  have member : row.runId ∈ world.recordedOf id :=
    List.mem_map_of_mem (List.mem_filter.mpr ⟨List.mem_of_find?_eq_some found, named⟩)
  have few := (settled.accounted id).few
  obtain ⟨other, only⟩ : ∃ other, world.recordedOf id = [other] := by
    refine List.length_eq_one_iff.mp ?_
    have positive := List.length_pos_of_mem member
    omega
  rw [only] at member ⊢
  rw [List.mem_singleton.mp member]

theorem openRun_eq_nil (closed : ¬call.Open) : call.openRun = [] := by
  unfold Call.Open at closed
  unfold Call.openRun
  split at closed <;> simp_all

section
variable (settled : Settled world) (split : world.calls = earlier ++ call :: later)
include settled split

theorem Settled.check (asked : call.phase = .asked)
    (orderly : ∀ payload, intake env world.projects call.payload = .ok (some payload) → ∀ id, call.key = some id →
      ∀ other ∈ world.calls, other.key = some id → ¬other.Open) :
    Settled { world with calls := earlier ++ { call with phase := check env world call } :: later } := by
  have unmade : call.made = [] := by
    have sound := settled.sound call (by simp [split])
    rwa [Call.Sound, asked] at sound
  have notOpen : call.openRun = [] := by rw [Call.openRun, asked]
  unfold GitHubWebhookService.check
  cases found : delivered world.deliveries call.key with
  | some row =>
    refine settled.quiet split rfl rfl (.inl notOpen.symm) ?_ trivial
    rintro id key runId ⟨⟩
    exact delivered_recorded settled key found
  | none =>
    cases read : intake env world.projects call.payload with
    | error e => exact settled.quiet split rfl rfl (.inl notOpen.symm) (fun _ _ _ => nofun) unmade
    | ok asks =>
      cases asks with
      | none => exact settled.quiet split rfl rfl (.inl notOpen.symm) (fun _ _ _ => nofun) trivial
      | some payload =>
        refine settled.replace split rfl rfl (fun _ _ => rfl) (fun _ _ same => same) ?_ (fun _ _ _ => nofun) unmade
        intro id key before after made rest opens accounted
        rw [notOpen] at opens accounted
        have noneOpen : world.openOf id = [] := by
          refine List.flatMap_eq_nil_iff.mpr fun other member => openRun_eq_nil ?_
          obtain ⟨inCalls, ofKey⟩ := List.mem_filter.mp member
          exact orderly payload read id key other inCalls (of_decide_eq_true ofKey)
        exact accounted.opened (by simpa using opens.symm.trans noneOpen) (delivered_isNone key found)

theorem Settled.createRun {payload : RunCreate} (accepted : call.phase = .accepted payload) :
    Settled { (createRun runEnv world call payload supply).1 with
      calls := earlier ++ (createRun runEnv world call payload supply).2 :: later } := by
  have unmade : call.made = [] := by
    have sound := settled.sound call (by simp [split])
    rwa [Call.Sound, accepted] at sound
  have pending : call.openRun = [none] := by rw [Call.openRun, accepted]
  unfold GitHubWebhookService.createRun
  rcases create_outcome runEnv payload world.store supply with ⟨run, returned, new⟩ | ⟨e, raised, same⟩
  · simp only [returned, new, unmade, List.nil_append]
    refine settled.replace split rfl rfl (fun _ _ => rfl) (fun _ _ same => same) ?_ (fun _ _ _ => nofun) trivial
    intro id key before after made rest _ accounted
    rw [pending, unmade] at accounted
    exact accounted.started
  · simp only [raised, same, newRuns_self, List.append_nil]
    exact settled.quiet split rfl rfl (.inr ⟨pending, rfl⟩) (fun _ _ _ => nofun) unmade

theorem Settled.recordDelivery {runId : String} (started : call.phase = .started runId) :
    Settled { (recordDelivery world call runId).1 with calls := earlier ++
      (recordDelivery world call runId).2 :: later } := by
  have pending : call.openRun = [some runId] := by rw [Call.openRun, started]
  unfold GitHubWebhookService.recordDelivery
  cases key : call.key with
  | none =>
    have keyless {id : String} : call.key ≠ some id := by simp [key]
    refine settled.replace split rfl rfl (fun _ _ => rfl) (fun _ _ same => same) ?_ ?_ trivial
    · exact fun id ofKey => absurd ofKey keyless
    · exact fun id ofKey => absurd ofKey keyless
  | some id =>
    have noRow : world.recordedOf id = [] := by
      have accounted := settled.accounted id
      rw [World.openOf, split, flatMap_ofKey _ key, pending] at accounted
      exact accounted.alone.1
    have absent : delivered world.deliveries (some id) = none := by
      rw [World.recordedOf, List.map_eq_nil_iff, List.filter_eq_nil_iff] at noRow
      exact List.find?_eq_none.mpr noRow
    simp only [absent, Option.isSome_none, Bool.false_eq_true, if_false]
    have added (other : String) :
      World.recordedOf { world with deliveries := world.deliveries ++ [⟨id, runId⟩] } other =
        world.recordedOf other ++ if id = other then [runId] else [] := by
      by_cases same : id = other <;> simp [World.recordedOf, same]
    have here := added id
    rw [noRow, if_pos rfl, List.nil_append] at here
    refine settled.replace split rfl rfl ?_ ?_ ?_ ?_ trivial
    · intro other different
      have apart : id ≠ other := fun same => different (same ▸ key)
      exact (added other).trans (by rw [if_neg apart, List.append_nil])
    · intro other recorded same
      have apart : id ≠ other := by
        rintro rfl
        rw [noRow] at same
        cases same
      exact (added other).trans (by rw [if_neg apart, List.append_nil, same])
    · intro other ofKey before after made rest _ accounted
      cases Option.some.inj (key.symm.trans ofKey)
      rw [pending] at accounted
      exact here ▸ accounted.withRow
    · rintro other ofKey recorded ⟨⟩
      cases Option.some.inj (key.symm.trans ofKey)
      exact here

theorem Settled.advance
    (orderly : call.phase = .asked → ∀ payload, intake env world.projects call.payload = .ok (some payload) →
      ∀ id, call.key = some id → ∀ other ∈ world.calls, other.key = some id → ¬other.Open) :
    Settled { (advance env runEnv supply world call).1 with
      calls := earlier ++ (advance env runEnv supply world call).2 :: later } := by
  have unmoved : Settled { world with calls := earlier ++ call :: later } := by rwa [← split]
  unfold GitHubWebhookService.advance
  cases phase : call.phase with
  | asked => exact settled.check split phase (orderly phase)
  | accepted payload => exact settled.createRun split phase
  | started runId => exact settled.recordDelivery split phase
  | recorded runId =>
    have closed : call.openRun = [] := by rw [Call.openRun, phase]
    refine settled.quiet split rfl rfl (.inl closed.symm) ?_ trivial
    rintro id key answer ⟨⟩
    exact settled.results call (by simp [split]) id key runId (by rw [Call.result, phase])
  | answered _ | raised _ | abandoned _ | stopped => exact unmoved

theorem Settled.fails {e : Error} (orderly : ∀ runId, call.phase ≠ .started runId ∧ call.phase ≠ .recorded runId) :
    Settled { world with calls := earlier ++ call.fails e :: later } := by
  have unmoved : Settled { world with calls := earlier ++ call :: later } := by rwa [← split]
  have sound := settled.sound call (by simp [split])
  unfold Call.fails
  cases phase : call.phase with
  | asked =>
    rw [Call.Sound, phase] at sound
    have closed : call.openRun = [] := by rw [Call.openRun, phase]
    exact settled.quiet split rfl rfl (.inl closed.symm) (fun _ _ _ => nofun) sound
  | accepted payload =>
    rw [Call.Sound, phase] at sound
    have pending : call.openRun = [none] := by rw [Call.openRun, phase]
    exact settled.quiet split rfl rfl (.inr ⟨pending, rfl⟩) (fun _ _ _ => nofun) sound
  | started runId => exact absurd phase (orderly runId).1
  | recorded runId => exact absurd phase (orderly runId).2
  | answered _ | raised _ | abandoned _ | stopped => exact unmoved

theorem Settled.stops :
    Settled { world with calls := earlier ++ call.stops :: later } := by
  have unmoved : Settled { world with calls := earlier ++ call :: later } := by rwa [← split]
  unfold Call.stops
  cases phase : call.phase with
  | asked | recorded _ =>
    have closed : call.openRun = [] := by rw [Call.openRun, phase]
    exact settled.quiet split rfl rfl (.inl closed.symm) (fun _ _ _ => nofun) trivial
  | accepted payload =>
    have pending : call.openRun = [none] := by rw [Call.openRun, phase]
    exact settled.quiet split rfl rfl (.inr ⟨pending, rfl⟩) (fun _ _ _ => nofun) trivial
  | started runId =>
    have pending : call.openRun = [some runId] := by rw [Call.openRun, phase]
    exact settled.quiet split rfl rfl (.inl pending.symm) (fun _ _ _ => nofun) trivial
  | answered _ | raised _ | abandoned _ | stopped => exact unmoved

end

theorem Settled.after {action : Action} (settled : Settled world) (orderly : Orderly env world supply action) :
    Settled (action.after env runEnv world supply) := by
  cases action with
  | arrive delivery payload =>
    let arrived : Call := { delivery := delivery, payload := payload }
    change Settled { world with calls := world.calls ++ [arrived] }
    refine ⟨fun id => ?_, fun call member => ?_, fun call member => ?_⟩
    · have closed : arrived.openRun = [] := rfl
      have unmade : arrived.made = [] := rfl
      unfold World.openOf World.runsOf
      rw [flatMap_arrived closed, flatMap_arrived unmade]
      exact settled.accounted id
    · rcases List.mem_append.mp member with old | new
      · exact settled.results call old
      · cases List.mem_singleton.mp new
        exact fun _ _ _ => nofun
    · rcases List.mem_append.mp member with old | new
      · exact settled.sound call old
      · cases List.mem_singleton.mp new
        exact rfl
  | proceed position =>
    exact settled.move fun call earlier later found split => settled.advance split (orderly call found)
  | fail position e =>
    change Settled (world.move position fun world call => (world, call.fails e))
    exact settled.move fun call earlier later found split => settled.fails split (orderly call found)
  | stop position =>
    change Settled (world.move position fun world call => (world, call.stops))
    exact settled.move fun call earlier later found split => settled.stops split
  | around store projects => exact ⟨settled.accounted, settled.results, settled.sound⟩

/-- A delivery starts at most one run while its calls check one after another
and none raises once its run is committed. -/
theorem delivery_starts_once {first last : World} (noRows : first.deliveries = []) (noCalls : first.calls = [])
    (run : Path (Action.after env runEnv) (Orderly env) first last) : ExactlyOnce last := by
  have settled : Settled first := by
    refine ⟨fun id => ?_, ?_, ?_⟩
    · rw [World.recordedOf, World.openOf, World.runsOf, noRows, noCalls]
      exact ⟨Nat.zero_le _, rfl⟩
    · simp [noCalls]
    · simp [noCalls]
  exact (run.keeps (fun world supply action orderly settled => settled.after orderly) settled).exactlyOnce

theorem orderly_of_closed (closed : ∀ call ∈ world.calls, call.openRun = []) :
    Orderly env world supply (.proceed position) := by
  intro _ _ _ _ _ _ _ other member _ pending
  have none := closed other member
  unfold Call.Open at pending
  unfold Call.openRun at none
  split at pending <;> simp_all

theorem orderly_of_past (found : world.calls[position]? = some call) (past : call.phase ≠ .asked) :
    Orderly env world supply (.proceed position) := by
  intro other here asked
  cases Option.some.inj (found.symm.trans here)
  exact absurd asked past

end

namespace Sample

def payload : Json := .obj [
  ("action", .str "labeled"),
  ("label", .obj [("name", .str "sacm")]),
  ("issue", .obj [("title", .str "Fix checkout"), ("body", .str "Tests are failing.")]),
  ("repository", .obj [("full_name", .str "owner/repository"), ("default_branch", .str "main")])]

def env : WebhookEnv where
  getenv _ := none
  loads _ := some (.obj [("owner/repository", .str "/repository")])
  repr _ := ""

def supplyOf (name : String) : Supply := SacmRuntime.Sample.supplyOf name

def fresh : World := { store := {} }

def worldAfter : World → List (Action × Supply) → World := Path.storeAfter (Action.after env SacmRuntime.Sample.env)

/-- Two calls with one delivery id, each of which checks before the other commits. -/
def overlapping : List (Action × Supply) :=
  [(.arrive (some "delivery-1") payload, supplyOf ""), (.arrive (some "delivery-1") payload, supplyOf ""),
    (.proceed 0, supplyOf ""), (.proceed 1, supplyOf ""), (.proceed 0, supplyOf "a"), (.proceed 1, supplyOf "b"),
    (.proceed 0, supplyOf ""), (.proceed 1, supplyOf "")]

/-- Both calls commit a run; the second raises at the row of the delivery and leaves its run. -/
theorem overlapping_deliveries :
    Path (Action.after env SacmRuntime.Sample.env) (fun _ _ _ => True) fresh (worldAfter fresh overlapping) ∧
      (worldAfter fresh overlapping).runsOf "delivery-1" = ["a1", "b1"] ∧
      (worldAfter fresh overlapping).store.runs.rows.map Run.id = ["a1", "b1"] ∧
      ¬ExactlyOnce (worldAfter fresh overlapping) := by
  have runs : (worldAfter fresh overlapping).runsOf "delivery-1" = ["a1", "b1"] := by decide +kernel
  refine ⟨.of_requests (fun _ _ _ => trivial) .start, runs, by decide +kernel, fun once => ?_⟩
  have few := once.one "delivery-1"
  rw [runs] at few
  exact absurd few (by decide)

/-- A call that answers, and the delivery of the same payload again. -/
def redelivered : List (Action × Supply) :=
  [(.arrive (some "delivery-1") payload, supplyOf ""), (.proceed 0, supplyOf ""), (.proceed 0, supplyOf "a"),
    (.proceed 0, supplyOf ""), (.proceed 0, supplyOf ""), (.arrive (some "delivery-1") payload, supplyOf ""),
    (.proceed 1, supplyOf "b")]

theorem delivery_starts_once_redelivered :
    ExactlyOnce (worldAfter fresh redelivered) ∧
      (worldAfter fresh redelivered).calls.map Call.result = [some "a1", some "a1"] := by
  have asked : Orderly env (worldAfter fresh (redelivered.take 1)) (supplyOf "") (.proceed 0) :=
    orderly_of_closed (by decide +kernel)
  have again : Orderly env (worldAfter fresh (redelivered.take 6)) (supplyOf "b") (.proceed 1) :=
    orderly_of_closed (by decide +kernel)
  have checked : Path (Action.after env SacmRuntime.Sample.env) (Orderly env) fresh
      (worldAfter fresh (redelivered.take 2)) :=
    .next (.next .start (Action.arrive (some "delivery-1") payload) (supplyOf "") trivial) _ _ asked
  have answered : Path (Action.after env SacmRuntime.Sample.env) (Orderly env) fresh
      (worldAfter fresh (redelivered.take 5)) := by
    refine .next (.next (.next checked (.proceed 0) (supplyOf "a") ?_) (.proceed 0) (supplyOf "") ?_)
      (.proceed 0) (supplyOf "") ?_
    · exact orderly_of_past rfl nofun
    · exact orderly_of_past rfl nofun
    · exact orderly_of_past rfl nofun
  have path : Path (Action.after env SacmRuntime.Sample.env) (Orderly env) fresh (worldAfter fresh redelivered) :=
    .next (.next answered (Action.arrive (some "delivery-1") payload) (supplyOf "") trivial) _ _ again
  exact ⟨delivery_starts_once rfl rfl path, by decide +kernel⟩

end Sample

end GitHubWebhookService

end SacmRuntime
