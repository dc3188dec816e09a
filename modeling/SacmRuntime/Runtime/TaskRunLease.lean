import SacmRuntime.Lib.Interleaving
import SacmRuntime.Runtime.Rows

namespace SacmRuntime
open Table

/-- `task_run_leases`: the task is the primary key. -/
structure TaskRunLease where
  taskId : String
  ownerToken : String
  acquiredAt : Nat
  heartbeatAt : Nat
  expiresAt : Nat
  deriving DecidableEq

instance : Keyed TaskRunLease := ⟨TaskRunLease.taskId⟩

/-- What one call of the service holds: the lease duration of its service,
its task and token, and the reading of the clock it was given. -/
structure LeaseRequest where
  leaseSeconds : Nat
  taskId : String
  ownerToken : String
  current : Nat

def LeaseRequest.expiresAt (r : LeaseRequest) : Nat := r.current + r.leaseSeconds * 1000000

namespace TaskRunLeaseService

def expired (r : LeaseRequest) (lease : TaskRunLease) : Bool :=
  lease.taskId == r.taskId && decide (lease.expiresAt ≤ r.current)

/-- The update of `acquire`; `none` if it matches no row. -/
def takeOver (r : LeaseRequest) (leases : Table TaskRunLease) : Option (Table TaskRunLease) :=
  if leases.rows.any (expired r) then
    some (leases.updateWhere (expired r) fun lease =>
      { lease with ownerToken := r.ownerToken, acquiredAt := r.current, heartbeatAt := r.current,
                   expiresAt := r.expiresAt })
  else none

/-- The insertion of `acquire`, which the primary key refuses while the task has a lease. -/
def insertLease (r : LeaseRequest) (leases : Table TaskRunLease) : Except Error (Table TaskRunLease) :=
  match leases.insert? ⟨r.taskId, r.ownerToken, r.current, r.current, r.expiresAt⟩ with
  | some inserted => .ok inserted
  | none => .error (.runtimeError ("Task " ++ r.taskId ++ " already has an active orchestrator run."))

def live (r : LeaseRequest) (lease : TaskRunLease) : Bool :=
  lease.taskId == r.taskId && lease.ownerToken == r.ownerToken && decide (r.current < lease.expiresAt)

/-- `TaskRunLeaseService.heartbeat`. -/
def heartbeat (r : LeaseRequest) (leases : Table TaskRunLease) : Except Error (Table TaskRunLease) :=
  if leases.rows.any (live r) then
    .ok (leases.updateWhere (live r) fun lease => { lease with heartbeatAt := r.current, expiresAt := r.expiresAt })
  else .error (.runtimeError ("Task " ++ r.taskId ++ " orchestrator lease was lost."))

def held (taskId ownerToken : String) (lease : TaskRunLease) : Bool :=
  lease.taskId == taskId && lease.ownerToken == ownerToken

/-- `TaskRunLeaseService.release`. -/
def release (taskId ownerToken : String) (leases : Table TaskRunLease) : Bool × Table TaskRunLease :=
  (leases.rows.any (held taskId ownerToken), leases.deleteWhere (held taskId ownerToken))

end TaskRunLeaseService

open TaskRunLeaseService

/-- A call under way, by the statement it executes next. -/
inductive LeaseCall where
  | acquire (r : LeaseRequest)
  | insert (r : LeaseRequest)
  | heartbeat (r : LeaseRequest)
  | release (taskId ownerToken : String)

/-- What the orchestrators share: the leases, the latest reading of the
clock, the tokens drawn so far, and an observer's list of the tasks and
tokens for which `acquire` succeeded. -/
structure TaskLeases where
  leases : Table TaskRunLease
  now : Nat
  drawn : List String
  acquired : List (String × String)

namespace TaskLeases

def acquires (s : TaskLeases) (r : LeaseRequest) (leases : Table TaskRunLease) : TaskLeases :=
  { s with leases := leases, acquired := s.acquired ++ [(r.taskId, r.ownerToken)] }

/-- The next statement of a call, and what is left of the call. -/
def statement (s : TaskLeases) : LeaseCall → TaskLeases × Option LeaseCall
  | .acquire r =>
    match takeOver r s.leases with
    | some leases => (s.acquires r leases, none)
    | none => (s, some (.insert r))
  | .insert r =>
    match insertLease r s.leases with
    | .ok leases => (s.acquires r leases, none)
    | .error _ => (s, none)
  | .heartbeat r =>
    match heartbeat r s.leases with
    | .ok leases => ({ s with leases := leases }, none)
    | .error _ => (s, none)
  | .release taskId ownerToken => ({ s with leases := (release taskId ownerToken s.leases).2 }, none)

/-- How a call enters: it reads the clock, and `acquire` draws a new token. -/
inductive Begins (s : TaskLeases) : TaskLeases → LeaseCall → Prop
  | acquire (r : LeaseRequest) : 0 < r.leaseSeconds → s.now ≤ r.current → r.ownerToken ∉ s.drawn →
      Begins s { s with now := r.current, drawn := r.ownerToken :: s.drawn } (.acquire r)
  | heartbeat (r : LeaseRequest) : 0 < r.leaseSeconds → s.now ≤ r.current →
      Begins s { s with now := r.current } (.heartbeat r)
  | release (taskId ownerToken : String) : Begins s s (.release taskId ownerToken)

def Ticks (s t : TaskLeases) : Prop := ∃ now, s.now ≤ now ∧ t = { s with now := now }

/-- Any number of orchestrators at work on the leases of tasks. -/
def calls : Calls TaskLeases LeaseCall := ⟨Begins, statement, Ticks⟩

def initial (now : Nat) : TaskLeases := ⟨.empty, now, [], []⟩

end TaskLeases

def LeaseCall.taskId : LeaseCall → String
  | acquire r | insert r | heartbeat r => r.taskId
  | release taskId _ => taskId

/-- The token a call of `acquire` has drawn and not stored yet. -/
def LeaseCall.token : LeaseCall → Option String
  | acquire r | insert r => some r.ownerToken
  | heartbeat _ | release .. => none

/-- The next statement of the call is the one with which `acquire` succeeds. -/
def LeaseCall.Acquires (leases : Table TaskRunLease) : LeaseCall → Prop
  | acquire r => ∃ next, takeOver r leases = some next
  | insert r => ∃ next, insertLease r leases = .ok next
  | heartbeat _ | release .. => False

def Holder (acquired : List (String × String)) (taskId token : String) : Prop :=
  ∃ before after, acquired = before ++ (taskId, token) :: after ∧ ∀ entry ∈ after, entry.1 ≠ taskId

namespace Holder
variable {acquired : List (String × String)} {taskId token old new : String}

theorem append_self : Holder (acquired ++ [(taskId, token)]) taskId token :=
  ⟨acquired, [], rfl, fun _ member => absurd member List.not_mem_nil⟩

theorem append_other (holder : Holder acquired taskId token) (different : old ≠ taskId) :
    Holder (acquired ++ [(old, new)]) taskId token := by
  obtain ⟨before, after, rfl, last⟩ := holder
  refine ⟨before, after ++ [(old, new)], by simp, fun entry member => ?_⟩
  rcases List.mem_append.mp member with earlier | newest
  · exact last entry earlier
  · cases List.mem_singleton.mp newest
    exact different

theorem ne_of_followed (holder : Holder acquired taskId token) (distinct : (acquired.map Prod.snd).Nodup)
    (followed : [(taskId, old), (taskId, new)].Sublist acquired) : token ≠ old := by
  rintro rfl
  obtain ⟨before, after, rfl, last⟩ := holder
  have unrepeated : (taskId, token) ∉ before := by
    intro member
    have apart := (List.pairwise_append.mp (List.Nodup.of_map Prod.snd distinct)).2.2
    exact apart _ member _ List.mem_cons_self rfl
  obtain ⟨first, second, split, inBefore, inRest⟩ := List.sublist_append_iff.mp followed
  cases first with
  | nil =>
    simp only [List.nil_append] at split
    subst split
    have newAfter : (taskId, new) ∈ after := by
      cases inRest with
      | cons _ rest => exact absurd rfl (last _ (rest.subset List.mem_cons_self))
      | cons_cons _ rest => exact rest.subset List.mem_cons_self
    exact last _ newAfter rfl
  | cons entry rest =>
    simp only [List.cons_append, List.cons.injEq] at split
    exact unrepeated (split.1 ▸ inBefore.subset List.mem_cons_self)

end Holder

section
variable {leases next : Table TaskRunLease} {r : LeaseRequest} {lease row : TaskRunLease} {taskId token : String}

theorem heartbeat_ok (extended : heartbeat r leases = .ok next) :
    ∃ lease, leases.find r.taskId = some lease ∧ lease.ownerToken = r.ownerToken ∧ r.current < lease.expiresAt := by
  unfold heartbeat at extended
  split at extended
  · rename_i found
    obtain ⟨lease, member, mine⟩ := List.any_eq_true.mp found
    simp only [live, Bool.and_eq_true, beq_iff_eq, decide_eq_true_eq] at mine
    exact ⟨lease, find_eq_some_iff.mpr ⟨member, mine.1.1⟩, mine.1.2, mine.2⟩
  · cases extended

theorem heartbeat_row (extended : heartbeat r leases = .ok next) (member : row ∈ next.rows) :
    ∃ lease ∈ leases.rows, row.taskId = lease.taskId ∧ row.ownerToken = lease.ownerToken := by
  unfold heartbeat at extended
  split at extended
  · cases extended
    obtain ⟨lease, inOld, same⟩ := List.mem_map.mp member
    refine ⟨lease, inOld, ?_⟩
    split at same
    · rw [rewriteRow_of_keeps rfl] at same
      simp [← same]
    · simp [same]
  · cases extended

theorem takeOver_expired (taken : takeOver r leases = some next) :
    ∃ lease, leases.find r.taskId = some lease ∧ lease.expiresAt ≤ r.current := by
  unfold takeOver at taken
  split at taken
  · rename_i found
    obtain ⟨lease, member, late⟩ := List.any_eq_true.mp found
    simp only [expired, Bool.and_eq_true, beq_iff_eq, decide_eq_true_eq] at late
    exact ⟨lease, find_eq_some_iff.mpr ⟨member, late.1⟩, late.2⟩
  · cases taken

theorem takeOver_row (taken : takeOver r leases = some next) (member : row ∈ next.rows) :
    (row.taskId = r.taskId ∧ row.ownerToken = r.ownerToken) ∨ (row ∈ leases.rows ∧ row.taskId ≠ r.taskId) := by
  obtain ⟨stale, atTask, late⟩ := takeOver_expired taken
  unfold takeOver at taken
  split at taken
  · cases taken
    obtain ⟨lease, inOld, same⟩ := List.mem_map.mp member
    split at same
    · rename_i matching
      rw [rewriteRow_of_keeps rfl] at same
      simp only [expired, Bool.and_eq_true, beq_iff_eq] at matching
      exact .inl (by simp [← same, matching.1])
    · rename_i unmatched
      subst same
      refine .inr ⟨inOld, fun ofTask => unmatched ?_⟩
      have here : leases.find r.taskId = some lease := find_eq_some_iff.mpr ⟨inOld, ofTask⟩
      cases Option.some.inj (atTask.symm.trans here)
      simp [expired, ofTask, late]
  · cases taken

theorem insertLease_ok (inserted : insertLease r leases = .ok next) :
    leases.find r.taskId = none ∧ next.rows = leases.rows ++
      [⟨r.taskId, r.ownerToken, r.current, r.current, r.expiresAt⟩] := by
  unfold insertLease at inserted
  split at inserted
  · rename_i table new
    cases inserted
    exact insert?_eq_some new
  · cases inserted

theorem insertLease_row (inserted : insertLease r leases = .ok next) (member : row ∈ next.rows) :
    (row.taskId = r.taskId ∧ row.ownerToken = r.ownerToken) ∨ (row ∈ leases.rows ∧ row.taskId ≠ r.taskId) := by
  obtain ⟨absent, rows⟩ := insertLease_ok inserted
  rw [rows] at member
  rcases List.mem_append.mp member with old | newest
  · refine .inr ⟨old, fun ofTask => ?_⟩
    have here : leases.find r.taskId = some row := find_eq_some_iff.mpr ⟨old, ofTask⟩
    rw [absent] at here
    cases here
  · cases List.mem_singleton.mp newest
    exact .inl ⟨rfl, rfl⟩

theorem refused (other : ∀ lease, leases.find taskId = some lease → lease.ownerToken ≠ token) :
    (∀ seconds current, heartbeat ⟨seconds, taskId, token, current⟩ leases =
      .error (.runtimeError ("Task " ++ taskId ++ " orchestrator lease was lost."))) ∧
    release taskId token leases = (false, leases) := by
  have unheld : ∀ lease ∈ leases.rows, held taskId token lease = false := by
    intro lease member
    by_contra matching
    simp only [held, Bool.not_eq_false, Bool.and_eq_true, beq_iff_eq] at matching
    exact other lease (find_eq_some_iff.mpr ⟨member, matching.1⟩) matching.2
  refine ⟨fun seconds current => ?_, ?_⟩
  · unfold heartbeat
    rw [if_neg]
    intro found
    obtain ⟨lease, member, mine⟩ := List.any_eq_true.mp found
    have no := unheld lease member
    simp only [live, Bool.and_eq_true] at mine
    simp [held, mine.1] at no
  · have absent : leases.rows.any (held taskId token) = false := by
      simpa using unheld
    have all : (leases.deleteWhere (held taskId token)).rows = leases.rows :=
      List.filter_eq_self.mpr fun lease member => by simp [unheld lease member]
    unfold release
    rw [absent, eq_of_rows all]

end

namespace TaskLeases
variable {s t : TaskLeases} {r : LeaseRequest} {leases : Table TaskRunLease} {underWay : List LeaseCall}

/-- The lease of a task is that of the latest to acquire it, and no token was acquired twice. -/
structure Inv (s : TaskLeases) : Prop where
  distinct : (s.acquired.map Prod.snd).Nodup
  drawn : ∀ entry ∈ s.acquired, entry.2 ∈ s.drawn
  holder : ∀ lease ∈ s.leases.rows, Holder s.acquired lease.taskId lease.ownerToken

/-- What a call under way may rely on: its token is new, its reading of the clock is past. -/
structure Own (s : TaskLeases) (call : LeaseCall) : Prop where
  token : ∀ token, call.token = some token → token ∈ s.drawn ∧ token ∉ s.acquired.map Prod.snd
  reading : ∀ r, call = .acquire r ∨ call = .insert r → r.current ≤ s.now

def Apart (c d : LeaseCall) : Prop := ∀ token, c.token = some token → d.token ≠ some token

theorem Inv.acquires (inv : Inv s) (mine : r.ownerToken ∈ s.drawn ∧ r.ownerToken ∉ s.acquired.map Prod.snd)
    (rows : ∀ row ∈ leases.rows, (row.taskId = r.taskId ∧ row.ownerToken = r.ownerToken) ∨
      (row ∈ s.leases.rows ∧ row.taskId ≠ r.taskId)) : Inv (s.acquires r leases) where
  distinct := by
    simp only [TaskLeases.acquires, List.map_append, List.map_cons, List.map_nil]
    exact List.nodup_append.mpr ⟨inv.distinct, by simp, fun a inOld b isNew => by
      rw [List.mem_singleton.mp isNew]
      exact fun same => mine.2 (same ▸ inOld)⟩
  drawn := by
    intro entry member
    rcases List.mem_append.mp member with old | newest
    · exact inv.drawn entry old
    · cases List.mem_singleton.mp newest
      exact mine.1
  holder := by
    intro row member
    rcases rows row member with ⟨task, token⟩ | ⟨old, other⟩
    · rw [task, token]
      exact Holder.append_self
    · exact (inv.holder row old).append_other other.symm

theorem Own.acquires {call : LeaseCall} (own : Own s call) (apart : call.token ≠ some r.ownerToken) :
    Own (s.acquires r leases) call where
  token := by
    intro token drew
    obtain ⟨drawn, unused⟩ := own.token token drew
    refine ⟨drawn, fun member => ?_⟩
    simp only [TaskLeases.acquires, List.map_append, List.mem_append, List.map_cons, List.map_nil,
      List.mem_singleton] at member
    rcases member with old | rfl
    · exact unused old
    · exact apart drew
  reading := own.reading

theorem Own.later {call : LeaseCall} {now : Nat} {drawn : List String} (own : Own s call) (later : s.now ≤ now)
    (more : ∀ token ∈ s.drawn, token ∈ drawn) : Own { s with now := now, drawn := drawn } call where
  token token drew := ⟨more _ (own.token token drew).1, (own.token token drew).2⟩
  reading r isCall := (own.reading r isCall).trans later

theorem undisturbed : Undisturbed calls Inv Own Apart where
  symm apart token drew other := apart token other drew
  begins := by
    intro s t call inv enters
    cases enters with
    | acquire r positive later new =>
      have unused : r.ownerToken ∉ s.acquired.map Prod.snd := by
        intro member
        obtain ⟨entry, inLog, same⟩ := List.mem_map.mp member
        exact new (same ▸ inv.drawn entry inLog)
      refine ⟨⟨inv.distinct, fun entry member => List.mem_cons_of_mem _ (inv.drawn entry member), inv.holder⟩,
        ⟨?_, ?_⟩, fun other own => ⟨own.later later fun token member => List.mem_cons_of_mem _ member, ?_⟩⟩
      · intro token drew
        cases drew
        exact ⟨List.mem_cons_self, unused⟩
      · rintro other (same | same) <;> cases same
        exact le_rfl
      · intro token drew same
        cases same
        exact new (own.token _ drew).1
    | heartbeat r positive later =>
      refine ⟨⟨inv.distinct, inv.drawn, inv.holder⟩, ⟨?_, ?_⟩, fun other own => ⟨own.later later fun _ => id, ?_⟩⟩
      · intro token drew
        cases drew
      · rintro other (same | same) <;> cases same
      · intro token drew same
        cases same
    | release taskId token =>
      refine ⟨inv, ⟨?_, ?_⟩, fun other own => ⟨own, ?_⟩⟩
      · intro token drew
        cases drew
      · rintro other (same | same) <;> cases same
      · intro token drew same
        cases same
  statement := by
    intro s call inv own
    cases call with
    | acquire r =>
      cases taken : takeOver r s.leases with
      | none =>
        simp only [calls, statement, taken]
        refine ⟨inv, fun rest same => ?_, fun other others _ => others⟩
        cases same
        exact ⟨⟨own.token, fun other isCall => by
          rcases isCall with same | same <;> cases same
          exact own.reading r (.inl rfl)⟩, fun other apart => apart⟩
      | some leases =>
        simp only [calls, statement, taken]
        refine ⟨inv.acquires (own.token _ rfl) fun row => takeOver_row taken, fun rest same => (by cases same),
          fun other others apart => others.acquires (apart _ rfl)⟩
    | insert r =>
      cases inserted : insertLease r s.leases with
      | error e =>
        simp only [calls, statement, inserted]
        exact ⟨inv, fun rest same => (by cases same), fun other others _ => others⟩
      | ok leases =>
        simp only [calls, statement, inserted]
        exact ⟨inv.acquires (own.token _ rfl) fun row => insertLease_row inserted, fun rest same => (by cases same),
          fun other others apart => others.acquires (apart _ rfl)⟩
    | heartbeat r =>
      cases extended : heartbeat r s.leases with
      | error e =>
        simp only [calls, statement, extended]
        exact ⟨inv, fun rest same => (by cases same), fun other others _ => others⟩
      | ok leases =>
        simp only [calls, statement, extended]
        refine ⟨⟨inv.distinct, inv.drawn, fun row member => ?_⟩, fun rest same => (by cases same),
          fun other others _ => ⟨others.token, others.reading⟩⟩
        obtain ⟨lease, inOld, task, token⟩ := heartbeat_row extended member
        rw [task, token]
        exact inv.holder lease inOld
    | release taskId token =>
      refine ⟨⟨inv.distinct, inv.drawn, fun row member => ?_⟩, fun rest same => (by cases same),
        fun other others _ => ⟨others.token, others.reading⟩⟩
      exact inv.holder row (List.mem_of_mem_filter member)
  around := by
    rintro s t inv ⟨now, later, rfl⟩
    exact ⟨⟨inv.distinct, inv.drawn, inv.holder⟩, fun other own => own.later later fun _ => id⟩

theorem initial_inv (now : Nat) : Inv (initial now) where
  distinct := List.nodup_nil
  drawn _ member := absurd member List.not_mem_nil
  holder _ member := absurd member List.not_mem_nil

end TaskLeases

open TaskLeases

/-- However the calls of any number of orchestrators interleave: at most one
token of a task can be extended, `acquire` succeeds only if no lease of the
task is unexpired, and a token after which the task was acquired again can
neither extend nor delete a lease. -/
theorem task_lease_exclusive {start : Nat} {s : TaskLeases} {underWay : List LeaseCall}
    (path : Interleaving TaskLeases.calls (initial start) s underWay) :
    (∀ r r' : LeaseRequest, r.taskId = r'.taskId → (∃ next, heartbeat r s.leases = .ok next) →
      (∃ next, heartbeat r' s.leases = .ok next) → r.ownerToken = r'.ownerToken) ∧
    (∀ call ∈ underWay, call.Acquires s.leases →
      ∀ lease, s.leases.find call.taskId = some lease → lease.expiresAt ≤ s.now) ∧
    ∀ taskId old new, [(taskId, old), (taskId, new)].Sublist s.acquired →
      (∀ seconds current, heartbeat ⟨seconds, taskId, old, current⟩ s.leases =
        .error (.runtimeError ("Task " ++ taskId ++ " orchestrator lease was lost."))) ∧
      release taskId old s.leases = (false, s.leases) := by
  have asserted := path.asserted undisturbed (initial_inv start)
  refine ⟨?_, ?_, ?_⟩
  · rintro r r' sameTask ⟨next, extended⟩ ⟨next', extended'⟩
    obtain ⟨lease, atTask, token, -⟩ := heartbeat_ok extended
    obtain ⟨lease', atTask', token', -⟩ := heartbeat_ok extended'
    rw [sameTask, atTask'] at atTask
    cases atTask
    exact token.symm.trans token'
  · intro call member acquires lease atTask
    have own := asserted.own call member
    cases call with
    | acquire r =>
      obtain ⟨next, taken⟩ := acquires
      obtain ⟨stale, here, late⟩ := takeOver_expired taken
      cases Option.some.inj (here.symm.trans atTask)
      exact late.trans (own.reading r (.inl rfl))
    | insert r =>
      obtain ⟨next, inserted⟩ := acquires
      have absent := (insertLease_ok inserted).1
      have impossible := absent.symm.trans atTask
      cases impossible
    | heartbeat r => exact acquires.elim
    | release taskId token => exact acquires.elim
  · intro taskId old new followed
    refine refused fun lease atTask same => ?_
    have holder := asserted.inv.holder lease (Table.find_mem atTask)
    have key : lease.taskId = taskId := Table.find_key atTask
    rw [key] at holder
    exact holder.ne_of_followed asserted.inv.distinct followed same

namespace LeaseSample

def first : LeaseRequest := ⟨1, "task", "first", 0⟩

def second : LeaseRequest := ⟨1, "task", "second", 1000000⟩

def entered : TaskLeases := ⟨.empty, 0, ["first"], []⟩

def leased : TaskLeases := (statement entered (.insert first)).1

def late : TaskLeases := { leased with now := 1000000, drawn := ["second", "first"] }

def takenOver : TaskLeases := (statement late (.acquire second)).1

theorem handedOver : Interleaving TaskLeases.calls (initial 0) takenOver [] := by
  have acquiring : Interleaving TaskLeases.calls (initial 0) entered ([] ++ [.acquire first]) :=
    .begins .start (.acquire first (by decide) (by decide) List.not_mem_nil)
  have inserting : Interleaving TaskLeases.calls (initial 0) entered ([] ++ [.insert first]) := .statement acquiring
  have held : Interleaving TaskLeases.calls (initial 0) leased [] := .statement inserting
  have waiting : Interleaving TaskLeases.calls (initial 0) late ([] ++ [.acquire second]) :=
    .begins held (.acquire second (by decide) (by decide) (by decide))
  exact .statement waiting

end LeaseSample

open LeaseSample in
/-- After the second orchestrator took the lease over, the first can no longer extend or delete it. -/
theorem task_lease_exclusive_sample :
    (∀ seconds current, heartbeat ⟨seconds, "task", "first", current⟩ takenOver.leases =
      .error (.runtimeError ("Task " ++ "task" ++ " orchestrator lease was lost."))) ∧
    release "task" "first" takenOver.leases = (false, takenOver.leases) ∧
    ∃ next, heartbeat ⟨1, "task", "second", 1500000⟩ takenOver.leases = .ok next := by
  obtain ⟨lost, kept⟩ := (task_lease_exclusive handedOver).2.2 "task" "first" "second" (List.Sublist.refl _)
  exact ⟨lost, kept, _, rfl⟩

end SacmRuntime
