import Mathlib.Order.Lattice.Nat
import SacmRuntime.Governance.MemoryIsolation

namespace SacmRuntime
open Session MemoryService Table Tx

/-- A call of `add`, and what the environment hands to it. -/
structure MemoryAddition where
  auth : Option AuthContext
  p : MemoryAdd
  supply : Supply

namespace MemoryAddition

def run (env : MemoryEnv) (call : MemoryAddition) (d : MemoryDb) : Except Error MemoryChunk × MemoryDb :=
  request (add env call.auth call.p) d call.supply

/-- The session in which the call, once authorized, looks for a duplicate. -/
def looking (env : MemoryEnv) (call : MemoryAddition) (d : MemoryDb) : Session MemoryDb :=
  (authorize env call.auth call.p.taskId call.p.actorId "tasks.write" (start d call.supply)).2

def Timely (call : MemoryAddition) (start finish : Nat) : Prop :=
  ∀ n, start ≤ call.supply.clock n ∧ call.supply.clock n ≤ finish

def Files (env : MemoryEnv) (call : MemoryAddition) (d : MemoryDb) (key : String) : Prop :=
  ∃ task, env.resources.shared.tasks.find call.p.taskId = some task ∧
    scopeKey task (ResourceAuthorizationService.taskContext env.resources d.governance task) call.p.kind = .ok key

/-- A chunk in force that has the scope, the key and the content of the call. -/
structure Duplicate (env : MemoryEnv) (call : MemoryAddition) (d : MemoryDb) (row : MemoryChunk) : Prop where
  member : row ∈ d.chunks.rows
  kind : row.kind = call.p.kind
  key : call.Files env d row.scopeKey
  hash : row.contentHash = env.sha256 (normalized call.p.content)
  valid : row.valid ((call.looking env d).clock 0) = true

structure Fresh (env : MemoryEnv) (call : MemoryAddition) (key : String) (chunk : MemoryChunk) : Prop where
  kind : chunk.kind = call.p.kind
  key : chunk.scopeKey = key
  hash : chunk.contentHash = env.sha256 (normalized call.p.content)
  importance : chunk.importance = call.p.importance
  confidence : chunk.confidence = call.p.confidence
  validUntil : chunk.validUntil = call.p.validUntil
  inForce : chunk.supersededAt = none

/-- The chunk that the call names, if it names one, is marked as superseded. -/
def Supersedes (p : MemoryAdd) (before after : Table MemoryChunk) : Prop :=
  (present p.supersedesId = none ∧ after = before) ∨
    ∃ id previous instant, present p.supersedesId = some id ∧ before.find id = some previous ∧
      after = before.update id fun row => { row with supersededAt := some instant }

/-- How a call ends: it raises, it is merged into a duplicate, or it files a
new chunk, there being no duplicate. -/
inductive Outcome (env : MemoryEnv) (call : MemoryAddition) (d : MemoryDb) :
    Except Error MemoryChunk → Table MemoryChunk → Prop
  | raised (e : Error) : Outcome env call d (.error e) d.chunks
  | merged (chunk : MemoryChunk) (found : call.Duplicate env d chunk) :
      Outcome env call d (.ok (chunk.reinforce call.p)) (d.chunks.update chunk.id (MemoryChunk.reinforce call.p))
  | created (chunk : MemoryChunk) (key : String) (chunks after : Table MemoryChunk) (files : call.Files env d key)
      (alone : ∀ row, ¬call.Duplicate env d row) (fresh : call.Fresh env key chunk)
      (superseded : Supersedes call.p d.chunks chunks) (inserted : chunks.insert? chunk = some after) :
      Outcome env call d (.ok chunk) after

end MemoryAddition

section Clocks
variable {ε δ α β : Type} {s : Session δ}

/-- All that the method does with the clock is to read it. -/
def KeepsClock (m : Tx (Session δ) ε α) : Prop := ∀ s, ∃ k, ∀ n, (m s).2.clock n = s.clock (n + k)

theorem keepsClock_bind {m : Tx (Session δ) ε α} {f : α → Tx (Session δ) ε β} (first : KeepsClock m)
    (rest : ∀ a, KeepsClock (f a)) : KeepsClock (m >>= f) := by
  intro s
  obtain ⟨k, read⟩ := first s
  rw [bind_run]
  rcases ran : m s with ⟨result, t⟩
  rw [ran] at read
  cases result with
  | error e => exact ⟨k, read⟩
  | ok a =>
    obtain ⟨l, later⟩ := rest a t
    refine ⟨l + k, fun n => ?_⟩
    exact (later n).trans ((read (n + l)).trans (by rw [Nat.add_assoc]))

theorem keepsClock_same {m : Tx (Session δ) ε α} (same : ∀ s, (m s).2.clock = s.clock) : KeepsClock m :=
  fun s => ⟨0, fun n => congrFun (same s) n⟩

theorem keepsClock_expect {e : ε} {o : Option α} : KeepsClock (expect e o : Tx (Session δ) ε α) :=
  keepsClock_same fun s => by cases o <;> rfl

theorem keepsClock_utcnow : KeepsClock (utcnow : Tx (Session δ) ε Nat) := fun _ => ⟨1, fun _ => rfl⟩

theorem keepsClock_view {g : δ → α} : KeepsClock (view g : Tx (Session δ) ε α) := keepsClock_same fun _ => rfl

end Clocks

section Authorization
variable {env : GovernanceEnv} {auth : Option AuthContext} {organizationId actorId permission resourceType : String}
  {projectId resourceId : Option String}

theorem record_clock {entry : AuditEntry} : KeepsClock (TenantAuditService.record env auth entry) := by
  unfold TenantAuditService.record SIEMService.markPending
  refine keepsClock_bind keepsClock_view fun found => keepsClock_bind keepsClock_expect fun organization => ?_
  refine keepsClock_bind keepsClock_view fun project => keepsClock_bind keepsClock_view fun previous => ?_
  refine keepsClock_bind keepsClock_utcnow fun createdAt => keepsClock_bind (keepsClock_same fun _ => rfl) fun id => ?_
  refine keepsClock_bind (keepsClock_same fun _ => rfl) fun _ => keepsClock_bind (keepsClock_same fun _ => rfl)
    fun _ => ?_
  refine keepsClock_bind (keepsClock_bind keepsClock_view fun changed => ?_) fun _ => keepsClock_same fun _ => rfl
  split <;> exact keepsClock_same fun _ => rfl

theorem requirePermission_clock : KeepsClock (TenancyService.requirePermission env auth organizationId actorId
    permission projectId resourceType resourceId) := by
  unfold TenancyService.requirePermission
  refine keepsClock_bind ?_ fun found => keepsClock_bind record_clock fun _ => ?_
  · intro s
    obtain ⟨found, looked⟩ := principal_run organizationId actorId s
    rw [looked]
    exact ⟨_, fun _ => rfl⟩
  · split <;> exact keepsClock_same fun _ => rfl

theorem requireTask_clock {resources : Resources} {taskId : String} : KeepsClock
    (ResourceAuthorizationService.requireTask env auth resources taskId actorId permission) := by
  unfold ResourceAuthorizationService.requireTask
  refine keepsClock_bind keepsClock_expect fun task => keepsClock_bind keepsClock_view fun context => ?_
  split
  · split <;> exact keepsClock_same fun _ => rfl
  · exact keepsClock_bind requirePermission_clock fun _ => keepsClock_same fun _ => rfl

end Authorization

namespace MemoryAddition
variable {env : MemoryEnv} {call : MemoryAddition} {d : MemoryDb}

theorem looking_timely {start finish : Nat} (timely : call.Timely start finish) (n : Nat) :
    start ≤ (call.looking env d).clock n ∧ (call.looking env d).clock n ≤ finish := by
  have kept : KeepsClock (authorize env call.auth call.p.taskId call.p.actorId "tasks.write") := by
    unfold authorize
    split
    · refine keepsClock_bind (fun s => ?_) fun _ => keepsClock_same fun _ => rfl
      exact requireTask_clock ⟨s.committed.governance, s.flushed.governance, s.working.governance, s.clock, s.uuids,
        s.tokens⟩
    · split <;> exact keepsClock_same fun _ => rfl
  obtain ⟨k, read⟩ := kept (Session.start d call.supply)
  have here : (call.looking env d).clock n = call.supply.clock (n + k) := read n
  rw [here]
  exact timely (n + k)

theorem Files.unique {key other : String} (first : call.Files env d key) (second : call.Files env d other) :
    key = other := by
  obtain ⟨task, found, keyed⟩ := first
  obtain ⟨task', found', keyed'⟩ := second
  have same := Option.some.inj (found.symm.trans found')
  subst same
  exact Except.ok.inj (keyed.symm.trans keyed')

/-- What the store holds of the memory after a call is as the outcome says. -/
def Ends (env : MemoryEnv) (call : MemoryAddition) (d : MemoryDb)
    (outcome : Except Error MemoryChunk × Session MemoryDb) : Prop :=
  call.Outcome env d outcome.1 outcome.2.committed.chunks

theorem store_ends {key : String} {chunk : MemoryChunk} {s : Session MemoryDb} (files : call.Files env d key)
    (alone : ∀ row, ¬call.Duplicate env d row) (fresh : call.Fresh env key chunk) (kept : s.committed.chunks = d.chunks)
    (held : s.working.chunks = d.chunks) : call.Ends env d (store call.p key chunk s) := by
  have raised : ∀ (e : Error) (t : Session MemoryDb), t.committed.chunks = d.chunks →
      call.Ends env d (.error e, t) := by
    intro e t same
    unfold Ends
    rw [same]
    exact .raised e
  have filed : ∀ t : Session MemoryDb, t.committed.chunks = d.chunks → Supersedes call.p d.chunks t.working.chunks →
      call.Ends env d ((do
        let inserted ← view fun d => d.chunks.insert? chunk
        let chunks ← expect (Error.integrityError "memory_chunks.id") inserted
        modify fun d => { d with chunks := chunks }
        commit
        return chunk : MemoryMethod MemoryChunk) t) := by
    intro t same superseded
    refine outcome_read (outcome_expect (raised _ _ same) fun after inserted => ?_)
    exact .created chunk key t.working.chunks after files alone fresh superseded inserted
  unfold store
  cases named : present call.p.supersedesId with
  | none => exact filed s kept (Or.inl ⟨named, held⟩)
  | some id =>
    refine outcome_read (outcome_expect (raised _ _ kept) fun previous found => ?_)
    refine outcome_ite (fun _ => raised _ _ kept) fun _ => ?_
    refine filed _ kept (Or.inr ⟨id, previous, s.clock 0, named, ?_, ?_⟩)
    · exact held ▸ found
    · change s.working.chunks.update id _ = _
      rw [held]

theorem run_outcome (env : MemoryEnv) (call : MemoryAddition) (d : MemoryDb) :
    call.Outcome env d (call.run env d).1 (call.run env d).2.chunks := by
  change call.Ends env d (add env call.auth call.p (start d call.supply))
  have checked : Everywhere (fun e => e.governance.projects = d.governance.projects ∧ e.chunks = d.chunks)
      (call.looking env d) := authorize_keeps (Q := fun chunks => chunks = d.chunks) (start_everywhere _ ⟨rfl, rfl⟩)
  have raised : ∀ (e : Error) (t : Session MemoryDb), t.committed.chunks = d.chunks →
      call.Ends env d (.error e, t) := by
    intro e t same
    unfold Ends
    rw [same]
    exact .raised e
  unfold add
  refine outcome_bind (fun e t ran => ?_) fun found t ran => ?_
  · have here : call.looking env d = t := congrArg Prod.snd ran
    exact raised e t (here ▸ checked.committed.2)
  have here : call.looking env d = t := congrArg Prod.snd ran
  have kept : t.committed.chunks = d.chunks := here ▸ checked.committed.2
  have held : t.working.chunks = d.chunks := here ▸ checked.working.2
  refine outcome_expect (raised _ _ kept) fun task named => ?_
  subst named
  have atTask := authorize_ok ran
  refine outcome_read (outcome_ite (fun _ => raised _ _ kept) fun _ => ?_)
  refine outcome_ofExcept (fun e => raised _ _ kept) fun key keyed => ?_
  refine outcome_ite (fun _ => raised _ _ kept) fun _ => ?_
  have files : call.Files env d key := by
    refine ⟨task, atTask, ?_⟩
    have projects : t.working.governance.projects = d.governance.projects := here ▸ checked.working.1
    rw [← taskContext_congr projects]
    exact keyed
  rw [bind_utcnow, bind_view]
  have matching : ∀ row, row ∈ (t.working.chunks.rows.filter fun chunk =>
      chunk.kind == call.p.kind && chunk.scopeKey == key && chunk.contentHash == env.sha256
        (normalized call.p.content) &&
        MemoryChunk.valid (t.clock 0) chunk) ↔ call.Duplicate env d row := by
    intro row
    rw [List.mem_filter]
    simp only [Bool.and_eq_true, beq_iff_eq]
    constructor
    · rintro ⟨inRows, ⟨⟨kind, under⟩, hash⟩, valid⟩
      exact ⟨held ▸ inRows, kind, under ▸ files, hash, by rw [here]; exact valid⟩
    · intro duplicate
      have valid := duplicate.valid
      rw [here] at valid
      exact ⟨held.symm ▸ duplicate.member, ⟨⟨duplicate.kind, duplicate.key.unique files⟩, duplicate.hash⟩, valid⟩
  generalize found : List.getLast? _ = first
  cases first with
  | some chunk =>
    have duplicate := (matching chunk).mp (mem_orderBy.mp (List.mem_of_getLast? found))
    have merged := Outcome.merged chunk duplicate
    rw [← held] at merged
    exact merged
  | none =>
    have alone : ∀ row, ¬call.Duplicate env d row := by
      intro row duplicate
      have empty := List.getLast?_eq_none_iff.mp found
      have listed : row ∈ orderBy MemoryChunk.createdAt _ := mem_orderBy.mpr ((matching row).mpr duplicate)
      rw [empty] at listed
      cases listed
    exact store_ends files alone ⟨rfl, rfl, rfl, rfl, rfl, rfl, rfl⟩ kept held

end MemoryAddition

/-- How long a chunk is in force; without a bound always. -/
def validity (validUntil : Option Nat) : WithTop Nat := validUntil.elim ⊤ fun instant => (instant : WithTop Nat)

/-- The calls that were merged into the chunk of an identifier, by the list of
all calls with the identifiers that they returned. -/
def mergedInto (id : String) (calls : List (MemoryAdd × String)) : List MemoryAdd :=
  (calls.filter fun call => call.2 = id).map Prod.fst

/-- The chunk is the join of the calls, whatever their order. -/
structure Joined (calls : List MemoryAdd) (row : MemoryChunk) : Prop where
  importance : IsGreatest {x | ∃ p ∈ calls, p.importance = x} row.importance
  confidence : IsGreatest {x | ∃ p ∈ calls, p.confidence = x} row.confidence
  validity : IsGreatest {x | ∃ p ∈ calls, validity p.validUntil = x} (validity row.validUntil)

def SameMemory (a b : MemoryChunk) : Prop := a.kind = b.kind ∧ a.scopeKey = b.scopeKey ∧ a.contentHash = b.contentHash

structure MemoryJoined (calls : List (MemoryAdd × String)) (d : MemoryDb) (now : Nat) : Prop where
  alone : ∀ t ≥ now, ∀ a ∈ d.chunks.rows, ∀ b ∈ d.chunks.rows, a.valid t = true → b.valid t = true →
    SameMemory a b → a = b
  joined : ∀ row ∈ d.chunks.rows, Joined (mergedInto row.id calls) row
  stored : ∀ call ∈ calls, (d.chunks.find call.2).isSome

/-- Where the call finds a duplicate, both are limited or both are not, and the
chunk that it names is the duplicate or superseded already. -/
def MemoryAddition.Agrees (env : MemoryEnv) (call : MemoryAddition) (d : MemoryDb) : Prop :=
  ∀ row, call.Duplicate env d row → call.p.validUntil.isSome = row.validUntil.isSome ∧
    ∀ id other, present call.p.supersedesId = some id → id ≠ row.id → d.chunks.find id = some other →
      other.supersededAt.isSome

/-- Calls one after another on an empty memory, each meeting the condition, the
clock not running back: the calls that returned, with the identifiers of the
chunks, the newest first; the store; the latest reading of the clock. -/
inductive AdditionRun (env : MemoryEnv) (meets : MemoryAddition → MemoryDb → Prop) :
    List (MemoryAdd × String) → MemoryDb → Nat → Prop
  | start (governance : GovernanceDb) (now : Nat) : AdditionRun env meets [] ⟨governance, .empty⟩ now
  | returned {calls d now finish chunk} (before : AdditionRun env meets calls d now) (call : MemoryAddition)
      (timely : call.Timely now finish) (met : meets call d) (ok : (call.run env d).1 = .ok chunk) :
      AdditionRun env meets ((call.p, chunk.id) :: calls) (call.run env d).2 finish
  | raised {calls d now finish e} (before : AdditionRun env meets calls d now) (call : MemoryAddition)
      (timely : call.Timely now finish) (met : meets call d) (failed : (call.run env d).1 = .error e) :
      AdditionRun env meets calls (call.run env d).2 finish

/-- The call superseded the chunk that it names, unless it returned it. -/
def MemoryAddition.Effective (env : MemoryEnv) (call : MemoryAddition) (d : MemoryDb) : Prop :=
  ∀ chunk id other, (call.run env d).1 = .ok chunk → present call.p.supersedesId = some id → id ≠ chunk.id →
    (call.run env d).2.chunks.find id = some other → other.supersededAt.isSome

section Merging
variable {env : MemoryEnv} {call : MemoryAddition} {d : MemoryDb} {calls : List (MemoryAdd × String)} {p : MemoryAdd}
  {row a b : MemoryChunk} {now finish : Nat}

theorem valid_antitone {t u : Nat} (later : t ≤ u) (valid : row.valid u = true) : row.valid t = true := by
  unfold MemoryChunk.valid at valid ⊢
  rw [Bool.and_eq_true] at valid ⊢
  refine ⟨valid.1, ?_⟩
  cases bound : row.validUntil with
  | none => rfl
  | some instant =>
    have held := valid.2
    rw [bound] at held
    simp only [Option.all_some, decide_eq_true_eq] at held ⊢
    omega

theorem isGreatest_cons {α : Type} [LinearOrder α] (f : MemoryAdd → α) {earlier : List MemoryAdd} {x : α}
    (greatest : IsGreatest {x | ∃ p ∈ earlier, f p = x} x) :
    IsGreatest {x | ∃ q ∈ p :: earlier, f q = x} (max x (f p)) := by
  obtain ⟨⟨found, member, same⟩, above⟩ := greatest
  constructor
  · rcases le_total x (f p) with smaller | larger
    · exact ⟨p, List.mem_cons_self, (max_eq_right smaller).symm⟩
    · exact ⟨found, List.mem_cons_of_mem _ member, same.trans (max_eq_left larger).symm⟩
  · rintro y ⟨q, inCalls, rfl⟩
    rcases List.mem_cons.mp inCalls with rfl | earlier
    · exact le_max_right _ _
    · exact (above ⟨q, earlier, rfl⟩).trans (le_max_left _ _)

theorem isGreatest_single {α : Type} [LinearOrder α] (f : MemoryAdd → α) :
    IsGreatest {x | ∃ q ∈ [p], f q = x} (f p) := by
  refine ⟨⟨p, List.mem_singleton.mpr rfl, rfl⟩, ?_⟩
  rintro y ⟨q, member, rfl⟩
  rw [List.mem_singleton.mp member]

theorem validity_reinforce (agree : p.validUntil.isSome = row.validUntil.isSome) :
    validity (row.reinforce p).validUntil = max (validity row.validUntil) (validity p.validUntil) := by
  unfold MemoryChunk.reinforce
  cases later : p.validUntil with
  | none =>
    rw [later] at agree
    cases known : row.validUntil with
    | none => exact (max_self _).symm
    | some instant =>
      rw [known] at agree
      cases agree
  | some instant =>
    rw [later] at agree
    cases known : row.validUntil with
    | none =>
      rw [known] at agree
      cases agree
    | some bound =>
      by_cases larger : bound < instant
      · simp only [if_pos larger, validity, Option.elim]
        exact (max_eq_right (WithTop.coe_le_coe.mpr (Nat.le_of_lt larger))).symm
      · simp only [if_neg larger, validity, Option.elim]
        exact (max_eq_left (WithTop.coe_le_coe.mpr (Nat.le_of_not_lt larger))).symm

theorem Joined.reinforce {earlier : List MemoryAdd} (joined : Joined earlier row)
    (agree : p.validUntil.isSome = row.validUntil.isSome) : Joined (p :: earlier) (row.reinforce p) where
  importance := isGreatest_cons MemoryAdd.importance joined.importance
  confidence := isGreatest_cons MemoryAdd.confidence joined.confidence
  validity := by
    rw [validity_reinforce agree]
    exact isGreatest_cons (fun q => SacmRuntime.validity q.validUntil) joined.validity

theorem mergedInto_self {id : String} : mergedInto id ((p, id) :: calls) = p :: mergedInto id calls := by
  unfold mergedInto
  rw [List.filter_cons_of_pos (by simp), List.map_cons]

theorem mergedInto_other {id other : String} (different : other ≠ id) :
    mergedInto id ((p, other) :: calls) = mergedInto id calls := by
  unfold mergedInto
  rw [List.filter_cons_of_neg (by simpa using different)]

structure Version (old row : MemoryChunk) : Prop where
  id : row.id = old.id
  same : SameMemory row old
  importance : row.importance = old.importance
  confidence : row.confidence = old.confidence
  validUntil : row.validUntil = old.validUntil
  valid : ∀ t, row.valid t = true → old.valid t = true

theorem Version.refl (row : MemoryChunk) :
    Version row row := ⟨rfl, ⟨rfl, rfl, rfl⟩, rfl, rfl, rfl, fun _ valid => valid⟩

theorem Joined.version {earlier : List MemoryAdd} {old : MemoryChunk} (joined : Joined earlier old)
    (version : Version old row) : Joined earlier row where
  importance := version.importance ▸ joined.importance
  confidence := version.confidence ▸ joined.confidence
  validity := version.validUntil ▸ joined.validity

theorem supersedes_version {before after : Table MemoryChunk} (superseded : MemoryAddition.Supersedes p before after)
    (member : row ∈ after.rows) : ∃ old ∈ before.rows, Version old row := by
  rcases superseded with ⟨_, rfl⟩ | ⟨id, previous, instant, _, found, rfl⟩
  · exact ⟨row, member, .refl row⟩
  · rcases mem_update_iff.mp member with ⟨old, _⟩ | ⟨old, found', rfl⟩
    · exact ⟨row, old, .refl row⟩
    · rw [rewriteRow_of_keeps rfl]
      have gone : ∀ t, MemoryChunk.valid t { old with supersededAt := some instant } = true → old.valid t = true :=
        fun t valid => absurd valid (by simp [MemoryChunk.valid])
      exact ⟨old, find_mem found', rfl, ⟨rfl, rfl, rfl⟩, rfl, rfl, rfl, gone⟩

theorem supersedes_isSome {before after : Table MemoryChunk} {id : String}
    (superseded : MemoryAddition.Supersedes p before after) (found : (before.find id).isSome) :
    (after.find id).isSome := by
  rcases superseded with ⟨_, rfl⟩ | ⟨_, _, _, _, _, rfl⟩
  · exact found
  · rw [find_update_isSome]
    exact found

theorem MemoryJoined.later (joined : MemoryJoined calls d now) (later : now ≤ finish) {e : MemoryDb}
    (same : e.chunks = d.chunks) : MemoryJoined calls e finish where
  alone t after := same ▸ joined.alone t (later.trans after)
  joined := same ▸ joined.joined
  stored := same ▸ joined.stored

theorem MemoryJoined.merge (joined : MemoryJoined calls d now) (timely : call.Timely now finish)
    (found : call.Duplicate env d row) (agree : call.p.validUntil.isSome = row.validUntil.isSome) {e : MemoryDb}
    (chunks : e.chunks = d.chunks.update row.id (MemoryChunk.reinforce call.p)) :
    MemoryJoined ((call.p, row.id) :: calls) e finish := by
  have stored : d.chunks.find row.id = some row := find_of_mem found.member
  have kept : Keyed.key (row.reinforce call.p) = Keyed.key row := rfl
  -- a row afterwards is one of another identifier, or the duplicate itself
  have rows : ∀ other ∈ e.chunks.rows,
      (other ∈ d.chunks.rows ∧ other.id ≠ row.id) ∨ other = row.reinforce call.p := by
    intro other member
    rw [chunks] at member
    rcases mem_update_iff.mp member with elsewhere | ⟨old, atRow, rfl⟩
    · exact Or.inl elsewhere
    · have same := Option.some.inj (stored.symm.trans atRow)
      subst same
      exact Or.inr (rewriteRow_of_keeps kept)
  obtain ⟨from_, until_⟩ : now ≤ (call.looking env d).clock 0 ∧ (call.looking env d).clock 0 ≤ finish :=
    MemoryAddition.looking_timely timely 0
  have apart : ∀ t ≥ finish, ∀ other ∈ d.chunks.rows, other.id ≠ row.id → other.valid t = true →
      ¬SameMemory other row := by
    intro t after other member different valid same
    have early := valid_antitone (until_.trans after) valid
    exact different
      (congrArg MemoryChunk.id (joined.alone _ from_ other member row found.member early found.valid same))
  constructor
  · intro t after a inA b inB validA validB same
    rcases rows a inA with ⟨memberA, differentA⟩ | rfl
    · rcases rows b inB with ⟨memberB, differentB⟩ | rfl
      · exact joined.alone t (from_.trans (until_.trans after)) a memberA b memberB validA validB same
      · exact absurd same (apart t after a memberA differentA validA)
    · rcases rows b inB with ⟨memberB, differentB⟩ | rfl
      · exact absurd ⟨same.1.symm, same.2.1.symm, same.2.2.symm⟩ (apart t after b memberB differentB validB)
      · rfl
  · intro other member
    rcases rows other member with ⟨inRows, different⟩ | rfl
    · rw [mergedInto_other different.symm]
      exact joined.joined other inRows
    · have here : (row.reinforce call.p).id = row.id := rfl
      rw [here, mergedInto_self]
      exact (joined.joined row found.member).reinforce agree
  · intro earlier member
    rw [chunks, find_update_isSome]
    rcases List.mem_cons.mp member with rfl | before
    · rw [stored]
      rfl
    · exact joined.stored earlier before

theorem MemoryJoined.create (joined : MemoryJoined calls d now) (timely : call.Timely now finish) {key : String}
    {chunks after : Table MemoryChunk} (files : call.Files env d key) (alone : ∀ row, ¬call.Duplicate env d row)
    (fresh : call.Fresh env key row) (superseded : MemoryAddition.Supersedes call.p d.chunks chunks)
    (inserted : chunks.insert? row = some after) {e : MemoryDb} (same : e.chunks = after) :
    MemoryJoined ((call.p, row.id) :: calls) e finish := by
  subst same
  obtain ⟨absent, rows⟩ := insert?_eq_some inserted
  obtain ⟨from_, until_⟩ : now ≤ (call.looking env d).clock 0 ∧ (call.looking env d).clock 0 ≤ finish :=
    MemoryAddition.looking_timely timely 0
  have cases_ : ∀ other ∈ e.chunks.rows, (other ∈ chunks.rows ∧ other.id ≠ row.id) ∨ other = row := by
    intro other member
    rw [rows, List.mem_append, List.mem_singleton] at member
    refine member.imp_left fun inChunks => ⟨inChunks, fun named => ?_⟩
    have found := find_of_mem inChunks
    have named : Keyed.key other = Keyed.key row := named
    rw [named, absent] at found
    cases found
  have apart : ∀ t ≥ finish, ∀ other ∈ chunks.rows, other.valid t = true → ¬SameMemory other row := by
    intro t after other member valid same
    obtain ⟨old, inRows, version⟩ := supersedes_version superseded member
    have early := valid_antitone (until_.trans after) (version.valid t valid)
    refine alone old ⟨inRows, ?_, ?_, ?_, early⟩
    · rw [← version.same.1, same.1, fresh.kind]
    · rw [← version.same.2.1, same.2.1, fresh.key]
      exact files
    · rw [← version.same.2.2, same.2.2, fresh.hash]
  constructor
  · intro t after a inA b inB validA validB same
    rcases cases_ a inA with ⟨memberA, _⟩ | rfl
    · rcases cases_ b inB with ⟨memberB, _⟩ | rfl
      · obtain ⟨oldA, inOldA, versionA⟩ := supersedes_version superseded memberA
        obtain ⟨oldB, inOldB, versionB⟩ := supersedes_version superseded memberB
        have memory : SameMemory oldA oldB :=
          ⟨versionA.same.1.symm.trans (same.1.trans versionB.same.1),
            versionA.same.2.1.symm.trans (same.2.1.trans versionB.same.2.1),
            versionA.same.2.2.symm.trans (same.2.2.trans versionB.same.2.2)⟩
        have old := joined.alone t (from_.trans (until_.trans after)) oldA inOldA oldB inOldB
          (versionA.valid t validA) (versionB.valid t validB) memory
        have named : Keyed.key a = Keyed.key b :=
          versionA.id.trans ((congrArg MemoryChunk.id old).trans versionB.id.symm)
        exact List.inj_on_of_nodup_map chunks.distinct memberA memberB named
      · exact absurd same (apart t after a memberA validA)
    · rcases cases_ b inB with ⟨memberB, _⟩ | rfl
      · exact absurd ⟨same.1.symm, same.2.1.symm, same.2.2.symm⟩ (apart t after b memberB validB)
      · rfl
  · intro other member
    rcases cases_ other member with ⟨inChunks, different⟩ | rfl
    · obtain ⟨old, inRows, version⟩ := supersedes_version superseded inChunks
      rw [mergedInto_other different.symm, version.id]
      exact (joined.joined old inRows).version version
    · have none_ : mergedInto other.id calls = [] := by
        refine List.map_eq_nil_iff.mpr (List.filter_eq_nil_iff.mpr fun earlier member named => ?_)
        have found := supersedes_isSome superseded (joined.stored earlier member)
        rw [of_decide_eq_true named] at found
        have absent : chunks.find other.id = none := absent
        rw [absent] at found
        cases found
      rw [mergedInto_self, none_]
      refine ⟨?_, ?_, ?_⟩
      · rw [fresh.importance]
        exact isGreatest_single MemoryAdd.importance
      · rw [fresh.confidence]
        exact isGreatest_single MemoryAdd.confidence
      · rw [fresh.validUntil]
        exact isGreatest_single fun q => validity q.validUntil
  · intro earlier member
    rw [find_insert? inserted]
    split
    · rfl
    · rename_i other
      rcases List.mem_cons.mp member with rfl | before
      · exact absurd rfl other
      · exact supersedes_isSome superseded (joined.stored earlier before)

theorem AdditionRun.joined (run : AdditionRun env (fun call d => call.Agrees env d) calls d now) :
    MemoryJoined calls d now := by
  induction run with
  | start governance now =>
    refine ⟨fun t after a member => ?_, fun row member => ?_, fun call member => ?_⟩
    · cases member
    · cases member
    · cases member
  | @returned calls d now finish chunk before call timely met ok joined =>
    have outcome := call.run_outcome env d
    rw [ok] at outcome
    generalize after : (call.run env d).2 = e at outcome ⊢
    generalize held : e.chunks = chunks at outcome
    cases outcome with
    | merged row found => exact joined.merge timely found (met row found).1 held
    | created chunk key chunks after files alone fresh superseded inserted =>
      exact joined.create timely files alone fresh superseded inserted held
  | @raised calls d now finish e before call timely met failed joined =>
    have outcome := call.run_outcome env d
    rw [failed] at outcome
    generalize after : (call.run env d).2 = e at outcome ⊢
    generalize held : e.chunks = chunks at outcome
    have inOrder : now ≤ finish := (timely 0).1.trans (timely 0).2
    cases outcome with
    | raised => exact joined.later inOrder held

theorem MemoryAddition.Agrees.effective (met : call.Agrees env d) : call.Effective env d := by
  intro chunk id other ok named different found
  have outcome := call.run_outcome env d
  rw [ok] at outcome
  generalize (call.run env d).2.chunks = after at outcome found
  cases outcome with
  | merged row duplicate =>
    have different : id ≠ row.id := different
    rw [find_update_ne different] at found
    exact (met row duplicate).2 id other named different found
  | created chunk key chunks after files alone fresh superseded inserted =>
    have different : id ≠ Keyed.key chunk := different
    rw [find_insert? inserted, if_neg different] at found
    rcases superseded with ⟨unnamed, _⟩ | ⟨id', previous, instant, named', before, rfl⟩
    · rw [named] at unnamed
      cases unnamed
    · have same := Option.some.inj (named.symm.trans named')
      subst same
      rw [find_update, if_pos rfl, before] at found
      rw [← Option.some.inj found, rewriteRow_of_keeps rfl]
      rfl

/-- Memory merging is a join and superseding is effective, over all calls that
agree with the duplicates they find. -/
theorem memory_joined (run : AdditionRun env (fun call d => call.Agrees env d) calls d now) :
    MemoryJoined calls d now ∧ ∀ call : MemoryAddition, call.Agrees env d → call.Effective env d :=
  ⟨run.joined, fun _ met => met.effective⟩

end Merging

namespace GovernanceSample

/-- A convention of the repository, added for the first task at the given instant. -/
def convention (name : String) (instant : Nat) (importance : ℚ) (validUntil : Option Nat)
    (supersedesId : Option String := none) : MemoryAddition where
  auth := none
  p := { taskId := "a", content := "convention", importance := importance, kind := "repository",
         validUntil := validUntil, supersedesId := supersedesId }
  supply := ⟨fun _ => instant, fun n => name ++ toString n, fun n => name ++ toString n⟩

def emptyMemory : MemoryDb := ⟨tenant none, .empty⟩

theorem convention_timely {name : String} {instant : Nat} {importance : ℚ} {validUntil : Option Nat}
    {supersedesId : Option String} :
    (convention name instant importance validUntil supersedesId).Timely instant instant :=
  fun _ => ⟨Nat.le_refl _, Nat.le_refl _⟩

def afterFirst (first : MemoryAddition) : MemoryDb := (first.run (twoTenants "/app" "/shop") emptyMemory).2

def afterBoth (first second : MemoryAddition) : MemoryDb :=
  (second.run (twoTenants "/app" "/shop") (afterFirst first)).2

theorem convention_twice (meets : MemoryAddition → MemoryDb → Prop) (first second : MemoryAddition)
    (timely : first.Timely 1 1) (later : second.Timely 1 1) (met : meets first emptyMemory)
    (met' : meets second (afterFirst first))
    (returned : (first.run (twoTenants "/app" "/shop") emptyMemory).1.toOption.map MemoryChunk.id = some "e0")
    (returned' : (second.run (twoTenants "/app" "/shop") (afterFirst first)).1.toOption.map MemoryChunk.id =
      some "e0") :
    AdditionRun (twoTenants "/app" "/shop") meets [(second.p, "e0"), (first.p, "e0")] (afterBoth first second) 1 := by
  have ok : ∀ {r : Except Error MemoryChunk}, r.toOption.map MemoryChunk.id = some "e0" →
      ∃ chunk, r = .ok chunk ∧ chunk.id = "e0" := by
    intro r named
    cases r with
    | error e => cases named
    | ok chunk => exact ⟨chunk, rfl, Option.some.inj named⟩
  obtain ⟨chunk, ran, named⟩ := ok returned
  obtain ⟨chunk', ran', named'⟩ := ok returned'
  have empty : AdditionRun (twoTenants "/app" "/shop") meets [] emptyMemory 1 := .start (tenant none) 1
  have both := (empty.returned first timely met ran).returned second later met' ran'
  rw [named, named'] at both
  exact both

end GovernanceSample

open GovernanceSample in
/-- The convention with a bound both times. -/
theorem memory_joined_sample :
    let first := convention "e" 1 0 (some 3)
    let second := convention "f" 1 1 (some 4)
    MemoryJoined [(second.p, "e0"), (first.p, "e0")] (afterBoth first second) 1 ∧
      ∀ call : MemoryAddition, call.Agrees (twoTenants "/app" "/shop") (afterBoth first second) →
        call.Effective (twoTenants "/app" "/shop") (afterBoth first second) := by
  intro first second
  refine memory_joined (convention_twice _ first second convention_timely convention_timely ?_ ?_ ?_ ?_)
  · intro row duplicate
    cases duplicate.member
  · intro row duplicate
    have rows : (afterFirst (convention "e" 1 0 (some 3))).chunks.rows.map MemoryChunk.validUntil = [some 3] := by
      decide +kernel
    have bounded : row.validUntil ∈ _ := List.mem_map_of_mem (f := MemoryChunk.validUntil) duplicate.member
    rw [rows, List.mem_singleton] at bounded
    refine ⟨by rw [bounded]; rfl, ?_⟩
    intro id other named
    cases named
  · decide +kernel
  · decide +kernel

open GovernanceSample in
/-- An addition with a bound bounds the duplicate, which was in force for ever. -/
theorem unlimited_shortened :
    let first := convention "e" 1 0 none
    let second := convention "f" 1 1 (some 4)
    let calls := [(second.p, "e0"), (first.p, "e0")]
    AdditionRun (twoTenants "/app" "/shop") (fun _ _ => True) calls (afterBoth first second) 1 ∧
      ¬MemoryJoined calls (afterBoth first second) 1 := by
  intro first second calls
  have run := convention_twice (fun _ _ => True) first second convention_timely convention_timely trivial trivial
    (by decide +kernel) (by decide +kernel)
  refine ⟨run, fun joined => ?_⟩
  have rows : (afterBoth first second).chunks.rows.map (fun row => (row.id, row.validUntil)) = [("e0", some 4)] := by
    decide +kernel
  obtain ⟨row, rest, held, same, -⟩ := List.map_eq_cons_iff.mp rows
  have merged := (joined.joined row (by rw [held]; exact List.mem_cons_self)).validity.2
  have named : row.id = "e0" := congrArg Prod.fst same
  have bounded : row.validUntil = some 4 := congrArg Prod.snd same
  have without : (⊤ : WithTop Nat) ≤ validity row.validUntil :=
    merged ⟨first.p, by rw [named]; exact List.mem_cons_of_mem _ List.mem_cons_self, rfl⟩
  rw [bounded, top_le_iff] at without
  exact WithTop.coe_ne_top without

end SacmRuntime
