import SacmRuntime.Lib.Interleaving
import SacmRuntime.Runtime.Rows

namespace SacmRuntime
open Table

inductive HandoffStatus where
  | pending | accepted
  deriving DecidableEq

/-- `snapshot_handoffs`. -/
structure SnapshotHandoff where
  id : String
  runId : String
  manifest : Json
  status : HandoffStatus

/-- `snapshot_scope_leases`. `expires_at` is an integer: the seconds of a
lease may be negative. -/
structure SnapshotScopeLease where
  id : String
  runId : String
  scopeKey : String
  owner : String
  fencingToken : Nat
  handoffId : Option String
  expiresAt : Int
  deriving DecidableEq

instance : Keyed SnapshotHandoff := ⟨SnapshotHandoff.id⟩
instance : Keyed SnapshotScopeLease := ⟨SnapshotScopeLease.id⟩

/-- The columns of `uq_snapshot_scope_lease`. -/
def SnapshotScopeLease.scope (lease : SnapshotScopeLease) : String × String := (lease.runId, lease.scopeKey)

/-- What a call of `claim_scope` holds once its handoff has been checked and
the clock read. `leaseId` is the identifier an insertion would draw. -/
structure ScopeClaim where
  handoff : SnapshotHandoff
  scopeKey : String
  owner : String
  leaseSeconds : Int
  now : Int
  leaseId : String

namespace ScopeClaim

def scope (claim : ScopeClaim) : String × String := (claim.handoff.runId, claim.scopeKey)

def expiresAt (claim : ScopeClaim) : Int := claim.now + claim.leaseSeconds * 1000000

def newLease (claim : ScopeClaim) : SnapshotScopeLease where
  id := claim.leaseId
  runId := claim.handoff.runId
  scopeKey := claim.scopeKey
  owner := claim.owner
  fencingToken := 1
  handoffId := some claim.handoff.id
  expiresAt := claim.expiresAt

/-- The update of a lease that was read as `old`. The session writes the
columns whose values differ from those it read; the others stay as stored. -/
def overwrite (claim : ScopeClaim) (old stored : SnapshotScopeLease) : SnapshotScopeLease :=
  { stored with
    owner := if claim.owner = old.owner then stored.owner else claim.owner
    handoffId := if some claim.handoff.id = old.handoffId then stored.handoffId else some claim.handoff.id
    fencingToken := old.fencingToken + 1
    expiresAt := if claim.expiresAt = old.expiresAt then stored.expiresAt else claim.expiresAt }

end ScopeClaim

namespace SnapshotHandoffService

/-- The checks of `claim_scope` on its handoff. -/
def claimable (handoffs : Table SnapshotHandoff) (handoffId scopeKey : String) : Except Error SnapshotHandoff :=
  match handoffs.find handoffId with
  | none => .error (.valueError "Only an accepted handoff can be claimed.")
  | some handoff =>
    if handoff.status ≠ .accepted then .error (.valueError "Only an accepted handoff can be claimed.")
    else if Json.str scopeKey ∉ (handoff.manifest.get "open_subtasks").items then
      .error (.valueError "Scope is not an open subtask in this handoff.")
    else .ok handoff

def leaseOf (leases : Table SnapshotScopeLease) (scope : String × String) : Option SnapshotScopeLease :=
  leases.rows.find? fun lease => lease.scope == scope

/-- The read of `claim_scope`: the lease it will write over, unless another agent holds it. -/
def readLease (leases : Table SnapshotScopeLease) (claim : ScopeClaim) : Except Error (Option SnapshotScopeLease) :=
  match leaseOf leases claim.scope with
  | none => .ok none
  | some lease =>
    if claim.now < lease.expiresAt ∧ lease.owner ≠ claim.owner then
      .error (.valueError "Scope is leased by another agent.")
    else .ok (some lease)

/-- The write of `claim_scope` after it read `read`: the row that it returns,
and the leases. The unique constraint refuses a second lease of a scope. -/
def writeLease (leases : Table SnapshotScopeLease) (claim : ScopeClaim) (read : Option SnapshotScopeLease) :
    Except Error (SnapshotScopeLease × Table SnapshotScopeLease) :=
  match read with
  | none =>
    if (leaseOf leases claim.scope).isSome then .error (.integrityError "uq_snapshot_scope_lease")
    else match leases.insert? claim.newLease with
      | none => .error (.integrityError "snapshot_scope_leases.id")
      | some inserted => .ok (claim.newLease, inserted)
  | some old =>
    match leases.find old.id with
    | none => .error (.other "StaleDataError" "UPDATE statement on table 'snapshot_scope_leases' matched no row")
    | some stored => .ok (claim.overwrite old stored, leases.update old.id (claim.overwrite old))

/-- `validate_fencing`. -/
def validateFencing (leases : Table SnapshotScopeLease) (now : Int) (leaseId owner : String) (fencingToken : Nat) :
    Except Error SnapshotScopeLease :=
  match leases.find leaseId with
  | none => .error (.valueError "Scope lease is stale or no longer owned.")
  | some lease =>
    if lease.owner ≠ owner ∨ lease.fencingToken ≠ fencingToken ∨ lease.expiresAt ≤ now then
      .error (.valueError "Scope lease is stale or no longer owned.")
    else .ok lease

def meets (leases : Table SnapshotScopeLease) (claim : ScopeClaim) :
    Option SnapshotScopeLease → Option SnapshotScopeLease
  | none => leaseOf leases claim.scope
  | some old => leases.find old.id

end SnapshotHandoffService

open SnapshotHandoffService

/-- An observer's record of a successful claim: the lease as the claim read
it, as its write found it, the row that was returned, and the time. -/
structure ClaimedScope where
  claim : ScopeClaim
  read : Option SnapshotScopeLease
  found : Option SnapshotScopeLease
  granted : SnapshotScopeLease
  claimedAt : Int

namespace ClaimedScope

def scope (c : ClaimedScope) : String × String := c.granted.scope

def owner (c : ClaimedScope) : String := c.claim.owner

def token (c : ClaimedScope) : Nat := c.granted.fencingToken

end ClaimedScope

def latestClaim (claims : List ClaimedScope) (scope : String × String) : Option ClaimedScope :=
  (claims.filter fun c => c.scope == scope).getLast?

/-- A call of `claim_scope` under way, by the statement it executes next. -/
inductive ScopeCall where
  | read (claim : ScopeClaim)
  | write (claim : ScopeClaim) (read : Option SnapshotScopeLease)

/-- What the claimants share: the handoffs, the leases, the latest reading of
the clock, and the observer's records. -/
structure ScopeLeases where
  handoffs : Table SnapshotHandoff
  leases : Table SnapshotScopeLease
  now : Int
  claims : List ClaimedScope

namespace ScopeLeases

/-- The next statement of a call, and what is left of the call. -/
def statement (s : ScopeLeases) : ScopeCall → ScopeLeases × Option ScopeCall
  | .read claim =>
    match readLease s.leases claim with
    | .ok lease => (s, some (.write claim lease))
    | .error _ => (s, none)
  | .write claim read =>
    match writeLease s.leases claim read with
    | .ok (granted, leases) =>
      ({ s with leases := leases, claims := s.claims ++ [⟨claim, read, meets s.leases claim read, granted, s.now⟩]
        }, none)
    | .error _ => (s, none)

/-- How a call enters: it checks its handoff and reads the clock. -/
def Begins (s t : ScopeLeases) (call : ScopeCall) : Prop :=
  ∃ handoffId scopeKey owner leaseSeconds now leaseId handoff, claimable s.handoffs handoffId scopeKey = .ok handoff ∧
    s.now ≤ now ∧ t = { s with now := now } ∧ call = .read ⟨handoff, scopeKey, owner, leaseSeconds, now, leaseId⟩

def Around (s t : ScopeLeases) : Prop := ∃ handoffs now, s.now ≤ now ∧ t = { s with handoffs := handoffs, now := now }

def calls : Calls ScopeLeases ScopeCall := ⟨Begins, statement, Around⟩

def initial (handoffs : Table SnapshotHandoff) (now : Int) : ScopeLeases := ⟨handoffs, .empty, now, []⟩

def Increasing (claims : List ClaimedScope) : Prop := claims.Pairwise fun a b => a.scope = b.scope → a.token < b.token

structure Fenced (s : ScopeLeases) : Prop where
  increasing : Increasing s.claims
  exclusive : ∀ c ∈ s.claims, ∀ lease, c.found = some lease → lease.owner ≠ c.owner → lease.expiresAt ≤ c.claimedAt
  validated : ∀ leaseId owner fencingToken lease, validateFencing s.leases s.now leaseId owner fencingToken =
    .ok lease →
    ∃ c, latestClaim s.claims lease.scope = some c ∧ c.owner = owner ∧ c.token = fencingToken ∧
      s.now < c.granted.expiresAt

/-- No lease changed between the read of a claim and its write. -/
def Undivided (s : ScopeLeases) : Prop := ∀ c ∈ s.claims, c.found = c.read

end ScopeLeases

section
variable {leases next : Table SnapshotScopeLease} {claim : ScopeClaim} {lease old row granted : SnapshotScopeLease}
  {read : Option SnapshotScopeLease} {scope : String × String}

@[simp] theorem scope_overwrite (claim : ScopeClaim) (old stored : SnapshotScopeLease) :
    (claim.overwrite old stored).scope = stored.scope := rfl

@[simp] theorem token_overwrite (claim : ScopeClaim) (old stored : SnapshotScopeLease) :
    (claim.overwrite old stored).fencingToken = old.fencingToken + 1 := rfl

theorem owner_overwrite_self (claim : ScopeClaim) (old : SnapshotScopeLease) :
    (claim.overwrite old old).owner = claim.owner := by
  simp only [ScopeClaim.overwrite]
  split
  · rename_i same
    exact same.symm
  · rfl

theorem leaseOf_some (found : leaseOf leases scope = some lease) : lease ∈ leases.rows ∧ lease.scope = scope :=
  ⟨List.mem_of_find?_eq_some found, by simpa using List.find?_some found⟩

theorem leaseOf_none (absent : leaseOf leases scope = none) (member : lease ∈ leases.rows) : lease.scope ≠ scope := by
  have unmatched := List.find?_eq_none.mp absent lease member
  simpa using unmatched

theorem readLease_ok (ran : readLease leases claim = .ok (some lease)) :
    leaseOf leases claim.scope = some lease ∧ (lease.owner ≠ claim.owner → lease.expiresAt ≤ claim.now) := by
  unfold readLease at ran
  split at ran
  · cases ran
  · rename_i stored found
    split at ran
    · cases ran
    · rename_i free
      cases ran
      refine ⟨found, fun other => ?_⟩
      by_contra unexpired
      exact free ⟨not_le.mp unexpired, other⟩

theorem writeLease_insert (ran : writeLease leases claim none = .ok (granted, next)) :
    leaseOf leases claim.scope = none ∧ granted = claim.newLease ∧ leases.insert? claim.newLease = some next := by
  unfold writeLease at ran
  simp only at ran
  split at ran
  · cases ran
  · rename_i absent
    split at ran
    · cases ran
    · rename_i inserted new
      cases ran
      exact ⟨by simpa using absent, rfl, new⟩

theorem writeLease_update (ran : writeLease leases claim (some old) = .ok (granted, next)) :
    ∃ stored, leases.find old.id = some stored ∧ granted = claim.overwrite old stored ∧
      next = leases.update old.id (claim.overwrite old) := by
  unfold writeLease at ran
  simp only at ran
  split at ran
  · cases ran
  · rename_i stored found
    cases ran
    exact ⟨stored, found, rfl, rfl⟩

theorem validateFencing_ok {now : Int} {leaseId owner : String} {fencingToken : Nat}
    (ran : validateFencing leases now leaseId owner fencingToken = .ok lease) :
    lease ∈ leases.rows ∧ lease.owner = owner ∧ lease.fencingToken = fencingToken ∧ now < lease.expiresAt := by
  unfold validateFencing at ran
  split at ran
  · cases ran
  · rename_i stored found
    split at ran
    · cases ran
    · rename_i current
      cases ran
      simp only [not_or, not_not, not_le] at current
      exact ⟨find_mem found, current⟩

end

section
variable {claims : List ClaimedScope} {c : ClaimedScope} {scope : String × String}

theorem latestClaim_append_self (same : c.scope = scope) : latestClaim (claims ++ [c]) scope = some c := by
  simp [latestClaim, List.filter_append, same]

theorem latestClaim_append_other (other : c.scope ≠ scope) :
    latestClaim (claims ++ [c]) scope = latestClaim claims scope := by
  simp [latestClaim, List.filter_append, other]

theorem latestClaim_mem (latest : latestClaim claims scope = some c) : c ∈ claims ∧ c.scope = scope := by
  have member := List.mem_of_getLast? latest
  simpa using member

end

namespace ScopeLeases
variable {s t : ScopeLeases} {claim : ScopeClaim} {old granted row : SnapshotScopeLease}
  {next : Table SnapshotScopeLease}
  {call : ScopeCall}

/-- Where every lease stands while no claim was divided: it is what the
latest claim of its scope was granted. -/
structure Standing (s : ScopeLeases) : Prop where
  increasing : Increasing s.claims
  exclusive : ∀ c ∈ s.claims, ∀ lease, c.found = some lease → lease.owner ≠ c.owner → lease.expiresAt ≤ c.claimedAt
  latest : ∀ lease ∈ s.leases.rows, ∃ c, latestClaim s.claims lease.scope = some c ∧ c.owner = lease.owner ∧
    c.granted = lease
  known : ∀ c ∈ s.claims, ∃ lease ∈ s.leases.rows, lease.scope = c.scope ∧ c.token ≤ lease.fencingToken

/-- A scope has one lease, and a divided claim repeats a token. -/
structure Inv (s : ScopeLeases) : Prop where
  distinct : (s.leases.rows.map SnapshotScopeLease.scope).Nodup
  standing : s.Undivided → s.Standing
  divided : ¬s.Undivided → ¬Increasing s.claims

/-- What a call under way may rely on: the lease it read could be claimed,
is still stored, and has a larger token if it is no longer as it was read. -/
def Own (s : ScopeLeases) : ScopeCall → Prop
  | .read claim => claim.now ≤ s.now
  | .write _ none => True
  | .write claim (some old) => (old.owner ≠ claim.owner → old.expiresAt ≤ s.now) ∧
      ∃ row, s.leases.find old.id = some row ∧ row.scope = claim.scope ∧
        (s.Undivided → row = old ∨ old.fencingToken < row.fencingToken)

def claimed (s : ScopeLeases) (claim : ScopeClaim) (read : Option SnapshotScopeLease) (granted : SnapshotScopeLease)
    (leases : Table SnapshotScopeLease) : ScopeLeases :=
  { s with leases := leases, claims := s.claims ++ [⟨claim, read, meets s.leases claim read, granted, s.now⟩] }

variable {read : Option SnapshotScopeLease}

theorem undivided_claimed :
    (s.claimed claim read granted next).Undivided ↔ s.Undivided ∧ meets s.leases claim read = read := by
  simp only [Undivided, claimed, List.mem_append, List.mem_singleton, or_imp, forall_and, forall_eq]

theorem increasing_append {claims : List ClaimedScope} {c : ClaimedScope} :
    Increasing (claims ++ [c]) ↔ Increasing claims ∧ ∀ earlier ∈ claims, earlier.scope = c.scope →
      earlier.token < c.token := by
  simp [Increasing, List.pairwise_append]

theorem lease_cases (distinct : (s.leases.rows.map SnapshotScopeLease.scope).Nodup) {lease : SnapshotScopeLease}
    (stored : s.leases.find old.id = some row) (member : lease ∈ (s.leases.update old.id (claim.overwrite old)).rows) :
    lease = claim.overwrite old row ∨ (lease ∈ s.leases.rows ∧ lease.scope ≠ row.scope) := by
  rcases mem_update_iff.mp member with ⟨inOld, other⟩ | ⟨found, atId, rfl⟩
  · refine .inr ⟨inOld, fun same => other ?_⟩
    have equal := List.inj_on_of_nodup_map distinct inOld (find_mem stored) same
    rw [equal]
    exact find_key stored
  · cases atId.symm.trans stored
    exact .inl (rewriteRow_of_keeps rfl)

theorem scopes_update : ((s.leases.update old.id (claim.overwrite old)).rows.map SnapshotScopeLease.scope) =
    s.leases.rows.map SnapshotScopeLease.scope := by
  simp only [update, updateWhere, List.map_map]
  refine List.map_congr_left fun lease _ => ?_
  simp only [Function.comp_apply]
  split
  · rw [rewriteRow_of_keeps rfl, scope_overwrite]
  · rfl

theorem Inv.inserts (inv : Inv s) (absent : leaseOf s.leases claim.scope = none)
    (inserted : s.leases.insert? claim.newLease = some next) : Inv (s.claimed claim none claim.newLease next) := by
  obtain ⟨-, rows⟩ := insert?_eq_some inserted
  have others : ∀ lease ∈ s.leases.rows, lease.scope ≠ claim.scope := fun lease member => leaseOf_none absent member
  refine ⟨?_, fun undivided => ?_, fun divided increasing => ?_⟩
  · simp only [claimed, rows, List.map_append, List.map_cons, List.map_nil]
    refine List.nodup_append.mpr ⟨inv.distinct, by simp, fun a inOld b isNew => ?_⟩
    obtain ⟨lease, member, rfl⟩ := List.mem_map.mp inOld
    rw [List.mem_singleton.mp isNew]
    exact others lease member
  · have before := inv.standing (undivided_claimed.mp undivided).1
    have unclaimed : ∀ c ∈ s.claims, c.scope ≠ claim.scope := by
      intro c member same
      obtain ⟨lease, stored, ofScope, -⟩ := before.known c member
      exact others lease stored (ofScope.trans same)
    refine ⟨increasing_append.mpr ⟨before.increasing, fun c member same => absurd same (unclaimed c member)⟩,
      fun c member lease found => ?_, fun lease member => ?_, fun c member => ?_⟩
    · rcases List.mem_append.mp member with earlier | newest
      · exact before.exclusive c earlier lease found
      · cases List.mem_singleton.mp newest
        cases absent.symm.trans found
    · simp only [claimed, rows] at member ⊢
      rcases List.mem_append.mp member with stored | new
      · obtain ⟨c, latest, owner, row⟩ := before.latest lease stored
        exact ⟨c, (latestClaim_append_other fun same => others lease stored same.symm).trans latest, owner, row⟩
      · cases List.mem_singleton.mp new
        exact ⟨_, latestClaim_append_self rfl, rfl, rfl⟩
    · simp only [claimed, rows]
      rcases List.mem_append.mp member with earlier | newest
      · obtain ⟨lease, stored, same, bound⟩ := before.known c earlier
        exact ⟨lease, by simp [stored], same, bound⟩
      · cases List.mem_singleton.mp newest
        exact ⟨claim.newLease, by simp, rfl, le_rfl⟩
  · rw [undivided_claimed, not_and] at divided
    exact inv.divided (fun undivided => divided undivided absent) (increasing_append.mp increasing).1

theorem Standing.updates (standing : Standing s) (distinct : (s.leases.rows.map SnapshotScopeLease.scope).Nodup)
    (stored : s.leases.find old.id = some old) (free : old.owner ≠ claim.owner → old.expiresAt ≤ s.now) :
    Standing (s.claimed claim (some old) (claim.overwrite old old) (s.leases.update old.id (claim.overwrite old))) := by
  have inOld := find_mem stored
  have found : meets s.leases claim (some old) = some old := stored
  refine ⟨increasing_append.mpr ⟨standing.increasing, fun c member same => ?_⟩, fun c member lease at_ => ?_,
    fun lease member => ?_, fun c member => ?_⟩
  · obtain ⟨lease, atScope, ofScope, bound⟩ := standing.known c member
    cases List.inj_on_of_nodup_map distinct atScope inOld (ofScope.trans same)
    exact Nat.lt_succ_of_le bound
  · rcases List.mem_append.mp member with earlier | newest
    · exact standing.exclusive c earlier lease at_
    · cases List.mem_singleton.mp newest
      cases found.symm.trans at_
      exact free
  · simp only [claimed] at member ⊢
    rcases lease_cases distinct stored member with rfl | ⟨kept, other⟩
    · exact ⟨_, latestClaim_append_self rfl, (owner_overwrite_self claim old).symm, rfl⟩
    · obtain ⟨c, latest, owner, row⟩ := standing.latest lease kept
      exact ⟨c, (latestClaim_append_other fun same => other same.symm).trans latest, owner, row⟩
  · have rewritten : claim.overwrite old old ∈ (s.leases.update old.id (claim.overwrite old)).rows :=
      mem_update_iff.mpr (.inr ⟨old, stored, (rewriteRow_of_keeps rfl).symm⟩)
    simp only [claimed]
    rcases List.mem_append.mp member with earlier | newest
    · obtain ⟨lease, atScope, ofScope, bound⟩ := standing.known c earlier
      by_cases same : lease = old
      · subst same
        exact ⟨_, rewritten, ofScope, bound.trans (Nat.le_succ _)⟩
      · refine ⟨lease, mem_update_iff.mpr (.inl ⟨atScope, fun key => same ?_⟩), ofScope, bound⟩
        exact List.inj_on_of_nodup_map s.leases.distinct atScope inOld key
    · cases List.mem_singleton.mp newest
      exact ⟨_, rewritten, rfl, le_rfl⟩

/-- A later claim of a scope. If another claim has written since its read,
it is granted a token that was granted before. -/
theorem Inv.updates (inv : Inv s) (own : Own s (.write claim (some old))) (stored : s.leases.find old.id = some row) :
    Inv (s.claimed claim (some old) (claim.overwrite old row) (s.leases.update old.id (claim.overwrite old))) := by
  obtain ⟨free, here, atId, -, since⟩ := own
  cases atId.symm.trans stored
  have found : meets s.leases claim (some old) = some row := stored
  refine ⟨?_, fun undivided => ?_, fun divided increasing => ?_⟩
  · simp only [claimed]
    rw [scopes_update]
    exact inv.distinct
  · obtain ⟨before, same⟩ := undivided_claimed.mp undivided
    cases Option.some.inj (found.symm.trans same)
    exact (inv.standing before).updates inv.distinct stored free
  · obtain ⟨before, last⟩ := increasing_append.mp increasing
    by_cases undivided : s.Undivided
    · rw [undivided_claimed, found] at divided
      have moved := (since undivided).resolve_left fun same => divided ⟨undivided, congrArg some same⟩
      obtain ⟨c, latest, -, granted⟩ := (inv.standing undivided).latest row (find_mem stored)
      have bound := last c (latestClaim_mem latest).1 (latestClaim_mem latest).2
      simp only [ClaimedScope.token, granted, token_overwrite] at bound
      omega
    · exact inv.divided undivided before

theorem Own.claimed (own : Own s call)
    (rows : s.Undivided → meets s.leases claim read = read → ∀ id row, s.leases.find id = some row →
      ∃ later, next.find id = some later ∧ later.scope = row.scope ∧
    (later = row ∨ row.fencingToken < later.fencingToken))
    (scopes : ∀ id row, s.leases.find id = some row → ∃ later, next.find id = some later ∧ later.scope = row.scope) :
    Own (s.claimed claim read granted next) call := by
  match call with
  | .read _ => exact own
  | .write _ none => trivial
  | .write other (some lease) =>
    obtain ⟨free, row, stored, ofScope, since⟩ := own
    obtain ⟨later, found, same⟩ := scopes lease.id row stored
    refine ⟨free, later, found, same.trans ofScope, fun undivided => ?_⟩
    obtain ⟨before, whole⟩ := undivided_claimed.mp undivided
    obtain ⟨seen, atId, -, grown⟩ := rows before whole lease.id row stored
    cases atId.symm.trans found
    rcases grown with rfl | grown
    · exact since before
    · rcases since before with rfl | earlier
      · exact .inr grown
      · exact .inr (earlier.trans grown)

theorem find_later (stored : s.leases.find old.id = some row) (id : String) (lease : SnapshotScopeLease)
    (found : s.leases.find id = some lease) :
    ∃ later, (s.leases.update old.id (claim.overwrite old)).find id = some later ∧ later.scope = lease.scope ∧
      (meets s.leases claim (some old) = some old → later = lease ∨ lease.fencingToken < later.fencingToken) := by
  by_cases here : id = old.id
  · subst here
    cases stored.symm.trans found
    refine ⟨claim.overwrite old row, ?_, rfl, fun whole => .inr ?_⟩
    · rw [find_update_self (f := claim.overwrite old) (fun _ => rfl), stored, Option.map_some]
    · cases Option.some.inj (stored.symm.trans whole)
      exact Nat.lt_succ_self _
  · exact ⟨lease, by rw [find_update_ne here, found], rfl, fun _ => .inl rfl⟩

theorem Own.later {handoffs : Table SnapshotHandoff} {now : Int} (own : Own s call) (later : s.now ≤ now) :
    Own { s with handoffs := handoffs, now := now } call := by
  match call with
  | .read _ => exact le_trans own later
  | .write _ none => trivial
  | .write _ (some _) => exact ⟨fun other => (own.1 other).trans later, own.2⟩

theorem undisturbed : Undisturbed calls Inv Own fun _ _ => True where
  symm _ := trivial
  begins := by
    rintro s t call inv ⟨handoffId, scopeKey, owner, seconds, now, leaseId, handoff, checked, later, rfl, rfl⟩
    exact ⟨⟨inv.distinct, fun undivided => ⟨(inv.standing undivided).increasing, (inv.standing undivided).exclusive,
      (inv.standing undivided).latest, (inv.standing undivided).known⟩, inv.divided⟩, le_refl now,
      fun other own => ⟨own.later later, trivial⟩⟩
  statement := by
    intro s call inv own
    cases call with
    | read claim =>
      cases ran : readLease s.leases claim with
      | error e =>
        simp only [calls, statement, ran]
        exact ⟨inv, fun rest same => (by cases same), fun other others _ => others⟩
      | ok lease =>
        simp only [calls, statement, ran]
        refine ⟨inv, fun rest same => ?_, fun other others _ => others⟩
        cases same
        refine ⟨?_, fun _ _ => trivial⟩
        cases lease with
        | none => trivial
        | some lease =>
          obtain ⟨found, free⟩ := readLease_ok ran
          obtain ⟨member, ofScope⟩ := leaseOf_some found
          exact ⟨fun other => (free other).trans own, lease, find_of_mem member, ofScope, fun _ => .inl rfl⟩
    | write claim read =>
      cases ran : writeLease s.leases claim read with
      | error e =>
        simp only [calls, statement, ran]
        exact ⟨inv, fun rest same => (by cases same), fun other others _ => others⟩
      | ok result =>
        obtain ⟨granted, next⟩ := result
        simp only [calls, statement, ran]
        cases read with
        | none =>
          obtain ⟨absent, rfl, inserted⟩ := writeLease_insert ran
          refine ⟨inv.inserts absent inserted, fun rest same => (by cases same), fun other others _ =>
            others.claimed ?_ ?_⟩
          · exact fun _ _ id row found => ⟨row, find_insert?_of_some inserted found, rfl, .inl rfl⟩
          · exact fun id row found => ⟨row, find_insert?_of_some inserted found, rfl⟩
        | some old =>
          obtain ⟨stored, found, rfl, rfl⟩ := writeLease_update ran
          refine ⟨inv.updates own found, fun rest same => (by cases same), fun other others _ => others.claimed ?_ ?_⟩
          · intro _ whole id row atId
            obtain ⟨later, seen, same, grown⟩ := find_later found id row atId
            exact ⟨later, seen, same, grown whole⟩
          · intro id row atId
            obtain ⟨later, seen, same, -⟩ := find_later found id row atId
            exact ⟨later, seen, same⟩
  around := by
    rintro s t inv ⟨handoffs, now, later, rfl⟩
    exact ⟨⟨inv.distinct, fun undivided => ⟨(inv.standing undivided).increasing, (inv.standing undivided).exclusive,
      (inv.standing undivided).latest, (inv.standing undivided).known⟩, inv.divided⟩, fun other own => own.later later⟩

theorem initial_inv (handoffs : Table SnapshotHandoff) (now : Int) : Inv (initial handoffs now) where
  distinct := List.nodup_nil
  standing _ := ⟨.nil, fun _ member => absurd member List.not_mem_nil, fun _ member => absurd member List.not_mem_nil,
    fun _ member => absurd member List.not_mem_nil⟩
  divided divided := absurd (fun _ member => absurd member List.not_mem_nil) divided

theorem Standing.fenced (standing : Standing s) : Fenced s where
  increasing := standing.increasing
  exclusive := standing.exclusive
  validated := by
    intro leaseId owner fencingToken lease ran
    obtain ⟨member, isOwner, isToken, unexpired⟩ := validateFencing_ok ran
    obtain ⟨c, latest, owned, granted⟩ := standing.latest lease member
    refine ⟨c, latest, owned.trans isOwner, ?_, ?_⟩
    · simpa only [ClaimedScope.token, granted] using isToken
    · simpa only [granted] using unexpired

end ScopeLeases

open ScopeLeases

/-- However the reads and writes of claims interleave: the leases fence the
agents exactly if no lease changed between a claim's read and its write. -/
theorem scope_fencing_iff {handoffs : Table SnapshotHandoff} {start : Int} {s : ScopeLeases} {underWay : List ScopeCall}
    (path : Interleaving ScopeLeases.calls (initial handoffs start) s underWay) : s.Fenced ↔ s.Undivided := by
  have asserted := path.asserted undisturbed (initial_inv handoffs start)
  constructor
  · intro fenced
    by_contra divided
    exact asserted.inv.divided divided fenced.increasing
  · exact fun undivided => (asserted.inv.standing undivided).fenced

namespace ScopeSample

def handoff : SnapshotHandoff := ⟨"handoff", "run", .obj [("open_subtasks", .arr [.str "scope"])], .accepted⟩

def handoffs : Table SnapshotHandoff := .ofRows [handoff]

def claim (owner : String) (now : Int) : ScopeClaim := ⟨handoff, "scope", owner, 1, now, "lease"⟩

def first : ScopeLeases := (statement (initial handoffs 0) (.write (claim "agent-a" 0) none)).1

def late : ScopeLeases := { first with now := 1000000 }

def lease : SnapshotScopeLease := ⟨"lease", "run", "scope", "agent-a", 1, some "handoff", 1000000⟩

def second : ScopeLeases := (statement late (.write (claim "agent-b" 1000000) (some lease))).1

def third : ScopeLeases := (statement second (.write (claim "agent-c" 1000000) (some lease))).1

theorem begins {s : ScopeLeases} (owner : String) (same : s.handoffs = handoffs) :
    Begins s s (.read (claim owner s.now)) :=
  ⟨"handoff", "scope", owner, 1, s.now, "lease", handoff, by rw [same]; rfl, le_rfl, rfl, rfl⟩

theorem expired : Interleaving ScopeLeases.calls (initial handoffs 0) late [] := by
  have reading :
      Interleaving ScopeLeases.calls (initial handoffs 0) (initial handoffs 0)
      ([] ++ [.read (claim "agent-a" 0)]) :=
    .begins .start (begins "agent-a" rfl)
  have writing :
      Interleaving ScopeLeases.calls (initial handoffs 0) (initial handoffs 0)
      ([] ++ [.write (claim "agent-a" 0) none]) :=
    .statement reading
  have held : Interleaving ScopeLeases.calls (initial handoffs 0) first [] := .statement writing
  exact .around held ⟨handoffs, 1000000, by decide, rfl⟩

theorem takenOver : Interleaving ScopeLeases.calls (initial handoffs 0) second [] := by
  have reading : Interleaving ScopeLeases.calls (initial handoffs 0) late ([] ++ [.read (claim "agent-b" 1000000)]) :=
    .begins expired (begins "agent-b" rfl)
  have writing :
      Interleaving ScopeLeases.calls (initial handoffs 0) late
      ([] ++ [.write (claim "agent-b" 1000000) (some lease)]) :=
    .statement reading
  exact .statement writing

theorem raced : Interleaving ScopeLeases.calls (initial handoffs 0) third [] := by
  have reading : Interleaving ScopeLeases.calls (initial handoffs 0) late ([] ++ [.read (claim "agent-b" 1000000)]) :=
    .begins expired (begins "agent-b" rfl)
  have writing :
      Interleaving ScopeLeases.calls (initial handoffs 0) late
      ([] ++ [.write (claim "agent-b" 1000000) (some lease)]) :=
    .statement reading
  have entering : Interleaving ScopeLeases.calls (initial handoffs 0) late
      ([.write (claim "agent-b" 1000000) (some lease)] ++ .read (claim "agent-c" 1000000) :: []) :=
    .begins writing (begins "agent-c" rfl)
  have both : Interleaving ScopeLeases.calls (initial handoffs 0) late
      ([] ++ .write (claim "agent-b" 1000000) (some lease) :: [.write (claim "agent-c" 1000000) (some lease)]) :=
    .statement entering
  have one :
      Interleaving ScopeLeases.calls (initial handoffs 0) second
      ([] ++ [.write (claim "agent-c" 1000000) (some lease)]) :=
    .statement both
  exact .statement one

end ScopeSample

open ScopeSample in
/-- One agent after the other: the second is fenced off from the first, whose pair is no longer accepted. -/
theorem scope_fencing_sample : second.Fenced ∧ second.Undivided ∧
    validateFencing second.leases 1500000 "lease" "agent-a" 1 =
      .error (.valueError "Scope lease is stale or no longer owned.") := by
  have undivided : second.Undivided := by
    unfold Undivided
    decide
  exact ⟨(scope_fencing_iff takenOver).mpr undivided, undivided, by decide⟩

open ScopeSample in
/-- Two agents that read the expired lease are both granted token 2, the
second while the first holds the scope. -/
theorem scope_claims_race : Interleaving ScopeLeases.calls (initial handoffs 0) third [] ∧ ¬third.Fenced ∧
    third.claims.map (fun c => (c.owner, c.token)) = [("agent-a", 1), ("agent-b", 2), ("agent-c", 2)] := by
  refine ⟨raced, fun fenced => ?_, by decide⟩
  have increasing := fenced.increasing
  unfold Increasing at increasing
  revert increasing
  decide

end SacmRuntime
