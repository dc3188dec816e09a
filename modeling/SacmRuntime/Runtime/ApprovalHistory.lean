import SacmRuntime.Runtime.PolicyGate
import SacmRuntime.Runtime.Operations
import SacmRuntime.Runtime.RunEffects

namespace SacmRuntime
open Session PolicyService Tx

def Approval.decision (approval : Approval) : Option String × Option Nat × Option String :=
  (approval.decidedBy, approval.decidedAt, approval.decisionReason)

/-- What an approval may become. Its binding stays; once it is no longer
pending, its decision stays as well and its status changes to expired at most. -/
structure Approval.Follows (old new : Approval) : Prop where
  binding : (new.id, new.runId, new.action, new.resource, new.resourceDigest) =
    (old.id, old.runId, old.action, old.resource, old.resourceDigest)
  settled : old.status ≠ .pending → new.decision = old.decision ∧ (new.status = old.status ∨ new.status = .expired)
  waiting : new.status = .pending → new.decision = old.decision

namespace Approval.Follows
variable {a b c : Approval}

theorem refl (a : Approval) : a.Follows a := ⟨rfl, fun _ => ⟨rfl, .inl rfl⟩, fun _ => rfl⟩

theorem trans (first : a.Follows b) (second : b.Follows c) : a.Follows c where
  binding := second.binding.trans first.binding
  settled := by
    intro settled
    obtain ⟨sameDecision, status⟩ := first.settled settled
    have stillSettled : b.status ≠ .pending := by
      rcases status with same | expired
      · rwa [same]
      · simp [expired]
    obtain ⟨sameAgain, after⟩ := second.settled stillSettled
    refine ⟨sameAgain.trans sameDecision, ?_⟩
    rcases after with same | expired
    · exact status.imp same.trans same.trans
    · exact .inr expired
  waiting := by
    intro waiting
    have before : b.status = .pending := by
      by_contra settled
      rcases (second.settled settled).2 with same | expired
      · exact settled (same.symm.trans waiting)
      · simp [expired] at waiting
    exact (second.waiting waiting).trans (first.waiting before)

theorem expired (a : Approval) : a.Follows { a with status := .expired } where
  binding := rfl
  settled _ := ⟨rfl, .inr rfl⟩
  waiting := by simp

theorem decided {a b : Approval} (pending : a.status = .pending) (binding : (b.id, b.runId, b.action, b.resource,
    b.resourceDigest) = (a.id, a.runId, a.action, a.resource, a.resourceDigest)) (settled : b.status ≠ .pending) :
    a.Follows b where
  binding := binding
  settled open_ := absurd pending open_
  waiting open_ := absurd open_ settled

end Approval.Follows

/-- Every approval of the first store is one in the second that follows it. -/
def ApprovalsFollow (d e : Db) : Prop :=
  ∀ id old, d.approvals.find id = some old → ∃ new, e.approvals.find id = some new ∧ old.Follows new

namespace ApprovalsFollow
variable {d e f : Db}

theorem refl (d : Db) : ApprovalsFollow d d := fun _ old found => ⟨old, found, .refl old⟩

theorem trans (first : ApprovalsFollow d e) (second : ApprovalsFollow e f) : ApprovalsFollow d f := by
  intro id old found
  obtain ⟨mid, atMid, toMid⟩ := first id old found
  obtain ⟨new, atNew, toNew⟩ := second id mid atMid
  exact ⟨new, atNew, toMid.trans toNew⟩

theorem update {id : String} {g : Approval → Approval}
    (follows : ∀ row, d.approvals.find id = some row → row.Follows (g row)) :
    ApprovalsFollow d { d with approvals := d.approvals.update id g } := by
  intro other old found
  by_cases here : other = id
  · subst here
    have move := follows old found
    have keeps : Keyed.key (g old) = Keyed.key old := (Prod.mk.inj move.binding).1
    refine ⟨Table.rewriteRow g old, ?_, by rw [Table.rewriteRow_of_keeps keeps]; exact move⟩
    change (d.approvals.update other g).find other = _
    rw [Table.find_update, if_pos rfl, found]
    rfl
  · refine ⟨old, ?_, .refl old⟩
    change (d.approvals.update id g).find other = _
    rw [Table.find_update_ne here]
    exact found

theorem insert {approval : Approval} {table : Table Approval} (inserted : d.approvals.insert? approval = some table) :
    ApprovalsFollow d { d with approvals := table } :=
  fun _ old found => ⟨old, Table.find_insert?_of_some inserted found, .refl old⟩

end ApprovalsFollow

abbrev PolicyWrite (s : Session Db) (d : Db) : Prop := ApprovalsFollow s.working d

section
variable {env : Env} {s : Session Db}

variable {action digest runId : String} {actorId : Option String} {approval : Approval} {candidates : List Approval}
  {checks : TenantChecks} {config : PolicyConfig} {resource : Json} {t : Session Db} {trustedInternal : Bool}

theorem matching_follows :
    Tx.Moves (Step PolicyWrite) (matching env digest candidates) := by
  induction candidates with
  | nil => exact fun _ => movesFrom_pure _
  | cons candidate rest ih =>
    intro s
    unfold matching
    refine movesFrom_ite (fun _ => ih s) fun _ => movesFrom_utcnow fun now clock => ?_
    refine movesFrom_ite (fun _ => ?_) fun _ => movesFrom_pure _
    refine movesFrom_ite (fun _ => ?_) fun _ => ih _
    exact movesFrom_write (.update fun row _ => .expired row) (movesFrom_commit (ih _))

theorem requestApproval_follows :
    Tx.Moves (Step PolicyWrite) (requestApproval env runId action resource) := by
  intro s
  unfold requestApproval existingRun
  rw [Tx.MovesFrom, bind_assoc_run]
  refine movesFrom_view (movesFrom_expect fun run _ => movesFrom_view (matching_follows.then fun candidate t => ?_))
  cases candidate with
  | some approval => exact movesFrom_pure _
  | none =>
    refine movesFrom_uuid4 fun _ _ => movesFrom_utcnow fun _ _ => movesFrom_utcnow fun _ _ => ?_
    refine movesFrom_view (movesFrom_expect fun table inserted => ?_)
    exact movesFrom_write (.insert inserted) (movesFrom_commit (movesFrom_pure _))

theorem decide_follows {approvalId actor reason : String} {approve : Bool} :
    Tx.Moves (Step PolicyWrite) (PolicyService.decide env approvalId approve actor reason) := by
  intro s
  unfold PolicyService.decide
  refine movesFrom_view (movesFrom_expect fun approval found => movesFrom_ofExcept fun _ _ => ?_)
  refine movesFrom_utcnow fun now clock => movesFrom_ite (fun _ => ?_) fun _ => ?_
  · exact movesFrom_write (.update fun row _ => .expired row) (movesFrom_commit (movesFrom_raise _))
  · refine movesFrom_guard fun pending => movesFrom_utcnow fun decidedAt clock => ?_
    refine movesFrom_write (.update fun row atRow => ?_) (movesFrom_commit (movesFrom_view (moves_expect _)))
    cases Option.some.inj (atRow.symm.trans found)
    refine .decided (not_not.mp pending) rfl ?_
    cases approve <;> simp

theorem requireAllowed_follows {runId : Option String} : Tx.Moves (Step PolicyWrite)
      (requireAllowed env config checks action resource runId actorId trustedInternal) := by
  unfold requireAllowed
  refine moves_ofExcept.bind fun context => moves_ofExcept.bind fun decision => ?_
  refine moves_ofExcept.bind fun _ => ?_
  refine moves_ite (fun _ => movesFrom_raise _) (moves_ite (fun _ => movesFrom_pure _) ?_)
  cases runId.filter (· ≠ "") with
  | none => exact fun _ => movesFrom_raise _
  | some runId =>
    refine requestApproval_follows.bind fun approval => ?_
    exact moves_ite (fun _ => movesFrom_raise _) fun _ => movesFrom_pure _

theorem call_follows (call : PolicyCall) (d : Db) (supply : Supply) : ApprovalsFollow d (call.after env d supply) := by
  have moves : Tx.MovesFrom (Step PolicyWrite) (call.exec env) (start d supply) := by
    cases call with
    | requireAllowed => exact requireAllowed_follows _
    | requestApproval => exact (requestApproval_follows _).void
    | decide => exact (decide_follows _).void
  exact request_keeps (P := ApprovalsFollow d) moves (fun _ _ write before => before.trans write) (.refl d)

theorem history_follows {d e : Db} (history : PolicyHistory env d e) : ApprovalsFollow d e :=
  history.keeps (P := ApprovalsFollow d) (fun e supply call _ before => before.trans (call_follows call e supply))
    (.refl d)

/-- The run holds an approval of the action for exactly this resource, which
was approved and had not expired when its expiry was read. -/
def ApprovedFor (env : Env) (d : Db) (clock : Nat → Nat) (runId action : String) (resource : Json) : Prop :=
  ∃ approval ∈ d.approvals.rows, approval.runId = runId ∧ approval.action = action ∧
    candidateDigest env approval = resourceDigest env resource ∧ approval.status = .approved ∧
    ∃ n, ∀ expiry, approval.expiresAt = some expiry → clock n < expiry

theorem matching_ok (returned : matching env digest candidates s = (.ok (some approval), t)) :
    approval ∈ candidates ∧ candidateDigest env approval = digest ∧
      ∃ n, ∀ expiry, approval.expiresAt = some expiry → s.clock n < expiry := by
  induction candidates generalizing s with
  | nil => cases returned
  | cons candidate rest ih =>
    have later : ∀ (u : Session Db) (shift : Nat), u.clock = (fun n => s.clock (n + shift)) →
        matching env digest rest u = (.ok (some approval), t) →
        approval ∈ candidate :: rest ∧ candidateDigest env approval = digest ∧
          ∃ n, ∀ expiry, approval.expiresAt = some expiry → s.clock n < expiry := by
      intro u shift readings ran
      obtain ⟨member, same, n, unexpired⟩ := ih ran
      rw [readings] at unexpired
      exact ⟨List.mem_cons_of_mem _ member, same, n + shift, unexpired⟩
    unfold matching at returned
    by_cases other : candidateDigest env candidate ≠ digest
    · rw [if_pos other] at returned
      exact later s 0 rfl returned
    · rw [if_neg other, bind_utcnow] at returned
      by_cases expired : candidate.expiresAt.any (· ≤ s.clock 0) = true
      · rw [if_pos expired] at returned
        by_cases unfinished : candidate.status = .pending ∨ candidate.status = .approved
        · rw [if_pos unfinished] at returned
          exact later _ 1 rfl returned
        · rw [if_neg unfinished] at returned
          exact later _ 1 rfl returned
      · rw [if_neg expired] at returned
        obtain ⟨same, -⟩ := Prod.mk.inj returned
        cases same
        refine ⟨List.mem_cons_self, not_not.mp other, 0, fun expiry within => ?_⟩
        simpa [within] using expired

theorem requestApproval_approved (returned : requestApproval env runId action resource s = (.ok approval, t))
    (approved : approval.status = .approved) :
    ApprovedFor env s.working s.clock runId action resource := by
  unfold requestApproval at returned
  obtain ⟨run, s1, looked, continued⟩ := bind_ok returned
  obtain ⟨-, rfl⟩ := existingRun_ok looked
  rw [bind_view] at continued
  obtain ⟨candidate, s2, matched, last⟩ := bind_ok continued
  cases candidate with
  | some found =>
    obtain ⟨same, -⟩ := Prod.mk.inj last
    cases same
    obtain ⟨member, digest, n, unexpired⟩ := matching_ok matched
    have row : approval ∈ s1.working.approvals.rows ∧ approval.runId = runId ∧ approval.action = action := by
      simpa using member
    exact ⟨approval, row.1, row.2.1, row.2.2, digest, approved, n, unexpired⟩
  | none =>
    simp only [bind_uuid4, bind_utcnow, bind_view] at last
    obtain ⟨table, s3, inserted, stored⟩ := bind_ok last
    rw [bind_modify, bind_commit] at stored
    obtain ⟨same, -⟩ := Prod.mk.inj stored
    cases same
    cases approved

theorem requireAllowed_approved {runId : Option String} {decision : PolicyDecision}
    (evaluated : evaluate config action resource runId = .ok decision) (needed : decision.requiresApproval = true)
    (returned : requireAllowed env config checks action resource runId actorId trustedInternal s = (.ok (), t)) :
    ∃ run, runId = some run ∧ ApprovedFor env s.working s.clock run action resource := by
  unfold requireAllowed at returned
  obtain ⟨context, s1, checked, continued⟩ := bind_ok returned
  obtain ⟨-, rfl⟩ := ofExcept_ok checked
  obtain ⟨other, s2, decided, rest⟩ := bind_ok continued
  obtain ⟨same, rfl⟩ := ofExcept_ok decided
  cases Except.ok.inj (evaluated.symm.trans same)
  obtain ⟨_, s3, recorded, last⟩ := bind_ok rest
  obtain ⟨-, rfl⟩ := ofExcept_ok recorded
  by_cases denied : (!decision.allowed) = true
  · rw [if_pos denied] at last
    cases last
  rw [if_neg denied, if_neg (by simp [needed])] at last
  cases named : runId.filter (· ≠ "") with
  | none =>
    rw [named] at last
    cases last
  | some run =>
    rw [named] at last
    obtain ⟨approval, s4, requested, final⟩ := bind_ok last
    have approved : approval.status = .approved := by
      by_contra unapproved
      rw [if_pos unapproved] at final
      cases final
    exact ⟨run, (Option.filter_eq_some_iff.mp named).1, requestApproval_approved requested approved⟩

end

def PolicyCall.Decides (env : Env) (call : PolicyCall) (d : Db) (supply : Supply) (approvalId : String) : Prop :=
  ∃ old new, d.approvals.find approvalId = some old ∧ (call.after env d supply).approvals.find approvalId = some new ∧
    (new.decision ≠ old.decision ∨ (new.status ≠ old.status ∧ (new.status = .approved ∨ new.status = .rejected)))

/-- After any history, an action that needs approval is let through only
under an approval of exactly its resource; a recorded decision stays what it
is; and no approval is decided twice. -/
theorem approvals_bind {env : Env} {d e : Db} (history : PolicyHistory env d e) :
    (∀ config checks action resource runId actorId trustedInternal decision supply,
      evaluate config action resource runId = .ok decision → decision.requiresApproval = true →
      (request (requireAllowed env config checks action resource runId actorId trustedInternal) e supply).1 = .ok () →
      ∃ run, runId = some run ∧ ApprovedFor env e supply.clock run action resource) ∧
    (∀ id old, d.approvals.find id = some old → old.status = .approved ∨ old.status = .rejected →
      ∃ new, e.approvals.find id = some new ∧ new.decision = old.decision ∧
        (new.status = old.status ∨ new.status = .expired)) ∧
    (∀ id (call : PolicyCall) supply, call.Decides env e supply id →
      ∀ f, PolicyHistory env (call.after env e supply) f →
      ∀ (later : PolicyCall) again, ¬later.Decides env f again id) := by
  refine ⟨?_, ?_, ?_⟩
  · intro config checks action resource runId actorId trustedInternal decision supply evaluated needed returned
    exact requireAllowed_approved (s := start e supply) evaluated needed (Prod.ext returned rfl)
  · intro id old found decided
    obtain ⟨new, atNew, follows⟩ := history_follows history id old found
    have settled : old.status ≠ .pending := by
      rcases decided with status | status <;> simp [status]
    obtain ⟨sameDecision, status⟩ := follows.settled settled
    exact ⟨new, atNew, sameDecision, status⟩
  · rintro id call supply ⟨old, new, atOld, atNew, changed⟩ f after later again ⟨row, last, atRow, atLast, changedAgain⟩
    obtain ⟨other, atOther, first⟩ := call_follows call e supply id old atOld
    cases Option.some.inj (atOther.symm.trans atNew)
    have settled : new.status ≠ .pending := by
      intro waiting
      rcases changed with different | ⟨-, approved | rejected⟩
      · exact different (first.waiting waiting)
      · simp [waiting] at approved
      · simp [waiting] at rejected
    obtain ⟨mid, atMid, between⟩ := history_follows after id new atNew
    cases Option.some.inj (atMid.symm.trans atRow)
    have stillSettled : row.status ≠ .pending := by
      rcases (between.settled settled).2 with same | expired
      · rwa [same]
      · simp [expired]
    obtain ⟨end_, atEnd, second⟩ := call_follows later f again id row atRow
    cases Option.some.inj (atEnd.symm.trans atLast)
    obtain ⟨sameDecision, status⟩ := second.settled stillSettled
    rcases changedAgain with different | ⟨different, decided⟩
    · exact different sameDecision
    · rcases status with same | expired
      · exact different same
      · simp [expired] at decided

namespace Sample

def policyConfig : PolicyConfig where
  opa := none
  opaFailClosed := true
  deniedToolActions := []
  approvalRequiredActions := ["deploy"]
  str := fun _ => ""

def release : Json := .obj [("tag", .str "v1")]

def approvalCalls : List (PolicyCall × Supply) :=
  [(.requestApproval "r" "deploy" release, supplyOf "a"),
    (.decide (.ok ()) "a0" true "operator" "agreed", supplyOf "b")]

def agreed : Db := Path.storeAfter (PolicyCall.after env) (store .planning .pending) approvalCalls

end Sample

open Sample in
/-- The release that was approved is let through, and its approval is there. -/
theorem approvals_bind_sample : ApprovedFor env agreed supply.clock "r" "deploy" release := by
  have history : PolicyHistory env (store .planning .pending) agreed :=
    Path.of_requests (fun _ _ _ => trivial) .start
  have returned : (request (requireAllowed env policyConfig ⟨.ok false, .ok ()⟩ "deploy" release (some "r") none false)
      agreed supply).1 = .ok () := by
    have ran : (request (requireAllowed env policyConfig ⟨.ok false, .ok ()⟩ "deploy" release (some "r") none false)
        agreed supply).1.toOption = some () := by
      decide +kernel
    generalize (request _ agreed supply).1 = outcome at ran ⊢
    cases outcome with
    | ok answer => rfl
    | error e => cases ran
  have evaluated : evaluate policyConfig "deploy" release (some "r") =
      .ok { allowed := true, reason := "Allowed by local policy.", requiresApproval := true } := rfl
  obtain ⟨run, named, approved⟩ := (approvals_bind history).1 _ _ _ _ _ _ _ _ supply evaluated rfl returned
  cases named
  exact approved

end SacmRuntime
