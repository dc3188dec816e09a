import SacmRuntime.Runtime.Events

namespace SacmRuntime
open Session

/-- `_resource_digest`. -/
def resourceDigest (env : Env) (resource : Json) : String := env.sha256 (resource.text true)

/-- `_approval_expiry`. -/
def approvalExpiry (env : Env) (now : Nat) : Option Nat :=
  if env.approvalTtlSeconds > 0 then some (now + env.approvalTtlSeconds.toNat * 1000000) else none

def updateApproval (approvalId : String) (f : Approval → Approval) : Service Unit :=
  modify fun d => { d with approvals := d.approvals.update approvalId f }

namespace PolicyService

/-- The candidate `resource_digest`, recomputed for rows without one. -/
def candidateDigest (env : Env) (candidate : Approval) : String :=
  match candidate.resourceDigest with
  | some digest => if digest = "" then resourceDigest env candidate.resource else digest
  | none => resourceDigest env candidate.resource

/-- The loop of `_pending_or_approved`: the first candidate with the digest
that has not expired. Expired ones are marked on the way. -/
def matching (env : Env) (digest : String) : List Approval → Service (Option Approval)
  | [] => pure none
  | candidate :: rest => do
    if candidateDigest env candidate ≠ digest then matching env digest rest
    else
      let now ← utcnow
      if candidate.expiresAt.any (· ≤ now) then
        if candidate.status = .pending ∨ candidate.status = .approved then do
          updateApproval candidate.id fun approval => { approval with status := .expired }
          commit
        else pure ()
        matching env digest rest
      else return some candidate

/-- `PolicyService._pending_or_approved`, which `request_approval` returns. -/
def requestApproval (env : Env) (runId action : String) (resource : Json) : Service Approval := do
  let run ← existingRun runId
  let digest := resourceDigest env resource
  let approvals ← view fun d => (Table.orderBy Approval.requestedAt
    (d.approvals.rows.filter fun approval => approval.runId == runId && approval.action == action)).reverse
  let candidate ← matching env digest approvals
  match candidate with
  | some approval => return approval
  | none =>
    let approvalId ← uuid4
    let requestedAt ← utcnow
    let now ← utcnow
    let approval : Approval :=
      { id := approvalId, runId := runId, organizationId := run.organizationId, projectId := run.projectId,
        action := action, resource := resource, resourceDigest := some digest, status := .pending,
        requestedAt := requestedAt, expiresAt := approvalExpiry env now, decidedAt := none,
        decidedBy := none, decisionReason := none }
    let inserted ← view fun d => d.approvals.insert? approval
    let table ← Tx.expect (.integrityError "approvals.id") inserted
    modify fun d => { d with approvals := table }
    commit
    return approval

/-- `PolicyService.decide`. -/
def decide (env : Env) (approvalId : String) (approve : Bool) (actor reason : String) : Service Approval := do
  let found ← view fun d => d.approvals.find approvalId
  let approval ← Tx.expect (.valueError "Approval not found.") found
  Tx.ofExcept (env.authorizeApproval approval.runId actor)
  let now ← utcnow
  if approval.expiresAt.any (· ≤ now) then do
    updateApproval approvalId fun approval => { approval with status := .expired }
    commit
    Tx.raise (.valueError ("Approval " ++ approvalId ++ " has expired."))
  else if approval.status ≠ .pending then
    Tx.raise (.valueError ("Approval " ++ approvalId ++ " has already been decided."))
  else
    let decidedAt ← utcnow
    updateApproval approvalId fun approval =>
      { approval with status := if approve then .approved else .rejected, decidedBy := some actor,
                      decisionReason := some reason, decidedAt := some decidedAt }
    commit
    let decided ← view fun d => d.approvals.find approvalId
    Tx.expect (.valueError "Approval not found.") decided

end PolicyService

end SacmRuntime
