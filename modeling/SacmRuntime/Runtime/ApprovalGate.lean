import SacmRuntime.Runtime.Operations

namespace SacmRuntime
open Session ExternalAgentService Table

/-- The approval bound to the step is approved, for the latest plan. -/
def InForce (d : Db) (step : RunStep) : Prop :=
  ∃ record run, approvalFor d step = some record ∧ record.status = .approved ∧ d.run? step.runId = some run ∧
    approvalIsCurrent d record run.taskId = true

/-- The step still waits, for an approval of which `submit` has a branch. -/
def AtGate (d : Db) (step : RunStep) : Prop :=
  step.status = .awaitingApproval ∧ ∀ record, approvalFor d step = some record →
    record.status ≠ .expired ∧ record.status ≠ .superseded

/-- Requests of any kind but `restore`, which brings back older steps. -/
abbrev Forward (env : Env) : Db → Db → Prop := Execution env fun _ _ op => ∀ runId, ¬op.rewinds runId

/-- A submission that completes a step which waited for approval some time before. -/
structure LateCompletion (env : Env) (first d : Db) (supply : Supply) (result : AgentResultV1)
    (actorId : Option String) (trusted commits : Bool) (step : RunStep) : Prop where
  waited : ∃ mid waiting, Forward env first mid ∧ mid.steps.find step.id = some waiting ∧
    waiting.status = .awaitingApproval ∧ Forward env mid d
  found : d.steps.find step.id = some step
  uncompleted : step.status ≠ .completed
  completed : ∃ done, (Operation.after env (.submit step.runId step.id result actorId trusted commits) d
    supply).steps.find step.id = some done ∧ done.status = .completed

section
variable {env : Env} {p : Permit} {s : Session Db} {d e : Db} {stepId : String}

variable {actorId : Option String} {first next : Db} {result : AgentResultV1} {step : RunStep} {trusted : Bool}

theorem Write.keeps_finish (write : Write env p s next) (unrewound : ∀ runId, ¬p.rewind runId)
    (kept : ∀ row, s.working.steps.find stepId = some row → row.status = .completed → p.finish stepId) :
    ∀ row, next.steps.find stepId = some row → row.status = .completed → p.finish stepId := by
  intro row found done
  cases write with
  | other _ steps => exact kept row (steps ▸ found) done
  | insertRun | run | event | snapshot | insertJob | job => exact kept row found done
  | @insertStep step steps allowed fresh inserted =>
    change steps.find stepId = some row at found
    rw [find_insert? inserted] at found
    split at found
    · cases found
      simp [done] at fresh
    · exact kept row found done
  | step id f move =>
    change (s.working.steps.update id f).find stepId = some row at found
    rw [find_update] at found
    split at found
    · rename_i here
      subst here
      obtain ⟨old, atOld, rfl⟩ := Option.map_eq_some_iff.mp found
      have moved := move old atOld
      have key : old.id = stepId := find_key atOld
      rw [rewriteRow_of_keeps moved.id] at done
      rcases moved.finished done with before | granted | rewound
      · exact kept old atOld before
      · exact key ▸ granted
      · exact absurd rewound (unrewound old.runId)
    · exact kept row found done

theorem Write.keeps_unbound (write : Write env p s next) (unrewound : ∀ runId, ¬p.rewind runId)
    (kept : ∀ row ∈ s.working.steps.rows, row.Unbound) : ∀ row ∈ next.steps.rows, row.Unbound := by
  cases write with
  | other _ steps => exact steps ▸ kept
  | insertRun | run | event | snapshot | insertJob | job => exact kept
  | @insertStep step steps allowed fresh inserted =>
    intro row member
    rcases (mem_insert? inserted).mp member with old | rfl
    · exact kept row old
    · exact fun _ _ => by rw [fresh.2]; rfl
  | step id f move =>
    intro row member
    rcases mem_update member with old | ⟨old, found, rfl⟩
    · exact kept row old
    · have moved := move old found
      rw [rewriteRow_of_keeps moved.id]
      exact (moved.unbound (kept old (find_mem found))).resolve_right (unrewound old.runId)

theorem Forward.keeps_unbound (path : Forward env first d) (fresh : ∀ row ∈ first.steps.rows, row.Unbound) :
    ∀ row ∈ d.steps.rows, row.Unbound := by
  refine path.keeps (P := fun d => ∀ row ∈ d.steps.rows, row.Unbound) (fun d supply op forward kept => ?_) fresh
  exact request_keeps (P := fun d => ∀ row ∈ d.steps.rows, row.Unbound) (op.writes env d supply)
    (fun _ _ write => write.keeps_unbound forward) kept

/-- A step that a submission completes went through the checks of `submit`. -/
theorem LateCompletion.passes {supply : Supply} {commits : Bool}
    (late : LateCompletion env first d supply result actorId trusted commits step) :
    ∃ task approval, Passes env d step.runId step.id result actorId trusted step task approval := by
  obtain ⟨done, found, completed⟩ := late.completed
  have granted := request_keeps
    (P := fun e => ∀ row, e.steps.find step.id = some row → row.status = .completed →
      Operation.finishes env d (.submit step.runId step.id result actorId trusted commits) step.id)
    (Operation.writes env d supply (.submit step.runId step.id result actorId trusted commits))
    (fun _ _ write => write.keeps_finish fun _ rewound => rewound) (fun row atRow before => ?_) done found completed
  · obtain ⟨_, _, other, task, approval, passes⟩ := granted
    cases Option.some.inj ((getStep_find passes.found).1.symm.trans late.found)
    exact ⟨task, approval, passes⟩
  · cases Option.some.inj (atRow.symm.trans late.found)
    exact absurd before late.uncompleted

/-- At the gate, the checks of `submit` only let an approval in force through. -/
theorem Passes.inForce {runId : String} {task : AgentTaskV1} {approval : Option Approval}
    (passes : Passes env d runId stepId result actorId trusted step task approval) (atGate : AtGate d step) :
    InForce d step := by
  obtain ⟨record, bound, decided, unrefused, current⟩ := passes.gate atGate.1
  have named : approvalFor d step = some record := passes.bound.symm.trans bound
  obtain ⟨unexpired, unsuperseded⟩ := atGate.2 record named
  have approved : record.status = .approved := by
    cases status : record.status <;> simp_all
  obtain ⟨run, atRun, binding⟩ := current approved
  have ofRun : step.runId = runId := (getStep_find passes.found).2
  exact ⟨record, run, named, approved, ofRun ▸ atRun, binding⟩

theorem InForce.atGate (inForce : InForce d step) (unbound : step.Unbound) (uncompleted : step.status ≠ .completed) :
    AtGate d step := by
  obtain ⟨record, run, named, approved, _⟩ := inForce
  constructor
  · by_contra free
    have blank := unbound free uncompleted
    simp [approvalFor, blank] at named
  · intro other atOther
    cases Option.some.inj (atOther.symm.trans named)
    simp [approved]

end

/-- Whatever requests came before, a step that has waited for approval and is
completed by a submission is completed under an approval in force whenever it
still waits and its approval is neither EXPIRED nor SUPERSEDED; on runs that
start from steps without approvals, only then. -/
theorem approval_gate {env : Env} {first d : Db} {supply : Supply} {result : AgentResultV1}
    {actorId : Option String} {trusted commits : Bool} {step : RunStep}
    (late : LateCompletion env first d supply result actorId trusted commits step) :
    (AtGate d step → InForce d step) ∧
      ((∀ row ∈ first.steps.rows, row.Unbound) → InForce d step → AtGate d step) := by
  obtain ⟨task, approval, passes⟩ := late.passes
  refine ⟨passes.inForce, fun fresh inForce => ?_⟩
  obtain ⟨mid, _, before, _, _, after⟩ := late.waited
  have unbound := after.keeps_unbound (before.keeps_unbound fresh) step (Table.find_mem late.found)
  exact inForce.atGate unbound late.uncompleted

namespace Sample

def pending : Db := store .planning .pending

def submitting (result : AgentResultV1) : Operation := .submit "r" "s" result none true true

def asking : List (Operation × Supply) := [(submitting { succeeded with status := .needsApproval }, supplyOf "a")]

def approving : List (Operation × Supply) := [(.decide "a1" true "operator" "agreed", supplyOf "b")]

/-- The plan is revised, and the result is submitted for the first time. -/
def revising : List (Operation × Supply) :=
  [(.recordPlan ⟨"plan", "t", 1, "execution-plan/v1", "ACTIVE", "source", "context", 0, []⟩, supplyOf "c"),
    (submitting succeeded, supplyOf "d")]

end Sample

open Sample in
theorem sample_completion {after : List (Operation × Supply)} {step : RunStep}
    (forward : ∀ request ∈ after, ∀ runId, ¬request.1.rewinds runId)
    (found : (afterAll env pending (asking ++ after)).steps.find "s" = some step)
    (waiting : step.runId = "r" ∧ step.status = .awaitingApproval)
    (completed : ((Operation.after env (submitting succeeded) (afterAll env pending (asking ++ after))
      (supplyOf "z")).steps.find "s").map RunStep.status = some .completed) :
    LateCompletion env pending (afterAll env pending (asking ++ after)) (supplyOf "z") succeeded none true true
      step := by
  have key : step.id = "s" := find_key found
  have asked : ((afterAll env pending asking).steps.find "s").map RunStep.status = some .awaitingApproval := by
    decide +kernel
  obtain ⟨row, atRow, status⟩ := Option.map_eq_some_iff.mp asked
  refine ⟨⟨afterAll env pending asking, row, ?_, key ▸ atRow, status, ?_⟩, key ▸ found, by simp [waiting.2], ?_⟩
  · exact Path.of_requests (fun _ _ _ => by simp_all [asking, submitting, Operation.rewinds]) .start
  · rw [afterAll, Path.storeAfter_append]
    exact Path.of_requests (fun request member _ => forward request member) .start
  · rw [key, waiting.1]
    exact Option.map_eq_some_iff.mp completed

open Sample in
theorem approval_gate_sample :
    ∃ step, LateCompletion env pending (afterAll env pending (asking ++ approving)) (supplyOf "z") succeeded none true
      true step ∧ InForce (afterAll env pending (asking ++ approving)) step := by
  have runs : ((afterAll env pending (asking ++ approving)).steps.find "s").map (fun step =>
        (step.runId, step.status,
          (approvalFor (afterAll env pending (asking ++ approving)) step).map Approval.status)) =
          some ("r", .awaitingApproval, some .approved) ∧
      ((Operation.after env (submitting succeeded) (afterAll env pending (asking ++ approving))
        (supplyOf "z")).steps.find "s").map RunStep.status = some .completed := by decide +kernel
  obtain ⟨step, found, facts⟩ := Option.map_eq_some_iff.mp runs.1
  simp only [Prod.mk.injEq] at facts
  have late := sample_completion (by simp [approving, Operation.rewinds]) found ⟨facts.1, facts.2.1⟩ runs.2
  refine ⟨step, late, (approval_gate late).1 ⟨facts.2.1, fun record named => ?_⟩⟩
  simp_all

open Sample in
/-- The approval is given, the plan revised and the result submitted twice:
the first submission supersedes the approval, the second completes the step. -/
theorem superseded_approval_completes :
    ∃ step, LateCompletion env pending (afterAll env pending (asking ++ (approving ++ revising))) (supplyOf "z")
      succeeded none true true step ∧ ¬InForce (afterAll env pending (asking ++ (approving ++ revising))) step := by
  have runs : ((afterAll env pending (asking ++ (approving ++ revising))).steps.find "s").map (fun step =>
        (step.runId, step.status,
          (approvalFor (afterAll env pending (asking ++ (approving ++ revising))) step).map Approval.status)) =
          some ("r", .awaitingApproval, some .superseded) ∧
      ((Operation.after env (submitting succeeded) (afterAll env pending (asking ++ (approving ++ revising)))
        (supplyOf "z")).steps.find "s").map RunStep.status = some .completed := by decide +kernel
  obtain ⟨step, found, facts⟩ := Option.map_eq_some_iff.mp runs.1
  simp only [Prod.mk.injEq] at facts
  have late := sample_completion (by simp [approving, revising, submitting, Operation.rewinds]) found
    ⟨facts.1, facts.2.1⟩ runs.2
  refine ⟨step, late, ?_⟩
  rintro ⟨record, run, named, approved, _⟩
  simp_all

end SacmRuntime
