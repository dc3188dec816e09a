import SacmRuntime.Runtime.ExecutionPlanning
import SacmRuntime.Runtime.Operations

namespace SacmRuntime
open Session
open Tx hiding read

/-- A task has at most one plan of a revision, and at most one made from the same inputs. -/
def PlansKeyed (plans : List ExecutionPlan) : Prop :=
  ∀ a ∈ plans, ∀ b ∈ plans, a.taskId = b.taskId → a.revision = b.revision ∨ a.sourceHash = b.sourceHash → a = b

structure ReadersAgree (tools : PlanningTools) (d : PlanningDb) (taskId : String) (plan : ExecutionPlanV1) : Prop where
  latest : ExecutionPlanningService.get tools d taskId = .ok (some plan)
  policy : ExecutionPlanningService.getPolicy tools d taskId =
    .ok (some ⟨plan.id, plan.riskDecision, plan.policyDecision, plan.approvalGates⟩)
  review : ExecutionPlanningService.getSecurityReview tools d taskId = .ok (some plan.securityReview)
  secrets : ExecutionPlanningService.getSecretRequirements tools d taskId =
    .ok (some ⟨plan.id, plan.secretRequirements, plan.secretReferences⟩)
  binding : ExternalAgentService.planBinding d.shared taskId = [("execution_plan_id", .str plan.id),
    ("plan_revision", .int plan.revision), ("plan_source_hash", .str plan.sourceHash)]

namespace ExecutionPlanningService

section
variable {env : Env} {tools : PlanningTools} {checks : BuildChecks} {d e : PlanningDb} {taskId policyPack : String}
  {plan : ExecutionPlan} {result : ExecutionPlanV1}

theorem read_ok (returned : read tools d plan = .ok result) :
    result.id = plan.id ∧ result.revision = plan.revision ∧ result.sourceHash = plan.sourceHash := by
  unfold read at returned
  split at returned
  · cases returned
  · dsimp only at returned
    split at returned
    · cases returned
      exact ⟨rfl, rfl, rfl⟩
    · cases returned

theorem read_rows (returned : read tools d plan = .ok result) : result.status = plan.status ∧
    ∃ body ∈ d.bodies, body.planId = plan.id ∧ result.steps = body.steps ∧
      result.approvalGates = body.approvalGates := by
  unfold read at returned
  split at returned
  · cases returned
  · rename_i body found
    dsimp only at returned
    split at returned
    · cases returned
      have named := List.find?_some found
      exact ⟨rfl, body, List.mem_of_find?_eq_some found, by simpa using named, rfl, rfl⟩
    · cases returned

theorem latest_eq_iff (keyed : PlansKeyed d.shared.plans) (member : plan ∈ d.shared.plans)
    (ofTask : plan.taskId = taskId) :
    latest d taskId = some plan ↔ ∀ other ∈ d.shared.plans, other.taskId = taskId → other.revision ≤ plan.revision := by
  have inTask : plan ∈ d.shared.plans.filter fun plan => plan.taskId == taskId := by
    simp [member, ofTask]
  unfold latest Db.latestPlan
  constructor
  · intro newest other atOther otherTask
    exact List.le_of_mem_argmax (by simp [atOther, otherTask]) newest
  · intro highest
    cases newest : (d.shared.plans.filter fun plan => plan.taskId == taskId).argmax ExecutionPlan.revision with
    | none =>
      rw [List.argmax_eq_none.mp newest] at inTask
      cases inTask
    | some found =>
      have listed := List.argmax_mem newest
      rw [List.mem_filter, beq_iff_eq] at listed
      have above : plan.revision ≤ found.revision := List.le_of_mem_argmax inTask newest
      have below : found.revision ≤ plan.revision := highest found listed.1 listed.2
      rw [keyed found listed.1 plan member (listed.2.trans ofTask.symm) (.inl (le_antisymm below above))]

theorem readersAgree_iff (returned : read tools d plan = .ok result) (keyed : PlansKeyed d.shared.plans)
    (member : plan ∈ d.shared.plans) (ofTask : plan.taskId = taskId) :
    ReadersAgree tools d taskId result ↔
      ∀ other ∈ d.shared.plans, other.taskId = taskId → other.revision ≤ plan.revision := by
  obtain ⟨id, revision, hash⟩ := read_ok returned
  rw [← latest_eq_iff keyed member ofTask]
  constructor
  · intro agree
    have shown := agree.latest
    unfold get at shown
    cases newest : latest d taskId with
    | none =>
      rw [newest] at shown
      cases shown
    | some found =>
      rw [newest] at shown
      change (read tools d found).map some = .ok (some result) at shown
      cases other : read tools d found with
      | error e =>
        rw [other] at shown
        cases shown
      | ok seen =>
        rw [other] at shown
        cases shown
        have listed := List.argmax_mem newest
        rw [List.mem_filter, beq_iff_eq] at listed
        have sameRevision := (read_ok other).2.1.symm.trans revision
        rw [keyed found listed.1 plan member (listed.2.trans ofTask.symm) (.inl sameRevision)]
  · intro newest
    have binding : ExternalAgentService.planBinding d.shared taskId = [("execution_plan_id", .str result.id),
        ("plan_revision", .int result.revision), ("plan_source_hash", .str result.sourceHash)] := by
      unfold ExternalAgentService.planBinding
      rw [show d.shared.latestPlan taskId = some plan from newest, id, revision, hash]
    refine ⟨?_, ?_, ?_, ?_, binding⟩
    · unfold get
      rw [newest]
      simp [returned, Except.map]
    · unfold getPolicy
      rw [newest]
      simp [returned, Except.map]
    · unfold getSecurityReview
      rw [newest]
      simp [returned, Except.map]
    · unfold getSecretRequirements
      rw [newest]
      simp [returned, Except.map]

theorem le_foldr_max {revisions : List Nat} {revision : Nat} (member : revision ∈ revisions) :
    revision ≤ revisions.foldr max 0 := by
  induction revisions with
  | nil => cases member
  | cons first rest ih =>
    rw [List.foldr_cons]
    rcases List.mem_cons.mp member with rfl | later
    · exact le_max_left _ _
    · exact (ih later).trans (le_max_right _ _)

theorem lt_nextRevision (member : plan ∈ d.shared.plans) (ofTask : plan.taskId = taskId) :
    plan.revision < nextRevision d taskId := by
  have inTask : plan.revision ∈ (d.shared.plans.filter fun plan => plan.taskId == taskId).map ExecutionPlan.revision :=
    List.mem_map_of_mem (List.mem_filter.mpr ⟨member, by simp [ofTask]⟩)
  exact Nat.lt_succ_of_le (le_foldr_max inTask)

variable {actorId : Option String} {s t : Session PlanningDb}

theorem insertPlan_ok (inserted : insertPlan plan s = (.ok (), t)) :
    t = { s with working := { s.working with shared :=
        { s.working.shared with plans := s.working.shared.plans ++ [plan] } } } ∧
      ∀ other ∈ s.working.shared.plans, other.taskId = plan.taskId →
        other.revision ≠ plan.revision ∧ other.sourceHash ≠ plan.sourceHash := by
  unfold insertPlan at inserted
  rw [bind_view] at inserted
  split at inserted
  · cases inserted
  · rename_i free
    obtain ⟨-, rfl⟩ := Prod.mk.inj inserted
    refine ⟨rfl, fun other member sameTask => ?_⟩
    rw [Bool.not_eq_true, List.any_eq_false] at free
    have apart := free other member
    simp only [sameTask, beq_self_eq_true, Bool.true_and, Bool.or_eq_true, beq_iff_eq, not_or] at apart
    exact apart.2

/-- What a `compose` that returns has stored: the row of the plan and its other
rows, as the steps and the decision of the policy make them. -/
structure Composed (env : Env) (tools : PlanningTools) (d : PlanningDb) (taskId policyPack : String) (found : Inputs)
    (e : PlanningDb) (plan : ExecutionPlan) : Prop where
  ofTask : plan.taskId = taskId
  revision : plan.revision = nextRevision d taskId
  sourceHash : plan.sourceHash = found.hash
  rows : e.shared.plans = d.shared.plans ++ [plan]
  apart : ∀ other ∈ d.shared.plans, other.taskId = taskId → other.sourceHash ≠ found.hash
  id : plan.id = env.uuid5 (taskId ++ ":" ++ found.hash)
  decided : ∃ planned decision, ∃ body : PlanBody,
    tools.buildSteps plan.id found.contract found.context found.requests = .ok planned ∧
    tools.evaluatePlan planned.policyInput policyPack = .ok decision ∧ plan.status = planStatus decision ∧
    e.bodies = d.bodies ++ [body] ∧ body.steps = planned.steps ∧
    body.approvalGates = decision.approvalGates.map (gateOf env plan.id)

theorem compose_ok {inputs : Inputs}
    (returned : compose env tools checks taskId policyPack inputs s = (.ok result, t)) :
    ∃ plan, Composed env tools s.working taskId policyPack inputs t.committed plan ∧
      read tools t.committed plan = .ok result := by
  unfold compose at returned
  simp only [bind_view] at returned
  obtain ⟨planned, s1, first, returned⟩ := bind_ok returned
  obtain ⟨built, rfl⟩ := ofExcept_ok first
  obtain ⟨decision, s2, second, returned⟩ := bind_ok returned
  obtain ⟨evaluated, rfl⟩ := ofExcept_ok second
  rw [bind_utcnow] at returned
  obtain ⟨_, s3, inserted, returned⟩ := bind_ok returned
  obtain ⟨rfl, apart⟩ := insertPlan_ok inserted
  rw [bind_flush] at returned
  obtain ⟨reviewer, s4, third, returned⟩ := bind_ok returned
  obtain ⟨-, rfl⟩ := ofExcept_ok third
  obtain ⟨secrets, s5, fourth, returned⟩ := bind_ok returned
  obtain ⟨-, rfl⟩ := ofExcept_ok fourth
  rw [bind_modify, bind_commit] at returned
  obtain ⟨_, s6, audited, returned⟩ := bind_ok returned
  obtain ⟨-, rfl⟩ := ofExcept_ok audited
  obtain ⟨_, s7, refreshed, returned⟩ := bind_ok returned
  obtain ⟨-, rfl⟩ := ofExcept_ok refreshed
  rw [bind_view] at returned
  obtain ⟨readBack, rfl⟩ := ofExcept_ok returned
  exact ⟨_, ⟨rfl, rfl, rfl, rfl, fun other member ofTask => (apart other member ofTask).2, rfl, planned, decision, _,
    built, evaluated, rfl, rfl, rfl, rfl⟩, readBack⟩

theorem build_ran (ran : build env tools checks taskId policyPack actorId s = (.ok result, t)) :
    ∃ found, inputs env tools s.working taskId policyPack = .ok found ∧
      ((∃ plan, existingPlan s.working taskId found.hash = some plan ∧ read tools s.working plan = .ok result ∧ t = s) ∨
        existingPlan s.working taskId found.hash = none ∧
          ∃ plan, Composed env tools s.working taskId policyPack found t.committed plan ∧
            read tools t.committed plan = .ok result) := by
  unfold build at ran
  split at ran
  · cases ran
  rw [bind_view] at ran
  obtain ⟨_, _, known, admitted⟩ := bind_ok ran
  rw [(expect_ok known).2] at admitted
  split at admitted
  · cases admitted
  obtain ⟨_, _, authorized, checked⟩ := bind_ok admitted
  rw [(ofExcept_ok authorized).2, bind_view] at checked
  obtain ⟨found, _, passed, planning⟩ := bind_ok checked
  rw [(ofExcept_ok passed).2, bind_view] at planning
  refine ⟨found, (ofExcept_ok passed).1, ?_⟩
  cases existing : existingPlan s.working taskId found.hash with
  | some plan =>
    rw [existing] at planning
    obtain ⟨readBack, same⟩ := ofExcept_ok planning
    exact .inl ⟨plan, rfl, readBack, same⟩
  | none =>
    rw [existing] at planning
    exact .inr ⟨rfl, compose_ok planning⟩

theorem build_ok {supply : Supply}
    (returned : request (build env tools checks taskId policyPack actorId) d supply = (.ok result, e)) :
    ∃ found, inputs env tools d taskId policyPack = .ok found ∧
      ((∃ plan, existingPlan d taskId found.hash = some plan ∧ read tools d plan = .ok result ∧ e = d) ∨
        ∃ plan, Composed env tools d taskId policyPack found e plan ∧ read tools e plan = .ok result) := by
  obtain ⟨t, rfl, ran⟩ : ∃ t : Session PlanningDb, t.committed = e ∧
      build env tools checks taskId policyPack actorId (start d supply) = (.ok result, t) := by
    obtain ⟨outcome, store⟩ := Prod.mk.inj returned
    exact ⟨_, store, Prod.ext outcome rfl⟩
  obtain ⟨found, passed, ⟨plan, existing, readBack, rfl⟩ | ⟨-, composed⟩⟩ := build_ran ran
  · exact ⟨found, passed, .inl ⟨plan, existing, readBack, rfl⟩⟩
  · exact ⟨found, passed, .inr composed⟩

/-- The writes of planning: at most one plan row, which no other of its task
shares a revision or an input hash with. -/
def PlanWrite (s : Session PlanningDb) (d : PlanningDb) : Prop :=
  d.shared.plans = s.working.shared.plans ∨ ∃ plan, d.shared.plans = s.working.shared.plans ++ [plan] ∧
    ∀ other ∈ s.working.shared.plans, other.taskId = plan.taskId →
      other.revision ≠ plan.revision ∧ other.sourceHash ≠ plan.sourceHash

theorem PlanWrite.keeps_keyed (write : PlanWrite s d) (keyed : PlansKeyed s.working.shared.plans) :
    PlansKeyed d.shared.plans := by
  rcases write with same | ⟨plan, rows, apart⟩
  · rwa [same]
  · rw [rows]
    intro a atA b atB sameTask agree
    simp only [List.mem_append, List.mem_singleton] at atA atB
    rcases atA with atA | rfl <;> rcases atB with atB | rfl
    · exact keyed a atA b atB sameTask agree
    · rcases agree with revision | hash
      · exact absurd revision (apart a atA sameTask).1
      · exact absurd hash (apart a atA sameTask).2
    · rcases agree with revision | hash
      · exact absurd revision.symm (apart b atB sameTask.symm).1
      · exact absurd hash.symm (apart b atB sameTask.symm).2
    · rfl

theorem build_writes :
    Tx.Moves (Step PlanWrite) (build env tools checks taskId policyPack actorId) := by
  have inserts : ∀ plan, Tx.Moves (Step PlanWrite) (insertPlan plan) := by
    intro plan s
    unfold insertPlan
    refine movesFrom_view ?_
    split
    · exact movesFrom_raise _
    · rename_i free
      refine movesFrom_modify (.inr ⟨plan, rfl, fun other member sameTask => ?_⟩)
      rw [Bool.not_eq_true, List.any_eq_false] at free
      have apart := free other member
      simp only [sameTask, beq_self_eq_true, Bool.true_and, Bool.or_eq_true, beq_iff_eq, not_or] at apart
      exact apart.2
  intro s
  unfold build
  refine movesFrom_guard fun _ => movesFrom_view (movesFrom_expect fun _ _ => ?_)
  refine movesFrom_guard fun _ => movesFrom_ofExcept fun _ _ => ?_
  refine movesFrom_view (movesFrom_ofExcept fun found _ => movesFrom_view ?_)
  split
  · exact movesFrom_view (moves_ofExcept _)
  · unfold compose
    refine movesFrom_view (movesFrom_ofExcept fun planned _ => movesFrom_ofExcept fun decision _ => ?_)
    refine movesFrom_utcnow fun now clock => (inserts _).then fun _ _ => movesFrom_flush ?_
    refine movesFrom_ofExcept fun reviewer _ => movesFrom_ofExcept fun secrets _ => ?_
    refine movesFrom_write (.inl rfl) (movesFrom_commit ?_)
    refine movesFrom_ofExcept fun _ _ => movesFrom_ofExcept fun _ _ => movesFrom_view (moves_ofExcept _)

theorem history_keyed (history : PlanningHistory env d e) (keyed : PlansKeyed d.shared.plans) :
    PlansKeyed e.shared.plans := by
  refine history.keeps (P := fun d => PlansKeyed d.shared.plans) (fun d supply call _ keyed => ?_) keyed
  cases call with
  | change => exact keyed
  | build tools checks taskId policyPack actorId =>
    change PlansKeyed (request (build env tools checks taskId policyPack actorId) d supply).2.shared.plans
    exact request_keeps (P := fun d => PlansKeyed d.shared.plans) (build_writes _) (fun _ _ write => write.keeps_keyed)
      keyed

end

end ExecutionPlanningService

open ExecutionPlanningService

/-- Whatever changes and builds came before, the readers refer to the plan a
build returns exactly when no plan made from its inputs is older than
another plan of the task. -/
theorem latest_plan_iff {env : Env} {tools : PlanningTools} {checks : BuildChecks} {first d e : PlanningDb}
    {supply : Supply} {taskId policyPack : String} {actorId : Option String} {result : ExecutionPlanV1}
    (keyed : PlansKeyed first.shared.plans) (history : PlanningHistory env first d)
    (built : request (build env tools checks taskId policyPack actorId) d supply = (.ok result, e)) :
    ReadersAgree tools e taskId result ↔
      ∀ found, inputs env tools d taskId policyPack = .ok found → ∀ plan ∈ d.shared.plans, plan.taskId = taskId →
        plan.sourceHash = found.hash → ∀ other ∈ d.shared.plans, other.taskId = taskId →
          other.revision ≤ plan.revision := by
  have keyedNow := history_keyed history keyed
  obtain ⟨found, passed, ⟨plan, existing, readBack, rfl⟩ | ⟨plan, composed, readBack⟩⟩ := build_ok built
  · have matches_ := List.find?_some existing
    rw [Bool.and_eq_true, beq_iff_eq, beq_iff_eq] at matches_
    have member := List.mem_of_find?_eq_some existing
    rw [readersAgree_iff readBack keyedNow member matches_.1]
    constructor
    · intro highest other passedOther row inTable ofTask sameHash
      cases Except.ok.inj (passed.symm.trans passedOther)
      rw [keyedNow row inTable plan member (ofTask.trans matches_.1.symm) (.inr (sameHash.trans matches_.2.symm))]
      exact highest
    · exact fun condition => condition found passed plan member matches_.1 matches_.2
  · have keyedAfter : PlansKeyed e.shared.plans := by
      have step := history.next (.build tools checks taskId policyPack actorId) supply trivial
      have after := history_keyed step keyed
      change PlansKeyed (request (build env tools checks taskId policyPack actorId) d supply).2.shared.plans at after
      rwa [built] at after
    have member : plan ∈ e.shared.plans := by simp [composed.rows]
    have newest : ∀ other ∈ e.shared.plans, other.taskId = taskId → other.revision ≤ plan.revision := by
      intro other atOther otherTask
      rw [composed.rows, List.mem_append, List.mem_singleton] at atOther
      rcases atOther with old | rfl
      · rw [composed.revision]
        exact (lt_nextRevision old otherTask).le
      · exact le_rfl
    have agree := (readersAgree_iff readBack keyedAfter member composed.ofTask).mpr newest
    refine iff_of_true agree fun other passedOther row inTable ofTask sameHash => ?_
    cases Except.ok.inj (passed.symm.trans passedOther)
    exact absurd sameHash (composed.apart row inTable ofTask)

namespace Sample

def planningTools : PlanningTools where
  validateContract contract := .ok ⟨contract⟩
  assess _ := (true, [])
  validateSecretRequest request := .ok ⟨"", request⟩
  buildSteps _ _ _ _ := .ok ⟨[], .null, .null⟩
  evaluatePlan _ _ := .ok ⟨true, false, false, [], .null⟩
  reviewer := .ok .null
  resolveSecret _ := .ok .null
  validatePlan _ := .ok ()

def planningStore : PlanningDb where
  shared := store .planning .pending
  taskContract _ := .obj [("title", .str "Update the parser.")]
  contexts := [⟨"context", "t", "g", .null, .null, .null⟩]
  bodies := []

def buildCall (policyPack : String) : PlanningCall :=
  .build planningTools ⟨.ok (), .ok (), .ok ()⟩ "t" policyPack none

/-- Planned once with the default pack and once with the strict one. -/
def plannedTwice : PlanningDb :=
  Path.storeAfter (PlanningCall.after env) planningStore
    [(buildCall "default", supplyOf "a"), (buildCall "strict", supplyOf "b")]

def building (policyPack : String) (d : PlanningDb) : Except Error ExecutionPlanV1 × PlanningDb :=
  request (build env planningTools ⟨.ok (), .ok (), .ok ()⟩ "t" policyPack none) d supply

end Sample

open Sample in
/-- The readers refer to the second plan of a task when it is built again. -/
theorem latest_plan_sample :
    ∃ result, (building "strict" plannedTwice).1 = .ok result ∧ result.revision = 2 ∧
      ReadersAgree planningTools (building "strict" plannedTwice).2 "t" result := by
  have returned : (building "strict" plannedTwice).1.toOption.map ExecutionPlanV1.revision = some 2 := by decide +kernel
  have newest : ∀ found ∈ (inputs env planningTools plannedTwice "t" "strict").toOption,
      ∀ plan ∈ plannedTwice.shared.plans, plan.taskId = "t" → plan.sourceHash = found.hash →
        ∀ other ∈ plannedTwice.shared.plans, other.taskId = "t" → other.revision ≤ plan.revision := by
    decide +kernel
  have history : PlanningHistory env planningStore plannedTwice := Path.of_requests (fun _ _ _ => trivial) .start
  cases ran : (building "strict" plannedTwice).1 with
  | error e =>
    rw [ran] at returned
    cases returned
  | ok result =>
    rw [ran] at returned
    have built : building "strict" plannedTwice = (.ok result, (building "strict" plannedTwice).2) := by
      rw [← ran]
    refine ⟨result, rfl, Option.some.inj returned, (latest_plan_iff ?_ history built).mpr fun found passed => ?_⟩
    · intro a inTable
      cases inTable
    · exact newest found (by rw [passed]; rfl)

open Sample in
/-- Back at the default pack, the build returns the first plan, and the readers
refer to the second. -/
theorem latest_plan_returns :
    PlanningHistory env planningStore plannedTwice ∧ ∃ result, (building "default" plannedTwice).1 = .ok result ∧
      ¬ReadersAgree planningTools (building "default" plannedTwice).2 "t" result := by
  refine ⟨Path.of_requests (fun _ _ _ => trivial) .start, ?_⟩
  have built : (building "default" plannedTwice).1.toOption.map ExecutionPlanV1.revision = some 1 := by decide +kernel
  have shown : ((get planningTools (building "default" plannedTwice).2 "t").toOption.bind id).map
      ExecutionPlanV1.revision = some 2 := by
    decide +kernel
  cases ran : (building "default" plannedTwice).1 with
  | error e =>
    rw [ran] at built
    cases built
  | ok result =>
    rw [ran] at built
    refine ⟨result, rfl, fun agree => ?_⟩
    rw [agree.latest] at shown
    have first : result.revision = 1 := Option.some.inj built
    have second : result.revision = 2 := Option.some.inj shown
    rw [first] at second
    cases second

end SacmRuntime
