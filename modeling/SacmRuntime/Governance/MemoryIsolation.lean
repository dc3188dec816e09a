import SacmRuntime.Governance.MemoryService

namespace SacmRuntime
open Session MemoryService ResourceAuthorizationService Tx Table

/-- The organization `task_context` resolves a task to. -/
def organizationOf (env : MemoryEnv) (d : GovernanceDb) (task : Task) : Option String :=
  (ResourceAuthorizationService.taskContext env.resources d task).map TenantContext.organizationId

/-- The project `task_context` resolves a task to. -/
def projectOf (env : MemoryEnv) (d : GovernanceDb) (task : Task) : Option String :=
  (ResourceAuthorizationService.taskContext env.resources d task).bind fun context => present context.projectId

inductive MemoryOp where
  | add (auth : Option AuthContext) (p : MemoryAdd)
  | search (auth : Option AuthContext) (q : MemorySearch)

def MemoryOp.after (env : MemoryEnv) (op : MemoryOp) (d : MemoryDb) (supply : Supply) : MemoryDb :=
  match op with
  | .add auth p => (request (MemoryService.add env auth p) d supply).2
  | .search auth q => (request (MemoryService.search env auth q) d supply).2

/-- The memory a task files in the repository scope or the project scope lies
under a path or a project that no task of another organization has. -/
def FilesApart (env : MemoryEnv) (d : MemoryDb) (p : MemoryAdd) : Prop :=
  ∀ task other, env.resources.shared.tasks.find p.taskId = some task → other ∈ env.resources.shared.tasks.rows →
    organizationOf env d.governance other ≠ organizationOf env d.governance task →
      (p.kind = "repository" → ∀ path, present task.targetRepoPath = some path →
        present other.targetRepoPath ≠ some path) ∧
      (p.kind = "project" → ∀ project, projectOf env d.governance task = some project →
        projectOf env d.governance other ≠ some project)

def MemoryOp.filesApart (env : MemoryEnv) (d : MemoryDb) (_supply : Supply) : MemoryOp → Prop
  | .add _ p => FilesApart env d p
  | .search .. => True

section
variable {env : MemoryEnv} {auth : Option AuthContext} {d : MemoryDb} {g : GovernanceDb} {task other : Task}
  {scope key : String}

theorem taskContext_congr {h : GovernanceDb} (same : h.projects = g.projects) (resources : Resources) (task : Task) :
    taskContext resources h task =
      taskContext resources g task := by
  unfold taskContext
  rw [same]

theorem organizationOf_congr {h : GovernanceDb} (same : h.projects = g.projects) :
    organizationOf env h = organizationOf env g := by
  funext task
  unfold organizationOf
  rw [taskContext_congr same]

theorem scopeKey_ok {context : Option TenantContext} (keyed : scopeKey task context scope = .ok key) :
    (scope = "task" ∧ key = task.id) ∨
      (scope = "project" ∧ (context.bind fun context => present context.projectId) = some key) ∨
      (scope = "organization" ∧ context.map TenantContext.organizationId = some key) ∨
      (scope = "repository" ∧ present task.targetRepoPath = some key) := by
  unfold scopeKey at keyed
  by_cases ofTask : scope = "task"
  · rw [if_pos ofTask] at keyed
    exact .inl ⟨ofTask, (Except.ok.inj keyed).symm⟩
  rw [if_neg ofTask] at keyed
  dsimp only at keyed
  by_cases ofProject : scope = "project"
  · rw [if_pos ofProject] at keyed
    cases found : (context.bind fun context => present context.projectId) with
    | none => rw [found] at keyed; cases keyed
    | some project =>
      rw [found] at keyed
      exact .inr (.inl ⟨ofProject, congrArg some (Except.ok.inj keyed)⟩)
  rw [if_neg ofProject] at keyed
  by_cases ofOrganization : scope = "organization"
  · rw [if_pos ofOrganization] at keyed
    refine .inr (.inr (.inl ⟨ofOrganization, ?_⟩))
    cases context with
    | none => cases keyed
    | some context =>
      rw [Option.bind_some] at keyed
      cases named : present (some context.organizationId) with
      | none => rw [named] at keyed; cases keyed
      | some organization =>
        rw [named] at keyed
        cases keyed
        exact (Option.filter_eq_some_iff.mp named).1
  rw [if_neg ofOrganization] at keyed
  by_cases ofRepository : scope = "repository"
  · rw [if_pos ofRepository] at keyed
    cases found : present task.targetRepoPath with
    | none => rw [found] at keyed; cases keyed
    | some path =>
      rw [found] at keyed
      exact .inr (.inr (.inr ⟨ofRepository, congrArg some (Except.ok.inj keyed)⟩))
  · rw [if_neg ofRepository] at keyed
    cases keyed

theorem scopeKey_organization {p : MemoryAdd} (apart : FilesApart env d p)
    (found : env.resources.shared.tasks.find p.taskId = some task) (among : other ∈ env.resources.shared.tasks.rows)
    (keyed : scopeKey task (taskContext env.resources d.governance task) p.kind = .ok key)
    (shared : scopeKey other (taskContext env.resources d.governance other) p.kind =
      .ok key) : organizationOf env d.governance other = organizationOf env d.governance task := by
  by_contra different
  obtain ⟨ofPath, ofProject⟩ := apart task other found among different
  rcases scopeKey_ok keyed with ⟨kind, first⟩ | ⟨kind, first⟩ | ⟨kind, first⟩ | ⟨kind, first⟩
  all_goals
    rcases scopeKey_ok shared with ⟨again, second⟩ | ⟨again, second⟩ | ⟨again, second⟩ | ⟨again, second⟩
    all_goals try exact absurd (kind.symm.trans again) (by decide)
  · have same : task = other := Option.some.inj
      ((find_of_mem (find_mem found)).symm.trans
        ((congrArg _ (first.symm.trans second)).trans (find_of_mem among)))
    exact different (by rw [same])
  · exact ofProject kind key first second
  · exact different (second.trans first.symm)
  · exact ofPath kind key first second

end

section Projects
variable {env : GovernanceEnv} {auth : Option AuthContext} {organizationId actorId permission resourceType : String}
  {projectId resourceId : Option String}

abbrev ProjectsKept (s : Session GovernanceDb) (d : GovernanceDb) : Prop := d.projects = s.working.projects

theorem record_projects {entry : AuditEntry} :
    Tx.Moves (Step ProjectsKept) (TenantAuditService.record env auth entry) := by
  intro s
  unfold TenantAuditService.record SIEMService.markPending
  refine movesFrom_view (movesFrom_expect fun organization _ => movesFrom_view (movesFrom_view ?_))
  refine movesFrom_utcnow fun createdAt _ => movesFrom_uuid4 fun id _ => movesFrom_write rfl (movesFrom_commit ?_)
  refine Tx.MovesFrom.bind (movesFrom_view (movesFrom_ite (fun _ => ?_) fun _ => movesFrom_pure _))
    fun _ _ => movesFrom_pure _
  exact movesFrom_write rfl (moves_commit _)

theorem requirePermission_projects : Tx.Moves (Step ProjectsKept) (TenancyService.requirePermission env auth
    organizationId actorId permission projectId resourceType resourceId) := by
  intro s
  unfold TenancyService.requirePermission
  obtain ⟨found, looked⟩ := principal_run organizationId actorId s
  refine Tx.MovesFrom.bind ?_ fun principal _ => record_projects.then fun _ t => ?_
  · unfold Tx.MovesFrom
    rw [looked]
    exact .single (.draw _ s.uuids s.tokens)
  · split
    · exact movesFrom_pure _
    · exact movesFrom_raise _

theorem requireTask_projects {resources : Resources} {taskId : String} : Tx.Moves (Step ProjectsKept)
    (requireTask env auth resources taskId actorId permission) := by
  intro s
  unfold requireTask
  refine movesFrom_expect fun task _ => movesFrom_view ?_
  split
  · exact movesFrom_guard fun _ => movesFrom_pure _
  · exact requirePermission_projects.then fun _ _ => movesFrom_pure _

end Projects

section Authorized
variable {env : MemoryEnv} {auth : Option AuthContext} {s t : Session MemoryDb} {taskId permission : String}
  {actorId : Option String} {task : Task}

theorem authorize_ok (passed : authorize env auth taskId actorId permission s = (.ok (some task), t)) :
    env.resources.shared.tasks.find taskId = some task := by
  unfold authorize at passed
  cases actorId with
  | some actor =>
    obtain ⟨found, mid, ran, rest⟩ := bind_ok passed
    cases rest
    obtain ⟨after, checked⟩ := onPart_ok ran
    exact (requireTask_ok checked).1
  | none =>
    dsimp only at passed
    by_cases production : env.resources.production = true
    · rw [if_pos production] at passed
      cases passed
    · rw [if_neg production] at passed
      exact Except.ok.inj (congrArg Prod.fst passed)

theorem authorize_keeps {projects : Table Project} {Q : Table MemoryChunk → Prop}
    (holds : Everywhere (fun d => d.governance.projects = projects ∧ Q d.chunks) s) :
    Everywhere (fun d => d.governance.projects = projects ∧ Q d.chunks)
      (authorize env auth taskId actorId permission s).2 := by
  unfold authorize
  cases actorId with
  | none =>
    dsimp only
    split <;> exact holds
  | some actor =>
    dsimp only
    rw [bind_pure_state]
    refine onPart_everywhere (Q := fun d => d.projects = projects) (fun s known => ?_) (fun d kept => kept.1)
      (fun d e kept same => ⟨same, kept.2⟩) holds
    exact (requireTask_projects s).keeps
      (fun _ _ step => step.everywhere fun _ _ kept same => kept.trans same) known

end Authorized

/-- What an addition under a key writes: a row of that key is changed, or a
chunk of the task is filed there. -/
inductive MemoryWrite (p : MemoryAdd) (key : String) : Session MemoryDb → MemoryDb → Prop
  | change {s : Session MemoryDb} {row : MemoryChunk} (f : MemoryChunk → MemoryChunk)
      (found : s.working.chunks.find row.id = some row) (kind : row.kind = p.kind) (under : row.scopeKey = key)
      (keeps : ∀ row, (f row).id = row.id ∧ (f row).taskId = row.taskId ∧ (f row).kind = row.kind ∧
        (f row).scopeKey = row.scopeKey) :
      MemoryWrite p key s { s.working with chunks := s.working.chunks.update row.id f }
  | insert {s : Session MemoryDb} {chunk : MemoryChunk} {chunks : Table MemoryChunk}
      (inserted : s.working.chunks.insert? chunk = some chunks) (ofTask : chunk.taskId = p.taskId)
      (kind : chunk.kind = p.kind) (under : chunk.scopeKey = key) :
      MemoryWrite p key s { s.working with chunks := chunks }

section Writes
variable {env : MemoryEnv} {auth : Option AuthContext} {s : Session MemoryDb} {p : MemoryAdd} {key : String}

theorem store_writes {chunk : MemoryChunk} (ofTask : chunk.taskId = p.taskId) (kind : chunk.kind = p.kind)
    (under : chunk.scopeKey = key) : Tx.Moves (Step (MemoryWrite p key)) (store p key chunk) := by
  have filed : Tx.Moves (Step (MemoryWrite p key)) (do
      let inserted ← view fun d => d.chunks.insert? chunk
      let chunks ← expect (Error.integrityError "memory_chunks.id") inserted
      modify fun d => { d with chunks := chunks }
      commit
      return chunk) := by
    intro s
    refine movesFrom_view (movesFrom_expect fun chunks inserted => ?_)
    exact movesFrom_write (.insert inserted ofTask kind under) (movesFrom_commit (movesFrom_pure _))
  intro s
  unfold store
  cases present p.supersedesId with
  | none => exact filed s
  | some previousId =>
    refine movesFrom_view (movesFrom_expect fun previous found => ?_)
    refine movesFrom_ite (fun _ => ?_) fun same => movesFrom_utcnow fun now _ => ?_
    · exact (movesFrom_raise _).bind fun _ _ => filed _
    · obtain rfl : previous.id = previousId := find_key found
      obtain ⟨sameKind, sameKey⟩ := not_or.mp same
      refine movesFrom_write ?_ (filed _)
      exact .change (fun row => { row with supersededAt := some now }) found (not_not.mp sameKind) (not_not.mp sameKey)
        fun _ => ⟨rfl, rfl, rfl, rfl⟩

theorem add_keeps {I : MemoryDb → Prop}
    (checked : Everywhere I (authorize env auth p.taskId p.actorId "tasks.write" s).2)
    (writes : ∀ task key, env.resources.shared.tasks.find p.taskId = some task → scopeKey task
      (taskContext env.resources
        (authorize env auth p.taskId p.actorId "tasks.write" s).2.working.governance task) p.kind = .ok key →
      ∀ t d, MemoryWrite p key t d → I t.working → I d) :
    Everywhere I (add env auth p s).2 := by
  unfold add
  rcases run : authorize env auth p.taskId p.actorId "tasks.write" s with ⟨result, mid⟩
  rw [run] at checked writes
  cases result with
  | error raised =>
    rw [bind_run_error _ run]
    exact checked
  | ok found =>
    rw [bind_run_ok _ run]
    cases found with
    | none => exact checked
    | some task =>
      rw [bind_expect_some, bind_view]
      have atTask := authorize_ok run
      refine Tx.MovesFrom.keeps (A := Step fun t d => ∃ key, scopeKey task (taskContext
        env.resources mid.working.governance task) p.kind = .ok key ∧ MemoryWrite p key t d) ?_
        (fun _ _ step => step.everywhere ?_) checked
      · refine movesFrom_guard fun _ => movesFrom_ofExcept fun key keyed => ?_
        refine movesFrom_guard fun _ => movesFrom_utcnow fun now _ => ?_
        refine movesFrom_view ?_
        split
        · rename_i row first
          have member := List.mem_of_getLast? first
          obtain ⟨inTable, matched⟩ := List.mem_filter.mp (mem_orderBy.mp member)
          simp only [Bool.and_eq_true, beq_iff_eq] at matched
          refine movesFrom_write ⟨key, keyed, ?_⟩ (movesFrom_commit (movesFrom_pure _))
          exact .change _ (find_of_mem inTable) matched.1.1.1 matched.1.1.2 fun _ => ⟨rfl, rfl, rfl, rfl⟩
        · refine movesFrom_uuid4 fun id _ => movesFrom_utcnow fun _ _ => ?_
          exact ((store_writes rfl rfl rfl).mono fun _ _ step => step.mono fun _ _ write => ⟨key, keyed, write⟩) _
      · rintro t d ⟨key, keyed, write⟩ holds
        exact writes task key atTask keyed t d write holds

end Writes

section Search
variable {env : MemoryEnv} {auth : Option AuthContext} {q : MemorySearch} {s t : Session MemoryDb} {task : Task}
  {context : Option TenantContext} {chunk : MemoryChunk} {chunks : List MemoryChunk}

theorem mem_ranked {query : String} (member : chunk ∈ ranked env query chunks) : chunk ∈ chunks := by
  unfold ranked at member
  dsimp only at member
  by_cases vectors : env.postgresql = true
  · rw [if_pos vectors] at member
    exact (List.mem_filter.mp ((List.mem_insertionSort _).mp member)).1
  · rw [if_neg vectors] at member
    exact (List.mem_insertionSort _).mp member

theorem mem_scopeFilters {scopes : Option (List String)} {scope key : String}
    (member : (scope, key) ∈ scopeFilters task context scopes) : scopeKey task context scope = .ok key := by
  have ofTask : scopeKey task context "task" = .ok task.id := rfl
  unfold scopeFilters at member
  dsimp only at member
  split at member
  · cases List.mem_singleton.mp member
    exact ofTask
  · obtain ⟨asked, -, found⟩ := List.mem_filterMap.mp member
    cases keyed : scopeKey task context asked with
    | error raised => rw [keyed] at found; cases found
    | ok own =>
      rw [keyed] at found
      cases found
      exact keyed

theorem search_ok (ran : search env auth q s = (.ok chunks, t)) (member : chunk ∈ chunks) :
    ∃ task, env.resources.shared.tasks.find q.taskId = some task ∧
      chunk ∈ (authorize env auth q.taskId q.actorId "tasks.read" s).2.working.chunks.rows ∧
      scopeKey task (taskContext env.resources
        (authorize env auth q.taskId q.actorId "tasks.read" s).2.working.governance task) chunk.kind =
          .ok chunk.scopeKey := by
  unfold search at ran
  obtain ⟨found, mid, passed, rest⟩ := bind_ok ran
  rw [passed]
  cases found with
  | none => cases rest; cases member
  | some task =>
    dsimp only at rest
    by_cases few : q.topK < 1
    · rw [if_pos few] at rest
      cases rest
      cases member
    · rw [if_neg few, bind_view, bind_utcnow] at rest
      cases rest
      obtain ⟨inTable, matched⟩ := List.mem_filter.mp (mem_ranked (List.mem_of_mem_take member))
      simp only [Bool.and_eq_true, decide_eq_true_eq] at matched
      exact ⟨task, authorize_ok passed, inTable, mem_scopeFilters matched.1⟩

theorem search_keeps {I : MemoryDb → Prop}
    (checked : Everywhere I (authorize env auth q.taskId q.actorId "tasks.read" s).2) :
    Everywhere I (search env auth q s).2 := by
  unfold search
  rcases run : authorize env auth q.taskId q.actorId "tasks.read" s with ⟨result, mid⟩
  rw [run] at checked
  cases result with
  | error raised =>
    rw [bind_run_error _ run]
    exact checked
  | ok found =>
    rw [bind_run_ok _ run]
    cases found with
    | none => exact checked
    | some task =>
      dsimp only
      split
      · exact checked
      · exact ⟨checked.committed, checked.flushed, checked.working⟩

end Search

/-- The key belongs to the organization of the task: no task of another one has it. -/
def OwnKey (env : MemoryEnv) (g : GovernanceDb) (task : Task) (scope key : String) : Prop :=
  ∀ other ∈ env.resources.shared.tasks.rows,
    scopeKey other (ResourceAuthorizationService.taskContext env.resources g other) scope = .ok key →
      organizationOf env g other = organizationOf env g task

/-- Every chunk lies under a key of the organization of its task. -/
def FiledApart (env : MemoryEnv) (g : GovernanceDb) (chunks : Table MemoryChunk) : Prop :=
  ∀ chunk ∈ chunks.rows, ∃ adder, env.resources.shared.tasks.find chunk.taskId = some adder ∧
    OwnKey env g adder chunk.kind chunk.scopeKey

section Isolation
variable {env : MemoryEnv} {auth : Option AuthContext} {g : GovernanceDb} {d e : MemoryDb} {p : MemoryAdd}
  {task : Task} {key : String} {t : Session MemoryDb}

theorem MemoryWrite.filedApart (write : MemoryWrite p key t e) (owned : OwnKey env g task p.kind key)
    (found : env.resources.shared.tasks.find p.taskId = some task) (filed : FiledApart env g t.working.chunks) :
    FiledApart env g e.chunks := by
  intro chunk member
  cases write with
  | @change row f atRow kind under keeps =>
    rcases mem_update member with old | ⟨old, atOld, rfl⟩
    · exact filed chunk old
    · obtain ⟨sameId, sameTask, sameKind, sameKey⟩ := keeps old
      rw [rewriteRow_of_keeps sameId, sameTask, sameKind, sameKey]
      exact filed old (find_mem atOld)
  | @insert new chunks inserted ofTask kind under =>
    rcases (mem_insert? inserted).mp member with old | rfl
    · exact filed chunk old
    · refine ⟨task, by rw [ofTask, found], ?_⟩
      rw [kind, under]
      exact owned

theorem MemoryWrite.leaves (write : MemoryWrite p key t e) {chunk : MemoryChunk}
    (atChunk : t.working.chunks.find chunk.id = some chunk) (apart : chunk.kind = p.kind → chunk.scopeKey ≠ key) :
    e.chunks.find chunk.id = some chunk := by
  cases write with
  | @change row f atRow kind under keeps =>
    have other : chunk.id ≠ row.id := by
      intro same
      obtain rfl : chunk = row := Option.some.inj (atChunk.symm.trans (same ▸ atRow))
      exact apart kind under
    exact (find_update_ne other).trans atChunk
  | @insert new chunks inserted ofTask kind under => exact find_insert?_of_some inserted atChunk

theorem MemoryWrite.governance (write : MemoryWrite p key t e) : e.governance = t.working.governance := by
  cases write <;> rfl

/-- The projects are those of the beginning, and the memory is filed apart. -/
def KeptApart (env : MemoryEnv) (g : GovernanceDb) (d : MemoryDb) : Prop :=
  d.governance.projects = g.projects ∧ FiledApart env g d.chunks

theorem FilesApart.ownKey (apart : FilesApart env d p) (same : d.governance.projects = g.projects)
    (found : env.resources.shared.tasks.find p.taskId = some task)
    (keyed : scopeKey task (taskContext env.resources g task) p.kind = .ok key) :
    OwnKey env g task p.kind key := by
  intro other among shared
  rw [← taskContext_congr same] at keyed shared
  rw [← organizationOf_congr same]
  exact scopeKey_organization apart found among keyed shared

theorem MemoryOp.keepsApart (op : MemoryOp) (supply : Supply) (condition : op.filesApart env d supply)
    (kept : KeptApart env g d) : KeptApart env g (op.after env d supply) := by
  have first : Everywhere (KeptApart env g) (start d supply) := start_everywhere supply kept
  cases op with
  | search auth q => exact (search_keeps (authorize_keeps first)).committed
  | add auth p =>
    have checked : Everywhere (KeptApart env g)
        (authorize env auth p.taskId p.actorId "tasks.write" (start d supply)).2 := authorize_keeps first
    refine (add_keeps checked ?_).committed
    intro task key found keyed t e write before
    rw [taskContext_congr checked.working.1] at keyed
    refine ⟨?_, write.filedApart (FilesApart.ownKey condition kept.1 found keyed) found before.2⟩
    rw [write.governance]
    exact before.1

theorem add_leaves {supply : Supply} {chunk : MemoryChunk} {adder : Task} (kept : KeptApart env g d)
    (found : env.resources.shared.tasks.find p.taskId = some task)
    (atChunk : d.chunks.find chunk.id = some chunk)
    (atAdder : env.resources.shared.tasks.find chunk.taskId = some adder)
    (foreign : organizationOf env g adder ≠ organizationOf env g task) :
    (request (add env auth p) d supply).2.chunks.find chunk.id = some chunk := by
  obtain ⟨known, atKnown, owned⟩ := kept.2 chunk (find_mem atChunk)
  obtain rfl : known = adder := Option.some.inj (atKnown.symm.trans atAdder)
  have first : Everywhere (fun d => d.governance.projects = g.projects ∧ d.chunks.find chunk.id = some chunk)
      (start d supply) := start_everywhere supply ⟨kept.1, atChunk⟩
  have checked : Everywhere (fun d => d.governance.projects = g.projects ∧ d.chunks.find chunk.id = some chunk)
      (authorize env auth p.taskId p.actorId "tasks.write" (start d supply)).2 :=
    authorize_keeps (Q := fun chunks => chunks.find chunk.id = some chunk) first
  refine (add_keeps checked ?_).committed.2
  intro same key atSame keyed t e write before
  obtain rfl : same = task := Option.some.inj (atSame.symm.trans found)
  rw [taskContext_congr checked.working.1] at keyed
  refine ⟨?_, write.leaves before.2 fun kind under => ?_⟩
  · rw [write.governance]
    exact before.1
  · rw [← kind, ← under] at keyed
    exact foreign (owned same (find_mem found) keyed).symm

/-- Memory stays with the organization of the task it was added for: a search
returns chunks of the organization of its task, and an addition leaves the
chunks of the other organizations as they are. -/
structure MemoryIsolated (env : MemoryEnv) (d : MemoryDb) : Prop where
  seen : ∀ auth q supply chunks, (request (search env auth q) d supply).1 = .ok chunks → ∀ chunk ∈ chunks,
    ∃ adder searcher, env.resources.shared.tasks.find chunk.taskId = some adder ∧
      env.resources.shared.tasks.find q.taskId = some searcher ∧
      organizationOf env d.governance adder = organizationOf env d.governance searcher
  left : ∀ auth p supply task, env.resources.shared.tasks.find p.taskId = some task →
    ∀ chunk adder, d.chunks.find chunk.id = some chunk →
      env.resources.shared.tasks.find chunk.taskId = some adder →
      organizationOf env d.governance adder ≠ organizationOf env d.governance task →
      (request (add env auth p) d supply).2.chunks.find chunk.id = some chunk

/-- As long as every addition files apart from the other organizations, memory
never crosses from one organization to another. -/
theorem memory_isolated {g : GovernanceDb} {d : MemoryDb}
    (run : Path (MemoryOp.after env) (fun d supply op => op.filesApart env d supply) ⟨g, .empty⟩ d) :
    MemoryIsolated env d := by
  have kept : KeptApart env g d := by
    refine run.keeps (fun d supply op condition kept => op.keepsApart supply condition kept) ⟨rfl, ?_⟩
    intro chunk member
    cases member
  have same : organizationOf env d.governance = organizationOf env g := organizationOf_congr kept.1
  constructor
  · intro auth q supply chunks returned chunk member
    have checked : Everywhere (KeptApart env g)
        (authorize env auth q.taskId q.actorId "tasks.read" (start d supply)).2 :=
      authorize_keeps (start_everywhere supply kept)
    obtain ⟨searcher, found, stored, keyed⟩ := search_ok (Prod.ext returned rfl) member
    obtain ⟨adder, atAdder, owned⟩ := checked.working.2 chunk stored
    rw [taskContext_congr checked.working.1] at keyed
    refine ⟨adder, searcher, atAdder, found, ?_⟩
    rw [same]
    exact (owned searcher (Table.find_mem found) keyed).symm
  · intro auth p supply task found chunk adder atChunk atAdder foreign
    rw [same] at foreign
    exact add_leaves kept found atChunk atAdder foreign

end Isolation

namespace GovernanceSample

def tenantTask (id organizationId path : String) : Task :=
  { Sample.task with id := id, organizationId := some organizationId, targetRepoPath := some path }

/-- Tasks of two organizations, in repositories at the given paths. -/
def twoTenants (first second : String) : MemoryEnv where
  sha256 := String.ofList
  embed := fun _ => []
  cosineDistance := fun _ _ => 0
  postgresql := false
  governance := env
  resources :=
    { shared := { tasks := .ofRows [tenantTask "a" "o" first, tenantTask "b" "q" second] }
      taskContract := fun _ => .null
      runCreatedAt := fun _ => 0
      production := false }

/-- A convention of the repository, noted for the first task. -/
def noted : MemoryOp := .add none { taskId := "a", content := "convention", kind := "repository" }

end GovernanceSample

open GovernanceSample in
/-- Repositories at different paths: the note stays with its organization. -/
theorem memory_isolated_sample : MemoryIsolated (twoTenants "/app" "/shop")
    (noted.after (twoTenants "/app" "/shop") ⟨tenant none, .empty⟩ (supplyOf "e" 0)) := by
  refine memory_isolated (g := tenant none) (.next .start noted (supplyOf "e" 0) ?_)
  intro task other found among different
  refine ⟨fun _ path named shared => different ?_, fun kind => absurd kind (by decide)⟩
  obtain rfl : tenantTask "a" "o" "/app" = task := Option.some.inj found
  rcases List.mem_cons.mp among with rfl | last
  · rfl
  · cases List.mem_singleton.mp last
    exact absurd (named.trans shared.symm) (by decide)

open GovernanceSample in
/-- Two organizations whose repositories have the same path: the second task
is shown the note of the first. -/
theorem shared_path_crosses :
    let env := twoTenants "/app" "/app"
    let d := noted.after env ⟨tenant none, .empty⟩ (supplyOf "e" 0)
    Path (MemoryOp.after env) (fun _ _ _ => True) ⟨tenant none, .empty⟩ d ∧ ¬MemoryIsolated env d := by
  intro env d
  refine ⟨.next .start noted (supplyOf "e" 0) trivial, fun isolated => ?_⟩
  have shown : (request (search env none { taskId := "b", query := "convention" }) d
      (supplyOf "e" 1)).1.toOption.map (List.map MemoryChunk.taskId) = some ["a"] := by decide +kernel
  cases returned : (request (search env none { taskId := "b", query := "convention" }) d (supplyOf "e" 1)).1 with
  | error raised =>
    rw [returned] at shown
    cases shown
  | ok chunks =>
    rw [returned] at shown
    obtain ⟨chunk, rest, rfl, ofFirst, -⟩ := List.map_eq_cons_iff.mp (Option.some.inj shown)
    obtain ⟨adder, searcher, atAdder, atSearcher, same⟩ :=
      isolated.seen none _ _ _ returned chunk (by simp)
    rw [ofFirst] at atAdder
    obtain rfl : tenantTask "a" "o" "/app" = adder := Option.some.inj atAdder
    obtain rfl : tenantTask "b" "q" "/app" = searcher := Option.some.inj atSearcher
    exact absurd same (by decide +kernel)

end SacmRuntime
