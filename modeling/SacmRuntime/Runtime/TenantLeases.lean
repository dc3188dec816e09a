import SacmRuntime.Runtime.Enrollment
import SacmRuntime.Runtime.IdentityRotation

namespace SacmRuntime
open Session ExecutionPlaneService Tx Table

def ExecutorRegistration.tenancy (executor : ExecutorRegistration) : Option String × Option String × Option String :=
  (executor.projectId, executor.organizationId, executor.customerDeploymentId)

def ExecutorRegistration.EnrolledFor (executor : ExecutorRegistration) (scope : ExecutorScope) : Prop :=
  executor.tenancy = (scope.projectId, scope.organizationId, scope.customerDeploymentId)

/-- The scope does not name an organization or a project by an empty identifier. -/
structure ExecutorScope.Named (scope : ExecutorScope) : Prop where
  organization : scope.organizationId ≠ some ""
  project : scope.projectId ≠ some ""

/-- A job as `schedule` queues it for its run. -/
structure ExecutionJob.OwnedIn (d : Db) (job : ExecutionJob) : Prop where
  run : ∃ run, d.run? job.runId = some run ∧ job.projectId = run.projectId
  project : ∀ projectId, job.projectId = some projectId →
    ∃ project, d.projects.find projectId = some project ∧ job.organizationId = some project.organizationId
  bare : job.projectId = none → job.organizationId = none ∧ job.customerDeploymentId.isSome = true

/-- The executor was enrolled for the project of the run, for the organization
of that project, or for the customer deployment of a run without a project. -/
def ServesRun (d : Db) (executor : ExecutorRegistration) (job : ExecutionJob) (run : Run) : Prop :=
  match run.projectId with
  | some projectId => ∃ project, d.projects.find projectId = some project ∧
      (executor.projectId = some projectId ∨ executor.organizationId = some project.organizationId)
  | none => executor.customerDeploymentId.isSome = true ∧ executor.customerDeploymentId = job.customerDeploymentId

structure LeasedWithin (d : Db) (executor : ExecutorRegistration) (job : ExecutionJob) (run : Run) : Prop where
  active : executor.status = .active
  capabilities : ∀ capability ∈ job.requiredCapabilities, capability ∈ executor.capabilities
  labels : ∀ label ∈ job.requiredLabels,
    (executor.labels.find? fun entry => entry.1 == label.1).map Prod.snd = some label.2
  serves : ServesRun d executor job run
  bare : executor.customerDeploymentId.isSome = true → run.projectId = none

/-- No executor of a bare customer deployment could be taken for one of a project's job. -/
def DeploymentsApart (d : Db) : Prop :=
  ∀ executor ∈ d.executors.rows, ∀ job ∈ d.jobs.rows, ∀ deployment, executor.customerDeploymentId = some deployment →
    job.projectId ≠ none → job.customerDeploymentId ≠ some deployment

/-- What a store holds as long as every request keeps apart. -/
structure Tenanted (d : EnrollmentDb) : Prop where
  jobs : ∀ job ∈ d.plane.jobs.rows, job.OwnedIn d.plane
  tokens : ∀ token ∈ d.tokens.rows, token.scope.Named
  executors : ∀ executor ∈ d.plane.executors.rows, ∃ scope, executor.EnrolledFor scope ∧ scope.Named
  apart : DeploymentsApart d.plane

/-- A job of a project does not carry a customer deployment for which an
executor is enrolled, and no scope is named by an empty identifier. -/
def TenantOperation.keepsApart (env : EnrollmentEnv) (d : EnrollmentDb) (_supply : Supply) : TenantOperation → Prop
  | issueEnrollmentToken _ p actor => (∃ key, authorizeScopeAdmin env p.scope actor = .ok key) →
      env.references p.scope = .ok () → p.scope.Named
  | enroll _ p => ∀ token ∈ d.tokens.rows, token.tokenHash = tokenHash env.toEnv "enrollment" p.enrollmentToken →
      ∀ deployment, token.scope.customerDeploymentId = some deployment →
        ∀ job ∈ d.plane.jobs.rows, job.projectId ≠ none → job.customerDeploymentId ≠ some deployment
  | schedule runId _ _ _ _ _ _ customerDeploymentId => ∀ run, d.plane.run? runId = some run → run.projectId ≠ none →
      ∀ deployment, customerDeploymentId = some deployment →
        ∀ executor ∈ d.plane.executors.rows, executor.customerDeploymentId ≠ some deployment
  | acquireLease .. => True

section Scopes
variable {scope : ExecutorScope} {executor : ExecutorRegistration} {job : ExecutionJob} {d : Db}

theorem ExecutorScope.cases_ (scope : ExecutorScope) :
    (∃ projectId, scope.projectId = some projectId ∧ scope.organizationId = none ∧ scope.customerDeploymentId = none) ∨
      (∃ organizationId, scope.organizationId = some organizationId ∧ scope.projectId = none ∧
        scope.customerDeploymentId = none) ∨
      ∃ deployment, scope.customerDeploymentId = some deployment ∧ scope.projectId = none ∧
        scope.organizationId = none := by
  obtain ⟨organizationId, projectId, customerDeploymentId, one⟩ := scope
  cases organizationId <;> cases projectId <;> cases customerDeploymentId <;> simp at one ⊢

theorem serves_of_inScope {run : Run} (owned : job.OwnedIn d) (enrolled : executor.EnrolledFor scope)
    (named : scope.Named)
    (apart : ∀ deployment, executor.customerDeploymentId = some deployment → job.projectId ≠ none →
      job.customerDeploymentId ≠ some deployment)
    (atRun : d.run? job.runId = some run) (inScope : job.inScope executor = true) :
    ServesRun d executor job run ∧ (executor.customerDeploymentId.isSome = true → run.projectId = none) := by
  have sameProject : job.projectId = run.projectId := by
    obtain ⟨found, here, same⟩ := owned.run
    rw [atRun] at here
    rw [same, Option.some.inj here]
  obtain ⟨ofProject, ofOrganization, ofDeployment⟩ : executor.projectId = scope.projectId ∧
      executor.organizationId = scope.organizationId ∧ executor.customerDeploymentId = scope.customerDeploymentId := by
    simpa [ExecutorRegistration.EnrolledFor, ExecutorRegistration.tenancy] using enrolled
  unfold ExecutionJob.inScope at inScope
  unfold ServesRun
  rcases scope.cases_ with ⟨projectId, isProject, noOrganization, noDeployment⟩ |
    ⟨organizationId, isOrganization, noProject, noDeployment⟩ | ⟨deployment, isDeployment, noProject, noOrganization⟩
  · have nonempty : projectId ≠ "" := fun empty => named.project (empty ▸ isProject)
    rw [ofProject, isProject] at inScope ⊢
    simp only [Option.any_some, ne_eq, decide_eq_true_eq, nonempty, not_false_eq_true, if_true] at inScope
    obtain ⟨project, atProject, -⟩ := owned.project projectId inScope
    rw [← sameProject, inScope]
    refine ⟨⟨project, atProject, .inl rfl⟩, fun bare => ?_⟩
    rw [ofDeployment, noDeployment] at bare
    cases bare
  · have nonempty : organizationId ≠ "" := fun empty => named.organization (empty ▸ isOrganization)
    rw [ofProject, noProject, ofOrganization, isOrganization] at inScope
    simp only [Option.any_none, Bool.false_eq_true, if_false, Option.any_some, ne_eq, decide_eq_true_eq, nonempty,
      not_false_eq_true, if_true] at inScope
    rw [ofOrganization, isOrganization, ofDeployment, noDeployment]
    cases ofJob : job.projectId with
    | none =>
      rw [(owned.bare ofJob).1] at inScope
      cases inScope
    | some projectId =>
      obtain ⟨project, atProject, same⟩ := owned.project projectId ofJob
      rw [← sameProject, ofJob]
      refine ⟨⟨project, atProject, .inr (inScope.symm.trans same)⟩, fun bare => ?_⟩
      cases bare
  · rw [ofProject, noProject, ofOrganization, noOrganization, ofDeployment, isDeployment] at inScope
    simp only [Option.any_none, Bool.false_eq_true, if_false, decide_eq_true_eq] at inScope
    have bare : job.projectId = none := by
      by_contra ofJob
      exact apart deployment (ofDeployment.trans isDeployment) ofJob inScope
    rw [← sameProject, bare, ofDeployment, isDeployment, inScope]
    exact ⟨⟨rfl, rfl⟩, fun _ => rfl⟩

end Scopes

/-- The runs and projects are as they were, and every job and executor is of
the tenant of an old one. -/
structure SameTenancy (d e : Db) : Prop where
  projects : e.projects = d.projects
  runs : e.runs = d.runs
  jobs : ∀ job ∈ e.jobs.rows, ∃ old ∈ d.jobs.rows, job.runId = old.runId ∧ job.tenancy = old.tenancy
  executors : ∀ executor ∈ e.executors.rows, ∃ old ∈ d.executors.rows, executor.tenancy = old.tenancy

namespace SameTenancy
variable {d e f : Db}

theorem refl (d : Db) : SameTenancy d d :=
  ⟨rfl, rfl, fun job member => ⟨job, member, rfl, rfl⟩, fun executor member => ⟨executor, member, rfl⟩⟩

theorem trans (first : SameTenancy d e) (second : SameTenancy e f) : SameTenancy d f where
  projects := second.projects.trans first.projects
  runs := second.runs.trans first.runs
  jobs job member := by
    obtain ⟨mid, inMid, ofRun, tenancy⟩ := second.jobs job member
    obtain ⟨old, inOld, ofOldRun, oldTenancy⟩ := first.jobs mid inMid
    exact ⟨old, inOld, ofRun.trans ofOldRun, tenancy.trans oldTenancy⟩
  executors executor member := by
    obtain ⟨mid, inMid, tenancy⟩ := second.executors executor member
    obtain ⟨old, inOld, oldTenancy⟩ := first.executors mid inMid
    exact ⟨old, inOld, tenancy.trans oldTenancy⟩

theorem of_update {ρ : Type} [Keyed ρ] {t : Table ρ} {id : String} {f : ρ → ρ} {R : ρ → ρ → Prop}
    (same : ∀ row, R row row) (rewritten : ∀ row, R (f row) row) :
    ∀ row ∈ (t.update id f).rows, ∃ old ∈ t.rows, R row old := by
  intro row member
  rcases mem_update member with old | ⟨old, found, rfl⟩
  · exact ⟨row, old, same row⟩
  · refine ⟨old, find_mem found, ?_⟩
    unfold rewriteRow
    split
    · exact rewritten old
    · exact same old

theorem updateJob {id : String} {f : ExecutionJob → ExecutionJob} (ofRun : ∀ job, (f job).runId = job.runId)
    (tenancy : ∀ job, (f job).tenancy = job.tenancy) : SameTenancy d { d with jobs := d.jobs.update id f } where
  projects := rfl
  runs := rfl
  jobs := of_update (R := fun job old : ExecutionJob => job.runId = old.runId ∧ job.tenancy = old.tenancy)
    (fun _ => ⟨rfl, rfl⟩)
    fun job => ⟨ofRun job, tenancy job⟩
  executors executor member := ⟨executor, member, rfl⟩

end SameTenancy

/-- Writes that leave whose the jobs and the executors are. -/
abbrev KeepsTenants {α : Type} (m : Service α) : Prop := Tx.Moves (Step fun s e => SameTenancy s.working e) m

section Leases
variable {env : Env} {d : Db} {executor : ExecutorRegistration} {candidates : List ExecutionJob} {now seconds : Nat}

theorem selectJobs_keepsTenants (q : ExecutionJob → Bool) : KeepsTenants (selectJobs env q) := by
  unfold selectJobs autoflush
  exact (moves_ite moves_flush fun _ => movesFrom_pure _).bind fun _ _ => .refl

theorem existingJob_keepsTenants (jobId : String) : KeepsTenants (existingJob jobId) := by
  intro s
  unfold existingJob
  exact movesFrom_view (moves_expect s)

theorem releaseOrExpire_keepsTenants (jobId reason : String) : KeepsTenants (releaseOrExpire jobId now reason) := by
  intro s
  unfold releaseOrExpire updateJob revokeForJob
  refine movesFrom_write (.updateJob (fun _ => rfl) fun _ => rfl) (movesFrom_utcnow fun _ _ => movesFrom_modify ?_)
  exact ⟨rfl, rfl, fun job member => ⟨job, member, rfl, rfl⟩, fun executor member => ⟨executor, member, rfl⟩⟩

theorem claim_keepsTenants (job : ExecutionJob) (token : String) :
    KeepsTenants (claim env executor now seconds job token) := by
  intro s
  unfold claim updateJob updateExecutor
  refine movesFrom_write (.updateJob (fun _ => rfl) fun _ => rfl) (movesFrom_write ?_ (movesFrom_commit ?_))
  · refine ⟨rfl, rfl, fun job member => ⟨job, member, rfl, rfl⟩, ?_⟩
    exact SameTenancy.of_update (R := fun executor old : ExecutorRegistration => executor.tenancy = old.tenancy)
      (fun _ => rfl) fun _ => rfl
  · exact (existingJob_keepsTenants job.id _).bind fun _ _ => movesFrom_pure _

theorem claimFirst_keepsTenants : KeepsTenants (claimFirst env executor now seconds candidates) := by
  induction candidates with
  | nil => exact fun _ => movesFrom_commit (movesFrom_pure _)
  | cons candidate rest ih =>
    unfold claimFirst
    refine moves_ite ih (moves_tokenUrlsafe.bind fun token => ?_)
    exact fun s => movesFrom_read (moves_ite ih (claim_keepsTenants candidate token) s)

theorem acquireLease_keepsTenants (executorId : String) (leaseSeconds : Option Nat) :
    KeepsTenants (acquireLease env executorId leaseSeconds) := by
  intro s
  unfold acquireLease existingExecutor
  refine Tx.MovesFrom.bind (movesFrom_view (moves_expect s)) fun executor _ => ?_
  refine Tx.MovesFrom.bind ?_ fun _ _ => movesFrom_utcnow fun now _ => ?_
  · unfold requireActive
    exact movesFrom_guard fun _ => movesFrom_pure _
  have recovers : KeepsTenants (recoverExpired env (some now) false) := by
    unfold recoverExpired
    refine Tx.Moves.bind (fun _ => movesFrom_pure _) fun _ => (selectJobs_keepsTenants _).bind fun jobs => ?_
    refine Tx.Moves.bind (moves_forEach fun job _ => releaseOrExpire_keepsTenants job.id _) fun _ => ?_
    exact fun _ => movesFrom_ite (fun _ => movesFrom_commit (movesFrom_pure _)) fun _ => movesFrom_pure _
  exact recovers.then fun _ _ => (selectJobs_keepsTenants _).then fun _ _ => claimFirst_keepsTenants _

theorem acquireLease_same (env : Env) (d : Db) (executorId : String) (leaseSeconds : Option Nat) (supply : Supply) :
    SameTenancy d (request (acquireLease env executorId leaseSeconds) d supply).2 :=
  request_keeps (acquireLease_keepsTenants executorId leaseSeconds _) (fun _ _ same before => before.trans same)
    (.refl d)

end Leases

section Operations
variable {env : EnrollmentEnv} {d : EnrollmentDb} {supply : Supply}

theorem Tenanted.withPlane {plane : Db} (kept : Tenanted d) (same : SameTenancy d.plane plane) :
    Tenanted { d with plane := plane } where
  jobs job member := by
    obtain ⟨old, inOld, ofRun, tenancy⟩ := same.jobs job member
    obtain ⟨run, project, bare⟩ := kept.jobs old inOld
    obtain ⟨ofProject, ofOrganization, ofDeployment⟩ : job.projectId = old.projectId ∧
        job.organizationId = old.organizationId ∧ job.customerDeploymentId = old.customerDeploymentId := by
      simpa [ExecutionJob.tenancy] using tenancy
    unfold Db.run? at run
    rw [← same.runs] at run
    rw [← same.projects] at project
    constructor
    · rw [ofRun, ofProject]
      exact run
    · rw [ofProject, ofOrganization]
      exact project
    · rw [ofProject, ofOrganization, ofDeployment]
      exact bare
  tokens := kept.tokens
  executors executor member := by
    obtain ⟨old, inOld, tenancy⟩ := same.executors executor member
    obtain ⟨scope, enrolled, named⟩ := kept.executors old inOld
    exact ⟨scope, tenancy.trans enrolled, named⟩
  apart executor inExecutors job inJobs deployment ofExecutor := by
    obtain ⟨oldExecutor, inOldExecutors, executorTenancy⟩ := same.executors executor inExecutors
    obtain ⟨oldJob, inOldJobs, -, jobTenancy⟩ := same.jobs job inJobs
    obtain ⟨ofProject, -, ofDeployment⟩ : job.projectId = oldJob.projectId ∧
        job.organizationId = oldJob.organizationId ∧ job.customerDeploymentId = oldJob.customerDeploymentId := by
      simpa [ExecutionJob.tenancy] using jobTenancy
    have deployed : executor.customerDeploymentId = oldExecutor.customerDeploymentId := congrArg (·.2.2) executorTenancy
    rw [ofProject, ofDeployment]
    exact kept.apart oldExecutor inOldExecutors oldJob inOldJobs deployment (deployed.symm.trans ofExecutor)

variable {audited : Except Error Unit} {deployment : Option String} {job : ExecutionJob}

theorem issueEnrollmentToken_keeps {p : ExecutorEnrollmentTokenCreate} {actor : String} (kept : Tenanted d)
    (named : (∃ key, authorizeScopeAdmin env p.scope actor = .ok key) → env.references p.scope = .ok () →
      p.scope.Named) :
    Tenanted (request (issueEnrollmentToken env audited p actor) d supply).2 := by
  let P (out : Except Error (ExecutorEnrollmentToken × String) × Session EnrollmentDb) :
    Prop := Tenanted out.2.committed
  change P _
  unfold issueEnrollmentToken
  refine outcome_ofExcept (P := P) (fun _ => kept) fun scopeKey authorized => ?_
  refine outcome_tokenUrlsafe (P := P) ?_
  rw [bind_uuid4, bind_utcnow, bind_view]
  refine outcome_ite (P := P) (fun _ => kept) fun _ => ?_
  refine outcome_ofExcept (P := P) (fun _ => kept) fun _ referenced => ?_
  rw [bind_view]
  refine outcome_expect (P := P) kept fun tokens inserted => ?_
  rw [bind_modify, bind_commit]
  have stored : Tenanted { d with tokens := tokens } := by
    refine ⟨kept.jobs, fun token member => ?_, kept.executors, kept.apart⟩
    rcases (mem_insert? inserted).mp member with old | rfl
    · exact kept.tokens token old
    · exact named ⟨scopeKey, authorized⟩ referenced
  exact outcome_ofExcept (P := P) (fun _ => stored) fun _ _ => stored

theorem enroll_keeps {p : ExecutorEnroll} (kept : Tenanted d)
    (apart : (TenantOperation.enroll audited p).keepsApart env d supply) :
    Tenanted (request (enroll env audited p) d supply).2 := by
  let P (out : Except Error (ExecutorRegistration × String) × Session EnrollmentDb) : Prop := Tenanted out.2.committed
  change P _
  unfold enroll
  rw [bind_utcnow, bind_view]
  refine outcome_expect (P := P) kept fun enrollment found => ?_
  obtain ⟨atToken, -⟩ := Option.filter_eq_some_iff.mp found
  have inTokens : enrollment ∈ d.tokens.rows := List.mem_of_find?_eq_some atToken
  have hashed := List.find?_some atToken
  rw [beq_iff_eq] at hashed
  cases env.publicKeyFingerprint p.publicSigningKey with
  | error message => exact kept
  | ok fingerprint =>
    dsimp only
    rw [bind_view]
    refine outcome_ite (P := P) (fun _ => kept) fun _ => ?_
    refine outcome_tokenUrlsafe (P := P) ?_
    refine outcome_ofExcept (P := P) (fun _ => kept) fun _ _ => ?_
    rw [bind_uuid4, bind_view]
    refine outcome_ite (P := P) (fun _ => kept) fun _ => ?_
    rw [bind_view]
    refine outcome_expect (P := P) kept fun executors inserted => ?_
    rw [bind_modify, bind_commit]
    have stored : Tenanted { d with
        plane := { d.plane with executors := executors }
        tokens := d.tokens.update enrollment.id fun row => { row with usedAt := some (supply.clock 0) } } := by
      constructor
      · intro job member
        obtain ⟨run, project, bare⟩ := kept.jobs job member
        exact ⟨run, project, bare⟩
      · intro token member
        obtain ⟨old, inOld, same⟩ : ∃ old ∈ d.tokens.rows, token.scope = old.scope :=
          SameTenancy.of_update (f := fun row => { row with usedAt := some (supply.clock 0) })
            (R := fun token old : ExecutorEnrollmentToken => token.scope = old.scope) (fun _ => rfl)
              (fun _ => rfl) token
            member
        rw [same]
        exact kept.tokens old inOld
      · intro executor member
        rcases (mem_insert? inserted).mp member with old | rfl
        · exact kept.executors executor old
        · exact ⟨enrollment.scope, rfl, kept.tokens enrollment inTokens⟩
      · intro executor member job inJobs deployment ofExecutor
        rcases (mem_insert? inserted).mp member with old | rfl
        · exact kept.apart executor old job inJobs deployment ofExecutor
        · exact apart enrollment inTokens hashed deployment ofExecutor job inJobs
    exact outcome_ofExcept (P := P) (fun _ => stored) fun _ _ => stored

/-- Whose the job of a run is, as `scope_of` has found it. -/
theorem ownedIn_of_scope {s : Session Db} {run : Run} {scope : String × Option String × Option String}
    (atRun : s.working.run? job.runId = some run) (found : scopeOf env.toEnv run deployment s = (.ok scope, s))
    (tenancy : job.tenancy = (run.projectId, scope.2)) :
    job.OwnedIn s.working ∧ (job.projectId ≠ none → job.customerDeploymentId = deployment) := by
  obtain ⟨scopeKey, organizationId, deploymentId⟩ := scope
  obtain ⟨ofProject, ofOrganization, ofDeployment⟩ : job.projectId = run.projectId ∧
      job.organizationId = organizationId ∧ job.customerDeploymentId = deploymentId := by
    simpa [ExecutionJob.tenancy] using tenancy
  unfold scopeOf at found
  cases project : run.projectId with
  | none =>
    rw [project] at found ofProject
    cases found
    refine ⟨⟨⟨run, atRun, ofProject.trans project.symm⟩, fun projectId named => ?_, fun _ => ?_⟩, ?_⟩
    · rw [ofProject] at named
      cases named
    · rw [ofOrganization, ofDeployment]
      exact ⟨rfl, rfl⟩
    · exact fun named => absurd ofProject named
  | some projectId =>
    rw [project] at found ofProject
    dsimp only at found
    rw [bind_view] at found
    obtain ⟨row, _, known, found⟩ := bind_ok found
    obtain ⟨atProject, rfl⟩ := expect_ok known
    cases found
    refine ⟨⟨⟨run, atRun, ofProject.trans project.symm⟩, fun other named => ?_, fun none_ => ?_⟩, fun _ => ofDeployment⟩
    · rw [ofProject] at named
      cases named
      exact ⟨row, atProject, ofOrganization⟩
    · rw [ofProject] at none_
      cases none_

theorem schedule_keeps {runId runStepId key : String} {task : AgentTaskV1} {capabilities : List String}
    {labels : List (String × String)} {maxAttempts : Nat} (kept : Tenanted d)
    (apart : (TenantOperation.schedule runId runStepId task key capabilities labels maxAttempts
      deployment).keepsApart env d supply) :
    Tenanted { d with plane := (request (schedule env.toEnv runId runStepId task key capabilities labels maxAttempts
      deployment) d.plane supply).2 } := by
  have clean : (start d.plane supply).Clean := ⟨rfl, rfl⟩
  change Tenanted { d with plane := (schedule env.toEnv runId runStepId task key capabilities labels maxAttempts
    deployment true (start d.plane supply)).2.committed }
  rcases (schedule_ends env.toEnv runId runStepId task capabilities labels maxAttempts deployment true
      (seesJobs_ofClean env.toEnv key clean)).cases with ⟨e, t, ran, same, -⟩ |
    ⟨job, t, ran, run, scope, found, ⟨rfl, -⟩ | ⟨jobs, -, -, order, -, tenancy, inserted, cleanAfter, logged, -⟩⟩
  · rw [ran, same]
    exact kept
  · rw [ran, queried_clean env.toEnv clean]
    exact kept
  · rw [ran, (cleanAfter rfl).1]
    have ofRun : job.runId = runId := congrArg (·.1.1) order
    have atRun : d.plane.run? job.runId = some run := by
      rw [ofRun]
      exact found.atRun
    obtain ⟨owned, deployed⟩ : job.OwnedIn d.plane ∧ (job.projectId ≠ none → job.customerDeploymentId = deployment) :=
      ownedIn_of_scope (s := start d.plane supply) atRun found.atScope tenancy
    have ofProject : job.projectId = run.projectId := congrArg Prod.fst tenancy
    have stored : Tenanted { d with plane := { d.plane with jobs := jobs } } := by
      refine ⟨fun other member => ?_, kept.tokens, kept.executors, fun executor inExecutors other member => ?_⟩
      · rcases (mem_insert? inserted).mp member with old | rfl
        · obtain ⟨atOther, project, bare⟩ := kept.jobs other old
          exact ⟨atOther, project, bare⟩
        · obtain ⟨atJob, project, bare⟩ := owned
          exact ⟨atJob, project, bare⟩
      · intro deployment' ofExecutor named
        rcases (mem_insert? inserted).mp member with old | rfl
        · exact kept.apart executor inExecutors other old deployment' ofExecutor named
        · rw [deployed named]
          rintro rfl
          rw [ofProject] at named
          exact apart run found.atRun named deployment' rfl executor inExecutors ofExecutor
    refine stored.withPlane ⟨logged.projects, logged.runs, fun other member => ?_, fun executor member => ?_⟩
    · rw [logged.jobs] at member
      exact ⟨other, member, rfl, rfl⟩
    · obtain ⟨events, snapshots, metrics, effect⟩ := logged
      rw [effect] at member
      exact ⟨executor, member, rfl⟩

theorem TenantOperation.keepsApart.keeps {op : TenantOperation} (apart : op.keepsApart env d supply)
    (kept : Tenanted d) :
    Tenanted (op.after env d supply) := by
  cases op with
  | issueEnrollmentToken audited p actor => exact issueEnrollmentToken_keeps kept apart
  | enroll audited p => exact enroll_keeps kept apart
  | schedule runId runStepId task key capabilities labels maxAttempts deployment => exact schedule_keeps kept apart
  | acquireLease executorId leaseSeconds =>
    exact kept.withPlane (acquireLease_same env.toEnv d.plane executorId leaseSeconds supply)

theorem givenTo_atLease {executor : ExecutorRegistration} {now : Nat}
    (given : (job.atLease env.toEnv now).givenTo executor = true) :
    job.inScope executor = true ∧ job.matchedBy executor = true := by
  have same : (job.atLease env.toEnv now).inScope executor = job.inScope executor ∧
      (job.atLease env.toEnv now).matchedBy executor = job.matchedBy executor := by
    unfold ExecutionJob.atLease
    split <;> exact ⟨rfl, rfl⟩
  simp only [ExecutionJob.givenTo, ExecutionJob.eligible, Bool.and_eq_true] at given
  rw [← same.1, ← same.2]
  exact ⟨given.1.2, given.2⟩

theorem Tenanted.leased {executorId : String} {leaseSeconds : Option Nat} {leased : LeasedJob} (kept : Tenanted d)
    (claimed : (request (acquireLease env.toEnv executorId leaseSeconds) d.plane supply).1 = .ok (some leased)) :
    ∃ executor job run, d.plane.executors.find executorId = some executor ∧ job ∈ d.plane.jobs.rows ∧
      leased.job.id = job.id ∧ d.plane.run? job.runId = some run ∧ LeasedWithin d.plane executor job run := by
  obtain ⟨executor, job, atExecutor, next, active, same⟩ := acquireLease_picks claimed
  obtain ⟨inJobs, given, -⟩ := next
  obtain ⟨inScope, matched⟩ := givenTo_atLease given
  have inExecutors : executor ∈ d.plane.executors.rows := find_mem atExecutor
  have owned := kept.jobs job inJobs
  obtain ⟨run, atRun, -⟩ := owned.run
  obtain ⟨scope, enrolled, named⟩ := kept.executors executor inExecutors
  obtain ⟨serves, bare⟩ := serves_of_inScope owned enrolled named (kept.apart executor inExecutors job inJobs) atRun
    inScope
  obtain ⟨capable, labelled⟩ := Bool.and_eq_true_iff.mp matched
  refine ⟨executor, job, run, atExecutor, inJobs, same, atRun, active, fun capability member => ?_,
    fun label member => ?_,
    serves, bare⟩
  · exact List.contains_iff_mem.mp (List.all_eq_true.mp capable capability member)
  · exact of_decide_eq_true (List.all_eq_true.mp labelled label member)

end Operations

/-- As long as no job of a project carries a customer deployment for which an
executor is enrolled, jobs are leased only within their tenant. -/
theorem leases_within_tenants {env : EnrollmentEnv} {d e : EnrollmentDb} {supply : Supply} {executorId : String}
    {leaseSeconds : Option Nat} {leased : LeasedJob}
    (run : Path (TenantOperation.after env) (TenantOperation.keepsApart env) d e) (jobs : d.plane.jobs = .empty)
    (executors : d.plane.executors = .empty) (tokens : d.tokens = .empty)
    (claimed : (request (acquireLease env.toEnv executorId leaseSeconds) e.plane supply).1 = .ok (some leased)) :
    ∃ executor job run, e.plane.executors.find executorId = some executor ∧ job ∈ e.plane.jobs.rows ∧
      leased.job.id = job.id ∧ e.plane.run? job.runId = some run ∧ LeasedWithin e.plane executor job run := by
  have first : Tenanted d := by
    constructor
    · rw [jobs]
      exact fun job member => absurd member List.not_mem_nil
    · rw [tokens]
      exact fun token member => absurd member List.not_mem_nil
    · rw [executors]
      exact fun executor member => absurd member List.not_mem_nil
    · intro executor member
      rw [executors] at member
      exact absurd member List.not_mem_nil
  exact (run.keeps (fun _ _ _ apart kept => apart.keeps kept) first).leased claimed

namespace Sample

def enrollmentEnv : EnrollmentEnv :=
  { identityEnv with
    requireProjectPermission := fun _ _ => .ok ()
    requirePermission := fun _ _ => .ok ()
    platformAdmin := fun _ => true
    references := fun _ => .ok ()
    admits := fun _ _ => .ok () }

/-- A run of a project. -/
def unqueued : EnrollmentDb where
  plane := { store .planning .pending with
    projects := .ofRows [⟨"p", "o", none, none⟩]
    runs := .ofRows [{ newRun "r" task .planning 0 with projectId := some "p" }] }

def ofProject : ExecutorScope := { projectId := some "p", one := rfl }
def ofDeployment : ExecutorScope := { customerDeploymentId := some "local-development", one := rfl }

def issue (scope : ExecutorScope) : TenantOperation := .issueEnrollmentToken (.ok ()) { scope := scope } "admin"

def enrollment : TenantOperation :=
  .enroll (.ok ())
    { enrollmentToken := "token-0", executorIdentity := "executor", publicSigningKey := "key", capabilities := []
      labels := [] }

def queueing (customerDeploymentId : Option String) : TenantOperation :=
  .schedule "r" "s" ⟨"r", "s", .obj []⟩ "key" [] [] 3 customerDeploymentId

/-- An executor is enrolled for the scope, and a job of the run is queued. -/
def queued (scope : ExecutorScope) (customerDeploymentId : Option String) : EnrollmentDb :=
  Path.storeAfter (TenantOperation.after enrollmentEnv) unqueued
    [(issue scope, supply), (enrollment, supply), (queueing customerDeploymentId, supply)]

/-- The customer deployment of the executor that is given the job of the run. -/
def givenAway (d : EnrollmentDb) : Option (Option String) :=
  match (request (acquireLease enrollmentEnv.toEnv "0") d.plane supply).1 with
  | .ok (some _) => (d.plane.executors.find "0").map ExecutorRegistration.customerDeploymentId
  | _ => none

theorem givenAway_lease {d : EnrollmentDb} {deployment : Option String} (given : givenAway d = some deployment) :
    ∃ leased executor, (request (acquireLease enrollmentEnv.toEnv "0") d.plane supply).1 = .ok (some leased) ∧
      d.plane.executors.find "0" = some executor ∧ executor.customerDeploymentId = deployment := by
  unfold givenAway at given
  split at given
  · rename_i leased claimed
    obtain ⟨executor, found, same⟩ := Option.map_eq_some_iff.mp given
    exact ⟨leased, executor, claimed, found, same⟩
  · cases given

end Sample

open Sample in
/-- An executor of the project is given the job of its run. -/
theorem leases_within_tenants_sample : ∃ leased executor job run,
    (request (acquireLease enrollmentEnv.toEnv "0") (queued ofProject none).plane supply).1 = .ok (some leased) ∧
      (queued ofProject none).plane.executors.find "0" = some executor ∧ leased.job.id = job.id ∧
        run.projectId = some "p" ∧ LeasedWithin (queued ofProject none).plane executor job run := by
  have given : givenAway (queued ofProject none) = some none := by decide +kernel
  obtain ⟨leased, executor, claimed, atExecutor, -⟩ := givenAway_lease given
  have kept : Path (TenantOperation.after enrollmentEnv) (TenantOperation.keepsApart enrollmentEnv) unqueued
      (queued ofProject none) := by
    refine ((Path.start.next (issue ofProject) supply ?_).next enrollment supply ?_).next (queueing none) supply ?_
    · exact fun _ _ => ⟨by simp [ofProject], by simp [ofProject]⟩
    · intro token _ _ deployment _ job member
      cases member
    · intro run _ _ deployment absent
      cases absent
  have runs : ∀ run ∈ (queued ofProject none).plane.runs.rows, run.projectId = some "p" := by decide +kernel
  obtain ⟨known, job, run, atKnown, -, same, atRun, within⟩ := leases_within_tenants kept rfl rfl rfl claimed
  exact ⟨leased, known, job, run, claimed, atKnown, same, runs run (Table.find_mem atRun), within⟩

open Sample in
/-- The job of a project's run, queued with a customer deployment, is given to
an executor of that deployment. -/
theorem project_job_given_away :
    let d := queued ofDeployment (some "local-development")
    Path (TenantOperation.after enrollmentEnv) (fun _ _ _ => True) unqueued d ∧ ∃ leased,
      (request (acquireLease enrollmentEnv.toEnv "0") d.plane supply).1 = .ok (some leased) ∧
        ¬∃ executor job run, d.plane.executors.find "0" = some executor ∧ job ∈ d.plane.jobs.rows ∧
          leased.job.id = job.id ∧ d.plane.run? job.runId = some run ∧ LeasedWithin d.plane executor job run := by
  intro d
  have given : givenAway (queued ofDeployment (some "local-development")) = some (some "local-development") := by
    decide +kernel
  obtain ⟨leased, executor, claimed, atExecutor, deployed⟩ := givenAway_lease given
  refine ⟨Path.of_requests (fun _ _ _ => trivial) .start, leased, claimed, ?_⟩
  rintro ⟨known, job, run, atKnown, inJobs, -, atRun, leasedWithin⟩
  obtain rfl : executor = known := Option.some.inj (atExecutor.symm.trans atKnown)
  have ofProject : ∀ run ∈ (queued ofDeployment (some "local-development")).plane.runs.rows,
      run.projectId = some "p" := by
    decide +kernel
  have bare := leasedWithin.bare (by rw [deployed]; rfl)
  rw [ofProject run (Table.find_mem atRun)] at bare
  cases bare

end SacmRuntime
