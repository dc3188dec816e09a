import SacmRuntime.Governance.Listings
import SacmRuntime.Lib.Checked
import SacmRuntime.Lib.PosixPath

namespace SacmRuntime
open Session ResourceAuthorizationService Tx

/-- What the repository routes read besides the tenant tables: the path column
of the projects, the variables of the process and its file system. -/
structure RepositoryResources extends Resources where
  repositoryPath : String → Option String
  getenv : String → Option String
  files : FileSystem

/-- `RepositoryAdapter`: where the request points, and where the process works. -/
structure RepositoryAdapter where
  requestedRepoPath : List FileName
  repoPath : List FileName

namespace RepositoryAdapter

def pathError (message : String) : Error := .other "RepositoryPathError" message

def str (names : List FileName) : String := String.ofList (PosixPath.location names)

/-- `path.expanduser()`. -/
def expanduser (files : FileSystem) (path : PosixPath) : Except Error PosixPath :=
  match path.absolute, path.parts with
  | false, name :: rest =>
    if name.head? = some '~' then
      match files.home name with
      | some home => .ok ⟨(PosixPath.parse home).absolute, (PosixPath.parse home).parts ++ rest⟩
      | none => .error (.runtimeError "Could not determine home directory.")
    else .ok path
  | _, _ => .ok path

/-- `path.resolve()`. -/
def resolve (files : FileSystem) (path : PosixPath) : Except Error (List FileName) :=
  let names := files.follow path.absolute path.parts
  if files.loops names then .error (.runtimeError ("Symlink loop from '" ++ str names ++ "'")) else .ok names

/-- `_translate_host_path`. -/
def translateHostPath (r : RepositoryResources) (path : List FileName) : Except Error (List FileName) :=
  match present (r.getenv "SACM_HOST_REPOSITORY_ROOT"), present (r.getenv "SACM_REPOSITORY_ROOT") with
  | some hostRoot, some containerRoot => do
    let expanded ← expanduser r.files (PosixPath.parse hostRoot.toList)
    let host ← resolve r.files expanded
    if host.isPrefixOf path then do
      let container ← resolve r.files (PosixPath.parse containerRoot.toList)
      resolve r.files ⟨true, container ++ path.drop host.length⟩
    else .ok path
  | _, _ => .ok path

/-- The roots the path must lie in, when there are any. -/
def allowedRoots (r : RepositoryResources) : Except Error (List (List FileName)) :=
  match present (r.getenv "SACM_REPOSITORY_ROOT") with
  | none => .ok []
  | some root => do
    let repositories ← resolve r.files (PosixPath.parse root.toList)
    match present (r.getenv "SACM_WORKTREE_ROOT") with
    | none => .ok [repositories]
    | some worktreeRoot => do
      let worktrees ← resolve r.files (PosixPath.parse worktreeRoot.toList)
      return [repositories, worktrees]

/-- `RepositoryAdapter(repo_path)`. -/
def init (r : RepositoryResources) (repoPath : String) : Except Error RepositoryAdapter := do
  let expanded ← expanduser r.files (PosixPath.parse repoPath.toList)
  let requested ← resolve r.files expanded
  let path ← translateHostPath r requested
  let roots ← allowedRoots r
  if roots ≠ [] ∧ ¬roots.any (·.isPrefixOf path) then
    .error (pathError ("Repository path " ++ str requested ++ " resolves to " ++ str path ++
      ", outside SACM_REPOSITORY_ROOT and SACM_WORKTREE_ROOT: " ++ ", ".intercalate (roots.map str)))
  else if r.files.isDir path then .ok ⟨requested, path⟩
  else .error (pathError ("Repository directory does not exist in the runtime: " ++ str path))

end RepositoryAdapter

namespace ResourceAuthorizationService

def storedPath (r : RepositoryResources) (d : GovernanceDb) (task : Task) : Option String :=
  let project := ((taskContext r.toResources d task).bind fun context => present context.projectId).bind d.projects.find
  project.bind fun project => present (r.repositoryPath project.id)

/-- `require_repository`. -/
def requireRepository (env : GovernanceEnv) (auth : Option AuthContext) (r : RepositoryResources)
    (taskId : Option String) (repositoryPath actorId permission : String) : GovernanceMethod (Option Task) :=
  match taskId with
  | none => if r.production then Tx.raise (.permissionError "Resource is not accessible.") else return none
  | some taskId => do
    let task ← requireTask env auth r.toResources taskId actorId permission
    let stored ← view fun d => storedPath r d task
    match stored with
    | none => return some task
    | some path =>
      if r.files.realpath path.toList ≠ r.files.realpath repositoryPath.toList then
        Tx.raise (.permissionError "Resource is not accessible.")
      else return some task

end ResourceAuthorizationService

namespace RepositoryAuditService

/-- `RepositoryAuditService.authorize`. -/
def authorize (env : GovernanceEnv) (auth : Option AuthContext) (r : RepositoryResources) (taskId : Option String)
    (repositoryPath : String) (actorId : Option String) (permission : String) : GovernanceMethod (Option Task) :=
  match actorId with
  | none =>
    if r.production then Tx.raise (.permissionError "Authenticated tenant context is required.")
    else return (present taskId).bind r.shared.tasks.find
  | some actorId =>
    ResourceAuthorizationService.requireRepository env auth r taskId repositoryPath actorId permission

end RepositoryAuditService

/-- What a route has done that the answer does not tell. -/
inductive RouteStep where
  | effect (path : List FileName)
  | recorded (path : String)

abbrev RouteMethod (α : Type) : Type := Tx (Session GovernanceDb × List RouteStep) Error α

def inSession {α : Type} (m : GovernanceMethod α) : RouteMethod α := fun s => ((m s.1).1, ((m s.1).2, s.2))

def logStep (step : RouteStep) : RouteMethod Unit := Tx.shift fun s => (s.1, s.2 ++ [step])

/-- What `record` writes: the task event, the memory entry once it is
authorized, and the traceability of the task with the audit event. -/
structure RecordWrites where
  event : GovernanceMethod Unit
  memory : GovernanceMethod Unit
  audit : GovernanceMethod Unit

/-- `MemoryService._authorize` of a new entry, for an actor. -/
def authorizeMemory (env : GovernanceEnv) (auth : Option AuthContext) (r : RepositoryResources)
    (taskId actor : String) :
    GovernanceMethod Unit := do
  let _ ← ResourceAuthorizationService.requireTask env auth r.toResources taskId actor "tasks.write"
  return ()

/-- `RepositoryAuditService.record` of an actor, with a memory summary. -/
def RepositoryAuditService.record (env : GovernanceEnv) (auth : Option AuthContext) (r : RepositoryResources)
    (taskId : Option String) (repositoryPath actor permission : String) (writes : Option Task → RecordWrites) :
    RouteMethod Unit :=
  match taskId with
  | none => return ()
  | some taskId =>
    if (r.shared.tasks.find taskId).isNone then
      Tx.raise (.other "TaskContextError" ("Task " ++ taskId ++ " not found."))
    else do
      let task ← inSession (authorize env auth r (some taskId) repositoryPath (some actor) permission)
      inSession (writes task).event
      inSession (authorizeMemory env auth r taskId actor)
      inSession (writes task).memory
      inSession (writes task).audit
      logStep (.recorded repositoryPath)

structure TenantsFixed (s t : Session GovernanceDb) : Prop where
  organizations : t.working.organizations = s.working.organizations
  projects : t.working.projects = s.working.projects
  memberships : t.working.memberships = s.working.memberships
  credentials : t.working.credentials = s.working.credentials

/-- A later moment: the tenants are the same, and some readings of the clock are past. -/
structure Follows (s t : Session GovernanceDb) : Prop extends TenantsFixed s t where
  clock : ∃ n, ∀ k, t.clock k = s.clock (k + n)

section
variable (env : GovernanceEnv) (auth : Option AuthContext) (r : RepositoryResources) (taskId : Option String)
  (actorId : Option String) (permission : String)

/-- `authorize` accepts the path. -/
def AcceptsPath (s : Session GovernanceDb) (path : String) : Prop :=
  ∃ task t, RepositoryAuditService.authorize env auth r taskId path actorId permission s = (.ok task, t)

/-- The actor may use the task. -/
def MayUse (id actor permission : String) (s : Session GovernanceDb) : Prop :=
  ∃ task t, ResourceAuthorizationService.requireTask env auth r.toResources id actor permission s = (.ok task, t)

end

section
variable {env : GovernanceEnv} {auth : Option AuthContext} {r : RepositoryResources} {taskId actorId : Option String}
  {permission : String} {s t : Session GovernanceDb}

namespace RepositoryAdapter

variable {adapter : RepositoryAdapter} {requested : String}

end RepositoryAdapter

namespace ResourceAuthorizationService

theorem storedPath_congr {d e : GovernanceDb} (same : e.projects = d.projects) (task : Task) :
    storedPath r e task = storedPath r d task := by
  unfold storedPath taskContext
  rw [same]

/-- A repository is accepted when its task is, and its path resolves as the one
of the project does. -/
theorem requireRepository_iff (id actor path : String) :
    (∃ task t, requireRepository env auth r (some id) path actor permission s = (.ok task, t)) ↔
      ∃ task t, requireTask env auth r.toResources id actor permission s = (.ok task, t) ∧
        ∀ stored, storedPath r s.working task = some stored →
          r.files.realpath stored.toList = r.files.realpath path.toList := by
  constructor
  · rintro ⟨answer, t, accepted⟩
    obtain ⟨task, mid, passed, rest⟩ := bind_ok accepted
    refine ⟨task, mid, passed, fun stored atProject => ?_⟩
    rw [bind_view, storedPath_congr (requireTask_ok passed).2, atProject] at rest
    by_contra different
    dsimp only at rest
    rw [if_pos different] at rest
    cases rest
  · rintro ⟨task, mid, passed, same⟩
    unfold requireRepository
    dsimp only
    rw [bind_run_ok _ passed, bind_view, storedPath_congr (requireTask_ok passed).2]
    cases atProject : storedPath r s.working task with
    | none => exact ⟨some task, mid, rfl⟩
    | some stored =>
      dsimp only
      rw [if_neg (not_not.mpr (same stored atProject))]
      exact ⟨some task, mid, rfl⟩

end ResourceAuthorizationService

variable {id path requested stored : String} {task : Option Task}

theorem Follows.refl (s : Session GovernanceDb) : Follows s s := ⟨⟨rfl, rfl, rfl, rfl⟩, 0, fun _ => rfl⟩

theorem Follows.trans {u : Session GovernanceDb} (first : Follows s t) (second : Follows t u) : Follows s u := by
  obtain ⟨n, earlier⟩ := first.clock
  obtain ⟨m, later⟩ := second.clock
  refine ⟨⟨second.organizations.trans first.organizations, second.projects.trans first.projects,
    second.memberships.trans first.memberships, second.credentials.trans first.credentials⟩, m + n, fun k => ?_⟩
  rw [later, earlier, Nat.add_assoc]

/-- Whether a permission is granted depends on the tenants and on the time. -/
theorem principal_same {organizationId actor : String} (follows : TenantsFixed s t) (now : t.clock 0 = s.clock 0) :
    (TenancyService.principal organizationId actor t).1 = (TenancyService.principal organizationId actor s).1 := by
  unfold TenancyService.principal
  split
  · rw [bind_view, bind_view, follows.credentials]
    generalize Option.filter _ _ = usable
    cases usable with
    | none => rfl
    | some credential =>
      cases expiry : credential.expiresAt with
      | none => simp only [expiry]; rfl
      | some expiry_ =>
        simp only [expiry]
        rw [bind_utcnow, bind_utcnow, now]
        rfl
  · change Except.ok ((t.working.memberships.find? _).map _) = Except.ok ((s.working.memberships.find? _).map _)
    rw [follows.memberships]

theorem requirePermission_passes {organizationId actor resourceType : String} {projectId resourceId : Option String} :
    (∃ granted t, TenancyService.requirePermission env auth organizationId actor permission projectId resourceType
        resourceId s = (.ok granted, t)) ↔
      (s.working.organizations.find organizationId).isSome ∧ ∃ found,
        (TenancyService.principal organizationId actor s).1 = .ok found ∧
          (TenancyService.judge permission projectId found).1 = true := by
  obtain ⟨found, looked⟩ := principal_run organizationId actor s
  constructor
  · rintro ⟨granted, t, passed⟩
    have known : (s.working.organizations.find organizationId).isSome := by
      rw [← Option.ne_none_iff_isSome]
      intro absent
      unfold TenancyService.requirePermission at passed
      rw [bind_run_ok _ looked] at passed
      obtain ⟨event, mid, recorded, -⟩ := bind_ok passed
      unfold TenantAuditService.record at recorded
      rw [bind_view] at recorded
      dsimp only at recorded
      rw [absent] at recorded
      cases recorded
    obtain ⟨u, -, ran, -⟩ :=
      TenancyService.requirePermission_decides env auth permission resourceType projectId resourceId looked rfl
        known
    rw [passed] at ran
    refine ⟨known, found, by rw [looked], ?_⟩
    by_contra refused
    rw [Bool.eq_false_of_not_eq_true refused] at ran
    cases ran
  · rintro ⟨known, other, same, granted⟩
    rw [looked] at same
    cases same
    obtain ⟨u, -, ran, -⟩ :=
      TenancyService.requirePermission_decides env auth permission resourceType projectId resourceId looked rfl
        known
    rw [granted] at ran
    cases found with
    | none => cases granted
    | some principal => exact ⟨principal, u, ran⟩

theorem MayUse.later {actor : String} (may : MayUse env auth r id actor permission s) (follows : TenantsFixed s t)
    (now : t.clock 0 = s.clock 0) : MayUse env auth r id actor permission t := by
  obtain ⟨task, u, passed⟩ := may
  obtain ⟨row, mid, found, rest⟩ := bind_ok passed
  obtain ⟨present_, rfl⟩ := expect_ok found
  have same : taskContext r.toResources t.working row = taskContext r.toResources mid.working row := by
    unfold taskContext
    rw [follows.projects]
  unfold MayUse requireTask
  rw [present_, bind_expect_some, bind_view, same]
  rw [bind_view] at rest
  cases context : taskContext r.toResources mid.working row with
  | none =>
    rw [context] at rest
    dsimp only at rest ⊢
    cases production : r.production <;> rw [production] at rest <;> cases rest
    exact ⟨_, _, rfl⟩
  | some tenant =>
    rw [context] at rest
    obtain ⟨granted, after, ran, -⟩ := bind_ok rest
    obtain ⟨known, principal, looked, judged⟩ := requirePermission_passes.mp ⟨granted, after, ran⟩
    rw [← principal_same follows now] at looked
    rw [← follows.organizations] at known
    obtain ⟨_, _, again⟩ := requirePermission_passes.mpr ⟨known, principal, looked, judged⟩
    dsimp only
    rw [bind_run_ok _ again]
    exact ⟨_, _, rfl⟩

theorem AcceptsPath.later {actor : String} (accepts : AcceptsPath env auth r (some id) (some actor) permission s path)
    (follows : TenantsFixed s t) (now : t.clock 0 = s.clock 0) :
    AcceptsPath env auth r (some id) (some actor) permission t path := by
  obtain ⟨task, u, passed, same⟩ := (requireRepository_iff id actor path).mp accepts
  obtain ⟨again, v, also⟩ := MayUse.later ⟨task, u, passed⟩ follows now
  cases (requireTask_ok passed).1.symm.trans (requireTask_ok also).1
  refine (requireRepository_iff id actor path).mpr ⟨task, v, also, fun stored atProject => same stored ?_⟩
  rwa [storedPath_congr follows.projects] at atProject

end

namespace GovernanceSample

/-- A file system without links, in which every path is a directory. -/
def plainFiles : FileSystem where
  follow _ names := names.filter fun name => ProperName name
  loops _ := false
  isDir _ := true
  home _ := none
  proper absolute names name member := by simpa using (List.mem_filter.mp member).2
  settled absolute names directory := by simp [List.filter_filter]

/-- The repositories of the host are mounted at another place, and the project
has the path of its repository on the host. -/
def mounted : RepositoryResources where
  shared := { tasks := .ofRows [{ Sample.task with organizationId := some "o", projectId := some "p" }] }
  taskContract := fun _ => .null
  runCreatedAt := fun _ => 0
  production := true
  repositoryPath := fun _ => some "/host/app"
  getenv := fun name =>
    if name = "SACM_HOST_REPOSITORY_ROOT" then some "/host"
    else if name = "SACM_REPOSITORY_ROOT" then some "/repositories"
    else none
  files := plainFiles

def developed : GovernanceDb where
  organizations := .ofRows [⟨"o", none, none⟩]
  projects := .ofRows [⟨"p", "o", none, none⟩]
  memberships := [⟨"o", "developer", "developer", none⟩]

/-- The answers of `authorize` to the two spellings. -/
def answers (path : String) : Bool :=
  (RepositoryAuditService.authorize env none mounted (some "t") path (some "developer") "tasks.write"
    (start developed (supplyOf "e" 0))).1.toOption.isSome

end GovernanceSample

end SacmRuntime
