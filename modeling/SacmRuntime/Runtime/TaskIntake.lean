import SacmRuntime.Governance.Authentication
import SacmRuntime.Runtime.Rows

namespace SacmRuntime
open Session

namespace TaskIntakeService

inductive ConnectorType where
  | jira | linear | github | azureDevops | generic
  deriving DecidableEq

structure RepositoryReference where
  fullName : Option String
  path : Option String
  baseRevision : Option String
  deriving DecidableEq

/-- `TaskContractV1`. -/
structure TaskContract where
  connectorType : ConnectorType
  externalId : String
  externalUrl : Option String
  projectId : Option String
  title : String
  description : String
  acceptanceCriteria : List String
  repositories : List RepositoryReference
  priority : Option String
  labels : List String
  requestedBy : Option String
  metadata : Json

/-- The fields a contract is assessed by. -/
inductive ContractField where
  | description | acceptanceCriteria | repositories | requestedBy
  deriving DecidableEq

namespace ContractField

def all : List ContractField := [description, acceptanceCriteria, repositories, requestedBy]

def name : ContractField → String
  | description => "description"
  | acceptanceCriteria => "acceptance_criteria"
  | repositories => "repositories"
  | requestedBy => "requested_by"

/-- `READINESS_WEIGHTS`, in hundredths. -/
def weight : ContractField → Nat
  | description => 25
  | acceptanceCriteria => 35
  | repositories => 25
  | requestedBy => 15

/-- `CLARIFICATION_QUESTIONS`. -/
def question : ContractField → String
  | description => "What problem should be solved and what behavior should change?"
  | acceptanceCriteria => "What observable conditions must be met for acceptance?"
  | repositories => "Which repository or repositories should SACM operate on?"
  | requestedBy => "Who owns the business decision and can clarify this task?"

end ContractField

def TaskContract.gives (contract : TaskContract) : ContractField → Bool
  | .description => !(stripped contract.description.toList).isEmpty
  | .acceptanceCriteria => !contract.acceptanceCriteria.isEmpty
  | .repositories => !contract.repositories.isEmpty
  | .requestedBy => (present contract.requestedBy).isSome

/-- The score is in hundredths. -/
structure ReadinessAssessment where
  score : Nat
  ready : Bool
  missingFields : List ContractField
  checks : List (ContractField × Bool)

/-- `assess`. -/
def assess (contract : TaskContract) : ReadinessAssessment where
  score := ((ContractField.all.filter contract.gives).map ContractField.weight).sum
  ready := decide (80 ≤ ((ContractField.all.filter contract.gives).map ContractField.weight).sum)
  missingFields := ContractField.all.filter fun field => !contract.gives field
  checks := ContractField.all.map fun field => (field, contract.gives field)

/-- The status an assessment puts a task in. -/
def ReadinessAssessment.status (readiness : ReadinessAssessment) : String :=
  if readiness.ready then "pending" else "awaiting_clarification"

def repositoryPath (contract : TaskContract) : Option String :=
  contract.repositories.findSome? fun reference => present reference.path

/-- An optional string of a reference, of at most this length. -/
def optionalText (limit : Nat) : Json → Option (Option String)
  | .null => some none
  | .str text => if 1 ≤ text.length ∧ text.length ≤ limit then some (some text) else none
  | _ => none

/-- `RepositoryReference.model_validate`. -/
def repository? (raw : Json) : Option RepositoryReference :=
  match raw with
  | .obj _ => do
    let fullName ← optionalText 500 (raw.get "full_name")
    let path ← optionalText 2000 (raw.get "path")
    let baseRevision ← optionalText 255 (raw.get "base_revision")
    if fullName = none ∧ path = none then none else some ⟨fullName, path, baseRevision⟩
  | _ => none

/-- `TaskContractV1.model_validate` of a stored contract with another value of one field. -/
def TaskContract.with? (contract : TaskContract) (field : ContractField) (answer : Json) : Option TaskContract :=
  match field, answer with
  | .description, .str text => some { contract with description := text }
  | .requestedBy, .str name => some { contract with requestedBy := some name }
  | .requestedBy, .null => some { contract with requestedBy := none }
  | .acceptanceCriteria, .arr items =>
    (items.mapM Json.str?).map fun criteria => { contract with acceptanceCriteria := criteria }
  | .repositories, .arr items =>
    if items.length ≤ 20 then (items.mapM repository?).map fun found => { contract with repositories := found }
    else none
  | _, _ => none

end TaskIntakeService

open TaskIntakeService

/-- A task with the columns that only its intake uses. -/
structure IntakeTask extends Task where
  connectorType : Option ConnectorType
  externalId : Option String
  externalUrl : Option String
  taskContract : Option TaskContract
  readiness : Option ReadinessAssessment
  updatedAt : Nat

instance : Keyed IntakeTask := ⟨fun task => task.id⟩

inductive ClarificationStatus where
  | open_ | answered
  deriving DecidableEq

structure TaskClarification where
  id : String
  taskId : String
  fieldName : ContractField
  question : String
  status : ClarificationStatus
  answer : Option Json
  answeredAt : Option Nat

instance : Keyed TaskClarification := ⟨TaskClarification.id⟩

inductive IntakeEventType where
  | taskContractIngested (connectorType : ConnectorType) (externalId : String)
  | taskContractUpdated (connectorType : ConnectorType) (externalId : String)
  | taskClarificationAnswered (fieldName : ContractField)

/-- A `ContextEvent` of the intake. -/
structure IntakeEvent where
  taskId : String
  organizationId : Option String
  projectId : Option String
  tenantAttribution : Option Json
  dataRegion : Option String
  dataClassification : Option String
  eventType : IntakeEventType
  readiness : ReadinessAssessment

structure IntakeDb where
  projects : Table Project := .empty
  tasks : Table IntakeTask := .empty
  clarifications : Table TaskClarification := .empty
  events : List IntakeEvent := []

abbrev IntakeMethod (α : Type) : Type := Tx (Session IntakeDb) Error α

namespace TaskIntakeService

/-- One question about a task; the table has one for each field. -/
def ask (taskId : String) (field : ContractField) : IntakeMethod Unit := do
  let asked ← view fun d => d.clarifications.rows.any fun row => row.taskId == taskId && row.fieldName == field
  if asked then Tx.raise (.integrityError "uq_task_clarification_field")
  else do
    let id ← uuid4
    let inserted ← view fun d => d.clarifications.insert? ⟨id, taskId, field, field.question, .open_, none, none⟩
    let clarifications ← Tx.expect (.integrityError "task_clarifications.id") inserted
    modify fun d => { d with clarifications := clarifications }

def recordIntake (task : Task) (eventType : IntakeEventType) (readiness : ReadinessAssessment) : IntakeMethod Unit :=
  modify fun d => { d with events := d.events ++ [{ task with taskId := task.id, eventType, readiness }] }

/-- The columns every new state of the contract sets. -/
def assessed (contract : TaskContract) (now : Nat) (task : IntakeTask) : IntakeTask :=
  { task with
    description := contract.description, targetRepoPath := repositoryPath contract, taskContract := some contract,
    readiness := some (assess contract), status := (assess contract).status, updatedAt := now }

def newTask (id : String) (project : Option Project) (contract : TaskContract) (now : Nat) : IntakeTask :=
  assessed contract now
    { id := id
      organizationId := project.map Project.organizationId
      projectId := project.map Project.id
      tenantAttribution := project.map fun _ =>
        .obj [("schema_version", .str "tenant-attribution/v1"), ("source", .str "task_contract")]
      dataRegion := project.bind Project.dataRegion
      dataClassification := project.bind Project.dataClassification
      title := contract.title
      description := ""
      status := ""
      targetRepoPath := none
      connectorType := some contract.connectorType
      externalId := some contract.externalId
      externalUrl := contract.externalUrl
      taskContract := none
      readiness := none
      updatedAt := now }

/-- The task is of this issue. -/
def ofIssue (connectorType : ConnectorType) (externalId : String) (task : IntakeTask) : Bool :=
  task.connectorType == some connectorType && task.externalId == some externalId

/-- What `ingest` makes of the task of the issue. -/
def reassessed (contract : TaskContract) (now : Nat) (task : IntakeTask) : IntakeTask :=
  { assessed contract now task with title := contract.title, externalUrl := contract.externalUrl }

/-- The missing fields that the task was not asked about. -/
def unasked (d : IntakeDb) (taskId : String) (contract : TaskContract) : List ContractField :=
  (assess contract).missingFields.filter fun field =>
    (d.clarifications.rows.filter fun row => row.taskId == taskId).all fun row => row.fieldName != field

/-- The end of each request: the event, the commit, and how the refresh of the traceability ends. -/
def concluded (task : Task) (eventType : IntakeEventType) (contract : TaskContract) (refreshed : Except Error Unit) :
    IntakeMethod ReadinessAssessment := do
  recordIntake task eventType (assess contract)
  commit
  Tx.ofExcept refreshed
  return assess contract

/-- `ingest`. -/
def ingest (contract : TaskContract) (refreshed : Except Error Unit) : IntakeMethod ReadinessAssessment := do
  let found ← view fun d => d.tasks.rows.find? (ofIssue contract.connectorType contract.externalId)
  match found with
  | some existing => do
    let now ← utcnow
    modify fun d => { d with tasks := d.tasks.update existing.id (reassessed contract now) }
    let fields ← view fun d => unasked d existing.id contract
    Tx.forEach fields (ask existing.id)
    concluded existing.toTask (.taskContractUpdated contract.connectorType contract.externalId) contract refreshed
  | none => do
    let now ← utcnow
    let project ← view fun d => (present contract.projectId).bind d.projects.find
    let id ← uuid4
    let inserted ← view fun d => d.tasks.insert? (newTask id project contract now)
    let tasks ← Tx.expect (.integrityError "tasks.id") inserted
    modify fun d => { d with tasks := tasks }
    flush
    Tx.forEach (assess contract).missingFields (ask id)
    concluded (newTask id project contract now).toTask
      (.taskContractIngested contract.connectorType contract.externalId) contract refreshed

def answered (value : Json) (answeredAt : Nat) (row : TaskClarification) : TaskClarification :=
  { row with answer := some value, status := .answered, answeredAt := some answeredAt }

/-- `answer`; `message` is what the validation says of a value it refuses. -/
def answer (message : ContractField → Json → String) (taskId clarificationId : String) (value : Json)
    (refreshed : Except Error Unit) : IntakeMethod (Option ReadinessAssessment) := do
  let found ← view fun d => (d.clarifications.find clarificationId).filter fun row => row.taskId == taskId
  match found with
  | none => return none
  | some row => do
    let stored ← view fun d => d.tasks.find taskId
    let task ← Tx.expect (.integrityError "task_clarifications.task_id") stored
    let contract ← Tx.expect (.valueError ("Invalid answer for '" ++ row.fieldName.name ++ "': " ++
      message row.fieldName value)) (task.taskContract.bind fun contract => contract.with? row.fieldName value)
    let answeredAt ← utcnow
    let now ← utcnow
    modify fun d =>
      { d with
        clarifications := d.clarifications.update row.id (answered value answeredAt)
        tasks := d.tasks.update task.id (assessed contract now) }
    let readiness ← concluded task.toTask (.taskClarificationAnswered row.fieldName) contract refreshed
    return some readiness

end TaskIntakeService

theorem status_assess (contract : TaskContract) : (assess contract).status =
    if contract.gives .description && contract.gives .acceptanceCriteria && contract.gives .repositories then "pending"
    else "awaiting_clarification" := by
  unfold ReadinessAssessment.status assess
  cases described : contract.gives .description <;> cases criteria : contract.gives .acceptanceCriteria <;>
    cases placed : contract.gives .repositories <;> cases requested : contract.gives .requestedBy <;>
    simp [ContractField.all, ContractField.weight, described, criteria, placed, requested]

theorem mem_missingFields {contract : TaskContract} {field : ContractField} :
    field ∈ (assess contract).missingFields ↔ contract.gives field = false := by
  have listed : field ∈ ContractField.all := by cases field <;> decide
  simp [assess, listed]

theorem with?_gives {contract next : TaskContract} {field other : ContractField} {value : Json}
    (valid : contract.with? field value = some next) (others : other ≠ field) :
    next.gives other = contract.gives other := by
  unfold TaskContract.with? at valid
  split at valid <;> try split at valid
  all_goals
    first
    | obtain ⟨_, -, rfl⟩ := Option.map_eq_some_iff.mp valid
    | cases valid
  all_goals cases other <;> first | rfl | exact absurd rfl others

/-- What a question stays. -/
structure TaskClarification.Stays (old new : TaskClarification) : Prop where
  taskId : new.taskId = old.taskId
  fieldName : new.fieldName = old.fieldName
  answered : old.status = .answered → new.status = .answered

/-- What a task stays: the task of its issue and of its tenant. -/
structure IntakeTask.Stays (old new : IntakeTask) : Prop where
  issue : new.connectorType = old.connectorType ∧ new.externalId = old.externalId
  tenant : new.organizationId = old.organizationId ∧ new.projectId = old.projectId

def Asked (clarifications : Table TaskClarification) (taskId : String) (field : ContractField) : Prop :=
  ∃ row ∈ clarifications.rows, row.taskId = taskId ∧ row.fieldName = field

/-- The assessment of a task is that of its contract, and it was asked about
every field the contract misses. -/
structure IntakeTask.Sound (clarifications : Table TaskClarification) (task : IntakeTask) : Prop where
  readiness : task.readiness = task.taskContract.map assess
  status : ∀ contract, task.taskContract = some contract → task.status =
    if contract.gives .description && contract.gives .acceptanceCriteria && contract.gives .repositories then "pending"
    else "awaiting_clarification"
  asked : ∀ contract, task.taskContract = some contract → ∀ field, contract.gives field = false →
    Asked clarifications task.id field

def IntakeDb.Sound (d : IntakeDb) : Prop := ∀ task ∈ d.tasks.rows, task.Sound d.clarifications

structure IntakeDb.Goes (d e : IntakeDb) : Prop where
  tasks : d.tasks.Carries IntakeTask.Stays e.tasks
  clarifications : d.clarifications.Carries TaskClarification.Stays e.clarifications
  events : d.events <+: e.events
  sound : d.Sound → e.Sound

theorem TaskClarification.stays_refl (row : TaskClarification) : row.Stays row := ⟨rfl, rfl, fun done => done⟩

theorem TaskClarification.Stays.trans (a b c : TaskClarification) (first : a.Stays b) (second : b.Stays c) :
    a.Stays c :=
  ⟨second.taskId.trans first.taskId, second.fieldName.trans first.fieldName, second.answered ∘ first.answered⟩

theorem IntakeTask.stays_refl (task : IntakeTask) : task.Stays task := ⟨⟨rfl, rfl⟩, rfl, rfl⟩

theorem IntakeTask.Stays.trans (a b c : IntakeTask) (first : a.Stays b) (second : b.Stays c) : a.Stays c :=
  ⟨⟨second.issue.1.trans first.issue.1, second.issue.2.trans first.issue.2⟩, second.tenant.1.trans first.tenant.1,
    second.tenant.2.trans first.tenant.2⟩

theorem IntakeDb.goes_refl (d : IntakeDb) : d.Goes d :=
  ⟨Table.carries_refl IntakeTask.stays_refl _, Table.carries_refl TaskClarification.stays_refl _, List.prefix_rfl, id⟩

theorem IntakeDb.Goes.trans {d e f : IntakeDb} (first : d.Goes e) (second : e.Goes f) : d.Goes f :=
  ⟨first.tasks.trans IntakeTask.Stays.trans second.tasks,
    first.clarifications.trans TaskClarification.Stays.trans second.clarifications, first.events.trans second.events,
    second.sound ∘ first.sound⟩

section Methods
variable {s : Session IntakeDb} {t u : Table TaskClarification} {tasks : Table IntakeTask} {taskId : String}
  {field : ContractField} {d : IntakeDb} {refreshed : Except Error Unit}

theorem Asked.carried (asked : Asked t taskId field) (carries : t.Carries TaskClarification.Stays u) :
    Asked u taskId field := by
  obtain ⟨row, member, rfl, rfl⟩ := asked
  obtain ⟨new, found, stays⟩ := carries row.id row (Table.find_of_mem member)
  exact ⟨new, Table.find_mem found, stays.taskId, stays.fieldName⟩

theorem IntakeTask.Sound.carried {task : IntakeTask} (sound : task.Sound t)
    (carries : t.Carries TaskClarification.Stays u) : task.Sound u :=
  ⟨sound.readiness, sound.status, fun contract is field missing =>
    (sound.asked contract is field missing).carried carries⟩

theorem sound_assessed {contract : TaskContract} {task : IntakeTask} (is : task.taskContract = some contract)
    (readiness : task.readiness = some (assess contract)) (status : task.status = (assess contract).status)
    (asked : ∀ field, contract.gives field = false → Asked t task.id field) : task.Sound t where
  readiness := readiness.trans (by rw [is]; rfl)
  status _ isToo := by
    cases is.symm.trans isToo
    exact status.trans (status_assess contract)
  asked _ isToo := by
    cases is.symm.trans isToo
    exact asked

/-- The questions a loop leaves. -/
def AskedAll (s : Session IntakeDb) (taskId : String) (fields : List ContractField) (e : Session IntakeDb) : Prop :=
  e.committed = s.committed ∧ ∃ u, e.working = { s.working with clarifications := u } ∧
    s.working.clarifications.Carries TaskClarification.Stays u ∧ ∀ field ∈ fields, Asked u taskId field

theorem ask_yields : Tx.Yields (fun _ e => e.committed = s.committed) (fun _ e => AskedAll s taskId [field] e)
    (ask taskId field s) := by
  unfold ask
  rw [bind_view]
  refine Tx.outcome_ite (fun _ => rfl) fun _ => ?_
  rw [bind_uuid4, bind_view]
  refine Tx.outcome_expect rfl fun u inserted => ⟨rfl, u, rfl, ?_, fun other member => ?_⟩
  · exact Table.carries_insert? TaskClarification.stays_refl inserted
  · cases List.mem_singleton.mp member
    exact ⟨_, (Table.mem_insert? inserted).mpr (.inr rfl), rfl, rfl⟩

theorem askAll_yields (fields : List ContractField) : Tx.Yields (fun _ e => e.committed = s.committed)
    (fun _ e => AskedAll s taskId fields e) (Tx.forEach fields (ask taskId) s) := by
  induction fields generalizing s with
  | nil => exact ⟨rfl, _, rfl, Table.carries_refl TaskClarification.stays_refl _, by simp⟩
  | cons field rest ih =>
    unfold Tx.forEach
    refine ask_yields.bind (fun _ _ same => same) fun _ e first => ?_
    obtain ⟨same, u, working, carries, asked⟩ := first
    rcases ih (s := e).cases with ⟨_, f, ran, sameToo⟩ | ⟨_, f, ran, sameToo, v, workingToo, carriesToo, askedToo⟩
    · rw [ran]
      exact sameToo.trans same
    · rw [ran]
      rw [working] at workingToo carriesToo
      refine ⟨sameToo.trans same, v, workingToo, carries.trans TaskClarification.Stays.trans carriesToo, ?_⟩
      intro other member
      rcases List.mem_cons.mp member with rfl | later
      · exact (asked other (by simp)).carried carriesToo
      · exact askedToo other later

theorem goes_assessed {old : IntakeTask} {f : IntakeTask → IntakeTask} (found : d.tasks.find old.id = some old)
    (keeps : ∀ task : IntakeTask, (f task).id = task.id ∧ task.Stays (f task))
    (carries : d.clarifications.Carries TaskClarification.Stays u) (written : d.Sound → (f old).Sound u) :
    d.Goes { d with tasks := d.tasks.update old.id f, clarifications := u } := by
  have stays := Table.carries_update IntakeTask.stays_refl fun task (_ : d.tasks.find old.id = some task) => keeps task
  refine ⟨stays, carries, List.prefix_rfl, fun sound => ?_⟩
  intro task member
  rcases Table.mem_update member with before | ⟨before, atOld, rfl⟩
  · exact (sound task before).carried carries
  · cases found.symm.trans atOld
    rw [Table.rewriteRow_of_keeps (keeps old).1]
    exact written sound

theorem goes_inserted {task : IntakeTask} (inserted : d.tasks.insert? task = some tasks)
    (carries : d.clarifications.Carries TaskClarification.Stays u) (written : task.Sound u) :
    d.Goes { d with tasks := tasks, clarifications := u } := by
  refine ⟨Table.carries_insert? IntakeTask.stays_refl inserted, carries, List.prefix_rfl, fun sound => ?_⟩
  intro other member
  rcases (Table.mem_insert? inserted).mp member with before | rfl
  · exact (sound other before).carried carries
  · exact written

/-- How a request of the intake leaves the store. -/
abbrev GoesOn {α : Type} (d : IntakeDb) (ends : Except Error α × Session IntakeDb) : Prop := d.Goes ends.2.committed

theorem asked_or_unasked (d : IntakeDb) (taskId : String) {contract : TaskContract}
    (missing : contract.gives field = false) :
    Asked d.clarifications taskId field ∨ field ∈ unasked d taskId contract := by
  by_cases left : field ∈ unasked d taskId contract
  · exact .inr left
  · simp only [unasked, List.mem_filter, mem_missingFields, missing, true_and, List.all_eq_true, not_forall] at left
    obtain ⟨row, ⟨stored, ofTask⟩, same⟩ := left
    exact .inl ⟨row, stored, by simpa using ofTask, by simpa using same⟩

theorem concluded_goes {task : Task} {eventType : IntakeEventType} {contract : TaskContract}
    (goes : d.Goes s.working) : GoesOn d (concluded task eventType contract refreshed s) := by
  refine Tx.outcome_ofExcept (fun _ => goes.trans ?_) fun _ _ => goes.trans ?_
  all_goals
    have same := s.working.goes_refl
    exact ⟨same.tasks, same.clarifications, List.prefix_append _ _, fun sound => sound⟩

theorem ingest_goes (contract : TaskContract) (atRest : s.committed = s.working) :
    GoesOn s.working (ingest contract refreshed s) := by
  have untouched : ∀ {e : Session IntakeDb}, e.committed = s.committed → s.working.Goes e.committed := by
    intro e same
    rw [same, atRest]
    exact s.working.goes_refl
  unfold ingest
  rw [bind_view]
  cases looked : s.working.tasks.rows.find? (ofIssue contract.connectorType contract.externalId) with
  | some existing =>
    have found := Table.find_of_mem (List.mem_of_find?_eq_some looked)
    dsimp only
    rw [bind_utcnow, bind_modify, bind_view]
    refine (askAll_yields _).bind (fun _ _ same => untouched same) fun _ e left => ?_
    obtain ⟨-, u, working, carries, asked⟩ := left
    refine concluded_goes (working ▸ goes_assessed found (fun task => ⟨rfl, ⟨rfl, rfl⟩, rfl, rfl⟩) carries fun _ => ?_)
    refine sound_assessed rfl rfl rfl fun field missing => ?_
    rcases asked_or_unasked s.working existing.id missing with before | left
    · exact before.carried carries
    · exact asked field left
  | none =>
    dsimp only
    rw [bind_utcnow, bind_view, bind_uuid4, bind_view]
    refine Tx.outcome_expect (untouched rfl) fun tasks inserted => ?_
    rw [bind_modify, bind_flush]
    refine (askAll_yields _).bind (fun _ _ same => untouched same) fun _ e left => ?_
    obtain ⟨-, u, working, carries, asked⟩ := left
    refine concluded_goes (working ▸ goes_inserted inserted carries ?_)
    exact sound_assessed rfl rfl rfl fun field missing => asked field (mem_missingFields.mpr missing)

theorem answer_goes {message : ContractField → Json → String} {clarificationId : String} {value : Json}
    (atRest : s.committed = s.working) :
    GoesOn s.working (answer message taskId clarificationId value refreshed s) := by
  have untouched : s.working.Goes s.committed := by
    rw [atRest]
    exact s.working.goes_refl
  unfold answer
  rw [bind_view]
  cases looked : (s.working.clarifications.find clarificationId).filter fun row => row.taskId == taskId with
  | none => exact untouched
  | some row =>
    obtain ⟨found, ofTask⟩ := Option.filter_eq_some_iff.mp looked
    dsimp only
    rw [bind_view]
    refine Tx.outcome_expect untouched fun task stored => ?_
    refine Tx.outcome_expect untouched fun contract valid => ?_
    rw [bind_utcnow, bind_utcnow, bind_modify]
    obtain ⟨old, of, next⟩ := Option.bind_eq_some_iff.mp valid
    have atTask : s.working.tasks.find task.id = some task := Table.find_of_mem (Table.find_mem stored)
    have carries : s.working.clarifications.Carries TaskClarification.Stays
        (s.working.clarifications.update row.id (answered value (s.clock 0))) :=
      Table.carries_update TaskClarification.stays_refl fun _ _ => ⟨rfl, rfl, rfl, fun _ => rfl⟩
    unfold GoesOn
    rw [Tx.bind_pure_state]
    refine concluded_goes (goes_assessed atTask (fun task => ⟨rfl, ⟨rfl, rfl⟩, rfl, rfl⟩) carries fun sound => ?_)
    refine sound_assessed rfl rfl rfl fun field missing => ?_
    by_cases this : field = row.fieldName
    · refine Asked.carried ⟨row, Table.find_mem found, ?_, this.symm⟩ carries
      exact (of_decide_eq_true ofTask).trans (Table.find_key stored).symm
    · rw [with?_gives next this] at missing
      exact ((sound task (Table.find_mem stored)).asked old of field missing).carried carries

end Methods

/-- The requests of the intake, and the projects that others write. -/
inductive IntakeCall
  | others (projects : Table Project)
  | ingest (contract : TaskContract) (refreshed : Except Error Unit)
  | answer (message : ContractField → Json → String) (taskId clarificationId : String) (value : Json)
      (refreshed : Except Error Unit)

def IntakeCall.after (call : IntakeCall) (d : IntakeDb) (supply : Supply) : IntakeDb :=
  match call with
  | .others projects => { d with projects := projects }
  | .ingest contract refreshed => (request (TaskIntakeService.ingest contract refreshed) d supply).2
  | .answer message taskId clarificationId value refreshed =>
    (request (TaskIntakeService.answer message taskId clarificationId value refreshed) d supply).2

theorem IntakeCall.after_goes (call : IntakeCall) (d : IntakeDb) (supply : Supply) : d.Goes (call.after d supply) := by
  cases call with
  | others =>
    have same := d.goes_refl
    exact ⟨same.tasks, same.clarifications, same.events, same.sound⟩
  | ingest contract => exact ingest_goes (s := start d supply) contract rfl
  | answer => exact answer_goes (s := start d supply) rfl

/-- Over any requests, the assessment and the status of every task are those of
its contract, every field the contract misses was asked about, and a task stays
the one of its issue and its tenant. No question is lost or opened again. -/
theorem task_intake_sound (d : IntakeDb) (calls : List (IntakeCall × Supply)) :
    d.Goes (Path.storeAfter IntakeCall.after d calls) := by
  induction calls generalizing d with
  | nil => exact d.goes_refl
  | cons call rest ih => exact (call.1.after_goes d call.2).trans (ih _)

end SacmRuntime
