import SacmRuntime.Governance.Backups
import SacmRuntime.Governance.RepositoryRoutes
import SacmRuntime.Lib.JsonSort

namespace SacmRuntime
open BackupService Json Tx

def NoDump (disk : Disk) : Prop := ∀ path, disk path ≠ some .dump

/-- What is asked of the end of an execution: no plaintext dump is left, and
the file of a completed record was written by the age command. -/
structure ExitSafe (env : BackupEnv) (s : BackupState) : Prop where
  plain : NoDump s.disk
  completed : s.row.status = .completed →
    ∃ destination, safeStoragePath env.toStorageEnv s.row.storageUri = .ok destination ∧
      s.disk destination = some .encrypted

def Lawful (env : BackupEnv) : List BackupAttempt → BackupState → Prop
  | [], _ => True
  | attempt :: rest, s => ExitSafe env (execute env attempt s).2 ∧ Lawful env rest (execute env attempt s).2

/-- The request is one that `create` takes, but for the encryption. -/
structure Admissible (env : BackupEnv) (payload : BackupCreate) (actor : String) : Prop where
  authorized : env.authorize payload.organizationId actor "resilience.manage" = .ok ()
  file : ∃ path, safeStoragePath env.toStorageEnv payload.storageUri = .ok path ∧ env.isDirectory path = false
  residency : (present payload.organizationId).isSome = true → ∃ storage, env.resolveResidency payload = .ok storage

/-- A recipients file is configured when the record is created, or the
payload names no algorithm, or `none`, or `age`. -/
def NamesAge (payload : BackupCreate) (settings : CreationSettings) : Prop :=
  (present settings.recipientsFile).isSome = true ∨
    (Json.obj payload.encryptionMetadata).field? "algorithm" ∈ [none, some (.str "none"), some (.str "age")]

section
variable {env : BackupEnv} {payload : BackupCreate} {actor : String} {settings : CreationSettings} {row : BackupRow}
  {attempt : BackupAttempt} {s : BackupState} {destination raw : List FileName}

theorem rawPath_ne (destination : List FileName) (id : String) : rawPath destination id ≠ destination := by
  unfold rawPath
  intro same
  cases last : destination.getLast? with
  | none =>
    rw [List.getLast?_eq_none_iff.mp last] at same
    cases same
  | some name =>
    obtain ⟨start, split⟩ := List.getLast?_eq_some_iff.mp last
    rw [last, split, List.dropLast_concat] at same
    have ends := congrArg List.length (List.singleton_inj.mp (List.append_cancel_left same))
    simp only [Option.getD_some, List.length_cons, List.length_append] at ends
    omega

/-- What the body of the `try` leaves, wherever it ends. -/
structure Produced (s t : BackupState) (destination raw : List FileName) : Prop where
  plain : ∀ path, path ≠ raw → t.disk path ≠ some .dump
  uri : t.row.storageUri = s.row.storageUri
  metadata : t.row.encryptionMetadata = s.row.encryptionMetadata
  completed : t.row.status = .completed → t.disk destination = some .encrypted

variable {artifact : FileOrigin} {ended : CommandEnd} {output : List FileName} {t : BackupState}

theorem runCommand_state :
    (runCommand output artifact ended s).2 = s ∨
      (runCommand output artifact ended s).2 = write output artifact s := by
  cases ended with
  | done => exact .inr rfl
  | failed failure left =>
    cases left with
    | true => exact .inr rfl
    | false => exact .inl rfl

theorem runCommand_ok (ran : runCommand output artifact ended s = (.ok (), t)) : t = write output artifact s := by
  cases ended with
  | done => exact (congrArg Prod.snd ran).symm
  | failed failure left => cases congrArg Prod.fst ran

theorem encrypt_state : (encrypt attempt destination s).2 = s ∨
    (encrypt attempt destination s).2 = write destination .encrypted s := by
  unfold encrypt
  cases present attempt.recipientsFile with
  | none => exact .inl rfl
  | some file => exact runCommand_state

theorem encrypt_ok (ran : encrypt attempt destination s = (.ok (), t)) :
    t = write destination .encrypted s := by
  unfold encrypt at ran
  cases here : present attempt.recipientsFile with
  | none =>
    rw [here] at ran
    cases congrArg Prod.fst ran
  | some file =>
    rw [here] at ran
    exact runCommand_ok ran

theorem measure_leaves : Tx.Leaves id (measure attempt destination) := by
  refine leaves_read fun file => ?_
  cases file with
  | none => exact leaves_raise _
  | some file => exact leaves_ofExcept

theorem write_plain {path : List FileName} (plain : ∀ other, other ≠ raw → s.disk other ≠ some .dump)
    (here : path = raw ∨ artifact ≠ .dump) :
    ∀ other, other ≠ raw → (write path artifact s).disk other ≠ some .dump := by
  intro other apart
  change (if other = path then some artifact else s.disk other) ≠ some .dump
  split
  · intro same
    rcases here with here | here
    · exact apart (‹other = path›.trans here)
    · exact here (Option.some_inj.mp same)
  · exact plain other apart

/-- The body of the `try`, for a record that is to be encrypted: the dump is
nowhere but in the raw file, and the end is reached with the output of the
age command at the destination. -/
theorem produce_spec (plain : NoDump s.disk) (running : s.row.status = .running) :
    Produced s (produce attempt true destination raw s).2 destination raw := by
  have unfinished {t : BackupState} (same : t.row = s.row)
      (plain : ∀ path, path ≠ raw → t.disk path ≠ some .dump) :
      Produced s t destination raw := by
    refine ⟨plain, by rw [same], by rw [same], fun completed => ?_⟩
    rw [same, running] at completed
    cases completed
  have start : ∀ path, path ≠ raw → s.disk path ≠ some .dump := fun path _ => plain path
  have dumped := write_plain start (.inl rfl : raw = raw ∨ FileOrigin.dump ≠ .dump)
  have sealed := write_plain dumped (.inr (by decide) : destination = raw ∨ FileOrigin.encrypted ≠ .dump)
  unfold produce
  refine outcome_ofExcept (P := fun outcome => Produced s outcome.2 destination raw)
    (fun _ => unfinished rfl start) fun _ _ => ?_
  refine outcome_bind (P := fun outcome => Produced s outcome.2 destination raw) (fun e t ran => ?_)
    fun _ t ran => ?_
  · have moved : (runCommand raw .dump attempt.dump s).2 = s ∨
        (runCommand raw .dump attempt.dump s).2 = write raw .dump s := runCommand_state
    rw [ran] at moved
    rcases moved with rfl | rfl
    · exact unfinished rfl start
    · exact unfinished rfl dumped
  · obtain rfl := runCommand_ok ran
    rw [if_pos rfl]
    refine outcome_bind (P := fun outcome => Produced s outcome.2 destination raw) (fun e u failed => ?_)
      fun _ u encrypted => ?_
    · have moved : (encrypt attempt destination (write raw .dump s)).2 = write raw .dump s ∨
          (encrypt attempt destination (write raw .dump s)).2 = write destination .encrypted (write raw .dump s) :=
        encrypt_state
      rw [failed] at moved
      rcases moved with rfl | rfl
      · exact unfinished rfl dumped
      · exact unfinished rfl sealed
    · obtain rfl := encrypt_ok encrypted
      refine outcome_bind (P := fun outcome => Produced s outcome.2 destination raw) (fun e v failed => ?_)
        fun sum v measured => ?_
      · obtain rfl : v = _ := measure_leaves.after failed
        exact unfinished rfl sealed
      · obtain rfl : v = _ := measure_leaves.after measured
        exact ⟨sealed, rfl, rfl, fun _ => if_pos rfl⟩

theorem markFailed_produced {className : String} (made : Produced s t destination raw) :
    Produced s (markFailed className t).2 destination raw :=
  ⟨made.plain, made.uri, made.metadata, fun completed => by cases completed⟩

theorem caught_produced (plain : NoDump s.disk) (running : s.row.status = .running) :
    Produced s (catchRaise (produce attempt true destination raw) backupFailed s).2 destination raw := by
  have made : Produced s (produce attempt true destination raw s).2 destination raw := produce_spec plain running
  unfold catchRaise
  rcases ran : produce attempt true destination raw s with ⟨result, t⟩
  rw [ran] at made
  cases result with
  | ok _ => exact made
  | error e =>
    cases e with
    | osError className message => exact markFailed_produced made
    | subprocessError className message => exact markFailed_produced made
    | valueError message => exact markFailed_produced made
    | authorizationError message => exact made
    | integrityError message => exact made

/-- A record to be encrypted whose last execution ended well. -/
structure Kept (env : BackupEnv) (s : BackupState) : Prop extends ExitSafe env s where
  encrypted : s.row.encrypted

theorem attemptBackup_kept (plain : NoDump s.disk) (running : s.row.status = .running) (encrypted : s.row.encrypted)
    (found : safeStoragePath env.toStorageEnv s.row.storageUri = .ok destination) (apart : raw ≠ destination) :
    Kept env (attemptBackup attempt true destination raw s).2 := by
  have made : Produced s (catchRaise (produce attempt true destination raw) backupFailed s).2 destination raw :=
    caught_produced plain running
  unfold attemptBackup andFinally
  rcases ran : catchRaise (produce attempt true destination raw) backupFailed s with ⟨result, t⟩
  rw [ran] at made
  refine ⟨⟨fun path => ?_, fun completed => ⟨destination, ?_, ?_⟩⟩, ?_⟩
  · change (if path = raw then none else t.disk path) ≠ some .dump
    split
    · exact fun same => by cases same
    · exact made.plain path (by assumption)
  · exact (congrArg (safeStoragePath env.toStorageEnv) made.uri).trans found
  · change (if destination = raw then none else t.disk destination) = _
    rw [if_neg apart.symm]
    exact made.completed completed
  · exact (congrArg (fun metadata => get metadata "algorithm") made.metadata).trans encrypted

/-- The state in which the `try` of an execution begins. -/
def executionStart (attempt : BackupAttempt) (s : BackupState) : BackupState :=
  { s with row := { s.row with status := .running, startedAt := some attempt.startedAt, failure := none } }

theorem execute_kept (kept : Kept env s) : Kept env (execute env attempt s).2 := by
  unfold execute
  refine outcome_read (P := fun outcome => Kept env outcome.2) ?_
  refine outcome_ofExcept (P := fun outcome => Kept env outcome.2) (fun _ => kept) fun _ _ => ?_
  refine outcome_ite (P := fun outcome => Kept env outcome.2) (fun _ => kept) fun _ => ?_
  refine outcome_ofExcept (P := fun outcome => Kept env outcome.2) (fun _ => kept) fun destination found => ?_
  refine outcome_ofExcept (P := fun outcome => Kept env outcome.2) (fun _ => kept) fun _ _ => ?_
  simp only [decide_eq_true kept.encrypted, if_true]
  rw [updateRow, bind_shift_run]
  let begun := executionStart attempt s
  have ended : Kept env (attemptBackup attempt true destination (rawPath destination s.row.id) begun).2 :=
    attemptBackup_kept kept.plain rfl kept.encrypted found (rawPath_ne destination s.row.id)
  refine outcome_bind (P := fun outcome => Kept env outcome.2) (fun e t ran => ?_) fun _ t ran => ?_
  · rw [show attemptBackup attempt true destination (rawPath destination s.row.id) begun = _ from ran] at ended
    exact ended
  · rw [show attemptBackup attempt true destination (rawPath destination s.row.id) begun = _ from ran] at ended
    exact ended

theorem lawful_kept {attempts : List BackupAttempt} (kept : Kept env s) : Lawful env attempts s := by
  induction attempts generalizing s with
  | nil => trivial
  | cons attempt rest ih => exact ⟨(execute_kept kept).toExitSafe, ih (execute_kept kept)⟩

end

section
variable {env : BackupEnv} {payload : BackupCreate} {actor : String} {settings : CreationSettings} {row : BackupRow}

theorem label_file {file : String} (configured : present settings.recipientsFile = some file) :
    (encryptionOf payload settings).get "algorithm" = .str "age" := by
  unfold encryptionOf
  rw [configured]
  simp only
  rw [get_set_ne (by decide), get_set_ne (by decide), get_set_self]

theorem label_none (unset : present settings.recipientsFile = none) :
    (encryptionOf payload settings).get "algorithm" =
      ((obj payload.encryptionMetadata).field? "algorithm").getD (.str "none") := by
  unfold encryptionOf
  rw [unset]
  simp only
  cases found : (obj payload.encryptionMetadata).field? "algorithm" with
  | none =>
    rw [if_neg (by simp), get_set_self]
    rfl
  | some value =>
    rw [Option.isSome_some, if_pos rfl, get_eq_field, found]
    rfl

/-- Of the labels that the guard of production mode lets through, only `age`
stands for an encryption. -/
theorem label_age_iff (guarded : (encryptionOf payload settings).get "algorithm" ≠ .str "none") :
    (encryptionOf payload settings).get "algorithm" = .str "age" ↔ NamesAge payload settings := by
  unfold NamesAge
  cases configured : present settings.recipientsFile with
  | some file => exact iff_of_true (label_file configured) (.inl rfl)
  | none =>
    rw [label_none configured] at guarded ⊢
    cases found : (obj payload.encryptionMetadata).field? "algorithm" with
    | none =>
      rw [found] at guarded
      exact absurd rfl guarded
    | some value =>
      rw [found] at guarded
      simp only [Option.getD_some] at guarded ⊢
      simp [guarded]

theorem label_refused (label : (encryptionOf payload settings).get "algorithm" = .str "none") :
    NamesAge payload settings := by
  unfold NamesAge
  cases configured : present settings.recipientsFile with
  | some file => exact .inl rfl
  | none =>
    rw [label_none configured] at label
    cases found : (obj payload.encryptionMetadata).field? "algorithm" with
    | none => simp
    | some value =>
      rw [found] at label
      simp only [Option.getD_some] at label
      simp [label]

/-- What is known of a record that `create` made in production mode. -/
theorem create_guarded (created : create env true payload actor settings = .ok row) :
    Admissible env payload actor ∧ (encryptionOf payload settings).get "algorithm" ≠ .str "none" ∧
      ∃ storage, row = newRow payload actor settings storage := by
  unfold create at created
  obtain ⟨_, authorized, created⟩ := Checked.bind_ok created
  obtain ⟨path, found, created⟩ := Checked.bind_ok created
  split at created
  · cases created
  rename_i file
  split at created
  · cases created
  rename_i guarded
  obtain ⟨storage, chosen, created⟩ := Checked.bind_ok created
  cases created
  refine ⟨⟨authorized, ⟨path, found, Bool.eq_false_iff.mpr file⟩, fun owned => ⟨storage, ?_⟩⟩,
    fun label => guarded ⟨rfl, label⟩, storage, rfl⟩
  rwa [chosenStorage, if_pos owned] at chosen

theorem create_admissible (admissible : Admissible env payload actor)
    (guarded : (encryptionOf payload settings).get "algorithm" ≠ .str "none") :
    ∃ storage, create env true payload actor settings = .ok (newRow payload actor settings storage) := by
  obtain ⟨authorized, ⟨path, found, file⟩, residency⟩ := admissible
  unfold create
  rw [authorized, found]
  simp only [bind, Except.bind, file]
  rw [if_neg (by simp), if_neg fun both => guarded both.2]
  unfold chosenStorage
  by_cases owned : (present payload.organizationId).isSome = true
  · obtain ⟨storage, chosen⟩ := residency owned
    rw [if_pos owned, chosen]
    exact ⟨storage, rfl⟩
  · rw [if_neg owned]
    exact ⟨_, rfl⟩

def smoothAttempt (actor : String) : BackupAttempt where
  actor := actor
  recipientsFile := none
  directory := .ok ()
  credentials := .ok ()
  dump := .done
  encryption := .done
  measured := .ok ("", 0)
  startedAt := 0
  completedAt := 0

theorem execute_dumped {s : BackupState} {path : List FileName}
    (authorized : env.authorize s.row.organizationId actor "resilience.manage" = .ok ())
    (pending : s.row.status = .pending) (found : safeStoragePath env.toStorageEnv s.row.storageUri = .ok path)
    (unlabelled : ¬s.row.encrypted) : ¬NoDump (execute env (smoothAttempt actor) s).2.disk := by
  have dumped : (execute env (smoothAttempt actor) s).2.disk path = some .dump := by
    simp [execute, authorized, pending, found, unlabelled, attemptBackup, andFinally, catchRaise, produce,
      smoothAttempt, bind_run, Except.mapError, Tx.ofExcept, runCommand, BackupService.measure, updateRow, write]
  exact fun plain => plain path dumped

end

/-- In production mode every record that can be created keeps the law of
encrypted backups, from any disk without a dump and whatever its executions
meet, exactly when the payload is refused or its label leads to the age
command. -/
theorem production_encrypted (env : BackupEnv) (payload : BackupCreate) (actor : String)
    (settings : CreationSettings) :
    (∀ row, create env true payload actor settings = .ok row →
        ∀ disk, NoDump disk → ∀ attempts, Lawful env attempts ⟨row, disk⟩) ↔
      ¬Admissible env payload actor ∨ NamesAge payload settings := by
  constructor
  · intro lawful
    by_contra missing
    obtain ⟨admissible, unnamed⟩ := not_or.mp missing
    rw [not_not] at admissible
    have guarded : (encryptionOf payload settings).get "algorithm" ≠ .str "none" :=
      fun label => unnamed (label_refused label)
    obtain ⟨storage, created⟩ := create_admissible admissible guarded
    obtain ⟨path, found, -⟩ := admissible.file
    have empty : NoDump fun _ => none := fun _ same => by cases same
    have ended := (lawful _ created _ empty [smoothAttempt actor]).1
    have unlabelled : ¬(newRow payload actor settings storage).encrypted :=
      fun labelled => unnamed ((label_age_iff guarded).mp labelled)
    exact execute_dumped admissible.authorized rfl found unlabelled ended.plain
  · intro named row created disk plain attempts
    obtain ⟨admissible, guarded, storage, rfl⟩ := create_guarded created
    rcases named with refused | named
    · exact absurd admissible refused
    · exact lawful_kept ⟨⟨plain, fun completed => by cases completed⟩, (label_age_iff guarded).mpr named⟩

namespace BackupSample

def env : BackupEnv where
  files := GovernanceSample.plainFiles
  urlsplit uri := ⟨"", "", uri, false, false⟩
  unquote path := path
  backupRoot := "/backups"
  authorize _ _ _ := .ok ()
  isDirectory _ := false
  resolveResidency _ := .ok ⟨none, none, none⟩

/-- The label of a cloud store, which encrypts nothing here. -/
def payload : BackupCreate :=
  ⟨none, "sacm", "/backups/b", none, none, none, 900, 3600, [("algorithm", .str "AES256")], .obj [], .obj [], true⟩

def settings : CreationSettings := ⟨none, none, "b", 0⟩

/-- The payload is taken in production mode, and after an execution in which
nothing failed the plaintext dump is there. -/
theorem labelled_only : ∃ row, create env true payload "operator" settings = .ok row ∧
    ¬Lawful env [smoothAttempt "operator"] ⟨row, fun _ => none⟩ := by
  have label : (encryptionOf payload settings).get "algorithm" = .str "AES256" := by decide
  have found : ∃ path, safeStoragePath env.toStorageEnv "/backups/b" = .ok path := ⟨_, rfl⟩
  obtain ⟨path, found⟩ := found
  have admissible : Admissible env payload "operator" := ⟨rfl, ⟨path, found, rfl⟩, fun owned => by cases owned⟩
  have guarded : (encryptionOf payload settings).get "algorithm" ≠ .str "none" := by
    rw [label]
    decide
  obtain ⟨storage, created⟩ := create_admissible admissible guarded
  have unlabelled : ¬(newRow payload "operator" settings storage).encrypted := by
    change (encryptionOf payload settings).get "algorithm" ≠ .str "age"
    rw [label]
    decide
  exact ⟨_, created, fun lawful => execute_dumped rfl rfl found unlabelled lawful.1.plain⟩

end BackupSample

end SacmRuntime
