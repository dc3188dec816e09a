import SacmRuntime.Governance.Tenancy

namespace SacmRuntime

structure SecretProviderConfig where
  id : String
  organizationId : String
  projectId : Option String
  name : String
  provider : String
  enabled : Bool
  approvedForProduction : Bool
  metadata : Json
  updatedAt : Nat

structure ProviderRequest where
  provider : String
  providerConfig : Option String

structure ProviderJob where
  organizationId : Option String
  projectId : Option String

/-- Where a descending order puts the rows without a value. -/
inductive NullsWhenDescending where
  | first | last
  deriving DecidableEq

structure ProviderEnv where
  nulls : NullsWhenDescending
  production : Bool
  validate : String → Json → Except String Unit

/-- `a = b` of SQL; `none` is neither true nor false. -/
def sqlEq : Option String → Option String → Option Bool
  | some a, some b => some (a == b)
  | _, _ => none

/-- `a OR b` of SQL. -/
def sqlOr : Option Bool → Option Bool → Option Bool
  | some true, _ | _, some true => some true
  | some false, some false => some false
  | _, _ => none

/-- `a IN (...)` of SQL. -/
def sqlIn (a : Option String) : List (Option String) → Option Bool
  | [] => some false
  | member :: rest => sqlOr (sqlEq a member) (sqlIn a rest)

def ProjectBefore (nulls : NullsWhenDescending) : Option String → Option String → Prop
  | none, some _ => nulls = .first
  | some _, none => nulls = .last
  | some p, some q => q < p
  | none, none => False

instance (nulls : NullsWhenDescending) : DecidableRel (ProjectBefore nulls)
  | none, some _ => inferInstanceAs (Decidable (nulls = .first))
  | some _, none => inferInstanceAs (Decidable (nulls = .last))
  | some p, some q => inferInstanceAs (Decidable (q < p))
  | none, none => inferInstanceAs (Decidable False)

/-- `ORDER BY project_id DESC, updated_at DESC`. -/
def SecretProviderConfig.Before (nulls : NullsWhenDescending) (a b : SecretProviderConfig) : Prop :=
  ProjectBefore nulls a.projectId b.projectId ∨ a.projectId = b.projectId ∧ b.updatedAt ≤ a.updatedAt

instance (nulls : NullsWhenDescending) : DecidableRel (SecretProviderConfig.Before nulls) := fun a b =>
  inferInstanceAs (Decidable (ProjectBefore nulls a.projectId b.projectId ∨ _ ∧ _))

namespace CredentialLeaseService

/-- The filters of `_provider_config`. -/
def candidate (job : ProviderJob) (request : ProviderRequest) (config : SecretProviderConfig) : Bool :=
  decide (job.organizationId = some config.organizationId) && decide (config.provider = request.provider) &&
    config.enabled && (present request.providerConfig).all fun name => config.name = name

/-- The configuration `_provider_config` picks from the rows. -/
def pick (env : ProviderEnv) (rows : List SecretProviderConfig) (job : ProviderJob) (request : ProviderRequest) :
    Option SecretProviderConfig :=
  ((rows.filter (candidate job request)).insertionSort (SecretProviderConfig.Before env.nulls)).find? fun config =>
    config.projectId = none ∨ config.projectId = job.projectId

/-- `_provider_config`. -/
def providerConfig (env : ProviderEnv) (rows : List SecretProviderConfig) (job : ProviderJob)
    (request : ProviderRequest) :
    Except String (Option SecretProviderConfig) :=
  if request.provider = "environment" then
    if env.production then .error "Environment-backed credentials are prohibited in production."
    else .ok none
  else
    match pick env rows job request with
    | none => .error ("No enabled " ++ request.provider ++ " provider configuration is available.")
    | some config =>
      if env.production ∧ config.approvedForProduction = false then
        .error "The selected secret provider is not approved for production."
      else do
        env.validate config.provider config.metadata
        return some config

/-- The row that `_provider_config` selects and then checks; for the environment it looks at none. -/
def selected (env : ProviderEnv) (rows : List SecretProviderConfig) (job : ProviderJob) (request : ProviderRequest) :
    Option SecretProviderConfig :=
  if request.provider = "environment" then none else pick env rows job request

/-- `list_provider_configs` for one who may see them. -/
def listProviderConfigs (env : ProviderEnv) (rows : List SecretProviderConfig) (organizationId : String)
    (projectId : Option String) : List SecretProviderConfig :=
  (rows.filter fun config => config.organizationId = organizationId ∧
      (present projectId).all fun asked => sqlIn config.projectId [none, some asked] = some true).insertionSort
    fun a b => ProjectBefore env.nulls b.projectId a.projectId ∨ a.projectId = b.projectId ∧ a.name ≤ b.name

end CredentialLeaseService

open CredentialLeaseService

/-- The configuration is one of the organization of the job, and it is what the request asks for. -/
def SecretProviderConfig.Matches (job : ProviderJob) (request : ProviderRequest) (config : SecretProviderConfig) :
    Prop :=
  candidate job request config = true

/-- The right configuration is chosen for a job of a project, and one that the
list of the project shows. -/
structure ChosenForProject (env : ProviderEnv) (rows : List SecretProviderConfig) (organizationId projectId : String)
    (request : ProviderRequest) : Prop where
  own : (∃ config ∈ rows, config.Matches ⟨some organizationId, some projectId⟩ request ∧
    config.projectId = some projectId) →
    ∃ config, selected env rows ⟨some organizationId, some projectId⟩ request = some config ∧
      config.projectId = some projectId
  shared : ∀ config, selected env rows ⟨some organizationId, some projectId⟩ request = some config →
    config.projectId = some projectId ∨ config.projectId = none
  listed : ∀ config, selected env rows ⟨some organizationId, some projectId⟩ request = some config →
    config ∈ listProviderConfigs env rows organizationId (some projectId)

section
variable {env : ProviderEnv} {nulls : NullsWhenDescending} {rows : List SecretProviderConfig} {job : ProviderJob}
  {request : ProviderRequest} {organizationId projectId : String} {a b c config other : SecretProviderConfig}

theorem projectBefore_total (nulls : NullsWhenDescending) (p q : Option String) :
    ProjectBefore nulls p q ∨ p = q ∨ ProjectBefore nulls q p := by
  cases p with
  | none =>
    cases q with
    | none => exact .inr (.inl rfl)
    | some q =>
      cases nulls with
      | first => exact .inl rfl
      | last => exact .inr (.inr rfl)
  | some p =>
    cases q with
    | none =>
      cases nulls with
      | first => exact .inr (.inr rfl)
      | last => exact .inl rfl
    | some q =>
      rcases lt_trichotomy q p with less | rfl | more
      · exact .inl less
      · exact .inr (.inl rfl)
      · exact .inr (.inr more)

theorem projectBefore_trans {p q r : Option String} (first : ProjectBefore nulls p q)
    (second : ProjectBefore nulls q r) :
    ProjectBefore nulls p r := by
  cases p <;> cases q <;> cases r <;> simp only [ProjectBefore] at first second ⊢
  · rw [first] at second
    cases second
  · exact first
  · rw [first] at second
    cases second
  · exact second
  · exact lt_trans second first

theorem before_total (a b : SecretProviderConfig) : a.Before nulls b ∨ b.Before nulls a := by
  rcases projectBefore_total nulls a.projectId b.projectId with before | same | after
  · exact .inl (.inl before)
  · rcases le_total b.updatedAt a.updatedAt with older | newer
    · exact .inl (.inr ⟨same, older⟩)
    · exact .inr (.inr ⟨same.symm, newer⟩)
  · exact .inr (.inl after)

theorem before_trans (first : a.Before nulls b) (second : b.Before nulls c) : a.Before nulls c := by
  rcases first with before | ⟨same, newer⟩
  · rcases second with also | ⟨equal, -⟩
    · exact .inl (projectBefore_trans before also)
    · rw [equal] at before
      exact .inl before
  · rcases second with also | ⟨equal, newest⟩
    · rw [← same] at also
      exact .inl also
    · exact .inr ⟨same.trans equal, newest.trans newer⟩

/-- What is picked is a match of the project or of the organization, and no
such match comes before it. -/
theorem pick_some (picked : pick env rows job request = some config) :
    config ∈ rows ∧ config.Matches job request ∧ (config.projectId = none ∨ config.projectId = job.projectId) ∧
      ∀ other ∈ rows, other.Matches job request → (other.projectId = none ∨ other.projectId = job.projectId) →
        config.Before env.nulls other := by
  obtain ⟨serves, earlier, later, split, unfit⟩ := List.find?_eq_some_iff_append.mp picked
  have whole : ∀ x, x ∈ earlier ++ config :: later ↔ x ∈ rows ∧ x.Matches job request := by
    intro x
    rw [← split, List.mem_insertionSort, List.mem_filter]
    exact .rfl
  obtain ⟨inRows, matches_⟩ := (whole config).mp (List.mem_append_right _ List.mem_cons_self)
  refine ⟨inRows, matches_, of_decide_eq_true serves, fun other inOthers fits servesToo => ?_⟩
  have total : Std.Total (SecretProviderConfig.Before env.nulls) := ⟨before_total⟩
  have trans : IsTrans SecretProviderConfig (SecretProviderConfig.Before env.nulls) := ⟨fun _ _ _ => before_trans⟩
  have sorted := List.pairwise_insertionSort (SecretProviderConfig.Before env.nulls)
    (rows.filter (candidate job request))
  rw [split] at sorted
  rcases List.mem_append.mp ((whole other).mpr ⟨inOthers, fits⟩) with before | after
  · have unfitting := unfit other before
    rw [decide_eq_true servesToo] at unfitting
    cases unfitting
  · rcases List.mem_cons.mp after with rfl | behind
    · exact .inr ⟨rfl, le_refl _⟩
    · exact (List.pairwise_cons.mp (List.pairwise_append.mp sorted).2.1).1 other behind

theorem pick_of_match (env : ProviderEnv) (inRows : config ∈ rows) (matches_ : config.Matches job request)
    (serves : config.projectId = none ∨ config.projectId = job.projectId) :
    ∃ chosen, pick env rows job request = some chosen := by
  refine Option.isSome_iff_exists.mp (List.find?_isSome.mpr ⟨config, ?_, decide_eq_true serves⟩)
  exact (List.mem_insertionSort _).mpr (List.mem_filter.mpr ⟨inRows, matches_⟩)

/-- `IN (NULL, ...)` is true of the named project only. -/
theorem sqlIn_null (value : Option String) (name : String) : sqlIn value [none, some name] = some true ↔
    value = some name := by
  cases value with
  | none => exact ⟨fun holds => (nomatch holds), fun same => (nomatch same)⟩
  | some value =>
    change sqlOr none (sqlOr (some (value == name)) (some false)) = some true ↔ _
    cases same : value == name with
    | true => exact ⟨fun _ => congrArg some (beq_iff_eq.mp same), fun _ => rfl⟩
    | false =>
      refine ⟨fun holds => (nomatch holds), fun equal => ?_⟩
      rw [beq_iff_eq.mpr (Option.some.inj equal)] at same
      cases same

theorem mem_list (nonempty : projectId ≠ "") (matches_ : config.Matches ⟨some organizationId, some projectId⟩ request)
    (inRows : config ∈ rows) : config ∈ listProviderConfigs env rows organizationId (some projectId) ↔
      config.projectId = some projectId := by
  have ofOrganization : config.organizationId = organizationId := by
    unfold SecretProviderConfig.Matches candidate at matches_
    simp only [Bool.and_eq_true, decide_eq_true_eq] at matches_
    exact (Option.some.inj matches_.1.1.1).symm
  have asked : present (some projectId) = some projectId := by
    unfold present
    exact Option.filter_eq_some_iff.mpr ⟨rfl, decide_eq_true nonempty⟩
  unfold listProviderConfigs
  rw [List.mem_insertionSort, List.mem_filter, asked, decide_eq_true_iff, and_iff_right inRows,
    and_iff_right ofOrganization, Option.all_some, decide_eq_true_iff, sqlIn_null]

/-- What `_provider_config` returns is the row it selected. -/
theorem providerConfig_selected (returned : providerConfig env rows job request = .ok (some config)) :
    selected env rows job request = some config := by
  unfold providerConfig at returned
  unfold selected
  split at returned
  · split at returned <;> cases returned
  · rename_i other
    rw [if_neg other]
    cases picked : pick env rows job request with
    | none =>
      rw [picked] at returned
      cases returned
    | some row =>
      rw [picked] at returned
      dsimp only at returned
      split at returned
      · cases returned
      · cases valid : env.validate row.provider row.metadata with
        | error e =>
          rw [valid] at returned
          cases returned
        | ok _ =>
          rw [valid] at returned
          cases returned
          rfl

theorem chosen_environment (asked : request.provider = "environment") :
    ChosenForProject env rows organizationId projectId request ↔
      ∀ config ∈ rows, config.Matches ⟨some organizationId, some projectId⟩ request →
        config.projectId ≠ some projectId := by
  have none_ : selected env rows ⟨some organizationId, some projectId⟩ request = none := if_pos asked
  constructor
  · intro chosen config inRows matches_ own
    obtain ⟨other, isSelected, -⟩ := chosen.own ⟨config, inRows, matches_, own⟩
    cases none_.symm.trans isSelected
  · intro apart
    refine ⟨fun ⟨config, inRows, matches_, own⟩ => absurd own (apart config inRows matches_), ?_, ?_⟩ <;>
      intro config isSelected <;> cases none_.symm.trans isSelected

theorem chosen_stored (nonempty : projectId ≠ "") (stored : request.provider ≠ "environment") :
    ChosenForProject env rows organizationId projectId request ↔
      (∀ config ∈ rows, config.Matches ⟨some organizationId, some projectId⟩ request → config.projectId ≠ none) ∨
        env.nulls = .last ∧ ∃ config ∈ rows, config.Matches ⟨some organizationId, some projectId⟩ request ∧
          config.projectId = some projectId := by
  have isPick : selected env rows ⟨some organizationId, some projectId⟩ request =
      pick env rows ⟨some organizationId, some projectId⟩ request := if_neg stored
  constructor
  · intro chosen
    by_cases wide : ∃ config ∈ rows, config.Matches ⟨some organizationId, some projectId⟩ request ∧
      config.projectId = none
    · obtain ⟨config, inRows, matches_, unscoped⟩ := wide
      obtain ⟨picked, isPicked⟩ := pick_of_match env inRows matches_ (.inl unscoped)
      obtain ⟨pickedRow, pickedMatches, -, first⟩ := pick_some isPicked
      have own := (mem_list nonempty pickedMatches pickedRow).mp (chosen.listed picked (isPick.trans isPicked))
      have before := first config inRows matches_ (.inl unscoped)
      unfold SecretProviderConfig.Before at before
      rw [own, unscoped] at before
      rcases before with last | ⟨same, -⟩
      · exact .inr ⟨last, picked, pickedRow, pickedMatches, own⟩
      · cases same
    · exact .inl fun config inRows matches_ unscoped => wide ⟨config, inRows, matches_, unscoped⟩
  · intro condition
    have own : ∀ config, selected env rows ⟨some organizationId, some projectId⟩ request = some config →
        config.projectId = some projectId := by
      intro config picked
      obtain ⟨inRows, matches_, serves, first⟩ := pick_some (isPick.symm.trans picked)
      rcases serves with unscoped | own
      · rcases condition with none_ | ⟨last, other, otherRow, otherMatches, otherOwn⟩
        · exact absurd unscoped (none_ config inRows matches_)
        · have before := first other otherRow otherMatches (.inr otherOwn)
          unfold SecretProviderConfig.Before at before
          rw [unscoped, otherOwn, last] at before
          rcases before with wrong | ⟨same, -⟩
          · cases wrong
          · cases same
      · exact own
    refine ⟨fun ⟨config, inRows, matches_, isOwn⟩ => ?_, fun config picked => .inl (own config picked),
      fun config picked => ?_⟩
    · obtain ⟨picked, isPicked⟩ := pick_of_match env inRows matches_ (.inr isOwn)
      exact ⟨picked, isPick.trans isPicked, own picked (isPick.trans isPicked)⟩
    · obtain ⟨inRows, matches_, -, -⟩ := pick_some (isPick.symm.trans picked)
      exact (mem_list nonempty matches_ inRows).mpr (own config picked)

end

/-- The right configuration is chosen and shown exactly if none of the whole
organization matches, or null values come last and one of the project matches;
for the environment, exactly if none of the project matches. -/
theorem chosen_for_project_iff (env : ProviderEnv) (rows : List SecretProviderConfig)
    (organizationId projectId : String)
    (request : ProviderRequest) (nonempty : projectId ≠ "") :
    ChosenForProject env rows organizationId projectId request ↔
      if request.provider = "environment" then
        ∀ config ∈ rows, config.Matches ⟨some organizationId, some projectId⟩ request →
          config.projectId ≠ some projectId
      else
        (∀ config ∈ rows, config.Matches ⟨some organizationId, some projectId⟩ request → config.projectId ≠ none) ∨
          env.nulls = .last ∧ ∃ config ∈ rows, config.Matches ⟨some organizationId, some projectId⟩ request ∧
            config.projectId = some projectId := by
  split
  · exact chosen_environment ‹_›
  · exact chosen_stored nonempty ‹_›

namespace ProviderSample

/-- A vault of the organization, and one of the project. -/
def vaults : List SecretProviderConfig :=
  [⟨"w", "o", none, "shared", "vault", true, true, .null, 2⟩,
    ⟨"v", "o", some "p", "own", "vault", true, true, .null, 1⟩]

def env (nulls : NullsWhenDescending) : ProviderEnv := ⟨nulls, true, fun _ _ => .ok ()⟩

theorem own_chosen : ChosenForProject (env .last) vaults "o" "p" ⟨"vault", none⟩ := by
  refine (chosen_for_project_iff (env .last) vaults "o" "p" ⟨"vault", none⟩ (by decide)).mpr ?_
  rw [if_neg (by decide)]
  exact .inr ⟨rfl, _, List.mem_cons_of_mem _ List.mem_cons_self, rfl, rfl⟩

/-- Where null values come first, the vault of the organization is picked. -/
theorem shared_picked : ¬ChosenForProject (env .first) vaults "o" "p" ⟨"vault", none⟩ := by
  intro chosen
  obtain ⟨config, picked, own⟩ := chosen.own ⟨_, List.mem_cons_of_mem _ List.mem_cons_self, rfl, rfl⟩
  have shared : (selected (env .first) vaults ⟨some "o", some "p"⟩ ⟨"vault", none⟩).map SecretProviderConfig.projectId =
      some none := by decide +kernel
  rw [picked, Option.map_some, own] at shared
  cases shared

end ProviderSample

end SacmRuntime
