import SacmRuntime.Governance.PolicyService

namespace SacmRuntime
open Session GovernancePolicyService NetworkBoundary Json Tx

inductive PolicyRequest where
  | create (organizationId : String) (payload : GovernancePolicyCreate) (actor : String)
  | activate (organizationId policyId actor : String)
  | retire (organizationId policyId : String)

/-- The store after a call, with the answers of the checks around it. -/
def PolicyRequest.after (op : PolicyRequest × PolicyChecks) (d : PolicyDb) (supply : Supply) : PolicyDb :=
  match op.1 with
  | .create organizationId payload actor =>
      (request (GovernancePolicyService.create op.2 organizationId payload actor) d supply).2
  | .activate organizationId policyId actor =>
      (request (GovernancePolicyService.activate op.2 organizationId policyId actor) d supply).2
  | .retire organizationId policyId =>
      (request (GovernancePolicyService.retire op.2 organizationId policyId) d supply).2

inductive GovernanceTarget where
  | organization (id : String)
  | project (id : String)

def GovernancePolicy.target (organizationId : String) (policy : GovernancePolicy) : GovernanceTarget :=
  match policy.projectId.filter (· ≠ "") with
  | some projectId => .project projectId
  | none => .organization organizationId

def PolicyDb.metadata (d : PolicyDb) : GovernanceTarget → Option Json
  | .organization id => (d.organizations.find id).bind GovernedOrganization.governanceMetadata
  | .project id => (d.projects.find id).bind GovernedProject.governanceMetadata

/-- The call activates a policy for the target: it names a complete draft of
its organization and is permitted. -/
def Activates (d : PolicyDb) (op : PolicyRequest × PolicyChecks) (target : GovernanceTarget) : Prop :=
  ∃ organizationId policyId actor policy, op.1 = .activate organizationId policyId actor ∧
    ownPolicy d organizationId policyId = some policy ∧ op.2.permission = .ok () ∧ policy.status = .draft ∧
    missingCategories d policy.id = [] ∧ policy.target organizationId = target

/-- Some call of the sequence activates a policy for the target. -/
def Activated : List ((PolicyRequest × PolicyChecks) × Supply) → PolicyDb → GovernanceTarget → Prop
  | [], _, _ => False
  | request :: rest, d, target => Activates d request.1 target ∨
      Activated rest (PolicyRequest.after request.1 d request.2) target

def PolicyDb.entry (d : PolicyDb) (target : GovernanceTarget) (key : String) : Option Json :=
  (d.metadata target).bind fun metadata => metadata.field? key

def activationKeys : List String := ["active_policy_id", "active_policy_version", "activated_at"]

/-- The metadata of the target holds a policy for executors. -/
def HasNetworkPolicy (d : PolicyDb) (target : GovernanceTarget) :
    Prop := d.entry target "executor_network_policy" ≠ none

def Rejected (env : BoundaryEnv) (d : PolicyDb) (organizationId projectId : Option String) (boundary : Json)
    (storageRegion : Option String) : Prop :=
  ∃ error, validateNetworkBoundary env d.organizations d.projects organizationId projectId boundary storageRegion =
    .error error

section Effects
variable {d : PolicyDb} {supply : Supply} {op : PolicyRequest × PolicyChecks} {target : GovernanceTarget} {key : String}

structure SameTenants (d e : PolicyDb) : Prop where
  organizations : e.organizations = d.organizations
  projects : e.projects = d.projects

def EndsWith {α : Type} (holds : PolicyDb → Prop) (outcome : Except Error α × Session PolicyDb) : Prop :=
  holds outcome.2.committed

variable {actor organizationId policyId : String} {checks : PolicyChecks} {policy : GovernancePolicy}

/-- The rules of a new policy are added one by one. -/
theorem outcome_addRules {β : Type} {P : Except Error β × Session PolicyDb → Prop}
    {categories : List ResourceCategory} {f : Unit → PolicyMethod β} {s : Session PolicyDb}
    (raised : ∀ error t, t.committed = s.committed → P (.error error, t))
    (rest : ∀ t, t.committed = s.committed → SameTenants s.working t.working → P (f () t)) :
    P ((addRules policyId categories >>= f) s) := by
  induction categories generalizing s f with
  | nil => exact rest s rfl ⟨rfl, rfl⟩
  | cons category categories ih =>
    unfold addRules
    rw [bind_assoc_run, bind_uuid4, bind_assoc_run, bind_view, bind_assoc_run]
    refine outcome_expect (raised _ _ rfl) fun rules _ => ?_
    rw [bind_assoc_run, bind_modify]
    exact ih raised fun t same tenants => rest t same ⟨tenants.organizations, tenants.projects⟩

theorem create_tenants (checks : PolicyChecks) (organizationId : String) (payload : GovernancePolicyCreate)
    (actor : String) :
    SameTenants d (request (create checks organizationId payload actor) d supply).2 := by
  unfold request create
  refine outcome_ofExcept (P := EndsWith (SameTenants d)) (fun _ => ⟨rfl, rfl⟩) fun _ _ => ?_
  have checked : ∀ f : Unit → PolicyMethod GovernancePolicy, EndsWith (SameTenants d) (f () (start d supply)) →
      EndsWith (SameTenants d) ((validateProject organizationId payload.projectId >>= f) (start d supply)) := by
    intro f rest
    unfold validateProject
    split
    · exact rest
    · rw [bind_assoc_run, bind_view, bind_assoc_run]
      exact outcome_expect (P := EndsWith (SameTenants d)) ⟨rfl, rfl⟩ fun _ _ => rest
  refine checked _ ?_
  rw [bind_view, bind_uuid4, bind_view]
  refine outcome_expect (P := EndsWith (SameTenants d)) ⟨rfl, rfl⟩ fun policies _ => ?_
  rw [bind_modify, bind_flush]
  refine outcome_addRules (P := EndsWith (SameTenants d))
    (fun error t same => by unfold EndsWith; rw [same]; exact ⟨rfl, rfl⟩)
    fun t _ tenants => ?_
  rw [bind_commit]
  have stored : SameTenants d t.working := ⟨tenants.organizations, tenants.projects⟩
  exact outcome_ofExcept (P := EndsWith (SameTenants d)) (fun _ => stored) fun _ _ => stored

theorem authorized_cases {β : Type} {f : GovernancePolicy → PolicyMethod β}
    {P : Except Error β × Session PolicyDb → Prop} (refused : ∀ error, P (.error error, start d supply))
    (rest : ∀ policy, ownPolicy d organizationId policyId = some policy → checks.permission = .ok () →
      P (f policy (start d supply)))
    : P ((authorized checks organizationId policyId >>= f) (start d supply)) := by
  unfold authorized
  rw [bind_assoc_run, bind_view, bind_assoc_run]
  refine outcome_expect (refused _) fun policy found => ?_
  rw [bind_assoc_run]
  exact outcome_ofExcept refused fun _ permitted => rest policy found permitted

/-- An activation changes nothing, or activates a draft that has a rule for every
category. -/
theorem activate_cases (checks : PolicyChecks) (organizationId policyId actor : String) :
    (request (activate checks organizationId policyId actor) d supply).2 = d ∨
    ∃ policy, ownPolicy d organizationId policyId = some policy ∧ checks.permission = .ok () ∧ policy.status = .draft ∧
      missingCategories d policy.id = [] ∧
      (request (activate checks organizationId policyId actor) d supply).2 =
        activated organizationId actor (supply.clock 0) policy d := by
  unfold request activate
  refine authorized_cases (P := EndsWith fun e => e = d ∨ ∃ policy, ownPolicy d organizationId policyId = some policy ∧
    checks.permission = .ok () ∧ policy.status = .draft ∧ missingCategories d policy.id = [] ∧
    e = activated organizationId actor (supply.clock 0) policy d) (fun _ => .inl rfl) fun policy found permitted => ?_
  by_cases draft : policy.status = .draft
  · rw [if_neg (by simpa using draft), bind_view]
    by_cases complete : missingCategories d policy.id = []
    · have go : ¬missingCategories (start d supply).working policy.id ≠ [] := by simpa using complete
      rw [if_neg go, bind_utcnow, bind_modify, bind_commit]
      have through : ∃ found, ownPolicy d organizationId policyId = some found ∧ checks.permission = .ok () ∧
          found.status = .draft ∧ missingCategories d found.id = [] ∧
          activated organizationId actor (supply.clock 0) policy d = activated organizationId actor
            (supply.clock 0) found d :=
        ⟨policy, found, permitted, draft, complete, rfl⟩
      exact outcome_ofExcept (fun _ => .inr through) fun _ _ => .inr through
    · have stop : missingCategories (start d supply).working policy.id ≠ [] := complete
      rw [if_pos stop]
      exact .inl rfl
  · rw [if_pos draft]
    exact .inl rfl

theorem activate_run (found : ownPolicy d organizationId policyId = some policy)
    (permitted : checks.permission = .ok ()) (draft : policy.status = .draft)
    (complete : missingCategories d policy.id = []) :
    (request (activate checks organizationId policyId actor) d supply).2 =
      activated organizationId actor (supply.clock 0) policy d := by
  have go : ¬missingCategories (start d supply).working policy.id ≠ [] := by simpa using complete
  have here : ownPolicy (start d supply).working organizationId policyId = some policy := found
  unfold request activate authorized
  rw [bind_assoc_run, bind_view, here, bind_assoc_run, bind_expect_some, permitted, bind_assoc_run]
  unfold Tx.ofExcept
  rw [bind_pure_run, bind_pure_run, if_neg (by simpa using draft), bind_view, if_neg go, bind_utcnow, bind_modify,
    bind_commit]
  cases checks.audit <;> rfl

theorem retire_tenants (checks : PolicyChecks) (organizationId policyId : String) :
    SameTenants d (request (retire checks organizationId policyId) d supply).2 := by
  unfold request retire
  refine authorized_cases (P := EndsWith (SameTenants d)) (fun _ => ⟨rfl, rfl⟩) fun policy _ _ => ?_
  split
  · exact ⟨rfl, rfl⟩
  · rw [bind_utcnow, bind_modify, bind_commit]
    exact outcome_ofExcept (fun _ => ⟨rfl, rfl⟩) fun _ _ => ⟨rfl, rfl⟩

theorem metadata_activated_ne {now : Nat} (other : target ≠ policy.target organizationId) :
    (activated organizationId actor now policy d).metadata target = d.metadata target := by
  unfold GovernancePolicy.target at other
  unfold activated
  cases named : policy.projectId.filter (· ≠ "") with
  | some projectId =>
    simp only [named] at other ⊢
    cases target with
    | organization id => rfl
    | project id =>
      have different : id ≠ projectId := fun same => other (by rw [same])
      change ((d.projects.update projectId _).find id).bind _ = _
      rw [Table.find_update_ne different]
      rfl
  | none =>
    simp only [named] at other ⊢
    cases target with
    | organization id =>
      have different : id ≠ organizationId := fun same => other (by rw [same])
      change ((d.organizations.update organizationId _).find id).bind _ = _
      rw [Table.find_update_ne different]
      rfl
    | project id => rfl

theorem metadata_activated (organizationId actor : String) (now : Nat) (policy : GovernancePolicy) :
    (activated organizationId actor now policy d).metadata (policy.target organizationId) = none ∨
    (activated organizationId actor now policy d).metadata (policy.target organizationId) = some
    (activeMetadata policy now) := by
  unfold GovernancePolicy.target activated
  cases named : policy.projectId.filter (· ≠ "") with
  | some projectId =>
    change ((d.projects.update projectId _).find projectId).bind _ = _ ∨
      ((d.projects.update projectId _).find projectId).bind _ = _
    rw [Table.find_update, if_pos rfl]
    cases d.projects.find projectId <;> simp [Table.rewriteRow, Keyed.key]
  | none =>
    change ((d.organizations.update organizationId _).find organizationId).bind _ = _ ∨
      ((d.organizations.update organizationId _).find organizationId).bind _ = _
    rw [Table.find_update, if_pos rfl]
    cases d.organizations.find organizationId <;> simp [Table.rewriteRow, Keyed.key]

theorem owner_activated (organizationId actor : String) (now : Nat) (policy : GovernancePolicy) (id : String) :
    ((activated organizationId actor now policy d).projects.find id).map GovernedProject.organizationId =
      (d.projects.find id).map GovernedProject.organizationId := by
  unfold activated
  cases policy.projectId.filter (· ≠ "") with
  | some projectId =>
    by_cases here : id = projectId
    · subst here
      change ((d.projects.update id _).find id).map _ = _
      rw [Table.find_update, if_pos rfl]
      cases d.projects.find id <;> simp [Table.rewriteRow, Keyed.key]
    · change ((d.projects.update projectId _).find id).map _ = _
      rw [Table.find_update_ne here]
  | none => rfl

theorem SameTenants.metadata {e : PolicyDb} (same : SameTenants d e) (target : GovernanceTarget) :
    e.metadata target = d.metadata target := by
  cases target <;> simp only [PolicyDb.metadata, same.organizations, same.projects]

/-- The metadata of a target is replaced by an activation for it, and by nothing else. -/
theorem after_metadata (op : PolicyRequest × PolicyChecks) (supply : Supply) (target : GovernanceTarget) :
    (Activates d op target ∧ ((PolicyRequest.after op d supply).metadata target = none ∨
      ∃ policy now, (PolicyRequest.after op d supply).metadata target = some (activeMetadata policy now))) ∨
    (¬Activates d op target ∧ (PolicyRequest.after op d supply).metadata target = d.metadata target) := by
  obtain ⟨call, checks⟩ := op
  cases call with
  | create organizationId payload actor =>
    refine .inr ⟨?_, (create_tenants checks organizationId payload actor).metadata target⟩
    rintro ⟨_, _, _, _, impossible, -⟩
    cases impossible
  | retire organizationId policyId =>
    refine .inr ⟨?_, (retire_tenants checks organizationId policyId).metadata target⟩
    rintro ⟨_, _, _, _, impossible, -⟩
    cases impossible
  | activate organizationId policyId actor =>
    by_cases activates : Activates d (.activate organizationId policyId actor, checks) target
    · refine .inl ⟨activates, ?_⟩
      obtain ⟨_, _, _, policy, named, found, permitted, draft, complete, here⟩ := activates
      cases named
      have run : PolicyRequest.after (.activate organizationId policyId actor, checks) d supply =
          activated organizationId actor (supply.clock 0) policy d := activate_run found permitted draft complete
      rw [run, ← here]
      rcases metadata_activated organizationId actor (supply.clock 0) policy with gone | replaced
      · exact .inl gone
      · exact .inr ⟨policy, _, replaced⟩
    · refine .inr ⟨activates, ?_⟩
      have effect : PolicyRequest.after (.activate organizationId policyId actor, checks) d supply =
          (request (GovernancePolicyService.activate checks organizationId policyId actor) d supply).2 := rfl
      rw [effect]
      rcases activate_cases checks organizationId policyId actor with same | ⟨policy, found, permitted, draft,
        complete, run⟩
      · rw [same]
      · rw [run]
        refine metadata_activated_ne fun here => activates ?_
        exact ⟨organizationId, policyId, actor, policy, rfl, found, permitted, draft, complete, here.symm⟩

theorem after_owner (op : PolicyRequest × PolicyChecks) (supply : Supply) (id : String) :
    ((PolicyRequest.after op d supply).projects.find id).map GovernedProject.organizationId =
      (d.projects.find id).map GovernedProject.organizationId := by
  obtain ⟨call, checks⟩ := op
  cases call with
  | create organizationId payload actor =>
    have tenants : SameTenants d (PolicyRequest.after (.create organizationId payload actor, checks) d supply) :=
      create_tenants checks organizationId payload actor
    rw [tenants.projects]
  | retire organizationId policyId =>
    have tenants : SameTenants d (PolicyRequest.after (.retire organizationId policyId, checks) d supply) :=
      retire_tenants checks organizationId policyId
    rw [tenants.projects]
  | activate organizationId policyId actor =>
    have effect : PolicyRequest.after (.activate organizationId policyId actor, checks) d supply =
        (request (GovernancePolicyService.activate checks organizationId policyId actor) d supply).2 := rfl
    rw [effect]
    rcases activate_cases checks organizationId policyId actor with same | ⟨policy, -, -, -, -, run⟩
    · rw [same]
    · rw [run]
      exact owner_activated organizationId actor _ policy id

end Effects

section Admission
variable {env : BoundaryEnv} {d e : PolicyDb} {key : String}

variable {a b : Json}

theorem get_set_same (same : a.get key = b.get key) (other : String) (value : Json) :
    (a.set other value).get key = (b.set other value).get key := by
  by_cases here : key = other
  · subst here
    rw [get_set_self, get_set_self]
  · rw [get_set_ne here, get_set_ne here, same]

theorem get_update_same (same : a.get key = b.get key) (metadata : Option Json) :
    (update a metadata).get key = (update b metadata).get key := by
  unfold update
  split
  · rename_i fields
    induction fields generalizing a b with
    | nil => exact same
    | cons field rest ih => exact ih (get_set_same same field.1 field.2)
  · exact same

theorem get_update_absent {metadata : Option Json} (absent : metadata.bind (·.field? key) = none) :
    (update a metadata).get key = a.get key := by
  unfold update
  split
  · rename_i fields
    have missing : ∀ field ∈ fields, field.1 ≠ key := by
      simpa [field?] using absent
    clear absent
    induction fields generalizing a with
    | nil => rfl
    | cons field rest ih =>
      have different : key ≠ field.1 := (missing field (by simp)).symm
      have later : ∀ field ∈ rest, field.1 ≠ key := fun other member => missing other (by simp [member])
      rw [List.foldl_cons, ih later, get_set_ne different]
  · rfl

/-- A target keeps its metadata, or had no policy for executors and has none. -/
def KeepsPolicy (d e : PolicyDb) (target : GovernanceTarget) : Prop :=
  e.metadata target = d.metadata target ∨ (¬HasNetworkPolicy d target ∧ ¬HasNetworkPolicy e target)

theorem KeepsPolicy.get_update {target : GovernanceTarget} (keeps : KeepsPolicy d e target)
    (same : a.get "executor_network_policy" = b.get "executor_network_policy") :
    (update a (e.metadata target)).get "executor_network_policy" =
    (update b (d.metadata target)).get "executor_network_policy" := by
  rcases keeps with kept | ⟨before, after⟩
  · rw [kept]
    exact get_update_same same _
  · rw [get_update_absent (not_not.mp after), get_update_absent (not_not.mp before), same]

/-- Where every target keeps its policy, the policy for executors is the same. -/
theorem executorPolicy_same (keeps : ∀ target, KeepsPolicy d e target)
    (owners : ∀ id, (e.projects.find id).map GovernedProject.organizationId =
      (d.projects.find id).map GovernedProject.organizationId)
    (organizationId projectId : Option String) :
    executorPolicy e.organizations e.projects organizationId projectId =
      executorPolicy d.organizations d.projects organizationId projectId := by
  have organizationLevel : ∀ owner : Option String,
      (update (.obj [])
        (((owner.filter (· ≠ "")).bind e.organizations.find).bind GovernedOrganization.governanceMetadata)).get
          "executor_network_policy" =
        (update (.obj [])
          (((owner.filter (· ≠ "")).bind d.organizations.find).bind GovernedOrganization.governanceMetadata)).get
          "executor_network_policy" := by
    intro owner
    cases owner.filter (· ≠ "") with
    | none => rfl
    | some id => exact (keeps (.organization id)).get_update rfl
  unfold executorPolicy
  simp only
  congr 1
  cases named : projectId.filter (· ≠ "") with
  | none => exact organizationLevel organizationId
  | some id =>
    have owner := owners id
    simp only [Option.bind_some]
    cases before : d.projects.find id with
    | none =>
      cases after : e.projects.find id with
      | none => exact organizationLevel organizationId
      | some row => simp [before, after] at owner
    | some old =>
      cases after : e.projects.find id with
      | none => simp [before, after] at owner
      | some row =>
        have sameOwner : row.organizationId = old.organizationId := by simpa [before, after] using owner
        have merged := (keeps (.project id)).get_update (organizationLevel (some old.organizationId))
        simp only [PolicyDb.metadata, before, after] at merged
        simp only [sameOwner]
        exact merged

/-- So a boundary is rejected alike. -/
theorem rejected_same (keeps : ∀ target, KeepsPolicy d e target)
    (owners : ∀ id, (e.projects.find id).map GovernedProject.organizationId =
      (d.projects.find id).map GovernedProject.organizationId)
    {organizationId projectId storageRegion : Option String} {boundary : Json}
    (rejected : Rejected env d organizationId projectId boundary storageRegion) :
    Rejected env e organizationId projectId boundary storageRegion := by
  unfold Rejected validateNetworkBoundary at *
  rwa [executorPolicy_same keeps owners]

end Admission

section Sequences
variable {d : PolicyDb} {target : GovernanceTarget}

theorem field_activeMetadata {key : String} (policy : GovernancePolicy) (now : Nat) (other : key ∉ activationKeys) :
    (activeMetadata policy now).field? key = none := by
  simp only [activationKeys, List.mem_cons, List.not_mem_nil, or_false, not_or] at other
  simp [activeMetadata, field?, Ne.symm other.1, Ne.symm other.2.1, Ne.symm other.2.2]

/-- The metadata of an activation holds no policy for executors. -/
theorem policyless_of_replaced
    (replaced : d.metadata target = none ∨ ∃ policy now, d.metadata target = some (activeMetadata policy now)) :
    ¬HasNetworkPolicy d target := by
  have missing : d.entry target "executor_network_policy" = none := by
    unfold PolicyDb.entry
    rcases replaced with gone | ⟨policy, now, written⟩
    · rw [gone]
      rfl
    · rw [written]
      have other : "executor_network_policy" ∉ activationKeys := by decide
      exact field_activeMetadata policy now other
  exact fun holds => holds missing

theorem after_policyless (op : PolicyRequest × PolicyChecks) (supply : Supply) (none : ¬HasNetworkPolicy d target) :
    ¬HasNetworkPolicy (PolicyRequest.after op d supply) target := by
  rcases after_metadata (d := d) op supply target with ⟨-, replaced⟩ | ⟨-, same⟩
  · exact policyless_of_replaced replaced
  · unfold HasNetworkPolicy PolicyDb.entry at *
    rwa [same]

theorem after_activated {op : PolicyRequest × PolicyChecks} (supply : Supply) (activates : Activates d op target) :
    ¬HasNetworkPolicy (PolicyRequest.after op d supply) target := by
  rcases after_metadata (d := d) op supply target with ⟨-, replaced⟩ | ⟨idle, -⟩
  · exact policyless_of_replaced replaced
  · exact absurd activates idle

variable {requests : List ((PolicyRequest × PolicyChecks) × Supply)}

theorem sequence_owner (id : String) :
    ((Path.storeAfter PolicyRequest.after d requests).projects.find id).map GovernedProject.organizationId =
      (d.projects.find id).map GovernedProject.organizationId := by
  induction requests generalizing d with
  | nil => rfl
  | cons request rest ih =>
    exact (ih (d := PolicyRequest.after request.1 d request.2)).trans (after_owner request.1 request.2 id)

theorem sequence_policyless (none : ¬HasNetworkPolicy d target) :
    ¬HasNetworkPolicy (Path.storeAfter PolicyRequest.after d requests) target := by
  induction requests generalizing d with
  | nil => exact none
  | cons request rest ih => exact ih (after_policyless request.1 request.2 none)

/-- A target for which a policy was activated has no policy for executors afterwards. -/
theorem sequence_activated (activated : Activated requests d target) :
    ¬HasNetworkPolicy (Path.storeAfter PolicyRequest.after d requests) target := by
  induction requests generalizing d with
  | nil => exact absurd activated id
  | cons request rest ih =>
    rcases activated with first | later
    · have gone := after_activated request.2 first
      exact sequence_policyless (d := PolicyRequest.after request.1 d request.2) gone
    · exact ih later

/-- A target for which none was activated keeps its metadata. -/
theorem sequence_idle (idle : ¬Activated requests d target) :
    (Path.storeAfter PolicyRequest.after d requests).metadata target = d.metadata target := by
  induction requests generalizing d with
  | nil => rfl
  | cons request rest ih =>
    have here : ¬Activates d request.1 target := fun first => idle (.inl first)
    have later : ¬Activated rest (PolicyRequest.after request.1 d request.2) target := fun rest => idle (.inr rest)
    rcases after_metadata (d := d) request.1 request.2 target with ⟨activates, -⟩ | ⟨-, same⟩
    · exact absurd activates here
    · exact (ih later).trans same

/-- A sequence of calls changes only the keys of the activation in the
metadata that hold a policy for executors, and admits no boundary that was
rejected, exactly if it activates no policy for such a target. -/
theorem activation_keeps_admission_iff (requests : List ((PolicyRequest × PolicyChecks) × Supply)) (d : PolicyDb) :
    ((∀ target, HasNetworkPolicy d target → ∀ key ∉ activationKeys,
        (Path.storeAfter PolicyRequest.after d requests).entry target key = d.entry target key) ∧
      ∀ env organizationId projectId boundary storageRegion,
        Rejected env d organizationId projectId boundary storageRegion →
        Rejected env (Path.storeAfter PolicyRequest.after d requests) organizationId projectId boundary storageRegion) ↔
    ∀ target, Activated requests d target → ¬HasNetworkPolicy d target := by
  constructor
  · rintro ⟨unchanged, -⟩ target activated holds
    have gone := not_not.mp (sequence_activated activated)
    rw [unchanged target holds "executor_network_policy" (by decide)] at gone
    exact holds gone
  · intro spared
    refine ⟨fun target holds key _ => ?_, fun env organizationId projectId boundary storageRegion rejected => ?_⟩
    · unfold PolicyDb.entry
      rw [sequence_idle fun activated => spared target activated holds]
    · refine rejected_same (fun target => ?_) sequence_owner rejected
      by_cases holds : HasNetworkPolicy d target
      · exact .inl (sequence_idle fun activated => spared target activated holds)
      · exact .inr ⟨holds, sequence_policyless holds⟩

end Sequences

section Lifecycle
variable {d e : PolicyDb} {supply : Supply} {checks : PolicyChecks} {organizationId policyId actor : String}
  {policy : GovernancePolicy} {now : Nat} {policies : Table GovernancePolicy}

def PolicyStatus.rank : PolicyStatus → Nat
  | .draft => 0
  | .active => 1
  | .retired => 2

/-- What a policy may become: the same version of the same scope, further in its life. -/
structure GovernancePolicy.Becomes (old new : GovernancePolicy) : Prop where
  scope : new.organizationId = old.organizationId ∧ new.scopeKey = old.scopeKey ∧ new.version = old.version
  onward : old.status.rank ≤ new.status.rank

/-- A scope has one active policy, and a policy that is no draft has a rule for every category. -/
structure PolicyDb.Sound (d : PolicyDb) : Prop where
  single : ∀ a ∈ d.policies.rows, ∀ b ∈ d.policies.rows, a.scopeKey = b.scopeKey → a.status = .active →
    b.status = .active → a.id = b.id
  complete : ∀ a ∈ d.policies.rows, a.status ≠ .draft → missingCategories d a.id = []

structure PolicyDb.Goes (d e : PolicyDb) : Prop where
  policies : d.policies.Carries GovernancePolicy.Becomes e.policies
  rules : d.rules.rows ⊆ e.rules.rows
  sound : d.Sound → e.Sound

theorem PolicyStatus.rank_le (status : PolicyStatus) : status.rank ≤ 2 := by cases status <;> decide

theorem GovernancePolicy.becomes_refl (policy : GovernancePolicy) : policy.Becomes policy := ⟨⟨rfl, rfl, rfl⟩, le_rfl⟩

theorem GovernancePolicy.Becomes.trans (a b c : GovernancePolicy) (first : a.Becomes b) (second : b.Becomes c) :
    a.Becomes c where
  scope := ⟨second.scope.1.trans first.scope.1, second.scope.2.1.trans first.scope.2.1,
    second.scope.2.2.trans first.scope.2.2⟩
  onward := first.onward.trans second.onward

theorem PolicyDb.goes_refl (d : PolicyDb) : d.Goes d :=
  ⟨Table.carries_refl GovernancePolicy.becomes_refl _, List.Subset.refl _, id⟩

theorem PolicyDb.Goes.trans {f : PolicyDb} (first : d.Goes e) (second : e.Goes f) : d.Goes f :=
  ⟨first.policies.trans GovernancePolicy.Becomes.trans second.policies,
    fun _ member => second.rules (first.rules member), second.sound ∘ first.sound⟩

theorem missingCategories_nil (rules : d.rules.rows ⊆ e.rules.rows) (complete : missingCategories d policyId = []) :
    missingCategories e policyId = [] := by
  unfold missingCategories at complete ⊢
  simp only [List.filter_eq_nil_iff, Bool.not_eq_true', Bool.not_eq_false, List.any_eq_true] at complete ⊢
  intro category listed
  obtain ⟨rule, stored, is⟩ := complete category listed
  exact ⟨rule, rules stored, is⟩

def retiredRow (now : Nat) (row : GovernancePolicy) : GovernancePolicy :=
  { row with status := .retired, retiredAt := some now }

def activatedRow (actor : String) (now : Nat) (row : GovernancePolicy) : GovernancePolicy :=
  { row with status := .active, activatedBy := some actor, activatedAt := some now }

theorem mem_retired {q : GovernancePolicy → Bool} {row : GovernancePolicy}
    (member : row ∈ (d.policies.updateWhere q (retiredRow now)).rows) :
    (row ∈ d.policies.rows ∧ q row = false) ∨ ∃ old ∈ d.policies.rows, q old = true ∧ row = retiredRow now old := by
  obtain ⟨old, stored, rfl⟩ := List.mem_map.mp member
  by_cases here : q old = true
  · rw [if_pos here]
    exact .inr ⟨old, stored, here, Table.rewriteRow_of_keeps rfl⟩
  · rw [if_neg here]
    exact .inl ⟨stored, by simpa using here⟩

theorem goes_retired {q : GovernancePolicy → Bool}
    (active : ∀ row ∈ d.policies.rows, q row = true → row.status = .active) :
    d.Goes { d with policies := d.policies.updateWhere q (retiredRow now) } := by
  refine ⟨?_, List.Subset.refl _, fun sound => ⟨fun a atA b atB scope activeA activeB => ?_, fun a atA ruled => ?_⟩⟩
  · exact Table.carries_updateWhere GovernancePolicy.becomes_refl fun row _ _ =>
      ⟨rfl, ⟨rfl, rfl, rfl⟩, row.status.rank_le⟩
  · rcases mem_retired atA with ⟨oldA, -⟩ | ⟨_, -, -, rfl⟩
    · rcases mem_retired atB with ⟨oldB, -⟩ | ⟨_, -, -, rfl⟩
      · exact sound.single a oldA b oldB scope activeA activeB
      · cases activeB
    · cases activeA
  · rcases mem_retired atA with ⟨old, -⟩ | ⟨old, stored, here, rfl⟩
    · exact sound.complete a old ruled
    · exact sound.complete old stored (by rw [active old stored here]; decide)

theorem goes_activated (actor : String) (now : Nat) (stored : d.policies.find policy.id = some policy)
    (draft : policy.status = .draft) (complete : missingCategories d policy.id = [])
    (alone : ∀ row ∈ d.policies.rows, row.scopeKey = policy.scopeKey → row.status ≠ .active) :
    d.Goes { d with policies := d.policies.update policy.id (activatedRow actor now) } := by
  have rows : ∀ row ∈ (d.policies.update policy.id (activatedRow actor now)).rows,
      row ∈ d.policies.rows ∨ row = activatedRow actor now policy := by
    intro row member
    rcases Table.mem_update member with old | ⟨old, found, rfl⟩
    · exact .inl old
    · cases stored.symm.trans found
      exact .inr (Table.rewriteRow_of_keeps rfl)
  refine ⟨Table.carries_update GovernancePolicy.becomes_refl fun row found => ?_, List.Subset.refl _, fun sound =>
    ⟨fun a atA b atB scope activeA activeB => ?_, fun a atA ruled => ?_⟩⟩
  · cases stored.symm.trans found
    exact ⟨rfl, ⟨rfl, rfl, rfl⟩, draft ▸ Nat.zero_le _⟩
  · rcases rows a atA with oldA | rfl <;> rcases rows b atB with oldB | rfl
    · exact sound.single a oldA b oldB scope activeA activeB
    · exact absurd activeA (alone a oldA scope)
    · exact absurd activeB (alone b oldB scope.symm)
    · rfl
  · rcases rows a atA with old | rfl
    · exact sound.complete a old ruled
    · exact complete

theorem retire_goes : d.Goes (request (retire checks organizationId policyId) d supply).2 := by
  unfold request retire
  refine authorized_cases (P := EndsWith d.Goes) (fun _ => d.goes_refl) fun policy found _ => ?_
  have stored := Table.find_of_mem (Table.find_mem (Option.filter_eq_some_iff.mp found).1)
  refine outcome_ite (P := EndsWith d.Goes) (fun _ => d.goes_refl) fun active => ?_
  rw [bind_utcnow, bind_modify, bind_commit]
  have goes : d.Goes { d with policies := d.policies.update policy.id (retiredRow (supply.clock 0)) } := by
    refine goes_retired fun row member here => ?_
    have same : Keyed.key row = policy.id := by simpa using here
    cases (same ▸ Table.find_of_mem member).symm.trans stored
    exact not_not.mp active
  exact outcome_ofExcept (P := EndsWith d.Goes) (fun _ => goes) fun _ _ => goes

def activeIn (scope : String) (row : GovernancePolicy) : Bool := row.scopeKey == scope && decide (row.status = .active)

theorem PolicyDb.Goes.congr {f : PolicyDb} (goes : d.Goes e) (policies : f.policies = e.policies)
    (rules : f.rules = e.rules) : d.Goes f := by
  refine ⟨policies ▸ goes.policies, rules ▸ goes.rules, fun sound => ⟨policies ▸ (goes.sound sound).single, ?_⟩⟩
  intro a atA ruled
  refine missingCategories_nil (rules ▸ List.Subset.refl _) ((goes.sound sound).complete a (policies ▸ atA) ruled)

/-- Activating retires the active policy of the scope first. -/
theorem activate_goes : d.Goes (request (activate checks organizationId policyId actor) d supply).2 := by
  rcases activate_cases checks organizationId policyId actor with same | ⟨policy, found, -, draft, complete, same⟩
  · rw [same]
    exact d.goes_refl
  · have stored := Table.find_of_mem (Table.find_mem (Option.filter_eq_some_iff.mp found).1)
    set policies := d.policies.updateWhere (activeIn policy.scopeKey) (retiredRow (supply.clock 0)) with updated
    have retired : d.Goes { d with policies := policies } :=
      goes_retired fun row _ here => of_decide_eq_true (Bool.and_eq_true_iff.mp here).2
    have kept : policies.find policy.id = some policy := by
      rw [Table.find_updateWhere]
      simp [show d.policies.find policy.id = some policy from stored, activeIn, draft]
    have goes := goes_activated (d := { d with policies := policies }) actor (supply.clock 0) kept draft complete
    refine (retired.trans (goes fun row member scope active => ?_)).congr ?_ ?_
    · rcases mem_retired member with ⟨-, off⟩ | ⟨_, -, -, rfl⟩
      · simp [activeIn, scope, active] at off
      · cases active
    all_goals
      rw [same]
      unfold activated
      split <;> rfl

theorem addRules_grows {categories : List ResourceCategory} {s : Session PolicyDb} :
    Tx.Yields (fun _ t => t.committed = s.committed) (fun _ t => t.committed = s.committed ∧
      t.working.policies = s.working.policies ∧ s.working.rules.rows ⊆ t.working.rules.rows)
      (addRules policyId categories s) := by
  induction categories generalizing s with
  | nil => exact ⟨rfl, rfl, List.Subset.refl _⟩
  | cons category categories ih =>
    unfold addRules
    rw [bind_uuid4, bind_view]
    refine Tx.outcome_expect rfl fun rules inserted => ?_
    rw [bind_modify]
    refine Tx.outcome_last (ih.bind (fun _ _ same => same) fun _ t grown => ⟨grown.1, grown.2.1, ?_⟩)
    exact fun rule member => grown.2.2 ((Table.mem_insert? inserted).mpr (.inl member))

theorem create_goes {payload : GovernancePolicyCreate} :
    d.Goes (request (create checks organizationId payload actor) d supply).2 := by
  unfold request create
  refine outcome_ofExcept (P := EndsWith d.Goes) (fun _ => d.goes_refl) fun _ _ => ?_
  have checked : Tx.Yields (fun _ t => t.committed = d) (fun _ t => t = start d supply)
      (validateProject organizationId payload.projectId (start d supply)) := by
    unfold validateProject
    cases payload.projectId.filter fun projectId => decide (projectId ≠ "") with
    | none => exact rfl
    | some projectId => exact Tx.outcome_read (Tx.outcome_expect rfl fun _ _ => rfl)
  refine checked.bind (fun _ t same => ?_) fun _ t same => ?_
  · exact same ▸ d.goes_refl
  subst same
  rw [bind_view, bind_uuid4, bind_view]
  refine outcome_expect (P := EndsWith d.Goes) d.goes_refl fun policies inserted => ?_
  rw [bind_modify, bind_flush]
  refine addRules_grows.bind (fun _ t same => ?_) fun _ t grown => ?_
  · unfold EndsWith
    rw [same]
    exact d.goes_refl
  obtain ⟨-, same, rules⟩ := grown
  unfold insertPolicy at inserted
  split at inserted
  · cases inserted
  have goes : d.Goes t.working := by
    refine ⟨same ▸ Table.carries_insert? GovernancePolicy.becomes_refl inserted, rules, fun sound => ⟨?_, ?_⟩⟩
    · intro a atA b atB scope activeA activeB
      rw [same] at atA atB
      rcases (Table.mem_insert? inserted).mp atA with oldA | rfl
      · rcases (Table.mem_insert? inserted).mp atB with oldB | rfl
        · exact sound.single a oldA b oldB scope activeA activeB
        · cases activeB
      · cases activeA
    · intro a atA ruled
      rw [same] at atA
      rcases (Table.mem_insert? inserted).mp atA with old | rfl
      · exact missingCategories_nil rules (sound.complete a old ruled)
      · exact absurd rfl ruled
  rw [bind_commit]
  exact outcome_ofExcept (P := EndsWith d.Goes) (fun _ => goes) fun _ _ => goes

/-- Over any calls a scope has one active policy at most, an active or retired
one has a rule for every category, and no policy goes back in its life. -/
theorem policies_settle (d : PolicyDb) (requests : List ((PolicyRequest × PolicyChecks) × Supply)) :
    d.Goes (Path.storeAfter PolicyRequest.after d requests) := by
  induction requests generalizing d with
  | nil => exact d.goes_refl
  | cons request rest ih =>
    refine PolicyDb.Goes.trans ?_ (ih _)
    obtain ⟨⟨op, checks⟩, supply⟩ := request
    cases op with
    | create => exact create_goes
    | activate => exact activate_goes
    | retire => exact retire_goes

end Lifecycle

namespace PolicySample

/-- An organization that admits virtual private clouds only. -/
def tenants : PolicyDb where
  organizations := .ofRows [⟨"acme", some (.obj [("executor_network_policy",
    .obj [("allowed_boundary_types", .arr [.str "vpc"])])])⟩]
  projects := .empty
  policies := .empty
  rules := .empty

def env : BoundaryEnv := ⟨false, fun _ => "", id, fun _ => .error (.valueError ""), .error (.valueError "")⟩

def boundary : Json :=
  .obj [("schema_version", .str "executor-network-boundary/v1"), ("deployment_type", .str "vnet"),
    ("boundary_id", .str "boundary"), ("residency_region", .str "eu-west"), ("metadata_service_blocked", .bool true)]

def supply : Supply := ⟨fun k => k, fun k => String.ofList (List.replicate (k + 1) 'x'), fun _ => ""⟩

/-- A retention policy for every category is drafted and activated. -/
def requests : List ((PolicyRequest × PolicyChecks) × Supply) :=
  [((.create "acme" ⟨none, "retention", "", resourceCategories⟩ "owner", ⟨.ok (), .ok ()⟩), supply),
    ((.activate "acme" "x" "owner", ⟨.ok (), .ok ()⟩), supply)]

end PolicySample

open PolicySample in
/-- After a retention policy is activated, a boundary is admitted that the
organization's policy for executors does not allow. -/
theorem activation_admits_rejected : ∃ env d requests boundary,
    Rejected env d (some "acme") none boundary none ∧
    ¬Rejected env (Path.storeAfter PolicyRequest.after d requests) (some "acme") none boundary none := by
  refine ⟨env, tenants, requests, boundary,
    ⟨conflict "Executor boundary type is not allowed by organization policy.", ?_⟩, ?_⟩
  · decide +kernel
  · have admitted : validateNetworkBoundary env (Path.storeAfter PolicyRequest.after tenants requests).organizations
        (Path.storeAfter PolicyRequest.after tenants requests).projects (some "acme") none boundary none = .ok () := by
      decide +kernel
    rintro ⟨error, rejected⟩
    rw [admitted] at rejected
    cases rejected

end SacmRuntime
