import SacmRuntime.Lib.Checked
import SacmRuntime.Runtime.OutcomeRouter

namespace SacmRuntime
open LatestPer
namespace OutcomeRouter

section Rows
variable {rows others : List OutcomeRow} {joins joins' : List (AgentOutcomeAnalytics × Run × Task)}

def ownRows (organizationId : Option String) (db : OutcomeDb) : List (AgentOutcomeAnalytics × Run × Task) :=
  (joined db).filter fun (_, _, task) => task.organizationId = organizationId

theorem outcomes_own (role : Option AgentRole) (organizationId : Option String) (name : String) (db : OutcomeDb) :
    outcomes role organizationId name (joined db) = outcomes role organizationId name (ownRows organizationId db) := by
  unfold outcomes ownRows
  rw [List.filter_filter]
  congr 1
  refine List.filter_congr fun entry _ => ?_
  obtain ⟨row, run, task⟩ := entry
  simp only [Bool.decide_and]
  cases decide (task.organizationId = organizationId) <;> simp

theorem outcomes_perm (role : Option AgentRole) (organizationId : Option String) (name : String)
    (same : joins.Perm joins') :
    (outcomes role organizationId name joins).Perm (outcomes role organizationId name joins') :=
  (same.filter _).map _

theorem distinctRunCount_perm (same : rows.Perm others) : distinctRunCount rows = distinctRunCount others :=
  (same.map fun item : OutcomeRow => item.row.runId).dedup.length_eq

theorem distinctRunCount_sublist (part : rows.Sublist others) : distinctRunCount rows ≤ distinctRunCount others := by
  refine (List.subperm_of_subset (List.nodup_dedup _) fun name member => ?_).length_le
  exact List.mem_dedup.mpr ((part.map fun item => item.row.runId).subset (List.mem_dedup.mp member))

variable (env : OutcomeEnv) (projectId : Option String) (tags : List String) (minimumSamples : Nat)

theorem scopedRows_perm (same : rows.Perm others) :
    (scopedRows env rows projectId tags minimumSamples).1.Perm (scopedRows env others projectId tags minimumSamples).1 ∧
    (scopedRows env rows projectId tags minimumSamples).2 =
    (scopedRows env others projectId tags minimumSamples).2 := by
  unfold scopedRows
  simp only
  have projects := same.filter fun item => (present projectId).isSome && item.projectId = projectId
  have tagged := same.filter fun item => tags ≠ [] && tags.any fun tag => tag ∈ taskTags env item.text
  rw [distinctRunCount_perm projects, distinctRunCount_perm tagged]
  split
  · exact ⟨projects, rfl⟩
  · split
    · exact ⟨tagged, rfl⟩
    · have empty : rows = [] ↔ others = [] := ⟨fun none => by rw [none] at same; exact same.nil_eq.symm,
        fun none => by rw [none] at same; exact same.eq_nil⟩
      by_cases none : rows = []
      · rw [if_neg (not_not_intro none), if_neg (not_not_intro (empty.mp none))]
        exact ⟨.refl _, rfl⟩
      · rw [if_pos none, if_pos (fun gone => none (empty.mpr gone))]
        exact ⟨same, rfl⟩

theorem scopedRows_sublist : (scopedRows env rows projectId tags minimumSamples).1.Sublist rows := by
  unfold scopedRows
  simp only
  split
  · exact List.filter_sublist
  · split
    · exact List.filter_sublist
    · split
      · exact .refl rows
      · exact List.nil_sublist rows

theorem scopedRows_enough (positive : 0 < minimumSamples) :
    minimumSamples ≤ distinctRunCount (scopedRows env rows projectId tags minimumSamples).1 ↔
      minimumSamples ≤ distinctRunCount rows := by
  refine ⟨fun enough => enough.trans (distinctRunCount_sublist (scopedRows_sublist env projectId tags _)),
    fun enough => ?_⟩
  unfold scopedRows
  simp only
  split
  · assumption
  · split
    · assumption
    · split
      · exact enough
      · rename_i none
        rw [not_not.mp none] at enough
        exact absurd (Nat.le_zero.mp enough) positive.ne'

end Rows

theorem stamps_distinct (role : Option AgentRole) (organizationId : Option String) (name : String) (db : OutcomeDb) :
    ((outcomes role organizationId name (joined db)).map stamp).Nodup := by
  have ids : ((joined db).map fun entry => entry.1.id).Sublist (db.analytics.rows.map Keyed.key) := by
    unfold joined
    induction db.analytics.rows with
    | nil => exact .refl []
    | cons row rest ih =>
      rw [List.filterMap_cons]
      cases reached : (db.runs.find row.runId).bind fun run => (db.tasks.find run.taskId).map fun task =>
          (row, run, task) with
      | none => exact ih.cons _
      | some entry =>
        obtain ⟨run, -, found⟩ := Option.bind_eq_some_iff.mp reached
        obtain ⟨task, -, rfl⟩ := Option.map_eq_some_iff.mp found
        exact ih.cons_cons _
  have own : ((outcomes role organizationId name (joined db)).map fun item => item.row.id).Sublist
      ((joined db).map fun entry => entry.1.id) := by
    unfold outcomes
    rw [List.map_map]
    exact List.filter_sublist.map fun entry : AgentOutcomeAnalytics × Run × Task => entry.1.id
  have distinct := (own.trans ids).nodup db.analytics.distinct
  refine List.Nodup.of_map (fun key : Nat ×ₗ String => (ofLex key).2) ?_
  rw [List.map_map]
  exact distinct

section Raw
variable (env : OutcomeEnv) (request : RankRequest) {rows others : List OutcomeRow}

theorem gathered_perm (minimumSamples : Nat) (agent : ContractAgent) (metadata : Option AgentRecord) (prior : Rat)
    (scope : String) (same : rows.Perm others) :
    gathered env request minimumSamples agent metadata prior scope rows =
      gathered env request minimumSamples agent metadata prior scope others := by
  have averages : ∀ {values values' : List Rat}, values.Perm values' → average values = average values' := by
    intro values values' alike
    unfold average
    rw [alike.sum_eq, alike.length_eq]
    congr 1
    exact propext ⟨fun none => by rw [none] at alike; exact alike.nil_eq.symm,
      fun none => by rw [none] at alike; exact alike.eq_nil⟩
  unfold gathered
  simp only [same.length_eq, same.countP_eq, averages (same.filterMap _), averages (same.map _)]

/-- Two stores have the same rows of the organization, in any order, and the same agents. -/
structure SameTenant (organizationId : Option String) (db db' : OutcomeDb) : Prop where
  agents : db'.agents = db.agents
  rows : (ownRows organizationId db).Perm (ownRows organizationId db')

theorem rawCandidate_own {db db' : OutcomeDb} (same : SameTenant request.task.organizationId db db')
    (registry : AgentRegistry) (minimumSamples : Nat) :
    rawCandidate env request registry db' minimumSamples = rawCandidate env request registry db minimumSamples := by
  funext agent
  have own := outcomes_perm request.role request.task.organizationId agent.name same.rows
  rw [← outcomes_own, ← outcomes_own] at own
  obtain ⟨rows, scope⟩ := scopedRows_perm env request.task.projectId
    (taskTags env (taskText request)) minimumSamples own
  have distinct :=
    (((scopedRows_sublist env request.task.projectId (taskTags env (taskText request)) minimumSamples).map
    stamp).nodup (stamps_distinct request.role request.task.organizationId agent.name db))
  unfold rawCandidate
  simp only
  rw [same.agents, ← scope]
  exact (gathered_perm env request _ _ _ _ _ (latestPer_perm rows distinct)).symm

theorem rank_own {db db' : OutcomeDb} (same : SameTenant request.task.organizationId db db')
    (registry : AgentRegistry) :
    rank env registry request db' = rank env registry request db := by
  unfold rank candidatesOf
  simp only [rawCandidate_own env request same]

theorem rawCandidate_samples (registry : AgentRegistry) (db : OutcomeDb) (minimumSamples : Nat)
    (agent : ContractAgent) :
    (rawCandidate env request registry db minimumSamples agent).samples =
      distinctRunCount (scopedRows env (outcomes request.role request.task.organizationId agent.name (joined db))
        request.task.projectId (taskTags env (taskText request)) minimumSamples).1 ∧
    (rawCandidate env request registry db minimumSamples agent).samples =
      (rawCandidate env request registry db minimumSamples agent).successes +
        (rawCandidate env request registry db minimumSamples agent).failures := by
  unfold rawCandidate gathered
  simp only
  refine ⟨latestPer_length _ _ _, ?_⟩
  rw [List.length_eq_countP_add_countP fun item : OutcomeRow => item.row.outcome = some "success"]
  congr 1
  refine List.countP_congr fun item member => ?_
  have among := (scopedRows_sublist env request.task.projectId (taskTags env (taskText request)) minimumSamples).subset
    ((latest_latestPer _ _ _).newest item member).1
  obtain ⟨⟨row, run, task⟩, inside, rfl⟩ := List.mem_map.mp among
  have decided := (of_decide_eq_true (List.mem_filter.mp inside).2).2.1
  rcases decided with success | failure
  · simp [success]
  · simp [failure]

end Raw

section Decision
variable {env : OutcomeEnv} {registry : AgentRegistry} {request : RankRequest} {db : OutcomeDb} {minimumSamples : Nat}
  {agents : List ContractAgent} {candidates : List RouterCandidateV1} {decision : RouterDecisionV1}
    {item : RawCandidate}
  {c : RouterCandidateV1}

/-- The outcomes of an agent in the scope that is chosen for it. -/
def scopeRows (env : OutcomeEnv) (request : RankRequest) (db : OutcomeDb) (minimumSamples : Nat) (name : String) :
    List OutcomeRow :=
  (scopedRows env (outcomes request.role request.task.organizationId name (joined db)) request.task.projectId
    (taskTags env (taskText request)) minimumSamples).1

theorem refusedFields_iff : refusedFields item = [] ↔
    (0 ≤ item.prior ∧ item.prior ≤ 1) ∧ (0 ≤ item.posterior ∧ item.posterior ≤ 1) ∧
    (0 ≤ item.confidence ∧ item.confidence ≤ 1) ∧ (∀ cost ∈ item.averageCost, 0 ≤ cost) ∧
    (∀ latency ∈ item.averageLatency, 0 ≤ latency) ∧ 0 ≤ item.averageRetries ∧
    (0 ≤ item.capabilityMatch ∧ item.capabilityMatch ≤ 1) := by
  unfold refusedFields
  simp [List.filter_eq_nil_iff, Option.all_eq_true]

structure Kept (minimumSamples : Nat) (item : RawCandidate) (c : RouterCandidateV1) : Prop where
  agentName : c.agentName = item.agent.name
  samples : c.samples = item.samples
  successes : c.successes = item.successes
  failures : c.failures = item.failures
  trusted : c.trustedOutcomes = decide (minimumSamples ≤ item.samples)
  capability : c.capabilityMatch = item.capabilityMatch
  accepted : refusedFields item = []

theorem candidate_ok {maxCost maxLatency : Rat}
    (ok : candidate env request minimumSamples maxCost maxLatency item = .ok c) :
    Kept minimumSamples item c := by
  unfold candidate at ok
  simp only at ok
  split at ok
  · rename_i accepted
    cases ok
    exact ⟨rfl, rfl, rfl, rfl, rfl, rfl, accepted⟩
  · cases ok

theorem candidatesOf_ok (ok : candidatesOf env registry request db minimumSamples agents = .ok candidates) :
    (∀ c ∈ candidates, ∃ agent ∈ agents,
      Kept minimumSamples (rawCandidate env request registry db minimumSamples agent) c) ∧
    (∀ agent ∈ agents, ∃ c ∈ candidates,
      Kept minimumSamples (rawCandidate env request registry db minimumSamples agent) c) ∧
    candidates.Pairwise fun a b => scoreKey a ≤ scoreKey b := by
  unfold candidatesOf at ok
  simp only at ok
  obtain ⟨results, each, sorted⟩ := Checked.bind_ok ((map_eq_pure_bind _ _).symm.trans ok)
  cases sorted
  refine ⟨fun c member => ?_, fun agent member => ?_, List.pairwise_insertionSort _ _⟩
  · obtain ⟨raw, inside, made⟩ := Checked.mapM_origin each ((Ranking.ranked_perm results).mem_iff.mp member)
    obtain ⟨agent, among, rfl⟩ := List.mem_map.mp inside
    exact ⟨agent, among, candidate_ok made⟩
  · obtain ⟨c, inside, made⟩ := Checked.mapM_result each (List.mem_map_of_mem member)
    exact ⟨c, (Ranking.ranked_perm results).mem_iff.mpr inside, candidate_ok made⟩

theorem choose_ok (ok : choose env registry request minimumSamples candidates = .ok decision) :
    decision.candidates = candidates ∧ decision.minimumSamples = minimumSamples ∧ ∃ selected,
      decision.selectedAgentName = selected.agentName ∧
      ((decision.strategy = .outcomeAdaptive ∧
          ∃ rest, candidates.filter RouterCandidateV1.trustedOutcomes = selected :: rest) ∨
        (decision.strategy = .deterministicFallback ∧ candidates.filter RouterCandidateV1.trustedOutcomes = [] ∧
          candidates.argmax (fallbackKey registry (preferredOrder env request)) = some selected)) := by
  unfold choose at ok
  simp only at ok
  split at ok
  · rename_i selected rest trusted
    cases ok
    exact ⟨rfl, rfl, selected, rfl, .inl ⟨rfl, rest, trusted⟩⟩
  · rename_i trusted
    split at ok
    · cases ok
    · rename_i selected greatest
      cases ok
      exact ⟨rfl, rfl, selected, rfl, .inr ⟨rfl, trusted, greatest⟩⟩

theorem minimumSamplesOf_ok (ok : minimumSamplesOf env = .ok minimumSamples) : 0 < minimumSamples ∧
    env.integer ((env.getenv "SACM_ROUTER_MIN_SAMPLES").getD "3") = some (minimumSamples : Int) := by
  unfold minimumSamplesOf at ok
  simp only at ok
  split at ok
  · cases ok
  · rename_i value parsed
    split at ok
    · cases ok
    · cases ok
      rw [parsed, Int.toNat_of_nonneg (by omega)]
      exact ⟨by omega, rfl⟩

/-- The agents that a decision is about: those of the role, or the preferred ones among them if there are any. -/
def Eligible (env : OutcomeEnv) (registry : AgentRegistry) (request : RankRequest) (agent : ContractAgent) : Prop :=
  (agent ∈ registry.agents ∧ ∀ role ∈ request.role, agent.contractRole = role) ∧
    (agent.name ∈ preferredOrder env request ∨ ∀ other ∈ registry.agents,
      (∀ role ∈ request.role, other.contractRole = role) → other.name ∉ preferredOrder env request)

theorem mem_rankedAgents (ok : rankedAgents env registry request = .ok agents) {agent : ContractAgent} :
    agent ∈ agents ↔ Eligible env registry request agent := by
  have ofRole (other : ContractAgent) : other ∈ registry.agents.filter (fun agent => request.role.all fun role =>
      agent.contractRole = role) ↔ other ∈ registry.agents ∧ ∀ role ∈ request.role, other.contractRole = role := by
    rw [List.mem_filter]
    exact and_congr_right fun _ => (Option.all_eq_true _ _).trans (forall₂_congr fun _ _ => decide_eq_true_iff)
  unfold rankedAgents at ok
  simp only at ok
  unfold Eligible
  split at ok
  · cases ok
  · cases ok
    rw [← ofRole]
    split
    · rename_i some_
      rw [List.mem_filter, decide_eq_true_iff]
      refine and_congr_right fun _ => ⟨.inl, fun eligible => eligible.resolve_right fun nobody => ?_⟩
      obtain ⟨other, member⟩ := List.exists_mem_of_ne_nil _ some_
      obtain ⟨inRole, preferred⟩ := List.mem_filter.mp member
      obtain ⟨registered, role⟩ := (ofRole other).mp inRole
      exact nobody other registered role (of_decide_eq_true preferred)
    · rename_i none_
      refine ⟨fun member => ⟨member, .inr fun other registered role preferred => ?_⟩, And.left⟩
      have listed :
        other ∈ (registry.agents.filter fun agent => request.role.all fun role => agent.contractRole = role).filter
          fun agent => agent.name ∈ preferredOrder env request :=
        List.mem_filter.mpr ⟨(ofRole other).mpr ⟨registered, role⟩, decide_eq_true preferred⟩
      rw [not_not.mp none_] at listed
      cases listed

theorem rankedAgents_subset (ok : rankedAgents env registry request = .ok agents) : agents ⊆ registry.agents := by
  unfold rankedAgents at ok
  simp only at ok
  split at ok
  · cases ok
  · cases ok
    split
    · exact fun agent member => List.mem_of_mem_filter (List.mem_of_mem_filter member)
    · exact fun agent member => List.mem_of_mem_filter member

theorem indexByName_inj {a b : ContractAgent} (first : a ∈ registry.agents) (second : b ∈ registry.agents)
    (same : indexByName registry a.name = indexByName registry b.name) : a.name = b.name := by
  have at_ : ∀ {agent : ContractAgent}, agent ∈ registry.agents →
      ∃ at_ : indexByName registry agent.name < registry.agents.length,
        (registry.agents[indexByName registry agent.name]).name = agent.name := by
    intro agent member
    have within := List.findIdx_lt_length_of_exists (p := fun other : ContractAgent => other.name = agent.name)
      ⟨agent, member, by simp⟩
    refine ⟨within, ?_⟩
    have found := List.findIdx_getElem (w := within)
    exact of_decide_eq_true found
  obtain ⟨within, here⟩ := at_ first
  obtain ⟨inside, there⟩ := at_ second
  rw [← here, ← there]
  congr 1
  exact getElem_congr_idx same

theorem fallback_same {others : List RouterCandidateV1} {preferred : List String} {selected other : RouterCandidateV1}
    (here : candidates.argmax (fallbackKey registry preferred) = some selected)
    (there : others.argmax (fallbackKey registry preferred) = some other)
    (alike : ∀ c ∈ candidates, ∃ o ∈ others, o.agentName = c.agentName ∧ o.capabilityMatch = c.capabilityMatch)
    (back : ∀ o ∈ others, ∃ c ∈ candidates, c.agentName = o.agentName ∧ c.capabilityMatch = o.capabilityMatch)
    (known : ∀ c ∈ candidates, ∃ agent ∈ registry.agents, c.agentName = agent.name) :
    other.agentName = selected.agentName := by
  have keys : ∀ {c o : RouterCandidateV1}, o.agentName = c.agentName ∧ o.capabilityMatch = c.capabilityMatch →
      fallbackKey registry preferred o = fallbackKey registry preferred c := by
    rintro c o ⟨names, matches_⟩
    unfold fallbackKey
    rw [names, matches_]
  have atSelected : selected ∈ candidates := List.argmax_mem here
  obtain ⟨twin, inside, same⟩ := alike selected atSelected
  obtain ⟨c, among, equal⟩ := back other (List.argmax_mem there)
  have below : fallbackKey registry preferred selected ≤ fallbackKey registry preferred other := by
    rw [← keys same]
    exact List.le_of_mem_argmax inside there
  have above : fallbackKey registry preferred other ≤ fallbackKey registry preferred selected := by
    rw [← keys equal]
    exact List.le_of_mem_argmax among here
  have places := congrArg (fun key => OrderDual.ofDual (ofLex (ofLex key).2).2) (le_antisymm above below)
  obtain ⟨first, atFirst, named⟩ := known selected atSelected
  obtain ⟨second, atSecond, also⟩ := known c among
  rw [← equal.1, also, named]
  refine indexByName_inj atSecond atFirst ?_
  rw [← also, equal.1, ← named]
  exact places

theorem candidatesOf_plain {empty : OutcomeDb} (none : empty.analytics.rows = []) (positive : 0 < minimumSamples)
    (ok : candidatesOf env registry request db minimumSamples agents = .ok candidates) :
    ∃ others, candidatesOf env registry request empty minimumSamples agents = .ok others ∧
      others.filter RouterCandidateV1.trustedOutcomes = [] := by
  obtain ⟨-, each, -⟩ := candidatesOf_ok ok
  have nothing : ∀ agent, rawCandidate env request registry empty minimumSamples agent =
      gathered env request minimumSamples agent (empty.agents.find agent.name)
          (priorOf request registry agent) "none" [] := by
    intro agent
    have rows : outcomes request.role request.task.organizationId agent.name (joined empty) = [] := by
      unfold outcomes joined
      rw [none]
      rfl
    unfold rawCandidate
    rw [rows]
    have few : ¬minimumSamples ≤ distinctRunCount [] := not_le.mpr positive
    simp [scopedRows, few, latestPerRun, latestPer]
  have accepted : ∀ agent ∈ agents, refusedFields (rawCandidate env request registry empty minimumSamples agent) =
      [] := by
    intro agent member
    obtain ⟨c, -, kept⟩ := each agent member
    obtain ⟨⟨least, most⟩, -, -, -, -, -, share⟩ := refusedFields_iff.mp kept.accepted
    change 0 ≤ priorOf request registry agent at least
    change priorOf request registry agent ≤ 1 at most
    rw [nothing agent, refusedFields_iff]
    refine ⟨⟨least, most⟩, ⟨?_, ?_⟩, ⟨?_, ?_⟩, ?_, ?_, le_refl _, share⟩
    · simp only [gathered, List.countP_nil, List.length_nil, Nat.cast_zero]
      linarith
    · simp only [gathered, List.countP_nil, List.length_nil, Nat.cast_zero]
      linarith
    · simp [gathered]
    · simp [gathered]
    · simp [gathered, average]
    · simp [gathered, average]
  have made :
    ∀ maxCost maxLatency, ∃ results, (agents.map (rawCandidate env request registry empty minimumSamples)).mapM
      (candidate env request minimumSamples maxCost maxLatency) = .ok results := by
    refine fun maxCost maxLatency => Checked.mapM_exists fun item member => ?_
    obtain ⟨agent, among, rfl⟩ := List.mem_map.mp member
    exact ⟨_, if_pos (accepted agent among)⟩
  obtain ⟨results, run⟩ := made _ _
  have whole : candidatesOf env registry request empty minimumSamples agents = .ok (Ranking.ranked scoreKey results) :=
    congrArg (Except.map (Ranking.ranked scoreKey)) run
  refine ⟨_, whole, List.filter_eq_nil_iff.mpr fun c member trusted => ?_⟩
  obtain ⟨agent, -, kept⟩ := (candidatesOf_ok whole).1 c member
  rw [kept.trusted, nothing agent] at trusted
  exact absurd (of_decide_eq_true trusted) (not_le.mpr positive)

structure Routed (env : OutcomeEnv) (registry : AgentRegistry) (request : RankRequest) (db : OutcomeDb)
    (decision : RouterDecisionV1) : Prop where
  minimum : env.integer ((env.getenv "SACM_ROUTER_MIN_SAMPLES").getD "3") = some (decision.minimumSamples : Int)
  candidates : ∀ name, name ∈ decision.candidates.map RouterCandidateV1.agentName ↔
    ∃ agent, Eligible env registry request agent ∧ agent.name = name
  counted : ∀ c ∈ decision.candidates,
    c.samples = distinctRunCount (scopeRows env request db decision.minimumSamples c.agentName) ∧
    c.samples = c.successes + c.failures
  adaptive : decision.strategy = .outcomeAdaptive ↔ ∃ c ∈ decision.candidates,
    decision.minimumSamples ≤
      distinctRunCount (outcomes request.role request.task.organizationId c.agentName (joined db))
  highest : decision.strategy = .outcomeAdaptive → ∃ selected ∈ decision.candidates,
    selected.agentName = decision.selectedAgentName ∧ decision.minimumSamples ≤ selected.samples ∧
    ∀ c ∈ decision.candidates, decision.minimumSamples ≤ c.samples → c.score ≤ selected.score
  fallback : decision.strategy ≠ .outcomeAdaptive → ∀ empty : OutcomeDb, empty.analytics.rows = [] →
    ∃ plain, rank env registry request empty = .ok plain ∧ plain.selectedAgentName = decision.selectedAgentName

theorem rank_routed (ok : rank env registry request db = .ok decision) : Routed env registry request db decision := by
  unfold rank at ok
  obtain ⟨minimumSamples, atMinimum, ok⟩ := Checked.bind_ok ok
  obtain ⟨agents, atAgents, ok⟩ := Checked.bind_ok ok
  obtain ⟨candidates, atCandidates, ok⟩ := Checked.bind_ok ok
  obtain ⟨positive, parsed⟩ := minimumSamplesOf_ok atMinimum
  obtain ⟨origin, each, sorted⟩ := candidatesOf_ok atCandidates
  obtain ⟨same, minimum, selected, chosen, choice⟩ := choose_ok ok
  have named : ∀ name, name ∈ candidates.map RouterCandidateV1.agentName ↔
      ∃ agent, Eligible env registry request agent ∧ agent.name = name := by
    intro name
    rw [List.mem_map]
    constructor
    · rintro ⟨c, member, rfl⟩
      obtain ⟨agent, among, kept⟩ := origin c member
      exact ⟨agent, (mem_rankedAgents atAgents).mp among, kept.agentName.symm⟩
    · rintro ⟨agent, eligible, rfl⟩
      obtain ⟨c, member, kept⟩ := each agent ((mem_rankedAgents atAgents).mpr eligible)
      exact ⟨c, member, kept.agentName⟩
  have counted : ∀ c ∈ candidates, c.samples = distinctRunCount (scopeRows env request db minimumSamples c.agentName) ∧
      c.samples = c.successes + c.failures := by
    intro c member
    obtain ⟨agent, -, kept⟩ := origin c member
    obtain ⟨distinct, parts⟩ := rawCandidate_samples env request registry db minimumSamples agent
    rw [kept.samples, kept.successes, kept.failures, kept.agentName]
    exact ⟨distinct, parts⟩
  have trusted : ∀ c ∈ candidates, (c.trustedOutcomes = true ↔ minimumSamples ≤ c.samples) := by
    intro c member
    obtain ⟨agent, -, kept⟩ := origin c member
    rw [kept.trusted, kept.samples]
    exact decide_eq_true_iff
  have enough : ∀ c ∈ candidates, (c.trustedOutcomes = true ↔ minimumSamples ≤
      distinctRunCount (outcomes request.role request.task.organizationId c.agentName (joined db))) := by
    intro c member
    rw [trusted c member, (counted c member).1]
    exact scopedRows_enough env _ _ _ positive
  refine ⟨minimum ▸ parsed, same ▸ named, ?_, ?_, fun adaptive => ?_, fun other empty none => ?_⟩
  · rw [same, minimum]
    exact counted
  · rw [same, minimum]
    rcases choice with ⟨adaptive, rest, filtered⟩ | ⟨fallback, nobody, -⟩
    · refine ⟨fun _ => ?_, fun _ => adaptive⟩
      obtain ⟨inside, held⟩ := List.mem_filter.mp (filtered ▸ List.mem_cons_self : selected ∈ candidates.filter _)
      exact ⟨selected, inside, (enough selected inside).mp held⟩
    · refine ⟨fun adaptive => (by rw [fallback] at adaptive; cases adaptive), ?_⟩
      rintro ⟨c, member, much⟩
      exact absurd ((enough c member).mpr much) (by simpa using List.filter_eq_nil_iff.mp nobody c member)
  · rcases choice with ⟨-, rest, filtered⟩ | ⟨fallback, -⟩
    · obtain ⟨inside, held⟩ := List.mem_filter.mp (filtered ▸ List.mem_cons_self : selected ∈ candidates.filter _)
      rw [same, minimum]
      refine ⟨selected, inside, chosen.symm, (trusted selected inside).mp held, fun c member much => ?_⟩
      have kept : c ∈ selected :: rest := filtered ▸ List.mem_filter.mpr ⟨member, (trusted c member).mpr much⟩
      have order := sorted.filter RouterCandidateV1.trustedOutcomes
      rw [filtered] at order
      rcases List.mem_cons.mp kept with rfl | later
      · exact le_refl _
      · rcases Prod.Lex.le_iff.mp ((List.pairwise_cons.mp order).1 c later) with less | ⟨equal, -⟩
        · exact le_of_lt less
        · exact le_of_eq (congrArg OrderDual.ofDual equal).symm
    · rw [fallback] at adaptive
      cases adaptive
  · rcases choice with ⟨adaptive, -⟩ | ⟨-, -, greatest⟩
    · exact absurd adaptive other
    · obtain ⟨others, made, nobody⟩ := candidatesOf_plain none positive atCandidates
      obtain ⟨from_, every, -⟩ := candidatesOf_ok made
      have alike : ∀ c ∈ candidates, ∃ o ∈ others,
          o.agentName = c.agentName ∧ o.capabilityMatch = c.capabilityMatch := by
        intro c member
        obtain ⟨agent, among, kept⟩ := origin c member
        obtain ⟨o, inside, also⟩ := every agent among
        exact ⟨o, inside, also.agentName.trans kept.agentName.symm, also.capability.trans kept.capability.symm⟩
      have back : ∀ o ∈ others, ∃ c ∈ candidates,
          c.agentName = o.agentName ∧ c.capabilityMatch = o.capabilityMatch := by
        intro o member
        obtain ⟨agent, among, kept⟩ := from_ o member
        obtain ⟨c, inside, also⟩ := each agent among
        exact ⟨c, inside, also.agentName.trans kept.agentName.symm, also.capability.trans kept.capability.symm⟩
      have known : ∀ c ∈ candidates, ∃ agent ∈ registry.agents, c.agentName = agent.name := by
        intro c member
        obtain ⟨agent, among, kept⟩ := origin c member
        exact ⟨agent, rankedAgents_subset atAgents among, kept.agentName⟩
      obtain ⟨first, inside, -⟩ := alike selected (List.argmax_mem greatest)
      cases best : others.argmax (fallbackKey registry (preferredOrder env request)) with
      | none =>
        rw [List.argmax_eq_none.mp best] at inside
        cases inside
      | some other =>
        have run : ∃ plain, choose env registry request minimumSamples others = .ok plain ∧
            plain.selectedAgentName = other.agentName := by
          unfold choose
          simp only
          rw [nobody, best]
          exact ⟨_, rfl, rfl⟩
        obtain ⟨plain, atPlain, named⟩ := run
        refine ⟨plain, ?_, ?_⟩
        · unfold rank
          rw [atMinimum, atAgents]
          change candidatesOf env registry request empty minimumSamples agents >>= _ = _
          rw [made]
          exact atPlain
        · rw [named, chosen]
          exact fallback_same greatest best alike back known

/-- **Outcome routing.** The decision depends on the rows of the organization of
the task alone, in any order, and what it says of the runs is so. -/
theorem outcome_routing (env : OutcomeEnv) (registry : AgentRegistry) (request : RankRequest) (db : OutcomeDb) :
    (∀ db', SameTenant request.task.organizationId db db' →
      rank env registry request db' = rank env registry request db) ∧
    ∀ decision, rank env registry request db = .ok decision → Routed env registry request db decision :=
  ⟨fun _ same => rank_own env request same registry, fun _ ok => rank_routed ok⟩

end Decision

namespace Sample

def env : OutcomeEnv where
  isWord := Char.isAlphanum
  fold := id
  upper := id
  integer text := if text = "1" then some 1 else none
  quoted := String.toList
  getenv _ := some "1"

def registry : AgentRegistry where
  agents := [⟨"CodexCoder", .coder⟩, ⟨"CodexExecutor", .coder⟩, ⟨"Reviewer", .reviewer⟩]
  distinct := by decide

def task (id organizationId : String) : Task :=
  ⟨id, some organizationId, none, none, none, none, "implement it", "", "pending", none⟩

def run (id taskId : String) : Run where
  id := id
  organizationId := none
  projectId := none
  tenantAttribution := none
  dataRegion := none
  dataClassification := none
  taskId := taskId
  status := .completed
  workflowVersion := ""
  sourceRevision := none
  targetRepoPath := none
  cancellationRequested := false
  updatedAt := none
  startedAt := none
  completedAt := none
  supplyChainStatus := ""
  missingSupplyChainEvidence := []
  recoveryState := none
  recoveryAttemptCount := 0
  lastFailureClassification := none
  lastRecoveryAction := none

def outcomeOf (id runId agentName outcome : String) (at_ : Nat) : AgentOutcomeAnalytics :=
  ⟨id, runId, agentName, some "coder", some outcome, none, 0, none, 0, 0, none, at_⟩

def request : RankRequest := ⟨task "t" "o", some .coder, none, none, none, none, []⟩

/-- Two rows of one run of the executor, and a run of another organization. -/
def db : OutcomeDb where
  agents := .empty
  runs := .ofRows [run "r" "t", run "s" "u"]
  tasks := .ofRows [task "t" "o", task "u" "other"]
  analytics := .ofRows [outcomeOf "a" "r" "CodexExecutor" "failure" 1, outcomeOf "b" "r" "CodexExecutor" "success" 2,
    outcomeOf "c" "s" "CodexCoder" "success" 3]

/-- One run of the executor is enough, and counts once. -/
theorem outcome_routing_adaptive : ∃ decision, rank env registry request db = .ok decision ∧
    Routed env registry request db decision ∧ decision.strategy = .outcomeAdaptive ∧
    decision.candidates.map (fun c => (c.agentName, c.samples)) = [("CodexExecutor", 1), ("CodexCoder", 0)] := by
  have ends : (rank env registry request db).toOption.map (fun decision => (decision.strategy,
      decision.candidates.map fun c => (c.agentName, c.samples))) =
        some (.outcomeAdaptive, [("CodexExecutor", 1), ("CodexCoder", 0)]) := by decide +kernel
  cases ran : rank env registry request db with
  | error e =>
    rw [ran] at ends
    cases ends
  | ok decision =>
    rw [ran] at ends
    obtain ⟨strategy, candidates⟩ := Prod.mk.inj (Option.some.inj ends)
    exact ⟨decision, rfl, (outcome_routing env registry request db).2 decision ran, strategy, candidates⟩

end Sample

end OutcomeRouter
end SacmRuntime
