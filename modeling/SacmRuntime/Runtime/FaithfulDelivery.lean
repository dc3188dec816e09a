import SacmRuntime.Runtime.DraftPullRequest

namespace SacmRuntime
open GitHubAdapter DraftPullRequestService

def SacmBranch (branch : String) : Prop := "sacm/".toList.isPrefixOf branch.toList = true

def Delivery.isDelivered : Delivery → Bool
  | .delivered .. => true
  | _ => false

section World
variable {Tree : Type}

def pullsOf (w : DeliveryWorld Tree) (url branch : String) : List PullRequest :=
  w.pulls.filter fun pull => pull.repository = url ∧ pull.head = branch

/-- Nothing was pushed but to branches of the runtime, and no second pull
request was opened for a branch. -/
structure Upheld (w after : DeliveryWorld Tree) : Prop where
  foreign : ∀ url branch, ¬SacmBranch branch → after.remote url branch = w.remote url branch
  pulls : ∀ url branch, (pullsOf after url branch).length ≤ max 1 (pullsOf w url branch).length

/-- There is a pull request of the branch, and the branch has all that is in the worktree. -/
def Shipped (w : DeliveryWorld Tree) (path branch : String) : Prop :=
  ∃ url, (∃ pull ∈ w.pulls, pull.repository = url ∧ pull.head = branch) ∧
    w.remote url branch = some (w.worktrees path).work

/-- What holds after a delivery, whatever its commands did. -/
structure Published (w : DeliveryWorld Tree) (path branch : String)
    (outcome : Except Delivery Delivery × DeliveryWorld Tree) : Prop where
  upheld : Upheld w outcome.2
  delivered : ∀ d, outcome.1 = .ok d ∨ outcome.1 = .error d → d.isDelivered = true → Shipped outcome.2 path branch

variable {w s : DeliveryWorld Tree} {path branch url base : String} {d : Delivery}

theorem Upheld.refl (w : DeliveryWorld Tree) : Upheld w w := ⟨fun _ _ _ => rfl, fun _ _ => Nat.le_max_right _ _⟩

variable {action : Json} {after : DeliveryWorld Tree} {env : DeliveryEnv} {listing : Listing} {p : Publication}
  {pull : PullRequest}

theorem Upheld.congr (upheld : Upheld w s) (remote : after.remote = s.remote) (pulls : after.pulls = s.pulls) :
    Upheld w after := by
  refine ⟨fun url branch outside => ?_, fun url branch => ?_⟩
  · rw [remote]
    exact upheld.foreign url branch outside
  · unfold pullsOf
    rw [pulls]
    exact upheld.pulls url branch

theorem Upheld.trans (first : Upheld w s) (second : Upheld s after) : Upheld w after := by
  refine ⟨fun url branch outside => ?_, fun url branch => ?_⟩
  · rw [second.foreign url branch outside, first.foreign url branch outside]
  · have before := first.pulls url branch
    have later := second.pulls url branch
    omega

theorem failedWith_delivered {stdout stderr : String} : (failedWith stdout stderr).isDelivered = false := rfl

theorem published_early (upheld : Upheld w s) (early : d.isDelivered = false) :
    Published w path branch (.error d, s) := by
  refine ⟨upheld, fun e result delivered => ?_⟩
  rcases result with ok | error
  · cases ok
  · rw [← Except.error.inj error, early] at delivered
    cases delivered

section Steps
variable {f : Unit → Tx (DeliveryWorld Tree) Delivery Delivery}

theorem published_demand {holds : Bool} (upheld : Upheld w s) (early : d.isDelivered = false)
    (rest : holds = true → Published w path branch (f () s)) :
    Published w path branch ((demand holds d >>= f) s) := by
  unfold demand
  split
  · rename_i held
    exact rest held
  · exact published_early upheld early

theorem published_command {outcome : DeliveryOutcome} {work : DeliveryWorld Tree → DeliveryWorld Tree}
    (upheld : Upheld w s) (worked : Upheld w (work s)) (rest : Published w path branch (f () (work s))) :
    Published w path branch ((command outcome work >>= f) s) := by
  rw [Tx.bind_run]
  cases outcome with
  | succeeded => exact rest
  | failed stdout stderr took =>
    cases took with
    | true => exact published_early worked failedWith_delivered
    | false => exact published_early upheld failedWith_delivered

end Steps

theorem destination_named (named : ':' ∉ branch.toList) : destination branch = branch := by
  unfold destination
  have none : branch.toList.dropWhile (· ≠ ':') = [] := by
    refine List.dropWhile_eq_nil_iff.mpr fun c member => ?_
    have different : c ≠ ':' := fun same => named (same ▸ member)
    simp [different]
  rw [none]

theorem push_upheld (upheld : Upheld w s) (named : ':' ∉ branch.toList) (sacm : SacmBranch branch) :
    Upheld w (push path url branch s) := by
  refine upheld.trans ⟨fun other name outside => ?_, fun _ _ => Nat.le_max_right _ _⟩
  unfold push
  simp only
  rw [destination_named named]
  refine if_neg ?_
  rintro ⟨-, rfl⟩
  exact outside sacm

/-- What opening the pull request leaves: at most one more, where there was none. -/
structure Opened (s after : DeliveryWorld Tree) : Prop where
  remote : after.remote = s.remote
  worktrees : after.worktrees = s.worktrees
  pulls : ∀ url branch, (pullsOf after url branch).length ≤ max 1 (pullsOf s url branch).length

theorem Opened.refl (s : DeliveryWorld Tree) : Opened s s := ⟨rfl, rfl, fun _ _ => Nat.le_max_right _ _⟩

theorem listed_some (found : listed s url branch = some pull) :
    pull ∈ s.pulls ∧ pull.repository = url ∧ pull.head = branch := by
  have holds := List.find?_some found
  simp only [decide_eq_true_eq] at holds
  exact ⟨List.mem_of_find?_eq_some found, holds⟩

theorem listed_none (none : listed s url branch = none) : pullsOf s url branch = [] := by
  refine List.filter_eq_nil_iff.mpr fun pull member => ?_
  have other := List.find?_eq_none.mp none pull member
  exact other

theorem createPull_opened {outcome created : DeliveryOutcome} (none : listed s pull.repository pull.head = none)
    (ran : createPull outcome pull s = (created, after)) :
    Opened s after ∧ (created = .succeeded → pull ∈ after.pulls) := by
  have one : Opened s { s with pulls := s.pulls ++ [pull] } := by
    refine ⟨rfl, rfl, fun url branch => ?_⟩
    unfold pullsOf
    simp only [List.filter_append, List.length_append]
    by_cases here : pull.repository = url ∧ pull.head = branch
    · obtain ⟨rfl, rfl⟩ := here
      have empty : s.pulls.filter (fun known => known.repository = pull.repository ∧ known.head = pull.head) = [] :=
        listed_none none
      rw [empty, List.length_nil, Nat.zero_add]
      exact (List.length_filter_le _ [pull]).trans (Nat.le_max_left 1 0)
    · rw [List.filter_cons_of_neg (by simpa using here)]
      exact Nat.le_max_right _ _
  unfold createPull at ran
  simp only at ran
  split at ran
  · cases outcome with
    | succeeded =>
      cases ran
      exact ⟨.refl s, fun ok => by cases ok⟩
    | failed stdout stderr took =>
      cases ran
      exact ⟨.refl s, fun ok => by cases ok⟩
  · cases outcome with
    | succeeded =>
      cases ran
      exact ⟨one, fun _ => List.mem_append_right _ (List.mem_singleton.mpr rfl)⟩
    | failed stdout stderr took =>
      cases took with
      | true =>
        cases ran
        exact ⟨one, fun ok => by cases ok⟩
      | false =>
        cases ran
        exact ⟨.refl s, fun ok => by cases ok⟩

theorem openPullRequests_some (ok : openPullRequests listing url branch s = .ok (some pull)) :
    pull ∈ s.pulls ∧ pull.repository = url ∧ pull.head = branch := by
  cases listing with
  | current => exact listed_some (Except.ok.inj ok)
  | failed stdout stderr => cases ok
  | invalidJson => cases ok
  | notList => cases ok

theorem openPullRequests_error (error : openPullRequests listing url branch s = .error d) :
    d.isDelivered = false := by
  cases listing <;> cases error <;> rfl

theorem openPullRequests_none (ok : openPullRequests listing url branch s = .ok none) :
    listed s url branch = none := by
  cases listing with
  | current => exact Except.ok.inj ok
  | failed stdout stderr => cases ok
  | invalidJson => cases ok
  | notList => cases ok

theorem openDraft_published (c : DeliveryCommands) (upheld : Upheld w s)
    (pushed : s.remote url branch = some (s.worktrees path).work) :
    Published w path branch (openDraft c url branch base s) := by
  have shipped : ∀ {after : DeliveryWorld Tree} {pull : PullRequest}, Opened s after →
      pull ∈ after.pulls ∧ pull.repository = url ∧ pull.head = branch → ∀ {d},
        Published w path branch (.ok d, after) := by
    intro after pull opened found d
    refine ⟨upheld.trans ⟨fun _ _ _ => by rw [opened.remote], opened.pulls⟩, fun _ _ _ => ?_⟩
    refine ⟨url, ⟨pull, found⟩, ?_⟩
    rw [opened.remote, opened.worktrees]
    exact pushed
  unfold openDraft
  cases first : openPullRequests c.firstList url branch s with
  | error failed => exact published_early upheld (openPullRequests_error first)
  | ok existing =>
    cases existing with
    | some pull => exact shipped (.refl s) (openPullRequests_some first)
    | none =>
      simp only
      rcases created : createPull c.create ⟨url, c.number, c.url, true, branch, base⟩ s with ⟨outcome, after⟩
      obtain ⟨opened, member⟩ := createPull_opened (openPullRequests_none first) created
      have later : Upheld w after := upheld.trans ⟨fun _ _ _ => by rw [opened.remote], opened.pulls⟩
      simp only
      cases outcome with
      | failed stdout stderr took =>
        cases second : openPullRequests c.secondList url branch after with
        | error failed => exact published_early later failedWith_delivered
        | ok found =>
          cases found with
          | none => exact published_early later failedWith_delivered
          | some pull => exact shipped opened (openPullRequests_some second)
      | succeeded =>
        cases second : openPullRequests c.secondList url branch after with
        | error failed => exact shipped opened ⟨member rfl, rfl, rfl⟩
        | ok found =>
          cases found with
          | none => exact shipped opened ⟨member rfl, rfl, rfl⟩
          | some pull => exact shipped opened (openPullRequests_some second)

theorem published_commit [DecidableEq Tree] {c : DeliveryCommands}
    {f : Unit → Tx (DeliveryWorld Tree) Delivery Delivery}
    (rest : ∀ after, Upheld s after → (after.worktrees path).branch = (s.worktrees path).branch →
      (after.worktrees path).head = (after.worktrees path).work → Published s path branch (f () after)) :
    Published s path branch ((commitChanges c path (dirty (s.worktrees path)) >>= f) s) := by
  unfold commitChanges
  split
  · rw [Tx.bind_assoc_run]
    have added : Upheld s (addAll path s) := (Upheld.refl s).congr rfl rfl
    have committed : Upheld s (commit path (addAll path s)) := (Upheld.refl s).congr rfl rfl
    refine published_command (.refl s) added (published_command added committed (rest _ committed ?_ ?_))
    · simp [commit, addAll, inWorktree]
    · simp [commit, addAll, inWorktree]
  · rename_i clean
    refine rest s (.refl s) rfl ?_
    have same : (s.worktrees path).index = (s.worktrees path).head ∧
        (s.worktrees path).work = (s.worktrees path).index := by
      simpa [dirty] using clean
    rw [same.2, same.1]

theorem pushAndOpen_published [DecidableEq Tree] (env : DeliveryEnv) (getenv : String → Option String)
    (c : DeliveryCommands) (sacm : SacmBranch branch) (named : ':' ∉ branch.toList) :
    Published s path branch (pushAndOpen env getenv c path branch base (dirty (s.worktrees path)) s) := by
  unfold pushAndOpen
  refine Tx.outcome_read (Tx.outcome_expect (published_early (.refl s) rfl) fun url origin => ?_)
  refine Tx.outcome_ofExcept_cases (fun e raised => published_early (.refl s) ?_) fun github _ => ?_
  · cases told : isGitHubRemote env getenv url with
    | ok answer =>
      rw [told] at raised
      cases raised
    | error message =>
      rw [told] at raised
      cases raised
      exact failedWith_delivered
  · refine published_demand (.refl s) rfl fun _ => ?_
    refine published_commit fun after upheld _ head => ?_
    have pushed : Upheld s (push path url branch after) := push_upheld upheld named sacm
    refine published_command upheld pushed (openDraft_published c pushed ?_)
    have there : (push path url branch after).remote url branch = some (after.worktrees path).head := by
      simp [push, destination_named named]
    rw [there, head]
    rfl

theorem publishDraftPullRequest_published [DecidableEq Tree] (env : DeliveryEnv) (getenv : String → Option String)
    (c : DeliveryCommands) (s : DeliveryWorld Tree) :
    Published s path branch (publishDraftPullRequest env getenv c path branch base s) := by
  unfold publishDraftPullRequest
  refine published_demand (.refl s) failedWith_delivered fun sacm => ?_
  refine published_command (.refl s) (.refl s) (Tx.outcome_read ?_)
  refine published_demand (.refl s) rfl fun shown => ?_
  refine published_command (.refl s) (.refl s) ?_
  refine Tx.outcome_expect (published_early (.refl s) rfl) fun ref _ => ?_
  refine published_command (.refl s) (.refl s) ?_
  refine published_demand (.refl s) rfl fun _ => published_demand (.refl s) rfl fun _ => ?_
  refine pushAndOpen_published env getenv c sacm fun colon => ?_
  rw [← of_decide_eq_true shown, String.toList_ofList] at colon
  -- a branch name of git has no colon, nor has a part of it
  have inside : ':' ∈ ((s.worktrees path).branch.toList) := by
    unfold stripped at colon
    have first := List.mem_reverse.mp ((List.dropWhile_sublist _).subset (List.mem_reverse.mp colon))
    exact (List.dropWhile_sublist _).subset first
  exact (s.worktrees path).named inside

/-- The directory and the branch that a publication delivers from. -/
def Publication.target (env : DeliveryEnv) (p : Publication) (w : DeliveryWorld Tree) : Option (String × String) :=
  (taskBranch w.events p.taskId p.runId).bind fun target =>
    ((env.repository target.1).toOption).map fun path => (path, target.2)

theorem deliver_published [DecidableEq Tree] (env : DeliveryEnv) (p : Publication) (target : String × String)
    (w : DeliveryWorld Tree) :
    Upheld w (deliver env p target w).2 ∧ ((deliver env p target w).1.isDelivered = true →
      ∃ path, env.repository target.1 = .ok path ∧ Shipped (deliver env p target w).2 path target.2) := by
  unfold deliver
  cases resolved : env.repository target.1 with
  | error message => exact ⟨.refl w, fun delivered => by cases delivered⟩
  | ok path =>
    simp only
    have published : Published w path target.2 (publishDraftPullRequest env p.getenv p.commands path target.2
      ((p.getenv "SACM_GITHUB_BASE_BRANCH").getD "main") w) :=
      publishDraftPullRequest_published env p.getenv p.commands w
    split
    · rename_i d after ran
      rw [ran] at published
      exact ⟨published.upheld, fun delivered => ⟨path, rfl, published.delivered d (.inl rfl) delivered⟩⟩
    · rename_i d after ran
      rw [ran] at published
      exact ⟨published.upheld, fun delivered => ⟨path, rfl, published.delivered d (.inr rfl) delivered⟩⟩

theorem publish_cases [DecidableEq Tree] (env : DeliveryEnv) (p : Publication) (w : DeliveryWorld Tree) :
    (∃ target, taskBranch w.events p.taskId p.runId = some target ∧
      publish env p w = (some ⟨p.taskId, p.runId, p.verified, some target.2, (deliver env p target w).1⟩,
        (deliver env p target w).2)) ∨
    ((publish env p w).2 = w ∧ ∀ r, (publish env p w).1 = some r → r.delivery.isDelivered = false ∧
      (p.verified = true → deliveryEnabled p.getenv = true → taskBranch w.events p.taskId p.runId = none)) := by
  unfold publish
  simp only
  split
  · rename_i unverified
    refine .inr ⟨rfl, fun r result => ?_⟩
    cases result
    refine ⟨rfl, fun verified => ?_⟩
    rw [verified] at unverified
    cases unverified
  · split
    · rename_i disabled
      refine .inr ⟨rfl, fun r result => ?_⟩
      cases result
      refine ⟨rfl, fun _ enabled => ?_⟩
      rw [enabled] at disabled
      cases disabled
    · split
      · exact .inr ⟨rfl, fun r result => by cases result⟩
      · split
        · rename_i missing
          refine .inr ⟨rfl, fun r result => ?_⟩
          cases result
          exact ⟨rfl, fun _ _ => missing⟩
        · rename_i target found
          exact .inl ⟨target, found, rfl⟩

theorem publish_upheld [DecidableEq Tree] (env : DeliveryEnv) (p : Publication) (w : DeliveryWorld Tree) :
    Upheld w (publish env p w).2 := by
  rcases publish_cases env p w with ⟨target, -, ran⟩ | ⟨same, -⟩
  · rw [ran]
    exact (deliver_published env p target w).1
  · rw [same]
    exact .refl w

theorem publish_delivered [DecidableEq Tree] {w : DeliveryWorld Tree} {r : PublishResult}
    (result : (publish env p w).1 = some r) (delivered : r.delivery.isDelivered = true) :
    ∃ path branch, p.target env w = some (path, branch) ∧ r.branchName = some branch ∧
      Shipped (publish env p w).2 path branch := by
  rcases publish_cases env p w with ⟨target, found, ran⟩ | ⟨-, early⟩
  · rw [ran] at result ⊢
    cases result
    obtain ⟨path, resolved, shipped⟩ := (deliver_published env p target w).2 delivered
    refine ⟨path, target.2, ?_, rfl, shipped⟩
    unfold Publication.target
    rw [found, Option.bind_some, resolved]
    rfl
  · rw [(early r result).1] at delivered
    cases delivered

/-- The newest event of the run that has a `CODEX_EXECUTION` action with a
branch of the runtime, and its last one. -/
def latestCodex (events : List ContextEvent) (taskId : String) (runId : Option String) : Option (ContextEvent × Json) :=
  ((agentResults events taskId).filter (ofRun runId)).findSome? fun event =>
    ((event.payload.get "actions").items.reverse.find? fun action => (codexBranch action).isSome).map fun action =>
      (event, action)

/-- The latest such action of the run is among the newest hundred results of
agents for the task, and says where its worktree is. -/
def Publication.Found (p : Publication) (w : DeliveryWorld Tree) : Prop :=
  ∀ event action, latestCodex w.events p.taskId p.runId = some (event, action) →
    event ∈ (agentResults w.events p.taskId).take 100 ∧ (present (action.get "worktree_path").str?).isSome

theorem actionBranch_none (lacks : codexBranch action = none) : actionBranch action = none := by
  unfold actionBranch
  rw [lacks]
  cases present (action.get "worktree_path").str? <;> rfl

theorem taskBranch_latest {events : List ContextEvent} {taskId : String} {runId : Option String}
    {event : ContextEvent} (latest : latestCodex events taskId runId = some (event, action))
    (recent : event ∈ (agentResults events taskId).take 100)
    (placed : (present (action.get "worktree_path").str?).isSome) :
    ∃ path branch, codexBranch action = some branch ∧ taskBranch events taskId runId = some (path, branch) := by
  obtain ⟨later, found, earlier, split, last, nothing⟩ := List.findSome?_eq_some_iff.mp latest
  obtain ⟨chosen, search, pair⟩ := Option.map_eq_some_iff.mp last
  obtain ⟨rfl, rfl⟩ := Prod.mk.inj pair
  obtain ⟨codex, newerActions, olderActions, actions, without⟩ := List.find?_eq_some_iff_append.mp search
  obtain ⟨branch, named⟩ := Option.isSome_iff_exists.mp codex
  obtain ⟨path, place⟩ := Option.isSome_iff_exists.mp placed
  -- the newer events of the run have no such action
  have skipped : ∀ other ∈ later, (other.payload.get "actions").items.reverse.findSome? actionBranch = none := by
    intro other member
    refine List.findSome?_eq_none_iff.mpr fun act inside => actionBranch_none ?_
    have absent := List.find?_eq_none.mp (Option.map_eq_none_iff.mp (nothing other member)) act inside
    simpa using absent
  have own : (found.payload.get "actions").items.reverse.findSome? actionBranch = some (path, branch) := by
    refine List.findSome?_eq_some_iff.mpr ⟨newerActions, chosen, olderActions, actions, ?_, fun act inside => ?_⟩
    · unfold actionBranch
      rw [place, named]
      rfl
    · refine actionBranch_none ?_
      have absent := without act inside
      simpa using absent
  -- of the newest hundred, those of the run begin with the same ones
  have window : ((agentResults events taskId).take 100).filter (ofRun runId) <+: later ++ found :: earlier := by
    rw [← split]
    exact (List.take_prefix 100 _).filter _
  obtain ⟨beyond, whole⟩ := window
  have ofTheRun : ofRun runId found = true := by
    have member : found ∈ (agentResults events taskId).filter (ofRun runId) := by
      rw [split]
      exact List.mem_append_right _ List.mem_cons_self
    exact (List.mem_filter.mp member).2
  have member : found ∈ ((agentResults events taskId).take 100).filter (ofRun runId) :=
    List.mem_filter.mpr ⟨recent, ofTheRun⟩
  have absent : found ∉ later := by
    intro inside
    rw [skipped found inside] at own
    cases own
  refine ⟨path, branch, named, ?_⟩
  unfold taskBranch
  rcases List.append_eq_append_iff.mp whole with ⟨more, longer, -⟩ | ⟨more, shorter, rest⟩
  · rw [longer] at absent
    exact absurd (List.mem_append_left _ member) absent
  · cases more with
    | nil =>
      rw [shorter, List.append_nil] at member
      exact absurd member absent
    | cons first after =>
      obtain ⟨rfl, -⟩ := List.cons.inj rest
      exact List.findSome?_eq_some_iff.mpr ⟨later, found, after, shorter, own, skipped⟩

/-- One publication for a run: what is delivered is in its pull request and on
its branch, and it is the branch of the latest `CODEX_EXECUTION` action of the run. -/
structure Faithful [DecidableEq Tree] (env : DeliveryEnv) (p : Publication) (w : DeliveryWorld Tree) : Prop where
  shipped : ∀ r, (publish env p w).1 = some r → r.delivery.isDelivered = true →
    ∃ path branch, p.target env w = some (path, branch) ∧ r.branchName = some branch ∧
      Shipped (publish env p w).2 path branch
  latest : p.verified = true → deliveryEnabled p.getenv = true → ∀ r, (publish env p w).1 = some r →
    ∀ event action, latestCodex w.events p.taskId p.runId = some (event, action) →
      r.branchName.isSome = true ∧ r.branchName = codexBranch action

theorem publish_faithful [DecidableEq Tree] {w : DeliveryWorld Tree} (found : p.Found w) : Faithful env p w := by
  refine ⟨fun r => publish_delivered, fun verified enabled r result event action latest => ?_⟩
  obtain ⟨recent, placed⟩ := found event action latest
  obtain ⟨path, branch, named, looked⟩ := taskBranch_latest latest recent placed
  rcases publish_cases env p w with ⟨target, same, ran⟩ | ⟨-, early⟩
  · rw [ran] at result
    cases result
    rw [looked] at same
    cases same
    exact ⟨rfl, named.symm⟩
  · rw [(early r result).2 verified enabled] at looked
    cases looked

/-- A sequence of publications, each with the world it is called in. Between
them agents work in their worktrees and record events. -/
inductive DeliveryRun [DecidableEq Tree] (env : DeliveryEnv) (start : DeliveryWorld Tree) :
    List (Publication × DeliveryWorld Tree) → DeliveryWorld Tree → Prop
  | start : DeliveryRun env start [] start
  | published {calls : List (Publication × DeliveryWorld Tree)} {w : DeliveryWorld Tree} (p : Publication)
      (run : DeliveryRun env start calls w) : DeliveryRun env start (calls ++ [(p, w)]) (publish env p w).2
  | elsewhere {calls : List (Publication × DeliveryWorld Tree)} {w later : DeliveryWorld Tree}
      (run : DeliveryRun env start calls w) (remote : later.remote = w.remote) (pulls : later.pulls = w.pulls) :
      DeliveryRun env start calls later

theorem DeliveryRun.upheld [DecidableEq Tree] {start : DeliveryWorld Tree}
    {calls : List (Publication × DeliveryWorld Tree)} (run : DeliveryRun env start calls w) : Upheld start w := by
  induction run with
  | start => exact .refl start
  | published p run ih => exact ih.trans (publish_upheld env p _)
  | elsewhere run remote pulls ih => exact ih.congr remote pulls

/-- **The delivery of draft pull requests** in every sequence of publications
for which the latest `CODEX_EXECUTION` action of the run can be found: no second
pull request of a branch, nothing pushed outside `sacm/`, and what is delivered
is what the run left on its latest branch. -/
theorem delivery_faithful [DecidableEq Tree] {env : DeliveryEnv} {start w : DeliveryWorld Tree}
    {calls : List (Publication × DeliveryWorld Tree)} (run : DeliveryRun env start calls w)
    (found : ∀ call ∈ calls, call.1.Found call.2) :
    (∀ url branch, (pullsOf w url branch).length ≤ max 1 (pullsOf start url branch).length) ∧
    (∀ url branch, ¬SacmBranch branch → w.remote url branch = start.remote url branch) ∧
    ∀ call ∈ calls, Faithful env call.1 call.2 :=
  ⟨run.upheld.pulls, run.upheld.foreign, fun call member => publish_faithful (found call member)⟩

end World

section Sample

/-- An agent ends a `CODEX_EXECUTION` on a branch. -/
def codexAction (branch : String) : Json :=
  .obj [("type", .str "CODEX_EXECUTION"), ("worktree_path", .str "/work/task"), ("branch_name", .str branch)]

def codexResult (runId branch : String) (time : Nat) : ContextEvent where
  id := toString time
  taskId := "task-1"
  eventType := "agent_result"
  payload := .obj [("run_id", .str runId), ("actions", .arr [codexAction branch])]
  createdAt := time

def sampleDeliveryEnv : DeliveryEnv where
  title _ := some "Task"
  repository path := .ok path
  quoted text := text
  hostname _ := .ok (some "github.com")

def samplePublication : Publication := ⟨"task-1", true, some "run-1", fun _ => none, {}⟩

def sampleDeliveryWorld (events : List ContextEvent) : DeliveryWorld Nat where
  events := events
  worktrees _ :=
    { branch := "sacm/task-1", named := by decide, work := 1, index := 0, head := 0, ahead := fun _ => 0,
      refs := fun _ => true, originUrl := some "https://github.com/team/app.git" }
  remote _ _ := none
  pulls := []

def verifiedWorld : DeliveryWorld Nat := sampleDeliveryWorld [codexResult "run-1" "sacm/task-1" 1]

def publishedWorld : DeliveryWorld Nat := (publish sampleDeliveryEnv samplePublication verifiedWorld).2

/-- A run that is published twice. -/
theorem delivery_faithful_sample :
    Faithful sampleDeliveryEnv samplePublication verifiedWorld ∧
      Faithful sampleDeliveryEnv samplePublication publishedWorld := by
  have found (w : DeliveryWorld Nat) (same : w.events = verifiedWorld.events) : samplePublication.Found w := by
    intro event action latest
    rw [same] at latest ⊢
    cases latest
    exact ⟨List.mem_singleton.mpr rfl, rfl⟩
  have kept : publishedWorld.events = verifiedWorld.events := by
    unfold publishedWorld
    rfl
  have once : DeliveryRun sampleDeliveryEnv verifiedWorld [(samplePublication, verifiedWorld)] publishedWorld :=
    .published samplePublication .start
  have twice := delivery_faithful (once.published samplePublication) (List.forall_mem_cons.mpr
    ⟨found _ rfl, List.forall_mem_singleton.mpr (found _ kept)⟩)
  exact ⟨twice.2.2 _ (.head _), twice.2.2 _ (.tail _ (.head _))⟩

/-- The result of a run, and a hundred of another run after it, the newest first. -/
def busyResults : List ContextEvent :=
  (List.range 100).reverse.map (fun index => codexResult "run-2" "sacm/other" (index + 1)) ++
    [codexResult "run-1" "sacm/task-1" 0]

theorem busyResults_agentResults : agentResults busyResults "task-1" = busyResults := by
  have all : busyResults.filter (fun event => event.taskId = "task-1" ∧ event.eventType = "agent_result") =
      busyResults := by
    refine List.filter_eq_self.mpr fun event member => ?_
    rcases List.mem_append.mp member with other | own
    · obtain ⟨index, -, rfl⟩ := List.mem_map.mp other
      rfl
    · rw [List.mem_singleton.mp own]
      rfl
  have older : ∀ {a b : ContextEvent}, b.createdAt < a.createdAt → eventKey b ≤ eventKey a := by
    intro a b earlier
    exact Prod.Lex.le_iff.mpr (.inl earlier)
  have newest : busyResults.Pairwise fun a b => eventKey b ≤ eventKey a := by
    have descending : (List.range 100).reverse.Pairwise fun a b => b < a :=
      List.pairwise_reverse.mpr List.pairwise_lt_range
    refine List.pairwise_append.mpr ⟨?_, List.pairwise_singleton _ _, fun a first b last => ?_⟩
    · refine List.pairwise_map.mpr (descending.imp fun below => older ?_)
      exact Nat.succ_lt_succ below
    · obtain ⟨index, -, rfl⟩ := List.mem_map.mp first
      rw [List.mem_singleton.mp last]
      exact older (Nat.succ_pos index)
  unfold agentResults KeysetPages.newestFirst
  rw [all]
  exact newest.insertionSort_eq

/-- The hundred newest results are of the other run: the verified one is said to have no branch. -/
theorem branch_out_of_window : samplePublication.verified = true ∧
    ¬Faithful sampleDeliveryEnv samplePublication (sampleDeliveryWorld busyResults) := by
  refine ⟨rfl, fun faithful => ?_⟩
  have others : ∀ event ∈ (List.range 100).reverse.map (fun index => codexResult "run-2" "sacm/other" (index + 1)),
      ¬ofRun (some "run-1") event = true := by
    intro event member
    obtain ⟨index, -, rfl⟩ := List.mem_map.mp member
    change ¬decide (Json.str "run-2" = Json.str "run-1") = true
    decide
  have missing : taskBranch busyResults "task-1" (some "run-1") = none := by
    unfold taskBranch
    rw [busyResults_agentResults]
    unfold busyResults
    rw [List.take_left' (by simp), List.filter_eq_nil_iff.mpr others]
    rfl
  have latest : latestCodex busyResults "task-1" (some "run-1") =
      some (codexResult "run-1" "sacm/task-1" 0, codexAction "sacm/task-1") := by
    unfold latestCodex
    rw [busyResults_agentResults]
    unfold busyResults
    rw [List.filter_append, List.filter_eq_nil_iff.mpr others]
    rfl
  have skipped : (publish sampleDeliveryEnv samplePublication (sampleDeliveryWorld busyResults)).1 =
      some ⟨"task-1", some "run-1", true, none, .skipped "no_task_branch"⟩ := by
    have lookup : taskBranch (sampleDeliveryWorld busyResults).events samplePublication.taskId samplePublication.runId =
        none := missing
    have enabled : deliveryEnabled samplePublication.getenv = true := by decide
    unfold publish
    simp only
    rw [lookup, enabled]
    rfl
  have named := faithful.latest rfl (by decide) _ skipped _ _ latest
  cases named.1

end Sample

end SacmRuntime
