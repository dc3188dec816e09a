import SacmRuntime.Governance.Authentication
import SacmRuntime.Lib.KeysetPages
import Mathlib.Data.List.TakeWhile

namespace SacmRuntime

/-- What the delivery takes from its surroundings: the title of a task, the
directory of a repository unless it is refused, `repr` of a text, and the host
of a URL unless `urlsplit` raises. -/
structure DeliveryEnv where
  title : String → Option String
  repository : String → Except String String
  quoted : String → String
  hostname : String → Except String (Option String)

/-- A worktree of git, its branch being the one of `HEAD`. `work`, `index` and
`head` are the contents of the files, of the index and of the last commit;
`ahead` counts the commits that a base does not have. -/
structure Worktree (Tree : Type) where
  branch : String
  named : ':' ∉ branch.toList
  work : Tree
  index : Tree
  head : Tree
  ahead : String → Nat
  refs : String → Bool
  originUrl : Option String

structure PullRequest where
  repository : String
  number : Nat
  url : String
  isDraft : Bool
  head : String
  base : String

/-- The events of the tasks, the worktrees by their directories, and on GitHub
the last commits of the branches and the open pull requests. -/
structure DeliveryWorld (Tree : Type) where
  events : List ContextEvent
  worktrees : String → Worktree Tree
  remote : String → String → Option Tree
  pulls : List PullRequest

/-- How a command ends. One that fails, or times out, may have done its work. -/
inductive DeliveryOutcome
  | succeeded
  | failed (stdout stderr : String) (took : Bool)

/-- How `gh pr list` ends. -/
inductive Listing
  | current
  | failed (stdout stderr : String)
  | invalidJson
  | notList

/-- How the commands of one delivery end, with the pull request that GitHub
numbers. -/
structure DeliveryCommands where
  showCurrent : DeliveryOutcome := .succeeded
  status : DeliveryOutcome := .succeeded
  localBase : DeliveryOutcome := .succeeded
  remoteBase : DeliveryOutcome := .succeeded
  revList : DeliveryOutcome := .succeeded
  invalidCount : Bool := false
  remoteUrl : DeliveryOutcome := .succeeded
  addAll : DeliveryOutcome := .succeeded
  commit : DeliveryOutcome := .succeeded
  push : DeliveryOutcome := .succeeded
  firstList : Listing := .current
  create : DeliveryOutcome := .succeeded
  number : Nat := 0
  url : String := ""
  secondList : Listing := .current

inductive Delivery
  | failed (error : String)
  | skipped (reason : String)
  | delivered (outcome : String) (number : Option Nat) (url : Option String) (draft : Bool)

/-- The arguments of `publish`, with the surroundings of the call. -/
structure Publication where
  taskId : String
  verified : Bool
  runId : Option String
  getenv : String → Option String
  commands : DeliveryCommands

/-- What `publish` returns. -/
structure PublishResult where
  taskId : String
  runId : Option String
  verified : Bool
  branchName : Option String := none
  delivery : Delivery

namespace GitHubAdapter

/-- Letters that `re.IGNORECASE` takes for one another. -/
def folded (c : Char) : Char :=
  if c = '\u017f' then 's' else if c = '\u212a' then 'k' else if 'A' ≤ c ∧ c ≤ 'Z' then Char.ofNat (c.toNat + 32) else c

/-- `[A-Za-z0-9_]`. -/
def tokenChar (c : Char) : Bool :=
  let d := folded c
  ('a' ≤ d && d ≤ 'z') || ('0' ≤ d && d ≤ '9') || d = '_'

def after (word text : List Char) : Option (List Char) :=
  if word.isPrefixOf (text.map folded) then some (text.drop word.length) else none

/-- `gh[opsu]_[A-Za-z0-9_]{20,}`, with the text after it. -/
def ghToken (text : List Char) : Option (List Char) :=
  ["gho_", "ghp_", "ghs_", "ghu_"].findSome? fun word =>
    (after word.toList text).bind fun rest =>
      if 20 ≤ (rest.takeWhile tokenChar).length then some (rest.dropWhile tokenChar) else none

/-- `https?://[^/\s:@]+:[^@\s/]+@`, with the text after it. -/
def urlPassword (text : List Char) : Option (List Char) :=
  ((after "https://".toList text).or (after "http://".toList text)).bind fun rest =>
    let inUser := fun c : Char => !(c = '/' || isSpace c || c = ':' || c = '@')
    let inPassword := fun c : Char => !(c = '@' || isSpace c || c = '/')
    match rest.takeWhile inUser, rest.dropWhile inUser with
    | _ :: _, ':' :: more =>
      match more.takeWhile inPassword, more.dropWhile inPassword with
      | _ :: _, '@' :: tail => some tail
      | _, _ => none
    | _, _ => none

/-- `_SECRET.sub("[REDACTED]", text)`. -/
def redactSecrets : Nat → List Char → List Char
  | 0, text => text
  | fuel + 1, text =>
    match (ghToken text).or (urlPassword text), text with
    | some rest, _ => "[REDACTED]".toList ++ redactSecrets fuel rest
    | none, c :: rest => c :: redactSecrets fuel rest
    | none, [] => []

/-- `_failed`. -/
def failedWith (stdout stderr : String) : Delivery :=
  let message := if stderr ≠ "" then stderr else if stdout ≠ "" then stdout else "GitHub delivery failed."
  let shown := message.toList.take 2000
  .failed (String.ofList (redactSecrets shown.length shown))

/-- What `_run` keeps of an output. -/
def kept (output : String) : String := String.ofList (output.toList.drop (output.length - 8000))

variable {Tree : Type}

/-- The method ends with the result unless the condition holds. -/
def demand (holds : Bool) (otherwise : Delivery) : Tx (DeliveryWorld Tree) Delivery Unit :=
  if holds then pure () else Tx.raise otherwise

def command (outcome : DeliveryOutcome) (work : DeliveryWorld Tree → DeliveryWorld Tree) :
    Tx (DeliveryWorld Tree) Delivery Unit := fun w =>
  match outcome with
  | .succeeded => (.ok (), work w)
  | .failed stdout stderr took => (.error (failedWith (kept stdout) (kept stderr)), if took then work w else w)

def inWorktree (path : String) (f : Worktree Tree → Worktree Tree) (w : DeliveryWorld Tree) : DeliveryWorld Tree :=
  { w with worktrees := fun other => if other = path then f (w.worktrees path) else w.worktrees other }

/-- `git add --all`. -/
def addAll (path : String) : DeliveryWorld Tree → DeliveryWorld Tree :=
  inWorktree path fun tree => { tree with index := tree.work }

/-- `git commit`. -/
def commit (path : String) : DeliveryWorld Tree → DeliveryWorld Tree :=
  inWorktree path fun tree => { tree with head := tree.index, ahead := fun ref => tree.ahead ref + 1 }

def destination (refspec : String) : String :=
  match refspec.toList.dropWhile (· ≠ ':') with
  | _ :: target => String.ofList target
  | [] => refspec

/-- `git push --set-upstream origin refspec`, of the branch of the worktree. -/
def push (path url refspec : String) (w : DeliveryWorld Tree) : DeliveryWorld Tree :=
  { w with remote := fun other branch =>
      if other = url ∧ branch = destination refspec then some (w.worktrees path).head else w.remote other branch }

/-- The first open pull request of a branch, as GitHub lists it. -/
def listed (w : DeliveryWorld Tree) (url branch : String) : Option PullRequest :=
  w.pulls.find? fun pull => pull.repository = url ∧ pull.head = branch

/-- `_open_pull_requests`. -/
def openPullRequests (listing : Listing) (url branch : String) (w : DeliveryWorld Tree) :
    Except Delivery (Option PullRequest) :=
  match listing with
  | .current => .ok (listed w url branch)
  | .failed stdout stderr => .error (failedWith (kept stdout) (kept stderr))
  | .invalidJson => .error (.failed "GitHub returned invalid pull-request JSON.")
  | .notList => .error (.failed "GitHub returned an unexpected pull-request payload.")

/-- `gh pr create`: a second open one for a branch and a base is refused. -/
def createPull (outcome : DeliveryOutcome) (pull : PullRequest) (w : DeliveryWorld Tree) :
    DeliveryOutcome × DeliveryWorld Tree :=
  let opened := { w with pulls := w.pulls ++ [pull] }
  if w.pulls.any fun known => known.repository = pull.repository && known.head = pull.head && known.base = pull.base
    then
    match outcome with
    | .succeeded => (.failed "" "a pull request already exists" false, w)
    | .failed stdout stderr _ => (.failed stdout stderr false, w)
  else
    match outcome with
    | .succeeded => (.succeeded, opened)
    | .failed stdout stderr took => (.failed stdout stderr took, if took then opened else w)

/-- `/pull/(\d+)(?:\D|$)`, the number. -/
def pullNumber : List Char → Option Nat
  | [] => none
  | c :: rest =>
    let digits := (rest.drop 5).takeWhile Char.isDigit
    if "/pull/".toList.isPrefixOf (c :: rest) ∧ digits ≠ [] then (String.ofList digits).toNat? else pullNumber rest

/-- `_base_ref`. -/
def baseRef (c : DeliveryCommands) (base : String) (tree : Worktree Tree) : Option String :=
  let found := fun (outcome : DeliveryOutcome) ref =>
    match outcome with
    | .succeeded => tree.refs ref
    | .failed _ _ _ => false
  if found c.localBase base then some base
  else if found c.remoteBase ("origin/" ++ base) then some ("origin/" ++ base)
  else none

/-- `(?:[^@]+@)?([^:]+):`, the host. -/
def scpHost (url : List Char) : Option (List Char) :=
  let plain := fun text : List Char =>
    match text.takeWhile (· ≠ ':'), text.dropWhile (· ≠ ':') with
    | c :: host, _ :: _ => some (c :: host)
    | _, _ => none
  match url.takeWhile (· ≠ '@'), url.dropWhile (· ≠ '@') with
  | _ :: _, _ :: rest => (plain rest).or (plain url)
  | _, _ => plain url

/-- `_is_github_remote`. -/
def isGitHubRemote (env : DeliveryEnv) (getenv : String → Option String) (url : String) : Except String Bool :=
  let lower := fun text : String => text.toList.flatMap lowerChar
  let slashless := fun text : List Char => ((text.dropWhile (· = '/')).reverse.dropWhile (· = '/')).reverse
  let configured := (present (getenv "GH_HOST")).map fun host => slashless (lower host)
  let hosts := "github.com".toList :: configured.toList
  if contains url.toList "://".toList then
    (env.hostname url).map fun host => ((host.map lower).getD []) ∈ hosts
  else .ok (((scpHost url.toList).getD []).flatMap lowerChar ∈ hosts)

/-- The branch is on GitHub, and is to have its pull request. -/
def openDraft (c : DeliveryCommands) (url branch base : String) : Tx (DeliveryWorld Tree) Delivery Delivery := fun w =>
  match openPullRequests c.firstList url branch w with
  | .error failed => (.error failed, w)
  | .ok (some pull) => (.ok (.delivered "reused" (some pull.number) (some pull.url) pull.isDraft), w)
  | .ok none =>
    let (created, after) := createPull c.create ⟨url, c.number, c.url, true, branch, base⟩ w
    match created, openPullRequests c.secondList url branch after with
    | .failed _ _ _, .ok (some pull) =>
      (.ok (.delivered "reused" (some pull.number) (some pull.url) pull.isDraft), after)
    | .failed stdout stderr _, _ => (.error (failedWith (kept stdout) (kept stderr)), after)
    | .succeeded, .ok (some pull) =>
      (.ok (.delivered "created" (some pull.number) (some pull.url) pull.isDraft), after)
    | .succeeded, _ =>
      let shown := String.ofList (stripped (kept c.url).toList)
      (.ok (.delivered "created" (pullNumber shown.toList) (present (some shown)) true), after)

def commitChanges (c : DeliveryCommands) (path : String) (dirty : Bool) : Tx (DeliveryWorld Tree) Delivery Unit :=
  if dirty then do
    command c.addAll (addAll path)
    command c.commit (commit path)
  else pure ()

/-- `git remote get-url origin`. -/
def originOf (outcome : DeliveryOutcome) (tree : Worktree Tree) : Option String :=
  match outcome with
  | .succeeded => (tree.originUrl.map fun url => String.ofList (stripped url.toList)).filter (· ≠ "")
  | .failed _ _ _ => none

/-- `publish_draft_pull_request`, once the worktree is known to have changes. -/
def pushAndOpen (env : DeliveryEnv) (getenv : String → Option String) (c : DeliveryCommands) (path branch base : String)
    (dirty : Bool) : Tx (DeliveryWorld Tree) Delivery Delivery := do
  let origin ← Tx.read fun w => originOf c.remoteUrl (w.worktrees path)
  let url ← Tx.expect (Delivery.skipped "no_remote") origin
  let github ← Tx.ofExcept ((isGitHubRemote env getenv url).mapError fun message => failedWith "" message)
  demand github (.skipped "non_github_remote")
  commitChanges c path dirty
  command c.push (push path url branch)
  openDraft c url branch base

/-- `git status --porcelain` lists something. -/
def dirty [DecidableEq Tree] (tree : Worktree Tree) : Bool := tree.index ≠ tree.head || tree.work ≠ tree.index

/-- `publish_draft_pull_request`. -/
def publishDraftPullRequest [DecidableEq Tree] (env : DeliveryEnv) (getenv : String → Option String)
    (c : DeliveryCommands)
    (path branch base : String) : Tx (DeliveryWorld Tree) Delivery Delivery := do
  demand ("sacm/".toList.isPrefixOf branch.toList)
    (failedWith "" "SACM may push and open pull requests only from sacm/ branches.")
  command c.showCurrent id
  let tree ← Tx.read fun w => w.worktrees path
  let shown := String.ofList (stripped tree.branch.toList)
  demand (shown = branch) (.failed ("Delivery worktree is on " ++ env.quoted shown ++ ", not expected task branch " ++
    env.quoted branch ++ "."))
  command c.status id
  let ref ← Tx.expect (Delivery.failed ("Cannot resolve pull-request base branch " ++ env.quoted base ++ "."))
    (baseRef c base tree)
  command c.revList id
  demand (!c.invalidCount) (.failed "Git returned an invalid task-branch commit count.")
  demand (dirty tree || tree.ahead ref ≠ 0) (.skipped "no_changes")
  pushAndOpen env getenv c path branch base (dirty tree)

end GitHubAdapter

namespace DraftPullRequestService
open GitHubAdapter

/-- The branch of a `CODEX_EXECUTION` action, if it is one of the runtime. -/
def codexBranch (action : Json) : Option String :=
  if action.get "type" = .str "CODEX_EXECUTION" then
    (action.get "branch_name").str?.filter fun branch => "sacm/".toList.isPrefixOf branch.toList
  else none

/-- The `TaskBranch` of an action: its worktree and its branch. -/
def actionBranch (action : Json) : Option (String × String) :=
  (present (action.get "worktree_path").str?).bind fun path => (codexBranch action).map fun branch => (path, branch)

def eventRun (event : ContextEvent) : Json :=
  if event.payload.get "run_id" = .null then
    match event.payload.get "agent_task_contract" with
    | .obj fields => Json.get (.obj fields) "run_id"
    | _ => .null
  else event.payload.get "run_id"

def ofRun (runId : Option String) (event : ContextEvent) : Bool :=
  match runId with
  | some id => eventRun event = .str id
  | none => true

/-- `created_at`, then `id`. -/
def eventKey (event : ContextEvent) : Nat ×ₗ String := toLex (event.createdAt, event.id)

/-- The results of agents for the task, the newest first. -/
def agentResults (events : List ContextEvent) (taskId : String) : List ContextEvent :=
  KeysetPages.newestFirst eventKey (events.filter fun event => event.taskId = taskId ∧ event.eventType = "agent_result")

/-- `_task_branch`. -/
def taskBranch (events : List ContextEvent) (taskId : String) (runId : Option String) : Option (String × String) :=
  (((agentResults events taskId).take 100).filter (ofRun runId)).findSome? fun event =>
    (event.payload.get "actions").items.reverse.findSome? actionBranch

/-- `_delivery_enabled`. -/
def deliveryEnabled (getenv : String → Option String) : Bool :=
  let configured := (getenv "SACM_AUTO_DRAFT_PR").or (getenv "SACM_CODEX_AUTO_CREATE_PR")
  ((present configured).getD "true").toList.flatMap lowerChar = "true".toList

variable {Tree : Type} [DecidableEq Tree]

def deliver (env : DeliveryEnv) (p : Publication) (target : String × String) (w : DeliveryWorld Tree) :
    Delivery × DeliveryWorld Tree :=
  match env.repository target.1 with
  | .error message => (.failed (String.ofList (message.toList.take 2000)), w)
  | .ok path =>
    match publishDraftPullRequest env p.getenv p.commands path target.2
      ((p.getenv "SACM_GITHUB_BASE_BRANCH").getD "main") w with
    | (.ok delivery, after) => (delivery, after)
    | (.error delivery, after) => (delivery, after)

/-- `publish`; nothing where it raises, there being no such task. -/
def publish (env : DeliveryEnv) (p : Publication) (w : DeliveryWorld Tree) :
    Option PublishResult × DeliveryWorld Tree :=
  let answer := fun (branchName : Option String) (delivery : Delivery) =>
    some (⟨p.taskId, p.runId, p.verified, branchName, delivery⟩ : PublishResult)
  if !p.verified then (answer none (.skipped "unverified"), w)
  else if !deliveryEnabled p.getenv then (answer none (.skipped "disabled"), w)
  else if (env.title p.taskId).isNone then (none, w)
  else
    match taskBranch w.events p.taskId p.runId with
    | none => (answer none (.skipped "no_task_branch"), w)
    | some target =>
      let (delivery, after) := deliver env p target w
      (answer (some target.2) delivery, after)

end DraftPullRequestService

end SacmRuntime
