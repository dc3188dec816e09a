import SacmRuntime.Governance.Authentication
import SacmRuntime.Runtime.ChecksumList

namespace SacmRuntime
open EvidenceService

namespace Jira

mutual
/-- `adf_text`. -/
def adfText : Json → List Char
  | .str s => stripped s.toList
  | .arr items => List.intercalate ['\n'] (adfItems items)
  | .obj fields =>
    match (Json.obj fields).get "type", (Json.obj fields).get "text" with
    | .str "text", .str text => stripped text.toList
    | _, _ => adfContent fields
  | _ => []

def adfItems : List Json → List (List Char)
  | [] => []
  | item :: rest => if adfText item = [] then adfItems rest else adfText item :: adfItems rest

/-- `adf_text(value.get("content", []))`. -/
def adfContent : List (String × Json) → List Char
  | [] => []
  | (key, value) :: rest => if key = "content" then adfText value else adfContent rest
end

def paragraph (line : List Char) : Json :=
  .obj [("type", .str "paragraph"),
    ("content", .arr [.obj [("type", .str "text"), ("text", .str (if line = [] then " " else String.ofList line))]])]

/-- `adf_document`. -/
def adfDocument (text : List Char) : Json :=
  .obj [("type", .str "doc"), ("version", .int 1), ("content", .arr ((splitLines text).map paragraph))]

theorem adfText_paragraph (line : List Char) : adfText (paragraph line) = stripped line := by
  have text : adfText (paragraph line) =
      List.intercalate ['\n'] (adfItems [.obj [("type", .str "text"),
        ("text", .str (if line = [] then " " else String.ofList line))]]) := by
    simp [paragraph, adfText, adfContent, Json.get]
  have inner : adfText (.obj [("type", .str "text"), ("text", .str (if line = [] then " " else String.ofList line))]) =
      stripped line := by
    by_cases empty : line = [] <;> simp [adfText, Json.get, empty]
    decide
  rw [text, adfItems, inner, adfItems]
  by_cases blank : stripped line = [] <;> simp [blank]

theorem adfText_document {first : List Char} {rest : List (List Char)} {text : List Char}
    (lines : splitLines text = first :: rest) (whole : stripped first = first) (present : first ≠ []) :
    ∃ after, adfText (adfDocument text) = first ++ after := by
  have content : adfText (adfDocument text) = List.intercalate ['\n'] (adfItems ((splitLines text).map paragraph)) := by
    simp [adfDocument, adfText, adfContent, Json.get]
  rw [content, lines, List.map_cons, adfItems, adfText_paragraph, whole, if_neg present]
  cases adfItems (rest.map paragraph) with
  | nil => exact ⟨[], by simp⟩
  | cons second others => exact ⟨_, rfl⟩

end Jira

/-- What an HTTP request comes to: an answer, a status from 400 on, or no
answer that can be read. -/
inductive HttpReply where
  | answered
  | refused (code : Nat)
  | broken

/-- One attempt of a request; it may be carried out although no answer
arrives. -/
structure HttpAttempt where
  applied : Bool
  reply : HttpReply

structure JiraComment where
  id : String
  body : Json
  deriving DecidableEq

/-- A transition, with the name of the status it leads to. -/
structure JiraTransition where
  id : String
  name : String
  target : String

structure JiraIssue where
  comments : List JiraComment
  status : String
  distinct : (comments.map JiraComment.id).Nodup

/-- What the Jira site decides: which transitions a status has, and the id of
a new comment. -/
structure JiraSite where
  transitions : String → List JiraTransition
  distinct : ∀ status, ((transitions status).map JiraTransition.id).Nodup
  newId : List String → String
  fresh : ∀ ids, newId ids ∉ ids

namespace JiraIssue

/-- The page that is read: the first hundred comments, the oldest first. -/
def listed (issue : JiraIssue) : List JiraComment := issue.comments.take 100

def add (site : JiraSite) (body : Json) (issue : JiraIssue) : JiraIssue where
  comments := issue.comments ++ [⟨site.newId (issue.comments.map JiraComment.id), body⟩]
  status := issue.status
  distinct := by
    have new := site.fresh (issue.comments.map JiraComment.id)
    rw [List.map_append, List.nodup_append]
    refine ⟨issue.distinct, List.nodup_singleton _, fun id old other single same => ?_⟩
    rw [same, List.mem_singleton.mp single] at old
    exact new old

def edit (id : String) (body : Json) (issue : JiraIssue) : JiraIssue where
  comments := issue.comments.map fun comment => if comment.id = id then { comment with body := body } else comment
  status := issue.status
  distinct := by
    have same :
      (issue.comments.map fun comment => if comment.id = id then { comment with body := body } else comment).map
        JiraComment.id = issue.comments.map JiraComment.id := by
      rw [List.map_map]
      refine List.map_congr_left fun comment _ => ?_
      by_cases here : comment.id = id <;> simp [here]
    rw [same]
    exact issue.distinct

def moveTo (status : String) (issue : JiraIssue) : JiraIssue := { issue with status := status }

end JiraIssue

/-- The issue as the site has it, and what becomes of the next requests. -/
structure JiraRemote where
  issue : JiraIssue
  attempts : Nat → HttpAttempt

/-- What a request asks of the site: a value and the issue after it, or a status from 400 on. -/
abbrev JiraAct (α : Type) : Type := JiraIssue → Except Nat (α × JiraIssue)

namespace JiraCloudClient
variable {α : Type}

def jiraError (message : String) : Error := .other "JiraError" message

def retryable (code : Nat) : Bool := code ∈ [408, 409, 425, 429] || 500 ≤ code

/-- The error of a status, and whether the request is tried again. -/
def refusal (code : Nat) : String × Bool := ("Jira returned HTTP " ++ toString code ++ ".", retryable code)

def outcome (act : JiraAct α) (issue : JiraIssue) : HttpReply → Except (String × Bool) α
  | .answered =>
    match act issue with
    | .ok (a, _) => .ok a
    | .error code => .error (refusal code)
  | .refused code => .error (refusal code)
  | .broken => .error ("Jira request failed due to a retryable transport error.", true)

def effect (act : JiraAct α) (issue : JiraIssue) (attempt : HttpAttempt) : JiraIssue :=
  match attempt.reply, attempt.applied, act issue with
  | .answered, _, .ok (_, next) => next
  | _, true, .ok (_, next) => next
  | _, _, _ => issue

/-- The loop of `_request`. -/
def send (act : JiraAct α) : Nat → String → Tx JiraRemote Error α
  | 0, lastError => Tx.raise (jiraError lastError)
  | attempts + 1, _ => fun remote =>
    let attempt := remote.attempts 0
    let next : JiraRemote := ⟨effect act remote.issue attempt, fun n => remote.attempts (n + 1)⟩
    match outcome act remote.issue attempt.reply with
    | .ok a => (.ok a, next)
    | .error (message, again) => if again then send act attempts message next else (.error (jiraError message), next)

/-- `_request`, once the secret of the connector is resolved. -/
def request (secret : Except Error Unit) (attempts : Nat) (act : JiraAct α) : Tx JiraRemote Error α := do
  Tx.ofExcept secret
  send act attempts "Jira request failed."

structure Access where
  site : JiraSite
  secret : Except Error Unit
  maxAttempts : Nat

/-- `issue`, of which only the name of the status is read. -/
def issueStatus (access : Access) : Tx JiraRemote Error String :=
  request access.secret access.maxAttempts fun issue => .ok (issue.status, issue)

def comments (access : Access) : Tx JiraRemote Error (List JiraComment) :=
  request access.secret access.maxAttempts fun issue => .ok (issue.listed, issue)

def addComment (site : JiraSite) (body : Json) : JiraAct JiraComment := fun issue =>
  .ok (⟨site.newId (issue.comments.map JiraComment.id), body⟩, issue.add site body)

/-- `create_comment`, which is not tried again. -/
def createComment (access : Access) (body : Json) : Tx JiraRemote Error JiraComment :=
  request access.secret 1 (addComment access.site body)

/-- What the site does with another body for a comment. -/
def editComment (id : String) (body : Json) : JiraAct JiraComment := fun issue =>
  if issue.comments.any fun comment => comment.id == id then .ok (⟨id, body⟩, issue.edit id body) else .error 404

def updateComment (access : Access) (id : String) (body : Json) : Tx JiraRemote Error JiraComment :=
  request access.secret access.maxAttempts (editComment id body)

def transitions (access : Access) : Tx JiraRemote Error (List JiraTransition) :=
  request access.secret access.maxAttempts fun issue => .ok (access.site.transitions issue.status, issue)

def moveIssue (site : JiraSite) (id : String) : JiraAct Unit := fun issue =>
  match (site.transitions issue.status).find? fun item => item.id == id with
  | some item => .ok ((), issue.moveTo item.target)
  | none => .error 400

/-- `transition`, which is not tried again. -/
def transition (access : Access) (id : String) : Tx JiraRemote Error Unit :=
  request access.secret 1 (moveIssue access.site id)

section
variable {act : JiraAct α} {P : JiraIssue → Prop}

theorem effect_cases (act : JiraAct α) (issue : JiraIssue) (attempt : HttpAttempt) :
    effect act issue attempt = issue ∨ ∃ a, act issue = .ok (a, effect act issue attempt) := by
  unfold effect
  split
  · exact .inr ⟨_, by assumption⟩
  · exact .inr ⟨_, by assumption⟩
  · exact .inl rfl

variable {a : α} {attempts : Nat} {last remote : JiraRemote} {read : JiraIssue → α} {secret : Except Error Unit}

theorem effect_of_outcome {issue : JiraIssue} {attempt : HttpAttempt}
    (answered : outcome act issue attempt.reply = .ok a) : act issue = .ok (a, effect act issue attempt) := by
  unfold outcome at answered
  split at answered
  · rename_i reply
    cases acted : act issue with
    | error code =>
      rw [acted] at answered
      cases answered
    | ok result =>
      rw [acted] at answered
      cases answered
      simp [effect, reply, acted]
  · cases answered
  · cases answered

section
variable (keeps : ∀ i a j, P i → act i = .ok (a, j) → P j)
include keeps

theorem send_keeps (attempts : Nat) (lastError : String) (remote : JiraRemote) (holds : P remote.issue) :
    P (send act attempts lastError remote).2.issue := by
  induction attempts generalizing lastError remote with
  | zero => exact holds
  | succ attempts ih =>
    have next : P (effect act remote.issue (remote.attempts 0)) := by
      rcases effect_cases act remote.issue (remote.attempts 0) with same | ⟨a, acted⟩
      · rwa [same]
      · exact keeps _ _ _ holds acted
    unfold send
    dsimp only
    split
    · exact next
    · split
      · exact ih _ _ next
      · exact next

theorem send_ok {lastError : String} (holds : P remote.issue)
    (returned : send act attempts lastError remote = (.ok a, last)) : ∃ i, P i ∧ act i = .ok (a, last.issue) := by
  induction attempts generalizing lastError remote with
  | zero => cases returned
  | succ attempts ih =>
    have next : P (effect act remote.issue (remote.attempts 0)) := by
      rcases effect_cases act remote.issue (remote.attempts 0) with same | ⟨a, acted⟩
      · rwa [same]
      · exact keeps _ _ _ holds acted
    unfold send at returned
    dsimp only at returned
    split at returned
    · rename_i answered
      cases returned
      exact ⟨_, holds, effect_of_outcome answered⟩
    · split at returned
      · exact ih next returned
      · cases returned

theorem request_keeps (secret : Except Error Unit) (attempts : Nat) (remote : JiraRemote) (holds : P remote.issue) :
    P (request secret attempts act remote).2.issue := by
  cases secret with
  | error e => exact holds
  | ok _ => exact send_keeps keeps attempts _ remote holds

theorem request_ok (holds : P remote.issue) (returned : request secret attempts act remote = (.ok a, last)) :
    ∃ i, P i ∧ act i = .ok (a, last.issue) := by
  cases secret with
  | error e => cases returned
  | ok _ => exact send_ok keeps holds returned

end

theorem request_once (secret : Except Error Unit) (remote : JiraRemote) :
    (request secret 1 act remote).2.issue = remote.issue ∨
      ∃ a, act remote.issue = .ok (a, (request secret 1 act remote).2.issue) := by
  cases secret with
  | error e => exact .inl rfl
  | ok _ =>
    have once : (request (.ok ()) 1 act remote).2.issue = effect act remote.issue (remote.attempts 0) := by
      change (send act 1 "Jira request failed." remote).2.issue = _
      unfold send
      dsimp only
      split
      · rfl
      · split <;> rfl
    rw [once]
    exact effect_cases act remote.issue (remote.attempts 0)

theorem request_once_ok (returned : request secret 1 act remote = (.ok a, last)) :
    act remote.issue = .ok (a, last.issue) := by
  cases secret with
  | error e => cases returned
  | ok _ =>
    change send act 1 "Jira request failed." remote = _ at returned
    unfold send at returned
    dsimp only at returned
    split at returned
    · rename_i answered
      cases returned
      exact effect_of_outcome answered
    · split at returned <;> cases returned

theorem request_reads (remote : JiraRemote) :
    (request secret attempts (fun issue => .ok (read issue, issue)) remote).2.issue = remote.issue := by
  refine request_keeps (P := fun issue => issue = remote.issue) ?_ secret attempts remote rfl
  intro i a j same acted
  cases acted
  exact same

theorem request_reads_ok
    (returned : request secret attempts (fun issue => .ok (read issue, issue)) remote = (.ok a, last)) :
    a = read remote.issue ∧ last.issue = remote.issue := by
  have keeps : ∀ i b j, i = remote.issue → (Except.ok (read i, i) : Except Nat (α × JiraIssue)) = .ok (b, j) →
      j = remote.issue := by
    intro i b j same acted
    cases acted
    exact same
  obtain ⟨i, same, acted⟩ := request_ok (P := fun issue => issue = remote.issue) keeps rfl returned
  cases acted
  exact ⟨congrArg read same, same⟩

end

end JiraCloudClient

end SacmRuntime
