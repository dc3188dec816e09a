import Mathlib.Algebra.Order.BigOperators.Group.List
import SacmRuntime.Runtime.JiraStatus

namespace SacmRuntime
open EvidenceService Jira Session

namespace Tx
variable {σ ε α β γ : Type} {g : σ → γ} {m : Tx σ ε α}

/-- A `try` leaves alone what its body and its handler leave alone. -/
theorem Leaves.catchRaise {handler : ε → Tx σ ε α} (first : Leaves g m) (rest : ∀ e, Leaves g (handler e)) :
    Leaves g (catchRaise m handler) := by
  intro s
  unfold Tx.catchRaise
  rcases run : m s with ⟨result, t⟩
  have same := first.after run
  cases result with
  | ok a => exact same
  | error e => exact (rest e t).trans same

/-- What comes back from `try` came back from its body or from its handler. -/
theorem catchRaise_ok {handler : ε → Tx σ ε α} {s t : σ} {a : α} (returned : catchRaise m handler s = (.ok a, t)) :
    m s = (.ok a, t) ∨ ∃ e mid, m s = (.error e, mid) ∧ handler e mid = (.ok a, t) := by
  unfold Tx.catchRaise at returned
  rcases run : m s with ⟨result, mid⟩
  rw [run] at returned
  cases result with
  | ok b => exact .inl returned
  | error e => exact .inr ⟨e, mid, rfl, returned⟩

end Tx

namespace JiraService
open JiraCloudClient

section
variable {env : JiraEnv} {task : JiraTask} {summary : Json} {targetState : String}

def markerHead : List Char := "SACM-STATUS:v1 task_id=".toList

theorem marker_toList (taskId : String) : (marker taskId).toList = '[' :: (markerHead ++ taskId.toList ++ [']']) := by
  have opening : "[SACM-STATUS:v1 task_id=".toList = '[' :: markerHead := by decide +kernel
  have closing : "]".toList = [']'] := by decide +kernel
  unfold marker
  simp only [String.toList_append, opening, closing, List.cons_append]

theorem markerHead_plain : Plain markerHead := by
  unfold Plain
  decide +kernel

theorem stripped_marker (taskId : String) : stripped (marker taskId).toList = (marker taskId).toList := by
  rw [marker_toList]
  generalize markerHead ++ taskId.toList = inner
  have opens : isSpace '[' = false := by decide
  have closes : isSpace ']' = false := by decide
  have first : ('[' :: (inner ++ [']'])).dropWhile isSpace = '[' :: (inner ++ [']']) := by
    rw [List.dropWhile_cons_of_neg (by simp [opens])]
  have last : ('[' :: (inner ++ [']'])).reverse = ']' :: ('[' :: inner).reverse := by simp
  rw [stripped, first, last, List.dropWhile_cons_of_neg (by simp [closes]), ← last, List.reverse_reverse]

theorem marker_plain (plain : Plain task.id.toList) : Plain (marker task.id).toList := by
  intro c member
  rw [marker_toList, List.mem_cons, List.mem_append, List.mem_append, List.mem_singleton] at member
  rcases member with rfl | (head | inside) | rfl
  · rfl
  · exact markerHead_plain c head
  · exact plain c inside
  · rfl

theorem adfText_first {first : List Char} (plain : Plain first) (whole : stripped first = first) (present : first ≠ [])
    (rest : List Char) : ∃ after, adfText (adfDocument (first ++ '\n' :: rest)) = first ++ after := by
  have lines : splitLines (first ++ '\n' :: rest) = first :: splitLines rest := by
    rw [splitLines_append, splitLines_line plain]
    rfl
  exact adfText_document lines whole present

theorem body_carries (id : String) : carries task.id ⟨id, statusBody env task summary targetState⟩ = true := by
  have present : (marker task.id).toList ≠ [] := by
    rw [marker_toList]
    exact List.cons_ne_nil _ _
  obtain ⟨rest, starts⟩ := adfText_first (marker_plain task.plain) (stripped_marker task.id) present
    (statusText env task summary targetState)
  unfold carries contains statusBody
  rw [starts]
  exact decide_eq_true (List.infix_append' [] _ rest)

end

end JiraService

namespace JiraIssue
open JiraService
variable {site : JiraSite} {issue : JiraIssue} {taskId : String} {body : Json}

theorem ext_of {first second : JiraIssue} (comments : first.comments = second.comments)
    (status : first.status = second.status) :
    first = second := by
  cases first
  cases second
  cases comments
  cases status
  rfl

theorem marked_add (carried : ∀ id, carries taskId ⟨id, body⟩ = true) :
    (issue.add site body).marked taskId =
      issue.marked taskId ++ [⟨site.newId (issue.comments.map JiraComment.id), body⟩] := by
  simp [marked, add, List.filter_append, carried]

theorem edit_edit (id : String) : (issue.edit id body).edit id body = issue.edit id body := by
  refine ext_of ?_ rfl
  simp only [edit, List.map_map]
  refine List.map_congr_left fun comment _ => ?_
  by_cases here : comment.id = id <;> simp [here]

theorem split_of_listed {comment : JiraComment} (found : issue.listed.find? (carries taskId) = some comment) :
    ∃ before after, issue.comments = before ++ comment :: after ∧ carries taskId comment = true ∧
      ∀ other ∈ before, carries taskId other = false := by
  obtain ⟨carried, before, after, page, unmarked⟩ := List.find?_eq_some_iff_append.mp found
  refine ⟨before, after ++ issue.comments.drop 100, ?_, carried,
    fun other member => by simpa using unmarked other member⟩
  calc issue.comments = issue.listed ++ issue.comments.drop 100 := (List.take_append_drop 100 _).symm
    _ = _ := by rw [page, List.append_assoc, List.cons_append]

theorem marked_edit {comment : JiraComment} {before after : List JiraComment}
    (split : issue.comments = before ++ comment :: after) (carried : carries taskId comment = true)
    (unmarked : ∀ other ∈ before, carries taskId other = false) (renewed : ∀ id, carries taskId ⟨id, body⟩ = true) :
    issue.marked taskId = comment :: after.filter (carries taskId) ∧
      (issue.edit comment.id body).marked taskId = ⟨comment.id, body⟩ :: after.filter (carries taskId) := by
  have none : before.filter (carries taskId) = [] :=
    List.filter_eq_nil_iff.mpr fun other member => by simp [unmarked other member]
  have distinct := issue.distinct
  rw [split, List.map_append, List.map_cons, List.nodup_append, List.nodup_cons] at distinct
  obtain ⟨-, ⟨notAfter, -⟩, apart⟩ := distinct
  have same (others : List JiraComment) (foreign : comment.id ∉ others.map JiraComment.id) :
      (others.map fun other => if other.id = comment.id then { other with body := body } else other) = others := by
    refine (List.map_congr_left fun other member => ?_).trans (List.map_id others)
    have different : other.id ≠ comment.id := fun same => foreign (List.mem_map.mpr ⟨other, member, same⟩)
    rw [if_neg different]
    rfl
  have notBefore : comment.id ∉ before.map JiraComment.id := fun member =>
    apart comment.id member comment.id List.mem_cons_self rfl
  refine ⟨?_, ?_⟩
  · rw [marked, split, List.filter_append, none, List.filter_cons_of_pos carried, List.nil_append]
  · rw [marked, edit]
    dsimp only
    rw [split, List.map_append, List.map_cons, same before notBefore, same after notAfter, List.filter_append, none]
    simp [renewed]

/-- The comment of the task is on the page at most once, and then it is the only one. -/
def Single (taskId : String) (issue : JiraIssue) : Prop :=
  ∀ comment ∈ issue.listed, carries taskId comment = true → issue.marked taskId = [comment]

/-- How the service writes the comment: it edits the first one on the page
that has the marker, or adds one if there is none. -/
inductive Written (site : JiraSite) (taskId : String) (body : Json) (issue : JiraIssue) : JiraIssue → Prop
  | edited {comment} (found : issue.listed.find? (carries taskId) = some comment) :
      Written site taskId body issue (issue.edit comment.id body)
  | added (absent : issue.listed.find? (carries taskId) = none) : Written site taskId body issue (issue.add site body)

theorem Written.status {next : JiraIssue} (written : Written site taskId body issue next) :
    next.status = issue.status := by
  cases written <;> rfl

theorem single_of_comments {first second : JiraIssue} (same : second.comments = first.comments)
    (single : Single taskId first) :
    Single taskId second := by
  unfold Single listed marked
  rw [same]
  exact single

theorem Written.bodies_iff {next : JiraIssue} (written : Written site taskId body issue next)
    (single : Single taskId issue)
    (carried : ∀ id, carries taskId ⟨id, body⟩ = true) :
    (next.marked taskId).map JiraComment.body = [body] ↔ ∀ comment ∈ issue.marked taskId, comment ∈ issue.listed := by
  cases written with
  | @edited comment found =>
    have onPage := List.mem_of_find?_eq_some found
    obtain ⟨before, after, split, marked, unmarked⟩ := split_of_listed found
    obtain ⟨atFirst, atLast⟩ := marked_edit split marked unmarked carried
    have only := single comment onPage marked
    have noMore : after.filter (carries taskId) = [] := by
      rw [only] at atFirst
      exact (List.cons.inj atFirst).2.symm
    rw [atLast, only, noMore]
    simp [onPage]
  | added absent =>
    have noneListed := List.find?_eq_none.mp absent
    rw [marked_add carried]
    constructor
    · intro bodies comment member
      have none : issue.marked taskId = [] := by simpa using bodies
      rw [none] at member
      cases member
    · intro listed
      have none : issue.marked taskId = [] := List.eq_nil_iff_forall_not_mem.mpr fun comment member =>
        noneListed comment (listed comment member) (List.mem_filter.mp member).2
      rw [none]
      rfl

theorem Written.single {next : JiraIssue} (written : Written site taskId body issue next) (single : Single taskId issue)
    (carried : ∀ id, carries taskId ⟨id, body⟩ = true) : Single taskId next := by
  intro comment onPage marked
  have isMarked : comment ∈ next.marked taskId := List.mem_filter.mpr ⟨List.mem_of_mem_take onPage, marked⟩
  by_cases listed : ∀ comment ∈ issue.marked taskId, comment ∈ issue.listed
  · have one := congrArg List.length ((written.bodies_iff single carried).mpr listed)
    rw [List.length_map] at one
    obtain ⟨only, alone⟩ := List.length_eq_one_iff.mp one
    rw [alone] at isMarked ⊢
    rw [List.mem_singleton.mp isMarked]
  · cases written with
    | @edited old found =>
      have oldOnPage := List.mem_of_find?_eq_some found
      have oldMarked : carries taskId old = true := by simpa using List.find?_some found
      rw [single old oldOnPage oldMarked] at listed
      simp [oldOnPage] at listed
    | added absent =>
      simp only [not_forall] at listed
      obtain ⟨far, isFar, notListed⟩ := listed
      have long : 100 ≤ issue.comments.length := by
        by_contra short
        refine notListed ?_
        rw [JiraIssue.listed, List.take_of_length_le (by omega)]
        exact (List.mem_filter.mp isFar).1
      have samePage : (issue.add site body).listed = issue.listed := List.take_append_of_le_length long
      rw [samePage] at onPage
      exact absurd marked (List.find?_eq_none.mp absent comment onPage)

end JiraIssue

namespace JiraDb

theorem operation?_setOperation_ne {d : JiraDb} {connectorId other key otherKey : String} (different : otherKey ≠ key)
    {f : JiraConnectorOperation → JiraConnectorOperation}
    (keeps : ∀ row, (f row).connectorId = row.connectorId ∧ (f row).idempotencyKey = row.idempotencyKey) :
    (d.setOperation connectorId key f).operation? other otherKey = d.operation? other otherKey := by
  let isOther (row : JiraConnectorOperation) : Bool := row.connectorId == other && row.idempotencyKey == otherKey
  let update (row : JiraConnectorOperation) : JiraConnectorOperation :=
    if row.connectorId == connectorId && row.idempotencyKey == key then f row else row
  have sameKey (row : JiraConnectorOperation) : isOther (update row) = isOther row := by
    unfold isOther update
    split
    · rw [(keeps row).1, (keeps row).2]
    · rfl
  have untouched : ∀ row, isOther row = true → update row = row := by
    intro row found
    have hasKey : row.idempotencyKey = otherKey := by
      simp only [isOther, Bool.and_eq_true, beq_iff_eq] at found
      exact found.2
    unfold update
    rw [if_neg (by simp [hasKey, different])]
  change (d.operations.map update).find? isOther = d.operations.find? isOther
  rw [List.find?_map, show isOther ∘ update = isOther from funext sameKey]
  cases found : d.operations.find? isOther with
  | none => rfl
  | some row => exact congrArg some (untouched row (List.find?_some found))

/-- Setting one operation completes no other. -/
theorem completed_setOperation_ne {d : JiraDb} {connectorId other key otherKey : String} (different : otherKey ≠ key)
    {f : JiraConnectorOperation → JiraConnectorOperation}
    (keeps : ∀ row, (f row).connectorId = row.connectorId ∧ (f row).idempotencyKey = row.idempotencyKey) :
    (d.setOperation connectorId key f).completed other otherKey = d.completed other otherKey := by
  unfold completed
  rw [operation?_setOperation_ne different keeps]

theorem completed_append_ne {d : JiraDb} {row : JiraConnectorOperation} {connectorId key : String}
    (different : key ≠ row.idempotencyKey) :
    ({ d with operations := d.operations ++ [row] } : JiraDb).completed connectorId key =
      d.completed connectorId key := by
  have absent : (row.connectorId == connectorId && row.idempotencyKey == key) = false := by
    simp [different.symm]
  simp [completed, operation?, List.find?_append, absent]

end JiraDb

namespace JiraService
open JiraCloudClient JiraIssue

section
variable {env : JiraEnv} {access : Access} {connector : JiraConnector} {taskId targetState key : String}
  {runId : Option String}
  {body : Json} {s t : JiraUnit}

theorem leaves_change {γ : Type} {g : JiraRemote → γ} (f : JiraDb → JiraDb) :
    Tx.Leaves (fun unit => g unit.remote) (change f) := fun _ => rfl

theorem leaves_commit {γ : Type} {g : JiraUnit → γ} (same : ∀ unit d, g { unit with committed := d } = g unit) :
    Tx.Leaves g commit := fun unit => same unit unit.working

theorem onJira_ok {α : Type} {m : Tx JiraRemote Error α} {a : α} (returned : onJira m s = (.ok a, t)) :
    m s.remote = (.ok a, t.remote) := by
  unfold onJira at returned
  cases returned' : m s.remote with
  | mk result remote =>
    rw [returned'] at returned
    cases returned
    rfl

theorem deliveryState_leaves : Tx.Leaves JiraUnit.remote (deliveryState connector taskId) := by
  refine Tx.leaves_read fun found => ?_
  cases found with
  | some _ => exact Tx.leaves_pure _
  | none => exact .bind (leaves_change (g := id) _) fun _ => leaves_commit fun _ _ => rfl

theorem deliveryState_completed (otherKey : String) :
    Tx.Leaves (fun unit => unit.working.completed connector.id otherKey) (deliveryState connector taskId) := by
  refine Tx.leaves_read fun found => ?_
  cases found with
  | some _ => exact Tx.leaves_pure _
  | none => exact .bind (fun _ => rfl) fun _ => leaves_commit fun _ _ => rfl

/-- Looking up or storing an operation asks Jira nothing. -/
theorem operation_leaves {operationType payloadHash : String} :
    Tx.Leaves JiraUnit.remote (operation connector taskId runId operationType key payloadHash) := by
  refine Tx.leaves_read fun found => ?_
  cases found with
  | some row => exact Tx.leaves_ite (Tx.leaves_raise _) (Tx.leaves_pure _)
  | none =>
    exact .bind (leaves_change (g := id) _) fun _ => .bind (leaves_commit fun _ _ => rfl) fun _ => Tx.leaves_pure _

theorem operation_completed {operationType payloadHash otherKey : String} (different : otherKey ≠ key) :
    Tx.Leaves (fun unit => unit.working.completed connector.id otherKey)
      (operation connector taskId runId operationType key payloadHash) := by
  refine Tx.leaves_read fun found => ?_
  cases found with
  | some row => exact Tx.leaves_ite (Tx.leaves_raise _) (Tx.leaves_pure _)
  | none =>
    refine .bind (fun unit => ?_) fun _ => .bind (leaves_commit fun _ _ => rfl) fun _ => Tx.leaves_pure _
    exact JiraDb.completed_append_ne different

/-- The row that `_operation` returns is the stored one, or a new one that is not completed. -/
theorem operation_ok {operationType payloadHash : String} {row : JiraConnectorOperation}
    (returned : operation connector taskId runId operationType key payloadHash s = (.ok row, t)) :
    row.status = .completed ↔ s.working.completed connector.id key = true := by
  unfold operation rows at returned
  rw [Tx.bind_read_run] at returned
  unfold JiraDb.completed
  cases found : s.working.operation? connector.id key with
  | none =>
    simp only [found] at returned
    obtain ⟨_, _, -, returned⟩ := Tx.bind_ok returned
    obtain ⟨_, _, -, returned⟩ := Tx.bind_ok returned
    cases returned
    simp
  | some stored =>
    simp only [found] at returned
    split at returned
    · cases returned
    · cases returned
      simp

/-- The service left the issue alone, or wrote the comment. -/
def Touched (site : JiraSite) (taskId : String) (body : Json) (before after : JiraIssue) : Prop :=
  after = before ∨ Written site taskId body before after

theorem editComment_ok {id : String} {issue next : JiraIssue} {result : JiraComment}
    (acted : editComment id body issue = .ok (result, next)) : next = issue.edit id body := by
  unfold editComment at acted
  split at acted
  · simp only [Except.ok.injEq, Prod.mk.injEq] at acted
    exact acted.2.symm
  · cases acted

theorem editComment_repeats {id : String} (issue : JiraIssue) : ∀ i result j, (i = issue ∨ i = issue.edit id body) →
    editComment id body i = .ok (result, j) → j = issue ∨ j = issue.edit id body := by
  intro i result j known acted
  rw [editComment_ok acted]
  rcases known with rfl | rfl
  · exact .inr rfl
  · exact .inr (edit_edit id)

/-- An update edits the comment it has found, whether its answer arrives or not. -/
theorem updateComment_touched {comment : JiraComment}
    (found : s.remote.issue.listed.find? (carries taskId) = some comment) :
    Touched access.site taskId body s.remote.issue
      (onJira (updateComment access comment.id body) s).2.remote.issue := by
  rcases request_keeps (editComment_repeats s.remote.issue) access.secret access.maxAttempts s.remote (.inl rfl) with
    same | edited
  · exact .inl same
  · refine .inr ?_
    change Written _ _ _ _ (request access.secret access.maxAttempts (editComment comment.id body) s.remote).2.issue
    rw [edited]
    exact .edited found

theorem updateComment_ok {comment result : JiraComment}
    (found : s.remote.issue.listed.find? (carries taskId) = some comment)
    (returned : onJira (updateComment access comment.id body) s = (.ok result, t)) :
    Written access.site taskId body s.remote.issue t.remote.issue := by
  obtain ⟨i, known, acted⟩ := request_ok (editComment_repeats s.remote.issue) (.inl rfl) (onJira_ok returned)
  have edited : t.remote.issue = s.remote.issue.edit comment.id body := by
    rw [editComment_ok acted]
    rcases known with rfl | rfl
    · rfl
    · exact edit_edit _
  rw [edited]
  exact .edited found

theorem addComment_ok {issue next : JiraIssue} {result : JiraComment}
    (acted : addComment access.site body issue = .ok (result, next)) : next = issue.add access.site body := by
  simp only [addComment, Except.ok.injEq, Prod.mk.injEq] at acted
  exact acted.2.symm

/-- A new comment is added once at most, whether its answer arrives or not. -/
theorem createComment_touched (absent : s.remote.issue.listed.find? (carries taskId) = none) :
    Touched access.site taskId body s.remote.issue (onJira (createComment access body) s).2.remote.issue := by
  change Touched _ _ _ _ (request access.secret 1 (addComment access.site body) s.remote).2.issue
  rcases @request_once _ (addComment access.site body) access.secret s.remote with same | ⟨result, acted⟩
  · exact .inl same
  · rw [addComment_ok acted]
    exact .inr (.added absent)

theorem comments_issue : Tx.Leaves (fun unit => unit.remote.issue) (onJira (comments access)) :=
  fun unit => request_reads unit.remote

theorem comments_ok {page : List JiraComment} (returned : onJira (comments access) s = (.ok page, t)) :
    page = s.remote.issue.listed ∧ t.remote.issue = s.remote.issue := request_reads_ok (onJira_ok returned)

theorem issueStatus_ok {status : String} (returned : onJira (issueStatus access) s = (.ok status, t)) :
    status = s.remote.issue.status ∧ t.remote.issue = s.remote.issue := request_reads_ok (onJira_ok returned)

theorem createStatusComment_touched (absent : s.remote.issue.listed.find? (carries taskId) = none) :
    Touched access.site taskId body s.remote.issue (createStatusComment access taskId body s).2.remote.issue := by
  have asked := @createComment_touched access _ body _ absent
  unfold createStatusComment Tx.catchRaise
  rcases ran : onJira (createComment access body) s with ⟨result, mid⟩
  rw [ran] at asked
  cases result with
  | ok comment => exact asked
  | error e =>
    dsimp only at asked ⊢
    have same : (reconcileComment access taskId e mid).2.remote.issue = mid.remote.issue :=
      Tx.leaves_ite (Tx.leaves_raise e) (.bind comments_issue fun _ => Tx.leaves_expect) mid
    rw [same]
    exact asked

theorem createStatusComment_ok {result : JiraComment} (absent : s.remote.issue.listed.find? (carries taskId) = none)
    (returned : createStatusComment access taskId body s = (.ok result, t)) :
    Written access.site taskId body s.remote.issue t.remote.issue := by
  have touched := @createStatusComment_touched access _ body _ absent
  rw [returned] at touched
  rcases touched with same | written
  · exfalso
    rcases Tx.catchRaise_ok returned with created | ⟨e, mid, failed, found⟩
    · have added := addComment_ok (request_once_ok (onJira_ok created))
      have shorter := congrArg (fun issue => issue.comments.length) (same.symm.trans added)
      simp [add] at shorter
    · unfold reconcileComment at found
      split at found
      · cases found
      · obtain ⟨page, last, listed, found⟩ := Tx.bind_ok found
        obtain ⟨rfl, unchanged⟩ := comments_ok listed
        obtain ⟨found, rfl⟩ := Tx.expect_ok found
        rw [← unchanged, same, absent] at found
        cases found
  · exact written

theorem writeStatusComment_touched (s : JiraUnit) :
    Touched access.site taskId body s.remote.issue
      (writeStatusComment access taskId body (s.remote.issue.listed.find? (carries taskId)) s).2.remote.issue := by
  cases found : s.remote.issue.listed.find? (carries taskId) with
  | some comment => exact updateComment_touched found
  | none => exact createStatusComment_touched found

theorem writeStatusComment_ok {comment : Option JiraComment} {result : JiraComment}
    (read : s.remote.issue.listed.find? (carries taskId) = comment)
    (returned : writeStatusComment access taskId body comment s = (.ok result, t)) :
    Written access.site taskId body s.remote.issue t.remote.issue := by
  cases comment with
  | some comment => exact updateComment_ok read returned
  | none => exact createStatusComment_ok read returned

theorem publishComment_completed {connectorId other otherKey : String} (different : otherKey ≠ key) :
    Tx.Leaves (fun unit => unit.working.completed other otherKey)
      (publishComment access connectorId taskId key body) := by
  have update {f : JiraConnectorOperation → JiraConnectorOperation}
      (keeps : ∀ row, (f row).connectorId = row.connectorId ∧ (f row).idempotencyKey = row.idempotencyKey) :
      Tx.Leaves (fun unit => unit.working.completed other otherKey) (change (JiraDb.setOperation connectorId key f)) :=
    fun _ => JiraDb.completed_setOperation_ne different keeps
  have written (comment : Option JiraComment) : Tx.Leaves (fun unit => unit.working.completed other otherKey)
      (writeStatusComment access taskId body comment) := by
    cases comment with
    | some comment => exact fun _ => rfl
    | none =>
      exact .catchRaise (fun _ => rfl) fun e =>
        Tx.leaves_ite (Tx.leaves_raise e) (.bind (fun _ => rfl) fun _ => Tx.leaves_expect)
  refine .bind (fun _ => rfl) fun page => .catchRaise ?_ fun e => ?_
  · exact .bind (update fun _ => ⟨rfl, rfl⟩) fun _ => .bind (written _) fun _ =>
      .bind (update fun _ => ⟨rfl, rfl⟩) fun _ _ => rfl
  · exact .bind (update fun _ => ⟨rfl, rfl⟩) fun _ => .bind (fun _ => rfl) fun _ =>
      .bind (leaves_commit fun _ _ => rfl) fun _ => Tx.leaves_raise e

/-- What the body of `try` does to the issue it has read. -/
theorem tryStatusComment_touched {connectorId : String} (s : JiraUnit) :
    Touched access.site taskId body s.remote.issue
      (tryStatusComment access connectorId taskId key body (s.remote.issue.listed.find? (carries taskId))
        s).2.remote.issue := by
  let counted : JiraUnit := { s with working := s.working.setOperation connectorId key fun row =>
    { row with attemptCount := row.attemptCount + 1 } }
  have wrote := @writeStatusComment_touched access taskId body counted
  unfold tryStatusComment change
  rw [Tx.bind_shift_run]
  refine Tx.outcome_bind (P := fun outcome : Except Error Unit × JiraUnit =>
    Touched access.site taskId body s.remote.issue outcome.2.remote.issue) (fun e t ran => ?_) fun result t ran => ?_
  · rw [ran] at wrote
    exact wrote
  · rw [ran] at wrote
    exact wrote

theorem publishComment_touched {connectorId : String} (s : JiraUnit) :
    Touched access.site taskId body s.remote.issue
      (publishComment access connectorId taskId key body s).2.remote.issue := by
  unfold publishComment
  refine Tx.outcome_bind (P := fun outcome : Except Error Unit × JiraUnit =>
    Touched access.site taskId body s.remote.issue outcome.2.remote.issue) (fun e t ran => ?_) fun page t ran => ?_
  · exact .inl (comments_issue.after ran)
  · obtain ⟨rfl, same⟩ := comments_ok ran
    have tried := @tryStatusComment_touched access taskId key body connectorId t
    rw [same] at tried
    unfold Tx.catchRaise
    rcases attempt :
      tryStatusComment access connectorId taskId key body (s.remote.issue.listed.find? (carries taskId)) t with
      ⟨result, u⟩
    rw [attempt] at tried
    cases result with
    | ok _ => exact tried
    | error e => exact tried

/-- A publication that returns has written the comment. -/
theorem publishComment_ok {connectorId : String}
    (returned : publishComment access connectorId taskId key body s = (.ok (), t)) :
    Written access.site taskId body s.remote.issue t.remote.issue := by
  obtain ⟨page, mid, listed, returned⟩ := Tx.bind_ok returned
  obtain ⟨rfl, same⟩ := comments_ok listed
  rw [← same] at returned ⊢
  rcases Tx.catchRaise_ok returned with tried | ⟨e, _, -, handled⟩
  · obtain ⟨_, counted, ran, tried⟩ := Tx.bind_ok tried
    have kept : counted.remote = mid.remote := by
      cases ran
      rfl
    obtain ⟨result, last, wrote, tried⟩ := Tx.bind_ok tried
    rw [← kept] at wrote ⊢
    have written := writeStatusComment_ok rfl wrote
    cases tried
    exact written
  · cases handled

theorem transition_comments {id : String} : Tx.Leaves (fun unit => unit.remote.issue.comments)
    (onJira (transition access id)) := by
  intro unit
  refine request_keeps (P := fun issue => issue.comments = unit.remote.issue.comments) ?_ access.secret 1
    unit.remote rfl
  intro i a j same acted
  unfold moveIssue at acted
  split at acted
  · cases acted
    exact same
  · cases acted

theorem moveIssue_ok {site : JiraSite} {issue next : JiraIssue} {item : JiraTransition} {result : Unit}
    (offered : item ∈ site.transitions issue.status) (acted : moveIssue site item.id issue = .ok (result, next)) :
    next.status = item.target := by
  unfold moveIssue at acted
  split at acted
  · rename_i first found
    have same : first = item := by
      refine List.inj_on_of_nodup_map (site.distinct issue.status) (List.mem_of_find?_eq_some found) offered ?_
      simpa using List.find?_some found
    simp only [Except.ok.injEq, Prod.mk.injEq, true_and] at acted
    rw [← acted, same]
    rfl
  · cases acted

theorem transition_ok {item : JiraTransition} {result : Unit}
    (offered : item ∈ access.site.transitions s.remote.issue.status)
    (returned : onJira (transition access item.id) s = (.ok result, t)) : t.remote.issue.status = item.target :=
  moveIssue_ok offered (request_once_ok (onJira_ok returned))

theorem issueStatus_comments : Tx.Leaves (fun unit => unit.remote.issue.comments) (onJira (issueStatus access)) :=
  fun unit => congrArg JiraIssue.comments (request_reads unit.remote)

theorem requestTransition_comments {target : String} {item : JiraTransition} :
    Tx.Leaves (fun unit => unit.remote.issue.comments) (requestTransition access target item) := by
  refine .catchRaise transition_comments fun e => Tx.leaves_ite (Tx.leaves_raise e) (.bind ?_ fun current => ?_)
  · exact issueStatus_comments
  · exact Tx.leaves_ite (Tx.leaves_raise e) (Tx.leaves_pure _)

/-- A transition that is taken from another status ends where it leads. -/
theorem requestTransition_ok {target : String} {item : JiraTransition}
    (offered : item ∈ access.site.transitions s.remote.issue.status) (other : s.remote.issue.status ≠ target)
    (returned : requestTransition access target item s = (.ok (), t)) : t.remote.issue.status = item.target := by
  rcases Tx.catchRaise_ok returned with asked | ⟨e, mid, asked, reconciled⟩
  · exact transition_ok offered asked
  · unfold reconcileTransition at reconciled
    split at reconciled
    · cases reconciled
    · obtain ⟨current, last, read, reconciled⟩ := Tx.bind_ok reconciled
      obtain ⟨rfl, same⟩ := issueStatus_ok read
      split at reconciled
      · cases reconciled
      · rename_i equal
        cases reconciled
        have lost := congrArg (fun outcome => outcome.2.remote.issue) asked
        rw [same]
        rcases @request_once Unit (moveIssue access.site item.id) access.secret s.remote with unmoved | ⟨_, acted⟩
        · have here : mid.remote.issue = s.remote.issue := lost.symm.trans unmoved
          rw [here] at equal
          exact absurd (not_not.mp equal) other
        · have here : mid.remote.issue = (request access.secret 1 (moveIssue access.site item.id) s.remote).2.issue :=
            lost.symm
          rw [here]
          exact moveIssue_ok offered acted

theorem moveStatus_comments {connectorId target : String} :
    Tx.Leaves (fun unit => unit.remote.issue.comments) (moveStatus env access connectorId key target) := by
  refine .bind issueStatus_comments fun current => ?_
  refine Tx.leaves_ite (fun _ => rfl) (.bind (fun unit => ?_) fun items => .bind Tx.leaves_expect fun item => ?_)
  · exact congrArg JiraIssue.comments (request_reads unit.remote)
  · exact .bind (fun _ => rfl) fun _ => .bind requestTransition_comments fun _ _ => rfl

/-- A move that returns ends at the mapped status exactly if that can be reached. -/
theorem moveStatus_ok {connectorId target : String}
    (returned : moveStatus env access connectorId key target s = (.ok (), t)) :
    t.remote.issue.status = target ↔ SyncCall.Reaches env access.site target s.remote.issue.status := by
  obtain ⟨current, mid, read, returned⟩ := Tx.bind_ok returned
  obtain ⟨rfl, same⟩ := issueStatus_ok read
  have sameStatus : mid.remote.issue.status = s.remote.issue.status := congrArg JiraIssue.status same
  split at returned
  · rename_i equal
    cases returned
    exact ⟨fun _ => .inl equal, fun _ => sameStatus.trans equal⟩
  · rename_i other
    obtain ⟨items, listed, asked, choosing⟩ := Tx.bind_ok returned
    obtain ⟨rfl, unchanged⟩ := request_reads_ok (onJira_ok asked)
    obtain ⟨item, settled, chosen, counting⟩ := Tx.bind_ok choosing
    obtain ⟨found, rfl⟩ := Tx.expect_ok chosen
    obtain ⟨_, counted, ran, requesting⟩ := Tx.bind_ok counting
    have kept : counted.remote = settled.remote := by
      cases ran
      rfl
    obtain ⟨_, moved, requested, completed⟩ := Tx.bind_ok requesting
    cases completed
    have before : counted.remote.issue.status = s.remote.issue.status := by
      rw [kept, unchanged, sameStatus]
    rw [sameStatus] at found
    have reached := requestTransition_ok (by rw [before]; exact List.mem_of_find?_eq_some found)
      (by rw [before]; exact other) requested
    constructor
    · exact fun atTarget => .inr ⟨item, found, reached.symm.trans atTarget⟩
    · rintro (equal | ⟨first, taken, leads⟩)
      · exact absurd equal other
      · cases found.symm.trans taken
        exact reached.trans leads

/-- The operations of a comment and of a transition have different keys. -/
theorem keys_apart (taskId hash targetState target : String) :
    transitionKey taskId targetState target ≠ commentKey taskId hash := by
  intro same
  have heads := congrArg (fun key => key.toList.head?) same
  unfold transitionKey commentKey at heads
  simp only [String.toList_append, List.head?_append] at heads
  cases heads

theorem syncComment_ok (returned : syncComment env access connector taskId runId body s = (.ok (), t)) :
    if s.working.completed connector.id (commentKey taskId (canonicalHash env body)) = true
      then t.remote.issue = s.remote.issue else Written access.site taskId body s.remote.issue t.remote.issue := by
  obtain ⟨row, mid, found, published⟩ := Tx.bind_ok returned
  have kept : mid.remote = s.remote := operation_leaves.after found
  have stored := operation_ok found
  by_cases completed : s.working.completed connector.id (commentKey taskId (canonicalHash env body)) = true
  · rw [if_pos completed]
    rw [if_pos (stored.mpr completed)] at published
    cases published
    rw [kept]
  · rw [if_neg completed]
    rw [if_neg fun same => completed (stored.mp same)] at published
    rw [← kept]
    exact publishComment_ok published

theorem syncComment_completed {otherKey : String} (different : otherKey ≠ commentKey taskId (canonicalHash env body)) :
    Tx.Leaves (fun unit => unit.working.completed connector.id otherKey)
      (syncComment env access connector taskId runId body) := by
  refine .bind (operation_completed different) fun row => Tx.leaves_ite (Tx.leaves_pure _) ?_
  exact publishComment_completed different

theorem syncComment_touched (s : JiraUnit) : Touched access.site taskId body s.remote.issue
    (syncComment env access connector taskId runId body s).2.remote.issue := by
  unfold syncComment
  refine Tx.outcome_bind (P := fun outcome : Except Error Unit × JiraUnit =>
    Touched access.site taskId body s.remote.issue outcome.2.remote.issue) (fun e t ran => ?_) fun row t ran => ?_
  · exact .inl (congrArg JiraRemote.issue (operation_leaves.after ran))
  · have kept : t.remote = s.remote := operation_leaves.after ran
    split
    · exact .inl (congrArg JiraRemote.issue kept)
    · rw [← kept]
      exact publishComment_touched t

theorem syncTransition_comments :
    Tx.Leaves (fun unit => unit.remote.issue.comments)
      (syncTransition env access connector taskId runId targetState) := by
  unfold syncTransition
  cases mappedStatus connector targetState with
  | none => exact Tx.leaves_pure _
  | some target =>
    refine .bind (fun unit => ?_) fun row => Tx.leaves_ite (Tx.leaves_pure _) (.bind moveStatus_comments fun _ =>
      Tx.leaves_pure _)
    exact congrArg (fun remote => remote.issue.comments) (operation_leaves unit)

/-- The status of a call: left alone if its operation is completed, and else one that the mapped name stands for. -/
theorem syncTransition_ok {target : String} {result : Option String}
    (mapped : mappedStatus connector targetState = some target)
    (returned : syncTransition env access connector taskId runId targetState s = (.ok result, t)) :
    if s.working.completed connector.id (transitionKey taskId targetState target) = true
      then t.remote.issue = s.remote.issue
      else (t.remote.issue.status = target ↔ SyncCall.Reaches env access.site target s.remote.issue.status) := by
  unfold syncTransition at returned
  simp only [mapped] at returned
  obtain ⟨row, mid, found, moved⟩ := Tx.bind_ok returned
  have kept : mid.remote = s.remote := operation_leaves.after found
  have stored := operation_ok found
  by_cases completed : s.working.completed connector.id (transitionKey taskId targetState target) = true
  · rw [if_pos completed]
    rw [if_pos (stored.mpr completed)] at moved
    cases moved
    rw [kept]
  · rw [if_neg completed]
    rw [if_neg fun same => completed (stored.mp same)] at moved
    obtain ⟨_, last, ran, finished⟩ := Tx.bind_ok moved
    cases finished
    rw [← kept]
    exact moveStatus_ok ran

theorem recordStatus_leaves {summary : Json} {jiraStatus : Option String} :
    Tx.Leaves JiraUnit.remote (recordStatus connector taskId summary targetState runId jiraStatus) := by
  refine .bind (fun _ => rfl) fun _ => Tx.leaves_read fun commentId => .bind (fun _ => rfl) fun _ => ?_
  exact .bind (leaves_commit fun _ _ => rfl) fun _ => Tx.leaves_read fun state => Tx.leaves_expect

end

end JiraService

namespace SyncCall
open JiraService JiraIssue

section
variable {env : JiraEnv} {site : JiraSite} {call : SyncCall} {world : JiraWorld}

/-- What a call that returns leaves, part by part. -/
theorem run_ok {state : JiraDeliveryState} {last : JiraUnit} (returned : call.run env site world = (.ok state, last)) :
    ∃ commented : JiraIssue,
      (if world.db.completed call.connector.id
        (commentKey call.task.id (JiraService.canonicalHash env (call.body env))) = true
        then commented = world.issue else Written site call.task.id (call.body env) world.issue commented) ∧
      last.remote.issue.comments = commented.comments ∧
      ∀ target, mappedStatus call.connector call.targetState = some target →
        if world.db.completed call.connector.id (transitionKey call.task.id call.targetState target) = true
          then last.remote.issue.status = commented.status
          else (last.remote.issue.status = target ↔ Reaches env site target commented.status) := by
  obtain ⟨_, found, atState, returned⟩ := Tx.bind_ok returned
  obtain ⟨_, opened, ran, returned⟩ := Tx.bind_ok returned
  have sameRemote : opened.remote = ⟨world.issue, call.attempts⟩ := by
    cases ran
    exact deliveryState_leaves.after atState
  have sameRows (key : String) :
      opened.working.completed call.connector.id key = world.db.completed call.connector.id key := by
    cases ran
    exact (deliveryState_completed key).after atState
  obtain ⟨_, commented, commenting, returned⟩ := Tx.bind_ok returned
  obtain ⟨jiraStatus, moved, moving, recording⟩ := Tx.bind_ok returned
  have recorded : last.remote = moved.remote := recordStatus_leaves.after recording
  have wrote := syncComment_ok commenting
  rw [sameRows, sameRemote] at wrote
  refine ⟨commented.remote.issue, wrote, ?_, fun target mapped => ?_⟩
  · rw [recorded]
    exact syncTransition_comments.after moving
  · have reached := syncTransition_ok mapped moving
    have untouched := (syncComment_completed (keys_apart call.task.id (JiraService.canonicalHash env (call.body env))
      call.targetState target)).after commenting
    rw [untouched, sameRows] at reached
    rw [recorded]
    split
    · rename_i completed
      rw [if_pos completed] at reached
      rw [reached]
    · rename_i pending
      rwa [if_neg pending] at reached

/-- For one comment on the first page at most, showing the call is the condition of the
theorem. -/
theorem shown_iff {state : JiraDeliveryState} (single : Single call.task.id world.issue)
    (returned : (call.run env site world).1 = .ok state) :
    Shown env call (call.after env site world).issue ↔ Current env site call world := by
  obtain ⟨commented, wrote, sameComments, reached⟩ := run_ok (Prod.ext returned rfl)
  have carried (id : String) : carries call.task.id ⟨id, call.body env⟩ = true := body_carries id
  have sameMarked : (call.after env site world).issue.marked call.task.id = commented.marked call.task.id :=
    congrArg (List.filter (carries call.task.id)) sameComments
  have sameStatus : commented.status = world.issue.status := by
    split at wrote
    · rw [wrote]
    · exact wrote.status
  have comment : ((call.after env site world).issue.marked call.task.id).map JiraComment.body = [call.body env] ↔
      if world.db.completed call.connector.id
        (commentKey call.task.id (JiraService.canonicalHash env (call.body env))) = true
        then (world.issue.marked call.task.id).map JiraComment.body = [call.body env]
        else ∀ comment ∈ world.issue.marked call.task.id, comment ∈ world.issue.listed := by
    rw [sameMarked]
    split at wrote
    · rename_i completed
      rw [if_pos completed, wrote]
    · rename_i pending
      rw [if_neg pending]
      exact wrote.bodies_iff single carried
  have status (target : String) (mapped : mappedStatus call.connector call.targetState = some target) :
      (call.after env site world).issue.status = target ↔
        if world.db.completed call.connector.id (transitionKey call.task.id call.targetState target) = true
          then world.issue.status = target else Reaches env site target world.issue.status := by
    have same := reached target mapped
    change (call.run env site world).2.remote.issue.status = target ↔ _
    rw [sameStatus] at same
    split at same
    · rename_i completed
      rw [if_pos completed, same]
    · rename_i pending
      rw [if_neg pending]
      exact same
  constructor
  · exact fun shown =>
      ⟨comment.mp shown.comment, fun target mapped => (status target mapped).mp (shown.status target mapped)⟩
  · exact fun current =>
      ⟨comment.mpr current.comment, fun target mapped => (status target mapped).mpr (current.status target mapped)⟩

/-- A call leaves one comment with the marker on the first page at most. -/
theorem after_single (single : Single call.task.id world.issue) :
    Single call.task.id (call.after env site world).issue := by
  have carried (id : String) : carries call.task.id ⟨id, call.body env⟩ = true := body_carries id
  change Single call.task.id (call.run env site world).2.remote.issue
  unfold run syncStatus
  refine Tx.outcome_bind (P := fun outcome : Except Error JiraDeliveryState × JiraUnit =>
    Single call.task.id outcome.2.remote.issue) (fun e t ran => ?_) fun _ found ran => ?_
  · rw [deliveryState_leaves.after ran]
    exact single
  let opened : JiraUnit := { found with working := found.working.setState call.task.id fun row =>
    { row with runId := (present call.runId).orElse fun _ => row.runId } }
  have sameIssue : opened.remote.issue = world.issue := congrArg JiraRemote.issue (deliveryState_leaves.after ran)
  unfold change
  rw [Tx.bind_shift_run]
  have touched := @syncComment_touched env (call.access site) call.connector call.task.id call.runId
    (call.body env) opened
  rw [sameIssue] at touched
  have written (issue : JiraIssue) (touched : Touched site call.task.id (call.body env) world.issue issue) :
      Single call.task.id issue := by
    rcases touched with same | written
    · rwa [same]
    · exact written.single single carried
  refine Tx.outcome_bind (P := fun outcome : Except Error JiraDeliveryState × JiraUnit =>
    Single call.task.id outcome.2.remote.issue) (fun e t ran => ?_) fun _ commented ran => ?_
  · rw [show syncComment _ _ _ _ _ _ opened = (.error e, t) from ran] at touched
    exact written _ touched
  · rw [show syncComment _ _ _ _ _ _ opened = (.ok (), commented) from ran] at touched
    have last : Tx.Leaves (fun unit => unit.remote.issue.comments) (do
        let jiraStatus ← syncTransition env (call.access site) call.connector call.task.id call.runId call.targetState
        recordStatus call.connector call.task.id call.summary call.targetState call.runId jiraStatus) :=
      .bind syncTransition_comments fun _ unit => congrArg (fun remote => remote.issue.comments)
        (recordStatus_leaves unit)
    exact single_of_comments (last commented) (written _ touched)

/-- Every call about a task that returns leaves the issue showing what it
renders exactly if the operations of the call that are completed are still
shown, and else the comment of the task is on the page that is read and the
transition that is taken leads to the mapped status. -/
theorem sync_status_shows {taskId : String} {first last : JiraWorld} (unmarked : first.issue.marked taskId = [])
    (run : Path (SyncAction.after env site) (SyncAction.Concerns taskId) first last)
    (about : call.task.id = taskId) {state : JiraDeliveryState} (returned : (call.run env site last).1 = .ok state) :
    Shown env call (call.after env site last).issue ↔ Current env site call last := by
  have single : Single taskId first.issue := by
    intro comment onPage marked
    have member : comment ∈ first.issue.marked taskId := List.mem_filter.mpr ⟨List.mem_of_mem_take onPage, marked⟩
    rw [unmarked] at member
    cases member
  have kept : Single taskId last.issue := by
    refine run.keeps (P := fun world => Single taskId world.issue) (fun world _ action concerns single => ?_) single
    cases action with
    | sync other =>
      cases concerns
      exact after_single single
    | around db => exact single
  cases about
  exact shown_iff kept returned

end

namespace Sample

def env : JiraEnv where
  getenv _ := none
  loads _ := none
  repr _ := ""
  sha256 text := if 'Y' ∈ text then "1" else "0"
  casefold text := String.ofList (text.toList.flatMap lowerChar)

def newId (ids : List String) : String := String.ofList (List.replicate ((ids.map String.length).sum + 1) 'c')

theorem newId_fresh (ids : List String) : newId ids ∉ ids := by
  intro member
  have within : (newId ids).length ≤ (ids.map String.length).sum :=
    List.single_le_sum (fun _ _ => Nat.zero_le _) _ (List.mem_map_of_mem member)
  have longer : (newId ids).length = (ids.map String.length).sum + 1 := by simp [newId]
  omega

def site : JiraSite where
  transitions _ := [⟨"11", "To Do", "To Do"⟩, ⟨"21", "Start", "In Progress"⟩]
  distinct _ := by decide
  newId := newId
  fresh := newId_fresh

def connector : JiraConnector where
  id := "connector"
  projectId := "project"
  baseUrl := "https://jira.example.com"
  jiraProjectKey := "SACM"
  fieldMapping := []
  statusMapping := [("AWAITING_CLARIFICATION", "To Do"), ("READY", "In Progress")]
  maxAttempts := 3

def task : JiraTask := ⟨"task", some 65, .null, by unfold Plain; decide⟩

/-- A call whose first request for a new comment loses its answer, if the comment is not there yet. -/
def syncTo (targetState : String) (lost : Nat) : SyncCall where
  connector := connector
  task := task
  summary := .obj []
  targetState := targetState
  attempts n := if n = lost then ⟨true, .broken⟩ else ⟨true, .answered⟩

def first : JiraWorld := ⟨{}, ⟨[], "To Do", by decide⟩⟩

def supply : Supply := ⟨fun _ => 0, fun _ => "", fun _ => ""⟩

def worldAfter (calls : List SyncCall) : JiraWorld :=
  Path.storeAfter (SyncAction.after env site) first (calls.map fun call => (.sync call, supply))

theorem path (calls : List SyncCall) (about : ∀ call ∈ calls, call.task.id = "task") :
    Path (SyncAction.after env site) (SyncAction.Concerns "task") first (worldAfter calls) := by
  induction calls using List.reverseRecOn with
  | nil => exact .start
  | append_singleton calls call ih =>
    have before := ih fun other member => about other (List.mem_append_left _ member)
    unfold worldAfter at before ⊢
    rw [List.map_append, Path.storeAfter_append]
    exact .next before (.sync call) supply (about call (by simp))

theorem first_unmarked : first.issue.marked "task" = [] := rfl

theorem returns_of {call : SyncCall} {world : JiraWorld} (finished : (call.run env site world).1.isOk = true) :
    ∃ state, (call.run env site world).1 = .ok state := by
  cases result : (call.run env site world).1 with
  | ok state => exact ⟨state, rfl⟩
  | error e =>
    rw [result] at finished
    cases finished

def published : JiraWorld := worldAfter [syncTo "AWAITING_CLARIFICATION" 1]

/-- A status whose comment is created although the answer is lost, and then another one. -/
theorem sync_status_shows_ready :
    Shown env (syncTo "READY" 9) ((syncTo "READY" 9).after env site published).issue := by
  obtain ⟨finished, listed, pending, unmoved⟩ : ((syncTo "READY" 9).run env site published).1.isOk = true ∧
      (∀ comment ∈ published.issue.marked "task", comment ∈ published.issue.listed) ∧
      published.db.completed "connector"
        (commentKey "task" (JiraService.canonicalHash env ((syncTo "READY" 9).body env))) =
        false ∧
      published.db.completed "connector" (transitionKey "task" "READY" "In Progress") = false := by decide +kernel
  obtain ⟨state, returned⟩ := returns_of finished
  have leads : Reaches env site "In Progress" published.issue.status :=
    .inr ⟨⟨"21", "Start", "In Progress"⟩, rfl, rfl⟩
  have current : Current env site (syncTo "READY" 9) published := by
    refine ⟨?_, fun target mapped => ?_⟩
    · have notCompleted : ¬published.db.completed (syncTo "READY" 9).connector.id (commentKey (syncTo "READY" 9).task.id
          (JiraService.canonicalHash env ((syncTo "READY" 9).body env))) = true :=
        fun completed => Bool.false_ne_true (pending.symm.trans completed)
      rw [if_neg notCompleted]
      exact listed
    · cases mapped
      have notCompleted : ¬published.db.completed (syncTo "READY" 9).connector.id
          (transitionKey (syncTo "READY" 9).task.id (syncTo "READY" 9).targetState "In Progress") = true :=
        fun completed => Bool.false_ne_true (unmoved.symm.trans completed)
      rw [if_neg notCompleted]
      exact leads
  have reached : Path (SyncAction.after env site) (SyncAction.Concerns "task") first published :=
    path [syncTo "AWAITING_CLARIFICATION" 1] (by simp [syncTo, task])
  have about : (syncTo "READY" 9).task.id = "task" := rfl
  exact (sync_status_shows first_unmarked reached about returned).mpr current

def moved : JiraWorld := worldAfter [syncTo "AWAITING_CLARIFICATION" 9, syncTo "READY" 9]

/-- Back to the first status, every request answered: the call returns, and the issue still shows the other. -/
theorem earlier_status_hidden :
    Path (SyncAction.after env site) (SyncAction.Concerns "task") first moved ∧
      ((syncTo "AWAITING_CLARIFICATION" 9).run env site moved).1.isOk = true ∧
      ¬Shown env (syncTo "AWAITING_CLARIFICATION" 9)
        ((syncTo "AWAITING_CLARIFICATION" 9).after env site moved).issue := by
  obtain ⟨finished, other⟩ : ((syncTo "AWAITING_CLARIFICATION" 9).run env site moved).1.isOk = true ∧
      (((syncTo "AWAITING_CLARIFICATION" 9).after env site moved).issue.marked "task").map JiraComment.body ≠
        [(syncTo "AWAITING_CLARIFICATION" 9).body env] := by decide +kernel
  have reached : Path (SyncAction.after env site) (SyncAction.Concerns "task") first moved :=
    path [syncTo "AWAITING_CLARIFICATION" 9, syncTo "READY" 9] (by simp [syncTo, task])
  exact ⟨reached, finished, fun shown => other shown.comment⟩

end Sample

end SyncCall

end SacmRuntime
