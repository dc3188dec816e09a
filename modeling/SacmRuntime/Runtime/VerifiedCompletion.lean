import SacmRuntime.Runtime.Orchestrator

namespace SacmRuntime
open Tx
namespace Orchestrator

def lastVerification : List Entry → Option VerificationMatrixV2
  | [] => none
  | .verified matrix :: _ => some matrix
  | .started :: _ => none
  | _ :: earlier => lastVerification earlier

/-- The row as it was last read, in the step that was started last. -/
def lastRead : List Entry → Option TaskState
  | [] => none
  | .read row :: _ => row
  | .started :: _ => none
  | _ :: earlier => lastRead earlier

/-- The last step that was started was verified completely. -/
def CompleteLast (log : List Entry) : Prop := ∃ matrix, lastVerification log = some matrix ∧ matrix.complete = true

/-- What may happen after a course: a write finds the row that its step read,
the status becomes done only after a complete verification, and no step
follows that. -/
def Allowed (earlier : List Entry) : Entry → Prop
  | .wrote _ before status => lastRead earlier = some before ∧ (status = "done" → CompleteLast earlier)
  | .started => ∀ site before, .wrote site before "done" ∉ earlier
  | _ => True

/-- Every entry of the course was allowed when it happened. -/
def Sound (log : List Entry) : Prop := ∀ entry earlier, entry :: earlier <:+ log → Allowed earlier entry

/-- Somebody set the task to done right after its unverified completion was repaired. -/
def RepairUndone (log : List Entry) : Prop :=
  ∃ row before, [.changed (some row), .wrote .repair before "testing"] <:+: log ∧ row.status = "done"

/-- Unverified work is not done: the course is sound, and a call that returns
`done` verified its last step completely. -/
structure OnlyVerified (outcome : Except Error Response) (log : List Entry) : Prop where
  sound : Sound log
  returned : ∀ response, outcome = .ok response → response.status = "done" → CompleteLast log

/-- No write of the course set the task to done or repaired it. -/
def Running (log : List Entry) : Prop :=
  ∀ site before status, .wrote site before status ∈ log → site ≠ .repair ∧ status ≠ "done"

def Unrepaired (log : List Entry) : Prop := ∀ before status, .wrote .repair before status ∉ log

section
variable {α β : Type} {log : List Entry} {entry : Entry} {w : World}

theorem sound_cons : Sound (entry :: log) ↔ Allowed log entry ∧ Sound log := by
  constructor
  · intro sound
    exact ⟨sound entry log (List.suffix_refl _),
      fun other earlier suffix => sound other earlier (suffix.trans (List.suffix_cons entry log))⟩
  · rintro ⟨allowed, sound⟩ other earlier suffix
    rcases List.suffix_cons_iff.mp suffix with same | inLog
    · cases same
      exact allowed
    · exact sound other earlier inLog

theorem Running.unrepaired (running : Running log) : Unrepaired log :=
  fun before status member => (running .repair before status member).1 rfl

theorem running_cons (other : ∀ site before status, entry ≠ .wrote site before status) :
    Running (entry :: log) ↔ Running log := by
  simp [Running, (other _ _ _).symm]

theorem unrepaired_cons (other : ∀ before status, entry ≠ .wrote .repair before status) :
    Unrepaired (entry :: log) ↔ Unrepaired log := by
  simp [Unrepaired, (other _ _).symm]

theorem interrupted_log : w.interrupted.log = w.log ∨ w.interrupted.log = .changed (w.others 0 w.row) :: w.log := by
  unfold World.interrupted
  dsimp only
  split
  · exact .inl rfl
  · exact .inr rfl

@[simp] theorem lastRead_interrupted : lastRead w.interrupted.log = lastRead w.log := by
  rcases interrupted_log (w := w) with same | changed
  · rw [same]
  · rw [changed]
    rfl

@[simp] theorem lastVerification_interrupted : lastVerification w.interrupted.log = lastVerification w.log := by
  rcases interrupted_log (w := w) with same | changed
  · rw [same]
  · rw [changed]
    rfl

theorem sound_interrupted : Sound w.interrupted.log ↔ Sound w.log := by
  rcases interrupted_log (w := w) with same | changed
  · rw [same]
  · rw [changed, sound_cons]
    exact and_iff_right trivial

theorem running_interrupted : Running w.interrupted.log ↔ Running w.log := by
  rcases interrupted_log (w := w) with same | changed
  · rw [same]
  · rw [changed, running_cons (by simp)]

theorem unrepaired_interrupted : Unrepaired w.interrupted.log ↔ Unrepaired w.log := by
  rcases interrupted_log (w := w) with same | changed
  · rw [same]
  · rw [changed, unrepaired_cons (by simp)]

theorem bind_note (entry : Entry) (f : Unit → Method β) : (note entry >>= f) w = f () (w.logged entry) := rfl

theorem bind_get (f : Option TaskState → Method β) :
    (get >>= f) w = f w.interrupted.row (w.interrupted.logged (.read w.interrupted.row)) := rfl

theorem matchesRow_iff {expected row : TaskState} :
    matchesRow (some expected.status) (some expected.updatedAt) row = true ↔ row = expected := by
  unfold matchesRow
  cases expected
  cases row
  simp only [Option.all_some, Bool.and_eq_true, beq_iff_eq, TaskState.mk.injEq]
  exact and_congr eq_comm eq_comm

variable {P : Except Error β × World → Prop} {e : Error} {f : Unit → Method β} {index : Nat}
  {message status taskId : String} {progress : Progress} {recoveryContext : Option Json} {runId : Option String}
  {services : Services} {site : Site} {task : TaskState}

theorem outcome_update (missed : ∀ e v, v.log = w.interrupted.log → P (.error e, v))
    (updated : ∀ v, v.log = .wrote site task status :: w.interrupted.log →
      v.row.map TaskState.status = some status → P (f () v)) :
    P ((updateStatus site status (some task.status) (some task.updatedAt) >>= fun found =>
      required found message >>= f) w) := by
  rw [bind_run]
  unfold updateStatus
  dsimp only
  cases atRow : w.interrupted.row with
  | none => exact missed _ _ rfl
  | some row =>
    by_cases same : matchesRow (some task.status) (some task.updatedAt) row = true
    · dsimp only
      rw [if_pos same]
      cases matchesRow_iff.mp same
      exact updated _ rfl rfl
    · dsimp only
      rw [if_neg same]
      exact missed _ _ rfl

theorem outcome_required {found : Bool} (missed : ∀ e, P (.error e, w)) (rest : P (f () w)) :
    P ((required found message >>= f) w) := by
  cases found with
  | false => exact missed _
  | true => exact rest

theorem unverifiedNextState_ne (hint : String) : unverifiedNextState hint ≠ "done" := by
  unfold unverifiedNextState
  split
  · simp
  · assumption

theorem recoveryPhase_ne (action : RecoveryAction) : recoveryPhase action ≠ "done" := by
  cases action <;> simp [recoveryPhase]

/-- What a step leaves behind: a sound course without a repair, and a progress
that says whether the step was verified completely. -/
def StepEnds (outcome : Except Error (Progress × Bool) × World) : Prop :=
  Sound outcome.2.log ∧ Unrepaired outcome.2.log ∧ ∀ next, outcome.1 = .ok next →
    (next.1.verificationComplete = true ↔ CompleteLast outcome.2.log) ∧ (next.2 = true → Running outcome.2.log)

theorem StepEnds.raised (sound : Sound w.log) (running : Running w.log) : StepEnds (.error e, w) :=
  ⟨sound, running.unrepaired, fun _ ok => by cases ok⟩

theorem StepEnds.returned {next : Progress × Bool} (sound : Sound w.log) (unrepaired : Unrepaired w.log)
    (complete : next.1.verificationComplete = true ↔ CompleteLast w.log) (again : next.2 = true → Running w.log) :
    StepEnds (.ok next, w) := by
  refine ⟨sound, unrepaired, fun other ok => ?_⟩
  cases ok
  exact ⟨complete, again⟩

theorem running_write (noRepair : site ≠ .repair) (notDone : status ≠ "done") (running : Running log) :
    Running (.wrote site task status :: log) := by
  intro other before written member
  rcases List.mem_cons.mp member with same | earlier
  · cases same
    exact ⟨noRepair, notDone⟩
  · exact running other before written earlier

theorem settle_ends {services : StepServices} {result : AgentResult} {matrix : VerificationMatrixV2}
    (sound : Sound w.log) (running : Running w.log) (read : lastRead w.log = some task)
    (verified : lastVerification w.log = some matrix) (carried : progress.verificationComplete = matrix.complete) :
    StepEnds (settle taskId services task result matrix.complete progress w) := by
  have missed : ∀ e v, v.log = w.interrupted.log → StepEnds (.error e, v) := by
    intro e v same
    refine .raised ?_ ?_
    · rw [same]
      exact sound_interrupted.mpr sound
    · rw [same]
      exact running_interrupted.mpr running
  have completeIff : ∀ log, lastVerification log = some matrix → (matrix.complete = true ↔ CompleteLast log) := by
    intro log last
    unfold CompleteLast
    rw [last]
    simp
  -- a write finds the row the step read, and is done only after a complete verification
  have written : ∀ status next v, (status = "done" → matrix.complete = true ∧ next.2 = false) →
      next.1.verificationComplete = matrix.complete → v.log = .wrote .step task status :: w.interrupted.log →
      StepEnds (.ok next, v) := by
    intro status next v completes carries same
    have last : lastVerification v.log = some matrix := by
      rw [same]
      exact lastVerification_interrupted.trans verified
    refine .returned ?_ ?_ ?_ fun again => ?_
    · rw [same]
      refine sound_cons.mpr ⟨⟨lastRead_interrupted.trans read, fun done => ?_⟩, sound_interrupted.mpr sound⟩
      exact ⟨matrix, lastVerification_interrupted.trans verified, (completes done).1⟩
    · rw [same, unrepaired_cons (by simp)]
      exact unrepaired_interrupted.mpr running.unrepaired
    · rw [carries]
      exact completeIff _ last
    · rw [same]
      refine running_write (by simp) (fun done => ?_) (running_interrupted.mpr running)
      rw [(completes done).2] at again
      cases again
  unfold settle
  refine outcome_ite (fun complete => ?_) fun _ => ?_
  · refine outcome_ofExcept (fun _ => .raised sound running) fun delivery _ => ?_
    refine outcome_ofExcept (fun _ => .raised sound running) fun _ _ => ?_
    exact outcome_update missed fun v same _ => written _ _ v (fun _ => ⟨complete, rfl⟩) carried same
  · refine outcome_ofExcept (fun _ => .raised sound running) fun recovery _ => ?_
    cases recovery with
    | some planned =>
      obtain ⟨action, payload⟩ := planned
      exact outcome_update missed fun v same _ =>
        written _ _ v (fun done => absurd done (recoveryPhase_ne action)) carried same
    | none =>
      refine outcome_ite (fun _ => ?_) fun _ => ?_
      · refine .returned sound running.unrepaired ?_ fun _ => running
        rw [carried]
        exact completeIff _ verified
      · exact outcome_update missed fun v same _ =>
          written _ _ v (fun done => absurd done (unverifiedNextState_ne result.nextStateHint)) carried same

theorem step_ends {services : StepServices} (sound : Sound w.log) (running : Running w.log) :
    StepEnds (step taskId runId services index progress w) := by
  unfold step
  rw [bind_note, bind_get]
  generalize atRead : (w.logged .started).interrupted.logged (.read (w.logged .started).interrupted.row) = r
  have readLog : r.log = .read (w.logged .started).interrupted.row :: (w.logged .started).interrupted.log := by
    rw [← atRead]
    rfl
  have readSound : Sound r.log := by
    have started : Sound (w.logged .started).log :=
      sound_cons.mpr ⟨fun site before member => (running site before _ member).2 rfl, sound⟩
    rw [readLog, sound_cons]
    exact ⟨trivial, sound_interrupted.mpr started⟩
  have readRunning : Running r.log := by
    have started : Running (w.logged .started).log := (running_cons (by simp)).mpr running
    rw [readLog, running_cons (by simp)]
    exact running_interrupted.mpr started
  refine outcome_expect (.raised readSound readRunning) fun task atTask => ?_
  refine outcome_ofExcept (fun _ => .raised readSound readRunning) fun result _ => ?_
  -- the row may have changed by now: the check reads it once more
  have checkedSound : Sound r.interrupted.log := sound_interrupted.mpr readSound
  have checkedRunning : Running r.interrupted.log := running_interrupted.mpr readRunning
  refine outcome_required (w := r.interrupted) (fun _ => .raised checkedSound checkedRunning) ?_
  refine outcome_ofExcept (fun _ => .raised checkedSound checkedRunning) fun _ _ => ?_
  refine outcome_ofExcept (fun _ => .raised checkedSound checkedRunning) fun matrix _ => ?_
  rw [bind_note]
  have verifiedSound : Sound (r.interrupted.logged (.verified matrix)).log := sound_cons.mpr ⟨trivial, checkedSound⟩
  have verifiedRunning : Running (r.interrupted.logged (.verified matrix)).log :=
    (running_cons (by simp)).mpr checkedRunning
  refine outcome_ofExcept (fun _ => .raised verifiedSound verifiedRunning) fun _ _ => ?_
  have read : lastRead (r.interrupted.logged (.verified matrix)).log = some task := by
    refine lastRead_interrupted.trans ?_
    rw [readLog, ← atTask]
    rfl
  exact settle_ends verifiedSound verifiedRunning read rfl rfl

def LoopEnds (outcome : Except Error Progress × World) : Prop :=
  Sound outcome.2.log ∧ Unrepaired outcome.2.log ∧ ∀ last, outcome.1 = .ok last →
    (last.verificationComplete = true ↔ CompleteLast outcome.2.log)

theorem loop_ends {services : Nat → StepServices} {left : Nat} (sound : Sound w.log) (running : Running w.log)
    (complete : progress.verificationComplete = true ↔ CompleteLast w.log) :
    LoopEnds (loop taskId runId services left index progress w) := by
  induction left generalizing index progress w with
  | zero =>
    refine ⟨sound, running.unrepaired, fun last ok => ?_⟩
    cases ok
    exact complete
  | succ left ih =>
    have ends : StepEnds (step taskId runId (services index) index progress w) := step_ends sound running
    unfold loop
    refine outcome_bind (fun e v ran => ?_) fun next v ran => ?_
    · rw [ran] at ends
      exact ⟨ends.1, ends.2.1, fun _ ok => by cases ok⟩
    · rw [ran] at ends
      obtain ⟨stepSound, stepUnrepaired, returned⟩ := ends
      obtain ⟨stepComplete, again⟩ := returned next rfl
      refine outcome_ite (fun more => ih stepSound (again more) stepComplete) fun _ => ?_
      refine ⟨stepSound, stepUnrepaired, fun last ok => ?_⟩
      cases ok
      exact stepComplete

theorem Unrepaired.not_undone (unrepaired : Unrepaired log) : ¬RepairUndone log := by
  rintro ⟨row, before, inLog, -⟩
  exact unrepaired before "testing" (inLog.subset (by simp))

theorem repairUndone_cons (other : ∀ row, entry ≠ .changed row) : RepairUndone (entry :: log) ↔ RepairUndone log := by
  unfold RepairUndone
  simp only [List.infix_cons_iff, List.cons_prefix_cons]
  constructor
  · rintro ⟨row, before, ⟨same, -⟩ | inLog, done⟩
    · exact absurd same.symm (other _)
    · exact ⟨row, before, inLog, done⟩
  · rintro ⟨row, before, inLog, done⟩
    exact ⟨row, before, .inr inLog, done⟩

theorem repairUndone_changed {row : Option TaskState} {before : TaskState} (unrepaired : Unrepaired log) :
    RepairUndone (.changed row :: .wrote .repair before "testing" :: log) ↔
      ∃ found, row = some found ∧ found.status = "done" := by
  have later : ¬RepairUndone (.wrote .repair before "testing" :: log) := by
    rw [repairUndone_cons (by simp)]
    exact unrepaired.not_undone
  constructor
  · rintro ⟨found, other, inLog, done⟩
    rcases List.infix_cons_iff.mp inLog with head | tail
    · cases (List.cons_prefix_cons.mp head).1
      exact ⟨found, rfl, done⟩
    · exact absurd ⟨found, other, tail, done⟩ later
  · rintro ⟨found, rfl, done⟩
    exact ⟨found, before, ⟨[], log, rfl⟩, done⟩

/-- What a call leaves behind. A call that returns keeps its promise unless
somebody undid its repair. -/
def CallEnds (outcome : Except Error Response × World) : Prop :=
  Sound outcome.2.log ∧ ∀ response, outcome.1 = .ok response →
    ((response.status = "done" → CompleteLast outcome.2.log) ↔ ¬RepairUndone outcome.2.log)

theorem CallEnds.raised (sound : Sound w.log) : CallEnds (.error e, w) :=
  ⟨sound, fun _ ok => by cases ok⟩

theorem CallEnds.returned {response : Response} (sound : Sound w.log)
    (kept : (response.status = "done" → CompleteLast w.log) ↔ ¬RepairUndone w.log) : CallEnds (.ok response, w) := by
  refine ⟨sound, fun other ok => ?_⟩
  cases ok
  exact kept

theorem conclude_ends (sound : Sound w.log) (unrepaired : Unrepaired w.log)
    (complete : progress.verificationComplete = true ↔ CompleteLast w.log) :
    CallEnds (conclude taskId services progress w) := by
  unfold conclude
  rw [bind_get]
  generalize atRead : w.interrupted.logged (.read w.interrupted.row) = r
  have readLog : r.log = .read w.interrupted.row :: w.interrupted.log := by
    rw [← atRead]
    rfl
  have readSound : Sound r.log := by
    rw [readLog, sound_cons]
    exact ⟨trivial, sound_interrupted.mpr sound⟩
  have readUnrepaired : Unrepaired r.log := by
    rw [readLog, unrepaired_cons (by simp)]
    exact unrepaired_interrupted.mpr unrepaired
  have sameVerification : lastVerification r.log = lastVerification w.log := by
    rw [readLog]
    exact lastVerification_interrupted
  refine outcome_expect (.raised readSound) fun task atTask => ?_
  have read : lastRead r.log = some task := by
    rw [readLog, ← atTask]
    rfl
  refine outcome_ite (fun unverified => ?_) fun verified => ?_
  · refine outcome_update (fun e v same => ?_) fun v same written => ?_
    · refine .raised ?_
      rw [same]
      exact sound_interrupted.mpr readSound
    have repairSound : Sound v.log := by
      rw [same, sound_cons]
      refine ⟨⟨lastRead_interrupted.trans read, fun done => ?_⟩, sound_interrupted.mpr readSound⟩
      exact absurd done (by simp)
    have incomplete : ¬CompleteLast v.log := by
      have last : lastVerification v.log = lastVerification w.log := by
        rw [same]
        exact lastVerification_interrupted.trans sameVerification
      unfold CompleteLast
      rw [last]
      intro completeLast
      have carried := complete.mpr completeLast
      rw [unverified.2] at carried
      cases carried
    rw [bind_get]
    have againSound : Sound (v.interrupted.logged (.read v.interrupted.row)).log :=
      sound_cons.mpr ⟨trivial, sound_interrupted.mpr repairSound⟩
    refine outcome_expect (.raised againSound) fun again atAgain => ?_
    refine outcome_ofExcept (fun _ => .raised againSound) fun events _ => .returned againSound ?_
    have stillIncomplete : ¬CompleteLast (v.interrupted.logged (.read v.interrupted.row)).log := by
      unfold CompleteLast at incomplete ⊢
      rwa [show lastVerification (v.interrupted.logged (.read v.interrupted.row)).log = lastVerification v.log from
        lastVerification_interrupted]
    have undone : RepairUndone (v.interrupted.logged (.read v.interrupted.row)).log ↔ again.status = "done" := by
      rw [show (v.interrupted.logged (.read v.interrupted.row)).log = .read v.interrupted.row :: v.interrupted.log from
        rfl, repairUndone_cons (by simp)]
      have before := unrepaired_interrupted.mpr readUnrepaired
      by_cases kept : v.others 0 v.row = v.row
      · have sameLog : v.interrupted.log = v.log := if_pos kept
        have sameRow : v.row = some again := kept.symm.trans atAgain
        rw [sameLog, same, repairUndone_cons (by simp)]
        rw [sameRow] at written
        refine iff_of_false before.not_undone ?_
        rw [Option.some.inj written]
        simp
      · have changedLog : v.interrupted.log = .changed (v.others 0 v.row) :: v.log := if_neg kept
        rw [changedLog, same, repairUndone_changed before]
        rw [show v.others 0 v.row = some again from atAgain]
        simp
    rw [undone]
    exact imp_congr_right fun _ => iff_false_intro stillIncomplete
  · refine outcome_ofExcept (fun _ => .raised readSound) fun events _ => .returned readSound ?_
    refine iff_of_true (fun done => ?_) readUnrepaired.not_undone
    have carried : progress.verificationComplete = true := by
      by_contra open_
      exact verified ⟨done, Bool.not_eq_true _ ▸ open_⟩
    unfold CompleteLast
    rw [sameVerification]
    exact complete.mp carried

structure Fresh (log : List Entry) : Prop where
  sound : Sound log
  running : Running log
  unverified : lastVerification log = none

theorem fresh_read (fresh : Fresh w.log) :
    Fresh (w.interrupted.logged (.read w.interrupted.row)).log := by
  refine ⟨sound_cons.mpr ⟨trivial, sound_interrupted.mpr fresh.sound⟩, ?_, ?_⟩
  · exact (running_cons (by simp)).mpr (running_interrupted.mpr fresh.running)
  · exact lastVerification_interrupted.trans fresh.unverified

theorem startPlanning_ends {P : Except Error Response × World → Prop} {f : Unit → Method Response}
    (fresh : Fresh w.log) (read : lastRead w.log = some task) (raised : ∀ e v, Sound v.log → P (.error e, v))
    (rest : ∀ v, Fresh v.log → P (f () v)) :
    P ((startPlanning taskId task >>= f) w) := by
  unfold startPlanning
  by_cases pending : task.status = "pending"
  · rw [if_pos pending, bind_assoc_run]
    refine outcome_update (fun e v same => raised e v ?_) fun v same _ => rest v ?_
    · rw [same]
      exact sound_interrupted.mpr fresh.sound
    · rw [same]
      refine ⟨sound_cons.mpr ⟨⟨lastRead_interrupted.trans read, fun done => ?_⟩, sound_interrupted.mpr fresh.sound⟩,
        running_write (by simp) (by simp) (running_interrupted.mpr fresh.running),
        lastVerification_interrupted.trans fresh.unverified⟩
      exact absurd done (by simp)
  · rw [if_neg pending]
    exact rest w fresh

theorem runTaskLocked_ends {maxSteps : Nat} (fresh : Fresh w.log) :
    CallEnds (runTaskLocked taskId runId recoveryContext services maxSteps w) := by
  unfold runTaskLocked
  rw [bind_get]
  have readFresh := fresh_read fresh
  refine outcome_expect (.raised readFresh.sound) fun task atTask => ?_
  have read : lastRead (w.interrupted.logged (.read w.interrupted.row)).log = some task := atTask
  refine startPlanning_ends readFresh read (fun _ _ sound => .raised sound) fun v startFresh => ?_
  refine outcome_ofExcept (fun _ => .raised startFresh.sound) fun _ _ => ?_
  have incomplete : ¬CompleteLast v.log := by
    rintro ⟨matrix, last, -⟩
    rw [startFresh.unverified] at last
    cases last
  have ends : LoopEnds (loop taskId runId services.steps maxSteps 0 ⟨0, false, none, recoveryContext⟩ v) :=
    loop_ends startFresh.sound startFresh.running (iff_of_false (by simp) incomplete)
  refine outcome_bind (fun e t ran => ?_) fun progress t ran => ?_
  · rw [ran] at ends
    exact .raised ends.1
  · rw [ran] at ends
    exact conclude_ends ends.1 ends.2.1 (ends.2.2 progress rfl)

theorem runTask_ends {maxSteps : Int} (fresh : Fresh w.log) :
    CallEnds (runTask taskId maxSteps runId recoveryContext services w) := by
  unfold runTask
  rw [bind_get]
  have readFresh := fresh_read fresh
  refine outcome_expect (.raised readFresh.sound) fun _ _ => ?_
  refine outcome_ofExcept (fun _ => .raised readFresh.sound) fun budget _ => ?_
  refine outcome_ofExcept (fun _ => .raised readFresh.sound) fun _ _ => ?_
  generalize w.interrupted.logged (.read w.interrupted.row) = v at readFresh ⊢
  have locked : CallEnds (runTaskLocked taskId runId recoveryContext services budget v) := runTaskLocked_ends readFresh
  have body : CallEnds ((runTaskLocked taskId runId recoveryContext services budget >>= fun response =>
      ofExcept services.finished >>= fun _ => pure response) v) := by
    refine outcome_bind (fun e t ran => ?_) fun response t ran => ?_
    · rw [ran] at locked
      exact locked
    · rw [ran] at locked
      exact outcome_ofExcept (fun _ => .raised locked.1) fun _ _ => locked
  refine outcome_bind (fun e t ran => ?_) fun response t ran => ?_
  · unfold onRaise at ran
    split at ran
    · cases ran
    · rename_i first between failed
      rw [failed] at body
      cases ran
      exact .raised (sound_cons.mpr ⟨trivial, sound_interrupted.mpr body.1⟩)
  · unfold onRaise at ran
    split at ran
    · rename_i answer between returned
      rw [returned] at body
      cases ran
      exact outcome_ofExcept (fun _ => .raised body.1) fun _ _ => body
    · cases ran

end

end Orchestrator

open Orchestrator

/-- Whatever the agents and services answer and the others do to the task, a
call keeps its promise unless it returns after somebody undid its repair of
an unverified completion. -/
theorem unverified_never_done_iff (taskId : String) (maxSteps : Int) (runId : Option String)
    (recoveryContext : Option Json) (services : Services) (row : Option TaskState)
    (others : Nat → Option TaskState → Option TaskState) (clock : Nat → Nat) :
    let ended := runTask taskId maxSteps runId recoveryContext services ⟨row, others, clock, []⟩
    OnlyVerified ended.1 ended.2.log ↔ ∀ response, ended.1 = .ok response → ¬RepairUndone ended.2.log := by
  intro ended
  have fresh : Fresh (⟨row, others, clock, []⟩ : World).log := by
    refine ⟨fun entry earlier suffix => ?_, fun site before status member => ?_, rfl⟩
    · cases List.suffix_nil.mp suffix
    · cases member
  have ends : CallEnds ended := runTask_ends fresh
  constructor
  · intro kept response returned
    exact (ends.2 response returned).mp (kept.returned response returned)
  · intro condition
    exact ⟨ends.1, fun response returned => (ends.2 response returned).mpr (condition response returned)⟩

namespace Sample

def idleStep : StepServices where
  agent := .ok ⟨[], [], ⟨['0', '.', '0'], FloatText.zero_printable⟩, ""⟩
  recorded := .ok ()
  evaluated := .ok (Verifier.legacyMatrix "t" none false [])
  saved := .ok ()
  provisional := .ok "VALID"
  final := .ok "VALID"
  observed := .ok ()
  publish := .ok .null
  delivered := .ok ()
  recovery := .ok none

def idleServices : Services where
  focused := false
  acquired := .ok ()
  prepared := .ok ()
  steps _ := idleStep
  lastEvents := .ok []
  finished := .ok ()
  released := .ok ()

/-- Somebody sets the task to done before the loop is left, and again after the repair. -/
def insistent (access : Nat) (row : Option TaskState) : Option TaskState :=
  if access = 4 ∨ access = 6 then some ⟨"done", access⟩ else row

def insisted : Except Error Response × World :=
  runTask "t" 1 none none idleServices ⟨some ⟨"planning", 0⟩, insistent, fun n => 10 + n, []⟩

end Sample

open Sample in
/-- The call returns done although its only step was not verified. -/
theorem unverified_done_returned :
    ∃ response, insisted.1 = .ok response ∧ response.status = "done" ∧ ¬OnlyVerified insisted.1 insisted.2.log := by
  have returned : insisted.1.toOption.map Response.status = some "done" := by decide +kernel
  have verified : (lastVerification insisted.2.log).map VerificationMatrixV2.complete = some false := by decide +kernel
  cases outcome : insisted.1 with
  | error e =>
    rw [outcome] at returned
    cases returned
  | ok response =>
    rw [outcome] at returned
    have done : response.status = "done" := Option.some.inj returned
    refine ⟨response, rfl, done, fun kept => ?_⟩
    obtain ⟨matrix, last, complete⟩ := kept.returned response rfl done
    rw [last] at verified
    have incomplete : matrix.complete = false := Option.some.inj verified
    rw [complete] at incomplete
    cases incomplete

end SacmRuntime
