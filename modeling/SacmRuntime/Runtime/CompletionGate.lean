import SacmRuntime.Runtime.TerminalRuns

namespace SacmRuntime
open Session Table

/-- Every completed run has passed the gate and still does. -/
def GateKept (d : Db) : Prop := ∀ runId, HasStatus runId .completed d → Gate d runId

/-- The request adds no step to a completed run, fails no completed step of
one, and names COMPLETED as no recovery's target. -/
structure Operation.RespectsGate (env : Env) (d : Db) (supply : Supply) (op : Operation) : Prop where
  adds : ∀ runId, op.addsStep d supply runId → ¬HasStatus runId .completed d
  fails : ∀ runId stepId failure commits step, op = .failStep runId stepId failure commits →
    d.getStep runId stepId = some step → step.status = .completed → ¬HasStatus runId .completed d
  targets : ∀ runId stepId failure decision commits, op = .scheduleRecovery runId stepId failure decision commits →
    ¬op.assigns env d runId .completed

/-- No completed run may have its steps added to or rewritten under the permit. -/
def Open (p : Permit) (d : Db) : Prop := ∀ runId, p.addStep runId ∨ p.unsettle runId → ¬HasStatus runId .completed d

section
variable {env : Env} {p : Permit} {s : Session Db} {d : Db} {runId : String}

theorem HasStatus.of_runs {status : RunStatus} {d e : Db} (same : e.runs = d.runs)
    (holds : HasStatus runId status e) : HasStatus runId status d := by
  unfold HasStatus Db.run? at *
  rwa [same] at holds

/-- A run that is completed after a rewrite was completed before, or was
completed by this rewrite through the gate, or was assigned the status. -/
theorem completed_before {id : String} {f : Run → Run}
    (move : ∀ old, d.runs.find id = some old → RunMove p d old (f old))
    (completed : HasStatus runId .completed { d with runs := d.runs.update id f }) :
    HasStatus runId .completed d ∨ (p.complete runId ∧ Gate d runId) ∨ p.assign runId .completed := by
  obtain ⟨row, found, done⟩ := completed
  change (d.runs.update id f).find runId = some row at found
  rw [find_update] at found
  split at found
  · rename_i here
    obtain ⟨old, atOld, rfl⟩ := Option.map_eq_some_iff.mp found
    have moved := move old (here ▸ atOld)
    have key : old.id = runId := find_key atOld
    rw [rewriteRow_of_keeps moved.id] at done
    rcases moved.status with kept | listed | assigned | restored
    · exact .inl ⟨old, atOld, kept.symm.trans done⟩
    · exact .inr (.inl (key ▸ listed.2 done))
    · exact .inr (.inr (key ▸ done ▸ assigned))
    · exact absurd done restored.2.1
  · exact .inl ⟨row, found, done⟩

theorem Gate.of_tables {e : Db} (gate : Gate d runId) (steps : e.steps = d.steps) (packs : d.packs ⊆ e.packs) :
    Gate e runId := by
  obtain ⟨⟨pack, member, ofRun⟩, done⟩ := gate
  refine ⟨⟨pack, packs member, ofRun⟩, ?_⟩
  rw [steps]
  exact done

theorem Write.keeps_gate (write : Write env p s d) (apart : ∀ id, p.complete id → ¬(p.addStep id ∨ p.unsettle id))
    (unassigned : ∀ id, ¬p.assign id .completed) (kept : GateKept s.working) (isOpen : Open p s.working) :
    GateKept d ∧ Open p d := by
  cases write with
  | other runs steps events snapshots jobs packs =>
    exact ⟨fun id completed => (kept id (completed.of_runs runs)).of_tables steps packs,
      fun id granted completed => isOpen id granted (completed.of_runs runs)⟩
  | event | snapshot | insertJob | job => exact ⟨kept, isOpen⟩
  | @insertRun run runs initial _ inserted =>
    have before : ∀ id, HasStatus id .completed { s.working with runs := runs } →
        HasStatus id .completed s.working := by
      rintro id ⟨row, found, done⟩
      change runs.find id = some row at found
      rw [find_insert? inserted] at found
      split at found
      · cases found
        simp [done] at initial
      · exact ⟨row, found, done⟩
    exact ⟨fun id completed => kept id (before id completed),
      fun id granted completed => isOpen id granted (before id completed)⟩
  | run id f move =>
    constructor
    · intro other completed
      rcases completed_before move completed with before | ⟨_, gate⟩ | assigned
      · exact kept other before
      · exact gate
      · exact absurd assigned (unassigned other)
    · intro other granted completed
      rcases completed_before move completed with before | ⟨completes, _⟩ | assigned
      · exact isOpen other granted before
      · exact apart other completes granted
      · exact unassigned other assigned
  | @insertStep step steps allowed _ inserted =>
    refine ⟨fun id completed => ?_, isOpen⟩
    obtain ⟨pack, done⟩ := kept id completed
    refine ⟨pack, fun row member ofRun => ?_⟩
    rcases (mem_insert? inserted).mp member with old | rfl
    · exact done row old ofRun
    · exact absurd completed (ofRun ▸ isOpen row.runId (.inl allowed))
  | step id f move =>
    refine ⟨fun other completed => ?_, isOpen⟩
    obtain ⟨pack, done⟩ := kept other completed
    refine ⟨pack, fun row member ofRun => ?_⟩
    rcases mem_update member with old | ⟨old, found, rfl⟩
    · exact done row old ofRun
    · have moved := move old found
      rw [rewriteRow_of_keeps moved.id] at ofRun ⊢
      have before : old.runId = other := moved.runId.symm.trans ofRun
      rcases moved.settled (done old (find_mem found) before) with stays | granted
      · exact stays
      · exact absurd completed (before ▸ isOpen old.runId (.inr granted))

end

theorem decide_open {env : Env} {run : Run} {report : FailureReportV1} {requested : Option RecoveryAction}
    {decision : RecoveryDecisionV1} (decides : RecoveryService.decide env run report requested = .ok decision) :
    ¬decision.runStatus.Terminal := by
  have decided := RecoveryService.decided_of_decide decides
  unfold RecoveryDecisionV1.runStatus RunStatus.Terminal
  rw [decided.status, decided.target]
  cases decision.action <;> simp [RecoveryService.targetByAction]

theorem recoveryStatus_open {env : Env} {d : Db} {runId : String} {failure : Json}
    {requested : Option RecoveryAction} {status : RunStatus}
    (reached : Operation.recoveryStatus env d runId failure requested status) : ¬status.Terminal := by
  obtain ⟨run, report, decision, _, _, decided, rfl⟩ := reached
  exact decide_open decided

namespace Operation
variable {env : Env} {d : Db} {supply : Supply} {op : Operation} {runId : String}

/-- Only a direct `schedule_recovery` can name COMPLETED. -/
theorem RespectsGate.unassigned (respects : op.RespectsGate env d supply) : ¬op.assigns env d runId .completed := by
  intro assigned
  cases op with
  | scheduleRecovery id stepId failure decision commits =>
    have here := assigned.1
    exact respects.targets id stepId failure decision commits rfl (here ▸ assigned)
  | handleFailure => exact recoveryStatus_open assigned.2.2 (.inl rfl)
  | submit => exact recoveryStatus_open assigned.2.2.2 (.inl rfl)
  | failJob =>
    obtain ⟨job, _, _, _, status⟩ := assigned
    exact recoveryStatus_open status.2.2 (.inl rfl)
  | _ => exact assigned

/-- Where the gate holds, a respectful request only rewrites the completed
steps of runs that are not completed. -/
theorem RespectsGate.opens (respects : op.RespectsGate env d supply) (kept : GateKept d) :
    Open (op.permit env d supply) d := by
  intro id granted completed
  rcases granted with adds | unsettles
  · exact respects.adds id adds completed
  · cases op with
    | failStep runId stepId failure commits =>
      obtain ⟨rfl, step, found, done⟩ := unsettles
      exact respects.fails id stepId failure commits step rfl found done completed
    | recoverInterrupted runId =>
      obtain ⟨rfl, step, member, ofRun, running⟩ := unsettles
      simp [(kept id completed).2 step member ofRun] at running
    | restore runId snapshotId reason =>
      obtain ⟨rfl, run, found, failed⟩ := unsettles
      obtain ⟨row, atRow, done⟩ := completed
      cases Option.some.inj (found.symm.trans atRow)
      simp [failed] at done
    | _ => exact unsettles

theorem permit_apart {id : String} (completes : (op.permit env d supply).complete id) :
    ¬((op.permit env d supply).addStep id ∨ (op.permit env d supply).unsettle id) := by
  cases op with
  | transition => rintro (adds | unsettles) <;> assumption
  | _ => exact completes.elim

theorem keeps_gate (respects : op.RespectsGate env d supply) (kept : GateKept d) :
    GateKept (op.after env d supply) :=
  (request_keeps (P := fun e => GateKept e ∧ Open (op.permit env d supply) e) (op.writes env d supply)
    (fun _ _ write holds => write.keeps_gate (fun _ => permit_apart) (fun _ => respects.unassigned) holds.1 holds.2)
    ⟨kept, respects.opens kept⟩).1

end Operation

/-- Along every run of the control plane whose requests respect the gate, a
completed run has an evidence pack and only completed steps. -/
theorem completed_run_gated {env : Env} {d e : Db} {runId : String} {run : Run}
    (path : Execution env (fun d supply op => op.RespectsGate env d supply) d e) (kept : GateKept d)
    (found : e.run? runId = some run) (completed : run.status = .completed) :
    (∃ pack ∈ e.packs, pack.runId = runId) ∧
      ∀ step ∈ e.steps.rows, step.runId = runId → step.status = .completed :=
  path.keeps (fun _ _ _ respects holds => Operation.keeps_gate respects holds) kept runId ⟨run, found, completed⟩

namespace Sample

/-- A delivering run with an evidence pack and a completed step. -/
def delivered : Db := { store .delivering .completed with packs := [⟨"p", "r", "manifest", 0⟩] }

def completing : Operation := .transition "r" .completed "RunCompleted" "system" (.obj []) none

end Sample

open Sample in
/-- The gate holds after the completing transition of a delivered run. -/
theorem completed_run_gated_sample :
    (∃ pack ∈ (completing.after env delivered supply).packs, pack.runId = "r") ∧
      ∀ step ∈ (completing.after env delivered supply).steps.rows, step.runId = "r" → step.status = .completed := by
  have status : ((completing.after env delivered supply).run? "r").map Run.status = some .completed := by
    decide +kernel
  obtain ⟨run, found, completed⟩ := Option.map_eq_some_iff.mp status
  have gated : GateKept delivered := by
    rintro runId ⟨run, found, done⟩
    have member : run ∈ [newRun "r" task .delivering 0] := Table.find_mem found
    cases List.mem_singleton.mp member
    cases done
  refine completed_run_gated (.next .start completing supply ⟨?_, ?_, ?_⟩) gated found completed
  · exact fun _ adds => adds.elim
  · exact fun _ _ _ _ _ impossible => by cases impossible
  · exact fun _ _ _ _ _ impossible => by cases impossible

open Sample in
/-- A step added to a completed run leaves it completed with a pending step. -/
theorem completed_run_extended :
    let completed := completing.after env delivered supply
    let extended := Operation.after env (.addStep "r" "late" .null "k2") completed supply
    (extended.run? "r").map Run.status = some .completed ∧
      ∃ step ∈ extended.steps.rows, step.runId = "r" ∧ step.status = .pending := by
  decide +kernel

end SacmRuntime
