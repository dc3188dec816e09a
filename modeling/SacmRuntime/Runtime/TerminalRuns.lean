import SacmRuntime.Runtime.Operations

namespace SacmRuntime
open Session

/-- The statuses from which `_ALLOWED_TRANSITIONS` leads nowhere. -/
def RunStatus.Terminal (status : RunStatus) : Prop := status = .completed ∨ status = .cancelled

theorem RunStatus.Terminal.no_successor {status next : RunStatus} (terminal : status.Terminal) :
    next ∉ allowedTransitions status := by
  rcases terminal with rfl | rfl <;> simp [allowedTransitions]

/-- The request does not reach `schedule_recovery` on a terminal run with
another status than the run already has. -/
def Operation.RespectsTerminal (env : Env) (d : Db) (op : Operation) : Prop :=
  ∀ runId run status, d.run? runId = some run → run.status.Terminal → op.assigns env d runId status →
    status = run.status

def HasStatus (runId : String) (status : RunStatus) (d : Db) : Prop :=
  ∃ run, d.run? runId = some run ∧ run.status = status

theorem Write.keeps_terminal {env : Env} {p : Permit} {s : Session Db} {d : Db} {runId : String}
    {status : RunStatus} (write : Write env p s d) (terminal : status.Terminal)
    (unassigned : ∀ next, p.assign runId next → next = status) (holds : HasStatus runId status s.working) :
    HasStatus runId status d := by
  obtain ⟨row, found, same⟩ := holds
  unfold HasStatus Db.run? at *
  cases write with
  | other runs => exact ⟨row, by rw [runs]; exact found, same⟩
  | insertRun initial _ inserted => exact ⟨row, Table.find_insert?_of_some inserted found, same⟩
  | insertStep | step | event | snapshot | insertJob | job => exact ⟨row, found, same⟩
  | run id f move =>
    by_cases here : runId = id
    · subst here
      have moved := move row found
      refine ⟨f row, ?_, ?_⟩
      · rw [Table.find_update, if_pos rfl, found]
        exact congrArg some (Table.rewriteRow_of_keeps moved.id)
      · have key : row.id = runId := Table.find_key found
        rcases moved.status with kept | listed | assigned | restored
        · exact kept.trans same
        · exact absurd listed.1 (same ▸ terminal).no_successor
        · exact unassigned _ (key ▸ assigned)
        · rcases terminal with rfl | rfl <;> simp [same] at restored
    · exact ⟨row, by rw [Table.find_update_ne here]; exact found, same⟩

theorem Operation.keeps_terminal {env : Env} {d : Db} {supply : Supply} {op : Operation} {runId : String}
    {status : RunStatus} (respects : op.RespectsTerminal env d) (terminal : status.Terminal)
    (holds : HasStatus runId status d) : HasStatus runId status (op.after env d supply) := by
  refine request_keeps (op.writes env d supply) (fun s e write => ?_) holds
  refine write.keeps_terminal terminal fun next assigned => ?_
  obtain ⟨run, found, same⟩ := holds
  exact (respects runId run next found (same ▸ terminal) assigned).trans same

/-- Terminal run states are absorbing along every run of the control plane
in which no request recovers a terminal run. -/
theorem terminal_absorbing {env : Env} {d e : Db} {runId : String} {run : Run}
    (path : Execution env (fun d _ op => op.RespectsTerminal env d) d e) (found : d.run? runId = some run)
    (terminal : run.status.Terminal) : ∃ later, e.run? runId = some later ∧ later.status = run.status :=
  path.keeps (P := HasStatus runId run.status)
    (fun _ _ _ respects holds => Operation.keeps_terminal respects terminal holds) ⟨run, found, rfl⟩

open Sample in
/-- A cancelled run stays cancelled through a late start of its step and a resume. -/
theorem terminal_absorbing_sample :
    ∃ later, (Operation.after env (.resume "r") (Operation.after env (.startStep "r" "s")
      (store .cancelled .pending) supply) supply).run? "r" = some later ∧ later.status = .cancelled := by
  have path : Execution env (fun d _ op => op.RespectsTerminal env d) (store .cancelled .pending)
      (afterAll env (store .cancelled .pending) [(.startStep "r" "s", supply), (.resume "r", supply)]) :=
    Path.of_requests (by simp [Operation.RespectsTerminal, Operation.assigns]) .start
  have found : (store .cancelled .pending).run? "r" = some (newRun "r" task .cancelled 0) := rfl
  exact terminal_absorbing path found (.inr rfl)

open Sample in
/-- A late FAILED agent result takes a cancelled run back to FIXING. -/
theorem cancelled_run_revived :
    let cancelled := Operation.after env (.cancel "r") (store .implementing .running) supply
    let revived := Operation.after env (.submit "r" "s" failed none true true) cancelled supply
    (cancelled.run? "r").map Run.status = some .cancelled ∧ (revived.run? "r").map Run.status = some .fixing := by
  decide +kernel

end SacmRuntime
