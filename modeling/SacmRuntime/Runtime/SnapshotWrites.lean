import SacmRuntime.Runtime.RunWrites

namespace SacmRuntime
open Session SnapshotService Tx Table

section
variable {env : Env} {p : Permit} {s : Session Db} {runId : String}

variable {reason snapshotId : String} {run : Run} {snapshot : RunSnapshot}

theorem create_snapshot_writes : Writes env p (SnapshotService.create env runId reason) := by
  intro s
  unfold SnapshotService.create
  exact createSnapshot_writes.then fun _ _ => movesFrom_commit (movesFrom_pure _)

theorem validate_writes : Writes env p (validate env run snapshot) := by
  intro s
  unfold validate
  refine movesFrom_guard fun _ => ?_
  refine movesFrom_guard fun _ => ?_
  refine movesFrom_guard fun _ => ?_
  refine movesFrom_guard fun _ => ?_
  exact autoflush_writes.then fun _ _ => movesFrom_read (moves_ofExcept _)

theorem validate_leaves (env : Env) (run : Run) (snapshot : RunSnapshot) :
    Tx.Leaves (fun s => (s.working, s.uuids)) (validate env run snapshot) := by
  unfold validate autoflush
  refine leaves_ite (leaves_raise _) (leaves_ite (leaves_raise _) ?_)
  refine leaves_ite (leaves_raise _) (leaves_ite (leaves_raise _) ?_)
  refine Tx.Leaves.bind (leaves_ite (fun _ => rfl) (leaves_pure _)) fun _ => ?_
  exact leaves_read fun _ => leaves_ofExcept

theorem movesFrom_validate {α : Type} {f : Unit → Service α}
    (rest : ∀ t, t.working = s.working → t.uuids = s.uuids → WritesFrom env p (f ()) t) :
    WritesFrom env p (validate env run snapshot >>= f) s := by
  have same := validate_leaves env run snapshot s
  exact (validate_writes s).bind fun _ _ => rest _ (congrArg Prod.fst same) (congrArg Prod.snd same)

theorem restoreSteps_writesFrom {steps : List RunStep} (allowed : p.unsettle runId ∧ p.rewind runId)
    (ofRun : ∀ step ∈ steps, ∀ old, s.working.steps.find step.id = some old → old.runId = runId) :
    WritesFrom env p (forEach steps fun step => match captured snapshot step.id with
      | some item => updateStep step.id (restoreStep item)
      | none => pure ()) s := by
  induction steps generalizing s with
  | nil => exact movesFrom_pure _
  | cons step rest ih =>
    unfold forEach
    cases captured snapshot step.id with
    | none => exact ih fun other member => ofRun other (by simp [member])
    | some item =>
      refine movesFrom_write (.step step.id _ fun old found => ?_) (ih ?_)
      · have here := ofRun step (by simp) old found
        exact ⟨rfl, rfl, fun _ => .inr (here ▸ allowed.1), fun _ => .inr (.inr (here ▸ allowed.2)),
          fun _ => .inr (here ▸ allowed.2), fun _ => .inr (here ▸ allowed.2)⟩
      · intro other member old found
        rw [find_update] at found
        split at found
        · obtain ⟨before, atBefore, rfl⟩ := Option.map_eq_some_iff.mp found
          rw [rewriteRow_of_keeps rfl]
          exact ofRun other (by simp [member]) before atBefore
        · exact ofRun other (by simp [member]) old found

theorem movesFrom_requireSnapshot {α : Type} {A : Session Db → Session Db → Prop} {f : RunSnapshot → Service α}
    (rest : ∀ snapshot, Tx.MovesFrom A (f snapshot) s) :
    Tx.MovesFrom A (requireSnapshot runId snapshotId >>= f) s := by
  unfold requireSnapshot
  exact movesFrom_expect fun snapshot _ => rest snapshot

theorem restore_writesFrom
    (allowed : ∀ run, s.working.run? runId = some run → run.status = .failed → p.unsettle runId ∧ p.rewind runId) :
    WritesFrom env p (restore env runId snapshotId reason) s := by
  unfold restore
  refine movesFrom_requireRun fun run found => movesFrom_requireSnapshot fun snapshot => ?_
  refine movesFrom_validate fun t same _ => ?_
  refine movesFrom_guard fun failed => ?_
  refine movesFrom_guard fun resumable => ?_
  refine movesFrom_view (movesFrom_guard fun _ => ?_)
  refine movesFrom_guard fun _ => movesFrom_utcnow fun now clock => ?_
  have failed : run.status = .failed := not_not.mp failed
  refine movesFrom_write (.run runId _ fun old atOld => ?_) ?_
  · rw [same] at atOld
    cases Option.some.inj (atOld.symm.trans found)
    have key : run.id = runId := find_key found
    refine ⟨rfl, .inr (.inr (.inr ⟨failed, by tauto⟩)), ⟨rfl, rfl, rfl⟩, .inr (.inr ?_)⟩
    rw [key]
    exact (allowed run found failed).2
  refine Tx.MovesFrom.bind (restoreSteps_writesFrom (allowed run found failed) ?_) fun _ _ => ?_
  · intro step member old atOld
    simp only [Db.listSteps, mem_orderBy, List.mem_filter, beq_iff_eq] at member
    cases Option.some.inj (atOld.symm.trans (find_of_mem member.1))
    exact member.2
  · refine appendEvent_writes.then fun _ _ => createSnapshot_writes.then fun _ _ => movesFrom_commit ?_
    exact movesFrom_requireRun fun _ _ => movesFrom_pure _

theorem insertStep_writes {step : RunStep} (allowed : p.addStep step.runId)
    (fresh : step.status = .pending ∧ step.output = none) : Writes env p (insertStep step) := by
  intro s
  unfold insertStep
  exact movesFrom_view (movesFrom_expect fun steps inserted => movesFrom_modify (.insertStep allowed fresh inserted))

theorem insertRun_fresh (inserted : (insertRun run s).1 = .ok ()) :
    s.working.runs.find run.id = none := by
  unfold insertRun at inserted
  cases attempt : s.working.runs.insert? run with
  | none =>
    rw [bind_view, attempt] at inserted
    cases inserted
  | some runs => exact (insert?_eq_some attempt).1

theorem replay_writesFrom {overrides : List (String × Json)}
    (allowed : s.working.runs.find (s.uuids 0) = none → p.addStep (s.uuids 0)) :
    WritesFrom env p (replay env runId snapshotId reason overrides) s := by
  unfold replay
  refine movesFrom_requireRun fun source _ => movesFrom_requireSnapshot fun snapshot => ?_
  refine movesFrom_validate fun t same supply => ?_
  refine (moves_uuid4 t).bind fun replayId drawn => movesFrom_utcnow fun now clock => ?_
  have named : replayId = s.uuids 0 := by
    cases drawn
    exact congrFun supply 0
  subst named
  refine Tx.MovesFrom.bind (insertRun_writes (.inr rfl) rfl _) fun _ inserted => ?_
  have fresh : s.working.runs.find (s.uuids 0) = none := by
    rw [← same]
    exact insertRun_fresh inserted
  refine movesFrom_flush (Tx.MovesFrom.bind (moves_forEach (fun item _ => ?_) _) fun _ _ => ?_)
  · exact moves_uuid4.bind fun _ => insertStep_writes (allowed fresh) ⟨rfl, rfl⟩
  · refine movesFrom_write (.other rfl rfl rfl rfl rfl (List.Subset.refl _)) ?_
    refine appendEvent_writes.then fun _ _ => movesFrom_flush (createSnapshot_writes.then fun _ _ => ?_)
    exact movesFrom_commit (movesFrom_pure _)

end

end SacmRuntime
