import SacmRuntime.Cognitive.StateService

namespace SacmRuntime
open Tx hiding outcome_ofExcept expect outcome_expect
namespace Cognitive
open Session

/-- The event would index a commit without a name, or one that is indexed already. -/
def Misindexes (d : CognitiveDb) (projectId : String) (payload : CognitiveEventCreate) : Prop :=
  payload.eventType = "COMMIT_CREATED" ∧
    ∃ hash, payload.commitHash = some hash ∧ (hash = "" ∨ commitEvents d projectId hash ≠ [])

/-- What one transaction of the service does to the cognitive history: an
event with the relations that it creates, a snapshot with its event, or
nothing. Where events are not recorded directly, no commit is indexed twice. -/
inductive Transaction (env : Env) (direct : Bool) (d e : CognitiveDb) : Prop
  | evidence (projectId : String) (payload : CognitiveEventCreate) (createdAt : Nat) (id : String)
      (rows : List CognitiveRelation)
      (events : e.events.rows = d.events.rows ++ [newEvent env projectId payload (lastEvent d projectId) createdAt id])
      (relations : e.relations.rows = d.relations.rows ++ rows)
      (within : ∀ row ∈ rows, row.projectId = projectId ∧ row.validFrom = createdAt)
      (snapshots : e.snapshots = d.snapshots) (new : direct = false → ¬Misindexes d projectId payload)
  | snapshot (projectId : String) (payload : CognitiveEventCreate) (createdAt : Nat) (id : String)
      (taken : CognitiveSnapshot) (asOf : Option Nat)
      (events : e.events.rows = d.events.rows ++ [newEvent env projectId payload (lastEvent d projectId) createdAt id])
      (relations : e.relations = d.relations) (snapshots : e.snapshots.rows = d.snapshots.rows ++ [taken])
      (own : taken.projectId = projectId) (time : timeForCommit d projectId taken.commitHash = .ok asOf)
      (state : taken.state = state d projectId asOf) (kind : payload.eventType = "SNAPSHOT_CREATED")
  | other (events : e.events = d.events) (relations : e.relations = d.relations) (snapshots : e.snapshots = d.snapshots)

/-- The store changes by transactions of the service only. -/
def Advances (env : Env) (direct : Bool) : CognitiveDb → CognitiveDb → Prop :=
  Relation.ReflTransGen (Transaction env direct)

/-- Whatever the method answers, it has committed transactions of the service only. -/
def Ends {α : Type} (env : Env) (direct : Bool) (d : CognitiveDb) (outcome : Except Fault α × Session CognitiveDb) :
    Prop :=
  Advances env direct d outcome.2.committed

section Outcomes
variable {α β : Type} {P : Except Fault β × Session CognitiveDb → Prop} {s : Session CognitiveDb}
  {env : Env} {stop : Option CommitPoint} {projectId : String}

variable {event : CognitiveEvent} {f : α → Service β} {payload : CognitiveEventCreate}

theorem outcome_ofExcept {r : Except Error α} (raised : ∀ error, r = .error error → P (.error (.raised error), s))
    (rest : ∀ a, r = .ok a → P (f a s)) :
    P ((ofExcept r >>= f) s) := by
  cases r with
  | error error => exact raised error rfl
  | ok a => exact rest a rfl

theorem outcome_expect {error : Error} {found : Option α} (raised : P (.error (.raised error), s))
    (rest : ∀ a, found = some a → P (f a s)) : P ((expect error found >>= f) s) := by
  cases found with
  | none => exact raised
  | some a => exact rest a rfl

theorem outcome_project {f : CognitiveProject → Service β}
    (raised : P (.error (.raised (notFound "Project not found.")), s))
    (rest : ∀ found, s.working.projects.find projectId = some found → P (f found s)) :
    P ((project projectId >>= f) s) := by
  unfold project
  rw [bind_assoc_run]
  exact outcome_expect raised rest

def committed (s : Session CognitiveDb) : Session CognitiveDb :=
  { s with committed := s.working, flushed := s.working }

theorem outcome_save {point : CommitPoint} {f : Unit → Service β}
    (stopped : stop = some point → P (.error .stopped, committed s)) (rest : P (f () (committed s))) :
      P ((save stop point >>= f) s) := by
  unfold save
  rw [bind_assoc_run]
  simp only [bind_commit]
  by_cases stops : stop = some point
  · rw [if_pos stops]
    exact stopped stops
  · rw [if_neg stops]
    exact rest

/-- What `record_event` leaves behind when it does not commit. -/
structure Recorded (env : Env) (projectId : String) (payload : CognitiveEventCreate) (s : Session CognitiveDb)
    (event : CognitiveEvent) (t : Session CognitiveDb) : Prop where
  built : event = newEvent env projectId payload (lastEvent s.working projectId) event.createdAt event.id
  committed : t.committed = s.committed
  appended : t.working.events.rows = s.working.events.rows ++ [event]
  working : t.working = { s.working with events := t.working.events }

theorem outcome_appendEvent {f : CognitiveEvent → Service β}
    (raised : ∀ error t, t.committed = s.committed → t.working = s.working → P (.error (.raised error), t))
    (rest : ∀ event t, Recorded env projectId payload s event t → P (f event t)) :
    P ((appendEvent env projectId payload >>= f) s) := by
  unfold appendEvent checkEvent
  rw [bind_assoc_run]
  by_cases valid : payload.valid = true
  · rw [if_pos valid, bind_pure_run, bind_assoc_run]
    refine outcome_project (raised _ s rfl rfl) fun found _ => ?_
    rw [bind_assoc_run, bind_view]
    split
    · exact raised _ s rfl rfl
    · rw [bind_assoc_run, bind_view, bind_assoc_run, bind_utcnow, bind_assoc_run, bind_uuid4,
        bind_assoc_run, bind_view, bind_assoc_run]
      refine outcome_expect (raised _ _ (by rfl) (by rfl)) fun table inserted => ?_
      exact rest _ _ ⟨rfl, rfl, (Table.insert?_eq_some inserted).2, rfl⟩
  · rw [if_neg valid]
    exact raised _ s rfl rfl

theorem outcome_recordEvent {f : CognitiveEvent → Service β}
    (raised : ∀ error t, t.committed = s.committed → t.working = s.working → P (.error (.raised error), t))
    (rest : ∀ event t, Recorded env projectId payload s event t → P (f event t)) :
    P ((recordEvent env stop projectId payload false >>= f) s) := by
  unfold recordEvent
  rw [bind_assoc_run]
  exact outcome_appendEvent raised rest

/-- What `addRelations` leaves behind. -/
structure Related (projectId : String) (event : CognitiveEvent) (s : Session CognitiveDb)
    (rows : List CognitiveRelation)
    (t : Session CognitiveDb) : Prop where
  committed : t.committed = s.committed
  appended : t.working.relations.rows = s.working.relations.rows ++ rows
  working : t.working = { s.working with relations := t.working.relations }
  within : ∀ row ∈ rows, row.projectId = projectId ∧ row.validFrom = event.createdAt

theorem Related.cons {payload : CognitiveRelationCreate} {table : Table CognitiveRelation}
    {others : List CognitiveRelation} {t : Session CognitiveDb}
    (related : Related projectId event
      { s with uuids := fun n => s.uuids (n + 1), working := { s.working with relations := table } } others t)
    (added : table.rows = s.working.relations.rows ++ [newRelation env projectId payload event (s.uuids 0)]) :
    Related projectId event s (newRelation env projectId payload event (s.uuids 0) :: others) t := by
  refine ⟨related.committed, ?_, related.working, fun row member => ?_⟩
  · rw [related.appended, added]
    simp
  · rcases List.mem_cons.mp member with rfl | later
    · exact ⟨rfl, rfl⟩
    · exact related.within row later

theorem outcome_addRelations {payloads : List (Except Error CognitiveRelationCreate)}
    {f : List CognitiveRelation → Service β}
    (raised : ∀ error rows t, Related projectId event s rows t → P (.error (.raised error), t))
    (rest : ∀ rows t, Related projectId event s rows t → P (f rows t)) :
    P ((addRelations env projectId event payloads >>= f) s) := by
  induction payloads generalizing s f with
  | nil => exact rest [] _ ⟨rfl, by simp, rfl, by simp⟩
  | cons payload payloads ih =>
    unfold addRelations
    rw [bind_assoc_run]
    refine outcome_ofExcept (fun error _ => raised error [] s ⟨rfl, by simp, rfl, by simp⟩) fun payload _ => ?_
    rw [bind_assoc_run, bind_uuid4, bind_assoc_run, bind_view, bind_assoc_run]
    refine outcome_expect (raised _ [] _ ⟨rfl, by simp, rfl, by simp⟩) fun table inserted => ?_
    rw [bind_assoc_run, bind_modify, bind_assoc_run]
    have added : table.rows = s.working.relations.rows ++ [newRelation env projectId payload event (s.uuids 0)] := by
      unfold insertRelation at inserted
      split at inserted
      · cases inserted
      · exact (Table.insert?_eq_some inserted).2
    exact ih (fun error rows t related => raised error _ t (related.cons added)) fun rows t related =>
      rest _ t (related.cons added)

end Outcomes

section Advance
variable {env : Env} {direct : Bool} {projectId : String} {payload : CognitiveEventCreate} {d : CognitiveDb}
  {event : CognitiveEvent} {s t u : Session CognitiveDb}

theorem Recorded.transaction {rows : List CognitiveRelation} (recorded : Recorded env projectId payload s event t)
    (related : Related projectId event t rows u) (new : direct = false → ¬Misindexes s.working projectId payload) :
    Transaction env direct s.working u.working := by
  have working := related.working
  rw [recorded.working] at working
  refine .evidence projectId payload event.createdAt event.id rows ?_ ?_ related.within ?_ new
  · rw [working]
    simp only
    rw [recorded.appended, ← recorded.built]
  · rw [related.appended, recorded.working]
  · rw [working]

theorem Recorded.alone (recorded : Recorded env projectId payload s event t)
    (new : direct = false → ¬Misindexes s.working projectId payload) : Transaction env direct s.working t.working := by
  have none : Related projectId event t [] t := ⟨rfl, by simp, rfl, by simp⟩
  exact recorded.transaction none new

end Advance

section Operations
variable {β : Type} {P : Except Fault β × Session CognitiveDb → Prop} {s : Session CognitiveDb} {env : Env}
  {direct : Bool} {stop : Option CommitPoint} {projectId : String}

variable {commitHash reason : Option String} {d : CognitiveDb} {payload : CognitiveEventCreate}
  {result : Except Fault β} {snapshotType : String} {t : Session CognitiveDb}

theorem outcome_createSnapshot {f : CognitiveSnapshot → Service β} (clean : s.committed = s.working)
    (raised : ∀ e t, Advances env direct s.working t.committed → P (.error e, t))
    (rest : ∀ taken t, Advances env direct s.working t.working → t.committed = t.working → P (f taken t)) :
    P ((createSnapshot env stop projectId commitHash snapshotType reason >>= f) s) := by
  have nothing : ∀ e (t : Session CognitiveDb), t.committed = s.committed → P (.error e, t) := fun e t same =>
    raised e t (by rw [same, clean]; exact .refl)
  unfold createSnapshot
  rw [bind_assoc_run]
  refine outcome_project (nothing _ s rfl) fun found _ => ?_
  rw [bind_assoc_run, bind_view, bind_assoc_run]
  refine outcome_ofExcept (fun error _ => nothing _ s rfl) fun asOf time => ?_
  rw [bind_assoc_run, bind_view, bind_assoc_run, bind_utcnow, bind_assoc_run, bind_uuid4, bind_assoc_run,
    bind_utcnow, bind_assoc_run, bind_view, bind_assoc_run]
  refine outcome_expect (nothing _ _ rfl) fun table inserted => ?_
  rw [bind_assoc_run, bind_modify, bind_assoc_run, bind_flush, bind_assoc_run]
  refine outcome_recordEvent (fun _ t same _ => nothing _ t same) fun event t recorded => ?_
  have step : Transaction env direct s.working t.working := by
    rw [recorded.working]
    exact .snapshot projectId _ event.createdAt event.id _ asOf
      (recorded.appended.trans (congrArg (_ ++ [·]) recorded.built)) rfl
      (Table.insert?_eq_some inserted).2 rfl time rfl rfl
  rw [bind_assoc_run]
  exact outcome_save (fun _ => raised _ _ (.single step)) (rest _ _ (.single step) rfl)

theorem not_misindexes (other : payload.eventType ≠ "COMMIT_CREATED") :
    ¬Misindexes d projectId payload := fun again => other again.1

theorem ends_unchanged (clean : s.committed = s.working) (same : t.committed = s.committed) :
    Ends env direct s.working (result, t) := by
  unfold Ends
  rw [same, clean]
  exact .refl

theorem recordEvent_ends (clean : s.committed = s.working)
    (new : direct = false → ¬Misindexes s.working projectId payload) :
    Ends env direct s.working (recordEvent env stop projectId payload true s) := by
  unfold recordEvent
  refine outcome_appendEvent (fun _ _ same _ => ends_unchanged clean same) fun event t recorded => ?_
  have step := Relation.ReflTransGen.single (recorded.alone new)
  exact outcome_save (fun _ => step) step

theorem addRelation_ends {payload : CognitiveRelationCreate} {actorId : Option String}
    (clean : s.committed = s.working) :
    Ends env direct s.working (addRelation env stop projectId payload actorId s) := by
  unfold addRelation
  refine outcome_project (ends_unchanged clean rfl) fun found _ => ?_
  rw [bind_view]
  cases sameRelation env s.working projectId payload with
  | some existing => exact ends_unchanged clean rfl
  | none =>
    refine outcome_recordEvent (fun _ _ same _ => ends_unchanged clean same) fun event t recorded => ?_
    refine outcome_addRelations
      (fun _ _ _ related => ends_unchanged clean (related.committed.trans recorded.committed)) fun rows u related =>
      ?_
    have step : Advances env direct s.working u.working :=
      .single (recorded.transaction related fun _ => not_misindexes (by simp))
    refine outcome_save (fun _ => step) ?_
    cases rows.head? <;> exact step

theorem ends_committed (advances : Advances env direct d t.working) (clean : t.committed = t.working) :
    Ends env direct d (result, t) := by
  unfold Ends
  rwa [clean]

/-- A last `return` commits nothing. -/
theorem ends_return {γ : Type} {m : Service β} {g : β → γ} (ends : Ends env direct d (m s)) :
    Ends env direct d ((m >>= fun b => pure (g b)) s) := by
  unfold Ends at *
  rwa [bind_pure_state]

theorem createSnapshot_ends (clean : s.committed = s.working) :
    Ends env direct s.working (void (createSnapshot env stop projectId commitHash snapshotType reason) s) :=
  outcome_createSnapshot clean (fun _ _ advances => advances) fun _ _ advances same => ends_committed advances same

theorem ingestCommit_ends {payload : CommitIngest} (clean : s.committed = s.working)
    (named : direct = false → payload.commitHash ≠ "") :
    Ends env direct s.working (ingestCommit env stop projectId payload s) := by
  unfold ingestCommit
  refine outcome_project (ends_unchanged clean rfl) fun found _ => ?_
  rw [bind_view]
  cases indexed : (commitEvents s.working projectId payload.commitHash).head? with
  | some event => exact ends_unchanged clean rfl
  | none =>
    have new : ∀ facts, direct = false → ¬Misindexes s.working projectId (commitEvent payload facts) := by
      rintro facts indirect ⟨-, hash, same, nameless | again⟩
      · cases same
        exact named indirect nameless
      · cases same
        exact again (List.head?_eq_none_iff.mp indexed)
    refine outcome_ofExcept (fun _ _ => ends_unchanged clean rfl) fun facts _ => ?_
    refine outcome_recordEvent (fun _ _ same _ => ends_unchanged clean same) fun event t recorded => ?_
    refine outcome_addRelations
      (fun _ _ _ related => ends_unchanged clean (related.committed.trans recorded.committed)) fun rows u related =>
      ?_
    have step : Transaction env direct s.working u.working := recorded.transaction related (new facts)
    refine outcome_save (fun _ => .single step) ?_
    refine outcome_createSnapshot rfl (fun e t (advances : Advances env direct _ _) => ?_) fun taken t advances
      same => ?_
    · exact .head step advances
    · exact ends_committed (.head step advances) same

theorem handoff_ends {payload : AgentHandoffCreate} (clean : s.committed = s.working) :
    Ends env direct s.working (handoff env stop projectId payload s) := by
  unfold handoff
  refine outcome_project (ends_unchanged clean rfl) fun found _ => ?_
  rw [bind_view]
  split
  · refine outcome_recordEvent (fun _ _ same _ => ends_unchanged clean same) fun event t recorded => ?_
    refine outcome_addRelations
      (fun _ _ _ related => ends_unchanged clean (related.committed.trans recorded.committed)) fun rows u related =>
      ?_
    have step : Advances env direct s.working u.working :=
      .single (recorded.transaction related fun _ => not_misindexes (by simp))
    exact outcome_save (fun _ => step) step
  · exact ends_unchanged clean rfl

theorem recordDeliveryCompletion_ends {p : DeliveryCompletion} (clean : s.committed = s.working) :
    Ends env direct s.working (recordDeliveryCompletion env stop projectId p s) := by
  unfold recordDeliveryCompletion
  refine outcome_project (ends_unchanged clean rfl) fun found _ => ?_
  rw [bind_view]
  cases deliveryEvent s.working projectId p.deliveryId with
  | some event => exact ends_unchanged clean rfl
  | none =>
    simp only [bind_view]
    refine outcome_recordEvent (fun _ _ same _ => ends_unchanged clean same) fun event t recorded => ?_
    refine outcome_addRelations
      (fun _ _ _ related => ends_unchanged clean (related.committed.trans recorded.committed)) fun rows u related =>
      ?_
    have step : Transaction env direct s.working u.working :=
      recorded.transaction related fun _ => not_misindexes (by simp)
    refine outcome_save (fun _ => .single step) ?_
    refine outcome_createSnapshot rfl (fun e t (advances : Advances env direct _ _) => .head step advances)
      fun taken t advances same => ?_
    have snapshotted : Advances env direct s.working t.working := .head step advances
    refine outcome_ofExcept (fun _ _ => ends_committed snapshotted same) fun link _ => ?_
    exact ends_return (snapshotted.trans (addRelation_ends same))

theorem reconstructContext_ends {p : ContextReconstruct} (clean : s.committed = s.working) :
    Ends env direct s.working (reconstructContext env stop projectId p s) := by
  unfold reconstructContext
  simp only [bind_view]
  refine outcome_ofExcept (fun _ _ => ends_unchanged clean rfl) fun asOf _ => ?_
  simp only [bind_view, bind_utcnow]
  exact ends_return (recordEvent_ends (s := { s with clock := fun n => s.clock (n + 1) }) clean
    fun _ => not_misindexes (by simp))

end Operations

end Cognitive
end SacmRuntime
