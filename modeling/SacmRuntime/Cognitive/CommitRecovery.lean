import SacmRuntime.Cognitive.CommitSettlement

namespace SacmRuntime
open Table
open Tx hiding expect
namespace Cognitive
open Session CommitQueue

def usedIds (d : CognitiveDb) : List String :=
  d.events.rows.map CognitiveEvent.id ++ d.relations.rows.map CognitiveRelation.id ++
    d.relations.rows.map CognitiveRelation.createdEventId ++ d.snapshots.rows.map CognitiveSnapshot.id ++
    d.jobs.rows.map CognitiveCommitJob.id

/-- The next `n` identifiers are new, all different, and as short as generated ones are. -/
structure Fresh (n : Nat) (s : Session CognitiveDb) : Prop where
  different : ∀ a < n, ∀ b < n, s.uuids a = s.uuids b → a = b
  unused : ∀ a < n, s.uuids a ∉ usedIds s.working
  short : ∀ a < n, (s.uuids a).length ≤ 100

section Freshness
variable {n a : Nat} {s t : Session CognitiveDb}

theorem Fresh.draw (fresh : Fresh (n + 1) s) (uuids : t.uuids = fun n => s.uuids (n + 1))
    (used : ∀ id ∈ usedIds t.working, id = s.uuids 0 ∨ id ∈ usedIds s.working) : Fresh n t where
  different := by
    rw [uuids]
    intro a below b under same
    have shifted := fresh.different (a + 1) (by omega) (b + 1) (by omega) same
    omega
  unused := by
    intro a below member
    rw [uuids] at member
    rcases used _ member with drawn | old
    · have first := fresh.different (a + 1) (by omega) 0 (by omega) drawn
      omega
    · exact fresh.unused (a + 1) (by omega) old
  short := by
    rw [uuids]
    exact fun a below => fresh.short (a + 1) (by omega)

theorem Fresh.same (fresh : Fresh n s) (uuids : t.uuids = s.uuids) (used : usedIds t.working ⊆ usedIds s.working) :
    Fresh n t where
  different := uuids ▸ fresh.different
  unused a below member := fresh.unused a below (used (uuids ▸ member))
  short := uuids ▸ fresh.short

theorem Fresh.mono {m : Nat} (fresh : Fresh m s) (fewer : n ≤ m) : Fresh n s where
  different a below b under := fresh.different a (by omega) b (by omega)
  unused a below := fresh.unused a (by omega)
  short a below := fresh.short a (by omega)

theorem Fresh.find {ρ : Type} [Keyed ρ] {table : Table ρ} (fresh : Fresh n s)
    (within : ∀ row ∈ table.rows, Keyed.key row ∈ usedIds s.working) (below : a < n) :
      table.find (s.uuids a) = none := by
  cases found : table.find (s.uuids a) with
  | none => rfl
  | some row =>
    have used := within row (find_mem found)
    rw [find_key found] at used
    exact absurd used (fresh.unused a below)

theorem Fresh.event (fresh : Fresh n s) (below : a < n) : s.working.events.find (s.uuids a) = none :=
  fresh.find (fun row member => by
    have used := List.mem_map_of_mem (f := CognitiveEvent.id) member
    simp only [usedIds, List.mem_append]
    exact .inl (.inl (.inl (.inl used)))) below

theorem Fresh.relation (fresh : Fresh n s) (below : a < n) : s.working.relations.find (s.uuids a) = none :=
  fresh.find (fun row member => by
    have used := List.mem_map_of_mem (f := CognitiveRelation.id) member
    simp only [usedIds, List.mem_append]
    exact .inl (.inl (.inl (.inr used)))) below

theorem Fresh.snapshot (fresh : Fresh n s) (below : a < n) : s.working.snapshots.find (s.uuids a) = none :=
  fresh.find (fun row member => by
    have used := List.mem_map_of_mem (f := CognitiveSnapshot.id) member
    simp only [usedIds, List.mem_append]
    exact .inl (.inr used)) below

end Freshness

section
variable {β : Type} {P : Except Fault β × Session CognitiveDb → Prop} {s : Session CognitiveDb}
  {env : Env} {stop : Option CommitPoint} {projectId : String} {n : Nat}

variable {error : Error} {f : CognitiveEvent → Service β} {found : CognitiveProject} {payload : CognitiveEventCreate}

section
variable (fresh : Fresh (n + 1) s) (valid : payload.valid = true) (root : payload.parentEventId = none)
  (known : s.working.projects.find projectId = some found)
  (rest : ∀ event t, Recorded env projectId payload s event t → event.id = s.uuids 0 → Fresh n t → P (f event t))
include fresh valid root known rest

theorem outcome_appendEvent_fresh :
    P ((appendEvent env projectId payload >>= f) s) := by
  unfold appendEvent checkEvent project
  rw [bind_assoc_run, if_pos valid, bind_pure_run, bind_assoc_run, bind_assoc_run, bind_view, known]
  unfold expect
  rw [bind_expect_some, bind_assoc_run, bind_view, root, if_neg (by simp [given]), bind_assoc_run, bind_view,
    bind_assoc_run, bind_utcnow, bind_assoc_run, bind_uuid4, bind_assoc_run, bind_view, bind_assoc_run]
  have new : s.working.events.find
      (Keyed.key (newEvent env projectId payload (lastEvent s.working projectId) (s.clock 0) (s.uuids 0))) = none :=
    fresh.event (by omega)
  obtain ⟨table, inserted⟩ := insert?_isSome_of_fresh new
  have rows := (insert?_eq_some inserted).2
  simp only
  rw [inserted, bind_expect_some]
  refine rest _ _ ⟨rfl, rfl, rows, rfl⟩ rfl (fresh.draw rfl fun id member => ?_)
  simp only [usedIds, rows, List.map_append, List.mem_append, List.map_cons, List.map_nil,
    List.mem_singleton] at member ⊢
  have drawn : (newEvent env projectId payload (lastEvent s.working projectId) (s.clock 0) (s.uuids 0)).id =
    s.uuids 0 := rfl
  rw [drawn] at member
  tauto

theorem outcome_recordEvent_fresh :
    P ((recordEvent env stop projectId payload false >>= f) s) := by
  unfold recordEvent
  rw [bind_assoc_run]
  exact outcome_appendEvent_fresh fresh valid root known rest

end

/-- The columns of a relation of the event that must not repeat. -/
def edgeOf (env : Env) (projectId : String) (event : CognitiveEvent) (payload : CognitiveRelationCreate) :
    List String :=
  (newRelation env projectId payload event "").edge

def edgesOf (env : Env) (projectId : String) (event : CognitiveEvent)
    (payloads : List (Except Error CognitiveRelationCreate)) : List (List String) :=
  payloads.filterMap fun payload => payload.toOption.map (edgeOf env projectId event)

/-- Building a payload never fails for a clash in the store. -/
def Clashless (error : Error) : Prop := ∀ message, error ≠ .integrityError message

/-- With new identifiers the relations of an event are added, up to the first
whose payload cannot be built or whose edge is there already. -/
theorem outcome_addRelations_fresh {event : CognitiveEvent} {payloads : List (Except Error CognitiveRelationCreate)}
    {f : List CognitiveRelation → Service β} (fresh : Fresh (n + payloads.length) s)
    (born : event.id ∈ s.working.events.rows.map CognitiveEvent.id)
    (built : ∀ error, .error error ∈ payloads → Clashless error)
    (raised : ∀ error rows t, Related projectId event s rows t →
      ((edgesOf env projectId event payloads).Nodup →
        (∀ edge ∈ edgesOf env projectId event payloads, edge ∉ s.working.relations.rows.map CognitiveRelation.edge) →
        Clashless error) → P (.error (.raised error), t))
    (rest : ∀ rows t, Related projectId event s rows t → Fresh n t → P (f rows t)) :
    P ((addRelations env projectId event payloads >>= f) s) := by
  induction payloads generalizing s f with
  | nil => exact rest [] _ ⟨rfl, by simp, rfl, by simp⟩ (fresh.same rfl (List.Subset.refl _))
  | cons payload payloads ih =>
    cases payload with
    | error error =>
      have clashless := built error (by simp)
      exact raised error [] s ⟨rfl, by simp, rfl, by simp⟩ fun _ _ => clashless
    | ok payload =>
      have edges : edgesOf env projectId event (.ok payload :: payloads) =
          edgeOf env projectId event payload :: edgesOf env projectId event payloads := rfl
      simp only [edges, List.nodup_cons, List.mem_cons, forall_eq_or_imp] at raised
      unfold addRelations
      rw [bind_assoc_run]
      unfold ofExcept
      rw [bind_pure_run, bind_assoc_run, bind_uuid4, bind_assoc_run, bind_view, bind_assoc_run]
      simp only
      by_cases taken : edgeOf env projectId event payload ∈ s.working.relations.rows.map CognitiveRelation.edge
      · have refused : insertRelation s.working.relations (newRelation env projectId payload event (s.uuids 0)) =
            none :=
          if_pos taken
        rw [refused]
        exact raised _ [] _ ⟨rfl, by simp, rfl, by simp⟩ fun _ new => absurd taken new.1
      · have absent : s.working.relations.find (Keyed.key (newRelation env projectId payload event (s.uuids 0))) =
            none :=
          fresh.relation (by simp)
        obtain ⟨table, inserted⟩ := insert?_isSome_of_fresh absent
        have rows := (insert?_eq_some inserted).2
        have accepted : insertRelation s.working.relations (newRelation env projectId payload event (s.uuids 0)) =
            some table :=
          (if_neg taken).trans inserted
        rw [accepted]
        unfold expect
        rw [bind_expect_some, bind_assoc_run, bind_modify, bind_assoc_run]
        refine ih (Fresh.draw (n := n + payloads.length) fresh rfl fun id member => ?_) born
          (fun error member => built error (by simp [member]))
          (fun error others t related clashless => raised error _ t (related.cons rows) fun distinct new => ?_)
          fun others t related fresher => rest _ t (related.cons rows) fresher
        · simp only [usedIds, rows, List.map_append, List.mem_append, List.map_cons, List.map_nil,
            List.mem_singleton] at member ⊢
          have drawn : (newRelation env projectId payload event (s.uuids 0)).id = s.uuids 0 := rfl
          have ofEvent : (newRelation env projectId payload event (s.uuids 0)).createdEventId = event.id := rfl
          rw [drawn, ofEvent] at member
          rcases member with (((inEvents | inRelations | isNew) | inCreated | isEvent) | inSnapshots) | inJobs
          · exact .inr (.inl (.inl (.inl (.inl inEvents))))
          · exact .inr (.inl (.inl (.inl (.inr inRelations))))
          · exact .inl isNew
          · exact .inr (.inl (.inl (.inr inCreated)))
          · exact .inr (.inl (.inl (.inl (.inl (isEvent ▸ born)))))
          · exact .inr (.inl (.inr inSnapshots))
          · exact .inr (.inr inJobs)
        · refine clashless distinct.2 fun edge member => ?_
          simp only [rows, List.map_append, List.mem_append, List.map_cons, List.map_nil, List.mem_singleton]
          rintro (old | same)
          · exact new.2 edge member old
          · have here : edge = edgeOf env projectId event payload := same
            exact distinct.1 (here ▸ member)

/-- What `create_snapshot` leaves behind. -/
structure Snapshotted (env : Env) (projectId : String) (commitHash : Option String) (s : Session CognitiveDb)
    (taken : CognitiveSnapshot) (t : Session CognitiveDb) : Prop where
  clean : t.committed = t.working
  evolves : Evolves env s.working t.working
  jobs : t.working.jobs = s.working.jobs
  member : taken ∈ t.working.snapshots.rows
  own : taken.projectId = projectId
  ofCommit : taken.commitHash = commitHash

theorem evolves_of_history {d e : CognitiveDb} (projects : e.projects = d.projects) (jobs : e.jobs = d.jobs)
    (events : e.events = d.events ∨ ∃ projectId payload createdAt id,
      e.events.rows = d.events.rows ++ [newEvent env projectId payload (lastEvent d projectId) createdAt id] ∧
      ¬Misindexes d projectId payload ∧ payload.eventType ≠ "COMMIT_ANALYZED")
    (snapshots : d.snapshots.rows ⊆ e.snapshots.rows) : Evolves env d e where
  projects := projects
  events := events
  snapshots := snapshots
  jobs job member := ⟨job, jobs ▸ member, .refl job⟩
  kept job member := ⟨job, jobs ▸ member, .refl job⟩

theorem outcome_createSnapshot_fresh {commitHash reason : Option String} {snapshotType : String} {asOf : Option Nat}
    {f : CognitiveSnapshot → Service β} (fresh : Fresh (n + 2) s)
    (known : s.working.projects.find projectId = some found)
    (time : timeForCommit s.working projectId commitHash = .ok asOf) (short : commitHash.all (·.length ≤ 128) = true)
    (stopped : ∀ taken t, Snapshotted env projectId commitHash s taken t → P (.error .stopped, t))
    (rest : ∀ taken t, Snapshotted env projectId commitHash s taken t → Fresh n t → P (f taken t)) :
    P ((createSnapshot env stop projectId commitHash snapshotType reason >>= f) s) := by
  unfold createSnapshot project expect
  rw [bind_assoc_run, bind_assoc_run, bind_view, known, bind_expect_some, bind_assoc_run, bind_view, time]
  unfold ofExcept
  rw [bind_assoc_run, bind_pure_run, bind_assoc_run, bind_view, bind_assoc_run, bind_utcnow, bind_assoc_run,
    bind_uuid4, bind_assoc_run, bind_utcnow, bind_assoc_run, bind_view, bind_assoc_run]
  simp only
  generalize named : newSnapshot env projectId commitHash snapshotType reason (state s.working projectId asOf)
    (s.clock 0)
    (s.clock (0 + 1)) (s.uuids 0) = taken
  have key : taken.id = s.uuids 0 := by rw [← named]; rfl
  have absent : s.working.snapshots.find (Keyed.key taken) = none := by
    change s.working.snapshots.find taken.id = none
    rw [key]
    exact fresh.snapshot (by omega)
  obtain ⟨table, inserted⟩ := insert?_isSome_of_fresh absent
  have rows := (insert?_eq_some inserted).2
  rw [inserted, bind_expect_some, bind_assoc_run, bind_modify, bind_assoc_run, bind_flush, bind_assoc_run]
  have commit : taken.commitHash = commitHash := by rw [← named]; rfl
  have valid : (snapshotEvent taken).valid = true := by
    have limited : taken.id.length ≤ 100 := key ▸ fresh.short 0 (by omega)
    simp [CognitiveEventCreate.valid, snapshotEvent, commit, short, limited]
    decide
  refine outcome_recordEvent_fresh (Fresh.draw (n := n + 1) fresh rfl fun id member => ?_) valid rfl known
    fun event t recorded _ fresher => ?_
  · simp only [usedIds, rows, List.map_append, List.mem_append, List.map_cons, List.map_nil, List.mem_singleton,
      key] at member ⊢
    tauto
  · have taking : Snapshotted env projectId commitHash s taken (committed t) := by
      refine ⟨rfl, ?_, ?_, ?_, by rw [← named]; rfl, commit⟩
      · have frame := recorded.working
        refine evolves_of_history ?_ ?_
          (.inr ⟨projectId, snapshotEvent taken, event.createdAt, event.id, ?_, ?_, ?_⟩) ?_
        · change t.working.projects = _
          rw [frame]
        · change t.working.jobs = _
          rw [frame]
        · exact recorded.appended.trans (congrArg (_ ++ [·]) recorded.built)
        · exact not_misindexes (by simp [snapshotEvent])
        · simp [snapshotEvent]
        · change _ ⊆ t.working.snapshots.rows
          rw [frame]
          simp [rows]
      · change t.working.jobs = _
        rw [recorded.working]
      · change taken ∈ t.working.snapshots.rows
        rw [recorded.working]
        simp [rows]
    rw [bind_assoc_run]
    exact outcome_save (fun _ => stopped taken _ taking) (rest taken _ taking (fresher.same rfl (List.Subset.refl _)))

/-- The evidence of a commit that is not indexed yet: its relations are all different. -/
def Distinct (env : Env) (projectId : String) (payload : CommitIngest) : Prop :=
  ∀ facts event, commitFacts env payload = .ok facts →
    (edgesOf env projectId event (commitRelations payload.commitHash facts payload.dependencies)).Nodup

/-- What `ingest_commit` leaves behind: the commit is indexed, and if it had
a snapshot when it was found indexed, it has one now. -/
structure Ingestion (env : Env) (projectId commitHash : String) (s : Session CognitiveDb) (result : Ingested)
    (t : Session CognitiveDb) : Prop where
  clean : t.committed = t.working
  evolves : Relation.ReflTransGen (Evolves env) s.working t.working
  jobs : t.working.jobs = s.working.jobs
  projects : t.working.projects = s.working.projects
  indexed : commitEvents t.working projectId commitHash ≠ []
  snapshot : (commitEvents s.working projectId commitHash ≠ [] →
      ∃ taken ∈ s.working.snapshots.rows, taken.projectId = projectId ∧ taken.commitHash = some commitHash) →
    ∃ taken, result.snapshot = some taken ∧ taken ∈ t.working.snapshots.rows ∧ taken.projectId = projectId ∧
      taken.commitHash = some commitHash

theorem clashless_safePath {value : String} (failed : safePath value = .error error) : Clashless error := by
  unfold safePath at failed
  simp only at failed
  split at failed
  · cases failed
    intro message same
    cases same
  · cases failed

theorem clashless_safePaths {values : List String} (failed : safePaths values = .error error) :
    Clashless error := by
  induction values with
  | nil => cases failed
  | cons value rest ih =>
    unfold safePaths at failed
    cases first : safePath value with
    | error found =>
      rw [first] at failed
      cases failed
      exact clashless_safePath first
    | ok path =>
      rw [first] at failed
      cases others : safePaths rest with
      | error found =>
        rw [others] at failed
        cases failed
        exact ih others
      | ok paths =>
        rw [others] at failed
        cases failed

theorem clashless_commitFacts {payload : CommitIngest} (failed : commitFacts env payload = .error error) :
    Clashless error := by
  unfold commitFacts at failed
  cases files : safePaths payload.files with
  | error found =>
    rw [files] at failed
    cases failed
    exact clashless_safePaths files
  | ok paths =>
    rw [files] at failed
    cases tests : safePaths payload.tests with
    | error found =>
      rw [tests] at failed
      cases failed
      exact clashless_safePaths tests
    | ok others =>
      rw [tests] at failed
      cases failed

theorem clashless_checkRelation {payload : CognitiveRelationCreate} (failed : checkRelation payload = .error error) :
    Clashless error := by
  unfold checkRelation at failed
  split at failed
  · cases failed
  · cases failed
    intro message same
    cases same

theorem clashless_commitRelations {commitHash : String} {facts : CommitFacts} {dependencies : List (String × String)}
    (member : .error error ∈ commitRelations commitHash facts dependencies) : Clashless error := by
  simp only [commitRelations, List.mem_append, List.mem_map] at member
  rcases member with (((((⟨_, _, failed⟩ | ⟨_, _, failed⟩) | ⟨_, _, failed⟩) | ⟨_, _, failed⟩) | ⟨_, _, failed⟩) |
    ⟨_, _, failed⟩) | ⟨edge, _, failed⟩
  iterate 6 exact clashless_checkRelation failed
  cases source : safePath edge.1 with
  | error found =>
    rw [source] at failed
    cases failed
    exact clashless_safePath source
  | ok path =>
    rw [source] at failed
    cases target : safePath edge.2 with
    | error found =>
      rw [target] at failed
      cases failed
      exact clashless_safePath target
    | ok other =>
      rw [target] at failed
      exact clashless_checkRelation failed

end

end Cognitive
end SacmRuntime
