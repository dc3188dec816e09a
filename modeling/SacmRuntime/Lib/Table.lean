import Mathlib.Data.List.Sort

namespace SacmRuntime

/-- Rows with a primary key. -/
class Keyed (ρ : Type) where
  key : ρ → String

/-- A table: no two rows share their primary key. -/
structure Table (ρ : Type) [Keyed ρ] where
  rows : List ρ
  distinct : (rows.map Keyed.key).Nodup

namespace Table
variable {ρ : Type} [Keyed ρ] {t : Table ρ} {id other : String} {f : ρ → ρ} {row : ρ}

def empty : Table ρ := ⟨[], by simp⟩

instance : Inhabited (Table ρ) := ⟨empty⟩

/-- The row with the given primary key. -/
def find (t : Table ρ) (id : String) : Option ρ := t.rows.find? fun row => Keyed.key row == id

/-- Change one row if the change keeps its key: keys are never reassigned. -/
def rewriteRow (f : ρ → ρ) (row : ρ) : ρ := if Keyed.key (f row) = Keyed.key row then f row else row

@[simp] theorem key_rewriteRow (f : ρ → ρ) (row : ρ) : Keyed.key (rewriteRow f row) = Keyed.key row := by
  unfold rewriteRow
  split
  · assumption
  · rfl

theorem rewriteRow_of_keeps (keeps : Keyed.key (f row) = Keyed.key row) : rewriteRow f row = f row :=
  if_pos keeps

/-- Change, in place, every row that satisfies the condition. -/
def updateWhere (p : ρ → Bool) (f : ρ → ρ) (t : Table ρ) : Table ρ where
  rows := t.rows.map fun row => if p row then rewriteRow f row else row
  distinct := by
    have same : Keyed.key ∘ (fun row => if p row then rewriteRow f row else row) = Keyed.key (ρ := ρ) := by
      funext row
      simp only [Function.comp_apply]
      split <;> simp
    simpa [List.map_map, same] using t.distinct

/-- Remove the rows that satisfy the condition. -/
def deleteWhere (p : ρ → Bool) (t : Table ρ) : Table ρ where
  rows := t.rows.filter fun row => !p row
  distinct := (List.filter_sublist.map Keyed.key).nodup t.distinct

/-- Change the row with the given primary key. -/
def update (id : String) (f : ρ → ρ) (t : Table ρ) : Table ρ := t.updateWhere (fun row => Keyed.key row == id) f

theorem find_eq_some_iff : t.find id = some row ↔ row ∈ t.rows ∧ Keyed.key row = id := by
  constructor
  · intro found
    exact ⟨List.mem_of_find?_eq_some found, by simpa using List.find?_some found⟩
  · rintro ⟨member, rfl⟩
    cases found : t.find (Keyed.key row) with
    | none =>
      have absent := List.find?_eq_none.mp found row member
      simp at absent
    | some other =>
      have same : Keyed.key other = Keyed.key row := by simpa using List.find?_some found
      rw [List.inj_on_of_nodup_map t.distinct (List.mem_of_find?_eq_some found) member same]

theorem find_mem (found : t.find id = some row) : row ∈ t.rows := (find_eq_some_iff.mp found).1

theorem find_key (found : t.find id = some row) : Keyed.key row = id := (find_eq_some_iff.mp found).2

theorem find_of_mem (member : row ∈ t.rows) : t.find (Keyed.key row) = some row :=
  find_eq_some_iff.mpr ⟨member, rfl⟩

theorem find_updateWhere (p : ρ → Bool) (f : ρ → ρ) :
    (t.updateWhere p f).find id = (t.find id).map fun row => if p row then rewriteRow f row else row := by
  unfold find updateWhere
  rw [List.find?_map]
  congr 2
  funext row
  simp only [Function.comp_apply]
  split <;> simp

theorem find_update (id other : String) (f : ρ → ρ) :
    (t.update id f).find other = if other = id then (t.find other).map (rewriteRow f) else t.find other := by
  rw [update, find_updateWhere]
  cases found : t.find other with
  | none => simp
  | some row =>
    have key := find_key found
    by_cases same : other = id <;> simp [key, same]

theorem eq_of_rows {t u : Table ρ} (same : t.rows = u.rows) : t = u := by
  cases t
  cases u
  cases same
  rfl

/-- An update that matches no row changes nothing. -/
theorem updateWhere_of_none {p : ρ → Bool} (unmatched : t.rows.filter p = []) : t.updateWhere p f = t := by
  apply eq_of_rows
  have others : ∀ row ∈ t.rows, (if p row then rewriteRow f row else row) = row := by
    intro row member
    rw [if_neg (List.filter_eq_nil_iff.mp unmatched row member)]
  exact (List.map_congr_left others).trans (List.map_id' _)

/-- A key-preserving update is seen at its own key. -/
theorem find_update_self (keeps : ∀ row, Keyed.key (f row) = Keyed.key row) :
    (t.update id f).find id = (t.find id).map f := by
  rw [find_update, if_pos rfl]
  congr 1
  funext row
  exact rewriteRow_of_keeps (keeps row)

/-- An update is not seen at any other key. -/
theorem find_update_ne (different : other ≠ id) : (t.update id f).find other = t.find other := by
  rw [find_update, if_neg different]

/-- Every row after an update is an old row or the rewritten one. -/
theorem mem_update (member : row ∈ (t.update id f).rows) :
    row ∈ t.rows ∨ ∃ old, t.find id = some old ∧ row = rewriteRow f old := by
  obtain ⟨old, inOld, same⟩ := List.mem_map.mp member
  by_cases here : Keyed.key old = id
  · subst here
    simp only [beq_self_eq_true, if_true] at same
    exact Or.inr ⟨old, find_of_mem inOld, same.symm⟩
  · simp only [beq_iff_eq, here, if_false] at same
    exact Or.inl (same ▸ inOld)

/-- The rows after an update: those with another key, and the rewritten one. -/
theorem mem_update_iff : row ∈ (t.update id f).rows ↔
    (row ∈ t.rows ∧ Keyed.key row ≠ id) ∨ ∃ old, t.find id = some old ∧ row = rewriteRow f old := by
  constructor
  · intro member
    obtain ⟨old, inOld, same⟩ := List.mem_map.mp member
    by_cases here : Keyed.key old = id
    · subst here
      simp only [beq_self_eq_true, if_true] at same
      exact .inr ⟨old, find_of_mem inOld, same.symm⟩
    · simp only [beq_iff_eq, here, if_false] at same
      exact .inl (same ▸ ⟨inOld, here⟩)
  · rintro (⟨inOld, other⟩ | ⟨old, found, rfl⟩)
    · exact List.mem_map.mpr ⟨row, inOld, by simp [other]⟩
    · exact List.mem_map.mpr ⟨old, find_mem found, by simp [find_key found]⟩

theorem update_of_same (same : ∀ row, f row = row) : t.update id f = t := by
  apply eq_of_rows
  have fixed : ∀ row, rewriteRow f row = row := by
    intro row
    simp [rewriteRow, same]
  simp [update, updateWhere, fixed]

/-- Two changes of one row are one change. -/
theorem update_update {g : ρ → ρ} (keeps : ∀ row, Keyed.key (f row) = Keyed.key row)
    (keepsToo : ∀ row, Keyed.key (g row) = Keyed.key row) : (t.update id f).update id g = t.update id (g ∘ f) := by
  apply eq_of_rows
  simp only [update, updateWhere, List.map_map]
  refine List.map_congr_left fun row _ => ?_
  simp only [Function.comp_apply]
  by_cases here : Keyed.key row = id
  · simp [here, rewriteRow_of_keeps, keeps, keepsToo]
  · simp [here]

theorem find_update_isSome : ((t.update id f).find other).isSome = (t.find other).isSome := by
  rw [find_update]
  split <;> simp

/-- Add a row whose primary key is new. -/
def insert (t : Table ρ) (row : ρ) (fresh : t.find (Keyed.key row) = none) : Table ρ where
  rows := t.rows ++ [row]
  distinct := by
    have absent : ∀ old ∈ t.rows, Keyed.key old ≠ Keyed.key row := by
      simpa using List.find?_eq_none.mp fresh
    simp only [List.map_append, List.map_cons, List.map_nil, List.nodup_append]
    refine ⟨t.distinct, by simp, ?_⟩
    intro a inRows b inNew
    obtain ⟨old, member, rfl⟩ := List.mem_map.mp inRows
    rw [List.mem_singleton.mp inNew]
    exact absent old member

/-- Add a row unless its primary key is taken. -/
def insert? (t : Table ρ) (row : ρ) : Option (Table ρ) :=
  if fresh : t.find (Keyed.key row) = none then some (t.insert row fresh) else none

variable {next : Table ρ}

theorem insert?_eq_some (inserted : t.insert? row = some next) :
    t.find (Keyed.key row) = none ∧ next.rows = t.rows ++ [row] := by
  unfold insert? at inserted
  split at inserted
  · cases Option.some.inj inserted
    exact ⟨by assumption, rfl⟩
  · simp at inserted

theorem mem_insert? {other : ρ} (inserted : t.insert? row = some next) :
    other ∈ next.rows ↔ other ∈ t.rows ∨ other = row := by
  rw [(insert?_eq_some inserted).2, List.mem_append, List.mem_singleton]

theorem insert?_isSome_of_fresh (fresh : t.find (Keyed.key row) = none) : ∃ next, t.insert? row = some next :=
  ⟨_, dif_pos fresh⟩

theorem find_insert? (inserted : t.insert? row = some next) (id : String) :
    next.find id = if id = Keyed.key row then some row else t.find id := by
  obtain ⟨fresh, rows⟩ := insert?_eq_some inserted
  by_cases same : id = Keyed.key row
  · subst same
    rw [if_pos rfl]
    exact find_eq_some_iff.mpr ⟨by simp [rows], rfl⟩
  · rw [if_neg same]
    unfold find
    rw [rows, List.find?_append]
    cases t.rows.find? fun old => Keyed.key old == id <;> simp [Ne.symm same]

/-- A row just added is changed; the rows before it are as they were. -/
theorem rows_update_insert? (inserted : t.insert? row = some next) (keeps : Keyed.key (f row) = Keyed.key row) :
    (next.update (Keyed.key row) f).rows = t.rows ++ [f row] := by
  obtain ⟨fresh, rows⟩ := insert?_eq_some inserted
  have others : ∀ old ∈ t.rows, (if Keyed.key old == Keyed.key row then rewriteRow f old else old) = old := by
    intro old member
    have other : (Keyed.key old == Keyed.key row) = false := by simpa using List.find?_eq_none.mp fresh old member
    rw [other]
    rfl
  simp only [update, updateWhere, rows, List.map_append, List.map_cons, List.map_nil, beq_self_eq_true, if_true,
    rewriteRow_of_keeps keeps]
  rw [List.map_congr_left others, List.map_id']

/-- A row found before an insertion is found after it. -/
theorem find_insert?_of_some {found : ρ} (inserted : t.insert? row = some next) (before : t.find id = some found) :
    next.find id = some found := by
  rw [find_insert? inserted]
  split
  · rename_i same
    rw [same, (insert?_eq_some inserted).1] at before
    simp at before
  · exact before

/-- Every row of the first table has one under its key in the second, to
which it is related. -/
def Carries (R : ρ → ρ → Prop) (t u : Table ρ) : Prop :=
  ∀ id old, t.find id = some old → ∃ new, u.find id = some new ∧ R old new

section Carries
variable {R : ρ → ρ → Prop} {u v : Table ρ}

theorem Carries.trans (transitive : ∀ a b c, R a b → R b c → R a c) (first : t.Carries R u) (second : u.Carries R v) :
    t.Carries R v := by
  intro id old found
  obtain ⟨mid, atMid, toMid⟩ := first id old found
  obtain ⟨new, atNew, toNew⟩ := second id mid atMid
  exact ⟨new, atNew, transitive old mid new toMid toNew⟩

variable (reflexive : ∀ row, R row row)
include reflexive

theorem carries_refl (t : Table ρ) : t.Carries R t := fun _ old found => ⟨old, found, reflexive old⟩

theorem carries_insert? (inserted : t.insert? row = some next) : t.Carries R next :=
  fun _ old found => ⟨old, find_insert?_of_some inserted found, reflexive old⟩

theorem carries_updateWhere {p : ρ → Bool}
    (moves : ∀ row ∈ t.rows, p row = true → Keyed.key (f row) = Keyed.key row ∧ R row (f row)) :
    t.Carries R (t.updateWhere p f) := by
  intro id old found
  rw [find_updateWhere, found]
  refine ⟨if p old then rewriteRow f old else old, rfl, ?_⟩
  by_cases here : p old = true
  · obtain ⟨keeps, moved⟩ := moves old (find_mem found) here
    rw [if_pos here, rewriteRow_of_keeps keeps]
    exact moved
  · rw [if_neg here]
    exact reflexive old

theorem carries_update (moves : ∀ row, t.find id = some row → Keyed.key (f row) = Keyed.key row ∧ R row (f row)) :
    t.Carries R (t.update id f) := by
  refine carries_updateWhere reflexive fun row member here => ?_
  cases of_decide_eq_true here
  exact moves row (find_of_mem member)

end Carries

/-- Looking rows up again by their keys repeats no key. -/
theorem keys_filterMap_sublist {g : ρ → Option ρ}
    (keeps : ∀ row found, g row = some found → Keyed.key found = Keyed.key row) (rows : List ρ) :
    ((rows.filterMap g).map Keyed.key).Sublist (rows.map Keyed.key) := by
  induction rows with
  | nil => simp
  | cons row rest ih =>
    cases found : g row with
    | none => simpa [found] using ih.cons _
    | some other => simpa [found, keeps row other found] using ih

/-- A table holding the given rows; a repeated key is dropped. -/
def ofRows (rows : List ρ) : Table ρ := rows.foldl (fun t row => (t.insert? row).getD t) empty

/-- Rows in ascending order of a numeric column. -/
def orderBy {α : Type} (column : α → Nat) (rows : List α) : List α :=
  rows.insertionSort fun a b => column a ≤ column b

@[simp] theorem mem_orderBy {α : Type} {column : α → Nat} {rows : List α} {a : α} :
    a ∈ orderBy column rows ↔ a ∈ rows := List.mem_insertionSort _

/-- Rows picked by a query are rows of the table, each once. -/
theorem distinct_query (t : Table ρ) (p : ρ → Bool) (column : ρ → Nat) (limit : Nat) :
    (((orderBy column (t.rows.filter p)).take limit).map Keyed.key).Nodup := by
  have picked : ((t.rows.filter p).map Keyed.key).Nodup := (List.filter_sublist.map Keyed.key).nodup t.distinct
  have sorted : ((orderBy column (t.rows.filter p)).map Keyed.key).Nodup :=
    ((List.perm_insertionSort _ _).map Keyed.key).nodup_iff.mpr picked
  exact ((List.take_sublist _ _).map Keyed.key).nodup sorted

end Table

end SacmRuntime
