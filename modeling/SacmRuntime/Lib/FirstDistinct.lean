import Mathlib.Data.List.Dedup
import Mathlib.Data.List.Perm.Subperm

namespace SacmRuntime

namespace FirstDistinct
variable {α β : Type} [DecidableEq β] {f : α → β} {limit : Nat} {items first others : List α} {seen : List β}
  {kept : List α}

/-- Keep the items whose image is new, and stop when so many are kept. -/
def collect (f : α → β) (limit : Nat) : List α → List β → List α → List α
  | [], _, kept => kept
  | item :: rest, seen, kept =>
    let (seen, kept) := if f item ∈ seen then (seen, kept) else (f item :: seen, kept ++ [item])
    if kept.length = limit then kept else collect f limit rest seen kept

theorem collect_old {item : α} (old : f item ∈ seen) (room : kept.length < limit) :
    collect f limit (item :: items) seen kept = collect f limit items seen kept := by
  simp only [collect, if_pos old]
  exact if_neg (Nat.ne_of_lt room)

theorem collect_new {item : α} (new : f item ∉ seen) :
    collect f limit (item :: items) seen kept =
      if (kept ++ [item]).length = limit then kept ++ [item]
      else collect f limit items (f item :: seen) (kept ++ [item]) := by
  simp only [collect, if_neg new]

omit [DecidableEq β] in
theorem nodup_snoc {item : α} (same : ∀ b, b ∈ seen ↔ b ∈ kept.map f) (distinct : (kept.map f).Nodup)
    (new : f item ∉ seen) : ((kept ++ [item]).map f).Nodup := by
  rw [List.map_append, List.map_singleton]
  refine List.nodup_append.mpr ⟨distinct, List.nodup_singleton _, fun a atKept b atItem equal => ?_⟩
  cases List.mem_singleton.mp atItem
  exact new ((same _).mpr (equal ▸ atKept))

theorem mem_snoc {a item : α} (member : a ∈ kept ++ [item]) : a ∈ kept ∨ a ∈ item :: items := by
  rcases List.mem_append.mp member with early | here
  · exact .inl early
  · cases List.mem_singleton.mp here
    exact .inr List.mem_cons_self

omit [DecidableEq β] in
theorem seen_new {item : α} (same : ∀ b, b ∈ seen ↔ b ∈ kept.map f) (b : β) :
    b ∈ f item :: seen ↔ b ∈ (kept ++ [item]).map f := by
  rw [List.mem_cons, same, List.map_append, List.mem_append, List.map_singleton, List.mem_singleton]
  exact or_comm

section
variable (same : ∀ b, b ∈ seen ↔ b ∈ kept.map f) (distinct : (kept.map f).Nodup) (room : kept.length < limit)
include same distinct room

/-- What the loop keeps: what it starts with, all images different, and no more than the limit. -/
theorem collect_kept :
    kept <+: collect f limit items seen kept ∧ ((collect f limit items seen kept).map f).Nodup ∧
      (collect f limit items seen kept).length ≤ limit ∧
      ∀ a ∈ collect f limit items seen kept, a ∈ kept ∨ a ∈ items := by
  induction items generalizing seen kept with
  | nil => exact ⟨List.prefix_rfl, distinct, Nat.le_of_lt room, fun a member => .inl member⟩
  | cons item rest ih =>
    by_cases old : f item ∈ seen
    · rw [collect_old old room]
      obtain ⟨start, apart, short, origin⟩ := ih same distinct room
      exact ⟨start, apart, short, fun a member => (origin a member).imp_right (List.mem_cons_of_mem _)⟩
    · rw [collect_new old]
      have fresh := nodup_snoc same distinct old
      have longer : (kept ++ [item]).length = kept.length + 1 := by simp
      split
      · rename_i full
        exact ⟨List.prefix_append _ _, fresh, Nat.le_of_eq full, fun a => mem_snoc⟩
      · rename_i unfilled
        obtain ⟨start, apart, short, origin⟩ := ih (seen_new same) fresh (by omega)
        refine ⟨(List.prefix_append _ _).trans start, apart, short, fun a member => ?_⟩
        rcases origin a member with early | late
        · exact mem_snoc early
        · exact .inr (List.mem_cons_of_mem _ late)

/-- Either the first items all have their images kept, or the limit was
reached among them. -/
theorem collect_covers :
    (∀ a ∈ first, f a ∈ (collect f limit (first ++ others) seen kept).map f) ∨
      ((collect f limit (first ++ others) seen kept).length = limit ∧
        ∀ a ∈ collect f limit (first ++ others) seen kept, a ∈ kept ∨ a ∈ first) := by
  induction first generalizing seen kept with
  | nil => exact .inl (by simp)
  | cons item rest ih =>
    rw [List.cons_append]
    by_cases old : f item ∈ seen
    · rw [collect_old old room]
      rcases ih same distinct room with all | ⟨full, origin⟩
      · refine .inl fun a member => ?_
        rcases List.mem_cons.mp member with rfl | later
        · have start : kept <+: collect f limit (rest ++ others) seen kept := (collect_kept same distinct room).1
          exact List.map_subset f start.subset ((same _).mp old)
        · exact all a later
      · exact .inr ⟨full, fun a member => (origin a member).imp_right (List.mem_cons_of_mem _)⟩
    · rw [collect_new old]
      have longer : (kept ++ [item]).length = kept.length + 1 := by simp
      split
      · rename_i full
        exact .inr ⟨full, fun a => mem_snoc⟩
      · rename_i unfilled
        have fresh := nodup_snoc same distinct old
        have held : (kept ++ [item]).length < limit := by omega
        rcases ih (seen_new same) fresh held with all | ⟨full, origin⟩
        · refine .inl fun a member => ?_
          rcases List.mem_cons.mp member with rfl | later
          · have start : kept ++ [a] <+: collect f limit (rest ++ others) (f a :: seen) (kept ++ [a]) :=
              (collect_kept (seen_new same) fresh held).1
            exact List.mem_map_of_mem (start.subset (List.mem_append_right _ List.mem_cons_self))
          · exact all a later
        · refine .inr ⟨full, fun a member => ?_⟩
          rcases origin a member with early | late
          · exact mem_snoc early
          · exact .inr (List.mem_cons_of_mem _ late)

end

theorem collect_distinct (f : α → β) (items : List α) (positive : 0 < limit) :
    ((collect f limit items [] []).map f).Nodup ∧ (collect f limit items [] []).length ≤ limit := by
  obtain ⟨_, apart, short, _⟩ := @collect_kept _ _ _ f limit items [] [] (by simp) List.nodup_nil positive
  exact ⟨apart, short⟩

/-- The loop keeps every image of the first items exactly when these have no
more images than the limit. -/
theorem covers_iff (f : α → β) (first others : List α) (positive : 0 < limit) :
    (∀ a ∈ first, f a ∈ (collect f limit (first ++ others) [] []).map f) ↔ (first.map f).dedup.length ≤ limit := by
  obtain ⟨apart, short⟩ := collect_distinct f (first ++ others) positive
  constructor
  · intro all
    have inside : (first.map f).dedup ⊆ (collect f limit (first ++ others) [] []).map f := by
      intro b member
      obtain ⟨a, inFirst, rfl⟩ := List.mem_map.mp (List.mem_dedup.mp member)
      exact all a inFirst
    have bound := ((List.nodup_dedup (first.map f)).subperm inside).length_le
    rw [List.length_map] at bound
    omega
  · intro few
    rcases @collect_covers _ _ _ f limit first others [] [] (by simp) List.nodup_nil positive with
      all | ⟨full, origin⟩
    · exact all
    · have inside : (collect f limit (first ++ others) [] []).map f ⊆ (first.map f).dedup := by
        intro b member
        obtain ⟨a, inKept, rfl⟩ := List.mem_map.mp member
        rcases origin a inKept with none_ | inFirst
        · cases none_
        · exact List.mem_dedup.mpr (List.mem_map_of_mem inFirst)
      have whole := (apart.subperm inside).perm_of_length_le (by rw [List.length_map, full]; exact few)
      intro a member
      exact whole.mem_iff.mpr (List.mem_dedup.mpr (List.mem_map_of_mem member))

/-- The loop keeps something if there is something. -/
theorem collect_ne_nil (f : α → β) (some_ : items ≠ []) (positive : 0 < limit) : collect f limit items [] [] ≠ [] := by
  cases items with
  | nil => exact absurd rfl some_
  | cons item rest =>
    rw [collect_new (by simp), List.nil_append]
    split
    · exact List.cons_ne_nil _ _
    · rename_i unfilled
      have held : [item].length < limit := by
        simp only [List.length_singleton] at unfilled ⊢
        omega
      have start : [item] <+: collect f limit rest [f item] [item] :=
        (collect_kept (by simp) (by simp) held).1
      intro nothing
      rw [nothing] at start
      cases List.prefix_nil.mp start

end FirstDistinct

end SacmRuntime
