import Mathlib.Data.List.Dedup
import Mathlib.Data.List.Induction
import Mathlib.Data.List.Nodup
import Mathlib.Order.Lattice

namespace SacmRuntime

namespace LatestPer
variable {α γ κ : Type} [LinearOrder κ] {group : α → γ} {stamp : α → κ} {items : List α}

/-- One item of each group, which no item of the group is later than. -/
structure Latest (group : α → γ) (stamp : α → κ) (items latest : List α) : Prop where
  distinct : (latest.map group).Nodup
  newest : ∀ a ∈ latest, a ∈ items ∧ ∀ b ∈ items, group b = group a → stamp b ≤ stamp a
  covers : ∀ b ∈ items, ∃ a ∈ latest, group a = group b

theorem Latest.nil : Latest group stamp [] ([] : List α) := by
  refine ⟨List.nodup_nil, fun a member => ?_, fun b member => ?_⟩
  · cases member
  · cases member

theorem Latest.subset {others first second : List α} (same : items.Perm others) (distinct : (items.map stamp).Nodup)
    (here : Latest group stamp items first) (there : Latest group stamp others second) : first ⊆ second := by
  intro a member
  obtain ⟨inside, above⟩ := here.newest a member
  obtain ⟨b, kept, alike⟩ := there.covers a (same.mem_iff.mp inside)
  obtain ⟨beside, topmost⟩ := there.newest b kept
  have equal : stamp a = stamp b :=
    le_antisymm (topmost a (same.mem_iff.mp inside) alike.symm) (above b (same.mem_iff.mpr beside) alike)
  rw [List.inj_on_of_nodup_map distinct inside (same.mem_iff.mpr beside) equal]
  exact kept

variable [DecidableEq γ]

/-- The item takes the place of an earlier one of its group, or the end. -/
def keep (group : α → γ) (stamp : α → κ) (latest : List α) (item : α) : List α :=
  match latest.find? fun known => group known = group item with
  | none => latest ++ [item]
  | some current =>
    if stamp current < stamp item then latest.map fun known => if group known = group item then item else known
    else latest

/-- The latest item of each group. -/
def latestPer (group : α → γ) (stamp : α → κ) (items : List α) : List α := items.foldl (keep group stamp) []

theorem Latest.keep {latest : List α} (known : Latest group stamp items latest) (item : α) :
    Latest group stamp (items ++ [item]) (keep group stamp latest item) := by
  unfold LatestPer.keep
  split
  · rename_i absent
    have other : ∀ a ∈ latest, group a ≠ group item := fun a member => by
      simpa using List.find?_eq_none.mp absent a member
    refine ⟨?_, fun a member => ?_, fun b member => ?_⟩
    · rw [List.map_append, List.map_singleton]
      refine known.distinct.append (List.nodup_singleton _) fun name old new => ?_
      obtain ⟨a, member, rfl⟩ := List.mem_map.mp old
      exact other a member (List.mem_singleton.mp new)
    · rcases List.mem_append.mp member with old | new
      · obtain ⟨within, above⟩ := known.newest a old
        refine ⟨List.mem_append_left _ within, fun b inside same => ?_⟩
        rcases List.mem_append.mp inside with early | late
        · exact above b early same
        · rw [List.mem_singleton.mp late] at same
          exact absurd same.symm (other a old)
      · rw [List.mem_singleton.mp new]
        refine ⟨List.mem_append_right _ (List.mem_singleton.mpr rfl), fun b inside same => ?_⟩
        rcases List.mem_append.mp inside with early | late
        · obtain ⟨c, kept, alike⟩ := known.covers b early
          exact absurd (alike.trans same) (other c kept)
        · rw [List.mem_singleton.mp late]
    · rcases List.mem_append.mp member with early | late
      · obtain ⟨a, kept, same⟩ := known.covers b early
        exact ⟨a, List.mem_append_left _ kept, same⟩
      · exact ⟨b, List.mem_append_right _ late, rfl⟩
  · rename_i current found
    have same : group current = group item := by simpa using List.find?_some found
    have kept : current ∈ latest := List.mem_of_find?_eq_some found
    split
    · rename_i earlier
      have groups : (latest.map fun known => if group known = group item then item else known).map group =
          latest.map group := by
        rw [List.map_map]
        refine List.map_congr_left fun a _ => ?_
        change group (if group a = group item then item else a) = group a
        split
        · rename_i alike
          exact alike.symm
        · rfl
      refine ⟨groups ▸ known.distinct, fun a member => ?_, fun b member => ?_⟩
      · obtain ⟨old, inside, rfl⟩ := List.mem_map.mp member
        split
        · refine ⟨List.mem_append_right _ (List.mem_singleton.mpr rfl), fun b within alike => ?_⟩
          rcases List.mem_append.mp within with early | late
          · exact le_trans ((known.newest current kept).2 b early (alike.trans same.symm)) (le_of_lt earlier)
          · rw [List.mem_singleton.mp late]
        · rename_i differs
          obtain ⟨within, above⟩ := known.newest old inside
          refine ⟨List.mem_append_left _ within, fun b place alike => ?_⟩
          rcases List.mem_append.mp place with early | late
          · exact above b early alike
          · rw [List.mem_singleton.mp late] at alike
            exact absurd alike.symm differs
      · have there : group b ∈ latest.map group := by
          rcases List.mem_append.mp member with early | late
          · obtain ⟨a, inside, alike⟩ := known.covers b early
            exact List.mem_map.mpr ⟨a, inside, alike⟩
          · rw [List.mem_singleton.mp late, ← same]
            exact List.mem_map_of_mem kept
        rw [← groups] at there
        exact List.mem_map.mp there
    · rename_i later
      refine ⟨known.distinct, fun a member => ?_, fun b member => ?_⟩
      · obtain ⟨within, above⟩ := known.newest a member
        refine ⟨List.mem_append_left _ within, fun b inside alike => ?_⟩
        rcases List.mem_append.mp inside with early | late
        · exact above b early alike
        · rw [List.mem_singleton.mp late] at alike ⊢
          have bound := above current (known.newest current kept).1 (same.trans alike)
          exact le_trans (not_lt.mp later) bound
      · rcases List.mem_append.mp member with early | late
        · exact known.covers b early
        · exact ⟨current, kept, by rw [List.mem_singleton.mp late, same]⟩

theorem latest_latestPer (group : α → γ) (stamp : α → κ) (items : List α) :
    Latest group stamp items (latestPer group stamp items) := by
  unfold latestPer
  induction items using List.reverseRecOn with
  | nil => exact .nil
  | append_singleton items item ih =>
    rw [List.foldl_append]
    exact ih.keep item

/-- There are as many latest items as groups. -/
theorem latestPer_length (group : α → γ) (stamp : α → κ) (items : List α) :
    (latestPer group stamp items).length = (items.map group).dedup.length := by
  have latest := latest_latestPer group stamp items
  have same : ((latestPer group stamp items).map group).Perm (items.map group).dedup := by
    refine (List.perm_ext_iff_of_nodup latest.distinct (List.nodup_dedup _)).mpr fun name => ?_
    rw [List.mem_dedup]
    constructor
    · rintro member
      obtain ⟨a, kept, rfl⟩ := List.mem_map.mp member
      exact List.mem_map_of_mem (latest.newest a kept).1
    · rintro member
      obtain ⟨b, inside, rfl⟩ := List.mem_map.mp member
      obtain ⟨a, kept, alike⟩ := latest.covers b inside
      exact List.mem_map.mpr ⟨a, kept, alike⟩
  rw [← same.length_eq, List.length_map]

/-- With distinct stamps, what is latest does not depend on the order. -/
theorem latestPer_perm {others : List α} (same : items.Perm others) (distinct : (items.map stamp).Nodup) :
    (latestPer group stamp items).Perm (latestPer group stamp others) := by
  have mine := latest_latestPer group stamp items
  have theirs := latest_latestPer group stamp others
  have also : (others.map stamp).Nodup := (same.map stamp).nodup_iff.mp distinct
  refine (List.perm_ext_iff_of_nodup mine.distinct.of_map theirs.distinct.of_map).mpr fun a => ?_
  exact ⟨fun member => mine.subset same distinct theirs member, fun member => theirs.subset same.symm also mine member⟩

end LatestPer

end SacmRuntime
