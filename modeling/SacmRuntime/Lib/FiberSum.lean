import Mathlib.Algebra.BigOperators.Group.List.Basic

namespace SacmRuntime

/-- The sum of a quantity over the items that satisfy a condition. -/
def sumOver {α M : Type} [AddCommMonoid M] (f : α → M) (p : α → Bool) (items : List α) :
    M := ((items.filter p).map f).sum

section
variable {α κ M : Type} [AddCommMonoid M] {f : α → M} {p q : α → Bool} {items others : List α}

@[simp] theorem sumOver_nil : sumOver f p [] = 0 := rfl

theorem sumOver_cons (item : α) : sumOver f p (item :: items) = (if p item then f item else 0) + sumOver f p items := by
  cases chosen : p item <;> simp [sumOver, chosen]

theorem sumOver_congr (same : ∀ item ∈ items, p item = q item) : sumOver f p items = sumOver f q items := by
  unfold sumOver
  rw [List.filter_congr same]

/-- The order of the items does not matter. -/
theorem sumOver_perm (perm : items.Perm others) : sumOver f p items = sumOver f p others :=
  ((perm.filter p).map f).sum_eq

theorem sumOver_zero (zero : ∀ item ∈ items, p item = true → f item = 0) : sumOver f p items = 0 := by
  refine List.sum_eq_zero fun value member => ?_
  obtain ⟨item, chosen, rfl⟩ := List.mem_map.mp member
  exact zero item (List.mem_of_mem_filter chosen) (List.of_mem_filter chosen)

theorem sumOver_filter : sumOver f p (items.filter q) = sumOver f (fun item => p item && q item) items := by
  rw [sumOver, List.filter_filter, sumOver]

/-- Items of one kind and the others together are all of them. -/
theorem sumOver_split (f : α → M) (p q : α → Bool) (items : List α) :
    sumOver f p items = sumOver f (fun item => p item && q item) items + sumOver f
      (fun item => p item && !q item) items := by
  induction items with
  | nil => simp
  | cons item rest ih =>
    rw [sumOver_cons, sumOver_cons, sumOver_cons, ih]
    cases p item <;> cases q item <;> simp [add_assoc, add_left_comm]

/-- The items of each key, key by key, are the items that have one of the keys. -/
theorem sum_sumOver_key [DecidableEq κ] {keys : List κ} (distinct : keys.Nodup) (key : α → Option κ) (f : α → M)
    (p : α → Bool) (items : List α) :
    (keys.map fun k => sumOver f (fun item => p item && decide (key item = some k)) items).sum =
      sumOver f (fun item => p item && keys.any fun k => key item = some k) items := by
  induction items with
  | nil => simp
  | cons item rest ih =>
    have one : (keys.map fun k => if (p item && decide (key item = some k)) = true then f item else 0).sum =
        if (p item && keys.any fun k => key item = some k) = true then f item else 0 := by
      clear ih
      induction keys with
      | nil => simp
      | cons k others ih =>
        obtain ⟨fresh, distinct⟩ := List.nodup_cons.mp distinct
        rw [List.map_cons, List.sum_cons, ih distinct]
        by_cases here : key item = some k
        · simp [here, fresh]
        · simp [here]
    rw [sumOver_cons, ← ih, ← one, ← List.sum_map_add]
    simp only [sumOver_cons]

end

end SacmRuntime
