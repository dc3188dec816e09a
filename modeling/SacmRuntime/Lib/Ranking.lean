import Mathlib.Data.List.Sort

namespace SacmRuntime

namespace Ranking
variable {α κ : Type} [LinearOrder κ] {key : α → κ} {items : List α} {a : α} {k : Nat}

/-- The items in the order of their keys. -/
def ranked (key : α → κ) (items : List α) : List α := items.insertionSort fun a b => key a ≤ key b

/-- How many items come before one. -/
def ahead (key : α → κ) (items : List α) (a : α) : Nat := items.countP fun b => key b < key a

theorem ranked_perm (items : List α) : (ranked key items).Perm items := List.perm_insertionSort _ _

theorem ranked_strict (distinct : (items.map key).Nodup) :
    (ranked key items).Pairwise fun a b => key a < key b := by
  have sorted : (ranked key items).Pairwise fun a b => key a ≤ key b := List.pairwise_insertionSort _ _
  have apart : ((ranked key items).map key).Nodup := ((ranked_perm items).map key).nodup_iff.mpr distinct
  have different : (ranked key items).Pairwise fun a b => key a ≠ key b := List.pairwise_map.mp apart
  exact sorted.imp₂ (fun a b least differ => lt_of_le_of_ne least differ) different

/-- In a strictly ascending list the first `k` items are those with fewer
than `k` items ahead of them. -/
theorem mem_take_iff (ascending : items.Pairwise fun a b => key a < key b) :
    a ∈ items.take k ↔ a ∈ items ∧ ahead key items a < k := by
  induction items generalizing k with
  | nil => simp
  | cons first rest ih =>
    obtain ⟨below, ascending⟩ := List.pairwise_cons.mp ascending
    cases k with
    | zero => simp
    | succ k =>
      rw [List.take_succ_cons, List.mem_cons, List.mem_cons, ih ascending]
      unfold ahead
      rw [List.countP_cons]
      constructor
      · rintro (same | ⟨member, few⟩)
        · subst same
          have none_ahead : rest.countP (fun b => key b < key a) = 0 := by
            refine List.countP_eq_zero.mpr fun b member => ?_
            simpa using le_of_lt (below b member)
          refine ⟨.inl rfl, ?_⟩
          rw [none_ahead]
          simp
        · have one : key first < key a := below a member
          refine ⟨.inr member, ?_⟩
          simp only [one, decide_true, if_true]
          omega
      · rintro ⟨same | member, few⟩
        · exact .inl same
        · have one : key first < key a := below a member
          simp only [one, decide_true, if_true] at few
          refine .inr ⟨member, ?_⟩
          omega

/-- The first `k` items of a ranking, told without the ranking. -/
theorem mem_first_iff (distinct : (items.map key).Nodup) :
    a ∈ (ranked key items).take k ↔ a ∈ items ∧ ahead key items a < k := by
  rw [mem_take_iff (ranked_strict distinct), (ranked_perm items).mem_iff]
  unfold ahead
  rw [(ranked_perm items).countP_eq]

end Ranking

end SacmRuntime
