import Mathlib.Data.List.Infix

namespace SacmRuntime

variable {α : Type}

/-- The second text is the first with some pieces, one beside the other,
exchanged as `swap` allows. -/
inductive Replacement (swap : List α → List α → Prop) : List α → List α → Prop
  | nil : Replacement swap [] []
  | keep {old new : List α} (a : α) : Replacement swap old new → Replacement swap (a :: old) (a :: new)
  | swap {piece mark old new : List α} :
      swap piece mark → Replacement swap old new → Replacement swap (piece ++ old) (mark ++ new)

/-- Neither text holds the other or begins with an end of the other. -/
structure Apart (mark text : List α) : Prop where
  noInfix : ¬text <:+: mark
  noMark : ¬mark <:+: text
  noStart : ∀ part, part ≠ [] → part <:+ mark → ¬part <+: text
  noEnd : ∀ part, part ≠ [] → part <+: mark → ¬part <:+ text

namespace Replacement
variable {swap : List α → List α → Prop} {old new before after : List α}

theorem append {old' new' : List α} (first : Replacement swap old new) (second : Replacement swap old' new') :
    Replacement swap (old ++ old') (new ++ new') := by
  induction first with
  | nil => exact second
  | keep a _ ih => exact .keep a ih
  | swap allowed _ ih =>
    rw [List.append_assoc, List.append_assoc]
    exact .swap allowed ih

/-- A cut of the new text is a cut of the old text, or lies inside a new piece. -/
theorem cut (replacement : Replacement swap old new) (split : new = before ++ after) :
    (∃ first second, old = first ++ second ∧ Replacement swap first before ∧ Replacement swap second after) ∨
      ∃ first piece second left right head tail, old = first ++ piece ++ second ∧ swap piece (left ++ right) ∧
        left ≠ [] ∧ right ≠ [] ∧ before = head ++ left ∧ after = right ++ tail ∧
        Replacement swap first head ∧ Replacement swap second tail := by
  induction replacement generalizing before with
  | nil =>
    obtain ⟨rfl, rfl⟩ := List.append_eq_nil_iff.mp split.symm
    exact .inl ⟨[], [], rfl, .nil, .nil⟩
  | @keep old new a rest ih =>
    cases before with
    | nil =>
      cases split
      exact .inl ⟨[], _, rfl, .nil, rest.keep a⟩
    | cons b before =>
      obtain ⟨rfl, onward⟩ := List.cons_eq_cons.mp split
      rcases ih onward with ⟨first, second, rfl, toBefore, toAfter⟩ |
        ⟨first, piece, second, left, right, head, tail, rfl, allowed, filled, further, rfl, same, toHead, toTail⟩
      · exact .inl ⟨a :: first, second, rfl, toBefore.keep a, toAfter⟩
      · exact .inr ⟨a :: first, piece, second, left, right, a :: head, tail, rfl, allowed, filled, further, rfl, same,
          toHead.keep a, toTail⟩
  | @swap piece mark old new allowed rest ih =>
    rcases List.append_eq_append_iff.mp split with ⟨middle, rfl, onward⟩ | ⟨middle, rfl, rfl⟩
    · rcases ih onward with ⟨first, second, rfl, toMiddle, toAfter⟩ |
        ⟨first, inner, second, left, right, head, tail, rfl, inside, filled, further, rfl, same, toHead, toTail⟩
      · exact .inl ⟨piece ++ first, second, by simp, toMiddle.swap allowed, toAfter⟩
      · exact .inr ⟨piece ++ first, inner, second, left, right, mark ++ head, tail, by simp, inside, filled,
          further, by simp,
          same, toHead.swap allowed, toTail⟩
    · cases before with
      | nil => exact .inl ⟨[], _, rfl, .nil, rest.swap allowed⟩
      | cons b before =>
        cases middle with
        | nil =>
          rw [List.append_nil] at allowed
          refine .inl ⟨piece, old, rfl, ?_, rest⟩
          simpa using Replacement.nil.swap allowed
        | cons c middle =>
          exact .inr ⟨[], piece, old, b :: before, c :: middle, [], new, rfl, allowed, by simp, by simp, rfl, rfl, .nil,
            rest⟩

theorem subset {kept : List α} (replacement : Replacement swap old new)
    (marks : ∀ piece mark, swap piece mark → mark ⊆ kept)
    (within : old ⊆ kept) : new ⊆ kept := by
  induction replacement with
  | nil => exact List.nil_subset _
  | keep a _ ih =>
    obtain ⟨first, rest⟩ := List.cons_subset.mp within
    exact List.cons_subset.mpr ⟨first, ih rest⟩
  | swap allowed _ ih => exact List.append_subset.mpr ⟨marks _ _ allowed, ih (List.append_subset.mp within).2⟩

end Replacement

end SacmRuntime
