import Mathlib.Data.List.Pairwise

namespace SacmRuntime

/-- Calls that work on a shared state one statement at a time: how a call
enters, what its next statement does and what is left of the call after it,
and whatever else moves the shared state. -/
structure Calls (σ τ : Type) where
  begins : σ → σ → τ → Prop
  statement : σ → τ → σ × Option τ
  around : σ → σ → Prop

variable {σ τ : Type}

/-- What an interleaving of calls leads to: the shared state and the calls
that are under way. -/
inductive Interleaving (system : Calls σ τ) (first : σ) : σ → List τ → Prop
  | start : Interleaving system first first []
  | begins {s t : σ} {calls : List τ} {call : τ} :
      Interleaving system first s calls → system.begins s t call → Interleaving system first t (calls ++ [call])
  | statement {s : σ} {earlier later : List τ} {call : τ} :
      Interleaving system first s (earlier ++ call :: later) →
      Interleaving system first (system.statement s call).1
        (earlier ++ ((system.statement s call).2.toList ++ later))
  | around {s t : σ} {calls : List τ} :
      Interleaving system first s calls → system.around s t → Interleaving system first t calls

/-- Assertions that no call disturbs: one about the shared state, one about
each call under way, and one about any two of them. -/
structure Undisturbed (system : Calls σ τ) (inv : σ → Prop) (own : σ → τ → Prop) (apart : τ → τ → Prop) : Prop where
  symm {c d : τ} : apart c d → apart d c
  begins {s t : σ} {call : τ} : inv s → system.begins s t call →
    inv t ∧ own t call ∧ ∀ other, own s other → own t other ∧ apart other call
  statement {s : σ} {call : τ} : inv s → own s call →
    inv (system.statement s call).1 ∧
    (∀ rest, (system.statement s call).2 = some rest →
      own (system.statement s call).1 rest ∧ ∀ other, apart call other → apart rest other) ∧
    ∀ other, own s other → apart call other → own (system.statement s call).1 other
  around {s t : σ} : inv s → system.around s t → inv t ∧ ∀ other, own s other → own t other

/-- Assertions about all calls under way. -/
structure Asserted (inv : σ → Prop) (own : σ → τ → Prop) (apart : τ → τ → Prop) (s : σ) (calls : List τ) : Prop where
  inv : inv s
  own : ∀ call ∈ calls, own s call
  apart : calls.Pairwise apart

variable {system : Calls σ τ} {inv : σ → Prop} {own : σ → τ → Prop} {apart : τ → τ → Prop} {first s : σ}
  {calls : List τ}

/-- One statement of one call keeps what is asserted of all of them. -/
theorem Asserted.statement {earlier later : List τ} {call : τ} (undisturbed : Undisturbed system inv own apart)
    (asserted : Asserted inv own apart s (earlier ++ call :: later)) :
    Asserted inv own apart (system.statement s call).1 (earlier ++ ((system.statement s call).2.toList ++ later)) := by
  obtain ⟨before, rest, across⟩ := List.pairwise_append.mp asserted.apart
  obtain ⟨ahead, after⟩ := List.pairwise_cons.mp rest
  obtain ⟨kept, left, others⟩ := undisturbed.statement asserted.inv (asserted.own call (by simp))
  have behind : ∀ other ∈ earlier, apart call other := fun other member =>
    undisturbed.symm (across other member call (by simp))
  have ownEarlier : ∀ other ∈ earlier, own (system.statement s call).1 other := fun other member =>
    others other (asserted.own other (by simp [member])) (behind other member)
  have ownLater : ∀ other ∈ later, own (system.statement s call).1 other := fun other member =>
    others other (asserted.own other (by simp [member])) (ahead other member)
  have acrossLater : ∀ a ∈ earlier, ∀ b ∈ later, apart a b := fun a inEarlier b inLater =>
    across a inEarlier b (by simp [inLater])
  cases remains : (system.statement s call).2 with
  | none =>
    refine ⟨kept, fun other member => ?_, List.pairwise_append.mpr ⟨before, after, acrossLater⟩⟩
    rcases List.mem_append.mp member with inEarlier | inLater
    · exact ownEarlier other inEarlier
    · exact ownLater other inLater
  | some next =>
    obtain ⟨ownNext, apartNext⟩ := left next remains
    refine ⟨kept, fun other member => ?_, List.pairwise_append.mpr ⟨before, List.pairwise_cons.mpr
      ⟨fun other inLater => apartNext other (ahead other inLater), after⟩, fun a inEarlier b member => ?_⟩⟩
    · rcases List.mem_append.mp member with inEarlier | onward
      · exact ownEarlier other inEarlier
      · rcases List.mem_cons.mp onward with rfl | inLater
        · exact ownNext
        · exact ownLater other inLater
    · rcases List.mem_cons.mp member with rfl | inLater
      · exact undisturbed.symm (apartNext a (behind a inEarlier))
      · exact acrossLater a inEarlier b inLater

/-- Undisturbed assertions hold wherever any interleaving leads. -/
theorem Interleaving.asserted (path : Interleaving system first s calls)
    (undisturbed : Undisturbed system inv own apart) (atFirst : inv first) : Asserted inv own apart s calls := by
  induction path with
  | start => exact ⟨atFirst, fun _ member => absurd member List.not_mem_nil, List.Pairwise.nil⟩
  | @begins s t calls call _ enters ih =>
    obtain ⟨kept, ownCall, others⟩ := undisturbed.begins ih.inv enters
    refine ⟨kept, fun other member => ?_, List.pairwise_append.mpr ⟨ih.apart, List.pairwise_singleton _ _, ?_⟩⟩
    · rcases List.mem_append.mp member with old | new
      · exact (others other (ih.own other old)).1
      · cases List.mem_singleton.mp new
        exact ownCall
    · intro other old last new
      cases List.mem_singleton.mp new
      exact (others other (ih.own other old)).2
  | statement _ ih => exact ih.statement undisturbed
  | around _ moves ih =>
    obtain ⟨kept, others⟩ := undisturbed.around ih.inv moves
    exact ⟨kept, fun other member => others other (ih.own other member), ih.apart⟩

end SacmRuntime
