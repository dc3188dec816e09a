import Mathlib.Data.List.Basic

namespace SacmRuntime

/-- How a pass through the body of a loop ends: the loop goes on, or it breaks. -/
inductive Pass (σ : Type) where
  | next (state : σ)
  | stop (state : σ)

def Pass.state {σ : Type} : Pass σ → σ
  | .next s => s
  | .stop s => s

namespace Loop
variable {σ α : Type} {body : α → σ → Pass σ} {items : List α}

/-- `for item in items`, where the body may break. -/
def run (body : α → σ → Pass σ) : List α → σ → σ
  | [], s => s
  | item :: rest, s =>
    match body item s with
    | .next t => run body rest t
    | .stop t => t

variable {R : σ → σ → Prop} {item : α} {s t : σ}

theorem run_next (passed : body item s = .next t) :
    run body (item :: items) s = run body items t := by
  simp only [run, passed]

theorem run_stop (passed : body item s = .stop t) : run body (item :: items) s = t := by
  simp only [run, passed]

/-- What every pass keeps, the loop keeps. -/
theorem keeps {P : σ → Prop} (pass : ∀ item ∈ items, ∀ s, P s → P (body item s).state) (start : P s) :
    P (run body items s) := by
  induction items generalizing s with
  | nil => exact start
  | cons item rest ih =>
    have first := pass item List.mem_cons_self s start
    cases passed : body item s with
    | next t =>
      rw [run_next passed]
      rw [passed] at first
      exact ih (fun other member => pass other (List.mem_cons_of_mem _ member)) first
    | stop t =>
      rw [run_stop passed]
      rw [passed] at first
      exact first

/-- What every pass does to the state, the loop does. -/
theorem moves (refl : ∀ s, R s s) (trans : ∀ s t u, R s t → R t u → R s u)
    (pass : ∀ item ∈ items, ∀ s, R s (body item s).state) (s : σ) : R s (run body items s) :=
  keeps (P := R s) (fun item member t moved => trans s t _ moved (pass item member t)) (refl s)

/-- A loop that ends well, which it does not where it breaks, has passed every item. -/
theorem passes {W : σ → Prop} (refl : ∀ s, R s s) (trans : ∀ s t u, R s t → R t u → R s u)
    (pass : ∀ item ∈ items, ∀ s, R s (body item s).state)
    (broken : ∀ item ∈ items, ∀ s t, body item s = .stop t → ¬W t) (well : W (run body items s))
    (member : item ∈ items) :
    ∃ t u, R s t ∧ body item t = .next u ∧ R u (run body items s) := by
  induction items generalizing s with
  | nil => cases member
  | cons first rest ih =>
    have passRest : ∀ item ∈ rest, ∀ s, R s (body item s).state :=
      fun other member => pass other (List.mem_cons_of_mem _ member)
    cases passed : body first s with
    | stop t =>
      rw [run_stop passed] at well
      exact absurd well (broken first List.mem_cons_self s t passed)
    | next t =>
      rw [run_next passed] at well ⊢
      rcases List.mem_cons.mp member with rfl | later
      · exact ⟨s, t, refl s, passed, moves refl trans passRest t⟩
      · have here := pass first List.mem_cons_self s
        rw [passed] at here
        obtain ⟨u, v, before, passed, after⟩ :=
          ih passRest (fun other member => broken other (List.mem_cons_of_mem _ member)) well later
        exact ⟨u, v, trans s t u here before, passed, after⟩

end Loop

end SacmRuntime
