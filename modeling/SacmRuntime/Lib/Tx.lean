import Mathlib.Logic.Relation

namespace SacmRuntime

/-- A computation that may raise. The state reached so far survives the
raise, as the attributes of live objects do in the modelled language. -/
def Tx (σ ε α : Type) : Type := σ → Except ε α × σ

namespace Tx
variable {σ ε α β : Type}

instance : Monad (Tx σ ε) where
  pure a := fun s => (.ok a, s)
  bind m f := fun s =>
    match m s with
    | (.ok a, t) => f a t
    | (.error e, t) => (.error e, t)

def raise (e : ε) : Tx σ ε α := fun s => (.error e, s)

/-- Read a value off the state without touching it. -/
def read (g : σ → α) : Tx σ ε α := fun s => (.ok (g s), s)

/-- Replace the state. -/
def shift (f : σ → σ) : Tx σ ε Unit := fun s => (.ok (), f s)

/-- The value of an `Option`, or the given exception. -/
def expect (e : ε) : Option α → Tx σ ε α
  | some a => pure a
  | none => raise e

def ofExcept : Except ε α → Tx σ ε α
  | .ok a => pure a
  | .error e => raise e

/-- Run the body over the items in order; the first raise stops the loop. -/
def forEach (items : List α) (body : α → Tx σ ε Unit) : Tx σ ε Unit :=
  match items with
  | [] => pure ()
  | item :: rest => body item >>= fun _ => forEach rest body

/-- Run a method for its effect. -/
def void (m : Tx σ ε α) : Tx σ ε Unit := m >>= fun _ => pure ()

/-- `try m except: handler; raise` of the modelled language. -/
def onRaise (m : Tx σ ε α) (handler : Tx σ ε Unit) : Tx σ ε α := fun s =>
  match m s with
  | (.ok a, t) => (.ok a, t)
  | (.error e, t) => (.error e, (handler t).2)

/-- `try m except exc: handler exc`. -/
def catchRaise (m : Tx σ ε α) (handler : ε → Tx σ ε α) : Tx σ ε α := fun s =>
  match m s with
  | (.ok a, t) => (.ok a, t)
  | (.error e, t) => handler e t

/-- `try m finally: last`. -/
def andFinally (m : Tx σ ε α) (last : Tx σ ε Unit) : Tx σ ε α := fun s =>
  match m s with
  | (result, t) =>
    match last t with
    | (.ok _, u) => (result, u)
    | (.error e, u) => (.error e, u)

@[simp] theorem pure_run (a : α) (s : σ) : (pure a : Tx σ ε α) s = (.ok a, s) := rfl

@[simp] theorem raise_run (e : ε) (s : σ) : (raise e : Tx σ ε α) s = (.error e, s) := rfl

@[simp] theorem read_run (g : σ → α) (s : σ) : (read g : Tx σ ε α) s = (.ok (g s), s) := rfl

@[simp] theorem shift_run (f : σ → σ) (s : σ) : (shift f : Tx σ ε Unit) s = (.ok (), f s) := rfl

theorem bind_run (m : Tx σ ε α) (f : α → Tx σ ε β) (s : σ) :
    (m >>= f) s = match m s with
      | (.ok a, t) => f a t
      | (.error e, t) => (.error e, t) := rfl

variable {a : α} {b : β} {e : ε} {f : α → Tx σ ε β} {m : Tx σ ε α} {r : Except ε α} {s t : σ}

theorem bind_run_ok (f : α → Tx σ ε β) (run : m s = (.ok a, t)) : (m >>= f) s = f a t := by
  rw [bind_run, run]

theorem bind_run_error (f : α → Tx σ ε β) (run : m s = (.error e, t)) : (m >>= f) s = (.error e, t) := by
  rw [bind_run, run]

@[simp] theorem bind_pure_run (a : α) (f : α → Tx σ ε β) (s : σ) : (pure a >>= f) s = f a s := rfl

@[simp] theorem bind_expect_some (e : ε) (a : α) (f : α → Tx σ ε β) (s : σ) :
    (expect e (some a) >>= f) s = f a s := rfl

theorem bind_assoc_run {γ : Type} (m : Tx σ ε α) (f : α → Tx σ ε β) (g : β → Tx σ ε γ) (s : σ) :
    ((m >>= f) >>= g) s = (m >>= fun a => f a >>= g) s := by
  rw [bind_run, bind_run, bind_run]
  rcases m s with ⟨result, t⟩
  cases result <;> rfl

/-- A last `return` leaves the state where it was. -/
theorem bind_pure_state (m : Tx σ ε α) (f : α → β) (s : σ) : ((m >>= fun a => pure (f a)) s).2 = (m s).2 := by
  rw [bind_run]
  rcases m s with ⟨result, t⟩
  cases result <;> rfl

/-- A bind that returns went through a first part that returned. -/
theorem bind_ok (run : (m >>= f) s = (.ok b, t)) :
    ∃ a mid, m s = (.ok a, mid) ∧ f a mid = (.ok b, t) := by
  rw [bind_run] at run
  split at run
  · exact ⟨_, _, by assumption, run⟩
  · simp at run

theorem expect_ok {o : Option α} (run : (expect e o : Tx σ ε α) s = (.ok a, t)) :
    o = some a ∧ t = s := by
  cases o with
  | none => simp [expect] at run
  | some b =>
    simp only [expect, pure_run, Prod.mk.injEq, Except.ok.injEq] at run
    exact ⟨by rw [run.1], run.2.symm⟩

theorem ofExcept_ok (run : (ofExcept r : Tx σ ε α) s = (.ok a, t)) :
    r = .ok a ∧ t = s := by
  cases r with
  | error e => simp [ofExcept] at run
  | ok b =>
    simp only [ofExcept, pure_run, Prod.mk.injEq, Except.ok.injEq] at run
    exact ⟨by rw [run.1], run.2.symm⟩

/-- A bind that returns, when its first part only decides. -/
theorem bind_ofExcept_ok (run : (ofExcept r >>= f) s = (.ok b, t)) : ∃ a, r = .ok a ∧ f a s = (.ok b, t) := by
  cases r with
  | error e => cases run
  | ok a => exact ⟨a, rfl, run⟩

theorem bind_read_run {g : σ → α} (f : α → Tx σ ε β) (s : σ) : (read g >>= f) s = f (g s) s := rfl

theorem bind_shift_run {g : σ → σ} (f : Unit → Tx σ ε β) (s : σ) : (shift g >>= f) s = f () (g s) := rfl

/-- The computation never changes `g` of the state, not even when it raises. -/
def Leaves {γ : Type} (g : σ → γ) (m : Tx σ ε α) : Prop := ∀ s, g (m s).2 = g s

section Frames
variable {γ : Type} {g : σ → γ} {m : Tx σ ε α} {f : α → Tx σ ε β}

theorem leaves_pure (a : α) : Leaves g (pure a : Tx σ ε α) := fun _ => rfl

theorem leaves_raise (e : ε) : Leaves g (raise e : Tx σ ε α) := fun _ => rfl

theorem Leaves.bind (first : Leaves g m) (rest : ∀ a, Leaves g (f a)) : Leaves g (m >>= f) := by
  intro s
  rw [bind_run]
  rcases run : m s with ⟨result, t⟩
  have same : g t = g s := by simpa [run] using first s
  cases result with
  | ok a => exact (rest a t).trans same
  | error e => exact same

theorem Leaves.after {s t : σ} {result : Except ε α} (leaves : Leaves g m) (ran : m s = (result, t)) : g t = g s := by
  have same := leaves s
  rwa [ran] at same

theorem leaves_read {h : σ → α} (rest : ∀ a, Leaves g (f a)) : Leaves g (read h >>= f) :=
  fun s => rest (h s) s

theorem leaves_expect {e : ε} {o : Option α} : Leaves g (expect e o : Tx σ ε α) := by
  intro s
  cases o <;> rfl

theorem leaves_ofExcept {r : Except ε α} : Leaves g (ofExcept r : Tx σ ε α) := by
  intro s
  cases r <;> rfl

theorem leaves_ite {c : Prop} [Decidable c] {m n : Tx σ ε α} (yes : Leaves g m) (no : Leaves g n) :
    Leaves g (if c then m else n) := by
  split
  · exact yes
  · exact no

end Frames

/-- What every round of a loop keeps, the loop keeps. -/
theorem forEach_keeps {I : σ → Prop} {items : List α} {body : α → Tx σ ε Unit}
    (each : ∀ item ∈ items, ∀ s, I s → I (body item s).2) (start : I s) : I (forEach items body s).2 := by
  induction items generalizing s with
  | nil => exact start
  | cons item rest ih =>
    have first := each item (by simp) s start
    unfold forEach
    rw [bind_run]
    rcases run : body item s with ⟨result, t⟩
    rw [run] at first
    cases result with
    | ok _ => exact ih (fun other member => each other (by simp [member])) first
    | error e => exact first

/-- How a computation ends: what holds if it raised, and what if it returned. -/
abbrev Yields (raised : ε → σ → Prop) (returned : α → σ → Prop) : Except ε α × σ → Prop
  | (.error e, t) => raised e t
  | (.ok a, t) => returned a t

section Outcomes
variable {P : Except ε β × σ → Prop} {f : α → Tx σ ε β} {s : σ}

variable {e : ε} {m : Tx σ ε α} {o : Option α} {r : Except ε α}

/-- To show something of the outcome of a bind whose first part only
decides, show it of the raise and of the rest. -/
theorem outcome_ofExcept_cases (raised : ∀ e, r = .error e → P (.error e, s)) (rest : ∀ a, r = .ok a → P (f a s)) :
    P ((ofExcept r >>= f) s) := by
  cases r with
  | error e => exact raised e rfl
  | ok a => exact rest a rfl

theorem outcome_ofExcept (raised : ∀ e, P (.error e, s)) (rest : ∀ a, r = .ok a → P (f a s)) :
    P ((ofExcept r >>= f) s) :=
  outcome_ofExcept_cases (fun e _ => raised e) rest

theorem outcome_expect_cases (raised : o = none → P (.error e, s)) (rest : ∀ a, o = some a → P (f a s)) :
    P ((expect e o >>= f) s) := by
  cases o with
  | none => exact raised rfl
  | some a => exact rest a rfl

theorem outcome_expect (raised : P (.error e, s)) (rest : ∀ a, o = some a → P (f a s)) :
    P ((expect e o >>= f) s) :=
  outcome_expect_cases (fun _ => raised) rest

theorem outcome_bind (raised : ∀ e t, m s = (.error e, t) → P (.error e, t))
    (rest : ∀ a t, m s = (.ok a, t) → P (f a t)) : P ((m >>= f) s) := by
  rw [bind_run]
  rcases run : m s with ⟨result, t⟩
  cases result with
  | ok a => exact rest a t run
  | error e => exact raised e t run

theorem Yields.bind {A : ε → σ → Prop} {B : α → σ → Prop} (ends : Yields A B (m s))
    (raised : ∀ e t, A e t → P (.error e, t)) (rest : ∀ a t, B a t → P (f a t)) : P ((m >>= f) s) :=
  outcome_bind (fun e t run => raised e t (by rwa [run] at ends)) fun a t run => rest a t (by rwa [run] at ends)

theorem Yields.cases {A : ε → σ → Prop} {B : α → σ → Prop} (ends : Yields A B (m s)) :
    (∃ e t, m s = (.error e, t) ∧ A e t) ∨ ∃ a t, m s = (.ok a, t) ∧ B a t := by
  revert ends
  rcases m s with ⟨e | a, t⟩ <;> intro ends
  · exact .inl ⟨e, t, rfl, ends⟩
  · exact .inr ⟨a, t, rfl, ends⟩

/-- The last call of a method is one whose result is returned as it is. -/
theorem outcome_last {P : Except ε α × σ → Prop} (rest : P ((m >>= pure) s)) : P (m s) := by
  have same : (m >>= pure) s = m s := by
    rw [bind_run]
    rcases m s with ⟨result, t⟩
    cases result <;> rfl
  rwa [same] at rest

theorem outcome_read {g : σ → α} (rest : P (f (g s) s)) : P ((read g >>= f) s) := rest

theorem outcome_ite {c : Prop} [Decidable c] {m n : Tx σ ε β} (yes : c → P (m s)) (no : ¬c → P (n s)) :
    P ((if c then m else n) s) := by
  split
  · exact yes (by assumption)
  · exact no (by assumption)

end Outcomes

/-- Started in `s`, the computation moves the state only along `A`, whether
it returns or raises. -/
def MovesFrom (A : σ → σ → Prop) (m : Tx σ ε α) (s : σ) : Prop :=
  Relation.ReflTransGen A s (m s).2

/-- The computation moves every state only along `A`. -/
def Moves (A : σ → σ → Prop) (m : Tx σ ε α) : Prop := ∀ s, MovesFrom A m s

section Rules
variable {A : σ → σ → Prop} {m : Tx σ ε α} {f : α → Tx σ ε β} {s : σ}

theorem movesFrom_pure (a : α) : MovesFrom A (pure a : Tx σ ε α) s := .refl

theorem movesFrom_raise (e : ε) : MovesFrom A (raise e : Tx σ ε α) s := .refl

theorem movesFrom_shift {g : σ → σ} (step : A s (g s)) : MovesFrom A (shift g : Tx σ ε Unit) s :=
  .single step

theorem MovesFrom.bind (first : MovesFrom A m s)
    (rest : ∀ a, (m s).1 = .ok a → MovesFrom A (f a) (m s).2) : MovesFrom A (m >>= f) s := by
  unfold MovesFrom at *
  rw [bind_run]
  rcases run : m s with ⟨result, t⟩
  rw [run] at first rest
  cases result with
  | ok a => exact first.trans (rest a rfl)
  | error e => exact first

theorem MovesFrom.void (moves : MovesFrom A m s) : MovesFrom A (Tx.void m) s :=
  moves.bind fun _ _ => movesFrom_pure _

theorem movesFrom_read {g : σ → α} (rest : MovesFrom A (f (g s)) s) :
    MovesFrom A ((read g : Tx σ ε α) >>= f) s := rest

theorem movesFrom_expect {e : ε} {o : Option α} (rest : ∀ a, o = some a → MovesFrom A (f a) s) :
    MovesFrom A ((expect e o : Tx σ ε α) >>= f) s := by
  cases o with
  | none => exact .refl
  | some a => exact rest a rfl

theorem movesFrom_ofExcept {r : Except ε α} (rest : ∀ a, r = .ok a → MovesFrom A (f a) s) :
    MovesFrom A ((ofExcept r : Tx σ ε α) >>= f) s := by
  cases r with
  | error e => exact .refl
  | ok a => exact rest a rfl

theorem moves_expect {e : ε} {o : Option α} : Moves A (expect e o : Tx σ ε α) := by
  intro s
  cases o <;> exact .refl

theorem moves_ofExcept {r : Except ε α} : Moves A (ofExcept r : Tx σ ε α) := by
  intro s
  cases r <;> exact .refl

theorem movesFrom_ite {c : Prop} [Decidable c] {m n : Tx σ ε α}
    (yes : c → MovesFrom A m s) (no : ¬c → MovesFrom A n s) : MovesFrom A (if c then m else n) s := by
  split
  · exact yes (by assumption)
  · exact no (by assumption)

theorem movesFrom_guard {c : Prop} [Decidable c] {e : ε} {n : Tx σ ε α} (no : ¬c → MovesFrom A n s) :
    MovesFrom A (if c then raise e else n) s :=
  movesFrom_ite (fun _ => .refl) no

theorem Moves.bind (first : Moves A m) (rest : ∀ a, Moves A (f a)) : Moves A (m >>= f) :=
  fun s => (first s).bind fun a _ => rest a _

/-- A first part about which nothing need be remembered. -/
theorem Moves.then (first : Moves A m) (rest : ∀ a t, MovesFrom A (f a) t) : MovesFrom A (m >>= f) s :=
  (first s).bind fun a _ => rest a _

theorem moves_ite {c : Prop} [Decidable c] {m n : Tx σ ε α} (yes : Moves A m) (no : Moves A n) :
    Moves A (if c then m else n) := by
  split
  · exact yes
  · exact no

/-- Steps that are steps of a larger relation. -/
theorem Moves.mono {B : σ → σ → Prop} (moves : Moves A m) (within : ∀ s t, A s t → B s t) : Moves B m :=
  fun s => Relation.ReflTransGen.mono within _ _ (moves s)

theorem moves_forEach {items : List α} {body : α → Tx σ ε Unit}
    (each : ∀ item ∈ items, Moves A (body item)) : Moves A (forEach items body) := by
  induction items with
  | nil => exact fun _ => .refl
  | cons item rest ih =>
    exact (each item (by simp)).bind fun _ => ih fun other member => each other (by simp [member])

theorem MovesFrom.onRaise {handler : Tx σ ε Unit} (first : MovesFrom A m s)
    (last : Moves A handler) : MovesFrom A (onRaise m handler) s := by
  unfold MovesFrom Tx.onRaise at *
  rcases run : m s with ⟨result, t⟩
  rw [run] at first
  cases result with
  | ok a => exact first
  | error e => exact first.trans (last t)

/-- What every step of `A` keeps, the computation keeps. -/
theorem MovesFrom.keeps {I : σ → Prop} (path : MovesFrom A m s)
    (step : ∀ s t, A s t → I s → I t) (start : I s) : I (m s).2 := by
  unfold MovesFrom at path
  generalize (m s).2 = t at path
  induction path with
  | refl => exact start
  | tail _ last ih => exact step _ _ last ih

end Rules

end Tx

end SacmRuntime
