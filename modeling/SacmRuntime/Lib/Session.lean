import SacmRuntime.Lib.Tx

namespace SacmRuntime

/-- A unit of work over a store `δ`. `committed` is what survives a
rollback, `flushed` what queries see, `working` the objects as the program
holds them. The three supplies are the clock readings, generated identifiers
and secret tokens the environment will hand out. -/
structure Session (δ : Type) where
  committed : δ
  flushed : δ
  working : δ
  clock : Nat → Nat
  uuids : Nat → String
  tokens : Nat → String

/-- What the environment hands to one request. -/
structure Supply where
  clock : Nat → Nat
  uuids : Nat → String
  tokens : Nat → String

namespace Session
variable {δ ε α : Type}

/-- A fresh unit of work: all three views agree. -/
def start (d : δ) (supply : Supply) : Session δ :=
  ⟨d, d, d, supply.clock, supply.uuids, supply.tokens⟩

@[simp] theorem start_working (d : δ) (supply : Supply) : (start d supply).working = d := rfl

def flush : Tx (Session δ) ε Unit := Tx.shift fun s => { s with flushed := s.working }

def commit : Tx (Session δ) ε Unit :=
  Tx.shift fun s => { s with committed := s.working, flushed := s.working }

def rollback : Tx (Session δ) ε Unit :=
  Tx.shift fun s => { s with flushed := s.committed, working := s.committed }

/-- Read the objects as the program holds them. -/
def view (g : δ → α) : Tx (Session δ) ε α := Tx.read fun s => g s.working

/-- Change the objects the program holds; nothing is written out yet. -/
def modify (f : δ → δ) : Tx (Session δ) ε Unit := Tx.shift fun s => { s with working := f s.working }

def utcnow : Tx (Session δ) ε Nat := fun s =>
  (.ok (s.clock 0), { s with clock := fun n => s.clock (n + 1) })

def uuid4 : Tx (Session δ) ε String := fun s =>
  (.ok (s.uuids 0), { s with uuids := fun n => s.uuids (n + 1) })

def tokenUrlsafe : Tx (Session δ) ε String := fun s =>
  (.ok (s.tokens 0), { s with tokens := fun n => s.tokens (n + 1) })

/-- The session after it committed a store and read the clock a few times. -/
def commitAs (s : Session δ) (d : δ) (readings : Nat) : Session δ :=
  { s with committed := d, flushed := d, working := d, clock := fun n => s.clock (n + readings) }

/-- A method over a part of the store. What the other parts hold stays as it
is: the session must have nothing pending in them when the method commits. -/
def onPart {σ : Type} (get : δ → σ) (put : δ → σ → δ) (m : Tx (Session σ) ε α) : Tx (Session δ) ε α := fun s =>
  let (result, t) := m ⟨get s.committed, get s.flushed, get s.working, s.clock, s.uuids, s.tokens⟩
  (result, ⟨put s.committed t.committed, put s.flushed t.flushed, put s.working t.working, t.clock, t.uuids, t.tokens⟩)

section Runs
variable {β : Type} (s : Session δ)

@[simp] theorem bind_view (g : δ → α) (f : α → Tx (Session δ) ε β) : (view g >>= f) s = f (g s.working) s := rfl

@[simp] theorem bind_modify (g : δ → δ) (f : Unit → Tx (Session δ) ε β) :
    (modify g >>= f) s = f () { s with working := g s.working } := rfl

@[simp] theorem bind_flush (f : Unit → Tx (Session δ) ε β) :
    (flush >>= f) s = f () { s with flushed := s.working } := rfl

@[simp] theorem bind_commit (f : Unit → Tx (Session δ) ε β) :
    (commit >>= f) s = f () { s with committed := s.working, flushed := s.working } := rfl

@[simp] theorem bind_utcnow (f : Nat → Tx (Session δ) ε β) :
    (utcnow >>= f) s = f (s.clock 0) { s with clock := fun n => s.clock (n + 1) } := rfl

@[simp] theorem bind_uuid4 (f : String → Tx (Session δ) ε β) :
    (uuid4 >>= f) s = f (s.uuids 0) { s with uuids := fun n => s.uuids (n + 1) } := rfl

end Runs

/-- A property of the store that holds in all three views. -/
structure Everywhere (P : δ → Prop) (s : Session δ) : Prop where
  committed : P s.committed
  flushed : P s.flushed
  working : P s.working

/-- One move of a unit of work: a write allowed by `W`, a boundary of the
transaction, or a draw from the supplies. -/
inductive Step (W : Session δ → δ → Prop) : Session δ → Session δ → Prop
  | write {s d} : W s d → Step W s { s with working := d }
  | flush {s} : Step W s { s with flushed := s.working }
  | commit {s} : Step W s { s with committed := s.working, flushed := s.working }
  | rollback {s} : Step W s { s with flushed := s.committed, working := s.committed }
  | draw {s} (clock uuids tokens) : Step W s { s with clock := clock, uuids := uuids, tokens := tokens }

variable {W : Session δ → δ → Prop} {P : δ → Prop}

variable {d : δ} {s t : Session δ}

/-- Writes that a larger relation allows as well. -/
theorem Step.mono {V : Session δ → δ → Prop} (step : Step V s t) (within : ∀ s d, V s d → W s d) :
    Step W s t := by
  cases step with
  | write allowed => exact .write (within _ _ allowed)
  | flush => exact .flush
  | commit => exact .commit
  | rollback => exact .rollback
  | draw => exact .draw ..

theorem start_everywhere (supply : Supply) (holds : P d) : Everywhere P (start d supply) :=
  ⟨holds, holds, holds⟩

/-- A property kept by every allowed write is kept in all three views. -/
theorem Step.everywhere (step : Step W s t) (keeps : ∀ s d, W s d → P s.working → P d) (holds : Everywhere P s) :
    Everywhere P t := by
  cases step with
  | write allowed => exact ⟨holds.committed, holds.flushed, keeps _ _ allowed holds.working⟩
  | flush => exact ⟨holds.committed, holds.working, holds.working⟩
  | commit => exact ⟨holds.working, holds.working, holds.working⟩
  | rollback => exact ⟨holds.committed, holds.committed, holds.committed⟩
  | draw => exact ⟨holds.committed, holds.flushed, holds.working⟩

theorem moves_flush : Tx.Moves (Step W) (flush : Tx (Session δ) ε Unit) := fun _ => .single .flush

theorem moves_commit : Tx.Moves (Step W) (commit : Tx (Session δ) ε Unit) := fun _ => .single .commit

theorem moves_rollback : Tx.Moves (Step W) (rollback : Tx (Session δ) ε Unit) :=
  fun _ => .single .rollback

theorem moves_utcnow : Tx.Moves (Step W) (utcnow : Tx (Session δ) ε Nat) := fun _ => .single (.draw ..)

theorem moves_uuid4 : Tx.Moves (Step W) (uuid4 : Tx (Session δ) ε String) := fun _ => .single (.draw ..)

theorem moves_tokenUrlsafe : Tx.Moves (Step W) (tokenUrlsafe : Tx (Session δ) ε String) :=
  fun _ => .single (.draw ..)

theorem movesFrom_modify {f : δ → δ} (allowed : W s (f s.working)) :
    Tx.MovesFrom (Step W) (modify f : Tx (Session δ) ε Unit) s := .single (.write allowed)

/-- A method over a part keeps in all three views what it keeps of the part. -/
theorem onPart_everywhere {σ : Type} {get : δ → σ} {put : δ → σ → δ} {m : Tx (Session σ) ε α} {I : δ → Prop}
    {Q : σ → Prop} (keeps : ∀ s, Everywhere Q s → Everywhere Q (m s).2) (part : ∀ d, I d → Q (get d))
    (whole : ∀ d e, I d → Q e → I (put d e)) (holds : Everywhere I s) :
    Everywhere I (onPart get put m s).2 := by
  have kept := keeps ⟨get s.committed, get s.flushed, get s.working, s.clock, s.uuids, s.tokens⟩
    ⟨part _ holds.committed, part _ holds.flushed, part _ holds.working⟩
  exact ⟨whole _ _ holds.committed kept.committed, whole _ _ holds.flushed kept.flushed,
    whole _ _ holds.working kept.working⟩

theorem onPart_ok {σ : Type} {get : δ → σ} {put : δ → σ → δ} {m : Tx (Session σ) ε α} {a : α}
    (ran : onPart get put m s = (.ok a, t)) :
    ∃ u, m ⟨get s.committed, get s.flushed, get s.working, s.clock, s.uuids, s.tokens⟩ = (.ok a, u) := by
  unfold onPart at ran
  rcases run : m ⟨get s.committed, get s.flushed, get s.working, s.clock, s.uuids, s.tokens⟩ with ⟨result, u⟩
  rw [run] at ran
  cases ran
  exact ⟨u, rfl⟩

section Frames
variable {β γ : Type} {h : δ → γ} {f : α → Tx (Session δ) ε β}

/-- The computation never changes `h` of the objects the program holds. -/
abbrev Leaves (h : δ → γ) (m : Tx (Session δ) ε α) : Prop := Tx.Leaves (fun s => h s.working) m

theorem Leaves.after {m : Tx (Session δ) ε α} {s t : Session δ} {result : Except ε α} (leaves : Leaves h m)
    (ran : m s = (result, t)) : h t.working = h s.working :=
  Tx.Leaves.after (g := fun s => h s.working) leaves ran

theorem leaves_view {g : δ → α} (rest : ∀ a, Leaves h (f a)) : Leaves h (view g >>= f) := fun s => rest _ s

theorem leaves_flush : Leaves h (flush : Tx (Session δ) ε Unit) := fun _ => rfl

theorem leaves_commit : Leaves h (commit : Tx (Session δ) ε Unit) := fun _ => rfl

theorem leaves_utcnow : Leaves h (utcnow : Tx (Session δ) ε Nat) := fun _ => rfl

theorem leaves_uuid4 : Leaves h (uuid4 : Tx (Session δ) ε String) := fun _ => rfl

theorem leaves_modify {g : δ → δ} (same : ∀ d, h (g d) = h d) : Leaves h (modify g : Tx (Session δ) ε Unit) :=
  fun s => same s.working

end Frames

theorem outcome_tokenUrlsafe {β : Type} {P : Except ε β × Session δ → Prop} {f : String → Tx (Session δ) ε β}
    (rest : P (f (s.tokens 0) { s with tokens := fun n => s.tokens (n + 1) })) :
    P ((tokenUrlsafe >>= f) s) := rest

section Rules
variable {β : Type} {s : Session δ} {f : α → Tx (Session δ) ε β}

/-- Reading the working objects leaves the state alone. -/
theorem movesFrom_view {g : δ → α} (rest : Tx.MovesFrom (Step W) (f (g s.working)) s) :
    Tx.MovesFrom (Step W) (view g >>= f) s := rest

/-- After a draw only the supplies differ. -/
theorem movesFrom_utcnow {f : Nat → Tx (Session δ) ε β}
    (rest : ∀ now clock, Tx.MovesFrom (Step W) (f now) { s with clock := clock }) :
    Tx.MovesFrom (Step W) (utcnow >>= f) s :=
  (moves_utcnow s).bind fun _ _ => rest _ _

/-- A reading of the clock that matters. -/
theorem movesFrom_now {f : Nat → Tx (Session δ) ε β}
    (rest : Tx.MovesFrom (Step W) (f (s.clock 0)) { s with clock := fun n => s.clock (n + 1) }) :
    Tx.MovesFrom (Step W) (utcnow >>= f) s :=
  (moves_utcnow s).bind fun now read => by
    cases read
    exact rest

theorem movesFrom_uuid4 {f : String → Tx (Session δ) ε β}
    (rest : ∀ id uuids, Tx.MovesFrom (Step W) (f id) { s with uuids := uuids }) :
    Tx.MovesFrom (Step W) (uuid4 >>= f) s :=
  (moves_uuid4 s).bind fun _ _ => rest _ _

theorem movesFrom_flush {f : Unit → Tx (Session δ) ε β}
    (rest : Tx.MovesFrom (Step W) (f ()) { s with flushed := s.working }) :
    Tx.MovesFrom (Step W) (flush >>= f) s :=
  (moves_flush s).bind fun _ _ => rest

theorem movesFrom_commit {f : Unit → Tx (Session δ) ε β}
    (rest : Tx.MovesFrom (Step W) (f ()) { s with committed := s.working, flushed := s.working }) :
    Tx.MovesFrom (Step W) (commit >>= f) s :=
  (moves_commit s).bind fun _ _ => rest

/-- A write, then the rest from the changed objects. -/
theorem movesFrom_write {g : δ → δ} {f : Unit → Tx (Session δ) ε β} (allowed : W s (g s.working))
    (rest : Tx.MovesFrom (Step W) (f ()) { s with working := g s.working }) :
    Tx.MovesFrom (Step W) (modify g >>= f) s :=
  (movesFrom_modify allowed).bind fun _ _ => rest

end Rules

/-- Run one request in a fresh unit of work and close it: what was not
committed is lost. -/
def request (m : Tx (Session δ) ε α) (d : δ) (supply : Supply) : Except ε α × δ :=
  ((m (start d supply)).1, (m (start d supply)).2.committed)

theorem request_run {m : Tx (Session δ) ε α} {supply : Supply} {result : Except ε α} {t : Session δ}
    (ran : m (start d supply) = (result, t)) : request m d supply = (result, t.committed) := by
  unfold request
  rw [ran]

/-- A request that only makes allowed writes keeps what those writes keep. -/
theorem request_keeps {m : Tx (Session δ) ε α} {supply : Supply} (moves : Tx.MovesFrom (Step W) m (start d supply))
    (keeps : ∀ s d, W s d → P s.working → P d) (holds : P d) : P (request m d supply).2 :=
  (moves.keeps (fun _ _ step => step.everywhere keeps) (start_everywhere supply holds)).committed

end Session

/-- A run of a system: requests one after another, each meeting the given
condition on the store it finds. -/
inductive Path {δ ω : Type} (after : ω → δ → Supply → δ) (meets : δ → Supply → ω → Prop) : δ → δ → Prop
  | start {d : δ} : Path after meets d d
  | next {d e : δ} (before : Path after meets d e) (op : ω) (supply : Supply) (condition : meets e supply op) :
      Path after meets d (after op e supply)

namespace Path
variable {δ ω : Type} {after : ω → δ → Supply → δ} {meets : δ → Supply → ω → Prop} {P : δ → Prop} {d e : δ}

/-- What every request that meets the condition keeps, the whole run keeps. -/
theorem keeps (run : Path after meets d e)
    (each : ∀ d supply op, meets d supply op → P d → P (after op d supply)) (first : P d) : P e := by
  induction run with
  | start => exact first
  | next before op supply condition ih => exact each _ supply op condition ih

/-- One more request, whose store is known. -/
theorem step {f : δ} (before : Path after meets d e) (op : ω) (supply : Supply) (condition : meets e supply op)
    (effect : after op e supply = f) : Path after meets d f := by
  rw [← effect]
  exact .next before op supply condition

/-- The store a list of requests leads to. -/
def storeAfter (after : ω → δ → Supply → δ) (d : δ) (requests : List (ω × Supply)) : δ :=
  requests.foldl (fun d request => after request.1 d request.2) d

theorem storeAfter_append (d : δ) (first second : List (ω × Supply)) :
    storeAfter after d (first ++ second) = storeAfter after (storeAfter after d first) second := List.foldl_append

/-- Every request of the list meets the condition on the store it finds. -/
def Throughout (after : ω → δ → Supply → δ) (meets : δ → Supply → ω → Prop) : δ → List (ω × Supply) → Prop
  | _, [] => True
  | d, request :: rest => meets d request.2 request.1 ∧ Throughout after meets (after request.1 d request.2) rest

theorem throughout_congr {other : δ → Supply → ω → Prop} (same : ∀ d supply op, meets d supply op ↔ other d supply op)
    (requests : List (ω × Supply)) : Throughout after meets d requests ↔ Throughout after other d requests := by
  induction requests generalizing d with
  | nil => exact .rfl
  | cons request rest ih => exact and_congr (same d request.2 request.1) ih

theorem throughout_append (first second : List (ω × Supply)) :
    Throughout after meets d (first ++ second) ↔
      Throughout after meets d first ∧ Throughout after meets (storeAfter after d first) second := by
  induction first generalizing d with
  | nil => exact (Iff.of_eq (true_and _)).symm
  | cons request rest ih =>
    refine Iff.trans ?_ and_assoc.symm
    exact and_congr_right fun _ => ih

/-- Requests that meet the condition on every store make a run. -/
theorem of_requests {first : δ} {requests : List (ω × Supply)}
    (all : ∀ request ∈ requests, ∀ d, meets d request.2 request.1) (before : Path after meets first d) :
    Path after meets first (storeAfter after d requests) := by
  induction requests generalizing d with
  | nil => exact before
  | cons request rest ih =>
    refine ih (fun other member => all other (by simp [member])) ?_
    exact .next before request.1 request.2 (all request (by simp) d)

end Path

end SacmRuntime
