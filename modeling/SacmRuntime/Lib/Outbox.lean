import Mathlib.Logic.Function.Basic

namespace SacmRuntime

/-- A range of log entries handed out together, and whether it arrived. -/
structure Span where
  first : Nat
  last : Nat
  done : Bool

/-- The entry lies in the range. -/
def Span.covers (span : Span) (n : Nat) : Prop := span.first ≤ n ∧ n ≤ span.last

/-- A log of `length` entries numbered from one, forwarded in ranges: a
cursor, and the ranges cut so far. -/
@[ext] structure Outbox (ι : Type) where
  length : Nat
  cursor : Nat
  spans : ι → Option Span

namespace Outbox
variable {ι : Type} [DecidableEq ι]

/-- What forwarding can do: the log grows, a range is cut from behind the
cursor where `p` allows it, and a range arrives and moves the cursor. -/
inductive Step (p : Outbox ι → Prop) : Outbox ι → Outbox ι → Prop
  | grow {o : Outbox ι} {length : Nat} (longer : o.length ≤ length) : Step p o { o with length := length }
  | cut {o : Outbox ι} {id : ι} {last : Nat} (fresh : o.spans id = none) (past : o.cursor < last)
      (written : last ≤ o.length) (allowed : p o) :
      Step p o { o with spans := Function.update o.spans id (some ⟨o.cursor + 1, last, false⟩) }
  | arrive {o : Outbox ι} {id : ι} {span : Span} (waiting : o.spans id = some span) (open_ : span.done = false) :
      Step p o { o with cursor := max o.cursor span.last
                        spans := Function.update o.spans id (some { span with done := true }) }

/-- Nothing up to the cursor is lost. -/
structure Sound (o : Outbox ι) : Prop where
  bounds : ∀ id span, o.spans id = some span → span.first ≤ o.cursor + 1 ∧ span.first ≤ span.last ∧ span.last ≤ o.length
  behind : ∀ id span, o.spans id = some span → span.done = true → span.last ≤ o.cursor
  covered : ∀ n, 1 ≤ n → n ≤ o.cursor → ∃ id span, o.spans id = some span ∧ span.done = true ∧ span.covers n

/-- Every range has arrived. -/
def Idle (o : Outbox ι) : Prop := ∀ id span, o.spans id = some span → span.done = true

/-- Nothing is forwarded twice: at most one range is on its way, and it
starts behind the cursor. -/
structure Exact (o : Outbox ι) : Prop where
  disjoint : ∀ id other span second n, o.spans id = some span → o.spans other = some second → span.done = true →
    second.done = true → span.covers n → second.covers n → id = other
  waiting : ∀ id span, o.spans id = some span → span.done = false → span.first = o.cursor + 1
  single : ∀ id other span second, o.spans id = some span → o.spans other = some second → span.done = false →
    second.done = false → id = other

variable {o next : Outbox ι} {p : Outbox ι → Prop}

omit [DecidableEq ι] in
/-- Before anything was cut. -/
theorem sound_of_empty (zero : o.cursor = 0) (none : ∀ id, o.spans id = none) : o.Sound where
  bounds id span found := by simp [none] at found
  behind id span found := by simp [none] at found
  covered n low high := by omega

omit [DecidableEq ι] in
theorem exact_of_empty (none : ∀ id, o.spans id = none) : o.Exact where
  disjoint id other span second n found := by simp [none] at found
  waiting id span found := by simp [none] at found
  single id other span second found := by simp [none] at found

theorem Step.cursor_le (step : Step p o next) : o.cursor ≤ next.cursor := by
  cases step with
  | grow | cut => exact Nat.le_refl _
  | arrive => exact Nat.le_max_left _ _

/-- A span after an update is the new one or an old one elsewhere. -/
theorem spans_update {spans : ι → Option Span} {id other : ι} {new span : Span}
    (found : Function.update spans id (some new) other = some span) :
    (other = id ∧ span = new) ∨ (other ≠ id ∧ spans other = some span) := by
  by_cases same : other = id
  · subst same
    rw [Function.update_self] at found
    exact .inl ⟨rfl, (Option.some.inj found).symm⟩
  · rw [Function.update_of_ne same] at found
    exact .inr ⟨same, found⟩

theorem Step.keeps_sound (step : Step p o next) (sound : o.Sound) : next.Sound := by
  cases step with
  | grow longer =>
    refine ⟨fun id span found => ?_, sound.behind, sound.covered⟩
    have bounds := sound.bounds id span found
    exact ⟨bounds.1, bounds.2.1, Nat.le_trans bounds.2.2 longer⟩
  | @cut id last fresh past written allowed =>
    refine ⟨fun other span found => ?_, fun other span found done => ?_, fun n low high => ?_⟩
    · rcases spans_update found with ⟨_, rfl⟩ | ⟨_, old⟩
      · exact ⟨Nat.le_refl _, past, written⟩
      · exact sound.bounds other span old
    · rcases spans_update found with ⟨_, rfl⟩ | ⟨_, old⟩
      · cases done
      · exact sound.behind other span old done
    · obtain ⟨other, span, old, done, covers⟩ := sound.covered n low high
      have different : other ≠ id := by
        rintro rfl
        simp [fresh] at old
      exact ⟨other, span, (Function.update_of_ne different ..).trans old, done, covers⟩
  | @arrive id span waiting open_ =>
    have bounds := sound.bounds id span waiting
    refine ⟨fun other second found => ?_, fun other second found done => ?_, fun n low high => ?_⟩
    · have further : o.cursor ≤ max o.cursor span.last := Nat.le_max_left _ _
      rcases spans_update found with ⟨_, rfl⟩ | ⟨_, old⟩
      · exact ⟨Nat.le_trans bounds.1 (Nat.succ_le_succ further), bounds.2⟩
      · have old := sound.bounds other second old
        exact ⟨Nat.le_trans old.1 (Nat.succ_le_succ further), old.2⟩
    · rcases spans_update found with ⟨_, rfl⟩ | ⟨_, old⟩
      · exact Nat.le_max_right _ _
      · exact Nat.le_trans (sound.behind other second old done) (Nat.le_max_left _ _)
    · simp only at high
      by_cases reached : n ≤ o.cursor
      · obtain ⟨other, second, old, done, covers⟩ := sound.covered n low reached
        have different : other ≠ id := by
          rintro rfl
          cases waiting.symm.trans old
          simp [open_] at done
        exact ⟨other, second, (Function.update_of_ne different ..).trans old, done, covers⟩
      · have inSpan : span.covers n := ⟨by omega, by omega⟩
        exact ⟨id, { span with done := true }, Function.update_self .., rfl, inSpan⟩

/-- Cutting only when everything has arrived forwards nothing twice. -/
theorem Step.keeps_exact (step : Step Idle o next) (sound : o.Sound) (exact_ : o.Exact) : next.Exact := by
  cases step with
  | grow longer => exact ⟨exact_.disjoint, exact_.waiting, exact_.single⟩
  | @cut id last fresh past written idle =>
    have newest : ∀ {other span}, Function.update o.spans id (some ⟨o.cursor + 1, last, false⟩) other = some span →
        span.done = false → other = id ∧ span = ⟨o.cursor + 1, last, false⟩ := by
      intro other span found waits
      rcases spans_update found with new | ⟨_, old⟩
      · exact new
      · simp [idle other span old] at waits
    refine ⟨?_, ?_, ?_⟩
    · intro a b span second n atA atB doneA doneB inA inB
      rcases spans_update atA with ⟨_, rfl⟩ | ⟨_, oldA⟩
      · cases doneA
      · rcases spans_update atB with ⟨_, rfl⟩ | ⟨_, oldB⟩
        · cases doneB
        · exact exact_.disjoint a b span second n oldA oldB doneA doneB inA inB
    · intro other span found waits
      rw [(newest found waits).2]
    · intro a b span second atA atB waitsA waitsB
      rw [(newest atA waitsA).1, (newest atB waitsB).1]
  | @arrive id span waiting open_ =>
    have start := exact_.waiting id span waiting open_
    have others : ∀ {other second}, other ≠ id → o.spans other = some second → second.done = true := by
      intro other second different old
      by_contra waits
      exact different (exact_.single other id second span old waiting (by simpa using waits) open_)
    have apart : ∀ {other second n}, o.spans other = some second → second.done = true → span.covers n →
        ¬second.covers n := by
      intro other second n old done inSpan inSecond
      have behind := sound.behind other second old done
      have low := inSpan.1
      have high := inSecond.2
      omega
    refine ⟨?_, ?_, ?_⟩
    · intro a b first second n atA atB doneA doneB inA inB
      rcases spans_update atA with ⟨rfl, rfl⟩ | ⟨_, oldA⟩
      · rcases spans_update atB with ⟨rfl, _⟩ | ⟨_, oldB⟩
        · rfl
        · exact absurd inB (apart oldB doneB inA)
      · rcases spans_update atB with ⟨rfl, rfl⟩ | ⟨_, oldB⟩
        · exact absurd inA (apart oldA doneA inB)
        · exact exact_.disjoint a b first second n oldA oldB doneA doneB inA inB
    · intro other second found waits
      rcases spans_update found with ⟨_, rfl⟩ | ⟨different, old⟩
      · cases waits
      · simp [others different old] at waits
    · intro a b first second atA atB waitsA waitsB
      rcases spans_update atA with ⟨_, rfl⟩ | ⟨different, old⟩
      · cases waitsA
      · simp [others different old] at waitsA

end Outbox

end SacmRuntime
