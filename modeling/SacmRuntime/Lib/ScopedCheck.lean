import Mathlib.Data.List.Nodup

namespace SacmRuntime

/-- A check of rows that belong to several chains. It remembers a mark of the
last row of each chain, and a row has to fit the mark of the row before it. -/
structure ScopedCheck (ε κ μ : Type) where
  scope : ε → κ
  fits : Option μ → ε → Bool
  mark : ε → μ

namespace ScopedCheck
variable {ε κ μ : Type} (c : ScopedCheck ε κ μ)

/-- The verdict on each row, from the marks seen before. -/
def verdicts [DecidableEq κ] : (κ → Option μ) → List ε → List Bool
  | _, [] => []
  | seen, row :: rest =>
    c.fits (seen (c.scope row)) row :: verdicts (Function.update seen (c.scope row) (some (c.mark row))) rest

/-- Each row fits the one before it, and the first one fits the given mark. -/
def Along : Option μ → List ε → Prop
  | _, [] => True
  | before, row :: rest => c.fits before row = true ∧ Along (some (c.mark row)) rest

variable {c} {before : Option μ} {rows : List ε} {row : ε}

/-- All rows pass exactly when the rows of each chain fit one another. -/
theorem verdicts_iff [DecidableEq κ] {seen : κ → Option μ} : (∀ verdict ∈ c.verdicts seen rows, verdict = true) ↔
    ∀ k, c.Along (seen k) (rows.filter fun row => c.scope row = k) := by
  induction rows generalizing seen with
  | nil => exact ⟨fun _ _ => trivial, fun _ verdict member => absurd member List.not_mem_nil⟩
  | cons row rest ih =>
    rw [verdicts, List.forall_mem_cons, ih]
    constructor
    · rintro ⟨fits, chains⟩ k
      have chain := chains k
      by_cases here : c.scope row = k
      · subst here
        rw [Function.update_self] at chain
        rw [List.filter_cons_of_pos (by simp)]
        exact ⟨fits, chain⟩
      · rw [Function.update_of_ne (Ne.symm here)] at chain
        rw [List.filter_cons_of_neg (by simpa using here)]
        exact chain
    · intro chains
      have own := chains (c.scope row)
      rw [List.filter_cons_of_pos (by simp)] at own
      refine ⟨own.1, fun k => ?_⟩
      by_cases here : c.scope row = k
      · subst here
        rw [Function.update_self]
        exact own.2
      · have chain := chains k
        rw [List.filter_cons_of_neg (by simpa using here)] at chain
        rw [Function.update_of_ne (Ne.symm here)]
        exact chain

/-- The mark a row of a chain fits is the one at the beginning or that of another row. -/
theorem Along.fits_of_mem (along : c.Along before rows) (member : row ∈ rows) :
    ∃ mark ∈ before :: rows.map (some ∘ c.mark), c.fits mark row = true := by
  induction rows generalizing before with
  | nil => exact absurd member List.not_mem_nil
  | cons first rest ih =>
    obtain ⟨fits, tail⟩ := along
    rcases List.mem_cons.mp member with rfl | later
    · exact ⟨before, List.mem_cons_self, fits⟩
    · obtain ⟨mark, among, fitsLater⟩ := ih tail later
      exact ⟨mark, List.mem_cons_of_mem _ among, fitsLater⟩

/-- A row that fits the last one continues the chain. -/
theorem Along.concat (along : c.Along before rows)
    (fits : c.fits ((rows.getLast?.map c.mark).or before) row = true) : c.Along before (rows ++ [row]) := by
  induction rows generalizing before with
  | nil => exact ⟨fits, trivial⟩
  | cons first rest ih =>
    obtain ⟨fitsFirst, tail⟩ := along
    refine ⟨fitsFirst, ih tail ?_⟩
    cases rest with
    | nil => exact fits
    | cons second more => simpa [List.getLast?_cons] using fits

variable {f : ε → ε} {p : ε → Bool}

section
variable (sole : ∀ a b row, c.fits a row = true → c.fits b row = true → a = b)
include sole

/-- Rows picked from a chain fit one another exactly when they are an initial
part of it: nothing before a picked row is left out. -/
theorem along_filter_iff (distinct : (before :: rows.map (some ∘ c.mark)).Nodup) (along : c.Along before rows) :
    c.Along before (rows.filter p) ↔ rows.Pairwise fun a b => p b = true → p a = true := by
  induction rows generalizing before with
  | nil => exact ⟨fun _ => .nil, fun _ => trivial⟩
  | cons row rest ih =>
    obtain ⟨fits, tail⟩ := along
    obtain ⟨fresh, distinctTail⟩ := List.nodup_cons.mp distinct
    have here := ih distinctTail tail
    rw [List.pairwise_cons]
    by_cases picked : p row = true
    · rw [List.filter_cons_of_pos picked]
      exact ⟨fun chain => ⟨fun _ _ _ => picked, here.mp chain.2⟩, fun ordered => ⟨fits, here.mpr ordered.2⟩⟩
    · rw [List.filter_cons_of_neg picked]
      constructor
      · intro chain
        have none : rest.filter p = [] := by
          cases first : rest.filter p with
          | nil => rfl
          | cons next more =>
            rw [first] at chain
            have member : next ∈ rest := List.mem_of_mem_filter (first ▸ List.mem_cons_self)
            obtain ⟨mark, among, fitsNext⟩ := tail.fits_of_mem member
            exact absurd (sole _ _ _ chain.1 fitsNext ▸ among) fresh
        have unpicked := List.filter_eq_nil_iff.mp none
        exact ⟨fun b member chosen => absurd chosen (unpicked b member),
          List.pairwise_of_forall_mem_list fun a _ b member chosen => absurd chosen (unpicked b member)⟩
      · rintro ⟨nothing, -⟩
        have unpicked : rest.filter p = [] :=
          List.filter_eq_nil_iff.mpr fun b member chosen => picked (nothing b member chosen)
        rw [unpicked]
        trivial

theorem along_none_filter_iff (distinct : (rows.map c.mark).Nodup) (along : c.Along none rows) :
    c.Along none (rows.filter p) ↔ rows.Pairwise fun a b => p b = true → p a = true := by
  refine along_filter_iff sole (List.nodup_cons.mpr ⟨by simp, ?_⟩) along
  rw [← List.map_map]
  exact distinct.map fun _ _ same => Option.some.inj same

end

/-- A row of a chain that no longer fits the mark before it breaks the chain. -/
theorem Along.broken (marks : ∀ a, c.mark (f a) = c.mark a) (member : row ∈ rows)
    (breaks : ∀ mark, c.fits mark row = true → c.fits mark (f row) ≠ true) (along : c.Along before rows) :
    ¬c.Along before (rows.map f) := by
  induction rows generalizing before with
  | nil => exact absurd member List.not_mem_nil
  | cons first rest ih =>
    obtain ⟨fits, tail⟩ := along
    rintro ⟨fitsToo, tailToo⟩
    rcases List.mem_cons.mp member with rfl | later
    · exact breaks before fits fitsToo
    · rw [marks] at tailToo
      exact ih later tail tailToo

/-- When a chain stays one after one row of it changes, both forms of the row fit one mark. -/
theorem Along.fits_both (others : ∀ a ∈ rows, a ≠ row → f a = a) (member : row ∈ rows) (along : c.Along before rows)
    (changed : c.Along before (rows.map f)) :
    ∃ mark, c.fits mark row = true ∧ c.fits mark (f row) = true := by
  induction rows generalizing before with
  | nil => exact absurd member List.not_mem_nil
  | cons first rest ih =>
    obtain ⟨fits, tail⟩ := along
    obtain ⟨fitsChanged, tailChanged⟩ := changed
    by_cases here : first = row
    · subst here
      exact ⟨before, fits, fitsChanged⟩
    · have later : row ∈ rest := (List.mem_cons.mp member).resolve_left (Ne.symm here)
      rw [others first List.mem_cons_self here] at tailChanged
      exact ih (fun a inRest => others a (List.mem_cons_of_mem _ inRest)) later tail tailChanged

end ScopedCheck

/-- In an ascending list the order of two elements is that of their numbers. -/
theorem pairwise_iff_of_ascending {ε : Type} {number : ε → Nat} {R : ε → ε → Prop} {rows : List ε}
    (ascending : rows.Pairwise fun a b => number a < number b) :
    rows.Pairwise R ↔ ∀ a ∈ rows, ∀ b ∈ rows, number a < number b → R a b := by
  constructor
  · intro related a inA b inB below
    obtain ⟨i, boundI, rfl⟩ := List.getElem_of_mem inA
    obtain ⟨j, boundJ, rfl⟩ := List.getElem_of_mem inB
    rcases Nat.lt_trichotomy i j with before | rfl | after
    · exact List.pairwise_iff_getElem.mp related i j boundI boundJ before
    · omega
    · have above := List.pairwise_iff_getElem.mp ascending j i boundJ boundI after
      omega
  · intro related
    exact ascending.imp_of_mem fun inA inB below => related _ inA _ inB below

end SacmRuntime
