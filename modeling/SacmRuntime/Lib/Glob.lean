import Mathlib.Data.List.Infix

namespace SacmRuntime

/-- A piece of a shell pattern without sets. -/
inductive GlobPart where
  | star | any
  | one (c : Char)
  deriving DecidableEq

namespace Glob

/-- The pieces of a pattern. -/
def parse (pattern : List Char) : List GlobPart :=
  pattern.map fun c => if c = '*' then .star else if c = '?' then .any else .one c

/-- The pattern fits the whole text. A star stands for any characters, the
slash included. -/
def fits : List GlobPart → List Char → Bool
  | [], text => text.isEmpty
  | .star :: rest, text => text.tails.any (fits rest)
  | .any :: rest, text =>
    match text with
    | [] => false
    | _ :: more => fits rest more
  | .one c :: rest, text =>
    match text with
    | [] => false
    | d :: more => c == d && fits rest more

variable {word text : List Char} {rest : List GlobPart}

theorem fits_star : fits (.star :: rest) text = true ↔ ∃ tail, tail <:+ text ∧ fits rest tail = true := by
  rw [fits, List.any_eq_true]
  simp only [List.mem_tails]

theorem fits_literal :
    fits (word.map .one ++ rest) text = true ↔ ∃ tail, text = word ++ tail ∧ fits rest tail = true := by
  induction word generalizing text with
  | nil => simp
  | cons c more ih =>
    cases text with
    | nil => simp [fits]
    | cons d later =>
      simp only [List.map_cons, List.cons_append, fits, Bool.and_eq_true, beq_iff_eq, ih, List.cons.injEq]
      constructor
      · rintro ⟨rfl, tail, split, fitted⟩
        exact ⟨tail, ⟨rfl, split⟩, fitted⟩
      · rintro ⟨tail, ⟨rfl, split⟩, fitted⟩
        exact ⟨rfl, tail, split, fitted⟩

theorem fits_word : fits (word.map .one) text = true ↔ text = word := by
  have literal : fits (word.map .one ++ []) text = true ↔ ∃ tail, text = word ++ tail ∧ fits [] tail = true :=
    fits_literal
  rw [List.append_nil] at literal
  rw [literal]
  simp [fits]

/-- A star before the word asks how the text ends. -/
theorem fits_ending : fits (.star :: word.map .one) text = true ↔ word <:+ text := by
  rw [fits_star]
  constructor
  · rintro ⟨tail, ending, fitted⟩
    rwa [fits_word.mp fitted] at ending
  · intro ending
    exact ⟨word, ending, fits_word.mpr rfl⟩

/-- A star after the word asks how the text begins. -/
theorem fits_start : fits (word.map .one ++ [.star]) text = true ↔ word <+: text := by
  have all (tail : List Char) : fits [.star] tail = true := fits_star.mpr ⟨[], List.nil_suffix, rfl⟩
  rw [fits_literal]
  constructor
  · rintro ⟨tail, split, -⟩
    exact ⟨tail, split.symm⟩
  · rintro ⟨tail, split⟩
    exact ⟨tail, split.symm, all tail⟩

/-- Stars on both sides ask whether the word stands anywhere. -/
theorem fits_within : fits (.star :: .star :: (word.map .one ++ [.star])) text = true ↔ word <:+: text := by
  rw [fits_star, List.infix_iff_prefix_suffix]
  constructor
  · rintro ⟨late, ending, fitted⟩
    obtain ⟨later, within, start⟩ := fits_star.mp fitted
    exact ⟨later, fits_start.mp start, within.trans ending⟩
  · rintro ⟨later, start, ending⟩
    exact ⟨text, List.suffix_rfl, fits_star.mpr ⟨later, ending, fits_start.mpr start⟩⟩

end Glob

end SacmRuntime
