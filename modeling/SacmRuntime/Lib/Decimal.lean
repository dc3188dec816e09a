import Mathlib.Data.Nat.Basic

namespace SacmRuntime.Decimal

/-- A number is read back from its digits. -/
theorem toDigits_injective {n m : Nat} (same : Nat.toDigits 10 n = Nat.toDigits 10 m) : n = m := by
  have back := congrArg (fun digits => Nat.ofDigitChars 10 digits 0) same
  simpa [Nat.ofDigitChars_toDigits] using back

theorem isDigit_of_mem {n : Nat} {c : Char} (member : c ∈ Nat.toDigits 10 n) : c.isDigit = true :=
  Nat.isDigit_of_mem_toDigits (by decide) (by decide) member

theorem not_mem_toDigits {n : Nat} {c : Char} (other : c.isDigit = false) : c ∉ Nat.toDigits 10 n := by
  intro member
  rw [isDigit_of_mem member] at other
  cases other

end SacmRuntime.Decimal
