import Mathlib.Algebra.Ring.Nat
import Mathlib.Data.List.Basic

namespace SacmRuntime.HexText

/-- The hexadecimal digits of a number, lowest first. -/
def digits (n : Nat) : Nat → List Char
  | 0 => []
  | width + 1 => Nat.digitChar (n % 16) :: digits (n / 16) width

/-- A text in hexadecimal digits; six are enough for every character. -/
def hexText (text : List Char) : List Char := text.flatMap fun c => digits c.toNat 6

theorem length_digits (n width : Nat) : (digits n width).length = width := by
  induction width generalizing n with
  | zero => rfl
  | succ width ih => simp [digits, ih]

theorem digitChar_inj : ∀ a < 16, ∀ b < 16, Nat.digitChar a = Nat.digitChar b → a = b := by
  decide

theorem digits_inj {n m width : Nat} (small : n < 16 ^ width) (small' : m < 16 ^ width)
    (same : digits n width = digits m width) : n = m := by
  induction width generalizing n m with
  | zero => omega
  | succ width ih =>
    obtain ⟨low, high⟩ := List.cons.inj same
    have lowSame := digitChar_inj _ (Nat.mod_lt n (by decide)) _ (Nat.mod_lt m (by decide)) low
    have highSame := ih (by omega) (by omega) high
    omega

theorem toNat_bounded (c : Char) : c.toNat < 16 ^ 6 := by
  rcases c.valid with low | ⟨-, high⟩
  · exact Nat.lt_trans low (by decide)
  · exact Nat.lt_trans high (by decide)

theorem hexText_injective : Function.Injective hexText := by
  intro text
  induction text with
  | nil =>
    intro other same
    cases other with
    | nil => rfl
    | cons c rest =>
      have lengths := congrArg List.length same
      simp [hexText, length_digits] at lengths
      omega
  | cons c rest ih =>
    intro other same
    cases other with
    | nil =>
      have lengths := congrArg List.length same
      simp [hexText, length_digits] at lengths
    | cons c' rest' =>
      obtain ⟨head, tail⟩ := List.append_inj same (by rw [length_digits, length_digits])
      have codes := digits_inj (toNat_bounded c) (toNat_bounded c') head
      rw [Char.toNat_inj.mp codes, ih tail]

theorem digits_mem {c : Char} {n width : Nat} (member : c ∈ digits n width) : c ∈ "0123456789abcdef".toList := by
  induction width generalizing n with
  | zero => cases member
  | succ width ih =>
    rcases List.mem_cons.mp member with rfl | later
    · have all : ∀ a < 16, Nat.digitChar a ∈ "0123456789abcdef".toList := by decide
      exact all _ (Nat.mod_lt n (by decide))
    · exact ih later

theorem hexText_mem {c : Char} {text : List Char} (member : c ∈ hexText text) : c ∈ "0123456789abcdef".toList := by
  obtain ⟨d, -, here⟩ := List.mem_flatMap.mp member
  exact digits_mem here

end SacmRuntime.HexText
