import Mathlib.Data.Rat.Floor

namespace SacmRuntime

/-- The last `width` decimal digits of `n`. -/
def decimal : (width : Nat) → (n : Nat) → List Char
  | 0, _ => []
  | width + 1, n => decimal width (n / 10) ++ [Char.ofNat (48 + n % 10)]

/-- Year, month and day of a day number counted from 1970-01-01, by shifting
to years that begin in March. -/
def civil (day : Nat) : Nat × Nat × Nat :=
  let z := day + 719468
  let era := z / 146097
  let doe := z % 146097
  let yoe := (doe - doe / 1460 + doe / 36524 - doe / 146096) / 365
  let doy := doe - (365 * yoe + yoe / 4 - yoe / 100)
  let mp := (5 * doy + 2) / 153
  let m := if mp < 10 then mp + 3 else mp - 9
  (yoe + era * 400 + (if m ≤ 2 then 1 else 0), m, doy - (153 * mp + 2) / 5 + 1)

/-- `datetime.isoformat(timespec="microseconds")` of an instant in
microseconds since the epoch. -/
def isoMicroseconds (t : Nat) : List Char :=
  let (y, m, d) := civil (t / 86400000000)
  let s := t / 1000000 % 86400
  decimal 4 y ++ '-' :: decimal 2 m ++ '-' :: decimal 2 d ++ 'T' :: decimal 2 (s / 3600) ++
    ':' :: decimal 2 (s / 60 % 60) ++ ':' :: decimal 2 (s % 60) ++ '.' :: decimal 6 (t % 1000000)

/-- `datetime.isoformat()`: the fraction is left out when it is zero. -/
def isoformat (t : Nat) : String :=
  String.ofList (if t % 1000000 = 0 then (isoMicroseconds t).take 19 else isoMicroseconds t)

/-- `f"{x:.3f}"` of a number between zero and one. -/
def fixed3 (x : ℚ) : String :=
  let n := ⌊x * 1000 + 1 / 2⌋.toNat
  String.ofList (decimal 1 (n / 1000) ++ '.' :: decimal 3 n)

example : isoformat 1709210096000007 = "2024-02-29T12:34:56.000007" := by decide +kernel
example : isoformat 0 = "1970-01-01T00:00:00" := by decide +kernel

end SacmRuntime
