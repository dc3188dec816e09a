import Mathlib.Data.List.Basic

namespace SacmRuntime

/-- A character of which the first bytes were read: their value, how many
bytes are missing, and between what the next one has to lie. -/
structure Utf8Pending where
  value : Nat
  missing : Nat
  low : Nat
  high : Nat

namespace Utf8

def replacement : Char := '\ufffd'

/-- The byte begins a character of several bytes. -/
def lead (b : Nat) : Option Utf8Pending :=
  if 0xC2 ≤ b ∧ b ≤ 0xDF then some ⟨b - 0xC0, 1, 0x80, 0xBF⟩
  else if b = 0xE0 then some ⟨0, 2, 0xA0, 0xBF⟩
  else if b = 0xED then some ⟨0xD, 2, 0x80, 0x9F⟩
  else if 0xE1 ≤ b ∧ b ≤ 0xEF then some ⟨b - 0xE0, 2, 0x80, 0xBF⟩
  else if b = 0xF0 then some ⟨0, 3, 0x90, 0xBF⟩
  else if b = 0xF4 then some ⟨4, 3, 0x80, 0x8F⟩
  else if 0xF1 ≤ b ∧ b ≤ 0xF3 then some ⟨b - 0xF0, 3, 0x80, 0xBF⟩
  else none

/-- The byte continues the character. -/
def Utf8Pending.continues (p : Utf8Pending) (b : UInt8) : Bool := p.low ≤ b.toNat && b.toNat ≤ p.high

/-- A byte where no character is pending. -/
def fresh (b : UInt8) : List Char × Option Utf8Pending :=
  if b.toNat < 0x80 then ([Char.ofNat b.toNat], none)
  else
    match lead b.toNat with
    | some p => ([], some p)
    | none => ([replacement], none)

/-- One byte: the characters it completes, and the one that is pending then. -/
def step (pending : Option Utf8Pending) (b : UInt8) : List Char × Option Utf8Pending :=
  match pending with
  | none => fresh b
  | some p =>
    if Utf8Pending.continues p b then
      let value := p.value * 64 + (b.toNat - 0x80)
      if p.missing = 1 then ([Char.ofNat value], none) else ([], some ⟨value, p.missing - 1, 0x80, 0xBF⟩)
    else (replacement :: (fresh b).1, (fresh b).2)

/-- The characters of the bytes after those of a pending character. -/
def decodeFrom : Option Utf8Pending → List UInt8 → List Char
  | none, [] => []
  | some _, [] => [replacement]
  | pending, b :: rest => (step pending b).1 ++ decodeFrom (step pending b).2 rest

/-- `data.decode("utf-8", errors="replace")`: what is no character is replaced, up to
the byte that does not continue it. -/
def decode (data : List UInt8) : List Char := decodeFrom none data

variable {first rest : List UInt8} {pending : Option Utf8Pending}

end Utf8

end SacmRuntime
