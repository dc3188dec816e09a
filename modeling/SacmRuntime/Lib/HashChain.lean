import Mathlib.Data.List.MinMax
import Mathlib.Data.List.Sort

namespace SacmRuntime

/-- How a log entry shows its place: its number, the hash of its
predecessor, its own hash, and whether that hash is the right one. -/
structure ChainLink (ε η : Type) where
  number : ε → Nat
  previous : ε → Option η
  hash : ε → η
  Sound : ε → Prop

namespace ChainLink
variable {ε η : Type} (c : ChainLink ε η)

/-- The entries are numbered on from `n`, each carries the hash of the one
before it, and every hash is sound. -/
def Linked : Nat → Option η → List ε → Prop
  | _, _, [] => True
  | n, before, entry :: rest =>
    c.number entry = n ∧ c.previous entry = before ∧ c.Sound entry ∧ Linked (n + 1) (some (c.hash entry)) rest

/-- The hash the next entry has to carry. -/
def tip (before : Option η) (entries : List ε) : Option η :=
  match entries.getLast? with
  | some last => some (c.hash last)
  | none => before

variable {c} {n : Nat} {before : Option η} {entries : List ε} {entry : ε}

theorem tip_cons : c.tip before (entry :: entries) = c.tip (some (c.hash entry)) entries := by
  unfold tip
  cases entries with
  | nil => simp
  | cons next rest => simp [List.getLast?_cons]

section
variable (linked : c.Linked n before entries)
include linked

/-- Appending a fitting entry keeps the chain. -/
theorem Linked.append (number : c.number entry = n + entries.length)
    (previous : c.previous entry = c.tip before entries) (sound : c.Sound entry) :
    c.Linked n before (entries ++ [entry]) := by
  induction entries generalizing n before with
  | nil => exact ⟨by simpa using number, by simpa [tip] using previous, sound, trivial⟩
  | cons first rest ih =>
    obtain ⟨firstNumber, firstPrevious, firstSound, linked⟩ := linked
    refine ⟨firstNumber, firstPrevious, firstSound, ih linked ?_ (tip_cons ▸ previous)⟩
    simp only [List.length_cons] at number
    omega

/-- A chain stays one when it is cut. -/
theorem Linked.take (k : Nat) : c.Linked n before (entries.take k) := by
  induction entries generalizing n before k with
  | nil => simp [Linked]
  | cons first rest ih =>
    cases k with
    | zero => simp [Linked]
    | succ k =>
      obtain ⟨number, previous, sound, linked⟩ := linked
      exact ⟨number, previous, sound, ih linked k⟩

/-- What is left of a chain is a chain. -/
theorem Linked.drop (k : Nat) :
    ∃ previous, c.Linked (n + k) previous (entries.drop k) := by
  induction entries generalizing n before k with
  | nil => exact ⟨none, by simp [Linked]⟩
  | cons first rest ih =>
    cases k with
    | zero => exact ⟨before, linked⟩
    | succ k =>
      obtain ⟨previous, tail⟩ := ih linked.2.2.2 k
      exact ⟨previous, by simpa [Nat.add_assoc, Nat.add_comm 1 k] using tail⟩

theorem Linked.numbers : entries.map c.number = List.range' n entries.length := by
  induction entries generalizing n before with
  | nil => rfl
  | cons first rest ih =>
    obtain ⟨number, _, _, linked⟩ := linked
    simp [number, ih linked, List.range'_succ]

theorem Linked.number_lt (member : entry ∈ entries) :
    n ≤ c.number entry ∧ c.number entry < n + entries.length := by
  have inRange : c.number entry ∈ entries.map c.number := List.mem_map_of_mem member
  rw [linked.numbers, List.mem_range'_1] at inRange
  exact inRange

theorem Linked.sound (member : entry ∈ entries) : c.Sound entry := by
  induction entries generalizing n before with
  | nil => exact absurd member List.not_mem_nil
  | cons first rest ih =>
    obtain ⟨_, _, sound, linked⟩ := linked
    rcases List.mem_cons.mp member with rfl | later
    · exact sound
    · exact ih linked later

/-- Numbers of a chain do not repeat. -/
theorem Linked.number_inj {other : ε} (member : entry ∈ entries) (otherMember : other ∈ entries)
    (same : c.number entry = c.number other) : entry = other := by
  have distinct : (entries.map c.number).Nodup := linked.numbers ▸ List.nodup_range'
  exact List.inj_on_of_nodup_map distinct member otherMember same

/-- The last entry has the highest number. -/
theorem Linked.number_last (last : entries.getLast? = some entry) :
    c.number entry + 1 = n + entries.length := by
  induction entries generalizing n before with
  | nil => simp at last
  | cons first rest ih =>
    obtain ⟨number, _, _, linked⟩ := linked
    cases rest with
    | nil =>
      simp only [List.getLast?_singleton, Option.some.injEq] at last
      simp [← last, number]
    | cons next rest =>
      have tail := ih linked (by simpa [List.getLast?_cons] using last)
      simp only [List.length_cons] at tail ⊢
      omega

/-- Each entry of a chain carries the hash of the one before it. -/
theorem Linked.previous_succ {i : Nat} {first second : ε} (atFirst : entries[i]? = some first)
    (atSecond : entries[i + 1]? = some second) :
    c.previous second = some (c.hash first) := by
  induction entries generalizing n before i with
  | nil => simp at atFirst
  | cons head rest ih =>
    obtain ⟨_, _, _, linked⟩ := linked
    cases i with
    | zero =>
      simp only [List.getElem?_cons_zero, Option.some.injEq] at atFirst
      subst atFirst
      cases rest with
      | nil => simp at atSecond
      | cons next rest =>
        simp only [Nat.zero_add, List.getElem?_cons_succ, List.getElem?_cons_zero, Option.some.injEq] at atSecond
        subst atSecond
        exact linked.2.1
    | succ i => exact ih linked (by simpa using atFirst) (by simpa using atSecond)

/-- An entry of a chain carries the hash of the entry numbered before it. -/
theorem Linked.previous_of_number {other : ε} (member : entry ∈ entries) (otherMember : other ∈ entries)
    (next : c.number other = c.number entry + 1) :
    c.previous other = some (c.hash entry) := by
  obtain ⟨i, atEntry⟩ := List.mem_iff_getElem?.mp member
  obtain ⟨j, atOther⟩ := List.mem_iff_getElem?.mp otherMember
  have numberAt : ∀ {k : Nat} {e : ε}, entries[k]? = some e → c.number e = n + k := by
    intro k e found
    have numbers := congrArg (·[k]?) linked.numbers
    obtain ⟨bound, rfl⟩ := List.getElem?_eq_some_iff.mp found
    simpa [bound] using numbers
  have index : j = i + 1 := by
    have first := numberAt atEntry
    have second := numberAt atOther
    omega
  exact linked.previous_succ atEntry (index ▸ atOther)

/-- Appending an entry numbered after the last one keeps the chain. -/
theorem Linked.extend
    (number : c.number entry = match entries.getLast? with | some last => c.number last + 1 | none => n)
    (previous : c.previous entry = c.tip before entries) (sound : c.Sound entry) :
    c.Linked n before (entries ++ [entry]) := by
  refine linked.append ?_ previous sound
  rw [number]
  cases last : entries.getLast? with
  | none => simp [List.getLast?_eq_none_iff.mp last]
  | some newest => exact linked.number_last last

/-- Any collection of entries of a chain that has its last one has it as
the newest. -/
theorem Linked.argmax_eq {some_ : List ε} (last : entries.getLast? = some entry)
    (within : ∀ other ∈ some_, other ∈ entries) (present : entry ∈ some_) : some_.argmax c.number = some entry := by
  have top : ∀ other ∈ some_, c.number other ≤ c.number entry := by
    intro other member
    have below := linked.number_lt (within other member)
    have highest := linked.number_last last
    omega
  cases found : some_.argmax c.number with
  | none => simp [List.argmax_eq_none.mp found] at present
  | some winner =>
    have member := List.argmax_mem found
    have least := List.le_of_mem_argmax present found
    have same : c.number winner = c.number entry := le_antisymm (top winner member) least
    rw [linked.number_inj (within winner member) (within entry present) same]

/-- The newest entry of a chain is its last one. -/
theorem Linked.argmax_last : entries.argmax c.number = entries.getLast? := by
  cases last : entries.getLast? with
  | none => rw [List.getLast?_eq_none_iff.mp last]; rfl
  | some newest => exact linked.argmax_eq last (fun _ member => member) (List.mem_of_getLast? last)

/-- Numbers ascend along a chain. -/
theorem Linked.ascending :
    entries.Pairwise fun a b => c.number a < c.number b :=
  List.pairwise_map.mp (linked.numbers ▸ List.pairwise_lt_range' (s := n))

/-- Entries picked from a chain are in the order of their numbers. -/
theorem Linked.sorted {picked : List ε} (within : picked.Sublist entries) :
    picked.insertionSort (fun a b => c.number a ≤ c.number b) = picked :=
  List.Pairwise.insertionSort_eq ((linked.ascending.sublist within).imp Nat.le_of_lt)

/-- The first few entries picked from a chain are those picked up to the last of them. -/
theorem Linked.take_filter (q : ε → Bool) (k : Nat) {first last : ε}
    (head : ((entries.filter q).take k).head? = some first) (final : ((entries.filter q).take k).getLast? = some last) :
    (entries.filter q).take k =
      (entries.filter fun entry => decide (c.number first ≤ c.number entry) &&
        decide (c.number entry ≤ c.number last)).filter
        q := by
  have picked := linked.ascending.filter q
  rw [List.filter_comm]
  generalize entries.filter q = all at *
  obtain ⟨init, split⟩ := List.getLast?_eq_some_iff.mp final
  have apart := List.pairwise_append.mp ((List.take_append_drop k all).symm ▸ picked)
  have least : ∀ entry ∈ all, c.number first ≤ c.number entry := by
    intro entry member
    cases all with
    | nil => simp at member
    | cons least rest =>
      obtain rfl : least = first := by
        cases k with
        | zero => simp at head
        | succ k => simpa using head
      rcases List.mem_cons.mp member with rfl | later
      · exact Nat.le_refl _
      · exact Nat.le_of_lt ((List.pairwise_cons.mp picked).1 entry later)
  have within : ∀ entry ∈ all.take k, c.number entry ≤ c.number last := by
    intro entry member
    rw [split] at member apart
    rcases List.mem_append.mp member with earlier | same
    · exact Nat.le_of_lt ((List.pairwise_append.mp apart.1).2.2 entry earlier last (by simp))
    · rw [List.mem_singleton.mp same]
  have beyond : ∀ entry ∈ all.drop k, ¬c.number entry ≤ c.number last := by
    intro entry member
    have := apart.2.2 last (List.mem_of_getLast? final) entry member
    omega
  conv_rhs => rw [← List.take_append_drop k all, List.filter_append]
  rw [List.filter_eq_self.mpr fun entry member => ?_, List.filter_eq_nil_iff.mpr fun entry member => ?_,
    List.append_nil]
  · simp [beyond entry member]
  · simp [within entry member, least entry (List.mem_of_mem_take member)]

/-- The entries up to a number are the first ones. -/
theorem Linked.filter_le (k : Nat) :
    (entries.filter fun entry => decide (c.number entry < n + k)) = entries.take k := by
  induction entries generalizing n before k with
  | nil => simp
  | cons first rest ih =>
    obtain ⟨number, _, _, linked⟩ := linked
    cases k with
    | zero =>
      simp only [List.take_zero, List.filter_eq_nil_iff, decide_eq_true_eq, List.mem_cons]
      rintro other (rfl | member)
      · omega
      · have := (linked.number_lt member).1
        omega
    | succ k =>
      have rest := ih linked k
      rw [List.filter_cons_of_pos (by simp [number])]
      simp only [List.take_succ_cons, ← rest]
      congr 2
      funext entry
      simp only [decide_eq_decide]
      omega

/-- The entries from a number on are the last ones. -/
theorem Linked.filter_ge (k : Nat) :
    (entries.filter fun entry => decide (n + k ≤ c.number entry)) = entries.drop k := by
  induction entries generalizing n before k with
  | nil => simp
  | cons first rest ih =>
    have number := linked.1
    have tail := linked.2.2.2
    cases k with
    | zero =>
      rw [List.drop_zero, List.filter_eq_self]
      intro entry member
      have low := (linked.number_lt member).1
      simpa using low
    | succ k =>
      rw [List.filter_cons_of_neg (by simp [number]), List.drop_succ_cons, ← ih tail k]
      congr 1
      funext entry
      simp only [decide_eq_decide]
      omega

end

/-- Two chains of one length that end in one hash agree entry by entry, where
sound entries with one number and one hash name one predecessor. `P`
says what a hash looks like. -/
theorem Linked.eq_of_tip {P : η → Prop} {x y : Option η} {others : List ε}
    (digests : ∀ entry, c.Sound entry → P (c.hash entry))
    (separated : ∀ a b, c.Sound a → c.Sound b → c.number a = c.number b → c.hash a = c.hash b →
      (∀ h ∈ c.previous a, P h) → (∀ h ∈ c.previous b, P h) → c.previous a = c.previous b)
    (inFirst : ∀ h ∈ x, P h) (inSecond : ∀ h ∈ y, P h) (first : c.Linked n x entries)
    (second : c.Linked n y others) (long : entries.length = others.length) (tips : c.tip x entries = c.tip y others) :
    x = y ∧ List.Forall₂ (fun a b => c.Sound a ∧ c.Sound b ∧ c.hash a = c.hash b) entries others := by
  induction entries generalizing n x y others with
  | nil =>
    cases List.length_eq_zero_iff.mp long.symm
    exact ⟨tips, .nil⟩
  | cons a as ih =>
    cases others with
    | nil => cases long
    | cons b bs =>
      obtain ⟨numberA, previousA, soundA, first⟩ := first
      obtain ⟨numberB, previousB, soundB, second⟩ := second
      rw [tip_cons, tip_cons] at tips
      have digest : ∀ {entry : ε}, c.Sound entry → ∀ h ∈ some (c.hash entry), P h := by
        intro entry sound h inside
        cases inside
        exact digests entry sound
      obtain ⟨hashes, rest⟩ := ih (digest soundA) (digest soundB) first second (Nat.succ.inj long) tips
      have hashes := Option.some.inj hashes
      have named := separated a b soundA soundB (numberA.trans numberB.symm) hashes (previousA ▸ inFirst)
        (previousB ▸ inSecond)
      exact ⟨previousA.symm.trans (named.trans previousB), .cons ⟨soundA, soundB, hashes⟩ rest⟩

end ChainLink

end SacmRuntime
