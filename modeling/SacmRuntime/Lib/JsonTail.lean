import SacmRuntime.Lib.JsonText

namespace SacmRuntime

namespace Json

/-- Every quote inside the text stands behind a backslash. -/
def Guarded (text : List Char) : Prop := ∀ before after, text = before ++ '"' :: after → ∃ init, before = init ++ ['\\']

theorem guarded_of_free {text : List Char} (free : '"' ∉ text) : Guarded text := by
  rintro before after rfl
  exact absurd (by simp) free

theorem Guarded.append {first second : List Char} (guarded : Guarded first) (rest : Guarded second) :
    Guarded (first ++ second) := by
  intro before after split
  rcases List.append_eq_append_iff.mp split with ⟨middle, rfl, inSecond⟩ | ⟨middle, inFirst, tail⟩
  · obtain ⟨init, rfl⟩ := rest middle after inSecond
    exact ⟨first ++ init, by simp⟩
  · cases middle with
    | nil =>
      obtain ⟨init, atStart⟩ := rest [] after (by simpa using tail.symm)
      simp at atStart
    | cons c middle =>
      obtain ⟨rfl, rfl⟩ := List.cons.inj (by simpa using tail)
      exact guarded before middle inFirst

theorem hexDigit_ne_quote : ∀ n < 16, hexDigit n ≠ '"' := by decide

theorem quote_not_mem_unicodeEscape (unit : Nat) : '"' ∉ unicodeEscape unit := by
  have digit : ∀ n, '"' ≠ hexDigit (n % 16) := fun n => (hexDigit_ne_quote _ (Nat.mod_lt n (by decide))).symm
  simp [unicodeEscape, digit]

theorem guarded_escapeChar (ensureAscii : Bool) (c : Char) : Guarded (escapeChar ensureAscii c) := by
  have plain : c ≠ '"' → Guarded [c] := fun different => guarded_of_free (by simpa using different.symm)
  have unit := fun n => guarded_of_free (quote_not_mem_unicodeEscape n)
  unfold escapeChar
  split
  · intro before after split
    cases before with
    | nil => simp at split
    | cons first before =>
      cases before with
      | nil =>
        simp only [List.cons_append, List.nil_append, List.cons.injEq] at split
        exact ⟨[], by rw [← split.1, List.nil_append]⟩
      | cons second before => simp at split
  · rename_i different
    split_ifs <;> first
      | exact guarded_of_free (by decide)
      | exact unit _
      | exact (unit _).append (unit _)
      | exact plain different

theorem guarded_escape (ensureAscii : Bool) (s : List Char) : Guarded (s.flatMap (escapeChar ensureAscii)) := by
  induction s with
  | nil => exact guarded_of_free (by simp)
  | cons c rest ih => exact (guarded_escapeChar ensureAscii c).append ih

variable {ensureAscii : Bool} {s t x y : List Char}

/-- A quoted string behind a colon can be read from the end of a text. -/
theorem quote_tail_le (short : x.length ≤ y.length)
    (same : x ++ ':' :: quote ensureAscii s = y ++ ':' :: quote ensureAscii t) : x = y := by
  obtain ⟨middle, rfl, rest⟩ : ∃ middle, y = x ++ middle ∧
      ':' :: quote ensureAscii s = middle ++ ':' :: quote ensureAscii t := by
    rcases List.append_eq_append_iff.mp same with found | ⟨middle, rfl, rest⟩
    · exact found
    · have empty : middle = [] := by
        simp only [List.length_append] at short
        exact List.length_eq_zero_iff.mp (by omega)
      subst empty
      exact ⟨[], by simp, by simpa using rest.symm⟩
  cases middle with
  | nil => simp
  | cons c middle =>
    cases middle with
    | nil => simp [quote] at rest
    | cons d middle =>
      -- The opening quote of the shorter text would be a quote inside the longer one, behind a colon.
      exfalso
      simp only [quote, List.cons_append, List.cons.injEq] at rest
      have inside :
          s.flatMap (escapeChar ensureAscii) = (middle ++ [':']) ++ '"' :: t.flatMap (escapeChar ensureAscii) := by
        have closing : s.flatMap (escapeChar ensureAscii) ++ ['"'] =
            ((middle ++ [':']) ++ '"' :: t.flatMap (escapeChar ensureAscii)) ++ ['"'] := by
          simpa using rest.2.2
        exact List.append_cancel_right closing
      obtain ⟨init, ends⟩ := guarded_escape ensureAscii s _ _ inside
      have last := congrArg List.getLast? ends
      simp at last

theorem quote_tail (same : x ++ ':' :: quote ensureAscii s = y ++ ':' :: quote ensureAscii t) :
    x = y ∧ quote ensureAscii s = quote ensureAscii t := by
  have front : x = y := by
    rcases Nat.le_total x.length y.length with short | short
    · exact quote_tail_le short same
    · exact (quote_tail_le short same.symm).symm
  subst front
  exact ⟨rfl, by simpa using List.append_cancel_left same⟩

/-- So can a string that may be missing. -/
theorem ofOption_tail {a b : Option String}
    (same : x ++ ':' :: dumps ensureAscii (ofOption a) = y ++ ':' :: dumps ensureAscii (ofOption b)) :
    x = y ∧ dumps ensureAscii (ofOption a) = dumps ensureAscii (ofOption b) := by
  have last := congrArg List.getLast? same
  cases a with
  | none =>
    cases b with
    | none => exact ⟨List.append_cancel_right same, rfl⟩
    | some t => simp [ofOption, dumps, quote, List.getLast?_append, List.getLast?_cons] at last
  | some s =>
    cases b with
    | none => simp [ofOption, dumps, quote, List.getLast?_append, List.getLast?_cons] at last
    | some t => exact quote_tail same

end Json

/-- A digest, as a hash without collisions gives it: hexadecimal digits. -/
structure Digest (sha256 : String → String) : Prop where
  injective : Function.Injective sha256
  digits : ∀ text, ∀ c ∈ (sha256 text).toList, c ∈ "0123456789abcdef".toList

open Json in
/-- A string of hexadecimal digits is quoted as it stands. -/
theorem quote_digits {ensureAscii : Bool} {s : List Char} (digits : ∀ c ∈ s, c ∈ "0123456789abcdef".toList) :
    quote ensureAscii s = '"' :: (s ++ ['"']) := by
  have plain : ∀ c ∈ "0123456789abcdef".toList, escapeChar ensureAscii c = [c] := by cases ensureAscii <;> decide
  have same : s.flatMap (escapeChar ensureAscii) = s.flatMap fun c => [c] :=
    List.flatMap_congr fun c member => plain c (digits c member)
  unfold quote
  rw [same, List.flatMap_singleton']

open Json in
/-- A digest that may be missing can be read off its text. -/
theorem ofOption_digits {ensureAscii : Bool} {a b : Option String}
    (digits : ∀ h ∈ a, ∀ c ∈ h.toList, c ∈ "0123456789abcdef".toList)
    (otherDigits : ∀ h ∈ b, ∀ c ∈ h.toList, c ∈ "0123456789abcdef".toList)
    (same : dumps ensureAscii (ofOption a) = dumps ensureAscii (ofOption b)) : a = b := by
  cases a with
  | none =>
    cases b with
    | none => rfl
    | some second => simp [ofOption, dumps, quote] at same
  | some first =>
    cases b with
    | none => simp [ofOption, dumps, quote] at same
    | some second =>
      simp only [ofOption, dumps] at same
      rw [quote_digits (digits first rfl), quote_digits (otherDigits second rfl)] at same
      have lists := List.append_cancel_right (List.cons.inj same).2
      rw [String.ext_iff.mpr lists]

end SacmRuntime
