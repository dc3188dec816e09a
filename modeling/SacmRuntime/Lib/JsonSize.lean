import Mathlib.Algebra.Ring.Nat
import SacmRuntime.Lib.JsonText

namespace SacmRuntime

namespace Json

/-- The number of characters of a document's text. -/
def size (ensureAscii : Bool) (j : Json) : Nat := (dumps ensureAscii j).length

/-- The characters a list of items takes, with one separator each. -/
def itemsSize (ensureAscii : Bool) (items : List Json) : Nat := (items.map fun item => size ensureAscii item + 1).sum

/-- The characters the members of an object take, with one separator each. -/
def fieldsSize (ensureAscii : Bool) (fields : List (String × Json)) : Nat :=
  (fields.map fun field => (quote ensureAscii field.1.toList).length + size ensureAscii field.2 + 2).sum

theorem length_commaJoin (texts : List (List Char)) :
    (commaJoin texts).length = (texts.map fun text => text.length + 1).sum - 1 := by
  induction texts with
  | nil => rfl
  | cons text rest ih =>
    cases rest with
    | nil => simp [commaJoin]
    | cons next rest =>
      simp only [commaJoin, List.length_append, List.length_cons, ih, List.map_cons, List.sum_cons]
      omega

theorem size_arr (ensureAscii : Bool) (items : List Json) :
    size ensureAscii (.arr items) = itemsSize ensureAscii items - 1 + 2 := by
  simp [size, dumps, length_commaJoin, dumpsItems_eq, itemsSize, Function.comp_def]

/-- Sorting the members does not change how long they are. -/
theorem size_obj (ensureAscii : Bool) (fields : List (String × Json)) :
    size ensureAscii (.obj fields) = fieldsSize ensureAscii fields - 1 + 2 := by
  have sorted : (sortByKey (dumpsFields ensureAscii fields)).Perm (dumpsFields ensureAscii fields) :=
    List.perm_insertionSort _ _
  have sum := ((sorted.map (member ensureAscii)).map fun text => text.length + 1).sum_nat
  simp only [size, dumps, List.length_cons, List.length_append, length_commaJoin, List.length_nil]
  rw [sum, dumpsFields_eq]
  simp only [List.map_map, fieldsSize, Function.comp_def, member, List.length_append, List.length_cons, size,
    Nat.add_assoc, Nat.reduceAdd]

@[simp] theorem itemsSize_nil (ensureAscii : Bool) : itemsSize ensureAscii [] = 0 := rfl

@[simp] theorem itemsSize_cons (ensureAscii : Bool) (item : Json) (rest : List Json) :
    itemsSize ensureAscii (item :: rest) = size ensureAscii item + 1 + itemsSize ensureAscii rest := rfl

@[simp] theorem fieldsSize_nil (ensureAscii : Bool) : fieldsSize ensureAscii [] = 0 := rfl

@[simp] theorem fieldsSize_cons (ensureAscii : Bool) (key : String) (value : Json) (rest : List (String × Json)) :
    fieldsSize ensureAscii ((key, value) :: rest) =
      (quote ensureAscii key.toList).length + size ensureAscii value + 2 + fieldsSize ensureAscii rest := rfl

theorem itemsSize_eq (ensureAscii : Bool) (items : List Json) :
    itemsSize ensureAscii items = ((dumpsItems ensureAscii items).map fun text => text.length + 1).sum := by
  rw [dumpsItems_eq, List.map_map]
  rfl

theorem fieldsSize_eq (ensureAscii : Bool) (fields : List (String × Json)) :
    fieldsSize ensureAscii fields = ((dumpsFields ensureAscii fields).map fun field =>
      (quote ensureAscii field.1.toList).length + field.2.length + 2).sum := by
  rw [dumpsFields_eq, List.map_map]
  rfl

/-- Items left out make the text shorter. -/
theorem itemsSize_filter {α : Type} (ensureAscii : Bool) (f : α → Json) (q : α → Bool) (items : List α) :
    itemsSize ensureAscii ((items.filter q).map f) ≤ itemsSize ensureAscii (items.map f) ∧
      (itemsSize ensureAscii ((items.filter q).map f) = itemsSize ensureAscii (items.map f) →
        items.filter q = items) := by
  induction items with
  | nil => simp
  | cons item rest ih =>
    cases kept : q item with
    | true =>
      simp only [List.filter_cons_of_pos kept, List.map_cons, itemsSize_cons, List.cons.injEq, true_and]
      exact ⟨by omega, fun same => ih.2 (by omega)⟩
    | false =>
      rw [List.filter_cons_of_neg (by simp [kept])]
      simp only [List.map_cons, itemsSize_cons]
      exact ⟨by omega, fun same => by omega⟩

mutual
/-- Every string and every key has only characters below DEL. -/
def ascii : Json → Bool
  | .str s => s.toList.all fun c => decide (c.toNat < 127)
  | .arr items => asciiItems items
  | .obj fields => asciiFields fields
  | .null | .bool _ | .int _ | .float _ => true

def asciiItems : List Json → Bool
  | [] => true
  | item :: rest => item.ascii && asciiItems rest

def asciiFields : List (String × Json) → Bool
  | [] => true
  | (key, value) :: rest => key.toList.all (fun c => decide (c.toNat < 127)) && value.ascii && asciiFields rest
end

theorem length_unicodeEscape (unit : Nat) : (unicodeEscape unit).length = 6 := rfl

theorem escapeChar_low {c : Char} (low : c.toNat < 127) : escapeChar true c = escapeChar false c := by
  simp only [escapeChar, low, if_true]

/-- A character from DEL on is escaped only for ASCII. -/
theorem escapeChar_high {c : Char} (high : ¬c.toNat < 127) :
    (escapeChar false c).length < (escapeChar true c).length := by
  have special : ∀ other : Char, other.toNat < 127 → c ≠ other := by
    rintro other low rfl
    exact high low
  have plain : escapeChar false c = [c] := by
    simp only [escapeChar, special '"' (by decide), special '\\' (by decide), special '\n' (by decide),
      special '\r' (by decide), special '\t' (by decide), high, if_false, Bool.false_eq_true]
    simp only [show c.toNat ≠ 8 by omega, show c.toNat ≠ 12 by omega, show ¬c.toNat < 32 by omega, if_false]
  have escaped : 6 ≤ (escapeChar true c).length := by
    simp only [escapeChar, special '"' (by decide), special '\\' (by decide), special '\n' (by decide),
      special '\r' (by decide), special '\t' (by decide), high, if_false, if_true]
    simp only [show c.toNat ≠ 8 by omega, show c.toNat ≠ 12 by omega, show ¬c.toNat < 32 by omega, if_false]
    split <;> simp [length_unicodeEscape]
  simp only [plain, List.length_singleton]
  omega

/-- Either both encodings of a string agree, or the escaped one is longer. -/
theorem quote_cases (s : List Char) :
    ((s.all fun c => decide (c.toNat < 127)) = true ∧ quote true s = quote false s) ∨
      ((s.all fun c => decide (c.toNat < 127)) = false ∧ (quote false s).length < (quote true s).length) := by
  induction s with
  | nil => exact .inl ⟨rfl, rfl⟩
  | cons c rest ih =>
    simp only [quote, List.flatMap_cons, List.append_assoc, List.length_cons, List.length_append, List.all_cons] at ih ⊢
    by_cases low : c.toNat < 127
    · rw [escapeChar_low low]
      simp only [low, decide_true, Bool.true_and]
      rcases ih with ⟨all, same⟩ | ⟨some, shorter⟩
      · exact .inl ⟨all, by simpa using same⟩
      · exact .inr ⟨some, by omega⟩
    · have longer := escapeChar_high low
      refine .inr ⟨by simp [low], ?_⟩
      rcases ih with ⟨_, same⟩ | ⟨_, shorter⟩
      · have lengths := congrArg List.length same
        simp only [List.length_cons, List.length_append] at lengths
        omega
      · omega

theorem one_le_escapeChar (ensureAscii : Bool) (c : Char) : 1 ≤ (escapeChar ensureAscii c).length := by
  unfold escapeChar
  repeat' split
  all_goals simp [length_unicodeEscape]

/-- Quoting does not make a string shorter. -/
theorem length_le_quote (ensureAscii : Bool) (s : List Char) : s.length + 2 ≤ (quote ensureAscii s).length := by
  induction s with
  | nil => exact Nat.le_refl 2
  | cons c rest ih =>
    have first := one_le_escapeChar ensureAscii c
    simp only [quote, List.flatMap_cons, List.append_assoc, List.length_cons, List.length_append,
      List.length_nil] at ih ⊢
    omega

mutual
/-- Either both texts of a document agree, or the escaped one is longer. -/
theorem dumps_cases : ∀ j : Json, (j.ascii = true ∧ dumps true j = dumps false j) ∨
    (j.ascii = false ∧ size false j < size true j)
  | .null | .int _ | .float _ => .inl ⟨rfl, rfl⟩
  | .bool true | .bool false => .inl ⟨rfl, rfl⟩
  | .str s => quote_cases s.toList
  | .arr items => by
    rcases dumpsItems_cases items with ⟨all, same⟩ | ⟨some, shorter⟩
    · exact .inl ⟨all, by simp only [dumps, same]⟩
    · refine .inr ⟨some, ?_⟩
      rw [size_arr, size_arr]
      cases items with
      | nil => simp at shorter
      | cons item rest =>
        simp only [itemsSize_cons] at shorter ⊢
        omega
  | .obj fields => by
    rcases dumpsFields_cases fields with ⟨all, same, keys⟩ | ⟨some, shorter⟩
    · refine .inl ⟨all, ?_⟩
      have members : (sortByKey (dumpsFields false fields)).map (member true) =
          (sortByKey (dumpsFields false fields)).map (member false) := by
        refine List.map_congr_left fun field inSorted => ?_
        rw [member, member, keys field ((List.mem_insertionSort _).mp inSorted)]
      simp only [dumps, same, members]
    · refine .inr ⟨some, ?_⟩
      rw [size_obj, size_obj]
      cases fields with
      | nil => simp at shorter
      | cons field rest =>
        obtain ⟨key, value⟩ := field
        simp only [fieldsSize_cons] at shorter ⊢
        omega

theorem dumpsItems_cases : ∀ items : List Json,
    (asciiItems items = true ∧ dumpsItems true items = dumpsItems false items) ∨
      (asciiItems items = false ∧ itemsSize false items < itemsSize true items)
  | [] => .inl ⟨rfl, rfl⟩
  | item :: rest => by
    simp only [asciiItems, dumpsItems, itemsSize_cons, size]
    rcases dumps_cases item with ⟨first, same⟩ | ⟨first, shorter⟩ <;>
      rcases dumpsItems_cases rest with ⟨others, sameRest⟩ | ⟨others, shorterRest⟩
    · exact .inl ⟨by simp [first, others], by rw [same, sameRest]⟩
    · exact .inr ⟨by simp [first, others], by rw [same]; omega⟩
    · have lengths : itemsSize true rest = itemsSize false rest := by rw [itemsSize_eq, itemsSize_eq, sameRest]
      exact .inr ⟨by simp [first], by simp only [size] at shorter; omega⟩
    · exact .inr ⟨by simp [first], by simp only [size] at shorter; omega⟩

theorem dumpsFields_cases : ∀ fields : List (String × Json),
    (asciiFields fields = true ∧ dumpsFields true fields = dumpsFields false fields ∧
      ∀ field ∈ dumpsFields false fields, quote true field.1.toList = quote false field.1.toList) ∨
      (asciiFields fields = false ∧ fieldsSize false fields < fieldsSize true fields)
  | [] => .inl ⟨rfl, rfl, by simp [dumpsFields]⟩
  | (key, value) :: rest => by
    simp only [asciiFields, dumpsFields, fieldsSize_cons, List.forall_mem_cons]
    have ofKey := quote_cases key.toList
    have ofValue := dumps_cases value
    have ofRest := dumpsFields_cases rest
    have keyLe : (quote false key.toList).length ≤ (quote true key.toList).length := by
      rcases ofKey with ⟨_, same⟩ | ⟨_, shorter⟩
      · rw [same]
      · omega
    have valueLe : size false value ≤ size true value := by
      rcases ofValue with ⟨_, same⟩ | ⟨_, shorter⟩
      · rw [size, size, same]
      · omega
    have restLe : fieldsSize false rest ≤ fieldsSize true rest := by
      rcases ofRest with ⟨_, same, keys⟩ | ⟨_, shorter⟩
      · rw [fieldsSize_eq true, fieldsSize_eq false, same, List.map_congr_left fun field inRest => ?_]
        rw [keys field inRest]
      · omega
    rcases ofKey with ⟨key, sameKey⟩ | ⟨key, shorter⟩
    · rcases ofValue with ⟨value, same⟩ | ⟨value, shorter⟩
      · rcases ofRest with ⟨all, sameRest, keys⟩ | ⟨some, shorter⟩
        · exact .inl ⟨by simp only [key, value, all, Bool.and_self], by rw [same, sameRest], sameKey, keys⟩
        · exact .inr ⟨by simp only [some, Bool.and_false], by omega⟩
      · exact .inr ⟨by simp only [value, Bool.and_false, Bool.false_and], by omega⟩
    · exact .inr ⟨by simp only [key, Bool.false_and], by omega⟩
end

theorem fieldsSize_append (ensureAscii : Bool) (first second : List (String × Json)) :
    fieldsSize ensureAscii (first ++ second) = fieldsSize ensureAscii first + fieldsSize ensureAscii second := by
  simp [fieldsSize, List.map_append, List.sum_append]

/-- A smaller member makes a smaller object. -/
theorem size_member_lt (ensureAscii : Bool) (first second : List (String × Json)) (key : String) {a b : Json}
    (smaller : size ensureAscii a < size ensureAscii b) :
    size ensureAscii (.obj (first ++ (key, a) :: second)) < size ensureAscii (.obj (first ++ (key, b) :: second)) := by
  rw [size_obj, size_obj, fieldsSize_append, fieldsSize_append, fieldsSize_cons, fieldsSize_cons]
  omega

/-- The two texts agree exactly for ASCII. -/
theorem dumps_same_iff (j : Json) : dumps true j = dumps false j ↔ j.ascii = true := by
  rcases dumps_cases j with ⟨ascii, same⟩ | ⟨ascii, shorter⟩
  · simp [ascii, same]
  · refine ⟨fun same => ?_, fun all => ?_⟩
    · rw [size, size, same] at shorter
      omega
    · rw [ascii] at all
      cases all

theorem size_le (j : Json) : size false j ≤ size true j := by
  rcases dumps_cases j with ⟨_, same⟩ | ⟨_, shorter⟩
  · rw [size, size, same]
  · omega

end Json

end SacmRuntime
