import SacmRuntime.Lib.Json

namespace SacmRuntime

namespace Json
variable (quoted : String → List Char)

mutual
/-- `repr` of a value, given that of strings. -/
def repr : Json → List Char
  | .null => "None".toList
  | .bool true => "True".toList
  | .bool false => "False".toList
  | .int n => (toString n).toList
  | .float x => x.text
  | .str s => quoted s
  | .arr items => '[' :: (", ".toList.intercalate (reprItems items) ++ [']'])
  | .obj fields => '{' :: (", ".toList.intercalate (reprFields fields) ++ ['}'])

def reprItems : List Json → List (List Char)
  | [] => []
  | item :: rest => repr item :: reprItems rest

def reprFields : List (String × Json) → List (List Char)
  | [] => []
  | (key, value) :: rest => (quoted key ++ ": ".toList ++ repr value) :: reprFields rest
end

theorem reprItems_eq (items : List Json) : reprItems quoted items = items.map (repr quoted) := by
  induction items with
  | nil => rfl
  | cons item rest ih => rw [reprItems, ih, List.map_cons]

theorem reprFields_eq (fields : List (String × Json)) :
    reprFields quoted fields = fields.map fun field => quoted field.1 ++ ": ".toList ++ repr quoted field.2 := by
  induction fields with
  | nil => rfl
  | cons field rest ih => rw [reprFields, ih, List.map_cons]

end Json

section Lengths
variable {α : Type} {sep : List α} {shorter longer : List (List α)}

/-- Longer pieces make a longer text. -/
theorem length_intercalate_le (pieces : List.Forall₂ (fun a b => a.length ≤ b.length) shorter longer) :
    (sep.intercalate shorter).length ≤ (sep.intercalate longer).length := by
  induction pieces with
  | nil => exact Nat.le_refl _
  | @cons a b as bs first rest ih =>
    cases rest with
    | nil => simpa using first
    | cons second more =>
      rw [List.intercalate_cons_cons, List.intercalate_cons_cons]
      simp only [List.length_append] at ih ⊢
      omega

/-- One piece more makes a longer text. -/
theorem length_intercalate_concat (pieces : List (List α)) (piece : List α) :
    (sep.intercalate pieces).length ≤ (sep.intercalate (pieces ++ [piece])).length := by
  induction pieces with
  | nil => simp
  | cons first rest ih =>
    cases rest with
    | nil =>
      simp only [List.cons_append, List.nil_append, List.intercalate_cons_cons, List.intercalate_singleton]
      simp only [List.length_append]
      omega
    | cons second more =>
      rw [List.cons_append, List.cons_append, List.intercalate_cons_cons, List.intercalate_cons_cons]
      simp only [List.length_append, List.cons_append] at ih ⊢
      omega

end Lengths

namespace Json
variable {quoted : String → List Char}

theorem length_arr_concat (items : List Json) (item : Json) :
    (repr quoted (.arr items)).length ≤ (repr quoted (.arr (items ++ [item]))).length := by
  have longer : (", ".toList.intercalate (reprItems quoted items)).length ≤
      (", ".toList.intercalate (reprItems quoted (items ++ [item]))).length := by
    rw [reprItems_eq, reprItems_eq, List.map_append]
    exact length_intercalate_concat _ _
  rw [repr, repr, List.length_cons, List.length_cons, List.length_append, List.length_append]
  omega

/-- An object of the same keys with longer values is longer. -/
theorem length_obj_le {fields others : List (String × Json)}
    (longer : List.Forall₂ (fun a b => a.1 = b.1 ∧ (repr quoted a.2).length ≤ (repr quoted b.2).length) fields others) :
    (repr quoted (.obj fields)).length ≤ (repr quoted (.obj others)).length := by
  have pieces : (", ".toList.intercalate (reprFields quoted fields)).length ≤
      (", ".toList.intercalate (reprFields quoted others)).length := by
    rw [reprFields_eq, reprFields_eq]
    refine length_intercalate_le (List.forall₂_map_left_iff.mpr (List.forall₂_map_right_iff.mpr ?_))
    refine longer.imp fun a b both => ?_
    rw [both.1]
    simp only [List.length_append]
    omega
  rw [repr, repr, List.length_cons, List.length_cons, List.length_append, List.length_append]
  omega

end Json

end SacmRuntime
