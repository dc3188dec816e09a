import SacmRuntime.Lib.JsonText

namespace SacmRuntime

namespace Json

mutual
/-- A document as it is read back from a text with sorted keys. -/
def sortKeys : Json → Json
  | .arr items => .arr (sortItems items)
  | .obj fields => .obj (sortByKey (sortFields fields))
  | other => other

def sortItems : List Json → List Json
  | [] => []
  | item :: rest => item.sortKeys :: sortItems rest

def sortFields : List (String × Json) → List (String × Json)
  | [] => []
  | (key, value) :: rest => (key, value.sortKeys) :: sortFields rest
end

theorem sortFields_eq (fields : List (String × Json)) :
    sortFields fields = fields.map fun field => (field.1, field.2.sortKeys) := by
  induction fields with
  | nil => rfl
  | cons field rest ih => rw [sortFields, ih, List.map_cons]

theorem mem_sortByKey {α : Type} {members : List (String × α)} {field : String × α} :
    field ∈ sortByKey members ↔ field ∈ members := List.mem_insertionSort _

theorem sortByKey_sorted {α : Type} (members : List (String × α)) :
    (sortByKey members).Pairwise fun a b => a.1 ≤ b.1 := by
  have : Std.Total fun a b : String × α => a.1 ≤ b.1 := ⟨fun a b => le_total a.1 b.1⟩
  have : IsTrans (String × α) fun a b => a.1 ≤ b.1 := ⟨fun _ _ _ => le_trans⟩
  exact List.pairwise_insertionSort _ members

theorem sortByKey_same {α : Type} {members : List (String × α)} (sorted : members.Pairwise fun a b => a.1 ≤ b.1) :
    sortByKey members = members := List.Pairwise.insertionSort_eq sorted

mutual
/-- Sorting the keys again changes nothing. -/
theorem sortKeys_sortKeys : ∀ j : Json, j.sortKeys.sortKeys = j.sortKeys
  | .null | .bool _ | .int _ | .float _ | .str _ => by simp [sortKeys]
  | .arr items => by rw [sortKeys, sortKeys, sortItems_sortItems items]
  | .obj fields => by
    have fixed : sortFields (sortByKey (sortFields fields)) = sortByKey (sortFields fields) := by
      rw [sortFields_eq, List.map_congr_left (g := id), List.map_id]
      intro field member
      have same := sortFields_fixed fields field (mem_sortByKey.mp member)
      exact Prod.ext rfl same
    rw [sortKeys, sortKeys, fixed, sortByKey_same (sortByKey_sorted _)]

theorem sortItems_sortItems : ∀ items : List Json, sortItems (sortItems items) = sortItems items
  | [] => rfl
  | item :: rest => by rw [sortItems, sortItems, sortKeys_sortKeys item, sortItems_sortItems rest]

theorem sortFields_fixed : ∀ fields : List (String × Json), ∀ field ∈ sortFields fields, field.2.sortKeys = field.2
  | [] => by simp [sortFields]
  | (key, value) :: rest => by
    intro field member
    rw [sortFields] at member
    rcases List.mem_cons.mp member with rfl | later
    · exact sortKeys_sortKeys value
    · exact sortFields_fixed rest field later
end

/-- With distinct keys, a member is found exactly when it is there. -/
theorem find_key_iff {α : Type} {members : List (String × α)} {key : String} {field : String × α}
    (distinct : (members.map Prod.fst).Nodup) :
    members.find? (fun other => other.1 == key) = some field ↔ field ∈ members ∧ field.1 = key := by
  constructor
  · intro found
    have named := List.find?_some found
    rw [beq_iff_eq] at named
    exact ⟨List.mem_of_find?_eq_some found, named⟩
  · rintro ⟨member, rfl⟩
    induction members with
    | nil => cases member
    | cons first rest ih =>
      rw [List.map_cons, List.nodup_cons] at distinct
      rcases List.mem_cons.mp member with rfl | later
      · exact List.find?_cons_of_pos (by simp)
      · have other : first.1 ≠ field.1 := by
          intro same
          exact distinct.1 (same ▸ List.mem_map_of_mem later)
        rw [List.find?_cons_of_neg (by simp [other])]
        exact ih distinct.2 later

/-- Sorting the members moves none of them. -/
theorem find_sortByKey {α : Type} {members : List (String × α)} (key : String)
    (distinct : (members.map Prod.fst).Nodup) :
    (sortByKey members).find? (fun field => field.1 == key) = members.find? fun field => field.1 == key := by
  have permuted : (sortByKey members).Perm members := List.perm_insertionSort _ members
  have sortedDistinct : ((sortByKey members).map Prod.fst).Nodup := (permuted.map Prod.fst).nodup_iff.mpr distinct
  apply Option.ext
  intro field
  rw [find_key_iff sortedDistinct, find_key_iff distinct, mem_sortByKey]

variable {fields : List (String × Json)}

theorem field_sortKeys (key : String) (distinct : (fields.map Prod.fst).Nodup) :
    (sortKeys (.obj fields)).field? key = ((Json.obj fields).field? key).map sortKeys := by
  have keys : (sortFields fields).map Prod.fst = fields.map Prod.fst := by
    rw [sortFields_eq, List.map_map]
    rfl
  rw [sortKeys]
  unfold field?
  simp only
  rw [find_sortByKey key (keys ▸ distinct), sortFields_eq, List.find?_map, Option.map_map, Option.map_map]
  rfl

theorem get_eq_field (j : Json) (key : String) : j.get key = (j.field? key).getD .null := by
  cases j <;> rfl

theorem get_sortKeys (key : String) (distinct : (fields.map Prod.fst).Nodup) :
    (sortKeys (.obj fields)).get key = ((Json.obj fields).get key).sortKeys := by
  rw [get_eq_field, get_eq_field, field_sortKeys key distinct]
  cases (Json.obj fields).field? key <;> simp [sortKeys]

/-- Sorting looks at the keys only. -/
theorem sortByKey_map {α β : Type} (f : α → β) (members : List (String × α)) :
    sortByKey (members.map fun field => (field.1, f field.2)) =
      (sortByKey members).map fun field => (field.1, f field.2) :=
  (List.map_insertionSort (fun a b : String × α => a.1 ≤ b.1) (fun a b : String × β => a.1 ≤ b.1)
    (fun field => (field.1, f field.2)) members fun _ _ _ _ => Iff.rfl).symm

mutual
/-- The text has its keys sorted, so it does not matter whether the document had. -/
theorem dumps_sortKeys (ensureAscii : Bool) : ∀ j : Json, j.sortKeys.dumps ensureAscii = j.dumps ensureAscii
  | .null | .bool _ | .int _ | .float _ | .str _ => by simp [sortKeys]
  | .arr items => by rw [sortKeys, dumps, dumps, dumpsItems_sortItems ensureAscii items]
  | .obj fields => by
    have fixed : sortByKey (dumpsFields ensureAscii (sortByKey (sortFields fields))) =
        sortByKey (dumpsFields ensureAscii fields) := by
      rw [dumpsFields_eq, sortByKey_map, sortByKey_same (sortByKey_sorted _), ← sortByKey_map, ← dumpsFields_eq,
        dumpsFields_sortFields ensureAscii fields]
    rw [sortKeys, dumps, dumps, fixed]

theorem dumpsItems_sortItems (ensureAscii : Bool) :
    ∀ items : List Json, dumpsItems ensureAscii (sortItems items) = dumpsItems ensureAscii items
  | [] => rfl
  | item :: rest => by
    rw [sortItems, dumpsItems, dumpsItems, dumps_sortKeys ensureAscii item, dumpsItems_sortItems ensureAscii rest]

theorem dumpsFields_sortFields (ensureAscii : Bool) :
    ∀ fields : List (String × Json), dumpsFields ensureAscii (sortFields fields) = dumpsFields ensureAscii fields
  | [] => rfl
  | (key, value) :: rest => by
    rw [sortFields, dumpsFields, dumpsFields, dumps_sortKeys ensureAscii value, dumpsFields_sortFields ensureAscii rest]
end

end Json

end SacmRuntime
