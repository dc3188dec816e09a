import SacmRuntime.Lib.JsonText

namespace SacmRuntime
namespace Json

/-- The line break before what stands at a depth. -/
def newline (depth : Nat) : List Char := '\n' :: List.replicate (2 * depth) ' '

/-- Members between brackets, each on a line of its own. -/
def block (depth : Nat) (opens closes : Char) (members : List (List Char)) : List Char :=
  if members.isEmpty then [opens, closes]
  else opens :: (newline (depth + 1) ++ List.intercalate (',' :: newline (depth + 1)) members ++ newline depth ++
    [closes])

def spacedMember (field : String × List Char) : List Char := quote true field.1.toList ++ ':' :: ' ' :: field.2

mutual
/-- `json.dumps(value, indent=2, sort_keys=True)`, of a value at a depth. -/
def indented (depth : Nat) : Json → List Char
  | .null => ['n', 'u', 'l', 'l']
  | .bool true => ['t', 'r', 'u', 'e']
  | .bool false => ['f', 'a', 'l', 's', 'e']
  | .int n => (toString n).toList
  | .float x => x.text
  | .str s => quote true s.toList
  | .arr items => block depth '[' ']' (indentedItems (depth + 1) items)
  | .obj fields => block depth '\x7b' '\x7d' ((sortByKey (indentedFields (depth + 1) fields)).map spacedMember)

def indentedItems (depth : Nat) : List Json → List (List Char)
  | [] => []
  | item :: rest => indented depth item :: indentedItems depth rest

def indentedFields (depth : Nat) : List (String × Json) → List (String × List Char)
  | [] => []
  | (k, v) :: rest => (k, indented depth v) :: indentedFields depth rest
end

mutual
/-- `json.dumps(value, sort_keys=True)`. -/
def spaced : Json → List Char
  | .null => ['n', 'u', 'l', 'l']
  | .bool true => ['t', 'r', 'u', 'e']
  | .bool false => ['f', 'a', 'l', 's', 'e']
  | .int n => (toString n).toList
  | .float x => x.text
  | .str s => quote true s.toList
  | .arr items => '[' :: (List.intercalate [',', ' '] (spacedItems items) ++ [']'])
  | .obj fields =>
      '\x7b' :: (List.intercalate [',', ' '] ((sortByKey (spacedFields fields)).map spacedMember) ++ ['\x7d'])

def spacedItems : List Json → List (List Char)
  | [] => []
  | item :: rest => spaced item :: spacedItems rest

def spacedFields : List (String × Json) → List (String × List Char)
  | [] => []
  | (k, v) :: rest => (k, spaced v) :: spacedFields rest
end

variable {fields : List (String × Json)}

theorem sortByKey_ne_nil {α : Type} {members : List (String × α)} (some_ : members ≠ []) : sortByKey members ≠ [] := by
  intro none_
  have length : (sortByKey members).length = members.length := List.length_insertionSort _ _
  rw [none_, List.length_nil] at length
  exact some_ (List.length_eq_zero_iff.mp length.symm)

/-- The indented text of an object with members breaks the line first. -/
theorem indented_obj_head (some_ : fields ≠ []) : ∃ rest, indented 0 (.obj fields) = '\x7b' :: '\n' :: rest := by
  have members : indentedFields 1 fields ≠ [] := by
    cases fields with
    | nil => exact absurd rfl some_
    | cons field rest =>
      obtain ⟨k, v⟩ := field
      unfold indentedFields
      exact List.cons_ne_nil _ _
  have sorted : (sortByKey (indentedFields 1 fields)).map spacedMember ≠ [] := by
    simpa using sortByKey_ne_nil members
  rw [indented, block, if_neg (by simpa using sorted), newline]
  exact ⟨_, rfl⟩

theorem commaJoin_head {text : List Char} {texts : List (List Char)} {c : Char} {tail : List Char}
    (first : text = c :: tail) :
    ∃ rest, commaJoin (text :: texts) = c :: rest := by
  cases texts with
  | nil => exact ⟨tail, first⟩
  | cons next texts =>
    rw [commaJoin, first]
    exact ⟨_, rfl⟩

/-- The compact text of an object with members starts with a key. -/
theorem dumps_obj_head (ensureAscii : Bool) (some_ : fields ≠ []) :
    ∃ rest, dumps ensureAscii (.obj fields) = '\x7b' :: '"' :: rest := by
  have members : dumpsFields ensureAscii fields ≠ [] := by
    cases fields with
    | nil => exact absurd rfl some_
    | cons field rest =>
      obtain ⟨k, v⟩ := field
      unfold dumpsFields
      exact List.cons_ne_nil _ _
  obtain ⟨first, later, sorted⟩ := List.exists_cons_of_ne_nil (sortByKey_ne_nil members)
  obtain ⟨rest, joined⟩ :
      ∃ rest, commaJoin (member ensureAscii first :: later.map (member ensureAscii)) = '"' :: rest :=
    commaJoin_head rfl
  rw [dumps, sorted, List.map_cons, joined]
  exact ⟨_, rfl⟩

end Json
end SacmRuntime
