import Mathlib.Data.List.Sort
import Mathlib.Data.String.Basic

namespace SacmRuntime

/-- A condition on the characters of a text is decided along the text. -/
instance (priority := 2000) decidableForallMemChar {p : Char → Prop} [DecidablePred p] (text : List Char) :
    Decidable (∀ c ∈ text, p c) := List.decidableBAll p text

/-- Pairs of texts are compared part by part. -/
instance lawfulPairOfTexts : LawfulBEq (String × String) := Prod.instLawfulBEq

instance lawfulChars : LawfulBEq (List Char) := List.instLawfulBEq

/-- The text `float.__repr__` gives a number. Both text encoders write it
out unchanged, so the text itself stands for the number. -/
structure FloatText where
  text : List Char
  printable : ∀ c ∈ text, 32 ≤ c.toNat ∧ c.toNat < 127
  deriving DecidableEq

theorem FloatText.zero_printable : ∀ c ∈ ['0', '.', '0'], 32 ≤ c.toNat ∧ c.toNat < 127 := by decide

theorem FloatText.one_printable : ∀ c ∈ ['1', '.', '0'], 32 ≤ c.toNat ∧ c.toNat < 127 := by decide

/-- A JSON document with string keys. An object lists its members in
insertion order, as a `dict` does. -/
inductive Json where
  | null
  | bool (b : Bool)
  | int (n : Int)
  | float (x : FloatText)
  | str (s : String)
  | arr (items : List Json)
  | obj (fields : List (String × Json))

namespace Json

mutual
/-- Structural equality of documents. -/
def same : Json → Json → Bool
  | .null, .null => true
  | .bool a, .bool b => a == b
  | .int a, .int b => a == b
  | .float a, .float b => decide (a = b)
  | .str a, .str b => a == b
  | .arr as, .arr bs => sameItems as bs
  | .obj as, .obj bs => sameFields as bs
  | _, _ => false

def sameItems : List Json → List Json → Bool
  | [], [] => true
  | a :: as, b :: bs => a.same b && sameItems as bs
  | _, _ => false

def sameFields : List (String × Json) → List (String × Json) → Bool
  | [], [] => true
  | (k, a) :: as, (l, b) :: bs => k == l && a.same b && sameFields as bs
  | _, _ => false
end

mutual
theorem same_iff : ∀ a b : Json, a.same b = true ↔ a = b
  | .null, b => by cases b <;> simp [same]
  | .bool a, b => by cases b <;> simp [same]
  | .int a, b => by cases b <;> simp [same]
  | .float a, b => by cases b <;> simp [same]
  | .str a, b => by cases b <;> simp [same]
  | .arr as, b => by
    cases b with
    | arr bs => simp [same, sameItems_iff as bs]
    | _ => simp [same]
  | .obj as, b => by
    cases b with
    | obj bs => simp [same, sameFields_iff as bs]
    | _ => simp [same]

theorem sameItems_iff : ∀ as bs : List Json, sameItems as bs = true ↔ as = bs
  | [], bs => by cases bs <;> simp [sameItems]
  | a :: as, bs => by
    cases bs with
    | nil => simp [sameItems]
    | cons b bs => simp [sameItems, same_iff a b, sameItems_iff as bs]

theorem sameFields_iff : ∀ as bs : List (String × Json), sameFields as bs = true ↔ as = bs
  | [], bs => by cases bs <;> simp [sameFields]
  | (k, a) :: as, bs => by
    cases bs with
    | nil => simp [sameFields]
    | cons b bs => simp [sameFields, same_iff a b.2, sameFields_iff as bs, Prod.ext_iff, and_assoc]
end

instance : DecidableEq Json := fun a b => decidable_of_iff (a.same b = true) (same_iff a b)

instance : Inhabited Json := ⟨.null⟩

/-- `dict.get(key)`: a missing key and an explicit null read the same. -/
def get (j : Json) (key : String) : Json :=
  match j with
  | .obj fields => ((fields.find? fun field => field.1 == key).map Prod.snd).getD .null
  | _ => .null

def setField (key : String) (value : Json) : List (String × Json) → List (String × Json)
  | [] => [(key, value)]
  | (k, v) :: rest => if k = key then (key, value) :: rest else (k, v) :: setField key value rest

/-- `{**d, key: value}`: an existing key keeps its place. -/
def set (j : Json) (key : String) (value : Json) : Json :=
  match j with
  | .obj fields => .obj (setField key value fields)
  | _ => .obj [(key, value)]

/-- `dict.pop(key, None)`. -/
def erase (j : Json) (key : String) : Json :=
  match j with
  | .obj fields => .obj (fields.filter fun field => field.1 != key)
  | other => other

/-- Python truth value. -/
def truthy : Json → Bool
  | .null => false
  | .bool b => b
  | .int n => n != 0
  | .float x => x.text != ['0', '.', '0'] && x.text != ['-', '0', '.', '0']
  | .str s => s != ""
  | .arr items => !items.isEmpty
  | .obj fields => !fields.isEmpty

/-- `a or b`. -/
def orElse (a b : Json) : Json := if a.truthy then a else b

def ofOption : Option String → Json
  | some s => .str s
  | none => .null

def items : Json → List Json
  | .arr items => items
  | _ => []

/-- The string inside, when there is one. -/
def str? : Json → Option String
  | .str s => some s
  | _ => none

/-- `d[key]`: the value, when the key is present. -/
def field? (j : Json) (key : String) : Option Json :=
  match j with
  | .obj fields => (fields.find? fun field => field.1 == key).map Prod.snd
  | _ => none

theorem find_setField_self (key : String) (value : Json) (fields : List (String × Json)) :
    ((setField key value fields).find? fun field => field.1 == key) = some (key, value) := by
  induction fields with
  | nil => simp [setField]
  | cons field rest ih =>
    obtain ⟨k, v⟩ := field
    by_cases same : k = key
    · simp [setField, same]
    · simp [setField, same, ih]

variable {key other : String}

theorem find_setField_ne (different : other ≠ key) (value : Json) (fields : List (String × Json)) :
    ((setField key value fields).find? fun field => field.1 == other) =
      fields.find? fun field => field.1 == other := by
  induction fields with
  | nil => simp [setField, Ne.symm different]
  | cons field rest ih =>
    obtain ⟨k, v⟩ := field
    by_cases same : k = key
    · subst same
      simp [setField, Ne.symm different]
    · by_cases here : k = other
      · subst here
        simp [setField, same]
      · simp [setField, same, here, ih]

@[simp] theorem get_set_self (j : Json) (key : String) (value : Json) : (j.set key value).get key = value := by
  cases j with
  | obj fields => simp [set, get, find_setField_self]
  | _ => simp [set, get]

theorem get_set_ne (different : other ≠ key) (j value : Json) :
    (j.set key value).get other = j.get other := by
  cases j with
  | obj fields => simp [set, get, find_setField_ne different]
  | _ => simp [set, get, Ne.symm different]

theorem get_erase_ne (different : other ≠ key) (j : Json) :
    (j.erase key).get other = j.get other := by
  cases j with
  | obj fields =>
    simp only [erase, get, List.find?_filter]
    congr 3
    funext field
    by_cases same : field.1 = other
    · simp [same, different]
    · simp [same]
  | _ => rfl

end Json

end SacmRuntime
