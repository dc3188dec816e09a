import SacmRuntime.Runtime.RedactedTexts

namespace SacmRuntime
namespace Redaction

/-- What `isoformat()` makes of a date. -/
structure IsoText where
  text : String
  iso : ∀ c ∈ text.toList, c ∈ isoChars

/-- A value as `_sanitize` is given it; a dict shows its keys by their text. -/
inductive Nested where
  | null
  | bool (b : Bool)
  | int (n : Int)
  | float (x : FloatText)
  | str (s : String)
  | date (date : IsoText)
  | list (items : List Nested)
  | tuple (items : List Nested)
  | dict (fields : List (String × Nested))

namespace Nested

mutual
def ofJson : Json → Nested
  | .null => .null
  | .bool b => .bool b
  | .int n => .int n
  | .float x => .float x
  | .str s => .str s
  | .arr items => .list (ofItems items)
  | .obj fields => .dict (ofFields fields)

def ofItems : List Json → List Nested
  | [] => []
  | item :: rest => ofJson item :: ofItems rest

def ofFields : List (String × Json) → List (String × Nested)
  | [] => []
  | (key, value) :: rest => (key, ofJson value) :: ofFields rest
end

variable (rules : Rules)

mutual
/-- `_sanitize`. -/
def sanitize : Nested → Json
  | .null => .null
  | .bool b => .bool b
  | .int n => .int n
  | .float x => .float x
  | .str s => .str (redactText rules s)
  | .date day => .str day.text
  | .list items => .arr (sanitizeItems items)
  | .tuple items => .arr (sanitizeItems items)
  | .dict fields => .obj (sanitizeFields fields)

def sanitizeItems : List Nested → List Json
  | [] => []
  | item :: rest => sanitize item :: sanitizeItems rest

def sanitizeFields : List (String × Nested) → List (String × Json)
  | [] => []
  | (key, value) :: rest =>
    (key, if secretKey key then .str "[REDACTED]" else sanitize value) :: sanitizeFields rest
end

mutual
/-- The keys and the dates that are not under a secret-like key. -/
def labels : Nested → List String
  | .date day => [day.text]
  | .list items => itemLabels items
  | .tuple items => itemLabels items
  | .dict fields => fieldLabels fields
  | _ => []

def itemLabels : List Nested → List String
  | [] => []
  | item :: rest => labels item ++ itemLabels rest

def fieldLabels : List (String × Nested) → List String
  | [] => []
  | (key, value) :: rest => key :: (if secretKey key then [] else labels value) ++ fieldLabels rest
end

end Nested

mutual
/-- The strings of a value, its keys among them. -/
def strings : Json → List String
  | .str s => [s]
  | .arr items => itemStrings items
  | .obj fields => fieldStrings fields
  | _ => []

def itemStrings : List Json → List String
  | [] => []
  | item :: rest => strings item ++ itemStrings rest

def fieldStrings : List (String × Json) → List String
  | [] => []
  | (key, value) :: rest => key :: strings value ++ fieldStrings rest
end

mutual
/-- The strings of a value that are no keys, but for those under secret-like keys. -/
def contents : Json → List String
  | .str s => [s]
  | .arr items => itemContents items
  | .obj fields => fieldContents fields
  | _ => []

def itemContents : List Json → List String
  | [] => []
  | item :: rest => contents item ++ itemContents rest

def fieldContents : List (String × Json) → List String
  | [] => []
  | (key, value) :: rest => (if secretKey key then [] else contents value) ++ fieldContents rest
end

mutual
def entries : Json → List (String × Json)
  | .arr items => itemEntries items
  | .obj fields => fieldEntries fields
  | _ => []

def itemEntries : List Json → List (String × Json)
  | [] => []
  | item :: rest => entries item ++ itemEntries rest

def fieldEntries : List (String × Json) → List (String × Json)
  | [] => []
  | (key, value) :: rest => (key, value) :: entries value ++ fieldEntries rest
end

section
variable {rules : Rules}

mutual
theorem sanitize_ofJson : ∀ j : Json, (Nested.ofJson j).sanitize rules = Redaction.sanitize rules j
  | .null => rfl
  | .bool _ => rfl
  | .int _ => rfl
  | .float _ => rfl
  | .str _ => rfl
  | .arr items => congrArg Json.arr (sanitize_ofItems items)
  | .obj fields => congrArg Json.obj (sanitize_ofFields fields)

theorem sanitize_ofItems : ∀ items : List Json,
    Nested.sanitizeItems rules (Nested.ofItems items) = Redaction.sanitizeItems rules items
  | [] => rfl
  | item :: rest => congrArg₂ List.cons (sanitize_ofJson item) (sanitize_ofItems rest)

theorem sanitize_ofFields : ∀ fields : List (String × Json),
    Nested.sanitizeFields rules (Nested.ofFields fields) = Redaction.sanitizeFields rules fields
  | [] => rfl
  | (key, value) :: rest => by
    rw [Nested.ofFields, Nested.sanitizeFields, sanitize_ofJson value, sanitize_ofFields rest]
    rfl
end

/-- Where a string or a key of a sanitised value may come from. -/
def Origin (rules : Rules) (labels : List String) (text : String) : Prop :=
  text ∈ labels ∨ text = "[REDACTED]" ∨ ∃ written, text = redactText rules written

theorem Origin.mono {labels wider : List String} {text : String} (origin : Origin rules labels text)
    (within : labels ⊆ wider) : Origin rules wider text := origin.imp_left fun label => within label

variable {text : String}

mutual
theorem mem_strings : ∀ value : Nested, text ∈ strings (value.sanitize rules) → Origin rules value.labels text
  | .null, member => absurd member List.not_mem_nil
  | .bool _, member => absurd member List.not_mem_nil
  | .int _, member => absurd member List.not_mem_nil
  | .float _, member => absurd member List.not_mem_nil
  | .str s, member => .inr (.inr ⟨s, List.mem_singleton.mp member⟩)
  | .date _, member => .inl member
  | .list items, member => mem_itemStrings items member
  | .tuple items, member => mem_itemStrings items member
  | .dict fields, member => mem_fieldStrings fields member

theorem mem_itemStrings : ∀ items : List Nested, text ∈ itemStrings (Nested.sanitizeItems rules items) →
    Origin rules (Nested.itemLabels items) text
  | [], member => absurd member List.not_mem_nil
  | item :: rest, member => by
    rcases List.mem_append.mp member with here | onward
    · exact (mem_strings item here).mono (List.subset_append_left _ _)
    · exact (mem_itemStrings rest onward).mono (List.subset_append_right _ _)

theorem mem_fieldStrings : ∀ fields : List (String × Nested),
    text ∈ fieldStrings (Nested.sanitizeFields rules fields) → Origin rules (Nested.fieldLabels fields) text
  | [], member => absurd member List.not_mem_nil
  | (key, value) :: rest, member => by
    rcases List.mem_append.mp member with first | onward
    · refine Origin.mono ?_ (List.subset_append_left _ _)
      rcases List.mem_cons.mp first with rfl | here
      · exact .inl List.mem_cons_self
      · cases named : secretKey key with
        | true =>
          rw [named, if_pos rfl] at here
          exact .inr (.inl (List.mem_singleton.mp here))
        | false =>
          rw [named, if_neg (by decide)] at here
          simp only [Bool.false_eq_true, if_false]
          exact (mem_strings value here).mono (List.subset_cons_self _ _)
    · exact (mem_fieldStrings rest onward).mono (List.subset_append_right _ _)
end

/-- A content of a sanitised value is a redacted text or a date. -/
def Rewritten (rules : Rules) (text : String) : Prop :=
  (∃ written, text = redactText rules written) ∨ ∃ day : IsoText, text = day.text

mutual
theorem mem_contents : ∀ value : Nested, text ∈ contents (value.sanitize rules) → Rewritten rules text
  | .null, member => absurd member List.not_mem_nil
  | .bool _, member => absurd member List.not_mem_nil
  | .int _, member => absurd member List.not_mem_nil
  | .float _, member => absurd member List.not_mem_nil
  | .str s, member => .inl ⟨s, List.mem_singleton.mp member⟩
  | .date day, member => .inr ⟨day, List.mem_singleton.mp member⟩
  | .list items, member => mem_itemContents items member
  | .tuple items, member => mem_itemContents items member
  | .dict fields, member => mem_fieldContents fields member

theorem mem_itemContents : ∀ items : List Nested, text ∈ itemContents (Nested.sanitizeItems rules items) →
    Rewritten rules text
  | [], member => absurd member List.not_mem_nil
  | item :: rest, member => (List.mem_append.mp member).elim (mem_contents item) (mem_itemContents rest)

theorem mem_fieldContents : ∀ fields : List (String × Nested),
    text ∈ fieldContents (Nested.sanitizeFields rules fields) → Rewritten rules text
  | [], member => absurd member List.not_mem_nil
  | (key, value) :: rest, member => by
    rcases List.mem_append.mp member with first | onward
    · cases named : secretKey key with
      | true => simp [named] at first
      | false =>
        simp only [named, Bool.false_eq_true, if_false] at first
        exact mem_contents value first
    · exact mem_fieldContents rest onward
end

variable {field : String × Json}

mutual
theorem entries_marked (named : secretKey field.1 = true) : ∀ value : Nested,
    field ∈ entries (value.sanitize rules) → field.2 = .str "[REDACTED]"
  | .null, member => absurd member List.not_mem_nil
  | .bool _, member => absurd member List.not_mem_nil
  | .int _, member => absurd member List.not_mem_nil
  | .float _, member => absurd member List.not_mem_nil
  | .str _, member => absurd member List.not_mem_nil
  | .date _, member => absurd member List.not_mem_nil
  | .list items, member => itemEntries_marked named items member
  | .tuple items, member => itemEntries_marked named items member
  | .dict fields, member => fieldEntries_marked named fields member

theorem itemEntries_marked (named : secretKey field.1 = true) : ∀ items : List Nested,
    field ∈ itemEntries (Nested.sanitizeItems rules items) → field.2 = .str "[REDACTED]"
  | [], member => absurd member List.not_mem_nil
  | item :: rest, member => (List.mem_append.mp member).elim (entries_marked named item) (itemEntries_marked named rest)

theorem fieldEntries_marked (named : secretKey field.1 = true) :
    ∀ fields : List (String × Nested), field ∈ fieldEntries (Nested.sanitizeFields rules fields) →
      field.2 = .str "[REDACTED]"
  | [], member => absurd member List.not_mem_nil
  | (key, value) :: rest, member => by
    rcases List.mem_append.mp member with first | onward
    · rcases List.mem_cons.mp first with rfl | inside
      · exact if_pos named
      · split at inside
        · exact absurd inside List.not_mem_nil
        · exact entries_marked named value inside
    · exact fieldEntries_marked named rest onward
end

/-- No value stands under a secret-like key. -/
def Marked (fields : List (String × Json)) : Prop :=
  ∀ field ∈ fields, secretKey field.1 = true → field.2 = .str "[REDACTED]"

mutual
theorem sanitize_eq_self_iff : ∀ value : Json, Marked (entries value) →
    (Redaction.sanitize rules value = value ↔ ∀ text ∈ contents value, redactText rules text = text)
  | .null, _ => by simp [Redaction.sanitize, contents]
  | .bool _, _ => by simp [Redaction.sanitize, contents]
  | .int _, _ => by simp [Redaction.sanitize, contents]
  | .float _, _ => by simp [Redaction.sanitize, contents]
  | .str _, _ => by simp [Redaction.sanitize, contents]
  | .arr items, marked => by
    rw [Redaction.sanitize, Json.arr.injEq]
    exact sanitizeItems_eq_self_iff items marked
  | .obj fields, marked => by
    rw [Redaction.sanitize, Json.obj.injEq]
    exact sanitizeFields_eq_self_iff fields marked

theorem sanitizeItems_eq_self_iff : ∀ items : List Json, Marked (itemEntries items) →
    (Redaction.sanitizeItems rules items = items ↔ ∀ text ∈ itemContents items, redactText rules text = text)
  | [], _ => by simp [Redaction.sanitizeItems, itemContents]
  | item :: rest, marked => by
    have first := sanitize_eq_self_iff item fun field member => marked field (List.mem_append_left _ member)
    have others := sanitizeItems_eq_self_iff rest fun field member => marked field (List.mem_append_right _ member)
    rw [Redaction.sanitizeItems, List.cons_eq_cons, first, others, itemContents, List.forall_mem_append]

theorem sanitizeFields_eq_self_iff : ∀ fields : List (String × Json), Marked (fieldEntries fields) →
    (Redaction.sanitizeFields rules fields = fields ↔ ∀ text ∈ fieldContents fields, redactText rules text = text)
  | [], _ => by simp [Redaction.sanitizeFields, fieldContents]
  | (key, value) :: rest, marked => by
    have others := sanitizeFields_eq_self_iff rest fun field member => marked field (List.mem_append_right _ member)
    rw [Redaction.sanitizeFields, List.cons_eq_cons, others, fieldContents, List.forall_mem_append]
    refine and_congr_left fun _ => ?_
    cases named : secretKey key with
    | true =>
      have same : value = .str "[REDACTED]" := marked (key, value) List.mem_cons_self named
      simp [same]
    | false =>
      have inner := sanitize_eq_self_iff value fun field member =>
        marked field (List.mem_cons_of_mem _ (List.mem_append_left _ member))
      simpa using inner
end

mutual
theorem contents_sanitize : ∀ value : Json,
    contents (Redaction.sanitize rules value) = (contents value).map (redactText rules)
  | .null => rfl
  | .bool _ => rfl
  | .int _ => rfl
  | .float _ => rfl
  | .str _ => rfl
  | .arr items => itemContents_sanitize items
  | .obj fields => fieldContents_sanitize fields

theorem itemContents_sanitize : ∀ items : List Json,
    itemContents (Redaction.sanitizeItems rules items) = (itemContents items).map (redactText rules)
  | [] => rfl
  | item :: rest => by
    rw [Redaction.sanitizeItems, itemContents, itemContents, contents_sanitize item, itemContents_sanitize rest,
      List.map_append]

theorem fieldContents_sanitize : ∀ fields : List (String × Json),
    fieldContents (Redaction.sanitizeFields rules fields) = (fieldContents fields).map (redactText rules)
  | [] => rfl
  | (key, value) :: rest => by
    rw [Redaction.sanitizeFields, fieldContents, fieldContents, fieldContents_sanitize rest, List.map_append]
    cases named : secretKey key with
    | true => rfl
    | false =>
      simp only [Bool.false_eq_true, if_false]
      rw [contents_sanitize value]
end

end

end Redaction

namespace RedactionSample
open Redaction

def rules : Rules where
  isWord c := c.isAlphanum || c == '_'
  isSpace := SacmRuntime.isSpace
  environ := [("PATH", "/bin"), ("API_TOKEN", "hunter2")]

theorem documented : rules.Documented where
  word c letter := by simp [rules, letter]
  space := rfl

theorem apart_of_lists {mark text : List Char} (noInfix : ¬text <:+: mark) (noMark : ¬mark <:+: text)
    (noStart : ∀ part ∈ mark.tails, part ≠ [] → ¬part <+: text)
    (noEnd : ∀ part ∈ mark.inits, part ≠ [] → ¬part <:+ text) :
    Apart mark text where
  noInfix := noInfix
  noMark := noMark
  noStart part filled suffix := noStart part (List.mem_tails _ _ |>.mpr suffix) filled
  noEnd part filled begins := noEnd part (List.mem_inits _ _ |>.mpr begins) filled

theorem configured : secrets rules = ["hunter2"] := by decide +kernel

theorem apart : ∀ secret ∈ secrets rules, Apart Redaction.redacted secret.toList := by
  intro secret member
  rw [configured] at member
  cases List.mem_singleton.mp member
  exact apart_of_lists (by decide +kernel) (by decide +kernel) (by decide +kernel) (by decide +kernel)

def covered : Nested := .str "hunter2token=abc"

def note : Nested :=
  .dict [("note", .str "hunter2token=abc"), ("log", .list [.str "password=hunter2", .date ⟨"2024-05-01", by decide⟩]),
    ("api_key", .str "hunter2")]

end RedactionSample

end SacmRuntime
