import SacmRuntime.Lib.Json

namespace SacmRuntime

namespace Json

def hexDigit (n : Nat) : Char := if n < 10 then Char.ofNat (48 + n) else Char.ofNat (87 + n)

/-- The escape `\uXXXX` of one UTF-16 code unit. -/
def unicodeEscape (unit : Nat) : List Char :=
  ['\\', 'u', hexDigit (unit / 4096 % 16), hexDigit (unit / 256 % 16), hexDigit (unit / 16 % 16),
    hexDigit (unit % 16)]

/-- One character of a quoted string. With `ensureAscii` every character
outside the printable ASCII range is escaped, astral ones as a surrogate
pair; without it only quotes, backslashes and control characters are. -/
def escapeChar (ensureAscii : Bool) (c : Char) : List Char :=
  if c = '"' then ['\\', '"']
  else if c = '\\' then ['\\', '\\']
  else if c = '\n' then ['\\', 'n']
  else if c = '\r' then ['\\', 'r']
  else if c = '\t' then ['\\', 't']
  else if c.toNat = 8 then ['\\', 'b']
  else if c.toNat = 12 then ['\\', 'f']
  else if c.toNat < 32 then unicodeEscape c.toNat
  else if c.toNat < 127 then [c]
  else if ensureAscii then
    if c.toNat < 65536 then unicodeEscape c.toNat
    else unicodeEscape (55296 + (c.toNat - 65536) / 1024) ++ unicodeEscape (56320 + (c.toNat - 65536) % 1024)
  else [c]

def quote (ensureAscii : Bool) (s : List Char) : List Char :=
  '"' :: (s.flatMap (escapeChar ensureAscii) ++ ['"'])

/-- Members separated by a bare comma. -/
def commaJoin : List (List Char) → List Char
  | [] => []
  | [text] => text
  | text :: next :: rest => text ++ ',' :: commaJoin (next :: rest)

/-- Members in ascending order of their keys, as `sort_keys=True` asks. -/
def sortByKey {α : Type} (members : List (String × α)) : List (String × α) :=
  members.insertionSort fun a b => a.1 ≤ b.1

def member (ensureAscii : Bool) (field : String × List Char) : List Char :=
  quote ensureAscii field.1.toList ++ ':' :: field.2

mutual
/-- `json.dumps(value, sort_keys=True, separators=(",", ":"))`. -/
def dumps (ensureAscii : Bool) : Json → List Char
  | .null => ['n', 'u', 'l', 'l']
  | .bool true => ['t', 'r', 'u', 'e']
  | .bool false => ['f', 'a', 'l', 's', 'e']
  | .int n => (toString n).toList
  | .float x => x.text
  | .str s => quote ensureAscii s.toList
  | .arr items => '[' :: (commaJoin (dumpsItems ensureAscii items) ++ [']'])
  | .obj fields =>
    '{' :: (commaJoin ((sortByKey (dumpsFields ensureAscii fields)).map (member ensureAscii)) ++ ['}'])

def dumpsItems (ensureAscii : Bool) : List Json → List (List Char)
  | [] => []
  | item :: rest => dumps ensureAscii item :: dumpsItems ensureAscii rest

def dumpsFields (ensureAscii : Bool) : List (String × Json) → List (String × List Char)
  | [] => []
  | (k, v) :: rest => (k, dumps ensureAscii v) :: dumpsFields ensureAscii rest
end

theorem dumpsItems_eq (ensureAscii : Bool) (items : List Json) :
    dumpsItems ensureAscii items = items.map (dumps ensureAscii) := by
  induction items with
  | nil => rfl
  | cons item rest ih => simp [dumpsItems, ih]

theorem dumpsFields_eq (ensureAscii : Bool) (fields : List (String × Json)) :
    dumpsFields ensureAscii fields = fields.map fun field => (field.1, dumps ensureAscii field.2) := by
  induction fields with
  | nil => rfl
  | cons field rest ih => simp [dumpsFields, ih]

/-- The text of a document as the string the hash functions are given. -/
def text (ensureAscii : Bool) (j : Json) : String := String.ofList (dumps ensureAscii j)

/-- `a == b` for two documents: the order of an object's members does not
count, and sorting the keys removes it. -/
def pyEq (a b : Json) : Bool := decide (dumps true a = dumps true b)

@[simp] theorem pyEq_self (a : Json) : pyEq a a = true := by simp [pyEq]

theorem pyEq_null_obj (fields : List (String × Json)) : pyEq .null (.obj fields) = false := by simp [pyEq, dumps]

/-- The text, as it is quoted, occurs in the document's text. -/
def Mentions (text : String) (j : Json) : Prop := text.toList.flatMap (escapeChar true) <:+: dumps true j

theorem isInfix_commaJoin {text : List Char} {texts : List (List Char)} (member : text ∈ texts) :
    text <:+: commaJoin texts := by
  induction texts with
  | nil => cases member
  | cons first rest ih =>
    cases rest with
    | nil =>
      cases List.mem_singleton.mp member
      exact List.infix_rfl
    | cons next rest =>
      rcases List.mem_cons.mp member with rfl | later
      · exact (List.prefix_append _ _).isInfix
      · exact (ih later).trans ((List.suffix_cons ',' _).isInfix.trans (List.suffix_append first _).isInfix)

variable {fields : List (String × Json)} {key text : String} {value : Json}

theorem dumpsFields_mem {ensureAscii : Bool} (member : (key, value) ∈ fields) :
    (key, dumps ensureAscii value) ∈ dumpsFields ensureAscii fields := by
  induction fields with
  | nil => cases member
  | cons field rest ih =>
    obtain ⟨k, v⟩ := field
    unfold dumpsFields
    rcases List.mem_cons.mp member with here | later
    · cases here
      exact List.mem_cons_self
    · exact List.mem_cons_of_mem _ (ih later)

/-- An object mentions what its members mention. -/
theorem mentions_obj {k : String} (member : (k, value) ∈ fields) (mentioned : value.Mentions text) :
    (Json.obj fields).Mentions text := by
  have inMember : dumps true value <:+: Json.member true (k, dumps true value) :=
    (List.suffix_cons ':' _).isInfix.trans (List.suffix_append _ _).isInfix
  have listed : Json.member true (k, dumps true value) ∈
      (sortByKey (dumpsFields true fields)).map (Json.member true) :=
    List.mem_map_of_mem ((List.mem_insertionSort _).mpr (dumpsFields_mem member))
  unfold Mentions
  rw [dumps]
  exact mentioned.trans (inMember.trans ((isInfix_commaJoin listed).trans
    ((List.prefix_append _ _).isInfix.trans (List.suffix_cons '\x7b' _).isInfix)))

/-- A document mentions what the value under one of its keys mentions. -/
theorem mentions_of_get {j : Json} (present : j.get key ≠ .null) (mentioned : (j.get key).Mentions text) :
    j.Mentions text := by
  cases j with
  | obj fields =>
    cases found : fields.find? fun field => field.1 == key with
    | none => simp [get, found] at present
    | some field =>
      have same : field.1 = key := by simpa using List.find?_some found
      have value : (Json.obj fields).get key = field.2 := by simp [get, found]
      exact mentions_obj (k := field.1) (List.mem_of_find?_eq_some found) (value ▸ mentioned)
  | _ => exact absurd rfl present

theorem mentions_str_append (text rest : String) : (Json.str (text ++ rest)).Mentions text := by
  unfold Mentions
  rw [dumps, quote, String.toList_append, List.flatMap_append, List.append_assoc]
  exact (List.prefix_append _ _).isInfix.trans (List.suffix_cons '"' _).isInfix

/-- Equal documents mention the same texts. -/
theorem Mentions.of_pyEq {a b : Json} (mentioned : b.Mentions text) (same : a.pyEq b = true) :
    a.Mentions text := by
  unfold Mentions at *
  rw [of_decide_eq_true same]
  exact mentioned

end Json

example : Json.dumps true (.obj [("b", .int (-3)), ("a", .str "é\n")]) =
    "\x7b\"a\":\"\\u00e9\\n\",\"b\":-3\x7d".toList := by decide +kernel

end SacmRuntime
