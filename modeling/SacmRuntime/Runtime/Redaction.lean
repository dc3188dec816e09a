import SacmRuntime.Lib.Json

namespace SacmRuntime
namespace Redaction

/-- What the regular expressions ask of Unicode (`\w` and `\s`), and the
environment variables of the process. -/
structure Rules where
  isWord : Char → Bool
  isSpace : Char → Bool
  environ : List (String × String)

/-- Does the character match a letter of a pattern, regardless of case? -/
def matchesLetter (letter c : Char) : Bool :=
  c.toLower == letter || (letter == 'i' && (c == 'ı' || c == 'İ')) || (letter == 's' && c == 'ſ') ||
    (letter == 'k' && c == '\u212a')

def afterPattern : List Char → List Char → Option (List Char)
  | [], text => some text
  | _ :: _, [] => none
  | letter :: pattern, c :: text => if matchesLetter letter c then afterPattern pattern text else none

/-- The names of secrets, as keys of a mapping spell them. -/
def keyNames : List String :=
  ["api_key", "apikey", "authorization", "credential", "password", "private_key", "privatekey", "secret", "token"]

def assignedNames : List String :=
  ["api_key", "api-key", "apikey", "authorization", "credential", "password", "private_key", "private-key",
    "privatekey", "secret", "token"]

def endsName : List Char → Bool
  | [] => true
  | c :: rest => c == '_' || (c == '\n' && rest.isEmpty)

/-- `_SECRET_KEY.search`, from a place in the key on. -/
def searchKey (prev : Option Char) : List Char → Bool
  | [] => false
  | c :: rest =>
    (prev.all (· == '_') && keyNames.any fun name => (afterPattern name.toList (c :: rest)).any endsName) ||
      searchKey (some c) rest

/-- `_SECRET_KEY.search(key)`. -/
def secretKey (key : String) : Bool := searchKey none key.toList

variable (rules : Rules)

/-- The match of `_SECRET_ASSIGNMENT` that starts here: what is kept of it, and
how many characters it takes. -/
def assignment (prev : Option Char) (text : List Char) : Option (List Char × Nat) :=
  if prev.any rules.isWord then none
  else
    match assignedNames.findSome? fun name => afterPattern name.toList text with
    | none => none
    | some rest =>
      match rest.dropWhile rules.isSpace with
      | [] => none
      | sign :: rest =>
        if sign == ':' || sign == '=' then
          let value := (rest.dropWhile rules.isSpace).takeWhile fun c => !rules.isSpace c && c != ',' && c != ';'
          let kept := text.length - (rest.dropWhile rules.isSpace).length
          if value.isEmpty then none else some (text.take kept, kept + value.length)
        else none

def redacted : List Char := "[REDACTED]".toList

/-- `_SECRET_ASSIGNMENT.sub(r"\1\2[REDACTED]", text)`; `skip` characters belong
to the last match. -/
def subAssignments (prev : Option Char) (skip : Nat) : List Char → List Char
  | [] => []
  | c :: rest =>
    match skip with
    | skip + 1 => subAssignments (some c) skip rest
    | 0 =>
      match assignment rules prev (c :: rest) with
      | some (kept, taken) => kept ++ redacted ++ subAssignments (some c) (taken - 1) rest
      | none => c :: subAssignments (some c) 0 rest

/-- `text.replace(secret, "[REDACTED]")`; `skip` characters belong to the last occurrence. -/
def replaceSecret (secret : List Char) (skip : Nat) : List Char → List Char
  | [] => []
  | c :: rest =>
    match skip with
    | skip + 1 => replaceSecret secret skip rest
    | 0 =>
      if secret.isPrefixOf (c :: rest) then redacted ++ replaceSecret secret (secret.length - 1) rest
      else c :: replaceSecret secret 0 rest

/-- The configured secrets, in the order of the environment. -/
def secrets : List String :=
  (rules.environ.filter fun variable_ => secretKey variable_.1 && 4 ≤ variable_.2.length).map Prod.snd

/-- `_redact_text`. -/
def redactText (value : String) : String :=
  String.ofList ((secrets rules).foldl (fun text secret => replaceSecret secret.toList 0 text)
    (subAssignments rules none 0 value.toList))

mutual
/-- `_sanitize`. -/
def sanitize : Json → Json
  | .str s => .str (redactText rules s)
  | .arr items => .arr (sanitizeItems items)
  | .obj fields => .obj (sanitizeFields fields)
  | other => other

def sanitizeItems : List Json → List Json
  | [] => []
  | item :: rest => sanitize item :: sanitizeItems rest

def sanitizeFields : List (String × Json) → List (String × Json)
  | [] => []
  | (key, value) :: rest =>
    (key, if secretKey key then .str "[REDACTED]" else sanitize value) :: sanitizeFields rest
end

end Redaction
end SacmRuntime
