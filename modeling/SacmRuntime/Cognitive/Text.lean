import SacmRuntime.Runtime.Redaction
import SacmRuntime.Runtime.Rows

namespace SacmRuntime
namespace Cognitive

/-- What the service takes from its surroundings: the hash function and what
Unicode says of spaces and capitals. -/
structure Env where
  sha256 : String → String
  isSpace : Char → Bool
  upper : String → String

/-- `_hash`: the digest of the sorted text of a value. -/
def hash (env : Env) (value : Json) : String := env.sha256 (value.text true)

def stateError (message : String) : Error := .other "CognitiveStateError" message

def notFound (message : String) : Error := .other "CognitiveStateNotFoundError" message

def endsField : List Char → Bool
  | [] => true
  | c :: rest => c == '_' || c == '-' || (c == '\n' && rest.isEmpty)

open Redaction in
/-- `_SECRET_FIELD.search`, from a place in the key on. -/
def searchField (prev : Option Char) : List Char → Bool
  | [] => false
  | c :: rest =>
    (prev.all (fun p => p == '_' || p == '-') &&
        assignedNames.any fun name => (afterPattern name.toList (c :: rest)).any endsField) ||
      searchField (some c) rest

/-- `[A-Z]` regardless of case. -/
def anyLetter (c : Char) : Bool := c.isAlpha || c == 'ı' || c == 'İ' || c == 'ſ' || c == '\u212a'

/-- `[-_A-Za-z0-9]` regardless of case. -/
def tokenChar (c : Char) : Bool := anyLetter c || c.isDigit || c == '-' || c == '_'

def tokenPrefixes : List String := ["sk", "ghp", "github_pat", "xoxb", "xoxa", "xoxp", "xoxr", "xoxs"]

open Redaction in
def accessToken (text : List Char) : Option Nat :=
  match tokenPrefixes.findSome? fun start => afterPattern start.toList text with
  | none => none
  | some rest =>
    let run := rest.takeWhile tokenChar
    if 16 ≤ run.length then some (text.length - rest.length + run.length) else none

open Redaction in
/-- The length of the header of a private key that starts here. The words
before `PRIVATE KEY` hold no hyphen, so they end at the first one. -/
def privateKey (text : List Char) : Option Nat :=
  match afterPattern "-----begin ".toList text with
  | none => none
  | some rest =>
    let words := rest.takeWhile fun c => anyLetter c || c == ' '
    let named := afterPattern "private key".toList (words.drop (words.length - 11)) == some []
    let kind := words.take (words.length - 11)
    if named && (kind.isEmpty || (2 ≤ kind.length && kind.getLast? == some ' ')) &&
        (afterPattern "-----".toList (rest.drop words.length)).isSome then
      some (text.length - rest.length + words.length + 5)
    else none

/-- `_TOKEN_VALUE.sub("[REDACTED]", text)`; `skip` characters belong to the last match. -/
def subTokens (skip : Nat) : List Char → List Char
  | [] => []
  | c :: rest =>
    match skip with
    | skip + 1 => subTokens skip rest
    | 0 =>
      match (accessToken (c :: rest)).orElse fun _ => privateKey (c :: rest) with
      | some taken => Redaction.redacted ++ subTokens (taken - 1) rest
      | none => c :: subTokens 0 rest

/-- `_sanitize_text`. -/
def sanitizeText (text : String) : String := String.ofList (subTokens 0 text.toList)

mutual
/-- `_sanitize`. -/
def sanitize : Json → Json
  | .obj fields => .obj (sanitizeFields fields)
  | .arr items => .arr (sanitizeItems items)
  | .str s => .str (sanitizeText s)
  | other => other

def sanitizeItems : List Json → List Json
  | [] => []
  | item :: rest => sanitize item :: sanitizeItems rest

def sanitizeFields : List (String × Json) → List (String × Json)
  | [] => []
  | (key, item) :: rest =>
    (key, if searchField none key.toList then .str "[REDACTED]" else sanitize item) :: sanitizeFields rest
end

/-- `str.strip()`. -/
def strip (env : Env) (text : List Char) : List Char :=
  ((text.dropWhile env.isSpace).reverse.dropWhile env.isSpace).reverse

/-- Where `str.splitlines` cuts. The empty line that it does not see inside
`\r\n` holds no field. -/
def lineBreak (c : Char) : Bool :=
  c.toNat ∈ [10, 11, 12, 13, 28, 29, 30, 133, 8232, 8233]

/-- The key and the values of a line `KEY: value, value`, as `_METADATA_LINE` reads it. -/
def metadataLine (env : Env) (line : List Char) : Option (String × List String) :=
  let text := line.dropWhile env.isSpace
  let name := text.takeWhile fun c => c.isUpper || c == '_' || c == ' ' || c == '-'
  match text.drop name.length with
  | ':' :: rest =>
    if 2 ≤ name.length && name.head?.any Char.isUpper then
      let key := String.ofList (name.map fun c => if c = ' ' then '_' else c)
      some (key, (((rest.splitOn ',').map (strip env)).filter (· ≠ [])).map String.ofList)
    else none
  | _ => none

/-- `_message_metadata(message).get(key, [])`. -/
def messageMetadata (env : Env) (message key : String) : List String :=
  (message.toList.splitOnP lineBreak).flatMap fun line =>
    match metadataLine env line with
    | some (name, values) => if name = key then values else []
    | none => []

/-- `sorted` of a set of strings. -/
def sortedSet (items : List String) : List String := items.dedup.insertionSort fun a b => a ≤ b

/-- `_merge_ids`. -/
def mergeIds (env : Env) (first second : List String) : List String :=
  sortedSet (((first ++ second).map fun item => String.ofList (strip env item.toList)).filter (· ≠ ""))

/-- `_safe_path`: the parts of the path, joined again. -/
def safePath (value : String) : Except Error String :=
  let parts := (value.toList.splitOn '/').filter fun part => part ≠ [] ∧ part ≠ ['.']
  if value = "" ∨ value.toList.head? = some '/' ∨ ['.', '.'] ∈ parts then
    .error (stateError "Code paths must be project-relative.")
  else .ok (if parts = [] then "." else String.ofList ([ '/' ].intercalate parts))

def safePaths : List String → Except Error (List String)
  | [] => .ok []
  | value :: rest => do
    let path ← safePath value
    let paths ← safePaths rest
    return path :: paths

/-- `_TEST_PATH.search` on a path: some part of it is named like a test. -/
def isTestPath (path : String) : Bool :=
  (path.toList.splitOn '/').any fun part =>
    part == "test".toList || part == "tests".toList || ("test_".toList.isPrefixOf part && 6 ≤ part.length) ||
      (List.range part.length).any fun i =>
        1 ≤ i && "_test.".toList.isPrefixOf (part.drop i) && i + 7 ≤ part.length

example : safePath "a/./b//c" = .ok "a/b/c" := by decide +kernel
example : sanitizeText "x ghp_0123456789abcdef y" = "x [REDACTED] y" := by decide +kernel
example : ["tests/a.py", "x_test.py", "contest.py"].map isTestPath = [true, true, false] := by decide +kernel

end Cognitive
end SacmRuntime
