import Mathlib.Data.List.Infix

namespace SacmRuntime

/-- A file name as the file system has it. -/
abbrev NameBytes : Type := List UInt8

/-- What a patch says in one place about the files it is for: a header
`diff --git`, a line of a rename or a copy, or the two names of a section
without a header. -/
inductive Mention where
  | header (text : List Char)
  | moved (text : List Char)
  | traditional (old new : List Char)
  deriving DecidableEq

/-- Where the reader of a patch is. A hunk still has some old and some new
lines to come. -/
inductive PatchReading where
  | seeking | header | newName | stopped
  | hunks (old new : Nat)

namespace GitPatch

def bytes (text : List Char) : NameBytes := text.flatMap String.utf8EncodeChar

/-- What follows the word at the beginning of the text. -/
def after (word : String) (text : List Char) : Option (List Char) :=
  if word.toList <+: text then some (text.drop word.toList.length) else none

section Names

/-- A name without its first component. -/
def strip {α : Type} [DecidableEq α] (slash : α) (name : List α) : Option (List α) :=
  match name.takeWhile (· ≠ slash), name.dropWhile (· ≠ slash) with
  | _ :: _, _ :: rest => some rest
  | _, _ => none

def escape (c : Char) : Option UInt8 :=
  (([('a', 7), ('b', 8), ('t', 9), ('n', 10), ('v', 11), ('f', 12), ('r', 13), ('"', 34), ('\\', 92)] :
    List (Char × UInt8)).find? fun entry => entry.1 == c).map Prod.snd

def octalDigit (c : Char) : Option Nat := if 48 ≤ c.toNat ∧ c.toNat ≤ 55 then some (c.toNat - 48) else none

/-- A name in quotes, from behind the first of them: its bytes, and what
follows the other. -/
def unquote : List Char → Option (NameBytes × List Char)
  | [] => none
  | '"' :: rest => some ([], rest)
  | '\\' :: a :: b :: c :: rest =>
    match escape a, octalDigit a, octalDigit b, octalDigit c with
    | some byte, _, _, _ => (unquote (b :: c :: rest)).map fun read => (byte :: read.1, read.2)
    | none, some x, some y, some z =>
      (unquote rest).map fun read => (UInt8.ofNat (64 * x + 8 * y + z) :: read.1, read.2)
    | _, _, _, _ => none
  | '\\' :: a :: rest =>
    match escape a with
    | some byte => (unquote rest).map fun read => (byte :: read.1, read.2)
    | none => none
  | '\\' :: [] => none
  | c :: rest => (unquote rest).map fun read => (bytes [c] ++ read.1, read.2)

/-- A name that goes to the end of its line, in quotes or not. -/
def lineName : List Char → Option NameBytes
  | '"' :: quoted =>
    match unquote quoted with
    | some (name, []) => some name
    | _ => none
  | text => some (bytes text)

def isBlank (c : Char) : Bool := c == ' ' || c == '\t'

/-- The name that a header without quotes gives twice. -/
def sameName (text : List Char) : Option (List Char) := do
  let body ← strip '/' text
  let ends ← body.inits.find? fun name =>
    match body.drop name.length with
    | c :: rest => isBlank c && strip '/' rest == some name
    | [] => false
  return ends

/-- All ways to read a header without quotes as `a/X b/Y`. -/
def splits (text : List Char) : List (List Char × List Char) :=
  match after "a/" text with
  | none => []
  | some body => body.inits.filterMap fun first =>
    match after " b/" (body.drop first.length) with
    | some second => if first ≠ [] ∧ second ≠ [] then some (first, second) else none
    | none => none

/-- The names of a header: those in quotes, the one that is there twice, or
the two of the only way to read it. -/
def headerNames (text : List Char) : List NameBytes :=
  match text with
  | '"' :: quoted =>
    match unquote quoted with
    | some (first, rest) =>
      (strip 47 first).toList ++ ((lineName (rest.dropWhile isBlank)).bind (strip 47)).toList
    | none => []
  | _ =>
    if '"' ∈ text then
      let first := ((text.takeWhile (· ≠ '"')).reverse.dropWhile isBlank).reverse
      ((strip '/' first).map bytes).toList ++ ((lineName (text.dropWhile (· ≠ '"'))).bind (strip 47)).toList
    else
      match sameName text, splits text with
      | some name, _ => [bytes name]
      | none, [(first, second)] => [bytes first, bytes second]
      | none, _ => []

/-- The name after `---` or `+++`, without a time stamp. -/
def traditionalName (text : List Char) : List NameBytes :=
  let name := match text with
    | '"' :: quoted => (unquote quoted).map Prod.fst
    | _ => some (bytes (text.takeWhile (· ≠ '\t')))
  match name with
  | some name => if name = bytes "/dev/null".toList then [] else [(strip 47 name).getD name]
  | none => []

end Names

/-- The names that a mention gives. -/
def names : Mention → List NameBytes
  | .header text => headerNames text
  | .moved text => (lineName text).toList
  | .traditional old new => traditionalName old ++ traditionalName new

section Reader

/-- A number and what follows it. -/
def number (text : List Char) : Nat × List Char :=
  ((text.takeWhile Char.isDigit).foldl (fun n c => 10 * n + (c.toNat - 48)) 0, text.dropWhile Char.isDigit)

/-- The number of lines of one side of a hunk, and what follows. -/
def hunkRange (text : List Char) : Nat × List Char :=
  match (number text).2 with
  | ',' :: rest => number rest
  | rest => (1, rest)

/-- `@@ -a,b +c,d @@`. -/
def hunkCounts (line : List Char) : Option (Nat × Nat) := do
  let old ← after "@@ -" line
  let new ← after " +" (hunkRange old).2
  let _ ← after " @@" (hunkRange new).2
  return ((hunkRange old).1, (hunkRange new).1)

def movedWords : List String :=
  ["copy from ", "copy to ", "rename old ", "rename new ", "rename from ", "rename to "]

/-- The other lines between a header and its hunks. -/
def extendedWords : List String :=
  ["old mode ", "new mode ", "deleted file mode ", "new file mode ", "similarity index ", "dissimilarity index ",
    "index ", "--- ", "+++ "]

/-- A line outside of sections. Two names without a header count when a hunk
follows. -/
def seek (line : List Char) (rest : List (List Char)) : List Mention × PatchReading :=
  match after "diff --git " line, after "--- " line, rest with
  | some text, _, _ => ([.header text], .header)
  | none, some old, second :: third :: _ =>
    match after "+++ " second, after "@@ -" third with
    | some new, some _ => ([.traditional old new], .newName)
    | _, _ => ([], .seeking)
  | _, _, _ => ([], .seeking)

/-- A line where a hunk may begin. -/
def between (line : List Char) (rest : List (List Char)) : List Mention × PatchReading :=
  match after "@@ -" line with
  | some _ =>
    match hunkCounts line with
    | some (old, new) => ([], .hunks old new)
    | none => ([], .stopped)
  | none => seek line rest

/-- A line of a hunk. -/
def hunkLine (old new : Nat) (line : List Char) : PatchReading :=
  match line.head?, old, new with
  | some '\\', old, new => .hunks old new
  | some '-', old + 1, new => .hunks old new
  | some '+', old, new + 1 => .hunks old new
  | some ' ', old + 1, new + 1 | none, old + 1, new + 1 => .hunks old new
  | _, _, _ => .stopped

/-- One line, with those that follow. -/
def step (reading : PatchReading) (line : List Char) (rest : List (List Char)) : List Mention × PatchReading :=
  match reading with
  | .seeking => seek line rest
  | .stopped => ([], .stopped)
  | .newName => ([], .hunks 0 0)
  | .header =>
    match movedWords.findSome? fun word => after word line with
    | some text => ([.moved text], .header)
    | none => if extendedWords.any fun word => (after word line).isSome then ([], .header) else between line rest
  | .hunks old new =>
    if old = 0 ∧ new = 0 ∧ line.head? ≠ some '\\' then between line rest else ([], hunkLine old new line)

def scan : PatchReading → List (List Char) → List Mention
  | _, [] => []
  | reading, line :: rest => (step reading line rest).1 ++ scan (step reading line rest).2 rest

/-- The mentions of a patch. -/
def mentions (patch : List Char) : List Mention := scan .seeking (patch.splitOn '\n')

end Reader

end GitPatch

end SacmRuntime
