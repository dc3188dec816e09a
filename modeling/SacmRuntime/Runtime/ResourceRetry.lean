import SacmRuntime.Runtime.OutcomeRouter

namespace SacmRuntime

abbrev CommandWord : Type := List Char

/-- Where `shlex` stands: between two words, in a word, in a quoted part of
it, or after a backslash, which may itself be quoted. -/
inductive ShlexState where
  | between
  | word (token : CommandWord)
  | quoted (quote : Char) (token : CommandWord)
  | escaped (quote : Option Char) (token : CommandWord)

namespace Shlex

def isBlank (c : Char) : Bool := c = ' ' || c = '\t' || c = '\r' || c = '\n'

def enter (c : Char) (token : CommandWord) : ShlexState :=
  if c = '\'' ∨ c = '"' then .quoted c token
  else if c = '\\' then .escaped none token
  else .word (token ++ [c])

def read : ShlexState × List CommandWord → Char → ShlexState × List CommandWord
  | (.between, words), c => (if isBlank c then .between else enter c [], words)
  | (.word token, words), c => if isBlank c then (.between, words ++ [token]) else (enter c token, words)
  | (.quoted quote token, words), c =>
    if c = quote then (.word token, words)
    else if c = '\\' ∧ quote = '"' then (.escaped (some quote) token, words)
    else (.quoted quote (token ++ [c]), words)
  | (.escaped none token, words), c => (.word (token ++ [c]), words)
  | (.escaped (some quote) token, words), c =>
    (.quoted quote (token ++ if c = '\\' ∨ c = quote then [c] else ['\\', c]), words)

def finish : ShlexState × List CommandWord → Except String (List CommandWord)
  | (.between, words) => .ok words
  | (.word token, words) => .ok (words ++ [token])
  | (.quoted _ _, _) => .error "No closing quotation"
  | (.escaped _ _, _) => .error "No escaped character"

/-- `shlex.split`. -/
def split (command : List Char) : Except String (List CommandWord) := finish (command.foldl read (.between, []))

end Shlex

/-- What a command left, as `resource_failure_reason` reads it. -/
structure CommandResult where
  returncode : Int
  stdout : List Char
  stderr : List Char

section
variable (env : OutcomeEnv)

end

section
variable {env : OutcomeEnv} {execute : Nat → List CommandWord → CommandResult} {command retryCommand : List Char}
  {words : List CommandWord}

end

namespace RetrySample

def env : OutcomeEnv where
  isWord := Char.isAlphanum
  fold := Char.toLower
  upper := id
  integer _ := none
  quoted _ := []
  getenv _ := none

/-- The first execution succeeds and tells of a test about memory; the second fails. -/
def execute : Nat → List CommandWord → CommandResult
  | 0, _ => ⟨0, "handles heap out of memory: ok".toList, []⟩
  | _, _ => ⟨1, "port in use".toList, []⟩

/-- The first execution runs out of memory; the second succeeds. -/
def exhausted : Nat → List CommandWord → CommandResult
  | 0, _ => ⟨1, "heap out of memory".toList, []⟩
  | _, _ => ⟨0, [], []⟩

end RetrySample

end SacmRuntime
