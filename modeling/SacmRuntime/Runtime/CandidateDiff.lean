import Mathlib.Data.List.AList
import SacmRuntime.Governance.Authentication

namespace SacmRuntime

/-- The files of a tree: at each path a content with its mode. -/
abbrev RepositoryFiles : Type := AList fun _ : String => String

/-- A worktree: the commit it started from, the tip of its branch, the index
and the files. -/
structure WorktreeState where
  base : RepositoryFiles
  head : RepositoryFiles
  index : RepositoryFiles
  work : RepositoryFiles

inductive WorktreeAction where
  | write (path content : String)
  | remove (path : String)
  | stage (path : String)
  | commit

namespace WorktreeState

def start (base : RepositoryFiles) : WorktreeState := ⟨base, base, base, base⟩

/-- `git add path`: a file that is gone goes from the index too. -/
def stage (s : WorktreeState) (path : String) : RepositoryFiles :=
  match s.work.lookup path with
  | some content => s.index.insert path content
  | none => s.index.erase path

def step (s : WorktreeState) : WorktreeAction → WorktreeState
  | .write path content => { s with work := s.work.insert path content }
  | .remove path => { s with work := s.work.erase path }
  | .stage path => { s with index := s.stage path }
  | .commit => { s with head := s.index }

def run (s : WorktreeState) (actions : List WorktreeAction) : WorktreeState := actions.foldl step s

end WorktreeState

/-- The part of a diff about one file: it applies where the file is as before. -/
structure FileChange where
  path : String
  before : String
  after : Option String
  deriving DecidableEq

def FileChange.apply (change : FileChange) (files : RepositoryFiles) : RepositoryFiles :=
  match change.after with
  | some content => files.insert change.path content
  | none => files.erase change.path

def applyChanges : List FileChange → RepositoryFiles → Option RepositoryFiles
  | [], files => some files
  | change :: rest, files =>
    if files.lookup change.path = some change.before then applyChanges rest (change.apply files) else none

/-- How git prints a diff, and applies what it is given. -/
structure Git where
  render : List FileChange → String
  apply : String → RepositoryFiles → Option RepositoryFiles

namespace RepositoryAdapter

end RepositoryAdapter

/-- What `_execute_candidate` returns. -/
structure CandidateResult where
  branchName : String
  returncode : Int
  verification : List (Int × Nat)
  diff : String

structure CandidateAssessment where
  candidateIndex : Nat
  branchName : String
  eligible : Bool
  score : Nat
  disqualificationReasons : List String

namespace CodexExecutorAdapter

def disqualificationReasons (candidate : CandidateResult) : List String :=
  (if candidate.returncode ≠ 0 then ["implementation_failed"] else []) ++
  (if candidate.verification = [] then ["missing_verification"]
    else if ∃ command ∈ candidate.verification, command.1 ≠ 0 then ["verification_failed"] else []) ++
  if stripped candidate.diff.toList = [] then ["empty_diff"] else []

/-- A score is 70 at the least: nothing is cut off at zero. -/
def scoreOf (candidate : CandidateResult) : Nat :=
  100 - min (candidate.diff.length / 1000) 20 - min ((candidate.verification.map Prod.snd).sum / 60000) 10

def assess (index : Nat) (candidate : CandidateResult) : CandidateAssessment where
  candidateIndex := index
  branchName := candidate.branchName
  eligible := decide (disqualificationReasons candidate = [])
  score := if disqualificationReasons candidate = [] then scoreOf candidate else 0
  disqualificationReasons := disqualificationReasons candidate

end CodexExecutorAdapter

end SacmRuntime
