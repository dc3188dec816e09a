import SacmRuntime.Runtime.CandidateDiff

namespace SacmRuntime
open CodexExecutorAdapter

section Diffs
variable {files result index work base : RepositoryFiles} {changes : List FileChange} {change : FileChange}
  {path : String}

end Diffs

section Worktrees
variable (ignored : RepositoryFiles → String → Bool)

/-- What the worktree has at a path, an ignored file not counting unless it is tracked. -/
def WorktreeState.content (s : WorktreeState) (path : String) : Option String :=
  if path ∈ s.index ∨ ignored s.work path = false then s.work.lookup path else none

/-- Every tracked file is in the index as the base commit has it, and at every
other path the worktree has what the base commit has. -/
structure NothingStagedOrNew (s : WorktreeState) : Prop where
  tracked : ∀ path ∈ s.index, s.base.lookup path = s.index.lookup path
  others : ∀ path, path ∉ s.index → s.base.lookup path = s.content ignored path

structure BaseIndexed (s : WorktreeState) : Prop where
  index : ∀ path, s.index.lookup path = s.base.lookup path
  untracked : ∀ path ∈ s.work, path ∈ s.index ∨ ignored s.work path = true

variable {ignored} {s : WorktreeState}

theorem BaseIndexed.nothing (indexed : BaseIndexed ignored s) : NothingStagedOrNew ignored s where
  tracked path _ := (indexed.index path).symm
  others path untracked := by
    have absent : s.base.lookup path = none := by
      rw [← indexed.index path]
      exact AList.lookup_eq_none.mpr untracked
    rw [absent]
    unfold WorktreeState.content
    split
    · rename_i shown
      symm
      refine AList.lookup_eq_none.mpr fun member => ?_
      rcases indexed.untracked path member with tracked | hidden
      · exact untracked tracked
      · rcases shown with tracked | visible
        · exact untracked tracked
        · rw [hidden] at visible
          cases visible
    · rfl

end Worktrees

section Candidates
variable {git : Git} {ignored : RepositoryFiles → String → Bool} {run : CandidateRun} {runs : List CandidateRun}

end Candidates

namespace DiffSample

def base : RepositoryFiles := AList.insert "a" "1" ∅

def edited : List FileChange := [⟨"a", "1", some "2"⟩]

def editedText : String := "diff --git a/a b/a\n--- a/a\n+++ b/a\n@@ -1 +1 @@\n-1\n+2\n"

def git : Git where
  render changes := if changes = [] then "" else editedText
  apply text := if text = "" then applyChanges [] else applyChanges edited

def ignored : RepositoryFiles → String → Bool := fun _ _ => false

end DiffSample

end SacmRuntime
