import SacmRuntime.Lib.FileTree
import SacmRuntime.Runtime.PatchPaths

namespace SacmRuntime
open PosixPath

structure WorkTree where
  checkout : Checkout
  tree : FileTree
  linked : checkout.links = tree.links
  directory : tree checkout.root = some .directory
  rooted : ∀ place name, tree (place ++ [name]) ≠ none → tree place = some .directory

/-- `repo_path / path`. -/
def Checkout.target (repo : Checkout) (path : List Char) : List FileName := repo.root ++ (parse path).parts

/-- `PatchFileState`. -/
structure PatchFileState where
  path : List FileName
  content : Option (List UInt8)
  mode : Option Nat

/-- How a git command ends: there is no git, or the command has a status. -/
inductive GitExit where
  | missing
  | exited (code : Nat) (stdout stderr : List Char)

/-- The two runs of `git apply`, and the tree that the second leaves. -/
structure GitRuns where
  check : GitExit
  apply : GitExit
  left : FileTree

structure ApplySettings where
  steps : Nat
  limits : PatchLimits
  denied : List (List Char)
  access : FileAccess
  sha256 : List UInt8 → String

inductive ApplyError where
  | patch (error : PatchError)
  | notRegular (path : List Char)
  | unreadable (path : List Char)
  | gitMissing
  | preflight (stderr : List Char)
  | failed (detail : List Char) (rollback : List (List FileName × OsError))

structure AppliedPatch where
  changedFiles : List (List Char)
  patchSha256 : String

namespace RepositoryAdapter

/-- `sorted(paths)`. -/
def sortedPaths (paths : List (List Char)) : List (List Char) := paths.insertionSort (· ≤ ·)

/-- One turn of `_snapshot_patch_files`. -/
def snapshotPatchFile (settings : ApplySettings) (repo : WorkTree) (path : List Char) :
    Except ApplyError PatchFileState :=
  match repo.tree.stat settings.steps (repo.checkout.target path) with
  | none => .ok ⟨repo.checkout.target path, none, none⟩
  | some (.file content mode) =>
    if settings.access.readable mode then .ok ⟨repo.checkout.target path, some content, some mode⟩
    else .error (.unreadable path)
  | some _ => .error (.notRegular path)

/-- `_snapshot_patch_files`. -/
def snapshotPatchFiles (settings : ApplySettings) (repo : WorkTree) (paths : List (List Char)) :
    Except ApplyError (List PatchFileState) :=
  (sortedPaths paths).mapM (snapshotPatchFile settings repo)

/-- `path.exists() or path.is_symlink()`. -/
def thereOrLink (steps : Nat) (path : List FileName) (t : FileTree) : Bool :=
  (t.stat steps path).isSome ||
    match t.lstat steps path with
    | some (.link _) => true
    | _ => false

def changeMode (steps : Nat) (path : List FileName) : Option Nat → FileTree.Op Unit
  | none => pure ()
  | some mode => FileTree.call (FileTree.chmod steps path mode)

/-- `path.write_bytes(content)` and `path.chmod(mode)`. -/
def writeBack (settings : ApplySettings) (path : List FileName) (content : List UInt8) (mode : Option Nat) :
    FileTree.Op Unit := do
  FileTree.call (FileTree.writeBytes settings.steps settings.access path content)
  changeMode settings.steps path mode

/-- The `try` of `_restore_patch_files`. -/
def restorePatchFile (settings : ApplySettings) (state : PatchFileState) : FileTree.Op Unit :=
  match state.content with
  | none => do
    let there ← Tx.read (thereOrLink settings.steps state.path)
    if there then FileTree.call (FileTree.unlink settings.steps state.path) else pure ()
  | some content => do
    FileTree.makeDirs settings.steps [] state.path.dropLast
    writeBack settings state.path content state.mode

/-- `_restore_patch_files`: an error does not end the loop. -/
def restorePatchFiles (settings : ApplySettings) :
    List PatchFileState → FileTree → List (List FileName × OsError) × FileTree
  | [], t => ([], t)
  | state :: rest, t =>
    match restorePatchFile settings state t with
    | (.ok _, after) => restorePatchFiles settings rest after
    | (.error e, after) =>
      let (errors, last) := restorePatchFiles settings rest after
      ((state.path, e) :: errors, last)

/-- `stderr.strip() or stdout.strip() or "unknown Git error"`. -/
def gitDetail (stdout stderr : List Char) : List Char :=
  if stripped stderr ≠ [] then stripped stderr
  else if stripped stdout ≠ [] then stripped stdout
  else "unknown Git error".toList

/-- `apply_patch`, with the tree that it leaves. -/
def applyPatch (settings : ApplySettings) (repo : WorkTree) (patch : List Char) (git : GitRuns) :
    Except ApplyError AppliedPatch × FileTree :=
  match validatePatch settings.steps repo.checkout settings.limits settings.denied patch with
  | .error e => (.error (.patch e), repo.tree)
  | .ok paths =>
    match snapshotPatchFiles settings repo paths with
    | .error e => (.error e, repo.tree)
    | .ok states =>
      match git.check, git.apply with
      | .missing, _ => (.error .gitMissing, repo.tree)
      | .exited (_ + 1) _ stderr, _ => (.error (.preflight (stripped stderr)), repo.tree)
      | .exited 0 _ _, .missing => (.error .gitMissing, repo.tree)
      | .exited 0 _ _, .exited 0 _ _ =>
        (.ok ⟨sortedPaths paths, settings.sha256 (GitPatch.bytes patch)⟩, git.left)
      | .exited 0 _ _, .exited (_ + 1) stdout stderr =>
        let (errors, after) := restorePatchFiles settings states git.left
        (.error (.failed (gitDetail stdout stderr) errors), after)

end RepositoryAdapter

section Git
variable (access : FileAccess) (root : List FileName) (places : List (List FileName))

/-- What `git apply` does to the tree, step by step: it takes away the entry
of a place, takes away an empty directory above a place, or writes a file,
with the directories above it. -/
inductive GitStep : FileTree → FileTree → Prop where
  | remove {t : FileTree} {place : List FileName} (listed : place ∈ places) (there : t place ≠ none)
      (file : t place ≠ some .directory) : GitStep t (t.put place none)
  | prune {t : FileTree} {place above : List FileName} (listed : place ∈ places) (below : above <+: place)
      (inside : root <+: above) (inner : above ≠ root) (directory : t above = some .directory)
      (empty : ∀ name, t (above ++ [name]) = none) : GitStep t (t.put above none)
  | create {t : FileTree} {place : List FileName} {content : List UInt8} {mode : Nat} (listed : place ∈ places)
      (free : t place = none) (above : ∀ start, start <+: place.dropLast → t start = none ∨ t start = some .directory)
      (writable : access.writable mode = true) :
      GitStep t ((t.withDirs place.dropLast).put place (some (.file content mode)))

def GitWork : FileTree → FileTree → Prop := Relation.ReflTransGen (GitStep access root places)

end Git

def WorkTree.ClearAbove (repo : WorkTree) (path : List Char) : Prop :=
  repo.tree.links.Settled (repo.checkout.target path).dropLast

/-- What git is taken to keep to: its check refuses a path beyond a symbolic
link, and only the places of the paths are worked on. -/
structure GitKeeps (settings : ApplySettings) (repo : WorkTree) (paths : List (List Char)) (git : GitRuns) : Prop where
  beyond : ∀ stdout stderr, git.check = .exited 0 stdout stderr → ∀ path ∈ paths, repo.ClearAbove path
  work : GitWork settings.access repo.checkout.root (paths.map repo.checkout.target) repo.tree git.left

end SacmRuntime
