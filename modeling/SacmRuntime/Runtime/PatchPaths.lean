import Mathlib.Data.List.Dedup
import SacmRuntime.Governance.Authentication
import SacmRuntime.Lib.GitPatch
import SacmRuntime.Lib.Glob
import SacmRuntime.Lib.Json
import SacmRuntime.Lib.Symlinks

namespace SacmRuntime
open PosixPath

/-- The checkout of an adapter: `repo_path` is resolved and a directory. -/
structure Checkout where
  root : List FileName
  links : Links
  settled : links.Settled root
  downward : "..".toList ∉ root

/-- How `_validate_patch_path` refuses a path. -/
inductive PatchPathError where
  | notSafe | escapes | protectedPath | existingLink | linkLoop
  deriving DecidableEq

/-- The text of the exception, given `repr(path)`. -/
def PatchPathError.message (shown : String) : PatchPathError → String
  | notSafe => "Unsafe patch path: " ++ shown
  | escapes => "Patch path escapes repository: " ++ shown
  | protectedPath => "Patch path is protected by policy: " ++ shown
  | existingLink => "Patch may not modify an existing symlink: " ++ shown
  | linkLoop => "Symlink loop from " ++ shown

namespace RepositoryAdapter

/-- What `SACM_PATCH_DENIED_GLOBS` is by default. -/
def defaultDenied : List (List Char) :=
  [".env".toList, ".env.*".toList, "*.pem".toList, "*.key".toList, "*.p12".toList, "*.pfx".toList,
    "*.mobileprovision".toList, "**/id_rsa*".toList, "**/generated/*.pdf".toList]

def SafeShape (path : List Char) : Prop :=
  path ≠ [] ∧ (parse path).absolute = false ∧ "..".toList ∉ (parse path).parts ∧ ".git".toList ∉ (parse path).parts

instance (path : List Char) : Decidable (SafeShape path) := by
  unfold SafeShape
  infer_instance

/-- `fnmatch.fnmatch(path, pattern)` for some pattern. -/
def globbed (denied : List (List Char)) (path : List Char) : Bool :=
  denied.any fun pattern => Glob.fits (Glob.parse pattern) path

/-- `_validate_patch_path`. With too few steps a chain of links counts as a loop. -/
def validatePatchPath (steps : Nat) (repo : Checkout) (denied : List (List Char)) (path : List Char) :
    Except PatchPathError Unit :=
  if ¬SafeShape path then .error .notSafe
  else
    match repo.links.walk steps [] (repo.root ++ (parse path).parts) with
    | none => .error .linkLoop
    | some resolved =>
      if ¬repo.root <+: resolved then .error .escapes
      else if globbed denied path then .error .protectedPath
      else if (repo.links resolved).isSome then .error .existingLink
      else .ok ()

end RepositoryAdapter

def keySuffixes : List (List Char) := [".pem".toList, ".key".toList, ".p12".toList, ".pfx".toList]

def EnvName (name : FileName) : Prop := name = ".env".toList ∨ ".env.".toList <+: name

def KeyName (name : FileName) : Prop := ∃ suffix ∈ keySuffixes, suffix <:+ name

def ProtectedName (name : FileName) : Prop := EnvName name ∨ "id_rsa".toList <+: name ∨ KeyName name

def ProtectedFile (parts : List FileName) : Prop := ∃ name ∈ parts.getLast?, ProtectedName name

namespace Checkout
variable (repo : Checkout) (path : List Char)

def Resolves (location : List FileName) : Prop := repo.links.Leads (repo.root ++ (parse path).parts) location

/-- `lstat` of the path finds a symbolic link. -/
def IsLink : Prop :=
  ∃ parts name parent, (parse path).parts = parts ++ [name] ∧ repo.links.Leads (repo.root ++ parts) parent ∧
    repo.links (parent ++ [name]) ≠ none

structure Guarded : Prop where
  entry : ¬repo.IsLink path
  inside : ∀ location, repo.Resolves path location → repo.root <+: location
  outsideGit : ∀ location, repo.Resolves path location → ".git".toList ∉ location.drop repo.root.length
  name : ¬ProtectedFile (parse path).parts
  target : ∀ location, repo.Resolves path location → ¬ProtectedFile (location.drop repo.root.length)

/-- Some directory on the way, or the path itself, is a link. -/
def PassesLink : Prop :=
  ∃ start, start <+: (parse path).parts ∧ repo.links (repo.root ++ start) ≠ none

/-- The path has a safe shape, leads inside, and fits no default pattern. -/
structure Taken : Prop where
  shape : RepositoryAdapter.SafeShape path
  inside : ∃ location, repo.Resolves path location ∧ repo.root <+: location
  unmatched : RepositoryAdapter.globbed RepositoryAdapter.defaultDenied path = false

end Checkout

/-- The name of the path is protected, and the way it is written keeps the
patterns from fitting: the name of an environment file below a directory or
after `./`, that of an identity at the top, that of a key before a slash. -/
def WrittenAround (path : List Char) : Prop :=
  ∃ name ∈ (parse path).parts.getLast?,
    (EnvName name ∧ path ≠ ".env".toList ∧ ¬".env.".toList <+: path) ∨
    ("id_rsa".toList <+: name ∧ (parse path).parts = [name]) ∨
    (KeyName name ∧ ("/".toList <:+ path ∨ "/.".toList <:+ path))

/-- How a path that is taken comes to a link or a protected file. -/
inductive Checkout.Slips (repo : Checkout) (path : List Char) : Prop where
  | entry (link : repo.IsLink path)
  | target (passes : repo.PassesLink path) (location : List FileName) (resolves : repo.Resolves path location)
      (bad : ".git".toList ∈ location.drop repo.root.length ∨ ProtectedFile (location.drop repo.root.length))
  | name (around : WrittenAround path)

/-- `SACM_PATCH_MAX_BYTES` and `SACM_PATCH_MAX_FILES`. -/
structure PatchLimits where
  maxBytes : Nat := 1048576
  maxFiles : Nat := 100

/-- How `_validate_patch` refuses a patch. -/
inductive PatchError where
  | empty | nulBytes | linkMode | noHeader
  | tooLarge (maxBytes : Nat)
  | tooMany (maxFiles : Nat)
  | path (path : List Char) (error : PatchPathError)
  deriving DecidableEq

/-- The text of the exception, given `repr`. -/
def PatchError.message (shown : List Char → String) : PatchError → String
  | empty => "Patch must not be empty."
  | nulBytes => "Patch must not contain NUL bytes."
  | linkMode => "Patches may not create or modify symlinks."
  | noHeader => "Patch must contain at least one standard `diff --git` header."
  | tooLarge maxBytes => "Patch exceeds SACM_PATCH_MAX_BYTES (" ++ toString maxBytes ++ ")."
  | tooMany maxFiles => "Patch exceeds SACM_PATCH_MAX_FILES (" ++ toString maxFiles ++ ")."
  | path name error => error.message (shown name)

namespace RepositoryAdapter

/-- The groups of `(.+?) b/(.+?)$`: the first is as short as it can be. -/
def shortestSplit : List Char → Option (List Char × List Char)
  | [] => none
  | c :: rest =>
    match GitPatch.after " b/" rest with
    | some (d :: second) => some ([c], d :: second)
    | _ => (shortestSplit rest).map fun found => (c :: found.1, found.2)

/-- The groups of a line that matches `^diff --git a/(.+?) b/(.+?)$`. -/
def headerPaths (line : List Char) : List (List Char) :=
  match (GitPatch.after "diff --git a/" line).bind shortestSplit with
  | some (first, second) => [first, second]
  | none => []

/-- `re.finditer` with `re.MULTILINE`: a match is a whole line. -/
def patchPaths (patch : List Char) : List (List Char) := ((patch.splitOn '\n').flatMap headerPaths).dedup

/-- `re.search(r"^(?:new file mode|old mode) 120000$", patch, re.MULTILINE)`. -/
def makesLink (patch : List Char) : Bool :=
  (patch.splitOn '\n').any fun line => line = "new file mode 120000".toList || line = "old mode 120000".toList

/-- `_validate_patch`. -/
def validatePatch (steps : Nat) (repo : Checkout) (limits : PatchLimits) (denied : List (List Char))
    (patch : List Char) : Except PatchError (List (List Char)) :=
  if patch.all isSpace then .error .empty
  else if limits.maxBytes < (GitPatch.bytes patch).length then .error (.tooLarge limits.maxBytes)
  else if '\x00' ∈ patch then .error .nulBytes
  else if makesLink patch then .error .linkMode
  else if patchPaths patch = [] then .error .noHeader
  else if limits.maxFiles < (patchPaths patch).length then .error (.tooMany limits.maxFiles)
  else do
    (patchPaths patch).forM fun path => (validatePatchPath steps repo denied path).mapError (.path path)
    return patchPaths patch

end RepositoryAdapter

end SacmRuntime
