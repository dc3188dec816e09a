import Mathlib.Data.List.Basic

namespace SacmRuntime

/-- A name in a directory. -/
abbrev FileName : Type := List Char

/-- A path as `pathlib` holds it: the names between the slashes, without the
empty ones and without `.`. -/
structure PosixPath where
  absolute : Bool
  parts : List FileName
  deriving DecidableEq

/-- A name that a directory can hold. -/
def ProperName (name : FileName) : Prop := name ≠ [] ∧ name ≠ ['.'] ∧ '/' ∉ name

instance (name : FileName) : Decidable (ProperName name) := by
  unfold ProperName
  infer_instance

namespace PosixPath

/-- `Path(text)`. -/
def parse (text : List Char) : PosixPath :=
  ⟨text.head? == some '/', (text.splitOn '/').filter fun name => name ≠ [] && name ≠ ['.']⟩

/-- The text of an absolute path. -/
def location (names : List FileName) : List Char := '/' :: ['/'].intercalate names

end PosixPath

/-- What a process sees of its file system. A resolved path that names a
directory has no link left in it, so it leads to itself. -/
structure FileSystem where
  /-- Where names lead from the root, or from the working directory, when every link is followed. -/
  follow : Bool → List FileName → List FileName
  /-- `stat` fails with `ELOOP`. -/
  loops : List FileName → Bool
  isDir : List FileName → Bool
  /-- The home directory that `~` or `~user` stands for. -/
  home : FileName → Option (List Char)
  proper : ∀ absolute names, ∀ name ∈ follow absolute names, ProperName name
  settled : ∀ absolute names, isDir (follow absolute names) = true →
    follow true (follow absolute names) = follow absolute names

namespace FileSystem

/-- `os.path.realpath(text)`. -/
def realpath (files : FileSystem) (text : List Char) : List FileName :=
  files.follow (PosixPath.parse text).absolute (PosixPath.parse text).parts

end FileSystem

end SacmRuntime
