import SacmRuntime.Governance.Tenancy

namespace SacmRuntime

abbrev SourceBytes : Type := List UInt8

/-- A directory without links: its files and its directories, by name. -/
inductive SourceDirectory where
  | node (files : List (String × SourceBytes)) (directories : List (String × SourceDirectory))

/-- A file below a directory, by the names that lead to it. -/
structure SourceFile where
  path : List String
  content : SourceBytes
  deriving DecidableEq

/-- The two ways in which the digest of `hashlib.sha256` is read. -/
structure DigestEnv where
  digest : SourceBytes → SourceBytes
  hexdigest : SourceBytes → String

namespace SourceDirectory

def under (name : String) (file : SourceFile) : SourceFile := ⟨name :: file.path, file.content⟩

mutual
def contents : SourceDirectory → List SourceFile
  | .node files directories => files.map (fun file => ⟨[file.1], file.2⟩) ++ contentsOf directories

def contentsOf : List (String × SourceDirectory) → List SourceFile
  | [] => []
  | (name, directory) :: rest => (contents directory).map (under name) ++ contentsOf rest
end

mutual
/-- No two files, and no two directories, of one directory share a name. -/
def Proper : SourceDirectory → Prop
  | .node files directories =>
    (files.map Prod.fst).Nodup ∧ (directories.map Prod.fst).Nodup ∧ ProperAll directories

def ProperAll : List (String × SourceDirectory) → Prop
  | [] => True
  | (_, directory) :: rest => Proper directory ∧ ProperAll rest
end

end SourceDirectory

namespace CodeIntelligence
open SourceDirectory

def maxFingerprintFiles : Nat := 100000

/-- `EXCLUDED_DIRECTORIES`. -/
def excludedDirectories : List String :=
  [".git", ".hg", ".mypy_cache", ".next", ".pytest_cache", ".ruff_cache", ".sacm", ".svn", ".tox", ".venv",
    "__pycache__", "bin", "build", "coverage", "dist", "generated", "node_modules", "obj", "out", "target", "vendor",
    "venv"]

/-- `INDEXABLE_SUFFIXES`. -/
def indexableSuffixes : List String :=
  [".c", ".cc", ".cpp", ".cs", ".go", ".h", ".hpp", ".java", ".js", ".jsx", ".kt", ".kts", ".php", ".py", ".rb",
    ".rs", ".scala", ".swift", ".ts", ".tsx"]

/-- `INDEXER_CONFIG_NAMES`. -/
def indexerConfigNames : List String :=
  ["Cargo.lock", "Cargo.toml", "build.gradle", "build.gradle.kts", "composer.json", "go.mod", "go.sum",
    "jsconfig.json", "package-lock.json", "package.json", "pnpm-lock.yaml", "poetry.lock", "pom.xml",
    "pyproject.toml", "settings.gradle", "settings.gradle.kts", "tsconfig.json", "yarn.lock"]

/-- `PurePath(name).suffix`: from the last dot on, unless that is the first or the last character. -/
def suffix (name : List Char) : List Char :=
  let extension := (name.reverse.takeWhile (· ≠ '.')).reverse
  if '.' ∈ name ∧ extension ≠ [] ∧ extension.length + 1 < name.length then '.' :: extension else []

/-- `_index_affecting`. -/
def indexAffecting (path : List String) : Bool :=
  let name := path.getLastD ""
  let extension := String.ofList ((suffix name.toList).flatMap lowerChar)
  decide (extension ∈ indexableSuffixes) || decide (name ∈ indexerConfigNames) ||
    "requirements".toList.isPrefixOf name.toList || decide (extension ∈ [".csproj", ".fsproj", ".sln"])

/-- The directories that `os.walk` is kept from entering. -/
def skipped (name : String) : Bool := decide (name ∈ excludedDirectories) || name.toList.head? == some '.'

mutual
/-- The files in the order in which `os.walk` comes to them. -/
def walk : SourceDirectory → List SourceFile
  | .node files directories =>
    (Json.sortByKey files).map (fun file => ⟨[file.1], file.2⟩) ++
      (Json.sortByKey (walkDirectories directories)).flatMap Prod.snd

/-- What the walk finds in each directory that it enters. -/
def walkDirectories : List (String × SourceDirectory) → List (String × List SourceFile)
  | [] => []
  | (name, directory) :: rest =>
    if skipped name then walkDirectories rest
    else (name, (walk directory).map (under name)) :: walkDirectories rest
end

/-- `text.encode()`. -/
def encode (text : String) : SourceBytes := text.toList.flatMap String.utf8EncodeChar

def fileBytes (env : DigestEnv) (file : SourceFile) : SourceBytes :=
  encode ("/".intercalate file.path) ++ (encode (toString file.content.length) ++
    if indexAffecting file.path then env.digest file.content else [])

/-- The bytes given to the digest, from the given number of files on, and
whether all files have a part in them. -/
def absorb (env : DigestEnv) : Nat → List SourceFile → SourceBytes × Bool
  | _, [] => ([], true)
  | count, file :: rest =>
    if maxFingerprintFiles ≤ count then (encode "TRUNCATED", false)
    else (fileBytes env file ++ (absorb env (count + 1) rest).1, (absorb env (count + 1) rest).2)

/-- `_workspace_fingerprint`. -/
def workspaceFingerprint (env : DigestEnv) (root : SourceDirectory) : String × Bool :=
  (env.hexdigest (absorb env 0 (walk root)).1, (absorb env 0 (walk root)).2)

end CodeIntelligence

end SacmRuntime
