import SacmRuntime.Lib.Symlinks
import SacmRuntime.Lib.Tx

namespace SacmRuntime

/-- What lies at a place of a file system. -/
inductive FileNode where
  | directory | other
  | file (content : List UInt8) (mode : Nat)
  | link (target : List Char)
  deriving DecidableEq

abbrev FileTree : Type := List FileName → Option FileNode

inductive OsError where
  | notFound | isDirectory | notDirectory | fileExists | permission | loop
  deriving DecidableEq

/-- The modes in which the process can read and write a file, and the mode of
a file that it creates, which it can write. -/
structure FileAccess where
  readable : Nat → Bool
  writable : Nat → Bool
  newMode : Nat
  fresh : writable newMode = true

namespace FileTree

def links (t : FileTree) : Links := fun place =>
  match t place with
  | some (.link target) => some target
  | _ => none

def put (t : FileTree) (place : List FileName) (node : Option FileNode) : FileTree := fun other =>
  if other = place then node else t other

/-- Where the names lead, every link followed. -/
def follow (steps : Nat) (t : FileTree) (names : List FileName) : Option (List FileName) := t.links.walk steps [] names

def stat (steps : Nat) (t : FileTree) (names : List FileName) : Option FileNode := (t.follow steps names).bind t

/-- Where the entry of the names lies: the last of them is not followed. -/
def entry (steps : Nat) (t : FileTree) (names : List FileName) : Option (List FileName) :=
  match names.getLast? with
  | none => some []
  | some name => (t.follow steps names.dropLast).map fun parent => parent ++ [name]

def lstat (steps : Nat) (t : FileTree) (names : List FileName) : Option FileNode := (t.entry steps names).bind t

/-- `unlink`: a link itself goes, a directory does not. -/
def unlink (steps : Nat) (names : List FileName) (t : FileTree) : Except OsError FileTree :=
  match t.entry steps names with
  | none => .error .loop
  | some place =>
    match t place with
    | none => .error .notFound
    | some .directory => .error .isDirectory
    | some _ => .ok (t.put place none)

/-- `mkdir` of one directory. -/
def mkdir (steps : Nat) (names : List FileName) (t : FileTree) : Except OsError FileTree :=
  match t.entry steps names with
  | none => .error .loop
  | some place =>
    match t place, t place.dropLast with
    | some _, _ => .error .fileExists
    | none, some .directory => .ok (t.put place (some .directory))
    | none, some _ => .error .notDirectory
    | none, none => .error .notFound

/-- Open for writing, truncate and write. -/
def writeBytes (steps : Nat) (access : FileAccess) (names : List FileName) (content : List UInt8) (t : FileTree) :
    Except OsError FileTree :=
  match t.follow steps names with
  | none => .error .loop
  | some place =>
    match t place, t place.dropLast with
    | some (.file _ mode), _ =>
      if access.writable mode then .ok (t.put place (some (.file content mode))) else .error .permission
    | none, some .directory => .ok (t.put place (some (.file content access.newMode)))
    | none, some _ => .error .notDirectory
    | none, none => .error .notFound
    | some .directory, _ => .error .isDirectory
    | some _, _ => .error .permission

/-- The modes of files alone are kept. -/
def chmod (steps : Nat) (names : List FileName) (mode : Nat) (t : FileTree) : Except OsError FileTree :=
  match t.follow steps names with
  | none => .error .loop
  | some place =>
    match t place with
    | none => .error .notFound
    | some (.file content _) => .ok (t.put place (some (.file content mode)))
    | some _ => .ok t

abbrev Op (α : Type) : Type := Tx FileTree OsError α

/-- A call that changes the tree or raises. -/
def call (action : FileTree → Except OsError FileTree) : Op Unit := fun t =>
  match action t with
  | .ok after => (.ok (), after)
  | .error e => (.error e, t)

/-- `mkdir` unless the directory is there. -/
def ensureDir (steps : Nat) (names : List FileName) : Op Unit := do
  let node ← Tx.read fun t => t.stat steps names
  if node = some .directory then pure () else call (mkdir steps names)

/-- `mkdir` for every directory of the names that is missing. -/
def makeDirs (steps : Nat) (done : List FileName) : List FileName → Op Unit
  | [] => pure ()
  | name :: rest => do
    ensureDir steps (done ++ [name])
    makeDirs steps (done ++ [name]) rest

/-- The tree with the names as directories. -/
def withDirs (t : FileTree) (names : List FileName) : FileTree := fun place =>
  if place <+: names then some .directory else t place

/-- Directories stay and no link appears. -/
def Keeps (before after : FileTree) : Prop :=
  ∀ place, (before place = some .directory → after place = some .directory) ∧
    ∀ target, after place = some (.link target) → before place = some (.link target)

section Clear
variable {steps : Nat} {t : FileTree} {names done rest : List FileName} {name : FileName}

theorem follow_clear (settled : t.links.Settled names) (upward : "..".toList ∉ names) (enough : names.length ≤ steps) :
    t.follow steps names = some names :=
  Links.walk_clear settled upward enough

theorem entry_clear (settled : t.links.Settled names) (upward : "..".toList ∉ names ++ [name])
    (enough : names.length ≤ steps) : t.entry steps (names ++ [name]) = some (names ++ [name]) := by
  have above : "..".toList ∉ names := fun member => upward (List.mem_append_left _ member)
  unfold entry
  rw [List.getLast?_concat, List.dropLast_concat]
  simp only
  rw [follow_clear settled above enough]
  rfl

variable {access : FileAccess} {action : FileTree → Except OsError FileTree} {content : List UInt8} {mode : Nat}
  {node : Option FileNode} {place : List FileName}

section
variable (reached : t.follow steps names = some place)
include reached

theorem writeBytes_file {old : List UInt8} (found : t place = some (.file old mode)) :
    writeBytes steps access names content t =
      if access.writable mode then .ok (t.put place (some (.file content mode))) else .error .permission := by
  unfold writeBytes
  rw [reached]
  simp only
  rw [found]

theorem writeBytes_new (missing : t place = none) (parent : t place.dropLast = some .directory) :
    writeBytes steps access names content t = .ok (t.put place (some (.file content access.newMode))) := by
  unfold writeBytes
  rw [reached]
  simp only
  rw [missing, parent]

theorem chmod_file {old : Nat} (found : t place = some (.file content old)) :
    chmod steps names mode t = .ok (t.put place (some (.file content mode))) := by
  unfold chmod
  rw [reached]
  simp only
  rw [found]

end

theorem call_ok {after : FileTree} (ok : action t = .ok after) :
    call action t = (.ok (), after) := by
  unfold call
  rw [ok]

theorem call_error {e : OsError} (failed : action t = .error e) :
    call action t = (.error e, t) := by
  unfold call
  rw [failed]

/-- Names that are directories as far as they are there are free of links. -/
theorem settled_dirs (dirs : ∀ start, start <+: names → t start = none ∨ t start = some .directory) :
    t.links.Settled names := by
  intro start within
  unfold links
  rcases dirs start within with missing | directory
  · rw [missing]
  · rw [directory]

theorem put_same : t.put place node place = node := if_pos rfl

theorem put_other {other : List FileName} (apart : other ≠ place) :
    t.put place node other = t other := if_neg apart

theorem withDirs_above (above : place <+: names) :
    t.withDirs names place = some .directory := if_pos above

theorem withDirs_apart (apart : ¬place <+: names) : t.withDirs names place = t place :=
  if_neg apart

theorem withDirs_same (there : ∀ start, start <+: names → t start = some .directory) : t.withDirs names = t := by
  funext place
  by_cases above : place <+: names
  · rw [withDirs_above above, there place above]
  · exact withDirs_apart above

theorem ensureDir_clear (dirs : ∀ start, start <+: done ++ [name] → t start = none ∨ t start = some .directory)
    (there : ∀ start, start <+: done → t start = some .directory) (upward : "..".toList ∉ done ++ [name])
    (enough : (done ++ [name]).length ≤ steps) :
    ensureDir steps (done ++ [name]) t = (.ok (), t.withDirs (done ++ [name])) := by
  have settled : t.links.Settled (done ++ [name]) := settled_dirs dirs
  have status : t.stat steps (done ++ [name]) = t (done ++ [name]) := by
    unfold stat
    rw [follow_clear settled upward enough]
    rfl
  unfold ensureDir
  rw [Tx.bind_read_run, status]
  rcases dirs _ List.prefix_rfl with missing | directory
  · have place : t.entry steps (done ++ [name]) = some (done ++ [name]) :=
      entry_clear (fun start within => settled start (within.trans (List.prefix_append _ _))) upward
        (by simp only [List.length_append] at enough; omega)
    have made : mkdir steps (done ++ [name]) t = .ok (t.put (done ++ [name]) (some .directory)) := by
      unfold mkdir
      rw [place]
      simp only
      rw [missing, List.dropLast_concat, there done List.prefix_rfl]
    rw [missing, if_neg (by simp)]
    unfold call
    rw [made]
    refine congrArg (Prod.mk _) (funext fun other => ?_)
    by_cases here : other = done ++ [name]
    · rw [here, put_same, withDirs_above List.prefix_rfl]
    · rw [put_other here]
      by_cases above : other <+: done ++ [name]
      · rw [withDirs_above above]
        rcases List.prefix_concat_iff.mp above with same | inDone
        · exact absurd same here
        · exact there other inDone
      · rw [withDirs_apart above]
  · rw [directory, if_pos rfl, withDirs_same]
    · rfl
    · intro start within
      rcases List.prefix_concat_iff.mp within with rfl | inDone
      · exact directory
      · exact there start inDone

/-- The missing directories are made. -/
theorem makeDirs_clear (dirs : ∀ start, start <+: done ++ rest → t start = none ∨ t start = some .directory)
    (there : ∀ start, start <+: done → t start = some .directory) (upward : "..".toList ∉ done ++ rest)
    (enough : (done ++ rest).length ≤ steps) :
    makeDirs steps done rest t = (.ok (), t.withDirs (done ++ rest)) := by
  induction rest generalizing done t with
  | nil =>
    rw [List.append_nil, withDirs_same there]
    rfl
  | cons name rest ih =>
    have split : done ++ name :: rest = (done ++ [name]) ++ rest := List.append_cons done name rest
    rw [split] at dirs upward enough ⊢
    have below : done ++ [name] <+: (done ++ [name]) ++ rest := List.prefix_append _ _
    have first : ensureDir steps (done ++ [name]) t = (.ok (), t.withDirs (done ++ [name])) := by
      refine ensureDir_clear (fun start within => dirs start (within.trans below)) there
        (fun member => upward (List.mem_append_left _ member)) ?_
      rw [List.length_append] at enough
      omega
    unfold makeDirs
    rw [Tx.bind_run_ok _ first, ih]
    · refine congrArg (Prod.mk _) (funext fun place => ?_)
      by_cases within : place <+: (done ++ [name]) ++ rest
      · rw [withDirs_above within, withDirs_above within]
      · rw [withDirs_apart within, withDirs_apart within,
          withDirs_apart fun above => within (above.trans below)]
    · intro start within
      by_cases above : start <+: done ++ [name]
      · exact .inr (withDirs_above above)
      · rw [withDirs_apart above]
        exact dirs start within
    · exact fun start within => withDirs_above within
    · exact upward
    · exact enough

end Clear

section Keeping
variable {steps : Nat} {before after : FileTree} {names place : List FileName}

theorem Keeps.trans {later : FileTree} (first : Keeps before after) (second : Keeps after later) :
    Keeps before later :=
  fun place => ⟨fun directory => (second place).1 ((first place).1 directory),
    fun target link => (first place).2 target ((second place).2 target link)⟩

/-- A change at a place that is no directory, to something that is no link. -/
theorem keeps_put {node : Option FileNode} (file : before place ≠ some .directory)
    (plain : ∀ target, node ≠ some (.link target)) : Keeps before (before.put place node) := by
  intro other
  by_cases here : other = place
  · rw [here, put_same]
    exact ⟨fun directory => absurd directory file, fun target link => absurd link (plain target)⟩
  · rw [put_other here]
    exact ⟨id, fun _ => id⟩

theorem unlink_keeps (ok : unlink steps names before = .ok after) : Keeps before after := by
  unfold unlink at ok
  split at ok
  · cases ok
  rename_i place _
  cases found : before place with
  | none =>
    rw [found] at ok
    cases ok
  | some node =>
    rw [found] at ok
    cases node with
    | directory => cases ok
    | _ =>
      cases ok
      exact keeps_put (by simp [found]) (by simp)

theorem mkdir_keeps (ok : mkdir steps names before = .ok after) : Keeps before after := by
  unfold mkdir at ok
  split at ok
  · cases ok
  split at ok
  · cases ok
  · rename_i missing _
    cases ok
    exact keeps_put (by simp [missing]) (by simp)
  · cases ok
  · cases ok

theorem writeBytes_keeps {access : FileAccess} {content : List UInt8}
    (ok : writeBytes steps access names content before = .ok after) : Keeps before after := by
  unfold writeBytes at ok
  split at ok
  · cases ok
  split at ok
  · rename_i file
    split at ok
    · cases ok
      exact keeps_put (by simp [file]) (by simp)
    · cases ok
  · rename_i missing _
    cases ok
    exact keeps_put (by simp [missing]) (by simp)
  · cases ok
  · cases ok
  · cases ok
  · cases ok

theorem chmod_keeps {mode : Nat} (ok : chmod steps names mode before = .ok after) : Keeps before after := by
  unfold chmod at ok
  split at ok
  · cases ok
  split at ok
  · cases ok
  · rename_i file
    cases ok
    exact keeps_put (by simp [file]) (by simp)
  · cases ok
    exact fun place => ⟨id, fun _ => id⟩

theorem call_moves {action : FileTree → Except OsError FileTree}
    (keeps : ∀ before after, action before = .ok after → Keeps before after) : Tx.Moves Keeps (call action) := by
  intro t
  unfold Tx.MovesFrom call
  cases result : action t with
  | error e => exact .refl
  | ok after => exact .single (keeps t after result)

theorem makeDirs_moves {done rest : List FileName} : Tx.Moves Keeps (makeDirs steps done rest) := by
  induction rest generalizing done with
  | nil => exact fun t => Tx.movesFrom_pure ()
  | cons name rest ih =>
    have ensured : Tx.Moves Keeps (ensureDir steps (done ++ [name])) := fun t =>
      Tx.movesFrom_read (Tx.moves_ite (fun t => Tx.movesFrom_pure ()) (call_moves fun _ _ => mkdir_keeps) t)
    exact ensured.bind fun _ => ih

/-- What holds along single steps holds along a run. -/
theorem keeps_run (run : Relation.ReflTransGen Keeps before after) : Keeps before after := by
  induction run with
  | refl => exact fun place => ⟨id, fun _ => id⟩
  | tail _ step ih => exact ih.trans step

end Keeping

end FileTree

end SacmRuntime
