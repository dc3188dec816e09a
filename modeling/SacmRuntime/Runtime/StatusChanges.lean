import SacmRuntime.Cognitive.ImpactAnalysis

namespace SacmRuntime

/-- The letters of `git status --porcelain`. -/
def statusLetters : List Char := " MTADRCU?!".toList

/-- An entry of `git status --porcelain -z`. A renamed or copied file comes
with the path that it had. -/
structure StatusEntry where
  index : Char
  worktree : Char
  path : List Char
  original : Option (List Char)
  letters : index ∈ statusLetters ∧ worktree ∈ statusLetters
  moved : original.isSome ↔ index ∈ ['R', 'C'] ∨ worktree ∈ ['R', 'C']
  named : ∀ name, name = path ∨ original = some name → name ≠ [] ∧ '\x00' ∉ name

namespace StatusEntry

def fields (entry : StatusEntry) : List (List Char) :=
  (entry.index :: entry.worktree :: ' ' :: entry.path) :: entry.original.toList

def rendered (entries : List StatusEntry) : List Char := (entries.flatMap fields).flatMap (· ++ ['\x00'])

end StatusEntry

namespace ContextBriefingService
open Cognitive StatusEntry

/-- `path.split(" -> ", 1)[1]`. -/
def afterArrow : List Char → Option (List Char)
  | [] => none
  | ' ' :: '-' :: '>' :: ' ' :: rest => some rest
  | _ :: rest => afterArrow rest

/-- The text behind its first arrow, or the text if it has none. -/
def behindArrow (text : List Char) : List Char := (afterArrow text).getD text

/-- What the loop appends for an entry. -/
def pathOf (entry : List Char) : Option (List Char) :=
  if entry.length < 4 then none
  else
    let path := behindArrow (entry.drop 3)
    if path = [] then none else some path

/-- `_changed_files`, with the return code and the output of `git status` in
a repository unless it fails to run. -/
def changedFiles (git : String → Option (Int × String)) (repositoryPath : Option String) : List String :=
  match repositoryPath with
  | none => []
  | some repositoryPath =>
    if repositoryPath = "" then []
    else match git repositoryPath with
      | none => []
      | some (returncode, stdout) =>
        if returncode ≠ 0 then []
        else sortedSet (((stdout.toList.splitOn '\x00').filterMap pathOf).map String.ofList)

/-- Behind an arrow in a path, and behind the first three characters of an
original path that is longer, stands nothing or a current path. A current path
with an arrow stands at one of these places itself. -/
structure Harmless (entries : List StatusEntry) : Prop where
  cut : ∀ entry ∈ entries, ∀ name, afterArrow entry.path = some name → name = [] ∨ name ∈ entries.map path
  originals : ∀ entry ∈ entries, ∀ original, entry.original = some original → 4 ≤ original.length →
    behindArrow (original.drop 3) = [] ∨ behindArrow (original.drop 3) ∈ entries.map path
  shown : ∀ entry ∈ entries, (afterArrow entry.path).isSome → ∃ other ∈ entries,
    afterArrow other.path = some entry.path ∨
      ∃ original, other.original = some original ∧ 4 ≤ original.length ∧ behindArrow (original.drop 3) = entry.path

variable {entries : List StatusEntry} {name : List Char}

theorem splitOn_fields {fields : List (List Char)} (plain : ∀ field ∈ fields, '\x00' ∉ field) :
    (fields.flatMap (· ++ ['\x00'])).splitOn '\x00' = fields ++ [[]] := by
  induction fields with
  | nil => rfl
  | cons field rest ih =>
    rw [List.flatMap_cons, List.append_assoc, List.singleton_append,
      List.splitOn_append_cons_self_of_not_mem (plain field List.mem_cons_self),
      ih fun other member => plain other (List.mem_cons_of_mem field member)]
    rfl

theorem fields_plain : ∀ field ∈ entries.flatMap fields, '\x00' ∉ field := by
  intro field member
  obtain ⟨entry, -, member⟩ := List.mem_flatMap.mp member
  rcases List.mem_cons.mp member with rfl | old
  · have letters : ∀ c ∈ statusLetters, '\x00' ≠ c := by decide
    rw [List.mem_cons, List.mem_cons, List.mem_cons]
    rintro (first | second | blank | inside)
    · exact letters _ entry.letters.1 first
    · exact letters _ entry.letters.2 second
    · exact absurd blank (by decide)
    · exact (entry.named entry.path (.inl rfl)).2 inside
  · exact (entry.named field (.inr (Option.mem_toList.mp old))).2

theorem pathOf_eq_some {entry : List Char} :
    pathOf entry = some name ↔ 4 ≤ entry.length ∧ behindArrow (entry.drop 3) = name ∧ name ≠ [] := by
  unfold pathOf
  by_cases short : entry.length < 4
  · simp [short]
  · rw [if_neg short]
    generalize behindArrow (entry.drop 3) = cut
    by_cases empty : cut = []
    · simp [empty, eq_comm]
    · simp only [if_neg empty, Option.some.injEq]
      exact ⟨fun same => ⟨by omega, same, same ▸ empty⟩, fun taken => taken.2.1⟩

/-- What the loop lists: the rest of each path, and of each longer original path. -/
theorem mem_shown : name ∈ ((rendered entries).splitOn '\x00').filterMap pathOf ↔ name ≠ [] ∧ ∃ entry ∈ entries,
    behindArrow entry.path = name ∨
      ∃ original, entry.original = some original ∧ 4 ≤ original.length ∧ behindArrow (original.drop 3) = name := by
  have current : ∀ entry : StatusEntry, pathOf (entry.index :: entry.worktree :: ' ' :: entry.path) = some name ↔
      behindArrow entry.path = name ∧ name ≠ [] := by
    intro entry
    have filled := List.length_pos_iff.mpr (entry.named entry.path (.inl rfl)).1
    rw [pathOf_eq_some]
    exact and_iff_right (by simp only [List.length_cons]; omega)
  unfold rendered
  rw [splitOn_fields fields_plain, List.mem_filterMap]
  constructor
  · rintro ⟨field, member, taken⟩
    rcases List.mem_append.mp member with listed | last
    · obtain ⟨entry, inside, own⟩ := List.mem_flatMap.mp listed
      rcases List.mem_cons.mp own with rfl | old
      · obtain ⟨cut, filled⟩ := (current entry).mp taken
        exact ⟨filled, entry, inside, .inl cut⟩
      · obtain ⟨long, cut, filled⟩ := pathOf_eq_some.mp taken
        exact ⟨filled, entry, inside, .inr ⟨field, Option.mem_toList.mp old, long, cut⟩⟩
    · rw [List.mem_singleton.mp last] at taken
      cases taken
  · rintro ⟨filled, entry, inside, cut | ⟨original, old, long, cut⟩⟩
    · exact ⟨_, List.mem_append_left _ (List.mem_flatMap.mpr ⟨entry, inside, List.mem_cons_self⟩),
        (current entry).mpr ⟨cut, filled⟩⟩
    · refine ⟨original, List.mem_append_left _ (List.mem_flatMap.mpr ⟨entry, inside, ?_⟩),
        pathOf_eq_some.mpr ⟨long, cut, filled⟩⟩
      exact List.mem_cons_of_mem _ (Option.mem_toList.mpr old)

theorem shown_iff : (∀ name, name ∈ ((rendered entries).splitOn '\x00').filterMap pathOf ↔ name ∈ entries.map path) ↔
    Harmless entries := by
  simp only [mem_shown]
  constructor
  · intro exact
    refine ⟨fun entry inside name arrow => ?_, fun entry inside original old long => ?_, fun entry inside arrow => ?_⟩
    · refine or_iff_not_imp_left.mpr fun filled => (exact name).mp ⟨filled, entry, inside, .inl ?_⟩
      rw [behindArrow, arrow, Option.getD_some]
    · refine or_iff_not_imp_left.mpr fun filled => (exact _).mp ⟨filled, entry, inside, .inr ⟨original, old, long, rfl⟩⟩
    · obtain ⟨-, other, beside, cut | old⟩ := (exact entry.path).mpr (List.mem_map_of_mem inside)
      · refine ⟨other, beside, .inl ?_⟩
        unfold behindArrow at cut
        cases found : afterArrow other.path with
        | some name => rw [← cut, found, Option.getD_some]
        | none =>
          rw [found, Option.getD_none] at cut
          rw [← cut, found] at arrow
          cases arrow
      · exact ⟨other, beside, .inr old⟩
  · intro harmless name
    constructor
    · rintro ⟨filled, entry, inside, cut | ⟨original, old, long, cut⟩⟩
      · unfold behindArrow at cut
        cases found : afterArrow entry.path with
        | none =>
          rw [found, Option.getD_none] at cut
          exact cut ▸ List.mem_map_of_mem inside
        | some rest =>
          rw [found, Option.getD_some] at cut
          exact (harmless.cut entry inside name (cut ▸ found)).resolve_left filled
      · have placed := harmless.originals entry inside original old long
        rw [cut] at placed
        exact placed.resolve_left filled
    · intro member
      obtain ⟨entry, inside, rfl⟩ := List.mem_map.mp member
      refine ⟨(entry.named entry.path (.inl rfl)).1, ?_⟩
      cases found : afterArrow entry.path with
      | none => exact ⟨entry, inside, .inl (by rw [behindArrow, found, Option.getD_none])⟩
      | some rest =>
        obtain ⟨other, beside, cut | old⟩ := harmless.shown entry inside (by rw [found]; rfl)
        · exact ⟨other, beside, .inl (by rw [behindArrow, cut, Option.getD_some])⟩
        · exact ⟨other, beside, .inr old⟩

theorem sortedSet_congr {first second : List String} :
    sortedSet first = sortedSet second ↔ ∀ item, item ∈ first ↔ item ∈ second := by
  have mem_sortedSet : ∀ {items : List String} {item : String}, item ∈ sortedSet items ↔ item ∈ items := by
    intro items item
    unfold sortedSet
    rw [List.mem_insertionSort, List.mem_dedup]
  constructor
  · intro same item
    rw [← mem_sortedSet, same, mem_sortedSet]
  · intro alike
    have perm : (sortedSet first).Perm (sortedSet second) := by
      rw [List.perm_ext_iff_of_nodup (nodup_sortedSet first) (nodup_sortedSet second)]
      exact fun item => mem_sortedSet.trans ((alike item).trans mem_sortedSet.symm)
    exact perm.eq_of_pairwise (fun _ _ _ _ below above => absurd above (not_lt_of_gt below))
      (sortedSet_sorted first) (sortedSet_sorted second)

/-- The changed files are the current paths of the entries, exactly if the
arrows and the original paths do no harm. -/
theorem changed_files_current {git : String → Option (Int × String)} {repositoryPath : String}
    (given : repositoryPath ≠ "") (ran : git repositoryPath = some (0, String.ofList (rendered entries))) :
    changedFiles git (some repositoryPath) = sortedSet (entries.map fun entry => String.ofList entry.path) ↔
      Harmless entries := by
  unfold changedFiles
  simp only [if_neg given, ran, ne_eq, not_true_eq_false, if_false, String.toList_ofList]
  rw [sortedSet_congr, ← shown_iff]
  have listed : entries.map (fun entry => String.ofList entry.path) = (entries.map path).map String.ofList := by
    rw [List.map_map]
    rfl
  rw [listed]
  constructor
  · intro alike name
    simpa only [List.mem_map_of_injective fun _ _ => String.ofList_injective] using alike (String.ofList name)
  · intro alike item
    simp only [List.mem_map, alike]

end ContextBriefingService

namespace StatusSample
open Cognitive ContextBriefingService StatusEntry

def git (entries : List StatusEntry) : String → Option (Int × String) :=
  fun _ => some (0, String.ofList (rendered entries))

def entry (index worktree : Char) (path : String) (original : Option String)
    (formed : (index ∈ statusLetters ∧ worktree ∈ statusLetters) ∧
      (original.isSome ↔ index ∈ ['R', 'C'] ∨ worktree ∈ ['R', 'C']) ∧
      ∀ name ∈ path :: original.toList, name.toList ≠ [] ∧ '\x00' ∉ name.toList) : StatusEntry where
  index := index
  worktree := worktree
  path := path.toList
  original := original.map String.toList
  letters := formed.1
  moved := by rw [Option.isSome_map]; exact formed.2.1
  named name same := by
    rcases same with rfl | old
    · exact formed.2.2 path List.mem_cons_self
    · obtain ⟨text, given, rfl⟩ := Option.map_eq_some_iff.mp old
      exact formed.2.2 text (List.mem_cons_of_mem _ (Option.mem_toList.mpr given))

def modified : StatusEntry := entry ' ' 'M' "a.py" none (by decide)
def renamedShort : StatusEntry := entry 'R' ' ' "new.py" (some "old") (by decide)
def renamed : StatusEntry := entry 'R' ' ' "new.py" (some "old.py") (by decide)

/-- A file is modified, and a file with a short name is renamed. -/
theorem changed_files_sample : changedFiles (git [modified, renamedShort]) (some "repo") = ["a.py", "new.py"] := by
  have harmless : Harmless [modified, renamedShort] := by
    refine ⟨?_, ?_, ?_⟩ <;> simp [modified, renamedShort, entry, afterArrow]
  have current : changedFiles (git [modified, renamedShort]) (some "repo") =
      sortedSet ([modified, renamedShort].map fun entry => String.ofList entry.path) :=
    (changed_files_current (by decide) rfl).mpr harmless
  exact current.trans (by decide +kernel)

/-- The path that a renamed file had is listed without its first three characters. -/
theorem original_path_cut :
    changedFiles (git [renamed]) (some "repo") = [".py", "new.py"] ∧
    changedFiles (git [renamed]) (some "repo") ≠ sortedSet ([renamed].map fun entry => String.ofList entry.path) := by
  decide +kernel

end StatusSample

end SacmRuntime
