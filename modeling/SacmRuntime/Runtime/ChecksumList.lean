import SacmRuntime.Runtime.EvidenceService

namespace SacmRuntime
namespace EvidenceService

namespace Directory
variable {Bytes : Type} {directory : Directory Bytes} {name other : String} {bytes : Bytes}

theorem read_mem (present : directory.read name = some bytes) : (name, bytes) ∈ directory := by
  obtain ⟨file, found, rfl⟩ := Option.map_eq_some_iff.mp present
  have named := List.find?_some found
  rw [beq_iff_eq] at named
  rw [← named]
  exact List.mem_of_find?_eq_some found

@[simp] theorem read_write_self : (directory.write name bytes).read name = some bytes := by
  induction directory with
  | nil => simp [write, read]
  | cons file rest ih =>
    unfold write
    by_cases same : file.1 = name
    · simp [same, read]
    · simp only [same, if_false]
      unfold read at ih ⊢
      rw [List.find?_cons_of_neg (by simp [same])]
      exact ih

theorem read_write_ne (different : other ≠ name) : (directory.write name bytes).read other = directory.read other := by
  induction directory with
  | nil => simp [write, read, Ne.symm different]
  | cons file rest ih =>
    unfold write
    by_cases same : file.1 = name
    · subst same
      simp [read, Ne.symm different]
    · simp only [same, if_false]
      unfold read at ih ⊢
      by_cases here : file.1 = other
      · rw [List.find?_cons_of_pos (by simp [here]), List.find?_cons_of_pos (by simp [here])]
      · rw [List.find?_cons_of_neg (by simp [here]), List.find?_cons_of_neg (by simp [here])]
        exact ih

variable {files : List (RecordedFile × Bytes)} {names : List String}

theorem read_writeFiles_ne (different : ∀ file : RecordedFile, file.name ≠ name) :
    (files.foldl (fun directory file => directory.write file.1.name file.2) directory).read name =
      directory.read name := by
  induction files generalizing directory with
  | nil => rfl
  | cons file rest ih =>
    rw [List.foldl_cons, ih, read_write_ne (different file.1).symm]

theorem mem_write {file : String × Bytes} (member : file ∈ directory.write name bytes) :
    file = (name, bytes) ∨ file ∈ directory := by
  induction directory with
  | nil => exact .inl (List.mem_singleton.mp member)
  | cons first rest ih =>
    unfold write at member
    split at member
    · rcases List.mem_cons.mp member with here | later
      · exact .inl here
      · exact .inr (List.mem_cons_of_mem first later)
    · rcases List.mem_cons.mp member with rfl | later
      · exact .inr List.mem_cons_self
      · exact (ih later).imp_right (List.mem_cons_of_mem first)

/-- No two files share a name, and all names are among the given ones. -/
structure Tidy (names : List String) (directory : Directory Bytes) : Prop where
  named : ∀ file ∈ directory, file.1 ∈ names
  distinct : (directory.map Prod.fst).Nodup

theorem Tidy.write (tidy : Tidy names directory) (listed : name ∈ names) :
    Tidy names (directory.write name bytes) := by
  constructor
  · intro file member
    rcases mem_write member with rfl | old
    · exact listed
    · exact tidy.named file old
  · have distinct := tidy.distinct
    clear tidy
    induction directory with
    | nil => simp [Directory.write]
    | cons first rest ih =>
      rw [List.map_cons, List.nodup_cons] at distinct
      unfold Directory.write
      by_cases same : first.1 = name
      · rw [if_pos same, List.map_cons, List.nodup_cons, ← same]
        exact distinct
      · rw [if_neg same, List.map_cons, List.nodup_cons]
        refine ⟨fun again => ?_, ih distinct.2⟩
        obtain ⟨file, member, named⟩ := List.mem_map.mp again
        rcases mem_write member with rfl | old
        · exact same named.symm
        · exact distinct.1 (List.mem_map.mpr ⟨file, old, named⟩)

theorem Tidy.writeFiles (tidy : Tidy names directory) (listed : ∀ file : RecordedFile, file.name ∈ names) :
    Tidy names (files.foldl (fun directory file => directory.write file.1.name file.2) directory) := by
  induction files generalizing directory with
  | nil => exact tidy
  | cons file rest ih => exact ih (tidy.write (listed file.1))

theorem Tidy.read_of_mem (tidy : Tidy names directory) (member : (name, bytes) ∈ directory) :
    directory.read name = some bytes := by
  have distinct := tidy.distinct
  clear tidy
  induction directory with
  | nil => cases member
  | cons first rest ih =>
    rw [List.map_cons, List.nodup_cons] at distinct
    unfold read at ih ⊢
    rcases List.mem_cons.mp member with rfl | later
    · simp
    · have other : first.1 ≠ name := by
        intro same
        exact distinct.1 (List.mem_map.mpr ⟨_, later, same.symm⟩)
      rw [List.find?_cons_of_neg (by simp [other])]
      exact ih later distinct.2

end Directory

/-- The characters of a hexadecimal digest, or of another word of a list of checksums. -/
def Plain (word : List Char) : Prop := ∀ c ∈ word, lineBreak c = false

variable {c : Char} {line rest text : List Char}

theorem splitLines_cons (unpaired : c = '\r' → rest.head? ≠ some '\n') :
    splitLines (c :: rest) = if lineBreak c then [] :: splitLines rest else
      match splitLines rest with
      | [] => [[c]]
      | line :: lines => (c :: line) :: lines := by
  have single : ∀ tail, c = '\r' → rest = '\n' :: tail → False := by
    rintro tail rfl rfl
    exact unpaired rfl rfl
  exact splitLines.eq_3 c rest single

theorem splitLines_ne_nil (present : text ≠ []) : splitLines text ≠ [] := by
  unfold splitLines
  split
  · exact absurd rfl present
  · simp
  · split
    · simp
    · split <;> simp

theorem splitLines_feed (rest : List Char) : splitLines ('\n' :: rest) = [] :: splitLines rest := by
  rw [splitLines_cons (by simp)]
  rfl

theorem unbroken_append {first : List Char} (unbroken : ¬lineBreak c = true)
    (ih : splitLines (first ++ '\n' :: rest) = splitLines (first ++ ['\n']) ++ splitLines rest) :
    splitLines (c :: first ++ '\n' :: rest) = splitLines (c :: first ++ ['\n']) ++ splitLines rest := by
  have noCarriage : c ≠ '\r' := by
    rintro rfl
    exact unbroken rfl
  rw [List.cons_append, List.cons_append, splitLines_cons (fun same => absurd same noCarriage),
    splitLines_cons (fun same => absurd same noCarriage), if_neg unbroken, if_neg unbroken, ih]
  cases found : splitLines (first ++ ['\n']) with
  | nil => exact absurd found (splitLines_ne_nil (by simp))
  | cons line lines => rfl

theorem splitLines_append (first rest : List Char) :
    splitLines (first ++ '\n' :: rest) = splitLines (first ++ ['\n']) ++ splitLines rest := by
  induction first using splitLines.induct with
  | case1 =>
    rw [List.nil_append, List.nil_append, splitLines_feed, splitLines_feed]
    rfl
  | case2 first ih => simpa [splitLines] using ih
  | case3 c first unpaired broken ih =>
    by_cases carriage : c = '\r' ∧ first = []
    · obtain ⟨rfl, rfl⟩ := carriage
      simp [splitLines]
    · have apart : ∀ tail, c = '\r' → (first ++ '\n' :: tail).head? ≠ some '\n' := by
        intro tail same feed
        cases first with
        | nil => exact carriage ⟨same, rfl⟩
        | cons next first =>
          have nextFeed : next = '\n' := by simpa using feed
          exact unpaired first same (by rw [nextFeed])
      rw [List.cons_append, List.cons_append, splitLines_cons (apart rest), splitLines_cons (apart []), if_pos broken,
        if_pos broken, ih]
      rfl
  | case4 c first unpaired unbroken _ ih => exact unbroken_append unbroken ih
  | case5 c first unpaired unbroken line lines _ ih => exact unbroken_append unbroken ih

theorem splitLines_line (plain : Plain line) : splitLines (line ++ ['\n']) = [line] := by
  induction line with
  | nil => rfl
  | cons c line ih =>
    have unbroken := plain c List.mem_cons_self
    have noCarriage : c ≠ '\r' := by
      rintro rfl
      cases unbroken
    rw [List.cons_append, splitLines_cons (fun same => absurd same noCarriage), if_neg (by simp [unbroken]),
      ih fun d member => plain d (List.mem_cons_of_mem c member)]

theorem splitTwo_word {word : List Char} (solid : ' ' ∉ word) (rest : List Char) :
    splitTwo (word ++ ' ' :: ' ' :: rest) = some (word, rest) := by
  induction word with
  | nil => rfl
  | cons c word ih =>
    have other : c ≠ ' ' := fun same => solid (by simp [same])
    rw [List.cons_append, splitTwo]
    · rw [ih fun member => solid (List.mem_cons_of_mem c member)]
      rfl
    · rintro _ rfl
      exact absurd rfl other

/-- A text as it is read from a file: every line ends with a line feed. -/
def universalNewlines : List Char → List Char
  | [] => []
  | '\r' :: '\n' :: rest => '\n' :: universalNewlines rest
  | c :: rest => (if c = '\r' then '\n' else c) :: universalNewlines rest

theorem universalNewlines_cons (unpaired : c = '\r' → rest.head? ≠ some '\n') :
    universalNewlines (c :: rest) = (if c = '\r' then '\n' else c) :: universalNewlines rest := by
  rw [universalNewlines]
  rintro tail rfl rfl
  exact unpaired rfl rfl

theorem universalNewlines_same (none_ : '\r' ∉ text) : universalNewlines text = text := by
  induction text with
  | nil => rfl
  | cons c rest ih =>
    have other : c ≠ '\r' := fun same => none_ (by simp [same])
    rw [universalNewlines_cons (fun same => absurd same other), if_neg other,
      ih fun member => none_ (List.mem_cons_of_mem c member)]

/-- The names of the files that `build` writes. -/
def fileNames : List String :=
  ["run-manifest.json", "request.json", "steps.json", "events.jsonl", "cost-report.json", "signature.sig",
    "checksums.sha256", "patch.diff", "review-report.json", "verification-results.json", "test-results.xml",
    "security-findings.sarif", "sbom.spdx.json", "provenance.intoto.jsonl"]

/-- Texts and hashes as the language and an ideal hash have them: a written text
is read back by its lines, a digest is a word, no two contents share one, and
the names that `build` writes are short. -/
structure Ideal {Bytes : Type} (env : EvidenceEnv Bytes) : Prop where
  readable : ∀ text, env.readText (env.encode text) = some (String.ofList (universalNewlines text.toList))
  plainDigest : ∀ bytes, Plain (env.sha256 bytes).toList ∧ ' ' ∉ (env.sha256 bytes).toList
  injective : Function.Injective env.sha256
  short : ∀ name ∈ fileNames, env.statRaises name = none

section
variable {Bytes : Type} {env : EvidenceEnv Bytes} {directory : Directory Bytes}

def checksumLine (env : EvidenceEnv Bytes) (file : String × Bytes) : List Char :=
  (env.sha256 file.2).toList ++ ' ' :: ' ' :: file.1.toList

theorem checksums_toList : (checksums env directory).toList =
    ((directory.filter fun file => file.1 ≠ "checksums.sha256").insertionSort fun a b => a.1 ≤ b.1).flatMap fun file =>
      checksumLine env file ++ ['\n'] := by
  unfold checksums
  rw [String.toList_join, List.flatMap_map]
  congr 1
  funext file
  simp [checksumLine]

variable {file : String × Bytes} {files : List (String × Bytes)}

theorem splitLines_lines (plain : ∀ file ∈ files, Plain (checksumLine env file)) :
    splitLines (files.flatMap fun file => checksumLine env file ++ ['\n']) = files.map (checksumLine env) := by
  induction files with
  | nil => rfl
  | cons file rest ih =>
    have line := splitLines_line (plain file List.mem_cons_self)
    rw [List.flatMap_cons, List.append_assoc, List.singleton_append, splitLines_append, line,
      ih fun other member => plain other (List.mem_cons_of_mem file member)]
    rfl

theorem fileNames_plain : ∀ name ∈ fileNames, Plain name.toList := by
  unfold Plain
  decide

theorem recordedFile_listed (file : RecordedFile) : file.name ∈ fileNames := by
  cases file <;> decide

theorem plain_line (ideal : Ideal env) (listed : file.1 ∈ fileNames) :
    Plain (checksumLine env file) := by
  intro c member
  rcases List.mem_append.mp member with digest | rest
  · exact (ideal.plainDigest file.2).1 c digest
  · rcases List.mem_cons.mp rest with rfl | rest
    · rfl
    · rcases List.mem_cons.mp rest with rfl | rest
      · rfl
      · exact fileNames_plain file.1 listed c rest

theorem checksum_lines (ideal : Ideal env) (tidy : Directory.Tidy fileNames directory) {line : List Char} :
    line ∈ splitLines (checksums env directory).toList ↔
      ∃ file ∈ directory, file.1 ≠ "checksums.sha256" ∧ checksumLine env file = line := by
  rw [checksums_toList, splitLines_lines]
  · simp only [List.mem_map, List.mem_insertionSort, List.mem_filter, decide_eq_true_eq, and_assoc]
  · intro file member
    rw [List.mem_insertionSort, List.mem_filter] at member
    exact plain_line ideal (tidy.named file member.1)

theorem checksums_readable (ideal : Ideal env) (tidy : Directory.Tidy fileNames directory) :
    env.readText (env.encode (checksums env directory)) = some (checksums env directory) := by
  have none_ : '\r' ∉ (checksums env directory).toList := by
    intro carriage
    rw [checksums_toList] at carriage
    obtain ⟨file, member, inLine⟩ := List.mem_flatMap.mp carriage
    rw [List.mem_insertionSort, List.mem_filter] at member
    rcases List.mem_append.mp inLine with here | feed
    · cases plain_line ideal (tidy.named file member.1) _ here
    · simp at feed
  rw [ideal.readable, universalNewlines_same none_, String.ofList_toList]

theorem splitTwo_line (ideal : Ideal env) (file : String × Bytes) :
    splitTwo (checksumLine env file) = some ((env.sha256 file.2).toList, file.1.toList) :=
  splitTwo_word (ideal.plainDigest file.2).2 file.1.toList

theorem checksums_fit (ideal : Ideal env) (tidy : Directory.Tidy fileNames directory) :
    checksumCheck env (writeChecksums env directory).read = .ok [] := by
  unfold checksumCheck writeChecksums
  rw [Directory.read_write_self]
  have quiet : (splitLines (checksums env directory).toList).findSome? (lineRaises env) = none := by
    rw [List.findSome?_eq_none_iff]
    intro line member
    obtain ⟨file, here, -, rfl⟩ := (checksum_lines ideal tidy).mp member
    simp [lineRaises, splitTwo_line ideal, ideal.short file.1 (tidy.named file here)]
  simp only [checksums_readable ideal tidy, quiet]
  congr 1
  rw [List.flatMap_eq_nil_iff]
  intro line member
  obtain ⟨file, here, other, rfl⟩ := (checksum_lines ideal tidy).mp member
  have found : directory.read file.1 = some file.2 := tidy.read_of_mem here
  simp [lineErrors, splitTwo_line ideal, hasDigest, Directory.read_write_ne other, found]

end

end EvidenceService

end SacmRuntime
