import SacmRuntime.Lib.JsonSort
import SacmRuntime.Runtime.WorkspaceFingerprint

namespace SacmRuntime
open SourceDirectory CodeIntelligence

namespace SourceDirectory

/-- One of the directories that lead to the file is not walked. -/
def Skipped : List String → Prop
  | [] | [_] => False
  | name :: rest => skipped name = true ∨ Skipped rest

end SourceDirectory

open SourceDirectory

/-- The file's content and path are those of an index-affecting source. -/
def Affects (file : SourceFile) : Prop := indexAffecting file.path = true

def StandsAt (env : DigestEnv) (root : SourceDirectory) (file : SourceFile) (place : Nat) : Prop :=
  ∃ before after, walk root = before ++ file :: after ∧ (before.flatMap (fileBytes env)).length = place

def spelled (env : DigestEnv) (root : SourceDirectory) : SourceBytes := (walk root).flatMap (fileBytes env)

/-- How the walks of two directories hide that an index-affecting file of the
first is not in the second: it lies in a directory that is not walked, the walk
of the second has no file of its path and size, or has it at another place with
another content. -/
inductive Confused (env : DigestEnv) (one other : SourceDirectory) : Prop
  | skipped (file : SourceFile) (inside : file ∈ contents one) (affects : Affects file) (aside : Skipped file.path)
      (missing : file ∉ contents other)
  | listed (file : SourceFile) (walked : file ∈ walk one) (affects : Affects file)
      (missing : ∀ found ∈ walk other, found.path = file.path → found.content.length ≠ file.content.length)
  | moved (file found : SourceFile) (place elsewhere : Nat) (affects : Affects file)
      (here : StandsAt env one file place) (there : StandsAt env other found elsewhere) (same : found.path = file.path)
      (size : found.content.length = file.content.length) (away : place ≠ elsewhere)
      (content : found.content ≠ file.content)

def SameSources (one other : SourceDirectory) : Prop :=
  ∀ file, Affects file → (file ∈ contents one ↔ file ∈ contents other)

/-- The hash has no collision among what the two fingerprints hash, and its
values have 32 bytes. -/
structure CollisionFree (env : DigestEnv) (one other : SourceDirectory) : Prop where
  whole : env.hexdigest (spelled env one) = env.hexdigest (spelled env other) → spelled env one = spelled env other
  files : ∀ a ∈ contents one, ∀ b ∈ contents other, env.digest a.content = env.digest b.content → a.content = b.content
  size : ∀ file ∈ contents one ++ contents other, (env.digest file.content).length = 32

section Walks
variable {env : DigestEnv} {name : String} {file : SourceFile} {files : List (String × SourceBytes)}
  {directories : List (String × SourceDirectory)}

theorem contents_node : file ∈ contents (.node files directories) ↔
    (∃ entry ∈ files, file = ⟨[entry.1], entry.2⟩) ∨ file ∈ contentsOf directories := by
  rw [contents, List.mem_append, List.mem_map]
  refine or_congr_left ⟨?_, ?_⟩
  · rintro ⟨entry, member, rfl⟩
    exact ⟨entry, member, rfl⟩
  · rintro ⟨entry, member, rfl⟩
    exact ⟨entry, member, rfl⟩

theorem contentsOf_cons {directory : SourceDirectory} {rest : List (String × SourceDirectory)} :
    file ∈ contentsOf ((name, directory) :: rest) ↔
      (∃ inner ∈ contents directory, file = under name inner) ∨ file ∈ contentsOf rest := by
  rw [contentsOf, List.mem_append, List.mem_map]
  refine or_congr_left ⟨?_, ?_⟩
  · rintro ⟨inner, member, rfl⟩
    exact ⟨inner, member, rfl⟩
  · rintro ⟨inner, member, rfl⟩
    exact ⟨inner, member, rfl⟩

theorem walk_node : file ∈ walk (.node files directories) ↔
    (∃ entry ∈ files, file = ⟨[entry.1], entry.2⟩) ∨ ∃ found ∈ walkDirectories directories, file ∈ found.2 := by
  rw [walk, List.mem_append, List.mem_map, List.mem_flatMap]
  refine or_congr ⟨?_, ?_⟩ ⟨?_, ?_⟩
  · rintro ⟨entry, member, rfl⟩
    exact ⟨entry, Json.mem_sortByKey.mp member, rfl⟩
  · rintro ⟨entry, member, rfl⟩
    exact ⟨entry, Json.mem_sortByKey.mpr member, rfl⟩
  · rintro ⟨found, member, inside⟩
    exact ⟨found, Json.mem_sortByKey.mp member, inside⟩
  · rintro ⟨found, member, inside⟩
    exact ⟨found, Json.mem_sortByKey.mpr member, inside⟩

mutual
theorem contents_path : ∀ (directory : SourceDirectory), ∀ file ∈ contents directory, file.path ≠ []
  | .node files directories => by
    intro file member
    rcases contents_node.mp member with ⟨entry, _, rfl⟩ | inner
    · exact List.cons_ne_nil _ _
    · exact contentsOf_path directories file inner

theorem contentsOf_path : ∀ (directories : List (String × SourceDirectory)),
    ∀ file ∈ contentsOf directories, file.path ≠ []
  | [] => fun _ member => absurd member List.not_mem_nil
  | (name, directory) :: rest => by
    intro file member
    rcases contentsOf_cons.mp member with ⟨inner, _, rfl⟩ | later
    · exact List.cons_ne_nil _ _
    · exact contentsOf_path rest file later
end

theorem skipped_cons {rest : List String} (filled : rest ≠ []) :
    Skipped (name :: rest) ↔ skipped name = true ∨ Skipped rest := by
  cases rest with
  | nil => exact absurd rfl filled
  | cons next more => rfl

mutual
theorem mem_walk : ∀ (directory : SourceDirectory) (file : SourceFile),
    file ∈ walk directory ↔ file ∈ contents directory ∧ ¬Skipped file.path
  | .node files directories, file => by
    rw [walk_node, contents_node, or_and_right, ← mem_walkDirectories directories file]
    refine or_congr_left ⟨?_, fun both => both.1⟩
    rintro ⟨entry, member, rfl⟩
    exact ⟨⟨entry, member, rfl⟩, id⟩

theorem mem_walkDirectories : ∀ (directories : List (String × SourceDirectory)) (file : SourceFile),
    (∃ found ∈ walkDirectories directories, file ∈ found.2) ↔ file ∈ contentsOf directories ∧ ¬Skipped file.path
  | [], file => by simp [walkDirectories, contentsOf]
  | (name, directory) :: rest, file => by
    rw [walkDirectories, contentsOf_cons, or_and_right, ← mem_walkDirectories rest file]
    by_cases aside : skipped name = true
    · rw [if_pos aside]
      refine ⟨Or.inr, ?_⟩
      rintro (⟨⟨inner, member, rfl⟩, shown⟩ | later)
      · exact absurd ((skipped_cons (contents_path directory inner member)).mpr (Or.inl aside)) shown
      · exact later
    · rw [if_neg aside, List.exists_mem_cons_iff]
      refine or_congr_left ?_
      rw [List.mem_map]
      constructor
      · rintro ⟨inner, member, rfl⟩
        obtain ⟨inside, shown⟩ := (mem_walk directory inner).mp member
        refine ⟨⟨inner, inside, rfl⟩, fun hidden => ?_⟩
        rcases (skipped_cons (contents_path directory inner inside)).mp hidden with first | later
        · exact aside first
        · exact shown later
      · rintro ⟨⟨inner, member, rfl⟩, shown⟩
        refine ⟨inner, (mem_walk directory inner).mpr ⟨member, fun hidden => shown ?_⟩, rfl⟩
        exact (skipped_cons (contents_path directory inner member)).mpr (Or.inr hidden)
end

theorem contentsOf_name : ∀ (directories : List (String × SourceDirectory)), ∀ file ∈ contentsOf directories,
    ∃ name inner, name ∈ directories.map Prod.fst ∧ inner.path ≠ [] ∧ file = under name inner
  | [] => fun _ member => absurd member List.not_mem_nil
  | (name, directory) :: rest => by
    intro file member
    rcases contentsOf_cons.mp member with ⟨inner, inside, rfl⟩ | later
    · exact ⟨name, inner, List.mem_cons_self, contents_path directory inner inside, rfl⟩
    · obtain ⟨other, inner, named, filled, same⟩ := contentsOf_name rest file later
      exact ⟨other, inner, List.mem_cons_of_mem _ named, filled, same⟩

mutual
theorem contents_unique : ∀ (directory : SourceDirectory), Proper directory → ∀ a ∈ contents directory,
    ∀ b ∈ contents directory, a.path = b.path → a.content = b.content
  | .node files directories => by
    intro proper a inA b inB same
    rw [Proper] at proper
    obtain ⟨fileNames, directoryNames, each⟩ := proper
    rcases contents_node.mp inA with ⟨entryA, memberA, rfl⟩ | innerA
    · rcases contents_node.mp inB with ⟨entryB, memberB, rfl⟩ | innerB
      · have named : entryA.1 = entryB.1 := (List.cons.inj same).1
        exact congrArg Prod.snd (List.inj_on_of_nodup_map fileNames memberA memberB named)
      · obtain ⟨name, inner, _, filled, rfl⟩ := contentsOf_name directories b innerB
        exact absurd (List.cons.inj same).2.symm filled
    · rcases contents_node.mp inB with ⟨entryB, _, rfl⟩ | innerB
      · obtain ⟨name, inner, _, filled, rfl⟩ := contentsOf_name directories a innerA
        exact absurd (List.cons.inj same).2 filled
      · exact contentsOf_unique directories directoryNames each a innerA b innerB same

theorem contentsOf_unique : ∀ (directories : List (String × SourceDirectory)), (directories.map Prod.fst).Nodup →
    ProperAll directories → ∀ a ∈ contentsOf directories, ∀ b ∈ contentsOf directories, a.path = b.path →
      a.content = b.content
  | [] => fun _ _ _ member => absurd member List.not_mem_nil
  | (name, directory) :: rest => by
    intro names each a inA b inB same
    rw [ProperAll] at each
    rw [List.map_cons, List.nodup_cons] at names
    rcases contentsOf_cons.mp inA with ⟨innerA, memberA, rfl⟩ | laterA
    · rcases contentsOf_cons.mp inB with ⟨innerB, memberB, rfl⟩ | laterB
      · exact contents_unique directory each.1 innerA memberA innerB memberB (List.cons.inj same).2
      · obtain ⟨other, inner, named, _, rfl⟩ := contentsOf_name rest b laterB
        have here : name = other := (List.cons.inj same).1
        exact absurd (here ▸ named) names.1
    · rcases contentsOf_cons.mp inB with ⟨innerB, memberB, rfl⟩ | laterB
      · obtain ⟨other, inner, named, _, rfl⟩ := contentsOf_name rest a laterA
        have here : other = name := (List.cons.inj same).1
        exact absurd (here ▸ named) names.1
      · exact contentsOf_unique rest names.2 each.2 a laterA b laterB same
end

end Walks

section Fingerprints
variable {env : DigestEnv} {one other : SourceDirectory} {file found : SourceFile}

theorem absorb_all {count : Nat} {files : List SourceFile} (few : count + files.length ≤ maxFingerprintFiles) :
    absorb env count files = (files.flatMap (fileBytes env), true) := by
  induction files generalizing count with
  | nil => rfl
  | cons file rest ih =>
    rw [List.length_cons] at few
    rw [absorb, if_neg (by omega), ih (by omega), List.flatMap_cons]

theorem fingerprint_spelled (few : (walk one).length ≤ maxFingerprintFiles) :
    workspaceFingerprint env one = (env.hexdigest (spelled env one), true) := by
  unfold workspaceFingerprint
  rw [absorb_all (by omega)]
  rfl

theorem content_same_place {place : Nat} (free : CollisionFree env one other)
    (same : spelled env one = spelled env other) (affects : Affects file) (here : StandsAt env one file place)
    (there : StandsAt env other found place) (path : found.path = file.path)
    (size : found.content.length = file.content.length) :
    found.content = file.content := by
  obtain ⟨before, after, walked, length⟩ := here
  obtain ⟨before', after', walked', length'⟩ := there
  have inOne : file ∈ contents one :=
    ((mem_walk one file).mp (walked ▸ List.mem_append_right _ List.mem_cons_self)).1
  have inOther : found ∈ contents other :=
    ((mem_walk other found).mp (walked' ▸ List.mem_append_right _ List.mem_cons_self)).1
  unfold spelled at same
  rw [walked, walked', List.flatMap_append, List.flatMap_append, List.flatMap_cons, List.flatMap_cons] at same
  have rest := (List.append_inj same (length.trans length'.symm)).2
  have kind : indexAffecting file.path = true := affects
  unfold fileBytes at rest
  rw [path, size, if_pos kind, if_pos kind, List.append_assoc, List.append_assoc, List.append_assoc,
    List.append_assoc] at rest
  have digests := List.append_cancel_left (List.append_cancel_left rest)
  have lengths : (env.digest file.content).length = (env.digest found.content).length := by
    rw [free.size file (List.mem_append_left _ inOne), free.size found (List.mem_append_right _ inOther)]
  exact (free.files file inOne found inOther (List.append_inj digests lengths).1).symm

theorem standsAt_of_walked (walked : file ∈ walk one) : ∃ place, StandsAt env one file place := by
  obtain ⟨before, after, split⟩ := List.append_of_mem walked
  exact ⟨_, before, after, split, rfl⟩

theorem sources_included (free : CollisionFree env one other) (same : spelled env one = spelled env other)
    (clear : ¬Confused env one other) (affects : Affects file) (inside : file ∈ contents one) :
    file ∈ contents other := by
  by_contra missing
  by_cases aside : Skipped file.path
  · exact clear (.skipped file inside affects aside missing)
  · have walked := (mem_walk one file).mpr ⟨inside, aside⟩
    by_cases listed : ∃ found ∈ walk other, found.path = file.path ∧ found.content.length = file.content.length
    · obtain ⟨found, walked', path, size⟩ := listed
      have different : found.content ≠ file.content := by
        intro content
        have equal : found = file := by
          cases found
          cases file
          cases path
          cases content
          rfl
        exact missing (equal ▸ ((mem_walk other found).mp walked').1)
      obtain ⟨place, here⟩ : ∃ place, StandsAt env one file place := standsAt_of_walked walked
      obtain ⟨elsewhere, there⟩ : ∃ place, StandsAt env other found place := standsAt_of_walked walked'
      by_cases moved : place = elsewhere
      · subst moved
        exact different (content_same_place free same affects here there path size)
      · exact clear (.moved file found place elsewhere affects here there path size moved different)
    · refine clear (.listed file walked affects fun found walked' path size => listed ?_)
      exact ⟨found, walked', path, size⟩

theorem Confused.missing (proper : Proper other) (confused : Confused env one other) :
    ∃ file, Affects file ∧ file ∈ contents one ∧ file ∉ contents other := by
  cases confused with
  | skipped file inside affects aside missing => exact ⟨file, affects, inside, missing⟩
  | listed file walked affects missing =>
    obtain ⟨inside, shown⟩ := (mem_walk one file).mp walked
    refine ⟨file, affects, inside, fun again => ?_⟩
    exact missing file ((mem_walk other file).mpr ⟨again, shown⟩) rfl rfl
  | moved file found place elsewhere affects here there same size away content =>
    obtain ⟨before, after, walked, _⟩ := here
    obtain ⟨before', after', walked', _⟩ := there
    have inside := ((mem_walk one file).mp (walked ▸ List.mem_append_right _ List.mem_cons_self)).1
    have inside' := ((mem_walk other found).mp (walked' ▸ List.mem_append_right _ List.mem_cons_self)).1
    exact ⟨file, affects, inside, fun again => content (contents_unique other proper found inside' file again same)⟩

theorem CollisionFree.symm (free : CollisionFree env one other) : CollisionFree env other one where
  whole same := (free.whole same.symm).symm
  files a inA b inB same := (free.files b inB a inA same.symm).symm
  size file member := free.size file (List.mem_append.mpr (List.mem_append.mp member).symm)

/-- Equal fingerprints mean equal sources exactly when the two walks do not
spell the same bytes while they confuse an index-affecting file. -/
theorem fingerprint_sources (free : CollisionFree env one other) (properOne : Proper one) (properOther : Proper other)
    (fewOne : (walk one).length ≤ maxFingerprintFiles) (fewOther : (walk other).length ≤ maxFingerprintFiles) :
    ((workspaceFingerprint env one).1 = (workspaceFingerprint env other).1 → SameSources one other) ↔
      ¬(spelled env one = spelled env other ∧ (Confused env one other ∨ Confused env other one)) := by
  rw [fingerprint_spelled fewOne, fingerprint_spelled fewOther]
  constructor
  · rintro sources ⟨same, confused | confused⟩
    · obtain ⟨file, affects, inside, missing⟩ := confused.missing properOther
      exact missing ((sources (congrArg env.hexdigest same) file affects).mp inside)
    · obtain ⟨file, affects, inside, missing⟩ := confused.missing properOne
      exact missing ((sources (congrArg env.hexdigest same) file affects).mpr inside)
  · intro clear digests file affects
    have same := free.whole digests
    exact ⟨sources_included free same (fun confused => clear ⟨same, Or.inl confused⟩) affects,
      sources_included free.symm same.symm (fun confused => clear ⟨same, Or.inr confused⟩) affects⟩

end Fingerprints

namespace FingerprintSample

/-- A hash that has no collision on what the samples hash. -/
def env : DigestEnv where
  digest content := (content ++ List.replicate 32 0).take 32
  hexdigest content := String.ofList (content.map fun byte => Char.ofNat byte.toNat)

/-- The file `a` of one byte stands before `b.py`. -/
def two : SourceDirectory := .node [("a", [120]), ("b.py", [112, 97, 115, 115])] []

/-- The file `a1b.py` with the content of that `b.py`. -/
def joined : SourceDirectory := .node [("a1b.py", [112, 97, 115, 115])] []

def swapped : SourceDirectory := .node [("b.py", [112, 97, 115, 115]), ("a", [120])] []

end FingerprintSample

open FingerprintSample in
theorem fingerprint_sources_sample : SameSources two swapped := by
  have free : CollisionFree env two swapped := ⟨fun _ => by decide +kernel, by decide +kernel, by decide +kernel⟩
  have properTwo : Proper two := by simp [two, Proper, ProperAll]
  have properSwapped : Proper swapped := by simp [swapped, Proper, ProperAll]
  have clear : ¬(spelled env two = spelled env swapped ∧ (Confused env two swapped ∨ Confused env swapped two)) := by
    have there : ∀ file ∈ contents two, file ∈ contents swapped := by decide +kernel
    have back : ∀ file ∈ contents swapped, file ∈ contents two := by decide +kernel
    rintro ⟨_, confused | confused⟩
    · obtain ⟨file, _, inside, missing⟩ := confused.missing properSwapped
      exact missing (there file inside)
    · obtain ⟨file, _, inside, missing⟩ := confused.missing properTwo
      exact missing (back file inside)
  exact (fingerprint_sources free properTwo properSwapped (by decide +kernel) (by decide +kernel)).mpr clear
    (by decide +kernel)

open FingerprintSample in
/-- Two directories with one fingerprint and other sources. -/
theorem joined_name : workspaceFingerprint env two = workspaceFingerprint env joined ∧ ¬SameSources two joined := by
  refine ⟨by decide +kernel, fun sources => ?_⟩
  have affects : Affects ⟨["b.py"], [112, 97, 115, 115]⟩ := by
    unfold Affects
    decide +kernel
  have inside := (sources _ affects).mp (by decide +kernel)
  exact absurd inside (by decide +kernel)

end SacmRuntime
