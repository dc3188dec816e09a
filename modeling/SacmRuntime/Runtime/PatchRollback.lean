import SacmRuntime.Runtime.PatchApply
import SacmRuntime.Runtime.PatchNames

namespace SacmRuntime
open RepositoryAdapter FileTree

def Restored (repo : WorkTree) (paths : List (List Char)) (after : FileTree) : Prop :=
  ∀ path ∈ paths, after (repo.checkout.target path) = repo.tree (repo.checkout.target path)

/-- Whatever git does: a call that raises leaves the places as they were. -/
def RollsBack (settings : ApplySettings) (repo : WorkTree) (patch : List Char) (paths : List (List Char)) : Prop :=
  ∀ git, GitKeeps settings repo paths git → ∀ error after,
    applyPatch settings repo patch git = (.error error, after) → Restored repo paths after

/-- The call comes as far as the work of git: no path lies beyond a link, and
every path leads to nothing or to a file that can be read. -/
structure ReachesGit (settings : ApplySettings) (repo : WorkTree) (paths : List (List Char)) : Prop where
  clear : ∀ path ∈ paths, repo.ClearAbove path
  regular : ∀ path ∈ paths, repo.tree.stat settings.steps (repo.checkout.target path) = none ∨
    ∃ content mode, repo.tree.stat settings.steps (repo.checkout.target path) = some (.file content mode) ∧
      settings.access.readable mode = true

/-- What rolling back misses: a path that is a link, or a path below another,
with no file above it that is not to be patched. -/
inductive Unrestorable (repo : WorkTree) (paths : List (List Char)) : Prop where
  | link (path : List Char) (listed : path ∈ paths) (target : List Char)
      (link : repo.tree (repo.checkout.target path) = some (.link target))
  | nested (upper lower : List Char) (first : upper ∈ paths) (second : lower ∈ paths)
      (below : repo.checkout.target upper <+: (repo.checkout.target lower).dropLast)
      (open_ : ∀ start, start <+: (repo.checkout.target lower).dropLast → repo.tree start = none ∨
        repo.tree start = some .directory ∨ start ∈ paths.map repo.checkout.target)

/-- The tree may differ from the first at the places, where a file may be gone
or another, and in directories above them. -/
structure Drifted (access : FileAccess) (root : List FileName) (places : List (List FileName)) (t s : FileTree) :
    Prop where
  place : ∀ place ∈ places, s place = t place ∨ s place = none ∨
    ∃ content mode, access.writable mode = true ∧ s place = some (.file content mode)
  apart : ∀ place, place ∉ places → s place = t place ∨
    (t place = none ∨ t place = some .directory) ∧ (s place = none ∨ s place = some .directory)
  base : ∀ start, start <+: root → s start = some .directory

section Drift
variable {access : FileAccess} {root place : List FileName} {places : List (List FileName)} {t s u : FileTree}

/-- Places with nothing or a file, and none open below another. -/
structure Calm (places : List (List FileName)) (t : FileTree) : Prop where
  regular : ∀ place ∈ places, t place = none ∨ ∃ content mode, t place = some (.file content mode)
  closed : ∀ upper ∈ places, ∀ lower ∈ places, upper <+: lower.dropLast →
    ∃ start, start <+: lower.dropLast ∧ t start ≠ none ∧ t start ≠ some .directory ∧ start ∉ places

section
variable (calm : Calm places t) (drifted : Drifted access root places t s)
include calm drifted

theorem Drifted.no_dir (listed : place ∈ places) :
    s place ≠ some .directory := by
  intro directory
  rcases drifted.place place listed with same | gone | ⟨content, mode, -, file⟩
  · rw [same] at directory
    rcases calm.regular place listed with missing | ⟨content, mode, file⟩
    · rw [missing] at directory
      cases directory
    · rw [file] at directory
      cases directory
  · rw [gone] at directory
    cases directory
  · rw [file] at directory
    cases directory

/-- One step of git drifts no further. -/
theorem Drifted.step (step : GitStep access root places s u) : Drifted access root places t u := by
  cases step with
  | @remove gone listed there file =>
    refine ⟨fun place member => ?_, fun place absent => ?_, fun start within => ?_⟩
    · by_cases here : place = gone
      · exact .inr (.inl (here ▸ put_same))
      · rw [put_other here]
        exact drifted.place place member
    · have other : place ≠ gone := by
        rintro rfl
        exact absent listed
      rw [put_other other]
      exact drifted.apart place absent
    · have directory := drifted.base start within
      have other : start ≠ gone := by
        rintro rfl
        exact file directory
      rw [put_other other, directory]
  | @prune _ above listed below inside inner directory empty =>
    have absent : above ∉ places := fun member => drifted.no_dir calm member directory
    refine ⟨fun place member => ?_, fun place outside => ?_, fun start within => ?_⟩
    · have other : place ≠ above := by
        rintro rfl
        exact absent member
      rw [put_other other]
      exact drifted.place place member
    · by_cases here : place = above
      · subst here
        refine .inr ⟨?_, .inl put_same⟩
        rcases drifted.apart place absent with same | ⟨before, -⟩
        · exact .inr (same ▸ directory)
        · exact before
      · rw [put_other here]
        exact drifted.apart place outside
    · have apart : start ≠ above := by
        rintro rfl
        exact inner (within.eq_of_length_le inside.length_le)
      rw [put_other apart]
      exact drifted.base start within
  | @create made content mode listed free above writable =>
    refine ⟨fun place member => ?_, fun place outside => ?_, fun start within => ?_⟩
    · by_cases here : place = made
      · exact .inr (.inr ⟨content, mode, writable, here ▸ put_same⟩)
      · have beside : ¬place <+: made.dropLast := by
          -- a file outside of the places lies above, and has been there all the time
          intro below
          obtain ⟨start, within, there, file, outside⟩ := calm.closed place member made listed below
          rcases drifted.apart start outside with same | ⟨missing | directory, -⟩
          · rcases above start within with missing | directory
            · exact there (same ▸ missing)
            · exact file (same ▸ directory)
          · exact there missing
          · exact file directory
        rw [put_other here, withDirs_apart beside]
        exact drifted.place place member
    · have other : place ≠ made := by
        rintro rfl
        exact outside listed
      rw [put_other other]
      by_cases below : place <+: made.dropLast
      · rw [withDirs_above below]
        refine .inr ⟨?_, .inr rfl⟩
        rcases drifted.apart place outside with same | ⟨before, -⟩
        · exact same ▸ above place below
        · exact before
      · rw [withDirs_apart below]
        exact drifted.apart place outside
    · have directory := drifted.base start within
      have apart : start ≠ made := by
        rintro rfl
        rw [free] at directory
        cases directory
      rw [put_other apart]
      by_cases below : start <+: made.dropLast
      · exact withDirs_above below
      · rw [withDirs_apart below, directory]

theorem Drifted.work (work : GitWork access root places s u) : Drifted access root places t u := by
  induction work with
  | refl => exact drifted
  | tail _ step ih => exact ih.step calm step

end

theorem Drifted.settled (drifted : Drifted access root places t s)
    (settled : t.links.Settled place) : s.links.Settled place := by
  intro start within
  have free := settled start within
  unfold links at free ⊢
  by_cases member : start ∈ places
  · rcases drifted.place start member with same | gone | ⟨content, mode, -, file⟩
    · rw [same]
      exact free
    · rw [gone]
    · rw [file]
  · rcases drifted.apart start member with same | ⟨-, gone | directory⟩
    · rw [same]
      exact free
    · rw [gone]
    · rw [directory]

end Drift

section Restoring
variable {settings : ApplySettings} {root place : List FileName} {places : List (List FileName)} {t s : FileTree}

/-- A place that the calls reach without links: its names go down, and there
are steps enough. -/
structure Plain (settings : ApplySettings) (t : FileTree) (place : List FileName) : Prop where
  settled : t.links.Settled place
  downward : "..".toList ∉ place
  enough : place.length ≤ settings.steps

theorem Plain.drift (plain : Plain settings t place) (drifted : Drifted settings.access root places t s) :
    Plain settings s place :=
  ⟨drifted.settled plain.settled, plain.downward, plain.enough⟩

section
variable (plain : Plain settings s place)
include plain

/-- No link is followed on the way to a plain place. -/
theorem Plain.follow : s.follow settings.steps place = some place :=
  follow_clear plain.settled plain.downward plain.enough

theorem Plain.stat : s.stat settings.steps place = s place := by
  unfold FileTree.stat
  rw [plain.follow]
  rfl

theorem Plain.entry : s.entry settings.steps place = some place := by
  rcases List.eq_nil_or_concat place with rfl | ⟨above, name, rfl⟩
  · rfl
  · rw [List.concat_eq_append] at plain ⊢
    have shorter : above.length ≤ settings.steps := by
      have enough := plain.enough
      rw [List.length_append] at enough
      omega
    exact entry_clear (fun start within => plain.settled start (within.trans (List.prefix_append _ _)))
      plain.downward shorter

/-- A place that had nothing is emptied, unless a directory stands there. -/
theorem restore_missing (file : s place ≠ some .directory) :
    (restorePatchFile settings ⟨place, none, none⟩ s).2 = s.put place none := by
  have untouched (gone : s place = none) : s = s.put place none := by
    funext other
    by_cases here : other = place
    · rw [here, put_same, gone]
    · rw [put_other here]
  unfold restorePatchFile
  simp only
  rw [Tx.bind_read_run]
  cases found : s place with
  | none =>
    have absent : thereOrLink settings.steps place s = false := by
      unfold thereOrLink lstat
      rw [plain.stat, plain.entry, Option.bind_some, found]
      rfl
    rw [absent]
    exact untouched found
  | some node =>
    have present : thereOrLink settings.steps place s = true := by
      unfold thereOrLink
      rw [plain.stat, found]
      rfl
    have removed : unlink settings.steps place s = .ok (s.put place none) := by
      unfold unlink
      rw [plain.entry]
      simp only
      rw [found]
      cases node with
      | directory => exact absurd found file
      | _ => rfl
    rw [present, if_pos rfl]
    unfold FileTree.call
    rw [removed]

theorem Plain.withDirs (names : List FileName) :
    Plain settings (s.withDirs names) place := by
  refine ⟨fun start within => ?_, plain.downward, plain.enough⟩
  have free := plain.settled start within
  unfold links at free ⊢
  by_cases above : start <+: names
  · rw [withDirs_above above]
  · rw [withDirs_apart above]
    exact free

theorem Plain.putFile (content : List UInt8) (mode : Nat) :
    Plain settings (s.put place (some (.file content mode))) place := by
  refine ⟨fun start within => ?_, plain.downward, plain.enough⟩
  have free := plain.settled start within
  unfold links at free ⊢
  by_cases here : start = place
  · rw [here, put_same]
  · rw [put_other here]
    exact free

end

theorem put_again {first second : Option FileNode} : (s.put place first).put place second = s.put place second := by
  funext other
  by_cases here : other = place
  · rw [here, put_same, put_same]
  · rw [put_other here, put_other here, put_other here]

theorem put_held {node : Option FileNode} (held : s place = node) : s.put place node = s := by
  funext other
  by_cases here : other = place
  · rw [here, put_same, held]
  · exact put_other here

variable {content : List UInt8} {mode : Nat}

theorem writeBack_ok {late : Nat} (plain : Plain settings s place)
    (wrote : writeBytes settings.steps settings.access place content s = .ok
      (s.put place (some (.file content late)))) :
    (writeBack settings place content (some mode) s).2 = s.put place (some (.file content mode)) := by
  have reached := (plain.putFile content late).follow
  have changed : (FileTree.call (chmod settings.steps place mode)
      (s.put place (some (.file content late)))).2 = s.put place (some (.file content mode)) := by
    rw [call_ok (chmod_file reached put_same), put_again]
  unfold writeBack
  rw [Tx.bind_run_ok _ (call_ok wrote)]
  exact changed

/-- Writing back into a directory that is there gives the old file. -/
theorem writeBack_mends (plain : Plain settings s place) (parent : s place.dropLast = some .directory)
    (there : s place = some (.file content mode) ∨ s place = none ∨ ∃ content mode,
      settings.access.writable mode = true ∧ s place = some (.file content mode)) :
    (writeBack settings place content (some mode) s).2 = s.put place (some (.file content mode)) := by
  rcases there with first | gone | ⟨old, late, writable, other⟩
  · have wrote : writeBytes settings.steps settings.access place content s =
        if settings.access.writable mode then .ok (s.put place (some (.file content mode))) else .error .permission :=
      writeBytes_file plain.follow first
    cases writable : settings.access.writable mode with
    | true =>
      rw [writable, if_pos rfl] at wrote
      exact writeBack_ok plain wrote
    | false =>
      rw [writable, if_neg (by simp)] at wrote
      unfold writeBack
      rw [Tx.bind_run_error _ (call_error wrote)]
      exact (put_held first).symm
  · exact writeBack_ok plain (writeBytes_new plain.follow gone parent)
  · have wrote : writeBytes settings.steps settings.access place content s =
        if settings.access.writable late then .ok (s.put place (some (.file content late))) else .error .permission :=
      writeBytes_file plain.follow other
    rw [writable, if_pos rfl] at wrote
    exact writeBack_ok plain wrote

/-- A file is written back, with the directories above it. -/
theorem restore_file (plain : Plain settings s place) (inner : place ≠ []) (top : s [] = some .directory)
    (above : ∀ start, start <+: place.dropLast → s start = none ∨ s start = some .directory)
    (there : s place = some (.file content mode) ∨ s place = none ∨ ∃ content mode,
      settings.access.writable mode = true ∧ s place = some (.file content mode)) :
    (restorePatchFile settings ⟨place, some content, some mode⟩ s).2 =
      (s.withDirs place.dropLast).put place (some (.file content mode)) := by
  have beside : ¬place <+: place.dropLast := by
    intro below
    have shorter := below.length_le
    have long := List.length_pos_iff.mpr inner
    rw [List.length_dropLast] at shorter
    omega
  have made : makeDirs settings.steps [] place.dropLast s = (.ok (), s.withDirs place.dropLast) := by
    refine makeDirs_clear above (fun start within => ?_) ?_ ?_
    · rw [List.prefix_nil.mp within]
      exact top
    · exact fun member => plain.downward (List.mem_of_mem_dropLast member)
    · have enough := plain.enough
      rw [List.nil_append, List.length_dropLast]
      omega
  unfold restorePatchFile
  simp only
  rw [Tx.bind_run_ok _ made]
  refine writeBack_mends (plain.withDirs _) (withDirs_above List.prefix_rfl) ?_
  rwa [withDirs_apart beside]

end Restoring

def mended (t s : FileTree) (place : List FileName) : FileTree :=
  match t place with
  | none => s.put place none
  | some node => (s.withDirs place.dropLast).put place (some node)

def remembered (t : FileTree) (place : List FileName) : PatchFileState :=
  match t place with
  | some (.file content mode) => ⟨place, some content, some mode⟩
  | _ => ⟨place, none, none⟩

structure Ground (settings : ApplySettings) (root : List FileName) (places : List (List FileName)) (t : FileTree) :
    Prop extends Calm places t where
  plain : ∀ place ∈ places, Plain settings t place
  rooted : ∀ place, t place ≠ none → ∀ start, start <+: place.dropLast → t start = some .directory
  base : ∀ start, start <+: root → t start = some .directory

section Mending
variable {settings : ApplySettings} {root place : List FileName} {places : List (List FileName)} {t s : FileTree}

theorem Ground.inner (ground : Ground settings root places t) (listed : place ∈ places) : place ≠ [] := by
  rintro rfl
  have top := ground.base [] List.nil_prefix
  rcases ground.regular [] listed with missing | ⟨content, mode, file⟩
  · rw [missing] at top
    cases top
  · rw [file] at top
    cases top

theorem Ground.above (ground : Ground settings root places t) (drifted : Drifted settings.access root places t s)
    (there : t place ≠ none) {start : List FileName} (within : start <+: place.dropLast) :
    start ∉ places ∧ (s start = none ∨ s start = some .directory) := by
  have directory := ground.rooted place there start within
  have absent : start ∉ places := by
    intro member
    rcases ground.regular start member with missing | ⟨content, mode, file⟩
    · rw [missing] at directory
      cases directory
    · rw [file] at directory
      cases directory
  refine ⟨absent, ?_⟩
  rcases drifted.apart start absent with same | ⟨-, after⟩
  · exact .inr (same.trans directory)
  · exact after

theorem mended_none (missing : t place = none) : mended t s place = s.put place none := by
  unfold mended
  rw [missing]

theorem mended_some {node : FileNode} (found : t place = some node) :
    mended t s place = (s.withDirs place.dropLast).put place (some node) := by
  unfold mended
  rw [found]

section
variable (ground : Ground settings root places t) (drifted : Drifted settings.access root places t s)
include ground drifted

theorem restore_mends (listed : place ∈ places) :
    (restorePatchFile settings (remembered t place) s).2 = mended t s place := by
  have plain := (ground.plain place listed).drift drifted
  unfold remembered
  rcases ground.regular place listed with missing | ⟨content, mode, file⟩
  · rw [mended_none missing, missing]
    exact restore_missing plain (drifted.no_dir ground.toCalm listed)
  · rw [mended_some file, file]
    have there : t place ≠ none := by simp [file]
    have held := drifted.place place listed
    rw [file] at held
    exact restore_file plain (ground.inner listed) (drifted.base [] List.nil_prefix)
      (fun start within => (ground.above drifted there within).2) held

/-- A place is as it was, other places are as they are, and the rest has
drifted no further than git may take it. -/
theorem mended_spec (listed : place ∈ places) :
    Drifted settings.access root places t (mended t s place) ∧ mended t s place place = t place ∧
      ∀ other ∈ places, other ≠ place → mended t s place other = s other := by
  have inner {start : List FileName} (within : start <+: root) : start ≠ place := by
    rintro rfl
    exact drifted.no_dir ground.toCalm listed (drifted.base start within)
  have absent {other : List FileName} (outside : other ∉ places) : other ≠ place := by
    rintro rfl
    exact outside listed
  cases found : t place with
  | none =>
    rw [mended_none found]
    refine ⟨⟨fun other member => ?_, fun other outside => ?_, fun start within => ?_⟩, put_same,
      fun other member apart => put_other apart⟩
    · by_cases here : other = place
      · exact .inr (.inl (here ▸ put_same))
      · rw [put_other here]
        exact drifted.place other member
    · rw [put_other (absent outside)]
      exact drifted.apart other outside
    · rw [put_other (inner within)]
      exact drifted.base start within
  | some node =>
    rw [mended_some found]
    have there : t place ≠ none := by simp [found]
    have beside {other : List FileName} (member : other ∈ places) : ¬other <+: place.dropLast :=
      fun within => (ground.above drifted there within).1 member
    have others {other : List FileName} (member : other ∈ places) (apart : other ≠ place) :
        (s.withDirs place.dropLast).put place (some node) other = s other := by
      rw [put_other apart, withDirs_apart (beside member)]
    refine ⟨⟨fun other member => ?_, fun other outside => ?_, fun start within => ?_⟩, put_same,
      fun other member apart => others member apart⟩
    · by_cases here : other = place
      · subst here
        exact .inl (put_same.trans found.symm)
      · rw [others member here]
        exact drifted.place other member
    · rw [put_other (absent outside)]
      by_cases below : other <+: place.dropLast
      · rw [withDirs_above below]
        exact .inl (ground.rooted place there other below).symm
      · rw [withDirs_apart below]
        exact drifted.apart other outside
    · rw [put_other (inner within)]
      by_cases below : start <+: place.dropLast
      · exact withDirs_above below
      · rw [withDirs_apart below]
        exact drifted.base start within

/-- A place that is as it was, or is still to be restored, ends as it was. -/
theorem restore_run {remaining : List (List FileName)} (within : ∀ place ∈ remaining, place ∈ places) :
    (∀ place ∈ places, s place = t place ∨ place ∈ remaining →
      (restorePatchFiles settings (remaining.map (remembered t)) s).2 place = t place) := by
  induction remaining generalizing s with
  | nil =>
    intro place _ held
    rcases held with same | member
    · exact same
    · cases member
  | cons first rest ih =>
    intro place listed held
    have mends := restore_mends ground drifted (within first List.mem_cons_self)
    obtain ⟨further, back, others⟩ := mended_spec ground drifted (within first List.mem_cons_self)
    have held : mended t s first place = t place ∨ place ∈ rest := by
      by_cases here : place = first
      · exact .inl (here ▸ back)
      · rcases held with same | member
        · exact .inl ((others place listed here).trans same)
        · rcases List.mem_cons.mp member with same | inRest
          · exact absurd same here
          · exact .inr inRest
    have later := ih further (fun place member => within place (List.mem_cons_of_mem _ member)) place listed held
    rw [List.map_cons, restorePatchFiles]
    rcases ran : restorePatchFile settings (remembered t first) s with ⟨result, after⟩
    rw [ran] at mends
    simp only at mends
    rw [mends]
    cases result with
    | ok _ => exact later
    | error e => exact later

end

end Mending

section Calls
variable {settings : ApplySettings} {repo : WorkTree} {patch : List Char} {paths : List (List Char)}

variable {left : FileTree} {path : List Char} {place start : List FileName} {states : List PatchFileState}

theorem WorkTree.above (repo : WorkTree) (there : repo.tree place ≠ none) (within : start <+: place)
    (apart : start ≠ place) : repo.tree start = some .directory := by
  obtain ⟨rest, rfl⟩ := within
  induction rest generalizing start with
  | nil => exact absurd (List.append_nil start).symm apart
  | cons name rest ih =>
    refine repo.rooted start name ?_
    by_cases last : rest = []
    · subst last
      exact there
    · have directory := @ih (start ++ [name]) (by simpa using there) (by simpa using last)
      simp [directory]

theorem WorkTree.rooted_dropLast (repo : WorkTree) (there : repo.tree place ≠ none)
    (within : start <+: place.dropLast) : start = [] ∧ place = [] ∨ repo.tree start = some .directory := by
  by_cases top : place = []
  · subst top
    exact .inl ⟨List.prefix_nil.mp within, rfl⟩
  · refine .inr (repo.above there (within.trans (List.dropLast_prefix place)) ?_)
    rintro rfl
    have shorter := within.length_le
    have long := List.length_pos_iff.mpr top
    rw [List.length_dropLast] at shorter
    omega

theorem validated_names {steps : Nat} {repo : Checkout} {denied : List (List Char)}
    (validated : validatePatchPath steps repo denied path = .ok ()) :
    "..".toList ∉ repo.target path ∧ (repo.target path).length ≤ steps := by
  unfold validatePatchPath at validated
  split at validated
  · cases validated
  rename_i shape
  split at validated
  · cases validated
  rename_i location walked
  refine ⟨?_, Links.walk_enough walked⟩
  unfold Checkout.target
  rw [List.mem_append, not_or]
  exact ⟨repo.downward, (not_not.mp shape).2.2.1⟩

theorem WorkTree.top (repo : WorkTree) : repo.tree [] = some .directory := by
  by_cases here : [] = repo.checkout.root
  · exact here ▸ repo.directory
  · exact repo.above (by simp [repo.directory]) List.nil_prefix here

section
variable (validated : ∀ path ∈ paths, validatePatchPath settings.steps repo.checkout settings.denied path = .ok ())
include validated

theorem plain_target (clear : ∀ path ∈ paths, repo.ClearAbove path)
    (unlinked : ∀ path ∈ paths, ∀ target, repo.tree (repo.checkout.target path) ≠ some (.link target)) :
    ∀ path ∈ paths, Plain settings repo.tree (repo.checkout.target path) := by
  intro path listed
  obtain ⟨downward, enough⟩ := validated_names (validated path listed)
  refine ⟨fun start within => ?_, downward, enough⟩
  rcases List.eq_nil_or_concat (repo.checkout.target path) with empty | ⟨above, name, split⟩
  · rw [empty] at within
    rw [List.prefix_nil.mp within]
    unfold links
    rw [repo.top]
  · have clear := clear path listed
    unfold WorkTree.ClearAbove at clear
    rw [split, List.concat_eq_append] at within
    rw [split, List.concat_eq_append, List.dropLast_concat] at clear
    rcases List.prefix_concat_iff.mp within with rfl | inside
    · have plain := unlinked path listed
      rw [split, List.concat_eq_append] at plain
      unfold links
      split
      · rename_i target link
        exact absurd link (plain target)
      · rfl
    · exact clear start inside

/-- Where git is reached and nothing is unrestorable, the places are ground to restore
on. -/
theorem ground_target (reaches : ReachesGit settings repo paths) (sound : ¬Unrestorable repo paths) :
    Ground settings repo.checkout.root (paths.map repo.checkout.target) repo.tree := by
  have plain : ∀ path ∈ paths, Plain settings repo.tree (repo.checkout.target path) :=
    plain_target validated reaches.clear fun path listed target link => sound (.link path listed target link)
  refine ⟨⟨fun place member => ?_, fun upper first lower second below => ?_⟩, fun place member => ?_,
    fun place there start within => ?_, fun start within => ?_⟩
  · obtain ⟨path, listed, rfl⟩ := List.mem_map.mp member
    rcases reaches.regular path listed with missing | ⟨content, mode, file, -⟩
    · exact .inl ((plain path listed).stat.symm.trans missing)
    · exact .inr ⟨content, mode, (plain path listed).stat.symm.trans file⟩
  · obtain ⟨path, listed, rfl⟩ := List.mem_map.mp first
    obtain ⟨other, again, rfl⟩ := List.mem_map.mp second
    by_contra open_
    refine sound (.nested path other listed again below fun start within => ?_)
    by_contra closed
    rw [not_or, not_or] at closed
    exact open_ ⟨start, within, closed.1, closed.2.1, closed.2.2⟩
  · obtain ⟨path, listed, rfl⟩ := List.mem_map.mp member
    exact plain path listed
  · rcases repo.rooted_dropLast there within with ⟨rfl, -⟩ | directory
    · exact repo.top
    · exact directory
  · by_cases here : start = repo.checkout.root
    · exact here ▸ repo.directory
    · exact repo.above (by simp [repo.directory]) within here

end

theorem mem_sortedPaths : path ∈ sortedPaths paths ↔ path ∈ paths := List.mem_insertionSort _

theorem snapshot_regular (taken : snapshotPatchFiles settings repo paths = .ok states) :
    ∀ path ∈ paths, repo.tree.stat settings.steps (repo.checkout.target path) = none ∨
      ∃ content mode, repo.tree.stat settings.steps (repo.checkout.target path) = some (.file content mode) ∧
        settings.access.readable mode = true := by
  intro path listed
  obtain ⟨state, -, one⟩ := Checked.mapM_result taken (mem_sortedPaths.mpr listed)
  unfold snapshotPatchFile at one
  split at one
  · exact .inl (by assumption)
  · split at one
    · exact .inr ⟨_, _, by assumption, by assumption⟩
    · cases one
  · cases one

/-- The snapshot remembers what stands at each place. -/
theorem snapshot_remembered (plain : ∀ path ∈ paths, Plain settings repo.tree (repo.checkout.target path))
    (taken : snapshotPatchFiles settings repo paths = .ok states) :
    states = ((sortedPaths paths).map repo.checkout.target).map (remembered repo.tree) := by
  rw [List.map_map]
  refine Checked.mapM_values taken fun path listed state one => ?_
  have reached := (plain path (mem_sortedPaths.mp listed)).stat
  unfold snapshotPatchFile at one
  rw [Function.comp_apply]
  unfold remembered
  rw [reached] at one
  split at one
  · rename_i missing
    cases one
    rw [missing]
  · rename_i file
    split at one
    · cases one
      rw [file]
    · cases one
  · cases one

/-- Rolling back is exact for paths that are no links and do not lie in the
way of each other. -/
theorem restored_of_sound
    (validated : ∀ path ∈ paths, validatePatchPath settings.steps repo.checkout settings.denied path = .ok ())
    (reaches : ReachesGit settings repo paths) (sound : ¬Unrestorable repo paths)
    (taken : snapshotPatchFiles settings repo paths = .ok states)
    (work : GitWork settings.access repo.checkout.root (paths.map repo.checkout.target) repo.tree left) :
    Restored repo paths (restorePatchFiles settings states left).2 := by
  have ground := ground_target validated reaches sound
  have start : Drifted settings.access repo.checkout.root (paths.map repo.checkout.target) repo.tree repo.tree :=
    ⟨fun place _ => .inl rfl, fun place _ => .inl rfl, ground.base⟩
  have drifted := start.work ground.toCalm work
  have plain : ∀ path ∈ paths, Plain settings repo.tree (repo.checkout.target path) :=
    fun path listed => ground.plain _ (List.mem_map_of_mem listed)
  obtain rfl := snapshot_remembered plain taken
  intro path listed
  refine restore_run ground drifted (fun place member => ?_) _ (List.mem_map_of_mem listed) (.inr ?_)
  · obtain ⟨other, again, rfl⟩ := List.mem_map.mp member
    exact List.mem_map_of_mem (mem_sortedPaths.mp again)
  · exact List.mem_map_of_mem (mem_sortedPaths.mpr listed)

theorem restorePatchFile_moves (state : PatchFileState) :
    Tx.Moves FileTree.Keeps (restorePatchFile settings state) := by
  unfold restorePatchFile
  split
  · exact fun t => Tx.movesFrom_read (Tx.moves_ite (call_moves fun _ _ => unlink_keeps)
      (fun t => Tx.movesFrom_pure ()) t)
  · refine makeDirs_moves.bind fun _ => ?_
    unfold writeBack
    refine (call_moves fun _ _ => writeBytes_keeps).bind fun _ => ?_
    cases state.mode with
    | none => exact fun t => Tx.movesFrom_pure ()
    | some mode => exact call_moves fun _ _ => chmod_keeps

theorem restorePatchFiles_keeps (states : List PatchFileState) (t : FileTree) :
    FileTree.Keeps t (restorePatchFiles settings states t).2 := by
  induction states generalizing t with
  | nil => exact fun place => ⟨id, fun _ => id⟩
  | cons state rest ih =>
    have first : FileTree.Keeps t (restorePatchFile settings state t).2 :=
      keeps_run (restorePatchFile_moves state t)
    rw [restorePatchFiles]
    rcases ran : restorePatchFile settings state t with ⟨result, after⟩
    rw [ran] at first
    cases result with
    | ok _ => exact first.trans (ih after)
    | error e => exact first.trans (ih after)

theorem snapshot_exists (regular : ∀ path ∈ paths,
      repo.tree.stat settings.steps (repo.checkout.target path) = none ∨
      ∃ content mode, repo.tree.stat settings.steps (repo.checkout.target path) = some (.file content mode) ∧
        settings.access.readable mode = true) : ∃ states, snapshotPatchFiles settings repo paths = .ok states := by
  refine Checked.mapM_exists fun path listed => ?_
  unfold snapshotPatchFile
  rcases regular path (mem_sortedPaths.mp listed) with missing | ⟨content, mode, file, readable⟩
  · rw [missing]
    exact ⟨_, rfl⟩
  · rw [file]
    exact ⟨_, if_pos readable⟩

section
variable (accepted : validatePatch settings.steps repo.checkout settings.limits settings.denied patch = .ok paths)
  (reaches : ReachesGit settings repo paths)
include accepted reaches

/-- If git can leave a tree from which the places do not come back, rolling back fails. -/
theorem missed_of_left
    (work : GitWork settings.access repo.checkout.root (paths.map repo.checkout.target) repo.tree left)
    (missed : ∀ after, FileTree.Keeps left after → ¬Restored repo paths after) :
    ¬RollsBack settings repo patch paths := by
  intro rolls
  obtain ⟨states, taken⟩ := snapshot_exists reaches.regular
  let git : GitRuns := ⟨.exited 0 [] [], .exited 1 [] [], left⟩
  have keeps : GitKeeps settings repo paths git := ⟨fun _ _ _ => reaches.clear, work⟩
  have called : applyPatch settings repo patch git =
      (.error (.failed (gitDetail [] []) (restorePatchFiles settings states left).1),
        (restorePatchFiles settings states left).2) := by
    unfold applyPatch
    rw [accepted]
    simp only
    rw [taken]
  exact missed _ (restorePatchFiles_keeps states left) (rolls git keeps _ _ called)

theorem link_missed (listed : path ∈ paths) {target : List Char}
    (link : repo.tree (repo.checkout.target path) = some (.link target)) :
    ¬RollsBack settings repo patch paths := by
  have work : GitStep settings.access repo.checkout.root (paths.map repo.checkout.target) repo.tree
      (repo.tree.put (repo.checkout.target path) none) :=
    .remove (List.mem_map_of_mem listed) (by simp [link]) (by simp [link])
  refine missed_of_left accepted reaches (.single work) fun after keeps restored => ?_
  have gone := (keeps (repo.checkout.target path)).2 target ((restored path listed).trans link)
  rw [put_same] at gone
  cases gone

end

/-- Git may clear the way to a place by removing the file that blocks it. -/
theorem cleared_way {lower : List FileName}
    (open_ : ∀ start, start <+: lower.dropLast → repo.tree start = none ∨
        repo.tree start = some .directory ∨ start ∈ paths.map repo.checkout.target)
    (free : repo.tree lower = none) :
    ∃ s, GitWork settings.access repo.checkout.root (paths.map repo.checkout.target) repo.tree s ∧
      (∀ start, start <+: lower.dropLast → s start = none ∨ s start = some .directory) ∧ s lower = none := by
  by_cases blocked : ∃ start, start <+: lower.dropLast ∧ repo.tree start ≠ none ∧ repo.tree start ≠ some .directory
  · obtain ⟨file, within, there, plain⟩ := blocked
    have listed : file ∈ paths.map repo.checkout.target := by
      rcases open_ file within with missing | directory | listed
      · exact absurd missing there
      · exact absurd directory plain
      · exact listed
    refine ⟨_, .single (.remove listed there plain), fun start inside => ?_, ?_⟩
    · by_cases here : start = file
      · exact .inl (here ▸ put_same)
      · rw [put_other here]
        rcases List.prefix_or_prefix_of_prefix inside within with up | down
        · exact .inr (repo.above there up here)
        · left
          by_contra deeper
          exact plain (repo.above deeper down (Ne.symm here))
    · by_cases here : lower = file
      · exact here ▸ put_same
      · rw [put_other here, free]
  · refine ⟨repo.tree, .refl, fun start inside => ?_, free⟩
    by_contra neither
    rw [not_or] at neither
    exact blocked ⟨start, inside, neither⟩

theorem nested_missed (accepted : validatePatch settings.steps repo.checkout settings.limits settings.denied patch =
      .ok paths) (reaches : ReachesGit settings repo paths) {upper lower : List Char} (first : upper ∈ paths)
    (second : lower ∈ paths) (below : repo.checkout.target upper <+: (repo.checkout.target lower).dropLast)
    (open_ : ∀ start, start <+: (repo.checkout.target lower).dropLast → repo.tree start = none ∨
        repo.tree start = some .directory ∨ start ∈ paths.map repo.checkout.target)
    (file : repo.tree (repo.checkout.target upper) ≠ some .directory) :
    ¬RollsBack settings repo patch paths := by
  have free : repo.tree (repo.checkout.target lower) = none := by
    by_contra there
    rcases repo.rooted_dropLast there below with ⟨top, -⟩ | directory
    · exact file (top ▸ repo.top)
    · exact file directory
  obtain ⟨s, work, above, still⟩ := cleared_way open_ free
  have made : GitStep settings.access repo.checkout.root (paths.map repo.checkout.target) s
      ((s.withDirs (repo.checkout.target lower).dropLast).put (repo.checkout.target lower)
        (some (.file [] settings.access.newMode))) :=
    .create (List.mem_map_of_mem second) still above settings.access.fresh
  refine missed_of_left accepted reaches (work.tail made) fun after keeps restored => ?_
  have apart : repo.checkout.target upper ≠ repo.checkout.target lower := by
    intro same
    have shorter := below.length_le
    rw [same, List.length_dropLast] at shorter
    have top : repo.checkout.target lower = [] := List.length_eq_zero_iff.mp (by omega)
    rw [top, repo.top] at free
    cases free
  have directory := (keeps (repo.checkout.target upper)).1 (by
    rw [put_other apart, withDirs_above below])
  exact file ((restored upper first).symm.trans directory)

end Calls

/-- A call for an accepted patch that raises leaves the places of the paths as
they were, whatever part of its work git has done, exactly when it does not
come as far as git, or no path is a link or open below another. -/
theorem applyPatch_rollsBack {settings : ApplySettings} {repo : WorkTree} {patch : List Char} {paths : List (List Char)}
    (accepted : validatePatch settings.steps repo.checkout settings.limits settings.denied patch = .ok paths) :
    RollsBack settings repo patch paths ↔ ¬(ReachesGit settings repo paths ∧ Unrestorable repo paths) := by
  have validated := (validatePatch_ok accepted).1
  constructor
  · rintro rolls ⟨reaches, missed⟩
    have unlinked : ∀ path ∈ paths, ∀ target, repo.tree (repo.checkout.target path) ≠ some (.link target) :=
      fun path listed target link => link_missed accepted reaches listed link rolls
    cases missed with
    | link path listed target link => exact unlinked path listed target link
    | nested upper lower first second below open_ =>
      refine nested_missed accepted reaches first second below open_ (fun directory => ?_) rolls
      have status := (plain_target validated reaches.clear unlinked upper first).stat
      rw [directory] at status
      rcases reaches.regular upper first with missing | ⟨content, mode, file, -⟩
      · rw [missing] at status
        cases status
      · rw [file] at status
        cases status
  · intro sound git keeps error after called
    have unchanged : Restored repo paths repo.tree := fun path _ => rfl
    unfold applyPatch at called
    rw [accepted] at called
    simp only at called
    cases taken : snapshotPatchFiles settings repo paths with
    | error e =>
      rw [taken] at called
      cases called
      exact unchanged
    | ok states =>
      rw [taken] at called
      simp only at called
      split at called
      · cases called
        exact unchanged
      · cases called
        exact unchanged
      · cases called
        exact unchanged
      · cases called
      · rename_i stdout stderr code out err check applied
        cases called
        have reaches : ReachesGit settings repo paths := ⟨keeps.beyond _ _ check, snapshot_regular taken⟩
        exact restored_of_sound validated reaches (fun missed => sound ⟨reaches, missed⟩) taken keeps.work

namespace PatchSample

def tree : FileTree := fun place =>
  if place = [] ∨ place = ["r".toList] then some .directory
  else if place = ["r".toList, "a".toList] then some (.file [] 420) else none

theorem root_downward : "..".toList ∉ ["r".toList] := by decide

/-- A repository with one file, `a`. -/
def workTree : WorkTree where
  checkout := {
    root := ["r".toList]
    links := tree.links
    settled := by
      intro start within
      rcases List.prefix_cons_iff.mp within with rfl | ⟨rest, rfl, empty⟩
      · rfl
      · rw [List.prefix_nil.mp empty]
        rfl
    downward := root_downward }
  tree := tree
  linked := rfl
  directory := by decide
  rooted := by
    intro place name there
    have above {whole : List FileName} (same : place ++ [name] = whole) : place = whole.dropLast := by
      rw [← same, List.dropLast_concat]
    unfold tree at there
    split at there
    · rename_i top
      rcases top with same | same
      · simp at same
      · rw [above same]
        rfl
    · split at there
      · rw [above ‹_›]
        rfl
      · exact absurd rfl there

def settings : ApplySettings := ⟨9, {}, defaultDenied, ⟨fun _ => true, fun _ => true, 420, rfl⟩, fun _ => ""⟩

/-- The file becomes a directory with a file `b`. -/
def nesting : List Char :=
  ("diff --git a/a b/a\ndeleted file mode 100644\n" ++
    "diff --git a/a/b b/a/b\nnew file mode 100644\n").toList

theorem nesting_accepted : validatePatch settings.steps workTree.checkout settings.limits settings.denied nesting =
    .ok ["a".toList, "a/b".toList] := by
  decide +kernel

theorem no_links (place : List FileName) : tree.links place = none := by
  unfold links tree
  by_cases top : place = [] ∨ place = ["r".toList]
  · rw [if_pos top]
  · rw [if_neg top]
    by_cases file : place = ["r".toList, "a".toList]
    · rw [if_pos file]
    · rw [if_neg file]

theorem nesting_reaches : ReachesGit settings workTree ["a".toList, "a/b".toList] where
  clear := fun path listed start within => no_links start
  regular := by
    intro path listed
    rcases List.mem_pair.mp listed with rfl | rfl
    · exact .inr ⟨[], 420, by decide, rfl⟩
    · exact .inl (by decide)

/-- The file is not put back when git has replaced it by the directory. -/
theorem nesting_missed : ¬RollsBack settings workTree nesting ["a".toList, "a/b".toList] := by
  have above : ∀ start ∈ (workTree.checkout.target "a/b".toList).dropLast.inits, tree start = none ∨
      tree start = some .directory ∨ start ∈ ["a".toList, "a/b".toList].map workTree.checkout.target := by
    decide +kernel
  have listed {path : List Char} (here : path = "a".toList ∨ path = "a/b".toList) :
      path ∈ ["a".toList, "a/b".toList] := List.mem_pair.mpr here
  refine nested_missed nesting_accepted nesting_reaches (listed (.inl rfl)) (listed (.inr rfl)) ?_
    (fun start within => above start ((List.mem_inits _ _).mpr within)) ?_
  · decide +kernel
  · decide +kernel

def single : List Char := "diff --git a/a b/a\ndeleted file mode 100644\n".toList

theorem single_rollsBack : RollsBack settings workTree single ["a".toList] := by
  refine (applyPatch_rollsBack (by decide +kernel)).mpr fun ⟨_, missed⟩ => ?_
  have file : workTree.tree (workTree.checkout.target "a".toList) = some (.file [] 420) := by decide +kernel
  cases missed with
  | link path listed target link =>
    cases List.mem_singleton.mp listed
    rw [file] at link
    cases link
  | nested upper lower first second below _ =>
    cases List.mem_singleton.mp first
    cases List.mem_singleton.mp second
    exact absurd below (by decide +kernel)

end PatchSample

end SacmRuntime
