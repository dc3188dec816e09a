import SacmRuntime.Runtime.PatchPaths

namespace SacmRuntime
open PosixPath RepositoryAdapter

section Text
variable {path word : List Char} {name : FileName}

theorem getLast_filter {α : Type} {test : α → Bool} {items : List α} {last : α}
    (found : (items.filter test).getLast? = some last) :
    ∃ before after, items = before ++ last :: after ∧ after.filter test = [] := by
  obtain ⟨start, kept⟩ := List.getLast?_eq_some_iff.mp found
  obtain ⟨before, after, rfl, -, ends⟩ := List.filter_eq_append_iff.mp kept
  obtain ⟨skipped, later, rfl, -, holds, rest⟩ := List.filter_eq_cons_iff.mp ends
  exact ⟨before ++ skipped, later, by simp, rest⟩

theorem intercalate_append {before after : List FileName} :
    ['/'].intercalate (before ++ name :: after) =
      before.flatMap (fun piece => piece ++ ['/']) ++ name ++ after.flatMap (fun piece => '/' :: piece) := by
  induction before with
  | nil =>
    induction after generalizing name with
    | nil => simp
    | cons piece rest ih =>
      have inner : ['/'].intercalate (piece :: rest) = piece ++ rest.flatMap fun piece => '/' :: piece := by
        simpa using @ih piece
      simp [List.intercalate_cons_of_ne_nil, inner]
  | cons piece rest ih =>
    have filled : rest ++ name :: after ≠ [] := by simp
    rw [List.cons_append, List.intercalate_cons_of_ne_nil filled, ih]
    simp

section
variable (named : (parse path).parts.getLast? = some name)
include named

/-- The name of a path in its text: a slash stands before it unless the text
begins with it, and behind it are only slashes and dots. -/
theorem name_in_text :
    ∃ before after, path = before ++ name ++ after ∧
      (before = [] ∧ (parse path).parts = [name] ∨ ∃ start, before = start ++ ['/']) ∧
      (after = [] ∨ "/".toList <:+ after ∨ "/.".toList <:+ after) := by
  obtain ⟨before, after, split, skipped⟩ := getLast_filter named
  have text : path = ['/'].intercalate (path.splitOn '/') := (List.intercalate_splitOn '/').symm
  rw [split, intercalate_append] at text
  refine ⟨_, _, text, ?_, ?_⟩
  · rcases List.eq_nil_or_concat before with rfl | ⟨start, piece, rfl⟩
    · have kept := List.mem_filter.mp (List.mem_of_getLast? named)
      refine .inl ⟨rfl, ?_⟩
      change (path.splitOn '/').filter _ = [name]
      rw [split, List.nil_append, List.filter_cons, if_pos kept.2, skipped]
    · exact .inr ⟨start.flatMap (fun piece => piece ++ ['/']) ++ piece, by simp⟩
  · rcases List.eq_nil_or_concat after with rfl | ⟨start, piece, rfl⟩
    · exact .inl rfl
    · have empty := List.filter_eq_nil_iff.mp skipped piece (by simp)
      right
      rw [List.concat_eq_append, List.flatMap_append, List.flatMap_singleton]
      simp only [Bool.and_eq_true, decide_eq_true_eq, not_and_or, not_not] at empty
      rcases empty with rfl | rfl
      · exact .inl (List.suffix_append _ _)
      · exact .inr (List.suffix_append _ _)

/-- A name that begins with a word, in a text that does not have the word
after a slash, is the whole path. -/
theorem top_name (begins : word <+: name) (apart : ¬('/' :: word) <:+: path) : (parse path).parts = [name] := by
  obtain ⟨before, after, text, ⟨-, single⟩ | ⟨start, rfl⟩, -⟩ := name_in_text named
  · exact single
  · obtain ⟨tail, rfl⟩ := begins
    refine absurd ⟨start, tail ++ after, ?_⟩ apart
    rw [text]
    simp

theorem closed_name (ends : word <:+ name) (apart : ¬word <:+ path) : "/".toList <:+ path ∨ "/.".toList <:+ path := by
  obtain ⟨before, after, text, -, tail⟩ := name_in_text named
  have late : after <:+ path := ⟨before ++ name, text.symm⟩
  rcases tail with rfl | slash | dot
  · refine absurd (ends.trans ⟨before, ?_⟩) apart
    rw [text, List.append_nil]
  · exact .inl (slash.trans late)
  · exact .inr (dot.trans late)

end

theorem unmatched_forms (unmatched : globbed defaultDenied path = false) :
    path ≠ ".env".toList ∧ ¬".env.".toList <+: path ∧ (∀ suffix ∈ keySuffixes, ¬suffix <:+ path) ∧
      ¬"/id_rsa".toList <:+: path := by
  have misses : ∀ pattern ∈ defaultDenied, ¬Glob.fits (Glob.parse pattern) path = true :=
    List.any_eq_false.mp unmatched
  have keys : ∀ suffix ∈ keySuffixes,
      '*' :: suffix ∈ defaultDenied ∧ Glob.parse ('*' :: suffix) = .star :: suffix.map .one := by
    decide
  refine ⟨fun same => ?_, fun start => ?_, fun suffix member ends => ?_, fun within => ?_⟩
  · exact misses ".env".toList (by decide) (Glob.fits_word.mpr same)
  · exact misses ".env.*".toList (by decide) (Glob.fits_start.mpr start)
  · obtain ⟨listed, pieces⟩ := keys suffix member
    refine misses _ listed ?_
    rw [pieces]
    exact Glob.fits_ending.mpr ends
  · exact misses "**/id_rsa*".toList (by decide) (Glob.fits_within.mpr within)

theorem protected_around (named : (parse path).parts.getLast? = some name) (guarded : ProtectedName name)
    (unmatched : globbed defaultDenied path = false) : WrittenAround path := by
  obtain ⟨unnamed, undotted, unsuffixed, apart⟩ := unmatched_forms unmatched
  refine ⟨name, named, ?_⟩
  rcases guarded with environment | identity | key
  · exact .inl ⟨environment, unnamed, undotted⟩
  · exact .inr (.inl ⟨identity, top_name named identity apart⟩)
  · obtain ⟨suffix, member, ends⟩ := key
    exact .inr (.inr ⟨⟨suffix, member, ends⟩, closed_name named ends (unsuffixed suffix member)⟩)

end Text

section Checks
variable {repo : Checkout} {path : List Char} {steps : Nat} {location : List FileName}

theorem resolved_not_link (resolved : repo.links.walk steps [] (repo.root ++ (parse path).parts) = some location) :
    (repo.links location).isSome = false := by
  have settled : repo.links.Settled location := Links.Leads.settled repo.settled.top ⟨steps, resolved⟩
  rw [settled location List.prefix_rfl]
  rfl

theorem taken_iff : (∃ steps, validatePatchPath steps repo defaultDenied path = .ok ()) ↔ repo.Taken path := by
  constructor
  · rintro ⟨steps, accepted⟩
    unfold validatePatchPath at accepted
    split at accepted
    · cases accepted
    rename_i shape
    split at accepted
    · cases accepted
    rename_i location walked
    split at accepted
    · cases accepted
    rename_i inside
    split at accepted
    · cases accepted
    rename_i unmatched
    exact ⟨not_not.mp shape, ⟨location, ⟨steps, walked⟩, not_not.mp inside⟩, Bool.eq_false_iff.mpr unmatched⟩
  · rintro ⟨shape, ⟨location, ⟨steps, walked⟩, inside⟩, unmatched⟩
    refine ⟨steps, ?_⟩
    unfold validatePatchPath
    rw [if_neg (not_not.mpr shape), walked]
    simp only
    rw [if_neg (not_not.mpr inside), if_neg (by simp [unmatched]), if_neg (by simp [resolved_not_link walked])]

theorem resolves_clear (shape : SafeShape path) (clear : ¬repo.PassesLink path) :
    repo.Resolves path (repo.root ++ (parse path).parts) := by
  refine Links.leads_clear (fun start within => ?_) ?_
  · rcases List.prefix_or_prefix_of_prefix within (List.prefix_append repo.root _) with inRoot | ⟨rest, rfl⟩
    · exact repo.settled start inRoot
    · by_contra link
      exact clear ⟨rest, (List.prefix_append_right_inj repo.root).mp within, link⟩
  · rw [List.mem_append, not_or]
    exact ⟨repo.downward, shape.2.2.1⟩

theorem Checkout.Taken.guarded (taken : repo.Taken path) (sound : ¬repo.Slips path) : repo.Guarded path := by
  have unnamed : ¬ProtectedFile (parse path).parts := by
    rintro ⟨name, named, guarded⟩
    exact sound (.name (protected_around named guarded taken.unmatched))
  have target {location : List FileName} (resolves : repo.Resolves path location) :
      ¬(".git".toList ∈ location.drop repo.root.length ∨ ProtectedFile (location.drop repo.root.length)) := by
    intro bad
    by_cases passes : repo.PassesLink path
    · exact sound (.target passes location resolves bad)
    · obtain rfl := Links.Leads.unique resolves (resolves_clear taken.shape passes)
      rw [List.drop_left] at bad
      rcases bad with git | guarded
      · exact taken.shape.2.2.2 git
      · exact unnamed guarded
  obtain ⟨inner, leads, inside⟩ := taken.inside
  exact {
    entry := fun link => sound (.entry link)
    inside := fun location resolves => leads.unique resolves ▸ inside
    outsideGit := fun location resolves git => target resolves (.inl git)
    name := unnamed
    target := fun location resolves guarded => target resolves (.inr guarded) }

theorem Checkout.Guarded.sound (guarded : repo.Guarded path) : ¬repo.Slips path := by
  rintro (link | ⟨-, location, resolves, git | named⟩ | ⟨name, named, around⟩)
  · exact guarded.entry link
  · exact guarded.outsideGit location resolves git
  · exact guarded.target location resolves named
  · refine guarded.name ⟨name, named, ?_⟩
    rcases around with ⟨environment, -⟩ | ⟨identity, -⟩ | ⟨key, -⟩
    · exact .inl environment
    · exact .inr (.inl identity)
    · exact .inr (.inr key)

end Checks

/-- The paths that are taken avoid links and protected files, exactly but for
those that slip. -/
theorem validatePatchPath_guarded (repo : Checkout) (path : List Char) :
    (∀ steps, validatePatchPath steps repo defaultDenied path = .ok () → repo.Guarded path) ↔
      ¬(repo.Taken path ∧ repo.Slips path) := by
  constructor
  · rintro guarded ⟨taken, slips⟩
    obtain ⟨steps, accepted⟩ := taken_iff.mpr taken
    exact (guarded steps accepted).sound slips
  · intro sound steps accepted
    have taken : repo.Taken path := taken_iff.mp ⟨steps, accepted⟩
    exact taken.guarded fun slips => sound ⟨taken, slips⟩

namespace PatchSample

/-- A repository whose `latest` is a link to its `data`. -/
def repo : Checkout where
  root := ["r".toList]
  links location := if location = ["r".toList, "latest".toList] then some "data".toList else none
  settled := by
    intro start within
    rcases List.prefix_cons_iff.mp within with rfl | ⟨rest, rfl, empty⟩
    · rfl
    · rw [List.prefix_nil.mp empty]
      rfl
  downward := by decide

/-- The link is there, and the path is taken. -/
theorem link_taken : validatePatchPath 3 repo defaultDenied "latest".toList = .ok () ∧ repo.IsLink "latest".toList :=
  ⟨by decide, [], "latest".toList, ["r".toList], by decide, ⟨1, by decide⟩, by decide⟩

end PatchSample

end SacmRuntime
