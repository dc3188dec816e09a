import SacmRuntime.Lib.Checked
import SacmRuntime.Runtime.GuardedPaths
import SacmRuntime.Runtime.PatchPaths

namespace SacmRuntime
open RepositoryAdapter GitPatch

def SeesAll (patch : List Char) (paths : List (List Char)) : Prop :=
  ∀ mention ∈ mentions patch, ∀ name ∈ names mention, ∃ path ∈ paths, bytes path = name

instance (patch : List Char) (paths : List (List Char)) : Decidable (SeesAll patch paths) := by
  unfold SeesAll
  infer_instance

/-- A header without quotes that gives a name without ` b/` twice, or no name
twice. -/
inductive PlainHeader : Mention → Prop where
  | twice {text name : List Char} (unquoted : '"' ∉ text) (split : text = "a/".toList ++ name ++ " b/".toList ++ name)
      (filled : name ≠ []) (free : ¬" b/".toList <:+: name) : PlainHeader (.header text)
  | different {text : List Char} (unquoted : '"' ∉ text) (unequal : sameName text = none) : PlainHeader (.header text)

/-- The name stands in a header that begins with `a/`, before the first ` b/`
or after it. -/
def StandsPlainly (patch : List Char) (name : NameBytes) : Prop :=
  ∃ line ∈ patch.splitOn '\n', ∃ path ∈ headerPaths line, bytes path = name

section Words
variable {word : String} {text rest first second body : List Char}

theorem after_iff : after word text = some rest ↔ text = word.toList ++ rest := by
  unfold after
  constructor
  · intro found
    split at found
    · rename_i begins
      cases found
      exact (List.prefix_iff_eq_append.mp begins).symm
    · cases found
  · rintro rfl
    rw [if_pos (List.prefix_append _ _), List.drop_left]

theorem shortestSplit_cons {c : Char} :
    shortestSplit (c :: rest) = some (first, second) ↔
      first = [c] ∧ second ≠ [] ∧ rest = " b/".toList ++ second ∨
        (∀ d more, rest ≠ " b/".toList ++ d :: more) ∧ ∃ later, first = c :: later ∧
          shortestSplit rest = some (later, second) := by
  rw [shortestSplit]
  split
  · rename_i d more found
    have begins := after_iff.mp found
    constructor
    · intro same
      cases same
      exact .inl ⟨rfl, by simp, begins⟩
    · rintro (⟨rfl, filled, again⟩ | ⟨missing, -⟩)
      · rw [List.append_cancel_left (begins.symm.trans again)]
      · exact absurd begins (missing d more)
  · rename_i missing
    have missing : ∀ d more, rest ≠ " b/".toList ++ d :: more := fun d more same => missing d more (after_iff.mpr same)
    rw [Option.map_eq_some_iff]
    constructor
    · rintro ⟨⟨later, tail⟩, found, same⟩
      cases same
      exact .inr ⟨missing, later, rfl, found⟩
    · rintro (⟨rfl, filled, begins⟩ | ⟨-, later, rfl, found⟩)
      · obtain ⟨d, more, rfl⟩ := List.exists_cons_of_ne_nil filled
        exact absurd begins (missing d more)
      · exact ⟨(later, second), found, rfl⟩

theorem shortestSplit_spec (found : shortestSplit body = some (first, second)) :
    first ≠ [] ∧ second ≠ [] ∧ body = first ++ " b/".toList ++ second := by
  induction body generalizing first with
  | nil => cases found
  | cons c rest ih =>
    rcases shortestSplit_cons.mp found with ⟨rfl, filled, rfl⟩ | ⟨-, later, rfl, inner⟩
    · exact ⟨by simp, filled, by simp⟩
    · obtain ⟨-, filled, split⟩ := ih inner
      exact ⟨by simp, filled, by rw [split]; simp⟩

theorem shortestSplit_exists (begun : first ≠ []) (ended : second ≠ [])
    (split : body = first ++ " b/".toList ++ second) : ∃ found, shortestSplit body = some found := by
  induction first generalizing body with
  | nil => exact absurd rfl begun
  | cons c more ih =>
    subst split
    by_cases here : ∃ d rest, more ++ " b/".toList ++ second = " b/".toList ++ d :: rest
    · obtain ⟨d, rest, begins⟩ := here
      exact ⟨([c], d :: rest), shortestSplit_cons.mpr (.inl ⟨rfl, by simp, begins⟩)⟩
    · have missing : ∀ d rest, more ++ " b/".toList ++ second ≠ " b/".toList ++ d :: rest :=
        fun d rest begins => here ⟨d, rest, begins⟩
      have filled : more ≠ [] := by
        rintro rfl
        obtain ⟨d, rest, rfl⟩ := List.exists_cons_of_ne_nil ended
        exact missing d rest rfl
      obtain ⟨⟨later, tail⟩, inner⟩ := ih filled rfl
      exact ⟨(c :: later, tail), shortestSplit_cons.mpr (.inr ⟨missing, later, rfl, inner⟩)⟩

/-- A first part without ` b/` is the one that the pattern takes. -/
theorem shortestSplit_free (begun : first ≠ []) (ended : second ≠ []) (free : ¬" b/".toList <:+: first) :
    shortestSplit (first ++ " b/".toList ++ second) = some (first, second) := by
  induction first with
  | nil => exact absurd rfl begun
  | cons c more ih =>
    have inside : ¬" b/".toList <:+: more := fun within => free (within.trans (List.suffix_cons c more).isInfix)
    by_cases single : more = []
    · subst single
      exact shortestSplit_cons.mpr (.inl ⟨rfl, ended, rfl⟩)
    · refine shortestSplit_cons.mpr (.inr ⟨fun d rest begins => ?_, more, rfl, ih single inside⟩)
      -- the word does not lie across the end of the first part
      match more, single with
      | [_], _ => simp at begins
      | [_, _], _ => simp at begins
      | x :: y :: z :: later, _ =>
        have begins : x :: y :: z :: (later ++ " b/".toList ++ second) = ' ' :: 'b' :: '/' :: (d :: rest) := begins
        simp only [List.cons.injEq] at begins
        obtain ⟨rfl, rfl, rfl, -⟩ := begins
        exact inside ⟨[], later, rfl⟩

theorem mem_splits : (first, second) ∈ splits body ↔
    first ≠ [] ∧ second ≠ [] ∧ body = "a/".toList ++ (first ++ " b/".toList ++ second) := by
  unfold splits
  split
  · rename_i missing
    constructor
    · exact fun member => by cases member
    · rintro ⟨-, -, split⟩
      rw [after_iff.mpr split] at missing
      cases missing
  · rename_i rest found
    obtain rfl := after_iff.mp found
    rw [List.mem_filterMap]
    constructor
    · rintro ⟨start, begins, read⟩
      split at read
      · rename_i tail taken
        split at read
        · cases read
          rename_i filled
          refine ⟨filled.1, filled.2, ?_⟩
          have whole := List.prefix_iff_eq_append.mp ((List.mem_inits _ _).mp begins)
          rw [after_iff.mp taken, ← List.append_assoc] at whole
          rw [whole]
        · cases read
      · cases read
    · rintro ⟨begun, ended, split⟩
      have split := List.append_cancel_left split
      refine ⟨first, (List.mem_inits _ _).mpr ⟨" b/".toList ++ second, ?_⟩, ?_⟩
      · rw [split, List.append_assoc]
      · have taken : after " b/" (rest.drop first.length) = some second := by
          rw [split, List.append_assoc, List.drop_left]
          exact after_iff.mpr rfl
        rw [taken]
        exact if_pos ⟨begun, ended⟩

theorem strip_spec {α : Type} [DecidableEq α] {slash : α} {whole tail : List α}
    (found : strip slash whole = some tail) : ∃ start, start ≠ [] ∧ slash ∉ start ∧ whole = start ++ slash :: tail := by
  have split := List.takeWhile_append_dropWhile (p := (· ≠ slash)) (l := whole)
  unfold strip at found
  split at found
  · rename_i c more d late started ended
    cases found
    have stop : d = slash := by
      have head := List.head?_dropWhile_not (fun x => decide (x ≠ slash)) whole
      rw [ended] at head
      simpa using head
    refine ⟨c :: more, by simp, fun member => ?_, ?_⟩
    · rw [← started] at member
      have kept := List.all_takeWhile (p := fun x => decide (x ≠ slash)) (l := whole)
      simpa using List.all_eq_true.mp kept slash member
    · rw [← stop, ← started, ← ended, split]
  · cases found

theorem sameName_twice {found name : List Char} (named : sameName body = some found)
    (split : body = "a/".toList ++ name ++ " b/".toList ++ name) : found = name := by
  have stripped : strip '/' body = some (name ++ " b/".toList ++ name) := by
    rw [split]
    rfl
  unfold sameName at named
  rw [stripped] at named
  simp only [Option.bind_eq_bind, Option.bind_some] at named
  have begins := (List.mem_inits _ _).mp (List.mem_of_find?_eq_some named)
  have holds := List.find?_some named
  split at holds
  · rename_i c rest dropped
    simp only [Bool.and_eq_true, beq_iff_eq] at holds
    obtain ⟨q, filled, slashless, rfl⟩ := strip_spec holds.2
    have whole := List.prefix_iff_eq_append.mp begins
    rw [dropped, List.append_assoc] at whole
    have lengths := congrArg List.length whole
    simp only [List.length_append, List.length_cons, String.reduceToList, List.length_nil] at lengths
    have positive := List.length_pos_iff.mpr filled
    rcases List.append_eq_append_iff.mp whole with ⟨middle, rfl, rest⟩ | ⟨middle, rfl, rest⟩
    · -- the name would go on, and the slash before its second place comes first
      cases middle with
      | nil => exact (List.append_nil _).symm
      | cons d more =>
        have rest : q ++ '/' :: found = (more ++ " b".toList) ++ '/' :: (found ++ d :: more) := by
          simpa using (List.cons.inj rest).2
        rcases List.append_eq_append_iff.mp rest with ⟨between, -, late⟩ | ⟨between, early, late⟩
        · have shorter := congrArg List.length late
          simp only [List.length_append, List.length_cons] at shorter
          omega
        · cases between with
          | nil =>
            have shorter := congrArg List.length late
            simp only [List.length_append, List.length_cons, List.length_nil] at shorter
            omega
          | cons e later =>
            obtain rfl := (List.cons.inj late).1
            exact absurd (early ▸ by simp) slashless
    · simp only [List.length_append] at lengths
      have none : middle = [] := List.length_eq_zero_iff.mp (by omega)
      rw [none, List.append_nil]
  · cases holds

end Words

section Patches
variable {patch text line : List Char} {lines rest : List (List Char)} {reading : PatchReading} {mention : Mention}

theorem seek_header (member : .header text ∈ (seek line rest).1) : after "diff --git " line = some text := by
  unfold seek at member
  split at member
  · cases List.mem_singleton.mp member
    assumption
  · split at member
    · cases List.mem_singleton.mp member
    · cases member
  · cases member

theorem between_header (member : .header text ∈ (between line rest).1) : after "diff --git " line = some text := by
  unfold between at member
  split at member
  · split at member <;> cases member
  · exact seek_header member

theorem step_header (member : .header text ∈ (step reading line rest).1) : after "diff --git " line = some text := by
  unfold step at member
  cases reading with
  | seeking => exact seek_header member
  | stopped => cases member
  | newName => cases member
  | header =>
    simp only at member
    split at member
    · cases List.mem_singleton.mp member
    · split at member
      · cases member
      · exact between_header member
  | hunks old new =>
    simp only at member
    split at member
    · exact between_header member
    · cases member

theorem scan_header (member : .header text ∈ scan reading lines) :
    ∃ line ∈ lines, line = "diff --git ".toList ++ text := by
  induction lines generalizing reading with
  | nil => cases reading <;> cases member
  | cons line rest ih =>
    rw [scan] at member
    rcases List.mem_append.mp member with here | later
    · exact ⟨line, List.mem_cons_self, after_iff.mp (step_header here)⟩
    · obtain ⟨line, inRest, same⟩ := ih later
      exact ⟨line, List.mem_cons_of_mem _ inRest, same⟩

theorem mem_patchPaths {path : List Char} :
    path ∈ patchPaths patch ↔ ∃ line ∈ patch.splitOn '\n', path ∈ headerPaths line := by
  rw [patchPaths, List.mem_dedup, List.mem_flatMap]

/-- The groups of a header line are the first split of what follows `a/`. -/
theorem headerPaths_split {first second : List Char} (split : line = "diff --git ".toList ++ ("a/".toList ++ text))
    (found : shortestSplit text = some (first, second)) : headerPaths line = [first, second] := by
  have taken : after "diff --git a/" line = some text := by
    rw [after_iff, split, ← List.append_assoc]
    rfl
  unfold headerPaths
  rw [taken, Option.bind_some, found]

theorem headerNames_unquoted (unquoted : '"' ∉ text) :
    headerNames text =
      match sameName text, splits text with
      | some name, _ => [bytes name]
      | none, [(first, second)] => [bytes first, bytes second]
      | none, _ => [] := by
  unfold headerNames
  split
  · exact absurd List.mem_cons_self unquoted
  · exact if_neg unquoted

theorem plain_names (plain : PlainHeader (.header text)) (split : line = "diff --git ".toList ++ text)
    {name : NameBytes} (named : name ∈ headerNames text) : ∃ path ∈ headerPaths line, bytes path = name := by
  have different (unquoted : '"' ∉ text) (unequal : sameName text = none) :
      ∃ path ∈ headerPaths line, bytes path = name := by
    rw [headerNames_unquoted unquoted, unequal] at named
    split at named
    · rename_i same
      cases same
    · rename_i first second _ only
      obtain ⟨begun, ended, whole⟩ := mem_splits.mp (only ▸ List.mem_singleton_self (first, second))
      obtain ⟨⟨start, tail⟩, found⟩ := shortestSplit_exists begun ended rfl
      obtain ⟨begins, ends, again⟩ := shortestSplit_spec found
      have listed := mem_splits.mpr ⟨begins, ends, whole.trans (congrArg ("a/".toList ++ ·) again)⟩
      rw [only] at listed
      cases List.mem_singleton.mp listed
      rw [headerPaths_split (split.trans (congrArg ("diff --git ".toList ++ ·) whole)) found]
      rcases List.mem_pair.mp named with rfl | rfl
      · exact ⟨first, by simp, rfl⟩
      · exact ⟨second, by simp, rfl⟩
    · cases named
  cases plain with
  | different unquoted unequal => exact different unquoted unequal
  | @twice _ same unquoted whole filled free =>
    cases read : sameName text with
    | none => exact different unquoted read
    | some found =>
      obtain rfl := sameName_twice read whole
      rw [headerNames_unquoted unquoted, read] at named
      rw [List.append_assoc, List.append_assoc] at whole
      have first := shortestSplit_free filled filled free
      rw [List.append_assoc] at first
      rw [headerPaths_split (split.trans (congrArg ("diff --git ".toList ++ ·) whole)) first]
      exact ⟨found, by simp, (List.mem_singleton.mp named).symm⟩

theorem validatePatch_ok {steps : Nat} {repo : Checkout} {limits : PatchLimits} {denied paths : List (List Char)}
    (accepted : validatePatch steps repo limits denied patch = .ok paths) :
    (∀ path ∈ paths, validatePatchPath steps repo denied path = .ok ()) ∧ paths = patchPaths patch := by
  unfold validatePatch at accepted
  split at accepted
  · cases accepted
  split at accepted
  · cases accepted
  split at accepted
  · cases accepted
  split at accepted
  · cases accepted
  split at accepted
  · cases accepted
  split at accepted
  · cases accepted
  obtain ⟨_, validated, same⟩ := Checked.bind_ok accepted
  cases same
  refine ⟨fun path listed => ?_, rfl⟩
  have checked := Checked.forM_ok validated listed
  cases outcome : validatePatchPath steps repo denied path with
  | ok _ => rfl
  | error error =>
    rw [outcome] at checked
    cases checked

end Patches

/-- For a patch that is accepted: every path has been validated and every name
is among the paths, exactly when each name that does not come from a plain
header stands in a plain form as well. -/
theorem validatePatch_sees {steps : Nat} {repo : Checkout} {limits : PatchLimits} {denied : List (List Char)}
    {patch : List Char} {paths : List (List Char)}
    (accepted : validatePatch steps repo limits denied patch = .ok paths) :
    ((∀ path ∈ paths, validatePatchPath steps repo denied path = .ok ()) ∧ SeesAll patch paths) ↔
      ∀ mention ∈ mentions patch, ¬PlainHeader mention → ∀ name ∈ names mention, StandsPlainly patch name := by
  obtain ⟨validated, rfl⟩ := validatePatch_ok accepted
  constructor
  · rintro ⟨-, seen⟩ mention member - name named
    obtain ⟨path, listed, same⟩ := seen mention member name named
    obtain ⟨line, inPatch, given⟩ := mem_patchPaths.mp listed
    exact ⟨line, inPatch, path, given, same⟩
  · intro covered
    refine ⟨validated, fun mention member name named => ?_⟩
    have stands : StandsPlainly patch name := by
      by_cases plain : PlainHeader mention
      · cases mention with
        | header text =>
          obtain ⟨line, inPatch, split⟩ := scan_header member
          exact ⟨line, inPatch, plain_names plain split named⟩
        | moved text => cases plain
        | traditional old new => cases plain
      · exact covered mention member plain name named
    obtain ⟨line, inPatch, path, given, same⟩ := stands
    exact ⟨path, mem_patchPaths.mpr ⟨line, inPatch, given⟩, same⟩

namespace PatchSample

/-- A new file with a plain header, and a new `.env` with its name in quotes. -/
def patch : List Char :=
  ("diff --git a/x b/x\nnew file mode 100644\n" ++
    "diff --git \"a/.env\" \"b/.env\"\nnew file mode 100644\n").toList

/-- The patch is accepted for `x` alone. -/
theorem patch_accepted : validatePatch 3 repo {} defaultDenied patch = .ok ["x".toList] := by
  decide +kernel

theorem quoted_unseen : validatePatch 3 repo {} defaultDenied patch = .ok ["x".toList] ∧
    ¬SeesAll patch ["x".toList] :=
  ⟨patch_accepted, by decide +kernel⟩

/-- A file is renamed, and git is told of both names twice. -/
def renamed : List Char :=
  "diff --git a/x b/y\nsimilarity index 100%\nrename from x\nrename to y\n".toList

theorem patch_sees : (∀ path ∈ ["x".toList, "y".toList], validatePatchPath 3 repo defaultDenied path = .ok ()) ∧
    SeesAll renamed ["x".toList, "y".toList] := by
  have accepted : validatePatch 3 repo {} defaultDenied renamed = .ok ["x".toList, "y".toList] := by decide +kernel
  have stands : ∀ mention ∈ mentions renamed, ∀ name ∈ names mention, StandsPlainly renamed name := by
    unfold StandsPlainly
    decide +kernel
  exact (validatePatch_sees accepted).mpr fun mention member _ => stands mention member

end PatchSample

end SacmRuntime
