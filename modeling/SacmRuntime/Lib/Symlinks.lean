import SacmRuntime.Lib.PosixPath

namespace SacmRuntime

/-- The symbolic links of a file system: the text of each, by where it lies. -/
abbrev Links : Type := List FileName → Option (List Char)

namespace Links

/-- Follow names from a directory without links, at most the given number of
steps; a loop of links is never at its end. -/
def walk (links : Links) : Nat → List FileName → List FileName → Option (List FileName)
  | _, done, [] => some done
  | 0, _, _ :: _ => none
  | n + 1, done, name :: rest =>
    if name = "..".toList then walk links n done.dropLast rest
    else
      match links (done ++ [name]) with
      | none => walk links n (done ++ [name]) rest
      | some target =>
        walk links n (if (PosixPath.parse target).absolute then [] else done) ((PosixPath.parse target).parts ++ rest)

/-- The names, from the root, lead to the location. -/
def Leads (links : Links) (names location : List FileName) : Prop := ∃ n, links.walk n [] names = some location

/-- No link lies at the location or above it. -/
def Settled (links : Links) (location : List FileName) : Prop :=
  ∀ start, start <+: location → links start = none

variable {links : Links} {n m : Nat} {done rest names location other : List FileName} {name : FileName}

section
variable (walked : links.walk n done rest = some location)
include walked

theorem walk_succ : links.walk (n + 1) done rest = some location := by
  induction n generalizing done rest with
  | zero =>
    cases rest with
    | nil => exact walked
    | cons name rest => cases walked
  | succ n ih =>
    cases rest with
    | nil => exact walked
    | cons name rest =>
      unfold walk at walked ⊢
      split at walked
      · rw [if_pos (by assumption)]
        exact ih walked
      · rw [if_neg (by assumption)]
        split at walked
        · exact ih walked
        · exact ih walked

theorem walk_add (k : Nat) :
    links.walk (n + k) done rest = some location := by
  induction k with
  | zero => exact walked
  | succ k ih => exact walk_succ ih

/-- The number of steps does not matter, as long as they are enough. -/
theorem walk_unique (again : links.walk m done rest = some other) :
    location = other := by
  have first := walk_add walked m
  have second := walk_add again n
  rw [Nat.add_comm m n] at second
  exact Option.some_inj.mp (first.symm.trans second)

end

theorem Leads.unique (here : links.Leads names location) (there : links.Leads names other) : location = other := by
  obtain ⟨n, walked⟩ := here
  obtain ⟨m, again⟩ := there
  exact walk_unique walked again

/-- The top is not a link. -/
theorem Settled.top (settled : links.Settled location) : links.Settled [] :=
  fun start within => settled start (List.prefix_nil.mp within ▸ List.nil_prefix)

theorem Settled.dropLast (settled : links.Settled done) : links.Settled done.dropLast :=
  fun start within => settled start (within.trans (List.dropLast_prefix done))

theorem Settled.concat (settled : links.Settled done) (free : links (done ++ [name]) = none) :
    links.Settled (done ++ [name]) := by
  intro start within
  rcases List.prefix_concat_iff.mp within with rfl | within
  · exact free
  · exact settled start within

/-- Where a walk ends there is no link left. -/
theorem walk_settled (settled : links.Settled done) (walked : links.walk n done rest = some location) :
    links.Settled location := by
  induction n generalizing done rest with
  | zero =>
    cases rest with
    | nil =>
      cases walked
      exact settled
    | cons name rest => cases walked
  | succ n ih =>
    cases rest with
    | nil =>
      cases walked
      exact settled
    | cons name rest =>
      unfold walk at walked
      split at walked
      · exact ih settled.dropLast walked
      · split at walked
        · exact ih (settled.concat (by assumption)) walked
        · refine ih ?_ walked
          split
          · exact settled.top
          · exact settled

theorem Leads.settled (top : links.Settled []) (leads : links.Leads names location) : links.Settled location := by
  obtain ⟨n, walked⟩ := leads
  exact walk_settled top walked

/-- A walk takes a step for each of its names. -/
theorem walk_enough (walked : links.walk n done rest = some location) : rest.length ≤ n := by
  induction n generalizing done rest with
  | zero =>
    cases rest with
    | nil => exact Nat.le_refl _
    | cons name rest => cases walked
  | succ n ih =>
    cases rest with
    | nil => exact Nat.zero_le _
    | cons name rest =>
      unfold walk at walked
      rw [List.length_cons, Nat.add_le_add_iff_right]
      split at walked
      · exact ih walked
      · split at walked
        · exact ih walked
        · have enough := ih walked
          rw [List.length_append] at enough
          omega

/-- Names that pass no link lead to where they say. -/
theorem walk_clear (settled : links.Settled (done ++ rest)) (upward : "..".toList ∉ rest) (enough : rest.length ≤ n) :
    links.walk n done rest = some (done ++ rest) := by
  induction rest generalizing done n with
  | nil => cases n <;> simp [walk]
  | cons name rest ih =>
    cases n with
    | zero => simp at enough
    | succ n =>
      have free : links (done ++ [name]) = none :=
        settled _ ⟨rest, by simp⟩
      rw [List.mem_cons, not_or] at upward
      unfold walk
      rw [if_neg (Ne.symm upward.1), free]
      rw [List.append_cons] at settled
      rw [ih settled upward.2 (by simpa using enough), List.append_assoc]
      rfl

theorem leads_clear (settled : links.Settled names) (upward : "..".toList ∉ names) : links.Leads names names :=
  ⟨names.length, walk_clear settled upward (Nat.le_refl _)⟩

end Links

end SacmRuntime
