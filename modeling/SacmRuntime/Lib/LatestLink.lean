import Mathlib.Data.List.MinMax

namespace SacmRuntime

/-- How the entries of a log name their predecessor: the key that decides
which entry counts as the newest, the hash of the predecessor an entry
carries, and the hash of the entry itself. -/
structure LatestLink (ε κ η : Type) where
  key : ε → κ
  previous : ε → Option η
  hash : ε → η

namespace LatestLink
variable {ε κ η : Type} (c : LatestLink ε κ η)

/-- The log is one chain: each entry names the one appended right before it,
no two name the same one, and exactly one names none. -/
structure Linear (entries : List ε) : Prop where
  follows : ∀ i entry, entries[i + 1]? = some entry → c.previous entry = entries[i]?.map c.hash
  apart : (entries.map c.previous).Nodup
  root : entries ≠ [] → ∃ first, (entries.filter fun entry => (c.previous entry).isNone) = [first]

/-- Entries with one hash have one predecessor. -/
def Separated (entries : List ε) : Prop :=
  ∀ a ∈ entries, ∀ b ∈ entries, c.hash a = c.hash b → c.previous a = c.previous b

variable {c} {entries : List ε} {entry last : ε}

theorem Linear.init (linear : c.Linear (entries ++ [entry])) : c.Linear entries where
  follows := by
    intro i next found
    have bound := (List.getElem?_eq_some_iff.mp found).1
    have link := linear.follows i next (by rw [List.getElem?_append_left bound]; exact found)
    rwa [List.getElem?_append_left (by omega)] at link
  apart := by
    have whole := linear.apart
    rw [List.map_append] at whole
    exact (List.nodup_append.mp whole).1
  root := by
    intro nonempty
    obtain ⟨first, only⟩ := linear.root (by simp)
    rw [List.filter_append] at only
    -- The first entry of the log is the one without a predecessor, and it is not the new one.
    cases found : entries.filter fun entry => (c.previous entry).isNone with
    | cons head rest =>
      rw [found] at only
      simp only [List.cons_append, List.cons.injEq, List.append_eq_nil_iff] at only
      exact ⟨head, by rw [only.2.1]⟩
    | nil =>
      exfalso
      obtain ⟨lastIndex, atLast⟩ : ∃ i, entries.length = i + 1 :=
        Nat.exists_eq_succ_of_ne_zero (by simpa using nonempty)
      have link := linear.follows lastIndex entry (by simp [← atLast])
      rw [List.getElem?_append_left (by omega), List.getElem?_eq_getElem (by omega)] at link
      rw [found] at only
      simp [link] at only

section
variable (linear : c.Linear entries) (separated : c.Separated entries)
include linear separated

/-- The hashes of a chain do not repeat. -/
theorem Linear.hash_inj {i j : Nat} {a b : ε} (atA : entries[i]? = some a) (atB : entries[j]? = some b)
    (same : c.hash a = c.hash b) : i = j := by
  have previous := separated a (List.mem_of_getElem? atA) b (List.mem_of_getElem? atB) same
  have boundA := (List.getElem?_eq_some_iff.mp atA).1
  refine (List.getElem?_inj (by simpa using boundA) linear.apart).mp ?_
  rw [List.getElem?_map, List.getElem?_map, atA, atB, Option.map_some, Option.map_some, previous]

theorem Linear.hashes_nodup :
    (entries.map c.hash).Nodup := by
  refine List.pairwise_map.mpr (List.pairwise_iff_getElem.mpr fun i j boundI boundJ before same => ?_)
  have index := linear.hash_inj separated (List.getElem?_eq_getElem boundI) (List.getElem?_eq_getElem boundJ) same
  omega

/-- An entry that names the last one continues the chain. -/
theorem Linear.append (link : c.previous entry = entries.getLast?.map c.hash) : c.Linear (entries ++ [entry]) where
  follows := by
    intro i next found
    have bound := (List.getElem?_eq_some_iff.mp found).1
    simp only [List.length_append, List.length_singleton] at bound
    rw [List.getElem?_append_left (by omega)]
    by_cases old : i + 1 < entries.length
    · rw [List.getElem?_append_left old] at found
      exact linear.follows i next found
    · have atEnd : i + 1 = entries.length := by omega
      rw [atEnd, List.getElem?_concat_length, Option.some.injEq] at found
      rw [← found, link, List.getLast?_eq_getElem?]
      congr 2
      omega
  apart := by
    rw [List.map_append, List.nodup_append]
    refine ⟨linear.apart, by simp, fun p inOld q isNew => ?_⟩
    obtain ⟨old, member, rfl⟩ := List.mem_map.mp inOld
    simp only [List.map_cons, List.map_nil, List.mem_singleton] at isNew
    subst isNew
    intro same
    obtain ⟨i, atOld⟩ := List.mem_iff_getElem?.mp member
    have boundOld := (List.getElem?_eq_some_iff.mp atOld).1
    have atLast : entries[entries.length - 1]? = some entries[entries.length - 1] :=
      List.getElem?_eq_getElem (by omega)
    rw [link, List.getLast?_eq_getElem?, atLast, Option.map_some] at same
    -- The old entry would have the last one as its predecessor, although it was there before it.
    cases i with
    | zero =>
      obtain ⟨first, only⟩ := linear.root (List.ne_nil_of_mem member)
      have isFirst : first ∈ entries.filter fun entry => (c.previous entry).isNone := by simp [only]
      obtain ⟨inEntries, isRoot⟩ := List.mem_filter.mp isFirst
      obtain ⟨j, atFirst⟩ := List.mem_iff_getElem?.mp inEntries
      cases j with
      | zero =>
        rw [atOld] at atFirst
        cases atFirst
        simp [same] at isRoot
      | succ j =>
        have named := linear.follows j first atFirst
        have boundFirst := (List.getElem?_eq_some_iff.mp atFirst).1
        rw [List.getElem?_eq_getElem (by omega)] at named
        simp [named] at isRoot
    | succ i =>
      have named := linear.follows i old atOld
      have atBefore : entries[i]? = some entries[i] := List.getElem?_eq_getElem (by omega)
      rw [atBefore, same, Option.map_some, Option.some.injEq] at named
      have index := linear.hash_inj separated atLast atBefore named
      omega
  root := by
    intro _
    rw [List.filter_append]
    cases last : entries.getLast? with
    | none =>
      rw [List.getLast?_eq_none_iff.mp last] at link ⊢
      exact ⟨entry, by simp [link]⟩
    | some newest =>
      have nonempty : entries ≠ [] := List.ne_nil_of_mem (List.mem_of_getLast? last)
      obtain ⟨first, only⟩ := linear.root nonempty
      exact ⟨first, by simp [only, link, last]⟩

end

theorem Separated.init (separated : c.Separated (entries ++ [entry])) : c.Separated entries :=
  fun a inA b inB => separated a (List.mem_append_left _ inA) b (List.mem_append_left _ inB)

variable [LinearOrder κ]

variable (c) in
/-- A log in which every entry names the newest, by key, of those before it. -/
inductive Grown : List ε → Prop
  | start : Grown []
  | next {entries : List ε} {entry : ε} : Grown entries →
      c.previous entry = (entries.argmax c.key).map c.hash → Grown (entries ++ [entry])

variable (c) in
/-- Every entry is newer than all before it. -/
def Ascending (entries : List ε) : Prop := entries.Pairwise fun a b => c.key a < c.key b

theorem Grown.inv (grown : c.Grown (entries ++ [entry])) :
    c.Grown entries ∧ c.previous entry = (entries.argmax c.key).map c.hash := by
  generalize whole : entries ++ [entry] = log at grown
  cases grown with
  | start => simp at whole
  | next before link =>
    obtain ⟨rfl, rfl⟩ := List.concat_inj.mp (by simpa using whole)
    exact ⟨before, link⟩

/-- What an entry names is the hash of an entry of the log. -/
theorem Grown.named {h : η} (grown : c.Grown entries) (member : entry ∈ entries) (names : c.previous entry = some h) :
    ∃ other ∈ entries, c.hash other = h := by
  induction grown with
  | start => exact absurd member List.not_mem_nil
  | @next entries newest _ link ih =>
    rcases List.mem_append.mp member with old | new
    · obtain ⟨other, inOld, same⟩ := ih old
      exact ⟨other, List.mem_append_left _ inOld, same⟩
    · cases List.mem_singleton.mp new
      rw [link] at names
      obtain ⟨other, found, same⟩ := Option.map_eq_some_iff.mp names
      exact ⟨other, List.mem_append_left _ (List.argmax_mem found), same⟩

theorem Ascending.init (ascending : c.Ascending (entries ++ [entry])) : c.Ascending entries :=
  (List.pairwise_append.mp ascending).1

theorem Ascending.dropLast (ascending : c.Ascending entries) : c.Ascending entries.dropLast :=
  List.Pairwise.sublist (List.dropLast_sublist entries) ascending

/-- In an ascending log the newest entry is the last one. -/
theorem Ascending.argmax_eq (ascending : c.Ascending entries) : entries.argmax c.key = entries.getLast? := by
  cases entries using List.reverseRecOn with
  | nil => rfl
  | append_singleton init last =>
    have top : ∀ other ∈ init, c.key other < c.key last := fun other member =>
      (List.pairwise_append.mp ascending).2.2 other member last (by simp)
    rw [List.argmax_concat, List.getLast?_concat]
    cases found : init.argmax c.key with
    | none => rfl
    | some winner => exact if_pos (top winner (List.argmax_mem found))

/-- An entry that is not the newest one, after an ascending log, leaves the one before it the newest. -/
theorem Ascending.argmax_concat_older (ascending : c.Ascending entries) (before : entries.getLast? = some last)
    (older : ¬c.key last < c.key entry) : (entries ++ [entry]).argmax c.key = some last := by
  rw [List.argmax_concat, ascending.argmax_eq, before]
  exact if_neg older

/-- A log that ascends up to its last but one entry is one chain. -/
theorem Grown.linear (grown : c.Grown entries) (separated : c.Separated entries)
    (ascending : c.Ascending entries.dropLast) : c.Linear entries := by
  induction grown with
  | start => exact ⟨fun i entry found => by simp at found, by simp, fun nonempty => absurd rfl nonempty⟩
  | @next entries entry _ link ih =>
    rw [List.dropLast_concat] at ascending
    have chain := ih separated.init ascending.dropLast
    exact chain.append separated.init (by rw [link, ascending.argmax_eq])

/-- A log that is one chain ascends up to its last but one entry. -/
theorem Grown.ascending (grown : c.Grown entries) (distinct : (entries.map c.key).Nodup) (linear : c.Linear entries) :
    c.Ascending entries.dropLast := by
  induction grown with
  | start => exact List.Pairwise.nil
  | @next entries entry before link ih =>
    rw [List.map_append] at distinct
    rw [List.dropLast_concat]
    have earlier := ih (List.nodup_append.mp distinct).1 linear.init
    cases entries using List.reverseRecOn with
    | nil => exact List.Pairwise.nil
    | append_singleton init last =>
      rw [List.dropLast_concat] at earlier
      have lastLink := before.inv.2
      rw [earlier.argmax_eq] at lastLink
      cases found : init.getLast? with
      | none => simp [Ascending, List.getLast?_eq_none_iff.mp found]
      | some second =>
        -- Otherwise the entry before the last is still the newest, and two entries name it.
        by_cases newer : c.key second < c.key last
        · refine List.pairwise_append.mpr ⟨earlier, List.pairwise_singleton _ _, fun other member final isLast => ?_⟩
          cases List.mem_singleton.mp isLast
          have least := List.le_of_mem_argmax member (earlier.argmax_eq.trans found)
          exact lt_of_le_of_lt least newer
        · rw [earlier.argmax_concat_older found newer] at link
          rw [found] at lastLink
          have repeated := linear.apart
          rw [List.map_append, List.map_append] at repeated
          have different := (List.nodup_append.mp repeated).2.2 (c.previous last) (by simp) (c.previous entry) (by simp)
          exact absurd (lastLink.trans link.symm) different

/-- Linking to the newest entry gives one chain exactly if every entry but
the last was the newest when it was appended. -/
theorem Grown.linear_iff (grown : c.Grown entries) (distinct : (entries.map c.key).Nodup)
    (separated : c.Separated entries) : c.Linear entries ↔ c.Ascending entries.dropLast :=
  ⟨grown.ascending distinct, grown.linear separated⟩

variable (c) in
/-- The newest of the entries that are older than the given one. -/
def older (entries : List ε) (entry : ε) : Option ε :=
  (entries.filter fun other => c.key other < c.key entry).argmax c.key

/-- An entry that is not older does not count. -/
theorem older_concat {other : ε} (later : ¬c.key entry < c.key other) :
    c.older (entries ++ [entry]) other = c.older entries other := by
  unfold older
  rw [List.filter_append, List.filter_cons_of_neg (by simpa using later), List.filter_nil, List.append_nil]

/-- In a log of entries that came in order, each names the newest of the
older ones exactly when no two came at once. -/
theorem Grown.older_iff (grown : c.Grown entries) (ordered : entries.Pairwise fun a b => c.key a ≤ c.key b)
    (separated : c.Separated entries) :
    (∀ entry ∈ entries, c.previous entry = (c.older entries entry).map c.hash) ↔ c.Ascending entries := by
  induction grown with
  | start => exact ⟨fun _ => .nil, fun _ entry member => absurd member List.not_mem_nil⟩
  | @next init entry before link ih =>
    obtain ⟨orderedInit, -, last⟩ := List.pairwise_append.mp ordered
    have notAfter : ∀ other ∈ init, c.key other ≤ c.key entry := fun other member => last other member entry (by simp)
    have same : ∀ other ∈ init, c.older (init ++ [entry]) other = c.older init other :=
      fun other member => older_concat (not_lt.mpr (notAfter other member))
    have shorter := ih orderedInit separated.init
    constructor
    · intro named
      have ascending : c.Ascending init := by
        refine shorter.mp fun other member => ?_
        rw [← same other member]
        exact named other (List.mem_append_left _ member)
      refine List.pairwise_append.mpr ⟨ascending, List.pairwise_singleton _ _, fun other member final isLast => ?_⟩
      cases List.mem_singleton.mp isLast
      cases newest : init.getLast? with
      | none => rw [List.getLast?_eq_none_iff.mp newest] at member; cases member
      | some top =>
        have topLink : c.previous entry = some (c.hash top) := by rw [link, ascending.argmax_eq, newest]; rfl
        have least := List.le_of_mem_argmax member (ascending.argmax_eq.trans newest)
        refine lt_of_le_of_lt least ((notAfter top (List.mem_of_getLast? newest)).lt_of_ne fun tie => ?_)
        -- The entry names the newest one, and the newest of the older ones is another.
        have own := named entry (by simp)
        rw [topLink, older_concat (lt_irrefl _)] at own
        obtain ⟨found, atFound, sameHash⟩ := Option.map_eq_some_iff.mp own.symm
        obtain ⟨inInit, earlier⟩ := List.mem_filter.mp (List.argmax_mem atFound)
        have linear := before.linear separated.init ascending.dropLast
        obtain ⟨i, atI⟩ := List.mem_iff_getElem?.mp inInit
        obtain ⟨j, atJ⟩ := List.mem_iff_getElem?.mp (List.mem_of_getLast? newest)
        obtain rfl := linear.hash_inj separated.init atI atJ sameHash
        obtain rfl : found = top := Option.some.inj (atI.symm.trans atJ)
        exact absurd (of_decide_eq_true earlier) (not_lt.mpr tie.ge)
    · intro ascending other member
      rcases List.mem_append.mp member with old | new
      · rw [same other old]
        exact shorter.mpr ascending.init other old
      · cases List.mem_singleton.mp new
        have all : ∀ other ∈ init, c.key other < c.key entry :=
          fun other member => (List.pairwise_append.mp ascending).2.2 other member entry (by simp)
        rw [older_concat (lt_irrefl _), older,
          List.filter_eq_self.mpr fun other member => by simpa using all other member]
        exact link

end LatestLink

end SacmRuntime
