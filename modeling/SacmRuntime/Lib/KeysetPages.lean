import Mathlib.Data.List.Sort

namespace SacmRuntime

namespace KeysetPages
variable {α κ : Type} [LinearOrder κ] {key : α → κ} {items later newest : List α} {limit : Nat}

/-- The items with the greatest keys first. Pages of a growing list are cut
from it, each addressed by the key of the last item of the page before. -/
def newestFirst (key : α → κ) (items : List α) : List α := items.insertionSort fun a b => key b ≤ key a

/-- Whether a cursor still has the item before it. -/
def within (key : α → κ) (before : Option κ) (item : α) : Bool :=
  match before with
  | none => true
  | some cursor => decide (key item < cursor)

/-- The first items of a page and the cursor of the next one: one item more
than the page holds is read, to see whether there is a next page. -/
def page (key : α → κ) (limit : Nat) (before : Option κ) (items : List α) : List α × Option κ :=
  let fetched := (newestFirst key (items.filter (within key before))).take (limit + 1)
  let page := fetched.take limit
  (page.reverse, if limit < fetched.length then page.getLast?.map key else none)

/-- The pages of a client that goes on until no next page is announced,
the list and the limit being those of the moment of each call. Nothing is
returned when the calls end first. -/
def fetchAll (key : α → κ) : Option κ → List (List α × Nat) → Option (List (List α))
  | _, [] => none
  | before, (items, limit) :: calls =>
    let (page, next) := page key limit before items
    match next with
    | none => some [page]
    | some cursor => (fetchAll key (some cursor) calls).map (page :: ·)

/-- The list has gained items, all of them with greater keys. -/
def Grown (key : α → κ) (items later : List α) : Prop :=
  ∃ added, later.Perm (items ++ added) ∧ ∀ old ∈ items, ∀ new ∈ added, key old < key new

theorem Grown.refl : Grown key items items := ⟨[], by simp, by simp⟩

theorem Grown.filter (grown : Grown key items later) (p : α → Bool) :
    Grown key (items.filter p) (later.filter p) := by
  obtain ⟨added, same, above⟩ := grown
  refine ⟨added.filter p, ?_, ?_⟩
  · rw [← List.filter_append]
    exact same.filter p
  · intro old atOld new atNew
    exact above old (List.mem_of_mem_filter atOld) new (List.mem_of_mem_filter atNew)

theorem Grown.trans {last : List α} (first : Grown key items later) (second : Grown key later last) :
    Grown key items last := by
  obtain ⟨added, same, above⟩ := first
  obtain ⟨more, sameMore, aboveMore⟩ := second
  refine ⟨added ++ more, ?_, ?_⟩
  · rw [← List.append_assoc]
    exact sameMore.trans (same.append_right more)
  · intro old atOld new atNew
    rcases List.mem_append.mp atNew with early | late
    · exact above old atOld new early
    · exact aboveMore old (same.mem_iff.mpr (List.mem_append_left _ atOld)) new late

theorem newestFirst_perm (key : α → κ) (items : List α) : (newestFirst key items).Perm items :=
    List.perm_insertionSort _ _

/-- Without repeated keys the order is strict. -/
theorem newestFirst_strict (distinct : (items.map key).Nodup) :
    (newestFirst key items).Pairwise fun a b => key b < key a := by
  have sorted : (newestFirst key items).Pairwise fun a b => key b ≤ key a :=
    List.pairwise_insertionSort _ _
  have apart : ((newestFirst key items).map key).Nodup := ((newestFirst_perm key items).map key).nodup_iff.mpr distinct
  have different : (newestFirst key items).Pairwise fun a b => key a ≠ key b := List.pairwise_map.mp apart
  exact sorted.imp₂ (fun a b least differ => lt_of_le_of_ne least differ.symm) different

/-- Only one strictly descending list has the given items. -/
theorem newestFirst_eq (distinct : (items.map key).Nodup) (same : newest.Perm items)
    (descending : newest.Pairwise fun a b => key b < key a) : newestFirst key items = newest := by
  refine ((newestFirst_perm key items).trans same.symm).eq_of_pairwise ?_ (newestFirst_strict distinct) descending
  intro a b _ _ below above
  exact absurd (lt_trans below above) (lt_irrefl _)

/-- Below a key, the later list sorts to the same items as the earlier one. -/
theorem newestFirst_later (grown : Grown key items later) (distinct : (items.map key).Nodup)
    (distinctLater : (later.map key).Nodup) {cursor : α} (member : cursor ∈ items) :
    newestFirst key (later.filter (within key (some (key cursor)))) =
      (newestFirst key items).filter (within key (some (key cursor))) := by
  obtain ⟨added, same, above⟩ := grown
  refine newestFirst_eq ((List.filter_sublist.map key).nodup distinctLater) ?_
    ((newestFirst_strict distinct).filter _)
  have none_added : added.filter (within key (some (key cursor))) = [] := by
    refine List.filter_eq_nil_iff.mpr fun new atNew => ?_
    have bound := above cursor member new atNew
    simpa [within] using le_of_lt bound
  have cut : (later.filter (within key (some (key cursor)))).Perm
      (items.filter (within key (some (key cursor)))) := by
    have both := same.filter (within key (some (key cursor)))
    rwa [List.filter_append, none_added, List.append_nil] at both
  exact ((newestFirst_perm key items).filter _).trans cut.symm

/-- In a descending list the items below one are those after it. -/
theorem filter_below {ahead behind : List α} {cursor : α}
    (descending : (ahead ++ cursor :: behind).Pairwise fun a b => key b < key a) :
    (ahead ++ cursor :: behind).filter (within key (some (key cursor))) = behind := by
  obtain ⟨_, below, above⟩ := List.pairwise_append.mp descending
  have none_ahead : ahead.filter (within key (some (key cursor))) = [] := by
    refine List.filter_eq_nil_iff.mpr fun item atItem => ?_
    have bound := above item atItem cursor List.mem_cons_self
    simpa [within] using le_of_lt bound
  have all_behind : behind.filter (within key (some (key cursor))) = behind := by
    refine List.filter_eq_self.mpr fun item atItem => ?_
    simpa [within] using (List.pairwise_cons.mp below).1 item atItem
  rw [List.filter_append, none_ahead, List.filter_cons, all_behind]
  simp [within]

/-- What a page holds, in terms of the items that are left. -/
theorem page_eq (limit : Nat) {before : Option κ} {left : List α}
    (rest : newestFirst key (items.filter (within key before)) = left) :
    page key limit before items =
      ((left.take limit).reverse, if limit < left.length then (left.take limit).getLast?.map key else none) := by
  unfold page
  simp only [rest, List.take_take, List.length_take]
  have least : min limit (limit + 1) = limit := by omega
  rw [least]
  by_cases more : limit < left.length
  · rw [if_pos more, if_pos (by omega)]
  · rw [if_neg more, if_neg (by omega)]

/-- The calls that follow a page return the items below it, in order. -/
theorem fetchAll_left {calls : List (List α × Nat)} {before : Option κ} {done left : List α}
    (distinct : (items.map key).Nodup) (sorted : newestFirst key items = done ++ left)
    (cursor : ∀ item, done.getLast? = some item → before = some (key item))
    (first : done = [] → before = none ∧ ∀ call, calls.head? = some call → call.1 = items)
    (limits : ∀ call ∈ calls, 1 ≤ call.2)
    (logs : ∀ call ∈ calls, Grown key items call.1 ∧ (call.1.map key).Nodup) :
    (left.length < calls.length → (fetchAll key before calls).isSome) ∧
    ∀ pages, fetchAll key before calls = some pages → pages.reverse.flatten = left.reverse := by
  induction calls generalizing before done left with
  | nil => exact ⟨fun short => absurd short (by simp), fun pages none => by simp [fetchAll] at none⟩
  | cons call calls ih =>
    obtain ⟨log, limit⟩ := call
    obtain ⟨grown, distinctLog⟩ := logs (log, limit) List.mem_cons_self
    have positive : 1 ≤ limit := limits (log, limit) List.mem_cons_self
    have descending : (done ++ left).Pairwise fun a b => key b < key a := sorted ▸ newestFirst_strict distinct
    have rest : newestFirst key (log.filter (within key before)) = left := by
      cases ended : done.getLast? with
      | none =>
        have nothing : done = [] := List.getLast?_eq_none_iff.mp ended
        obtain ⟨start, same⟩ := first nothing
        have atStart : log = items := same (log, limit) rfl
        subst nothing start atStart
        have everything : log.filter (within key none) = log := List.filter_eq_self.mpr fun _ _ => rfl
        rw [everything, sorted, List.nil_append]
      | some item =>
        obtain ⟨ahead, split⟩ := List.getLast?_eq_some_iff.mp ended
        rw [cursor item ended]
        have member : item ∈ items := by
          refine (newestFirst_perm key items).mem_iff.mp ?_
          rw [sorted, split]
          simp
        rw [newestFirst_later grown distinct distinctLog member, sorted, split, List.append_assoc,
          List.singleton_append]
        rw [split, List.append_assoc, List.singleton_append] at descending
        exact filter_below descending
    have shown := page_eq limit rest
    by_cases more : limit < left.length
    · rw [if_pos more] at shown
      have taken : left.take limit ≠ [] := by
        intro empty
        have length := congrArg List.length empty
        simp only [List.length_take, List.length_nil] at length
        omega
      obtain ⟨last, atLast⟩ : ∃ last, (left.take limit).getLast? = some last :=
        ⟨_, List.getLast?_eq_some_getLast taken⟩
      rw [atLast, Option.map_some] at shown
      have next := @ih (some (key last)) (done ++ left.take limit) (left.drop limit)
        (by rw [sorted, List.append_assoc, List.take_append_drop])
        (by
          intro item atItem
          rw [List.getLast?_append_of_ne_nil _ taken, atLast] at atItem
          cases atItem
          rfl)
        (fun nothing => absurd (List.append_eq_nil_iff.mp nothing).2 taken)
        (fun call member => limits call (List.mem_cons_of_mem _ member))
        (fun call member => logs call (List.mem_cons_of_mem _ member))
      have step : fetchAll key before ((log, limit) :: calls) =
          (fetchAll key (some (key last)) calls).map ((left.take limit).reverse :: ·) := by
        simp only [fetchAll, shown]
      refine ⟨fun short => ?_, fun pages fetched => ?_⟩
      · rw [step, Option.isSome_map]
        refine next.1 ?_
        simp only [List.length_drop, List.length_cons] at short ⊢
        omega
      · rw [step] at fetched
        obtain ⟨others, fetchedOthers, rfl⟩ := Option.map_eq_some_iff.mp fetched
        rw [List.reverse_cons, List.flatten_append, next.2 others fetchedOthers, List.flatten_singleton,
          ← List.reverse_append, List.take_append_drop]
    · rw [if_neg more] at shown
      have step : fetchAll key before ((log, limit) :: calls) = some [(left.take limit).reverse] := by
        simp only [fetchAll, shown]
      refine ⟨fun _ => by rw [step]; rfl, fun pages fetched => ?_⟩
      rw [step] at fetched
      cases fetched
      rw [List.take_of_length_le (Nat.not_lt.mp more)]
      simp

/-- The client's pages, the last one first, are the items of its first call
in the order of their keys, whatever was added meanwhile; and enough calls
reach the last page. -/
theorem fetchAll_tiles {limit : Nat} (calls : List (List α × Nat)) (distinct : (items.map key).Nodup)
    (positive : 1 ≤ limit) (limits : ∀ call ∈ calls, 1 ≤ call.2)
    (logs : ∀ call ∈ calls, Grown key items call.1 ∧ (call.1.map key).Nodup) :
    (items.length ≤ calls.length → (fetchAll key none ((items, limit) :: calls)).isSome) ∧
    ∀ pages, fetchAll key none ((items, limit) :: calls) = some pages →
      pages.reverse.flatten = (newestFirst key items).reverse := by
  have all := @fetchAll_left _ _ _ key items ((items, limit) :: calls) none [] (newestFirst key items) distinct rfl
    (by simp) (fun _ => ⟨rfl, by simp⟩)
    (by simpa using ⟨positive, fun a b member => limits (a, b) member⟩)
    (by
      intro call member
      rcases List.mem_cons.mp member with rfl | old
      · exact ⟨.refl, distinct⟩
      · exact logs call old)
  refine ⟨fun enough => all.1 ?_, all.2⟩
  rw [(newestFirst_perm key items).length_eq]
  simpa using Nat.lt_succ_of_le enough

end KeysetPages

end SacmRuntime
