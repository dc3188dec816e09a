import Mathlib.Combinatorics.SimpleGraph.Metric

namespace SacmRuntime

/-- There is a walk of the given length from a seed. -/
inductive Walk {α : Type} (next : α → List α) (seeds : List α) : Nat → α → Prop
  | seed {a : α} (member : a ∈ seeds) : Walk next seeds 0 a
  | step {n : Nat} {a b : α} (before : Walk next seeds n a) (edge : b ∈ next a) : Walk next seeds (n + 1) b

/-- The length of the shortest walk from a seed. -/
def AtDistance {α : Type} (next : α → List α) (seeds : List α) (a : α) (n : Nat) : Prop :=
  Walk next seeds n a ∧ ∀ m, Walk next seeds m a → n ≤ m

/-- The neighbours are those of an undirected graph; one may be its own neighbour. -/
def Undirected {α : Type} (next : α → List α) (G : SimpleGraph α) : Prop :=
  ∀ a b, a ≠ b → (b ∈ next a ↔ G.Adj a b)

section Distance
variable {α : Type} {next : α → List α} {seeds : List α} {G : SimpleGraph α} {a b : α} {n : Nat}

theorem Walk.graph (undirected : Undirected next G) (walk : Walk next seeds n a) :
    ∃ s ∈ seeds, ∃ path : G.Walk s a, path.length ≤ n := by
  induction walk with
  | seed member => exact ⟨_, member, .nil, Nat.le_refl 0⟩
  | @step n a b walk edge ih =>
    obtain ⟨s, member, path, bound⟩ := ih
    by_cases same : a = b
    · subst same
      exact ⟨s, member, path, Nat.le_succ_of_le bound⟩
    · refine ⟨s, member, path.concat ((undirected a b same).mp edge), ?_⟩
      rw [SimpleGraph.Walk.length_concat]
      omega

theorem Walk.extend (undirected : Undirected next G) (walk : Walk next seeds n a) (path : G.Walk a b) :
    Walk next seeds (n + path.length) b := by
  induction path generalizing n with
  | nil => exact walk
  | cons edge rest ih =>
    have longer := ih (walk.step ((undirected _ _ edge.ne).mpr edge))
    have length : n + (rest.length + 1) = n + 1 + rest.length := by omega
    rw [SimpleGraph.Walk.length_cons, length]
    exact longer

theorem edist_le_iff : G.edist a b ≤ n ↔ ∃ path : G.Walk a b, path.length ≤ n := by
  constructor
  · intro bound
    have reachable : G.Reachable a b := by
      refine SimpleGraph.reachable_of_edist_ne_top fun infinite => ?_
      rw [infinite] at bound
      exact absurd (top_le_iff.mp bound) (ENat.natCast_ne_top n)
    obtain ⟨path, shortest⟩ := reachable.exists_walk_length_eq_edist
    rw [← shortest] at bound
    exact ⟨path, ENat.natCast_le_natCast.mp bound⟩
  · rintro ⟨path, bound⟩
    exact (SimpleGraph.edist_le path).trans (ENat.natCast_le_natCast.mpr bound)

/-- Walks of a bounded length reach what is within the bound. -/
theorem walk_within_iff (undirected : Undirected next G) :
    (∃ m ≤ n, Walk next seeds m a) ↔ ∃ s ∈ seeds, G.edist s a ≤ n := by
  constructor
  · rintro ⟨m, bound, walk⟩
    obtain ⟨s, member, path, short⟩ := walk.graph undirected
    exact ⟨s, member, edist_le_iff.mpr ⟨path, short.trans bound⟩⟩
  · rintro ⟨s, member, near⟩
    obtain ⟨path, bound⟩ := edist_le_iff.mp near
    refine ⟨path.length, bound, ?_⟩
    have walk : Walk next seeds (0 + path.length) a := (Walk.seed member).extend undirected path
    rwa [Nat.zero_add] at walk

/-- The least distance from a seed. -/
def Nearest (G : SimpleGraph α) (seeds : List α) (a : α) (n : Nat) : Prop :=
  (∃ s ∈ seeds, G.edist s a = n) ∧ ∀ s ∈ seeds, n ≤ G.edist s a

theorem AtDistance.nearest (undirected : Undirected next G) (distance : AtDistance next seeds a n) :
    Nearest G seeds a n := by
  have least : ∀ s ∈ seeds, n ≤ G.edist s a := by
    intro s member
    by_contra shorter
    obtain ⟨m, exact_⟩ := ENat.ne_top_iff_exists.mp (ne_top_of_lt (not_le.mp shorter))
    have bound : G.edist s a ≤ m := exact_.symm.le
    obtain ⟨k, short, walk⟩ := (walk_within_iff undirected).mpr ⟨s, member, bound⟩
    have least := distance.2 k walk
    rw [← exact_, not_le, ENat.natCast_lt_natCast] at shorter
    omega
  obtain ⟨s, member, near⟩ := (walk_within_iff undirected).mp ⟨n, Nat.le_refl n, distance.1⟩
  exact ⟨⟨s, member, le_antisymm near (least s member)⟩, least⟩

end Distance

/-- A breadth-first search: what waits, and what was found, both with the
distance, and what was visited, all in their order. -/
structure BreadthFirst (α : Type) where
  queue : List (α × Nat)
  found : List (α × Nat)
  visited : List α

namespace BreadthFirst
variable {α : Type}

def start (seeds : List α) : BreadthFirst α :=
  ⟨seeds.map fun a => (a, 0), seeds.map fun a => (a, 0), []⟩

/-- A neighbour that was not found before is found and waits. -/
def discover [DecidableEq α] (distance : Nat) (s : BreadthFirst α) (a : α) : BreadthFirst α :=
  if a ∈ s.found.map Prod.fst then s
  else { s with found := s.found ++ [(a, distance)], queue := s.queue ++ [(a, distance)] }

/-- Visit the first of the queue; its neighbours are looked at below the limit. -/
def visit [DecidableEq α] (next : α → List α) (limit : Nat) (s : BreadthFirst α) : BreadthFirst α :=
  match s.queue with
  | [] => s
  | (a, distance) :: rest =>
    let popped := { s with queue := rest, visited := s.visited ++ [a] }
    if limit ≤ distance then popped else (next a).foldl (discover (distance + 1)) popped

/-- Visit until nothing waits or enough is visited. -/
def run [DecidableEq α] (next : α → List α) (limit : Nat) (enough : List α → Bool) :
    Nat → BreadthFirst α → BreadthFirst α
  | 0, s => s
  | fuel + 1, s => if s.queue.isEmpty || enough s.visited then s else run next limit enough fuel (visit next limit s)

/-- What a search knows while it looks at the neighbours of a visited one. -/
structure Finding (next : α → List α) (seeds : List α) (limit distance : Nat) (done : List (α × Nat))
    (s : BreadthFirst α) :
    Prop where
  found : s.found = done ++ s.queue
  once : (s.found.map Prod.fst).Nodup
  sorted : s.found.Pairwise fun x y => x.2 ≤ y.2
  top : ∀ x ∈ s.found, x.2 ≤ distance
  walks : ∀ x ∈ s.found, Walk next seeds x.2 x.1
  within : ∀ x ∈ s.found, x.2 ≤ limit
  begun : ∀ a ∈ seeds, (a, 0) ∈ s.found

/-- What a search knows between two visits. -/
structure Sound (next : α → List α) (seeds : List α) (limit : Nat) (done : List (α × Nat)) (s : BreadthFirst α) :
    Prop where
  found : s.found = done ++ s.queue
  visited : s.visited = done.map Prod.fst
  once : (s.found.map Prod.fst).Nodup
  sorted : s.found.Pairwise fun x y => x.2 ≤ y.2
  near : ∀ x ∈ s.found, ∀ y ∈ s.queue.head?, x.2 ≤ y.2 + 1
  walks : ∀ x ∈ s.found, Walk next seeds x.2 x.1
  within : ∀ x ∈ s.found, x.2 ≤ limit
  begun : ∀ a ∈ seeds, (a, 0) ∈ s.found
  closed : ∀ x ∈ done, x.2 < limit → ∀ b ∈ next x.1, ∃ n ≤ x.2 + 1, (b, n) ∈ s.found

section
variable {next : α → List α} {seeds : List α} {limit distance : Nat} {done : List (α × Nat)} {s : BreadthFirst α}

theorem sound_start (distinct : seeds.Nodup) : Sound next seeds limit [] (start seeds) where
  found := rfl
  visited := rfl
  once := by
    have keys : (seeds.map fun a => (a, 0)).map Prod.fst = seeds := by simp [Function.comp_def]
    change ((seeds.map fun a => (a, 0)).map Prod.fst).Nodup
    rw [keys]
    exact distinct
  sorted := by
    exact List.pairwise_map.mpr (List.pairwise_of_forall fun _ _ => Nat.le_refl 0)
  near x member y _ := by
    obtain ⟨a, -, rfl⟩ := List.mem_map.mp member
    exact Nat.zero_le _
  walks x member := by
    obtain ⟨a, inSeeds, rfl⟩ := List.mem_map.mp member
    exact .seed inSeeds
  within x member := by
    obtain ⟨a, -, rfl⟩ := List.mem_map.mp member
    exact Nat.zero_le _
  begun a member := List.mem_map_of_mem member
  closed x member := nomatch member

variable {a : α} {fuel most n : Nat}

section
variable (sound : Sound next seeds limit done s)
include sound

/-- What is nearer than the queue has been found, no further than it is. -/
theorem Sound.nearer (walk : Walk next seeds n a) (inside : n ≤ limit) (before : ∀ y ∈ s.queue.head?, n ≤ y.2) :
    ∃ m ≤ n, (a, m) ∈ s.found := by
  induction walk with
  | seed member => exact ⟨0, Nat.le_refl 0, sound.begun _ member⟩
  | @step n a b walk edge ih =>
    obtain ⟨m, bound, inFound⟩ := ih (by omega) fun y head => by
      have later := before y head
      omega
    have isDone : (a, m) ∈ done := by
      rw [sound.found] at inFound
      rcases List.mem_append.mp inFound with isDone | waits
      · exact isDone
      · cases queue : s.queue with
        | nil =>
          rw [queue] at waits
          cases waits
        | cons first rest =>
          have later := before first (by rw [queue]; rfl)
          have lowest : first.2 ≤ m := by
            have sorted := sound.sorted
            rw [sound.found, queue] at sorted
            rw [queue] at waits
            rcases List.mem_cons.mp waits with same | inRest
            · exact Nat.le_of_eq (congrArg Prod.snd same).symm
            · exact (List.pairwise_cons.mp (List.pairwise_append.mp sorted).2.1).1 _ inRest
          omega
    obtain ⟨k, upper, found⟩ := sound.closed (a, m) isDone (by change m < limit; omega) b edge
    exact ⟨k, by change k ≤ m + 1 at upper; omega, found⟩

theorem Sound.same_distance {m : Nat} (first : (a, m) ∈ s.found) (second : (a, n) ∈ s.found) : m = n := by
  have same : ((a, m) : α × Nat) = (a, n) := List.inj_on_of_nodup_map sound.once first second rfl
  exact congrArg Prod.snd same

/-- Every recorded distance is the shortest. -/
theorem Sound.exact (inFound : (a, n) ∈ s.found) :
    AtDistance next seeds a n := by
  refine ⟨sound.walks _ inFound, fun m walk => ?_⟩
  by_contra shorter
  have inside : n ≤ limit := sound.within _ inFound
  obtain ⟨k, bound, also⟩ := sound.nearer walk (by omega) fun y head => by
    have close := sound.near _ inFound y head
    change n ≤ y.2 + 1 at close
    omega
  have same := sound.same_distance inFound also
  omega

theorem Sound.visited_nodup : s.visited.Nodup := by
  have once := sound.once
  rw [sound.found, List.map_append, ← sound.visited] at once
  exact (List.nodup_append.mp once).1

theorem Sound.mem_visited :
    a ∈ s.visited ↔ ∃ n, (a, n) ∈ done := by
  rw [sound.visited, List.mem_map]
  constructor
  · rintro ⟨x, member, rfl⟩
    exact ⟨x.2, member⟩
  · rintro ⟨n, member⟩
    exact ⟨(a, n), member, rfl⟩

/-- Nothing waits exactly if everything within the limit is visited. -/
theorem Sound.complete_iff :
    s.queue = [] ↔ ∀ a n, n ≤ limit → Walk next seeds n a → a ∈ s.visited := by
  constructor
  · intro empty a n inside walk
    obtain ⟨m, -, inFound⟩ := sound.nearer walk inside fun y head => by
      rw [empty] at head
      cases head
    rw [sound.found, empty, List.append_nil] at inFound
    exact sound.mem_visited.mpr ⟨m, inFound⟩
  · intro complete
    cases queue : s.queue with
    | nil => rfl
    | cons first rest =>
      have inFound : first ∈ s.found := by
        rw [sound.found, queue]
        exact List.mem_append_right _ List.mem_cons_self
      have visited := complete first.1 first.2 (sound.within _ inFound) (sound.walks _ inFound)
      have once := sound.once
      rw [sound.found, queue, List.map_append, ← sound.visited] at once
      exact absurd rfl ((List.nodup_append.mp once).2.2 _ visited _ List.mem_cons_self)

/-- What is visited are the first of what was found. -/
theorem Sound.visited_sorted :
    ∃ distances : List Nat, s.visited.zip distances = done ∧ distances.Pairwise (· ≤ ·) ∧
      distances.length = s.visited.length := by
  refine ⟨done.map Prod.snd, ?_, ?_, ?_⟩
  · rw [sound.visited]
    exact (List.zip_of_prod rfl rfl).symm
  · have sorted := sound.sorted
    rw [sound.found] at sorted
    exact List.pairwise_map.mpr (List.pairwise_append.mp sorted).1
  · rw [sound.visited, List.length_map, List.length_map]

end

variable [DecidableEq α]

theorem discover_keeps (finding : Finding next seeds limit distance done s) (walk : Walk next seeds distance a)
    (inside : distance ≤ limit) : Finding next seeds limit distance done (discover distance s a) := by
  unfold discover
  split
  · exact finding
  · rename_i fresh
    have old : ∀ {x : α × Nat}, x ∈ s.found ++ [(a, distance)] → x ∈ s.found ∨ x = (a, distance) := by
      intro x member
      rcases List.mem_append.mp member with before | last
      · exact .inl before
      · exact .inr (List.mem_singleton.mp last)
    refine ⟨?_, ?_, ?_, ?_, ?_, ?_, ?_⟩
    · change s.found ++ [(a, distance)] = done ++ (s.queue ++ [(a, distance)])
      rw [finding.found, List.append_assoc]
    · rw [List.map_append]
      refine List.nodup_append.mpr ⟨finding.once, List.nodup_singleton _, fun b inFound c last => ?_⟩
      cases List.mem_singleton.mp last
      intro same
      cases same
      exact fresh inFound
    · refine List.pairwise_append.mpr ⟨finding.sorted, List.pairwise_singleton _ _, fun x inFound y last => ?_⟩
      cases List.mem_singleton.mp last
      exact finding.top x inFound
    · intro x member
      rcases old member with before | rfl
      · exact finding.top x before
      · exact Nat.le_refl _
    · intro x member
      rcases old member with before | rfl
      · exact finding.walks x before
      · exact walk
    · intro x member
      rcases old member with before | rfl
      · exact finding.within x before
      · exact inside
    · exact fun b member => List.mem_append_left _ (finding.begun b member)

theorem discover_found (s : BreadthFirst α) (a : α) (top : ∀ x ∈ s.found, x.2 ≤ distance) :
    ∃ n ≤ distance, (a, n) ∈ (discover distance s a).found := by
  unfold discover
  split
  · rename_i known
    obtain ⟨x, member, rfl⟩ := List.mem_map.mp known
    exact ⟨x.2, top x member, member⟩
  · exact ⟨distance, Nat.le_refl _, List.mem_append_right _ List.mem_cons_self⟩

theorem discover_grows (s : BreadthFirst α) (a : α) : s.found <+: (discover distance s a).found := by
  unfold discover
  split
  · exact List.prefix_rfl
  · exact List.prefix_append _ _

@[simp] theorem discover_visited (s : BreadthFirst α) (a : α) : (discover distance s a).visited = s.visited := by
  unfold discover
  split <;> rfl

theorem discoverAll_grows (neighbours : List α) (s : BreadthFirst α) :
    s.found <+: (neighbours.foldl (discover distance) s).found := by
  induction neighbours generalizing s with
  | nil => exact List.prefix_rfl
  | cons b rest ih => exact (discover_grows s b).trans (ih (discover distance s b))

/-- The neighbours of a visited one are all found afterwards. -/
theorem discoverAll_keeps {neighbours : List α} (inside : distance ≤ limit)
    (walk : ∀ b ∈ neighbours, Walk next seeds distance b) (finding : Finding next seeds limit distance done s) :
    Finding next seeds limit distance done (neighbours.foldl (discover distance) s) ∧
      (neighbours.foldl (discover distance) s).visited = s.visited ∧
      ∀ b ∈ neighbours, ∃ n ≤ distance, (b, n) ∈ (neighbours.foldl (discover distance) s).found := by
  induction neighbours generalizing s with
  | nil => exact ⟨finding, rfl, fun b member => nomatch member⟩
  | cons b rest ih =>
    obtain ⟨kept, same, others⟩ := ih (fun c member => walk c (List.mem_cons_of_mem _ member))
      (discover_keeps finding (walk b List.mem_cons_self) inside)
    refine ⟨kept, same.trans (discover_visited s b), fun c member => ?_⟩
    rcases List.mem_cons.mp member with rfl | later
    · obtain ⟨n, bound, inFound⟩ := discover_found s c finding.top
      exact ⟨n, bound, (discoverAll_grows rest _).subset inFound⟩
    · exact others c later

/-- A visit keeps what a search knows, and one more is done. -/
theorem sound_visit {rest : List (α × Nat)} (sound : Sound next seeds limit done s)
    (queue : s.queue = (a, distance) :: rest) :
    Sound next seeds limit (done ++ [(a, distance)]) (visit next limit s) := by
  have split : s.found = (done ++ [(a, distance)]) ++ rest := by
    rw [sound.found, queue, List.append_assoc]
    rfl
  have here : (a, distance) ∈ s.found := by
    rw [split]
    exact List.mem_append_left _ (List.mem_append_right _ List.mem_cons_self)
  have top : ∀ x ∈ s.found, x.2 ≤ distance + 1 := fun x member => sound.near x member (a, distance) (by rw [queue]; rfl)
  have after : ∀ {t : List (α × Nat)} {tail : List (α × Nat)}, t = (done ++ [(a, distance)]) ++ tail →
      t.Pairwise (fun x y => x.2 ≤ y.2) → ∀ y ∈ tail.head?, distance ≤ y.2 := by
    intro t tail same sorted y head
    rw [same] at sorted
    have apart := (List.pairwise_append.mp sorted).2.2
    exact apart (a, distance) (List.mem_append_right _ List.mem_cons_self) y (List.mem_of_mem_head? head)
  have visitedNow : s.visited ++ [a] = (done ++ [(a, distance)]).map Prod.fst := by
    rw [sound.visited, List.map_append]
    rfl
  unfold visit
  rw [queue]
  dsimp only
  split
  · rename_i far
    refine ⟨split, visitedNow, sound.once, sound.sorted, fun x member y head => ?_, sound.walks, sound.within,
      sound.begun,
      fun x member below b edge => ?_⟩
    · have lower := after split sound.sorted y head
      have upper := top x member
      omega
    · rcases List.mem_append.mp member with before | last
      · exact sound.closed x before below b edge
      · cases List.mem_singleton.mp last
        omega
  · rename_i close
    have inside : distance + 1 ≤ limit := by omega
    have walk : ∀ b ∈ next a, Walk next seeds (distance + 1) b := fun b edge => (sound.walks _ here).step edge
    obtain ⟨kept, same, neighbours⟩ := discoverAll_keeps inside walk
      (s := { s with queue := rest, visited := s.visited ++ [a] })
      ⟨split, sound.once, sound.sorted, top, sound.walks, sound.within, sound.begun⟩
    refine ⟨kept.found, same.trans visitedNow, kept.once, kept.sorted, fun x member y head => ?_, kept.walks,
      kept.within,
      kept.begun, fun x member below b edge => ?_⟩
    · have lower := after kept.found kept.sorted y head
      have upper := kept.top x member
      omega
    · rcases List.mem_append.mp member with before | last
      · obtain ⟨n, bound, inFound⟩ := sound.closed x before below b edge
        exact ⟨n, bound, (discoverAll_grows (next a) _).subset inFound⟩
      · cases List.mem_singleton.mp last
        exact neighbours b edge

theorem visit_grows (next : α → List α) (limit : Nat) (s : BreadthFirst α) :
    s.found <+: (visit next limit s).found := by
  unfold visit
  cases s.queue with
  | nil => exact List.prefix_rfl
  | cons first rest =>
    dsimp only
    split
    · exact List.prefix_rfl
    · exact discoverAll_grows (next first.1) { s with queue := rest, visited := s.visited ++ [first.1] }

theorem visit_length (next : α → List α) (limit : Nat) (s : BreadthFirst α) :
    (visit next limit s).visited.length ≤ s.visited.length + 1 := by
  have discovers : ∀ (neighbours : List α) (distance : Nat) (t : BreadthFirst α),
      (neighbours.foldl (discover distance) t).visited = t.visited := by
    intro neighbours distance
    induction neighbours with
    | nil => exact fun t => rfl
    | cons b rest ih => exact fun t => (ih (discover distance t b)).trans (discover_visited t b)
  unfold visit
  cases s.queue with
  | nil => exact Nat.le_succ _
  | cons first rest =>
    dsimp only
    split
    · exact (List.length_append ..).le
    · rw [discovers]
      exact (List.length_append ..).le

/-- What is found stays found, in its place. -/
theorem run_grows (next : α → List α) (limit : Nat) (enough : List α → Bool) (fuel : Nat) (s : BreadthFirst α) :
    s.found <+: (run next limit enough fuel s).found := by
  induction fuel generalizing s with
  | zero => exact List.prefix_rfl
  | succ fuel ih =>
    unfold run
    split
    · exact List.prefix_rfl
    · exact (visit_grows next limit s).trans (ih _)

/-- With one visit for each that can be found, a search ends by itself. -/
theorem sound_run {all_ : List α} {enough : List α → Bool} (sound : Sound next seeds limit done s)
    (inside : ∀ a n, Walk next seeds n a → a ∈ all_) (fueled : all_.length ≤ fuel + done.length) :
    ∃ done, Sound next seeds limit done (run next limit enough fuel s) ∧
      ((run next limit enough fuel s).queue = [] ∨ enough (run next limit enough fuel s).visited = true) := by
  induction fuel generalizing done s with
  | zero =>
    refine ⟨done, sound, .inl ?_⟩
    have length : (s.found.map Prod.fst).length ≤ all_.length := by
      refine (sound.once.subperm fun a member => ?_).length_le
      obtain ⟨x, inFound, rfl⟩ := List.mem_map.mp member
      exact inside x.1 x.2 (sound.walks x inFound)
    rw [sound.found, List.length_map, List.length_append] at length
    exact List.eq_nil_of_length_eq_zero (by change s.queue.length = 0; omega)
  | succ fuel ih =>
    unfold run
    cases queue : s.queue with
    | nil => exact ⟨done, sound, .inl queue⟩
    | cons first rest =>
      cases full : enough s.visited with
      | true => exact ⟨done, sound, .inr full⟩
      | false =>
        refine ih (sound_visit sound queue) ?_
        rw [List.length_append, List.length_singleton]
        omega

/-- The search lists no more than it is asked for. -/
theorem run_bounded (bounded : s.visited.length ≤ most) :
    (run next limit (fun visited => decide (most ≤ visited.length)) fuel s).visited.length ≤ most := by
  induction fuel generalizing s with
  | zero => exact bounded
  | succ fuel ih =>
    unfold run
    split
    · exact bounded
    · rename_i goesOn
      refine ih ?_
      rw [Bool.or_eq_true, decide_eq_true_iff, not_or] at goesOn
      have length := visit_length next limit s
      omega

/-- A search in which every seed it visits leads to seeds only finds nothing else. -/
theorem run_settled {k : Nat} (closed : limit = 0 ∨ ∀ a ∈ seeds.take most, ∀ b ∈ next a, b ∈ seeds)
    (found : s.found = seeds.map fun a => (a, 0)) (queue : s.queue = (seeds.drop k).map fun a => (a, 0))
    (visited : s.visited = seeds.take k) :
    (run next limit (fun visited => decide (most ≤ visited.length)) fuel s).found = seeds.map fun a => (a, 0) := by
  induction fuel generalizing s k with
  | zero => exact found
  | succ fuel ih =>
    unfold run
    split
    · exact found
    · rename_i goesOn
      rw [Bool.or_eq_true, decide_eq_true_iff, not_or, queue, visited] at goesOn
      obtain ⟨waits, room⟩ := goesOn
      have inside : k < seeds.length := by
        by_contra past
        rw [List.drop_eq_nil_of_le (by omega)] at waits
        exact waits rfl
      have first : seeds.drop k = seeds[k] :: seeds.drop (k + 1) := List.drop_eq_getElem_cons inside
      have early : k < most := by
        rw [List.length_take] at room
        omega
      have popped : s.visited ++ [seeds[k]] = seeds.take (k + 1) := by
        rw [visited]
        exact (List.take_succ_eq_append_getElem inside).symm
      rw [first] at queue
      have known : ∀ b ∈ seeds, ∀ t : BreadthFirst α, t.found = s.found → discover (0 + 1) t b = t := by
        intro b member t same
        refine if_pos ?_
        rw [same, found, List.map_map]
        exact List.mem_map.mpr ⟨b, member, rfl⟩
      have still : ∀ neighbours : List α, (∀ b ∈ neighbours, b ∈ seeds) → ∀ t : BreadthFirst α, t.found = s.found →
          neighbours.foldl (discover (0 + 1)) t = t := by
        intro neighbours inSeeds
        induction neighbours with
        | nil => exact fun t _ => rfl
        | cons b rest still =>
          intro t same
          rw [List.foldl_cons, known b (inSeeds b List.mem_cons_self) t same]
          exact still (fun c member => inSeeds c (List.mem_cons_of_mem _ member)) t same
      have visits :
          visit next limit s =
            { s with queue := (seeds.drop (k + 1)).map fun a => (a, 0), visited := seeds.take (k + 1) } := by
        unfold visit
        rw [queue, List.map_cons]
        dsimp only
        rw [popped]
        rcases closed with none_ | closed
        · rw [if_pos (by omega)]
        · by_cases far : limit ≤ 0
          · rw [if_pos far]
          · rw [if_neg far]
            refine still (next seeds[k]) (fun b edge => closed seeds[k] ?_ b edge) _ rfl
            exact List.mem_take_iff_getElem.mpr ⟨k, by omega, rfl⟩
      rw [visits]
      exact ih found rfl rfl

end

end BreadthFirst

end SacmRuntime
