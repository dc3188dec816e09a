import Mathlib.Data.List.Basic

namespace SacmRuntime.Checked
variable {ε α β : Type}

/-- A chain of checks that succeeded: the first one did, and the rest on its value. -/
theorem bind_ok {first : Except ε α} {rest : α → Except ε β} {b : β} (ok : first >>= rest = .ok b) :
    ∃ a, first = .ok a ∧ rest a = .ok b := by
  cases first with
  | error e => cases ok
  | ok a => exact ⟨a, rfl, ok⟩

section
variable {check : α → Except ε β} {items : List α} {results : List β}

/-- Each result of a loop is that of one of its items. -/
theorem mapM_origin (ok : items.mapM check = .ok results) {b : β} (member : b ∈ results) :
    ∃ a ∈ items, check a = .ok b := by
  induction items generalizing results with
  | nil =>
    cases ok
    cases member
  | cons item rest ih =>
    rw [List.mapM_cons] at ok
    obtain ⟨first, atFirst, ok⟩ := bind_ok ok
    obtain ⟨later, atLater, ok⟩ := bind_ok ok
    cases ok
    rcases List.mem_cons.mp member with rfl | inLater
    · exact ⟨item, List.mem_cons_self, atFirst⟩
    · obtain ⟨a, inRest, found⟩ := ih atLater inLater
      exact ⟨a, List.mem_cons_of_mem _ inRest, found⟩

/-- Each item of a loop that succeeded has its result. -/
theorem mapM_result (ok : items.mapM check = .ok results) {a : α} (member : a ∈ items) :
    ∃ b ∈ results, check a = .ok b := by
  induction items generalizing results with
  | nil => cases member
  | cons item rest ih =>
    rw [List.mapM_cons] at ok
    obtain ⟨first, atFirst, ok⟩ := bind_ok ok
    obtain ⟨later, atLater, ok⟩ := bind_ok ok
    cases ok
    rcases List.mem_cons.mp member with rfl | inRest
    · exact ⟨first, List.mem_cons_self, atFirst⟩
    · obtain ⟨b, inLater, found⟩ := ih atLater inRest
      exact ⟨b, List.mem_cons_of_mem _ inLater, found⟩

/-- A loop goes through when each of its items does. -/
theorem mapM_exists (each : ∀ a ∈ items, ∃ b, check a = .ok b) : ∃ results, items.mapM check = .ok results := by
  induction items with
  | nil => exact ⟨[], rfl⟩
  | cons item rest ih =>
    obtain ⟨first, atFirst⟩ := each item List.mem_cons_self
    obtain ⟨later, atLater⟩ := ih fun a member => each a (List.mem_cons_of_mem _ member)
    rw [List.mapM_cons, atFirst, atLater]
    exact ⟨first :: later, rfl⟩

/-- A loop whose results are known item by item. -/
theorem mapM_values {value : α → β} (ok : items.mapM check = .ok results)
    (each : ∀ a ∈ items, ∀ b, check a = .ok b → b = value a) : results = items.map value := by
  induction items generalizing results with
  | nil =>
    cases ok
    rfl
  | cons item rest ih =>
    rw [List.mapM_cons] at ok
    obtain ⟨first, atFirst, ok⟩ := bind_ok ok
    obtain ⟨later, atLater, ok⟩ := bind_ok ok
    cases ok
    rw [List.map_cons, each item List.mem_cons_self first atFirst,
      ih atLater fun a member => each a (List.mem_cons_of_mem _ member)]

end

/-- A loop that went through raised for none of its items. -/
theorem forM_ok {check : α → Except ε Unit} {items : List α} (ok : items.forM check = .ok ()) {a : α}
    (member : a ∈ items) : check a = .ok () := by
  induction items with
  | nil => cases member
  | cons item rest ih =>
    rw [List.forM_eq_forM, List.forM_cons] at ok
    obtain ⟨_, atItem, ok⟩ := bind_ok ok
    rcases List.mem_cons.mp member with rfl | inRest
    · exact atItem
    · exact ih ok inRest

/-- A test that held of all items held of each. -/
theorem allM_true {test : α → Except ε Bool} {items : List α} (ok : items.allM test = .ok true) {a : α}
    (member : a ∈ items) : test a = .ok true := by
  induction items with
  | nil => cases member
  | cons item rest ih =>
    rw [List.allM_cons] at ok
    obtain ⟨holds, atItem, ok⟩ := bind_ok ok
    cases holds with
    | false => cases ok
    | true =>
      rcases List.mem_cons.mp member with rfl | inRest
      · exact atItem
      · exact ih ok inRest

end SacmRuntime.Checked
