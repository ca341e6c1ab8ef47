/- module: Boo/Lib/FirstFound
   digest: Searches along a list in order: what they find, and when two of them find the same. -/

import Mathlib.Data.List.Basic

set_option autoImplicit false
set_option relaxedAutoImplicit false

namespace Boo.Lib.FirstFound

variable {α : Type} {before : α → α → Prop} {p q : α → Bool} {items : List α}

/-- Along a list in order, the first item found is the one with none found before it. -/
theorem find?_eq_some_iff_first (asymm : ∀ a b, before a b → ¬ before b a)
    (ordered : items.Pairwise before) {found : α} :
    items.find? p = some found ↔
      found ∈ items ∧ p found ∧ ∀ other ∈ items, before other found → ¬ p other := by
  rw [List.find?_eq_some_iff_append]
  constructor
  · rintro ⟨holds, front, back, rfl, none⟩
    refine ⟨by simp, holds, fun other member earlier => ?_⟩
    rcases List.mem_append.mp member with inFront | inBack
    · simpa using none other inFront
    · obtain rfl | inBack := List.mem_cons.mp inBack
      · exact absurd earlier (asymm _ _ earlier)
      · have later := List.rel_of_pairwise_cons (List.pairwise_append.mp ordered).2.1 inBack
        exact absurd earlier (asymm _ _ later)
  · rintro ⟨member, holds, first⟩
    obtain ⟨front, back, rfl⟩ := List.append_of_mem member
    refine ⟨holds, front, back, rfl, fun other inFront => ?_⟩
    have earlier := (List.pairwise_append.mp ordered).2.2 other inFront found List.mem_cons_self
    simpa using first other (List.mem_append_left _ inFront) earlier

/-- By position: the first place whose item gives something. -/
theorem findSome?_eq_some_iff_position {β : Type} {f : α → Option β} {found : β} :
    items.findSome? f = some found ↔
      ∃ k : ℕ, items[k]?.bind f = some found ∧ ∀ j < k, items[j]?.bind f = none := by
  induction items with
  | nil => simp
  | cons item items ih =>
      rw [List.findSome?_cons]
      cases here : f item with
      | some own =>
          constructor
          · rintro same
            exact ⟨0, by simpa [here] using same, fun j before => absurd before (Nat.not_lt_zero j)⟩
          · rintro ⟨k, there, first⟩
            cases k with
            | zero => simpa [here] using there
            | succ k => simpa [here] using first 0 (Nat.succ_pos k)
      | none =>
          rw [ih]
          constructor
          · rintro ⟨k, there, first⟩
            refine ⟨k + 1, there, fun j before => ?_⟩
            cases j with
            | zero => simpa using here
            | succ j => exact first j (Nat.lt_of_succ_lt_succ before)
          · rintro ⟨k, there, first⟩
            cases k with
            | zero => simp [here] at there
            | succ k => exact ⟨k, there, fun j before => first (j + 1) (Nat.succ_lt_succ before)⟩

/-- Two searches find the same exactly if they agree on every item before which neither has
found one. -/
theorem find?_eq_find?_iff (asymm : ∀ a b, before a b → ¬ before b a)
    (ordered : items.Pairwise before) :
    items.find? p = items.find? q ↔ ∀ item ∈ items,
      (∀ other ∈ items, before other item → ¬ p other ∧ ¬ q other) → (p item ↔ q item) := by
  induction items with
  | nil => exact iff_of_true rfl (by simp)
  | cons item items ih =>
      obtain ⟨later, rest⟩ := List.pairwise_cons.mp ordered
      have irrefl : ¬ before item item := fun self => asymm _ _ self self
      have absent : item ∉ items := fun member => irrefl (later item member)
      have nothingBefore : ∀ other ∈ item :: items, before other item → ¬ p other ∧ ¬ q other := by
        intro other member earlier
        obtain rfl | member := List.mem_cons.mp member
        · exact absurd earlier irrefl
        · exact absurd earlier (asymm _ _ (later other member))
      by_cases here : p item <;> by_cases there : q item
      · simp only [List.find?_cons, here, there]
        refine iff_of_true trivial fun other member none => ?_
        obtain rfl | member := List.mem_cons.mp member
        · exact iff_of_true here there
        · exact absurd here (none item List.mem_cons_self (later other member)).1
      · rw [List.find?_cons_of_pos here, List.find?_cons_of_neg there]
        refine iff_of_false (fun same => absent (List.mem_of_find?_eq_some same.symm)) fun agree => ?_
        exact there ((agree item List.mem_cons_self nothingBefore).mp here)
      · rw [List.find?_cons_of_neg here, List.find?_cons_of_pos there]
        refine iff_of_false (fun same => absent (List.mem_of_find?_eq_some same)) fun agree => ?_
        exact here ((agree item List.mem_cons_self nothingBefore).mpr there)
      · rw [List.find?_cons_of_neg here, List.find?_cons_of_neg there, ih rest]
        constructor
        · intro agree other member none
          obtain rfl | member := List.mem_cons.mp member
          · exact iff_of_false here there
          · exact agree other member fun earlier inItems =>
              none earlier (List.mem_cons_of_mem _ inItems)
        · intro agree other member none
          refine agree other (List.mem_cons_of_mem _ member) fun earlier inItems order => ?_
          obtain rfl | inItems := List.mem_cons.mp inItems
          · exact ⟨here, there⟩
          · exact none earlier inItems order

end Boo.Lib.FirstFound
