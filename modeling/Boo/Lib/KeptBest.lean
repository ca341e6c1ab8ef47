/- module: Boo/Lib/KeptBest
   digest: A pass over a list that keeps one item, replaced by every later item that beats it. -/

import Mathlib.Data.List.Basic

set_option autoImplicit false
set_option relaxedAutoImplicit false

namespace Boo.Lib.KeptBest

variable {α : Type} (beats : α → α → Bool)

/-- One turn of the pass: `beats held item` says that the item takes the place of the one held. -/
def keep (best : Option α) (item : α) : Option α :=
  match best with
  | none => some item
  | some held => if beats held item then some item else some held

def keptBest (items : List α) : Option α := items.foldl (keep beats) none

variable {beats} {items : List α}

private theorem foldl_keep_some (held : α) (items : List α) :
    ∃ best, items.foldl (keep beats) (some held) = some best ∧ (best = held ∨ best ∈ items) := by
  induction items generalizing held with
  | nil => exact ⟨held, rfl, .inl rfl⟩
  | cons item items ih =>
      rw [List.foldl_cons, keep]
      split
      · obtain ⟨best, kept, origin⟩ := ih item
        exact ⟨best, kept, .inr (List.mem_cons.mpr origin)⟩
      · obtain ⟨best, kept, origin⟩ := ih held
        exact ⟨best, kept, origin.imp id (List.mem_cons_of_mem item)⟩

theorem keptBest_mem {best : α} (kept : keptBest beats items = some best) : best ∈ items := by
  cases items with
  | nil => cases kept
  | cons item items =>
      obtain ⟨own, found, origin⟩ := @foldl_keep_some _ beats item items
      have same : keptBest beats (item :: items) = some own := found
      rw [same] at kept
      obtain rfl := Option.some.inj kept
      exact List.mem_cons.mpr origin

theorem keptBest_eq_none_iff : keptBest beats items = none ↔ items = [] := by
  cases items with
  | nil => exact iff_of_true rfl rfl
  | cons item items =>
      obtain ⟨best, found, -⟩ := @foldl_keep_some _ beats item items
      have same : keptBest beats (item :: items) = some best := found
      rw [same]
      exact iff_of_false (Option.some_ne_none best) (List.cons_ne_nil item items)

/-- If every other item loses to the good ones and no good one loses to another item, a good one
is kept. -/
theorem keptBest_good {Good : α → Prop} (present : ∃ item ∈ items, Good item)
    (stays : ∀ held ∈ items, ∀ item ∈ items, Good held → ¬ Good item → beats held item = false)
    (takes : ∀ held ∈ items, ∀ item ∈ items, ¬ Good held → Good item → beats held item = true) :
    ∃ best ∈ items, keptBest beats items = some best ∧ Good best := by
  have pass : ∀ (rest : List α) (held : α), held ∈ items → rest ⊆ items →
      (Good held ∨ ∃ item ∈ rest, Good item) →
        ∃ best, rest.foldl (keep beats) (some held) = some best ∧ Good best := by
    intro rest
    induction rest with
    | nil =>
        rintro held - - (good | ⟨item, member, -⟩)
        · exact ⟨held, rfl, good⟩
        · cases member
    | cons item rest ih =>
        intro held known within good
        obtain ⟨here, later⟩ := List.cons_subset.mp within
        rw [List.foldl_cons, keep]
        split
        · rename_i won
          refine ih item here later ?_
          by_cases own : Good item
          · exact .inl own
          · rcases good with heldGood | ⟨other, member, isGood⟩
            · exact absurd won (Bool.not_eq_true _ ▸ stays held known item here heldGood own)
            · rcases List.mem_cons.mp member with rfl | member
              · exact absurd isGood own
              · exact .inr ⟨other, member, isGood⟩
        · rename_i lost
          refine ih held known later ?_
          by_cases own : Good held
          · exact .inl own
          · rcases good with heldGood | ⟨other, member, isGood⟩
            · exact absurd heldGood own
            · rcases List.mem_cons.mp member with rfl | member
              · exact absurd (takes held known other here own isGood) lost
              · exact .inr ⟨other, member, isGood⟩
  cases items with
  | nil => exact present.elim fun item held => by cases held.1
  | cons item items =>
      obtain ⟨best, kept, good⟩ := pass items item List.mem_cons_self
        (List.subset_cons_self item items) (by simpa using present)
      exact ⟨best, keptBest_mem kept, kept, good⟩

/-- Where beating goes by an order, nothing in the list is better than the item kept. -/
theorem keptBest_least {le : α → α → Prop} (refl : ∀ a, le a a)
    (trans : ∀ a b c, le a b → le b c → le a c)
    (ranks : ∀ held ∈ items, ∀ item ∈ items,
      if beats held item then le item held else le held item)
    {best : α} (kept : keptBest beats items = some best) : ∀ item ∈ items, le best item := by
  have pass : ∀ (rest : List α) (held : α), held ∈ items → rest ⊆ items →
      rest.foldl (keep beats) (some held) = some best →
        le best held ∧ ∀ item ∈ rest, le best item := by
    intro rest
    induction rest with
    | nil =>
        intro held _ _ found
        obtain rfl := Option.some.inj found
        exact ⟨refl held, fun item member => by cases member⟩
    | cons item rest ih =>
        intro held known within found
        obtain ⟨here, later⟩ := List.cons_subset.mp within
        have rank := ranks held known item here
        rw [List.foldl_cons, keep] at found
        split at found
        · rename_i won
          rw [if_pos won] at rank
          obtain ⟨least, others⟩ := ih item here later found
          exact ⟨trans _ _ _ least rank, List.forall_mem_cons.mpr ⟨least, others⟩⟩
        · rename_i lost
          rw [if_neg lost] at rank
          obtain ⟨least, others⟩ := ih held known later found
          exact ⟨least, List.forall_mem_cons.mpr ⟨trans _ _ _ least rank, others⟩⟩
  cases items with
  | nil => exact fun item member => by cases member
  | cons item items =>
      obtain ⟨least, others⟩ := pass items item List.mem_cons_self
        (List.subset_cons_self item items) kept
      exact List.forall_mem_cons.mpr ⟨least, others⟩

end Boo.Lib.KeptBest
