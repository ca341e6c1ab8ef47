/- module: Boo/Lib/Entries
   digest: Lists with one entry changed or taken out, and lists related entry by entry. -/

import Mathlib.Data.List.Forall2
import Mathlib.Data.List.Nodup

set_option autoImplicit false
set_option relaxedAutoImplicit false

namespace Boo.Lib.Entries

variable {A B : Type} {items : List A} {item : A} {index place : Nat}

section Changed

theorem modify_middle (update : A → A) (before : List A) (item : A) (later : List A) :
    (before ++ item :: later).modify before.length update = before ++ update item :: later := by
  induction before with
  | nil => rfl
  | cons first before ih =>
      rw [List.cons_append, List.length_cons, List.modify_succ_cons, ih, List.cons_append]

theorem modify_last (update : A → A) (before : List A) (item : A) :
    (before ++ [item]).modify before.length update = before ++ [update item] :=
  modify_middle update before item []

/-- One changed entry shows in a list of readings exactly when its own reading changes. -/
theorem map_modify_eq_iff (update : A → A) (reading : A → B) (at_ : items[place]? = some item) :
    (items.modify place update).map reading = items.map reading ↔
      reading (update item) = reading item := by
  constructor
  · intro same
    have there := congrArg (·[place]?) same
    simpa [List.getElem?_modify_eq, at_] using there
  · intro same
    apply List.ext_getElem?
    intro other
    rw [List.getElem?_map, List.getElem?_map, List.getElem?_modify]
    by_cases here : place = other
    · subst here
      rw [at_]
      simp [same]
    · simp [here]

/-- A change that a reading does not see. -/
theorem map_modify_same (items : List A) (place : Nat) {update : A → A} {reading : A → B}
    (same : ∀ item, reading (update item) = reading item) :
    (items.modify place update).map reading = items.map reading := by
  cases at_ : items[place]? with
  | none => rw [List.modify_eq_self (List.getElem?_eq_none_iff.mp at_)]
  | some item => exact (map_modify_eq_iff update reading at_).mpr (same item)

end Changed

section TakenOut

/-- The place of an entry in a list without another one. -/
theorem getElem?_eraseIdx_eq_iff (distinct : items.Nodup) (at_ : items[place]? = some item)
    (position : Nat) :
    (items.eraseIdx index)[position]? = some item ↔
      if position < index then position = place else position + 1 = place := by
  have inside : place < items.length := (List.getElem?_eq_some_iff.mp at_).1
  have named : ∀ there, items[there]? = some item ↔ there = place := by
    intro there
    rw [← at_]
    constructor
    · exact fun same => ((List.getElem?_inj inside distinct).mp same.symm).symm
    · exact fun same => by rw [same]
  rw [List.getElem?_eraseIdx]
  split <;> exact named _

theorem mem_eraseIdx_iff (distinct : items.Nodup) (at_ : items[place]? = some item) :
    item ∈ items.eraseIdx index ↔ index ≠ place := by
  have inside : place < items.length := (List.getElem?_eq_some_iff.mp at_).1
  rw [List.mem_eraseIdx_iff_getElem?]
  constructor
  · rintro ⟨other, apart, at_other⟩ rfl
    exact apart ((List.getElem?_inj inside distinct).mp (at_.trans at_other.symm)).symm
  · exact fun apart => ⟨place, apart.symm, at_⟩

end TakenOut

section Related

variable {R : A → B → Prop} {others : List B}

theorem forall₂_getElem? (related : List.Forall₂ R items others)
    (at_ : items[index]? = some item) : ∃ other, others[index]? = some other ∧ R item other := by
  induction related generalizing index with
  | nil => cases at_
  | cons here later ih =>
      cases index with
      | zero =>
          cases at_
          exact ⟨_, rfl, here⟩
      | succ index => exact ih at_

theorem exists_of_forall₂ (related : List.Forall₂ R items others) (member : item ∈ items) :
    ∃ other ∈ others, R item other := by
  obtain ⟨index, at_⟩ := List.mem_iff_getElem?.mp member
  obtain ⟨other, atOther, holds⟩ := forall₂_getElem? related at_
  exact ⟨other, List.mem_of_getElem? atOther, holds⟩

end Related

end Boo.Lib.Entries
