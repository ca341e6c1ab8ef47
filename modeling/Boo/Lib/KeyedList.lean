/- module: Boo/Lib/KeyedList
   digest: A keyed list that holds the newest value of each key, in order of first arrival. -/

import Mathlib.Data.List.Nodup
import Mathlib.Logic.Function.Basic

set_option autoImplicit false
set_option relaxedAutoImplicit false

namespace Boo.Lib.KeyedList

/-- Keys in order of first arrival, with the newest value of each. -/
structure Keyed (K V : Type) where
  order : List K
  value : K → Option V
  nodup : order.Nodup
  mem_order : ∀ key, key ∈ order ↔ (value key).isSome

namespace Keyed

variable {K V W : Type}

def empty : Keyed K V where
  order := []
  value := fun _ => none
  nodup := List.nodup_nil
  mem_order := fun _ => by simp

/-- Replace the value of `key`, or append `key` when it has none. -/
def set [DecidableEq K] (list : Keyed K V) (key : K) (value : V) : Keyed K V where
  order := if (list.value key).isSome then list.order else list.order ++ [key]
  value := Function.update list.value key (some value)
  nodup := by
    split
    · exact list.nodup
    · rename_i fresh
      rw [← list.mem_order] at fresh
      rw [List.nodup_append]
      refine ⟨list.nodup, List.nodup_singleton key, ?_⟩
      intro other member single hSingle same
      rw [List.mem_singleton] at hSingle
      exact fresh (hSingle ▸ same ▸ member)
  mem_order := by
    intro other
    by_cases same : other = key
    · subst same
      rw [Function.update_self]
      split
      · rename_i held
        simpa [list.mem_order] using held
      · simp
    · rw [Function.update_of_ne same]
      split
      · exact list.mem_order other
      · rw [← list.mem_order other]
        simp [same]

@[simp] theorem value_set [DecidableEq K] (list : Keyed K V) (key other : K) (value : V) :
    (list.set key value).value other = if other = key then some value else list.value other := by
  simp [set, Function.update_apply]

/-- Change every value in place. -/
def mapEntries (f : K → V → V) (list : Keyed K V) : Keyed K V where
  order := list.order
  value := fun key => (list.value key).map (f key)
  nodup := list.nodup
  mem_order := fun key => by rw [list.mem_order, Option.isSome_map]

@[simp] theorem value_mapEntries (f : K → V → V) (list : Keyed K V) (key : K) :
    (list.mapEntries f).value key = (list.value key).map (f key) := rfl

/-- Change the value of one key, if it has one. -/
def modify [DecidableEq K] (list : Keyed K V) (key : K) (f : V → V) : Keyed K V :=
  list.mapEntries fun other value => if other = key then f value else value

@[simp] theorem value_modify [DecidableEq K] (list : Keyed K V) (key other : K) (f : V → V) :
    (list.modify key f).value other =
      if other = key then (list.value other).map f else list.value other := by
  rw [modify, value_mapEntries]
  split
  · rfl
  · exact Option.map_id'

def erase [DecidableEq K] (list : Keyed K V) (key : K) : Keyed K V where
  order := list.order.filter (· ≠ key)
  value := Function.update list.value key none
  nodup := list.nodup.filter _
  mem_order := by
    intro other
    by_cases same : other = key
    · subst same
      simp
    · simp [same, list.mem_order]

@[simp] theorem value_erase [DecidableEq K] (list : Keyed K V) (key other : K) :
    (list.erase key).value other = if other = key then none else list.value other := by
  simp [erase, Function.update_apply]

/-- All values, oldest key first. -/
def takeAll (list : Keyed K V) : List V := list.order.filterMap list.value

theorem length_takeAll (list : Keyed K V) : list.takeAll.length = list.order.length := by
  rw [takeAll, List.length_filterMap_eq_countP, List.countP_eq_length]
  intro key member
  exact (list.mem_order key).mp member

def map (f : V → W) (list : Keyed K V) : Keyed K W where
  order := list.order
  value := fun key => (list.value key).map f
  nodup := list.nodup
  mem_order := fun key => by rw [list.mem_order, Option.isSome_map]

@[simp] theorem map_empty (f : V → W) : (empty : Keyed K V).map f = empty := rfl

@[simp] theorem isSome_value_map (f : V → W) (list : Keyed K V) (key : K) :
    ((list.map f).value key).isSome = (list.value key).isSome :=
  Option.isSome_map ..

theorem map_set [DecidableEq K] (f : V → W) (list : Keyed K V) (key : K) (value : V) :
    (list.set key value).map f = (list.map f).set key (f value) := by
  have values : (fun other => (Function.update list.value key (some value) other).map f) =
      Function.update (fun other => (list.value other).map f) key (some (f value)) := by
    funext other
    by_cases same : other = key
    · subst same
      simp
    · simp [Function.update_of_ne same]
  simp only [map, set, values, Option.isSome_map]

theorem takeAll_map (f : V → W) (list : Keyed K V) :
    (list.map f).takeAll = list.takeAll.map f := by
  rw [takeAll, takeAll, List.map_filterMap]
  rfl

/-- What a reader of one key's values finds among all values. -/
theorem filterMap_takeAll (pick : V → Option W) (list : Keyed K V) (key : K)
    (others : ∀ other value, list.value other = some value → other ≠ key → pick value = none) :
    list.takeAll.filterMap pick = ((list.value key).bind pick).toList := by
  have skip : ∀ keys : List K, key ∉ keys →
      (keys.filterMap list.value).filterMap pick = [] := by
    intro keys absent
    rw [List.filterMap_filterMap, List.filterMap_eq_nil_iff]
    intro other member
    have different : other ≠ key := fun same => absent (same ▸ member)
    cases found : list.value other with
    | none => rfl
    | some value => exact others other value found different
  rw [takeAll]
  by_cases member : key ∈ list.order
  · obtain ⟨before, after, split⟩ := List.append_of_mem member
    have distinct := list.nodup
    rw [split, List.nodup_middle, List.nodup_cons, List.mem_append, not_or] at distinct
    obtain ⟨⟨notBefore, notAfter⟩, -⟩ := distinct
    rw [split, List.filterMap_append, List.filterMap_append, skip before notBefore,
      List.nil_append, List.filterMap_cons]
    cases found : list.value key with
    | none => simpa [found] using skip after notAfter
    | some value =>
        dsimp only
        rw [List.filterMap_cons, skip after notAfter, Option.bind_some]
        cases pick value <;> rfl
  · have absent := (list.mem_order key).not.mp member
    rw [skip _ member, Option.not_isSome_iff_eq_none.mp absent]
    rfl

end Keyed

end Boo.Lib.KeyedList
