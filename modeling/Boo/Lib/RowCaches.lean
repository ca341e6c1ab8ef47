/- module: Boo/Lib/RowCaches
   digest: Values kept per index and built again when the key of their index has changed. -/

import Mathlib.Data.List.GetD

set_option autoImplicit false
set_option relaxedAutoImplicit false

namespace Boo.Lib.RowCaches

section Resizing

variable {α : Type}

/-- Cut off or filled up to a length. -/
def resized (count : Nat) (fill : α) (xs : List α) : List α :=
  xs.take count ++ List.replicate (count - xs.length) fill

@[simp]
theorem length_resized (count : Nat) (fill : α) (xs : List α) :
    (resized count fill xs).length = count := by
  rw [resized, List.length_append, List.length_take, List.length_replicate]
  omega

theorem getD_resized {count index : Nat} (inside : index < count) (fill : α) (xs : List α) :
    (resized count fill xs).getD index fill = xs.getD index fill := by
  rw [resized]
  by_cases kept : index < xs.length
  · rw [List.getD_append _ _ _ _ (by rw [List.length_take]; omega), List.getD_eq_getElem?_getD,
      List.getD_eq_getElem?_getD, List.getElem?_take_of_lt inside]
  · have short : (xs.take count).length ≤ index := by
      rw [List.length_take]
      omega
    have room : index - (xs.take count).length < count - xs.length := by
      rw [List.length_take]
      omega
    rw [List.getD_append_right _ _ _ _ short, List.getD_replicate _ room,
      List.getD_eq_default _ _ (by omega)]

end Resizing

section Keys

variable {K V : Type} [DecidableEq K] {keys : List K} {values : List V} {zero : K} {blank : V}
  {count earlier : Nat} {key before : Nat → K} {build built : Nat → V} {index : Nat}

/-- What an index shows: built again if everything is, or if its key is another one. -/
def kept (force : Bool) (keys : List K) (values : List V) (zero : K) (blank : V) (key : Nat → K)
    (build : Nat → V) (index : Nat) : V :=
  if force || keys.getD index zero != key index then build index else values.getD index blank

theorem getD_map_range {place : Nat} (inside : place < count) (f : Nat → V) :
    ((List.range count).map f).getD place blank = f place := by
  rw [List.getD_eq_getElem?_getD, List.getElem?_map, List.getElem?_range inside]
  rfl

theorem kept_congr {force : Bool} {other : Nat → K} {builds : Nat → V}
    (sameKey : key index = other index) (sameBuild : build index = builds index) :
    kept force keys values zero blank key build index =
      kept force keys values zero blank other builds index := by
  rw [kept, kept, sameKey, sameBuild]

theorem kept_resized (inside : index < count) (force : Bool) :
    kept force (resized count zero keys) (resized count blank values) zero blank key build index =
      kept force keys values zero blank key build index := by
  rw [kept, kept, getD_resized inside, getD_resized inside]

/-- What is kept is what would be built exactly if a key that has stayed the same stands for the
same value, where no key is the one of an empty place. -/
theorem kept_eq_build_iff (named : key index ≠ zero) :
    kept false ((List.range earlier).map before) ((List.range earlier).map built) zero blank key
        build index = build index ↔
      (index < earlier → before index = key index → built index = build index) := by
  rw [kept, Bool.false_or]
  by_cases known : index < earlier
  · rw [getD_map_range known, getD_map_range known]
    by_cases same : before index = key index
    · simp [same, known]
    · simp [same]
  · have missing : ((List.range earlier).map before).getD index zero = zero :=
      List.getD_eq_default _ _ (by simpa using known)
    rw [missing, if_pos (bne_iff_ne.mpr named.symm)]
    exact iff_of_true rfl fun inside => absurd inside known

end Keys

end Boo.Lib.RowCaches
