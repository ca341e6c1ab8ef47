/- module: Boo/Lib/RowMajor
   digest: Cutting a flat sequence into rows of one width, and writing inside one row. -/

import Boo.Lib.LittleEndian
import Boo.Lib.WriteRun
import Mathlib.Data.List.Flatten

set_option autoImplicit false
set_option relaxedAutoImplicit false

namespace Boo.Lib.RowMajor

open Boo.Lib.LittleEndian
open Boo.Lib.WriteRun

variable {α : Type}

/-- Consecutive pieces of `width` elements, the last one possibly shorter. -/
def chunks (width : Nat) (xs : List α) : List (List α) :=
  (List.range ((xs.length + width - 1) / width)).map fun k => slice xs (k * width) width

def Uniform (width : Nat) (rows : List (List α)) : Prop := ∀ row ∈ rows, row.length = width

theorem length_chunks {width count : Nat} (pos : 0 < width) {xs : List α}
    (len : xs.length = count * width) : (chunks width xs).length = count := by
  have whole : (count * width + width - 1) / width = count := by
    have low : count * width + width - 1 = width - 1 + count * width := by omega
    rw [low, Nat.add_mul_div_right _ _ pos, Nat.div_eq_of_lt (by omega), Nat.zero_add]
  rw [chunks, List.length_map, List.length_range, len, whole]

theorem uniform_chunks {width count : Nat} (pos : 0 < width) {xs : List α}
    (len : xs.length = count * width) : Uniform width (chunks width xs) := by
  intro row member
  obtain ⟨k, bound, rfl⟩ := List.mem_map.mp member
  have count_eq := length_chunks pos len
  rw [chunks, List.length_map, List.length_range] at count_eq
  rw [List.mem_range, count_eq] at bound
  have fits : (k + 1) * width ≤ count * width := Nat.mul_le_mul_right width bound
  rw [Nat.succ_mul] at fits
  rw [slice, List.length_take, List.length_drop, len]
  omega

theorem getElem?_flatten {width : Nat} (pos : 0 < width) {rows : List (List α)}
    (uniform : Uniform width rows) (i : Nat) :
    rows.flatten[i]? = rows[i / width]?.bind fun row => row[i % width]? := by
  induction rows generalizing i with
  | nil => simp
  | cons row rows ih =>
      have len : row.length = width := uniform row List.mem_cons_self
      have tail : Uniform width rows :=
        fun other member => uniform other (List.mem_cons_of_mem _ member)
      rw [List.flatten_cons]
      by_cases here : i < width
      · rw [List.getElem?_append_left (by omega), Nat.div_eq_of_lt here, Nat.mod_eq_of_lt here]
        rfl
      · obtain ⟨j, rfl⟩ := Nat.exists_eq_add_of_le (Nat.le_of_not_lt here)
        rw [List.getElem?_append_right (by omega), len, Nat.add_sub_cancel_left, ih tail,
          Nat.add_div_left _ pos, Nat.add_mod_left, List.getElem?_cons_succ]

theorem length_flatten {width : Nat} {rows : List (List α)} (uniform : Uniform width rows) :
    rows.flatten.length = rows.length * width := by
  induction rows with
  | nil => simp
  | cons row rows ih =>
      have len : row.length = width := uniform row List.mem_cons_self
      have tail : Uniform width rows :=
        fun other member => uniform other (List.mem_cons_of_mem _ member)
      rw [List.flatten_cons, List.length_append, ih tail, len, List.length_cons, Nat.succ_mul]
      omega

theorem flatten_chunks {width count : Nat} (pos : 0 < width) {xs : List α}
    (len : xs.length = count * width) : (chunks width xs).flatten = xs := by
  have uniform := uniform_chunks pos len
  refine List.ext_getElem? fun i => ?_
  rw [getElem?_flatten pos uniform]
  have count_eq := length_chunks pos len
  have split : i / width * width + i % width = i := Nat.div_add_mod' i width
  have small : i % width < width := Nat.mod_lt i pos
  by_cases inside : i / width < count
  · have piece : (chunks width xs)[i / width]? = some (slice xs (i / width * width) width) := by
      have listed : i / width < (chunks width xs).length := by omega
      rw [List.getElem?_eq_getElem listed]
      simp [chunks]
    rw [piece, Option.bind_some, slice, List.getElem?_take_of_lt small, List.getElem?_drop, split]
  · have beyond : count * width ≤ i := by
      have := Nat.mul_le_mul_right width (Nat.le_of_not_lt inside)
      omega
    rw [List.getElem?_eq_none (by omega), List.getElem?_eq_none (by omega)]
    rfl

/-- Rows of one width are determined by the flat sequence. -/
theorem eq_of_flatten_eq {width : Nat} (pos : 0 < width) {rows rows' : List (List α)}
    (uniform : Uniform width rows) (uniform' : Uniform width rows')
    (same : rows.flatten = rows'.flatten) : rows = rows' := by
  have lengths : rows.length * width = rows'.length * width := by
    rw [← length_flatten uniform, ← length_flatten uniform', same]
  have count : rows.length = rows'.length := Nat.eq_of_mul_eq_mul_right pos lengths
  refine List.ext_getElem count fun r hr hr' => ?_
  have len : rows[r].length = width := uniform _ (List.getElem_mem hr)
  have len' : rows'[r].length = width := uniform' _ (List.getElem_mem hr')
  refine List.ext_getElem (len.trans len'.symm) fun c hc hc' => ?_
  have small : c < width := by omega
  have row : (c + r * width) / width = r := by
    rw [Nat.add_mul_div_right _ _ pos, Nat.div_eq_of_lt small, Nat.zero_add]
  have col : (c + r * width) % width = c := by
    rw [Nat.add_mul_mod_self_right, Nat.mod_eq_of_lt small]
  have here := getElem?_flatten pos uniform (c + r * width)
  have there := getElem?_flatten pos uniform' (c + r * width)
  rw [same, there, row, col, List.getElem?_eq_getElem hr, List.getElem?_eq_getElem hr',
    Option.bind_some, Option.bind_some, List.getElem?_eq_getElem hc,
    List.getElem?_eq_getElem hc'] at here
  exact (Option.some.inj here).symm

theorem uniform_set {width r : Nat} {rows : List (List α)} {row : List α}
    (uniform : Uniform width rows) (len : row.length = width) :
    Uniform width (rows.set r row) := by
  intro other member
  rcases List.mem_or_eq_of_mem_set member with old | rfl
  · exact uniform other old
  · exact len

/-- Writing inside one row is a write at the row's flat position. -/
theorem flatten_set_writeRun {width r start : Nat} (pos : 0 < width) {rows : List (List α)}
    (uniform : Uniform width rows) {row : List α} (found : rows[r]? = some row) {ys : List α}
    (fits : start + ys.length ≤ width) :
    (rows.set r (writeRun row start ys)).flatten =
      writeRun rows.flatten (r * width + start) ys := by
  have bound : r < rows.length := (List.getElem?_eq_some_iff.mp found).1
  have len : row.length = width := by
    obtain ⟨_, rfl⟩ := List.getElem?_eq_some_iff.mp found
    exact uniform _ (List.getElem_mem bound)
  have uniform' : Uniform width (rows.set r (writeRun row start ys)) :=
    uniform_set uniform (by rw [length_writeRun, len])
  have total := length_flatten uniform
  have rowEnd : r * width + width ≤ rows.length * width := by
    have := Nat.mul_le_mul_right width bound
    rw [Nat.succ_mul] at this
    exact this
  refine List.ext_getElem? fun i => ?_
  rw [getElem?_flatten pos uniform']
  have small : i % width < width := Nat.mod_lt i pos
  have split : i / width * width + i % width = i := Nat.div_add_mod' i width
  by_cases here : i / width = r
  · subst here
    rw [List.getElem?_set_self bound, Option.bind_some]
    by_cases inside : start ≤ i % width ∧ i % width < start + ys.length
    · rw [getElem?_writeRun_inside inside.1 inside.2 (by omega),
        getElem?_writeRun_inside (by omega) (by omega) (by omega)]
      congr 1
      omega
    · rw [getElem?_writeRun_outside (by omega), getElem?_writeRun_outside (by omega),
        getElem?_flatten pos uniform, found, Option.bind_some]
  · have outside : i < r * width + start ∨ r * width + start + ys.length ≤ i := by
      rcases Nat.lt_or_gt_of_ne here with before | after
      · have := Nat.mul_le_mul_right width (Nat.succ_le_of_lt before)
        rw [Nat.succ_mul] at this
        omega
      · have := Nat.mul_le_mul_right width (Nat.succ_le_of_lt after)
        rw [Nat.succ_mul] at this
        omega
    rw [List.getElem?_set_ne (Ne.symm here), getElem?_writeRun_outside outside,
      getElem?_flatten pos uniform]

end Boo.Lib.RowMajor
