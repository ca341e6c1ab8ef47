/- module: Boo/Runtime/CopySelection
   digest: The ends of a selection in copy mode, and the rectangles that highlight it. -/

import Mathlib.Data.List.Nodup
import Mathlib.Data.Rat.Lemmas
import Mathlib.Algebra.Order.Ring.Rat
import Mathlib.Tactic.Linarith
import Mathlib.Tactic.Ring

set_option autoImplicit false
set_option relaxedAutoImplicit false

namespace Boo.Runtime.CopySelection

inductive SelectionMode
  | none
  | char
  | line
  | rectangle
  deriving DecidableEq

/-- A row of the scrollback and a column. -/
structure Spot where
  row : ℤ
  col : ℕ
  deriving DecidableEq

/-- The ends of a selection, the one that comes first in reading order first. -/
def orderedEnds (anchor cursor : Spot) : Spot × Spot :=
  if anchor.row < cursor.row ∨ anchor.row = cursor.row ∧ anchor.col ≤ cursor.col then
    (anchor, cursor)
  else (cursor, anchor)

/-- `start..stop`. -/
def rowsBetween (start stop : ℤ) : List ℤ :=
  (List.range (stop - start).toNat).map fun step : ℕ => start + step

structure Rect where
  x : ℚ
  y : ℚ
  w : ℚ
  h : ℚ
  deriving DecidableEq

section Rectangles

variable (offset : ℤ) (viewportCols : ℕ) (cellWidth cellHeight termY : ℚ)

def computeSelectionRectsStatic (selection : SelectionMode) (cursor anchor : Spot) : List Rect :=
  let (⟨r1, c1⟩, ⟨r2, c2⟩) := orderedEnds anchor cursor
  let fullW := viewportCols * cellWidth
  match selection with
  | .char =>
      if r1 = r2 then
        [⟨c1 * cellWidth, termY + (r1 - offset : ℤ) * cellHeight, (c2 - c1 + 1) * cellWidth,
          cellHeight⟩]
      else
        ⟨c1 * cellWidth, termY + (r1 - offset : ℤ) * cellHeight, fullW - c1 * cellWidth,
            cellHeight⟩ ::
          (rowsBetween (r1 + 1) r2).map (fun r =>
            ⟨0, termY + (r - offset : ℤ) * cellHeight, fullW, cellHeight⟩) ++
          [⟨0, termY + (r2 - offset : ℤ) * cellHeight, (c2 + 1) * cellWidth, cellHeight⟩]
  | .line =>
      (rowsBetween r1 (r2 + 1)).map fun r =>
        ⟨0, termY + (r - offset : ℤ) * cellHeight, fullW, cellHeight⟩
  | .rectangle =>
      let minC := min c1 c2
      let maxC := max c1 c2
      (rowsBetween r1 (r2 + 1)).map fun r =>
        ⟨minC * cellWidth, termY + (r - offset : ℤ) * cellHeight, (maxC - minC + 1) * cellWidth,
          cellHeight⟩
  | .none => []

/-- The cell of a row and a column, drawn at the offset. -/
def cellRect (spot : Spot) : Rect :=
  ⟨spot.col * cellWidth, termY + (spot.row - offset : ℤ) * cellHeight, cellWidth, cellHeight⟩

end Rectangles

/-- Rectangles are half open, so that neighbouring cells share no point. -/
def Rect.Holds (rect : Rect) (x y : ℚ) : Prop :=
  (rect.x ≤ x ∧ x < rect.x + rect.w) ∧ rect.y ≤ y ∧ y < rect.y + rect.h

def Rect.Covers (rect part : Rect) : Prop := ∀ x y, part.Holds x y → rect.Holds x y

def Rect.Apart (rect other : Rect) : Prop := ∀ x y, other.Holds x y → ¬ rect.Holds x y

/-- Reading order, from left to right and from top to bottom. -/
def Spot.AtMost (first second : Spot) : Prop :=
  first.row < second.row ∨ first.row = second.row ∧ first.col ≤ second.col

instance (first second : Spot) : Decidable (first.AtMost second) :=
  inferInstanceAs (Decidable (_ ∨ _))

theorem Spot.AtMost.refl (spot : Spot) : spot.AtMost spot := .inr ⟨rfl, Nat.le_refl _⟩

/-- The cells of a selection. -/
def InSelection (selection : SelectionMode) (cursor anchor spot : Spot) : Prop :=
  match selection with
  | .none => False
  | .char =>
      anchor.AtMost spot ∧ spot.AtMost cursor ∨ cursor.AtMost spot ∧ spot.AtMost anchor
  | .line => min anchor.row cursor.row ≤ spot.row ∧ spot.row ≤ max anchor.row cursor.row
  | .rectangle =>
      (min anchor.row cursor.row ≤ spot.row ∧ spot.row ≤ max anchor.row cursor.row) ∧
        min anchor.col cursor.col ≤ spot.col ∧ spot.col ≤ max anchor.col cursor.col

/-- A part of a row, up to a column that is left out. -/
structure Run where
  row : ℤ
  start : ℕ
  stop : ℕ

def Run.Has (run : Run) (spot : Spot) : Prop :=
  run.row = spot.row ∧ run.start ≤ spot.col ∧ spot.col < run.stop

/-- The selection row by row, in cells. -/
def selectionRuns (viewportCols : ℕ) (selection : SelectionMode) (cursor anchor : Spot) : List Run :=
  let (⟨r1, c1⟩, ⟨r2, c2⟩) := orderedEnds anchor cursor
  match selection with
  | .char =>
      if r1 = r2 then [⟨r1, c1, c2 + 1⟩]
      else ⟨r1, c1, viewportCols⟩ ::
        (rowsBetween (r1 + 1) r2).map (fun r => ⟨r, 0, viewportCols⟩) ++ [⟨r2, 0, c2 + 1⟩]
  | .line => (rowsBetween r1 (r2 + 1)).map fun r => ⟨r, 0, viewportCols⟩
  | .rectangle => (rowsBetween r1 (r2 + 1)).map fun r => ⟨r, min c1 c2, max c1 c2 + 1⟩
  | .none => []

section Runs

variable {offset : ℤ} {viewportCols : ℕ} {cellWidth cellHeight termY : ℚ}

def Run.rect (offset : ℤ) (cellWidth cellHeight termY : ℚ) (run : Run) : Rect :=
  ⟨run.start * cellWidth, termY + (run.row - offset : ℤ) * cellHeight,
    (run.stop - run.start) * cellWidth, cellHeight⟩

theorem mem_rowsBetween {start stop row : ℤ} :
    row ∈ rowsBetween start stop ↔ start ≤ row ∧ row < stop := by
  rw [rowsBetween, List.mem_map]
  constructor
  · rintro ⟨step, member, rfl⟩
    rw [List.mem_range] at member
    omega
  · rintro ⟨low, high⟩
    exact ⟨(row - start).toNat, List.mem_range.mpr (by omega), by omega⟩

theorem nodup_rowsBetween (start stop : ℤ) : (rowsBetween start stop).Nodup := by
  refine List.Nodup.map (fun first second same => ?_) List.nodup_range
  have shifted : start + (first : ℤ) = start + second := same
  omega

theorem pairwise_rowsBetween (start stop : ℤ) : (rowsBetween start stop).Pairwise (· < ·) := by
  rw [rowsBetween, List.pairwise_map]
  exact List.pairwise_lt_range.imp fun less => by omega

theorem orderedEnds_atMost (anchor cursor : Spot) :
    (orderedEnds anchor cursor).1.AtMost (orderedEnds anchor cursor).2 := by
  unfold orderedEnds
  split
  · assumption
  · rename_i behind
    unfold Spot.AtMost
    dsimp only
    omega

/-- The rectangles are those of the runs. -/
theorem computeSelectionRectsStatic_eq (selection : SelectionMode) (cursor anchor : Spot) :
    computeSelectionRectsStatic offset viewportCols cellWidth cellHeight termY selection cursor
        anchor =
      (selectionRuns viewportCols selection cursor anchor).map
        (Run.rect offset cellWidth cellHeight termY) := by
  unfold computeSelectionRectsStatic selectionRuns
  cases selection with
  | none => rfl
  | char =>
      dsimp only
      split
      · simp only [List.map_cons, List.map_nil, Run.rect]
        push_cast
        ring_nf
      · simp [Run.rect, sub_mul, Function.comp_def]
  | line => simp [Run.rect, Function.comp_def]
  | rectangle =>
      dsimp only
      rw [List.map_map]
      refine List.map_congr_left fun r _ => ?_
      simp only [Function.comp_apply, Run.rect]
      push_cast
      ring_nf

theorem orderedEnds_cases (anchor cursor : Spot) :
    orderedEnds anchor cursor = (anchor, cursor) ∨ orderedEnds anchor cursor = (cursor, anchor) := by
  unfold orderedEnds
  split
  · exact .inl rfl
  · exact .inr rfl

theorem exists_run_rows {start stop : ℤ} {from' to' : ℕ} {spot : Spot} :
    (∃ run ∈ (rowsBetween start stop).map fun r => Run.mk r from' to', run.Has spot) ↔
      (start ≤ spot.row ∧ spot.row < stop) ∧ from' ≤ spot.col ∧ spot.col < to' := by
  constructor
  · rintro ⟨run, member, row, columns⟩
    obtain ⟨r, between, rfl⟩ := List.mem_map.mp member
    exact ⟨row ▸ mem_rowsBetween.mp between, columns⟩
  · rintro ⟨between, columns⟩
    exact ⟨_, List.mem_map_of_mem (mem_rowsBetween.mpr between), rfl, columns⟩

theorem inSelection_char_iff {cursor anchor spot : Spot} :
    InSelection .char cursor anchor spot ↔
      (orderedEnds anchor cursor).1.AtMost spot ∧ spot.AtMost (orderedEnds anchor cursor).2 := by
  have order := orderedEnds_atMost anchor cursor
  obtain same | same := orderedEnds_cases anchor cursor <;> rw [same] at order ⊢ <;>
    simp only [InSelection, Spot.AtMost] at order ⊢ <;> omega

/-- The cells of the runs are those of the selection. -/
theorem has_selectionRuns_iff {selection : SelectionMode} {cursor anchor spot : Spot}
    (inside : spot.col < viewportCols) :
    (∃ run ∈ selectionRuns viewportCols selection cursor anchor, run.Has spot) ↔
      InSelection selection cursor anchor spot := by
  have order := orderedEnds_atMost anchor cursor
  unfold selectionRuns
  cases selection with
  | none => simp [InSelection]
  | char =>
      rw [inSelection_char_iff]
      generalize orderedEnds anchor cursor = sides at order ⊢
      obtain ⟨⟨r1, c1⟩, r2, c2⟩ := sides
      simp only [Spot.AtMost] at order ⊢
      split
      · simp only [List.mem_singleton, exists_eq_left, Run.Has]
        omega
      · simp only [List.mem_append, List.mem_cons, List.not_mem_nil, or_false, or_and_right,
          exists_or, exists_eq_left, exists_run_rows]
        simp only [Run.Has]
        omega
  | line =>
      rw [exists_run_rows]
      simp only [InSelection]
      obtain same | same := orderedEnds_cases anchor cursor <;> rw [same] at order ⊢ <;>
        simp only [Spot.AtMost] at order ⊢ <;> omega
  | rectangle =>
      rw [exists_run_rows]
      simp only [InSelection]
      obtain same | same := orderedEnds_cases anchor cursor <;> rw [same] at order ⊢ <;>
        simp only [Spot.AtMost] at order ⊢ <;> omega

/-- No two runs lie in one row. -/
theorem nodup_selectionRuns (viewportCols : ℕ) (selection : SelectionMode) (cursor anchor : Spot) :
    ((selectionRuns viewportCols selection cursor anchor).map Run.row).Nodup := by
  have order := orderedEnds_atMost anchor cursor
  have rows : ∀ (start stop : ℤ) (from' to' : ℕ),
      ((rowsBetween start stop).map fun r => Run.mk r from' to').map Run.row =
        rowsBetween start stop := by
    intro start stop from' to'
    simp [Function.comp_def]
  unfold selectionRuns
  generalize orderedEnds anchor cursor = sides at order ⊢
  obtain ⟨⟨r1, c1⟩, r2, c2⟩ := sides
  simp only [Spot.AtMost] at order
  cases selection with
  | none => exact List.nodup_nil
  | char =>
      dsimp only
      split
      · exact List.nodup_singleton _
      · rw [List.map_append, List.map_cons, rows, List.map_singleton, List.cons_append,
          List.nodup_cons, List.nodup_append]
        refine ⟨?_, nodup_rowsBetween _ _, List.nodup_singleton _, ?_⟩
        · rw [List.mem_append, mem_rowsBetween, List.mem_singleton]
          dsimp only
          omega
        · intro row member other last
          rw [mem_rowsBetween] at member
          rw [List.mem_singleton] at last
          dsimp only at last
          omega
  | line => exact (rows _ _ _ _) ▸ nodup_rowsBetween _ _
  | rectangle => exact (rows _ _ _ _) ▸ nodup_rowsBetween _ _

theorem covers_of_has {run : Run} {spot : Spot} (positive : 0 < cellWidth)
    (has : run.Has spot) :
    (run.rect offset cellWidth cellHeight termY).Covers
      (cellRect offset cellWidth cellHeight termY spot) := by
  obtain ⟨row, low, high⟩ := has
  rintro x y ⟨⟨left, right⟩, vertical⟩
  have first : (run.start : ℚ) * cellWidth ≤ spot.col * cellWidth :=
    mul_le_mul_of_nonneg_right (Nat.cast_le.mpr low) positive.le
  have last : ((spot.col : ℚ) + 1) * cellWidth ≤ run.stop * cellWidth :=
    mul_le_mul_of_nonneg_right (by exact_mod_cast high) positive.le
  simp only [cellRect] at left right vertical
  rw [← row] at vertical
  refine ⟨⟨?_, ?_⟩, vertical⟩
  · exact first.trans left
  · simp only [Run.rect]
    linarith

theorem apart_of_not_has {run : Run} {spot : Spot} (wide : 0 < cellWidth) (tall : 0 < cellHeight)
    (hasNot : ¬ run.Has spot) :
    (run.rect offset cellWidth cellHeight termY).Apart
      (cellRect offset cellWidth cellHeight termY spot) := by
  rintro x y ⟨⟨left, right⟩, top, bottom⟩ ⟨⟨left', right'⟩, top', bottom'⟩
  simp only [cellRect, Run.rect] at left right top bottom left' right' top' bottom'
  -- two intervals of one length that share a point start less than that length apart
  have sameRow : run.row = spot.row := by
    have above : ((run.row - offset : ℤ) : ℚ) * cellHeight < ((spot.row - offset : ℤ) + 1) * cellHeight := by
      linarith
    have below : ((spot.row - offset : ℤ) : ℚ) * cellHeight < ((run.row - offset : ℤ) + 1) * cellHeight := by
      linarith
    have one := lt_of_mul_lt_mul_right above tall.le
    have other := lt_of_mul_lt_mul_right below tall.le
    have oneInt : run.row - offset < spot.row - offset + 1 := by exact_mod_cast one
    have otherInt : spot.row - offset < run.row - offset + 1 := by exact_mod_cast other
    omega
  have starts : (run.start : ℚ) * cellWidth < (spot.col + 1) * cellWidth := by linarith
  have stops : (spot.col : ℚ) * cellWidth < run.stop * cellWidth := by linarith
  have low := lt_of_mul_lt_mul_right starts wide.le
  have high := lt_of_mul_lt_mul_right stops wide.le
  have lowNat : run.start < spot.col + 1 := by exact_mod_cast low
  have highNat : spot.col < run.stop := by exact_mod_cast high
  exact hasNot ⟨sameRow, by omega, highNat⟩

theorem covers_iff_has {run : Run} {spot : Spot} (wide : 0 < cellWidth) (tall : 0 < cellHeight) :
    (run.rect offset cellWidth cellHeight termY).Covers
      (cellRect offset cellWidth cellHeight termY spot) ↔ run.Has spot := by
  refine ⟨fun covers => ?_, covers_of_has wide⟩
  by_contra hasNot
  have corner : (cellRect offset cellWidth cellHeight termY spot).Holds
      (spot.col * cellWidth) (termY + (spot.row - offset : ℤ) * cellHeight) := by
    simp only [Rect.Holds, cellRect]
    refine ⟨⟨le_rfl, ?_⟩, le_rfl, ?_⟩ <;> linarith
  exact apart_of_not_has wide tall hasNot _ _ corner (covers _ _ corner)

/-- The highlighted cells are those of the selection. -/
theorem highlighted_iff {selection : SelectionMode} {cursor anchor spot : Spot}
    (wide : 0 < cellWidth) (tall : 0 < cellHeight) (inside : spot.col < viewportCols) :
    (∃ rect ∈ computeSelectionRectsStatic offset viewportCols cellWidth cellHeight termY selection
        cursor anchor, rect.Covers (cellRect offset cellWidth cellHeight termY spot)) ↔
      InSelection selection cursor anchor spot := by
  rw [← has_selectionRuns_iff inside, computeSelectionRectsStatic_eq]
  constructor
  · rintro ⟨rect, listed, covers⟩
    obtain ⟨run, member, rfl⟩ := List.mem_map.mp listed
    exact ⟨run, member, (covers_iff_has wide tall).mp covers⟩
  · rintro ⟨run, member, has⟩
    exact ⟨_, List.mem_map_of_mem member, covers_of_has wide has⟩

/-- The rectangles cover each selected cell exactly once, and are disjoint from the others. -/
theorem rects_cover_selection (selection : SelectionMode) (cursor anchor spot : Spot)
    (wide : 0 < cellWidth) (tall : 0 < cellHeight) (inside : spot.col < viewportCols) :
    let rects := computeSelectionRectsStatic offset viewportCols cellWidth cellHeight termY selection
      cursor anchor
    let cell := cellRect offset cellWidth cellHeight termY spot
    (InSelection selection cursor anchor spot → ∃ index : ℕ,
      (∃ rect, rects[index]? = some rect ∧ rect.Covers cell) ∧
        ∀ other rect, rects[other]? = some rect → other ≠ index → rect.Apart cell) ∧
    (¬ InSelection selection cursor anchor spot → ∀ rect ∈ rects, rect.Apart cell) := by
  dsimp only
  rw [← has_selectionRuns_iff inside, computeSelectionRectsStatic_eq]
  constructor
  · rintro ⟨run, member, has⟩
    obtain ⟨index, found⟩ := List.getElem?_of_mem member
    refine ⟨index, ⟨_, by rw [List.getElem?_map, found]; rfl, covers_of_has wide has⟩, ?_⟩
    intro other rect listed different
    rw [List.getElem?_map, Option.map_eq_some_iff] at listed
    obtain ⟨otherRun, foundOther, rfl⟩ := listed
    refine apart_of_not_has wide tall fun hasOther => different ?_
    have rows := nodup_selectionRuns viewportCols selection cursor anchor
    refine (List.getElem?_inj ?_ rows).mp ?_
    · rw [List.length_map]
      exact (List.getElem?_eq_some_iff.mp foundOther).1
    · rw [List.getElem?_map, List.getElem?_map, found, foundOther, Option.map_some, Option.map_some,
        has.1, hasOther.1]
  · intro none rect listed
    obtain ⟨run, member, rfl⟩ := List.mem_map.mp listed
    exact apart_of_not_has wide tall fun has => none ⟨run, member, has⟩

/-- A selection over two rows, from the right to the left. -/
theorem rects_cover_selection_twoRows :
    let rects := computeSelectionRectsStatic 0 4 1 2 0 .char ⟨1, 0⟩ ⟨0, 3⟩
    let cell := cellRect 0 1 2 0 ⟨0, 3⟩
    ∃ index : ℕ, (∃ rect, rects[index]? = some rect ∧ rect.Covers cell) ∧
      ∀ other rect, rects[other]? = some rect → other ≠ index → rect.Apart cell :=
  (rects_cover_selection .char ⟨1, 0⟩ ⟨0, 3⟩ ⟨0, 3⟩ (by decide) (by decide) (by decide)).1
    (.inl ⟨.inr ⟨rfl, by decide⟩, .inl (by decide)⟩)

end Runs

end Boo.Runtime.CopySelection
