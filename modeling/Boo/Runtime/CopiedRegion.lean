/- module: Boo/Runtime/CopiedRegion
   digest: The viewport region that is read to copy a selection, against the highlighted cells. -/

import Boo.Runtime.CopySelection
import Boo.Runtime.SelectionText

set_option autoImplicit false
set_option relaxedAutoImplicit false

namespace Boo.Runtime.CopiedRegion

open Boo.Runtime.CopySelection
open Boo.Runtime.SelectionText

/-- `(row - offset).max(0) as u32`. -/
def viewportRow (row offset : ℤ) : ℕ := (max (row - offset) 0).toNat % 2 ^ 32

/-- What `copy_mode_copy` and `copy_mode_append_copy` read. -/
def copyRequest (selection : SelectionMode) (cursor anchor : Spot) (offset : ℤ)
    (viewportCols : ℕ) : Selection :=
  let (⟨r1, c1⟩, ⟨r2, c2⟩) := orderedEnds anchor cursor
  let (c1, c2) := if selection = .line then (0, viewportCols - 1) else (c1, c2)
  { topLeft := ⟨c1, viewportRow r1 offset⟩
    bottomRight := ⟨c2, viewportRow r2 offset⟩
    rectangle := selection = .rectangle }

/-- What is read for a selection made with the mouse. -/
def viewportSelection (cursor anchor : Spot) (offset : ℤ) : Option Selection :=
  let (top, bottom) := orderedEnds anchor cursor
  if bottom.row < offset then none
  else some {
    topLeft := ⟨top.col, viewportRow top.row offset⟩
    bottomRight := ⟨bottom.col, viewportRow bottom.row offset⟩
    rectangle := false }

/-- How a selection is copied. -/
inductive CopyPath
  | copyMode (selection : SelectionMode)
  | mouse
  deriving DecidableEq

/-- The mode of the highlight; a mouse selection goes by characters. -/
def CopyPath.mode : CopyPath → SelectionMode
  | copyMode selection => selection
  | mouse => .char

def CopyPath.request (path : CopyPath) (cursor anchor : Spot) (offset : ℤ) (viewportCols : ℕ) :
    Option Selection :=
  match path with
  | copyMode selection => some (copyRequest selection cursor anchor offset viewportCols)
  | mouse => viewportSelection cursor anchor offset

/-- The cells of the scrollback that a viewport selection stands for. -/
def Requests (offset : ℤ) (request : Selection) (spot : Spot) : Prop :=
  let top : Spot := ⟨offset + request.topLeft.y, request.topLeft.x⟩
  let bottom : Spot := ⟨offset + request.bottomRight.y, request.bottomRight.x⟩
  if request.rectangle then
    (top.row ≤ spot.row ∧ spot.row ≤ bottom.row) ∧
      min top.col bottom.col ≤ spot.col ∧ spot.col ≤ max top.col bottom.col
  else top.AtMost spot ∧ spot.AtMost bottom

section Regions

variable {offset : ℤ} {viewportCols : ℕ} {cellWidth cellHeight termY : ℚ}

theorem ends_rows (anchor cursor : Spot) :
    (orderedEnds anchor cursor).1.row = min anchor.row cursor.row ∧
      (orderedEnds anchor cursor).2.row = max anchor.row cursor.row := by
  have order := orderedEnds_atMost anchor cursor
  obtain same | same := orderedEnds_cases anchor cursor <;> rw [same] at order ⊢ <;>
    simp only [Spot.AtMost] at order ⊢ <;> omega

theorem viewportRow_exact {row : ℤ} (from' : offset ≤ row) (to' : row < offset + 2 ^ 32) :
    offset + viewportRow row offset = row := by
  unfold viewportRow
  omega

theorem viewportRow_lt (row : ℤ) : (viewportRow row offset : ℤ) < 2 ^ 32 := by
  unfold viewportRow
  omega

/-- Both ends of a selection belong to it. -/
theorem ends_inSelection {selection : SelectionMode} (shown : selection ≠ .none)
    (cursor anchor : Spot) :
    InSelection selection cursor anchor (orderedEnds anchor cursor).1 ∧
      InSelection selection cursor anchor (orderedEnds anchor cursor).2 := by
  have order := orderedEnds_atMost anchor cursor
  cases selection with
  | none => exact absurd rfl shown
  | char =>
      obtain same | same := orderedEnds_cases anchor cursor <;> rw [same] at order ⊢
      · exact ⟨.inl ⟨.refl _, order⟩, .inl ⟨order, .refl _⟩⟩
      · exact ⟨.inr ⟨.refl _, order⟩, .inr ⟨order, .refl _⟩⟩
  | line | rectangle =>
      obtain same | same := orderedEnds_cases anchor cursor <;> rw [same] at order ⊢ <;>
        simp only [InSelection, Spot.AtMost] at order ⊢ <;> omega

/-- Requested cells lie in the viewport, and in rows that a word can count. -/
theorem row_of_requests {request : Selection} {spot : Spot}
    (requests : Requests offset request spot) :
    offset ≤ spot.row ∧ spot.row ≤ offset + request.bottomRight.y := by
  unfold Requests at requests
  dsimp only at requests
  split at requests
  · omega
  · simp only [Spot.AtMost] at requests
    omega

/-- Where both ends can be told in viewport rows, the request stands for the selection. -/
theorem requests_iff {selection : SelectionMode} (shown : selection ≠ .none)
    {cursor anchor spot : Spot} (inside : spot.col < viewportCols)
    (from' : offset ≤ min anchor.row cursor.row)
    (to' : max anchor.row cursor.row < offset + 2 ^ 32) :
    Requests offset (copyRequest selection cursor anchor offset viewportCols) spot ↔
      InSelection selection cursor anchor spot := by
  obtain ⟨first, last⟩ := ends_rows anchor cursor
  have order := orderedEnds_atMost anchor cursor
  have top : offset + viewportRow (orderedEnds anchor cursor).1.row offset =
      (orderedEnds anchor cursor).1.row := viewportRow_exact (by omega) (by omega)
  have bottom : offset + viewportRow (orderedEnds anchor cursor).2.row offset =
      (orderedEnds anchor cursor).2.row := viewportRow_exact (by omega) (by omega)
  cases selection with
  | none => exact absurd rfl shown
  | char =>
      have region : Requests offset (copyRequest .char cursor anchor offset viewportCols) spot ↔
          Spot.AtMost ⟨offset + viewportRow (orderedEnds anchor cursor).1.row offset,
            (orderedEnds anchor cursor).1.col⟩ spot ∧
          spot.AtMost ⟨offset + viewportRow (orderedEnds anchor cursor).2.row offset,
            (orderedEnds anchor cursor).2.col⟩ := Iff.rfl
      rw [region, top, bottom, inSelection_char_iff]
  | line =>
      have region : Requests offset (copyRequest .line cursor anchor offset viewportCols) spot ↔
          Spot.AtMost ⟨offset + viewportRow (orderedEnds anchor cursor).1.row offset, 0⟩ spot ∧
          spot.AtMost ⟨offset + viewportRow (orderedEnds anchor cursor).2.row offset,
            viewportCols - 1⟩ := Iff.rfl
      rw [region, top, bottom]
      simp only [InSelection, Spot.AtMost]
      omega
  | rectangle =>
      have region : Requests offset (copyRequest .rectangle cursor anchor offset viewportCols) spot ↔
          (offset + viewportRow (orderedEnds anchor cursor).1.row offset ≤ spot.row ∧
            spot.row ≤ offset + viewportRow (orderedEnds anchor cursor).2.row offset) ∧
          min (orderedEnds anchor cursor).1.col (orderedEnds anchor cursor).2.col ≤ spot.col ∧
          spot.col ≤ max (orderedEnds anchor cursor).1.col (orderedEnds anchor cursor).2.col :=
        Iff.rfl
      rw [region, top, bottom, first, last]
      simp only [InSelection]
      obtain same | same := orderedEnds_cases anchor cursor <;> rw [same]
      rw [min_comm cursor.col, max_comm cursor.col]

/-- A mouse selection is read as one by characters, unless it lies above the viewport. -/
theorem viewportSelection_eq (cursor anchor : Spot) :
    viewportSelection cursor anchor offset =
      if max anchor.row cursor.row < offset then none
      else some (copyRequest .char cursor anchor offset viewportCols) := by
  rw [← (ends_rows anchor cursor).2]
  rfl

theorem bottom_lt {path : CopyPath} {cursor anchor : Spot} {request : Selection}
    (requested : request ∈ path.request cursor anchor offset viewportCols) :
    (request.bottomRight.y : ℤ) < 2 ^ 32 := by
  cases path with
  | copyMode selection =>
      obtain rfl := Option.some.inj requested
      exact viewportRow_lt _
  | mouse =>
      rw [CopyPath.request, @viewportSelection_eq offset viewportCols] at requested
      split at requested
      · cases requested
      · obtain rfl := Option.some.inj requested
        exact viewportRow_lt _

/-- The region that is read covers exactly the highlighted cells if and only if no end of the
selection lies above the viewport, or as far below it as a word counts. -/
theorem copied_iff_highlighted (path : CopyPath) (shown : path.mode ≠ .none) (cursor anchor : Spot)
    (wide : 0 < cellWidth) (tall : 0 < cellHeight) (cursorInside : cursor.col < viewportCols)
    (anchorInside : anchor.col < viewportCols) :
    (∀ spot : Spot, spot.col < viewportCols →
      ((∃ request ∈ path.request cursor anchor offset viewportCols, Requests offset request spot) ↔
        ∃ rect ∈ computeSelectionRectsStatic offset viewportCols cellWidth cellHeight termY path.mode
          cursor anchor, rect.Covers (cellRect offset cellWidth cellHeight termY spot))) ↔
      offset ≤ min anchor.row cursor.row ∧ max anchor.row cursor.row < offset + 2 ^ 32 := by
  obtain ⟨first, last⟩ := ends_rows anchor cursor
  obtain ⟨firstIn, lastIn⟩ := ends_inSelection shown cursor anchor
  constructor
  · intro same
    have requested : ∀ spot : Spot, spot.col < viewportCols →
        InSelection path.mode cursor anchor spot →
        ∃ request ∈ path.request cursor anchor offset viewportCols, Requests offset request spot :=
      fun spot inside selected =>
        (same spot inside).mpr ((highlighted_iff wide tall inside).mpr selected)
    have columns : (orderedEnds anchor cursor).1.col < viewportCols ∧
        (orderedEnds anchor cursor).2.col < viewportCols := by
      obtain ordered | ordered := orderedEnds_cases anchor cursor <;> rw [ordered]
      · exact ⟨anchorInside, cursorInside⟩
      · exact ⟨cursorInside, anchorInside⟩
    obtain ⟨_, _, top⟩ := requested _ columns.1 firstIn
    obtain ⟨request, asked, bottom⟩ := requested _ columns.2 lastIn
    have low := (row_of_requests top).1
    have high := (row_of_requests bottom).2
    have word := bottom_lt asked
    omega
  · rintro ⟨from', to'⟩ spot inside
    rw [highlighted_iff wide tall inside, ← requests_iff shown inside from' to']
    cases path with
    | copyMode selection => simp [CopyPath.request, CopyPath.mode]
    | mouse =>
        rw [CopyPath.request, @viewportSelection_eq offset viewportCols, if_neg (by omega)]
        simp [CopyPath.mode]

theorem copied_iff_highlighted_visible :
    (∃ request ∈ (CopyPath.copyMode .rectangle).request ⟨12, 3⟩ ⟨10, 7⟩ 10 80,
      Requests 10 request ⟨11, 5⟩) ↔
      ∃ rect ∈ computeSelectionRectsStatic 10 80 1 2 0 .rectangle ⟨12, 3⟩ ⟨10, 7⟩,
        rect.Covers (cellRect 10 1 2 0 ⟨11, 5⟩) :=
  (copied_iff_highlighted (.copyMode .rectangle) (by decide) ⟨12, 3⟩ ⟨10, 7⟩ (by decide) (by decide)
    (by decide) (by decide)).mpr (by decide) ⟨11, 5⟩ (by decide)

/-- A selection that begins above the viewport is read from the first row of the viewport on. -/
theorem scrolledStart_lost :
    ¬ ∀ (path : CopyPath) (cursor anchor : Spot) (offset : ℤ) (viewportCols : ℕ), path.mode ≠ .none →
      cursor.col < viewportCols → anchor.col < viewportCols →
      ∀ spot : Spot, spot.col < viewportCols →
        ((∃ request ∈ path.request cursor anchor offset viewportCols, Requests offset request spot) ↔
          ∃ rect ∈ computeSelectionRectsStatic offset viewportCols 1 1 0 path.mode cursor anchor,
            rect.Covers (cellRect offset 1 1 0 spot)) := by
  intro always
  have top := (always (.copyMode .char) ⟨12, 0⟩ ⟨8, 0⟩ 10 80 (by decide) (by decide) (by decide)
    ⟨8, 0⟩ (by decide)).mpr ((highlighted_iff (by decide) (by decide) (by decide)).mpr
      (.inl ⟨.refl _, .inl (by decide)⟩))
  obtain ⟨_, _, requests⟩ := top
  exact absurd (row_of_requests requests).1 (by decide)

end Regions

end Boo.Runtime.CopiedRegion
