/- module: Boo/Wire/Overlay
   digest: What a list of changed rows writes on a row-major grid, cell by cell. -/

import Boo.Wire.Delta
import Boo.Lib.WriteRun
import Boo.Lib.Records

set_option autoImplicit false
set_option relaxedAutoImplicit false

namespace Boo.Wire.Overlay

open Boo.Lib.LittleEndian
open Boo.Lib.WriteRun
open Boo.Lib.Records
open Boo.Wire.Message
open Boo.Wire.Delta

/-- The placement check that both decoders make before they write a row's cells. -/
def Fits (rows cols : Nat) (changed : ChangedRow) : Prop :=
  changed.row < rows ∧ changed.startCol < cols ∧ changed.startCol + changed.cells.length ≤ cols

instance (rows cols : Nat) (changed : ChangedRow) : Decidable (Fits rows cols changed) :=
  inferInstanceAs (Decidable (_ ∧ _ ∧ _))

def startOf (cols : Nat) (changed : ChangedRow) : Nat := changed.row * cols + changed.startCol

/-- Row segments written one after another; a segment that does not fit is skipped. -/
def overlay {α : Type} (conv : RemoteCell → α) (rows cols : Nat) :
    List α → List ChangedRow → List α
  | cells, [] => cells
  | cells, changed :: changes =>
      if Fits rows cols changed then
        overlay conv rows cols
          (writeRun cells (startOf cols changed) (changed.cells.map conv)) changes
      else overlay conv rows cols cells changes

/-- The segment `changed` writes position `i` of a `rows` × `cols` grid. -/
def Covers (rows cols : Nat) (changed : ChangedRow) (i : Nat) : Prop :=
  Fits rows cols changed ∧ startOf cols changed ≤ i ∧
    i < startOf cols changed + changed.cells.length

instance (rows cols : Nat) (changed : ChangedRow) (i : Nat) :
    Decidable (Covers rows cols changed i) :=
  inferInstanceAs (Decidable (_ ∧ _ ∧ _))

/-- The value that the last segment covering position `i` writes there. -/
def written (rows cols : Nat) (i : Nat) : List ChangedRow → Option RemoteCell
  | [] => none
  | changed :: changes =>
      match written rows cols i changes with
      | some cell => some cell
      | none =>
          if Covers rows cols changed i then changed.cells[i - startOf cols changed]? else none

theorem overlay_append {α : Type} (conv : RemoteCell → α) (rows cols : Nat) (cells : List α)
    (changes more : List ChangedRow) :
    overlay conv rows cols cells (changes ++ more) =
      overlay conv rows cols (overlay conv rows cols cells changes) more := by
  induction changes generalizing cells with
  | nil => rfl
  | cons changed changes ih =>
      rw [List.cons_append, overlay, overlay]
      split
      · exact ih _
      · exact ih _

private theorem getElem?_write {α : Type} (conv : RemoteCell → α) (rows cols : Nat)
    (cells : List α) (changed : ChangedRow) (fits : Fits rows cols changed) (i : Nat) :
    (writeRun cells (startOf cols changed) (changed.cells.map conv))[i]? =
      cells[i]?.map fun old =>
        ((if Covers rows cols changed i then changed.cells[i - startOf cols changed]?
          else none).map conv).getD old := by
  by_cases inside : startOf cols changed ≤ i ∧ i < startOf cols changed + changed.cells.length
  · have covers : Covers rows cols changed i := ⟨fits, inside⟩
    rw [if_pos covers]
    by_cases bound : i < cells.length
    · have index : i - startOf cols changed < changed.cells.length := by omega
      rw [getElem?_writeRun_inside inside.1 (by simpa using inside.2) bound]
      simp [bound, index]
    · have missing : cells[i]? = none := List.getElem?_eq_none (by omega)
      rw [missing, List.getElem?_eq_none (by rw [length_writeRun]; omega)]
      rfl
  · have outside : ¬ Covers rows cols changed i := fun covers => inside covers.2
    rw [if_neg outside, getElem?_writeRun_outside]
    · cases cells[i]? <;> rfl
    · rw [List.length_map]
      omega

/-- Every position holds the value written last, or its old value. -/
theorem getElem?_overlay {α : Type} (conv : RemoteCell → α) (rows cols : Nat)
    (cells : List α) (changes : List ChangedRow) (i : Nat) :
    (overlay conv rows cols cells changes)[i]? =
      cells[i]?.map fun old => ((written rows cols i changes).map conv).getD old := by
  induction changes generalizing cells with
  | nil => cases h : cells[i]? <;> simp [overlay, written, h]
  | cons changed changes ih =>
      rw [overlay, written]
      by_cases fits : Fits rows cols changed
      · rw [if_pos fits, ih, getElem?_write conv rows cols cells changed fits]
        cases written rows cols i changes <;> cases cells[i]? <;> rfl
      · have misses : ¬ Covers rows cols changed i := fun covers => fits covers.1
        rw [if_neg fits, if_neg misses, ih]
        cases written rows cols i changes <;> rfl

theorem written_some {rows cols i : Nat} {changes : List ChangedRow} {cell : RemoteCell}
    (h : written rows cols i changes = some cell) :
    ∃ changed ∈ changes, Covers rows cols changed i ∧
      changed.cells[i - startOf cols changed]? = some cell := by
  induction changes with
  | nil => cases h
  | cons changed changes ih =>
      rw [written] at h
      cases later : written rows cols i changes with
      | some found =>
          rw [later] at h
          obtain ⟨other, member, covers, value⟩ := ih (later.trans h)
          exact ⟨other, List.mem_cons_of_mem _ member, covers, value⟩
      | none =>
          rw [later] at h
          dsimp only at h
          split at h
          · rename_i covers
            exact ⟨changed, List.mem_cons_self, covers, h⟩
          · cases h

theorem written_isSome {rows cols i : Nat} {changes : List ChangedRow} {changed : ChangedRow}
    (member : changed ∈ changes) (covers : Covers rows cols changed i) :
    (written rows cols i changes).isSome := by
  induction changes with
  | nil => cases member
  | cons head changes ih =>
      rw [written]
      cases later : written rows cols i changes with
      | some found => rfl
      | none =>
          rcases List.mem_cons.mp member with rfl | member
          · have index : i - startOf cols changed < changed.cells.length := by
              have upper := covers.2.2
              have lower := covers.2.1
              omega
            simp [covers, index]
          · rw [later] at ih
            simp at ih
            exact absurd member (by simpa using ih)

section ChangedRows

variable (previous current : RemoteFullState)

/-- Position `i` of the grid lies in a segment of the delta from `previous` to `current`. -/
def Touched (i : Nat) : Prop :=
  i < current.rows.toNat * current.cols.toNat ∧
    InSpan (slice previous.cells (i / current.cols.toNat * current.cols.toNat)
        current.cols.toNat)
      (rowCells current (i / current.cols.toNat)) (i % current.cols.toNat)

/-- The grid rows whose cells differ. -/
def differingRows : List Nat :=
  (List.range current.rows.toNat).filter fun row =>
    slice previous.cells (row * current.cols.toNat) current.cols.toNat ≠ rowCells current row

end ChangedRows

variable {previous current : RemoteFullState}

theorem map_row_changedRows :
    (changedRows previous current).map ChangedRow.row = differingRows previous current := by
  rw [changedRows, differingRows]
  induction List.range current.rows.toNat with
  | nil => rfl
  | cons row rows ih =>
      by_cases same : slice previous.cells (row * current.cols.toNat) current.cols.toNat =
          rowCells current row
      · simpa [List.filterMap_cons, List.filter_cons, same] using ih
      · simpa [List.filterMap_cons, List.filter_cons, same] using ih

theorem length_changedRows_le (previous current : RemoteFullState) :
    (changedRows previous current).length ≤ current.rows.toNat := by
  have bound := List.length_filterMap_le (fun row =>
    let before := slice previous.cells (row * current.cols.toNat) current.cols.toNat
    let after := rowCells current row
    if before ≠ after then
      some (⟨row, (changedSegment before after).1, (changedSegment before after).2⟩ : ChangedRow)
    else none) (List.range current.rows.toNat)
  rw [List.length_range] at bound
  exact bound

theorem mem_changedRows {changed : ChangedRow} (member : changed ∈ changedRows previous current) :
    changed.row < current.rows.toNat ∧
      slice previous.cells (changed.row * current.cols.toNat) current.cols.toNat ≠
        rowCells current changed.row ∧
      (changed.startCol, changed.cells) =
        changedSegment
          (slice previous.cells (changed.row * current.cols.toNat) current.cols.toNat)
          (rowCells current changed.row) := by
  simp only [changedRows, List.mem_filterMap, List.mem_range] at member
  obtain ⟨row, bound, built⟩ := member
  split at built
  · rename_i differ
    cases built
    exact ⟨bound, differ, rfl⟩
  · cases built

theorem exists_changedRow {row : Nat} (bound : row < current.rows.toNat)
    (differ : slice previous.cells (row * current.cols.toNat) current.cols.toNat ≠
      rowCells current row) :
    ∃ changed ∈ changedRows previous current, changed.row = row := by
  have listed : row ∈ (changedRows previous current).map ChangedRow.row := by
    rw [map_row_changedRows, differingRows]
    simp [bound, differ]
  obtain ⟨changed, member, rowEq⟩ := List.mem_map.mp listed
  exact ⟨changed, member, rowEq⟩

/-- Two grids of the same shape, as `encode_delta` gets them. -/
structure SameShape (previous current : RemoteFullState) : Prop where
  previous_wf : previous.WellFormed
  current_wf : current.WellFormed
  rows_eq : previous.rows = current.rows
  cols_eq : previous.cols = current.cols

theorem SameShape.length_previous (shape : SameShape previous current) :
    previous.cells.length = current.rows.toNat * current.cols.toNat := by
  rw [shape.previous_wf.cells_length, shape.rows_eq, shape.cols_eq]

private theorem row_fits {rows row : Nat} (cols : Nat) (bound : row < rows) :
    row * cols + cols ≤ rows * cols := by
  have step : (row + 1) * cols ≤ rows * cols := Nat.mul_le_mul_right cols bound
  rw [Nat.succ_mul] at step
  exact step

private theorem length_row {α : Type} {cells : List α} {rows cols row : Nat}
    (len : cells.length = rows * cols) (bound : row < rows) :
    (slice cells (row * cols) cols).length = cols := by
  have fits := row_fits cols bound
  rw [slice, List.length_take, List.length_drop, len]
  omega

private theorem getElem?_row {α : Type} {cells : List α} {cols row col : Nat}
    (bound : col < cols) : (slice cells (row * cols) cols)[col]? = cells[row * cols + col]? := by
  rw [slice, List.getElem?_take_of_lt bound, List.getElem?_drop]

/-- What one segment of a delta covers and writes. -/
theorem changedRow_spec (shape : SameShape previous current) {changed : ChangedRow}
    (member : changed ∈ changedRows previous current) :
    changed.row < current.rows.toNat ∧
      changed.startCol + changed.cells.length ≤ current.cols.toNat ∧
      0 < changed.cells.length ∧
      (∀ k, k < changed.cells.length → changed.cells[k]? =
        current.cells[startOf current.cols.toNat changed + k]?) ∧
      ∀ col, (changed.startCol ≤ col ∧ col < changed.startCol + changed.cells.length) ↔
        InSpan (slice previous.cells (changed.row * current.cols.toNat) current.cols.toNat)
          (rowCells current changed.row) col := by
  obtain ⟨bound, differ, segment⟩ := mem_changedRows member
  have lenBefore := length_row shape.length_previous bound
  have lenAfter : (rowCells current changed.row).length = current.cols.toNat :=
    length_row shape.current_wf.cells_length bound
  obtain ⟨fits, values, span⟩ := changedSegment_spec (lenBefore.trans lenAfter.symm) differ
  rw [← segment] at fits values span
  dsimp only at fits values span
  rw [lenAfter] at fits
  refine ⟨bound, fits, ?_, ?_, span⟩
  · -- the rows differ somewhere, and that column is in the span
    by_contra empty
    apply differ
    refine List.ext_getElem? fun col => ?_
    by_contra differs
    have inside := (span col).mpr ⟨col, col, le_refl col, le_refl col, differs, differs⟩
    omega
  · intro k hk
    rw [values k hk, rowCells, getElem?_row (by omega), startOf]
    congr 1
    omega

theorem fits_of_mem (shape : SameShape previous current) {changed : ChangedRow}
    (member : changed ∈ changedRows previous current) :
    Fits current.rows.toNat current.cols.toNat changed := by
  obtain ⟨bound, fits, nonempty, -, -⟩ := changedRow_spec shape member
  exact ⟨bound, by omega, fits⟩

/-- A segment whose three header fields fit in sixteen bits. -/
structure Encodable (changed : ChangedRow) : Prop where
  row_lt : changed.row < 65536
  startCol_lt : changed.startCol < 65536
  length_lt : changed.cells.length < 65536

theorem encodable_of_mem {previous current : RemoteFullState} (shape : SameShape previous current)
    {changed : ChangedRow} (member : changed ∈ changedRows previous current) :
    Encodable changed := by
  obtain ⟨row, start, width⟩ := fits_of_mem shape member
  have rowsSmall : current.rows.toNat < 2 ^ 16 := current.rows.toNat_lt
  have colsSmall : current.cols.toNat < 2 ^ 16 := current.cols.toNat_lt
  exact ⟨by omega, by omega, by omega⟩

theorem toNat_ofNat_u16 {n : Nat} (small : n < 65536) : (UInt16.ofNat n).toNat = n :=
  UInt16.toNat_ofNat_of_lt' small

theorem length_cells (cells : List RemoteCell) :
    (cells.flatMap encodeCell).length = cells.length * remoteCellEncodedLen :=
  length_flatMap_const encodeCell 12 length_encodeCell cells

/-- A row of a delta: row, start column and cell count, then twelve bytes a cell. -/
def rowFraming : Framing UInt8 where
  head := 6
  body data := (u16At data 4).toNat * remoteCellEncodedLen
  body_append front rest long := by rw [u16At_append long]

theorem isRecord_encodeChangedRow {changed : ChangedRow} (encodable : Encodable changed) :
    rowFraming.IsRecord (encodeChangedRow changed) := by
  have start : Rest (encodeChangedRow changed) 0 (encodeChangedRow changed) := rest_zero _
  nth_rewrite 2 [encodeChangedRow] at start
  simp only [List.append_assoc] at start
  have atCount := start.skip.skip
  simp only [length_leU16, Nat.reduceAdd] at atCount
  have count := u16At_rest atCount
  have length : (encodeChangedRow changed).length =
      6 + changed.cells.length * remoteCellEncodedLen := by
    simp only [encodeChangedRow, List.length_append, length_leU16, length_cells]
  rw [Framing.IsRecord, length, Framing.size]
  simp only [rowFraming, count, toNat_ofNat_u16 encodable.length_lt]

private theorem div_mod_of_row {cols col : Nat} (row : Nat) (bound : col < cols) :
    (row * cols + col) / cols = row ∧ (row * cols + col) % cols = col := by
  have pos : 0 < cols := by omega
  constructor
  · rw [Nat.add_comm, Nat.add_mul_div_right _ _ pos, Nat.div_eq_of_lt bound, Nat.zero_add]
  · rw [Nat.add_comm, Nat.add_mul_mod_self_right, Nat.mod_eq_of_lt bound]

/-- On a grid of the delta's own shape, exactly the touched positions are written, each
with the current cell. -/
theorem written_changedRows (shape : SameShape previous current) (i : Nat) :
    (Touched previous current i → written current.rows.toNat current.cols.toNat i
        (changedRows previous current) = current.cells[i]?) ∧
      (¬ Touched previous current i → written current.rows.toNat current.cols.toNat i
        (changedRows previous current) = none) := by
  have value : ∀ cell, written current.rows.toNat current.cols.toNat i
      (changedRows previous current) = some cell →
      Touched previous current i ∧ current.cells[i]? = some cell := by
    intro cell h
    obtain ⟨changed, member, ⟨-, lower, upper⟩, found⟩ := written_some h
    obtain ⟨bound, fits, -, values, span⟩ := changedRow_spec shape member
    obtain ⟨col, rfl⟩ := Nat.exists_eq_add_of_le lower
    rw [Nat.add_sub_cancel_left] at found
    have small : col < changed.cells.length := by omega
    have position : startOf current.cols.toNat changed + col =
        changed.row * current.cols.toNat + (changed.startCol + col) := by
      rw [startOf]; omega
    have coords := div_mod_of_row changed.row
      (show changed.startCol + col < current.cols.toNat by omega)
    have inRow := row_fits current.cols.toNat bound
    refine ⟨⟨?_, ?_⟩, ?_⟩
    · rw [position]; omega
    · rw [position, coords.1, coords.2]
      exact (span _).mp ⟨by omega, by omega⟩
    · rw [← values col small, found]
  constructor
  · rintro ⟨bound, inside⟩
    have colBound : i % current.cols.toNat < current.cols.toNat :=
      Nat.mod_lt _ shape.current_wf.cols_pos
    have rowBound : i / current.cols.toNat < current.rows.toNat :=
      Nat.div_lt_of_lt_mul (by rwa [Nat.mul_comm])
    have differ : slice previous.cells (i / current.cols.toNat * current.cols.toNat)
        current.cols.toNat ≠ rowCells current (i / current.cols.toNat) := by
      obtain ⟨first, -, -, -, differs, -⟩ := inside
      intro same
      rw [same] at differs
      exact differs rfl
    obtain ⟨changed, member, rowEq⟩ := exists_changedRow rowBound differ
    obtain ⟨-, -, -, -, span⟩ := changedRow_spec shape member
    rw [rowEq] at span
    have columns := (span _).mpr inside
    have split : i / current.cols.toNat * current.cols.toNat + i % current.cols.toNat = i :=
      Nat.div_add_mod' i _
    have covers : Covers current.rows.toNat current.cols.toNat changed i := by
      refine ⟨fits_of_mem shape member, ?_, ?_⟩ <;> rw [startOf, rowEq] <;> omega
    have present := written_isSome member covers
    obtain ⟨cell, found⟩ := Option.isSome_iff_exists.mp present
    rw [found, (value cell found).2]
  · intro untouched
    cases found : written current.rows.toNat current.cols.toNat i
        (changedRows previous current) with
    | none => rfl
    | some cell => exact absurd (value cell found).1 untouched

/-- Outside the touched positions the two grids agree. -/
theorem eq_of_not_touched (shape : SameShape previous current) {i : Nat}
    (untouched : ¬ Touched previous current i) : previous.cells[i]? = current.cells[i]? := by
  by_cases bound : i < current.rows.toNat * current.cols.toNat
  · by_contra differs
    apply untouched
    have colBound : i % current.cols.toNat < current.cols.toNat :=
      Nat.mod_lt _ shape.current_wf.cols_pos
    have split : i / current.cols.toNat * current.cols.toNat + i % current.cols.toNat = i :=
      Nat.div_add_mod' i _
    have columnDiffers : (slice previous.cells (i / current.cols.toNat * current.cols.toNat)
          current.cols.toNat)[i % current.cols.toNat]? ≠
        (rowCells current (i / current.cols.toNat))[i % current.cols.toNat]? := by
      rw [rowCells, getElem?_row colBound, getElem?_row colBound, split]
      exact differs
    exact ⟨bound, _, _, le_refl _, le_refl _, columnDiffers, columnDiffers⟩
  · rw [List.getElem?_eq_none (by rw [shape.length_previous]; omega),
      List.getElem?_eq_none (by rw [shape.current_wf.cells_length]; omega)]

/-- Overlaying a delta of the right shape on the previous grid gives the current grid
wherever the two conversions agree. -/
theorem overlay_changedRows {α : Type} (shape : SameShape previous current)
    (full delta : RemoteCell → α) :
    overlay delta current.rows.toNat current.cols.toNat (previous.cells.map full)
        (changedRows previous current) = current.cells.map full ↔
      ∀ i, Touched previous current i →
        current.cells[i]?.map delta = current.cells[i]?.map full := by
  have position : ∀ i, (overlay delta current.rows.toNat current.cols.toNat
        (previous.cells.map full) (changedRows previous current))[i]? =
      (current.cells.map full)[i]? ↔ (Touched previous current i →
        current.cells[i]?.map delta = current.cells[i]?.map full) := by
    intro i
    rw [getElem?_overlay, List.getElem?_map, List.getElem?_map]
    by_cases touched : Touched previous current i
    · have bound : i < current.cells.length := by
        rw [shape.current_wf.cells_length]
        exact touched.1
      have bound' : i < previous.cells.length := by
        rw [shape.length_previous]
        exact touched.1
      rw [(written_changedRows shape i).1 touched]
      simp [touched, bound, bound']
    · rw [(written_changedRows shape i).2 touched, eq_of_not_touched shape touched]
      simp [touched, Function.comp_def]
  rw [List.ext_getElem?_iff]
  exact forall_congr' position

end Boo.Wire.Overlay
