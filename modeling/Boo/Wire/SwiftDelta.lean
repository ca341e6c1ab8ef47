/- module: Boo/Wire/SwiftDelta
   digest: The iOS decoder inverts the encoders, and a delta it applies is an overlay. -/

import Boo.Wire.Overlay
import Boo.Wire.SwiftCodec

set_option autoImplicit false
set_option relaxedAutoImplicit false

namespace Boo.Wire.SwiftDelta

open Boo.Lib.LittleEndian
open Boo.Lib.WriteRun
open Boo.Wire.Message
open Boo.Wire.Delta
open Boo.Wire.Overlay
open Boo.Wire.SwiftCodec

/-- The decoded form of a wire cell. -/
def decodedCell (cell : RemoteCell) : DecodedWireCell where
  codepoint := cell.codepoint
  fgR := cell.fg.r
  fgG := cell.fg.g
  fgB := cell.fg.b
  bgR := cell.bg.r
  bgG := cell.bg.g
  bgB := cell.bg.b
  styleFlags := cell.styleFlags
  wide := boolByte cell.wide

/-- The row replica that announces `rowIds` for `state`. -/
def replicaOf (state : RemoteFullState) (rowIds : List UInt64) : DecodedRowReplicaMetadata where
  epoch := state.epoch
  viewportTop := state.viewportTop
  scrollbackTotal := state.scrollbackTotal
  cursorRowId := saturatingAdd state.viewportTop (UInt64.ofNat state.cursorY.toNat)
  rowIds := rowIds

/-- The screen that a full-state frame of `state` stands for. -/
def decodedScreen (state : RemoteFullState) : DecodedWireScreenState where
  rows := state.rows
  cols := state.cols
  cells := state.cells.map decodedCell
  cursorX := state.cursorX
  cursorY := state.cursorY
  cursorVisible := state.cursorVisible
  cursorBlinking := state.cursorBlinking
  cursorStyle := state.cursorStyle
  rowReplica := some (replicaOf state ((List.range state.rows.toNat).map (rowId state)))

theorem cellAt_rest {data rest : List UInt8} {offset : Nat} {cell : RemoteCell}
    (h : Rest data offset (encodeCell cell ++ rest)) : cellAt data offset = decodedCell cell := by
  simp only [encodeCell, RgbColor.bytes, List.append_assoc, List.cons_append,
    List.nil_append] at h
  have h4 := h.skip
  rw [length_leU32] at h4
  have h5 := h4.next
  have h6 := h5.next
  have h7 := h6.next
  have h8 := h7.next
  have h9 := h8.next
  have h10 := h9.next
  have h11 := h10.next
  simp only [cellAt, decodedCell, u32At_rest h, u8At_rest h4, u8At_rest h5, u8At_rest h6,
    u8At_rest h7, u8At_rest h8, u8At_rest h9, u8At_rest h10, u8At_rest h11]

theorem readMany_cells {data rest : List UInt8} {offset : Nat} {cells : List RemoteCell}
    (h : Rest data offset (cells.flatMap encodeCell ++ rest)) :
    readMany (cellAt data) remoteCellEncodedLen offset cells.length = cells.map decodedCell :=
  readMany_encoded data encodeCell (cellAt data) decodedCell remoteCellEncodedLen
    length_encodeCell (fun _ _ _ one => cellAt_rest one) cells offset rest h

theorem decodeRowReplicaTrailer_rest {data : List UInt8} {offset : Nat}
    {state : RemoteFullState} {rowIds : List UInt64} (few : rowIds.length ≤ 65535)
    (h : Rest data offset (appendRowReplicaTrailer state rowIds)) :
    decodeRowReplicaTrailer data offset = some (replicaOf state rowIds) := by
  have count : (trailerCount rowIds).toNat = rowIds.length := by
    rw [trailerCount, Nat.min_eq_left few, UInt16.toNat_ofNat_of_lt']
    exact Nat.lt_of_le_of_lt few (by decide)
  have ids : rowIds.take 65535 = rowIds := List.take_of_length_le few
  rw [appendRowReplicaTrailer, ids] at h
  simp only [List.append_assoc] at h
  have idsLen := length_flatMap_const leU64 8 length_leU64 rowIds
  have total := h.length_eq
  simp only [List.length_append, length_leU64, length_leU16, idsLen] at total
  have magicLen : rowReplicaTrailerMagic.length = 4 := rfl
  rw [magicLen] at total
  have h4 := h.skip
  have h12 := h4.skip
  have h20 := h12.skip
  have h28 := h20.skip
  have h36 := h28.skip
  have h38 := h36.skip
  simp only [magicLen, length_leU64, length_leU16, Nat.add_assoc, Nat.reduceAdd]
    at h4 h12 h20 h28 h36 h38
  have rowCount : (u16At data (offset + 36)).toNat = rowIds.length := by
    rw [u16At_rest h36, count]
  have idValues : readMany (u64At data) 8 (offset + 38) rowIds.length = rowIds := by
    have read := readMany_encoded data leU64 (u64At data) id 8 length_leU64
      (fun _ _ _ one => u64At_rest one) rowIds (offset + 38) []
      (by rw [List.append_nil]; exact h38)
    rwa [List.map_id] at read
  have longEnough : ¬ data.length < offset + 38 := by omega
  have idsFit : ¬ data.length < offset + 38 + rowIds.length * 8 := by omega
  have signed : ¬ slice data offset 4 ≠ rowReplicaTrailerMagic := not_not.mpr (h.slice_eq magicLen)
  rw [decodeRowReplicaTrailer, if_neg longEnough, if_neg signed]
  dsimp only
  rw [rowCount, if_neg idsFit, idValues, u64At_rest h4, u64At_rest h12, u64At_rest h20,
    u64At_rest h28]
  rfl

/-- `decodeFullState` inverts `encode_full_state`. -/
theorem decodeFullState_encodeFullState {state : RemoteFullState} (wf : state.WellFormed)
    (latestInputSeq : Option UInt64) (isLocal : Bool) :
    decodeFullState (encodeFullState state latestInputSeq isLocal) isLocal =
      some (decodedScreen state) := by
  generalize encoded : encodeFullState state latestInputSeq isLocal = data
  have h0 : Rest data 0 (encodeFullState state latestInputSeq isLocal) :=
    encoded ▸ rest_zero _
  rw [encodeFullState] at h0
  simp only [List.append_assoc, List.cons_append, List.nil_append] at h0
  have hr := h0.skip
  rw [length_inputSeqPrefix, Nat.zero_add] at hr
  have h2 := hr.skip
  have h4 := h2.skip
  have h6 := h4.skip
  have h8 := h6.skip
  have h9 := h8.next
  have h10 := h9.next
  have h14 := h10.skip
  have hTrailer := h14.skip
  simp only [length_leU16, length_leI32, Nat.add_assoc, Nat.reduceAdd] at h2 h4 h6 h8 h9 h10 h14
  simp only [length_leU16, length_leI32, length_cells, Nat.add_assoc, Nat.reduceAdd] at hTrailer
  have total := h14.length_eq
  simp only [List.length_append, length_cells] at total
  rw [wf.cells_length] at total hTrailer
  have cells := readMany_cells h14
  rw [wf.cells_length] at cells
  have headerFits : ¬ data.length < prefixLen isLocal + remoteFullStateHeaderLen := by
    simp only [remoteFullStateHeaderLen]
    omega
  have dims : ¬ ¬ (0 < state.rows.toNat ∧ 0 < state.cols.toNat) :=
    not_not.mpr ⟨wf.rows_pos, wf.cols_pos⟩
  have cellsFit : ¬ data.length < prefixLen isLocal + remoteFullStateHeaderLen +
      state.rows.toNat * state.cols.toNat * remoteCellEncodedLen := by
    simp only [remoteFullStateHeaderLen]
    omega
  have fewRows : ((List.range state.rows.toNat).map (rowId state)).length ≤ 65535 := by
    have small : state.rows.toNat < 2 ^ 16 := state.rows.toNat_lt
    rw [List.length_map, List.length_range]
    omega
  have trailer := decodeRowReplicaTrailer_rest fewRows hTrailer
  rw [decodeFullState, if_neg headerFits]
  dsimp only
  rw [u16At_rest hr, u16At_rest h2, if_neg dims, if_neg cellsFit]
  simp only [remoteFullStateHeaderLen, Nat.add_assoc]
  rw [cells, trailer, u16At_rest h4, u16At_rest h6, u8At_rest h8, u8At_rest h9, i32At_rest h10,
    boolByte_ne_zero, boolByte_ne_zero]
  rfl

/-- The row loop of `applyDelta` performs the overlay and stops at the trailer. -/
theorem applyDeltaRows_encoded {data tail : List UInt8} (changes : List ChangedRow)
    (encodable : ∀ changed ∈ changes, Encodable changed) (offset : Nat)
    (state : DecodedWireScreenState)
    (h : Rest data offset (changes.flatMap encodeChangedRow ++ tail)) :
    ∃ trailer, Rest data trailer tail ∧
      applyDeltaRows data changes.length offset state =
        (true, trailer, { state with
          cells := overlay decodedCell state.rows.toNat state.cols.toNat state.cells changes }) := by
  induction changes generalizing offset state with
  | nil => exact ⟨offset, h, rfl⟩
  | cons changed changes ih =>
      obtain ⟨rowSmall, startSmall, lengthSmall⟩ := encodable changed List.mem_cons_self
      have later : ∀ other ∈ changes, Encodable other :=
        fun other member => encodable other (List.mem_cons_of_mem _ member)
      rw [List.flatMap_cons, encodeChangedRow] at h
      simp only [List.append_assoc] at h
      have h2 := h.skip
      have h4 := h2.skip
      have h6 := h4.skip
      have hNext := h6.skip
      simp only [length_leU16, Nat.add_assoc, Nat.reduceAdd] at h2 h4 h6
      simp only [length_leU16, length_cells, Nat.add_assoc, Nat.reduceAdd] at hNext
      have total := h6.length_eq
      simp only [List.length_append, length_cells] at total
      have headerFits : ¬ data.length < offset + 6 := by omega
      have cellsFit : ¬ data.length < offset + 6 + changed.cells.length * remoteCellEncodedLen := by
        omega
      rw [List.length_cons, applyDeltaRows, if_neg headerFits]
      dsimp only
      rw [u16At_rest h, u16At_rest h2, u16At_rest h4, toNat_ofNat_u16 rowSmall,
        toNat_ofNat_u16 startSmall, toNat_ofNat_u16 lengthSmall, if_neg cellsFit,
        readMany_cells h6, overlay, startOf]
      rw [← Nat.add_assoc] at hNext
      by_cases fits : Fits state.rows.toNat state.cols.toNat changed
      · have placed : changed.row < state.rows.toNat ∧ changed.startCol < state.cols.toNat ∧
            changed.startCol + changed.cells.length ≤ state.cols.toNat := fits
        rw [if_neg (not_not.mpr placed), if_pos fits]
        exact ih later _ { state with
          cells := writeRun state.cells (changed.row * state.cols.toNat + changed.startCol)
            (changed.cells.map decodedCell) } hNext
      · have misplaced : ¬ (changed.row < state.rows.toNat ∧ changed.startCol < state.cols.toNat ∧
            changed.startCol + changed.cells.length ≤ state.cols.toNat) := fits
        rw [if_pos misplaced, if_neg fits]
        exact ih later _ state hNext

/-- The effect of a delta on whatever screen the client holds. -/
def overlaid (previous current : RemoteFullState) (screen : DecodedWireScreenState) :
    DecodedWireScreenState where
  rows := screen.rows
  cols := screen.cols
  cells := overlay decodedCell screen.rows.toNat screen.cols.toNat screen.cells
    (changedRows previous current)
  cursorX := current.cursorX
  cursorY := current.cursorY
  cursorVisible := current.cursorVisible
  cursorBlinking := current.cursorBlinking
  cursorStyle := current.cursorStyle
  rowReplica := some (replicaOf current ((differingRows previous current).map (rowId current)))

/-- Every delta the encoder produces is accepted, on any screen. -/
theorem applyDelta_encodeDelta {previous current : RemoteFullState}
    (shape : SameShape previous current) {latestInputSeq : Option UInt64} {isLocal : Bool}
    {payload : List UInt8}
    (h : encodeDelta previous current latestInputSeq isLocal = some payload)
    (screen : DecodedWireScreenState) :
    applyDelta payload screen isLocal = (true, overlaid previous current screen) := by
  obtain ⟨-, -, formula⟩ := encodeDelta_eq_some h
  have h0 : Rest payload 0 payload := rest_zero payload
  nth_rewrite 2 [formula] at h0
  rw [encodeDeltaHeader] at h0
  simp only [List.append_assoc, List.cons_append, List.nil_append] at h0
  have hr := h0.skip
  rw [length_inputSeqPrefix, Nat.zero_add] at hr
  have h2 := hr.skip
  have h4 := h2.skip
  have h6 := h4.skip
  have h7 := h6.next
  have h8 := h7.next
  have h9 := h8.next
  have h13 := h9.skip
  simp only [length_leU16, length_leI32, Nat.add_assoc, Nat.reduceAdd] at h2 h4 h6 h7 h8 h9 h13
  have headerFits : ¬ payload.length < prefixLen isLocal + remoteDeltaHeaderLen := by
    have total := h13.length_eq
    simp only [remoteDeltaHeaderLen]
    omega
  have rowsSmall : current.rows.toNat < 2 ^ 16 := current.rows.toNat_lt
  have count : (changedRows previous current).length < 65536 := by
    have few := length_changedRows_le previous current
    omega
  have fewIds : ((changedRows previous current).map
      fun changed => rowId current changed.row).length ≤ 65535 := by
    rw [List.length_map]
    omega
  have ids : ((changedRows previous current).map fun changed => rowId current changed.row) =
      (differingRows previous current).map (rowId current) := by
    rw [← map_row_changedRows, List.map_map]
    rfl
  let withCursor : DecodedWireScreenState := { screen with
    cursorX := current.cursorX
    cursorY := current.cursorY
    cursorVisible := current.cursorVisible
    cursorBlinking := current.cursorBlinking
    cursorStyle := current.cursorStyle }
  obtain ⟨trailer, hTrailer, rowsApplied⟩ := applyDeltaRows_encoded (changedRows previous current)
    (fun changed member => encodable_of_mem shape member) (prefixLen isLocal + 13) withCursor h13
  have replica := decodeRowReplicaTrailer_rest fewIds hTrailer
  rw [applyDelta, if_neg headerFits]
  dsimp only
  rw [u8At_rest h8, u16At_rest hr, u16At_rest h2, u16At_rest h4, u8At_rest h6, u8At_rest h7,
    i32At_rest h9, boolByte_ne_zero, boolByte_ne_zero, toNat_ofNat_u16 count]
  rw [if_neg (by decide)]
  simp only [remoteDeltaHeaderLen]
  rw [rowsApplied]
  dsimp only
  rw [replica, ids]
  rfl

/-- A delta applied to the decoded previous state gives the decoded current state, except
that the row replica lists only the changed rows. -/
theorem applyDelta_refines_fullState (previous current : RemoteFullState)
    (previousWf : previous.WellFormed) (currentWf : current.WellFormed)
    (fullSeq latestInputSeq : Option UInt64) (fullLocal isLocal : Bool) (payload : List UInt8)
    (h : encodeDelta previous current latestInputSeq isLocal = some payload) :
    ∃ base target result,
      decodeFullState (encodeFullState previous fullSeq fullLocal) fullLocal = some base ∧
      decodeFullState (encodeFullState current fullSeq fullLocal) fullLocal = some target ∧
      applyDelta payload base isLocal = (true, result) ∧
      result = { target with
        rowReplica := some {
          epoch := current.epoch
          viewportTop := current.viewportTop
          scrollbackTotal := current.scrollbackTotal
          cursorRowId := saturatingAdd current.viewportTop (UInt64.ofNat current.cursorY.toNat)
          rowIds := ((List.range current.rows.toNat).filter fun row =>
            rowCells previous row ≠ rowCells current row).map (rowId current) } } := by
  obtain ⟨rowsEq, colsEq⟩ := encodeDelta_dims h
  have shape : SameShape previous current := ⟨previousWf, currentWf, rowsEq, colsEq⟩
  refine ⟨_, _, _, decodeFullState_encodeFullState previousWf fullSeq fullLocal,
    decodeFullState_encodeFullState currentWf fullSeq fullLocal,
    applyDelta_encodeDelta shape h _, ?_⟩
  have cells := (overlay_changedRows shape decodedCell decodedCell).mpr fun _ _ => rfl
  have rowsDiffer : differingRows previous current =
      (List.range current.rows.toNat).filter fun row =>
        rowCells previous row ≠ rowCells current row := by
    refine List.filter_congr fun row _ => ?_
    rw [decide_eq_decide]
    simp only [rowCells, colsEq]
  simp only [overlaid, decodedScreen, replicaOf, rowsEq, colsEq, cells, rowsDiffer]

theorem applyDelta_refines_fullState_smallGrid :
    ∃ payload base target result,
      decodeFullState (encodeFullState
        (smallGrid [plainCell 0, plainCell 0, plainCell 0, plainCell 0]) none true) true =
          some base ∧
      decodeFullState (encodeFullState
        (smallGrid [plainCell 0, plainCell 0, plainCell 0, plainCell 65]) none true) true =
          some target ∧
      applyDelta payload base false = (true, result) ∧ result.cells = target.cells := by
  obtain ⟨base, target, result, hBase, hTarget, applied, same⟩ :=
    applyDelta_refines_fullState
      (smallGrid [plainCell 0, plainCell 0, plainCell 0, plainCell 0])
      (smallGrid [plainCell 0, plainCell 0, plainCell 0, plainCell 65])
      (smallGrid_wellFormed _ _ _ _) (smallGrid_wellFormed _ _ _ _) none none true false _ rfl
  exact ⟨_, base, target, result, hBase, hTarget, applied, by rw [same]⟩

end Boo.Wire.SwiftDelta
