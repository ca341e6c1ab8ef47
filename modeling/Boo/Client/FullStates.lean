/- module: Boo/Client/FullStates
   digest: What both clients read out of an encoded full state. -/

import Boo.Client.SnapshotDelta
import Boo.Wire.SwiftDelta

set_option autoImplicit false
set_option relaxedAutoImplicit false

namespace Boo.Client.FullStates

open Boo.Lib.LittleEndian
open Boo.Wire.Message
open Boo.Wire.Overlay
open Boo.Wire.SwiftCodec
open Boo.Wire.SwiftDelta
open Boo.Client.Snapshot
open Boo.Client.SnapshotDelta

/-- The acknowledgement field reads back unless it acknowledges 0, which stands for none. -/
theorem ackOf_eq {latestInputSeq : Option UInt64} (positive : latestInputSeq ≠ some 0) :
    ackOf latestInputSeq = latestInputSeq := by
  cases latestInputSeq with
  | none => rfl
  | some seq =>
      have nonzero : seq ≠ 0 := fun zero => positive (by rw [zero])
      simp [ackOf, nonzero]

/-- The GUI client keeps the grid and the cursor, and nothing of the history. -/
theorem decodeRemoteFullState_encodeFullState {state : RemoteFullState} (wf : state.WellFormed)
    (latestInputSeq : Option UInt64) :
    decodeRemoteFullState (encodeFullState state latestInputSeq true) =
      some (ackOf latestInputSeq, { state with
        epoch := 0
        viewportTop := 0
        scrollbackTotal := 0 }) := by
  generalize encoded : encodeFullState state latestInputSeq true = payload
  have h0 : Rest payload 0 (encodeFullState state latestInputSeq true) := encoded ▸ rest_zero _
  rw [encodeFullState, inputSeqPrefix, if_pos rfl] at h0
  simp only [List.append_assoc, List.cons_append, List.nil_append] at h0
  have h8 := h0.skip
  have h10 := h8.skip
  have h12 := h10.skip
  have h14 := h12.skip
  have h16 := h14.skip
  have h17 := h16.next
  have h18 := h17.next
  have h22 := h18.skip
  simp only [length_leU64, length_leU16, length_leI32, Nat.zero_add, Nat.reduceAdd]
    at h8 h10 h12 h14 h16 h17 h18 h22
  have total := h22.length_eq
  simp only [List.length_append, length_cells] at total
  rw [wf.cells_length] at total
  have headerFits : ¬ payload.length < localFullStateHeaderLen := by
    simp only [localFullStateHeaderLen, localInputSeqLen, remoteFullStateHeaderLen]
    omega
  have cellsFit : ¬ payload.length < localFullStateHeaderLen +
      state.rows.toNat * state.cols.toNat * remoteCellEncodedLen := by
    simp only [localFullStateHeaderLen, localInputSeqLen, remoteFullStateHeaderLen]
    omega
  have cells : readMany (remoteCellAt payload) remoteCellEncodedLen localFullStateHeaderLen
      (state.rows.toNat * state.cols.toNat) = state.cells := by
    have read := readMany_encoded payload encodeCell (remoteCellAt payload) id
      remoteCellEncodedLen length_encodeCell (fun _ _ _ one => remoteCellAt_rest one) state.cells
      localFullStateHeaderLen _ h22
    rwa [List.map_id, wf.cells_length] at read
  rw [decodeRemoteFullState, if_neg headerFits]
  dsimp only
  rw [u16At_rest h8, u16At_rest h10, if_neg cellsFit, cells, ackInputSeq, u64At_rest h0, ackOf,
    u16At_rest h12, u16At_rest h14, u8At_rest h16, u8At_rest h17, i32At_rest h18,
    boolByte_ne_zero, boolByte_ne_zero]

theorem toNat_rowId (state : RemoteFullState) {row : Nat} (small : row < 2 ^ 64) :
    (rowId state row).toNat = min (state.viewportTop.toNat + row) (2 ^ 64 - 1) := by
  have number : (UInt64.ofNat row).toNat = row := UInt64.toNat_ofNat_of_lt' small
  rw [rowId, saturatingAdd, number]
  split
  · rename_i fits
    rw [UInt64.toNat_add, number, Nat.mod_eq_of_lt fits, Nat.min_eq_left (by omega)]
  · rename_i overflows
    rw [Nat.min_eq_right (by omega)]
    rfl

theorem map_toNat_rowIds (state : RemoteFullState) :
    ((List.range state.rows.toNat).map (rowId state)).map UInt64.toNat =
      (List.range state.rows.toNat).map fun row =>
        min (state.viewportTop.toNat + row) (2 ^ 64 - 1) := by
  rw [List.map_map]
  refine List.map_congr_left fun row member => ?_
  have below : row < state.rows.toNat := List.mem_range.mp member
  have small : state.rows.toNat < 2 ^ 16 := state.rows.toNat_lt
  exact toNat_rowId state (by omega)

/-- Row ids saturate at the top of the 64-bit range; all else comes back as it was sent. -/
theorem fullState_roundTrip (state : RemoteFullState) (wf : state.WellFormed)
    (latestInputSeq : Option UInt64) (positive : latestInputSeq ≠ some 0) :
    decodeRemoteFullState (encodeFullState state latestInputSeq true) =
        some (latestInputSeq, { state with
          epoch := 0
          viewportTop := 0
          scrollbackTotal := 0 }) ∧
      ∀ inputSeqPrefix, ∃ screen replica,
        decodeFullState (encodeFullState state latestInputSeq inputSeqPrefix) inputSeqPrefix =
          some screen ∧
        screen.rows = state.rows ∧ screen.cols = state.cols ∧
        screen.cells = state.cells.map decodedCell ∧
        screen.cursorX = state.cursorX ∧ screen.cursorY = state.cursorY ∧
        screen.cursorVisible = state.cursorVisible ∧
        screen.cursorBlinking = state.cursorBlinking ∧
        screen.cursorStyle = state.cursorStyle ∧
        screen.rowReplica = some replica ∧
        replica.epoch = state.epoch ∧ replica.viewportTop = state.viewportTop ∧
        replica.scrollbackTotal = state.scrollbackTotal ∧
        replica.rowIds.map UInt64.toNat = (List.range state.rows.toNat).map fun row =>
          min (state.viewportTop.toNat + row) (2 ^ 64 - 1) := by
  have gui := decodeRemoteFullState_encodeFullState wf latestInputSeq
  rw [ackOf_eq positive] at gui
  refine ⟨gui, fun isLocal => ?_⟩
  refine ⟨decodedScreen state, _, decodeFullState_encodeFullState wf latestInputSeq isLocal,
    rfl, rfl, rfl, rfl, rfl, rfl, rfl, rfl, rfl, rfl, rfl, rfl, ?_⟩
  exact map_toNat_rowIds state

theorem fullState_roundTrip_smallGrid :
    decodeRemoteFullState (encodeFullState
      (smallGrid [plainCell 65, plainCell 66, plainCell 67, plainCell 68]) (some 7) true) =
        some (some 7, { smallGrid [plainCell 65, plainCell 66, plainCell 67, plainCell 68] with
          epoch := 0
          viewportTop := 0
          scrollbackTotal := 0 }) :=
  (fullState_roundTrip _ (smallGrid_wellFormed _ _ _ _) (some 7) (by decide)).1

/-- A screen whose first row has the last row id there is. -/
def lastRows : RemoteFullState :=
  { smallGrid [plainCell 0, plainCell 0, plainCell 0, plainCell 0] with
    viewportTop := UInt64.ofNat (2 ^ 64 - 1) }

theorem fullState_rowIds_saturate :
    lastRows.WellFormed ∧ ¬ ∃ screen replica,
      decodeFullState (encodeFullState lastRows none false) false = some screen ∧
        screen.rowReplica = some replica ∧
        ∀ row < lastRows.rows.toNat,
          (replica.rowIds[row]?).map UInt64.toNat = some (lastRows.viewportTop.toNat + row) := by
  have wf : lastRows.WellFormed :=
    ⟨show 0 < (2 : UInt16).toNat by decide, show 0 < (2 : UInt16).toNat by decide, rfl⟩
  refine ⟨wf, ?_⟩
  rintro ⟨screen, replica, decoded, held, ids⟩
  rw [decodeFullState_encodeFullState wf] at decoded
  cases decoded
  cases held
  have second := ids 1 (by decide)
  revert second
  decide

end Boo.Client.FullStates
