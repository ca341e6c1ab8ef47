/- module: Boo/Wire/SwiftCodec
   digest: The iOS decoder of full states, deltas and row-replica trailers (WireCodec.swift). -/

import Boo.Wire.Delta
import Boo.Lib.WriteRun

set_option autoImplicit false
set_option relaxedAutoImplicit false

namespace Boo.Wire.SwiftCodec

open Boo.Lib.LittleEndian
open Boo.Lib.WriteRun
open Boo.Wire.Message
open Boo.Wire.Delta

structure DecodedWireCell where
  codepoint : UInt32 := 0
  fgR : UInt8 := 0
  fgG : UInt8 := 0
  fgB : UInt8 := 0
  bgR : UInt8 := 0
  bgG : UInt8 := 0
  bgB : UInt8 := 0
  styleFlags : UInt8 := 0
  wide : UInt8 := 0
  deriving DecidableEq, Repr

structure DecodedRowReplicaMetadata where
  epoch : UInt64
  viewportTop : UInt64
  scrollbackTotal : UInt64
  cursorRowId : UInt64
  rowIds : List UInt64
  deriving DecidableEq, Repr

structure DecodedWireScreenState where
  rows : UInt16
  cols : UInt16
  cells : List DecodedWireCell
  cursorX : UInt16
  cursorY : UInt16
  cursorVisible : Bool
  cursorBlinking : Bool
  cursorStyle : Int32
  rowReplica : Option DecodedRowReplicaMetadata := none
  deriving DecidableEq, Repr

/-- The cell whose twelve bytes start at `base`. -/
def cellAt (data : List UInt8) (base : Nat) : DecodedWireCell where
  codepoint := u32At data base
  fgR := u8At data (base + 4)
  fgG := u8At data (base + 5)
  fgB := u8At data (base + 6)
  bgR := u8At data (base + 7)
  bgG := u8At data (base + 8)
  bgB := u8At data (base + 9)
  styleFlags := u8At data (base + 10)
  wide := u8At data (base + 11)

def decodeRowReplicaTrailer (data : List UInt8) (offset : Nat) :
    Option DecodedRowReplicaMetadata :=
  if data.length < offset + 38 then none
  else if slice data offset 4 ≠ rowReplicaTrailerMagic then none
  else
    let rowCount := (u16At data (offset + 36)).toNat
    if data.length < offset + 38 + rowCount * 8 then none
    else some {
      epoch := u64At data (offset + 4)
      viewportTop := u64At data (offset + 12)
      scrollbackTotal := u64At data (offset + 20)
      cursorRowId := u64At data (offset + 28)
      rowIds := readMany (u64At data) 8 (offset + 38) rowCount }

def decodeFullState (data : List UInt8) (inputSeqPrefix : Bool) :
    Option DecodedWireScreenState :=
  let baseOffset := prefixLen inputSeqPrefix
  if data.length < baseOffset + remoteFullStateHeaderLen then none
  else
    let rows := u16At data baseOffset
    let cols := u16At data (baseOffset + 2)
    if ¬ (0 < rows.toNat ∧ 0 < cols.toNat) then none
    else
      let cellCount := rows.toNat * cols.toNat
      let expected := baseOffset + remoteFullStateHeaderLen + cellCount * remoteCellEncodedLen
      if data.length < expected then none
      else some {
        rows := rows
        cols := cols
        cells := readMany (cellAt data) remoteCellEncodedLen
          (baseOffset + remoteFullStateHeaderLen) cellCount
        cursorX := u16At data (baseOffset + 4)
        cursorY := u16At data (baseOffset + 6)
        cursorVisible := u8At data (baseOffset + 8) != 0
        cursorBlinking := u8At data (baseOffset + 9) != 0
        cursorStyle := i32At data (baseOffset + 10)
        rowReplica := decodeRowReplicaTrailer data expected }

/-- Source row of `dst` after a scroll, when it is inside the grid. -/
def scrolledRow (rows : Nat) (scrollRows : Int) (dst : Nat) : Option Nat :=
  let source := (dst : Int) + scrollRows
  if 0 ≤ source ∧ source < rows then some source.toNat else none

def applyScrollRows (scrollRows : Int) (state : DecodedWireScreenState) :
    DecodedWireScreenState :=
  let rows := state.rows.toNat
  let cols := state.cols.toNat
  if scrollRows = 0 ∨ rows = 0 ∨ cols = 0 then state
  else
    let blank := List.replicate state.cells.length ({} : DecodedWireCell)
    let shifted := (List.range rows).foldl (fun shifted row =>
      match scrolledRow rows scrollRows row with
      | none => shifted
      | some source => writeRun shifted (row * cols) (slice state.cells (source * cols) cols))
      blank
    { state with cells := shifted }

/-- The row loop of `applyDelta`. On a short payload it stops with the rows applied
so far, exactly as the `inout` state is left. -/
def applyDeltaRows (data : List UInt8) : Nat → Nat → DecodedWireScreenState →
    Bool × Nat × DecodedWireScreenState
  | 0, offset, state => (true, offset, state)
  | n + 1, offset, state =>
      if data.length < offset + 6 then (false, offset, state)
      else
        let rowIndex := (u16At data offset).toNat
        let startCol := (u16At data (offset + 2)).toNat
        let numCols := (u16At data (offset + 4)).toNat
        let body := offset + 6
        let rowBytes := numCols * remoteCellEncodedLen
        if data.length < body + rowBytes then (false, body, state)
        else if ¬ (rowIndex < state.rows.toNat ∧ startCol < state.cols.toNat ∧
            startCol + numCols ≤ state.cols.toNat) then
          applyDeltaRows data n (body + rowBytes) state
        else
          let dstStart := rowIndex * state.cols.toNat + startCol
          let cells := readMany (cellAt data) remoteCellEncodedLen body numCols
          applyDeltaRows data n (body + rowBytes)
            { state with cells := writeRun state.cells dstStart cells }

/-- `applyDelta(_:to:inputSeqPrefix:)`; the second component is the `inout` state. -/
def applyDelta (data : List UInt8) (state : DecodedWireScreenState) (inputSeqPrefix : Bool) :
    Bool × DecodedWireScreenState :=
  let baseOffset := prefixLen inputSeqPrefix
  if data.length < baseOffset + remoteDeltaHeaderLen then (false, state)
  else
    let numRows := (u16At data baseOffset).toNat
    let withCursor : DecodedWireScreenState := { state with
      cursorX := u16At data (baseOffset + 2)
      cursorY := u16At data (baseOffset + 4)
      cursorVisible := u8At data (baseOffset + 6) != 0
      cursorBlinking := u8At data (baseOffset + 7) != 0
      cursorStyle := i32At data (baseOffset + 9) }
    let flags := u8At data (baseOffset + 8)
    let offset := baseOffset + remoteDeltaHeaderLen
    let rowsFrom (offset : Nat) (state : DecodedWireScreenState) :=
      match applyDeltaRows data numRows offset state with
      | (false, _, state) => (false, state)
      | (true, offset, state) =>
          (true, { state with rowReplica := decodeRowReplicaTrailer data offset })
    if flags &&& 0x01 ≠ 0 then
      if data.length < offset + 2 then (false, withCursor)
      else
        let scrollRows := (u16At data offset).toInt16.toInt
        rowsFrom (offset + 2) (applyScrollRows scrollRows withCursor)
    else rowsFrom offset withCursor

structure DecodedPaneUpdate where
  tabId : UInt32
  paneId : UInt64
  paneRevision : UInt64
  runtimeRevision : UInt64
  deriving DecidableEq, Repr

def decodePaneUpdateHeader (data : List UInt8) : DecodedPaneUpdate where
  tabId := u32At data 0
  paneId := u64At data 4
  paneRevision := u64At data 12
  runtimeRevision := u64At data 20

def decodePaneFullState (data : List UInt8) :
    Option (DecodedPaneUpdate × DecodedWireScreenState) :=
  if data.length < uiPaneUpdateHeaderLen then none
  else
    let body := data.drop uiPaneUpdateHeaderLen
    match (decodeFullState body true).or (decodeFullState body false) with
    | none => none
    | some state => some (decodePaneUpdateHeader data, state)

def decodePaneDelta (data : List UInt8) : Option (DecodedPaneUpdate × List UInt8) :=
  if data.length < uiPaneUpdateHeaderLen then none
  else some (decodePaneUpdateHeader data, data.drop uiPaneUpdateHeaderLen)

/-- `applyPaneDelta(_:to:)`: the prefixed layout first, then the unprefixed one, each on a
copy that is written back only on success. -/
def applyPaneDelta (data : List UInt8) (state : DecodedWireScreenState) :
    Bool × DecodedWireScreenState :=
  match applyDelta data state true with
  | (true, prefixedState) => (true, prefixedState)
  | (false, _) =>
      match applyDelta data state false with
      | (true, remoteState) => (true, remoteState)
      | (false, _) => (false, state)

end Boo.Wire.SwiftCodec
