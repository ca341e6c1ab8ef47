/- module: Boo/Client/Snapshot
   digest: The GUI client's terminal snapshots and stream decoders (client_gui.rs). -/

import Boo.Wire.Delta
import Boo.Lib.RowMajor

set_option autoImplicit false
set_option relaxedAutoImplicit false

namespace Boo.Client.Snapshot

open Boo.Lib.LittleEndian
open Boo.Lib.RowMajor
open Boo.Lib.WriteRun
open Boo.Wire.Message
open Boo.Wire.Delta

def defaultTerminalForeground : RgbColor := ⟨0xF0, 0xF0, 0xF0⟩
def defaultTerminalBackground : RgbColor := ⟨0x00, 0x00, 0x00⟩

structure CellSnapshot where
  text : String := ""
  displayWidth : UInt8 := 0
  fg : RgbColor := ⟨0, 0, 0⟩
  bg : RgbColor := ⟨0, 0, 0⟩
  bgIsDefault : Bool := true
  bold : Bool := false
  italic : Bool := false
  underline : Int32 := 0
  hyperlink : Bool := false
  deriving DecidableEq

/-- The cursor shape is left abstract: its constants come from the terminal library. -/
structure CursorSnapshot (Style : Type) where
  visible : Bool
  blinking : Bool
  x : UInt16
  y : UInt16
  style : Style
  deriving DecidableEq

structure RenderColors where
  foreground : RgbColor
  background : RgbColor
  cursor : RgbColor
  cursorHasValue : Bool
  deriving DecidableEq

structure TerminalSnapshot (Style : Type) where
  cols : UInt16
  rows : UInt16
  title : String
  pwd : String
  cursor : CursorSnapshot Style
  rowsData : List (List CellSnapshot)
  rowRevisions : List UInt64
  colors : RenderColors
  deriving DecidableEq

def remoteStyleFlagBold : UInt8 := 0x01
def remoteStyleFlagItalic : UInt8 := 0x02
def remoteStyleFlagHyperlink : UInt8 := 0x04
def remoteStyleFlagExplicitFg : UInt8 := 0x20
def remoteStyleFlagExplicitBg : UInt8 := 0x40

def hasFlag (cell : RemoteCell) (flag : UInt8) : Bool := cell.styleFlags &&& flag != 0

/-- `std::char::from_u32` rendered as a string, empty for an invalid scalar value. -/
def codepointText (codepoint : UInt32) : String :=
  if codepoint = 0 then ""
  else if h : codepoint.isValidChar then String.singleton ⟨codepoint, h⟩ else ""

def remoteCellToSnapshot (cell : RemoteCell) (defaultForeground defaultBackground : RgbColor) :
    CellSnapshot where
  text := codepointText cell.codepoint
  displayWidth := if cell.wide then 2 else 1
  fg := if hasFlag cell remoteStyleFlagExplicitFg then cell.fg else defaultForeground
  bg := if hasFlag cell remoteStyleFlagExplicitBg then cell.bg else defaultBackground
  bgIsDefault := !hasFlag cell remoteStyleFlagExplicitBg
  bold := hasFlag cell remoteStyleFlagBold
  italic := hasFlag cell remoteStyleFlagItalic
  underline := 0
  hyperlink := hasFlag cell remoteStyleFlagHyperlink

def remoteCellToSnapshotDefault (cell : RemoteCell) : CellSnapshot :=
  remoteCellToSnapshot cell defaultTerminalForeground defaultTerminalBackground

section Conversions

variable {Style : Type} (cursorStyleOf : Int32 → Style)

def remoteFullStateToVtSnapshot (state : RemoteFullState) (revisionSeed : UInt64)
    (terminalForeground terminalBackground cursorColor : RgbColor) : TerminalSnapshot Style where
  cols := state.cols
  rows := state.rows
  title := ""
  pwd := ""
  cursor := {
    visible := state.cursorVisible
    blinking := state.cursorBlinking
    x := state.cursorX
    y := state.cursorY
    style := cursorStyleOf state.cursorStyle }
  rowsData := (chunks (max state.cols.toNat 1) state.cells).map fun row =>
    row.map fun cell => remoteCellToSnapshot cell terminalForeground terminalBackground
  rowRevisions := (List.range state.rows.toNat).map fun index =>
    revisionSeed + UInt64.ofNat index
  colors := {
    foreground := terminalForeground
    background := terminalBackground
    cursor := cursorColor
    cursorHasValue := true }

structure RemoteRowDelta where
  row : UInt16
  startCol : UInt16
  cells : List RemoteCell
  deriving DecidableEq

structure RemoteDelta where
  cursorX : UInt16
  cursorY : UInt16
  cursorVisible : Bool
  cursorBlinking : Bool
  cursorStyle : Int32
  scrollRows : Int16
  changedRows : List RemoteRowDelta
  deriving DecidableEq

/-- `Vec::resize_with(len, Default::default)` on a vector shorter than `len`. -/
def resizeRow (row : List CellSnapshot) (len : Nat) : List CellSnapshot :=
  row ++ List.replicate (len - row.length) ({} : CellSnapshot)

/-- One iteration of the row loop of `apply_remote_delta_snapshot`. -/
def applyRowDelta (snapshot : TerminalSnapshot Style) (rowDelta : RemoteRowDelta) :
    TerminalSnapshot Style :=
  let cols := snapshot.cols.toNat
  let rowIndex := rowDelta.row.toNat
  match snapshot.rowsData[rowIndex]? with
  | none => snapshot
  | some row =>
      let targetRow := resizeRow row cols
      let startCol := rowDelta.startCol.toNat
      if cols ≤ startCol then
        { snapshot with rowsData := snapshot.rowsData.set rowIndex targetRow }
      else
        let cells := (rowDelta.cells.take (cols - startCol)).map remoteCellToSnapshotDefault
        { snapshot with
          rowsData := snapshot.rowsData.set rowIndex (writeRun targetRow startCol cells)
          rowRevisions := snapshot.rowRevisions.modify rowIndex (· + 1) }

/-- `(-scroll_rows) as usize`, whose negation wraps at the least value. -/
def negatedScroll (scrollRows : Int16) : Nat := (-scrollRows).toInt64.toUInt64.toNat

/-- `rotate_left` followed by blanking the rows that wrapped around, or the mirror image. -/
def applySnapshotScroll (snapshot : TerminalSnapshot Style) (scrollRows : Int16) :
    TerminalSnapshot Style :=
  let rows := snapshot.rowsData.length
  if rows = 0 then snapshot
  else
    let blankRow := List.replicate snapshot.cols.toNat ({} : CellSnapshot)
    let revisions := snapshot.rowRevisions
    if 0 < scrollRows.toInt then
      let shift := min scrollRows.toInt.toNat rows
      { snapshot with
        rowsData := snapshot.rowsData.drop shift ++ List.replicate shift blankRow
        rowRevisions := revisions.drop shift ++ (revisions.take shift).map (· + 1) }
    else
      let shift := min (negatedScroll scrollRows) rows
      { snapshot with
        rowsData := List.replicate shift blankRow ++ snapshot.rowsData.take (rows - shift)
        rowRevisions := (revisions.drop (rows - shift)).map (· + 1) ++
          revisions.take (rows - shift) }

/-- `row_revisions.resize(rows_data.len(), 1)`. -/
def resizeRevisions (snapshot : TerminalSnapshot Style) : TerminalSnapshot Style :=
  let rows := snapshot.rowsData.length
  { snapshot with
    rowRevisions := snapshot.rowRevisions.take rows ++
      List.replicate (rows - snapshot.rowRevisions.length) 1 }

def applyRemoteDeltaSnapshot (snapshot : TerminalSnapshot Style) (delta : RemoteDelta) :
    TerminalSnapshot Style :=
  let moved : TerminalSnapshot Style := { snapshot with
    cursor := {
      x := delta.cursorX
      y := delta.cursorY
      visible := delta.cursorVisible
      blinking := delta.cursorBlinking
      style := cursorStyleOf delta.cursorStyle } }
  let sized :=
    if moved.rowRevisions.length ≠ moved.rowsData.length then resizeRevisions moved else moved
  let scrolled :=
    if delta.scrollRows ≠ 0 then applySnapshotScroll sized delta.scrollRows else sized
  delta.changedRows.foldl applyRowDelta scrolled

end Conversions

section Decoders

def localFullStateHeaderLen : Nat := localInputSeqLen + remoteFullStateHeaderLen

def localDeltaHeaderLen : Nat := localInputSeqLen + remoteDeltaHeaderLen

def remoteCellAt (payload : List UInt8) (offset : Nat) : RemoteCell where
  codepoint := u32At payload offset
  fg := ⟨u8At payload (offset + 4), u8At payload (offset + 5), u8At payload (offset + 6)⟩
  bg := ⟨u8At payload (offset + 7), u8At payload (offset + 8), u8At payload (offset + 9)⟩
  styleFlags := u8At payload (offset + 10)
  wide := u8At payload (offset + 11) != 0

/-- `(ack_input_seq != 0).then_some(ack_input_seq)`. -/
def ackInputSeq (payload : List UInt8) : Option UInt64 :=
  let seq := u64At payload 0
  if seq ≠ 0 then some seq else none

def decodeRemoteFullState (payload : List UInt8) :
    Option (Option UInt64 × RemoteFullState) :=
  if payload.length < localFullStateHeaderLen then none
  else
    let rows := u16At payload 8
    let cols := u16At payload 10
    let cellCount := rows.toNat * cols.toNat
    if payload.length < localFullStateHeaderLen + cellCount * remoteCellEncodedLen then none
    else some (ackInputSeq payload, {
      epoch := 0
      viewportTop := 0
      scrollbackTotal := 0
      rows := rows
      cols := cols
      cursorX := u16At payload 12
      cursorY := u16At payload 14
      cursorVisible := u8At payload 16 != 0
      cursorBlinking := u8At payload 17 != 0
      cursorStyle := i32At payload 18
      cells := readMany (remoteCellAt payload) remoteCellEncodedLen localFullStateHeaderLen
        cellCount })

/-- The cell loop of `decode_remote_delta`. -/
def decodeCells (payload : List UInt8) : Nat → Nat → Option (List RemoteCell × Nat)
  | 0, offset => some ([], offset)
  | n + 1, offset =>
      if payload.length < offset + 12 then none
      else
        match decodeCells payload n (offset + 12) with
        | none => none
        | some (cells, next) => some (remoteCellAt payload offset :: cells, next)

/-- The row loop of `decode_remote_delta`. -/
def decodeRows (payload : List UInt8) : Nat → Nat → Option (List RemoteRowDelta)
  | 0, _ => some []
  | n + 1, offset =>
      if payload.length < offset + 6 then none
      else
        match decodeCells payload (u16At payload (offset + 4)).toNat (offset + 6) with
        | none => none
        | some (cells, next) =>
            match decodeRows payload n next with
            | none => none
            | some rows =>
                some (⟨u16At payload offset, u16At payload (offset + 2), cells⟩ :: rows)

def decodeRemoteDelta (payload : List UInt8) : Option (Option UInt64 × RemoteDelta) :=
  if payload.length < localDeltaHeaderLen then none
  else
    let rowCount := (u16At payload 8).toNat
    let delta (scrollRows : Int16) (changedRows : List RemoteRowDelta) : RemoteDelta := {
      cursorX := u16At payload 10
      cursorY := u16At payload 12
      cursorVisible := u8At payload 14 != 0
      cursorBlinking := u8At payload 15 != 0
      cursorStyle := i32At payload 17
      scrollRows := scrollRows
      changedRows := changedRows }
    if u8At payload 16 &&& 0x01 ≠ 0 then
      if payload.length < localDeltaHeaderLen + 2 then none
      else
        match decodeRows payload rowCount (localDeltaHeaderLen + 2) with
        | none => none
        | some rows =>
            some (ackInputSeq payload, delta (u16At payload localDeltaHeaderLen).toInt16 rows)
    else
      match decodeRows payload rowCount localDeltaHeaderLen with
      | none => none
      | some rows => some (ackInputSeq payload, delta 0 rows)

def decodeRemotePaneFullState (payload : List UInt8) :
    Option (UInt64 × UInt64 × RemoteFullState) :=
  if payload.length < uiPaneUpdateHeaderLen then none
  else
    match decodeRemoteFullState (payload.drop uiPaneUpdateHeaderLen) with
    | none => none
    | some (_, state) => some (u64At payload 4, u64At payload 20, state)

def decodeRemotePaneDelta (payload : List UInt8) : Option (UInt64 × UInt64 × RemoteDelta) :=
  if payload.length < uiPaneUpdateHeaderLen then none
  else
    match decodeRemoteDelta (payload.drop uiPaneUpdateHeaderLen) with
    | none => none
    | some (_, delta) => some (u64At payload 4, u64At payload 20, delta)

end Decoders

end Boo.Client.Snapshot
