/- module: Boo/Wire/Message
   digest: Frame header, message opcodes, wire cells and the full-state encoder of remote_wire.rs. -/

import Boo.Lib.LittleEndian

set_option autoImplicit false
set_option relaxedAutoImplicit false

namespace Boo.Wire.Message

open Boo.Lib.LittleEndian

def magic : List UInt8 := [0x47, 0x53]

def headerLen : Nat := 7

inductive MessageType
  | auth | listTabs | create | input | resize | destroy | scroll | key | executeCommand
  | appAction | appKeyEvent | focusPane | appMouseEvent | heartbeat | runtimeAction
  | renderAck | rowRangeRequest
  | authOk | authFail | tabList | fullState | delta | errorMsg | tabCreated | tabExited
  | scrollData | clipboard | image | uiRuntimeState | uiAppearance | uiPaneFullState
  | uiPaneDelta | heartbeatAck | uiPaneRows
  deriving DecidableEq, Repr

/-- `ty as u8` of the `#[repr(u8)]` enumeration. -/
def MessageType.toByte : MessageType → UInt8
  | auth => 0x01 | listTabs => 0x02 | create => 0x05 | input => 0x06 | resize => 0x07
  | destroy => 0x08 | scroll => 0x0a | key => 0x0b | executeCommand => 0x0c
  | appAction => 0x0d | appKeyEvent => 0x0e | focusPane => 0x0f | appMouseEvent => 0x10
  | heartbeat => 0x11 | runtimeAction => 0x12 | renderAck => 0x13 | rowRangeRequest => 0x14
  | authOk => 0x80 | authFail => 0x81 | tabList => 0x82 | fullState => 0x83 | delta => 0x84
  | errorMsg => 0x87 | tabCreated => 0x88 | tabExited => 0x89 | scrollData => 0x8a
  | clipboard => 0x8b | image => 0x8c | uiRuntimeState => 0x8d | uiAppearance => 0x8e
  | uiPaneFullState => 0x90 | uiPaneDelta => 0x91 | heartbeatAck => 0x92 | uiPaneRows => 0x93

/-- `TryFrom<u8> for MessageType`. -/
def MessageType.tryFrom (value : UInt8) : Option MessageType :=
  match value.toNat with
  | 0x01 => some auth | 0x02 => some listTabs | 0x05 => some create | 0x06 => some input
  | 0x07 => some resize | 0x08 => some destroy | 0x0a => some scroll | 0x0b => some key
  | 0x0c => some executeCommand | 0x0d => some appAction | 0x0e => some appKeyEvent
  | 0x0f => some focusPane | 0x10 => some appMouseEvent | 0x11 => some heartbeat
  | 0x12 => some runtimeAction | 0x13 => some renderAck | 0x14 => some rowRangeRequest
  | 0x80 => some authOk | 0x81 => some authFail | 0x82 => some tabList
  | 0x83 => some fullState | 0x84 => some delta | 0x87 => some errorMsg
  | 0x88 => some tabCreated | 0x89 => some tabExited | 0x8a => some scrollData
  | 0x8b => some clipboard | 0x8c => some image | 0x8d => some uiRuntimeState
  | 0x8e => some uiAppearance | 0x90 => some uiPaneFullState | 0x91 => some uiPaneDelta
  | 0x92 => some heartbeatAck | 0x93 => some uiPaneRows
  | _ => none

@[simp] theorem MessageType.tryFrom_toByte (ty : MessageType) :
    MessageType.tryFrom ty.toByte = some ty := by
  cases ty <;> rfl

def encodeMessage (ty : MessageType) (payload : List UInt8) : List UInt8 :=
  magic ++ [ty.toByte] ++ leU32 (UInt32.ofNat payload.length) ++ payload

@[simp] theorem length_encodeMessage (ty : MessageType) (payload : List UInt8) :
    (encodeMessage ty payload).length = headerLen + payload.length := by
  simp [encodeMessage, magic, headerLen]
  omega

/-- A colour triple, `[u8; 3]` in the source. -/
structure RgbColor where
  r : UInt8
  g : UInt8
  b : UInt8
  deriving DecidableEq, Repr

def RgbColor.bytes (c : RgbColor) : List UInt8 := [c.r, c.g, c.b]

structure RemoteCell where
  codepoint : UInt32
  fg : RgbColor
  bg : RgbColor
  styleFlags : UInt8
  wide : Bool
  deriving DecidableEq, Repr

structure RemoteFullState where
  epoch : UInt64
  viewportTop : UInt64
  scrollbackTotal : UInt64
  rows : UInt16
  cols : UInt16
  cursorX : UInt16
  cursorY : UInt16
  cursorVisible : Bool
  cursorBlinking : Bool
  cursorStyle : Int32
  cells : List RemoteCell
  deriving DecidableEq

/-- The grid invariant every producer of a `RemoteFullState` keeps. -/
structure RemoteFullState.WellFormed (s : RemoteFullState) : Prop where
  rows_pos : 0 < s.rows.toNat
  cols_pos : 0 < s.cols.toNat
  cells_length : s.cells.length = s.rows.toNat * s.cols.toNat

/-- A terminal state together with its grid invariant. -/
abbrev Grid := {state : RemoteFullState // state.WellFormed}

/-- A 2 × 2 grid at the origin of its scrollback. -/
def smallGrid (cells : List RemoteCell) : RemoteFullState where
  epoch := 1
  viewportTop := 0
  scrollbackTotal := 2
  rows := 2
  cols := 2
  cursorX := 0
  cursorY := 0
  cursorVisible := true
  cursorBlinking := false
  cursorStyle := 0
  cells := cells

/-- A cell with the default attributes of a terminal, as the server sends it. -/
def plainCell (codepoint : UInt32) : RemoteCell :=
  ⟨codepoint, ⟨255, 255, 255⟩, ⟨0, 0, 0⟩, 0, false⟩

theorem smallGrid_wellFormed (a b c d : RemoteCell) : (smallGrid [a, b, c, d]).WellFormed :=
  ⟨show 0 < (2 : UInt16).toNat by decide, show 0 < (2 : UInt16).toNat by decide, rfl⟩

/-- The small grid that shows four characters. -/
def smallScreen (a b c d : UInt32) : Grid :=
  ⟨smallGrid [plainCell a, plainCell b, plainCell c, plainCell d], smallGrid_wellFormed _ _ _ _⟩

def localInputSeqLen : Nat := 8
def remoteFullStateHeaderLen : Nat := 14
def remoteDeltaHeaderLen : Nat := 13
def remoteCellEncodedLen : Nat := 12

/-- `u64::saturating_add`. -/
def saturatingAdd (a b : UInt64) : UInt64 :=
  if a.toNat + b.toNat < 2 ^ 64 then a + b else UInt64.ofNat (2 ^ 64 - 1)

/-- `u8::from(bool)`. -/
def boolByte (flag : Bool) : UInt8 := if flag then 1 else 0

@[simp] theorem boolByte_ne_zero (flag : Bool) : (boolByte flag != 0) = flag := by
  cases flag <;> rfl

def encodeCell (cell : RemoteCell) : List UInt8 :=
  leU32 cell.codepoint ++ cell.fg.bytes ++ cell.bg.bytes ++
    [cell.styleFlags, boolByte cell.wide]

@[simp] theorem length_encodeCell (cell : RemoteCell) : (encodeCell cell).length = 12 := by
  simp [encodeCell, RgbColor.bytes]

/-- The optional input-sequence prefix of the local stream. -/
def inputSeqPrefix (latestInputSeq : Option UInt64) (isLocal : Bool) : List UInt8 :=
  if isLocal then leU64 (latestInputSeq.getD 0) else []

def prefixLen (isLocal : Bool) : Nat := if isLocal then localInputSeqLen else 0

@[simp] theorem length_inputSeqPrefix (latestInputSeq : Option UInt64) (isLocal : Bool) :
    (inputSeqPrefix latestInputSeq isLocal).length = prefixLen isLocal := by
  cases isLocal <;> simp [inputSeqPrefix, prefixLen, localInputSeqLen]

def rowReplicaTrailerMagic : List UInt8 := [0x42, 0x52, 0x52, 0x31]

/-- `row_ids.len().min(u16::MAX as usize) as u16`. -/
def trailerCount (rowIds : List UInt64) : UInt16 := UInt16.ofNat (min rowIds.length 65535)

def appendRowReplicaTrailer (state : RemoteFullState) (rowIds : List UInt64) : List UInt8 :=
  rowReplicaTrailerMagic ++ leU64 state.epoch ++ leU64 state.viewportTop ++
    leU64 state.scrollbackTotal ++
    leU64 (saturatingAdd state.viewportTop (UInt64.ofNat state.cursorY.toNat)) ++
    leU16 (trailerCount rowIds) ++ (rowIds.take 65535).flatMap leU64

/-- `viewport_top.saturating_add(row as u64)`, the scrollback identity of a grid row. -/
def rowId (state : RemoteFullState) (row : Nat) : UInt64 :=
  saturatingAdd state.viewportTop (UInt64.ofNat row)

def encodeFullState (state : RemoteFullState) (latestInputSeq : Option UInt64)
    (isLocal : Bool) : List UInt8 :=
  inputSeqPrefix latestInputSeq isLocal ++
    (leU16 state.rows ++ leU16 state.cols ++ leU16 state.cursorX ++ leU16 state.cursorY ++
      [boolByte state.cursorVisible, boolByte state.cursorBlinking] ++
      leI32 state.cursorStyle) ++
    state.cells.flatMap encodeCell ++
    appendRowReplicaTrailer state ((List.range state.rows.toNat).map (rowId state))

structure RemoteRowRangeRequest where
  paneId : UInt64
  epoch : UInt64
  startRowId : UInt64
  endRowId : UInt64
  deriving DecidableEq, Repr

def uiPaneUpdateHeaderLen : Nat := 28

def encodeUiPaneUpdatePayload (tabId : UInt32) (paneId paneRevision runtimeRevision : UInt64)
    (payload : List UInt8) : List UInt8 :=
  leU32 tabId ++ leU64 paneId ++ leU64 paneRevision ++ leU64 runtimeRevision ++ payload

end Boo.Wire.Message
