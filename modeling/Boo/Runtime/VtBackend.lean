/- module: Boo/Runtime/VtBackend
   digest: The terminal backend of one pane: pending output, writes and snapshot refreshes. -/

import Boo.Client.Snapshot
import Boo.Lib.Occurrences

set_option autoImplicit false
set_option relaxedAutoImplicit false

namespace Boo.Runtime.VtBackend

open Boo.Client.Snapshot
open Boo.Lib.Occurrences

def escapeByte : UInt8 := 0x1b

inductive OscMode
  | ground
  | escape
  | osc
  | oscEscape
  deriving DecidableEq

structure OscState where
  mode : OscMode := .ground
  payload : List UInt8 := []
  deriving DecidableEq

structure PendingPtyChunk where
  bytes : List UInt8
  offset : Nat
  hasEscape : Bool
  deriving DecidableEq

/-- `terminal` is what the terminal library was given to write so far. -/
structure VtPane where
  terminal : List UInt8
  dirty : Bool
  oscState : OscState
  pendingPtyChunks : List PendingPtyChunk
  pendingPtyBytes : Nat
  forceFullSnapshotRefresh : Bool
  controlSequenceTail : List UInt8
  deriving DecidableEq

/-- A row that the library's render state hands out. -/
structure RenderedRow where
  dirty : Bool
  cells : List CellSnapshot
  deriving DecidableEq

/-- What the render state answers to one refresh; its iterator hands out every row. -/
structure Render (Style : Type) where
  cols : UInt16
  rows : UInt16
  title : String
  pwd : String
  cursor : CursorSnapshot Style
  colors : RenderColors
  lines : List RenderedRow
  complete : lines.length = rows.toNat

def vtWriteChunk : Nat := 1024
def vtWriteChunkPlain : Nat := 4096
def vtWriteChunkUnderBacklog : Nat := 256
def vtWriteChunkPlainUnderBacklog : Nat := 2048
def ptyBacklogSoftLimitBytes : Nat := 16 * 1024
def maxTail : Nat := 16
def maxOscPayload : Nat := 4096

/-- The escape byte and the characters after it. -/
def escapeSequence (chars : List Char) : List UInt8 :=
  escapeByte :: chars.map fun char => UInt8.ofNat char.toNat

/-- The listed sequences that are complete: screen switches and erasures. -/
def screenSequences : List (List UInt8) :=
  [escapeSequence ['[', '?', '1', '0', '4', '9', 'h'],
    escapeSequence ['[', '?', '1', '0', '4', '9', 'l'],
    escapeSequence ['[', '?', '1', '0', '4', '7', 'h'],
    escapeSequence ['[', '?', '1', '0', '4', '7', 'l'],
    escapeSequence ['[', '?', '4', '7', 'h'],
    escapeSequence ['[', '?', '4', '7', 'l'],
    escapeSequence ['[', '2', 'J'],
    escapeSequence ['[', '3', 'J']]

/-- The listed beginnings of palette and default colour changes. -/
def colorSequences : List (List UInt8) :=
  [escapeSequence [']', '4', ';'],
    escapeSequence [']', '1', '0', ';'],
    escapeSequence [']', '1', '1', ';'],
    escapeSequence [']', '1', '2', ';']]

def fullRefreshControlSequences : List (List UInt8) := screenSequences ++ colorSequences

def shouldForceFullSnapshotRefresh (tail bytes : List UInt8) : Bool :=
  if bytes.isEmpty then false
  else
    let haystack := tail ++ bytes
    fullRefreshControlSequences.any fun pattern =>
      (windows pattern.length haystack).any (· == pattern)

def updateControlSequenceTail (tail bytes : List UInt8) : List UInt8 :=
  if bytes.isEmpty then tail else lastOf maxTail (tail ++ bytes)

/-- One byte of the loop of `observe_control_sequences`, without what a finished payload does. -/
def observeByte (osc : OscState) (byte : UInt8) : OscState :=
  match osc.mode with
  | .ground => if byte = escapeByte then { osc with mode := .escape } else osc
  | .escape =>
      if byte = 0x5d then ⟨.osc, []⟩
      else if byte = escapeByte then { osc with mode := .escape }
      else { osc with mode := .ground }
  | .osc =>
      if byte = 0x07 then {}
      else if byte = escapeByte then { osc with mode := .oscEscape }
      else if osc.payload.length < maxOscPayload then
        { osc with payload := osc.payload ++ [byte] }
      else {}
  | .oscEscape =>
      if byte = 0x5c then {}
      else if osc.payload.length + 2 ≤ maxOscPayload then
        ⟨.osc, osc.payload ++ [escapeByte, byte]⟩
      else {}

namespace VtPane

variable (pane : VtPane)

def observeControlSequences (bytes : List UInt8) (hasEscape : Bool) : VtPane :=
  if pane.controlSequenceTail.isEmpty ∧ pane.oscState.mode = .ground ∧ hasEscape = false then pane
  else
    let observed := { pane with
      forceFullSnapshotRefresh := pane.forceFullSnapshotRefresh ||
        shouldForceFullSnapshotRefresh pane.controlSequenceTail bytes
      controlSequenceTail := updateControlSequenceTail pane.controlSequenceTail bytes }
    if pane.oscState.mode = .ground ∧ hasEscape = false then observed
    else { observed with oscState := bytes.foldl observeByte pane.oscState }

def enqueuePtyChunk (chunk : List UInt8) : VtPane :=
  let hasEscape := chunk.contains escapeByte
  let observed := pane.observeControlSequences chunk hasEscape
  { observed with
    pendingPtyChunks := observed.pendingPtyChunks ++ [⟨chunk, 0, hasEscape⟩]
    pendingPtyBytes := observed.pendingPtyBytes + chunk.length }

def writeChunkSizeForChunk (hasEscape : Bool) : Nat :=
  if ptyBacklogSoftLimitBytes ≤ pane.pendingPtyBytes then
    if hasEscape then vtWriteChunkUnderBacklog else vtWriteChunkPlainUnderBacklog
  else if hasEscape then vtWriteChunk else vtWriteChunkPlain

/-- The loop of `process_pending_pty_work`, which the time budget cuts off after so many turns,
and whether it wrote anything. -/
def processTurns : Nat → VtPane → VtPane × Bool
  | 0, pane => (pane, false)
  | turns + 1, pane =>
      match pane.pendingPtyChunks with
      | [] => (pane, false)
      | chunk :: rest =>
          let writeChunkSize := pane.writeChunkSizeForChunk chunk.hasEscape
          if chunk.bytes.length - chunk.offset = 0 then
            processTurns turns { pane with pendingPtyChunks := rest }
          else
            let end_ := min (chunk.offset + writeChunkSize) chunk.bytes.length
            let wrote := end_ - chunk.offset
            let written := { pane with
              terminal := pane.terminal ++ (chunk.bytes.drop chunk.offset).take wrote
              pendingPtyBytes := pane.pendingPtyBytes - wrote
              pendingPtyChunks :=
                if chunk.bytes.length ≤ end_ then rest else { chunk with offset := end_ } :: rest }
            ((processTurns turns written).1, true)

def processPendingPtyWork (turns : Nat) : VtPane :=
  let (processed, changed) := processTurns turns pane
  if changed then { processed with dirty := true } else processed

/-- The slices of the write loop, one after the other, are the bytes. -/
def writeVtBytes (bytes : List UInt8) : VtPane :=
  if bytes.isEmpty then pane
  else
    let observed := pane.observeControlSequences bytes (bytes.contains escapeByte)
    { observed with
      terminal := observed.terminal ++ bytes
      dirty := true }

end VtPane

section Refresh

variable {Style : Type} (pane : VtPane) (snapshot : TerminalSnapshot Style) (render : Render Style)

def sizeChanged : Bool := snapshot.cols != render.cols || snapshot.rows != render.rows

/-- Whether the row loop of `refresh_snapshot` rebuilds a row. -/
def rowDirty (row : RenderedRow) : Bool :=
  pane.forceFullSnapshotRefresh || sizeChanged snapshot render || row.dirty

/-- `refresh_snapshot`: the pane, the snapshot and the number of rows that were rebuilt. -/
def refreshSnapshot : VtPane × TerminalSnapshot Style × Nat :=
  let rows := render.rows.toNat
  let resized := sizeChanged snapshot render || snapshot.rowsData.length != rows
  let rowsData :=
    if resized then
      snapshot.rowsData.take rows ++ List.replicate (rows - snapshot.rowsData.length) []
    else snapshot.rowsData
  let rowRevisions :=
    if resized then
      snapshot.rowRevisions.take rows ++ List.replicate (rows - snapshot.rowRevisions.length) 1
    else snapshot.rowRevisions
  ({ pane with
    dirty := false
    forceFullSnapshotRefresh := false },
  { cols := render.cols
    rows := render.rows
    title := render.title
    pwd := render.pwd
    cursor := render.cursor
    rowsData := List.zipWith
      (fun row cells => if rowDirty pane snapshot render row then row.cells else cells)
      render.lines rowsData
    rowRevisions := List.zipWith
      (fun row revision => if rowDirty pane snapshot render row then revision + 1 else revision)
      render.lines rowRevisions
    colors := render.colors },
  render.lines.countP (rowDirty pane snapshot render))

end Refresh

end Boo.Runtime.VtBackend
