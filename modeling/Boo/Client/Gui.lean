/- module: Boo/Client/Gui
   digest: What the stream events do to the panes of the GUI client, and what a pane then shows. -/

import Boo.Client.FullStates
import Boo.Server.Frames
import Mathlib.Logic.Function.Basic

set_option autoImplicit false
set_option relaxedAutoImplicit false

namespace Boo.Client.Gui

open Boo.Lib.LittleEndian
open Boo.Lib.RowMajor
open Boo.Lib.WriteRun
open Boo.Wire.Message
open Boo.Wire.Delta
open Boo.Wire.Overlay
open Boo.Client.Snapshot
open Boo.Client.SnapshotDelta
open Boo.Client.FullStates
open Boo.Lib.SnapshotLog
open Boo.Server.Frames

/-- The fields of `ClientApp` that stream events read or write, without the mode, the pending
input latencies and what only the renderer reads. -/
structure GuiClient (Style : Type) where
  focusedPaneId : PaneId
  visiblePanes : List PaneId
  runtimeRevision : UInt64
  viewRevision : UInt64
  appearance : UiAppearance
  nextFullSnapshotRevision : UInt64
  paneSnapshots : PaneId → Option (TerminalSnapshot Style)

/-- The events that concern panes. -/
inductive LocalStreamEvent
  | uiRuntimeState (state : UiRuntimeState)
  | uiAppearance (appearance : UiAppearance)
  | fullState (ackInputSeq : Option UInt64) (state : RemoteFullState)
  | delta (ackInputSeq : Option UInt64) (delta : RemoteDelta)
  | uiPaneFullState (paneId : PaneId) (runtimeRevision : UInt64) (state : RemoteFullState)
  | uiPaneDelta (paneId : PaneId) (runtimeRevision : UInt64) (delta : RemoteDelta)

/-- One message of `read_local_stream_loop`; a payload that does not decode is skipped. -/
def readEvent : Frame → Option LocalStreamEvent
  | .control (.uiRuntimeState state) => some (.uiRuntimeState state)
  | .control (.uiAppearance appearance) => some (.uiAppearance appearance)
  | .control _ => none
  | .screen _ latestInputSeq isLocal (.full state) =>
      (decodeRemoteFullState (updatePayload latestInputSeq isLocal (.full state))).map
        fun (ack, state) => .fullState ack state
  | .screen _ latestInputSeq isLocal (.patch delta) =>
      (decodeRemoteDelta (updatePayload latestInputSeq isLocal (.patch delta))).map
        fun (ack, delta) => .delta ack delta
  | .pane header (.full state) =>
      (decodeRemotePaneFullState (header.encode (updatePayload none true (.full state)))).map
        fun (paneId, runtimeRevision, state) => .uiPaneFullState paneId runtimeRevision state
  | .pane header (.patch delta) =>
      (decodeRemotePaneDelta (header.encode (updatePayload none true (.patch delta)))).map
        fun (paneId, runtimeRevision, delta) => .uiPaneDelta paneId runtimeRevision delta

section Events

variable {Style : Type} (cursorStyleOf : Int32 → Style)

namespace GuiClient

/-- `ClientApp::new`. -/
def new : GuiClient Style where
  focusedPaneId := 0
  visiblePanes := []
  runtimeRevision := 0
  viewRevision := 0
  appearance := ⟨defaultTerminalForeground, defaultTerminalBackground, ⟨0xFF, 0xFF, 0xFF⟩⟩
  nextFullSnapshotRevision := 1
  paneSnapshots := fun _ => none

variable (client : GuiClient Style)

def applyUiRuntimeState (state : UiRuntimeState) : GuiClient Style :=
  { client with
    paneSnapshots :=
      if client.viewRevision ≠ 0 ∧ state.viewRevision ≠ client.viewRevision then fun _ => none
      else client.paneSnapshots
    runtimeRevision := state.runtimeRevision
    viewRevision := state.viewRevision
    visiblePanes := state.visiblePaneIds
    focusedPaneId := state.focusedPane }

/-- A full state becomes the snapshot of a pane. -/
def insertFullState (paneId : PaneId) (state : RemoteFullState) : GuiClient Style :=
  { client with
    paneSnapshots := Function.update client.paneSnapshots paneId
      (some (remoteFullStateToVtSnapshot cursorStyleOf state client.nextFullSnapshotRevision
        client.appearance.terminalForeground client.appearance.terminalBackground
        client.appearance.cursorColor)) }

/-- `allocate_full_snapshot_revision_seed`. -/
def allocateRevisions (rowCount : UInt16) : GuiClient Style :=
  { client with
    nextFullSnapshotRevision :=
      client.nextFullSnapshotRevision + UInt64.ofNat (max rowCount.toNat 1) }

def applyDelta (paneId : PaneId) (delta : RemoteDelta) : GuiClient Style :=
  { client with
    paneSnapshots := Function.update client.paneSnapshots paneId
      ((client.paneSnapshots paneId).map fun snapshot =>
        applyRemoteDeltaSnapshot cursorStyleOf snapshot delta) }

def handleStreamEvent : LocalStreamEvent → GuiClient Style
  | .uiRuntimeState state => client.applyUiRuntimeState state
  | .uiAppearance appearance => { client with
      appearance := appearance }
  | .uiPaneFullState paneId runtimeRevision state =>
      if runtimeRevision ≠ 0 ∧ runtimeRevision < client.runtimeRevision then client
      else (client.insertFullState cursorStyleOf paneId state).allocateRevisions state.rows
  | .uiPaneDelta paneId runtimeRevision delta =>
      if runtimeRevision ≠ 0 ∧ runtimeRevision ≠ client.runtimeRevision then client
      else client.applyDelta cursorStyleOf paneId delta
  | .fullState _ state =>
      (if client.focusedPaneId ≠ 0 then
        client.insertFullState cursorStyleOf client.focusedPaneId state
      else client).allocateRevisions state.rows
  | .delta _ delta => client.applyDelta cursorStyleOf client.focusedPaneId delta

def receive (frame : Frame) : GuiClient Style :=
  match readEvent frame with
  | none => client
  | some event => client.handleStreamEvent cursorStyleOf event

def receiveAll (frames : List Frame) : GuiClient Style :=
  frames.foldl (receive cursorStyleOf) client

end GuiClient

end Events

section Reading

/-- What arrives of a screen: its grid and its cursor. -/
def arrived (state : RemoteFullState) : RemoteFullState :=
  { state with
    epoch := 0
    viewportTop := 0
    scrollbackTotal := 0 }

theorem paneUpdate_encode (header : PaneHeader) (payload : List UInt8) :
    ¬ (header.encode payload).length < uiPaneUpdateHeaderLen ∧
      (header.encode payload).drop uiPaneUpdateHeaderLen = payload ∧
        u64At (header.encode payload) 4 = header.paneId ∧
          u64At (header.encode payload) 20 = header.runtimeRevision := by
  generalize encoded : header.encode payload = bytes
  have h0 : Rest bytes 0 (header.encode payload) := encoded ▸ rest_zero _
  rw [PaneHeader.encode, encodeUiPaneUpdatePayload] at h0
  simp only [List.append_assoc] at h0
  have h4 := h0.skip
  have h12 := h4.skip
  have h20 := h12.skip
  have h28 := h20.skip
  simp only [length_leU32, length_leU64, Nat.zero_add, Nat.reduceAdd] at h4 h12 h20 h28
  have total := h28.length_eq
  refine ⟨?_, h28.drop_eq, u64At_rest h4, u64At_rest h20⟩
  simp only [uiPaneUpdateHeaderLen]
  omega

theorem encodeDelta_updatePayload (delta : StateDelta) (seq : Option UInt64) (isLocal : Bool) :
    SameShape delta.previous.val delta.current.val ∧
      encodeDelta delta.previous.val delta.current.val seq isLocal =
        some (updatePayload seq isLocal (.patch delta)) := by
  have encoded := StateDelta.encodeDelta_eq delta seq isLocal
  obtain ⟨rows, cols⟩ := encodeDelta_dims encoded
  exact ⟨⟨delta.previous.property, delta.current.property, rows, cols⟩, encoded⟩

theorem readEvent_screen_full (source : PaneId) (seq : Option UInt64) (state : Grid) :
    readEvent (.screen source seq true (.full state)) =
      some (.fullState (ackOf seq) (arrived state.val)) := by
  rw [readEvent, updatePayload, decodeRemoteFullState_encodeFullState state.property]
  rfl

theorem readEvent_screen_patch (source : PaneId) (seq : Option UInt64) (delta : StateDelta) :
    readEvent (.screen source seq true (.patch delta)) =
      some (.delta (ackOf seq) (remoteDeltaOf delta.previous.val delta.current.val)) := by
  obtain ⟨shape, encoded⟩ := encodeDelta_updatePayload delta seq true
  rw [readEvent, decodeRemoteDelta_encodeDelta shape encoded]
  rfl

theorem readEvent_pane_full (header : PaneHeader) (state : Grid) :
    readEvent (.pane header (.full state)) =
      some (.uiPaneFullState header.paneId header.runtimeRevision (arrived state.val)) := by
  obtain ⟨long, body, pane, revision⟩ :=
    paneUpdate_encode header (updatePayload none true (.full state))
  rw [readEvent, decodeRemotePaneFullState, if_neg long, body, pane, revision, updatePayload,
    decodeRemoteFullState_encodeFullState state.property]
  rfl

theorem readEvent_pane_patch (header : PaneHeader) (delta : StateDelta) :
    readEvent (.pane header (.patch delta)) =
      some (.uiPaneDelta header.paneId header.runtimeRevision
        (remoteDeltaOf delta.previous.val delta.current.val)) := by
  obtain ⟨long, body, pane, revision⟩ :=
    paneUpdate_encode header (updatePayload none true (.patch delta))
  obtain ⟨shape, encoded⟩ := encodeDelta_updatePayload delta none true
  rw [readEvent, decodeRemotePaneDelta, if_neg long, body, pane, revision,
    decodeRemoteDelta_encodeDelta shape encoded]
  rfl

end Reading

section Showing

variable {Style : Type} (cursorStyleOf : Int32 → Style)

/-- A cell of a snapshot shows a cell of a screen, whatever stands for the default colours. -/
def CellShows (shown : CellSnapshot) (cell : RemoteCell) : Prop :=
  shown = remoteCellToSnapshot cell shown.fg shown.bg

theorem cellShows_remoteCellToSnapshot (cell : RemoteCell) (foreground background : RgbColor) :
    CellShows (remoteCellToSnapshot cell foreground background) cell := by
  unfold CellShows remoteCellToSnapshot
  by_cases explicitFg : hasFlag cell remoteStyleFlagExplicitFg <;>
    by_cases explicitBg : hasFlag cell remoteStyleFlagExplicitBg <;>
      simp [explicitFg, explicitBg]

/-- A snapshot equals a screen in dimensions, cells and cursor. -/
structure Shows (snapshot : TerminalSnapshot Style) (state : RemoteFullState) : Prop where
  cols : snapshot.cols = state.cols
  rows : snapshot.rows = state.rows
  cursor : snapshot.cursor = {
    visible := state.cursorVisible
    blinking := state.cursorBlinking
    x := state.cursorX
    y := state.cursorY
    style := cursorStyleOf state.cursorStyle }
  count : snapshot.rowsData.length = state.rows.toNat
  uniform : Uniform state.cols.toNat snapshot.rowsData
  cells : ∀ (i : Nat) cell, state.cells[i]? = some cell →
    ∃ shown, snapshot.rowsData.flatten[i]? = some shown ∧ CellShows shown cell

theorem shows_fullState {state : RemoteFullState} (wf : state.WellFormed) (seed : UInt64)
    (foreground background cursorColor : RgbColor) :
    Shows cursorStyleOf (remoteFullStateToVtSnapshot cursorStyleOf (arrived state) seed foreground
      background cursorColor) state := by
  have arrivedWf : (arrived state).WellFormed := ⟨wf.rows_pos, wf.cols_pos, wf.cells_length⟩
  obtain ⟨count, uniform, flat⟩ := rowsData_fullState cursorStyleOf arrivedWf seed foreground
    background cursorColor
  refine ⟨rfl, rfl, rfl, count, uniform, fun i cell held => ?_⟩
  have held' : (arrived state).cells[i]? = some cell := held
  rw [flat, List.getElem?_map, held']
  exact ⟨_, rfl, cellShows_remoteCellToSnapshot cell foreground background⟩

/-- A delta turns a snapshot of its previous screen into one of its current screen. -/
theorem shows_delta {previous current : RemoteFullState} (shape : SameShape previous current)
    {snapshot : TerminalSnapshot Style} (shows_ : Shows cursorStyleOf snapshot previous) :
    Shows cursorStyleOf
      (applyRemoteDeltaSnapshot cursorStyleOf snapshot (remoteDeltaOf previous current))
      current := by
  have count := shows_.count
  have uniform := shows_.uniform
  rw [shape.rows_eq] at count
  rw [shape.cols_eq] at uniform
  have cols := shows_.cols.trans shape.cols_eq
  obtain ⟨same, overlaid⟩ := applyRemoteDelta_overlay cursorStyleOf shape cols count uniform
  have resultCols := same.cols_eq.trans cols
  refine ⟨resultCols, same.rows_eq.trans (shows_.rows.trans shape.rows_eq), same.cursor_eq,
    same.length_eq.trans count, ?_, fun i cell held => ?_⟩
  · have resultUniform := same.uniform
    rwa [resultCols] at resultUniform
  · rw [overlaid, getElem?_overlay]
    have bound : i < previous.cells.length := by
      rw [shape.length_previous, ← shape.current_wf.cells_length]
      exact (List.getElem?_eq_some_iff.mp held).1
    obtain ⟨old, below, shownOld⟩ := shows_.cells i _ (List.getElem?_eq_getElem bound)
    rw [below, Option.map_some]
    refine ⟨_, rfl, ?_⟩
    by_cases touched : Touched previous current i
    · rw [(written_changedRows shape i).1 touched, held]
      exact cellShows_remoteCellToSnapshot cell _ _
    · rw [(written_changedRows shape i).2 touched]
      have kept := eq_of_not_touched shape touched
      rw [held, List.getElem?_eq_getElem bound, Option.some.injEq] at kept
      rw [← kept]
      exact shownOld

end Showing

end Boo.Client.Gui
