/- module: Boo/Ios/Deliveries
   digest: The frames a server queues, as the iOS client decodes them. -/

import Boo.Ios.ProtocolClient
import Boo.Server.Streams

set_option autoImplicit false
set_option relaxedAutoImplicit false

namespace Boo.Ios.Deliveries

open Boo.Lib.LittleEndian
open Boo.Wire.Message
open Boo.Wire.Delta
open Boo.Wire.Overlay
open Boo.Wire.SwiftCodec
open Boo.Wire.SwiftDelta
open Boo.Server.Frames
open Boo.Server.Streams
open Boo.Ios.ProtocolClient

def decodedHeader (header : PaneHeader) : DecodedPaneUpdate where
  tabId := UInt32.ofNat header.tabId
  paneId := header.paneId
  paneRevision := header.paneRevision
  runtimeRevision := header.runtimeRevision

/-- The header of a pane 7 in tab 1, at the first revisions. -/
def paneHeader : PaneHeader := ⟨1, 7, 1, 1⟩

/-- The bytes of a queued message, sorted as `decodeInboundMessage` does by their type. -/
def delivery : Sent → Inbound
  | .told state => .uiRuntimeState state
  | .screen _ latestInputSeq (.full state) =>
      .fullState (updatePayload latestInputSeq false (.full state))
  | .screen _ latestInputSeq (.patch delta) =>
      .delta (updatePayload latestInputSeq false (.patch delta))
  | .pane header (.full state) =>
      .uiPaneFullState (header.encode (updatePayload none true (.full state)))
  | .pane header (.patch delta) =>
      .uiPaneDelta (header.encode (updatePayload none true (.patch delta)))

theorem decodePaneUpdateHeader_encode (header : PaneHeader) (payload : List UInt8) :
    decodePaneUpdateHeader (header.encode payload) = decodedHeader header ∧
      (header.encode payload).drop uiPaneUpdateHeaderLen = payload ∧
      uiPaneUpdateHeaderLen ≤ (header.encode payload).length := by
  generalize encoded : header.encode payload = data
  have h0 : Rest data 0 (header.encode payload) := encoded ▸ rest_zero _
  rw [PaneHeader.encode, encodeUiPaneUpdatePayload] at h0
  simp only [List.append_assoc] at h0
  have h4 := h0.skip
  have h12 := h4.skip
  have h20 := h12.skip
  have h28 := h20.skip
  simp only [length_leU32, length_leU64, Nat.zero_add, Nat.reduceAdd] at h4 h12 h20 h28
  refine ⟨?_, ?_, ?_⟩
  · rw [decodePaneUpdateHeader, u32At_rest h0, u64At_rest h4, u64At_rest h12, u64At_rest h20]
    rfl
  · rw [← encoded, PaneHeader.encode, encodeUiPaneUpdatePayload]
    exact List.drop_left' (by simp [uiPaneUpdateHeaderLen])
  · rw [← encoded, PaneHeader.encode, encodeUiPaneUpdatePayload]
    simp only [List.length_append, length_leU32, length_leU64, uiPaneUpdateHeaderLen]
    omega

theorem decodePaneFullState_encode (header : PaneHeader) (state : Grid) :
    decodePaneFullState (header.encode (updatePayload none true (.full state))) =
      some (decodedHeader header, decodedScreen state.val) := by
  obtain ⟨fields, body, long⟩ :=
    decodePaneUpdateHeader_encode header (updatePayload none true (.full state))
  rw [decodePaneFullState, if_neg (by omega)]
  dsimp only
  rw [body, fields, updatePayload, decodeFullState_encodeFullState state.property]
  rfl

theorem decodePaneDelta_encode (header : PaneHeader) (payload : List UInt8) :
    decodePaneDelta (header.encode payload) = some (decodedHeader header, payload) := by
  obtain ⟨fields, body, long⟩ := decodePaneUpdateHeader_encode header payload
  rw [decodePaneDelta, if_neg (by omega), body, fields]

/-- The two grids of a delta have one shape. -/
theorem sameShape (delta : StateDelta) : SameShape delta.previous.val delta.current.val := by
  have encoded := delta.encodeDelta_eq none true
  obtain ⟨rows, cols⟩ := encodeDelta_dims encoded
  exact ⟨delta.previous.property, delta.current.property, rows, cols⟩

/-- What a delta makes of a screen. -/
def patched (delta : StateDelta) (screen : DecodedWireScreenState) : DecodedWireScreenState :=
  overlaid delta.previous.val delta.current.val screen

theorem applyDelta_patch (delta : StateDelta) (latestInputSeq : Option UInt64) (isLocal : Bool)
    (screen : DecodedWireScreenState) :
    applyDelta (updatePayload latestInputSeq isLocal (.patch delta)) screen isLocal =
      (true, patched delta screen) :=
  applyDelta_encodeDelta (sameShape delta) (delta.encodeDelta_eq latestInputSeq isLocal) screen

/-- Pane deltas travel in the prefixed layout, which is tried first. -/
theorem applyPaneDelta_patch (delta : StateDelta) (screen : DecodedWireScreenState) :
    applyPaneDelta (updatePayload none true (.patch delta)) screen =
      (true, patched delta screen) := by
  rw [applyPaneDelta, applyDelta_patch delta none true screen]

/-- Two screens up to their row replicas. -/
def SameGrid (a b : DecodedWireScreenState) : Prop :=
  ScreenState.ofDecoded a = ScreenState.ofDecoded b

instance (a b : DecodedWireScreenState) : Decidable (SameGrid a b) :=
  inferInstanceAs (Decidable (_ = _))

/-- On the screen of its base a delta gives the screen of its result. -/
theorem patched_sameGrid {delta : StateDelta} {screen : DecodedWireScreenState}
    (base : SameGrid screen (decodedScreen delta.previous.val)) :
    SameGrid (patched delta screen) (decodedScreen delta.current.val) := by
  have shape := sameShape delta
  have cells : screen.cells = delta.previous.val.cells.map decodedCell :=
    congrArg ScreenState.cells base
  have rows : screen.rows = delta.current.val.rows :=
    (congrArg ScreenState.rows base).trans shape.rows_eq
  have cols : screen.cols = delta.current.val.cols :=
    (congrArg ScreenState.cols base).trans shape.cols_eq
  have overlay_eq := (overlay_changedRows shape decodedCell decodedCell).mpr fun _ _ => rfl
  simp only [SameGrid, ScreenState.ofDecoded, patched, overlaid, decodedScreen, rows, cols, cells,
    overlay_eq]

section Handling

variable (client : Client)

theorem handle_paneFullState (header : PaneHeader) (state : Grid) :
    client.handle (delivery (.pane header (.full state))) =
      client.applyPaneFullState (decodedHeader header) (decodedScreen state.val) := by
  rw [delivery, Client.handle, decodePaneFullState_encode]

theorem handle_paneDelta (header : PaneHeader) (delta : StateDelta) :
    client.handle (delivery (.pane header (.patch delta))) =
      client.applyPaneDelta (decodedHeader header) (updatePayload none true (.patch delta)) := by
  rw [delivery, Client.handle, decodePaneDelta_encode]

theorem handle_fullState (source : PaneId) (latestInputSeq : Option UInt64) (state : Grid) :
    client.handle (delivery (.screen source latestInputSeq (.full state))) =
      client.applyReducedScreen (some (decodedScreen state.val)) := by
  rw [delivery, Client.handle, Client.reduceFullState, updatePayload,
    decodeFullState_encodeFullState state.property]

theorem handle_delta (source : PaneId) (latestInputSeq : Option UInt64) (delta : StateDelta) :
    client.handle (delivery (.screen source latestInputSeq (.patch delta))) =
      client.applyReducedScreen (some (patched delta client.screen.decoded)) := by
  rw [delivery, Client.handle, Client.reduceDelta, applyDelta_patch]

end Handling

end Boo.Ios.Deliveries
