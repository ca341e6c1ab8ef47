/- module: Boo/Server/Frames
   digest: The frames a server queues for one client, kept as the values they encode. -/

import Boo.Lib.SnapshotLog
import Boo.Remote.ReadLoop
import Boo.Wire.Delta

set_option autoImplicit false
set_option relaxedAutoImplicit false

namespace Boo.Server.Frames

open Boo.Lib.LittleEndian
open Boo.Lib.SnapshotLog
open Boo.Remote.ReadLoop
open Boo.Wire.Message
open Boo.Wire.Delta

abbrev PaneId := UInt64
/-- The `u32` ids of tabs, for runs that open fewer than `2 ^ 32` of them: the counter does not wrap
in these (`ids_fit`). -/
abbrev TabId := Nat
abbrev ClientId := UInt64

structure RemoteTabInfo where
  id : TabId
  name : String
  title : String
  pwd : String
  active : Bool
  childExited : Bool
  deriving DecidableEq, Repr

structure UiTabSnapshot where
  tabId : TabId
  index : Nat
  active : Bool
  title : String
  paneCount : Nat
  focusedPane : Option PaneId
  paneIds : List PaneId
  deriving DecidableEq, Repr

/-- Pane frames, the mouse selection, the status bar and the working directory travel with
the runtime state but steer nothing here; `presentation` stands for all of them. -/
structure UiRuntimeState where
  activeTab : Nat
  focusedPane : PaneId
  tabs : List UiTabSnapshot
  presentation : Nat
  runtimeRevision : UInt64
  viewRevision : UInt64
  viewId : UInt64
  viewedTabId : Option TabId
  viewportCols : Option UInt16
  viewportRows : Option UInt16
  visiblePaneIds : List PaneId
  ackedClientActionId : Option UInt64
  deriving DecidableEq, Repr

/-- The colours a client draws cells with; fonts, opacity and cursor shape are left out. -/
structure UiAppearance where
  terminalForeground : RgbColor
  terminalBackground : RgbColor
  cursorColor : RgbColor
  deriving DecidableEq, Repr

/-- The four message types that carry a terminal screen. -/
def CarriesScreen (ty : MessageType) : Prop :=
  ty = .fullState ∨ ty = .delta ∨ ty = .uiPaneFullState ∨ ty = .uiPaneDelta

instance (ty : MessageType) : Decidable (CarriesScreen ty) :=
  inferInstanceAs (Decidable (_ ∨ _ ∨ _ ∨ _))

/-- Any other frame: replies of the reader thread, clipboard, images, row ranges. -/
structure OtherFrame where
  ty : MessageType
  payload : List UInt8
  noScreen : ¬ CarriesScreen ty
  deriving DecidableEq

inductive ControlFrame
  | tabList (tabs : List RemoteTabInfo)
  | uiRuntimeState (state : UiRuntimeState)
  | uiAppearance (appearance : UiAppearance)
  | tabCreated (tabId : TabId)
  | errorMsg (code : RemoteErrorCode) (message : String)
  | other (frame : OtherFrame)
  deriving DecidableEq

def ControlFrame.messageType : ControlFrame → MessageType
  | tabList _ => .tabList
  | uiRuntimeState _ => .uiRuntimeState
  | uiAppearance _ => .uiAppearance
  | tabCreated _ => .tabCreated
  | errorMsg _ _ => .errorMsg
  | other frame => frame.ty

theorem ControlFrame.not_carriesScreen (frame : ControlFrame) :
    ¬ CarriesScreen frame.messageType := by
  cases frame with
  | other frame => exact frame.noScreen
  | _ => simp [ControlFrame.messageType, CarriesScreen]

/-- A pair of grids that `encode_delta` turns into a delta. -/
structure StateDelta where
  previous : Grid
  current : Grid
  encodable : (encodeDelta previous.val current.val none true).isSome
  deriving DecidableEq

/-- The content of a screen frame: a full state, or a delta against an earlier one. -/
abbrev Update := Entry Grid StateDelta

structure PaneHeader where
  tabId : TabId
  paneId : PaneId
  paneRevision : UInt64
  runtimeRevision : UInt64
  deriving DecidableEq, Repr

/-- `source` is the pane that a screen frame was rendered from; it is not on the wire. -/
inductive Frame
  | control (frame : ControlFrame)
  | screen (source : PaneId) (latestInputSeq : Option UInt64) (isLocal : Bool) (update : Update)
  | pane (header : PaneHeader) (update : Update)
  deriving DecidableEq

def Frame.messageType : Frame → MessageType
  | control frame => frame.messageType
  | screen _ _ _ (.full _) => .fullState
  | screen _ _ _ (.patch _) => .delta
  | pane _ (.full _) => .uiPaneFullState
  | pane _ (.patch _) => .uiPaneDelta

def updatePayload (latestInputSeq : Option UInt64) (isLocal : Bool) : Update → List UInt8
  | .full state => encodeFullState state.val latestInputSeq isLocal
  | .patch delta =>
      (encodeDelta delta.previous.val delta.current.val latestInputSeq isLocal).getD []

def PaneHeader.encode (header : PaneHeader) (payload : List UInt8) : List UInt8 :=
  encodeUiPaneUpdatePayload (UInt32.ofNat header.tabId) header.paneId header.paneRevision
    header.runtimeRevision payload

section Bytes

/- The JSON and tab-list encoders of control payloads are a parameter. -/
variable (controlPayload : ControlFrame → List UInt8)

def Frame.payload : Frame → List UInt8
  | control frame => controlPayload frame
  | screen _ latestInputSeq isLocal update => updatePayload latestInputSeq isLocal update
  | pane header update => header.encode (updatePayload none true update)

def Frame.bytes (frame : Frame) : List UInt8 :=
  encodeMessage frame.messageType (frame.payload controlPayload)

end Bytes

/-- Whether a delta exists does not depend on the input sequence or the prefix. -/
theorem encodeDelta_isSome (previous current : RemoteFullState) (seq seq' : Option UInt64)
    (isLocal isLocal' : Bool) :
    (encodeDelta previous current seq isLocal).isSome =
      (encodeDelta previous current seq' isLocal').isSome := by
  unfold encodeDelta
  split
  · rfl
  · split
    · rfl
    · dsimp only
      split
      · rfl
      · split <;> rfl

theorem StateDelta.encodeDelta_eq (delta : StateDelta) (seq : Option UInt64) (isLocal : Bool) :
    encodeDelta delta.previous.val delta.current.val seq isLocal =
      some (updatePayload seq isLocal (.patch delta)) := by
  have present := delta.encodable
  rw [encodeDelta_isSome _ _ none seq true isLocal] at present
  rw [updatePayload, ← Option.some_get present]
  rfl

/-- The delta against the state recorded as sent, or a full state when there is none. -/
def nextUpdate (previous : Option Grid) (next : Grid) : Update :=
  match previous with
  | none => .full next
  | some previous =>
      if encodable : (encodeDelta previous.val next.val none true).isSome then
        .patch ⟨previous, next, encodable⟩
      else .full next

/-- What the server recorded as sent on a stream, after one more update. -/
def updateState : Update → Grid
  | .full state => state
  | .patch delta => delta.current

/-- A patch is sent only against the state that was sent before. -/
theorem nextUpdate_cases (previous : Option Grid) (next : Grid) :
    nextUpdate previous next = .full next ∨ ∃ delta : StateDelta,
      previous = some delta.previous ∧ delta.current = next ∧
        nextUpdate previous next = .patch delta := by
  cases previous with
  | none => exact .inl rfl
  | some previous =>
      unfold nextUpdate
      dsimp only
      split
      · rename_i encodable
        exact .inr ⟨⟨previous, next, encodable⟩, rfl, rfl, rfl⟩
      · exact .inl rfl

@[simp] theorem updateState_nextUpdate (previous : Option Grid) (next : Grid) :
    updateState (nextUpdate previous next) = next := by
  rcases nextUpdate_cases previous next with full | ⟨delta, -, current, patch⟩
  · rw [full, updateState]
  · rw [patch, updateState, current]

/-- Message type and payload exactly as `send_state_to_client` chooses them. -/
theorem nextUpdate_screen (previous : Option Grid) (next : Grid) (source : PaneId)
    (seq : Option UInt64) (isLocal : Bool) (controlPayload : ControlFrame → List UInt8) :
    ((Frame.screen source seq isLocal (nextUpdate previous next)).messageType,
      (Frame.screen source seq isLocal (nextUpdate previous next)).payload controlPayload) =
    match previous.bind fun previous => encodeDelta previous.val next.val seq isLocal with
    | some delta => (MessageType.delta, delta)
    | none => (MessageType.fullState, encodeFullState next.val seq isLocal) := by
  cases previous with
  | none => rfl
  | some previous =>
      rw [nextUpdate, Option.bind_some]
      by_cases encodable : (encodeDelta previous.val next.val none true).isSome
      · rw [dif_pos encodable, StateDelta.encodeDelta_eq ⟨previous, next, encodable⟩]
        rfl
      · have missing := encodable
        rw [encodeDelta_isSome _ _ none seq true isLocal, Option.not_isSome_iff_eq_none] at missing
        rw [dif_neg encodable, missing]
        rfl

/-- Message type and body exactly as `send_pane_state_to_client` chooses them. -/
theorem nextUpdate_pane (previous : Option Grid) (next : Grid) (header : PaneHeader)
    (controlPayload : ControlFrame → List UInt8) :
    ((Frame.pane header (nextUpdate previous next)).messageType,
      (Frame.pane header (nextUpdate previous next)).payload controlPayload) =
    match previous.bind fun previous => encodeDelta previous.val next.val none true with
    | some delta => (MessageType.uiPaneDelta, header.encode delta)
    | none => (MessageType.uiPaneFullState,
        header.encode (encodeFullState next.val none true)) := by
  cases previous with
  | none => rfl
  | some previous =>
      rw [nextUpdate, Option.bind_some]
      by_cases encodable : (encodeDelta previous.val next.val none true).isSome
      · rw [dif_pos encodable, StateDelta.encodeDelta_eq ⟨previous, next, encodable⟩]
        rfl
      · rw [dif_neg encodable, Option.not_isSome_iff_eq_none.mp encodable]
        rfl

/-- `frame.get(2).copied().and_then(|value| MessageType::try_from(value).ok())`. -/
def frameType (frame : List UInt8) : Option MessageType :=
  frame[2]?.bind MessageType.tryFrom

@[simp] theorem frameType_encodeMessage (ty : MessageType) (payload : List UInt8) :
    frameType (encodeMessage ty payload) = some ty := by
  simp [frameType, encodeMessage, magic]

end Boo.Server.Frames
