/- module: Boo/Server/Streams
   digest: What the server keeps per client, reduced to the view and the stream it feeds. -/

import Boo.Runtime.Tabs
import Boo.Server.View

set_option autoImplicit false
set_option relaxedAutoImplicit false

namespace Boo.Server.Streams

open Boo.Lib.SnapshotLog
open Boo.Wire.Message
open Boo.Remote.ReadLoop
open Boo.Remote.Batcher
open Boo.Server.Frames
open Boo.Server.View
open Boo.Runtime.Tabs

/-- The queued messages that a viewer's screens depend on. -/
inductive Sent
  | told (state : UiRuntimeState)
  | screen (source : PaneId) (latestInputSeq : Option UInt64) (update : Update)
  | pane (header : PaneHeader) (update : Update)
  deriving DecidableEq

def sentOf : OutboundMessage Frame → Option Sent
  | .frame (.control (.uiRuntimeState state)) => some (.told state)
  | .screenUpdate (.screen source latestInputSeq _ update) =>
      some (.screen source latestInputSeq update)
  | .paneUpdate _ _ (.pane header update) => some (.pane header update)
  | _ => none

/-- `told` is the last `UiRuntimeState` that was queued. -/
structure Stream where
  isLocal : Bool
  subscribed : Bool
  viewed : Option TabId
  focused : Option PaneId
  visible : List PaneId
  viewRevision : UInt64
  ackedAction : Option UInt64
  told : Option UiRuntimeState
  lastState : Option Grid
  paneStates : PaneId → Option Grid
  inputSeq : Option UInt64
  queue : List Sent

def streamOf (client : ClientState) : Stream where
  isLocal := client.isLocal
  subscribed := client.runtimeView.subscribedToRuntime
  viewed := client.runtimeView.viewedTabId
  focused := client.runtimeView.focusedPaneId
  visible := client.runtimeView.visiblePaneIds
  viewRevision := client.runtimeView.viewRevision
  ackedAction := client.runtimeView.ackedClientActionId
  told := client.runtimeView.lastUiRuntimeStatePayload
  lastState := client.runtimeView.lastState
  paneStates := client.runtimeView.paneStates
  inputSeq := client.runtimeView.latestInputSeq
  queue := client.outbound.filterMap sentOf

namespace Stream

def new (isLocal : Bool) : Stream where
  isLocal := isLocal
  subscribed := false
  viewed := none
  focused := none
  visible := []
  viewRevision := 1
  ackedAction := none
  told := none
  lastState := none
  paneStates := fun _ => none
  inputSeq := none
  queue := []

/-- A new view revision forgets the states recorded as sent, and the input to acknowledge. -/
def touch (stream : Stream) : Stream :=
  { stream with
    viewRevision := bumpRevision stream.viewRevision
    lastState := none
    paneStates := fun _ => none
    inputSeq := none }

/-- Every retargeting lists the panes that the tab has at that moment. -/
def aim (stream : Stream) (tabs : TabManager) (viewed : Option TabId)
    (focused : Option PaneId) : Stream :=
  { stream with
    viewed := viewed
    focused := focused
    visible := (viewed.map tabs.paneIdsForTab).getD [] }.touch

def push (stream : Stream) (sent : Sent) : Stream :=
  { stream with queue := stream.queue ++ [sent] }

/-- An unchanged state is not queued again. -/
def tell (stream : Stream) (state : UiRuntimeState) : Stream :=
  if stream.told = some state then stream
  else { stream with told := some state }.push (.told state)

def sendScreen (stream : Stream) (source : PaneId) (state : Grid) : Stream :=
  if stream.subscribed then
    { stream with lastState := some state }.push
      (.screen source stream.inputSeq (nextUpdate stream.lastState state))
  else stream

def sendPane (stream : Stream) (header : PaneHeader) (state : Grid) : Stream :=
  if stream.subscribed then
    { stream with
      paneStates := Function.update stream.paneStates header.paneId (some state) }.push
        (.pane header (nextUpdate (stream.paneStates header.paneId) state))
  else stream

end Stream

section Client

variable (client : ClientState)

@[simp] theorem streamOf_sendFrame {frame : ControlFrame}
    (other : ∀ state, frame ≠ .uiRuntimeState state) :
    streamOf (client.sendFrame frame) = streamOf client := by
  have dropped : sentOf (.frame (.control frame)) = none := by
    cases frame with
    | uiRuntimeState state => exact absurd rfl (other state)
    | _ => rfl
  simp [streamOf, ClientState.sendFrame, ClientState.queue, dropped]

@[simp] theorem streamOf_sendError (code : RemoteErrorCode) (message : String) :
    streamOf (client.sendError code message) = streamOf client :=
  streamOf_sendFrame client fun _ same => by cases same

@[simp] theorem streamOf_replyTabList (tabs : List RemoteTabInfo) :
    streamOf (client.replyTabList tabs) = streamOf client :=
  streamOf_sendFrame client fun _ same => by cases same

@[simp] theorem streamOf_sendTabList (tabs : List RemoteTabInfo) :
    streamOf (client.sendTabList tabs) = streamOf client := by
  unfold ClientState.sendTabList
  split
  · rfl
  · rw [streamOf_sendFrame _ fun _ same => by cases same]
    rfl

@[simp] theorem streamOf_sendUiAppearance (appearance : UiAppearance) :
    streamOf (client.sendUiAppearance appearance) = streamOf client := by
  unfold ClientState.sendUiAppearance
  split
  · rfl
  · rw [streamOf_sendFrame _ fun _ same => by cases same]
    rfl

@[simp] theorem streamOf_sendUiRuntimeState (state : UiRuntimeState) :
    streamOf (client.sendUiRuntimeState state) = (streamOf client).tell state := by
  unfold ClientState.sendUiRuntimeState Stream.tell
  by_cases same : client.runtimeView.lastUiRuntimeStatePayload = some state
  · rw [if_pos same, if_pos (show (streamOf client).told = some state from same)]
  · rw [if_neg same, if_neg (show (streamOf client).told ≠ some state from same)]
    simp [streamOf, ClientState.sendFrame, ClientState.queue, ClientState.updateView,
      Stream.push, sentOf]

@[simp] theorem streamOf_sendStateToClient (source : PaneId) (state : Grid) :
    streamOf (client.sendStateToClient source state) =
      (streamOf client).sendScreen source state := by
  unfold ClientState.sendStateToClient Stream.sendScreen
  by_cases subscribed : client.runtimeView.subscribedToRuntime
  · rw [if_pos subscribed, if_pos (show (streamOf client).subscribed = true from subscribed)]
    simp [streamOf, ClientState.queue, ClientState.updateView, ClientState.stateMessage,
      Stream.push, sentOf]
  · rw [if_neg subscribed,
      if_neg (show ¬(streamOf client).subscribed = true from subscribed)]

@[simp] theorem streamOf_sendPaneStateToClient (header : PaneHeader) (state : Grid) :
    streamOf (client.sendPaneStateToClient header state) =
      (streamOf client).sendPane header state := by
  unfold ClientState.sendPaneStateToClient Stream.sendPane
  by_cases subscribed : client.runtimeView.subscribedToRuntime
  · rw [if_pos subscribed, if_pos (show (streamOf client).subscribed = true from subscribed)]
    simp [streamOf, ClientState.queue, ClientState.updateView, ClientState.paneStateMessage,
      Stream.push, sentOf]
  · rw [if_neg subscribed,
      if_neg (show ¬(streamOf client).subscribed = true from subscribed)]

@[simp] theorem streamOf_changeLocally (viewId : UInt64) (change : LocalViewChange) :
    streamOf (client.updateView (·.changeLocally viewId change)) = (streamOf client).touch := by
  cases change with
  | copyMode active => cases active <;> rfl
  | _ => rfl

@[simp] theorem streamOf_recordInputSeq (inputSeq : Option UInt64) :
    streamOf (client.updateView (·.recordInputSeq inputSeq)) =
      { streamOf client with inputSeq := inputSeq.or (streamOf client).inputSeq } := by
  cases inputSeq <;> rfl

end Client

end Boo.Server.Streams
