/- module: Boo/Server/View
   digest: What the server keeps per client, and the sends that read and update it. -/

import Boo.Remote.Batcher

set_option autoImplicit false
set_option relaxedAutoImplicit false

namespace Boo.Server.View

open Boo.Lib.SnapshotLog
open Boo.Wire.Message
open Boo.Server.Frames
open Boo.Remote.Batcher
open Boo.Remote.ReadLoop

/-- `revision.wrapping_add(1).max(1)`. -/
def bumpRevision (revision : UInt64) : UInt64 := max (revision + 1) 1

/-- The control payloads are kept as the values they encode; `detachedAt` and `lastRenderAckAt`
are clock readings. -/
structure ClientRuntimeView where
  viewId : UInt64
  subscribedToRuntime : Bool
  viewRevision : UInt64
  viewedTabId : Option TabId
  focusedPaneId : Option PaneId
  viewportCols : Option UInt16
  viewportRows : Option UInt16
  visiblePaneIds : List PaneId
  uiAttached : Bool
  detachedAt : Option Nat
  ackedClientActionId : Option UInt64
  lastRenderAckAt : Option Nat
  lastRenderedPaneId : Option PaneId
  lastRenderedPaneRevision : Option UInt64
  lastRenderedRuntimeRevision : Option UInt64
  scrollOffsetRows : Int
  copyModeActive : Bool
  searchActive : Bool
  searchQuery : String
  lastTabListPayload : Option (List RemoteTabInfo)
  lastUiRuntimeStatePayload : Option UiRuntimeState
  lastUiAppearancePayload : Option UiAppearance
  lastState : Option Grid
  paneStates : PaneId → Option Grid
  latestInputSeq : Option UInt64

namespace ClientRuntimeView

def idle : ClientRuntimeView where
  viewId := 0
  subscribedToRuntime := false
  viewRevision := 1
  viewedTabId := none
  focusedPaneId := none
  viewportCols := none
  viewportRows := none
  visiblePaneIds := []
  uiAttached := true
  detachedAt := none
  ackedClientActionId := none
  lastRenderAckAt := none
  lastRenderedPaneId := none
  lastRenderedPaneRevision := none
  lastRenderedRuntimeRevision := none
  scrollOffsetRows := 0
  copyModeActive := false
  searchActive := false
  searchQuery := ""
  lastTabListPayload := none
  lastUiRuntimeStatePayload := none
  lastUiAppearancePayload := none
  lastState := none
  paneStates := fun _ => none
  latestInputSeq := none

def clearStreamState (view : ClientRuntimeView) : ClientRuntimeView :=
  { view with
    lastState := none
    paneStates := fun _ => none
    latestInputSeq := none }

def touchView (view : ClientRuntimeView) : ClientRuntimeView :=
  { view with viewRevision := bumpRevision view.viewRevision }.clearStreamState

def attachUi (view : ClientRuntimeView) : ClientRuntimeView :=
  { view with
    uiAttached := true
    detachedAt := none }.touchView

def detachUi (view : ClientRuntimeView) (now : Nat) : ClientRuntimeView :=
  { view with
    uiAttached := false
    detachedAt := some now }.touchView

/-- The closure of `initialize_client_view`. -/
def initializeClientView (view : ClientRuntimeView) (clientId : ClientId) (viewedTabId : Option TabId)
    (focusedPaneId : Option PaneId) (visiblePaneIds : List PaneId) : ClientRuntimeView :=
  { view with
    viewId := if view.viewId = 0 then clientId else view.viewId
    viewedTabId := viewedTabId
    focusedPaneId := focusedPaneId
    visiblePaneIds := visiblePaneIds
    uiAttached := true
    detachedAt := none }.touchView

/-- The three fields that every retargeting of a view sets before it touches the view. -/
def retarget (view : ClientRuntimeView) (viewedTabId : Option TabId)
    (focusedPaneId : Option PaneId) (visiblePaneIds : List PaneId) : ClientRuntimeView :=
  { view with
    viewedTabId := viewedTabId
    focusedPaneId := focusedPaneId
    visiblePaneIds := visiblePaneIds }.touchView

def subscribe (view : ClientRuntimeView) : ClientRuntimeView :=
  if view.subscribedToRuntime then view
  else { view with subscribedToRuntime := true }.clearStreamState

def unsubscribe (view : ClientRuntimeView) : ClientRuntimeView :=
  { view with subscribedToRuntime := false }.clearStreamState

def recordInputSeq (view : ClientRuntimeView) (inputSeq : Option UInt64) : ClientRuntimeView :=
  match inputSeq with
  | none => view
  | some seq => { view with latestInputSeq := some seq }

/-- The body of the loop of `sweep_idle_views`, once the view has been idle long enough. -/
def expire (view : ClientRuntimeView) : ClientRuntimeView :=
  { view with
    subscribedToRuntime := false
    viewedTabId := none
    focusedPaneId := none
    visiblePaneIds := []
    viewportCols := none
    viewportRows := none
    detachedAt := none }.touchView

/-- Whether `sweep_idle_views` expires the view at clock reading `now`. -/
def isExpired (view : ClientRuntimeView) (now idleTimeout : Nat) : Bool :=
  match view.detachedAt with
  | none => false
  | some detachedAt => !view.uiAttached && decide (idleTimeout ≤ now - detachedAt)

/-- The attachment of `AttachView`, which also subscribes. -/
def attachSubscribed (view : ClientRuntimeView) : ClientRuntimeView :=
  { view.attachUi with subscribedToRuntime := true }

def detachUnsubscribed (view : ClientRuntimeView) (now : Nat) : ClientRuntimeView :=
  { view.detachUi now with subscribedToRuntime := false }

def setViewport (view : ClientRuntimeView) (cols rows : UInt16) : ClientRuntimeView :=
  { view with
    viewportCols := some cols
    viewportRows := some rows }.touchView

def ackAction (view : ClientRuntimeView) (clientActionId : UInt64) : ClientRuntimeView :=
  { view with ackedClientActionId := some clientActionId }.touchView

/-- The closure of `RemoteRenderAck`, which does not touch the view. -/
def renderAck (view : ClientRuntimeView) (now : Nat) (paneId : PaneId)
    (paneRevision runtimeRevision : UInt64) : ClientRuntimeView :=
  { view with
    lastRenderAckAt := some now
    lastRenderedPaneId := some paneId
    lastRenderedPaneRevision := some paneRevision
    lastRenderedRuntimeRevision := some runtimeRevision }

end ClientRuntimeView

/-- The runtime actions that `update_remote_view_local_state` handles. -/
inductive LocalViewChange
  | scroll (rows : Int)
  | copyMode (active : Bool)
  | searchQuery (query : String)
  | navigateSearch
  deriving DecidableEq

/-- The scroll offset saturates at the upper end of `i64`. -/
def LocalViewChange.apply (view : ClientRuntimeView) : LocalViewChange → ClientRuntimeView
  | scroll rows => { view with
      scrollOffsetRows := max (min (view.scrollOffsetRows + rows) (2 ^ 63 - 1)) 0 }
  | copyMode true => { view with copyModeActive := true }
  | copyMode false => { view with
      copyModeActive := false
      searchActive := false
      searchQuery := "" }
  | searchQuery query => { view with
      searchActive := true
      searchQuery := query }
  | navigateSearch => { view with searchActive := true }

/-- The closure of `update_remote_view_local_state`, with the touch that follows it. -/
def ClientRuntimeView.changeLocally (view : ClientRuntimeView) (viewId : UInt64)
    (change : LocalViewChange) : ClientRuntimeView :=
  (change.apply { view with
    viewId := if view.viewId = 0 then viewId else view.viewId }).touchView

/-- `outbound` lists everything ever queued for the client's writer, oldest first. Connection
times, which only the idle disconnect reads, are left out. -/
structure ClientState where
  outbound : List (OutboundMessage Frame)
  isLocal : Bool
  runtimeView : ClientRuntimeView

namespace ClientState

def queue (client : ClientState) (message : OutboundMessage Frame) : ClientState :=
  { client with outbound := client.outbound ++ [message] }

def updateView (client : ClientState) (update : ClientRuntimeView → ClientRuntimeView) :
    ClientState :=
  { client with runtimeView := update client.runtimeView }

def sendFrame (client : ClientState) (frame : ControlFrame) : ClientState :=
  client.queue (.frame (.control frame))

def sendError (client : ClientState) (code : RemoteErrorCode) (message : String) : ClientState :=
  client.sendFrame (.errorMsg code message)

/-- The message that `send_state_to_client` queues for a subscribed client. -/
def stateMessage (client : ClientState) (source : PaneId) (nextState : Grid) :
    OutboundMessage Frame :=
  .screenUpdate (.screen source client.runtimeView.latestInputSeq client.isLocal
    (nextUpdate client.runtimeView.lastState nextState))

def sendStateToClient (client : ClientState) (source : PaneId) (nextState : Grid) : ClientState :=
  if client.runtimeView.subscribedToRuntime then
    (client.updateView fun view => { view with lastState := some nextState }).queue
      (client.stateMessage source nextState)
  else client

def paneStateMessage (client : ClientState) (header : PaneHeader) (nextState : Grid) :
    OutboundMessage Frame :=
  .paneUpdate header.paneId (client.runtimeView.focusedPaneId = some header.paneId)
    (.pane header (nextUpdate (client.runtimeView.paneStates header.paneId) nextState))

def sendPaneStateToClient (client : ClientState) (header : PaneHeader) (nextState : Grid) :
    ClientState :=
  if client.runtimeView.subscribedToRuntime then
    (client.updateView fun view => { view with
      paneStates := Function.update view.paneStates header.paneId (some nextState) }).queue
        (client.paneStateMessage header nextState)
  else client

/-- `send_cached_control_payload_bytes` for the tab list: an identical payload is skipped. -/
def sendTabList (client : ClientState) (tabs : List RemoteTabInfo) : ClientState :=
  if client.runtimeView.lastTabListPayload = some tabs then client
  else (client.updateView fun view => { view with lastTabListPayload := some tabs }).sendFrame
    (.tabList tabs)

def replyTabList (client : ClientState) (tabs : List RemoteTabInfo) : ClientState :=
  client.sendFrame (.tabList tabs)

def sendUiRuntimeState (client : ClientState) (state : UiRuntimeState) : ClientState :=
  if client.runtimeView.lastUiRuntimeStatePayload = some state then client
  else (client.updateView fun view => { view with
    lastUiRuntimeStatePayload := some state }).sendFrame (.uiRuntimeState state)

def sendUiAppearance (client : ClientState) (appearance : UiAppearance) : ClientState :=
  if client.runtimeView.lastUiAppearancePayload = some appearance then client
  else (client.updateView fun view => { view with
    lastUiAppearancePayload := some appearance }).sendFrame (.uiAppearance appearance)

end ClientState

end Boo.Server.View
