/- module: Boo/Ios/ProtocolClient
   digest: The pane maps, the screen and the row requests of the iOS client (ProtocolClient.swift). -/

import Boo.Lib.OrderedMap
import Boo.Server.Frames
import Boo.Wire.RowRange
import Mathlib.Logic.Function.Basic

set_option autoImplicit false
set_option relaxedAutoImplicit false

namespace Boo.Ios.ProtocolClient

open Boo.Lib.LittleEndian
open Boo.Lib.OrderedMap
open Boo.Wire.Message
open Boo.Wire.SwiftCodec
open Boo.Wire.RowRange
open Boo.Server.Frames

/-- `touchScrollOffsetRows` is a `Double` of whole and half rows, taken as exact. -/
structure PaneReplica where
  epoch : UInt64
  cols : UInt16
  scrollbackTotal : UInt64
  liveViewportTopRowId : UInt64
  cursorRowId : UInt64
  touchScrollOffsetRows : Rat := 0
  rowCache : SortedMap UInt64 (List DecodedWireCell) := .empty

/-- The messages the client sends from the functions modelled here. -/
inductive Outbound
  | rowRangeRequest (request : RemoteRowRangeRequest)
  | wheelScrolledLines (x y : Rat)
  | attachView (viewId : UInt64)
  | setViewedTab (viewId : UInt64) (tabId : TabId)
  | focusPane (viewId : UInt64) (tabId : TabId) (paneId : PaneId)
  | renderAck (viewId : UInt64) (update : DecodedPaneUpdate)
  deriving DecidableEq

/-- The screen object, which has no row replica. -/
structure ScreenState where
  rows : UInt16 := 0
  cols : UInt16 := 0
  cells : List DecodedWireCell := []
  cursorX : UInt16 := 0
  cursorY : UInt16 := 0
  cursorVisible : Bool := true
  cursorBlinking : Bool := false
  cursorStyle : Int32 := 0
  deriving DecidableEq

namespace ScreenState

def ofDecoded (decoded : DecodedWireScreenState) : ScreenState where
  rows := decoded.rows
  cols := decoded.cols
  cells := decoded.cells
  cursorX := decoded.cursorX
  cursorY := decoded.cursorY
  cursorVisible := decoded.cursorVisible
  cursorBlinking := decoded.cursorBlinking
  cursorStyle := decoded.cursorStyle

def decoded (screen : ScreenState) : DecodedWireScreenState where
  rows := screen.rows
  cols := screen.cols
  cells := screen.cells
  cursorX := screen.cursorX
  cursorY := screen.cursorY
  cursorVisible := screen.cursorVisible
  cursorBlinking := screen.cursorBlinking
  cursorStyle := screen.cursorStyle

end ScreenState

/-- `connection` holds what was sent on the open connection, and `rowRangeRequestsInFlight`
the requests whose key `pane:epoch:start:end` is in the set. -/
structure Client where
  connection : Option (List Outbound)
  runtimeState : Option UiRuntimeState
  screen : ScreenState
  paneScreens : PaneId → Option DecodedWireScreenState
  paneReplicas : PaneId → Option PaneReplica
  paneServerRevisions : PaneId → Option UInt64
  paneServerRuntimeRevisions : PaneId → Option UInt64
  paneFullStateSeen : PaneId → Bool
  paneRefreshRequestedRevisions : PaneId → Option UInt64
  rowRangeRequestsInFlight : List RemoteRowRangeRequest

/-- The rows of a screen under the ids listed for them; an id past the last row is skipped. -/
def listedRows (state : DecodedWireScreenState) (rowIds : List UInt64) :
    List (UInt64 × List DecodedWireCell) :=
  rowIds.zipIdx.filterMap fun (rowId, index) =>
    let start := index * state.cols.toNat
    if start + state.cols.toNat ≤ state.cells.length then
      some (rowId, slice state.cells start state.cols.toNat)
    else none

def maxRows : Nat := 10000

def trimPaneReplica (replica : PaneReplica) : PaneReplica :=
  { replica with rowCache := replica.rowCache.keepLargest maxRows }

/-- The first row shown at a scroll offset above the live viewport. -/
def historyStart (liveViewportTopRowId : UInt64) (offset : Rat) : UInt64 :=
  let offsetRows := UInt64.ofNat offset.ceil.toNat
  if offsetRows < liveViewportTopRowId then liveViewportTopRowId - offsetRows else 0

/-- A row of the history; a row that is not cached, or is cached too narrow, is blank. -/
def historyRow (rowCache : SortedMap UInt64 (List DecodedWireCell)) (cols : Nat)
    (rowId : UInt64) : List DecodedWireCell :=
  match rowCache.find? rowId with
  | some cells => if cols ≤ cells.length then cells.take cols else List.replicate cols {}
  | none => List.replicate cols {}

/-- `missingStart` and `missingEnd` of the request loop: the first run of rows not cached. -/
def missingRun (cached : UInt64 → Bool) : Option (UInt64 × UInt64) → List UInt64 →
    Option (UInt64 × UInt64)
  | run, [] => run
  | none, rowId :: rows =>
      if cached rowId then missingRun cached none rows
      else missingRun cached (some (rowId, rowId + 1)) rows
  | some (missingStart, missingEnd), rowId :: rows =>
      if cached rowId then some (missingStart, missingEnd)
      else missingRun cached (some (missingStart, rowId + 1)) rows

/-- `filter { visible.contains($0.key) }`. -/
def visibleOnly {V : Type} (state : UiRuntimeState) (values : PaneId → Option V)
    (paneId : PaneId) : Option V :=
  if paneId ∈ state.visiblePaneIds then values paneId else none

namespace Client

def new : Client where
  connection := none
  runtimeState := none
  screen := {}
  paneScreens := fun _ => none
  paneReplicas := fun _ => none
  paneServerRevisions := fun _ => none
  paneServerRuntimeRevisions := fun _ => none
  paneFullStateSeen := fun _ => false
  paneRefreshRequestedRevisions := fun _ => none
  rowRangeRequestsInFlight := []

section Sending

variable (client : Client)

def sendMessage (message : Outbound) : Client :=
  { client with connection := client.connection.map (· ++ [message]) }

def currentViewId : UInt64 := (client.runtimeState.map (·.viewId)).getD 0

def requestRows (paneId : PaneId) (epoch start stop : UInt64) : Client :=
  if start < stop then
    let request : RemoteRowRangeRequest := ⟨paneId, epoch, start, stop⟩
    if request ∈ client.rowRangeRequestsInFlight then client
    else
      { client with
        rowRangeRequestsInFlight := client.rowRangeRequestsInFlight ++ [request]
      }.sendMessage (.rowRangeRequest request)
  else client

def requestMissingRowsIfNeeded (paneId : PaneId) (epoch start stop : UInt64) : Client :=
  match client.paneReplicas paneId with
  | none => client
  | some replica =>
      let rows := (List.range (stop.toNat - start.toNat)).map fun row => start + UInt64.ofNat row
      match missingRun (fun rowId => (replica.rowCache.find? rowId).isSome) none rows with
      | none => client
      | some (missingStart, missingEnd) =>
          client.requestRows paneId epoch missingStart missingEnd

def requestPaneFullStateRefreshIfNeeded (update : DecodedPaneUpdate) : Client :=
  match client.runtimeState with
  | none => client
  | some runtimeState =>
      if runtimeState.viewId = 0 then client
      else if client.paneRefreshRequestedRevisions update.paneId = some update.paneRevision then
        client
      else
        { client with
          paneRefreshRequestedRevisions := Function.update client.paneRefreshRequestedRevisions
            update.paneId (some update.paneRevision)
        }.sendMessage (.attachView runtimeState.viewId)

end Sending

section Screens

variable (client : Client)

def setPaneScreen (paneId : PaneId) (state : DecodedWireScreenState) : Client :=
  { client with paneScreens := Function.update client.paneScreens paneId (some state) }

def setReplica (paneId : PaneId) (replica : PaneReplica) : Client :=
  { client with paneReplicas := Function.update client.paneReplicas paneId (some replica) }

/-- A scrolled pane shows one row more than its screen has, all out of its row cache. -/
def displayedPaneScreen (paneId : PaneId) : Option DecodedWireScreenState :=
  match client.paneReplicas paneId, client.paneScreens paneId with
  | some replica, some live =>
      if 0 < replica.touchScrollOffsetRows then
        let start := historyStart replica.liveViewportTopRowId replica.touchScrollOffsetRows
        let cacheRows := live.rows.toNat + 1
        if live.rows = 0 ∨ live.cols = 0 then some live
        else
          let rowIds := (List.range cacheRows).map fun row => start + UInt64.ofNat row
          some { live with
            rows := UInt16.ofNat cacheRows
            cells := rowIds.flatMap (historyRow replica.rowCache live.cols.toNat)
            cursorVisible := false
            rowReplica := some {
              epoch := replica.epoch
              viewportTop := start
              scrollbackTotal := replica.scrollbackTotal
              cursorRowId := replica.cursorRowId
              rowIds := rowIds } }
      else some live
  | _, live => live

def applyDecodedScreen (decoded : DecodedWireScreenState) : Client :=
  { client with screen := .ofDecoded decoded }

def paneUpdateTargetsCurrentView (update : DecodedPaneUpdate) : Prop :=
  ∀ state ∈ client.runtimeState,
    state.viewedTabId = some update.tabId.toNat ∧ update.paneId ∈ state.visiblePaneIds

instance (update : DecodedPaneUpdate) : Decidable (client.paneUpdateTargetsCurrentView update) :=
  inferInstanceAs (Decidable (∀ state ∈ client.runtimeState, _ ∧ _))

def paneUpdateIsFocusedVisiblePane (update : DecodedPaneUpdate) : Prop :=
  ∃ state ∈ client.runtimeState,
    state.viewedTabId = some update.tabId.toNat ∧ update.paneId = state.focusedPane

instance (update : DecodedPaneUpdate) : Decidable (client.paneUpdateIsFocusedVisiblePane update) :=
  inferInstanceAs (Decidable (∃ state ∈ client.runtimeState, _ ∧ _))

def lastPaneRevision (paneId : PaneId) : UInt64 := (client.paneServerRevisions paneId).getD 0

def lastRuntimeRevision (paneId : PaneId) : UInt64 :=
  (client.paneServerRuntimeRevisions paneId).getD 0

def paneUpdateIsNotOlder (update : DecodedPaneUpdate) : Prop :=
  client.lastPaneRevision update.paneId < update.paneRevision ∨
    update.paneRevision = client.lastPaneRevision update.paneId ∧
      client.lastRuntimeRevision update.paneId ≤ update.runtimeRevision

instance (update : DecodedPaneUpdate) : Decidable (client.paneUpdateIsNotOlder update) :=
  inferInstanceAs (Decidable (_ ∨ _ ∧ _))

def paneUpdateIsNewer (update : DecodedPaneUpdate) : Prop :=
  client.lastPaneRevision update.paneId < update.paneRevision ∨
    update.paneRevision = client.lastPaneRevision update.paneId ∧
      client.lastRuntimeRevision update.paneId < update.runtimeRevision

instance (update : DecodedPaneUpdate) : Decidable (client.paneUpdateIsNewer update) :=
  inferInstanceAs (Decidable (_ ∨ _ ∧ _))

/-- The replica that the rows of an update are written to, new for another epoch or width. -/
def replicaForState (paneId : PaneId) (cols : UInt16) (metadata : DecodedRowReplicaMetadata) :
    PaneReplica :=
  let fresh : PaneReplica := {
    epoch := metadata.epoch
    cols := cols
    scrollbackTotal := metadata.scrollbackTotal
    liveViewportTopRowId := metadata.viewportTop
    cursorRowId := metadata.cursorRowId }
  let held := (client.paneReplicas paneId).getD fresh
  if held.epoch ≠ metadata.epoch ∨ held.cols ≠ cols then fresh else held

def updatePaneReplica (paneId : PaneId) (state : DecodedWireScreenState) : Client :=
  match state.rowReplica with
  | none => client
  | some metadata =>
      let replica := client.replicaForState paneId state.cols metadata
      client.setReplica paneId (trimPaneReplica { replica with
        scrollbackTotal := metadata.scrollbackTotal
        liveViewportTopRowId := metadata.viewportTop
        cursorRowId := metadata.cursorRowId
        rowCache := replica.rowCache.insertAll (listedRows state metadata.rowIds) })

/-- The revision maps after an accepted update. -/
def recordPaneUpdate (update : DecodedPaneUpdate) : Client :=
  { client with
    paneServerRevisions :=
      Function.update client.paneServerRevisions update.paneId (some update.paneRevision)
    paneServerRuntimeRevisions :=
      Function.update client.paneServerRuntimeRevisions update.paneId (some update.runtimeRevision)
    paneFullStateSeen := Function.update client.paneFullStateSeen update.paneId true
    paneRefreshRequestedRevisions :=
      Function.update client.paneRefreshRequestedRevisions update.paneId none }

/-- The pane maps after an accepted update, before the screen follows. -/
def storePaneScreen (update : DecodedPaneUpdate) (state : DecodedWireScreenState) : Client :=
  ((client.recordPaneUpdate update).updatePaneReplica update.paneId state).setPaneScreen
    update.paneId state

def acceptPaneScreen (update : DecodedPaneUpdate) (state : DecodedWireScreenState) : Client :=
  let stored := client.storePaneScreen update state
  if stored.paneUpdateIsFocusedVisiblePane update then
    (stored.applyDecodedScreen ((stored.displayedPaneScreen update.paneId).getD state)).sendMessage
      (.renderAck stored.currentViewId update)
  else stored

def applyPaneFullState (update : DecodedPaneUpdate) (state : DecodedWireScreenState) : Client :=
  if ¬ client.paneUpdateTargetsCurrentView update then client
  else if ¬ client.paneUpdateIsNotOlder update then client
  else client.acceptPaneScreen update state

def applyPaneDelta (update : DecodedPaneUpdate) (deltaPayload : List UInt8) : Client :=
  if ¬ client.paneUpdateTargetsCurrentView update then client
  else if ¬ client.paneUpdateIsNewer update then client
  else
    match client.paneFullStateSeen update.paneId, client.paneScreens update.paneId with
    | true, some base =>
        match Wire.SwiftCodec.applyPaneDelta deltaPayload base with
        | (true, state) => client.acceptPaneScreen update state
        | (false, _) => client.requestPaneFullStateRefreshIfNeeded update
    | _, _ => client.requestPaneFullStateRefreshIfNeeded update

/-- The replica that the rows of a reply are written to. -/
def replicaForRows (response : DecodedRowRangeResponse) : PaneReplica :=
  let held := (client.paneReplicas response.paneId).getD {
    epoch := response.epoch
    cols := response.cols
    scrollbackTotal := 0
    liveViewportTopRowId := response.startRowId
    cursorRowId := response.startRowId }
  if held.epoch ≠ response.epoch ∨ held.cols ≠ response.cols then
    { epoch := response.epoch
      cols := response.cols
      scrollbackTotal := held.scrollbackTotal
      liveViewportTopRowId := held.liveViewportTopRowId
      cursorRowId := held.cursorRowId }
  else held

/-- The rows of a reply, and the keys it frees, before the screen follows. -/
def storePaneRows (response : DecodedRowRangeResponse) : Client :=
  let replica := client.replicaForRows response
  { client.setReplica response.paneId
      (trimPaneReplica { replica with rowCache := replica.rowCache.insertAll response.rows }) with
    rowRangeRequestsInFlight := client.rowRangeRequestsInFlight.filter fun key =>
      ¬ (key.paneId = response.paneId ∧ key.epoch = response.epoch) }

def applyPaneRows (update : DecodedPaneUpdate) (response : DecodedRowRangeResponse) : Client :=
  if ¬ client.paneUpdateTargetsCurrentView update then client
  else
    let stored := client.storePaneRows response
    if stored.runtimeState.map (·.focusedPane) = some response.paneId then
      match stored.displayedPaneScreen response.paneId with
      | some displayed => stored.applyDecodedScreen displayed
      | none => stored
    else stored

def mirrorFocusedLegacyScreen (decoded : DecodedWireScreenState) : Client :=
  match client.runtimeState with
  | none => client
  | some runtimeState =>
      let focusedPane := runtimeState.focusedPane
      if focusedPane ∈ runtimeState.visiblePaneIds then
        { client.setPaneScreen focusedPane decoded with
          paneFullStateSeen := Function.update client.paneFullStateSeen focusedPane true
          paneServerRuntimeRevisions := Function.update client.paneServerRuntimeRevisions
            focusedPane (some runtimeState.runtimeRevision) }
      else client

/-- The screen that `ClientWireReducer.reduce` leaves for a `FullState`. -/
def reduceFullState (payload : List UInt8) : Option DecodedWireScreenState :=
  decodeFullState payload false

/-- The same for a `Delta`, which is applied to a copy of the screen object. -/
def reduceDelta (payload : List UInt8) (screen : ScreenState) : Option DecodedWireScreenState :=
  match applyDelta payload screen.decoded false with
  | (true, next) => some next
  | (false, _) => some screen.decoded

/-- `applyReducedMessage` for the two messages that carry a screen. -/
def applyReducedScreen (reduced : Option DecodedWireScreenState) : Client :=
  match reduced with
  | none => client
  | some decoded => (client.applyDecodedScreen decoded).mirrorFocusedLegacyScreen decoded

/-- A new runtime state keeps the entries of the panes it lists as visible. -/
def applyRuntimeState (state : UiRuntimeState) : Client :=
  { client with
    runtimeState := some state
    paneScreens := visibleOnly state client.paneScreens
    paneReplicas := visibleOnly state client.paneReplicas
    paneServerRevisions := visibleOnly state client.paneServerRevisions
    paneServerRuntimeRevisions := visibleOnly state client.paneServerRuntimeRevisions
    paneFullStateSeen := fun paneId =>
      client.paneFullStateSeen paneId && decide (paneId ∈ state.visiblePaneIds)
    paneRefreshRequestedRevisions := visibleOnly state client.paneRefreshRequestedRevisions }

end Screens

section Connection

variable (client : Client)

/-- `prepareForConnectionAttempt` and the new connection: no pane map is cleared. -/
def connect : Client := { client with connection := some [] }

def disconnect (_client : Client) : Client := Client.new

/-- The replicas and the requests in flight outlive the connection. -/
def protocolError : Client := { Client.new with
  paneReplicas := client.paneReplicas
  rowRangeRequestsInFlight := client.rowRangeRequestsInFlight }

end Connection

end Client

/-- What the reader of the connection hands over. A `UiRuntimeState` is kept as its value, the
other messages as their payloads. -/
inductive Inbound
  | uiRuntimeState (state : UiRuntimeState)
  | fullState (payload : List UInt8)
  | delta (payload : List UInt8)
  | uiPaneFullState (payload : List UInt8)
  | uiPaneDelta (payload : List UInt8)
  | uiPaneRows (payload : List UInt8)
  deriving DecidableEq

/-- The events of the client. A reader of an earlier connection finds another generation
and drops what it reads, so `receive` is of the open connection. -/
inductive Event
  | connect
  | disconnect
  | protocolError
  | receive (message : Inbound)
  | scrollTouchHistory (paneId : PaneId) (rows : Rat)
  | followLiveTail
  | focusPane (tabId : TabId) (paneId : PaneId)
  | setViewedTab (tabId : TabId)
  deriving DecidableEq

namespace Client

variable (client : Client)

/-- A payload that does not decode is handled as a raw message, which changes nothing. -/
def handle : Inbound → Client
  | .uiRuntimeState state => client.applyRuntimeState state
  | .fullState payload => client.applyReducedScreen (reduceFullState payload)
  | .delta payload => client.applyReducedScreen (reduceDelta payload client.screen)
  | .uiPaneFullState payload =>
      match decodePaneFullState payload with
      | some (update, state) => client.applyPaneFullState update state
      | none => client
  | .uiPaneDelta payload =>
      match decodePaneDelta payload with
      | some (update, deltaPayload) => client.applyPaneDelta update deltaPayload
      | none => client
  | .uiPaneRows payload =>
      match decodePaneRows payload with
      | some (update, response) => client.applyPaneRows update response
      | none => client

def receive (message : Inbound) : Client :=
  match client.connection with
  | none => client
  | some _ => client.handle message

def scrollTouchHistory (paneId : PaneId) (rows : Rat) : Client :=
  if rows = 0 then client
  else
    match client.paneScreens paneId, client.paneReplicas paneId with
    | none, _ => client
    | some _, none => client.sendMessage (.wheelScrolledLines 0 rows)
    | some screen, some replica =>
        let maxOffset : Rat := replica.liveViewportTopRowId.toNat
        if ¬ 0 < maxOffset then client.sendMessage (.wheelScrolledLines 0 rows)
        else
          let nextOffset := max 0 (min maxOffset (replica.touchScrollOffsetRows + rows))
          let scrolled := client.setReplica paneId { replica with
            touchScrollOffsetRows := nextOffset }
          if 0 < nextOffset then
            let start := historyStart replica.liveViewportTopRowId nextOffset
            let prefetch := UInt64.ofNat (max screen.rows.toNat 24)
            let requestStart := if prefetch < start then start - prefetch else 0
            scrolled.requestMissingRowsIfNeeded paneId replica.epoch requestStart
              (start + UInt64.ofNat screen.rows.toNat + prefetch + 1)
          else scrolled

def followLiveTail : Client :=
  { client with
    paneReplicas := fun paneId => (client.paneReplicas paneId).map fun replica =>
      { replica with touchScrollOffsetRows := 0 } }

/-- `applyOptimisticFocusPane`. -/
def applyOptimisticFocusPane (tabId : TabId) (paneId : PaneId) : Client :=
  match client.runtimeState with
  | none => client
  | some state =>
      if state.viewedTabId = some tabId ∧ paneId ∈ state.visiblePaneIds ∧
          state.focusedPane ≠ paneId then
        { client with runtimeState := some { state with
          focusedPane := paneId
          tabs := state.tabs.map fun tab =>
            if tab.tabId = tabId then { tab with focusedPane := some paneId } else tab } }
      else client

/-- `applyOptimisticViewedTab`; the visible panes stay those of the tab viewed before. -/
def applyOptimisticViewedTab (tabId : TabId) : Client :=
  match client.runtimeState with
  | none => client
  | some state =>
      match state.tabs.find? fun tab => tab.tabId = tabId with
      | none => client
      | some viewed =>
          if state.viewedTabId = some tabId then client
          else { client with runtimeState := some { state with
            activeTab := viewed.index
            focusedPane := viewed.focusedPane.getD state.focusedPane
            tabs := state.tabs.map fun tab => { tab with active := tab.tabId = tabId }
            viewedTabId := some tabId } }

def focusPane (tabId : TabId) (paneId : PaneId) : Client :=
  if client.currentViewId = 0 then client
  else
    (client.sendMessage (.focusPane client.currentViewId tabId paneId)).applyOptimisticFocusPane
      tabId paneId

def setViewedTab (tabId : TabId) : Client :=
  if client.currentViewId = 0 then client
  else
    (client.sendMessage (.setViewedTab client.currentViewId tabId)).applyOptimisticViewedTab tabId

def step : Event → Client
  | .connect => client.connect
  | .disconnect => client.disconnect
  | .protocolError => client.protocolError
  | .receive message => client.receive message
  | .scrollTouchHistory paneId rows => client.scrollTouchHistory paneId rows
  | .followLiveTail => client.followLiveTail
  | .focusPane tabId paneId => client.focusPane tabId paneId
  | .setViewedTab tabId => client.setViewedTab tabId

end Client

end Boo.Ios.ProtocolClient
