/- module: Boo/Server/App
   digest: The server as one state, and the straight-line pieces its handlers are made of. -/

import Boo.Lib.KeyedList
import Boo.Runtime.Ui
import Boo.Server.RowCache

set_option autoImplicit false
set_option relaxedAutoImplicit false

namespace Boo.Server.App

open Boo.Lib.KeyedList
open Boo.Wire.Message
open Boo.Server.Frames
open Boo.Server.View
open Boo.Server.RowCache
open Boo.Runtime.Splits
open Boo.Runtime.Tabs
open Boo.Runtime.Ui

/-- `BooApp` with the clients of its two remote servers, whose ids never collide. -/
structure BooApp where
  runtime : UiRuntime
  clients : Keyed ClientId ClientState
  hasLocalGuiServer : Bool
  hasRemoteServer : Bool
  runtimeRevision : UInt64
  paneTerminalRevisions : PaneId → Option (UInt64 × Grid)
  paneRowCaches : PaneId → PaneRowCache

/-- What `poll_backend` learns besides versions and exits. `presentation` is set where the
status bar, the working directory or the scrollbar changed. -/
structure PollOutcome where
  runningCommands : List (PaneId × Option String)
  presentation : Option Nat
  activeTitle : Option String

namespace BooApp

section Reading

variable (app : BooApp)

def tabs : TabManager := app.runtime.tabs

/-- `remote_view_state_for_client`. -/
def viewOf (client : ClientId) : Option ClientRuntimeView :=
  (app.clients.value client).map ClientState.runtimeView

def hasRuntimeStreamSubscribers : Bool :=
  app.clients.takeAll.any fun client => client.runtimeView.subscribedToRuntime

/-- `pane_for_tab`. -/
def paneForTab (tabId : TabId) : Option PaneId := app.tabs.defaultFocusedPaneForTab tabId

def activeRuntimeTabId : Option TabId :=
  app.tabs.activeTabId.filter fun tabId => (app.paneForTab tabId).isSome

def tabInfo (tab : Tab) (index : Nat) : RemoteTabInfo where
  id := tab.id
  name := "Tab " ++ toString (index + 1)
  title := TabManager.displayTitle tab none
  pwd := ((app.runtime.terminals tab.tree.focusedPane).map Terminal.pwd).getD ""
  active := app.tabs.active = index
  childExited := tab.tree.focusedPane = 0 || (app.runtime.terminals tab.tree.focusedPane).isNone

def remoteTabs : List RemoteTabInfo :=
  app.tabs.tabs.zipIdx.map fun (tab, index) => app.tabInfo tab index

/-- The cached list, which `withRemoteTabs` fills. -/
def currentRemoteTabs : List RemoteTabInfo := app.runtime.cachedRemoteTabs.getD app.remoteTabs

def runtimeTabSnapshotsFor (viewedTabId : Option TabId) : List UiTabSnapshot :=
  app.tabs.tabs.zipIdx.map fun (tab, index) => {
    tabId := tab.id
    index := index
    active := some tab.id = viewedTabId
    title := TabManager.displayTitle tab (tab.runningCommand.map fun _ => TabManager.firstSpinner)
    paneCount := tab.tree.len
    focusedPane := app.tabs.defaultFocusedPaneForTab tab.id
    paneIds := app.tabs.paneIdsForTab tab.id }

/-- The tab a client is told it views: the active one if its view names none. -/
def toldTab (view : Option ClientRuntimeView) : Option TabId :=
  (view.bind ClientRuntimeView.viewedTabId).or app.activeRuntimeTabId

def uiRuntimeStateForClient (client : ClientId) (view : Option ClientRuntimeView) :
    UiRuntimeState where
  activeTab := ((app.toldTab view).bind app.tabs.findIndexByTabId).getD app.tabs.active
  focusedPane :=
    ((app.toldTab view).bind fun tabId =>
      app.tabs.focusIn tabId (view.bind ClientRuntimeView.focusedPaneId)).getD 0
  tabs := app.runtimeTabSnapshotsFor (app.toldTab view)
  presentation := app.runtime.presentation
  runtimeRevision := app.runtimeRevision
  viewRevision := (view.map ClientRuntimeView.viewRevision).getD 1
  viewId := (view.map ClientRuntimeView.viewId).getD client
  viewedTabId := app.toldTab view
  viewportCols := view.bind ClientRuntimeView.viewportCols
  viewportRows := view.bind ClientRuntimeView.viewportRows
  visiblePaneIds := ((app.toldTab view).map app.tabs.paneIdsForTab).getD []
  ackedClientActionId := view.bind ClientRuntimeView.ackedClientActionId

/-- `ui_runtime_state`: the server's own tab and focus, with fixed revisions. -/
def uiRuntimeState : UiRuntimeState where
  activeTab := app.tabs.active
  focusedPane := app.tabs.focusedPane
  tabs := app.runtimeTabSnapshotsFor app.tabs.activeTabId
  presentation := app.runtime.presentation
  runtimeRevision := 1
  viewRevision := 1
  viewId := 0
  viewedTabId := app.tabs.activeTabId
  viewportCols := none
  viewportRows := none
  visiblePaneIds := (app.tabs.activeTree.map fun tree => tree.exportPanes.map (·.pane.val)).getD []
  ackedClientActionId := none

structure LocalGuiTransportState where
  activeTabId : Option TabId
  focusedPaneId : PaneId
  paneFrames : List (PaneId × Option Rect)
  deriving DecidableEq

def localGuiTransportState : LocalGuiTransportState where
  activeTabId := app.tabs.activeTabId
  focusedPaneId := app.tabs.focusedPane
  paneFrames :=
    (((app.tabs.activeTabId.bind app.tabs.findIndexByTabId).bind app.tabs.tabTree).map fun tree =>
      (tree.exportPanesWithFrames app.runtime.terminalFrame).map fun pane =>
        (pane.pane.val, pane.frame)).getD []

end Reading

section Updating

variable (app : BooApp)

def updateRuntime (update : UiRuntime → UiRuntime) : BooApp :=
  { app with runtime := update app.runtime }

def updateClient (client : ClientId) (update : ClientState → ClientState) : BooApp :=
  { app with clients := app.clients.modify client update }

/-- `update_client_view`. -/
def updateClientView (client : ClientId) (update : ClientRuntimeView → ClientRuntimeView) :
    BooApp :=
  app.updateClient client (·.updateView update)

def updateClients (update : ClientId → ClientState → ClientState) : BooApp :=
  { app with clients := app.clients.mapEntries update }

def bumpRuntimeRevision : BooApp := { app with runtimeRevision := bumpRevision app.runtimeRevision }

/-- `current_remote_tabs` leaves the list it computed in the cache. -/
def withRemoteTabs : BooApp :=
  app.updateRuntime fun rt => { rt with cachedRemoteTabs := some app.currentRemoteTabs }

/-- Send a client its `ui_runtime_state_for_client`. -/
def tell (client : ClientId) : BooApp :=
  app.updateClient client fun state =>
    state.sendUiRuntimeState (app.uiRuntimeStateForClient client (some state.runtimeView))

def tellAll : BooApp :=
  app.updateClients fun client state =>
    state.sendUiRuntimeState (app.uiRuntimeStateForClient client (some state.runtimeView))

def sendTabsToViewers : BooApp :=
  let listed := app.withRemoteTabs
  listed.updateClients fun _ state =>
    if state.runtimeView.subscribedToRuntime then
      (state.sendTabList app.currentRemoteTabs).sendUiAppearance app.runtime.appearance
    else state

/-- `broadcast_runtime_view_to_all_viewers` up to its publication of the active tab. -/
def broadcast : BooApp := app.sendTabsToViewers.bumpRuntimeRevision.tellAll

/-- `publish_local_gui_runtime_state_for_active_tab`. -/
def tellLocalViewers : BooApp :=
  if app.tabs.activeTabId.isSome && app.hasLocalGuiServer then
    app.withRemoteTabs.updateClients fun _ state =>
      if state.isLocal then
        (if state.runtimeView.subscribedToRuntime then state.sendUiRuntimeState app.uiRuntimeState
          else state).sendTabList app.currentRemoteTabs
      else state
  else app

/-- The first half of `ensure_remote_client_view_state`, for a view that was never set. -/
def initializeView (client : ClientId) : BooApp :=
  app.updateClientView client fun view =>
    view.initializeClientView client app.activeRuntimeTabId
      (app.activeRuntimeTabId.bind app.tabs.defaultFocusedPaneForTab)
      ((app.activeRuntimeTabId.map app.tabs.paneIdsForTab).getD [])

/-- Its second half, for a view that names a tab. -/
def repairedView (view : ClientRuntimeView) : ClientRuntimeView :=
  match view.viewedTabId with
  | none => view
  | some tabId =>
      let validPanes := app.tabs.paneIdsForTab tabId
      if view.focusedPaneId.all (· ∉ validPanes) ∨ view.visiblePaneIds ≠ validPanes then
        view.retarget (some tabId) (app.tabs.focusIn tabId view.focusedPaneId) validPanes
      else view

def repairView (client : ClientId) : BooApp := app.updateClientView client app.repairedView

/-- `sync_remote_client_runtime_view` up to its publication of the active tab. -/
def syncRuntimeView (client : ClientId) (subscribe : Bool) : BooApp :=
  if app.hasLocalGuiServer || app.hasRemoteServer then
    let shown := app.withRemoteTabs.initializeView client
    let told := (shown.updateClient client (·.sendTabList app.currentRemoteTabs)).tell client
    told.updateClient client fun state =>
      (state.sendUiAppearance app.runtime.appearance).updateView fun view =>
        if subscribe then view.subscribe else view.unsubscribe
  else app

/-- `sync_client_view_to_active_runtime`. -/
def syncClientView (client : ClientId) : BooApp :=
  match app.activeRuntimeTabId with
  | none => app
  | some tabId =>
      app.updateClientView client fun view =>
        view.retarget (some tabId) (app.tabs.focusIn tabId (some app.tabs.focusedPane))
          (app.tabs.paneIdsForTab tabId)

/-- A client's bytes go to the focused pane if that is their target, and else straight to it. -/
def writeInput (pane : PaneId) (bytes : List UInt8) : BooApp :=
  if pane = app.tabs.focusedPane then
    app.updateRuntime (·.writeTerminalInput app.tabs.focusedPane bytes)
  else app.updateRuntime (·.writeTerminalInput pane bytes)

/-- `ReloadConfig` alone also sends a frame, the new appearance, to local clients. -/
def applyEffect (effect : UiEffect) : BooApp :=
  let changed := app.updateRuntime effect.apply
  match effect with
  | .reloadConfig appearance =>
      changed.updateClients fun _ state =>
        if state.isLocal && app.hasLocalGuiServer then state.sendUiAppearance appearance else state
  | _ => changed

def applyEffects (effects : List UiEffect) : BooApp := effects.foldl applyEffect app

/-- What no single effect changes. -/
theorem applyEffects_reading {A : Type} (reading : BooApp → A)
    (same : ∀ before effect, reading (applyEffect before effect) = reading before)
    (effects : List UiEffect) : reading (app.applyEffects effects) = reading app := by
  rw [applyEffects]
  induction effects generalizing app with
  | nil => rfl
  | cons effect effects ih => rw [List.foldl_cons, ih, same]

def repairedTab (closedTabIndex : Option Nat) (view : ClientRuntimeView) : Option TabId :=
  match view.viewedTabId.filter fun tabId => (app.tabs.findIndexByTabId tabId).isSome with
  | some tabId => some tabId
  | none =>
      if app.tabs.tabs.isEmpty then none
      else app.tabs.tabIdForIndex ((closedTabIndex.map fun index =>
        min index (app.tabs.tabs.length - 1)).getD app.tabs.active)

def repairAllRemoteViews (closedTabIndex : Option Nat) : BooApp :=
  app.updateClients fun _ state => state.updateView fun view =>
    let viewedTabId := app.repairedTab closedTabIndex view
    view.retarget viewedTabId (viewedTabId.bind fun tabId => app.tabs.focusIn tabId view.focusedPaneId)
      ((viewedTabId.map app.tabs.paneIdsForTab).getD [])

/-- `create_remote_runtime_tab` after the backend has answered, up to its publication. -/
def createTab (client : ClientId) (spawned : Spawned) (sendLegacyCreatedAck : Bool) : BooApp :=
  let created := app.updateRuntime fun rt => (rt.newTab spawned).invalidateRemoteTabsCache
  let tabId := app.tabs.nextTabId
  let shown := created.updateClientView client fun view =>
    view.retarget (some tabId) (created.tabs.defaultFocusedPaneForTab tabId)
      (created.tabs.paneIdsForTab tabId)
  let acked :=
    if sendLegacyCreatedAck then shown.updateClient client (·.sendFrame (.tabCreated tabId))
    else shown
  acked.broadcast

def forgetPaneTerminalRevisions (panes : List LivePane) : BooApp :=
  { app with paneTerminalRevisions := fun pane =>
      if pane ∈ panes.map Subtype.val then none else app.paneTerminalRevisions pane }

/-- `destroy_remote_runtime_tab` for a tab that exists, up to its publication. -/
def destroyTab (index : Nat) : BooApp :=
  let panes := app.tabs.panesAt index
  let removed := (app.forgetPaneTerminalRevisions panes).updateRuntime fun rt =>
    ((rt.freePanes panes).updateTabs (·.removeTab index)).invalidateRemoteTabsCache
  (removed.repairAllRemoteViews (some index)).broadcast

/-- The arm of `SetViewedTab` up to its publication. -/
def setViewedTab (client : ClientId) (tabId : TabId) : BooApp :=
  ((app.updateClientView client fun view =>
    view.retarget (some tabId) (app.tabs.defaultFocusedPaneForTab tabId)
      (app.tabs.paneIdsForTab tabId)).bumpRuntimeRevision).tell client

/-- The arm of `RemoteFocusPane` up to its publication; the guard is the handler's. -/
def focusClientPane (client : ClientId) (tabId : TabId) (paneId : PaneId) : BooApp :=
  if (app.viewOf client).bind ClientRuntimeView.viewedTabId = some tabId ∧
      paneId ∈ app.tabs.paneIdsForTab tabId then
    ((app.updateClientView client fun view =>
      view.retarget view.viewedTabId (some paneId)
        (app.tabs.paneIdsForTab tabId)).bumpRuntimeRevision).tell client
  else app

def replyTabs (client : ClientId) : BooApp :=
  (app.withRemoteTabs.updateClient client fun state =>
    (state.replyTabList app.currentRemoteTabs).sendUiRuntimeState
      (app.uiRuntimeStateForClient client (some state.runtimeView))).updateClient client
        (·.sendUiAppearance app.runtime.appearance)

/-- `sweep_idle_views` and the broadcast that follows if a view expired. -/
def sweepIdleViews (now idleTimeout : Nat) : BooApp :=
  if app.clients.takeAll.any fun state => state.runtimeView.isExpired now idleTimeout then
    (app.updateClients fun _ state => state.updateView fun view =>
      if view.isExpired now idleTimeout then view.expire else view).broadcast
  else app

/-- `remote_full_state_for_pane`, with the Linux backend: it shows the current screen of the worker,
where the one of macOS shows the screen that was polled last. -/
def remoteFullStateForPane (paneId : PaneId) : Option Grid × BooApp :=
  match app.runtime.terminals paneId with
  | none => (none, app)
  | some terminal =>
      let (cache, state) := applyRowCacheMetadata (app.paneRowCaches paneId) terminal.state
      (some state, { app with
        paneRowCaches := Function.update app.paneRowCaches paneId cache })

def recordRevision (paneId : PaneId) (revision : UInt64) (state : Grid) : BooApp :=
  { app with
    paneTerminalRevisions :=
      Function.update app.paneTerminalRevisions paneId (some (revision, state)) }

def paneTerminalRevision (paneId : PaneId) (nextState : Grid) : UInt64 × BooApp :=
  match app.paneTerminalRevisions paneId with
  | some (revision, cachedState) =>
      if cachedState = nextState then (revision, app)
      else (bumpRevision revision, app.recordRevision paneId (bumpRevision revision) nextState)
  | none => (1, app.recordRevision paneId 1 nextState)

def publishFocusedPane (client : ClientId) (paneId : PaneId) : BooApp :=
  match app.remoteFullStateForPane paneId with
  | (none, app) => app
  | (some state, app) => app.updateClient client (·.sendStateToClient paneId state)

def publishVisiblePane (client : ClientId) (tabId : TabId) (paneId : PaneId) : BooApp :=
  match app.remoteFullStateForPane paneId with
  | (none, app) => app
  | (some state, app) =>
      let (paneRevision, app) := app.paneTerminalRevision paneId state
      app.updateClient client
        (·.sendPaneStateToClient ⟨tabId, paneId, paneRevision, app.runtimeRevision⟩ state)

/-- The pane whose screen `publish_remote_tab` sends to a viewer of `tabId`. -/
def publishedFocus (view : ClientRuntimeView) (tabId : TabId) : Option PaneId :=
  (view.focusedPaneId.filter (· ∈ view.visiblePaneIds)).or
    (app.tabs.defaultFocusedPaneForTab tabId)

/-- The part of `publish_remote_tab` that serves one client. -/
def publishTo (client : ClientId) (tabId : TabId) : BooApp :=
  match app.viewOf client with
  | none => app
  | some view =>
      if view.subscribedToRuntime = true ∧ view.viewedTabId = some tabId then
        let focused := app.publishedFocus view tabId
        let started :=
          match focused with
          | none => app
          | some paneId => app.publishFocusedPane client paneId
        (view.visiblePaneIds.filter fun paneId => some paneId ≠ focused).foldl
          (fun app paneId => app.publishVisiblePane client tabId paneId) started
      else app

end Updating

section Polling

/-- The panes that the poll looks at, those of the active tab. -/
def polledPanes (rt : UiRuntime) : List PaneId :=
  ((rt.tabs.activeTree).map fun tree => tree.allPanes.map Subtype.val).getD []

/-- Cache the version of one polled pane; the flag tells whether it was new. -/
def pollPane (acc : UiRuntime × Bool) (paneId : PaneId) : UiRuntime × Bool :=
  match acc.1.terminals paneId with
  | none => acc
  | some terminal =>
      if terminal.polled = some terminal.version then acc
      else
        let cached : Terminal := { terminal with polled := some terminal.version }
        ({ acc.1 with terminals := Function.update acc.1.terminals paneId (some cached) }, true)

def exitedPanes (rt : UiRuntime) : List PaneId :=
  (polledPanes rt).filter fun paneId => (rt.terminals paneId).any Terminal.exited

/-- The loops over running commands: those reported, then the silent panes. -/
def pollRunningCommands (tabs : TabManager) (panes : List PaneId)
    (reported : List (PaneId × Option String)) : TabManager :=
  let told := reported.foldl (fun tabs running =>
    tabs.setRunningCommandForPane running.1 (some running.2)) tabs
  (panes.filter fun paneId => paneId ∉ reported.map Prod.fst).foldl (fun tabs paneId =>
    tabs.setRunningCommandForPane paneId none) told

/-- `poll_backend` up to the marking of dirty tabs; the flag is `remote_dirty`. -/
def pollRuntime (rt : UiRuntime) (outcome : PollOutcome) : UiRuntime × Bool :=
  let panes := polledPanes rt
  let exited := exitedPanes rt
  let (polled, terminalDirty) := panes.foldl pollPane (rt, false)
  let commanded := polled.updateTabs (pollRunningCommands · panes outcome.runningCommands)
  let presented := { commanded with
    presentation := outcome.presentation.getD commanded.presentation }
  let titled := presented.updateTabs fun tabs =>
    match outcome.activeTitle with
    | none => tabs
    | some title => tabs.setActiveTitle title
  (exited.foldl UiRuntime.closePaneById titled,
    terminalDirty || decide (titled.tabs.tabs ≠ rt.tabs.tabs) || outcome.presentation.isSome ||
      !exited.isEmpty)

/-- `poll_backend`; without a tab there is nothing to mark, and all viewers are told. -/
def poll (app : BooApp) (outcome : PollOutcome) : BooApp :=
  let (runtime, remoteDirty) := pollRuntime app.runtime outcome
  let polled := { app with runtime := runtime }
  if remoteDirty && app.hasRuntimeStreamSubscribers then
    if polled.tabs.activeTabId.isSome then polled.updateRuntime UiRuntime.markActiveRemoteTabDirty
    else polled.broadcast
  else polled

end Polling

end BooApp

end Boo.Server.App
