/- module: Boo/Server/Handlers
   digest: The command handlers of runtime_server.rs and the runs of the server. -/

import Boo.Lib.Script
import Boo.Server.Actions

set_option autoImplicit false
set_option relaxedAutoImplicit false

namespace Boo.Server.Handlers

open Boo.Lib.KeyedList
open Boo.Lib.Script
open Boo.Lib.Script.Program
open Boo.Wire.Message
open Boo.Remote.ReadLoop
open Boo.Server.Frames
open Boo.Server.View
open Boo.Server.App
open Boo.Server.App.BooApp
open Boo.Server.Actions
open Boo.Runtime.Splits
open Boo.Runtime.Tabs
open Boo.Runtime.Ui

/-- A piece of a handler. -/
abbrev Handler (R : Type) := Program BooApp Action R

inductive RuntimeAction
  | changeLocally (viewId : UInt64) (change : LocalViewChange)
  | noop
  | setViewedTab (tabId : TabId)
  | focusPane (tabId : TabId) (paneId : PaneId)
  | newTab (answer : Option Spawned)
  | closeTab (tabId : Option TabId)
  | nextTab
  | prevTab
  | attachView
  | detachView (now : Nat)
  | newSplit (direction : Direction) (answer : Option Spawned)
  | resizeSplit (ratios : List Bool → Option ℚ)

/-- Keys, pointer events and command lines come with what they resolve to: their effects and
whether the runtime consumed them. `inspect` is every command that only replies, and `resize`
carries the new frame of the terminal area, if it changed. -/
inductive Command
  | inspect
  | newSplit (direction : Direction) (answer : Option Spawned)
  | focusSurface (index : LeafId)
  | setStatusComponents (presentation : Option Nat)
  | invokeStatusComponent (effects : Option (List UiEffect))
  | executeCommand (effects : List UiEffect)
  | appKeyEvent (effects : List UiEffect) (handled : Bool)
  | appMouseEvent (effects : List UiEffect) (handled : Bool)
  | appAction (effects : List UiEffect)
  | focusPane (paneId : PaneId)
  | sendText (bytes : List UInt8)
  | newTab (answer : Option Spawned)
  | gotoTab (index : Nat)
  | nextTab
  | prevTab
  | resizeViewport (frame : Option Rect)
  | sendKey (effects : List UiEffect)
  | remoteConnected (client : ClientId)
  | remoteListTabs (client : ClientId)
  | remoteCreate (client : ClientId) (answer : Option Spawned)
  | remoteInput (client : ClientId) (bytes : List UInt8) (inputSeq : Option UInt64)
  | remoteKey (client : ClientId) (inputSeq : Option UInt64) (effects : List UiEffect)
  | remoteResize (client : ClientId) (cols rows : UInt16)
  | remoteExecuteCommand (client : ClientId) (effects : List UiEffect)
  | remoteAppKeyEvent (client : ClientId) (inputSeq : Option UInt64) (effects : List UiEffect)
      (consumed : Bool)
  | remoteAppMouseEvent (client : ClientId) (wheel : Bool) (effects : List UiEffect)
      (changedUi : Bool)
  | remoteAppAction (client : ClientId) (effects : List UiEffect)
  | remoteFocusPane (client : ClientId) (paneId : PaneId)
  | remoteDestroy (client : ClientId) (tabId : Option TabId)
  | remoteRuntimeAction (client : ClientId) (clientActionId : Option UInt64)
      (action : RuntimeAction)
  | remoteRowRangeRequest (client : ClientId) (paneId : PaneId) (rows : Option OtherFrame)
  | remoteRenderAck (client : ClientId) (now : Nat) (paneId : PaneId)
      (paneRevision runtimeRevision : UInt64)

section Handlers

def publishRemoteTab (tabId : TabId) : Handler Unit := do
  let app ← current
  app.clients.order.forM fun client => perform (.publishTo client tabId)

def publishActiveTab : Handler Unit := do
  let app ← current
  match app.activeRuntimeTabId with
  | none => return
  | some tabId => publishRemoteTab tabId

def broadcastRuntimeViewToAllViewers : Handler Unit := do
  perform .broadcast
  publishActiveTab

def ensureRemoteClientViewState (client : ClientId) : Handler (Option ClientRuntimeView) := do
  let app ← current
  match app.viewOf client with
  | none => return none
  | some view =>
      if view.viewId = 0 then perform (.initializeView client)
      perform (.repairView client)
      let app ← current
      return app.viewOf client

def syncRemoteClientRuntimeView (client : ClientId) (subscribe : Bool) : Handler Unit := do
  perform (.syncRuntimeView client subscribe)
  if subscribe then publishActiveTab

def recoverRemoteClientRuntimeView (client : ClientId) : Handler Unit := do
  let app ← current
  syncRemoteClientRuntimeView client app.activeRuntimeTabId.isSome

def sendNoActiveTab (client : ClientId) : Handler Unit :=
  perform (.sendError client .noActiveTab "no active tab")

/-- `focus_runtime_tab` and `focus_pane_by_id` together. -/
def focusTarget (index : Nat) (paneId : Option PaneId) : Action :=
  .applyEffects (.focusTab index :: (paneId.map UiEffect.focusPane).toList)

/-- The tab that the client's commands are aimed at, once the runtime has focused it. -/
def focusClientRuntimeTarget (client : ClientId) : Handler (Option TabId) := do
  match ← ensureRemoteClientViewState client with
  | none => return none
  | some view =>
      let app ← current
      match view.viewedTabId with
      | none => return none
      | some tabId =>
          match app.tabs.findIndexByTabId tabId with
          | none =>
              recoverRemoteClientRuntimeView client
              return none
          | some index =>
              perform (focusTarget index (app.tabs.focusIn tabId view.focusedPaneId))
              return some tabId

def createRemoteRuntimeTab (client : ClientId) (answer : Option Spawned)
    (sendLegacyCreatedAck : Bool) : Handler Unit := do
  match answer with
  | none => perform (.sendError client .failedCreateTab "failed to create tab")
  | some spawned =>
      perform (.createTab client spawned sendLegacyCreatedAck)
      publishActiveTab

def destroyRemoteRuntimeTab (client : ClientId) (tabId : Option TabId) : Handler Unit := do
  let app ← current
  match tabId.or app.activeRuntimeTabId with
  | none => perform (.sendError client .unknownTab "unknown tab")
  | some target =>
      match app.tabs.findIndexByTabId target with
      | none => recoverRemoteClientRuntimeView client
      | some index =>
          perform (.destroyTab index)
          publishActiveTab

def publishLocalChanges (before : LocalGuiTransportState) : Handler Unit := do
  let app ← current
  if app.localGuiTransportState ≠ before then
    match app.tabs.activeTabId with
    | none => return
    | some tabId => publishRemoteTab tabId

def publishLocalGuiAfterUiAction (before : LocalGuiTransportState) : Handler Unit := do
  perform .tellLocalViewers
  publishLocalChanges before

/-- A command of the control socket: its effects, then the local clients if `publish` says so. -/
def uiAction (effects : List UiEffect) (publish : Bool) : Handler Unit := do
  let app ← current
  perform (.applyEffects effects)
  if publish then publishLocalGuiAfterUiAction app.localGuiTransportState

def ackClientAction (client : ClientId) (clientActionId : Option UInt64) : Handler Unit :=
  match clientActionId with
  | none => return
  | some id => perform (.ackAction client id)

def setViewedTab (client : ClientId) (tabId : TabId) : Handler Unit := do
  perform (.setViewedTab client tabId)
  publishRemoteTab tabId

def remoteFocusPane (client : ClientId) (paneId : PaneId) : Handler Unit := do
  match ← ensureRemoteClientViewState client with
  | none => return
  | some view =>
      match view.viewedTabId with
      | none => sendNoActiveTab client
      | some tabId =>
          let app ← current
          if paneId ∈ app.tabs.paneIdsForTab tabId then
            perform (.focusClientPane client tabId paneId)
            publishRemoteTab tabId

/-- `NextTab` and `PrevTab`, which send `SetViewedTab` to themselves with the same action id. -/
def setNeighbouringTab (client : ClientId) (clientActionId : Option UInt64)
    (neighbour : Nat → Nat → Nat) : Handler Unit := do
  match ← ensureRemoteClientViewState client with
  | none => return
  | some view =>
      let app ← current
      let currentIndex :=
        (view.viewedTabId.bind app.tabs.findIndexByTabId).getD app.tabs.active
      let tabCount := app.tabs.tabs.length
      if tabCount = 0 then return
      match app.tabs.tabIdForIndex (neighbour currentIndex tabCount % tabCount) with
      | none => return
      | some tabId =>
          ackClientAction client clientActionId
          setViewedTab client tabId

def handleRuntimeAction (client : ClientId) (clientActionId : Option UInt64) :
    RuntimeAction → Handler Unit
  | .changeLocally viewId change => perform (.changeLocally client viewId change)
  | .noop => perform (.tell client)
  | .setViewedTab tabId => setViewedTab client tabId
  | .focusPane tabId paneId => do
      remoteFocusPane client paneId
      perform (.assignViewedTab client tabId)
  | .newTab answer => createRemoteRuntimeTab client answer false
  | .closeTab tabId => destroyRemoteRuntimeTab client tabId
  | .nextTab => setNeighbouringTab client clientActionId fun index _ => index + 1
  | .prevTab => setNeighbouringTab client clientActionId fun index count => index + count - 1
  | .attachView => do
      perform (.attachView client)
      let app ← current
      match app.toldTab (app.viewOf client) with
      | none => return
      | some tabId => publishRemoteTab tabId
  | .detachView now => perform (.detachView client now)
  | .newSplit direction answer => do
      let app ← current
      let _ ← focusClientRuntimeTarget client
      perform (.effectsAndTellLocal client [.newSplit direction answer])
      publishLocalChanges app.localGuiTransportState
      broadcastRuntimeViewToAllViewers
  | .resizeSplit ratios => do
      match ← ensureRemoteClientViewState client with
      | none => return
      | some view =>
          if view.viewedTabId.isNone then return
          let _ ← focusClientRuntimeTarget client
          perform (.effectsAndBroadcast client [.resize ratios])
          publishActiveTab

/-- The commands that act for a client on the tab it views: `act` runs if there is one. -/
def onClientTarget (client : ClientId) (act : TabId → Handler Unit) : Handler Unit := do
  match ← focusClientRuntimeTarget client with
  | none => sendNoActiveTab client
  | some tabId => act tabId

def remoteInput (client : ClientId) (bytes : List UInt8) (inputSeq : Option UInt64) :
    Handler Unit := do
  match ← ensureRemoteClientViewState client with
  | none => return
  | some view =>
      match view.viewedTabId with
      | none => sendNoActiveTab client
      | some tabId =>
          let app ← current
          match app.publishedFocus view tabId with
          | none => recoverRemoteClientRuntimeView client
          | some paneId =>
              match app.tabs.findPaneLocation paneId, app.tabs.findIndexByTabId tabId with
              | some _, some index =>
                  perform (focusTarget index (some paneId))
                  perform (.recordInputSeq client inputSeq)
                  perform (.writeInput paneId bytes)
                  perform (.syncClientView client)
                  perform (.markDirty tabId)
              | _, _ => recoverRemoteClientRuntimeView client

def handleServerCmd : Command → Handler Unit
  | .inspect => return
  | .newSplit direction answer => uiAction [.newSplit direction answer] true
  | .focusSurface index => uiAction [.focusSurface index] true
  | .setStatusComponents presentation => do
      match presentation with
      | none => return
      | some stamp =>
          perform (.applyEffects [.present stamp])
          let app ← current
          if app.hasRuntimeStreamSubscribers then perform .markActiveDirty
  | .invokeStatusComponent effects => do
      match effects with
      | none => return
      | some effects =>
          let app ← current
          perform .invalidateCache
          perform (.applyEffects effects)
          publishLocalGuiAfterUiAction app.localGuiTransportState
  | .executeCommand effects => do
      perform .invalidateCache
      perform (.applyEffects effects)
  | .appKeyEvent effects handled => uiAction effects handled
  | .appMouseEvent effects handled => uiAction effects handled
  | .appAction effects => uiAction effects true
  | .focusPane paneId => do
      let app ← current
      uiAction [.focusPane paneId]
        ((app.tabs.activeTree.bind (·.setFocusToPane paneId)).isSome)
  | .sendText bytes => perform (.applyEffects [.write bytes])
  | .newTab answer => do
      let app ← current
      perform .invalidateCache
      perform (.applyEffects [.newTab answer])
      publishLocalGuiAfterUiAction app.localGuiTransportState
  | .gotoTab index => uiAction [.gotoTab index] true
  | .nextTab => uiAction [.nextTab] true
  | .prevTab => uiAction [.prevTab] true
  | .resizeViewport frame =>
      match frame with
      | none => return
      | some frame => uiAction [.setTerminalFrame frame] true
  | .sendKey effects => uiAction effects true
  | .remoteConnected client => recoverRemoteClientRuntimeView client
  | .remoteListTabs client => perform (.replyTabs client)
  | .remoteCreate client answer => createRemoteRuntimeTab client answer true
  | .remoteInput client bytes inputSeq => remoteInput client bytes inputSeq
  | .remoteKey client inputSeq effects => onClientTarget client fun tabId => do
      perform (.recordInputSeq client inputSeq)
      perform (.effectsBy client effects)
      perform (.markDirty tabId)
  | .remoteResize client cols rows => perform (.setViewport client cols rows)
  | .remoteExecuteCommand client effects => do
      perform .invalidateCache
      let _ ← focusClientRuntimeTarget client
      perform (.effectsAndBroadcast client effects)
      publishActiveTab
  | .remoteAppKeyEvent client inputSeq effects consumed => onClientTarget client fun tabId => do
      perform (.recordInputSeq client inputSeq)
      if consumed then
        perform (.effectsAndBroadcast client effects)
        publishActiveTab
      else
        perform (.effectsBy client effects)
        perform (.markDirty tabId)
  | .remoteAppMouseEvent client wheel effects changedUi => onClientTarget client fun _ => do
      if changedUi || wheel then
        perform (.effectsAndBroadcast client effects)
        publishActiveTab
      else perform (.effectsBy client effects)
  | .remoteAppAction client effects => do
      let _ ← focusClientRuntimeTarget client
      perform (.effectsAndBroadcast client effects)
      publishActiveTab
  | .remoteFocusPane client paneId => remoteFocusPane client paneId
  | .remoteDestroy client tabId => destroyRemoteRuntimeTab client tabId
  | .remoteRuntimeAction client clientActionId action => do
      ackClientAction client clientActionId
      handleRuntimeAction client clientActionId action
  | .remoteRowRangeRequest client paneId rows => do
      let app ← current
      match rows, app.viewOf client with
      | some frame, some view =>
          if (paneId ∈ view.visiblePaneIds ∨ view.focusedPaneId = some paneId) ∧
              view.viewedTabId.isSome then
            perform (.sendOther client frame)
      | _, _ => return
  | .remoteRenderAck client now paneId paneRevision runtimeRevision =>
      perform (.renderAck client now paneId paneRevision runtimeRevision)

/-- The last part of `update`: the dirty tabs are taken and published. -/
def publishDirtyTabs : Handler Unit := do
  let app ← current
  perform .takeDirtyTabs
  app.runtime.dirtyRemoteTabs.forM publishRemoteTab

def sweep (now : Nat) : Handler Unit := do
  let app ← current
  perform (.sweepIdleViews now)
  if app.clients.takeAll.any fun state => state.runtimeView.isExpired now viewIdleTimeout then
    publishActiveTab

end Handlers

/-- One step of a run. `update` polls, handles commands, sweeps and publishes; the other steps
come from workers, listener threads, readers and the server's own window at any time. -/
inductive Step
  | poll (outcome : PollOutcome)
  | command (cmd : Command)
  | sweep (now : Nat)
  | publishDirtyTabs
  | output (pane : PaneId) (state : Grid) (pwd : String)
  | childExit (pane : PaneId)
  | connect (client : ClientId) (isLocal : Bool)
  | disconnect (client : ClientId)
  | reply (client : ClientId) (frame : OtherFrame)
  | window (effects : List UiEffect)

def Step.handler : Step → Handler Unit
  | poll outcome => perform (.poll outcome)
  | command cmd => handleServerCmd cmd
  | sweep now => Handlers.sweep now
  | publishDirtyTabs => Handlers.publishDirtyTabs
  | output pane state pwd => perform (.output pane state pwd)
  | childExit pane => perform (.childExit pane)
  | connect client isLocal => perform (.connect client isLocal)
  | disconnect client => perform (.disconnect client)
  | reply client frame => perform (.sendOther client frame)
  | window effects => perform (.applyEffects effects)

/-- All steps of a run as one program. -/
def runSteps (steps : List Step) : Handler Unit := steps.forM Step.handler

/-- The server before its first tab and its first client. -/
def start (appearance : UiAppearance) (terminalFrame : Rect)
    (hasLocalGuiServer hasRemoteServer : Bool) : BooApp where
  runtime := {
    tabs := TabManager.new
    markedPaneId := none
    terminals := fun _ => none
    written := []
    terminalFrame := terminalFrame
    presentation := 0
    appearance := appearance
    dirtyRemoteTabs := []
    cachedRemoteTabs := none }
  clients := .empty
  hasLocalGuiServer := hasLocalGuiServer
  hasRemoteServer := hasRemoteServer
  runtimeRevision := 1
  paneTerminalRevisions := fun _ => none
  paneRowCaches := fun _ => .empty

/-- The state after a run. -/
def after (steps : List Step) (app : BooApp) : BooApp := final Action.step (runSteps steps) app

/-- Every action of a run with the state it is performed in. -/
def actions (steps : List Step) (app : BooApp) : List (BooApp × Action) :=
  trace Action.step (runSteps steps) app

section Ensuring

variable (app : BooApp) (client : ClientId)

/-- The state that `ensure_remote_client_view_state` leaves. -/
def ensured : BooApp :=
  match app.viewOf client with
  | none => app
  | some view =>
      (if view.viewId = 0 then app.initializeView client else app).repairView client

@[simp] theorem final_ensure :
    final Action.step (ensureRemoteClientViewState client) app = ensured app client := by
  unfold ensureRemoteClientViewState ensured
  rw [final_bind, result_current, final_current]
  cases app.viewOf client with
  | none => rfl
  | some view =>
      dsimp only
      split <;> rfl

@[simp] theorem result_ensure :
    result Action.step (ensureRemoteClientViewState client) app =
      (ensured app client).viewOf client := by
  unfold ensureRemoteClientViewState ensured
  rw [result_bind, result_current, final_current]
  cases known : app.viewOf client with
  | none => exact known.symm
  | some view =>
      dsimp only
      split <;> rfl

@[simp] theorem runtime_ensured : (ensured app client).runtime = app.runtime := by
  unfold ensured
  split
  · rfl
  · split <;> rfl

theorem tabs_ensured : (ensured app client).tabs = app.tabs :=
  congrArg UiRuntime.tabs (runtime_ensured app client)

theorem viewOf_repairView :
    (app.repairView client).viewOf client = (app.viewOf client).map app.repairedView := by
  unfold viewOf repairView
  show ((app.clients.modify client _).value client).map _ = _
  rw [Keyed.value_modify, if_pos rfl, Option.map_map, Option.map_map]
  rfl

/-- A repaired view lists the panes of its tab, and focuses one of them if the tab can. -/
theorem repairedView_sound {view : ClientRuntimeView} {tabId : TabId}
    (viewed : (app.repairedView view).viewedTabId = some tabId) :
    view.viewedTabId = some tabId ∧
      (app.repairedView view).visiblePaneIds = app.tabs.paneIdsForTab tabId ∧
        (app.repairedView view).focusedPaneId = app.tabs.focusIn tabId view.focusedPaneId := by
  unfold repairedView at viewed ⊢
  cases held : view.viewedTabId with
  | none =>
      rw [held] at viewed
      exact absurd (held.symm.trans viewed) (by simp)
  | some current =>
      rw [held] at viewed
      dsimp only at viewed ⊢
      split at viewed
      · rename_i broken
        cases viewed
        rw [if_pos broken]
        exact ⟨rfl, rfl, rfl⟩
      · rename_i intact
        cases held.symm.trans viewed
        rw [if_neg intact]
        rw [not_or, not_not] at intact
        refine ⟨rfl, intact.2, ?_⟩
        cases focus : view.focusedPaneId with
        | none => simp [focus] at intact
        | some paneId =>
            have member : paneId ∈ app.tabs.paneIdsForTab tabId := by
              simpa [focus] using intact.1
            rw [TabManager.focusIn, Option.filter_some, if_pos (decide_eq_true member)]
            rfl

/-- What `ensure_remote_client_view_state` makes of a view that names a tab. -/
theorem ensured_sound {view : ClientRuntimeView} {tabId : TabId}
    (known : (ensured app client).viewOf client = some view)
    (viewed : view.viewedTabId = some tabId) :
    view.visiblePaneIds = app.tabs.paneIdsForTab tabId ∧
      ∃ focused, view.focusedPaneId = app.tabs.focusIn tabId focused := by
  unfold ensured at known
  cases found : app.viewOf client with
  | none =>
      rw [found] at known
      exact absurd (known.symm.trans found) (by simp)
  | some old =>
      rw [found] at known
      dsimp only at known
      rw [viewOf_repairView, Option.map_eq_some_iff] at known
      obtain ⟨before, -, rfl⟩ := known
      have sameTabs : (if old.viewId = 0 then app.initializeView client else app).tabs =
          app.tabs := by
        split <;> rfl
      obtain ⟨-, visible, focus⟩ := repairedView_sound _ viewed
      rw [sameTabs] at visible focus
      exact ⟨visible, _, focus⟩

end Ensuring

/-- The actions by which a handler aims the client and the runtime at each other, and publishes. -/
def Aims (client : ClientId) : Action → Prop
  | .initializeView target | .repairView target | .syncRuntimeView target _ => target = client
  | .applyEffects _ | .publishTo _ _ => True
  | _ => False

/-- All actions of a piece of a handler satisfy `Ok`. -/
abbrev Runs (Ok : Action → Prop) {R : Type} (handler : Handler R) : Prop :=
  Performs Action.step (fun _ action => Ok action) handler

section Aiming

variable (client : ClientId)

theorem aims_publishRemoteTab (tabId : TabId) : Runs (Aims client) (publishRemoteTab tabId) :=
  performs_bind performs_current fun _ => performs_forM fun _ _ => performs_perform fun _ => trivial

theorem aims_publishActiveTab : Runs (Aims client) publishActiveTab := by
  refine performs_bind performs_current fun app => ?_
  split
  · exact performs_pure _
  · exact aims_publishRemoteTab client _

theorem aims_ensure : Runs (Aims client) (ensureRemoteClientViewState client) := by
  refine performs_bind performs_current fun app => ?_
  split
  · exact performs_pure _
  · dsimp only
    split
    · exact performs_bind (performs_perform fun _ => rfl) fun _ =>
        performs_bind (performs_perform fun _ => rfl) fun _ =>
          performs_bind performs_current fun _ => performs_pure _
    · exact performs_bind (performs_perform fun _ => rfl) fun _ =>
        performs_bind performs_current fun _ => performs_pure _

theorem aims_recover : Runs (Aims client) (recoverRemoteClientRuntimeView client) := by
  refine performs_bind performs_current fun app => performs_bind (performs_perform fun _ => rfl)
    fun _ => ?_
  split
  · exact aims_publishActiveTab client
  · exact performs_pure _

theorem aims_focusClientRuntimeTarget : Runs (Aims client) (focusClientRuntimeTarget client) := by
  refine performs_bind (aims_ensure client) fun view => ?_
  split
  · exact performs_pure _
  · refine performs_bind performs_current fun app => ?_
    split
    · exact performs_pure _
    · split
      · exact performs_bind (aims_recover client) fun _ => performs_pure _
      · exact performs_bind (performs_perform fun _ => trivial) fun _ => performs_pure _

theorem aims_publishLocalChanges (before : LocalGuiTransportState) :
    Runs (Aims client) (publishLocalChanges before) := by
  refine performs_bind performs_current fun app => ?_
  split
  · split
    · exact performs_pure _
    · exact aims_publishRemoteTab client _
  · exact performs_pure _

end Aiming

section Runs

variable {Inv : BooApp → Prop} {app : BooApp}

/-- What every admitted action keeps holds after every run of admitted actions. -/
theorem after_invariant {Ok : BooApp → Action → Prop}
    (keeps : ∀ app (action : Action), Inv app → Ok app action → Inv (action.step app))
    (steps : List Step)
    (initial : Inv app) (admitted : ∀ entry ∈ actions steps app, Ok entry.1 entry.2) :
    Inv (after steps app) :=
  final_invariant Action.step keeps (runSteps steps) initial admitted

theorem after_always (keeps : ∀ app (action : Action), Inv app → Inv (action.step app))
    (steps : List Step)
    (initial : Inv app) : Inv (after steps app) :=
  @after_invariant _ _ (fun _ _ => True) (fun app action inv _ => keeps app action inv) steps
    initial fun _ _ => trivial

@[simp] theorem after_cons (step : Step) (steps : List Step) (app : BooApp) :
    after (step :: steps) app = after steps (final Action.step step.handler app) := by
  unfold after runSteps
  exact final_bind Action.step step.handler (fun _ => steps.forM Step.handler) app

theorem after_append (steps later : List Step) (app : BooApp) :
    after (steps ++ later) app = after later (after steps app) := by
  induction steps generalizing app with
  | nil => rfl
  | cons step steps ih => rw [List.cons_append, after_cons, after_cons, ih]

end Runs

section Samples

def plainAppearance : UiAppearance := ⟨⟨240, 240, 240⟩, ⟨0, 0, 0⟩, ⟨255, 255, 255⟩⟩

def unitFrame : Rect := ⟨0, 0, 1, 1⟩

/-- A worker with a blank screen. -/
def blankPane (pane : LivePane) : Spawned where
  pane := pane
  version := 0
  state := smallScreen 0 0 0 0
  pwd := ""

/-- One tab with pane 1, and client 1 that views it. -/
def oneViewer : List Step :=
  [.command (.newTab (some (blankPane ⟨1, live_one⟩))), .connect 1 true,
    .command (.remoteConnected 1)]

/-- The client splits its tab twice; a second one opens a tab in between and closes it. -/
def twoViewers : List Step :=
  oneViewer ++
    [.command (.remoteRuntimeAction 1 none (.newSplit .vertical (some (blankPane ⟨2, live_two⟩)))),
      .connect 2 false, .command (.remoteConnected 2),
      .command (.remoteRuntimeAction 2 none (.newTab (some (blankPane ⟨3, live_three⟩)))),
      .command (.remoteRuntimeAction 1 none
        (.newSplit .horizontal (some (blankPane ⟨4, live_four⟩)))),
      .command (.remoteRuntimeAction 2 none (.closeTab (some 2)))]

def freshServer : BooApp := start plainAppearance unitFrame true false

end Samples

end Boo.Server.Handlers
