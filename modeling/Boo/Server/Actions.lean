/- module: Boo/Server/Actions
   digest: Every way the server's state changes, as one action with one step function. -/

import Boo.Server.App

set_option autoImplicit false
set_option relaxedAutoImplicit false

namespace Boo.Server.Actions

open Boo.Lib.KeyedList
open Boo.Wire.Message
open Boo.Remote.ReadLoop
open Boo.Server.Frames
open Boo.Server.View
open Boo.Server.App
open Boo.Server.App.BooApp
open Boo.Runtime.Splits
open Boo.Runtime.Tabs
open Boo.Runtime.Ui

/-- `VIEW_IDLE_TIMEOUT` in milliseconds. -/
def viewIdleTimeout : Nat := 30000

/-- Every change of the server's state. -/
inductive Action
  | connect (client : ClientId) (isLocal : Bool)
  | disconnect (client : ClientId)
  | output (pane : PaneId) (state : Grid) (pwd : String)
  | childExit (pane : PaneId)
  | applyEffects (effects : List UiEffect)
  | effectsBy (client : ClientId) (effects : List UiEffect)
  | effectsAndBroadcast (client : ClientId) (effects : List UiEffect)
  | effectsAndTellLocal (client : ClientId) (effects : List UiEffect)
  | tellLocalViewers
  | broadcast
  | initializeView (client : ClientId)
  | repairView (client : ClientId)
  | syncClientView (client : ClientId)
  | syncRuntimeView (client : ClientId) (subscribe : Bool)
  | createTab (client : ClientId) (spawned : Spawned) (sendLegacyCreatedAck : Bool)
  | destroyTab (index : Nat)
  | setViewedTab (client : ClientId) (tabId : TabId)
  | focusClientPane (client : ClientId) (tabId : TabId) (paneId : PaneId)
  | assignViewedTab (client : ClientId) (tabId : TabId)
  | setViewport (client : ClientId) (cols rows : UInt16)
  | ackAction (client : ClientId) (clientActionId : UInt64)
  | changeLocally (client : ClientId) (viewId : UInt64) (change : LocalViewChange)
  | tell (client : ClientId)
  | replyTabs (client : ClientId)
  | attachView (client : ClientId)
  | detachView (client : ClientId) (now : Nat)
  | renderAck (client : ClientId) (now : Nat) (paneId : PaneId)
      (paneRevision runtimeRevision : UInt64)
  | recordInputSeq (client : ClientId) (inputSeq : Option UInt64)
  | writeInput (pane : PaneId) (bytes : List UInt8)
  | sendError (client : ClientId) (code : RemoteErrorCode) (message : String)
  | sendOther (client : ClientId) (frame : OtherFrame)
  | markDirty (tabId : TabId)
  | markActiveDirty
  | invalidateCache
  | takeDirtyTabs
  | publishTo (client : ClientId) (tabId : TabId)
  | poll (outcome : PollOutcome)
  | sweepIdleViews (now : Nat)

def newClient (isLocal : Bool) : ClientState where
  outbound := []
  isLocal := isLocal
  runtimeView := .idle

/-- The next screen of a worker, under the next version. -/
def advance (terminal : Terminal) (state : Grid) (pwd : String) : Terminal :=
  { terminal with
    version := terminal.version + 1
    state := state
    pwd := pwd }

def updateTerminal (pane : PaneId) (update : Terminal → Terminal) (rt : UiRuntime) : UiRuntime :=
  { rt with
    terminals := Function.update rt.terminals pane ((rt.terminals pane).map update) }

def Action.step (app : BooApp) : Action → BooApp
  | connect client isLocal => { app with
      clients := (app.clients.erase client).set client (newClient isLocal) }
  | disconnect client => { app with
      clients := app.clients.erase client }
  | output pane state pwd =>
      app.updateRuntime (updateTerminal pane (advance · state pwd))
  | childExit pane =>
      app.updateRuntime (updateTerminal pane fun terminal => { terminal with
        exited := true })
  | applyEffects effects => app.applyEffects effects
  | effectsBy client effects => (app.applyEffects effects).syncClientView client
  | effectsAndBroadcast client effects =>
      ((app.applyEffects effects).syncClientView client).broadcast
  | effectsAndTellLocal client effects =>
      ((app.applyEffects effects).syncClientView client).tellLocalViewers
  | tellLocalViewers => app.tellLocalViewers
  | broadcast => app.broadcast
  | initializeView client => app.initializeView client
  | repairView client => app.repairView client
  | syncClientView client => app.syncClientView client
  | syncRuntimeView client subscribe => app.syncRuntimeView client subscribe
  | createTab client spawned ack => app.createTab client spawned ack
  | destroyTab index => app.destroyTab index
  | setViewedTab client tabId => app.setViewedTab client tabId
  | focusClientPane client tabId paneId => app.focusClientPane client tabId paneId
  | assignViewedTab client tabId =>
      app.updateClientView client fun view => { view with viewedTabId := some tabId }
  | setViewport client cols rows => app.updateClientView client (·.setViewport cols rows)
  | ackAction client clientActionId => app.updateClientView client (·.ackAction clientActionId)
  | changeLocally client viewId change =>
      (app.updateClientView client (·.changeLocally viewId change)).tell client
  | tell client => app.tell client
  | replyTabs client => app.replyTabs client
  | attachView client => (app.updateClientView client (·.attachSubscribed)).tell client
  | detachView client now => app.updateClientView client (·.detachUnsubscribed now)
  | renderAck client now paneId paneRevision runtimeRevision =>
      app.updateClientView client (·.renderAck now paneId paneRevision runtimeRevision)
  | recordInputSeq client inputSeq => app.updateClientView client (·.recordInputSeq inputSeq)
  | writeInput pane bytes => app.writeInput pane bytes
  | sendError client code message => app.updateClient client (·.sendError code message)
  | sendOther client frame => app.updateClient client (·.sendFrame (.other frame))
  | markDirty tabId => app.updateRuntime (·.markRemoteTabDirty tabId)
  | markActiveDirty => app.updateRuntime UiRuntime.markActiveRemoteTabDirty
  | invalidateCache => app.updateRuntime UiRuntime.invalidateRemoteTabsCache
  | takeDirtyTabs => app.updateRuntime fun rt => { rt with dirtyRemoteTabs := [] }
  | publishTo client tabId => app.publishTo client tabId
  | poll outcome => app.poll outcome
  | sweepIdleViews now => app.sweepIdleViews now viewIdleTimeout

end Boo.Server.Actions
