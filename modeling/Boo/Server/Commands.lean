/- module: Boo/Server/Commands
   digest: What the handler of each command performs, and for whom. -/

import Boo.Server.Handlers

set_option autoImplicit false
set_option relaxedAutoImplicit false

namespace Boo.Server.Commands

open Boo.Lib.Script
open Boo.Lib.Script.Program
open Boo.Wire.Message
open Boo.Server.Frames
open Boo.Server.View
open Boo.Server.App
open Boo.Server.App.BooApp
open Boo.Server.Actions
open Boo.Server.Handlers
open Boo.Runtime.Splits
open Boo.Runtime.Tabs
open Boo.Runtime.Ui

/-- The client that a command comes from; the control socket has none. -/
def issuer : Command → Option ClientId
  | .remoteConnected client | .remoteListTabs client | .remoteCreate client _
  | .remoteInput client _ _ | .remoteKey client _ _ | .remoteResize client _ _
  | .remoteExecuteCommand client _ | .remoteAppKeyEvent client _ _ _
  | .remoteAppMouseEvent client _ _ _ | .remoteAppAction client _ | .remoteFocusPane client _
  | .remoteDestroy client _ | .remoteRuntimeAction client _ _ | .remoteRowRangeRequest client _ _
  | .remoteRenderAck client _ _ _ _ => some client
  | _ => none

/-- The commands that close a tab on purpose. -/
def Closes : Command → Prop
  | .remoteDestroy _ _ => True
  | .remoteRuntimeAction _ _ (.closeTab _) => True
  | _ => False

/-- The command that names the tab of a view by itself. -/
def Refocuses : Command → Prop
  | .remoteRuntimeAction _ _ (.focusPane _ _) => True
  | _ => False

/-- The client and the sequence number that an input command comes with. -/
def inputOf : Command → Option (ClientId × Option UInt64)
  | .remoteInput client _ inputSeq | .remoteKey client inputSeq _
  | .remoteAppKeyEvent client inputSeq _ _ => some (client, inputSeq)
  | _ => none

/-- The actions that the handler of a command can perform. Those that change one view are for the
client that the command comes from; only a tab that is closed on purpose is destroyed. -/
def Acts (cmd : Command) : Action → Prop
  | .effectsBy target _ | .effectsAndBroadcast target _ | .effectsAndTellLocal target _
  | .initializeView target | .repairView target | .syncClientView target
  | .syncRuntimeView target _ | .createTab target _ _ | .setViewedTab target _
  | .focusClientPane target _ _ | .setViewport target _ _ | .ackAction target _
  | .changeLocally target _ _ | .attachView target | .detachView target _ =>
      issuer cmd = some target
  | .assignViewedTab target _ => issuer cmd = some target ∧ Refocuses cmd
  | .recordInputSeq target inputSeq => inputOf cmd = some (target, inputSeq)
  | .destroyTab _ => Closes cmd
  | .connect _ _ | .disconnect _ | .output _ _ _ | .childExit _ | .poll _ | .sweepIdleViews _
  | .takeDirtyTabs => False
  | _ => True

section Pieces

variable {cmd : Command}

theorem acts_publishRemoteTab (tabId : TabId) : Runs (Acts cmd) (publishRemoteTab tabId) :=
  performs_bind performs_current fun _ => performs_forM fun _ _ => performs_perform fun _ => trivial

theorem acts_publishActiveTab : Runs (Acts cmd) publishActiveTab := by
  refine performs_bind performs_current fun app => ?_
  split
  · exact performs_pure _
  · exact acts_publishRemoteTab _

theorem acts_publishLocalChanges (before : LocalGuiTransportState) :
    Runs (Acts cmd) (publishLocalChanges before) := by
  refine performs_bind performs_current fun app => ?_
  split
  · split
    · exact performs_pure _
    · exact acts_publishRemoteTab _
  · exact performs_pure _

theorem acts_publishLocalGuiAfterUiAction (before : LocalGuiTransportState) :
    Runs (Acts cmd) (publishLocalGuiAfterUiAction before) :=
  performs_bind (performs_perform fun _ => trivial) fun _ => acts_publishLocalChanges before

theorem acts_uiAction (effects : List UiEffect) (publish : Bool) :
    Runs (Acts cmd) (uiAction effects publish) := by
  refine performs_bind performs_current fun app =>
    performs_bind (performs_perform fun _ => trivial) fun _ => ?_
  split
  · exact acts_publishLocalGuiAfterUiAction _
  · exact performs_pure _

theorem acts_broadcast : Runs (Acts cmd) broadcastRuntimeViewToAllViewers :=
  performs_bind (performs_perform fun _ => trivial) fun _ => acts_publishActiveTab

variable {client : ClientId}

theorem acts_of_aims (issued : issuer cmd = some client) {R : Type} {handler : Handler R}
    (aims : Runs (Aims client) handler) : Runs (Acts cmd) handler := by
  refine aims.mono fun _ action aims => ?_
  cases action with
  | initializeView _ | repairView _ | syncRuntimeView _ _ =>
      cases aims
      exact issued
  | applyEffects _ | publishTo _ _ => trivial
  | _ => exact aims.elim

theorem acts_createRemoteRuntimeTab (issued : issuer cmd = some client) (answer : Option Spawned)
    (ack : Bool) : Runs (Acts cmd) (createRemoteRuntimeTab client answer ack) := by
  unfold createRemoteRuntimeTab
  split
  · exact performs_perform fun _ => trivial
  · exact performs_bind (performs_perform fun _ => issued) fun _ => acts_publishActiveTab

theorem acts_destroyRemoteRuntimeTab (issued : issuer cmd = some client) (closes : Closes cmd)
    (tabId : Option TabId) : Runs (Acts cmd) (destroyRemoteRuntimeTab client tabId) := by
  refine performs_bind performs_current fun app => ?_
  split
  · exact performs_perform fun _ => trivial
  · split
    · exact acts_of_aims issued (aims_recover client)
    · exact performs_bind (performs_perform fun _ => closes) fun _ => acts_publishActiveTab

theorem acts_ackClientAction (issued : issuer cmd = some client)
    (clientActionId : Option UInt64) : Runs (Acts cmd) (ackClientAction client clientActionId) := by
  unfold ackClientAction
  split
  · exact performs_pure _
  · exact performs_perform fun _ => issued

theorem acts_setViewedTab (issued : issuer cmd = some client) (tabId : TabId) :
    Runs (Acts cmd) (setViewedTab client tabId) :=
  performs_bind (performs_perform fun _ => issued) fun _ => acts_publishRemoteTab tabId

theorem acts_remoteFocusPane (issued : issuer cmd = some client) (paneId : PaneId) :
    Runs (Acts cmd) (remoteFocusPane client paneId) := by
  refine performs_bind (acts_of_aims issued (aims_ensure client)) fun view => ?_
  split
  · exact performs_pure _
  · split
    · exact performs_perform fun _ => trivial
    · refine performs_bind performs_current fun app => ?_
      split
      · exact performs_bind (performs_perform fun _ => issued) fun _ => acts_publishRemoteTab _
      · exact performs_pure _

theorem acts_setNeighbouringTab (issued : issuer cmd = some client)
    (clientActionId : Option UInt64) (neighbour : Nat → Nat → Nat) :
    Runs (Acts cmd) (setNeighbouringTab client clientActionId neighbour) := by
  refine performs_bind (acts_of_aims issued (aims_ensure client)) fun view => ?_
  split
  · exact performs_pure _
  · refine performs_bind performs_current fun app => ?_
    dsimp only
    split
    · exact performs_pure _
    · split
      · exact performs_pure _
      · exact performs_bind (acts_ackClientAction issued _) fun _ => acts_setViewedTab issued _

theorem acts_handleRuntimeAction (issued : issuer cmd = some client)
    (clientActionId : Option UInt64) {action : RuntimeAction}
    (closing : ∀ tabId, action = .closeTab tabId → Closes cmd)
    (refocusing : ∀ tabId paneId, action = .focusPane tabId paneId → Refocuses cmd) :
    Runs (Acts cmd) (handleRuntimeAction client clientActionId action) := by
  cases action with
  | changeLocally viewId change => exact performs_perform fun _ => issued
  | noop => exact performs_perform fun _ => trivial
  | setViewedTab tabId => exact acts_setViewedTab issued tabId
  | focusPane tabId paneId =>
      exact performs_bind (acts_remoteFocusPane issued paneId) fun _ =>
        performs_perform fun _ => ⟨issued, refocusing tabId paneId rfl⟩
  | newTab answer =>
      show Runs (Acts cmd) (createRemoteRuntimeTab client answer false)
      exact acts_createRemoteRuntimeTab issued answer false
  | closeTab tabId =>
      show Runs (Acts cmd) (destroyRemoteRuntimeTab client tabId)
      exact acts_destroyRemoteRuntimeTab issued (closing tabId rfl) tabId
  | nextTab | prevTab =>
      unfold handleRuntimeAction
      exact acts_setNeighbouringTab issued clientActionId _
  | attachView =>
      refine performs_bind (performs_perform fun _ => issued) fun _ =>
        performs_bind performs_current fun app => ?_
      split
      · exact performs_pure _
      · exact acts_publishRemoteTab _
  | detachView now => exact performs_perform fun _ => issued
  | newSplit direction answer =>
      refine performs_bind performs_current fun app => ?_
      refine performs_bind (acts_of_aims issued (aims_focusClientRuntimeTarget client)) fun _ => ?_
      refine performs_bind (performs_perform fun _ => issued) fun _ => ?_
      exact performs_bind (acts_publishLocalChanges _) fun _ => acts_broadcast
  | resizeSplit ratios =>
      refine performs_bind (acts_of_aims issued (aims_ensure client)) fun view => ?_
      split
      · exact performs_pure _
      · split
        · exact performs_pure _
        · refine performs_bind (acts_of_aims issued (aims_focusClientRuntimeTarget client)) fun _ => ?_
          refine performs_bind (performs_perform fun _ => issued) fun _ => ?_
          exact acts_publishActiveTab

theorem acts_onClientTarget (issued : issuer cmd = some client) {act : TabId → Handler Unit}
    (acts : ∀ tabId, Runs (Acts cmd) (act tabId)) :
    Runs (Acts cmd) (onClientTarget client act) := by
  refine performs_bind (acts_of_aims issued (aims_focusClientRuntimeTarget client)) fun target => ?_
  split
  · exact performs_perform fun _ => trivial
  · exact acts _

theorem acts_remoteInput (issued : issuer cmd = some client) (bytes : List UInt8)
    (inputSeq : Option UInt64) (input : inputOf cmd = some (client, inputSeq)) :
    Runs (Acts cmd) (remoteInput client bytes inputSeq) := by
  refine performs_bind (acts_of_aims issued (aims_ensure client)) fun view => ?_
  split
  · exact performs_pure _
  · split
    · exact performs_perform fun _ => trivial
    · refine performs_bind performs_current fun app => ?_
      split
      · exact acts_of_aims issued (aims_recover client)
      · split
        · refine performs_bind (performs_perform fun _ => trivial) fun _ => ?_
          refine performs_bind (performs_perform fun _ => input) fun _ => ?_
          refine performs_bind (performs_perform fun _ => trivial) fun _ => ?_
          refine performs_bind (performs_perform fun _ => issued) fun _ => ?_
          exact performs_perform fun _ => trivial
        · exact acts_of_aims issued (aims_recover client)

end Pieces

/-- The handler of every command performs only its own actions. -/
theorem acts_handleServerCmd (cmd : Command) : Runs (Acts cmd) (handleServerCmd cmd) := by
  cases cmd with
  | inspect => exact performs_pure _
  | newSplit direction answer => exact acts_uiAction _ _
  | focusSurface index => exact acts_uiAction _ _
  | setStatusComponents presentation =>
      cases presentation with
      | none => exact performs_pure _
      | some stamp =>
          refine performs_bind (performs_perform fun _ => trivial) fun _ =>
            performs_bind performs_current fun app => ?_
          split
          · exact performs_perform fun _ => trivial
          · exact performs_pure _
  | invokeStatusComponent effects =>
      cases effects with
      | none => exact performs_pure _
      | some effects =>
          refine performs_bind performs_current fun app => ?_
          refine performs_bind (performs_perform fun _ => trivial) fun _ => ?_
          refine performs_bind (performs_perform fun _ => trivial) fun _ => ?_
          exact acts_publishLocalGuiAfterUiAction _
  | executeCommand effects =>
      exact performs_bind (performs_perform fun _ => trivial) fun _ =>
        performs_perform fun _ => trivial
  | appKeyEvent effects handled => exact acts_uiAction _ _
  | appMouseEvent effects handled => exact acts_uiAction _ _
  | appAction effects => exact acts_uiAction _ _
  | focusPane paneId => exact performs_bind performs_current fun app => acts_uiAction _ _
  | sendText bytes => exact performs_perform fun _ => trivial
  | newTab answer =>
      refine performs_bind performs_current fun app => ?_
      refine performs_bind (performs_perform fun _ => trivial) fun _ => ?_
      refine performs_bind (performs_perform fun _ => trivial) fun _ => ?_
      exact acts_publishLocalGuiAfterUiAction _
  | gotoTab index => exact acts_uiAction _ _
  | nextTab => exact acts_uiAction _ _
  | prevTab => exact acts_uiAction _ _
  | resizeViewport frame =>
      cases frame with
      | none => exact performs_pure _
      | some frame => exact acts_uiAction _ _
  | sendKey effects => exact acts_uiAction _ _
  | remoteConnected client => exact acts_of_aims rfl (aims_recover client)
  | remoteListTabs client => exact performs_perform fun _ => trivial
  | remoteCreate client answer => exact acts_createRemoteRuntimeTab rfl answer true
  | remoteInput client bytes inputSeq => exact acts_remoteInput rfl bytes inputSeq rfl
  | remoteKey client inputSeq effects =>
      refine acts_onClientTarget rfl fun tabId => ?_
      refine performs_bind (performs_perform fun _ => rfl) fun _ => ?_
      exact performs_bind (performs_perform fun _ => rfl) fun _ => performs_perform fun _ => trivial
  | remoteResize client cols rows => exact performs_perform fun _ => rfl
  | remoteExecuteCommand client effects =>
      refine performs_bind (performs_perform fun _ => trivial) fun _ => ?_
      refine performs_bind (acts_of_aims rfl (aims_focusClientRuntimeTarget client)) fun _ => ?_
      exact performs_bind (performs_perform fun _ => rfl) fun _ => acts_publishActiveTab
  | remoteAppKeyEvent client inputSeq effects consumed =>
      refine acts_onClientTarget rfl fun tabId => performs_bind (performs_perform fun _ => rfl)
        fun _ => ?_
      split
      · exact performs_bind (performs_perform fun _ => rfl) fun _ => acts_publishActiveTab
      · exact performs_bind (performs_perform fun _ => rfl) fun _ =>
          performs_perform fun _ => trivial
  | remoteAppMouseEvent client wheel effects changedUi =>
      refine acts_onClientTarget rfl fun tabId => ?_
      split
      · exact performs_bind (performs_perform fun _ => rfl) fun _ => acts_publishActiveTab
      · exact performs_perform fun _ => rfl
  | remoteAppAction client effects =>
      refine performs_bind (acts_of_aims rfl (aims_focusClientRuntimeTarget client)) fun _ => ?_
      exact performs_bind (performs_perform fun _ => rfl) fun _ => acts_publishActiveTab
  | remoteFocusPane client paneId => exact acts_remoteFocusPane rfl paneId
  | remoteDestroy client tabId =>
      exact @acts_destroyRemoteRuntimeTab (.remoteDestroy client tabId) client rfl trivial tabId
  | remoteRuntimeAction client clientActionId action =>
      refine performs_bind (acts_ackClientAction rfl clientActionId) fun _ => ?_
      refine acts_handleRuntimeAction rfl clientActionId (fun tabId closes => ?_)
        fun tabId paneId focuses => ?_
      · subst closes
        trivial
      · subst focuses
        trivial
  | remoteRowRangeRequest client paneId rows =>
      refine performs_bind performs_current fun app => ?_
      split
      · split
        · exact performs_perform fun _ => trivial
        · exact performs_pure _
      · exact performs_pure _
  | remoteRenderAck client now paneId paneRevision runtimeRevision =>
      exact performs_perform fun _ => trivial

end Boo.Server.Commands
