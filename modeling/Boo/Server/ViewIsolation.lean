/- module: Boo/Server/ViewIsolation
   digest: A client's commands leave the views of all other clients alone. -/

import Boo.Server.Commands
import Boo.Server.Publishing

set_option autoImplicit false
set_option relaxedAutoImplicit false

namespace Boo.Server.ViewIsolation

open Boo.Lib.Script
open Boo.Lib.Script.Program
open Boo.Wire.Message
open Boo.Server.Frames
open Boo.Server.View
open Boo.Server.App
open Boo.Server.App.BooApp
open Boo.Server.Actions
open Boo.Server.Publishing
open Boo.Server.Handlers
open Boo.Server.Commands
open Boo.Runtime.Splits
open Boo.Runtime.Tabs
open Boo.Runtime.Ui

/-- The part of a view that belongs to its client alone. -/
structure OwnView where
  viewedTabId : Option TabId
  focusedPaneId : Option PaneId
  visiblePaneIds : List PaneId
  viewportCols : Option UInt16
  viewportRows : Option UInt16
  scrollOffsetRows : Int
  copyModeActive : Bool
  searchActive : Bool
  searchQuery : String
  deriving DecidableEq

def ownView (view : ClientRuntimeView) : OwnView where
  viewedTabId := view.viewedTabId
  focusedPaneId := view.focusedPaneId
  visiblePaneIds := view.visiblePaneIds
  viewportCols := view.viewportCols
  viewportRows := view.viewportRows
  scrollOffsetRows := view.scrollOffsetRows
  copyModeActive := view.copyModeActive
  searchActive := view.searchActive
  searchQuery := view.searchQuery

def ownViewOf (app : BooApp) (client : ClientId) : Option OwnView :=
  (app.viewOf client).map ownView

/-- An action that retargets or changes no view but that of `client`. -/
def ActsFor (client : ClientId) : Action → Prop
  | .effectsBy target _ | .effectsAndBroadcast target _ | .effectsAndTellLocal target _
  | .initializeView target | .repairView target | .syncClientView target
  | .syncRuntimeView target _ | .createTab target _ _ | .setViewedTab target _
  | .focusClientPane target _ _ | .assignViewedTab target _ | .setViewport target _ _
  | .ackAction target _ | .changeLocally target _ _ | .attachView target
  | .detachView target _ => target = client
  | .connect _ _ | .disconnect _ | .destroyTab _ | .poll _ | .sweepIdleViews _ => False
  | _ => True

section Sends

variable (client : ClientState)

@[simp] theorem ownView_sendTabList (tabs : List RemoteTabInfo) :
    ownView (client.sendTabList tabs).runtimeView = ownView client.runtimeView := by
  unfold ClientState.sendTabList
  split <;> rfl

@[simp] theorem ownView_sendUiAppearance (appearance : UiAppearance) :
    ownView (client.sendUiAppearance appearance).runtimeView = ownView client.runtimeView := by
  unfold ClientState.sendUiAppearance
  split <;> rfl

@[simp] theorem ownView_sendUiRuntimeState (state : UiRuntimeState) :
    ownView (client.sendUiRuntimeState state).runtimeView = ownView client.runtimeView := by
  unfold ClientState.sendUiRuntimeState
  split <;> rfl

end Sends

section Keeping

variable (app : BooApp) (target other : ClientId)

theorem ownViewOf_eq :
    ownViewOf app other =
      (app.clients.value other).map fun client => ownView client.runtimeView := by
  unfold ownViewOf viewOf
  rw [Option.map_map]
  rfl

theorem ownViewOf_updateClients {update : ClientId → ClientState → ClientState}
    (same : ∀ client, ownView (update other client).runtimeView = ownView client.runtimeView) :
    ownViewOf (app.updateClients update) other = ownViewOf app other := by
  rw [ownViewOf_eq, ownViewOf_eq, value_updateClients, Option.map_map]
  exact congrArg (Option.map · _) (funext same)

theorem ownViewOf_updateClient_of_ne (different : other ≠ target)
    (update : ClientState → ClientState) :
    ownViewOf (app.updateClient target update) other = ownViewOf app other := by
  rw [ownViewOf_eq, ownViewOf_eq, value_updateClient, Option.map_map]
  refine congrArg (Option.map · _) (funext fun client => ?_)
  rw [Function.comp_apply, if_neg different]

theorem ownViewOf_updateClient {update : ClientState → ClientState}
    (same : ∀ client, ownView (update client).runtimeView = ownView client.runtimeView) :
    ownViewOf (app.updateClient target update) other = ownViewOf app other := by
  rw [ownViewOf_eq, ownViewOf_eq, value_updateClient, Option.map_map]
  refine congrArg (Option.map · _) (funext fun client => ?_)
  rw [Function.comp_apply]
  split
  · exact same client
  · rfl

theorem ownViewOf_tell : ownViewOf (app.tell target) other = ownViewOf app other :=
  ownViewOf_updateClient app target other fun _ => ownView_sendUiRuntimeState _ _

theorem ownViewOf_broadcast : ownViewOf app.broadcast other = ownViewOf app other := by
  have tabs : ownViewOf app.sendTabsToViewers.bumpRuntimeRevision other = ownViewOf app other := by
    refine ownViewOf_updateClients app.withRemoteTabs other fun client => ?_
    split
    · rw [ownView_sendUiAppearance, ownView_sendTabList]
    · rfl
  rw [← tabs]
  exact ownViewOf_updateClients _ other fun _ => ownView_sendUiRuntimeState _ _

theorem ownViewOf_tellLocalViewers : ownViewOf app.tellLocalViewers other = ownViewOf app other := by
  unfold tellLocalViewers
  split
  · refine ownViewOf_updateClients app.withRemoteTabs other fun client => ?_
    split
    · rw [ownView_sendTabList]
      split
      · rw [ownView_sendUiRuntimeState]
      · rfl
    · rfl
  · rfl

theorem ownViewOf_applyEffects (effects : List UiEffect) :
    ownViewOf (app.applyEffects effects) other = ownViewOf app other := by
  apply applyEffects_reading app (ownViewOf · other)
  intro before effect
  unfold applyEffect
  split
  · refine ownViewOf_updateClients _ other fun client => ?_
    split
    · exact ownView_sendUiAppearance client _
    · rfl
  · rfl

theorem ownViewOf_syncClientView_of_ne (different : other ≠ target) :
    ownViewOf (app.syncClientView target) other = ownViewOf app other := by
  unfold syncClientView
  split
  · rfl
  · exact ownViewOf_updateClient_of_ne app target other different _

theorem ownView_sendStateToClient (client : ClientState) (source : PaneId) (state : Grid) :
    ownView (client.sendStateToClient source state).runtimeView = ownView client.runtimeView := by
  unfold ClientState.sendStateToClient
  split <;> rfl

theorem ownView_sendPaneStateToClient (client : ClientState) (header : PaneHeader)
    (state : Grid) :
    ownView (client.sendPaneStateToClient header state).runtimeView =
      ownView client.runtimeView := by
  unfold ClientState.sendPaneStateToClient
  split <;> rfl

theorem ownViewOf_publishFocusedPane (paneId : PaneId) :
    ownViewOf (app.publishFocusedPane target paneId) other = ownViewOf app other := by
  unfold publishFocusedPane
  rcases remoteFullStateForPane_eq app paneId with
    ⟨-, same⟩ | ⟨terminal, state, caches, -, -, same⟩
  · rw [same]
  · rw [same]
    exact ownViewOf_updateClient { app with
      paneRowCaches := caches } target other fun client => ownView_sendStateToClient client _ _

theorem ownViewOf_publishVisiblePane (tabId : TabId) (paneId : PaneId) :
    ownViewOf (app.publishVisiblePane target tabId paneId) other = ownViewOf app other := by
  unfold publishVisiblePane
  rcases remoteFullStateForPane_eq app paneId with
    ⟨-, same⟩ | ⟨terminal, state, caches, -, -, same⟩
  · rw [same]
  · obtain ⟨revision, revisions, sameRevision⟩ := paneTerminalRevision_eq
      ({ app with paneRowCaches := caches } : BooApp) paneId state
    rw [same]
    dsimp only
    rw [sameRevision]
    exact ownViewOf_updateClient { app with
      paneRowCaches := caches
      paneTerminalRevisions := revisions } target other
        fun client => ownView_sendPaneStateToClient client _ _

theorem ownViewOf_publishTo (tabId : TabId) :
    ownViewOf (app.publishTo target tabId) other = ownViewOf app other := by
  unfold publishTo
  split
  · rfl
  · split
    · refine List.foldlRecOn (motive := fun (after : BooApp) =>
        ownViewOf after other = ownViewOf app other) _ _ ?_ ?_
      · split
        · rfl
        · exact ownViewOf_publishFocusedPane app target other _
      · intro after same paneId _
        rw [ownViewOf_publishVisiblePane, same]
    · rfl

end Keeping

/-- An action for one client keeps the view of every other. -/
theorem ownViewOf_step {client other : ClientId} (different : other ≠ client) {action : Action}
    (acts : ActsFor client action) (app : BooApp) :
    ownViewOf (action.step app) other = ownViewOf app other := by
  cases action with
  | connect target isLocal => exact acts.elim
  | disconnect target => exact acts.elim
  | destroyTab index => exact acts.elim
  | poll outcome => exact acts.elim
  | sweepIdleViews now => exact acts.elim
  | applyEffects effects => exact ownViewOf_applyEffects app other effects
  | effectsBy target effects =>
      cases acts
      rw [Action.step, ownViewOf_syncClientView_of_ne _ _ _ different, ownViewOf_applyEffects]
  | effectsAndBroadcast target effects =>
      cases acts
      rw [Action.step, ownViewOf_broadcast, ownViewOf_syncClientView_of_ne _ _ _ different,
        ownViewOf_applyEffects]
  | effectsAndTellLocal target effects =>
      cases acts
      rw [Action.step, ownViewOf_tellLocalViewers,
        ownViewOf_syncClientView_of_ne _ _ _ different, ownViewOf_applyEffects]
  | tellLocalViewers => exact ownViewOf_tellLocalViewers app other
  | broadcast => exact ownViewOf_broadcast app other
  | syncClientView target =>
      cases acts
      exact ownViewOf_syncClientView_of_ne app _ _ different
  | syncRuntimeView target subscribe =>
      cases acts
      show ownViewOf (app.syncRuntimeView _ subscribe) other = _
      unfold syncRuntimeView
      split
      · rw [ownViewOf_updateClient_of_ne _ _ _ different, ownViewOf_tell,
          ownViewOf_updateClient_of_ne _ _ _ different]
        exact ownViewOf_updateClient_of_ne app.withRemoteTabs _ _ different _
      · rfl
  | createTab target spawned ack =>
      cases acts
      show ownViewOf (app.createTab _ spawned ack) other = _
      unfold createTab
      rw [ownViewOf_broadcast]
      split
      · rw [ownViewOf_updateClient_of_ne _ _ _ different]
        exact ownViewOf_updateClient_of_ne _ _ _ different _
      · exact ownViewOf_updateClient_of_ne _ _ _ different _
  | setViewedTab target tabId =>
      cases acts
      exact (ownViewOf_tell _ _ _).trans (ownViewOf_updateClient_of_ne app _ _ different _)
  | focusClientPane target tabId paneId =>
      cases acts
      show ownViewOf (app.focusClientPane _ tabId paneId) other = _
      unfold focusClientPane
      split
      · exact (ownViewOf_tell _ _ _).trans (ownViewOf_updateClient_of_ne app _ _ different _)
      · rfl
  | changeLocally target viewId change =>
      cases acts
      exact (ownViewOf_tell _ _ _).trans (ownViewOf_updateClient_of_ne app _ _ different _)
  | attachView target =>
      cases acts
      exact (ownViewOf_tell _ _ _).trans (ownViewOf_updateClient_of_ne app _ _ different _)
  | replyTabs target =>
      show ownViewOf (app.replyTabs target) other = _
      unfold replyTabs
      rw [ownViewOf_updateClient _ _ _ fun client => ownView_sendUiAppearance client _]
      exact ownViewOf_updateClient app.withRemoteTabs _ _ fun client => ownView_sendUiRuntimeState _ _
  | tell target => exact ownViewOf_tell app target other
  | initializeView target =>
      cases acts
      exact ownViewOf_updateClient_of_ne app _ _ different _
  | repairView target =>
      cases acts
      exact ownViewOf_updateClient_of_ne app _ _ different _
  | assignViewedTab target tabId =>
      cases acts
      exact ownViewOf_updateClient_of_ne app _ _ different _
  | setViewport target cols rows =>
      cases acts
      exact ownViewOf_updateClient_of_ne app _ _ different _
  | ackAction target clientActionId =>
      cases acts
      exact ownViewOf_updateClient_of_ne app _ _ different _
  | detachView target now =>
      cases acts
      exact ownViewOf_updateClient_of_ne app _ _ different _
  | renderAck target now paneId paneRevision runtimeRevision =>
      exact ownViewOf_updateClient app target other fun _ => rfl
  | recordInputSeq target inputSeq =>
      refine ownViewOf_updateClient app target other fun client => ?_
      cases inputSeq <;> rfl
  | sendError target code message => exact ownViewOf_updateClient app target other fun _ => rfl
  | sendOther target frame => exact ownViewOf_updateClient app target other fun _ => rfl
  | writeInput pane bytes =>
      show ownViewOf (app.writeInput pane bytes) other = _
      unfold writeInput
      split <;> rfl
  | publishTo target tabId => exact ownViewOf_publishTo app target other tabId
  | output pane state pwd => rfl
  | childExit pane => rfl
  | markDirty tabId => rfl
  | markActiveDirty => rfl
  | invalidateCache => rfl
  | takeDirtyTabs => rfl

/-- The actions of a command that closes no tab are for the client that it comes from. -/
theorem actsFor_of_acts {cmd : Command} {client : ClientId} (issued : issuer cmd = some client)
    (keeps : ¬ Closes cmd) {action : Action} (acts : Acts cmd action) : ActsFor client action := by
  cases action with
  | destroyTab index => exact keeps acts
  | effectsBy _ _ | effectsAndBroadcast _ _ | effectsAndTellLocal _ _ | initializeView _
  | repairView _ | syncClientView _ | syncRuntimeView _ _ | createTab _ _ _ | setViewedTab _ _
  | focusClientPane _ _ _ | setViewport _ _ _ | ackAction _ _ | changeLocally _ _ _
  | attachView _ | detachView _ _ => exact Option.some.inj (Eq.trans (Eq.symm acts) issued)
  | assignViewedTab _ _ => exact Option.some.inj (acts.1.symm.trans issued)
  | connect _ _ | disconnect _ | poll _ | sweepIdleViews _ => exact acts
  | _ => trivial

theorem actsFor_of_aims {client : ClientId} {R : Type} {handler : Handler R}
    (aims : Runs (Aims client) handler) : Runs (ActsFor client) handler := by
  refine aims.mono fun _ action aims => ?_
  cases action <;> trivial

/-- Nothing that the view names is missing: its tab exists, its focused pane is one of the panes
of that tab, and it lists just these. -/
structure Sound (tabs : TabManager) (own : OwnView) : Prop where
  viewed : ∀ tabId ∈ own.viewedTabId, (tabs.findIndexByTabId tabId).isSome
  focused : ∀ paneId ∈ own.focusedPaneId, ∃ tabId ∈ own.viewedTabId,
    paneId ∈ tabs.paneIdsForTab tabId
  visible : own.visiblePaneIds = (own.viewedTabId.map tabs.paneIdsForTab).getD []

section Closing

variable (app : BooApp)

/-- A sound view with a focus is its own repair, and so is one that shows nothing when no tab is
left. -/
theorem ownView_repair {closedTabIndex : Option Nat} {view : ClientRuntimeView}
    (sound : Sound app.tabs (ownView view))
    (settled : view.focusedPaneId.isSome ∨ app.tabs.tabs = []) :
    ownView (view.retarget (app.repairedTab closedTabIndex view)
      ((app.repairedTab closedTabIndex view).bind fun tabId =>
        app.tabs.focusIn tabId view.focusedPaneId)
      (((app.repairedTab closedTabIndex view).map app.tabs.paneIdsForTab).getD [])) =
        ownView view := by
  have lists : view.visiblePaneIds = (view.viewedTabId.map app.tabs.paneIdsForTab).getD [] :=
    sound.visible
  have sameTab : app.repairedTab closedTabIndex view = view.viewedTabId := by
    unfold repairedTab
    cases held : view.viewedTabId with
    | some tabId => rw [Option.filter_some, if_pos (sound.viewed tabId held)]
    | none =>
        have noTab : app.tabs.tabs = [] := by
          refine settled.resolve_left fun focuses => ?_
          obtain ⟨paneId, held'⟩ := Option.isSome_iff_exists.mp focuses
          obtain ⟨tabId, viewed, -⟩ := sound.focused paneId held'
          exact absurd (held.symm.trans viewed) (by simp)
        simp [noTab]
  have sameFocus : (view.viewedTabId.bind fun tabId =>
      app.tabs.focusIn tabId view.focusedPaneId) = view.focusedPaneId := by
    cases held : view.focusedPaneId with
    | some paneId =>
        obtain ⟨tabId, viewed, member⟩ := sound.focused paneId held
        rw [show view.viewedTabId = some tabId from viewed]
        show app.tabs.focusIn tabId (some paneId) = some paneId
        rw [TabManager.focusIn, Option.filter_some, if_pos (decide_eq_true member)]
        rfl
    | none =>
        have noTab : app.tabs.tabs = [] := settled.resolve_left (by simp [held])
        cases viewed : view.viewedTabId with
        | none => rfl
        | some tabId =>
            have known := sound.viewed tabId viewed
            simp [TabManager.findIndexByTabId, noTab] at known
  rw [sameTab, sameFocus, ← lists]
  rfl

theorem ownViewOf_repairAllRemoteViews (closedTabIndex : Option Nat) {other : ClientId}
    (sound : ∀ own ∈ ownViewOf app other, Sound app.tabs own ∧
      (own.focusedPaneId.isSome ∨ app.tabs.tabs = [])) :
    ownViewOf (app.repairAllRemoteViews closedTabIndex) other = ownViewOf app other := by
  rw [ownViewOf_eq] at sound
  rw [ownViewOf_eq, ownViewOf_eq, repairAllRemoteViews, value_updateClients, Option.map_map]
  cases known : app.clients.value other with
  | none => rfl
  | some client =>
      obtain ⟨sound, settled⟩ := sound (ownView client.runtimeView) (by simp [known])
      exact congrArg some (ownView_repair app sound settled)

theorem runtime_publishActiveTab : (final Action.step publishActiveTab app).runtime = app.runtime := by
  have publishes : Performs Action.step
      (fun before action => (Action.step before action).runtime = before.runtime)
      publishActiveTab := by
    refine performs_bind performs_current fun app => ?_
    split
    · exact performs_pure _
    · exact performs_bind performs_current fun _ => performs_forM fun target _ =>
        performs_perform fun before => runtime_publishTo before target _
  exact @Performs.invariant _ _ _ _ _ (fun after => after.runtime = app.runtime) _ publishes
    (fun before action same kept => kept.trans same) app rfl

theorem ownViewOf_final {client other : ClientId} (different : other ≠ client)
    {handler : Handler Unit} (runs : Runs (ActsFor client) handler) :
    ownViewOf (final Action.step handler app) other = ownViewOf app other :=
  @Performs.invariant _ _ _ _ _ (fun after => ownViewOf after other = ownViewOf app other) _ runs
    (fun before _ same acts => (ownViewOf_step different acts before).trans same) app rfl

/-- Closing a tab retargets no sound view with a focus. -/
theorem ownViewOf_destroyRemoteRuntimeTab {client other : ClientId} (different : other ≠ client)
    (tabId : Option TabId)
    (sound : ∀ own ∈ ownViewOf app other,
      let tabs := (final Action.step (destroyRemoteRuntimeTab client tabId) app).tabs
      Sound tabs own ∧ (own.focusedPaneId.isSome ∨ tabs.tabs = [])) :
    ownViewOf (final Action.step (destroyRemoteRuntimeTab client tabId) app) other =
      ownViewOf app other := by
  unfold destroyRemoteRuntimeTab at sound ⊢
  simp only [final_bind, result_current, final_current] at sound ⊢
  split at sound
  · exact ownViewOf_updateClient app client other fun _ => rfl
  · split at sound
    · exact ownViewOf_final app different (actsFor_of_aims (aims_recover client))
    · rename_i index _
      simp only [final_bind, final_perform] at sound ⊢
      rw [ownViewOf_final _ different (actsFor_of_aims (aims_publishActiveTab client))]
      rw [show (final Action.step publishActiveTab ((Action.destroyTab index).step app)).tabs =
        ((Action.destroyTab index).step app).tabs from
          congrArg UiRuntime.tabs (runtime_publishActiveTab _)] at sound
      show ownViewOf (app.destroyTab index) other = _
      unfold destroyTab
      rw [ownViewOf_broadcast]
      exact ownViewOf_repairAllRemoteViews _ (some index) sound

/-- No command of a client changes the view of another one, but for a closed tab: then the views
that lost their tab, their focus or a pane, or that had no focus, are set anew. -/
theorem otherViews_kept (app : BooApp) {client other : ClientId} {command : Command}
    (issued : issuer command = some client) (different : other ≠ client)
    (closing : Closes command → ∀ own ∈ ownViewOf app other,
      let tabs := (final Action.step (handleServerCmd command) app).tabs
      Sound tabs own ∧ (own.focusedPaneId.isSome ∨ tabs.tabs = [])) :
    ownViewOf (final Action.step (handleServerCmd command) app) other = ownViewOf app other := by
  by_cases closes : Closes command
  · have sound := closing closes
    cases command with
    | remoteDestroy target tabId =>
        cases issued
        exact ownViewOf_destroyRemoteRuntimeTab app different tabId sound
    | remoteRuntimeAction target clientActionId action =>
        cases issued
        cases action with
        | closeTab tabId =>
            have acked : ownViewOf (final Action.step (ackClientAction client clientActionId) app)
                other = ownViewOf app other := by
              refine ownViewOf_final app different ?_
              cases clientActionId with
              | none => exact performs_pure _
              | some id => exact performs_perform fun _ => rfl
            simp only [handleServerCmd, handleRuntimeAction, final_bind] at sound ⊢
            rw [← acked] at sound ⊢
            exact ownViewOf_destroyRemoteRuntimeTab _ different tabId sound
        | _ => exact closes.elim
    | _ => exact closes.elim
  · exact ownViewOf_final app different ((acts_handleServerCmd command).mono
      fun _ _ acts => actsFor_of_acts issued closes acts)

/-- Two clients that view the second of two tabs. -/
def twoViewers : List Step :=
  [.command (.newTab (some (blankPane ⟨1, live_one⟩))),
    .command (.newTab (some (blankPane ⟨2, live_two⟩))), .connect 1 true, .connect 2 true,
    .command (.remoteConnected 1), .command (.remoteConnected 2)]

def closeFirstTab : Command := .remoteRuntimeAction 1 none (.closeTab (some 1))

theorem otherViews_kept_closedTab :
    (ownViewOf (after twoViewers freshServer) 2).map
        (fun own => (own.viewedTabId, own.focusedPaneId, own.visiblePaneIds)) =
      some (some 2, some 2, [2]) ∧
    ownViewOf (final Action.step (handleServerCmd closeFirstTab) (after twoViewers freshServer)) 2 =
      ownViewOf (after twoViewers freshServer) 2 := by
  have viewing : (ownViewOf (after twoViewers freshServer) 2).map
      (fun own => (own.viewedTabId, own.focusedPaneId, own.visiblePaneIds)) =
        some (some 2, some 2, [2]) := by
    decide +kernel
  have left : (final Action.step (handleServerCmd closeFirstTab)
      (after twoViewers freshServer)).tabs.paneIdsForTab 2 = [2] := by
    decide +kernel
  have open_ : ((final Action.step (handleServerCmd closeFirstTab)
      (after twoViewers freshServer)).tabs.findIndexByTabId 2).isSome = true := by
    decide +kernel
  refine ⟨viewing, otherViews_kept _ rfl (by decide) fun _ own held => ?_⟩
  rw [Option.mem_def] at held
  simp only [held, Option.map_some, Option.some.injEq, Prod.mk.injEq] at viewing
  obtain ⟨viewed, focused, visible⟩ := viewing
  refine ⟨⟨?_, ?_, ?_⟩, .inl ?_⟩
  · rintro tabId member
    rw [viewed, Option.mem_def, Option.some.injEq] at member
    rw [← member]
    exact open_
  · rintro paneId member
    rw [focused, Option.mem_def, Option.some.injEq] at member
    refine ⟨2, viewed, ?_⟩
    rw [left, ← member]
    exact List.mem_singleton_self _
  · rw [visible, viewed]
    exact left.symm
  · rw [focused]
    rfl

/-- The second client detaches and is swept after the idle timeout. -/
def idleViewer : List Step :=
  twoViewers ++ [.command (.remoteRuntimeAction 2 none (.detachView 0)), .sweep 30000]

/-- A swept view names nothing that could be missing, and is aimed at a tab all the same. -/
theorem closingTab_aims_idleView :
    ¬ ∀ (app : BooApp) (client other : ClientId) (command : Command),
      issuer command = some client → other ≠ client →
        (∀ own ∈ ownViewOf app other,
          Sound (final Action.step (handleServerCmd command) app).tabs own) →
        ownViewOf (final Action.step (handleServerCmd command) app) other =
          ownViewOf app other := by
  intro keeps
  have idle : (ownViewOf (after idleViewer freshServer) 2).map
      (fun own => (own.viewedTabId, own.focusedPaneId, own.visiblePaneIds)) =
        some (none, none, []) := by
    decide +kernel
  have aimed : (ownViewOf (final Action.step (handleServerCmd closeFirstTab)
      (after idleViewer freshServer)) 2).map OwnView.viewedTabId = some (some 2) := by
    decide +kernel
  rw [keeps (after idleViewer freshServer) 1 2 closeFirstTab rfl (by decide) ?_] at aimed
  · cases held : ownViewOf (after idleViewer freshServer) 2 with
    | none => simp [held] at idle
    | some own => simp_all
  · intro own held
    simp only [Option.mem_def] at held
    simp only [held, Option.map_some, Option.some.injEq, Prod.mk.injEq] at idle
    obtain ⟨viewed, focused, visible⟩ := idle
    exact ⟨by simp [viewed], by simp [focused], by simp [viewed, visible]⟩

end Closing

end Boo.Server.ViewIsolation
