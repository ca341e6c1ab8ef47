/- module: Boo/Server/Outbound
   digest: What one action appends to the outbound queue of a client. -/

import Boo.Server.StreamRuns

set_option autoImplicit false
set_option relaxedAutoImplicit false

namespace Boo.Server.Outbound

open Boo.Lib.KeyedList
open Boo.Wire.Message
open Boo.Remote.Batcher
open Boo.Server.Frames
open Boo.Server.View
open Boo.Server.App
open Boo.Server.App.BooApp
open Boo.Server.Actions
open Boo.Server.Streams
open Boo.Server.Publishing
open Boo.Server.StreamSteps
open Boo.Server.StreamRuns
open Boo.Runtime.Splits
open Boo.Runtime.Tabs
open Boo.Runtime.Ui

/-- The messages of the server's own, to a client of the given kind. -/
def Own (isLocal : Bool) : OutboundMessage Frame → Prop
  | .frame (.control frame) => ∀ other, frame ≠ .other other
  | .screenUpdate (.screen _ _ flag _) => flag = isLocal
  | .paneUpdate _ _ (.pane _ _) => True
  | _ => False

/-- The queue of a client grew by messages of the server's own. -/
structure Grows (before after : ClientState) : Prop where
  isLocal : after.isLocal = before.isLocal
  outbound : ∃ new, after.outbound = before.outbound ++ new ∧
    ∀ message ∈ new, Own before.isLocal message

section Growing

variable {client before mid after : ClientState}

theorem Grows.refl (client : ClientState) : Grows client client :=
  ⟨rfl, [], (List.append_nil _).symm, fun _ member => by cases member⟩

theorem Grows.trans (first : Grows before mid) (next : Grows mid after) : Grows before after := by
  obtain ⟨kind, new, grown, own⟩ := first
  obtain ⟨kind', rest, grown', own'⟩ := next
  refine ⟨kind'.trans kind, new ++ rest, ?_, fun message member => ?_⟩
  · rw [grown', grown, List.append_assoc]
  · rcases List.mem_append.mp member with member | member
    · exact own message member
    · exact kind ▸ own' message member

theorem grows_queue {message : OutboundMessage Frame} (own : Own client.isLocal message) :
    Grows client (client.queue message) :=
  ⟨rfl, [message], rfl, fun _ member => List.mem_singleton.mp member ▸ own⟩

theorem grows_updateView (update : ClientRuntimeView → ClientRuntimeView) :
    Grows client (client.updateView update) :=
  ⟨rfl, [], (List.append_nil _).symm, fun _ member => by cases member⟩

theorem grows_sendFrame {frame : ControlFrame} (own : ∀ other, frame ≠ .other other) :
    Grows client (client.sendFrame frame) :=
  grows_queue own

theorem grows_sendTabList (tabs : List RemoteTabInfo) : Grows client (client.sendTabList tabs) := by
  unfold ClientState.sendTabList
  split
  · exact Grows.refl client
  · exact (grows_updateView _).trans (grows_sendFrame fun _ => nofun)

theorem grows_sendUiAppearance (appearance : UiAppearance) :
    Grows client (client.sendUiAppearance appearance) := by
  unfold ClientState.sendUiAppearance
  split
  · exact Grows.refl client
  · exact (grows_updateView _).trans (grows_sendFrame fun _ => nofun)

theorem grows_sendUiRuntimeState (state : UiRuntimeState) :
    Grows client (client.sendUiRuntimeState state) := by
  unfold ClientState.sendUiRuntimeState
  split
  · exact Grows.refl client
  · exact (grows_updateView _).trans (grows_sendFrame fun _ => nofun)

theorem grows_sendStateToClient (source : PaneId) (state : Grid) :
    Grows client (client.sendStateToClient source state) := by
  unfold ClientState.sendStateToClient
  split
  · exact (grows_updateView _).trans (grows_queue rfl)
  · exact Grows.refl client

theorem grows_sendPaneStateToClient (header : PaneHeader) (state : Grid) :
    Grows client (client.sendPaneStateToClient header state) := by
  unfold ClientState.sendPaneStateToClient
  split
  · exact (grows_updateView _).trans (grows_queue trivial)
  · exact Grows.refl client

end Growing

/-- The queues of all clients that are connected afterwards grew. -/
def GrowsAll (app after : BooApp) : Prop :=
  ∀ id result, after.clients.value id = some result →
    ∃ client, app.clients.value id = some client ∧ Grows client result

section Clients

variable {app mid after : BooApp}

theorem GrowsAll.of_same (same : after.clients = app.clients) : GrowsAll app after :=
  fun _ result held => ⟨result, same ▸ held, Grows.refl result⟩

theorem GrowsAll.trans (first : GrowsAll app mid) (next : GrowsAll mid after) :
    GrowsAll app after := by
  intro id result held
  obtain ⟨between, atMid, grows'⟩ := next id result held
  obtain ⟨client, before, grows⟩ := first id between atMid
  exact ⟨client, before, grows.trans grows'⟩

theorem growsAll_updateClients {update : ClientId → ClientState → ClientState}
    (grows : ∀ id client, Grows client (update id client)) :
    GrowsAll app (app.updateClients update) := by
  intro id result held
  rw [value_updateClients, Option.map_eq_some_iff] at held
  obtain ⟨client, before, rfl⟩ := held
  exact ⟨client, before, grows id client⟩

theorem growsAll_updateClient (target : ClientId) {update : ClientState → ClientState}
    (grows : ∀ client, Grows client (update client)) :
    GrowsAll app (app.updateClient target update) := by
  intro id result held
  rw [value_updateClient, Option.map_eq_some_iff] at held
  obtain ⟨client, before, rfl⟩ := held
  refine ⟨client, before, ?_⟩
  split
  · exact grows client
  · exact Grows.refl client

theorem growsAll_updateClientView (target : ClientId)
    (update : ClientRuntimeView → ClientRuntimeView) :
    GrowsAll app (app.updateClientView target update) :=
  growsAll_updateClient target fun _ => grows_updateView update

theorem growsAll_tell (target : ClientId) : GrowsAll app (app.tell target) :=
  growsAll_updateClient target fun _ => grows_sendUiRuntimeState _

theorem growsAll_broadcast : GrowsAll app app.broadcast := by
  have listed : GrowsAll app app.sendTabsToViewers :=
    growsAll_updateClients fun _ client => by
      split
      · exact (grows_sendTabList _).trans (grows_sendUiAppearance _)
      · exact Grows.refl client
  exact (listed.trans (.of_same rfl)).trans
    (growsAll_updateClients fun _ client => grows_sendUiRuntimeState _)

theorem growsAll_tellLocalViewers : GrowsAll app app.tellLocalViewers := by
  unfold tellLocalViewers
  split
  · refine growsAll_updateClients fun _ client => ?_
    split
    · split
      · exact (grows_sendUiRuntimeState _).trans (grows_sendTabList _)
      · exact grows_sendTabList _
    · exact Grows.refl client
  · exact .of_same rfl

theorem growsAll_applyEffects (effects : List UiEffect) :
    GrowsAll app (app.applyEffects effects) := by
  unfold applyEffects
  refine List.foldlRecOn (motive := GrowsAll app) effects applyEffect (.of_same rfl) ?_
  intro between grown effect _
  refine grown.trans ?_
  unfold applyEffect
  dsimp only
  split
  · refine growsAll_updateClients fun _ client => ?_
    split
    · exact grows_sendUiAppearance _
    · exact Grows.refl client
  · exact .of_same rfl

theorem growsAll_syncClientView (target : ClientId) :
    GrowsAll app (app.syncClientView target) := by
  unfold syncClientView
  split
  · exact .of_same rfl
  · exact growsAll_updateClientView target _

theorem growsAll_syncRuntimeView (target : ClientId) (subscribe : Bool) :
    GrowsAll app (app.syncRuntimeView target subscribe) := by
  unfold syncRuntimeView
  split
  · have aimed : GrowsAll app (app.withRemoteTabs.initializeView target) :=
      growsAll_updateClientView target _
    refine (aimed.trans
      (growsAll_updateClient target fun _ => grows_sendTabList app.currentRemoteTabs)).trans ?_
    refine GrowsAll.trans (growsAll_tell target) ?_
    exact growsAll_updateClient target fun _ =>
      (grows_sendUiAppearance _).trans (grows_updateView _)
  · exact .of_same rfl

theorem growsAll_replyTabs (target : ClientId) : GrowsAll app (app.replyTabs target) := by
  have listed : GrowsAll app app.withRemoteTabs := .of_same rfl
  have told : GrowsAll app.withRemoteTabs (app.withRemoteTabs.updateClient target fun state =>
      (state.replyTabList app.currentRemoteTabs).sendUiRuntimeState
        (app.uiRuntimeStateForClient target (some state.runtimeView))) :=
    growsAll_updateClient target fun _ =>
      (@grows_sendFrame _ (.tabList app.currentRemoteTabs) fun _ => nofun).trans
        (grows_sendUiRuntimeState _)
  exact (listed.trans told).trans
    (growsAll_updateClient target fun _ => grows_sendUiAppearance app.runtime.appearance)

theorem growsAll_createTab (target : ClientId) (spawned : Spawned) (ack : Bool) :
    GrowsAll app (app.createTab target spawned ack) := by
  unfold createTab
  dsimp only
  refine GrowsAll.trans ?_ growsAll_broadcast
  have created : GrowsAll app (app.updateRuntime fun rt =>
      (rt.newTab spawned).invalidateRemoteTabsCache) := .of_same rfl
  split
  · exact (created.trans (growsAll_updateClientView target _)).trans
      (growsAll_updateClient target fun _ =>
        @grows_sendFrame _ (.tabCreated app.tabs.nextTabId) fun _ => nofun)
  · exact created.trans (growsAll_updateClientView target _)

theorem growsAll_publishFocusedPane (target : ClientId) (paneId : PaneId) :
    GrowsAll app (app.publishFocusedPane target paneId) := by
  unfold publishFocusedPane
  rcases remoteFullStateForPane_eq app paneId with
    ⟨-, same⟩ | ⟨terminal, state, caches, -, -, same⟩
  · rw [same]
    exact .of_same rfl
  · rw [same]
    exact growsAll_updateClient target fun _ => grows_sendStateToClient paneId state

theorem growsAll_publishVisiblePane (target : ClientId) (tabId : TabId) (paneId : PaneId) :
    GrowsAll app (app.publishVisiblePane target tabId paneId) := by
  unfold publishVisiblePane
  rcases remoteFullStateForPane_eq app paneId with
    ⟨-, same⟩ | ⟨terminal, state, caches, -, -, same⟩
  · rw [same]
    exact .of_same rfl
  · obtain ⟨revision, revisions, sameRevision⟩ := paneTerminalRevision_eq
      ({ app with paneRowCaches := caches } : BooApp) paneId state
    rw [same]
    dsimp only
    rw [sameRevision]
    exact growsAll_updateClient target fun _ => grows_sendPaneStateToClient _ state

theorem growsAll_publishTo (target : ClientId) (tabId : TabId) :
    GrowsAll app (app.publishTo target tabId) := by
  unfold publishTo
  split
  · exact .of_same rfl
  · split
    · refine List.foldlRecOn (motive := GrowsAll app) _ _ ?_ fun between grown paneId _ =>
        grown.trans (growsAll_publishVisiblePane target tabId paneId)
      split
      · exact .of_same rfl
      · exact growsAll_publishFocusedPane target _
    · exact .of_same rfl

/-- Only a reply queues a frame that is not the server's own. -/
theorem growsAll_step (app : BooApp) (action : Action)
    (connects : ∀ target isLocal, action ≠ .connect target isLocal)
    (replies : ∀ target frame, action ≠ .sendOther target frame) :
    GrowsAll app (action.step app) := by
  cases action with
  | connect target isLocal => exact absurd rfl (connects target isLocal)
  | sendOther target frame => exact absurd rfl (replies target frame)
  | disconnect target =>
      intro id result held
      rw [Action.step, Keyed.value_erase] at held
      split at held
      · cases held
      · exact ⟨result, held, Grows.refl result⟩
  | output pane state pwd => exact .of_same rfl
  | childExit pane => exact .of_same rfl
  | applyEffects effects => exact growsAll_applyEffects effects
  | effectsBy target effects =>
      exact (growsAll_applyEffects effects).trans (growsAll_syncClientView target)
  | effectsAndBroadcast target effects =>
      exact ((growsAll_applyEffects effects).trans (growsAll_syncClientView target)).trans
        growsAll_broadcast
  | effectsAndTellLocal target effects =>
      exact ((growsAll_applyEffects effects).trans (growsAll_syncClientView target)).trans
        growsAll_tellLocalViewers
  | tellLocalViewers => exact growsAll_tellLocalViewers
  | broadcast => exact growsAll_broadcast
  | initializeView target => exact growsAll_updateClientView target _
  | repairView target => exact growsAll_updateClientView target _
  | syncClientView target => exact growsAll_syncClientView target
  | syncRuntimeView target subscribe => exact growsAll_syncRuntimeView target subscribe
  | createTab target spawned ack => exact growsAll_createTab target spawned ack
  | destroyTab index =>
      have removed : GrowsAll app (removedTab app index) := .of_same rfl
      exact removed.trans
        ((growsAll_updateClients fun _ client => grows_updateView _).trans growsAll_broadcast)
  | setViewedTab target tabId =>
      exact ((growsAll_updateClientView target _).trans (.of_same rfl)).trans (growsAll_tell target)
  | focusClientPane target tabId paneId =>
      show GrowsAll app (app.focusClientPane target tabId paneId)
      unfold focusClientPane
      split
      · exact ((growsAll_updateClientView target _).trans (.of_same rfl)).trans
          (growsAll_tell target)
      · exact .of_same rfl
  | assignViewedTab target tabId => exact growsAll_updateClientView target _
  | setViewport target cols rows => exact growsAll_updateClientView target _
  | ackAction target clientActionId => exact growsAll_updateClientView target _
  | changeLocally target viewId change =>
      exact (growsAll_updateClientView target _).trans (growsAll_tell target)
  | tell target => exact growsAll_tell target
  | replyTabs target => exact growsAll_replyTabs target
  | attachView target => exact (growsAll_updateClientView target _).trans (growsAll_tell target)
  | detachView target now => exact growsAll_updateClientView target _
  | renderAck target now paneId paneRevision runtimeRevision =>
      exact growsAll_updateClientView target _
  | recordInputSeq target inputSeq => exact growsAll_updateClientView target _
  | writeInput pane bytes =>
      refine .of_same ?_
      show (app.writeInput pane bytes).clients = app.clients
      unfold writeInput
      split <;> rfl
  | sendError target code message =>
      exact growsAll_updateClient target fun _ =>
        @grows_sendFrame _ (.errorMsg code message) fun _ named => by cases named
  | markDirty tabId => exact .of_same rfl
  | markActiveDirty => exact .of_same rfl
  | invalidateCache => exact .of_same rfl
  | takeDirtyTabs => exact .of_same rfl
  | publishTo target tabId => exact growsAll_publishTo target tabId
  | poll outcome =>
      show GrowsAll app (app.poll outcome)
      rw [poll_eq]
      split
      · have kept : GrowsAll app (polled app outcome) := .of_same rfl
        exact kept.trans growsAll_broadcast
      · split <;> exact .of_same rfl
  | sweepIdleViews now =>
      show GrowsAll app (app.sweepIdleViews now viewIdleTimeout)
      unfold sweepIdleViews
      split
      · exact (growsAll_updateClients fun _ client => grows_updateView _).trans growsAll_broadcast
      · exact .of_same rfl

end Clients

end Boo.Server.Outbound
