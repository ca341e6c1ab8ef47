/- module: Boo/Server/StreamSteps
   digest: What one action of the server does to the stream of one client. -/

import Boo.Server.Actions
import Boo.Server.Publishing

set_option autoImplicit false
set_option relaxedAutoImplicit false

namespace Boo.Server.StreamSteps

open Boo.Lib.KeyedList
open Boo.Wire.Message
open Boo.Server.Frames
open Boo.Server.View
open Boo.Server.RowCache
open Boo.Server.App
open Boo.Server.App.BooApp
open Boo.Server.Actions
open Boo.Server.Streams
open Boo.Server.Publishing
open Boo.Runtime.Splits
open Boo.Runtime.Tabs
open Boo.Runtime.Ui

/-- How an action changes a client's view. -/
inductive ViewChange
  | keep
  | touch
  | aim (viewed : Option TabId) (focused : Option PaneId)
  | assign (tabId : TabId)
  | acknowledge (clientActionId : UInt64)
  | record (inputSeq : Option UInt64)
  | attach
  | detach
  | expire
  | sync (viewed : Option TabId) (focused : Option PaneId) (subscribe : Bool)
  deriving DecidableEq

def ViewChange.apply (tabs : TabManager) (stream : Stream) : ViewChange → Stream
  | keep => stream
  | touch => stream.touch
  | aim viewed focused => stream.aim tabs viewed focused
  | assign tabId => { stream with viewed := some tabId }
  | acknowledge clientActionId => { stream.touch with ackedAction := some clientActionId }
  | record inputSeq => { stream with inputSeq := inputSeq.or stream.inputSeq }
  | attach => { stream.touch with subscribed := true }
  | detach => { stream.touch with subscribed := false }
  | expire => { stream.aim tabs none none with subscribed := false }
  | sync viewed focused subscribe =>
      { stream.aim tabs viewed focused with subscribed := subscribe }

/-- What the client then hears of it. -/
inductive News
  | silent
  | told
  | toldLocally
  | published (tabId : TabId)
  deriving DecidableEq

structure Change where
  view : ViewChange
  news : News
  deriving DecidableEq

def Change.none : Change := ⟨.keep, .silent⟩

/-- The retargeting of `sync_client_view_to_active_runtime`. -/
def syncAim (tabs : TabManager) : ViewChange :=
  match tabs.activeTabId with
  | .none => .keep
  | some tabId => .aim (some tabId) (tabs.focusIn tabId (some tabs.focusedPane))

/-- Whether `publish_local_gui_runtime_state_for_active_tab` reaches the client. -/
def localNews (app : BooApp) (stream : Stream) : News :=
  if (app.tabs.activeTabId.isSome && app.hasLocalGuiServer) && stream.isLocal &&
      stream.subscribed then .toldLocally
  else .silent

def repairChange (tabs : TabManager) (view : ClientRuntimeView) : ViewChange :=
  match view.viewedTabId with
  | .none => .keep
  | some tabId =>
      if view.focusedPaneId.all (· ∉ tabs.paneIdsForTab tabId) ∨
          view.visiblePaneIds ≠ tabs.paneIdsForTab tabId then
        .aim (some tabId) (tabs.focusIn tabId view.focusedPaneId)
      else .keep

/-- The views that a closed tab leaves are repaired one by one. -/
def repairAllChange (app : BooApp) (closed : Option Nat) (view : ClientRuntimeView) : ViewChange :=
  .aim (app.repairedTab closed view)
    ((app.repairedTab closed view).bind fun tabId => app.tabs.focusIn tabId view.focusedPaneId)

def removedTab (app : BooApp) (index : Nat) : BooApp :=
  (app.forgetPaneTerminalRevisions (app.tabs.panesAt index)).updateRuntime fun rt =>
    ((rt.freePanes (app.tabs.panesAt index)).updateTabs
      (·.removeTab index)).invalidateRemoteTabsCache

def polled (app : BooApp) (outcome : PollOutcome) : BooApp :=
  { app with runtime := (pollRuntime app.runtime outcome).1 }

def pollBroadcasts (app : BooApp) (outcome : PollOutcome) : Bool :=
  (pollRuntime app.runtime outcome).2 && app.hasRuntimeStreamSubscribers &&
    (pollRuntime app.runtime outcome).1.tabs.activeTabId.isNone

def anyExpired (app : BooApp) (now : Nat) : Bool :=
  app.clients.takeAll.any fun state => state.runtimeView.isExpired now viewIdleTimeout

/-- What an action does to the stream of client `id`, which is `client` before it. -/
def change (app : BooApp) (id : ClientId) (client : ClientState) : Action → Change
  | .effectsBy by_ effects =>
      if id = by_ then ⟨syncAim (app.applyEffects effects).tabs, .silent⟩ else .none
  | .effectsAndBroadcast by_ effects =>
      ⟨if id = by_ then syncAim (app.applyEffects effects).tabs else .keep, .told⟩
  | .effectsAndTellLocal by_ effects =>
      ⟨if id = by_ then syncAim (app.applyEffects effects).tabs else .keep,
        localNews (app.applyEffects effects) (streamOf client)⟩
  | .tellLocalViewers => ⟨.keep, localNews app (streamOf client)⟩
  | .broadcast => ⟨.keep, .told⟩
  | .initializeView target =>
      if id = target then
        ⟨.aim app.tabs.activeTabId (app.tabs.activeTabId.bind app.tabs.defaultFocusedPaneForTab),
          .silent⟩
      else .none
  | .repairView target =>
      if id = target then ⟨repairChange app.tabs client.runtimeView, .silent⟩ else .none
  | .syncClientView target => if id = target then ⟨syncAim app.tabs, .silent⟩ else .none
  | .syncRuntimeView target subscribe =>
      if id = target ∧ (app.hasLocalGuiServer || app.hasRemoteServer) then
        ⟨.sync app.tabs.activeTabId
          (app.tabs.activeTabId.bind app.tabs.defaultFocusedPaneForTab) subscribe, .told⟩
      else .none
  | .createTab target spawned _ =>
      ⟨if id = target then
          .aim (some app.tabs.nextTabId)
            ((app.tabs.newTab spawned.pane).defaultFocusedPaneForTab app.tabs.nextTabId)
        else .keep, .told⟩
  | .destroyTab index =>
      ⟨repairAllChange (removedTab app index) (some index) client.runtimeView, .told⟩
  | .setViewedTab target tabId =>
      if id = target then ⟨.aim (some tabId) (app.tabs.defaultFocusedPaneForTab tabId), .told⟩
      else .none
  | .focusClientPane target tabId paneId =>
      if id = target ∧ client.runtimeView.viewedTabId = some tabId ∧
          paneId ∈ app.tabs.paneIdsForTab tabId then
        ⟨.aim (some tabId) (some paneId), .told⟩
      else .none
  | .assignViewedTab target tabId => if id = target then ⟨.assign tabId, .silent⟩ else .none
  | .setViewport target _ _ => if id = target then ⟨.touch, .silent⟩ else .none
  | .ackAction target clientActionId =>
      if id = target then ⟨.acknowledge clientActionId, .silent⟩ else .none
  | .recordInputSeq target inputSeq =>
      if id = target then ⟨.record inputSeq, .silent⟩ else .none
  | .changeLocally target _ _ => if id = target then ⟨.touch, .told⟩ else .none
  | .tell target | .replyTabs target => if id = target then ⟨.keep, .told⟩ else .none
  | .attachView target => if id = target then ⟨.attach, .told⟩ else .none
  | .detachView target _ => if id = target then ⟨.detach, .silent⟩ else .none
  | .publishTo target tabId =>
      if id = target ∧ client.runtimeView.subscribedToRuntime = true ∧
          client.runtimeView.viewedTabId = some tabId then ⟨.keep, .published tabId⟩
      else .none
  | .poll outcome => if pollBroadcasts app outcome then ⟨.keep, .told⟩ else .none
  | .sweepIdleViews now =>
      if anyExpired app now then
        ⟨if client.runtimeView.isExpired now viewIdleTimeout then .expire else .keep, .told⟩
      else .none
  | .connect _ _ | .disconnect _ | .output _ _ _ | .childExit _ | .applyEffects _
  | .renderAck _ _ _ _ _ | .writeInput _ _ | .sendError _ _ _
  | .sendOther _ _ | .markDirty _
  | .markActiveDirty | .invalidateCache | .takeDirtyTabs => .none

/-- The parts of a `UiRuntimeState` that say what its client views. -/
structure Tells (app : BooApp) (stream : Stream) (state : UiRuntimeState) : Prop where
  viewed : state.viewedTabId = stream.viewed.or app.tabs.activeTabId
  focused : state.focusedPane = ((stream.viewed.or app.tabs.activeTabId).bind fun tabId =>
    app.tabs.focusIn tabId stream.focused).getD 0
  visible : state.visiblePaneIds =
    ((stream.viewed.or app.tabs.activeTabId).map app.tabs.paneIdsForTab).getD []
  viewRevision : state.viewRevision = stream.viewRevision
  runtimeRevision : state.runtimeRevision = app.runtimeRevision
  ackedAction : state.ackedClientActionId = stream.ackedAction

/-- How a change of a stream comes out, in the state that the action leaves. -/
def Change.Leads (change : Change) (after : BooApp) (before result : Stream) : Prop :=
  let aimed := change.view.apply after.tabs before
  match change.news with
  | .silent => result = aimed
  | .told => ∃ state, Tells after aimed state ∧ result = aimed.tell state
  | .toldLocally => result = aimed.tell after.uiRuntimeState
  | .published tabId =>
      ∃ sends, Publication after aimed tabId sends ∧ result = sends.foldl Stream.send aimed

section Told

/-- The active tab always has a pane to tell of. -/
theorem activeRuntimeTabId_eq (app : BooApp) : app.activeRuntimeTabId = app.tabs.activeTabId := by
  unfold activeRuntimeTabId
  cases active : app.tabs.activeTabId with
  | none => rfl
  | some tabId =>
      rw [Option.filter_some, if_pos]
      rw [TabManager.activeTabId, Option.map_eq_some_iff] at active
      obtain ⟨tab, at_active, named⟩ := active
      rw [paneForTab, TabManager.defaultFocusedPaneForTab, Option.isSome_map]
      cases found : app.tabs.findIndexByTabId tabId with
      | none =>
          rw [TabManager.findIndexByTabId, List.findIdx?_eq_none_iff] at found
          have other := found tab (List.mem_of_getElem? at_active)
          simp [named] at other
      | some index =>
          rw [TabManager.findIndexByTabId, List.findIdx?_eq_some_iff_getElem] at found
          obtain ⟨inside, -⟩ := found
          simp [TabManager.tabTree, inside]

variable {app after : BooApp} {stream : Stream} {state : UiRuntimeState}

/-- What a client is told depends on the tabs and the revision alone. -/
theorem Tells.of_same (tells : Tells app stream state) (tabs : after.tabs = app.tabs)
    (revision : after.runtimeRevision = app.runtimeRevision) : Tells after stream state := by
  refine ⟨?_, ?_, ?_, tells.viewRevision, ?_, tells.ackedAction⟩
  · rw [tabs]
    exact tells.viewed
  · rw [tabs]
    exact tells.focused
  · rw [tabs]
    exact tells.visible
  · rw [revision]
    exact tells.runtimeRevision

/-- The subscription and the recorded screens are no part of what is told. -/
theorem tells_uiRuntimeStateForClient (app : BooApp) (id : ClientId) (client : ClientState) :
    Tells app (streamOf client) (app.uiRuntimeStateForClient id (some client.runtimeView)) := by
  refine ⟨?_, ?_, ?_, rfl, rfl, rfl⟩
  · show app.toldTab _ = _
    rw [toldTab, activeRuntimeTabId_eq]
    rfl
  · show ((app.toldTab _).bind _).getD 0 = _
    rw [toldTab, activeRuntimeTabId_eq]
    rfl
  · show ((app.toldTab _).map _).getD [] = _
    rw [toldTab, activeRuntimeTabId_eq]
    rfl

theorem Tells.of_aimed {client : ClientState} (tells : Tells app (streamOf client) state)
    (aimed : streamOf client = stream) (subscribed : Bool) :
    Tells app { stream with
      subscribed := subscribed } state :=
  aimed ▸ ⟨tells.viewed, tells.focused, tells.visible, tells.viewRevision,
    tells.runtimeRevision, tells.ackedAction⟩

/-- A `tell` of one client, as its stream sees it. -/
theorem told_of_value {id : ClientId} {client told : ClientState}
    (value : told = client.sendUiRuntimeState
      (app.uiRuntimeStateForClient id (some client.runtimeView)))
    (tabs : after.tabs = app.tabs) (revision : after.runtimeRevision = app.runtimeRevision) :
    ∃ state, Tells after (streamOf client) state ∧ streamOf told = (streamOf client).tell state :=
  ⟨_, (tells_uiRuntimeStateForClient app id client).of_same tabs revision,
    value ▸ streamOf_sendUiRuntimeState client _⟩

end Told

section Becoming

theorem becomes_broadcast (app : BooApp) (id : ClientId) :
    Becomes app app.broadcast id fun client result =>
      ∃ state, Tells app.broadcast (streamOf client) state ∧
        result = (streamOf client).tell state := by
  have tabs : Becomes app app.sendTabsToViewers.bumpRuntimeRevision id
      fun client result => result = streamOf client := by
    refine Becomes.of_map (value_updateClients app.withRemoteTabs id _) fun client => ?_
    split
    · rw [streamOf_sendUiAppearance, streamOf_sendTabList]
    · rfl
  have told : Becomes app.sendTabsToViewers.bumpRuntimeRevision app.broadcast id
      fun client result => ∃ state, Tells app.broadcast (streamOf client) state ∧
        result = (streamOf client).tell state :=
    Becomes.of_map (value_updateClients app.sendTabsToViewers.bumpRuntimeRevision id _)
      fun client => told_of_value rfl rfl rfl
  exact tabs.comp (fun between result =>
    ∃ state, Tells app.broadcast between state ∧ result = between.tell state) told
      fun client between result same next => same ▸ next

theorem becomes_tell (app : BooApp) (target id : ClientId) :
    Becomes app (app.tell target) id fun client result =>
      if id = target then ∃ state, Tells (app.tell target) (streamOf client) state ∧
        result = (streamOf client).tell state
      else result = streamOf client := by
  refine Becomes.of_map (value_updateClient app id target _) fun client => ?_
  by_cases same : id = target
  · subst same
    rw [if_pos rfl, if_pos rfl]
    exact told_of_value rfl rfl rfl
  · rw [if_neg same, if_neg same]

theorem becomes_tellLocalViewers (app : BooApp) (id : ClientId) :
    Becomes app app.tellLocalViewers id fun client =>
      (Change.mk .keep (localNews app (streamOf client))).Leads app.tellLocalViewers
        (streamOf client) := by
  unfold tellLocalViewers localNews
  by_cases shown : app.tabs.activeTabId.isSome && app.hasLocalGuiServer
  · simp only [shown, if_true, Bool.true_and]
    refine Becomes.of_map (value_updateClients app.withRemoteTabs id _) fun client => ?_
    have sameLocal : (streamOf client).isLocal = client.isLocal := rfl
    have sameSubscribed : (streamOf client).subscribed = client.runtimeView.subscribedToRuntime :=
      rfl
    rw [sameLocal, sameSubscribed]
    by_cases isLocal : client.isLocal
    · by_cases subscribed : client.runtimeView.subscribedToRuntime
      · rw [if_pos (by simp [isLocal, subscribed]), if_pos isLocal, if_pos subscribed,
          streamOf_sendTabList, streamOf_sendUiRuntimeState]
        rfl
      · rw [if_neg (by simp [subscribed]), if_pos isLocal, if_neg subscribed,
          streamOf_sendTabList]
        rfl
    · rw [if_neg (by simp [isLocal]), if_neg isLocal]
      rfl
  · simp only [shown, Bool.false_and]
    exact fun result held => ⟨result, held, rfl⟩

theorem becomes_applyEffects (app : BooApp) (effects : List UiEffect) (id : ClientId) :
    Becomes app (app.applyEffects effects) id fun client result => result = streamOf client := by
  unfold applyEffects
  induction effects generalizing app with
  | nil => exact fun result held => ⟨result, held, rfl⟩
  | cons effect effects ih =>
      have first : Becomes app (app.applyEffect effect) id
          fun client result => result = streamOf client := by
        unfold applyEffect
        cases effect with
        | reloadConfig appearance =>
            refine Becomes.of_map (value_updateClients _ id _) fun client => ?_
            split
            · exact streamOf_sendUiAppearance client appearance
            · rfl
        | _ => exact fun result held => ⟨result, held, rfl⟩
      exact first.comp (fun between result => result = between)
        (ih (app.applyEffect effect)) fun client between result same next => next.trans same

theorem becomes_syncClientView (app : BooApp) (target id : ClientId) :
    Becomes app (app.syncClientView target) id fun client result =>
      result = (if id = target then syncAim app.tabs else .keep).apply app.tabs
        (streamOf client) := by
  unfold syncClientView syncAim
  rw [activeRuntimeTabId_eq]
  cases app.tabs.activeTabId with
  | none =>
      intro result held
      refine ⟨result, held, ?_⟩
      split <;> rfl
  | some tabId =>
      refine Becomes.of_map (value_updateClientView app id target _) fun client => ?_
      split <;> rfl

/-- A client is changed and then told, and the others are left alone. -/
theorem becomes_changeAndTell (app : BooApp) (target id : ClientId)
    (update : ClientState → ClientState) :
    Becomes app ((app.updateClient target update).tell target) id fun client result =>
      if id = target then ∃ state,
        Tells ((app.updateClient target update).tell target) (streamOf (update client)) state ∧
          result = (streamOf (update client)).tell state
      else result = streamOf client := by
  have first : Becomes app (app.updateClient target update) id fun client result =>
      result = if id = target then streamOf (update client) else streamOf client := by
    refine Becomes.of_map (value_updateClient app id target update) fun client => ?_
    split <;> rfl
  refine first.comp (fun between result =>
    if id = target then ∃ state, Tells ((app.updateClient target update).tell target) between
      state ∧ result = between.tell state else result = between) (becomes_tell _ target id) ?_
  intro client between result early last
  subst early
  split
  · rename_i same
    simpa only [if_pos same] using last
  · rename_i other
    simpa only [if_neg other] using last

@[simp] theorem tabs_syncClientView (app : BooApp) (target : ClientId) :
    (app.syncClientView target).tabs = app.tabs := by
  unfold syncClientView
  split <;> rfl

@[simp] theorem hasLocalGuiServer_syncClientView (app : BooApp) (target : ClientId) :
    (app.syncClientView target).hasLocalGuiServer = app.hasLocalGuiServer := by
  unfold syncClientView
  split <;> rfl

@[simp] theorem tabs_tellLocalViewers (app : BooApp) :
    app.tellLocalViewers.tabs = app.tabs := by
  unfold tellLocalViewers
  split <;> rfl

theorem becomes_effectsBy (app : BooApp) (by_ id : ClientId) (effects : List UiEffect) :
    Becomes app ((app.applyEffects effects).syncClientView by_) id fun client result =>
      result = (if id = by_ then syncAim (app.applyEffects effects).tabs else .keep).apply
        (app.applyEffects effects).tabs (streamOf client) :=
  (becomes_applyEffects app effects id).comp (fun between result => result =
      (if id = by_ then syncAim (app.applyEffects effects).tabs else .keep).apply
        (app.applyEffects effects).tabs between)
    (becomes_syncClientView _ by_ id) fun _ _ _ same next => same ▸ next

/-- Any change of the views that is followed by a broadcast. -/
theorem Becomes.broadcast {app mid : BooApp} {id : ClientId} {view : ClientState → ViewChange}
    (led : Becomes app mid id fun client result =>
      result = (view client).apply mid.tabs (streamOf client)) :
    Becomes app mid.broadcast id fun client =>
      (Change.mk (view client) .told).Leads mid.broadcast (streamOf client) := by
  refine led.comp (fun between result => ∃ state, Tells mid.broadcast between state ∧
    result = between.tell state) (becomes_broadcast mid id) ?_
  intro client between result same next
  subst same
  exact next

theorem becomes_effectsAndTellLocal (app : BooApp) (by_ id : ClientId)
    (effects : List UiEffect) :
    Becomes app ((app.applyEffects effects).syncClientView by_).tellLocalViewers id fun client =>
      (Change.mk (if id = by_ then syncAim (app.applyEffects effects).tabs else .keep)
        (localNews (app.applyEffects effects) (streamOf client))).Leads
          ((app.applyEffects effects).syncClientView by_).tellLocalViewers (streamOf client) := by
  refine (becomes_effectsBy app by_ id effects).comp (fun between =>
    (Change.mk .keep (localNews ((app.applyEffects effects).syncClientView by_) between)).Leads
      ((app.applyEffects effects).syncClientView by_).tellLocalViewers between)
    (becomes_tellLocalViewers _ id) ?_
  intro client between result same next
  have sameNews : localNews ((app.applyEffects effects).syncClientView by_) between =
      localNews (app.applyEffects effects) (streamOf client) := by
    unfold localNews
    rw [tabs_syncClientView, hasLocalGuiServer_syncClientView, same]
    split
    · unfold syncAim
      split <;> rfl
    · rfl
  rw [sameNews] at next
  subst same
  unfold Change.Leads at next ⊢
  rw [tabs_tellLocalViewers, tabs_syncClientView] at next ⊢
  exact next

theorem streamOf_retarget (client : ClientState) (tabs : TabManager) (viewed : Option TabId)
    (focused : Option PaneId) :
    streamOf (client.updateView (·.retarget viewed focused
      ((viewed.map tabs.paneIdsForTab).getD []))) = (streamOf client).aim tabs viewed focused :=
  rfl

theorem streamOf_initializeClientView (client : ClientState) (tabs : TabManager)
    (clientId : ClientId) (viewed : Option TabId) (focused : Option PaneId) :
    streamOf (client.updateView (·.initializeClientView clientId viewed focused
      ((viewed.map tabs.paneIdsForTab).getD []))) = (streamOf client).aim tabs viewed focused :=
  rfl

theorem streamOf_repairedView (app : BooApp) (client : ClientState) :
    streamOf (client.updateView app.repairedView) =
      (repairChange app.tabs client.runtimeView).apply app.tabs (streamOf client) := by
  unfold repairedView repairChange
  cases viewed : client.runtimeView.viewedTabId with
  | none => simp [ClientState.updateView, viewed, ViewChange.apply]
  | some tabId =>
      simp only [ClientState.updateView, viewed]
      split <;> rfl

theorem streamOf_subscription (client : ClientState) (subscribe : Bool)
    (noScreen : (streamOf client).lastState = none)
    (noPanes : (streamOf client).paneStates = fun _ => none)
    (noInput : (streamOf client).inputSeq = none) :
    streamOf (client.updateView fun view =>
      if subscribe then view.subscribe else view.unsubscribe) =
        { streamOf client with
          subscribed := subscribe } := by
  change client.runtimeView.lastState = none at noScreen
  change client.runtimeView.paneStates = _ at noPanes
  change client.runtimeView.latestInputSeq = none at noInput
  cases subscribe with
  | false => simp [streamOf, ClientState.updateView, ClientRuntimeView.unsubscribe,
      ClientRuntimeView.clearStreamState, noScreen, noPanes, noInput]
  | true =>
      by_cases already : client.runtimeView.subscribedToRuntime
      · simp [streamOf, ClientState.updateView, ClientRuntimeView.subscribe, already]
      · simp [streamOf, ClientState.updateView, ClientRuntimeView.subscribe, already,
          ClientRuntimeView.clearStreamState, noScreen, noPanes, noInput]

theorem tell_lastState (stream : Stream) (state : UiRuntimeState) :
    (stream.tell state).lastState = stream.lastState := by
  unfold Stream.tell
  split <;> rfl

theorem tell_paneStates (stream : Stream) (state : UiRuntimeState) :
    (stream.tell state).paneStates = stream.paneStates := by
  unfold Stream.tell
  split <;> rfl

theorem tell_inputSeq (stream : Stream) (state : UiRuntimeState) :
    (stream.tell state).inputSeq = stream.inputSeq := by
  unfold Stream.tell
  split <;> rfl

theorem tell_subscribed (stream : Stream) (state : UiRuntimeState) (subscribed : Bool) :
    { stream.tell state with
      subscribed := subscribed } = ({ stream with
        subscribed := subscribed } : Stream).tell state := by
  unfold Stream.tell
  split <;> rfl

/-- The sends of `sync_remote_client_runtime_view`, once the view is set. -/
theorem streamOf_synced {listed : ClientState} (state : UiRuntimeState)
    (appearance : UiAppearance) (subscribe : Bool)
    (noScreen : (streamOf listed).lastState = none)
    (noPanes : (streamOf listed).paneStates = fun _ => none)
    (noInput : (streamOf listed).inputSeq = none) :
    streamOf (((listed.sendUiRuntimeState state).sendUiAppearance appearance).updateView
      fun view => if subscribe then view.subscribe else view.unsubscribe) =
        ({ streamOf listed with
          subscribed := subscribe } : Stream).tell state := by
  have sent : streamOf ((listed.sendUiRuntimeState state).sendUiAppearance appearance) =
      (streamOf listed).tell state := by
    rw [streamOf_sendUiAppearance, streamOf_sendUiRuntimeState]
  rw [streamOf_subscription _ _ (by rw [sent, tell_lastState, noScreen])
    (by rw [sent, tell_paneStates, noPanes]) (by rw [sent, tell_inputSeq, noInput]), sent,
    tell_subscribed]

theorem becomes_syncRuntimeView (app : BooApp) (target id : ClientId) (subscribe : Bool) :
    Becomes app (app.syncRuntimeView target subscribe) id fun client =>
      (change app id client (.syncRuntimeView target subscribe)).Leads
        (app.syncRuntimeView target subscribe) (streamOf client) := by
  unfold syncRuntimeView change
  by_cases served : app.hasLocalGuiServer || app.hasRemoteServer
  · simp only [served, if_true, and_true]
    by_cases same : id = target
    · subst same
      intro result held
      rw [value_updateClient, Option.map_eq_some_iff] at held
      obtain ⟨told, held, rfl⟩ := held
      rw [BooApp.tell, value_updateClient, value_updateClient, initializeView, value_updateClientView,
        Option.map_map, Option.map_map, Option.map_eq_some_iff] at held
      obtain ⟨client, before, rfl⟩ := held
      refine ⟨client, before, ?_⟩
      simp only [Function.comp_apply, if_true]
      have aimed : streamOf ((client.updateView fun view => view.initializeClientView id
          app.withRemoteTabs.activeRuntimeTabId (app.withRemoteTabs.activeRuntimeTabId.bind
            app.withRemoteTabs.tabs.defaultFocusedPaneForTab)
          ((app.withRemoteTabs.activeRuntimeTabId.map
            app.withRemoteTabs.tabs.paneIdsForTab).getD [])).sendTabList app.currentRemoteTabs) =
          (streamOf client).aim app.tabs app.tabs.activeTabId
            (app.tabs.activeTabId.bind app.tabs.defaultFocusedPaneForTab) := by
        rw [streamOf_sendTabList, streamOf_initializeClientView, activeRuntimeTabId_eq]
        rfl
      have noScreen := congrArg Stream.lastState aimed
      have noPanes := congrArg Stream.paneStates aimed
      have noInput := congrArg Stream.inputSeq aimed
      rw [streamOf_synced _ _ _ noScreen noPanes noInput, aimed]
      refine ⟨_, ?_, rfl⟩
      exact ((tells_uiRuntimeStateForClient _ id _).of_aimed aimed subscribe).of_same rfl rfl
    · have others : (((((app.withRemoteTabs.initializeView target).updateClient target
          (·.sendTabList app.currentRemoteTabs)).tell target).updateClient target fun state =>
            (state.sendUiAppearance app.runtime.appearance).updateView fun view =>
              if subscribe then view.subscribe else view.unsubscribe).clients.value id) =
          (app.clients.value id).map fun client => client := by
        simp [BooApp.tell, initializeView, same, withRemoteTabs]
      refine Becomes.of_map others fun client => ?_
      rw [if_neg same]
      rfl
  · simp only [served, Bool.false_eq_true, and_false, if_false]
    intro result held
    exact ⟨result, held, rfl⟩

theorem becomes_createTab (app : BooApp) (target id : ClientId) (spawned : Spawned)
    (sendLegacyCreatedAck : Bool) :
    Becomes app (app.createTab target spawned sendLegacyCreatedAck) id fun client =>
      (change app id client (.createTab target spawned sendLegacyCreatedAck)).Leads
        (app.createTab target spawned sendLegacyCreatedAck) (streamOf client) := by
  refine Becomes.broadcast ?_
  have shown : Becomes app
      ((app.updateRuntime fun rt => (rt.newTab spawned).invalidateRemoteTabsCache).updateClientView
        target fun view => view.retarget (some app.tabs.nextTabId)
          ((app.tabs.newTab spawned.pane).defaultFocusedPaneForTab app.tabs.nextTabId)
          ((app.tabs.newTab spawned.pane).paneIdsForTab app.tabs.nextTabId)) id
      fun client result => result = (if id = target then
        .aim (some app.tabs.nextTabId)
          ((app.tabs.newTab spawned.pane).defaultFocusedPaneForTab app.tabs.nextTabId)
        else ViewChange.keep).apply (app.tabs.newTab spawned.pane) (streamOf client) := by
    refine Becomes.of_map (value_updateClientView _ id target _) fun client => ?_
    split <;> rfl
  split
  · refine shown.comp (fun between result => result = between)
      (Becomes.of_map (value_updateClient _ id target _) fun client => ?_)
      fun client between result early last => last.trans early
    split
    · exact streamOf_sendFrame client fun _ same => by cases same
    · rfl
  · exact shown

theorem becomes_destroyTab (app : BooApp) (index : Nat) (id : ClientId) :
    Becomes app (app.destroyTab index) id fun client =>
      (change app id client (.destroyTab index)).Leads (app.destroyTab index)
        (streamOf client) := by
  refine Becomes.broadcast ?_
  refine Becomes.of_map (value_updateClients (removedTab app index) id _) fun client => ?_
  exact streamOf_retarget client (removedTab app index).tabs _ _

theorem becomes_sweepIdleViews (app : BooApp) (now : Nat) (id : ClientId) :
    Becomes app (app.sweepIdleViews now viewIdleTimeout) id fun client =>
      (change app id client (.sweepIdleViews now)).Leads
        (app.sweepIdleViews now viewIdleTimeout) (streamOf client) := by
  have asked : app.sweepIdleViews now viewIdleTimeout = if anyExpired app now then
      (app.updateClients fun _ state => state.updateView fun view =>
        if view.isExpired now viewIdleTimeout then view.expire else view).broadcast
      else app := rfl
  rw [asked]
  simp only [change]
  by_cases expired : anyExpired app now
  · simp only [expired, if_true]
    refine Becomes.broadcast (Becomes.of_map (value_updateClients app id _) fun client => ?_)
    dsimp only [ClientState.updateView]
    split <;> rfl
  · simp only [expired, if_false, Bool.false_eq_true]
    intro result held
    exact ⟨result, held, rfl⟩

theorem poll_eq (app : BooApp) (outcome : PollOutcome) :
    app.poll outcome = if pollBroadcasts app outcome then (polled app outcome).broadcast
      else if (pollRuntime app.runtime outcome).2 && app.hasRuntimeStreamSubscribers then
        (polled app outcome).updateRuntime UiRuntime.markActiveRemoteTabDirty
      else polled app outcome := by
  have split : app.poll outcome =
      if (pollRuntime app.runtime outcome).2 && app.hasRuntimeStreamSubscribers then
        if (pollRuntime app.runtime outcome).1.tabs.activeTabId.isSome then
          (polled app outcome).updateRuntime UiRuntime.markActiveRemoteTabDirty
        else (polled app outcome).broadcast
      else polled app outcome := rfl
  rw [split, pollBroadcasts]
  cases (pollRuntime app.runtime outcome).2 && app.hasRuntimeStreamSubscribers with
  | true => cases (pollRuntime app.runtime outcome).1.tabs.activeTabId <;> rfl
  | false => rfl

theorem becomes_poll (app : BooApp) (outcome : PollOutcome) (id : ClientId) :
    Becomes app (app.poll outcome) id fun client =>
      (change app id client (.poll outcome)).Leads (app.poll outcome) (streamOf client) := by
  have kept : Becomes app (polled app outcome) id fun client result =>
      result = streamOf client := fun result held => ⟨result, held, rfl⟩
  simp only [change]
  rw [poll_eq]
  by_cases broadcasts : pollBroadcasts app outcome
  · simp only [broadcasts, if_true]
    exact @Becomes.broadcast _ _ _ (fun _ => .keep) kept
  · simp only [broadcasts, Bool.false_eq_true, if_false]
    split <;> exact kept

/-- The arms that retarget one view under a new runtime revision and tell its client. -/
theorem becomes_retargetAndTell (app : BooApp) (target id : ClientId) (view : ViewChange)
    (update : ClientRuntimeView → ClientRuntimeView)
    (same : ∀ client, app.clients.value target = some client →
      streamOf (client.updateView update) = view.apply app.tabs (streamOf client)) :
    Becomes app ((app.updateClientView target update).bumpRuntimeRevision.tell target) id
      fun client => (if id = target then Change.mk view .told else .none).Leads
        ((app.updateClientView target update).bumpRuntimeRevision.tell target)
          (streamOf client) := by
  intro result held
  rw [BooApp.tell, value_updateClient] at held
  rw [show (app.updateClientView target update).bumpRuntimeRevision.clients =
    (app.updateClientView target update).clients from rfl, value_updateClientView, Option.map_map,
    Option.map_eq_some_iff] at held
  obtain ⟨client, before, rfl⟩ := held
  refine ⟨client, before, ?_⟩
  by_cases mine : id = target
  · subst mine
    have aimed := same client before
    simp only [Function.comp_apply, if_true, streamOf_sendUiRuntimeState, aimed]
    refine ⟨_, ?_, rfl⟩
    have tells := tells_uiRuntimeStateForClient
      (app.updateClientView id update).bumpRuntimeRevision id (client.updateView update)
    rw [aimed] at tells
    exact tells.of_same rfl rfl
  · simp only [Function.comp_apply, if_neg mine]
    rfl

theorem becomes_setViewedTab (app : BooApp) (target id : ClientId) (tabId : TabId) :
    Becomes app (app.setViewedTab target tabId) id fun client =>
      (change app id client (.setViewedTab target tabId)).Leads (app.setViewedTab target tabId)
        (streamOf client) :=
  becomes_retargetAndTell app target id _ _ fun _ _ => rfl

theorem becomes_focusClientPane (app : BooApp) (target id : ClientId) (tabId : TabId)
    (paneId : PaneId) :
    Becomes app (app.focusClientPane target tabId paneId) id fun client =>
      (change app id client (.focusClientPane target tabId paneId)).Leads
        (app.focusClientPane target tabId paneId) (streamOf client) := by
  have viewedOf : ∀ client, app.clients.value target = some client →
      (app.viewOf target).bind ClientRuntimeView.viewedTabId =
        client.runtimeView.viewedTabId := by
    intro client held
    rw [viewOf, held]
    rfl
  unfold focusClientPane
  split
  · rename_i admitted
    obtain ⟨viewed, member⟩ := admitted
    intro result held
    have aimed : ∀ client, app.clients.value target = some client →
        streamOf (client.updateView fun view => view.retarget view.viewedTabId (some paneId)
          (app.tabs.paneIdsForTab tabId)) =
            (ViewChange.aim (some tabId) (some paneId)).apply app.tabs (streamOf client) := by
      intro client held
      rw [viewedOf client held] at viewed
      rw [ClientState.updateView, viewed]
      rfl
    obtain ⟨client, before, leads⟩ := becomes_retargetAndTell app target id _ _ aimed result held
    refine ⟨client, before, ?_⟩
    by_cases mine : id = target
    · subst mine
      rw [viewedOf client before] at viewed
      rw [if_pos rfl] at leads
      simpa only [change, viewed, member, and_self, if_true] using leads
    · rw [if_neg mine] at leads
      simpa only [change, mine, false_and, if_false] using leads
  · rename_i refused
    intro result held
    refine ⟨result, held, ?_⟩
    simp only [change]
    rw [if_neg]
    · rfl
    · rintro ⟨rfl, viewed, member⟩
      exact refused ⟨(viewedOf result held).trans viewed, member⟩

theorem becomes_replyTabs (app : BooApp) (target id : ClientId) :
    Becomes app (app.replyTabs target) id fun client =>
      (change app id client (.replyTabs target)).Leads (app.replyTabs target)
        (streamOf client) := by
  intro result held
  rw [replyTabs, value_updateClient, value_updateClient, Option.map_map,
    Option.map_eq_some_iff] at held
  obtain ⟨client, before, rfl⟩ := held
  refine ⟨client, before, ?_⟩
  simp only [change, Function.comp_apply]
  by_cases mine : id = target
  · subst mine
    simp only [if_true, streamOf_sendUiAppearance, streamOf_sendUiRuntimeState,
      streamOf_replyTabList]
    exact ⟨_, (tells_uiRuntimeStateForClient app id client).of_same rfl rfl, rfl⟩
  · simp only [if_neg mine]
    rfl

theorem becomes_publishTo (app : BooApp) (target id : ClientId) (tabId : TabId) :
    Becomes app (app.publishTo target tabId) id fun client =>
      (change app id client (.publishTo target tabId)).Leads (app.publishTo target tabId)
        (streamOf client) := by
  by_cases viewer : Views app target tabId
  · obtain ⟨viewing, held, subscribed, viewed⟩ := viewer
    obtain ⟨sends, served, publication⟩ := served_publishTo app target tabId held subscribed viewed
    intro result atEnd
    obtain ⟨client, before, same⟩ := served.becomes id result atEnd
    refine ⟨client, before, ?_⟩
    simp only [change]
    by_cases mine : id = target
    · subst mine
      cases before.symm.trans held
      rw [if_pos rfl] at same
      rw [if_pos ⟨rfl, subscribed, viewed⟩]
      exact ⟨sends, publication.of_served served, same⟩
    · rw [if_neg mine] at same
      rw [if_neg fun all => mine all.1]
      exact same
  · intro result held
    rw [publishTo_of_not_views viewer] at held
    refine ⟨result, held, ?_⟩
    simp only [change]
    rw [if_neg]
    · rfl
    · rintro ⟨rfl, subscribed, viewed⟩
      exact viewer ⟨result, held, subscribed, viewed⟩

theorem becomes_updateClientView (app : BooApp) (target id : ClientId) (view : ViewChange)
    (update : ClientRuntimeView → ClientRuntimeView)
    (same : ∀ client, streamOf (client.updateView update) =
      view.apply app.tabs (streamOf client)) :
    Becomes app (app.updateClientView target update) id fun client =>
      (if id = target then Change.mk view .silent else .none).Leads
        (app.updateClientView target update) (streamOf client) := by
  refine Becomes.of_map (value_updateClientView app id target update) fun client => ?_
  split
  · exact same client
  · rfl

/-- A client that a change and a `tell` are for; the update is the change of its view. -/
theorem becomes_viewAndTell (app : BooApp) (target id : ClientId) (view : ViewChange)
    (update : ClientState → ClientState)
    (same : ∀ client, streamOf (update client) = view.apply app.tabs (streamOf client)) :
    Becomes app ((app.updateClient target update).tell target) id fun client =>
      (if id = target then Change.mk view .told else .none).Leads
        ((app.updateClient target update).tell target) (streamOf client) := by
  intro result held
  obtain ⟨client, before, leads⟩ := becomes_changeAndTell app target id update result held
  refine ⟨client, before, ?_⟩
  by_cases mine : id = target
  · rw [if_pos mine, same] at leads
    rw [if_pos mine]
    exact leads
  · rw [if_neg mine] at leads
    rw [if_neg mine]
    exact leads

theorem becomes_same (app : BooApp) (target id : ClientId) (update : ClientState → ClientState)
    (same : ∀ client, streamOf (update client) = streamOf client) :
    Becomes app (app.updateClient target update) id fun client =>
      Change.none.Leads (app.updateClient target update) (streamOf client) := by
  refine Becomes.of_map (value_updateClient app id target update) fun client => ?_
  split
  · exact same client
  · rfl

theorem leads_silent {after : BooApp} {tabs : TabManager} {before result : Stream} {mine : Prop}
    [Decidable mine] {view : ViewChange} (sameTabs : after.tabs = tabs)
    (same : result = (if mine then view else .keep).apply tabs before) :
    (if mine then Change.mk view .silent else .none).Leads after before result := by
  subst sameTabs
  split
  · rename_i holds
    rwa [if_pos holds] at same
  · rename_i fails
    rwa [if_neg fails] at same

theorem becomes_step (app : BooApp) (action : Action) (id : ClientId)
    (known : ∀ target isLocal, action ≠ .connect target isLocal) :
    Becomes app (action.step app) id fun client =>
      (change app id client action).Leads (action.step app) (streamOf client) := by
  have unchanged : ∀ {after : BooApp}, after.clients = app.clients →
      Becomes app after id fun client result => result = streamOf client :=
    fun same result held => ⟨result, same ▸ held, rfl⟩
  cases action with
  | connect target isLocal => exact absurd rfl (known target isLocal)
  | disconnect target =>
      intro result held
      rw [Action.step, Keyed.value_erase] at held
      split at held
      · cases held
      · exact ⟨result, held, rfl⟩
  | output pane state pwd => exact unchanged rfl
  | childExit pane => exact unchanged rfl
  | applyEffects effects => exact becomes_applyEffects app effects id
  | effectsBy by_ effects =>
      intro result held
      obtain ⟨client, before, same⟩ := becomes_effectsBy app by_ id effects result held
      refine ⟨client, before, ?_⟩
      exact leads_silent (tabs_syncClientView _ by_) same
  | effectsAndBroadcast by_ effects =>
      refine Becomes.broadcast ?_
      rw [tabs_syncClientView]
      exact becomes_effectsBy app by_ id effects
  | effectsAndTellLocal by_ effects => exact becomes_effectsAndTellLocal app by_ id effects
  | tellLocalViewers => exact becomes_tellLocalViewers app id
  | broadcast => exact @Becomes.broadcast _ _ _ (fun _ => .keep) (unchanged rfl)
  | initializeView target =>
      refine becomes_updateClientView app target id _ _ fun client => ?_
      rw [activeRuntimeTabId_eq]
      exact streamOf_initializeClientView client app.tabs target _ _
  | repairView target =>
      intro result held
      rw [Action.step, repairView, value_updateClientView, Option.map_eq_some_iff] at held
      obtain ⟨client, before, rfl⟩ := held
      refine ⟨client, before, ?_⟩
      simp only [change]
      split
      · exact streamOf_repairedView app client
      · rfl
  | syncClientView target =>
      intro result held
      obtain ⟨client, before, same⟩ := becomes_syncClientView app target id result held
      refine ⟨client, before, ?_⟩
      exact leads_silent (tabs_syncClientView app target) same
  | syncRuntimeView target subscribe => exact becomes_syncRuntimeView app target id subscribe
  | createTab target spawned ack => exact becomes_createTab app target id spawned ack
  | destroyTab index => exact becomes_destroyTab app index id
  | setViewedTab target tabId => exact becomes_setViewedTab app target id tabId
  | focusClientPane target tabId paneId =>
      exact becomes_focusClientPane app target id tabId paneId
  | assignViewedTab target tabId =>
      exact becomes_updateClientView app target id _ _ fun _ => rfl
  | setViewport target cols rows =>
      exact becomes_updateClientView app target id _ _ fun _ => rfl
  | ackAction target clientActionId =>
      exact becomes_updateClientView app target id _ _ fun _ => rfl
  | changeLocally target viewId localChange =>
      exact becomes_viewAndTell app target id .touch _ fun client =>
        streamOf_changeLocally client viewId localChange
  | tell target =>
      intro result held
      obtain ⟨client, before, leads⟩ := becomes_tell app target id result held
      refine ⟨client, before, ?_⟩
      simp only [change]
      split
      · rename_i mine
        rwa [if_pos mine] at leads
      · rename_i other
        rwa [if_neg other] at leads
  | replyTabs target => exact becomes_replyTabs app target id
  | attachView target =>
      exact becomes_viewAndTell app target id .attach _ fun _ => rfl
  | detachView target now => exact becomes_updateClientView app target id _ _ fun _ => rfl
  | renderAck target now paneId paneRevision runtimeRevision =>
      exact becomes_same app target id _ fun _ => rfl
  | recordInputSeq target inputSeq =>
      exact becomes_updateClientView app target id _ _ fun client =>
        streamOf_recordInputSeq client inputSeq
  | writeInput pane bytes =>
      refine unchanged ?_
      show (app.writeInput pane bytes).clients = app.clients
      unfold writeInput
      split <;> rfl
  | sendError target code message =>
      exact becomes_same app target id _ fun client => streamOf_sendError client code message
  | sendOther target frame =>
      exact becomes_same app target id _ fun client =>
        streamOf_sendFrame client fun _ same => by cases same
  | markDirty tabId => exact unchanged rfl
  | markActiveDirty => exact unchanged rfl
  | invalidateCache => exact unchanged rfl
  | takeDirtyTabs => exact unchanged rfl
  | publishTo target tabId => exact becomes_publishTo app target id tabId
  | poll outcome => exact becomes_poll app outcome id
  | sweepIdleViews now => exact becomes_sweepIdleViews app now id

/-- Every action leads the stream of every client as the table says. -/
theorem step_leads (app : BooApp) (action : Action) (id : ClientId) {result : ClientState}
    (held : (action.step app).clients.value id = some result) :
    (∃ isLocal, action = .connect id isLocal ∧ result = newClient isLocal) ∨
      ∃ client, app.clients.value id = some client ∧
        (change app id client action).Leads (action.step app) (streamOf client)
          (streamOf result) := by
  by_cases connects : ∃ target isLocal, action = .connect target isLocal
  · obtain ⟨target, isLocal, rfl⟩ := connects
    rw [Action.step, Keyed.value_set, Keyed.value_erase] at held
    by_cases mine : id = target
    · subst mine
      rw [if_pos rfl] at held
      exact .inl ⟨isLocal, rfl, (Option.some.inj held).symm⟩
    · rw [if_neg mine, if_neg mine] at held
      exact .inr ⟨result, held, rfl⟩
  · refine .inr (becomes_step app action id ?_ result held)
    exact fun target isLocal same => connects ⟨target, isLocal, same⟩

end Becoming

end Boo.Server.StreamSteps
