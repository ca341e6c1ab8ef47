/- module: Boo/Server/ViewValidity
   digest: When every client's view names an existing tab and lists the panes of that tab. -/

import Boo.Lib.Runs
import Boo.Server.StreamRuns
import Boo.Server.TabRuns

set_option autoImplicit false
set_option relaxedAutoImplicit false

namespace Boo.Server.ViewValidity

open Boo.Lib.KeyedList
open Boo.Lib.Runs
open Boo.Lib.Script
open Boo.Wire.Message
open Boo.Server.Frames
open Boo.Server.View
open Boo.Server.App
open Boo.Server.App.BooApp
open Boo.Server.Actions
open Boo.Server.Streams
open Boo.Server.Publishing
open Boo.Server.StreamSteps
open Boo.Server.StreamRuns
open Boo.Server.Handlers
open Boo.Server.TabRuns
open Boo.Runtime.Splits
open Boo.Runtime.Tabs
open Boo.Runtime.Tabs.TabManager
open Boo.Runtime.Ui

section Focus

variable {tabs : TabManager}

/-- As long as its focus is a leaf, a tab focuses one of its panes. -/
theorem defaultFocus_mem (ok : TabsOk tabs) {tabId : TabId} {paneId : PaneId}
    (focus : tabs.defaultFocusedPaneForTab tabId = some paneId) :
    paneId ∈ tabs.paneIdsForTab tabId := by
  rw [defaultFocusedPaneForTab, Option.map_eq_some_iff] at focus
  obtain ⟨tree, held, rfl⟩ := focus
  rw [mem_paneIdsForTab held]
  obtain ⟨index, -, held⟩ := Option.bind_eq_some_iff.mp held
  rw [tabTree, Option.map_eq_some_iff] at held
  obtain ⟨tab, atIndex, rfl⟩ := held
  exact (ok.focus tab (List.mem_of_getElem? atIndex)).focusedPane_mem

theorem focusIn_mem (ok : TabsOk tabs) {tabId : TabId} {focused : Option PaneId} {paneId : PaneId}
    (focus : tabs.focusIn tabId focused = some paneId) : paneId ∈ tabs.paneIdsForTab tabId := by
  rw [focusIn, Option.or_eq_some_iff] at focus
  rcases focus with kept | ⟨-, default⟩
  · exact of_decide_eq_true (Option.filter_eq_some_iff.mp kept).2
  · exact defaultFocus_mem ok default

/-- The focus that a change gives a view is a pane of the tab that it gives it. -/
def FocusInside (tabs : TabManager) : ViewChange → Prop
  | .aim viewed focused | .sync viewed focused _ =>
      ∀ paneId ∈ focused, ∃ tabId ∈ viewed, paneId ∈ tabs.paneIdsForTab tabId
  | _ => True

theorem focusInside_bind {viewed : Option TabId} {focus : TabId → Option PaneId}
    (inside : ∀ tabId, ∀ paneId ∈ focus tabId, paneId ∈ tabs.paneIdsForTab tabId) :
    FocusInside tabs (.aim viewed (viewed.bind focus)) := by
  intro paneId member
  obtain ⟨tabId, viewed, focused⟩ := Option.bind_eq_some_iff.mp member
  exact ⟨tabId, viewed, inside tabId paneId focused⟩

theorem focusInside_syncAim (ok : TabsOk tabs) : FocusInside tabs (syncAim tabs) := by
  unfold syncAim
  split
  · trivial
  · exact fun paneId member => ⟨_, rfl, focusIn_mem ok member⟩

theorem focusInside_change (app : BooApp) (id : ClientId) (client : ClientState) (action : Action)
    (ok : TabsOk (action.step app).tabs) :
    FocusInside (action.step app).tabs (change app id client action).view := by
  rw [tabs_step] at ok ⊢
  have synced : ∀ effects, TabsOk (UiEffect.applyAll app.runtime effects).tabs →
      FocusInside (UiEffect.applyAll app.runtime effects).tabs
        (syncAim (app.applyEffects effects).tabs) := by
    intro effects ok
    rw [tabs_applyEffects]
    exact focusInside_syncAim ok
  cases action with
  | effectsBy target effects =>
      unfold change
      dsimp only
      split
      · exact synced effects ok
      · trivial
  | effectsAndBroadcast target effects =>
      unfold change
      dsimp only
      split
      · exact synced effects ok
      · trivial
  | effectsAndTellLocal target effects =>
      unfold change
      dsimp only
      split
      · exact synced effects ok
      · trivial
  | initializeView target =>
      unfold change
      dsimp only
      split
      · exact focusInside_bind fun tabId paneId member => defaultFocus_mem ok member
      · trivial
  | repairView target =>
      unfold change
      dsimp only
      split
      · unfold repairChange
        split
        · trivial
        · split
          · exact fun paneId member => ⟨_, rfl, focusIn_mem ok member⟩
          · trivial
      · trivial
  | syncClientView target =>
      unfold change
      dsimp only
      split
      · exact focusInside_syncAim ok
      · trivial
  | syncRuntimeView target subscribe =>
      unfold change
      dsimp only
      split
      · exact @focusInside_bind _ app.tabs.activeTabId _
          fun tabId paneId member => defaultFocus_mem ok member
      · trivial
  | createTab target spawned ack =>
      unfold change
      dsimp only
      split
      · exact fun paneId member => ⟨_, rfl, defaultFocus_mem ok member⟩
      · trivial
  | destroyTab index =>
      have same : (removedTab app index).tabs = app.tabs.removeTab index := by
        show ((app.runtime.freePanes _).tabs).removeTab index = _
        rw [tabs_freePanes]
        rfl
      show FocusInside (app.tabs.removeTab index) (repairAllChange (removedTab app index)
        (some index) client.runtimeView)
      unfold repairAllChange
      rw [same]
      exact focusInside_bind fun tabId paneId member => focusIn_mem ok member
  | setViewedTab target tabId =>
      unfold change
      dsimp only
      split
      · exact fun paneId member => ⟨tabId, rfl, defaultFocus_mem ok member⟩
      · trivial
  | focusClientPane target tabId paneId =>
      unfold change
      dsimp only
      split
      · rename_i guard
        intro other member
        cases member
        exact ⟨tabId, rfl, guard.2.2⟩
      · trivial
  | assignViewedTab _ _ | setViewport _ _ _ | ackAction _ _ | recordInputSeq _ _
  | changeLocally _ _ _ | tell _ | replyTabs _ | attachView _ | detachView _ _ | publishTo _ _
  | poll _ =>
      unfold change
      dsimp only
      split <;> trivial
  | sweepIdleViews now =>
      unfold change
      dsimp only
      split
      · dsimp only
        split <;> trivial
      · trivial
  | _ => trivial

end Focus

section Validity

/-- A view without a tab is empty; a view of a tab names one that exists, lists its panes, and
focuses one of them. -/
structure ViewOk (tabs : TabManager) (stream : Stream) : Prop where
  empty : stream.viewed = none → stream.focused = none ∧ stream.visible = []
  exists_ : ∀ tabId ∈ stream.viewed, (tabs.findIndexByTabId tabId).isSome
  focused : ∀ tabId ∈ stream.viewed, ∀ paneId ∈ stream.focused, paneId ∈ tabs.paneIdsForTab tabId
  visible : ∀ tabId ∈ stream.viewed, ∀ paneId,
    paneId ∈ stream.visible ↔ paneId ∈ tabs.paneIdsForTab tabId

/-- Every client has a valid view. -/
def ViewsValid (app : BooApp) : Prop :=
  ∀ id, Holds app id (ViewOk app.tabs)

/-- The tab is still there with the same panes. -/
def SamePanes (before after : TabManager) (tabId : TabId) : Prop :=
  (after.findIndexByTabId tabId).isSome ∧
    (∀ paneId ∈ before.paneIdsForTab tabId, paneId ∈ after.paneIdsForTab tabId) ∧
      ∀ paneId ∈ after.paneIdsForTab tabId, paneId ∈ before.paneIdsForTab tabId

instance (before after : TabManager) (tabId : TabId) : Decidable (SamePanes before after tabId) :=
  have inside (ids others : List PaneId) : Decidable (∀ paneId ∈ ids, paneId ∈ others) :=
    List.decidableBAll _ ids
  @instDecidableAnd _ _ _ (@instDecidableAnd _ _ (inside _ _) (inside _ _))

/-- How an action bears on the view of a client: whether it aims the view at an existing tab or
at none, and `some false` where it changes the tab under the view or the view under its panes. -/
def bearing (id : ClientId) (entry : BooApp × Action) : Option Bool :=
  let tabs := tabsAfter entry.1 entry.2
  (entry.1.clients.value id).bind fun client =>
    match (change entry.1 id client entry.2).view with
    | .aim viewed _ | .sync viewed _ _ =>
        some (viewed.all fun tabId => (tabs.findIndexByTabId tabId).isSome)
    | .expire => some true
    | .assign tabId =>
        if client.runtimeView.viewedTabId = some tabId ∧ SamePanes entry.1.tabs tabs tabId then none
        else some false
    | _ =>
        if client.runtimeView.viewedTabId.all fun tabId =>
            decide (SamePanes entry.1.tabs tabs tabId) then none
        else some false

/-- For every client, the last action of the step that bears on its view aims it. -/
structure KeepsViewsAimed (app : BooApp) (step : Step) : Prop where
  leaves : ∀ entry ∈ actions [step] app, FocusesLeaves entry.1 entry.2
  aims : ∀ id ∈ (after [step] app).clients.order, standing (bearing id) true (actions [step] app) = true

end Validity

section Keeping

variable {app : BooApp} {id : ClientId}

theorem viewOk_newClient (tabs : TabManager) (isLocal : Bool) :
    ViewOk tabs (streamOf (newClient isLocal)) :=
  ⟨fun _ => ⟨rfl, rfl⟩, fun _ member => (by cases member), fun _ member => (by cases member),
    fun _ member => (by cases member)⟩

/-- Only the three fields of the view count. -/
theorem ViewOk.congr {tabs : TabManager} {before after : Stream} (ok : ViewOk tabs before)
    (viewed : after.viewed = before.viewed) (focused : after.focused = before.focused)
    (visible : after.visible = before.visible) : ViewOk tabs after := by
  refine ⟨?_, ?_, ?_, ?_⟩
  · rw [viewed, focused, visible]
    exact ok.empty
  · rw [viewed]
    exact ok.exists_
  · rw [viewed, focused]
    exact ok.focused
  · rw [viewed, visible]
    exact ok.visible

theorem ViewOk.samePanes {before after : TabManager} {stream : Stream} (ok : ViewOk before stream)
    (same : ∀ tabId ∈ stream.viewed, SamePanes before after tabId) : ViewOk after stream where
  empty := ok.empty
  exists_ tabId viewed := (same tabId viewed).1
  focused tabId viewed paneId focus :=
    (same tabId viewed).2.1 paneId (ok.focused tabId viewed paneId focus)
  visible tabId viewed paneId := (ok.visible tabId viewed paneId).trans
    ⟨(same tabId viewed).2.1 paneId, (same tabId viewed).2.2 paneId⟩

theorem viewOk_aim {tabs : TabManager} (stream : Stream) {viewed : Option TabId}
    {focused : Option PaneId} (inside : FocusInside tabs (.aim viewed focused))
    (there : viewed.all fun tabId => (tabs.findIndexByTabId tabId).isSome) :
    ViewOk tabs (stream.aim tabs viewed focused) := by
  cases viewed with
  | none =>
      have unfocused : focused = none := by
        cases focused with
        | none => rfl
        | some paneId =>
            obtain ⟨tabId, member, -⟩ := inside paneId rfl
            cases member
      exact ⟨fun _ => ⟨unfocused, rfl⟩, fun _ member => (by cases member),
        fun _ member => (by cases member), fun _ member => (by cases member)⟩
  | some tabId =>
      refine ⟨fun none => (by cases none), fun other member => ?_, fun other member paneId focus => ?_,
        fun other member paneId => ?_⟩
      · cases member
        exact there
      · cases member
        obtain ⟨tab, same, inTab⟩ := inside paneId focus
        cases same
        exact inTab
      · cases member
        exact Iff.rfl

/-- A view that is valid, if `ok` says so, is valid after an action if that aims it or lets it
stand. -/
theorem viewOk_action (app : BooApp) (action : Action) {ok : Bool}
    (tabsOk : TabsOk (action.step app).tabs)
    (valid : ok = true → Holds app id (ViewOk app.tabs))
    (stands : (bearing id (app, action)).getD ok = true) :
    Holds (action.step app) id (ViewOk (action.step app).tabs) := by
  intro result held
  rcases step_leads app action id held with ⟨isLocal, -, rfl⟩ | ⟨client, present, leads⟩
  · exact viewOk_newClient _ isLocal
  · obtain ⟨viewed, focused, visible⟩ := view_of_leads leads
    refine ViewOk.congr ?_ viewed focused visible
    have inside := focusInside_change app id client action tabsOk
    have letStand : (client.runtimeView.viewedTabId.all fun tabId =>
        decide (SamePanes app.tabs (action.step app).tabs tabId)) = true → ok = true →
        ViewOk (action.step app).tabs (streamOf client) := by
      intro same isOk
      refine (valid isOk client present).samePanes fun tabId member => ?_
      rw [Option.all_eq_true] at same
      exact of_decide_eq_true (same tabId member)
    rw [bearing, ← tabs_step, present, Option.bind_some] at stands
    dsimp only at stands
    cases view : (change app id client action).view with
    | aim viewed focused =>
        rw [view] at stands inside
        exact viewOk_aim (streamOf client) inside stands
    | sync viewed focused subscribe =>
        rw [view] at stands inside
        exact (viewOk_aim (streamOf client) inside stands).congr rfl rfl rfl
    | expire =>
        have emptied : ViewOk (action.step app).tabs
            ((streamOf client).aim (action.step app).tabs none none) :=
          viewOk_aim (streamOf client) (fun _ member => (by cases member)) rfl
        exact emptied.congr rfl rfl rfl
    | assign tabId =>
        rw [view] at stands
        dsimp only at stands
        split at stands
        · rename_i same
          obtain ⟨named, same⟩ := same
          refine (letStand ?_ stands).congr named.symm rfl rfl
          rw [named, Option.all_some]
          exact decide_eq_true same
        · cases stands
    | keep | touch | acknowledge _ | record _ | attach | detach =>
        rw [view] at stands
        dsimp only at stands
        split at stands
        · rename_i same
          exact (letStand same stands).congr rfl rfl rfl
        · cases stands

/-- A server handles a step to the end. -/
def handle (app : BooApp) (step : Step) : BooApp := after [step] app

/-- The tabs are in order, and so is every view. -/
structure InOrder (app : BooApp) : Prop where
  tabs : TabsOk app.tabs
  views : ViewsValid app

theorem inOrder_handle (app : BooApp) (step : Step) (inOrder : InOrder app)
    (keeps : KeepsViewsAimed app step) : InOrder (handle app step) := by
  refine ⟨tabsOk_after [step] inOrder.tabs keeps.leaves, fun id client held => ?_⟩
  have connected : id ∈ (after [step] app).clients.order :=
    (Keyed.mem_order _ id).mpr (Option.isSome_iff_exists.mpr ⟨client, held⟩)
  have valid := standing_chain Action.step tabsOk_step
    (fun app action _ ok leaves => viewOk_action app action (tabsOk_step app action ok leaves))
    (chain_actions [step] app) inOrder.tabs keeps.leaves (fun _ => inOrder.views id)
    (keeps.aims id connected)
  rw [chainEnd_actions] at valid
  exact valid client held

end Keeping

section Runs

variable (appearance : UiAppearance) (terminalFrame : Rect)
  (hasLocalGuiServer hasRemoteServer : Bool)

theorem inOrder_start :
    InOrder (start appearance terminalFrame hasLocalGuiServer hasRemoteServer) :=
  ⟨tabsOk_new, fun _ _ held => by cases held⟩

/-- Every view is valid in every state between two steps, as long as the last action of a step
that bears on a view aims it. -/
theorem viewsValid_throughout (steps : List Step)
    (aimed : Always handle KeepsViewsAimed
      (start appearance terminalFrame hasLocalGuiServer hasRemoteServer) steps) :
    Throughout handle ViewsValid
      (start appearance terminalFrame hasLocalGuiServer hasRemoteServer) steps :=
  throughout_of_invariant inOrder_handle (fun _ inOrder => inOrder.views)
    (inOrder_start appearance terminalFrame hasLocalGuiServer hasRemoteServer) aimed

instance (app : BooApp) (step : Step) : Decidable (KeepsViewsAimed app step) :=
  have : ∀ entry : BooApp × Action, Decidable (FocusesLeaves entry.1 entry.2) :=
    fun _ => inferInstanceAs (Decidable (UiEffect.AllFocusLeaves _ _))
  have : Decidable (∀ id ∈ (after [step] app).clients.order,
      standing (bearing id) true (actions [step] app) = true) := List.decidableBAll _ _
  decidable_of_iff ((∀ entry ∈ actions [step] app, FocusesLeaves entry.1 entry.2) ∧
    ∀ id ∈ (after [step] app).clients.order, standing (bearing id) true (actions [step] app) = true)
    ⟨fun both => ⟨both.1, both.2⟩, fun keeps => ⟨keeps.leaves, keeps.aims⟩⟩

theorem viewsValid_throughout_twoViewers : Throughout handle ViewsValid freshServer twoViewers :=
  viewsValid_throughout plainAppearance unitFrame true false twoViewers (by decide +kernel)

/-- A tab that does not exist is viewed as soon as a client asks for it. -/
theorem unknownTab_viewed :
    ¬ ∀ steps : List Step, Throughout handle ViewsValid freshServer steps := by
  intro all
  obtain ⟨-, -, -, -, valid⟩ :=
    all (oneViewer ++ [.command (.remoteRuntimeAction 1 none (.setViewedTab 99))])
  have viewed : ((handle (handle (handle (handle freshServer
      (.command (.newTab (some (blankPane ⟨1, live_one⟩))))) (.connect 1 true))
      (.command (.remoteConnected 1))) (.command (.remoteRuntimeAction 1 none
        (.setViewedTab 99)))).clients.value 1).map (fun client => client.runtimeView.viewedTabId) =
          some (some 99) := by
    decide +kernel
  obtain ⟨client, held, names⟩ := Option.map_eq_some_iff.mp viewed
  exact absurd ((valid 1 client held).exists_ 99 names) (by decide +kernel)

end Runs

end Boo.Server.ViewValidity
