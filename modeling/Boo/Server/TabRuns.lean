/- module: Boo/Server/TabRuns
   digest: What an action leaves of the tabs, and the invariant of the tabs over a run. -/

import Boo.Server.Handlers
import Boo.Server.InputRouting

set_option autoImplicit false
set_option relaxedAutoImplicit false

namespace Boo.Server.TabRuns

open Boo.Lib.Entries
open Boo.Lib.Script
open Boo.Server.Frames
open Boo.Server.App
open Boo.Server.App.BooApp
open Boo.Server.Actions
open Boo.Server.Handlers
open Boo.Server.InputRouting
open Boo.Server.Publishing
open Boo.Runtime.Splits
open Boo.Runtime.Tabs
open Boo.Runtime.Tabs.TabManager
open Boo.Runtime.Ui

/-- What an action does to the runtime as its user interface would. -/
def effectsOf : Action → List UiEffect
  | .applyEffects effects | .effectsBy _ effects | .effectsAndBroadcast _ effects
  | .effectsAndTellLocal _ effects => effects
  | _ => []

def tabsAfter (app : BooApp) : Action → TabManager
  | .createTab _ spawned _ => app.tabs.newTab spawned.pane
  | .destroyTab index => app.tabs.removeTab index
  | .poll outcome => (pollRuntime app.runtime outcome).1.tabs
  | action => (UiEffect.applyAll app.runtime (effectsOf action)).tabs

section Steps

variable (app : BooApp)

theorem tabs_applyEffects (effects : List UiEffect) :
    (app.applyEffects effects).tabs = (UiEffect.applyAll app.runtime effects).tabs :=
  congrArg UiRuntime.tabs (runtime_applyEffects app effects)

/-- Tabs change with the effects of an action, with a tab that is created or closed, and in a
poll. -/
theorem tabs_step (action : Action) : (action.step app).tabs = tabsAfter app action := by
  refine Eq.trans (reading_step app UiRuntime.tabs (fun _ => rfl) action) ?_
  cases action with
  | destroyTab index =>
      show ((app.runtime.freePanes _).tabs).removeTab index = _
      rw [tabs_freePanes]
      rfl
  | _ => rfl

end Steps

section Ids

/-- The ids of the tabs are distinct and were handed out before. -/
structure IdsOk (tabs : TabManager) : Prop where
  distinct : (tabs.tabs.map Tab.id).Nodup
  fresh : ∀ tab ∈ tabs.tabs, tab.id < tabs.nextTabId

/-- The tab is gone: its id was handed out before. -/
structure Gone (tabs : TabManager) (tabId : TabId) : Prop where
  old : tabId < tabs.nextTabId
  absent : ∀ tab ∈ tabs.tabs, tab.id ≠ tabId

/-- What becomes of the ids: some are dropped, and new ones come from the counter. -/
inductive Renews : TabManager → TabManager → Prop
  | drop {tabs after : TabManager} (next : after.nextTabId = tabs.nextTabId)
      (ids : (after.tabs.map Tab.id).Sublist (tabs.tabs.map Tab.id)) : Renews tabs after
  | fresh (tabs : TabManager) (pane : LivePane) : Renews tabs (tabs.newTab pane)
  | trans {tabs mid after : TabManager} (first : Renews tabs mid) (later : Renews mid after) :
      Renews tabs after

variable {tabs after : TabManager} {rt : UiRuntime}

theorem IdsOk.renews (ok : IdsOk tabs) (renews : Renews tabs after) : IdsOk after := by
  induction renews with
  | drop next ids =>
      refine ⟨ok.distinct.sublist ids, fun tab member => ?_⟩
      obtain ⟨old, held, same⟩ := List.mem_map.mp (ids.subset (List.mem_map_of_mem member))
      rw [← same, next]
      exact ok.fresh old held
  | fresh tabs pane =>
      exact ⟨TabManager.ids_append_freshTab ok.distinct ok.fresh pane,
        TabManager.forall_append_freshTab (fun tab held => Nat.lt_succ_of_lt (ok.fresh tab held))
          (Nat.lt_succ_self _)⟩
  | trans first later ihFirst ihLater => exact ihLater (ihFirst ok)

/-- The counter never goes back. -/
theorem Renews.counter (renews : Renews tabs after) : tabs.nextTabId ≤ after.nextTabId := by
  induction renews with
  | drop next ids => exact next.ge
  | fresh tabs pane => exact Nat.le_succ _
  | trans first later ihFirst ihLater => exact ihFirst.trans ihLater

/-- A tab that is gone does not come back. -/
theorem Gone.renews {tabId : TabId} (gone : Gone tabs tabId) (renews : Renews tabs after) :
    Gone after tabId := by
  induction renews with
  | drop next ids =>
      refine ⟨next ▸ gone.old, fun tab member same => ?_⟩
      obtain ⟨old, held, sameId⟩ := List.mem_map.mp (ids.subset (List.mem_map_of_mem member))
      exact gone.absent old held (sameId.trans same)
  | fresh tabs pane =>
      exact ⟨Nat.lt_succ_of_lt gone.old,
        TabManager.forall_append_freshTab gone.absent (Nat.ne_of_gt gone.old)⟩
  | trans first later ihFirst ihLater => exact ihLater (ihFirst gone)

/-- The active tab is found under its id. -/
theorem IdsOk.findIndexByTabId (ok : IdsOk tabs) {tabId : TabId}
    (active : tabs.activeTabId = some tabId) : tabs.findIndexByTabId tabId = some tabs.active := by
  rw [TabManager.activeTabId, Option.map_eq_some_iff] at active
  obtain ⟨tab, at_active, named⟩ := active
  unfold TabManager.findIndexByTabId
  cases found : tabs.tabs.findIdx? (·.id = tabId) with
  | none =>
      rw [List.findIdx?_eq_none_iff] at found
      have other := found tab (List.mem_of_getElem? at_active)
      simp [named] at other
  | some index =>
      rw [List.findIdx?_eq_some_iff_getElem] at found
      obtain ⟨inside, same, -⟩ := found
      have first : (tabs.tabs.map Tab.id)[index]? = some tabId := by
        rw [List.getElem?_map, List.getElem?_eq_getElem inside]
        exact congrArg some (of_decide_eq_true same)
      have second : (tabs.tabs.map Tab.id)[tabs.active]? = some tabId := by
        rw [List.getElem?_map, at_active]
        exact congrArg some named
      have bound : index < (tabs.tabs.map Tab.id).length := by rwa [List.length_map]
      rw [(List.getElem?_inj bound ok.distinct).mp (first.trans second.symm)]

/-- Only the list of ids and the next one count. -/
theorem Renews.of_same (ids : after.tabs.map Tab.id = tabs.tabs.map Tab.id)
    (next : after.nextTabId = tabs.nextTabId) : Renews tabs after :=
  .drop next (ids ▸ List.Sublist.refl _)

theorem Renews.refl (tabs : TabManager) : Renews tabs tabs := .of_same rfl rfl

theorem renews_gotoTab (tabs : TabManager) (index : Nat) : Renews tabs (tabs.gotoTab index) := by
  unfold TabManager.gotoTab
  split
  · exact .refl tabs
  · exact .of_same rfl rfl

theorem renews_removeTab (tabs : TabManager) (index : Nat) :
    Renews tabs (tabs.removeTab index) := by
  unfold TabManager.removeTab
  split
  · exact .refl tabs
  · exact .drop rfl ((List.eraseIdx_sublist _ _).map _)

theorem renews_updateTab (tabs : TabManager) (index : Nat) {update : Tab → Tab}
    (sameId : ∀ tab, (update tab).id = tab.id) : Renews tabs (tabs.updateTab index update) :=
  .of_same (map_modify_same tabs.tabs index sameId) rfl

theorem renews_updateActiveTree (tabs : TabManager) (update : SplitTree → SplitTree) :
    Renews tabs (tabs.updateActiveTree update) :=
  renews_updateTab tabs _ fun _ => rfl

theorem renews_setRunningCommandForPane (tabs : TabManager) (paneId : PaneId)
    (runningCommand : Option (Option String)) :
    Renews tabs (tabs.setRunningCommandForPane paneId runningCommand) := by
  refine .of_same ?_ rfl
  show (tabs.tabs.map _).map Tab.id = _
  rw [List.map_map]
  refine List.map_congr_left fun tab _ => ?_
  rw [Function.comp_apply]
  split <;> rfl

theorem renews_dropTree (tabs : TabManager) (index : Nat) (tree : SplitTree) (update : Tab → Tab)
    (sameId : ∀ tab, (update tab).id = tab.id) :
    Renews tabs (if tree.len = 0 then (tabs.updateTab index update).removeTab index
      else tabs.updateTab index update) := by
  split
  · exact (renews_updateTab tabs index sameId).trans (renews_removeTab _ index)
  · exact renews_updateTab tabs index sameId

theorem renews_breakActivePaneToTab {broken : TabManager}
    (found : tabs.breakActivePaneToTab = some broken) : Renews tabs broken := by
  unfold TabManager.breakActivePaneToTab at found
  split at found
  · cases found
  · rename_i pane tree _
    cases found
    exact (renews_dropTree tabs tabs.active tree
      (fun tab => { tab with tree := tree, layout := .manual }) fun _ => rfl).trans (.fresh _ pane)

theorem renews_removePaneById {paneId : PaneId} {pane : LivePane} {removed : TabManager}
    (found : tabs.removePaneById paneId = some (pane, removed)) : Renews tabs removed := by
  rw [TabManager.removePaneById, Option.bind_eq_some_iff] at found
  obtain ⟨⟨index, leaf⟩, -, found⟩ := found
  rw [Option.map_eq_some_iff] at found
  obtain ⟨⟨pane', tree⟩, -, same⟩ := found
  cases same
  have put : Renews tabs (tabs.putTree index tree) := renews_updateTab tabs index fun _ => rfl
  split
  · exact put.trans (renews_removeTab _ index)
  · split
    · exact put.trans (renews_updateTab _ index fun _ => rfl)
    · exact put

theorem renews_handleSurfaceClosed (rt : UiRuntime) :
    Renews rt.tabs rt.handleSurfaceClosed.tabs := by
  unfold UiRuntime.handleSurfaceClosed
  split
  · rename_i pane tree _
    exact renews_dropTree rt.tabs rt.tabs.active tree _ fun _ => rfl
  · rw [UiRuntime.closeActiveTab, tabs_updateTabs, tabs_freePanes]
    exact renews_removeTab _ _

theorem renews_closePaneById (rt : UiRuntime) (paneId : PaneId) :
    Renews rt.tabs (rt.closePaneById paneId).tabs := by
  unfold UiRuntime.closePaneById
  split
  · exact .refl _
  · refine Renews.trans ?_ (renews_handleSurfaceClosed _)
    rw [tabs_updateTabs]
    exact (renews_gotoTab _ _).trans (renews_updateActiveTree _ _)

theorem renews_loadPane (rt : UiRuntime) (first : Bool) (answer : Option Spawned)
    (split : Option (Direction × ℚ)) : Renews rt.tabs (rt.loadPane first answer split).tabs := by
  unfold UiRuntime.loadPane
  split
  · exact .refl _
  · split
    · exact .fresh _ _
    · rename_i spawned _
      exact renews_updateActiveTree _ (·.splitFocusedWithRatio _ spawned.pane _)

theorem renews_foldl {I : Type} {turn : UiRuntime → I → UiRuntime}
    (renews : ∀ rt item, Renews rt.tabs (turn rt item).tabs) (items : List I) (rt : UiRuntime) :
    Renews rt.tabs (items.foldl turn rt).tabs :=
  List.foldlRecOn (motive := fun (turned : UiRuntime) => Renews rt.tabs turned.tabs) _ _ (.refl _)
    fun turned before item _ => before.trans (renews turned item)

theorem renews_loadLayout (rt : UiRuntime) (layoutTabs : List LayoutTab) :
    Renews rt.tabs (rt.loadLayout layoutTabs).tabs := by
  unfold UiRuntime.loadLayout
  refine renews_foldl (fun loaded layoutTab => ?_) _ rt
  refine Renews.trans ?_ (renews_updateTab _ _ fun _ => rfl)
  unfold UiRuntime.loadPanes
  exact renews_foldl (fun panes pane => renews_loadPane panes _ _ _) _ loaded

theorem renews_apply (rt : UiRuntime) (effect : UiEffect) :
    Renews rt.tabs (effect.apply rt).tabs := by
  cases effect with
  | newSplit direction answer =>
      show Renews rt.tabs (rt.createSplit direction answer).tabs
      unfold UiRuntime.createSplit
      split
      · exact .refl _
      · cases answer with
        | none => exact .refl _
        | some spawned =>
            rw [tabs_updateTabs]
            exact renews_updateActiveTree _ _
  | closeSurface => exact renews_handleSurfaceClosed rt
  | breakPane =>
      show Renews rt.tabs (rt.tabs.breakActivePaneToTab.getD rt.tabs)
      cases broken : rt.tabs.breakActivePaneToTab with
      | none => exact .refl _
      | some tabs => exact renews_breakActivePaneToTab broken
  | newTab answer =>
      cases answer with
      | none => exact .refl _
      | some spawned => exact .fresh rt.tabs spawned.pane
  | nextTab =>
      show Renews rt.tabs rt.tabs.nextTab
      unfold TabManager.nextTab
      split
      · exact .refl _
      · exact renews_gotoTab _ _
  | prevTab =>
      show Renews rt.tabs rt.tabs.prevTab
      unfold TabManager.prevTab
      split
      · exact .refl _
      · exact renews_gotoTab _ _
  | closeTab =>
      show Renews rt.tabs rt.closeActiveTab.tabs
      rw [UiRuntime.closeActiveTab, tabs_updateTabs, tabs_freePanes]
      exact renews_removeTab _ _
  | gotoTab index => exact renews_gotoTab _ index
  | gotoLastTab => exact renews_gotoTab _ _
  | previousTab => exact renews_gotoTab _ _
  | focusTab index => exact renews_gotoTab _ index
  | joinMarkedPane direction =>
      show Renews rt.tabs (rt.joinMarkedPane direction).tabs
      unfold UiRuntime.joinMarkedPane
      split
      · exact .refl _
      · split
        · exact .refl _
        · split
          · exact .refl _
          · rename_i pane tabs removed
            exact (renews_removePaneById removed).trans
              (renews_updateActiveTree tabs (·.splitFocused direction pane))
  | selectLayout layout =>
      refine renews_updateTab _ _ fun tab => ?_
      dsimp only
      split <;> rfl
  | cycleLayout forward =>
      refine renews_updateTab _ _ fun tab => ?_
      dsimp only
      split <;> rfl
  | setTabTitle title =>
      show Renews rt.tabs (rt.updateTabs _).markActiveRemoteTabDirty.tabs
      rw [tabs_markActiveRemoteTabDirty]
      exact renews_updateTab _ _ fun _ => rfl
  | loadLayout layoutTabs => exact renews_loadLayout rt layoutTabs
  | focusLeaf _ | resize _ | nextPane | previousPane | swapPane _ | rotatePanes _
  | rebalanceLayout | focusPane _ | focusSurface _ => exact renews_updateTab _ _ fun _ => rfl
  | setTerminalFrame _ | markPane | clearMarkedPane | reloadConfig _ | write _ | present _ =>
      exact .refl _

theorem renews_pollRunningCommands (tabs : TabManager) (panes : List PaneId)
    (reported : List (PaneId × Option String)) :
    Renews tabs (pollRunningCommands tabs panes reported) := by
  unfold pollRunningCommands
  refine List.foldlRecOn (motive := Renews tabs) _ _ ?_ fun other renews pane _ =>
    renews.trans (renews_setRunningCommandForPane other _ _)
  exact List.foldlRecOn (motive := Renews tabs) _ _ (.refl tabs) fun other renews running _ =>
    renews.trans (renews_setRunningCommandForPane other _ _)

end Ids

section TabsOk

theorem tabs_pollPanes (panes : List PaneId) (acc : UiRuntime × Bool) :
    (panes.foldl pollPane acc).1.tabs = acc.1.tabs := by
  refine List.foldlRecOn (motive := fun (other : UiRuntime × Bool) => other.1.tabs = acc.1.tabs)
    _ _ rfl ?_
  intro other same pane _
  rw [← same]
  unfold pollPane
  split
  · rfl
  · dsimp only
    split <;> rfl

theorem tabsOk_pollRunningCommands {tabs : TabManager} (ok : TabsOk tabs) (panes : List PaneId)
    (reported : List (PaneId × Option String)) :
    TabsOk (pollRunningCommands tabs panes reported) := by
  unfold pollRunningCommands
  refine List.foldlRecOn (motive := TabsOk) _ _ ?_ fun tabs ok pane _ =>
    ok.setRunningCommandForPane _ _
  exact List.foldlRecOn (motive := TabsOk) _ _ ok fun tabs ok running _ =>
    ok.setRunningCommandForPane _ _

theorem tabsOk_pollRuntime {rt : UiRuntime} (ok : TabsOk rt.tabs) (outcome : PollOutcome) :
    TabsOk (pollRuntime rt outcome).1.tabs := by
  unfold pollRuntime
  dsimp only
  refine List.foldlRecOn (motive := fun (rt : UiRuntime) => TabsOk rt.tabs) _ _ ?_
    fun rt ok pane _ => tabsOk_closePaneById ok pane
  have commanded : TabsOk (pollRunningCommands ((polledPanes rt).foldl pollPane (rt, false)).1.tabs
      (polledPanes rt) outcome.runningCommands) := by
    rw [tabs_pollPanes]
    exact tabsOk_pollRunningCommands ok _ _
  split
  · exact commanded
  · exact commanded.setActiveTitle _

/-- An action gives the focus of a tab only to a leaf of it. -/
def FocusesLeaves (app : BooApp) (action : Action) : Prop :=
  UiEffect.AllFocusLeaves app.runtime (effectsOf action)

theorem tabsOk_step (app : BooApp) (action : Action) (ok : TabsOk app.tabs)
    (leaves : FocusesLeaves app action) : TabsOk (action.step app).tabs := by
  rw [tabs_step]
  unfold tabsAfter
  split
  · exact ok.newTab _
  · exact ok.removeTab _
  · exact tabsOk_pollRuntime ok _
  · exact UiEffect.tabsOk_applyAll ok leaves

theorem renews_pollRuntime (rt : UiRuntime) (outcome : PollOutcome) :
    Renews rt.tabs (pollRuntime rt outcome).1.tabs := by
  unfold pollRuntime
  dsimp only
  refine Renews.trans ?_ (renews_foldl (fun rt pane => renews_closePaneById rt pane) _ _)
  have commanded := renews_pollRunningCommands ((polledPanes rt).foldl pollPane (rt, false)).1.tabs
    (polledPanes rt) outcome.runningCommands
  rw [tabs_pollPanes] at commanded
  rw [tabs_updateTabs]
  dsimp only
  rw [tabs_updateTabs, tabs_pollPanes]
  split
  · exact commanded
  · exact commanded.trans (renews_updateTab _ _ fun _ => rfl)

theorem renews_step (app : BooApp) (action : Action) : Renews app.tabs (action.step app).tabs := by
  rw [tabs_step]
  unfold tabsAfter
  split
  · exact .fresh _ _
  · exact renews_removeTab _ _
  · exact renews_pollRuntime _ _
  · exact renews_foldl renews_apply _ app.runtime

theorem idsOk_step (app : BooApp) (action : Action) (ok : IdsOk app.tabs) :
    IdsOk (action.step app).tabs := ok.renews (renews_step app action)

/-- In every reachable state the ids of the tabs are distinct. -/
theorem idsOk_after {app : BooApp} (steps : List Step) (ok : IdsOk app.tabs) :
    IdsOk (after steps app).tabs :=
  @after_always (fun app => IdsOk app.tabs) app
    (fun app action ok => idsOk_step app action ok) steps ok

theorem counter_after (app : BooApp) (steps : List Step) :
    app.tabs.nextTabId ≤ (after steps app).tabs.nextTabId :=
  @after_always (fun later => app.tabs.nextTabId ≤ later.tabs.nextTabId) app
    (fun later action before => before.trans (renews_step later action).counter) steps le_rfl

/-- The counter is one more than the number of tabs that were opened. If at the end of a run it is
below `2 ^ 32`, then it was all along, and so was every id: nothing has wrapped. -/
theorem ids_fit {app : BooApp} {earlier later : List Step} (ok : IdsOk app.tabs)
    (few : (after (earlier ++ later) app).tabs.nextTabId < 2 ^ 32) :
    (after earlier app).tabs.nextTabId < 2 ^ 32 ∧
      ∀ tab ∈ (after earlier app).tabs.tabs, tab.id < 2 ^ 32 := by
  rw [after_append] at few
  have counter := (counter_after (after earlier app) later).trans_lt few
  exact ⟨counter, fun tab member => ((idsOk_after earlier ok).fresh tab member).trans counter⟩

theorem tabsOk_after {app : BooApp} (steps : List Step) (ok : TabsOk app.tabs)
    (leaves : ∀ entry ∈ actions steps app, FocusesLeaves entry.1 entry.2) :
    TabsOk (after steps app).tabs :=
  @after_invariant (fun app => TabsOk app.tabs) app FocusesLeaves tabsOk_step steps ok leaves

end TabsOk

end Boo.Server.TabRuns
