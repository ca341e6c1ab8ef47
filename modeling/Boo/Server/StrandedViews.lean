/- module: Boo/Server/StrandedViews
   digest: Views of a tab that is gone: what they show, and how long they stay as they are. -/

import Boo.Runtime.KeptFocus
import Boo.Runtime.LastTab
import Boo.Server.PaneStores
import Boo.Server.PolledOutput
import Boo.Server.StreamRuns

set_option autoImplicit false
set_option relaxedAutoImplicit false

namespace Boo.Server.StrandedViews

open Boo.Lib.KeyedList
open Boo.Lib.Script
open Boo.Lib.Script.Program
open Boo.Wire.Message
open Boo.Server.Frames
open Boo.Server.View
open Boo.Server.App
open Boo.Server.App.BooApp
open Boo.Server.Actions
open Boo.Server.Streams
open Boo.Server.Publishing
open Boo.Server.StreamSteps
open Boo.Server.StreamRuns
open Boo.Server.Handlers
open Boo.Server.Commands
open Boo.Server.InputRouting
open Boo.Server.PolledOutput
open Boo.Server.TabRuns
open Boo.Server.PaneStores
open Boo.Runtime.Splits
open Boo.Runtime.Leaves
open Boo.Runtime.Tabs
open Boo.Runtime.TabOps
open Boo.Runtime.PaneCount
open Boo.Runtime.ClosedPanes
open Boo.Runtime.Exits
open Boo.Runtime.KeptFocus
open Boo.Runtime.LastTab
open Boo.Runtime.Ui

/-- The panes that the backend answers an action with. -/
def spawnedIn : Action → List PaneId
  | .createTab _ spawned _ => [spawned.pane.val]
  | action => (effectsOf action).flatMap spawnedBy

section Runtimes

variable {rt : UiRuntime} {app : BooApp} {paneId : PaneId}

theorem live_applyAll (sound : AllTrees Sound rt.tabs) {effects : List UiEffect}
    (live : paneId ∈ livePanes (UiEffect.applyAll rt effects).tabs) :
    paneId ∈ livePanes rt.tabs ∨ paneId ∈ effects.flatMap spawnedBy := by
  induction effects generalizing rt with
  | nil => exact .inl live
  | cons effect effects ih =>
      rw [List.flatMap_cons, List.mem_append]
      rcases ih (spares_effect sound effect).sound live with early | late
      · exact (live_effect sound effect paneId early).imp id .inl
      · exact .inr (.inr late)

theorem terminals_applyAll_none {effects : List UiEffect}
    (fresh : paneId ∉ effects.flatMap spawnedBy) (none : rt.terminals paneId = none) :
    (UiEffect.applyAll rt effects).terminals paneId = Option.none := by
  induction effects generalizing rt with
  | nil => exact none
  | cons effect effects ih =>
      rw [List.flatMap_cons, List.mem_append, not_or] at fresh
      exact ih fresh.2 (terminals_effect_none effect fresh.1 none)

theorem livePanes_bareTabs (tabs : TabManager) : livePanes (bareTabs tabs) = livePanes tabs := by
  refine congrArg (List.map Subtype.val) ?_
  show (tabs.tabs.map bareTab).flatMap _ = tabs.tabs.flatMap _
  rw [List.flatMap_map]
  rfl

theorem live_closePanes (sound : AllTrees Sound rt.tabs) (panes : List PaneId)
    (live : paneId ∈ livePanes (panes.foldl UiRuntime.closePaneById rt).tabs) :
    paneId ∈ livePanes rt.tabs := by
  induction panes generalizing rt with
  | nil => exact live
  | cons pane panes ih =>
      have left := ih (spares_closePaneById sound pane).sound live
      rw [tabs_closePaneById] at left
      exact (@live_apply rt.tabs sound (.closePane pane) not_false rfl paneId left).elim id
        fun none => by cases none

theorem activeOk_closePanes (ok : ActiveOk rt.tabs) (panes : List PaneId) :
    ActiveOk (panes.foldl UiRuntime.closePaneById rt).tabs := by
  refine List.foldlRecOn (motive := fun (rt : UiRuntime) => ActiveOk rt.tabs) _ _ ok ?_
  intro closed okClosed pane _
  rw [tabs_closePaneById]
  exact @activeOk_apply closed.tabs (.closePane pane) okClosed

/-- A poll does to the tabs what the closing of the exited panes does, but for the labels. -/
theorem bareTabs_pollRuntime (outcome : PollOutcome) :
    bareTabs (pollRuntime rt outcome).1.tabs = bareTabs (closeExited rt).tabs :=
  congrArg UiRuntime.tabs (bare_pollRuntime outcome)

theorem live_pollRuntime (sound : AllTrees Sound rt.tabs) (outcome : PollOutcome)
    (live : paneId ∈ livePanes (pollRuntime rt outcome).1.tabs) : paneId ∈ livePanes rt.tabs := by
  rw [← livePanes_bareTabs, bareTabs_pollRuntime, livePanes_bareTabs] at live
  exact live_closePanes sound _ live

theorem activeOk_bareTabs {tabs : TabManager} : ActiveOk (bareTabs tabs) ↔ ActiveOk tabs := by
  unfold ActiveOk
  show (tabs.tabs.map bareTab ≠ [] → tabs.active < (tabs.tabs.map bareTab).length) ↔ _
  rw [List.length_map, ne_eq, List.map_eq_nil_iff]

theorem activeOk_pollRuntime (ok : ActiveOk rt.tabs) (outcome : PollOutcome) :
    ActiveOk (pollRuntime rt outcome).1.tabs := by
  rw [← activeOk_bareTabs, bareTabs_pollRuntime, activeOk_bareTabs]
  exact activeOk_closePanes ok _

theorem terminals_pollRuntime_none (outcome : PollOutcome) (none : rt.terminals paneId = none) :
    (pollRuntime rt outcome).1.terminals paneId = Option.none := by
  have same : ((pollRuntime rt outcome).1.terminals paneId).map bareTerminal =
      ((closeExited rt).terminals paneId).map bareTerminal :=
    congrFun (congrArg UiRuntime.terminals (bare_pollRuntime outcome)) paneId
  rw [closeExited, terminals_frees_none (frees_closePanes _) none, Option.map_none,
    Option.map_eq_none_iff] at same
  exact same

theorem live_step (sound : AllTrees Sound app.tabs) (action : Action)
    (live : paneId ∈ livePanes (action.step app).tabs) :
    paneId ∈ livePanes app.tabs ∨ paneId ∈ spawnedIn action := by
  rw [tabs_step] at live
  cases action with
  | createTab client spawned ack =>
      exact (@grows_newTab app.tabs spawned.pane).panes paneId live
  | destroyTab index =>
      exact (@live_apply app.tabs sound (.removeTab index) not_false rfl paneId live).imp id
        fun none => by cases none
  | poll outcome => exact .inl (live_pollRuntime sound outcome live)
  | _ => exact live_applyAll sound live

theorem activeOk_step (ok : ActiveOk app.tabs) (action : Action) :
    ActiveOk (action.step app).tabs := by
  rw [tabs_step]
  cases action with
  | createTab client spawned ack => exact activeOk_newTab _ _
  | destroyTab index => exact ok.removeTab index
  | poll outcome => exact activeOk_pollRuntime ok outcome
  | _ => exact activeOk_applyAll ok _

theorem terminals_updateTerminal_none (pane : PaneId) (update : Terminal → Terminal)
    (none : rt.terminals paneId = none) :
    (updateTerminal pane update rt).terminals paneId = Option.none := by
  by_cases same : paneId = pane
  · subst same
    exact (Function.update_self _ _ _).trans (by rw [none, Option.map_none])
  · exact (Function.update_of_ne same _ _).trans none

/-- A pane that the backend does not have stays away unless it is spawned. -/
theorem terminals_step_none (action : Action) (fresh : paneId ∉ spawnedIn action)
    (none : app.runtime.terminals paneId = none) :
    (action.step app).runtime.terminals paneId = Option.none := by
  rw [reading_step app (·.terminals paneId) (fun _ => rfl)]
  cases action with
  | output pane state pwd | childExit pane => exact terminals_updateTerminal_none pane _ none
  | applyEffects effects | effectsBy client effects | effectsAndBroadcast client effects
  | effectsAndTellLocal client effects => exact terminals_applyAll_none fresh none
  | createTab client spawned ack =>
      refine (terminals_register fun same => fresh ?_).trans none
      rw [same]
      exact List.mem_singleton_self _
  | destroyTab index =>
      have freed := terminals_frees_none (frees_freePanes (app.tabs.panesAt index)) none
      exact freed
  | poll outcome => exact terminals_pollRuntime_none outcome none
  | _ => exact none

end Runtimes

section Rooms

open TabManager

variable {tabs : TabManager} {tabId : TabId} {index : Nat} {paneId : PaneId}

theorem held_of_findIndexByTabId (indexed : tabs.findIndexByTabId tabId = some index) :
    ∃ tab, tabs.tabs[index]? = some tab ∧ tab.id = tabId := by
  rw [TabManager.findIndexByTabId, List.findIdx?_eq_some_iff_getElem] at indexed
  obtain ⟨inside, same, -⟩ := indexed
  exact ⟨_, List.getElem?_eq_getElem inside, of_decide_eq_true same⟩

/-- A tree that shows the pane takes the focus to it. -/
theorem focusOk_of_mem {tree : SplitTree} (listed : paneId ∈ tree.allPanes.map Subtype.val) :
    ((tree.setFocusToPane paneId).getD tree).FocusOk := by
  cases held : tree.root with
  | none => simp [SplitTree.allPanes, held] at listed
  | some root =>
      rw [SplitTree.mem_paneIds held] at listed
      obtain ⟨leaf, found⟩ := Option.isSome_iff_exists.mp (findLeafIdByPane_isSome listed)
      have set : tree.setFocusToPane paneId = some (tree.setFocus leaf) := by
        rw [SplitTree.setFocusToPane, held, Option.bind_some, found]
        rfl
      rw [set]
      exact SplitTree.focusOk_setFocusToPane set

/-- The only tab, once a pane of it has the focus. -/
theorem tabsOk_focused (ids : IdsOk tabs) (alone : tabs.tabs.length = 1)
    (indexed : tabs.findIndexByTabId tabId = some index)
    (listed : paneId ∈ tabs.paneIdsForTab tabId) :
    TabsOk ((tabs.gotoTab index).updateActiveTree fun tree =>
      (tree.setFocusToPane paneId).getD tree) := by
  obtain ⟨tab, held, -⟩ := held_of_findIndexByTabId indexed
  have inside := (List.getElem?_eq_some_iff.mp held).1
  have tree : (tabs.findIndexByTabId tabId).bind tabs.tabTree = some tab.tree := by
    rw [indexed, Option.bind_some, tabTree, held]
    rfl
  rw [mem_paneIdsForTab tree] at listed
  have gone : (tabs.gotoTab index).tabs = tabs.tabs ∧ (tabs.gotoTab index).active = index ∧
      (tabs.gotoTab index).nextTabId = tabs.nextTabId := by
    unfold TabManager.gotoTab
    split
    · exact ⟨rfl, by omega, rfl⟩
    · exact ⟨rfl, rfl, rfl⟩
  obtain ⟨same, active, next⟩ := gone
  have except : TabsOkExcept (tabs.gotoTab index) index := by
    refine ⟨fun other tab at_other different => ?_, by rw [active, same]; omega,
      by rw [same]; exact ids.distinct, fun tab member => ?_⟩
    · have short := (List.getElem?_eq_some_iff.mp at_other).1
      rw [same] at short
      omega
    · rw [next]
      exact ids.fresh tab (same ▸ member)
  rw [TabManager.updateActiveTree, TabManager.updateTree, active]
  refine TabsOkExcept.whole (except.updateTab fun _ => rfl) fun focused at_index => ?_
  rw [TabManager.updateTab, List.getElem?_modify_eq, same, held] at at_index
  cases at_index
  exact focusOk_of_mem listed

/-- A tab that is found by its id, once a pane of it has the focus, takes a join. -/
theorem roomy_focused {rt : UiRuntime} (ids : IdsOk rt.tabs) (sound : AllTrees Sound rt.tabs)
    (indexed : rt.tabs.findIndexByTabId tabId = some index)
    (listed : paneId ∈ rt.tabs.paneIdsForTab tabId) :
    Roomy (UiEffect.applyAll rt [.focusTab index, .focusPane paneId]).tabs := by
  have quiet : ∀ effect ∈ ([.focusTab index, .focusPane paneId] : List UiEffect),
      removes effect = false := by simp [removes]
  have first := (spares_effect sound (.focusTab index)).sound
  have size := length_applyAll sound quiet
  refine ⟨(spares_effect first (.focusPane paneId)).sound, ?_⟩
  by_cases several : 2 ≤ rt.tabs.tabs.length
  · exact .inl (several.trans size)
  · obtain ⟨tab, held, -⟩ := held_of_findIndexByTabId indexed
    have inside := (List.getElem?_eq_some_iff.mp held).1
    exact .inr ⟨tabsOk_focused ids (by omega) indexed listed,
      List.ne_nil_of_length_pos (by omega)⟩

theorem mem_livePanes_of_tab {tabs : TabManager} {paneId : PaneId}
    (listed : paneId ∈ tabs.paneIdsForTab tabId) : paneId ∈ livePanes tabs := by
  cases held : (tabs.findIndexByTabId tabId).bind tabs.tabTree with
  | none => simp [TabManager.paneIdsForTab, held] at listed
  | some tree =>
      rw [TabManager.mem_paneIdsForTab held] at listed
      obtain ⟨at_, -, holds⟩ := Option.bind_eq_some_iff.mp held
      rw [TabManager.tabTree, Option.map_eq_some_iff] at holds
      obtain ⟨tab, at_index, rfl⟩ := holds
      obtain ⟨pane, inside, rfl⟩ := List.mem_map.mp listed
      exact List.mem_map_of_mem (List.mem_flatMap.mpr ⟨tab, List.mem_of_getElem? at_index, inside⟩)

end Rooms

/-- The panes in tabs are among those that the backend has answered with. -/
structure Housed (known : List PaneId) (app : BooApp) : Prop where
  ids : IdsOk app.tabs
  sound : AllTrees Sound app.tabs
  active : ActiveOk app.tabs
  live : ∀ paneId ∈ livePanes app.tabs, paneId ∈ known

/-- The view names a tab that is gone, and the pane that its screen would come from is gone too. -/
structure Stranded (known : List PaneId) (app : BooApp) (stream : Stream) : Prop where
  tab : ∃ tabId, stream.viewed = some tabId ∧ Gone app.tabs tabId
  pane : ∀ paneId ∈ stream.focused, paneId ∈ stream.visible →
    paneId ∈ known ∧ app.runtime.terminals paneId = none

/-- An action spawns no pane of the list. -/
def SpawnsOthers (known : List PaneId) (action : Action) : Prop :=
  ∀ paneId ∈ spawnedIn action, paneId ∉ known

section Views

variable {known : List PaneId} {app after : BooApp} {stream result : Stream}

theorem Housed.mono {more : List PaneId} (housed : Housed known app) (sub : known ⊆ more) :
    Housed more app :=
  ⟨housed.ids, housed.sound, housed.active, fun paneId live => sub (housed.live paneId live)⟩

theorem Housed.step (housed : Housed known app) {action : Action}
    (listed : ∀ paneId ∈ spawnedIn action, paneId ∈ known) : Housed known (action.step app) := by
  refine ⟨idsOk_step app action housed.ids, (spares_step housed.sound action).sound,
    activeOk_step housed.active action, fun paneId live => ?_⟩
  exact (live_step housed.sound action live).elim (housed.live paneId) (listed paneId)

theorem Housed.final {R : Type} {handler : Handler R} (housed : Housed known app) :
    Housed (known ++ (trace Action.step handler app).flatMap fun entry => spawnedIn entry.2)
      (final Action.step handler app) := by
  have kept := @final_invariant _ _ R Action.step
    (Housed (known ++ (trace Action.step handler app).flatMap fun entry => spawnedIn entry.2))
    (fun _ action => ∀ paneId ∈ spawnedIn action, paneId ∈ known ++
      (trace Action.step handler app).flatMap fun entry => spawnedIn entry.2)
    (fun _ _ housed listed => housed.step listed) handler app
  refine kept (housed.mono (List.subset_append_left _ _)) fun entry member paneId spawned => ?_
  exact List.mem_append_right _ (List.mem_flatMap.mpr ⟨entry, member, spawned⟩)

theorem spawnedIn_focusTarget (index : Nat) (pane : Option PaneId) :
    spawnedIn (focusTarget index pane) = [] := by
  cases pane <;> rfl

theorem housed_ensured (housed : Housed known app) (client : ClientId) :
    Housed known (ensured app client) := by
  have same := tabs_ensured app client
  exact ⟨same ▸ housed.ids, same ▸ housed.sound, same ▸ housed.active, same ▸ housed.live⟩

theorem Stranded.mono {more : List PaneId} (stranded : Stranded known app stream)
    (sub : known ⊆ more) : Stranded more app stream :=
  ⟨stranded.tab, fun paneId focused visible =>
    (stranded.pane paneId focused visible).imp (fun listed => sub listed) id⟩

/-- A stranded view that stays as it is stays stranded. -/
theorem Stranded.step (stranded : Stranded known app stream) {action : Action}
    (others : SpawnsOthers known action) (viewed : result.viewed = stream.viewed)
    (focused : result.focused = stream.focused) (visible : result.visible = stream.visible) :
    Stranded known (action.step app) result := by
  obtain ⟨tabId, named, gone⟩ := stranded.tab
  refine ⟨⟨tabId, viewed.trans named, gone.renews (renews_step app action)⟩, ?_⟩
  intro paneId focus listed
  rw [focused] at focus
  rw [visible] at listed
  obtain ⟨old, none⟩ := stranded.pane paneId focus listed
  exact ⟨old, terminals_step_none action (fun spawned => others paneId spawned old) none⟩

theorem findIndexByTabId_of_gone {tabs : TabManager} {tabId : TabId} (gone : Gone tabs tabId) :
    tabs.findIndexByTabId tabId = none := by
  rw [TabManager.findIndexByTabId, List.findIdx?_eq_none_iff]
  exact fun tab member => decide_eq_false (gone.absent tab member)

theorem paneIdsForTab_of_gone {tabs : TabManager} {tabId : TabId} (gone : Gone tabs tabId) :
    tabs.paneIdsForTab tabId = [] := by
  rw [TabManager.paneIdsForTab, findIndexByTabId_of_gone gone]
  rfl

/-- A publication has no screen for a stranded view. -/
theorem Stranded.unshown (stranded : Stranded known app stream) {tabId : TabId}
    (viewed : stream.viewed = some tabId) {sends : List Send}
    (publication : Publication app stream tabId sends) (source : PaneId) (state : Grid) :
    .screen source state ∉ sends := by
  intro member
  obtain ⟨other, named, gone⟩ := stranded.tab
  cases viewed.symm.trans named
  have focus := publication.focus source state member
  have undefined : app.tabs.defaultFocusedPaneForTab tabId = none := by
    rw [TabManager.defaultFocusedPaneForTab, findIndexByTabId_of_gone gone]
    rfl
  rw [focusSent, undefined, Option.or_none, Option.filter_eq_some_iff] at focus
  obtain ⟨focused, visible⟩ := focus
  obtain ⟨-, none⟩ := stranded.pane source focused (of_decide_eq_true visible)
  obtain ⟨terminal, held, -⟩ := publication.current _ member
  cases none.symm.trans held

end Views

end Boo.Server.StrandedViews
