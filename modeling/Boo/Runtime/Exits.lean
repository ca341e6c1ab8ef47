/- module: Boo/Runtime/Exits
   digest: What the closing of panes looks at, and what it leaves of their terminals. -/

import Boo.Runtime.Ui
import Mathlib.Data.List.InsertIdx

set_option autoImplicit false
set_option relaxedAutoImplicit false

namespace Boo.Runtime.Exits

open Boo.Server.Frames
open Boo.Runtime.Splits
open Boo.Runtime.Tabs
open Boo.Runtime.Tabs.TabManager
open Boo.Runtime.Ui

/-- A tab without the labels that a poll writes. -/
def bareTab (tab : Tab) : Tab :=
  { tab with
    title := ""
    runningCommand := none }

def bareTabs (tabs : TabManager) : TabManager := { tabs with tabs := tabs.tabs.map bareTab }

def bareTerminal (terminal : Terminal) : Terminal := { terminal with polled := none }

/-- The runtime without what a poll writes before it closes panes. -/
def bare (rt : UiRuntime) : UiRuntime :=
  { rt with
    tabs := bareTabs rt.tabs
    terminals := fun paneId => (rt.terminals paneId).map bareTerminal
    presentation := 0 }

section Tabs

variable (tabs : TabManager)

theorem tabTree_bareTabs (index : Nat) : (bareTabs tabs).tabTree index = tabs.tabTree index := by
  show ((tabs.tabs.map bareTab)[index]?).map Tab.tree = _
  rw [List.getElem?_map, Option.map_map]
  rfl

theorem activeTree_bareTabs : (bareTabs tabs).activeTree = tabs.activeTree :=
  tabTree_bareTabs tabs tabs.active

theorem panesAt_bareTabs (index : Nat) : (bareTabs tabs).panesAt index = tabs.panesAt index := by
  unfold TabManager.panesAt
  rw [tabTree_bareTabs]

theorem activeTabId_bareTabs : (bareTabs tabs).activeTabId = tabs.activeTabId := by
  show ((tabs.tabs.map bareTab)[tabs.active]?).map Tab.id = _
  rw [List.getElem?_map, Option.map_map]
  rfl

theorem findPaneLocation_bareTabs (paneId : PaneId) :
    (bareTabs tabs).findPaneLocation paneId = tabs.findPaneLocation paneId := by
  show (tabs.tabs.map bareTab).zipIdx.findSome? _ = tabs.tabs.zipIdx.findSome? _
  rw [List.zipIdx_map, List.findSome?_map]
  rfl

theorem bareTabs_gotoTab (index : Nat) :
    bareTabs (tabs.gotoTab index) = (bareTabs tabs).gotoTab index := by
  have same : (bareTabs tabs).tabs.length = tabs.tabs.length := List.length_map _
  unfold TabManager.gotoTab
  rw [same]
  by_cases stays : tabs.tabs.length ≤ index ∨ index = tabs.active
  · rw [if_pos stays, if_pos (show tabs.tabs.length ≤ index ∨ index = (bareTabs tabs).active from
      stays)]
  · rw [if_neg stays, if_neg (show ¬(tabs.tabs.length ≤ index ∨ index = (bareTabs tabs).active)
      from stays)]
    rfl

theorem bareTabs_updateTree (index : Nat) (update : SplitTree → SplitTree) :
    bareTabs (tabs.updateTree index update) = (bareTabs tabs).updateTree index update := by
  have moved : (tabs.tabs.modify index fun tab => { tab with tree := update tab.tree }).map bareTab
      = (tabs.tabs.map bareTab).modify index fun tab => { tab with tree := update tab.tree } := by
    apply List.ext_getElem?
    intro other
    rw [List.getElem?_map, List.getElem?_modify, List.getElem?_modify, List.getElem?_map]
    cases tabs.tabs[other]? with
    | none => rfl
    | some tab =>
        by_cases same : index = other
        · simp [same, bareTab]
        · simp [same]
  exact congrArg (fun list => ({ tabs with tabs := list } : TabManager)) moved

theorem bareTabs_updateActiveTree (update : SplitTree → SplitTree) :
    bareTabs (tabs.updateActiveTree update) = (bareTabs tabs).updateActiveTree update :=
  bareTabs_updateTree tabs tabs.active update

theorem bareTabs_removeTab (index : Nat) :
    bareTabs (tabs.removeTab index) = (bareTabs tabs).removeTab index := by
  have same : (bareTabs tabs).tabs.length = tabs.tabs.length := List.length_map _
  unfold TabManager.removeTab
  rw [same]
  split
  · rfl
  · have moved : (tabs.tabs.eraseIdx index).map bareTab = (tabs.tabs.map bareTab).eraseIdx index :=
      (List.eraseIdx_map bareTab tabs.tabs index).symm
    exact congrArg (fun list => ({ tabs with
      tabs := list
      active := activeAfterRemoval tabs.active index (tabs.tabs.length - 1) } : TabManager)) moved

end Tabs

section Closing

variable (rt : UiRuntime)

theorem bare_freePane (pane : LivePane) : bare (rt.freePane pane) = (bare rt).freePane pane := by
  have freed : (fun paneId => (Function.update rt.terminals pane.val none paneId).map bareTerminal)
      = Function.update (fun paneId => (rt.terminals paneId).map bareTerminal) pane.val none :=
    Function.comp_update (Option.map bareTerminal) rt.terminals pane.val none
  exact congrArg (fun terminals => ({ bare rt with terminals := terminals } : UiRuntime)) freed

theorem bare_freePanes (panes : List LivePane) :
    bare (rt.freePanes panes) = (bare rt).freePanes panes := by
  unfold UiRuntime.freePanes
  induction panes generalizing rt with
  | nil => rfl
  | cons pane panes ih => rw [List.foldl_cons, List.foldl_cons, ih, bare_freePane]

theorem bare_updateTabs {update : TabManager → TabManager}
    (commutes : bareTabs (update rt.tabs) = update (bareTabs rt.tabs)) :
    bare (rt.updateTabs update) = (bare rt).updateTabs update :=
  congrArg (fun tabs => ({ bare rt with tabs := tabs } : UiRuntime)) commutes

theorem bare_closeActiveTab : bare rt.closeActiveTab = (bare rt).closeActiveTab := by
  unfold UiRuntime.closeActiveTab
  rw [bare_updateTabs _ (bareTabs_removeTab _ _), bare_freePanes]
  show ((bare rt).freePanes _).updateTabs _ = ((bare rt).freePanes _).updateTabs _
  rw [show (bare rt).tabs.panesAt (bare rt).tabs.active = rt.tabs.panesAt rt.tabs.active from
    panesAt_bareTabs rt.tabs rt.tabs.active]
  rfl

theorem bare_handleSurfaceClosed : bare rt.handleSurfaceClosed = (bare rt).handleSurfaceClosed := by
  have sameTree : (bare rt).tabs.activeTree = rt.tabs.activeTree := activeTree_bareTabs rt.tabs
  unfold UiRuntime.handleSurfaceClosed
  rw [sameTree]
  cases rt.tabs.activeTree.bind SplitTree.removeFocused with
  | none => exact bare_closeActiveTab rt
  | some removed =>
      obtain ⟨pane, tree⟩ := removed
      dsimp only
      rw [← bare_freePane]
      refine bare_updateTabs _ ?_
      split
      · rw [bareTabs_removeTab, bareTabs_updateTree]
        rfl
      · exact bareTabs_updateTree _ _ _

theorem bare_closePaneById (paneId : PaneId) :
    bare (rt.closePaneById paneId) = (bare rt).closePaneById paneId := by
  have found : (bare rt).tabs.findPaneLocation paneId = rt.tabs.findPaneLocation paneId :=
    findPaneLocation_bareTabs rt.tabs paneId
  unfold UiRuntime.closePaneById
  rw [found]
  cases rt.tabs.findPaneLocation paneId with
  | none => rfl
  | some location =>
      obtain ⟨index, leaf⟩ := location
      dsimp only
      rw [bare_handleSurfaceClosed]
      congr 1
      refine bare_updateTabs _ ?_
      rw [bareTabs_updateActiveTree, bareTabs_gotoTab]

theorem bare_closePanes (panes : List PaneId) :
    bare (panes.foldl UiRuntime.closePaneById rt) =
      panes.foldl UiRuntime.closePaneById (bare rt) := by
  induction panes generalizing rt with
  | nil => rfl
  | cons paneId panes ih => rw [List.foldl_cons, List.foldl_cons, ih, bare_closePaneById]

/-- Closing panes frees terminals, changes no other and marks nothing. -/
structure Frees (after : UiRuntime) : Prop where
  terminals : ∀ paneId, after.terminals paneId = rt.terminals paneId ∨
    after.terminals paneId = none
  dirty : after.dirtyRemoteTabs = rt.dirtyRemoteTabs

variable {rt}

theorem Frees.refl (rt : UiRuntime) : Frees rt rt := ⟨fun _ => .inl rfl, rfl⟩

theorem Frees.trans {mid after : UiRuntime} (first : Frees rt mid) (next : Frees mid after) :
    Frees rt after := by
  refine ⟨fun paneId => ?_, next.dirty.trans first.dirty⟩
  rcases next.terminals paneId with kept | gone
  · rw [kept]
    exact first.terminals paneId
  · exact .inr gone

theorem frees_updateTabs (update : TabManager → TabManager) : Frees rt (rt.updateTabs update) :=
  ⟨fun _ => .inl rfl, rfl⟩

theorem frees_freePane (pane : LivePane) : Frees rt (rt.freePane pane) := by
  refine ⟨fun paneId => ?_, rfl⟩
  by_cases same : paneId = pane.val
  · exact .inr (by rw [same]; exact Function.update_self _ _ _)
  · exact .inl (Function.update_of_ne same _ _)

theorem frees_freePanes (panes : List LivePane) : Frees rt (rt.freePanes panes) :=
  List.foldlRecOn (motive := Frees rt) panes UiRuntime.freePane (Frees.refl rt)
    fun _ frees pane _ => frees.trans (frees_freePane pane)

theorem frees_handleSurfaceClosed : Frees rt rt.handleSurfaceClosed := by
  unfold UiRuntime.handleSurfaceClosed
  split
  · exact (frees_freePane _).trans (frees_updateTabs _)
  · exact (frees_freePanes _).trans (frees_updateTabs _)

theorem frees_closePaneById (paneId : PaneId) : Frees rt (rt.closePaneById paneId) := by
  unfold UiRuntime.closePaneById
  split
  · exact Frees.refl rt
  · exact (frees_updateTabs _).trans frees_handleSurfaceClosed

theorem frees_closePanes (panes : List PaneId) :
    Frees rt (panes.foldl UiRuntime.closePaneById rt) :=
  List.foldlRecOn (motive := Frees rt) panes UiRuntime.closePaneById (Frees.refl rt)
    fun _ frees paneId _ => frees.trans (frees_closePaneById paneId)

end Closing

end Boo.Runtime.Exits
