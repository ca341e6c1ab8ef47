/- module: Boo/Runtime/Tabs
   digest: The tab manager (tabs.rs): every tab has a split tree, one tab is active. -/

import Boo.Lib.Entries
import Boo.Runtime.Splits
import Mathlib.Data.List.Nodup

set_option autoImplicit false
set_option relaxedAutoImplicit false

namespace Boo.Runtime.Tabs

open Boo.Lib.Entries
open Boo.Server.Frames
open Boo.Runtime.Splits

inductive TabLayout
  | manual | evenHorizontal | evenVertical | mainHorizontal | mainVertical | tiled
  deriving DecidableEq, Repr

/-- The cascade of `layout_splits`: split `index` keeps one share of those that remain. -/
def evenShare (count index : Nat) : ℚ := 1 / ((count - index + 1 : Nat) : ℚ)

def mainShare : ℚ := 6 / 10

def layoutSplits (layout : TabLayout) (count : Nat) : List (Direction × ℚ) :=
  (List.range (count - 1)).map fun offset =>
    let index := offset + 1
    match layout with
    | .manual => (.vertical, 1 / 2)
    | .evenHorizontal => (.horizontal, evenShare count index)
    | .evenVertical => (.vertical, evenShare count index)
    | .mainVertical =>
        if index = 1 then (.horizontal, mainShare) else (.vertical, evenShare count index)
    | .mainHorizontal =>
        if index = 1 then (.vertical, mainShare) else (.horizontal, evenShare count index)
    | .tiled =>
        (if index % 2 = 1 then .horizontal else .vertical, evenShare count index)

/-- `runningCommand` is the `Option<RunningCommand>` of the source, with its `command` inside. -/
structure Tab where
  id : TabId
  tree : SplitTree
  title : String
  layout : TabLayout
  runningCommand : Option (Option String)
  deriving DecidableEq

structure TabManager where
  tabs : List Tab
  active : Nat
  prevActive : Nat
  nextTabId : TabId
  deriving DecidableEq

namespace TabManager

def new : TabManager where
  tabs := []
  active := 0
  prevActive := 0
  nextTabId := 1

/-- A tab with one root pane. -/
def freshTab (tabs : TabManager) (pane : LivePane) : Tab where
  id := tabs.nextTabId
  tree := SplitTree.new.addRoot pane
  title := ""
  layout := .manual
  runningCommand := none

/-- `add_initial_tab` is this, too: on no tabs the active index is 0 already. -/
def newTab (tabs : TabManager) (pane : LivePane) : TabManager :=
  { tabs with
    tabs := tabs.tabs ++ [tabs.freshTab pane]
    active := tabs.tabs.length
    nextTabId := tabs.nextTabId + 1 }

def gotoTab (tabs : TabManager) (index : Nat) : TabManager :=
  if tabs.tabs.length ≤ index ∨ index = tabs.active then tabs
  else { tabs with
    prevActive := tabs.active
    active := index }

def nextTab (tabs : TabManager) : TabManager :=
  if tabs.tabs.length ≤ 1 then tabs else tabs.gotoTab ((tabs.active + 1) % tabs.tabs.length)

def prevTab (tabs : TabManager) : TabManager :=
  if tabs.tabs.length ≤ 1 then tabs
  else tabs.gotoTab (if tabs.active = 0 then tabs.tabs.length - 1 else tabs.active - 1)

/-- Where `active` points once the tab at `index` is gone and `count` tabs are left. -/
def activeAfterRemoval (active index count : Nat) : Nat :=
  if count = 0 then 0
  else if count ≤ active then count - 1
  else if index < active then active - 1
  else active

def removeTab (tabs : TabManager) (index : Nat) : TabManager :=
  if tabs.tabs.length ≤ index then tabs
  else { tabs with
    tabs := tabs.tabs.eraseIdx index
    active := activeAfterRemoval tabs.active index (tabs.tabs.length - 1) }

def tabTree (tabs : TabManager) (index : Nat) : Option SplitTree := tabs.tabs[index]?.map Tab.tree

def activeTree (tabs : TabManager) : Option SplitTree := tabs.tabTree tabs.active

/-- The panes that `remove_tab` hands back for cleanup. -/
def panesAt (tabs : TabManager) (index : Nat) : List LivePane :=
  ((tabs.tabTree index).map SplitTree.allPanes).getD []

def updateTab (tabs : TabManager) (index : Nat) (update : Tab → Tab) : TabManager :=
  { tabs with tabs := tabs.tabs.modify index update }

def updateTree (tabs : TabManager) (index : Nat) (update : SplitTree → SplitTree) : TabManager :=
  tabs.updateTab index fun tab => { tab with tree := update tab.tree }

def updateActiveTree (tabs : TabManager) (update : SplitTree → SplitTree) : TabManager :=
  tabs.updateTree tabs.active update

/-- Put a tree back that an operation on the tab at `index` has changed; the operations that
do so also forget the layout. -/
def putTree (tabs : TabManager) (index : Nat) (tree : SplitTree) : TabManager :=
  tabs.updateTab index fun tab => { tab with
    tree := tree
    layout := .manual }

def focusedPane (tabs : TabManager) : PaneId :=
  (tabs.activeTree.map SplitTree.focusedPane).getD 0

def previousActive (tabs : TabManager) : Nat := min tabs.prevActive (tabs.tabs.length - 1)

def activeTabId (tabs : TabManager) : Option TabId := tabs.tabs[tabs.active]?.map Tab.id

def setActiveTitle (tabs : TabManager) (title : String) : TabManager :=
  tabs.updateTab tabs.active fun tab => { tab with title := title }

def applyLayoutToActive (tabs : TabManager) (layout : TabLayout) : TabManager :=
  tabs.updateTab tabs.active fun tab =>
    let panes := tab.tree.allPanes
    if panes.length ≤ 1 then { tab with layout := layout }
    else { tab with
      tree := (tab.tree.rebuildFromPanes panes (layoutSplits layout panes.length)
        tab.tree.focusedPane).1
      layout := layout }

def cycledLayouts : List TabLayout :=
  [.evenHorizontal, .evenVertical, .mainHorizontal, .mainVertical, .tiled]

def cycleActiveLayout (tabs : TabManager) (forward : Bool) : TabManager :=
  let current := (tabs.tabs[tabs.active]?.map Tab.layout).getD .manual
  let position := (cycledLayouts.findIdx? (· = current)).getD 0
  let next := if forward then (position + 1) % cycledLayouts.length
    else (position + cycledLayouts.length - 1) % cycledLayouts.length
  tabs.applyLayoutToActive (cycledLayouts[next]?.getD .manual)

/-- Rotation and swapping forget the layout even where they change nothing else. -/
def rotateActivePanes (tabs : TabManager) (forward : Bool) : TabManager :=
  tabs.updateTab tabs.active fun tab => { tab with
    tree := (tab.tree.rotatePanes forward).getD tab.tree
    layout := .manual }

def swapActivePaneWithAdjacent (tabs : TabManager) (next : Bool) : TabManager :=
  tabs.updateTab tabs.active fun tab => { tab with
    tree := (tab.tree.swapFocusedWithAdjacent next).getD tab.tree
    layout := .manual }

def breakActivePaneToTab (tabs : TabManager) : Option TabManager :=
  match tabs.activeTree.bind SplitTree.removeFocused with
  | none => none
  | some (pane, tree) =>
      let without := tabs.putTree tabs.active tree
      some ((if tree.len = 0 then without.removeTab tabs.active else without).newTab pane)

def rebalanceActiveLayout (tabs : TabManager) : TabManager :=
  tabs.updateActiveTree SplitTree.rebalance

def setRunningCommandForPane (tabs : TabManager) (paneId : PaneId)
    (runningCommand : Option (Option String)) : TabManager :=
  { tabs with tabs := tabs.tabs.map fun tab =>
      if tab.tree.focusedPane = paneId then { tab with runningCommand := runningCommand }
      else tab }

/-- The command that titles the tab, unless it is empty. -/
def baseTitle (tab : Tab) : String :=
  match tab.runningCommand.join with
  | some command => if command.isEmpty then tab.title else command
  | none => tab.title

def displayTitle (tab : Tab) (spinner : Option String) : String :=
  match spinner with
  | some spinner =>
      if spinner.isEmpty then baseTitle tab
      else if (baseTitle tab).isEmpty then spinner
      else spinner ++ " " ++ baseTitle tab
  | none => baseTitle tab

/-- `spinner_for(0)`. -/
def firstSpinner : String := "-"

def findIndexByTabId (tabs : TabManager) (tabId : TabId) : Option Nat :=
  tabs.tabs.findIdx? (·.id = tabId)

def tabIdForIndex (tabs : TabManager) (index : Nat) : Option TabId := tabs.tabs[index]?.map Tab.id

/-- The first tab, and its first leaf, that holds the pane. -/
def findPaneLocation (tabs : TabManager) (paneId : PaneId) : Option (Nat × LeafId) :=
  tabs.tabs.zipIdx.findSome? fun (tab, index) =>
    (tab.tree.exportPanes.find? (·.pane.val = paneId)).map fun pane => (index, pane.leafId)

/-- The focus step of the source sets the focus to the pane that already has it. -/
def removePaneById (tabs : TabManager) (paneId : PaneId) : Option (LivePane × TabManager) :=
  (tabs.findPaneLocation paneId).bind fun (index, _) =>
    ((tabs.tabTree index).bind (·.removePane paneId)).map fun (pane, tree) =>
      let without := tabs.putTree index tree
      (pane,
        if tree.len = 0 then without.removeTab index
        else if index = tabs.active then
          without.updateTree index fun tree =>
            (tree.setFocusToPane tree.focusedPane).getD tree
        else without)

def allPanes (tabs : TabManager) : List LivePane := tabs.tabs.flatMap fun tab => tab.tree.allPanes

/-- `pane_ids_for_tab` of runtime_ui.rs. -/
def paneIdsForTab (tabs : TabManager) (tabId : TabId) : List PaneId :=
  (((tabs.findIndexByTabId tabId).bind tabs.tabTree).map fun tree =>
    tree.exportPanes.map fun pane => pane.pane.val).getD []

/-- `default_focused_pane_for_tab` of runtime_ui.rs: 0 where the focus names no leaf. -/
def defaultFocusedPaneForTab (tabs : TabManager) (tabId : TabId) : Option PaneId :=
  ((tabs.findIndexByTabId tabId).bind tabs.tabTree).map SplitTree.focusedPane

/-- A pane that a client focuses in the tab, or the tab's own focus where it is no longer there. -/
def focusIn (tabs : TabManager) (tabId : TabId) (focused : Option PaneId) : Option PaneId :=
  (focused.filter (· ∈ tabs.paneIdsForTab tabId)).or (tabs.defaultFocusedPaneForTab tabId)

theorem mem_paneIdsForTab {tabs : TabManager} {tabId : TabId} {tree : SplitTree}
    (held : (tabs.findIndexByTabId tabId).bind tabs.tabTree = some tree) :
    tabs.paneIdsForTab tabId = tree.allPanes.map Subtype.val := by
  rw [paneIdsForTab, held, ← SplitTree.map_paneId_exportPanes]
  rfl

theorem defaultFocus_mem_of_ne_zero {tabs : TabManager} {tabId : TabId} {paneId : PaneId}
    (focus : tabs.defaultFocusedPaneForTab tabId = some paneId) (live : paneId ≠ 0) :
    paneId ∈ tabs.paneIdsForTab tabId := by
  rw [defaultFocusedPaneForTab, Option.map_eq_some_iff] at focus
  obtain ⟨tree, held, rfl⟩ := focus
  rw [mem_paneIdsForTab held]
  exact SplitTree.focusedPane_mem_of_ne_zero live

/-- A pane that some tab holds has a positive id. -/
theorem ne_zero_of_findPaneLocation {tabs : TabManager} {paneId : PaneId}
    (found : (tabs.findPaneLocation paneId).isSome) : paneId ≠ 0 := by
  rw [findPaneLocation, List.isSome_findSome?, List.any_eq_true] at found
  obtain ⟨⟨tab, index⟩, -, found⟩ := found
  rw [Option.isSome_map, List.find?_isSome] at found
  obtain ⟨pane, -, same⟩ := found
  exact of_decide_eq_true same ▸ pane.pane.property

/-- What every tab operation keeps; `set_focus` with a foreign leaf id breaks `focus`. -/
structure TabsOk (tabs : TabManager) : Prop where
  focus : ∀ tab ∈ tabs.tabs, tab.tree.FocusOk
  active : tabs.active < max tabs.tabs.length 1
  ids : (tabs.tabs.map Tab.id).Nodup
  fresh : ∀ tab ∈ tabs.tabs, tab.id < tabs.nextTabId

theorem tabsOk_new : TabsOk new where
  focus := fun _ member => by cases member
  active := Nat.one_pos
  ids := List.nodup_nil
  fresh := fun _ member => by cases member

section NewTabs

theorem ids_append_freshTab {tabs : TabManager} (distinct : (tabs.tabs.map Tab.id).Nodup)
    (fresh : ∀ tab ∈ tabs.tabs, tab.id < tabs.nextTabId) (pane : LivePane) :
    ((tabs.tabs ++ [tabs.freshTab pane]).map Tab.id).Nodup := by
  rw [List.map_append, List.nodup_append]
  refine ⟨distinct, List.nodup_singleton _, ?_⟩
  intro id member other isFresh same
  obtain ⟨tab, held, rfl⟩ := List.mem_map.mp member
  rw [List.map_singleton, List.mem_singleton] at isFresh
  have below := fresh tab held
  rw [same, isFresh] at below
  exact Nat.lt_irrefl _ below

theorem forall_append_freshTab {tabs : TabManager} {pane : LivePane} {P : Tab → Prop}
    (old : ∀ tab ∈ tabs.tabs, P tab) (fresh : P (tabs.freshTab pane)) :
    ∀ tab ∈ tabs.tabs ++ [tabs.freshTab pane], P tab := by
  intro tab member
  rw [List.mem_append, List.mem_singleton] at member
  rcases member with member | rfl
  · exact old tab member
  · exact fresh

theorem TabsOk.newTab {tabs : TabManager} (ok : TabsOk tabs) (pane : LivePane) :
    TabsOk (tabs.newTab pane) where
  focus := forall_append_freshTab ok.focus (SplitTree.focusOk_addRoot _ _)
  active := by
    show tabs.tabs.length < max (tabs.tabs ++ [tabs.freshTab pane]).length 1
    simp
  ids := ids_append_freshTab ok.ids ok.fresh pane
  fresh := forall_append_freshTab (fun tab member => Nat.lt_succ_of_lt (ok.fresh tab member))
    (Nat.lt_succ_self _)

end NewTabs

theorem TabsOk.gotoTab {tabs : TabManager} (ok : TabsOk tabs) (index : Nat) :
    TabsOk (tabs.gotoTab index) := by
  unfold TabManager.gotoTab
  split
  · exact ok
  · rename_i inside
    rw [not_or, Nat.not_le] at inside
    exact ⟨ok.focus, Nat.lt_of_lt_of_le inside.1 (Nat.le_max_left _ _), ok.ids, ok.fresh⟩

theorem TabsOk.nextTab {tabs : TabManager} (ok : TabsOk tabs) : TabsOk tabs.nextTab := by
  unfold TabManager.nextTab
  split
  · exact ok
  · exact ok.gotoTab _

theorem TabsOk.prevTab {tabs : TabManager} (ok : TabsOk tabs) : TabsOk tabs.prevTab := by
  unfold TabManager.prevTab
  split
  · exact ok
  · exact ok.gotoTab _

/-- Everything but the focus of one tab, which an operation is about to drop or repair. -/
structure TabsOkExcept (tabs : TabManager) (index : Nat) : Prop where
  focus : ∀ other tab, tabs.tabs[other]? = some tab → other ≠ index → tab.tree.FocusOk
  active : tabs.active < max tabs.tabs.length 1
  ids : (tabs.tabs.map Tab.id).Nodup
  fresh : ∀ tab ∈ tabs.tabs, tab.id < tabs.nextTabId

theorem TabsOk.except {tabs : TabManager} (ok : TabsOk tabs) (index : Nat) :
    TabsOkExcept tabs index :=
  ⟨fun _ tab at_other _ => ok.focus tab (List.mem_of_getElem? at_other), ok.active, ok.ids,
    ok.fresh⟩

theorem TabsOkExcept.whole {tabs : TabManager} {index : Nat} (ok : TabsOkExcept tabs index)
    (focus : ∀ tab, tabs.tabs[index]? = some tab → tab.tree.FocusOk) : TabsOk tabs := by
  refine ⟨?_, ok.active, ok.ids, ok.fresh⟩
  intro tab member
  obtain ⟨other, at_other⟩ := List.mem_iff_getElem?.mp member
  by_cases same : other = index
  · exact focus tab (same ▸ at_other)
  · exact ok.focus other tab at_other same

theorem activeAfterRemoval_lt {active index count : Nat} :
    activeAfterRemoval active index count < max count 1 := by
  unfold activeAfterRemoval
  split <;> [skip; split <;> [skip; split]] <;> omega

theorem TabsOkExcept.removeTab {tabs : TabManager} {index : Nat}
    (ok : TabsOkExcept tabs index) (inside : index < tabs.tabs.length) :
    TabsOk (tabs.removeTab index) := by
  rw [TabManager.removeTab, if_neg (Nat.not_le.mpr inside)]
  refine ⟨?_, ?_, ?_, ?_⟩
  · intro tab member
    obtain ⟨other, at_other⟩ := List.mem_iff_getElem?.mp member
    rw [List.getElem?_eraseIdx] at at_other
    split at at_other
    · exact ok.focus other tab at_other (by omega)
    · exact ok.focus (other + 1) tab at_other (by omega)
  · show activeAfterRemoval _ _ _ < max (tabs.tabs.eraseIdx index).length 1
    rw [List.length_eraseIdx_of_lt inside]
    exact activeAfterRemoval_lt
  · exact ok.ids.sublist ((List.eraseIdx_sublist _ _).map _)
  · exact fun tab member => ok.fresh tab (List.mem_of_mem_eraseIdx member)

theorem TabsOk.removeTab {tabs : TabManager} (ok : TabsOk tabs) (index : Nat) :
    TabsOk (tabs.removeTab index) := by
  by_cases inside : index < tabs.tabs.length
  · exact (ok.except index).removeTab inside
  · rw [TabManager.removeTab, if_pos (Nat.not_lt.mp inside)]
    exact ok

/-- Changing one tab keeps the ids as long as it keeps that tab's id. -/
theorem TabsOkExcept.updateTab {tabs : TabManager} {index : Nat}
    (ok : TabsOkExcept tabs index) {update : Tab → Tab} (sameId : ∀ tab, (update tab).id = tab.id) :
    TabsOkExcept (tabs.updateTab index update) index := by
  have ids : ((tabs.tabs.modify index update).map Tab.id) = tabs.tabs.map Tab.id :=
    map_modify_same tabs.tabs index sameId
  refine ⟨?_, ?_, ?_, ?_⟩
  · intro other tab at_other different
    rw [TabManager.updateTab, List.getElem?_modify_ne update tabs.tabs (Ne.symm different)]
      at at_other
    exact ok.focus other tab at_other different
  · rw [TabManager.updateTab, List.length_modify]
    exact ok.active
  · exact (congrArg List.Nodup ids).mpr ok.ids
  · intro tab member
    have listed := List.mem_map_of_mem (f := Tab.id) member
    rw [TabManager.updateTab, ids] at listed
    obtain ⟨old, held, same⟩ := List.mem_map.mp listed
    rw [← same]
    exact ok.fresh old held

theorem TabsOk.updateTab {tabs : TabManager} (ok : TabsOk tabs) (index : Nat)
    {update : Tab → Tab} (sameId : ∀ tab, (update tab).id = tab.id)
    (focus : ∀ tab, tab.tree.FocusOk → (update tab).tree.FocusOk) :
    TabsOk (tabs.updateTab index update) := by
  refine ((ok.except index).updateTab sameId).whole ?_
  intro tab at_index
  rw [TabManager.updateTab, List.getElem?_modify_eq, Option.map_eq_map,
    Option.map_eq_some_iff] at at_index
  obtain ⟨old, held, rfl⟩ := at_index
  exact focus old (ok.focus old (List.mem_of_getElem? held))

theorem TabsOk.updateActiveTree {tabs : TabManager} (ok : TabsOk tabs)
    {update : SplitTree → SplitTree} (focus : ∀ tree, tree.FocusOk → (update tree).FocusOk) :
    TabsOk (tabs.updateActiveTree update) :=
  ok.updateTab _ (fun _ => rfl) fun tab => focus tab.tree

/-- The tail of every removal of a pane: an empty tab goes with it. -/
theorem TabsOkExcept.dropPane {tabs : TabManager} {index : Nat} {tree : SplitTree}
    (ok : TabsOkExcept tabs index) (inside : index < tabs.tabs.length)
    (focus : tree.len ≠ 0 → tree.FocusOk) {update : Tab → Tab}
    (sameId : ∀ tab, (update tab).id = tab.id)
    (newTree : ∀ tab, (update tab).tree = tree) :
    TabsOk (if tree.len = 0 then (tabs.updateTab index update).removeTab index
      else tabs.updateTab index update) := by
  have parts : TabsOkExcept (tabs.updateTab index update) index :=
    ok.updateTab sameId
  split
  · refine parts.removeTab ?_
    rw [TabManager.updateTab, List.length_modify]
    exact inside
  · rename_i nonempty
    refine parts.whole ?_
    intro tab at_index
    rw [TabManager.updateTab, List.getElem?_modify_eq, Option.map_eq_map,
      Option.map_eq_some_iff] at at_index
    obtain ⟨old, -, rfl⟩ := at_index
    rw [newTree]
    exact focus nonempty

section Operations

variable {tabs : TabManager}

private theorem TabsOk.putTree (ok : TabsOk tabs) {index : Nat} {tree : SplitTree}
    (inside : index < tabs.tabs.length) (focus : tree.len ≠ 0 → tree.FocusOk) :
    TabsOk (if tree.len = 0 then (tabs.putTree index tree).removeTab index
      else tabs.putTree index tree) :=
  (ok.except index).dropPane inside focus (fun _ => rfl) fun _ => rfl

theorem TabsOkExcept.dropTree {index : Nat} {tree : SplitTree} (ok : TabsOkExcept tabs index)
    (inside : index < tabs.tabs.length) (focus : tree.len ≠ 0 → tree.FocusOk) :
    TabsOk (if tree.len = 0 then (tabs.updateTree index fun _ => tree).removeTab index
      else tabs.updateTree index fun _ => tree) :=
  ok.dropPane inside focus (fun _ => rfl) fun _ => rfl

theorem TabsOk.setActiveTitle (ok : TabsOk tabs) (title : String) :
    TabsOk (tabs.setActiveTitle title) :=
  ok.updateTab _ (fun _ => rfl) fun _ focus => focus

theorem TabsOk.applyLayoutToActive (ok : TabsOk tabs) (layout : TabLayout) :
    TabsOk (tabs.applyLayoutToActive layout) := by
  refine ok.updateTab _ (fun tab => ?_) fun tab focus => ?_
  · dsimp only
    split <;> rfl
  · dsimp only
    split
    · exact focus
    · rename_i several
      have nonempty : tab.tree.allPanes ≠ [] := fun empty => several (by simp [empty])
      obtain ⟨pane, -, same⟩ := List.mem_map.mp focus.focusedPane_mem
      exact SplitTree.focusOk_rebuildFromPanes _ nonempty _ (same ▸ pane.property)

theorem TabsOk.cycleActiveLayout (ok : TabsOk tabs) (forward : Bool) :
    TabsOk (tabs.cycleActiveLayout forward) :=
  ok.applyLayoutToActive _

theorem TabsOk.rotateActivePanes (ok : TabsOk tabs) (forward : Bool) :
    TabsOk (tabs.rotateActivePanes forward) := by
  refine ok.updateTab _ (fun _ => rfl) fun tab focus => ?_
  show ((tab.tree.rotatePanes forward).getD tab.tree).FocusOk
  cases rotate : tab.tree.rotatePanes forward with
  | none => exact focus
  | some rotated => exact focus.rotatePanes rotate

theorem TabsOk.swapActivePaneWithAdjacent (ok : TabsOk tabs) (next : Bool) :
    TabsOk (tabs.swapActivePaneWithAdjacent next) := by
  refine ok.updateTab _ (fun _ => rfl) fun tab focus => ?_
  show ((tab.tree.swapFocusedWithAdjacent next).getD tab.tree).FocusOk
  cases swap : tab.tree.swapFocusedWithAdjacent next with
  | none => exact focus
  | some swapped => exact focus.swapFocusedWithAdjacent swap

theorem TabsOk.rebalanceActiveLayout (ok : TabsOk tabs) : TabsOk tabs.rebalanceActiveLayout :=
  ok.updateActiveTree fun _ focus => focus.rebalance

theorem inside_of_tabTree {index : Nat} {tree : SplitTree}
    (held : tabs.tabTree index = some tree) : index < tabs.tabs.length := by
  rw [tabTree, Option.map_eq_some_iff] at held
  obtain ⟨tab, at_index, -⟩ := held
  exact (List.getElem?_eq_some_iff.mp at_index).1

theorem TabsOk.breakActivePaneToTab (ok : TabsOk tabs) {broken : TabManager}
    (found : tabs.breakActivePaneToTab = some broken) : TabsOk broken := by
  unfold TabManager.breakActivePaneToTab at found
  split at found
  · cases found
  · rename_i pane tree removed
    cases found
    rw [Option.bind_eq_some_iff] at removed
    obtain ⟨old, held, removed⟩ := removed
    exact (ok.putTree (inside_of_tabTree held)
      (SplitTree.focusOk_removeLeafId removed)).newTab pane

theorem TabsOk.setRunningCommandForPane (ok : TabsOk tabs) (paneId : PaneId)
    (runningCommand : Option (Option String)) :
    TabsOk (tabs.setRunningCommandForPane paneId runningCommand) := by
  have same : ∀ tab : Tab, ((if tab.tree.focusedPane = paneId then
      { tab with runningCommand := runningCommand } else tab : Tab).id = tab.id ∧
      (if tab.tree.focusedPane = paneId then
        { tab with runningCommand := runningCommand } else tab : Tab).tree = tab.tree) := by
    intro tab
    split <;> exact ⟨rfl, rfl⟩
  refine ⟨?_, ?_, ?_, ?_⟩
  · intro tab member
    obtain ⟨old, held, rfl⟩ := List.mem_map.mp member
    rw [(same old).2]
    exact ok.focus old held
  · show tabs.active < max (tabs.tabs.map _).length 1
    rw [List.length_map]
    exact ok.active
  · show ((tabs.tabs.map _).map Tab.id).Nodup
    rw [List.map_map, show Tab.id ∘ _ = Tab.id from funext fun tab => (same tab).1]
    exact ok.ids
  · intro tab member
    obtain ⟨old, held, rfl⟩ := List.mem_map.mp member
    rw [(same old).1]
    exact ok.fresh old held

theorem TabsOk.removePaneById (ok : TabsOk tabs) {paneId : PaneId} {pane : LivePane}
    {removed : TabManager} (found : tabs.removePaneById paneId = some (pane, removed)) :
    TabsOk removed := by
  rw [TabManager.removePaneById, Option.bind_eq_some_iff] at found
  obtain ⟨⟨index, leaf⟩, -, found⟩ := found
  rw [Option.map_eq_some_iff] at found
  obtain ⟨⟨pane', tree⟩, held, same⟩ := found
  rw [Option.bind_eq_some_iff] at held
  obtain ⟨old, held, removal⟩ := held
  cases same
  have put := ok.putTree (inside_of_tabTree held) (SplitTree.focusOk_removePane removal)
  split
  · rename_i empty
    rwa [if_pos empty] at put
  · rename_i nonempty
    rw [if_neg nonempty] at put
    split
    · refine put.updateTab _ (fun _ => rfl) fun tab focus => ?_
      show ((tab.tree.setFocusToPane tab.tree.focusedPane).getD tab.tree).FocusOk
      cases refocus : tab.tree.setFocusToPane tab.tree.focusedPane with
      | none => exact focus
      | some focused => exact SplitTree.focusOk_setFocusToPane refocus
    · exact put

end Operations

end TabManager

end Boo.Runtime.Tabs
