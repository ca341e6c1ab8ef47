/- module: Boo/Runtime/BackgroundRemoval
   digest: When the removal of a pane that has no focus leaves the active tab and every focus. -/

import Boo.Runtime.ClosedPanes

set_option autoImplicit false
set_option relaxedAutoImplicit false

namespace Boo.Runtime.BackgroundRemoval

open Boo.Lib.Entries
open Boo.Server.Frames
open Boo.Runtime.Splits
open Boo.Runtime.Leaves
open Boo.Runtime.Tabs
open Boo.Runtime.TabOps
open Boo.Runtime.PaneCount
open Boo.Runtime.ClosedPanes
open Boo.Runtime.Ui

/-- The pane of the first leaf that is left once `leaf` is gone. -/
def firstOther (tree : SplitTree) (leaf : LeafId) : Option LivePane :=
  ((leavesOf tree.root).eraseP (·.1 = leaf)).head?.map Prod.snd

/-- Of the leaves but this one, the first shows the focused pane. -/
def FocusComesFirst (tree : SplitTree) (leaf : LeafId) : Prop :=
  (firstOther tree leaf).map Subtype.val = some tree.focusedPane

/-- A pane that is neither the focused one of its tab nor alone there. -/
def Background (tabs : TabManager) (paneId : PaneId) : Prop :=
  ∃ index leaf tab, tabs.findPaneLocation paneId = some (index, leaf) ∧
    tabs.tabs[index]? = some tab ∧ 2 ≤ tab.tree.len ∧ tab.tree.focusedPane ≠ paneId

/-- The active tab and the focused pane of every tab stay. -/
def KeepsUser (tabs after : TabManager) : Prop :=
  after.activeTabId = tabs.activeTabId ∧
    after.tabs.map (·.tree.focusedPane) = tabs.tabs.map (·.tree.focusedPane)

instance (tree : SplitTree) (leaf : LeafId) : Decidable (FocusComesFirst tree leaf) :=
  inferInstanceAs (Decidable (_ = _))

instance (tabs after : TabManager) : Decidable (KeepsUser tabs after) :=
  inferInstanceAs (Decidable (_ ∧ _))

section Nodes

variable {node : Node} {target : LeafId} {pane : LivePane}

/-- A removal takes the first leaf with the id and keeps the others in order. -/
theorem leavesOf_removeLeaf {remaining : Option Node}
    (removed : removeLeaf target node = some (pane, remaining)) :
    leavesOf remaining = (collectLeaves node).eraseP (·.1 = target) := by
  have foreign : ∀ {other : Node}, removeLeaf target other = none →
      ∀ leaf ∈ collectLeaves other, ¬ decide (leaf.1 = target) = true := by
    intro other missing leaf member same
    apply removeLeaf_eq_none_iff.mp missing
    rw [← of_decide_eq_true same, ← map_fst_collectLeaves]
    exact List.mem_map_of_mem member
  have inFirst : ∀ {first : Node} {gone : LivePane} {rest : Option Node}
      (later : List (LeafId × LivePane)), removeLeaf target first = some (gone, rest) →
      (collectLeaves first ++ later).eraseP (·.1 = target) =
        (collectLeaves first).eraseP (·.1 = target) ++ later := by
    intro first gone rest later found
    have member : (target, gone) ∈ collectLeaves first :=
      (leaves_removeLeaf found).mem_iff.mpr List.mem_cons_self
    exact List.eraseP_append_left (a := (target, gone)) (by simp) later member
  induction node generalizing remaining with
  | leaf id old =>
      rw [removeLeaf] at removed
      split at removed
      · rename_i same
        cases removed
        rw [collectLeaves, List.eraseP_cons_of_pos (by simpa using same)]
        rfl
      · cases removed
  | split direction ratio first second ihFirst ihSecond =>
      rw [removeLeaf] at removed
      rw [collectLeaves]
      split at removed
      · rename_i found
        cases removed
        rw [inFirst _ found, ← ihFirst found]
        rfl
      · rename_i found
        cases removed
        rw [inFirst _ found, ← ihFirst found]
        rfl
      · rename_i missing
        rw [List.eraseP_append_right _ (foreign missing)]
        split at removed
        · rename_i found
          cases removed
          rw [← ihSecond found]
          rfl
        · rename_i found
          cases removed
          rw [← ihSecond found]
          exact (List.append_nil _).symm
        · cases removed

end Nodes

section Trees

variable {tree removed : SplitTree} {leaf : LeafId} {pane : LivePane} {paneId : PaneId}

/-- What is left when a tree of several leaves loses one: the first of them has the focus, and
to focus its pane again changes nothing. -/
structure Refocused (tree : SplitTree) (leaf : LeafId) (removed : SplitTree) : Prop where
  nonempty : removed.len ≠ 0
  focus : some removed.focusedPane = (firstOther tree leaf).map Subtype.val
  again : removed.setFocusToPane removed.focusedPane = some removed

theorem exists_removeLeafId (member : leaf ∈ tree.leafIds) (several : 2 ≤ tree.len) :
    ∃ pane removed, Refocused tree leaf removed ∧
      tree.removeLeafId leaf = some (pane, removed) ∧
      ∀ focus, (tree.setFocus focus).removeLeafId leaf = some (pane, removed) := by
  obtain ⟨root, nextId, focusedId⟩ := tree
  cases root with
  | none => cases member
  | some node =>
      have present : removeLeaf leaf node ≠ none := fun missing =>
        removeLeaf_eq_none_iff.mp missing member
      obtain ⟨⟨pane, remaining⟩, taken⟩ := Option.ne_none_iff_exists'.mp present
      have rest := leavesOf_removeLeaf taken
      have count : (leavesOf remaining).length + 1 = countLeaves node := by
        rw [← length_collectLeaves, (leaves_removeLeaf taken).length_eq, List.length_cons]
      have atLeast : 2 ≤ countLeaves node := several
      cases remaining with
      | none =>
          rw [leavesOf, Option.map_none, Option.getD_none, List.length_nil] at count
          omega
      | some left =>
          rw [leavesOf, Option.map_some, Option.getD_some] at rest count
          obtain ⟨⟨id, first⟩, others, leaves⟩ :
              ∃ head others, collectLeaves left = head :: others :=
            List.exists_cons_of_length_pos (by omega)
          have ids : collectLeafIds left = id :: others.map Prod.fst := by
            rw [← map_fst_collectLeaves, leaves, List.map_cons]
          have kept : ∀ focus : LeafId, SplitTree.keepRemaining ⟨some node, nextId, focus⟩
              (some left) = ⟨some left, nextId, id⟩ := by
            intro focus
            rw [SplitTree.keepRemaining, Option.map_some, Option.getD_some, ids]
            rfl
          have taking : ∀ focus : LeafId, SplitTree.removeLeafId ⟨some node, nextId, focus⟩ leaf =
              some (pane, ⟨some left, nextId, id⟩) := by
            intro focus
            rw [SplitTree.removeLeafId, Option.bind_some, taken, ← kept focus]
          have focus : SplitTree.focusedPane ⟨some left, nextId, id⟩ = first.val := by
            rw [SplitTree.focusedPane, Option.bind_some, findLeaf_eq_find?, leaves]
            simp
          refine ⟨pane, ⟨some left, nextId, id⟩, ⟨?_, ?_, ?_⟩, taking focusedId, taking⟩
          · exact (countLeaves_pos left).ne'
          · rw [focus, firstOther, leavesOf, Option.map_some, Option.getD_some, ← rest, leaves]
            rfl
          · rw [focus, SplitTree.setFocusToPane, Option.bind_some, findLeafIdByPane_eq_find?,
              leaves]
            simp [SplitTree.setFocus]

/-- The search of the tabs and that of the tree name the same leaf. -/
theorem find?_exportPanes (tree : SplitTree) (paneId : PaneId) :
    (tree.exportPanes.find? (·.pane.val = paneId)).map ExportedPane.leafId =
      tree.root.bind (findLeafIdByPane paneId) := by
  rw [SplitTree.exportPanes]
  cases tree.root with
  | none => rfl
  | some node =>
      rw [Option.map_some, Option.getD_some, Option.bind_some, findLeafIdByPane_eq_find?,
        ← map_exportNode none node, List.find?_map, Option.map_map]
      rfl

end Trees

section Tabs

open TabManager

variable {tabs : TabManager} {paneId : PaneId} {index : Nat} {leaf : LeafId} {tab : Tab}

theorem findLeafIdByPane_of_location
    (found : tabs.findPaneLocation paneId = some (index, leaf))
    (held : tabs.tabs[index]? = some tab) :
    tab.tree.root.bind (findLeafIdByPane paneId) = some leaf := by
  rw [findPaneLocation] at found
  obtain ⟨⟨other, place⟩, listed, located⟩ := List.exists_of_findSome?_eq_some found
  obtain ⟨exported, first, same⟩ := Option.map_eq_some_iff.mp located
  cases same
  obtain rfl : tab = other :=
    Option.some.inj (held.symm.trans (List.mem_zipIdx_iff_getElem?.mp listed))
  rw [← find?_exportPanes, first, Option.map_some]

/-- Putting another tree into a tab moves the user only by that tree's focus. -/
theorem keepsUser_updateTab {update : Tab → Tab} (held : tabs.tabs[index]? = some tab)
    (sameId : ∀ old, (update old).id = old.id) :
    KeepsUser tabs (tabs.updateTab index update) ↔
      (update tab).tree.focusedPane = tab.tree.focusedPane := by
  have active : (tabs.updateTab index update).activeTabId = tabs.activeTabId := by
    rw [activeTabId, activeTabId, updateTab, List.getElem?_modify]
    cases tabs.tabs[tabs.active]? with
    | none => rfl
    | some old =>
        by_cases here : index = tabs.active <;> simp [here, sameId]
  rw [KeepsUser, and_iff_right active]
  exact map_modify_eq_iff update (·.tree.focusedPane) held

/-- `remove_pane_by_id` puts the reduced tree into the tab and does nothing else there. -/
theorem removePaneById_located (found : tabs.findPaneLocation paneId = some (index, leaf))
    (held : tabs.tabs[index]? = some tab) {pane : LivePane} {removed : SplitTree}
    (refocused : Refocused tab.tree leaf removed)
    (taken : tab.tree.removeLeafId leaf = some (pane, removed)) :
    tabs.removePaneById paneId = some (pane, tabs.putTree index removed) := by
  have atTree : tabs.tabTree index = some tab.tree := by
    rw [tabTree, held, Option.map_some]
  have removal : tab.tree.removePane paneId = some (pane, removed) := by
    rw [SplitTree.removePane, findLeafIdByPane_of_location found held, Option.bind_some, taken]
  have again : (tabs.putTree index removed).updateTree index
      (fun tree => (tree.setFocusToPane tree.focusedPane).getD tree) =
        tabs.putTree index removed := by
    rw [updateTree, putTree, updateTab, updateTab, List.modify_modify_eq]
    congr 2
    funext old
    show ({ old with tree := _, layout := _ } : Tab) = _
    rw [refocused.again, Option.getD_some]
  rw [removePaneById, found, Option.bind_some]
  dsimp only
  rw [atTree, Option.bind_some, removal, Option.map_some]
  dsimp only
  rw [if_neg refocused.nonempty, again, ite_self]

theorem mem_leafIds_of_location (found : tabs.findPaneLocation paneId = some (index, leaf))
    (held : tabs.tabs[index]? = some tab) : leaf ∈ tab.tree.leafIds := by
  obtain ⟨tree, atTree, member⟩ := findPaneLocation_spec found
  rw [tabTree, held] at atTree
  cases atTree
  exact member

/-- `close_pane_by_id` stays in the tab that it has gone to. -/
theorem closePane_located (found : tabs.findPaneLocation paneId = some (index, leaf))
    (held : tabs.tabs[index]? = some tab) {pane : LivePane} {removed : SplitTree}
    (refocused : Refocused tab.tree leaf removed)
    (taken : ∀ focus, (tab.tree.setFocus focus).removeLeafId leaf = some (pane, removed)) :
    closePane tabs paneId =
      (tabs.gotoTab index).updateTree index fun _ => removed := by
  have inside : index < tabs.tabs.length := (List.getElem?_eq_some_iff.mp held).1
  have visited : (tabs.gotoTab index).active = index ∧
      (tabs.gotoTab index).tabs = tabs.tabs := by
    rw [TabManager.gotoTab]
    split
    · rename_i still
      exact ⟨(still.resolve_left (Nat.not_le.mpr inside)).symm, rfl⟩
    · exact ⟨rfl, rfl⟩
  obtain ⟨here, same⟩ := visited
  have onLeaf : ((tabs.gotoTab index).updateActiveTree (·.setFocus leaf)).activeTree =
      some (tab.tree.setFocus leaf) := by
    show ((((tabs.gotoTab index).tabs.modify (tabs.gotoTab index).active _)[
      (tabs.gotoTab index).active]?).map Tab.tree) = _
    rw [here, same, List.getElem?_modify_eq, held]
    rfl
  have removal : (tab.tree.setFocus leaf).removeFocused = some (pane, removed) := taken leaf
  have twice : ((tabs.gotoTab index).updateActiveTree (·.setFocus leaf)).updateTree index
      (fun _ => removed) = (tabs.gotoTab index).updateTree index fun _ => removed := by
    rw [updateActiveTree, here, updateTree, updateTree, updateTree, updateTab, updateTab, updateTab,
      List.modify_modify_eq]
    rfl
  have stays : ((tabs.gotoTab index).updateActiveTree (·.setFocus leaf)).active = index := here
  rw [closePane, found]
  dsimp only
  rw [closeFocused, onLeaf, Option.bind_some, removal]
  dsimp only
  rw [if_neg refocused.nonempty, stays, twice]

/-- Once the user is in the tab, only the focus of that tab can have moved. -/
theorem keepsUser_gotoTab {update : Tab → Tab} (held : tabs.tabs[index]? = some tab)
    (sameId : ∀ old, (update old).id = old.id) :
    KeepsUser tabs ((tabs.gotoTab index).updateTab index update) ↔
      tabs.activeTabId = some tab.id ∧ (update tab).tree.focusedPane = tab.tree.focusedPane := by
  have inside : index < tabs.tabs.length := (List.getElem?_eq_some_iff.mp held).1
  rw [TabManager.gotoTab]
  split
  · rename_i still
    have here : index = tabs.active := still.resolve_left (Nat.not_le.mpr inside)
    have active : tabs.activeTabId = some tab.id := by
      rw [activeTabId, ← here, held, Option.map_some]
    rw [keepsUser_updateTab held sameId, and_iff_right active]
  · have active : (updateTab { tabs with
          prevActive := tabs.active
          active := index } index update).activeTabId = some tab.id := by
      rw [activeTabId, updateTab, List.getElem?_modify_eq, held]
      exact congrArg some (sameId tab)
    rw [KeepsUser, active, eq_comm]
    exact and_congr Iff.rfl (map_modify_eq_iff update (·.tree.focusedPane) held)

theorem focusedPane_putTree (held : tabs.tabs[index]? = some tab) (removed : SplitTree) :
    (tabs.putTree index removed).focusedPane = tabs.focusedPane ↔
      index ≠ tabs.active ∨ removed.focusedPane = tab.tree.focusedPane := by
  rw [TabManager.focusedPane, TabManager.focusedPane, activeTree, activeTree, tabTree, tabTree,
    putTree, updateTab, List.getElem?_modify]
  by_cases here : index = tabs.active
  · subst here
    rw [held]
    simp
  · simp [here]

end Tabs

section Removal

open TabManager

variable {rt : UiRuntime} {paneId : PaneId} {index : Nat} {leaf : LeafId} {tab : Tab}

/-- When a pane that is not alone in its tab is removed, the first of the other leaves gets the
focus, and a close goes to the tab for good: the user stays exactly where that leaf had the
focus and, for a close, the tab was active already. -/
theorem removal_keeps_user_iff (found : rt.tabs.findPaneLocation paneId = some (index, leaf))
    (held : rt.tabs.tabs[index]? = some tab) (several : 2 ≤ tab.tree.len) :
    ∃ pane without, rt.tabs.removePaneById paneId = some (pane, without) ∧
      (KeepsUser rt.tabs without ↔ FocusComesFirst tab.tree leaf) ∧
      (KeepsUser rt.tabs (rt.closePaneById paneId).tabs ↔
        rt.tabs.activeTabId = some tab.id ∧ FocusComesFirst tab.tree leaf) ∧
      ∀ direction, rt.markedPaneId = some paneId → paneId ≠ rt.tabs.focusedPane →
        (rt.joinMarkedPane direction).tabs =
          without.updateActiveTree (·.splitFocused direction pane) ∧
        (without.focusedPane = rt.tabs.focusedPane ↔
          index ≠ rt.tabs.active ∨ FocusComesFirst tab.tree leaf) := by
  obtain ⟨pane, removed, refocused, taken, anyFocus⟩ :=
    exists_removeLeafId (mem_leafIds_of_location found held) several
  have first : FocusComesFirst tab.tree leaf ↔ removed.focusedPane = tab.tree.focusedPane := by
    rw [FocusComesFirst, ← refocused.focus, Option.some.injEq]
  have removal := removePaneById_located found held refocused taken
  refine ⟨pane, rt.tabs.putTree index removed, removal, ?_, ?_, ?_⟩
  · rw [first]
    exact keepsUser_updateTab held fun _ => rfl
  · rw [first, tabs_closePaneById, closePane_located found held refocused anyFocus]
    exact keepsUser_gotoTab held fun _ => rfl
  · intro direction marked elsewhere
    have live : paneId ≠ 0 := ne_zero_of_findPaneLocation (by rw [found]; rfl)
    constructor
    · rw [tabs_joinMarkedPane rt paneId direction marked, joinPane,
        if_neg (not_or.mpr ⟨live, elsewhere⟩), removal]
    · rw [first]
      exact focusedPane_putTree held removed

/-- Pane 1 split twice; pane 3 has the focus. -/
def threePanes : Tab where
  id := 1
  tree := ((SplitTree.new.addRoot ⟨1, live_one⟩).splitFocused .vertical
    ⟨2, live_two⟩).splitFocused .vertical ⟨3, live_three⟩
  title := ""
  layout := .manual
  runningCommand := none

def oneTab : TabManager := ⟨[threePanes], 0, 0, 2⟩

/-- A second tab has been opened over the three panes. -/
def behindTab : TabManager := oneTab.newTab ⟨4, live_four⟩

/-- A runtime with these tabs, its second pane marked. -/
def secondMarked (tabs : TabManager) : UiRuntime where
  tabs := tabs
  markedPaneId := some 2
  terminals := fun _ => none
  written := []
  terminalFrame := ⟨0, 0, 0, 0⟩
  presentation := 0
  appearance := ⟨⟨240, 240, 240⟩, ⟨0, 0, 0⟩, ⟨255, 255, 255⟩⟩
  dirtyRemoteTabs := []
  cachedRemoteTabs := none

theorem removal_keeps_user_threePanes :
    ∃ pane without, oneTab.removePaneById 2 = some (pane, without) ∧
      (KeepsUser oneTab without ↔ FocusComesFirst threePanes.tree 1) ∧
      (KeepsUser oneTab ((secondMarked oneTab).closePaneById 2).tabs ↔
        oneTab.activeTabId = some 1 ∧ FocusComesFirst threePanes.tree 1) ∧
      ∀ direction, ((secondMarked oneTab).joinMarkedPane direction).tabs =
          without.updateActiveTree (·.splitFocused direction pane) ∧
        (without.focusedPane = oneTab.focusedPane ↔
          0 ≠ oneTab.active ∨ FocusComesFirst threePanes.tree 1) := by
  obtain ⟨pane, without, taken, keeps, closes, joins⟩ :=
    @removal_keeps_user_iff (secondMarked oneTab) 2 0 1 threePanes (by decide +kernel) rfl
      (by decide +kernel)
  exact ⟨pane, without, taken, keeps, closes, fun direction =>
    joins direction rfl (by decide +kernel)⟩

theorem background_oneTab : Background oneTab 2 :=
  ⟨0, 1, threePanes, by decide +kernel, rfl, by decide +kernel, by decide +kernel⟩

theorem background_behindTab : Background behindTab 2 :=
  ⟨0, 1, threePanes, by decide +kernel, rfl, by decide +kernel, by decide +kernel⟩

/-- Without the second of three panes the focus jumps from the third to the first, which a join
then splits; a close in a tab behind the active one ends in that tab. -/
theorem removal_moves_user :
    ¬ (∀ (tabs : TabManager) (paneId : PaneId), Background tabs paneId → ∀ removal,
        tabs.removePaneById paneId = some removal → KeepsUser tabs removal.2) ∧
    ¬ (∀ (rt : UiRuntime) (paneId : PaneId), Background rt.tabs paneId →
        KeepsUser rt.tabs (rt.closePaneById paneId).tabs) ∧
    ¬ (∀ (rt : UiRuntime) (paneId : PaneId), Background rt.tabs paneId →
        rt.markedPaneId = some paneId → paneId ≠ rt.tabs.focusedPane → ∀ removal,
          rt.tabs.removePaneById paneId = some removal →
            removal.2.focusedPane = rt.tabs.focusedPane) := by
  have removed : ∃ removal, oneTab.removePaneById 2 = some removal ∧
      removal.2.focusedPane ≠ oneTab.focusedPane ∧ ¬ KeepsUser oneTab removal.2 :=
    ⟨_, rfl, by decide +kernel, by decide +kernel⟩
  obtain ⟨removal, taken, split, moved⟩ := removed
  refine ⟨fun all => ?_, fun all => ?_, fun all => ?_⟩
  · exact moved (all oneTab 2 background_oneTab removal taken)
  · have visited : ¬ KeepsUser behindTab ((secondMarked behindTab).closePaneById 2).tabs := by
      decide +kernel
    exact visited (all (secondMarked behindTab) 2 background_behindTab)
  · have elsewhere : 2 ≠ oneTab.focusedPane := by decide +kernel
    exact split (all (secondMarked oneTab) 2 background_oneTab rfl elsewhere removal taken)

end Removal

end Boo.Runtime.BackgroundRemoval
