/- module: Boo/Runtime/PaneCount
   digest: No operation on tabs and trees drops or duplicates a pane. -/

import Boo.Runtime.TabOps
import Mathlib.Algebra.Order.Group.Multiset
import Mathlib.Tactic.Abel
import Mathlib.Tactic.FinCases

set_option autoImplicit false
set_option relaxedAutoImplicit false

namespace Boo.Runtime.PaneCount

open Boo.Lib.Runs
open Boo.Server.Frames
open Boo.Runtime.Splits
open Boo.Runtime.Leaves
open Boo.Runtime.Tabs
open Boo.Runtime.TabOps

section Lists

variable {A B : Type} {f : A → List B}

/-- Changing one item changes its own share and no other. -/
theorem coe_flatMap_modify {items : List A} {index : Nat} {item : A} (update : A → A)
    (held : items[index]? = some item) :
    (((items.modify index update).flatMap f : List B) : Multiset B) + (f item : Multiset B) =
      ((items.flatMap f : List B) : Multiset B) + (f (update item) : Multiset B) := by
  induction items generalizing index with
  | nil => cases held
  | cons first rest ih =>
      cases index with
      | zero =>
          cases held
          simp only [List.modify_zero_cons, List.flatMap_cons, ← Multiset.coe_add]
          abel
      | succ index =>
          have tail := ih held
          simp only [List.modify_succ_cons, List.flatMap_cons, ← Multiset.coe_add]
          rw [add_assoc, tail, ← add_assoc]

theorem coe_flatMap_eraseIdx {items : List A} {index : Nat} {item : A}
    (held : items[index]? = some item) :
    (((items.eraseIdx index).flatMap f : List B) : Multiset B) + (f item : Multiset B) =
      ((items.flatMap f : List B) : Multiset B) := by
  induction items generalizing index with
  | nil => cases held
  | cons first rest ih =>
      cases index with
      | zero =>
          cases held
          simp only [List.eraseIdx_cons_zero, List.flatMap_cons, ← Multiset.coe_add]
          abel
      | succ index =>
          have tail := ih held
          simp only [List.eraseIdx_cons_succ, List.flatMap_cons, ← Multiset.coe_add]
          rw [add_assoc, tail]

end Lists

def treePanes (tree : SplitTree) : Multiset LivePane := tree.allPanes

/-- The panes of all tabs. -/
def panes (tabs : TabManager) : Multiset LivePane := tabs.allPanes

/-- The panes of the tab at `index`, those that `remove_tab` returns. -/
def tabPanes (tabs : TabManager) (index : Nat) : Multiset LivePane := tabs.panesAt index

/-- What `remove_focused` returns, or else what `remove_tab` does. -/
def closedPanes (tabs : TabManager) : Multiset LivePane :=
  match tabs.activeTree.bind SplitTree.removeFocused with
  | some (pane, _) => {pane}
  | none => tabPanes tabs tabs.active

namespace TabOp

/-- A split adds its pane where the active tab has a tree to split. -/
def added (tabs : TabManager) : TabOp → Multiset LivePane
  | .newTab pane => {pane}
  | .split _ pane _ => if (tabs.activeTree.bind SplitTree.root).isSome then {pane} else 0
  | _ => 0

/-- The panes that the operation returns for cleanup. -/
def removed (tabs : TabManager) : TabOp → Multiset LivePane
  | .closeFocused => closedPanes tabs
  | .closePane paneId =>
      match tabs.findPaneLocation paneId with
      | none => 0
      | some (index, leaf) => closedPanes ((tabs.gotoTab index).updateActiveTree (·.setFocus leaf))
  | .removePane paneId =>
      match tabs.removePaneById paneId with
      | none => 0
      | some (pane, _) => {pane}
  | .removeTab index => tabPanes tabs index
  | _ => 0

/-- The operations that put a pane where the focus of the active tab is. -/
def AtFocus : TabOp → Prop
  | .split _ _ _ | .joinPane _ _ => True
  | _ => False

end TabOp

def run (tabs : TabManager) (ops : List TabOp) : TabManager := ops.foldl TabOp.apply tabs

def addedAll (tabs : TabManager) : List TabOp → Multiset LivePane
  | [] => 0
  | op :: ops => TabOp.added tabs op + addedAll (op.apply tabs) ops

def removedAll (tabs : TabManager) : List TabOp → Multiset LivePane
  | [] => 0
  | op :: ops => TabOp.removed tabs op + removedAll (op.apply tabs) ops

/-- The active index names a tab while there is one. -/
def ActiveOk (tabs : TabManager) : Prop := tabs.tabs ≠ [] → tabs.active < tabs.tabs.length

/-- What every manager satisfies that the operations build. -/
structure WellFormed (tabs : TabManager) : Prop where
  trees : AllTrees Focused tabs
  active : ActiveOk tabs

/-- The panes at the end are those at the start and the added ones less the returned ones. -/
structure Conserves (tabs : TabManager) (ops : List TabOp) : Prop where
  panes : panes (run tabs ops) + removedAll tabs ops = panes tabs + addedAll tabs ops
  active : ActiveOk (run tabs ops)
  nonempty : ∀ tab ∈ (run tabs ops).tabs, tab.tree.len ≠ 0

section Updates

open TabManager

variable {tabs : TabManager} {index : Nat} {tab : Tab}

theorem panes_updateTab (update : Tab → Tab) (held : tabs.tabs[index]? = some tab) :
    panes (tabs.updateTab index update) + treePanes tab.tree =
      panes tabs + treePanes (update tab).tree :=
  coe_flatMap_modify update held

/-- An update that keeps the panes of every tree. -/
theorem panes_updateTab_same {update : Tab → Tab}
    (same : ∀ tab, tabs.tabs[index]? = some tab →
      treePanes (update tab).tree = treePanes tab.tree) :
    panes (tabs.updateTab index update) = panes tabs := by
  cases held : tabs.tabs[index]? with
  | none =>
      rw [TabManager.updateTab, List.modify_eq_self (List.getElem?_eq_none_iff.mp held)]
  | some tab =>
      have moved := panes_updateTab update held
      rw [same tab held] at moved
      exact add_right_cancel moved

theorem panes_updateActiveTree_same {update : SplitTree → SplitTree}
    (same : ∀ tree, treePanes (update tree) = treePanes tree) :
    panes (tabs.updateActiveTree update) = panes tabs :=
  panes_updateTab_same fun tab _ => same tab.tree

theorem panes_removeTab (tabs : TabManager) (index : Nat) :
    panes (tabs.removeTab index) + tabPanes tabs index = panes tabs := by
  rw [TabManager.removeTab, tabPanes, panesAt, tabTree]
  split
  · rename_i outside
    rw [List.getElem?_eq_none outside]
    exact add_zero _
  · rename_i inside
    have held := List.getElem?_eq_getElem (Nat.not_le.mp inside)
    rw [held]
    exact coe_flatMap_eraseIdx held

theorem panes_newTab (tabs : TabManager) (pane : LivePane) :
    panes (tabs.newTab pane) = panes tabs + {pane} := by
  have appended : (tabs.newTab pane).allPanes = tabs.allPanes ++ [pane] := by
    show List.flatMap _ (tabs.tabs ++ [tabs.freshTab pane]) = _
    rw [List.flatMap_append]
    rfl
  rw [panes, appended, ← Multiset.coe_add]
  rfl

theorem panes_gotoTab (tabs : TabManager) (index : Nat) :
    panes (tabs.gotoTab index) = panes tabs := by
  rw [TabManager.gotoTab]
  split <;> rfl

/-- The tail of every removal takes one pane away. -/
theorem panes_dropTree {tree : SplitTree} {pane : LivePane} {update : Tab → Tab}
    (held : tabs.tabs[index]? = some tab) (newTree : ∀ tab, (update tab).tree = tree)
    (split : treePanes tab.tree = treePanes tree + {pane}) :
    panes (if tree.len = 0 then (tabs.updateTab index update).removeTab index
      else tabs.updateTab index update) + {pane} = panes tabs := by
  have moved := panes_updateTab update held
  rw [newTree, split, add_comm (treePanes tree) {pane}, ← add_assoc] at moved
  have updated := add_right_cancel moved
  split
  · rename_i empty
    have gone := panes_removeTab (tabs.updateTab index update) index
    have atIndex : (tabs.updateTab index update).tabs[index]? = some (update tab) := by
      rw [TabManager.updateTab, List.getElem?_modify_eq, held]
      rfl
    have nothing : tabPanes (tabs.updateTab index update) index = 0 := by
      rw [tabPanes, panesAt, tabTree, atIndex, Option.map_some, Option.map_some, newTree,
        SplitTree.allPanes, (len_eq_zero_iff tree).mp empty]
      rfl
    rw [nothing, add_zero] at gone
    rw [gone, updated]
  · exact updated

end Updates

section Active

open TabManager

variable {tabs : TabManager}

theorem ActiveOk.updateTab (ok : ActiveOk tabs) (index : Nat) (update : Tab → Tab) :
    ActiveOk (tabs.updateTab index update) := by
  intro present
  show tabs.active < (tabs.tabs.modify index update).length
  rw [List.length_modify]
  apply ok
  intro none
  apply present
  show tabs.tabs.modify index update = []
  rw [none, List.modify_nil]

theorem activeOk_newTab (tabs : TabManager) (pane : LivePane) : ActiveOk (tabs.newTab pane) := by
  intro _
  show tabs.tabs.length < (tabs.tabs ++ [tabs.freshTab pane]).length
  simp

theorem ActiveOk.gotoTab (ok : ActiveOk tabs) (index : Nat) : ActiveOk (tabs.gotoTab index) := by
  rw [TabManager.gotoTab]
  split
  · exact ok
  · rename_i inside
    rw [not_or, Nat.not_le] at inside
    exact fun _ => inside.1

theorem ActiveOk.removeTab (ok : ActiveOk tabs) (index : Nat) : ActiveOk (tabs.removeTab index) := by
  rw [TabManager.removeTab]
  split
  · exact ok
  · rename_i inside
    intro present
    have length := List.length_eraseIdx_of_lt (Nat.not_le.mp inside)
    have positive := List.length_pos_iff.mpr present
    show activeAfterRemoval _ _ _ < (tabs.tabs.eraseIdx index).length
    have below := @activeAfterRemoval_lt tabs.active index (tabs.tabs.length - 1)
    rw [length] at positive ⊢
    rwa [Nat.max_eq_left positive] at below

theorem ActiveOk.dropTree (ok : ActiveOk tabs) (index : Nat) (tree : SplitTree)
    (update : Tab → Tab) :
    ActiveOk (if tree.len = 0 then (tabs.updateTab index update).removeTab index
      else tabs.updateTab index update) := by
  split
  · exact (ok.updateTab index update).removeTab index
  · exact ok.updateTab index update

/-- What `remove_pane_by_id` does to the tab that holds the pane. -/
theorem removePaneById_spec {paneId : PaneId} {pane : LivePane} {without : TabManager}
    (removal : tabs.removePaneById paneId = some (pane, without)) :
    ∃ index tab tree, tabs.tabs[index]? = some tab ∧ tab.tree.removePane paneId = some (pane, tree) ∧
      without = if tree.len = 0 then (tabs.putTree index tree).removeTab index
        else if index = tabs.active then
          (tabs.putTree index tree).updateTree index fun tree =>
            (tree.setFocusToPane tree.focusedPane).getD tree
        else tabs.putTree index tree := by
  rw [removePaneById, Option.bind_eq_some_iff] at removal
  obtain ⟨⟨index, leaf⟩, -, removal⟩ := removal
  rw [Option.map_eq_some_iff] at removal
  obtain ⟨⟨gone, tree⟩, held, same⟩ := removal
  rw [Option.bind_eq_some_iff] at held
  obtain ⟨old, held, taken⟩ := held
  rw [tabTree, Option.map_eq_some_iff] at held
  obtain ⟨tab, atIndex, rfl⟩ := held
  cases same
  exact ⟨index, tab, tree, atIndex, taken, rfl⟩

end Active

section Steps

open TabManager

variable {tabs : TabManager}

theorem treePanes_removeLeafId {tree removed : SplitTree} {target : LeafId} {pane : LivePane}
    (removal : tree.removeLeafId target = some (pane, removed)) :
    treePanes tree = treePanes removed + {pane} := by
  obtain ⟨-, panes, -⟩ := removeLeafId_spec removal
  rw [treePanes, Multiset.coe_eq_coe.mpr panes, ← Multiset.cons_coe, ← Multiset.singleton_add,
    add_comm]
  rfl

theorem treePanes_move {tree moved : SplitTree} (move : FocusMove tree moved) :
    treePanes moved = treePanes tree := by
  rcases move with rfl | ⟨id, -, rfl⟩ <;> rfl

theorem tab_of_activeTree {tree : SplitTree} (held : tabs.activeTree = some tree) :
    ∃ tab, tabs.tabs[tabs.active]? = some tab ∧ tab.tree = tree := by
  rw [activeTree, tabTree, Option.map_eq_some_iff] at held
  exact held

theorem panes_closeFocused (tabs : TabManager) :
    panes (closeFocused tabs) + closedPanes tabs = panes tabs := by
  rw [closeFocused, closedPanes]
  cases removal : tabs.activeTree.bind SplitTree.removeFocused with
  | none => exact panes_removeTab tabs tabs.active
  | some removed =>
      obtain ⟨pane, tree⟩ := removed
      obtain ⟨old, held, taken⟩ := Option.bind_eq_some_iff.mp removal
      obtain ⟨tab, atActive, rfl⟩ := tab_of_activeTree held
      exact panes_dropTree atActive (fun _ => rfl) (treePanes_removeLeafId taken)

theorem panes_removePaneById {paneId : PaneId} {pane : LivePane} {without : TabManager}
    (removal : tabs.removePaneById paneId = some (pane, without)) :
    panes without + {pane} = panes tabs := by
  obtain ⟨index, tab, tree, atIndex, taken, rfl⟩ := removePaneById_spec removal
  obtain ⟨target, taken⟩ := removePane_spec taken
  have dropped := @panes_dropTree tabs index tab tree pane
    (fun tab => { tab with
      tree := tree
      layout := .manual }) atIndex (fun _ => rfl) (treePanes_removeLeafId taken)
  split
  · rename_i empty
    rwa [if_pos empty] at dropped
  · rename_i nonempty
    rw [if_neg nonempty] at dropped
    split
    · rw [TabManager.updateTree, panes_updateTab_same fun tab _ =>
        treePanes_move (focusMove_setFocusToPane _)]
      exact dropped
    · exact dropped

theorem activeOk_removePaneById (ok : ActiveOk tabs) {paneId : PaneId} {pane : LivePane}
    {without : TabManager} (removal : tabs.removePaneById paneId = some (pane, without)) :
    ActiveOk without := by
  obtain ⟨index, tab, tree, -, -, rfl⟩ := removePaneById_spec removal
  split
  · exact (ok.updateTab index _).removeTab index
  · split
    · exact (ok.updateTab index _).updateTab index _
    · exact ok.updateTab index _

/-- A tab whose last pane is taken had the focus on that pane. -/
theorem focusedPane_of_emptied {tree removed : SplitTree} {paneId : PaneId} {pane : LivePane}
    (focused : Focused tree) (removal : tree.removePane paneId = some (pane, removed))
    (empty : removed.len = 0) : tree.focusedPane = paneId := by
  obtain ⟨root, held, member⟩ := focused.focus.root
  rw [SplitTree.removePane, held, Option.bind_some] at removal
  obtain ⟨target, located, removal⟩ := Option.bind_eq_some_iff.mp removal
  rw [SplitTree.removeLeafId, held, Option.bind_some] at removal
  split at removal
  · rename_i gone remaining taken
    cases removal
    have none : remaining = none := (len_eq_zero_iff _).mp empty
    subst none
    have leaf := eq_leaf_of_removeLeaf taken
    subst leaf
    rw [collectLeafIds, List.mem_singleton] at member
    rw [findLeafIdByPane] at located
    split at located
    · rename_i same
      rw [SplitTree.focusedPane, held, Option.bind_some, findLeaf, if_pos member.symm]
      exact same
    · cases located
  · cases removal

/-- A join always leaves a tab to join. -/
theorem nonempty_removePaneById (formed : WellFormed tabs) {paneId : PaneId} {pane : LivePane}
    {without : TabManager} (removal : tabs.removePaneById paneId = some (pane, without))
    (elsewhere : paneId ≠ tabs.focusedPane) : without.tabs ≠ [] := by
  obtain ⟨index, tab, tree, atIndex, taken, rfl⟩ := removePaneById_spec removal
  have inside : index < tabs.tabs.length := (List.getElem?_eq_some_iff.mp atIndex).1
  have active := formed.active (List.ne_nil_of_length_pos (Nat.zero_lt_of_lt inside))
  apply List.ne_nil_of_length_pos
  split
  · rename_i empty
    have other : index ≠ tabs.active := by
      rintro rfl
      apply elsewhere
      rw [focusedPane, activeTree, tabTree, atIndex]
      exact (focusedPane_of_emptied (formed.trees tab (List.mem_of_getElem? atIndex)) taken
        empty).symm
    rw [TabManager.removeTab, TabManager.putTree, TabManager.updateTab, List.length_modify,
      if_neg (Nat.not_le.mpr inside)]
    show 0 < (List.eraseIdx _ index).length
    rw [List.length_eraseIdx_of_lt (by rwa [List.length_modify]), List.length_modify]
    omega
  · split
    · show 0 < (List.modify (List.modify _ _ _) _ _).length
      rw [List.length_modify, List.length_modify]
      omega
    · show 0 < (List.modify _ _ _).length
      rw [List.length_modify]
      omega

theorem activeTree_of_nonempty (formed : WellFormed tabs) (present : tabs.tabs ≠ []) :
    ∃ tab, tabs.tabs[tabs.active]? = some tab ∧ Focused tab.tree := by
  have held := List.getElem?_eq_getElem (formed.active present)
  exact ⟨_, held, formed.trees _ (List.getElem_mem (formed.active present))⟩

theorem treePanes_split {tree : SplitTree} (focused : Focused tree) (direction : Direction)
    (pane : LivePane) (ratio : ℚ) :
    treePanes (tree.splitFocusedWithRatio direction pane ratio) = treePanes tree + {pane} := by
  rw [treePanes, Multiset.coe_eq_coe.mpr (panes_splitFocusedWithRatio focused.sound focused.focus
    direction pane ratio), ← Multiset.cons_coe, ← Multiset.singleton_add, add_comm]
  rfl

theorem panes_split {tab : Tab} (atActive : tabs.tabs[tabs.active]? = some tab)
    (focused : Focused tab.tree) (direction : Direction) (pane : LivePane) (ratio : ℚ) :
    panes (tabs.updateActiveTree (·.splitFocusedWithRatio direction pane ratio)) =
      panes tabs + {pane} := by
  have moved := @panes_updateTab tabs tabs.active tab
    (fun tab => { tab with tree := tab.tree.splitFocusedWithRatio direction pane ratio }) atActive
  dsimp only at moved
  rw [treePanes_split focused, add_comm (treePanes tab.tree) {pane}, ← add_assoc] at moved
  exact add_right_cancel moved

end Steps

section Runs

open TabManager

variable {tabs : TabManager} {op : TabOp}

theorem activeOk_closeFocused (ok : ActiveOk tabs) : ActiveOk (closeFocused tabs) := by
  rw [closeFocused]
  split
  · exact ok.dropTree tabs.active _ _
  · exact ok.removeTab tabs.active

theorem activeOk_apply (ok : ActiveOk tabs) : ActiveOk (op.apply tabs) := by
  cases op with
  | newTab pane => exact activeOk_newTab tabs pane
  | closeFocused => exact activeOk_closeFocused ok
  | closePane paneId =>
      show ActiveOk (closePane tabs paneId)
      rw [closePane]
      split
      · exact ok
      · exact activeOk_closeFocused ((ok.gotoTab _).updateTab _ _)
  | removePane paneId =>
      show ActiveOk (((tabs.removePaneById paneId).map Prod.snd).getD tabs)
      cases removal : tabs.removePaneById paneId with
      | none => exact ok
      | some removed => exact activeOk_removePaneById ok removal
  | removeTab index => exact ok.removeTab index
  | gotoTab index => exact ok.gotoTab index
  | nextTab =>
      show ActiveOk tabs.nextTab
      rw [TabManager.nextTab]
      split
      · exact ok
      · exact ok.gotoTab _
  | prevTab =>
      show ActiveOk tabs.prevTab
      rw [TabManager.prevTab]
      split
      · exact ok
      · exact ok.gotoTab _
  | breakPane =>
      show ActiveOk (tabs.breakActivePaneToTab.getD tabs)
      rw [TabManager.breakActivePaneToTab]
      split
      · exact ok
      · exact activeOk_newTab _ _
  | joinPane marked direction =>
      show ActiveOk (joinPane tabs marked direction)
      rw [joinPane]
      split
      · exact ok
      · split
        · exact ok
        · rename_i pane without removal
          exact (activeOk_removePaneById ok removal).updateTab _ _
  | _ => exact ok.updateTab _ _

theorem WellFormed.apply (formed : WellFormed tabs) (named : op.NamesLeaf tabs) :
    WellFormed (op.apply tabs) :=
  ⟨allTrees_apply closed_focused formed.trees named, activeOk_apply formed.active⟩

theorem panes_breakActivePaneToTab {broken : TabManager}
    (found : tabs.breakActivePaneToTab = some broken) : panes broken = panes tabs := by
  rw [TabManager.breakActivePaneToTab] at found
  split at found
  · cases found
  · rename_i pane tree removal
    cases found
    obtain ⟨old, held, taken⟩ := Option.bind_eq_some_iff.mp removal
    obtain ⟨tab, atActive, rfl⟩ := tab_of_activeTree held
    rw [panes_newTab]
    exact panes_dropTree atActive (fun _ => rfl) (treePanes_removeLeafId taken)

theorem panes_applyLayoutToActive (layout : TabLayout) :
    panes (tabs.applyLayoutToActive layout) = panes tabs := by
  apply panes_updateTab_same
  intro tab _
  dsimp only
  split
  · rfl
  · rename_i several
    have present : tab.tree.allPanes ≠ [] := fun none => several (by rw [none]; exact Nat.zero_le 1)
    exact Multiset.coe_eq_coe.mpr (rebuildFromPanes_spec tab.tree present _ _).2

theorem panes_joinPane (formed : WellFormed tabs) (marked : PaneId) (direction : Direction) :
    panes (joinPane tabs marked direction) = panes tabs := by
  rw [joinPane]
  split
  · rfl
  · rename_i elsewhere
    rw [not_or] at elsewhere
    split
    · rfl
    · rename_i pane without removal
      have formedWithout : WellFormed without :=
        ⟨allTrees_removePaneById closed_focused formed.trees removal,
          activeOk_removePaneById formed.active removal⟩
      have present := nonempty_removePaneById formed removal elsewhere.2
      obtain ⟨tab, atActive, focused⟩ := activeTree_of_nonempty formedWithout present
      rw [← panes_removePaneById removal]
      exact panes_split atActive focused direction pane (1 / 2)

/-- One step that puts no pane where the focus is conserves the panes, whatever that focus is. -/
theorem panes_apply_sound (sound : AllTrees Sound tabs) (elsewhere : ¬ TabOp.AtFocus op) :
    panes (op.apply tabs) + TabOp.removed tabs op = panes tabs + TabOp.added tabs op := by
  have same : ∀ update : SplitTree → SplitTree, (∀ tree, treePanes (update tree) = treePanes tree) →
      panes (tabs.updateActiveTree update) + 0 = panes tabs + 0 := by
    intro update keeps
    rw [panes_updateActiveTree_same keeps]
  have moves : ∀ move : SplitTree → SplitTree, (∀ tree, FocusMove tree (move tree)) →
      panes (tabs.updateActiveTree move) + 0 = panes tabs + 0 :=
    fun move isMove => same move fun tree => treePanes_move (isMove tree)
  cases op with
  | newTab pane => exact (add_zero _).trans (panes_newTab tabs pane)
  | split direction pane ratio => exact absurd trivial elsewhere
  | focusSurface index => exact same _ fun _ => rfl
  | focusPane paneId => exact moves _ fun tree => focusMove_setFocusToPane paneId
  | focusDirection frame direction => exact moves _ fun tree => focusMove_focusDirection frame direction
  | focusAt frame point => exact moves _ fun tree => focusMove_focusAt frame point
  | focusNext => exact moves _ fun tree => focusMove_focusOffset _
  | focusPrev => exact moves _ fun tree => focusMove_focusOffset _
  | closeFocused => exact (panes_closeFocused tabs).trans (add_zero _).symm
  | closePane paneId =>
      show panes (closePane tabs paneId) + TabOp.removed tabs (.closePane paneId) = panes tabs + 0
      rw [closePane, TabOp.removed, add_zero]
      cases tabs.findPaneLocation paneId with
      | none => exact add_zero _
      | some location =>
          have refocused : panes ((tabs.gotoTab location.1).updateActiveTree
              (·.setFocus location.2)) = panes (tabs.gotoTab location.1) :=
            panes_updateActiveTree_same fun _ => rfl
          rw [← panes_gotoTab tabs location.1, ← refocused]
          exact panes_closeFocused _
  | removePane paneId =>
      show panes (((tabs.removePaneById paneId).map Prod.snd).getD tabs) +
        TabOp.removed tabs (.removePane paneId) = panes tabs + 0
      rw [TabOp.removed, add_zero]
      cases removal : tabs.removePaneById paneId with
      | none => exact add_zero _
      | some removed => exact panes_removePaneById removal
  | removeTab index => exact (panes_removeTab tabs index).trans (add_zero _).symm
  | gotoTab index => exact congrArg (· + 0) (panes_gotoTab tabs index)
  | nextTab =>
      show panes tabs.nextTab + 0 = panes tabs + 0
      rw [TabManager.nextTab]
      split
      · rfl
      · rw [panes_gotoTab]
  | prevTab =>
      show panes tabs.prevTab + 0 = panes tabs + 0
      rw [TabManager.prevTab]
      split
      · rfl
      · rw [panes_gotoTab]
  | swap next =>
      refine congrArg (· + 0) (panes_updateTab_same fun tab _ => ?_)
      show treePanes ((tab.tree.swapFocusedWithAdjacent next).getD tab.tree) = _
      cases swap : tab.tree.swapFocusedWithAdjacent next with
      | none => rfl
      | some swapped => exact Multiset.coe_eq_coe.mpr (panes_swapFocusedWithAdjacent swap)
  | rotate forward =>
      refine congrArg (· + 0) (panes_updateTab_same fun tab held => ?_)
      show treePanes ((tab.tree.rotatePanes forward).getD tab.tree) = _
      cases rotate : tab.tree.rotatePanes forward with
      | none => rfl
      | some rotated =>
          have soundTab := sound tab (List.mem_of_getElem? held)
          exact Multiset.coe_eq_coe.mpr (panes_rotatePanes soundTab rotate)
  | applyLayout layout => exact congrArg (· + 0) (panes_applyLayoutToActive layout)
  | cycleLayout forward => exact congrArg (· + 0) (panes_applyLayoutToActive _)
  | rebalance =>
      refine same _ fun tree => ?_
      rw [treePanes, SplitTree.rebalance, treePanes]
      cases held : tree.root with
      | none => simp [SplitTree.allPanes, held]
      | some root => simp [SplitTree.allPanes, held, panes_rebalanceNode]
  | resize ratios =>
      refine same _ fun tree => ?_
      rw [treePanes, SplitTree.retune, treePanes]
      cases held : tree.root with
      | none => simp [SplitTree.allPanes, held]
      | some root => simp [SplitTree.allPanes, held, panes_retuneNode]
  | breakPane =>
      show panes (tabs.breakActivePaneToTab.getD tabs) + 0 = panes tabs + 0
      cases broken : tabs.breakActivePaneToTab with
      | none => rfl
      | some without => exact congrArg (· + 0) (panes_breakActivePaneToTab broken)
  | joinPane marked direction => exact absurd trivial elsewhere

/-- One step conserves the panes of a well-formed manager. -/
theorem panes_apply (formed : WellFormed tabs) :
    panes (op.apply tabs) + TabOp.removed tabs op = panes tabs + TabOp.added tabs op := by
  have sound : AllTrees Sound tabs := fun tab member => (formed.trees tab member).sound
  cases op with
  | split direction pane ratio =>
      by_cases present : tabs.tabs = []
      · have none : tabs.activeTree = none := by
          rw [activeTree, tabTree, present]
          rfl
        have untouched : tabs.updateActiveTree (·.splitFocusedWithRatio direction pane ratio) =
            tabs := by
          rw [updateActiveTree, updateTree, TabManager.updateTab, present, List.modify_nil,
            ← present]
        show panes (tabs.updateActiveTree _) + 0 = _
        rw [untouched, TabOp.added, none]
        rfl
      · obtain ⟨tab, atActive, focused⟩ := activeTree_of_nonempty formed present
        have taken : (tabs.activeTree.bind SplitTree.root).isSome := by
          rw [activeTree, tabTree, atActive]
          exact Option.isSome_iff_ne_none.mpr focused.sound.nonempty
        show panes (tabs.updateActiveTree _) + 0 = _
        rw [panes_split atActive focused, TabOp.added, if_pos taken, add_zero]
  | joinPane marked direction => exact congrArg (· + 0) (panes_joinPane formed marked direction)
  | _ => exact panes_apply_sound sound not_false

theorem conserves_of_namesLeaf {ops : List TabOp} (formed : WellFormed tabs)
    (named : Always TabOp.apply TabOp.NamesLeaf tabs ops) : Conserves tabs ops := by
  induction ops generalizing tabs with
  | nil =>
      refine ⟨rfl, formed.active, fun tab member => ?_⟩
      rw [ne_eq, len_eq_zero_iff]
      exact (formed.trees tab member).sound.nonempty
  | cons op ops ih =>
      obtain ⟨first, later⟩ := named
      have rest := ih (formed.apply first) later
      refine ⟨?_, rest.active, rest.nonempty⟩
      have step := @panes_apply tabs op formed
      show panes (run (op.apply tabs) ops) + (TabOp.removed tabs op + removedAll (op.apply tabs) ops) =
        panes tabs + (TabOp.added tabs op + addedAll (op.apply tabs) ops)
      rw [add_comm (TabOp.removed tabs op), ← add_assoc, rest.panes, add_right_comm, step, add_assoc]

/-- Whatever the operations do but focus a leaf by its id, no pane is lost or doubled. -/
theorem panes_conserved {ops : List TabOp} (formed : WellFormed tabs)
    (unfocused : ∀ index, TabOp.focusSurface index ∉ ops) : Conserves tabs ops := by
  apply conserves_of_namesLeaf formed
  clear formed
  induction ops generalizing tabs with
  | nil => trivial
  | cons op ops ih =>
      refine ⟨?_, ih fun index member => unfocused index (List.mem_cons_of_mem _ member)⟩
      cases op with
      | focusSurface index => exact absurd List.mem_cons_self (unfocused index)
      | _ => trivial

theorem wellFormed_new : WellFormed TabManager.new :=
  ⟨fun _ member => (by cases member), fun present => absurd rfl present⟩

theorem panes_conserved_splitAndBreak : Conserves TabManager.new
    [.newTab ⟨1, live_one⟩, .split .horizontal ⟨2, live_two⟩ (1 / 2), .breakPane,
      .joinPane 1 .vertical] :=
  panes_conserved wellFormed_new (by simp)

end Runs

section Unbuilt

/-- A manager of tabs with the given trees. -/
def withTrees (trees : List SplitTree) (active : Nat) : TabManager where
  tabs := trees.zipIdx.map fun entry => ⟨entry.2, entry.1, "", .manual, none⟩
  active := active
  prevActive := 0
  nextTabId := trees.length

def onePane : SplitTree := ⟨some (.leaf 0 ⟨5, by decide⟩), 1, 0⟩

def twinLeaves : SplitTree :=
  ⟨some (.split .horizontal (1 / 2) (.leaf 0 ⟨5, by decide⟩) (.leaf 0 ⟨6, by decide⟩)), 1, 0⟩

def staleCounter : SplitTree := ⟨some (.leaf 0 ⟨5, by decide⟩), 0, 0⟩

/-- A valid focus is not enough in a manager that no operations build: an empty active tree drops
a joined pane, leaves with one id or an id that comes again double a pane, and an active index
beyond the tabs stays there. -/
theorem unbuilt_manager_loses_panes :
    ¬ Conserves (withTrees [.new, onePane] 0) [.joinPane 5 .horizontal] ∧
      ¬ Conserves (withTrees [twinLeaves] 0) [.split .vertical ⟨7, by decide⟩ (1 / 2)] ∧
      ¬ Conserves (withTrees [staleCounter] 0)
        [.split .vertical ⟨7, by decide⟩ (1 / 2), .split .vertical ⟨8, by decide⟩ (1 / 2)] ∧
      ¬ Conserves (withTrees [onePane] 3) [] ∧
      AllTrees FocusNamesLeaf (withTrees [.new, onePane, twinLeaves, staleCounter] 0) := by
  refine ⟨fun held => ?_, fun held => ?_, fun held => ?_, fun held => ?_, ?_⟩
  · exact absurd (congrArg Multiset.card held.panes) (by decide)
  · exact absurd (congrArg Multiset.card held.panes) (by decide)
  · exact absurd (congrArg Multiset.card held.panes) (by decide)
  · exact absurd (held.active (List.cons_ne_nil _ _)) (by decide)
  · intro tab member
    fin_cases member
    · exact fun present => absurd rfl present
    · exact fun _ => List.mem_cons_self
    · exact fun _ => List.mem_cons_self
    · exact fun _ => List.mem_cons_self

end Unbuilt

end Boo.Runtime.PaneCount
