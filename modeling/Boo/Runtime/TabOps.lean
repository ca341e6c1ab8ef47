/- module: Boo/Runtime/TabOps
   digest: The operations on tabs and split trees as steps, and what every run keeps. -/

import Boo.Lib.Runs
import Boo.Runtime.Leaves
import Boo.Runtime.Ui

set_option autoImplicit false
set_option relaxedAutoImplicit false

namespace Boo.Runtime.TabOps

open Boo.Lib.Runs
open Boo.Server.Frames
open Boo.Runtime.Splits
open Boo.Runtime.Leaves
open Boo.Runtime.Tabs

inductive PaneFocusDirection
  | left | right | up | down
  deriving DecidableEq, Repr

/-! Focus by geometry (splits.rs). -/

def leafAtPoint (frame : Rect) (point : ℚ × ℚ) : Node → Option LeafId
  | .leaf id _ =>
      if frame.x ≤ point.1 ∧ point.1 ≤ frame.x + frame.width ∧
          frame.y ≤ point.2 ∧ point.2 ≤ frame.y + frame.height then some id
      else none
  | .split direction ratio first second =>
      (leafAtPoint (splitFrame frame direction ratio).1 point first).or
        (leafAtPoint (splitFrame frame direction ratio).2 point second)

def axisSeparation (aMin aMax bMin bMax : ℚ) : ℚ :=
  if aMax < bMin then bMin - aMax else if bMax < aMin then aMin - bMax else 0

/-- `f64::EPSILON`. -/
def epsilon : ℚ := 1 / 2 ^ 52

/-- The primary and the secondary distance, or `none` for a pane on another side. -/
def paneDistance (direction : PaneFocusDirection) (current frame : Rect) : Option (ℚ × ℚ) :=
  let offAxisY := min
    (axisSeparation current.y (current.y + current.height) frame.y (frame.y + frame.height))
    |(frame.y + frame.height / 2) - (current.y + current.height / 2)|
  let offAxisX := min
    (axisSeparation current.x (current.x + current.width) frame.x (frame.x + frame.width))
    |(frame.x + frame.width / 2) - (current.x + current.width / 2)|
  match direction with
  | .left =>
      if current.x < frame.x + frame.width then none
      else some (current.x - (frame.x + frame.width), offAxisY)
  | .right =>
      if frame.x < current.x + current.width then none
      else some (frame.x - (current.x + current.width), offAxisY)
  | .up =>
      if current.y < frame.y + frame.height then none
      else some (current.y - (frame.y + frame.height), offAxisX)
  | .down =>
      if frame.y < current.y + current.height then none
      else some (frame.y - (current.y + current.height), offAxisX)

def closer (best candidate : LeafId × ℚ × ℚ) : Bool :=
  candidate.2.1 < best.2.1 ∨
    (|candidate.2.1 - best.2.1| < epsilon ∧ candidate.2.2 < best.2.2)

/-- One turn of the loop over the panes in `focus_direction`. -/
def bestPane (direction : PaneFocusDirection) (currentId : LeafId) (current : Rect)
    (best : Option (LeafId × ℚ × ℚ)) (pane : ExportedPane) : Option (LeafId × ℚ × ℚ) :=
  if pane.leafId = currentId then best
  else
    match pane.frame.bind (paneDistance direction current) with
    | none => best
    | some distance =>
        let candidate := (pane.leafId, distance)
        match best with
        | none => some candidate
        | some held => if closer held candidate then some candidate else some held

def refocus (tree : SplitTree) (target : Option LeafId) : SplitTree :=
  match target with
  | some id => if id = tree.focusedId then tree else tree.setFocus id
  | none => tree

def focusAt (tree : SplitTree) (frame : Rect) (point : ℚ × ℚ) : SplitTree :=
  refocus tree (tree.root.bind (leafAtPoint frame point))

def focusDirection (tree : SplitTree) (frame : Rect) (direction : PaneFocusDirection) : SplitTree :=
  let panes := tree.exportPanesWithFrames frame
  match (panes.find? (·.leafId = tree.focusedId)).bind fun pane =>
      pane.frame.map fun frame => (pane.leafId, frame) with
  | none => tree
  | some (currentId, current) =>
      refocus tree ((panes.foldl (bestPane direction currentId current) none).map Prod.fst)

/-! The handlers of runtime_panes.rs that move or close panes, as far as the tabs go. -/

def closeFocused (tabs : TabManager) : TabManager :=
  match tabs.activeTree.bind SplitTree.removeFocused with
  | some (_, tree) =>
      let without := tabs.updateTree tabs.active fun _ => tree
      if tree.len = 0 then without.removeTab tabs.active else without
  | none => tabs.removeTab tabs.active

def closePane (tabs : TabManager) (paneId : PaneId) : TabManager :=
  match tabs.findPaneLocation paneId with
  | none => tabs
  | some (index, leaf) => closeFocused ((tabs.gotoTab index).updateActiveTree (·.setFocus leaf))

/-- `remove_pane_by_id`, then `split_focused` of the active tab. -/
def joinPane (tabs : TabManager) (marked : PaneId) (direction : Direction) : TabManager :=
  if marked = 0 ∨ marked = tabs.focusedPane then tabs
  else
    match tabs.removePaneById marked with
    | none => tabs
    | some (pane, without) => without.updateActiveTree (·.splitFocused direction pane)

theorem tabs_handleSurfaceClosed (rt : Ui.UiRuntime) :
    rt.handleSurfaceClosed.tabs = closeFocused rt.tabs := by
  rw [Ui.UiRuntime.handleSurfaceClosed, closeFocused]
  cases rt.tabs.activeTree.bind SplitTree.removeFocused with
  | none =>
      dsimp only
      rw [Ui.UiRuntime.closeActiveTab, Ui.tabs_updateTabs, Ui.tabs_freePanes]
  | some removed => rfl

theorem tabs_closePaneById (rt : Ui.UiRuntime) (paneId : PaneId) :
    (rt.closePaneById paneId).tabs = closePane rt.tabs paneId := by
  rw [Ui.UiRuntime.closePaneById, closePane]
  cases rt.tabs.findPaneLocation paneId with
  | none => rfl
  | some location =>
      dsimp only
      rw [tabs_handleSurfaceClosed, Ui.tabs_updateTabs]

theorem tabs_joinMarkedPane (rt : Ui.UiRuntime) (marked : PaneId) (direction : Direction)
    (mark : rt.markedPaneId = some marked) :
    (rt.joinMarkedPane direction).tabs = joinPane rt.tabs marked direction := by
  rw [Ui.UiRuntime.joinMarkedPane, joinPane, mark]
  dsimp only
  split
  · rfl
  · cases rt.tabs.removePaneById marked <;> rfl

/-- The operations of the tab manager and of its active tree. -/
inductive TabOp
  | newTab (pane : LivePane)
  | split (direction : Direction) (pane : LivePane) (ratio : ℚ)
  | focusSurface (index : LeafId)
  | focusPane (paneId : PaneId)
  | focusDirection (frame : Rect) (direction : PaneFocusDirection)
  | focusAt (frame : Rect) (point : ℚ × ℚ)
  | focusNext
  | focusPrev
  | closeFocused
  | closePane (paneId : PaneId)
  | removePane (paneId : PaneId)
  | removeTab (index : Nat)
  | gotoTab (index : Nat)
  | nextTab
  | prevTab
  | swap (next : Bool)
  | rotate (forward : Bool)
  | applyLayout (layout : TabLayout)
  | cycleLayout (forward : Bool)
  | rebalance
  | resize (ratios : List Bool → Option ℚ)
  | breakPane
  | joinPane (marked : PaneId) (direction : Direction)

namespace TabOp

def apply (tabs : TabManager) : TabOp → TabManager
  | newTab pane => tabs.newTab pane
  | split direction pane ratio =>
      tabs.updateActiveTree (·.splitFocusedWithRatio direction pane ratio)
  | focusSurface index => tabs.updateActiveTree (·.setFocus index)
  | focusPane paneId =>
      tabs.updateActiveTree fun tree => (tree.setFocusToPane paneId).getD tree
  | focusDirection frame direction =>
      tabs.updateActiveTree (TabOps.focusDirection · frame direction)
  | focusAt frame point => tabs.updateActiveTree (TabOps.focusAt · frame point)
  | focusNext => tabs.updateActiveTree SplitTree.focusNext
  | focusPrev => tabs.updateActiveTree SplitTree.focusPrev
  | closeFocused => TabOps.closeFocused tabs
  | closePane paneId => TabOps.closePane tabs paneId
  | removePane paneId => ((tabs.removePaneById paneId).map Prod.snd).getD tabs
  | removeTab index => tabs.removeTab index
  | gotoTab index => tabs.gotoTab index
  | nextTab => tabs.nextTab
  | prevTab => tabs.prevTab
  | swap next => tabs.swapActivePaneWithAdjacent next
  | rotate forward => tabs.rotateActivePanes forward
  | applyLayout layout => tabs.applyLayoutToActive layout
  | cycleLayout forward => tabs.cycleActiveLayout forward
  | rebalance => tabs.rebalanceActiveLayout
  | resize ratios => tabs.updateActiveTree (·.retune ratios)
  | breakPane => tabs.breakActivePaneToTab.getD tabs
  | joinPane marked direction => TabOps.joinPane tabs marked direction

/-- Whatever leaf id a command names in the active tree is allowed there. -/
def Permitted (Allowed : SplitTree → LeafId → Prop) (tabs : TabManager) : TabOp → Prop
  | focusSurface index => ∀ tree, tabs.activeTree = some tree → Allowed tree index
  | _ => True

/-- The id that comes over the control socket is a leaf of the active tree. -/
def NamesLeaf (tabs : TabManager) (op : TabOp) : Prop :=
  op.Permitted (fun tree index => index ∈ tree.leafIds) tabs

end TabOp

section Focus

variable {tree : SplitTree}

/-- The focus stays or goes to a leaf. -/
def FocusMove (tree moved : SplitTree) : Prop :=
  moved = tree ∨ ∃ id ∈ tree.leafIds, moved = tree.setFocus id

theorem leafAtPoint_mem {node : Node} {frame : Rect} {point : ℚ × ℚ} {id : LeafId}
    (found : leafAtPoint frame point node = some id) : id ∈ collectLeafIds node := by
  induction node generalizing frame with
  | leaf leafId pane =>
      rw [leafAtPoint] at found
      split at found
      · cases found
        exact List.mem_singleton_self _
      · cases found
  | split direction ratio first second ihFirst ihSecond =>
      rw [leafAtPoint, Option.or_eq_some_iff] at found
      rw [collectLeafIds, List.mem_append]
      rcases found with found | ⟨-, found⟩
      · exact .inl (ihFirst found)
      · exact .inr (ihSecond found)

theorem focusMove_refocus {target : Option LeafId} (leaf : ∀ id ∈ target, id ∈ tree.leafIds) :
    FocusMove tree (refocus tree target) := by
  cases target with
  | none => exact .inl rfl
  | some id =>
      rw [refocus]
      split
      · exact .inl rfl
      · exact .inr ⟨id, leaf id rfl, rfl⟩

theorem focusMove_focusAt (frame : Rect) (point : ℚ × ℚ) :
    FocusMove tree (focusAt tree frame point) := by
  apply focusMove_refocus
  intro id found
  obtain ⟨root, held, found⟩ := Option.bind_eq_some_iff.mp found
  rw [leafIds_eq held]
  exact leafAtPoint_mem found

theorem map_leafId_exportNodeWithFrame (frame : Rect) (parentSplit : Option (Direction × ℚ))
    (node : Node) :
    (exportNodeWithFrame frame parentSplit node).map ExportedPane.leafId = collectLeafIds node := by
  induction node generalizing frame parentSplit with
  | leaf id pane => rfl
  | split direction ratio first second ihFirst ihSecond =>
      rw [exportNodeWithFrame, List.map_append, ihFirst, ihSecond, collectLeafIds]

theorem map_leafId_exportPanesWithFrames (tree : SplitTree) (frame : Rect) :
    (tree.exportPanesWithFrames frame).map ExportedPane.leafId = tree.leafIds := by
  rw [SplitTree.exportPanesWithFrames, SplitTree.leafIds]
  cases tree.root with
  | none => rfl
  | some root => exact map_leafId_exportNodeWithFrame frame none root

theorem mem_leafIds_of_exportWithFrames {frame : Rect} {pane : ExportedPane}
    (exported : pane ∈ tree.exportPanesWithFrames frame) : pane.leafId ∈ tree.leafIds := by
  rw [← map_leafId_exportPanesWithFrames tree frame]
  exact List.mem_map_of_mem exported

theorem bestPane_mem {direction : PaneFocusDirection} {currentId : LeafId} {current : Rect}
    (panes : List ExportedPane) (best : Option (LeafId × ℚ × ℚ)) :
    ∀ held ∈ panes.foldl (bestPane direction currentId current) best,
      held ∈ best ∨ ∃ pane ∈ panes, pane.leafId = held.1 := by
  induction panes generalizing best with
  | nil => exact fun held member => .inl member
  | cons pane panes ih =>
      intro held member
      rcases ih _ held member with kept | ⟨other, listed, same⟩
      · rw [bestPane] at kept
        split at kept
        · exact .inl kept
        · split at kept
          · exact .inl kept
          · dsimp only at kept
            split at kept
            · cases kept
              exact .inr ⟨pane, List.mem_cons_self, rfl⟩
            · split at kept
              · cases kept
                exact .inr ⟨pane, List.mem_cons_self, rfl⟩
              · exact .inl kept
      · exact .inr ⟨other, List.mem_cons_of_mem _ listed, same⟩

theorem focusMove_focusDirection (frame : Rect) (direction : PaneFocusDirection) :
    FocusMove tree (focusDirection tree frame direction) := by
  rw [focusDirection]
  split
  · exact .inl rfl
  · apply focusMove_refocus
    intro id found
    obtain ⟨best, isBest, rfl⟩ := Option.map_eq_some_iff.mp found
    rcases bestPane_mem _ _ best isBest with none | ⟨pane, listed, same⟩
    · cases none
    · exact same ▸ mem_leafIds_of_exportWithFrames listed

theorem focusMove_setFocusToPane (paneId : PaneId) :
    FocusMove tree ((tree.setFocusToPane paneId).getD tree) := by
  rw [SplitTree.setFocusToPane]
  cases found : tree.root.bind (findLeafIdByPane paneId) with
  | none => exact .inl rfl
  | some id =>
      obtain ⟨root, held, found⟩ := Option.bind_eq_some_iff.mp found
      exact .inr ⟨id, leafIds_eq held ▸ findLeafIdByPane_mem found, rfl⟩

theorem focusMove_focusOffset (offset : Nat → Nat) : FocusMove tree (tree.focusOffset offset) := by
  rw [SplitTree.focusOffset]
  split
  · exact .inl rfl
  · rename_i position found
    have positive : 0 < tree.leafIds.length :=
      Nat.zero_lt_of_lt (List.findIdx?_eq_some_iff_getElem.mp found).1
    have inside := Nat.mod_lt (position + offset tree.leafIds.length) positive
    rw [List.getElem?_eq_getElem inside, Option.getD_some]
    exact .inr ⟨_, List.getElem_mem inside, rfl⟩

end Focus

/-- What the operations on a single tree keep; `Allowed` says which ids a caller may focus. -/
structure Closed (P : SplitTree → Prop) (Allowed : SplitTree → LeafId → Prop) : Prop where
  root : ∀ pane, P (SplitTree.new.addRoot pane)
  leaf : ∀ tree : SplitTree, ∀ id ∈ tree.leafIds, Allowed tree id
  focus : ∀ tree id, P tree → Allowed tree id → P (tree.setFocus id)
  split : ∀ tree direction pane ratio, P tree → P (tree.splitFocusedWithRatio direction pane ratio)
  removed : ∀ (tree removed : SplitTree) target pane, P tree →
    tree.removeLeafId target = some (pane, removed) → removed.len ≠ 0 → P removed
  swapped : ∀ (tree swapped : SplitTree) next, P tree →
    tree.swapFocusedWithAdjacent next = some swapped → P swapped
  rotated : ∀ (tree rotated : SplitTree) forward, P tree →
    tree.rotatePanes forward = some rotated → P rotated
  rebuilt : ∀ (tree : SplitTree) splits, P tree → tree.allPanes ≠ [] →
    P (tree.rebuildFromPanes tree.allPanes splits tree.focusedPane).1
  rebalanced : ∀ tree, P tree → P tree.rebalance
  retuned : ∀ tree ratios, P tree → P (tree.retune ratios)

def AllTrees (P : SplitTree → Prop) (tabs : TabManager) : Prop := ∀ tab ∈ tabs.tabs, P tab.tree

section Closure

open TabManager

variable {P : SplitTree → Prop} {Allowed : SplitTree → LeafId → Prop} {tabs : TabManager}

theorem AllTrees.updateTab (all : AllTrees P tabs) (index : Nat) {update : Tab → Tab}
    (keeps : ∀ tab, tabs.tabs[index]? = some tab → P tab.tree → P (update tab).tree) :
    AllTrees P (tabs.updateTab index update) := by
  intro tab member
  obtain ⟨other, atOther⟩ := List.mem_iff_getElem?.mp member
  rw [TabManager.updateTab, List.getElem?_modify, Option.map_eq_map,
    Option.map_eq_some_iff] at atOther
  obtain ⟨old, held, rfl⟩ := atOther
  have before := all old (List.mem_of_getElem? held)
  split
  · rename_i here
    exact keeps old (here ▸ held) before
  · exact before

theorem AllTrees.updateActiveTree (all : AllTrees P tabs) {update : SplitTree → SplitTree}
    (keeps : ∀ tree, tabs.activeTree = some tree → P tree → P (update tree)) :
    AllTrees P (tabs.updateActiveTree update) := by
  apply all.updateTab
  intro tab held before
  exact keeps tab.tree (by rw [activeTree, tabTree, held]; rfl) before

theorem AllTrees.newTab (all : AllTrees P tabs) {pane : LivePane}
    (root : P (SplitTree.new.addRoot pane)) : AllTrees P (tabs.newTab pane) := by
  intro tab member
  rcases List.mem_append.mp member with member | member
  · exact all tab member
  · rw [List.mem_singleton] at member
    exact member ▸ root

theorem AllTrees.gotoTab (all : AllTrees P tabs) (index : Nat) : AllTrees P (tabs.gotoTab index) := by
  rw [TabManager.gotoTab]
  split
  · exact all
  · exact all

theorem AllTrees.removeTab (all : AllTrees P tabs) (index : Nat) :
    AllTrees P (tabs.removeTab index) := by
  rw [TabManager.removeTab]
  split
  · exact all
  · exact fun tab member => all tab (List.mem_of_mem_eraseIdx member)

/-- The tail of every removal: a tab whose tree has become empty goes. -/
theorem AllTrees.dropTree (all : AllTrees P tabs) (index : Nat) {tree : SplitTree}
    {update : Tab → Tab} (newTree : ∀ tab, (update tab).tree = tree)
    (kept : tree.len ≠ 0 → P tree) :
    AllTrees P (if tree.len = 0 then (tabs.updateTab index update).removeTab index
      else tabs.updateTab index update) := by
  split
  · rename_i empty
    intro tab member
    rw [TabManager.removeTab] at member
    split at member
    · rename_i outside
      rw [TabManager.updateTab, List.length_modify] at outside
      rw [TabManager.updateTab, List.modify_eq_self outside] at member
      exact all tab member
    · obtain ⟨other, atOther⟩ := List.mem_iff_getElem?.mp member
      rw [List.getElem?_eraseIdx] at atOther
      split at atOther
      · rw [TabManager.updateTab, List.getElem?_modify_ne _ _ (by omega)] at atOther
        exact all tab (List.mem_of_getElem? atOther)
      · rw [TabManager.updateTab, List.getElem?_modify_ne _ _ (by omega)] at atOther
        exact all tab (List.mem_of_getElem? atOther)
  · rename_i nonempty
    apply all.updateTab
    intro tab _ _
    rw [newTree]
    exact kept nonempty

theorem mem_of_activeTree {tree : SplitTree} (all : AllTrees P tabs)
    (held : tabs.activeTree = some tree) : P tree := by
  rw [activeTree, tabTree, Option.map_eq_some_iff] at held
  obtain ⟨tab, atActive, rfl⟩ := held
  exact all tab (List.mem_of_getElem? atActive)

theorem mem_of_tabTree {index : Nat} {tree : SplitTree} (all : AllTrees P tabs)
    (held : tabs.tabTree index = some tree) : P tree := by
  rw [tabTree, Option.map_eq_some_iff] at held
  obtain ⟨tab, atIndex, rfl⟩ := held
  exact all tab (List.mem_of_getElem? atIndex)

theorem findPaneLocation_spec {paneId : PaneId} {index : Nat} {leaf : LeafId}
    (found : tabs.findPaneLocation paneId = some (index, leaf)) :
    ∃ tree, tabs.tabTree index = some tree ∧ leaf ∈ tree.leafIds := by
  rw [findPaneLocation] at found
  obtain ⟨⟨tab, other⟩, listed, located⟩ := List.exists_of_findSome?_eq_some found
  obtain ⟨pane, exported, same⟩ := Option.map_eq_some_iff.mp located
  cases same
  refine ⟨tab.tree, ?_, SplitTree.mem_leafIds_of_export (List.mem_of_find?_eq_some exported)⟩
  rw [tabTree, List.mem_zipIdx_iff_getElem?.mp listed]
  rfl

theorem activeTree_gotoTab {index : Nat} {tree : SplitTree} (held : tabs.tabTree index = some tree) :
    (tabs.gotoTab index).activeTree = some tree := by
  rw [TabManager.gotoTab]
  split
  · rename_i still
    have here : index = tabs.active := still.resolve_left (Nat.not_le.mpr (inside_of_tabTree held))
    rw [activeTree, ← here, held]
  · exact held

variable (closed : Closed P Allowed)

include closed

theorem Closed.move {tree moved : SplitTree} (holds : P tree) (move : FocusMove tree moved) :
    P moved := by
  rcases move with rfl | ⟨id, member, rfl⟩
  · exact holds
  · exact closed.focus tree id holds (closed.leaf tree id member)

theorem allTrees_closeFocused (all : AllTrees P tabs) : AllTrees P (closeFocused tabs) := by
  rw [closeFocused]
  split
  · rename_i pane tree removal
    obtain ⟨old, held, removal⟩ := Option.bind_eq_some_iff.mp removal
    exact all.dropTree _ (fun _ => rfl) fun nonempty =>
      closed.removed old tree _ pane (mem_of_activeTree all held) removal nonempty
  · exact all.removeTab _

theorem allTrees_removePaneById (all : AllTrees P tabs) {paneId : PaneId} {pane : LivePane}
    {without : TabManager} (removal : tabs.removePaneById paneId = some (pane, without)) :
    AllTrees P without := by
  rw [TabManager.removePaneById, Option.bind_eq_some_iff] at removal
  obtain ⟨⟨index, leaf⟩, -, removal⟩ := removal
  rw [Option.map_eq_some_iff] at removal
  obtain ⟨⟨gone, tree⟩, held, same⟩ := removal
  rw [Option.bind_eq_some_iff] at held
  obtain ⟨old, held, taken⟩ := held
  obtain ⟨target, taken⟩ := removePane_spec taken
  cases same
  have dropped := @AllTrees.dropTree _ _ all index tree
    (fun tab => { tab with
      tree := tree
      layout := .manual }) (fun _ => rfl) fun nonempty =>
      closed.removed old tree target pane (mem_of_tabTree all held) taken nonempty
  split
  · rename_i empty
    rwa [if_pos empty] at dropped
  · rename_i nonempty
    rw [if_neg nonempty] at dropped
    split
    · apply dropped.updateTab
      exact fun tab _ before => closed.move before (focusMove_setFocusToPane _)
    · exact dropped

theorem allTrees_breakActivePaneToTab (all : AllTrees P tabs) {broken : TabManager}
    (found : tabs.breakActivePaneToTab = some broken) : AllTrees P broken := by
  rw [TabManager.breakActivePaneToTab] at found
  split at found
  · cases found
  · rename_i pane tree removal
    cases found
    obtain ⟨old, held, removal⟩ := Option.bind_eq_some_iff.mp removal
    refine AllTrees.newTab ?_ (closed.root pane)
    exact all.dropTree _ (fun _ => rfl) fun nonempty =>
      closed.removed old tree _ pane (mem_of_activeTree all held) removal nonempty

theorem allTrees_applyLayoutToActive (all : AllTrees P tabs) (layout : TabLayout) :
    AllTrees P (tabs.applyLayoutToActive layout) := by
  apply all.updateTab
  intro tab _ before
  dsimp only
  split
  · exact before
  · rename_i several
    refine closed.rebuilt tab.tree _ before ?_
    intro none
    exact several (by rw [none]; exact Nat.zero_le 1)

theorem allTrees_joinPane (all : AllTrees P tabs) (marked : PaneId) (direction : Direction) :
    AllTrees P (joinPane tabs marked direction) := by
  rw [joinPane]
  split
  · exact all
  · split
    · exact all
    · rename_i pane without removal
      exact (allTrees_removePaneById closed all removal).updateActiveTree fun tree _ before =>
        closed.split tree direction pane _ before

/-- One step of any operation keeps what the operations on a tree keep. -/
theorem allTrees_apply (all : AllTrees P tabs) {op : TabOp} (permitted : op.Permitted Allowed tabs) :
    AllTrees P (op.apply tabs) := by
  have moves : ∀ move : SplitTree → SplitTree, (∀ tree, FocusMove tree (move tree)) →
      AllTrees P (tabs.updateActiveTree move) := fun move isMove =>
    all.updateActiveTree fun tree _ before => closed.move before (isMove tree)
  cases op with
  | newTab pane => exact all.newTab (closed.root pane)
  | split direction pane ratio =>
      exact all.updateActiveTree fun tree _ before => closed.split tree direction pane ratio before
  | focusSurface index =>
      exact all.updateActiveTree fun tree held before =>
        closed.focus tree index before (permitted tree held)
  | focusPane paneId => exact moves _ fun tree => focusMove_setFocusToPane paneId
  | focusDirection frame direction => exact moves _ fun tree => focusMove_focusDirection frame direction
  | focusAt frame point => exact moves _ fun tree => focusMove_focusAt frame point
  | focusNext => exact moves _ fun tree => focusMove_focusOffset _
  | focusPrev => exact moves _ fun tree => focusMove_focusOffset _
  | closeFocused => exact allTrees_closeFocused closed all
  | closePane paneId =>
      show AllTrees P (closePane tabs paneId)
      rw [closePane]
      split
      · exact all
      · rename_i index leaf found
        obtain ⟨tree, held, member⟩ := findPaneLocation_spec found
        apply allTrees_closeFocused closed
        apply (all.gotoTab index).updateActiveTree
        intro active isActive before
        rw [activeTree_gotoTab held] at isActive
        cases isActive
        exact closed.focus tree leaf before (closed.leaf tree leaf member)
  | removePane paneId =>
      show AllTrees P (((tabs.removePaneById paneId).map Prod.snd).getD tabs)
      cases removal : tabs.removePaneById paneId with
      | none => exact all
      | some removed => exact allTrees_removePaneById closed all removal
  | removeTab index => exact all.removeTab index
  | gotoTab index => exact all.gotoTab index
  | nextTab =>
      show AllTrees P tabs.nextTab
      rw [TabManager.nextTab]
      split
      · exact all
      · exact all.gotoTab _
  | prevTab =>
      show AllTrees P tabs.prevTab
      rw [TabManager.prevTab]
      split
      · exact all
      · exact all.gotoTab _
  | swap next =>
      refine all.updateTab _ fun tab _ before => ?_
      show P ((tab.tree.swapFocusedWithAdjacent next).getD tab.tree)
      cases swap : tab.tree.swapFocusedWithAdjacent next with
      | none => exact before
      | some swapped => exact closed.swapped tab.tree swapped next before swap
  | rotate forward =>
      refine all.updateTab _ fun tab _ before => ?_
      show P ((tab.tree.rotatePanes forward).getD tab.tree)
      cases rotate : tab.tree.rotatePanes forward with
      | none => exact before
      | some rotated => exact closed.rotated tab.tree rotated forward before rotate
  | applyLayout layout => exact allTrees_applyLayoutToActive closed all layout
  | cycleLayout forward => exact allTrees_applyLayoutToActive closed all _
  | rebalance => exact all.updateActiveTree fun tree _ before => closed.rebalanced tree before
  | resize ratios => exact all.updateActiveTree fun tree _ before => closed.retuned tree ratios before
  | breakPane =>
      show AllTrees P (tabs.breakActivePaneToTab.getD tabs)
      cases broken : tabs.breakActivePaneToTab with
      | none => exact all
      | some without => exact allTrees_breakActivePaneToTab closed all broken
  | joinPane marked direction => exact allTrees_joinPane closed all marked direction

end Closure

/-! The two things that are closed: soundness, and soundness with a focus on a leaf. -/

theorem closed_sound : Closed Sound fun _ _ => True where
  root := sound_addRoot
  leaf := fun _ _ _ => trivial
  focus := fun _ id sound _ => sound.setFocus id
  split := fun _ direction pane ratio sound => sound.splitFocusedWithRatio direction pane ratio
  removed := fun _ _ _ _ sound removal nonempty => sound.removeLeafId removal nonempty
  swapped := fun _ _ _ sound swap => sound.swapFocusedWithAdjacent swap
  rotated := fun _ _ _ sound rotate => sound.rotatePanes rotate
  rebuilt := fun tree splits _ panes => (rebuildFromPanes_spec tree panes splits _).1
  rebalanced := fun _ sound => sound.rebalance
  retuned := fun _ ratios sound => sound.retune ratios

structure Focused (tree : SplitTree) : Prop where
  sound : Sound tree
  focus : tree.FocusOk

theorem closed_focused : Closed Focused fun tree index => index ∈ tree.leafIds where
  root := fun pane => ⟨sound_addRoot pane, SplitTree.focusOk_addRoot _ pane⟩
  leaf := fun _ _ member => member
  focus := fun _ id held member => ⟨held.sound.setFocus id, member⟩
  split := fun _ direction pane ratio held =>
    ⟨held.sound.splitFocusedWithRatio direction pane ratio,
      held.focus.splitFocusedWithRatio direction pane ratio⟩
  removed := fun _ _ _ _ held removal nonempty =>
    ⟨held.sound.removeLeafId removal nonempty, SplitTree.focusOk_removeLeafId removal nonempty⟩
  swapped := fun _ _ _ held swap =>
    ⟨held.sound.swapFocusedWithAdjacent swap, held.focus.swapFocusedWithAdjacent swap⟩
  rotated := fun _ _ _ held rotate =>
    ⟨held.sound.rotatePanes rotate, held.focus.rotatePanes rotate⟩
  rebuilt := fun tree splits held panes => by
    obtain ⟨pane, -, same⟩ := List.mem_map.mp held.focus.focusedPane_mem
    exact ⟨(rebuildFromPanes_spec tree panes splits _).1,
      SplitTree.focusOk_rebuildFromPanes tree panes splits (same ▸ pane.property)⟩
  rebalanced := fun _ held => ⟨held.sound.rebalance, held.focus.rebalance⟩
  retuned := fun _ ratios held => ⟨held.sound.retune ratios, held.focus.retune ratios⟩

/-- Unique leaf ids below the counter. -/
def IdsOk (tree : SplitTree) : Prop := tree.leafIds.Nodup ∧ ∀ id ∈ tree.leafIds, id < tree.nextId

/-- The focus of a tree that has leaves is one of them. -/
def FocusNamesLeaf (tree : SplitTree) : Prop := tree.root ≠ none → tree.focusedId ∈ tree.leafIds

section Invariant

variable {tabs : TabManager} {op : TabOp}

theorem focused_of_named (sound : AllTrees Sound tabs) (named : AllTrees FocusNamesLeaf tabs) :
    AllTrees Focused tabs := fun tab member =>
  ⟨sound tab member, named tab member (sound tab member).nonempty⟩

/-- One step keeps every focus on a leaf exactly if the id it is given is a leaf. -/
theorem focusNamesLeaf_apply_iff (sound : AllTrees Sound tabs)
    (named : AllTrees FocusNamesLeaf tabs) :
    AllTrees FocusNamesLeaf (op.apply tabs) ↔ op.NamesLeaf tabs := by
  constructor
  · intro after
    cases op with
    | focusSurface index =>
        intro tree held
        rw [TabManager.activeTree, TabManager.tabTree, Option.map_eq_some_iff] at held
        obtain ⟨tab, atActive, rfl⟩ := held
        have changed : { tab with tree := tab.tree.setFocus index } ∈
            (TabOp.apply tabs (.focusSurface index)).tabs := by
          apply List.mem_of_getElem? (i := tabs.active)
          show (tabs.tabs.modify tabs.active _)[tabs.active]? = _
          rw [List.getElem?_modify_eq, atActive]
          rfl
        exact after _ changed (sound tab (List.mem_of_getElem? atActive)).nonempty
    | _ => trivial
  · intro permitted tab member _
    exact (allTrees_apply closed_focused (focused_of_named sound named) permitted tab member).focus

/-- Along every run from no tabs the leaf ids stay unique and below their counter; every focus
stays on a leaf exactly in the runs whose `FocusSurface` commands name leaves of the active tree. -/
theorem trees_throughout_iff (ops : List TabOp) :
    Throughout TabOp.apply (AllTrees IdsOk) TabManager.new ops ∧
      (Throughout TabOp.apply (AllTrees FocusNamesLeaf) TabManager.new ops ↔
        Always TabOp.apply TabOp.NamesLeaf TabManager.new ops) := by
  have keeps : ∀ tabs op, AllTrees Sound tabs → AllTrees Sound (TabOp.apply tabs op) := by
    intro tabs op sound
    apply allTrees_apply closed_sound sound
    cases op <;> first | trivial | exact fun _ _ => trivial
  have start : AllTrees Sound TabManager.new := fun _ member => by cases member
  constructor
  · apply throughout_of_invariant (fun tabs op sound _ => keeps tabs op sound) ?_ start
      (always_true _ ops)
    exact fun tabs sound tab member => ⟨(sound tab member).distinct, (sound tab member).fresh⟩
  · exact throughout_iff keeps (fun tabs op sound named => focusNamesLeaf_apply_iff sound named)
      start fun _ member => by cases member

/-- While every focus is a leaf, a split takes its pane in. -/
theorem split_inserts {tree : SplitTree} (ids : IdsOk tree) (held : tree.root ≠ none)
    (named : FocusNamesLeaf tree) (direction : Direction) (pane : LivePane) (ratio : ℚ) :
    (tree.splitFocusedWithRatio direction pane ratio).allPanes.Perm (pane :: tree.allPanes) :=
  panes_splitFocusedWithRatio ⟨held, ids.1, ids.2⟩ (named held) direction pane ratio

/-- Pane 2 is lost: the focus that came over the control socket names no leaf to split. -/
theorem foreignFocus_dropsPane :
    ¬ ∀ ops, Throughout TabOp.apply (AllTrees FocusNamesLeaf) TabManager.new ops := by
  intro all
  have run := all [.newTab ⟨1, live_one⟩, .focusSurface 7]
  have reached := run.2.2 _ List.mem_cons_self (Option.some_ne_none _)
  exact absurd reached (by decide)

end Invariant

end Boo.Runtime.TabOps
