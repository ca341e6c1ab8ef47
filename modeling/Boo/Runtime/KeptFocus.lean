/- module: Boo/Runtime/KeptFocus
   digest: Which changes of tabs and splits leave the focus on the pane that has it. -/

import Boo.Runtime.ClosedPanes

set_option autoImplicit false
set_option relaxedAutoImplicit false

namespace Boo.Runtime.KeptFocus

open Boo.Server.Frames
open Boo.Runtime.Leaves
open Boo.Runtime.Splits
open Boo.Runtime.Tabs
open Boo.Runtime.Ui

/-- The tab is the active one, or there is no such tab. -/
def StaysAt (tabs : TabManager) (index : ℕ) : Prop :=
  tabs.tabs.length ≤ index ∨ index = tabs.active

/-- The leaf is the focused one of the active tab. -/
def AtFocusedLeaf (tabs : TabManager) (leaf : LeafId) : Prop :=
  ∀ tree ∈ tabs.activeTree, leaf = tree.focusedId

/-- The active tab has no second pane. -/
def Unsplit (tabs : TabManager) : Prop := ∀ tree ∈ tabs.activeTree, tree.leafIds.length ≤ 1

/-- The state before a change that leaves the focus where it is. Swaps and rotations move the panes
under the focus; a closed pane takes the focus with it. -/
def KeepsFocus (rt : UiRuntime) : UiEffect → Prop
  | .newSplit _ answer => answer = none ∨ rt.tabs.tabs = []
  | .newTab answer => answer = none
  | .focusLeaf position => ∀ tree ∈ rt.tabs.activeTree, ∀ pane ∈ tree.exportPanes[position]?,
      pane.leafId = tree.focusedId
  | .focusPane paneId => ∀ tree ∈ rt.tabs.activeTree,
      ∀ leaf ∈ tree.root.bind (findLeafIdByPane paneId), leaf = tree.focusedId
  | .focusSurface index => AtFocusedLeaf rt.tabs index
  | .closeSurface | .closeTab => rt.tabs.tabs.length ≤ rt.tabs.active
  | .nextTab | .prevTab => rt.tabs.tabs.length ≤ 1
  | .gotoTab index | .focusTab index => StaysAt rt.tabs index
  | .gotoLastTab => StaysAt rt.tabs (rt.tabs.tabs.length - 1)
  | .previousTab => StaysAt rt.tabs rt.tabs.previousActive
  | .joinMarkedPane _ => ∀ marked ∈ rt.markedPaneId,
      marked = 0 ∨ marked = rt.tabs.focusedPane ∨ rt.tabs.findPaneLocation marked = none
  | .nextPane | .previousPane | .swapPane _ | .rotatePanes _ => Unsplit rt.tabs
  | .selectLayout _ | .cycleLayout _ => rt.tabs.focusedPane ≠ 0
  | .loadLayout layoutTabs => ∀ layoutTab ∈ layoutTabs, ∀ pane ∈ layoutTab.panes, pane.1 = none
  | .breakPane | .resize _ | .setTerminalFrame _ | .markPane | .clearMarkedPane
  | .rebalanceLayout | .reloadConfig _ | .setTabTitle _ | .write _ | .present _ => True

section Trees

variable {tree : SplitTree} {node : Node} {pane : LivePane} {target : LeafId} {paneId : PaneId}

theorem findLeaf_of_removeLeaf {remaining : Option Node}
    (removed : removeLeaf target node = some (pane, remaining)) :
    findLeaf target node = some pane := by
  induction node generalizing remaining with
  | leaf id old =>
      rw [removeLeaf] at removed
      rw [findLeaf]
      split at removed
      · rename_i same
        cases removed
        rw [if_pos same]
      · cases removed
  | split direction ratio first second ihFirst ihSecond =>
      rw [findLeaf]
      rw [removeLeaf] at removed
      split at removed
      · rename_i found
        cases removed
        rw [ihFirst found, Option.some_or]
      · rename_i found
        cases removed
        rw [ihFirst found, Option.some_or]
      · rename_i missing
        have absent : findLeaf target first = none := by
          rw [← Option.not_isSome_iff_eq_none, findLeaf_isSome]
          exact removeLeaf_eq_none_iff.mp missing
        rw [absent, Option.none_or]
        split at removed
        · rename_i found
          cases removed
          exact ihSecond found
        · rename_i found
          cases removed
          exact ihSecond found
        · cases removed

/-- A removed focus was on the pane that is handed back. -/
theorem focusedPane_of_removeFocused {removed : SplitTree}
    (found : tree.removeFocused = some (pane, removed)) : tree.focusedPane = pane.val := by
  rw [SplitTree.removeFocused, SplitTree.removeLeafId] at found
  split at found
  · rename_i remaining taken
    cases found
    obtain ⟨root, held, taken⟩ := Option.bind_eq_some_iff.mp taken
    rw [SplitTree.focusedPane, held, Option.bind_some, findLeaf_of_removeLeaf taken]
    rfl
  · cases found

/-- The leaf that is found for a pane shows it. -/
theorem mem_collectLeaves_of_findLeafIdByPane {id : LeafId}
    (found : findLeafIdByPane paneId node = some id) :
    ∃ pane, (id, pane) ∈ collectLeaves node ∧ pane.val = paneId := by
  rw [findLeafIdByPane_eq_find?, Option.map_eq_some_iff] at found
  obtain ⟨leaf, first, rfl⟩ := found
  have shows_ := List.find?_some first
  exact ⟨leaf.2, List.mem_of_find?_eq_some first, of_decide_eq_true shows_⟩

theorem findLeafIdByPane_isSome (held : paneId ∈ (collectPanes node).map Subtype.val) :
    (findLeafIdByPane paneId node).isSome := by
  rw [← map_snd_collectLeaves, List.map_map] at held
  obtain ⟨leaf, member, same⟩ := List.mem_map.mp held
  rw [findLeafIdByPane_eq_find?, Option.isSome_map, List.find?_isSome]
  exact ⟨leaf, member, decide_eq_true same⟩

/-- A tree that is built anew from its panes has its focus on the pane that had it. -/
theorem focusedPane_rebuildFromPanes (splits : List (Direction × ℚ))
    (live : tree.focusedPane ≠ 0) :
    (tree.rebuildFromPanes tree.allPanes splits tree.focusedPane).1.focusedPane =
      tree.focusedPane := by
  have held := SplitTree.focusedPane_mem_of_ne_zero live
  generalize tree.focusedPane = paneId at held
  obtain ⟨first, rest, panes⟩ := List.exists_cons_of_ne_nil
    (List.ne_nil_of_mem (List.mem_map.mp held).choose_spec.1)
  rw [panes] at held ⊢
  obtain ⟨ids, kept⟩ := @leaves_rebuildNode rest splits (.leaf 0 first) 1 (List.Perm.refl _)
    Nat.one_pos
  have distinct := ids.nodup_iff.mpr List.nodup_range
  have named : paneId ∈ (collectPanes (SplitTree.rebuildNode splits (.leaf 0 first) 1 rest)).map
      Subtype.val := ((kept.map Subtype.val).mem_iff).mpr held
  obtain ⟨id, found⟩ := Option.isSome_iff_exists.mp (findLeafIdByPane_isSome named)
  obtain ⟨pane, member, same⟩ := mem_collectLeaves_of_findLeafIdByPane found
  have shows := findLeaf_of_mem distinct member
  rw [SplitTree.rebuildFromPanes]
  simp only [SplitTree.setFocusToPane, Option.bind_some, found, Option.map_some, Option.getD_some,
    SplitTree.focusedPane, SplitTree.setFocus, shows, same, if_true]

theorem findLeaf_rebalanceNode (target : LeafId) (node : Node) :
    findLeaf target (rebalanceNode node) = findLeaf target node := by
  induction node with
  | leaf id pane => rfl
  | split direction ratio first second ihFirst ihSecond =>
      rw [rebalanceNode, findLeaf, findLeaf, ihFirst, ihSecond]

theorem findLeaf_retuneNode (target : LeafId) (ratios : List Bool → Option ℚ) (node : Node) :
    findLeaf target (retuneNode ratios node) = findLeaf target node := by
  induction node generalizing ratios with
  | leaf id pane => rfl
  | split direction ratio first second ihFirst ihSecond =>
      rw [retuneNode, findLeaf, findLeaf, ihFirst, ihSecond]

theorem focusedPane_rebalance (tree : SplitTree) : tree.rebalance.focusedPane = tree.focusedPane := by
  unfold SplitTree.focusedPane SplitTree.rebalance
  cases tree.root with
  | none => rfl
  | some root => simp only [Option.map_some, Option.bind_some, findLeaf_rebalanceNode]

theorem focusedPane_retune (tree : SplitTree) (ratios : List Bool → Option ℚ) :
    (tree.retune ratios).focusedPane = tree.focusedPane := by
  unfold SplitTree.focusedPane SplitTree.retune
  cases tree.root with
  | none => rfl
  | some root => simp only [Option.map_some, Option.bind_some, findLeaf_retuneNode]

theorem setFocus_focusedId (tree : SplitTree) : tree.setFocus tree.focusedId = tree := rfl

/-- Around the leaves of an unsplit tree the focus comes back to where it was. -/
theorem focusOffset_of_unsplit (unsplit : tree.leafIds.length ≤ 1) (offset : ℕ → ℕ) :
    tree.focusOffset offset = tree := by
  unfold SplitTree.focusOffset
  cases found : tree.leafIds.findIdx? (· = tree.focusedId) with
  | none => rfl
  | some position =>
      obtain ⟨inside, here, -⟩ := List.findIdx?_eq_some_iff_getElem.mp found
      have first : (position + offset tree.leafIds.length) % tree.leafIds.length = position := by
        have single : tree.leafIds.length = 1 := by omega
        rw [single]
        omega
      have focused : tree.leafIds[position] = tree.focusedId := by simpa using here
      simp only [first, List.getElem?_eq_getElem inside, Option.getD_some, focused]
      rfl

theorem swapFocused_of_unsplit (unsplit : tree.leafIds.length ≤ 1) (next : Bool) :
    tree.swapFocusedWithAdjacent next = none := by
  have few : tree.leafIds.length < 2 := by omega
  unfold SplitTree.swapFocusedWithAdjacent
  split
  · rw [if_pos few]
  · rfl

theorem rotatePanes_of_unsplit (unsplit : tree.leafIds.length ≤ 1) (forward : Bool) :
    tree.rotatePanes forward = none := by
  have few : tree.leafIds.length < 2 := by omega
  unfold SplitTree.rotatePanes
  split
  · rfl
  · rw [if_pos few]

end Trees

section Tabs

open TabManager

variable {tabs : TabManager} {rt : UiRuntime} {index : ℕ}

/-- Where the tabs are the same ones up to what is not their tree, so is the focus. -/
theorem focusedPane_updateTab {update : Tab → Tab}
    (same : ∀ tab ∈ tabs.tabs, (update tab).tree.focusedPane = tab.tree.focusedPane) :
    (tabs.updateTab index update).focusedPane = tabs.focusedPane := by
  unfold TabManager.focusedPane activeTree tabTree TabManager.updateTab
  rw [List.getElem?_modify]
  cases held : tabs.tabs[tabs.active]? with
  | none => rfl
  | some tab =>
      have kept := same tab (List.mem_of_getElem? held)
      by_cases here : index = tabs.active
      · simp [here, kept]
      · simp [here]

/-- The same of the active tab alone. -/
theorem focusedPane_updateActive {update : Tab → Tab}
    (same : ∀ tab, tabs.tabs[tabs.active]? = some tab →
      (update tab).tree.focusedPane = tab.tree.focusedPane) :
    (tabs.updateTab tabs.active update).focusedPane = tabs.focusedPane := by
  unfold TabManager.focusedPane activeTree tabTree TabManager.updateTab
  rw [List.getElem?_modify_eq]
  cases held : tabs.tabs[tabs.active]? with
  | none => rfl
  | some tab =>
      have kept := same tab held
      simp [kept]

theorem focusedPane_updateActiveTree {update : SplitTree → SplitTree}
    (same : ∀ tree ∈ tabs.activeTree, (update tree).focusedPane = tree.focusedPane) :
    (tabs.updateActiveTree update).focusedPane = tabs.focusedPane := by
  refine focusedPane_updateActive fun tab held => same tab.tree ?_
  rw [activeTree, tabTree, held]
  rfl

theorem leafIds_of_unsplit (unsplit : Unsplit tabs) {tab : Tab}
    (held : tabs.tabs[tabs.active]? = some tab) : tab.tree.leafIds.length ≤ 1 := by
  refine unsplit tab.tree ?_
  rw [activeTree, tabTree, held]
  rfl

theorem gotoTab_of_staysAt (stays : StaysAt tabs index) : tabs.gotoTab index = tabs := if_pos stays

theorem nextTab_of_single (single : tabs.tabs.length ≤ 1) : tabs.nextTab = tabs := if_pos single

theorem prevTab_of_single (single : tabs.tabs.length ≤ 1) : tabs.prevTab = tabs := if_pos single

theorem focusedPane_newTab (pane : LivePane) : (tabs.newTab pane).focusedPane = pane.val := by
  unfold TabManager.focusedPane activeTree tabTree TabManager.newTab
  rw [List.getElem?_append_right (Nat.le_refl _), Nat.sub_self]
  simp [freshTab, SplitTree.addRoot, SplitTree.focusedPane, findLeaf]

/-- A pane that becomes a tab of its own keeps the focus. -/
theorem focusedPane_breakActivePaneToTab :
    (tabs.breakActivePaneToTab.getD tabs).focusedPane = tabs.focusedPane := by
  unfold breakActivePaneToTab
  cases removal : tabs.activeTree.bind SplitTree.removeFocused with
  | none => rfl
  | some removed =>
      obtain ⟨pane, tree⟩ := removed
      obtain ⟨old, held, taken⟩ := Option.bind_eq_some_iff.mp removal
      simp only [Option.getD_some, focusedPane_newTab]
      rw [TabManager.focusedPane, held]
      exact (focusedPane_of_removeFocused taken).symm

theorem focusedPane_applyLayoutToActive (layout : TabLayout) (live : tabs.focusedPane ≠ 0) :
    (tabs.applyLayoutToActive layout).focusedPane = tabs.focusedPane := by
  refine focusedPane_updateActive fun tab held => ?_
  have focus : tabs.focusedPane = tab.tree.focusedPane := by
    rw [TabManager.focusedPane, activeTree, tabTree, held]
    rfl
  rw [focus] at live
  dsimp only
  split
  · rfl
  · exact focusedPane_rebuildFromPanes _ live

/-- Another tab that goes leaves the active one active, wherever it moves to. -/
theorem activeAfterRemoval_of_other {active index count : ℕ} (inside : active ≤ count)
    (removed : index ≤ count) (other : index ≠ active) :
    activeAfterRemoval active index count = if index < active then active - 1 else active := by
  unfold activeAfterRemoval
  split_ifs <;> omega

/-- A tab that is removed takes only its own focus along. -/
theorem focusedPane_removeTab
    (elsewhere : tabs.tabs.length ≤ index ∨ tabs.active < tabs.tabs.length ∧ index ≠ tabs.active) :
    (tabs.removeTab index).focusedPane = tabs.focusedPane := by
  unfold removeTab
  by_cases outside : tabs.tabs.length ≤ index
  · rw [if_pos outside]
  · obtain ⟨inside, other⟩ := elsewhere.resolve_left outside
    have moved := activeAfterRemoval_of_other (Nat.le_sub_one_of_lt inside)
      (Nat.le_sub_one_of_lt (Nat.lt_of_not_le outside)) other
    rw [if_neg outside]
    unfold TabManager.focusedPane activeTree tabTree
    dsimp only
    rw [moved, List.getElem?_eraseIdx]
    by_cases before : index < tabs.active
    · rw [if_pos before, if_neg (by omega), Nat.sub_add_cancel (by omega)]
    · rw [if_neg before, if_pos (by omega)]

theorem tabs_closeActiveTab (rt : UiRuntime) :
    rt.closeActiveTab.tabs = rt.tabs.removeTab rt.tabs.active := by
  rw [UiRuntime.closeActiveTab, tabs_updateTabs, tabs_freePanes]

theorem tabs_handleSurfaceClosed_of_none (none' : rt.tabs.tabs.length ≤ rt.tabs.active) :
    rt.handleSurfaceClosed.tabs = rt.tabs := by
  have gone : rt.tabs.activeTree = none := by
    rw [activeTree, tabTree, List.getElem?_eq_none none', Option.map_none]
  rw [UiRuntime.handleSurfaceClosed, gone, Option.bind_none]
  dsimp only
  rw [tabs_closeActiveTab, removeTab, if_pos none']

/-- No pane is opened for a layout without answers. -/
theorem focusedPane_loadLayout {layoutTabs : List LayoutTab}
    (none' : ∀ layoutTab ∈ layoutTabs, ∀ pane ∈ layoutTab.panes, pane.1 = none) :
    (rt.loadLayout layoutTabs).tabs.focusedPane = rt.tabs.focusedPane := by
  unfold UiRuntime.loadLayout
  refine List.foldlRecOn (motive := fun (loaded : UiRuntime) =>
    loaded.tabs.focusedPane = rt.tabs.focusedPane) _ _ rfl ?_
  intro loaded kept layoutTab member
  obtain ⟨layoutTab, index⟩ := layoutTab
  have listed : layoutTab ∈ layoutTabs := List.fst_mem_of_mem_zipIdx member
  have panes : (loaded.loadPanes layoutTab).tabs.focusedPane = rt.tabs.focusedPane := by
    unfold UiRuntime.loadPanes
    refine List.foldlRecOn (motive := fun (loaded : UiRuntime) =>
      loaded.tabs.focusedPane = rt.tabs.focusedPane) _ _ kept ?_
    intro opened still pane inTab
    obtain ⟨pane, position⟩ := pane
    have answer : pane.1 = none := none' layoutTab listed pane (List.fst_mem_of_mem_zipIdx inTab)
    dsimp only
    rw [answer]
    exact still
  rw [tabs_updateTabs, ← panes]
  exact focusedPane_updateTab fun tab _ => rfl

theorem focusedPane_joinMarkedPane {direction : Direction}
    (keeps : KeepsFocus rt (.joinMarkedPane direction)) :
    (rt.joinMarkedPane direction).tabs.focusedPane = rt.tabs.focusedPane := by
  unfold UiRuntime.joinMarkedPane
  cases mark : rt.markedPaneId with
  | none => rfl
  | some marked =>
      have spared := keeps marked mark
      dsimp only
      split
      · rfl
      · rename_i other
        rw [not_or] at other
        have missing := (spared.resolve_left other.1).resolve_left other.2
        rw [removePaneById, missing, Option.bind_none]

theorem focusedPane_createSplit {direction : Direction} {answer : Option Spawned}
    (keeps : answer = none ∨ rt.tabs.tabs = []) :
    (rt.createSplit direction answer).tabs.focusedPane = rt.tabs.focusedPane := by
  unfold UiRuntime.createSplit
  rcases keeps with rfl | empty
  · split <;> rfl
  · rw [empty, List.isEmpty_nil, if_pos rfl]

/-- What keeps the focus leaves it on its pane. -/
theorem focusedPane_apply {effect : UiEffect} (keeps : KeepsFocus rt effect) :
    (effect.apply rt).tabs.focusedPane = rt.tabs.focusedPane := by
  cases effect with
  | newSplit direction answer => exact focusedPane_createSplit keeps
  | newTab answer =>
      obtain rfl : answer = none := keeps
      rfl
  | focusLeaf position =>
      rw [UiEffect.apply, tabs_updateTabs]
      refine focusedPane_updateActiveTree fun tree held => ?_
      cases exported : tree.exportPanes[position]? with
      | none => rfl
      | some pane =>
          have here : pane.leafId = tree.focusedId := keeps tree held pane exported
          show (tree.setFocus pane.leafId).focusedPane = tree.focusedPane
          rw [here, setFocus_focusedId]
  | focusPane paneId =>
      rw [UiEffect.apply, UiRuntime.focusPaneById, tabs_updateTabs]
      refine focusedPane_updateActiveTree fun tree held => ?_
      rw [SplitTree.setFocusToPane]
      cases found : tree.root.bind (findLeafIdByPane paneId) with
      | none => rfl
      | some leaf =>
          have here : leaf = tree.focusedId := keeps tree held leaf found
          rw [Option.map_some, Option.getD_some, here, setFocus_focusedId]
  | focusSurface index =>
      rw [UiEffect.apply, tabs_updateTabs]
      refine focusedPane_updateActiveTree fun tree held => ?_
      have here : index = tree.focusedId := keeps tree held
      rw [here, setFocus_focusedId]
  | closeSurface => rw [UiEffect.apply, tabs_handleSurfaceClosed_of_none keeps]
  | closeTab =>
      have none' : rt.tabs.tabs.length ≤ rt.tabs.active := keeps
      rw [UiEffect.apply, tabs_closeActiveTab, focusedPane_removeTab (.inl none')]
  | nextTab => rw [UiEffect.apply, tabs_updateTabs, nextTab_of_single keeps]
  | prevTab => rw [UiEffect.apply, tabs_updateTabs, prevTab_of_single keeps]
  | gotoTab index => rw [UiEffect.apply, tabs_updateTabs, gotoTab_of_staysAt keeps]
  | focusTab index =>
      rw [UiEffect.apply, UiRuntime.focusRuntimeTab, tabs_updateTabs, gotoTab_of_staysAt keeps]
  | gotoLastTab => rw [UiEffect.apply, tabs_updateTabs, gotoTab_of_staysAt keeps]
  | previousTab => rw [UiEffect.apply, tabs_updateTabs, gotoTab_of_staysAt keeps]
  | joinMarkedPane direction => exact focusedPane_joinMarkedPane keeps
  | nextPane | previousPane =>
      rw [UiEffect.apply, tabs_updateTabs]
      refine focusedPane_updateActiveTree fun tree held => ?_
      exact congrArg SplitTree.focusedPane (focusOffset_of_unsplit (keeps tree held) _)
  | swapPane next =>
      rw [UiEffect.apply, tabs_updateTabs]
      refine focusedPane_updateActive fun tab held => ?_
      rw [swapFocused_of_unsplit (leafIds_of_unsplit keeps held), Option.getD_none]
  | rotatePanes forward =>
      rw [UiEffect.apply, tabs_updateTabs]
      refine focusedPane_updateActive fun tab held => ?_
      rw [rotatePanes_of_unsplit (leafIds_of_unsplit keeps held), Option.getD_none]
  | selectLayout layout =>
      rw [UiEffect.apply, tabs_updateTabs, focusedPane_applyLayoutToActive layout keeps]
  | cycleLayout forward =>
      rw [UiEffect.apply, tabs_updateTabs, cycleActiveLayout,
        focusedPane_applyLayoutToActive _ keeps]
  | loadLayout layoutTabs => exact focusedPane_loadLayout keeps
  | breakPane =>
      rw [UiEffect.apply, tabs_updateTabs]
      exact focusedPane_breakActivePaneToTab
  | resize ratios =>
      rw [UiEffect.apply, tabs_updateTabs]
      exact focusedPane_updateActiveTree fun tree _ => focusedPane_retune tree ratios
  | rebalanceLayout =>
      rw [UiEffect.apply, tabs_updateTabs, rebalanceActiveLayout]
      exact focusedPane_updateActiveTree fun tree _ => focusedPane_rebalance tree
  | setTabTitle title =>
      rw [UiEffect.apply, tabs_markActiveRemoteTabDirty, tabs_updateTabs]
      exact focusedPane_updateTab fun tab _ => rfl
  | setTerminalFrame _ | markPane | clearMarkedPane | reloadConfig _ | write _ | present _ => rfl

end Tabs

end Boo.Runtime.KeptFocus
