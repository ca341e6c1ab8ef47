/- module: Boo/Runtime/ClosedPanes
   digest: Which panes each effect of the user interface closes, whatever the focus names. -/

import Boo.Runtime.PaneCount

set_option autoImplicit false
set_option relaxedAutoImplicit false

namespace Boo.Runtime.ClosedPanes

open Boo.Server.Frames
open Boo.Runtime.Splits
open Boo.Runtime.Leaves
open Boo.Runtime.Tabs
open Boo.Runtime.TabOps
open Boo.Runtime.PaneCount
open Boo.Runtime.Ui

def paneIdsAt (tabs : TabManager) (index : Nat) : List PaneId :=
  (tabs.panesAt index).map Subtype.val

/-- The panes that exist in some tab. -/
def livePanes (tabs : TabManager) : List PaneId := tabs.allPanes.map Subtype.val

/-- The focused pane, or all of the active tab where its focus names no leaf. -/
def surfaceCloses (tabs : TabManager) : List PaneId :=
  match tabs.activeTree.bind SplitTree.removeFocused with
  | some (pane, _) => [pane.val]
  | none => paneIdsAt tabs tabs.active

def focusOnLeaf (tabs : TabManager) : Bool :=
  tabs.activeTree.any fun tree => tree.focusedId ∈ tree.leafIds

/-- A marked pane is taken from its place and lost where there is no leaf to split. -/
def joinCloses (tabs : TabManager) (marked : PaneId) : List PaneId :=
  if marked = 0 ∨ marked = tabs.focusedPane then []
  else
    match tabs.removePaneById marked with
    | none => []
    | some (pane, without) => if focusOnLeaf without then [] else [pane.val]

/-- The panes that one effect takes out of the tabs. -/
def closes (rt : UiRuntime) : UiEffect → List PaneId
  | .closeSurface => surfaceCloses rt.tabs
  | .closeTab => paneIdsAt rt.tabs rt.tabs.active
  | .joinMarkedPane _ => (rt.markedPaneId.map (joinCloses rt.tabs)).getD []
  | _ => []

def closesAll (rt : UiRuntime) : List UiEffect → List PaneId
  | [] => []
  | effect :: effects => closes rt effect ++ closesAll (effect.apply rt) effects

/-- All panes but the closed ones stay, in trees that are sound. -/
structure Spares (tabs after : TabManager) (closed : List PaneId) : Prop where
  panes : ∀ pane ∈ tabs.allPanes, pane ∈ after.allPanes ∨ pane.val ∈ closed
  sound : AllTrees Sound after

section Sparing

open TabManager

variable {tabs mid after : TabManager} {closed : List PaneId}

theorem Spares.live (spares : Spares tabs after closed) {paneId : PaneId}
    (live : paneId ∈ livePanes tabs) (open_ : paneId ∉ closed) : paneId ∈ livePanes after := by
  obtain ⟨pane, member, rfl⟩ := List.mem_map.mp live
  rcases spares.panes pane member with kept | gone
  · exact List.mem_map_of_mem kept
  · exact absurd gone open_

theorem Spares.refl (sound : AllTrees Sound tabs) : Spares tabs tabs closed :=
  ⟨fun _ member => .inl member, sound⟩

theorem Spares.trans {next : List PaneId} (first : Spares tabs mid closed)
    (later : Spares mid after next) : Spares tabs after (closed ++ next) := by
  refine ⟨fun pane member => ?_, later.sound⟩
  rcases first.panes pane member with kept | gone
  · exact (later.panes pane kept).imp id (List.mem_append_right _)
  · exact .inr (List.mem_append_left _ gone)

/-- Steps that close nothing. -/
theorem Spares.then_none (first : Spares tabs mid []) (later : Spares mid after []) :
    Spares tabs after [] := first.trans later

/-- What is neither there nor among the returned panes was not there before. -/
theorem spares_of_le (sound : AllTrees Sound after) {returned : Multiset LivePane}
    (bound : panes tabs ≤ panes after + returned) (covers : ∀ pane ∈ returned, pane.val ∈ closed) :
    Spares tabs after closed := by
  refine ⟨fun pane member => ?_, sound⟩
  rcases Multiset.mem_add.mp (Multiset.mem_of_le bound (Multiset.mem_coe.mpr member)) with
    kept | gone
  · exact .inl (Multiset.mem_coe.mp kept)
  · exact .inr (covers pane gone)

theorem spares_of_same (sound : AllTrees Sound after) (same : panes after = panes tabs) :
    Spares tabs after [] := by
  apply @spares_of_le tabs after [] sound 0
  · rw [add_zero, same]
  · exact fun pane member => absurd member (Multiset.notMem_zero pane)

theorem sound_apply (sound : AllTrees Sound tabs) (op : TabOp) :
    AllTrees Sound (op.apply tabs) := by
  apply allTrees_apply closed_sound sound
  cases op with
  | focusSurface index => exact fun _ _ => trivial
  | _ => trivial

theorem spares_apply (sound : AllTrees Sound tabs) {op : TabOp} (elsewhere : ¬ TabOp.AtFocus op)
    (covers : ∀ pane ∈ TabOp.removed tabs op, pane.val ∈ closed) :
    Spares tabs (op.apply tabs) closed := by
  refine spares_of_le (sound_apply sound op) ?_ covers
  rw [panes_apply_sound sound elsewhere]
  exact Multiset.le_add_right _ _

/-- The operations that return no pane. -/
theorem spares_quiet (sound : AllTrees Sound tabs) {op : TabOp} (elsewhere : ¬ TabOp.AtFocus op)
    (quiet : TabOp.removed tabs op = 0) : Spares tabs (op.apply tabs) [] := by
  apply spares_apply sound elsewhere
  intro pane member
  rw [quiet] at member
  exact absurd member (Multiset.notMem_zero pane)

theorem spares_updateTab (sound : AllTrees Sound tabs) (index : Nat) {update : Tab → Tab}
    (sameTree : ∀ tab, (update tab).tree = tab.tree) :
    Spares tabs (tabs.updateTab index update) [] := by
  refine spares_of_same ?_ (panes_updateTab_same fun tab _ => congrArg treePanes (sameTree tab))
  apply sound.updateTab
  intro tab _ before
  rw [sameTree]
  exact before

theorem spares_mapTabs (sound : AllTrees Sound tabs) {update : Tab → Tab}
    (sameTree : ∀ tab, (update tab).tree = tab.tree) :
    Spares tabs { tabs with tabs := tabs.tabs.map update } [] := by
  apply spares_of_same
  · intro tab member
    obtain ⟨old, held, rfl⟩ := List.mem_map.mp member
    rw [sameTree]
    exact sound old held
  · refine congrArg Multiset.ofList ?_
    show (tabs.tabs.map update).flatMap _ = tabs.tabs.flatMap _
    rw [List.flatMap_map]
    exact List.flatMap_congr fun tab _ => congrArg SplitTree.allPanes (sameTree tab)

/-- A split keeps what its tree holds, also where the focus names no leaf. -/
theorem mem_splitFocusedWithRatio {tree : SplitTree} {pane other : LivePane} {ratio : ℚ}
    (direction : Direction) (member : other ∈ tree.allPanes) :
    other ∈ (tree.splitFocusedWithRatio direction pane ratio).allPanes := by
  rw [SplitTree.splitFocusedWithRatio]
  cases held : tree.root with
  | none =>
      rw [SplitTree.allPanes, held] at member
      cases member
  | some root =>
      rw [SplitTree.allPanes, held] at member
      exact mem_splitNode_pane member

theorem mem_allPanes_updateTab {other : LivePane} (index : Nat) {update : Tab → Tab}
    (keeps : ∀ tab : Tab, other ∈ tab.tree.allPanes → other ∈ (update tab).tree.allPanes)
    (member : other ∈ tabs.allPanes) : other ∈ (tabs.updateTab index update).allPanes := by
  obtain ⟨tab, held, inside⟩ := List.mem_flatMap.mp member
  obtain ⟨place, atPlace⟩ := List.mem_iff_getElem?.mp held
  have there : (tabs.tabs.modify index update)[place]? =
      some (if index = place then update tab else tab) := by
    rw [List.getElem?_modify, atPlace]
    rfl
  refine List.mem_flatMap.mpr ⟨_, List.mem_of_getElem? there, ?_⟩
  split
  · exact keeps tab inside
  · exact inside

theorem spares_split (sound : AllTrees Sound tabs) (direction : Direction) (pane : LivePane)
    (ratio : ℚ) :
    Spares tabs (tabs.updateActiveTree (·.splitFocusedWithRatio direction pane ratio)) [] := by
  refine ⟨fun other member => .inl ?_, sound_apply sound (.split direction pane ratio)⟩
  apply mem_allPanes_updateTab tabs.active _ member
  exact fun tab inside => mem_splitFocusedWithRatio direction inside

theorem spares_move (sound : AllTrees Sound tabs) {move : SplitTree → SplitTree}
    (isMove : ∀ tree, FocusMove tree (move tree)) :
    Spares tabs (tabs.updateActiveTree move) [] := by
  refine spares_of_same ?_ (panes_updateActiveTree_same fun tree => treePanes_move (isMove tree))
  exact sound.updateActiveTree fun tree _ before => closed_sound.move before (isMove tree)

theorem focused_of_focusOnLeaf (sound : AllTrees Sound tabs) (onLeaf : focusOnLeaf tabs = true) :
    ∃ tab, tabs.tabs[tabs.active]? = some tab ∧ Focused tab.tree := by
  rw [focusOnLeaf, Option.any_eq_true] at onLeaf
  obtain ⟨tree, held, named⟩ := onLeaf
  obtain ⟨tab, atActive, rfl⟩ := tab_of_activeTree held
  have soundTab := sound tab (List.mem_of_getElem? atActive)
  exact ⟨tab, atActive, soundTab, of_decide_eq_true named⟩

theorem spares_joinPane (sound : AllTrees Sound tabs) (marked : PaneId) (direction : Direction) :
    Spares tabs (joinPane tabs marked direction) (joinCloses tabs marked) := by
  rw [joinPane, joinCloses]
  split
  · exact Spares.refl sound
  · cases removal : tabs.removePaneById marked with
    | none => exact Spares.refl sound
    | some removed =>
        obtain ⟨pane, without⟩ := removed
        have soundWithout := allTrees_removePaneById closed_sound sound removal
        have taken := panes_removePaneById removal
        dsimp only
        split
        · rename_i onLeaf
          obtain ⟨tab, atActive, focused⟩ := focused_of_focusOnLeaf soundWithout onLeaf
          have joined := panes_split atActive focused direction pane (1 / 2)
          rw [taken] at joined
          exact spares_of_same (sound_apply soundWithout (.split direction pane _)) joined
        · have lost : Spares tabs without [pane.val] := by
            apply spares_of_le soundWithout taken.ge
            intro other member
            rw [Multiset.mem_singleton.mp member]
            exact List.mem_singleton_self _
          exact lost.trans (spares_split soundWithout direction pane (1 / 2))

end Sparing

section Effects

open TabManager

variable {rt : UiRuntime}

theorem spares_closeFocused {tabs : TabManager} (sound : AllTrees Sound tabs) :
    Spares tabs (closeFocused tabs) (surfaceCloses tabs) := by
  apply @spares_apply tabs _ sound .closeFocused not_false
  intro pane member
  rw [TabOp.removed, closedPanes] at member
  rw [surfaceCloses]
  cases removal : tabs.activeTree.bind SplitTree.removeFocused with
  | none =>
      rw [removal] at member
      exact List.mem_map_of_mem (Multiset.mem_coe.mp member)
  | some removed =>
      rw [removal] at member
      rw [Multiset.mem_singleton.mp member]
      exact List.mem_singleton_self _

theorem spares_removeTab {tabs : TabManager} (sound : AllTrees Sound tabs) (index : Nat) :
    Spares tabs (tabs.removeTab index) (paneIdsAt tabs index) := by
  apply @spares_apply tabs _ sound (.removeTab index) not_false
  exact fun pane member => List.mem_map_of_mem (Multiset.mem_coe.mp member)

theorem spares_newTab {tabs : TabManager} (sound : AllTrees Sound tabs) (pane : LivePane) :
    Spares tabs (tabs.newTab pane) [] :=
  @spares_quiet tabs sound (.newTab pane) not_false rfl

theorem spares_createSplit (sound : AllTrees Sound rt.tabs) (direction : Direction)
    (answer : Option Spawned) : Spares rt.tabs (rt.createSplit direction answer).tabs [] := by
  unfold UiRuntime.createSplit
  split
  · exact Spares.refl sound
  · cases answer with
    | none => exact Spares.refl sound
    | some spawned => exact spares_split sound direction spawned.pane (1 / 2)

theorem spares_loadPane (sound : AllTrees Sound rt.tabs) (first : Bool) (answer : Option Spawned)
    (split : Option (Direction × ℚ)) : Spares rt.tabs (rt.loadPane first answer split).tabs [] := by
  unfold UiRuntime.loadPane
  split
  · exact Spares.refl sound
  · rename_i spawned
    split
    · exact spares_newTab sound spawned.pane
    · exact spares_split sound _ spawned.pane _

theorem spares_loadLayout (sound : AllTrees Sound rt.tabs) (layoutTabs : List LayoutTab) :
    Spares rt.tabs (rt.loadLayout layoutTabs).tabs [] := by
  rw [UiRuntime.loadLayout]
  refine List.foldlRecOn (motive := fun (loaded : UiRuntime) => Spares rt.tabs loaded.tabs [])
    _ _ (Spares.refl sound) ?_
  intro loaded spares layoutTab _
  have filled : Spares loaded.tabs (loaded.loadPanes layoutTab.1).tabs [] := by
    rw [UiRuntime.loadPanes]
    refine List.foldlRecOn (motive := fun (panes : UiRuntime) => Spares loaded.tabs panes.tabs [])
      _ _ (Spares.refl spares.sound) ?_
    intro panes sparesPanes pane _
    exact sparesPanes.then_none (spares_loadPane sparesPanes.sound _ _ _)
  exact (spares.then_none filled).then_none (spares_updateTab filled.sound _ fun _ => rfl)

theorem focusMove_position (tree : SplitTree) (position : Nat) :
    FocusMove tree (match tree.exportPanes[position]? with
      | some pane => tree.setFocus pane.leafId
      | none => tree) := by
  split
  · rename_i pane exported
    exact .inr ⟨_, SplitTree.mem_leafIds_of_export (List.mem_of_getElem? exported), rfl⟩
  · exact .inl rfl

/-- An effect takes no pane out of the tabs but those it closes. -/
theorem spares_effect (sound : AllTrees Sound rt.tabs) (effect : UiEffect) :
    Spares rt.tabs (effect.apply rt).tabs (closes rt effect) := by
  have quiet : ∀ op : TabOp, ¬ TabOp.AtFocus op → TabOp.removed rt.tabs op = 0 →
      Spares rt.tabs (op.apply rt.tabs) [] := fun op elsewhere none =>
    spares_quiet sound elsewhere none
  cases effect with
  | newSplit direction answer => exact spares_createSplit sound direction answer
  | focusLeaf position => exact spares_move sound fun tree => focusMove_position tree position
  | resize ratios => exact quiet (.resize ratios) not_false rfl
  | closeSurface =>
      show Spares rt.tabs rt.handleSurfaceClosed.tabs (surfaceCloses rt.tabs)
      rw [tabs_handleSurfaceClosed]
      exact spares_closeFocused sound
  | breakPane => exact quiet .breakPane not_false rfl
  | newTab answer =>
      cases answer with
      | none => exact Spares.refl sound
      | some spawned => exact spares_newTab sound spawned.pane
  | nextTab => exact quiet .nextTab not_false rfl
  | prevTab => exact quiet .prevTab not_false rfl
  | closeTab =>
      show Spares rt.tabs rt.closeActiveTab.tabs (paneIdsAt rt.tabs rt.tabs.active)
      rw [UiRuntime.closeActiveTab, tabs_updateTabs, tabs_freePanes]
      exact spares_removeTab sound rt.tabs.active
  | gotoTab index => exact quiet (.gotoTab index) not_false rfl
  | gotoLastTab => exact quiet (.gotoTab _) not_false rfl
  | previousTab => exact quiet (.gotoTab _) not_false rfl
  | focusTab index => exact quiet (.gotoTab index) not_false rfl
  | joinMarkedPane direction =>
      show Spares rt.tabs (rt.joinMarkedPane direction).tabs (closes rt (.joinMarkedPane direction))
      rw [closes]
      cases mark : rt.markedPaneId with
      | none =>
          rw [UiRuntime.joinMarkedPane, mark]
          exact Spares.refl sound
      | some marked =>
          rw [tabs_joinMarkedPane rt marked direction mark]
          exact spares_joinPane sound marked direction
  | nextPane => exact quiet .focusNext not_false rfl
  | previousPane => exact quiet .focusPrev not_false rfl
  | swapPane next => exact quiet (.swap next) not_false rfl
  | rotatePanes forward => exact quiet (.rotate forward) not_false rfl
  | selectLayout layout => exact quiet (.applyLayout layout) not_false rfl
  | cycleLayout forward => exact quiet (.cycleLayout forward) not_false rfl
  | rebalanceLayout => exact quiet .rebalance not_false rfl
  | setTabTitle title =>
      show Spares rt.tabs (rt.updateTabs _).markActiveRemoteTabDirty.tabs []
      rw [tabs_markActiveRemoteTabDirty]
      exact spares_updateTab sound _ fun _ => rfl
  | loadLayout layoutTabs => exact spares_loadLayout sound layoutTabs
  | focusPane paneId => exact quiet (.focusPane paneId) not_false rfl
  | focusSurface index => exact quiet (.focusSurface index) not_false rfl
  | setTerminalFrame _ | markPane | clearMarkedPane | reloadConfig _ | write _ | present _ =>
      exact Spares.refl sound

theorem spares_applyAll (sound : AllTrees Sound rt.tabs) (effects : List UiEffect) :
    Spares rt.tabs (UiEffect.applyAll rt effects).tabs (closesAll rt effects) := by
  induction effects generalizing rt with
  | nil => exact Spares.refl sound
  | cons effect effects ih =>
      have first := spares_effect sound effect
      exact first.trans (ih first.sound)

end Effects

section Exits

open TabManager

variable {rt : UiRuntime}

theorem map_exportNode (parentSplit : Option (Direction × ℚ)) (node : Node) :
    (exportNode parentSplit node).map (fun exported => (exported.leafId, exported.pane)) =
      collectLeaves node := by
  induction node generalizing parentSplit with
  | leaf id pane => rfl
  | split direction ratio first second ihFirst ihSecond =>
      rw [exportNode, List.map_append, ihFirst, ihSecond, collectLeaves]

/-- The place at which a pane is found is a leaf with that pane. -/
theorem findPaneLocation_leaf {tabs : TabManager} {paneId : PaneId} {index : Nat} {leaf : LeafId}
    (found : tabs.findPaneLocation paneId = some (index, leaf)) :
    ∃ tree root pane, tabs.tabTree index = some tree ∧ tree.root = some root ∧
      (leaf, pane) ∈ collectLeaves root ∧ pane.val = paneId := by
  rw [findPaneLocation] at found
  obtain ⟨⟨tab, other⟩, listed, located⟩ := List.exists_of_findSome?_eq_some found
  obtain ⟨exported, first, same⟩ := Option.map_eq_some_iff.mp located
  cases same
  have named := List.find?_some first
  have member := List.mem_of_find?_eq_some first
  have held : tabs.tabTree index = some tab.tree := by
    rw [tabTree, List.mem_zipIdx_iff_getElem?.mp listed]
    rfl
  rw [SplitTree.exportPanes] at member
  cases root : tab.tree.root with
  | none =>
      rw [root] at member
      cases member
  | some node =>
      rw [root] at member
      refine ⟨tab.tree, node, exported.pane, held, root, ?_, of_decide_eq_true named⟩
      rw [← map_exportNode none node]
      exact List.mem_map_of_mem (f := fun exported => (exported.leafId, exported.pane)) member

/-- In a sound tree a leaf id names one pane, which a removal by this id returns. -/
theorem removeLeafId_leaf {tree : SplitTree} {root : Node} {leaf : LeafId} {pane : LivePane}
    (sound : Sound tree) (held : tree.root = some root)
    (member : (leaf, pane) ∈ collectLeaves root) :
    ∃ removed, tree.removeLeafId leaf = some (pane, removed) := by
  have named : leaf ∈ collectLeafIds root := by
    rw [← map_fst_collectLeaves]
    exact List.mem_map_of_mem member
  have distinct := sound.distinct
  rw [leafIds_eq held] at distinct
  rw [SplitTree.removeLeafId, held, Option.bind_some]
  cases taken : removeLeaf leaf root with
  | none => exact absurd named (removeLeaf_eq_none_iff.mp taken)
  | some removed =>
      obtain ⟨gone, remaining⟩ := removed
      have leaves := leaves_removeLeaf taken
      have kept : (leaf, gone) ∈ collectLeaves root := leaves.mem_iff.mpr List.mem_cons_self
      have same : gone = pane := by
        have first := findLeaf_of_mem distinct kept
        rw [findLeaf_of_mem distinct member] at first
        exact (Option.some.inj first).symm
      subst same
      exact ⟨_, rfl⟩

theorem surfaceCloses_located {tabs : TabManager} {paneId : PaneId} {index : Nat} {leaf : LeafId}
    (sound : AllTrees Sound tabs) (found : tabs.findPaneLocation paneId = some (index, leaf)) :
    surfaceCloses ((tabs.gotoTab index).updateActiveTree (·.setFocus leaf)) = [paneId] := by
  obtain ⟨tree, root, pane, held, isRoot, member, rfl⟩ := findPaneLocation_leaf found
  obtain ⟨tab, atActive, rfl⟩ := tab_of_activeTree (activeTree_gotoTab held)
  have refocused : ((tabs.gotoTab index).updateActiveTree (·.setFocus leaf)).activeTree =
      some (tab.tree.setFocus leaf) := by
    show (((tabs.gotoTab index).tabs.modify (tabs.gotoTab index).active _)[
      (tabs.gotoTab index).active]?).map Tab.tree = _
    rw [List.getElem?_modify_eq, atActive]
    rfl
  have soundTree : Sound (tab.tree.setFocus leaf) :=
    ((sound.gotoTab index) tab (List.mem_of_getElem? atActive)).setFocus leaf
  obtain ⟨removed, removal⟩ := removeLeafId_leaf soundTree isRoot member
  rw [surfaceCloses, refocused, Option.bind_some, SplitTree.removeFocused]
  have focus : (tab.tree.setFocus leaf).focusedId = leaf := rfl
  rw [focus, removal]

/-- `close_pane_by_id` takes that pane out and no other. -/
theorem spares_closePaneById (sound : AllTrees Sound rt.tabs) (paneId : PaneId) :
    Spares rt.tabs (rt.closePaneById paneId).tabs [paneId] := by
  rw [tabs_closePaneById, closePane]
  cases found : rt.tabs.findPaneLocation paneId with
  | none => exact Spares.refl sound
  | some location =>
      obtain ⟨index, leaf⟩ := location
      have visited : Spares rt.tabs (rt.tabs.gotoTab index) [] :=
        @spares_quiet rt.tabs sound (.gotoTab index) not_false rfl
      have refocused : Spares (rt.tabs.gotoTab index)
          ((rt.tabs.gotoTab index).updateActiveTree (·.setFocus leaf)) [] :=
        @spares_quiet _ visited.sound (.focusSurface leaf) not_false rfl
      have closed := spares_closeFocused refocused.sound
      rw [surfaceCloses_located sound found] at closed
      exact (visited.trans refocused).trans closed

theorem spares_closePanes (sound : AllTrees Sound rt.tabs) (panes : List PaneId) :
    Spares rt.tabs (panes.foldl UiRuntime.closePaneById rt).tabs panes := by
  induction panes generalizing rt with
  | nil => exact Spares.refl sound
  | cons paneId panes ih =>
      have first := spares_closePaneById sound paneId
      exact first.trans (ih first.sound)

end Exits

end Boo.Runtime.ClosedPanes
