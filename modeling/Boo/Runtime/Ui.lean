/- module: Boo/Runtime/Ui
   digest: The runtime behind all clients, and what its own user interface can do to it. -/

import Boo.Runtime.Tabs

set_option autoImplicit false
set_option relaxedAutoImplicit false

namespace Boo.Runtime.Ui

open Boo.Wire.Message
open Boo.Server.Frames
open Boo.Runtime.Splits
open Boo.Runtime.Tabs

/-- A worker of the Linux backend. `state` is its current screen, `polled` the version that the last
poll cached, if any. -/
structure Terminal where
  version : Nat
  state : Grid
  pwd : String
  exited : Bool
  polled : Option Nat

/-- What the backend answers to `create_pane`; the first screen is cached at once. -/
structure Spawned where
  pane : LivePane
  version : Nat
  state : Grid
  pwd : String

def Spawned.terminal (spawned : Spawned) : Terminal where
  version := spawned.version
  state := spawned.state
  pwd := spawned.pwd
  exited := false
  polled := some spawned.version

/-- `written` lists the calls of the backend's `write_input`, oldest first. -/
structure UiRuntime where
  tabs : TabManager
  markedPaneId : Option PaneId
  terminals : PaneId → Option Terminal
  written : List (PaneId × List UInt8)
  terminalFrame : Rect
  presentation : Nat
  appearance : UiAppearance
  dirtyRemoteTabs : List TabId
  cachedRemoteTabs : Option (List RemoteTabInfo)

/-- One tab of a stored layout; each pane with the backend's answer and its split. -/
structure LayoutTab where
  title : String
  layout : TabLayout
  panes : List (Option Spawned × Option (Direction × ℚ))

namespace UiRuntime

def updateTabs (rt : UiRuntime) (update : TabManager → TabManager) : UiRuntime :=
  { rt with tabs := update rt.tabs }

def register (rt : UiRuntime) (spawned : Spawned) : UiRuntime :=
  { rt with terminals :=
      Function.update rt.terminals spawned.pane.val (some spawned.terminal) }

def freePane (rt : UiRuntime) (pane : LivePane) : UiRuntime :=
  { rt with terminals := Function.update rt.terminals pane.val none }

def freePanes (rt : UiRuntime) (panes : List LivePane) : UiRuntime := panes.foldl freePane rt

def createSplit (rt : UiRuntime) (direction : Direction) (answer : Option Spawned) : UiRuntime :=
  if rt.tabs.tabs.isEmpty then rt
  else
    match answer with
    | none => rt
    | some spawned =>
        (rt.register spawned).updateTabs
          (·.updateActiveTree (·.splitFocused direction spawned.pane))

def newTab (rt : UiRuntime) (spawned : Spawned) : UiRuntime :=
  (rt.register spawned).updateTabs (·.newTab spawned.pane)

/-- `remove_tab` of the active tab and the cleanup of its panes. -/
def closeActiveTab (rt : UiRuntime) : UiRuntime :=
  (rt.freePanes (rt.tabs.panesAt rt.tabs.active)).updateTabs (·.removeTab rt.tabs.active)

def handleSurfaceClosed (rt : UiRuntime) : UiRuntime :=
  match rt.tabs.activeTree.bind SplitTree.removeFocused with
  | some (pane, tree) =>
      (rt.freePane pane).updateTabs fun tabs =>
        let without := tabs.updateTree tabs.active fun _ => tree
        if tree.len = 0 then without.removeTab tabs.active else without
  | none => rt.closeActiveTab

def closePaneById (rt : UiRuntime) (paneId : PaneId) : UiRuntime :=
  match rt.tabs.findPaneLocation paneId with
  | none => rt
  | some (index, leaf) =>
      (rt.updateTabs fun tabs =>
        (tabs.gotoTab index).updateActiveTree (·.setFocus leaf)).handleSurfaceClosed

/-- `focus_pane_by_id`, which looks only at the active tab. -/
def focusPaneById (rt : UiRuntime) (paneId : PaneId) : UiRuntime :=
  rt.updateTabs (·.updateActiveTree fun tree => (tree.setFocusToPane paneId).getD tree)

def focusRuntimeTab (rt : UiRuntime) (index : Nat) : UiRuntime := rt.updateTabs (·.gotoTab index)

/-- The mark is kept where the marked pane already has the focus. -/
def joinMarkedPane (rt : UiRuntime) (direction : Direction) : UiRuntime :=
  match rt.markedPaneId with
  | none => rt
  | some marked =>
      if marked = 0 ∨ marked = rt.tabs.focusedPane then rt
      else
        match rt.tabs.removePaneById marked with
        | none => { rt with markedPaneId := none }
        | some (pane, tabs) =>
            { rt with
              tabs := tabs.updateActiveTree (·.splitFocused direction pane)
              markedPaneId := none }

def writeTerminalInput (rt : UiRuntime) (pane : PaneId) (bytes : List UInt8) : UiRuntime :=
  { rt with written := rt.written ++ [(pane, bytes)] }

/-- The first pane of a stored tab opens a tab, the others split the active one. -/
def loadPane (rt : UiRuntime) (first : Bool) (answer : Option Spawned)
    (split : Option (Direction × ℚ)) : UiRuntime :=
  match answer with
  | none => rt
  | some spawned =>
      if first then rt.newTab spawned
      else
        let (direction, ratio) := split.getD (.vertical, 1 / 2)
        (rt.register spawned).updateTabs
          (·.updateActiveTree (·.splitFocusedWithRatio direction spawned.pane ratio))

/-- The split of pane `index` comes from an automatic layout if the tab has one. -/
def loadPanes (rt : UiRuntime) (layoutTab : LayoutTab) : UiRuntime :=
  let autoSplits :=
    if layoutTab.layout = .manual then []
    else layoutSplits layoutTab.layout layoutTab.panes.length
  layoutTab.panes.zipIdx.foldl (fun rt (pane, index) =>
    rt.loadPane (index = 0) pane.1
      (if autoSplits.isEmpty then pane.2 else autoSplits[index - 1]?)) rt

def loadLayout (rt : UiRuntime) (layoutTabs : List LayoutTab) : UiRuntime :=
  layoutTabs.zipIdx.foldl (fun rt (layoutTab, index) =>
    (rt.loadPanes layoutTab).updateTabs (·.updateTab index fun tab => { tab with
      title := if layoutTab.title.isEmpty then tab.title else layoutTab.title
      layout := layoutTab.layout })) rt

def invalidateRemoteTabsCache (rt : UiRuntime) : UiRuntime := { rt with cachedRemoteTabs := none }

def markRemoteTabDirty (rt : UiRuntime) (tabId : TabId) : UiRuntime :=
  { rt with
    dirtyRemoteTabs :=
      if tabId ∈ rt.dirtyRemoteTabs then rt.dirtyRemoteTabs else rt.dirtyRemoteTabs ++ [tabId]
    cachedRemoteTabs := none }

def markActiveRemoteTabDirty (rt : UiRuntime) : UiRuntime :=
  match rt.tabs.activeTabId with
  | none => rt
  | some tabId => rt.markRemoteTabDirty tabId

end UiRuntime

/-- What the bindings, the command line and the pointer do to the runtime. Geometry and the
backend's answers are arguments: the leaf a direction or a point selects, the ratios that a
resize sets, the pane that a spawn returns. -/
inductive UiEffect
  | newSplit (direction : Direction) (answer : Option Spawned)
  | focusLeaf (position : Nat)
  | resize (ratios : List Bool → Option ℚ)
  | setTerminalFrame (frame : Rect)
  | closeSurface
  | breakPane
  | newTab (answer : Option Spawned)
  | nextTab
  | prevTab
  | closeTab
  | gotoTab (index : Nat)
  | gotoLastTab
  | previousTab
  | markPane
  | clearMarkedPane
  | joinMarkedPane (direction : Direction)
  | nextPane
  | previousPane
  | swapPane (next : Bool)
  | rotatePanes (forward : Bool)
  | selectLayout (layout : TabLayout)
  | cycleLayout (forward : Bool)
  | rebalanceLayout
  | reloadConfig (appearance : UiAppearance)
  | setTabTitle (title : String)
  | loadLayout (layoutTabs : List LayoutTab)
  | focusPane (paneId : PaneId)
  | focusTab (index : Nat)
  | focusSurface (index : LeafId)
  | write (bytes : List UInt8)
  | present (presentation : Nat)

namespace UiEffect

def apply (rt : UiRuntime) : UiEffect → UiRuntime
  | newSplit direction answer => rt.createSplit direction answer
  | focusLeaf position => rt.updateTabs (·.updateActiveTree fun tree =>
      match tree.exportPanes[position]? with
      | some pane => tree.setFocus pane.leafId
      | none => tree)
  | resize ratios => rt.updateTabs (·.updateActiveTree (·.retune ratios))
  | setTerminalFrame frame => { rt with terminalFrame := frame }
  | closeSurface => rt.handleSurfaceClosed
  | breakPane => rt.updateTabs fun tabs => tabs.breakActivePaneToTab.getD tabs
  | newTab answer =>
      match answer with
      | none => rt
      | some spawned => rt.newTab spawned
  | nextTab => rt.updateTabs TabManager.nextTab
  | prevTab => rt.updateTabs TabManager.prevTab
  | closeTab => rt.closeActiveTab
  | gotoTab index => rt.updateTabs (·.gotoTab index)
  | gotoLastTab => rt.updateTabs fun tabs => tabs.gotoTab (tabs.tabs.length - 1)
  | previousTab => rt.updateTabs fun tabs => tabs.gotoTab tabs.previousActive
  | markPane => { rt with markedPaneId := some rt.tabs.focusedPane }
  | clearMarkedPane => { rt with markedPaneId := none }
  | joinMarkedPane direction => rt.joinMarkedPane direction
  | nextPane => rt.updateTabs (·.updateActiveTree SplitTree.focusNext)
  | previousPane => rt.updateTabs (·.updateActiveTree SplitTree.focusPrev)
  | swapPane next => rt.updateTabs (·.swapActivePaneWithAdjacent next)
  | rotatePanes forward => rt.updateTabs (·.rotateActivePanes forward)
  | selectLayout layout => rt.updateTabs (·.applyLayoutToActive layout)
  | cycleLayout forward => rt.updateTabs (·.cycleActiveLayout forward)
  | rebalanceLayout => rt.updateTabs TabManager.rebalanceActiveLayout
  | reloadConfig appearance => { rt with appearance := appearance }
  | setTabTitle title =>
      (rt.updateTabs (·.setActiveTitle title)).markActiveRemoteTabDirty
  | loadLayout layoutTabs => rt.loadLayout layoutTabs
  | focusPane paneId => rt.focusPaneById paneId
  | focusTab index => rt.focusRuntimeTab index
  | focusSurface index => rt.updateTabs (·.updateActiveTree (·.setFocus index))
  | write bytes => rt.writeTerminalInput rt.tabs.focusedPane bytes
  | present presentation => { rt with presentation := presentation }

def applyAll (rt : UiRuntime) (effects : List UiEffect) : UiRuntime := effects.foldl apply rt

/-- A new focus is a leaf of the active tab, which only the control socket's `FocusSurface`
does not see to. -/
def FocusesLeaf (rt : UiRuntime) : UiEffect → Prop
  | focusSurface index => ∀ tree, rt.tabs.activeTree = some tree → index ∈ tree.leafIds
  | _ => True

def AllFocusLeaves (rt : UiRuntime) : List UiEffect → Prop
  | [] => True
  | effect :: effects => effect.FocusesLeaf rt ∧ AllFocusLeaves (effect.apply rt) effects

instance (rt : UiRuntime) (effect : UiEffect) : Decidable (effect.FocusesLeaf rt) :=
  match effect with
  | focusSurface index =>
      inferInstanceAs (Decidable (∀ tree ∈ rt.tabs.activeTree, index ∈ tree.leafIds))
  | newSplit _ _ | focusLeaf _ | resize _ | setTerminalFrame _ | closeSurface | breakPane
  | newTab _ | nextTab | prevTab | closeTab | gotoTab _ | gotoLastTab | previousTab | markPane
  | clearMarkedPane | joinMarkedPane _ | nextPane | previousPane | swapPane _ | rotatePanes _
  | selectLayout _ | cycleLayout _ | rebalanceLayout | reloadConfig _ | setTabTitle _
  | loadLayout _ | focusPane _ | focusTab _ | write _ | present _ =>
      inferInstanceAs (Decidable True)

instance decidableAllFocusLeaves (rt : UiRuntime) (effects : List UiEffect) :
    Decidable (AllFocusLeaves rt effects) :=
  match effects with
  | [] => inferInstanceAs (Decidable True)
  | effect :: effects =>
      have := decidableAllFocusLeaves (effect.apply rt) effects
      inferInstanceAs (Decidable (_ ∧ _))

end UiEffect

section TabsOk

open TabManager

variable {rt : UiRuntime}

@[simp] theorem tabs_updateTabs (update : TabManager → TabManager) :
    (rt.updateTabs update).tabs = update rt.tabs := rfl

@[simp] theorem tabs_freePanes (panes : List LivePane) :
    (rt.freePanes panes).tabs = rt.tabs := by
  unfold UiRuntime.freePanes
  induction panes generalizing rt with
  | nil => rfl
  | cons pane panes ih => exact ih

@[simp] theorem tabs_markActiveRemoteTabDirty : rt.markActiveRemoteTabDirty.tabs = rt.tabs := by
  unfold UiRuntime.markActiveRemoteTabDirty
  split <;> rfl

private theorem tabsOk_createSplit (ok : TabsOk rt.tabs) (direction : Direction)
    (answer : Option Spawned) : TabsOk (rt.createSplit direction answer).tabs := by
  unfold UiRuntime.createSplit
  split
  · exact ok
  · cases answer with
    | none => exact ok
    | some spawned =>
        exact ok.updateActiveTree fun tree focus => focus.splitFocusedWithRatio _ _ _

private theorem tabsOk_closeActiveTab (ok : TabsOk rt.tabs) : TabsOk rt.closeActiveTab.tabs := by
  rw [UiRuntime.closeActiveTab, tabs_updateTabs, tabs_freePanes]
  exact ok.removeTab _

/-- Closing the focused pane asks nothing of the focus of the active tab itself. -/
theorem tabsOk_handleSurfaceClosed (ok : TabsOkExcept rt.tabs rt.tabs.active) :
    TabsOk rt.handleSurfaceClosed.tabs := by
  unfold UiRuntime.handleSurfaceClosed
  split
  · rename_i pane tree removed
    rw [Option.bind_eq_some_iff] at removed
    obtain ⟨old, held, removed⟩ := removed
    exact ok.dropTree (inside_of_tabTree held) (SplitTree.focusOk_removeLeafId removed)
  · rw [UiRuntime.closeActiveTab, tabs_updateTabs, tabs_freePanes]
    by_cases inside : rt.tabs.active < rt.tabs.tabs.length
    · exact ok.removeTab inside
    · rw [TabManager.removeTab, if_pos (Nat.not_lt.mp inside)]
      refine ok.whole fun tab at_active => ?_
      exact absurd (List.getElem?_eq_some_iff.mp at_active).1 inside

theorem tabsOk_closePaneById (ok : TabsOk rt.tabs) (paneId : PaneId) :
    TabsOk (rt.closePaneById paneId).tabs := by
  unfold UiRuntime.closePaneById
  split
  · exact ok
  · rename_i index leaf _
    exact tabsOk_handleSurfaceClosed (((ok.gotoTab index).except _).updateTab fun _ => rfl)

private theorem tabsOk_joinMarkedPane (ok : TabsOk rt.tabs) (direction : Direction) :
    TabsOk (rt.joinMarkedPane direction).tabs := by
  unfold UiRuntime.joinMarkedPane
  split
  · exact ok
  · split
    · exact ok
    · split
      · exact ok
      · rename_i pane tabs removed
        exact (ok.removePaneById removed).updateActiveTree fun tree focus =>
          focus.splitFocusedWithRatio _ _ _

private theorem tabsOk_loadPane (ok : TabsOk rt.tabs) (first : Bool) (answer : Option Spawned)
    (split : Option (Direction × ℚ)) : TabsOk (rt.loadPane first answer split).tabs := by
  unfold UiRuntime.loadPane
  split
  · exact ok
  · split
    · exact ok.newTab _
    · exact ok.updateActiveTree fun tree focus => focus.splitFocusedWithRatio _ _ _

private theorem tabsOk_loadLayout (ok : TabsOk rt.tabs) (layoutTabs : List LayoutTab) :
    TabsOk (rt.loadLayout layoutTabs).tabs := by
  unfold UiRuntime.loadLayout
  refine List.foldlRecOn (motive := fun (rt : UiRuntime) => TabsOk rt.tabs) _ _ ok ?_
  intro loaded okLoaded layoutTab _
  refine TabsOk.updateTab ?_ _ (fun _ => rfl) fun tab focus => focus
  unfold UiRuntime.loadPanes
  refine List.foldlRecOn (motive := fun (rt : UiRuntime) => TabsOk rt.tabs) _ _ okLoaded ?_
  intro panes okPanes pane _
  exact tabsOk_loadPane okPanes _ _ _

private theorem tabsOk_focusPaneById (ok : TabsOk rt.tabs) (paneId : PaneId) :
    TabsOk (rt.focusPaneById paneId).tabs := by
  rw [UiRuntime.focusPaneById, tabs_updateTabs]
  refine ok.updateActiveTree fun tree focus => ?_
  cases refocus : tree.setFocusToPane paneId with
  | none => exact focus
  | some focused => exact SplitTree.focusOk_setFocusToPane refocus

private theorem tabsOk_focusLeaf (ok : TabsOk rt.tabs) (position : Nat) :
    TabsOk ((UiEffect.focusLeaf position).apply rt).tabs := by
  rw [UiEffect.apply, tabs_updateTabs]
  refine ok.updateActiveTree fun tree focus => ?_
  split
  · rename_i pane exported
    exact SplitTree.mem_leafIds_of_export (List.mem_of_getElem? exported)
  · exact focus

private theorem tabsOk_focusSurface (ok : TabsOk rt.tabs) {index : LeafId}
    (leaf : (UiEffect.focusSurface index).FocusesLeaf rt) :
    TabsOk ((UiEffect.focusSurface index).apply rt).tabs := by
  rw [UiEffect.apply, tabs_updateTabs, updateActiveTree, updateTree]
  refine TabsOkExcept.whole ((ok.except rt.tabs.active).updateTab ?_) ?_
  · exact fun _ => rfl
  intro tab at_active
  rw [TabManager.updateTab, List.getElem?_modify_eq, Option.map_eq_map,
    Option.map_eq_some_iff] at at_active
  obtain ⟨old, held, rfl⟩ := at_active
  exact leaf old.tree (by simp [activeTree, tabTree, held])

theorem UiEffect.tabsOk (ok : TabsOk rt.tabs) {effect : UiEffect}
    (leaf : effect.FocusesLeaf rt) : TabsOk (effect.apply rt).tabs := by
  cases effect with
  | newSplit direction answer => exact tabsOk_createSplit ok direction answer
  | focusLeaf position => exact tabsOk_focusLeaf ok position
  | resize ratios => exact ok.updateActiveTree fun tree focus => focus.retune ratios
  | setTerminalFrame frame => exact ok
  | closeSurface => exact tabsOk_handleSurfaceClosed (ok.except _)
  | breakPane =>
      show TabsOk (rt.tabs.breakActivePaneToTab.getD rt.tabs)
      cases broken : rt.tabs.breakActivePaneToTab with
      | none => exact ok
      | some tabs => exact ok.breakActivePaneToTab broken
  | newTab answer =>
      cases answer with
      | none => exact ok
      | some spawned => exact ok.newTab spawned.pane
  | nextTab => exact ok.nextTab
  | prevTab => exact ok.prevTab
  | closeTab => exact tabsOk_closeActiveTab ok
  | gotoTab index => exact ok.gotoTab index
  | gotoLastTab => exact ok.gotoTab _
  | previousTab => exact ok.gotoTab _
  | markPane => exact ok
  | clearMarkedPane => exact ok
  | joinMarkedPane direction => exact tabsOk_joinMarkedPane ok direction
  | nextPane => exact ok.updateActiveTree fun tree focus => focus.focusOffset _
  | previousPane => exact ok.updateActiveTree fun tree focus => focus.focusOffset _
  | swapPane next => exact ok.swapActivePaneWithAdjacent next
  | rotatePanes forward => exact ok.rotateActivePanes forward
  | selectLayout layout => exact ok.applyLayoutToActive layout
  | cycleLayout forward => exact ok.cycleActiveLayout forward
  | rebalanceLayout => exact ok.rebalanceActiveLayout
  | reloadConfig appearance => exact ok
  | setTabTitle title =>
      show TabsOk (rt.updateTabs _).markActiveRemoteTabDirty.tabs
      rw [tabs_markActiveRemoteTabDirty]
      exact ok.setActiveTitle title
  | loadLayout layoutTabs => exact tabsOk_loadLayout ok layoutTabs
  | focusPane paneId => exact tabsOk_focusPaneById ok paneId
  | focusTab index => exact ok.gotoTab index
  | focusSurface index => exact tabsOk_focusSurface ok leaf
  | write bytes => exact ok
  | present presentation => exact ok

theorem UiEffect.tabsOk_applyAll {effects : List UiEffect} (ok : TabsOk rt.tabs)
    (leaves : UiEffect.AllFocusLeaves rt effects) : TabsOk (UiEffect.applyAll rt effects).tabs := by
  induction effects generalizing rt with
  | nil => exact ok
  | cons effect effects ih => exact ih (UiEffect.tabsOk ok leaves.1) leaves.2

end TabsOk

section Written

variable (rt : UiRuntime)

@[simp] theorem written_updateTabs (update : TabManager → TabManager) :
    (rt.updateTabs update).written = rt.written := rfl

@[simp] theorem written_freePanes (panes : List LivePane) :
    (rt.freePanes panes).written = rt.written := by
  unfold UiRuntime.freePanes
  induction panes generalizing rt with
  | nil => rfl
  | cons pane panes ih => exact ih (rt.freePane pane)

@[simp] theorem written_markActiveRemoteTabDirty :
    rt.markActiveRemoteTabDirty.written = rt.written := by
  unfold UiRuntime.markActiveRemoteTabDirty
  split <;> rfl

theorem written_closeActiveTab : rt.closeActiveTab.written = rt.written := by
  rw [UiRuntime.closeActiveTab, written_updateTabs, written_freePanes]

theorem written_handleSurfaceClosed : rt.handleSurfaceClosed.written = rt.written := by
  unfold UiRuntime.handleSurfaceClosed
  split
  · rfl
  · exact written_closeActiveTab rt

theorem written_closePaneById (paneId : PaneId) :
    (rt.closePaneById paneId).written = rt.written := by
  unfold UiRuntime.closePaneById
  split
  · rfl
  · rw [written_handleSurfaceClosed, written_updateTabs]

theorem written_createSplit (direction : Direction) (answer : Option Spawned) :
    (rt.createSplit direction answer).written = rt.written := by
  unfold UiRuntime.createSplit
  split
  · rfl
  · split <;> rfl

theorem written_joinMarkedPane (direction : Direction) :
    (rt.joinMarkedPane direction).written = rt.written := by
  unfold UiRuntime.joinMarkedPane
  split
  · rfl
  · split
    · rfl
    · split <;> rfl

theorem written_loadPane (first : Bool) (answer : Option Spawned)
    (split : Option (Direction × ℚ)) : (rt.loadPane first answer split).written = rt.written := by
  unfold UiRuntime.loadPane
  split
  · rfl
  · split <;> rfl

theorem written_loadLayout (layoutTabs : List LayoutTab) :
    (rt.loadLayout layoutTabs).written = rt.written := by
  unfold UiRuntime.loadLayout
  refine List.foldlRecOn (motive := fun (loaded : UiRuntime) => loaded.written = rt.written)
    _ _ rfl ?_
  intro loaded same layoutTab _
  rw [written_updateTabs, ← same]
  unfold UiRuntime.loadPanes
  refine List.foldlRecOn (motive := fun (panes : UiRuntime) => panes.written = loaded.written)
    _ _ rfl ?_
  intro panes samePanes pane _
  rw [written_loadPane, samePanes]

/-- What an effect writes to the panes. -/
def UiEffect.writes : UiEffect → List (PaneId × List UInt8)
  | write bytes => [(rt.tabs.focusedPane, bytes)]
  | _ => []

theorem UiEffect.written_apply (effect : UiEffect) :
    (effect.apply rt).written = rt.written ++ effect.writes rt := by
  cases effect with
  | write bytes => rfl
  | newSplit direction answer =>
      exact (written_createSplit rt direction answer).trans (List.append_nil _).symm
  | closeSurface => exact (written_handleSurfaceClosed rt).trans (List.append_nil _).symm
  | closeTab => exact (written_closeActiveTab rt).trans (List.append_nil _).symm
  | newTab answer => cases answer <;> exact (List.append_nil _).symm
  | joinMarkedPane direction =>
      exact (written_joinMarkedPane rt direction).trans (List.append_nil _).symm
  | setTabTitle title =>
      exact (written_markActiveRemoteTabDirty _).trans (List.append_nil _).symm
  | loadLayout layoutTabs =>
      exact (written_loadLayout rt layoutTabs).trans (List.append_nil _).symm
  | _ => exact (List.append_nil _).symm

def UiEffect.writesAll (rt : UiRuntime) : List UiEffect → List (PaneId × List UInt8)
  | [] => []
  | effect :: effects => effect.writes rt ++ UiEffect.writesAll (effect.apply rt) effects

theorem UiEffect.written_applyAll (effects : List UiEffect) :
    (UiEffect.applyAll rt effects).written = rt.written ++ UiEffect.writesAll rt effects := by
  induction effects generalizing rt with
  | nil => exact (List.append_nil _).symm
  | cons effect effects ih =>
      show (UiEffect.applyAll (effect.apply rt) effects).written = _
      rw [ih, UiEffect.written_apply, List.append_assoc]
      rfl

end Written

end Boo.Runtime.Ui
