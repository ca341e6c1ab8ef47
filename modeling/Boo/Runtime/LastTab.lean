/- module: Boo/Runtime/LastTab
   digest: When the last tab is gone, the backend has none of the panes that the tabs held. -/

import Boo.Runtime.ClosedPanes
import Boo.Runtime.Exits

set_option autoImplicit false
set_option relaxedAutoImplicit false

namespace Boo.Runtime.LastTab

open Boo.Server.Frames
open Boo.Runtime.Splits
open Boo.Runtime.Leaves
open Boo.Runtime.Tabs
open Boo.Runtime.TabOps
open Boo.Runtime.PaneCount
open Boo.Runtime.ClosedPanes
open Boo.Runtime.Exits
open Boo.Runtime.Ui

/-- The effects that take panes out of the tabs. -/
def removes : UiEffect → Bool
  | .closeSurface | .closeTab | .joinMarkedPane _ => true
  | _ => false

/-- The panes that the backend answers with. -/
def spawnedBy : UiEffect → List PaneId
  | .newSplit _ answer | .newTab answer => (answer.map fun spawned => spawned.pane.val).toList
  | .loadLayout layoutTabs => layoutTabs.flatMap fun layoutTab =>
      layoutTab.panes.filterMap fun pane => pane.1.map fun spawned => spawned.pane.val
  | _ => []

/-- What one key resolves to: it removes once at most, and no leaf is named by its id. -/
structure OneKey (effects : List UiEffect) : Prop where
  focus : ∀ index, .focusSurface index ∉ effects
  once : effects.countP removes ≤ 1

/-- No tab is lost, and no pane is there that was neither there nor added. -/
structure Grows (tabs after : TabManager) (added : List PaneId) : Prop where
  length : tabs.tabs.length ≤ after.tabs.length
  panes : ∀ paneId ∈ livePanes after, paneId ∈ livePanes tabs ∨ paneId ∈ added

section Growing

open TabManager

variable {tabs mid after : TabManager} {added : List PaneId}

theorem Grows.refl (tabs : TabManager) : Grows tabs tabs added :=
  ⟨Nat.le_refl _, fun _ live => .inl live⟩

theorem Grows.trans {next : List PaneId} (first : Grows tabs mid added)
    (later : Grows mid after next) : Grows tabs after (added ++ next) := by
  refine ⟨first.length.trans later.length, fun paneId live => ?_⟩
  rcases later.panes paneId live with old | new
  · exact (first.panes paneId old).imp id (List.mem_append_left _)
  · exact .inr (List.mem_append_right _ new)

theorem Grows.mono {more : List PaneId} (grows : Grows tabs after added) (sub : added ⊆ more) :
    Grows tabs after more :=
  ⟨grows.length, fun paneId live => (grows.panes paneId live).imp id fun new => sub new⟩

theorem live_of_le {returned : Multiset LivePane} (bound : panes after ≤ panes tabs + returned)
    (listed : ∀ pane ∈ returned, pane.val ∈ added) :
    ∀ paneId ∈ livePanes after, paneId ∈ livePanes tabs ∨ paneId ∈ added := by
  intro paneId live
  obtain ⟨pane, member, rfl⟩ := List.mem_map.mp live
  rcases Multiset.mem_add.mp (Multiset.mem_of_le bound (Multiset.mem_coe.mpr member)) with
    old | new
  · exact .inl (List.mem_map_of_mem (Multiset.mem_coe.mp old))
  · exact .inr (listed pane new)

theorem live_apply (sound : AllTrees Sound tabs) {op : TabOp} (elsewhere : ¬ TabOp.AtFocus op)
    (none : TabOp.added tabs op = 0) :
    ∀ paneId ∈ livePanes (op.apply tabs),
      paneId ∈ livePanes tabs ∨ paneId ∈ ([] : List PaneId) := by
  have conserved := panes_apply_sound sound elsewhere
  apply @live_of_le tabs (op.apply tabs) [] 0
  · rw [← none, ← conserved]
    exact Multiset.le_add_right _ _
  · exact fun pane member => absurd member (Multiset.notMem_zero pane)

theorem length_gotoTab (index : Nat) : (tabs.gotoTab index).tabs.length = tabs.tabs.length := by
  rw [TabManager.gotoTab]
  split <;> rfl

theorem length_updateTab (index : Nat) (update : Tab → Tab) :
    (tabs.updateTab index update).tabs.length = tabs.tabs.length := by
  rw [TabManager.updateTab, List.length_modify]

theorem length_newTab (pane : LivePane) :
    (tabs.newTab pane).tabs.length = tabs.tabs.length + 1 := by
  rw [TabManager.newTab, List.length_append, List.length_singleton]

theorem length_removeTab (index : Nat) :
    tabs.tabs.length ≤ (tabs.removeTab index).tabs.length + 1 := by
  rw [TabManager.removeTab]
  split
  · exact Nat.le_succ _
  · rename_i inside
    dsimp only
    rw [List.length_eraseIdx_of_lt (Nat.not_le.mp inside)]
    omega

theorem length_breakPane :
    tabs.tabs.length ≤ (tabs.breakActivePaneToTab.getD tabs).tabs.length := by
  rw [TabManager.breakActivePaneToTab]
  split
  · exact Nat.le_refl _
  · rename_i pane tree removal
    dsimp only
    rw [Option.getD_some, length_newTab, ← length_updateTab tabs.active]
    split
    · exact length_removeTab tabs.active
    · exact Nat.le_succ _

theorem grows_newTab (pane : LivePane) : Grows tabs (tabs.newTab pane) [pane.val] := by
  refine ⟨by rw [length_newTab]; exact Nat.le_succ _, live_of_le (panes_newTab tabs pane).le ?_⟩
  intro other member
  rw [Multiset.mem_singleton.mp member]
  exact List.mem_singleton_self _

/-- A change of one tab that adds no pane but one. -/
theorem grows_updateTab (index : Nat) {update : Tab → Tab}
    (holds : ∀ tab : Tab, ∀ pane ∈ (update tab).tree.allPanes,
      pane ∈ tab.tree.allPanes ∨ pane.val ∈ added) :
    Grows tabs (tabs.updateTab index update) added := by
  refine ⟨(length_updateTab index update).ge, fun paneId live => ?_⟩
  obtain ⟨pane, member, rfl⟩ := List.mem_map.mp live
  obtain ⟨tab, held, inside⟩ := List.mem_flatMap.mp member
  obtain ⟨place, atPlace⟩ := List.mem_iff_getElem?.mp held
  rw [TabManager.updateTab, List.getElem?_modify, Option.map_eq_map,
    Option.map_eq_some_iff] at atPlace
  obtain ⟨old, before, rfl⟩ := atPlace
  have listed : old ∈ tabs.tabs := List.mem_of_getElem? before
  have stays : pane ∈ old.tree.allPanes → pane.val ∈ livePanes tabs := fun kept =>
    List.mem_map_of_mem (List.mem_flatMap.mpr ⟨old, listed, kept⟩)
  split at inside
  · exact (holds old pane inside).imp stays id
  · exact .inl (stays inside)

/-- The panes of a split tree are those it had and the new one, wherever the focus is. -/
theorem mem_of_splitNode {target newId : LeafId} {direction : Direction} {pane other : LivePane}
    {ratio : ℚ} {node : Node}
    (member : other ∈ collectPanes (splitNodeWithRatio target direction newId pane ratio node)) :
    other ∈ collectPanes node ∨ other = pane := by
  induction node with
  | leaf id old =>
      rw [splitNodeWithRatio] at member
      split at member
      · simpa [collectPanes] using member
      · exact .inl member
  | split existing existingRatio first second ihFirst ihSecond =>
      rw [splitNodeWithRatio, collectPanes, List.mem_append] at member
      rw [collectPanes, List.mem_append]
      rcases member with early | late
      · exact (ihFirst early).imp .inl id
      · exact (ihSecond late).imp .inr id

theorem grows_split (direction : Direction) (pane : LivePane) (ratio : ℚ) :
    Grows tabs (tabs.updateActiveTree (·.splitFocusedWithRatio direction pane ratio))
      [pane.val] := by
  apply grows_updateTab
  intro tab other member
  dsimp only at member
  rw [SplitTree.splitFocusedWithRatio] at member
  cases held : tab.tree.root with
  | none =>
      rw [held] at member
      simp [SplitTree.allPanes] at member
  | some root =>
      rw [held] at member
      rw [SplitTree.allPanes, held]
      refine (mem_of_splitNode member).imp id fun same => ?_
      rw [same]
      exact List.mem_singleton_self _

theorem live_joinPane (marked : PaneId) (direction : Direction) :
    ∀ paneId ∈ livePanes (joinPane tabs marked direction), paneId ∈ livePanes tabs := by
  intro paneId live
  rw [joinPane] at live
  split at live
  · exact live
  · cases removal : tabs.removePaneById marked with
    | none =>
        rw [removal] at live
        exact live
    | some removed =>
        obtain ⟨pane, without⟩ := removed
        rw [removal] at live
        have taken := panes_removePaneById removal
        have member : ∀ other, other ∈ panes without + {pane} → other.val ∈ livePanes tabs := by
          intro other held
          rw [taken] at held
          exact List.mem_map_of_mem (Multiset.mem_coe.mp held)
        rcases (grows_split direction pane (1 / 2)).panes paneId live with old | new
        · obtain ⟨other, held, rfl⟩ := List.mem_map.mp old
          exact member other (Multiset.mem_add.mpr (.inl (Multiset.mem_coe.mpr held)))
        · rw [List.mem_singleton.mp new]
          exact member pane (Multiset.mem_add.mpr (.inr (Multiset.mem_singleton_self pane)))

end Growing

section Effects

open TabManager

variable {rt : UiRuntime}

theorem grows_createSplit (direction : Direction) (answer : Option Spawned) :
    Grows rt.tabs (rt.createSplit direction answer).tabs
      (answer.map fun spawned => spawned.pane.val).toList := by
  unfold UiRuntime.createSplit
  split
  · exact Grows.refl _
  · cases answer with
    | none => exact Grows.refl _
    | some spawned => exact grows_split direction spawned.pane (1 / 2)

theorem grows_loadPane (first : Bool) (answer : Option Spawned) (split : Option (Direction × ℚ)) :
    Grows rt.tabs (rt.loadPane first answer split).tabs
      (answer.map fun spawned => spawned.pane.val).toList := by
  unfold UiRuntime.loadPane
  split
  · exact Grows.refl _
  · rename_i spawned
    split
    · exact grows_newTab spawned.pane
    · exact grows_split _ spawned.pane _

theorem grows_foldl {I : Type} {added : List PaneId} {items : List I}
    {turn : UiRuntime → I → UiRuntime}
    (grows : ∀ rt : UiRuntime, ∀ item ∈ items, Grows rt.tabs (turn rt item).tabs added) :
    Grows rt.tabs (items.foldl turn rt).tabs added := by
  refine List.foldlRecOn (motive := fun (turned : UiRuntime) => Grows rt.tabs turned.tabs added)
    _ _ (Grows.refl _) ?_
  intro turned before item member
  exact (before.trans (grows turned item member)).mono fun paneId new => by simpa using new

theorem grows_loadLayout (layoutTabs : List LayoutTab) :
    Grows rt.tabs (rt.loadLayout layoutTabs).tabs (spawnedBy (.loadLayout layoutTabs)) := by
  rw [UiRuntime.loadLayout]
  apply grows_foldl
  rintro loaded ⟨layoutTab, index⟩ listed
  have tabListed : layoutTab ∈ layoutTabs := (List.mem_zipIdx' listed).2 ▸ List.getElem_mem _
  have filled : Grows loaded.tabs (loaded.loadPanes layoutTab).tabs
      (spawnedBy (.loadLayout layoutTabs)) := by
    rw [UiRuntime.loadPanes]
    apply grows_foldl
    rintro filling ⟨pane, place⟩ member
    have paneListed : pane ∈ layoutTab.panes := (List.mem_zipIdx' member).2 ▸ List.getElem_mem _
    refine (grows_loadPane _ _ _).mono fun paneId new => ?_
    rw [Option.mem_toList] at new
    exact List.mem_flatMap.mpr ⟨layoutTab, tabListed, List.mem_filterMap.mpr
      ⟨pane, paneListed, new⟩⟩
  have titled := @grows_updateTab (loaded.loadPanes layoutTab).tabs [] index
    (fun tab => { tab with
      title := if layoutTab.title.isEmpty then tab.title else layoutTab.title
      layout := layoutTab.layout }) fun _ _ held => .inl held
  exact (filled.trans titled).mono (by simp)

/-- An effect that does not remove loses no tab, and has its panes from the backend. -/
theorem grows_effect (sound : AllTrees Sound rt.tabs) {effect : UiEffect}
    (quiet : removes effect = false) :
    Grows rt.tabs (effect.apply rt).tabs (spawnedBy effect) := by
  have moves : ∀ op : TabOp, ¬ TabOp.AtFocus op → TabOp.added rt.tabs op = 0 →
      rt.tabs.tabs.length ≤ (op.apply rt.tabs).tabs.length → Grows rt.tabs (op.apply rt.tabs) [] :=
    fun op elsewhere none length => ⟨length, live_apply sound elsewhere none⟩
  have changes : ∀ (op : TabOp) (index : Nat) (update : Tab → Tab), ¬ TabOp.AtFocus op →
      TabOp.added rt.tabs op = 0 → op.apply rt.tabs = rt.tabs.updateTab index update →
        Grows rt.tabs (op.apply rt.tabs) [] := fun op index update elsewhere none same =>
    moves op elsewhere none (by rw [same, length_updateTab])
  have turns : ∀ index, Grows rt.tabs (rt.tabs.gotoTab index) [] := fun index =>
    moves (.gotoTab index) not_false rfl (length_gotoTab index).ge
  cases effect with
  | closeSurface | closeTab | joinMarkedPane direction => cases quiet
  | newSplit direction answer => exact grows_createSplit direction answer
  | focusLeaf position =>
      refine grows_updateTab _ fun tab pane held => .inl ?_
      dsimp only at held
      split at held <;> exact held
  | resize ratios => exact changes (.resize ratios) _ _ not_false rfl rfl
  | breakPane => exact moves .breakPane not_false rfl length_breakPane
  | newTab answer =>
      cases answer with
      | none => exact Grows.refl _
      | some spawned => exact grows_newTab spawned.pane
  | nextTab =>
      show Grows rt.tabs rt.tabs.nextTab []
      rw [TabManager.nextTab]
      split
      · exact Grows.refl _
      · exact turns _
  | prevTab =>
      show Grows rt.tabs rt.tabs.prevTab []
      rw [TabManager.prevTab]
      split
      · exact Grows.refl _
      · exact turns _
  | gotoTab index | focusTab index => exact turns index
  | gotoLastTab | previousTab => exact turns _
  | nextPane => exact changes .focusNext _ _ not_false rfl rfl
  | previousPane => exact changes .focusPrev _ _ not_false rfl rfl
  | swapPane next => exact changes (.swap next) _ _ not_false rfl rfl
  | rotatePanes forward => exact changes (.rotate forward) _ _ not_false rfl rfl
  | selectLayout layout => exact changes (.applyLayout layout) _ _ not_false rfl rfl
  | cycleLayout forward => exact changes (.cycleLayout forward) _ _ not_false rfl rfl
  | rebalanceLayout => exact changes .rebalance _ _ not_false rfl rfl
  | setTabTitle title =>
      show Grows rt.tabs (rt.updateTabs _).markActiveRemoteTabDirty.tabs []
      rw [tabs_markActiveRemoteTabDirty]
      exact grows_updateTab _ fun _ _ held => .inl held
  | loadLayout layoutTabs => exact grows_loadLayout layoutTabs
  | focusPane paneId => exact changes (.focusPane paneId) _ _ not_false rfl rfl
  | focusSurface index => exact changes (.focusSurface index) _ _ not_false rfl rfl
  | setTerminalFrame _ | markPane | clearMarkedPane | reloadConfig _ | write _ | present _ =>
      exact Grows.refl _

/-- No effect puts a pane into the tabs that was not there and did not come from the backend. -/
theorem live_effect (sound : AllTrees Sound rt.tabs) (effect : UiEffect) :
    ∀ paneId ∈ livePanes (effect.apply rt).tabs,
      paneId ∈ livePanes rt.tabs ∨ paneId ∈ spawnedBy effect := by
  cases quiet : removes effect with
  | false => exact (grows_effect sound quiet).panes
  | true =>
      cases effect with
      | closeSurface =>
          show ∀ paneId ∈ livePanes rt.handleSurfaceClosed.tabs, _ ∨ paneId ∈ []
          rw [tabs_handleSurfaceClosed]
          exact @live_apply rt.tabs sound .closeFocused not_false rfl
      | closeTab =>
          show ∀ paneId ∈ livePanes rt.closeActiveTab.tabs, _ ∨ paneId ∈ []
          rw [UiRuntime.closeActiveTab, tabs_updateTabs, tabs_freePanes]
          exact @live_apply rt.tabs sound (.removeTab rt.tabs.active) not_false rfl
      | joinMarkedPane direction =>
          intro paneId live
          left
          change paneId ∈ livePanes (rt.joinMarkedPane direction).tabs at live
          cases mark : rt.markedPaneId with
          | none =>
              rw [UiRuntime.joinMarkedPane, mark] at live
              exact live
          | some marked =>
              rw [tabs_joinMarkedPane rt marked direction mark] at live
              exact live_joinPane marked direction paneId live
      | _ => cases quiet

end Effects

section Active

open TabManager

variable {rt : UiRuntime}

theorem activeOk_loadPane (ok : ActiveOk rt.tabs) (first : Bool) (answer : Option Spawned)
    (split : Option (Direction × ℚ)) : ActiveOk (rt.loadPane first answer split).tabs := by
  unfold UiRuntime.loadPane
  split
  · exact ok
  · split
    · exact activeOk_newTab _ _
    · exact @ActiveOk.updateTab rt.tabs ok _ _

theorem activeOk_loadLayout (ok : ActiveOk rt.tabs) (layoutTabs : List LayoutTab) :
    ActiveOk (rt.loadLayout layoutTabs).tabs := by
  unfold UiRuntime.loadLayout
  refine List.foldlRecOn (motive := fun (rt : UiRuntime) => ActiveOk rt.tabs) _ _ ok ?_
  intro loaded okLoaded layoutTab _
  refine ActiveOk.updateTab ?_ _ _
  unfold UiRuntime.loadPanes
  refine List.foldlRecOn (motive := fun (rt : UiRuntime) => ActiveOk rt.tabs) _ _ okLoaded ?_
  exact fun panes okPanes pane _ => activeOk_loadPane okPanes _ _ _

theorem activeOk_effect (ok : ActiveOk rt.tabs) (effect : UiEffect) :
    ActiveOk (effect.apply rt).tabs := by
  cases effect with
  | newSplit direction answer =>
      show ActiveOk (rt.createSplit direction answer).tabs
      unfold UiRuntime.createSplit
      split
      · exact ok
      · cases answer with
        | none => exact ok
        | some spawned => exact @ActiveOk.updateTab rt.tabs ok _ _
  | closeSurface =>
      show ActiveOk rt.handleSurfaceClosed.tabs
      rw [tabs_handleSurfaceClosed]
      exact activeOk_closeFocused ok
  | breakPane => exact @activeOk_apply rt.tabs .breakPane ok
  | newTab answer =>
      cases answer with
      | none => exact ok
      | some spawned => exact activeOk_newTab rt.tabs spawned.pane
  | nextTab => exact @activeOk_apply rt.tabs .nextTab ok
  | prevTab => exact @activeOk_apply rt.tabs .prevTab ok
  | closeTab =>
      show ActiveOk rt.closeActiveTab.tabs
      rw [UiRuntime.closeActiveTab, tabs_updateTabs, tabs_freePanes]
      exact ok.removeTab _
  | gotoTab index | focusTab index => exact ok.gotoTab index
  | gotoLastTab | previousTab => exact ok.gotoTab _
  | joinMarkedPane direction =>
      show ActiveOk (rt.joinMarkedPane direction).tabs
      cases mark : rt.markedPaneId with
      | none =>
          rw [UiRuntime.joinMarkedPane, mark]
          exact ok
      | some marked =>
          rw [tabs_joinMarkedPane rt marked direction mark]
          exact @activeOk_apply rt.tabs (.joinPane marked direction) ok
  | setTabTitle title =>
      show ActiveOk (rt.updateTabs _).markActiveRemoteTabDirty.tabs
      rw [tabs_markActiveRemoteTabDirty]
      exact ok.updateTab _ _
  | loadLayout layoutTabs => exact activeOk_loadLayout ok layoutTabs
  | focusLeaf _ | resize _ | nextPane | previousPane | swapPane _ | rotatePanes _
  | selectLayout _ | cycleLayout _ | rebalanceLayout | focusPane _ | focusSurface _ =>
      exact ok.updateTab _ _
  | setTerminalFrame _ | markPane | clearMarkedPane | reloadConfig _ | write _ | present _ =>
      exact ok

theorem activeOk_applyAll (ok : ActiveOk rt.tabs) (effects : List UiEffect) :
    ActiveOk (UiEffect.applyAll rt effects).tabs :=
  List.foldlRecOn (motive := fun (rt : UiRuntime) => ActiveOk rt.tabs) _ _ ok
    fun _ ok effect _ => activeOk_effect ok effect

/-- Where no tab is active there is none. -/
theorem tabs_of_noActive {tabs : TabManager} (ok : ActiveOk tabs)
    (none : tabs.activeTabId = none) : tabs.tabs = [] := by
  by_contra present
  rw [TabManager.activeTabId, List.getElem?_eq_getElem (ok present)] at none
  cases none

end Active

section Terminals

open TabManager

variable {rt : UiRuntime} {paneId : PaneId}

theorem terminals_freePanes (panes : List LivePane) :
    (rt.freePanes panes).terminals paneId =
      if paneId ∈ panes.map Subtype.val then none else rt.terminals paneId := by
  unfold UiRuntime.freePanes
  induction panes generalizing rt with
  | nil => rfl
  | cons pane panes ih =>
      rw [List.foldl_cons, ih, List.map_cons, UiRuntime.freePane]
      dsimp only
      by_cases same : paneId = pane.val
      · subst same
        simp
      · simp [same]

theorem terminals_frees_none {after : UiRuntime} (frees : Frees rt after)
    (none : rt.terminals paneId = none) : after.terminals paneId = Option.none :=
  (frees.terminals paneId).elim (fun kept => kept.trans none) id

theorem terminals_register {spawned : Spawned} (fresh : paneId ≠ spawned.pane.val) :
    (rt.register spawned).terminals paneId = rt.terminals paneId :=
  Function.update_of_ne fresh _ _

theorem terminals_createSplit_none (direction : Direction) {answer : Option Spawned}
    (fresh : ∀ spawned ∈ answer, paneId ≠ spawned.pane.val) (none : rt.terminals paneId = none) :
    (rt.createSplit direction answer).terminals paneId = Option.none := by
  unfold UiRuntime.createSplit
  split
  · exact none
  · cases answer with
    | none => exact none
    | some spawned => exact (terminals_register (fresh spawned rfl)).trans none

theorem terminals_loadPane_none (first : Bool) {answer : Option Spawned}
    (split : Option (Direction × ℚ)) (fresh : ∀ spawned ∈ answer, paneId ≠ spawned.pane.val)
    (none : rt.terminals paneId = none) :
    (rt.loadPane first answer split).terminals paneId = Option.none := by
  unfold UiRuntime.loadPane
  split
  · exact none
  · rename_i spawned
    have kept := (@terminals_register rt paneId spawned (fresh spawned rfl)).trans none
    split <;> exact kept

theorem terminals_loadLayout_none {layoutTabs : List LayoutTab}
    (fresh : paneId ∉ spawnedBy (.loadLayout layoutTabs)) (none : rt.terminals paneId = none) :
    (rt.loadLayout layoutTabs).terminals paneId = Option.none := by
  rw [UiRuntime.loadLayout]
  refine List.foldlRecOn (motive := fun (rt : UiRuntime) => rt.terminals paneId = Option.none)
    _ _ none ?_
  rintro loaded absent ⟨layoutTab, index⟩ listed
  have tabListed : layoutTab ∈ layoutTabs := (List.mem_zipIdx' listed).2 ▸ List.getElem_mem _
  show (loaded.loadPanes layoutTab).terminals paneId = Option.none
  rw [UiRuntime.loadPanes]
  refine List.foldlRecOn (motive := fun (rt : UiRuntime) => rt.terminals paneId = Option.none)
    _ _ absent ?_
  rintro filling still ⟨pane, place⟩ member
  have paneListed : pane ∈ layoutTab.panes := (List.mem_zipIdx' member).2 ▸ List.getElem_mem _
  refine terminals_loadPane_none _ _ (fun spawned answered => ?_) still
  rintro rfl
  refine fresh (List.mem_flatMap.mpr ⟨layoutTab, tabListed, List.mem_filterMap.mpr
    ⟨pane, paneListed, ?_⟩⟩)
  rw [Option.mem_def.mp answered]
  rfl

/-- A pane that the backend does not have does not come back with another pane. -/
theorem terminals_effect_none (effect : UiEffect) (fresh : paneId ∉ spawnedBy effect)
    (none : rt.terminals paneId = none) : (effect.apply rt).terminals paneId = Option.none := by
  have others : ∀ answer : Option Spawned,
      paneId ∉ (answer.map fun spawned => spawned.pane.val).toList →
        ∀ spawned ∈ answer, paneId ≠ spawned.pane.val := by
    rintro answer absent spawned answered rfl
    rw [Option.mem_def.mp answered] at absent
    simp at absent
  cases effect with
  | newSplit direction answer =>
      exact terminals_createSplit_none direction (others answer fresh) none
  | closeSurface => exact terminals_frees_none frees_handleSurfaceClosed none
  | newTab answer =>
      cases answer with
      | none => exact none
      | some spawned =>
          exact (terminals_register (others (some spawned) fresh spawned rfl)).trans none
  | closeTab =>
      have freed := terminals_frees_none (frees_freePanes (rt.tabs.panesAt rt.tabs.active)) none
      exact freed
  | joinMarkedPane direction =>
      show (rt.joinMarkedPane direction).terminals paneId = _
      rw [UiRuntime.joinMarkedPane]
      repeat' split
      all_goals exact none
  | setTabTitle title =>
      show (rt.updateTabs _).markActiveRemoteTabDirty.terminals paneId = _
      rw [UiRuntime.markActiveRemoteTabDirty]
      split <;> exact none
  | loadLayout layoutTabs => exact terminals_loadLayout_none fresh none
  | _ => exact none

/-- A pane that is closed is freed. -/
theorem terminals_of_closes {effect : UiEffect}
    (joins : ∀ direction, effect ≠ .joinMarkedPane direction)
    (closed : paneId ∈ closes rt effect) : (effect.apply rt).terminals paneId = none := by
  have freed : ∀ panes : List LivePane, paneId ∈ panes.map Subtype.val →
      (rt.freePanes panes).terminals paneId = none := by
    intro panes member
    rw [terminals_freePanes, if_pos member]
  cases effect with
  | joinMarkedPane direction => exact absurd rfl (joins direction)
  | closeTab => exact freed _ closed
  | closeSurface =>
      show rt.handleSurfaceClosed.terminals paneId = none
      rw [closes, surfaceCloses] at closed
      rw [UiRuntime.handleSurfaceClosed]
      split
      · rename_i pane tree removal
        rw [removal] at closed
        exact freed [pane] closed
      · rename_i kept
        rw [kept] at closed
        exact freed _ closed
  | _ => cases closed

/-- The pane is in some tab, or else the backend does not have it. -/
def Accounted (rt : UiRuntime) (paneId : PaneId) : Prop :=
  paneId ∈ livePanes rt.tabs ∨ rt.terminals paneId = none

theorem accounted_effect (sound : AllTrees Sound rt.tabs) {effect : UiEffect}
    (joins : ∀ direction, effect ≠ .joinMarkedPane direction) (fresh : paneId ∉ spawnedBy effect)
    (accounted : Accounted rt paneId) : Accounted (effect.apply rt) paneId := by
  rcases accounted with live | none
  · by_cases closed : paneId ∈ closes rt effect
    · exact .inr (terminals_of_closes joins closed)
    · exact .inl ((spares_effect sound effect).live live closed)
  · exact .inr (terminals_effect_none effect fresh none)

theorem accounted_applyAll (sound : AllTrees Sound rt.tabs) {effects : List UiEffect}
    (joins : ∀ direction, .joinMarkedPane direction ∉ effects)
    (fresh : ∀ effect ∈ effects, paneId ∉ spawnedBy effect) (accounted : Accounted rt paneId) :
    Accounted (UiEffect.applyAll rt effects) paneId := by
  induction effects generalizing rt with
  | nil => exact accounted
  | cons effect effects ih =>
      have other : ∀ direction, effect ≠ .joinMarkedPane direction := fun direction same =>
        joins direction (same ▸ List.mem_cons_self)
      exact ih (spares_effect sound effect).sound
        (fun direction member => joins direction (List.mem_cons_of_mem _ member))
        (fun later member => fresh later (List.mem_cons_of_mem _ member))
        (accounted_effect sound other (fresh effect List.mem_cons_self) accounted)

end Terminals

section Emptying

open TabManager

variable {rt : UiRuntime} {paneId : PaneId}

/-- A join leaves a tab behind: there are two, or the only one has its focus on a leaf. -/
structure Roomy (tabs : TabManager) : Prop where
  sound : AllTrees Sound tabs
  room : 2 ≤ tabs.tabs.length ∨ (TabsOk tabs ∧ tabs.tabs ≠ [])

theorem Roomy.nonempty {tabs : TabManager} (roomy : Roomy tabs) : tabs.tabs ≠ [] := by
  rcases roomy.room with several | ⟨-, some_⟩
  · exact List.ne_nil_of_length_pos (by omega)
  · exact some_

theorem Roomy.effect (roomy : Roomy rt.tabs) {effect : UiEffect} (quiet : removes effect = false)
    (focus : ∀ index, effect ≠ .focusSurface index) : Roomy (effect.apply rt).tabs := by
  have grows := grows_effect roomy.sound quiet
  refine ⟨(spares_effect roomy.sound effect).sound, ?_⟩
  rcases roomy.room with several | ⟨ok, some_⟩
  · exact .inl (several.trans grows.length)
  · refine .inr ⟨UiEffect.tabsOk ok ?_, ?_⟩
    · cases effect with
      | focusSurface index => exact absurd rfl (focus index)
      | _ => trivial
    · exact List.ne_nil_of_length_pos ((List.length_pos_of_ne_nil some_).trans_le grows.length)

theorem Roomy.applyAll (roomy : Roomy rt.tabs) {effects : List UiEffect}
    (quiet : ∀ effect ∈ effects, removes effect = false)
    (focus : ∀ index, .focusSurface index ∉ effects) :
    Roomy (UiEffect.applyAll rt effects).tabs := by
  induction effects generalizing rt with
  | nil => exact roomy
  | cons effect effects ih =>
      have other : ∀ index, effect ≠ .focusSurface index := fun index same =>
        focus index (same ▸ List.mem_cons_self)
      exact ih (roomy.effect (quiet effect List.mem_cons_self) other)
        (fun later member => quiet later (List.mem_cons_of_mem _ member))
        (fun index member => focus index (List.mem_cons_of_mem _ member))

theorem length_removePaneById {tabs without : TabManager} {pane : LivePane}
    (removal : tabs.removePaneById paneId = some (pane, without)) :
    tabs.tabs.length ≤ without.tabs.length + 1 := by
  obtain ⟨index, tab, tree, -, -, rfl⟩ := removePaneById_spec removal
  have put : (tabs.putTree index tree).tabs.length = tabs.tabs.length := length_updateTab _ _
  split
  · rw [← put]
    exact length_removeTab index
  · split
    · rw [TabManager.updateTree, length_updateTab, put]
      exact Nat.le_succ _
    · rw [put]
      exact Nat.le_succ _

theorem Roomy.nonempty_joinPane {tabs : TabManager} (roomy : Roomy tabs) (marked : PaneId)
    (direction : Direction) : (joinPane tabs marked direction).tabs ≠ [] := by
  rw [joinPane]
  split
  · exact roomy.nonempty
  · rename_i elsewhere
    rw [not_or] at elsewhere
    split
    · exact roomy.nonempty
    · rename_i pane without removal
      have left : without.tabs ≠ [] := by
        rcases roomy.room with several | ⟨ok, -⟩
        · have short := length_removePaneById removal
          exact List.ne_nil_of_length_pos (by omega)
        · refine nonempty_removePaneById ⟨fun tab member => ?_, fun present => ?_⟩ removal
            elsewhere.2
          · exact ⟨roomy.sound tab member, ok.focus tab member⟩
          · have positive := List.length_pos_of_ne_nil present
            have inside := ok.active
            omega
      apply List.ne_nil_of_length_pos
      rw [TabManager.updateActiveTree, TabManager.updateTree, length_updateTab]
      exact List.length_pos_of_ne_nil left

theorem length_applyAll (sound : AllTrees Sound rt.tabs) {effects : List UiEffect}
    (quiet : ∀ effect ∈ effects, removes effect = false) :
    rt.tabs.tabs.length ≤ (UiEffect.applyAll rt effects).tabs.tabs.length := by
  induction effects generalizing rt with
  | nil => exact Nat.le_refl _
  | cons effect effects ih =>
      have first := grows_effect sound (quiet effect List.mem_cons_self)
      exact first.length.trans (ih (spares_effect sound effect).sound
        fun later member => quiet later (List.mem_cons_of_mem _ member))

/-- A key that joins leaves a tab. -/
theorem OneKey.nonempty_of_join {effects : List UiEffect} (oneKey : OneKey effects)
    (roomy : Roomy rt.tabs) {direction : Direction} (joins : .joinMarkedPane direction ∈ effects) :
    (UiEffect.applyAll rt effects).tabs.tabs ≠ [] := by
  obtain ⟨front, back, rfl⟩ := List.append_of_mem joins
  have once := oneKey.once
  rw [List.countP_append, List.countP_cons_of_pos rfl] at once
  have quietFront : ∀ effect ∈ front, removes effect = false := by
    have none : front.countP removes = 0 := by omega
    simpa using List.countP_eq_zero.mp none
  have quietBack : ∀ effect ∈ back, removes effect = false := by
    have none : back.countP removes = 0 := by omega
    simpa using List.countP_eq_zero.mp none
  have before : Roomy (UiEffect.applyAll rt front).tabs := roomy.applyAll quietFront
    fun index member => oneKey.focus index (List.mem_append_left _ member)
  generalize reached : UiEffect.applyAll rt front = joining at before
  have joined : ((UiEffect.joinMarkedPane direction).apply joining).tabs.tabs ≠ [] := by
    show (joining.joinMarkedPane direction).tabs.tabs ≠ []
    cases mark : joining.markedPaneId with
    | none =>
        rw [UiRuntime.joinMarkedPane, mark]
        exact before.nonempty
    | some marked =>
        rw [tabs_joinMarkedPane joining marked direction mark]
        exact before.nonempty_joinPane marked direction
  have split : UiEffect.applyAll rt (front ++ .joinMarkedPane direction :: back) =
      UiEffect.applyAll ((UiEffect.joinMarkedPane direction).apply joining) back := by
    rw [← reached, UiEffect.applyAll, List.foldl_append, List.foldl_cons, UiEffect.applyAll,
      UiEffect.applyAll]
  rw [split]
  exact List.ne_nil_of_length_pos ((List.length_pos_of_ne_nil joined).trans_le (length_applyAll
    (spares_effect before.sound (.joinMarkedPane direction)).sound quietBack))

/-- When a key has closed the last tab, the backend has none of the panes that the tabs held. -/
theorem OneKey.terminals_of_empty {effects : List UiEffect} (oneKey : OneKey effects)
    (roomy : Roomy rt.tabs) (live : paneId ∈ livePanes rt.tabs)
    (fresh : ∀ effect ∈ effects, paneId ∉ spawnedBy effect)
    (empty : (UiEffect.applyAll rt effects).tabs.tabs = []) :
    (UiEffect.applyAll rt effects).terminals paneId = none := by
  have joins : ∀ direction, .joinMarkedPane direction ∉ effects := fun direction member =>
    oneKey.nonempty_of_join roomy member empty
  rcases accounted_applyAll roomy.sound joins fresh (.inl live) with left | none
  · have gone : livePanes (UiEffect.applyAll rt effects).tabs = [] := by
      rw [livePanes, TabManager.allPanes, empty]
      rfl
    rw [gone] at left
    cases left
  · exact none

end Emptying

end Boo.Runtime.LastTab
