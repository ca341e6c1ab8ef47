/- module: Boo/Runtime/LayoutReload
   digest: Which tabs a saved layout gives back: the flat list of panes and the trees it determines. -/

import Boo.Runtime.LayoutText
import Boo.Runtime.Ui

set_option autoImplicit false
set_option relaxedAutoImplicit false

namespace Boo.Runtime.LayoutReload

open Boo.Lib.Entries
open Boo.Lib.TextLines
open Boo.Runtime.Splits
open Boo.Runtime.Tabs
open Boo.Runtime.LayoutText
open Boo.Runtime.Ui (Spawned UiRuntime)
open Boo.Server.Frames (PaneId)
open Boo.Wire.Message (smallScreen)

section Combs

/-- A split, and the pane that it adds. -/
abbrev Piece := (Direction × ℚ) × LivePane

/-- Each split has a leaf first and the rest of the tree second. -/
def comb (id : LeafId) (pane : LivePane) : List Piece → Node
  | [] => .leaf id pane
  | ((direction, ratio), next) :: pieces =>
      .split direction (clampRatio ratio) (.leaf id pane) (comb (id + 1) next pieces)

def graft (tree : SplitTree) (piece : Piece) : SplitTree :=
  tree.splitFocusedWithRatio piece.1.1 piece.2 piece.1.2

theorem splitNode_comb (id : LeafId) (pane : LivePane) (pieces : List Piece) (piece : Piece) :
    splitNodeWithRatio (id + pieces.length) piece.1.1 (id + pieces.length + 1) piece.2 piece.1.2
      (comb id pane pieces) = comb id pane (pieces ++ [piece]) := by
  induction pieces generalizing id pane with
  | nil => simp [comb, splitNodeWithRatio]
  | cons first pieces ih =>
      obtain ⟨⟨direction, ratio⟩, next⟩ := first
      have other : id ≠ id + (((direction, ratio), next) :: pieces).length := by simp
      have shift : id + (((direction, ratio), next) :: pieces).length = id + 1 + pieces.length := by
        rw [List.length_cons, Nat.add_comm pieces.length 1, Nat.add_assoc]
      rw [comb, splitNodeWithRatio, splitNodeWithRatio, if_neg other, shift, ih, List.cons_append,
        comb]

/-- Splitting the newest leaf again and again makes a comb. -/
theorem foldl_graft (pane : LivePane) (pieces : List Piece) :
    pieces.foldl graft (SplitTree.new.addRoot pane) =
      ⟨some (comb 0 pane pieces), pieces.length + 1, pieces.length⟩ := by
  induction pieces using List.reverseRecOn with
  | nil => rfl
  | append_singleton pieces piece ih =>
      have split := splitNode_comb 0 pane pieces piece
      rw [Nat.zero_add] at split
      rw [List.foldl_append, ih, List.foldl_cons, List.foldl_nil, graft,
        SplitTree.splitFocusedWithRatio]
      simp only [split, List.length_append, List.length_singleton]

theorem collectPanes_comb (id : LeafId) (pane : LivePane) (pieces : List Piece) :
    collectPanes (comb id pane pieces) = pane :: pieces.map Prod.snd := by
  induction pieces generalizing id pane with
  | nil => rfl
  | cons piece pieces ih => rw [comb, collectPanes, ih, collectPanes]; rfl

end Combs

section Shapes

/-- The format writes both ratios alike. -/
def RatioAlike (ratio other : ℚ) : Prop := ratioText ratio = ratioText other

instance (ratio other : ℚ) : Decidable (RatioAlike ratio other) :=
  inferInstanceAs (Decidable (_ = _))

/-- Two trees of one shape, with the same directions and, up to the rounding of the format, the
same ratios. -/
def SameTree : Node → Node → Prop
  | .leaf _ _, .leaf _ _ => True
  | .split direction ratio first second, .split direction' ratio' first' second' =>
      direction = direction' ∧ RatioAlike ratio ratio' ∧ SameTree first first' ∧
        SameTree second second'
  | _, _ => False

/-- The splits of a comb, from the root down; `none` for any other tree. -/
def spine : Node → Option (List (Direction × ℚ))
  | .leaf _ _ => some []
  | .split direction ratio (.leaf _ _) second =>
      (spine second).map ((direction, ratio) :: ·)
  | .split _ _ (.split _ _ _ _) _ => none

/-- A split of a tree and the one that the file gives for it. -/
def Loads (split given : Direction × ℚ) : Prop :=
  split.1 = given.1 ∧ RatioAlike split.2 (clampRatio given.2)

theorem sameTree_comb_iff (node : Node) (id : LeafId) (pane : LivePane) (pieces : List Piece) :
    SameTree node (comb id pane pieces) ↔
      ∃ splits, spine node = some splits ∧
        List.Forall₂ Loads splits (pieces.map Prod.fst) := by
  induction node generalizing id pane pieces with
  | leaf leafId old =>
      cases pieces with
      | nil => simp [comb, SameTree, spine]
      | cons piece pieces => simp [comb, SameTree, spine]
  | split direction ratio first second _ ih =>
      cases pieces with
      | nil =>
          cases first <;> simp [comb, SameTree, spine]
      | cons piece pieces =>
          obtain ⟨⟨given, ratio'⟩, next⟩ := piece
          cases first with
          | split => simp [comb, SameTree, spine]
          | leaf leafId old =>
              simp only [comb, SameTree, spine, ih, List.map_cons, Option.map_eq_some_iff]
              constructor
              · rintro ⟨same, alike, -, splits, held, loads⟩
                exact ⟨_, ⟨splits, held, rfl⟩, .cons ⟨same, alike⟩ loads⟩
              · rintro ⟨_, ⟨splits, held, rfl⟩, loads⟩
                cases loads with
                | cons here later => exact ⟨here.1, here.2, trivial, splits, held, later⟩

end Shapes

section Shifts

variable {α : Type}

/-- Every element gives way to the next one, and the last one stays. -/
def shift : List α → List α
  | [] => []
  | [last] => [last]
  | _ :: next :: rest => next :: shift (next :: rest)

theorem length_shift (xs : List α) : (shift xs).length = xs.length := by
  induction xs using shift.induct with
  | case1 => rfl
  | case2 last => rfl
  | case3 first next rest ih => rw [shift, List.length_cons, ih]; rfl

/-- A comb is exported with the splits of its spine, the last of them twice. -/
theorem export_spine {node : Node} {splits : List (Direction × ℚ)} (held : spine node = some splits)
    (parentSplit : Option (Direction × ℚ)) :
    (exportNode parentSplit node).map ExportedPane.split =
      splits.head?.or parentSplit :: (shift splits).map some := by
  induction node generalizing parentSplit splits with
  | leaf id pane =>
      cases held
      rfl
  | split direction ratio first second _ ih =>
      cases first with
      | split => cases held
      | leaf id pane =>
          obtain ⟨later, spineLater, rfl⟩ := Option.map_eq_some_iff.mp held
          rw [exportNode, List.map_append, ih spineLater, exportNode]
          cases later <;> rfl

end Shifts

section Manual

/-- The ratio reads back as one that is written alike. -/
def Survives (ratio : ℚ) : Prop := RatioAlike ratio (clampRatio (readRatio ratio))

theorem readRatio_alike {ratio other : ℚ} (alike : RatioAlike ratio other) :
    readRatio ratio = readRatio other := by
  rw [readRatio, readRatio, show ratioText ratio = ratioText other from alike]

theorem clampRatio_bounds (ratio : ℚ) : 1 / 10 ≤ clampRatio ratio ∧ clampRatio ratio ≤ 9 / 10 := by
  rw [clampRatio]
  split_ifs <;> constructor <;> linarith

theorem clampRatio_of_bounds {ratio : ℚ} (low : 1 / 10 ≤ ratio) (high : ratio ≤ 9 / 10) :
    clampRatio ratio = ratio := by
  rw [clampRatio, if_neg (not_lt.mpr low), if_neg (not_lt.mpr high)]

/-- A ratio survives if the percentage that it is written with is between 10 and 90. -/
theorem survives_iff (ratio : ℚ) : Survives ratio ↔ 19 / 200 ≤ ratio ∧ ratio ≤ 181 / 200 := by
  obtain ⟨low, high⟩ := readRatio_bounds ratio
  constructor
  · intro survives
    obtain ⟨low', high'⟩ := readRatio_bounds (clampRatio (readRatio ratio))
    obtain ⟨least, most⟩ := clampRatio_bounds (readRatio ratio)
    have same := readRatio_alike survives
    rw [← low, ← high, same, low', high']
    constructor <;> linarith
  · rintro ⟨least, most⟩
    rw [Survives, clampRatio_of_bounds (low.mpr least) (high.mpr most), RatioAlike,
      ratioText_readRatio (by linarith)]

/-- All splits have one direction and are written with one ratio, between 10% and 90%. -/
def Uniformly (splits : List (Direction × ℚ)) : Prop :=
  (∀ split ∈ splits, ∀ other ∈ splits, split.1 = other.1 ∧ RatioAlike split.2 other.2) ∧
    ∀ split ∈ splits, 19 / 200 ≤ split.2 ∧ split.2 ≤ 181 / 200

theorem uniformly_iff (splits : List (Direction × ℚ)) :
    Uniformly splits ↔
      (∀ split ∈ splits, ∀ other ∈ splits, split.1 = other.1 ∧ RatioAlike split.2 other.2) ∧
        ∀ split ∈ splits, Survives split.2 := by
  simp only [Uniformly, survives_iff]

/-- What a split of the flat list reads back as. -/
def readBack (split : Direction × ℚ) : Direction × ℚ := (split.1, readRatio split.2)

/-- Each split is loaded from the next one, so that all have to agree. -/
theorem loads_shift_iff (splits : List (Direction × ℚ)) :
    List.Forall₂ Loads splits ((shift splits).map readBack) ↔ Uniformly splits := by
  rw [uniformly_iff]
  induction splits using shift.induct with
  | case1 => simp [shift]
  | case2 last => simp [shift, Loads, readBack, Survives, RatioAlike]
  | case3 first next rest ih =>
      rw [shift, List.map_cons, List.forall₂_cons, ih]
      constructor
      · rintro ⟨⟨direction, alike⟩, agree, survive⟩
        have nextSurvives := survive next List.mem_cons_self
        have firstNext : RatioAlike first.2 next.2 := alike.trans nextSurvives.symm
        refine ⟨fun split member other member' => ?_, fun split member => ?_⟩
        · have toNext : ∀ split ∈ first :: next :: rest,
              split.1 = next.1 ∧ RatioAlike split.2 next.2 := by
            intro split member
            rcases List.mem_cons.mp member with rfl | later
            · exact ⟨direction, firstNext⟩
            · exact agree split later next List.mem_cons_self
          obtain ⟨same, near⟩ := toNext split member
          obtain ⟨same', near'⟩ := toNext other member'
          exact ⟨same.trans same'.symm, near.trans near'.symm⟩
        · rcases List.mem_cons.mp member with rfl | later
          · rw [Survives, readRatio_alike firstNext]
            exact alike
          · exact survive split later
      · rintro ⟨agree, survive⟩
        obtain ⟨same, alike⟩ := agree first List.mem_cons_self next (by simp)
        refine ⟨⟨same, alike.trans (survive next (by simp))⟩, ?_, ?_⟩
        · exact fun split member other member' =>
            agree split (List.mem_cons_of_mem _ member) other (List.mem_cons_of_mem _ member')
        · exact fun split member => survive split (List.mem_cons_of_mem _ member)

end Manual

section Loading

def directionOf : SplitDir → Direction
  | .right => .horizontal
  | .down => .vertical

/-- A parsed tab with the panes that the backend spawns for it. -/
def answered (spawn : Nat → Spawned) (tab : LayoutTab) : Ui.LayoutTab where
  title := String.ofList tab.title
  layout := tab.layout
  panes := tab.panes.zipIdx.map fun (pane, index) =>
    (some (spawn index), pane.split.map fun spec => (directionOf spec.direction, spec.ratio))

/-- `load_layout` of a parsed file, where every pane can be spawned. -/
def replay (rt : UiRuntime) (spawn : Nat → Nat → Spawned) (layout : Layout) : UiRuntime :=
  rt.loadLayout (layout.tabs.zipIdx.map fun (tab, index) => answered (spawn index) tab)

/-- The splits that the panes after the first are loaded with. -/
def givenSplits (layout : TabLayout) (own : List (Option (Direction × ℚ))) :
    List (Direction × ℚ) :=
  if layout = .manual then own.map (·.getD (.vertical, 1 / 2))
  else layoutSplits layout (own.length + 1)

theorem length_layoutSplits (layout : TabLayout) (count : Nat) :
    (layoutSplits layout count).length = count - 1 := by
  rw [layoutSplits, List.length_map, List.length_range]

theorem length_givenSplits (layout : TabLayout) (own : List (Option (Direction × ℚ))) :
    (givenSplits layout own).length = own.length := by
  rw [givenSplits]
  split
  · rw [List.length_map]
  · rw [length_layoutSplits, Nat.add_sub_cancel]

theorem updateActiveTree_comp (tabs : TabManager) (first second : SplitTree → SplitTree) :
    (tabs.updateActiveTree first).updateActiveTree second =
      tabs.updateActiveTree (second ∘ first) := by
  simp only [TabManager.updateActiveTree, TabManager.updateTree, TabManager.updateTab,
    List.modify_modify_eq]
  rfl

theorem updateActiveTree_id (tabs : TabManager) : tabs.updateActiveTree id = tabs := by
  have same : (fun tab : Tab => { tab with tree := id tab.tree }) = id := rfl
  rw [TabManager.updateActiveTree, TabManager.updateTree, TabManager.updateTab, same,
    List.modify_id]

theorem loadPane_later (rt : UiRuntime) (spawned : Spawned) (split : Option (Direction × ℚ)) :
    (rt.loadPane false (some spawned) split).tabs =
      rt.tabs.updateActiveTree fun tree =>
        graft tree (split.getD (.vertical, 1 / 2), spawned.pane) := by
  rw [UiRuntime.loadPane]
  rfl

/-- Loading the panes after the first grafts them onto the active tree, one after the other. -/
theorem loadPanes_later (rt : UiRuntime) (others : List (Spawned × Option (Direction × ℚ)))
    (choose : Option (Direction × ℚ) → Nat → Option (Direction × ℚ)) (offset : Nat) :
    (((others.map fun pane => (some pane.1, pane.2)).zipIdx (offset + 1)).foldl
        (fun (rt : UiRuntime) (pane, index) =>
          rt.loadPane (index = 0) pane.1 (choose pane.2 index)) rt).tabs =
      rt.tabs.updateActiveTree fun tree =>
        (((others.zipIdx (offset + 1)).map fun (pane, index) =>
          (choose pane.2 index).getD (.vertical, 1 / 2)).zip
            (others.map fun pane => pane.1.pane)).foldl graft tree := by
  induction others generalizing rt offset with
  | nil => exact (updateActiveTree_id rt.tabs).symm
  | cons pane others ih =>
      have later : decide (offset + 1 = 0) = false := by simp
      rw [List.map_cons, List.zipIdx_cons, List.foldl_cons]
      dsimp only
      rw [later, ih, loadPane_later, updateActiveTree_comp]
      rfl

theorem chosen_manual (others : List (Spawned × Option (Direction × ℚ))) (offset : Nat) :
    (others.zipIdx offset).map (fun (pane, _) => pane.2.getD (.vertical, 1 / 2)) =
      givenSplits .manual (others.map Prod.snd) := by
  rw [givenSplits, if_pos rfl, List.map_map]
  induction others generalizing offset with
  | nil => rfl
  | cons pane others ih => rw [List.zipIdx_cons, List.map_cons, ih]; rfl

theorem chosen_named (others : List (Spawned × Option (Direction × ℚ)))
    {given : List (Direction × ℚ)} (long : given.length = others.length) :
    (others.zipIdx 1).map (fun (_, index) => (given[index - 1]?).getD (.vertical, 1 / 2)) =
      given := by
  apply List.ext_getElem
  · rw [List.length_map, List.length_zipIdx, long]
  · intro i inside inside'
    rw [List.getElem_map, List.getElem_zipIdx]
    simp [inside']

/-- One tab with a first pane and others: a new tab, whose tree is a comb. -/
theorem loadPanes_tabs (rt : UiRuntime) (title : String) (layout : TabLayout)
    (first : Spawned × Option (Direction × ℚ))
    (others : List (Spawned × Option (Direction × ℚ))) :
    (rt.loadPanes ⟨title, layout, (first :: others).map fun pane => (some pane.1, pane.2)⟩).tabs =
      (rt.tabs.newTab first.1.pane).updateActiveTree fun tree =>
        ((givenSplits layout (others.map Prod.snd)).zip
          (others.map fun pane => pane.1.pane)).foldl graft tree := by
  rw [UiRuntime.loadPanes]
  dsimp only
  generalize chosen : (if layout = .manual then [] else layoutSplits layout _) = autoSplits
  rw [List.map_cons, List.zipIdx_cons, List.foldl_cons]
  dsimp only
  have rest := loadPanes_later (rt.newTab first.1) others
    (fun own index => if autoSplits.isEmpty then own else autoSplits[index - 1]?) 0
  have opened : rt.loadPane (decide (0 = 0)) (some first.1)
      (if autoSplits.isEmpty then first.2 else autoSplits[0 - 1]?) = rt.newTab first.1 := rfl
  have given : (others.zipIdx 1).map (fun (pane, index) =>
      ((if autoSplits.isEmpty then pane.2 else autoSplits[index - 1]? :
        Option (Direction × ℚ))).getD (.vertical, 1 / 2)) =
          givenSplits layout (others.map Prod.snd) := by
    by_cases manual : layout = .manual
    · rw [← chosen, if_pos manual, manual, ← chosen_manual others 1]
      rfl
    · have long : autoSplits.length = others.length := by
        rw [← chosen, if_neg manual, length_layoutSplits, List.length_map, List.length_cons,
          Nat.add_sub_cancel]
      have same : autoSplits = givenSplits layout (others.map Prod.snd) := by
        rw [givenSplits, if_neg manual, ← chosen, if_neg manual]
        simp
      rw [← same]
      refine Eq.trans ?_ (chosen_named others long)
      cases others with
      | nil => rfl
      | cons pane others =>
          have some_ : autoSplits.isEmpty = false := by
            rw [List.isEmpty_eq_false_iff, ← List.length_pos_iff, long]
            simp
          simp only [some_]
          rfl
  rw [opened, ← given]
  exact rest

/-- The first pane of a tab and the others, all spawned. -/
def Supplied (layoutTab : Ui.LayoutTab) (first : Spawned × Option (Direction × ℚ))
    (others : List (Spawned × Option (Direction × ℚ))) : Prop :=
  layoutTab.panes = (first :: others).map fun pane => (some pane.1, pane.2)

/-- A tab that `load_layout` made: its title, and the comb of its panes. -/
def LoadedAs (layoutTab : Ui.LayoutTab) (tab : Tab) : Prop :=
  tab.title = layoutTab.title ∧ ∃ first others, Supplied layoutTab first others ∧
    tab.tree.root = some (comb 0 first.1.pane
      ((givenSplits layoutTab.layout (others.map Prod.snd)).zip
        (others.map fun pane => pane.1.pane)))

theorem loadTab_step (rt : UiRuntime) {layoutTab : Ui.LayoutTab}
    {first : Spawned × Option (Direction × ℚ)} {others : List (Spawned × Option (Direction × ℚ))}
    (supplied : Supplied layoutTab first others) :
    ∃ tab, ((rt.loadPanes layoutTab).updateTabs (·.updateTab rt.tabs.tabs.length fun tab =>
        { tab with
          title := if layoutTab.title.isEmpty then tab.title else layoutTab.title
          layout := layoutTab.layout })).tabs.tabs = rt.tabs.tabs ++ [tab] ∧
      LoadedAs layoutTab tab := by
  obtain ⟨title, layout, panes⟩ := layoutTab
  have shape : panes = _ := supplied
  rw [shape, UiRuntime.updateTabs, loadPanes_tabs]
  simp only [TabManager.updateTab, TabManager.updateActiveTree, TabManager.updateTree,
    TabManager.newTab, modify_last]
  refine ⟨_, rfl, ?_, first, others, rfl, ?_⟩
  · by_cases empty : title.isEmpty
    · rw [if_pos empty, String.isEmpty_iff.mp empty]
      rfl
    · rw [if_neg empty]
  · rw [TabManager.freshTab, foldl_graft]

theorem loadLayout_loadedAs (rt : UiRuntime) {layoutTabs : List Ui.LayoutTab}
    (supplied : ∀ layoutTab ∈ layoutTabs, ∃ first others, Supplied layoutTab first others) :
    ∃ loaded, ((layoutTabs.zipIdx rt.tabs.tabs.length).foldl
        (fun (rt : UiRuntime) (layoutTab, index) =>
          (rt.loadPanes layoutTab).updateTabs (·.updateTab index fun tab => { tab with
            title := if layoutTab.title.isEmpty then tab.title else layoutTab.title
            layout := layoutTab.layout })) rt).tabs.tabs = rt.tabs.tabs ++ loaded ∧
      List.Forall₂ LoadedAs layoutTabs loaded := by
  induction layoutTabs generalizing rt with
  | nil => exact ⟨[], (List.append_nil _).symm, .nil⟩
  | cons layoutTab layoutTabs ih =>
      obtain ⟨first, others, whole⟩ := supplied layoutTab List.mem_cons_self
      obtain ⟨tab, tabs, loadedAs⟩ := loadTab_step rt whole
      rw [List.zipIdx_cons, List.foldl_cons]
      dsimp only
      generalize (rt.loadPanes layoutTab).updateTabs _ = next at tabs ⊢
      have count : rt.tabs.tabs.length + 1 = next.tabs.tabs.length := by
        rw [tabs, List.length_append, List.length_singleton]
      obtain ⟨loaded, rest, loadedRest⟩ := ih next
        fun other member => supplied other (List.mem_cons_of_mem _ member)
      rw [count]
      refine ⟨tab :: loaded, ?_, .cons loadedAs loadedRest⟩
      rw [rest, tabs, List.append_assoc, List.singleton_append]

end Loading

section Reloading

/-- A saved tab and a loaded one: the same title, and trees of one shape whose leaves come in the
order in which their panes were spawned. -/
def TabAlike (spawn : Nat → Spawned) (old new : Tab) : Prop :=
  new.title = old.title ∧ ∃ root root', old.tree.root = some root ∧ new.tree.root = some root' ∧
    SameTree root root' ∧
      collectPanes root' = (List.range (countLeaves root)).map fun index => (spawn index).pane

/-- As many tabs, and one by one alike. -/
def Reloads (spawn : Nat → Nat → Spawned) (old new : List Tab) : Prop :=
  new.length = old.length ∧ ∀ (index : Nat) tab tab', old[index]? = some tab →
    new[index]? = some tab' → TabAlike (spawn index) tab tab'

/-- Which tabs come back: the title has no blanks around it, the tree is a comb, and either all
its splits agree, or it is the comb of the named layout that the tab is marked with. -/
def Reloadable (tab : Tab) : Prop :=
  trim tab.title.toList = tab.title.toList ∧
    ∃ root splits, tab.tree.root = some root ∧ spine root = some splits ∧
      (tab.layout = .manual → Uniformly splits) ∧
      (tab.layout ≠ .manual →
        List.Forall₂ Loads splits (layoutSplits tab.layout (splits.length + 1)))

/-- The split of a parsed pane, for the runtime. -/
def ownSplit (pane : LayoutPane) : Option (Direction × ℚ) :=
  pane.split.map fun spec => (directionOf spec.direction, spec.ratio)

theorem supplied_answered (spawn : Nat → Spawned) {tab : LayoutTab} (nonempty : tab.panes ≠ []) :
    ∃ first others, Supplied (answered spawn tab) first others ∧
      (first :: others).map Prod.fst = (List.range tab.panes.length).map spawn ∧
        others.map Prod.snd = tab.panes.tail.map ownSplit := by
  obtain ⟨pane, panes, shape⟩ := List.exists_cons_of_ne_nil nonempty
  refine ⟨(spawn 0, ownSplit pane),
    (panes.zipIdx 1).map fun (pane, index) => (spawn index, ownSplit pane), ?_, ?_, ?_⟩
  · rw [Supplied, answered]
    simp [shape, ownSplit]
  · have later : ((panes.zipIdx 1).map fun (pane, index) => (spawn index, ownSplit pane)).map
        Prod.fst = ((panes.zipIdx 1).map Prod.snd).map spawn := by
      rw [List.map_map, List.map_map]
      rfl
    rw [List.map_cons, later, List.zipIdx_map_snd, shape, List.length_cons,
      List.range_eq_range', List.range'_succ, List.map_cons]
  · have own : ((panes.zipIdx 1).map fun (pane, index) => (spawn index, ownSplit pane)).map
        Prod.snd = ((panes.zipIdx 1).map Prod.fst).map ownSplit := by
      rw [List.map_map, List.map_map]
      rfl
    rw [own, List.zipIdx_map_fst, shape, List.tail_cons]

theorem supplied_unique {layoutTab : Ui.LayoutTab}
    {first first' : Spawned × Option (Direction × ℚ)}
    {others others' : List (Spawned × Option (Direction × ℚ))}
    (supplied : Supplied layoutTab first others) (supplied' : Supplied layoutTab first' others') :
    first = first' ∧ others = others' := by
  have injective : Function.Injective fun pane : Spawned × Option (Direction × ℚ) =>
      (some pane.1, pane.2) := by
    intro pane pane' same
    cases pane
    cases pane'
    simpa using same
  exact List.cons.inj (List.map_injective_iff.mpr injective (supplied.symm.trans supplied'))

theorem length_exportNode (parentSplit : Option (Direction × ℚ)) (node : Node) :
    (exportNode parentSplit node).length = countLeaves node := by
  induction node generalizing parentSplit with
  | leaf id pane => rfl
  | split direction ratio first second ihFirst ihSecond =>
      rw [exportNode, List.length_append, ihFirst, ihSecond, countLeaves]

theorem ownSplit_readPane (panes : List LayoutPane) (offset : Nat) :
    ((panes.zipIdx (offset + 1)).map fun (pane, index) => readPane pane index).map ownSplit =
      panes.map fun pane => ownSplit { pane with split := some (readSplit pane.split) } := by
  induction panes generalizing offset with
  | nil => rfl
  | cons pane panes ih =>
      rw [List.zipIdx_cons, List.map_cons, List.map_cons, ih, List.map_cons]
      simp [readPane, ownSplit]

/-- A saved tree comes back as its flat list of splits, the first one left out. -/
theorem panes_reloaded (tab : Tab) {root : Node} (rooted : tab.tree.root = some root)
    {first : Option (Direction × ℚ)} {later : List (Option (Direction × ℚ))}
    (exported : (exportNode none root).map ExportedPane.split = first :: later) :
    (reloadedTab (savedTab tab)).panes.length = countLeaves root ∧
      (reloadedTab (savedTab tab)).panes.tail.map ownSplit =
        later.map fun split => some ((split.map readBack).getD (.vertical, 1 / 2)) := by
  have count : countLeaves root = later.length + 1 := by
    rw [← length_exportNode none root, ← List.length_map, exported, List.length_cons]
  have panes : (savedTab tab).panes = (first :: later).map fun split =>
      (⟨none, none, split.map fun entry => ⟨splitDirOf entry.1, entry.2⟩⟩ :
        LayoutPane) := by
    rw [← exported, List.map_map, savedTab, savedPanes, SplitTree.exportPanes, rooted]
    rfl
  have nonempty : (savedTab tab).panes ≠ [] := by rw [panes]; simp
  rw [reloadedTab, if_neg nonempty, readTab, panes]
  constructor
  · simp [count]
  · rw [List.map_cons, List.zipIdx_cons, List.map_cons, List.tail_cons, ownSplit_readPane,
      List.map_map]
    refine List.map_congr_left fun split _ => ?_
    cases split with
    | none => rfl
    | some split =>
        obtain ⟨direction, ratio⟩ := split
        cases direction <;> rfl

theorem title_savedTab {tab : Tab} (idle : tab.runningCommand = none) :
    (savedTab tab).title = tab.title.toList := by
  rw [savedTab, idle]
  simp [TabManager.displayTitle, TabManager.baseTitle, idle]

theorem title_reloadedTab (tab : LayoutTab) :
    (reloadedTab tab).title = trim tab.title ∧ (reloadedTab tab).layout = tab.layout := by
  rw [reloadedTab]
  split <;> exact ⟨rfl, rfl⟩

/-- The splits that a comb is loaded with: those of its named layout, or its own one further on. -/
theorem givenSplits_iff {root : Node} {splits : List (Direction × ℚ)}
    (held : spine root = some splits) {first : Option (Direction × ℚ)}
    {later : List (Option (Direction × ℚ))}
    (exported : (exportNode none root).map ExportedPane.split = first :: later)
    (layout : TabLayout) :
    List.Forall₂ Loads splits (givenSplits layout
        (later.map fun split => some ((split.map readBack).getD (.vertical, 1 / 2)))) ↔
      (layout = .manual → Uniformly splits) ∧
        (layout ≠ .manual →
          List.Forall₂ Loads splits (layoutSplits layout (splits.length + 1))) := by
  rw [export_spine held none] at exported
  have shifted : later = (shift splits).map some := (List.cons.inj exported).2.symm
  rw [givenSplits]
  by_cases manual : layout = .manual
  · have given : (later.map fun split => some ((split.map readBack).getD (.vertical, 1 / 2))).map
        (fun own => own.getD (.vertical, 1 / 2)) = (shift splits).map readBack := by
      rw [shifted, List.map_map, List.map_map]
      rfl
    rw [if_pos manual, given, loads_shift_iff]
    simp [manual]
  · rw [if_neg manual, List.length_map, shifted, List.length_map, length_shift]
    simp [manual]

/-- A tab that was saved and loaded is the one that it was exactly if it is reloadable. -/
theorem tabAlike_iff (spawn : Nat → Spawned) {tab new : Tab} (idle : tab.runningCommand = none)
    (loadedAs : LoadedAs (answered spawn (reloadedTab (savedTab tab))) new) :
    TabAlike spawn tab new ↔ Reloadable tab := by
  obtain ⟨title, first, others, supplied, loaded⟩ := loadedAs
  refine and_congr ?_ ?_
  · rw [title]
    dsimp only [answered]
    rw [(title_reloadedTab _).1, title_savedTab idle]
    constructor
    · intro same
      have lists := congrArg String.toList same
      rwa [String.toList_ofList] at lists
    · intro same
      rw [same, String.ofList_toList]
  cases rooted : tab.tree.root with
  | none => simp
  | some root =>
      obtain ⟨head, later, exported⟩ : ∃ head later,
          (exportNode none root).map ExportedPane.split = head :: later := by
        refine List.exists_cons_of_ne_nil (List.ne_nil_of_length_pos ?_)
        rw [List.length_map, length_exportNode]
        exact countLeaves_pos root
      obtain ⟨count, own⟩ := panes_reloaded tab rooted exported
      have nonempty : (reloadedTab (savedTab tab)).panes ≠ [] := by
        refine List.ne_nil_of_length_pos ?_
        rw [count]
        exact countLeaves_pos root
      obtain ⟨first', others', supplied', spawned, given⟩ := supplied_answered spawn nonempty
      obtain ⟨rfl, rfl⟩ := supplied_unique supplied supplied'
      have layout : (answered spawn (reloadedTab (savedTab tab))).layout = tab.layout :=
        (title_reloadedTab _).2
      have leaves : collectPanes (comb 0 first.1.pane
          ((givenSplits tab.layout (others.map Prod.snd)).zip
            (others.map fun pane => pane.1.pane))) =
          (List.range (countLeaves root)).map fun index => (spawn index).pane := by
        have all := congrArg (List.map Spawned.pane) spawned
        rw [count, List.map_map, List.map_map] at all
        rw [collectPanes_comb, List.map_snd_zip (by simp [length_givenSplits])]
        exact all
      have pieces : ((givenSplits tab.layout (others.map Prod.snd)).zip
          (others.map fun pane => pane.1.pane)).map Prod.fst =
            givenSplits tab.layout (others.map Prod.snd) :=
        List.map_fst_zip (by simp [length_givenSplits])
      have shape := sameTree_comb_iff root 0 first.1.pane
        ((givenSplits tab.layout (others.map Prod.snd)).zip (others.map fun pane => pane.1.pane))
      rw [layout] at loaded
      rw [pieces, given, own] at shape
      rw [given, own] at leaves loaded
      constructor
      · rintro ⟨old, root', isRoot, isRoot', same, -⟩
        obtain rfl := Option.some.inj isRoot
        obtain rfl := Option.some.inj (loaded.symm.trans isRoot')
        obtain ⟨splits, held, loads⟩ := shape.mp same
        obtain ⟨manual, named⟩ := (givenSplits_iff held exported tab.layout).mp loads
        exact ⟨_, splits, rfl, held, manual, named⟩
      · rintro ⟨old, splits, isRoot, held, manual, named⟩
        obtain rfl := Option.some.inj isRoot
        have loads := (givenSplits_iff held exported tab.layout).mpr ⟨manual, named⟩
        exact ⟨_, _, rfl, loaded, shape.mpr ⟨splits, held, loads⟩, leaves⟩

theorem plain_savedTab {tab : Tab} (idle : tab.runningCommand = none)
    (unbroken : '\n' ∉ tab.title.toList) : (savedTab tab).Plain := by
  refine ⟨by rwa [title_savedTab idle], fun pane member => ?_⟩
  obtain ⟨exported, -, rfl⟩ := List.mem_map.mp member
  exact ⟨rfl, rfl⟩

theorem reloadedTab_nonempty (tab : LayoutTab) : (reloadedTab tab).panes ≠ [] := by
  rw [reloadedTab]
  split
  · exact List.cons_ne_nil _ _
  · rename_i some_
    simpa [readTab] using some_

/-- A tab list that is saved and loaded comes back tab by tab. -/
theorem replayed_alike (home : Option Text) (fileName : Text) (spawn : Nat → Nat → Spawned)
    {rt : UiRuntime} (empty : rt.tabs.tabs = []) {tabs : TabManager} {name : Text}
    (nameUnbroken : '\n' ∉ name) (idle : ∀ tab ∈ tabs.tabs, tab.runningCommand = none)
    (unbroken : ∀ tab ∈ tabs.tabs, '\n' ∉ tab.title.toList) :
    ∃ loaded, (replay rt spawn
        (parseLayout home fileName (saveCurrentLayout tabs name))).tabs.tabs = loaded ∧
      loaded.length = tabs.tabs.length ∧ ∀ (index : Nat) tab new, tabs.tabs[index]? = some tab →
        loaded[index]? = some new → (TabAlike (spawn index) tab new ↔ Reloadable tab) := by
  have plain : ∀ tab ∈ tabs.tabs.map savedTab, tab.Plain := by
    intro saved member
    obtain ⟨tab, held, rfl⟩ := List.mem_map.mp member
    exact plain_savedTab (idle tab held) (unbroken tab held)
  rw [saveCurrentLayout, parseLayout_layoutFile home fileName nameUnbroken plain, replay,
    UiRuntime.loadLayout]
  dsimp only
  generalize isSaved : ((tabs.tabs.map savedTab).map reloadedTab).zipIdx.map
    (fun (tab, index) => answered (spawn index) tab) = layoutTabs
  have saved : ∀ index : Nat, layoutTabs[index]? = tabs.tabs[index]?.map fun tab =>
      answered (spawn index) (reloadedTab (savedTab tab)) := by
    intro index
    rw [← isSaved, List.getElem?_map, List.getElem?_zipIdx, List.getElem?_map, List.getElem?_map]
    cases tabs.tabs[index]? <;> simp
  have supplied : ∀ layoutTab ∈ layoutTabs, ∃ first others, Supplied layoutTab first others := by
    intro layoutTab member
    obtain ⟨index, held⟩ := List.mem_iff_getElem?.mp member
    rw [saved, Option.map_eq_some_iff] at held
    obtain ⟨tab, -, rfl⟩ := held
    obtain ⟨first, others, whole, -⟩ := supplied_answered (spawn index)
      (reloadedTab_nonempty (savedTab tab))
    exact ⟨first, others, whole⟩
  obtain ⟨loaded, isLoaded, loadedAs⟩ := loadLayout_loadedAs rt supplied
  rw [empty, List.length_nil, List.nil_append] at isLoaded
  refine ⟨loaded, isLoaded, ?_, fun index tab new isTab isNew => ?_⟩
  · rw [← loadedAs.length_eq, ← isSaved]
    simp
  · have isSavedTab := saved index
    rw [isTab, Option.map_some] at isSavedTab
    obtain ⟨inside, here⟩ := List.getElem?_eq_some_iff.mp isSavedTab
    obtain ⟨inside', here'⟩ := List.getElem?_eq_some_iff.mp isNew
    refine tabAlike_iff (spawn index) (idle tab (List.mem_of_getElem? isTab)) ?_
    rw [← here, ← here']
    exact loadedAs.get inside inside'

/-- The worker that is spawned for a pane of a tab, with a blank screen. -/
def shellPane (tab index : Nat) : Spawned where
  pane :=
    let id := UInt64.ofNat (tab * 10 + index + 1)
    if live : id ≠ 0 then ⟨id, live⟩ else ⟨1, live_one⟩
  version := 0
  state := smallScreen 0 0 0 0
  pwd := ""

def emptyRuntime : UiRuntime where
  tabs := TabManager.new
  markedPaneId := none
  terminals := fun _ => none
  written := []
  terminalFrame := ⟨0, 0, 80, 24⟩
  presentation := 0
  appearance := ⟨⟨240, 240, 240⟩, ⟨0, 0, 0⟩, ⟨255, 255, 255⟩⟩
  dirtyRemoteTabs := []
  cachedRemoteTabs := none

/-- A tab with three panes, each of which was split from the one before. -/
def splitTwice (first second : Direction) : TabManager :=
  ((TabManager.new.newTab ⟨1, live_one⟩).updateActiveTree
    (·.splitFocusedWithRatio first ⟨2, live_two⟩ (1 / 2))).updateActiveTree
      (·.splitFocusedWithRatio second ⟨3, live_three⟩ (1 / 2))

theorem splitTwice_tab (first second : Direction) : ∀ tab ∈ (splitTwice first second).tabs,
    tab.runningCommand = none ∧ '\n' ∉ tab.title.toList := by
  intro tab member
  rw [List.mem_singleton.mp member]
  exact ⟨rfl, show '\n' ∉ "".toList by decide⟩

/-- Three rows in a tab with a title, and a second tab. -/
def titledRows : TabManager :=
  ((splitTwice .vertical .vertical).setActiveTitle "main logs").newTab ⟨4, live_four⟩

end Reloading

end Boo.Runtime.LayoutReload
