/- module: Boo/Runtime/Splits
   digest: The split tree of one tab (splits.rs) and the invariant that its focus is a leaf. -/

import Boo.Server.Frames
import Mathlib.Data.Rat.Init

set_option autoImplicit false
set_option relaxedAutoImplicit false

namespace Boo.Runtime.Splits

open Boo.Server.Frames

abbrev LeafId := Nat

/-- A pane that a backend created; the null handle has id 0. -/
abbrev LivePane := { pane : PaneId // pane ≠ 0 }

theorem live_one : (1 : PaneId) ≠ 0 := by decide

theorem live_two : (2 : PaneId) ≠ 0 := by decide

theorem live_three : (3 : PaneId) ≠ 0 := by decide

theorem live_four : (4 : PaneId) ≠ 0 := by decide

inductive Direction
  | horizontal | vertical
  deriving DecidableEq, Repr

/-- Ratios are rational numbers where the source has floating point. -/
inductive Node
  | leaf (id : LeafId) (pane : LivePane)
  | split (direction : Direction) (ratio : ℚ) (first second : Node)
  deriving DecidableEq

structure Rect where
  x : ℚ
  y : ℚ
  width : ℚ
  height : ℚ
  deriving DecidableEq

structure SplitTree where
  root : Option Node
  nextId : LeafId
  focusedId : LeafId
  deriving DecidableEq

def clampRatio (ratio : ℚ) : ℚ :=
  if ratio < 1 / 10 then 1 / 10 else if 9 / 10 < ratio then 9 / 10 else ratio

def splitNodeWithRatio (target : LeafId) (direction : Direction) (newId : LeafId)
    (pane : LivePane) (ratio : ℚ) : Node → Node
  | .leaf id old =>
      if id = target then
        .split direction (clampRatio ratio) (.leaf id old) (.leaf newId pane)
      else .leaf id old
  | .split existingDirection existingRatio first second =>
      .split existingDirection existingRatio
        (splitNodeWithRatio target direction newId pane ratio first)
        (splitNodeWithRatio target direction newId pane ratio second)

def findLeaf (id : LeafId) : Node → Option LivePane
  | .leaf leafId pane => if leafId = id then some pane else none
  | .split _ _ first second => (findLeaf id first).or (findLeaf id second)

def findLeafIdByPane (paneId : PaneId) : Node → Option LeafId
  | .leaf id pane => if pane.val = paneId then some id else none
  | .split _ _ first second =>
      (findLeafIdByPane paneId first).or (findLeafIdByPane paneId second)

def collectLeafIds : Node → List LeafId
  | .leaf id _ => [id]
  | .split _ _ first second => collectLeafIds first ++ collectLeafIds second

def collectPanes : Node → List LivePane
  | .leaf _ pane => [pane]
  | .split _ _ first second => collectPanes first ++ collectPanes second

def countLeaves : Node → Nat
  | .leaf _ _ => 1
  | .split _ _ first second => countLeaves first + countLeaves second

/-- `none` where `set_leaf_pane` answers false. -/
def setLeafPane (target : LeafId) (newPane : LivePane) : Node → Option Node
  | .leaf id _ => if id = target then some (.leaf id newPane) else none
  | .split direction ratio first second =>
      match setLeafPane target newPane first with
      | some first => some (.split direction ratio first second)
      | none => (setLeafPane target newPane second).map (.split direction ratio first)

def assignLeafPanes (leafIds : List LeafId) (panes : List LivePane) : Node → Node
  | .leaf id pane =>
      match leafIds.findIdx? (· = id) with
      | some index => .leaf id (panes[index]?.getD pane)
      | none => .leaf id pane
  | .split direction ratio first second =>
      .split direction ratio (assignLeafPanes leafIds panes first)
        (assignLeafPanes leafIds panes second)

def rebalanceNode : Node → Node
  | .leaf id pane => .leaf id pane
  | .split direction _ first second =>
      .split direction (1 / 2) (rebalanceNode first) (rebalanceNode second)

/-- Every change of ratios by a resize; `ratios` is what the pointer or cell arithmetic gives
the split reached by a path from the root. -/
def retuneNode (ratios : List Bool → Option ℚ) : Node → Node
  | .leaf id pane => .leaf id pane
  | .split direction ratio first second =>
      .split direction ((ratios []).getD ratio)
        (retuneNode (fun path => ratios (false :: path)) first)
        (retuneNode (fun path => ratios (true :: path)) second)

/-- `none` is `RemoveResult::NotFound`. -/
def removeLeaf (target : LeafId) : Node → Option (LivePane × Option Node)
  | .leaf id pane => if id = target then some (pane, none) else none
  | .split direction ratio first second =>
      match removeLeaf target first with
      | some (pane, some remaining) => some (pane, some (.split direction ratio remaining second))
      | some (pane, none) => some (pane, some second)
      | none =>
          match removeLeaf target second with
          | some (pane, some remaining) =>
              some (pane, some (.split direction ratio first remaining))
          | some (pane, none) => some (pane, some first)
          | none => none

def splitBorder : ℚ := 1

def splitFrame (frame : Rect) (direction : Direction) (ratio : ℚ) : Rect × Rect :=
  match direction with
  | .horizontal =>
      let usable := frame.width - splitBorder
      let w1 := usable * ratio
      let w2 := usable - w1
      ({ frame with width := w1 }, { frame with
        x := frame.x + w1 + splitBorder
        width := w2 })
  | .vertical =>
      let usable := frame.height - splitBorder
      let h1 := usable * ratio
      let h2 := usable - h1
      ({ frame with height := h1 }, { frame with
        y := frame.y + h1 + splitBorder
        height := h2 })

structure ExportedPane where
  leafId : LeafId
  pane : LivePane
  frame : Option Rect
  split : Option (Direction × ℚ)
  deriving DecidableEq

def exportNode (parentSplit : Option (Direction × ℚ)) : Node → List ExportedPane
  | .leaf id pane => [⟨id, pane, none, parentSplit⟩]
  | .split direction ratio first second =>
      exportNode (some (direction, ratio)) first ++ exportNode (some (direction, ratio)) second

def exportNodeWithFrame (frame : Rect) (parentSplit : Option (Direction × ℚ)) :
    Node → List ExportedPane
  | .leaf id pane => [⟨id, pane, some frame, parentSplit⟩]
  | .split direction ratio first second =>
      exportNodeWithFrame (splitFrame frame direction ratio).1 (some (direction, ratio)) first ++
        exportNodeWithFrame (splitFrame frame direction ratio).2 (some (direction, ratio)) second

namespace SplitTree

def new : SplitTree where
  root := none
  nextId := 0
  focusedId := 0

def addRoot (tree : SplitTree) (pane : LivePane) : SplitTree where
  root := some (.leaf tree.nextId pane)
  nextId := tree.nextId + 1
  focusedId := tree.nextId

/-- The id counter advances even where there is no root to split. -/
def splitFocusedWithRatio (tree : SplitTree) (direction : Direction) (pane : LivePane)
    (ratio : ℚ) : SplitTree :=
  match tree.root with
  | none => { tree with nextId := tree.nextId + 1 }
  | some root =>
      { root := some (splitNodeWithRatio tree.focusedId direction tree.nextId pane ratio root)
        nextId := tree.nextId + 1
        focusedId := tree.nextId }

def splitFocused (tree : SplitTree) (direction : Direction) (pane : LivePane) : SplitTree :=
  tree.splitFocusedWithRatio direction pane (1 / 2)

/-- The id of the focused pane, 0 for the null handle. -/
def focusedPane (tree : SplitTree) : PaneId :=
  ((tree.root.bind (findLeaf tree.focusedId)).map Subtype.val).getD 0

def setFocus (tree : SplitTree) (id : LeafId) : SplitTree := { tree with focusedId := id }

/-- `none` where `set_focus_to_pane` answers false. -/
def setFocusToPane (tree : SplitTree) (paneId : PaneId) : Option SplitTree :=
  (tree.root.bind (findLeafIdByPane paneId)).map tree.setFocus

def leafIds (tree : SplitTree) : List LeafId := (tree.root.map collectLeafIds).getD []

/-- The body shared by `focus_next` and `focus_prev`; `offset` is 1 or the leaf count less 1. -/
def focusOffset (tree : SplitTree) (offset : Nat → Nat) : SplitTree :=
  match tree.leafIds.findIdx? (· = tree.focusedId) with
  | none => tree
  | some position =>
      tree.setFocus ((tree.leafIds[(position + offset tree.leafIds.length) %
        tree.leafIds.length]?).getD tree.focusedId)

def focusNext (tree : SplitTree) : SplitTree := tree.focusOffset fun _ => 1

def focusPrev (tree : SplitTree) : SplitTree := tree.focusOffset fun count => count - 1

def exportPanes (tree : SplitTree) : List ExportedPane :=
  (tree.root.map (exportNode none)).getD []

def exportPanesWithFrames (tree : SplitTree) (frame : Rect) : List ExportedPane :=
  (tree.root.map (exportNodeWithFrame frame none)).getD []

def allPanes (tree : SplitTree) : List LivePane := (tree.root.map collectPanes).getD []

def len (tree : SplitTree) : Nat := (tree.root.map countLeaves).getD 0

/-- After a removal the first remaining leaf has the focus. -/
def keepRemaining (tree : SplitTree) (remaining : Option Node) : SplitTree where
  root := remaining
  nextId := tree.nextId
  focusedId := ((remaining.map collectLeafIds).getD []).head?.getD tree.focusedId

def removeLeafId (tree : SplitTree) (target : LeafId) : Option (LivePane × SplitTree) :=
  match tree.root.bind (removeLeaf target) with
  | some (pane, remaining) => some (pane, tree.keepRemaining remaining)
  | none => none

def removeFocused (tree : SplitTree) : Option (LivePane × SplitTree) :=
  tree.removeLeafId tree.focusedId

def removePane (tree : SplitTree) (paneId : PaneId) : Option (LivePane × SplitTree) :=
  (tree.root.bind (findLeafIdByPane paneId)).bind tree.removeLeafId

/-- `none` where a leaf is missing; the ids come from the tree, so none ever is. -/
def swapLeafPanes (root : Node) (a b : LeafId) : Option Node :=
  match findLeaf a root, findLeaf b root with
  | some first, some second => (setLeafPane a second root).bind (setLeafPane b first)
  | _, _ => none

/-- `none` where `swap_focused_with_adjacent` answers false. -/
def swapFocusedWithAdjacent (tree : SplitTree) (next : Bool) : Option SplitTree :=
  match tree.root, tree.leafIds.findIdx? (· = tree.focusedId) with
  | some root, some position =>
      let count := tree.leafIds.length
      if count < 2 then none
      else
        let otherPosition := if next then (position + 1) % count else (position + count - 1) % count
        match tree.leafIds[otherPosition]? with
        | none => none
        | some otherId =>
            (swapLeafPanes root tree.focusedId otherId).map fun root => { tree with
              root := some root }
  | _, _ => none

def rotated (forward : Bool) (panes : List LivePane) : List LivePane :=
  if forward then panes.getLast?.toList ++ panes.dropLast else panes.tail ++ panes.head?.toList

/-- `none` where `rotate_panes` answers false. -/
def rotatePanes (tree : SplitTree) (forward : Bool) : Option SplitTree :=
  match tree.root with
  | none => none
  | some root =>
      if tree.leafIds.length < 2 then none
      else
        let panes := tree.leafIds.filterMap fun id => findLeaf id root
        if panes.length ≠ tree.leafIds.length then none
        else some { tree with
          root := some (assignLeafPanes tree.leafIds (rotated forward panes) root) }

/-- The loop of `rebuild_from_panes`: leaf `newId - 1` is split for every further pane. -/
def rebuildNode (splits : List (Direction × ℚ)) (root : Node) (newId : LeafId) :
    List LivePane → Node
  | [] => root
  | pane :: panes =>
      let (direction, ratio) := splits.head?.getD (.vertical, 1 / 2)
      rebuildNode splits.tail (splitNodeWithRatio (newId - 1) direction newId pane ratio root)
        (newId + 1) panes

def rebuildFromPanes (tree : SplitTree) (panes : List LivePane) (splits : List (Direction × ℚ))
    (focusedPaneId : PaneId) : SplitTree × Bool :=
  match panes with
  | [] => ({ tree with root := none }, false)
  | pane :: rest =>
      let rebuilt : SplitTree := {
        root := some (rebuildNode splits (.leaf 0 pane) 1 rest)
        nextId := panes.length
        focusedId := tree.focusedId }
      let focused := (rebuilt.setFocusToPane focusedPaneId).getD rebuilt
      (if focused.focusedPane = focusedPaneId then focused else focused.setFocus 0, true)

def rebalance (tree : SplitTree) : SplitTree :=
  { tree with root := tree.root.map rebalanceNode }

def retune (tree : SplitTree) (ratios : List Bool → Option ℚ) : SplitTree :=
  { tree with root := tree.root.map (retuneNode ratios) }

end SplitTree

section Leaves

theorem findLeaf_isSome (id : LeafId) (node : Node) :
    (findLeaf id node).isSome ↔ id ∈ collectLeafIds node := by
  induction node with
  | leaf leafId pane =>
      unfold findLeaf collectLeafIds
      split
      · rename_i same
        simp [same]
      · rename_i different
        simp [Ne.symm different]
  | split direction ratio first second ihFirst ihSecond =>
      rw [findLeaf, collectLeafIds, Option.isSome_or, Bool.or_eq_true, ihFirst, ihSecond,
        List.mem_append]

theorem findLeaf_mem {id : LeafId} {node : Node} {pane : LivePane}
    (found : findLeaf id node = some pane) : pane ∈ collectPanes node := by
  induction node with
  | leaf leafId old =>
      rw [findLeaf] at found
      split at found
      · rw [collectPanes, List.mem_singleton]
        exact (Option.some.inj found).symm
      · cases found
  | split direction ratio first second ihFirst ihSecond =>
      rw [findLeaf, Option.or_eq_some_iff] at found
      rw [collectPanes, List.mem_append]
      rcases found with found | ⟨-, found⟩
      · exact .inl (ihFirst found)
      · exact .inr (ihSecond found)

theorem findLeafIdByPane_mem {paneId : PaneId} {node : Node} {id : LeafId}
    (found : findLeafIdByPane paneId node = some id) : id ∈ collectLeafIds node := by
  induction node with
  | leaf leafId pane =>
      rw [findLeafIdByPane] at found
      split at found
      · rw [collectLeafIds, List.mem_singleton]
        exact (Option.some.inj found).symm
      · cases found
  | split direction ratio first second ihFirst ihSecond =>
      rw [findLeafIdByPane, Option.or_eq_some_iff] at found
      rw [collectLeafIds, List.mem_append]
      rcases found with found | ⟨-, found⟩
      · exact .inl (ihFirst found)
      · exact .inr (ihSecond found)

theorem collectLeafIds_ne_nil (node : Node) : collectLeafIds node ≠ [] := by
  induction node with
  | leaf id pane => exact List.cons_ne_nil id []
  | split direction ratio first second ihFirst _ =>
      rw [collectLeafIds]
      exact List.append_ne_nil_of_left_ne_nil ihFirst _

theorem countLeaves_pos (node : Node) : 0 < countLeaves node := by
  induction node with
  | leaf id pane => exact Nat.one_pos
  | split direction ratio first second ihFirst _ => exact Nat.add_pos_left ihFirst _

theorem mem_splitNode_new {target newId : LeafId} {direction : Direction} {pane : LivePane}
    {ratio : ℚ} {node : Node} (member : target ∈ collectLeafIds node) :
    newId ∈ collectLeafIds (splitNodeWithRatio target direction newId pane ratio node) := by
  induction node with
  | leaf id old =>
      rw [collectLeafIds, List.mem_singleton] at member
      rw [splitNodeWithRatio, if_pos member.symm]
      simp [collectLeafIds]
  | split existing existingRatio first second ihFirst ihSecond =>
      rw [collectLeafIds, List.mem_append] at member
      rw [splitNodeWithRatio, collectLeafIds, List.mem_append]
      exact member.imp ihFirst ihSecond

theorem mem_splitNode_old {target newId other : LeafId} {direction : Direction}
    {pane : LivePane} {ratio : ℚ} {node : Node} (member : other ∈ collectLeafIds node) :
    other ∈ collectLeafIds (splitNodeWithRatio target direction newId pane ratio node) := by
  induction node with
  | leaf id old =>
      rw [splitNodeWithRatio]
      split
      · rw [collectLeafIds, List.mem_append]
        exact .inl member
      · exact member
  | split existing existingRatio first second ihFirst ihSecond =>
      rw [collectLeafIds, List.mem_append] at member
      rw [splitNodeWithRatio, collectLeafIds, List.mem_append]
      exact member.imp ihFirst ihSecond

theorem mem_splitNode_pane {target newId : LeafId} {direction : Direction}
    {pane other : LivePane} {ratio : ℚ} {node : Node} (member : other ∈ collectPanes node) :
    other ∈ collectPanes (splitNodeWithRatio target direction newId pane ratio node) := by
  induction node with
  | leaf id old =>
      rw [splitNodeWithRatio]
      split
      · rw [collectPanes, List.mem_append]
        exact .inl member
      · exact member
  | split existing existingRatio first second ihFirst ihSecond =>
      rw [collectPanes, List.mem_append] at member
      rw [splitNodeWithRatio, collectPanes, List.mem_append]
      exact member.imp ihFirst ihSecond

theorem leafIds_setLeafPane {target : LeafId} {pane : LivePane} {node changed : Node}
    (set : setLeafPane target pane node = some changed) :
    collectLeafIds changed = collectLeafIds node := by
  induction node generalizing changed with
  | leaf id old =>
      rw [setLeafPane] at set
      split at set
      · cases set
        rfl
      · cases set
  | split direction ratio first second ihFirst ihSecond =>
      rw [setLeafPane] at set
      split at set
      · rename_i firstChanged setFirst
        cases set
        rw [collectLeafIds, collectLeafIds, ihFirst setFirst]
      · rw [Option.map_eq_some_iff] at set
        obtain ⟨secondChanged, setSecond, rfl⟩ := set
        rw [collectLeafIds, collectLeafIds, ihSecond setSecond]

theorem leafIds_assignLeafPanes (leafIds : List LeafId) (panes : List LivePane) (node : Node) :
    collectLeafIds (assignLeafPanes leafIds panes node) = collectLeafIds node := by
  induction node with
  | leaf id pane =>
      rw [assignLeafPanes]
      split <;> rfl
  | split direction ratio first second ihFirst ihSecond =>
      rw [assignLeafPanes, collectLeafIds, collectLeafIds, ihFirst, ihSecond]

theorem leafIds_rebalanceNode (node : Node) :
    collectLeafIds (rebalanceNode node) = collectLeafIds node := by
  induction node with
  | leaf id pane => rfl
  | split direction ratio first second ihFirst ihSecond =>
      rw [rebalanceNode, collectLeafIds, collectLeafIds, ihFirst, ihSecond]

theorem leafIds_retuneNode (ratios : List Bool → Option ℚ) (node : Node) :
    collectLeafIds (retuneNode ratios node) = collectLeafIds node := by
  induction node generalizing ratios with
  | leaf id pane => rfl
  | split direction ratio first second ihFirst ihSecond =>
      rw [retuneNode, collectLeafIds, collectLeafIds, ihFirst, ihSecond]

theorem map_pane_exportNode (parentSplit : Option (Direction × ℚ)) (node : Node) :
    (exportNode parentSplit node).map ExportedPane.pane = collectPanes node := by
  induction node generalizing parentSplit with
  | leaf id pane => rfl
  | split direction ratio first second ihFirst ihSecond =>
      rw [exportNode, List.map_append, ihFirst, ihSecond, collectPanes]

theorem map_leafId_exportNode (parentSplit : Option (Direction × ℚ)) (node : Node) :
    (exportNode parentSplit node).map ExportedPane.leafId = collectLeafIds node := by
  induction node generalizing parentSplit with
  | leaf id pane => rfl
  | split direction ratio first second ihFirst ihSecond =>
      rw [exportNode, List.map_append, ihFirst, ihSecond, collectLeafIds]

end Leaves

namespace SplitTree

/-- The focus names a leaf; `set_focus` is the one operation that does not see to it. -/
def FocusOk (tree : SplitTree) : Prop := tree.focusedId ∈ tree.leafIds

instance (tree : SplitTree) : Decidable tree.FocusOk :=
  inferInstanceAs (Decidable (_ ∈ _))

theorem FocusOk.root {tree : SplitTree} (ok : tree.FocusOk) :
    ∃ root, tree.root = some root ∧ tree.focusedId ∈ collectLeafIds root := by
  unfold FocusOk leafIds at ok
  cases held : tree.root with
  | none => simp [held] at ok
  | some root => exact ⟨root, rfl, by simpa [held] using ok⟩

theorem focusOk_of_root {tree : SplitTree} {root : Node} (held : tree.root = some root)
    (member : tree.focusedId ∈ collectLeafIds root) : tree.FocusOk := by
  unfold FocusOk leafIds
  simpa [held] using member

theorem mem_paneIds {tree : SplitTree} {root : Node} (held : tree.root = some root) :
    tree.allPanes = collectPanes root := by
  simp [allPanes, held]

theorem FocusOk.focusedPane_mem {tree : SplitTree} (ok : tree.FocusOk) :
    tree.focusedPane ∈ tree.allPanes.map Subtype.val := by
  obtain ⟨root, held, member⟩ := ok.root
  obtain ⟨pane, found⟩ := Option.isSome_iff_exists.mp ((findLeaf_isSome _ _).mpr member)
  rw [focusedPane, mem_paneIds held, held, Option.bind_some, found]
  exact List.mem_map_of_mem (findLeaf_mem found)

/-- Only a focus that names no leaf shows as pane 0. -/
theorem focusedPane_mem_of_ne_zero {tree : SplitTree} (live : tree.focusedPane ≠ 0) :
    tree.focusedPane ∈ tree.allPanes.map Subtype.val := by
  unfold focusedPane at live ⊢
  cases found : tree.root.bind (findLeaf tree.focusedId) with
  | none =>
      rw [found] at live
      exact absurd rfl live
  | some pane =>
      obtain ⟨root, held, leaf⟩ := Option.bind_eq_some_iff.mp found
      rw [mem_paneIds held]
      exact List.mem_map_of_mem (findLeaf_mem leaf)

theorem focusOk_addRoot (tree : SplitTree) (pane : LivePane) : (tree.addRoot pane).FocusOk :=
  focusOk_of_root rfl (List.mem_singleton_self _)

theorem FocusOk.splitFocusedWithRatio {tree : SplitTree} (ok : tree.FocusOk)
    (direction : Direction) (pane : LivePane) (ratio : ℚ) :
    (tree.splitFocusedWithRatio direction pane ratio).FocusOk := by
  obtain ⟨root, held, member⟩ := ok.root
  rw [SplitTree.splitFocusedWithRatio, held]
  exact focusOk_of_root rfl (mem_splitNode_new member)

theorem focusOk_setFocusToPane {tree focused : SplitTree} {paneId : PaneId}
    (set : tree.setFocusToPane paneId = some focused) : focused.FocusOk := by
  rw [setFocusToPane, Option.map_eq_some_iff] at set
  obtain ⟨id, found, rfl⟩ := set
  rw [Option.bind_eq_some_iff] at found
  obtain ⟨root, held, found⟩ := found
  exact focusOk_of_root held (findLeafIdByPane_mem found)

theorem FocusOk.focusOffset {tree : SplitTree} (ok : tree.FocusOk) (offset : Nat → Nat) :
    (tree.focusOffset offset).FocusOk := by
  unfold SplitTree.focusOffset
  split
  · exact ok
  · show _ ∈ tree.leafIds
    have positive : 0 < tree.leafIds.length := List.length_pos_of_mem ok
    have bound := Nat.mod_lt (‹Nat› + offset tree.leafIds.length) positive
    simp only [setFocus, List.getElem?_eq_getElem bound, Option.getD_some]
    exact List.getElem_mem bound

theorem focusOk_keepRemaining (tree : SplitTree) (remaining : Node) :
    (tree.keepRemaining (some remaining)).FocusOk := by
  refine focusOk_of_root rfl ?_
  obtain ⟨id, rest, shape⟩ := List.exists_cons_of_ne_nil (collectLeafIds_ne_nil remaining)
  simp [keepRemaining, shape]

theorem focusOk_removeLeafId {tree removed : SplitTree} {target : LeafId} {pane : LivePane}
    (found : tree.removeLeafId target = some (pane, removed)) (nonempty : removed.len ≠ 0) :
    removed.FocusOk := by
  unfold removeLeafId at found
  split at found
  · rename_i remaining _
    cases found
    cases remaining with
    | none => exact absurd rfl nonempty
    | some remaining => exact focusOk_keepRemaining tree remaining
  · cases found

theorem focusOk_removePane {tree removed : SplitTree} {paneId : PaneId} {pane : LivePane}
    (found : tree.removePane paneId = some (pane, removed)) (nonempty : removed.len ≠ 0) :
    removed.FocusOk := by
  rw [removePane, Option.bind_eq_some_iff] at found
  obtain ⟨target, -, found⟩ := found
  exact focusOk_removeLeafId found nonempty

theorem FocusOk.swapFocusedWithAdjacent {tree swapped : SplitTree} (ok : tree.FocusOk)
    {next : Bool} (swap : tree.swapFocusedWithAdjacent next = some swapped) :
    swapped.FocusOk := by
  obtain ⟨root, held, member⟩ := ok.root
  unfold SplitTree.swapFocusedWithAdjacent at swap
  rw [held] at swap
  split at swap
  · rename_i position sameRoot _
    cases sameRoot
    dsimp only at swap
    split at swap
    · cases swap
    · split at swap
      · cases swap
      · rw [Option.map_eq_some_iff] at swap
        obtain ⟨changed, swapLeaves, rfl⟩ := swap
        refine focusOk_of_root rfl ?_
        unfold swapLeafPanes at swapLeaves
        split at swapLeaves
        · rw [Option.bind_eq_some_iff] at swapLeaves
          obtain ⟨once, setOnce, setTwice⟩ := swapLeaves
          rw [leafIds_setLeafPane setTwice, leafIds_setLeafPane setOnce]
          exact member
        · cases swapLeaves
  · cases swap

theorem FocusOk.rotatePanes {tree rotated : SplitTree} (ok : tree.FocusOk) {forward : Bool}
    (rotate : tree.rotatePanes forward = some rotated) : rotated.FocusOk := by
  obtain ⟨root, held, member⟩ := ok.root
  unfold SplitTree.rotatePanes at rotate
  rw [held] at rotate
  dsimp only at rotate
  split at rotate
  · cases rotate
  · split at rotate
    · cases rotate
    · cases rotate
      refine focusOk_of_root rfl ?_
      rw [leafIds_assignLeafPanes]
      exact member

private theorem mem_rebuildNode_leaf {id : LeafId} (panes : List LivePane)
    (splits : List (Direction × ℚ)) (root : Node) (newId : LeafId)
    (member : id ∈ collectLeafIds root) :
    id ∈ collectLeafIds (rebuildNode splits root newId panes) := by
  induction panes generalizing splits root newId with
  | nil => exact member
  | cons pane panes ih => exact ih _ _ _ (mem_splitNode_old member)

theorem focusOk_rebuildFromPanes (tree : SplitTree) {panes : List LivePane}
    (nonempty : panes ≠ []) (splits : List (Direction × ℚ)) {paneId : PaneId}
    (live : paneId ≠ 0) : (tree.rebuildFromPanes panes splits paneId).1.FocusOk := by
  obtain ⟨pane, rest, rfl⟩ := List.exists_cons_of_ne_nil nonempty
  unfold rebuildFromPanes
  dsimp only
  split
  · rename_i same
    -- a focus on a live pane finds a leaf
    generalize (Option.getD _ _ : SplitTree) = focused at same
    rw [← same, focusedPane] at live
    cases held : focused.root with
    | none => simp [held] at live
    | some root =>
        refine focusOk_of_root held ((findLeaf_isSome _ _).mp ?_)
        cases found : findLeaf focused.focusedId root with
        | none => simp [held, found] at live
        | some pane => rfl
  · refine @focusOk_of_root _ (rebuildNode splits (.leaf 0 pane) 1 rest) ?_
      (mem_rebuildNode_leaf rest splits _ 1 (List.mem_singleton_self 0))
    simp only [setFocus, setFocusToPane, Option.bind_some]
    cases findLeafIdByPane paneId (rebuildNode splits (.leaf 0 pane) 1 rest) <;> rfl

theorem FocusOk.rebalance {tree : SplitTree} (ok : tree.FocusOk) : tree.rebalance.FocusOk := by
  obtain ⟨root, held, member⟩ := ok.root
  refine @focusOk_of_root _ (rebalanceNode root) (by simp [SplitTree.rebalance, held]) ?_
  rw [leafIds_rebalanceNode]
  exact member

theorem FocusOk.retune {tree : SplitTree} (ok : tree.FocusOk)
    (ratios : List Bool → Option ℚ) : (tree.retune ratios).FocusOk := by
  obtain ⟨root, held, member⟩ := ok.root
  refine @focusOk_of_root _ (retuneNode ratios root) (by simp [SplitTree.retune, held]) ?_
  rw [leafIds_retuneNode]
  exact member

theorem mem_leafIds_of_export {tree : SplitTree} {pane : ExportedPane}
    (exported : pane ∈ tree.exportPanes) : pane.leafId ∈ tree.leafIds := by
  unfold exportPanes at exported
  unfold leafIds
  cases held : tree.root with
  | none => simp [held] at exported
  | some root =>
      rw [held] at exported
      show pane.leafId ∈ collectLeafIds root
      rw [← map_leafId_exportNode none root]
      exact List.mem_map_of_mem exported

theorem map_pane_exportPanes (tree : SplitTree) :
    tree.exportPanes.map ExportedPane.pane = tree.allPanes := by
  unfold exportPanes allPanes
  cases tree.root with
  | none => rfl
  | some root => exact map_pane_exportNode none root

theorem map_paneId_exportPanes (tree : SplitTree) :
    tree.exportPanes.map (fun pane => pane.pane.val) = tree.allPanes.map Subtype.val := by
  rw [← map_pane_exportPanes, List.map_map]
  rfl

end SplitTree

end Boo.Runtime.Splits
