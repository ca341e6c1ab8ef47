/- module: Boo/Runtime/KeyboardResize
   digest: A resize by keyboard or command changes the nearest ancestor split along its axis. -/

import Boo.Runtime.SplitContexts
import Mathlib.Algebra.Order.Ring.Rat
import Mathlib.Tactic.NormNum

set_option autoImplicit false
set_option relaxedAutoImplicit false

namespace Boo.Runtime.KeyboardResize

open Boo.Server.Frames
open Boo.Runtime.Splits
open Boo.Runtime.Leaves
open Boo.Runtime.SplitContexts

/-- The recursion shared by `resize_toward_leaf_by_cells` and `resize_toward_leaf_to_ratio`: the
tree, whether the leaf was found and whether a split was changed. `change` is the new ratio of a
split with this frame and ratio. -/
def resizeTowardLeaf (target : LeafId) (axis : Direction) (change : Rect → ℚ → ℚ) (frame : Rect) :
    Node → Node × Bool × Bool
  | .leaf id pane => (.leaf id pane, id = target, false)
  | .split direction ratio first second =>
      match resizeTowardLeaf target axis change (splitFrame frame direction ratio).1 first with
      | (first, true, true) => (.split direction ratio first second, true, true)
      | (first, true, false) =>
          if direction = axis then
            (.split direction (change frame ratio) first second, true, true)
          else (.split direction ratio first second, true, false)
      | (first, false, _) =>
          match resizeTowardLeaf target axis change (splitFrame frame direction ratio).2 second with
          | (second, false, _) => (.split direction ratio first second, false, false)
          | (second, true, true) => (.split direction ratio first second, true, true)
          | (second, true, false) =>
              if direction = axis then
                (.split direction (change frame ratio) first second, true, true)
              else (.split direction ratio first second, true, false)

def usableExtent (axis : Direction) (frame : Rect) : ℚ :=
  match axis with
  | .horizontal => max (frame.width - splitBorder) 1
  | .vertical => max (frame.height - splitBorder) 1

def resizeTowardLeafByCells (target : LeafId) (axis : Direction) (deltaCells : ℤ)
    (cellExtent : ℚ) (frame : Rect) : Node → Node × Bool × Bool :=
  resizeTowardLeaf target axis
    (fun frame ratio => clampRatio (ratio + deltaCells * cellExtent / usableExtent axis frame)) frame

def resizeTowardLeafToRatio (target : LeafId) (axis : Direction) (ratio : ℚ) (frame : Rect) :
    Node → Node × Bool × Bool :=
  resizeTowardLeaf target axis (fun _ _ => ratio) frame

def resizeFocusedByCells (tree : SplitTree) (frame : Rect) (axis : Direction) (deltaCells : ℤ)
    (cellExtent : ℚ) : SplitTree :=
  { tree with root := tree.root.map fun root =>
      (resizeTowardLeafByCells tree.focusedId axis deltaCells cellExtent frame root).1 }

def resizePaneToRatio (tree : SplitTree) (frame : Rect) (paneId : PaneId) (axis : Direction)
    (ratio : ℚ) : SplitTree × Bool :=
  match tree.root with
  | none => (tree, false)
  | some root =>
      match findLeafIdByPane paneId root with
      | none => (tree, false)
      | some target =>
          let resized := resizeTowardLeafToRatio target axis (clampRatio ratio) frame root
          ({ tree with root := some resized.1 }, resized.2.2)

/-- The nearest split above the leaf that divides along the axis has another ratio, within the
bounds; or no split above the leaf does and the tree is the same. -/
inductive Resized (target : LeafId) (axis : Direction) : Node → Node → Prop
  | nearest (outer inner : Context) (layer : Layer) (pane : LivePane) (ratio : ℚ)
      (along : layer.direction = axis) (beyond : ∀ nearer ∈ inner, nearer.direction ≠ axis)
      (above : 1 / 10 ≤ ratio) (below : ratio ≤ 9 / 10) :
      Resized target axis (plug outer (layer.fill (plug inner (.leaf target pane))))
        (plug outer ({ layer with ratio := ratio }.fill (plug inner (.leaf target pane))))
  | unchanged (node : Node)
      (none : ∀ context pane, node = plug context (.leaf target pane) →
        ∀ layer ∈ context, layer.direction ≠ axis) : Resized target axis node node

/-- Such a change is one of the retunings that the operations on tabs are modelled by. -/
theorem Resized.retuned {target : LeafId} {axis : Direction} {node after : Node}
    (resized : Resized target axis node after) : ∃ ratios, after = retuneNode ratios node := by
  cases resized with
  | nearest outer inner layer pane ratio along beyond above below =>
      exact ⟨_, (retuneNode_at outer layer _ ratio).symm⟩
  | unchanged node none => exact ⟨_, (retuneNode_none node).symm⟩

theorem clampRatio_bounds (ratio : ℚ) :
    1 / 10 ≤ clampRatio ratio ∧ clampRatio ratio ≤ 9 / 10 := by
  rw [clampRatio]
  split
  · norm_num
  · split
    · norm_num
    · exact ⟨not_lt.mp ‹_›, not_lt.mp ‹_›⟩

section Search

variable {target : LeafId} {axis : Direction} {change : Rect → ℚ → ℚ} {node hole : Node}
  {pane : LivePane} {layer : Layer} {context outer inner : Context}

theorem resize_foreign (frame : Rect) (foreign : target ∉ collectLeafIds node) :
    resizeTowardLeaf target axis change frame node = (node, false, false) := by
  induction node generalizing frame with
  | leaf id pane =>
      rw [collectLeafIds, List.mem_singleton] at foreign
      simp [resizeTowardLeaf, Ne.symm foreign]
  | split direction ratio first second ihFirst ihSecond =>
      rw [collectLeafIds, List.mem_append, not_or] at foreign
      rw [resizeTowardLeaf, ihFirst _ foreign.1]
      dsimp only
      rw [ihSecond _ foreign.2]

/-- A split that was changed further down is all that changes. -/
theorem resize_fill_done (frame : Rect) {changed : Node}
    (foreign : target ∉ collectLeafIds layer.sibling)
    (deeper : resizeTowardLeaf target axis change (layer.frame frame) hole =
      (changed, true, true)) :
    resizeTowardLeaf target axis change frame (layer.fill hole) =
      (layer.fill changed, true, true) := by
  obtain ⟨direction, ratio, second, sibling⟩ := layer
  cases second with
  | false =>
      have deeper : resizeTowardLeaf target axis change (splitFrame frame direction ratio).1 hole =
        (changed, true, true) := deeper
      rw [fill_first, resizeTowardLeaf, deeper, fill_first]
  | true =>
      have deeper : resizeTowardLeaf target axis change (splitFrame frame direction ratio).2 hole =
        (changed, true, true) := deeper
      rw [fill_second, resizeTowardLeaf, resize_foreign _ foreign]
      dsimp only
      rw [deeper, fill_second]

/-- Else the split above the leaf is changed if it divides along the axis. -/
theorem resize_fill_found (frame : Rect) {same : Node}
    (foreign : target ∉ collectLeafIds layer.sibling)
    (deeper : resizeTowardLeaf target axis change (layer.frame frame) hole = (same, true, false)) :
    resizeTowardLeaf target axis change frame (layer.fill hole) =
      if layer.direction = axis then
        ({ layer with ratio := change frame layer.ratio }.fill same, true, true)
      else (layer.fill same, true, false) := by
  obtain ⟨direction, ratio, second, sibling⟩ := layer
  cases second with
  | false =>
      have deeper : resizeTowardLeaf target axis change (splitFrame frame direction ratio).1 hole =
        (same, true, false) := deeper
      rw [fill_first, resizeTowardLeaf, deeper]
      rfl
  | true =>
      have deeper : resizeTowardLeaf target axis change (splitFrame frame direction ratio).2 hole =
        (same, true, false) := deeper
      rw [fill_second, resizeTowardLeaf, resize_foreign _ foreign]
      dsimp only
      rw [deeper]
      rfl

/-- With unique ids the target is on no other side. -/
theorem foreign_siblings (distinct : (collectLeafIds (plug context (.leaf target pane))).Nodup) :
    ∀ layer ∈ context, target ∉ collectLeafIds layer.sibling := by
  induction context with
  | nil => exact fun layer member => by cases member
  | cons layer context ih =>
      obtain ⟨direction, ratio, second, sibling⟩ := layer
      have inside : target ∈ collectLeafIds (plug context (.leaf target pane)) := by
        obtain ⟨before, after, leaves⟩ := leaves_plug context
        rw [← map_fst_collectLeaves, leaves, List.map_append, List.map_append]
        exact List.mem_append_left _ (List.mem_append_right _ (List.mem_singleton_self target))
      rw [plug_cons] at distinct
      cases second with
      | false =>
          rw [fill_first, collectLeafIds, List.nodup_append] at distinct
          obtain ⟨deeper, -, apart⟩ := distinct
          intro layer member
          rcases List.mem_cons.mp member with rfl | member
          · exact fun held => apart target inside target held rfl
          · exact ih deeper layer member
      | true =>
          rw [fill_second, collectLeafIds, List.nodup_append] at distinct
          obtain ⟨-, deeper, apart⟩ := distinct
          intro layer member
          rcases List.mem_cons.mp member with rfl | member
          · exact fun held => apart target held target inside rfl
          · exact ih deeper layer member

theorem resize_unmatched (frame : Rect)
    (foreign : ∀ layer ∈ context, target ∉ collectLeafIds layer.sibling)
    (unmatched : ∀ layer ∈ context, layer.direction ≠ axis) :
    resizeTowardLeaf target axis change frame (plug context (.leaf target pane)) =
      (plug context (.leaf target pane), true, false) := by
  induction context generalizing frame with
  | nil => simp [resizeTowardLeaf]
  | cons layer context ih =>
      rw [List.forall_mem_cons] at foreign unmatched
      rw [plug_cons, resize_fill_found frame foreign.1 (ih _ foreign.2 unmatched.2),
        if_neg unmatched.1]

theorem resize_matched (frame : Rect)
    (foreign : ∀ above ∈ outer ++ layer :: inner, target ∉ collectLeafIds above.sibling)
    (along : layer.direction = axis) (beyond : ∀ nearer ∈ inner, nearer.direction ≠ axis) :
    resizeTowardLeaf target axis change frame
        (plug outer (layer.fill (plug inner (.leaf target pane)))) =
      (plug outer ({ layer with ratio := change (frameAt frame outer) layer.ratio }.fill
        (plug inner (.leaf target pane))), true, true) := by
  induction outer generalizing frame with
  | nil =>
      rw [List.nil_append, List.forall_mem_cons] at foreign
      have found := @resize_fill_found target axis change _ layer frame _ foreign.1
        (@resize_unmatched target axis change pane _ (layer.frame frame) foreign.2 beyond)
      rw [if_pos along] at found
      exact found
  | cons above outer ih =>
      rw [List.cons_append, List.forall_mem_cons] at foreign
      exact resize_fill_done frame foreign.1 (ih _ foreign.2)

/-- The layers of a context from the last matching one inwards. -/
theorem nearest_or_none (axis : Direction) (context : Context) :
    (∀ layer ∈ context, layer.direction ≠ axis) ∨
      ∃ outer layer inner, context = outer ++ layer :: inner ∧ layer.direction = axis ∧
        ∀ nearer ∈ inner, nearer.direction ≠ axis := by
  induction context with
  | nil => exact .inl fun layer member => by cases member
  | cons layer context ih =>
      rcases ih with unmatched | ⟨outer, nearest, inner, rfl, along, beyond⟩
      · by_cases along : layer.direction = axis
        · exact .inr ⟨[], layer, context, rfl, along, unmatched⟩
        · exact .inl (List.forall_mem_cons.mpr ⟨along, unmatched⟩)
      · exact .inr ⟨layer :: outer, nearest, inner, rfl, along, beyond⟩

/-- The whole search: one split changes, the nearest one along the axis, or none. -/
theorem resized_resizeTowardLeaf (frame : Rect) (distinct : (collectLeafIds node).Nodup)
    (bounded : ∀ frame ratio, 1 / 10 ≤ change frame ratio ∧ change frame ratio ≤ 9 / 10) :
    Resized target axis node (resizeTowardLeaf target axis change frame node).1 := by
  by_cases member : target ∈ collectLeafIds node
  · obtain ⟨context, pane, rfl⟩ := exists_plug_leaf member
    have foreign := foreign_siblings distinct
    rcases nearest_or_none axis context with unmatched | ⟨outer, layer, inner, rfl, along, beyond⟩
    · have result := @resize_unmatched target axis change pane context frame foreign unmatched
      rw [result]
      refine .unchanged _ fun other held same => ?_
      -- another way to the leaf along the axis would have changed a split
      rcases nearest_or_none axis other with fine | ⟨outer, layer, inner, rfl, along, beyond⟩
      · exact fine
      · rw [same] at result distinct
        have changed := @resize_matched target axis change held layer outer inner frame
          (foreign_siblings distinct) along beyond
        rw [plug_append, plug_cons, changed] at result
        have flags : true = false := congrArg (·.2.2) result
        cases flags
    · rw [plug_append, plug_cons,
        @resize_matched target axis change pane layer outer inner frame foreign along beyond]
      exact .nearest outer inner layer pane _ along beyond (bounded _ _).1 (bounded _ _).2
  · rw [resize_foreign frame member]
    refine .unchanged node fun context pane same => ?_
    obtain ⟨before, after, leaves⟩ := leaves_plug context
    refine absurd ?_ member
    rw [← map_fst_collectLeaves, same, leaves, List.map_append, List.map_append]
    exact List.mem_append_left _ (List.mem_append_right _ (List.mem_singleton_self target))

end Search

/-- A tree whose root changed in the one place that `Resized` names. -/
structure TreeResized (target : Option LeafId) (axis : Direction) (tree after : SplitTree) :
    Prop where
  counter : after.nextId = tree.nextId
  focus : after.focusedId = tree.focusedId
  foreign : target = none → after = tree
  root : ∀ root ∈ tree.root, ∀ id ∈ target, ∃ changed, after.root = some changed ∧
    Resized id axis root changed

/-- A resize by cells or to a ratio changes at most one ratio, within the bounds: that of the
nearest split above the leaf that divides along the axis. -/
theorem resize_local (tree : SplitTree) (distinct : tree.leafIds.Nodup) (frame : Rect)
    (axis : Direction) :
    (∀ deltaCells cellExtent, TreeResized (tree.root.map fun _ => tree.focusedId) axis tree
      (resizeFocusedByCells tree frame axis deltaCells cellExtent)) ∧
    ∀ paneId ratio, TreeResized (tree.root.bind (findLeafIdByPane paneId)) axis tree
      (resizePaneToRatio tree frame paneId axis ratio).1 := by
  cases held : tree.root with
  | none =>
      have same : ∀ deltaCells cellExtent,
          resizeFocusedByCells tree frame axis deltaCells cellExtent = tree := by
        intro deltaCells cellExtent
        obtain ⟨root, nextId, focusedId⟩ := tree
        subst held
        rfl
      constructor
      · intro deltaCells cellExtent
        rw [same]
        exact ⟨rfl, rfl, fun _ => rfl, fun root member => by simp [held] at member⟩
      · intro paneId ratio
        rw [resizePaneToRatio, held]
        exact ⟨rfl, rfl, fun _ => rfl, fun root member => by simp [held] at member⟩
  | some root =>
      rw [leafIds_eq held] at distinct
      constructor
      · intro deltaCells cellExtent
        refine ⟨rfl, rfl, fun missing => by simp at missing, fun own member id found => ?_⟩
        obtain rfl : root = own := by simpa [held] using member
        obtain rfl : tree.focusedId = id := by simpa using found
        refine ⟨_, by rw [resizeFocusedByCells, held, Option.map_some], ?_⟩
        exact resized_resizeTowardLeaf frame distinct fun _ _ => clampRatio_bounds _
      · intro paneId ratio
        rw [resizePaneToRatio, held, Option.bind_some]
        dsimp only
        split
        · rename_i missing
          exact ⟨rfl, rfl, fun _ => rfl, fun own _ id found => by simp [missing] at found⟩
        · rename_i target location
          refine ⟨rfl, rfl, fun missing => by simp [location] at missing, fun own member id found => ?_⟩
          obtain rfl : root = own := by simpa [held] using member
          obtain rfl : target = id := by simpa [location] using found
          refine ⟨_, rfl, ?_⟩
          exact resized_resizeTowardLeaf frame distinct fun _ _ => clampRatio_bounds ratio

/-- Two splits along one axis, the focus below both. -/
def twoColumns : SplitTree where
  root := some (.split .horizontal (1 / 2) (.leaf 0 ⟨1, live_one⟩)
    (.split .horizontal (1 / 2) (.leaf 1 ⟨2, live_two⟩) (.leaf 2 ⟨3, live_three⟩)))
  nextId := 3
  focusedId := 1

theorem resize_local_twoColumns :
    TreeResized (twoColumns.root.map fun _ => twoColumns.focusedId) .horizontal twoColumns
      (resizeFocusedByCells twoColumns ⟨0, 0, 200, 100⟩ .horizontal (-2) 10) :=
  (resize_local twoColumns (by decide) ⟨0, 0, 200, 100⟩ .horizontal).1 (-2) 10

end Boo.Runtime.KeyboardResize
