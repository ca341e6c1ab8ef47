/- module: Boo/Runtime/PaneFrames
   digest: The frames of the panes and the divider strips between them tile the window. -/

import Boo.Lib.Spans
import Boo.Runtime.CopyMode
import Boo.Runtime.TabOps

set_option autoImplicit false
set_option relaxedAutoImplicit false

namespace Boo.Runtime.PaneFrames

open Boo.Lib.Spans
open Boo.Runtime.CopyMode (asU32)
open Boo.Runtime.Splits
open Boo.Runtime.Leaves
open Boo.Runtime.TabOps

/-- The frame that `layout_node` gives the pane's view, and the size it reports. -/
structure LaidOut where
  pane : LivePane
  frame : Rect
  width : ℕ
  height : ℕ

def layoutNode (scale : ℚ) (frame : Rect) : Node → List LaidOut
  | .leaf _ pane => [⟨pane, frame, asU32 (frame.width * scale), asU32 (frame.height * scale)⟩]
  | .split direction ratio first second =>
      layoutNode scale (splitFrame frame direction ratio).1 first ++
        layoutNode scale (splitFrame frame direction ratio).2 second

/-- How far beyond the border a divider still takes a click. -/
def dividerHitMargin : ℚ := 3

/-- The point is on the divider of a split with this frame. -/
def onDivider (direction : Direction) (ratio : ℚ) (frame : Rect) (point : ℚ × ℚ) : Bool :=
  let firstFrame := (splitFrame frame direction ratio).1
  match direction with
  | .horizontal =>
      |point.1 - (firstFrame.x + firstFrame.width + splitBorder / 2)| <
          splitBorder / 2 + dividerHitMargin ∧
        frame.y ≤ point.2 ∧ point.2 ≤ frame.y + frame.height
  | .vertical =>
      |point.2 - (firstFrame.y + firstFrame.height + splitBorder / 2)| <
          splitBorder / 2 + dividerHitMargin ∧
        frame.x ≤ point.1 ∧ point.1 ≤ frame.x + frame.width

def dividerAtNode (frame : Rect) (point : ℚ × ℚ) : Node → Option Direction
  | .leaf _ _ => none
  | .split direction ratio first second =>
      if onDivider direction ratio frame point then some direction
      else (dividerAtNode (splitFrame frame direction ratio).1 point first).or
        (dividerAtNode (splitFrame frame direction ratio).2 point second)

def dividerAt (tree : SplitTree) (frame : Rect) (point : ℚ × ℚ) : Option Direction :=
  tree.root.bind (dividerAtNode frame point)

/-! The same with any width for the border, and the strips that the borders take. -/

def cutFrame (border : ℚ) (frame : Rect) (direction : Direction) (ratio : ℚ) : Rect × Rect :=
  match direction with
  | .horizontal =>
      ({ frame with width := (frame.width - border) * ratio }, { frame with
        x := frame.x + (frame.width - border) * ratio + border
        width := frame.width - border - (frame.width - border) * ratio })
  | .vertical =>
      ({ frame with height := (frame.height - border) * ratio }, { frame with
        y := frame.y + (frame.height - border) * ratio + border
        height := frame.height - border - (frame.height - border) * ratio })

/-- The strip between the two frames. -/
def cutStrip (border : ℚ) (frame : Rect) (direction : Direction) (ratio : ℚ) : Rect :=
  match direction with
  | .horizontal => { frame with
      x := frame.x + (frame.width - border) * ratio
      width := border }
  | .vertical => { frame with
      y := frame.y + (frame.height - border) * ratio
      height := border }

def leafFrames (border : ℚ) (frame : Rect) : Node → List (LeafId × Rect)
  | .leaf id _ => [(id, frame)]
  | .split direction ratio first second =>
      leafFrames border (cutFrame border frame direction ratio).1 first ++
        leafFrames border (cutFrame border frame direction ratio).2 second

def strips (border : ℚ) (frame : Rect) : Node → List Rect
  | .leaf _ _ => []
  | .split direction ratio first second =>
      cutStrip border frame direction ratio ::
        (strips border (cutFrame border frame direction ratio).1 first ++
          strips border (cutFrame border frame direction ratio).2 second)

/-! A rectangle as two spans, one along a split's direction and one across it. -/

def transverse : Direction → Direction
  | .horizontal => .vertical
  | .vertical => .horizontal

def span (frame : Rect) : Direction → Span ℚ
  | .horizontal => ⟨frame.x, frame.width⟩
  | .vertical => ⟨frame.y, frame.height⟩

def coordinate (point : ℚ × ℚ) : Direction → ℚ
  | .horizontal => point.1
  | .vertical => point.2

def area (frame : Rect) : ℚ := frame.width * frame.height

/-- The point is on the rectangle, its edges included. -/
def Covers (frame : Rect) (point : ℚ × ℚ) : Prop :=
  ∀ direction, (span frame direction).Covers (coordinate point direction)

/-- The point is on the rectangle, its edges left out. -/
def Inside (frame : Rect) (point : ℚ × ℚ) : Prop :=
  ∀ direction, (span frame direction).Inside (coordinate point direction)

/-- No size is negative. -/
def Sized (frame : Rect) : Prop := ∀ direction, 0 ≤ (span frame direction).extent

section Cuts

variable {border ratio : ℚ} {frame : Rect} {direction : Direction} {point : ℚ × ℚ}

theorem splitFrame_eq (frame : Rect) (direction : Direction) (ratio : ℚ) :
    splitFrame frame direction ratio = cutFrame splitBorder frame direction ratio := by
  cases direction <;> rfl

theorem span_cutFrame (border : ℚ) (frame : Rect) (direction : Direction) (ratio : ℚ) :
    span (cutFrame border frame direction ratio).1 direction =
        (span frame direction).lower border ratio ∧
      span (cutFrame border frame direction ratio).2 direction =
        (span frame direction).upper border ratio ∧
      span (cutStrip border frame direction ratio) direction =
        (span frame direction).strip border ratio := by
  cases direction <;> exact ⟨rfl, rfl, rfl⟩

theorem span_across (border : ℚ) (frame : Rect) (direction : Direction) (ratio : ℚ) :
    span (cutFrame border frame direction ratio).1 (transverse direction) =
        span frame (transverse direction) ∧
      span (cutFrame border frame direction ratio).2 (transverse direction) =
        span frame (transverse direction) ∧
      span (cutStrip border frame direction ratio) (transverse direction) =
        span frame (transverse direction) := by
  cases direction <;> exact ⟨rfl, rfl, rfl⟩

/-- What holds along a direction and across it holds of both directions. -/
theorem forall_direction {P : Direction → Prop} (direction : Direction) (along : P direction)
    (across : P (transverse direction)) : ∀ other, P other := by
  intro other
  cases direction <;> cases other <;> assumption

theorem area_cut (border : ℚ) (frame : Rect) (direction : Direction) (ratio : ℚ) :
    area (cutFrame border frame direction ratio).1 +
      area (cutStrip border frame direction ratio) +
      area (cutFrame border frame direction ratio).2 = area frame := by
  cases direction <;> simp only [area, cutFrame, cutStrip] <;> ring

/-- Both parts have sizes, so the whole has. -/
theorem sized_of_cut (room : 0 ≤ border) (first : Sized (cutFrame border frame direction ratio).1)
    (second : Sized (cutFrame border frame direction ratio).2) : Sized frame := by
  obtain ⟨lower, upper, -⟩ := span_cutFrame border frame direction ratio
  have low := first direction
  have high := second direction
  have across := first (transverse direction)
  rw [lower] at low
  rw [upper] at high
  rw [(span_across border frame direction ratio).1] at across
  have sum := (span frame direction).extent_cut border ratio
  exact forall_direction direction (by linarith) across

theorem covers_of_first (room : 0 ≤ border)
    (second : Sized (cutFrame border frame direction ratio).2)
    (covers : Covers (cutFrame border frame direction ratio).1 point) :
    Covers frame point := by
  obtain ⟨lower, upper, -⟩ := span_cutFrame border frame direction ratio
  have rest := second direction
  have along := covers direction
  have across := covers (transverse direction)
  rw [upper] at rest
  rw [lower] at along
  rw [(span_across border frame direction ratio).1] at across
  exact forall_direction direction (Span.covers_of_lower room rest along) across

theorem covers_of_second (room : 0 ≤ border)
    (first : Sized (cutFrame border frame direction ratio).1)
    (covers : Covers (cutFrame border frame direction ratio).2 point) :
    Covers frame point := by
  obtain ⟨lower, upper, -⟩ := span_cutFrame border frame direction ratio
  have rest := first direction
  have along := covers direction
  have across := covers (transverse direction)
  rw [lower] at rest
  rw [upper] at along
  rw [(span_across border frame direction ratio).2.1] at across
  exact forall_direction direction (Span.covers_of_upper room rest along) across

theorem covers_of_strip (first : Sized (cutFrame border frame direction ratio).1)
    (second : Sized (cutFrame border frame direction ratio).2)
    (covers : Covers (cutStrip border frame direction ratio) point) : Covers frame point := by
  obtain ⟨lower, upper, strip⟩ := span_cutFrame border frame direction ratio
  have before := first direction
  have rest := second direction
  have along := covers direction
  have across := covers (transverse direction)
  rw [lower] at before
  rw [upper] at rest
  rw [strip] at along
  rw [(span_across border frame direction ratio).2.2] at across
  exact forall_direction direction (Span.covers_of_strip before rest along) across

theorem apart_of_cut (room : 0 < border)
    (covers : Covers (cutFrame border frame direction ratio).1 point) :
    ¬ Covers (cutFrame border frame direction ratio).2 point := by
  obtain ⟨lower, upper, -⟩ := span_cutFrame border frame direction ratio
  intro other
  have low := covers direction
  have high := other direction
  rw [lower] at low
  rw [upper] at high
  exact Span.apart_of_cut room low high

theorem not_covers_of_strip (inside : Inside (cutStrip border frame direction ratio) point) :
    ¬ Covers (cutFrame border frame direction ratio).1 point ∧
      ¬ Covers (cutFrame border frame direction ratio).2 point := by
  obtain ⟨lower, upper, strip⟩ := span_cutFrame border frame direction ratio
  have along := inside direction
  rw [strip] at along
  have neither := Span.not_covers_of_strip along
  constructor
  · intro covers
    have low := covers direction
    rw [lower] at low
    exact neither.1 low
  · intro covers
    have high := covers direction
    rw [upper] at high
    exact neither.2 high

end Cuts

section Tiling

variable {border : ℚ} {frame : Rect} {node : Node} {point : ℚ × ℚ} {leaf : LeafId × Rect}

/-- No pane has a negative size. -/
def PanesSized (border : ℚ) (frame : Rect) (node : Node) : Prop :=
  ∀ leaf ∈ leafFrames border frame node, Sized leaf.2

/-- The two sides of a split, each with panes that have sizes. -/
theorem PanesSized.sides {direction : Direction} {ratio : ℚ} {first second : Node}
    (sized : PanesSized border frame (.split direction ratio first second)) :
    PanesSized border (cutFrame border frame direction ratio).1 first ∧
      PanesSized border (cutFrame border frame direction ratio).2 second := by
  constructor
  · exact fun leaf member => sized leaf (List.mem_append_left _ member)
  · exact fun leaf member => sized leaf (List.mem_append_right _ member)

/-- A subtree whose panes have sizes has a frame with sizes. -/
theorem PanesSized.sized (room : 0 ≤ border) (sized : PanesSized border frame node) :
    Sized frame := by
  induction node generalizing frame with
  | leaf id pane => exact sized (id, frame) (List.mem_singleton_self _)
  | split direction ratio first second ihFirst ihSecond =>
      exact sized_of_cut room (ihFirst sized.sides.1) (ihSecond sized.sides.2)

theorem leaf_in_frame (room : 0 ≤ border) (sized : PanesSized border frame node)
    (member : leaf ∈ leafFrames border frame node) (covers : Covers leaf.2 point) :
    Covers frame point := by
  induction node generalizing frame with
  | leaf id pane =>
      obtain rfl := List.mem_singleton.mp member
      exact covers
  | split direction ratio first second ihFirst ihSecond =>
      obtain ⟨firstSized, secondSized⟩ := sized.sides
      rcases List.mem_append.mp member with member | member
      · exact covers_of_first room (secondSized.sized room) (ihFirst firstSized member)
      · exact covers_of_second room (firstSized.sized room) (ihSecond secondSized member)

theorem leaves_apart (room : 0 < border) (sized : PanesSized border frame node) :
    (leafFrames border frame node).Pairwise fun one two =>
      ∀ point, ¬ (Covers one.2 point ∧ Covers two.2 point) := by
  induction node generalizing frame with
  | leaf id pane => exact List.pairwise_singleton _ _
  | split direction ratio first second ihFirst ihSecond =>
      obtain ⟨firstSized, secondSized⟩ := sized.sides
      rw [leafFrames, List.pairwise_append]
      refine ⟨ihFirst firstSized, ihSecond secondSized, ?_⟩
      rintro one inFirst two inSecond point ⟨onOne, onTwo⟩
      exact apart_of_cut room (leaf_in_frame room.le firstSized inFirst onOne)
        (leaf_in_frame room.le secondSized inSecond onTwo)

/-- Panes and strips share out the area of the frame. -/
theorem areas_sum (border : ℚ) (frame : Rect) (node : Node) :
    ((leafFrames border frame node).map fun leaf => area leaf.2).sum +
      ((strips border frame node).map area).sum = area frame := by
  induction node generalizing frame with
  | leaf id pane => simp [leafFrames, strips]
  | split direction ratio first second ihFirst ihSecond =>
      have firstSum := ihFirst (cutFrame border frame direction ratio).1
      have secondSum := ihSecond (cutFrame border frame direction ratio).2
      have whole := area_cut border frame direction ratio
      rw [leafFrames, strips, List.map_append, List.sum_append, List.map_cons, List.sum_cons,
        List.map_append, List.sum_append]
      linarith

/-- The panes that are exported with their frames. -/
theorem map_exportNodeWithFrame (frame : Rect) (parentSplit : Option (Direction × ℚ))
    (node : Node) :
    (exportNodeWithFrame frame parentSplit node).map (fun pane => (pane.leafId, pane.frame)) =
      (leafFrames splitBorder frame node).map fun leaf => (leaf.1, some leaf.2) := by
  induction node generalizing frame parentSplit with
  | leaf id pane => rfl
  | split direction ratio first second ihFirst ihSecond =>
      rw [exportNodeWithFrame, leafFrames, List.map_append, List.map_append, ihFirst, ihSecond,
        splitFrame_eq]

/-- The views are laid out in the frames that are exported. -/
theorem map_layoutNode (scale : ℚ) (frame : Rect) (node : Node) :
    (layoutNode scale frame node).map LaidOut.frame =
      (leafFrames splitBorder frame node).map Prod.snd := by
  induction node generalizing frame with
  | leaf id pane => rfl
  | split direction ratio first second ihFirst ihSecond =>
      rw [layoutNode, leafFrames, List.map_append, List.map_append, ihFirst, ihSecond,
        splitFrame_eq]

theorem leafAtPoint_leaf (frame : Rect) (point : ℚ × ℚ) (id : LeafId) (pane : LivePane) :
    leafAtPoint frame point (.leaf id pane) = some id ↔ Covers frame point := by
  have both : Covers frame point ↔ frame.x ≤ point.1 ∧ point.1 ≤ frame.x + frame.width ∧
      frame.y ≤ point.2 ∧ point.2 ≤ frame.y + frame.height := by
    constructor
    · intro covers
      exact ⟨(covers .horizontal).1, (covers .horizontal).2, (covers .vertical).1,
        (covers .vertical).2⟩
    · rintro ⟨left, right, top, bottom⟩
      exact forall_direction .horizontal ⟨left, right⟩ ⟨top, bottom⟩
  rw [both, leafAtPoint]
  split <;> simp_all

/-- The pane at a point covers it. -/
theorem covers_of_leafAtPoint {id : LeafId} (found : leafAtPoint frame point node = some id) :
    ∃ shown, (id, shown) ∈ leafFrames splitBorder frame node ∧ Covers shown point := by
  induction node generalizing frame with
  | leaf own pane =>
      have same : own = id := by
        rw [leafAtPoint] at found
        split at found <;> cases found
        rfl
      subst same
      exact ⟨frame, List.mem_singleton_self _, (leafAtPoint_leaf frame point own pane).mp found⟩
  | split direction ratio first second ihFirst ihSecond =>
      rw [leafAtPoint, splitFrame_eq, Option.or_eq_some_iff] at found
      rcases found with found | ⟨-, found⟩
      · obtain ⟨shown, member, covers⟩ := ihFirst found
        exact ⟨shown, List.mem_append_left _ member, covers⟩
      · obtain ⟨shown, member, covers⟩ := ihSecond found
        exact ⟨shown, List.mem_append_right _ member, covers⟩

/-- A point off the frame is on no pane. -/
theorem leafAtPoint_none (sized : PanesSized splitBorder frame node)
    (off : ¬ Covers frame point) : leafAtPoint frame point node = none := by
  rw [Option.eq_none_iff_forall_ne_some]
  intro id found
  obtain ⟨shown, member, covers⟩ := covers_of_leafAtPoint found
  exact off (leaf_in_frame (by norm_num [splitBorder]) sized member covers)

/-- The pane that covers a point is the one found there. -/
theorem leafAtPoint_of_covers (sized : PanesSized splitBorder frame node)
    (member : leaf ∈ leafFrames splitBorder frame node) (covers : Covers leaf.2 point) :
    leafAtPoint frame point node = some leaf.1 := by
  have border : (0 : ℚ) < splitBorder := by norm_num [splitBorder]
  induction node generalizing frame with
  | leaf id pane =>
      obtain rfl := List.mem_singleton.mp member
      exact (leafAtPoint_leaf frame point id pane).mpr covers
  | split direction ratio first second ihFirst ihSecond =>
      obtain ⟨firstSized, secondSized⟩ := sized.sides
      rw [leafAtPoint, splitFrame_eq]
      rcases List.mem_append.mp member with member | member
      · rw [ihFirst firstSized member, Option.some_or]
      · have elsewhere : ¬ Covers (cutFrame splitBorder frame direction ratio).1 point :=
          fun onFirst => apart_of_cut border onFirst
            (leaf_in_frame border.le secondSized member covers)
        rw [leafAtPoint_none firstSized elsewhere, Option.none_or, ihSecond secondSized member]

theorem strip_in_frame {strip : Rect} (room : 0 ≤ border) (sized : PanesSized border frame node)
    (member : strip ∈ strips border frame node) (covers : Covers strip point) :
    Covers frame point := by
  induction node generalizing frame with
  | leaf id pane => cases member
  | split direction ratio first second ihFirst ihSecond =>
      obtain ⟨firstSized, secondSized⟩ := sized.sides
      rcases List.mem_cons.mp member with rfl | member
      · exact covers_of_strip (firstSized.sized room) (secondSized.sized room) covers
      · rcases List.mem_append.mp member with member | member
        · exact covers_of_first room (secondSized.sized room) (ihFirst firstSized member)
        · exact covers_of_second room (firstSized.sized room) (ihSecond secondSized member)

/-- No pane is found on a strip. -/
theorem leafAtPoint_of_strip {strip : Rect} (sized : PanesSized splitBorder frame node)
    (member : strip ∈ strips splitBorder frame node) (inside : Inside strip point) :
    leafAtPoint frame point node = none := by
  have border : (0 : ℚ) < splitBorder := by norm_num [splitBorder]
  have covers : Covers strip point := fun direction => (inside direction).covers
  induction node generalizing frame with
  | leaf id pane => cases member
  | split direction ratio first second ihFirst ihSecond =>
      obtain ⟨firstSized, secondSized⟩ := sized.sides
      rw [leafAtPoint, splitFrame_eq, Option.or_eq_none_iff]
      rcases List.mem_cons.mp member with rfl | member
      · obtain ⟨offFirst, offSecond⟩ := not_covers_of_strip inside
        exact ⟨leafAtPoint_none firstSized offFirst, leafAtPoint_none secondSized offSecond⟩
      · rcases List.mem_append.mp member with member | member
        · have onFirst := strip_in_frame border.le firstSized member covers
          exact ⟨ihFirst firstSized member,
            leafAtPoint_none secondSized (apart_of_cut border onFirst)⟩
        · have onSecond := strip_in_frame border.le secondSized member covers
          exact ⟨leafAtPoint_none firstSized fun onFirst => apart_of_cut border onFirst onSecond,
            ihSecond secondSized member⟩

/-- A click near the middle of the strip, within the split's frame across, is on the divider. -/
theorem onDivider_iff {direction : Direction} {ratio : ℚ} :
    onDivider direction ratio frame point = true ↔
      |coordinate point direction - (span (cutStrip splitBorder frame direction ratio)
        direction).middle| < splitBorder / 2 + dividerHitMargin ∧
      (span frame (transverse direction)).Covers (coordinate point (transverse direction)) := by
  cases direction <;> exact decide_eq_true_iff

/-- On every strip some divider takes the click. -/
theorem dividerAt_of_strip {strip : Rect} (member : strip ∈ strips splitBorder frame node)
    (inside : Inside strip point) : (dividerAtNode frame point node).isSome := by
  induction node generalizing frame with
  | leaf id pane => cases member
  | split direction ratio first second ihFirst ihSecond =>
      rw [dividerAtNode, splitFrame_eq]
      split
      · rfl
      · rename_i missed
        rw [Option.isSome_or, Bool.or_eq_true]
        rcases List.mem_cons.mp member with rfl | member
        · refine absurd (onDivider_iff.mpr ⟨?_, ?_⟩) missed
          · have along := inside direction
            rw [(span_cutFrame splitBorder frame direction ratio).2.2] at along ⊢
            obtain ⟨behind, before⟩ := along
            rw [abs_lt]
            simp only [Span.middle, Span.strip, Span.stop, splitBorder, dividerHitMargin]
              at behind before ⊢
            constructor <;> linarith
          · have across := inside (transverse direction)
            rw [(span_across splitBorder frame direction ratio).2.2] at across
            exact across.covers
        · exact (List.mem_append.mp member).imp ihFirst ihSecond

end Tiling

/-- A pane is exported exactly with its frame. -/
theorem exported_iff {frame : Rect} {node : Node} {id : LeafId} {shown : Rect} :
    (id, shown) ∈ leafFrames splitBorder frame node ↔
      ∃ pane ∈ exportNodeWithFrame frame none node, pane.leafId = id ∧ pane.frame = some shown := by
  have same := map_exportNodeWithFrame frame none node
  have listed : (id, some shown) ∈ (exportNodeWithFrame frame none node).map
      (fun pane => (pane.leafId, pane.frame)) ↔
        ∃ pane ∈ exportNodeWithFrame frame none node, pane.leafId = id ∧ pane.frame = some shown := by
    simp only [List.mem_map, Prod.mk.injEq]
  rw [← listed, same, List.mem_map]
  constructor
  · exact fun member => ⟨(id, shown), member, rfl⟩
  · rintro ⟨⟨own, held⟩, member, same⟩
    cases same
    exact member

/-- Every exported pane has a frame. -/
theorem frame_of_exported {frame : Rect} {node : Node} {pane : ExportedPane}
    (exported : pane ∈ exportNodeWithFrame frame none node) :
    ∃ shown, pane.frame = some shown ∧ (pane.leafId, shown) ∈ leafFrames splitBorder frame node := by
  have listed := List.mem_map_of_mem (f := fun pane => (pane.leafId, pane.frame)) exported
  rw [map_exportNodeWithFrame, List.mem_map] at listed
  obtain ⟨leaf, member, same⟩ := listed
  obtain ⟨own, held⟩ := Prod.mk.inj same
  exact ⟨leaf.2, held.symm, own ▸ member⟩

/-- The panes' frames are disjoint, lie in the window's frame and share its area with the divider
strips; a click on a pane finds it, and a click on a strip finds no pane but a divider. -/
theorem frames_tile (frame : Rect) (node : Node)
    (sized : ∀ pane ∈ exportNodeWithFrame frame none node, ∀ shown, pane.frame = some shown →
      0 ≤ shown.width ∧ 0 ≤ shown.height) :
    ((exportNodeWithFrame frame none node).Pairwise fun one two =>
      ∀ shownOne shownTwo, one.frame = some shownOne → two.frame = some shownTwo →
        ∀ point, ¬ (Covers shownOne point ∧ Covers shownTwo point)) ∧
    (∀ pane ∈ exportNodeWithFrame frame none node, ∃ shown, pane.frame = some shown ∧
      (∀ point, Covers shown point → Covers frame point) ∧
      ∀ point, Inside shown point → leafAtPoint frame point node = some pane.leafId) ∧
    (((exportNodeWithFrame frame none node).filterMap ExportedPane.frame).map area).sum +
      ((strips splitBorder frame node).map area).sum = area frame ∧
    ∀ strip ∈ strips splitBorder frame node, ∀ point, Inside strip point →
      leafAtPoint frame point node = none ∧ (dividerAtNode frame point node).isSome := by
  have border : (0 : ℚ) < splitBorder := by norm_num [splitBorder]
  have panesSized : PanesSized splitBorder frame node := by
    intro leaf member
    obtain ⟨pane, exported, -, shown⟩ := exported_iff.mp member
    obtain ⟨wide, high⟩ := sized pane exported leaf.2 shown
    exact forall_direction .horizontal wide high
  refine ⟨?_, fun pane exported => ?_, ?_, fun strip member point inside => ?_⟩
  · have apart := leaves_apart border panesSized
    have listed : ((exportNodeWithFrame frame none node).map
        fun pane => (pane.leafId, pane.frame)).Pairwise fun one two =>
          ∀ shownOne shownTwo, one.2 = some shownOne → two.2 = some shownTwo →
            ∀ point, ¬ (Covers shownOne point ∧ Covers shownTwo point) := by
      rw [map_exportNodeWithFrame, List.pairwise_map]
      refine apart.imp fun none shownOne shownTwo isOne isTwo point => ?_
      cases isOne
      cases isTwo
      exact none point
    rwa [List.pairwise_map] at listed
  · obtain ⟨shown, own, member⟩ := frame_of_exported exported
    exact ⟨shown, own, fun point => leaf_in_frame border.le panesSized member,
      fun point inside => leafAtPoint_of_covers panesSized member fun direction =>
        (inside direction).covers⟩
  · have frames : (exportNodeWithFrame frame none node).filterMap ExportedPane.frame =
        (leafFrames splitBorder frame node).map Prod.snd := by
      have same := congrArg (List.filterMap Prod.snd) (map_exportNodeWithFrame frame none node)
      rw [List.filterMap_map, List.filterMap_map] at same
      refine same.trans ?_
      rw [← List.filterMap_eq_map]
      rfl
    rw [frames, List.map_map]
    exact areas_sum splitBorder frame node
  · exact ⟨leafAtPoint_of_strip panesSized member inside, dividerAt_of_strip member inside⟩

def halves : Node :=
  .split .horizontal (1 / 2) (.leaf 0 ⟨1, live_one⟩) (.leaf 1 ⟨2, live_two⟩)

theorem frames_tile_halves :
    (((exportNodeWithFrame ⟨0, 0, 101, 40⟩ none halves).filterMap ExportedPane.frame).map
      area).sum + ((strips splitBorder ⟨0, 0, 101, 40⟩ halves).map area).sum =
        area ⟨0, 0, 101, 40⟩ := by
  refine (frames_tile ⟨0, 0, 101, 40⟩ halves ?_).2.2.1
  intro pane exported shown held
  simp only [halves, exportNodeWithFrame, splitFrame, splitBorder, List.singleton_append,
    List.mem_cons, List.not_mem_nil, or_false] at exported
  rcases exported with rfl | rfl <;> cases held <;> norm_num

end Boo.Runtime.PaneFrames
