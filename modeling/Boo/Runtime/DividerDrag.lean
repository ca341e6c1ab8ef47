/- module: Boo/Runtime/DividerDrag
   digest: When a dragged divider is the one that was grabbed, and where it comes to lie. -/

import Boo.Runtime.SplitSites

set_option autoImplicit false
set_option relaxedAutoImplicit false

namespace Boo.Runtime.DividerDrag

open Boo.Lib.Spans
open Boo.Runtime.Splits
open Boo.Runtime.SplitContexts
open Boo.Runtime.PaneFrames
open Boo.Runtime.SplitSites

/-- The point is in the split's frame as far as the direction across the drag goes. -/
def spansPoint (direction : Direction) (frame : Rect) (point : ℚ × ℚ) : Bool :=
  match direction with
  | .horizontal => frame.y ≤ point.2 ∧ point.2 ≤ frame.y + frame.height
  | .vertical => frame.x ≤ point.1 ∧ point.1 ≤ frame.x + frame.width

/-- Where the point is along the drag, relative to the frame. -/
def relative (direction : Direction) (frame : Rect) (point : ℚ × ℚ) : ℚ :=
  match direction with
  | .horizontal => (point.1 - frame.x) / max frame.width 1
  | .vertical => (point.2 - frame.y) / max frame.height 1

/-- The tree, and whether a split took the drag. -/
def resizeDragNode (dir : Direction) (point : ℚ × ℚ) (frame : Rect) : Node → Node × Bool
  | .leaf id pane => (.leaf id pane, false)
  | .split direction ratio first second =>
      if direction = dir ∧ spansPoint dir frame point then
        (.split direction (clampRatio (relative dir frame point)) first second, true)
      else
        match resizeDragNode dir point (splitFrame frame direction ratio).1 first with
        | (changed, true) => (.split direction ratio changed second, true)
        | (same, false) =>
            let (changed, done) :=
              resizeDragNode dir point (splitFrame frame direction ratio).2 second
            (.split direction ratio same changed, done)

def resizeDrag (tree : SplitTree) (frame : Rect) (dir : Direction) (point : ℚ × ℚ) : SplitTree :=
  { tree with root := tree.root.map fun root => (resizeDragNode dir point frame root).1 }

/-- The split takes a drag in the direction to the point. -/
def Site.reached (dir : Direction) (point : ℚ × ℚ) (site : Site) : Bool :=
  site.direction = dir ∧ spansPoint dir site.frame point

/-- The ratio that a drag to the point asks of the split. -/
def Site.asked (point : ℚ × ℚ) (site : Site) : ℚ :=
  clampRatio (relative site.direction site.frame point)

section Search

variable {dir : Direction} {point : ℚ × ℚ} {frame : Rect} {node : Node} {site : Site}

/-- A drag changes the first split that takes it. -/
theorem resizeDragNode_eq (dir : Direction) (point : ℚ × ℚ) (frame : Rect) (node : Node) :
    resizeDragNode dir point frame node =
      ((((sites frame node).find? (Site.reached dir point)).map fun site =>
        (site.withRatio (Site.asked point site), true)).getD (node, false)) := by
  induction node generalizing frame with
  | leaf id pane => rfl
  | split direction ratio first second ihFirst ihSecond =>
      rw [resizeDragNode, sites, List.find?_cons]
      by_cases here : direction = dir ∧ spansPoint dir frame point
      · have reached : Site.reached dir point ⟨[], direction, ratio, first, second, frame⟩ = true :=
          decide_eq_true here
        rw [if_pos here, reached, Option.map_some, Option.getD_some, ← here.1]
        rfl
      · have passed : Site.reached dir point ⟨[], direction, ratio, first, second, frame⟩ = false :=
          decide_eq_false here
        rw [if_neg here, passed, ihFirst, ihSecond, List.find?_append,
          find?_under _ _ fun _ => rfl, find?_under _ _ fun _ => rfl]
        dsimp only
        cases (sites (splitFrame frame direction ratio).1 first).find? (Site.reached dir point) with
        | none =>
            cases (sites (splitFrame frame direction ratio).2 second).find?
              (Site.reached dir point) <;> rfl
        | some site => rfl

end Search

/-! The split that was grabbed, in the order in which the searches come by the splits. -/

section Grabbed

variable (frame : Rect) (root : Node) (dragged : ℚ × ℚ) (before after : List Site)
  (grabbed : Site)

/-- The drag gives the grabbed split the ratio that the pointer asks for, and changes no other. -/
def MovesGrabbed : Prop :=
  (resizeDragNode grabbed.direction dragged frame root).1 =
    grabbed.withRatio (Site.asked dragged grabbed)

/-- Unless the ratio is clamped, the middle of the divider ends within a border's width of the
pointer. -/
def LandsNear : Prop :=
  1 / 10 ≤ relative grabbed.direction grabbed.frame dragged →
    relative grabbed.direction grabbed.frame dragged ≤ 9 / 10 →
      |(span (cutStrip splitBorder grabbed.frame grabbed.direction
        (Site.asked dragged grabbed)) grabbed.direction).middle -
          coordinate dragged grabbed.direction| ≤ splitBorder

/-- The grabbed split takes the drag, and none that stands before it does. -/
def Unobstructed : Prop :=
  Site.reached grabbed.direction dragged grabbed = true ∧
    ∀ earlier ∈ before, Site.reached grabbed.direction dragged earlier = false

/-- The pointer asks the grabbed split, and the first split that takes the drag, for the ratios
that they have. -/
def Settled : Prop :=
  Site.asked dragged grabbed = grabbed.ratio ∧
    ∀ front site back, sites frame root = front ++ site :: back →
      (∀ earlier ∈ front, Site.reached grabbed.direction dragged earlier = false) →
        Site.reached grabbed.direction dragged site = true →
          Site.asked dragged site = site.ratio

/-- The grabbed split is at least a border wide along the drag, or the pointer is near its start. -/
def Roomy : Prop :=
  1 ≤ (span grabbed.frame grabbed.direction).extent ∨
    relative grabbed.direction grabbed.frame dragged < 1 / 10 ∨
    9 / 10 < relative grabbed.direction grabbed.frame dragged ∨
    (2 - (span grabbed.frame grabbed.direction).extent) *
      relative grabbed.direction grabbed.frame dragged ≤ 3 / 2

end Grabbed

section Drag

variable {frame : Rect} {root : Node} {dragged : ℚ × ℚ} {before after : List Site} {grabbed : Site}

theorem relative_eq (direction : Direction) (frame : Rect) (point : ℚ × ℚ) :
    relative direction frame point =
      (coordinate point direction - (span frame direction).start) /
        max (span frame direction).extent 1 := by
  cases direction <;> rfl

theorem clampRatio_within {ratio : ℚ} (above : 1 / 10 ≤ ratio) (below : ratio ≤ 9 / 10) :
    clampRatio ratio = ratio := by
  rw [clampRatio, if_neg (not_lt.mpr above), if_neg (not_lt.mpr below)]

theorem landsNear_iff : LandsNear dragged grabbed ↔ Roomy dragged grabbed := by
  have strip := fun ratio =>
    (span_cutFrame splitBorder grabbed.frame grabbed.direction ratio).2.2
  have ratio := relative_eq grabbed.direction grabbed.frame dragged
  rw [LandsNear, Roomy, Site.asked, strip]
  generalize relative grabbed.direction grabbed.frame dragged = rel at ratio
  generalize coordinate dragged grabbed.direction = pointer at ratio
  generalize span grabbed.frame grabbed.direction = own at ratio
  have wide : 0 < max own.extent 1 := lt_of_lt_of_le one_pos (le_max_right _ _)
  have pointerAt : pointer = own.start + rel * max own.extent 1 := by
    rw [ratio, div_mul_cancel₀ _ wide.ne']
    ring
  have middle : 1 / 10 ≤ rel → rel ≤ 9 / 10 →
      (own.strip splitBorder (clampRatio rel)).middle - pointer =
        (own.extent - 1) * rel + 1 / 2 - rel * max own.extent 1 := by
    intro above below
    rw [clampRatio_within above below, pointerAt]
    simp only [Span.middle, Span.strip, Span.lower, Span.stop, splitBorder]
    ring
  constructor
  · intro near
    by_cases large : 1 ≤ own.extent
    · exact .inl large
    · by_cases above : 1 / 10 ≤ rel
      · by_cases below : rel ≤ 9 / 10
        · have close := near above below
          rw [middle above below, max_eq_right (not_le.mp large).le, abs_le, splitBorder] at close
          exact .inr (.inr (.inr (by linarith [close.1])))
        · exact .inr (.inr (.inl (not_le.mp below)))
      · exact .inr (.inl (not_le.mp above))
  · intro roomy above below
    rw [middle above below, splitBorder, abs_le]
    rcases le_total 1 own.extent with large | small
    · rw [max_eq_left large]
      constructor <;> linarith
    · rw [max_eq_right small]
      rcases roomy with large | low | high | near
      · obtain same : own.extent = 1 := le_antisymm small large
        rw [same]
        constructor <;> linarith
      · exact absurd low (not_lt.mpr above)
      · exact absurd high (not_lt.mpr below)
      · constructor
        · linarith
        · have positive : 0 ≤ (1 - own.extent) * rel :=
            mul_nonneg (sub_nonneg.mpr small) (by linarith)
          linarith

/-- What `Settled` asks for is a matter of the one split that takes the drag. -/
theorem settled_iff {taken : Site}
    (found : (sites frame root).find? (Site.reached grabbed.direction dragged) = some taken) :
    Settled frame root dragged grabbed ↔
      Site.asked dragged grabbed = grabbed.ratio ∧ Site.asked dragged taken = taken.ratio := by
  constructor
  · rintro ⟨own, others⟩
    obtain ⟨reached, front, back, listed, none⟩ := List.find?_eq_some_iff_append.mp found
    exact ⟨own, others front taken back listed (fun earlier member => by simpa using none earlier member)
      reached⟩
  · rintro ⟨own, same⟩
    refine ⟨own, fun front site back listed none reached => ?_⟩
    have first : (sites frame root).find? (Site.reached grabbed.direction dragged) = some site :=
      List.find?_eq_some_iff_append.mpr
        ⟨reached, front, back, listed, fun earlier member => by simp [none earlier member]⟩
    obtain rfl : taken = site := Option.some.inj (found.symm.trans first)
    exact same

/-- An unobstructed drag goes to the grabbed split. -/
theorem Unobstructed.found (listed : sites frame root = before ++ grabbed :: after)
    (clear : Unobstructed dragged before grabbed) :
    (sites frame root).find? (Site.reached grabbed.direction dragged) = some grabbed :=
  List.find?_eq_some_iff_append.mpr
    ⟨clear.1, before, after, listed, fun earlier member => by simp [clear.2 earlier member]⟩

theorem movesGrabbed_iff (listed : sites frame root = before ++ grabbed :: after) :
    MovesGrabbed frame root dragged grabbed ↔
      Unobstructed dragged before grabbed ∨ Settled frame root dragged grabbed := by
  have member : grabbed ∈ sites frame root := by
    rw [listed]
    exact List.mem_append_right _ List.mem_cons_self
  rw [MovesGrabbed, resizeDragNode_eq]
  cases found : (sites frame root).find? (Site.reached grabbed.direction dragged) with
  | none =>
      have untaken := List.find?_eq_none.mp found
      rw [Option.map_none, Option.getD_none]
      constructor
      · intro same
        have own := (withRatio_inj grabbed).mp ((withRatio_self member).trans same)
        refine .inr ⟨own.symm, fun front site back split _ reached => ?_⟩
        refine absurd reached (untaken site ?_)
        rw [split]
        exact List.mem_append_right _ List.mem_cons_self
      · rintro (clear | settled)
        · exact absurd clear.1 (untaken grabbed member)
        · rw [settled.1]
          exact (withRatio_self member).symm
  | some taken =>
      rw [Option.map_some, Option.getD_some, settled_iff found]
      by_cases elsewhere : taken ∈ before ++ after
      · have apart := path_apart listed elsewhere
        have obstructed : ¬ Unobstructed dragged before grabbed := by
          intro clear
          have same : taken = grabbed := Option.some.inj (found.symm.trans (clear.found listed))
          exact apart (congrArg Site.path same)
        rw [eq_comm, withRatio_eq_iff _ _ listed elsewhere]
        exact ⟨.inr, fun held => held.resolve_left obstructed⟩
      · have inSites := List.mem_of_find?_eq_some found
        rw [listed, List.mem_append, List.mem_cons] at inSites
        rw [List.mem_append, not_or] at elsewhere
        obtain rfl : taken = grabbed :=
          (inSites.resolve_left elsewhere.1).resolve_right elsewhere.2
        refine iff_of_true rfl (.inl ⟨List.find?_some found, fun earlier inFront => ?_⟩)
        rw [listed, List.find?_append] at found
        by_contra reached
        have some : (before.find? (Site.reached taken.direction dragged)).isSome :=
          List.find?_isSome.mpr ⟨earlier, inFront, by simpa using reached⟩
        obtain ⟨first, firstFound⟩ := Option.isSome_iff_exists.mp some
        rw [firstFound, Option.some_or] at found
        obtain rfl := Option.some.inj found
        exact elsewhere.1 (List.mem_of_find?_eq_some firstFound)

end Drag

/-- A drag changes exactly the grabbed split, and brings its divider near the pointer, if and only
if no split before it takes the drag (or nothing is to change) and the split has the room. -/
theorem drag_moves_grabbed_iff (tree : SplitTree) (root : Node) (held : tree.root = some root)
    (frame : Rect) (pressed : ℚ × ℚ) (dir : Direction)
    (reported : dividerAt tree frame pressed = some dir) :
    ∃ before grabbed after, sites frame root = before ++ grabbed :: after ∧
      grabbed.takes pressed = true ∧ (∀ earlier ∈ before, earlier.takes pressed = false) ∧
      grabbed.direction = dir ∧
      ∀ dragged,
        (resizeDrag tree frame dir dragged).root =
            some (grabbed.withRatio (Site.asked dragged grabbed)) ∧
          LandsNear dragged grabbed ↔
        (Unobstructed dragged before grabbed ∨ Settled frame root dragged grabbed) ∧
          Roomy dragged grabbed := by
  rw [dividerAt, held, Option.bind_some, dividerAtNode_eq, Option.map_eq_some_iff] at reported
  obtain ⟨grabbed, found, rfl⟩ := reported
  obtain ⟨takes, before, after, listed, none⟩ := List.find?_eq_some_iff_append.mp found
  refine ⟨before, grabbed, after, listed, takes,
    fun earlier member => by simpa using none earlier member, rfl, fun dragged => ?_⟩
  rw [landsNear_iff, ← movesGrabbed_iff listed, resizeDrag, held]
  simp only [Option.map_some, Option.some.injEq, MovesGrabbed]

/-- Three columns: the right one of two columns is split in two again. -/
def threeColumns : Node :=
  .split .horizontal (1 / 2) (.leaf 0 ⟨1, live_one⟩)
    (.split .horizontal (1 / 2) (.leaf 1 ⟨2, live_two⟩) (.leaf 2 ⟨3, live_three⟩))

def columns : SplitTree := ⟨some threeColumns, 3, 2⟩

def window : Rect := ⟨0, 0, 203, 100⟩

/-- The divider between the first and the second column is grabbed and follows the pointer. -/
theorem drag_moves_grabbed_columns : ∃ grabbed ∈ sites window threeColumns,
    grabbed.takes (203 / 2, 50) = true ∧
      (resizeDrag columns window .horizontal (120, 50)).root =
        some (grabbed.withRatio (Site.asked (120, 50) grabbed)) ∧
      LandsNear (120, 50) grabbed := by
  obtain ⟨before, grabbed, after, listed, takes, none, -, moves⟩ :=
    drag_moves_grabbed_iff columns threeColumns rfl window (203 / 2, 50) .horizontal
      (by decide +kernel)
  have member : grabbed ∈ sites window threeColumns := by
    rw [listed]
    exact List.mem_append_right _ List.mem_cons_self
  refine ⟨grabbed, member, takes, (moves (120, 50)).mpr ?_⟩
  cases before with
  | cons earlier before =>
      -- the first split is under the point
      obtain ⟨rfl, -⟩ := List.cons.inj listed
      exact absurd (none _ List.mem_cons_self) (by decide +kernel)
  | nil =>
      obtain ⟨rfl, -⟩ := List.cons.inj listed
      exact ⟨.inl ⟨by decide +kernel, by simp⟩, .inl (by decide +kernel)⟩

/-- The divider between the second and the third column is grabbed, and the one between the first
and the second moves. -/
theorem drag_moves_other_divider :
    ¬ ∀ (tree : SplitTree) (root : Node) (frame : Rect) (pressed : ℚ × ℚ) (dir : Direction),
      tree.root = some root → dividerAt tree frame pressed = some dir →
        ∃ before grabbed after, sites frame root = before ++ grabbed :: after ∧
          grabbed.takes pressed = true ∧ (∀ earlier ∈ before, earlier.takes pressed = false) ∧
          ∀ dragged, (resizeDrag tree frame dir dragged).root =
              some (grabbed.withRatio (Site.asked dragged grabbed)) ∧
            LandsNear dragged grabbed := by
  intro all
  obtain ⟨before, grabbed, after, listed, takes, -, moves⟩ :=
    all columns threeColumns window (305 / 2, 50) .horizontal rfl (by decide +kernel)
  have root := (moves (160, 50)).1
  have first : ratioAt [] (grabbed.withRatio (Site.asked (160, 50) grabbed)) = some (160 / 203) := by
    have outer : (resizeDrag columns window .horizontal (160, 50)).root.bind (ratioAt []) =
        some (160 / 203) := by decide +kernel
    rwa [root, Option.bind_some] at outer
  cases before with
  | nil =>
      -- the first split is not under the point
      obtain ⟨rfl, -⟩ := List.cons.inj listed
      exact absurd takes (by decide +kernel)
  | cons outer before =>
      have inner : _ = before ++ grabbed :: after := (List.cons.inj listed).2
      have below : grabbed.path ≠ [] := by
        have member : grabbed ∈ before ++ grabbed :: after :=
          List.mem_append_right _ List.mem_cons_self
        rw [← inner] at member
        rcases List.mem_append.mp member with held | held
        · obtain ⟨site, -, rfl⟩ := List.mem_map.mp held
          exact List.cons_ne_nil _ _
        · obtain ⟨site, -, rfl⟩ := List.mem_map.mp held
          exact List.cons_ne_nil _ _
      have whole : grabbed.withRatio grabbed.ratio = threeColumns := by
        refine @withRatio_self window _ _ ?_
        rw [listed]
        exact List.mem_append_right _ List.mem_cons_self
      rw [ratioAt_other grabbed _ grabbed.ratio (Ne.symm below), whole] at first
      exact absurd first (by decide +kernel)

end Boo.Runtime.DividerDrag
