/- module: Boo/Runtime/DirectionalFocus
   digest: Which pane a directional focus goes to: the nearest on that side, and when it is aligned. -/

import Boo.Lib.KeptBest
import Boo.Runtime.PaneFrames
import Mathlib.Data.Set.Finite.Lemmas

set_option autoImplicit false
set_option relaxedAutoImplicit false

namespace Boo.Runtime.DirectionalFocus

open Boo.Lib.KeptBest
open Boo.Lib.Spans
open Boo.Runtime.Splits
open Boo.Runtime.Leaves
open Boo.Runtime.TabOps
open Boo.Runtime.PaneFrames

/-- The frame that `focus_direction` starts from. -/
def currentFrame (tree : SplitTree) (frame : Rect) : Option Rect :=
  ((tree.exportPanesWithFrames frame).find? (·.leafId = tree.focusedId)).bind ExportedPane.frame

/-- The leaf that wins the loop over the panes. -/
def bestLeaf (tree : SplitTree) (frame : Rect) (direction : PaneFocusDirection) (current : Rect) :
    Option LeafId :=
  ((tree.exportPanesWithFrames frame).foldl (bestPane direction tree.focusedId current)
    none).map Prod.fst

/-- `focus_direction` with its answer. -/
def focusDirectionAnswer (tree : SplitTree) (frame : Rect) (direction : PaneFocusDirection) :
    SplitTree × Bool :=
  match currentFrame tree frame with
  | none => (tree, false)
  | some current =>
      match bestLeaf tree frame direction current with
      | some id => if id = tree.focusedId then (tree, false) else (tree.setFocus id, true)
      | none => (tree, false)

def axis : PaneFocusDirection → Direction
  | .left | .right => .horizontal
  | .up | .down => .vertical

/-- How far the frame lies on that side; negative where it does not lie there entirely. -/
def gap (direction : PaneFocusDirection) (current shown : Rect) : ℚ :=
  match direction with
  | .left | .up => (span current (axis direction)).start - (span shown (axis direction)).stop
  | .right | .down => (span shown (axis direction)).start - (span current (axis direction)).stop

/-- The secondary distance, across the direction. -/
def offAxis (direction : PaneFocusDirection) (current shown : Rect) : ℚ :=
  let own := span current (transverse (axis direction))
  let other := span shown (transverse (axis direction))
  min (axisSeparation own.start own.stop other.start other.stop) |other.middle - own.middle|

/-- The frames have a point in common across the direction. -/
def Overlaps (direction : PaneFocusDirection) (current shown : Rect) : Prop :=
  let own := span current (transverse (axis direction))
  let other := span shown (transverse (axis direction))
  other.start ≤ own.stop ∧ own.start ≤ other.stop

/-- Another pane that lies entirely on that side of the focused one. -/
structure Beside (tree : SplitTree) (frame : Rect) (direction : PaneFocusDirection)
    (current : Rect) (leaf : LeafId × Rect) : Prop where
  shown : ∃ pane ∈ tree.exportPanesWithFrames frame, pane.leafId = leaf.1 ∧
    pane.frame = some leaf.2
  other : leaf.1 ≠ tree.focusedId
  side : 0 ≤ gap direction current leaf.2

/-- An overlapping pane on that side, none of which is nearer. -/
structure NearestAligned (tree : SplitTree) (frame : Rect) (direction : PaneFocusDirection)
    (current : Rect) (leaf : LeafId × Rect) : Prop where
  beside : Beside tree frame direction current leaf
  overlaps : Overlaps direction current leaf.2
  nearest : ∀ other, Beside tree frame direction current other →
    Overlaps direction current other.2 → gap direction current leaf.2 ≤ gap direction current other.2

/-- No pane off the axis is as near as the overlapping ones, unless it is as near exactly and its
middle is off the focused pane's. -/
def NoneNearer (tree : SplitTree) (frame : Rect) (direction : PaneFocusDirection)
    (current : Rect) : Prop :=
  ∀ other, Beside tree frame direction current other → ¬ Overlaps direction current other.2 →
    ∃ leaf, Beside tree frame direction current leaf ∧ Overlaps direction current leaf.2 ∧
      (gap direction current leaf.2 < gap direction current other.2 ∨
        gap direction current leaf.2 = gap direction current other.2 ∧
          0 < offAxis direction current other.2)

/-- The gaps on that side are equal or differ by at least the machine epsilon. -/
def GapsApart (tree : SplitTree) (frame : Rect) (direction : PaneFocusDirection)
    (current : Rect) : Prop :=
  ∀ one two, Beside tree frame direction current one → Beside tree frame direction current two →
    gap direction current one.2 = gap direction current two.2 ∨
      epsilon ≤ |gap direction current one.2 - gap direction current two.2|

section Distances

variable {direction : PaneFocusDirection} {current shown : Rect}

theorem paneDistance_eq (direction : PaneFocusDirection) (current shown : Rect) :
    paneDistance direction current shown =
      if gap direction current shown < 0 then none
      else some (gap direction current shown, offAxis direction current shown) := by
  cases direction <;>
    simp only [paneDistance, gap, offAxis, axis, transverse, span, Span.stop, Span.middle,
      sub_neg]

theorem offAxis_nonneg (direction : PaneFocusDirection) (current shown : Rect) :
    0 ≤ offAxis direction current shown := by
  refine le_min ?_ (abs_nonneg _)
  rw [axisSeparation]
  split
  · exact sub_nonneg.mpr (le_of_lt ‹_›)
  · split
    · exact sub_nonneg.mpr (le_of_lt ‹_›)
    · exact le_refl 0

theorem offAxis_of_overlaps (overlaps : Overlaps direction current shown) :
    offAxis direction current shown = 0 := by
  refine le_antisymm (min_le_of_left_le ?_) (offAxis_nonneg direction current shown)
  rw [axisSeparation, if_neg (not_lt.mpr overlaps.1), if_neg (not_lt.mpr overlaps.2)]

/-- Off the axis the middles of panes with sizes differ. -/
theorem offAxis_pos (own : Sized current) (other : Sized shown)
    (apart : ¬ Overlaps direction current shown) : 0 < offAxis direction current shown := by
  have ownSize := own (transverse (axis direction))
  have otherSize := other (transverse (axis direction))
  rw [Overlaps, not_and_or, not_le, not_le] at apart
  rw [offAxis]
  generalize span current (transverse (axis direction)) = one at ownSize apart
  generalize span shown (transverse (axis direction)) = two at otherSize apart
  rcases apart with before | behind
  · have order : one.start + one.extent < two.start := before
    refine lt_min ?_ (abs_pos.mpr ?_)
    · rw [axisSeparation, if_pos before]
      exact sub_pos.mpr before
    · simp only [Span.middle]
      intro same
      linarith
  · have order : two.start + two.extent < one.start := behind
    have later : ¬ one.stop < two.start := by
      rw [not_lt, Span.stop]
      linarith
    refine lt_min ?_ (abs_pos.mpr ?_)
    · rw [axisSeparation, if_neg later, if_pos behind]
      exact sub_pos.mpr behind
    · simp only [Span.middle]
      intro same
      linarith

end Distances

section Loop

variable {tree : SplitTree} {frame current : Rect} {direction : PaneFocusDirection}

/-- What the loop over the panes compares, for another pane on that side. -/
def candidate (tree : SplitTree) (direction : PaneFocusDirection) (current : Rect)
    (pane : ExportedPane) : Option (LeafId × ℚ × ℚ) :=
  if pane.leafId = tree.focusedId then none
  else (pane.frame.bind (paneDistance direction current)).map (pane.leafId, ·)

def candidates (tree : SplitTree) (frame : Rect) (direction : PaneFocusDirection)
    (current : Rect) : List (LeafId × ℚ × ℚ) :=
  (tree.exportPanesWithFrames frame).filterMap (candidate tree direction current)

/-- What the loop compares of a pane. -/
def measure (direction : PaneFocusDirection) (current : Rect) (leaf : LeafId × Rect) :
    LeafId × ℚ × ℚ :=
  (leaf.1, gap direction current leaf.2, offAxis direction current leaf.2)

theorem foldl_bestPane (panes : List ExportedPane) (best : Option (LeafId × ℚ × ℚ)) :
    panes.foldl (bestPane direction tree.focusedId current) best =
      (panes.filterMap (candidate tree direction current)).foldl (keep closer) best := by
  induction panes generalizing best with
  | nil => rfl
  | cons pane panes ih =>
      rw [List.foldl_cons, ih, bestPane, List.filterMap_cons, candidate]
      split
      · rfl
      · cases pane.frame.bind (paneDistance direction current) with
        | none => rfl
        | some distance =>
            rw [Option.map_some]
            dsimp only
            rw [List.foldl_cons]
            cases best <;> rfl

theorem bestLeaf_eq (tree : SplitTree) (frame : Rect) (direction : PaneFocusDirection)
    (current : Rect) : bestLeaf tree frame direction current =
      (keptBest closer (candidates tree frame direction current)).map Prod.fst := by
  rw [bestLeaf, foldl_bestPane]
  rfl

/-- The candidates are the other panes on that side. -/
theorem mem_candidates {item : LeafId × ℚ × ℚ} :
    item ∈ candidates tree frame direction current ↔
      ∃ leaf, Beside tree frame direction current leaf ∧ item = measure direction current leaf := by
  rw [candidates, List.mem_filterMap]
  constructor
  · rintro ⟨pane, exported, found⟩
    rw [candidate] at found
    split at found
    · cases found
    · rename_i other
      obtain ⟨distance, measured, rfl⟩ := Option.map_eq_some_iff.mp found
      obtain ⟨shown, held, measured⟩ := Option.bind_eq_some_iff.mp measured
      rw [paneDistance_eq] at measured
      split at measured
      · cases measured
      · rename_i side
        cases measured
        exact ⟨(pane.leafId, shown), ⟨⟨pane, exported, rfl, held⟩, other, not_lt.mp side⟩, rfl⟩
  · rintro ⟨leaf, ⟨⟨pane, exported, own, held⟩, other, side⟩, rfl⟩
    refine ⟨pane, exported, ?_⟩
    rw [candidate, own, if_neg other, held, Option.bind_some, paneDistance_eq,
      if_neg (not_lt.mpr side)]
    rfl

theorem beside_of_best {item : LeafId × ℚ × ℚ}
    (kept : keptBest closer (candidates tree frame direction current) = some item) :
    ∃ leaf, Beside tree frame direction current leaf ∧ item = measure direction current leaf :=
  mem_candidates.mp (keptBest_mem kept)

/-- What `focus_direction` answers once the loop is over. -/
theorem focusDirectionAnswer_eq (focused : currentFrame tree frame = some current) :
    focusDirectionAnswer tree frame direction =
      match keptBest closer (candidates tree frame direction current) with
      | some item => (tree.setFocus item.1, true)
      | none => (tree, false) := by
  rw [focusDirectionAnswer, focused]
  dsimp only
  rw [bestLeaf_eq]
  cases kept : keptBest closer (candidates tree frame direction current) with
  | none => rfl
  | some item =>
      obtain ⟨leaf, beside, rfl⟩ := beside_of_best kept
      exact if_neg beside.other

/-- The tree of the answer is the one that the operations on tabs use. -/
theorem focusDirectionAnswer_tree (tree : SplitTree) (frame : Rect)
    (direction : PaneFocusDirection) :
    (focusDirectionAnswer tree frame direction).1 = focusDirection tree frame direction := by
  rw [focusDirectionAnswer, focusDirection, currentFrame]
  cases found : (tree.exportPanesWithFrames frame).find? (·.leafId = tree.focusedId) with
  | none => rfl
  | some pane =>
      have own : pane.leafId = tree.focusedId := by simpa using List.find?_some found
      simp only [Option.bind_some]
      cases pane.frame with
      | none => rfl
      | some current =>
          simp only [Option.map_some, own, bestLeaf]
          cases (tree.exportPanesWithFrames frame).foldl
              (bestPane direction tree.focusedId current) none with
          | none => rfl
          | some item =>
              simp only [Option.map_some, refocus]
              split <;> rfl

theorem closer_iff {held item : LeafId × ℚ × ℚ} : closer held item = true ↔
    item.2.1 < held.2.1 ∨ |item.2.1 - held.2.1| < epsilon ∧ item.2.2 < held.2.2 :=
  decide_eq_true_iff

theorem finite_beside (tree : SplitTree) (frame : Rect) (direction : PaneFocusDirection)
    (current : Rect) : {leaf | Beside tree frame direction current leaf}.Finite := by
  apply Set.Finite.subset (((tree.exportPanesWithFrames frame).filterMap fun pane =>
    pane.frame.map (pane.leafId, ·)).finite_toSet)
  rintro leaf ⟨⟨pane, exported, own, held⟩, -, -⟩
  refine List.mem_filterMap.mpr ⟨pane, exported, ?_⟩
  rw [held, Option.map_some, own]

/-- Among the overlapping panes on that side one has the smallest gap. -/
theorem exists_nearestAligned (present : ∃ leaf, Beside tree frame direction current leaf ∧
    Overlaps direction current leaf.2) :
    ∃ leaf, NearestAligned tree frame direction current leaf := by
  obtain ⟨leaf, ⟨beside, overlaps⟩, least⟩ := Set.exists_min_image
    {leaf | Beside tree frame direction current leaf ∧ Overlaps direction current leaf.2}
    (fun leaf => gap direction current leaf.2)
    ((finite_beside tree frame direction current).subset fun leaf held => held.1) present
  exact ⟨leaf, beside, overlaps, fun other held aligned => least other ⟨held, aligned⟩⟩

/-- The loop goes to an overlapping pane with the smallest gap, if no other is nearer. -/
theorem aligned_of_noneNearer (none : NoneNearer tree frame direction current)
    (present : ∃ leaf, Beside tree frame direction current leaf ∧
      Overlaps direction current leaf.2) :
    ∃ leaf, NearestAligned tree frame direction current leaf ∧
      keptBest closer (candidates tree frame direction current) =
        some (measure direction current leaf) := by
  -- every pane on that side is at least as far as the nearest overlapping one
  have far : ∀ leaf other, NearestAligned tree frame direction current leaf →
      Beside tree frame direction current other →
        gap direction current leaf.2 ≤ gap direction current other.2 := by
    intro leaf other nearest beside
    by_cases overlaps : Overlaps direction current other.2
    · exact nearest.nearest other beside overlaps
    · obtain ⟨aligned, held, own, order⟩ := none other beside overlaps
      have below := nearest.nearest aligned held own
      rcases order with nearer | ⟨same, -⟩
      · exact below.trans nearer.le
      · exact below.trans same.le
  obtain ⟨first, nearest⟩ := exists_nearestAligned present
  obtain ⟨best, -, kept, leaf, aligned, rfl⟩ := @keptBest_good _ closer
    (candidates tree frame direction current)
    (fun item => ∃ leaf, NearestAligned tree frame direction current leaf ∧
      item = measure direction current leaf)
    ⟨_, mem_candidates.mpr ⟨first, nearest.beside, rfl⟩, first, nearest, rfl⟩
    (by
      rintro held - item member ⟨leaf, aligned, rfl⟩ -
      obtain ⟨other, beside, rfl⟩ := mem_candidates.mp member
      rw [← Bool.not_eq_true, closer_iff, not_or, not_and, not_lt, not_lt]
      refine ⟨far leaf other aligned beside, fun _ => ?_⟩
      rw [measure, measure, offAxis_of_overlaps aligned.overlaps]
      exact offAxis_nonneg _ _ _)
    (by
      rintro held heldMember item - worse ⟨leaf, aligned, rfl⟩
      obtain ⟨other, beside, rfl⟩ := mem_candidates.mp heldMember
      rw [closer_iff]
      rcases (far leaf other aligned beside).lt_or_eq with nearer | same
      · exact .inl nearer
      · have apart : ¬ Overlaps direction current other.2 := fun overlaps =>
          worse ⟨other, ⟨beside, overlaps, fun third held own =>
            same ▸ aligned.nearest third held own⟩, rfl⟩
        obtain ⟨third, thirdBeside, thirdOverlaps, order⟩ := none other beside apart
        have least := aligned.nearest third thirdBeside thirdOverlaps
        rcases order with nearer | ⟨-, off⟩
        · exact absurd nearer (not_lt.mpr (same ▸ least))
        · refine .inr ⟨?_, ?_⟩
          · rw [measure, measure, same, sub_self, abs_zero]
            norm_num [epsilon]
          · rw [measure, measure, offAxis_of_overlaps aligned.overlaps]
            exact off)
  exact ⟨leaf, aligned, kept⟩

/-- Where gaps that differ differ enough to be told apart, the loop goes by the gap first. -/
theorem noneNearer_of_aligned (apart : GapsApart tree frame direction current)
    (own : Sized current)
    (sized : ∀ leaf, Beside tree frame direction current leaf → Sized leaf.2)
    (aligned : ∃ leaf, NearestAligned tree frame direction current leaf ∧
      keptBest closer (candidates tree frame direction current) =
        some (measure direction current leaf)) :
    NoneNearer tree frame direction current := by
  obtain ⟨leaf, nearest, kept⟩ := aligned
  have least := @keptBest_least _ closer (candidates tree frame direction current)
    (fun one two => one.2.1 < two.2.1 ∨ one.2.1 = two.2.1 ∧ one.2.2 ≤ two.2.2)
    (fun one => .inr ⟨rfl, le_refl _⟩)
    (by
      rintro one two three (first | ⟨first, low⟩) (next | ⟨next, high⟩)
      · exact .inl (first.trans next)
      · exact .inl (next ▸ first)
      · exact .inl (first ▸ next)
      · exact .inr ⟨first.trans next, low.trans high⟩)
    (by
      intro held heldMember item member
      obtain ⟨one, oneBeside, rfl⟩ := mem_candidates.mp heldMember
      obtain ⟨two, twoBeside, rfl⟩ := mem_candidates.mp member
      have told := apart two one twoBeside oneBeside
      split
      · rename_i won
        rcases closer_iff.mp won with nearer | ⟨close, off⟩
        · exact .inl nearer
        · exact .inr ⟨told.resolve_right (not_le.mpr close), off.le⟩
      · rename_i lost
        rw [closer_iff, not_or, not_and, not_lt] at lost
        rcases lost.1.lt_or_eq with nearer | same
        · exact .inl nearer
        · refine .inr ⟨same, not_lt.mp (lost.2 ?_)⟩
          rw [← same, sub_self, abs_zero]
          norm_num [epsilon])
    _ kept
  intro other beside off
  refine ⟨leaf, nearest.beside, nearest.overlaps, ?_⟩
  rcases least _ (mem_candidates.mpr ⟨other, beside, rfl⟩) with nearer | ⟨same, -⟩
  · exact .inl nearer
  · exact .inr ⟨same, offAxis_pos own (sized other beside) off⟩

/-- With unique ids a leaf id stands for one pane. -/
theorem beside_inj (distinct : tree.leafIds.Nodup) {one two : LeafId × Rect}
    (first : Beside tree frame direction current one)
    (second : Beside tree frame direction current two) (same : one.1 = two.1) : one = two := by
  obtain ⟨pane, exported, own, held⟩ := first.shown
  obtain ⟨other, alsoExported, otherOwn, otherHeld⟩ := second.shown
  have ids : (tree.exportPanesWithFrames frame).map ExportedPane.leafId = tree.leafIds :=
    map_leafId_exportPanesWithFrames tree frame
  obtain rfl : pane = other := by
    apply List.inj_on_of_nodup_map (ids ▸ distinct) exported alsoExported
    rw [own, otherOwn, same]
  rw [held] at otherHeld
  exact Prod.ext same (Option.some.inj otherHeld)

end Loop

/-- The focus goes to an overlapping pane with the smallest gap. -/
def GoesAligned (tree : SplitTree) (frame : Rect) (direction : PaneFocusDirection)
    (current : Rect) : Prop :=
  ∃ leaf, NearestAligned tree frame direction current leaf ∧
    focusDirectionAnswer tree frame direction = (tree.setFocus leaf.1, true)

/-- A directional focus answers false exactly where no pane lies on that side. It goes to an
overlapping pane with the smallest gap if no pane off the axis is as near; where leaf ids are
unique, sizes are not negative and gaps can be told apart, only then. -/
theorem focusDirection_aligned (tree : SplitTree) (frame : Rect) (direction : PaneFocusDirection)
    (current : Rect) (focused : currentFrame tree frame = some current) :
    ((focusDirectionAnswer tree frame direction).2 = false ↔
      ∀ leaf, ¬ Beside tree frame direction current leaf) ∧
    ((∃ leaf, Beside tree frame direction current leaf ∧ Overlaps direction current leaf.2) →
      (NoneNearer tree frame direction current → GoesAligned tree frame direction current) ∧
      (tree.leafIds.Nodup → GapsApart tree frame direction current → Sized current →
        (∀ leaf, Beside tree frame direction current leaf → Sized leaf.2) →
          GoesAligned tree frame direction current → NoneNearer tree frame direction current)) := by
  have answer := @focusDirectionAnswer_eq tree frame current direction focused
  constructor
  · rw [answer]
    cases kept : keptBest closer (candidates tree frame direction current) with
    | none =>
        refine iff_of_true rfl fun leaf beside => ?_
        have member := mem_candidates.mpr ⟨leaf, beside, rfl⟩
        rw [keptBest_eq_none_iff.mp kept] at member
        cases member
    | some item =>
        obtain ⟨leaf, beside, -⟩ := beside_of_best kept
        exact iff_of_false Bool.noConfusion fun none => none leaf beside
  · intro present
    constructor
    · intro none
      obtain ⟨leaf, aligned, kept⟩ := aligned_of_noneNearer none present
      exact ⟨leaf, aligned, by rw [answer, kept]; rfl⟩
    · rintro distinct apart own sized ⟨leaf, aligned, goes⟩
      refine noneNearer_of_aligned apart own sized ⟨leaf, aligned, ?_⟩
      rw [answer] at goes
      cases kept : keptBest closer (candidates tree frame direction current) with
      | none =>
          rw [kept] at goes
          exact absurd (congrArg Prod.snd goes) Bool.false_ne_true
      | some item =>
          obtain ⟨other, beside, rfl⟩ := beside_of_best kept
          rw [kept] at goes
          have same : other.1 = leaf.1 :=
            congrArg (fun moved : SplitTree × Bool => moved.1.focusedId) goes
          rw [beside_inj distinct beside aligned.beside same]

/-- Two rows of two panes; the divider of the lower row stands half a point further right. The
focus is on the right pane of the upper row. -/
def rows : SplitTree where
  root := some (.split .vertical (1 / 2)
    (.split .horizontal (1 / 2) (.leaf 0 ⟨1, live_one⟩) (.leaf 1 ⟨2, live_two⟩))
    (.split .horizontal (101 / 200) (.leaf 2 ⟨3, live_three⟩) (.leaf 3 ⟨4, live_four⟩)))
  nextId := 4
  focusedId := 1

def window : Rect := ⟨0, 0, 101, 81⟩

def upperRight : Rect := ⟨51, 0, 50, 40⟩

/-- Where the panes are shown. -/
def rowsFrames : List (LeafId × Rect) :=
  [(0, ⟨0, 0, 50, 40⟩), (1, upperRight), (2, ⟨0, 41, 101 / 2, 40⟩), (3, ⟨103 / 2, 41, 99 / 2, 40⟩)]

theorem beside_rows_iff {direction : PaneFocusDirection} {leaf : LeafId × Rect} :
    Beside rows window direction upperRight leaf ↔
      leaf ∈ rowsFrames ∧ leaf.1 ≠ 1 ∧ 0 ≤ gap direction upperRight leaf.2 := by
  have exported : (rows.exportPanesWithFrames window).map
      (fun pane => (pane.leafId, pane.frame)) =
        rowsFrames.map fun shown => (shown.1, some shown.2) := by
    decide +kernel
  constructor
  · rintro ⟨⟨pane, member, id, held⟩, other, side⟩
    have listed := List.mem_map_of_mem (f := fun pane => (pane.leafId, pane.frame)) member
    rw [exported, id, held] at listed
    obtain ⟨shown, inFrames, same⟩ := List.mem_map.mp listed
    obtain ⟨sameId, sameFrame⟩ := Prod.mk.inj same
    have whole : shown = leaf := Prod.ext sameId (Option.some.inj sameFrame)
    exact ⟨whole ▸ inFrames, other, side⟩
  · rintro ⟨inFrames, other, side⟩
    have listed := List.mem_map_of_mem (f := fun shown : LeafId × Rect => (shown.1, some shown.2))
      inFrames
    rw [← exported] at listed
    obtain ⟨pane, member, same⟩ := List.mem_map.mp listed
    exact ⟨⟨pane, member, (Prod.mk.inj same).1, (Prod.mk.inj same).2⟩, other, side⟩

/-- To the right there is no pane, and downwards the focus goes to the lower right one: the lower
left one is as near, but off the axis. -/
theorem focusDirection_aligned_rows :
    (focusDirectionAnswer rows window .right).2 = false ∧
      GoesAligned rows window .down upperRight := by
  have focused : currentFrame rows window = some upperRight := by decide +kernel
  obtain ⟨right, -⟩ := focusDirection_aligned rows window .right upperRight focused
  obtain ⟨-, down⟩ := focusDirection_aligned rows window .down upperRight focused
  have below : Beside rows window .down upperRight (3, ⟨103 / 2, 41, 99 / 2, 40⟩) :=
    beside_rows_iff.mpr ⟨by simp [rowsFrames], by decide, by decide +kernel⟩
  have overlaps : Overlaps .down upperRight ⟨103 / 2, 41, 99 / 2, 40⟩ := by
    unfold Overlaps
    decide +kernel
  refine ⟨right.mpr fun leaf beside => ?_, (down ⟨_, below, overlaps⟩).1 fun other beside off => ?_⟩
  · obtain ⟨inFrames, -, side⟩ := beside_rows_iff.mp beside
    simp only [rowsFrames, List.mem_cons, List.not_mem_nil, or_false] at inFrames
    rcases inFrames with rfl | rfl | rfl | rfl <;> exact absurd side (by decide +kernel)
  · obtain ⟨inFrames, notFocused, side⟩ := beside_rows_iff.mp beside
    refine ⟨_, below, overlaps, .inr ?_⟩
    simp only [rowsFrames, List.mem_cons, List.not_mem_nil, or_false] at inFrames
    rcases inFrames with rfl | rfl | rfl | rfl
    · exact absurd side (by decide +kernel)
    · exact absurd rfl notFocused
    · decide +kernel
    · exact absurd overlaps off

/-- To the left of the upper right pane is the upper left one, but the focus goes to the lower left
one, which comes half a point nearer. -/
theorem focusDirection_goes_off_axis :
    ¬ ∀ (tree : SplitTree) (frame : Rect) (direction : PaneFocusDirection) (current : Rect),
      currentFrame tree frame = some current →
        ((∃ leaf, Beside tree frame direction current leaf ∧ Overlaps direction current leaf.2) →
          GoesAligned tree frame direction current) ∧
        ((focusDirectionAnswer tree frame direction).2 = false ↔
          ∀ leaf, ¬ Beside tree frame direction current leaf) := by
  intro all
  have answer : focusDirectionAnswer rows window .left = (rows.setFocus 2, true) := by
    decide +kernel
  have beside : Beside rows window .left upperRight (0, ⟨0, 0, 50, 40⟩) :=
    beside_rows_iff.mpr ⟨List.mem_cons_self, by decide, by decide +kernel⟩
  obtain ⟨leaf, aligned, goes⟩ := (all rows window .left upperRight (by decide +kernel)).1
    ⟨_, beside, by unfold Overlaps; decide +kernel⟩
  rw [answer] at goes
  have own : 2 = leaf.1 := congrArg (fun moved : SplitTree × Bool => moved.1.focusedId) goes
  obtain ⟨inFrames, -, -⟩ := beside_rows_iff.mp aligned.beside
  have overlaps := aligned.overlaps
  simp only [rowsFrames, List.mem_cons, List.not_mem_nil, or_false] at inFrames
  rcases inFrames with rfl | rfl | rfl | rfl
  · cases own
  · cases own
  · unfold Overlaps at overlaps
    exact absurd overlaps (by decide +kernel)
  · cases own

end Boo.Runtime.DirectionalFocus
