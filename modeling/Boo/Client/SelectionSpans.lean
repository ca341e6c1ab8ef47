/- module: Boo/Client/SelectionSpans
   digest: The columns of a row that selection rectangles cover, merged into spans. -/

import Boo.Lib.ColumnSpans
import Mathlib.Data.List.Sort

set_option autoImplicit false
set_option relaxedAutoImplicit false

namespace Boo.Client.SelectionSpans

open Boo.Lib.ColumnSpans

structure SelectionColSpan where
  startCol : Nat
  endCol : Nat
  deriving DecidableEq

/-- The columns from `floor` to `ceil` that a rectangle reaches, cut at the width of the row. -/
def rectSpan (cols : Nat) (reach : Nat × Nat) : Option SelectionColSpan :=
  let startCol := min reach.1 cols
  let endCol := min reach.2 cols
  if startCol < endCol then some ⟨startCol, endCol⟩ else none

/-- A span that starts within the last one widens it. -/
def pushSpan (merged : List SelectionColSpan) (span : SelectionColSpan) : List SelectionColSpan :=
  match merged.getLast? with
  | none => merged ++ [span]
  | some previous =>
      if span.startCol ≤ previous.endCol then
        merged.dropLast ++ [{ previous with endCol := max previous.endCol span.endCol }]
      else merged ++ [span]

def mergeSpans (sorted : List SelectionColSpan) : List SelectionColSpan :=
  sorted.foldl pushSpan []

def byStart (span other : SelectionColSpan) : Bool := span.startCol ≤ other.startCol

/-- From the columns of each rectangle that intersects the row. The sort of the source is not
stable; `mergeSpans_of_perm` says that this does not matter. -/
def selectionColSpansForRow (reaches : List (Nat × Nat)) (cols : Nat) : List SelectionColSpan :=
  mergeSpans ((reaches.filterMap (rectSpan cols)).mergeSort byStart)

def cellIsSelectedInSpans (spans : List SelectionColSpan) (col : Nat) (displayWidth : UInt8) :
    Bool :=
  spans.any fun span => col < span.endCol && span.startCol < col + max displayWidth.toNat 1

namespace SelectionColSpan

def Covers (span : SelectionColSpan) (col : Nat) : Prop := span.startCol ≤ col ∧ col < span.endCol

/-- The same columns, in one color. -/
def columns (span : SelectionColSpan) : ColumnSpan Unit :=
  ⟨span.startCol, span.endCol - span.startCol, ()⟩

end SelectionColSpan

section Merging

/-- Nothing is empty and a gap stands between neighbours. -/
structure Merged (spans : List SelectionColSpan) : Prop where
  positive : ∀ span ∈ spans, span.startCol < span.endCol
  apart : spans.IsChain fun span later => span.endCol < later.startCol

theorem Merged.canonical {spans : List SelectionColSpan} (merged : Merged spans) :
    Canonical (spans.map SelectionColSpan.columns) where
  positive := by
    intro span member
    obtain ⟨other, held, rfl⟩ := List.mem_map.mp member
    exact Nat.sub_pos_of_lt (merged.positive other held)
  apart := by
    rw [List.isChain_map]
    refine merged.apart.imp_of_mem_imp fun span later held _ gap => ?_
    have positive := merged.positive span held
    simp only [ColumnSpan.stop, SelectionColSpan.columns]
    omega

theorem colorAt_columns {spans : List SelectionColSpan}
    (positive : ∀ span ∈ spans, span.startCol < span.endCol) (col : Nat) :
    (colorAt (spans.map SelectionColSpan.columns) col).isSome ↔ ∃ span ∈ spans, span.Covers col := by
  rw [← not_iff_not, Bool.not_eq_true, Option.isSome_eq_false_iff, Option.isNone_iff_eq_none,
    colorAt_eq_none_iff]
  push Not
  constructor
  · intro none span member covers
    refine none span.columns (List.mem_map_of_mem member) ?_
    simp only [ColumnSpan.Covers, ColumnSpan.stop, SelectionColSpan.columns]
    have := positive span member
    have := covers.1
    have := covers.2
    omega
  · intro none column member covers
    obtain ⟨span, held, rfl⟩ := List.mem_map.mp member
    refine none span held ?_
    simp only [ColumnSpan.Covers, ColumnSpan.stop, SelectionColSpan.columns] at covers
    have := positive span held
    exact ⟨covers.1, by omega⟩

/-- The spans are read back from their columns. -/
theorem map_columns {spans : List SelectionColSpan}
    (positive : ∀ span ∈ spans, span.startCol < span.endCol) :
    (spans.map SelectionColSpan.columns).map (fun column => ⟨column.startCol, column.stop⟩) =
      spans := by
  rw [List.map_map]
  refine (List.map_congr_left fun span member => ?_).trans (List.map_id spans)
  have wide := Nat.le_of_lt (positive span member)
  simp [SelectionColSpan.columns, ColumnSpan.stop, Nat.add_sub_cancel' wide]

/-- Merged spans are determined by the columns that they cover. -/
theorem Merged.unique {spans others : List SelectionColSpan} (merged : Merged spans)
    (otherMerged : Merged others)
    (same : ∀ col, (∃ span ∈ spans, span.Covers col) ↔ ∃ span ∈ others, span.Covers col) :
    spans = others := by
  have columns := merged.canonical.unique otherMerged.canonical fun col => by
    have both := (colorAt_columns merged.positive col).trans
      ((same col).trans (colorAt_columns otherMerged.positive col).symm)
    generalize colorAt (spans.map SelectionColSpan.columns) col = left at both ⊢
    generalize colorAt (others.map SelectionColSpan.columns) col = right at both ⊢
    cases left <;> cases right <;> simp_all
  rw [← map_columns merged.positive, columns, map_columns otherMerged.positive]

/-- The loop over sorted spans so far. -/
structure MergeLoop (spans seen : List SelectionColSpan) : Prop where
  merged : Merged spans
  covers : ∀ col, (∃ span ∈ spans, span.Covers col) ↔ ∃ span ∈ seen, span.Covers col
  starts : ∀ span ∈ spans, ∃ other ∈ seen, span.startCol = other.startCol

theorem MergeLoop.push {merged seen : List SelectionColSpan} {span : SelectionColSpan}
    (loop : MergeLoop merged seen) (wide : span.startCol < span.endCol)
    (sorted : ∀ other ∈ seen, other.startCol ≤ span.startCol) :
    MergeLoop (pushSpan merged span) (seen ++ [span]) := by
  obtain ⟨⟨positive, apart⟩, covers, starts⟩ := loop
  have added (gap : ∀ last ∈ merged.getLast?, last.endCol < span.startCol) :
      MergeLoop (merged ++ [span]) (seen ++ [span]) := by
    refine ⟨⟨fun other member => ?_, ?_⟩, fun col => ?_, fun other member => ?_⟩
    · rcases List.mem_append.mp member with early | late
      · exact positive other early
      · rw [List.mem_singleton.mp late]
        exact wide
    · refine List.isChain_append.mpr ⟨apart, .singleton _, fun last isLast first isFirst => ?_⟩
      simp only [List.head?_cons, Option.mem_some_iff] at isFirst
      exact isFirst ▸ gap last isLast
    · simp only [List.mem_append, or_and_right, exists_or, covers]
    · rcases List.mem_append.mp member with early | late
      · obtain ⟨held, among, same⟩ := starts other early
        exact ⟨held, List.mem_append_left _ among, same⟩
      · rw [List.mem_singleton.mp late]
        exact ⟨span, by simp, rfl⟩
  rw [pushSpan]
  rcases List.eq_nil_or_concat merged with rfl | ⟨before, previous, rfl⟩
  · exact added (by simp)
  · rw [List.concat_eq_append] at positive apart covers starts added ⊢
    rw [List.getLast?_concat]
    dsimp only
    split
    · rename_i within
      rw [List.dropLast_concat]
      obtain ⟨early, _, joint⟩ := List.isChain_append.mp apart
      have before_wide := positive previous (by simp)
      obtain ⟨held, among, same⟩ := starts previous (by simp)
      have ordered : previous.startCol ≤ span.startCol := same ▸ sorted held among
      refine ⟨⟨fun other member => ?_, ?_⟩, fun col => ?_, fun other member => ?_⟩
      · rcases List.mem_append.mp member with early | late
        · exact positive other (List.mem_append_left _ early)
        · rw [List.mem_singleton.mp late]
          exact Nat.lt_of_lt_of_le before_wide (Nat.le_max_left _ _)
      · refine List.isChain_append.mpr ⟨early, .singleton _, fun last isLast first isFirst => ?_⟩
        simp only [List.head?_cons, Option.mem_some_iff] at isFirst
        subst isFirst
        exact joint last isLast previous (by simp)
      · -- within reach of each other, the two cover what the wider one covers
        have union : SelectionColSpan.Covers
            { previous with endCol := max previous.endCol span.endCol } col ↔
              previous.Covers col ∨ span.Covers col := by
          simp only [SelectionColSpan.Covers]
          omega
        have old := covers col
        simp only [List.mem_append, List.mem_singleton, or_and_right, exists_or,
          exists_eq_left] at old ⊢
        rw [union, ← old, or_assoc]
      · rcases List.mem_append.mp member with early | late
        · obtain ⟨other, among, same⟩ := starts other (List.mem_append_left _ early)
          exact ⟨other, List.mem_append_left _ among, same⟩
        · rw [List.mem_singleton.mp late]
          exact ⟨held, List.mem_append_left _ among, same⟩
    · rename_i beyond
      refine added fun last isLast => ?_
      rw [List.getLast?_concat, Option.mem_some_iff] at isLast
      exact isLast ▸ Nat.lt_of_not_le beyond

theorem mergeSpans_loop {sorted : List SelectionColSpan}
    (wide : ∀ span ∈ sorted, span.startCol < span.endCol)
    (ordered : sorted.Pairwise fun span other => span.startCol ≤ other.startCol) :
    MergeLoop (mergeSpans sorted) sorted := by
  rw [mergeSpans]
  induction sorted using List.reverseRecOn with
  | nil => exact ⟨⟨by simp, .nil⟩, by simp, by simp⟩
  | append_singleton before span ih =>
      rw [List.foldl_append, List.foldl_cons, List.foldl_nil]
      obtain ⟨early, _, joint⟩ := List.pairwise_append.mp ordered
      exact (ih (fun other member => wide other (List.mem_append_left _ member)) early).push
        (wide span (by simp)) fun other member => joint other member span (by simp)

/-- Whatever order the sort leaves equal starts in, the merged spans are the same. -/
theorem mergeSpans_of_perm {sorted other : List SelectionColSpan} (perm : sorted.Perm other)
    (wide : ∀ span ∈ sorted, span.startCol < span.endCol)
    (ordered : sorted.Pairwise fun span other => span.startCol ≤ other.startCol)
    (otherOrdered : other.Pairwise fun span other => span.startCol ≤ other.startCol) :
    mergeSpans sorted = mergeSpans other := by
  have left := mergeSpans_loop wide ordered
  have right := mergeSpans_loop (fun span member => wide span (perm.mem_iff.mpr member)) otherOrdered
  refine left.merged.unique right.merged fun col => ?_
  rw [left.covers, right.covers]
  simp only [perm.mem_iff]

end Merging

section Rows

variable {cols : Nat}

theorem rectSpan_eq_some {reach : Nat × Nat} {span : SelectionColSpan} :
    rectSpan cols reach = some span ↔
      span.startCol < span.endCol ∧ span.startCol = min reach.1 cols ∧
        span.endCol = min reach.2 cols := by
  obtain ⟨startCol, endCol⟩ := span
  simp only [rectSpan, Option.ite_none_right_eq_some, Option.some.injEq, SelectionColSpan.mk.injEq]
  constructor
  · rintro ⟨wide, rfl, rfl⟩
    exact ⟨wide, rfl, rfl⟩
  · rintro ⟨wide, rfl, rfl⟩
    exact ⟨wide, rfl, rfl⟩

theorem wide_of_mem {reaches : List (Nat × Nat)} :
    ∀ span ∈ reaches.filterMap (rectSpan cols), span.startCol < span.endCol := by
  intro span member
  obtain ⟨reach, _, made⟩ := List.mem_filterMap.mp member
  exact (rectSpan_eq_some.mp made).1

/-- A column is covered if it is on the row and some rectangle reaches it. -/
theorem covers_filterMap {reaches : List (Nat × Nat)} (col : Nat) :
    (∃ span ∈ reaches.filterMap (rectSpan cols), span.Covers col) ↔
      col < cols ∧ ∃ reach ∈ reaches, reach.1 ≤ col ∧ col < reach.2 := by
  constructor
  · rintro ⟨span, member, starts, ends⟩
    obtain ⟨reach, held, made⟩ := List.mem_filterMap.mp member
    obtain ⟨_, startCol, endCol⟩ := rectSpan_eq_some.mp made
    rw [startCol] at starts
    rw [endCol] at ends
    exact ⟨by omega, reach, held, by omega, by omega⟩
  · rintro ⟨inside, reach, held, starts, ends⟩
    have wide : min reach.1 cols < min reach.2 cols := by omega
    refine ⟨⟨min reach.1 cols, min reach.2 cols⟩, List.mem_filterMap.mpr ⟨reach, held, ?_⟩, ?_⟩
    · exact rectSpan_eq_some.mpr ⟨wide, rfl, rfl⟩
    · exact ⟨by dsimp only; omega, by dsimp only; omega⟩

theorem pairwise_byStart (spans : List SelectionColSpan) :
    (spans.mergeSort byStart).Pairwise fun span other => span.startCol ≤ other.startCol := by
  have sorted := @List.pairwise_mergeSort _ byStart
    (by simp only [byStart, decide_eq_true_eq]; omega)
    (by simp only [byStart, Bool.or_eq_true, decide_eq_true_eq]; omega) spans
  simpa only [byStart, decide_eq_true_eq] using sorted

/-- A cell takes at least one column. -/
theorem cellIsSelectedInSpans_iff {spans : List SelectionColSpan}
    (wide : ∀ span ∈ spans, span.startCol < span.endCol) (col : Nat) (displayWidth : UInt8) :
    cellIsSelectedInSpans spans col displayWidth = true ↔
      ∃ taken, col ≤ taken ∧ taken < col + max displayWidth.toNat 1 ∧
        ∃ span ∈ spans, span.Covers taken := by
  simp only [cellIsSelectedInSpans, List.any_eq_true, Bool.and_eq_true, decide_eq_true_eq]
  constructor
  · rintro ⟨span, member, before, after⟩
    have positive := wide span member
    have least : 1 ≤ max displayWidth.toNat 1 := le_max_right _ _
    refine ⟨max col span.startCol, le_max_left _ _, max_lt (by omega) after, span, member, ?_⟩
    exact ⟨le_max_right _ _, max_lt before positive⟩
  · rintro ⟨taken, from_col, within, span, member, starts, ends⟩
    exact ⟨span, member, by omega, by omega⟩

end Rows

/-- However the sort orders rectangles that start together, the spans of a row stand apart, end on
the row, and select the cells that some rectangle reaches in one of their columns. -/
theorem selectionColSpansForRow_cells (reaches : List (Nat × Nat)) (cols : Nat)
    (sorted : List SelectionColSpan) (perm : sorted.Perm (reaches.filterMap (rectSpan cols)))
    (ordered : sorted.Pairwise fun span other => span.startCol ≤ other.startCol) :
    mergeSpans sorted = selectionColSpansForRow reaches cols ∧
    Merged (mergeSpans sorted) ∧
    (∀ col displayWidth, cellIsSelectedInSpans (mergeSpans sorted) col displayWidth = true ↔
      ∃ taken, col ≤ taken ∧ taken < col + max displayWidth.toNat 1 ∧ taken < cols ∧
        ∃ reach ∈ reaches, reach.1 ≤ taken ∧ taken < reach.2) := by
  have wide : ∀ span ∈ sorted, span.startCol < span.endCol := fun span member =>
    wide_of_mem span (perm.mem_iff.mp member)
  have loop := mergeSpans_loop wide ordered
  refine ⟨?_, loop.merged, fun col displayWidth => ?_⟩
  · refine mergeSpans_of_perm (perm.trans (List.mergeSort_perm _ _).symm) wide ordered ?_
    exact pairwise_byStart _
  · rw [cellIsSelectedInSpans_iff loop.merged.positive]
    refine exists_congr fun taken => and_congr_right fun _ => and_congr_right fun _ => ?_
    rw [loop.covers, ← covers_filterMap]
    simp only [perm.mem_iff]

/-- Two rectangles that touch make one span, and the wide cell before them is selected too. -/
theorem selectionColSpansForRow_cells_touching :
    mergeSpans [⟨2, 4⟩, ⟨4, 6⟩] = selectionColSpansForRow [(4, 9), (2, 4)] 6 ∧
    Merged (mergeSpans [⟨2, 4⟩, ⟨4, 6⟩]) ∧
    cellIsSelectedInSpans (mergeSpans [⟨2, 4⟩, ⟨4, 6⟩]) 1 2 = true := by
  have cells := selectionColSpansForRow_cells [(4, 9), (2, 4)] 6 [⟨2, 4⟩, ⟨4, 6⟩] (by decide)
    (by decide)
  refine ⟨cells.1, cells.2.1, (cells.2.2 1 2).mpr ⟨2, by decide, by decide, by decide, ?_⟩⟩
  exact ⟨(2, 4), by decide, by decide, by decide⟩

end Boo.Client.SelectionSpans
