/- module: Boo/Lib/ColumnSpans
   digest: Coloured spans of columns, built by one loop over the columns; canonical spans. -/

import Mathlib.Data.List.Chain

set_option autoImplicit false
set_option relaxedAutoImplicit false

namespace Boo.Lib.ColumnSpans

variable {C : Type}

structure ColumnSpan (C : Type) where
  startCol : Nat
  widthCols : Nat
  color : C
  deriving DecidableEq

namespace ColumnSpan

def stop (span : ColumnSpan C) : Nat := span.startCol + span.widthCols

def Covers (span : ColumnSpan C) (col : Nat) : Prop := span.startCol ≤ col ∧ col < span.stop

instance (span : ColumnSpan C) (col : Nat) : Decidable (span.Covers col) :=
  inferInstanceAs (Decidable (_ ∧ _))

def widen (span : ColumnSpan C) (width : Nat) : ColumnSpan C :=
  { span with widthCols := span.widthCols + width }

end ColumnSpan

/-- The colour of a column once the spans are painted in order. -/
def colorAt (spans : List (ColumnSpan C)) (col : Nat) : Option C :=
  (spans.reverse.find? fun span => span.Covers col).map ColumnSpan.color

/-- Nothing is empty, the spans stand in order, and neighbours that touch differ in colour. -/
structure Canonical (spans : List (ColumnSpan C)) : Prop where
  positive : ∀ span ∈ spans, 0 < span.widthCols
  apart : spans.IsChain fun span later =>
    span.stop ≤ later.startCol ∧ (span.stop = later.startCol → span.color ≠ later.color)

section Painting

theorem colorAt_append (spans others : List (ColumnSpan C)) (col : Nat) :
    colorAt (spans ++ others) col = (colorAt others col).or (colorAt spans col) := by
  simp only [colorAt, List.reverse_append, List.find?_append, Option.map_or]

theorem colorAt_singleton (span : ColumnSpan C) (col : Nat) :
    colorAt [span] col = if span.Covers col then some span.color else none := by
  by_cases covers : span.Covers col <;> simp [colorAt, covers]

theorem colorAt_eq_none_iff {spans : List (ColumnSpan C)} {col : Nat} :
    colorAt spans col = none ↔ ∀ span ∈ spans, ¬ span.Covers col := by
  simp [colorAt]

/-- A span that is widened by the columns right after it paints what both paint. -/
theorem colorAt_widen {span : ColumnSpan C} {col width : Nat} (touches : span.stop = col)
    (other : Nat) :
    colorAt [span.widen width] other = colorAt [span, ⟨col, width, span.color⟩] other := by
  have both : colorAt [span, ⟨col, width, span.color⟩] other =
      (colorAt [⟨col, width, span.color⟩] other).or (colorAt [span] other) :=
    colorAt_append [span] [⟨col, width, span.color⟩] other
  have covers : (span.widen width).Covers other ↔
      (⟨col, width, span.color⟩ : ColumnSpan C).Covers other ∨ span.Covers other := by
    simp only [ColumnSpan.stop, ColumnSpan.widen, ColumnSpan.Covers] at touches ⊢
    omega
  rw [both, colorAt_singleton, colorAt_singleton, colorAt_singleton]
  by_cases here : span.Covers other
  · rw [if_pos (covers.mpr (.inr here)), if_pos here]
    split <;> rfl
  · rw [if_neg here, Option.or_none]
    by_cases there : (⟨col, width, span.color⟩ : ColumnSpan C).Covers other
    · rw [if_pos (covers.mpr (.inl there)), if_pos there]
      rfl
    · rw [if_neg there, if_neg]
      intro either
      exact (covers.mp either).elim there here

end Painting

section Growing

theorem canonical_nil : Canonical ([] : List (ColumnSpan C)) where
  positive := by simp
  apart := .nil

theorem Canonical.concat {spans : List (ColumnSpan C)} {span : ColumnSpan C}
    (canonical : Canonical spans) (wide : 0 < span.widthCols)
    (apart : ∀ last ∈ spans.getLast?,
      last.stop ≤ span.startCol ∧ (last.stop = span.startCol → last.color ≠ span.color)) :
    Canonical (spans ++ [span]) where
  positive other member := by
    rcases List.mem_append.mp member with early | late
    · exact canonical.positive other early
    · rw [List.mem_singleton.mp late]
      exact wide
  apart := by
    refine List.isChain_append.mpr ⟨canonical.apart, .singleton _, fun last isLast first isFirst => ?_⟩
    simp only [List.head?_cons, Option.mem_some_iff] at isFirst
    exact isFirst ▸ apart last isLast

theorem Canonical.widen_last {spans : List (ColumnSpan C)} {span : ColumnSpan C}
    (canonical : Canonical (spans ++ [span])) (width : Nat) :
    Canonical (spans ++ [span.widen width]) := by
  obtain ⟨early, _, joint⟩ := List.isChain_append.mp canonical.apart
  refine Canonical.concat ⟨fun other member => ?_, early⟩ ?_ fun last isLast => ?_
  · exact canonical.positive other (List.mem_append_left _ member)
  · have wide := canonical.positive span (List.mem_append_right _ (List.mem_singleton_self span))
    exact Nat.lt_of_lt_of_le wide (Nat.le_add_right _ _)
  · exact joint last isLast span (by simp)

end Growing

section Uniqueness

variable {span : ColumnSpan C} {rest : List (ColumnSpan C)}

theorem Canonical.tail (canonical : Canonical (span :: rest)) : Canonical rest where
  positive later member := canonical.positive later (List.mem_cons_of_mem _ member)
  apart := canonical.apart.of_cons

theorem Canonical.stop_le (canonical : Canonical (span :: rest)) :
    ∀ later ∈ rest, span.stop ≤ later.startCol := by
  induction rest generalizing span with
  | nil => simp
  | cons next rest ih =>
      intro later member
      have step := (canonical.apart.rel).1
      rcases List.mem_cons.mp member with rfl | member
      · exact step
      · have further := ih canonical.tail later member
        exact step.trans ((Nat.le_add_right _ _).trans further)

/-- In canonical spans the first one decides on its own columns. -/
theorem Canonical.colorAt_cons (canonical : Canonical (span :: rest)) (col : Nat) :
    colorAt (span :: rest) col = if span.Covers col then some span.color else colorAt rest col := by
  have split : colorAt (span :: rest) col = (colorAt rest col).or (colorAt [span] col) :=
    colorAt_append [span] rest col
  rw [split, colorAt_singleton]
  by_cases covers : span.Covers col
  · have none : colorAt rest col = none := by
      refine colorAt_eq_none_iff.mpr fun later member inside => ?_
      exact absurd covers.2 (Nat.not_lt.mpr ((canonical.stop_le later member).trans inside.1))
    rw [none, if_pos covers, Option.none_or]
  · rw [if_neg covers, if_neg covers, Option.or_none]

theorem Canonical.colorAt_before (canonical : Canonical (span :: rest)) {col : Nat}
    (before : col < span.startCol) : colorAt (span :: rest) col = none := by
  refine colorAt_eq_none_iff.mpr fun later member inside => ?_
  rcases List.mem_cons.mp member with rfl | member
  · exact absurd inside.1 (Nat.not_le.mpr before)
  · have after := canonical.stop_le later member
    have wide : span.startCol ≤ span.stop := Nat.le_add_right _ _
    have inside := inside.1
    omega

theorem Canonical.colorAt_start (canonical : Canonical (span :: rest)) :
    colorAt (span :: rest) span.startCol = some span.color := by
  have wide := canonical.positive span List.mem_cons_self
  have covers : span.Covers span.startCol :=
    ⟨Nat.le_refl _, Nat.lt_add_of_pos_right wide⟩
  rw [canonical.colorAt_cons, if_pos covers]

/-- Right after the first span its colour is not painted on. -/
theorem Canonical.colorAt_stop (canonical : Canonical (span :: rest)) :
    colorAt (span :: rest) span.stop ≠ some span.color := by
  rw [canonical.colorAt_cons, if_neg fun covers => Nat.lt_irrefl _ covers.2]
  cases rest with
  | nil => simp [colorAt]
  | cons next rest =>
      obtain ⟨ordered, differs⟩ := canonical.apart.rel
      rcases Nat.eq_or_lt_of_le ordered with touch | gap
      · rw [touch, canonical.tail.colorAt_start]
        intro same
        exact differs touch (Option.some.inj same).symm
      · rw [canonical.tail.colorAt_before gap]
        simp

/-- Two first spans of canonical lists that paint the same: none starts before the other, and
none is shorter. -/
private theorem start_le {other : ColumnSpan C} {others : List (ColumnSpan C)}
    (left : Canonical (span :: rest)) (right : Canonical (other :: others))
    (same : ∀ col, colorAt (span :: rest) col = colorAt (other :: others) col) :
    span.startCol ≤ other.startCol := by
  by_contra late
  have painted := right.colorAt_start
  rw [← same, left.colorAt_before (Nat.lt_of_not_le late)] at painted
  cases painted

private theorem stop_le_stop {other : ColumnSpan C} {others : List (ColumnSpan C)}
    (left : Canonical (span :: rest)) (right : Canonical (other :: others))
    (same : ∀ col, colorAt (span :: rest) col = colorAt (other :: others) col)
    (start : span.startCol = other.startCol) (color : span.color = other.color) :
    other.stop ≤ span.stop := by
  by_contra shorter
  have wide : span.startCol ≤ span.stop := Nat.le_add_right _ _
  have covers : other.Covers span.stop := ⟨start ▸ wide, Nat.lt_of_not_le shorter⟩
  refine left.colorAt_stop ?_
  rw [same, right.colorAt_cons, if_pos covers, color]

theorem Canonical.unique {spans others : List (ColumnSpan C)} (left : Canonical spans)
    (right : Canonical others) (same : ∀ col, colorAt spans col = colorAt others col) :
    spans = others := by
  induction spans generalizing others with
  | nil =>
      cases others with
      | nil => rfl
      | cons other others =>
          have painted := right.colorAt_start
          rw [← same] at painted
          cases painted
  | cons span rest ih =>
      cases others with
      | nil =>
          have painted := left.colorAt_start
          rw [same] at painted
          cases painted
      | cons other others =>
          have start : span.startCol = other.startCol :=
            Nat.le_antisymm (start_le left right same)
              (start_le right left fun col => (same col).symm)
          have color : span.color = other.color := by
            have painted := left.colorAt_start
            rw [same, start, right.colorAt_start] at painted
            exact (Option.some.inj painted).symm
          have stop : span.stop = other.stop :=
            Nat.le_antisymm
              (stop_le_stop right left (fun col => (same col).symm) start.symm color.symm)
              (stop_le_stop left right same start color)
          have whole : span = other := by
            have width : span.widthCols = other.widthCols := by
              simp only [ColumnSpan.stop] at stop
              omega
            cases span
            cases other
            simp_all
          subst whole
          rw [ih left.tail right.tail]
          intro col
          have here := same col
          rw [left.colorAt_cons, right.colorAt_cons] at here
          by_cases covers : span.Covers col
          · have past : ∀ later : List (ColumnSpan C), Canonical (span :: later) →
                colorAt later col = none := by
              intro later canonical
              refine colorAt_eq_none_iff.mpr fun after member inside => ?_
              exact absurd covers.2
                (Nat.not_lt.mpr ((canonical.stop_le after member).trans inside.1))
            rw [past rest left, past others right]
          · rwa [if_neg covers, if_neg covers] at here

end Uniqueness

end Boo.Lib.ColumnSpans
