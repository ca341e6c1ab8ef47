/- module: Boo/Lib/Spans
   digest: Spans of a line over an ordered field, cut in two with a gap in between. -/

import Mathlib.Algebra.Order.Field.Basic
import Mathlib.Tactic.Linarith
import Mathlib.Tactic.Ring

set_option autoImplicit false
set_option relaxedAutoImplicit false

namespace Boo.Lib.Spans

variable {K : Type} [Field K]

@[ext] structure Span (K : Type) where
  start : K
  extent : K
  deriving DecidableEq

namespace Span

def stop (span : Span K) : K := span.start + span.extent

def middle (span : Span K) : K := span.start + span.extent / 2

/-- The part before the gap: a ratio of what the gap leaves. -/
def lower (span : Span K) (gap ratio : K) : Span K := ⟨span.start, (span.extent - gap) * ratio⟩

/-- The gap. -/
def strip (span : Span K) (gap ratio : K) : Span K := ⟨(span.lower gap ratio).stop, gap⟩

/-- The part after the gap: the rest. -/
def upper (span : Span K) (gap ratio : K) : Span K :=
  ⟨(span.strip gap ratio).stop, span.extent - gap - (span.extent - gap) * ratio⟩

theorem extent_cut (span : Span K) (gap ratio : K) :
    (span.lower gap ratio).extent + gap + (span.upper gap ratio).extent = span.extent := by
  simp only [lower, upper]
  ring

theorem stop_upper (span : Span K) (gap ratio : K) : (span.upper gap ratio).stop = span.stop := by
  simp only [stop, lower, strip, upper]
  ring

/-- Without a gap the parts share the extent as the ratio says. -/
theorem extent_lower_zero (span : Span K) (ratio : K) :
    (span.lower 0 ratio).extent = span.extent * ratio := by
  rw [lower, sub_zero]

theorem extent_upper_zero (span : Span K) (ratio : K) :
    (span.upper 0 ratio).extent = span.extent * (1 - ratio) := by
  rw [upper, sub_zero]
  ring

variable [LinearOrder K]

/-- The point is on the span, its ends included. -/
def Covers (span : Span K) (point : K) : Prop := span.start ≤ point ∧ point ≤ span.stop

/-- The point is on the span, its ends left out. -/
def Inside (span : Span K) (point : K) : Prop := span.start < point ∧ point < span.stop

instance (span : Span K) (point : K) : Decidable (span.Covers point) :=
  inferInstanceAs (Decidable (_ ∧ _))

instance (span : Span K) (point : K) : Decidable (span.Inside point) :=
  inferInstanceAs (Decidable (_ ∧ _))

theorem Inside.covers {span : Span K} {point : K} (inside : span.Inside point) :
    span.Covers point := ⟨inside.1.le, inside.2.le⟩

/-- A point in the gap is on neither part. -/
theorem not_covers_of_strip {span : Span K} {gap ratio point : K}
    (inside : (span.strip gap ratio).Inside point) :
    ¬ (span.lower gap ratio).Covers point ∧ ¬ (span.upper gap ratio).Covers point :=
  ⟨fun covers => absurd inside.1 (not_lt.mpr covers.2),
    fun covers => absurd inside.2 (not_lt.mpr covers.1)⟩

section Cuts

variable [IsStrictOrderedRing K] {span : Span K} {gap ratio point : K}

theorem covers_of_lower (room : 0 ≤ gap) (rest : 0 ≤ (span.upper gap ratio).extent)
    (covers : (span.lower gap ratio).Covers point) : span.Covers point := by
  have sum := span.extent_cut gap ratio
  refine ⟨covers.1, covers.2.trans ?_⟩
  show span.start + _ ≤ span.start + _
  linarith

theorem covers_of_upper (room : 0 ≤ gap) (rest : 0 ≤ (span.lower gap ratio).extent)
    (covers : (span.upper gap ratio).Covers point) : span.Covers point := by
  refine ⟨le_trans ?_ covers.1, covers.2.trans (span.stop_upper gap ratio).le⟩
  show span.start ≤ span.start + _ + gap
  linarith

theorem covers_of_strip (before : 0 ≤ (span.lower gap ratio).extent)
    (rest : 0 ≤ (span.upper gap ratio).extent) (covers : (span.strip gap ratio).Covers point) :
    span.Covers point := by
  constructor
  · refine le_trans ?_ covers.1
    show span.start ≤ span.start + _
    linarith
  · refine covers.2.trans ?_
    rw [← span.stop_upper gap ratio]
    show _ ≤ (span.strip gap ratio).stop + _
    linarith

/-- With a gap between them the parts have no point in common. -/
theorem apart_of_cut (room : 0 < gap) (covers : (span.lower gap ratio).Covers point) :
    ¬ (span.upper gap ratio).Covers point := by
  intro other
  have before : point ≤ (span.lower gap ratio).stop := covers.2
  have behind : (span.lower gap ratio).stop + gap ≤ point := other.1
  linarith

end Cuts

end Span

end Boo.Lib.Spans
