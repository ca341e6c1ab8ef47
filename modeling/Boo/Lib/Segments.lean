/- module: Boo/Lib/Segments
   digest: Folding a stream segment by segment, where a barrier element flushes what is held. -/

import Mathlib.Data.List.Basic

set_option autoImplicit false
set_option relaxedAutoImplicit false

namespace Boo.Lib.Segments

section Drain

variable {M H V : Type} (barrier : M → Bool) (absorb : H → M → H) (flush : H → List V)

/-- Absorb elements into the held value; a barrier flushes it and starts over from `fresh`. -/
def drain (fresh : H) : H → List M → List V
  | held, [] => flush held
  | held, element :: stream =>
      if barrier element then flush held ++ drain fresh fresh stream
      else drain fresh (absorb held element) stream

private theorem drain_modifyHead (fresh held : H) (stream : List M) :
    drain barrier absorb flush fresh held stream =
      match stream.splitOnP barrier with
      | [] => []
      | segment :: segments => flush (segment.foldl absorb held) ++
          segments.flatMap fun segment => flush (segment.foldl absorb fresh) := by
  induction stream generalizing held with
  | nil => simp [drain]
  | cons element stream ih =>
      rw [drain, List.splitOnP_cons_eq_if_modifyHead]
      have later := ih (absorb held element)
      have next := ih fresh
      cases parts : stream.splitOnP barrier with
      | nil => exact absurd parts (List.splitOnP_ne_nil barrier stream)
      | cons segment segments =>
          rw [parts] at later next
          by_cases stops : barrier element = true
          · rw [if_pos stops, if_pos stops, next]
            simp
          · rw [if_neg stops, if_neg stops, later]
            rfl

/-- Draining a stream flushes each of its segments once. -/
theorem drain_eq_flatMap (fresh : H) (stream : List M) :
    drain barrier absorb flush fresh fresh stream =
      (stream.splitOnP barrier).flatMap fun segment => flush (segment.foldl absorb fresh) := by
  rw [drain_modifyHead]
  cases stream.splitOnP barrier <;> rfl

end Drain

/-- Keeping the newest selected value of a list keeps the last one. -/
theorem foldl_latest {M V : Type} (select : M → Option V) (held : Option V) (segment : List M) :
    segment.foldl (fun held element => (select element).or held) held =
      ((segment.filterMap select).getLast?).or held := by
  induction segment generalizing held with
  | nil => rfl
  | cons element segment ih =>
      rw [List.foldl_cons, ih, List.filterMap_cons]
      cases select element with
      | none => rfl
      | some value =>
          dsimp only
          rw [List.getLast?_cons]
          cases (segment.filterMap select).getLast? <;> rfl

end Boo.Lib.Segments
