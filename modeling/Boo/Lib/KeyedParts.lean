/- module: Boo/Lib/KeyedParts
   digest: Values that arrive in parts under a key, several keys at a time, each up to a final part. -/

import Mathlib.Data.List.Basic

set_option autoImplicit false
set_option relaxedAutoImplicit false

namespace Boo.Lib.KeyedParts

variable {Key Part Value : Type} [DecidableEq Key] (key : Part → Key) (final : Part → Bool)

/-- The parts of a key since its last final part. -/
def sinceFinal (own : Key) (parts : List Part) : List Part :=
  ((parts.filter fun part => key part = own).reverse.takeWhile fun part => !final part).reverse

/-- The values that the final parts complete, in the order of these parts: each is made of the
parts of its key since the previous final one. -/
def completions (value : List Part → Option Value) (parts : List Part) : List Value :=
  (List.range parts.length).filterMap fun position => (parts[position]?.filter final).bind fun part =>
    value (sinceFinal key final (key part) (parts.take position) ++ [part])

variable {key final} {own : Key}

theorem sinceFinal_concat (parts : List Part) (part : Part) :
    sinceFinal key final own (parts ++ [part]) =
      if key part = own then
        if final part then [] else sinceFinal key final own parts ++ [part]
      else sinceFinal key final own parts := by
  unfold sinceFinal
  rw [List.filter_append, List.filter_singleton]
  by_cases mine : key part = own
  · rw [if_pos mine, decide_eq_true mine, cond_true, List.reverse_append, List.reverse_singleton,
      List.singleton_append]
    cases isFinal : final part with
    | true => rw [List.takeWhile_cons_of_neg (by simp [isFinal]), if_pos rfl, List.reverse_nil]
    | false =>
        rw [List.takeWhile_cons_of_pos (by simp [isFinal]), List.reverse_cons,
          if_neg Bool.false_ne_true]
  · rw [if_neg mine, decide_eq_false mine, cond_false, List.append_nil]

/-- One more part completes at most one more value. -/
theorem completions_concat (value : List Part → Option Value) (parts : List Part) (part : Part) :
    completions key final value (parts ++ [part]) = completions key final value parts ++
      if final part then (value (sinceFinal key final (key part) parts ++ [part])).toList
      else [] := by
  unfold completions
  rw [List.length_append, List.length_singleton, List.range_succ, List.filterMap_append]
  congr 1
  · refine List.filterMap_congr fun position member => ?_
    rw [List.mem_range] at member
    rw [List.getElem?_append_left member, List.take_append_of_le_length (Nat.le_of_lt member)]
  · rw [List.filterMap_cons, List.filterMap_nil, List.getElem?_concat_length,
      List.take_left' rfl]
    cases isFinal : final part with
    | true =>
        rw [Option.filter_some, if_pos isFinal, Option.bind_some, if_pos rfl]
        cases value (sinceFinal key final (key part) parts ++ [part]) <;> rfl
    | false =>
        rw [Option.filter_some, if_neg (by simp [isFinal]), Option.bind_none,
          if_neg Bool.false_ne_true]

end Boo.Lib.KeyedParts
