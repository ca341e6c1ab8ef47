/- module: Boo/Lib/Occurrences
   digest: Windows of a list, the occurrences of a pattern, and how far back these reach. -/

import Mathlib.Data.List.Infix

set_option autoImplicit false
set_option relaxedAutoImplicit false

namespace Boo.Lib.Occurrences

variable {α : Type}

/-- All contiguous sublists of one positive width, from the left. -/
def windows (width : Nat) (xs : List α) : List (List α) :=
  (List.range (xs.length + 1 - width)).map fun start => (xs.drop start).take width

/-- The last `n` elements, or all of them. -/
def lastOf (n : Nat) (xs : List α) : List α := xs.drop (xs.length - n)

theorem mem_windows_iff {pattern xs : List α} :
    pattern ∈ windows pattern.length xs ↔ pattern <:+: xs := by
  rw [windows, List.mem_map]
  constructor
  · rintro ⟨start, -, window⟩
    rw [← window]
    exact (List.take_prefix _ _).isInfix.trans (List.drop_suffix _ _).isInfix
  · rintro ⟨before, after, rfl⟩
    refine ⟨before.length, ?_, ?_⟩
    · rw [List.mem_range]
      simp only [List.length_append]
      omega
    · rw [List.append_assoc, List.drop_left, List.take_left]

theorem lastOf_suffix (n : Nat) (xs : List α) : lastOf n xs <:+ xs := List.drop_suffix _ _

theorem lastOf_append (n : Nat) (xs ys : List α) :
    lastOf n (xs ++ ys) = lastOf (n - ys.length) xs ++ lastOf n ys := by
  rw [lastOf, lastOf, lastOf, List.drop_append, List.length_append]
  have right : xs.length + ys.length - n - xs.length = ys.length - n := by omega
  rw [right]
  rcases Nat.le_total ys.length n with short | long
  · have left : xs.length + ys.length - n = xs.length - (n - ys.length) := by omega
    rw [left]
  · have gone : xs.drop (xs.length + ys.length - n) = [] := List.drop_eq_nil_of_le (by omega)
    have gone' : xs.drop (xs.length - (n - ys.length)) = [] := List.drop_eq_nil_of_le (by omega)
    rw [gone, gone']

/-- Keeping the last `n` elements forgets nothing that a later cut to `n` would keep. -/
theorem lastOf_lastOf_append (n : Nat) (xs ys : List α) :
    lastOf n (lastOf n xs ++ ys) = lastOf n (xs ++ ys) := by
  have cut : xs ++ ys = xs.take (xs.length - n) ++ (lastOf n xs ++ ys) := by
    rw [lastOf, ← List.append_assoc, List.take_append_drop]
  have room : (xs ++ ys).length - n = (xs.take (xs.length - n)).length +
      ((lastOf n xs ++ ys).length - n) := by
    simp only [lastOf, List.length_append, List.length_take, List.length_drop]
    omega
  calc lastOf n (lastOf n xs ++ ys)
      = (xs.take (xs.length - n) ++ (lastOf n xs ++ ys)).drop
          ((xs.take (xs.length - n)).length + ((lastOf n xs ++ ys).length - n)) := by
        rw [List.drop_length_add_append]
        rfl
    _ = lastOf n (xs ++ ys) := by rw [← cut, ← room, lastOf]

/-- An occurrence that ends beyond `xs` is in sight of the last elements of `xs`. -/
theorem infix_lastOf_append {xs ys before pattern after : List α} {n : Nat}
    (occurs : xs ++ ys = before ++ pattern ++ after) (short : pattern.length ≤ n + 1)
    (beyond : xs.length < before.length + pattern.length) : pattern <:+: lastOf n xs ++ ys := by
  have seen : lastOf n xs ++ ys = (xs ++ ys).drop (xs.length - n) := by
    rw [lastOf, List.drop_append_of_le_length (Nat.sub_le _ _)]
  rw [seen, occurs, List.append_assoc, List.drop_append_of_le_length (by omega)]
  exact ⟨before.drop (xs.length - n), after, by rw [List.append_assoc]⟩

/-- An occurrence cannot start where its first element is missing. -/
theorem infix_of_infix_append {head : α} {rest skipped xs : List α} (absent : head ∉ skipped)
    (occurs : head :: rest <:+: skipped ++ xs) : head :: rest <:+: xs := by
  induction skipped with
  | nil => exact occurs
  | cons other skipped ih =>
      rw [List.mem_cons, not_or] at absent
      rw [List.cons_append, List.infix_cons_iff] at occurs
      obtain start | later := occurs
      · obtain ⟨same, -⟩ := List.cons_prefix_cons.mp start
        exact absurd same absent.1
      · exact ih absent.2 later

end Boo.Lib.Occurrences
