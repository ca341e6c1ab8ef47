/- module: Boo/Lib/WriteRun
   digest: Overwriting a consecutive run of list positions, read back by index. -/

import Mathlib.Data.List.Basic

set_option autoImplicit false
set_option relaxedAutoImplicit false

namespace Boo.Lib.WriteRun

variable {α : Type}

/-- Store the elements of `ys` at `start`, `start + 1`, …; positions past the end of
`xs` are dropped, as in an in-place loop over a fixed-size array. -/
def writeRun (xs : List α) (start : Nat) : List α → List α
  | [] => xs
  | y :: ys => writeRun (xs.set start y) (start + 1) ys

@[simp] theorem length_writeRun (xs : List α) (start : Nat) (ys : List α) :
    (writeRun xs start ys).length = xs.length := by
  induction ys generalizing xs start with
  | nil => rfl
  | cons y ys ih => rw [writeRun, ih, List.length_set]

theorem getElem?_writeRun_outside {xs ys : List α} {start i : Nat}
    (outside : i < start ∨ start + ys.length ≤ i) : (writeRun xs start ys)[i]? = xs[i]? := by
  induction ys generalizing xs start with
  | nil => rfl
  | cons y ys ih =>
      rw [List.length_cons] at outside
      rw [writeRun, ih (by omega), List.getElem?_set_ne (by omega)]

theorem getElem?_writeRun_inside {xs ys : List α} {start i : Nat} (lower : start ≤ i)
    (upper : i < start + ys.length) (fits : i < xs.length) :
    (writeRun xs start ys)[i]? = ys[i - start]? := by
  induction ys generalizing xs start with
  | nil => simp at upper; omega
  | cons y ys ih =>
      rw [List.length_cons] at upper
      rw [writeRun]
      by_cases here : i = start
      · subst here
        rw [getElem?_writeRun_outside (by omega), List.getElem?_set_self fits]
        simp
      · rw [ih (by omega) (by omega) (by simpa using fits)]
        have index : i - start = i - (start + 1) + 1 := by omega
        rw [index, List.getElem?_cons_succ]

end Boo.Lib.WriteRun
