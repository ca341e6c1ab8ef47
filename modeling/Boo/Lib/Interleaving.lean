/- module: Boo/Lib/Interleaving
   digest: Two lists merged into one, each in its own order. -/

import Mathlib.Data.List.Basic

set_option autoImplicit false
set_option relaxedAutoImplicit false

namespace Boo.Lib.Interleaving

variable {A : Type}

/-- The third list has the elements of the first two, those of each in order. -/
inductive Interleaves : List A → List A → List A → Prop
  | nil : Interleaves [] [] []
  | left {first second merged : List A} (item : A) (rest : Interleaves first second merged) :
      Interleaves (item :: first) second (item :: merged)
  | right {first second merged : List A} (item : A) (rest : Interleaves first second merged) :
      Interleaves first (item :: second) (item :: merged)

namespace Interleaves

variable {first second merged : List A}

theorem symm (interleaves : Interleaves first second merged) :
    Interleaves second first merged := by
  induction interleaves with
  | nil => exact .nil
  | left item _ ih => exact .right item ih
  | right item _ ih => exact .left item ih

theorem alone (items : List A) : Interleaves items [] items := by
  induction items with
  | nil => exact .nil
  | cons item items ih => exact .left item ih

/-- What is added to the first list comes last. -/
theorem append_left (interleaves : Interleaves first second merged) (more : List A) :
    Interleaves (first ++ more) second (merged ++ more) := by
  induction interleaves with
  | nil => exact alone more
  | left item _ ih => exact .left item ih
  | right item _ ih => exact .right item ih

theorem append_right (interleaves : Interleaves first second merged) (more : List A) :
    Interleaves first (second ++ more) (merged ++ more) :=
  (interleaves.symm.append_left more).symm

theorem length (interleaves : Interleaves first second merged) :
    merged.length = first.length + second.length := by
  induction interleaves with
  | nil => rfl
  | left item _ ih =>
      rw [List.length_cons, List.length_cons, ih]
      omega
  | right item _ ih =>
      rw [List.length_cons, List.length_cons, ih]
      omega

end Interleaves

end Boo.Lib.Interleaving
