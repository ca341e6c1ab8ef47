/- module: Boo/Lib/Descriptors
   digest: Numbers that stand for open files and are used again, with a record of each close. -/

import Mathlib.Logic.Function.Basic
import Mathlib.Data.List.Basic

set_option autoImplicit false
set_option relaxedAutoImplicit false

namespace Boo.Lib.Descriptors

/-- What a number stands for: a descriptor that is looked at, or a file of someone else. -/
inductive File (D : Type)
  | own (descriptor : D)
  | other
  deriving DecidableEq

/-- `closes` records which descriptor was meant by a close, and what its number stood for. -/
structure Ledger (D : Type) where
  files : Nat → Option (File D)
  opened : List D
  closes : List (D × Option (File D))

variable {D : Type}

namespace Ledger

def openOwn (ledger : Ledger D) (descriptor : D) (number : Nat) : Ledger D where
  files := Function.update ledger.files number (some (.own descriptor))
  opened := descriptor :: ledger.opened
  closes := ledger.closes

/-- Whatever the number stands for is closed, if it stands for anything. -/
def closeOwn (ledger : Ledger D) (descriptor : D) (number : Nat) : Ledger D where
  files := Function.update ledger.files number none
  opened := ledger.opened
  closes := (descriptor, ledger.files number) :: ledger.closes

def setOther (ledger : Ledger D) (number : Nat) (file : Option (File D)) : Ledger D :=
  { ledger with files := Function.update ledger.files number file }

/-- No close hit anything but the descriptor that was meant. -/
def ClosesOwn (ledger : Ledger D) : Prop :=
  ∀ close ∈ ledger.closes, close.2 = some (.own close.1)

variable {ledger : Ledger D} {descriptor : D} {number : Nat}

theorem files_openOwn (used : Nat) : (ledger.openOwn descriptor number).files used =
    if used = number then some (.own descriptor) else ledger.files used :=
  Function.update_apply ..

theorem files_closeOwn (used : Nat) : (ledger.closeOwn descriptor number).files used =
    if used = number then none else ledger.files used :=
  Function.update_apply ..

theorem files_setOther (file : Option (File D)) (used : Nat) :
    (ledger.setOther number file).files used =
      if used = number then file else ledger.files used :=
  Function.update_apply ..

variable [DecidableEq D]

def timesClosed (ledger : Ledger D) (descriptor : D) : Nat :=
  (ledger.closes.map Prod.fst).count descriptor

/-- `held` has the numbers of the descriptors that are still to be closed; each other one that was
opened has been closed once. -/
structure Balanced (held : D → Option Nat) (ledger : Ledger D) : Prop where
  closesOwn : ledger.ClosesOwn
  files : ∀ descriptor, ∀ number ∈ held descriptor,
    ledger.files number = some (.own descriptor)
  opened : ∀ descriptor, (held descriptor).isSome → descriptor ∈ ledger.opened
  times : ∀ descriptor ∈ ledger.opened,
    ledger.timesClosed descriptor = if held descriptor = none then 1 else 0
  fresh : ∀ descriptor ∉ ledger.opened, ledger.timesClosed descriptor = 0

variable {held : D → Option Nat}

theorem timesClosed_closeOwn (other : D) : (ledger.closeOwn descriptor number).timesClosed other =
    ledger.timesClosed other + if descriptor = other then 1 else 0 := by
  simp [timesClosed, closeOwn, List.count_cons]

namespace Balanced

/-- A number that is held stands for nothing else. -/
theorem ne_of_held (balanced : Balanced held ledger) {other : D} {used : Nat}
    (holds : held other = some used) (differs : ledger.files number ≠ some (.own other)) :
    used ≠ number := by
  rintro rfl
  exact differs (balanced.files other used holds)

theorem openOwn (balanced : Balanced held ledger) (free : ledger.files number = none)
    (unopened : descriptor ∉ ledger.opened) :
    Balanced (Function.update held descriptor (some number))
      (ledger.openOwn descriptor number) := by
  have kept (other : D) : (ledger.openOwn descriptor number).timesClosed other =
      ledger.timesClosed other := rfl
  refine ⟨balanced.closesOwn, ?_, ?_, ?_, ?_⟩
  · intro other used holds
    by_cases same : other = descriptor
    · subst same
      rw [Function.update_self] at holds
      obtain rfl := Option.some.inj holds
      rw [files_openOwn, if_pos rfl]
    · rw [Function.update_of_ne same] at holds
      have differs : ledger.files number ≠ some (.own other) := by simp [free]
      rw [files_openOwn, if_neg (balanced.ne_of_held holds differs)]
      exact balanced.files other used holds
  · intro other holds
    by_cases same : other = descriptor
    · exact same ▸ List.mem_cons_self
    · rw [Function.update_of_ne same] at holds
      exact List.mem_cons_of_mem _ (balanced.opened other holds)
  · intro other member
    rw [kept]
    by_cases same : other = descriptor
    · subst same
      rw [Function.update_self, balanced.fresh other unopened]
      rfl
    · rw [Function.update_of_ne same]
      exact balanced.times other ((List.mem_cons.mp member).resolve_left same)
  · intro other absent
    exact balanced.fresh other (fun member => absent (List.mem_cons_of_mem _ member))

theorem closeOwn (balanced : Balanced held ledger) (holds : held descriptor = some number) :
    Balanced (Function.update held descriptor none) (ledger.closeOwn descriptor number) := by
  have found := balanced.files descriptor number holds
  have member : descriptor ∈ ledger.opened := balanced.opened descriptor (by simp [holds])
  refine ⟨?_, ?_, ?_, ?_, ?_⟩
  · intro close recorded
    rcases List.mem_cons.mp recorded with rfl | earlier
    · exact found
    · exact balanced.closesOwn close earlier
  · intro other used holdsOther
    by_cases same : other = descriptor
    · rw [same, Function.update_self] at holdsOther
      cases holdsOther
    · rw [Function.update_of_ne same] at holdsOther
      have differs : ledger.files number ≠ some (.own other) := by
        simpa [found] using Ne.symm same
      rw [files_closeOwn, if_neg (balanced.ne_of_held holdsOther differs)]
      exact balanced.files other used holdsOther
  · intro other holdsOther
    by_cases same : other = descriptor
    · rw [same, Function.update_self] at holdsOther
      cases holdsOther
    · rw [Function.update_of_ne same] at holdsOther
      exact balanced.opened other holdsOther
  · intro other opened
    rw [timesClosed_closeOwn, balanced.times other opened]
    by_cases same : descriptor = other
    · subst same
      simp [holds]
    · rw [Function.update_of_ne (Ne.symm same), if_neg same, Nat.add_zero]
  · intro other absent
    have differs : descriptor ≠ other := by
      rintro rfl
      exact absent member
    rw [timesClosed_closeOwn, if_neg differs, Nat.add_zero]
    exact balanced.fresh other absent

/-- Files of others may come and go under the numbers that are not held. -/
theorem setOther (balanced : Balanced held ledger) {file : Option (File D)}
    (apart : ∀ descriptor, ledger.files number ≠ some (.own descriptor)) :
    Balanced held (ledger.setOther number file) := by
  refine ⟨balanced.closesOwn, ?_, balanced.opened, balanced.times, balanced.fresh⟩
  intro other used holds
  rw [files_setOther, if_neg (balanced.ne_of_held holds (apart other))]
  exact balanced.files other used holds

end Balanced

end Ledger

end Boo.Lib.Descriptors
