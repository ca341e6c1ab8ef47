/- module: Boo/Lib/SnapshotLog
   digest: Replaying a log of full snapshots and patches over a held value. -/

import Mathlib.Data.List.Basic

set_option autoImplicit false
set_option relaxedAutoImplicit false

namespace Boo.Lib.SnapshotLog

inductive Entry (F P : Type)
  | full (state : F)
  | patch (change : P)
  deriving DecidableEq

section Replay

variable {F P S : Type} (render : F → S) (apply : P → S → S)

/-- A full snapshot replaces the held value, a patch changes it if there is one. -/
def step (held : Option S) : Entry F P → Option S
  | .full state => some (render state)
  | .patch change => held.map (apply change)

def replay (held : Option S) (log : List (Entry F P)) : Option S :=
  log.foldl (step render apply) held

theorem replay_append (held : Option S) (log more : List (Entry F P)) :
    replay render apply held (log ++ more) =
      replay render apply (replay render apply held log) more :=
  List.foldl_append

/-- The value that the patches since the last full snapshot start from. -/
def base (held : Option S) : List (Entry F P) → Option S
  | [] => held
  | .full state :: log => base (some (render state)) log
  | .patch _ :: log => base held log

/-- The patches since the last full snapshot, after the pending ones. -/
def patchesFrom (pending : List P) : List (Entry F P) → List P
  | [] => pending
  | .full _ :: log => patchesFrom [] log
  | .patch change :: log => patchesFrom (pending ++ [change]) log

def patchesSince (log : List (Entry F P)) : List P := patchesFrom [] log

private theorem replay_patchesFrom (held : Option S) (pending : List P)
    (log : List (Entry F P)) :
    replay render apply (held.map fun value => pending.foldl (fun s p => apply p s) value) log =
      (base render held log).map fun value =>
        (patchesFrom pending log).foldl (fun s p => apply p s) value := by
  induction log generalizing held pending with
  | nil => rfl
  | cons entry log ih =>
      cases entry with
      | full state => exact ih (some (render state)) []
      | patch change =>
          have applied := ih held (pending ++ [change])
          rw [base, patchesFrom, ← applied]
          cases held <;> simp [replay, step]

/-- A replay is the last full snapshot with the later patches applied in order. -/
theorem replay_eq (held : Option S) (log : List (Entry F P)) :
    replay render apply held log = (base render held log).map fun value =>
      (patchesSince log).foldl (fun s p => apply p s) value := by
  have general := replay_patchesFrom render apply held [] log
  simp only [List.foldl_nil, Option.map_id'] at general
  exact general

end Replay

end Boo.Lib.SnapshotLog
