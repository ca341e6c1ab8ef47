/- module: Boo/Runtime/OscObservation
   digest: What is observed in a terminal's output does not depend on how it is cut into chunks. -/

import Boo.Remote.ReadLoop
import Boo.Runtime.FullRefresh

set_option autoImplicit false
set_option relaxedAutoImplicit false

namespace Boo.Runtime.OscObservation

open Boo.Lib.Runs
open Boo.Client.Snapshot
open Boo.Remote.ReadLoop (fromUtf8)
open Boo.Runtime.VtBackend
open Boo.Runtime.FullRefresh

section Payloads

/-- `finish_osc_payload`: the payload that goes to `handle_osc_payload`, if it is UTF-8. -/
def finishOscPayload (osc : OscState) : List String := (fromUtf8 osc.payload).toList

/-- What one byte of the loop of `observe_control_sequences` hands on. -/
def handledBy (osc : OscState) (byte : UInt8) : List String :=
  match osc.mode with
  | .osc => if byte = 0x07 then finishOscPayload osc else []
  | .oscEscape => if byte = 0x5c then finishOscPayload osc else []
  | _ => []

/-- The loop of `observe_control_sequences`. -/
def handledByLoop : OscState → List UInt8 → List String
  | _, [] => []
  | osc, byte :: bytes => handledBy osc byte ++ handledByLoop (observeByte osc byte) bytes

/-- The payloads that `observe_control_sequences` passes to `handle_osc_payload`. -/
def handledPayloads (pane : VtPane) (bytes : List UInt8) (hasEscape : Bool) : List String :=
  if pane.controlSequenceTail.isEmpty ∧ pane.oscState.mode = .ground ∧ hasEscape = false then []
  else if pane.oscState.mode = .ground ∧ hasEscape = false then []
  else handledByLoop pane.oscState bytes

theorem handledByLoop_append (osc : OscState) (before after : List UInt8) :
    handledByLoop osc (before ++ after) =
      handledByLoop osc before ++ handledByLoop (before.foldl observeByte osc) after := by
  induction before generalizing osc with
  | nil => rfl
  | cons byte before ih =>
      rw [List.cons_append, handledByLoop, ih, handledByLoop, List.foldl_cons, List.append_assoc]

/-- On the ground only an escape byte changes anything. -/
theorem ground_loop {osc : OscState} (ground : osc.mode = .ground) {bytes : List UInt8}
    (plain : escapeByte ∉ bytes) :
    bytes.foldl observeByte osc = osc ∧ handledByLoop osc bytes = [] := by
  induction bytes with
  | nil => exact ⟨rfl, rfl⟩
  | cons byte bytes ih =>
      have other : byte ≠ escapeByte := fun same => plain (same ▸ List.mem_cons_self)
      have stays : observeByte osc byte = osc := by
        unfold observeByte
        rw [ground]
        exact if_neg other
      have silent : handledBy osc byte = [] := by
        unfold handledBy
        rw [ground]
      obtain ⟨same, nothing⟩ := ih fun member => plain (List.mem_cons_of_mem _ member)
      rw [List.foldl_cons, handledByLoop, stays, silent, same, nothing]
      exact ⟨rfl, rfl⟩

variable (pane : VtPane) (bytes : List UInt8)

/-- The two early returns skip nothing that the loop would do. -/
theorem observe_oscState :
    (pane.observeControlSequences bytes (bytes.contains escapeByte)).oscState =
      bytes.foldl observeByte pane.oscState := by
  have skipped : pane.oscState.mode = .ground → bytes.contains escapeByte = false →
      bytes.foldl observeByte pane.oscState = pane.oscState := by
    intro ground noEscape
    exact (ground_loop ground (by simpa using noEscape)).1
  rw [VtPane.observeControlSequences]
  split
  · rename_i shortcut
    exact (skipped shortcut.2.1 shortcut.2.2).symm
  · dsimp only
    split
    · rename_i shortcut
      exact (skipped shortcut.1 shortcut.2).symm
    · rfl

theorem handledPayloads_eq :
    handledPayloads pane bytes (bytes.contains escapeByte) = handledByLoop pane.oscState bytes := by
  have skipped : pane.oscState.mode = .ground → bytes.contains escapeByte = false →
      handledByLoop pane.oscState bytes = [] := by
    intro ground noEscape
    exact (ground_loop ground (by simpa using noEscape)).2
  rw [handledPayloads]
  split
  · rename_i shortcut
    exact (skipped shortcut.2.1 shortcut.2.2).symm
  · split
    · rename_i shortcut
      exact (skipped shortcut.1 shortcut.2).symm
    · rfl

end Payloads

section Run

variable {Style : Type} {watched : Watched Style}

/-- The bytes that an operation observes. -/
def observedBytes : PaneOp Style → List UInt8
  | .enqueuePtyChunk chunk => chunk
  | .writeVtBytes bytes => bytes
  | _ => []

/-- The payloads that an operation passes to `handle_osc_payload`. -/
def handledIn (pane : VtPane) : PaneOp Style → List String
  | .enqueuePtyChunk chunk => handledPayloads pane chunk (chunk.contains escapeByte)
  | .writeVtBytes bytes =>
      if bytes.isEmpty then [] else handledPayloads pane bytes (bytes.contains escapeByte)
  | _ => []

def handledAlong : Watched Style → List (PaneOp Style) → List String
  | _, [] => []
  | watched, op :: ops => handledIn watched.pane op ++ handledAlong (watched.step op) ops

theorem observed_step (op : PaneOp Style) :
    (watched.step op).observed = watched.observed ++ observedBytes op := by
  cases op <;> simp [Watched.step, observedBytes]

theorem processTurns_oscState (turns : Nat) (pane : VtPane) :
    (pane.processTurns turns).1.oscState = pane.oscState := by
  induction turns generalizing pane with
  | zero => rfl
  | succ turns ih =>
      rw [VtPane.processTurns]
      split
      · rfl
      · dsimp only
        split <;> exact ih _

theorem oscState_step (op : PaneOp Style) :
    (watched.step op).pane.oscState = (observedBytes op).foldl observeByte watched.pane.oscState := by
  cases op with
  | enqueuePtyChunk chunk => exact observe_oscState watched.pane chunk
  | processPendingPtyWork turns =>
      have same := processTurns_oscState turns watched.pane
      show (watched.pane.processPendingPtyWork turns).oscState = watched.pane.oscState
      rw [VtPane.processPendingPtyWork]
      dsimp only
      split <;> exact same
  | writeVtBytes bytes =>
      cases bytes with
      | nil => rfl
      | cons byte bytes => exact observe_oscState watched.pane (byte :: bytes)
  | refreshSnapshot render => rfl

theorem handledIn_eq (op : PaneOp Style) :
    handledIn watched.pane op = handledByLoop watched.pane.oscState (observedBytes op) := by
  cases op with
  | enqueuePtyChunk chunk => exact handledPayloads_eq watched.pane chunk
  | processPendingPtyWork turns => rfl
  | writeVtBytes bytes =>
      cases bytes with
      | nil => rfl
      | cons byte bytes => exact handledPayloads_eq watched.pane (byte :: bytes)
  | refreshSnapshot render => rfl

/-- What a run hands on is what the loop hands on of all its bytes. -/
theorem handledAlong_eq (ops : List (PaneOp Style)) (watched : Watched Style) :
    handledAlong watched ops = handledByLoop watched.pane.oscState (ops.flatMap observedBytes) := by
  induction ops generalizing watched with
  | nil => rfl
  | cons op ops ih =>
      rw [handledAlong, ih, handledIn_eq, oscState_step, List.flatMap_cons, handledByLoop_append]

/-- Observing a chunk that completes a listed sequence sets the flag, whether or not a refresh
has cleared it since the sequence began. -/
def ForcesWhereComplete (watched : Watched Style) (op : PaneOp Style) : Prop :=
  ∀ pattern ∈ fullRefreshControlSequences, ∀ before after,
    watched.observed ++ observedBytes op = before ++ pattern ++ after →
      after.length < (observedBytes op).length →
        (watched.step op).pane.forceFullSnapshotRefresh = true

theorem forces_of_known (known : watched.Known) (op : PaneOp Style) :
    ForcesWhereComplete watched op := by
  intro pattern listed before after occurs ends
  have lengths := congrArg List.length occurs
  simp only [List.length_append] at lengths
  have triggers : Triggers watched.observed (observedBytes op) :=
    triggers_of_ends listed occurs (by omega)
  cases op with
  | enqueuePtyChunk chunk => exact (observe_force known.tail).mpr (.inr triggers)
  | processPendingPtyWork turns => exact absurd rfl triggers.1
  | writeVtBytes bytes =>
      cases bytes with
      | nil => exact absurd rfl triggers.1
      | cons byte bytes => exact (observe_force known.tail).mpr (.inr triggers)
  | refreshSnapshot render => exact absurd rfl triggers.1

/-- However the output is cut into chunks, and whatever the worker does between them, the payloads
handed on are those of the output in one chunk, and every listed sequence sets the flag with the
chunk that completes it. -/
theorem observation_chunking (snapshot : TerminalSnapshot Style) (ops : List (PaneOp Style)) :
    handledAlong (Watched.spawn snapshot) ops =
        handledAlong (Watched.spawn snapshot) [.enqueuePtyChunk (ops.flatMap observedBytes)] ∧
      (ops.foldl Watched.step (Watched.spawn snapshot)).observed = ops.flatMap observedBytes ∧
      Always Watched.step ForcesWhereComplete (Watched.spawn snapshot) ops := by
  refine ⟨?_, ?_, ?_⟩
  · rw [handledAlong_eq, handledAlong_eq, List.flatMap_singleton]
    rfl
  · have run : ∀ watched : Watched Style, (ops.foldl Watched.step watched).observed =
        watched.observed ++ ops.flatMap observedBytes := by
      induction ops with
      | nil => intro watched; exact (List.append_nil _).symm
      | cons op ops ih =>
          intro watched
          rw [List.foldl_cons, ih, observed_step, List.flatMap_cons, List.append_assoc]
    exact run (Watched.spawn snapshot)
  · exact @always_of_invariant _ _ Watched.step ForcesWhereComplete (fun _ _ => True)
      Watched.Known (fun _ op known _ => known_step known op)
      (fun _ op known _ => forces_of_known known op)
      _ _ (known_spawn snapshot) (always_true _ ops)

end Run

end Boo.Runtime.OscObservation
