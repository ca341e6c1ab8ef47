/- module: Boo/Runtime/PtyBacklog
   digest: Queued terminal output is written in order, without loss, wherever the time budget ends. -/

import Boo.Runtime.VtBackend

set_option autoImplicit false
set_option relaxedAutoImplicit false

namespace Boo.Runtime.PtyBacklog

open Boo.Runtime.VtBackend

section Backlog

/-- What a chunk still has to write. -/
def unwrittenPart (chunk : PendingPtyChunk) : List UInt8 := chunk.bytes.drop chunk.offset

def unwritten (chunks : List PendingPtyChunk) : List UInt8 := chunks.flatMap unwrittenPart

/-- The terminal has a beginning of the output, the queue has the rest, and the byte counter is
the length of that rest. -/
structure Conserves (output : List UInt8) (pane : VtPane) : Prop where
  offsets : ∀ chunk ∈ pane.pendingPtyChunks, chunk.offset ≤ chunk.bytes.length
  written : pane.terminal ++ unwritten pane.pendingPtyChunks = output
  counted : pane.pendingPtyBytes = (unwritten pane.pendingPtyChunks).length

variable {output : List UInt8} {pane : VtPane}

/-- A slice of a chunk and what comes after it. -/
theorem unwrittenPart_slice (chunk : PendingPtyChunk) {end_ : Nat} (from_ : chunk.offset ≤ end_) :
    unwrittenPart chunk =
      (chunk.bytes.drop chunk.offset).take (end_ - chunk.offset) ++ chunk.bytes.drop end_ := by
  have rest : chunk.bytes.drop end_ =
      (chunk.bytes.drop chunk.offset).drop (end_ - chunk.offset) := by
    rw [List.drop_drop]
    congr 1
    omega
  rw [rest, List.take_append_drop, unwrittenPart]

/-- The queue after a slice up to `end_` of its first chunk has been written. -/
theorem unwritten_requeue (chunk : PendingPtyChunk) (rest : List PendingPtyChunk) (end_ : Nat) :
    unwritten (if chunk.bytes.length ≤ end_ then rest else { chunk with offset := end_ } :: rest) =
      chunk.bytes.drop end_ ++ unwritten rest := by
  split
  · rename_i done
    rw [List.drop_eq_nil_iff.mpr done, List.nil_append]
  · rfl

/-- One slice. -/
theorem conserves_slice {chunk : PendingPtyChunk} {rest : List PendingPtyChunk}
    (conserves : Conserves output pane) (queue : pane.pendingPtyChunks = chunk :: rest)
    {end_ : Nat} (from_ : chunk.offset ≤ end_) (upTo : end_ ≤ chunk.bytes.length) :
    Conserves output { pane with
      terminal := pane.terminal ++
        (chunk.bytes.drop chunk.offset).take (end_ - chunk.offset)
      pendingPtyBytes := pane.pendingPtyBytes - (end_ - chunk.offset)
      pendingPtyChunks :=
        if chunk.bytes.length ≤ end_ then rest else { chunk with offset := end_ } :: rest } := by
  have whole : unwritten pane.pendingPtyChunks =
      (chunk.bytes.drop chunk.offset).take (end_ - chunk.offset) ++
        (chunk.bytes.drop end_ ++ unwritten rest) := by
    rw [queue, unwritten, List.flatMap_cons, unwrittenPart_slice chunk from_, List.append_assoc]
    rfl
  refine ⟨?_, ?_, ?_⟩
  · intro other member
    dsimp only at member
    split at member
    · exact conserves.offsets other (queue ▸ List.mem_cons_of_mem _ member)
    · rcases List.mem_cons.mp member with rfl | later
      · exact upTo
      · exact conserves.offsets other (queue ▸ List.mem_cons_of_mem _ later)
  · dsimp only
    rw [unwritten_requeue, List.append_assoc, ← whole]
    exact conserves.written
  · dsimp only
    have sliceLength : ((chunk.bytes.drop chunk.offset).take (end_ - chunk.offset)).length =
        end_ - chunk.offset := by
      rw [List.length_take, List.length_drop]
      omega
    have total := congrArg List.length whole
    rw [List.length_append, sliceLength] at total
    rw [unwritten_requeue, conserves.counted]
    omega

/-- Wherever the time budget cuts the loop off. -/
theorem conserves_processTurns (turns : Nat) (conserves : Conserves output pane) :
    Conserves output (pane.processTurns turns).1 := by
  induction turns generalizing pane with
  | zero => exact conserves
  | succ turns ih =>
      rw [VtPane.processTurns]
      split
      · exact conserves
      · rename_i chunk rest queue
        have inside := conserves.offsets chunk (queue ▸ List.mem_cons_self)
        dsimp only
        split
        · rename_i done
          apply ih
          refine ⟨?_, ?_, ?_⟩
          · intro other member
            exact conserves.offsets other (queue ▸ List.mem_cons_of_mem _ member)
          · have empty : unwrittenPart chunk = [] := List.drop_eq_nil_iff.mpr (by omega)
            have written := conserves.written
            rw [queue, unwritten, List.flatMap_cons, empty, List.nil_append] at written
            exact written
          · have empty : unwrittenPart chunk = [] := List.drop_eq_nil_iff.mpr (by omega)
            have counted := conserves.counted
            rw [queue, unwritten, List.flatMap_cons, empty, List.nil_append] at counted
            exact counted
        · apply ih
          exact conserves_slice conserves queue (by omega) (by omega)

theorem conserves_processPendingPtyWork (turns : Nat) (conserves : Conserves output pane) :
    Conserves output (pane.processPendingPtyWork turns) := by
  have processed := conserves_processTurns turns conserves
  rw [VtPane.processPendingPtyWork]
  dsimp only
  split
  · exact ⟨processed.offsets, processed.written, processed.counted⟩
  · exact processed

/-- Observing a chunk leaves the queue and the terminal alone. -/
theorem observe_frame (pane : VtPane) (bytes : List UInt8) (hasEscape : Bool) :
    (pane.observeControlSequences bytes hasEscape).terminal = pane.terminal ∧
      (pane.observeControlSequences bytes hasEscape).pendingPtyChunks = pane.pendingPtyChunks ∧
        (pane.observeControlSequences bytes hasEscape).pendingPtyBytes = pane.pendingPtyBytes := by
  rw [VtPane.observeControlSequences]
  split
  · exact ⟨rfl, rfl, rfl⟩
  · split <;> exact ⟨rfl, rfl, rfl⟩

theorem conserves_enqueuePtyChunk (chunk : List UInt8) (conserves : Conserves output pane) :
    Conserves (output ++ chunk) (pane.enqueuePtyChunk chunk) := by
  obtain ⟨terminal, queue, counter⟩ := observe_frame pane chunk (chunk.contains escapeByte)
  have added : unwritten (pane.pendingPtyChunks ++ [⟨chunk, 0, chunk.contains escapeByte⟩]) =
      unwritten pane.pendingPtyChunks ++ chunk := by
    rw [unwritten, List.flatMap_append, List.flatMap_singleton, unwrittenPart, List.drop_zero]
    rfl
  rw [VtPane.enqueuePtyChunk]
  refine ⟨?_, ?_, ?_⟩
  · intro other member
    rw [queue, List.mem_append, List.mem_singleton] at member
    rcases member with earlier | rfl
    · exact conserves.offsets other earlier
    · exact Nat.zero_le _
  · dsimp only
    rw [terminal, queue, added, ← List.append_assoc, conserves.written]
  · dsimp only
    rw [queue, counter, added, conserves.counted, List.length_append]

end Backlog

section Run

inductive PtyOp
  | enqueuePtyChunk (chunk : List UInt8)
  | processPendingPtyWork (turns : Nat)

def step (pane : VtPane) : PtyOp → VtPane
  | .enqueuePtyChunk chunk => pane.enqueuePtyChunk chunk
  | .processPendingPtyWork turns => pane.processPendingPtyWork turns

/-- The chunk that an operation adds to the output. -/
def output : PtyOp → List UInt8
  | .enqueuePtyChunk chunk => chunk
  | .processPendingPtyWork _ => []

/-- A pane that has been spawned. -/
def spawned : VtPane := ⟨[], true, {}, [], 0, false, []⟩

theorem conserves_step {earlier : List UInt8} {pane : VtPane} (conserves : Conserves earlier pane)
    (op : PtyOp) : Conserves (earlier ++ output op) (step pane op) := by
  cases op with
  | enqueuePtyChunk chunk => exact conserves_enqueuePtyChunk chunk conserves
  | processPendingPtyWork turns =>
      rw [output, List.append_nil]
      exact conserves_processPendingPtyWork turns conserves

theorem conserves_run (ops : List PtyOp) {earlier : List UInt8} {pane : VtPane}
    (conserves : Conserves earlier pane) :
    Conserves (earlier ++ ops.flatMap output) (ops.foldl step pane) := by
  induction ops generalizing earlier pane with
  | nil => simpa using conserves
  | cons op ops ih =>
      rw [List.flatMap_cons, ← List.append_assoc]
      exact ih (conserves_step conserves op)

/-- After every run the terminal was given a beginning of the output, the unwritten parts of the
queued chunks are the rest of it in order, and the counter is their length. -/
theorem backlog_conserved (ops : List PtyOp) :
    (ops.foldl step spawned).terminal <+: ops.flatMap output ∧
      (ops.foldl step spawned).terminal ++ unwritten (ops.foldl step spawned).pendingPtyChunks =
        ops.flatMap output ∧
      (ops.foldl step spawned).pendingPtyBytes =
        (unwritten (ops.foldl step spawned).pendingPtyChunks).length := by
  have start : Conserves [] spawned :=
    ⟨fun chunk member => (by cases member), rfl, rfl⟩
  have run := conserves_run ops start
  exact ⟨⟨_, run.written⟩, run.written, run.counted⟩

end Run

end Boo.Runtime.PtyBacklog
