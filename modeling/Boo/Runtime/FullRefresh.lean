/- module: Boo/Runtime/FullRefresh
   digest: When the refresh after a full-refresh control sequence rebuilds every row. -/

import Boo.Runtime.VtBackend
import Boo.Lib.Runs

set_option autoImplicit false
set_option relaxedAutoImplicit false

namespace Boo.Runtime.FullRefresh

open Boo.Lib.Occurrences
open Boo.Lib.Runs
open Boo.Client.Snapshot
open Boo.Runtime.VtBackend

section Sequences

/-- The whole sequences that the list stands for. A colour change goes on to its terminator, BEL
or ESC and a backslash, and no byte that would cut it off comes before that. -/
def FullRefreshSequence (sequence : List UInt8) : Prop :=
  sequence ∈ screenSequences ∨ ∃ introducer ∈ colorSequences, ∃ body terminator,
    sequence = introducer ++ body ++ terminator ∧
      (∀ byte ∈ body, byte ∉ [0x07, 0x18, 0x1a, 0x1b]) ∧
        (terminator = [0x07] ∨ terminator = [0x1b, 0x5c])

/-- A listed sequence shows in a chunk and the 16 bytes that were observed before it. -/
def Triggers (observed bytes : List UInt8) : Prop :=
  bytes ≠ [] ∧ ∃ pattern ∈ fullRefreshControlSequences,
    pattern <:+: lastOf maxTail observed ++ bytes

theorem pattern_shape {pattern : List UInt8} (listed : pattern ∈ fullRefreshControlSequences) :
    (∃ rest, pattern = escapeByte :: rest) ∧ pattern.length ≤ maxTail + 1 := by
  have all : ∀ pattern ∈ fullRefreshControlSequences,
      pattern.head? = some escapeByte ∧ pattern.length ≤ maxTail + 1 := by decide
  obtain ⟨head, short⟩ := all pattern listed
  exact ⟨List.head?_eq_some_iff.mp head, short⟩

theorem shouldForce_iff (tail bytes : List UInt8) :
    shouldForceFullSnapshotRefresh tail bytes = true ↔
      bytes ≠ [] ∧ ∃ pattern ∈ fullRefreshControlSequences, pattern <:+: tail ++ bytes := by
  rw [shouldForceFullSnapshotRefresh]
  cases bytes with
  | nil => simp
  | cons byte bytes =>
      simp only [List.isEmpty_cons, Bool.false_eq_true, if_false, List.any_eq_true, beq_iff_eq,
        exists_eq_right, mem_windows_iff, ne_eq, reduceCtorEq, not_false_eq_true, true_and]

/-- No listed sequence shows where there is no escape byte. -/
theorem not_infix_of_no_escape {pattern bytes : List UInt8}
    (listed : pattern ∈ fullRefreshControlSequences) (plain : escapeByte ∉ bytes) :
    ¬ pattern <:+: bytes := by
  obtain ⟨rest, rfl⟩ := (pattern_shape listed).1
  exact fun occurs => plain (occurs.subset List.mem_cons_self)

/-- A listed sequence whose last byte is observed with a chunk triggers there. -/
theorem triggers_of_ends {observed bytes before pattern after : List UInt8}
    (listed : pattern ∈ fullRefreshControlSequences)
    (occurs : observed ++ bytes = before ++ pattern ++ after)
    (ends : observed.length < before.length + pattern.length) : Triggers observed bytes := by
  refine ⟨?_, pattern, listed, infix_lastOf_append occurs (pattern_shape listed).2 ends⟩
  rintro rfl
  have lengths := congrArg List.length occurs
  simp only [List.append_nil, List.length_append] at lengths
  omega

end Sequences

section Observation

/-- The tail ends what was observed; nothing before it that is not in it has an escape byte, as
long as it is shorter than it may be. -/
def TailOf (observed tail : List UInt8) : Prop :=
  ∃ skipped kept, observed = skipped ++ kept ∧ escapeByte ∉ skipped ∧ tail = lastOf maxTail kept

/-- What the tail does not hold of the last bytes begins no listed sequence. -/
theorem shouldForce_iff_triggers {observed tail : List UInt8} (tailOf : TailOf observed tail)
    (bytes : List UInt8) :
    shouldForceFullSnapshotRefresh tail bytes = true ↔ Triggers observed bytes := by
  obtain ⟨skipped, kept, rfl, plain, rfl⟩ := tailOf
  rw [shouldForce_iff, Triggers]
  refine and_congr_right fun _ => exists_congr fun pattern => and_congr_right fun listed => ?_
  rw [lastOf_append, List.append_assoc]
  constructor
  · exact fun occurs => occurs.trans (List.suffix_append _ _).isInfix
  · intro occurs
    obtain ⟨rest, rfl⟩ := (pattern_shape listed).1
    have absent : escapeByte ∉ lastOf (maxTail - kept.length) skipped :=
      fun member => plain ((lastOf_suffix _ _).subset member)
    exact infix_of_infix_append absent occurs

variable {pane : VtPane} {observed bytes : List UInt8}

/-- The shortcut of `observe_control_sequences` skips no trigger. -/
theorem observe_force (tailOf : TailOf observed pane.controlSequenceTail) :
    (pane.observeControlSequences bytes (bytes.contains escapeByte)).forceFullSnapshotRefresh =
        true ↔
      pane.forceFullSnapshotRefresh = true ∨ Triggers observed bytes := by
  rw [← shouldForce_iff_triggers tailOf, VtPane.observeControlSequences]
  split
  · rename_i shortcut
    obtain ⟨noTail, -, noEscape⟩ := shortcut
    rw [List.isEmpty_iff.mp noTail, shouldForce_iff, List.nil_append]
    have plain : escapeByte ∉ bytes := by simpa using noEscape
    have quiet : ¬ ∃ pattern ∈ fullRefreshControlSequences, pattern <:+: bytes := by
      rintro ⟨pattern, listed, occurs⟩
      exact not_infix_of_no_escape listed plain occurs
    exact (or_iff_left fun both => quiet both.2).symm
  · split <;> exact iff_of_eq (Bool.or_eq_true _ _)

theorem observe_tail (tailOf : TailOf observed pane.controlSequenceTail) :
    TailOf (observed ++ bytes)
      (pane.observeControlSequences bytes (bytes.contains escapeByte)).controlSequenceTail := by
  obtain ⟨skipped, kept, rfl, plain, tail⟩ := tailOf
  have updated : TailOf (skipped ++ kept ++ bytes)
      (updateControlSequenceTail pane.controlSequenceTail bytes) := by
    refine ⟨skipped, kept ++ bytes, List.append_assoc _ _ _, plain, ?_⟩
    rw [updateControlSequenceTail, tail, lastOf_lastOf_append]
    split
    · rename_i empty
      rw [List.isEmpty_iff.mp empty, List.append_nil]
    · rfl
  rw [VtPane.observeControlSequences]
  split
  · rename_i shortcut
    obtain ⟨noTail, -, noEscape⟩ := shortcut
    have nothing : pane.controlSequenceTail = [] := List.isEmpty_iff.mp noTail
    have noneKept : kept = [] := by
      rw [nothing, lastOf] at tail
      have long := List.drop_eq_nil_iff.mp tail.symm
      refine List.eq_nil_of_length_eq_zero ?_
      simp only [maxTail] at long
      omega
    refine ⟨skipped ++ kept ++ bytes, [], (List.append_nil _).symm, ?_, nothing⟩
    rw [noneKept, List.append_nil, List.mem_append, not_or]
    exact ⟨plain, by simpa using noEscape⟩
  · split <;> exact updated

theorem observe_nil (pane : VtPane) : pane.observeControlSequences [] false = pane := by
  rw [VtPane.observeControlSequences]
  split
  · rfl
  · split <;> simp [shouldForceFullSnapshotRefresh, updateControlSequenceTail]

end Observation

section Processing

theorem processTurns_frame (turns : Nat) (pane : VtPane) :
    (pane.processTurns turns).1.controlSequenceTail = pane.controlSequenceTail ∧
      (pane.processTurns turns).1.forceFullSnapshotRefresh =
        pane.forceFullSnapshotRefresh := by
  induction turns generalizing pane with
  | zero => exact ⟨rfl, rfl⟩
  | succ turns ih =>
      rw [VtPane.processTurns]
      split
      · exact ⟨rfl, rfl⟩
      · dsimp only
        split
        · exact ih _
        · exact ih _

theorem processPendingPtyWork_frame (turns : Nat) (pane : VtPane) :
    (pane.processPendingPtyWork turns).controlSequenceTail = pane.controlSequenceTail ∧
      (pane.processPendingPtyWork turns).forceFullSnapshotRefresh =
        pane.forceFullSnapshotRefresh := by
  rw [VtPane.processPendingPtyWork]
  have frame := processTurns_frame turns pane
  dsimp only
  split <;> exact frame

end Processing

section Run

variable {Style : Type}

/-- A worker's pane and snapshot, how many bytes the terminal had when the snapshot was refreshed
last, the bytes that were observed so far, and what was observed since that refresh: each chunk
with the bytes before it. -/
structure Watched (Style : Type) where
  pane : VtPane
  snapshot : TerminalSnapshot Style
  refreshedTo : Nat
  observed : List UInt8
  observations : List (List UInt8 × List UInt8)

inductive PaneOp (Style : Type)
  | enqueuePtyChunk (chunk : List UInt8)
  | processPendingPtyWork (turns : Nat)
  | writeVtBytes (bytes : List UInt8)
  | refreshSnapshot (render : Render Style)

def Watched.step (watched : Watched Style) : PaneOp Style → Watched Style
  | .enqueuePtyChunk chunk => { watched with
      pane := watched.pane.enqueuePtyChunk chunk
      observed := watched.observed ++ chunk
      observations := watched.observations ++ [(watched.observed, chunk)] }
  | .processPendingPtyWork turns => { watched with
      pane := watched.pane.processPendingPtyWork turns }
  | .writeVtBytes bytes => { watched with
      pane := watched.pane.writeVtBytes bytes
      observed := watched.observed ++ bytes
      observations := watched.observations ++ [(watched.observed, bytes)] }
  | .refreshSnapshot render =>
      let (pane, snapshot, _) := refreshSnapshot watched.pane watched.snapshot render
      { watched with
        pane := pane
        snapshot := snapshot
        refreshedTo := watched.pane.terminal.length
        observations := [] }

/-- A worker that has spawned its pane. -/
def Watched.spawn (snapshot : TerminalSnapshot Style) : Watched Style where
  pane := ⟨[], true, {}, [], 0, false, []⟩
  snapshot := snapshot
  refreshedTo := 0
  observed := []
  observations := []

/-- The last byte of a full-refresh control sequence was written to the terminal after the last
refresh. -/
def Watched.SequenceWritten (watched : Watched Style) : Prop :=
  ∃ before sequence after, FullRefreshSequence sequence ∧
    watched.pane.terminal = before ++ sequence ++ after ∧
      watched.refreshedTo < before.length + sequence.length

/-- A refresh after a sequence was written rebuilds every row. -/
def RefreshKept (watched : Watched Style) (op : PaneOp Style) : Prop :=
  ∀ render, op = .refreshSnapshot render → watched.SequenceWritten →
    (refreshSnapshot watched.pane watched.snapshot render).2.2 = render.rows.toNat

/-- When a refresh runs after a sequence was written, a listed sequence has shown in what was
observed since the refresh before, or the screen has another size, or every row is dirty. -/
def RefreshTriggered (watched : Watched Style) (op : PaneOp Style) : Prop :=
  ∀ render, op = .refreshSnapshot render → watched.SequenceWritten →
    (∃ observation ∈ watched.observations, Triggers observation.1 observation.2) ∨
      sizeChanged watched.snapshot render = true ∨ ∀ row ∈ render.lines, row.dirty = true

/-- What every operation keeps. -/
structure Watched.Known (watched : Watched Style) : Prop where
  tail : TailOf watched.observed watched.pane.controlSequenceTail
  force : watched.pane.forceFullSnapshotRefresh = true ↔
    ∃ observation ∈ watched.observations, Triggers observation.1 observation.2

theorem known_spawn (snapshot : TerminalSnapshot Style) : (Watched.spawn snapshot).Known := by
  refine ⟨⟨[], [], rfl, List.not_mem_nil, rfl⟩, ?_⟩
  simp [Watched.spawn]

variable {watched : Watched Style}

/-- Observing a chunk keeps what is known, whatever else it does to the pane. -/
theorem known_observe (known : watched.Known) (bytes : List UInt8) {pane : VtPane}
    (tail : pane.controlSequenceTail = (watched.pane.observeControlSequences bytes
      (bytes.contains escapeByte)).controlSequenceTail)
    (force : pane.forceFullSnapshotRefresh = (watched.pane.observeControlSequences bytes
      (bytes.contains escapeByte)).forceFullSnapshotRefresh) :
    ({ watched with
      pane := pane
      observed := watched.observed ++ bytes
      observations := watched.observations ++ [(watched.observed, bytes)] } :
        Watched Style).Known := by
  constructor
  · exact tail ▸ observe_tail known.tail
  · dsimp only
    rw [force, observe_force known.tail, known.force]
    simp [or_and_right, exists_or]

theorem known_step (known : watched.Known) (op : PaneOp Style) : (watched.step op).Known := by
  cases op with
  | enqueuePtyChunk chunk => exact known_observe known chunk rfl rfl
  | processPendingPtyWork turns =>
      obtain ⟨tail, force⟩ := processPendingPtyWork_frame turns watched.pane
      exact ⟨tail.symm ▸ known.tail, by rw [Watched.step]; exact force ▸ known.force⟩
  | writeVtBytes bytes =>
      cases bytes with
      | nil =>
          have still := observe_nil watched.pane
          exact known_observe known [] (congrArg VtPane.controlSequenceTail still.symm)
            (congrArg VtPane.forceFullSnapshotRefresh still.symm)
      | cons byte bytes => exact known_observe known (byte :: bytes) rfl rfl
  | refreshSnapshot render => exact ⟨known.tail, by simp [Watched.step, refreshSnapshot]⟩

/-- A refresh rebuilds every row when it is forced to, sees another size or finds them dirty. -/
theorem rebuilds_iff (pane : VtPane) (snapshot : TerminalSnapshot Style) (render : Render Style) :
    (refreshSnapshot pane snapshot render).2.2 = render.rows.toNat ↔
      pane.forceFullSnapshotRefresh = true ∨ sizeChanged snapshot render = true ∨
        ∀ row ∈ render.lines, row.dirty = true := by
  rw [refreshSnapshot, ← render.complete, List.countP_eq_length]
  simp only [rowDirty, Bool.or_eq_true]
  by_cases forced : pane.forceFullSnapshotRefresh = true
  · simp [forced]
  · by_cases resized : sizeChanged snapshot render = true
    · simp [resized]
    · simp [forced, resized]

theorem refreshKept_iff (known : watched.Known) (op : PaneOp Style) :
    RefreshKept watched op ↔ RefreshTriggered watched op := by
  refine forall_congr' fun render => forall_congr' fun _ => forall_congr' fun _ => ?_
  rw [rebuilds_iff, known.force]

/-- A sequence whose listed part came in since the last refresh is not lost. -/
theorem refreshKept_of_observed (known : watched.Known) (op : PaneOp Style)
    {observed bytes before pattern after : List UInt8}
    (since : (observed, bytes) ∈ watched.observations)
    (listed : pattern ∈ fullRefreshControlSequences)
    (occurs : observed ++ bytes = before ++ pattern ++ after)
    (ends : observed.length < before.length + pattern.length) : RefreshKept watched op := by
  rw [refreshKept_iff known]
  intro render _ _
  exact .inl ⟨_, since, triggers_of_ends listed occurs ends⟩

/-- Along every run, the first refresh after a full-refresh sequence rebuilds every row exactly
when each such refresh had its trigger observed since the refresh before. -/
theorem refreshKept_always_iff (snapshot : TerminalSnapshot Style) (ops : List (PaneOp Style)) :
    Always Watched.step RefreshKept (Watched.spawn snapshot) ops ↔
      Always Watched.step RefreshTriggered (Watched.spawn snapshot) ops :=
  always_congr (fun _ op known _ _ => known_step known op)
    (fun _ op known _ => refreshKept_iff known op) (known_spawn snapshot) (always_true _ ops)

/-- What a refresh that rebuilds every row leaves in the snapshot. -/
theorem rows_of_rebuilt {pane : VtPane} {snapshot : TerminalSnapshot Style} {render : Render Style}
    (rebuilt : (refreshSnapshot pane snapshot render).2.2 = render.rows.toNat) :
    (refreshSnapshot pane snapshot render).2.1.rowsData = render.lines.map RenderedRow.cells := by
  have every : ∀ row ∈ render.lines, rowDirty pane snapshot render row = true := by
    rw [refreshSnapshot, ← render.complete] at rebuilt
    exact List.countP_eq_length.mp rebuilt
  rw [refreshSnapshot]
  dsimp only
  generalize held : (if sizeChanged snapshot render || snapshot.rowsData.length != render.rows.toNat
    then _ else snapshot.rowsData) = rowsData
  have sized : rowsData.length = render.lines.length := by
    rw [← held, render.complete]
    split
    · simp only [List.length_append, List.length_take, List.length_replicate]
      omega
    · rename_i same
      simp only [Bool.or_eq_true, bne_iff_ne, not_or, ne_eq, not_not] at same
      exact same.2
  apply List.ext_getElem
  · rw [List.length_zipWith, sized, Nat.min_self, List.length_map]
  · intro i inside _
    rw [List.length_zipWith, sized, Nat.min_self] at inside
    rw [List.getElem_zipWith, List.getElem_map, every _ (List.getElem_mem inside), if_pos rfl]

end Run

section Lost

def refreshOf (dirty : Bool) : PaneOp Int32 :=
  .refreshSnapshot {
    cols := 1
    rows := 1
    title := ""
    pwd := ""
    cursor := ⟨false, false, 0, 0, 0⟩
    colors := ⟨⟨0, 0, 0⟩, ⟨0, 0, 0⟩, ⟨0, 0, 0⟩, false⟩
    lines := [⟨dirty, []⟩]
    complete := rfl }

/-- Two chunks come in, plain text and a change of the default background colour; a refresh runs
between their writes. -/
def refreshedBetween : List (PaneOp Int32) :=
  [.enqueuePtyChunk [0x61], .enqueuePtyChunk [0x1b, 0x5d, 0x31, 0x31, 0x3b, 0x23, 0x07],
    .processPendingPtyWork 1, refreshOf true, .processPendingPtyWork 1, refreshOf false]

def oneRow : TerminalSnapshot Int32 where
  cols := 1
  rows := 1
  title := ""
  pwd := ""
  cursor := ⟨false, false, 0, 0, 0⟩
  rowsData := [[]]
  rowRevisions := [1]
  colors := ⟨⟨0, 0, 0⟩, ⟨0, 0, 0⟩, ⟨0, 0, 0⟩, false⟩

theorem refresh_between_writes_loses_force :
    ¬ Always Watched.step RefreshKept (Watched.spawn oneRow) refreshedBetween := by
  rintro ⟨-, -, -, -, -, last, -⟩
  have sequence : FullRefreshSequence [0x1b, 0x5d, 0x31, 0x31, 0x3b, 0x23, 0x07] :=
    .inr ⟨[0x1b, 0x5d, 0x31, 0x31, 0x3b], by decide, [0x23], [0x07], rfl, by simp, .inl rfl⟩
  have kept := last _ rfl ⟨[0x61], _, [], sequence, by decide, by decide⟩
  revert kept
  decide

end Lost

end Boo.Runtime.FullRefresh
