/- module: Boo/Runtime/StoppedWorkers
   digest: What the last snapshot of a worker shows once the worker has stopped. -/

import Boo.Lib.Interleaving
import Boo.Runtime.PaneWorker

set_option autoImplicit false
set_option relaxedAutoImplicit false

namespace Boo.Runtime.StoppedWorkers

open Boo.Lib.Interleaving
open Boo.Client.Snapshot
open Boo.Runtime.VtBackend
open Boo.Runtime.FullRefresh
open Boo.Runtime.PtyBacklog (Conserves unwritten observe_frame conserves_enqueuePtyChunk
  conserves_processPendingPtyWork)
open Boo.Runtime.PaneWorker
open Boo.Runtime.PaneWorker.World

/-- The reader of the process sends no empty chunk. -/
def Prints {Style : Type} : Action Style → Prop
  | .work received _ _ _ => ∀ bytes, .chunk bytes ∈ received → bytes ≠ []
  | _ => True

/-- What the process has printed, of what a worker has received. -/
def printedBy (received : List Received) : List UInt8 :=
  received.flatMap fun message =>
    match message with
    | .chunk bytes => bytes
    | _ => []

/-- What the server has written to the terminal past the process. -/
def vtBytesOf (received : List Received) : List UInt8 :=
  received.flatMap fun message =>
    match message with
    | .command (.writeVtBytes bytes) => bytes
    | _ => []

variable {Style : Type} {decoders : Decoders} {clock : Nat → Nat} {world : World Style}

/-- Every queued chunk has something left to write. -/
def Unfinished (pane : VtPane) : Prop :=
  ∀ chunk ∈ pane.pendingPtyChunks, chunk.offset < chunk.bytes.length

theorem Unfinished.unwritten {pane : VtPane} (unfinished : Unfinished pane) :
    unwritten pane.pendingPtyChunks = [] ↔ pane.pendingPtyChunks = [] := by
  constructor
  · intro nothing
    cases queue : pane.pendingPtyChunks with
    | nil => rfl
    | cons chunk rest =>
        rw [queue, PtyBacklog.unwritten, List.flatMap_cons, List.append_eq_nil_iff] at nothing
        have short : chunk.bytes.length ≤ chunk.offset := List.drop_eq_nil_iff.mp nothing.1
        have more := unfinished chunk (queue ▸ List.mem_cons_self)
        omega
  · intro none
    rw [none]
    rfl

theorem unfinished_processTurns (turns : Nat) {pane : VtPane} (unfinished : Unfinished pane) :
    Unfinished (pane.processTurns turns).1 := by
  induction turns generalizing pane with
  | zero => exact unfinished
  | succ turns ih =>
      rw [VtPane.processTurns]
      split
      · exact unfinished
      · rename_i chunk rest queue
        have others : ∀ other ∈ rest, other.offset < other.bytes.length := fun other member =>
          unfinished other (queue ▸ List.mem_cons_of_mem _ member)
        dsimp only
        split
        · exact ih others
        · apply ih
          intro other member
          dsimp only at member
          split at member
          · exact others other member
          · rename_i longer
            rcases List.mem_cons.mp member with rfl | later
            · exact Nat.lt_of_not_le longer
            · exact others other later

/-- A beginning of what was printed is in the terminal, with what was written past the process
between it, and the queue has the rest. -/
structure Queued (printed vtBytes : List UInt8) (pane : VtPane) : Prop where
  offsets : ∀ chunk ∈ pane.pendingPtyChunks, chunk.offset ≤ chunk.bytes.length
  counted : pane.pendingPtyBytes = (unwritten pane.pendingPtyChunks).length
  unfinished : Unfinished pane
  written : ∃ begun, Interleaves begun vtBytes pane.terminal ∧
    begun ++ unwritten pane.pendingPtyChunks = printed

variable {printed vtBytes : List UInt8} {pane : VtPane}

theorem Queued.of_same {other : VtPane} (queued : Queued printed vtBytes pane)
    (terminal : other.terminal = pane.terminal)
    (queue : other.pendingPtyChunks = pane.pendingPtyChunks)
    (counter : other.pendingPtyBytes = pane.pendingPtyBytes) : Queued printed vtBytes other := by
  refine ⟨?_, ?_, ?_, ?_⟩
  · rw [queue]
    exact queued.offsets
  · rw [counter, queue]
    exact queued.counted
  · rw [Unfinished, queue]
    exact queued.unfinished
  · rw [terminal, queue]
    exact queued.written

theorem Queued.conserves (queued : Queued printed vtBytes pane) :
    Conserves (pane.terminal ++ unwritten pane.pendingPtyChunks) pane :=
  ⟨queued.offsets, rfl, queued.counted⟩

theorem Queued.enqueue (queued : Queued printed vtBytes pane) {bytes : List UInt8}
    (some_ : bytes ≠ []) : Queued (printed ++ bytes) vtBytes (pane.enqueuePtyChunk bytes) := by
  obtain ⟨terminal, queue, -⟩ := observe_frame pane bytes (bytes.contains escapeByte)
  have conserves := conserves_enqueuePtyChunk bytes queued.conserves
  have sameTerminal : (pane.enqueuePtyChunk bytes).terminal = pane.terminal := terminal
  refine ⟨conserves.offsets, conserves.counted, fun chunk member => ?_, ?_⟩
  · have member : chunk ∈ (pane.observeControlSequences bytes
        (bytes.contains escapeByte)).pendingPtyChunks ++
          [⟨bytes, 0, bytes.contains escapeByte⟩] := member
    rw [queue, List.mem_append, List.mem_singleton] at member
    rcases member with earlier | rfl
    · exact queued.unfinished chunk earlier
    · exact List.length_pos_of_ne_nil some_
  · obtain ⟨begun, interleaves, rest⟩ := queued.written
    have whole := conserves.written
    rw [sameTerminal, List.append_assoc] at whole
    refine ⟨begun, sameTerminal ▸ interleaves, ?_⟩
    rw [List.append_cancel_left whole, ← List.append_assoc, rest]

/-- What is written to the terminal was at the front of the queue. -/
theorem Queued.process (queued : Queued printed vtBytes pane) (turns : Nat) :
    Queued printed vtBytes (pane.processPendingPtyWork turns) := by
  have conserves := conserves_processPendingPtyWork turns queued.conserves
  have processed : (pane.processPendingPtyWork turns).terminal =
        (pane.processTurns turns).1.terminal ∧
      (pane.processPendingPtyWork turns).pendingPtyChunks =
        (pane.processTurns turns).1.pendingPtyChunks := by
    rw [VtPane.processPendingPtyWork]
    dsimp only
    split <;> exact ⟨rfl, rfl⟩
  refine ⟨conserves.offsets, conserves.counted, ?_, ?_⟩
  · rw [Unfinished, processed.2]
    exact unfinished_processTurns turns queued.unfinished
  · obtain ⟨begun, interleaves, rest⟩ := queued.written
    have longer := (processTurns_clean turns pane).1
    rw [← processed.1] at longer
    obtain ⟨more, grown⟩ := List.prefix_of_prefix_length_le (List.prefix_append _ _)
      ⟨_, conserves.written⟩ longer
    have whole := conserves.written
    rw [← grown, List.append_assoc] at whole
    refine ⟨begun ++ more, grown ▸ interleaves.append_left more, ?_⟩
    rw [List.append_assoc, List.append_cancel_left whole, rest]

theorem Queued.writeVtBytes (queued : Queued printed vtBytes pane) (bytes : List UInt8) :
    Queued printed (vtBytes ++ bytes) (pane.writeVtBytes bytes) := by
  cases bytes with
  | nil =>
      rw [List.append_nil]
      exact queued
  | cons byte bytes =>
      obtain ⟨terminal, queue, counter⟩ :=
        observe_frame pane (byte :: bytes) ((byte :: bytes).contains escapeByte)
      have written : (pane.writeVtBytes (byte :: bytes)).terminal =
          pane.terminal ++ byte :: bytes := congrArg (· ++ byte :: bytes) terminal
      have kept : (pane.writeVtBytes (byte :: bytes)).pendingPtyChunks = pane.pendingPtyChunks :=
        queue
      obtain ⟨begun, interleaves, rest⟩ := queued.written
      refine ⟨kept ▸ queued.offsets, ?_, ?_, begun, ?_, ?_⟩
      · rw [kept]
        exact counter.trans queued.counted
      · rw [Unfinished, kept]
        exact queued.unfinished
      · exact written ▸ interleaves.append_right (byte :: bytes)
      · rw [kept, rest]

theorem Queued.receive (queued : Queued printed vtBytes world.watched.pane) {received : Received}
    (prints : ∀ bytes, received = .chunk bytes → bytes ≠ []) :
    Queued (printed ++ printedBy [received]) (vtBytes ++ vtBytesOf [received])
      (world.receive decoders clock received).watched.pane := by
  have silent (nothing : printedBy [received] = []) (none : vtBytesOf [received] = [])
      {other : VtPane} (terminal : other.terminal = world.watched.pane.terminal)
      (queue : other.pendingPtyChunks = world.watched.pane.pendingPtyChunks)
      (counter : other.pendingPtyBytes = world.watched.pane.pendingPtyBytes) :
      Queued (printed ++ printedBy [received]) (vtBytes ++ vtBytesOf [received]) other := by
    rw [nothing, none, List.append_nil, List.append_nil]
    exact queued.of_same terminal queue counter
  cases received with
  | chunk bytes =>
      have all : printedBy [.chunk bytes] = bytes := List.append_nil bytes
      have none : vtBytesOf [.chunk bytes] = [] := rfl
      rw [all, none, List.append_nil]
      exact queued.enqueue (prints bytes rfl)
  | exited => exact silent rfl rfl rfl rfl rfl
  | command command =>
      cases command with
      | resize succeeds => cases succeeds <;> exact silent rfl rfl rfl rfl rfl
      | writeVtBytes bytes =>
          have all : vtBytesOf [.command (.writeVtBytes bytes)] = bytes := List.append_nil bytes
          have none : printedBy [.command (.writeVtBytes bytes)] = [] := rfl
          rw [all, none, List.append_nil]
          exact queued.writeVtBytes bytes
      | scrollViewportDelta delta =>
          rw [World.receive, handleWorkerCommand]
          split <;> exact silent rfl rfl rfl rfl rfl
      | scrollViewportTop | scrollViewportBottom | passed | shutdown =>
          exact silent rfl rfl rfl rfl rfl

theorem printedBy_append (received later : List Received) :
    printedBy (received ++ later) = printedBy received ++ printedBy later :=
  List.flatMap_append

theorem vtBytesOf_append (received later : List Received) :
    vtBytesOf (received ++ later) = vtBytesOf received ++ vtBytesOf later :=
  List.flatMap_append

theorem Queued.receiveAll (queued : Queued printed vtBytes world.watched.pane)
    {received : List Received} (prints : ∀ bytes, .chunk bytes ∈ received → bytes ≠ []) :
    Queued (printed ++ printedBy received) (vtBytes ++ vtBytesOf received)
      (received.foldl (World.receive decoders clock) world).watched.pane := by
  induction received generalizing world printed vtBytes with
  | nil =>
      rw [printedBy, vtBytesOf, List.flatMap_nil, List.flatMap_nil, List.append_nil,
        List.append_nil]
      exact queued
  | cons first received ih =>
      have once : Queued (printed ++ printedBy [first]) (vtBytes ++ vtBytesOf [first])
          (world.receive decoders clock first).watched.pane :=
        queued.receive fun bytes same => prints bytes (same ▸ List.mem_cons_self)
      have rest := ih once fun bytes member => prints bytes (List.mem_cons_of_mem _ member)
      rw [← List.singleton_append, printedBy_append, vtBytesOf_append, ← List.append_assoc,
        ← List.append_assoc]
      exact rest

/-- What a worker takes from its channels in an action. -/
def receivedIn (world : World Style) : Action Style → List Received
  | .work received _ _ _ => if world.phase = .working then received else []
  | _ => []

/-- What it takes from them along a run. -/
def receivedAlong (decoders : Decoders) (clock : Nat → Nat) :
    World Style → List (Action Style) → List Received
  | _, [] => []
  | world, action :: actions =>
      receivedIn world action ++
        receivedAlong decoders clock (world.step decoders clock action) actions

theorem Queued.step (queued : Queued printed vtBytes world.watched.pane) {action : Action Style}
    (prints : Prints action) :
    Queued (printed ++ printedBy (receivedIn world action))
      (vtBytes ++ vtBytesOf (receivedIn world action))
      (world.step decoders clock action).watched.pane := by
  have silent {other : World Style} (same : other.watched.pane = world.watched.pane) :
      Queued (printed ++ printedBy []) (vtBytes ++ vtBytesOf []) other.watched.pane := by
    rw [printedBy, vtBytesOf, List.flatMap_nil, List.flatMap_nil, List.append_nil,
      List.append_nil, same]
    exact queued
  cases action with
  | work messages turns due refreshed =>
      rw [World.step, receivedIn]
      split
      · have fed := (@Queued.receiveAll Style decoders clock world printed vtBytes queued
          messages prints).process turns
        rw [World.work]
        generalize messages.foldl (World.receive decoders clock) world = other at fed
        rw [World.refreshDue]
        split
        · cases refreshed with
          | ok render => exact fed.of_same rfl rfl rfl
          | failed left => exact fed
        · exact fed
      · exact silent rfl
  | publish =>
      rw [World.step]
      split <;> exact silent rfl
  | poll => exact silent rfl

theorem Queued.along (queued : Queued printed vtBytes world.watched.pane)
    {actions : List (Action Style)} (prints : ∀ action ∈ actions, Prints action) :
    Queued (printed ++ printedBy (receivedAlong decoders clock world actions))
      (vtBytes ++ vtBytesOf (receivedAlong decoders clock world actions))
      (actions.foldl (World.step decoders clock) world).watched.pane := by
  induction actions generalizing world printed vtBytes with
  | nil =>
      rw [receivedAlong, printedBy, vtBytesOf, List.flatMap_nil, List.flatMap_nil,
        List.append_nil, List.append_nil]
      exact queued
  | cons action actions ih =>
      have once : Queued (printed ++ printedBy (receivedIn world action))
          (vtBytes ++ vtBytesOf (receivedIn world action))
          (world.step decoders clock action).watched.pane :=
        queued.step (prints action List.mem_cons_self)
      have rest := ih once fun other member => prints other (List.mem_cons_of_mem _ member)
      rw [receivedAlong, printedBy_append, vtBytesOf_append, ← List.append_assoc,
        ← List.append_assoc]
      exact rest

/-- When a worker stops, its terminal has a beginning of what the process printed, with what the
server wrote past it between, and the queue has the rest; and the last snapshot shows all of it
exactly if that queue is empty: what is queued when the exit is read is not shown. -/
theorem stopped_shows_iff (decoders : Decoders) (clock : Nat → Nat)
    (snapshot : TerminalSnapshot Style) (actions : List (Action Style))
    (prints : ∀ action ∈ actions, Prints action)
    (stopped : (after decoders clock snapshot actions).phase = .stopped)
    (kept : (after decoders clock snapshot actions).refreshFailed = false) :
    let world := after decoders clock snapshot actions
    let received := receivedAlong decoders clock (spawn snapshot) actions
    (∃ begun, Interleaves begun (vtBytesOf received) world.watched.pane.terminal ∧
        begun ++ unwritten world.watched.pane.pendingPtyChunks = printedBy received) ∧
      (world.shownTo = (printedBy received).length + (vtBytesOf received).length ↔
        world.watched.pane.pendingPtyChunks = []) := by
  have spawned : Queued [] [] (spawn snapshot).watched.pane :=
    ⟨by simp [spawn, Watched.spawn], rfl, by simp [spawn, Watched.spawn, Unfinished],
      [], .nil, rfl⟩
  have queued : Queued (printedBy (receivedAlong decoders clock (spawn snapshot) actions))
      (vtBytesOf (receivedAlong decoders clock (spawn snapshot) actions))
      (after decoders clock snapshot actions).watched.pane := spawned.along prints
  have shown := shown_after decoders clock snapshot actions
  have settled := settled_shows decoders clock snapshot actions
  obtain ⟨begun, interleaves, rest⟩ := queued.written
  dsimp only
  refine ⟨⟨begun, interleaves, rest⟩, ?_⟩
  have written := interleaves.length
  have lengths := congrArg List.length rest
  rw [List.length_append] at lengths
  rw [← queued.unfinished.unwritten, ← List.length_eq_zero_iff]
  constructor
  · intro whole
    have most := shown.shown.trans shown.clean.1
    omega
  · intro none
    have empty := queued.unfinished.unwritten.mp (List.length_eq_zero_iff.mp none)
    have notPublishing : ∀ snapshotChanged, (after decoders clock snapshot actions).phase ≠
        .publishing snapshotChanged := by
      intro snapshotChanged
      rw [stopped]
      exact fun same => by cases same
    have all := (settled notPublishing empty kept).2
    omega

def blankRender : Render Int32 where
  cols := 1
  rows := 1
  title := ""
  pwd := ""
  cursor := ⟨false, false, 0, 0, 0⟩
  colors := ⟨⟨0, 0, 0⟩, ⟨0, 0, 0⟩, ⟨0, 0, 0⟩, false⟩
  lines := [⟨true, []⟩]
  complete := rfl

def noDecoders : Decoders := ⟨fun _ => none, fun _ => none⟩

/-- The server sets the cursor of a new pane; the last chunk of its process comes together with
the exit, and the time is up after `turns` slices. -/
def lastOutput (turns : Nat) : List (Action Int32) :=
  [.work [.command (.writeVtBytes [0x1b, 0x63])] 0 true (.ok blankRender), .publish,
    .work [.chunk [0x61, 0x62], .exited] turns true (.ok blankRender), .publish]

/-- The chunk that is written is shown, the one that is queued is lost. -/
theorem stopped_shows_iff_lastOutput :
    (after noDecoders id oneRow (lastOutput 1)).shownTo = 4 ∧
      (after noDecoders id oneRow (lastOutput 0)).shownTo ≠ 4 := by
  have prints : ∀ turns, ∀ action ∈ lastOutput turns, Prints action := by
    intro turns action member
    simp only [lastOutput, List.mem_cons, List.not_mem_nil, or_false] at member
    rcases member with rfl | rfl | rfl | rfl
    · exact fun bytes chunk => by simp at chunk
    · trivial
    · intro bytes chunk
      simp only [List.mem_cons, Received.chunk.injEq, List.not_mem_nil, or_false,
        reduceCtorEq] at chunk
      exact chunk ▸ List.cons_ne_nil _ _
    · trivial
  constructor
  · exact (stopped_shows_iff noDecoders id oneRow (lastOutput 1) (prints 1) rfl rfl).2.mpr rfl
  · intro whole
    have none := (stopped_shows_iff noDecoders id oneRow (lastOutput 0) (prints 0) rfl rfl).2.mp
      whole
    cases none

end Boo.Runtime.StoppedWorkers
