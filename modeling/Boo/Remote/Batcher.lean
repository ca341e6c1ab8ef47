/- module: Boo/Remote/Batcher
   digest: The outbound batcher of remote_batcher.rs and which frames of each slot it keeps. -/

import Boo.Lib.KeyedList
import Boo.Lib.Segments
import Boo.Server.Frames

set_option autoImplicit false
set_option relaxedAutoImplicit false

namespace Boo.Remote.Batcher

open Boo.Lib.KeyedList
open Boo.Lib.Segments
open Boo.Wire.Message
open Boo.Server.Frames

inductive OutboundMessage (F : Type)
  | frame (frame : F)
  | screenUpdate (frame : F)
  | paneUpdate (paneId : PaneId) (focused : Bool) (frame : F)
  deriving DecidableEq

namespace OutboundMessage

variable {F G : Type}

/-- The frame a message carries. -/
def content : OutboundMessage F → F
  | frame f => f
  | screenUpdate f => f
  | paneUpdate _ _ f => f

def map (f : F → G) : OutboundMessage F → OutboundMessage G
  | frame x => frame (f x)
  | screenUpdate x => screenUpdate (f x)
  | paneUpdate paneId focused x => paneUpdate paneId focused (f x)

@[simp] theorem content_map (f : F → G) (message : OutboundMessage F) :
    (message.map f).content = f message.content := by
  cases message <;> rfl

end OutboundMessage

inductive CoalescibleFrameKind
  | tabList | uiRuntimeState | uiAppearance
  deriving DecidableEq, Repr

def coalescibleFrameKind (ty : Option MessageType) : Option CoalescibleFrameKind :=
  match ty with
  | some .tabList => some .tabList
  | some .uiRuntimeState => some .uiRuntimeState
  | some .uiAppearance => some .uiAppearance
  | _ => none

def priorityFrame (ty : Option MessageType) : Bool :=
  match ty with
  | some .authOk | some .authFail | some .errorMsg | some .heartbeatAck | some .tabCreated => true
  | _ => false

/-- `order` and `frames` of the source are one keyed queue here. -/
structure PendingPaneFrames (F : Type) where
  frames : Keyed PaneId F
  coalesced : Nat

def PendingPaneFrames.set {F : Type} (pending : PendingPaneFrames F) (paneId : PaneId)
    (frame : F) : PendingPaneFrames F where
  frames := pending.frames.set paneId frame
  coalesced :=
    if (pending.frames.value paneId).isSome then pending.coalesced + 1 else pending.coalesced

/-- `take_all` drains the frames and leaves the counter. -/
def PendingPaneFrames.drained {F : Type} (pending : PendingPaneFrames F) :
    PendingPaneFrames F where
  frames := .empty
  coalesced := pending.coalesced

/-- The local variables of `collect_outbound_batch`. -/
structure BatchState (F : Type) where
  frames : List F
  pendingScreen : Option F
  pendingFocusedPanes : PendingPaneFrames F
  pendingPassivePanes : PendingPaneFrames F
  pendingControl : Keyed CoalescibleFrameKind F
  messageCount : Nat
  screenUpdates : Nat
  emittedScreenFrames : Nat
  coalescedControlFrames : Nat

structure OutboundBatch (F : Type) where
  frames : List F
  messageCount : Nat
  coalescedScreenUpdates : Nat
  coalescedPaneUpdates : Nat
  coalescedControlFrames : Nat

namespace BatchState

variable {F : Type}

def start : BatchState F where
  frames := []
  pendingScreen := none
  pendingFocusedPanes := ⟨.empty, 0⟩
  pendingPassivePanes := ⟨.empty, 0⟩
  pendingControl := .empty
  messageCount := 0
  screenUpdates := 0
  emittedScreenFrames := 0
  coalescedControlFrames := 0

def emit (st : BatchState F) (frame : F) : BatchState F :=
  { st with frames := st.frames ++ [frame] }

def flushControl (st : BatchState F) : BatchState F :=
  { st with
    frames := st.frames ++ st.pendingControl.takeAll
    pendingControl := .empty }

def flushScreen (st : BatchState F) : BatchState F :=
  { st with
    frames := st.frames ++ st.pendingScreen.toList
    pendingScreen := none
    emittedScreenFrames := st.emittedScreenFrames + st.pendingScreen.toList.length }

/-- The closure `flush_pane_updates`: focused panes, the screen, passive panes. -/
def flushPaneUpdates (st : BatchState F) : BatchState F :=
  let focused : BatchState F := { st with
    frames := st.frames ++ st.pendingFocusedPanes.frames.takeAll
    pendingFocusedPanes := st.pendingFocusedPanes.drained }
  let screen := focused.flushScreen
  { screen with
    frames := screen.frames ++ screen.pendingPassivePanes.frames.takeAll
    pendingPassivePanes := screen.pendingPassivePanes.drained }

end BatchState

section Batcher

variable {F : Type} (frameType : F → Option MessageType) (coalesceScreenUpdates : Bool)

def pushFrame (st : BatchState F) (frame : F) : BatchState F :=
  match coalescibleFrameKind (frameType frame) with
  | some kind =>
      { st with
        coalescedControlFrames :=
          if (st.pendingControl.value kind).isSome then st.coalescedControlFrames + 1
          else st.coalescedControlFrames
        pendingControl := st.pendingControl.set kind frame }
  | none =>
      if priorityFrame (frameType frame) then st.flushControl.emit frame
      else st.flushControl.flushPaneUpdates.emit frame

def pushScreenUpdate (st : BatchState F) (frame : F) : BatchState F :=
  if coalesceScreenUpdates then
    { st with
      screenUpdates := st.screenUpdates + 1
      pendingScreen := some frame }
  else
    let flushed := st.flushControl.flushScreen.emit frame
    { flushed with
      screenUpdates := st.screenUpdates + 1
      emittedScreenFrames := flushed.emittedScreenFrames + 1 }

def pushPaneUpdate (st : BatchState F) (paneId : PaneId) (focused : Bool) (frame : F) :
    BatchState F :=
  if focused then
    { st with pendingFocusedPanes := st.pendingFocusedPanes.set paneId frame }
  else if coalesceScreenUpdates then
    { st with pendingPassivePanes := st.pendingPassivePanes.set paneId frame }
  else st.flushControl.flushPaneUpdates.emit frame

/-- The closure `push`. -/
def push (st : BatchState F) (message : OutboundMessage F) : BatchState F :=
  let pushed :=
    match message with
    | .frame frame => pushFrame frameType st frame
    | .screenUpdate frame => pushScreenUpdate coalesceScreenUpdates st frame
    | .paneUpdate paneId focused frame =>
        pushPaneUpdate coalesceScreenUpdates st paneId focused frame
  { pushed with messageCount := st.messageCount + 1 }

def finish (st : BatchState F) : OutboundBatch F :=
  let last := st.flushControl.flushPaneUpdates
  { frames := last.frames
    messageCount := last.messageCount
    coalescedScreenUpdates := last.screenUpdates - last.emittedScreenFrames
    coalescedPaneUpdates := last.pendingFocusedPanes.coalesced + last.pendingPassivePanes.coalesced
    coalescedControlFrames := last.coalescedControlFrames }

/-- `available` is what `try_recv` finds queued behind the first message. -/
def collectOutboundBatch (first : OutboundMessage F) (available : List (OutboundMessage F)) :
    OutboundBatch F :=
  finish ((first :: available).foldl (push frameType coalesceScreenUpdates) .start)

end Batcher

section Naturality

variable {F G : Type} (f : F → G)

def PendingPaneFrames.map (pending : PendingPaneFrames F) : PendingPaneFrames G where
  frames := pending.frames.map f
  coalesced := pending.coalesced

def BatchState.map (st : BatchState F) : BatchState G where
  frames := st.frames.map f
  pendingScreen := st.pendingScreen.map f
  pendingFocusedPanes := st.pendingFocusedPanes.map f
  pendingPassivePanes := st.pendingPassivePanes.map f
  pendingControl := st.pendingControl.map f
  messageCount := st.messageCount
  screenUpdates := st.screenUpdates
  emittedScreenFrames := st.emittedScreenFrames
  coalescedControlFrames := st.coalescedControlFrames

private theorem map_set_pane (pending : PendingPaneFrames F) (paneId : PaneId) (frame : F) :
    (pending.set paneId frame).map f = (pending.map f).set paneId (f frame) := by
  simp only [PendingPaneFrames.set, PendingPaneFrames.map, Keyed.map_set,
    Keyed.isSome_value_map]

private theorem map_emit (st : BatchState F) (frame : F) :
    (st.emit frame).map f = (st.map f).emit (f frame) := by
  simp only [BatchState.emit, BatchState.map, List.map_append, List.map_singleton]

private theorem map_flushControl (st : BatchState F) :
    st.flushControl.map f = (st.map f).flushControl := by
  simp only [BatchState.flushControl, BatchState.map, List.map_append, Keyed.takeAll_map,
    Keyed.map_empty]

private theorem map_flushScreen (st : BatchState F) :
    st.flushScreen.map f = (st.map f).flushScreen := by
  cases st with
  | mk frames screen focused passive control count updates emitted coalesced =>
      cases screen <;> simp [BatchState.flushScreen, BatchState.map]

private theorem map_flushPaneUpdates (st : BatchState F) :
    st.flushPaneUpdates.map f = (st.map f).flushPaneUpdates := by
  cases st with
  | mk frames screen focused passive control count updates emitted coalesced =>
      cases screen <;>
        simp [BatchState.flushPaneUpdates, BatchState.flushScreen, BatchState.map,
          PendingPaneFrames.map, PendingPaneFrames.drained, Keyed.takeAll_map]

/-- The batcher reads nothing of a frame but its type. -/
theorem push_map (typeF : F → Option MessageType) (typeG : G → Option MessageType)
    (same : ∀ frame, typeG (f frame) = typeF frame) (coalesce : Bool) (st : BatchState F)
    (message : OutboundMessage F) :
    (push typeF coalesce st message).map f = push typeG coalesce (st.map f) (message.map f) := by
  cases message with
  | frame frame =>
      simp only [push, OutboundMessage.map, pushFrame, same]
      cases coalescibleFrameKind (typeF frame) with
      | some kind =>
          simp only [BatchState.map, Keyed.map_set, Keyed.isSome_value_map]
      | none =>
          dsimp only
          split
          · have moved := map_emit f st.flushControl frame
            rw [map_flushControl] at moved
            rw [← moved]
            rfl
          · have moved := map_emit f st.flushControl.flushPaneUpdates frame
            rw [map_flushPaneUpdates, map_flushControl] at moved
            rw [← moved]
            rfl
  | screenUpdate frame =>
      simp only [push, OutboundMessage.map, pushScreenUpdate]
      split
      · rfl
      · have moved := map_emit f st.flushControl.flushScreen frame
        rw [map_flushScreen, map_flushControl] at moved
        rw [← moved]
        rfl
  | paneUpdate paneId focused frame =>
      simp only [push, OutboundMessage.map, pushPaneUpdate]
      split
      · simp only [BatchState.map, map_set_pane]
      · split
        · simp only [BatchState.map, map_set_pane]
        · have moved := map_emit f st.flushControl.flushPaneUpdates frame
          rw [map_flushPaneUpdates, map_flushControl] at moved
          rw [← moved]
          rfl

theorem frames_collectOutboundBatch_map (typeF : F → Option MessageType)
    (typeG : G → Option MessageType) (same : ∀ frame, typeG (f frame) = typeF frame)
    (coalesce : Bool) (first : OutboundMessage F) (available : List (OutboundMessage F)) :
    (collectOutboundBatch typeG coalesce (first.map f)
        (available.map (OutboundMessage.map f))).frames =
      (collectOutboundBatch typeF coalesce first available).frames.map f := by
  have run : ∀ (messages : List (OutboundMessage F)) (st : BatchState F),
      (messages.map (OutboundMessage.map f)).foldl (push typeG coalesce) (st.map f) =
        (messages.foldl (push typeF coalesce) st).map f := by
    intro messages
    induction messages with
    | nil => intro st; rfl
    | cons message messages ih =>
        intro st
        rw [List.map_cons, List.foldl_cons, ← push_map f typeF typeG same, ih]
        rfl
  have start : (BatchState.start : BatchState G) = (BatchState.start : BatchState F).map f := rfl
  have final := run (first :: available) .start
  rw [List.map_cons, ← start] at final
  rw [collectOutboundBatch, final, collectOutboundBatch, finish, finish, ← map_flushControl,
    ← map_flushPaneUpdates]
  rfl

private theorem exists_lift {P : F → Prop} (messages : List (OutboundMessage F))
    (all : ∀ message ∈ messages, P message.content) :
    ∃ lifted : List (OutboundMessage {frame // P frame}),
      lifted.map (OutboundMessage.map Subtype.val) = messages := by
  induction messages with
  | nil => exact ⟨[], rfl⟩
  | cons message messages ih =>
      obtain ⟨lifted, same⟩ := ih fun other member => all other (List.mem_cons_of_mem _ member)
      have holds := all message List.mem_cons_self
      cases message with
      | frame frame => exact ⟨.frame ⟨frame, holds⟩ :: lifted, by rw [List.map_cons, same]; rfl⟩
      | screenUpdate frame =>
          exact ⟨.screenUpdate ⟨frame, holds⟩ :: lifted, by rw [List.map_cons, same]; rfl⟩
      | paneUpdate paneId focused frame =>
          exact ⟨.paneUpdate paneId focused ⟨frame, holds⟩ :: lifted,
            by rw [List.map_cons, same]; rfl⟩

/-- A batch emits queued frames only. -/
theorem collectOutboundBatch_forall {P : F → Prop} (frameType : F → Option MessageType)
    (coalesce : Bool) (first : OutboundMessage F) (available : List (OutboundMessage F))
    (all : ∀ message ∈ first :: available, P message.content) :
    ∀ frame ∈ (collectOutboundBatch frameType coalesce first available).frames, P frame := by
  obtain ⟨lifted, same⟩ := exists_lift (first :: available) all
  cases lifted with
  | nil => cases same
  | cons head tail =>
      rw [List.map_cons, List.cons.injEq] at same
      obtain ⟨rfl, rfl⟩ := same
      intro frame member
      rw [frames_collectOutboundBatch_map Subtype.val (fun frame => frameType frame.val) frameType
        (fun _ => rfl), List.mem_map] at member
      obtain ⟨source, -, rfl⟩ := member
      exact source.property

end Naturality

/-! The frames of one slot: the legacy screen, or one pane. -/

inductive Slot
  | screen
  | pane (paneId : PaneId)
  deriving DecidableEq

section Slots

variable {F : Type}

/-- The frame that `message` puts into the first pending place of a slot. -/
def leading (slot : Slot) : OutboundMessage F → Option F
  | .frame _ => none
  | .screenUpdate frame => if slot = .screen then some frame else none
  | .paneUpdate paneId focused frame =>
      if slot = .pane paneId ∧ focused = true then some frame else none

/-- The frame that `message` puts into the passive place of a pane. -/
def trailing (slot : Slot) : OutboundMessage F → Option F
  | .paneUpdate paneId focused frame =>
      if slot = .pane paneId ∧ focused = false then some frame else none
  | _ => none

/-- A frame that is neither coalescible nor a priority frame flushes everything before it. -/
def isBarrier (frameType : F → Option MessageType) : OutboundMessage F → Bool
  | .frame frame =>
      (coalescibleFrameKind (frameType frame)).isNone && !priorityFrame (frameType frame)
  | _ => false

/-- What a segment without barriers leaves of a slot: its last leading frame, then its last
trailing one. -/
def survivors (slot : Slot) (segment : List (OutboundMessage F)) : List F :=
  (segment.filterMap (leading slot)).getLast?.toList ++
    (segment.filterMap (trailing slot)).getLast?.toList

/-- The frames of a slot that the queue contains, before any coalescing. -/
def slotFrame (slot : Slot) (message : OutboundMessage F) : Option F :=
  (leading slot message).or (trailing slot message)

end Slots

section Projection

variable {F U : Type} (frameType : F → Option MessageType) (slot : Slot) (pick : F → Option U)

/-- `pick` reads the frames of `slot` only. -/
def Reads (message : OutboundMessage F) : Prop :=
  slotFrame slot message = none → pick message.content = none

/-- The pending places of other slots hold nothing that `pick` reads. -/
structure ReadsState (st : BatchState F) : Prop where
  control : ∀ kind frame, st.pendingControl.value kind = some frame → pick frame = none
  screen : slot ≠ .screen → ∀ frame, st.pendingScreen = some frame → pick frame = none
  focused : ∀ paneId frame, st.pendingFocusedPanes.frames.value paneId = some frame →
    slot ≠ .pane paneId → pick frame = none
  passive : ∀ paneId frame, st.pendingPassivePanes.frames.value paneId = some frame →
    slot ≠ .pane paneId → pick frame = none

/-- The pending frames of a slot: leading place, trailing place. -/
abbrev Held (F : Type) := Option F × Option F

def pendingOf (frames : Keyed PaneId F) : Option F :=
  match slot with
  | .screen => none
  | .pane paneId => frames.value paneId

def heldIn (st : BatchState F) : Held F :=
  (if slot = .screen then st.pendingScreen else pendingOf slot st.pendingFocusedPanes.frames,
    pendingOf slot st.pendingPassivePanes.frames)

def absorb (held : Held F) (message : OutboundMessage F) : Held F :=
  ((leading slot message).or held.1, (trailing slot message).or held.2)

def flushHeld (held : Held F) : List U :=
  (held.1.toList ++ held.2.toList).filterMap pick

theorem filterMap_none {frames : List F} (h : ∀ frame ∈ frames, pick frame = none) :
    frames.filterMap pick = [] :=
  List.filterMap_eq_nil_iff.mpr h

theorem pick_control {st : BatchState F} (reads : ReadsState slot pick st) :
    st.pendingControl.takeAll.filterMap pick = [] := by
  apply filterMap_none
  intro frame member
  rw [Keyed.takeAll, List.mem_filterMap] at member
  obtain ⟨kind, -, found⟩ := member
  exact reads.control kind frame found

private theorem pick_panes {frames : Keyed PaneId F}
    (others : ∀ paneId frame, frames.value paneId = some frame → slot ≠ .pane paneId →
      pick frame = none) :
    frames.takeAll.filterMap pick = (pendingOf slot frames).toList.filterMap pick := by
  cases slot with
  | screen =>
      rw [pendingOf, Option.toList_none, List.filterMap_nil]
      apply filterMap_none
      intro frame member
      rw [Keyed.takeAll, List.mem_filterMap] at member
      obtain ⟨paneId, -, found⟩ := member
      exact others paneId frame found (by simp)
  | pane paneId =>
      rw [Keyed.filterMap_takeAll pick frames paneId fun other value found different =>
        others other value found (by simpa [eq_comm] using different), pendingOf]
      cases frames.value paneId with
      | none => rfl
      | some frame =>
          rw [Option.bind_some, Option.toList_some, List.filterMap_cons, List.filterMap_nil]
          cases pick frame <;> rfl

private theorem frames_flushPaneUpdates (st : BatchState F) :
    st.flushPaneUpdates.frames = st.frames ++ st.pendingFocusedPanes.frames.takeAll ++
      st.pendingScreen.toList ++ st.pendingPassivePanes.frames.takeAll := rfl

theorem pick_flushed {st : BatchState F} (reads : ReadsState slot pick st) :
    st.flushPaneUpdates.frames.filterMap pick =
      st.frames.filterMap pick ++ flushHeld pick (heldIn slot st) := by
  rw [frames_flushPaneUpdates, List.filterMap_append, List.filterMap_append,
    List.filterMap_append, pick_panes slot pick reads.focused, pick_panes slot pick reads.passive]
  cases slot with
  | screen => simp [flushHeld, heldIn, pendingOf]
  | pane paneId =>
      have screen : st.pendingScreen.toList.filterMap pick = [] := by
        apply filterMap_none
        intro frame member
        exact reads.screen (by simp) frame (Option.mem_toList.mp member)
      simp [flushHeld, heldIn, screen]

theorem reads_flushControl {st : BatchState F} (reads : ReadsState slot pick st) :
    ReadsState slot pick st.flushControl where
  control := fun kind frame found => by cases found
  screen := reads.screen
  focused := reads.focused
  passive := reads.passive

theorem pick_flushControl {st : BatchState F} (reads : ReadsState slot pick st) :
    st.flushControl.frames.filterMap pick = st.frames.filterMap pick := by
  rw [BatchState.flushControl, List.filterMap_append, pick_control slot pick reads,
    List.append_nil]

private theorem reads_set {frames : Keyed PaneId F} {paneId : PaneId} {frame : F}
    (others : ∀ paneId frame, frames.value paneId = some frame → slot ≠ .pane paneId →
      pick frame = none)
    (fresh : slot ≠ .pane paneId → pick frame = none) :
    ∀ other value, (frames.set paneId frame).value other = some value → slot ≠ .pane other →
      pick value = none := by
  intro other value found different
  rw [Keyed.value_set] at found
  split at found
  · rename_i same
    cases found
    exact fresh (same ▸ different)
  · exact others other value found different

/-- What one message does to a slot: a barrier emits the pending frames, any other message
only moves them. -/
structure Moves (st after : BatchState F) (message : OutboundMessage F) : Prop where
  reads : ReadsState slot pick after
  barrier : isBarrier frameType message = true →
    after.frames.filterMap pick = st.frames.filterMap pick ++ flushHeld pick (heldIn slot st) ∧
      heldIn slot after = (none, none)
  passes : isBarrier frameType message = false →
    after.frames.filterMap pick = st.frames.filterMap pick ∧
      heldIn slot after = absorb slot (heldIn slot st) message

theorem pushFrame_moves {st : BatchState F} (reads : ReadsState slot pick st) {frame : F}
    (silent : pick frame = none) :
    Moves frameType slot pick st (pushFrame frameType st frame) (.frame frame) := by
  have nothing : [frame].filterMap pick = [] := filterMap_none pick (by simpa using silent)
  cases kindOf : coalescibleFrameKind (frameType frame) with
  | some kind =>
      have passing : isBarrier frameType (.frame frame) = false := by simp [isBarrier, kindOf]
      rw [pushFrame, kindOf]
      refine ⟨⟨?_, reads.screen, reads.focused, reads.passive⟩, ?_, fun _ => ⟨rfl, rfl⟩⟩
      · intro other value found
        rw [Keyed.value_set] at found
        split at found
        · cases found
          exact silent
        · exact reads.control other value found
      · simp [passing]
  | none =>
      rw [pushFrame, kindOf]
      dsimp only
      cases priority : priorityFrame (frameType frame) with
      | true =>
          have passing : isBarrier frameType (.frame frame) = false := by
            simp [isBarrier, priority]
          rw [if_pos rfl]
          refine ⟨⟨fun _ _ found => (by cases found), reads.screen, reads.focused,
            reads.passive⟩, by simp [passing], fun _ => ⟨?_, rfl⟩⟩
          rw [BatchState.emit, List.filterMap_append, pick_flushControl slot pick reads, nothing,
            List.append_nil]
      | false =>
          have stops : isBarrier frameType (.frame frame) = true := by
            simp [isBarrier, kindOf, priority]
          rw [if_neg (by simp)]
          refine ⟨⟨fun _ _ found => (by cases found), fun _ _ found => (by cases found),
            fun _ _ found => (by cases found), fun _ _ found => (by cases found)⟩,
            fun _ => ⟨?_, by cases slot <;> rfl⟩, by simp [stops]⟩
          rw [BatchState.emit, List.filterMap_append,
            pick_flushed slot pick (reads_flushControl slot pick reads),
            pick_flushControl slot pick reads, nothing, List.append_nil]
          rfl

private theorem pushScreenUpdate_moves {st : BatchState F} (reads : ReadsState slot pick st)
    {frame : F} (quiet : slot ≠ .screen → pick frame = none) :
    Moves frameType slot pick st (pushScreenUpdate true st frame) (.screenUpdate frame) := by
  refine ⟨⟨reads.control, ?_, reads.focused, reads.passive⟩, fun stops => (by cases stops),
    fun _ => ⟨rfl, ?_⟩⟩
  · intro different value found
    cases found
    exact quiet different
  · cases slot <;> simp [pushScreenUpdate, heldIn, absorb, leading, trailing, pendingOf]

theorem pushPaneUpdate_moves {st : BatchState F} (reads : ReadsState slot pick st)
    {paneId : PaneId} {focused : Bool} {frame : F}
    (quiet : slot ≠ .pane paneId → pick frame = none) :
    Moves frameType slot pick st (pushPaneUpdate true st paneId focused frame)
      (.paneUpdate paneId focused frame) := by
  have update : ∀ pending : PendingPaneFrames F,
      pendingOf slot (pending.set paneId frame).frames =
        if slot = .pane paneId then some frame else pendingOf slot pending.frames := by
    intro pending
    cases slot with
    | screen => rfl
    | pane other => simp [pendingOf, PendingPaneFrames.set]
  cases focused with
  | true =>
      refine ⟨⟨reads.control, reads.screen, reads_set slot pick reads.focused quiet,
        reads.passive⟩, fun stops => (by cases stops), fun _ => ⟨rfl, ?_⟩⟩
      simp only [pushPaneUpdate, if_true, heldIn, absorb, leading, trailing, update]
      cases slot with
      | screen => simp
      | pane other => by_cases same : other = paneId <;> simp [same]
  | false =>
      refine ⟨⟨reads.control, reads.screen, reads.focused,
        reads_set slot pick reads.passive quiet⟩, fun stops => (by cases stops),
        fun _ => ⟨rfl, ?_⟩⟩
      simp only [pushPaneUpdate, Bool.false_eq_true, if_false, if_true, heldIn, absorb, leading,
        trailing, update]
      cases slot with
      | screen => simp
      | pane other => by_cases same : other = paneId <;> simp [same]

theorem push_moves {st : BatchState F} (reads : ReadsState slot pick st)
    {message : OutboundMessage F} (quiet : Reads slot pick message) :
    Moves frameType slot pick st (push frameType true st message) message := by
  have counted : ∀ {after : BatchState F}, Moves frameType slot pick st after message →
      Moves frameType slot pick st { after with messageCount := st.messageCount + 1 } message :=
    fun moves => ⟨⟨moves.reads.control, moves.reads.screen, moves.reads.focused,
      moves.reads.passive⟩, moves.barrier, moves.passes⟩
  apply counted
  cases message with
  | frame frame => exact pushFrame_moves frameType slot pick reads (quiet rfl)
  | screenUpdate frame =>
      apply pushScreenUpdate_moves frameType slot pick reads
      intro different
      exact quiet (by simp [slotFrame, leading, trailing, different])
  | paneUpdate paneId focused frame =>
      apply pushPaneUpdate_moves frameType slot pick reads
      intro different
      exact quiet (by simp [slotFrame, leading, trailing, different])

private theorem run_reads (messages : List (OutboundMessage F))
    (quiet : ∀ message ∈ messages, Reads slot pick message) (st : BatchState F)
    (reads : ReadsState slot pick st) :
    (finish (messages.foldl (push frameType true) st)).frames.filterMap pick =
      st.frames.filterMap pick ++ drain (isBarrier frameType) (absorb slot) (flushHeld pick)
        (none, none) (heldIn slot st) messages := by
  induction messages generalizing st with
  | nil =>
      rw [List.foldl_nil, finish, drain,
        pick_flushed slot pick (reads_flushControl slot pick reads),
        pick_flushControl slot pick reads]
      rfl
  | cons message messages ih =>
      have moves := push_moves frameType slot pick reads (quiet message List.mem_cons_self)
      rw [List.foldl_cons, ih (fun other member => quiet other (List.mem_cons_of_mem _ member))
        _ moves.reads, drain]
      cases stops : isBarrier frameType message with
      | true =>
          obtain ⟨emitted, cleared⟩ := moves.barrier stops
          rw [if_pos rfl, emitted, cleared, List.append_assoc]
      | false =>
          obtain ⟨kept, moved⟩ := moves.passes stops
          rw [if_neg (by simp), kept, moved]

private theorem foldl_absorb (segment : List (OutboundMessage F)) (held : Held F) :
    segment.foldl (absorb slot) held =
      (((segment.filterMap (leading slot)).getLast?).or held.1,
        ((segment.filterMap (trailing slot)).getLast?).or held.2) := by
  rw [← foldl_latest (leading slot), ← foldl_latest (trailing slot)]
  induction segment generalizing held with
  | nil => rfl
  | cons message segment ih => exact ih (absorb slot held message)

/-- With coalescing on, a batch keeps of each slot the survivors of its segments. -/
theorem collectOutboundBatch_slot (first : OutboundMessage F)
    (available : List (OutboundMessage F))
    (quiet : ∀ message ∈ first :: available, Reads slot pick message) :
    (collectOutboundBatch frameType true first available).frames.filterMap pick =
      (((first :: available).splitOnP (isBarrier frameType)).flatMap (survivors slot)).filterMap
        pick := by
  have begin : ReadsState slot pick (BatchState.start : BatchState F) :=
    ⟨fun _ _ found => (by cases found), fun _ _ found => (by cases found),
      fun _ _ found => (by cases found), fun _ _ found => (by cases found)⟩
  have nothing : heldIn slot (BatchState.start : BatchState F) = (none, none) := by
    cases slot <;> rfl
  rw [collectOutboundBatch, run_reads frameType slot pick _ quiet .start begin, nothing,
    drain_eq_flatMap, List.filterMap_flatMap]
  simp only [foldl_absorb, Option.or_none]
  rfl

end Projection

end Boo.Remote.Batcher
