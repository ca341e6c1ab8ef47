/- module: Boo/Remote/FocusOrder
   digest: Which queues keep screens under their focus, whatever batches they are written in. -/

import Boo.Lib.Runs
import Boo.Remote.Batcher
import Mathlib.Data.List.Induction

set_option autoImplicit false
set_option relaxedAutoImplicit false

namespace Boo.Remote.FocusOrder

open Boo.Lib.KeyedList
open Boo.Lib.Runs
open Boo.Lib.Segments
open Boo.Wire.Message
open Boo.Server.Frames
open Boo.Remote.Batcher

section Queues

-- Some frames tell the reader a focus, others show the screen of a pane without naming it.
variable {F Pane : Type} (frameType : F → Option MessageType) (focusOf sourceOf : F → Option Pane)

/-- The focus of a reader that has read one more frame. -/
def focusNext (focus : Pane) (frame : F) : Pane := (focusOf frame).getD focus

/-- A screen is read under the focus of its own pane. -/
def Fits (focus : Pane) (frame : F) : Prop := ∀ source ∈ sourceOf frame, focus = source

instance [DecidableEq Pane] (focus : Pane) (frame : F) : Decidable (Fits sourceOf focus frame) :=
  Option.decidableForallMem (sourceOf frame)

def batchFrames (coalesce : Bool) : List (OutboundMessage F) → List F
  | [] => []
  | first :: available => (collectOutboundBatch frameType coalesce first available).frames

/-- What `writer_loop` writes of its batches. -/
def written (coalesce : Bool) (batches : List (List (OutboundMessage F))) : List F :=
  batches.flatMap (batchFrames frameType coalesce)

/-- What `writer_loop` writes without batches, as it does for local clients. -/
def writtenSingly (messages : List (OutboundMessage F)) : List F :=
  messages.map OutboundMessage.content

/-- The focus told last in a queue, and whether a screen stands behind its last barrier. -/
structure Tail (Pane : Type) where
  focus : Pane
  screens : Bool

def Tail.next (tail : Tail Pane) (message : OutboundMessage F) : Tail Pane where
  focus := focusNext focusOf tail.focus message.content
  screens := !isBarrier frameType message && (tail.screens || (sourceOf message.content).isSome)

/-- Frames tell a focus exactly where they are coalesced as such; screens come as screen updates. -/
def Placed : OutboundMessage F → Prop
  | .frame frame => sourceOf frame = none ∧
      ((focusOf frame).isSome ↔ coalescibleFrameKind (frameType frame) = some .uiRuntimeState)
  | .screenUpdate frame => focusOf frame = none
  | .paneUpdate _ _ frame => focusOf frame = none ∧ sourceOf frame = none

/-- A screen fits the focus told last, and another focus is told only behind a barrier. -/
structure Tail.Admits (tail : Tail Pane) (message : OutboundMessage F) : Prop where
  placed : Placed frameType focusOf sourceOf message
  fits : Fits sourceOf tail.focus message.content
  still : ∀ focus ∈ focusOf message.content, focus = tail.focus ∨ tail.screens = false

/-- How far a batch is: what it has emitted fits, and what it holds back will fit. -/
structure InFocus (start : Pane) (tail : Tail Pane) (st : BatchState F) : Prop where
  emitted : Always (focusNext focusOf) (Fits sourceOf) start st.frames
  told : tail.focus = ((st.pendingControl.value .uiRuntimeState).bind focusOf).getD
    (st.frames.foldl (focusNext focusOf) start)
  control : ∀ kind frame, st.pendingControl.value kind = some frame → sourceOf frame = none ∧
    (kind ≠ .uiRuntimeState → focusOf frame = none)
  screen : ∀ frame ∈ st.pendingScreen, focusOf frame = none ∧
    ∀ source ∈ sourceOf frame, tail.focus = source ∧ tail.screens = true
  focused : ∀ paneId frame, st.pendingFocusedPanes.frames.value paneId = some frame →
    focusOf frame = none ∧ sourceOf frame = none
  passive : ∀ paneId frame, st.pendingPassivePanes.frames.value paneId = some frame →
    focusOf frame = none ∧ sourceOf frame = none

variable {frameType focusOf sourceOf} {start : Pane} {tail : Tail Pane} {st : BatchState F}

theorem focusAfter_eq (focus : Pane) (frames : List F) :
    frames.foldl (focusNext focusOf) focus = ((frames.filterMap focusOf).getLast?).getD focus := by
  induction frames using List.reverseRecOn with
  | nil => rfl
  | append_singleton frames frame ih =>
      rw [List.foldl_append, ih, List.filterMap_append, List.getLast?_append]
      cases told : focusOf frame with
      | none => simp [focusNext, told]
      | some next => simp [focusNext, told]

/-- Frames that tell no focus fit one by one. -/
theorem always_of_quiet {focus : Pane} {frames : List F} (quiet : ∀ frame ∈ frames, focusOf frame = none)
    (fits : ∀ frame ∈ frames, Fits sourceOf focus frame) :
    Always (focusNext focusOf) (Fits sourceOf) focus frames ∧
      frames.foldl (focusNext focusOf) focus = focus := by
  constructor
  · induction frames with
    | nil => trivial
    | cons frame frames ih =>
        refine ⟨fits frame List.mem_cons_self, ?_⟩
        rw [focusNext, quiet frame List.mem_cons_self]
        exact ih (fun other member => quiet other (List.mem_cons_of_mem _ member))
          fun other member => fits other (List.mem_cons_of_mem _ member)
  · rw [focusAfter_eq, List.filterMap_eq_nil_iff.mpr quiet]
    rfl

theorem always_of_sourceless {focus : Pane} {frames : List F}
    (sourceless : ∀ frame ∈ frames, sourceOf frame = none) :
    Always (focusNext focusOf) (Fits sourceOf) focus frames := by
  induction frames generalizing focus with
  | nil => trivial
  | cons frame frames ih =>
      refine ⟨fun source member => ?_,
        ih fun other member => sourceless other (List.mem_cons_of_mem _ member)⟩
      rw [sourceless frame List.mem_cons_self] at member
      cases member

theorem mem_takeAll {K V : Type} {list : Keyed K V} {value : V} (member : value ∈ list.takeAll) :
    ∃ key, list.value key = some value := by
  obtain ⟨key, -, held⟩ := List.mem_filterMap.mp member
  exact ⟨key, held⟩

end Queues

section Batches

variable {F Pane : Type} {frameType : F → Option MessageType} {focusOf sourceOf : F → Option Pane}
  {start : Pane} {tail : Tail Pane} {st : BatchState F}

/-- Frames that tell no focus are emitted where no told focus is held back. -/
theorem InFocus.emit_quiet (inFocus : InFocus focusOf sourceOf start tail st)
    (clear : st.pendingControl.value .uiRuntimeState = none) {frames : List F}
    (quiet : ∀ frame ∈ frames, focusOf frame = none)
    (fits : ∀ frame ∈ frames, Fits sourceOf tail.focus frame) :
    Always (focusNext focusOf) (Fits sourceOf) start (st.frames ++ frames) ∧
      tail.focus = (st.frames ++ frames).foldl (focusNext focusOf) start := by
  have told := inFocus.told
  rw [clear, Option.bind_none, Option.getD_none] at told
  rw [always_append, List.foldl_append, ← told]
  obtain ⟨always, same⟩ := always_of_quiet quiet fits
  exact ⟨⟨inFocus.emitted, always⟩, same.symm⟩

/-- The held back control frames tell the focus that was told last. -/
theorem InFocus.flushControl (inFocus : InFocus focusOf sourceOf start tail st) :
    InFocus focusOf sourceOf start tail st.flushControl := by
  have told : st.pendingControl.takeAll.filterMap focusOf =
      ((st.pendingControl.value .uiRuntimeState).bind focusOf).toList :=
    Keyed.filterMap_takeAll focusOf _ _ fun kind frame held other =>
      (inFocus.control kind frame held).2 other
  have sourceless : ∀ frame ∈ st.pendingControl.takeAll, sourceOf frame = none := by
    intro frame member
    obtain ⟨kind, held⟩ := mem_takeAll member
    exact (inFocus.control kind frame held).1
  refine ⟨?_, ?_, fun _ _ held => ?_, inFocus.screen, inFocus.focused, inFocus.passive⟩
  · exact always_append.mpr ⟨inFocus.emitted, always_of_sourceless sourceless⟩
  · show tail.focus = (st.frames ++ st.pendingControl.takeAll).foldl (focusNext focusOf) start
    rw [List.foldl_append, focusAfter_eq _ st.pendingControl.takeAll, told, inFocus.told]
    cases (st.pendingControl.value .uiRuntimeState).bind focusOf <;> rfl
  · cases held

theorem clear_flushControl (st : BatchState F) :
    st.flushControl.pendingControl.value .uiRuntimeState = none := rfl

theorem InFocus.quiet_screen (inFocus : InFocus focusOf sourceOf start tail st) :
    ∀ frame ∈ st.pendingScreen.toList, focusOf frame = none ∧ Fits sourceOf tail.focus frame := by
  intro frame member
  obtain ⟨quiet, own⟩ := inFocus.screen frame (Option.mem_toList.mp member)
  exact ⟨quiet, fun source shown => (own source shown).1⟩

/-- Nothing of the screens and panes stays behind, so a barrier may pass. -/
theorem InFocus.flushPaneUpdates (inFocus : InFocus focusOf sourceOf start tail st)
    (clear : st.pendingControl.value .uiRuntimeState = none) (screens : Bool) :
    InFocus focusOf sourceOf start ⟨tail.focus, screens⟩ st.flushPaneUpdates := by
  have quietPanes : ∀ (panes : PendingPaneFrames F),
      (∀ paneId frame, panes.frames.value paneId = some frame →
        focusOf frame = none ∧ sourceOf frame = none) →
      ∀ frame ∈ panes.frames.takeAll, focusOf frame = none ∧ Fits sourceOf tail.focus frame := by
    intro panes own frame member
    obtain ⟨paneId, held⟩ := mem_takeAll member
    obtain ⟨quiet, sourceless⟩ := own paneId frame held
    refine ⟨quiet, fun source shown => ?_⟩
    rw [sourceless] at shown
    cases shown
  have flushed : ∀ frame ∈ st.pendingFocusedPanes.frames.takeAll ++
      (st.pendingScreen.toList ++ st.pendingPassivePanes.frames.takeAll),
      focusOf frame = none ∧ Fits sourceOf tail.focus frame := by
    intro frame member
    rcases List.mem_append.mp member with member | member
    · exact quietPanes _ inFocus.focused frame member
    · rcases List.mem_append.mp member with member | member
      · exact inFocus.quiet_screen frame member
      · exact quietPanes _ inFocus.passive frame member
  have frames : st.flushPaneUpdates.frames = st.frames ++ (st.pendingFocusedPanes.frames.takeAll ++
      (st.pendingScreen.toList ++ st.pendingPassivePanes.frames.takeAll)) := by
    simp [BatchState.flushPaneUpdates, BatchState.flushScreen]
  obtain ⟨emitted, told⟩ := inFocus.emit_quiet clear (fun frame member => (flushed frame member).1)
    fun frame member => (flushed frame member).2
  rw [← frames] at emitted told
  refine ⟨emitted, ?_, inFocus.control, fun _ held => ?_, fun _ _ held => ?_, fun _ _ held => ?_⟩
  · show tail.focus = ((st.pendingControl.value _).bind _).getD _
    rw [clear]
    exact told
  · cases held
  · cases held
  · cases held

theorem InFocus.flushScreen (inFocus : InFocus focusOf sourceOf start tail st)
    (clear : st.pendingControl.value .uiRuntimeState = none) (screens : Bool) :
    InFocus focusOf sourceOf start ⟨tail.focus, screens⟩ st.flushScreen := by
  obtain ⟨emitted, told⟩ := inFocus.emit_quiet clear
    (fun frame member => (inFocus.quiet_screen frame member).1)
    fun frame member => (inFocus.quiet_screen frame member).2
  refine ⟨emitted, ?_, inFocus.control, fun _ held => ?_, inFocus.focused, inFocus.passive⟩
  · show tail.focus = ((st.pendingControl.value _).bind _).getD _
    rw [clear]
    exact told
  · cases held

theorem InFocus.emit (inFocus : InFocus focusOf sourceOf start tail st)
    (clear : st.pendingControl.value .uiRuntimeState = none) {frame : F}
    (quiet : focusOf frame = none) (fits : Fits sourceOf tail.focus frame) :
    InFocus focusOf sourceOf start tail (st.emit frame) := by
  obtain ⟨emitted, told⟩ := inFocus.emit_quiet clear
    (fun other member => List.mem_singleton.mp member ▸ quiet)
    fun other member => List.mem_singleton.mp member ▸ fits
  refine ⟨emitted, ?_, inFocus.control, inFocus.screen, inFocus.focused, inFocus.passive⟩
  show tail.focus = ((st.pendingControl.value _).bind _).getD _
  rw [clear]
  exact told

/-- Where screens are known of already, one more changes nothing. -/
theorem InFocus.mono (inFocus : InFocus focusOf sourceOf start tail st) {screens : Bool}
    (more : tail.screens = true → screens = true) :
    InFocus focusOf sourceOf start ⟨tail.focus, screens⟩ st := by
  refine ⟨inFocus.emitted, inFocus.told, inFocus.control, fun frame held => ?_, inFocus.focused,
    inFocus.passive⟩
  obtain ⟨quiet, own⟩ := inFocus.screen frame held
  exact ⟨quiet, fun source shown => ⟨(own source shown).1, more (own source shown).2⟩⟩

theorem InFocus.pushFrame {frame : F} (inFocus : InFocus focusOf sourceOf start tail st)
    (admits : tail.Admits frameType focusOf sourceOf (.frame frame)) :
    InFocus focusOf sourceOf start (tail.next frameType focusOf sourceOf (.frame frame))
      (pushFrame frameType st frame) := by
  obtain ⟨sourceless, tells⟩ := admits.placed
  have noScreen : (sourceOf frame).isSome = false := by rw [sourceless, Option.isSome_none]
  unfold Batcher.pushFrame
  cases kindOf : coalescibleFrameKind (frameType frame) with
  | some kind =>
      have passes : isBarrier frameType (.frame frame) = false := by simp [isBarrier, kindOf]
      have next : tail.next frameType focusOf sourceOf (.frame frame) =
          ⟨focusNext focusOf tail.focus frame, tail.screens⟩ := by
        simp [Tail.next, passes, OutboundMessage.content, noScreen]
      rw [next]
      refine ⟨inFocus.emitted, ?_, fun other held value => ?_, fun held member => ?_,
        inFocus.focused, inFocus.passive⟩
      · show focusNext focusOf tail.focus frame =
          (((st.pendingControl.set kind frame).value .uiRuntimeState).bind focusOf).getD _
        rw [Keyed.value_set]
        by_cases runtime : CoalescibleFrameKind.uiRuntimeState = kind
        · obtain ⟨focus, told⟩ := Option.isSome_iff_exists.mp (tells.mpr (runtime ▸ kindOf))
          rw [if_pos runtime, Option.bind_some, focusNext, told]
          rfl
        · have silent : focusOf frame = none := by
            rw [← Option.not_isSome_iff_eq_none, tells, kindOf]
            exact fun same => runtime (Option.some.inj same).symm
          rw [if_neg runtime, focusNext, silent]
          exact inFocus.told
      · have value : (st.pendingControl.set kind frame).value other = some held := value
        rw [Keyed.value_set] at value
        split at value
        · rename_i mine
          cases value
          refine ⟨sourceless, fun different => ?_⟩
          rw [← Option.not_isSome_iff_eq_none, tells, kindOf]
          exact fun same => different (mine.trans (Option.some.inj same))
        · exact inFocus.control other held value
      · obtain ⟨quiet, own⟩ := inFocus.screen held member
        refine ⟨quiet, fun source shown => ?_⟩
        obtain ⟨same, screens⟩ := own source shown
        refine ⟨?_, screens⟩
        cases told : focusOf frame with
        | none => simpa [focusNext, told] using same
        | some focus =>
            have stays := (admits.still focus told).resolve_right (by simp [screens])
            simpa [focusNext, told, stays] using same
  | none =>
      have silent : focusOf frame = none := by
        rw [← Option.not_isSome_iff_eq_none, tells, kindOf]
        exact fun same => by cases same
      have fits : Fits sourceOf tail.focus frame := admits.fits
      have next : tail.next frameType focusOf sourceOf (.frame frame) =
          ⟨tail.focus, priorityFrame (frameType frame) && tail.screens⟩ := by
        simp [Tail.next, isBarrier, kindOf, OutboundMessage.content, noScreen, focusNext, silent]
      rw [next]
      dsimp only
      split
      · rename_i priority
        rw [priority, Bool.true_and]
        exact inFocus.flushControl.emit (clear_flushControl st) silent fits
      · have flushed := inFocus.flushControl.flushPaneUpdates (clear_flushControl st)
          (priorityFrame (frameType frame) && tail.screens)
        exact flushed.emit (clear_flushControl st) silent fits

theorem InFocus.pushScreenUpdate {frame : F} (coalesce : Bool)
    (inFocus : InFocus focusOf sourceOf start tail st)
    (admits : tail.Admits frameType focusOf sourceOf (.screenUpdate frame)) :
    InFocus focusOf sourceOf start (tail.next frameType focusOf sourceOf (.screenUpdate frame))
      (pushScreenUpdate coalesce st frame) := by
  have quiet : focusOf frame = none := admits.placed
  have fits : Fits sourceOf tail.focus frame := admits.fits
  have next : tail.next frameType focusOf sourceOf (.screenUpdate frame) =
      ⟨tail.focus, tail.screens || (sourceOf frame).isSome⟩ := by
    simp [Tail.next, isBarrier, OutboundMessage.content, focusNext, quiet]
  rw [next]
  have more : InFocus focusOf sourceOf start ⟨tail.focus, tail.screens || (sourceOf frame).isSome⟩
      st := inFocus.mono fun known => by rw [known, Bool.true_or]
  unfold Batcher.pushScreenUpdate
  split
  · refine ⟨more.emitted, more.told, more.control, fun held member => ?_, more.focused,
      more.passive⟩
    obtain rfl := Option.some.inj member
    refine ⟨quiet, fun source shown => ⟨fits source shown, ?_⟩⟩
    rw [Option.isSome_of_mem shown, Bool.or_true]
  · have flushed := (more.flushControl.flushScreen (clear_flushControl st)
      (tail.screens || (sourceOf frame).isSome)).emit (clear_flushControl st) quiet fits
    exact ⟨flushed.emitted, flushed.told, flushed.control, flushed.screen, flushed.focused,
      flushed.passive⟩

theorem InFocus.pushPaneUpdate {paneId : PaneId} {focused : Bool} {frame : F} (coalesce : Bool)
    (inFocus : InFocus focusOf sourceOf start tail st)
    (admits : tail.Admits frameType focusOf sourceOf (.paneUpdate paneId focused frame)) :
    InFocus focusOf sourceOf start
      (tail.next frameType focusOf sourceOf (.paneUpdate paneId focused frame))
      (pushPaneUpdate coalesce st paneId focused frame) := by
  obtain ⟨quiet, sourceless⟩ := admits.placed
  have next : tail.next frameType focusOf sourceOf (.paneUpdate paneId focused frame) = tail := by
    simp [Tail.next, isBarrier, OutboundMessage.content, focusNext, quiet, sourceless]
  have held : ∀ (panes : PendingPaneFrames F), (∀ other shown, panes.frames.value other = some shown →
      focusOf shown = none ∧ sourceOf shown = none) →
      ∀ other shown, (panes.set paneId frame).frames.value other = some shown →
        focusOf shown = none ∧ sourceOf shown = none := by
    intro panes own other shown value
    have value : (panes.frames.set paneId frame).value other = some shown := value
    rw [Keyed.value_set] at value
    split at value
    · cases value
      exact ⟨quiet, sourceless⟩
    · exact own other shown value
  rw [next]
  unfold Batcher.pushPaneUpdate
  split
  · exact ⟨inFocus.emitted, inFocus.told, inFocus.control, inFocus.screen,
      held _ inFocus.focused, inFocus.passive⟩
  · split
    · exact ⟨inFocus.emitted, inFocus.told, inFocus.control, inFocus.screen, inFocus.focused,
        held _ inFocus.passive⟩
    · have flushed := inFocus.flushControl.flushPaneUpdates (clear_flushControl st) tail.screens
      exact flushed.emit (clear_flushControl st) quiet admits.fits

/-- One message keeps a batch in focus. -/
theorem InFocus.push {message : OutboundMessage F} (coalesce : Bool)
    (inFocus : InFocus focusOf sourceOf start tail st)
    (admits : tail.Admits frameType focusOf sourceOf message) :
    InFocus focusOf sourceOf start (tail.next frameType focusOf sourceOf message)
      (push frameType coalesce st message) := by
  have counted : ∀ {after : BatchState F} {later : Tail Pane},
      InFocus focusOf sourceOf start later after →
        InFocus focusOf sourceOf start later { after with messageCount := st.messageCount + 1 } :=
    fun {after later} kept => ⟨kept.emitted, kept.told, kept.control, kept.screen, kept.focused,
      kept.passive⟩
  apply counted
  cases message with
  | frame frame => exact inFocus.pushFrame admits
  | screenUpdate frame => exact inFocus.pushScreenUpdate coalesce admits
  | paneUpdate paneId focused frame => exact inFocus.pushPaneUpdate coalesce admits

theorem inFocus_foldl (coalesce : Bool) {messages : List (OutboundMessage F)}
    (inFocus : InFocus focusOf sourceOf start tail st)
    (admitted : Always (Tail.next frameType focusOf sourceOf) (Tail.Admits frameType focusOf sourceOf)
      tail messages) :
    InFocus focusOf sourceOf start
      (messages.foldl (Tail.next frameType focusOf sourceOf) tail)
      (messages.foldl (Batcher.push frameType coalesce) st) := by
  induction messages generalizing tail st with
  | nil => exact inFocus
  | cons message messages ih => exact ih (inFocus.push coalesce admitted.1) admitted.2

theorem inFocus_start (tail : Tail Pane) :
    InFocus focusOf sourceOf tail.focus tail (BatchState.start : BatchState F) := by
  refine ⟨trivial, rfl, fun _ _ held => ?_, fun _ held => ?_, fun _ _ held => ?_,
    fun _ _ held => ?_⟩ <;> cases held

/-- A batch of admitted messages fits, and leaves its reader with the focus told last. -/
theorem batchFrames_fits (coalesce : Bool) {batch : List (OutboundMessage F)}
    (admitted : Always (Tail.next frameType focusOf sourceOf) (Tail.Admits frameType focusOf sourceOf)
      tail batch) :
    Always (focusNext focusOf) (Fits sourceOf) tail.focus (batchFrames frameType coalesce batch) ∧
      (batch.foldl (Tail.next frameType focusOf sourceOf) tail).focus =
        (batchFrames frameType coalesce batch).foldl (focusNext focusOf) tail.focus := by
  cases batch with
  | nil => exact ⟨trivial, rfl⟩
  | cons first available =>
      have ended := inFocus_foldl coalesce (inFocus_start tail) admitted
      have finished := ended.flushControl.flushPaneUpdates (clear_flushControl _) false
      have clear : ((first :: available).foldl (push frameType coalesce)
          .start).flushControl.flushPaneUpdates.pendingControl.value .uiRuntimeState = none := rfl
      have told := finished.told
      rw [clear] at told
      exact ⟨finished.emitted, told⟩

theorem takeAll_set_empty {K V : Type} [DecidableEq K] (key : K) (value : V) :
    ((Keyed.empty : Keyed K V).set key value).takeAll = [value] := by
  simp [Keyed.takeAll, Keyed.set, Keyed.empty]

/-- A batch of one message is that message, as a writer without batches writes it. -/
theorem batchFrames_singleton (coalesce : Bool) (message : OutboundMessage F) :
    batchFrames frameType coalesce [message] = [message.content] := by
  have noFrames : (Keyed.empty : Keyed PaneId F).takeAll = [] := rfl
  show (finish (Batcher.push frameType coalesce .start message)).frames = _
  cases message with
  | frame frame =>
      cases kindOf : coalescibleFrameKind (frameType frame) with
      | some kind =>
          simp [Batcher.push, Batcher.pushFrame, kindOf, finish, BatchState.flushControl,
            BatchState.flushPaneUpdates, BatchState.flushScreen, BatchState.start,
            takeAll_set_empty, noFrames, OutboundMessage.content]
      | none =>
          simp only [Batcher.push, Batcher.pushFrame, kindOf]
          split <;> rfl
  | screenUpdate frame => cases coalesce <;> rfl
  | paneUpdate paneId focused frame =>
      have pending : ((⟨.empty, 0⟩ : PendingPaneFrames F).set paneId frame).frames.takeAll =
          [frame] := takeAll_set_empty paneId frame
      have noControl : (Keyed.empty : Keyed CoalescibleFrameKind F).takeAll = [] := rfl
      cases focused <;> cases coalesce <;>
        simp [Batcher.push, Batcher.pushPaneUpdate, finish, BatchState.flushControl,
          BatchState.flushPaneUpdates, BatchState.flushScreen, BatchState.start, BatchState.emit,
          PendingPaneFrames.drained, pending, noFrames, noControl, OutboundMessage.content]

theorem written_singletons (coalesce : Bool) (messages : List (OutboundMessage F)) :
    written frameType coalesce (messages.map fun message => [message]) = writtenSingly messages := by
  induction messages with
  | nil => rfl
  | cons message messages ih =>
      rw [List.map_cons, written, List.flatMap_cons, batchFrames_singleton, writtenSingly,
        List.map_cons, ← writtenSingly, ← ih]
      rfl

/-- Whatever batches an admitted queue is written in, its screens fit the focus of the reader. -/
theorem written_fits (coalesce : Bool) {batches : List (List (OutboundMessage F))}
    (admitted : Always (Tail.next frameType focusOf sourceOf) (Tail.Admits frameType focusOf sourceOf)
      tail batches.flatten) :
    Always (focusNext focusOf) (Fits sourceOf) tail.focus (written frameType coalesce batches) := by
  induction batches generalizing tail with
  | nil => trivial
  | cons batch batches ih =>
      rw [List.flatten_cons, always_append] at admitted
      obtain ⟨first, later⟩ := admitted
      obtain ⟨fits, same⟩ := batchFrames_fits coalesce first
      rw [written, List.flatMap_cons, always_append, ← same]
      exact ⟨fits, ih later⟩

theorem writtenSingly_fits {messages : List (OutboundMessage F)}
    (admitted : Always (Tail.next frameType focusOf sourceOf) (Tail.Admits frameType focusOf sourceOf)
      tail messages) :
    Always (focusNext focusOf) (Fits sourceOf) tail.focus (writtenSingly messages) := by
  rw [← @written_singletons F frameType false]
  refine written_fits false ?_
  rwa [← List.flatMap_def, List.flatMap_singleton']

end Batches

end Boo.Remote.FocusOrder
