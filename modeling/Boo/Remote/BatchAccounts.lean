/- module: Boo/Remote/BatchAccounts
   digest: What a batch emits of the queued frames, in which order, and how it counts them. -/

import Boo.Remote.Batcher

set_option autoImplicit false
set_option relaxedAutoImplicit false

namespace Boo.Remote.BatchAccounts

open Boo.Lib.KeyedList
open Boo.Lib.Segments
open Boo.Wire.Message
open Boo.Server.Frames
open Boo.Remote.Batcher

section Sources

variable {F : Type} (frameType : F → Option MessageType)

/-- A frame that is neither a tab list nor a runtime state nor an appearance. -/
def isPlain : OutboundMessage F → Bool
  | .frame frame => frameType frame ≠ some .tabList ∧ frameType frame ≠ some .uiRuntimeState ∧
      frameType frame ≠ some .uiAppearance
  | _ => false

/-- The message type of a kind of control frames. -/
def controlType : CoalescibleFrameKind → MessageType
  | .tabList => .tabList
  | .uiRuntimeState => .uiRuntimeState
  | .uiAppearance => .uiAppearance

def isControl (kind : CoalescibleFrameKind) : OutboundMessage F → Bool
  | .frame frame => frameType frame = some (controlType kind)
  | _ => false

theorem isPlain_frame (frame : F) :
    isPlain frameType (.frame frame) = (coalescibleFrameKind (frameType frame)).isNone := by
  rw [isPlain]
  unfold coalescibleFrameKind
  split <;> simp_all

theorem isControl_frame (kind : CoalescibleFrameKind) (frame : F) :
    isControl frameType kind (.frame frame) =
      decide (coalescibleFrameKind (frameType frame) = some kind) := by
  rw [isControl]
  unfold coalescibleFrameKind
  cases kind <;> split <;> simp_all [controlType]

def isUpdate : OutboundMessage F → Bool
  | .frame _ => false
  | _ => true

/-- The message with itself as its frame: a batch of such messages shows which ones it emits. -/
def sourced (message : OutboundMessage F) : OutboundMessage (OutboundMessage F) :=
  message.map fun _ => message

/-- The queued messages whose frames a batch emits, in the order of its frames. -/
def emitted (coalesce : Bool) (first : OutboundMessage F) (available : List (OutboundMessage F)) :
    List (OutboundMessage F) :=
  (collectOutboundBatch (frameType ∘ OutboundMessage.content) coalesce (sourced first)
    (available.map sourced)).frames

@[simp] theorem map_content_sourced (message : OutboundMessage F) :
    (sourced message).map OutboundMessage.content = message := by
  cases message <;> rfl

theorem content_emitted (coalesce : Bool) (first : OutboundMessage F)
    (available : List (OutboundMessage F)) :
    (emitted frameType coalesce first available).map OutboundMessage.content =
      (collectOutboundBatch frameType coalesce first available).frames := by
  have moved := frames_collectOutboundBatch_map OutboundMessage.content
    (frameType ∘ OutboundMessage.content) frameType (fun _ => rfl) coalesce (sourced first)
    (available.map sourced)
  have same : (available.map sourced).map (OutboundMessage.map OutboundMessage.content) =
      available := by
    rw [List.map_map]
    exact List.map_id'' (fun message => map_content_sourced message) available
  rw [map_content_sourced, same] at moved
  exact moved.symm

theorem isPlain_of_isControl {kind : CoalescibleFrameKind} {message : OutboundMessage F}
    (control : isControl frameType kind message = true) : isPlain frameType message = false := by
  cases message with
  | frame frame =>
      rw [isControl_frame, decide_eq_true_iff] at control
      rw [isPlain_frame, control]
      rfl
  | _ => rfl

theorem isControl_ne {kind other : CoalescibleFrameKind} (different : other ≠ kind)
    {message : OutboundMessage F} (control : isControl frameType other message = true) :
    isControl frameType kind message = false := by
  cases message with
  | frame frame =>
      rw [isControl_frame, decide_eq_true_iff] at control
      rw [isControl_frame, decide_eq_false_iff_not, control, Option.some.injEq]
      exact different
  | _ => rfl

theorem isPlain_of_isUpdate {message : OutboundMessage F} (update : isUpdate message = true) :
    isPlain frameType message = false := by
  cases message with
  | frame frame => cases update
  | _ => rfl

theorem isControl_of_isUpdate (kind : CoalescibleFrameKind) {message : OutboundMessage F}
    (update : isUpdate message = true) : isControl frameType kind message = false := by
  cases message with
  | frame frame => cases update
  | _ => rfl

end Sources

section Pending

variable {F : Type} (frameType : F → Option MessageType)

abbrev SourcedState (F : Type) := BatchState (OutboundMessage F)

/-- Each pending place holds messages of its own sort. -/
structure Sorted (st : SourcedState F) : Prop where
  control : ∀ kind message, st.pendingControl.value kind = some message →
    isControl frameType kind message = true
  screen : ∀ message ∈ st.pendingScreen, isUpdate message = true
  focused : ∀ paneId message, st.pendingFocusedPanes.frames.value paneId = some message →
    isUpdate message = true
  passive : ∀ paneId message, st.pendingPassivePanes.frames.value paneId = some message →
    isUpdate message = true

/-- What `flush_pane_updates` emits. -/
def pendingUpdates (st : SourcedState F) : List (OutboundMessage F) :=
  st.pendingFocusedPanes.frames.takeAll ++ st.pendingScreen.toList ++
    st.pendingPassivePanes.frames.takeAll

variable {frameType}

theorem frames_flushPaneUpdates (st : SourcedState F) :
    st.flushPaneUpdates.frames = st.frames ++ pendingUpdates st := by
  rw [pendingUpdates, ← List.append_assoc, ← List.append_assoc]
  rfl

theorem isUpdate_of_pending {st : SourcedState F} (sorted : Sorted frameType st) :
    ∀ message ∈ pendingUpdates st, isUpdate message = true := by
  intro message member
  rw [pendingUpdates, List.mem_append, List.mem_append, Option.mem_toList] at member
  rcases member with (focused | screen) | passive
  · obtain ⟨paneId, -, found⟩ := List.mem_filterMap.mp focused
    exact sorted.focused paneId message found
  · exact sorted.screen message screen
  · obtain ⟨paneId, -, found⟩ := List.mem_filterMap.mp passive
    exact sorted.passive paneId message found

theorem isControl_of_pending {st : SourcedState F} (sorted : Sorted frameType st) :
    ∀ message ∈ st.pendingControl.takeAll, ∃ kind, isControl frameType kind message = true := by
  intro message member
  obtain ⟨kind, -, found⟩ := List.mem_filterMap.mp member
  exact ⟨kind, sorted.control kind message found⟩

/-- No pending message is a plain frame. -/
theorem pending_not_plain {st : SourcedState F} (sorted : Sorted frameType st) :
    ∀ message ∈ st.pendingControl.takeAll ++ pendingUpdates st,
      isPlain frameType message = false := by
  intro message member
  rcases List.mem_append.mp member with control | update
  · obtain ⟨kind, isKind⟩ := isControl_of_pending sorted message control
    exact isPlain_of_isControl frameType isKind
  · exact isPlain_of_isUpdate frameType (isUpdate_of_pending sorted message update)

/-- Of a control kind, the pending control frames are the newest one. -/
theorem filter_pendingControl {st : SourcedState F} (sorted : Sorted frameType st)
    (kind : CoalescibleFrameKind) :
    st.pendingControl.takeAll.filter (isControl frameType kind) =
      (st.pendingControl.value kind).toList := by
  have picked := Keyed.filterMap_takeAll (Option.guard (isControl frameType kind))
    st.pendingControl kind fun other message found different => by
      have isOther := sorted.control other message found
      rw [Option.guard_eq_none_iff]
      exact isControl_ne frameType different isOther
  rw [List.filterMap_eq_filter] at picked
  rw [picked]
  cases held : st.pendingControl.value kind with
  | none => rfl
  | some message =>
      have isKind := sorted.control kind message held
      rw [Option.bind_some, Option.guard_eq_some_iff.mpr ⟨rfl, isKind⟩]

theorem filter_pendingUpdates {st : SourcedState F} (sorted : Sorted frameType st)
    (kind : CoalescibleFrameKind) :
    (pendingUpdates st).filter (isControl frameType kind) = [] := by
  rw [List.filter_eq_nil_iff]
  intro message member
  rw [isControl_of_isUpdate frameType kind (isUpdate_of_pending sorted message member)]
  exact Bool.false_ne_true

theorem Sorted.flushControl {st : SourcedState F} (sorted : Sorted frameType st) :
    Sorted frameType st.flushControl :=
  ⟨fun _ _ found => (by cases found), sorted.screen, sorted.focused, sorted.passive⟩

theorem Sorted.flushScreen {st : SourcedState F} (sorted : Sorted frameType st) :
    Sorted frameType st.flushScreen :=
  ⟨sorted.control, fun _ member => (by cases member), sorted.focused, sorted.passive⟩

theorem Sorted.emit {st : SourcedState F} (sorted : Sorted frameType st)
    (message : OutboundMessage F) : Sorted frameType (st.emit message) :=
  ⟨sorted.control, sorted.screen, sorted.focused, sorted.passive⟩

theorem Sorted.flushPaneUpdates {st : SourcedState F} (sorted : Sorted frameType st) :
    Sorted frameType st.flushPaneUpdates :=
  ⟨sorted.control, fun _ member => (by cases member), fun _ _ found => (by cases found),
    fun _ _ found => (by cases found)⟩

end Pending

section Emission

variable {F : Type} (frameType : F → Option MessageType) (coalesce : Bool)

/-- The push of a message that is its own frame. -/
def pushSourced (st : SourcedState F) (message : OutboundMessage F) : SourcedState F :=
  push (frameType ∘ OutboundMessage.content) coalesce st (sourced message)

/-- What a message makes the batch emit. With coalescing on, it is nothing until a plain frame
comes, which the newest control frame of each kind precedes. -/
structure Emits (st : SourcedState F) (message : OutboundMessage F) (after : SourcedState F)
    (out : List (OutboundMessage F)) : Prop where
  sorted : Sorted frameType after
  frames : after.frames = st.frames ++ out
  plain : out.filter (isPlain frameType) = [message].filter (isPlain frameType)
  stops : coalesce = true → isPlain frameType message = true → ∃ before,
    out = before ++ [message] ∧ (∀ other ∈ before, isPlain frameType other = false) ∧
      ∀ kind, before.filter (isControl frameType kind) = (st.pendingControl.value kind).toList ∧
        after.pendingControl.value kind = none
  passes : coalesce = true → isPlain frameType message = false →
    out = [] ∧ ∀ kind, after.pendingControl.value kind =
      if isControl frameType kind message then some message else st.pendingControl.value kind

variable {frameType coalesce} {st : SourcedState F}

private theorem filter_quiet {out : List (OutboundMessage F)}
    (quiet : ∀ other ∈ out, isPlain frameType other = false) :
    out.filter (isPlain frameType) = [] := by
  rw [List.filter_eq_nil_iff]
  intro other member
  rw [quiet other member]
  exact Bool.false_ne_true

private theorem filter_plain {before : List (OutboundMessage F)}
    (quiet : ∀ other ∈ before, isPlain frameType other = false) (message : OutboundMessage F) :
    (before ++ [message]).filter (isPlain frameType) = [message].filter (isPlain frameType) := by
  rw [List.filter_append, filter_quiet quiet, List.nil_append]

private theorem sorted_set {frames : Keyed PaneId (OutboundMessage F)} {paneId : PaneId}
    {message : OutboundMessage F} (update : isUpdate message = true)
    (updates : ∀ paneId message, frames.value paneId = some message → isUpdate message = true) :
    ∀ other found, (frames.set paneId message).value other = some found →
      isUpdate found = true := by
  intro other found held
  rw [Keyed.value_set] at held
  split at held
  · cases held
    exact update
  · exact updates other found held

/-- Everything pending, then the message itself. -/
private theorem emits_flushing {message : OutboundMessage F}
    {before : List (OutboundMessage F)} {after : SourcedState F}
    (quiet : ∀ other ∈ before, isPlain frameType other = false)
    (frames : after.frames = st.frames ++ (before ++ [message]))
    (stays : Sorted frameType after)
    (control : ∀ kind, after.pendingControl.value kind = none)
    (newest : ∀ kind, before.filter (isControl frameType kind) =
      (st.pendingControl.value kind).toList)
    (stops : coalesce = true → isPlain frameType message = true) :
    Emits frameType coalesce st message after (before ++ [message]) where
  sorted := stays
  frames := frames
  plain := filter_plain quiet message
  stops _ _ := ⟨before, rfl, quiet, fun kind => ⟨newest kind, control kind⟩⟩
  passes on passing := by
    rw [stops on] at passing
    cases passing

private theorem frames_emitted (sorted : Sorted frameType st) (kind : CoalescibleFrameKind) :
    (st.pendingControl.takeAll ++ pendingUpdates st).filter (isControl frameType kind) =
      (st.pendingControl.value kind).toList := by
  rw [List.filter_append, filter_pendingControl sorted, filter_pendingUpdates sorted,
    List.append_nil]

theorem emits_pushFrame (sorted : Sorted frameType st) (frame : F) :
    ∃ out, Emits frameType coalesce st (.frame frame)
      (pushFrame (frameType ∘ OutboundMessage.content) st (.frame frame)) out := by
  cases kindOf : coalescibleFrameKind (frameType frame) with
  | some kind =>
      have passing : isPlain frameType (.frame frame) = false := by
        rw [isPlain_frame, kindOf]
        rfl
      refine ⟨[], ?_⟩
      rw [pushFrame, Function.comp_apply, OutboundMessage.content, kindOf]
      refine ⟨⟨?_, sorted.screen, sorted.focused, sorted.passive⟩, (List.append_nil _).symm, ?_,
        ?_, fun _ _ => ⟨rfl, ?_⟩⟩
      · intro other message found
        rw [Keyed.value_set] at found
        split at found
        · rename_i same
          cases found
          rw [isControl_frame, kindOf, same]
          exact decide_eq_true rfl
        · exact sorted.control other message found
      · rw [List.filter_cons_of_neg (by rw [passing]; exact Bool.false_ne_true)]
      · intro _ stops
        rw [passing] at stops
        cases stops
      · intro other
        rw [Keyed.value_set, isControl_frame, kindOf]
        by_cases same : other = kind
        · rw [if_pos same, if_pos (by rw [same]; exact decide_eq_true rfl)]
        · rw [if_neg same, if_neg]
          rw [decide_eq_true_iff, Option.some.injEq]
          exact fun eq => same eq.symm
  | none =>
      have stops : isPlain frameType (.frame frame) = true := by
        rw [isPlain_frame, kindOf]
        rfl
      rw [pushFrame, Function.comp_apply, OutboundMessage.content, kindOf]
      dsimp only
      split
      · refine ⟨st.pendingControl.takeAll ++ [.frame frame],
          emits_flushing ?_ ?_ (sorted.flushControl.emit _) (fun _ => rfl)
            (filter_pendingControl sorted) fun _ => stops⟩
        · exact fun other member =>
            pending_not_plain sorted other (List.mem_append_left _ member)
        · exact List.append_assoc ..
      · refine ⟨(st.pendingControl.takeAll ++ pendingUpdates st) ++ [.frame frame],
          emits_flushing (pending_not_plain sorted) ?_
            (sorted.flushControl.flushPaneUpdates.emit _) (fun _ => rfl) (frames_emitted sorted)
            fun _ => stops⟩
        rw [BatchState.emit, frames_flushPaneUpdates, ← List.append_assoc, ← List.append_assoc]
        rfl

/-- Without coalescing an update is emitted at once, behind what is flushed. -/
private theorem emits_update {message : OutboundMessage F} {before : List (OutboundMessage F)}
    {after : SourcedState F}
    (quiet : ∀ other ∈ before, isPlain frameType other = false)
    (frames : after.frames = st.frames ++ (before ++ [message])) (stays : Sorted frameType after) :
    Emits frameType false st message after (before ++ [message]) where
  sorted := stays
  frames := frames
  plain := filter_plain quiet message
  stops on := by cases on
  passes on := by cases on

/-- A pending update emits nothing. -/
private theorem emits_pending {message : OutboundMessage F} (update : isUpdate message = true)
    {after : SourcedState F} (frames : after.frames = st.frames) (stays : Sorted frameType after)
    (control : after.pendingControl = st.pendingControl) :
    Emits frameType coalesce st message after [] where
  sorted := stays
  frames := by rw [frames, List.append_nil]
  plain := by
    rw [List.filter_cons_of_neg]
    rw [isPlain_of_isUpdate frameType update]
    exact Bool.false_ne_true
  stops _ stops := by
    rw [isPlain_of_isUpdate frameType update] at stops
    cases stops
  passes _ _ := by
    refine ⟨rfl, fun kind => ?_⟩
    rw [control, isControl_of_isUpdate frameType kind update, if_neg Bool.false_ne_true]

theorem emits_pushScreenUpdate (sorted : Sorted frameType st) {message : OutboundMessage F}
    (update : isUpdate message = true) :
    ∃ out, Emits frameType coalesce st message (pushScreenUpdate coalesce st message) out := by
  cases coalesce with
  | true =>
      refine ⟨[], emits_pending update rfl ⟨sorted.control, ?_, sorted.focused, sorted.passive⟩ rfl⟩
      intro other held
      cases held
      exact update
  | false =>
      have stays := sorted.flushControl.flushScreen.emit message
      refine ⟨(st.pendingControl.takeAll ++ st.pendingScreen.toList) ++ [message],
        emits_update ?_ ?_
          ⟨stays.control, stays.screen, stays.focused, stays.passive⟩⟩
      · intro other member
        refine pending_not_plain sorted other ?_
        rw [pendingUpdates]
        simp only [List.mem_append] at member ⊢
        tauto
      · rw [← List.append_assoc, ← List.append_assoc]
        rfl

theorem emits_pushPaneUpdate (sorted : Sorted frameType st) {message : OutboundMessage F}
    (update : isUpdate message = true) (paneId : PaneId) (focused : Bool) :
    ∃ out, Emits frameType coalesce st message
      (pushPaneUpdate coalesce st paneId focused message) out := by
  unfold pushPaneUpdate
  split
  · exact ⟨[], emits_pending update rfl ⟨sorted.control, sorted.screen,
      sorted_set update sorted.focused, sorted.passive⟩ rfl⟩
  cases coalesce with
  | true =>
      exact ⟨[], emits_pending update rfl ⟨sorted.control, sorted.screen, sorted.focused,
        sorted_set update sorted.passive⟩ rfl⟩
  | false =>
      refine ⟨(st.pendingControl.takeAll ++ pendingUpdates st) ++ [message],
        emits_update (pending_not_plain sorted) ?_
          (sorted.flushControl.flushPaneUpdates.emit message)⟩
      rw [if_neg Bool.false_ne_true, BatchState.emit, frames_flushPaneUpdates,
        ← List.append_assoc, ← List.append_assoc]
      rfl

theorem emits_pushSourced (sorted : Sorted frameType st) (message : OutboundMessage F) :
    ∃ out, Emits frameType coalesce st message (pushSourced frameType coalesce st message) out := by
  have counted : ∀ {after : SourcedState F} {out : List (OutboundMessage F)},
      Emits frameType coalesce st message after out →
        Emits frameType coalesce st message
          { after with messageCount := st.messageCount + 1 } out :=
    fun emits => ⟨⟨emits.sorted.control, emits.sorted.screen, emits.sorted.focused,
      emits.sorted.passive⟩, emits.frames, emits.plain, emits.stops, emits.passes⟩
  cases message with
  | frame frame =>
      obtain ⟨out, emits⟩ := @emits_pushFrame F frameType coalesce st sorted frame
      exact ⟨out, counted emits⟩
  | screenUpdate frame =>
      obtain ⟨out, emits⟩ := @emits_pushScreenUpdate F frameType coalesce st sorted
        (.screenUpdate frame) rfl
      exact ⟨out, counted emits⟩
  | paneUpdate paneId focused frame =>
      obtain ⟨out, emits⟩ := @emits_pushPaneUpdate F frameType coalesce st sorted
        (.paneUpdate paneId focused frame) rfl paneId focused
      exact ⟨out, counted emits⟩

theorem emits_finish (st : SourcedState F) :
    (finish st).frames = st.frames ++ (st.pendingControl.takeAll ++ pendingUpdates st) := by
  rw [finish, frames_flushPaneUpdates, ← List.append_assoc]
  rfl

/-- A batch emits the plain frames once each and in the order they are queued. -/
theorem run_plain (messages : List (OutboundMessage F)) (sorted : Sorted frameType st) :
    ∃ out, (finish (messages.foldl (pushSourced frameType coalesce) st)).frames =
        st.frames ++ out ∧
      out.filter (isPlain frameType) = messages.filter (isPlain frameType) := by
  induction messages generalizing st with
  | nil => exact ⟨_, emits_finish st, filter_quiet (pending_not_plain sorted)⟩
  | cons message messages ih =>
      obtain ⟨now, emits⟩ := @emits_pushSourced F frameType coalesce st sorted message
      obtain ⟨later, frames, plain⟩ := ih emits.sorted
      refine ⟨now ++ later, ?_, ?_⟩
      · rw [List.foldl_cons, frames, emits.frames, List.append_assoc]
      · rw [List.filter_append, emits.plain, plain, ← List.filter_append]
        rfl

/-- Keep the newest message of a control kind. -/
def absorbControl (frameType : F → Option MessageType) (kind : CoalescibleFrameKind)
    (held : Option (OutboundMessage F)) (message : OutboundMessage F) :
    Option (OutboundMessage F) :=
  if isControl frameType kind message then some message else held

/-- Between the plain frames a coalescing batch emits the newest frame of each control kind. -/
theorem run_control (kind : CoalescibleFrameKind) (messages : List (OutboundMessage F))
    (sorted : Sorted frameType st) :
    ∃ out, (finish (messages.foldl (pushSourced frameType true) st)).frames = st.frames ++ out ∧
      (out.splitOnP (isPlain frameType)).map (List.filter (isControl frameType kind)) =
        drain (isPlain frameType) (absorbControl frameType kind) (fun held => [held.toList]) none
          (st.pendingControl.value kind) messages := by
  induction messages generalizing st with
  | nil =>
      refine ⟨st.pendingControl.takeAll ++ pendingUpdates st, emits_finish st, ?_⟩
      rw [List.splitOnP_eq_singleton (pending_not_plain sorted), List.map_singleton,
        frames_emitted sorted, drain]
  | cons message messages ih =>
      obtain ⟨now, emits⟩ := @emits_pushSourced F frameType true st sorted message
      obtain ⟨later, frames, kept⟩ := ih emits.sorted
      refine ⟨now ++ later, ?_, ?_⟩
      · rw [List.foldl_cons, frames, emits.frames, List.append_assoc]
      · rw [drain]
        cases stops : isPlain frameType message with
        | true =>
            obtain ⟨before, rfl, quiet, newest⟩ := emits.stops rfl stops
            rw [if_pos rfl, List.append_assoc, List.singleton_append,
              List.splitOnP_append_cons_of_forall_mem quiet message stops, List.map_cons, kept,
              (newest kind).1, (newest kind).2]
            rfl
        | false =>
            obtain ⟨rfl, held⟩ := emits.passes rfl stops
            rw [if_neg Bool.false_ne_true, List.nil_append, kept, held kind, absorbControl]

end Emission

section Counting

variable {F : Type} (frameType : F → Option MessageType) (coalesce : Bool) {st : BatchState F}

/-- Every message is counted once: as an emitted frame, as a pending one or as a coalesced one.
Of the screen updates, those that are not emitted yet are the pending and the coalesced ones. -/
structure Accounted (st : BatchState F) : Prop where
  screens : st.emittedScreenFrames + st.pendingScreen.toList.length ≤ st.screenUpdates
  messages : st.messageCount + st.emittedScreenFrames =
    st.frames.length + st.pendingControl.order.length +
      st.pendingFocusedPanes.frames.order.length + st.pendingPassivePanes.frames.order.length +
        st.pendingFocusedPanes.coalesced + st.pendingPassivePanes.coalesced +
          st.coalescedControlFrames + st.screenUpdates

/-- A frame that is set either replaces one or adds a key. -/
theorem length_order_set {K V : Type} [DecidableEq K] (list : Keyed K V) (key : K) (value : V)
    (replaced : Nat) :
    (list.set key value).order.length +
        (if (list.value key).isSome then replaced + 1 else replaced) =
      list.order.length + replaced + 1 := by
  have order : (list.set key value).order =
      if (list.value key).isSome then list.order else list.order ++ [key] := rfl
  rw [order]
  split
  · omega
  · rw [List.length_append, List.length_singleton]
    omega

theorem length_pane_set (pending : PendingPaneFrames F) (paneId : PaneId) (frame : F) :
    (pending.set paneId frame).frames.order.length + (pending.set paneId frame).coalesced =
      pending.frames.order.length + pending.coalesced + 1 :=
  length_order_set pending.frames paneId frame pending.coalesced

theorem accounted_flushControl (accounted : Accounted st) : Accounted st.flushControl where
  screens := accounted.screens
  messages := by
    have messages := accounted.messages
    simp only [BatchState.flushControl, List.length_append, Keyed.length_takeAll, Keyed.empty,
      List.length_nil]
    omega

theorem accounted_flushScreen (accounted : Accounted st) : Accounted st.flushScreen where
  screens := accounted.screens
  messages := by
    have messages := accounted.messages
    simp only [BatchState.flushScreen, List.length_append]
    omega

theorem accounted_flushPaneUpdates (accounted : Accounted st) :
    Accounted st.flushPaneUpdates where
  screens := accounted.screens
  messages := by
    have messages := accounted.messages
    simp only [BatchState.flushPaneUpdates, BatchState.flushScreen, PendingPaneFrames.drained,
      List.length_append, Keyed.length_takeAll, Keyed.empty, List.length_nil]
    omega

/-- The state counts all messages but the one that is being pushed. -/
def OneUncounted (st : BatchState F) : Prop :=
  Accounted { st with messageCount := st.messageCount + 1 }

theorem oneUncounted_emit (accounted : Accounted st) (frame : F) : OneUncounted (st.emit frame) where
  screens := accounted.screens
  messages := by
    have messages := accounted.messages
    simp only [BatchState.emit, List.length_append, List.length_singleton]
    omega

theorem oneUncounted_pushFrame (accounted : Accounted st) (frame : F) :
    OneUncounted (pushFrame frameType st frame) := by
  rw [pushFrame]
  split
  · rename_i kind isKind
    refine ⟨accounted.screens, ?_⟩
    have counted := length_order_set st.pendingControl kind frame st.coalescedControlFrames
    have messages := accounted.messages
    dsimp only
    omega
  · have flushed := accounted_flushControl accounted
    split
    · exact oneUncounted_emit flushed frame
    · exact oneUncounted_emit (accounted_flushPaneUpdates flushed) frame

theorem oneUncounted_pushScreenUpdate (accounted : Accounted st) (frame : F) :
    OneUncounted (pushScreenUpdate coalesce st frame) := by
  have screens := accounted.screens
  rw [pushScreenUpdate]
  split
  · refine ⟨?_, ?_⟩
    · simp only [Option.toList_some, List.length_singleton]
      omega
    · have messages := accounted.messages
      dsimp only
      omega
  · have emitted := oneUncounted_emit
      (accounted_flushScreen (accounted_flushControl accounted)) frame
    have same : (st.flushControl.flushScreen.emit frame).screenUpdates = st.screenUpdates := rfl
    refine ⟨?_, ?_⟩
    · have screens := emitted.screens
      dsimp only at screens ⊢
      omega
    · have messages := emitted.messages
      dsimp only at messages ⊢
      omega

theorem oneUncounted_pushPaneUpdate (accounted : Accounted st) (paneId : PaneId) (focused : Bool)
    (frame : F) : OneUncounted (pushPaneUpdate coalesce st paneId focused frame) := by
  rw [pushPaneUpdate]
  split
  · refine ⟨accounted.screens, ?_⟩
    have counted := length_pane_set st.pendingFocusedPanes paneId frame
    have messages := accounted.messages
    dsimp only
    omega
  split
  · refine ⟨accounted.screens, ?_⟩
    have counted := length_pane_set st.pendingPassivePanes paneId frame
    have messages := accounted.messages
    dsimp only
    omega
  · exact oneUncounted_emit
      (accounted_flushPaneUpdates (accounted_flushControl accounted)) frame

theorem messageCount_pushFrame (st : BatchState F) (frame : F) :
    (pushFrame frameType st frame).messageCount = st.messageCount := by
  unfold pushFrame
  split
  · rfl
  · split <;> rfl

theorem messageCount_pushScreenUpdate (st : BatchState F) (frame : F) :
    (pushScreenUpdate coalesce st frame).messageCount = st.messageCount := by
  unfold pushScreenUpdate
  split <;> rfl

theorem messageCount_pushPaneUpdate (st : BatchState F) (paneId : PaneId) (focused : Bool)
    (frame : F) : (pushPaneUpdate coalesce st paneId focused frame).messageCount =
      st.messageCount := by
  unfold pushPaneUpdate
  split
  · rfl
  · split <;> rfl

theorem accounted_push (accounted : Accounted st) (message : OutboundMessage F) :
    Accounted (push frameType coalesce st message) := by
  have counted : ∀ {after : BatchState F}, OneUncounted after →
      after.messageCount = st.messageCount →
        Accounted { after with messageCount := st.messageCount + 1 } := by
    intro after one same
    rw [← same]
    exact one
  cases message with
  | frame frame =>
      exact counted (oneUncounted_pushFrame frameType accounted frame)
        (messageCount_pushFrame frameType st frame)
  | screenUpdate frame =>
      exact counted (oneUncounted_pushScreenUpdate coalesce accounted frame)
        (messageCount_pushScreenUpdate coalesce st frame)
  | paneUpdate paneId focused frame =>
      exact counted (oneUncounted_pushPaneUpdate coalesce accounted paneId focused frame)
        (messageCount_pushPaneUpdate coalesce st paneId focused frame)

theorem accounted_run (messages : List (OutboundMessage F)) (accounted : Accounted st) :
    Accounted (messages.foldl (push frameType coalesce) st) := by
  induction messages generalizing st with
  | nil => exact accounted
  | cons message messages ih => exact ih (accounted_push frameType coalesce accounted message)

/-- At the end of a batch nothing is pending. -/
theorem count_finish (accounted : Accounted st) :
    (finish st).messageCount = (finish st).frames.length + (finish st).coalescedScreenUpdates +
      (finish st).coalescedPaneUpdates + (finish st).coalescedControlFrames := by
  have last := accounted_flushPaneUpdates (accounted_flushControl accounted)
  have screens := last.screens
  have messages := last.messages
  have control : st.flushControl.flushPaneUpdates.pendingControl.order.length = 0 := rfl
  have focused : st.flushControl.flushPaneUpdates.pendingFocusedPanes.frames.order.length = 0 := rfl
  have passive : st.flushControl.flushPaneUpdates.pendingPassivePanes.frames.order.length = 0 := rfl
  have screen : st.flushControl.flushPaneUpdates.pendingScreen.toList.length = 0 := rfl
  dsimp only [finish]
  omega

end Counting

section Batches

variable {F : Type} (frameType : F → Option MessageType)

private theorem sorted_start : Sorted frameType (BatchState.start : SourcedState F) :=
  ⟨fun _ _ found => (by cases found), fun _ member => (by cases member),
    fun _ _ found => (by cases found), fun _ _ found => (by cases found)⟩

private theorem emitted_eq (coalesce : Bool) (first : OutboundMessage F)
    (available : List (OutboundMessage F)) :
    emitted frameType coalesce first available =
      (finish ((first :: available).foldl (pushSourced frameType coalesce) .start)).frames := by
  rw [emitted, collectOutboundBatch, ← List.map_cons, List.foldl_map]
  rfl

private theorem foldl_absorbControl (kind : CoalescibleFrameKind)
    (segment : List (OutboundMessage F)) :
    segment.foldl (absorbControl frameType kind) none =
      (segment.filter (isControl frameType kind)).getLast? := by
  have latest := foldl_latest (Option.guard (isControl frameType kind)) none segment
  rw [List.filterMap_eq_filter, Option.or_none] at latest
  rw [← latest]
  congr 1
  funext held message
  rw [absorbControl, Option.guard_apply]
  split <;> rfl

/-- A batch emits each plain frame once and in order, with coalescing on it emits between two of
them the newest frame of each control kind, and its counters account for every message. -/
theorem batch_accounts (coalesce : Bool) (first : OutboundMessage F)
    (available : List (OutboundMessage F)) :
    (emitted frameType coalesce first available).map OutboundMessage.content =
        (collectOutboundBatch frameType coalesce first available).frames ∧
      (emitted frameType coalesce first available).filter (isPlain frameType) =
        (first :: available).filter (isPlain frameType) ∧
      (∀ kind, ((emitted frameType true first available).splitOnP (isPlain frameType)).map
          (List.filter (isControl frameType kind)) =
        ((first :: available).splitOnP (isPlain frameType)).map fun segment =>
          (segment.filter (isControl frameType kind)).getLast?.toList) ∧
      (collectOutboundBatch frameType coalesce first available).messageCount =
        (collectOutboundBatch frameType coalesce first available).frames.length +
          (collectOutboundBatch frameType coalesce first available).coalescedScreenUpdates +
          (collectOutboundBatch frameType coalesce first available).coalescedPaneUpdates +
          (collectOutboundBatch frameType coalesce first available).coalescedControlFrames := by
  refine ⟨content_emitted frameType coalesce first available, ?_, fun kind => ?_, ?_⟩
  · obtain ⟨out, frames, plain⟩ := @run_plain F frameType coalesce _ (first :: available)
      (sorted_start frameType)
    rw [emitted_eq, frames]
    exact plain
  · obtain ⟨out, frames, kept⟩ := run_control kind (first :: available) (sorted_start frameType)
    rw [emitted_eq, frames]
    refine kept.trans ?_
    have nothing : (BatchState.start : SourcedState F).pendingControl.value kind = none := rfl
    rw [nothing, drain_eq_flatMap, ← List.map_eq_flatMap]
    simp only [foldl_absorbControl]
  · have start : Accounted (BatchState.start : BatchState F) := ⟨Nat.le_refl 0, rfl⟩
    exact count_finish (accounted_run frameType coalesce (first :: available) start)

/-- A screen between two tab lists and a runtime state, then the echo of a heartbeat and a tab
list. -/
def mixedQueue : List (OutboundMessage (MessageType × Nat)) :=
  [.screenUpdate (.fullState, 2), .frame (.uiRuntimeState, 3), .frame (.tabList, 4),
    .frame (.heartbeatAck, 5), .frame (.tabList, 6)]

def mixedBatch : OutboundBatch (MessageType × Nat) :=
  collectOutboundBatch (some ∘ Prod.fst) true (.frame (.tabList, 1)) mixedQueue

/-- Of the six messages five are written: the first tab list is written over by the second one,
and the third one comes behind the echo. -/
theorem batch_accounts_mixedQueue :
    (emitted (some ∘ Prod.fst) true (.frame (.tabList, 1)) mixedQueue).filter
        (isPlain (some ∘ Prod.fst)) = [.frame (.heartbeatAck, 5)] ∧
      ((emitted (some ∘ Prod.fst) true (.frame (.tabList, 1)) mixedQueue).splitOnP
          (isPlain (some ∘ Prod.fst))).map (List.filter (isControl (some ∘ Prod.fst) .tabList)) =
        [[.frame (.tabList, 4)], [.frame (.tabList, 6)]] ∧
      mixedBatch.messageCount = 6 ∧ mixedBatch.frames.length = 5 ∧
      mixedBatch.messageCount = mixedBatch.frames.length + mixedBatch.coalescedScreenUpdates +
        mixedBatch.coalescedPaneUpdates + mixedBatch.coalescedControlFrames := by
  obtain ⟨-, plain, newest, count⟩ :=
    batch_accounts (some ∘ Prod.fst) true (.frame (.tabList, 1)) mixedQueue
  exact ⟨plain, newest .tabList, rfl, rfl, count⟩

end Batches

end Boo.Remote.BatchAccounts
