/- module: Boo/Remote/Recency
   digest: Whether the last frame that a batch emits for a pane is the newest one it was given. -/

import Boo.Remote.Batcher
import Mathlib.Data.List.Induction

set_option autoImplicit false
set_option relaxedAutoImplicit false

namespace Boo.Remote.Recency

open Boo.Wire.Message
open Boo.Server.Frames
open Boo.Remote.Batcher

section Waiting

variable {F : Type} (frameType : F → Option MessageType) (coalesce : Bool) (paneId : PaneId)

/-- The passive update of the pane that waits behind `messages`: the newest one since the last
barrier. Without coalescing no passive update waits. -/
def waiting (messages : List (OutboundMessage F)) : Option F :=
  if coalesce then
    ((messages.reverse.takeWhile (!isBarrier frameType ·)).filterMap
      (trailing (.pane paneId))).head?
  else none

/-- The newest update of the pane is a focused one, and a passive one waited when it was queued. -/
def Overtaken (messages : List (OutboundMessage F)) : Prop :=
  ∃ earlier frame later, messages = earlier ++ .paneUpdate paneId true frame :: later ∧
    (∀ message ∈ later, slotFrame (.pane paneId) message = none) ∧
      (waiting frameType coalesce paneId earlier).isSome

/-- The updates of the pane in queue order. -/
def updatesOf (messages : List (OutboundMessage F)) : List F :=
  messages.filterMap (slotFrame (.pane paneId))

variable {frameType coalesce paneId} {messages : List (OutboundMessage F)} {frame : F}

theorem slotFrame_pane (focused : Bool) :
    slotFrame (.pane paneId) (.paneUpdate paneId focused frame) = some frame := by
  cases focused <;> simp [slotFrame, leading, trailing]

theorem trailing_of_slotFrame {slot : Slot} {message : OutboundMessage F}
    (foreign : slotFrame slot message = none) : trailing slot message = none := by
  rw [slotFrame, Option.or_eq_none_iff] at foreign
  exact foreign.2

theorem leading_of_slotFrame {slot : Slot} {message : OutboundMessage F}
    (foreign : slotFrame slot message = none) : leading slot message = none := by
  rw [slotFrame, Option.or_eq_none_iff] at foreign
  exact foreign.1

theorem paneUpdate_of_slotFrame {message : OutboundMessage F}
    (found : slotFrame (.pane paneId) message = some frame) :
    ∃ focused, message = .paneUpdate paneId focused frame := by
  cases message with
  | frame content => cases found
  | screenUpdate content => simp [slotFrame, leading, trailing] at found
  | paneUpdate other focused content =>
      refine ⟨focused, ?_⟩
      by_cases mine : paneId = other
      · subst mine
        rw [slotFrame_pane] at found
        rw [Option.some.inj found]
      · simp [slotFrame, leading, trailing, mine] at found

theorem mem_updatesOf_of_waiting (waits : waiting frameType coalesce paneId messages = some frame) :
    frame ∈ updatesOf paneId messages := by
  unfold waiting at waits
  split at waits
  · obtain ⟨message, member, passive⟩ := List.mem_filterMap.mp (List.mem_of_mem_head? waits)
    refine List.mem_filterMap.mpr ⟨message, ?_, ?_⟩
    · exact List.mem_reverse.mp ((List.takeWhile_sublist _).subset member)
    · cases message with
      | paneUpdate other focused content =>
          rw [trailing] at passive
          split at passive
          · rename_i mine
            obtain ⟨same, isPassive⟩ := mine
            cases passive
            cases same
            exact slotFrame_pane focused
          · cases passive
      | _ => cases passive
  · cases waits

private theorem concat_eq_append_cons {A : Type} {front earlier later : List A} {last element : A} :
    front ++ [last] = earlier ++ element :: later ↔
      later = [] ∧ front = earlier ∧ last = element ∨
        ∃ rest, later = rest ++ [last] ∧ front = earlier ++ element :: rest := by
  constructor
  · intro same
    rcases List.eq_nil_or_concat later with rfl | ⟨rest, tail, rfl⟩
    · obtain ⟨fronts, lasts⟩ := List.append_inj' same rfl
      exact .inl ⟨rfl, fronts, List.singleton_inj.mp lasts⟩
    · rw [List.concat_eq_append, ← List.cons_append, ← List.append_assoc] at same
      obtain ⟨fronts, lasts⟩ := List.append_inj' same rfl
      rw [List.singleton_inj] at lasts
      exact .inr ⟨rest, by rw [List.concat_eq_append, lasts], fronts⟩
  · rintro (⟨rfl, rfl, rfl⟩ | ⟨rest, rfl, rfl⟩)
    · rfl
    · rw [List.append_assoc, List.cons_append]

/-- Only an update of the pane can be overtaken. -/
theorem overtaken_foreign {message : OutboundMessage F}
    (foreign : slotFrame (.pane paneId) message = none) :
    Overtaken frameType coalesce paneId (messages ++ [message]) ↔
      Overtaken frameType coalesce paneId messages := by
  constructor
  · rintro ⟨earlier, frame, later, same, others, waits⟩
    rcases concat_eq_append_cons.mp same with ⟨-, -, rfl⟩ | ⟨rest, rfl, front⟩
    · rw [slotFrame_pane] at foreign
      cases foreign
    · exact ⟨earlier, frame, rest, front,
        fun other member => others other (List.mem_append_left _ member), waits⟩
  · rintro ⟨earlier, frame, later, rfl, others, waits⟩
    refine ⟨earlier, frame, later ++ [message], by simp, fun other member => ?_, waits⟩
    rcases List.mem_append.mp member with member | member
    · exact others other member
    · exact List.mem_singleton.mp member ▸ foreign

theorem overtaken_update (focused : Bool) :
    Overtaken frameType coalesce paneId (messages ++ [.paneUpdate paneId focused frame]) ↔
      focused = true ∧ (waiting frameType coalesce paneId messages).isSome := by
  constructor
  · rintro ⟨earlier, other, later, same, others, waits⟩
    rcases concat_eq_append_cons.mp same with ⟨-, rfl, isUpdate⟩ | ⟨rest, rfl, -⟩
    · cases isUpdate
      exact ⟨rfl, waits⟩
    · have foreign := others _ (List.mem_append_right _ List.mem_cons_self)
      rw [slotFrame_pane] at foreign
      cases foreign
  · rintro ⟨rfl, waits⟩
    exact ⟨messages, frame, [], rfl, fun _ member => (by cases member), waits⟩

/-- A barrier empties the place, and a passive update of the pane takes it. -/
theorem waiting_concat {message : OutboundMessage F}
    (waits : coalesce = true ∨ ∀ other frame, message ≠ .paneUpdate other false frame) :
    waiting frameType coalesce paneId (messages ++ [message]) =
      if isBarrier frameType message then none
      else (trailing (.pane paneId) message).or (waiting frameType coalesce paneId messages) := by
  cases coalesce with
  | false =>
      have focused : trailing (.pane paneId) message = none := by
        cases message with
        | paneUpdate other focused content =>
            cases focused with
            | true => simp [trailing]
            | false => exact absurd rfl ((waits.resolve_left Bool.false_ne_true) other content)
        | _ => rfl
      rw [focused]
      split <;> rfl
  | true =>
      rw [waiting, waiting, if_pos rfl, if_pos rfl, List.reverse_append, List.reverse_singleton,
        List.singleton_append, List.takeWhile_cons]
      by_cases stops : isBarrier frameType message = true
      · simp [stops]
      · rw [if_pos (by simp [stops]), if_neg stops, List.filterMap_cons]
        cases trailing (.pane paneId) message <;> rfl

end Waiting

section Steps

variable {F : Type} {frameType : F → Option MessageType} {coalesce : Bool} {paneId : PaneId}
  {pick : F → Option F} {st : BatchState F}

/-- Only a passive update that may not wait flushes what a barrier flushes. -/
theorem push_moves_pane (reads : ReadsState (.pane paneId) pick st) {message : OutboundMessage F}
    (quiet : Reads (.pane paneId) pick message)
    (waits : coalesce = true ∨ ∀ other frame, message ≠ .paneUpdate other false frame) :
    Moves frameType (.pane paneId) pick st (push frameType coalesce st message) message := by
  cases coalesce with
  | true => exact push_moves frameType _ pick reads quiet
  | false =>
      have counted : ∀ {after : BatchState F}, Moves frameType (.pane paneId) pick st after message →
          Moves frameType (.pane paneId) pick st
            { after with messageCount := st.messageCount + 1 } message :=
        fun moves => ⟨⟨moves.reads.control, moves.reads.screen, moves.reads.focused,
          moves.reads.passive⟩, moves.barrier, moves.passes⟩
      apply counted
      cases message with
      | frame frame => exact pushFrame_moves frameType _ pick reads (quiet rfl)
      | screenUpdate frame =>
          have foreign : pick frame = none := quiet (by simp [slotFrame, leading, trailing])
          have silent : [frame].filterMap pick = [] := List.filterMap_cons_none foreign
          have screen : st.pendingScreen.toList.filterMap pick = [] :=
            filterMap_none pick fun pending member =>
              reads.screen (by simp) pending (Option.mem_toList.mp member)
          refine ⟨⟨fun _ _ found => (by cases found), fun _ _ found => (by cases found),
            reads.focused, reads.passive⟩, fun stops => (by cases stops), fun _ => ⟨?_, rfl⟩⟩
          show ((st.flushControl.frames ++ st.pendingScreen.toList) ++ [frame]).filterMap pick = _
          rw [List.filterMap_append, List.filterMap_append, pick_flushControl _ pick reads, screen,
            silent, List.append_nil, List.append_nil]
      | paneUpdate other focused frame =>
          cases focused with
          | true =>
              have moves : Moves frameType (.pane paneId) pick st
                  (pushPaneUpdate true st other true frame) (.paneUpdate other true frame) :=
                pushPaneUpdate_moves frameType _ pick reads fun different =>
                  quiet (by simp [slotFrame, leading, trailing, different])
              exact moves
          | false => exact absurd rfl ((waits.resolve_left Bool.false_ne_true) other frame)

/-- Without coalescing a passive update is emitted at once, behind everything that waits. -/
theorem push_passive (reads : ReadsState (.pane paneId) pick st) (other : PaneId) (frame : F) :
    ReadsState (.pane paneId) pick (push frameType false st (.paneUpdate other false frame)) ∧
      (push frameType false st (.paneUpdate other false frame)).frames.filterMap pick =
        st.frames.filterMap pick ++ flushHeld pick (heldIn (.pane paneId) st) ++
          (pick frame).toList ∧
      heldIn (.pane paneId) (push frameType false st (.paneUpdate other false frame)) =
        (none, none) := by
  refine ⟨⟨fun _ _ found => (by cases found), fun _ _ found => (by cases found),
    fun _ _ found => (by cases found), fun _ _ found => (by cases found)⟩, ?_, rfl⟩
  show (st.flushControl.flushPaneUpdates.frames ++ [frame]).filterMap pick = _
  rw [List.filterMap_append, pick_flushed _ pick (reads_flushControl _ pick reads),
    pick_flushControl _ pick reads]
  have last : [frame].filterMap pick = (pick frame).toList := by
    cases found : pick frame with
    | none => exact List.filterMap_cons_none found
    | some _ => exact List.filterMap_cons_some found
  rw [last]
  rfl

end Steps

section Runs

variable {F : Type} (frameType : F → Option MessageType) (coalesce : Bool) (paneId : PaneId)
  (pick : F → Option F)

/-- The last frame of the pane, if the batch ended here. -/
def newestIn (st : BatchState F) : Option F :=
  (st.frames.filterMap pick ++ flushHeld pick (heldIn (.pane paneId) st)).getLast?

/-- How far a batch is with the pane, and whether its last frame of it is the newest one. -/
structure Tracks (messages : List (OutboundMessage F)) (st : BatchState F) : Prop where
  reads : ReadsState (.pane paneId) pick st
  passive : (heldIn (.pane paneId) st).2 = waiting frameType coalesce paneId messages
  leads : ∀ frame ∈ (heldIn (.pane paneId) st).1, pick frame = some frame
  trails : ∀ frame ∈ (heldIn (.pane paneId) st).2, pick frame = some frame
  newest : newestIn paneId pick st = (updatesOf paneId messages).getLast? ↔
    ¬ Overtaken frameType coalesce paneId messages

variable {frameType coalesce paneId pick} {messages : List (OutboundMessage F)}
  {st after : BatchState F}

theorem newestIn_eq (leads : ∀ frame ∈ (heldIn (.pane paneId) st).1, pick frame = some frame)
    (trails : ∀ frame ∈ (heldIn (.pane paneId) st).2, pick frame = some frame) :
    newestIn paneId pick st = (heldIn (.pane paneId) st).2.or
      ((heldIn (.pane paneId) st).1.or (st.frames.filterMap pick).getLast?) := by
  have kept : ∀ held : Option F, (∀ frame ∈ held, pick frame = some frame) →
      held.toList.filterMap pick = held.toList := by
    intro held all
    cases held with
    | none => rfl
    | some frame => exact List.filterMap_cons_some (all frame rfl)
  rw [newestIn, flushHeld, List.filterMap_append, kept _ leads, kept _ trails,
    List.getLast?_append, List.getLast?_append]
  cases (heldIn (.pane paneId) st).1 <;> cases (heldIn (.pane paneId) st).2 <;> rfl

theorem updatesOf_concat (message : OutboundMessage F) :
    updatesOf paneId (messages ++ [message]) =
      updatesOf paneId messages ++ (slotFrame (.pane paneId) message).toList := by
  rw [updatesOf, List.filterMap_append]
  cases found : slotFrame (.pane paneId) message with
  | none => rw [List.filterMap_cons_none found]; rfl
  | some frame => rw [List.filterMap_cons_some found]; rfl

/-- A message that leaves the pane's last frame and its places as they are. -/
theorem Tracks.foreign (tracks : Tracks frameType coalesce paneId pick messages st)
    {message : OutboundMessage F} (foreign : slotFrame (.pane paneId) message = none)
    (reads : ReadsState (.pane paneId) pick after)
    (passive : (heldIn (.pane paneId) after).2 =
      waiting frameType coalesce paneId (messages ++ [message]))
    (leads : ∀ frame ∈ (heldIn (.pane paneId) after).1, pick frame = some frame)
    (trails : ∀ frame ∈ (heldIn (.pane paneId) after).2, pick frame = some frame)
    (newest : newestIn paneId pick after = newestIn paneId pick st) :
    Tracks frameType coalesce paneId pick (messages ++ [message]) after := by
  refine ⟨reads, passive, leads, trails, ?_⟩
  rw [newest, updatesOf_concat, foreign, overtaken_foreign foreign, Option.toList_none,
    List.append_nil]
  exact tracks.newest

/-- An update of the pane: it comes last unless an older passive one still waits. -/
theorem tracks_update {focused : Bool} {frame : F} (fresh : frame ∉ updatesOf paneId messages)
    (reads : ReadsState (.pane paneId) pick after)
    (passive : (heldIn (.pane paneId) after).2 = waiting frameType coalesce paneId
      (messages ++ [.paneUpdate paneId focused frame]))
    (leads : ∀ frame ∈ (heldIn (.pane paneId) after).1, pick frame = some frame)
    (trails : ∀ frame ∈ (heldIn (.pane paneId) after).2, pick frame = some frame)
    (newest : newestIn paneId pick after =
      if focused then (waiting frameType coalesce paneId messages).or (some frame)
      else some frame) :
    Tracks frameType coalesce paneId pick (messages ++ [.paneUpdate paneId focused frame])
      after := by
  refine ⟨reads, passive, leads, trails, ?_⟩
  rw [newest, updatesOf_concat, slotFrame_pane, overtaken_update, Option.toList_some,
    List.getLast?_concat]
  cases focused with
  | false => simp
  | true =>
      cases waits : waiting frameType coalesce paneId messages with
      | none => simp
      | some older =>
          have different : older ≠ frame := fun same =>
            fresh (same ▸ mem_updatesOf_of_waiting waits)
          simp [different]

theorem picked_of_none {place : Option F} (empty : place = none) :
    ∀ frame ∈ place, pick frame = some frame := by
  intro frame member
  rw [empty] at member
  cases member

/-- Without coalescing a passive update is the last frame at once. -/
theorem Tracks.push_passive (tracks : Tracks frameType false paneId pick messages st)
    {other : PaneId} {frame : F}
    (picked : pick frame = slotFrame (.pane paneId) (.paneUpdate other false frame))
    (fresh : ∀ own ∈ slotFrame (.pane paneId) (.paneUpdate other false frame),
      own ∉ updatesOf paneId messages) :
    Tracks frameType false paneId pick (messages ++ [.paneUpdate other false frame])
      (push frameType false st (.paneUpdate other false frame)) := by
  obtain ⟨reads, emitted, cleared⟩ := Recency.push_passive tracks.reads other frame
  have newest : newestIn paneId pick (push frameType false st (.paneUpdate other false frame)) =
      (pick frame).or (newestIn paneId pick st) := by
    rw [newestIn, cleared, emitted, newestIn]
    show (_ ++ (pick frame).toList ++ []).getLast? = _
    rw [List.append_nil, List.getLast?_append]
    cases pick frame <;> rfl
  have leads := @picked_of_none _ pick _ (congrArg Prod.fst cleared)
  have trails := @picked_of_none _ pick _ (congrArg Prod.snd cleared)
  by_cases mine : other = paneId
  · subst mine
    refine tracks_update (fresh frame (slotFrame_pane false)) reads ?_ leads trails ?_
    · rw [cleared]
      rfl
    · rw [newest, show pick frame = some frame from picked.trans (slotFrame_pane false)]
      rfl
  · have foreign : slotFrame (.pane paneId) (.paneUpdate other false frame) = none := by
      simp [slotFrame, leading, trailing, Ne.symm mine]
    refine tracks.foreign foreign reads ?_ leads trails ?_
    · rw [cleared]
      rfl
    · rw [newest, show pick frame = none from picked.trans foreign]
      rfl

/-- A barrier emits what waits, and the last frame stays the last one. -/
theorem Tracks.push_barrier (tracks : Tracks frameType coalesce paneId pick messages st)
    {message : OutboundMessage F} (moves : Moves frameType (.pane paneId) pick st after message)
    (stops : isBarrier frameType message = true)
    (place : waiting frameType coalesce paneId (messages ++ [message]) = none) :
    Tracks frameType coalesce paneId pick (messages ++ [message]) after := by
  obtain ⟨emitted, cleared⟩ := moves.barrier stops
  have foreign : slotFrame (.pane paneId) message = none := by
    cases message with
    | frame content => rfl
    | _ => cases stops
  refine tracks.foreign foreign moves.reads ?_ (picked_of_none (congrArg Prod.fst cleared))
    (picked_of_none (congrArg Prod.snd cleared)) ?_
  · rw [cleared, place]
  · rw [newestIn, emitted, cleared, newestIn]
    show (_ ++ []).getLast? = _
    rw [List.append_nil]

/-- Nothing becomes of the pane's frames where a message of another stream waits. -/
theorem Tracks.push_foreign (tracks : Tracks frameType coalesce paneId pick messages st)
    {message : OutboundMessage F} (moves : Moves frameType (.pane paneId) pick st after message)
    (stops : isBarrier frameType message = false)
    (place : waiting frameType coalesce paneId (messages ++ [message]) =
      (trailing (.pane paneId) message).or (waiting frameType coalesce paneId messages))
    (foreign : slotFrame (.pane paneId) message = none) :
    Tracks frameType coalesce paneId pick (messages ++ [message]) after := by
  obtain ⟨kept, moved⟩ := moves.passes stops
  have same : heldIn (.pane paneId) after = heldIn (.pane paneId) st := by
    rw [moved, absorb, leading_of_slotFrame foreign, trailing_of_slotFrame foreign]
    rfl
  refine tracks.foreign foreign moves.reads ?_ ?_ ?_ ?_
  · rw [same, place, trailing_of_slotFrame foreign, tracks.passive]
    rfl
  · rw [same]
    exact tracks.leads
  · rw [same]
    exact tracks.trails
  · rw [newestIn, same, kept]
    rfl

/-- An update of the pane takes its place, the focused one before the passive one. -/
theorem Tracks.push_own (tracks : Tracks frameType coalesce paneId pick messages st)
    {focused : Bool} {frame : F}
    (moves : Moves frameType (.pane paneId) pick st after (.paneUpdate paneId focused frame))
    (place : waiting frameType coalesce paneId (messages ++ [.paneUpdate paneId focused frame]) =
      (trailing (.pane paneId) (.paneUpdate paneId focused frame)).or
        (waiting frameType coalesce paneId messages))
    (own : pick frame = some frame) (fresh : frame ∉ updatesOf paneId messages) :
    Tracks frameType coalesce paneId pick (messages ++ [.paneUpdate paneId focused frame])
      after := by
  obtain ⟨kept, moved⟩ := moves.passes rfl
  have absorbed : ∀ (mine : Bool) (held : Option F), (∀ other ∈ held, pick other = some other) →
      ∀ other ∈ (if mine then some frame else none).or held, pick other = some other := by
    intro mine held all other member
    cases mine with
    | true => exact Option.some.inj member ▸ own
    | false => exact all other member
  have places : heldIn (.pane paneId) after =
      ((if focused then some frame else none).or (heldIn (.pane paneId) st).1,
        (if !focused then some frame else none).or (heldIn (.pane paneId) st).2) := by
    rw [moved, absorb]
    cases focused <;> simp [leading, trailing]
  have leads : ∀ other ∈ (heldIn (.pane paneId) after).1, pick other = some other := by
    rw [places]
    exact absorbed focused _ tracks.leads
  have trails : ∀ other ∈ (heldIn (.pane paneId) after).2, pick other = some other := by
    rw [places]
    exact absorbed (!focused) _ tracks.trails
  refine tracks_update fresh moves.reads ?_ leads trails ?_
  · rw [place, moved, absorb, tracks.passive]
  · rw [newestIn_eq leads trails, places, kept, tracks.passive]
    cases focused <;> simp

/-- What one message does to what a batch has of the pane. -/
theorem Tracks.push (tracks : Tracks frameType coalesce paneId pick messages st)
    {message : OutboundMessage F}
    (picked : pick message.content = slotFrame (.pane paneId) message)
    (fresh : ∀ frame ∈ slotFrame (.pane paneId) message, frame ∉ updatesOf paneId messages) :
    Tracks frameType coalesce paneId pick (messages ++ [message])
      (push frameType coalesce st message) := by
  have quiet : Reads (.pane paneId) pick message := fun foreign => picked.trans foreign
  by_cases immediate : coalesce = false ∧ ∃ other frame, message = .paneUpdate other false frame
  · obtain ⟨rfl, other, frame, rfl⟩ := immediate
    exact tracks.push_passive picked fresh
  · have waits : coalesce = true ∨ ∀ other frame, message ≠ .paneUpdate other false frame := by
      cases coalesce with
      | true => exact .inl rfl
      | false => exact .inr fun other frame same => immediate ⟨rfl, other, frame, same⟩
    have place := @waiting_concat _ frameType coalesce paneId messages _ waits
    have moves : Moves frameType (.pane paneId) pick st (Batcher.push frameType coalesce st message)
        message := push_moves_pane tracks.reads quiet waits
    by_cases stops : isBarrier frameType message = true
    · rw [if_pos stops] at place
      exact tracks.push_barrier moves stops place
    · rw [if_neg stops] at place
      rw [Bool.not_eq_true] at stops
      cases found : slotFrame (.pane paneId) message with
      | none => exact tracks.push_foreign moves stops place found
      | some frame =>
          obtain ⟨focused, rfl⟩ := paneUpdate_of_slotFrame found
          exact tracks.push_own moves place (picked.trans found) (fresh frame found)

theorem tracks_start : Tracks frameType coalesce paneId pick [] .start := by
  refine ⟨⟨fun _ _ found => (by cases found), fun _ _ found => (by cases found),
    fun _ _ found => (by cases found), fun _ _ found => (by cases found)⟩, ?_,
    fun _ member => (by cases member), fun _ member => (by cases member), ?_⟩
  · rw [waiting]
    split <;> rfl
  · refine ⟨fun _ => ?_, fun _ => rfl⟩
    rintro ⟨earlier, frame, later, same, -, -⟩
    exact List.append_ne_nil_of_right_ne_nil earlier (List.cons_ne_nil _ later) same.symm

/-- A batch tracks the pane, whatever is queued. -/
theorem tracks_foldl (messages : List (OutboundMessage F))
    (picked : ∀ message ∈ messages, pick message.content = slotFrame (.pane paneId) message)
    (distinct : (updatesOf paneId messages).Nodup) :
    Tracks frameType coalesce paneId pick messages
      (messages.foldl (Batcher.push frameType coalesce) .start) := by
  induction messages using List.reverseRecOn with
  | nil => exact tracks_start
  | append_singleton messages message ih =>
      rw [updatesOf_concat, List.nodup_append] at distinct
      obtain ⟨others, -, apart⟩ := distinct
      rw [List.foldl_append]
      refine (ih (fun other member => picked other (List.mem_append_left _ member)) others).push
        (picked message (List.mem_append_right _ List.mem_cons_self)) fun frame found member => ?_
      exact apart frame member frame (Option.mem_toList.mpr found) rfl

end Runs

section Numbers

variable {F G : Type}

theorem slotFrame_map (f : G → F) (slot : Slot) (message : OutboundMessage G) :
    slotFrame slot (message.map f) = (slotFrame slot message).map f := by
  cases message with
  | frame frame => rfl
  | screenUpdate frame => cases slot <;> rfl
  | paneUpdate other focused frame =>
      cases focused <;> by_cases mine : slot = .pane other <;>
        simp [OutboundMessage.map, slotFrame, leading, trailing, mine]

theorem waiting_map (f : G → F) (typeF : F → Option MessageType) (coalesce : Bool)
    (paneId : PaneId) (messages : List (OutboundMessage G)) :
    waiting typeF coalesce paneId (messages.map (OutboundMessage.map f)) =
      (waiting (fun frame => typeF (f frame)) coalesce paneId messages).map f := by
  have barrier : ∀ message : OutboundMessage G, isBarrier typeF (message.map f) =
      isBarrier (fun frame => typeF (f frame)) message := by
    intro message
    cases message <;> rfl
  have passive : ∀ message : OutboundMessage G, trailing (.pane paneId) (message.map f) =
      (trailing (.pane paneId) message).map f := by
    intro message
    cases message with
    | paneUpdate other focused frame =>
        simp only [OutboundMessage.map, trailing]
        split <;> rfl
    | _ => rfl
  unfold waiting
  split
  · rw [← List.map_reverse, List.takeWhile_map, List.filterMap_map,
      show (fun message => !isBarrier typeF message) ∘ OutboundMessage.map f =
        (fun message => !isBarrier (fun frame => typeF (f frame)) message) from
          funext fun message => congrArg (!·) (barrier message),
      show trailing (.pane paneId) ∘ OutboundMessage.map f =
        fun message => (trailing (.pane paneId) message).map f from funext passive,
      ← List.map_filterMap, List.head?_map]
  · rfl

/-- Which pane a batch overtakes does not depend on what the frames carry. -/
theorem overtaken_map (f : G → F) (typeF : F → Option MessageType) (coalesce : Bool)
    (paneId : PaneId) (messages : List (OutboundMessage G)) :
    Overtaken typeF coalesce paneId (messages.map (OutboundMessage.map f)) ↔
      Overtaken (fun frame => typeF (f frame)) coalesce paneId messages := by
  constructor
  · rintro ⟨earlier, frame, later, same, others, waits⟩
    obtain ⟨front, back, rfl, rfl, isBack⟩ := List.map_eq_append_iff.mp same
    obtain ⟨update, rest, rfl, isUpdate, rfl⟩ := List.map_eq_cons_iff.mp isBack
    cases update with
    | paneUpdate other focused own =>
        cases isUpdate
        refine ⟨front, own, rest, rfl, fun message member => ?_, ?_⟩
        · have foreign := others _ (List.mem_map_of_mem member)
          rw [slotFrame_map, Option.map_eq_none_iff] at foreign
          exact foreign
        · rwa [waiting_map, Option.isSome_map] at waits
    | _ => cases isUpdate
  · rintro ⟨earlier, frame, later, rfl, others, waits⟩
    refine ⟨earlier.map (OutboundMessage.map f), f frame, later.map (OutboundMessage.map f), ?_,
      fun message member => ?_, ?_⟩
    · rw [List.map_append, List.map_cons]
      rfl
    · obtain ⟨own, held, rfl⟩ := List.mem_map.mp member
      rw [slotFrame_map, others own held]
      rfl
    · rwa [waiting_map, Option.isSome_map]

end Numbers

section Batches

variable {F : Type} (frameType : F → Option MessageType) (coalesce : Bool) (paneId : PaneId)
  (first : OutboundMessage F) (available : List (OutboundMessage F))

/-- Every message under its place in the queue. -/
def numbered (messages : List (OutboundMessage F)) : List (OutboundMessage (F × Nat)) :=
  messages.zipIdx.map fun entry => entry.1.map (·, entry.2)

/-- The frames of a batch, each under the place of the message that it comes from. -/
def traced : List (F × Nat) :=
  (collectOutboundBatch (fun frame => frameType frame.1) coalesce (first.map (·, 0))
    ((available.zipIdx 1).map fun entry => entry.1.map (·, entry.2))).frames

/-- The frame comes from an update of the pane. -/
def isUpdateOf (messages : List (OutboundMessage F)) (frame : F × Nat) : Bool :=
  (messages[frame.2]?.bind (slotFrame (.pane paneId))).isSome

def lastEmitted : Option (F × Nat) :=
  ((traced frameType coalesce first available).filter
    (isUpdateOf paneId (first :: available))).getLast?

def lastEnqueued (messages : List (OutboundMessage F)) : Option (F × Nat) :=
  (updatesOf paneId (numbered messages)).getLast?

theorem map_numbered (messages : List (OutboundMessage F)) :
    (numbered messages).map (OutboundMessage.map Prod.fst) = messages := by
  have undo : OutboundMessage.map Prod.fst ∘ (fun entry : OutboundMessage F × Nat =>
      entry.1.map (·, entry.2)) = Prod.fst := by
    funext entry
    obtain ⟨message, index⟩ := entry
    cases message <;> rfl
  rw [numbered, List.map_map, undo, List.zipIdx_map_fst]

variable {frameType coalesce paneId first available}

theorem content_of_slotFrame {message : OutboundMessage F} {frame : F}
    (found : slotFrame (.pane paneId) message = some frame) : message.content = frame := by
  obtain ⟨focused, rfl⟩ := paneUpdate_of_slotFrame found
  rfl

theorem numbered_picked {messages : List (OutboundMessage F)} {message : OutboundMessage (F × Nat)}
    (member : message ∈ numbered messages) :
    Option.guard (isUpdateOf paneId messages) message.content =
      slotFrame (.pane paneId) message := by
  obtain ⟨⟨own, index⟩, held, rfl⟩ := List.mem_map.mp member
  have place := List.mem_zipIdx_iff_getElem?.mp held
  rw [slotFrame_map, OutboundMessage.content_map, Option.guard, isUpdateOf, place, Option.bind_some]
  cases found : slotFrame (.pane paneId) own with
  | none => rfl
  | some frame =>
      rw [content_of_slotFrame found]
      rfl

theorem nodup_updatesOf_numbered (messages : List (OutboundMessage F)) :
    (updatesOf paneId (numbered messages)).Nodup := by
  have places : messages.zipIdx.Pairwise fun entry later => entry.2 < later.2 := by
    rw [← List.pairwise_map, List.zipIdx_map_snd]
    exact List.pairwise_lt_range'
  rw [updatesOf, numbered, List.filterMap_map]
  refine List.Pairwise.filterMap _ ?_ places
  intro entry later before frame found other foundOther same
  rw [Function.comp_apply, slotFrame_map, Option.map_eq_some_iff] at found foundOther
  obtain ⟨_, -, rfl⟩ := found
  obtain ⟨_, -, rfl⟩ := foundOther
  rw [Prod.mk.injEq] at same
  exact Nat.ne_of_lt before same.2

/-- What is emitted for the pane is the pane's share of the batch and of its pending places. -/
theorem lastEmitted_eq {st : BatchState (F × Nat)}
    (reads : ReadsState (.pane paneId)
      (Option.guard (isUpdateOf paneId (first :: available))) st)
    (final : st = (numbered (first :: available)).foldl
      (push (fun frame => frameType frame.1) coalesce) .start) :
    lastEmitted frameType coalesce paneId first available =
      newestIn paneId (Option.guard (isUpdateOf paneId (first :: available))) st := by
  have batch : traced frameType coalesce first available =
      st.flushControl.flushPaneUpdates.frames := by
    rw [final]
    rfl
  rw [lastEmitted, batch, ← List.filterMap_eq_filter,
    pick_flushed _ _ (reads_flushControl _ _ reads), pick_flushControl _ _ reads]
  rfl

/-- The last frame of a pane that a batch emits is the last one that was enqueued, unless that
one is focused and overtaken by an older passive one. -/
theorem lastEmitted_iff : lastEmitted frameType coalesce paneId first available =
      lastEnqueued paneId (first :: available) ↔
    ¬ Overtaken frameType coalesce paneId (first :: available) := by
  have tracks := @tracks_foldl _ (fun frame : F × Nat => frameType frame.1) coalesce paneId
    (Option.guard (isUpdateOf paneId (first :: available))) (numbered (first :: available))
    (fun message member => numbered_picked member) (nodup_updatesOf_numbered _)
  have overtaken := @overtaken_map _ _ Prod.fst frameType coalesce paneId
    (numbered (first :: available))
  rw [map_numbered] at overtaken
  rw [lastEmitted_eq tracks.reads rfl, lastEnqueued, overtaken]
  exact tracks.newest

end Batches

/-- A pane loses the focus and regains it within one batch: its older content comes last. -/
theorem regainedFocus_overtaken :
    lastEmitted (fun _ : Nat => some .uiPaneFullState) true 7 (.paneUpdate 7 false 0)
        [.paneUpdate 7 true 1] ≠
      lastEnqueued 7 [.paneUpdate 7 false 0, .paneUpdate 7 true 1] := by
  decide

end Boo.Remote.Recency
