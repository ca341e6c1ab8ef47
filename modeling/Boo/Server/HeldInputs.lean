/- module: Boo/Server/HeldInputs
   digest: What an action does to the input that the next screen of a client would acknowledge. -/

import Boo.Server.StrandedViews

set_option autoImplicit false
set_option relaxedAutoImplicit false

namespace Boo.Server.HeldInputs

open Boo.Lib.KeyedList
open Boo.Lib.Script
open Boo.Lib.Script.Program
open Boo.Wire.Message
open Boo.Server.Frames
open Boo.Server.View
open Boo.Server.App
open Boo.Server.App.BooApp
open Boo.Server.Actions
open Boo.Server.Streams
open Boo.Server.Publishing
open Boo.Server.StreamSteps
open Boo.Server.StreamRuns
open Boo.Server.Handlers
open Boo.Server.Commands
open Boo.Server.InputRouting
open Boo.Server.PolledOutput
open Boo.Server.TabRuns
open Boo.Server.StrandedViews
open Boo.Runtime.Splits
open Boo.Runtime.Leaves
open Boo.Runtime.Tabs
open Boo.Runtime.TabOps
open Boo.Runtime.PaneCount
open Boo.Runtime.ClosedPanes
open Boo.Runtime.LastTab
open Boo.Runtime.Ui

/-- What a change of the view does to the recorded input: nothing, or set it, or forget it. -/
def seqMark : ViewChange → Option (Option UInt64)
  | .keep | .assign _ => none
  | .record inputSeq => inputSeq.map some
  | _ => some none

/-- The input sequences that queued screens acknowledge. -/
def acksOf (queue : List Sent) : List (Option UInt64) :=
  queue.filterMap fun sent =>
    match sent with
    | .screen _ latestInputSeq _ => some latestInputSeq
    | _ => none

/-- No screen of the client acknowledges an input. -/
def Unacked (stream : Stream) : Prop := ∀ ack ∈ acksOf stream.queue, ack = none

/-- And no input is kept to be acknowledged. -/
structure Forgot (stream : Stream) : Prop where
  unacked : Unacked stream
  inputSeq : stream.inputSeq = none

/-- Or one is kept for a view that is never sent a screen. -/
structure Unheard (known : List PaneId) (app : BooApp) (stream : Stream) : Prop where
  unacked : Unacked stream
  waiting : stream.inputSeq = none ∨ Stranded known app stream

/-- An action that keeps no input for the client. -/
def Unrecorded (id : ClientId) (action : Action) : Prop :=
  ∀ seq, action ≠ .recordInputSeq id (some seq)

/-- And that changes the tab of its view only by touching the view. -/
structure Plain (id : ClientId) (action : Action) : Prop where
  records : Unrecorded id action
  assigns : ∀ tabId, action ≠ .assignViewedTab id tabId

section Streams

variable {after : BooApp} {before result : Stream}

theorem inputSeq_apply (tabs : TabManager) (stream : Stream) (view : ViewChange) :
    (view.apply tabs stream).inputSeq = (seqMark view).getD stream.inputSeq := by
  cases view with
  | record inputSeq => cases inputSeq <;> rfl
  | _ => rfl

theorem inputSeq_of_leads {change : Change} (leads : change.Leads after before result) :
    result.inputSeq = (seqMark change.view).getD before.inputSeq := by
  rw [← inputSeq_apply after.tabs]
  unfold Change.Leads at leads
  dsimp only at leads
  cases news : change.news with
  | silent =>
      rw [news] at leads
      rw [leads]
  | told =>
      rw [news] at leads
      obtain ⟨state, -, rfl⟩ := leads
      exact tell_inputSeq _ state
  | toldLocally =>
      rw [news] at leads
      rw [leads]
      exact tell_inputSeq _ _
  | published tabId =>
      rw [news] at leads
      obtain ⟨sends, -, sent⟩ := leads
      obtain ⟨new, _, _, -, same⟩ := sends_foldl sends (change.view.apply after.tabs before)
      rw [sent, same]

/-- A change that leaves the recorded input leaves the view, or else assigns its tab. -/
theorem view_of_seqMark {view : ViewChange} (tabs : TabManager) (stream : Stream)
    (mark : seqMark view = none) (assigns : ∀ tabId, view ≠ .assign tabId) :
    (view.apply tabs stream).viewed = stream.viewed ∧
      (view.apply tabs stream).focused = stream.focused ∧
      (view.apply tabs stream).visible = stream.visible := by
  cases view with
  | keep | record inputSeq => exact ⟨rfl, rfl, rfl⟩
  | assign tabId => exact absurd rfl (assigns tabId)
  | _ => cases mark

theorem acksOf_append (queue later : List Sent) :
    acksOf (queue ++ later) = acksOf queue ++ acksOf later :=
  List.filterMap_append

theorem acksOf_tell (stream : Stream) (state : UiRuntimeState) :
    ∃ new, (stream.tell state).queue = stream.queue ++ new ∧ acksOf new = [] := by
  unfold Stream.tell
  split
  · exact ⟨[], (List.append_nil _).symm, rfl⟩
  · exact ⟨[.told state], rfl, rfl⟩

/-- A screen that is sent acknowledges the recorded input; nothing else does. -/
theorem acks_send (stream : Stream) (send : Send) :
    ∃ new, (Stream.send stream send).queue = stream.queue ++ new ∧
      (Stream.send stream send).inputSeq = stream.inputSeq ∧
      ∀ ack ∈ acksOf new, ack = stream.inputSeq ∧ ∃ source state, send = .screen source state := by
  cases send with
  | screen source state =>
      show ∃ new, (stream.sendScreen source state).queue = stream.queue ++ new ∧
        (stream.sendScreen source state).inputSeq = stream.inputSeq ∧ _
      unfold Stream.sendScreen
      split
      · refine ⟨[.screen source stream.inputSeq (nextUpdate stream.lastState state)], rfl, rfl,
          fun ack member => ⟨List.mem_singleton.mp member, source, state, rfl⟩⟩
      · exact ⟨[], (List.append_nil _).symm, rfl, fun ack none => by cases none⟩
  | pane header state =>
      show ∃ new, (stream.sendPane header state).queue = stream.queue ++ new ∧
        (stream.sendPane header state).inputSeq = stream.inputSeq ∧ _
      unfold Stream.sendPane
      split
      · exact ⟨[.pane header (nextUpdate (stream.paneStates header.paneId) state)], rfl, rfl,
          fun ack none => by cases none⟩
      · exact ⟨[], (List.append_nil _).symm, rfl, fun ack none => by cases none⟩

theorem acks_foldl (sends : List Send) (stream : Stream) :
    ∃ new, (sends.foldl Stream.send stream).queue = stream.queue ++ new ∧
      ∀ ack ∈ acksOf new, ack = stream.inputSeq ∧
        ∃ source state, Send.screen source state ∈ sends := by
  induction sends generalizing stream with
  | nil => exact ⟨[], (List.append_nil _).symm, fun ack none => by cases none⟩
  | cons send sends ih =>
      obtain ⟨first, queue, same, acks⟩ := acks_send stream send
      obtain ⟨later, queue', acks'⟩ := ih (Stream.send stream send)
      refine ⟨first ++ later, ?_, fun ack member => ?_⟩
      · rw [List.foldl_cons, queue', queue, List.append_assoc]
      · rw [acksOf_append, List.mem_append] at member
        rcases member with member | member
        · obtain ⟨recorded, source, state, rfl⟩ := acks ack member
          exact ⟨recorded, source, state, List.mem_cons_self⟩
        · obtain ⟨recorded, source, state, sent⟩ := acks' ack member
          exact ⟨recorded.trans same, source, state, List.mem_cons_of_mem _ sent⟩

end Streams

section Changes

variable {app after : BooApp} {id : ClientId} {client : ClientState} {action : Action}
variable {result : Stream}

/-- Only a publication of the viewed tab publishes, and it leaves the view alone. -/
theorem viewed_of_published {tabId : TabId}
    (news : (change app id client action).news = .published tabId) :
    action = .publishTo id tabId ∧ (change app id client action).view = .keep ∧
      (streamOf client).viewed = some tabId := by
  cases action with
  | publishTo target tab =>
      simp only [change] at news ⊢
      split at news
      · rename_i reaches
        obtain ⟨rfl, -, viewed⟩ := reaches
        cases news
        exact ⟨rfl, by split <;> rfl, viewed⟩
      · cases news
  | _ =>
      simp only [change, localNews, Change.none] at news
      exfalso
      revert news
      repeat' split
      all_goals exact fun same => by cases same

/-- Every screen that an action queues acknowledges the input recorded before it, and comes of a
publication of the viewed tab. -/
theorem acks_of_leads
    (leads : (change app id client action).Leads after (streamOf client) result) :
    ∃ new, result.queue = (streamOf client).queue ++ new ∧
      ∀ ack ∈ acksOf new, ack = (streamOf client).inputSeq ∧
        ∃ tabId sends source state, action = .publishTo id tabId ∧
          (streamOf client).viewed = some tabId ∧
          Publication after (streamOf client) tabId sends ∧ Send.screen source state ∈ sends := by
  have aimed := queue_apply after.tabs (streamOf client) (change app id client action).view
  unfold Change.Leads at leads
  dsimp only at leads
  cases news : (change app id client action).news with
  | silent =>
      rw [news] at leads
      exact ⟨[], by rw [leads, aimed, List.append_nil], fun ack member => by cases member⟩
  | told =>
      rw [news] at leads
      obtain ⟨state, -, rfl⟩ := leads
      obtain ⟨new, queue, none⟩ := acksOf_tell
        ((change app id client action).view.apply after.tabs (streamOf client)) state
      exact ⟨new, queue.trans (by rw [aimed]), fun ack member => by simp [none] at member⟩
  | toldLocally =>
      rw [news] at leads
      obtain ⟨new, queue, none⟩ := acksOf_tell
        ((change app id client action).view.apply after.tabs (streamOf client))
        after.uiRuntimeState
      exact ⟨new, by rw [leads, queue, aimed], fun ack member => by simp [none] at member⟩
  | published tabId =>
      obtain ⟨publishes, kept, viewed⟩ := viewed_of_published news
      rw [news, kept] at leads
      obtain ⟨sends, publication, sent⟩ := leads
      obtain ⟨new, queue, acks⟩ := acks_foldl sends (streamOf client)
      refine ⟨new, by rw [sent]; exact queue, fun ack member => ?_⟩
      obtain ⟨recorded, source, state, screen⟩ := acks ack member
      exact ⟨recorded, tabId, sends, source, state, publishes, viewed, publication, screen⟩

theorem recordInputSeq_of_seqMark {seq : UInt64}
    (mark : seqMark (change app id client action).view = some (some seq)) :
    action = .recordInputSeq id (some seq) := by
  cases action with
  | recordInputSeq target inputSeq =>
      simp only [change] at mark
      split at mark
      · rename_i mine
        subst mine
        cases inputSeq with
        | none => cases mark
        | some other =>
            cases mark
            rfl
      · cases mark
  | _ =>
      exfalso
      simp only [change, syncAim, repairChange, repairAllChange, Change.none] at mark
      revert mark
      repeat' split
      all_goals exact fun same => by cases same

theorem assignViewedTab_of_view {tabId : TabId}
    (assigns : (change app id client action).view = .assign tabId) :
    action = .assignViewedTab id tabId := by
  cases action with
  | assignViewedTab target other =>
      simp only [change] at assigns
      split at assigns
      · rename_i mine
        subst mine
        cases assigns
        rfl
      · cases assigns
  | _ =>
      exfalso
      simp only [change, syncAim, repairChange, repairAllChange, Change.none] at assigns
      revert assigns
      repeat' split
      all_goals exact fun same => by cases same

/-- What was forgotten stays so until an input is recorded. -/
theorem inputSeq_of_unrecorded (unrecorded : Unrecorded id action)
    (leads : (change app id client action).Leads after (streamOf client) result)
    (forgot : (streamOf client).inputSeq = none) : result.inputSeq = none := by
  rw [inputSeq_of_leads leads, forgot]
  cases mark : seqMark (change app id client action).view with
  | none => rfl
  | some last =>
      cases last with
      | none => rfl
      | some seq => exact absurd (recordInputSeq_of_seqMark mark) (unrecorded seq)

end Changes

section Steps

variable {known : List PaneId} {app : BooApp} {id : ClientId}

theorem Forgot.unheard {stream : Stream} (forgot : Forgot stream) : Unheard known app stream :=
  ⟨forgot.unacked, .inl forgot.inputSeq⟩

theorem Unheard.mono {more : List PaneId} {stream : Stream} (unheard : Unheard known app stream)
    (sub : known ⊆ more) : Unheard more app stream :=
  ⟨unheard.unacked, unheard.waiting.imp id fun stranded => stranded.mono sub⟩

theorem forgot_new (isLocal : Bool) : Forgot (streamOf (newClient isLocal)) :=
  ⟨fun ack none => (by cases none), rfl⟩

/-- An action that publishes nothing to the client queues no screen. -/
theorem unacked_step {action : Action} (held : Holds app id Unacked)
    (quiet : ∀ tabId, action ≠ .publishTo id tabId) : Holds (action.step app) id Unacked := by
  intro result atEnd
  rcases step_leads app action id atEnd with ⟨isLocal, -, rfl⟩ | ⟨client, before, leads⟩
  · exact (forgot_new isLocal).unacked
  · intro ack member
    obtain ⟨new, queue, acks⟩ := acks_of_leads leads
    rw [queue, acksOf_append, List.mem_append] at member
    rcases member with member | member
    · exact held client before ack member
    · obtain ⟨-, tabId, _, _, _, publishes, -⟩ := acks ack member
      exact absurd publishes (quiet tabId)

theorem forgot_step {action : Action} (held : Holds app id Forgot)
    (unrecorded : Unrecorded id action) : Holds (action.step app) id Forgot := by
  intro result atEnd
  rcases step_leads app action id atEnd with ⟨isLocal, -, rfl⟩ | ⟨client, before, leads⟩
  · exact forgot_new isLocal
  · have forgot := held client before
    refine ⟨fun ack member => ?_, inputSeq_of_unrecorded unrecorded leads forgot.inputSeq⟩
    obtain ⟨new, queue, acks⟩ := acks_of_leads leads
    rw [queue, acksOf_append, List.mem_append] at member
    rcases member with member | member
    · exact forgot.unacked ack member
    · exact (acks ack member).1.trans forgot.inputSeq

/-- A touch of the view forgets the input. -/
theorem forgot_of_mark {action : Action} (held : Holds app id Unacked)
    (quiet : ∀ tabId, action ≠ .publishTo id tabId)
    (connects : ∀ isLocal, action ≠ .connect id isLocal)
    (forgets : ∀ client, app.clients.value id = some client →
      seqMark (change app id client action).view = some none) :
    Holds (action.step app) id Forgot := by
  intro result atEnd
  refine ⟨unacked_step held quiet result atEnd, ?_⟩
  rcases step_leads app action id atEnd with ⟨isLocal, connect, -⟩ | ⟨client, before, leads⟩
  · exact absurd connect (connects isLocal)
  · rw [inputSeq_of_leads leads, forgets client before]
    rfl

/-- A view that waits for no screen that could come stays so. -/
theorem unheard_step {action : Action} (held : Holds app id (Unheard known app))
    (plain : Plain id action) (others : SpawnsOthers known action) :
    Holds (action.step app) id (Unheard known (action.step app)) := by
  intro result atEnd
  rcases step_leads app action id atEnd with ⟨isLocal, -, rfl⟩ | ⟨client, before, leads⟩
  · exact (forgot_new isLocal).unheard
  · have unheard := held client before
    refine ⟨fun ack member => ?_, ?_⟩
    · obtain ⟨new, queue, acks⟩ := acks_of_leads leads
      rw [queue, acksOf_append, List.mem_append] at member
      rcases member with member | member
      · exact unheard.unacked ack member
      · obtain ⟨recorded, tabId, sends, source, state, -, viewed, publication, screen⟩ :=
          acks ack member
        rcases unheard.waiting with none | stranded
        · exact recorded.trans none
        · exact absurd screen ((stranded.step others rfl rfl rfl).unshown viewed publication _ _)
    · rcases unheard.waiting with none | stranded
      · exact .inl (inputSeq_of_unrecorded plain.records leads none)
      · cases mark : seqMark (change app id client action).view with
        | none =>
            obtain ⟨viewed, focused, visible⟩ := view_of_leads leads
            obtain ⟨sameViewed, sameFocused, sameVisible⟩ := view_of_seqMark
              (action.step app).tabs (streamOf client) mark fun tabId assigns =>
                plain.assigns tabId (assignViewedTab_of_view assigns)
            exact .inr (stranded.step others (viewed.trans sameViewed)
              (focused.trans sameFocused) (visible.trans sameVisible))
        | some last =>
            refine .inl ?_
            rw [inputSeq_of_leads leads, mark]
            cases last with
            | none => rfl
            | some seq => exact absurd (recordInputSeq_of_seqMark mark) (plain.records seq)

theorem forgot_final {R : Type} {handler : Handler R} (held : Holds app id Forgot)
    (unrecorded : Runs (Unrecorded id) handler) :
    Holds (final Action.step handler app) id Forgot :=
  @Performs.invariant _ _ _ _ _ (fun app => Holds app id Forgot) _ unrecorded
    (fun _ _ held unrecorded => forgot_step held unrecorded) app held

theorem unheard_final {R : Type} {handler : Handler R} (held : Holds app id (Unheard known app))
    (plain : Runs (Plain id) handler)
    (others : Admits Action.step (fun _ action => SpawnsOthers known action) handler app) :
    Holds (final Action.step handler app) id
      (Unheard known (final Action.step handler app)) :=
  @final_invariant _ _ _ Action.step (fun app => Holds app id (Unheard known app))
    (fun _ action => Plain id action ∧ SpawnsOthers known action)
    (fun _ _ held ok => unheard_step held ok.1 ok.2) handler app held
    fun entry member => ⟨plain app entry member, others entry member⟩

end Steps

section Focusing

variable {known : List PaneId} {app : BooApp} {id : ClientId}

/-- What `ensure_remote_client_view_state` repairs forgets the input, and it repairs every stranded
view. -/
theorem forgot_repaired (held : Holds app id (Unheard known app)) :
    Holds ((Action.repairView id).step app) id Forgot := by
  intro result atEnd
  refine ⟨?_, ?_⟩
  · exact unacked_step (fun client before => (held client before).unacked)
      (fun tabId same => by cases same) result atEnd
  · rcases step_leads app (.repairView id) id atEnd with
      ⟨isLocal, same, -⟩ | ⟨client, before, leads⟩
    · cases same
    · rcases (held client before).waiting with none | stranded
      · exact inputSeq_of_unrecorded (fun seq same => by cases same) leads none
      · obtain ⟨tabId, viewed, gone⟩ := stranded.tab
        have aims : seqMark (change app id client (.repairView id)).view = some none := by
          have broken : client.runtimeView.focusedPaneId.all
              (· ∉ app.tabs.paneIdsForTab tabId) = true := by
            rw [paneIdsForTab_of_gone gone]
            cases client.runtimeView.focusedPaneId <;> simp
          have named : client.runtimeView.viewedTabId = some tabId := viewed
          rw [change, if_pos rfl, repairChange, named]
          dsimp only
          rw [if_pos (.inl broken)]
          rfl
        rw [inputSeq_of_leads leads, aims]
        rfl

theorem forgot_ensured (held : Holds app id (Unheard known app)) :
    Holds (ensured app id) id Forgot := by
  unfold ensured
  split
  · rename_i none
    intro result atEnd
    rw [viewOf, Option.map_eq_none_iff] at none
    cases none.symm.trans atEnd
  · split
    · have initialized : Holds ((Action.initializeView id).step app) id Forgot := by
        refine forgot_of_mark (fun client before => (held client before).unacked)
          (fun tabId same => by cases same) (fun isLocal same => by cases same) fun client _ => ?_
        rw [change, if_pos rfl]
        rfl
      exact @forgot_repaired known _ _ fun client before => (initialized client before).unheard
    · exact forgot_repaired held

theorem plain_of_aims {client : ClientId} {action : Action} (aims : Aims client action) :
    Plain id action := by
  constructor
  · rintro seq rfl
    exact aims
  · rintro tabId rfl
    exact aims

theorem forgot_focused (held : Holds app id (Unheard known app)) :
    Holds (final Action.step (focusClientRuntimeTarget id) app) id Forgot := by
  unfold focusClientRuntimeTarget
  rw [final_bind, result_ensure, final_ensure]
  refine forgot_final (forgot_ensured held) ?_
  split
  · exact performs_pure _
  · refine performs_bind performs_current fun app => ?_
    split
    · exact performs_pure _
    · split
      · exact performs_bind ((aims_recover id).mono fun _ _ aims => (plain_of_aims aims).records)
          fun _ => performs_pure _
      · exact performs_bind (performs_perform fun _ seq same => by cases same) fun _ =>
          performs_pure _

end Focusing

end Boo.Server.HeldInputs
