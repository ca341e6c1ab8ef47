/- module: Boo/Server/FocusAttribution
   digest: When a screen that names no pane is read under the focus on the pane it was sent for. -/

import Boo.Client.Gui
import Boo.Remote.Coalescing
import Boo.Remote.FocusOrder
import Boo.Server.Outbound
import Boo.Server.PolledOutput

set_option autoImplicit false
set_option relaxedAutoImplicit false

namespace Boo.Server.FocusAttribution

open Boo.Lib.KeyedList
open Boo.Lib.Runs
open Boo.Wire.Message
open Boo.Remote.Batcher
open Boo.Remote.Coalescing (structuredType)
open Boo.Remote.FocusOrder
open Boo.Client.Gui
open Boo.Client.Gui.GuiClient
open Boo.Server.Frames
open Boo.Server.View
open Boo.Server.App
open Boo.Server.App.BooApp
open Boo.Server.Actions
open Boo.Server.Streams
open Boo.Server.Publishing
open Boo.Server.StreamSteps
open Boo.Server.StreamRuns
open Boo.Server.Outbound
open Boo.Server.Handlers
open Boo.Server.PolledOutput
open Boo.Runtime.Splits
open Boo.Runtime.Tabs
open Boo.Runtime.Ui

/-- The focus that a frame tells its reader. -/
def toldFocus : Frame → Option PaneId
  | .control (.uiRuntimeState state) => some state.focusedPane
  | _ => none

/-- The pane that a screen without a name was sent for. -/
def screenSource : Frame → Option PaneId
  | .screen source _ _ _ => some source
  | _ => none

section Clients

variable {Style : Type} (cursorStyleOf : Int32 → Style)

/-- A screen is read under the focus on its own pane, and changes what is stored of no other. -/
structure Attributed (gui : GuiClient Style) (frame : Frame) : Prop where
  focus : ∀ source ∈ screenSource frame, gui.focusedPaneId = source
  others : ∀ source ∈ screenSource frame, ∀ paneId, paneId ≠ source →
    (gui.receive cursorStyleOf frame).paneSnapshots paneId = gui.paneSnapshots paneId

variable {cursorStyleOf} {gui : GuiClient Style} {frame : Frame}

/-- Only a `UiRuntimeState` moves the focus. -/
theorem focusedPaneId_handleStreamEvent {event : LocalStreamEvent}
    (other : ∀ state, event ≠ .uiRuntimeState state) :
    (gui.handleStreamEvent cursorStyleOf event).focusedPaneId = gui.focusedPaneId := by
  cases event with
  | uiRuntimeState state => exact absurd rfl (other state)
  | uiAppearance appearance => rfl
  | fullState ack state =>
      show (allocateRevisions (if _ then _ else _) _).focusedPaneId = _
      split <;> rfl
  | delta ack delta => rfl
  | uiPaneFullState paneId revision state =>
      show GuiClient.focusedPaneId (if _ then _ else _) = _
      split <;> rfl
  | uiPaneDelta paneId revision delta =>
      show GuiClient.focusedPaneId (if _ then _ else _) = _
      split <;> rfl

theorem readEvent_tells {state : UiRuntimeState} :
    readEvent frame = some (.uiRuntimeState state) ↔
      frame = .control (.uiRuntimeState state) := by
  cases frame with
  | control control => cases control <;> simp [readEvent]
  | screen source seq isLocal update => cases update <;> simp [readEvent]
  | pane header update => cases update <;> simp [readEvent]

theorem focusedPaneId_receive : (gui.receive cursorStyleOf frame).focusedPaneId =
    focusNext toldFocus gui.focusedPaneId frame := by
  by_cases tells : ∃ state, frame = .control (.uiRuntimeState state)
  · obtain ⟨state, rfl⟩ := tells
    rfl
  · have untold : toldFocus frame = none := by
      unfold toldFocus
      split
      · rename_i state
        exact absurd ⟨state, rfl⟩ tells
      · rfl
    rw [focusNext, untold, Option.getD_none, receive]
    cases read : readEvent frame with
    | none => rfl
    | some event =>
        refine focusedPaneId_handleStreamEvent fun state same => tells ⟨state, ?_⟩
        exact readEvent_tells.mp (same ▸ read)

/-- A screen changes what is stored of the focused pane alone. -/
theorem paneSnapshots_receive {source paneId : PaneId} (screen : screenSource frame = some source)
    (other : paneId ≠ gui.focusedPaneId) :
    (gui.receive cursorStyleOf frame).paneSnapshots paneId = gui.paneSnapshots paneId := by
  cases frame with
  | screen source seq isLocal update =>
      rw [receive]
      cases update with
      | full state =>
          rw [readEvent]
          cases Boo.Client.Snapshot.decodeRemoteFullState _ with
          | none => rfl
          | some decoded =>
              show (allocateRevisions (if _ then _ else _) _).paneSnapshots paneId = _
              split
              · exact Function.update_of_ne other _ _
              · rfl
      | patch delta =>
          rw [readEvent]
          cases Boo.Client.Snapshot.decodeRemoteDelta _ with
          | none => rfl
          | some decoded => exact Function.update_of_ne other _ _
  | _ => cases screen

theorem attributed_of_fits (fits : Fits screenSource gui.focusedPaneId frame) :
    Attributed cursorStyleOf gui frame := by
  refine ⟨fits, fun source screen paneId other => ?_⟩
  have focus := fits source screen
  exact paneSnapshots_receive screen (focus ▸ other)

theorem always_attributed {frames : List Frame}
    (fits : Always (focusNext toldFocus) (Fits screenSource) gui.focusedPaneId frames) :
    Always (receive cursorStyleOf) (Attributed cursorStyleOf) gui frames := by
  induction frames generalizing gui with
  | nil => trivial
  | cons frame frames ih =>
      refine ⟨attributed_of_fits fits.1, ih ?_⟩
      rw [focusedPaneId_receive]
      exact fits.2

theorem fits_of_attributed {frames : List Frame}
    (attributed : Always (receive cursorStyleOf) (Attributed cursorStyleOf) gui frames) :
    Always (focusNext toldFocus) (Fits screenSource) gui.focusedPaneId frames := by
  induction frames generalizing gui with
  | nil => trivial
  | cons frame frames ih =>
      refine ⟨attributed.1.focus, ?_⟩
      rw [← @focusedPaneId_receive _ cursorStyleOf]
      exact ih attributed.2

end Clients

section Queues

/-- What a client's queue says last, and whether a screen stands behind its last barrier. -/
def tailOf (client : ClientState) : Tail PaneId :=
  client.outbound.foldl (Tail.next structuredType toldFocus screenSource) ⟨0, false⟩

/-- A reply of the reader thread or a row range to the client. -/
def replied (id : ClientId) : Action → Option OtherFrame
  | .sendOther target frame => if id = target then some frame else none
  | _ => none

/-- News that leave every screen under its focus: another focus is told only where no screen stands
behind the last barrier of the queue, and a screen is sent only of the pane told last. -/
def Aligned (app : BooApp) (stream : Stream) (tail : Tail PaneId) : News → Prop
  | .silent => True
  | .told => ((stream.viewed.or app.tabs.activeTabId).bind fun tabId =>
      app.tabs.focusIn tabId stream.focused).getD 0 = tail.focus ∨ tail.screens = false
  | .toldLocally => app.tabs.focusedPane = tail.focus ∨ tail.screens = false
  | .published tabId => ∀ paneId ∈ focusSent app.tabs stream tabId,
      (app.runtime.terminals paneId).isSome → tail.focus = paneId

/-- The client hears only aligned news, once its view is changed. -/
def Attended (id : ClientId) (entry : BooApp × Action) : Prop :=
  (∀ frame ∈ replied id entry.2, frame.ty ≠ .uiRuntimeState) ∧
  ∀ client ∈ entry.1.clients.value id, Aligned (entry.2.step entry.1)
    ((change entry.1 id client entry.2).view.apply (entry.2.step entry.1).tabs (streamOf client))
    (tailOf client) (change entry.1 id client entry.2).news

instance (app : BooApp) (stream : Stream) (tail : Tail PaneId) :
    (news : News) → Decidable (Aligned app stream tail news)
  | .silent => inferInstanceAs (Decidable True)
  | .told | .toldLocally => inferInstanceAs (Decidable (_ ∨ _))
  | .published tabId => Option.decidableForallMem (focusSent app.tabs stream tabId)

instance (id : ClientId) (entry : BooApp × Action) : Decidable (Attended id entry) :=
  @instDecidableAnd _ _ (Option.decidableForallMem (replied id entry.2))
    (Option.decidableForallMem (entry.1.clients.value id))

/-- A message of the server's own, or a reply that is no `UiRuntimeState`. -/
def Proper (message : OutboundMessage Frame) : Prop :=
  (∃ isLocal, Own isLocal message) ∨
    ∃ frame : OtherFrame, message = .frame (.control (.other frame)) ∧ frame.ty ≠ .uiRuntimeState

variable {message : OutboundMessage Frame} {new : List (OutboundMessage Frame)}
  {tail : Tail PaneId}

theorem placed_of_proper (proper : Proper message) :
    Placed structuredType toldFocus screenSource message := by
  rcases proper with ⟨isLocal, own⟩ | ⟨frame, rfl, other⟩
  · cases message with
    | frame frame =>
        cases frame with
        | control control =>
            cases control with
            | other frame => exact absurd rfl (own frame)
            | _ => simp [Placed, screenSource, toldFocus, structuredType, Frame.messageType,
                ControlFrame.messageType, coalescibleFrameKind]
        | _ => exact own.elim
    | screenUpdate frame =>
        cases frame with
        | screen source seq isLocal update => rfl
        | _ => exact own.elim
    | paneUpdate paneId focused frame =>
        cases frame with
        | pane header update => exact ⟨rfl, rfl⟩
        | _ => exact own.elim
  · refine ⟨rfl, ?_⟩
    have silent : coalescibleFrameKind (structuredType (.control (.other frame))) ≠
        some .uiRuntimeState := by
      show coalescibleFrameKind (some frame.ty) ≠ _
      cases ty : frame.ty <;> simp_all [coalescibleFrameKind]
    simp [toldFocus, silent]

/-- What a proper message tells or shows stands in the queue of its stream. -/
theorem sentOf_of_proper (proper : Proper message) :
    (∀ focus ∈ toldFocus message.content, ∃ state, sentOf message = some (.told state) ∧
      state.focusedPane = focus) ∧
    ∀ source ∈ screenSource message.content, ∃ seq update,
      sentOf message = some (.screen source seq update) := by
  rcases proper with ⟨isLocal, own⟩ | ⟨frame, rfl, -⟩
  · cases message with
    | frame frame =>
        cases frame with
        | control control =>
            refine ⟨fun focus told => ?_, fun source shown => (by cases shown)⟩
            cases control with
            | uiRuntimeState state => exact ⟨state, rfl, Option.some.inj told⟩
            | _ => cases told
        | _ => exact own.elim
    | screenUpdate frame =>
        cases frame with
        | screen origin seq isLocal update =>
            refine ⟨fun focus told => (by cases told), fun source shown => ⟨seq, update, ?_⟩⟩
            obtain rfl := Option.some.inj shown
            rfl
        | _ => exact own.elim
    | paneUpdate paneId focused frame =>
        cases frame with
        | pane header update =>
            exact ⟨fun focus told => (by cases told), fun source shown => (by cases shown)⟩
        | _ => exact own.elim
  · exact ⟨fun focus told => (by cases told), fun source shown => (by cases shown)⟩

/-- Messages that all name one pane are admitted if it is told already, or if no screen stands in
the way. -/
theorem admitted_of_named (proper : ∀ message ∈ new, Proper message) (paneId : PaneId)
    (told : ∀ state, .told state ∈ new.filterMap sentOf → state.focusedPane = paneId)
    (shown : ∀ source seq update, .screen source seq update ∈ new.filterMap sentOf →
      source = paneId ∧ tail.focus = paneId)
    (ready : tail.focus = paneId ∨ tail.screens = false ∨ ∀ state, .told state ∉ new.filterMap sentOf) :
    Always (Tail.next structuredType toldFocus screenSource)
      (Tail.Admits structuredType toldFocus screenSource) tail new := by
  induction new generalizing tail with
  | nil => trivial
  | cons message new ih =>
      have own := proper message List.mem_cons_self
      obtain ⟨tells, shows_⟩ := sentOf_of_proper own
      have moved : tail.focus = paneId →
          (tail.next structuredType toldFocus screenSource message).focus = paneId := by
        intro focus
        show focusNext toldFocus tail.focus message.content = paneId
        rw [focusNext]
        cases found : toldFocus message.content with
        | none => exact focus
        | some next =>
            obtain ⟨state, sent, rfl⟩ := tells next found
            exact told state (List.mem_filterMap.mpr ⟨message, List.mem_cons_self, sent⟩)
      have here : ∀ sent, sentOf message = some sent →
          sent ∈ (message :: new).filterMap sentOf := fun sent found =>
        List.mem_filterMap.mpr ⟨message, List.mem_cons_self, found⟩
      have later : ∀ sent ∈ new.filterMap sentOf, sent ∈ (message :: new).filterMap sentOf := by
        intro sent member
        obtain ⟨other, listed, found⟩ := List.mem_filterMap.mp member
        exact List.mem_filterMap.mpr ⟨other, List.mem_cons_of_mem _ listed, found⟩
      refine ⟨⟨placed_of_proper own, fun source member => ?_, fun focus member => ?_⟩, ih
        (fun other member => proper other (List.mem_cons_of_mem _ member))
        (fun state member => told state (later _ member)) (fun source seq update member => ?_) ?_⟩
      · obtain ⟨seq, update, found⟩ := shows_ source member
        obtain ⟨same, focus⟩ := shown source seq update (here _ found)
        exact focus.trans same.symm
      · obtain ⟨state, found, rfl⟩ := tells focus member
        rw [told state (here _ found)]
        rcases ready with focus | clear | untold
        · exact .inl focus.symm
        · exact .inr clear
        · exact absurd (here _ found) (untold state)
      · obtain ⟨same, focus⟩ := shown source seq update (later _ member)
        exact ⟨same, moved focus⟩
      · rcases ready with focus | clear | untold
        · exact .inl (moved focus)
        · cases screen : screenSource message.content with
          | none =>
              refine .inr (.inl ?_)
              show (_ && (tail.screens || (screenSource message.content).isSome)) = false
              rw [clear, screen, Option.isSome_none, Bool.or_false, Bool.and_false]
          | some source =>
              obtain ⟨seq, update, found⟩ := shows_ source screen
              exact .inl (moved (shown source seq update (here _ found)).2)
        · exact .inr (.inr fun state member => untold state (later _ member))

end Queues

section Steps

variable {app : BooApp} {id : ClientId} {client result : ClientState}

theorem told_of_tell (stream : Stream) (state : UiRuntimeState) :
    ∃ sents, (stream.tell state).queue = stream.queue ++ sents ∧
      ∀ sent ∈ sents, sent = .told state := by
  unfold Stream.tell
  split
  · exact ⟨[], (List.append_nil _).symm, fun _ member => (by cases member)⟩
  · exact ⟨[.told state], rfl, fun sent member => List.mem_singleton.mp member⟩

/-- Sends queue no told state, and screens of their own panes alone. -/
def FromSends (sends : List Send) : Sent → Prop
  | .told _ => False
  | .screen source _ _ => ∃ state, Send.screen source state ∈ sends
  | .pane _ _ => True

theorem fromSends_send (stream : Stream) (send : Send) :
    ∃ sents, (Stream.send stream send).queue = stream.queue ++ sents ∧
      ∀ sent ∈ sents, FromSends [send] sent := by
  cases send with
  | screen source state =>
      show ∃ sents, (stream.sendScreen source state).queue = _ ∧ _
      unfold Stream.sendScreen
      split
      · refine ⟨[.screen source stream.inputSeq (nextUpdate stream.lastState state)], rfl,
          fun sent member => ?_⟩
        obtain rfl := List.mem_singleton.mp member
        exact ⟨state, List.mem_singleton_self _⟩
      · exact ⟨[], (List.append_nil _).symm, fun _ member => (by cases member)⟩
  | pane header state =>
      show ∃ sents, (stream.sendPane header state).queue = _ ∧ _
      unfold Stream.sendPane
      split
      · refine ⟨[.pane header (nextUpdate (stream.paneStates header.paneId) state)], rfl,
          fun sent member => ?_⟩
        obtain rfl := List.mem_singleton.mp member
        trivial
      · exact ⟨[], (List.append_nil _).symm, fun _ member => (by cases member)⟩

theorem FromSends.mono {sends more : List Send} {sent : Sent} (fromSends : FromSends sends sent)
    (listed : ∀ send ∈ sends, send ∈ more) : FromSends more sent := by
  cases sent with
  | told state => exact fromSends
  | screen source seq update =>
      obtain ⟨state, member⟩ := fromSends
      exact ⟨state, listed _ member⟩
  | pane header update => trivial

theorem fromSends_sends (stream : Stream) (sends : List Send) :
    ∃ sents, (sends.foldl Stream.send stream).queue = stream.queue ++ sents ∧
      ∀ sent ∈ sents, FromSends sends sent := by
  induction sends generalizing stream with
  | nil => exact ⟨[], (List.append_nil _).symm, fun _ member => (by cases member)⟩
  | cons send sends ih =>
      obtain ⟨first, grown, own⟩ := fromSends_send stream send
      obtain ⟨rest, queue, others⟩ := ih (Stream.send stream send)
      refine ⟨first ++ rest, ?_, fun sent member => ?_⟩
      · rw [List.foldl_cons, queue, grown, List.append_assoc]
      · rcases List.mem_append.mp member with member | member
        · refine (own sent member).mono fun other single => ?_
          exact List.mem_singleton.mp single ▸ List.mem_cons_self
        · exact (others sent member).mono fun other listed => List.mem_cons_of_mem _ listed

/-- The queue of a client grows by proper messages, unless it is sent an improper reply. -/
theorem properGrows_step (action : Action) (later : ∀ isLocal, action ≠ .connect id isLocal)
    (replies : ∀ frame ∈ replied id action, frame.ty ≠ .uiRuntimeState)
    (held : (action.step app).clients.value id = some result)
    (present : app.clients.value id = some client) :
    ∃ new, result.outbound = client.outbound ++ new ∧ ∀ message ∈ new, Proper message := by
  have unchanged : result = client → ∃ new, result.outbound = client.outbound ++ new ∧
      ∀ message ∈ new, Proper message := by
    rintro rfl
    exact ⟨[], (List.append_nil _).symm, fun message member => by cases member⟩
  by_cases connects : ∃ target isLocal, action = .connect target isLocal
  · obtain ⟨target, isLocal, rfl⟩ := connects
    have other : id ≠ target := fun same => later isLocal (same ▸ rfl)
    rw [Action.step, Keyed.value_set, if_neg other, Keyed.value_erase, if_neg other] at held
    exact unchanged (Option.some.inj (held.symm.trans present))
  by_cases sent : ∃ target frame, action = .sendOther target frame
  · obtain ⟨target, frame, rfl⟩ := sent
    rw [Action.step, value_updateClient, present, Option.map_some, Option.some.injEq] at held
    subst held
    by_cases mine : id = target
    · rw [if_pos mine]
      refine ⟨[.frame (.control (.other frame))], rfl, fun message member => .inr ⟨frame, ?_, ?_⟩⟩
      · exact List.mem_singleton.mp member
      · exact replies frame (if_pos mine)
    · exact unchanged (if_neg mine)
  · obtain ⟨before, known, same, new, grown, own⟩ := growsAll_step app action
      (fun target isLocal connect => connects ⟨target, isLocal, connect⟩)
      (fun target frame replied => sent ⟨target, frame, replied⟩) id result held
    cases present.symm.trans known
    exact ⟨new, grown, fun message member => .inl ⟨client.isLocal, own message member⟩⟩

/-- The queue of a client that hears aligned news stays admitted. -/
theorem admitted_step (action : Action) (later : ∀ isLocal, action ≠ .connect id isLocal)
    (held : (action.step app).clients.value id = some result)
    (present : app.clients.value id = some client) (attended : Attended id (app, action))
    (leads : (change app id client action).Leads (action.step app) (streamOf client)
      (streamOf result))
    (before : Always (Tail.next structuredType toldFocus screenSource)
      (Tail.Admits structuredType toldFocus screenSource) ⟨0, false⟩ client.outbound) :
    Always (Tail.next structuredType toldFocus screenSource)
      (Tail.Admits structuredType toldFocus screenSource) ⟨0, false⟩ result.outbound := by
  obtain ⟨replies, hears⟩ := attended
  obtain ⟨new, grown, proper⟩ := properGrows_step action later replies held present
  have aligned := hears client present
  rw [grown, always_append]
  refine ⟨before, ?_⟩
  have queued : ∀ sents, (streamOf result).queue =
      ((change app id client action).view.apply (action.step app).tabs (streamOf client)).queue ++
        sents → new.filterMap sentOf = sents := by
    intro sents queue
    have queue : result.outbound.filterMap sentOf = client.outbound.filterMap sentOf ++ sents :=
      queue.trans (congrArg (· ++ sents) (queue_apply _ _ _))
    rw [grown, List.filterMap_append] at queue
    exact List.append_cancel_left queue
  have tells : ∀ state, streamOf result = ((change app id client action).view.apply
      (action.step app).tabs (streamOf client)).tell state →
      state.focusedPane = (tailOf client).focus ∨ (tailOf client).screens = false →
      Always (Tail.next structuredType toldFocus screenSource)
        (Tail.Admits structuredType toldFocus screenSource) (tailOf client) new := by
    intro state told ready
    obtain ⟨sents, queue, only⟩ := told_of_tell ((change app id client action).view.apply
      (action.step app).tabs (streamOf client)) state
    have own := queued sents (told ▸ queue)
    refine admitted_of_named proper state.focusedPane ?_ ?_ ?_
    · intro other member
      rw [own] at member
      cases only _ member
      rfl
    · intro source seq update member
      rw [own] at member
      cases only _ member
    · exact ready.imp Eq.symm Or.inl
  unfold Change.Leads at leads
  dsimp only at leads
  cases news : (change app id client action).news with
  | silent =>
      rw [news] at leads
      have own := queued [] (by rw [leads, List.append_nil])
      refine admitted_of_named proper (tailOf client).focus ?_ ?_ (.inl rfl)
      · intro state member
        rw [own] at member
        cases member
      · intro source seq update member
        rw [own] at member
        cases member
  | told =>
      rw [news] at leads aligned
      obtain ⟨state, told, same⟩ := leads
      refine tells state same ?_
      rw [told.focused]
      exact aligned
  | toldLocally =>
      rw [news] at leads aligned
      exact tells _ leads aligned
  | published tabId =>
      rw [news] at leads aligned
      obtain ⟨sends, publication, same⟩ := leads
      obtain ⟨sents, queue, fromSends⟩ := fromSends_sends ((change app id client action).view.apply
        (action.step app).tabs (streamOf client)) sends
      have own := queued sents (same ▸ queue)
      refine admitted_of_named proper (tailOf client).focus ?_ ?_ (.inl rfl)
      · intro state member
        rw [own] at member
        exact (fromSends _ member).elim
      · intro source seq update member
        rw [own] at member
        obtain ⟨state, listed⟩ := fromSends _ member
        obtain ⟨terminal, alive, -⟩ := publication.current _ listed
        have focus := aligned source (publication.focus source state listed)
          (Option.isSome_of_mem alive)
        exact ⟨focus.symm, rfl⟩

/-- In every run whose news to a client are aligned, whether its queue is written in batches or one
message at a time, the client reads every screen without a name under the focus on its own pane,
and stores it under no other. -/
theorem screens_attributed {Style : Type} (cursorStyleOf : Int32 → Style)
    (appearance : UiAppearance) (terminalFrame : Rect) (hasLocalGuiServer hasRemoteServer : Bool)
    (steps : List Step) (id : ClientId)
    (attended : ∀ entry ∈ actions steps
      (start appearance terminalFrame hasLocalGuiServer hasRemoteServer), Attended id entry)
    (client : ClientState)
    (held : (after steps
      (start appearance terminalFrame hasLocalGuiServer hasRemoteServer)).clients.value id =
        some client)
    (coalesce : Bool) (batches : List (List (OutboundMessage Frame)))
    (sent : batches.flatten <+: client.outbound) :
    Always (GuiClient.receive cursorStyleOf) (Attributed cursorStyleOf) GuiClient.new
        (written structuredType coalesce batches) ∧
      Always (GuiClient.receive cursorStyleOf) (Attributed cursorStyleOf) GuiClient.new
        (writtenSingly batches.flatten) := by
  have admitted : Always (Tail.next structuredType toldFocus screenSource)
      (Tail.Admits structuredType toldFocus screenSource) ⟨0, false⟩ client.outbound := by
    refine @after_invariant (fun app => ∀ client, app.clients.value id = some client →
      Always (Tail.next structuredType toldFocus screenSource)
        (Tail.Admits structuredType toldFocus screenSource) ⟨0, false⟩ client.outbound) _
      (fun app action => Attended id (app, action))
      (fun app action before attended result held => ?_) steps (fun _ held => by cases held)
      attended client held
    rcases step_leads app action id held with ⟨kind, connects, rfl⟩ | ⟨client, present, leads⟩
    · trivial
    · by_cases connects : ∃ kind, action = .connect id kind
      · obtain ⟨kind, rfl⟩ := connects
        rw [Action.step, Keyed.value_set, if_pos rfl, Option.some.injEq] at held
        rw [← held]
        trivial
      · have later : ∀ kind, action ≠ .connect id kind := fun kind same => connects ⟨kind, same⟩
        exact admitted_step action later held present attended leads (before client present)
  obtain ⟨rest, whole⟩ := sent
  rw [← whole, always_append] at admitted
  exact ⟨always_attributed (written_fits coalesce admitted.1),
    always_attributed (writtenSingly_fits admitted.1)⟩

end Steps

section Samples

/-- The client is told of its pane, sent its screen, and then what was typed. -/
theorem screens_attributed_typing : ∃ client,
    (after (typing ++ update quiet) freshServer).clients.value 1 = some client ∧
      Always (GuiClient.receive (id : Int32 → Int32)) (Attributed id) GuiClient.new
        (written structuredType true [client.outbound]) ∧
      Always (GuiClient.receive (id : Int32 → Int32)) (Attributed id) GuiClient.new
        (writtenSingly [client.outbound].flatten) := by
  have known : ((after (typing ++ update quiet) freshServer).clients.value 1).isSome := by
    decide +kernel
  obtain ⟨client, held⟩ := Option.isSome_iff_exists.mp known
  refine ⟨client, held, screens_attributed id plainAppearance unitFrame true false
    (typing ++ update quiet) 1 (by decide +kernel) client held true [client.outbound] ?_⟩
  rw [List.flatten_singleton]

/-- A key of the client opens another tab, which then shows what is typed. -/
def keyedTab : List Step :=
  oneViewer ++ [.command (.remoteKey 1 none [.newTab (some (blankPane ⟨2, live_two⟩))]),
    .output 2 typed ""] ++ update quiet

/-- A client whose queue is written in batches is sent the screen of its tab, and turns to another
one. -/
def turnedTab : List Step :=
  [.command (.newTab (some (blankPane ⟨1, live_one⟩))), .connect 1 false,
    .command (.remoteConnected 1), .publishDirtyTabs,
    .command (.newTab (some (blankPane ⟨2, live_two⟩))),
    .command (.remoteRuntimeAction 1 none (.setViewedTab 2))]

/-- A key that moves the focus sends the new screen under the old focus, to a client whose queue is
written one message at a time; and where the queue is in order, a batch puts the new focus before
the old screen. -/
theorem screens_misattributed :
    (¬ ∀ (steps : List Step) (viewer : ClientId) (client : ClientState),
      (after steps freshServer).clients.value viewer = some client →
        Always (GuiClient.receive (id : Int32 → Int32)) (Attributed id) GuiClient.new
          (writtenSingly client.outbound)) ∧
    ¬ ∀ (steps : List Step) (viewer : ClientId) (client : ClientState)
      (batches : List (List (OutboundMessage Frame))),
      (after steps freshServer).clients.value viewer = some client →
        Always (GuiClient.receive (id : Int32 → Int32)) (Attributed id) GuiClient.new
          (writtenSingly client.outbound) →
        batches.flatten <+: client.outbound →
          Always (GuiClient.receive (id : Int32 → Int32)) (Attributed id) GuiClient.new
            (written structuredType true batches) := by
  constructor
  · intro all
    have queue : ((after keyedTab freshServer).clients.value 1).map (fun client =>
        decide (Always (focusNext toldFocus) (Fits screenSource) 0
          (writtenSingly client.outbound))) = some false := by
      decide +kernel
    obtain ⟨client, held, wrong⟩ := Option.map_eq_some_iff.mp queue
    exact of_decide_eq_false wrong (fits_of_attributed (all keyedTab 1 client held))
  · intro all
    have queue : ((after turnedTab freshServer).clients.value 1).map (fun client =>
        (decide (Always (focusNext toldFocus) (Fits screenSource) 0
          (writtenSingly client.outbound)),
        decide (Always (focusNext toldFocus) (Fits screenSource) 0
          (written structuredType true [client.outbound.take 5])))) = some (true, false) := by
      decide +kernel
    obtain ⟨client, held, told⟩ := Option.map_eq_some_iff.mp queue
    rw [Prod.mk.injEq] at told
    obtain ⟨inOrder, wrong⟩ := told
    refine of_decide_eq_false wrong (fits_of_attributed (all turnedTab 1 client
      [client.outbound.take 5] held (always_attributed (of_decide_eq_true inOrder)) ?_))
    rw [List.flatten_singleton]
    exact List.take_prefix 5 client.outbound

end Samples

end Boo.Server.FocusAttribution
