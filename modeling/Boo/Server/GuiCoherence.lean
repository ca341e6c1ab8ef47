/- module: Boo/Server/GuiCoherence
   digest: When a local client that has processed its messages shows what the server recorded. -/

import Boo.Client.GuiMirror
import Boo.Server.PolledOutput

set_option autoImplicit false
set_option relaxedAutoImplicit false

namespace Boo.Server.GuiCoherence

open Boo.Lib.KeyedList
open Boo.Lib.SnapshotLog
open Boo.Lib.Script
open Boo.Wire.Message
open Boo.Wire.Delta
open Boo.Remote.Batcher
open Boo.Client.Gui
open Boo.Client.Gui.GuiClient
open Boo.Client.GuiMirror
open Boo.Server.Frames
open Boo.Server.View
open Boo.Server.RowCache
open Boo.Server.App
open Boo.Server.App.BooApp
open Boo.Server.Actions
open Boo.Server.Streams
open Boo.Server.Publishing
open Boo.Server.StreamSteps
open Boo.Server.StreamRuns
open Boo.Server.Outbound
open Boo.Server.Handlers
open Boo.Server.PolledOutput
open Boo.Runtime.Splits
open Boo.Runtime.Tabs
open Boo.Runtime.Ui

def recordOf (stream : Stream) : Record where
  lastState := stream.lastState
  paneStates := stream.paneStates

/-- The link of a client that was told `told` last; a new client was told nothing. -/
def heard (told : Option UiRuntimeState) : Link := (told.map linkTo).getD ⟨0, 0, 0⟩

/-- A state that the client can be told of while it keeps showing the record: what is recorded
concerns its focus and its view as they are, or panes that stay beside the focus. -/
def Heeds (stream : Stream) (focusedPane : PaneId) (viewRevision : UInt64) : Prop :=
  (stream.lastState = none ∨ (heard stream.told).Keeps viewRevision ∧
    focusedPane = (heard stream.told).focusedPaneId) ∧
  ∀ paneId ∈ stream.visible, paneId ≠ focusedPane → stream.paneStates paneId = none ∨
    (heard stream.told).Keeps viewRevision ∧ paneId ≠ (heard stream.told).focusedPaneId

/-- No delta leads from one screen to the other, which is sent in full. -/
def Resized (recorded current : Grid) : Prop :=
  recorded.val.rows ≠ current.val.rows ∨ recorded.val.cols ≠ current.val.cols

/-- A pane whose update the client takes: it was not told that the pane has the focus, and it was
told the runtime revision, or is sent a full state under a newer one. -/
def Passes (app : BooApp) (stream : Stream) (paneId : PaneId) : Prop :=
  paneId ≠ (heard stream.told).focusedPaneId ∧
    (app.runtimeRevision = 0 ∨ app.runtimeRevision = (heard stream.told).runtimeRevision ∨
      ¬ app.runtimeRevision < (heard stream.told).runtimeRevision ∧ stream.visible.Nodup ∧
        ∀ recorded ∈ stream.paneStates paneId, ∀ terminal ∈ app.runtime.terminals paneId,
          Resized recorded terminal.state)

/-- A publication that the client takes: it was told of a focus, and all other panes pass. -/
structure Serves (app : BooApp) (stream : Stream) (tabId : TabId) : Prop where
  focus : ∀ paneId ∈ focusSent app.tabs stream tabId, (app.runtime.terminals paneId).isSome →
    (heard stream.told).focusedPaneId ≠ 0
  others : ∀ paneId ∈ stream.visible, focusSent app.tabs stream tabId ≠ some paneId →
    (app.runtime.terminals paneId).isSome → Passes app stream paneId

/-- News that suit the client that hears them. -/
def Suits (app : BooApp) (stream : Stream) : News → Prop
  | .silent => True
  | .told => Heeds stream (((stream.viewed.or app.tabs.activeTabId).bind fun tabId =>
      app.tabs.focusIn tabId stream.focused).getD 0) stream.viewRevision
  | .toldLocally => Heeds stream app.tabs.focusedPane 1
  | .published tabId => Serves app stream tabId

/-- The client hears only news that suit it, once its view is changed. -/
def Heard (id : ClientId) (entry : BooApp × Action) : Prop :=
  ∀ client ∈ entry.1.clients.value id, client.isLocal = true →
    Suits (entry.2.step entry.1)
      ((change entry.1 id client entry.2).view.apply (entry.2.step entry.1).tabs (streamOf client))
      (change entry.1 id client entry.2).news

section Decisions

variable (app : BooApp) (stream : Stream)

instance (focusedPane : PaneId) (viewRevision : UInt64) :
    Decidable (Heeds stream focusedPane viewRevision) :=
  have : Decidable (∀ paneId ∈ stream.visible, paneId ≠ focusedPane →
      stream.paneStates paneId = none ∨ (heard stream.told).Keeps viewRevision ∧
        paneId ≠ (heard stream.told).focusedPaneId) := List.decidableBAll _ stream.visible
  inferInstanceAs (Decidable (_ ∧ _))

instance (recorded current : Grid) : Decidable (Resized recorded current) :=
  inferInstanceAs (Decidable (_ ∨ _))

instance (paneId : PaneId) : Decidable (Passes app stream paneId) :=
  inferInstanceAs (Decidable (_ ∧ (_ ∨ _ ∨ ¬ _ ∧ _ ∧ _)))

instance (tabId : TabId) : Decidable (Serves app stream tabId) :=
  have : Decidable (∀ paneId ∈ stream.visible, focusSent app.tabs stream tabId ≠ some paneId →
      (app.runtime.terminals paneId).isSome → Passes app stream paneId) :=
    List.decidableBAll _ stream.visible
  have : Decidable (∀ paneId ∈ focusSent app.tabs stream tabId,
      (app.runtime.terminals paneId).isSome → (heard stream.told).focusedPaneId ≠ 0) :=
    Option.decidableForallMem (focusSent app.tabs stream tabId)
  decidable_of_iff ((∀ paneId ∈ focusSent app.tabs stream tabId,
      (app.runtime.terminals paneId).isSome → (heard stream.told).focusedPaneId ≠ 0) ∧
    ∀ paneId ∈ stream.visible, focusSent app.tabs stream tabId ≠ some paneId →
      (app.runtime.terminals paneId).isSome → Passes app stream paneId)
    ⟨fun all => ⟨all.1, all.2⟩, fun serves => ⟨serves.focus, serves.others⟩⟩

instance : (news : News) → Decidable (Suits app stream news)
  | .silent => inferInstanceAs (Decidable True)
  | .told | .toldLocally => inferInstanceAs (Decidable (Heeds _ _ _))
  | .published _ => inferInstanceAs (Decidable (Serves _ _ _))

instance (id : ClientId) (entry : BooApp × Action) : Decidable (Heard id entry) :=
  inferInstanceAs (Decidable (∀ client ∈ entry.1.clients.value id, client.isLocal = true → _))

end Decisions

section Streams

/-- Only visible panes have a recorded state. -/
def Listed (stream : Stream) : Prop :=
  ∀ paneId, stream.paneStates paneId ≠ none → paneId ∈ stream.visible

/-- A stream goes on by messages that its client takes, and records what they leave it with. -/
structure Continues (before after : Stream) (new : List Sent) : Prop where
  queue : after.queue = before.queue ++ new
  record : recordOf after = new.foldl Record.note (recordOf before)
  link : heard after.told = new.foldl Link.hear (heard before.told)
  follows : Follows (heard before.told) (recordOf before) new
  listed : Listed before → Listed after

variable {stream before mid after : Stream}

theorem follows_append {link : Link} {record : Record} {first next : List Sent}
    (follows : Follows link record first)
    (later : Follows (first.foldl Link.hear link) (first.foldl Record.note record) next) :
    Follows link record (first ++ next) := by
  induction first generalizing link record with
  | nil => exact later
  | cons sent first ih => exact ⟨follows.1, ih follows.2 later⟩

theorem Continues.refl (stream : Stream) : Continues stream stream [] :=
  ⟨(List.append_nil _).symm, rfl, rfl, trivial, id⟩

theorem Continues.trans {first next : List Sent} (continues : Continues before mid first)
    (later : Continues mid after next) : Continues before after (first ++ next) where
  queue := by rw [later.queue, continues.queue, List.append_assoc]
  record := by rw [later.record, continues.record, List.foldl_append]
  link := by rw [later.link, continues.link, List.foldl_append]
  follows := follows_append continues.follows (continues.link ▸ continues.record ▸ later.follows)
  listed := later.listed ∘ continues.listed

theorem takes_of_heeds {state : UiRuntimeState} (listed : Listed stream)
    (heeds : Heeds stream state.focusedPane state.viewRevision) :
    Takes (heard stream.told) (recordOf stream) (.told state) := by
  refine ⟨heeds.1, fun paneId different => ?_⟩
  by_cases recorded : stream.paneStates paneId = none
  · exact .inl recorded
  · exact heeds.2 paneId (listed paneId recorded) different

theorem continues_tell {state : UiRuntimeState} (listed : Listed stream)
    (heeds : Heeds stream state.focusedPane state.viewRevision) :
    ∃ new, Continues stream (stream.tell state) new := by
  unfold Stream.tell
  split
  · exact ⟨[], Continues.refl stream⟩
  · exact ⟨[.told state], rfl, rfl, rfl, ⟨takes_of_heeds listed heeds, trivial⟩, id⟩

theorem nextUpdate_resized {previous : Option Grid} {next : Grid}
    (resized : ∀ recorded ∈ previous, Resized recorded next) :
    nextUpdate previous next = .full next := by
  rcases nextUpdate_cases previous next with full | ⟨delta, same, rfl, -⟩
  · exact full
  · obtain ⟨payload, encoded⟩ := Option.isSome_iff_exists.mp delta.encodable
    obtain ⟨rows, cols⟩ := encodeDelta_dims encoded
    exact absurd (resized delta.previous same) (not_or.mpr ⟨not_not.mpr rows, not_not.mpr cols⟩)

/-- A send that the client takes, alone or before others. -/
def Taken (stream : Stream) (once : Prop) : Send → Prop
  | .screen _ _ => (heard stream.told).focusedPaneId ≠ 0
  | .pane header state => header.paneId ∈ stream.visible ∧
      header.paneId ≠ (heard stream.told).focusedPaneId ∧
      (header.runtimeRevision = 0 ∨
        header.runtimeRevision = (heard stream.told).runtimeRevision ∨
        ¬ header.runtimeRevision < (heard stream.told).runtimeRevision ∧ once ∧
          ∀ recorded ∈ stream.paneStates header.paneId, Resized recorded state)

theorem continues_send {once : Prop} {send : Send} (taken : Taken stream once send) :
    ∃ new, Continues stream (Stream.send stream send) new := by
  cases send with
  | screen source state =>
      show ∃ new, Continues stream (stream.sendScreen source state) new
      unfold Stream.sendScreen
      split
      · refine ⟨[.screen source stream.inputSeq (nextUpdate stream.lastState state)], rfl, ?_, rfl,
          ⟨⟨taken, state, rfl⟩, trivial⟩, id⟩
        rw [List.foldl_cons, List.foldl_nil, Record.note, updateState_nextUpdate]
        rfl
      · exact ⟨[], Continues.refl stream⟩
  | pane header state =>
      show ∃ new, Continues stream (stream.sendPane header state) new
      obtain ⟨visible, passive, revision⟩ := taken
      unfold Stream.sendPane
      split
      · refine ⟨[.pane header (nextUpdate (stream.paneStates header.paneId) state)], rfl, ?_, rfl,
          ⟨⟨passive, ⟨state, rfl⟩, ?_⟩, trivial⟩, ?_⟩
        · rw [List.foldl_cons, List.foldl_nil, Record.note, updateState_nextUpdate]
          rfl
        · rcases revision with zero | same | ⟨newer, -, resized⟩
          · exact .inl zero
          · exact .inr (.inl same)
          · exact .inr (.inr ⟨newer, state, nextUpdate_resized resized⟩)
        · intro listed paneId recorded
          by_cases mine : paneId = header.paneId
          · exact mine ▸ visible
          · exact listed paneId fun nothing => recorded <|
              (Function.update_of_ne mine _ _).trans nothing
      · exact ⟨[], Continues.refl stream⟩

/-- A send leaves what was told and what is visible, and the other panes. -/
theorem send_keeps (stream : Stream) (send : Send) :
    (Stream.send stream send).told = stream.told ∧
      (Stream.send stream send).visible = stream.visible ∧
        ∀ paneId, paneId ≠ send.source →
          (Stream.send stream send).paneStates paneId = stream.paneStates paneId := by
  cases send with
  | screen source state =>
      show (stream.sendScreen source state).told = _ ∧ (stream.sendScreen source state).visible = _ ∧
        ∀ paneId, _ → (stream.sendScreen source state).paneStates paneId = _
      unfold Stream.sendScreen
      split <;> exact ⟨rfl, rfl, fun _ _ => rfl⟩
  | pane header state =>
      show (stream.sendPane header state).told = _ ∧ (stream.sendPane header state).visible = _ ∧
        ∀ paneId, _ → (stream.sendPane header state).paneStates paneId = _
      unfold Stream.sendPane
      split
      · exact ⟨rfl, rfl, fun _ other => Function.update_of_ne other _ _⟩
      · exact ⟨rfl, rfl, fun _ _ => rfl⟩

theorem continues_sends {sends : List Send}
    (taken : ∀ send ∈ sends, Taken stream (sends.map Send.source).Nodup send) :
    ∃ new, Continues stream (sends.foldl Stream.send stream) new := by
  induction sends generalizing stream with
  | nil => exact ⟨[], Continues.refl stream⟩
  | cons send sends ih =>
      obtain ⟨first, continues⟩ := continues_send (taken send List.mem_cons_self)
      obtain ⟨told, visible, panes⟩ := send_keeps stream send
      obtain ⟨rest, later⟩ := @ih (Stream.send stream send) <| by
        intro other member
        have before := taken other (List.mem_cons_of_mem _ member)
        cases other with
        | screen source state =>
            show (heard (Stream.send stream send).told).focusedPaneId ≠ 0
            rw [told]
            exact before
        | pane header state =>
            obtain ⟨listed, passive, revision⟩ := before
            rw [Taken, told, visible]
            refine ⟨listed, passive, ?_⟩
            rcases revision with zero | same | ⟨newer, once, resized⟩
            · exact .inl zero
            · exact .inr (.inl same)
            · rw [List.map_cons, List.nodup_cons] at once
              have different : header.paneId ≠ send.source := by
                rintro same
                exact once.1 (same ▸ List.mem_map_of_mem member)
              rw [panes header.paneId different]
              exact .inr (.inr ⟨newer, once.2, resized⟩)
      exact ⟨first ++ rest, continues.trans later⟩

theorem Resized.congr {recorded current shown : Grid} (resized : Resized recorded current)
    (same : SameScreen shown current) : Resized recorded shown := by
  unfold SameScreen at same
  have rows : shown.val.rows = current.val.rows := by rw [← same]
  have cols : shown.val.cols = current.val.cols := by rw [← same]
  unfold Resized
  rw [rows, cols]
  exact resized

theorem taken_of_serves {app : BooApp} {tabId : TabId} {sends : List Send}
    (serves : Serves app stream tabId) (publication : Publication app stream tabId sends) :
    ∀ send ∈ sends, Taken stream stream.visible.Nodup send := by
  intro send member
  obtain ⟨terminal, held, same⟩ := publication.current send member
  cases send with
  | screen source state =>
      exact serves.focus source (publication.focus source state member)
        (Option.isSome_of_mem held)
  | pane header state =>
      obtain ⟨visible, other, revision⟩ := publication.panes header state member
      obtain ⟨passive, passes⟩ := serves.others header.paneId visible other
        (Option.isSome_of_mem held)
      refine ⟨visible, passive, ?_⟩
      rw [revision]
      rcases passes with zero | told | ⟨newer, once, resized⟩
      · exact .inl zero
      · exact .inr (.inl told)
      · exact .inr (.inr ⟨newer, once, fun recorded before =>
          (resized recorded before terminal held).congr same⟩)

/-- What an action sends a client goes on from its changed view. -/
theorem continues_leads {change : Change} {after : BooApp} {result : Stream}
    (listed : Listed (change.view.apply after.tabs before))
    (suits : Suits after (change.view.apply after.tabs before) change.news)
    (leads : change.Leads after before result) :
    ∃ new, Continues (change.view.apply after.tabs before) result new := by
  unfold Change.Leads at leads
  dsimp only at leads
  cases news : change.news with
  | silent =>
      rw [news] at leads
      exact ⟨[], leads ▸ Continues.refl _⟩
  | told =>
      rw [news] at leads suits
      obtain ⟨state, tells, rfl⟩ := leads
      refine continues_tell listed ?_
      rw [tells.focused, tells.viewRevision]
      exact suits
  | toldLocally =>
      rw [news] at leads suits
      subst leads
      exact continues_tell listed suits
  | published tabId =>
      rw [news] at leads suits
      obtain ⟨sends, publication, rfl⟩ := leads
      refine continues_sends fun send member => ?_
      have taken := taken_of_serves suits publication send member
      cases send with
      | screen source state => exact taken
      | pane header state =>
          obtain ⟨visible, passive, revision⟩ := taken
          exact ⟨visible, passive, revision.imp_right (Or.imp_right fun newer =>
            ⟨newer.1, publication.once newer.2.1, newer.2.2⟩)⟩

/-- A view that changes keeps its record, or forgets it. -/
theorem recordOf_apply (tabs : TabManager) (stream : Stream) (view : ViewChange) :
    recordOf (view.apply tabs stream) = recordOf stream ∨
      recordOf (view.apply tabs stream) = .empty := by
  cases view with
  | keep | assign _ | record _ => exact .inl rfl
  | _ => exact .inr rfl

theorem Listed.apply (listed : Listed stream) (tabs : TabManager) (view : ViewChange) :
    Listed (view.apply tabs stream) := by
  intro paneId recorded
  cases view with
  | keep | assign _ | record _ => exact listed paneId recorded
  | _ => exact absurd rfl recorded

end Streams

section Clients

variable {Style : Type} (cursorStyleOf : Int32 → Style)

/-- What a client shows once it has processed its messages. -/
def shown (client : ClientState) : GuiClient Style :=
  (GuiClient.new : GuiClient Style).receiveAll cursorStyleOf
    (client.outbound.map OutboundMessage.content)

/-- A client that has processed its messages knows what it was told last, shows what is recorded,
and has discarded no update. -/
structure InStep (client : ClientState) : Prop where
  link : linkOf (shown cursorStyleOf client) =
    heard client.runtimeView.lastUiRuntimeStatePayload
  coherent : Coherent cursorStyleOf (shown cursorStyleOf client) (recordOf (streamOf client))
  taken : TakesAll cursorStyleOf GuiClient.new (client.outbound.map OutboundMessage.content)
  listed : Listed (streamOf client)

variable {cursorStyleOf} {app : BooApp} {id : ClientId} {client result : ClientState}

theorem inStep_newClient (isLocal : Bool) : InStep cursorStyleOf (newClient isLocal) where
  link := rfl
  coherent := coherent_empty
  taken := trivial
  listed _ recorded := absurd rfl recorded

/-- The queue of a local client grows by messages that it finds on its stream. -/
theorem localGrows_step (app : BooApp) (action : Action)
    (later : ∀ isLocal, action ≠ .connect id isLocal)
    (held : (action.step app).clients.value id = some result)
    (present : app.clients.value id = some client) :
    ∃ new, result.isLocal = client.isLocal ∧ result.outbound = client.outbound ++ new ∧
      (client.isLocal = true → ∀ message ∈ new, Local message) := by
  have unchanged : result = client → ∃ new, result.isLocal = client.isLocal ∧
      result.outbound = client.outbound ++ new ∧
        (client.isLocal = true → ∀ message ∈ new, Local message) := by
    rintro rfl
    exact ⟨[], rfl, (List.append_nil _).symm, fun _ message member => by cases member⟩
  by_cases connects : ∃ target isLocal, action = .connect target isLocal
  · obtain ⟨target, isLocal, rfl⟩ := connects
    have other : id ≠ target := fun same => later isLocal (same ▸ rfl)
    rw [Action.step, Keyed.value_set, if_neg other, Keyed.value_erase, if_neg other] at held
    exact unchanged (Option.some.inj (held.symm.trans present))
  by_cases replies : ∃ target frame, action = .sendOther target frame
  · obtain ⟨target, frame, rfl⟩ := replies
    rw [Action.step, value_updateClient, present, Option.map_some, Option.some.injEq] at held
    subst held
    by_cases mine : id = target
    · rw [if_pos mine]
      refine ⟨_, rfl, rfl, fun _ message member => .inr ⟨frame, ?_⟩⟩
      exact List.mem_singleton.mp member
    · exact unchanged (if_neg mine)
  · obtain ⟨before, known, same, new, grown, own⟩ := growsAll_step app action
      (fun target isLocal connect => connects ⟨target, isLocal, connect⟩)
      (fun target frame replied => replies ⟨target, frame, replied⟩) id result held
    cases present.symm.trans known
    exact ⟨new, same, grown, fun isLocal message member => .inl (isLocal ▸ own message member)⟩

/-- A local client stays in step by an action that suits it. -/
theorem inStep_action (action : Action) (later : ∀ isLocal, action ≠ .connect id isLocal)
    (held : (action.step app).clients.value id = some result)
    (present : app.clients.value id = some client) (isLocal : client.isLocal = true)
    (suits : Suits (action.step app) ((change app id client action).view.apply
      (action.step app).tabs (streamOf client)) (change app id client action).news)
    (leads : (change app id client action).Leads (action.step app) (streamOf client)
      (streamOf result)) (inStep : InStep cursorStyleOf client) :
    InStep cursorStyleOf result := by
  let aimed := (change app id client action).view.apply (action.step app).tabs (streamOf client)
  have listed : Listed aimed := inStep.listed.apply _ _
  obtain ⟨sent, continues⟩ := continues_leads listed suits leads
  obtain ⟨new, -, grown, found⟩ := localGrows_step app action later held present
  have queued : new.filterMap sentOf = sent := by
    have queue : (result.outbound.filterMap sentOf) = client.outbound.filterMap sentOf ++ sent :=
      continues.queue.trans (congrArg (· ++ sent) (queue_apply _ _ _))
    rw [grown, List.filterMap_append] at queue
    exact List.append_cancel_left queue
  have told : heard aimed.told = heard client.runtimeView.lastUiRuntimeStatePayload :=
    congrArg heard (told_apply _ _ _)
  have later : shown cursorStyleOf result =
      (shown cursorStyleOf client).receiveAll cursorStyleOf
        (new.map OutboundMessage.content) := by
    rw [shown, grown, List.map_append, receiveAll, List.foldl_append]
    rfl
  have start : Coherent cursorStyleOf (shown cursorStyleOf client) (recordOf aimed) := by
    rcases recordOf_apply (action.step app).tabs (streamOf client)
      (change app id client action).view with same | forgotten
    · exact same ▸ inStep.coherent
    · exact forgotten ▸ coherent_empty
  have follows : Follows (linkOf (shown cursorStyleOf client)) (recordOf aimed)
      (new.filterMap sentOf) := by
    rw [inStep.link, ← told, queued]
    exact continues.follows
  obtain ⟨coherent, taken⟩ := coherent_receiveAll start (found isLocal) follows
  refine ⟨?_, ?_, ?_, continues.listed listed⟩
  · rw [later, linkOf_receiveAll _ (found isLocal), inStep.link, ← told, queued]
    exact continues.link.symm
  · rw [later, continues.record, ← queued]
    exact coherent
  · rw [grown, List.map_append, takesAll_append]
    exact ⟨inStep.taken, taken⟩

/-- All screens recorded as sent to the client are the ones that it shows, and it has discarded no
update that it was sent. -/
structure ShowsRecorded (cursorStyleOf : Int32 → Style) (client : ClientState) : Prop where
  focused : Mirrors cursorStyleOf (shown cursorStyleOf client)
    (shown cursorStyleOf client).focusedPaneId client.runtimeView.lastState
  others : ∀ paneId, paneId ≠ (shown cursorStyleOf client).focusedPaneId →
    Mirrors cursorStyleOf (shown cursorStyleOf client) paneId
      (client.runtimeView.paneStates paneId)
  taken : TakesAll cursorStyleOf GuiClient.new (client.outbound.map OutboundMessage.content)

/-- In every reachable state a local client that has processed its messages shows what is recorded
as sent to it, as long as it heard only news that suit it. -/
theorem showsRecorded_after (cursorStyleOf : Int32 → Style) (appearance : UiAppearance)
    (terminalFrame : Rect) (hasLocalGuiServer hasRemoteServer : Bool) (steps : List Step)
    (id : ClientId)
    (suits : ∀ entry ∈ actions steps
      (start appearance terminalFrame hasLocalGuiServer hasRemoteServer), Heard id entry)
    (client : ClientState)
    (held : (after steps
      (start appearance terminalFrame hasLocalGuiServer hasRemoteServer)).clients.value id =
        some client)
    (isLocal : client.isLocal = true) : ShowsRecorded cursorStyleOf client := by
  have inStep : InStep cursorStyleOf client := by
    refine @after_invariant (fun app => ∀ client, app.clients.value id = some client →
      client.isLocal = true → InStep cursorStyleOf client) _ (fun app action => Heard id (app, action))
      (fun app action before suits result held isLocal => ?_) steps (fun _ held => by cases held)
      suits client held isLocal
    rcases step_leads app action id held with ⟨kind, connects, rfl⟩ | ⟨client, present, leads⟩
    · exact inStep_newClient kind
    · by_cases connects : ∃ kind, action = .connect id kind
      · obtain ⟨kind, rfl⟩ := connects
        rw [Action.step, Keyed.value_set, if_pos rfl, Option.some.injEq] at held
        exact held ▸ inStep_newClient kind
      · have later : ∀ kind, action ≠ .connect id kind := fun kind same => connects ⟨kind, same⟩
        obtain ⟨-, sameKind, -⟩ := localGrows_step app action later held present
        have wasLocal : client.isLocal = true := sameKind ▸ isLocal
        exact inStep_action action later held present wasLocal (suits client present wasLocal)
          leads (before client present wasLocal)
  exact ⟨inStep.coherent.focused, inStep.coherent.others, inStep.taken⟩

end Clients

section Samples

/-- The client is sent the screen of its pane, and then what was typed as a delta. -/
theorem showsRecorded_after_typing : ∃ client snapshot,
    (after (typing ++ update quiet) freshServer).clients.value 1 = some client ∧
      ShowsRecorded (id : Int32 → Int32) client ∧
        (shown id client).paneSnapshots 1 = some snapshot ∧ Shows id snapshot typed.val := by
  have view : ((after (typing ++ update quiet) freshServer).clients.value 1).map (fun client =>
      (client.isLocal, client.runtimeView.lastState, (shown id client).focusedPaneId)) =
        some (true, some typed, 1) := by
    decide +kernel
  obtain ⟨client, held, same⟩ := Option.map_eq_some_iff.mp view
  rw [Prod.mk.injEq, Prod.mk.injEq] at same
  obtain ⟨isLocal, recorded, focus⟩ := same
  have shows_ := showsRecorded_after id plainAppearance unitFrame true false (typing ++ update quiet)
    1 (by decide +kernel) client held isLocal
  obtain ⟨snapshot, shown_, same⟩ := shows_.focused typed recorded
  exact ⟨client, snapshot, held, shows_, focus ▸ shown_, same⟩

/-- The client presses a key, is sent its screen again, and is answered with its view. -/
def typedKey : List Step :=
  oneViewer ++ [.command (.remoteKey 1 none [.write [97]]), .publishDirtyTabs,
    .command (.remoteRuntimeAction 1 none .noop)]

/-- The view revision that the key bumped reaches the client after the screen, which it drops. -/
theorem typedKey_forgotten :
    ¬ ∀ (steps : List Step) (viewer : ClientId) (client : ClientState),
      (after steps freshServer).clients.value viewer = some client → client.isLocal = true →
        ShowsRecorded (id : Int32 → Int32) client := by
  intro all
  have view : ((after typedKey freshServer).clients.value 1).map (fun client =>
      (client.isLocal, client.runtimeView.lastState.isSome,
        ((shown (id : Int32 → Int32) client).paneSnapshots (shown id client).focusedPaneId).isNone)) =
        some (true, true, true) := by
    decide +kernel
  obtain ⟨client, held, same⟩ := Option.map_eq_some_iff.mp view
  rw [Prod.mk.injEq, Prod.mk.injEq] at same
  obtain ⟨isLocal, recorded, forgotten⟩ := same
  obtain ⟨state, last⟩ := Option.isSome_iff_exists.mp recorded
  obtain ⟨snapshot, shown_, -⟩ := (all typedKey 1 client held isLocal).focused state last
  rw [shown_] at forgotten
  cases forgotten

end Samples

end Boo.Server.GuiCoherence
