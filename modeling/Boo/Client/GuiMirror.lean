/- module: Boo/Client/GuiMirror
   digest: When the GUI client, fed a queue in order, shows what the sender recorded as sent. -/

import Boo.Client.Gui
import Boo.Server.Outbound

set_option autoImplicit false
set_option relaxedAutoImplicit false

namespace Boo.Client.GuiMirror

open Boo.Lib.SnapshotLog
open Boo.Wire.Message
open Boo.Remote.Batcher
open Boo.Client.Snapshot
open Boo.Client.SnapshotDelta
open Boo.Client.Gui
open Boo.Client.Gui.GuiClient
open Boo.Server.Frames
open Boo.Server.Streams
open Boo.Server.Outbound

/-- What the sender keeps of the screens it sent to a view. -/
structure Record where
  lastState : Option Grid
  paneStates : PaneId → Option Grid

/-- The record once a message is queued. -/
def Record.note (record : Record) : Sent → Record
  | .told _ => record
  | .screen _ _ update => { record with lastState := some (updateState update) }
  | .pane header update => { record with
      paneStates := Function.update record.paneStates header.paneId (some (updateState update)) }

/-- Nothing is recorded. -/
def Record.empty : Record where
  lastState := none
  paneStates := fun _ => none

/-- What decides whether a client takes a message: the last state it was told. -/
structure Link where
  focusedPaneId : PaneId
  runtimeRevision : UInt64
  viewRevision : UInt64
  deriving DecidableEq

def linkTo (state : UiRuntimeState) : Link where
  focusedPaneId := state.focusedPane
  runtimeRevision := state.runtimeRevision
  viewRevision := state.viewRevision

def Link.hear (link : Link) : Sent → Link
  | .told state => linkTo state
  | _ => link

/-- Whether the client keeps its snapshots when it is told of a view. -/
def Link.Keeps (link : Link) (viewRevision : UInt64) : Prop :=
  link.viewRevision = 0 ∨ viewRevision = link.viewRevision

instance (link : Link) (viewRevision : UInt64) : Decidable (link.Keeps viewRevision) :=
  inferInstanceAs (Decidable (_ ∨ _))

/-- A message that leaves the client with what the sender records. -/
def Takes (link : Link) (record : Record) : Sent → Prop
  | .told state =>
      (record.lastState = none ∨
        link.Keeps state.viewRevision ∧ state.focusedPane = link.focusedPaneId) ∧
      ∀ paneId, paneId ≠ state.focusedPane → record.paneStates paneId = none ∨
        link.Keeps state.viewRevision ∧ paneId ≠ link.focusedPaneId
  | .screen _ _ update =>
      link.focusedPaneId ≠ 0 ∧ ∃ state, update = nextUpdate record.lastState state
  | .pane header update =>
      header.paneId ≠ link.focusedPaneId ∧
        (∃ state, update = nextUpdate (record.paneStates header.paneId) state) ∧
        (header.runtimeRevision = 0 ∨ header.runtimeRevision = link.runtimeRevision ∨
          ¬ header.runtimeRevision < link.runtimeRevision ∧ ∃ state, update = .full state)

/-- All messages are taken, one after the other. -/
def Follows : Link → Record → List Sent → Prop
  | _, _, [] => True
  | link, record, sent :: rest =>
      Takes link record sent ∧ Follows (link.hear sent) (record.note sent) rest

section Clients

variable {Style : Type} (cursorStyleOf : Int32 → Style)

def linkOf (gui : GuiClient Style) : Link where
  focusedPaneId := gui.focusedPaneId
  runtimeRevision := gui.runtimeRevision
  viewRevision := gui.viewRevision

/-- The client holds a snapshot of the pane that equals the recorded screen, if there is one. -/
def Mirrors (gui : GuiClient Style) (paneId : PaneId) (recorded : Option Grid) : Prop :=
  ∀ state ∈ recorded, ∃ snapshot, gui.paneSnapshots paneId = some snapshot ∧
    Shows cursorStyleOf snapshot state.val

/-- The focused pane mirrors the last screen sent, and the other panes their own. -/
structure Coherent (gui : GuiClient Style) (record : Record) : Prop where
  focused : Mirrors cursorStyleOf gui gui.focusedPaneId record.lastState
  others : ∀ paneId, paneId ≠ gui.focusedPaneId →
    Mirrors cursorStyleOf gui paneId (record.paneStates paneId)

/-- An update of a pane that leaves the client as it was: too old, of another runtime revision, or
a delta without a snapshot to change. -/
def Discards (gui : GuiClient Style) : LocalStreamEvent → Prop
  | .delta _ _ => gui.paneSnapshots gui.focusedPaneId = none
  | .uiPaneFullState _ runtimeRevision _ =>
      runtimeRevision ≠ 0 ∧ runtimeRevision < gui.runtimeRevision
  | .uiPaneDelta paneId runtimeRevision _ =>
      runtimeRevision ≠ 0 ∧ runtimeRevision ≠ gui.runtimeRevision ∨
        gui.paneSnapshots paneId = none
  | _ => False

/-- No update of the queue is discarded when its turn comes. -/
def TakesAll : GuiClient Style → List Frame → Prop
  | _, [] => True
  | gui, frame :: frames =>
      (∀ event ∈ readEvent frame, ¬ Discards gui event) ∧
        TakesAll (gui.receive cursorStyleOf frame) frames

variable {cursorStyleOf} {gui : GuiClient Style} {record : Record}

theorem mirrors_none (paneId : PaneId) : Mirrors cursorStyleOf gui paneId none :=
  fun _ member => by cases member

theorem coherent_empty : Coherent cursorStyleOf gui .empty :=
  ⟨mirrors_none _, fun paneId _ => mirrors_none paneId⟩

/-- A client with the same panes and focus mirrors the same. -/
theorem Coherent.congr {other : GuiClient Style} (coherent : Coherent cursorStyleOf gui record)
    (focus : other.focusedPaneId = gui.focusedPaneId)
    (snapshots : other.paneSnapshots = gui.paneSnapshots) :
    Coherent cursorStyleOf other record := by
  refine ⟨?_, fun paneId different => ?_⟩
  · unfold Mirrors
    rw [focus, snapshots]
    exact coherent.focused
  · unfold Mirrors
    rw [snapshots]
    exact coherent.others paneId (focus ▸ different)

section Messages

/-- A full state of a pane mirrors it from then on. -/
theorem mirrors_insert (paneId : PaneId) (state : Grid) :
    Mirrors cursorStyleOf (gui.insertFullState cursorStyleOf paneId (arrived state.val)) paneId
      (some state) := by
  intro recorded same
  cases same
  exact ⟨_, Function.update_self _ _ _, shows_fullState cursorStyleOf state.property _ _ _ _⟩

/-- A delta against what the pane mirrors leaves it mirroring the next screen. -/
theorem mirrors_applyDelta {paneId : PaneId} {delta : StateDelta}
    (mirrors : Mirrors cursorStyleOf gui paneId (some delta.previous)) :
    Mirrors cursorStyleOf (gui.applyDelta cursorStyleOf paneId
      (remoteDeltaOf delta.previous.val delta.current.val)) paneId (some delta.current) := by
  intro recorded same
  cases same
  obtain ⟨snapshot, held, shows_⟩ := mirrors delta.previous rfl
  refine ⟨_, ?_, shows_delta cursorStyleOf (encodeDelta_updatePayload delta none true).1 shows_⟩
  show Function.update gui.paneSnapshots paneId _ paneId = _
  rw [Function.update_self, held]
  rfl

/-- A pane that an event does not write mirrors what it did. -/
theorem Mirrors.of_update {paneId other : PaneId} {recorded : Option Grid}
    {snapshot : Option (TerminalSnapshot Style)} {after : GuiClient Style}
    (mirrors : Mirrors cursorStyleOf gui other recorded)
    (written : after.paneSnapshots = Function.update gui.paneSnapshots paneId snapshot)
    (different : other ≠ paneId) : Mirrors cursorStyleOf after other recorded := by
  intro state member
  obtain ⟨shown, held, shows_⟩ := mirrors state member
  refine ⟨shown, ?_, shows_⟩
  rw [written, Function.update_of_ne different]
  exact held

theorem coherent_screen (coherent : Coherent cursorStyleOf gui record) (source : PaneId)
    (seq : Option UInt64) {update : Update} (takes : Takes (linkOf gui) record
      (.screen source seq update)) :
    Coherent cursorStyleOf (gui.receive cursorStyleOf (.screen source seq true update))
      (record.note (.screen source seq update)) := by
  obtain ⟨focus, state, rfl⟩ := takes
  have kept : ∀ {after : GuiClient Style} {snapshot},
      after.focusedPaneId = gui.focusedPaneId →
      after.paneSnapshots = Function.update gui.paneSnapshots gui.focusedPaneId snapshot →
      Mirrors cursorStyleOf after gui.focusedPaneId (some state) →
      Coherent cursorStyleOf after (record.note
        (.screen source seq (nextUpdate record.lastState state))) := by
    intro after snapshot sameFocus written mirrors
    refine ⟨?_, fun paneId different => ?_⟩
    · rw [sameFocus]
      show Mirrors cursorStyleOf after _ (some (updateState _))
      rw [updateState_nextUpdate]
      exact mirrors
    · rw [sameFocus] at different
      exact (coherent.others paneId different).of_update written different
  rcases nextUpdate_cases record.lastState state with full | ⟨delta, previous, current, patch⟩
  · rw [full] at kept ⊢
    rw [receive, readEvent_screen_full]
    dsimp only [handleStreamEvent]
    rw [if_pos (show gui.focusedPaneId ≠ 0 from focus)]
    exact kept rfl rfl (mirrors_insert gui.focusedPaneId state)
  · rw [patch] at kept ⊢
    rw [receive, readEvent_screen_patch]
    have mirrors : Mirrors cursorStyleOf gui gui.focusedPaneId (some delta.previous) :=
      previous ▸ coherent.focused
    exact kept rfl rfl (current ▸ mirrors_applyDelta mirrors)

/-- What a pane update that is taken meets at the client. -/
theorem taken_revision {revision held : UInt64} {update : Update}
    (taken : revision = 0 ∨ revision = held ∨
      ¬ revision < held ∧ ∃ state, update = .full state) :
    ¬ (revision ≠ 0 ∧ revision < held) ∧
      ∀ delta, update = .patch delta → ¬ (revision ≠ 0 ∧ revision ≠ held) := by
  refine ⟨?_, ?_⟩
  · rintro ⟨nonzero, older⟩
    rcases taken with zero | same | ⟨newer, -⟩
    · exact nonzero zero
    · rw [same] at older
      exact UInt64.lt_irrefl _ older
    · exact newer older
  · rintro delta rfl ⟨nonzero, other⟩
    rcases taken with zero | same | ⟨-, state, full⟩
    · exact nonzero zero
    · exact other same
    · cases full

theorem coherent_pane (coherent : Coherent cursorStyleOf gui record) (header : PaneHeader)
    {update : Update} (takes : Takes (linkOf gui) record (.pane header update)) :
    Coherent cursorStyleOf (gui.receive cursorStyleOf (.pane header update))
      (record.note (.pane header update)) := by
  obtain ⟨passive, ⟨state, rfl⟩, revision⟩ := takes
  replace passive : header.paneId ≠ gui.focusedPaneId := passive
  have kept : ∀ {after : GuiClient Style} {snapshot},
      after.focusedPaneId = gui.focusedPaneId →
      after.paneSnapshots = Function.update gui.paneSnapshots header.paneId snapshot →
      Mirrors cursorStyleOf after header.paneId (some state) →
      Coherent cursorStyleOf after (record.note
        (.pane header (nextUpdate (record.paneStates header.paneId) state))) := by
    intro after snapshot sameFocus written mirrors
    refine ⟨?_, fun paneId different => ?_⟩
    · rw [sameFocus]
      exact coherent.focused.of_update written passive.symm
    · rw [sameFocus] at different
      show Mirrors cursorStyleOf after paneId (Function.update record.paneStates header.paneId
        (some (updateState _)) paneId)
      rw [updateState_nextUpdate]
      by_cases mine : paneId = header.paneId
      · rw [mine, Function.update_self]
        exact mirrors
      · rw [Function.update_of_ne mine]
        exact (coherent.others paneId different).of_update written mine
  obtain ⟨current, related⟩ := @taken_revision _ gui.runtimeRevision _ revision
  rcases nextUpdate_cases (record.paneStates header.paneId) state with
    full | ⟨delta, previous, next, patch⟩
  · rw [full] at kept ⊢
    rw [receive, readEvent_pane_full]
    dsimp only [handleStreamEvent]
    rw [if_neg current]
    exact kept rfl rfl (mirrors_insert header.paneId state)
  · have taken := related delta patch
    rw [patch] at kept ⊢
    rw [receive, readEvent_pane_patch]
    dsimp only [handleStreamEvent]
    rw [if_neg taken]
    have mirrors : Mirrors cursorStyleOf gui header.paneId (some delta.previous) :=
      previous ▸ coherent.others header.paneId passive
    exact kept rfl rfl (next ▸ mirrors_applyDelta mirrors)

theorem coherent_told (coherent : Coherent cursorStyleOf gui record) {state : UiRuntimeState}
    (takes : Takes (linkOf gui) record (.told state)) :
    Coherent cursorStyleOf (gui.receive cursorStyleOf (.control (.uiRuntimeState state)))
      record := by
  have snapshots : (linkOf gui).Keeps state.viewRevision →
      (gui.applyUiRuntimeState state).paneSnapshots = gui.paneSnapshots := by
    intro keeps
    refine if_neg ?_
    rintro ⟨nonzero, other⟩
    rcases keeps with zero | same
    · exact nonzero zero
    · exact other same
  obtain ⟨screen, panes⟩ := takes
  refine ⟨?_, fun paneId different => ?_⟩
  · show Mirrors cursorStyleOf (gui.applyUiRuntimeState state) state.focusedPane record.lastState
    rcases screen with nothing | ⟨keeps, focus⟩
    · rw [nothing]
      exact mirrors_none _
    · rw [focus, Mirrors, snapshots keeps]
      exact coherent.focused
  · show Mirrors cursorStyleOf (gui.applyUiRuntimeState state) paneId (record.paneStates paneId)
    rcases panes paneId different with nothing | ⟨keeps, other⟩
    · rw [nothing]
      exact mirrors_none _
    · rw [Mirrors, snapshots keeps]
      exact coherent.others paneId other

/-- What mirrors a screen is there to be changed. -/
theorem Mirrors.held {paneId : PaneId} {state : Grid}
    (mirrors : Mirrors cursorStyleOf gui paneId (some state)) : gui.paneSnapshots paneId ≠ none := by
  obtain ⟨snapshot, held, -⟩ := mirrors state rfl
  rw [held]
  exact Option.some_ne_none snapshot

theorem not_discards_screen (coherent : Coherent cursorStyleOf gui record) (source : PaneId)
    (seq : Option UInt64) {update : Update} (takes : Takes (linkOf gui) record
      (.screen source seq update)) :
    ∀ event ∈ readEvent (.screen source seq true update), ¬ Discards gui event := by
  obtain ⟨-, state, rfl⟩ := takes
  rcases nextUpdate_cases record.lastState state with full | ⟨delta, previous, -, patch⟩
  · rw [full, readEvent_screen_full]
    rintro event ⟨⟩
    exact id
  · rw [patch, readEvent_screen_patch]
    rintro event ⟨⟩
    exact (previous ▸ coherent.focused : Mirrors cursorStyleOf gui gui.focusedPaneId
      (some delta.previous)).held

theorem not_discards_pane (coherent : Coherent cursorStyleOf gui record) (header : PaneHeader)
    {update : Update} (takes : Takes (linkOf gui) record (.pane header update)) :
    ∀ event ∈ readEvent (.pane header update), ¬ Discards gui event := by
  obtain ⟨passive, ⟨state, rfl⟩, revision⟩ := takes
  obtain ⟨current, related⟩ := @taken_revision _ gui.runtimeRevision _ revision
  rcases nextUpdate_cases (record.paneStates header.paneId) state with
    full | ⟨delta, previous, -, patch⟩
  · rw [full, readEvent_pane_full]
    rintro event ⟨⟩
    exact current
  · have taken := related delta patch
    have held := (previous ▸ coherent.others header.paneId passive : Mirrors cursorStyleOf gui
      header.paneId (some delta.previous)).held
    rw [patch, readEvent_pane_patch]
    rintro event ⟨⟩
    exact fun discarded => discarded.elim taken held

/-- A message that a GUI client finds on its stream: one of the server's own, or a reply. -/
def Local (message : OutboundMessage Frame) : Prop :=
  Own true message ∨ ∃ other, message = .frame (.control (.other other))

theorem coherent_message (coherent : Coherent cursorStyleOf gui record)
    {message : OutboundMessage Frame} (isLocal : Local message)
    (takes : ∀ sent ∈ sentOf message, Takes (linkOf gui) record sent) :
    Coherent cursorStyleOf (gui.receive cursorStyleOf message.content)
      ((sentOf message).toList.foldl Record.note record) := by
  rcases isLocal with own | ⟨other, rfl⟩
  · cases message with
    | frame frame =>
        cases frame with
        | control control =>
            cases control with
            | uiRuntimeState state => exact coherent_told coherent (takes _ rfl)
            | uiAppearance appearance => exact coherent.congr rfl rfl
            | _ => exact coherent
        | _ => exact own.elim
    | screenUpdate frame =>
        cases frame with
        | screen source seq isLocal update =>
            cases own
            exact coherent_screen coherent source seq (takes _ rfl)
        | _ => exact own.elim
    | paneUpdate paneId focused frame =>
        cases frame with
        | pane header update => exact coherent_pane coherent header (takes _ rfl)
        | _ => exact own.elim
  · exact coherent

theorem not_discards_message (coherent : Coherent cursorStyleOf gui record)
    {message : OutboundMessage Frame} (isLocal : Local message)
    (takes : ∀ sent ∈ sentOf message, Takes (linkOf gui) record sent) :
    ∀ event ∈ readEvent message.content, ¬ Discards gui event := by
  have plain : ∀ control, ∀ event ∈ readEvent (.control control), ¬ Discards gui event := by
    intro control event member
    cases control with
    | uiRuntimeState state | uiAppearance appearance =>
        cases member
        exact id
    | _ => cases member
  rcases isLocal with own | ⟨other, rfl⟩
  · cases message with
    | frame frame =>
        cases frame with
        | control control => exact plain control
        | _ => exact own.elim
    | screenUpdate frame =>
        cases frame with
        | screen source seq isLocal update =>
            cases own
            exact not_discards_screen coherent source seq (takes _ rfl)
        | _ => exact own.elim
    | paneUpdate paneId focused frame =>
        cases frame with
        | pane header update => exact not_discards_pane coherent header (takes _ rfl)
        | _ => exact own.elim
  · exact plain _

theorem linkOf_screen (source : PaneId) (seq : Option UInt64) (update : Update) :
    linkOf (gui.receive cursorStyleOf (.screen source seq true update)) = linkOf gui := by
  cases update with
  | full state =>
      rw [receive, readEvent_screen_full]
      dsimp only [handleStreamEvent]
      split <;> rfl
  | patch delta =>
      rw [receive, readEvent_screen_patch]
      rfl

theorem linkOf_pane (header : PaneHeader) (update : Update) :
    linkOf (gui.receive cursorStyleOf (.pane header update)) = linkOf gui := by
  cases update with
  | full state =>
      rw [receive, readEvent_pane_full]
      dsimp only [handleStreamEvent]
      split <;> rfl
  | patch delta =>
      rw [receive, readEvent_pane_patch]
      dsimp only [handleStreamEvent]
      split <;> rfl

/-- Only what it is told changes which messages a client takes. -/
theorem linkOf_message {message : OutboundMessage Frame} (isLocal : Local message) :
    linkOf (gui.receive cursorStyleOf message.content) =
      (sentOf message).toList.foldl Link.hear (linkOf gui) := by
  rcases isLocal with own | ⟨other, rfl⟩
  · cases message with
    | frame frame =>
        cases frame with
        | control control => cases control <;> rfl
        | _ => exact own.elim
    | screenUpdate frame =>
        cases frame with
        | screen source seq isLocal update =>
            cases own
            exact linkOf_screen source seq update
        | _ => exact own.elim
    | paneUpdate paneId focused frame =>
        cases frame with
        | pane header update => exact linkOf_pane header update
        | _ => exact own.elim
  · rfl

end Messages

section Queues

variable {messages : List (OutboundMessage Frame)}

theorem linkOf_receiveAll (gui : GuiClient Style) (isLocal : ∀ message ∈ messages, Local message) :
    linkOf (gui.receiveAll cursorStyleOf (messages.map OutboundMessage.content)) =
      (messages.filterMap sentOf).foldl Link.hear (linkOf gui) := by
  induction messages generalizing gui with
  | nil => rfl
  | cons message messages ih =>
      have here := @linkOf_message _ cursorStyleOf gui _
        (isLocal message List.mem_cons_self)
      have rest := ih (gui.receive cursorStyleOf message.content) fun other member =>
        isLocal other (List.mem_cons_of_mem _ member)
      refine rest.trans ?_
      cases sent : sentOf message with
      | none =>
          rw [sent] at here
          rw [List.filterMap_cons_none sent, here]
          rfl
      | some heard =>
          rw [sent] at here
          rw [List.filterMap_cons_some sent, here]
          rfl

theorem takesAll_append (gui : GuiClient Style) (frames later : List Frame) :
    TakesAll cursorStyleOf gui (frames ++ later) ↔ TakesAll cursorStyleOf gui frames ∧
      TakesAll cursorStyleOf (gui.receiveAll cursorStyleOf frames) later := by
  induction frames generalizing gui with
  | nil =>
      rw [List.nil_append, TakesAll, true_and]
      exact Iff.rfl
  | cons frame frames ih =>
      rw [List.cons_append, TakesAll, TakesAll, ih, and_assoc]
      rfl

/-- A client that mirrors the record, and takes all messages of a queue, mirrors the record that
the sender has at their end. -/
theorem coherent_receiveAll (coherent : Coherent cursorStyleOf gui record)
    (isLocal : ∀ message ∈ messages, Local message)
    (follows : Follows (linkOf gui) record (messages.filterMap sentOf)) :
    Coherent cursorStyleOf
        (gui.receiveAll cursorStyleOf (messages.map OutboundMessage.content))
        ((messages.filterMap sentOf).foldl Record.note record) ∧
      TakesAll cursorStyleOf gui (messages.map OutboundMessage.content) := by
  induction messages generalizing gui record with
  | nil => exact ⟨coherent, trivial⟩
  | cons message messages ih =>
      have later : ∀ message ∈ messages, Local message :=
        fun other member => isLocal other (List.mem_cons_of_mem _ member)
      have here := isLocal message List.mem_cons_self
      have link := @linkOf_message _ cursorStyleOf gui _ here
      show Coherent cursorStyleOf ((gui.receive cursorStyleOf message.content).receiveAll
          cursorStyleOf (messages.map OutboundMessage.content)) _ ∧
        (∀ event ∈ readEvent message.content, ¬ Discards gui event) ∧
          TakesAll cursorStyleOf (gui.receive cursorStyleOf message.content)
            (messages.map OutboundMessage.content)
      cases sent : sentOf message with
      | none =>
          rw [List.filterMap_cons_none sent] at follows ⊢
          have none : ∀ other ∈ sentOf message, Takes (linkOf gui) record other := by simp [sent]
          have next := coherent_message coherent here none
          rw [sent] at next link
          obtain ⟨shown, taken⟩ := ih next later (by rw [link]; exact follows)
          exact ⟨shown, not_discards_message coherent here none, taken⟩
      | some noted =>
          rw [List.filterMap_cons_some sent] at follows ⊢
          obtain ⟨takes, rest⟩ := follows
          have one : ∀ other ∈ sentOf message, Takes (linkOf gui) record other := by
            simp [sent, takes]
          have next := coherent_message coherent here one
          rw [sent] at next link
          obtain ⟨shown, taken⟩ := ih next later (by rw [link]; exact rest)
          exact ⟨shown, not_discards_message coherent here one, taken⟩

end Queues

end Clients

end Boo.Client.GuiMirror
