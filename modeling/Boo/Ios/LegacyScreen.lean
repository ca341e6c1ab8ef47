/- module: Boo/Ios/LegacyScreen
   digest: The screen a Delta is applied to, against the FullState and Delta messages before it. -/

import Boo.Ios.ClientSteps
import Boo.Ios.Deliveries
import Boo.Lib.Runs

set_option autoImplicit false
set_option relaxedAutoImplicit false

namespace Boo.Ios.LegacyScreen

open Boo.Lib.Runs
open Boo.Lib.SnapshotLog
open Boo.Wire.Message
open Boo.Wire.SwiftCodec
open Boo.Wire.SwiftDelta
open Boo.Wire.RowRange
open Boo.Server.Frames
open Boo.Server.Streams
open Boo.Ios.ProtocolClient
open Boo.Ios.ClientSteps
open Boo.Ios.Deliveries

section Displays

variable (client : Client)

/-- What an accepted pane screen puts on display, if it is of the focused pane. -/
def displaysAccepted (update : DecodedPaneUpdate) (state : DecodedWireScreenState) :
    Option DecodedWireScreenState :=
  let stored := client.storePaneScreen update state
  if stored.paneUpdateIsFocusedVisiblePane update then
    some ((stored.displayedPaneScreen update.paneId).getD state)
  else none

def displaysRows (response : DecodedRowRangeResponse) : Option DecodedWireScreenState :=
  let stored := client.storePaneRows response
  if stored.runtimeState.map (·.focusedPane) = some response.paneId then
    stored.displayedPaneScreen response.paneId
  else none

/-- The screen that a pane update or a row reply puts on display. -/
def displays : Inbound → Option DecodedWireScreenState
  | .uiPaneFullState payload =>
      match decodePaneFullState payload with
      | some (update, state) =>
          if client.paneUpdateTargetsCurrentView update ∧ client.paneUpdateIsNotOlder update then
            displaysAccepted client update state
          else none
      | none => none
  | .uiPaneDelta payload =>
      match decodePaneDelta payload with
      | some (update, deltaPayload) =>
          if client.paneUpdateTargetsCurrentView update ∧ client.paneUpdateIsNewer update then
            match client.paneFullStateSeen update.paneId, client.paneScreens update.paneId with
            | true, some base =>
                match applyPaneDelta deltaPayload base with
                | (true, state) => displaysAccepted client update state
                | (false, _) => none
            | _, _ => none
          else none
      | none => none
  | .uiPaneRows payload =>
      match decodePaneRows payload with
      | some (update, response) =>
          if client.paneUpdateTargetsCurrentView update then displaysRows client response
          else none
      | none => none
  | _ => none

/-- The screen after a pane message. -/
def afterDisplay (displayed : Option DecodedWireScreenState) : ScreenState :=
  (displayed.map ScreenState.ofDecoded).getD client.screen

theorem screen_acceptPaneScreen (update : DecodedPaneUpdate) (state : DecodedWireScreenState) :
    (client.acceptPaneScreen update state).screen =
      afterDisplay client (displaysAccepted client update state) := by
  unfold Client.acceptPaneScreen displaysAccepted
  dsimp only
  split
  · rfl
  · exact screen_storePaneScreen client update state

theorem screen_applyPaneRows (update : DecodedPaneUpdate) (response : DecodedRowRangeResponse)
    (targets : client.paneUpdateTargetsCurrentView update) :
    (client.applyPaneRows update response).screen =
      afterDisplay client (displaysRows client response) := by
  unfold Client.applyPaneRows displaysRows
  rw [if_neg (not_not.mpr targets)]
  dsimp only
  split
  · split
    · rename_i displayed shown
      rw [shown]
      rfl
    · rename_i shown
      rw [shown]
      rfl
  · rfl

/-- The messages of panes write the screen only by putting a pane on display. -/
theorem screen_handle_pane {message : Inbound} (pane : ∀ payload, message ≠ .fullState payload ∧
      message ≠ .delta payload) :
    (client.handle message).screen = afterDisplay client (displays client message) := by
  cases message with
  | uiRuntimeState state => rfl
  | fullState payload => exact absurd rfl (pane payload).1
  | delta payload => exact absurd rfl (pane payload).2
  | uiPaneFullState payload =>
      unfold Client.handle displays
      dsimp only
      cases decoded : decodePaneFullState payload with
      | none => rfl
      | some pair =>
          obtain ⟨update, state⟩ := pair
          unfold Client.applyPaneFullState
          by_cases targets : client.paneUpdateTargetsCurrentView update
          · by_cases fresh : client.paneUpdateIsNotOlder update
            · simp only [targets, fresh, not_true_eq_false, if_false, and_self, if_true]
              exact screen_acceptPaneScreen client update state
            · simp only [targets, fresh, not_true_eq_false, if_false, and_false, not_false_eq_true,
                if_true]
              rfl
          · simp only [targets, not_false_eq_true, if_true, false_and, if_false]
            rfl
  | uiPaneDelta payload =>
      unfold Client.handle displays
      dsimp only
      cases decoded : decodePaneDelta payload with
      | none => rfl
      | some pair =>
          obtain ⟨update, deltaPayload⟩ := pair
          unfold Client.applyPaneDelta
          by_cases targets : client.paneUpdateTargetsCurrentView update
          · by_cases fresh : client.paneUpdateIsNewer update
            · simp only [targets, fresh, not_true_eq_false, if_false, and_self, if_true]
              cases seen : client.paneFullStateSeen update.paneId with
              | false => exact screen_requestPaneFullStateRefreshIfNeeded client update
              | true =>
                  cases held : client.paneScreens update.paneId with
                  | none => exact screen_requestPaneFullStateRefreshIfNeeded client update
                  | some base =>
                      dsimp only
                      cases applied : applyPaneDelta deltaPayload base with
                      | mk whole state =>
                          cases whole with
                          | true => exact screen_acceptPaneScreen client update state
                          | false =>
                              exact screen_requestPaneFullStateRefreshIfNeeded client update
            · simp only [targets, fresh, not_true_eq_false, if_false, and_false, not_false_eq_true,
                if_true]
              rfl
          · simp only [targets, not_false_eq_true, if_true, false_and, if_false]
            rfl
  | uiPaneRows payload =>
      unfold Client.handle displays
      dsimp only
      cases decoded : decodePaneRows payload with
      | none => rfl
      | some pair =>
          obtain ⟨update, response⟩ := pair
          dsimp only
          by_cases targets : client.paneUpdateTargetsCurrentView update
          · rw [if_pos targets]
            exact screen_applyPaneRows client update response targets
          · rw [if_neg targets, Client.applyPaneRows, if_pos targets]
            rfl

end Displays

/-- The client, with `legacy` for the FullState and Delta messages of the connection applied
in order to the screen it began with, `left` for the screen that the last of them left, and
`shown` for the screen put on display since. -/
structure Session where
  client : Client
  legacy : ScreenState
  left : ScreenState
  shown : Option ScreenState

def Session.start (client : Client) : Session := ⟨client, client.screen, client.screen, none⟩

def Applies (client : Client) (payload : List UInt8) : Prop :=
  (applyDelta payload client.screen.decoded false).1 = true

instance (client : Client) (payload : List UInt8) : Decidable (Applies client payload) :=
  inferInstanceAs (Decidable (_ = _))

def Session.receive (session : Session) (message : Inbound) : Session :=
  let client := session.client.handle message
  match message with
  | .fullState payload =>
      match Client.reduceFullState payload with
      | some decoded => ⟨client, .ofDecoded decoded, client.screen, none⟩
      | none => ⟨client, session.legacy, session.left, session.shown⟩
  | .delta payload =>
      if Applies session.client payload then
        ⟨client, .ofDecoded (applyDelta payload session.legacy.decoded false).2, client.screen, none⟩
      else ⟨client, session.legacy, session.left, session.shown⟩
  | message =>
      ⟨client, session.legacy, session.left,
        ((displays session.client message).map ScreenState.ofDecoded).or session.shown⟩

def Session.step (session : Session) (event : Event) : Session :=
  match event with
  | .connect => .start session.client.connect
  | .disconnect => .start session.client.disconnect
  | .protocolError => .start session.client.protocolError
  | .receive message =>
      match session.client.connection with
      | none => session
      | some _ => session.receive message
  | event => { session with client := session.client.step event }

/-- A Delta is applied to what the FullState and Delta messages before it make. -/
def BaseIsLegacy (session : Session) : Event → Prop
  | .receive (.delta payload) =>
      session.client.connection ≠ none → Applies session.client payload →
        session.client.screen = session.legacy
  | _ => True

/-- At a Delta, the screen put on display last since the last FullState or Delta, if there is
one, is the screen that was there before. -/
def ShowsWhatWasLeft (session : Session) : Event → Prop
  | .receive (.delta payload) =>
      session.client.connection ≠ none → Applies session.client payload →
        ∀ shown ∈ session.shown, shown = session.left
  | _ => True

/-- The screen is what was put on display since the last legacy message, or what that left. -/
structure Tracks (session : Session) : Prop where
  screen : session.client.screen = session.shown.getD session.left
  left : session.left = session.legacy

theorem tracks_start (client : Client) : Tracks (.start client) := ⟨rfl, rfl⟩

theorem tracks_receive {session : Session} {message : Inbound} (tracks : Tracks session)
    (base : ∀ payload, message = .delta payload → Applies session.client payload →
      session.client.screen = session.legacy) : Tracks (session.receive message) := by
  have pane : ∀ message : Inbound, (∀ payload, message ≠ .fullState payload ∧
      message ≠ .delta payload) → Tracks ⟨session.client.handle message, session.legacy,
        session.left, ((displays session.client message).map ScreenState.ofDecoded).or
          session.shown⟩ := by
    intro message other
    refine ⟨?_, tracks.left⟩
    show (session.client.handle message).screen = _
    rw [screen_handle_pane session.client other, afterDisplay, tracks.screen]
    cases displays session.client message <;> rfl
  cases message with
  | fullState payload =>
      unfold Session.receive
      dsimp only
      cases reduced : Client.reduceFullState payload with
      | none =>
          refine ⟨?_, tracks.left⟩
          show (session.client.applyReducedScreen (Client.reduceFullState payload)).screen = _
          rw [reduced]
          exact tracks.screen
      | some decoded =>
          refine ⟨rfl, ?_⟩
          show (session.client.applyReducedScreen (Client.reduceFullState payload)).screen = _
          rw [reduced, screen_applyReducedScreen]
  | delta payload =>
      unfold Session.receive
      dsimp only
      by_cases applies : Applies session.client payload
      · rw [if_pos applies]
        refine ⟨rfl, ?_⟩
        show (session.client.applyReducedScreen
          (Client.reduceDelta payload session.client.screen)).screen = _
        have reduced : Client.reduceDelta payload session.client.screen =
            some (applyDelta payload session.client.screen.decoded false).2 := by
          unfold Client.reduceDelta
          unfold Applies at applies
          split
          · rename_i applied
            rw [applied]
          · rename_i failed
            rw [failed] at applies
            cases applies
        rw [reduced, screen_applyReducedScreen, base payload rfl applies]
      · rw [if_neg applies]
        refine ⟨?_, tracks.left⟩
        show (session.client.applyReducedScreen
          (Client.reduceDelta payload session.client.screen)).screen = _
        have reduced : Client.reduceDelta payload session.client.screen =
            some session.client.screen.decoded := by
          unfold Client.reduceDelta
          unfold Applies at applies
          split
          · rename_i applied
            rw [applied] at applies
            exact absurd rfl applies
          · rfl
        rw [reduced, screen_applyReducedScreen]
        exact tracks.screen
  | uiRuntimeState state => exact pane _ fun payload => ⟨by simp, by simp⟩
  | uiPaneFullState payload => exact pane _ fun payload => ⟨by simp, by simp⟩
  | uiPaneDelta payload => exact pane _ fun payload => ⟨by simp, by simp⟩
  | uiPaneRows payload => exact pane _ fun payload => ⟨by simp, by simp⟩

theorem tracks_step (session : Session) (event : Event) (tracks : Tracks session) (_ : True)
    (base : BaseIsLegacy session event) : Tracks (session.step event) := by
  cases event with
  | connect => exact tracks_start _
  | disconnect => exact tracks_start _
  | protocolError => exact tracks_start _
  | receive message =>
      unfold Session.step
      dsimp only
      cases connection : session.client.connection with
      | none => exact tracks
      | some sent =>
          refine tracks_receive tracks fun payload same applies => ?_
          subst same
          exact base (by rw [connection]; exact Option.some_ne_none sent) applies
  | scrollTouchHistory paneId rows =>
      exact ⟨(screen_scrollTouchHistory session.client paneId rows).trans tracks.screen, tracks.left⟩
  | followLiveTail => exact ⟨tracks.screen, tracks.left⟩
  | focusPane tabId paneId =>
      exact ⟨(steers_focusPane session.client tabId paneId).screen.trans tracks.screen, tracks.left⟩
  | setViewedTab tabId =>
      exact ⟨(steers_setViewedTab session.client tabId).screen.trans tracks.screen, tracks.left⟩

theorem baseIsLegacy_iff (session : Session) (event : Event) (tracks : Tracks session) (_ : True) :
    BaseIsLegacy session event ↔ ShowsWhatWasLeft session event := by
  have here : session.client.screen = session.legacy ↔
      ∀ shown ∈ session.shown, shown = session.left := by
    rw [tracks.screen, ← tracks.left]
    cases session.shown with
    | none => simp
    | some shown => simp
  cases event with
  | receive message =>
      cases message with
      | delta payload =>
          exact forall_congr' fun _ => forall_congr' fun _ => here
      | _ => exact Iff.rfl
  | _ => exact Iff.rfl

/-- The events of the connection besides the messages of the legacy stream. -/
def OtherEvent (event : Event) : Prop :=
  KeepsConnection event ∧ ∀ payload,
    event ≠ .receive (.fullState payload) ∧ event ≠ .receive (.delta payload)

/-- The legacy stream of a server, whose record of the state last sent is `lastState`. -/
inductive StreamEvent
  | forget
  | send (source : PaneId) (latestInputSeq : Option UInt64) (state : Grid)
  | act (event : Event) (other : OtherEvent event)

structure Streaming where
  session : Session
  lastState : Option Grid

def Streaming.step (streaming : Streaming) : StreamEvent → Streaming
  | .forget => { streaming with lastState := none }
  | .send source latestInputSeq state => {
      session := streaming.session.step
        (.receive (delivery (.screen source latestInputSeq (nextUpdate streaming.lastState state))))
      lastState := some state }
  | .act event _ => { streaming with session := streaming.session.step event }

/-- The legacy messages make the screen of the state recorded as last sent. -/
structure Records (streaming : Streaming) : Prop where
  connected : streaming.session.client.connection ≠ none
  recorded : ∀ state ∈ streaming.lastState,
    SameGrid streaming.session.legacy.decoded (decodedScreen state.val)

theorem session_step_keeps (session : Session) {event : Event} (keeps : KeepsConnection event) :
    (session.step event).client = session.client.step event := by
  cases event with
  | connect => exact keeps.elim
  | disconnect => exact keeps.elim
  | protocolError => exact keeps.elim
  | receive message =>
      unfold Session.step Client.step Client.receive
      dsimp only
      cases session.client.connection with
      | none => rfl
      | some sent =>
          unfold Session.receive
          dsimp only
          cases message with
          | fullState payload =>
              dsimp only
              split <;> rfl
          | delta payload =>
              dsimp only
              split <;> rfl
          | _ => rfl
  | _ => rfl

theorem connected_step {session : Session} {event : Event} (keeps : KeepsConnection event)
    (connected : session.client.connection ≠ none) : (session.step event).client.connection ≠ none := by
  obtain ⟨more, connection, -⟩ := continues_step session.client keeps
  rw [session_step_keeps session keeps, connection]
  exact fun gone => connected (Option.map_eq_none_iff.mp gone)

/-- Only legacy messages change what they make. -/
theorem legacy_step_other {session : Session} {event : Event} (other : OtherEvent event) :
    (session.step event).legacy = session.legacy := by
  obtain ⟨keeps, other⟩ := other
  cases event with
  | connect => exact keeps.elim
  | disconnect => exact keeps.elim
  | protocolError => exact keeps.elim
  | receive message =>
      unfold Session.step
      dsimp only
      cases session.client.connection with
      | none => rfl
      | some sent =>
          cases message with
          | fullState payload => exact absurd rfl (other payload).1
          | delta payload => exact absurd rfl (other payload).2
          | _ => rfl
  | _ => rfl

theorem records_step (streaming : Streaming) (event : StreamEvent) (records : Records streaming)
    (_ : True) : Records (streaming.step event) := by
  cases event with
  | forget => exact ⟨records.connected, fun _ member => by cases member⟩
  | act event other =>
      refine ⟨connected_step other.1 records.connected, fun state member => ?_⟩
      show SameGrid (streaming.session.step event).legacy.decoded _
      rw [legacy_step_other other]
      exact records.recorded state member
  | send source latestInputSeq state =>
      have keeps : KeepsConnection (.receive (delivery
          (.screen source latestInputSeq (nextUpdate streaming.lastState state)))) := trivial
      refine ⟨connected_step keeps records.connected, fun sent member => ?_⟩
      cases member
      obtain ⟨sent, connection⟩ := Option.ne_none_iff_exists'.mp records.connected
      show SameGrid (streaming.session.step _).legacy.decoded _
      unfold Session.step
      rw [connection]
      dsimp only
      rcases nextUpdate_cases streaming.lastState state with full | ⟨delta, last, rfl, patch⟩
      · rw [full]
        show SameGrid (Session.receive streaming.session (.fullState _)).legacy.decoded _
        unfold Session.receive
        dsimp only
        rw [Client.reduceFullState, updatePayload,
          decodeFullState_encodeFullState state.property]
        rfl
      · rw [patch]
        show SameGrid (Session.receive streaming.session (.delta _)).legacy.decoded _
        have applies : Applies streaming.session.client
            (updatePayload latestInputSeq false (.patch delta)) := by
          rw [Applies, applyDelta_patch]
        unfold Session.receive
        dsimp only
        rw [if_pos applies, applyDelta_patch]
        exact patched_sameGrid (records.recorded delta.previous last)

/-- After an event, what the legacy messages make is the state recorded as last sent. -/
def RecordsAfter (streaming : Streaming) (event : StreamEvent) : Prop :=
  ∀ state ∈ (streaming.step event).lastState,
    SameGrid (streaming.step event).session.legacy.decoded (decodedScreen state.val)

/-- Every Delta is applied to what the FullState and Delta messages before it make, exactly
when nothing else is on display at a Delta; and what they make is what the server records. -/
theorem deltaBase_always_iff (client : Client) (events : List Event) (feed : List StreamEvent) :
    (Always Session.step BaseIsLegacy (.start client) events ↔
      Always Session.step ShowsWhatWasLeft (.start client) events) ∧
    Always Streaming.step RecordsAfter ⟨.start client.connect, none⟩ feed := by
  constructor
  · exact always_congr tracks_step baseIsLegacy_iff (tracks_start client) (always_true _ _)
  · have start : Records ⟨.start client.connect, none⟩ :=
      ⟨Option.some_ne_none [], fun _ member => by cases member⟩
    exact always_of_invariant records_step
      (fun streaming event records _ => (records_step streaming event records trivial).recorded)
      start (always_true _ _)

/-- Pane 7 is focused and pane 8 is visible beside it. -/
def twoPanes : UiRuntimeState where
  activeTab := 0
  focusedPane := 7
  tabs := [⟨1, 0, true, "shell", 2, some 7, [7, 8]⟩]
  presentation := 0
  runtimeRevision := 1
  viewRevision := 1
  viewId := 1
  viewedTabId := some 1
  viewportCols := none
  viewportRows := none
  visiblePaneIds := [7, 8]
  ackedClientActionId := none

/-- A screen of two rows, each of one character. -/
def twoLines (first second : UInt32) : Grid :=
  smallScreen first first second second

/-- The user focuses pane 8, whose update is on display when the next Delta of pane 7, which
the server still takes for the focused one, arrives. -/
def focusRunsAhead : List Event :=
  [ .connect,
    .receive (delivery (.told twoPanes)),
    .receive (delivery (.screen 7 none (nextUpdate none (twoLines 65 65)))),
    .focusPane 1 8,
    .receive (delivery (.pane ⟨1, 8, 1, 1⟩ (nextUpdate none (twoLines 66 66)))),
    .receive (delivery (.screen 7 none (nextUpdate (some (twoLines 65 65)) (twoLines 65 67)))) ]

theorem focusRunsAhead_otherBase :
    ¬ ∀ (client : Client) (events : List Event),
      Always Session.step BaseIsLegacy (.start client) events := by
  intro all
  obtain ⟨-, -, -, -, -, base, -⟩ := all Client.new focusRunsAhead
  have same := base (by decide +kernel) (by decide +kernel)
  exact absurd same (by decide +kernel)

end Boo.Ios.LegacyScreen
