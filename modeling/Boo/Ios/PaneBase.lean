/- module: Boo/Ios/PaneBase
   digest: When a pane delta finds the screen it was made against, focus changes in between. -/

import Boo.Ios.LegacyScreen
import Boo.Server.PaneLog

set_option autoImplicit false
set_option relaxedAutoImplicit false

namespace Boo.Ios.PaneBase

open Boo.Lib.KeyedList
open Boo.Lib.Runs
open Boo.Lib.Script
open Boo.Lib.SnapshotLog
open Boo.Wire.Message
open Boo.Wire.SwiftCodec
open Boo.Wire.SwiftDelta
open Boo.Server.Frames
open Boo.Server.View
open Boo.Server.App
open Boo.Server.Actions
open Boo.Server.Streams
open Boo.Server.StreamRuns
open Boo.Server.Handlers
open Boo.Server.PaneLog
open Boo.Runtime.Splits (live_one live_two)
open Boo.Ios.ProtocolClient
open Boo.Ios.ClientSteps
open Boo.Ios.Deliveries
open Boo.Ios.LegacyScreen (twoLines)

section Session

/-- What the user does, and the replies to row requests, which come outside the queue. -/
def Aside : Event → Prop
  | .connect | .disconnect | .protocolError => False
  | .receive (.uiPaneRows _) => True
  | .receive _ => False
  | _ => True

/-- A turn of the server, of the queue between the two, or of the phone. The server takes the
phone's commands among its steps, at any later time; a client id is never connected again. -/
inductive Turn (id : ClientId)
  | serve (step : Step) (later : ∀ isLocal, step ≠ .connect id isLocal)
  | deliver
  | act (event : Event) (aside : Aside event)

/-- `pending` is what the server has queued for the phone beyond `delivered`, and `written` what
was stored last as the screen of each pane: the state of a pane update, or a legacy screen. `own`
says of a pane whether that was by the last update of the pane that was delivered. -/
structure Session where
  server : BooApp
  phone : Client
  delivered : List Sent
  pending : List Sent
  written : PaneId → Option DecodedWireScreenState
  own : PaneId → Bool

variable (id : ClientId)

/-- The phone has connected, with whatever it holds of earlier connections. -/
def Session.start (app : BooApp) (phone : Client) : Session where
  server := Action.step app (.connect id false)
  phone := phone.connect
  delivered := []
  pending := []
  written := phone.paneScreens
  own := fun _ => false

/-- The checks that a pane update passes before its screen is stored. -/
def Accepts (phone : Client) (header : PaneHeader) : Update → Prop
  | .full _ =>
      phone.paneUpdateTargetsCurrentView (decodedHeader header) ∧
        phone.paneUpdateIsNotOlder (decodedHeader header)
  | .patch _ =>
      phone.paneUpdateTargetsCurrentView (decodedHeader header) ∧
        phone.paneUpdateIsNewer (decodedHeader header) ∧
          phone.paneFullStateSeen header.paneId = true ∧
            (phone.paneScreens header.paneId).isSome

instance (phone : Client) (header : PaneHeader) (update : Update) :
    Decidable (Accepts phone header update) :=
  match update with
  | .full _ => inferInstanceAs (Decidable (_ ∧ _))
  | .patch _ => inferInstanceAs (Decidable (_ ∧ _ ∧ _ ∧ _))

/-- The screen that a legacy message makes. -/
def legacyScreen (phone : Client) : Update → DecodedWireScreenState
  | .full state => decodedScreen state.val
  | .patch delta => patched delta phone.screen.decoded

def writtenAfter (phone : Client) (written : PaneId → Option DecodedWireScreenState) :
    Sent → PaneId → Option DecodedWireScreenState
  | .told state => visibleOnly state written
  | .screen _ _ update =>
      match phone.runtimeState with
      | none => written
      | some state =>
          if state.focusedPane ∈ state.visiblePaneIds then
            Function.update written state.focusedPane (some (legacyScreen phone update))
          else written
  | .pane header update =>
      if Accepts phone header update then
        Function.update written header.paneId (some (decodedScreen (updateState update).val))
      else written

/-- A legacy message stores its screen under the pane that the phone takes for the focused one; a
pane update that is dropped leaves what others have stored. -/
def ownAfter (phone : Client) (own : PaneId → Bool) : Sent → PaneId → Bool
  | .told _ => own
  | .screen _ _ _ =>
      match phone.runtimeState with
      | none => own
      | some state =>
          if state.focusedPane ∈ state.visiblePaneIds then
            Function.update own state.focusedPane false
          else own
  | .pane header update => Function.update own header.paneId (decide (Accepts phone header update))

variable {id}

def Session.step (session : Session) : Turn id → Session
  | .serve step _ =>
      let server := final Action.step step.handler session.server
      { session with
        server := server
        pending := match server.clients.value id with
          | none => session.pending
          | some client => (streamOf client).queue.drop session.delivered.length }
  | .deliver =>
      match session.pending with
      | [] => session
      | sent :: pending => {
          server := session.server
          phone := session.phone.receive (delivery sent)
          delivered := session.delivered ++ [sent]
          pending := pending
          written := writtenAfter session.phone session.written sent
          own := ownAfter session.phone session.own sent }
  | .act event _ => { session with phone := session.phone.step event }

/-- The pane delta that would be delivered next. -/
def nextDelta (session : Session) : Option (PaneHeader × StateDelta) :=
  match session.pending with
  | .pane header (.patch delta) :: _ => some (header, delta)
  | _ => none

/-- `P` holds where the phone applies a pane delta. -/
def AtDelta (P : Session → PaneHeader → StateDelta → Prop) (session : Session) : Turn id → Prop
  | .deliver => ∀ next ∈ nextDelta session,
      Accepts session.phone next.1 (.patch next.2) → P session next.1 next.2
  | _ => True

/-- The stored screen of the pane is the state that the server made the delta against. -/
def BaseIsServers : Session → Turn id → Prop :=
  AtDelta fun session header delta =>
    ∀ screen ∈ session.phone.paneScreens header.paneId,
      SameGrid screen (decodedScreen delta.previous.val)

/-- What was stored last as the screen of the pane shows the state of the last update of the
pane that was delivered, accepted or not. -/
def ShowsLastUpdate (session : Session) (paneId : PaneId) : Prop :=
  ∀ state ∈ lastPaneState paneId session.delivered,
    ∀ screen ∈ session.written paneId, SameGrid screen (decodedScreen state.val)

/-- The last update of the pane that was delivered was the last to store a screen of it; or what
another message stored since, or was stored before that update was dropped, shows the same. -/
def LastUpdateIsWritten : Session → Turn id → Prop :=
  AtDelta fun session header _ =>
    session.own header.paneId = true ∨ ShowsLastUpdate session header.paneId

instance (session : Session) : Decidable (BaseIsServers session (.deliver : Turn id)) :=
  inferInstanceAs (Decidable (∀ next ∈ nextDelta session, _ → _))

end Session

section Storing

variable {phone : Client}

/-- Two pane maps with the same grids. -/
def SameGrids (screens written : PaneId → Option DecodedWireScreenState) : Prop :=
  ∀ paneId, (screens paneId).map ScreenState.ofDecoded = (written paneId).map ScreenState.ofDecoded

theorem SameGrids.update {screens written : PaneId → Option DecodedWireScreenState}
    (same : SameGrids screens written) (paneId : PaneId) {screen shown : DecodedWireScreenState}
    (grid : SameGrid screen shown) :
    SameGrids (Function.update screens paneId (some screen))
      (Function.update written paneId (some shown)) := by
  intro other
  by_cases here : other = paneId
  · subst here
    rw [Function.update_self, Function.update_self]
    exact congrArg some grid
  · rw [Function.update_of_ne here, Function.update_of_ne here]
    exact same other

theorem paneScreens_aside {event : Event} (aside : Aside event) :
    (phone.step event).paneScreens = phone.paneScreens := by
  cases event with
  | connect => exact aside.elim
  | disconnect => exact aside.elim
  | protocolError => exact aside.elim
  | receive message =>
      cases message with
      | uiPaneRows payload =>
          unfold Client.step Client.receive Client.handle
          dsimp only
          split
          · rfl
          · split
            · exact paneScreens_applyPaneRows phone _ _
            · rfl
      | _ => exact aside.elim
  | scrollTouchHistory paneId rows => exact paneScreens_scrollTouchHistory phone paneId rows
  | followLiveTail => rfl
  | focusPane tabId paneId => exact (steers_focusPane phone tabId paneId).unrecorded.1
  | setViewedTab tabId => exact (steers_setViewedTab phone tabId).unrecorded.1

theorem keepsConnection_of_aside {event : Event} (aside : Aside event) : KeepsConnection event := by
  cases event with
  | connect => exact aside
  | disconnect => exact aside
  | protocolError => exact aside
  | _ => trivial

/-- The screen that an accepted update stores. -/
def storedBy (phone : Client) (paneId : PaneId) : Update → Option DecodedWireScreenState
  | .full state => some (decodedScreen state.val)
  | .patch delta => (phone.paneScreens paneId).map (patched delta)

theorem paneScreens_handle_pane (header : PaneHeader) (update : Update) :
    (phone.handle (delivery (.pane header update))).paneScreens =
      if Accepts phone header update then
        Function.update phone.paneScreens header.paneId (storedBy phone header.paneId update)
      else phone.paneScreens := by
  cases update with
  | full state =>
      rw [handle_paneFullState, Client.applyPaneFullState]
      by_cases targets : phone.paneUpdateTargetsCurrentView (decodedHeader header)
      · rw [if_neg (not_not.mpr targets)]
        by_cases fresh : phone.paneUpdateIsNotOlder (decodedHeader header)
        · rw [if_neg (not_not.mpr fresh), if_pos ⟨targets, fresh⟩]
          exact (paneScreens_acceptPaneScreen phone (decodedHeader header) _).1
        · rw [if_pos fresh, if_neg fun accepts => fresh accepts.2]
      · rw [if_pos targets, if_neg fun accepts => targets accepts.1]
  | patch delta =>
      rw [handle_paneDelta, Client.applyPaneDelta]
      by_cases targets : phone.paneUpdateTargetsCurrentView (decodedHeader header)
      · rw [if_neg (not_not.mpr targets)]
        by_cases fresh : phone.paneUpdateIsNewer (decodedHeader header)
        · rw [if_neg (not_not.mpr fresh)]
          have sameId : (decodedHeader header).paneId = header.paneId := rfl
          rw [sameId]
          cases seen : phone.paneFullStateSeen header.paneId with
          | false =>
              rw [if_neg fun accepts => by
                have seen' := accepts.2.2.1
                rw [seen] at seen'
                cases seen']
              exact paneScreens_requestPaneFullStateRefreshIfNeeded phone _
          | true =>
              cases held : phone.paneScreens header.paneId with
              | none =>
                  rw [if_neg fun accepts => by
                    have held' := accepts.2.2.2
                    rw [held] at held'
                    cases held']
                  exact paneScreens_requestPaneFullStateRefreshIfNeeded phone _
              | some base =>
                  rw [if_pos ⟨targets, fresh, seen, by rw [held]; rfl⟩]
                  dsimp only
                  rw [applyPaneDelta_patch, storedBy, held]
                  exact (paneScreens_acceptPaneScreen phone (decodedHeader header) _).1
        · rw [if_pos fresh, if_neg fun accepts => fresh accepts.2.1]
      · rw [if_pos targets, if_neg fun accepts => targets accepts.1]

end Storing

section Linking

variable {id : ClientId}

/-- The two ends of the connection: what was delivered and what is pending are the queue, the phone
stores what was written, and what an update of a pane has written is its state. -/
structure Linked (id : ClientId) (session : Session) : Prop where
  connected : session.phone.connection ≠ none
  queue : Holds session.server id fun stream =>
    Logged stream ∧ stream.queue = session.delivered ++ session.pending
  based : Based (session.delivered ++ session.pending)
  written : SameGrids session.phone.paneScreens session.written
  own : ∀ paneId, session.own paneId = true → ShowsLastUpdate session paneId

theorem linked_start (app : BooApp) (phone : Client) : Linked id (.start id app phone) where
  connected := Option.some_ne_none []
  queue client held := by
    obtain ⟨logged, -⟩ := @logs_newClient id app false client held
    refine ⟨logged, ?_⟩
    rw [Session.start, Action.step, Keyed.value_set, if_pos rfl] at held
    cases held
    rfl
  based := based_nil
  written _ := rfl
  own _ owned := by cases owned

theorem linked_serve {session : Session} (linked : Linked id session) (step : Step)
    (later : ∀ isLocal, step ≠ .connect id isLocal) :
    Linked id (session.step (.serve step later)) := by
  have logs : Logs id (session.delivered ++ session.pending) session.server :=
    fun client held => ⟨(linked.queue client held).1, by rw [(linked.queue client held).2]⟩
  have served := logs_step logs later
  unfold Session.step
  dsimp only
  cases held : (final Action.step step.handler session.server).clients.value id with
  | none =>
      refine ⟨linked.connected, fun client present => ?_, linked.based, linked.written, linked.own⟩
      rw [held] at present
      cases present
  | some client =>
      obtain ⟨logged, more, queue⟩ := served client held
      have split : session.delivered ++
          (streamOf client).queue.drop session.delivered.length = (streamOf client).queue := by
        rw [← queue, List.append_assoc, List.drop_left]
      refine ⟨linked.connected, fun other present => ?_, ?_, linked.written, linked.own⟩
      · rw [held] at present
        cases present
        exact ⟨logged, split.symm⟩
      · dsimp only
        rw [split]
        exact logged.based

/-- A delivered message writes what the ghost record says, as long as deltas find their base. -/
theorem sameGrids_deliver {phone : Client} {written : PaneId → Option DecodedWireScreenState}
    (same : SameGrids phone.paneScreens written) (sent : Sent)
    (base : ∀ header delta, sent = .pane header (.patch delta) →
      Accepts phone header (.patch delta) → ∀ screen ∈ phone.paneScreens header.paneId,
        SameGrid screen (decodedScreen delta.previous.val)) :
    SameGrids (phone.handle (delivery sent)).paneScreens (writtenAfter phone written sent) := by
  cases sent with
  | told state =>
      intro paneId
      show (visibleOnly state phone.paneScreens paneId).map _ = (visibleOnly state written paneId).map _
      unfold visibleOnly
      split
      · exact same paneId
      · rfl
  | screen source latestInputSeq update =>
      have reduced : phone.handle (delivery (.screen source latestInputSeq update)) =
          phone.applyReducedScreen (some (legacyScreen phone update)) := by
        cases update with
        | full state => exact handle_fullState phone source latestInputSeq state
        | patch delta => exact handle_delta phone source latestInputSeq delta
      rw [reduced, paneScreens_applyReducedScreen, writtenAfter]
      cases phone.runtimeState with
      | none => exact same
      | some state =>
          dsimp only
          split
          · exact same.update _ rfl
          · exact same
  | pane header update =>
      rw [paneScreens_handle_pane, writtenAfter]
      by_cases accepts : Accepts phone header update
      · rw [if_pos accepts, if_pos accepts]
        cases update with
        | full state => exact same.update _ rfl
        | patch delta =>
            obtain ⟨screen, held⟩ := Option.isSome_iff_exists.mp accepts.2.2.2
            rw [storedBy, held]
            exact same.update _ (patched_sameGrid (base header delta rfl accepts screen held))
      · rw [if_neg accepts, if_neg accepts]
        exact same

/-- An update that a delivered message makes the last one to store shows its state. -/
theorem own_deliver {session : Session}
    (shows : ∀ paneId, session.own paneId = true → ShowsLastUpdate session paneId) (sent : Sent)
    {paneId : PaneId} (owned : ownAfter session.phone session.own sent paneId = true) :
    ∀ state ∈ lastPaneState paneId (session.delivered ++ [sent]),
      ∀ screen ∈ writtenAfter session.phone session.written sent paneId,
        SameGrid screen (decodedScreen state.val) := by
  intro state last screen wrote
  rw [lastPaneState_concat] at last
  cases sent with
  | told news =>
      change screen ∈ visibleOnly news session.written paneId at wrote
      rw [visibleOnly] at wrote
      split at wrote
      · exact shows paneId owned state last screen wrote
      · cases wrote
  | screen source latestInputSeq update =>
      unfold ownAfter at owned
      unfold writtenAfter at wrote
      cases known : session.phone.runtimeState with
      | none =>
          rw [known] at owned wrote
          exact shows paneId owned state last screen wrote
      | some news =>
          rw [known] at owned wrote
          dsimp only at owned wrote
          by_cases visible : news.focusedPane ∈ news.visiblePaneIds
          · rw [if_pos visible] at owned wrote
            have apart : paneId ≠ news.focusedPane := by
              rintro rfl
              rw [Function.update_self] at owned
              cases owned
            rw [Function.update_of_ne apart] at owned wrote
            exact shows paneId owned state last screen wrote
          · rw [if_neg visible] at owned wrote
            exact shows paneId owned state last screen wrote
  | pane header update =>
      unfold ownAfter at owned
      unfold writtenAfter at wrote
      dsimp only at owned wrote
      rw [paneStateOf] at last
      by_cases here : paneId = header.paneId
      · subst here
        rw [Function.update_self, decide_eq_true_iff] at owned
        rw [if_pos owned, Function.update_self] at wrote
        rw [if_pos rfl, Option.some_or] at last
        cases last
        cases wrote
        rfl
      · rw [Function.update_of_ne here] at owned
        rw [if_neg (Ne.symm here), Option.none_or] at last
        refine shows paneId owned state last screen ?_
        split at wrote
        · rwa [Function.update_of_ne here] at wrote
        · exact wrote

theorem linked_deliver {session : Session} (linked : Linked id session)
    (base : BaseIsServers session (.deliver : Turn id)) :
    Linked id (session.step (.deliver : Turn id)) := by
  unfold Session.step
  dsimp only
  cases next : session.pending with
  | nil => exact linked
  | cons sent pending =>
      have joined : session.delivered ++ session.pending =
          (session.delivered ++ [sent]) ++ pending := by
        rw [next, List.append_assoc, List.singleton_append]
      obtain ⟨more, connection⟩ := Option.ne_none_iff_exists'.mp linked.connected
      have received : session.phone.receive (delivery sent) =
          session.phone.handle (delivery sent) := by
        rw [Client.receive, connection]
      have queue := linked.queue
      have based := linked.based
      rw [joined] at queue based
      refine ⟨?_, queue, based, ?_, fun _ owned => own_deliver linked.own sent owned⟩
      · obtain ⟨_, continued, -⟩ := continues_handle session.phone (delivery sent)
        dsimp only
        rw [received, continued, connection]
        exact Option.some_ne_none _
      · dsimp only
        rw [received]
        refine sameGrids_deliver linked.written sent fun header delta same accepts => ?_
        subst same
        exact base (header, delta) (by rw [nextDelta, next]; rfl) accepts

theorem linked_step (session : Session) (turn : Turn id) (linked : Linked id session)
    (_ : True) (base : BaseIsServers session turn) : Linked id (session.step turn) := by
  cases turn with
  | serve step later => exact linked_serve linked step later
  | deliver => exact linked_deliver linked base
  | act event aside =>
      refine ⟨?_, linked.queue, linked.based, ?_, linked.own⟩
      · obtain ⟨more, continued, -⟩ :=
          continues_step session.phone (keepsConnection_of_aside aside)
        show (session.phone.step event).connection ≠ none
        rw [continued]
        exact fun gone => linked.connected (Option.map_eq_none_iff.mp gone)
      · show SameGrids (session.phone.step event).paneScreens _
        rw [paneScreens_aside aside]
        exact linked.written

theorem pending_of_nextDelta {session : Session} {header : PaneHeader} {delta : StateDelta}
    (here : (header, delta) ∈ nextDelta session) :
    ∃ pending, session.pending = .pane header (.patch delta) :: pending := by
  unfold nextDelta at here
  split at here
  · rename_i pending next
    cases here
    exact ⟨pending, next⟩
  · cases here

/-- The base of the next delta is the state of the last update of its pane. -/
theorem baseIsServers_iff (session : Session) (turn : Turn id) (linked : Linked id session)
    (_ : True) : BaseIsServers session turn ↔ LastUpdateIsWritten session turn := by
  cases turn with
  | serve step later => exact Iff.rfl
  | act event aside => exact Iff.rfl
  | deliver =>
      refine forall_congr' fun ⟨header, delta⟩ => forall_congr' fun here => forall_congr' fun _ => ?_
      obtain ⟨pending, next⟩ := pending_of_nextDelta here
      have last := linked.based session.delivered header delta pending (by rw [next])
      have same := linked.written header.paneId
      dsimp only
      rw [or_iff_right_of_imp (linked.own header.paneId), ShowsLastUpdate, last]
      cases held : session.phone.paneScreens header.paneId with
      | none =>
          rw [held] at same
          rw [Option.map_eq_none_iff.mp same.symm]
          simp
      | some screen =>
          rw [held] at same
          obtain ⟨shown, wrote, grid⟩ := Option.map_eq_some_iff.mp same.symm
          rw [wrote]
          simp only [Option.mem_def, Option.some.injEq, forall_eq']
          unfold SameGrid
          rw [grid]

/-- Every pane delta is applied to the state that the server made it against, exactly when each
time the last update of its pane was the last to store a screen for it, or what was stored last
shows that update all the same. -/
theorem baseIsServers_always_iff (app : BooApp) (id : ClientId) (phone : Client)
    (turns : List (Turn id)) :
    Always Session.step BaseIsServers (.start id app phone) turns ↔
      Always Session.step LastUpdateIsWritten (.start id app phone) turns :=
  always_congr linked_step baseIsServers_iff (linked_start app phone) (always_true _ _)

end Linking

section Ahead

/-- A server with one tab, which shows pane 1. -/
def oneTab : BooApp :=
  after [.command (.newTab (some (blankPane ⟨1, live_one⟩)))]
    (start plainAppearance unitFrame false true)

/-- The phone splits its tab: pane 2 is focused, and both panes are delivered. Then the user
focuses pane 1, and new states of both panes are published before the server hears of that. -/
def focusRunsAhead : List (Turn 1) :=
  [ .serve (.command (.remoteConnected 1)) (by simp),
    .serve (.command (.remoteRuntimeAction 1 none
      (.newSplit .horizontal (some (blankPane ⟨2, live_two⟩))))) (by simp),
    .deliver, .deliver, .deliver, .deliver, .deliver, .deliver, .deliver,
    .act (.focusPane 1 1) trivial,
    .serve (.output 1 (twoLines 0 65) "") (by simp),
    .serve (.output 2 (twoLines 0 66) "") (by simp),
    .serve (.poll ⟨[], none, none⟩) (by simp),
    .serve .publishDirtyTabs (by simp),
    .deliver, .deliver ]

/-- The Delta of pane 2 is mirrored into pane 1, and the next UiPaneDelta applied to it. -/
theorem focusRunsAhead_mirroredBase :
    ¬ ∀ (app : BooApp) (id : ClientId) (phone : Client) (turns : List (Turn id)),
      Always Session.step BaseIsServers (.start id app phone) turns := by
  intro all
  obtain ⟨-, -, -, -, -, -, -, -, -, -, -, -, -, -, -, base, -⟩ :=
    all oneTab 1 Client.new focusRunsAhead
  exact absurd base (by decide +kernel)

end Ahead

end Boo.Ios.PaneBase
