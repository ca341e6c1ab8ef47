/- module: Boo/Ios/ClientSteps
   digest: What each function of the iOS client changes, field by field. -/

import Boo.Ios.ProtocolClient

set_option autoImplicit false
set_option relaxedAutoImplicit false

namespace Boo.Ios.ClientSteps

open Boo.Lib.OrderedMap
open Boo.Wire.SwiftCodec
open Boo.Wire.RowRange
open Boo.Server.Frames
open Boo.Ios.ProtocolClient
open Boo.Ios.ProtocolClient.Client

section Focusing

variable (client : Client)

/-- An optimistic action is sent, and changes nothing but the runtime state. -/
def Steers (before after : Client) : Prop :=
  after = before ∨ ∃ message runtimeState,
    after = { before.sendMessage message with runtimeState := runtimeState }

theorem steers_focusPane (tabId : TabId) (paneId : PaneId) :
    Steers client (client.focusPane tabId paneId) := by
  unfold focusPane
  split
  · exact .inl rfl
  · refine .inr ⟨.focusPane client.currentViewId tabId paneId, ?_⟩
    unfold applyOptimisticFocusPane
    split
    · exact ⟨client.runtimeState, rfl⟩
    · split
      · exact ⟨_, rfl⟩
      · exact ⟨client.runtimeState, rfl⟩

theorem steers_setViewedTab (tabId : TabId) : Steers client (client.setViewedTab tabId) := by
  unfold setViewedTab
  split
  · exact .inl rfl
  · refine .inr ⟨.setViewedTab client.currentViewId tabId, ?_⟩
    unfold applyOptimisticViewedTab
    split
    · exact ⟨client.runtimeState, rfl⟩
    · split
      · exact ⟨client.runtimeState, rfl⟩
      · split
        · exact ⟨client.runtimeState, rfl⟩
        · exact ⟨_, rfl⟩

end Focusing

section Replicas

variable (client : Client)

@[simp] theorem paneReplicas_requestRows (paneId : PaneId) (epoch start stop : UInt64) :
    (client.requestRows paneId epoch start stop).paneReplicas = client.paneReplicas := by
  unfold requestRows
  dsimp only
  split
  · split <;> rfl
  · rfl

@[simp] theorem paneReplicas_requestMissingRowsIfNeeded (paneId : PaneId)
    (epoch start stop : UInt64) :
    (client.requestMissingRowsIfNeeded paneId epoch start stop).paneReplicas =
      client.paneReplicas := by
  unfold requestMissingRowsIfNeeded
  split
  · rfl
  · dsimp only
    split
    · rfl
    · exact paneReplicas_requestRows ..

@[simp] theorem paneReplicas_requestPaneFullStateRefreshIfNeeded (update : DecodedPaneUpdate) :
    (client.requestPaneFullStateRefreshIfNeeded update).paneReplicas = client.paneReplicas := by
  unfold requestPaneFullStateRefreshIfNeeded
  split
  · rfl
  · split
    · rfl
    · split <;> rfl

@[simp] theorem paneReplicas_applyReducedScreen (reduced : Option DecodedWireScreenState) :
    (client.applyReducedScreen reduced).paneReplicas = client.paneReplicas := by
  unfold applyReducedScreen
  split
  · rfl
  · unfold mirrorFocusedLegacyScreen
    split
    · rfl
    · dsimp only
      split <;> rfl

@[simp] theorem paneReplicas_acceptPaneScreen (update : DecodedPaneUpdate)
    (state : DecodedWireScreenState) :
    (client.acceptPaneScreen update state).paneReplicas =
      (client.updatePaneReplica update.paneId state).paneReplicas := by
  have stored : (client.storePaneScreen update state).paneReplicas =
      (client.updatePaneReplica update.paneId state).paneReplicas := by
    show ((client.recordPaneUpdate update).updatePaneReplica update.paneId state).paneReplicas = _
    unfold updatePaneReplica
    split <;> rfl
  unfold acceptPaneScreen
  dsimp only
  split
  · exact stored
  · exact stored

theorem paneScreens_updatePaneReplica (paneId : PaneId) (state : DecodedWireScreenState) :
    (client.updatePaneReplica paneId state).paneScreens = client.paneScreens ∧
      (client.updatePaneReplica paneId state).paneFullStateSeen = client.paneFullStateSeen := by
  unfold updatePaneReplica
  split <;> exact ⟨rfl, rfl⟩

/-- An accepted screen is stored, and later deltas may apply to it. -/
theorem paneScreens_acceptPaneScreen (update : DecodedPaneUpdate)
    (state : DecodedWireScreenState) :
    (client.acceptPaneScreen update state).paneScreens =
        Function.update client.paneScreens update.paneId (some state) ∧
      (client.acceptPaneScreen update state).paneFullStateSeen =
        Function.update client.paneFullStateSeen update.paneId true := by
  obtain ⟨screens, seen⟩ := paneScreens_updatePaneReplica (client.recordPaneUpdate update)
    update.paneId state
  have stored : (client.storePaneScreen update state).paneScreens =
        Function.update client.paneScreens update.paneId (some state) ∧
      (client.storePaneScreen update state).paneFullStateSeen =
        Function.update client.paneFullStateSeen update.paneId true :=
    ⟨by rw [storePaneScreen, setPaneScreen, screens]; rfl,
      by rw [storePaneScreen, setPaneScreen, seen]; rfl⟩
  unfold acceptPaneScreen
  dsimp only
  split
  · exact stored
  · exact stored

@[simp] theorem paneReplicas_applyPaneRows (update : DecodedPaneUpdate)
    (response : DecodedRowRangeResponse) :
    (client.applyPaneRows update response).paneReplicas =
      if client.paneUpdateTargetsCurrentView update then
        Function.update client.paneReplicas response.paneId
          (some (trimPaneReplica { client.replicaForRows response with
            rowCache := (client.replicaForRows response).rowCache.insertAll response.rows }))
      else client.paneReplicas := by
  unfold applyPaneRows
  by_cases targets : client.paneUpdateTargetsCurrentView update
  · rw [if_neg (not_not.mpr targets), if_pos targets]
    dsimp only
    split
    · split <;> rfl
    · rfl
  · rw [if_pos targets, if_neg targets]

end Replicas

/-- The cached cells of a row. -/
def cached (client : Client) (paneId : PaneId) (rowId : UInt64) : Option (List DecodedWireCell) :=
  (client.paneReplicas paneId).bind fun replica => replica.rowCache.find? rowId

/-- The rows that a screen lists for its replica. -/
def screenRows (state : DecodedWireScreenState) : List (UInt64 × List DecodedWireCell) :=
  match state.rowReplica with
  | none => []
  | some metadata => listedRows state metadata.rowIds

section Cached

variable {client : Client} {paneId other : PaneId} {rowId : UInt64} {cells : List DecodedWireCell}

theorem cached_congr {before after : Client} (same : after.paneReplicas = before.paneReplicas) :
    cached after = cached before := by
  funext paneId rowId
  rw [cached, cached, same]

/-- A replica that an update writes to starts with rows that were cached before. -/
theorem find?_replicaForState {cols : UInt16} {metadata : DecodedRowReplicaMetadata}
    (found : (client.replicaForState paneId cols metadata).rowCache.find? rowId = some cells) :
    cached client paneId rowId = some cells := by
  unfold replicaForState at found
  dsimp only at found
  split at found
  · cases found
  · cases held : client.paneReplicas paneId with
    | none =>
        rw [held] at found
        cases found
    | some replica =>
        rw [held] at found
        rw [cached, held]
        exact found

theorem find?_replicaForRows {response : DecodedRowRangeResponse}
    (found : (client.replicaForRows response).rowCache.find? rowId = some cells) :
    cached client response.paneId rowId = some cells := by
  unfold replicaForRows at found
  dsimp only at found
  split at found
  · cases found
  · cases held : client.paneReplicas response.paneId with
    | none =>
        rw [held] at found
        cases found
    | some replica =>
        rw [held] at found
        rw [cached, held]
        exact found

theorem Steers.cached {before after : Client} (steers : Steers before after) :
    ClientSteps.cached after = ClientSteps.cached before := by
  rcases steers with rfl | ⟨message, runtimeState, rfl⟩
  · rfl
  · rfl

theorem cached_setReplica (client : Client) (paneId other : PaneId) (replica : PaneReplica)
    (rowId : UInt64) :
    cached (client.setReplica paneId replica) other rowId =
      if other = paneId then replica.rowCache.find? rowId else cached client other rowId := by
  by_cases here : other = paneId
  · subst here
    simp [cached, setReplica]
  · simp [cached, setReplica, here]

theorem cached_updatePaneReplica {state : DecodedWireScreenState}
    (found : cached (client.updatePaneReplica paneId state) other rowId = some cells) :
    (other = paneId ∧ (rowId, cells) ∈ screenRows state) ∨
      cached client other rowId = some cells := by
  unfold updatePaneReplica at found
  unfold screenRows
  cases listed : state.rowReplica with
  | none =>
      rw [listed] at found
      exact .inr found
  | some metadata =>
      rw [listed] at found
      dsimp only at found
      rw [cached_setReplica] at found
      split at found
      · rename_i here
        rcases SortedMap.find?_insertAll_keepLargest found with row | old
        · exact .inl ⟨here, row⟩
        · exact .inr (here ▸ find?_replicaForState old)
      · exact .inr found

theorem cached_applyPaneRows {update : DecodedPaneUpdate} {response : DecodedRowRangeResponse}
    (found : cached (client.applyPaneRows update response) other rowId = some cells) :
    (other = response.paneId ∧ (rowId, cells) ∈ response.rows) ∨
      cached client other rowId = some cells := by
  rw [cached, paneReplicas_applyPaneRows] at found
  split at found
  · by_cases here : other = response.paneId
    · subst here
      rw [Function.update_self, Option.bind_some] at found
      rcases SortedMap.find?_insertAll_keepLargest found with row | old
      · exact .inl ⟨rfl, row⟩
      · exact .inr (find?_replicaForRows old)
    · rw [Function.update_of_ne here] at found
      exact .inr found
  · exact .inr found

theorem cached_scrollTouchHistory (client : Client) (paneId : PaneId) (rows : Rat) :
    cached (client.scrollTouchHistory paneId rows) = cached client := by
  unfold scrollTouchHistory
  split
  · rfl
  · split
    · rfl
    · rfl
    · rename_i screen replica _ held
      dsimp only
      split
      · rfl
      · have moved : cached (client.setReplica paneId { replica with
            touchScrollOffsetRows := max 0 (min (replica.liveViewportTopRowId.toNat : Rat)
              (replica.touchScrollOffsetRows + rows)) }) = cached client := by
          funext other rowId
          rw [cached_setReplica]
          split
          · rename_i here
            rw [here, cached, held, Option.bind_some]
          · rfl
        split
        · rw [cached_congr (paneReplicas_requestMissingRowsIfNeeded ..), moved]
        · exact moved

theorem cached_followLiveTail (client : Client) : cached client.followLiveTail = cached client := by
  funext paneId rowId
  simp only [cached, followLiveTail]
  cases client.paneReplicas paneId <;> rfl

end Cached

section Screen

variable (client : Client)

@[simp] theorem screen_updatePaneReplica (paneId : PaneId) (state : DecodedWireScreenState) :
    (client.updatePaneReplica paneId state).screen = client.screen := by
  unfold updatePaneReplica
  split <;> rfl

@[simp] theorem screen_storePaneScreen (update : DecodedPaneUpdate)
    (state : DecodedWireScreenState) :
    (client.storePaneScreen update state).screen = client.screen :=
  screen_updatePaneReplica (client.recordPaneUpdate update) update.paneId state

@[simp] theorem screen_requestPaneFullStateRefreshIfNeeded (update : DecodedPaneUpdate) :
    (client.requestPaneFullStateRefreshIfNeeded update).screen = client.screen := by
  unfold requestPaneFullStateRefreshIfNeeded
  split
  · rfl
  · split
    · rfl
    · split <;> rfl

@[simp] theorem screen_requestMissingRowsIfNeeded (paneId : PaneId) (epoch start stop : UInt64) :
    (client.requestMissingRowsIfNeeded paneId epoch start stop).screen = client.screen := by
  unfold requestMissingRowsIfNeeded
  split
  · rfl
  · dsimp only
    split
    · rfl
    · unfold requestRows
      dsimp only
      split
      · split <;> rfl
      · rfl

/-- A scroll redraws nothing by itself. -/
@[simp] theorem screen_scrollTouchHistory (paneId : PaneId) (rows : Rat) :
    (client.scrollTouchHistory paneId rows).screen = client.screen := by
  unfold Client.scrollTouchHistory
  split
  · rfl
  · split
    · rfl
    · rfl
    · dsimp only
      split
      · rfl
      · split
        · exact screen_requestMissingRowsIfNeeded (client.setReplica paneId _) paneId _ _ _
        · rfl

theorem Steers.screen {before after : Client} (steers : Steers before after) :
    after.screen = before.screen := by
  rcases steers with rfl | ⟨message, runtimeState, rfl⟩
  · rfl
  · rfl

@[simp] theorem screen_applyReducedScreen (decoded : DecodedWireScreenState) :
    (client.applyReducedScreen (some decoded)).screen = .ofDecoded decoded := by
  unfold applyReducedScreen mirrorFocusedLegacyScreen
  dsimp only
  split
  · rfl
  · split <;> rfl

end Screen

section Stored

variable (client : Client)

@[simp] theorem paneScreens_requestPaneFullStateRefreshIfNeeded (update : DecodedPaneUpdate) :
    (client.requestPaneFullStateRefreshIfNeeded update).paneScreens = client.paneScreens := by
  unfold requestPaneFullStateRefreshIfNeeded
  split
  · rfl
  · split
    · rfl
    · split <;> rfl

@[simp] theorem paneScreens_requestMissingRowsIfNeeded (paneId : PaneId)
    (epoch start stop : UInt64) :
    (client.requestMissingRowsIfNeeded paneId epoch start stop).paneScreens =
      client.paneScreens := by
  unfold requestMissingRowsIfNeeded
  split
  · rfl
  · dsimp only
    split
    · rfl
    · unfold requestRows
      dsimp only
      split
      · split <;> rfl
      · rfl

@[simp] theorem paneScreens_scrollTouchHistory (paneId : PaneId) (rows : Rat) :
    (client.scrollTouchHistory paneId rows).paneScreens = client.paneScreens := by
  unfold Client.scrollTouchHistory
  split
  · rfl
  · split
    · rfl
    · rfl
    · dsimp only
      split
      · rfl
      · split
        · exact paneScreens_requestMissingRowsIfNeeded (client.setReplica paneId _) paneId _ _ _
        · rfl

/-- Rows go to the replica of a pane, never to its screen. -/
@[simp] theorem paneScreens_applyPaneRows (update : DecodedPaneUpdate)
    (response : DecodedRowRangeResponse) :
    (client.applyPaneRows update response).paneScreens = client.paneScreens := by
  unfold applyPaneRows
  split
  · rfl
  · dsimp only
    split
    · split <;> rfl
    · rfl

/-- A legacy screen becomes the screen of the pane that the client takes for the focused one. -/
theorem paneScreens_applyReducedScreen (decoded : DecodedWireScreenState) :
    (client.applyReducedScreen (some decoded)).paneScreens =
      match client.runtimeState with
      | none => client.paneScreens
      | some state =>
          if state.focusedPane ∈ state.visiblePaneIds then
            Function.update client.paneScreens state.focusedPane (some decoded)
          else client.paneScreens := by
  unfold applyReducedScreen mirrorFocusedLegacyScreen applyDecodedScreen
  dsimp only
  cases client.runtimeState with
  | none => rfl
  | some state =>
      dsimp only
      split <;> rfl

end Stored

/-- Two states of one connection: messages were sent, and every row request that was recorded
is among them. -/
def Continues (before after : Client) : Prop :=
  ∃ more, after.connection = before.connection.map (· ++ more) ∧
    ∀ request ∈ after.rowRangeRequestsInFlight,
      request ∈ before.rowRangeRequestsInFlight ∨ .rowRangeRequest request ∈ more

namespace Continues

theorem of_subset {before after : Client} (connection : after.connection = before.connection)
    (inFlight : ∀ request ∈ after.rowRangeRequestsInFlight,
      request ∈ before.rowRangeRequestsInFlight) : Continues before after :=
  ⟨[], by simp [connection], fun request member => .inl (inFlight request member)⟩

theorem of_same {before after : Client} (connection : after.connection = before.connection)
    (inFlight : after.rowRangeRequestsInFlight = before.rowRangeRequestsInFlight) :
    Continues before after :=
  of_subset connection fun _ member => inFlight ▸ member

theorem refl (client : Client) : Continues client client := of_same rfl rfl

theorem trans {before mid after : Client} (first : Continues before mid)
    (next : Continues mid after) : Continues before after := by
  obtain ⟨sent, connection, recorded⟩ := first
  obtain ⟨more, connection', recorded'⟩ := next
  refine ⟨sent ++ more, ?_, fun request member => ?_⟩
  · rw [connection', connection, Option.map_map]
    simp [Function.comp_def]
  · rcases recorded' request member with old | new
    · exact (recorded request old).imp id (List.mem_append_left _)
    · exact .inr (List.mem_append_right _ new)

theorem send {before client : Client} (message : Outbound) (first : Continues before client) :
    Continues before (client.sendMessage message) :=
  first.trans ⟨[message], rfl, fun _ member => .inl member⟩

end Continues

section Continuing

variable (client : Client)

theorem continues_requestPaneFullStateRefreshIfNeeded (update : DecodedPaneUpdate) :
    Continues client (client.requestPaneFullStateRefreshIfNeeded update) := by
  unfold requestPaneFullStateRefreshIfNeeded
  split
  · exact .refl client
  · split
    · exact .refl client
    · split
      · exact .refl client
      · exact Continues.send _ (.of_same rfl rfl)

theorem continues_updatePaneReplica (paneId : PaneId) (state : DecodedWireScreenState) :
    Continues client (client.updatePaneReplica paneId state) := by
  unfold updatePaneReplica
  split
  · exact .refl client
  · exact .of_same rfl rfl

theorem continues_acceptPaneScreen (update : DecodedPaneUpdate)
    (state : DecodedWireScreenState) : Continues client (client.acceptPaneScreen update state) := by
  have recorded : Continues client (client.recordPaneUpdate update) := .of_same rfl rfl
  have replica := continues_updatePaneReplica (client.recordPaneUpdate update) update.paneId state
  have stored : Continues client (client.storePaneScreen update state) :=
    (recorded.trans replica).trans (.of_same rfl rfl)
  unfold acceptPaneScreen
  dsimp only
  split
  · exact Continues.send _ (stored.trans (Continues.of_same rfl rfl))
  · exact stored

theorem continues_applyReducedScreen (reduced : Option DecodedWireScreenState) :
    Continues client (client.applyReducedScreen reduced) := by
  unfold applyReducedScreen
  split
  · exact .refl client
  · unfold mirrorFocusedLegacyScreen
    split
    · exact .of_same rfl rfl
    · dsimp only
      split
      · exact .of_same rfl rfl
      · exact .of_same rfl rfl

theorem inFlight_applyPaneRows (update : DecodedPaneUpdate) (response : DecodedRowRangeResponse) :
    (client.applyPaneRows update response).connection = client.connection ∧
    (client.applyPaneRows update response).rowRangeRequestsInFlight =
      if client.paneUpdateTargetsCurrentView update then
        client.rowRangeRequestsInFlight.filter fun key =>
          ¬ (key.paneId = response.paneId ∧ key.epoch = response.epoch)
      else client.rowRangeRequestsInFlight := by
  unfold applyPaneRows
  by_cases targets : client.paneUpdateTargetsCurrentView update
  · rw [if_neg (not_not.mpr targets), if_pos targets]
    dsimp only
    split
    · split
      · exact ⟨rfl, rfl⟩
      · exact ⟨rfl, rfl⟩
    · exact ⟨rfl, rfl⟩
  · rw [if_pos targets, if_neg targets]
    exact ⟨rfl, rfl⟩

theorem continues_handle (message : Inbound) : Continues client (client.handle message) := by
  cases message with
  | uiRuntimeState state => exact .of_same rfl rfl
  | fullState payload => exact continues_applyReducedScreen client _
  | delta payload => exact continues_applyReducedScreen client _
  | uiPaneFullState payload =>
      unfold Client.handle
      dsimp only
      split
      · unfold applyPaneFullState
        split
        · exact .refl client
        · split
          · exact .refl client
          · exact continues_acceptPaneScreen client _ _
      · exact .refl client
  | uiPaneDelta payload =>
      unfold Client.handle
      dsimp only
      split
      · unfold Client.applyPaneDelta
        split
        · exact .refl client
        · split
          · exact .refl client
          · split
            · split
              · exact continues_acceptPaneScreen client _ _
              · exact continues_requestPaneFullStateRefreshIfNeeded client _
            · exact continues_requestPaneFullStateRefreshIfNeeded client _
      · exact .refl client
  | uiPaneRows payload =>
      unfold Client.handle
      dsimp only
      split
      · rename_i update response _
        obtain ⟨connection, inFlight⟩ := inFlight_applyPaneRows client update response
        refine .of_subset connection fun request member => ?_
        rw [inFlight] at member
        split at member
        · exact List.mem_of_mem_filter member
        · exact member
      · exact .refl client

theorem continues_receive (message : Inbound) : Continues client (client.receive message) := by
  unfold Client.receive
  split
  · exact .refl client
  · exact continues_handle client message

theorem Steers.continues {before after : Client} (steers : Steers before after) :
    Continues before after := by
  rcases steers with rfl | ⟨message, runtimeState, rfl⟩
  · exact .refl _
  · exact (Continues.send message (.refl before)).trans (.of_same rfl rfl)

theorem continues_requestRows (paneId : PaneId) (epoch start stop : UInt64) :
    Continues client (client.requestRows paneId epoch start stop) := by
  unfold requestRows
  split
  · dsimp only
    split
    · exact .refl client
    · refine ⟨[.rowRangeRequest ⟨paneId, epoch, start, stop⟩], rfl, fun request member => ?_⟩
      rcases List.mem_append.mp member with old | new
      · exact .inl old
      · exact .inr (List.mem_singleton.mp new ▸ List.mem_singleton_self _)
  · exact .refl client

theorem continues_requestMissingRowsIfNeeded (paneId : PaneId) (epoch start stop : UInt64) :
    Continues client (client.requestMissingRowsIfNeeded paneId epoch start stop) := by
  unfold requestMissingRowsIfNeeded
  split
  · exact .refl client
  · dsimp only
    split
    · exact .refl client
    · exact continues_requestRows client paneId epoch _ _

theorem continues_scrollTouchHistory (paneId : PaneId) (rows : Rat) :
    Continues client (client.scrollTouchHistory paneId rows) := by
  unfold Client.scrollTouchHistory
  split
  · exact .refl client
  · split
    · exact .refl client
    · exact .send _ (.refl client)
    · dsimp only
      split
      · exact .send _ (.refl client)
      · split
        · exact (Continues.of_same rfl rfl).trans
            (continues_requestMissingRowsIfNeeded (client.setReplica paneId _) paneId _ _ _)
        · exact .of_same rfl rfl

end Continuing

/-- The events that leave the connection as it is. -/
def KeepsConnection : Event → Prop
  | .connect => False
  | .disconnect => False
  | .protocolError => False
  | _ => True

theorem continues_step (client : Client) {event : Event} (keeps : KeepsConnection event) :
    Continues client (client.step event) := by
  cases event with
  | connect => exact keeps.elim
  | disconnect => exact keeps.elim
  | protocolError => exact keeps.elim
  | receive message => exact continues_receive client message
  | scrollTouchHistory paneId rows => exact continues_scrollTouchHistory client paneId rows
  | followLiveTail => exact .of_same rfl rfl
  | focusPane tabId paneId => exact (steers_focusPane client tabId paneId).continues
  | setViewedTab tabId => exact (steers_setViewedTab client tabId).continues

theorem Steers.unrecorded {before after : Client} (steers : Steers before after) :
    after.paneScreens = before.paneScreens ∧
      after.rowRangeRequestsInFlight = before.rowRangeRequestsInFlight := by
  rcases steers with rfl | ⟨message, runtimeState, rfl⟩
  · exact ⟨rfl, rfl⟩
  · exact ⟨rfl, rfl⟩

/-- A client without a connection and without screens has nothing to scroll. -/
theorem step_unconnected {client : Client} {event : Event} (keeps : KeepsConnection event)
    (connection : client.connection = none) (screens : ∀ paneId, client.paneScreens paneId = none) :
    (client.step event).connection = none ∧
      (client.step event).paneScreens = client.paneScreens ∧
      (client.step event).rowRangeRequestsInFlight = client.rowRangeRequestsInFlight := by
  obtain ⟨more, continued, -⟩ := continues_step client keeps
  refine ⟨by rw [continued, connection]; rfl, ?_⟩
  cases event with
  | connect => exact keeps.elim
  | disconnect => exact keeps.elim
  | protocolError => exact keeps.elim
  | receive message =>
      have ignored : client.receive message = client := by
        rw [Client.receive, connection]
      exact ⟨by rw [Client.step, ignored], by rw [Client.step, ignored]⟩
  | scrollTouchHistory paneId rows =>
      have still : client.scrollTouchHistory paneId rows = client := by
        rw [Client.scrollTouchHistory, screens paneId]
        exact ite_self _
      exact ⟨by rw [Client.step, still], by rw [Client.step, still]⟩
  | followLiveTail => exact ⟨rfl, rfl⟩
  | focusPane tabId paneId => exact (steers_focusPane client tabId paneId).unrecorded
  | setViewedTab tabId => exact (steers_setViewedTab client tabId).unrecorded

end Boo.Ios.ClientSteps
