/- module: Boo/Ios/History
   digest: The cached rows of the iOS client against the rows of the present connection. -/

import Boo.Ios.ClientSteps
import Boo.Ios.Deliveries
import Boo.Lib.Runs

set_option autoImplicit false
set_option relaxedAutoImplicit false

namespace Boo.Ios.History

open Boo.Lib.OrderedMap
open Boo.Lib.Runs
open Boo.Wire.Message
open Boo.Wire.SwiftCodec
open Boo.Wire.SwiftDelta
open Boo.Wire.RowRange
open Boo.Server.Frames
open Boo.Ios.ProtocolClient
open Boo.Ios.ClientSteps
open Boo.Ios.Deliveries

/-- A row of a pane's history. -/
abbrev HistoryRow := PaneId × UInt64 × List DecodedWireCell

def ofPane (paneId : PaneId) (rows : List (UInt64 × List DecodedWireCell)) : List HistoryRow :=
  rows.map fun row => (paneId, row)

/-- The rows that a message brings, those of a delta on the screen it is applied to. -/
def rowsOf (client : Client) : Inbound → List HistoryRow
  | .uiPaneFullState payload =>
      match decodePaneFullState payload with
      | some (update, state) => ofPane update.paneId (screenRows state)
      | none => []
  | .uiPaneDelta payload =>
      match decodePaneDelta payload with
      | some (update, deltaPayload) =>
          match client.paneScreens update.paneId with
          | some base =>
              ofPane update.paneId (screenRows (applyPaneDelta deltaPayload base).2)
          | none => []
      | none => []
  | .uiPaneRows payload =>
      match decodePaneRows payload with
      | some (_, response) => ofPane response.paneId response.rows
      | none => []
  | _ => []

/-- The client, with the rows it has received since the connection last changed. -/
structure Session where
  client : Client
  received : List HistoryRow

def Session.start : Session := ⟨Client.new, []⟩

def Session.step (session : Session) (event : Event) : Session where
  client := session.client.step event
  received :=
    match event with
    | .connect => []
    | .disconnect => []
    | .protocolError => []
    | .receive message =>
        match session.client.connection with
        | none => session.received
        | some _ => session.received ++ rowsOf session.client message
    | _ => session.received

/-- A scrolled pane shows the rows `row rowId`, one after another. -/
def ShowsRows (displayed : DecodedWireScreenState) (row : UInt64 → List DecodedWireCell) : Prop :=
  ∃ rowIds : List UInt64, displayed.cells = rowIds.flatMap row

/-- All history is of the present connection, in the cache and on the screen. -/
structure OnlyReceived (session : Session) : Prop where
  cached : ∀ paneId rowId cells, cached session.client paneId rowId = some cells →
    (paneId, rowId, cells) ∈ session.received
  displayed : ∀ paneId displayed, session.client.displayedPaneScreen paneId = some displayed →
    session.client.paneScreens paneId = some displayed ∨
      ∃ row, ShowsRows displayed row ∧ ∀ rowId,
        row rowId = List.replicate displayed.cols.toNat {} ∨
          ∃ cells, (paneId, rowId, cells) ∈ session.received ∧
            row rowId = cells.take displayed.cols.toNat

/-- What the cache holds decides what is displayed. -/
theorem onlyReceived_iff {session : Session} :
    OnlyReceived session ↔ ∀ paneId rowId cells, ClientSteps.cached session.client paneId rowId =
      some cells → (paneId, rowId, cells) ∈ session.received := by
  refine ⟨OnlyReceived.cached, fun cachedRows => ⟨cachedRows, fun paneId displayed shown => ?_⟩⟩
  unfold Client.displayedPaneScreen at shown
  split at shown
  · rename_i replica live held present
    split at shown
    · dsimp only at shown
      split at shown
      · exact .inl (present.trans shown)
      · cases shown
        refine .inr ⟨historyRow replica.rowCache live.cols.toNat, ⟨_, rfl⟩, fun rowId => ?_⟩
        unfold historyRow
        cases found : replica.rowCache.find? rowId with
        | none => exact .inl rfl
        | some cells =>
            have row : ClientSteps.cached session.client paneId rowId = some cells := by
              rw [ClientSteps.cached, held]
              exact found
            dsimp only
            split
            · exact .inr ⟨cells, cachedRows paneId rowId cells row, rfl⟩
            · exact .inl rfl
    · exact .inl (present.trans shown)
  · exact .inl shown

theorem mem_ofPane {paneId : PaneId} {rows : List (UInt64 × List DecodedWireCell)}
    {rowId : UInt64} {cells : List DecodedWireCell} (member : (rowId, cells) ∈ rows) :
    (paneId, rowId, cells) ∈ ofPane paneId rows :=
  List.mem_map.mpr ⟨(rowId, cells), member, rfl⟩

section Rows

variable {client : Client} {paneId : PaneId} {rowId : UInt64} {cells : List DecodedWireCell}

/-- Every row that handling a message adds to a cache is a row of the message. -/
theorem cached_handle {message : Inbound}
    (found : cached (client.handle message) paneId rowId = some cells) :
    (paneId, rowId, cells) ∈ rowsOf client message ∨ cached client paneId rowId = some cells := by
  cases message with
  | uiRuntimeState state =>
      right
      simp only [cached, Client.handle, Client.applyRuntimeState, visibleOnly] at found ⊢
      split at found
      · exact found
      · cases found
  | fullState payload =>
      rw [Client.handle, cached_congr (paneReplicas_applyReducedScreen ..)] at found
      exact .inr found
  | delta payload =>
      rw [Client.handle, cached_congr (paneReplicas_applyReducedScreen ..)] at found
      exact .inr found
  | uiPaneFullState payload =>
      unfold Client.handle at found
      unfold rowsOf
      dsimp only at found ⊢
      cases decoded : decodePaneFullState payload with
      | none =>
          rw [decoded] at found
          exact .inr found
      | some content =>
          obtain ⟨update, state⟩ := content
          rw [decoded] at found
          dsimp only at found ⊢
          unfold Client.applyPaneFullState at found
          split at found
          · exact .inr found
          · split at found
            · exact .inr found
            · rw [cached_congr (paneReplicas_acceptPaneScreen ..)] at found
              rcases cached_updatePaneReplica found with ⟨rfl, row⟩ | old
              · exact .inl (mem_ofPane row)
              · exact .inr old
  | uiPaneDelta payload =>
      unfold Client.handle at found
      unfold rowsOf
      dsimp only at found ⊢
      cases decoded : decodePaneDelta payload with
      | none =>
          rw [decoded] at found
          exact .inr found
      | some content =>
          obtain ⟨update, deltaPayload⟩ := content
          rw [decoded] at found
          dsimp only at found ⊢
          unfold Client.applyPaneDelta at found
          split at found
          · exact .inr found
          · split at found
            · exact .inr found
            · cases held : client.paneScreens update.paneId with
              | none =>
                  rw [held] at found
                  have same := cached_congr
                    (paneReplicas_requestPaneFullStateRefreshIfNeeded client update)
                  split at found
                  · rename_i absent
                    cases absent
                  · rw [same] at found
                    exact .inr found
              | some base =>
                  rw [held] at found
                  split at found
                  · rename_i same
                    cases same
                    split at found
                    · rename_i state applied
                      dsimp only
                      rw [cached_congr (paneReplicas_acceptPaneScreen ..)] at found
                      rcases cached_updatePaneReplica found with ⟨rfl, row⟩ | old
                      · refine .inl (mem_ofPane ?_)
                        rw [applied]
                        exact row
                      · exact .inr old
                    · rw [cached_congr
                        (paneReplicas_requestPaneFullStateRefreshIfNeeded ..)] at found
                      exact .inr found
                  · rw [cached_congr
                      (paneReplicas_requestPaneFullStateRefreshIfNeeded ..)] at found
                    exact .inr found
  | uiPaneRows payload =>
      unfold Client.handle at found
      unfold rowsOf
      dsimp only at found ⊢
      cases decoded : decodePaneRows payload with
      | none =>
          rw [decoded] at found
          exact .inr found
      | some content =>
          obtain ⟨update, response⟩ := content
          rw [decoded] at found
          rcases cached_applyPaneRows found with ⟨rfl, row⟩ | old
          · exact .inl (mem_ofPane row)
          · exact .inr old

end Rows

/-- No replica of any pane holds a row. -/
def NoHistory (client : Client) : Prop := ∀ paneId rowId, cached client paneId rowId = none

/-- The connection is lost, or a new one attempted, only with empty row caches; an explicit
disconnection clears them itself. -/
def ChangesWithoutHistory (session : Session) : Event → Prop
  | .connect => NoHistory session.client
  | .protocolError => NoHistory session.client
  | _ => True

theorem onlyReceived_step_iff (session : Session) (event : Event) (only : OnlyReceived session) :
    OnlyReceived (session.step event) ↔ ChangesWithoutHistory session event := by
  rw [onlyReceived_iff] at only ⊢
  have same : ∀ {after : Session}, cached after.client = cached session.client →
      after.received = session.received →
      ∀ paneId rowId cells, cached after.client paneId rowId = some cells →
        (paneId, rowId, cells) ∈ after.received := by
    intro after rows received paneId rowId cells found
    rw [received]
    exact only paneId rowId cells (rows ▸ found)
  -- a changed connection has received nothing yet
  have emptied : ∀ {after : Session}, cached after.client = cached session.client →
      after.received = [] →
      ((∀ paneId rowId cells, cached after.client paneId rowId = some cells →
        (paneId, rowId, cells) ∈ after.received) ↔ NoHistory session.client) := by
    intro after rows received
    constructor
    · intro all paneId rowId
      cases found : cached session.client paneId rowId with
      | none => rfl
      | some cells =>
          have member := all paneId rowId cells (rows ▸ found)
          rw [received] at member
          cases member
    · intro none_ paneId rowId cells found
      rw [rows, none_ paneId rowId] at found
      cases found
  cases event with
  | connect => exact emptied rfl rfl
  | protocolError => exact emptied rfl rfl
  | disconnect =>
      exact ⟨fun _ => trivial, fun _ paneId rowId cells found => by cases found⟩
  | receive message =>
      refine ⟨fun _ => trivial, fun _ paneId rowId cells found => ?_⟩
      cases connection : session.client.connection with
      | none =>
          simp only [Session.step, Client.step, Client.receive, connection] at found ⊢
          exact only paneId rowId cells found
      | some sent =>
          simp only [Session.step, Client.step, Client.receive, connection] at found ⊢
          rw [List.mem_append]
          rcases cached_handle found with row | old
          · exact .inr row
          · exact .inl (only paneId rowId cells old)
  | scrollTouchHistory paneId rows =>
      exact ⟨fun _ => trivial, fun _ => same (cached_scrollTouchHistory ..) rfl⟩
  | followLiveTail => exact ⟨fun _ => trivial, fun _ => same (cached_followLiveTail _) rfl⟩
  | focusPane tabId paneId =>
      exact ⟨fun _ => trivial, fun _ => same (steers_focusPane session.client tabId paneId).cached rfl⟩
  | setViewedTab tabId =>
      exact ⟨fun _ => trivial, fun _ => same (steers_setViewedTab session.client tabId).cached rfl⟩

/-- A screen that a pane shows before the server restarts. -/
def screenOfAs : Grid :=
  smallScreen 65 65 65 65

end Boo.Ios.History
