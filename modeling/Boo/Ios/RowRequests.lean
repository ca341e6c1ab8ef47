/- module: Boo/Ios/RowRequests
   digest: The row-range requests in flight against those the server may still answer. -/

import Boo.Ios.ClientSteps
import Boo.Ios.Deliveries
import Boo.Lib.Runs

set_option autoImplicit false
set_option relaxedAutoImplicit false

namespace Boo.Ios.RowRequests

open Boo.Lib.Runs
open Boo.Wire.Message
open Boo.Wire.SwiftCodec
open Boo.Wire.RowRange
open Boo.Server.Frames
open Boo.Ios.ProtocolClient
open Boo.Ios.ClientSteps
open Boo.Ios.Deliveries

def requestOf : Outbound → Option RemoteRowRangeRequest
  | .rowRangeRequest request => some request
  | _ => none

/-- The row-range requests sent on the open connection. -/
def requestsSent (client : Client) : List RemoteRowRangeRequest :=
  (client.connection.getD []).filterMap requestOf

/-- The client, with the requests of its connection that are neither answered nor dropped. -/
structure Session where
  client : Client
  outstanding : List RemoteRowRangeRequest

/-- `reply` answers an outstanding request with any payload, `drop` is the server's silence. -/
inductive SessionEvent
  | act (event : Event)
  | reply (request : RemoteRowRangeRequest) (payload : List UInt8)
  | drop (request : RemoteRowRangeRequest)
  deriving DecidableEq

def Session.start : Session := ⟨Client.new, []⟩

/-- A request of a connection that is gone can no longer be answered. -/
def outstandingAfter (session : Session) (event : Event) : List RemoteRowRangeRequest :=
  match event with
  | .connect => []
  | .disconnect => []
  | .protocolError => []
  | _ => session.outstanding ++
      (requestsSent (session.client.step event)).drop (requestsSent session.client).length

def Session.step (session : Session) : SessionEvent → Session
  | .act event => ⟨session.client.step event, outstandingAfter session event⟩
  | .reply request payload =>
      if request ∈ session.outstanding then
        ⟨session.client.step (.receive (.uiPaneRows payload)), session.outstanding.erase request⟩
      else session
  | .drop request => ⟨session.client, session.outstanding.erase request⟩

/-- Every key in flight is that of a request that may still be answered. -/
def OnlyOutstanding (session : Session) : Prop :=
  ∀ request ∈ session.client.rowRangeRequestsInFlight, request ∈ session.outstanding

/-- Without a connection there is nothing to scroll, and nothing outstanding. -/
structure Linked (session : Session) : Prop where
  screens : session.client.connection = none → ∀ paneId, session.client.paneScreens paneId = none
  outstanding : session.client.connection = none → session.outstanding = []

/-- The reply decodes, is of the view, and has the pane and the epoch of the request. -/
def Frees (client : Client) (request : RemoteRowRangeRequest) (payload : List UInt8) : Prop :=
  ∃ update response, decodePaneRows payload = some (update, response) ∧
    client.paneUpdateTargetsCurrentView update ∧
    request.paneId = response.paneId ∧ request.epoch = response.epoch

/-- A connection is lost, or a new one attempted, only with no key in flight; a request of a
key in flight is dropped, or answered with a reply that does not free it, only if the same
request is outstanding once more. -/
def StrandsNoKey (session : Session) : SessionEvent → Prop
  | .act .connect => session.client.rowRangeRequestsInFlight = []
  | .act .protocolError => session.client.rowRangeRequestsInFlight = []
  | .act _ => True
  | .reply request payload =>
      request ∈ session.outstanding → request ∈ session.client.rowRangeRequestsInFlight →
        request ∈ session.outstanding.erase request ∨ Frees session.client request payload
  | .drop request =>
      request ∈ session.client.rowRangeRequestsInFlight →
        request ∈ session.outstanding.erase request

theorem requestsSent_continues {before after : Client} {sent : List Outbound}
    (connected : before.connection = some sent) (continues : Continues before after) :
    ∀ request ∈ after.rowRangeRequestsInFlight, request ∈ before.rowRangeRequestsInFlight ∨
      request ∈ (requestsSent after).drop (requestsSent before).length := by
  obtain ⟨more, connection, recorded⟩ := continues
  intro request member
  refine (recorded request member).imp id fun new => ?_
  have grown : requestsSent after = requestsSent before ++ more.filterMap requestOf := by
    rw [requestsSent, requestsSent, connection, connected, Option.map_some, Option.getD_some,
      Option.getD_some, List.filterMap_append]
  rw [grown, List.drop_left]
  exact List.mem_filterMap.mpr ⟨_, new, rfl⟩

theorem outstandingAfter_keeps {session : Session} {event : Event} (keeps : KeepsConnection event) :
    outstandingAfter session event = session.outstanding ++
      (requestsSent (session.client.step event)).drop (requestsSent session.client).length := by
  cases event with
  | connect => exact keeps.elim
  | disconnect => exact keeps.elim
  | protocolError => exact keeps.elim
  | _ => rfl

theorem isSome_connection_step {client : Client} {event : Event} (keeps : KeepsConnection event) :
    (client.step event).connection = none ↔ client.connection = none := by
  obtain ⟨more, connection, -⟩ := continues_step client keeps
  rw [connection, Option.map_eq_none_iff]

theorem linked_act {session : Session} {event : Event} (linked : Linked session)
    (keeps : KeepsConnection event) : Linked (session.step (.act event)) where
  screens := by
    intro connection paneId
    have before := (isSome_connection_step keeps).mp connection
    have unchanged := (step_unconnected keeps before (linked.screens before)).2.1
    show (session.client.step event).paneScreens paneId = none
    rw [unchanged]
    exact linked.screens before paneId
  outstanding := by
    intro connection
    have before := (isSome_connection_step keeps).mp connection
    have after : (session.client.step event).connection = none := connection
    show outstandingAfter session event = []
    have unsent : requestsSent (session.client.step event) = [] := by
      rw [requestsSent, after]
      rfl
    rw [outstandingAfter_keeps keeps, linked.outstanding before, unsent]
    exact List.drop_nil

theorem step_reply {session : Session} {request : RemoteRowRangeRequest} {payload : List UInt8}
    (waiting : request ∈ session.outstanding) :
    session.step (.reply request payload) =
      ⟨session.client.step (.receive (.uiPaneRows payload)), session.outstanding.erase request⟩ :=
  if_pos waiting

theorem step_unawaited {session : Session} {request : RemoteRowRangeRequest}
    {payload : List UInt8} (unawaited : request ∉ session.outstanding) :
    session.step (.reply request payload) = session :=
  if_neg unawaited

theorem linked_step (session : Session) (event : SessionEvent) (linked : Linked session) :
    Linked (session.step event) := by
  cases event with
  | act event =>
      cases event with
      | connect => exact ⟨fun gone => (by cases gone), fun gone => (by cases gone)⟩
      | disconnect => exact ⟨fun _ _ => rfl, fun _ => rfl⟩
      | protocolError => exact ⟨fun _ _ => rfl, fun _ => rfl⟩
      | receive message => exact linked_act linked trivial
      | scrollTouchHistory paneId rows => exact linked_act linked trivial
      | followLiveTail => exact linked_act linked trivial
      | focusPane tabId paneId => exact linked_act linked trivial
      | setViewedTab tabId => exact linked_act linked trivial
  | drop request =>
      refine ⟨linked.screens, fun connection => ?_⟩
      show session.outstanding.erase request = []
      rw [linked.outstanding connection]
      rfl
  | reply request payload =>
      by_cases waiting : request ∈ session.outstanding
      · have connected : session.client.connection ≠ none := by
          intro gone
          rw [linked.outstanding gone] at waiting
          cases waiting
        have keeps : KeepsConnection (.receive (.uiPaneRows payload)) := trivial
        have still : (session.client.step (.receive (.uiPaneRows payload))).connection ≠ none :=
          fun gone => connected ((isSome_connection_step keeps).mp gone)
        rw [step_reply waiting]
        exact ⟨fun gone => absurd gone still, fun gone => absurd gone still⟩
      · rw [step_unawaited waiting]
        exact linked

/-- A reply clears exactly the keys it frees. -/
theorem inFlight_reply {client : Client} {sent : List Outbound}
    (connected : client.connection = some sent) (payload : List UInt8)
    (request : RemoteRowRangeRequest) :
    request ∈ (client.step (.receive (.uiPaneRows payload))).rowRangeRequestsInFlight ↔
      request ∈ client.rowRangeRequestsInFlight ∧ ¬ Frees client request payload := by
  simp only [Client.step, Client.receive, connected, Client.handle]
  cases decoded : decodePaneRows payload with
  | none =>
      refine ⟨fun member => ⟨member, ?_⟩, And.left⟩
      rintro ⟨update, response, same, -⟩
      rw [decoded] at same
      cases same
  | some pair =>
      obtain ⟨update, response⟩ := pair
      dsimp only
      rw [(inFlight_applyPaneRows client update response).2]
      have frees : Frees client request payload ↔ client.paneUpdateTargetsCurrentView update ∧
          request.paneId = response.paneId ∧ request.epoch = response.epoch := by
        constructor
        · rintro ⟨_, _, same, rest⟩
          rw [decoded] at same
          cases same
          exact rest
        · exact fun rest => ⟨update, response, decoded, rest⟩
      rw [frees]
      by_cases targets : client.paneUpdateTargetsCurrentView update
      · rw [if_pos targets, List.mem_filter, decide_eq_true_iff]
        simp [targets]
      · rw [if_neg targets]
        simp [targets]

theorem onlyOutstanding_act {session : Session} {event : Event} (linked : Linked session)
    (only : OnlyOutstanding session) (keeps : KeepsConnection event) :
    OnlyOutstanding (session.step (.act event)) := by
  intro request member
  show request ∈ outstandingAfter session event
  rw [outstandingAfter_keeps keeps, List.mem_append]
  cases connection : session.client.connection with
  | none =>
      have unchanged := (step_unconnected keeps connection (linked.screens connection)).2.2
      exact .inl (only request (unchanged ▸ member))
  | some sent =>
      rcases requestsSent_continues connection (continues_step _ keeps) request member with old | new
      · exact .inl (only request old)
      · exact .inr new

theorem mem_erase_of_ne_or {request other : RemoteRowRangeRequest}
    {outstanding : List RemoteRowRangeRequest} (member : other ∈ outstanding)
    (again : other = request → request ∈ outstanding.erase request) :
    other ∈ outstanding.erase request := by
  by_cases same : other = request
  · exact same ▸ again same
  · exact (List.mem_erase_of_ne same).mpr member

theorem onlyOutstanding_step_iff (session : Session) (event : SessionEvent) (linked : Linked session)
    (only : OnlyOutstanding session) :
    OnlyOutstanding (session.step event) ↔ StrandsNoKey session event := by
  have kept : ∀ {event : Event}, KeepsConnection event →
      (OnlyOutstanding (session.step (.act event)) ↔ True) := fun keeps => ⟨fun _ => trivial, fun _ => onlyOutstanding_act linked only keeps⟩
  -- a changed connection has no request that could still be answered
  have cleared : ∀ {after : Session}, after.outstanding = [] →
      (OnlyOutstanding after ↔ after.client.rowRangeRequestsInFlight = []) := by
    intro after nothing
    rw [OnlyOutstanding, nothing, List.eq_nil_iff_forall_not_mem]
    exact forall_congr' fun request => by simp
  cases event with
  | act event =>
      cases event with
      | connect => exact cleared rfl
      | protocolError => exact cleared rfl
      | disconnect => exact ⟨fun _ => trivial, fun _ request member => by cases member⟩
      | receive message => exact kept trivial
      | scrollTouchHistory paneId rows => exact kept trivial
      | followLiveTail => exact kept trivial
      | focusPane tabId paneId => exact kept trivial
      | setViewedTab tabId => exact kept trivial
  | drop request =>
      constructor
      · exact fun after member => after request member
      · exact fun again other member =>
          mem_erase_of_ne_or (only other member) fun same => again (same ▸ member)
  | reply request payload =>
      by_cases waiting : request ∈ session.outstanding
      · have connected : ∃ sent, session.client.connection = some sent := by
          cases connection : session.client.connection with
          | none =>
              rw [linked.outstanding connection] at waiting
              cases waiting
          | some sent => exact ⟨sent, rfl⟩
        obtain ⟨sent, connected⟩ := connected
        rw [step_reply waiting]
        constructor
        · intro after _ member
          by_cases frees : Frees session.client request payload
          · exact .inr frees
          · exact .inl (after request ((inFlight_reply connected payload request).mpr ⟨member, frees⟩))
        · intro again other member
          obtain ⟨held, stuck⟩ := (inFlight_reply connected payload other).mp member
          refine mem_erase_of_ne_or (only other held) fun same => ?_
          subst same
          exact (again waiting held).resolve_right stuck
      · rw [step_unawaited waiting]
        exact ⟨fun _ member => absurd member waiting, fun _ => only⟩

/-- In every state of a run all keys in flight are of outstanding requests, exactly when no
step of the run strands a key. -/
theorem onlyOutstanding_throughout_iff (events : List SessionEvent) :
    Throughout Session.step OnlyOutstanding Session.start events ↔
      Always Session.step StrandsNoKey Session.start events := by
  refine throughout_iff linked_step onlyOutstanding_step_iff ?_ ?_
  · exact ⟨fun _ _ => rfl, fun _ => rfl⟩
  · intro request member
    cases member

/-- A screen with five rows above it. -/
def belowHistory : Grid :=
  ⟨{ smallGrid [plainCell 65, plainCell 65, plainCell 65, plainCell 65] with viewportTop := 5 },
    show 0 < (2 : UInt16).toNat by decide, show 0 < (2 : UInt16).toNat by decide, rfl⟩

/-- What the server answers when the pane has a newer epoch by then. -/
def newerEpochReply : List UInt8 :=
  paneHeader.encode (encodeRowRangeResponse ⟨7, 2, 2, 0, []⟩)

theorem newerEpoch_strands_key :
    ¬ ∀ events, Throughout Session.step OnlyOutstanding Session.start events := by
  intro all
  obtain ⟨-, -, -, -, only⟩ := all [
    .act .connect,
    .act (.receive (delivery (.pane paneHeader (.full belowHistory)))),
    .act (.scrollTouchHistory 7 1),
    .reply ⟨7, 1, 0, 5⟩ newerEpochReply]
  simp only [Session.step, Session.start, Client.step, Client.receive, Client.connect,
    handle_paneFullState] at only
  have stranded := only ⟨7, 1, 0, 5⟩ (by decide +kernel)
  exact absurd stranded (by decide +kernel)

end Boo.Ios.RowRequests
