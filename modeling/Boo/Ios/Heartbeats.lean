/- module: Boo/Ios/Heartbeats
   digest: The heartbeats of the iOS client: their counts, and when one of them times out. -/

import Boo.Lib.Runs
import Boo.Remote.AuthOk
import Mathlib.Algebra.Order.Ring.Rat
import Mathlib.Data.List.Chain
import Mathlib.Data.List.Induction
import Mathlib.Data.Rat.Floor

set_option autoImplicit false
set_option relaxedAutoImplicit false

namespace Boo.Ios.Heartbeats

open Boo.Lib.LittleEndian
open Boo.Lib.Runs
open Boo.Remote.AuthOk

section Model

inductive PosixCode
  | netDown
  | netUnreach
  | hostUnreach
  | timedOut
  | connReset
  | connAborted
  | notConn
  | connRefused
  | other
  deriving DecidableEq

/-- An error of the network framework, with what the framework prints for it. -/
inductive TransportError
  | posix (code : PosixCode) (described : String)
  | dns (code : String)
  | tls (status : String)
  | unknown
  deriving DecidableEq

def TransportError.isConnectionRefused : TransportError → Bool
  | .posix .connRefused _ => true
  | _ => false

def userFacingTransportMessage (error : TransportError) (lead : String) : String :=
  match error with
  | .posix .netDown _ => "Network unavailable on this iPad"
  | .posix .netUnreach _ => "Host network unreachable from this iPad"
  | .posix .hostUnreach _ => "Host unreachable from this iPad"
  | .posix .timedOut _ => "Connection timed out"
  | .posix .connReset _ => "Connection was reset"
  | .posix .connAborted _ => "Connection was interrupted"
  | .posix .notConn _ => "Connection is no longer active"
  | .posix .connRefused described | .posix .other described => lead ++ ": " ++ described
  | .dns code => lead ++ ": DNS error (" ++ code ++ ")"
  | .tls status => lead ++ ": TLS error (" ++ status ++ ")"
  | .unknown => lead

/-- Longer while the app is probed by its end-to-end test. -/
def heartbeatTimeout (probed : Bool) : ℚ := if probed then 60 else 12

def timedOut : String := "Remote heartbeat timed out"

/-- Milliseconds since 1970. -/
def heartbeatToken (stamp : ℚ) : UInt64 := UInt64.ofNat ⌊stamp * 1000⌋₊

/-- What the client keeps of its heartbeats; `connection` holds the tokens that were sent over the
connection, if there is one. The errors that it shows are left out. -/
structure Link where
  connection : Option (List UInt64) := none
  connected : Bool := false
  authenticated : Bool := false
  heartbeatTimer : Bool := false
  lastHeartbeatAck : Option ℚ := none
  lastHeartbeatRttMs : Option ℚ := none
  heartbeatSentCount : UInt64 := 0
  heartbeatAckCount : UInt64 := 0
  heartbeatTimeoutCount : UInt64 := 0
  lastHeartbeatSent : Option ℚ := none
  pendingHeartbeatToken : Option UInt64 := none
  connectionGeneration : UInt64 := 0
  deriving DecidableEq

/-- What the reading of a header and a payload comes to. Messages that have nothing to do with the
heartbeats are left out. -/
inductive Received
  | failure (described : String)
  | closed
  | invalidMagic
  | authOk (payload : List UInt8)
  | heartbeatAck (payload : List UInt8) (now later : ℚ)
  deriving DecidableEq

/-- Calls, ticks of the timer, and the callbacks of a connection, which carry its generation. -/
inductive Event
  | connect
  | disconnect
  | connectionTimeout (generation : UInt64)
  | ready (generation : UInt64)
  | waiting (generation : UInt64) (error : TransportError)
  | failed (generation : UInt64) (error : TransportError)
  | cancelled (generation : UInt64)
  | receive (generation : UInt64) (received : Received)
  | tick (now stamp : ℚ)
  deriving DecidableEq

namespace Link

variable (link : Link)

/-- Heartbeats are sent. -/
def alive : Bool := link.connected && link.authenticated && link.connection.isSome

def startHeartbeatLoop : Link := { link with heartbeatTimer := true }

def stopHeartbeatLoop : Link := { link with heartbeatTimer := false }

/-- `prepareForConnectionAttempt`, and the connection that is opened after it. -/
def connect : Link :=
  { link.stopHeartbeatLoop with
    connection := some []
    connected := false
    authenticated := false
    lastHeartbeatAck := none
    lastHeartbeatRttMs := none
    lastHeartbeatSent := none
    pendingHeartbeatToken := none
    connectionGeneration := link.connectionGeneration + 1 }

def disconnect : Link :=
  { link.stopHeartbeatLoop with
    connection := none
    connected := false
    authenticated := false
    lastHeartbeatAck := none
    lastHeartbeatRttMs := none
    heartbeatSentCount := 0
    heartbeatAckCount := 0
    heartbeatTimeoutCount := 0
    lastHeartbeatSent := none
    pendingHeartbeatToken := none
    connectionGeneration := link.connectionGeneration + 1 }

def protocolError (message : String) : Link :=
  { link.stopHeartbeatLoop with
    connection := none
    connected := false
    authenticated := false
    lastHeartbeatAck := none
    lastHeartbeatRttMs := none
    heartbeatTimeoutCount :=
      if message = timedOut then link.heartbeatTimeoutCount + 1 else link.heartbeatTimeoutCount
    lastHeartbeatSent := none
    pendingHeartbeatToken := none
    connectionGeneration := link.connectionGeneration + 1 }

def sendHeartbeat (stamp : ℚ) : Link :=
  { link with
    pendingHeartbeatToken := some (heartbeatToken stamp)
    heartbeatSentCount := link.heartbeatSentCount + 1
    connection := link.connection.map (· ++ [heartbeatToken stamp]) }

/-- More than the timeout went by since the last heartbeat, and nothing was heard since. -/
def overdue (probed : Bool) (now : ℚ) : Bool :=
  link.lastHeartbeatSent.any fun sentAt =>
    (link.lastHeartbeatAck.map fun ackAt => decide (ackAt < sentAt)).getD true &&
      decide (heartbeatTimeout probed < now - sentAt)

def heartbeatTick (probed : Bool) (now stamp : ℚ) : Link :=
  if link.alive then
    if link.overdue probed now then link.protocolError timedOut
    else { link.sendHeartbeat stamp with lastHeartbeatSent := some now }
  else link

/-- Only the answer to the last heartbeat is counted. -/
def handleHeartbeatAck (token : Option UInt64) (now later : ℚ) : Link :=
  let heard := { link with lastHeartbeatAck := some now }
  match token, link.pendingHeartbeatToken, link.lastHeartbeatSent with
  | some token, some pending, some sentAt =>
      if token = pending then
        { heard with
          lastHeartbeatRttMs := some ((later - sentAt) * 1000)
          heartbeatAckCount := link.heartbeatAckCount + 1
          pendingHeartbeatToken := none }
      else heard
  | _, _, _ => heard

/-- The reducer starts the heartbeats when the client was not authenticated before. -/
def authOk (payload : List UInt8) : Link :=
  match validateAuthOkMetadata payload with
  | some error => link.protocolError error
  | none =>
      let known := { link with authenticated := true }
      if link.authenticated then known else known.startHeartbeatLoop

end Link

def ackToken (payload : List UInt8) : Option UInt64 :=
  if 8 ≤ payload.length then some (u64At payload 0) else none

namespace Link

variable (link : Link)

def receive : Received → Link
  | .failure described => link.protocolError ("Receive failed: " ++ described)
  | .closed => link.protocolError "Connection closed"
  | .invalidMagic => link.disconnect
  | .authOk payload => link.authOk payload
  | .heartbeatAck payload now later => link.handleHeartbeatAck (ackToken payload) now later

/-- A callback of the connection's state handler or of its reads. -/
def callback (probed : Bool) : Event → Link
  | .connectionTimeout _ =>
      if link.connected then link else link.protocolError "Connection timed out"
  | .ready _ => { link with connected := true }
  | .waiting _ error =>
      if error.isConnectionRefused then link.protocolError "Connection refused"
      else { link with connected := false }
  | .failed _ error => link.protocolError (userFacingTransportMessage error "Connection failed")
  | .cancelled _ => { link.stopHeartbeatLoop with connected := false }
  | .receive _ received => link.receive received
  | .connect => link.connect
  | .disconnect => link.disconnect
  | .tick now stamp => link.heartbeatTick probed now stamp

end Link

/-- The connection that a callback belongs to. -/
def Event.generation : Event → Option UInt64
  | .connectionTimeout generation | .ready generation | .waiting generation _
  | .failed generation _ | .cancelled generation | .receive generation _ => some generation
  | .connect | .disconnect | .tick _ _ => none

/-- Callbacks of earlier connections do nothing. -/
def Link.step (probed : Bool) (link : Link) (event : Event) : Link :=
  if event.generation.all (· == link.connectionGeneration) then link.callback probed event
  else link

def run (probed : Bool) (events : List Event) : Link := events.foldl (Link.step probed) {}

end Model

section Frames

/-- A tick of the timer, or an answer to a heartbeat. -/
def Event.beats : Event → Bool
  | .tick _ _ | .receive _ (.heartbeatAck _ _ _) => true
  | _ => false

/-- The client stays logged in, but its connection is not ready; callbacks of earlier connections do
nothing. -/
def Link.suspendedBy (link : Link) : Event → Bool
  | .waiting generation error =>
      generation == link.connectionGeneration && !error.isConnectionRefused
  | .cancelled generation => generation == link.connectionGeneration
  | _ => false

/-- Nothing is known of earlier heartbeats, and the counts are as they were, or all at zero. -/
structure Link.Forgets (link after : Link) : Prop where
  sent : after.lastHeartbeatSent = none
  pending : after.pendingHeartbeatToken = none
  loggedOut : after.authenticated = false
  counts : (after.heartbeatSentCount = link.heartbeatSentCount ∧
      after.heartbeatAckCount = link.heartbeatAckCount ∧
      after.heartbeatTimeoutCount = link.heartbeatTimeoutCount) ∨
    (after.heartbeatSentCount = 0 ∧ after.heartbeatAckCount = 0 ∧ after.heartbeatTimeoutCount = 0)

/-- All that is known of the heartbeats stays; unless the connection is suspended, so does an active
client, and one that is logged in has its timer. -/
structure Link.Keeps (suspended : Bool) (link after : Link) : Prop where
  sent : after.lastHeartbeatSent = link.lastHeartbeatSent
  pending : after.pendingHeartbeatToken = link.pendingHeartbeatToken
  ack : after.lastHeartbeatAck = link.lastHeartbeatAck
  sentCount : after.heartbeatSentCount = link.heartbeatSentCount
  ackCount : after.heartbeatAckCount = link.heartbeatAckCount
  timeoutCount : after.heartbeatTimeoutCount = link.heartbeatTimeoutCount
  alive : suspended = false → link.alive = true → after.alive = true
  timer : suspended = false → (link.authenticated = true → link.heartbeatTimer = true) →
    after.authenticated = true → after.heartbeatTimer = true

variable {link : Link} {probed : Bool} {message : String}

theorem keeps_refl (suspended : Bool) : link.Keeps suspended link :=
  ⟨rfl, rfl, rfl, rfl, rfl, rfl, fun _ => id, fun _ => id⟩

theorem forgets_protocolError (other : message ≠ timedOut) :
    link.Forgets (link.protocolError message) :=
  ⟨rfl, rfl, rfl, .inl ⟨rfl, rfl, if_neg other⟩⟩

/-- No other error reads as the one that is counted. -/
theorem append_ne_timedOut {start rest : String} (other : ¬ start.toList <+: timedOut.toList) :
    start ++ rest ≠ timedOut := by
  intro same
  refine other ⟨rest.toList, ?_⟩
  rw [← String.toList_append, same]

theorem userFacingTransportMessage_ne (error : TransportError) :
    userFacingTransportMessage error "Connection failed" ≠ timedOut := by
  cases error with
  | posix code described =>
      cases code with
      | connRefused | other =>
          rw [userFacingTransportMessage, String.append_assoc]
          exact append_ne_timedOut (by decide)
      | _ =>
          rw [userFacingTransportMessage]
          decide
  | dns code =>
      rw [userFacingTransportMessage, String.append_assoc, String.append_assoc]
      exact append_ne_timedOut (by decide)
  | tls status =>
      rw [userFacingTransportMessage, String.append_assoc, String.append_assoc]
      exact append_ne_timedOut (by decide)
  | unknown => decide

theorem validateAuthOkMetadata_ne {payload : List UInt8}
    (refused : validateAuthOkMetadata payload = some message) : message ≠ timedOut := by
  unfold validateAuthOkMetadata at refused
  split at refused
  · cases refused
    decide
  · split_ifs at refused <;> cases refused
    · exact append_ne_timedOut (by decide)
    all_goals decide

theorem authOk_frame (payload : List UInt8) :
    link.Forgets (link.authOk payload) ∨ link.Keeps false (link.authOk payload) := by
  unfold Link.authOk
  split
  · rename_i error refused
    exact .inl (forgets_protocolError (validateAuthOkMetadata_ne refused))
  · refine .inr ?_
    dsimp only
    split
    · rename_i known
      refine ⟨rfl, rfl, rfl, rfl, rfl, rfl, fun _ active => ?_, fun _ timed _ => timed known⟩
      simpa [Link.alive, known] using active
    · refine ⟨rfl, rfl, rfl, rfl, rfl, rfl, fun _ active => ?_, fun _ _ _ => rfl⟩
      rw [Link.alive, Bool.and_eq_true, Bool.and_eq_true] at active ⊢
      exact ⟨⟨active.1.1, rfl⟩, active.2⟩

/-- Between ticks and answers, heartbeats are forgotten all at once or not at all. -/
theorem step_frame (link : Link) (probed : Bool) {event : Event} (other : event.beats = false) :
    link.Forgets (link.step probed event) ∨
      link.Keeps (link.suspendedBy event) (link.step probed event) := by
  have forgets {message : String} (differs : message ≠ timedOut) {suspended : Bool} :
      link.Forgets (link.protocolError message) ∨
        link.Keeps suspended (link.protocolError message) := .inl (forgets_protocolError differs)
  rw [Link.step]
  split
  · rename_i current
    cases event with
    | connect => exact .inl ⟨rfl, rfl, rfl, .inl ⟨rfl, rfl, rfl⟩⟩
    | disconnect => exact .inl ⟨rfl, rfl, rfl, .inr ⟨rfl, rfl, rfl⟩⟩
    | connectionTimeout generation =>
        rw [Link.callback]
        split
        · exact .inr (keeps_refl _)
        · exact forgets (by decide)
    | ready generation =>
        refine .inr ⟨rfl, rfl, rfl, rfl, rfl, rfl, fun _ active => ?_, fun _ => id⟩
        rw [Link.alive, Bool.and_eq_true, Bool.and_eq_true] at active
        exact Bool.and_eq_true_iff.mpr ⟨Bool.and_eq_true_iff.mpr ⟨rfl, active.1.2⟩, active.2⟩
    | waiting generation error =>
        rw [Link.callback]
        split
        · exact forgets (by decide)
        · rename_i unrefused
          refine .inr ⟨rfl, rfl, rfl, rfl, rfl, rfl, fun stays => ?_, fun stays => ?_⟩ <;>
            simp_all [Link.suspendedBy, Event.generation]
    | failed generation error => exact forgets (userFacingTransportMessage_ne error)
    | cancelled generation =>
        refine .inr ⟨rfl, rfl, rfl, rfl, rfl, rfl, fun stays => ?_, fun stays => ?_⟩ <;>
          simp_all [Link.suspendedBy, Event.generation]
    | receive generation received =>
        cases received with
        | failure described => exact forgets (append_ne_timedOut (by decide))
        | closed => exact forgets (by decide)
        | invalidMagic => exact .inl ⟨rfl, rfl, rfl, .inr ⟨rfl, rfl, rfl⟩⟩
        | authOk payload => exact authOk_frame payload
        | heartbeatAck payload now later => cases other
    | tick now stamp => cases other
  · exact .inr (keeps_refl _)

end Frames

section Beats

variable {link : Link} {probed : Bool} {now stamp later : ℚ}

theorem heartbeatTick_cases (probed : Bool) (now stamp : ℚ) :
    (link.alive = false ∧ link.heartbeatTick probed now stamp = link) ∨
    (link.alive = true ∧ link.overdue probed now = true ∧
      link.heartbeatTick probed now stamp = link.protocolError timedOut) ∨
    (link.alive = true ∧ link.overdue probed now = false ∧
      link.heartbeatTick probed now stamp =
        { link.sendHeartbeat stamp with lastHeartbeatSent := some now }) := by
  rw [Link.heartbeatTick]
  split
  · rename_i alive
    split
    · rename_i overdue
      exact .inr (.inl ⟨alive, overdue, rfl⟩)
    · rename_i heard
      exact .inr (.inr ⟨alive, by simpa using heard, rfl⟩)
  · rename_i idle
    exact .inl ⟨by simpa using idle, rfl⟩

theorem handleHeartbeatAck_cases (token : Option UInt64) (now later : ℚ) :
    (∃ answered sentAt, link.pendingHeartbeatToken = some answered ∧
      link.lastHeartbeatSent = some sentAt ∧
      link.handleHeartbeatAck token now later =
        { link with
          lastHeartbeatAck := some now
          lastHeartbeatRttMs := some ((later - sentAt) * 1000)
          heartbeatAckCount := link.heartbeatAckCount + 1
          pendingHeartbeatToken := none }) ∨
    link.handleHeartbeatAck token now later = { link with lastHeartbeatAck := some now } := by
  unfold Link.handleHeartbeatAck
  split
  · rename_i token answered sentAt pending sent
    dsimp only
    split
    · exact .inl ⟨answered, sentAt, pending, sent, rfl⟩
    · exact .inr rfl
  · exact .inr rfl

theorem alive_sent (link : Link) (now stamp : ℚ) :
    Link.alive { link.sendHeartbeat stamp with lastHeartbeatSent := some now } = link.alive := by
  cases link with
  | mk connection => cases connection <;> rfl

/-- A heartbeat is not overdue within the timeout, nor once something is heard. -/
theorem overdue_iff : link.overdue probed now = true ↔
    ∃ sentAt, link.lastHeartbeatSent = some sentAt ∧
      (∀ ackAt ∈ link.lastHeartbeatAck, ackAt < sentAt) ∧
      heartbeatTimeout probed < now - sentAt := by
  rw [Link.overdue, Option.any_eq_true]
  refine exists_congr fun sentAt => and_congr_right fun _ => ?_
  rw [Bool.and_eq_true, decide_eq_true_iff]
  refine and_congr_left fun _ => ?_
  cases link.lastHeartbeatAck <;> simp

end Beats

section Times

/-- When the timer ticked. -/
def Event.tickTime : Event → Option ℚ
  | .tick now _ => some now
  | _ => none

/-- When the client looked at its clock, for a tick or for an answer. -/
def Event.time : Event → Option ℚ
  | .tick now _ | .receive _ (.heartbeatAck _ now _) => some now
  | _ => none

variable {readTime : Event → Option ℚ} {events : List Event} {event : Event}

theorem getLast?_concat : ((events ++ [event]).filterMap readTime).getLast? =
    (readTime event).or (events.filterMap readTime).getLast? := by
  rw [List.filterMap_append, List.getLast?_append]
  cases reads : readTime event <;> simp [reads]

theorem isChain_concat {R : ℚ → ℚ → Prop}
    (chain : ((events ++ [event]).filterMap readTime).IsChain R) :
    (events.filterMap readTime).IsChain R ∧
      ∀ earlier ∈ (events.filterMap readTime).getLast?, ∀ now ∈ readTime event, R earlier now := by
  rw [List.filterMap_append, List.isChain_append] at chain
  refine ⟨chain.1, fun earlier last now reads => chain.2.2 earlier last now ?_⟩
  rw [List.filterMap_cons, Option.mem_def.mp reads]
  rfl

theorem run_concat (probed : Bool) :
    run probed (events ++ [event]) = (run probed events).step probed event := by
  rw [run, List.foldl_append]
  rfl

end Times

section Silence

variable {link : Link} {probed : Bool} {last : Option ℚ} {events : List Event}

/-- Successive ticks are not further apart than the timeout. -/
def OnTime (probed : Bool) (events : List Event) : Prop :=
  (events.filterMap Event.tickTime).IsChain fun earlier now =>
    now - earlier ≤ heartbeatTimeout probed

/-- No callback of the connection in use finds it waiting or cancelled. -/
def Unsuspended (probed : Bool) (events : List Event) : Prop :=
  Always (Link.step probed) (fun link event => link.suspendedBy event = false) {} events

/-- The last heartbeat was sent by the last tick, by a client that is active since. -/
structure Link.Steady (link : Link) (last : Option ℚ) : Prop where
  sent : ∀ sentAt ∈ link.lastHeartbeatSent, link.alive = true ∧ last = some sentAt
  timer : link.authenticated = true → link.heartbeatTimer = true
  never : link.heartbeatTimeoutCount = 0

theorem steady_tick (steady : link.Steady last) {now : ℚ} (stamp : ℚ)
    (soon : ∀ earlier ∈ last, now - earlier ≤ heartbeatTimeout probed) :
    (link.heartbeatTick probed now stamp).Steady (some now) := by
  rcases heartbeatTick_cases probed now stamp with
    ⟨idle, same⟩ | ⟨-, overdue, -⟩ | ⟨alive, -, same⟩
  · rw [same]
    refine ⟨fun sentAt sent => ?_, steady.timer, steady.never⟩
    rw [(steady.sent sentAt sent).1] at idle
    cases idle
  · obtain ⟨sentAt, sent, -, late⟩ := overdue_iff.mp overdue
    exact absurd (soon sentAt (steady.sent sentAt sent).2) (not_le.mpr late)
  · rw [same]
    refine ⟨fun sentAt sent => ⟨(alive_sent link now stamp).trans alive, sent⟩, steady.timer,
      steady.never⟩

theorem steady_ack (steady : link.Steady last) (token : Option UInt64) (now later : ℚ) :
    (link.handleHeartbeatAck token now later).Steady last := by
  rcases handleHeartbeatAck_cases token now later with ⟨_, _, -, -, same⟩ | same <;> rw [same]
  · exact ⟨steady.sent, steady.timer, steady.never⟩
  · exact ⟨steady.sent, steady.timer, steady.never⟩

theorem steady_other (steady : link.Steady last) {event : Event} (other : event.beats = false)
    (stays : link.suspendedBy event = false) : (link.step probed event).Steady last := by
  rcases step_frame link probed other with forgets | keeps
  · refine ⟨fun sentAt sent => ?_, fun known => ?_, ?_⟩
    · rw [forgets.sent] at sent
      cases sent
    · rw [forgets.loggedOut] at known
      cases known
    · rcases forgets.counts with ⟨-, -, same⟩ | ⟨-, -, none⟩
      · exact same.trans steady.never
      · exact none
  · refine ⟨fun sentAt sent => ?_, keeps.timer stays steady.timer,
      keeps.timeoutCount.trans steady.never⟩
    rw [keeps.sent] at sent
    exact ⟨keeps.alive stays (steady.sent sentAt sent).1, (steady.sent sentAt sent).2⟩

theorem steady_step (steady : link.Steady last) {event : Event}
    (stays : link.suspendedBy event = false)
    (soon : ∀ earlier ∈ last, ∀ now ∈ event.tickTime, now - earlier ≤ heartbeatTimeout probed) :
    (link.step probed event).Steady (event.tickTime.or last) := by
  cases event with
  | tick now stamp =>
      exact steady_tick steady stamp fun earlier before => soon earlier before now rfl
  | receive generation received =>
      cases received with
      | heartbeatAck payload now later =>
          rw [Link.step]
          split
          · exact steady_ack steady _ now later
          · exact steady
      | _ => exact steady_other steady rfl stays
  | _ => exact steady_other steady rfl stays

theorem steady_run (stays : Unsuspended probed events) (onTime : OnTime probed events) :
    (run probed events).Steady (events.filterMap Event.tickTime).getLast? := by
  induction events using List.reverseRecOn with
  | nil => exact ⟨fun sentAt sent => (by cases sent), fun known => (by cases known), rfl⟩
  | append_singleton events event ih =>
      obtain ⟨before, soon⟩ := isChain_concat onTime
      obtain ⟨earlier, here, -⟩ := always_append.mp stays
      rw [run_concat, getLast?_concat]
      exact steady_step (ih earlier before) here soon

/-- However long the server is silent, no heartbeat times out as long as the timer is on time: every
tick sends another heartbeat, and only the last one is waited for. -/
theorem heartbeats_never_time_out (stays : Unsuspended probed events)
    (onTime : OnTime probed events) :
    (run probed events).heartbeatTimeoutCount = 0 ∧
      ((run probed events).authenticated = true → (run probed events).heartbeatTimer = true) := by
  have steady := steady_run stays onTime
  exact ⟨steady.never, steady.timer⟩

/-- The client connects twice and logs in; its first connection is cancelled in between. -/
def loggedIn : List Event :=
  [.connect, .connect, .cancelled 1, .ready 2,
    .receive 2 (.authOk (encodeAuthOkPayload "1.0" "server"))]

/-- Four ticks without a word from the server, for longer than the timeout. -/
def silence : List Event := loggedIn ++ [.tick 5 5, .tick 10 10, .tick 15 15, .tick 20 20]

theorem heartbeats_never_time_out_silence :
    ((run false silence).heartbeatTimeoutCount = 0 ∧
      ((run false silence).authenticated = true → (run false silence).heartbeatTimer = true)) ∧
      (run false silence).alive = true ∧ (run false silence).lastHeartbeatAck = none := by
  have stays : Unsuspended false silence := by
    unfold Unsuspended
    decide +kernel
  refine ⟨heartbeats_never_time_out stays ?_, by decide +kernel, by decide +kernel⟩
  show ([5, 10, 15, 20] : List ℚ).IsChain _
  norm_num [heartbeatTimeout]

end Silence

section Accounts

variable {link : Link} {probed : Bool} {clock : Option ℚ} {ticks : ℕ} {events : List Event}

/-- The heartbeats that still wait for an answer. -/
def Link.waiting (link : Link) : ℕ := if link.pendingHeartbeatToken.isSome then 1 else 0

/-- Every heartbeat is answered, timed out or waiting at most once; the client has looked at its
clock since it was sent, and has heard of it if it does not wait. -/
structure Link.Accounted (link : Link) (clock : Option ℚ) (ticks : ℕ) : Prop where
  bounded : link.heartbeatSentCount.toNat ≤ ticks
  counted : link.heartbeatAckCount.toNat + link.heartbeatTimeoutCount.toNat + link.waiting ≤
    link.heartbeatSentCount.toNat
  read : ∀ sentAt ∈ link.lastHeartbeatSent, ∃ read ∈ clock, sentAt ≤ read
  answered : ∀ sentAt ∈ link.lastHeartbeatSent, link.pendingHeartbeatToken = none →
    ∃ ackAt ∈ link.lastHeartbeatAck, sentAt ≤ ackAt

theorem toNat_succ {count : UInt64} (few : count.toNat + 1 < 2 ^ 64) :
    (count + 1).toNat = count.toNat + 1 := by
  rw [UInt64.toNat_add, show (1 : UInt64).toNat = 1 from rfl, Nat.mod_eq_of_lt few]

theorem Link.Accounted.later (accounted : link.Accounted clock ticks) {now : ℚ}
    (forwards : ∀ read ∈ clock, read ≤ now) :
    ∀ sentAt ∈ link.lastHeartbeatSent, sentAt ≤ now := by
  intro sentAt sent
  obtain ⟨read, known, after⟩ := accounted.read sentAt sent
  exact after.trans (forwards read known)

theorem accounted_tick (accounted : link.Accounted clock ticks) (few : ticks + 1 < 2 ^ 64) {now : ℚ}
    (stamp : ℚ) (forwards : ∀ read ∈ clock, read ≤ now) :
    (link.heartbeatTick probed now stamp).Accounted (some now) (ticks + 1) := by
  have later := accounted.later forwards
  have bounded := accounted.bounded
  have counted := accounted.counted
  rcases heartbeatTick_cases probed now stamp with
    ⟨-, same⟩ | ⟨-, overdue, same⟩ | ⟨-, -, same⟩ <;> rw [same]
  · exact ⟨by omega, counted, fun sentAt sent => ⟨now, rfl, later sentAt sent⟩, accounted.answered⟩
  · obtain ⟨sentAt, sent, unheard, -⟩ := overdue_iff.mp overdue
    -- What times out still waits: an answer to it would have been heard since.
    have waits : link.waiting = 1 := by
      rw [Link.waiting, if_pos]
      rw [Option.isSome_iff_ne_none]
      intro settled
      obtain ⟨ackAt, heard, after⟩ := accounted.answered sentAt sent settled
      exact absurd (unheard ackAt heard) (not_lt.mpr after)
    have timeouts : (link.protocolError timedOut).heartbeatTimeoutCount =
        link.heartbeatTimeoutCount + 1 := by
      rw [Link.protocolError]
      dsimp only
      rw [if_pos rfl]
    refine ⟨by exact Nat.le_succ_of_le bounded, ?_, fun sentAt sent => (by cases sent),
      fun sentAt sent => (by cases sent)⟩
    rw [timeouts, toNat_succ (by omega)]
    show link.heartbeatAckCount.toNat + _ + 0 ≤ link.heartbeatSentCount.toNat
    omega
  · have sends : (link.heartbeatSentCount + 1).toNat = link.heartbeatSentCount.toNat + 1 :=
      toNat_succ (by omega)
    refine ⟨?_, ?_, fun sentAt sent => ⟨now, rfl, (Option.some.inj sent).ge⟩,
      fun sentAt sent settled => (by cases settled)⟩
    · show (link.heartbeatSentCount + 1).toNat ≤ ticks + 1
      omega
    · show link.heartbeatAckCount.toNat + link.heartbeatTimeoutCount.toNat + 1 ≤
        (link.heartbeatSentCount + 1).toNat
      omega

theorem accounted_ack (accounted : link.Accounted clock ticks) (few : ticks < 2 ^ 64)
    (token : Option UInt64) {now : ℚ} (later : ℚ) (forwards : ∀ read ∈ clock, read ≤ now) :
    (link.handleHeartbeatAck token now later).Accounted (some now) ticks := by
  have past := accounted.later forwards
  have read : ∀ sentAt ∈ link.lastHeartbeatSent, ∃ read ∈ some now, sentAt ≤ read :=
    fun sentAt sent => ⟨now, rfl, past sentAt sent⟩
  have bounded := accounted.bounded
  have counted := accounted.counted
  rcases handleHeartbeatAck_cases token now later with ⟨_, _, pending, -, same⟩ | same <;> rw [same]
  · have waits : link.waiting = 1 := by rw [Link.waiting, pending, if_pos Option.isSome_some]
    refine ⟨bounded, ?_, read, fun sentAt sent _ => read sentAt sent⟩
    show (link.heartbeatAckCount + 1).toNat + link.heartbeatTimeoutCount.toNat + 0 ≤
      link.heartbeatSentCount.toNat
    rw [toNat_succ (by omega)]
    omega
  · exact ⟨bounded, counted, read, fun sentAt sent _ => read sentAt sent⟩

theorem accounted_other (accounted : link.Accounted clock ticks) {event : Event}
    (other : event.beats = false) : (link.step probed event).Accounted clock ticks := by
  have bounded := accounted.bounded
  have counted := accounted.counted
  rcases step_frame link probed other with forgets | keeps
  · have settled : (link.step probed event).waiting = 0 := by
      rw [Link.waiting, forgets.pending]
      rfl
    have none (sentAt : ℚ) : sentAt ∉ (link.step probed event).lastHeartbeatSent := by
      rw [forgets.sent]
      exact Option.not_mem_none sentAt
    refine ⟨?_, ?_, fun sentAt sent => absurd sent (none sentAt),
      fun sentAt sent => absurd sent (none sentAt)⟩
    all_goals rcases forgets.counts with ⟨sent, acks, timeouts⟩ | ⟨sent, acks, timeouts⟩
    · rw [sent]
      exact bounded
    · rw [sent]
      exact Nat.zero_le _
    · rw [sent, acks, timeouts, settled]
      omega
    · rw [sent, acks, timeouts, settled]
      rfl
  · refine ⟨by rw [keeps.sentCount]; exact bounded, ?_, by rw [keeps.sent]; exact accounted.read,
      by rw [keeps.sent, keeps.pending, keeps.ack]; exact accounted.answered⟩
    rw [Link.waiting, keeps.pending, keeps.ackCount, keeps.timeoutCount, keeps.sentCount]
    exact counted

/-- How many ticks there were. -/
def tickCount (events : List Event) : ℕ := (events.filterMap Event.tickTime).length

theorem tickCount_concat (event : Event) : tickCount (events ++ [event]) =
    tickCount events + if event.tickTime.isSome then 1 else 0 := by
  rw [tickCount, List.filterMap_append, List.length_append, tickCount]
  cases event <;> rfl

theorem accounted_step (accounted : link.Accounted clock ticks) {event : Event}
    (few : ticks + (if event.tickTime.isSome then 1 else 0) < 2 ^ 64)
    (forwards : ∀ read ∈ clock, ∀ now ∈ event.time, read ≤ now) :
    (link.step probed event).Accounted (event.time.or clock)
      (ticks + if event.tickTime.isSome then 1 else 0) := by
  cases event with
  | tick now stamp =>
      exact accounted_tick accounted few stamp fun read before => forwards read before now rfl
  | receive generation received =>
      cases received with
      | heartbeatAck payload now later =>
          have before : ∀ read ∈ clock, read ≤ now := fun read known => forwards read known now rfl
          rw [Link.step]
          split
          · exact accounted_ack accounted few _ later before
          · refine ⟨accounted.bounded, accounted.counted, fun sentAt sent => ?_, accounted.answered⟩
            exact ⟨now, rfl, accounted.later before sentAt sent⟩
      | _ => exact accounted_other accounted rfl
  | _ => exact accounted_other accounted rfl

theorem accounted_run (probed : Bool) (few : tickCount events < 2 ^ 64)
    (forwards : (events.filterMap Event.time).IsChain (· ≤ ·)) :
    (run probed events).Accounted (events.filterMap Event.time).getLast? (tickCount events) := by
  induction events using List.reverseRecOn with
  | nil =>
      exact ⟨le_rfl, le_rfl, fun sentAt sent => (by cases sent), fun sentAt sent => (by cases sent)⟩
  | append_singleton events event ih =>
      obtain ⟨before, onwards⟩ := isChain_concat forwards
      rw [tickCount_concat] at few ⊢
      rw [run_concat, getLast?_concat]
      exact accounted_step (ih (by omega) before) few onwards

/-- While the clock does not go back, every heartbeat that was sent is at most one of answered,
timed out and waiting. -/
theorem heartbeats_accounted (few : tickCount events < 2 ^ 64)
    (forwards : (events.filterMap Event.time).IsChain (· ≤ ·)) :
    (run probed events).heartbeatAckCount.toNat + (run probed events).heartbeatTimeoutCount.toNat +
        (run probed events).waiting ≤ (run probed events).heartbeatSentCount.toNat ∧
      (run probed events).heartbeatSentCount.toNat ≤ tickCount events := by
  have accounted := accounted_run probed few forwards
  exact ⟨accounted.counted, accounted.bounded⟩

/-- The first heartbeat is answered; the second one is overdue when the timer comes late. -/
def lateTimer : List Event :=
  loggedIn ++ [.tick 5 0, .receive 2 (.heartbeatAck [0, 0, 0, 0, 0, 0, 0, 0] 6 6), .tick 10 10,
    .tick 30 30]

theorem heartbeats_accounted_lateTimer :
    ((run false lateTimer).heartbeatAckCount.toNat +
        (run false lateTimer).heartbeatTimeoutCount.toNat + (run false lateTimer).waiting ≤
        (run false lateTimer).heartbeatSentCount.toNat ∧
      (run false lateTimer).heartbeatSentCount.toNat ≤ tickCount lateTimer) ∧
      (run false lateTimer).heartbeatAckCount = 1 ∧
      (run false lateTimer).heartbeatTimeoutCount = 1 := by
  refine ⟨heartbeats_accounted (by decide) ?_, by decide +kernel, by decide +kernel⟩
  show ([5, 6, 10, 30] : List ℚ).IsChain _
  norm_num

end Accounts

end Boo.Ios.Heartbeats
