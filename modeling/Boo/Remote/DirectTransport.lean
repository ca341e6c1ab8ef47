/- module: Boo/Remote/DirectTransport
   digest: The direct client of the remote daemon: handshake, heartbeat, tab list and new tabs. -/

import Boo.Remote.AuthOk
import Boo.Remote.Reassembly
import Boo.Remote.StrictTabList

set_option autoImplicit false
set_option relaxedAutoImplicit false

namespace Boo.Remote.DirectTransport

open Boo.Lib.LittleEndian
open Boo.Lib.TickStream
open Boo.Wire.Message
open Boo.Remote.ReadLoop
open Boo.Remote.Reassembly
open Boo.Remote.Texts
open Boo.Remote.AuthOk
open Boo.Remote.TabList
open Boo.Remote.StrictTabList

/-- The name that `{:?}` prints. -/
def debugName : MessageType → String
  | .auth => "Auth" | .listTabs => "ListTabs" | .create => "Create" | .input => "Input"
  | .resize => "Resize" | .destroy => "Destroy" | .scroll => "Scroll" | .key => "Key"
  | .executeCommand => "ExecuteCommand" | .appAction => "AppAction"
  | .appKeyEvent => "AppKeyEvent" | .focusPane => "FocusPane"
  | .appMouseEvent => "AppMouseEvent" | .heartbeat => "Heartbeat"
  | .runtimeAction => "RuntimeAction" | .renderAck => "RenderAck"
  | .rowRangeRequest => "RowRangeRequest" | .authOk => "AuthOk" | .authFail => "AuthFail"
  | .tabList => "TabList" | .fullState => "FullState" | .delta => "Delta"
  | .errorMsg => "ErrorMsg" | .tabCreated => "TabCreated" | .tabExited => "TabExited"
  | .scrollData => "ScrollData" | .clipboard => "Clipboard" | .image => "Image"
  | .uiRuntimeState => "UiRuntimeState" | .uiAppearance => "UiAppearance"
  | .uiPaneFullState => "UiPaneFullState" | .uiPaneDelta => "UiPaneDelta"
  | .heartbeatAck => "HeartbeatAck" | .uiPaneRows => "UiPaneRows"

def errorCodeOf (value : UInt16) : Option RemoteErrorCode :=
  match value.toNat with
  | 0 => some .unknown
  | 1 => some .authenticationFailed
  | 2 => some .unknownTab
  | 3 => some .failedCreateTab
  | 4 => some .noActiveTab
  | 5 => some .cannotDestroyLastTab
  | 11 => some .heartbeatTimeout
  | _ => none

def decodeErrorPayload (payload : List UInt8) : Except String (RemoteErrorCode × String) :=
  if payload.length < 2 then .error "payload too short"
  else
    let code := (errorCodeOf (u16At payload 0)).getD .unknown
    match fromUtf8 (payload.drop 2) with
    | none => .error "invalid utf-8"
    | some message => .ok (code, message)

/-- What a reply comes to: the one that was waited for, one to wait on, or a refusal. -/
inductive Verdict
  | accept
  | skip
  | reject (text : String)

/-- The messages that a server sends on its own. -/
def isStateMessage : MessageType → Bool
  | .tabList | .fullState | .delta | .uiRuntimeState | .uiAppearance | .uiPaneFullState
  | .uiPaneDelta | .uiPaneRows => true
  | _ => false

section Reading

-- `ioText` prints an I/O error, and `peer` is the host and the port with a colon between.
variable (ioText : ReadError → String) (peer : String)

/-- The loop of the two reply readers. -/
def readReply (failed timedOut : String) (verdict : RemoteMessage → Verdict) :
    Nat → ReadStream → Except String RemoteMessage × ReadStream
  | 0, stream => (.error timedOut, stream)
  | attempts + 1, stream =>
      match readMessageRetrying stream 2 with
      | (.error (.idle _), rest) => readReply failed timedOut verdict attempts rest
      | (.error error, rest) => (.error (failed ++ ioText error), rest)
      | (.ok message, rest) =>
          match verdict message with
          | .accept => (.ok message, rest)
          | .skip => readReply failed timedOut verdict attempts rest
          | .reject text => (.error text, rest)

def probeVerdict (expected : MessageType) (message : RemoteMessage) : Verdict :=
  if message.ty = expected then .accept
  else if isStateMessage message.ty then .skip
  else if message.ty = .authFail then
    .reject ("authentication failed for remote endpoint " ++ peer)
  else if message.ty = .errorMsg then
    let text := match decodeErrorPayload message.payload with
      | .ok (_, text) => text
      | .error _ => "remote error"
    .reject ("remote endpoint " ++ peer ++ " reported probe error: " ++ text)
  else .reject ("expected " ++ debugName expected ++ " from " ++ peer ++ ", got " ++
    debugName message.ty)

def readProbeReply (expected : MessageType) :
    ReadStream → Except String RemoteMessage × ReadStream :=
  readReply ioText ("failed to read probe reply from " ++ peer ++ ": ")
    ("timed out waiting for " ++ debugName expected ++ " from remote endpoint " ++ peer)
    (probeVerdict peer expected) 8

def authVerdict (message : RemoteMessage) : Verdict :=
  if message.ty = .authOk ∨ message.ty = .authFail then .accept
  else if isStateMessage message.ty then .skip
  else .reject ("unexpected auth reply from " ++ peer ++ ": " ++ debugName message.ty)

def readProbeAuthReply : ReadStream → Except String RemoteMessage × ReadStream :=
  readReply ioText ("failed to read auth reply from " ++ peer ++ ": ")
    ("timed out waiting for auth reply from remote endpoint " ++ peer) (authVerdict peer) 8

end Reading

/-- The stream of a client: what comes in, what was written, and the error of the next write if
the peer takes no more. -/
structure Connection where
  incoming : ReadStream
  written : List UInt8
  writeError : Option String

/-- What a step returns, and the stream after it. -/
abbrev Outcome (R : Type) := Except String R × Connection

/-- The question mark: an error ends the steps. -/
def andThen {R S : Type} (first : Outcome R) (next : R → Connection → Outcome S) : Outcome S :=
  match first with
  | (.error text, connection) => (.error text, connection)
  | (.ok value, connection) => next value connection

namespace Connection

def writeAll (connection : Connection) (failed : String) (message : RemoteMessage) :
    Outcome Unit :=
  match connection.writeError with
  | some error => (.error (failed ++ error), connection)
  | none => (.ok (), { connection with written := connection.written ++ message.frame })

def readWith {R : Type} (connection : Connection)
    (read : ReadStream → Except String R × ReadStream) : Outcome R :=
  ((read connection.incoming).1, { connection with incoming := (read connection.incoming).2 })

end Connection

section Client

variable (ioText : ReadError → String) (peer : String)

def connectOverStream (connection : Connection) : Outcome AuthOkPayloadParts :=
  andThen (connection.writeAll ("failed to send auth request to " ++ peer ++ ": ") ⟨.auth, []⟩)
    fun _ connection => andThen (connection.readWith (readProbeAuthReply ioText peer))
      fun reply connection =>
        if reply.ty = .authOk then
          match validateAuthOkPayload reply.payload with
          | .error text => (.error text, connection)
          | .ok () =>
              match decodeAuthOkPayload reply.payload with
              | none => (.error ("remote endpoint " ++ peer ++
                  " returned malformed handshake metadata"), connection)
              | some parts => (.ok parts, connection)
        else if reply.ty = .authFail then
          (.error ("authentication failed for remote endpoint " ++ peer), connection)
        else (.error ("unexpected auth reply from " ++ peer ++ ": " ++ debugName reply.ty),
          connection)

/-- `elapsedMs` is what the clock says of the round trip. -/
def heartbeatRoundTrip (payload : List UInt8) (elapsedMs : UInt64) (connection : Connection) :
    Outcome UInt64 :=
  andThen (connection.writeAll ("failed to send heartbeat to " ++ peer ++ ": ")
      ⟨.heartbeat, payload⟩)
    fun _ connection => andThen (connection.readWith (readProbeReply ioText peer .heartbeatAck))
      fun reply connection =>
        if reply.payload ≠ payload then
          (.error ("heartbeat payload mismatch from remote endpoint " ++ peer), connection)
        else (.ok elapsedMs, connection)

def listTabs (connection : Connection) : Outcome (List RemoteTabInfo) :=
  andThen (connection.writeAll ("failed to send list tabs request to " ++ peer ++ ": ")
      ⟨.listTabs, []⟩)
    fun _ connection => andThen (connection.readWith (readProbeReply ioText peer .tabList))
      fun reply connection =>
        match decodeTabListPayload reply.payload with
        | .error error =>
            (.error ("failed to decode remote tab list from " ++ peer ++ ": " ++ error), connection)
        | .ok tabs => (.ok tabs, connection)

/-- `RemoteTabListSummary` without the host and the port, which are arguments. -/
structure RemoteTabListSummary where
  handshake : AuthOkPayloadParts
  heartbeatRttMs : UInt64
  tabs : List RemoteTabInfo

def listProbe : List UInt8 := textBytes "boo-remote-list"

/-- `connect_over_stream` and then `list_summary_from_transport`. -/
def listSummary (elapsedMs : UInt64) (connection : Connection) : Outcome RemoteTabListSummary :=
  andThen (connectOverStream ioText peer connection) fun handshake connection =>
    andThen (heartbeatRoundTrip ioText peer listProbe elapsedMs connection)
      fun heartbeatRttMs connection =>
        andThen (listTabs ioText peer connection) fun tabs connection =>
          (.ok ⟨handshake, heartbeatRttMs, tabs⟩, connection)

/-- The JSON of the runtime actions and states, which a library writes and reads: the action that
asks for a tab of a size, and the tab that a state says is viewed. -/
structure TabJson where
  newTab : UInt16 → UInt16 → Except String (List UInt8)
  viewedTabId : List UInt8 → Except String (Option UInt32)

variable (json : TabJson)

/-- The loop of `create_tab`; `read_message` waits for nothing. -/
def createTabReply (connection : Connection) : Outcome UInt32 :=
  match _found : readMessageRetrying connection.incoming 0 with
  | (.error error, rest) =>
      (.error ("failed to read create-tab reply from " ++ peer ++ ": " ++ ioText error),
        { connection with incoming := rest })
  | (.ok message, rest) =>
      if message.ty = .uiRuntimeState then
        match json.viewedTabId message.payload with
        | .error error =>
            (.error ("failed to decode runtime state from " ++ peer ++ ": " ++ error),
              { connection with incoming := rest })
        | .ok (some tabId) => (.ok tabId, { connection with incoming := rest })
        | .ok none => createTabReply { connection with incoming := rest }
      else if message.ty = .tabCreated then
        match parseTabId message.payload with
        | some tabId => (.ok tabId, { connection with incoming := rest })
        | none => (.error ("invalid tab-created payload from remote endpoint " ++ peer),
            { connection with incoming := rest })
      else if message.ty = .heartbeat then
        match connection.writeError with
        | some error =>
            (.error ("failed to send heartbeat ack to " ++ peer ++ ": " ++ error),
              { connection with incoming := rest })
        | none => createTabReply { connection with
            incoming := rest
            written := connection.written ++
              RemoteMessage.frame ⟨.heartbeatAck, message.payload⟩ }
      else if message.ty = .errorMsg then
        (.error ("remote endpoint " ++ peer ++ " rejected create-tab request"),
          { connection with incoming := rest })
      else createTabReply { connection with incoming := rest }
termination_by (ticks connection.incoming).length
decreasing_by
  all_goals exact readMessageRetrying_shrinks _found (by simp)

def createTab (cols rows : UInt16) (connection : Connection) : Outcome UInt32 :=
  match json.newTab cols rows with
  | .error error => (.error ("failed to encode create-tab runtime action for " ++ peer ++ ": " ++
      error), connection)
  | .ok payload =>
      andThen (connection.writeAll
          ("failed to send create-tab runtime action to " ++ peer ++ ": ")
          ⟨.runtimeAction, payload⟩)
        fun _ connection => createTabReply ioText peer json connection

end Client

section Arrivals

/-- What a stream brings: a pause, or a message whose frame comes without one. -/
inductive Arrival
  | idle (kind : IdleKind)
  | brings (message : RemoteMessage)

def Arrival.ticks : Arrival → List (Tick UInt8 IdleKind)
  | .idle kind => [.idle kind]
  | .brings message => message.frame.map .data

def arriving (arrivals : List Arrival) : List (Tick UInt8 IdleKind) :=
  arrivals.flatMap Arrival.ticks

variable {stream : ReadStream} {later : List (Tick UInt8 IdleKind)}

variable {ioText : ReadError → String} {peer failed timedOut : String}
  {verdict : RemoteMessage → Verdict}

/-- What a reader waits on. -/
def Arrival.Skipped (verdict : RemoteMessage → Verdict) : Arrival → Prop
  | .idle _ => True
  | .brings message => message.payload.length < 2 ^ 32 ∧ verdict message = .skip

/-- One arrival takes one attempt. -/
theorem readReply_skips (noise : List Arrival)
    (skipped : ∀ arrival ∈ noise, arrival.Skipped verdict) (attempts : Nat)
    (arrives : ticks stream = arriving noise ++ later) :
    ∃ rest, ticks rest = later ∧
      readReply ioText failed timedOut verdict (noise.length + attempts) stream =
        readReply ioText failed timedOut verdict attempts rest := by
  induction noise generalizing stream with
  | nil =>
      refine ⟨stream, arrives, ?_⟩
      rw [List.length_nil, Nat.zero_add]
  | cons arrival noise ih =>
      have others : ∀ other ∈ noise, other.Skipped verdict := fun other member =>
        skipped other (List.mem_cons_of_mem _ member)
      have first := skipped arrival List.mem_cons_self
      rw [arriving, List.flatMap_cons, List.append_assoc] at arrives
      rw [List.length_cons, Nat.add_right_comm]
      cases arrival with
      | idle kind =>
          obtain ⟨rest, after, gaveUp⟩ := readMessageRetrying_idle 2 arrives
          obtain ⟨last, ends, same⟩ := ih others after
          exact ⟨last, ends, by rw [readReply, gaveUp]; exact same⟩
      | brings message =>
          obtain ⟨rest, after, read⟩ := readMessageRetrying_arrival first.1 arrives 2
          obtain ⟨last, ends, same⟩ := ih others after
          refine ⟨last, ends, ?_⟩
          rw [readReply, read]
          dsimp only
          rw [first.2]
          exact same

/-- Up to seven arrivals may come before the reply. -/
theorem readReply_accepts {noise : List Arrival} {reply : RemoteMessage}
    (skipped : ∀ arrival ∈ noise, arrival.Skipped verdict) {attempts : Nat}
    (few : noise.length < attempts) (small : reply.payload.length < 2 ^ 32)
    (accepted : verdict reply = .accept)
    (arrives : ticks stream = arriving noise ++ (arriving [.brings reply] ++ later)) :
    ∃ rest, ticks rest = later ∧
      readReply ioText failed timedOut verdict attempts stream = (.ok reply, rest) := by
  obtain ⟨spare, rfl⟩ : ∃ spare, attempts = noise.length + (spare + 1) :=
    ⟨attempts - noise.length - 1, by omega⟩
  obtain ⟨behind, after, same⟩ := @readReply_skips stream _ ioText failed timedOut verdict noise
    skipped (spare + 1) arrives
  have single : arriving [.brings reply] = reply.frame.map Tick.data := by
    simp [arriving, Arrival.ticks]
  rw [single] at after
  obtain ⟨rest, ends, read⟩ := readMessageRetrying_arrival small after 2
  refine ⟨rest, ends, ?_⟩
  rw [same, readReply, read]
  dsimp only
  rw [accepted]

/-- With eight of them it gives up. -/
theorem readReply_gives_up {noise : List Arrival}
    (skipped : ∀ arrival ∈ noise, arrival.Skipped verdict)
    (arrives : ticks stream = arriving noise ++ later) :
    (readReply ioText failed timedOut verdict noise.length stream).1 = .error timedOut := by
  obtain ⟨rest, -, same⟩ := @readReply_skips stream _ ioText failed timedOut verdict noise
    skipped 0 arrives
  rw [Nat.add_zero] at same
  rw [same, readReply]

end Arrivals

section Exchanges

variable {ioText : ReadError → String} {peer : String} {connection : Connection}
  {later : List (Tick UInt8 IdleKind)} {written : List UInt8}

/-- A connection that takes what is written, with what will come in and what was written. -/
structure Connection.At (connection : Connection) (later : List (Tick UInt8 IdleKind))
    (written : List UInt8) : Prop where
  incoming : ticks connection.incoming = later
  written : connection.written = written
  open_ : connection.writeError = none

/-- What may come before a reply: less than eight pauses and messages that are skipped. -/
structure Noise (verdict : RemoteMessage → Verdict) (noise : List Arrival) : Prop where
  few : noise.length < 8
  skipped : ∀ arrival ∈ noise, arrival.Skipped verdict

/-- A request and its reply. -/
theorem exchange {R : Type} {failedWrite failed timedOut : String}
    {verdict : RemoteMessage → Verdict} {request reply : RemoteMessage} {noise : List Arrival}
    (here : connection.At (arriving noise ++ (arriving [.brings reply] ++ later)) written)
    (isNoise : Noise verdict noise) (small : reply.payload.length < 2 ^ 32)
    (accepted : verdict reply = .accept) (next : RemoteMessage → Connection → Outcome R) :
    ∃ after, Connection.At after later (written ++ request.frame) ∧
      andThen (connection.writeAll failedWrite request) (fun _ connection =>
        andThen (connection.readWith (readReply ioText failed timedOut verdict 8)) next) =
          next reply after := by
  obtain ⟨rest, ends, read⟩ := @readReply_accepts connection.incoming later ioText failed timedOut
    verdict noise reply isNoise.skipped 8 isNoise.few small accepted here.incoming
  refine ⟨⟨rest, connection.written ++ request.frame, none⟩, ⟨ends, by rw [here.written], rfl⟩, ?_⟩
  simp only [Connection.writeAll, here.open_, Connection.readWith, andThen, read]

theorem connectOverStream_accepts {noise : List Arrival} {payload : List UInt8}
    {parts : AuthOkPayloadParts}
    (here : connection.At (arriving noise ++ (arriving [.brings ⟨.authOk, payload⟩] ++ later))
      written)
    (isNoise : Noise (authVerdict peer) noise) (small : payload.length < 2 ^ 32)
    (valid : validateAuthOkPayload payload = .ok ())
    (decoded : decodeAuthOkPayload payload = some parts) :
    ∃ after, Connection.At after later (written ++ RemoteMessage.frame ⟨.auth, []⟩) ∧
      connectOverStream ioText peer connection = (.ok parts, after) := by
  have accepted : authVerdict peer ⟨.authOk, payload⟩ = .accept := if_pos (.inl rfl)
  obtain ⟨after, there, same⟩ := exchange here isNoise small accepted _
  refine ⟨after, there, same.trans ?_⟩
  rw [if_pos rfl, valid]
  dsimp only
  rw [decoded]

theorem heartbeatRoundTrip_accepts {noise : List Arrival} {payload : List UInt8}
    (elapsedMs : UInt64)
    (here : connection.At (arriving noise ++ (arriving [.brings ⟨.heartbeatAck, payload⟩] ++ later))
      written)
    (isNoise : Noise (probeVerdict peer .heartbeatAck) noise) (small : payload.length < 2 ^ 32) :
    ∃ after, Connection.At after later (written ++ RemoteMessage.frame ⟨.heartbeat, payload⟩) ∧
      heartbeatRoundTrip ioText peer payload elapsedMs connection = (.ok elapsedMs, after) := by
  have accepted : probeVerdict peer .heartbeatAck ⟨.heartbeatAck, payload⟩ = .accept := if_pos rfl
  obtain ⟨after, there, same⟩ := exchange here isNoise small accepted _
  exact ⟨after, there, same.trans (if_neg (not_not_intro rfl))⟩

theorem listTabs_accepts {noise : List Arrival} {payload : List UInt8}
    {tabs : List RemoteTabInfo}
    (here : connection.At (arriving noise ++ (arriving [.brings ⟨.tabList, payload⟩] ++ later))
      written)
    (isNoise : Noise (probeVerdict peer .tabList) noise) (small : payload.length < 2 ^ 32)
    (decoded : decodeTabListPayload payload = .ok tabs) :
    ∃ after, Connection.At after later (written ++ RemoteMessage.frame ⟨.listTabs, []⟩) ∧
      listTabs ioText peer connection = (.ok tabs, after) := by
  have accepted : probeVerdict peer .tabList ⟨.tabList, payload⟩ = .accept := if_pos rfl
  obtain ⟨after, there, same⟩ := exchange here isNoise small accepted _
  refine ⟨after, there, same.trans ?_⟩
  rw [decoded]

/-- A tab as the server writes it. -/
def wireTab (tab : RemoteTabInfo) : WireTab :=
  ⟨tab.id, tab.name, tab.title, tab.pwd, tabFlags tab.active tab.childExited⟩

theorem decodeTabListPayload_encode {tabs : List RemoteTabInfo} (few : tabs.length < 2 ^ 32)
    (fits : ∀ tab ∈ tabs, (wireTab tab).Fits) :
    decodeTabListPayload (encodeTabList tabs) = .ok tabs := by
  have allFit : ∀ wire ∈ tabs.map wireTab, wire.Fits := by
    intro wire member
    obtain ⟨tab, held, rfl⟩ := List.mem_map.mp member
    exact fits tab held
  have few' : (tabs.map wireTab).length < 2 ^ 32 := by rwa [List.length_map]
  have infos : (tabs.map wireTab).map WireTab.info = tabs := by
    rw [List.map_map]
    refine (List.map_congr_left fun tab _ => ?_).trans (List.map_id tabs)
    simp [wireTab, WireTab.info, tabFlags_active, tabFlags_childExited]
  have decoded := decodeTabListPayload_bytes few' allFit
  rw [infos, List.length_map, List.flatMap_map] at decoded
  exact decoded

theorem length_listProbe : listProbe.length = 15 := by decide

/-- What the client writes. -/
def listRequests : List RemoteMessage :=
  [⟨.auth, []⟩, ⟨.heartbeat, listProbe⟩, ⟨.listTabs, []⟩]

/-- The reader of the server answers each of them, in order and once. -/
theorem readLoop_listRequests (J : JsonPayloads) (idleReason : Nat → Option IdleReason)
    {stream : ReadStream}
    (arrives : ticks stream = (listRequests.flatMap RemoteMessage.frame).map Tick.data) :
    (readLoop (J := J) idleReason 0 ⟨some ⟨true, false⟩, true⟩ stream).effects =
      [.authOk, .command .connected, .heartbeatAck listProbe, .command .listTabs,
        .clientRemoved] := by
  have empty (ty : MessageType) : (RemoteMessage.mk ty []).payload.length < 2 ^ 32 := by simp
  have probe : listProbe.length < 2 ^ 32 := by simp [length_listProbe]
  rw [listRequests, List.flatMap_cons, List.flatMap_cons, List.flatMap_singleton, List.map_append,
    List.map_append] at arrives
  obtain ⟨afterAuth, heartbeat, auth⟩ := readMessageRetrying_arrival (empty .auth) arrives 10
  obtain ⟨afterHeartbeat, list, beat⟩ := readMessageRetrying_arrival probe heartbeat 10
  rw [← List.append_nil (List.map Tick.data _)] at list
  obtain ⟨last, ends, listed⟩ := readMessageRetrying_arrival (empty .listTabs) list 10
  obtain ⟨rest, -, eof⟩ := readMessageRetrying_ended ends 10
  rw [readLoop_message idleReason 0 _ auth rfl, readLoop_message idleReason 1 _ beat rfl,
    readLoop_message idleReason 2 _ listed rfl, readLoop_eof idleReason 3 _ eof]
  rfl

/-- What a server sends to a client that lists its tabs, with noise before each reply. -/
def listReplies (authNoise heartbeatNoise listNoise : List Arrival)
    (buildId serverInstanceId : String) (tabs : List RemoteTabInfo) : List Arrival :=
  authNoise ++ .brings ⟨.authOk, encodeAuthOkPayload buildId serverInstanceId⟩ ::
    (heartbeatNoise ++ .brings ⟨.heartbeatAck, listProbe⟩ ::
      (listNoise ++ [.brings ⟨.tabList, encodeTabList tabs⟩]))

theorem arriving_reply (noise later : List Arrival) (reply : RemoteMessage) :
    arriving (noise ++ .brings reply :: later) =
      arriving noise ++ (arriving [.brings reply] ++ arriving later) := by
  rw [arriving, List.flatMap_append, List.flatMap_cons, ← arriving, ← arriving]
  simp [arriving]

def twoTabs : List RemoteTabInfo :=
  [⟨1, "sh", "zsh", "/home", true, false⟩, ⟨4, "log", "", "/", false, true⟩]

/-- A pause and an appearance come before the heartbeat, an appearance before the tabs, and a byte
behind them. -/
def pausedConnection : Connection :=
  ⟨pushFront (RemoteMessage.frame ⟨.authOk, encodeAuthOkPayload "1" "a"⟩)
    (.idle .timedOut :: pushFront (RemoteMessage.frame ⟨.uiAppearance, []⟩)
      (pushFront (RemoteMessage.frame ⟨.heartbeatAck, listProbe⟩)
        (pushFront (RemoteMessage.frame ⟨.uiAppearance, [7]⟩)
          (pushFront (RemoteMessage.frame ⟨.tabList, encodeTabList twoTabs⟩)
            (pushFront [0x47] []))))), [], none⟩

variable (ioText peer) (json : TabJson)

/-- What a message answers to a request for a tab; nothing if the client waits on. -/
def tabAnswer (message : RemoteMessage) : Option (Except String UInt32) :=
  match message.ty with
  | .uiRuntimeState =>
      match json.viewedTabId message.payload with
      | .error error =>
          some (.error ("failed to decode runtime state from " ++ peer ++ ": " ++ error))
      | .ok tabId => tabId.map .ok
  | .tabCreated =>
      match parseTabId message.payload with
      | some tabId => some (.ok tabId)
      | none => some (.error ("invalid tab-created payload from remote endpoint " ++ peer))
  | .errorMsg => some (.error ("remote endpoint " ++ peer ++ " rejected create-tab request"))
  | _ => none

/-- What a client writes about a message on which it waits. -/
def heartbeatReply (message : RemoteMessage) : List UInt8 :=
  if message.ty = .heartbeat then RemoteMessage.frame ⟨.heartbeatAck, message.payload⟩ else []

variable {ioText peer json}

theorem createTabReply_waits {message : RemoteMessage}
    (here : connection.At (message.frame.map Tick.data ++ later) written)
    (small : message.payload.length < 2 ^ 32) (noAnswer : tabAnswer peer json message = none) :
    ∃ after, Connection.At after later (written ++ heartbeatReply message) ∧
      createTabReply ioText peer json connection = createTabReply ioText peer json after := by
  obtain ⟨rest, ends, read⟩ := readMessageRetrying_arrival small here.incoming 0
  rw [createTabReply]
  split
  · rename_i found
    rw [read] at found
    cases found
  rename_i found
  rw [read] at found
  cases found
  rw [tabAnswer] at noAnswer
  rw [heartbeatReply]
  have quiet : Connection.At { connection with incoming := rest } later (written ++ []) :=
    ⟨ends, by rw [here.written, List.append_nil], here.open_⟩
  split at noAnswer
  · rename_i state
    rw [if_pos state, if_neg (by rw [state]; nofun)]
    split at noAnswer
    · cases noAnswer
    · rename_i viewed
      rw [Option.map_eq_none_iff] at noAnswer
      subst noAnswer
      rw [viewed]
      exact ⟨_, quiet, rfl⟩
  · split at noAnswer <;> cases noAnswer
  · cases noAnswer
  · rename_i noState noTab noError
    rw [if_neg noState, if_neg noTab]
    by_cases heartbeat : message.ty = .heartbeat
    · rw [if_pos heartbeat, if_pos heartbeat, here.open_, here.written]
      exact ⟨⟨rest, _, none⟩, ⟨ends, rfl, rfl⟩, rfl⟩
    · rw [if_neg heartbeat, if_neg heartbeat, if_neg noError]
      exact ⟨_, quiet, rfl⟩

theorem createTabReply_answers {message : RemoteMessage} {answer : Except String UInt32}
    (here : connection.At (message.frame.map Tick.data ++ later) written)
    (small : message.payload.length < 2 ^ 32)
    (answers : tabAnswer peer json message = some answer) :
    ∃ after, Connection.At after later written ∧
      createTabReply ioText peer json connection = (answer, after) := by
  obtain ⟨rest, ends, read⟩ := readMessageRetrying_arrival small here.incoming 0
  refine ⟨{ connection with incoming := rest }, ⟨ends, here.written, here.open_⟩, ?_⟩
  rw [createTabReply]
  split
  · rename_i found
    rw [read] at found
    cases found
  rename_i found
  rw [read] at found
  cases found
  rw [tabAnswer] at answers
  split at answers
  · rename_i state
    rw [if_pos state]
    split at answers
    · rename_i error
      cases answers
      rw [error]
    · rename_i viewed
      obtain ⟨tabId, rfl, rfl⟩ := Option.map_eq_some_iff.mp answers
      rw [viewed]
  · rename_i created
    rw [if_neg (by rw [created]; nofun), if_pos created]
    split at answers
    · cases answers
      rfl
    · cases answers
      rfl
  · rename_i error
    rw [if_neg (by rw [error]; nofun), if_neg (by rw [error]; nofun),
      if_neg (by rw [error]; nofun), if_pos error, Option.some.inj answers]
  · cases answers

theorem createTabReply_run {messages : List RemoteMessage}
    (here : connection.At ((messages.flatMap RemoteMessage.frame).map Tick.data) written)
    (small : ∀ message ∈ messages, message.payload.length < 2 ^ 32) :
    ∃ after, Connection.At after
        ((((messages.dropWhile fun message => (tabAnswer peer json message).isNone).drop
          1).flatMap RemoteMessage.frame).map Tick.data)
        (written ++ (messages.takeWhile fun message =>
          (tabAnswer peer json message).isNone).flatMap heartbeatReply) ∧
      createTabReply ioText peer json connection =
        ((messages.findSome? (tabAnswer peer json)).getD (.error
          ("failed to read create-tab reply from " ++ peer ++ ": " ++ ioText .unexpectedEof)),
            after) := by
  induction messages generalizing connection written with
  | nil =>
      obtain ⟨rest, ends, eof⟩ := readMessageRetrying_ended here.incoming 0
      refine ⟨{ connection with incoming := rest }, ⟨ends, ?_, here.open_⟩, ?_⟩
      · simp [here.written]
      · rw [createTabReply]
        split
        · rename_i found
          rw [eof] at found
          cases found
          rfl
        · rename_i found
          rw [eof] at found
          cases found
  | cons message messages ih =>
      have others : ∀ message ∈ messages, message.payload.length < 2 ^ 32 := fun other member =>
        small other (List.mem_cons_of_mem _ member)
      have first := small message List.mem_cons_self
      rw [List.flatMap_cons, List.map_append] at here
      cases answered : tabAnswer peer json message with
      | none =>
          obtain ⟨next, there, same⟩ := @createTabReply_waits ioText peer connection _ written json
            message here first answered
          obtain ⟨after, ends, returned⟩ := ih there others
          refine ⟨after, ?_, ?_⟩
          · simpa [answered] using ends
          · rw [same, returned, List.findSome?_cons, answered]
      | some answer =>
          obtain ⟨after, ends, returned⟩ := @createTabReply_answers ioText peer connection _ written
            json message answer here first answered
          refine ⟨after, ?_, ?_⟩
          · simpa [answered] using ends
          · rw [returned, List.findSome?_cons, answered, Option.getD_some]

/-- The first message that is an answer ends the wait, whichever tab it is about; until then every
heartbeat is answered once and in order, and what comes behind the answer stays in the stream. -/
theorem createTab_returns {cols rows : UInt16} {payload : List UInt8}
    {messages : List RemoteMessage} (open_ : connection.writeError = none)
    (action : json.newTab cols rows = .ok payload)
    (arrives : ticks connection.incoming =
      (messages.flatMap RemoteMessage.frame).map Tick.data)
    (small : ∀ message ∈ messages, message.payload.length < 2 ^ 32) :
    ∃ after, Connection.At after
        ((((messages.dropWhile fun message => (tabAnswer peer json message).isNone).drop
          1).flatMap RemoteMessage.frame).map Tick.data)
        (connection.written ++ RemoteMessage.frame ⟨.runtimeAction, payload⟩ ++
          (messages.takeWhile fun message =>
            (tabAnswer peer json message).isNone).flatMap heartbeatReply) ∧
      createTab ioText peer json cols rows connection =
        ((messages.findSome? (tabAnswer peer json)).getD (.error
          ("failed to read create-tab reply from " ++ peer ++ ": " ++ ioText .unexpectedEof)),
            after) := by
  rw [createTab, action]
  dsimp only
  rw [Connection.writeAll, open_]
  exact createTabReply_run ⟨arrives, rfl, rfl⟩ small

/-- A heartbeat is answered, and the created tab is returned. -/
theorem createTab_returns_heartbeat :
    ∃ after, Connection.At after []
        (RemoteMessage.frame ⟨.runtimeAction, [1]⟩ ++ RemoteMessage.frame ⟨.heartbeatAck, [2]⟩) ∧
      createTab (fun _ => "") "h:1" ⟨fun _ _ => .ok [1], fun _ => .ok none⟩ 80 24
        ⟨pushFront (RemoteMessage.frame ⟨.heartbeat, [2]⟩ ++
          RemoteMessage.frame ⟨.tabCreated, [3, 0, 0, 0]⟩) [], [], none⟩ = (.ok 3, after) := by
  let json : TabJson := ⟨fun _ _ => .ok [1], fun _ => .ok none⟩
  have waited : tabAnswer "h:1" json ⟨.heartbeat, [2]⟩ = none := rfl
  have answered : tabAnswer "h:1" json ⟨.tabCreated, [3, 0, 0, 0]⟩ = some (.ok 3) := rfl
  obtain ⟨after, there, same⟩ := @createTab_returns (fun _ => "") "h:1"
    ⟨pushFront (RemoteMessage.frame ⟨.heartbeat, [2]⟩ ++
      RemoteMessage.frame ⟨.tabCreated, [3, 0, 0, 0]⟩) [], [], none⟩ json 80 24 [1]
    [⟨.heartbeat, [2]⟩, ⟨.tabCreated, [3, 0, 0, 0]⟩] rfl rfl (by simp [ticks]) (by simp)
  refine ⟨after, ?_, ?_⟩
  · simpa [waited, answered, heartbeatReply] using there
  · rw [same]
    simp [waited, answered]

end Exchanges

end Boo.Remote.DirectTransport
