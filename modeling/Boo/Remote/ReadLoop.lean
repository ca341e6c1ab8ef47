/- module: Boo/Remote/ReadLoop
   digest: The per-client reader: exact reads with timeouts, framing and dispatch (remote_auth.rs). -/

import Boo.Lib.TickStream
import Boo.Wire.Message

set_option autoImplicit false
set_option relaxedAutoImplicit false

namespace Boo.Remote.ReadLoop

open Boo.Lib.LittleEndian
open Boo.Lib.TickStream
open Boo.Wire.Message

inductive IdleKind
  | timedOut
  | wouldBlock
  deriving DecidableEq, Repr

/-- What successive `read` calls find: bytes that arrived together, or an idle error. The
list ends where the peer closed the stream. -/
inductive ReadEvent
  | chunk (bytes : List UInt8) (nonempty : bytes ≠ [])
  | idle (kind : IdleKind)

abbrev ReadStream := List ReadEvent

inductive ReadError
  | idle (kind : IdleKind)
  | unexpectedEof
  | invalidData
  deriving DecidableEq, Repr

/-- Bytes that did not fit in the caller's buffer stay in front of the stream. -/
def pushFront (bytes : List UInt8) (stream : ReadStream) : ReadStream :=
  if h : bytes = [] then stream else .chunk bytes h :: stream

/-- `Read::read` into a buffer of `len` bytes. -/
def streamRead (stream : ReadStream) (len : Nat) : Except ReadError (List UInt8) × ReadStream :=
  match stream with
  | [] => (.ok [], [])
  | .chunk bytes _ :: stream => (.ok (bytes.take len), pushFront (bytes.drop len) stream)
  | .idle kind :: stream => (.error (.idle kind), stream)

/-- The stream byte by byte; read boundaries are forgotten, idle errors are kept. -/
def ticks : ReadStream → List (Tick UInt8 IdleKind)
  | [] => []
  | .chunk bytes _ :: stream => bytes.map Tick.data ++ ticks stream
  | .idle kind :: stream => .idle kind :: ticks stream

@[simp] theorem ticks_pushFront (bytes : List UInt8) (stream : ReadStream) :
    ticks (pushFront bytes stream) = bytes.map Tick.data ++ ticks stream := by
  rw [pushFront]
  split
  · rename_i empty
    rw [empty]
    rfl
  · rfl

theorem length_ticks_streamRead {stream rest : ReadStream} {len : Nat} (pos : 0 < len)
    {result : Except ReadError (List UInt8)} (h : streamRead stream len = (result, rest))
    (progress : result ≠ .ok []) : (ticks rest).length < (ticks stream).length := by
  cases stream with
  | nil =>
      cases h
      exact absurd rfl progress
  | cons event stream =>
      cases event with
      | chunk bytes nonempty =>
          cases h
          have size : 0 < bytes.length := List.length_pos_iff.mpr nonempty
          simp only [ticks, ticks_pushFront, List.length_append, List.length_map,
            List.length_drop]
          omega
      | idle kind =>
          cases h
          simp [ticks]

/-- The loop of `read_exact_retrying`; `got` holds `buf[..offset]`. -/
def readExactLoop (len maxIdleErrors : Nat) (got : List UInt8) (idleErrors : Nat)
    (stream : ReadStream) : Except ReadError (List UInt8) × ReadStream :=
  if _short : got.length < len then
    match _found : streamRead stream (len - got.length) with
    | (.ok [], rest) => (.error .unexpectedEof, rest)
    | (.ok (b :: bytes), rest) => readExactLoop len maxIdleErrors (got ++ b :: bytes) 0 rest
    | (.error (.idle kind), rest) =>
        if got.isEmpty then (.error (.idle kind), rest)
        else if maxIdleErrors < idleErrors + 1 then (.error (.idle kind), rest)
        else readExactLoop len maxIdleErrors got (idleErrors + 1) rest
    | (.error error, rest) => (.error error, rest)
  else (.ok got, stream)
termination_by (ticks stream).length
decreasing_by
  · exact length_ticks_streamRead (by omega) _found (by simp)
  · exact length_ticks_streamRead (by omega) _found (by simp)

def readExactRetrying (stream : ReadStream) (len maxIdleErrors : Nat) :
    Except ReadError (List UInt8) × ReadStream :=
  readExactLoop len maxIdleErrors [] 0 stream

structure RemoteMessage where
  ty : MessageType
  payload : List UInt8
  deriving DecidableEq

def RemoteMessage.frame (message : RemoteMessage) : List UInt8 :=
  encodeMessage message.ty message.payload

def readMessageRetrying (stream : ReadStream) (maxIdleErrors : Nat) :
    Except ReadError RemoteMessage × ReadStream :=
  match readExactRetrying stream headerLen maxIdleErrors with
  | (.error error, rest) => (.error error, rest)
  | (.ok header, rest) =>
      if header.take 2 ≠ magic then (.error .invalidData, rest)
      else
        match MessageType.tryFrom (u8At header 2) with
        | none => (.error .invalidData, rest)
        | some ty =>
            let payloadLen := (u32At header 3).toNat
            if 0 < payloadLen then
              match readExactRetrying rest payloadLen maxIdleErrors with
              | (.error error, rest) => (.error error, rest)
              | (.ok payload, rest) => (.ok ⟨ty, payload⟩, rest)
            else (.ok ⟨ty, []⟩, rest)

section Dispatch

/-- The JSON payload types and their deserialisers, which come from a library. -/
structure JsonPayloads where
  KeyEvent : Type
  MouseEvent : Type
  Action : Type
  RuntimeAction : Type
  keyEvent : List UInt8 → Option KeyEvent
  mouseEvent : List UInt8 → Option MouseEvent
  action : List UInt8 → Option Action
  runtimeActionEnvelope : List UInt8 → Option (UInt64 × RuntimeAction)
  runtimeAction : List UInt8 → Option RuntimeAction

/-- The commands that the reader sends to the server thread; each carries its client id,
which is constant here. -/
inductive RemoteCmd (J : JsonPayloads)
  | connected
  | listTabs
  | create (cols rows : UInt16)
  | input (bytes : List UInt8) (inputSeq : Option UInt64)
  | key (keyspec : String) (inputSeq : Option UInt64)
  | resize (cols rows : UInt16)
  | executeCommand (input : String)
  | appKeyEvent (event : J.KeyEvent)
  | appMouseEvent (event : J.MouseEvent)
  | appAction (action : J.Action)
  | focusPane (paneId : UInt64)
  | destroy (tabId : Option UInt32)
  | runtimeAction (clientActionId : Option UInt64) (action : J.RuntimeAction)
  | renderAck (viewId : UInt64) (tabId : UInt32) (paneId paneRevision runtimeRevision : UInt64)
  | rowRangeRequest (request : RemoteRowRangeRequest)

def parseResize (payload : List UInt8) : Option (UInt16 × UInt16) :=
  if 4 ≤ payload.length then some (u16At payload 0, u16At payload 2) else none

def parsePaneId (payload : List UInt8) : Option UInt64 :=
  if 8 ≤ payload.length then some (u64At payload 0) else none

def parseTabId (payload : List UInt8) : Option UInt32 :=
  if 4 ≤ payload.length then some (u32At payload 0) else none

def parseRowRangeRequest (payload : List UInt8) : Option RemoteRowRangeRequest :=
  if payload.length < 32 then none
  else some ⟨u64At payload 0, u64At payload 8, u64At payload 16, u64At payload 24⟩

def parseInputPayload (payload : List UInt8) (isLocal : Bool) :
    Option (Option UInt64 × List UInt8) :=
  if isLocal then
    if payload.length < 8 then none else some (some (u64At payload 0), payload.drop 8)
  else some (none, payload)

def parseKeyPayload (payload : List UInt8) (isLocal : Bool) :
    Option (Option UInt64 × List UInt8) :=
  parseInputPayload payload isLocal

def parseRenderAck (payload : List UInt8) :
    Option (UInt64 × UInt32 × UInt64 × UInt64 × UInt64) :=
  if payload.length < 36 then none
  else some (u64At payload 0, u32At payload 8, u64At payload 12, u64At payload 20,
    u64At payload 28)

/-- `String::from_utf8`. -/
def fromUtf8 (bytes : List UInt8) : Option String := String.fromUTF8? ⟨bytes.toArray⟩

variable (J : JsonPayloads)

def decodeRuntimeActionPayload (payload : List UInt8) :
    Option (Option UInt64 × J.RuntimeAction) :=
  match J.runtimeActionEnvelope payload with
  | some (clientActionId, action) => some (some clientActionId, action)
  | none => (J.runtimeAction payload).map fun action => (none, action)

/-- The translation of an authenticated message into a command; `none` is an invalid payload. -/
def translate (isLocal : Bool) (message : RemoteMessage) : Option (RemoteCmd J) :=
  let payload := message.payload
  match message.ty with
  | .listTabs => some .listTabs
  | .create => (parseResize payload).map fun (cols, rows) => .create cols rows
  | .input => (parseInputPayload payload isLocal).map fun (seq, bytes) => .input bytes seq
  | .key => (parseKeyPayload payload isLocal).bind fun (seq, bytes) =>
      (fromUtf8 bytes).map fun keyspec => .key keyspec seq
  | .resize => (parseResize payload).map fun (cols, rows) => .resize cols rows
  | .executeCommand => (fromUtf8 payload).map .executeCommand
  | .appKeyEvent => (J.keyEvent payload).map .appKeyEvent
  | .appMouseEvent => (J.mouseEvent payload).map .appMouseEvent
  | .appAction => (J.action payload).map .appAction
  | .focusPane => (parsePaneId payload).map .focusPane
  | .destroy => some (.destroy (parseTabId payload))
  | .runtimeAction => (decodeRuntimeActionPayload J payload).map fun (id, action) =>
      .runtimeAction id action
  | .renderAck => (parseRenderAck payload).map fun (view, tab, pane, paneRev, runtimeRev) =>
      .renderAck view tab pane paneRev runtimeRev
  | .rowRangeRequest => (parseRowRangeRequest payload).map .rowRangeRequest
  | _ => none

inductive RemoteErrorCode
  | unknown | authenticationFailed | unknownTab | failedCreateTab | noActiveTab
  | cannotDestroyLastTab | heartbeatTimeout
  deriving DecidableEq, Repr

def RemoteErrorCode.defaultMessage : RemoteErrorCode → String
  | unknown => "remote error"
  | authenticationFailed => "Authentication failed"
  | unknownTab => "unknown tab"
  | failedCreateTab => "failed to create tab"
  | noActiveTab => "no active tab"
  | cannotDestroyLastTab => "cannot destroy last tab"
  | heartbeatTimeout => "heartbeat timeout"

inductive Effect
  | command (cmd : RemoteCmd J)
  | authOk
  | authFail
  | heartbeatAck (payload : List UInt8)
  | directError (code : RemoteErrorCode) (text : String)
  | clientRemoved

/-- The entry of the client map that the reader consults. -/
structure ReaderClient where
  authenticated : Bool
  isLocal : Bool
  deriving DecidableEq

/-- `client` is `None` once the entry is gone; `commandOpen` says that the server thread
still receives commands. -/
structure ReaderState where
  client : Option ReaderClient
  commandOpen : Bool
  deriving DecidableEq

inductive AuthHandling
  | authenticated
  | disconnect
  deriving DecidableEq

def handleAuthMessage (state : ReaderState) : AuthHandling × ReaderState :=
  match state.client with
  | none => (.disconnect, state)
  | some client => (.authenticated, { state with client := some { client with authenticated := true } })

/-- The loop body after a message was read; the flag says whether the loop goes on. -/
def handleMessage (state : ReaderState) (message : RemoteMessage) :
    Bool × ReaderState × List (Effect J) :=
  let client := state.client.getD ⟨false, false⟩
  if message.ty = .auth then
    match handleAuthMessage state with
    | (.authenticated, state) => (true, state, [.authOk, .command .connected])
    | (.disconnect, state) => (false, state, [])
  else if !client.authenticated then
    (true, state, [.directError .authenticationFailed "authentication required"])
  else if message.ty = .heartbeat then (true, state, [.heartbeatAck message.payload])
  else
    match translate J client.isLocal message with
    | some command => (state.commandOpen, state, [.command command])
    | none => (true, state, [.directError .unknown "invalid payload"])

end Dispatch

/-- The two reasons `should_disconnect_idle_client` can give. -/
inductive IdleReason
  | heartbeatTimeout
  | authTimeout
  deriving DecidableEq

variable {J : JsonPayloads}

/-- What the loop did: the messages it handled in order, its effects, and the streams on
which it started to read a header. -/
structure LoopTrace (J : JsonPayloads) where
  handled : List RemoteMessage
  effects : List (Effect J)
  headerReads : List ReadStream

def disconnectEffects : IdleReason → List (Effect J)
  | .heartbeatTimeout =>
      [.directError .heartbeatTimeout RemoteErrorCode.heartbeatTimeout.defaultMessage]
  | .authTimeout => [.authFail]

theorem readExactLoop_shrinks {len maxIdleErrors idleErrors : Nat} {got : List UInt8}
    {stream rest : ReadStream} {result : Except ReadError (List UInt8)}
    (h : readExactLoop len maxIdleErrors got idleErrors stream = (result, rest)) :
    (ticks rest).length ≤ (ticks stream).length ∧
      (got.length < len → result ≠ .error .unexpectedEof →
        (ticks rest).length < (ticks stream).length) := by
  fun_induction readExactLoop len maxIdleErrors got idleErrors stream with
  | case1 got idleErrors stream filled rest' found =>
      cases h
      have same : (ticks rest).length ≤ (ticks stream).length := by
        cases stream with
        | nil => cases found; exact Nat.le_refl _
        | cons event stream =>
            cases event with
            | idle kind => cases found
            | chunk bytes nonempty =>
                simp only [streamRead, Prod.mk.injEq] at found
                rw [← found.2]
                simp [ticks]
      exact ⟨same, fun _ notEof => absurd rfl notEof⟩
  | case2 got idleErrors stream filled b bytes rest' found ih =>
      have first := length_ticks_streamRead (by omega) found (by simp)
      have later := (ih h).1
      exact ⟨by omega, fun _ _ => by omega⟩
  | case3 got idleErrors stream filled kind rest' found =>
      cases h
      have first := length_ticks_streamRead (by omega) found (by simp)
      exact ⟨by omega, fun _ _ => by omega⟩
  | case4 got idleErrors stream filled kind rest' found =>
      cases h
      have first := length_ticks_streamRead (by omega) found (by simp)
      exact ⟨by omega, fun _ _ => by omega⟩
  | case5 got idleErrors stream filled kind rest' found _ _ ih =>
      have first := length_ticks_streamRead (by omega) found (by simp)
      have later := (ih h).1
      exact ⟨by omega, fun _ _ => by omega⟩
  | case6 got idleErrors stream filled error rest' notIdle found =>
      cases h
      have first := length_ticks_streamRead (by omega) found (by simp)
      exact ⟨by omega, fun _ _ => by omega⟩
  | case7 got idleErrors stream filled =>
      cases h
      exact ⟨Nat.le_refl _, fun more => absurd more filled⟩

/-- Every read of a message that does not end the loop makes progress. -/
theorem readMessageRetrying_shrinks {stream rest : ReadStream} {maxIdleErrors : Nat}
    {result : Except ReadError RemoteMessage}
    (h : readMessageRetrying stream maxIdleErrors = (result, rest))
    (notEof : result ≠ .error .unexpectedEof) :
    (ticks rest).length < (ticks stream).length := by
  unfold readMessageRetrying at h
  cases header : readExactRetrying stream headerLen maxIdleErrors with
  | mk headerResult afterHeader =>
      have progress := readExactLoop_shrinks header
      rw [header] at h
      cases headerResult with
      | error error =>
          cases h
          exact progress.2 (by decide) fun same => notEof (by cases same; rfl)
      | ok bytes =>
          have first := progress.2 (by decide) (by simp)
          dsimp only at h
          split at h
          · cases h
            exact first
          · split at h
            · cases h
              exact first
            · split at h
              · rename_i ty _ _
                cases payload : readExactRetrying afterHeader (u32At bytes 3).toNat
                    maxIdleErrors with
                | mk payloadResult afterPayload =>
                    have later := (readExactLoop_shrinks payload).1
                    rw [payload] at h
                    cases payloadResult <;> cases h <;> omega
              · cases h
                exact first

/-- `read_loop`: `idleReason n` is the verdict of `should_disconnect_idle_client` in
iteration `n`, which depends on the clock. -/
def readLoop (idleReason : Nat → Option IdleReason) (iteration : Nat) (state : ReaderState)
    (stream : ReadStream) : LoopTrace J :=
  match _found : readMessageRetrying stream 10 with
  | (.error (.idle _), rest) =>
      match idleReason iteration with
      | some reason => ⟨[], disconnectEffects reason ++ [.clientRemoved], [stream]⟩
      | none =>
          let later := readLoop idleReason (iteration + 1) state rest
          { later with headerReads := stream :: later.headerReads }
  | (.error _, _) => ⟨[], [.clientRemoved], [stream]⟩
  | (.ok message, rest) =>
      match handleMessage J state message with
      | (false, _, effects) => ⟨[message], effects ++ [.clientRemoved], [stream]⟩
      | (true, state, effects) =>
          let later := readLoop idleReason (iteration + 1) state rest
          { handled := message :: later.handled
            effects := effects ++ later.effects
            headerReads := stream :: later.headerReads }
termination_by (ticks stream).length
decreasing_by
  · exact readMessageRetrying_shrinks _found (by simp)
  · exact readMessageRetrying_shrinks _found (by simp)

end Boo.Remote.ReadLoop
