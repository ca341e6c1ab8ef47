/- module: Boo/Remote/ClientSessions
   digest: A client of the daemon from its connection on, with the clock. -/

import Mathlib.Data.List.Induction
import Boo.Remote.Reassembly

set_option autoImplicit false
set_option relaxedAutoImplicit false

namespace Boo.Remote.ClientSessions

open Boo.Lib.TickStream
open Boo.Wire.Message
open Boo.Remote.ReadLoop
open Boo.Remote.Reassembly

/-- Thirty seconds in nanoseconds. -/
def authChallengeWindow : Nat := 30 * 1000000000

/-- Twenty seconds in nanoseconds. -/
def directClientHeartbeatWindow : Nat := 20 * 1000000000

/-- The fields of `ClientState` that the reader thread reads and writes. -/
structure ClientState where
  isLocal : Bool
  connectedAt : Nat
  authenticated : Bool
  authenticatedAt : Option Nat
  lastHeartbeatAt : Option Nat
  deriving DecidableEq

namespace ClientState

/-- Both listeners insert a client as authenticated. -/
def connect (isLocal : Bool) (now : Nat) : ClientState := ⟨isLocal, now, true, some now, none⟩

/-- The subtraction of `Nat` is `saturating_duration_since`. -/
def shouldDisconnectIdleClient (client : ClientState) (now : Nat) : Option IdleReason :=
  if client.authenticated then
    if client.isLocal then none
    else
      match client.lastHeartbeatAt.or client.authenticatedAt with
      | none => none
      | some lastLiveness =>
          if directClientHeartbeatWindow < now - lastLiveness then some .heartbeatTimeout else none
  else if authChallengeWindow < now - client.connectedAt then some .authTimeout
  else none

/-- What a message writes into the state. -/
def noted (client : ClientState) (now : Nat) (ty : MessageType) : ClientState :=
  if ty = .auth then { client with authenticated := true, authenticatedAt := some now }
  else if client.authenticated ∧ ty = .heartbeat then { client with lastHeartbeatAt := some now }
  else client

end ClientState

/-- What a turn of the loop finds: a message and whether the server thread still takes commands,
a pause, or a stream that is closed or broken. -/
inductive Turn
  | message (now : Nat) (commandOpen : Bool) (message : RemoteMessage)
  | idle (now : Nat)
  | failed

section Sessions

variable (J : JsonPayloads)

/-- The reader's client, until its entry is removed, and what the reader did. -/
structure Session where
  client : Option ClientState
  effects : List (Effect J)

namespace Session

variable {J}

/-- A turn of `read_loop`. -/
def step (session : Session J) (turn : Turn) : Session J :=
  match session.client with
  | none => session
  | some client =>
      match turn with
      | .failed => ⟨none, session.effects ++ [.clientRemoved]⟩
      | .idle now =>
          match client.shouldDisconnectIdleClient now with
          | some reason => ⟨none, session.effects ++ (disconnectEffects reason ++ [.clientRemoved])⟩
          | none => session
      | .message now commandOpen message =>
          match handleMessage J ⟨some ⟨client.authenticated, client.isLocal⟩, commandOpen⟩
              message with
          | (true, _, effects) => ⟨some (client.noted now message.ty), session.effects ++ effects⟩
          | (false, _, effects) => ⟨none, session.effects ++ (effects ++ [.clientRemoved])⟩

def run (isLocal : Bool) (connectedAt : Nat) (turns : List Turn) : Session J :=
  turns.foldl step ⟨some (.connect isLocal connectedAt), []⟩

end Session

end Sessions

section History

/-- When messages of a type came. -/
def timesOf (ty : MessageType) (turns : List Turn) : List Nat :=
  turns.filterMap fun
    | .message now _ message => if message.ty = ty then some now else none
    | _ => none

/-- The last authentication; a connection is one. -/
def lastAuth (connectedAt : Nat) (turns : List Turn) : Nat :=
  (timesOf .auth turns).getLast?.getD connectedAt

/-- The last sign of life: a heartbeat if there was one, otherwise an authentication. -/
def lastLiveness (connectedAt : Nat) (turns : List Turn) : Nat :=
  (timesOf .heartbeat turns).getLast?.getD (lastAuth connectedAt turns)

/-- The client after turns that have not ended its session. -/
def clientAfter (isLocal : Bool) (connectedAt : Nat) (turns : List Turn) : ClientState where
  isLocal := isLocal
  connectedAt := connectedAt
  authenticated := true
  authenticatedAt := some (lastAuth connectedAt turns)
  lastHeartbeatAt := (timesOf .heartbeat turns).getLast?

variable (J : JsonPayloads) (isLocal : Bool) (connectedAt : Nat)

/-- The turns that end a session, after others: the stream fails; the client is remote and pauses
more than twenty seconds after its last sign of life; or its command finds no server thread. -/
def Ends (before : List Turn) : Turn → Prop
  | .failed => True
  | .idle now =>
      isLocal = false ∧ lastLiveness connectedAt before + directClientHeartbeatWindow < now
  | .message _ commandOpen sent =>
      commandOpen = false ∧ sent.ty ≠ .auth ∧ sent.ty ≠ .heartbeat ∧
        (translate J isLocal sent).isSome

/-- What a session that goes on does about a turn. -/
def reply : Turn → List (Effect J)
  | .message _ _ sent =>
      if sent.ty = .auth then [.authOk, .command .connected]
      else if sent.ty = .heartbeat then [.heartbeatAck sent.payload]
      else
        match translate J isLocal sent with
        | some command => [.command command]
        | none => [.directError .unknown "invalid payload"]
  | _ => []

/-- What the turn that ends a session leads to. -/
def farewell (turn : Turn) : List (Effect J) :=
  match turn with
  | .failed => [.clientRemoved]
  | .idle _ => disconnectEffects .heartbeatTimeout ++ [.clientRemoved]
  | .message .. => reply J isLocal turn ++ [.clientRemoved]

/-- None of the turns ends the session. -/
def GoesOn (turns : List Turn) : Prop :=
  ∀ before turn, before ++ [turn] <+: turns → ¬ Ends J isLocal connectedAt before turn

variable {J isLocal connectedAt}

theorem timesOf_concat (ty : MessageType) (turns : List Turn) (turn : Turn) :
    timesOf ty (turns ++ [turn]) = timesOf ty turns ++ timesOf ty [turn] := List.filterMap_append

theorem timesOf_message (ty : MessageType) (now : Nat) (commandOpen : Bool)
    (sent : RemoteMessage) :
    timesOf ty [.message now commandOpen sent] = if sent.ty = ty then [now] else [] := by
  by_cases same : sent.ty = ty <;> simp [timesOf, same]

/-- What a message notes is what the history says. -/
theorem noted_clientAfter (before : List Turn) (now : Nat) (commandOpen : Bool)
    (sent : RemoteMessage) :
    (clientAfter isLocal connectedAt before).noted now sent.ty =
      clientAfter isLocal connectedAt (before ++ [.message now commandOpen sent]) := by
  rw [ClientState.noted, clientAfter, clientAfter, lastAuth, lastAuth, timesOf_concat,
    timesOf_concat, timesOf_message, timesOf_message]
  by_cases auth : sent.ty = .auth
  · simp [auth]
  · by_cases heartbeat : sent.ty = .heartbeat <;> simp [auth, heartbeat]

theorem idle_clientAfter (before : List Turn) (now : Nat) :
    clientAfter isLocal connectedAt (before ++ [.idle now]) =
      clientAfter isLocal connectedAt before := by
  rw [clientAfter, clientAfter, lastAuth, lastAuth, timesOf_concat, timesOf_concat]
  simp [timesOf]

/-- A pause is looked at by the last sign of life, and only for a remote client. -/
theorem shouldDisconnectIdleClient_clientAfter (before : List Turn) (now : Nat) :
    (clientAfter isLocal connectedAt before).shouldDisconnectIdleClient now =
      if isLocal = false ∧ lastLiveness connectedAt before + directClientHeartbeatWindow < now then
        some .heartbeatTimeout
      else none := by
  have live : (timesOf .heartbeat before).getLast?.or (some (lastAuth connectedAt before)) =
      some (lastLiveness connectedAt before) := by
    rw [lastLiveness]
    cases (timesOf .heartbeat before).getLast? <;> rfl
  have late : directClientHeartbeatWindow < now - lastLiveness connectedAt before ↔
      lastLiveness connectedAt before + directClientHeartbeatWindow < now := by omega
  rw [ClientState.shouldDisconnectIdleClient, clientAfter]
  dsimp only
  rw [if_pos rfl, live]
  cases isLocal <;> simp [late]

theorem Session.step_ends {session : Session J} {before : List Turn} {turn : Turn}
    (here : session.client = some (clientAfter isLocal connectedAt before))
    (ends : Ends J isLocal connectedAt before turn) :
    session.step turn = ⟨none, session.effects ++ farewell J isLocal turn⟩ := by
  rw [Session.step, here]
  cases turn with
  | failed => rfl
  | idle now =>
      rw [Ends] at ends
      dsimp only
      rw [shouldDisconnectIdleClient_clientAfter, if_pos ends]
      rfl
  | message now commandOpen sent =>
      obtain ⟨rfl, noAuth, noHeartbeat, translates⟩ := ends
      obtain ⟨command, translated⟩ := Option.isSome_iff_exists.mp translates
      simp [handleMessage, clientAfter, farewell, reply, noAuth, noHeartbeat, translated]

theorem Session.step_goes_on {session : Session J} {before : List Turn} {turn : Turn}
    (here : session.client = some (clientAfter isLocal connectedAt before))
    (goesOn : ¬ Ends J isLocal connectedAt before turn) :
    session.step turn = ⟨some (clientAfter isLocal connectedAt (before ++ [turn])),
      session.effects ++ reply J isLocal turn⟩ := by
  rw [Session.step, here]
  cases turn with
  | failed => exact absurd trivial goesOn
  | idle now =>
      rw [Ends] at goesOn
      dsimp only
      rw [shouldDisconnectIdleClient_clientAfter, if_neg goesOn, idle_clientAfter, ← here]
      simp [reply]
  | message now commandOpen sent =>
      rw [← noted_clientAfter before now commandOpen sent, reply]
      by_cases auth : sent.ty = .auth
      · simp [handleMessage, handleAuthMessage, auth]
      by_cases heartbeat : sent.ty = .heartbeat
      · simp [handleMessage, clientAfter, heartbeat]
      cases translated : translate J isLocal sent with
      | none => simp [handleMessage, clientAfter, auth, heartbeat, translated]
      | some command =>
          have taken : commandOpen = true := by
            by_contra closed
            refine goesOn ⟨Bool.eq_false_iff.mpr closed, auth, heartbeat, ?_⟩
            rw [translated]
            rfl
          simp [handleMessage, clientAfter, auth, heartbeat, translated, taken]

theorem Session.step_of_ended {session : Session J} (ended : session.client = none)
    (turns : List Turn) : turns.foldl Session.step session = session := by
  induction turns with
  | nil => rfl
  | cons turn turns ih =>
      have stays : session.step turn = session := by rw [Session.step, ended]
      rw [List.foldl_cons, stays, ih]

theorem goesOn_concat {turns : List Turn} {turn : Turn} :
    GoesOn J isLocal connectedAt (turns ++ [turn]) ↔
      GoesOn J isLocal connectedAt turns ∧ ¬ Ends J isLocal connectedAt turns turn := by
  constructor
  · intro goesOn
    exact ⟨fun before next part => goesOn before next (part.trans (List.prefix_append _ _)),
      goesOn turns turn (List.prefix_refl _)⟩
  · rintro ⟨goesOn, last⟩ before next part
    rcases List.prefix_concat_iff.mp part with whole | part
    · obtain ⟨rfl, rfl⟩ := List.append_singleton_inj.mp whole
      exact last
    · exact goesOn before next part

theorem Session.run_concat (before : List Turn) (turn : Turn) :
    (Session.run isLocal connectedAt (before ++ [turn]) : Session J) =
      (Session.run isLocal connectedAt before).step turn := by
  rw [run, List.foldl_append]
  rfl

/-- A session that goes on has answered every message once and in order. -/
theorem Session.run_of_goesOn {turns : List Turn} (goesOn : GoesOn J isLocal connectedAt turns) :
    (Session.run isLocal connectedAt turns : Session J) =
      ⟨some (clientAfter isLocal connectedAt turns), turns.flatMap (reply J isLocal)⟩ := by
  induction turns using List.reverseRecOn with
  | nil => rfl
  | append_singleton turns turn ih =>
      obtain ⟨before, stays⟩ := goesOn_concat.mp goesOn
      have here : (Session.run isLocal connectedAt turns : Session J).client =
          some (clientAfter isLocal connectedAt turns) := by rw [ih before]
      rw [Session.run_concat, Session.step_goes_on here stays, ih before, List.flatMap_append,
        List.flatMap_singleton]

/-- The first turn that ends the session is its last one. -/
theorem Session.run_of_ends {passed later : List Turn} {turn : Turn}
    (goesOn : GoesOn J isLocal connectedAt passed)
    (ends : Ends J isLocal connectedAt passed turn) :
    (Session.run isLocal connectedAt (passed ++ turn :: later) : Session J) =
      ⟨none, passed.flatMap (reply J isLocal) ++ farewell J isLocal turn⟩ := by
  have before := Session.run_of_goesOn goesOn
  have here : (Session.run isLocal connectedAt passed : Session J).client =
      some (clientAfter isLocal connectedAt passed) := by rw [before]
  have last := Session.step_ends here ends
  rw [before] at last
  rw [run, List.foldl_append, List.foldl_cons, ← run, before, last]
  exact Session.step_of_ended rfl later

/-- Some turn is the first that ends the session, or none does. -/
theorem goesOn_or_ends (turns : List Turn) :
    GoesOn J isLocal connectedAt turns ∨
      ∃ passed turn later, turns = passed ++ turn :: later ∧
        GoesOn J isLocal connectedAt passed ∧ Ends J isLocal connectedAt passed turn := by
  induction turns using List.reverseRecOn with
  | nil =>
      refine .inl fun before turn part => ?_
      have none := List.prefix_nil.mp part
      simp at none
  | append_singleton turns turn ih =>
      rcases ih with goesOn | ⟨passed, first, later, rfl, goesOn, ends⟩
      · by_cases ends : Ends J isLocal connectedAt turns turn
        · exact .inr ⟨turns, turn, [], rfl, goesOn, ends⟩
        · exact .inl (goesOn_concat.mpr ⟨goesOn, ends⟩)
      · exact .inr ⟨passed, first, later ++ [turn], by simp, goesOn, ends⟩

end History

section Streams

variable (J : JsonPayloads) (clock : Nat → Nat)

/-- The turns that `read_loop` makes of a stream, each at its time. -/
def turnsOf (iteration : Nat) (stream : ReadStream) : List Turn :=
  match _found : readMessageRetrying stream 10 with
  | (.error (.idle _), rest) => .idle (clock iteration) :: turnsOf (iteration + 1) rest
  | (.error _, _) => [.failed]
  | (.ok message, rest) =>
      .message (clock iteration) true message :: turnsOf (iteration + 1) rest
termination_by (ticks stream).length
decreasing_by
  all_goals exact readMessageRetrying_shrinks _found (by simp)

/-- What the clock makes of a pause in each turn. -/
def verdictAt (isLocal : Bool) (connectedAt : Nat) (turns : List Turn) (iteration : Nat) :
    Option IdleReason :=
  (Session.run isLocal connectedAt (turns.take iteration) : Session J).client.bind fun client =>
    client.shouldDisconnectIdleClient (clock iteration)

variable {J clock} {isLocal : Bool} {connectedAt : Nat}

theorem verdictAt_split {before later : List Turn} {client : ClientState}
    (alive : (Session.run isLocal connectedAt before : Session J).client = some client) :
    verdictAt J clock isLocal connectedAt (before ++ later) before.length =
      client.shouldDisconnectIdleClient (clock before.length) := by
  rw [verdictAt, List.take_left, alive, Option.bind_some]

theorem handleMessage_noted (client : ClientState) (now : Nat) (sent : RemoteMessage) :
    ∃ effects, handleMessage J ⟨some ⟨client.authenticated, client.isLocal⟩, true⟩ sent =
      (true, ⟨some ⟨(client.noted now sent.ty).authenticated,
        (client.noted now sent.ty).isLocal⟩, true⟩, effects) := by
  rw [ClientState.noted, handleMessage]
  by_cases auth : sent.ty = .auth
  · simp [handleAuthMessage, auth]
  by_cases known : client.authenticated
  · by_cases heartbeat : sent.ty = .heartbeat
    · simp [known, heartbeat]
    · cases translated : translate J client.isLocal sent <;>
        simp [auth, known, heartbeat, translated]
  · simp [auth, known]

section Loop

variable (idleReason : Nat → Option IdleReason) (iteration : Nat) (state : ReaderState)
  {stream rest : ReadStream}

theorem readLoop_disconnect {kind : IdleKind} {reason : IdleReason}
    (found : readMessageRetrying stream 10 = (.error (.idle kind), rest))
    (ends : idleReason iteration = some reason) :
    readLoop (J := J) idleReason iteration state stream =
      ⟨[], disconnectEffects reason ++ [.clientRemoved], [stream]⟩ := by
  rw [readLoop]
  split
  · rename_i same
    rw [found] at same
    cases same
    rw [ends]
  · rename_i other same
    rw [found] at same
    cases same
    exact absurd rfl (other kind)
  · rename_i same
    rw [found] at same
    cases same

theorem readLoop_failed {error : ReadError} (failed : ∀ kind, error ≠ .idle kind)
    (found : readMessageRetrying stream 10 = (.error error, rest)) :
    readLoop (J := J) idleReason iteration state stream = ⟨[], [.clientRemoved], [stream]⟩ := by
  rw [readLoop]
  split
  · rename_i kind _ same
    rw [found] at same
    cases same
    exact absurd rfl (failed kind)
  · rfl
  · rename_i same
    rw [found] at same
    cases same

end Loop

theorem Session.run_append_of_ended {before : List Turn}
    (ended : (Session.run isLocal connectedAt before : Session J).client = none)
    (later : List Turn) :
    (Session.run isLocal connectedAt (before ++ later) : Session J) =
      Session.run isLocal connectedAt before := by
  rw [run, List.foldl_append]
  exact Session.step_of_ended ended later

/-- The rest of a loop, from a client that goes on. -/
theorem effects_run_append {iteration : Nat} {stream : ReadStream} {before whole : List Turn}
    {client : ClientState} (here : iteration = before.length)
    (split : whole = before ++ turnsOf clock iteration stream)
    (alive : (Session.run isLocal connectedAt before : Session J).client = some client) :
    (Session.run isLocal connectedAt whole : Session J).effects =
      (Session.run isLocal connectedAt before).effects ++
        (readLoop (verdictAt J clock isLocal connectedAt whole) iteration
          ⟨some ⟨client.authenticated, client.isLocal⟩, true⟩ stream).effects := by
  induction size : (ticks stream).length using Nat.strong_induction_on
    generalizing iteration stream before client with
  | _ n ih =>
  subst size
  subst here
  have longer (turn : Turn) : before.length + 1 = (before ++ [turn]).length := by simp
  have verdict := @verdictAt_split J clock isLocal connectedAt before
    (turnsOf clock before.length stream) client alive
  rw [← split] at verdict
  rw [turnsOf] at split
  split at split
  · rename_i kind rest found
    have shrinks := readMessageRetrying_shrinks found (by simp)
    have stepped := @Session.run_concat J isLocal connectedAt before (.idle (clock before.length))
    rw [Session.step, alive] at stepped
    dsimp only at stepped
    rw [← List.singleton_append, ← List.append_assoc] at split
    cases reason : client.shouldDisconnectIdleClient (clock before.length) with
    | none =>
        rw [reason] at stepped verdict
        dsimp only at stepped
        have going : (Session.run isLocal connectedAt
            (before ++ [.idle (clock before.length)]) : Session J).client = some client := by
          rw [stepped, alive]
        rw [readLoop_idle _ _ _ found verdict, ih _ shrinks (longer _) split going rfl, stepped]
    | some reason =>
        rw [reason] at stepped verdict
        dsimp only at stepped
        have ended : (Session.run isLocal connectedAt
            (before ++ [.idle (clock before.length)]) : Session J).client = none := by rw [stepped]
        rw [readLoop_disconnect _ _ _ found verdict]
        nth_rewrite 1 [split]
        rw [Session.run_append_of_ended ended, stepped]
  · rename_i error _ failed found
    have stepped := @Session.run_concat J isLocal connectedAt before .failed
    rw [Session.step, alive] at stepped
    rw [readLoop_failed _ _ _ failed found]
    nth_rewrite 1 [split]
    rw [stepped]
  · rename_i sent rest found
    have shrinks := readMessageRetrying_shrinks found (by simp)
    have stepped := @Session.run_concat J isLocal connectedAt before
      (.message (clock before.length) true sent)
    obtain ⟨effects, handled⟩ := @handleMessage_noted J client (clock before.length) sent
    rw [Session.step, alive] at stepped
    dsimp only at stepped
    rw [handled] at stepped
    dsimp only at stepped
    rw [← List.singleton_append, ← List.append_assoc] at split
    have going : (Session.run isLocal connectedAt
        (before ++ [.message (clock before.length) true sent]) : Session J).client =
          some (client.noted (clock before.length) sent.ty) := by rw [stepped]
    rw [readLoop_message _ _ _ found handled, ih _ shrinks (longer _) split going rfl, stepped,
      List.append_assoc]

section Turns

variable (clock : Nat → Nat) (iteration : Nat) {stream rest : ReadStream}

theorem turnsOf_idle {kind : IdleKind}
    (found : readMessageRetrying stream 10 = (.error (.idle kind), rest)) :
    turnsOf clock iteration stream =
      .idle (clock iteration) :: turnsOf clock (iteration + 1) rest := by
  rw [turnsOf]
  split
  · rename_i same
    rw [found] at same
    cases same
    rfl
  · rename_i other same
    rw [found] at same
    cases same
    exact absurd rfl (other kind)
  · rename_i same
    rw [found] at same
    cases same

theorem turnsOf_message {message : RemoteMessage}
    (found : readMessageRetrying stream 10 = (.ok message, rest)) :
    turnsOf clock iteration stream =
      .message (clock iteration) true message :: turnsOf clock (iteration + 1) rest := by
  rw [turnsOf]
  split
  · rename_i same
    rw [found] at same
    cases same
  · rename_i same
    rw [found] at same
    cases same
  · rename_i same
    rw [found] at same
    cases same
    rfl

theorem turnsOf_ended (ended : ticks stream = []) : turnsOf clock iteration stream = [.failed] := by
  obtain ⟨rest, -, eof⟩ := readMessageRetrying_ended ended 10
  rw [turnsOf]
  split
  · rename_i same
    rw [eof] at same
    cases same
  · rfl
  · rename_i same
    rw [eof] at same
    cases same

end Turns

theorem failed_mem_turnsOf (clock : Nat → Nat) (iteration : Nat) (stream : ReadStream) :
    Turn.failed ∈ turnsOf clock iteration stream := by
  fun_induction turnsOf clock iteration stream with
  | case1 iteration stream kind rest found ih => exact List.mem_cons_of_mem _ ih
  | case2 => exact List.mem_cons_self
  | case3 iteration stream message rest found ih => exact List.mem_cons_of_mem _ ih

/-- The reader of a stream, with whatever pauses and at whatever times: up to the first turn that
ends the session every message has its reply, once and in order, and that turn is the last one. A
remote client is told to leave for its silence exactly at a pause more than twenty seconds after
its last heartbeat, or, before the first one, after it last authenticated or connected. -/
theorem readLoop_session (J : JsonPayloads) (isLocal : Bool) (connectedAt : Nat)
    (clock : Nat → Nat) (stream : ReadStream) :
    ∃ passed turn later, turnsOf clock 0 stream = passed ++ turn :: later ∧
      GoesOn J isLocal connectedAt passed ∧ Ends J isLocal connectedAt passed turn ∧
        (readLoop (verdictAt J clock isLocal connectedAt (turnsOf clock 0 stream)) 0
            ⟨some ⟨true, isLocal⟩, true⟩ stream).effects =
          passed.flatMap (reply J isLocal) ++ farewell J isLocal turn := by
  have effects := @effects_run_append J clock isLocal connectedAt 0 stream [] _
    (.connect isLocal connectedAt) rfl rfl rfl
  have same : (readLoop (verdictAt J clock isLocal connectedAt (turnsOf clock 0 stream)) 0
      ⟨some ⟨true, isLocal⟩, true⟩ stream).effects =
        (Session.run isLocal connectedAt (turnsOf clock 0 stream) : Session J).effects :=
    effects.symm
  rcases @goesOn_or_ends J isLocal connectedAt (turnsOf clock 0 stream) with
    goesOn | ⟨passed, turn, later, split, goesOn, ends⟩
  · obtain ⟨before, later, split⟩ := List.append_of_mem (failed_mem_turnsOf clock 0 stream)
    refine absurd trivial (goesOn before .failed ⟨later, ?_⟩)
    rw [split, List.append_assoc, List.singleton_append]
  · refine ⟨passed, turn, later, split, goesOn, ends, ?_⟩
    rw [same, split, Session.run_of_ends goesOn ends]

end Streams

/-- A heartbeat and a request for the tabs, and then silence. -/
def silentClient : ReadStream :=
  pushFront (RemoteMessage.frame ⟨.heartbeat, [7]⟩ ++ RemoteMessage.frame ⟨.listTabs, []⟩)
    [.idle .timedOut, .idle .timedOut, .idle .timedOut]

/-- Eight seconds from one turn to the next. -/
def everyEight (turn : Nat) : Nat := (turn + 1) * (8 * 1000000000)

theorem turnsOf_silentClient :
    turnsOf everyEight 0 silentClient =
      [.message (everyEight 0) true ⟨.heartbeat, [7]⟩, .message (everyEight 1) true ⟨.listTabs, []⟩,
        .idle (everyEight 2), .idle (everyEight 3), .idle (everyEight 4), .failed] := by
  have arrives : ticks silentClient = (RemoteMessage.frame ⟨.heartbeat, [7]⟩).map Tick.data ++
      ((RemoteMessage.frame ⟨.listTabs, []⟩).map Tick.data ++
        [.idle .timedOut, .idle .timedOut, .idle .timedOut]) := by
    simp [silentClient, ticks]
  obtain ⟨afterBeat, list, beat⟩ := readMessageRetrying_arrival (by simp) arrives 10
  obtain ⟨afterList, silence, listed⟩ := readMessageRetrying_arrival (by simp) list 10
  obtain ⟨afterFirst, second, first⟩ := readMessageRetrying_idle 10 silence
  obtain ⟨afterSecond, third, paused⟩ := readMessageRetrying_idle 10 second
  obtain ⟨afterThird, ended, pausedAgain⟩ := readMessageRetrying_idle 10 third
  rw [turnsOf_message everyEight 0 beat, turnsOf_message everyEight 1 listed,
    turnsOf_idle everyEight 2 first, turnsOf_idle everyEight 3 paused,
    turnsOf_idle everyEight 4 pausedAgain, turnsOf_ended everyEight 5 ended]

/-- Sixteen seconds after its heartbeat it stays, twenty-four seconds after it it is told to leave:
the request in between is no sign of life. -/
theorem readLoop_session_silentClient :
    (readLoop (J := noJson) (verdictAt noJson everyEight false 0 (turnsOf everyEight 0 silentClient))
        0 ⟨some ⟨true, false⟩, true⟩ silentClient).effects =
      [.heartbeatAck [7], .command .listTabs,
        .directError .heartbeatTimeout RemoteErrorCode.heartbeatTimeout.defaultMessage,
        .clientRemoved] := by
  obtain ⟨passed, turn, later, split, goesOn, ends, effects⟩ :=
    readLoop_session noJson false 0 everyEight silentClient
  rw [effects]
  rw [turnsOf_silentClient] at split
  rcases passed with _ | ⟨first, _ | ⟨second, _ | ⟨third, _ | ⟨fourth, passed⟩⟩⟩⟩
  · simp only [List.nil_append, List.cons.injEq] at split
    rw [← split.1] at ends
    cases ends.1
  · simp only [List.cons_append, List.nil_append, List.cons.injEq] at split
    rw [← split.2.1] at ends
    cases ends.1
  · simp only [List.cons_append, List.nil_append, List.cons.injEq] at split
    obtain ⟨rfl, rfl, rfl, -⟩ := split
    exact absurd ends.2 (by decide)
  · simp only [List.cons_append, List.nil_append, List.cons.injEq] at split
    obtain ⟨rfl, rfl, rfl, rfl, -⟩ := split
    rfl
  · simp only [List.cons_append, List.cons.injEq] at split
    obtain ⟨rfl, rfl, rfl, rfl, -⟩ := split
    refine absurd ?_ (goesOn [_, _, _] _ (List.prefix_append _ passed))
    exact ⟨rfl, by decide⟩

end Boo.Remote.ClientSessions
