/- module: Boo/Ios/ConnectionMonitor
   digest: When the iOS connection monitor connects by itself, over every run of its events. -/

import Mathlib.Algebra.Order.Ring.Rat
import Mathlib.Data.List.Induction

set_option autoImplicit false
set_option relaxedAutoImplicit false

namespace Boo.Ios.ConnectionMonitor

section Model

inductive ConnectionStatus
  | disconnected
  | connecting
  | connected
  | authenticated
  | activeTab (tabId : UInt32)
  | connectionLost (reason : String)
  deriving DecidableEq

inductive TransportHealth
  | idle
  | healthy
  | degraded (reason : String)
  | lost (reason : String)
  deriving DecidableEq

inductive ReconnectState
  | idle
  | waiting (attempt : Nat) (nextRetryIn : ℚ)
  | failed (reason : String)
  deriving DecidableEq

def ReconnectState.isWaiting : ReconnectState → Bool
  | .waiting _ _ => true
  | .idle | .failed _ => false

def degradedHeartbeatAge : ℚ := 8
def lostHeartbeatAge : ℚ := 15
def reconnectDelay : ℚ := 2
def maxReconnectAttempts : Nat := 5
def postDisconnectConnectDelay : ℚ := 1 / 5

/-- What the client publishes; the heartbeat's age is the time since its last answer. -/
structure Published where
  connected : Bool
  authenticated : Bool
  activeTabId : Option UInt32
  lastError : Option String
  heartbeatAge : Option ℚ
  deriving DecidableEq

/-- A call of the client's `connect`. -/
structure Start where
  host : String
  port : UInt16
  automatic : Bool
  deriving DecidableEq

/-- `reconnectWorkItem` holds the generation of the work item while it can still run, `delayed` the
closures that wait for the time after a disconnect, and `starts` the connections begun so far. -/
structure Monitor where
  status : ConnectionStatus := .disconnected
  transportHealth : TransportHealth := .idle
  reconnectState : ReconnectState := .idle
  reconnectAllowed : Bool := false
  reconnectAttempt : Nat := 0
  reconnectEligible : Bool := false
  connectionIntentGeneration : UInt64 := 0
  lastDisconnectAt : Option ℚ := none
  lastHost : Option String := none
  lastPort : Option UInt16 := none
  reconnectWorkItem : Option UInt64 := none
  delayed : List (UInt64 × String × UInt16) := []
  starts : List Start := []
  deriving DecidableEq

/-- The two sinks, the three calls of the views, and the closures that the main queue runs later. -/
inductive Event
  | publish (client : Published)
  | tick (client : Published)
  | connect (host : String) (port : UInt16) (now : ℚ)
  | reconnect (now : ℚ)
  | disconnect (now : ℚ)
  | elapse (index : Nat)
  | retry
  deriving DecidableEq

/-- The connection works for its user. -/
def Published.healthy (client : Published) : Bool :=
  client.connected && (client.authenticated || client.activeTabId.isSome)

namespace Monitor

variable (monitor : Monitor)

def cancelReconnect : Monitor :=
  { monitor with
    reconnectWorkItem := none
    reconnectAttempt := 0 }

def scheduleReconnect : Monitor :=
  { monitor.cancelReconnect with
    reconnectWorkItem := some monitor.connectionIntentGeneration }

def startClientConnection (host : String) (port : UInt16) (automatic : Bool) : Monitor :=
  { monitor with starts := monitor.starts ++ [⟨host, port, automatic⟩] }

def lostReason (client : Published) : Option String :=
  if !client.connected ∧ monitor.status ≠ .disconnected then client.lastError else none

def updateStatus (client : Published) : ConnectionStatus :=
  match client.activeTabId, monitor.lostReason client with
  | some tabId, _ => .activeTab tabId
  | none, some error => .connectionLost error
  | none, none =>
      if client.authenticated then .authenticated
      else if client.connected then .connected
      else if monitor.lastHost.isSome ∧ monitor.status matches .activeTab _ then
        .connectionLost "Connection closed"
      else .disconnected

end Monitor

def updateTransportHealth (client : Published) : TransportHealth :=
  match client.lastError, client.connected with
  | some error, false => .lost error
  | _, false => .idle
  | _, true =>
      if !client.authenticated then .healthy
      else
        match client.heartbeatAge with
        | none => .degraded "Waiting for heartbeat"
        | some age =>
            if lostHeartbeatAge < age then .lost "Heartbeat timed out"
            else if degradedHeartbeatAge < age then .degraded "Heartbeat delayed"
            else .healthy

namespace Monitor

variable (monitor : Monitor)

def reconnectReason (client : Published) : Option String :=
  match monitor.transportHealth with
  | .lost reason => some reason
  | _ =>
      match client.lastError, client.connected with
      | some error, false => some error
      | _, _ =>
          match monitor.status with
          | .connectionLost reason => some reason
          | _ => none

def updateReconnectState (client : Published) : Monitor :=
  if client.healthy then
    { monitor.cancelReconnect with
      reconnectEligible := true
      reconnectState := .idle }
  else if monitor.lastHost.isNone ∨ monitor.lastPort.isNone then
    { monitor with reconnectState := .idle }
  else if !monitor.reconnectAllowed then { monitor with reconnectState := .idle }
  else if !monitor.reconnectEligible then
    { monitor.cancelReconnect with
      reconnectAllowed := false
      reconnectState := .idle }
  else
    match monitor.reconnectReason client with
    | none =>
        if monitor.reconnectState.isWaiting then monitor
        else { monitor with reconnectState := .idle }
    | some reason =>
        if maxReconnectAttempts ≤ monitor.reconnectAttempt then
          { monitor.cancelReconnect with
            reconnectState := .failed reason
            reconnectAllowed := false }
        else if monitor.reconnectState.isWaiting then monitor
        else
          scheduleReconnect
            { monitor with
              reconnectAttempt := monitor.reconnectAttempt + 1
              reconnectState := .waiting (monitor.reconnectAttempt + 1) reconnectDelay }

/-- The first sink of `observe`. -/
def publish (client : Published) : Monitor :=
  { monitor with
    status := monitor.updateStatus client
    transportHealth := updateTransportHealth client }.updateReconnectState client

def beginConnection (host : String) (port : UInt16) (now : ℚ) : Monitor :=
  let late := monitor.lastDisconnectAt.any fun at_ => now - at_ < postDisconnectConnectDelay
  if late then
    { monitor with
      delayed := monitor.delayed ++ [(monitor.connectionIntentGeneration, host, port)] }
  else monitor.startClientConnection host port false

def connect (host : String) (port : UInt16) (now : ℚ) : Monitor :=
  beginConnection
    { monitor.cancelReconnect with
      connectionIntentGeneration := monitor.connectionIntentGeneration + 1
      lastHost := some host
      lastPort := some port
      status := .connecting
      transportHealth := .idle
      reconnectAllowed := true
      reconnectEligible := false }
    host port now

def reconnect (now : ℚ) : Monitor :=
  if !monitor.reconnectEligible then
    { monitor.cancelReconnect with
      reconnectAllowed := false
      reconnectState := .idle }
  else
    match monitor.lastHost, monitor.lastPort with
    | some host, some port =>
        beginConnection
          { monitor.cancelReconnect with
            connectionIntentGeneration := monitor.connectionIntentGeneration + 1
            status := .connecting
            transportHealth := .idle
            reconnectAllowed := true }
          host port now
    | _, _ => monitor

def disconnect (now : ℚ) : Monitor :=
  { monitor.cancelReconnect with
    connectionIntentGeneration := monitor.connectionIntentGeneration + 1
    lastDisconnectAt := some now
    reconnectAllowed := false
    status := .disconnected
    transportHealth := .idle
    reconnectState := .idle
    reconnectEligible := false
    lastHost := none
    lastPort := none }

/-- A delayed closure runs; one of an earlier intent does nothing. -/
def elapse (index : Nat) : Monitor :=
  match monitor.delayed[index]? with
  | none => monitor
  | some (generation, host, port) =>
      let rest := { monitor with delayed := monitor.delayed.eraseIdx index }
      if generation = monitor.connectionIntentGeneration then
        rest.startClientConnection host port false
      else rest

/-- The work item runs, if it was not cancelled. -/
def retry : Monitor :=
  match monitor.reconnectWorkItem with
  | none => monitor
  | some generation =>
      let rest := { monitor with reconnectWorkItem := none }
      if generation = monitor.connectionIntentGeneration ∧ monitor.reconnectAllowed then
        let connecting := { rest with status := .connecting }
        match monitor.lastHost, monitor.lastPort with
        | some host, some port => connecting.startClientConnection host port true
        | _, _ => connecting
      else rest

def step : Event → Monitor
  | .publish client => monitor.publish client
  | .tick client => { monitor with transportHealth := updateTransportHealth client }
  | .connect host port now => monitor.connect host port now
  | .reconnect now => monitor.reconnect now
  | .disconnect now => monitor.disconnect now
  | .elapse index => monitor.elapse index
  | .retry => monitor.retry

end Monitor

end Model

section Runs

def Event.healthy : Event → Bool
  | .publish client => client.healthy
  | _ => false

def run (events : List Event) : Monitor := events.foldl Monitor.step {}

namespace Monitor

variable (monitor : Monitor)

/-- How many connections the monitor has begun by itself. -/
def automatic : Nat := monitor.starts.countP Start.automatic

/-- With the attempts that it may yet make before the connection works again. -/
def budget : Nat :=
  monitor.automatic + monitor.reconnectWorkItem.isSome.toNat +
    (monitor.reconnectEligible && !monitor.reconnectState.isWaiting).toNat

/-- Scheduling an attempt forgets that it was one, and only a waiting monitor has one scheduled. -/
structure Kept : Prop where
  attempt : monitor.reconnectAttempt = 0
  state : monitor.reconnectState = .idle ∨ monitor.reconnectState = .waiting 1 reconnectDelay
  waiting : monitor.reconnectState.isWaiting = true →
    monitor.lastHost.isSome = true ∧ monitor.lastPort.isSome = true ∧
      monitor.reconnectAllowed = true
  item : monitor.reconnectWorkItem.isSome = true → monitor.reconnectState.isWaiting = true

end Monitor

variable {monitor : Monitor}

theorem automatic_startClientConnection (host : String) (port : UInt16) (automatic : Bool) :
    (monitor.startClientConnection host port automatic).automatic =
      monitor.automatic + automatic.toNat := by
  rw [Monitor.automatic, Monitor.startClientConnection, List.countP_append, List.countP_singleton]
  cases automatic <;> rfl

theorem Monitor.Kept.item_none (kept : monitor.Kept)
    (calm : monitor.reconnectState.isWaiting = false) : monitor.reconnectWorkItem = none := by
  cases here : monitor.reconnectWorkItem with
  | none => rfl
  | some generation =>
      have waits := kept.item (by rw [here]; rfl)
      rw [calm] at waits
      cases waits

theorem kept_of_idle (attempt : monitor.reconnectAttempt = 0)
    (idle : monitor.reconnectState = .idle) (item : monitor.reconnectWorkItem = none) :
    monitor.Kept := by
  refine ⟨attempt, .inl idle, fun waits => ?_, fun some => ?_⟩
  · rw [idle] at waits
    cases waits
  · rw [item] at some
    cases some

/-- A monitor that does not wait stays as it is when it becomes idle. -/
theorem kept_idle (kept : monitor.Kept) (calm : monitor.reconnectState.isWaiting = false) :
    { monitor with reconnectState := .idle }.Kept ∧
      { monitor with reconnectState := .idle }.budget ≤ monitor.budget := by
  refine ⟨kept_of_idle kept.attempt rfl (kept.item_none calm), ?_⟩
  rw [Monitor.budget, Monitor.budget, calm]
  exact le_rfl

/-- Scheduling an attempt spends what the last time the connection worked has given. -/
theorem kept_scheduleReconnect (kept : monitor.Kept)
    (calm : monitor.reconnectState.isWaiting = false) (host : monitor.lastHost.isSome = true)
    (port : monitor.lastPort.isSome = true) (allowed : monitor.reconnectAllowed = true)
    (eligible : monitor.reconnectEligible = true) :
    (Monitor.scheduleReconnect
      { monitor with
        reconnectAttempt := monitor.reconnectAttempt + 1
        reconnectState := .waiting (monitor.reconnectAttempt + 1) reconnectDelay }).Kept ∧
      (Monitor.scheduleReconnect
        { monitor with
          reconnectAttempt := monitor.reconnectAttempt + 1
          reconnectState := .waiting (monitor.reconnectAttempt + 1) reconnectDelay }).budget ≤
        monitor.budget := by
  refine ⟨⟨rfl, .inr ?_, fun _ => ⟨host, port, allowed⟩, fun _ => rfl⟩, ?_⟩
  · rw [kept.attempt]
    rfl
  · have spent : ∀ attempt, (Monitor.scheduleReconnect
        { monitor with
          reconnectAttempt := attempt
          reconnectState := .waiting attempt reconnectDelay }).budget =
        monitor.automatic + 1 + (monitor.reconnectEligible && false).toNat := fun _ => rfl
    rw [spent, Monitor.budget, kept.item_none calm, eligible, calm]
    exact le_rfl

/-- What happens to the reconnect state when something is published. -/
theorem kept_updateReconnectState (kept : monitor.Kept) (client : Published) :
    (monitor.updateReconnectState client).Kept ∧
      (monitor.updateReconnectState client).budget ≤
        monitor.budget + client.healthy.toNat := by
  have calm_or : monitor.reconnectState.isWaiting = false ∨
      monitor.reconnectState.isWaiting = true := by
    cases monitor.reconnectState.isWaiting
    · exact .inl rfl
    · exact .inr rfl
  rw [Monitor.updateReconnectState]
  split
  · rename_i healthy
    refine ⟨kept_of_idle rfl rfl rfl, ?_⟩
    have after : Monitor.budget
        { monitor.cancelReconnect with reconnectEligible := true, reconnectState := .idle } =
        monitor.automatic + 1 := rfl
    rw [after, Monitor.budget, healthy, Bool.toNat_true]
    omega
  · split
    · rename_i missing
      have calm : monitor.reconnectState.isWaiting = false := by
        refine calm_or.resolve_right fun waits => ?_
        obtain ⟨host, port, -⟩ := kept.waiting waits
        rw [Option.isNone_iff_eq_none, Option.isNone_iff_eq_none] at missing
        rcases missing with none | none
        · rw [none] at host
          cases host
        · rw [none] at port
          cases port
      obtain ⟨kept', less⟩ := kept_idle kept calm
      exact ⟨kept', less.trans (Nat.le_add_right _ _)⟩
    · split
      · rename_i refused
        have calm : monitor.reconnectState.isWaiting = false := by
          refine calm_or.resolve_right fun waits => ?_
          rw [(kept.waiting waits).2.2] at refused
          cases refused
        obtain ⟨kept', less⟩ := kept_idle kept calm
        exact ⟨kept', less.trans (Nat.le_add_right _ _)⟩
      · split
        · rename_i never
          rw [Bool.not_eq_true'] at never
          refine ⟨kept_of_idle rfl rfl rfl, ?_⟩
          have after : Monitor.budget { monitor.cancelReconnect with
              reconnectAllowed := false, reconnectState := .idle } =
              monitor.automatic + 0 + (monitor.reconnectEligible && true).toNat := rfl
          rw [after, never, Monitor.budget, Bool.false_and, Bool.toNat_false]
          omega
        · rename_i known refused never
          have host : monitor.lastHost.isSome = true := by
            rw [Option.isNone_iff_eq_none, not_or] at known
            exact Option.isSome_iff_ne_none.mpr known.1
          have port : monitor.lastPort.isSome = true := by
            rw [not_or, Option.isNone_iff_eq_none, Option.isNone_iff_eq_none] at known
            exact Option.isSome_iff_ne_none.mpr known.2
          rw [Bool.not_eq_true', Bool.not_eq_false] at refused never
          cases monitor.reconnectReason client with
          | none =>
              dsimp only
              split
              · exact ⟨kept, Nat.le_add_right _ _⟩
              · rename_i calm
                obtain ⟨kept', less⟩ := kept_idle kept (Bool.eq_false_iff.mpr calm)
                exact ⟨kept', less.trans (Nat.le_add_right _ _)⟩
          | some reason =>
              dsimp only
              rw [if_neg (by rw [kept.attempt]; decide)]
              split
              · exact ⟨kept, Nat.le_add_right _ _⟩
              · rename_i calm
                obtain ⟨kept', less⟩ := kept_scheduleReconnect kept (Bool.eq_false_iff.mpr calm)
                  host port refused never
                exact ⟨kept', less.trans (Nat.le_add_right _ _)⟩

theorem kept_startClientConnection (kept : monitor.Kept) (host : String) (port : UInt16)
    (automatic : Bool) :
    (monitor.startClientConnection host port automatic).Kept ∧
      (monitor.startClientConnection host port automatic).budget =
        monitor.budget + automatic.toNat := by
  refine ⟨⟨kept.attempt, kept.state, kept.waiting, kept.item⟩, ?_⟩
  rw [Monitor.budget, Monitor.budget, automatic_startClientConnection]
  simp only [Monitor.startClientConnection]
  omega

theorem kept_beginConnection (kept : monitor.Kept) (host : String) (port : UInt16) (now : ℚ) :
    (monitor.beginConnection host port now).Kept ∧
      (monitor.beginConnection host port now).budget = monitor.budget := by
  rw [Monitor.beginConnection]
  split
  · exact ⟨⟨kept.attempt, kept.state, kept.waiting, kept.item⟩, rfl⟩
  · exact kept_startClientConnection kept host port false

theorem kept_elapse (kept : monitor.Kept) (index : Nat) :
    (monitor.elapse index).Kept ∧ (monitor.elapse index).budget = monitor.budget := by
  rw [Monitor.elapse]
  cases monitor.delayed[index]? with
  | none => exact ⟨kept, rfl⟩
  | some entry =>
      have rest : Monitor.Kept { monitor with delayed := monitor.delayed.eraseIdx index } :=
        ⟨kept.attempt, kept.state, kept.waiting, kept.item⟩
      dsimp only
      split
      · exact kept_startClientConnection rest entry.2.1 entry.2.2 false
      · exact ⟨rest, rfl⟩

/-- The attempt that was scheduled is the one that is made. -/
theorem kept_retry (kept : monitor.Kept) :
    monitor.retry.Kept ∧ monitor.retry.budget ≤ monitor.budget := by
  rw [Monitor.retry]
  cases scheduled : monitor.reconnectWorkItem with
  | none => exact ⟨kept, le_rfl⟩
  | some generation =>
      have rest : ∀ status, Monitor.Kept
          { monitor with reconnectWorkItem := none, status := status } :=
        fun _ => ⟨kept.attempt, kept.state, kept.waiting, fun some => by cases some⟩
      have spent : ∀ status, Monitor.budget
          { monitor with reconnectWorkItem := none, status := status } + 1 = monitor.budget := by
        intro status
        rw [Monitor.budget, Monitor.budget, scheduled]
        simp only [Monitor.automatic, Option.isSome_none, Option.isSome_some, Bool.toNat_false,
          Bool.toNat_true]
        omega
      dsimp only
      split
      · split
        · rename_i host port _ _
          obtain ⟨kept', more⟩ := kept_startClientConnection (rest .connecting) host port true
          exact ⟨kept', more.le.trans (spent .connecting).le⟩
        · exact ⟨rest .connecting, Nat.le_of_succ_le (spent .connecting).le⟩
      · exact ⟨rest monitor.status, Nat.le_of_succ_le (spent monitor.status).le⟩

theorem kept_reconnect (kept : monitor.Kept) (now : ℚ) :
    (monitor.reconnect now).Kept ∧ (monitor.reconnect now).budget ≤ monitor.budget := by
  rw [Monitor.reconnect]
  split
  · rename_i never
    rw [Bool.not_eq_true'] at never
    refine ⟨kept_of_idle rfl rfl rfl, ?_⟩
    have after : Monitor.budget { monitor.cancelReconnect with
        reconnectAllowed := false, reconnectState := .idle } =
        monitor.automatic + 0 + (monitor.reconnectEligible && true).toNat := rfl
    rw [after, never, Monitor.budget, Bool.false_and, Bool.toNat_false]
    omega
  · split
    · rename_i host port known known'
      have cancelled : Monitor.Kept
          { monitor.cancelReconnect with
            connectionIntentGeneration := monitor.connectionIntentGeneration + 1
            status := .connecting
            transportHealth := .idle
            reconnectAllowed := true } :=
        ⟨rfl, kept.state, fun waits => ⟨(kept.waiting waits).1, (kept.waiting waits).2.1, rfl⟩,
          fun some => by cases some⟩
      obtain ⟨kept', same⟩ := kept_beginConnection cancelled host port now
      refine ⟨kept', same.le.trans ?_⟩
      rw [Monitor.budget, Monitor.budget]
      simp only [Monitor.automatic, Monitor.cancelReconnect, Option.isSome_none, Bool.toNat_false]
      omega
    · exact ⟨kept, le_rfl⟩

theorem kept_step (kept : monitor.Kept) (event : Event) :
    (monitor.step event).Kept ∧
      (monitor.step event).budget ≤ monitor.budget + event.healthy.toNat := by
  cases event with
  | publish client =>
      have framed : Monitor.Kept
          { monitor with
            status := monitor.updateStatus client
            transportHealth := updateTransportHealth client } :=
        ⟨kept.attempt, kept.state, kept.waiting, kept.item⟩
      exact kept_updateReconnectState framed client
  | tick client => exact ⟨⟨kept.attempt, kept.state, kept.waiting, kept.item⟩, le_rfl⟩
  | connect host port now =>
      have cancelled : Monitor.Kept
          { monitor.cancelReconnect with
            connectionIntentGeneration := monitor.connectionIntentGeneration + 1
            lastHost := some host
            lastPort := some port
            status := .connecting
            transportHealth := .idle
            reconnectAllowed := true
            reconnectEligible := false } :=
        ⟨rfl, kept.state, fun _ => ⟨rfl, rfl, rfl⟩, fun some => by cases some⟩
      obtain ⟨kept', same⟩ := kept_beginConnection cancelled host port now
      refine ⟨kept', same.le.trans ?_⟩
      rw [Monitor.budget, Monitor.budget]
      simp only [Monitor.automatic, Monitor.cancelReconnect, Option.isSome_none, Bool.false_and,
        Bool.toNat_false]
      omega
  | reconnect now => exact kept_reconnect kept now
  | disconnect now =>
      refine ⟨kept_of_idle rfl rfl rfl, ?_⟩
      have after : (monitor.step (.disconnect now)).budget = monitor.automatic := rfl
      rw [after, Monitor.budget]
      omega
  | elapse index =>
      obtain ⟨kept', same⟩ := kept_elapse kept index
      exact ⟨kept', same.le⟩
  | retry => exact kept_retry kept

theorem kept_run (kept : monitor.Kept) (events : List Event) :
    (events.foldl Monitor.step monitor).Kept ∧
      (events.foldl Monitor.step monitor).budget ≤
        monitor.budget + events.countP Event.healthy := by
  induction events generalizing monitor with
  | nil => exact ⟨kept, le_rfl⟩
  | cons event events ih =>
      obtain ⟨next, less⟩ := kept_step kept event
      obtain ⟨last, fewer⟩ := ih next
      refine ⟨last, fewer.trans ?_⟩
      rw [List.countP_cons]
      cases here : event.healthy <;> rw [here] at less
      · simpa using less
      · simp only [Bool.toNat_true, if_true] at less ⊢
        omega

theorem publish_frame (monitor : Monitor) (client : Published) :
    (monitor.publish client).starts = monitor.starts ∧
      (monitor.publish client).delayed = monitor.delayed ∧
      (monitor.publish client).lastHost = monitor.lastHost ∧
      (monitor.publish client).lastPort = monitor.lastPort ∧
      (monitor.publish client).connectionIntentGeneration = monitor.connectionIntentGeneration := by
  rw [Monitor.publish, Monitor.updateReconnectState]
  dsimp only
  split
  · exact ⟨rfl, rfl, rfl, rfl, rfl⟩
  · split
    · exact ⟨rfl, rfl, rfl, rfl, rfl⟩
    · split
      · exact ⟨rfl, rfl, rfl, rfl, rfl⟩
      · split
        · exact ⟨rfl, rfl, rfl, rfl, rfl⟩
        · split
          · split <;> exact ⟨rfl, rfl, rfl, rfl, rfl⟩
          · split
            · exact ⟨rfl, rfl, rfl, rfl, rfl⟩
            · split <;> exact ⟨rfl, rfl, rfl, rfl, rfl⟩

theorem automatic_beginConnection (host : String) (port : UInt16) (now : ℚ) :
    (monitor.beginConnection host port now).automatic = monitor.automatic := by
  rw [Monitor.beginConnection]
  split
  · rfl
  · exact automatic_startClientConnection host port false

theorem automatic_elapse (index : Nat) : (monitor.elapse index).automatic = monitor.automatic := by
  rw [Monitor.elapse]
  split
  · rfl
  · dsimp only
    split
    · exact automatic_startClientConnection _ _ false
    · rfl

theorem automatic_reconnect (now : ℚ) :
    (monitor.reconnect now).automatic = monitor.automatic := by
  rw [Monitor.reconnect]
  split
  · rfl
  · split
    · exact automatic_beginConnection _ _ now
    · rfl

/-- Only the work item begins a connection that nobody asked for, and then it is spent. -/
theorem automatic_step (monitor : Monitor) (event : Event) :
    (monitor.step event).automatic = monitor.automatic ∨
      (monitor.reconnectWorkItem.isSome = true ∧
        (monitor.step event).automatic = monitor.automatic + 1 ∧
        (monitor.step event).reconnectWorkItem = none ∧
        (monitor.step event).reconnectState = monitor.reconnectState) := by
  cases event with
  | publish client =>
      exact .inl (congrArg (List.countP Start.automatic) (publish_frame monitor client).1)
  | tick client => exact .inl rfl
  | connect host port now => exact .inl (automatic_beginConnection host port now)
  | reconnect now => exact .inl (automatic_reconnect now)
  | disconnect now => exact .inl rfl
  | elapse index => exact .inl (automatic_elapse index)
  | retry =>
      rw [Monitor.step, Monitor.retry]
      split
      · exact .inl rfl
      · rename_i generation scheduled
        dsimp only
        split
        · split
          · exact .inr ⟨by rw [scheduled]; rfl, automatic_startClientConnection _ _ true, rfl, rfl⟩
          · exact .inl rfl
        · exact .inl rfl

theorem automatic_le_run (monitor : Monitor) (events : List Event) :
    monitor.automatic ≤ (events.foldl Monitor.step monitor).automatic := by
  induction events generalizing monitor with
  | nil => exact le_rfl
  | cons event events ih =>
      refine le_trans ?_ (ih (monitor.step event))
      rcases automatic_step monitor event with same | ⟨-, more, -, -⟩
      · exact same.ge
      · exact more.ge.trans' (Nat.le_succ _)

/-- After an attempt there is none until the connection works again. -/
theorem automatic_run_of_attempt (kept : monitor.Kept) {event : Event}
    (attempts : monitor.automatic < (monitor.step event).automatic) {later : List Event}
    (never : ∀ event ∈ later, event.healthy = false) :
    (later.foldl Monitor.step (monitor.step event)).automatic = (monitor.step event).automatic := by
  refine le_antisymm ?_ (automatic_le_run _ later)
  rcases automatic_step monitor event with same | ⟨scheduled, -, item, state⟩
  · exact absurd same attempts.ne'
  · have spent : (monitor.step event).budget = (monitor.step event).automatic := by
      rw [Monitor.budget, item, state, kept.item scheduled, Bool.not_true, Bool.and_false]
      rfl
    obtain ⟨-, less⟩ := kept_run (kept_step kept event).1 later
    have none : later.countP Event.healthy = 0 := by
      rw [List.countP_eq_zero]
      exact fun event member => Bool.eq_false_iff.mp (never event member)
    rw [none, spent, Nat.add_zero, Monitor.budget] at less
    omega

end Runs

section Refusals

variable {monitor : Monitor}

/-- Timers and the closures of the main queue. -/
def Event.quiet : Event → Bool
  | .tick _ | .elapse _ | .retry => true
  | _ => false

/-- The calls that ask for a connection. -/
def Event.asks : Event → Bool
  | .connect _ _ _ | .reconnect _ => true
  | _ => false

/-- After `connect`, before anything was published. -/
structure Monitor.Fresh (monitor : Monitor) (automatic : Nat) : Prop where
  item : monitor.reconnectWorkItem = none
  eligible : monitor.reconnectEligible = false
  host : monitor.lastHost.isSome = true
  port : monitor.lastPort.isSome = true
  automatic : monitor.automatic = automatic

/-- No attempt is scheduled and none will be. -/
structure Monitor.Refuses (monitor : Monitor) (automatic : Nat) : Prop where
  item : monitor.reconnectWorkItem = none
  allowed : monitor.reconnectAllowed = false
  automatic : monitor.automatic = automatic

variable {automatic : Nat}

theorem elapse_frame (monitor : Monitor) (index : Nat) :
    (monitor.elapse index).reconnectWorkItem = monitor.reconnectWorkItem ∧
      (monitor.elapse index).reconnectEligible = monitor.reconnectEligible ∧
      (monitor.elapse index).reconnectAllowed = monitor.reconnectAllowed ∧
      (monitor.elapse index).lastHost = monitor.lastHost ∧
      (monitor.elapse index).lastPort = monitor.lastPort := by
  rw [Monitor.elapse]
  split
  · exact ⟨rfl, rfl, rfl, rfl, rfl⟩
  · dsimp only
    split <;> exact ⟨rfl, rfl, rfl, rfl, rfl⟩

theorem fresh_connect (monitor : Monitor) (host : String) (port : UInt16) (now : ℚ) :
    (monitor.connect host port now).Fresh monitor.automatic := by
  have same : (monitor.connect host port now).automatic = monitor.automatic :=
    automatic_beginConnection host port now
  rw [Monitor.connect, Monitor.beginConnection] at same ⊢
  split at same
  · rename_i late
    rw [if_pos late]
    exact ⟨rfl, rfl, rfl, rfl, rfl⟩
  · rename_i early
    rw [if_neg early]
    exact ⟨rfl, rfl, rfl, rfl, same⟩

theorem Monitor.Fresh.step (fresh : monitor.Fresh automatic) {event : Event}
    (quiet : event.quiet = true) : (monitor.step event).Fresh automatic := by
  cases event with
  | tick client => exact ⟨fresh.item, fresh.eligible, fresh.host, fresh.port, fresh.automatic⟩
  | elapse index =>
      obtain ⟨item, eligible, -, host, port⟩ := elapse_frame monitor index
      refine ⟨item.trans fresh.item, eligible.trans fresh.eligible, ?_, ?_,
        (automatic_elapse index).trans fresh.automatic⟩
      · exact (congrArg Option.isSome host).trans fresh.host
      · exact (congrArg Option.isSome port).trans fresh.port
  | retry =>
      rw [Monitor.step, Monitor.retry, fresh.item]
      exact fresh
  | publish client => cases quiet
  | connect host port now => cases quiet
  | reconnect now => cases quiet
  | disconnect now => cases quiet

/-- The first thing published refuses attempts from then on, if the connection does not work. -/
theorem Monitor.Fresh.publish (fresh : monitor.Fresh automatic) {client : Published}
    (broken : client.healthy = false) : (monitor.publish client).Refuses automatic := by
  have known : ¬ (monitor.lastHost.isNone = true ∨ monitor.lastPort.isNone = true) := by
    rw [← Option.not_isSome, ← Option.not_isSome, fresh.host, fresh.port]
    decide
  rw [Monitor.publish, Monitor.updateReconnectState, broken, if_neg Bool.false_ne_true,
    if_neg known]
  dsimp only
  rw [fresh.eligible]
  split
  · rename_i refused
    rw [Bool.not_eq_true'] at refused
    exact ⟨fresh.item, refused, fresh.automatic⟩
  · exact ⟨rfl, rfl, fresh.automatic⟩

theorem Monitor.Refuses.step (refuses : monitor.Refuses automatic) {event : Event}
    (silent : event.asks = false) : (monitor.step event).Refuses automatic := by
  cases event with
  | publish client =>
      rw [Monitor.step, Monitor.publish, Monitor.updateReconnectState]
      dsimp only
      rw [refuses.allowed]
      split
      · exact ⟨rfl, rfl, refuses.automatic⟩
      · split
        · exact ⟨refuses.item, rfl, refuses.automatic⟩
        · exact ⟨refuses.item, rfl, refuses.automatic⟩
  | tick client => exact ⟨refuses.item, refuses.allowed, refuses.automatic⟩
  | disconnect now => exact ⟨rfl, rfl, refuses.automatic⟩
  | elapse index =>
      obtain ⟨item, -, allowed, -⟩ := elapse_frame monitor index
      exact ⟨item.trans refuses.item, allowed.trans refuses.allowed,
        (automatic_elapse index).trans refuses.automatic⟩
  | retry =>
      rw [Monitor.step, Monitor.retry, refuses.item]
      exact refuses
  | connect host port now => cases silent
  | reconnect now => cases silent

end Refusals

section Aims

variable {monitor : Monitor} {intents : Nat} {aim : Option (String × UInt16)}

/-- The server that was asked for last, unless it was left since. -/
def aimAfter (aim : Option (String × UInt16)) : Event → Option (String × UInt16)
  | .connect host port _ => some (host, port)
  | .disconnect _ => none
  | _ => aim

/-- So many calls have raised the generation; a closure of the last one starts what is aimed at. -/
structure Monitor.Aimed (monitor : Monitor) (intents : Nat) (aim : Option (String × UInt16)) :
    Prop where
  host : monitor.lastHost = aim.map Prod.fst
  port : monitor.lastPort = aim.map Prod.snd
  generation : monitor.connectionIntentGeneration = UInt64.ofNat intents
  delayed : ∀ entry ∈ monitor.delayed, ∃ n ≤ intents, entry.1 = UInt64.ofNat n ∧
    (n = intents → aim = some entry.2)

/-- If anything is started, it is what is aimed at. -/
def StartsAt (aim : Option (String × UInt16)) (monitor after : Monitor) : Prop :=
  after.starts = monitor.starts ∨ ∃ start : Start,
    after.starts = monitor.starts ++ [start] ∧ aim = some (start.host, start.port)

/-- A call raises the generation, and closures of earlier calls are none of its own. -/
theorem Monitor.Aimed.raise (aimed : monitor.Aimed intents aim) (next : Option (String × UInt16)) :
    ∀ entry ∈ monitor.delayed, ∃ n ≤ intents + 1, entry.1 = UInt64.ofNat n ∧
      (n = intents + 1 → next = some entry.2) := by
  intro entry member
  obtain ⟨n, few, generation, -⟩ := aimed.delayed entry member
  exact ⟨n, Nat.le_succ_of_le few, generation, fun same => by omega⟩

theorem Monitor.Aimed.server (aimed : monitor.Aimed intents aim) {host : String} {port : UInt16}
    (known : monitor.lastHost = some host) (known' : monitor.lastPort = some port) :
    aim = some (host, port) := by
  have first := aimed.host.symm.trans known
  have second := aimed.port.symm.trans known'
  cases aim with
  | none => cases first
  | some server =>
      rw [Option.map_some, Option.some.injEq] at first second
      rw [← first, ← second]

theorem generation_succ (aimed : monitor.Aimed intents aim) :
    monitor.connectionIntentGeneration + 1 = UInt64.ofNat (intents + 1) := by
  rw [aimed.generation, UInt64.ofNat_add]
  rfl

theorem aimed_beginConnection {host : String} {port : UInt16}
    (aimed : monitor.Aimed intents (some (host, port))) (now : ℚ) :
    (monitor.beginConnection host port now).Aimed intents (some (host, port)) ∧
      StartsAt (some (host, port)) monitor (monitor.beginConnection host port now) := by
  rw [Monitor.beginConnection]
  split
  · refine ⟨⟨aimed.host, aimed.port, aimed.generation, ?_⟩, .inl rfl⟩
    intro entry member
    rcases List.mem_append.mp member with old | new
    · exact aimed.delayed entry old
    · rw [List.mem_singleton] at new
      subst new
      exact ⟨intents, le_rfl, aimed.generation, fun _ => rfl⟩
  · exact ⟨⟨aimed.host, aimed.port, aimed.generation, aimed.delayed⟩, .inr ⟨_, rfl, rfl⟩⟩

theorem aimed_elapse (aimed : monitor.Aimed intents aim) (few : intents < 2 ^ 64) (index : Nat) :
    (monitor.elapse index).Aimed intents aim ∧ StartsAt aim monitor (monitor.elapse index) := by
  rw [Monitor.elapse]
  split
  · exact ⟨aimed, .inl rfl⟩
  · rename_i generation host port found
    have member := List.mem_of_getElem? found
    have fewer : ∀ entry ∈ monitor.delayed.eraseIdx index, ∃ n ≤ intents,
        entry.1 = UInt64.ofNat n ∧ (n = intents → aim = some entry.2) :=
      fun entry member => aimed.delayed entry (List.mem_of_mem_eraseIdx member)
    dsimp only
    split
    · rename_i current
      refine ⟨⟨aimed.host, aimed.port, aimed.generation, fewer⟩, .inr ⟨_, rfl, ?_⟩⟩
      obtain ⟨n, less, same, last⟩ := aimed.delayed _ member
      refine last ?_
      have equal : UInt64.ofNat n = UInt64.ofNat intents :=
        same.symm.trans (current.trans aimed.generation)
      have value := congrArg UInt64.toNat equal
      have small : n < 2 ^ 64 := by omega
      rwa [UInt64.toNat_ofNat_of_lt' small, UInt64.toNat_ofNat_of_lt' few] at value
    · exact ⟨⟨aimed.host, aimed.port, aimed.generation, fewer⟩, .inl rfl⟩

theorem aimed_retry (aimed : monitor.Aimed intents aim) :
    monitor.retry.Aimed intents aim ∧ StartsAt aim monitor monitor.retry := by
  rw [Monitor.retry]
  split
  · exact ⟨aimed, .inl rfl⟩
  · dsimp only
    split
    · split
      · rename_i host port known known'
        exact ⟨⟨aimed.host, aimed.port, aimed.generation, aimed.delayed⟩,
          .inr ⟨_, rfl, aimed.server known known'⟩⟩
      · exact ⟨⟨aimed.host, aimed.port, aimed.generation, aimed.delayed⟩, .inl rfl⟩
    · exact ⟨⟨aimed.host, aimed.port, aimed.generation, aimed.delayed⟩, .inl rfl⟩

theorem aimed_step (aimed : monitor.Aimed intents aim) (few : intents < 2 ^ 64) (event : Event) :
    (∃ more ≤ intents + 1, (monitor.step event).Aimed more (aimAfter aim event)) ∧
      StartsAt (aimAfter aim event) monitor (monitor.step event) := by
  cases event with
  | publish client =>
      obtain ⟨starts, delayed, host, port, generation⟩ := publish_frame monitor client
      refine ⟨⟨intents, Nat.le_succ _, host.trans aimed.host, port.trans aimed.port,
        generation.trans aimed.generation, ?_⟩, .inl starts⟩
      intro entry member
      rw [Monitor.step, delayed] at member
      exact aimed.delayed entry member
  | tick client =>
      exact ⟨⟨intents, Nat.le_succ _, aimed.host, aimed.port, aimed.generation, aimed.delayed⟩,
        .inl rfl⟩
  | connect host port now =>
      have asked : Monitor.Aimed
          { monitor.cancelReconnect with
            connectionIntentGeneration := monitor.connectionIntentGeneration + 1
            lastHost := some host
            lastPort := some port
            status := .connecting
            transportHealth := .idle
            reconnectAllowed := true
            reconnectEligible := false }
          (intents + 1) (some (host, port)) :=
        ⟨rfl, rfl, generation_succ aimed, aimed.raise _⟩
      obtain ⟨after, starts⟩ := aimed_beginConnection asked now
      exact ⟨⟨intents + 1, le_rfl, after⟩, starts⟩
  | reconnect now =>
      rw [Monitor.step, Monitor.reconnect]
      split
      · exact ⟨⟨intents, Nat.le_succ _, aimed.host, aimed.port, aimed.generation, aimed.delayed⟩,
          .inl rfl⟩
      · split
        · rename_i host port known known'
          have same := aimed.server known known'
          subst same
          have asked : Monitor.Aimed
              { monitor.cancelReconnect with
                connectionIntentGeneration := monitor.connectionIntentGeneration + 1
                status := .connecting
                transportHealth := .idle
                reconnectAllowed := true }
              (intents + 1) (some (host, port)) :=
            ⟨aimed.host, aimed.port, generation_succ aimed, aimed.raise _⟩
          obtain ⟨after, starts⟩ := aimed_beginConnection asked now
          exact ⟨⟨intents + 1, le_rfl, after⟩, starts⟩
        · exact ⟨⟨intents, Nat.le_succ _, aimed⟩, .inl rfl⟩
  | disconnect now =>
      exact ⟨⟨intents + 1, le_rfl, rfl, rfl, generation_succ aimed, aimed.raise _⟩, .inl rfl⟩
  | elapse index =>
      obtain ⟨after, starts⟩ := aimed_elapse aimed few index
      exact ⟨⟨intents, Nat.le_succ _, after⟩, starts⟩
  | retry =>
      obtain ⟨after, starts⟩ := aimed_retry aimed
      exact ⟨⟨intents, Nat.le_succ _, after⟩, starts⟩

end Aims

section Results

variable {monitor : Monitor} {automatic : Nat}

theorem kept_initial : Monitor.Kept {} := kept_of_idle rfl rfl rfl

theorem run_append (before after : List Event) :
    run (before ++ after) = after.foldl Monitor.step (run before) :=
  List.foldl_append

theorem Monitor.Fresh.run (fresh : monitor.Fresh automatic) {events : List Event}
    (quiet : ∀ event ∈ events, event.quiet = true) :
    (events.foldl Monitor.step monitor).Fresh automatic := by
  induction events generalizing monitor with
  | nil => exact fresh
  | cons event events ih =>
      rw [List.forall_mem_cons] at quiet
      exact ih (fresh.step quiet.1) quiet.2

theorem Monitor.Refuses.run (refuses : monitor.Refuses automatic) {events : List Event}
    (silent : ∀ event ∈ events, event.asks = false) :
    (events.foldl Monitor.step monitor).Refuses automatic := by
  induction events generalizing monitor with
  | nil => exact refuses
  | cons event events ih =>
      rw [List.forall_mem_cons] at silent
      exact ih (refuses.step silent.1) silent.2

/-- The first thing published after `connect` decides whether anything is ever retried. -/
theorem automatic_run_of_connect (monitor : Monitor) (host : String) (port : UInt16) (now : ℚ)
    {quiet later : List Event} {client : Published}
    (still : ∀ event ∈ quiet, event.quiet = true) (broken : client.healthy = false)
    (silent : ∀ event ∈ later, event.asks = false) :
    ((.connect host port now :: quiet ++ .publish client :: later).foldl
      Monitor.step monitor).automatic = monitor.automatic := by
  have fresh := (fresh_connect monitor host port now).run still
  rw [List.foldl_append]
  exact ((fresh.publish broken).run silent).automatic

/-- The monitor never gives up, and it never tries twice for one working connection. -/
theorem automatic_connections (events : List Event) :
    (run events).reconnectAttempt = 0 ∧
      ((run events).reconnectState = .idle ∨
        (run events).reconnectState = .waiting 1 reconnectDelay) ∧
      (run events).automatic ≤ events.countP Event.healthy ∧
      (∀ event later, (run events).automatic < (run (events ++ [event])).automatic →
        (∀ event ∈ later, event.healthy = false) →
        (run (events ++ event :: later)).automatic = (run (events ++ [event])).automatic) ∧
      (∀ host port now quiet client later, (∀ event ∈ quiet, event.quiet = true) →
        client.healthy = false → (∀ event ∈ later, event.asks = false) →
        (run (events ++ (.connect host port now :: quiet ++ .publish client :: later))).automatic =
          (run events).automatic) := by
  obtain ⟨kept, less⟩ := kept_run kept_initial events
  refine ⟨kept.attempt, kept.state, ?_, ?_, ?_⟩
  · have none : Monitor.budget {} = 0 := rfl
    rw [none, Nat.zero_add, Monitor.budget] at less
    rw [run]
    omega
  · intro event later attempts never
    rw [run_append, List.foldl_cons, List.foldl_nil] at attempts
    rw [run_append, run_append, List.foldl_cons, List.foldl_cons, List.foldl_nil]
    exact automatic_run_of_attempt kept attempts never
  · intro host port now quiet client later still broken silent
    rw [run_append]
    exact automatic_run_of_connect _ host port now still broken silent

theorem automatic_connections_retried :
    (run ([.connect "host" 7337 0, .publish ⟨true, false, some 1, none, none⟩,
          .publish ⟨false, false, none, some "lost", none⟩] ++
        [.retry, .publish ⟨false, false, none, some "lost", none⟩, .retry])).automatic = 1 := by
  have result := automatic_connections [.connect "host" 7337 0,
    .publish ⟨true, false, some 1, none, none⟩, .publish ⟨false, false, none, some "lost", none⟩]
  have attempted : (run ([.connect "host" 7337 0, .publish ⟨true, false, some 1, none, none⟩,
      .publish ⟨false, false, none, some "lost", none⟩] ++ [.retry])).automatic = 1 := by
    decide
  refine (result.2.2.2.1 .retry _ ?_ ?_).trans attempted
  · rw [attempted]
    decide
  · decide

/-- The server that a run has asked for last and has not left since. -/
def aimed (events : List Event) : Option (String × UInt16) := events.foldl aimAfter none

theorem aimed_run (events : List Event) (few : events.length < 2 ^ 64) :
    ∃ intents ≤ events.length, (run events).Aimed intents (aimed events) := by
  induction events using List.reverseRecOn with
  | nil => exact ⟨0, le_rfl, rfl, rfl, rfl, fun entry member => by cases member⟩
  | append_singleton events event ih =>
      rw [List.length_append, List.length_singleton] at few
      obtain ⟨intents, fewer, before⟩ := ih (by omega)
      obtain ⟨⟨more, next, after⟩, -⟩ := aimed_step before (by omega) event
      refine ⟨more, ?_, ?_⟩
      · rw [List.length_append, List.length_singleton]
        omega
      · rw [run, aimed, List.foldl_append, List.foldl_append]
        exact after

/-- No closure of an earlier intent ever connects to a server that was left or replaced. -/
theorem starts_where_aimed (events : List Event) (event : Event)
    (few : events.length < 2 ^ 64) :
    StartsAt (aimed (events ++ [event])) (run events) (run (events ++ [event])) := by
  obtain ⟨intents, fewer, before⟩ := aimed_run events few
  obtain ⟨-, starts⟩ := aimed_step before (by omega) event
  rw [aimed, run_append, List.foldl_append]
  exact starts

theorem starts_where_aimed_replaced :
    StartsAt (some ("second", 7337))
      (run [.disconnect 0, .connect "first" 7337 0, .connect "second" 7337 0, .elapse 0])
      (run ([.disconnect 0, .connect "first" 7337 0, .connect "second" 7337 0, .elapse 0] ++
        [.elapse 0])) :=
  starts_where_aimed
    [.disconnect 0, .connect "first" 7337 0, .connect "second" 7337 0, .elapse 0] (.elapse 0)
    (by decide)

end Results

end Boo.Ios.ConnectionMonitor
