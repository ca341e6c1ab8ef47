/- module: Boo/Runtime/PaneWorker
   digest: The worker thread of a pane and the polls of the server, in any interleaving. -/

import Boo.Lib.Runs
import Boo.Runtime.Notifications
import Boo.Runtime.PtyBacklog
import Boo.Runtime.ShellCommands
import Boo.Server.StatusComponents

set_option autoImplicit false
set_option relaxedAutoImplicit false

namespace Boo.Runtime.PaneWorker

open Boo.Lib.TextLines
open Boo.Client.Snapshot
open Boo.Remote.ReadLoop (fromUtf8)
open Boo.Runtime.VtBackend
open Boo.Runtime.FullRefresh
open Boo.Runtime.OscObservation
open Boo.Runtime.Notifications (Notification Notifier)
open Boo.Runtime.ShellCommands
open Boo.Server.StatusComponents

/-- The base64 and JSON decoders that the pane uses. -/
structure Decoders where
  base64 : Text → Option (List UInt8)
  components : String → Option (List StatusComponent)

def zoneOfName (name : Text) : Option StatusBarZone :=
  if name = "ghostty_status_left".toList then some .left
  else if name = "ghostty_status_right".toList then some .right
  else none

def handleOsc1337SetUserVar (decoders : Decoders) (payload : Text) :
    Option StatusComponentsUpdate := do
  let (name, encoded) ← splitOnce '=' payload
  let zone ← zoneOfName name
  let decoded ← if encoded.isEmpty then some [] else decoders.base64 encoded
  let components ←
    if decoded.isEmpty then some [] else (fromUtf8 decoded).bind decoders.components
  return { zone, source := "", components }

/-- What a pane takes out in one go. -/
structure Reports where
  finishedCommands : List CommandFinished
  statusComponentUpdates : List StatusComponentsUpdate
  desktopNotifications : List Notification
  deriving DecidableEq

namespace Reports

def empty : Reports := ⟨[], [], []⟩

def extend (reports later : Reports) : Reports :=
  ⟨reports.finishedCommands ++ later.finishedCommands,
    reports.statusComponentUpdates ++ later.statusComponentUpdates,
    reports.desktopNotifications ++ later.desktopNotifications⟩

def concat (all : List Reports) : Reports := all.foldr extend empty

end Reports

/-- The fields of a `VtPane` that payloads change. -/
structure Reporting where
  commands : Clocked
  notifier : Notifier
  statusComponentUpdates : List StatusComponentsUpdate

namespace Reporting

def new : Reporting := ⟨Clocked.new, Notifier.new, []⟩

/-- `handle_osc_payload`, field by field: a payload of one kind is none of another. -/
def handleOscPayload (decoders : Decoders) (clock : Nat → Nat) (reporting : Reporting)
    (payload : Text) : Reporting where
  commands := reporting.commands.handle clock payload
  notifier := Notifications.handleOscPayload reporting.notifier payload
  statusComponentUpdates := reporting.statusComponentUpdates ++
    ((stripPrefix "1337;SetUserVar=".toList payload).bind
      (handleOsc1337SetUserVar decoders)).toList

def reports (reporting : Reporting) : Reports :=
  ⟨reporting.commands.shell.finishedCommands, reporting.statusComponentUpdates,
    reporting.notifier.completed⟩

/-- What stays when the three lists are taken. -/
def taken (reporting : Reporting) : Reporting where
  commands := { reporting.commands with
    shell := { reporting.commands.shell with finishedCommands := [] } }
  notifier := { reporting.notifier with completed := [] }
  statusComponentUpdates := []

end Reporting

/-- The commands of a `VtPaneWorker`, by what they do to its pane. `passed` are those that only
write to the process or ask for a hyperlink; a resize can fail in either library. -/
inductive WorkerCommand
  | resize (succeeds : Bool)
  | writeVtBytes (bytes : List UInt8)
  | scrollViewportDelta (delta : Int)
  | scrollViewportTop
  | scrollViewportBottom
  | passed
  | shutdown

/-- What a turn of the loop takes from its two channels. -/
inductive Received
  | command (command : WorkerCommand)
  | chunk (bytes : List UInt8)
  | exited

/-- A refresh that fails leaves the worker's own snapshot in some state. -/
inductive Refreshed (Style : Type)
  | ok (render : Render Style)
  | failed (left : TerminalSnapshot Style)

/-- Also what a poll returns. -/
structure WorkerState (Style : Type) where
  snapshot : TerminalSnapshot Style
  version : UInt64
  runningCommand : Option (Option Text)
  reports : Reports
  exited : Bool

/-- Where the worker is in its loop. -/
inductive Phase
  | working
  | publishing (snapshotChanged : Bool)
  | stopped
  deriving DecidableEq

/-- A worker, the state that it shares, and what polls have returned. `refreshFailed` is about the
last refresh, `history` has the snapshots that were published, `shownTo` is how much had been
written when the last of them was made, and `woken` says that the server was woken since it last
polled. -/
structure World (Style : Type) where
  watched : Watched Style
  reporting : Reporting
  exited : Bool
  disconnected : Bool
  phase : Phase
  pendingWork : Bool
  refreshFailed : Bool
  shared : WorkerState Style
  history : List (TerminalSnapshot Style)
  shownTo : Nat
  woken : Bool
  polled : List (WorkerState Style)

inductive Action (Style : Type)
  | work (received : List Received) (turns : Nat) (due : Bool) (refreshed : Refreshed Style)
  | publish
  | poll

namespace World

variable {Style : Type} (decoders : Decoders) (clock : Nat → Nat)

/-- The first snapshot has been taken. -/
def spawn (snapshot : TerminalSnapshot Style) : World Style where
  watched := { Watched.spawn snapshot with
    pane := { (Watched.spawn snapshot).pane with dirty := false } }
  reporting := Reporting.new
  exited := false
  disconnected := false
  phase := .working
  pendingWork := false
  refreshFailed := false
  shared := ⟨snapshot, 1, none, Reports.empty, false⟩
  history := [snapshot]
  shownTo := 0
  woken := true
  polled := []

def markDirty (world : World Style) : World Style :=
  { world with watched := { world.watched with pane := { world.watched.pane with dirty := true } } }

/-- The pane observes some bytes. -/
def observe (world : World Style) (op : PaneOp Style) : World Style :=
  { world with
    watched := world.watched.step op
    reporting := ((handledIn world.watched.pane op).map String.toList).foldl
      (Reporting.handleOscPayload decoders clock) world.reporting }

def handleWorkerCommand (world : World Style) : WorkerCommand → World Style
  | .resize succeeds => if succeeds then world.markDirty else world
  | .writeVtBytes bytes => world.observe decoders clock (.writeVtBytes bytes)
  | .scrollViewportDelta delta => if delta = 0 then world else world.markDirty
  | .scrollViewportTop => world.markDirty
  | .scrollViewportBottom => world.markDirty
  | .passed => world
  | .shutdown => { world with disconnected := true }

def receive (world : World Style) : Received → World Style
  | .command command => world.handleWorkerCommand decoders clock command
  | .chunk bytes => world.observe decoders clock (.enqueuePtyChunk bytes)
  | .exited => { world with exited := true }

def hasPendingPtyWork (world : World Style) : Bool := !world.watched.pane.pendingPtyChunks.isEmpty

def refresh (world : World Style) : Refreshed Style → World Style
  | .ok render => { world with
      watched := world.watched.step (.refreshSnapshot render)
      refreshFailed := false
      phase := .publishing true }
  | .failed left => { world with
      watched := { world.watched with snapshot := left }
      refreshFailed := true
      phase := .publishing false }

def processPendingPtyWork (world : World Style) (turns : Nat) : World Style :=
  { world with watched := world.watched.step (.processPendingPtyWork turns) }

/-- Under a backlog a refresh waits until the interval is over. -/
def refreshDue (world : World Style) (due : Bool) (refreshed : Refreshed Style) : World Style :=
  let shouldRefreshSnapshot :=
    world.watched.pane.dirty && (!world.hasPendingPtyWork || due)
  let shown :=
    if shouldRefreshSnapshot then world.refresh refreshed
    else { world with phase := .publishing false }
  { shown with pendingWork := shown.hasPendingPtyWork }

/-- One turn of `worker_loop` up to its lock. `received` is what it took from its channels,
`turns` is where the time budget ended, and `due` says that the refresh interval is over. -/
def work (world : World Style) (received : List Received) (turns : Nat) (due : Bool)
    (refreshed : Refreshed Style) : World Style :=
  ((received.foldl (receive decoders clock) world).processPendingPtyWork turns).refreshDue due
    refreshed

/-- The rest of the turn as one step: what is under the lock, the call of `notify_headless_wakeup`
once it is released, and whether the loop goes on. -/
def publish (world : World Style) (snapshotChanged : Bool) : World Style :=
  let running := world.reporting.commands.shell.runningCommand.map RunningCommand.command
  let reports := world.reporting.reports
  let exits := !world.shared.exited && world.exited
  let stops := world.exited || world.disconnected
  { world with
    reporting := world.reporting.taken
    phase := if stops then .stopped else .working
    pendingWork := if stops then false else world.pendingWork
    shared :=
      { snapshot := if snapshotChanged then world.watched.snapshot else world.shared.snapshot
        version := if snapshotChanged then world.shared.version + 1 else world.shared.version
        runningCommand := running
        reports := world.shared.reports.extend reports
        exited := world.shared.exited || exits }
    history := if snapshotChanged then world.history ++ [world.watched.snapshot] else world.history
    shownTo := if snapshotChanged then world.watched.refreshedTo else world.shownTo
    woken := world.woken || snapshotChanged || world.shared.runningCommand != running ||
      reports != Reports.empty || exits }

def pollUpdate (world : World Style) : World Style :=
  { world with
    shared := { world.shared with reports := Reports.empty }
    woken := false
    polled := world.polled ++ [world.shared] }

/-- An action out of its turn does nothing. -/
def step (world : World Style) : Action Style → World Style
  | .work received turns due refreshed =>
      if world.phase = .working then world.work decoders clock received turns due refreshed
      else world
  | .publish =>
      match world.phase with
      | .publishing snapshotChanged => world.publish snapshotChanged
      | _ => world
  | .poll => world.pollUpdate

end World

section Reports

namespace Reports

theorem empty_extend (reports : Reports) : empty.extend reports = reports := rfl

theorem extend_empty (reports : Reports) : reports.extend empty = reports := by
  simp [extend, empty]

theorem extend_assoc (first second third : Reports) :
    (first.extend second).extend third = first.extend (second.extend third) := by
  simp [extend]

theorem concat_concat (all : List Reports) (last : Reports) :
    concat (all ++ [last]) = (concat all).extend last := by
  induction all with
  | nil => exact extend_empty last
  | cons first all ih =>
      rw [List.cons_append, concat, List.foldr_cons]
      exact (congrArg first.extend ih).trans (extend_assoc _ _ _).symm

end Reports

variable (decoders : Decoders) (clock : Nat → Nat)

theorem completing_taken (blank : Prop) [Decidable blank] (pending : Text → Option Notification)
    (completed : List Notification) (last : Notification) :
    (if blank then Notifier.mk pending completed else ⟨pending, completed ++ [last]⟩) =
      ⟨(if blank then Notifier.mk pending [] else ⟨pending, [] ++ [last]⟩).pending,
        completed ++
          (if blank then Notifier.mk pending [] else ⟨pending, [] ++ [last]⟩).completed⟩ := by
  split <;> simp

theorem notifications_taken (notifier : Notifier) (payload : Text) :
    Notifications.handleOscPayload notifier payload =
      { pending := (Notifications.handleOscPayload
          { notifier with completed := [] } payload).pending
        completed := notifier.completed ++ (Notifications.handleOscPayload
          { notifier with completed := [] } payload).completed } := by
  have same : notifier = ⟨notifier.pending, notifier.completed ++ []⟩ := by
    rw [List.append_nil]
  unfold Notifications.handleOscPayload
  split
  · exact same
  · split
    · exact same
    · split
      · exact same
      · unfold Notifications.handleOsc99
        split
        · exact same
        · dsimp only
          split
          · exact same
          · split
            · exact completing_taken _ _ _ _
            · exact congrArg (Notifier.mk _) (List.append_nil _).symm

theorem commands_taken (commands : Clocked) (payload : Text) :
    commands.handle clock payload =
      let rest : Clocked :=
        { commands with shell := { commands.shell with finishedCommands := [] } }
      { rest.handle clock payload with
        shell :=
          { (rest.handle clock payload).shell with
            finishedCommands := commands.shell.finishedCommands ++
              (rest.handle clock payload).shell.finishedCommands } } := by
  simp only [Clocked.handle, handleOscPayload_mark]
  cases markOf payload with
  | none => simp
  | some mark => cases mark <;> simp

namespace Reporting

/-- What is already reported does not matter to a payload. -/
theorem handle_taken (reporting : Reporting) (payload : Text) :
    (reporting.handleOscPayload decoders clock payload).taken =
        (reporting.taken.handleOscPayload decoders clock payload).taken ∧
      (reporting.handleOscPayload decoders clock payload).reports =
        reporting.reports.extend
          (reporting.taken.handleOscPayload decoders clock payload).reports := by
  have commands := commands_taken clock reporting.commands payload
  have notifier := notifications_taken reporting.notifier payload
  dsimp only at commands
  constructor
  · simp only [handleOscPayload, taken]
    rw [commands, notifier]
  · simp only [handleOscPayload, reports, taken, Reports.extend, List.nil_append]
    rw [commands, notifier]

variable {decoders clock}

theorem handle_of_taken {full reporting : Reporting} {before : Reports}
    (hidden : full.taken = reporting.taken)
    (ahead : full.reports = before.extend reporting.reports) (payload : Text) :
    (full.handleOscPayload decoders clock payload).taken =
        (reporting.handleOscPayload decoders clock payload).taken ∧
      (full.handleOscPayload decoders clock payload).reports =
        before.extend (reporting.handleOscPayload decoders clock payload).reports := by
  obtain ⟨fullTaken, fullReports⟩ := full.handle_taken decoders clock payload
  obtain ⟨ownTaken, ownReports⟩ := reporting.handle_taken decoders clock payload
  constructor
  · rw [fullTaken, ownTaken, hidden]
  · rw [fullReports, ownReports, hidden, ahead, Reports.extend_assoc]

theorem foldl_of_taken (payloads : List Text) {full reporting : Reporting} {before : Reports}
    (hidden : full.taken = reporting.taken)
    (ahead : full.reports = before.extend reporting.reports) :
    (payloads.foldl (handleOscPayload decoders clock) full).taken =
        (payloads.foldl (handleOscPayload decoders clock) reporting).taken ∧
      (payloads.foldl (handleOscPayload decoders clock) full).reports =
        before.extend (payloads.foldl (handleOscPayload decoders clock) reporting).reports := by
  induction payloads generalizing full reporting with
  | nil => exact ⟨hidden, ahead⟩
  | cons payload payloads ih =>
      obtain ⟨nextHidden, nextAhead⟩ :=
        @handle_of_taken decoders clock full reporting before hidden ahead payload
      exact ih nextHidden nextAhead

end Reporting

/-- What a byte stream reports to a pane from which nothing is taken. -/
def reportedBy (bytes : List UInt8) : Reporting :=
  ((handledByLoop {} bytes).map String.toList).foldl (Reporting.handleOscPayload decoders clock)
    Reporting.new

theorem reportedBy_append (before later : List UInt8) :
    reportedBy decoders clock (before ++ later) =
      ((handledByLoop (before.foldl observeByte {}) later).map String.toList).foldl
        (Reporting.handleOscPayload decoders clock) (reportedBy decoders clock before) := by
  rw [reportedBy, handledByLoop_append, List.map_append, List.foldl_append, reportedBy]

end Reports

namespace World

variable {Style : Type} {decoders : Decoders} {clock : Nat → Nat} {world : World Style}

section Accounts

/-- What polls have returned, what is shared and what the pane still has are together what the
observed bytes report. -/
structure Accounted (decoders : Decoders) (clock : Nat → Nat) (world : World Style) : Prop where
  observer : world.watched.pane.oscState = world.watched.observed.foldl observeByte {}
  hidden : (reportedBy decoders clock world.watched.observed).taken = world.reporting.taken
  conserved : (reportedBy decoders clock world.watched.observed).reports =
    (Reports.concat (world.polled.map WorkerState.reports)).extend
      (world.shared.reports.extend world.reporting.reports)

theorem accounted_spawn (snapshot : TerminalSnapshot Style) :
    Accounted decoders clock (spawn snapshot) := ⟨rfl, rfl, rfl⟩

/-- Only the observer, the reports and the polls count. -/
theorem Accounted.of_eq {other : World Style} (accounted : Accounted decoders clock world)
    (osc : other.watched.pane.oscState = world.watched.pane.oscState)
    (observed : other.watched.observed = world.watched.observed)
    (reporting : other.reporting = world.reporting) (shared : other.shared = world.shared)
    (polled : other.polled = world.polled) : Accounted decoders clock other := by
  refine ⟨?_, ?_, ?_⟩
  · rw [osc, observed, accounted.observer]
  · rw [observed, reporting, accounted.hidden]
  · rw [observed, reporting, shared, polled, accounted.conserved]

theorem Accounted.observe (accounted : Accounted decoders clock world) (op : PaneOp Style) :
    Accounted decoders clock (world.observe decoders clock op) := by
  have handled := @handledIn_eq Style world.watched op
  have grown : reportedBy decoders clock (world.watched.observed ++ observedBytes op) =
      ((handledIn world.watched.pane op).map String.toList).foldl
        (Reporting.handleOscPayload decoders clock)
        (reportedBy decoders clock world.watched.observed) := by
    rw [reportedBy_append, handled, accounted.observer]
  have ahead := accounted.conserved
  rw [← Reports.extend_assoc] at ahead
  have both := @Reporting.foldl_of_taken decoders clock
    ((handledIn world.watched.pane op).map String.toList) _ _ _ accounted.hidden ahead
  rw [← grown] at both
  have observed : (world.watched.step op).observed =
      world.watched.observed ++ observedBytes op := observed_step op
  refine ⟨?_, ?_, ?_⟩
  · show (world.watched.step op).pane.oscState =
      (world.watched.step op).observed.foldl observeByte {}
    rw [oscState_step, observed, List.foldl_append, accounted.observer]
  · show (reportedBy decoders clock (world.watched.step op).observed).taken = _
    rw [observed]
    exact both.1
  · show (reportedBy decoders clock (world.watched.step op).observed).reports = _
    rw [observed, ← Reports.extend_assoc]
    exact both.2

theorem Accounted.receive (accounted : Accounted decoders clock world) (received : Received) :
    Accounted decoders clock (world.receive decoders clock received) := by
  have same (other : World Style) (osc : other.watched.pane.oscState = world.watched.pane.oscState)
      (observed : other.watched.observed = world.watched.observed)
      (reporting : other.reporting = world.reporting) (shared : other.shared = world.shared)
      (polled : other.polled = world.polled) : Accounted decoders clock other :=
    accounted.of_eq osc observed reporting shared polled
  cases received with
  | chunk bytes => exact accounted.observe _
  | exited => exact same _ rfl rfl rfl rfl rfl
  | command command =>
      cases command with
      | resize succeeds => cases succeeds <;> exact same _ rfl rfl rfl rfl rfl
      | writeVtBytes bytes => exact accounted.observe _
      | scrollViewportDelta delta =>
          rw [World.receive, handleWorkerCommand]
          split <;> exact same _ rfl rfl rfl rfl rfl
      | scrollViewportTop | scrollViewportBottom | passed | shutdown =>
          exact same _ rfl rfl rfl rfl rfl

theorem Accounted.work (accounted : Accounted decoders clock world) (received : List Received)
    (turns : Nat) (due : Bool) (refreshed : Refreshed Style) :
    Accounted decoders clock (world.work decoders clock received turns due refreshed) := by
  have fed : Accounted decoders clock (received.foldl (World.receive decoders clock) world) := by
    induction received generalizing world with
    | nil => exact accounted
    | cons first received ih => exact ih (accounted.receive first)
  rw [World.work]
  generalize received.foldl (World.receive decoders clock) world = other at fed
  have osc : (other.watched.step (.processPendingPtyWork turns)).pane.oscState =
      other.watched.pane.oscState := oscState_step (.processPendingPtyWork turns)
  rw [World.refreshDue]
  split
  · cases refreshed with
    | ok render => exact fed.of_eq osc rfl rfl rfl rfl
    | failed left => exact fed.of_eq osc rfl rfl rfl rfl
  · exact fed.of_eq osc rfl rfl rfl rfl

theorem Accounted.publish (accounted : Accounted decoders clock world) (snapshotChanged : Bool) :
    Accounted decoders clock (world.publish snapshotChanged) := by
  obtain ⟨observer, hidden, conserved⟩ := accounted
  refine ⟨observer, hidden, ?_⟩
  refine conserved.trans ?_
  show _ = (Reports.concat (world.polled.map WorkerState.reports)).extend
    ((world.shared.reports.extend world.reporting.reports).extend Reports.empty)
  rw [Reports.extend_empty]

theorem Accounted.pollUpdate (accounted : Accounted decoders clock world) :
    Accounted decoders clock world.pollUpdate := by
  obtain ⟨observer, hidden, conserved⟩ := accounted
  refine ⟨observer, hidden, ?_⟩
  refine conserved.trans ?_
  show _ = (Reports.concat ((world.polled ++ [world.shared]).map WorkerState.reports)).extend
    (Reports.empty.extend world.reporting.reports)
  rw [List.map_append, List.map_singleton, Reports.concat_concat, Reports.empty_extend,
    Reports.extend_assoc]

theorem Accounted.step (accounted : Accounted decoders clock world) (action : Action Style) :
    Accounted decoders clock (world.step decoders clock action) := by
  cases action with
  | work received turns due refreshed =>
      rw [World.step]
      split
      · exact accounted.work received turns due refreshed
      · exact accounted
  | publish =>
      rw [World.step]
      split
      · exact accounted.publish _
      · exact accounted
  | poll => exact accounted.pollUpdate

end Accounts

section Mailbox

/-- What receiving leaves alone. -/
structure Frame (world other : World Style) : Prop where
  phase : other.phase = world.phase
  refreshFailed : other.refreshFailed = world.refreshFailed
  shared : other.shared = world.shared
  history : other.history = world.history
  shownTo : other.shownTo = world.shownTo
  woken : other.woken = world.woken
  polled : other.polled = world.polled

theorem frame_receive (world : World Style) (received : Received) :
    Frame world (world.receive decoders clock received) := by
  cases received with
  | chunk bytes => exact ⟨rfl, rfl, rfl, rfl, rfl, rfl, rfl⟩
  | exited => exact ⟨rfl, rfl, rfl, rfl, rfl, rfl, rfl⟩
  | command command =>
      cases command with
      | resize succeeds => cases succeeds <;> exact ⟨rfl, rfl, rfl, rfl, rfl, rfl, rfl⟩
      | scrollViewportDelta delta =>
          rw [World.receive, handleWorkerCommand]
          split <;> exact ⟨rfl, rfl, rfl, rfl, rfl, rfl, rfl⟩
      | writeVtBytes | scrollViewportTop | scrollViewportBottom | passed | shutdown =>
          exact ⟨rfl, rfl, rfl, rfl, rfl, rfl, rfl⟩

theorem frame_foldl (received : List Received) (world : World Style) :
    Frame world (received.foldl (receive decoders clock) world) := by
  induction received generalizing world with
  | nil => exact ⟨rfl, rfl, rfl, rfl, rfl, rfl, rfl⟩
  | cons first received ih =>
      have one := @frame_receive Style decoders clock world first
      have rest := ih (world.receive decoders clock first)
      exact ⟨rest.phase.trans one.phase, rest.refreshFailed.trans one.refreshFailed,
        rest.shared.trans one.shared, rest.history.trans one.history,
        rest.shownTo.trans one.shownTo, rest.woken.trans one.woken, rest.polled.trans one.polled⟩

/-- A turn up to its lock shares nothing yet. -/
theorem work_frame (world : World Style) (received : List Received) (turns : Nat) (due : Bool)
    (refreshed : Refreshed Style) :
    let next := world.work decoders clock received turns due refreshed
    (∃ snapshotChanged, next.phase = .publishing snapshotChanged) ∧
      next.shared = world.shared ∧ next.history = world.history ∧
        next.shownTo = world.shownTo ∧ next.woken = world.woken ∧ next.polled = world.polled := by
  have fed := @frame_foldl Style decoders clock received world
  dsimp only
  rw [World.work, World.refreshDue]
  dsimp only
  split
  · cases refreshed with
    | ok render =>
        exact ⟨⟨true, rfl⟩, fed.shared, fed.history, fed.shownTo, fed.woken, fed.polled⟩
    | failed left =>
        exact ⟨⟨false, rfl⟩, fed.shared, fed.history, fed.shownTo, fed.woken, fed.polled⟩
  · exact ⟨⟨false, rfl⟩, fed.shared, fed.history, fed.shownTo, fed.woken, fed.polled⟩

/-- What is shared, between two turns and while the worker waits for the lock. -/
structure Mailbox (world : World Style) : Prop where
  running : (∀ snapshotChanged, world.phase ≠ .publishing snapshotChanged) →
    world.shared.runningCommand =
      world.reporting.commands.shell.runningCommand.map RunningCommand.command
  version : world.shared.version = UInt64.ofNat world.history.length
  latest : world.history.getLast? = some world.shared.snapshot
  polls : ∀ update ∈ world.polled, ∃ index,
    world.history[index]? = some update.snapshot ∧ update.version = UInt64.ofNat (index + 1)
  ended : world.phase = .stopped → world.reporting.reports = Reports.empty
  quits : world.shared.exited = true → world.phase = .stopped
  last : (∃ update ∈ world.polled, update.exited = true) →
    world.shared.exited = true ∧ world.shared.reports = Reports.empty
  awake : world.woken = false → ∃ update, world.polled.getLast? = some update ∧
    world.shared = { update with reports := Reports.empty }

theorem mailbox_spawn (snapshot : TerminalSnapshot Style) : (spawn snapshot).Mailbox where
  running := fun _ => rfl
  version := rfl
  latest := rfl
  polls := by simp [spawn]
  ended := fun stopped => by cases stopped
  quits := fun exited => by cases exited
  last := by simp [spawn]
  awake := fun asleep => by cases asleep

theorem Mailbox.work (mailbox : world.Mailbox) (working : world.phase = .working)
    (received : List Received) (turns : Nat) (due : Bool) (refreshed : Refreshed Style) :
    (world.work decoders clock received turns due refreshed).Mailbox := by
  obtain ⟨⟨snapshotChanged, phase⟩, shared, history, shownTo, woken, polled⟩ :=
    @work_frame Style decoders clock world received turns due refreshed
  generalize world.work decoders clock received turns due refreshed = next at *
  have quiet : world.shared.exited ≠ true := fun exited => by
    have stopped := mailbox.quits exited
    rw [working] at stopped
    cases stopped
  refine ⟨fun other => absurd phase (other snapshotChanged), ?_, ?_, ?_, fun stopped => ?_,
    fun exited => ?_, ?_, ?_⟩
  · rw [shared, history, mailbox.version]
  · rw [shared, history, mailbox.latest]
  · rw [polled, history]
    exact mailbox.polls
  · rw [phase] at stopped
    cases stopped
  · rw [shared] at exited
    exact absurd exited quiet
  · rw [polled, shared]
    exact mailbox.last
  · rw [woken, polled, shared]
    exact mailbox.awake

theorem Mailbox.publish (mailbox : world.Mailbox) {snapshotChanged : Bool}
    (publishing : world.phase = .publishing snapshotChanged) :
    (world.publish snapshotChanged).Mailbox := by
  have quiet : world.shared.exited = false := by
    rw [← Bool.not_eq_true]
    intro exited
    have stopped := mailbox.quits exited
    rw [publishing] at stopped
    cases stopped
  refine ⟨fun _ => rfl, ?_, ?_, fun update member => ?_, fun _ => rfl, fun exited => ?_,
    fun told => ?_, fun asleep => ?_⟩
  · show (if snapshotChanged then world.shared.version + 1 else world.shared.version) =
      UInt64.ofNat (if snapshotChanged then world.history ++ [world.watched.snapshot]
        else world.history).length
    cases snapshotChanged with
    | false => exact mailbox.version
    | true =>
        show world.shared.version + 1 = UInt64.ofNat (world.history ++ [_]).length
        rw [mailbox.version, List.length_append, List.length_singleton, UInt64.ofNat_add]
        rfl
  · show (if snapshotChanged then world.history ++ [world.watched.snapshot]
      else world.history).getLast? = some (if snapshotChanged then world.watched.snapshot
        else world.shared.snapshot)
    cases snapshotChanged with
    | false => exact mailbox.latest
    | true => exact List.getLast?_concat
  · obtain ⟨index, found, version⟩ := mailbox.polls update member
    refine ⟨index, ?_, version⟩
    show (if snapshotChanged then world.history ++ [world.watched.snapshot]
      else world.history)[index]? = some update.snapshot
    cases snapshotChanged with
    | false => exact found
    | true =>
        have inside := (List.getElem?_eq_some_iff.mp found).1
        exact (List.getElem?_append_left inside).trans found
  · have exits : (world.shared.exited || !world.shared.exited && world.exited) = true := exited
    rw [quiet] at exits
    have worldExited : world.exited = true := exits
    show (if (world.exited || world.disconnected) = true then Phase.stopped else .working) =
      .stopped
    rw [worldExited]
    rfl
  · obtain ⟨exited, _⟩ := mailbox.last told
    rw [quiet] at exited
    cases exited
  · have parts : (world.woken || snapshotChanged ||
        world.shared.runningCommand !=
          world.reporting.commands.shell.runningCommand.map RunningCommand.command ||
        world.reporting.reports != Reports.empty ||
        !world.shared.exited && world.exited) = false := asleep
    simp only [Bool.or_eq_false_iff, bne_eq_false_iff_eq] at parts
    obtain ⟨⟨⟨⟨woken, unchanged⟩, running⟩, reports⟩, exits⟩ := parts
    obtain ⟨update, lastUpdate, same⟩ := mailbox.awake woken
    refine ⟨update, lastUpdate, ?_⟩
    subst unchanged
    have kept : (world.publish false).shared = world.shared := by
      unfold World.publish
      dsimp only
      rw [← running, reports, exits, Reports.extend_empty, Bool.or_false]
      rfl
    rw [kept, same]

theorem Mailbox.pollUpdate (mailbox : world.Mailbox) : world.pollUpdate.Mailbox := by
  obtain ⟨running, version, latest, polls, ended, quits, last, awake⟩ := mailbox
  refine ⟨running, version, latest, fun update member => ?_, ended, quits, fun told => ?_,
    fun _ => ⟨world.shared, List.getLast?_concat, rfl⟩⟩
  · rcases List.mem_append.mp member with earlier | now
    · exact polls update earlier
    · rw [List.mem_singleton.mp now]
      rw [List.getLast?_eq_getElem?] at latest
      have inside := (List.getElem?_eq_some_iff.mp latest).1
      refine ⟨world.history.length - 1, latest, ?_⟩
      rw [Nat.sub_add_cancel (by omega)]
      exact version
  · obtain ⟨update, member, exited⟩ := told
    refine ⟨?_, rfl⟩
    rcases List.mem_append.mp member with earlier | now
    · exact (last ⟨update, earlier, exited⟩).1
    · rw [List.mem_singleton.mp now] at exited
      exact exited

theorem Mailbox.step (mailbox : world.Mailbox) (action : Action Style) :
    (world.step decoders clock action).Mailbox := by
  cases action with
  | work received turns due refreshed =>
      rw [World.step]
      split
      · rename_i working
        exact mailbox.work working received turns due refreshed
      · exact mailbox
  | publish =>
      rw [World.step]
      split
      · rename_i publishing
        exact mailbox.publish publishing
      · exact mailbox
  | poll => exact mailbox.pollUpdate

end Mailbox

section Shown

/-- A pane that is not dirty has written nothing since the last refresh. -/
def Clean (watched : Watched Style) : Prop :=
  watched.refreshedTo ≤ watched.pane.terminal.length ∧
    (watched.pane.dirty = false → watched.refreshedTo = watched.pane.terminal.length)

theorem processTurns_clean (turns : Nat) (pane : VtPane) :
    pane.terminal.length ≤ (pane.processTurns turns).1.terminal.length ∧
      ((pane.processTurns turns).2 = false →
        (pane.processTurns turns).1.terminal = pane.terminal) ∧
      (pane.processTurns turns).1.dirty = pane.dirty := by
  induction turns generalizing pane with
  | zero => exact ⟨Nat.le_refl _, fun _ => rfl, rfl⟩
  | succ turns ih =>
      rw [VtPane.processTurns]
      split
      · exact ⟨Nat.le_refl _, fun _ => rfl, rfl⟩
      · rename_i chunk rest _
        dsimp only
        split
        · exact ih { pane with pendingPtyChunks := rest }
        · obtain ⟨longer, _, dirty⟩ := ih _
          refine ⟨Nat.le_trans ?_ longer, fun unwritten => (by cases unwritten), dirty⟩
          rw [List.length_append]
          exact Nat.le_add_right _ _

/-- The step of a pane: it keeps a clean one clean, cleans it or makes it dirty. -/
theorem clean_step {watched : Watched Style} (clean : Clean watched) (op : PaneOp Style) :
    Clean (watched.step op) ∧
      ((watched.step op).pane.dirty = false → (∀ render, op ≠ .refreshSnapshot render) →
        watched.pane.dirty = false ∧ (watched.step op).snapshot = watched.snapshot ∧
          (watched.step op).refreshedTo = watched.refreshedTo) := by
  have observing (bytes : List UInt8) (hasEscape : Bool) :
      (watched.pane.observeControlSequences bytes hasEscape).terminal = watched.pane.terminal ∧
        (watched.pane.observeControlSequences bytes hasEscape).dirty = watched.pane.dirty := by
    rw [VtPane.observeControlSequences]
    split
    · exact ⟨rfl, rfl⟩
    · split <;> exact ⟨rfl, rfl⟩
  obtain ⟨within, settled⟩ := clean
  cases op with
  | enqueuePtyChunk chunk =>
      obtain ⟨terminal, dirty⟩ := observing chunk (chunk.contains escapeByte)
      have dirtySame : (watched.pane.enqueuePtyChunk chunk).dirty = watched.pane.dirty := dirty
      have terminalSame : (watched.pane.enqueuePtyChunk chunk).terminal = watched.pane.terminal :=
        terminal
      refine ⟨⟨?_, fun still => ?_⟩, fun still _ => ⟨?_, rfl, rfl⟩⟩
      · show watched.refreshedTo ≤ (watched.pane.enqueuePtyChunk chunk).terminal.length
        rw [terminalSame]
        exact within
      · show watched.refreshedTo = (watched.pane.enqueuePtyChunk chunk).terminal.length
        rw [terminalSame]
        exact settled (dirtySame.symm.trans still)
      · exact dirtySame.symm.trans still
  | processPendingPtyWork turns =>
      obtain ⟨longer, unwritten, dirty⟩ := processTurns_clean turns watched.pane
      have processed : watched.pane.processPendingPtyWork turns =
          if (watched.pane.processTurns turns).2 = true then
            { (watched.pane.processTurns turns).1 with dirty := true }
          else (watched.pane.processTurns turns).1 := rfl
      have both : (watched.step (.processPendingPtyWork turns)).pane =
          watched.pane.processPendingPtyWork turns := rfl
      by_cases wrote : (watched.pane.processTurns turns).2 = true
      · rw [if_pos wrote] at processed
        refine ⟨⟨?_, fun still => ?_⟩, fun still _ => ?_⟩
        · rw [both, processed]
          exact Nat.le_trans within longer
        · rw [both, processed] at still
          cases still
        · rw [both, processed] at still
          cases still
      · rw [if_neg wrote] at processed
        have same := unwritten (by simpa using wrote)
        refine ⟨⟨?_, fun still => ?_⟩, fun still _ => ⟨?_, rfl, rfl⟩⟩
        · rw [both, processed]
          exact Nat.le_trans within longer
        · rw [both, processed] at still ⊢
          rw [same]
          exact settled (dirty.symm.trans still)
        · rw [both, processed] at still
          exact dirty.symm.trans still
  | writeVtBytes bytes =>
      cases bytes with
      | nil =>
          exact ⟨⟨within, settled⟩, fun still _ => ⟨still, rfl, rfl⟩⟩
      | cons byte bytes =>
          refine ⟨⟨?_, fun still => (by cases still)⟩, fun still => (by cases still)⟩
          obtain ⟨terminal, _⟩ := observing (byte :: bytes) ((byte :: bytes).contains escapeByte)
          show watched.refreshedTo ≤ (_ ++ (byte :: bytes)).length
          rw [List.length_append, terminal]
          omega
  | refreshSnapshot render =>
      exact ⟨⟨Nat.le_refl _, fun _ => rfl⟩, fun _ other => absurd rfl (other render)⟩

/-- What the shared snapshot shows, and why a pane stays dirty. -/
structure Shown (world : World Style) : Prop where
  clean : Clean world.watched
  shown : world.shownTo ≤ world.watched.refreshedTo
  refreshed : world.phase = .publishing true → world.watched.pane.dirty = false
  fresh : world.watched.pane.dirty = false → world.phase ≠ .publishing true →
    world.shared.snapshot = world.watched.snapshot ∧ world.shownTo = world.watched.refreshedTo
  idle : world.watched.pane.dirty = true → world.phase ≠ .publishing true →
    world.watched.pane.pendingPtyChunks ≠ [] ∨ world.refreshFailed = true

/-- The part of it that lasts from one message to the next. -/
structure Feeding (world : World Style) : Prop where
  clean : Clean world.watched
  shown : world.shownTo ≤ world.watched.refreshedTo
  fresh : world.watched.pane.dirty = false →
    world.shared.snapshot = world.watched.snapshot ∧ world.shownTo = world.watched.refreshedTo

theorem Feeding.of_step (feeding : world.Feeding) (op : PaneOp Style)
    (other : ∀ render, op ≠ .refreshSnapshot render) {next : World Style}
    (watched : next.watched = world.watched.step op) (shared : next.shared = world.shared)
    (shownTo : next.shownTo = world.shownTo) : next.Feeding := by
  obtain ⟨clean, kept⟩ := clean_step feeding.clean op
  have refreshedTo : (world.watched.step op).refreshedTo = world.watched.refreshedTo := by
    cases op with
    | refreshSnapshot render => exact absurd rfl (other render)
    | enqueuePtyChunk | processPendingPtyWork | writeVtBytes => rfl
  refine ⟨watched ▸ clean, ?_, fun still => ?_⟩
  · rw [watched, shownTo, refreshedTo]
    exact feeding.shown
  · rw [watched] at still ⊢
    obtain ⟨before, snapshot, _⟩ := kept still other
    rw [shared, shownTo, snapshot, refreshedTo]
    exact feeding.fresh before

theorem Feeding.markDirty (feeding : world.Feeding) : world.markDirty.Feeding :=
  ⟨⟨feeding.clean.1, fun still => (by cases still)⟩, feeding.shown, fun still => (by cases still)⟩

theorem Feeding.receive (feeding : world.Feeding) (received : Received) :
    (world.receive decoders clock received).Feeding := by
  cases received with
  | chunk bytes =>
      exact feeding.of_step (.enqueuePtyChunk bytes) (fun render same => by cases same) rfl rfl rfl
  | exited => exact ⟨feeding.clean, feeding.shown, feeding.fresh⟩
  | command command =>
      cases command with
      | resize succeeds =>
          cases succeeds with
          | false => exact feeding
          | true => exact feeding.markDirty
      | writeVtBytes bytes =>
          exact feeding.of_step (.writeVtBytes bytes) (fun render same => by cases same) rfl rfl rfl
      | scrollViewportDelta delta =>
          rw [World.receive, handleWorkerCommand]
          split
          · exact feeding
          · exact feeding.markDirty
      | scrollViewportTop => exact feeding.markDirty
      | scrollViewportBottom => exact feeding.markDirty
      | passed => exact feeding
      | shutdown => exact ⟨feeding.clean, feeding.shown, feeding.fresh⟩

theorem shown_spawn (snapshot : TerminalSnapshot Style) : (spawn snapshot).Shown where
  clean := ⟨Nat.le_refl _, fun _ => rfl⟩
  shown := Nat.le_refl _
  refreshed := fun publishing => by cases publishing
  fresh := fun _ _ => ⟨rfl, rfl⟩
  idle := fun dirty => by cases dirty

theorem Feeding.refreshDue (feeding : world.Feeding) (due : Bool) (refreshed : Refreshed Style) :
    (world.refreshDue due refreshed).Shown := by
  rw [World.refreshDue]
  by_cases dirty : world.watched.pane.dirty = true
  · rw [dirty, Bool.true_and]
    split
    · cases refreshed with
      | ok render =>
          obtain ⟨clean, _⟩ := clean_step feeding.clean (.refreshSnapshot render)
          refine ⟨clean, ?_, fun _ => rfl, fun _ other => absurd rfl other,
            fun dirty => (by cases dirty)⟩
          exact feeding.shown.trans feeding.clean.1
      | failed left =>
          refine ⟨feeding.clean, feeding.shown, fun same => (by cases same), fun still => ?_,
            fun _ _ => .inr rfl⟩
          have still : world.watched.pane.dirty = false := still
          rw [dirty] at still
          cases still
    · rename_i waits
      refine ⟨feeding.clean, feeding.shown, fun same => (by cases same),
        fun still _ => feeding.fresh still, fun _ _ => .inl fun none => waits ?_⟩
      have none : world.watched.pane.pendingPtyChunks = [] := none
      rw [hasPendingPtyWork, none]
      rfl
  · rw [Bool.eq_false_of_not_eq_true dirty, Bool.false_and, if_neg Bool.false_ne_true]
    exact ⟨feeding.clean, feeding.shown, fun same => (by cases same),
      fun still _ => feeding.fresh still, fun still => absurd still dirty⟩

theorem Shown.work (shown : world.Shown) (working : world.phase = .working)
    (received : List Received) (turns : Nat) (due : Bool) (refreshed : Refreshed Style) :
    (world.work decoders clock received turns due refreshed).Shown := by
  have notPublishing : world.phase ≠ .publishing true := by
    rw [working]
    exact fun same => by cases same
  have feeding : world.Feeding :=
    ⟨shown.clean, shown.shown, fun still => shown.fresh still notPublishing⟩
  have fed : (received.foldl (World.receive decoders clock) world).Feeding := by
    clear shown working notPublishing
    induction received generalizing world with
    | nil => exact feeding
    | cons first received ih => exact ih (feeding.receive first)
  have written : ((received.foldl (World.receive decoders clock) world).processPendingPtyWork
      turns).Feeding :=
    fed.of_step (.processPendingPtyWork turns) (fun render same => by cases same) rfl rfl rfl
  exact written.refreshDue due refreshed

theorem Shown.publish (shown : world.Shown) {snapshotChanged : Bool}
    (publishing : world.phase = .publishing snapshotChanged) :
    (world.publish snapshotChanged).Shown := by
  have notPublishing : (world.publish snapshotChanged).phase ≠ .publishing true := by
    show (if (world.exited || world.disconnected) = true then Phase.stopped else .working) ≠ _
    split <;> exact fun same => by cases same
  cases snapshotChanged with
  | true =>
      have still := shown.refreshed publishing
      exact ⟨shown.clean, Nat.le_refl _, fun same => absurd same notPublishing,
        fun _ _ => ⟨rfl, rfl⟩, fun dirty => by
          have dirty : world.watched.pane.dirty = true := dirty
          rw [still] at dirty
          cases dirty⟩
  | false =>
      have before : world.phase ≠ .publishing true := by
        rw [publishing]
        exact fun same => by cases same
      exact ⟨shown.clean, shown.shown, fun same => absurd same notPublishing,
        fun still _ => shown.fresh still before, fun dirty _ => shown.idle dirty before⟩

theorem Shown.step (shown : world.Shown) (action : Action Style) :
    (world.step decoders clock action).Shown := by
  cases action with
  | work received turns due refreshed =>
      rw [World.step]
      split
      · rename_i working
        exact shown.work working received turns due refreshed
      · exact shown
  | publish =>
      rw [World.step]
      split
      · rename_i publishing
        exact shown.publish publishing
      · exact shown
  | poll => exact ⟨shown.clean, shown.shown, shown.refreshed, shown.fresh, shown.idle⟩

end Shown

section Runs

variable (decoders clock) (snapshot : TerminalSnapshot Style) (actions : List (Action Style))

/-- A worker after any interleaving of its turns with polls. -/
def after : World Style := actions.foldl (step decoders clock) (spawn snapshot)

theorem accounted_after : Accounted decoders clock (after decoders clock snapshot actions) := by
  rw [after]
  induction actions using List.reverseRecOn with
  | nil => exact accounted_spawn snapshot
  | append_singleton actions action ih =>
      rw [List.foldl_append]
      exact ih.step action

theorem mailbox_after : (after decoders clock snapshot actions).Mailbox := by
  rw [after]
  induction actions using List.reverseRecOn with
  | nil => exact mailbox_spawn snapshot
  | append_singleton actions action ih =>
      rw [List.foldl_append]
      exact ih.step action

theorem shown_after : (after decoders clock snapshot actions).Shown := by
  rw [after]
  induction actions using List.reverseRecOn with
  | nil => exact shown_spawn snapshot
  | append_singleton actions action ih =>
      rw [List.foldl_append]
      exact ih.step action

/-- What the observed output reports is, once and in order, what polls have returned, then what
the next one will, then what the worker still has. -/
structure Delivers (world : World Style) : Prop where
  inOrder : (reportedBy decoders clock world.watched.observed).reports =
    (Reports.concat (world.polled.map WorkerState.reports)).extend
      (world.shared.reports.extend world.reporting.reports)
  emptied : world.phase = .stopped → world.reporting.reports = Reports.empty
  complete : (∃ update ∈ world.polled, update.exited = true) →
    (reportedBy decoders clock world.watched.observed).reports =
      Reports.concat (world.polled.map WorkerState.reports)
  missedNothing : world.woken = false → ∃ update, world.polled.getLast? = some update ∧
    world.shared = { update with reports := Reports.empty }

/-- Whatever the worker and the polls do in whatever order, no report is lost, doubled or moved. A
worker that has stopped has nothing left; once a poll tells of the exit the polls have everything;
and a server that has not been woken since its last poll has missed nothing. -/
theorem polls_deliver : (after decoders clock snapshot actions).Delivers decoders clock := by
  have accounted := accounted_after decoders clock snapshot actions
  have mailbox := mailbox_after decoders clock snapshot actions
  refine ⟨accounted.conserved, mailbox.ended, fun told => ?_, mailbox.awake⟩
  obtain ⟨exited, nothing⟩ := mailbox.last told
  have held := mailbox.ended (mailbox.quits exited)
  rw [accounted.conserved, nothing, held, Reports.extend_empty, Reports.extend_empty]

theorem settled_shows :
    let world := after decoders clock snapshot actions
    (∀ snapshotChanged, world.phase ≠ .publishing snapshotChanged) →
      world.watched.pane.pendingPtyChunks = [] → world.refreshFailed = false →
        world.shared.snapshot = world.watched.snapshot ∧
          world.shownTo = world.watched.pane.terminal.length := by
  intro world between written kept
  have shown := shown_after decoders clock snapshot actions
  have still : world.watched.pane.dirty = false := by
    rw [← Bool.not_eq_true]
    intro dirty
    rcases shown.idle dirty (between true) with pending | failed
    · exact pending written
    · rw [kept] at failed
      cases failed
  obtain ⟨same, to_⟩ := shown.fresh still (between true)
  exact ⟨same, to_.trans (shown.clean.2 still)⟩

/-- What polls return, and what is shared while the worker is not about to publish. -/
structure Shows (world : World Style) : Prop where
  published : ∀ update ∈ world.polled, ∃ index, world.history[index]? = some update.snapshot ∧
    update.version = UInt64.ofNat (index + 1)
  running : (∀ snapshotChanged, world.phase ≠ .publishing snapshotChanged) →
    world.shared.runningCommand =
      (reportedBy decoders clock world.watched.observed).commands.shell.runningCommand.map
        RunningCommand.command
  settled : (∀ snapshotChanged, world.phase ≠ .publishing snapshotChanged) →
    world.watched.pane.pendingPtyChunks = [] → world.refreshFailed = false →
      world.shared.snapshot = world.watched.snapshot ∧
        world.shownTo = world.watched.pane.terminal.length

/-- Every poll returns a published snapshot under its number. While the worker is not about to
publish, the shared command is the one that the observed output says is running; and if besides it
has nothing left to write, and its last refresh did not fail, the shared snapshot is of all that
was written. -/
theorem polls_show : (after decoders clock snapshot actions).Shows decoders clock := by
  have accounted := accounted_after decoders clock snapshot actions
  have mailbox := mailbox_after decoders clock snapshot actions
  refine ⟨mailbox.polls, fun between => ?_, settled_shows decoders clock snapshot actions⟩
  have same := congrArg (fun reporting => reporting.commands.shell.runningCommand)
    accounted.hidden
  exact (mailbox.running between).trans (congrArg _ same.symm)

end Runs

end World

end Boo.Runtime.PaneWorker
