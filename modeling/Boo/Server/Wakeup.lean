/- module: Boo/Server/Wakeup
   digest: The headless main loop, its three command channels and the flag that wakes it. -/

import Boo.Lib.Runs

set_option autoImplicit false
set_option relaxedAutoImplicit false

namespace Boo.Server.Wakeup

open Boo.Lib.Runs

def localGuiCmdDrainBudget : Nat := 1
def remoteCmdDrainBudget : Nat := 4

inductive Channel
  | control | localGui | remote
  deriving DecidableEq, Repr

/-- Where the main thread is: before the wake gate is installed, inside `update`, or in
`wait_for_headless_wakeup`. A budget counts the commands that may still be taken. -/
inductive Phase
  | starting
  | update
  | control
  | localGui (budget : Nat)
  | remote (budget : Nat)
  | rearm
  | finishing
  | waiting
  deriving DecidableEq, Repr

/-- `inFlight` counts the senders between their enqueue and their notify. `foundControl` is a
history variable: how many control commands the update found when it took one. -/
structure Headless (C : Type) where
  phase : Phase
  installed : Bool
  pending : Bool
  inFlight : Nat
  ctl : List C
  localGui : List C
  remote : List C
  moreServerCmdsPending : Bool
  pendingFontBytes : Bool
  foundControl : Nat
  deriving DecidableEq

namespace Headless

variable {C : Type}

def notifyHeadlessWakeup (s : Headless C) : Headless C :=
  if s.installed then { s with pending := true } else s

/-- `handle_server_cmd`, as far as it touches the loop: a reload of the configuration sets
`pending_font_bytes`. -/
def handled (s : Headless C) (fontBytes : Option Bool) : Headless C :=
  { s with pendingFontBytes := fontBytes.getD s.pendingFontBytes }

/-- The next step of the main thread; `fontBytes` is what a command handled there leaves. -/
def advance (s : Headless C) (fontBytes : Option Bool) : Headless C :=
  match s.phase with
  | .starting => { s with
      installed := true
      phase := .update }
  | .update =>
      if s.pendingFontBytes then { s with
        pendingFontBytes := false
        phase := .waiting }
      else { s with
        moreServerCmdsPending := false
        phase := .control }
  | .control =>
      let next : Headless C := { s with
        foundControl := s.ctl.length
        phase := .localGui localGuiCmdDrainBudget }
      match s.ctl with
      | [] => next
      | _ :: ctl => { next with ctl := ctl }.handled fontBytes
  | .localGui 0 => { s with
      moreServerCmdsPending := true
      phase := .remote remoteCmdDrainBudget }
  | .localGui (budget + 1) =>
      match s.localGui with
      | [] => { s with phase := .remote remoteCmdDrainBudget }
      | _ :: localGui => { s with
          localGui := localGui
          phase := .localGui budget }.handled fontBytes
  | .remote 0 => { s with
      moreServerCmdsPending := true
      phase := .rearm }
  | .remote (budget + 1) =>
      match s.remote with
      | [] => { s with phase := .rearm }
      | _ :: remote => { s with
          remote := remote
          phase := .remote budget }.handled fontBytes
  | .rearm =>
      if s.moreServerCmdsPending then { s.notifyHeadlessWakeup with phase := .finishing }
      else { s with phase := .finishing }
  | .finishing => { s with phase := .waiting }.handled fontBytes
  | .waiting =>
      if s.pending then { s with
        pending := false
        phase := .update }
      else s

def enqueue (s : Headless C) (channel : Channel) (cmd : C) : Headless C :=
  match channel with
  | .control => { s with ctl := s.ctl ++ [cmd] }
  | .localGui => { s with localGui := s.localGui ++ [cmd] }
  | .remote => { s with remote := s.remote ++ [cmd] }

end Headless

/-- A sender enqueues, a sender notifies, a terminal worker notifies without a command, or the
main thread moves. -/
inductive Event (C : Type)
  | send (channel : Channel) (cmd : C)
  | notify
  | wake
  | main (fontBytes : Option Bool)

section Steps

variable {C : Type}

def step (s : Headless C) : Event C → Headless C
  | .send channel cmd => { s.enqueue channel cmd with inFlight := s.inFlight + 1 }
  | .notify => { s.notifyHeadlessWakeup with inFlight := s.inFlight - 1 }
  | .wake => s.notifyHeadlessWakeup
  | .main fontBytes => s.advance fontBytes

/-- The listeners run before the gate is installed; on Linux a font may be waiting to load. -/
def start (pendingFontBytes : Bool) : Headless C where
  phase := .starting
  installed := false
  pending := false
  inFlight := 0
  ctl := []
  localGui := []
  remote := []
  moreServerCmdsPending := false
  pendingFontBytes := pendingFontBytes
  foundControl := 0

/-- Nobody has set the flag since it was cleared, and no sender is about to. -/
def Quiet (s : Headless C) : Prop := s.pending = false ∧ s.inFlight = 0

/-- The loop sleeps quietly on empty channels only. -/
def NoLostWakeup (s : Headless C) : Prop :=
  s.phase = .waiting → Quiet s → s.ctl = [] ∧ s.localGui = [] ∧ s.remote = []

/-- When a quiet update ends, it had found one control command at most; and an update that
returns early to load a font leaves nothing behind, or is not quiet. -/
def DrainsControl (s : Headless C) : Event C → Prop
  | .main _ =>
      match s.phase with
      | .finishing => Quiet s → s.foundControl ≤ 1
      | .update => s.pendingFontBytes = true → Quiet s →
          s.ctl = [] ∧ s.localGui = [] ∧ s.remote = []
      | _ => True
  | _ => True

/-- What a quiet update knows on its way: how many control commands it left, and that a local or
remote command it leaves is noted for the re-arm. -/
def Noted (s : Headless C) : Prop :=
  match s.phase with
  | .localGui _ => s.ctl.length = s.foundControl - 1
  | .remote _ => s.ctl.length = s.foundControl - 1 ∧
      (s.localGui ≠ [] → s.moreServerCmdsPending = true)
  | .rearm => s.ctl.length = s.foundControl - 1 ∧
      (s.localGui ≠ [] ∨ s.remote ≠ [] → s.moreServerCmdsPending = true)
  | .finishing => s.ctl.length = s.foundControl - 1 ∧ s.localGui = [] ∧ s.remote = []
  | _ => True

structure Tracked (s : Headless C) : Prop where
  installed : s.phase ≠ .starting → s.installed = true
  noted : Quiet s → Noted s

variable {s : Headless C}

theorem tracked_start (pendingFontBytes : Bool) :
    Tracked (start pendingFontBytes : Headless C) :=
  ⟨fun running => absurd rfl running, fun _ => trivial⟩

/-- A state that is not quiet has nothing to note. -/
theorem tracked_loud (installed : s.phase ≠ .starting → s.installed = true) (loud : ¬ Quiet s) :
    Tracked s :=
  ⟨installed, fun quiet => absurd quiet loud⟩

@[simp] theorem phase_notified (s : Headless C) : s.notifyHeadlessWakeup.phase = s.phase := by
  rw [Headless.notifyHeadlessWakeup]
  split <;> rfl

@[simp] theorem installed_notified (s : Headless C) :
    s.notifyHeadlessWakeup.installed = s.installed := by
  rw [Headless.notifyHeadlessWakeup]
  split <;> rfl

theorem Tracked.send (tracked : Tracked s) (channel : Channel) (cmd : C) :
    Tracked (step s (.send channel cmd)) := by
  apply tracked_loud
  · cases channel <;> exact tracked.installed
  · rintro ⟨-, idle⟩
    exact Nat.succ_ne_zero _ idle

theorem noted_of_starting (starting : s.phase = .starting) : Noted s := by
  rw [Noted, starting]
  trivial

theorem Tracked.notify (tracked : Tracked s) (inFlight : Nat) :
    Tracked { s.notifyHeadlessWakeup with inFlight := inFlight } := by
  refine ⟨fun running => ?_, fun quiet => ?_⟩
  · show s.notifyHeadlessWakeup.installed = true
    rw [installed_notified]
    exact tracked.installed (by simpa using running)
  · by_cases starting : s.phase = .starting
    · exact noted_of_starting (by simpa using starting)
    · have installed := tracked.installed starting
      have clear : s.notifyHeadlessWakeup.pending = false := quiet.1
      rw [Headless.notifyHeadlessWakeup, if_pos installed] at clear
      cases clear

theorem Tracked.wake (tracked : Tracked s) : Tracked s.notifyHeadlessWakeup := by
  have kept := tracked.notify s.notifyHeadlessWakeup.inFlight
  exact kept

theorem Tracked.advance (tracked : Tracked s) (fontBytes : Option Bool) :
    Tracked (s.advance fontBytes) := by
  obtain ⟨phase, installed, pending, inFlight, ctl, localGui, remote, more, font, found⟩ := s
  obtain ⟨running, noted⟩ := tracked
  cases phase with
  | starting => exact ⟨fun _ => rfl, fun _ => trivial⟩
  | update =>
      cases font with
      | true => exact ⟨fun _ => running nofun, fun _ => trivial⟩
      | false => exact ⟨fun _ => running nofun, fun _ => trivial⟩
  | control =>
      cases ctl with
      | nil => exact ⟨fun _ => running nofun, fun _ => rfl⟩
      | cons cmd ctl => exact ⟨fun _ => running nofun, fun _ => rfl⟩
  | localGui budget =>
      cases budget with
      | zero => exact ⟨fun _ => running nofun, fun quiet => ⟨noted quiet, fun _ => rfl⟩⟩
      | succ budget =>
          cases localGui with
          | nil =>
              exact ⟨fun _ => running nofun, fun quiet => ⟨noted quiet, fun left => absurd rfl left⟩⟩
          | cons cmd localGui => exact ⟨fun _ => running nofun, fun quiet => noted quiet⟩
  | remote budget =>
      cases budget with
      | zero => exact ⟨fun _ => running nofun, fun quiet => ⟨(noted quiet).1, fun _ => rfl⟩⟩
      | succ budget =>
          cases remote with
          | nil =>
              refine ⟨fun _ => running nofun, fun quiet => ⟨(noted quiet).1, fun left => ?_⟩⟩
              exact (noted quiet).2 (left.resolve_right fun none => none rfl)
          | cons cmd remote => exact ⟨fun _ => running nofun, fun quiet => noted quiet⟩
  | rearm =>
      have set : installed = true := running nofun
      subst set
      cases more with
      | true => exact ⟨fun _ => rfl, fun quiet => by cases quiet.1⟩
      | false =>
          refine ⟨fun _ => rfl, fun quiet => ⟨(noted quiet).1, ?_⟩⟩
          have nothing := mt (noted quiet).2 (by simp)
          rw [not_or, not_not, not_not] at nothing
          exact nothing
  | finishing => exact ⟨fun _ => running nofun, fun _ => trivial⟩
  | waiting =>
      cases pending with
      | true => exact ⟨fun _ => running nofun, fun _ => trivial⟩
      | false => exact ⟨fun _ => running nofun, fun _ => trivial⟩

theorem Tracked.step (tracked : Tracked s) (event : Event C) : Tracked (step s event) := by
  cases event with
  | send channel cmd => exact tracked.send channel cmd
  | notify => exact tracked.notify _
  | wake => exact tracked.wake
  | main fontBytes => exact tracked.advance fontBytes

/-- Whoever is not asleep loses no wakeup. -/
theorem noLostWakeup_awake (awake : s.phase ≠ .waiting) : NoLostWakeup s :=
  fun waiting => absurd waiting awake

theorem noLostWakeup_advance_iff (tracked : Tracked s) (held : NoLostWakeup s)
    (fontBytes : Option Bool) :
    NoLostWakeup (s.advance fontBytes) ↔ DrainsControl s (.main fontBytes) := by
  obtain ⟨phase, installed, pending, inFlight, ctl, localGui, remote, more, font, found⟩ := s
  cases phase with
  | starting => exact iff_of_true (noLostWakeup_awake nofun) trivial
  | update =>
      cases font with
      | true => exact ⟨fun safe _ => safe rfl, fun drains _ => drains rfl⟩
      | false => exact iff_of_true (noLostWakeup_awake nofun) nofun
  | control => cases ctl <;> exact iff_of_true (noLostWakeup_awake nofun) trivial
  | localGui budget =>
      cases budget with
      | zero => exact iff_of_true (noLostWakeup_awake nofun) trivial
      | succ budget => cases localGui <;> exact iff_of_true (noLostWakeup_awake nofun) trivial
  | remote budget =>
      cases budget with
      | zero => exact iff_of_true (noLostWakeup_awake nofun) trivial
      | succ budget => cases remote <;> exact iff_of_true (noLostWakeup_awake nofun) trivial
  | rearm => cases more <;> exact iff_of_true (noLostWakeup_awake (by simp [Headless.advance])) trivial
  | finishing =>
      constructor
      · intro safe quiet
        have left : ctl.length = found - 1 := (tracked.noted quiet).1
        have none : ctl = [] := (safe rfl quiet).1
        rw [none, List.length_nil] at left
        show found ≤ 1
        omega
      · intro drains _ quiet
        obtain ⟨left, localNone, remoteNone⟩ : ctl.length = found - 1 ∧ localGui = [] ∧
          remote = [] := tracked.noted quiet
        have few : found ≤ 1 := drains quiet
        have none : found - 1 = 0 := by omega
        exact ⟨List.length_eq_zero_iff.mp (left.trans none), localNone, remoteNone⟩
  | waiting =>
      cases pending with
      | true => exact iff_of_true (noLostWakeup_awake nofun) trivial
      | false => exact iff_of_true held trivial

theorem noLostWakeup_step_iff (tracked : Tracked s) (held : NoLostWakeup s) (event : Event C) :
    NoLostWakeup (step s event) ↔ DrainsControl s event := by
  have loud : ∀ inFlight, s.notifyHeadlessWakeup.phase = .waiting →
      ¬ Quiet { s.notifyHeadlessWakeup with inFlight := inFlight } := by
    intro inFlight waiting quiet
    have installed := tracked.installed (by rw [← phase_notified, waiting]; exact nofun)
    have clear : s.notifyHeadlessWakeup.pending = false := quiet.1
    rw [Headless.notifyHeadlessWakeup, if_pos installed] at clear
    cases clear
  cases event with
  | main fontBytes => exact noLostWakeup_advance_iff tracked held fontBytes
  | send channel cmd =>
      refine iff_of_true (fun _ quiet => ?_) trivial
      exact absurd quiet.2 (Nat.succ_ne_zero _)
  | notify =>
      exact iff_of_true (fun waiting quiet => absurd ⟨quiet.1, rfl⟩ (loud 0 waiting)) trivial
  | wake => exact iff_of_true (fun waiting quiet => absurd quiet (loud _ waiting)) trivial

/-- For every interleaving: the loop never sleeps on a queued command exactly if its quiet updates
find one control command at most and none of them returns early with commands queued. -/
theorem noLostWakeup_throughout_iff (pendingFontBytes : Bool) (events : List (Event C)) :
    Throughout step NoLostWakeup (start pendingFontBytes : Headless C) events ↔
      Always step DrainsControl (start pendingFontBytes : Headless C) events :=
  throughout_iff (fun _ event tracked => tracked.step event)
    (fun _ event tracked held => noLostWakeup_step_iff tracked held event)
    (tracked_start pendingFontBytes) (noLostWakeup_awake nofun)

end Steps

/-- Two control commands arrive while the loop sleeps; one update takes one of them, and the loop
sleeps again on the other. -/
theorem secondControlCommand_stranded :
    ¬ ∀ events : List (Event Nat), Throughout step NoLostWakeup (start false) events := by
  intro all
  have run := (all (List.replicate 7 (.main none) ++
    [.send .control 1, .send .control 2, .notify, .notify] ++
      List.replicate 7 (.main none))).final
  obtain ⟨control, -, -⟩ := run (by decide) ⟨by decide, by decide⟩
  exact absurd control (by decide)

end Boo.Server.Wakeup
