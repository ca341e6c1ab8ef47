/- module: Boo/Runtime/PtyDescriptors
   digest: The descriptors of pseudo-terminals, from the calls of spawn to reader and destructor. -/

import Boo.Lib.Descriptors
import Boo.Lib.Runs

set_option autoImplicit false
set_option relaxedAutoImplicit false

namespace Boo.Runtime.PtyDescriptors

open Boo.Lib.Descriptors
open Boo.Lib.Runs

section Steps

inductive Role
  | master | slave | reader
  deriving DecidableEq

/-- A descriptor that the `spawn` of a process opens. -/
structure Descriptor where
  process : Nat
  role : Role
  deriving DecidableEq

/-- The calls of `enable_iutf8` and of `set_cloexec`. -/
inductive Call
  | tcgetattr | tcsetattr | getFd | setFd
  deriving DecidableEq

def masterCalls : List Call := [.tcgetattr, .tcsetattr, .getFd, .setFd]

def readerCalls : List Call := [.getFd, .setFd]

/-- How far the destructor has come. -/
inductive Dropping
  | alive | readerClosed | done
  deriving DecidableEq

/-- Where a process stands, with the numbers that the code has at hand. -/
inductive Stage
  | start
  | settingUp (master slave : Nat) (calls : List Call)
  | unforked (master slave : Nat)
  | unforkedSlave (slave : Nat)
  | parent (master slave : Nat)
  | duplicating (master : Nat)
  | guarding (master reader : Nat) (calls : List Call)
  | running (master reader : Nat) (reads : Bool) (dropping : Dropping)
  | failed
  deriving DecidableEq

/-- How the next call of `spawn` turns out, the next `close` of `spawn`, the end of the reader
thread, and the next `close` of the destructor. -/
inductive PtyEvent
  | openpty (numbers : Option (Nat × Nat))
  | call (succeeds : Bool)
  | fork (succeeds : Bool)
  | close
  | dup (number : Option Nat)
  | thread (starts : Bool)
  | readerExits
  | drop
  deriving DecidableEq

inductive Effect
  | quiet
  | openPty (master slave : Nat)
  | openReader (reader : Nat)
  | close (role : Role) (number : Nat)

/-- What an event makes of a stage that it can occur on. -/
def Stage.next : Stage → PtyEvent → Option (Stage × Effect)
  | start, .openpty (some (master, slave)) =>
      some (settingUp master slave masterCalls, .openPty master slave)
  | start, .openpty none => some (failed, .quiet)
  | settingUp master slave (_ :: calls), .call true => some (settingUp master slave calls, .quiet)
  | settingUp _ _ (_ :: _), .call false => some (failed, .quiet)
  | settingUp master slave [], .fork true => some (parent master slave, .quiet)
  | settingUp master slave [], .fork false => some (unforked master slave, .quiet)
  | unforked master slave, .close => some (unforkedSlave slave, .close .master master)
  | unforkedSlave slave, .close => some (failed, .close .slave slave)
  | parent master slave, .close => some (duplicating master, .close .slave slave)
  | duplicating master, .dup (some reader) =>
      some (guarding master reader readerCalls, .openReader reader)
  | duplicating _, .dup none => some (failed, .quiet)
  | guarding master reader (_ :: calls), .call true => some (guarding master reader calls, .quiet)
  | guarding _ _ (_ :: _), .call false => some (failed, .quiet)
  | guarding master reader [], .thread true => some (running master reader true .alive, .quiet)
  | guarding _ _ [], .thread false => some (failed, .quiet)
  | running master reader true dropping, .readerExits =>
      some (running master reader false dropping, .close .reader reader)
  | running master reader reads .alive, .drop =>
      some (running master reader reads .readerClosed, .close .reader reader)
  | running master reader reads .readerClosed, .drop =>
      some (running master reader reads .done, .close .master master)
  | _, _ => none

/-- An event of a process, and a file that is opened or closed elsewhere. -/
inductive Event
  | pty (process : Nat) (event : PtyEvent)
  | openOther (number : Nat)
  | closeOther (number : Nat)
  deriving DecidableEq

structure State where
  ledger : Ledger Descriptor
  stages : Nat → Stage

/-- At the start some numbers stand for files of others. -/
def State.initial (taken : Nat → Bool) : State where
  ledger := ⟨fun number => if taken number then some .other else none, [], []⟩
  stages _ := .start

/-- New descriptors get numbers that stand for nothing. -/
def Effect.Possible (files : Nat → Option (File Descriptor)) : Effect → Prop
  | openPty master slave => files master = none ∧ files slave = none ∧ master ≠ slave
  | openReader reader => files reader = none
  | quiet | close _ _ => True

instance (files : Nat → Option (File Descriptor)) :
    (effect : Effect) → Decidable (effect.Possible files)
  | .openPty _ _ => inferInstanceAs (Decidable (_ ∧ _ ∧ _))
  | .openReader _ => inferInstanceAs (Decidable (_ = _))
  | .quiet | .close _ _ => inferInstanceAs (Decidable True)

def Effect.perform (process : Nat) (ledger : Ledger Descriptor) : Effect → Ledger Descriptor
  | quiet => ledger
  | openPty master slave =>
      (ledger.openOwn ⟨process, .master⟩ master).openOwn ⟨process, .slave⟩ slave
  | openReader reader => ledger.openOwn ⟨process, .reader⟩ reader
  | close role number => ledger.closeOwn ⟨process, role⟩ number

/-- An event that cannot occur leaves the state as it is. -/
def step (state : State) : Event → State
  | .pty process event =>
      match (state.stages process).next event with
      | none => state
      | some (stage, effect) =>
          if effect.Possible state.ledger.files then
            ⟨effect.perform process state.ledger, Function.update state.stages process stage⟩
          else state
  | .openOther number =>
      if state.ledger.files number = none then
        { state with ledger := state.ledger.setOther number (some .other) }
      else state
  | .closeOther number =>
      if state.ledger.files number = some .other then
        { state with ledger := state.ledger.setOther number none }
      else state

end Steps

section Statement

/-- `spawn` has returned an error, or the reader thread has ended and the process is dropped. -/
def Stage.Finished : Stage → Prop
  | failed => True
  | running _ _ reads dropping => reads = false ∧ dropping = .done
  | _ => False

/-- No close hits another file, no descriptor is closed twice, and those of a process that is
finished are closed. -/
structure Proper (state : State) : Prop where
  own : state.ledger.ClosesOwn
  once : ∀ descriptor ∈ state.ledger.opened, state.ledger.timesClosed descriptor ≤ 1
  finished : ∀ descriptor ∈ state.ledger.opened, (state.stages descriptor.process).Finished →
    state.ledger.timesClosed descriptor = 1

/-- Behind `openpty` no call but `fork` fails, and of the reader thread and the destructor only one
closes the descriptor of the reader. -/
def Stage.Orderly : Stage → PtyEvent → Prop
  | settingUp _ _ calls, .call succeeds | guarding _ _ calls, .call succeeds =>
      calls ≠ [] → succeeds = true
  | duplicating _, .dup number => number ≠ none
  | guarding _ _ calls, .thread starts => calls = [] → starts = true
  | running _ _ reads dropping, .readerExits => reads = true → dropping = .alive
  | running _ _ reads dropping, .drop => dropping = .alive → reads = true
  | _, _ => True

def Orderly (state : State) : Event → Prop
  | .pty process event => (state.stages process).Orderly event
  | .openOther _ | .closeOther _ => True

end Statement

section Invariant

/-- The numbers of the descriptors that are open on a stage and have one close to come. -/
def Stage.held : Stage → Role → Option Nat
  | settingUp master slave _ | unforked master slave | parent master slave => fun
      | .master => some master
      | .slave => some slave
      | .reader => none
  | unforkedSlave slave => fun role => if role = .slave then some slave else none
  | duplicating master => fun role => if role = .master then some master else none
  | guarding master reader _ => fun
      | .master => some master
      | .slave => none
      | .reader => some reader
  | running master reader reads dropping => fun
      | .master => if dropping = .done then none else some master
      | .slave => none
      | .reader => if reads = true ∧ dropping = .alive then some reader else none
  | start | failed => fun _ => none

/-- What a stage says about the descriptors opened so far. -/
def Stage.Matches (opened : Role → Prop) : Stage → Prop
  | start => ∀ role, ¬ opened role
  | settingUp _ _ _ | unforked _ _ | parent _ _ | duplicating _ => ¬ opened .reader
  | running _ _ _ _ => opened .reader
  | unforkedSlave _ | guarding _ _ _ | failed => True

def heldBy (stages : Nat → Stage) (descriptor : Descriptor) : Option Nat :=
  (stages descriptor.process).held descriptor.role

structure Linked (state : State) : Prop where
  balanced : Ledger.Balanced (heldBy state.stages) state.ledger
  stages : ∀ process,
    (state.stages process).Matches fun role => ⟨process, role⟩ ∈ state.ledger.opened

variable {stage after : Stage} {event : PtyEvent} {effect : Effect} {opened : Role → Prop}

theorem held_of_finished (finished : stage.Finished) (role : Role) : stage.held role = none := by
  cases stage with
  | failed => rfl
  | running master reader reads dropping =>
      obtain ⟨rfl, rfl⟩ := finished
      cases role <;> rfl
  | _ => cases finished

theorem proper_of_linked {state : State} (linked : Linked state) : Proper state := by
  refine ⟨linked.balanced.closesOwn, ?_, ?_⟩
  · intro descriptor member
    rw [linked.balanced.times descriptor member]
    split <;> omega
  · intro descriptor member finished
    rw [linked.balanced.times descriptor member, if_pos]
    exact held_of_finished finished descriptor.role

/-- How an effect changes the numbers that are held. -/
def Effect.Fits (before after : Role → Option Nat) : Effect → Prop
  | quiet => after = before
  | openPty master slave =>
      after = Function.update (Function.update before .master (some master)) .slave (some slave)
  | openReader reader => after = Function.update before .reader (some reader)
  | close role number => before role = some number ∧ after = Function.update before role none

/-- How an effect changes what has been opened. -/
def Effect.opens (opened : Role → Prop) : Effect → Role → Prop
  | openPty _ _ => fun role => role = .slave ∨ role = .master ∨ opened role
  | openReader _ => fun role => role = .reader ∨ opened role
  | quiet | close _ _ => opened

/-- What an effect opens has not been opened before. -/
def Effect.Fresh (opened : Role → Prop) : Effect → Prop
  | openPty _ _ => ¬ opened .master ∧ ¬ opened .slave
  | openReader _ => ¬ opened .reader
  | quiet | close _ _ => True

theorem fits_of_next (next : stage.next event = some (after, effect))
    (orderly : stage.Orderly event) : effect.Fits stage.held after.held := by
  unfold Stage.next at next
  split at next
  all_goals cases next
  case h_16 =>
    obtain rfl : _ = Dropping.alive := orderly rfl
    exact ⟨rfl, funext fun role => by cases role <;> rfl⟩
  case h_17 =>
    obtain rfl : _ = true := orderly rfl
    exact ⟨rfl, funext fun role => by cases role <;> rfl⟩
  case h_18 => exact ⟨rfl, funext fun role => by cases role <;> simp [Stage.held]⟩
  case h_11 => exact absurd rfl orderly
  case h_15 => exact absurd (orderly rfl) Bool.false_ne_true
  all_goals first
    | exact absurd (orderly (List.cons_ne_nil _ _)) Bool.false_ne_true
    | rfl
    | exact funext fun role => by cases role <;> rfl
    | exact ⟨rfl, funext fun role => by cases role <;> rfl⟩

theorem fresh_of_next (next : stage.next event = some (after, effect))
    (agrees : stage.Matches opened) : effect.Fresh opened := by
  unfold Stage.next at next
  split at next
  all_goals cases next
  all_goals first
    | exact trivial
    | exact agrees
    | exact ⟨agrees .master, agrees .slave⟩

theorem matches_of_next (next : stage.next event = some (after, effect))
    (agrees : stage.Matches opened) (holds : ∀ role, (stage.held role).isSome → opened role) :
    after.Matches (effect.opens opened) := by
  unfold Stage.next at next
  split at next
  all_goals cases next
  case h_1 =>
    rintro (same | same | opens)
    · cases same
    · cases same
    · exact agrees .reader opens
  case h_14 => exact holds .reader rfl
  all_goals first
    | exact trivial
    | exact agrees

end Invariant

section Preservation

variable {state : State} {stages : Nat → Stage} {process : Nat} {after : Stage} {event : PtyEvent}
variable {effect : Effect} {ledger : Ledger Descriptor}

theorem heldBy_move (descriptor : Descriptor) :
    heldBy (Function.update stages process after) descriptor =
      if descriptor.process = process then after.held descriptor.role
      else heldBy stages descriptor := by
  rw [heldBy, Function.update_apply]
  split <;> rfl

theorem heldBy_same (fits : after.held = (stages process).held) :
    heldBy (Function.update stages process after) = heldBy stages := by
  funext descriptor
  rw [heldBy_move, fits]
  split
  · rename_i own
    rw [heldBy, own]
  · rfl

theorem heldBy_update {role : Role} {value : Option Nat} {held : Descriptor → Option Nat}
    {before : Role → Option Nat} (fits : after.held = Function.update before role value)
    (others : ∀ descriptor, held descriptor =
      if descriptor.process = process then before descriptor.role
      else heldBy stages descriptor) :
    heldBy (Function.update stages process after) =
      Function.update held ⟨process, role⟩ value := by
  funext descriptor
  obtain ⟨owner, own⟩ := descriptor
  rw [heldBy_move, fits, Function.update_apply, Function.update_apply, others]
  by_cases mine : owner = process <;> by_cases same : own = role <;> simp [mine, same]

theorem mem_opened_perform (role : Role) :
    ⟨process, role⟩ ∈ (effect.perform process ledger).opened ↔
      effect.opens (fun role => ⟨process, role⟩ ∈ ledger.opened) role := by
  cases effect <;> simp [Effect.perform, Effect.opens, Ledger.openOwn, Ledger.closeOwn]

theorem mem_opened_other {other : Nat} (apart : other ≠ process) (role : Role) :
    ⟨other, role⟩ ∈ (effect.perform process ledger).opened ↔ ⟨other, role⟩ ∈ ledger.opened := by
  cases effect <;> simp [Effect.perform, Ledger.openOwn, Ledger.closeOwn, apart]

/-- The ledger stays balanced, with the numbers that the stage behind the event holds. -/
theorem balanced_perform (linked : Linked state)
    (next : (state.stages process).next event = some (after, effect))
    (possible : effect.Possible state.ledger.files)
    (orderly : (state.stages process).Orderly event) :
    Ledger.Balanced (heldBy (Function.update state.stages process after))
      (effect.perform process state.ledger) := by
  have fits := fits_of_next next orderly
  have fresh := fresh_of_next next (linked.stages process)
  have before (descriptor : Descriptor) : heldBy state.stages descriptor =
      if descriptor.process = process then (state.stages process).held descriptor.role
      else heldBy state.stages descriptor := by
    split
    · rename_i own
      rw [heldBy, own]
    · rfl
  cases effect with
  | quiet =>
      rw [heldBy_same fits]
      exact linked.balanced
  | openPty master slave =>
      obtain ⟨freeMaster, freeSlave, apart⟩ := possible
      have opened := linked.balanced.openOwn freeMaster fresh.1
      have free : (state.ledger.openOwn ⟨process, .master⟩ master).files slave = none := by
        rw [Ledger.files_openOwn, if_neg apart.symm]
        exact freeSlave
      have unopened : (⟨process, .slave⟩ : Descriptor) ∉
          (state.ledger.openOwn ⟨process, .master⟩ master).opened := by
        simp [Ledger.openOwn, fresh.2]
      rw [heldBy_update fits]
      · exact opened.openOwn free unopened
      · rintro ⟨owner, own⟩
        rw [Function.update_apply, Function.update_apply, before]
        by_cases mine : owner = process <;> by_cases same : own = .master <;> simp [mine, same]
  | openReader reader =>
      rw [heldBy_update fits before]
      exact linked.balanced.openOwn possible fresh
  | close role number =>
      rw [heldBy_update fits.2 before]
      exact linked.balanced.closeOwn fits.1

theorem linked_event (linked : Linked state)
    (orderly : (state.stages process).Orderly event) :
    Linked (step state (.pty process event)) := by
  rw [step]
  cases next : (state.stages process).next event with
  | none => exact linked
  | some found =>
      obtain ⟨after, effect⟩ := found
      by_cases possible : effect.Possible state.ledger.files
      · simp only [if_pos possible]
        refine ⟨balanced_perform linked next possible orderly, ?_⟩
        intro other
        by_cases mine : other = process
        · subst mine
          have holds (role : Role) (held : ((state.stages other).held role).isSome) :
              ⟨other, role⟩ ∈ state.ledger.opened := linked.balanced.opened ⟨other, role⟩ held
          simp only [Function.update_self, mem_opened_perform]
          exact matches_of_next next (linked.stages other) holds
        · simp only [Function.update_of_ne mine, mem_opened_other mine]
          exact linked.stages other
      · simp only [if_neg possible]
        exact linked

/-- An orderly event keeps the numbers, the stages and the record of closes together. -/
theorem linked_step {event : Event} (linked : Linked state) (orderly : Orderly state event) :
    Linked (step state event) := by
  cases event with
  | pty process event => exact linked_event linked orderly
  | openOther number =>
      rw [step]
      split
      · rename_i free
        exact ⟨linked.balanced.setOther (by simp [free]), linked.stages⟩
      · exact linked
  | closeOther number =>
      rw [step]
      split
      · rename_i other
        exact ⟨linked.balanced.setOther (by simp [other]), linked.stages⟩
      · exact linked

/-- A process that fails with a descriptor in hand leaves it open. -/
theorem not_proper_of_leak (linked : Linked state) {role : Role} {number : Nat}
    (holds : (state.stages process).held role = some number)
    (next : (state.stages process).next event = some (.failed, .quiet)) :
    ¬ Proper (step state (.pty process event)) := by
  intro proper
  have possible : Effect.quiet.Possible state.ledger.files := trivial
  have moved : step state (.pty process event) =
      ⟨state.ledger, Function.update state.stages process .failed⟩ := by
    simp only [step, next, if_pos possible, Effect.perform]
  rw [moved] at proper
  have held : heldBy state.stages ⟨process, role⟩ = some number := holds
  have member := linked.balanced.opened ⟨process, role⟩ (by simp [held])
  have none_ := linked.balanced.times _ member
  have once := proper.finished _ member (by simp [Stage.Finished])
  rw [held, if_neg (by simp)] at none_
  exact absurd (none_.symm.trans once) (by decide)

theorem succeeds_of_proper (linked : Linked state) {role : Role} {number : Nat} {succeeds : Bool}
    (holds : (state.stages process).held role = some number)
    (leaks : succeeds = false → (state.stages process).next event = some (.failed, .quiet))
    (proper : Proper (step state (.pty process event))) : succeeds = true := by
  cases succeeds with
  | true => rfl
  | false => exact absurd proper (not_proper_of_leak linked holds (leaks rfl))

/-- A descriptor that is no longer held is closed a second time. -/
theorem not_proper_of_second (linked : Linked state) {role : Role} {number : Nat}
    (member : ⟨process, role⟩ ∈ state.ledger.opened)
    (closed : (state.stages process).held role = none)
    (next : (state.stages process).next event = some (after, .close role number)) :
    ¬ Proper (step state (.pty process event)) := by
  intro proper
  have possible : (Effect.close role number).Possible state.ledger.files := trivial
  have moved : step state (.pty process event) =
      ⟨state.ledger.closeOwn ⟨process, role⟩ number,
        Function.update state.stages process after⟩ := by
    simp only [step, next, if_pos possible, Effect.perform]
  rw [moved] at proper
  have held : heldBy state.stages ⟨process, role⟩ = none := closed
  have first := linked.balanced.times _ member
  have both := proper.once ⟨process, role⟩ member
  rw [held, if_pos rfl] at first
  rw [Ledger.timesClosed_closeOwn, first, if_pos rfl] at both
  omega

/-- An event that is not orderly either leaves a descriptor open or closes one again. -/
theorem orderly_of_proper (linked : Linked state)
    (proper : Proper (step state (.pty process event))) :
    (state.stages process).Orderly event := by
  have agrees := linked.stages process
  cases shape : state.stages process with
  | settingUp master slave calls =>
      have holds : (state.stages process).held .master = some master := by rw [shape]; rfl
      cases event with
      | call succeeds =>
          intro pending
          obtain ⟨call, calls, rfl⟩ := List.exists_cons_of_ne_nil pending
          exact succeeds_of_proper linked holds (by rintro rfl; rw [shape]; rfl) proper
      | _ => exact trivial
  | duplicating master =>
      have holds : (state.stages process).held .master = some master := by rw [shape]; rfl
      cases event with
      | dup number =>
          rintro rfl
          exact not_proper_of_leak linked holds (by rw [shape]; rfl) proper
      | _ => exact trivial
  | guarding master reader calls =>
      have holds : (state.stages process).held .master = some master := by rw [shape]; rfl
      cases event with
      | call succeeds =>
          intro pending
          obtain ⟨call, calls, rfl⟩ := List.exists_cons_of_ne_nil pending
          exact succeeds_of_proper linked holds (by rintro rfl; rw [shape]; rfl) proper
      | thread starts =>
          rintro rfl
          exact succeeds_of_proper linked holds (by rintro rfl; rw [shape]; rfl) proper
      | _ => exact trivial
  | running master reader reads dropping =>
      rw [shape] at agrees
      have closed (again : ¬ (reads = true ∧ dropping = .alive)) :
          (state.stages process).held .reader = none := by
        rw [shape]
        exact if_neg again
      cases event with
      | readerExits =>
          rintro rfl
          by_contra dropped
          have next : (state.stages process).next .readerExits =
              some (.running master reader false dropping, .close .reader reader) := by
            rw [shape]
            rfl
          exact not_proper_of_second linked agrees (closed (by simp [dropped])) next proper
      | drop =>
          rintro rfl
          by_contra ended
          rw [Bool.not_eq_true] at ended
          subst ended
          have next : (state.stages process).next .drop =
              some (.running master reader false .readerClosed, .close .reader reader) := by
            rw [shape]
            rfl
          exact not_proper_of_second linked agrees (closed (by simp)) next proper
      | _ => exact trivial
  | _ => exact trivial

end Preservation

section Runs

variable {state : State}

theorem orderly_of_proper_step {event : Event} (linked : Linked state)
    (proper : Proper (step state event)) : Orderly state event := by
  cases event with
  | pty process event => exact orderly_of_proper linked proper
  | _ => exact trivial

theorem linked_initial (taken : Nat → Bool) : Linked (State.initial taken) := by
  refine ⟨⟨?_, ?_, ?_, ?_, ?_⟩, ?_⟩
  · intro close member
    cases member
  · intro descriptor number holds
    cases holds
  · intro descriptor holds
    cases holds
  · intro descriptor member
    cases member
  · intro descriptor absent
    rfl
  · intro process role member
    cases member

/-- Along a run the descriptors are closed once each and by their own numbers exactly when every
step of the run is orderly. -/
theorem throughout_proper_iff (taken : Nat → Bool) (events : List Event) :
    Throughout step Proper (State.initial taken) events ↔
      Always step Orderly (State.initial taken) events :=
  @throughout_iff_of_kept State Event step Orderly Proper Linked
    (fun _ linked => proper_of_linked linked)
    (fun _ _ linked orderly => linked_step linked orderly)
    (fun _ _ linked proper => orderly_of_proper_step linked proper) _ events (linked_initial taken)

/-- The reader thread ends, another file gets its number, and the destructor closes that file. -/
def reusedRun : List Event :=
  [.pty 0 (.openpty (some (3, 4))), .pty 0 (.call true), .pty 0 (.call true), .pty 0 (.call true),
    .pty 0 (.call true), .pty 0 (.fork true), .pty 0 .close, .pty 0 (.dup (some 4)),
    .pty 0 (.call true), .pty 0 (.call true), .pty 0 (.thread true), .pty 0 .readerExits,
    .openOther 4, .pty 0 .drop]

theorem not_proper_reused :
    ¬ Throughout step Proper (State.initial fun number => number < 3) reusedRun := by
  intro run
  have proper := run.final
  have record : (⟨0, .reader⟩, some .other) ∈
      (reusedRun.foldl step (State.initial fun number => number < 3)).ledger.closes := by decide
  exact absurd (proper.own _ record) (by decide)

end Runs

end Boo.Runtime.PtyDescriptors
