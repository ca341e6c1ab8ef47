/- module: Boo/Server/PaneLog
   digest: What the server records of a pane is the last state it queued for that pane. -/

import Boo.Server.StreamRuns

set_option autoImplicit false
set_option relaxedAutoImplicit false

namespace Boo.Server.PaneLog

open Boo.Lib.KeyedList
open Boo.Lib.SnapshotLog
open Boo.Lib.Script
open Boo.Lib.Script.Program
open Boo.Wire.Message
open Boo.Server.Frames
open Boo.Server.View
open Boo.Server.App
open Boo.Server.Actions
open Boo.Server.Streams
open Boo.Server.Publishing
open Boo.Server.StreamSteps
open Boo.Server.StreamRuns
open Boo.Server.Handlers
open Boo.Runtime.Tabs

section Queue

/-- The state that a message carries for a pane. -/
def paneStateOf (paneId : PaneId) : Sent → Option Grid
  | .pane header update => if header.paneId = paneId then some (updateState update) else none
  | _ => none

/-- The state of the last update of a pane. -/
def lastPaneState (paneId : PaneId) (queue : List Sent) : Option Grid :=
  queue.reverse.findSome? (paneStateOf paneId)

theorem lastPaneState_concat (paneId : PaneId) (queue : List Sent) (sent : Sent) :
    lastPaneState paneId (queue ++ [sent]) =
      (paneStateOf paneId sent).or (lastPaneState paneId queue) := by
  rw [lastPaneState, List.reverse_concat, List.findSome?_cons]
  cases paneStateOf paneId sent <;> rfl

/-- Every delta comes after an update of its pane that left the base of the delta. -/
def Based (queue : List Sent) : Prop :=
  ∀ before header delta later, queue = before ++ .pane header (.patch delta) :: later →
    lastPaneState header.paneId before = some delta.previous

theorem based_nil : Based [] := by
  intro before header delta later split
  exact absurd split.symm (by simp)

theorem Based.concat {queue : List Sent} {sent : Sent} (based : Based queue)
    (next : ∀ header delta, sent = .pane header (.patch delta) →
      lastPaneState header.paneId queue = some delta.previous) : Based (queue ++ [sent]) := by
  intro before header delta later split
  rcases List.eq_nil_or_concat' later with rfl | ⟨middle, last, rfl⟩
  · obtain ⟨rfl, same⟩ := List.append_inj' split rfl
    exact next header delta (List.singleton_inj.mp same)
  · rw [← List.cons_append, ← List.append_assoc] at split
    obtain ⟨same, -⟩ := List.append_inj' split rfl
    exact based before header delta middle same

/-- The deltas of a stream have their bases in its queue, and so will the next ones. -/
structure Logged (stream : Stream) : Prop where
  based : Based stream.queue
  recorded : ∀ paneId, ∀ state ∈ stream.paneStates paneId,
    lastPaneState paneId stream.queue = some state

end Queue

section Keeping

variable {stream : Stream}

/-- A message for no pane changes nothing that pane updates depend on. -/
theorem Logged.push (log : Logged stream) {sent : Sent}
    (other : ∀ paneId, paneStateOf paneId sent = none) : Logged (stream.push sent) where
  based := log.based.concat fun header delta same => by
    have none := other header.paneId
    rw [same, paneStateOf, if_pos rfl] at none
    cases none
  recorded paneId state member := by
    show lastPaneState paneId (stream.queue ++ [sent]) = _
    rw [lastPaneState_concat, other, Option.none_or]
    exact log.recorded paneId state member

theorem Logged.apply (log : Logged stream) (tabs : TabManager) (view : ViewChange) :
    Logged (view.apply tabs stream) := by
  have forgets : ∀ paneId, ∀ state ∈ (view.apply tabs stream).paneStates paneId,
      state ∈ stream.paneStates paneId := by
    intro paneId state member
    cases view with
    | keep | assign _ | record _ => exact member
    | _ => cases member
  refine ⟨?_, fun paneId state member => ?_⟩
  · rw [queue_apply]
    exact log.based
  · rw [queue_apply]
    exact log.recorded paneId state (forgets paneId state member)

theorem Logged.tell (log : Logged stream) (state : UiRuntimeState) :
    Logged (stream.tell state) := by
  unfold Stream.tell
  split
  · exact log
  · have same : Logged { stream with told := some state } := ⟨log.based, log.recorded⟩
    exact same.push fun _ => rfl

theorem Logged.send (log : Logged stream) (send : Send) : Logged (Stream.send stream send) := by
  cases send with
  | screen source state =>
      show Logged (stream.sendScreen source state)
      unfold Stream.sendScreen
      split
      · have same : Logged { stream with lastState := some state } := ⟨log.based, log.recorded⟩
        exact same.push fun _ => rfl
      · exact log
  | pane header state =>
      show Logged (stream.sendPane header state)
      unfold Stream.sendPane
      split
      · refine ⟨log.based.concat fun other delta same => ?_, fun paneId last member => ?_⟩
        · rcases nextUpdate_cases (stream.paneStates header.paneId) state with
            full | ⟨sent, previous, -, patch⟩
          · rw [full] at same
            cases same
          · rw [patch] at same
            cases same
            exact log.recorded header.paneId delta.previous previous
        · change last ∈ Function.update stream.paneStates header.paneId (some state) paneId at member
          show lastPaneState paneId (stream.queue ++ [_]) = _
          rw [lastPaneState_concat, paneStateOf, updateState_nextUpdate]
          by_cases here : header.paneId = paneId
          · subst here
            rw [Option.mem_def, Function.update_self] at member
            rw [if_pos rfl, member]
            rfl
          · rw [Option.mem_def, Function.update_of_ne (Ne.symm here)] at member
            rw [if_neg here, Option.none_or]
            exact log.recorded paneId last member
      · exact log

theorem Logged.sends (sends : List Send) (log : Logged stream) :
    Logged (sends.foldl Stream.send stream) := by
  induction sends generalizing stream with
  | nil => exact log
  | cons send sends ih => exact ih (log.send send)

theorem Logged.leads {change : Change} {after : BooApp} {result : Stream}
    (log : Logged stream) (leads : change.Leads after stream result) : Logged result := by
  have aimed := log.apply after.tabs change.view
  unfold Change.Leads at leads
  dsimp only at leads
  cases news : change.news with
  | silent =>
      rw [news] at leads
      exact leads ▸ aimed
  | told =>
      rw [news] at leads
      obtain ⟨state, -, rfl⟩ := leads
      exact aimed.tell state
  | toldLocally =>
      rw [news] at leads
      exact leads ▸ aimed.tell after.uiRuntimeState
  | published tabId =>
      rw [news] at leads
      obtain ⟨sends, -, rfl⟩ := leads
      exact Logged.sends sends aimed

end Keeping

section Serving

variable {id : ClientId} {queued : List Sent}

/-- The messages queued for a client so far stay the first of its queue. -/
def Logs (id : ClientId) (queued : List Sent) (app : BooApp) : Prop :=
  Holds app id fun stream => Logged stream ∧ queued <+: stream.queue

theorem logs_newClient (app : BooApp) (isLocal : Bool) :
    Logs id [] (Action.step app (.connect id isLocal)) := by
  intro client held
  rw [Action.step, Keyed.value_set, if_pos rfl] at held
  cases held
  exact ⟨⟨based_nil, fun paneId state member => by cases member⟩, List.nil_prefix⟩

theorem logs_action (app : BooApp) (action : Action) (logs : Logs id queued app)
    (later : ∀ isLocal, action ≠ .connect id isLocal) : Logs id queued (action.step app) := by
  intro result held
  rcases step_leads app action id held with ⟨isLocal, connects, -⟩ | ⟨client, before, leads⟩
  · exact absurd connects (later isLocal)
  · obtain ⟨log, first⟩ := logs client before
    obtain ⟨new, queue, -⟩ := heard_of_leads leads
    refine ⟨log.leads leads, first.trans ?_⟩
    rw [queue]
    exact List.prefix_append _ _

/-- A step of the server but the connection of the client keeps the log of the client. -/
theorem logs_step {app : BooApp} {step : Step} (logs : Logs id queued app)
    (later : ∀ isLocal, step ≠ .connect id isLocal) :
    Logs id queued (final Action.step step.handler app) :=
  @Performs.invariant _ _ _ _ _ (Logs id queued) _ (@stepActs_handler id step)
    (fun before action logs acts => logs_action before action logs
      fun isLocal connects => later isLocal (acts.connects isLocal connects)) app logs

end Serving

end Boo.Server.PaneLog
