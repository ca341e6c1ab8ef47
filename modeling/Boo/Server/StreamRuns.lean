/- module: Boo/Server/StreamRuns
   digest: What a run of actions does to the stream of one client. -/

import Boo.Server.Commands
import Boo.Server.StreamSteps

set_option autoImplicit false
set_option relaxedAutoImplicit false

namespace Boo.Server.StreamRuns

open Boo.Lib.KeyedList
open Boo.Lib.Script
open Boo.Lib.Script.Program
open Boo.Wire.Message
open Boo.Server.Frames
open Boo.Server.View
open Boo.Server.App
open Boo.Server.App.BooApp
open Boo.Server.Actions
open Boo.Server.Streams
open Boo.Server.Publishing
open Boo.Server.StreamSteps
open Boo.Server.Handlers
open Boo.Server.Commands
open Boo.Runtime.Splits
open Boo.Runtime.Tabs
open Boo.Runtime.Ui

section Connected

variable (app : BooApp)

@[simp] theorem order_broadcast : app.broadcast.clients.order = app.clients.order := rfl

@[simp] theorem order_applyEffects (effects : List UiEffect) :
    (app.applyEffects effects).clients.order = app.clients.order := by
  apply applyEffects_reading app (·.clients.order)
  intro before effect
  unfold applyEffect
  split <;> rfl

@[simp] theorem order_syncClientView (target : ClientId) :
    (app.syncClientView target).clients.order = app.clients.order := by
  unfold syncClientView
  split <;> rfl

@[simp] theorem order_tellLocalViewers :
    app.tellLocalViewers.clients.order = app.clients.order := by
  unfold tellLocalViewers
  split <;> rfl

theorem order_publishFocusedPane (target : ClientId) (paneId : PaneId) :
    (app.publishFocusedPane target paneId).clients.order = app.clients.order := by
  unfold publishFocusedPane
  rcases remoteFullStateForPane_eq app paneId with
    ⟨-, same⟩ | ⟨terminal, state, caches, -, -, same⟩
  · rw [same]
  · rw [same]
    rfl

theorem order_publishVisiblePane (target : ClientId) (tabId : TabId) (paneId : PaneId) :
    (app.publishVisiblePane target tabId paneId).clients.order = app.clients.order := by
  unfold publishVisiblePane
  rcases remoteFullStateForPane_eq app paneId with
    ⟨-, same⟩ | ⟨terminal, state, caches, -, -, same⟩
  · rw [same]
  · obtain ⟨revision, revisions, sameRevision⟩ := paneTerminalRevision_eq
      ({ app with paneRowCaches := caches } : BooApp) paneId state
    rw [same]
    dsimp only
    rw [sameRevision]
    rfl

@[simp] theorem order_publishTo (target : ClientId) (tabId : TabId) :
    (app.publishTo target tabId).clients.order = app.clients.order := by
  unfold publishTo
  split
  · rfl
  · split
    · refine List.foldlRecOn (motive := fun (after : BooApp) =>
        after.clients.order = app.clients.order) _ _ ?_ ?_
      · split
        · rfl
        · exact order_publishFocusedPane app target _
      · intro after same paneId _
        rw [order_publishVisiblePane, same]
    · rfl

/-- Only a connection and a disconnection change who is connected. -/
theorem order_step (action : Action) (connects : ∀ target isLocal, action ≠ .connect target isLocal)
    (disconnects : ∀ target, action ≠ .disconnect target) :
    (action.step app).clients.order = app.clients.order := by
  cases action with
  | connect target isLocal => exact absurd rfl (connects target isLocal)
  | disconnect target => exact absurd rfl (disconnects target)
  | applyEffects effects => exact order_applyEffects app effects
  | effectsBy target effects => simp [Action.step]
  | effectsAndBroadcast target effects => simp [Action.step]
  | effectsAndTellLocal target effects => simp [Action.step]
  | tellLocalViewers => exact order_tellLocalViewers app
  | syncClientView target => exact order_syncClientView app target
  | syncRuntimeView target subscribe =>
      show (app.syncRuntimeView target subscribe).clients.order = _
      unfold syncRuntimeView
      split <;> rfl
  | createTab target spawned ack =>
      show (app.createTab target spawned ack).clients.order = _
      unfold createTab
      rw [order_broadcast]
      split <;> rfl
  | focusClientPane target tabId paneId =>
      show (app.focusClientPane target tabId paneId).clients.order = _
      unfold focusClientPane
      split <;> rfl
  | writeInput pane bytes =>
      show (app.writeInput pane bytes).clients.order = _
      unfold writeInput
      split <;> rfl
  | publishTo target tabId => exact order_publishTo app target tabId
  | poll outcome =>
      show (app.poll outcome).clients.order = _
      rw [poll_eq]
      split
      · rfl
      · split <;> rfl
  | sweepIdleViews now =>
      show (app.sweepIdleViews now viewIdleTimeout).clients.order = _
      unfold sweepIdleViews
      split <;> rfl
  | _ => rfl

end Connected

section Streams

variable {after : BooApp} {before result : Stream}

@[simp] theorem queue_apply (tabs : TabManager) (stream : Stream) (view : ViewChange) :
    (view.apply tabs stream).queue = stream.queue := by
  cases view <;> rfl

@[simp] theorem told_apply (tabs : TabManager) (stream : Stream) (view : ViewChange) :
    (view.apply tabs stream).told = stream.told := by
  cases view <;> rfl

theorem told_tell (stream : Stream) (state : UiRuntimeState) :
    (stream.tell state).told = some state := by
  unfold Stream.tell
  split
  · assumption
  · rfl

theorem queue_tell (stream : Stream) (state : UiRuntimeState) :
    ∃ new, (stream.tell state).queue = stream.queue ++ new ∧
      (stream.told = some state ∨ .told state ∈ new) := by
  unfold Stream.tell
  split
  · rename_i same
    exact ⟨[], (List.append_nil _).symm, .inl same⟩
  · exact ⟨[.told state], rfl, .inr List.mem_cons_self⟩

@[simp] theorem ackedAction_tell (stream : Stream) (state : UiRuntimeState) :
    (stream.tell state).ackedAction = stream.ackedAction := by
  unfold Stream.tell
  split <;> rfl

/-- A screen or a pane update, under the input that the stream has to acknowledge. -/
def ShowsUnder (inputSeq : Option UInt64) : Sent → Prop
  | .told _ => False
  | .screen _ latestInputSeq _ => latestInputSeq = inputSeq
  | .pane _ _ => True

/-- Sending queues screens and records them as sent, and changes nothing else. -/
def Sends (before after : Stream) : Prop :=
  ∃ new lastState paneStates, (∀ sent ∈ new, ShowsUnder before.inputSeq sent) ∧
    after = { before with
      lastState := lastState
      paneStates := paneStates
      queue := before.queue ++ new }

theorem sends_refl (stream : Stream) : Sends stream stream :=
  ⟨[], stream.lastState, stream.paneStates, fun _ member => absurd member List.not_mem_nil,
    by rw [List.append_nil]⟩

theorem sends_send (stream : Stream) (send : Send) : Sends stream (Stream.send stream send) := by
  cases send with
  | screen source state =>
      show Sends stream (stream.sendScreen source state)
      unfold Stream.sendScreen
      by_cases subscribed : stream.subscribed
      · rw [if_pos subscribed]
        refine ⟨[.screen source stream.inputSeq (nextUpdate stream.lastState state)], _, _, ?_, rfl⟩
        intro sent member
        rw [List.mem_singleton] at member
        exact member ▸ rfl
      · rw [if_neg subscribed]
        exact sends_refl stream
  | pane header state =>
      show Sends stream (stream.sendPane header state)
      unfold Stream.sendPane
      by_cases subscribed : stream.subscribed
      · rw [if_pos subscribed]
        refine ⟨[.pane header (nextUpdate (stream.paneStates header.paneId) state)], _, _, ?_, rfl⟩
        intro sent member
        rw [List.mem_singleton] at member
        exact member ▸ trivial
      · rw [if_neg subscribed]
        exact sends_refl stream

theorem Sends.trans {before mid after : Stream} (first : Sends before mid)
    (next : Sends mid after) : Sends before after := by
  obtain ⟨new, _, _, shows, rfl⟩ := first
  obtain ⟨newer, lastState, paneStates, shows', rfl⟩ := next
  refine ⟨new ++ newer, lastState, paneStates, fun sent member => ?_, ?_⟩
  · rcases List.mem_append.mp member with member | member
    · exact shows sent member
    · exact shows' sent member
  · rw [List.append_assoc]

theorem sends_foldl (sends : List Send) (stream : Stream) :
    Sends stream (sends.foldl Stream.send stream) := by
  induction sends generalizing stream with
  | nil => exact sends_refl stream
  | cons send sends ih => exact (sends_send stream send).trans (ih _)

/-- What is told last is queued, now or earlier. -/
theorem heard_of_leads {change : Change} (leads : change.Leads after before result) :
    ∃ new, result.queue = before.queue ++ new ∧
      ∀ state ∈ result.told, before.told = some state ∨ .told state ∈ new := by
  have aimed : (change.view.apply after.tabs before).queue = before.queue := queue_apply _ _ _
  have told : (change.view.apply after.tabs before).told = before.told := told_apply _ _ _
  have hears : ∀ state, ∃ new,
      ((change.view.apply after.tabs before).tell state).queue = before.queue ++ new ∧
        ∀ heard ∈ ((change.view.apply after.tabs before).tell state).told,
          before.told = some heard ∨ .told heard ∈ new := by
    intro state
    obtain ⟨new, queue, known⟩ := queue_tell (change.view.apply after.tabs before) state
    rw [aimed] at queue
    rw [told] at known
    refine ⟨new, queue, fun heard last => ?_⟩
    rw [told_tell] at last
    cases last
    exact known
  unfold Change.Leads at leads
  dsimp only at leads
  cases news : change.news with
  | silent =>
      rw [news] at leads
      refine ⟨[], by rw [leads, aimed, List.append_nil], fun state last => .inl ?_⟩
      rw [← told, ← leads]
      exact last
  | told =>
      rw [news] at leads
      obtain ⟨state, -, rfl⟩ := leads
      exact hears state
  | toldLocally =>
      rw [news] at leads
      subst leads
      exact hears _
  | published tabId =>
      rw [news] at leads
      obtain ⟨sends, -, sent⟩ := leads
      obtain ⟨new, _, _, -, same⟩ := sends_foldl sends (change.view.apply after.tabs before)
      rw [same] at sent
      subst sent
      exact ⟨new, congrArg (· ++ new) aimed, fun state last => .inl (told ▸ last)⟩

theorem ackedAction_of_leads {change : Change} (leads : change.Leads after before result) :
    result.ackedAction = (change.view.apply after.tabs before).ackedAction := by
  unfold Change.Leads at leads
  dsimp only at leads
  cases news : change.news with
  | silent =>
      rw [news] at leads
      rw [leads]
  | told =>
      rw [news] at leads
      obtain ⟨state, -, rfl⟩ := leads
      exact ackedAction_tell _ state
  | toldLocally =>
      rw [news] at leads
      rw [leads]
      exact ackedAction_tell _ _
  | published tabId =>
      rw [news] at leads
      obtain ⟨sends, -, sent⟩ := leads
      obtain ⟨new, _, _, -, same⟩ := sends_foldl sends (change.view.apply after.tabs before)
      rw [sent, same]

/-- What the client hears of a change leaves its view alone. -/
theorem view_of_leads {change : Change} {after : BooApp} {before result : Stream}
    (leads : change.Leads after before result) :
    result.viewed = (change.view.apply after.tabs before).viewed ∧
      result.focused = (change.view.apply after.tabs before).focused ∧
      result.visible = (change.view.apply after.tabs before).visible := by
  have tells : ∀ (stream : Stream) state, (stream.tell state).viewed = stream.viewed ∧
      (stream.tell state).focused = stream.focused ∧
      (stream.tell state).visible = stream.visible := by
    intro stream state
    unfold Stream.tell
    split
    · exact ⟨rfl, rfl, rfl⟩
    · exact ⟨rfl, rfl, rfl⟩
  unfold Change.Leads at leads
  dsimp only at leads
  cases news : change.news with
  | silent =>
      rw [news] at leads
      rw [leads]
      exact ⟨rfl, rfl, rfl⟩
  | told =>
      rw [news] at leads
      obtain ⟨state, -, rfl⟩ := leads
      exact tells _ state
  | toldLocally =>
      rw [news] at leads
      rw [leads]
      exact tells _ _
  | published tabId =>
      rw [news] at leads
      obtain ⟨sends, -, sent⟩ := leads
      obtain ⟨new, _, _, -, same⟩ := sends_foldl sends (change.view.apply after.tabs before)
      rw [sent, same]
      exact ⟨rfl, rfl, rfl⟩

end Streams

/-- A property of the stream of one client, as long as that client is connected. -/
def Holds (app : BooApp) (id : ClientId) (P : Stream → Prop) : Prop :=
  ∀ client, app.clients.value id = some client → P (streamOf client)

theorem Holds.step {app : BooApp} {id : ClientId} {P Q : Stream → Prop} (action : Action)
    (holds : Holds app id P) (connects : ∀ target isLocal, action ≠ .connect target isLocal)
    (leads : ∀ client, app.clients.value id = some client → P (streamOf client) → ∀ result,
      (change app id client action).Leads (action.step app) (streamOf client) result → Q result) :
    Holds (action.step app) id Q := by
  intro result held
  rcases step_leads app action id held with ⟨isLocal, connect, -⟩ | ⟨client, before, led⟩
  · exact absurd connect (connects id isLocal)
  · exact leads client before (holds client before) _ led

/-- No command connects or disconnects a client. -/
theorem connects_of_acts {cmd : Command} {action : Action} (acts : Acts cmd action) :
    (∀ target isLocal, action ≠ .connect target isLocal) ∧ ∀ target, action ≠ .disconnect target := by
  constructor
  · rintro target isLocal rfl
    exact acts
  · rintro target rfl
    exact acts

theorem isSome_final {R : Type} {handler : Handler R} {id : ClientId} {app : BooApp}
    (runs : Runs (fun action => (∀ target isLocal, action ≠ .connect target isLocal) ∧
      ∀ target, action ≠ .disconnect target) handler)
    (connected : (app.clients.value id).isSome) :
    ((final Action.step handler app).clients.value id).isSome := by
  rw [← Keyed.mem_order] at connected ⊢
  exact @Performs.invariant _ _ _ _ _ (fun after => id ∈ after.clients.order) _ runs
    (fun before action member plain =>
      (order_step before action plain.1 plain.2).symm ▸ member) app connected

section Steps

variable {id : ClientId}

theorem chain_actions (steps : List Step) (app : BooApp) :
    Chain Action.step app (actions steps app) := chain_trace Action.step (runSteps steps) app

theorem chainEnd_actions (steps : List Step) (app : BooApp) :
    chainEnd Action.step app (actions steps app) = after steps app :=
  (final_eq_foldl Action.step (runSteps steps) app).symm

/-- The sequence number of the client that a step handles. -/
def inputSeqOf (id : ClientId) : Step → Option UInt64
  | .command cmd => (inputOf cmd).bind fun input => if input.1 = id then input.2 else none
  | _ => none

/-- The step by which the client names the tab of its view by itself. -/
def RefocusesFor (id : ClientId) : Step → Prop
  | .command cmd => issuer cmd = some id ∧ Refocuses cmd
  | _ => False

/-- What a step can do to the connection of a client, the input it has to acknowledge, and the tab
that its view names. -/
structure StepActs (id : ClientId) (step : Step) (action : Action) : Prop where
  connects : ∀ isLocal, action = .connect id isLocal → step = .connect id isLocal
  records : ∀ seq, action = .recordInputSeq id (some seq) → inputSeqOf id step = some seq
  assigns : ∀ tabId, action = .assignViewedTab id tabId → RefocusesFor id step

theorem stepActs_handler (step : Step) : Runs (StepActs id step) step.handler := by
  have other : ∀ {action : Action}, (∀ isLocal, action ≠ .connect id isLocal) →
      (∀ inputSeq, action ≠ .recordInputSeq id inputSeq) →
        (∀ tabId, action ≠ .assignViewedTab id tabId) → StepActs id step action :=
    fun connects records assigns => ⟨fun isLocal same => absurd same (connects isLocal),
      fun seq same => absurd same (records (some seq)),
      fun tabId same => absurd same (assigns tabId)⟩
  have publishes : ∀ target tabId, StepActs id step (.publishTo target tabId) :=
    fun target tabId => other (fun _ same => by cases same) (fun _ same => by cases same)
      fun _ same => by cases same
  have publishesTab : ∀ tabId, Runs (StepActs id step) (publishRemoteTab tabId) :=
    fun tabId => performs_bind performs_current fun _ => performs_forM fun _ _ =>
      performs_perform fun _ => publishes _ _
  cases step with
  | command cmd =>
      refine (acts_handleServerCmd cmd).mono fun _ action acts => ⟨?_, ?_, ?_⟩
      · rintro isLocal rfl
        exact acts.elim
      · rintro seq rfl
        have input : inputOf cmd = some (id, some seq) := acts
        rw [inputSeqOf, input]
        exact if_pos rfl
      · rintro tabId rfl
        exact acts
  | sweep now =>
      refine performs_bind performs_current fun app => performs_bind (performs_perform fun _ =>
        other (fun _ same => by cases same) (fun _ same => by cases same)
          fun _ same => by cases same) fun _ => ?_
      split
      · refine performs_bind performs_current fun app => ?_
        split
        · exact performs_pure _
        · exact publishesTab _
      · exact performs_pure _
  | publishDirtyTabs =>
      exact performs_bind performs_current fun app => performs_bind (performs_perform fun _ =>
        other (fun _ same => by cases same) (fun _ same => by cases same)
          fun _ same => by cases same) fun _ => performs_forM fun tabId _ => publishesTab tabId
  | connect client isLocal =>
      refine performs_perform fun _ => ⟨?_, (fun seq same => by cases same),
        fun tabId same => by cases same⟩
      rintro local' same
      cases same
      rfl
  | poll _ | output _ _ _ | childExit _ | disconnect _ | reply _ _ | window _ =>
      exact performs_perform fun _ => other (fun _ same => by cases same)
        (fun _ same => by cases same) fun _ same => by cases same

end Steps

end Boo.Server.StreamRuns
