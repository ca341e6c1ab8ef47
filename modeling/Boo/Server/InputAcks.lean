/- module: Boo/Server/InputAcks
   digest: Which input sequence the screens of a client acknowledge. -/

import Boo.Server.HeldInputs

set_option autoImplicit false
set_option relaxedAutoImplicit false

namespace Boo.Server.InputAcks

open Boo.Lib.KeyedList
open Boo.Lib.Script
open Boo.Lib.Script.Program
open Boo.Wire.Message
open Boo.Server.Frames
open Boo.Server.View
open Boo.Server.App
open Boo.Server.App.BooApp
open Boo.Server.Actions
open Boo.Server.Streams
open Boo.Server.Publishing
open Boo.Server.StreamSteps
open Boo.Server.StreamRuns
open Boo.Server.Handlers
open Boo.Server.Commands
open Boo.Server.InputRouting
open Boo.Server.PolledOutput
open Boo.Server.TabRuns
open Boo.Server.StrandedViews
open Boo.Server.HeldInputs
open Boo.Runtime.Splits
open Boo.Runtime.Leaves
open Boo.Runtime.Tabs
open Boo.Runtime.TabOps
open Boo.Runtime.PaneCount
open Boo.Runtime.ClosedPanes
open Boo.Runtime.LastTab
open Boo.Runtime.Ui

/-- The input sequence of the first screen queued between two streams. -/
def nextAck (before after : Stream) : Option (Option UInt64) :=
  (acksOf (after.queue.drop before.queue.length)).head?

/-- The effects that the key of a client resolves to. -/
def keyEffects : Step → List UiEffect
  | .command (.remoteKey _ _ effects) | .command (.remoteAppKeyEvent _ _ effects _) => effects
  | _ => []

/-- The panes that the backend answers some actions with. -/
def spawnsOf (entries : List (BooApp × Action)) : List PaneId :=
  entries.flatMap fun entry => spawnedIn entry.2

/-- The runtime has focused the tab that the view names, and its pane. -/
structure Targeted (app : BooApp) (tabId : TabId) (stream : Stream) : Prop where
  viewed : stream.viewed = some tabId
  old : tabId < app.tabs.nextTabId
  room : ∀ paneId ∈ stream.focused, paneId ∈ stream.visible →
    paneId ∈ livePanes app.tabs ∧ Roomy app.tabs

section Targets

variable {known : List PaneId} {app : BooApp} {id : ClientId} {tabId : TabId} {index : Nat}

theorem targeted_focusTarget (housed : Housed known app) {view : ClientRuntimeView}
    (seen : app.viewOf id = some view) (viewed : view.viewedTabId = some tabId)
    (visible : view.visiblePaneIds = app.tabs.paneIdsForTab tabId)
    (indexed : app.tabs.findIndexByTabId tabId = some index) :
    Holds ((focusTarget index (app.tabs.focusIn tabId view.focusedPaneId)).step app) id
      (Targeted ((focusTarget index (app.tabs.focusIn tabId view.focusedPaneId)).step app)
        tabId) := by
  intro result atEnd
  generalize paneIs : app.tabs.focusIn tabId view.focusedPaneId = pane at atEnd ⊢
  rcases step_leads app (focusTarget index pane) id atEnd with
    ⟨isLocal, same, -⟩ | ⟨client, before, leads⟩
  · cases same
  rw [viewOf, before, Option.map_some] at seen
  cases seen
  have same : streamOf result = streamOf client := leads
  rw [same]
  obtain ⟨tab, held, named⟩ := held_of_findIndexByTabId indexed
  have old : tabId < app.tabs.nextTabId := by
    rw [← named]
    exact housed.ids.fresh tab (List.mem_of_getElem? held)
  refine ⟨viewed, old.trans_le (renews_step app _).counter, fun paneId focused listed => ?_⟩
  have listed : paneId ∈ app.tabs.paneIdsForTab tabId := visible ▸ listed
  have focused : client.runtimeView.focusedPaneId = some paneId := focused
  have aimed : pane = some paneId := by
    rw [← paneIs, focused, TabManager.focusIn, Option.filter_some, if_pos (decide_eq_true listed)]
    rfl
  subst aimed
  have runtime : ((focusTarget index (some paneId)).step app).tabs =
      (UiEffect.applyAll app.runtime [.focusTab index, .focusPane paneId]).tabs :=
    tabs_applyEffects app _
  have first := @spares_effect app.runtime housed.sound (.focusTab index)
  have next := spares_effect first.sound (.focusPane paneId)
  rw [runtime]
  refine ⟨?_, roomy_focused housed.ids housed.sound indexed listed⟩
  exact next.live (first.live (mem_livePanes_of_tab listed) List.not_mem_nil) List.not_mem_nil

/-- What `focus_client_runtime_target` leaves when it has found the tab. -/
theorem targeted_focused (housed : Housed known app)
    (aimed : result Action.step (focusClientRuntimeTarget id) app = some tabId) :
    Housed known (final Action.step (focusClientRuntimeTarget id) app) ∧
      Holds (final Action.step (focusClientRuntimeTarget id) app) id
        (Targeted (final Action.step (focusClientRuntimeTarget id) app) tabId) := by
  unfold focusClientRuntimeTarget at aimed ⊢
  rw [result_bind, result_ensure, final_ensure] at aimed
  rw [final_bind, result_ensure, final_ensure]
  have kept : Housed known (ensured app id) := housed_ensured housed id
  cases seen : (ensured app id).viewOf id with
  | none =>
      rw [seen] at aimed
      cases aimed
  | some view =>
      rw [seen] at aimed
      dsimp only at aimed ⊢
      rw [result_bind, result_current, final_current] at aimed
      rw [final_bind, result_current, final_current]
      cases viewed : view.viewedTabId with
      | none =>
          rw [viewed] at aimed
          cases aimed
      | some other =>
          rw [viewed] at aimed
          dsimp only at aimed ⊢
          cases indexed : (ensured app id).tabs.findIndexByTabId other with
          | none =>
              rw [indexed] at aimed
              dsimp only at aimed
              rw [result_bind] at aimed
              cases aimed
          | some index =>
              rw [indexed] at aimed
              dsimp only at aimed ⊢
              rw [result_bind] at aimed
              cases aimed
              rw [final_bind, final_perform]
              obtain ⟨visible, -⟩ := ensured_sound app id seen viewed
              rw [← tabs_ensured app id] at visible
              refine ⟨kept.step fun paneId spawned => ?_,
                targeted_focusTarget kept seen viewed visible indexed⟩
              rw [spawnedIn_focusTarget] at spawned
              cases spawned

end Targets

section Keys

variable {known : List PaneId} {app : BooApp} {id : ClientId} {tabId : TabId}
variable {effects : List UiEffect} {action : Action}

/-- The two actions by which a key takes effect. -/
def KeyAction (id : ClientId) (effects : List UiEffect) (action : Action) : Prop :=
  action = .effectsBy id effects ∨ action = .effectsAndBroadcast id effects

theorem KeyAction.change (acts : KeyAction id effects action) (client : ClientState) :
    (change app id client action).view = syncAim (app.applyEffects effects).tabs := by
  rcases acts with rfl | rfl
  · rw [StreamSteps.change, if_pos rfl]
  · rw [StreamSteps.change, if_pos rfl]

theorem KeyAction.tabs (acts : KeyAction id effects action) :
    (action.step app).tabs = (UiEffect.applyAll app.runtime effects).tabs := by
  rw [tabs_step]
  rcases acts with rfl | rfl <;> rfl

theorem KeyAction.terminals (acts : KeyAction id effects action) :
    (action.step app).runtime.terminals = (UiEffect.applyAll app.runtime effects).terminals := by
  rw [← runtime_applyEffects, ← runtime_syncClientView (app.applyEffects effects) id]
  rcases acts with rfl | rfl <;> rfl

theorem KeyAction.spawnedIn (acts : KeyAction id effects action) :
    StrandedViews.spawnedIn action = effects.flatMap spawnedBy := by
  rcases acts with rfl | rfl <;> rfl

/-- A key that leaves a tab touches the view; one that closes the last tab strands it. -/
theorem unheard_key (housed : Housed known app) (oneKey : OneKey effects)
    (acts : KeyAction id effects action) (others : SpawnsOthers known action)
    (unacked : Holds app id Unacked) (targeted : Holds app id (Targeted app tabId)) :
    Holds (action.step app) id (Unheard known (action.step app)) := by
  have quiet : ∀ tabId, action ≠ .publishTo id tabId := by
    rcases acts with rfl | rfl <;> exact fun _ same => by cases same
  have connects : ∀ isLocal, action ≠ .connect id isLocal := by
    rcases acts with rfl | rfl <;> exact fun _ same => by cases same
  cases active : (app.applyEffects effects).tabs.activeTabId with
  | some other =>
      have forgot : Holds (action.step app) id Forgot := by
        refine forgot_of_mark unacked quiet connects fun client _ => ?_
        rw [acts.change, syncAim, active]
        rfl
      exact fun result atEnd => (forgot result atEnd).unheard
  | none =>
      intro result atEnd
      refine ⟨unacked_step unacked quiet result atEnd, .inr ?_⟩
      rcases step_leads app action id atEnd with ⟨isLocal, same, -⟩ | ⟨client, before, leads⟩
      · exact absurd same (connects isLocal)
      obtain ⟨viewed, focused, visible⟩ := view_of_leads leads
      rw [acts.change, syncAim, active] at viewed focused visible
      have target := targeted client before
      rw [tabs_applyEffects] at active
      have empty : (UiEffect.applyAll app.runtime effects).tabs.tabs = [] :=
        tabs_of_noActive (activeOk_applyAll housed.active effects) active
      refine ⟨⟨tabId, viewed.trans target.viewed, ?_, fun tab member => ?_⟩,
        fun paneId focus listed => ?_⟩
      · exact target.old.trans_le (renews_step app action).counter
      · rw [acts.tabs, empty] at member
        cases member
      · obtain ⟨live, roomy⟩ := target.room paneId (focused ▸ focus) (visible ▸ listed)
        have old := housed.live paneId live
        refine ⟨old, ?_⟩
        rw [acts.terminals]
        refine oneKey.terminals_of_empty roomy live (fun effect member spawned => ?_) empty
        refine others paneId ?_ old
        rw [acts.spawnedIn]
        exact List.mem_flatMap.mpr ⟨effect, member, spawned⟩

/-- The record of an input leaves what its handler has aimed at. -/
theorem targeted_record {inputSeq : Option UInt64} (targeted : Holds app id (Targeted app tabId)) :
    Holds ((Action.recordInputSeq id inputSeq).step app) id
      (Targeted ((Action.recordInputSeq id inputSeq).step app) tabId) := by
  intro result atEnd
  rcases step_leads app (.recordInputSeq id inputSeq) id atEnd with
    ⟨isLocal, same, -⟩ | ⟨client, before, leads⟩
  · cases same
  · obtain ⟨viewed, old, room⟩ := targeted client before
    obtain ⟨sameViewed, sameFocused, sameVisible⟩ := view_of_leads leads
    rw [change, if_pos rfl] at sameViewed sameFocused sameVisible
    exact ⟨sameViewed.trans viewed, old, fun paneId focus listed =>
      room paneId (sameFocused ▸ focus) (sameVisible ▸ listed)⟩

theorem housed_record {inputSeq : Option UInt64} (housed : Housed known app) :
    Housed known ((Action.recordInputSeq id inputSeq).step app) :=
  housed.step fun _ none => by cases none

/-- A key of the client, handled on the tab that its view names. -/
theorem unheard_onClientTarget {inputSeq : Option UInt64} (acting : TabId → Action)
    (rest : TabId → Handler Unit) (housed : Housed known app) (oneKey : OneKey effects)
    (held : Holds app id (Unheard known app))
    (acts : ∀ tabId, KeyAction id effects (acting tabId))
    (plain : ∀ tabId, Runs (Plain id) (rest tabId))
    (others : Admits Action.step (fun _ action => SpawnsOthers known action)
      (onClientTarget id fun tabId => do
        perform (.recordInputSeq id inputSeq)
        perform (acting tabId)
        rest tabId) app) :
    Holds (final Action.step (onClientTarget id fun tabId => do
        perform (.recordInputSeq id inputSeq)
        perform (acting tabId)
        rest tabId) app) id
      (Unheard known (final Action.step (onClientTarget id fun tabId => do
        perform (.recordInputSeq id inputSeq)
        perform (acting tabId)
        rest tabId) app)) := by
  have forgot := forgot_focused held
  unfold onClientTarget at others ⊢
  obtain ⟨-, others⟩ := others.of_bind
  rw [final_bind]
  cases aimed : result Action.step (focusClientRuntimeTarget id) app with
  | none =>
      intro client atEnd
      exact (forgot_final forgot (performs_perform fun _ seq same => by cases same)
        client atEnd).unheard
  | some tabId =>
      rw [aimed] at others
      dsimp only at others ⊢
      obtain ⟨focused, targeted⟩ := targeted_focused housed aimed
      obtain ⟨-, others⟩ := others.of_bind
      obtain ⟨acted, others⟩ := others.of_bind
      rw [final_bind, final_bind, final_perform, final_perform]
      refine unheard_final (unheard_key (housed_record focused) oneKey (acts tabId)
        acted.of_perform (unacked_step (fun client before => (forgot client before).unacked)
          fun _ same => by cases same) (targeted_record targeted)) (plain tabId) others

end Keys

section Handling

variable {known : List PaneId} {app : BooApp} {id : ClientId}

/-- The view sync at its end forgets what an input has recorded: there is a tab to sync to. -/
theorem forgot_synced {tabId : TabId} {index : Nat} {paneId : PaneId} (bytes : List UInt8)
    (inputSeq : Option UInt64) (housed : Housed known app) (held : Holds app id Forgot)
    (indexed : app.tabs.findIndexByTabId tabId = some index) :
    Holds (final Action.step (do
      perform (focusTarget index (some paneId))
      perform (.recordInputSeq id inputSeq)
      perform (.writeInput paneId bytes)
      perform (.syncClientView id)
      perform (.markDirty tabId) : Handler Unit) app) id Forgot := by
  simp only [final_bind, final_perform]
  generalize focusedIs : (focusTarget index (some paneId)).step app = focused
  have tabs : focused.tabs =
      (UiEffect.applyAll app.runtime [.focusTab index, .focusPane paneId]).tabs := by
    rw [← focusedIs]
    exact tabs_applyEffects app _
  have present : focused.tabs.tabs ≠ [] := by
    obtain ⟨tab, at_index, -⟩ := held_of_findIndexByTabId indexed
    have inside := (List.getElem?_eq_some_iff.mp at_index).1
    have size := @length_applyAll app.runtime housed.sound
      [.focusTab index, .focusPane paneId] (by simp [removes])
    rw [tabs]
    exact List.ne_nil_of_length_pos (by
      have same : app.tabs.tabs.length = app.runtime.tabs.tabs.length := rfl
      omega)
  have forgot : Holds focused id Forgot := by
    rw [← focusedIs]
    exact forgot_step held fun seq same => by cases same
  have unacked : Holds ((Action.writeInput paneId bytes).step
      ((Action.recordInputSeq id inputSeq).step focused)) id Unacked :=
    unacked_step (unacked_step (fun client before => (forgot client before).unacked)
      fun _ same => by cases same) fun _ same => by cases same
  have kept : ((Action.writeInput paneId bytes).step
      ((Action.recordInputSeq id inputSeq).step focused)).tabs = focused.tabs :=
    tabs_step ((Action.recordInputSeq id inputSeq).step focused) (.writeInput paneId bytes)
  refine forgot_step (forgot_of_mark unacked (fun _ same => (by cases same))
    (fun _ same => (by cases same)) fun client _ => ?_) fun seq same => by cases same
  rw [change, if_pos rfl, syncAim, kept]
  cases active : focused.tabs.activeTabId with
  | none =>
      refine absurd (tabs_of_noActive ?_ active) present
      rw [tabs]
      exact activeOk_applyAll housed.active _
  | some other => rfl

theorem forgot_remoteInput (bytes : List UInt8) (inputSeq : Option UInt64)
    (housed : Housed known app) (held : Holds app id (Unheard known app)) :
    Holds (final Action.step (remoteInput id bytes inputSeq) app) id Forgot := by
  have forgot := forgot_ensured held
  have recovers : Holds (final Action.step (recoverRemoteClientRuntimeView id) (ensured app id)) id
      Forgot := by
    refine forgot_final forgot ((aims_recover id).mono fun _ _ aims => ?_)
    exact (plain_of_aims aims).records
  unfold remoteInput
  rw [final_bind, result_ensure, final_ensure]
  cases seen : (ensured app id).viewOf id with
  | none => exact forgot
  | some view =>
      dsimp only
      cases viewed : view.viewedTabId with
      | none => exact forgot_final forgot (performs_perform fun _ seq same => by cases same)
      | some tabId =>
          dsimp only
          rw [final_bind, result_current, final_current]
          cases focus : (ensured app id).publishedFocus view tabId with
          | none => exact recovers
          | some paneId =>
              dsimp only
              split
              · rename_i indexed
                exact forgot_synced bytes inputSeq (housed_ensured housed id) forgot indexed
              · exact recovers

/-- The tab that `FocusPane` assigns is that of a view that was repaired. -/
theorem forgot_focusPane (clientActionId : Option UInt64) (tabId : TabId) (paneId : PaneId)
    (held : Holds app id (Unheard known app)) :
    Holds (final Action.step (handleServerCmd (.remoteRuntimeAction id clientActionId
      (.focusPane tabId paneId))) app) id Forgot := by
  have acked : Holds (final Action.step (ackClientAction id clientActionId) app) id
      (Unheard known (final Action.step (ackClientAction id clientActionId) app)) := by
    cases clientActionId with
    | none => exact held
    | some action =>
        have forgot : Holds ((Action.ackAction id action).step app) id Forgot := by
          refine forgot_of_mark (fun client before => (held client before).unacked)
            (fun _ same => by cases same) (fun _ same => by cases same) fun client _ => ?_
          rw [change, if_pos rfl]
          rfl
        exact fun client before => (forgot client before).unheard
  show Holds (final Action.step (do
    ackClientAction id clientActionId
    remoteFocusPane id paneId
    perform (.assignViewedTab id tabId) : Handler Unit) app) id Forgot
  rw [final_bind, final_bind]
  refine forgot_final ?_ (performs_perform fun _ seq same => by cases same)
  unfold remoteFocusPane
  rw [final_bind, final_ensure]
  refine forgot_final (forgot_ensured acked) ?_
  split
  · exact performs_pure _
  · split
    · exact performs_perform fun _ seq same => by cases same
    · refine performs_bind performs_current fun app => ?_
      split
      · exact performs_bind (performs_perform fun _ seq same => (by cases same)) fun _ =>
          (aims_publishRemoteTab id _).mono fun _ _ aims => (plain_of_aims aims).records
      · exact performs_pure _

/-- Whatever a step is, it leaves no input of the client to be acknowledged later. -/
theorem unheard_handler (step : Step) (housed : Housed known app)
    (oneKey : OneKey (keyEffects step)) (held : Holds app id (Unheard known app))
    (others : Admits Action.step (fun _ action => SpawnsOthers known action) step.handler app) :
    Holds (final Action.step step.handler app) id
      (Unheard known (final Action.step step.handler app)) := by
  have markDirty : ∀ tabId, Plain id (.markDirty tabId) := fun tabId =>
    ⟨fun seq same => (by cases same), fun tabId same => by cases same⟩
  by_cases refocuses : RefocusesFor id step
  · cases step with
    | command cmd =>
        obtain ⟨issued, focuses⟩ := refocuses
        cases cmd with
        | remoteRuntimeAction client clientActionId action =>
            cases action with
            | focusPane tabId paneId =>
                cases issued
                exact fun client atEnd =>
                  (forgot_focusPane clientActionId tabId paneId held client atEnd).unheard
            | _ => exact focuses.elim
        | _ => exact focuses.elim
    | _ => exact refocuses.elim
  cases input : inputSeqOf id step with
  | none =>
      refine unheard_final held ((@stepActs_handler id step).mono fun _ action acts => ?_) others
      refine ⟨fun seq records => ?_, fun tabId assigns => refocuses (acts.assigns tabId assigns)⟩
      cases input.symm.trans (acts.records seq records)
  | some seq =>
      cases step with
      | command cmd =>
          rw [inputSeqOf, Option.bind_eq_some_iff] at input
          obtain ⟨⟨client, inputSeq⟩, issued, mine⟩ := input
          dsimp only at mine
          split at mine
          · rename_i same
            subst same
            cases cmd with
            | remoteInput target bytes other =>
                cases issued
                exact fun client atEnd =>
                  (forgot_remoteInput bytes inputSeq housed held client atEnd).unheard
            | remoteKey target other effects =>
                cases issued
                exact unheard_onClientTarget (fun _ => .effectsBy client effects)
                  (fun tabId => perform (.markDirty tabId)) housed oneKey held
                  (fun tabId => .inl rfl) (fun tabId => performs_perform fun _ => markDirty tabId)
                  others
            | remoteAppKeyEvent target other effects consumed =>
                cases issued
                cases consumed with
                | true =>
                    exact unheard_onClientTarget (fun _ => .effectsAndBroadcast client effects)
                      (fun _ => publishActiveTab) housed oneKey held (fun tabId => .inr rfl)
                      (fun tabId => (aims_publishActiveTab client).mono fun _ _ => plain_of_aims)
                      others
                | false =>
                    exact unheard_onClientTarget (fun _ => .effectsBy client effects)
                      (fun tabId => perform (.markDirty tabId)) housed oneKey held
                      (fun tabId => .inl rfl)
                      (fun tabId => performs_perform fun _ => markDirty tabId) others
            | _ => cases issued
          · cases mine
      | _ => cases input

end Handling

section Acknowledging

variable {id : ClientId}

theorem actions_cons (step : Step) (steps : List Step) (app : BooApp) :
    actions (step :: steps) app = trace Action.step step.handler app ++
      actions steps (final Action.step step.handler app) :=
  trace_bind Action.step step.handler (fun _ => steps.forM Step.handler) app

/-- As long as the backend answers with new panes, no run leaves an input to be acknowledged. -/
theorem unheard_after {known : List PaneId} {app : BooApp} (steps : List Step)
    (housed : Housed known app) (held : Holds app id (Unheard known app))
    (spawns : (known ++ spawnsOf (actions steps app)).Nodup)
    (oneKey : ∀ step ∈ steps, OneKey (keyEffects step)) :
    Holds (after steps app) id fun stream => Unheard (known ++ spawnsOf (actions steps app))
      (after steps app) stream := by
  induction steps generalizing known app with
  | nil => exact fun client atEnd => (held client atEnd).mono (List.subset_append_left _ _)
  | cons step steps ih =>
      rw [actions_cons, spawnsOf, List.flatMap_append, ← List.append_assoc] at spawns ⊢
      rw [after_cons]
      have fresh := (List.nodup_append'.mp (List.nodup_append'.mp spawns).1).2.2
      have others : Admits Action.step (fun _ action => SpawnsOthers known action) step.handler
          app := fun entry member paneId spawned old =>
        fresh old (List.mem_flatMap.mpr ⟨entry, member, spawned⟩)
      have unheard := unheard_handler step housed (oneKey step List.mem_cons_self) held others
      refine ih (Housed.final housed) (fun client atEnd => ?_) spawns
        fun other member => oneKey other (List.mem_cons_of_mem _ member)
      exact (unheard client atEnd).mono (List.subset_append_left _ _)

/-- In every run in which the backend never answers with a pane twice and no key closes two panes:
no screen that any client is sent acknowledges an input. -/
theorem unacked_after (appearance : UiAppearance) (frame : Rect)
    (hasLocalGuiServer hasRemoteServer : Bool) (steps : List Step)
    (spawns : (spawnsOf (actions steps
      (start appearance frame hasLocalGuiServer hasRemoteServer))).Nodup)
    (oneKey : ∀ step ∈ steps, OneKey (keyEffects step)) :
    Holds (after steps (start appearance frame hasLocalGuiServer hasRemoteServer)) id Unacked := by
  intro client atEnd
  have housed : Housed [] (start appearance frame hasLocalGuiServer hasRemoteServer) :=
    ⟨⟨List.nodup_nil, fun tab none => (by cases none)⟩, fun tab none => (by cases none),
      fun present => absurd rfl present, fun paneId none => by cases none⟩
  exact (unheard_after steps housed (fun client none => by cases none) spawns oneKey client
    atEnd).unacked

/-- In all these runs, whatever else they handle: the first screen that a client is sent after one
of its inputs does not acknowledge that input, nor a later one. -/
theorem nextAck_never_covers (appearance : UiAppearance) (frame : Rect)
    (hasLocalGuiServer hasRemoteServer : Bool) {earlier later : List Step} {cmd : Command}
    {input : UInt64} (_issued : inputOf cmd = some (id, some input))
    (spawns : (spawnsOf (actions (earlier ++ .command cmd :: later)
      (start appearance frame hasLocalGuiServer hasRemoteServer))).Nodup)
    (oneKey : ∀ step ∈ earlier ++ .command cmd :: later, OneKey (keyEffects step))
    {app : BooApp}
    (reached : app = after earlier (start appearance frame hasLocalGuiServer hasRemoteServer))
    {client result : ClientState}
    (handled : (after [.command cmd] app).clients.value id = some client)
    (atEnd : (after later (after [.command cmd] app)).clients.value id = some result)
    {ack : Option UInt64} (next : nextAck (streamOf client) (streamOf result) = some ack) :
    ¬ ∃ seq, ack = some seq ∧ input ≤ seq := by
  subst reached
  rintro ⟨seq, rfl, -⟩
  have whole : after (earlier ++ .command cmd :: later)
      (start appearance frame hasLocalGuiServer hasRemoteServer) = after later
        (after [.command cmd] (after earlier
          (start appearance frame hasLocalGuiServer hasRemoteServer))) := by
    rw [after_append, ← List.singleton_append, after_append]
  have unacked := unacked_after appearance frame hasLocalGuiServer hasRemoteServer
    (earlier ++ .command cmd :: later) spawns oneKey result (whole ▸ atEnd)
  rw [nextAck] at next
  have queued : some seq ∈ acksOf ((streamOf result).queue.take (streamOf client).queue.length ++
      (streamOf result).queue.drop (streamOf client).queue.length) := by
    rw [acksOf_append]
    exact List.mem_append_right _ (List.mem_of_mem_head? next)
  rw [List.take_append_drop] at queued
  cases unacked _ queued

/-- A key that the client types, under its fifth sequence number. -/
def typedKey : Command := .remoteInput 1 [97] (some 5)

/-- The input is written and its tab is published, on a screen that acknowledges nothing. -/
theorem typedKey_published :
    ∃ client result, (after [.command typedKey] (after oneViewer freshServer)).clients.value 1 =
        some client ∧ client.isLocal = true ∧ client.runtimeView.subscribedToRuntime = true ∧
      (after [.publishDirtyTabs] (after [.command typedKey]
        (after oneViewer freshServer))).clients.value 1 = some result ∧
      nextAck (streamOf client) (streamOf result) = some none := by
  have handled : ((after [.command typedKey] (after oneViewer freshServer)).clients.value 1).map
      (fun client => (client.isLocal, client.runtimeView.subscribedToRuntime)) =
        some (true, true) := by
    decide +kernel
  have published : (((after [.command typedKey] (after oneViewer freshServer)).clients.value 1).bind
      fun client => ((after [.publishDirtyTabs] (after [.command typedKey]
        (after oneViewer freshServer))).clients.value 1).bind fun result =>
          nextAck (streamOf client) (streamOf result)) = some none := by
    decide +kernel
  obtain ⟨client, held, next⟩ := Option.bind_eq_some_iff.mp published
  obtain ⟨result, atEnd, next⟩ := Option.bind_eq_some_iff.mp next
  rw [held] at handled
  simp only [Option.map_some, Option.some.injEq, Prod.mk.injEq] at handled
  exact ⟨client, result, held, handled.1, handled.2, atEnd, next⟩

/-- The client types, the tab is published, and the screen acknowledges less than the input. -/
theorem nextAck_never_covers_typedKey : ∃ client result ack,
    (after [.command typedKey] (after oneViewer freshServer)).clients.value 1 = some client ∧
      (after [.publishDirtyTabs] (after [.command typedKey]
        (after oneViewer freshServer))).clients.value 1 = some result ∧
      nextAck (streamOf client) (streamOf result) = some ack ∧
      ¬ ∃ seq, ack = some seq ∧ (5 : UInt64) ≤ seq := by
  obtain ⟨client, result, handled, -, -, atEnd, next⟩ := typedKey_published
  refine ⟨client, result, none, handled, atEnd, next, ?_⟩
  have quiet : ∀ step ∈ oneViewer ++ .command typedKey :: [.publishDirtyTabs],
      keyEffects step = [] := by
    intro step member
    simp only [oneViewer, List.cons_append, List.nil_append, List.mem_cons, List.not_mem_nil,
      or_false] at member
    rcases member with rfl | rfl | rfl | rfl | rfl <;> rfl
  refine @nextAck_never_covers 1 plainAppearance unitFrame true false oneViewer
    [.publishDirtyTabs] typedKey 5 rfl (by decide +kernel) (fun step member => ?_) _ rfl client
    result handled atEnd none next
  rw [quiet step member]
  exact ⟨fun _ none => (by cases none), Nat.zero_le _⟩

/-- The view sync of the input's own handler forgets the sequence number. -/
theorem typedKey_unacked :
    ¬ ∀ (id : ClientId) (input : UInt64) (earlier later : List Step) (cmd : Command)
      (client result : ClientState) (ack : Option UInt64),
      inputOf cmd = some (id, some input) →
      ((earlier ++ .command cmd :: later).filterMap (inputSeqOf id)).Pairwise (· < ·) →
      (∀ isLocal, .connect id isLocal ∉ later) →
      (after [.command cmd] (after earlier freshServer)).clients.value id = some client →
      client.isLocal = true → client.runtimeView.subscribedToRuntime = true →
      (after later (after [.command cmd] (after earlier freshServer))).clients.value id =
        some result →
      nextAck (streamOf client) (streamOf result) = some ack →
      ∃ seq, ack = some seq ∧ input ≤ seq := by
  intro covers
  obtain ⟨client, result, handled, isLocal, subscribed, atEnd, next⟩ := typedKey_published
  obtain ⟨seq, none, -⟩ := covers 1 5 oneViewer [.publishDirtyTabs] typedKey client result none
    rfl (by decide +kernel) (by simp) handled isLocal subscribed atEnd next
  cases none

end Acknowledging

end Boo.Server.InputAcks
