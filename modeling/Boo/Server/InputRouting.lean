/- module: Boo/Server/InputRouting
   digest: Which pane the input of a client is written to, in every run. -/

import Boo.Server.Handlers
import Boo.Server.Publishing

set_option autoImplicit false
set_option relaxedAutoImplicit false

namespace Boo.Server.InputRouting

open Boo.Lib.Script
open Boo.Lib.Script.Program
open Boo.Wire.Message
open Boo.Server.Frames
open Boo.Server.View
open Boo.Server.App
open Boo.Server.App.BooApp
open Boo.Server.Actions
open Boo.Server.Publishing
open Boo.Server.Handlers
open Boo.Runtime.Splits
open Boo.Runtime.Tabs
open Boo.Runtime.Ui

/-- What an action writes to the panes. -/
def writesOf (app : BooApp) : Action → List (PaneId × List UInt8)
  | .writeInput pane bytes => [(pane, bytes)]
  | .applyEffects effects | .effectsBy _ effects | .effectsAndBroadcast _ effects
  | .effectsAndTellLocal _ effects => UiEffect.writesAll app.runtime effects
  | _ => []

section Steps

variable (app : BooApp)

@[simp] theorem runtime_applyEffects (effects : List UiEffect) :
    (app.applyEffects effects).runtime = UiEffect.applyAll app.runtime effects := by
  unfold applyEffects UiEffect.applyAll
  induction effects generalizing app with
  | nil => rfl
  | cons effect effects ih =>
      rw [List.foldl_cons, List.foldl_cons, ih]
      congr 1
      unfold applyEffect
      split <;> rfl

@[simp] theorem runtime_syncClientView (client : ClientId) :
    (app.syncClientView client).runtime = app.runtime := by
  unfold syncClientView
  split <;> rfl

theorem written_pollRuntime (rt : UiRuntime) (outcome : PollOutcome) :
    (pollRuntime rt outcome).1.written = rt.written := by
  have polls : ∀ panes (acc : UiRuntime × Bool),
      (List.foldl pollPane acc panes).1.written = acc.1.written := by
    intro panes acc
    refine List.foldlRecOn (motive := fun (other : UiRuntime × Bool) =>
      other.1.written = acc.1.written) _ _ rfl ?_
    intro other same pane _
    rw [← same]
    unfold pollPane
    split
    · rfl
    · dsimp only
      split <;> rfl
  have closes : ∀ panes (rt : UiRuntime),
      (List.foldl UiRuntime.closePaneById rt panes).written = rt.written := by
    intro panes rt
    refine List.foldlRecOn (motive := fun (other : UiRuntime) => other.written = rt.written)
      _ _ rfl ?_
    intro other same pane _
    rw [written_closePaneById, same]
  unfold pollRuntime
  dsimp only
  rw [closes, written_updateTabs]
  exact polls _ _

/-- A runtime without what it remembers for its remote clients. -/
def unlisted (rt : UiRuntime) : UiRuntime :=
  { rt with
    dirtyRemoteTabs := []
    cachedRemoteTabs := none }

/-- The runtime that an action leaves, but for what it remembers for its remote clients. -/
def runtimeAfter : Action → UiRuntime
  | .output pane state pwd => updateTerminal pane (advance · state pwd) app.runtime
  | .childExit pane =>
      updateTerminal pane (fun terminal => { terminal with exited := true }) app.runtime
  | .applyEffects effects | .effectsBy _ effects | .effectsAndBroadcast _ effects
  | .effectsAndTellLocal _ effects => UiEffect.applyAll app.runtime effects
  | .createTab _ spawned _ => app.runtime.newTab spawned
  | .destroyTab index =>
      (app.runtime.freePanes (app.tabs.panesAt index)).updateTabs (·.removeTab index)
  | .writeInput pane bytes => app.runtime.writeTerminalInput pane bytes
  | .poll outcome => (pollRuntime app.runtime outcome).1
  | _ => app.runtime

theorem unlisted_markActiveRemoteTabDirty (rt : UiRuntime) :
    unlisted rt.markActiveRemoteTabDirty = unlisted rt := by
  unfold UiRuntime.markActiveRemoteTabDirty
  split <;> rfl

theorem unlisted_tellLocalViewers :
    unlisted app.tellLocalViewers.runtime = unlisted app.runtime := by
  unfold tellLocalViewers
  split <;> rfl

/-- What an action does to the runtime, with every action that tells clients something left out. -/
theorem unlisted_step (action : Action) :
    unlisted (action.step app).runtime = unlisted (runtimeAfter app action) := by
  cases action with
  | applyEffects effects => exact congrArg unlisted (runtime_applyEffects app effects)
  | effectsBy client effects =>
      rw [Action.step, runtime_syncClientView, runtime_applyEffects]
      rfl
  | effectsAndBroadcast client effects =>
      show unlisted ((app.applyEffects effects).syncClientView client).runtime = _
      rw [runtime_syncClientView, runtime_applyEffects]
      rfl
  | effectsAndTellLocal client effects =>
      rw [Action.step, unlisted_tellLocalViewers, runtime_syncClientView, runtime_applyEffects]
      rfl
  | tellLocalViewers => exact unlisted_tellLocalViewers app
  | syncClientView client => exact congrArg unlisted (runtime_syncClientView app client)
  | syncRuntimeView client subscribe =>
      show unlisted (app.syncRuntimeView client subscribe).runtime = _
      unfold syncRuntimeView
      split <;> rfl
  | createTab client spawned ack =>
      show unlisted (app.createTab client spawned ack).runtime = _
      unfold createTab
      dsimp only
      split <;> rfl
  | focusClientPane client tabId paneId =>
      show unlisted (app.focusClientPane client tabId paneId).runtime = _
      unfold focusClientPane
      split <;> rfl
  | writeInput pane bytes =>
      show unlisted (app.writeInput pane bytes).runtime = _
      unfold writeInput
      split
      · rename_i focused
        rw [← focused]
        rfl
      · rfl
  | markActiveDirty => exact unlisted_markActiveRemoteTabDirty app.runtime
  | publishTo client tabId => exact congrArg unlisted (runtime_publishTo app client tabId)
  | poll outcome =>
      show unlisted (app.poll outcome).runtime = unlisted (pollRuntime app.runtime outcome).1
      unfold poll
      dsimp only
      split
      · split
        · exact unlisted_markActiveRemoteTabDirty _
        · rfl
      · rfl
  | sweepIdleViews now =>
      show unlisted (app.sweepIdleViews now viewIdleTimeout).runtime = _
      unfold sweepIdleViews
      split <;> rfl
  | _ => rfl

/-- What is read off the runtime alone is read off the runtime that the action leaves. -/
theorem reading_step {A : Type} (reading : UiRuntime → A)
    (unlists : ∀ rt, reading (unlisted rt) = reading rt) (action : Action) :
    reading (action.step app).runtime = reading (runtimeAfter app action) := by
  rw [← unlists, unlisted_step, unlists]

theorem written_step (action : Action) :
    (action.step app).runtime.written = app.runtime.written ++ writesOf app action := by
  rw [reading_step app UiRuntime.written (fun _ => rfl)]
  cases action with
  | applyEffects effects | effectsBy client effects | effectsAndBroadcast client effects
  | effectsAndTellLocal client effects => exact UiEffect.written_applyAll app.runtime effects
  | writeInput pane bytes => rfl
  | destroyTab index =>
      exact (written_freePanes app.runtime _).trans (List.append_nil _).symm
  | poll outcome => exact (written_pollRuntime app.runtime outcome).trans (List.append_nil _).symm
  | _ => exact (List.append_nil _).symm

end Steps

/-- Nothing that was written is ever taken back. -/
theorem written_after (steps : List Step) (app : BooApp) :
    app.runtime.written <+: (after steps app).runtime.written := by
  refine @after_always (fun other => app.runtime.written <+: other.runtime.written) _ ?_ steps
    (List.prefix_refl _)
  intro other action earlier
  rw [written_step]
  exact earlier.trans (List.prefix_append _ _)

theorem written_of_quiet {R : Type} {handler : Handler R}
    (quiet : Performs Action.step (fun app action => writesOf app action = []) handler)
    (app : BooApp) : (final Action.step handler app).runtime.written = app.runtime.written := by
  refine @Performs.invariant _ _ _ _ _ (fun other => other.runtime.written = app.runtime.written)
    _ quiet ?_ app rfl
  intro other action same nothing
  rw [written_step, same, nothing, List.append_nil]

section Quiet

theorem quiet_publishRemoteTab (tabId : TabId) :
    Performs Action.step (fun app action => writesOf app action = []) (publishRemoteTab tabId) :=
  performs_bind performs_current fun _ => performs_forM fun _ _ => performs_perform fun _ => rfl

theorem quiet_publishActiveTab :
    Performs Action.step (fun app action => writesOf app action = []) publishActiveTab := by
  refine performs_bind performs_current fun app => ?_
  split
  · exact performs_pure _
  · exact quiet_publishRemoteTab _

theorem quiet_recover (client : ClientId) :
    Performs Action.step (fun app action => writesOf app action = [])
      (recoverRemoteClientRuntimeView client) := by
  refine performs_bind performs_current fun app => performs_bind (performs_perform fun _ => rfl)
    fun _ => ?_
  split
  · exact quiet_publishActiveTab
  · exact performs_pure _

end Quiet

/-- The checks that a `RemoteInput` passes on its way to a pane, in the state that
`ensure_remote_client_view_state` leaves. -/
structure InputRoute (app : BooApp) (client : ClientId) (tabId : TabId) (paneId : PaneId) :
    Prop where
  view : ∃ view, (ensured app client).viewOf client = some view ∧
    view.viewedTabId = some tabId ∧ app.publishedFocus view tabId = some paneId
  located : (app.tabs.findPaneLocation paneId).isSome
  indexed : (app.tabs.findIndexByTabId tabId).isSome

section Routing

variable {app : BooApp} {client : ClientId}

/-- The target of an input is a pane of the tab that its client views. -/
theorem InputRoute.mem {tabId : TabId} {paneId : PaneId} (route : InputRoute app client tabId paneId) :
    paneId ∈ app.tabs.paneIdsForTab tabId := by
  obtain ⟨view, known, viewed, focus⟩ := route.view
  obtain ⟨visible, -⟩ := ensured_sound app client known viewed
  rw [BooApp.publishedFocus, Option.or_eq_some_iff] at focus
  rcases focus with focus | ⟨-, default⟩
  · rw [Option.filter_eq_some_iff] at focus
    rw [← visible]
    exact of_decide_eq_true focus.2
  · exact TabManager.defaultFocus_mem_of_ne_zero default
      (TabManager.ne_zero_of_findPaneLocation route.located)

/-- It is the client's focused pane, or the tab's own focus where the client has none there. -/
theorem InputRoute.focus {tabId : TabId} {paneId : PaneId}
    (route : InputRoute app client tabId paneId) :
    ∃ view, (ensured app client).viewOf client = some view ∧ view.viewedTabId = some tabId ∧
      (view.focusedPaneId = some paneId ∨
        app.tabs.defaultFocusedPaneForTab tabId = some paneId) := by
  obtain ⟨view, known, viewed, focus⟩ := route.view
  refine ⟨view, known, viewed, ?_⟩
  rw [BooApp.publishedFocus, Option.or_eq_some_iff] at focus
  rcases focus with focus | ⟨-, default⟩
  · exact .inl (Option.filter_eq_some_iff.mp focus).1
  · exact .inr default

theorem written_focusTarget (app : BooApp) (index : Nat) (paneId : PaneId) :
    ((focusTarget index (some paneId)).step app).runtime.written = app.runtime.written :=
  written_step app (focusTarget index (some paneId)) |>.trans (List.append_nil _)

theorem written_remoteInput_of_route {tabId : TabId} {paneId : PaneId}
    (route : InputRoute app client tabId paneId) (bytes : List UInt8) (inputSeq : Option UInt64) :
    (final Action.step (remoteInput client bytes inputSeq) app).runtime.written =
      app.runtime.written ++ [(paneId, bytes)] := by
  obtain ⟨view, known, viewed, focus⟩ := route.view
  obtain ⟨location, located⟩ := Option.isSome_iff_exists.mp route.located
  obtain ⟨index, indexed⟩ := Option.isSome_iff_exists.mp route.indexed
  have sameFocus : (ensured app client).publishedFocus view tabId = some paneId := by
    rw [BooApp.publishedFocus, tabs_ensured]
    exact focus
  unfold remoteInput
  rw [final_bind, result_ensure, final_ensure, known]
  dsimp only
  rw [viewed]
  dsimp only
  rw [final_bind, result_current, final_current, sameFocus]
  dsimp only
  rw [tabs_ensured, located, indexed]
  simp only [final_bind, final_perform]
  rw [written_step, written_step, written_step, written_step, written_focusTarget,
    runtime_ensured]
  simp only [writesOf, List.append_nil]

theorem written_remoteInput_of_no_route (blocked : ∀ tabId paneId, ¬ InputRoute app client tabId paneId)
    (bytes : List UInt8) (inputSeq : Option UInt64) :
    (final Action.step (remoteInput client bytes inputSeq) app).runtime.written =
      app.runtime.written := by
  rw [← runtime_ensured app client]
  unfold remoteInput
  rw [final_bind, result_ensure, final_ensure]
  cases known : (ensured app client).viewOf client with
  | none => rfl
  | some view =>
      dsimp only
      cases viewed : view.viewedTabId with
      | none =>
          exact written_of_quiet (performs_perform fun _ => rfl) _
      | some tabId =>
          dsimp only
          rw [final_bind, result_current, final_current]
          cases focus : (ensured app client).publishedFocus view tabId with
          | none => exact written_of_quiet (quiet_recover client) _
          | some paneId =>
              dsimp only
              split
              · rename_i location index located indexed
                refine absurd ?_ (blocked tabId paneId)
                rw [tabs_ensured] at located indexed
                rw [BooApp.publishedFocus, tabs_ensured] at focus
                exact ⟨⟨view, known, viewed, focus⟩, by rw [located]; rfl, by rw [indexed]; rfl⟩
              · exact written_of_quiet (quiet_recover client) _

end Routing

/-- In every run, the bytes of an input go once, in their turn, to the target in the tab that
its client views, and nowhere else; an input without a target writes nothing. -/
theorem remoteInput_routed (appearance : UiAppearance) (frame : Rect)
    (hasLocalGuiServer hasRemoteServer : Bool) (steps later : List Step) (client : ClientId)
    (bytes : List UInt8) (inputSeq : Option UInt64) :
    let start := start appearance frame hasLocalGuiServer hasRemoteServer
    let app := after steps start
    let handled := after (steps ++ [.command (.remoteInput client bytes inputSeq)]) start
    let whole := after (steps ++ .command (.remoteInput client bytes inputSeq) :: later) start
    (∀ tabId paneId, InputRoute app client tabId paneId →
        handled.runtime.written = app.runtime.written ++ [(paneId, bytes)] ∧
        paneId ∈ app.tabs.paneIdsForTab tabId ∧
        ∃ view, (ensured app client).viewOf client = some view ∧
          view.viewedTabId = some tabId ∧
          (view.focusedPaneId = some paneId ∨
            app.tabs.defaultFocusedPaneForTab tabId = some paneId)) ∧
      ((∀ tabId paneId, ¬ InputRoute app client tabId paneId) →
        handled.runtime.written = app.runtime.written) ∧
      handled.runtime.written <+: whole.runtime.written := by
  intro start app handled whole
  have handledEq : handled = final Action.step (remoteInput client bytes inputSeq) app := by
    show after (steps ++ [_]) start = _
    rw [after_append, after_cons]
    rfl
  refine ⟨?_, ?_, ?_⟩
  · intro tabId paneId route
    rw [handledEq]
    exact ⟨written_remoteInput_of_route route bytes inputSeq, route.mem, route.focus⟩
  · intro blocked
    rw [handledEq]
    exact written_remoteInput_of_no_route blocked bytes inputSeq
  · show _ <+: (after (steps ++ _ :: later) start).runtime.written
    rw [after_append, after_cons, handledEq]
    exact written_after later _

end Boo.Server.InputRouting
