/- module: Boo/Server/ToldViews
   digest: When the publication of a tab reaches every client that was told it views the tab. -/

import Boo.Server.StreamRuns
import Boo.Server.TabPublication
import Boo.Server.ViewValidity

set_option autoImplicit false
set_option relaxedAutoImplicit false

namespace Boo.Server.ToldViews

open Boo.Lib.Script
open Boo.Wire.Message
open Boo.Server.Frames
open Boo.Server.View
open Boo.Server.App
open Boo.Server.App.BooApp
open Boo.Server.Actions
open Boo.Server.Streams
open Boo.Server.Publishing
open Boo.Server.StreamSteps
open Boo.Server.StreamRuns
open Boo.Server.Handlers
open Boo.Server.TabPublication
open Boo.Server.TabRuns
open Boo.Server.ViewValidity
open Boo.Runtime.Splits
open Boo.Runtime.Tabs
open Boo.Runtime.Ui

section Agreement

/-- The stored view is of the tab, if there is one, and lists the panes. -/
def Lists (stream : Stream) (viewed : Option TabId) (panes : List PaneId) : Prop :=
  ∀ tabId ∈ viewed, stream.viewed = some tabId ∧ ∀ paneId ∈ panes, paneId ∈ stream.visible

instance (stream : Stream) (viewed : Option TabId) (panes : List PaneId) :
    Decidable (Lists stream viewed panes) :=
  have : Decidable (∀ paneId ∈ panes, paneId ∈ stream.visible) := List.decidableBAll _ panes
  decidable_of_iff (viewed.all fun tabId =>
      decide (stream.viewed = some tabId ∧ ∀ paneId ∈ panes, paneId ∈ stream.visible)) <| by
    simp [Lists, Option.all_eq_true]

/-- The stored view is of the tab that the client was told last, and lists all panes it was told. -/
def Agrees (stream : Stream) : Prop :=
  ∀ state ∈ stream.told, Lists stream state.viewedTabId state.visiblePaneIds

instance (stream : Stream) : Decidable (Agrees stream) :=
  inferInstanceAs (Decidable (∀ state ∈ stream.told, _))

/-- The panes of the active tab, as the server's own state lists them. -/
def activePaneIds (tabs : TabManager) : List PaneId :=
  (tabs.activeTree.map fun tree => tree.exportPanes.map (·.pane.val)).getD []

/-- How an action bears on the agreement of a client with what it was told. The client is told of
its own view, which falls back to the active tab, of the server's view, or of nothing: then only
another view counts. -/
def hearing (id : ClientId) (entry : BooApp × Action) : Option Bool :=
  let tabs := tabsAfter entry.1 entry.2
  (entry.1.clients.value id).bind fun client =>
    let change := change entry.1 id client entry.2
    let aimed := change.view.apply tabs (streamOf client)
    match change.news with
    | .told =>
        let tab := aimed.viewed.or tabs.activeTabId
        some (decide (Lists aimed tab ((tab.map tabs.paneIdsForTab).getD [])))
    | .toldLocally => some (decide (Lists aimed tabs.activeTabId (activePaneIds tabs)))
    | _ =>
        if aimed.viewed = (streamOf client).viewed ∧ aimed.visible = (streamOf client).visible then
          none
        else some (decide (Agrees aimed))

variable {id : ClientId}

theorem Lists.congr {before after : Stream} {viewed : Option TabId} {panes : List PaneId}
    (lists : Lists before viewed panes) (sameTab : after.viewed = before.viewed)
    (samePanes : after.visible = before.visible) : Lists after viewed panes := by
  unfold Lists
  rw [sameTab, samePanes]
  exact lists

theorem Agrees.congr {before after : Stream} (agrees : Agrees before)
    (told : after.told = before.told) (viewed : after.viewed = before.viewed)
    (visible : after.visible = before.visible) : Agrees after := by
  intro state last
  rw [told] at last
  exact (agrees state last).congr viewed visible

theorem agrees_told {stream : Stream} {state : UiRuntimeState}
    (lists : Lists stream state.viewedTabId state.visiblePaneIds) : Agrees (stream.tell state) := by
  intro last member
  rw [told_tell, Option.mem_def, Option.some.injEq] at member
  subst member
  unfold Stream.tell
  split
  · exact lists
  · exact lists

/-- A view that stays as it was agrees as before; another one must agree by itself. -/
theorem agrees_aimed {before aimed : Stream} {ok : Bool} (agrees : ok = true → Agrees before)
    (told : aimed.told = before.told)
    (stands : (if aimed.viewed = before.viewed ∧ aimed.visible = before.visible then none
      else some (decide (Agrees aimed))).getD ok = true) : Agrees aimed := by
  split at stands
  · rename_i same
    exact (agrees stands).congr told same.1 same.2
  · exact of_decide_eq_true stands

/-- A client that agrees, if `ok` says so, agrees after an action that leaves it so. -/
theorem agrees_action (app : BooApp) (action : Action) (ok : Bool)
    (agrees : ok = true → Holds app id Agrees)
    (stands : (hearing id (app, action)).getD ok = true) : Holds (action.step app) id Agrees := by
  intro result held
  rcases step_leads app action id held with ⟨isLocal, -, rfl⟩ | ⟨client, present, leads⟩
  · intro state member
    cases member
  · rw [hearing, ← tabs_step, present, Option.bind_some] at stands
    dsimp only at stands
    have before : ok = true → Agrees (streamOf client) := fun isOk => agrees isOk client present
    have told := told_apply (action.step app).tabs (streamOf client)
      (change app id client action).view
    unfold Change.Leads at leads
    dsimp only at leads
    cases news : (change app id client action).news with
    | silent =>
        rw [news] at leads stands
        rw [leads]
        exact agrees_aimed before told stands
    | told =>
        rw [news] at leads stands
        obtain ⟨state, tells, same⟩ := leads
        rw [same]
        refine agrees_told ?_
        rw [tells.viewed, tells.visible]
        exact of_decide_eq_true stands
    | toldLocally =>
        rw [news] at leads stands
        rw [leads]
        exact agrees_told (of_decide_eq_true stands)
    | published tabId =>
        rw [news] at leads stands
        obtain ⟨sends, -, sent⟩ := leads
        obtain ⟨new, _, _, -, same⟩ := sends_foldl sends
          ((change app id client action).view.apply (action.step app).tabs (streamOf client))
        rw [sent, same]
        exact (agrees_aimed before told stands).congr rfl rfl rfl

end Agreement

section Streaming

/-- The client is sent what it was told it views: if it was told a tab that exists with the panes
it was told, then the publication of the tab selects it and queues it the screens of them all. -/
def StreamsTold (app : BooApp) (id : ClientId) : Prop :=
  ∀ client, app.clients.value id = some client →
    client.runtimeView.subscribedToRuntime = true →
      ∀ state ∈ client.runtimeView.lastUiRuntimeStatePayload, ∀ tabId ∈ state.viewedTabId,
        (app.tabs.findIndexByTabId tabId).isSome →
        (∀ paneId, paneId ∈ state.visiblePaneIds ↔ paneId ∈ app.tabs.paneIdsForTab tabId) →
          Views app id tabId ∧
            ∃ result new, (final Action.step (publishRemoteTab tabId) app).clients.value id =
                some result ∧
              (streamOf result).queue = (streamOf client).queue ++ new ∧
              ∀ paneId ∈ state.visiblePaneIds, CarriesPane app paneId new

variable {id : ClientId}

theorem streamsTold_of_agrees {app : BooApp} (agrees : Holds app id Agrees) :
    StreamsTold app id := by
  intro client held subscribed state last tabId told _ _
  obtain ⟨viewed, visible⟩ := agrees client held state last tabId told
  obtain ⟨result, new, atEnd, queue, carries⟩ := publishRemoteTab_carries held subscribed viewed
  exact ⟨⟨client, held, subscribed, viewed⟩, result, new, atEnd, queue,
    fun paneId member => carries paneId (.inl (visible paneId member))⟩

/-- In every reachable state a client is sent what it was told it views, as long as the last
action of the run that told it of a view or changed its own left the two in agreement. -/
theorem streamsTold_after (appearance : UiAppearance) (terminalFrame : Rect)
    (hasLocalGuiServer hasRemoteServer : Bool) (steps : List Step) (id : ClientId)
    (agrees : standing (hearing id) true
      (actions steps (start appearance terminalFrame hasLocalGuiServer hasRemoteServer)) = true) :
    StreamsTold
      (after steps (start appearance terminalFrame hasLocalGuiServer hasRemoteServer)) id := by
  refine streamsTold_of_agrees ?_
  rw [← chainEnd_actions]
  exact @standing_chain _ _ Action.step (fun _ => True) (fun app => Holds app id Agrees)
    (fun _ _ => True) (hearing id) (fun _ _ _ _ => trivial)
    (fun app action ok _ _ => agrees_action app action ok) _ _ true
    (chain_actions steps _) trivial (fun _ _ => trivial)
    (fun _ _ held => by cases held) agrees

theorem streamsTold_after_twoViewers :
    StreamsTold (after twoViewers freshServer) 1 ∧ StreamsTold (after twoViewers freshServer) 2 :=
  ⟨streamsTold_after plainAppearance unitFrame true false twoViewers 1 (by decide +kernel),
    streamsTold_after plainAppearance unitFrame true false twoViewers 2 (by decide +kernel)⟩

/-- The client detaches, its view expires, and it attaches again. -/
def expiredView : List Step :=
  oneViewer ++ [.command (.remoteRuntimeAction 1 none (.detachView 0)), .sweep 30000,
    .command (.remoteRuntimeAction 1 none .attachView)]

/-- The client is told that it views the active tab, and no publication reaches it. -/
theorem expiredView_unsent :
    ¬ ∀ (steps : List Step) (id : ClientId), StreamsTold (after steps freshServer) id := by
  intro all
  have told : ((after expiredView freshServer).clients.value 1).map (fun client =>
      (client.runtimeView.subscribedToRuntime,
        client.runtimeView.lastUiRuntimeStatePayload.map fun state =>
          (state.viewedTabId, state.visiblePaneIds))) = some (true, some (some 1, [1])) := by
    decide +kernel
  have noView : ((after expiredView freshServer).clients.value 1).map (fun client =>
      client.runtimeView.viewedTabId) = some none := by
    decide +kernel
  obtain ⟨client, held, view⟩ := Option.map_eq_some_iff.mp told
  rw [Prod.mk.injEq, Option.map_eq_some_iff] at view
  obtain ⟨subscribed, state, last, view⟩ := view
  rw [Prod.mk.injEq] at view
  have panes : (after expiredView freshServer).tabs.paneIdsForTab 1 = [1] := by decide +kernel
  obtain ⟨⟨other, present, -, viewed⟩, -⟩ := all expiredView 1 client held subscribed state last 1
    view.1 (by decide +kernel) fun paneId => by rw [view.2, panes]
  rw [present, Option.map_some, viewed] at noView
  cases noView

end Streaming

end Boo.Server.ToldViews
