/- module: Boo/Server/PolledOutput
   digest: Which viewers of a pane an update serves with the output that it polls on Linux. -/

import Boo.Runtime.Exits
import Boo.Server.TabPublication
import Boo.Server.TabRuns

set_option autoImplicit false
set_option relaxedAutoImplicit false

namespace Boo.Server.PolledOutput

open Boo.Lib.Entries
open Boo.Lib.KeyedList
open Boo.Lib.Script
open Boo.Wire.Message
open Boo.Server.Frames
open Boo.Server.View
open Boo.Server.App
open Boo.Server.App.BooApp
open Boo.Server.Actions
open Boo.Server.Streams
open Boo.Server.Publishing
open Boo.Server.StreamSteps
open Boo.Server.StreamRuns
open Boo.Server.Handlers
open Boo.Server.InputRouting
open Boo.Server.TabPublication
open Boo.Server.TabRuns
open Boo.Runtime.Splits
open Boo.Runtime.Tabs
open Boo.Runtime.Tabs.TabManager
open Boo.Runtime.Ui
open Boo.Runtime.Exits

/-- The runtime once the exited panes of its active tab are closed. -/
def closeExited (rt : UiRuntime) : UiRuntime := (exitedPanes rt).foldl UiRuntime.closePaneById rt

section Polling

variable {rt : UiRuntime} {paneId : PaneId} {tabId : TabId}

theorem bare_pollPane (acc : UiRuntime × Bool) (pane : PaneId) :
    bare (pollPane acc pane).1 = bare acc.1 := by
  unfold pollPane
  cases held : acc.1.terminals pane with
  | none => rfl
  | some terminal =>
      dsimp only
      split
      · rfl
      · have same : (fun other => (Function.update acc.1.terminals pane
            (some { terminal with polled := some terminal.version }) other).map bareTerminal) =
            fun other => (acc.1.terminals other).map bareTerminal := by
          funext other
          by_cases mine : other = pane
          · subst mine
            rw [Function.update_self, held]
            rfl
          · rw [Function.update_of_ne mine]
        exact congrArg (fun terminals => ({ bare acc.1 with terminals := terminals } : UiRuntime))
          same

theorem bare_pollPanes (panes : List PaneId) (acc : UiRuntime × Bool) :
    bare (panes.foldl pollPane acc).1 = bare acc.1 :=
  List.foldlRecOn (motive := fun (other : UiRuntime × Bool) => bare other.1 = bare acc.1) panes _
    rfl fun other same pane _ => (bare_pollPane other pane).trans same

theorem bareTabs_setRunningCommandForPane (tabs : TabManager) (pane : PaneId)
    (runningCommand : Option (Option String)) :
    bareTabs (tabs.setRunningCommandForPane pane runningCommand) = bareTabs tabs := by
  have same : (tabs.tabs.map fun tab => if tab.tree.focusedPane = pane then
      { tab with runningCommand := runningCommand } else tab).map bareTab =
      tabs.tabs.map bareTab := by
    rw [List.map_map]
    refine List.map_congr_left fun tab _ => ?_
    rw [Function.comp_apply]
    split <;> rfl
  exact congrArg (fun list => ({ tabs with tabs := list } : TabManager)) same

theorem bareTabs_pollRunningCommands (tabs : TabManager) (panes : List PaneId)
    (reported : List (PaneId × Option String)) :
    bareTabs (pollRunningCommands tabs panes reported) = bareTabs tabs := by
  unfold pollRunningCommands
  refine List.foldlRecOn (motive := fun (other : TabManager) => bareTabs other = bareTabs tabs) _ _
    ?_ fun other same pane _ => (bareTabs_setRunningCommandForPane other _ _).trans same
  exact List.foldlRecOn (motive := fun (other : TabManager) => bareTabs other = bareTabs tabs) _ _
    rfl fun other same pane _ => (bareTabs_setRunningCommandForPane other _ _).trans same

theorem bareTabs_setActiveTitle (tabs : TabManager) (title : String) :
    bareTabs (tabs.setActiveTitle title) = bareTabs tabs := by
  have same : (tabs.tabs.modify tabs.active fun tab => { tab with title := title }).map bareTab =
      tabs.tabs.map bareTab :=
    map_modify_same tabs.tabs tabs.active fun _ => rfl
  exact congrArg (fun list => ({ tabs with tabs := list } : TabManager)) same

/-- A poll writes labels and versions, and closes the exited panes. -/
theorem bare_pollRuntime (outcome : PollOutcome) :
    bare (pollRuntime rt outcome).1 = bare (closeExited rt) := by
  unfold pollRuntime closeExited
  dsimp only
  rw [bare_closePanes, bare_closePanes]
  congr 1
  have commanded : bare (((polledPanes rt).foldl pollPane (rt, false)).1.updateTabs
      (pollRunningCommands · (polledPanes rt) outcome.runningCommands)) = bare rt :=
    (congrArg (fun tabs => ({ bare ((polledPanes rt).foldl pollPane (rt, false)).1 with
      tabs := tabs } : UiRuntime)) (bareTabs_pollRunningCommands _ _ _)).trans
        (bare_pollPanes _ (rt, false))
  refine Eq.trans ?_ commanded
  cases outcome.activeTitle with
  | none => rfl
  | some title =>
      exact congrArg (fun tabs => ({ bare (((polledPanes rt).foldl pollPane (rt, false)).1.updateTabs
        (pollRunningCommands · (polledPanes rt) outcome.runningCommands)) with
          tabs := tabs } : UiRuntime)) (bareTabs_setActiveTitle _ title)

theorem activeTabId_pollRuntime (outcome : PollOutcome) :
    (pollRuntime rt outcome).1.tabs.activeTabId = (closeExited rt).tabs.activeTabId := by
  rw [← activeTabId_bareTabs, ← activeTabId_bareTabs (closeExited rt).tabs]
  exact congrArg (fun other => UiRuntime.tabs other |>.activeTabId) (bare_pollRuntime outcome)

theorem dirty_pollRuntime (outcome : PollOutcome) :
    (pollRuntime rt outcome).1.dirtyRemoteTabs = rt.dirtyRemoteTabs :=
  (congrArg UiRuntime.dirtyRemoteTabs (bare_pollRuntime outcome)).trans
    (frees_closePanes (exitedPanes rt)).dirty

/-- A terminal either keeps its screen in a poll or is gone, with its pane. -/
theorem terminals_pollRuntime (outcome : PollOutcome) {terminal : Terminal}
    (held : rt.terminals paneId = some terminal) :
    ((pollRuntime rt outcome).1.terminals paneId).map Terminal.state =
      if ((closeExited rt).terminals paneId).isSome then some terminal.state else none := by
  have same : ((pollRuntime rt outcome).1.terminals paneId).map bareTerminal =
      ((closeExited rt).terminals paneId).map bareTerminal :=
    congrFun (congrArg UiRuntime.terminals (bare_pollRuntime outcome)) paneId
  have states := congrArg (Option.map Terminal.state) same
  rw [Option.map_map, Option.map_map] at states
  refine states.trans ?_
  rcases (frees_closePanes (exitedPanes rt)).terminals paneId with kept | gone
  · rw [closeExited, kept, held]
    rfl
  · rw [closeExited, gone]
    rfl

theorem remoteDirty_pollPane {acc : UiRuntime × Bool} (pane : PaneId) (dirty : acc.2 = true) :
    (pollPane acc pane).2 = true := by
  unfold pollPane
  split
  · exact dirty
  · dsimp only
    split
    · exact dirty
    · rfl

/-- A version that was not polled yet is noticed. -/
theorem remoteDirty_pollPanes {panes : List PaneId} {acc : UiRuntime × Bool} {terminal : Terminal}
    (member : paneId ∈ panes) (held : acc.1.terminals paneId = some terminal)
    (fresh : terminal.polled ≠ some terminal.version) : (panes.foldl pollPane acc).2 = true := by
  have stays : ∀ (panes : List PaneId) (acc : UiRuntime × Bool), acc.2 = true →
      (panes.foldl pollPane acc).2 = true := fun panes acc dirty =>
    List.foldlRecOn (motive := fun (other : UiRuntime × Bool) => other.2 = true) panes _ dirty
      fun _ dirty pane _ => remoteDirty_pollPane pane dirty
  induction panes generalizing acc with
  | nil => cases member
  | cons pane panes ih =>
      rw [List.foldl_cons]
      by_cases mine : paneId = pane
      · subst mine
        refine stays panes _ ?_
        unfold pollPane
        rw [held]
        dsimp only
        rw [if_neg fresh]
      · refine ih ((List.mem_cons.mp member).resolve_left mine) ?_
        unfold pollPane
        split
        · exact held
        · dsimp only
          split
          · exact held
          · exact (Function.update_of_ne mine _ _).trans held

/-- The poll finds something to publish where the tab that is active after it has new output. -/
theorem remoteDirty_pollRuntime (ok : IdsOk rt.tabs) (outcome : PollOutcome)
    {terminal : Terminal} (contains : paneId ∈ rt.tabs.paneIdsForTab tabId)
    (held : rt.terminals paneId = some terminal)
    (fresh : terminal.polled ≠ some terminal.version)
    (active : (closeExited rt).tabs.activeTabId = some tabId) :
    (pollRuntime rt outcome).2 = true := by
  unfold pollRuntime
  dsimp only
  cases exits : exitedPanes rt with
  | cons pane panes => simp
  | nil =>
      rw [closeExited, exits] at active
      have polled : paneId ∈ polledPanes rt := by
        rw [TabManager.paneIdsForTab, ok.findIndexByTabId active, Option.bind_some] at contains
        unfold polledPanes TabManager.activeTree
        cases tree : rt.tabs.tabTree rt.tabs.active with
        | none =>
            rw [tree] at contains
            cases contains
        | some tree' =>
            rw [tree, Option.map_some, Option.getD_some] at contains
            rw [Option.map_some, Option.getD_some, ← SplitTree.map_paneId_exportPanes]
            exact contains
      rw [remoteDirty_pollPanes polled held fresh]
      simp

end Polling

section Updating

variable {app : BooApp} {id : ClientId} {client : ClientState} {tabId : TabId} {paneId : PaneId}
  {terminal : Terminal}

/-- A subscribed client views a pane of its tab, whose worker has moved on to a version that the
server has not polled. -/
structure AwaitsOutput (app : BooApp) (client : ClientState) (tabId : TabId) (paneId : PaneId)
    (terminal : Terminal) : Prop where
  subscribed : client.runtimeView.subscribedToRuntime = true
  viewed : client.runtimeView.viewedTabId = some tabId
  visible : paneId ∈ client.runtimeView.visiblePaneIds
  contains : paneId ∈ app.tabs.paneIdsForTab tabId
  held : app.runtime.terminals paneId = some terminal
  fresh : terminal.polled ≠ some terminal.version

/-- The pane survives the closing of the exited panes, and its tab is active after that or was
dirty before. -/
def Updates (rt : UiRuntime) (tabId : TabId) (paneId : PaneId) : Prop :=
  ((closeExited rt).terminals paneId).isSome ∧
    (tabId ∈ rt.dirtyRemoteTabs ∨ (closeExited rt).tabs.activeTabId = some tabId)

instance (rt : UiRuntime) (tabId : TabId) (paneId : PaneId) : Decidable (Updates rt tabId paneId) :=
  inferInstanceAs (Decidable (_ ∧ _))

/-- `poll_backend`, and the publication of the tabs that are dirty then. -/
def update (outcome : PollOutcome) : List Step := [.poll outcome, .publishDirtyTabs]

theorem after_update (outcome : PollOutcome) :
    after (update outcome) app = final Action.step Handlers.publishDirtyTabs (app.poll outcome) := by
  rw [update, after_cons, after_cons]
  rfl

theorem hasSubscribers (known : app.clients.value id = some client)
    (subscribed : client.runtimeView.subscribedToRuntime = true) :
    app.hasRuntimeStreamSubscribers = true := by
  rw [hasRuntimeStreamSubscribers, List.any_eq_true]
  refine ⟨client, ?_, subscribed⟩
  rw [Keyed.takeAll, List.mem_filterMap]
  exact ⟨id, (Keyed.mem_order _ id).mpr (by rw [known]; rfl), known⟩

theorem terminals_poll (outcome : PollOutcome) :
    (app.poll outcome).runtime.terminals = (pollRuntime app.runtime outcome).1.terminals :=
  reading_step app UiRuntime.terminals (fun _ => rfl) (.poll outcome)

/-- The tabs that an update publishes. -/
theorem dirty_poll (ok : IdsOk app.tabs) (known : app.clients.value id = some client)
    (awaits : AwaitsOutput app client tabId paneId terminal) (outcome : PollOutcome) :
    tabId ∈ (app.poll outcome).runtime.dirtyRemoteTabs ↔
      tabId ∈ app.runtime.dirtyRemoteTabs ∨
        (closeExited app.runtime).tabs.activeTabId = some tabId := by
  have subscribers := hasSubscribers known awaits.subscribed
  have active := @activeTabId_pollRuntime app.runtime outcome
  have dirty := @dirty_pollRuntime app.runtime outcome
  rw [poll_eq]
  by_cases broadcasts : pollBroadcasts app outcome
  · rw [if_pos broadcasts]
    rw [pollBroadcasts, Bool.and_eq_true, Option.isNone_iff_eq_none, active] at broadcasts
    show tabId ∈ (pollRuntime app.runtime outcome).1.dirtyRemoteTabs ↔ _
    rw [dirty, broadcasts.2]
    simp
  · rw [if_neg broadcasts, subscribers, Bool.and_true]
    by_cases remoteDirty : (pollRuntime app.runtime outcome).2 = true
    · rw [if_pos remoteDirty]
      show tabId ∈ (pollRuntime app.runtime outcome).1.markActiveRemoteTabDirty.dirtyRemoteTabs ↔ _
      unfold UiRuntime.markActiveRemoteTabDirty
      rw [active]
      cases (closeExited app.runtime).tabs.activeTabId with
      | none => simp [dirty]
      | some other =>
          show tabId ∈ (if other ∈ (pollRuntime app.runtime outcome).1.dirtyRemoteTabs then _
            else _) ↔ _
          rw [dirty]
          split
          · rename_i already
            constructor
            · exact .inl
            · rintro (member | same)
              · exact member
              · cases same
                exact already
          · rw [List.mem_append, List.mem_singleton, Option.some.injEq, eq_comm (a := tabId)]
    · rw [if_neg remoteDirty]
      show tabId ∈ (pollRuntime app.runtime outcome).1.dirtyRemoteTabs ↔ _
      rw [dirty]
      constructor
      · exact .inl
      · rintro (member | isActive)
        · exact member
        · exact absurd (remoteDirty_pollRuntime ok outcome awaits.contains awaits.held awaits.fresh
            isActive) remoteDirty

/-- A poll may tell a client of its view, and sends it no screen. -/
theorem stream_poll (known : app.clients.value id = some client) (outcome : PollOutcome) :
    ∃ result told new, (app.poll outcome).clients.value id = some result ∧
      streamOf result = { streamOf client with
        told := told
        queue := (streamOf client).queue ++ new } ∧ ∀ sent ∈ new, ∃ state, sent = .told state := by
  have order : (app.poll outcome).clients.order = app.clients.order :=
    order_step app (.poll outcome) (by simp) (by simp)
  have connected : ((app.poll outcome).clients.value id).isSome := by
    rw [← Keyed.mem_order, order, Keyed.mem_order, known]
    rfl
  obtain ⟨result, atEnd⟩ := Option.isSome_iff_exists.mp connected
  obtain ⟨before, held, leads⟩ := becomes_poll app outcome id result atEnd
  cases known.symm.trans held
  refine ⟨result, ?_⟩
  have silent (same : streamOf result = streamOf client) :
      streamOf result = { streamOf client with
        told := (streamOf client).told
        queue := (streamOf client).queue ++ [] } := by
    rw [same, List.append_nil]
  rw [change] at leads
  split at leads
  · obtain ⟨state, -, same⟩ := leads
    replace same : streamOf result = (streamOf client).tell state := same
    unfold Stream.tell at same
    split at same
    · exact ⟨_, [], atEnd, silent same, fun _ member => by cases member⟩
    · refine ⟨some state, [.told state], atEnd, same, fun sent member => ?_⟩
      exact ⟨state, List.mem_singleton.mp member⟩
  · exact ⟨_, [], atEnd, silent leads, fun _ member => by cases member⟩

/-- Some message carries the screen. -/
def Queued (paneId : PaneId) (screen : Grid) (messages : List Sent) : Prop :=
  ∃ sent ∈ messages, Carries paneId screen sent

instance (paneId : PaneId) (screen : Grid) (messages : List Sent) :
    Decidable (Queued paneId screen messages) :=
  inferInstanceAs (Decidable (∃ sent ∈ messages, _))

theorem queued_append {screen : Grid} {first rest : List Sent} :
    Queued paneId screen (first ++ rest) ↔
      Queued paneId screen first ∨ Queued paneId screen rest := by
  simp only [Queued, List.mem_append, or_and_right, exists_or]

theorem not_queued_told {screen : Grid} {messages : List Sent}
    (told : ∀ sent ∈ messages, ∃ state, sent = .told state) : ¬ Queued paneId screen messages := by
  rintro ⟨sent, member, carries⟩
  obtain ⟨state, rfl⟩ := told sent member
  exact carries

/-- The update queues the client the new output exactly if it finds the tab dirty or active. -/
theorem update_queues_iff (ok : IdsOk app.tabs) (known : app.clients.value id = some client)
    (awaits : AwaitsOutput app client tabId paneId terminal) (outcome : PollOutcome) :
    ∃ result new, (after (update outcome) app).clients.value id = some result ∧
      (streamOf result).queue = (streamOf client).queue ++ new ∧
      (Queued paneId terminal.state new ↔ Updates app.runtime tabId paneId) := by
  obtain ⟨mid, told, heard, atMid, view, onlyTold⟩ := stream_poll known outcome
  have subscribed : mid.runtimeView.subscribedToRuntime = true :=
    (congrArg Stream.subscribed view).trans awaits.subscribed
  have viewed : mid.runtimeView.viewedTabId = some tabId :=
    (congrArg Stream.viewed view).trans awaits.viewed
  have visible : paneId ∈ (streamOf mid).visible := by
    rw [view]
    exact awaits.visible
  obtain ⟨result, new, atEnd, reaches⟩ := reaches_publishDirtyTabs atMid subscribed viewed
  have kept := terminals_pollRuntime outcome awaits.held
  rw [← terminals_poll] at kept
  rw [after_update]
  refine ⟨result, heard ++ new, atEnd, ?_, ?_⟩
  · obtain ⟨_, _, same⟩ := reaches.view
    rw [same, view, List.append_assoc]
  · rw [queued_append, or_iff_right (not_queued_told onlyTold), Updates,
      ← dirty_poll ok known awaits outcome]
    constructor
    · rintro ⟨sent, member, carries⟩
      have dirty : tabId ∈ (app.poll outcome).runtime.dirtyRemoteTabs := by
        by_contra idle
        rw [reaches.quiet idle] at member
        cases member
      obtain ⟨other, shown, present, carries'⟩ := reaches.origin sent member
      cases carries'.pane_unique carries
      replace present : (app.poll outcome).runtime.terminals paneId = some shown := present
      refine ⟨?_, dirty⟩
      by_contra gone
      rw [if_neg gone, present] at kept
      cases kept
    · rintro ⟨survives, dirty⟩
      rw [if_pos survives, Option.map_eq_some_iff] at kept
      obtain ⟨shown, present, same⟩ := kept
      obtain ⟨sent, member, carries⟩ := reaches.carries dirty paneId (.inl visible) shown present
      exact ⟨sent, member, same ▸ carries⟩

end Updating

section Runs

theorem idsOk_start (appearance : UiAppearance) (terminalFrame : Rect)
    (hasLocalGuiServer hasRemoteServer : Bool) :
    IdsOk (start appearance terminalFrame hasLocalGuiServer hasRemoteServer).tabs :=
  ⟨List.nodup_nil, fun _ member => by cases member⟩

/-- In every reachable state, for a client that views a pane with new output, of which `since` was
queued since it came: the next update leaves the output queued exactly if it was queued already,
or the update finds the tab dirty or active and the pane open. -/
theorem newOutput_queued_iff (appearance : UiAppearance) (terminalFrame : Rect)
    (hasLocalGuiServer hasRemoteServer : Bool) (steps : List Step) (outcome : PollOutcome)
    (id : ClientId) (tabId : TabId) (paneId : PaneId) (client : ClientState) (terminal : Terminal)
    (earlier since : List Sent)
    (known : (after steps
      (start appearance terminalFrame hasLocalGuiServer hasRemoteServer)).clients.value id =
        some client)
    (awaits : AwaitsOutput (after steps
      (start appearance terminalFrame hasLocalGuiServer hasRemoteServer)) client tabId paneId
        terminal)
    (queue : (streamOf client).queue = earlier ++ since) :
    ∃ result new, (after (steps ++ update outcome)
        (start appearance terminalFrame hasLocalGuiServer hasRemoteServer)).clients.value id =
          some result ∧
      (streamOf result).queue = earlier ++ new ∧
      (Queued paneId terminal.state new ↔ Queued paneId terminal.state since ∨
        Updates (after steps
          (start appearance terminalFrame hasLocalGuiServer hasRemoteServer)).runtime
            tabId paneId) := by
  rw [after_append]
  obtain ⟨result, new, atEnd, sent, served⟩ := update_queues_iff
    (idsOk_after steps (idsOk_start appearance terminalFrame hasLocalGuiServer hasRemoteServer))
    known awaits outcome
  refine ⟨result, since ++ new, atEnd, ?_, ?_⟩
  · rw [sent, queue, List.append_assoc]
  · rw [queued_append, served]

/-- The worker of pane 1 changes a cell on the screen of `oneViewer`. -/
def typed : Grid :=
  smallScreen 0 0 0 65

def quiet : PollOutcome := ⟨[], none, none⟩

theorem awaits_typed {app : BooApp}
    (shown : (app.clients.value 1).map (fun client => (client.runtimeView.subscribedToRuntime,
      client.runtimeView.viewedTabId, client.runtimeView.visiblePaneIds)) = some (true, some 1, [1]))
    (output : (app.runtime.terminals 1).map (fun terminal =>
      (terminal.state, decide (terminal.polled = some terminal.version))) = some (typed, false))
    (contains : 1 ∈ app.tabs.paneIdsForTab 1) :
    ∃ client terminal, app.clients.value 1 = some client ∧
      AwaitsOutput app client 1 1 terminal ∧ terminal.state = typed := by
  obtain ⟨client, known, view⟩ := Option.map_eq_some_iff.mp shown
  obtain ⟨terminal, held, worker⟩ := Option.map_eq_some_iff.mp output
  rw [Prod.mk.injEq, Prod.mk.injEq] at view
  rw [Prod.mk.injEq] at worker
  obtain ⟨subscribed, viewed, visible⟩ := view
  have listed : (1 : PaneId) ∈ client.runtimeView.visiblePaneIds := by
    rw [visible]
    exact List.mem_singleton_self 1
  exact ⟨client, terminal, known, ⟨subscribed, viewed, listed, contains, held,
    of_decide_eq_false worker.2⟩, worker.1⟩

def typing : List Step := oneViewer ++ [.output 1 typed ""]

theorem newOutput_queued_iff_typing : ∃ client result new,
    (after typing freshServer).clients.value 1 = some client ∧
      (after (typing ++ update quiet) freshServer).clients.value 1 = some result ∧
        (streamOf result).queue = (streamOf client).queue ++ new ∧ Queued 1 typed new := by
  obtain ⟨client, terminal, known, awaits, same⟩ :=
    @awaits_typed (after typing freshServer) (by decide +kernel) (by decide +kernel)
      (by decide +kernel)
  obtain ⟨result, new, atEnd, queue, served⟩ := newOutput_queued_iff plainAppearance unitFrame true
    false typing quiet 1 1 1 client terminal (streamOf client).queue [] known awaits
      (List.append_nil _).symm
  rw [same] at served
  have updates : Updates (after typing freshServer).runtime 1 1 := by decide +kernel
  exact ⟨client, result, new, known, atEnd, queue, served.mpr (.inr updates)⟩

/-- Wherever a client views new output, the update leaves it queued. -/
def ServesOutput (app : BooApp) (outcome : PollOutcome) : Prop :=
  ∀ id client tabId paneId terminal, app.clients.value id = some client →
    AwaitsOutput app client tabId paneId terminal →
      ∃ result, (after (update outcome) app).clients.value id = some result ∧
        Queued paneId terminal.state (streamOf result).queue

/-- Another command opens tab 2, and then pane 1 has output. -/
def switchedTab : List Step :=
  oneViewer ++ [.command (.newTab (some (blankPane ⟨2, live_two⟩))), .publishDirtyTabs,
    .output 1 typed ""]

/-- Client 1 still views tab 1, which the update does not poll. -/
theorem switchedTab_unserved :
    ¬ ∀ (steps : List Step) (outcome : PollOutcome),
      ServesOutput (after steps freshServer) outcome := by
  intro all
  obtain ⟨client, terminal, known, awaits, same⟩ :=
    @awaits_typed (after switchedTab freshServer) (by decide +kernel) (by decide +kernel)
      (by decide +kernel)
  have unsent : ((after (update quiet) (after switchedTab freshServer)).clients.value 1).map
      (fun result => decide (Queued 1 typed (streamOf result).queue)) = some false := by
    decide +kernel
  obtain ⟨result, atEnd, queued⟩ := all switchedTab quiet 1 client 1 1 terminal known awaits
  rw [same] at queued
  rw [atEnd, Option.map_some, decide_eq_true queued] at unsent
  cases unsent

end Runs

end Boo.Server.PolledOutput
