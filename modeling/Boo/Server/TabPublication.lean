/- module: Boo/Server/TabPublication
   digest: The publication of a tab queues every viewer the screens of its panes. -/

import Boo.Server.StreamRuns
import Mathlib.Data.List.Forall2

set_option autoImplicit false
set_option relaxedAutoImplicit false

namespace Boo.Server.TabPublication

open Boo.Lib.Entries
open Boo.Lib.KeyedList
open Boo.Lib.Script
open Boo.Wire.Message
open Boo.Server.Frames
open Boo.Server.View
open Boo.Server.RowCache
open Boo.Server.App
open Boo.Server.App.BooApp
open Boo.Server.Actions
open Boo.Server.Streams
open Boo.Server.Publishing
open Boo.Server.StreamSteps
open Boo.Server.StreamRuns
open Boo.Server.Handlers
open Boo.Runtime.Splits
open Boo.Runtime.Tabs
open Boo.Runtime.Ui

/-- A message with the screen of a pane. -/
def Carries (paneId : PaneId) (screen : Grid) : Sent → Prop
  | .told _ => False
  | .screen source _ update => source = paneId ∧ SameScreen (updateState update) screen
  | .pane header update => header.paneId = paneId ∧ SameScreen (updateState update) screen

instance (paneId : PaneId) (screen : Grid) (sent : Sent) : Decidable (Carries paneId screen sent) :=
  match sent with
  | .told _ => inferInstanceAs (Decidable False)
  | .screen _ _ _ | .pane _ _ => inferInstanceAs (Decidable (_ ∧ (_ : RemoteFullState) = _))

/-- The screen that a pane has in `app`, if any, is among the messages. -/
def CarriesPane (app : BooApp) (paneId : PaneId) (messages : List Sent) : Prop :=
  ∀ terminal, app.runtime.terminals paneId = some terminal →
    ∃ sent ∈ messages, Carries paneId terminal.state sent

theorem CarriesPane.append_left {app : BooApp} {paneId : PaneId} {messages : List Sent}
    (carries : CarriesPane app paneId messages) (more : List Sent) :
    CarriesPane app paneId (messages ++ more) := by
  intro terminal held
  obtain ⟨sent, member, carried⟩ := carries terminal held
  exact ⟨sent, List.mem_append_left _ member, carried⟩

theorem CarriesPane.append_right {app : BooApp} {paneId : PaneId} {messages : List Sent}
    (carries : CarriesPane app paneId messages) (earlier : List Sent) :
    CarriesPane app paneId (earlier ++ messages) := by
  intro terminal held
  obtain ⟨sent, member, carried⟩ := carries terminal held
  exact ⟨sent, List.mem_append_right _ member, carried⟩

section Sending

theorem carries_send (stream : Stream) (send : Send) (subscribed : stream.subscribed = true) :
    ∃ sent, (Stream.send stream send).queue = stream.queue ++ [sent] ∧
      Carries send.source send.state sent := by
  cases send with
  | screen source state =>
      refine ⟨.screen source stream.inputSeq (nextUpdate stream.lastState state), ?_, rfl, ?_⟩
      · show (stream.sendScreen source state).queue = _
        rw [Stream.sendScreen, if_pos subscribed]
        rfl
      · rw [updateState_nextUpdate]
        rfl
  | pane header state =>
      refine ⟨.pane header (nextUpdate (stream.paneStates header.paneId) state), ?_, rfl, ?_⟩
      · show (stream.sendPane header state).queue = _
        rw [Stream.sendPane, if_pos subscribed]
        rfl
      · rw [updateState_nextUpdate]
        rfl

/-- A subscribed stream queues everything it is sent, and nothing else. -/
theorem carries_sends (sends : List Send) (stream : Stream)
    (subscribed : stream.subscribed = true) :
    ∃ new, (sends.foldl Stream.send stream).queue = stream.queue ++ new ∧
      List.Forall₂ (fun send sent => Carries send.source send.state sent) sends new := by
  induction sends generalizing stream with
  | nil => exact ⟨[], (List.append_nil _).symm, .nil⟩
  | cons send sends ih =>
      obtain ⟨first, queue, carried⟩ := carries_send stream send subscribed
      obtain ⟨new, _, _, -, same⟩ := sends_send stream send
      have still : (Stream.send stream send).subscribed = true := by
        rw [same]
        exact subscribed
      obtain ⟨rest, queues, carries⟩ := ih (Stream.send stream send) still
      refine ⟨first :: rest, ?_, .cons carried carries⟩
      rw [List.foldl_cons, queues, queue, List.append_assoc, List.singleton_append]

theorem Carries.congr {paneId : PaneId} {screen other : Grid} {sent : Sent}
    (carries : Carries paneId screen sent) (same : SameScreen screen other) :
    Carries paneId other sent := by
  cases sent with
  | told state => exact carries
  | screen source latestInputSeq update => exact ⟨carries.1, SameScreen.trans carries.2 same⟩
  | pane header update => exact ⟨carries.1, SameScreen.trans carries.2 same⟩

/-- A message carries the screen of one pane only. -/
theorem Carries.pane_unique {paneId other : PaneId} {screen otherScreen : Grid} {sent : Sent}
    (carries : Carries paneId screen sent) (carries' : Carries other otherScreen sent) :
    paneId = other := by
  cases sent with
  | told state => exact absurd carries (fun none => none)
  | screen source latestInputSeq update => exact carries.1.symm.trans carries'.1
  | pane header update => exact carries.1.symm.trans carries'.1

variable {app : BooApp} {stream : Stream} {tabId : TabId} {sends : List Send} {new : List Sent}

theorem carriesPane_of_publication (publication : Publication app stream tabId sends)
    (carries : List.Forall₂ (fun send sent => Carries send.source send.state sent) sends new)
    {paneId : PaneId}
    (shown : paneId ∈ stream.visible ∨ focusSent app.tabs stream tabId = some paneId) :
    CarriesPane app paneId new := by
  intro terminal held
  obtain ⟨send, member, source⟩ := publication.covers paneId shown (by rw [held]; rfl)
  obtain ⟨terminal', held', screen⟩ := publication.current send member
  rw [source] at held'
  cases held.symm.trans held'
  obtain ⟨sent, inNew, carried⟩ := exists_of_forall₂ carries member
  exact ⟨sent, inNew, source ▸ carried.congr screen⟩

/-- A message with the screen that some pane has in `app`. -/
def OfTerminal (app : BooApp) (sent : Sent) : Prop :=
  ∃ paneId terminal, app.runtime.terminals paneId = some terminal ∧
    Carries paneId terminal.state sent

theorem ofTerminal_of_publication (publication : Publication app stream tabId sends)
    (carries : List.Forall₂ (fun send sent => Carries send.source send.state sent) sends new)
    {sent : Sent} (member : sent ∈ new) : OfTerminal app sent := by
  have back : List.Forall₂ (fun sent send => Carries send.source send.state sent) new sends :=
    List.Forall₂.flip carries
  obtain ⟨send, inSends, carried⟩ := exists_of_forall₂ back member
  obtain ⟨terminal, held, screen⟩ := publication.current send inSends
  exact ⟨send.source, terminal, held, carried.congr screen⟩

end Sending

section Publishing

variable {app : BooApp} {id : ClientId} {tabId : TabId}

/-- What publications make of one viewer of the tab, of which `served` says whether they
include its own. -/
structure Reaches (app after : BooApp) (before result : Stream) (served : Prop) (tabId : TabId)
    (new : List Sent) : Prop where
  runtime : after.runtime = app.runtime
  view : ∃ lastState paneStates, result = { before with
    lastState := lastState
    paneStates := paneStates
    queue := before.queue ++ new }
  carries : served → ∀ paneId, paneId ∈ before.visible ∨
    focusSent app.tabs before tabId = some paneId → CarriesPane app paneId new
  origin : ∀ sent ∈ new, OfTerminal app sent
  quiet : ¬ served → new = []

theorem Reaches.untouched {after : BooApp} {before result : Stream} {served : Prop}
    (runtime : after.runtime = app.runtime) (same : result = before) (others : ¬ served) :
    Reaches app after before result served tabId [] :=
  ⟨runtime, ⟨before.lastState, before.paneStates, by rw [same, List.append_nil]⟩,
    fun mine => absurd mine others, fun _ member => (by cases member), fun _ => rfl⟩

theorem reaches_publishTo {client : ClientState} (held : app.clients.value id = some client)
    (subscribed : client.runtimeView.subscribedToRuntime = true)
    (viewed : client.runtimeView.viewedTabId = some tabId) (target : ClientId)
    (published : TabId) :
    ∃ result new, (app.publishTo target published).clients.value id = some result ∧
      Reaches app (app.publishTo target published) (streamOf client) (streamOf result)
        ((id, tabId) = (target, published)) tabId new := by
  have present : ((app.publishTo target published).clients.value id).isSome := by
    rw [← Keyed.mem_order, order_publishTo, Keyed.mem_order, held]
    rfl
  obtain ⟨result, atEnd⟩ := Option.isSome_iff_exists.mp present
  have runtime := runtime_publishTo app target published
  by_cases views : Views app target published
  · obtain ⟨other, present, subscribes, names⟩ := views
    obtain ⟨sends, served, publication⟩ :=
      served_publishTo app target published present subscribes names
    obtain ⟨before, heldBefore, became⟩ := served.becomes id result atEnd
    cases held.symm.trans heldBefore
    by_cases mine : id = target
    · subst mine
      cases held.symm.trans present
      cases viewed.symm.trans names
      rw [if_pos rfl] at became
      obtain ⟨new, queue, carries⟩ := carries_sends sends (streamOf client) subscribed
      obtain ⟨queued, lastState, paneStates, -, same⟩ := sends_foldl sends (streamOf client)
      refine ⟨result, new, atEnd, runtime, ⟨lastState, paneStates, ?_⟩, fun _ paneId shown =>
        carriesPane_of_publication publication carries shown, fun sent member =>
        ofTerminal_of_publication publication carries member, fun idle => absurd rfl idle⟩
      rw [same] at queue
      rw [became, same, List.append_cancel_left queue]
    · rw [if_neg mine] at became
      exact ⟨result, [], atEnd, .untouched runtime became fun same => mine (congrArg Prod.fst same)⟩
  · have idle : ¬ (id, tabId) = (target, published) := by
      rintro ⟨⟩
      exact views ⟨client, held, subscribed, viewed⟩
    have same : streamOf result = streamOf client := by
      rw [publishTo_of_not_views views] at atEnd
      cases held.symm.trans atEnd
      rfl
    exact ⟨result, [], atEnd, .untouched runtime same idle⟩

/-- One publication after the other, each of a tab to a client. -/
def publishAll (publications : List (ClientId × TabId)) (app : BooApp) : BooApp :=
  publications.foldl (fun app publication => app.publishTo publication.1 publication.2) app

theorem reaches_publishAll (publications : List (ClientId × TabId)) {client : ClientState}
    (held : app.clients.value id = some client)
    (subscribed : client.runtimeView.subscribedToRuntime = true)
    (viewed : client.runtimeView.viewedTabId = some tabId) :
    ∃ result new, (publishAll publications app).clients.value id = some result ∧
      Reaches app (publishAll publications app) (streamOf client) (streamOf result)
        ((id, tabId) ∈ publications) tabId new := by
  induction publications generalizing app client with
  | nil => exact ⟨client, [], held, .untouched rfl rfl fun member => (by cases member)⟩
  | cons publication publications ih =>
      obtain ⟨target, published⟩ := publication
      obtain ⟨mid, first, atMid, runtime, ⟨_, _, same⟩, carries, origin, quiet⟩ :=
        reaches_publishTo held subscribed viewed target published
      have subscribed' : mid.runtimeView.subscribedToRuntime = true :=
        (congrArg Stream.subscribed same).trans subscribed
      have viewed' : mid.runtimeView.viewedTabId = some tabId :=
        (congrArg Stream.viewed same).trans viewed
      obtain ⟨result, rest, atEnd, runtime', ⟨lastState, paneStates, same'⟩, carries', origin',
        quiet'⟩ := ih atMid subscribed' viewed'
      have tabs : (app.publishTo target published).tabs = app.tabs :=
        congrArg UiRuntime.tabs runtime
      refine ⟨result, first ++ rest, atEnd, runtime'.trans runtime, ⟨lastState, paneStates, ?_⟩,
        fun member paneId shown => ?_, fun sent member => ?_, fun idle => ?_⟩
      · rw [same', same, List.append_assoc]
      · by_cases mine : (id, tabId) = (target, published)
        · exact (carries mine paneId shown).append_left rest
        · have later := (List.mem_cons.mp member).resolve_left mine
          have shown' : paneId ∈ (streamOf mid).visible ∨
              focusSent (app.publishTo target published).tabs (streamOf mid) tabId =
                some paneId := by
            rw [same, tabs]
            exact shown
          refine CarriesPane.append_right (fun terminal there => ?_) first
          rw [← runtime] at there
          exact carries' later paneId shown' terminal there
      · rcases List.mem_append.mp member with member | member
        · exact origin sent member
        · have late := origin' sent member
          rwa [OfTerminal, runtime] at late
      · rw [List.mem_cons, not_or] at idle
        rw [quiet idle.1, quiet' idle.2]
        rfl

/-- `publish_remote_tab` goes through all clients. -/
theorem final_publishRemoteTab (app : BooApp) (tabId : TabId) :
    final Action.step (publishRemoteTab tabId) app =
      publishAll (app.clients.order.map fun target => (target, tabId)) app := by
  rw [publishRemoteTab, final_bind, result_current, final_current, publishAll, List.foldl_map]
  exact final_forM Action.step (fun target => .publishTo target tabId) _ app

/-- The publication of a tab queues each subscribed viewer the screens of all panes that its view
lists. -/
theorem publishRemoteTab_carries {client : ClientState} (held : app.clients.value id = some client)
    (subscribed : client.runtimeView.subscribedToRuntime = true)
    (viewed : client.runtimeView.viewedTabId = some tabId) :
    ∃ result new, (final Action.step (publishRemoteTab tabId) app).clients.value id =
        some result ∧ (streamOf result).queue = (streamOf client).queue ++ new ∧
      ∀ paneId, paneId ∈ client.runtimeView.visiblePaneIds ∨
        focusSent app.tabs (streamOf client) tabId = some paneId → CarriesPane app paneId new := by
  rw [final_publishRemoteTab]
  obtain ⟨result, new, atEnd, -, ⟨_, _, same⟩, carries, -, -⟩ :=
    reaches_publishAll (app.clients.order.map fun target => (target, tabId)) held subscribed viewed
  have listed : id ∈ app.clients.order := (Keyed.mem_order _ id).mpr (by rw [held]; rfl)
  exact ⟨result, new, atEnd, congrArg Stream.queue same,
    carries (List.mem_map.mpr ⟨id, listed, rfl⟩)⟩

@[simp] theorem order_publishAll (publications : List (ClientId × TabId)) (app : BooApp) :
    (publishAll publications app).clients.order = app.clients.order :=
  List.foldlRecOn (motive := fun (after : BooApp) => after.clients.order = app.clients.order) _ _
    rfl fun after same _ _ => (order_publishTo after _ _).trans same

/-- The tabs one after the other, each to all clients. -/
theorem final_publishTabs (tabIds : List TabId) (app : BooApp) :
    final Action.step (tabIds.forM publishRemoteTab) app =
      publishAll (tabIds.flatMap fun tabId => app.clients.order.map fun target => (target, tabId))
        app := by
  induction tabIds generalizing app with
  | nil => rfl
  | cons tabId tabIds ih =>
      show final Action.step (publishRemoteTab tabId >>= fun _ => tabIds.forM publishRemoteTab) app
        = _
      rw [final_bind, final_publishRemoteTab, ih, order_publishAll, List.flatMap_cons, publishAll,
        publishAll, publishAll, List.foldl_append]

/-- The last part of an update reaches the viewers of the dirty tabs. -/
theorem reaches_publishDirtyTabs {client : ClientState}
    (held : app.clients.value id = some client)
    (subscribed : client.runtimeView.subscribedToRuntime = true)
    (viewed : client.runtimeView.viewedTabId = some tabId) :
    ∃ result new, (final Action.step Handlers.publishDirtyTabs app).clients.value id =
        some result ∧
      Reaches (Action.takeDirtyTabs.step app) (final Action.step Handlers.publishDirtyTabs app)
        (streamOf client) (streamOf result) (tabId ∈ app.runtime.dirtyRemoteTabs) tabId new := by
  have all : final Action.step Handlers.publishDirtyTabs app =
      publishAll (app.runtime.dirtyRemoteTabs.flatMap fun tabId =>
        app.clients.order.map fun target => (target, tabId)) (Action.takeDirtyTabs.step app) := by
    rw [Handlers.publishDirtyTabs, final_bind, final_bind, result_current, final_current,
      final_perform, final_publishTabs]
    rfl
  have listed : id ∈ app.clients.order := (Keyed.mem_order _ id).mpr (by rw [held]; rfl)
  have served : (id, tabId) ∈ app.runtime.dirtyRemoteTabs.flatMap (fun tabId =>
      app.clients.order.map fun target => (target, tabId)) ↔
        tabId ∈ app.runtime.dirtyRemoteTabs := by
    simp [listed]
  obtain ⟨result, new, atEnd, reaches⟩ := @reaches_publishAll (Action.takeDirtyTabs.step app) id
    tabId (app.runtime.dirtyRemoteTabs.flatMap fun tabId =>
      app.clients.order.map fun target => (target, tabId)) client held subscribed viewed
  rw [served] at reaches
  rw [all]
  exact ⟨result, new, atEnd, reaches⟩

end Publishing

end Boo.Server.TabPublication
