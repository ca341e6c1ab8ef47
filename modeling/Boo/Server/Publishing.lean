/- module: Boo/Server/Publishing
   digest: What publish_remote_tab sends to one client, on the stream of that client. -/

import Boo.Server.App
import Boo.Server.Streams

set_option autoImplicit false
set_option relaxedAutoImplicit false

namespace Boo.Server.Publishing

open Boo.Lib.KeyedList
open Boo.Wire.Message
open Boo.Server.Frames
open Boo.Server.View
open Boo.Server.RowCache
open Boo.Server.App
open Boo.Server.App.BooApp
open Boo.Server.Streams
open Boo.Runtime.Splits
open Boo.Runtime.Tabs
open Boo.Runtime.Ui

/-- One screen that a publication sends. -/
inductive Send
  | screen (source : PaneId) (state : Grid)
  | pane (header : PaneHeader) (state : Grid)

def Stream.send (stream : Stream) : Send → Stream
  | .screen source state => stream.sendScreen source state
  | .pane header state => stream.sendPane header state

def Send.source : Send → PaneId
  | screen source _ => source
  | pane header _ => header.paneId

def Send.state : Send → Grid
  | screen _ state => state
  | pane _ state => state

/-- A send that shows the screen its pane has in `app`. -/
def Send.Shows (app : BooApp) (send : Send) : Prop :=
  ∃ terminal, app.runtime.terminals send.source = some terminal ∧
    SameScreen send.state terminal.state

/-- The pane whose screen a viewer of the tab is sent. -/
def focusSent (tabs : TabManager) (stream : Stream) (tabId : TabId) : Option PaneId :=
  (stream.focused.filter (· ∈ stream.visible)).or (tabs.defaultFocusedPaneForTab tabId)

/-- What `publish_remote_tab` sends to a viewer of the tab. -/
structure Publication (app : BooApp) (stream : Stream) (tabId : TabId) (sends : List Send) :
    Prop where
  focus : ∀ source state, .screen source state ∈ sends →
    focusSent app.tabs stream tabId = some source
  panes : ∀ header state, .pane header state ∈ sends →
    header.paneId ∈ stream.visible ∧ focusSent app.tabs stream tabId ≠ some header.paneId ∧
      header.runtimeRevision = app.runtimeRevision
  current : ∀ send ∈ sends, send.Shows app
  covers : ∀ paneId, (paneId ∈ stream.visible ∨
      focusSent app.tabs stream tabId = some paneId) →
    (app.runtime.terminals paneId).isSome → ∃ send ∈ sends, send.source = paneId
  once : stream.visible.Nodup → (sends.map Send.source).Nodup

section Clients

variable (app : BooApp) (id : ClientId)

@[simp] theorem clients_updateRuntime (update : UiRuntime → UiRuntime) :
    (app.updateRuntime update).clients = app.clients := rfl

@[simp] theorem value_updateClient (target : ClientId) (update : ClientState → ClientState) :
    (app.updateClient target update).clients.value id =
      (app.clients.value id).map fun client => if id = target then update client else client := rfl

@[simp] theorem value_updateClientView (target : ClientId)
    (update : ClientRuntimeView → ClientRuntimeView) :
    (app.updateClientView target update).clients.value id =
      (app.clients.value id).map fun client =>
        if id = target then client.updateView update else client := rfl

@[simp] theorem value_updateClients (update : ClientId → ClientState → ClientState) :
    (app.updateClients update).clients.value id = (app.clients.value id).map (update id) := rfl

@[simp] theorem runtime_broadcast : app.broadcast.runtime = app.withRemoteTabs.runtime := rfl

end Clients

/-- What becomes of client `id` from one state to another. -/
def Becomes (app after : BooApp) (id : ClientId) (relates : ClientState → Stream → Prop) : Prop :=
  ∀ result, after.clients.value id = some result →
    ∃ client, app.clients.value id = some client ∧ relates client (streamOf result)

section Becoming

variable {app after : BooApp} {id : ClientId} {relates : ClientState → Stream → Prop}

theorem Becomes.of_map {update : ClientState → ClientState}
    (value : after.clients.value id = (app.clients.value id).map update)
    (all : ∀ client, relates client (streamOf (update client))) :
    Becomes app after id relates := by
  intro result held
  rw [value, Option.map_eq_some_iff] at held
  obtain ⟨client, before, rfl⟩ := held
  exact ⟨client, before, all client⟩

theorem Becomes.comp {mid : BooApp} {first : ClientState → Stream → Prop}
    (next : Stream → Stream → Prop) (led : Becomes app mid id first)
    (leads : Becomes mid after id fun client => next (streamOf client))
    (all : ∀ client between result, first client between → next between result →
      relates client result) :
    Becomes app after id relates := by
  intro result held
  obtain ⟨between, atMid, last⟩ := leads result held
  obtain ⟨client, before, early⟩ := led between atMid
  exact ⟨client, before, all client _ _ early last⟩

end Becoming

/-- From `app` to `after`, `sends` went to client `target`, and nothing else that matters
happened. -/
structure Served (app : BooApp) (target : ClientId) (sends : List Send) (after : BooApp) :
    Prop where
  runtime : after.runtime = app.runtime
  revision : after.runtimeRevision = app.runtimeRevision
  becomes : ∀ id, Becomes app after id fun client result =>
    result = if id = target then sends.foldl Stream.send (streamOf client) else streamOf client

section Serving

variable {app mid after : BooApp} {target : ClientId}

theorem Served.refl (app : BooApp) (target : ClientId) : Served app target [] app := by
  refine ⟨rfl, rfl, fun id result held => ⟨result, held, ?_⟩⟩
  split <;> rfl

theorem Served.trans {first next : List Send} (served : Served app target first mid)
    (serves : Served mid target next after) : Served app target (first ++ next) after := by
  refine ⟨serves.runtime.trans served.runtime, serves.revision.trans served.revision, ?_⟩
  intro id
  refine (served.becomes id).comp (fun between result =>
    result = if id = target then next.foldl Stream.send between else between)
    (serves.becomes id) ?_
  intro client between result early last
  subst early
  rw [last]
  split
  · rw [List.foldl_append]
  · rfl

/-- The state that is sent of a pane is its current screen, under the retained row ids. -/
theorem remoteFullStateForPane_eq (app : BooApp) (paneId : PaneId) :
    (app.runtime.terminals paneId = none ∧ app.remoteFullStateForPane paneId = (none, app)) ∨
      ∃ terminal state caches, app.runtime.terminals paneId = some terminal ∧
        SameScreen state terminal.state ∧
        app.remoteFullStateForPane paneId = (some state, { app with
          paneRowCaches := caches }) := by
  unfold remoteFullStateForPane
  cases held : app.runtime.terminals paneId with
  | none => exact .inl ⟨rfl, rfl⟩
  | some terminal =>
      exact .inr ⟨terminal, _, _, rfl, sameScreen_applyRowCacheMetadata _ _, rfl⟩

theorem served_publishFocusedPane (app : BooApp) (target : ClientId) (paneId : PaneId) :
    ∃ sends, Served app target sends (app.publishFocusedPane target paneId) ∧
      (∀ send ∈ sends, (∃ state, send = .screen paneId state) ∧ send.Shows app) ∧
      ((app.runtime.terminals paneId).isSome → ∃ send ∈ sends, send.source = paneId) ∧
        (sends.map Send.source).Sublist [paneId] := by
  unfold publishFocusedPane
  rcases remoteFullStateForPane_eq app paneId with
    ⟨gone, same⟩ | ⟨terminal, state, caches, held, shown, same⟩
  · rw [same]
    refine ⟨[], Served.refl app target, fun send member => (by cases member), fun present => ?_,
      List.nil_sublist _⟩
    rw [gone] at present
    cases present
  · rw [same]
    refine ⟨[.screen paneId state], ⟨rfl, rfl, fun id => ?_⟩, ?_, ?_, List.Sublist.refl _⟩
    · refine Becomes.of_map (value_updateClient _ id target _) fun client => ?_
      split
      · exact streamOf_sendStateToClient client paneId state
      · rfl
    · intro send member
      rw [List.mem_singleton] at member
      subst member
      exact ⟨⟨state, rfl⟩, terminal, held, shown⟩
    · exact fun _ => ⟨_, List.mem_singleton_self _, rfl⟩

theorem paneTerminalRevision_eq (app : BooApp) (paneId : PaneId) (state : Grid) :
    ∃ revision revisions, app.paneTerminalRevision paneId state = (revision, { app with
      paneTerminalRevisions := revisions }) := by
  unfold paneTerminalRevision
  split
  · split
    · exact ⟨_, _, rfl⟩
    · exact ⟨_, _, rfl⟩
  · exact ⟨_, _, rfl⟩

theorem served_publishVisiblePane (app : BooApp) (target : ClientId) (tabId : TabId)
    (paneId : PaneId) :
    ∃ sends, Served app target sends (app.publishVisiblePane target tabId paneId) ∧
      (∀ send ∈ sends, (∃ header state, send = .pane header state ∧ header.paneId = paneId ∧
        header.runtimeRevision = app.runtimeRevision) ∧ send.Shows app) ∧
      ((app.runtime.terminals paneId).isSome → ∃ send ∈ sends, send.source = paneId) ∧
        (sends.map Send.source).Sublist [paneId] := by
  unfold publishVisiblePane
  rcases remoteFullStateForPane_eq app paneId with
    ⟨gone, same⟩ | ⟨terminal, state, caches, held, shown, same⟩
  · rw [same]
    refine ⟨[], Served.refl app target, fun send member => (by cases member), fun present => ?_,
      List.nil_sublist _⟩
    rw [gone] at present
    cases present
  · obtain ⟨revision, revisions, sameRevision⟩ := paneTerminalRevision_eq
      ({ app with paneRowCaches := caches } : BooApp) paneId state
    rw [same]
    dsimp only
    rw [sameRevision]
    refine ⟨[.pane ⟨tabId, paneId, revision, app.runtimeRevision⟩ state],
      ⟨rfl, rfl, fun id => ?_⟩, ?_, ?_, List.Sublist.refl _⟩
    · refine Becomes.of_map (value_updateClient _ id target _) fun client => ?_
      split
      · exact streamOf_sendPaneStateToClient client _ state
      · rfl
    · intro send member
      rw [List.mem_singleton] at member
      subst member
      exact ⟨⟨_, state, rfl, rfl, rfl⟩, terminal, held, shown⟩
    · exact fun _ => ⟨_, List.mem_singleton_self _, rfl⟩

theorem served_publishVisiblePanes (app : BooApp) (target : ClientId) (tabId : TabId)
    (panes : List PaneId) :
    ∃ sends, Served app target sends
        (panes.foldl (fun app paneId => app.publishVisiblePane target tabId paneId) app) ∧
      (∀ send ∈ sends, (∃ header state, send = .pane header state ∧ header.paneId ∈ panes ∧
        header.runtimeRevision = app.runtimeRevision) ∧ send.Shows app) ∧
      (∀ paneId ∈ panes, (app.runtime.terminals paneId).isSome →
        ∃ send ∈ sends, send.source = paneId) ∧ (sends.map Send.source).Sublist panes := by
  induction panes generalizing app with
  | nil =>
      exact ⟨[], Served.refl app target, fun send member => (by cases member),
        fun paneId member => (by cases member), List.Sublist.refl _⟩
  | cons paneId panes ih =>
      obtain ⟨first, served, sent, covered, once⟩ :=
        served_publishVisiblePane app target tabId paneId
      obtain ⟨rest, serves, sends, covers, ordered⟩ :=
        ih (app.publishVisiblePane target tabId paneId)
      refine ⟨first ++ rest, served.trans serves, ?_, ?_, ?_⟩
      · intro send member
        rw [List.mem_append] at member
        rcases member with member | member
        · obtain ⟨⟨header, state, isPane, ofPane, revision⟩, shows⟩ := sent send member
          exact ⟨⟨header, state, isPane, ofPane ▸ List.mem_cons_self, revision⟩, shows⟩
        · obtain ⟨⟨header, state, isPane, ofPane, revision⟩, shows⟩ := sends send member
          rw [served.revision] at revision
          rw [Send.Shows, served.runtime] at shows
          exact ⟨⟨header, state, isPane, List.mem_cons_of_mem _ ofPane, revision⟩, shows⟩
      · intro other member present
        rcases List.mem_cons.mp member with rfl | member
        · obtain ⟨send, member, source⟩ := covered present
          exact ⟨send, List.mem_append_left _ member, source⟩
        · rw [← served.runtime] at present
          obtain ⟨send, member, source⟩ := covers other member present
          exact ⟨send, List.mem_append_right _ member, source⟩
      · rw [List.map_append]
        exact once.append ordered

theorem Publication.of_served {stream : Stream} {tabId : TabId} {sends : List Send}
    (publication : Publication app stream tabId sends)
    (served : Served app target sends after) : Publication after stream tabId sends := by
  have sameTabs : after.tabs = app.tabs := congrArg UiRuntime.tabs served.runtime
  refine ⟨?_, ?_, ?_, ?_, publication.once⟩
  · rw [sameTabs]
    exact publication.focus
  · rw [sameTabs, served.revision]
    exact publication.panes
  · intro send member
    rw [Send.Shows, served.runtime]
    exact publication.current send member
  · rw [sameTabs, served.runtime]
    exact publication.covers

theorem focusSent_streamOf (app : BooApp) (client : ClientState) (tabId : TabId) :
    focusSent app.tabs (streamOf client) tabId =
      app.publishedFocus client.runtimeView tabId := rfl

/-- A subscribed viewer of the tab is sent its publication. -/
theorem served_publishTo (app : BooApp) (target : ClientId) (tabId : TabId)
    {client : ClientState} (held : app.clients.value target = some client)
    (subscribed : client.runtimeView.subscribedToRuntime = true)
    (viewed : client.runtimeView.viewedTabId = some tabId) :
    ∃ sends, Served app target sends (app.publishTo target tabId) ∧
      Publication app (streamOf client) tabId sends := by
  have found : app.viewOf target = some client.runtimeView := by rw [viewOf, held]; rfl
  unfold publishTo
  rw [found]
  dsimp only
  rw [if_pos ⟨subscribed, viewed⟩]
  cases focus : app.publishedFocus client.runtimeView tabId with
  | none =>
      obtain ⟨sends, served, sent, covers, ordered⟩ := served_publishVisiblePanes app target tabId
        (client.runtimeView.visiblePaneIds.filter fun paneId => some paneId ≠ none)
      refine ⟨sends, served, ?_, ?_, fun send member => (sent send member).2, ?_,
        fun distinct => (List.Nodup.filter _ distinct).sublist ordered⟩
      · intro source state member
        obtain ⟨⟨header, state', isPane, -⟩, -⟩ := sent _ member
        cases isPane
      · intro header state member
        obtain ⟨⟨header', state', isPane, ofPane, revision⟩, -⟩ := sent _ member
        cases isPane
        rw [focusSent_streamOf, focus]
        exact ⟨List.mem_of_mem_filter ofPane, by simp, revision⟩
      · intro paneId wanted present
        rw [focusSent_streamOf, focus] at wanted
        refine covers paneId ?_ present
        rcases wanted with wanted | wanted
        · exact List.mem_filter.mpr ⟨wanted, by simp⟩
        · cases wanted
  | some paneId =>
      obtain ⟨first, served, sent, covered, once⟩ := served_publishFocusedPane app target paneId
      obtain ⟨rest, serves, sends, covers, ordered⟩ := served_publishVisiblePanes
        (app.publishFocusedPane target paneId) target tabId
        (client.runtimeView.visiblePaneIds.filter fun other => some other ≠ some paneId)
      refine ⟨first ++ rest, served.trans serves, ?_, ?_, ?_, ?_, fun distinct => ?_⟩
      · intro source state member
        rw [focusSent_streamOf, focus]
        rw [List.mem_append] at member
        rcases member with member | member
        · obtain ⟨⟨state', isScreen⟩, -⟩ := sent _ member
          cases isScreen
          rfl
        · obtain ⟨⟨header, state', isPane, -⟩, -⟩ := sends _ member
          cases isPane
      · intro header state member
        rw [focusSent_streamOf, focus]
        rw [List.mem_append] at member
        rcases member with member | member
        · obtain ⟨⟨state', isScreen⟩, -⟩ := sent _ member
          cases isScreen
        · obtain ⟨⟨header', state', isPane, ofPane, revision⟩, -⟩ := sends _ member
          cases isPane
          rw [List.mem_filter, decide_eq_true_eq] at ofPane
          exact ⟨ofPane.1, fun same => ofPane.2 same.symm, revision.trans served.revision⟩
      · intro send member
        rw [List.mem_append] at member
        rcases member with member | member
        · exact (sent send member).2
        · have shows := (sends send member).2
          rwa [Send.Shows, served.runtime] at shows
      · intro other wanted present
        rw [focusSent_streamOf, focus] at wanted
        by_cases isFocus : other = paneId
        · subst isFocus
          obtain ⟨send, member, source⟩ := covered present
          exact ⟨send, List.mem_append_left _ member, source⟩
        · have visible : other ∈ client.runtimeView.visiblePaneIds := by
            rcases wanted with wanted | wanted
            · exact wanted
            · exact absurd (Option.some.inj wanted).symm isFocus
          rw [← served.runtime] at present
          obtain ⟨send, member, source⟩ := covers other
            (List.mem_filter.mpr ⟨visible, by simp [isFocus]⟩) present
          exact ⟨send, List.mem_append_right _ member, source⟩
      · have others : (rest.map Send.source).Nodup :=
          (List.Nodup.filter _ distinct).sublist ordered
        rw [List.map_append, List.nodup_append]
        refine ⟨?_, others, ?_⟩
        · exact (List.nodup_singleton paneId).sublist once
        · intro source ofFirst other ofRest same
          have isFocus := List.mem_singleton.mp (once.subset ofFirst)
          have listed := (List.mem_filter.mp (ordered.subset ofRest)).2
          rw [← same, isFocus] at listed
          simp at listed

/-- A subscribed client whose view names the tab. -/
def Views (app : BooApp) (target : ClientId) (tabId : TabId) : Prop :=
  ∃ client, app.clients.value target = some client ∧
    client.runtimeView.subscribedToRuntime = true ∧
      client.runtimeView.viewedTabId = some tabId

theorem publishTo_of_not_views {tabId : TabId} (noViewer : ¬ Views app target tabId) :
    app.publishTo target tabId = app := by
  unfold publishTo viewOf
  cases held : app.clients.value target with
  | none => rfl
  | some client =>
      rw [Option.map_some]
      dsimp only
      rw [if_neg]
      exact fun all => noViewer ⟨client, held, all⟩

@[simp] theorem runtime_publishTo (app : BooApp) (target : ClientId) (tabId : TabId) :
    (app.publishTo target tabId).runtime = app.runtime := by
  by_cases viewer : Views app target tabId
  · obtain ⟨client, held, subscribed, viewed⟩ := viewer
    obtain ⟨sends, served, -⟩ := served_publishTo app target tabId held subscribed viewed
    exact served.runtime
  · rw [publishTo_of_not_views viewer]

end Serving

end Boo.Server.Publishing
