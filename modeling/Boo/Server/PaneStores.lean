/- module: Boo/Server/PaneStores
   digest: What the server keeps under pane ids, and when all of it belongs to panes in tabs. -/

import Boo.Lib.Runs
import Boo.Runtime.ClosedPanes
import Boo.Server.RowRanges
import Boo.Server.StatusComponents
import Boo.Server.TabRuns

set_option autoImplicit false
set_option relaxedAutoImplicit false

namespace Boo.Server.PaneStores

open Boo.Lib.Runs
open Boo.Lib.Script
open Boo.Wire.Message
open Boo.Server.Frames
open Boo.Server.View
open Boo.Server.App
open Boo.Server.App.BooApp
open Boo.Server.Actions
open Boo.Server.Handlers
open Boo.Server.RowRanges
open Boo.Server.StatusComponents
open Boo.Server.TabRuns
open Boo.Runtime.Splits
open Boo.Runtime.Leaves
open Boo.Runtime.Tabs
open Boo.Runtime.TabOps
open Boo.Runtime.Ui
open Boo.Runtime.ClosedPanes

/-- The server with its status components. -/
structure StatusApp where
  app : BooApp
  statusComponents : StatusComponentStore

/-- A change of the server: an action, a poll with what the panes' programs put into the status
bar, or a command of the control socket about status components. -/
inductive Change
  | action (action : Action)
  | poll (outcome : PollOutcome) (reported : PaneId → List (StatusBarZone × List StatusComponent))
  | setStatusComponents (update : StatusComponentsUpdate)
  | clearStatusComponents (source : String) (zone : Option StatusBarZone)

/-- The update of `handle_osc_1337_set_user_var`. -/
def oscUpdate (reported : StatusBarZone × List StatusComponent) : StatusComponentsUpdate where
  zone := reported.1
  source := ""
  components := reported.2

/-- The backend names the pane in an update that has no source. -/
def sourced (paneId : PaneId) (update : StatusComponentsUpdate) : StatusComponentsUpdate :=
  { update with
    source := if update.source.isEmpty then oscSourceForPane paneId else update.source }

def statusComponentUpdates (rt : UiRuntime)
    (reported : PaneId → List (StatusBarZone × List StatusComponent)) :
    List StatusComponentsUpdate :=
  ((polledPanes rt).filter fun paneId => (rt.terminals paneId).isSome).flatMap fun paneId =>
    (reported paneId).map fun components => sourced paneId (oscUpdate components)

namespace StatusApp

/-- Only a poll touches the status components, for the panes that have exited. -/
def perform (server : StatusApp) (action : Action) : StatusApp where
  app := action.step server.app
  statusComponents :=
    match action with
    | .poll _ => server.statusComponents.clearPanes (exitedPanes server.app.runtime)
    | _ => server.statusComponents

def step (server : StatusApp) : Change → StatusApp
  | .action action => server.perform action
  | .poll outcome reported =>
      { server with
        statusComponents := server.statusComponents.setAll
          (statusComponentUpdates server.app.runtime reported) }.perform (.poll outcome)
  | .setStatusComponents update =>
      { server with statusComponents := (server.statusComponents.set update).1 }
  | .clearStatusComponents source zone =>
      { server with statusComponents := (server.statusComponents.clear source zone).1 }

end StatusApp

def opening (appearance : UiAppearance) (terminalFrame : Rect)
    (hasLocalGuiServer hasRemoteServer : Bool) : StatusApp where
  app := start appearance terminalFrame hasLocalGuiServer hasRemoteServer
  statusComponents := .empty

/-- The changes that a run of the server's handlers consists of. -/
def performed (steps : List Step) (app : BooApp) : List Change :=
  (actions steps app).map fun entry => .action entry.2

def HasRevision (app : BooApp) (paneId : PaneId) : Prop :=
  (app.paneTerminalRevisions paneId).isSome = true

/-- The first rendering of a pane gives its row cache an epoch. -/
def HasRowCache (app : BooApp) (paneId : PaneId) : Prop := (app.paneRowCaches paneId).epoch ≠ 0

def HasSource (store : StatusComponentStore) (paneId : PaneId) : Prop :=
  oscSourceForPane paneId ∈ store.sources

instance (app : BooApp) (paneId : PaneId) : Decidable (HasRevision app paneId) :=
  inferInstanceAs (Decidable (_ = true))

instance (app : BooApp) (paneId : PaneId) : Decidable (HasRowCache app paneId) :=
  inferInstanceAs (Decidable (_ ≠ _))

instance (store : StatusComponentStore) (paneId : PaneId) : Decidable (HasSource store paneId) :=
  inferInstanceAs (Decidable (_ ∈ _))

/-- Every key names a pane that exists in some tab. -/
structure KeysLive (server : StatusApp) : Prop where
  revisions : ∀ paneId, HasRevision server.app paneId → paneId ∈ livePanes server.app.tabs
  rowCaches : ∀ paneId, HasRowCache server.app paneId → paneId ∈ livePanes server.app.tabs
  sources : ∀ paneId, HasSource server.statusComponents paneId →
    paneId ∈ livePanes server.app.tabs

/-- The panes that an action closes. -/
def closedBy (app : BooApp) : Action → List PaneId
  | .destroyTab index => paneIdsAt app.tabs index
  | .poll _ => exitedPanes app.runtime
  | action => closesAll app.runtime (effectsOf action)

/-- Only the destruction of a tab forgets the revisions of the panes it closes. -/
def forgetsRevisions : Action → Bool
  | .destroyTab _ => true
  | _ => false

/-- Only a poll clears what the panes it closes have put into the status bar. -/
def clearsSources : Action → Bool
  | .poll _ => true
  | _ => false

/-- The pane has nothing in the stores that this way of closing panes leaves alone. -/
structure Unkept (server : StatusApp) (action : Action) (paneId : PaneId) : Prop where
  revision : forgetsRevisions action = false → ¬ HasRevision server.app paneId
  rowCache : ¬ HasRowCache server.app paneId
  source : clearsSources action = false → ¬ HasSource server.statusComponents paneId

instance (server : StatusApp) (action : Action) (paneId : PaneId) :
    Decidable (Unkept server action paneId) :=
  decidable_of_iff ((forgetsRevisions action = false → ¬ HasRevision server.app paneId) ∧
      ¬ HasRowCache server.app paneId ∧
      (clearsSources action = false → ¬ HasSource server.statusComponents paneId))
    ⟨fun ⟨revision, rowCache, source⟩ => ⟨revision, rowCache, source⟩,
      fun unkept => ⟨unkept.revision, unkept.rowCache, unkept.source⟩⟩

def ClosesUnkept (server : StatusApp) (action : Action) : Prop :=
  ∀ paneId ∈ closedBy server.app action, Unkept server action paneId

instance (server : StatusApp) (action : Action) : Decidable (ClosesUnkept server action) :=
  List.decidableBAll _ _

/-- The panes whose screens a publication may send. -/
def servedPanes (app : BooApp) (client : ClientId) (tabId : TabId) : List PaneId :=
  match app.viewOf client with
  | none => []
  | some view =>
      if view.subscribedToRuntime = true ∧ view.viewedTabId = some tabId then
        (app.publishedFocus view tabId).toList ++ view.visiblePaneIds
      else []

/-- A publication renders no pane that the backend still has and no tab does. -/
def ServesLive (app : BooApp) : Action → Prop
  | .publishTo client tabId => ∀ paneId ∈ servedPanes app client tabId,
      (app.runtime.terminals paneId).isSome = true → paneId ∈ livePanes app.tabs
  | _ => True

instance (app : BooApp) (action : Action) : Decidable (ServesLive app action) := by
  cases action with
  | publishTo client tabId => exact List.decidableBAll _ _
  | _ => exact isTrue trivial

/-- What a change has to find so that no key outlives its pane. -/
def LeavesNoKey (server : StatusApp) : Change → Prop
  | .action action => ClosesUnkept server action ∧ ServesLive server.app action
  | .poll outcome _ => ClosesUnkept server (.poll outcome)
  | .setStatusComponents update => update.components ≠ [] →
      ∀ paneId, update.source = oscSourceForPane paneId → paneId ∈ livePanes server.app.tabs
  | .clearStatusComponents _ _ => True

instance (server : StatusApp) (action : Action) :
    Decidable (LeavesNoKey server (.action action)) :=
  inferInstanceAs (Decidable (ClosesUnkept server action ∧ ServesLive server.app action))

instance (server : StatusApp) (outcome : PollOutcome)
    (reported : PaneId → List (StatusBarZone × List StatusComponent)) :
    Decidable (LeavesNoKey server (.poll outcome reported)) :=
  inferInstanceAs (Decidable (ClosesUnkept server (.poll outcome)))

theorem app_performed (steps : List Step) (app : BooApp) (store : StatusComponentStore) :
    ((performed steps app).foldl StatusApp.step ⟨app, store⟩).app = after steps app := by
  have walk : ∀ (acts : List Action) (server : StatusApp),
      ((acts.map Change.action).foldl StatusApp.step server).app =
        acts.foldl Action.step server.app := by
    intro acts
    induction acts with
    | nil => exact fun _ => rfl
    | cons action acts ih => exact fun server => ih (server.perform action)
  have folded := walk ((actions steps app).map Prod.snd) ⟨app, store⟩
  rw [List.map_map] at folded
  exact folded.trans (final_eq_foldl Action.step (runSteps steps) app).symm

section Tabs

variable {rt : UiRuntime} {app : BooApp}

theorem spares_pollRunningCommands {tabs : TabManager} (sound : AllTrees Sound tabs)
    (panes : List PaneId) (reported : List (PaneId × Option String)) :
    Spares tabs (pollRunningCommands tabs panes reported) [] := by
  have labels : ∀ (other : TabManager) (paneId : PaneId) (command : Option (Option String)),
      Spares tabs other [] → Spares tabs (other.setRunningCommandForPane paneId command) [] := by
    intro other paneId command spares
    exact spares.then_none (spares_mapTabs spares.sound fun tab => by split <;> rfl)
  unfold pollRunningCommands
  refine List.foldlRecOn (motive := fun other => Spares tabs other []) _ _ ?_
    fun other spares paneId _ => labels other paneId none spares
  exact List.foldlRecOn (motive := fun other => Spares tabs other []) _ _ (Spares.refl sound)
    fun other spares running _ => labels other running.1 (some running.2) spares

/-- A poll closes the panes that have exited. -/
theorem spares_pollRuntime (sound : AllTrees Sound rt.tabs) (outcome : PollOutcome) :
    Spares rt.tabs (pollRuntime rt outcome).1.tabs (exitedPanes rt) := by
  have exits : ∀ titled : UiRuntime, Spares rt.tabs titled.tabs [] → Spares rt.tabs
      ((exitedPanes rt).foldl UiRuntime.closePaneById titled).tabs (exitedPanes rt) :=
    fun titled spares => spares.trans (spares_closePanes spares.sound (exitedPanes rt))
  have commanded : Spares rt.tabs (pollRunningCommands
      ((polledPanes rt).foldl pollPane (rt, false)).1.tabs (polledPanes rt)
      outcome.runningCommands) [] := by
    rw [tabs_pollPanes]
    exact spares_pollRunningCommands sound _ _
  unfold pollRuntime
  apply exits
  rw [tabs_updateTabs]
  cases outcome.activeTitle with
  | none => exact commanded
  | some title => exact commanded.then_none (spares_updateTab commanded.sound _ fun _ => rfl)

theorem spares_step (sound : AllTrees Sound app.tabs) (action : Action) :
    Spares app.tabs (action.step app).tabs (closedBy app action) := by
  rw [tabs_step]
  cases action with
  | createTab client spawned ack => exact spares_newTab sound spawned.pane
  | destroyTab index => exact spares_removeTab sound index
  | poll outcome => exact spares_pollRuntime sound outcome
  | _ => exact spares_applyAll sound _

end Tabs

section Publications

variable {app mid after : BooApp} {panes : List PaneId}

/-- Only panes of the list that the backend has may have got a row cache or a revision. -/
structure Renders (app after : BooApp) (panes : List PaneId) : Prop where
  runtime : after.runtime = app.runtime
  rowCaches : ∀ paneId, after.paneRowCaches paneId = app.paneRowCaches paneId ∨
    (paneId ∈ panes ∧ (app.runtime.terminals paneId).isSome = true)
  revisions : ∀ paneId, after.paneTerminalRevisions paneId = app.paneTerminalRevisions paneId ∨
    (paneId ∈ panes ∧ (app.runtime.terminals paneId).isSome = true)

theorem Renders.refl (app : BooApp) : Renders app app panes :=
  ⟨rfl, fun _ => .inl rfl, fun _ => .inl rfl⟩

theorem Renders.trans (first : Renders app mid panes) (next : Renders mid after panes) :
    Renders app after panes := by
  refine ⟨next.runtime.trans first.runtime, fun paneId => ?_, fun paneId => ?_⟩
  · rcases next.rowCaches paneId with same | rendered
    · rw [same]
      exact first.rowCaches paneId
    · rw [first.runtime] at rendered
      exact .inr rendered
  · rcases next.revisions paneId with same | rendered
    · rw [same]
      exact first.revisions paneId
    · rw [first.runtime] at rendered
      exact .inr rendered

theorem renders_updateClient (client : ClientId) (update : ClientState → ClientState) :
    Renders app (app.updateClient client update) panes :=
  ⟨rfl, fun _ => .inl rfl, fun _ => .inl rfl⟩

theorem renders_remoteFullStateForPane {paneId : PaneId} (listed : paneId ∈ panes) :
    Renders app (app.remoteFullStateForPane paneId).2 panes := by
  unfold remoteFullStateForPane
  cases held : app.runtime.terminals paneId with
  | none => exact Renders.refl app
  | some terminal =>
      refine ⟨rfl, fun other => ?_, fun _ => .inl rfl⟩
      by_cases same : other = paneId
      · subst same
        exact .inr ⟨listed, by rw [held]; rfl⟩
      · exact .inl (Function.update_of_ne same _ _)

theorem renders_paneTerminalRevision {paneId : PaneId} (listed : paneId ∈ panes)
    (present : (app.runtime.terminals paneId).isSome = true) (state : Grid) :
    Renders app (app.paneTerminalRevision paneId state).2 panes := by
  have recorded : ∀ revision, Renders app (app.recordRevision paneId revision state) panes := by
    intro revision
    refine ⟨rfl, fun _ => .inl rfl, fun other => ?_⟩
    by_cases same : other = paneId
    · subst same
      exact .inr ⟨listed, present⟩
    · exact .inl (Function.update_of_ne same _ _)
  unfold paneTerminalRevision
  split
  · split
    · exact Renders.refl app
    · exact recorded _
  · exact recorded 1

theorem renders_publishFocusedPane (client : ClientId) {paneId : PaneId}
    (listed : paneId ∈ panes) : Renders app (app.publishFocusedPane client paneId) panes := by
  have rendered := @renders_remoteFullStateForPane app panes paneId listed
  unfold publishFocusedPane
  split
  · rename_i after same
    rwa [same] at rendered
  · rename_i state after same
    rw [same] at rendered
    exact rendered.trans (renders_updateClient client _)

theorem present_of_state {paneId : PaneId} {state : Grid}
    (sent : app.remoteFullStateForPane paneId = (some state, after)) :
    (app.runtime.terminals paneId).isSome = true := by
  unfold remoteFullStateForPane at sent
  cases held : app.runtime.terminals paneId with
  | none =>
      rw [held] at sent
      cases sent
  | some terminal => rfl

theorem renders_publishVisiblePane (client : ClientId) (tabId : TabId) {paneId : PaneId}
    (listed : paneId ∈ panes) : Renders app (app.publishVisiblePane client tabId paneId) panes := by
  have rendered := @renders_remoteFullStateForPane app panes paneId listed
  unfold publishVisiblePane
  split
  · rename_i after same
    rwa [same] at rendered
  · rename_i state after same
    have present := present_of_state same
    rw [same] at rendered
    rw [← rendered.runtime] at present
    have revised := renders_paneTerminalRevision listed present state
    exact (rendered.trans revised).trans (renders_updateClient client _)

theorem renders_publishTo (client : ClientId) (tabId : TabId) :
    Renders app (app.publishTo client tabId) (servedPanes app client tabId) := by
  unfold publishTo servedPanes
  cases app.viewOf client with
  | none => exact Renders.refl app
  | some view =>
      dsimp only
      split
      · refine List.foldlRecOn (motive := fun after => Renders app after _) _ _ ?_ ?_
        · cases focus : app.publishedFocus view tabId with
          | none => exact Renders.refl app
          | some paneId => exact renders_publishFocusedPane client List.mem_cons_self
        · intro after renders paneId member
          have visible := List.mem_of_mem_filter member
          exact renders.trans (renders_publishVisiblePane client tabId
            (List.mem_append_right _ visible))
      · exact Renders.refl app

end Publications

section Keys

variable {server : StatusApp}

/-- A revision that an action leaves was there before, and no destroyed tab had it. -/
theorem hasRevision_of_perform {action : Action}
    (publishes : ∀ client tabId, action ≠ .publishTo client tabId) {paneId : PaneId}
    (kept : HasRevision (server.perform action).app paneId) : HasRevision server.app paneId ∧
      (forgetsRevisions action = true → paneId ∉ closedBy server.app action) := by
  by_cases destroys : ∃ index, action = .destroyTab index
  · obtain ⟨index, rfl⟩ := destroys
    change (if paneId ∈ paneIdsAt server.app.tabs index then none
      else server.app.paneTerminalRevisions paneId).isSome = true at kept
    split at kept
    · cases kept
    · rename_i outside
      exact ⟨kept, fun _ => outside⟩
  · have same := congrArg Prod.snd (paneStores_step server.app action publishes
      fun index same => destroys ⟨index, same⟩)
    change (action.step server.app).paneTerminalRevisions = server.app.paneTerminalRevisions at same
    change ((action.step server.app).paneTerminalRevisions paneId).isSome = true at kept
    rw [same] at kept
    refine ⟨kept, fun forgets => ?_⟩
    cases action with
    | destroyTab index => exact absurd ⟨index, rfl⟩ destroys
    | _ => cases forgets

theorem hasRowCache_of_perform {action : Action}
    (publishes : ∀ client tabId, action ≠ .publishTo client tabId) {paneId : PaneId}
    (kept : HasRowCache (server.perform action).app paneId) : HasRowCache server.app paneId := by
  change ((action.step server.app).paneRowCaches paneId).epoch ≠ 0 at kept
  rwa [paneRowCaches_step server.app action publishes] at kept

theorem hasSource_of_perform {action : Action} {paneId : PaneId}
    (kept : HasSource (server.perform action).statusComponents paneId) :
    HasSource server.statusComponents paneId ∧
      (clearsSources action = true → paneId ∉ closedBy server.app action) := by
  cases action with
  | poll outcome =>
      obtain ⟨before, apart⟩ := mem_sources_clearPanes kept
      exact ⟨before, fun _ closed => apart paneId closed rfl⟩
  | _ => exact ⟨kept, fun clears => (by cases clears)⟩

theorem keysLive_publishTo (sound : AllTrees Sound server.app.tabs) (live : KeysLive server)
    (client : ClientId) (tabId : TabId) (serves : ServesLive server.app (.publishTo client tabId)) :
    KeysLive (server.perform (.publishTo client tabId)) := by
  have stays : ∀ paneId ∈ livePanes server.app.tabs,
      paneId ∈ livePanes (server.app.publishTo client tabId).tabs := fun paneId before =>
    (spares_step sound (.publishTo client tabId)).live before List.not_mem_nil
  have renders := @renders_publishTo server.app client tabId
  refine ⟨fun paneId kept => ?_, fun paneId kept => ?_, fun paneId kept =>
    stays paneId (live.sources paneId kept)⟩
  · rcases renders.revisions paneId with same | ⟨served, present⟩
    · apply stays paneId (live.revisions paneId _)
      rw [HasRevision, ← same]
      exact kept
    · exact stays paneId (serves paneId served present)
  · rcases renders.rowCaches paneId with same | ⟨served, present⟩
    · apply stays paneId (live.rowCaches paneId _)
      rw [HasRowCache, ← same]
      exact kept
    · exact stays paneId (serves paneId served present)

/-- An action that closes only unkept panes and serves only live ones keeps every key live. -/
theorem keysLive_perform (sound : AllTrees Sound server.app.tabs) (live : KeysLive server)
    {action : Action} (closes : ClosesUnkept server action)
    (serves : ServesLive server.app action) : KeysLive (server.perform action) := by
  by_cases publishes : ∃ client tabId, action = .publishTo client tabId
  · obtain ⟨client, tabId, rfl⟩ := publishes
    exact keysLive_publishTo sound live client tabId serves
  · have other : ∀ client tabId, action ≠ .publishTo client tabId := fun client tabId same =>
      publishes ⟨client, tabId, same⟩
    have stays : ∀ paneId ∈ livePanes server.app.tabs, paneId ∉ closedBy server.app action →
        paneId ∈ livePanes (action.step server.app).tabs := fun paneId before open_ =>
      (spares_step sound action).live before open_
    refine ⟨fun paneId kept => ?_, fun paneId kept => ?_, fun paneId kept => ?_⟩
    · obtain ⟨before, forgotten⟩ := hasRevision_of_perform other kept
      apply stays paneId (live.revisions paneId before)
      intro closed
      cases forgets : forgetsRevisions action with
      | true => exact forgotten forgets closed
      | false => exact (closes paneId closed).revision forgets before
    · have before := hasRowCache_of_perform other kept
      apply stays paneId (live.rowCaches paneId before)
      exact fun closed => (closes paneId closed).rowCache before
    · obtain ⟨before, cleared⟩ := hasSource_of_perform kept
      apply stays paneId (live.sources paneId before)
      intro closed
      cases clears : clearsSources action with
      | true => exact cleared clears closed
      | false => exact (closes paneId closed).source clears before

theorem polled_live {rt : UiRuntime} {paneId : PaneId} (polled : paneId ∈ polledPanes rt) :
    paneId ∈ livePanes rt.tabs := by
  rw [polledPanes] at polled
  cases held : rt.tabs.activeTree with
  | none =>
      rw [held] at polled
      cases polled
  | some tree =>
      rw [held] at polled
      obtain ⟨pane, member, rfl⟩ := List.mem_map.mp polled
      obtain ⟨tab, atActive, rfl⟩ := Boo.Runtime.PaneCount.tab_of_activeTree held
      exact List.mem_map_of_mem (List.mem_flatMap.mpr ⟨tab, List.mem_of_getElem? atActive, member⟩)

/-- What the programs of polled panes put into the status bar is under the names of these panes. -/
theorem source_of_reported {rt : UiRuntime}
    {reported : PaneId → List (StatusBarZone × List StatusComponent)}
    {update : StatusComponentsUpdate} (member : update ∈ statusComponentUpdates rt reported) :
    ∃ paneId ∈ polledPanes rt, update.source = oscSourceForPane paneId := by
  obtain ⟨paneId, polled, member⟩ := List.mem_flatMap.mp member
  obtain ⟨components, -, rfl⟩ := List.mem_map.mp member
  exact ⟨paneId, List.mem_of_mem_filter polled, rfl⟩

theorem keysLive_setAll (live : KeysLive server)
    (reported : PaneId → List (StatusBarZone × List StatusComponent)) :
    KeysLive { server with
      statusComponents := server.statusComponents.setAll
        (statusComponentUpdates server.app.runtime reported) } := by
  refine ⟨live.revisions, live.rowCaches, fun paneId kept => ?_⟩
  rcases mem_sources_setAll kept with old | ⟨update, member, same⟩
  · exact live.sources paneId old
  · obtain ⟨other, polled, named⟩ := source_of_reported member
    rw [oscSourceForPane_injective (same.trans named)]
    exact polled_live polled

/-- One change under its condition. -/
theorem keysLive_step (sound : AllTrees Sound server.app.tabs) (live : KeysLive server)
    (change : Change) (leaves : LeavesNoKey server change) : KeysLive (server.step change) := by
  cases change with
  | action action => exact keysLive_perform sound live leaves.1 leaves.2
  | poll outcome reported =>
      exact @keysLive_perform { server with
        statusComponents := server.statusComponents.setAll
          (statusComponentUpdates server.app.runtime reported) } sound
        (keysLive_setAll live reported) (.poll outcome)
        (fun paneId closed => ⟨(leaves paneId closed).revision, (leaves paneId closed).rowCache,
          fun clears => (by cases clears)⟩) trivial
  | setStatusComponents update =>
      refine ⟨live.revisions, live.rowCaches, fun paneId kept => ?_⟩
      rcases mem_sources_set kept with old | ⟨same, components⟩
      · exact live.sources paneId old
      · exact leaves components paneId same.symm
  | clearStatusComponents source zone =>
      exact ⟨live.revisions, live.rowCaches, fun paneId kept =>
        live.sources paneId (mem_sources_clear kept)⟩

theorem sound_step (sound : AllTrees Sound server.app.tabs) (change : Change) :
    AllTrees Sound (server.step change).app.tabs := by
  cases change with
  | action action => exact (spares_step sound action).sound
  | poll outcome reported => exact (spares_step sound (.poll outcome)).sound
  | _ => exact sound

end Keys

section Runs

theorem keysLive_opening (appearance : UiAppearance) (frame : Rect)
    (hasLocalGuiServer hasRemoteServer : Bool) :
    KeysLive (opening appearance frame hasLocalGuiServer hasRemoteServer) :=
  ⟨fun _ none => (by cases none), fun _ none => absurd rfl none, fun _ none => (by cases none)⟩

/-- A run under the condition, from any state with sound trees and live keys. -/
theorem keysLive_run {server : StatusApp} {changes : List Change}
    (sound : AllTrees Sound server.app.tabs) (live : KeysLive server)
    (leaves : Always StatusApp.step LeavesNoKey server changes) :
    Throughout StatusApp.step KeysLive server changes := by
  apply @throughout_of_invariant _ _ StatusApp.step LeavesNoKey KeysLive fun server =>
    AllTrees Sound server.app.tabs ∧ KeysLive server
  · rintro server change ⟨sound, live⟩ meets
    exact ⟨sound_step sound change, keysLive_step sound live change meets⟩
  · exact fun server known => known.2
  · exact ⟨sound, live⟩
  · exact leaves

/-- A run of the server's handlers leaves no key of a dead pane if none of its actions does. -/
theorem keysLive_after {steps : List Step} {app : BooApp} {store : StatusComponentStore}
    (sound : AllTrees Sound app.tabs) (live : KeysLive ⟨app, store⟩)
    (leaves : Always StatusApp.step LeavesNoKey ⟨app, store⟩ (performed steps app))
    {paneId : PaneId} (kept : HasRevision (after steps app) paneId ∨
      HasRowCache (after steps app) paneId) : paneId ∈ livePanes (after steps app).tabs := by
  have final := (keysLive_run sound live leaves).final
  rw [← app_performed steps app store] at kept ⊢
  exact kept.elim (final.revisions paneId) (final.rowCaches paneId)

/-- In a run in which no pane is closed while a store that its closing does not clean has an entry
for it, every key is a live pane at all times. -/
theorem keysLive_throughout (appearance : UiAppearance) (frame : Rect)
    (hasLocalGuiServer hasRemoteServer : Bool) (changes : List Change)
    (leaves : Always StatusApp.step LeavesNoKey
      (opening appearance frame hasLocalGuiServer hasRemoteServer) changes) :
    Throughout StatusApp.step KeysLive
      (opening appearance frame hasLocalGuiServer hasRemoteServer) changes :=
  keysLive_run (fun _ none => (by cases none)) (keysLive_opening _ _ _ _) leaves

def boldStyle : StatusStyle where
  fg := none
  bg := none
  bold := true
  italic := false
  underline := none
  strikethrough := false

/-- The program of pane 1 sets one component on the left. -/
def reportedByFirst (paneId : PaneId) : List (StatusBarZone × List StatusComponent) :=
  if paneId = 1 then [(.left, [⟨"main", boldStyle, none⟩])] else []

abbrev quietPoll (reported : PaneId → List (StatusBarZone × List StatusComponent)) : Change :=
  .poll ⟨[], none, none⟩ reported

/-- A client views two panes. -/
def twoViewed : List Step :=
  oneViewer ++ [.command (.remoteRuntimeAction 1 none
    (.newSplit .vertical (some (blankPane ⟨2, live_two⟩))))]

/-- Beside the viewed panes, of which one has a component too, a pane that no client looks at exits,
and the tab of another one is closed. -/
def unseenRun : List Change :=
  performed twoViewed freshServer ++
    [quietPoll reportedByFirst,
      .action (.applyEffects [.newTab (some (blankPane ⟨3, live_three⟩))]), .action (.childExit 3),
      quietPoll fun _ => [], .action (.applyEffects [.newTab (some (blankPane ⟨4, live_four⟩))]),
      .action (.applyEffects [.closeTab])]

def unseenServer : StatusApp :=
  unseenRun.foldl StatusApp.step (opening plainAppearance unitFrame true false)

/-- All stores have keys at the end, and the panes of these keys are still there. -/
theorem keysLive_throughout_unseenRun :
    Throughout StatusApp.step KeysLive (opening plainAppearance unitFrame true false) unseenRun ∧
      livePanes unseenServer.app.tabs = [1, 2] ∧ HasRevision unseenServer.app 1 ∧
      HasRowCache unseenServer.app 2 ∧ HasSource unseenServer.statusComponents 1 := by
  refine ⟨?_, by decide +kernel, by decide +kernel, by decide +kernel, by decide +kernel⟩
  apply keysLive_throughout
  rw [unseenRun, always_append]
  constructor
  · rw [performed, always_map]
    decide +kernel
  · exact ⟨by decide +kernel, by decide +kernel, by decide +kernel, by decide +kernel,
      by decide +kernel, by decide +kernel, trivial⟩

/-- A client views two panes, the program of one of them sets a component, and their tab is
closed. -/
def viewedRun : List Change :=
  performed twoViewed freshServer ++
    [quietPoll reportedByFirst, .action (.applyEffects [.closeTab])]

def viewedServer : StatusApp :=
  viewedRun.foldl StatusApp.step (opening plainAppearance unitFrame true false)

/-- No pane is left, but a revision, a row cache and the components of a program are. -/
theorem closedTab_keepsKeys :
    ¬ Throughout StatusApp.step KeysLive (opening plainAppearance unitFrame true false)
        viewedRun ∧
      livePanes viewedServer.app.tabs = [] ∧ HasRevision viewedServer.app 1 ∧
      HasRowCache viewedServer.app 2 ∧ HasSource viewedServer.statusComponents 1 := by
  have closed : livePanes viewedServer.app.tabs = [] := by decide +kernel
  have rowCache : HasRowCache viewedServer.app 2 := by decide +kernel
  refine ⟨fun run => ?_, closed, by decide +kernel, rowCache, by decide +kernel⟩
  have live : 2 ∈ livePanes viewedServer.app.tabs := run.final.rowCaches 2 rowCache
  rw [closed] at live
  cases live

end Runs

end Boo.Server.PaneStores
