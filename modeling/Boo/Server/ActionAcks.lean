/- module: Boo/Server/ActionAcks
   digest: Which runtime actions are acknowledged to the client that asked for them. -/

import Boo.Server.Commands
import Boo.Server.StreamRuns

set_option autoImplicit false
set_option relaxedAutoImplicit false

namespace Boo.Server.ActionAcks

open Boo.Lib.Script
open Boo.Lib.Script.Program
open Boo.Wire.Message
open Boo.Server.Frames
open Boo.Server.View
open Boo.Server.App
open Boo.Server.App.BooApp
open Boo.Server.Actions
open Boo.Server.Streams
open Boo.Server.Publishing
open Boo.Server.StreamSteps
open Boo.Server.StreamRuns
open Boo.Server.Handlers
open Boo.Server.Commands
open Boo.Runtime.Splits
open Boo.Runtime.Tabs
open Boo.Runtime.Ui

/-- The stream acknowledges the action from now on, and what it was told is queued. -/
structure Waits (base : Stream) (actionId : UInt64) (stream : Stream) : Prop where
  acked : stream.ackedAction = some actionId
  heard : ∃ new, stream.queue = base.queue ++ new ∧
    ∀ state ∈ stream.told, base.told = some state ∨ .told state ∈ new

/-- The state that the client was told last acknowledges the action. -/
def Answered (actionId : UInt64) (stream : Stream) : Prop :=
  ∃ state, stream.told = some state ∧ state.ackedClientActionId = some actionId

/-- The actions that acknowledge no other action of the client. -/
def Plain (actionId : UInt64) : Action → Prop
  | .connect _ _ | .disconnect _ => False
  | .ackAction _ other => other = actionId
  | _ => True

/-- Those that tell no local client the state of the server's own window, either. -/
def Calm (actionId : UInt64) : Action → Prop
  | .tellLocalViewers | .effectsAndTellLocal _ _ => False
  | action => Plain actionId action

section Steps

variable {app : BooApp} {id : ClientId} {base : Stream} {actionId : UInt64}

theorem Plain.connects {action : Action} (plain : Plain actionId action) :
    ∀ target isLocal, action ≠ .connect target isLocal := by
  rintro target isLocal rfl
  exact plain

theorem ackedAction_change {action : Action} (plain : Plain actionId action)
    (client : ClientState) {tabs : TabManager} {stream : Stream}
    (acked : stream.ackedAction = some actionId) :
    ((change app id client action).view.apply tabs stream).ackedAction = some actionId := by
  have keeps : ∀ view, (∀ other, view ≠ ViewChange.acknowledge other) →
      (view.apply tabs stream).ackedAction = some actionId := by
    intro view known
    cases view with
    | acknowledge other => exact absurd rfl (known other)
    | _ => exact acked
  cases action with
  | ackAction target other =>
      cases plain
      simp only [change]
      split
      · rfl
      · exact acked
  | _ =>
      refine keeps _ fun other => ?_
      simp only [change, syncAim, repairChange, repairAllChange, Change.none]
      repeat' split
      all_goals exact fun same => by cases same

theorem Calm.plain {action : Action} (calm : Calm actionId action) : Plain actionId action := by
  cases action with
  | tellLocalViewers => exact calm.elim
  | effectsAndTellLocal _ _ => exact calm.elim
  | _ => exact calm

theorem waits_leads {action : Action} (plain : Plain actionId action) {client : ClientState}
    {result : Stream} (waits : Waits base actionId (streamOf client))
    (leads : (change app id client action).Leads (action.step app) (streamOf client) result) :
    Waits base actionId result := by
  obtain ⟨earlier, queue, heard⟩ := waits.heard
  obtain ⟨new, queue', heard'⟩ := heard_of_leads leads
  refine ⟨(ackedAction_of_leads leads).trans (ackedAction_change plain client waits.acked),
    earlier ++ new, ?_, fun state last => ?_⟩
  · rw [queue', queue, List.append_assoc]
  · rcases heard' state last with known | sent
    · exact (heard state known).imp_right (List.mem_append_left new)
    · exact .inr (List.mem_append_right earlier sent)

/-- What a told client is told acknowledges the action. -/
theorem answered_leads {action : Action} (plain : Plain actionId action) {client : ClientState}
    {result : Stream} (acked : (streamOf client).ackedAction = some actionId)
    (news : (change app id client action).news = .told)
    (leads : (change app id client action).Leads (action.step app) (streamOf client) result) :
    Answered actionId result := by
  unfold Change.Leads at leads
  dsimp only at leads
  rw [news] at leads
  obtain ⟨state, tells, rfl⟩ := leads
  exact ⟨state, told_tell _ _, tells.ackedAction.trans (ackedAction_change plain client acked)⟩

/-- Only a told client hears anything new. -/
theorem told_leads {action : Action} {client : ClientState} {result : Stream}
    (news : (change app id client action).news = .silent ∨
      ∃ tabId, (change app id client action).news = .published tabId)
    (leads : (change app id client action).Leads (action.step app) (streamOf client) result) :
    result.told = (streamOf client).told := by
  unfold Change.Leads at leads
  dsimp only at leads
  rcases news with news | ⟨tabId, news⟩
  · rw [news] at leads
    rw [leads, told_apply]
  · rw [news] at leads
    obtain ⟨sends, -, sent⟩ := leads
    obtain ⟨new, _, _, -, same⟩ := sends_foldl sends
      ((change app id client action).view.apply (action.step app).tabs (streamOf client))
    rw [sent, same]
    exact told_apply _ _ _

theorem news_calm {action : Action} (calm : Calm actionId action) (client : ClientState) :
    (change app id client action).news ≠ .toldLocally := by
  cases action with
  | tellLocalViewers => exact calm.elim
  | effectsAndTellLocal _ _ => exact calm.elim
  | _ =>
      simp only [change, Change.none]
      repeat' split
      all_goals exact fun same => by cases same

theorem waits_step (action : Action) (plain : Plain actionId action)
    (waits : Holds app id (Waits base actionId)) :
    Holds (action.step app) id (Waits base actionId) :=
  waits.step action plain.connects fun _ _ waits _ leads => waits_leads plain waits leads

/-- Waiting for an answer, and answered. -/
def Settled (base : Stream) (actionId : UInt64) (stream : Stream) : Prop :=
  Waits base actionId stream ∧ Answered actionId stream

theorem settled_of_told (action : Action) (plain : Plain actionId action)
    (news : ∀ client, app.clients.value id = some client →
      (change app id client action).news = .told)
    (waits : Holds app id (Waits base actionId)) :
    Holds (action.step app) id (Settled base actionId) :=
  waits.step action plain.connects fun client held waits _ leads =>
    ⟨waits_leads plain waits leads, answered_leads plain waits.acked (news client held) leads⟩

theorem settled_step (action : Action) (calm : Calm actionId action)
    (settled : Holds app id (Settled base actionId)) :
    Holds (action.step app) id (Settled base actionId) := by
  refine settled.step action calm.plain.connects fun client _ settled result leads => ?_
  obtain ⟨waits, state, last, answers⟩ := settled
  refine ⟨waits_leads calm.plain waits leads, ?_⟩
  cases news : (change app id client action).news with
  | silent => exact ⟨state, (told_leads (.inl news) leads).trans last, answers⟩
  | told => exact answered_leads calm.plain waits.acked news leads
  | toldLocally => exact absurd news (news_calm calm client)
  | published tabId => exact ⟨state, (told_leads (.inr ⟨tabId, news⟩) leads).trans last, answers⟩

variable {R : Type} {handler : Handler R}

theorem waits_final (runs : Runs (Plain actionId) handler)
    (waits : Holds app id (Waits base actionId)) :
    Holds (final Action.step handler app) id (Waits base actionId) :=
  @Performs.invariant _ _ _ _ _ (fun after => Holds after id (Waits base actionId)) _ runs
    (fun _ action waits plain => waits_step action plain waits) app waits

theorem settled_final (runs : Runs (Calm actionId) handler)
    (settled : Holds app id (Settled base actionId)) :
    Holds (final Action.step handler app) id (Settled base actionId) :=
  @Performs.invariant _ _ _ _ _ (fun after => Holds after id (Settled base actionId)) _ runs
    (fun _ action settled calm => settled_step action calm settled) app settled

theorem calm_of_aims {client : ClientId} (aims : Runs (Aims client) handler) :
    Runs (Calm actionId) handler := by
  refine aims.mono fun _ action aims => ?_
  cases action <;> trivial

theorem plain_of_aims {client : ClientId} (aims : Runs (Aims client) handler) :
    Runs (Plain actionId) handler :=
  (calm_of_aims aims).mono fun _ _ calm => calm.plain

end Steps

/-- The tab that a client's action is aimed at, once its view has been set up. -/
def aimedTab (app : BooApp) (view : ClientRuntimeView) : Option TabId :=
  if view.viewId = 0 then app.activeRuntimeTabId else view.viewedTabId

/-- The runtime actions that the server answers with a `UiRuntimeState`. -/
def Acknowledges (app : BooApp) (view : ClientRuntimeView) : RuntimeAction → Prop
  | .focusPane _ paneId => ∃ tabId ∈ aimedTab app view, paneId ∈ app.tabs.paneIdsForTab tabId
  | .newTab answer => answer.isSome
  | .closeTab tabId => (tabId.or app.activeRuntimeTabId).isSome
  | .nextTab | .prevTab => app.tabs.tabs ≠ []
  | .detachView _ => False
  | .resizeSplit _ => (aimedTab app view).isSome
  | _ => True

section Answers

variable {app : BooApp} {id : ClientId} {base : Stream} {actionId : UInt64}

theorem viewOf_ensured {view : ClientRuntimeView} (known : app.viewOf id = some view) :
    ∃ ready, (ensured app id).viewOf id = some ready ∧
      ready.viewedTabId = aimedTab app view := by
  unfold ensured aimedTab
  rw [known]
  dsimp only
  rw [viewOf_repairView]
  have viewed : ∀ (other : BooApp) (view : ClientRuntimeView),
      (other.repairedView view).viewedTabId = view.viewedTabId := by
    intro other view
    unfold repairedView
    split
    · rfl
    · rename_i tabId held
      dsimp only
      split
      · exact held.symm
      · rfl
  split
  · have initialized : (app.initializeView id).viewOf id = some
        (view.initializeClientView id app.activeRuntimeTabId
          (app.activeRuntimeTabId.bind app.tabs.defaultFocusedPaneForTab)
          ((app.activeRuntimeTabId.map app.tabs.paneIdsForTab).getD [])) := by
      unfold viewOf at known ⊢
      rw [Option.map_eq_some_iff] at known
      obtain ⟨client, held, rfl⟩ := known
      rw [initializeView, value_updateClientView, held]
      simp [ClientState.updateView]
    rw [initialized]
    exact ⟨_, rfl, viewed _ _⟩
  · rw [known]
    exact ⟨_, rfl, viewed _ _⟩

theorem settled_bind {R : Type} {first : Handler R} {next : R → Handler Unit}
    (waits : Holds app id (Waits base actionId)) (runs : Runs (Plain actionId) first)
    (settles : ∀ app value, Holds app id (Waits base actionId) →
      Holds (final Action.step (next value) app) id (Settled base actionId)) :
    Holds (final Action.step (first >>= next) app) id (Settled base actionId) := by
  rw [final_bind]
  exact settles _ _ (waits_final runs waits)

/-- An action that tells the client, and a calm rest. -/
theorem settled_perform {action : Action} {rest : Handler Unit} (plain : Plain actionId action)
    (news : ∀ client, app.clients.value id = some client →
      (change app id client action).news = .told)
    (calm : Runs (Calm actionId) rest) (waits : Holds app id (Waits base actionId)) :
    Holds (final Action.step (perform action >>= fun _ => rest) app) id
      (Settled base actionId) := by
  rw [final_bind, final_perform]
  exact settled_final calm (settled_of_told action plain news waits)

theorem settled_setViewedTab (tabId : TabId) (waits : Holds app id (Waits base actionId)) :
    Holds (final Action.step (Handlers.setViewedTab id tabId) app) id (Settled base actionId) :=
  settled_perform trivial (fun _ _ => by simp [change])
    (calm_of_aims (aims_publishRemoteTab id tabId)) waits

theorem waits_ensured (waits : Holds app id (Waits base actionId)) :
    Holds (ensured app id) id (Waits base actionId) := by
  rw [← final_ensure]
  exact waits_final (plain_of_aims (aims_ensure id)) waits

theorem settled_remoteFocusPane {view : ClientRuntimeView} (known : app.viewOf id = some view)
    {tabId : TabId} {paneId : PaneId} (aimed : aimedTab app view = some tabId)
    (member : paneId ∈ app.tabs.paneIdsForTab tabId)
    (waits : Holds app id (Waits base actionId)) :
    Holds (final Action.step (remoteFocusPane id paneId) app) id (Settled base actionId) := by
  obtain ⟨ready, held, viewed⟩ := viewOf_ensured known
  rw [aimed] at viewed
  rw [← tabs_ensured app id] at member
  unfold remoteFocusPane
  rw [final_bind, result_ensure, final_ensure, held]
  dsimp only
  rw [viewed]
  dsimp only
  rw [final_bind, result_current, final_current, if_pos member]
  refine settled_perform trivial (fun client atId => ?_)
    (calm_of_aims (aims_publishRemoteTab id tabId)) (waits_ensured waits)
  have same : client.runtimeView = ready := by
    rw [viewOf, atId] at held
    exact Option.some.inj held
  simp [change, same, viewed, member]

theorem settled_setNeighbouringTab {view : ClientRuntimeView} (known : app.viewOf id = some view)
    (neighbour : Nat → Nat → Nat) (tabs : app.tabs.tabs ≠ [])
    (waits : Holds app id (Waits base actionId)) :
    Holds (final Action.step (setNeighbouringTab id (some actionId) neighbour) app) id
      (Settled base actionId) := by
  obtain ⟨ready, held, -⟩ := viewOf_ensured known
  rw [← tabs_ensured app id] at tabs
  have some_ : (ensured app id).tabs.tabs.length ≠ 0 := by simpa using tabs
  unfold setNeighbouringTab
  rw [final_bind, result_ensure, final_ensure, held]
  dsimp only
  rw [final_bind, result_current, final_current, if_neg some_]
  split
  · rename_i missing
    rw [TabManager.tabIdForIndex, Option.map_eq_none_iff, List.getElem?_eq_none_iff] at missing
    exact absurd (Nat.mod_lt _ (Nat.pos_of_ne_zero some_)) (Nat.not_lt.mpr missing)
  · rename_i tabId _
    rw [ackClientAction, final_bind, final_perform]
    exact settled_setViewedTab tabId (waits_step _ rfl (waits_ensured waits))

theorem settled_destroyRemoteRuntimeTab {tabId : Option TabId}
    (served : app.hasLocalGuiServer || app.hasRemoteServer)
    (target : (tabId.or app.activeRuntimeTabId).isSome)
    (waits : Holds app id (Waits base actionId)) :
    Holds (final Action.step (destroyRemoteRuntimeTab id tabId) app) id (Settled base actionId) := by
  obtain ⟨tab, target⟩ := Option.isSome_iff_exists.mp target
  unfold destroyRemoteRuntimeTab
  rw [final_bind, result_current, final_current, target]
  dsimp only
  split
  · unfold recoverRemoteClientRuntimeView
    rw [final_bind, result_current, final_current, syncRemoteClientRuntimeView]
    refine settled_perform trivial (fun client _ => by simp [change, served]) ?_ waits
    split
    · exact calm_of_aims (aims_publishActiveTab id)
    · exact performs_pure _
  · exact settled_perform trivial (fun _ _ => rfl) (calm_of_aims (aims_publishActiveTab id)) waits

/-- Every action on the list is answered. -/
theorem settled_handleRuntimeAction {client : ClientState}
    (connected : app.clients.value id = some client)
    (served : app.hasLocalGuiServer || app.hasRemoteServer) {action : RuntimeAction}
    (acknowledges : Acknowledges app client.runtimeView action)
    (waits : Holds app id (Waits base actionId)) :
    Holds (final Action.step (handleRuntimeAction id (some actionId) action) app) id
      (Settled base actionId) := by
  have known : app.viewOf id = some client.runtimeView := by
    rw [viewOf, connected]
    rfl
  cases action with
  | changeLocally viewId change =>
      exact settled_of_told (.changeLocally id viewId change) trivial
        (fun _ _ => by simp [StreamSteps.change]) waits
  | noop => exact settled_of_told (.tell id) trivial (fun _ _ => by simp [change]) waits
  | setViewedTab tabId => exact settled_setViewedTab tabId waits
  | focusPane tabId paneId =>
      obtain ⟨aimed, isAimed, member⟩ := acknowledges
      rw [handleRuntimeAction, final_bind, final_perform]
      exact settled_step _ trivial (settled_remoteFocusPane known isAimed member waits)
  | newTab answer =>
      obtain ⟨spawned, rfl⟩ := Option.isSome_iff_exists.mp acknowledges
      exact settled_perform trivial (fun _ _ => rfl) (calm_of_aims (aims_publishActiveTab id)) waits
  | closeTab tabId => exact settled_destroyRemoteRuntimeTab served acknowledges waits
  | nextTab | prevTab =>
      unfold handleRuntimeAction
      exact settled_setNeighbouringTab known _ acknowledges waits
  | attachView =>
      refine settled_perform trivial (fun _ _ => by simp [change]) ?_ waits
      refine performs_bind performs_current fun app => ?_
      split
      · exact performs_pure _
      · exact calm_of_aims (aims_publishRemoteTab id _)
  | detachView now => exact acknowledges.elim
  | newSplit direction answer =>
      rw [handleRuntimeAction, final_bind, result_current, final_current]
      refine settled_bind waits (plain_of_aims (aims_focusClientRuntimeTarget id)) fun app _ waits => ?_
      refine settled_bind waits (performs_perform fun _ => trivial) fun app _ waits => ?_
      refine settled_bind waits (plain_of_aims (aims_publishLocalChanges id _)) fun app _ waits => ?_
      exact settled_perform trivial (fun _ _ => rfl) (calm_of_aims (aims_publishActiveTab id)) waits
  | resizeSplit ratios =>
      obtain ⟨ready, held, viewed⟩ := viewOf_ensured known
      have aimed : ready.viewedTabId.isNone = false := by
        rw [viewed]
        exact Option.isNone_eq_false_iff.mpr acknowledges
      unfold handleRuntimeAction
      dsimp only
      rw [final_bind, result_ensure, final_ensure, held]
      dsimp only
      rw [if_neg (by simp [aimed])]
      refine settled_bind (waits_ensured waits)
        (plain_of_aims (aims_focusClientRuntimeTarget id)) fun app _ waits => ?_
      exact settled_perform trivial (fun _ _ => rfl) (calm_of_aims (aims_publishActiveTab id)) waits

/-- The actions that queue no `UiRuntimeState` and no screen. -/
def Queueless : Action → Prop
  | .initializeView _ | .repairView _ | .sendError _ _ _ | .assignViewedTab _ _
  | .detachView _ _ => True
  | _ => False

theorem queue_step {queue : List Sent} (action : Action) (queueless : Queueless action)
    (same : Holds app id fun stream => stream.queue = queue) :
    Holds (action.step app) id fun stream => stream.queue = queue := by
  refine same.step action ?_ fun client _ same result leads => ?_
  · rintro target isLocal rfl
    exact queueless
  · have silent : (change app id client action).news = .silent := by
      cases action with
      | initializeView _ | repairView _ | assignViewedTab _ _ | detachView _ _ =>
          simp only [change]
          split <;> rfl
      | sendError _ _ _ => rfl
      | _ => exact queueless.elim
    unfold Change.Leads at leads
    dsimp only at leads
    rw [silent] at leads
    rw [leads, queue_apply, same]

theorem queue_ensured {queue : List Sent}
    (same : Holds app id fun stream => stream.queue = queue) :
    Holds (ensured app id) id fun stream => stream.queue = queue := by
  unfold ensured
  split
  · exact same
  · split
    · exact queue_step (.repairView id) trivial (queue_step (.initializeView id) trivial same)
    · exact queue_step (.repairView id) trivial same

/-- Every other action queues nothing at all. -/
theorem queue_handleRuntimeAction {client : ClientState}
    (connected : app.clients.value id = some client) {action : RuntimeAction}
    (silent : ¬ Acknowledges app client.runtimeView action) {queue : List Sent}
    (same : Holds app id fun stream => stream.queue = queue) :
    Holds (final Action.step (handleRuntimeAction id (some actionId) action) app) id
      fun stream => stream.queue = queue := by
  have known : app.viewOf id = some client.runtimeView := by
    rw [viewOf, connected]
    rfl
  obtain ⟨ready, held, viewed⟩ := viewOf_ensured known
  cases action with
  | focusPane tabId paneId =>
      rw [handleRuntimeAction, final_bind, final_perform]
      refine queue_step (.assignViewedTab id tabId) trivial ?_
      unfold remoteFocusPane
      rw [final_bind, result_ensure, final_ensure, held]
      dsimp only
      rw [viewed]
      cases aimed : aimedTab app client.runtimeView with
      | none =>
          exact queue_step (.sendError id .noActiveTab "no active tab") trivial
            (queue_ensured same)
      | some tab =>
          dsimp only
          rw [final_bind, result_current, final_current, tabs_ensured,
            if_neg fun member => silent ⟨tab, aimed, member⟩]
          exact queue_ensured same
  | newTab answer =>
      cases answer with
      | none => exact queue_step (.sendError id .failedCreateTab "failed to create tab") trivial same
      | some spawned => exact absurd rfl silent
  | closeTab tabId =>
      have none_ : tabId.or app.activeRuntimeTabId = none := by
        simpa [Acknowledges] using silent
      show Holds (final Action.step (destroyRemoteRuntimeTab id tabId) app) id _
      unfold destroyRemoteRuntimeTab
      rw [final_bind, result_current, final_current, none_]
      exact queue_step (.sendError id .unknownTab "unknown tab") trivial same
  | nextTab | prevTab =>
      have noTab : (ensured app id).tabs.tabs.length = 0 := by
        rw [tabs_ensured]
        simpa [Acknowledges] using silent
      unfold handleRuntimeAction setNeighbouringTab
      dsimp only
      rw [final_bind, result_ensure, final_ensure, held]
      dsimp only
      rw [final_bind, result_current, final_current, if_pos noTab]
      exact queue_ensured same
  | detachView now => exact queue_step (.detachView id now) trivial same
  | resizeSplit ratios =>
      have none_ : ready.viewedTabId = none := by
        rw [viewed]
        simpa [Acknowledges] using silent
      unfold handleRuntimeAction
      dsimp only
      rw [final_bind, result_ensure, final_ensure, held]
      dsimp only
      rw [if_pos (by simp [none_])]
      exact queue_ensured same
  | _ => exact absurd trivial silent

end Answers

/-- A `UiRuntimeState` that acknowledges the action is queued between the two streams. -/
def Queues (actionId : UInt64) (before after : Stream) : Prop :=
  ∃ state, .told state ∈ after.queue.drop before.queue.length ∧
    state.ackedClientActionId = some actionId

section Acknowledged

variable (app : BooApp) (id : ClientId)

theorem queues_of_settled {base stream : Stream} {actionId : UInt64}
    (settled : Settled base actionId stream)
    (fresh : ∀ state ∈ base.told, state.ackedClientActionId ≠ some actionId) :
    Queues actionId base stream := by
  obtain ⟨⟨-, new, queue, heard⟩, state, last, answers⟩ := settled
  refine ⟨state, ?_, answers⟩
  rw [queue, List.drop_left]
  exact (heard state last).resolve_left fun known => fresh state known answers

/-- A runtime action is answered exactly if it is on the list: the client is then told of it
last, and a state that acknowledges it is queued unless the client was told of it before. -/
theorem runtimeAction_acked_iff {client : ClientState}
    (connected : app.clients.value id = some client)
    (served : app.hasLocalGuiServer || app.hasRemoteServer) (actionId : UInt64)
    (action : RuntimeAction) :
    ∃ result, (final Action.step (handleServerCmd (.remoteRuntimeAction id (some actionId) action))
        app).clients.value id = some result ∧
      (Acknowledges app client.runtimeView action → Answered actionId (streamOf result)) ∧
      ((∀ state ∈ (streamOf client).told, state.ackedClientActionId ≠ some actionId) →
        (Queues actionId (streamOf client) (streamOf result) ↔
          Acknowledges app client.runtimeView action)) := by
  have handled : final Action.step
      (handleServerCmd (.remoteRuntimeAction id (some actionId) action)) app =
        final Action.step (handleRuntimeAction id (some actionId) action)
          ((Action.ackAction id actionId).step app) := by
    rw [handleServerCmd, final_bind]
    rfl
  have acked : ((Action.ackAction id actionId).step app).clients.value id =
      some (client.updateView (·.ackAction actionId)) := by
    rw [Action.step, value_updateClientView, connected, Option.map_some, if_pos rfl]
  obtain ⟨result, atEnd⟩ := Option.isSome_iff_exists.mp (isSome_final
    ((acts_handleServerCmd (.remoteRuntimeAction id (some actionId) action)).mono
      fun _ _ acts => connects_of_acts acts) (Option.isSome_iff_exists.mpr ⟨client, connected⟩))
  rw [handled] at atEnd
  have waits : Holds ((Action.ackAction id actionId).step app) id
      (Waits (streamOf client) actionId) := by
    intro other held
    cases acked.symm.trans held
    exact ⟨rfl, [], (List.append_nil _).symm, fun state known => .inl known⟩
  have settled (acknowledges : Acknowledges app client.runtimeView action) :
      Settled (streamOf client) actionId (streamOf result) := by
    refine settled_handleRuntimeAction acked served ?_ waits result atEnd
    cases action <;> exact acknowledges
  rw [handled]
  refine ⟨result, atEnd, fun acknowledges => (settled acknowledges).2, fun fresh => ⟨?_, ?_⟩⟩
  · rintro ⟨state, queued, -⟩
    by_contra silent
    have same : (streamOf result).queue = (streamOf client).queue := by
      refine @queue_handleRuntimeAction _ id actionId _ acked action
        (fun acknowledges => silent ?_) _ (fun other held => ?_) result atEnd
      · cases action <;> exact acknowledges
      · cases acked.symm.trans held
        rfl
    rw [same, List.drop_length] at queued
    exact List.not_mem_nil queued
  · exact fun acknowledges => queues_of_settled (settled acknowledges) fresh

/-- Focusing the pane of the viewed tab is acknowledged in a state that is queued for it; focusing
another one is not. -/
theorem runtimeAction_acked_iff_focusPane :
    ∃ client own foreign, (after oneViewer freshServer).clients.value 1 = some client ∧
      (final Action.step (handleServerCmd (.remoteRuntimeAction 1 (some 7) (.focusPane 1 1)))
        (after oneViewer freshServer)).clients.value 1 = some own ∧
      (final Action.step (handleServerCmd (.remoteRuntimeAction 1 (some 7) (.focusPane 1 9)))
        (after oneViewer freshServer)).clients.value 1 = some foreign ∧
      Answered 7 (streamOf own) ∧ Queues 7 (streamOf client) (streamOf own) ∧
      ¬ Queues 7 (streamOf client) (streamOf foreign) := by
  have connected : ((after oneViewer freshServer).clients.value 1).isSome := by decide +kernel
  obtain ⟨client, held⟩ := Option.isSome_iff_exists.mp connected
  have facts : ((after oneViewer freshServer).clients.value 1).all (fun client =>
      decide ((streamOf client).told.bind UiRuntimeState.ackedClientActionId = none) &&
        decide (aimedTab (after oneViewer freshServer) client.runtimeView = some 1)) := by
    decide +kernel
  rw [held, Option.all_some, Bool.and_eq_true, decide_eq_true_iff, decide_eq_true_iff] at facts
  obtain ⟨untold, aimed⟩ := facts
  have fresh : ∀ state ∈ (streamOf client).told, state.ackedClientActionId ≠ some 7 := by
    intro state told acked
    rw [Option.mem_def.mp told, Option.bind_some, acked] at untold
    cases untold
  have served : (after oneViewer freshServer).hasLocalGuiServer ||
      (after oneViewer freshServer).hasRemoteServer := by decide +kernel
  have panes : (after oneViewer freshServer).tabs.paneIdsForTab 1 = [1] := by decide +kernel
  obtain ⟨own, ownEnd, answered, queues⟩ := runtimeAction_acked_iff (after oneViewer freshServer) 1
    held served 7 (.focusPane 1 1)
  obtain ⟨foreign, foreignEnd, -, unqueued⟩ := runtimeAction_acked_iff
    (after oneViewer freshServer) 1 held served 7 (.focusPane 1 9)
  have acknowledges : Acknowledges (after oneViewer freshServer) client.runtimeView
      (.focusPane 1 1) := ⟨1, aimed, by rw [panes]; exact List.mem_cons_self⟩
  refine ⟨client, own, foreign, held, ownEnd, foreignEnd, answered acknowledges,
    (queues fresh).mpr acknowledges, fun queued => ?_⟩
  obtain ⟨tabId, named, listed⟩ := (unqueued fresh).mp queued
  obtain rfl := Option.some.inj (aimed.symm.trans named)
  rw [panes] at listed
  exact absurd listed (by decide)

/-- Focusing a pane that is not in the viewed tab. -/
def foreignFocus : Command := .remoteRuntimeAction 1 (some 7) (.focusPane 1 9)

/-- Nothing is queued for it, and so no acknowledgement. -/
theorem foreignFocus_unacked :
    ¬ ∀ (app : BooApp) (id : ClientId) (client result : ClientState) (actionId : UInt64)
      (action : RuntimeAction), app.clients.value id = some client →
        (final Action.step (handleServerCmd (.remoteRuntimeAction id (some actionId) action))
          app).clients.value id = some result →
        Queues actionId (streamOf client) (streamOf result) := by
  intro queues
  have same : ((final Action.step (handleServerCmd foreignFocus)
      (after oneViewer freshServer)).clients.value 1).map (fun result => (streamOf result).queue) =
        ((after oneViewer freshServer).clients.value 1).map fun client =>
          (streamOf client).queue := by
    decide +kernel
  have connected : ((after oneViewer freshServer).clients.value 1).isSome := by decide +kernel
  obtain ⟨client, held⟩ := Option.isSome_iff_exists.mp connected
  rw [held, Option.map_some, Option.map_eq_some_iff] at same
  obtain ⟨result, atEnd, same⟩ := same
  obtain ⟨state, queued, -⟩ := queues _ 1 client result 7 (.focusPane 1 9) held atEnd
  rw [same, List.drop_length] at queued
  exact List.not_mem_nil queued

end Acknowledged

end Boo.Server.ActionAcks
