/- module: Boo/Server/RowRanges
   digest: The retained rows over a run, and the replies to row-range requests. -/

import Boo.Server.Handlers
import Boo.Wire.RowRange

set_option autoImplicit false
set_option relaxedAutoImplicit false

namespace Boo.Server.RowRanges

open Boo.Lib.RowMajor
open Boo.Lib.Script
open Boo.Wire.Message
open Boo.Wire.RowRange
open Boo.Server.Frames
open Boo.Server.View
open Boo.Server.RowCache
open Boo.Server.App
open Boo.Server.App.BooApp
open Boo.Server.Actions
open Boo.Server.Handlers
open Boo.Runtime.Splits
open Boo.Runtime.Ui

/-- The cache of a pane that was never rendered does not exist; it has the epoch 0 here. -/
def remoteRowRangeResponse (caches : PaneId → PaneRowCache) (request : RemoteRowRangeRequest) :
    Option RemoteRowRangeResponse :=
  let cache := caches request.paneId
  if cache.epoch = 0 then none
  else if cache.epoch ≠ request.epoch then some {
    paneId := request.paneId
    epoch := cache.epoch
    cols := cache.cols
    startRowId := request.startRowId
    rows := [] }
  else
    let start := min request.startRowId request.endRowId
    let stop := max request.endRowId request.startRowId
    some {
      paneId := request.paneId
      epoch := cache.epoch
      cols := cache.cols
      startRowId := start
      rows := cache.rows.filter fun row => start ≤ row.1 ∧ row.1 < stop }

/-- What the retention limit and the 16-bit width of a screen make of a cache. -/
structure RetainedFit (cache : PaneRowCache) : Prop where
  rows : cache.rows.length ≤ maxRetainedRows
  cells : ∀ row ∈ cache.rows, row.2.length ≤ 65535

theorem retainedFit_empty : RetainedFit .empty where
  rows := Nat.zero_le _
  cells := fun _ member => by cases member

/-- A rendered cache exists. -/
theorem epoch_applyRowCacheMetadata (cache : PaneRowCache) (state : Grid) :
    (applyRowCacheMetadata cache state).1.epoch ≠ 0 := by
  have positive : ∀ epoch : UInt64, (if epoch = 0 then 1 else epoch) ≠ 0 := by
    intro epoch
    split
    · decide
    · assumption
  exact positive _

theorem mem_insertRow {rowId : UInt64} {cells : List RemoteCell}
    {rows : List (UInt64 × List RemoteCell)} {row : UInt64 × List RemoteCell}
    (member : row ∈ insertRow rowId cells rows) : row = (rowId, cells) ∨ row ∈ rows := by
  induction rows with
  | nil => exact .inl (List.mem_singleton.mp member)
  | cons first rows ih =>
      unfold insertRow at member
      split at member
      · exact List.mem_cons.mp member
      · split at member
        · rcases List.mem_cons.mp member with same | later
          · exact .inl same
          · exact .inr (List.mem_cons_of_mem _ later)
        · rcases List.mem_cons.mp member with same | later
          · exact .inr (same ▸ List.mem_cons_self)
          · rcases ih later with inserted | old
            · exact .inl inserted
            · exact .inr (List.mem_cons_of_mem _ old)

theorem rows_refreshEpoch (cache : PaneRowCache) (state : RemoteFullState) :
    (refreshEpoch cache state).rows = cache.rows ∨ (refreshEpoch cache state).rows = [] := by
  unfold refreshEpoch
  dsimp only
  split
  · exact .inr rfl
  · exact .inl rfl

theorem retainedFit_applyRowCacheMetadata {cache : PaneRowCache} (fit : RetainedFit cache)
    (state : Grid) : RetainedFit (applyRowCacheMetadata cache state).1 := by
  have wide : ∀ row ∈ chunks state.val.cols.toNat state.val.cells, row.length ≤ 65535 := by
    intro row member
    rw [uniform_chunks state.property.cols_pos state.property.cells_length row member]
    have small : state.val.cols.toNat < 2 ^ 16 := state.val.cols.toNat_lt
    omega
  have old : ∀ row ∈ (refreshEpoch cache state.val).rows, row.2.length ≤ 65535 := by
    intro row member
    rcases rows_refreshEpoch cache state.val with same | cleared
    · exact fit.cells row (same ▸ member)
    · rw [cleared] at member
      cases member
  have inserted : ∀ row ∈ (chunks state.val.cols.toNat state.val.cells).zipIdx.foldl
      (fun rows (chunk : List RemoteCell × Nat) =>
        insertRow (saturatingAdd state.val.viewportTop (UInt64.ofNat chunk.2)) chunk.1 rows)
      (refreshEpoch cache state.val).rows, row.2.length ≤ 65535 := by
    refine List.foldlRecOn (motive := fun (rows : List (UInt64 × List RemoteCell)) =>
      ∀ row ∈ rows, row.2.length ≤ 65535) _ _ old ?_
    rintro rows fitting ⟨cells, index⟩ chunk row member
    rcases mem_insertRow member with rfl | earlier
    · exact wide cells (List.fst_mem_of_mem_zipIdx chunk)
    · exact fitting row earlier
  refine ⟨?_, ?_⟩
  · unfold applyRowCacheMetadata retainRows
    dsimp only
    rw [List.length_drop]
    omega
  · intro row member
    unfold applyRowCacheMetadata retainRows at member
    dsimp only at member
    exact inserted row (List.mem_of_mem_drop member)

/-- What the server keeps of its panes besides their tabs. -/
def paneStores (app : BooApp) : (PaneId → PaneRowCache) × (PaneId → Option (UInt64 × Grid)) :=
  (app.paneRowCaches, app.paneTerminalRevisions)

section Stores

variable (app : BooApp)

@[simp] theorem paneStores_applyEffects (effects : List UiEffect) :
    paneStores (app.applyEffects effects) = paneStores app := by
  apply applyEffects_reading
  intro before effect
  unfold applyEffect
  split <;> rfl

@[simp] theorem paneStores_syncClientView (client : ClientId) :
    paneStores (app.syncClientView client) = paneStores app := by
  unfold syncClientView
  split <;> rfl

@[simp] theorem paneStores_tellLocalViewers :
    paneStores app.tellLocalViewers = paneStores app := by
  unfold tellLocalViewers
  split <;> rfl

theorem paneStores_broadcast : paneStores app.broadcast = paneStores app := rfl

theorem paneStores_poll (outcome : PollOutcome) :
    paneStores (app.poll outcome) = paneStores app := by
  unfold poll
  dsimp only
  split
  · split <;> rfl
  · rfl

/-- Only a publication fills these stores, and only the destruction of a tab clears them. -/
theorem paneStores_step (action : Action)
    (publishes : ∀ client tabId, action ≠ .publishTo client tabId)
    (destroys : ∀ index, action ≠ .destroyTab index) :
    paneStores (action.step app) = paneStores app := by
  cases action with
  | applyEffects effects => exact paneStores_applyEffects app effects
  | effectsBy client effects =>
      rw [Action.step, paneStores_syncClientView, paneStores_applyEffects]
  | effectsAndBroadcast client effects =>
      rw [Action.step, paneStores_broadcast, paneStores_syncClientView, paneStores_applyEffects]
  | effectsAndTellLocal client effects =>
      rw [Action.step, paneStores_tellLocalViewers, paneStores_syncClientView,
        paneStores_applyEffects]
  | tellLocalViewers => exact paneStores_tellLocalViewers app
  | syncClientView client => exact paneStores_syncClientView app client
  | syncRuntimeView client subscribe =>
      show paneStores (app.syncRuntimeView client subscribe) = _
      unfold syncRuntimeView
      split <;> rfl
  | createTab client spawned ack =>
      show paneStores (app.createTab client spawned ack) = _
      unfold createTab
      dsimp only
      split <;> rfl
  | destroyTab index => exact absurd rfl (destroys index)
  | focusClientPane client tabId paneId =>
      show paneStores (app.focusClientPane client tabId paneId) = _
      unfold focusClientPane
      split <;> rfl
  | writeInput pane bytes =>
      show paneStores (app.writeInput pane bytes) = _
      unfold writeInput
      split <;> rfl
  | publishTo client tabId => exact absurd rfl (publishes client tabId)
  | poll outcome => exact paneStores_poll app outcome
  | sweepIdleViews now =>
      show paneStores (app.sweepIdleViews now viewIdleTimeout) = _
      unfold sweepIdleViews
      split <;> rfl
  | _ => rfl

theorem paneRowCaches_step (action : Action)
    (publishes : ∀ client tabId, action ≠ .publishTo client tabId) :
    (action.step app).paneRowCaches = app.paneRowCaches := by
  by_cases destroys : ∃ index, action = .destroyTab index
  · obtain ⟨index, rfl⟩ := destroys
    rfl
  · exact congrArg Prod.fst (paneStores_step app action publishes fun index same =>
      destroys ⟨index, same⟩)

end Stores

section Caches

variable {P : PaneRowCache → Prop} {app : BooApp}

/-- Rendering a pane is all that changes its cache. -/
theorem all_remoteFullStateForPane (renders : ∀ cache state, P cache →
    P (applyRowCacheMetadata cache state).1) (all : ∀ paneId, P (app.paneRowCaches paneId))
    (paneId : PaneId) :
    ∀ other, P ((app.remoteFullStateForPane paneId).2.paneRowCaches other) := by
  intro other
  unfold remoteFullStateForPane
  split
  · exact all other
  · rename_i terminal held
    show P (Function.update app.paneRowCaches paneId _ other)
    by_cases same : other = paneId
    · subst same
      rw [Function.update_self]
      exact renders _ terminal.state (all other)
    · rw [Function.update_of_ne same]
      exact all other

theorem all_publishFocusedPane (renders : ∀ cache state, P cache →
    P (applyRowCacheMetadata cache state).1) (all : ∀ paneId, P (app.paneRowCaches paneId))
    (client : ClientId) (paneId : PaneId) :
    ∀ other, P ((app.publishFocusedPane client paneId).paneRowCaches other) := by
  have rendered := all_remoteFullStateForPane renders all paneId
  unfold publishFocusedPane
  split
  · rename_i after same
    rwa [same] at rendered
  · rename_i state after same
    rwa [same] at rendered

theorem paneRowCaches_paneTerminalRevision (app : BooApp) (paneId : PaneId) (state : Grid) :
    (app.paneTerminalRevision paneId state).2.paneRowCaches = app.paneRowCaches := by
  unfold paneTerminalRevision
  split
  · split <;> rfl
  · rfl

theorem all_publishVisiblePane (renders : ∀ cache state, P cache →
    P (applyRowCacheMetadata cache state).1) (all : ∀ paneId, P (app.paneRowCaches paneId))
    (client : ClientId) (tabId : TabId) (paneId : PaneId) :
    ∀ other, P ((app.publishVisiblePane client tabId paneId).paneRowCaches other) := by
  have rendered := all_remoteFullStateForPane renders all paneId
  unfold publishVisiblePane
  split
  · rename_i after same
    rwa [same] at rendered
  · rename_i state after same
    rw [same] at rendered
    intro other
    show P ((after.paneTerminalRevision paneId state).2.paneRowCaches other)
    rw [paneRowCaches_paneTerminalRevision]
    exact rendered other

theorem all_publishTo (renders : ∀ cache state, P cache →
    P (applyRowCacheMetadata cache state).1) (all : ∀ paneId, P (app.paneRowCaches paneId))
    (client : ClientId) (tabId : TabId) :
    ∀ other, P ((app.publishTo client tabId).paneRowCaches other) := by
  unfold publishTo
  split
  · exact all
  · split
    · refine List.foldlRecOn (motive := fun (app : BooApp) => ∀ other, P (app.paneRowCaches other))
        _ _ ?_ fun app all paneId _ => all_publishVisiblePane renders all client tabId paneId
      split
      · exact all
      · exact all_publishFocusedPane renders all client _
    · exact all

/-- What rendering keeps of every cache, every action keeps of them all. -/
theorem all_step (renders : ∀ cache state, P cache → P (applyRowCacheMetadata cache state).1)
    (all : ∀ paneId, P (app.paneRowCaches paneId)) (action : Action) :
    ∀ paneId, P ((action.step app).paneRowCaches paneId) := by
  by_cases publishes : ∃ client tabId, action = .publishTo client tabId
  · obtain ⟨client, tabId, rfl⟩ := publishes
    exact all_publishTo renders all client tabId
  · rw [paneRowCaches_step app action fun client tabId same => publishes ⟨client, tabId, same⟩]
    exact all

end Caches

theorem retainedFit_after (appearance : UiAppearance) (frame : Rect)
    (hasLocalGuiServer hasRemoteServer : Bool) (steps : List Step) (paneId : PaneId) :
    RetainedFit
      ((after steps (start appearance frame hasLocalGuiServer hasRemoteServer)).paneRowCaches
        paneId) := by
  refine @after_always (fun app => ∀ paneId, RetainedFit (app.paneRowCaches paneId)) _
    (fun app action all => ?_) steps (fun _ => retainedFit_empty) paneId
  exact @all_step RetainedFit app
    (fun _ state fit => retainedFit_applyRowCacheMetadata fit state) all action

theorem fits_remoteRowRangeResponse {caches : PaneId → PaneRowCache}
    (fit : ∀ paneId, RetainedFit (caches paneId)) {request : RemoteRowRangeRequest}
    {response : RemoteRowRangeResponse}
    (answered : remoteRowRangeResponse caches request = some response) : response.Fits := by
  unfold remoteRowRangeResponse at answered
  dsimp only at answered
  split at answered
  · cases answered
  · split at answered
    · cases answered
      exact ⟨Nat.zero_le _, fun _ member => by cases member⟩
    · cases answered
      refine ⟨?_, fun row member => (fit _).cells row (List.mem_of_mem_filter member)⟩
      have few := (fit request.paneId).rows
      have fewer := List.length_filter_le
        (fun row : UInt64 × List RemoteCell =>
          decide (min request.startRowId request.endRowId ≤ row.1 ∧
            row.1 < max request.endRowId request.startRowId))
        (caches request.paneId).rows
      rw [maxRetainedRows] at few
      exact Nat.le_trans fewer (by omega)

/-- A reply of the server reads back on the client exactly if it has a row. -/
theorem rowRangeResponse_roundTrip_iff (appearance : UiAppearance) (frame : Rect)
    (hasLocalGuiServer hasRemoteServer : Bool) (steps : List Step)
    (request : RemoteRowRangeRequest) (response : RemoteRowRangeResponse)
    (answered : remoteRowRangeResponse
      (after steps (start appearance frame hasLocalGuiServer hasRemoteServer)).paneRowCaches
        request = some response) :
    decodeRowRangeResponse (encodeRowRangeResponse response) = some (decodedResponse response) ↔
      response.rows ≠ [] := by
  have fits := fits_remoteRowRangeResponse
    (retainedFit_after appearance frame hasLocalGuiServer hasRemoteServer steps) answered
  rw [decodeRowRangeResponse_encode fits]
  by_cases empty : response.rows = []
  · simp [empty]
  · simp [empty]

theorem rowRangeResponse_roundTrip_iff_oneViewer :
    ∃ response, remoteRowRangeResponse (after oneViewer freshServer).paneRowCaches ⟨1, 1, 0, 2⟩ =
        some response ∧
      (decodeRowRangeResponse (encodeRowRangeResponse response) =
        some (decodedResponse response) ↔ response.rows ≠ []) :=
  ⟨_, rfl, rowRangeResponse_roundTrip_iff plainAppearance unitFrame true false oneViewer
    ⟨1, 1, 0, 2⟩ _ rfl⟩

/-- A request under an epoch that is over gets a reply without rows, which is too short. -/
theorem emptyRowRange_rejected :
    ∃ response, remoteRowRangeResponse (after oneViewer freshServer).paneRowCaches ⟨1, 9, 0, 2⟩ =
        some response ∧
      decodeRowRangeResponse (encodeRowRangeResponse response) = none :=
  ⟨⟨1, 1, 2, 0, []⟩, rfl, rfl⟩

end Boo.Server.RowRanges
