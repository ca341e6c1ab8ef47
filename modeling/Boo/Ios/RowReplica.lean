/- module: Boo/Ios/RowReplica
   digest: When the row cache of a pane agrees with its screen, update after update. -/

import Boo.Ios.ClientSteps
import Boo.Ios.Deliveries
import Boo.Lib.Runs

set_option autoImplicit false
set_option relaxedAutoImplicit false

namespace Boo.Ios.RowReplica

open Boo.Lib.LittleEndian
open Boo.Lib.OrderedMap
open Boo.Lib.Runs
open Boo.Lib.SnapshotLog
open Boo.Wire.Message
open Boo.Wire.Delta
open Boo.Wire.Overlay
open Boo.Wire.SwiftCodec
open Boo.Wire.SwiftDelta
open Boo.Server.Frames
open Boo.Server.Streams
open Boo.Ios.ProtocolClient
open Boo.Ios.ClientSteps
open Boo.Ios.Deliveries

/-- A pane as the server publishes it: `sent` is its entry in `pane_states`. -/
structure Feed where
  client : Client
  sent : Option Grid

/-- `forget` is the server clearing what it recorded as sent, as every view change does. -/
inductive FeedEvent
  | forget
  | publish (tabId : TabId) (paneRevision runtimeRevision : UInt64) (state : Grid)

section Feeding

variable (pane : PaneId)

def updateOf (feed : Feed) (tabId : TabId) (paneRevision runtimeRevision : UInt64)
    (state : Grid) : Sent :=
  .pane ⟨tabId, pane, paneRevision, runtimeRevision⟩ (nextUpdate feed.sent state)

def step (feed : Feed) : FeedEvent → Feed
  | .forget => { feed with sent := none }
  | .publish tabId paneRevision runtimeRevision state => {
      client := feed.client.handle
        (delivery (updateOf pane feed tabId paneRevision runtimeRevision state))
      sent := some state }

/-- The revision check of a full state, or the stricter one of a delta. -/
def Fresh (client : Client) (update : DecodedPaneUpdate) : Update → Prop
  | .full _ => client.paneUpdateIsNotOlder update
  | .patch _ => client.paneUpdateIsNewer update

instance (client : Client) (update : DecodedPaneUpdate) (content : Update) :
    Decidable (Fresh client update content) :=
  match content with
  | .full _ => inferInstanceAs (Decidable (client.paneUpdateIsNotOlder update))
  | .patch _ => inferInstanceAs (Decidable (client.paneUpdateIsNewer update))

/-- The client does not reject the update as out of view or stale. -/
def Accepts (feed : Feed) : FeedEvent → Prop
  | .forget => True
  | .publish tabId paneRevision runtimeRevision state =>
      feed.client.paneUpdateTargetsCurrentView
          (decodedHeader ⟨tabId, pane, paneRevision, runtimeRevision⟩) ∧
        Fresh feed.client (decodedHeader ⟨tabId, pane, paneRevision, runtimeRevision⟩)
          (nextUpdate feed.sent state)

instance (feed : Feed) (event : FeedEvent) : Decidable (Accepts pane feed event) :=
  match event with
  | .forget => inferInstanceAs (Decidable True)
  | .publish .. => inferInstanceAs (Decidable (_ ∧ _))

def screenRow (screen : DecodedWireScreenState) (row : Nat) : List DecodedWireCell :=
  slice screen.cells (row * screen.cols.toNat) screen.cols.toNat

/-- Every visible row of the stored screen is cached under its row id. -/
def Coherent (client : Client) : Prop :=
  ∃ replica screen, client.paneReplicas pane = some replica ∧
    client.paneScreens pane = some screen ∧
    ∀ row < screen.rows.toNat, replica.liveViewportTopRowId.toNat + row < 2 ^ 64 →
      replica.rowCache.find? (replica.liveViewportTopRowId + UInt64.ofNat row) =
        some (screenRow screen row)

/-- The pane is coherent after an update. -/
def CoherentAfter (feed : Feed) (event : FeedEvent) : Prop :=
  match event with
  | .forget => True
  | .publish .. => Coherent pane (step pane feed event).client

/-- The screen rows whose ids an update lists, in the order of its trailer. -/
def listing : Update → List Nat
  | .full state => List.range state.val.rows.toNat
  | .patch delta => differingRows delta.previous.val delta.current.val

/-- The last position at which the id of a row is listed. -/
def lastListed (state : Grid) (rows : List Nat) (row : Nat) : Option Nat :=
  (rows.zipIdx.reverse.find? fun listed =>
    rowId state.val listed.1 = rowId state.val row).map Prod.snd

/-- The rows that a pane keeps for a screen of this epoch and width. -/
def keptRows (client : Client) (epoch : UInt64) (cols : UInt16) :
    SortedMap UInt64 (List DecodedWireCell) :=
  match client.paneReplicas pane with
  | none => .empty
  | some replica =>
      if replica.epoch = epoch ∧ replica.cols = cols then replica.rowCache else .empty

/-- A row is listed last at the position of a row with the same cells, or it is not listed
and cached as it is now. -/
def InPlace (state : Grid) (kept : SortedMap UInt64 (List DecodedWireCell)) (row : Nat) :
    Option Nat → Prop
  | some position => rowCells state.val position = rowCells state.val row
  | none => kept.find? (rowId state.val row) = some ((rowCells state.val row).map decodedCell)

instance (state : Grid) (kept : SortedMap UInt64 (List DecodedWireCell)) (row : Nat)
    (position : Option Nat) : Decidable (InPlace state kept row position) :=
  match position with
  | some position =>
      inferInstanceAs (Decidable (rowCells state.val position = rowCells state.val row))
  | none => inferInstanceAs (Decidable (kept.find? (rowId state.val row) =
      some ((rowCells state.val row).map decodedCell)))

/-- The update lists every visible row in place, and the cache has room for the row. -/
def ListsInPlace (feed : Feed) : FeedEvent → Prop
  | .forget => True
  | .publish _ _ _ state =>
      let rows := listing (nextUpdate feed.sent state)
      let kept := keptRows pane feed.client state.val.epoch state.val.cols
      ∀ row < state.val.rows.toNat, state.val.viewportTop.toNat + row < 2 ^ 64 →
        InPlace state kept row (lastListed state rows row) ∧
        ((kept.keys ∪ (rows.map (rowId state.val)).toFinset).filter
          (rowId state.val row < ·)).card < maxRows

instance (feed : Feed) (event : FeedEvent) : Decidable (ListsInPlace pane feed event) :=
  match event with
  | .forget => inferInstanceAs (Decidable True)
  | .publish _ _ _ state => inferInstanceAs (Decidable (∀ row < state.val.rows.toNat, _ → _))

end Feeding

theorem decodedCell_injective : Function.Injective decodedCell := by
  intro a b same
  have byte : ∀ x y : Bool, boolByte x = boolByte y → x = y := by decide
  obtain ⟨codepoint, ⟨fr, fg, fb⟩, ⟨br, bg, bb⟩, styleFlags, wide⟩ := a
  obtain ⟨codepoint', ⟨fr', fg', fb'⟩, ⟨br', bg', bb'⟩, styleFlags', wide'⟩ := b
  simp only [decodedCell, DecodedWireCell.mk.injEq] at same
  obtain ⟨rfl, rfl, rfl, rfl, rfl, rfl, rfl, rfl, wideEq⟩ := same
  rw [byte wide wide' wideEq]

section Accepted

variable {pane : PaneId} {client : Client} {state : Grid} {screen : DecodedWireScreenState}

theorem rowCache_replicaForState (cols : UInt16) (metadata : DecodedRowReplicaMetadata) :
    (client.replicaForState pane cols metadata).rowCache =
      keptRows pane client metadata.epoch cols := by
  unfold Client.replicaForState keptRows
  dsimp only
  cases held : client.paneReplicas pane with
  | none =>
      dsimp only [Option.getD_none]
      split <;> rfl
  | some replica =>
      dsimp only [Option.getD_some]
      by_cases same : replica.epoch = metadata.epoch ∧ replica.cols = cols
      · have kept : ¬ (replica.epoch ≠ metadata.epoch ∨ replica.cols ≠ cols) := by
          simpa [not_or] using same
        rw [if_neg kept, if_pos same]
      · have other : replica.epoch ≠ metadata.epoch ∨ replica.cols ≠ cols := by
          rwa [not_and_or] at same
        rw [if_pos other, if_neg same]

theorem screenRow_eq (grid : SameGrid screen (decodedScreen state.val)) (row : Nat) :
    screenRow screen row = (rowCells state.val row).map decodedCell := by
  have cells : screen.cells = state.val.cells.map decodedCell :=
    congrArg ScreenState.cells grid
  have cols : screen.cols = state.val.cols := congrArg ScreenState.cols grid
  rw [screenRow, rowCells, cells, cols, slice, slice, List.map_take, List.map_drop]

/-- The listed ids, paired by position with the rows of the screen. -/
theorem listedRows_eq (grid : SameGrid screen (decodedScreen state.val)) {rows : List Nat}
    (few : rows.length ≤ state.val.rows.toNat) :
    listedRows screen (rows.map (rowId state.val)) =
      rows.zipIdx.map fun listed =>
        (rowId state.val listed.1, (rowCells state.val listed.2).map decodedCell) := by
  have cells : screen.cells.length = state.val.rows.toNat * state.val.cols.toNat := by
    have same : screen.cells = state.val.cells.map decodedCell :=
      congrArg ScreenState.cells grid
    rw [same, List.length_map, state.property.cells_length]
  have cols : screen.cols = state.val.cols := congrArg ScreenState.cols grid
  rw [listedRows, List.zipIdx_map, List.filterMap_map, ← List.filterMap_eq_map]
  refine List.filterMap_congr fun listed member => ?_
  obtain ⟨row, index⟩ := listed
  have below : index < state.val.rows.toNat := by
    have bound := List.snd_lt_of_mem_zipIdx member
    omega
  have whole : index * state.val.cols.toNat + state.val.cols.toNat ≤ screen.cells.length := by
    have step := Nat.mul_le_mul_right state.val.cols.toNat below
    rw [Nat.succ_mul] at step
    omega
  have cellsOf := screenRow_eq grid index
  rw [screenRow, cols] at cellsOf
  simp only [Function.comp_apply, Prod.map_apply, id_eq, cols]
  rw [if_pos whole, cellsOf]

theorem lastOf_listed (state : Grid) (rows : List Nat) (row : Nat) :
    SortedMap.lastOf (rows.zipIdx.map fun listed =>
        (rowId state.val listed.1, (rowCells state.val listed.2).map decodedCell))
      (rowId state.val row) =
      (lastListed state rows row).map fun position =>
        (rowCells state.val position).map decodedCell := by
  rw [SortedMap.lastOf, lastListed, ← List.map_reverse, List.find?_map, Option.map_map,
    Option.map_map]
  rfl

/-- The row cache that an accepted screen leaves, row by row. -/
theorem coherent_acceptPaneScreen_iff (update : DecodedPaneUpdate)
    (grid : SameGrid screen (decodedScreen state.val)) {rows : List Nat}
    (few : rows.length ≤ state.val.rows.toNat)
    (replica : screen.rowReplica = some (replicaOf state.val (rows.map (rowId state.val)))) :
    Coherent update.paneId (client.acceptPaneScreen update screen) ↔
      ∀ row < state.val.rows.toNat, state.val.viewportTop.toNat + row < 2 ^ 64 →
        InPlace state (keptRows update.paneId client state.val.epoch state.val.cols) row
          (lastListed state rows row) ∧
        (((keptRows update.paneId client state.val.epoch state.val.cols).keys ∪
          (rows.map (rowId state.val)).toFinset).filter (rowId state.val row < ·)).card <
            maxRows := by
  have rowsEq : screen.rows = state.val.rows := congrArg ScreenState.rows grid
  have cols : screen.cols = state.val.cols := congrArg ScreenState.cols grid
  have stored : (client.acceptPaneScreen update screen).paneScreens update.paneId = some screen := by
    rw [(paneScreens_acceptPaneScreen client update screen).1, Function.update_self]
  have written : ∃ held, (client.acceptPaneScreen update screen).paneReplicas update.paneId =
      some held ∧ held.liveViewportTopRowId = state.val.viewportTop ∧
      held.rowCache = ((keptRows update.paneId client state.val.epoch state.val.cols).insertAll
        (rows.zipIdx.map fun listed => (rowId state.val listed.1,
          (rowCells state.val listed.2).map decodedCell))).keepLargest maxRows := by
    rw [paneReplicas_acceptPaneScreen]
    unfold Client.updatePaneReplica
    rw [replica]
    refine ⟨_, Function.update_self .., rfl, ?_⟩
    show (SortedMap.insertAll _ (listedRows screen (rows.map (rowId state.val)))).keepLargest
      maxRows = _
    rw [rowCache_replicaForState, listedRows_eq grid few, cols]
    rfl
  obtain ⟨held, present, top, rowCache⟩ := written
  have single : Coherent update.paneId (client.acceptPaneScreen update screen) ↔
      ∀ row < state.val.rows.toNat, state.val.viewportTop.toNat + row < 2 ^ 64 →
        held.rowCache.find? (rowId state.val row) =
          some ((rowCells state.val row).map decodedCell) := by
    have identity : ∀ row, row < state.val.rows.toNat →
        state.val.viewportTop.toNat + row < 2 ^ 64 →
        rowId state.val row = state.val.viewportTop + UInt64.ofNat row := by
      intro row below fits
      have number : (UInt64.ofNat row).toNat = row :=
        UInt64.toNat_ofNat_of_lt' (Nat.lt_of_le_of_lt (Nat.le_add_left _ _) fits)
      rw [rowId, saturatingAdd, number, if_pos fits]
    constructor
    · rintro ⟨other, shown, found, foundScreen, all⟩ row below fits
      rw [present] at found
      rw [stored] at foundScreen
      cases found
      cases foundScreen
      rw [top, rowsEq] at all
      rw [identity row below fits, ← screenRow_eq grid]
      exact all row below fits
    · intro all
      refine ⟨held, screen, present, stored, ?_⟩
      rw [top, rowsEq]
      intro row below fits
      rw [screenRow_eq grid, ← identity row below fits]
      exact all row below fits
  rw [single]
  refine forall_congr' fun row => forall_congr' fun below => forall_congr' fun fits => ?_
  have keys : ((rows.zipIdx.map fun listed => (rowId state.val listed.1,
      (rowCells state.val listed.2).map decodedCell)).map Prod.fst) =
        rows.map (rowId state.val) := by
    rw [List.map_map, ← List.zipIdx_map_fst 0 rows, List.map_map, List.zipIdx_map_fst]
    rfl
  rw [rowCache, SortedMap.find?_keepLargest, SortedMap.keys_insertAll, keys,
    SortedMap.find?_insertAll, lastOf_listed]
  have rowsSame : ∀ position, (rowCells state.val position).map decodedCell =
      (rowCells state.val row).map decodedCell ↔
        rowCells state.val position = rowCells state.val row :=
    fun position => decodedCell_injective.list_map.eq_iff
  split
  · rename_i room
    cases lastListed state rows row with
    | none =>
        rw [Option.map_none, Option.none_or]
        exact (and_iff_left room).symm
    | some position =>
        rw [Option.map_some, Option.some_or, Option.some_inj]
        exact (rowsSame position).trans (and_iff_left room).symm
  · rename_i full
    exact ⟨fun nothing => (by cases nothing), fun both => absurd both.2 full⟩

end Accepted

section Run

variable {pane : PaneId}

/-- The client stores the screen that the server recorded as sent. -/
def Stored (pane : PaneId) (feed : Feed) : Prop :=
  ∀ sent ∈ feed.sent, feed.client.paneFullStateSeen pane = true ∧
    ∃ screen, feed.client.paneScreens pane = some screen ∧
      SameGrid screen (decodedScreen sent.val)

theorem length_listing_le (previous : Option Grid) (state : Grid) :
    (listing (nextUpdate previous state)).length ≤ state.val.rows.toNat := by
  rcases nextUpdate_cases previous state with full | ⟨delta, -, rfl, patch⟩
  · rw [full, listing, List.length_range]
  · rw [patch, listing, ← map_row_changedRows, List.length_map]
    exact length_changedRows_le _ _

/-- An update that passes the client's checks is accepted with the screen of its state. -/
theorem handle_accepted {feed : Feed} {tabId : TabId} {paneRevision runtimeRevision : UInt64}
    {state : Grid} (stored : Stored pane feed)
    (accepts : Accepts pane feed (.publish tabId paneRevision runtimeRevision state)) :
    ∃ screen, (step pane feed (.publish tabId paneRevision runtimeRevision state)).client =
        feed.client.acceptPaneScreen (decodedHeader ⟨tabId, pane, paneRevision, runtimeRevision⟩)
          screen ∧
      SameGrid screen (decodedScreen state.val) ∧
      screen.rowReplica = some (replicaOf state.val
        ((listing (nextUpdate feed.sent state)).map (rowId state.val))) := by
  obtain ⟨targets, fresh⟩ := accepts
  show ∃ screen, feed.client.handle (delivery (.pane _ (nextUpdate feed.sent state))) = _ ∧ _
  rcases nextUpdate_cases feed.sent state with full | ⟨delta, sent, rfl, patch⟩
  · rw [full] at fresh ⊢
    unfold Fresh at fresh
    refine ⟨decodedScreen state.val, ?_, rfl, rfl⟩
    rw [handle_paneFullState, Client.applyPaneFullState, if_neg (not_not.mpr targets),
      if_neg (not_not.mpr fresh)]
  · rw [patch] at fresh ⊢
    unfold Fresh at fresh
    obtain ⟨seen, base, held, grid⟩ := stored delta.previous sent
    refine ⟨patched delta base, ?_, patched_sameGrid grid, rfl⟩
    have seen' : feed.client.paneFullStateSeen
        (decodedHeader ⟨tabId, pane, paneRevision, runtimeRevision⟩).paneId = true := seen
    have held' : feed.client.paneScreens
        (decodedHeader ⟨tabId, pane, paneRevision, runtimeRevision⟩).paneId = some base := held
    rw [handle_paneDelta, Client.applyPaneDelta, if_neg (not_not.mpr targets),
      if_neg (not_not.mpr fresh), seen', held']
    dsimp only
    rw [applyPaneDelta_patch]

theorem stored_step (feed : Feed) (event : FeedEvent) (stored : Stored pane feed)
    (accepts : Accepts pane feed event) : Stored pane (step pane feed event) := by
  cases event with
  | forget => exact fun sent member => by cases member
  | publish tabId paneRevision runtimeRevision state =>
      obtain ⟨screen, accepted, grid, -⟩ := handle_accepted stored accepts
      obtain ⟨screens, seen⟩ := paneScreens_acceptPaneScreen feed.client
        (decodedHeader ⟨tabId, pane, paneRevision, runtimeRevision⟩) screen
      intro sent member
      cases member
      rw [accepted, screens, seen]
      exact ⟨Function.update_self .., screen, Function.update_self .., grid⟩

theorem coherentAfter_iff (feed : Feed) (event : FeedEvent) (stored : Stored pane feed)
    (accepts : Accepts pane feed event) :
    CoherentAfter pane feed event ↔ ListsInPlace pane feed event := by
  cases event with
  | forget => exact Iff.rfl
  | publish tabId paneRevision runtimeRevision state =>
      obtain ⟨screen, accepted, grid, replica⟩ := handle_accepted stored accepts
      show Coherent pane (step pane feed _).client ↔ _
      rw [accepted]
      exact coherent_acceptPaneScreen_iff
        (decodedHeader ⟨tabId, pane, paneRevision, runtimeRevision⟩) grid
        (length_listing_le feed.sent state) replica

/-- After every accepted update the row cache agrees with the screen, exactly when every
update lists its rows in place. -/
theorem coherent_always_iff (pane : PaneId) (client : Client) (events : List FeedEvent)
    (accepted : Always (step pane) (Accepts pane) ⟨client, none⟩ events) :
    Always (step pane) (CoherentAfter pane) ⟨client, none⟩ events ↔
      Always (step pane) (ListsInPlace pane) ⟨client, none⟩ events :=
  always_congr (fun feed event stored admitted _ => stored_step feed event stored admitted)
    coherentAfter_iff (fun _ member => by cases member) accepted

/-- A screen of two rows, each of one character. -/
def twoRows (first second : UInt32) : Grid :=
  smallScreen first first second second

/-- A change of the first row is listed in place. -/
def firstRowChanges : List FeedEvent :=
  [.publish 1 1 1 (twoRows 65 65), .publish 1 2 1 (twoRows 66 65)]

theorem coherent_always_iff_firstRowChanges :
    Always (step 7) (CoherentAfter 7) ⟨Client.new, none⟩ firstRowChanges :=
  (coherent_always_iff 7 Client.new firstRowChanges
    ⟨by decide +kernel, by decide +kernel, trivial⟩).mpr
      ⟨by decide +kernel, by decide +kernel, trivial⟩

/-- A change of the second row alone is listed first, and paired with the first row. -/
def secondRowChanges : List FeedEvent :=
  [.publish 1 1 1 (twoRows 65 65), .publish 1 2 1 (twoRows 65 66)]

theorem secondRowChanges_incoherent :
    ¬ ∀ (pane : PaneId) (client : Client) (events : List FeedEvent),
      Always (step pane) (Accepts pane) ⟨client, none⟩ events →
        Always (step pane) (CoherentAfter pane) ⟨client, none⟩ events := by
  intro all
  obtain ⟨-, coherent, -⟩ := all 7 Client.new secondRowChanges
    ⟨by decide +kernel, by decide +kernel, trivial⟩
  have stored : Stored 7 (step 7 ⟨Client.new, none⟩ (.publish 1 1 1 (twoRows 65 65))) :=
    stored_step _ _ (fun _ member => by cases member) (by decide +kernel)
  rw [coherentAfter_iff _ _ stored (by decide +kernel)] at coherent
  exact absurd coherent (by decide +kernel)

end Run

end Boo.Ios.RowReplica
