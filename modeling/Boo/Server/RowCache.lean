/- module: Boo/Server/RowCache
   digest: The retained rows of a pane, which give a rendered state its epoch and row total. -/

import Boo.Server.View
import Boo.Lib.RowMajor

set_option autoImplicit false
set_option relaxedAutoImplicit false

namespace Boo.Server.RowCache

open Boo.Lib.RowMajor
open Boo.Wire.Message
open Boo.Server.View

def maxRetainedRows : Nat := 10000

/-- `rows` is an ordered map from row ids to cells. -/
structure PaneRowCache where
  epoch : UInt64
  cols : UInt16
  retainedStart : UInt64
  retainedEnd : UInt64
  rows : List (UInt64 × List RemoteCell)
  deriving DecidableEq

namespace PaneRowCache

def empty : PaneRowCache where
  epoch := 0
  cols := 0
  retainedStart := 0
  retainedEnd := 0
  rows := []

end PaneRowCache

def insertRow (rowId : UInt64) (cells : List RemoteCell) :
    List (UInt64 × List RemoteCell) → List (UInt64 × List RemoteCell)
  | [] => [(rowId, cells)]
  | row :: rows =>
      if rowId < row.1 then (rowId, cells) :: row :: rows
      else if rowId = row.1 then (rowId, cells) :: rows
      else row :: insertRow rowId cells rows

/-- A change of width, or a screen above all retained rows, starts a new epoch. -/
def refreshEpoch (cache : PaneRowCache) (state : RemoteFullState) : PaneRowCache :=
  let visibleEnd := saturatingAdd state.viewportTop (UInt64.ofNat state.rows.toNat)
  let colsChanged := cache.cols ≠ 0 ∧ cache.cols ≠ state.cols
  let rowIdsRegressed := cache.retainedEnd ≠ 0 ∧ visibleEnd < cache.retainedStart
  let started :=
    if colsChanged ∨ rowIdsRegressed then { PaneRowCache.empty with
      epoch := bumpRevision cache.epoch }
    else cache
  { started with
    cols := state.cols
    epoch := if started.epoch = 0 then 1 else started.epoch }

def retainRows (cache : PaneRowCache) (state : RemoteFullState) : PaneRowCache :=
  let visibleEnd := saturatingAdd state.viewportTop (UInt64.ofNat state.rows.toNat)
  let inserted := (chunks state.cols.toNat state.cells).zipIdx.foldl (fun rows (cells, index) =>
    insertRow (saturatingAdd state.viewportTop (UInt64.ofNat index)) cells rows) cache.rows
  let rows := inserted.drop (inserted.length - maxRetainedRows)
  { cache with
    rows := rows
    retainedStart := (rows.head?.map Prod.fst).getD state.viewportTop
    retainedEnd := (rows.getLast?.map fun row => saturatingAdd row.1 1).getD visibleEnd }

/-- `apply_row_cache_metadata`. -/
def applyRowCacheMetadata (cache : PaneRowCache) (state : Grid) : PaneRowCache × Grid :=
  let next := retainRows (refreshEpoch cache state.val) state.val
  (next, ⟨{ state.val with
    epoch := next.epoch
    scrollbackTotal := max state.val.scrollbackTotal next.retainedEnd },
    ⟨state.property.rows_pos, state.property.cols_pos, state.property.cells_length⟩⟩)

/-- The same screen, whatever the row cache says of its history. -/
def SameScreen (a b : Grid) : Prop :=
  { a.val with
    epoch := b.val.epoch
    scrollbackTotal := b.val.scrollbackTotal } = b.val

theorem SameScreen.trans {a b c : Grid} (first : SameScreen a b) (next : SameScreen b c) :
    SameScreen a c := by
  unfold SameScreen at first next ⊢
  rw [← first] at next
  exact next

theorem sameScreen_applyRowCacheMetadata (cache : PaneRowCache) (state : Grid) :
    SameScreen (applyRowCacheMetadata cache state).2 state := rfl

end Boo.Server.RowCache
