/- module: Boo/Server/StaleRows
   digest: When the cache of a pane keeps rows that its terminal no longer has. -/

import Boo.Server.RowRanges
import Boo.Server.RowRetention

set_option autoImplicit false
set_option relaxedAutoImplicit false

namespace Boo.Server.StaleRows

open Boo.Lib.Runs
open Boo.Wire.Message
open Boo.Wire.RowRange
open Boo.Server.Frames
open Boo.Server.RowCache
open Boo.Server.RowRanges
open Boo.Server.RowRetention (Sorted Clears baseRows insertedRows screenRows mem_consecutive mem_below
  mem_from insertedRows_eq length_screenRows next_rows sorted_next retainedEnd_next le_getLast
  toNat_succ sorted_inserted)

def step (cache : PaneRowCache) (state : Grid) : PaneRowCache := (applyRowCacheMetadata cache state).1

/-- What a terminal that reports `n` rows leaves: no id from `n` on in the cache or in a reply to a
row-range request, and the total `n` in the state that is sent. -/
structure NoStaleRows (cache : PaneRowCache) (state : Grid) : Prop where
  cached : ∀ row ∈ (step cache state).rows, row.1 < state.val.scrollbackTotal
  total : (applyRowCacheMetadata cache state).2.val.scrollbackTotal = state.val.scrollbackTotal
  served : ∀ (caches : PaneId → PaneRowCache) (request : RemoteRowRangeRequest),
    caches request.paneId = step cache state →
      ∀ response ∈ remoteRowRangeResponse caches request, ∀ row ∈ response.rows,
        row.1 < state.val.scrollbackTotal

/-- The viewport lies inside the rows that the terminal reports. -/
def ViewportInside (state : Grid) : Prop :=
  state.val.viewportTop.toNat + state.val.rows.toNat ≤ state.val.scrollbackTotal.toNat

instance (state : Grid) : Decidable (ViewportInside state) := inferInstanceAs (Decidable (_ ≤ _))

/-- The claim about one call. -/
def Truncates (cache : PaneRowCache) (state : Grid) : Prop :=
  ViewportInside state → NoStaleRows cache state

/-- The call clears the rows, or the terminal still has all that are cached. -/
def StillThere (cache : PaneRowCache) (state : Grid) : Prop :=
  ViewportInside state → ¬ Clears cache state.val →
    ∀ row ∈ cache.rows, row.1 < state.val.scrollbackTotal

variable {cache : PaneRowCache} {state : Grid}

/-- A reply has cached rows only. -/
theorem served_cached {caches : PaneId → PaneRowCache} {request : RemoteRowRangeRequest}
    {response : RemoteRowRangeResponse} (replied : response ∈ remoteRowRangeResponse caches request) :
    ∀ row ∈ response.rows, row ∈ (caches request.paneId).rows := by
  unfold remoteRowRangeResponse at replied
  dsimp only at replied
  split at replied
  · cases replied
  split at replied
  · cases replied
    exact fun row member => by cases member
  · cases replied
    exact fun row member => (List.mem_filter.mp member).1

/-- Before the trimming nothing is stale if nothing was. -/
theorem inserted_below (sorted : Sorted cache.rows) (inside : ViewportInside state)
    (there : ∀ row ∈ baseRows cache state.val, row.1 < state.val.scrollbackTotal) :
    ∀ row ∈ insertedRows cache state.val, row.1.toNat < state.val.scrollbackTotal.toNat := by
  have total := state.val.scrollbackTotal.toNat_lt
  rw [ViewportInside] at inside
  intro row member
  rw [insertedRows_eq sorted (by omega), List.mem_append, List.mem_append] at member
  rcases member with low | screen | high
  · exact UInt64.lt_iff_toNat_lt.mp (there row (mem_below.mp low).1)
  · obtain ⟨index, held, isId⟩ := mem_consecutive.mp screen
    have bound := (List.getElem?_eq_some_iff.mp held).1
    rw [length_screenRows] at bound
    rw [isId, UInt64.toNat_ofNat_of_lt' (by rw [UInt64.size]; omega)]
    omega
  · exact UInt64.lt_iff_toNat_lt.mp (there row (mem_from.mp high).1)

theorem noStaleRows_of_there (sorted : Sorted cache.rows) (inside : ViewportInside state)
    (there : ∀ row ∈ baseRows cache state.val, row.1 < state.val.scrollbackTotal) :
    NoStaleRows cache state := by
  have below := inserted_below sorted inside there
  have cached : ∀ row ∈ (step cache state).rows, row.1 < state.val.scrollbackTotal := by
    intro row member
    rw [step, next_rows] at member
    exact UInt64.lt_iff_toNat_lt.mpr (below row (List.mem_of_mem_drop member))
  obtain ⟨last, isLast, -, -, isEnd⟩ := retainedEnd_next sorted state
  refine ⟨cached, ?_, ?_⟩
  · have less := below last (List.mem_of_getLast? isLast)
    have total := state.val.scrollbackTotal.toNat_lt
    have ends : (step cache state).retainedEnd.toNat = last.1.toNat + 1 := by
      rw [step, isEnd]
      exact toNat_succ (by omega)
    have sent : (applyRowCacheMetadata cache state).2.val.scrollbackTotal =
        max state.val.scrollbackTotal (step cache state).retainedEnd := rfl
    have greater : max state.val.scrollbackTotal (step cache state).retainedEnd =
        if state.val.scrollbackTotal ≤ (step cache state).retainedEnd
        then (step cache state).retainedEnd else state.val.scrollbackTotal := rfl
    rw [sent, greater]
    split
    · rename_i atLeast
      have bound := UInt64.le_iff_toNat_le.mp atLeast
      exact UInt64.toNat_inj.mp (by omega)
    · rfl
  · intro caches request isCache response replied row member
    exact cached row (isCache ▸ served_cached replied row member)

/-- The greatest cached id survives a call, so nothing stale may have been cached before it. -/
theorem there_of_noStaleRows (sorted : Sorted cache.rows) (inside : ViewportInside state)
    (fresh : NoStaleRows cache state) :
    ∀ row ∈ baseRows cache state.val, row.1 < state.val.scrollbackTotal := by
  intro row member
  by_contra stale
  rw [UInt64.lt_iff_toNat_lt, Nat.not_lt] at stale
  have total := state.val.scrollbackTotal.toNat_lt
  have viewport := inside
  rw [ViewportInside] at viewport
  have inserted : row ∈ insertedRows cache state.val := by
    rw [insertedRows_eq sorted (by omega)]
    exact List.mem_append_right _ (List.mem_append_right _ (mem_from.mpr ⟨member, by omega⟩))
  obtain ⟨last, isLast, isRow, -, -⟩ := retainedEnd_next sorted state
  have greatest := le_getLast (sorted_inserted sorted state.val) isLast inserted
  have bound := UInt64.lt_iff_toNat_lt.mp (fresh.cached last isRow)
  omega

theorem truncates_iff (sorted : Sorted cache.rows) (state : Grid) :
    Truncates cache state ↔ StillThere cache state := by
  refine forall_congr' fun inside => ?_
  have base : (∀ row ∈ baseRows cache state.val, row.1 < state.val.scrollbackTotal) ↔
      (¬ Clears cache state.val → ∀ row ∈ cache.rows, row.1 < state.val.scrollbackTotal) := by
    rw [baseRows]
    split
    · rename_i clears
      exact ⟨fun _ keeps => absurd clears keeps, fun _ row member => by cases member⟩
    · rename_i keeps
      exact ⟨fun there _ => there, fun there => there keeps⟩
  rw [← base]
  exact ⟨there_of_noStaleRows sorted inside, noStaleRows_of_there sorted inside⟩

/-- Along every run from a new entry, the calls leave no stale row exactly when every shrinking of
the scrollback below a cached row is one that clears the rows. -/
theorem truncates_always_iff (states : List Grid) :
    Always step Truncates .empty states ↔ Always step StillThere .empty states :=
  @always_congr _ _ step Truncates StillThere (fun _ _ => True) (fun cache => Sorted cache.rows)
    (fun _ state sorted _ _ => sorted_next sorted state)
    (fun _ state sorted _ => truncates_iff sorted state) _ _ List.Pairwise.nil
    (always_true _ states)

/-- Two rows of one blank cell at the end of a scrollback. -/
def twoRowsAt (top total : UInt64) : Grid :=
  ⟨{ epoch := 0
     viewportTop := top
     scrollbackTotal := total
     rows := 2
     cols := 1
     cursorX := 0
     cursorY := 0
     cursorVisible := true
     cursorBlinking := false
     cursorStyle := 0
     cells := [plainCell 0, plainCell 0] },
    show 0 < (2 : UInt16).toNat by decide, show 0 < (1 : UInt16).toNat by decide, rfl⟩

/-- A line scrolls off, and the scrollback is cleared. -/
def cleared : List Grid := [twoRowsAt 0 2, twoRowsAt 1 3, twoRowsAt 0 2]

/-- The cleared row is still cached, and the total that is sent counts it. -/
theorem cleared_stays : ¬ ∀ states : List Grid, Always step Truncates .empty states := by
  intro all
  obtain ⟨-, -, last, -⟩ := all cleared
  have total := (last (by decide)).total
  revert total
  decide +kernel

end Boo.Server.StaleRows
