/- module: Boo/Wire/Delta
   digest: The row-span delta encoder of remote_wire.rs and what its changed spans cover. -/

import Boo.Wire.Message
import Mathlib.Data.List.Basic

set_option autoImplicit false
set_option relaxedAutoImplicit false

namespace Boo.Wire.Delta

open Boo.Lib.LittleEndian
open Boo.Wire.Message

/-- `Iterator::rposition`: the last index satisfying `p`. -/
def rposition {α : Type} (p : α → Bool) (xs : List α) : Option Nat :=
  (xs.reverse.findIdx? p).map fun back => xs.length - 1 - back

def cellDiffers (pair : RemoteCell × RemoteCell) : Bool := pair.1 != pair.2

/-- The first differing column and the cells of `current` up to the last differing one. -/
def changedSegment (previous current : List RemoteCell) : Nat × List RemoteCell :=
  let pairs := previous.zip current
  match pairs.findIdx? cellDiffers with
  | none => (0, [])
  | some first =>
      let last := (rposition cellDiffers pairs).getD first
      (first, (current.drop first).take (last + 1 - first))

/-- A changed row with the first column and the cells of its segment. -/
structure ChangedRow where
  row : Nat
  startCol : Nat
  cells : List RemoteCell

def rowCells (state : RemoteFullState) (row : Nat) : List RemoteCell :=
  slice state.cells (row * state.cols.toNat) state.cols.toNat

def changedRows (previous current : RemoteFullState) : List ChangedRow :=
  (List.range current.rows.toNat).filterMap fun row =>
    let before := slice previous.cells (row * current.cols.toNat) current.cols.toNat
    let after := rowCells current row
    if before ≠ after then
      some ⟨row, (changedSegment before after).1, (changedSegment before after).2⟩
    else none

def encodeChangedRow (changed : ChangedRow) : List UInt8 :=
  leU16 (UInt16.ofNat changed.row) ++ leU16 (UInt16.ofNat changed.startCol) ++
    leU16 (UInt16.ofNat changed.cells.length) ++ changed.cells.flatMap encodeCell

/-- Row count, cursor fields and the always-zero flags byte. -/
def encodeDeltaHeader (rowCount : Nat) (current : RemoteFullState) : List UInt8 :=
  leU16 (UInt16.ofNat rowCount) ++ leU16 current.cursorX ++ leU16 current.cursorY ++
    [boolByte current.cursorVisible, boolByte current.cursorBlinking, 0] ++
    leI32 current.cursorStyle

/-- A delta that changes no cell. -/
def encodeCursorDelta (current : RemoteFullState) (latestInputSeq : Option UInt64)
    (isLocal : Bool) : List UInt8 :=
  inputSeqPrefix latestInputSeq isLocal ++ encodeDeltaHeader 0 current ++
    appendRowReplicaTrailer current []

def encodeDelta (previous current : RemoteFullState) (latestInputSeq : Option UInt64)
    (isLocal : Bool) : Option (List UInt8) :=
  if previous.rows ≠ current.rows ∨ previous.cols ≠ current.cols then none
  else if previous = current then some (encodeCursorDelta current latestInputSeq isLocal)
  else
    let rows := changedRows previous current
    if rows.isEmpty then some (encodeCursorDelta current latestInputSeq isLocal)
    else if rows.length = current.rows.toNat ∧
        rows.all (fun changed => changed.startCol == 0 &&
          changed.cells.length == current.cols.toNat) then none
    else
      some (inputSeqPrefix latestInputSeq isLocal ++ encodeDeltaHeader rows.length current ++
        rows.flatMap encodeChangedRow ++
        appendRowReplicaTrailer current (rows.map fun changed => rowId current changed.row))

/-- Both cell-free branches encode the empty list of changed rows, so one formula
describes every delta. -/
theorem encodeDelta_eq_some {previous current : RemoteFullState}
    {latestInputSeq : Option UInt64} {isLocal : Bool} {payload : List UInt8}
    (h : encodeDelta previous current latestInputSeq isLocal = some payload) :
    previous.rows = current.rows ∧ previous.cols = current.cols ∧
      payload = inputSeqPrefix latestInputSeq isLocal ++
        (encodeDeltaHeader (changedRows previous current).length current ++
          ((changedRows previous current).flatMap encodeChangedRow ++
            appendRowReplicaTrailer current
              ((changedRows previous current).map fun changed => rowId current changed.row))) := by
  unfold encodeDelta at h
  split at h
  · cases h
  · rename_i dims
    obtain ⟨rows, cols⟩ := not_or.mp dims
    refine ⟨not_not.mp rows, not_not.mp cols, ?_⟩
    dsimp only at h
    split at h
    · rename_i same
      have empty : changedRows previous current = [] := by
        simp [changedRows, same, rowCells]
      simpa [empty, encodeCursorDelta, List.append_assoc, eq_comm] using h
    · split at h
      · rename_i empty
        rw [List.isEmpty_iff] at empty
        simpa [empty, encodeCursorDelta, List.append_assoc, eq_comm] using h
      · split at h
        · cases h
        · simpa [List.append_assoc, eq_comm] using h

theorem encodeDelta_dims {previous current : RemoteFullState} {seq : Option UInt64}
    {isLocal : Bool} {payload : List UInt8}
    (h : encodeDelta previous current seq isLocal = some payload) :
    previous.rows = current.rows ∧ previous.cols = current.cols :=
  ⟨(encodeDelta_eq_some h).1, (encodeDelta_eq_some h).2.1⟩

private theorem rposition_some {α : Type} {p : α → Bool} {xs : List α} {i : Nat}
    (h : rposition p xs = some i) :
    ∃ bound : i < xs.length, p xs[i] ∧ ∀ j (hj : j < xs.length), i < j → ¬ p xs[j] := by
  simp only [rposition, Option.map_eq_some_iff] at h
  obtain ⟨back, found, rfl⟩ := h
  obtain ⟨bound, holds, before⟩ := List.findIdx?_eq_some_iff_getElem.mp found
  rw [List.length_reverse] at bound
  refine ⟨by omega, ?_, ?_⟩
  · simpa [List.getElem_reverse] using holds
  · intro j hj later
    have earlier := before (xs.length - 1 - j) (by omega)
    rw [List.getElem_reverse] at earlier
    have index : xs.length - 1 - (xs.length - 1 - j) = j := by omega
    simpa [index] using earlier

private theorem rposition_isSome {α : Type} {p : α → Bool} {xs : List α} {i : Nat}
    (hi : i < xs.length) (holds : p xs[i]) : ∃ last, rposition p xs = some last := by
  have found : (xs.reverse.findIdx? p).isSome := by
    rw [List.findIdx?_isSome, List.any_reverse]
    exact List.any_eq_true.mpr ⟨xs[i], List.getElem_mem hi, holds⟩
  obtain ⟨back, hb⟩ := Option.isSome_iff_exists.mp found
  exact ⟨xs.length - 1 - back, by simp [rposition, hb]⟩

/-- `col` lies in the span that `changedSegment` sends: some column at or before it
and some column at or after it differ. -/
def InSpan (previous current : List RemoteCell) (col : Nat) : Prop :=
  ∃ first last, first ≤ col ∧ col ≤ last ∧
    previous[first]? ≠ current[first]? ∧ previous[last]? ≠ current[last]?

/-- The segment covers exactly the span of differing columns, with the current cells. -/
theorem changedSegment_spec {previous current : List RemoteCell}
    (len : previous.length = current.length) (differ : previous ≠ current) :
    let segment := changedSegment previous current
    segment.1 + segment.2.length ≤ current.length ∧
      (∀ k, k < segment.2.length → segment.2[k]? = current[segment.1 + k]?) ∧
      ∀ col, (segment.1 ≤ col ∧ col < segment.1 + segment.2.length) ↔
        InSpan previous current col := by
  have pairsLen : (previous.zip current).length = current.length := by simp [len]
  have differs_iff : ∀ i (hi : i < current.length),
      cellDiffers ((previous.zip current).get ⟨i, by omega⟩) = true ↔
        previous[i]? ≠ current[i]? := by
    intro i hi
    have hp : i < previous.length := by omega
    simp [cellDiffers, hi, hp]
  cases found : (previous.zip current).findIdx? cellDiffers with
  | none =>
      exfalso
      apply differ
      refine List.ext_getElem len fun i hi hi' => ?_
      have clean := List.findIdx?_eq_none_iff.mp found (previous[i], current[i])
        (List.mem_iff_getElem.mpr ⟨i, by omega, by simp⟩)
      simpa [cellDiffers] using clean
  | some first =>
      obtain ⟨hfirst, firstDiffers, beforeFirst⟩ := List.findIdx?_eq_some_iff_getElem.mp found
      obtain ⟨last, hlast⟩ := rposition_isSome hfirst firstDiffers
      obtain ⟨lastBound, lastDiffers, afterLast⟩ := rposition_some hlast
      rw [pairsLen] at hfirst lastBound
      have order : first ≤ last := by
        by_contra h
        exact afterLast first (by omega) (by omega) firstDiffers
      have width : ((current.drop first).take (last + 1 - first)).length = last + 1 - first := by
        simp
        omega
      have value : changedSegment previous current =
          (first, (current.drop first).take (last + 1 - first)) := by
        simp [changedSegment, found, hlast]
      simp only [value, width]
      refine ⟨by omega, ?_, ?_⟩
      · intro k hk
        simp [List.getElem?_drop, hk]
      · intro col
        constructor
        · rintro ⟨lo, hi⟩
          exact ⟨first, last, lo, by omega, (differs_iff first hfirst).mp firstDiffers,
            (differs_iff last lastBound).mp lastDiffers⟩
        · rintro ⟨i, j, hi, hj, di, dj⟩
          have bi : i < current.length := by
            by_contra h
            exact di (by rw [List.getElem?_eq_none (by omega), List.getElem?_eq_none (by omega)])
          have bj : j < current.length := by
            by_contra h
            exact dj (by rw [List.getElem?_eq_none (by omega), List.getElem?_eq_none (by omega)])
          have lower : first ≤ i := by
            by_contra h
            exact beforeFirst i (by omega) ((differs_iff i bi).mpr di)
          have upper : j ≤ last := by
            by_contra h
            exact afterLast j (by omega) (by omega) ((differs_iff j bj).mpr dj)
          omega

end Boo.Wire.Delta
