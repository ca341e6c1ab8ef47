/- module: Boo/Client/RowRevisions
   digest: When two successive snapshots of a pane tell their rows apart by row revision. -/

import Boo.Client.Gui
import Boo.Lib.Runs

set_option autoImplicit false
set_option relaxedAutoImplicit false

namespace Boo.Client.RowRevisions

open Boo.Lib.LittleEndian
open Boo.Lib.RowMajor
open Boo.Lib.WriteRun
open Boo.Lib.Runs
open Boo.Wire.Message
open Boo.Wire.Delta
open Boo.Server.Frames
open Boo.Client.Snapshot
open Boo.Client.SnapshotDelta
open Boo.Client.Gui

section Rows

variable {Style : Type}

/-- A row that keeps its revision keeps its cells. -/
def RowsCoherent (old new : TerminalSnapshot Style) : Prop :=
  ∀ (i : Nat) row row' revision, old.rowsData[i]? = some row → new.rowsData[i]? = some row' →
    old.rowRevisions[i]? = some revision → new.rowRevisions[i]? = some revision → row = row'

/-- `u64::rotate_left`. -/
def rotateLeft (value : UInt64) (amount : Nat) : UInt64 := ⟨value.toBitVec.rotateLeft amount⟩

def baseRowFingerprint (snapshot : TerminalSnapshot Style) (rowIndex : Nat)
    (styleFingerprint : UInt64) : UInt64 :=
  styleFingerprint ^^^ rotateLeft ((snapshot.rowRevisions[rowIndex]?).getD 0) 17 ^^^
    rotateLeft (UInt64.ofNat rowIndex) 33

/-- No row shows stale text: the text layer rebuilds every row whose cells changed, since it
rebuilds the rows whose fingerprint changed. -/
def TextCurrent (styleFingerprint : UInt64) (old new : TerminalSnapshot Style) : Prop :=
  ∀ (i : Nat) row row', old.rowsData[i]? = some row → new.rowsData[i]? = some row' →
    baseRowFingerprint old i styleFingerprint = baseRowFingerprint new i styleFingerprint →
      row = row'

/-- Every row has the width of the screen, and every row that is there has a revision. -/
structure Framed (snapshot : TerminalSnapshot Style) : Prop where
  uniform : Uniform snapshot.cols.toNat snapshot.rowsData
  revisions : snapshot.rowsData ≠ [] →
    snapshot.rowRevisions.length = snapshot.rowsData.length

end Rows

section Deltas

/-- What a row change does to the row it is for. -/
def patchRow (cols : Nat) (row : List CellSnapshot) (change : RemoteRowDelta) :
    List CellSnapshot :=
  let targetRow := resizeRow row cols
  let startCol := change.startCol.toNat
  if cols ≤ startCol then targetRow
  else writeRun targetRow startCol
    ((change.cells.take (cols - startCol)).map remoteCellToSnapshotDefault)

/-- The row changes that write into row `i`. -/
def touches (cols i : Nat) (changes : List RemoteRowDelta) : Nat :=
  changes.countP fun change => change.row.toNat = i ∧ change.startCol.toNat < cols

/-- Row `i` after all row changes of a delta. -/
def patched (cols i : Nat) (changes : List RemoteRowDelta) (row : List CellSnapshot) :
    List CellSnapshot :=
  (changes.filter fun change => change.row.toNat = i).foldl (patchRow cols) row

def scrollShift (rows : Nat) (scrollRows : Int16) : Nat :=
  if 0 < scrollRows.toInt then min scrollRows.toInt.toNat rows
  else min (negatedScroll scrollRows) rows

/-- The index whose revision the rotation takes to `i`. -/
def scrollSource (rows : Nat) (scrollRows : Int16) (i : Nat) : Nat :=
  let shift := scrollShift rows scrollRows
  if 0 < scrollRows.toInt then if i + shift < rows then i + shift else i + shift - rows
  else if i < shift then rows - shift + i else i - shift

/-- Row `i` is one of those that the rotation brings around, which are blanked. -/
def ScrolledIn (rows : Nat) (scrollRows : Int16) (i : Nat) : Prop :=
  (0 < scrollRows.toInt ∧ rows ≤ i + scrollShift rows scrollRows) ∨
    (¬ 0 < scrollRows.toInt ∧ i < scrollShift rows scrollRows)

instance (rows : Nat) (scrollRows : Int16) (i : Nat) : Decidable (ScrolledIn rows scrollRows i) :=
  inferInstanceAs (Decidable (_ ∨ _))

variable {Style : Type} {snapshot : TerminalSnapshot Style}

theorem length_patchRow {cols : Nat} {row : List CellSnapshot} (wide : row.length = cols)
    (change : RemoteRowDelta) : (patchRow cols row change).length = cols := by
  have full : (resizeRow row cols).length = cols := by
    simp only [resizeRow, List.length_append, List.length_replicate]
    omega
  rw [patchRow]
  split
  · exact full
  · rw [length_writeRun, full]

theorem resizeRow_full {cols : Nat} {row : List CellSnapshot} (wide : row.length = cols) :
    resizeRow row cols = row := by
  rw [resizeRow, wide, Nat.sub_self, List.replicate_zero, List.append_nil]

theorem length_patched {cols : Nat} {row : List CellSnapshot} (wide : row.length = cols) (i : Nat)
    (changes : List RemoteRowDelta) : (patched cols i changes row).length = cols := by
  rw [patched]
  generalize changes.filter _ = own
  induction own generalizing row with
  | nil => exact wide
  | cons change own ih => exact ih (length_patchRow wide change)

/-- A row that no change writes into stays as it is. -/
theorem patched_untouched {cols i : Nat} {changes : List RemoteRowDelta} {row : List CellSnapshot}
    (wide : row.length = cols) (untouched : touches cols i changes = 0) :
    patched cols i changes row = row := by
  rw [touches, List.countP_eq_zero] at untouched
  have outside : ∀ change ∈ changes.filter fun change => change.row.toNat = i,
      cols ≤ change.startCol.toNat := by
    intro change member
    have own := List.mem_filter.mp member
    have misses := untouched change own.1
    have here : change.row.toNat = i := by simpa using own.2
    simp only [here, true_and, decide_eq_true_eq] at misses
    omega
  rw [patched]
  revert outside
  generalize changes.filter _ = own
  intro outside
  induction own with
  | nil => rfl
  | cons change own ih =>
      have still : patchRow cols row change = row := by
        rw [patchRow, if_pos (outside change List.mem_cons_self), resizeRow_full wide]
      rw [List.foldl_cons, still]
      exact ih fun other member => outside other (List.mem_cons_of_mem _ member)

theorem patched_cons (cols i : Nat) (change : RemoteRowDelta) (changes : List RemoteRowDelta)
    (row : List CellSnapshot) : patched cols i (change :: changes) row =
      patched cols i changes (patched cols i [change] row) := by
  simp only [patched, ← List.foldl_append, ← List.filter_append, List.singleton_append]

theorem touches_cons (cols i : Nat) (change : RemoteRowDelta) (changes : List RemoteRowDelta) :
    touches cols i (change :: changes) = touches cols i [change] + touches cols i changes := by
  rw [touches, touches, touches, ← List.countP_append, List.singleton_append]

theorem patched_single (cols : Nat) {i : Nat} {change : RemoteRowDelta}
    (here : change.row.toNat = i) (row : List CellSnapshot) :
    patched cols i [change] row = patchRow cols row change := by
  rw [patched, List.filter_cons_of_pos (by simpa using here), List.filter_nil, List.foldl_cons,
    List.foldl_nil]

theorem patched_other (cols : Nat) {i : Nat} {change : RemoteRowDelta}
    (elsewhere : change.row.toNat ≠ i) : patched cols i [change] = id := by
  funext row
  rw [patched, List.filter_cons_of_neg (by simpa using elsewhere), List.filter_nil,
    List.foldl_nil, id]

theorem touches_single (cols i : Nat) (change : RemoteRowDelta) :
    touches cols i [change] =
      if change.row.toNat = i ∧ change.startCol.toNat < cols then 1 else 0 := by
  rw [touches, List.countP_singleton]
  simp only [decide_eq_true_eq]

/-- One row change, read back by index. -/
theorem applyRowDelta_spec (snapshot : TerminalSnapshot Style) (change : RemoteRowDelta)
    (i : Nat) :
    (applyRowDelta snapshot change).cols = snapshot.cols ∧
      (applyRowDelta snapshot change).rowsData.length = snapshot.rowsData.length ∧
      (applyRowDelta snapshot change).rowRevisions.length = snapshot.rowRevisions.length ∧
      (applyRowDelta snapshot change).rowsData[i]? =
        (snapshot.rowsData[i]?).map (patched snapshot.cols.toNat i [change]) ∧
      (i < snapshot.rowsData.length → (applyRowDelta snapshot change).rowRevisions[i]? =
        (snapshot.rowRevisions[i]?).map
          (· + UInt64.ofNat (touches snapshot.cols.toNat i [change]))) := by
  rw [applyRowDelta, touches_single]
  cases found : snapshot.rowsData[change.row.toNat]? with
  | none =>
      have outside := List.getElem?_eq_none_iff.mp found
      refine ⟨rfl, rfl, rfl, ?_, fun inside => ?_⟩
      · by_cases here : change.row.toNat = i
        · rw [← here, found]
          rfl
        · rw [patched_other _ here, Option.map_id]
          rfl
      · have elsewhere : change.row.toNat ≠ i := by omega
        simp [elsewhere]
  | some row =>
      dsimp only
      by_cases here : change.row.toNat = i
      · have short := (List.getElem?_eq_some_iff.mp found).1
        subst here
        have own := @patched_single snapshot.cols.toNat _ change rfl row
        rw [patchRow] at own
        split at own <;> rename_i start
        · rw [if_pos start]
          refine ⟨rfl, List.length_set, rfl, ?_, fun _ => ?_⟩
          · rw [List.getElem?_set_self short, found, Option.map_some, own]
          · simp [Nat.not_lt.mpr start]
        · rw [if_neg start]
          refine ⟨rfl, List.length_set, List.length_modify _ _ _, ?_, fun _ => ?_⟩
          · rw [List.getElem?_set_self short, found, Option.map_some, own]
          · rw [List.getElem?_modify_eq]
            simp [Nat.not_le.mp start]
      · have still : UInt64.ofNat (if change.row.toNat = i ∧
            change.startCol.toNat < snapshot.cols.toNat then 1 else 0) = 0 := by
          rw [if_neg fun both => here both.1]
          rfl
        rw [still, patched_other _ here, Option.map_id]
        split
        · refine ⟨rfl, List.length_set, rfl, List.getElem?_set_ne here, fun _ => ?_⟩
          simp
        · refine ⟨rfl, List.length_set, List.length_modify _ _ _, List.getElem?_set_ne here,
            fun _ => ?_⟩
          rw [show _ = _ from List.getElem?_modify_ne _ _ here]
          simp

/-- All row changes of a delta, read back by index. -/
theorem applyRowDeltas_spec (snapshot : TerminalSnapshot Style) (changes : List RemoteRowDelta)
    (i : Nat) :
    (changes.foldl applyRowDelta snapshot).cols = snapshot.cols ∧
      (changes.foldl applyRowDelta snapshot).rowsData.length = snapshot.rowsData.length ∧
      (changes.foldl applyRowDelta snapshot).rowRevisions.length =
        snapshot.rowRevisions.length ∧
      (changes.foldl applyRowDelta snapshot).rowsData[i]? =
        (snapshot.rowsData[i]?).map (patched snapshot.cols.toNat i changes) ∧
      (i < snapshot.rowsData.length →
        (changes.foldl applyRowDelta snapshot).rowRevisions[i]? =
          (snapshot.rowRevisions[i]?).map
            (· + UInt64.ofNat (touches snapshot.cols.toNat i changes))) := by
  induction changes generalizing snapshot with
  | nil =>
      refine ⟨rfl, rfl, rfl, ?_, fun _ => ?_⟩
      · rw [List.foldl_nil]
        cases snapshot.rowsData[i]? <;> rfl
      · simp [touches]
  | cons change changes ih =>
      obtain ⟨cols, height, revisions, rows, revised⟩ := applyRowDelta_spec snapshot change i
      obtain ⟨cols', height', revisions', rows', revised'⟩ := ih (applyRowDelta snapshot change)
      rw [cols] at cols' rows' revised'
      rw [height] at height' revised'
      rw [revisions] at revisions'
      refine ⟨cols', height', revisions', ?_, fun inside => ?_⟩
      · rw [List.foldl_cons, rows', rows, Option.map_map]
        congr 1
        funext row
        exact (patched_cons _ _ _ _ _).symm
      · rw [List.foldl_cons, revised' inside, revised inside, Option.map_map,
          touches_cons _ _ change changes]
        congr 1
        funext revision
        simp only [Function.comp_apply, UInt64.ofNat_add, UInt64.add_assoc]

section Rotations

variable {α : Type} {xs fresh : List α} {shift i : Nat}

theorem getElem?_rotateUp (bound : shift ≤ xs.length) :
    (xs.drop shift ++ fresh)[i]? =
      if i + shift < xs.length then xs[i + shift]? else fresh[i + shift - xs.length]? := by
  rw [List.getElem?_append, List.length_drop, List.getElem?_drop, Nat.add_comm shift i]
  by_cases moved : i + shift < xs.length
  · rw [if_pos (by omega), if_pos moved]
  · rw [if_neg (by omega), if_neg moved]
    congr 1
    omega

theorem getElem?_rotateDown (whole : fresh.length = shift) (inside : i < xs.length) :
    (fresh ++ xs.take (xs.length - shift))[i]? =
      if i < shift then fresh[i]? else xs[i - shift]? := by
  rw [List.getElem?_append, whole]
  split
  · rfl
  · exact List.getElem?_take_of_lt (by omega)

end Rotations

theorem scrollShift_le (rows : Nat) (scrollRows : Int16) : scrollShift rows scrollRows ≤ rows := by
  rw [scrollShift]
  split
  · exact Nat.min_le_right _ _
  · exact Nat.min_le_right _ _

theorem applySnapshotScroll_up {scrollRows : Int16} (up : 0 < scrollRows.toInt)
    (rows : snapshot.rowsData.length ≠ 0) :
    applySnapshotScroll snapshot scrollRows =
      let shift := scrollShift snapshot.rowsData.length scrollRows
      { snapshot with
        rowsData := snapshot.rowsData.drop shift ++
          List.replicate shift (List.replicate snapshot.cols.toNat {})
        rowRevisions := snapshot.rowRevisions.drop shift ++
          (snapshot.rowRevisions.take shift).map (· + 1) } := by
  rw [applySnapshotScroll, if_neg rows, if_pos up, scrollShift, if_pos up]

theorem applySnapshotScroll_down {scrollRows : Int16} (down : ¬ 0 < scrollRows.toInt)
    (rows : snapshot.rowsData.length ≠ 0) :
    applySnapshotScroll snapshot scrollRows =
      let shift := scrollShift snapshot.rowsData.length scrollRows
      { snapshot with
        rowsData := List.replicate shift (List.replicate snapshot.cols.toNat {}) ++
          snapshot.rowsData.take (snapshot.rowsData.length - shift)
        rowRevisions :=
          (snapshot.rowRevisions.drop (snapshot.rowsData.length - shift)).map (· + 1) ++
            snapshot.rowRevisions.take (snapshot.rowsData.length - shift) } := by
  rw [applySnapshotScroll, if_neg rows, if_neg down, scrollShift, if_neg down]

/-- A scroll, read back by index. -/
theorem applySnapshotScroll_spec (scrollRows : Int16) {i : Nat}
    (sized : snapshot.rowRevisions.length = snapshot.rowsData.length)
    (inside : i < snapshot.rowsData.length) :
    (applySnapshotScroll snapshot scrollRows).rowsData[i]? =
        (if ScrolledIn snapshot.rowsData.length scrollRows i then
          some (List.replicate snapshot.cols.toNat {})
        else snapshot.rowsData[scrollSource snapshot.rowsData.length scrollRows i]?) ∧
      (applySnapshotScroll snapshot scrollRows).rowRevisions[i]? =
        (snapshot.rowRevisions[scrollSource snapshot.rowsData.length scrollRows i]?).map
          fun revision =>
            if ScrolledIn snapshot.rowsData.length scrollRows i then revision + 1
            else revision := by
  have bound := scrollShift_le snapshot.rowsData.length scrollRows
  have rows : snapshot.rowsData.length ≠ 0 := by omega
  by_cases up : 0 < scrollRows.toInt
  · rw [applySnapshotScroll_up up rows]
    simp only [ScrolledIn, scrollSource, up, true_and, not_true_eq_false, false_and, or_false,
      if_true]
    generalize scrollShift snapshot.rowsData.length scrollRows = shift at bound
    rw [getElem?_rotateUp bound, getElem?_rotateUp (by omega), sized]
    by_cases moved : i + shift < snapshot.rowsData.length
    · simp [moved, Nat.not_le.mpr moved]
    · have wrapped : i + shift - snapshot.rowsData.length < shift := by omega
      simp [moved, Nat.not_lt.mp moved, wrapped, List.getElem?_take_of_lt]
  · rw [applySnapshotScroll_down up rows]
    simp only [ScrolledIn, scrollSource, up, false_and, not_false_eq_true, true_and, false_or,
      if_false]
    generalize scrollShift snapshot.rowsData.length scrollRows = shift at bound
    rw [getElem?_rotateDown List.length_replicate inside, ← sized,
      getElem?_rotateDown (by simp; omega) (by omega)]
    by_cases wrapped : i < shift
    · simp [wrapped]
    · simp [wrapped]

theorem length_applySnapshotScroll (scrollRows : Int16)
    (sized : snapshot.rowRevisions.length = snapshot.rowsData.length) :
    (applySnapshotScroll snapshot scrollRows).cols = snapshot.cols ∧
      (applySnapshotScroll snapshot scrollRows).rowsData.length = snapshot.rowsData.length ∧
      (applySnapshotScroll snapshot scrollRows).rowRevisions.length =
        snapshot.rowsData.length := by
  have bound := scrollShift_le snapshot.rowsData.length scrollRows
  by_cases rows : snapshot.rowsData.length = 0
  · rw [applySnapshotScroll, if_pos rows]
    exact ⟨rfl, rfl, sized⟩
  by_cases up : 0 < scrollRows.toInt
  · rw [applySnapshotScroll_up up rows]
    refine ⟨rfl, ?_, ?_⟩ <;>
      simp only [List.length_append, List.length_drop, List.length_replicate, List.length_map,
        List.length_take, sized] <;> omega
  · rw [applySnapshotScroll_down up rows]
    refine ⟨rfl, ?_, ?_⟩ <;>
      simp only [List.length_append, List.length_drop, List.length_replicate, List.length_map,
        List.length_take, sized] <;> omega

/-- The cells that a delta takes to row `i`. -/
def arrivingRow (snapshot : TerminalSnapshot Style) (delta : RemoteDelta) (i : Nat) :
    Option (List CellSnapshot) :=
  let rows := snapshot.rowsData.length
  (if ScrolledIn rows delta.scrollRows i then some (List.replicate snapshot.cols.toNat {})
  else snapshot.rowsData[scrollSource rows delta.scrollRows i]?).map
    (patched snapshot.cols.toNat i delta.changedRows)

/-- How often a delta counts row `i` up, from the revision that it takes there. -/
def bumps (snapshot : TerminalSnapshot Style) (delta : RemoteDelta) (i : Nat) : Nat :=
  (if ScrolledIn snapshot.rowsData.length delta.scrollRows i then 1 else 0) +
    touches snapshot.cols.toNat i delta.changedRows

variable (cursorStyleOf : Int32 → Style)

/-- Apart from the cursor, a delta scrolls and then changes rows. -/
theorem applyRemoteDelta_moved (delta : RemoteDelta)
    (sized : snapshot.rowRevisions.length = snapshot.rowsData.length) :
    ∃ moved : TerminalSnapshot Style, moved.cols = snapshot.cols ∧
      moved.rowsData = snapshot.rowsData ∧ moved.rowRevisions = snapshot.rowRevisions ∧
        applyRemoteDeltaSnapshot cursorStyleOf snapshot delta =
          delta.changedRows.foldl applyRowDelta
            (if delta.scrollRows ≠ 0 then applySnapshotScroll moved delta.scrollRows
            else moved) := by
  refine ⟨{ snapshot with
    cursor := {
      x := delta.cursorX
      y := delta.cursorY
      visible := delta.cursorVisible
      blinking := delta.cursorBlinking
      style := cursorStyleOf delta.cursorStyle } }, rfl, rfl, rfl, ?_⟩
  rw [applyRemoteDeltaSnapshot]
  simp only [sized, ne_eq, not_true_eq_false, if_false]

theorem applyRemoteDelta_frame (delta : RemoteDelta)
    (sized : snapshot.rowRevisions.length = snapshot.rowsData.length) :
    (applyRemoteDeltaSnapshot cursorStyleOf snapshot delta).cols = snapshot.cols ∧
      (applyRemoteDeltaSnapshot cursorStyleOf snapshot delta).rowsData.length =
        snapshot.rowsData.length ∧
      (applyRemoteDeltaSnapshot cursorStyleOf snapshot delta).rowRevisions.length =
        snapshot.rowsData.length := by
  obtain ⟨moved, cols, rows, revisions, result⟩ :=
    applyRemoteDelta_moved cursorStyleOf delta sized
  rw [result]
  rw [← revisions, ← rows] at sized
  split
  · obtain ⟨cols', height, long⟩ := length_applySnapshotScroll delta.scrollRows sized
    obtain ⟨cols'', height', long', -⟩ :=
      applyRowDeltas_spec (applySnapshotScroll moved delta.scrollRows) delta.changedRows 0
    rw [cols'', cols', cols, height', height, long', long, rows]
    exact ⟨rfl, rfl, rfl⟩
  · obtain ⟨cols', height, long, -⟩ := applyRowDeltas_spec moved delta.changedRows 0
    rw [cols', cols, height, long, sized, rows]
    exact ⟨rfl, rfl, rfl⟩

/-- A delta that does not scroll, read back by index. -/
theorem applyStillDelta_spec {delta : RemoteDelta} {i : Nat}
    (sized : snapshot.rowRevisions.length = snapshot.rowsData.length)
    (inside : i < snapshot.rowsData.length) (still : delta.scrollRows = 0) :
    (applyRemoteDeltaSnapshot cursorStyleOf snapshot delta).rowsData[i]? =
        (snapshot.rowsData[i]?).map (patched snapshot.cols.toNat i delta.changedRows) ∧
      (applyRemoteDeltaSnapshot cursorStyleOf snapshot delta).rowRevisions[i]? =
        (snapshot.rowRevisions[i]?).map
          (· + UInt64.ofNat (touches snapshot.cols.toNat i delta.changedRows)) := by
  obtain ⟨moved, cols, rows, revisions, result⟩ :=
    applyRemoteDelta_moved cursorStyleOf delta sized
  obtain ⟨-, -, -, patched_, bumped⟩ := applyRowDeltas_spec moved delta.changedRows i
  rw [← rows] at inside
  rw [result, if_neg (not_not.mpr still), patched_, bumped inside, cols, rows, revisions]
  exact ⟨rfl, rfl⟩

/-- A delta that scrolls, read back by index. -/
theorem applyScrollingDelta_spec {delta : RemoteDelta} {i : Nat}
    (sized : snapshot.rowRevisions.length = snapshot.rowsData.length)
    (inside : i < snapshot.rowsData.length) (scrolls : delta.scrollRows ≠ 0) :
    (applyRemoteDeltaSnapshot cursorStyleOf snapshot delta).rowsData[i]? =
        arrivingRow snapshot delta i ∧
      (applyRemoteDeltaSnapshot cursorStyleOf snapshot delta).rowRevisions[i]? =
        (snapshot.rowRevisions[scrollSource snapshot.rowsData.length delta.scrollRows i]?).map
          (· + UInt64.ofNat (bumps snapshot delta i)) := by
  obtain ⟨moved, cols, rows, revisions, result⟩ :=
    applyRemoteDelta_moved cursorStyleOf delta sized
  rw [← revisions, ← rows] at sized
  rw [← rows] at inside
  obtain ⟨cols', height, -⟩ := length_applySnapshotScroll delta.scrollRows sized
  obtain ⟨landed, rotated⟩ := applySnapshotScroll_spec delta.scrollRows sized inside
  obtain ⟨-, -, -, patched_, bumped⟩ :=
    applyRowDeltas_spec (applySnapshotScroll moved delta.scrollRows) delta.changedRows i
  rw [height] at bumped
  rw [result, if_pos scrolls, patched_, bumped inside, landed, rotated, cols', cols, revisions,
    rows, arrivingRow, Option.map_map]
  refine ⟨rfl, ?_⟩
  congr 1
  funext revision
  rw [Function.comp_apply, bumps, UInt64.ofNat_add]
  split
  · rw [UInt64.add_assoc]
    rfl
  · simp

/-- A snapshot without rows stays one. -/
theorem applyRemoteDelta_empty (delta : RemoteDelta) (empty : snapshot.rowsData = []) :
    (applyRemoteDeltaSnapshot cursorStyleOf snapshot delta).rowsData = [] := by
  refine List.eq_nil_of_length_eq_zero ?_
  rw [applyRemoteDeltaSnapshot, (applyRowDeltas_spec _ delta.changedRows 0).2.1]
  split <;> split <;> simp [applySnapshotScroll, resizeRevisions, empty]

theorem arrivingRow_length (framed : Framed snapshot) {delta : RemoteDelta} {i : Nat}
    {row : List CellSnapshot} (arrives : arrivingRow snapshot delta i = some row) :
    row.length = snapshot.cols.toNat := by
  rw [arrivingRow, Option.map_eq_some_iff] at arrives
  obtain ⟨landed, source, rfl⟩ := arrives
  refine length_patched ?_ i _
  split at source
  · rw [← Option.some.inj source, List.length_replicate]
  · exact framed.uniform landed (List.mem_of_getElem? source)

theorem framed_delta (framed : Framed snapshot) (delta : RemoteDelta) :
    Framed (applyRemoteDeltaSnapshot cursorStyleOf snapshot delta) := by
  by_cases empty : snapshot.rowsData = []
  · have still := applyRemoteDelta_empty cursorStyleOf delta empty
    refine ⟨fun row member => ?_, fun rows => absurd still rows⟩
    rw [still] at member
    cases member
  have sized := framed.revisions empty
  obtain ⟨cols, height, long⟩ := applyRemoteDelta_frame cursorStyleOf delta sized
  refine ⟨fun row member => ?_, fun _ => long.trans height.symm⟩
  obtain ⟨i, inside, rfl⟩ := List.getElem_of_mem member
  have found := List.getElem?_eq_getElem inside
  rw [height] at inside
  rw [cols]
  by_cases still : delta.scrollRows = 0
  · rw [(applyStillDelta_spec cursorStyleOf sized inside still).1,
      Option.map_eq_some_iff] at found
    obtain ⟨old, held, same⟩ := found
    rw [← same]
    exact length_patched (framed.uniform old (List.mem_of_getElem? held)) i _
  · rw [(applyScrollingDelta_spec cursorStyleOf sized inside still).1] at found
    exact arrivingRow_length framed found

/-- Adding fewer than `2 ^ 64` brings a revision back only if nothing is added. -/
theorem add_bumps_eq_self {revision : UInt64} {n : Nat} (few : n < 2 ^ 64) :
    revision + UInt64.ofNat n = revision ↔ n = 0 := by
  constructor
  · intro same
    have back : UInt64.ofNat n = 0 := by simpa using same
    have number : (UInt64.ofNat n).toNat = n := UInt64.toNat_ofNat_of_lt' few
    rw [back] at number
    exact number.symm
  · rintro rfl
    simp

/-- A delta that does not scroll tells the rows apart that it changes. -/
theorem rowsCoherent_stillDelta (framed : Framed snapshot) {delta : RemoteDelta}
    (few : delta.changedRows.length < 2 ^ 64) (still : delta.scrollRows = 0) :
    RowsCoherent snapshot (applyRemoteDeltaSnapshot cursorStyleOf snapshot delta) := by
  intro i row row' revision held held' revised revised'
  have sized := framed.revisions (by rintro empty; simp [empty] at held)
  have inside := (List.getElem?_eq_some_iff.mp held).1
  obtain ⟨cells, bumped⟩ := applyStillDelta_spec cursorStyleOf sized inside still
  rw [cells, held, Option.map_some, Option.some.injEq] at held'
  rw [bumped, revised, Option.map_some, Option.some.injEq] at revised'
  have bound : touches snapshot.cols.toNat i delta.changedRows < 2 ^ 64 :=
    lt_of_le_of_lt List.countP_le_length few
  have untouched := (add_bumps_eq_self bound).mp revised'
  rw [← held', patched_untouched (framed.uniform row (List.mem_of_getElem? held)) untouched]

/-- Wherever a scroll and the row changes after it bring back the revision that is shown, they
bring back the cells that are shown. -/
def ScrollApart (snapshot : TerminalSnapshot Style) (delta : RemoteDelta) : Prop :=
  delta.scrollRows ≠ 0 → ∀ (i : Nat) row revision moved,
    snapshot.rowsData[i]? = some row → snapshot.rowRevisions[i]? = some revision →
    snapshot.rowRevisions[scrollSource snapshot.rowsData.length delta.scrollRows i]? =
      some moved →
    moved + UInt64.ofNat (bumps snapshot delta i) = revision →
      arrivingRow snapshot delta i = some row

theorem rowsCoherent_delta_iff (framed : Framed snapshot) {delta : RemoteDelta}
    (few : delta.changedRows.length < 2 ^ 64) :
    RowsCoherent snapshot (applyRemoteDeltaSnapshot cursorStyleOf snapshot delta) ↔
      ScrollApart snapshot delta := by
  by_cases still : delta.scrollRows = 0
  · exact iff_of_true (rowsCoherent_stillDelta cursorStyleOf framed few still)
      fun scrolls => absurd still scrolls
  constructor
  · intro coherent _ i row revision moved held revised source same
    have sized := framed.revisions (by rintro empty; simp [empty] at held)
    have inside := (List.getElem?_eq_some_iff.mp held).1
    obtain ⟨cells, bumped⟩ := applyScrollingDelta_spec cursorStyleOf sized inside still
    rw [source, Option.map_some, same] at bumped
    have height := (applyRemoteDelta_frame cursorStyleOf delta sized).2.1
    have there := List.getElem?_eq_getElem (height.symm ▸ inside)
    rw [← cells, there, coherent i row _ revision held there revised bumped]
  · intro apart i row row' revision held held' revised revised'
    have sized := framed.revisions (by rintro empty; simp [empty] at held)
    have inside := (List.getElem?_eq_some_iff.mp held).1
    obtain ⟨cells, bumped⟩ := applyScrollingDelta_spec cursorStyleOf sized inside still
    rw [bumped, Option.map_eq_some_iff] at revised'
    obtain ⟨moved, source, same⟩ := revised'
    have arrives := apart still i row revision moved held revised source same
    rw [cells, arrives] at held'
    exact Option.some.inj held'

end Deltas

section FullStates

variable {Style : Type} (cursorStyleOf : Int32 → Style)

/-- What the decoders promise of an event: a full state has all its cells, and a delta counts its
row changes in 16 bits. -/
def Decoded : LocalStreamEvent → Prop
  | .fullState _ state | .uiPaneFullState _ _ state =>
      state.cells.length = state.rows.toNat * state.cols.toNat
  | .delta _ delta | .uiPaneDelta _ _ delta => delta.changedRows.length < 2 ^ 16
  | _ => True

theorem decodeRemoteFullState_whole {payload : List UInt8} {ack : Option UInt64}
    {state : RemoteFullState} (decodes : decodeRemoteFullState payload = some (ack, state)) :
    state.cells.length = state.rows.toNat * state.cols.toNat := by
  rw [decodeRemoteFullState] at decodes
  split at decodes
  · cases decodes
  · dsimp only at decodes
    split at decodes
    · cases decodes
    · obtain ⟨-, rfl⟩ := Prod.mk.inj (Option.some.inj decodes)
      exact length_readMany _ _ _ _

theorem length_decodeRows {payload : List UInt8} {n offset : Nat} {rows : List RemoteRowDelta}
    (decodes : decodeRows payload n offset = some rows) : rows.length = n := by
  induction n generalizing offset rows with
  | zero => rw [← Option.some.inj decodes, List.length_nil]
  | succ n ih =>
      rw [decodeRows] at decodes
      split at decodes
      · cases decodes
      split at decodes
      · cases decodes
      split at decodes
      · cases decodes
      · rename_i later
        rw [← Option.some.inj decodes, List.length_cons, ih later]

theorem decodeRemoteDelta_few {payload : List UInt8} {ack : Option UInt64} {delta : RemoteDelta}
    (decodes : decodeRemoteDelta payload = some (ack, delta)) :
    delta.changedRows.length < 2 ^ 16 := by
  have counted (offset : Nat) (rows : List RemoteRowDelta)
      (read : decodeRows payload (u16At payload 8).toNat offset = some rows) :
      rows.length < 2 ^ 16 := by
    rw [length_decodeRows read]
    exact (u16At payload 8).toNat_lt
  rw [decodeRemoteDelta] at decodes
  split at decodes
  · cases decodes
  dsimp only at decodes
  split at decodes
  · split at decodes
    · cases decodes
    split at decodes
    · cases decodes
    · rename_i read
      obtain ⟨-, rfl⟩ := Prod.mk.inj (Option.some.inj decodes)
      exact counted _ _ read
  · split at decodes
    · cases decodes
    · rename_i read
      obtain ⟨-, rfl⟩ := Prod.mk.inj (Option.some.inj decodes)
      exact counted _ _ read

theorem decodeRemotePaneFullState_whole {payload : List UInt8} {pane revision : UInt64}
    {state : RemoteFullState}
    (decodes : decodeRemotePaneFullState payload = some (pane, revision, state)) :
    state.cells.length = state.rows.toNat * state.cols.toNat := by
  rw [decodeRemotePaneFullState] at decodes
  split at decodes
  · cases decodes
  split at decodes
  · cases decodes
  · rename_i inner
    cases decodes
    exact decodeRemoteFullState_whole inner

theorem decodeRemotePaneDelta_few {payload : List UInt8} {pane revision : UInt64}
    {delta : RemoteDelta} (decodes : decodeRemotePaneDelta payload = some (pane, revision, delta)) :
    delta.changedRows.length < 2 ^ 16 := by
  rw [decodeRemotePaneDelta] at decodes
  split at decodes
  · cases decodes
  split at decodes
  · cases decodes
  · rename_i inner
    cases decodes
    exact decodeRemoteDelta_few inner

/-- What the client reads from its stream is decoded. -/
theorem decoded_readEvent {frame : Frame} {event : LocalStreamEvent}
    (reads : readEvent frame = some event) : Decoded event := by
  cases frame with
  | control frame =>
      cases frame <;> simp only [readEvent, reduceCtorEq, Option.some.injEq] at reads <;>
        subst reads <;> trivial
  | screen source seq isLocal update =>
      cases update with
      | full state =>
          obtain ⟨⟨ack, state⟩, decodes, rfl⟩ := Option.map_eq_some_iff.mp reads
          exact decodeRemoteFullState_whole decodes
      | patch delta =>
          obtain ⟨⟨ack, delta⟩, decodes, rfl⟩ := Option.map_eq_some_iff.mp reads
          exact decodeRemoteDelta_few decodes
  | pane header update =>
      cases update with
      | full state =>
          obtain ⟨⟨pane, revision, state⟩, decodes, rfl⟩ := Option.map_eq_some_iff.mp reads
          exact decodeRemotePaneFullState_whole decodes
      | patch delta =>
          obtain ⟨⟨pane, revision, delta⟩, decodes, rfl⟩ := Option.map_eq_some_iff.mp reads
          exact decodeRemotePaneDelta_few decodes

theorem chunks_decoded {state : RemoteFullState}
    (whole : state.cells.length = state.rows.toNat * state.cols.toNat) :
    Uniform state.cols.toNat (chunks (max state.cols.toNat 1) state.cells) ∧
      (chunks (max state.cols.toNat 1) state.cells ≠ [] →
        (chunks (max state.cols.toNat 1) state.cells).length = state.rows.toNat) := by
  rcases Nat.eq_zero_or_pos state.cols.toNat with none_ | some_
  · have cells : state.cells = [] := by
      rw [none_, Nat.mul_zero] at whole
      exact List.eq_nil_of_length_eq_zero whole
    have noRows : chunks (max state.cols.toNat 1) state.cells = [] := by
      rw [cells, none_]
      rfl
    rw [noRows]
    exact ⟨fun _ member => absurd member List.not_mem_nil, fun rows => absurd rfl rows⟩
  · rw [Nat.max_eq_left some_]
    exact ⟨uniform_chunks some_ whole, fun _ => length_chunks some_ whole⟩

theorem framed_fullState {state : RemoteFullState}
    (whole : state.cells.length = state.rows.toNat * state.cols.toNat) (seed : UInt64)
    (foreground background cursorColor : RgbColor) :
    Framed (remoteFullStateToVtSnapshot cursorStyleOf state seed foreground background
      cursorColor) := by
  obtain ⟨uniform, count⟩ := chunks_decoded whole
  refine ⟨fun row member => ?_, fun rows => ?_⟩
  · obtain ⟨cells, held, rfl⟩ := List.mem_map.mp member
    rw [List.length_map]
    exact uniform cells held
  · have some_ : chunks (max state.cols.toNat 1) state.cells ≠ [] := by
      intro none_
      exact rows (by simp [remoteFullStateToVtSnapshot, none_])
    simp only [remoteFullStateToVtSnapshot, List.length_map, List.length_range, count some_]

/-- A row of a full state whose revision is the one shown has the cells that are shown. -/
def FullApart (snapshot : TerminalSnapshot Style) (state : RemoteFullState) (seed : UInt64)
    (foreground background : RgbColor) : Prop :=
  ∀ (i : Nat) row cells, snapshot.rowsData[i]? = some row →
    snapshot.rowRevisions[i]? = some (seed + UInt64.ofNat i) →
    (chunks (max state.cols.toNat 1) state.cells)[i]? = some cells →
      cells.map (fun cell => remoteCellToSnapshot cell foreground background) = row

theorem rowsCoherent_fullState_iff (snapshot : TerminalSnapshot Style) {state : RemoteFullState}
    (whole : state.cells.length = state.rows.toNat * state.cols.toNat) (seed : UInt64)
    (foreground background cursorColor : RgbColor) :
    RowsCoherent snapshot (remoteFullStateToVtSnapshot cursorStyleOf state seed foreground
      background cursorColor) ↔ FullApart snapshot state seed foreground background := by
  have count := (chunks_decoded whole).2
  simp only [RowsCoherent, FullApart, remoteFullStateToVtSnapshot, List.getElem?_map,
    Option.map_eq_some_iff]
  constructor
  · intro coherent i row cells held revised incoming
    have below : i < state.rows.toNat := by
      have inside := (List.getElem?_eq_some_iff.mp incoming).1
      rwa [count (List.ne_nil_of_length_pos (by omega))] at inside
    exact (coherent i row _ _ held ⟨cells, incoming, rfl⟩ revised
      ⟨i, List.getElem?_range below, rfl⟩).symm
  · rintro apart i row row' revision held ⟨cells, incoming, rfl⟩ revised ⟨j, index, rfl⟩
    have same : j = i := by
      have found := (List.getElem?_eq_some_iff.mp index).2
      rw [List.getElem_range] at found
      exact found.symm
    rw [same] at revised
    exact (apart i row cells held revised incoming).symm

end FullStates

section Fingerprints

variable {Style : Type}

theorem rotateLeft_inj {a b : UInt64} {amount : Nat} (small : amount < 64) :
    rotateLeft a amount = rotateLeft b amount ↔ a = b := by
  refine ⟨fun same => UInt64.toBitVec_inj.mp ?_, fun same => by rw [same]⟩
  have bits : a.toBitVec.rotateLeft amount = b.toBitVec.rotateLeft amount :=
    congrArg UInt64.toBitVec same
  refine BitVec.eq_of_getLsbD_eq fun i inside => ?_
  have bit := fun j => congrArg (fun bits => BitVec.getLsbD bits j) bits
  simp only [BitVec.getLsbD_rotateLeft, Nat.mod_eq_of_lt small] at bit
  by_cases high : i + amount < 64
  · have moved := bit (i + amount)
    have back : i + amount - amount = i := by omega
    simpa [high, back] using moved
  · have moved := bit (i + amount - 64)
    have low : i + amount - 64 < amount := by omega
    have back : 64 - amount + (i + amount - 64) = i := by omega
    simpa [low, back] using moved

/-- With one style, a row keeps its fingerprint exactly when it keeps its revision. -/
theorem textCurrent_iff {old new : TerminalSnapshot Style} (framed : Framed old)
    (framed' : Framed new) (styleFingerprint : UInt64) :
    TextCurrent styleFingerprint old new ↔ RowsCoherent old new := by
  have fingerprint : ∀ (i : Nat), baseRowFingerprint old i styleFingerprint =
      baseRowFingerprint new i styleFingerprint ↔
        (old.rowRevisions[i]?).getD 0 = (new.rowRevisions[i]?).getD 0 := by
    intro i
    rw [baseRowFingerprint, baseRowFingerprint, UInt64.xor_left_inj, UInt64.xor_right_inj,
      rotateLeft_inj (by decide)]
  have revised : ∀ {snapshot : TerminalSnapshot Style} {i : Nat} {row : List CellSnapshot},
      Framed snapshot → snapshot.rowsData[i]? = some row →
        ∃ revision, snapshot.rowRevisions[i]? = some revision := by
    intro snapshot i row framed held
    have inside := (List.getElem?_eq_some_iff.mp held).1
    rw [← framed.revisions (List.ne_nil_of_length_pos (by omega))] at inside
    exact ⟨_, List.getElem?_eq_getElem inside⟩
  constructor
  · intro current i row row' revision held held' before after
    refine current i row row' held held' ((fingerprint i).mpr ?_)
    rw [before, after]
  · intro coherent i row row' held held' same
    obtain ⟨revision, before⟩ := revised framed held
    obtain ⟨revision', after⟩ := revised framed' held'
    rw [fingerprint, before, after, Option.getD_some, Option.getD_some] at same
    exact coherent i row row' revision held held' before (same ▸ after)

end Fingerprints

section Run

variable {Style : Type} (cursorStyleOf : Int32 → Style) (paneId : PaneId)

/-- What an event brings for a pane. -/
inductive PaneChange
  | full (state : RemoteFullState)
  | delta (delta : RemoteDelta)

def changeOf (client : GuiClient Style) : LocalStreamEvent → Option PaneChange
  | .uiPaneFullState target runtimeRevision state =>
      if target = paneId ∧ ¬ (runtimeRevision ≠ 0 ∧ runtimeRevision < client.runtimeRevision) then
        some (.full state)
      else none
  | .uiPaneDelta target runtimeRevision delta =>
      if target = paneId ∧ ¬ (runtimeRevision ≠ 0 ∧ runtimeRevision ≠ client.runtimeRevision) then
        some (.delta delta)
      else none
  | .fullState _ state =>
      if client.focusedPaneId = paneId ∧ client.focusedPaneId ≠ 0 then some (.full state) else none
  | .delta _ delta => if client.focusedPaneId = paneId then some (.delta delta) else none
  | _ => none

/-- The client, and the latest snapshot that it had of the pane. -/
structure Viewed (Style : Type) where
  client : GuiClient Style
  shown : Option (TerminalSnapshot Style)

def Viewed.step (viewed : Viewed Style) (event : LocalStreamEvent) : Viewed Style :=
  let client := viewed.client.handleStreamEvent cursorStyleOf event
  ⟨client, (client.paneSnapshots paneId).or viewed.shown⟩

/-- `R` relates the snapshots of the pane before and after an event. -/
def Successive (R : TerminalSnapshot Style → TerminalSnapshot Style → Prop)
    (viewed : Viewed Style) (event : LocalStreamEvent) : Prop :=
  ∀ old new, viewed.shown = some old →
    (viewed.step cursorStyleOf paneId event).shown = some new → R old new

/-- No row that a full state or a scroll replaces comes back under the revision it is shown with,
unless its cells come back too. -/
def RowsApart (viewed : Viewed Style) (event : LocalStreamEvent) : Prop :=
  ∀ shown, viewed.shown = some shown →
    match changeOf paneId viewed.client event with
    | some (.full state) =>
        FullApart shown state viewed.client.nextFullSnapshotRevision
          viewed.client.appearance.terminalForeground viewed.client.appearance.terminalBackground
    | some (.delta delta) =>
        (viewed.client.paneSnapshots paneId).isSome → ScrollApart shown delta
    | none => True

/-- What every event keeps: the pane shows its latest snapshot, if any, and that is framed. -/
structure Viewed.Known (viewed : Viewed Style) : Prop where
  latest : ∀ snapshot, viewed.client.paneSnapshots paneId = some snapshot →
    viewed.shown = some snapshot
  framed : ∀ snapshot, viewed.shown = some snapshot → Framed snapshot

section Steps

variable {cursorStyleOf paneId} {client : GuiClient Style} {event : LocalStreamEvent}

theorem paneSnapshots_full {state : RemoteFullState}
    (brings : changeOf paneId client event = some (.full state)) :
    (client.handleStreamEvent cursorStyleOf event).paneSnapshots paneId =
      some (remoteFullStateToVtSnapshot cursorStyleOf state client.nextFullSnapshotRevision
        client.appearance.terminalForeground client.appearance.terminalBackground
        client.appearance.cursorColor) := by
  cases event with
  | uiRuntimeState | uiAppearance => cases brings
  | delta => simp [changeOf] at brings
  | uiPaneDelta => simp [changeOf] at brings
  | fullState ack state =>
      simp only [changeOf, Option.ite_none_right_eq_some, Option.some.injEq,
        PaneChange.full.injEq] at brings
      obtain ⟨⟨focus, some_⟩, rfl⟩ := brings
      rw [GuiClient.handleStreamEvent, if_pos some_, focus]
      exact Function.update_self ..
  | uiPaneFullState target revision state =>
      simp only [changeOf, Option.ite_none_right_eq_some, Option.some.injEq,
        PaneChange.full.injEq] at brings
      obtain ⟨⟨rfl, current⟩, rfl⟩ := brings
      rw [GuiClient.handleStreamEvent, if_neg current]
      exact Function.update_self ..

theorem paneSnapshots_delta {delta : RemoteDelta}
    (brings : changeOf paneId client event = some (.delta delta)) :
    (client.handleStreamEvent cursorStyleOf event).paneSnapshots paneId =
      (client.paneSnapshots paneId).map fun snapshot =>
        applyRemoteDeltaSnapshot cursorStyleOf snapshot delta := by
  cases event with
  | uiRuntimeState | uiAppearance => cases brings
  | fullState => simp [changeOf] at brings
  | uiPaneFullState => simp [changeOf] at brings
  | delta ack delta =>
      simp only [changeOf, Option.ite_none_right_eq_some, Option.some.injEq,
        PaneChange.delta.injEq] at brings
      obtain ⟨rfl, rfl⟩ := brings
      exact Function.update_self ..
  | uiPaneDelta target revision delta =>
      simp only [changeOf, Option.ite_none_right_eq_some, Option.some.injEq,
        PaneChange.delta.injEq] at brings
      obtain ⟨⟨rfl, current⟩, rfl⟩ := brings
      rw [GuiClient.handleStreamEvent, if_neg current]
      exact Function.update_self ..

theorem paneSnapshots_untouched (brings : changeOf paneId client event = none) :
    (client.handleStreamEvent cursorStyleOf event).paneSnapshots paneId =
        client.paneSnapshots paneId ∨
      (client.handleStreamEvent cursorStyleOf event).paneSnapshots paneId = none := by
  cases event with
  | uiRuntimeState state =>
      rw [GuiClient.handleStreamEvent, GuiClient.applyUiRuntimeState]
      dsimp only
      split
      · exact .inr rfl
      · exact .inl rfl
  | uiAppearance => exact .inl rfl
  | fullState ack state =>
      simp only [changeOf, ite_eq_right_iff, reduceCtorEq, imp_false, not_and_or] at brings
      left
      rw [GuiClient.handleStreamEvent]
      split
      · rename_i some_
        have other : client.focusedPaneId ≠ paneId := by tauto
        exact Function.update_of_ne other.symm ..
      · rfl
  | uiPaneFullState target revision state =>
      simp only [changeOf, ite_eq_right_iff, reduceCtorEq, imp_false] at brings
      left
      rw [GuiClient.handleStreamEvent]
      split
      · rfl
      · rename_i current
        have other : target ≠ paneId := fun same => brings ⟨same, current⟩
        exact Function.update_of_ne other.symm ..
  | delta ack delta =>
      simp only [changeOf, ite_eq_right_iff, reduceCtorEq, imp_false] at brings
      exact .inl (Function.update_of_ne (Ne.symm brings) ..)
  | uiPaneDelta target revision delta =>
      simp only [changeOf, ite_eq_right_iff, reduceCtorEq, imp_false] at brings
      left
      rw [GuiClient.handleStreamEvent]
      split
      · rfl
      · rename_i current
        have other : target ≠ paneId := fun same => brings ⟨same, current⟩
        exact Function.update_of_ne other.symm ..

variable {viewed : Viewed Style}

theorem decoded_full {state : RemoteFullState} (decoded : Decoded event)
    (brings : changeOf paneId client event = some (.full state)) :
    state.cells.length = state.rows.toNat * state.cols.toNat := by
  cases event with
  | uiRuntimeState | uiAppearance => cases brings
  | delta => simp [changeOf] at brings
  | uiPaneDelta => simp [changeOf] at brings
  | fullState ack state =>
      simp only [changeOf, Option.ite_none_right_eq_some, Option.some.injEq,
        PaneChange.full.injEq] at brings
      exact brings.2 ▸ decoded
  | uiPaneFullState target revision state =>
      simp only [changeOf, Option.ite_none_right_eq_some, Option.some.injEq,
        PaneChange.full.injEq] at brings
      exact brings.2 ▸ decoded

theorem decoded_delta {delta : RemoteDelta} (decoded : Decoded event)
    (brings : changeOf paneId client event = some (.delta delta)) :
    delta.changedRows.length < 2 ^ 64 := by
  have few : delta.changedRows.length < 2 ^ 16 := by
    cases event with
    | uiRuntimeState | uiAppearance => cases brings
    | fullState => simp [changeOf] at brings
    | uiPaneFullState => simp [changeOf] at brings
    | delta ack delta =>
        simp only [changeOf, Option.ite_none_right_eq_some, Option.some.injEq,
          PaneChange.delta.injEq] at brings
        exact brings.2 ▸ decoded
    | uiPaneDelta target revision delta =>
        simp only [changeOf, Option.ite_none_right_eq_some, Option.some.injEq,
          PaneChange.delta.injEq] at brings
        exact brings.2 ▸ decoded
  omega

theorem shown_full {state : RemoteFullState}
    (brings : changeOf paneId viewed.client event = some (.full state)) :
    (viewed.step cursorStyleOf paneId event).shown =
      some (remoteFullStateToVtSnapshot cursorStyleOf state
        viewed.client.nextFullSnapshotRevision viewed.client.appearance.terminalForeground
        viewed.client.appearance.terminalBackground viewed.client.appearance.cursorColor) := by
  rw [Viewed.step, paneSnapshots_full brings, Option.some_or]

theorem shown_delta {delta : RemoteDelta} (known : viewed.Known paneId)
    (brings : changeOf paneId viewed.client event = some (.delta delta))
    (present : (viewed.client.paneSnapshots paneId).isSome) :
    (viewed.step cursorStyleOf paneId event).shown = viewed.shown.map fun snapshot =>
      applyRemoteDeltaSnapshot cursorStyleOf snapshot delta := by
  obtain ⟨snapshot, held⟩ := Option.isSome_iff_exists.mp present
  rw [Viewed.step, paneSnapshots_delta brings, held, known.latest snapshot held, Option.map_some,
    Option.some_or]

theorem shown_untouched (known : viewed.Known paneId)
    (brings : changeOf paneId viewed.client event = none ∨
      viewed.client.paneSnapshots paneId = none ∧
        ∃ delta, changeOf paneId viewed.client event = some (.delta delta)) :
    (viewed.step cursorStyleOf paneId event).shown = viewed.shown := by
  rw [Viewed.step]
  dsimp only
  obtain untouched | ⟨absent, delta, brings⟩ := brings
  · obtain same | dropped := @paneSnapshots_untouched _ cursorStyleOf _ _ _ untouched
    · rw [same]
      cases held : viewed.client.paneSnapshots paneId with
      | none => rfl
      | some snapshot => exact (known.latest snapshot held).symm
    · rw [dropped, Option.none_or]
  · rw [paneSnapshots_delta brings, absent, Option.map_none, Option.none_or]

theorem known_step (known : viewed.Known paneId) (decoded : Decoded event) :
    (viewed.step cursorStyleOf paneId event).Known paneId := by
  refine ⟨fun snapshot held => ?_, fun snapshot held => ?_⟩
  · rw [Viewed.step] at held ⊢
    dsimp only at held ⊢
    rw [held, Option.some_or]
  · cases brings : changeOf paneId viewed.client event with
    | none =>
        rw [shown_untouched known (.inl brings)] at held
        exact known.framed snapshot held
    | some change =>
        cases change with
        | full state =>
            rw [shown_full brings] at held
            exact Option.some.inj held ▸ framed_fullState cursorStyleOf
              (decoded_full decoded brings) ..
        | delta delta =>
            by_cases present : (viewed.client.paneSnapshots paneId).isSome
            · rw [shown_delta known brings present, Option.map_eq_some_iff] at held
              obtain ⟨old, shown, rfl⟩ := held
              exact framed_delta cursorStyleOf (known.framed old shown) delta
            · have absent := Option.not_isSome_iff_eq_none.mp present
              rw [shown_untouched known (.inr ⟨absent, delta, brings⟩)] at held
              exact known.framed snapshot held

theorem RowsCoherent.refl (snapshot : TerminalSnapshot Style) : RowsCoherent snapshot snapshot := by
  intro i row row' revision held held' _ _
  exact Option.some.inj (held.symm.trans held')

/-- One event tells the rows apart exactly when it brings none back under its revision. -/
theorem successive_rowsCoherent_iff (known : viewed.Known paneId) (decoded : Decoded event) :
    Successive cursorStyleOf paneId RowsCoherent viewed event ↔
      RowsApart paneId viewed event := by
  rw [Successive, RowsApart]
  have still (same : (viewed.step cursorStyleOf paneId event).shown = viewed.shown) :
      ∀ old new, viewed.shown = some old →
        (viewed.step cursorStyleOf paneId event).shown = some new → RowsCoherent old new := by
    intro old new held next
    rw [same, held] at next
    exact Option.some.inj next ▸ RowsCoherent.refl old
  cases brings : changeOf paneId viewed.client event with
  | none => exact iff_of_true (still (shown_untouched known (.inl brings))) fun _ _ => trivial
  | some change =>
      cases change with
      | full state =>
          rw [shown_full brings]
          have step := fun old => rowsCoherent_fullState_iff cursorStyleOf old
            (decoded_full decoded brings) viewed.client.nextFullSnapshotRevision
            viewed.client.appearance.terminalForeground
            viewed.client.appearance.terminalBackground viewed.client.appearance.cursorColor
          exact ⟨fun coherent old held => (step old).mp (coherent old _ held rfl),
            fun apart old new held next => Option.some.inj next ▸ (step old).mpr (apart old held)⟩
      | delta delta =>
          by_cases present : (viewed.client.paneSnapshots paneId).isSome
          · rw [shown_delta known brings present]
            have step := fun old held => rowsCoherent_delta_iff cursorStyleOf
              (known.framed old held) (decoded_delta decoded brings)
            constructor
            · intro coherent old held _
              exact (step old held).mp (coherent old _ held (by rw [held, Option.map_some]))
            · intro apart old new held next
              rw [held, Option.map_some] at next
              exact Option.some.inj next ▸ (step old held).mpr (apart old held present)
          · have absent := Option.not_isSome_iff_eq_none.mp present
            exact iff_of_true (still (shown_untouched known (.inr ⟨absent, delta, brings⟩)))
              fun _ _ here => absurd here present

theorem successive_textCurrent_iff (known : viewed.Known paneId) (decoded : Decoded event)
    (styleFingerprint : UInt64) :
    Successive cursorStyleOf paneId (TextCurrent styleFingerprint) viewed event ↔
      RowsApart paneId viewed event := by
  rw [← @successive_rowsCoherent_iff _ cursorStyleOf _ _ _ known decoded]
  have next := @known_step _ cursorStyleOf _ _ _ known decoded
  refine forall₂_congr fun old new => forall₂_congr fun held shown => ?_
  exact textCurrent_iff (known.framed old held) (next.framed new shown) styleFingerprint

end Steps

/-- Along every run of events from before the pane's first snapshot, rows keep their cells
wherever they keep their revision, and no row shows stale text, exactly when every event tells
the rows apart. -/
theorem rowRevisions_coherent_iff (client : GuiClient Style)
    (fresh : client.paneSnapshots paneId = none) (events : List LocalStreamEvent)
    (decoded : ∀ event ∈ events, Decoded event) :
    (Always (Viewed.step cursorStyleOf paneId) (Successive cursorStyleOf paneId RowsCoherent)
        ⟨client, none⟩ events ↔
      Always (Viewed.step cursorStyleOf paneId) (RowsApart paneId) ⟨client, none⟩ events) ∧
    ∀ styleFingerprint,
      (Always (Viewed.step cursorStyleOf paneId)
          (Successive cursorStyleOf paneId (TextCurrent styleFingerprint)) ⟨client, none⟩ events ↔
        Always (Viewed.step cursorStyleOf paneId) (RowsApart paneId) ⟨client, none⟩ events) := by
  have start : (Viewed.mk client none : Viewed Style).Known paneId := by
    refine ⟨fun snapshot held => ?_, fun _ shown => nomatch shown⟩
    rw [fresh] at held
    exact nomatch held
  have admitted := always_of_forall (Viewed.step cursorStyleOf paneId)
    (⟨client, none⟩ : Viewed Style) decoded
  constructor
  · exact always_congr (fun _ _ known decoded _ => known_step known decoded)
      (fun _ _ known decoded => successive_rowsCoherent_iff known decoded) start admitted
  · intro styleFingerprint
    exact always_congr (fun _ _ known decoded _ => known_step known decoded)
      (fun _ _ known decoded => successive_textCurrent_iff known decoded styleFingerprint) start
      admitted

end Run

section Collision

/-- A client that waits for the first screen of pane 1. -/
def waiting : GuiClient Int32 where
  focusedPaneId := 1
  visiblePanes := [1]
  runtimeRevision := 0
  viewRevision := 1
  appearance := ⟨⟨240, 240, 240⟩, ⟨0, 0, 0⟩, ⟨240, 240, 240⟩⟩
  nextFullSnapshotRevision := 1
  paneSnapshots := fun _ => none

def plainDelta (scrollRows : Int16) (changedRows : List RemoteRowDelta) : RemoteDelta where
  cursorX := 0
  cursorY := 0
  cursorVisible := true
  cursorBlinking := false
  cursorStyle := 0
  scrollRows := scrollRows
  changedRows := changedRows

/-- The screen AB over CD, an E typed over the A, and a scroll by one row. -/
def typedAndScrolled : List LocalStreamEvent :=
  [.fullState none (smallGrid [plainCell 65, plainCell 66, plainCell 67, plainCell 68]),
    .delta none (plainDelta 0 [⟨0, 0, [plainCell 69]⟩]), .delta none (plainDelta 1 [])]

/-- The row that scrolls up has the revision that typing gave the row above it. -/
theorem scroll_brings_revision_back :
    (∀ event ∈ typedAndScrolled, Decoded event) ∧
      ¬ Always (Viewed.step id 1) (Successive id 1 RowsCoherent) ⟨waiting, none⟩
        typedAndScrolled := by
  refine ⟨?_, ?_⟩
  · simp only [typedAndScrolled, List.forall_mem_cons]
    refine ⟨rfl, ?_, ?_, fun _ member => nomatch member⟩ <;> simp [Decoded, plainDelta]
  · rintro ⟨-, -, scrolled, -⟩
    have kept := scrolled _ _ rfl rfl 0 _ _ 2 rfl rfl rfl rfl
    revert kept
    decide

theorem rowRevisions_coherent_typed :
    Always (Viewed.step id 1) (Successive id 1 RowsCoherent) ⟨waiting, none⟩
      (typedAndScrolled.take 2) := by
  have decoded : ∀ event ∈ typedAndScrolled.take 2, Decoded event := by
    simp only [typedAndScrolled, List.take, List.forall_mem_cons]
    refine ⟨rfl, ?_, fun _ member => nomatch member⟩
    simp [Decoded, plainDelta]
  refine (rowRevisions_coherent_iff id 1 waiting rfl _ decoded).1.mpr ⟨?_, ?_, trivial⟩
  · exact fun _ shown => nomatch shown
  · exact fun _ _ _ scrolls => absurd rfl scrolls

end Collision

end Boo.Client.RowRevisions
