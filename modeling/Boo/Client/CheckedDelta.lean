/- module: Boo/Client/CheckedDelta
   digest: Applying a delta to a snapshot with its index accesses and sums. -/

import Boo.Client.CheckedDecoders
import Boo.Client.RowRevisions

set_option autoImplicit false
set_option relaxedAutoImplicit false

namespace Boo.Client.CheckedDelta

open Boo.Lib.Checked
open Boo.Lib.RowMajor
open Boo.Lib.WriteRun
open Boo.Wire.Message
open Boo.Client.Snapshot hiding applySnapshotScroll applyRowDelta applyRemoteDeltaSnapshot
open Boo.Client.RowRevisions (scrollShift scrollShift_le applySnapshotScroll_up
  applySnapshotScroll_down Framed framed_delta applyRemoteDelta_frame)

/-- `-scroll_rows`, which has no value for the least one. -/
def negate (scrollRows : Int16) : Run Int16 :=
  if scrollRows = Int16.minValue then Run.fail .overflow else pure (-scrollRows)

/-- The loops that blank `n` rows from `rowIndex` on and count their revisions up. -/
def blankRows (blankRow : List CellSnapshot) : Nat → Nat → List (List CellSnapshot) →
    List UInt64 → Run (List (List CellSnapshot) × List UInt64)
  | 0, _, rowsData, rowRevisions => pure (rowsData, rowRevisions)
  | n + 1, rowIndex, rowsData, rowRevisions => do
      let rowsData ← store rowsData rowIndex blankRow
      let revision ← index rowRevisions rowIndex
      let rowRevisions ← store rowRevisions rowIndex (revision + 1)
      blankRows blankRow n (rowIndex + 1) rowsData rowRevisions

/-- The loop that writes the cells of a row change, `offset` cells into it. -/
def writeCells (startCol : Nat) : Nat → List RemoteCell → List CellSnapshot → Nat →
    Run (List CellSnapshot × Nat)
  | _, [], targetRow, appliedCells => pure (targetRow, appliedCells)
  | offset, cell :: cells, targetRow, appliedCells => do
      let col ← add startCol offset
      let targetRow ← store targetRow col (remoteCellToSnapshotDefault cell)
      let appliedCells ← add appliedCells 1
      writeCells startCol (offset + 1) cells targetRow appliedCells

section Apply

variable {Style : Type} (cursorStyleOf : Int32 → Style)

/-- `if row_revisions.len() != rows_data.len() { row_revisions.resize(rows_data.len(), 1) }`. -/
def sizedRevisions (snapshot : TerminalSnapshot Style) : TerminalSnapshot Style :=
  if snapshot.rowRevisions.length ≠ snapshot.rowsData.length then resizeRevisions snapshot
  else snapshot

def applySnapshotScroll (snapshot : TerminalSnapshot Style) (scrollRows : Int16) :
    Run (TerminalSnapshot Style) :=
  let rows := snapshot.rowsData.length
  if rows = 0 then pure snapshot
  else
    let snapshot := sizedRevisions snapshot
    let blankRow := List.replicate snapshot.cols.toNat ({} : CellSnapshot)
    if 0 < scrollRows.toInt then do
      let shift := min scrollRows.toInt.toNat rows
      let rowsData ← rotateLeft snapshot.rowsData shift
      let rowRevisions ← rotateLeft snapshot.rowRevisions shift
      let first ← sub rows shift
      let (rowsData, rowRevisions) ←
        blankRows blankRow (rows - first) first rowsData rowRevisions
      pure { snapshot with
        rowsData := rowsData
        rowRevisions := rowRevisions }
    else do
      let back ← negate scrollRows
      let shift := min back.toInt64.toUInt64.toNat rows
      let rowsData ← rotateRight snapshot.rowsData shift
      let rowRevisions ← rotateRight snapshot.rowRevisions shift
      let (rowsData, rowRevisions) ← blankRows blankRow shift 0 rowsData rowRevisions
      pure { snapshot with
        rowsData := rowsData
        rowRevisions := rowRevisions }

/-- The snapshot with the counters of applied rows and cells. -/
structure Applied (Style : Type) where
  snapshot : TerminalSnapshot Style
  rows : Nat
  cells : Nat

def applyRowDelta (applied : Applied Style) (rowDelta : RemoteRowDelta) : Run (Applied Style) :=
  let snapshot := applied.snapshot
  let cols := snapshot.cols.toNat
  let rowIndex := rowDelta.row.toNat
  if snapshot.rowsData.length ≤ rowIndex then pure applied
  else do
    let row ← index snapshot.rowsData rowIndex
    let targetRow := if row.length < cols then resizeRow row cols else row
    let startCol := rowDelta.startCol.toNat
    if cols ≤ startCol then
      pure { applied with
        snapshot := { snapshot with
          rowsData := snapshot.rowsData.set rowIndex targetRow } }
    else do
      let (targetRow, cells) ←
        writeCells startCol 0 (rowDelta.cells.take (cols - startCol)) targetRow applied.cells
      let rows ← add applied.rows 1
      pure {
        snapshot := { snapshot with
          rowsData := snapshot.rowsData.set rowIndex targetRow
          rowRevisions := snapshot.rowRevisions.modify rowIndex (· + 1) }
        rows := rows
        cells := cells }

def applyRows (applied : Applied Style) : List RemoteRowDelta → Run (Applied Style)
  | [] => pure applied
  | rowDelta :: changedRows => do
      let applied ← applyRowDelta applied rowDelta
      applyRows applied changedRows

def moveCursor (snapshot : TerminalSnapshot Style) (delta : RemoteDelta) :
    TerminalSnapshot Style :=
  { snapshot with
    cursor := {
      x := delta.cursorX
      y := delta.cursorY
      visible := delta.cursorVisible
      blinking := delta.cursorBlinking
      style := cursorStyleOf delta.cursorStyle } }

def applyRemoteDeltaSnapshot (snapshot : TerminalSnapshot Style) (delta : RemoteDelta) :
    Run (TerminalSnapshot Style) := do
  let sized := sizedRevisions (moveCursor cursorStyleOf snapshot delta)
  let scrolled ←
    if delta.scrollRows ≠ 0 then applySnapshotScroll sized delta.scrollRows else pure sized
  let applied ← applyRows ⟨scrolled, 0, 0⟩ delta.changedRows
  pure applied.snapshot

end Apply

/-- The loop overwrites a run of cells when they all lie inside the row. -/
theorem writeCells_eq {startCol : Nat} (cells : List RemoteCell) {offset appliedCells : Nat}
    {targetRow : List CellSnapshot} (inside : startCol + offset + cells.length ≤ targetRow.length)
    (small : startCol + offset + cells.length < wordLimit)
    (counted : appliedCells + cells.length < wordLimit) :
    writeCells startCol offset cells targetRow appliedCells =
      pure (writeRun targetRow (startCol + offset) (cells.map remoteCellToSnapshotDefault),
        appliedCells + cells.length) := by
  induction cells generalizing offset appliedCells targetRow with
  | nil => rfl
  | cons cell cells ih =>
    rw [List.length_cons] at inside small counted
    rw [writeCells, add_of_lt (by omega), Run.pure_bind, store_of_lt _ (by omega), Run.pure_bind,
      add_of_lt (by omega), Run.pure_bind, ih (by rw [List.length_set]; omega) (by omega) (by omega),
      List.map_cons, writeRun, List.length_cons]
    have next : startCol + (offset + 1) = startCol + offset + 1 := by omega
    have count : appliedCells + 1 + cells.length = appliedCells + (cells.length + 1) := by omega
    rw [next, count]

/-- The loop blanks the middle of the rows and counts up the middle of the revisions. -/
theorem blankRows_eq (blankRow : List CellSnapshot) (front mid back : List (List CellSnapshot))
    (front' mid' back' : List UInt64) {n i : Nat} (count : mid.length = n) (count' : mid'.length = n)
    (start : front.length = i) (start' : front'.length = i) :
    blankRows blankRow n i (front ++ (mid ++ back)) (front' ++ (mid' ++ back')) =
      pure (front ++ (List.replicate n blankRow ++ back),
        front' ++ (mid'.map (· + 1) ++ back')) := by
  induction n generalizing front mid front' mid' i with
  | zero =>
    rw [List.eq_nil_of_length_eq_zero count, List.eq_nil_of_length_eq_zero count']
    rfl
  | succ n ih =>
    obtain ⟨row, mid, rfl⟩ := List.exists_cons_of_length_eq_add_one count
    obtain ⟨revision, mid', rfl⟩ := List.exists_cons_of_length_eq_add_one count'
    have fewer : mid.length = n := by simpa using count
    have fewer' : mid'.length = n := by simpa using count'
    have revised : index (front' ++ (revision :: mid' ++ back')) i = pure revision := by
      rw [index, List.getElem?_append_right (Nat.le_of_eq start'), start', Nat.sub_self]
      rfl
    have stored : store (front ++ (row :: mid ++ back)) i blankRow =
        pure ((front ++ [blankRow]) ++ (mid ++ back)) := by
      rw [store_of_lt _ (by simp; omega), List.set_append_right _ _ (Nat.le_of_eq start), start,
        Nat.sub_self, List.append_assoc]
      rfl
    have counted : store (front' ++ (revision :: mid' ++ back')) i (revision + 1) =
        pure ((front' ++ [revision + 1]) ++ (mid' ++ back')) := by
      rw [store_of_lt _ (by simp; omega), List.set_append_right _ _ (Nat.le_of_eq start'), start',
        Nat.sub_self, List.append_assoc]
      rfl
    have later : (front ++ [blankRow]).length = i + 1 := by simp [start]
    have later' : (front' ++ [revision + 1]).length = i + 1 := by simp [start']
    have next := ih (front ++ [blankRow]) mid (front' ++ [revision + 1]) mid' fewer fewer' later
      later'
    rw [blankRows, stored, Run.pure_bind, revised, Run.pure_bind, counted, Run.pure_bind, next]
    simp only [List.append_assoc, List.replicate_succ, List.map_cons, List.cons_append,
      List.nil_append]

section Spec

variable {Style : Type} (cursorStyleOf : Int32 → Style)

theorem sizedRevisions_length (snapshot : TerminalSnapshot Style) :
    (sizedRevisions snapshot).rowRevisions.length = (sizedRevisions snapshot).rowsData.length := by
  rw [sizedRevisions]
  split
  · simp only [resizeRevisions, List.length_append, List.length_take, List.length_replicate]
    omega
  · omega

theorem sizedRevisions_of_eq {snapshot : TerminalSnapshot Style}
    (sized : snapshot.rowRevisions.length = snapshot.rowsData.length) :
    sizedRevisions snapshot = snapshot := if_neg (not_not.mpr sized)

/-- Only the negation of the least amount can fault. -/
theorem applySnapshotScroll_eq {snapshot : TerminalSnapshot Style} {scrollRows : Int16}
    (sized : snapshot.rowRevisions.length = snapshot.rowsData.length)
    (negatable : scrollRows ≠ Int16.minValue) :
    applySnapshotScroll snapshot scrollRows =
      pure (Boo.Client.Snapshot.applySnapshotScroll snapshot scrollRows) := by
  rw [applySnapshotScroll]
  dsimp only
  by_cases empty : snapshot.rowsData.length = 0
  · rw [if_pos empty, Boo.Client.Snapshot.applySnapshotScroll, if_pos empty]
  rw [if_neg empty, sizedRevisions_of_eq sized]
  have bound := scrollShift_le snapshot.rowsData.length scrollRows
  by_cases up : 0 < scrollRows.toInt
  · have shiftEq : min scrollRows.toInt.toNat snapshot.rowsData.length =
        scrollShift snapshot.rowsData.length scrollRows := by
      rw [scrollShift, if_pos up]
    rw [if_pos up, shiftEq, applySnapshotScroll_up up empty]
    dsimp only
    generalize scrollShift snapshot.rowsData.length scrollRows = shift at bound
    have rotated : rotateLeft snapshot.rowsData shift =
        pure (snapshot.rowsData.drop shift ++ snapshot.rowsData.take shift) := if_pos bound
    have rotated' : rotateLeft snapshot.rowRevisions shift =
        pure (snapshot.rowRevisions.drop shift ++ snapshot.rowRevisions.take shift) :=
      if_pos (by omega)
    have blanked := blankRows_eq (List.replicate snapshot.cols.toNat {})
      (snapshot.rowsData.drop shift) (snapshot.rowsData.take shift) []
      (snapshot.rowRevisions.drop shift) (snapshot.rowRevisions.take shift) []
      (List.length_take_of_le bound) (List.length_take_of_le (by omega)) List.length_drop
      (by rw [List.length_drop, sized])
    simp only [List.append_nil] at blanked
    have count : snapshot.rowsData.length - (snapshot.rowsData.length - shift) = shift := by omega
    rw [rotated, Run.pure_bind, rotated', Run.pure_bind, sub_of_le bound, Run.pure_bind, count,
      blanked, Run.pure_bind]
  · have shiftEq : min (-scrollRows).toInt64.toUInt64.toNat snapshot.rowsData.length =
        scrollShift snapshot.rowsData.length scrollRows := by
      rw [scrollShift, if_neg up, negatedScroll]
    have negated : negate scrollRows = pure (-scrollRows) := if_neg negatable
    rw [if_neg up, negated, Run.pure_bind, shiftEq, applySnapshotScroll_down up empty]
    dsimp only
    generalize scrollShift snapshot.rowsData.length scrollRows = shift at bound
    have rotated : rotateRight snapshot.rowsData shift =
        pure (snapshot.rowsData.drop (snapshot.rowsData.length - shift) ++
          snapshot.rowsData.take (snapshot.rowsData.length - shift)) := if_pos bound
    have rotated' : rotateRight snapshot.rowRevisions shift =
        pure (snapshot.rowRevisions.drop (snapshot.rowsData.length - shift) ++
          snapshot.rowRevisions.take (snapshot.rowsData.length - shift)) := by
      rw [rotateRight, if_pos (by omega), sized]
    have wrapped : (snapshot.rowsData.drop (snapshot.rowsData.length - shift)).length = shift := by
      rw [List.length_drop]
      omega
    have wrapped' : (snapshot.rowRevisions.drop (snapshot.rowsData.length - shift)).length =
        shift := by
      rw [List.length_drop]
      omega
    have blanked := blankRows_eq (List.replicate snapshot.cols.toNat {}) []
      (snapshot.rowsData.drop (snapshot.rowsData.length - shift))
      (snapshot.rowsData.take (snapshot.rowsData.length - shift)) []
      (snapshot.rowRevisions.drop (snapshot.rowsData.length - shift))
      (snapshot.rowRevisions.take (snapshot.rowsData.length - shift))
      wrapped wrapped' rfl rfl
    rw [rotated, Run.pure_bind, rotated', Run.pure_bind]
    simp only [List.nil_append, List.length_nil] at blanked
    rw [blanked, Run.pure_bind]

/-- The least amount cannot be negated. -/
theorem applySnapshotScroll_minValue {snapshot : TerminalSnapshot Style}
    (rows : snapshot.rowsData.length ≠ 0) :
    applySnapshotScroll snapshot Int16.minValue = Run.fail .overflow := by
  have down : ¬ 0 < Int16.minValue.toInt := by decide
  have negated : negate Int16.minValue = Run.fail .overflow := if_pos rfl
  rw [applySnapshotScroll]
  dsimp only
  rw [if_neg rows, if_neg down, negated, Run.fail_bind]

/-- The counters grow by one row and by no more cells than a row has columns. -/
theorem applyRowDelta_eq (applied : Applied Style) (rowDelta : RemoteRowDelta)
    (rowsLt : applied.rows + 1 < wordLimit) (cellsLt : applied.cells + 65536 < wordLimit) :
    ∃ rows cells, rows ≤ applied.rows + 1 ∧ cells ≤ applied.cells + 65536 ∧
      applyRowDelta applied rowDelta =
        pure ⟨Boo.Client.Snapshot.applyRowDelta applied.snapshot rowDelta, rows, cells⟩ := by
  obtain ⟨snapshot, rows, cells⟩ := applied
  rw [applyRowDelta, Boo.Client.Snapshot.applyRowDelta]
  dsimp only at rowsLt cellsLt ⊢
  by_cases outside : snapshot.rowsData.length ≤ rowDelta.row.toNat
  · rw [if_pos outside, List.getElem?_eq_none outside]
    exact ⟨rows, cells, Nat.le_succ rows, Nat.le_add_right _ _, rfl⟩
  have inside : rowDelta.row.toNat < snapshot.rowsData.length := Nat.not_le.mp outside
  rw [if_neg outside, index_of_lt inside, Run.pure_bind, List.getElem?_eq_getElem inside]
  dsimp only
  generalize snapshot.rowsData[rowDelta.row.toNat] = row
  have resized : (if row.length < snapshot.cols.toNat then resizeRow row snapshot.cols.toNat
      else row) = resizeRow row snapshot.cols.toNat := by
    by_cases narrow : row.length < snapshot.cols.toNat
    · rw [if_pos narrow]
    · have none : snapshot.cols.toNat - row.length = 0 := by omega
      rw [if_neg narrow, resizeRow, none, List.replicate_zero, List.append_nil]
  have wide : snapshot.cols.toNat ≤ (resizeRow row snapshot.cols.toNat).length := by
    rw [resizeRow, List.length_append, List.length_replicate]
    omega
  rw [resized]
  by_cases beyond : snapshot.cols.toNat ≤ rowDelta.startCol.toNat
  · rw [if_pos beyond, if_pos beyond]
    exact ⟨rows, cells, Nat.le_succ rows, Nat.le_add_right _ _, rfl⟩
  have colsLt : snapshot.cols.toNat < 65536 := snapshot.cols.toNat_lt
  have limit : wordLimit = 2 ^ 64 := rfl
  have taken : (rowDelta.cells.take (snapshot.cols.toNat - rowDelta.startCol.toNat)).length ≤
      snapshot.cols.toNat - rowDelta.startCol.toNat := List.length_take_le _ _
  have written := writeCells_eq
    (rowDelta.cells.take (snapshot.cols.toNat - rowDelta.startCol.toNat))
    (show rowDelta.startCol.toNat + 0 + _ ≤ (resizeRow row snapshot.cols.toNat).length by omega)
    (by omega) (show cells + _ < wordLimit by omega)
  rw [if_neg beyond, if_neg beyond, written, Run.pure_bind, add_of_lt rowsLt, Run.pure_bind]
  exact ⟨rows + 1, _, Nat.le_refl _, by omega, rfl⟩

theorem applyRows_eq (changedRows : List RemoteRowDelta) (applied : Applied Style)
    (rowsLt : applied.rows + changedRows.length < wordLimit)
    (cellsLt : applied.cells + 65536 * changedRows.length < wordLimit) :
    ∃ rows cells, applyRows applied changedRows =
      pure ⟨changedRows.foldl Boo.Client.Snapshot.applyRowDelta applied.snapshot, rows, cells⟩ := by
  induction changedRows generalizing applied with
  | nil => exact ⟨applied.rows, applied.cells, rfl⟩
  | cons rowDelta changedRows ih =>
    rw [List.length_cons] at rowsLt cellsLt
    rw [Nat.mul_succ, ← Nat.add_assoc] at cellsLt
    have rowsRoom : applied.rows + 1 < wordLimit := by omega
    have cellsRoom : applied.cells + 65536 < wordLimit :=
      Nat.lt_of_le_of_lt (Nat.add_le_add_right (Nat.le_add_right _ _) _) cellsLt
    obtain ⟨rows, cells, rowsLe, cellsLe, first⟩ :=
      applyRowDelta_eq applied rowDelta rowsRoom cellsRoom
    rw [applyRows, first, Run.pure_bind, List.foldl_cons]
    exact ih ⟨_, rows, cells⟩ (show rows + _ < wordLimit by omega) (show cells + _ < wordLimit by omega)

/-- What a delta must not ask for. -/
def Unnegatable (snapshot : TerminalSnapshot Style) (delta : RemoteDelta) : Prop :=
  delta.scrollRows = Int16.minValue ∧ snapshot.rowsData ≠ []

/-- The delta on a snapshot that the loops work on. -/
theorem applyRemoteDelta_sized (snapshot : TerminalSnapshot Style) (delta : RemoteDelta) :
    Boo.Client.Snapshot.applyRemoteDeltaSnapshot cursorStyleOf snapshot delta =
      delta.changedRows.foldl Boo.Client.Snapshot.applyRowDelta
        (if delta.scrollRows ≠ 0 then
          Boo.Client.Snapshot.applySnapshotScroll
            (sizedRevisions (moveCursor cursorStyleOf snapshot delta)) delta.scrollRows
        else sizedRevisions (moveCursor cursorStyleOf snapshot delta)) := rfl

theorem rowsData_sizedRevisions (snapshot : TerminalSnapshot Style) :
    (sizedRevisions snapshot).rowsData = snapshot.rowsData := by
  rw [sizedRevisions]
  split <;> rfl

theorem applyRemoteDeltaSnapshot_eq {snapshot : TerminalSnapshot Style} {delta : RemoteDelta}
    (few : delta.changedRows.length < 65536) (negatable : ¬ Unnegatable snapshot delta) :
    applyRemoteDeltaSnapshot cursorStyleOf snapshot delta =
      pure (Boo.Client.Snapshot.applyRemoteDeltaSnapshot cursorStyleOf snapshot delta) := by
  have limit : wordLimit = 2 ^ 64 := rfl
  have rowsData := rowsData_sizedRevisions (moveCursor cursorStyleOf snapshot delta)
  have sized := sizedRevisions_length (moveCursor cursorStyleOf snapshot delta)
  rw [applyRemoteDeltaSnapshot, applyRemoteDelta_sized]
  dsimp only
  generalize sizedRevisions (moveCursor cursorStyleOf snapshot delta) = start at rowsData sized
  have applied : ∀ scrolled : TerminalSnapshot Style,
      (do
        let applied ← applyRows ⟨scrolled, 0, 0⟩ delta.changedRows
        pure applied.snapshot) =
        (pure (delta.changedRows.foldl Boo.Client.Snapshot.applyRowDelta scrolled) :
          Run (TerminalSnapshot Style)) := by
    intro scrolled
    obtain ⟨rows, cells, run⟩ := applyRows_eq delta.changedRows ⟨scrolled, 0, 0⟩
      (show 0 + _ < wordLimit by omega) (show 0 + _ < wordLimit by omega)
    rw [run, Run.pure_bind]
  by_cases scrolls : delta.scrollRows ≠ 0
  · rw [if_pos scrolls, if_pos scrolls]
    by_cases least : delta.scrollRows = Int16.minValue
    · have empty : snapshot.rowsData = [] := by
        by_contra some
        exact negatable ⟨least, some⟩
      have none : start.rowsData.length = 0 := by
        rw [rowsData, moveCursor, empty]
        rfl
      have still : applySnapshotScroll start delta.scrollRows = pure start := if_pos none
      have same : Boo.Client.Snapshot.applySnapshotScroll start delta.scrollRows = start :=
        if_pos none
      rw [still, same, Run.pure_bind, applied]
    · rw [applySnapshotScroll_eq sized least, Run.pure_bind, applied]
  · rw [if_neg scrolls, if_neg scrolls, Run.pure_bind, applied]

theorem applyRemoteDeltaSnapshot_fails {snapshot : TerminalSnapshot Style} {delta : RemoteDelta}
    (unnegatable : Unnegatable snapshot delta) :
    applyRemoteDeltaSnapshot cursorStyleOf snapshot delta = Run.fail .overflow := by
  obtain ⟨least, rows⟩ := unnegatable
  have scrolls : Int16.minValue ≠ 0 := by decide
  have some : (sizedRevisions (moveCursor cursorStyleOf snapshot delta)).rowsData.length ≠ 0 := by
    rw [rowsData_sizedRevisions, moveCursor]
    exact fun none => rows (List.eq_nil_of_length_eq_zero none)
  rw [applyRemoteDeltaSnapshot]
  dsimp only
  rw [least, if_pos scrolls, applySnapshotScroll_minValue some, Run.fail_bind]

/-! Dimensions -/

/-- A snapshot has as many rows as it says, each as wide as the screen. -/
structure WellFormed (snapshot : TerminalSnapshot Style) : Prop where
  rows_eq : snapshot.rowsData.length = snapshot.rows.toNat
  uniform : Uniform snapshot.cols.toNat snapshot.rowsData

theorem rows_sizedRevisions (snapshot : TerminalSnapshot Style) :
    (sizedRevisions snapshot).rows = snapshot.rows ∧
      (sizedRevisions snapshot).cols = snapshot.cols := by
  rw [sizedRevisions]
  split <;> exact ⟨rfl, rfl⟩

theorem rows_applySnapshotScroll (snapshot : TerminalSnapshot Style) (scrollRows : Int16) :
    (Boo.Client.Snapshot.applySnapshotScroll snapshot scrollRows).rows = snapshot.rows := by
  rw [Boo.Client.Snapshot.applySnapshotScroll]
  split
  · rfl
  · dsimp only
    split <;> rfl

theorem rows_applyRowDelta (snapshot : TerminalSnapshot Style) (rowDelta : RemoteRowDelta) :
    (Boo.Client.Snapshot.applyRowDelta snapshot rowDelta).rows = snapshot.rows := by
  rw [Boo.Client.Snapshot.applyRowDelta]
  dsimp only
  split
  · rfl
  · split <;> rfl

theorem rows_applyRowDeltas (changedRows : List RemoteRowDelta) (snapshot : TerminalSnapshot Style) :
    (changedRows.foldl Boo.Client.Snapshot.applyRowDelta snapshot).rows = snapshot.rows := by
  induction changedRows generalizing snapshot with
  | nil => rfl
  | cons rowDelta changedRows ih => rw [List.foldl_cons, ih, rows_applyRowDelta]

theorem rows_applyRemoteDelta (snapshot : TerminalSnapshot Style) (delta : RemoteDelta) :
    (Boo.Client.Snapshot.applyRemoteDeltaSnapshot cursorStyleOf snapshot delta).rows =
      snapshot.rows := by
  rw [applyRemoteDelta_sized, rows_applyRowDeltas]
  split
  · rw [rows_applySnapshotScroll, (rows_sizedRevisions _).1]
    rfl
  · rw [(rows_sizedRevisions _).1]
    rfl

/-- Missing revisions are made up before anything else. -/
theorem applyRemoteDelta_sizedRevisions (snapshot : TerminalSnapshot Style) (delta : RemoteDelta) :
    Boo.Client.Snapshot.applyRemoteDeltaSnapshot cursorStyleOf (sizedRevisions snapshot) delta =
      Boo.Client.Snapshot.applyRemoteDeltaSnapshot cursorStyleOf snapshot delta := by
  have start : sizedRevisions (moveCursor cursorStyleOf (sizedRevisions snapshot) delta) =
      sizedRevisions (moveCursor cursorStyleOf snapshot delta) := by
    have sized : (moveCursor cursorStyleOf (sizedRevisions snapshot) delta).rowRevisions.length =
        (moveCursor cursorStyleOf (sizedRevisions snapshot) delta).rowsData.length :=
      sizedRevisions_length snapshot
    rw [sizedRevisions_of_eq sized, sizedRevisions, sizedRevisions]
    have lengths : (moveCursor cursorStyleOf snapshot delta).rowRevisions.length ≠
        (moveCursor cursorStyleOf snapshot delta).rowsData.length ↔
        snapshot.rowRevisions.length ≠ snapshot.rowsData.length := Iff.rfl
    by_cases missing : snapshot.rowRevisions.length ≠ snapshot.rowsData.length
    · rw [if_pos missing, if_pos (lengths.mpr missing)]
      rfl
    · rw [if_neg missing, if_neg (lengths.not.mpr missing)]
  rw [applyRemoteDelta_sized, applyRemoteDelta_sized, start]

/-- A delta leaves the dimensions as they are. -/
theorem applyRemoteDelta_dimensions {snapshot : TerminalSnapshot Style} (wf : WellFormed snapshot)
    (delta : RemoteDelta) :
    (Boo.Client.Snapshot.applyRemoteDeltaSnapshot cursorStyleOf snapshot delta).cols =
        snapshot.cols ∧
      (Boo.Client.Snapshot.applyRemoteDeltaSnapshot cursorStyleOf snapshot delta).rows =
        snapshot.rows ∧
      WellFormed (Boo.Client.Snapshot.applyRemoteDeltaSnapshot cursorStyleOf snapshot delta) := by
  have rowsData := rowsData_sizedRevisions snapshot
  have cols := (rows_sizedRevisions snapshot).2
  have rows := rows_applyRemoteDelta cursorStyleOf snapshot delta
  have framed : Framed (sizedRevisions snapshot) := by
    refine ⟨?_, fun _ => sizedRevisions_length snapshot⟩
    rw [rowsData, cols]
    exact wf.uniform
  have uniform := (framed_delta cursorStyleOf framed delta).uniform
  obtain ⟨cols', height, -⟩ := applyRemoteDelta_frame cursorStyleOf delta
    (sizedRevisions_length snapshot)
  rw [applyRemoteDelta_sizedRevisions] at uniform cols' height
  refine ⟨cols'.trans cols, rows, ?_, uniform⟩
  rw [height, rowsData, rows, wf.rows_eq]

end Spec

end Boo.Client.CheckedDelta
