/- module: Boo/Runtime/SelectionText
   digest: The text of a selection of a terminal snapshot, and when it is that of the selected cells. -/

import Boo.Lib.TrimmedJoins
import Boo.Lib.TextLines
import Boo.Client.Snapshot
import Mathlib.Data.List.Sort

set_option autoImplicit false
set_option relaxedAutoImplicit false

namespace Boo.Runtime.SelectionText

open Boo.Lib.TextLines
open Boo.Lib.TrimmedJoins
open Boo.Client.Snapshot

/-- The coordinates of `ghostty_point_s`; its tag and coordinate kind are not looked at here. -/
structure Point where
  x : ℕ
  y : ℕ
  deriving DecidableEq

structure Selection where
  topLeft : Point
  bottomRight : Point
  rectangle : Bool
  deriving DecidableEq

/-- What a column shows: an empty cell, and a column without a cell, show a space. -/
def columnText (row : List CellSnapshot) (col : ℕ) : Text :=
  ((row[col]?.map fun cell => cell.text.toList).filter fun text =>
    text ≠ [] ∧ text ≠ ['\x00']).getD [' ']

/-- `start..=stop`. -/
def through (start stop : ℕ) : List ℕ := List.range' start (stop + 1 - start)

def trimSpaces (text : Text) : Text := text.rdropWhile fun char => char = ' '

def rowText (row : List CellSnapshot) (startCol endCol : ℕ) (preserveTrailingSpaces : Bool) : Text :=
  if row.isEmpty || endCol < startCol then []
  else
    let out := (through startCol endCol).flatMap (columnText row)
    if preserveTrailingSpaces then out else trimSpaces out

section Texts

variable {Style : Type} (snapshot : TerminalSnapshot Style) (selection : Selection)

def Selection.startRow : ℕ := min selection.topLeft.y selection.bottomRight.y

def Selection.endRow : ℕ := max selection.topLeft.y selection.bottomRight.y

def Selection.startCol : ℕ := min selection.topLeft.x selection.bottomRight.x

def Selection.endCol : ℕ := max selection.topLeft.x selection.bottomRight.x

def rowAt (rowIndex : ℕ) : List CellSnapshot := (snapshot.rowsData[rowIndex]?).getD []

def lineStart (rowIndex : ℕ) : ℕ :=
  if selection.rectangle || rowIndex = selection.startRow then selection.startCol else 0

def lineEnd (rowIndex : ℕ) : ℕ :=
  if selection.rectangle || rowIndex = selection.endRow then selection.endCol
  else snapshot.cols.toNat - 1

/-- The rows that are read: rows behind the snapshot become its last row. -/
def rowsRead : List ℕ :=
  let maxRow := snapshot.rowsData.length - 1
  through (min selection.startRow maxRow) (min selection.endRow maxRow)

def selectionText : Text :=
  ['\n'].intercalate ((rowsRead snapshot selection).map fun rowIndex =>
    rowText (rowAt snapshot rowIndex) (lineStart selection rowIndex)
      (lineEnd snapshot selection rowIndex) selection.rectangle)

/-- The cell behind a wide character, which shows nothing of its own. -/
def isContinuation (row : List CellSnapshot) (col : ℕ) : Bool :=
  0 < col && (row[col - 1]?).any (fun cell => 1 < cell.displayWidth) &&
    (row[col]?).any fun cell => cell.text = "" || cell.text = "\x00"

/-- The columns of a row in the selected range. -/
def InRange (rowIndex col : ℕ) : Prop :=
  if selection.rectangle then selection.startCol ≤ col ∧ col ≤ selection.endCol
  else (rowIndex = selection.topLeft.y → selection.topLeft.x ≤ col) ∧
    if rowIndex = selection.bottomRight.y then col ≤ selection.bottomRight.x
    else col < snapshot.cols.toNat

instance (rowIndex col : ℕ) : Decidable (InRange snapshot selection rowIndex col) :=
  inferInstanceAs (Decidable (ite _ _ _))

/-- The cells that are selected and show something. -/
def Selected (rowIndex col : ℕ) : Prop :=
  (selection.topLeft.y ≤ rowIndex ∧ rowIndex ≤ selection.bottomRight.y) ∧
    col < (rowAt snapshot rowIndex).length ∧ InRange snapshot selection rowIndex col ∧
    isContinuation (rowAt snapshot rowIndex) col = false

instance (rowIndex col : ℕ) : Decidable (Selected snapshot selection rowIndex col) :=
  inferInstanceAs (Decidable (_ ∧ _))

/-- The selected part of a row; only a rectangle keeps trailing spaces. -/
def selectedRow (rowIndex : ℕ) : Text :=
  let cells := (List.range (rowAt snapshot rowIndex).length).filter fun col =>
    Selected snapshot selection rowIndex col
  let text := cells.flatMap (columnText (rowAt snapshot rowIndex))
  if selection.rectangle then text else trimSpaces text

/-- The text of the selected cells, row by row. -/
def selectedText : Text :=
  ['\n'].intercalate (((List.range snapshot.rowsData.length).filter fun rowIndex =>
    selection.topLeft.y ≤ rowIndex ∧ rowIndex ≤ selection.bottomRight.y).map
      (selectedRow snapshot selection))

/-- The top left end is not behind the bottom right one in reading order. -/
def Selection.InOrder : Prop :=
  selection.topLeft.y < selection.bottomRight.y ∨
    selection.topLeft.y = selection.bottomRight.y ∧ selection.topLeft.x ≤ selection.bottomRight.x

instance : Decidable selection.InOrder := inferInstanceAs (Decidable (_ ∨ _))

/-- The columns of a row that are read; an empty row has none. -/
def columnsRead (rowIndex : ℕ) : List ℕ :=
  if (rowAt snapshot rowIndex).isEmpty then []
  else through (lineStart selection rowIndex) (lineEnd snapshot selection rowIndex)

/-- Nothing else than selected cells is read, but for trailing spaces where these are trimmed. -/
def ReadsSelected : Prop :=
  ∀ rowIndex ∈ rowsRead snapshot selection,
    if selection.rectangle then
      ∀ col ∈ columnsRead snapshot selection rowIndex, Selected snapshot selection rowIndex col
    else
      ∀ col ∈ (columnsRead snapshot selection rowIndex).dropWhile fun col =>
          Selected snapshot selection rowIndex col,
        ∀ char ∈ columnText (rowAt snapshot rowIndex) col, char = ' '

instance : Decidable (ReadsSelected snapshot selection) :=
  inferInstanceAs (Decidable (∀ rowIndex ∈ rowsRead snapshot selection, ite _ _ _))

end Texts

section Reading

variable {Style : Type} {snapshot : TerminalSnapshot Style} {selection : Selection}

theorem mem_through {start stop col : ℕ} : col ∈ through start stop ↔ start ≤ col ∧ col ≤ stop := by
  rw [through, List.mem_range'_1]
  omega

theorem columnText_ne_nil (row : List CellSnapshot) (col : ℕ) : columnText row col ≠ [] := by
  unfold columnText
  cases found : (row[col]?.map fun cell => cell.text.toList).filter fun text =>
      text ≠ [] ∧ text ≠ ['\x00'] with
  | none => simp
  | some text =>
      have solid := (Option.filter_eq_some_iff.mp found).2
      simp only [decide_eq_true_eq] at solid
      exact solid.1

theorem rowText_eq (rowIndex : ℕ) :
    rowText (rowAt snapshot rowIndex) (lineStart selection rowIndex)
        (lineEnd snapshot selection rowIndex) selection.rectangle =
      let text := (columnsRead snapshot selection rowIndex).flatMap
        (columnText (rowAt snapshot rowIndex))
      if selection.rectangle then text else trimSpaces text := by
  unfold rowText columnsRead
  by_cases empty : (rowAt snapshot rowIndex).isEmpty
  · rw [if_pos (by rw [empty, Bool.true_or]), if_pos empty]
    exact (ite_self []).symm
  · rw [if_neg empty]
    by_cases backward : lineEnd snapshot selection rowIndex < lineStart selection rowIndex
    · have none : through (lineStart selection rowIndex) (lineEnd snapshot selection rowIndex) = [] := by
        rw [through, Nat.sub_eq_zero_of_le backward, List.range'_zero]
      rw [if_pos (by rw [decide_eq_true backward, Bool.or_true]), none]
      exact (ite_self []).symm
    · rw [if_neg (by simp [empty, backward])]

theorem InOrder.rows (inOrder : selection.InOrder) :
    selection.startRow = selection.topLeft.y ∧ selection.endRow = selection.bottomRight.y := by
  unfold Selection.startRow Selection.endRow
  obtain before | ⟨same, _⟩ := inOrder <;> omega

/-- Selected cells are read. -/
theorem mem_columnsRead (inOrder : selection.InOrder) {rowIndex col : ℕ}
    (selected : Selected snapshot selection rowIndex col) :
    col ∈ columnsRead snapshot selection rowIndex := by
  obtain ⟨_, inside, range, _⟩ := selected
  obtain ⟨first, last⟩ := InOrder.rows inOrder
  have filled : ¬ (rowAt snapshot rowIndex).isEmpty := by
    rw [List.isEmpty_iff]
    intro empty
    rw [empty] at inside
    exact Nat.not_lt_zero _ inside
  rw [columnsRead, if_neg filled, mem_through]
  unfold InRange at range
  unfold lineStart lineEnd
  cases rectangle : selection.rectangle with
  | true =>
      rw [rectangle, if_pos rfl] at range
      rw [Bool.true_or, Bool.true_or, if_pos rfl, if_pos rfl]
      exact range
  | false =>
      rw [rectangle, if_neg Bool.false_ne_true] at range
      rw [Bool.false_or, Bool.false_or, first, last]
      obtain ⟨starts, ends⟩ := range
      constructor
      · by_cases own : rowIndex = selection.topLeft.y
        · rw [if_pos (decide_eq_true own)]
          exact Nat.le_trans (Nat.min_le_left _ _) (starts own)
        · rw [if_neg (by simpa using own)]
          exact Nat.zero_le _
      · by_cases own : rowIndex = selection.bottomRight.y
        · rw [if_pos own] at ends
          rw [if_pos (decide_eq_true own)]
          exact Nat.le_trans ends (Nat.le_max_right _ _)
        · rw [if_neg own] at ends
          rw [if_neg (by simpa using own)]
          omega

/-- The selected cells of a row are among the columns that are read. -/
theorem filter_columnsRead (inOrder : selection.InOrder) (rowIndex : ℕ) :
    (columnsRead snapshot selection rowIndex).filter
        (fun col => Selected snapshot selection rowIndex col) =
      (List.range (rowAt snapshot rowIndex).length).filter
        fun col => Selected snapshot selection rowIndex col := by
  have sorted : (columnsRead snapshot selection rowIndex).Pairwise (· < ·) := by
    unfold columnsRead
    split
    · exact List.Pairwise.nil
    · exact List.pairwise_lt_range'
  refine (sorted.filter _).eq_of_mem_iff (List.pairwise_lt_range.filter _) fun col => ?_
  rw [List.mem_filter, List.mem_filter, decide_eq_true_eq, List.mem_range]
  exact and_congr_left fun selected =>
    iff_of_true (mem_columnsRead inOrder selected) selected.2.1

end Reading

section Lines

variable {Style : Type} {snapshot : TerminalSnapshot Style} {selection : Selection}

/-- The line that the columns of a row would give without what is not selected. -/
theorem selectedRow_eq (inOrder : selection.InOrder) (rowIndex : ℕ) :
    selectedRow snapshot selection rowIndex =
      let text := ((columnsRead snapshot selection rowIndex).filter fun col =>
        Selected snapshot selection rowIndex col).flatMap (columnText (rowAt snapshot rowIndex))
      if selection.rectangle then text else trimSpaces text := by
  rw [filter_columnsRead inOrder]
  rfl

theorem selectedRow_sublist (inOrder : selection.InOrder) (rowIndex : ℕ) :
    List.Sublist (selectedRow snapshot selection rowIndex)
      (rowText (rowAt snapshot rowIndex) (lineStart selection rowIndex)
        (lineEnd snapshot selection rowIndex) selection.rectangle) := by
  rw [selectedRow_eq inOrder, rowText_eq]
  dsimp only
  split
  · exact flatMap_filter_sublist _ _ _
  · exact rdropWhile_sublist_rdropWhile (flatMap_filter_sublist _ _ _)

theorem rowText_eq_selectedRow_iff (inOrder : selection.InOrder) (rowIndex : ℕ) :
    rowText (rowAt snapshot rowIndex) (lineStart selection rowIndex)
        (lineEnd snapshot selection rowIndex) selection.rectangle =
      selectedRow snapshot selection rowIndex ↔
    if selection.rectangle then
      ∀ col ∈ columnsRead snapshot selection rowIndex, Selected snapshot selection rowIndex col
    else
      ∀ col ∈ (columnsRead snapshot selection rowIndex).dropWhile fun col =>
          Selected snapshot selection rowIndex col,
        ∀ char ∈ columnText (rowAt snapshot rowIndex) col, char = ' ' := by
  have solid : ∀ col ∈ columnsRead snapshot selection rowIndex,
      columnText (rowAt snapshot rowIndex) col ≠ [] := fun col _ => columnText_ne_nil _ col
  rw [selectedRow_eq inOrder, rowText_eq]
  dsimp only
  split
  · rw [flatMap_filter_iff solid]
    simp only [decide_eq_true_eq]
  · rw [trimSpaces, trimSpaces, rdropWhile_flatMap_filter_iff solid]
    simp only [decide_eq_true_eq]

theorem selectedRow_nil {rowIndex : ℕ}
    (unselected : ∀ col, ¬ Selected snapshot selection rowIndex col) :
    selectedRow snapshot selection rowIndex = [] := by
  unfold selectedRow
  rw [List.filter_eq_nil_iff.mpr fun col _ => by simpa using unselected col]
  exact ite_self []

/-- Rows behind the snapshot have no selected cell, and neither has the last row that is read for
them. -/
theorem selectedText_eq (inOrder : selection.InOrder) :
    selectedText snapshot selection =
      ['\n'].intercalate ((rowsRead snapshot selection).map (selectedRow snapshot selection)) := by
  obtain ⟨first, last⟩ := InOrder.rows inOrder
  have ordered : selection.topLeft.y ≤ selection.bottomRight.y := by
    obtain before | ⟨same, _⟩ := inOrder <;> omega
  by_cases inside : selection.topLeft.y < snapshot.rowsData.length
  · have rows : (List.range snapshot.rowsData.length).filter (fun rowIndex =>
        selection.topLeft.y ≤ rowIndex ∧ rowIndex ≤ selection.bottomRight.y) =
        rowsRead snapshot selection := by
      refine (List.pairwise_lt_range.filter _).eq_of_mem_iff List.pairwise_lt_range' fun row => ?_
      rw [List.mem_filter, List.mem_range, decide_eq_true_eq, rowsRead, mem_through, first, last]
      omega
    rw [selectedText, rows]
  · have none : (List.range snapshot.rowsData.length).filter (fun rowIndex =>
        selection.topLeft.y ≤ rowIndex ∧ rowIndex ≤ selection.bottomRight.y) = [] := by
      refine List.filter_eq_nil_iff.mpr fun row member => ?_
      rw [List.mem_range] at member
      rw [decide_eq_true_eq]
      omega
    have clamped : rowsRead snapshot selection = [snapshot.rowsData.length - 1] := by
      have firstRow : min selection.topLeft.y (snapshot.rowsData.length - 1) =
          snapshot.rowsData.length - 1 := by omega
      have lastRow : min selection.bottomRight.y (snapshot.rowsData.length - 1) =
          snapshot.rowsData.length - 1 := by omega
      unfold rowsRead
      dsimp only
      rw [first, last, firstRow, lastRow, through, Nat.add_sub_cancel_left]
      rfl
    have unselected : ∀ col, ¬ Selected snapshot selection (snapshot.rowsData.length - 1) col := by
      rintro col ⟨rows, filled, _⟩
      have empty : snapshot.rowsData = [] := List.eq_nil_of_length_eq_zero (by omega)
      rw [rowAt, empty] at filled
      exact Nat.not_lt_zero _ filled
    rw [selectedText, none, clamped, List.map_singleton, selectedRow_nil unselected]
    rfl

/-- The text of a selection is that of the selected cells exactly if nothing else is read, but for
spaces at the end of a line that is trimmed. -/
theorem selectionText_eq_iff (inOrder : selection.InOrder) :
    selectionText snapshot selection = selectedText snapshot selection ↔
      ReadsSelected snapshot selection := by
  rw [selectedText_eq inOrder]
  unfold selectionText ReadsSelected
  rw [intercalate_eq_iff _ fun row _ => selectedRow_sublist inOrder row]
  exact forall₂_congr fun row _ => rowText_eq_selectedRow_iff inOrder row

/-- Two rows of three letters. -/
def letters : TerminalSnapshot Unit where
  cols := 3
  rows := 2
  title := ""
  pwd := ""
  cursor := ⟨true, false, 0, 0, ()⟩
  rowsData := [["a", "b", "c"], ["d", "e", "f"]].map fun row =>
    row.map fun text => { text := text, displayWidth := 1 }
  rowRevisions := [1, 1]
  colors := ⟨⟨0, 0, 0⟩, ⟨0, 0, 0⟩, ⟨0, 0, 0⟩, false⟩

theorem selectionText_eq_iff_letters :
    selectionText letters ⟨⟨0, 0⟩, ⟨1, 1⟩, false⟩ = selectedText letters ⟨⟨0, 0⟩, ⟨1, 1⟩, false⟩ :=
  (selectionText_eq_iff (by decide)).mpr (by decide)

/-- From the last letter of one row to the first of the next, both rows are read whole. -/
theorem backwardColumns_read :
    ¬ ∀ (snapshot : TerminalSnapshot Unit) (selection : Selection), selection.InOrder →
      selectionText snapshot selection = selectedText snapshot selection := by
  intro always
  have same := always letters ⟨⟨2, 0⟩, ⟨0, 1⟩, false⟩ (by decide)
  revert same
  decide

end Lines

end Boo.Runtime.SelectionText
