/- module: Boo/Runtime/Paragraphs
   digest: The blank row that a paragraph motion reaches, against the nearest in the scrollback. -/

import Boo.Lib.FirstFound
import Boo.Runtime.CopyMode

set_option autoImplicit false
set_option relaxedAutoImplicit false

namespace Boo.Runtime.Paragraphs

open Boo.Lib.FirstFound
open Boo.Lib.TextLines
open Boo.Client.Snapshot
open Boo.Runtime.CopiedRegion
open Boo.Runtime.CopyMode
open Boo.Runtime.CopySelection
open Boo.Runtime.SelectionText

/-- The rows of a pane, and where its viewport stands in them; the frame is the rest of what the
backend shows. -/
structure Scrollback (Style : Type) where
  rows : List (List CellSnapshot)
  offset : ℕ
  len : ℕ
  frame : TerminalSnapshot Style

def BlankColumn (cells : List CellSnapshot) (col : ℕ) : Prop :=
  ∀ char ∈ columnText cells col, isWhitespace char = true

instance (cells : List CellSnapshot) (col : ℕ) : Decidable (BlankColumn cells col) :=
  List.decidableBAll _ (columnText cells col)

section Rows

variable {Style : Type} (scrollback : Scrollback Style)

/-- The rows inside the viewport. -/
def Scrollback.shown : List (List CellSnapshot) :=
  (scrollback.rows.drop scrollback.offset).take scrollback.len

def Scrollback.view : PaneView Style where
  scrollbar := ⟨scrollback.rows.length, scrollback.offset, scrollback.len⟩
  snapshot := some { scrollback.frame with rowsData := scrollback.shown }

/-- The row is one of the scrollback, and nothing but whitespace stands in it. -/
def Scrollback.BlankAt (row : ℤ) : Prop :=
  0 ≤ row ∧ row < scrollback.rows.length ∧
    ∀ col < ((scrollback.rows[row.toNat]?).getD []).length,
      BlankColumn ((scrollback.rows[row.toNat]?).getD []) col

instance (row : ℤ) : Decidable (scrollback.BlankAt row) :=
  inferInstanceAs (Decidable (_ ∧ _ ∧ _))

/-- The row that is read in the place of another one: outside the viewport it is the first or
the last row inside. -/
def Scrollback.readFor (row : ℤ) : List CellSnapshot :=
  (scrollback.shown[min (viewportRow row scrollback.offset) (scrollback.shown.length - 1)]?).getD []

/-- The last column that is read of it. -/
def Scrollback.lastRead (viewportCols : ℕ) (row : ℤ) : ℕ :=
  if viewportRow row scrollback.offset ≤ scrollback.shown.length - 1 then viewportCols - 1
  else scrollback.frame.cols.toNat - 1

/-- The columns that are read for a row are blank. -/
def Scrollback.ReadsBlank (viewportCols : ℕ) (row : ℤ) : Prop :=
  ∀ col < scrollback.lastRead viewportCols row + 1, BlankColumn (scrollback.readFor row) col

instance (viewportCols : ℕ) (row : ℤ) : Decidable (scrollback.ReadsBlank viewportCols row) :=
  inferInstanceAs (Decidable (∀ _, _))

/-- The second row lies ahead of the first one. -/
def Ahead (forward : Bool) (row other : ℤ) : Prop := if forward then row < other else other < row

instance (forward : Bool) (row other : ℤ) : Decidable (Ahead forward row other) :=
  inferInstanceAs (Decidable (ite _ _ _))

/-- Where a motion looks: ahead of the cursor, down to the row behind the last one or up to the
first one. -/
def Scrollback.Searched (forward : Bool) (row other : ℤ) : Prop :=
  Ahead forward row other ∧ if forward then other ≤ scrollback.rows.length else 0 ≤ other

/-- The cursor is at column 0 of the nearest blank row ahead, or where it was if there is none. -/
def Scrollback.FindsParagraph (forward : Bool) (cm after : CopyModeState) : Prop :=
  (∃ row, (Ahead forward cm.cursor.row row ∧ scrollback.BlankAt row ∧
      ∀ other, Ahead forward cm.cursor.row other → Ahead forward other row →
        ¬ scrollback.BlankAt other) ∧ after = { cm with cursor := ⟨row, 0⟩ }) ∨
    (∀ row, Ahead forward cm.cursor.row row → ¬ scrollback.BlankAt row) ∧ after = cm

variable {scrollback} {forward : Bool} {cm : CopyModeState}

theorem trim_trimSpaces_eq_nil_iff {text : Text} :
    trim (trimSpaces text) = [] ↔ ∀ char ∈ text, isWhitespace char = true := by
  rw [trim_eq_nil_iff]
  constructor
  · intro blank char member
    rw [← @List.rdropWhile_append_rtakeWhile _ (fun char => decide (char = ' ')) text] at member
    rcases List.mem_append.mp member with kept | dropped
    · exact blank char kept
    · have space : char = ' ' := by simpa using List.mem_rtakeWhile_imp dropped
      rw [space]
      decide
  · intro blank char member
    exact blank char ((List.rdropWhile_prefix _ _).subset member)

theorem mem_through {stop col : ℕ} : col ∈ through 0 stop ↔ col < stop + 1 := by
  rw [SelectionText.mem_through]
  omega

/-- What is read for a row is blank exactly if its columns are. -/
theorem trim_rowText_eq_nil_iff (cells : List CellSnapshot) (stop : ℕ) :
    trim (rowText cells 0 stop false) = [] ↔ ∀ col < stop + 1, BlankColumn cells col := by
  by_cases empty : cells = []
  · subst empty
    refine iff_of_true rfl fun col _ char member => ?_
    have space : char = ' ' := by simpa [columnText] using member
    rw [space]
    decide
  · have text : rowText cells 0 stop false =
        trimSpaces ((through 0 stop).flatMap (columnText cells)) := by
      simp [rowText, empty]
    rw [text, trim_trimSpaces_eq_nil_iff]
    constructor
    · intro blank col inside char member
      exact blank char (List.mem_flatMap.mpr ⟨col, mem_through.mpr inside, member⟩)
    · intro blank char member
      obtain ⟨col, inside, member⟩ := List.mem_flatMap.mp member
      exact blank col (mem_through.mp inside) char member

/-- A line is always read, that of `readFor` up to `lastRead`. -/
theorem readViewportLine_eq (cm : CopyModeState) (row : ℤ) :
    readViewportLine scrollback.view cm (viewportRow row scrollback.offset) =
      some (rowText (scrollback.readFor row) 0 (scrollback.lastRead cm.viewportCols row) false) := by
  have clamped : min (viewportRow row scrollback.offset) (scrollback.shown.length - 1) =
      viewportRow row scrollback.offset ↔
      viewportRow row scrollback.offset ≤ scrollback.shown.length - 1 := min_eq_left_iff
  simp only [readViewportLine, Scrollback.view, Option.map_some, selectionText, rowsRead,
    Selection.startRow, Selection.endRow, min_self, max_self, through, rowAt, lineStart, lineEnd,
    Selection.startCol, Selection.endCol, Nat.zero_min, Nat.zero_max, Bool.false_or,
    decide_eq_true_eq, ite_self, clamped, Nat.add_sub_cancel_left, List.range'_one, List.map_cons,
    List.map_nil, List.intercalate_singleton]
  rfl

/-- The rows that a motion looks at, nearest first. -/
def rowsAhead (total : ℕ) (forward : Bool) (row : ℤ) : List ℤ :=
  if forward then rowsBetween (row + 1) (total + 1) else (rowsBetween 0 row).reverse

theorem mem_rowsAhead {row other : ℤ} : other ∈ rowsAhead scrollback.rows.length forward row ↔
    scrollback.Searched forward row other := by
  cases forward
  · simp only [rowsAhead, Scrollback.Searched, Ahead, Bool.false_eq_true, if_false,
      List.mem_reverse, mem_rowsBetween, and_comm]
  · simp only [rowsAhead, Scrollback.Searched, Ahead, if_true, mem_rowsBetween]
    omega

theorem pairwise_rowsAhead (forward : Bool) (total : ℕ) (row : ℤ) :
    (rowsAhead total forward row).Pairwise (Ahead forward) := by
  cases forward
  · simp only [rowsAhead, Ahead, Bool.false_eq_true, if_false, List.pairwise_reverse]
    exact pairwise_rowsBetween _ _
  · exact pairwise_rowsBetween _ _

theorem Ahead.asymm (forward : Bool) (row other : ℤ) :
    Ahead forward row other → ¬ Ahead forward other row := by
  cases forward <;> simp only [Ahead, Bool.false_eq_true, if_false, if_true] <;> omega

theorem Searched.of_blankAt {row other : ℤ} (ahead : Ahead forward row other)
    (blank : scrollback.BlankAt other) : scrollback.Searched forward row other := by
  obtain ⟨low, high, -⟩ := blank
  refine ⟨ahead, ?_⟩
  split <;> omega

/-- The search stops at the first row that is read as blank. -/
theorem firstBlankRow_eq (rows : List ℤ) :
    firstBlankRow scrollback.view cm rows =
      rows.find? fun row => scrollback.ReadsBlank cm.viewportCols row := by
  induction rows with
  | nil => rfl
  | cons row rows ih =>
      have blank : trim (rowText (scrollback.readFor row) 0 (scrollback.lastRead cm.viewportCols row)
          false) = [] ↔ scrollback.ReadsBlank cm.viewportCols row := trim_rowText_eq_nil_iff _ _
      have line : readViewportLine scrollback.view cm
          (viewportRow row scrollback.view.scrollbar.offset) = _ := readViewportLine_eq cm row
      simp only [firstBlankRow, line, List.isEmpty_iff, blank]
      by_cases here : scrollback.ReadsBlank cm.viewportCols row
      · rw [List.find?_cons_of_pos (by simpa using here), if_pos here]
      · rw [List.find?_cons_of_neg (by simpa using here), if_neg here, ih]

/-- The state after a motion to a row that was found. -/
def reached (cm : CopyModeState) : Option ℤ → CopyModeState
  | none => cm
  | some row => { cm with cursor := ⟨row, 0⟩ }

theorem copyModeParagraph_eq (forward : Bool) (cm : CopyModeState) :
    copyModeParagraph scrollback.view cm forward =
      reached cm ((rowsAhead scrollback.rows.length forward cm.cursor.row).find? fun row =>
        scrollback.ReadsBlank cm.viewportCols row) := by
  rw [← firstBlankRow_eq]
  unfold copyModeParagraph reached
  rfl

/-- The nearest blank row, if any, is the first one among the rows that are looked at. -/
theorem findsParagraph_iff {found : Option ℤ}
    (searched : ∀ row ∈ found, scrollback.Searched forward cm.cursor.row row) :
    scrollback.FindsParagraph forward cm (reached cm found) ↔
      found = (rowsAhead scrollback.rows.length forward cm.cursor.row).find? fun row =>
        scrollback.BlankAt row := by
  have moves : ∀ row, Ahead forward cm.cursor.row row → cm ≠ { cm with cursor := ⟨row, 0⟩ } := by
    intro row ahead same
    have still : cm.cursor.row = row := congrArg (·.cursor.row) same
    rw [still] at ahead
    exact Ahead.asymm _ _ _ ahead ahead
  have ordered := pairwise_rowsAhead forward scrollback.rows.length cm.cursor.row
  constructor
  · rintro (⟨row, ⟨ahead, blank, nearest⟩, after⟩ | ⟨none', after⟩)
    · have first : (rowsAhead scrollback.rows.length forward cm.cursor.row).find? (fun row =>
          scrollback.BlankAt row) = some row := by
        refine (find?_eq_some_iff_first (Ahead.asymm forward) ordered).mpr
          ⟨mem_rowsAhead.mpr (Searched.of_blankAt ahead blank), by simpa using blank, ?_⟩
        intro other member closer
        simpa using nearest other (mem_rowsAhead.mp member).1 closer
      rw [first]
      cases found with
      | none => exact absurd after (moves row ahead)
      | some other => exact congrArg some (congrArg (·.cursor.row) after)
    · have absent : (rowsAhead scrollback.rows.length forward cm.cursor.row).find? (fun row =>
          scrollback.BlankAt row) = none := by
        refine List.find?_eq_none.mpr fun row member => ?_
        simpa using none' row (mem_rowsAhead.mp member).1
      rw [absent]
      cases found with
      | none => rfl
      | some other => exact absurd after.symm (moves other (searched other rfl).1)
  · intro same
    cases found with
    | none =>
        have absent := List.find?_eq_none.mp same.symm
        refine .inr ⟨fun row ahead blank => ?_, rfl⟩
        exact absent row (mem_rowsAhead.mpr (Searched.of_blankAt ahead blank))
          (by simpa using blank)
    | some row =>
        obtain ⟨member, blank, first⟩ :=
          (find?_eq_some_iff_first (Ahead.asymm forward) ordered).mp same.symm
        have ahead := (mem_rowsAhead.mp member).1
        have nearest : ∀ other, Ahead forward cm.cursor.row other → Ahead forward other row →
            ¬ scrollback.BlankAt other := by
          intro other fromHere closer blankOther
          exact first other (mem_rowsAhead.mpr (Searched.of_blankAt fromHere blankOther)) closer
            (by simpa using blankOther)
        exact .inl ⟨row, ⟨ahead, by simpa using blank, nearest⟩, rfl⟩

/-- A paragraph motion finds the nearest blank row if and only if every row that it comes to, with
no blank row nearer and none that was read as one, is read as blank just when it is. -/
theorem copyModeParagraph_finds_iff (forward : Bool) (cm : CopyModeState) :
    scrollback.FindsParagraph forward cm (copyModeParagraph scrollback.view cm forward) ↔
      ∀ row, scrollback.Searched forward cm.cursor.row row →
        (∀ other, scrollback.Searched forward cm.cursor.row other → Ahead forward other row →
          ¬ scrollback.ReadsBlank cm.viewportCols other ∧ ¬ scrollback.BlankAt other) →
        (scrollback.ReadsBlank cm.viewportCols row ↔ scrollback.BlankAt row) := by
  have ordered := pairwise_rowsAhead forward scrollback.rows.length cm.cursor.row
  rw [copyModeParagraph_eq, findsParagraph_iff,
    find?_eq_find?_iff (Ahead.asymm forward) ordered]
  · simp only [mem_rowsAhead, decide_eq_true_eq]
  · intro row found
    exact mem_rowsAhead.mp (List.mem_of_find?_eq_some found)

theorem blankColumn_of_outside {cells : List CellSnapshot} {col : ℕ}
    (outside : cells.length ≤ col) : BlankColumn cells col := by
  intro char member
  have space : char = ' ' := by
    simpa [columnText, List.getElem?_eq_none outside] using member
  rw [space]
  decide

/-- Inside the viewport rows are read as what they are, if they are not wider than it. -/
theorem readsBlank_iff_of_visible {viewportCols : ℕ} {row : ℤ} (small : scrollback.len < 2 ^ 32)
    (from' : scrollback.offset ≤ row) (to' : row < scrollback.offset + scrollback.len)
    (last : row < scrollback.rows.length)
    (narrow : ((scrollback.rows[row.toNat]?).getD []).length ≤ viewportCols) :
    scrollback.ReadsBlank viewportCols row ↔ scrollback.BlankAt row := by
  have height : scrollback.shown.length = min scrollback.len
      (scrollback.rows.length - scrollback.offset) := by
    simp [Scrollback.shown]
  have line : viewportRow row scrollback.offset = row.toNat - scrollback.offset := by
    unfold viewportRow
    omega
  have inside : viewportRow row scrollback.offset ≤ scrollback.shown.length - 1 := by omega
  have cells : scrollback.readFor row = (scrollback.rows[row.toNat]?).getD [] := by
    rw [Scrollback.readFor, min_eq_left inside, line, Scrollback.shown, List.getElem?_take_of_lt
      (by omega), List.getElem?_drop, Nat.add_sub_cancel' (by omega)]
  rw [Scrollback.ReadsBlank, Scrollback.lastRead, if_pos inside, cells]
  constructor
  · intro blank
    exact ⟨by omega, last, fun col inRow => blank col (by omega)⟩
  · rintro ⟨-, -, blank⟩ col -
    by_cases inRow : col < ((scrollback.rows[row.toNat]?).getD []).length
    · exact blank col inRow
    · exact blankColumn_of_outside (Nat.le_of_not_lt inRow)

/-- Above the viewport every row is read as the first one inside, and below it as the last one. -/
theorem readFor_outside (row : ℤ) :
    (row ≤ scrollback.offset → scrollback.readFor row = (scrollback.shown[0]?).getD []) ∧
      (scrollback.offset + scrollback.shown.length ≤ row → row < scrollback.offset + 2 ^ 32 →
        scrollback.readFor row = scrollback.shown.getLast?.getD []) := by
  rw [Scrollback.readFor, List.getLast?_eq_getElem?]
  constructor
  · intro above
    have first : viewportRow row scrollback.offset = 0 := by
      unfold viewportRow
      omega
    rw [first, Nat.zero_min]
  · intro below near
    have last : scrollback.shown.length ≤ viewportRow row scrollback.offset := by
      unfold viewportRow
      omega
    rw [min_eq_right (by omega)]

/-- Four rows of which the last but one is blank, seen through a viewport of the first two. -/
def fourRows : Scrollback Unit where
  rows := [["a"], ["b"], [" "], ["c"]].map fun row =>
    row.map fun text => { text := text, displayWidth := 1 }
  offset := 0
  len := 2
  frame := { letters with rowsData := [] }

/-- The blank row below the viewport is passed over, for the last visible row is read instead. -/
theorem hiddenParagraph_missed :
    ¬ ∀ (scrollback : Scrollback Unit) (forward : Bool) (cm : CopyModeState),
      scrollback.FindsParagraph forward cm (copyModeParagraph scrollback.view cm forward) := by
  intro always
  have agree := (copyModeParagraph_finds_iff true _).mp (always fourRows true
    { cursor := ⟨0, 0⟩, viewportRows := 2, viewportCols := 3 })
  have nearer : ∀ other, fourRows.Searched true 0 other → Ahead true other 2 →
      ¬ fourRows.ReadsBlank 3 other ∧ ¬ fourRows.BlankAt other := by
    rintro other ⟨low, -⟩ high
    simp only [Ahead, if_true] at low high
    obtain rfl : other = 1 := by omega
    decide
  have read := (agree 2 ⟨by decide, by decide⟩ nearer).mpr (by decide)
  revert read
  decide

end Rows

end Boo.Runtime.Paragraphs
