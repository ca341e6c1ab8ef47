/- module: Boo/Client/TextLayer
   digest: The terminal's text layer: the paragraphs kept for each row, selection and cursor. -/

import Boo.Client.RowRevisions
import Boo.Client.RowRuns
import Boo.Client.SelectionSpans
import Boo.Lib.RowCaches
import Mathlib.Algebra.Order.Floor.Ring
import Mathlib.Data.Rat.Floor

set_option autoImplicit false
set_option relaxedAutoImplicit false

namespace Boo.Client.TextLayer

open Boo.Wire.Message
open Boo.Client.Snapshot
open Boo.Client.RowRevisions
open Boo.Client.RowRuns
open Boo.Client.SelectionSpans
open Boo.Lib.RowCaches

section Model

inductive CursorStyle
  | bar
  | block
  | underline
  | blockHollow
  | unknown (style : Int32)
  deriving DecidableEq

/-- Sizes and positions are exact numbers here and `f32` in the source. -/
structure TerminalSelectionRect where
  x : ℚ
  y : ℚ
  width : ℚ
  height : ℚ
  deriving DecidableEq

structure TerminalViewport where
  x : ℚ
  y : ℚ
  width : ℚ
  height : ℚ
  contentOffsetY : ℚ
  deriving DecidableEq

structure Rectangle where
  x : ℚ
  y : ℚ
  width : ℚ
  height : ℚ
  deriving DecidableEq

variable (Alpha Color : Type)

structure TextLayerEntry where
  content : String
  bounds : ℚ × ℚ
  size : ℚ
  lineHeight : ℚ
  font : Font
  shaping : Shaping
  position : ℚ × ℚ
  color : Color
  deriving DecidableEq

structure TerminalBodyRowModel where
  baseRuns : List (TextRun Color)
  overlayRuns : List (TextRun Color)

structure TerminalTextLayer where
  snapshot : TerminalSnapshot CursorStyle
  cellWidth : ℚ
  cellHeight : ℚ
  fontSize : ℚ
  fontFamilies : List String
  cursorBlinkVisible : Bool
  selectionRects : List TerminalSelectionRect
  selectionForeground : Option Color
  cursorTextColor : Option Color
  urlColor : Option Color
  preeditText : Option String
  viewport : Option TerminalViewport

/-- What the style fingerprint is made from. -/
structure StyleKey where
  fontSize : ℚ
  cellWidth : ℚ
  cellHeight : ℚ
  fontFamilies : List String
  urlColor : Option Color
  viewport : Rectangle
  contentOffsetY : ℚ
  deriving DecidableEq

/-- What the fingerprint of the selection is made from. -/
structure SelectionKey where
  rows : UInt16
  cols : UInt16
  cellWidth : ℚ
  cellHeight : ℚ
  selectionRects : List TerminalSelectionRect
  deriving DecidableEq

structure CursorKey where
  cursorBlinkVisible : Bool
  visible : Bool
  x : UInt16
  y : UInt16
  style : CursorStyle
  cursorTextColor : Option Color
  preeditText : Option String
  deriving DecidableEq

/-- What the fingerprint of a row's overlay is made from: the selection of a row without spans and
the cursor of another row are not in it. -/
structure OverlayKey where
  style : UInt64
  row : Nat
  revision : UInt64
  selection : Option (Option Color × List SelectionColSpan)
  cursor : Option (CursorKey Color)
  viewport : Rectangle
  contentOffsetY : ℚ
  deriving DecidableEq

/-- The standard library's hasher over these. -/
structure Hashes where
  style : StyleKey Color → UInt64
  selection : SelectionKey → UInt64
  overlay : OverlayKey Color → UInt64

structure TerminalTextLayerState where
  baseRowEntries : List (List (TextLayerEntry Color))
  baseRowFingerprints : List UInt64
  overlayRowEntries : List (List (TextLayerEntry Color))
  overlayRowFingerprints : List UInt64
  selectionRowSpans : List (List SelectionColSpan)
  selectionSpansFingerprint : Option UInt64
  selectionRowRange : Option (Nat × Nat)
  styleFingerprint : Option UInt64
  deriving DecidableEq

end Model

section Geometry

def rectsIntersect (cell : Rectangle) (selection : TerminalSelectionRect) : Bool :=
  cell.x < selection.x + selection.width && selection.x < cell.x + cell.width &&
    cell.y < selection.y + selection.height && selection.y < cell.y + cell.height

/-- From `floor` to `ceil`, in cells; what is negative becomes zero. -/
def reach (start size cell : ℚ) : Nat × Nat :=
  (⌊start / cell⌋.toNat, ⌈(start + size) / cell⌉.toNat)

/-- `selection_col_spans_for_row` -/
def rowSpans (rects : List TerminalSelectionRect) (row : Nat) (cellWidth cellHeight : ℚ)
    (cols : Nat) : List SelectionColSpan :=
  let rowRect : Rectangle := ⟨0, row * cellHeight, cols * cellWidth, cellHeight⟩
  selectionColSpansForRow
    ((rects.filter (rectsIntersect rowRect)).map fun rect => reach rect.x rect.width cellWidth)
    cols

/-- One turn of the loop of `selection_row_range`. -/
def widenRange (cellHeight : ℚ) (rows : Nat) (range : Nat × Nat) (rect : TerminalSelectionRect) :
    Nat × Nat :=
  let rectStart := min (reach rect.y rect.height cellHeight).1 rows
  let rectEnd := min (reach rect.y rect.height cellHeight).2 rows
  if rectEnd ≤ rectStart then range else (min range.1 rectStart, max range.2 rectEnd)

def selectionRowRange (rects : List TerminalSelectionRect) (cellHeight : ℚ) (rows : Nat) :
    Option (Nat × Nat) :=
  let range := rects.foldl (widenRange cellHeight rows) (rows, 0)
  if range.1 < range.2 then some range else none

def inRange (range : Option (Nat × Nat)) (row : Nat) : Bool :=
  range.any fun bounds => bounds.1 ≤ row && row < bounds.2

/-- The rows whose spans are computed again: both ranges and what lies between them. -/
def affectedRange : Option (Nat × Nat) → Option (Nat × Nat) → Option (Nat × Nat)
  | some old, some new => some (min old.1 new.1, max old.2 new.2)
  | some range, none => some range
  | none, range => range

def availableTextWidth (viewport : Rectangle) (x : ℚ) : ℚ :=
  max (viewport.x + viewport.width - x) 1

end Geometry

section Rows

variable {Alpha Color : Type} [DecidableEq Color] (inks : Inks Alpha Color)

/-- The cursor text covers the cell: the other shapes leave the text of the cell as it is. -/
def CursorStyle.covers : CursorStyle → Bool
  | .bar | .underline | .blockHollow => false
  | .block | .unknown _ => true

def cursorRun (snapshot : TerminalSnapshot CursorStyle) (fontFamilies : List String)
    (cursorTextColor : Color) (cursorBlinkVisible : Bool) (cell : CellSnapshot × Nat) :
    Option (TextRun Color) :=
  if !cell.1.text.isEmpty && cursorBlinkVisible && snapshot.cursor.visible &&
      snapshot.cursor.x.toNat == cell.2 && snapshot.cursor.style.covers then
    some (cellRun fontFamilies (fun _ => cursorTextColor) cell.2 cell.1)
  else none

def selectedRuns (row : Row) (cols : Nat) (fontFamilies : List String)
    (selectionSpans : List SelectionColSpan) (selectionForeground : Option Color) :
    List (TextRun Color) :=
  match selectionForeground with
  | some color =>
      if selectionSpans.isEmpty then []
      else buildSelectionTextRuns row cols fontFamilies color
        (cellIsSelectedInSpans selectionSpans)
  | none => []

def cursorRuns (snapshot : TerminalSnapshot CursorStyle) (row : Row) (index : Nat)
    (fontFamilies : List String) (cursorTextColor : Option Color) (cursorBlinkVisible : Bool) :
    List (TextRun Color) :=
  match cursorTextColor with
  | some color =>
      if snapshot.cursor.y.toNat = index then
        row.zipIdx.filterMap (cursorRun snapshot fontFamilies color cursorBlinkVisible)
      else []
  | none => []

def preeditRuns (snapshot : TerminalSnapshot CursorStyle) (index : Nat)
    (fontFamilies : List String) (preeditText : Option String) : List (TextRun Color) :=
  match preeditText with
  | some text =>
      if text ≠ "" ∧ snapshot.cursor.y < snapshot.rows ∧ snapshot.cursor.y.toNat = index then
        [{ startCol := snapshot.cursor.x.toNat
           widthCols := max text.length 1
           text := text
           fg := inks.colorFromRgb snapshot.colors.foreground inks.one
           font := fontForTerminalText text false false fontFamilies
           underline := false
           shaping := terminalTextShaping }]
      else []
  | none => []

def buildTerminalBodyRowModel (snapshot : TerminalSnapshot CursorStyle) (index : Nat)
    (fontFamilies : List String) (urlColor : Option Color) (selectionSpans : List SelectionColSpan)
    (selectionForeground cursorTextColor : Option Color) (cursorBlinkVisible : Bool)
    (preeditText : Option String) : TerminalBodyRowModel Color :=
  match snapshot.rowsData[index]? with
  | none => ⟨[], []⟩
  | some row =>
      let cols := snapshot.cols.toNat
      { baseRuns := buildTextRuns inks row cols fontFamilies urlColor
        overlayRuns :=
          selectedRuns row cols fontFamilies selectionSpans selectionForeground ++
            cursorRuns snapshot row index fontFamilies cursorTextColor cursorBlinkVisible ++
            preeditRuns inks snapshot index fontFamilies preeditText }

end Rows

section Layer

variable {Alpha Color : Type} [DecidableEq Color]

def TerminalTextLayerState.default : TerminalTextLayerState Color :=
  ⟨[], [], [], [], [], none, none, none⟩

namespace TerminalTextLayer

variable (inks : Inks Alpha Color) (hashes : Hashes Color) (layer : TerminalTextLayer Color)

def rowCount : Nat := layer.snapshot.rowsData.length

def viewportRect (bounds : Rectangle) : Rectangle :=
  match layer.viewport with
  | some viewport => ⟨viewport.x, viewport.y, viewport.width, viewport.height⟩
  | none => bounds

def viewportContentOffsetY : ℚ := (layer.viewport.map (·.contentOffsetY)).getD 0

/-- The viewport that `diff` works with; without one it does not know the bounds. -/
def diffViewport : Rectangle := layer.viewportRect ⟨0, 0, 1, 1⟩

def pushTextEntry (viewport : Rectangle) (index : Nat) (run : TextRun Color) :
    Option (TextLayerEntry Color) :=
  if run.text = "" ∨ run.text = String.singleton (Char.ofNat 0) then none
  else
    let origin := layer.viewportRect viewport
    let x := origin.x + run.startCol * layer.cellWidth
    let y := origin.y + index * layer.cellHeight - layer.viewportContentOffsetY
    let drawWidth := run.widthCols * layer.cellWidth
    some
      { content := run.text
        bounds := (availableTextWidth viewport x,
          max layer.cellHeight (min drawWidth layer.cellHeight))
        size := layer.fontSize
        lineHeight := layer.cellHeight
        font := run.font
        shaping := run.shaping
        position := (x, y)
        color := run.fg }

def buildTextEntriesFromRuns (viewport : Rectangle) (index : Nat) (runs : List (TextRun Color)) :
    List (TextLayerEntry Color) :=
  runs.filterMap (layer.pushTextEntry viewport index)

def rowModel (index : Nat) (selectionSpans : List SelectionColSpan) : TerminalBodyRowModel Color :=
  buildTerminalBodyRowModel inks layer.snapshot index layer.fontFamilies layer.urlColor
    selectionSpans layer.selectionForeground layer.cursorTextColor layer.cursorBlinkVisible
    layer.preeditText

def buildBaseRowEntries (viewport : Rectangle) (index : Nat) : List (TextLayerEntry Color) :=
  layer.buildTextEntriesFromRuns viewport index (layer.rowModel inks index []).baseRuns

def buildOverlayRowEntries (viewport : Rectangle) (index : Nat)
    (selectionSpans : List SelectionColSpan) : List (TextLayerEntry Color) :=
  let rowModel := layer.rowModel inks index selectionSpans
  layer.buildTextEntriesFromRuns viewport index rowModel.overlayRuns

def styleKey : StyleKey Color where
  fontSize := layer.fontSize
  cellWidth := layer.cellWidth
  cellHeight := layer.cellHeight
  fontFamilies := layer.fontFamilies
  urlColor := layer.urlColor
  viewport := layer.diffViewport
  contentOffsetY := layer.viewportContentOffsetY

def styleFingerprint : UInt64 := hashes.style layer.styleKey

def selectionKey : SelectionKey where
  rows := layer.snapshot.rows
  cols := layer.snapshot.cols
  cellWidth := layer.cellWidth
  cellHeight := layer.cellHeight
  selectionRects := layer.selectionRects

def selectionSpansFingerprint : UInt64 := hashes.selection layer.selectionKey

def revision (index : Nat) : UInt64 := (layer.snapshot.rowRevisions[index]?).getD 0

def cursorKey : CursorKey Color where
  cursorBlinkVisible := layer.cursorBlinkVisible
  visible := layer.snapshot.cursor.visible
  x := layer.snapshot.cursor.x
  y := layer.snapshot.cursor.y
  style := layer.snapshot.cursor.style
  cursorTextColor := layer.cursorTextColor
  preeditText := layer.preeditText

def overlayKey (index : Nat) (selectionSpans : List SelectionColSpan) : OverlayKey Color where
  style := layer.styleFingerprint hashes
  row := index
  revision := layer.revision index
  selection :=
    if selectionSpans.isEmpty then none else some (layer.selectionForeground, selectionSpans)
  cursor := if layer.snapshot.cursor.y.toNat = index then some layer.cursorKey else none
  viewport := layer.diffViewport
  contentOffsetY := layer.viewportContentOffsetY

def overlayRowFingerprint (index : Nat) (selectionSpans : List SelectionColSpan) : UInt64 :=
  hashes.overlay (layer.overlayKey hashes index selectionSpans)

def newSelectionRowRange : Option (Nat × Nat) :=
  selectionRowRange layer.selectionRects layer.cellHeight layer.rowCount

def selectionColSpansForRow (index : Nat) : List SelectionColSpan :=
  rowSpans layer.selectionRects index layer.cellWidth layer.cellHeight layer.snapshot.cols.toNat

/-- The spans of a row when the selection has changed. -/
def updatedSpans (previousRange : Option (Nat × Nat)) (spans : List (List SelectionColSpan))
    (index : Nat) : List SelectionColSpan :=
  if inRange (affectedRange previousRange layer.newSelectionRowRange) index then
    if inRange layer.newSelectionRowRange index then layer.selectionColSpansForRow index else []
  else spans.getD index []

def styleChanged (state : TerminalTextLayerState Color) : Bool :=
  state.styleFingerprint != some (layer.styleFingerprint hashes)

def selectionChanged (state : TerminalTextLayerState Color) : Bool :=
  layer.styleChanged hashes state ||
    state.selectionSpansFingerprint != some (layer.selectionSpansFingerprint hashes)

def spansAfter (state : TerminalTextLayerState Color) : List (List SelectionColSpan) :=
  let spans := resized layer.rowCount [] state.selectionRowSpans
  if layer.selectionChanged hashes state then
    (List.range layer.rowCount).map (layer.updatedSpans state.selectionRowRange spans)
  else spans

def diff (state : TerminalTextLayerState Color) : TerminalTextLayerState Color :=
  let styleFingerprint := layer.styleFingerprint hashes
  let styleChanged := layer.styleChanged hashes state
  let spans := layer.spansAfter hashes state
  let baseFingerprint := fun index => baseRowFingerprint layer.snapshot index styleFingerprint
  let overlayFingerprint := fun index =>
    layer.overlayRowFingerprint hashes index (spans.getD index [])
  let rows := List.range layer.rowCount
  { baseRowEntries := rows.map <|
      kept styleChanged (resized layer.rowCount 0 state.baseRowFingerprints)
        (resized layer.rowCount [] state.baseRowEntries) 0 [] baseFingerprint
        (layer.buildBaseRowEntries inks layer.diffViewport)
    baseRowFingerprints := rows.map baseFingerprint
    overlayRowEntries := rows.map <|
      kept styleChanged (resized layer.rowCount 0 state.overlayRowFingerprints)
        (resized layer.rowCount [] state.overlayRowEntries) 0 [] overlayFingerprint fun index =>
          layer.buildOverlayRowEntries inks layer.diffViewport index (spans.getD index [])
    overlayRowFingerprints := rows.map overlayFingerprint
    selectionRowSpans := spans
    selectionSpansFingerprint := some (layer.selectionSpansFingerprint hashes)
    selectionRowRange :=
      if layer.selectionChanged hashes state then layer.newSelectionRowRange
      else state.selectionRowRange
    styleFingerprint := some styleFingerprint }

def buildRowEntries (viewport : Rectangle) (index : Nat) (selectionSpans : List SelectionColSpan) :
    List (TextLayerEntry Color) × List (TextLayerEntry Color) :=
  let rowModel := layer.rowModel inks index selectionSpans
  (layer.buildTextEntriesFromRuns viewport index rowModel.baseRuns,
    layer.buildTextEntriesFromRuns viewport index rowModel.overlayRuns)

/-- One turn of the row loop of the layer that builds both lists of a row together. -/
def modelRow (styleChanged : Bool) (state : TerminalTextLayerState Color) (index : Nat)
    (fingerprint overlayFingerprint : UInt64) (selectionSpans : List SelectionColSpan) :
    List (TextLayerEntry Color) × List (TextLayerEntry Color) :=
  let base := styleChanged || state.baseRowFingerprints.getD index 0 != fingerprint
  let overlay := styleChanged || state.overlayRowFingerprints.getD index 0 != overlayFingerprint
  let old := (state.baseRowEntries.getD index [], state.overlayRowEntries.getD index [])
  if styleChanged || state.baseRowFingerprints.getD index 0 != fingerprint ||
      state.overlayRowFingerprints.getD index 0 != overlayFingerprint then
    let built := layer.buildRowEntries inks layer.diffViewport index selectionSpans
    (if base then built.1 else old.1, if overlay then built.2 else old.2)
  else old

/-- `diff` of that layer. -/
def modelDiff (state : TerminalTextLayerState Color) : TerminalTextLayerState Color :=
  let styleFingerprint := layer.styleFingerprint hashes
  let spans := layer.spansAfter hashes state
  let fingerprint := fun index => baseRowFingerprint layer.snapshot index styleFingerprint
  let overlayFingerprint := fun index =>
    layer.overlayRowFingerprint hashes index (spans.getD index [])
  let rows := List.range layer.rowCount
  let entries := fun index =>
    layer.modelRow inks (layer.styleChanged hashes state)
      { state with
        baseRowEntries := resized layer.rowCount [] state.baseRowEntries
        baseRowFingerprints := resized layer.rowCount 0 state.baseRowFingerprints
        overlayRowEntries := resized layer.rowCount [] state.overlayRowEntries
        overlayRowFingerprints := resized layer.rowCount 0 state.overlayRowFingerprints }
      index (fingerprint index) (overlayFingerprint index) (spans.getD index [])
  { baseRowEntries := rows.map fun index => (entries index).1
    baseRowFingerprints := rows.map fingerprint
    overlayRowEntries := rows.map fun index => (entries index).2
    overlayRowFingerprints := rows.map overlayFingerprint
    selectionRowSpans := spans
    selectionSpansFingerprint := some (layer.selectionSpansFingerprint hashes)
    selectionRowRange :=
      if layer.selectionChanged hashes state then layer.newSelectionRowRange
      else state.selectionRowRange
    styleFingerprint := some styleFingerprint }

end TerminalTextLayer

/-- The paragraphs that `draw` fills, row by row: first the texts, then what lies over them. -/
def TerminalTextLayerState.draw (state : TerminalTextLayerState Color) :
    List (List (TextLayerEntry Color)) :=
  state.baseRowEntries ++ state.overlayRowEntries

end Layer

section Ranges

variable {rects : List TerminalSelectionRect} {cellWidth cellHeight : ℚ} {rows row cols : Nat}

theorem foldl_widenRange (range : Nat × Nat) :
    (rects.foldl (widenRange cellHeight rows) range).1 ≤ range.1 ∧
      range.2 ≤ (rects.foldl (widenRange cellHeight rows) range).2 ∧
      ∀ rect ∈ rects, min (reach rect.y rect.height cellHeight).1 rows <
          min (reach rect.y rect.height cellHeight).2 rows →
        (rects.foldl (widenRange cellHeight rows) range).1 ≤
            min (reach rect.y rect.height cellHeight).1 rows ∧
          min (reach rect.y rect.height cellHeight).2 rows ≤
            (rects.foldl (widenRange cellHeight rows) range).2 := by
  induction rects generalizing range with
  | nil => exact ⟨le_rfl, le_rfl, fun rect member => absurd member List.not_mem_nil⟩
  | cons first rest ih =>
      rw [List.foldl_cons]
      obtain ⟨low, high, each⟩ := ih (widenRange cellHeight rows range first)
      have widened : (widenRange cellHeight rows range first).1 ≤ range.1 ∧
          range.2 ≤ (widenRange cellHeight rows range first).2 := by
        rw [widenRange]
        split
        · exact ⟨le_rfl, le_rfl⟩
        · exact ⟨Nat.min_le_left _ _, Nat.le_max_left _ _⟩
      refine ⟨low.trans widened.1, widened.2.trans high, fun rect member wide => ?_⟩
      rcases List.mem_cons.mp member with rfl | later
      · have covers : (widenRange cellHeight rows range rect).1 ≤
              min (reach rect.y rect.height cellHeight).1 rows ∧
            min (reach rect.y rect.height cellHeight).2 rows ≤
              (widenRange cellHeight rows range rect).2 := by
          rw [widenRange]
          rw [if_neg (Nat.not_le.mpr wide)]
          exact ⟨Nat.min_le_right _ _, Nat.le_max_right _ _⟩
        exact ⟨low.trans covers.1, covers.2.trans high⟩
      · exact each rect later wide

/-- A rectangle that meets a row reaches it. -/
theorem reach_of_rectsIntersect (positive : 0 < cellHeight) {rect : TerminalSelectionRect}
    (meets : rectsIntersect ⟨0, row * cellHeight, cols * cellWidth, cellHeight⟩ rect = true) :
    (reach rect.y rect.height cellHeight).1 ≤ row ∧
      row < (reach rect.y rect.height cellHeight).2 := by
  simp only [rectsIntersect, Bool.and_eq_true, decide_eq_true_eq] at meets
  obtain ⟨⟨-, below⟩, above⟩ := meets
  constructor
  · have short : rect.y / cellHeight < ((row + 1 : Int) : ℚ) := by
      rw [div_lt_iff₀ positive]
      push_cast
      linarith
    have floor := Int.floor_lt.mpr short
    simp only [reach]
    omega
  · have long : ((row : Int) : ℚ) < (rect.y + rect.height) / cellHeight := by
      rw [lt_div_iff₀ positive]
      push_cast
      exact below
    have ceil := Int.lt_ceil.mpr long
    simp only [reach]
    omega

/-- Nothing is selected on a row outside of the range. -/
theorem rowSpans_eq_nil (positive : 0 < cellHeight) (inside : row < rows)
    (outside : inRange (selectionRowRange rects cellHeight rows) row = false) :
    rowSpans rects row cellWidth cellHeight cols = [] := by
  have none : rects.filter (rectsIntersect
      ⟨0, row * cellHeight, cols * cellWidth, cellHeight⟩) = [] := by
    rw [List.filter_eq_nil_iff]
    intro rect member meets
    obtain ⟨low, high⟩ := reach_of_rectsIntersect positive meets
    obtain ⟨-, -, each⟩ := @foldl_widenRange rects cellHeight rows (rows, 0)
    obtain ⟨start, stop⟩ := each rect member (by omega)
    have covered : inRange (selectionRowRange rects cellHeight rows) row = true := by
      rw [selectionRowRange]
      rw [if_pos (by omega), inRange, Option.any_some, Bool.and_eq_true, decide_eq_true_eq,
        decide_eq_true_eq]
      omega
    rw [covered] at outside
    cases outside
  rw [rowSpans, none]
  simp [SelectionSpans.selectionColSpansForRow, mergeSpans]

theorem not_inRange_of_affected {old new : Option (Nat × Nat)}
    (apart : inRange (affectedRange old new) row = false) :
    inRange old row = false ∧ inRange new row = false := by
  cases old with
  | none => exact ⟨rfl, by cases new <;> exact apart⟩
  | some oldBounds =>
      cases new with
      | none => exact ⟨apart, rfl⟩
      | some newBounds =>
          simp only [affectedRange, inRange, Option.any_some, Bool.and_eq_false_iff,
            decide_eq_false_iff_not] at apart ⊢
          omega

end Ranges

section Runs

variable {Alpha Color : Type} [DecidableEq Color] (inks : Inks Alpha Color)
  (hashes : Hashes Color)

namespace TerminalTextLayer

section Promises

variable (layer : TerminalTextLayer Color)

def baseEntries (index : Nat) : List (TextLayerEntry Color) :=
  layer.buildBaseRowEntries inks layer.diffViewport index

def overlayEntries (index : Nat) : List (TextLayerEntry Color) :=
  layer.buildOverlayRowEntries inks layer.diffViewport index (layer.selectionColSpansForRow index)

/-- What the layer draws with nothing kept. -/
def plain : List (List (TextLayerEntry Color)) :=
  (List.range layer.rowCount).map (layer.baseEntries inks) ++
    (List.range layer.rowCount).map (layer.overlayEntries inks)

def rowOverlayKey (index : Nat) : OverlayKey Color :=
  layer.overlayKey hashes index (layer.selectionColSpansForRow index)

/-- The hashes of a run collide nowhere and miss the value of an empty place, and its snapshots
have all of their rows. -/
structure Faithful (layers : List (TerminalTextLayer Color)) : Prop where
  styles : ∀ f ∈ layers, ∀ g ∈ layers, f.styleFingerprint hashes = g.styleFingerprint hashes →
    f.styleKey = g.styleKey
  selections : ∀ f ∈ layers, ∀ g ∈ layers,
    f.selectionSpansFingerprint hashes = g.selectionSpansFingerprint hashes →
      f.selectionKey = g.selectionKey
  overlays : ∀ f ∈ layers, ∀ g ∈ layers, ∀ index < g.rowCount,
    hashes.overlay (f.rowOverlayKey hashes index) = hashes.overlay (g.rowOverlayKey hashes index) →
      f.rowOverlayKey hashes index = g.rowOverlayKey hashes index
  named : ∀ f ∈ layers, ∀ index < f.rowCount,
    baseRowFingerprint f.snapshot index (f.styleFingerprint hashes) ≠ 0 ∧
      hashes.overlay (f.rowOverlayKey hashes index) ≠ 0
  complete : ∀ f ∈ layers, f.rowCount = f.snapshot.rows.toNat
  cells : ∀ f ∈ layers, 0 < f.cellHeight

/-- In one style, a row that keeps its revision keeps its paragraphs, and one that also keeps its
selection and its cursor keeps what lies over them. -/
def KeepsRows (earlier layer : TerminalTextLayer Color) : Prop :=
  earlier.styleKey = layer.styleKey → ∀ index < layer.rowCount, index < earlier.rowCount →
    (earlier.revision index = layer.revision index →
        earlier.baseEntries inks index = layer.baseEntries inks index) ∧
      (earlier.rowOverlayKey hashes index = layer.rowOverlayKey hashes index →
        earlier.overlayEntries inks index = layer.overlayEntries inks index)

/-- A row that keeps its revision keeps its cells, the width and the color of the text. -/
def Coherent (earlier layer : TerminalTextLayer Color) : Prop :=
  ∀ index < layer.rowCount, index < earlier.rowCount →
    earlier.revision index = layer.revision index →
      earlier.snapshot.rowsData[index]? = layer.snapshot.rowsData[index]? ∧
        earlier.snapshot.cols = layer.snapshot.cols ∧
        earlier.snapshot.colors.foreground = layer.snapshot.colors.foreground

/-- What the layers draw one after the other, each from what the last one left. -/
def drawAll (state : TerminalTextLayerState Color) :
    List (TerminalTextLayer Color) → List (List (List (TextLayerEntry Color)))
  | [] => []
  | layer :: layers =>
      (layer.diff inks hashes state).draw :: drawAll (layer.diff inks hashes state) layers

/-- The state after a layer that shows what it should. -/
structure Shows (state : TerminalTextLayerState Color) : Prop where
  base : state.baseRowEntries = (List.range layer.rowCount).map (layer.baseEntries inks)
  basePrints : state.baseRowFingerprints = (List.range layer.rowCount).map fun index =>
    baseRowFingerprint layer.snapshot index (layer.styleFingerprint hashes)
  overlay : state.overlayRowEntries = (List.range layer.rowCount).map (layer.overlayEntries inks)
  overlayPrints : state.overlayRowFingerprints = (List.range layer.rowCount).map fun index =>
    hashes.overlay (layer.rowOverlayKey hashes index)
  spans : state.selectionRowSpans = (List.range layer.rowCount).map layer.selectionColSpansForRow
  selection : state.selectionSpansFingerprint = some (layer.selectionSpansFingerprint hashes)
  range : state.selectionRowRange = layer.newSelectionRowRange
  style : state.styleFingerprint = some (layer.styleFingerprint hashes)

end Promises

variable {inks hashes} {earlier layer : TerminalTextLayer Color}
  {state : TerminalTextLayerState Color} {layers : List (TerminalTextLayer Color)}

/-- The selection lies over the texts of a row and does not change them. -/
theorem baseRuns_rowModel (layer : TerminalTextLayer Color) (index : Nat)
    (spans : List SelectionColSpan) :
    (layer.rowModel inks index spans).baseRuns = (layer.rowModel inks index []).baseRuns := by
  rw [rowModel, rowModel, buildTerminalBodyRowModel, buildTerminalBodyRowModel]
  cases layer.snapshot.rowsData[index]? <;> rfl

theorem modelRow_eq (layer : TerminalTextLayer Color) (changed : Bool)
    (state : TerminalTextLayerState Color) (index : Nat) (fingerprint overlay : Nat → UInt64)
    (spans : Nat → List SelectionColSpan) :
    layer.modelRow inks changed state index (fingerprint index) (overlay index) (spans index) =
      (kept changed state.baseRowFingerprints state.baseRowEntries 0 [] fingerprint
          (layer.buildBaseRowEntries inks layer.diffViewport) index,
        kept changed state.overlayRowFingerprints state.overlayRowEntries 0 [] overlay
          (fun index => layer.buildOverlayRowEntries inks layer.diffViewport index (spans index))
          index) := by
  rw [modelRow, kept, kept, buildRowEntries, buildBaseRowEntries, buildOverlayRowEntries,
    baseRuns_rowModel]
  cases changed <;> cases state.baseRowFingerprints.getD index 0 != fingerprint index <;>
    cases state.overlayRowFingerprints.getD index 0 != overlay index <;> rfl

/-- Both layers that keep paragraphs keep the same ones. -/
theorem modelDiff_eq (layer : TerminalTextLayer Color) (state : TerminalTextLayerState Color) :
    layer.modelDiff inks hashes state = layer.diff inks hashes state := by
  rw [modelDiff, diff]
  simp only [modelRow_eq layer _ _ _
    (fun index => baseRowFingerprint layer.snapshot index (layer.styleFingerprint hashes))
    (fun index => layer.overlayRowFingerprint hashes index
      ((layer.spansAfter hashes state).getD index []))
    (fun index => (layer.spansAfter hashes state).getD index [])]

section Selection

omit [DecidableEq Color] in
theorem selectionColSpansForRow_eq_nil (cells : 0 < layer.cellHeight) {index : Nat}
    (inside : index < layer.rowCount)
    (outside : inRange layer.newSelectionRowRange index = false) :
    layer.selectionColSpansForRow index = [] :=
  rowSpans_eq_nil cells inside outside

omit [DecidableEq Color] in
/-- A row outside of both ranges had no spans and has none. -/
theorem updatedSpans_eq (cells : 0 < layer.cellHeight) {range : Option (Nat × Nat)}
    {spans : List (List SelectionColSpan)} {index : Nat} (inside : index < layer.rowCount)
    (before : inRange range index = false → spans.getD index [] = []) :
    layer.updatedSpans range spans index = layer.selectionColSpansForRow index := by
  rw [updatedSpans]
  split
  · split
    · rfl
    · rename_i outside
      exact (selectionColSpansForRow_eq_nil cells inside (Bool.eq_false_iff.mpr outside)).symm
  · rename_i apart
    obtain ⟨old, new⟩ := not_inRange_of_affected (Bool.eq_false_iff.mpr apart)
    rw [before old, selectionColSpansForRow_eq_nil cells inside new]

omit [DecidableEq Color] in
/-- One fingerprint of the selection stands for one grid and one selection. -/
theorem Faithful.selection_same (faithful : Faithful hashes layers) (before : earlier ∈ layers)
    (here : layer ∈ layers)
    (same : earlier.selectionSpansFingerprint hashes = layer.selectionSpansFingerprint hashes) :
    earlier.rowCount = layer.rowCount ∧
      earlier.selectionColSpansForRow = layer.selectionColSpansForRow ∧
      earlier.newSelectionRowRange = layer.newSelectionRowRange := by
  have key := faithful.selections earlier before layer here same
  have grid : earlier.snapshot.rows = layer.snapshot.rows := congrArg SelectionKey.rows key
  have cols : earlier.snapshot.cols = layer.snapshot.cols := congrArg SelectionKey.cols key
  have width : earlier.cellWidth = layer.cellWidth := congrArg SelectionKey.cellWidth key
  have height : earlier.cellHeight = layer.cellHeight := congrArg SelectionKey.cellHeight key
  have rects : earlier.selectionRects = layer.selectionRects :=
    congrArg SelectionKey.selectionRects key
  have rows : earlier.rowCount = layer.rowCount := by
    rw [faithful.complete earlier before, faithful.complete layer here, grid]
  refine ⟨rows, ?_, ?_⟩
  · funext index
    rw [selectionColSpansForRow, selectionColSpansForRow, rects, width, height, cols]
  · rw [newSelectionRowRange, newSelectionRowRange, rects, height, rows]

theorem Shows.spansAfter (shows : earlier.Shows inks hashes state)
    (faithful : Faithful hashes layers) (before : earlier ∈ layers) (here : layer ∈ layers) :
    layer.spansAfter hashes state =
      (List.range layer.rowCount).map layer.selectionColSpansForRow := by
  rw [TerminalTextLayer.spansAfter]
  split
  · refine List.map_congr_left fun index member => ?_
    have inside := List.mem_range.mp member
    refine updatedSpans_eq (faithful.cells layer here) inside fun outside => ?_
    rw [getD_resized inside, shows.spans]
    rw [shows.range] at outside
    by_cases known : index < earlier.rowCount
    · rw [getD_map_range known]
      exact selectionColSpansForRow_eq_nil (faithful.cells earlier before) known outside
    · exact List.getD_eq_default _ _ (by simpa using known)
  · rename_i same
    rw [Bool.not_eq_true, selectionChanged, Bool.or_eq_false_iff, bne_eq_false_iff_eq,
      shows.selection, Option.some.injEq] at same
    obtain ⟨rows, spans, -⟩ := faithful.selection_same before here same.2
    rw [shows.spans, rows, spans, resized]
    simp

omit [DecidableEq Color] in
theorem spansAfter_default (cells : 0 < layer.cellHeight) :
    layer.spansAfter hashes .default =
      (List.range layer.rowCount).map layer.selectionColSpansForRow := by
  have changed : layer.selectionChanged hashes .default = true := rfl
  rw [TerminalTextLayer.spansAfter, if_pos changed]
  refine List.map_congr_left fun index member => ?_
  have inside := List.mem_range.mp member
  refine updatedSpans_eq cells inside fun _ => ?_
  rw [getD_resized inside]
  rfl

end Selection

section Entries

/-- What a diff keeps or builds for the rows, once their spans are right. -/
theorem diff_entries
    (spans : layer.spansAfter hashes state =
      (List.range layer.rowCount).map layer.selectionColSpansForRow) :
    (layer.diff inks hashes state).baseRowEntries = (List.range layer.rowCount).map
        (kept (layer.styleChanged hashes state) state.baseRowFingerprints state.baseRowEntries 0 []
          (fun index => baseRowFingerprint layer.snapshot index (layer.styleFingerprint hashes))
          (layer.baseEntries inks)) ∧
      (layer.diff inks hashes state).overlayRowEntries = (List.range layer.rowCount).map
        (kept (layer.styleChanged hashes state) state.overlayRowFingerprints
          state.overlayRowEntries 0 []
          (fun index => hashes.overlay (layer.rowOverlayKey hashes index))
          (layer.overlayEntries inks)) := by
  constructor
  · refine List.map_congr_left fun index member => ?_
    exact kept_resized (List.mem_range.mp member) _
  · refine List.map_congr_left fun index member => ?_
    have inside := List.mem_range.mp member
    have here : (layer.spansAfter hashes state).getD index [] =
        layer.selectionColSpansForRow index := by
      rw [spans, getD_map_range inside]
    refine (kept_resized inside _).trans (kept_congr ?_ ?_)
    · rw [here]
      rfl
    · rw [here]
      rfl

/-- A layer with the right spans that draws what it should leaves the state of one that does. -/
theorem Shows.of_draw
    (spans : layer.spansAfter hashes state =
      (List.range layer.rowCount).map layer.selectionColSpansForRow)
    (range : layer.selectionChanged hashes state = false →
      state.selectionRowRange = layer.newSelectionRowRange)
    (drawn : (layer.diff inks hashes state).draw = layer.plain inks) :
    layer.Shows inks hashes (layer.diff inks hashes state) := by
  have entries := List.append_inj drawn (by simp [diff])
  refine ⟨entries.1, rfl, entries.2, ?_, spans, rfl, ?_, rfl⟩
  · refine List.map_congr_left fun index member => ?_
    rw [spans, getD_map_range (List.mem_range.mp member)]
    rfl
  · change (if layer.selectionChanged hashes state then _ else _) = _
    split
    · rfl
    · rename_i same
      exact range (Bool.eq_false_iff.mpr same)

theorem draw_eq_plain_iff
    (spans : layer.spansAfter hashes state =
      (List.range layer.rowCount).map layer.selectionColSpansForRow) :
    (layer.diff inks hashes state).draw = layer.plain inks ↔
      ∀ index < layer.rowCount,
        kept (layer.styleChanged hashes state) state.baseRowFingerprints state.baseRowEntries 0 []
            (fun index => baseRowFingerprint layer.snapshot index (layer.styleFingerprint hashes))
            (layer.baseEntries inks) index = layer.baseEntries inks index ∧
          kept (layer.styleChanged hashes state) state.overlayRowFingerprints
            state.overlayRowEntries 0 []
            (fun index => hashes.overlay (layer.rowOverlayKey hashes index))
            (layer.overlayEntries inks) index = layer.overlayEntries inks index := by
  rw [TerminalTextLayerState.draw, plain, (diff_entries spans).1, (diff_entries spans).2]
  constructor
  · intro same index inside
    have parts := List.append_inj same (by simp)
    have member := List.mem_range.mpr inside
    exact ⟨List.map_inj_left.mp parts.1 index member, List.map_inj_left.mp parts.2 index member⟩
  · intro each
    congr 1
    · exact List.map_congr_left fun index member => (each index (List.mem_range.mp member)).1
    · exact List.map_congr_left fun index member => (each index (List.mem_range.mp member)).2

end Entries

section Chains

omit [DecidableEq Color] in
theorem baseRowFingerprint_eq_iff
    (style : earlier.styleFingerprint hashes = layer.styleFingerprint hashes) (index : Nat) :
    baseRowFingerprint earlier.snapshot index (earlier.styleFingerprint hashes) =
        baseRowFingerprint layer.snapshot index (layer.styleFingerprint hashes) ↔
      earlier.revision index = layer.revision index := by
  rw [baseRowFingerprint, baseRowFingerprint, style, UInt64.xor_left_inj, UInt64.xor_right_inj,
    rotateLeft_inj (by decide)]
  rfl

/-- After a layer that shows what it should, the next one does exactly if it keeps rows only with
what is built for them. -/
theorem Shows.draw_eq_plain_iff (shows : earlier.Shows inks hashes state)
    (faithful : Faithful hashes layers) (before : earlier ∈ layers) (here : layer ∈ layers) :
    (layer.diff inks hashes state).draw = layer.plain inks ↔
      KeepsRows inks hashes earlier layer := by
  rw [TerminalTextLayer.draw_eq_plain_iff (shows.spansAfter faithful before here), shows.base,
    shows.basePrints, shows.overlay, shows.overlayPrints, styleChanged, shows.style]
  by_cases style : earlier.styleFingerprint hashes = layer.styleFingerprint hashes
  · have unchanged : (some (earlier.styleFingerprint hashes) !=
        some (layer.styleFingerprint hashes)) = false := by
      rw [style, bne_self_eq_false]
    rw [unchanged]
    constructor
    · intro each key index inside known
      have named := faithful.named layer here index inside
      obtain ⟨base, overlay⟩ := each index inside
      refine ⟨fun same => ?_, fun same => ?_⟩
      · exact (kept_eq_build_iff named.1).mp base known
          ((baseRowFingerprint_eq_iff style index).mpr same)
      · exact (kept_eq_build_iff named.2).mp overlay known (congrArg hashes.overlay same)
    · intro keeps index inside
      have named := faithful.named layer here index inside
      have rows := keeps (faithful.styles earlier before layer here style) index inside
      refine ⟨(kept_eq_build_iff named.1).mpr fun known same => ?_,
        (kept_eq_build_iff named.2).mpr fun known same => ?_⟩
      · exact (rows known).1 ((baseRowFingerprint_eq_iff style index).mp same)
      · exact (rows known).2 (faithful.overlays earlier before layer here index inside same)
  · have changed : (some (earlier.styleFingerprint hashes) !=
        some (layer.styleFingerprint hashes)) = true := by
      rw [bne_iff_ne]
      exact fun same => style (Option.some_inj.mp same)
    rw [changed]
    refine iff_of_true (fun index _ => ⟨rfl, rfl⟩) fun key => ?_
    exact absurd (congrArg hashes.style key) style

theorem drawAll_eq_plain_iff (faithful : Faithful hashes layers) (before : earlier ∈ layers)
    (shows : earlier.Shows inks hashes state) {rest : List (TerminalTextLayer Color)}
    (among : ∀ layer ∈ rest, layer ∈ layers) :
    drawAll inks hashes state rest = rest.map (plain inks) ↔
      (earlier :: rest).IsChain (KeepsRows inks hashes) := by
  induction rest generalizing earlier state with
  | nil => simp [drawAll]
  | cons layer rest ih =>
      have here := among layer List.mem_cons_self
      have spans := shows.spansAfter faithful before here
      rw [drawAll, List.map_cons, List.cons.injEq, List.isChain_cons_cons,
        shows.draw_eq_plain_iff faithful before here]
      refine and_congr_right fun keeps => ih here ?_ fun other later =>
        among other (List.mem_cons_of_mem _ later)
      refine Shows.of_draw spans (fun same => ?_)
        ((shows.draw_eq_plain_iff faithful before here).mpr keeps)
      rw [selectionChanged, Bool.or_eq_false_iff, bne_eq_false_iff_eq, shows.selection,
        Option.some.injEq] at same
      rw [shows.range, (faithful.selection_same before here same.2).2.2]

theorem draw_default (cells : 0 < layer.cellHeight) :
    (layer.diff inks hashes .default).draw = layer.plain inks :=
  (TerminalTextLayer.draw_eq_plain_iff (spansAfter_default cells)).mpr fun _ _ => ⟨rfl, rfl⟩

end Chains

section Coherence

omit [DecidableEq Color] in
theorem viewportRect_diffViewport (layer : TerminalTextLayer Color) :
    layer.viewportRect layer.diffViewport = layer.diffViewport := by
  rw [diffViewport, viewportRect, viewportRect]
  cases layer.viewport <;> rfl

omit [DecidableEq Color] in
/-- One style puts the runs of a row in one place. -/
theorem buildTextEntriesFromRuns_congr (key : earlier.styleKey = layer.styleKey) (index : Nat)
    (runs : List (TextRun Color)) :
    earlier.buildTextEntriesFromRuns earlier.diffViewport index runs =
      layer.buildTextEntriesFromRuns layer.diffViewport index runs := by
  have size : earlier.fontSize = layer.fontSize := congrArg StyleKey.fontSize key
  have width : earlier.cellWidth = layer.cellWidth := congrArg StyleKey.cellWidth key
  have height : earlier.cellHeight = layer.cellHeight := congrArg StyleKey.cellHeight key
  have viewport : earlier.diffViewport = layer.diffViewport := congrArg StyleKey.viewport key
  have offset : earlier.viewportContentOffsetY = layer.viewportContentOffsetY :=
    congrArg StyleKey.contentOffsetY key
  have each : earlier.pushTextEntry earlier.diffViewport index =
      layer.pushTextEntry layer.diffViewport index := by
    funext run
    rw [pushTextEntry, pushTextEntry, viewportRect_diffViewport, viewportRect_diffViewport, size,
      width, height, viewport, offset]
  rw [buildTextEntriesFromRuns, buildTextEntriesFromRuns, each]

theorem selectedRuns_congr {row : Row} {cols : Nat} {families : List String}
    {spans others : List SelectionColSpan} {color other : Option Color}
    (same : (if spans.isEmpty then none else some (color, spans)) =
      if others.isEmpty then none else some (other, others)) :
    selectedRuns row cols families spans color = selectedRuns row cols families others other := by
  have empty : ∀ color : Option Color, selectedRuns row cols families [] color = [] := by
    intro color
    cases color <;> rfl
  cases spans with
  | nil =>
      cases others with
      | nil => rw [empty, empty]
      | cons span rest => simp at same
  | cons span rest =>
      cases others with
      | nil => simp at same
      | cons span' rest' =>
          have both : color = other ∧ span :: rest = span' :: rest' := by simpa using same
          rw [both.1, both.2]

omit [DecidableEq Color] in
/-- Two overlay keys of a row agree on the cursor: it is on the row for neither or the same for
both. -/
theorem cursor_cases {index : Nat}
    (same : earlier.rowOverlayKey hashes index = layer.rowOverlayKey hashes index) :
    (earlier.snapshot.cursor.y.toNat ≠ index ∧ layer.snapshot.cursor.y.toNat ≠ index) ∨
      (earlier.snapshot.cursor.y.toNat = index ∧ layer.snapshot.cursor.y.toNat = index ∧
        earlier.cursorKey = layer.cursorKey) := by
  have cursor : (if earlier.snapshot.cursor.y.toNat = index then some earlier.cursorKey else none) =
      if layer.snapshot.cursor.y.toNat = index then some layer.cursorKey else none :=
    congrArg OverlayKey.cursor same
  by_cases on : earlier.snapshot.cursor.y.toNat = index
  · by_cases on' : layer.snapshot.cursor.y.toNat = index
    · rw [if_pos on, if_pos on', Option.some.injEq] at cursor
      exact .inr ⟨on, on', cursor⟩
    · rw [if_pos on, if_neg on'] at cursor
      cases cursor
  · by_cases on' : layer.snapshot.cursor.y.toNat = index
    · rw [if_neg on, if_pos on'] at cursor
      cases cursor
    · exact .inl ⟨on, on'⟩

omit [DecidableEq Color] in
theorem cursorRuns_congr {index : Nat}
    (same : earlier.rowOverlayKey hashes index = layer.rowOverlayKey hashes index) (row : Row)
    (families : List String) :
    cursorRuns earlier.snapshot row index families earlier.cursorTextColor
        earlier.cursorBlinkVisible =
      cursorRuns layer.snapshot row index families layer.cursorTextColor
        layer.cursorBlinkVisible := by
  rcases cursor_cases same with ⟨off, off'⟩ | ⟨on, on', key⟩
  · have nothing : ∀ (snapshot : TerminalSnapshot CursorStyle) (color : Option Color)
        (blink : Bool), snapshot.cursor.y.toNat ≠ index →
          cursorRuns snapshot row index families color blink = [] := by
      intro snapshot color blink off
      cases color with
      | none => rfl
      | some color => exact if_neg off
    rw [nothing _ _ _ off, nothing _ _ _ off']
  · have color : earlier.cursorTextColor = layer.cursorTextColor :=
      congrArg CursorKey.cursorTextColor key
    have blink : earlier.cursorBlinkVisible = layer.cursorBlinkVisible :=
      congrArg CursorKey.cursorBlinkVisible key
    have visible : earlier.snapshot.cursor.visible = layer.snapshot.cursor.visible :=
      congrArg CursorKey.visible key
    have x : earlier.snapshot.cursor.x = layer.snapshot.cursor.x := congrArg CursorKey.x key
    have style : earlier.snapshot.cursor.style = layer.snapshot.cursor.style :=
      congrArg CursorKey.style key
    have run : ∀ color : Color, cursorRun earlier.snapshot families color =
        cursorRun layer.snapshot families color := by
      intro color
      funext blink cell
      rw [cursorRun, cursorRun, visible, x, style]
    rw [color, blink]
    cases layer.cursorTextColor with
    | none => rfl
    | some color => rw [cursorRuns, cursorRuns, if_pos on, if_pos on', run]

omit [DecidableEq Color] in
theorem preeditRuns_congr {index : Nat}
    (same : earlier.rowOverlayKey hashes index = layer.rowOverlayKey hashes index)
    (before : index < earlier.snapshot.rows.toNat) (inside : index < layer.snapshot.rows.toNat)
    (foreground : earlier.snapshot.colors.foreground = layer.snapshot.colors.foreground)
    (families : List String) :
    preeditRuns inks earlier.snapshot index families earlier.preeditText =
      preeditRuns inks layer.snapshot index families layer.preeditText := by
  rcases cursor_cases same with ⟨off, off'⟩ | ⟨on, on', key⟩
  · have nothing : ∀ (snapshot : TerminalSnapshot CursorStyle) (text : Option String),
        snapshot.cursor.y.toNat ≠ index → preeditRuns inks snapshot index families text = [] := by
      intro snapshot text off
      cases text with
      | none => rfl
      | some text => exact if_neg fun shown => off shown.2.2
    rw [nothing _ _ off, nothing _ _ off']
  · have text : earlier.preeditText = layer.preeditText := congrArg CursorKey.preeditText key
    have x : earlier.snapshot.cursor.x = layer.snapshot.cursor.x := congrArg CursorKey.x key
    have below : earlier.snapshot.cursor.y < earlier.snapshot.rows :=
      UInt16.lt_iff_toNat_lt.mpr (on ▸ before)
    have below' : layer.snapshot.cursor.y < layer.snapshot.rows :=
      UInt16.lt_iff_toNat_lt.mpr (on' ▸ inside)
    rw [text]
    cases layer.preeditText with
    | none => rfl
    | some text =>
        rw [preeditRuns, preeditRuns, x, foreground]
        simp only [below, below', on, on']

/-- With coherent snapshots, whatever is kept is what would be built. -/
theorem keepsRows_of_coherent (complete : earlier.rowCount = earlier.snapshot.rows.toNat)
    (complete' : layer.rowCount = layer.snapshot.rows.toNat)
    (coherent : Coherent earlier layer) : KeepsRows inks hashes earlier layer := by
  intro key index inside known
  have families : earlier.fontFamilies = layer.fontFamilies := congrArg StyleKey.fontFamilies key
  have url : earlier.urlColor = layer.urlColor := congrArg StyleKey.urlColor key
  constructor
  · intro same
    obtain ⟨row, cols, -⟩ := coherent index inside known same
    rw [baseEntries, baseEntries, buildBaseRowEntries, buildBaseRowEntries,
      buildTextEntriesFromRuns_congr key, rowModel, rowModel, buildTerminalBodyRowModel,
      buildTerminalBodyRowModel, row, cols, families, url]
    cases layer.snapshot.rowsData[index]? <;> rfl
  · intro same
    obtain ⟨row, cols, foreground⟩ :=
      coherent index inside known (congrArg OverlayKey.revision same)
    have selected := congrArg OverlayKey.selection same
    rw [overlayEntries, overlayEntries, buildOverlayRowEntries, buildOverlayRowEntries,
      buildTextEntriesFromRuns_congr key, rowModel, rowModel, buildTerminalBodyRowModel,
      buildTerminalBodyRowModel, row]
    cases layer.snapshot.rowsData[index]? with
    | none => rfl
    | some row =>
        dsimp only
        rw [selectedRuns_congr selected, cursorRuns_congr same, cols, families,
          preeditRuns_congr same (complete ▸ known) (complete' ▸ inside) foreground]

end Coherence

/-- Over a run from an empty state, with rows that come and go and a selection whose spans are
computed again only where it was or is, every layer draws what it would with nothing kept exactly
if rows that keep their fingerprints keep their paragraphs; coherent snapshots see to that. -/
theorem layers_plain_iff (faithful : Faithful hashes layers) :
    (drawAll inks hashes .default layers = layers.map (plain inks) ↔
        layers.IsChain (KeepsRows inks hashes)) ∧
      (layers.IsChain Coherent → drawAll inks hashes .default layers = layers.map (plain inks)) ∧
      ∀ (layer : TerminalTextLayer Color) (state : TerminalTextLayerState Color),
        layer.modelDiff inks hashes state = layer.diff inks hashes state := by
  have exact_ : drawAll inks hashes .default layers = layers.map (plain inks) ↔
      layers.IsChain (KeepsRows inks hashes) := by
    cases layers with
    | nil => simp [drawAll]
    | cons layer rest =>
        have cells := faithful.cells layer List.mem_cons_self
        have first : (layer.diff inks hashes .default).draw = layer.plain inks := draw_default cells
        have shows : layer.Shows inks hashes (layer.diff inks hashes .default) :=
          Shows.of_draw (spansAfter_default cells) (by intro same; cases same) first
        rw [drawAll, List.map_cons, first, List.cons.injEq]
        exact (and_iff_right rfl).trans (drawAll_eq_plain_iff faithful List.mem_cons_self shows
          fun other => List.mem_cons_of_mem _)
  refine ⟨exact_, fun coherent => exact_.mpr ?_, modelDiff_eq⟩
  refine coherent.imp_of_mem_imp fun earlier layer before here along => ?_
  exact keepsRows_of_coherent (faithful.complete earlier before) (faithful.complete layer here)
    along

/-- One row of one letter, of which something may be selected. -/
def oneLetter (selectionRects : List TerminalSelectionRect) : TerminalTextLayer RgbColor where
  snapshot :=
    { cols := 1
      rows := 1
      title := ""
      pwd := ""
      cursor := ⟨false, false, 0, 0, .bar⟩
      rowsData := [[{ text := "l", displayWidth := 1 }]]
      rowRevisions := [1]
      colors := ⟨⟨0, 0, 0⟩, ⟨0, 0, 0⟩, ⟨0, 0, 0⟩, false⟩ }
  cellWidth := 1
  cellHeight := 1
  fontSize := 1
  fontFamilies := []
  cursorBlinkVisible := false
  selectionRects := selectionRects
  selectionForeground := some ⟨1, 1, 1⟩
  cursorTextColor := none
  urlColor := none
  preeditText := none
  viewport := none

/-- Hashes for layers that differ in what is selected. -/
def selectionHashes : Hashes RgbColor :=
  ⟨fun _ => 7, fun key => if key.selectionRects.isEmpty then 1 else 2,
    fun key => if key.selection.isSome then 1 else 2⟩

/-- The letter is selected and then is not. -/
def unselected : List (TerminalTextLayer RgbColor) := [oneLetter [⟨0, 0, 1, 1⟩], oneLetter []]

theorem selectionColSpansForRow_oneLetter :
    (oneLetter [⟨0, 0, 1, 1⟩]).selectionColSpansForRow 0 = [⟨0, 1⟩] ∧
      (oneLetter []).selectionColSpansForRow 0 = [] := by
  constructor
  · simp [selectionColSpansForRow, oneLetter, rowSpans, SelectionSpans.selectionColSpansForRow,
      rectsIntersect, reach, rectSpan, mergeSpans, pushSpan]
  · simp [selectionColSpansForRow, oneLetter, rowSpans, SelectionSpans.selectionColSpansForRow,
      mergeSpans]

theorem layers_plain_iff_unselected :
    drawAll ⟨fun color (_ : Unit) => color, ()⟩ selectionHashes .default unselected =
      unselected.map (plain ⟨fun color _ => color, ()⟩) := by
  obtain ⟨selected, bare⟩ := selectionColSpansForRow_oneLetter
  have faithful : Faithful selectionHashes unselected := by
    refine ⟨by decide, by decide, ?_, ?_, by decide, by decide⟩
    · intro f before g here index inside same
      obtain rfl : index = 0 := by
        simp only [unselected, List.mem_cons, List.not_mem_nil, or_false] at here
        rcases here with rfl | rfl <;> exact Nat.lt_one_iff.mp inside
      simp only [unselected, List.mem_cons, List.not_mem_nil, or_false] at before here
      rcases before with rfl | rfl <;> rcases here with rfl | rfl
      · rfl
      · simp [rowOverlayKey, overlayKey, selected, bare, selectionHashes] at same
      · simp [rowOverlayKey, overlayKey, selected, bare, selectionHashes] at same
      · rfl
    · intro f here index inside
      simp only [unselected, List.mem_cons, List.not_mem_nil, or_false] at here
      rcases here with rfl | rfl <;> obtain rfl : index = 0 := Nat.lt_one_iff.mp inside
      · exact ⟨by decide, by simp [rowOverlayKey, overlayKey, selected, selectionHashes]⟩
      · exact ⟨by decide, by simp [rowOverlayKey, overlayKey, bare, selectionHashes]⟩
  refine (layers_plain_iff faithful).2.1 ?_
  exact List.isChain_cons_cons.mpr ⟨fun _ _ _ _ => ⟨rfl, rfl, rfl⟩, List.isChain_singleton _⟩

end TerminalTextLayer

end Runs

end Boo.Client.TextLayer
