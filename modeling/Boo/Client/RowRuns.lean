/- module: Boo/Client/RowRuns
   digest: The background spans, underline spans and text runs that a row is drawn with. -/

import Boo.Client.Snapshot
import Boo.Lib.ColumnSpans

set_option autoImplicit false
set_option relaxedAutoImplicit false

namespace Boo.Client.RowRuns

open Boo.Lib.ColumnSpans
open Boo.Wire.Message
open Boo.Client.Snapshot

/-- `color_from_rgb` and the alpha 1.0. -/
structure Inks (Alpha Color : Type) where
  colorFromRgb : RgbColor → Alpha → Color
  one : Alpha

abbrev Row := List CellSnapshot

section Spans

variable {Color : Type} [DecidableEq Color]

/-- The finished spans and the one that the next column may widen. -/
structure SpanLoop (Color : Type) where
  spans : List (ColumnSpan Color)
  current : Option (ColumnSpan Color)

namespace SpanLoop

def finish (loop : SpanLoop Color) : List (ColumnSpan Color) :=
  loop.spans ++ loop.current.toList

/-- One column; `cell` gives the width and the color of what the column shows. -/
def step (cell : Nat → Option (Nat × Color)) (loop : SpanLoop Color) (col : Nat) :
    SpanLoop Color :=
  match cell col, loop.current with
  | none, _ => ⟨loop.finish, none⟩
  | some (width, color), some span =>
      if span.color = color ∧ span.stop = col then ⟨loop.spans, some (span.widen width)⟩
      else ⟨loop.finish, some ⟨col, width, color⟩⟩
  | some (width, color), none => ⟨loop.spans, some ⟨col, width, color⟩⟩

end SpanLoop

def buildSpans (cell : Nat → Option (Nat × Color)) (cols : Nat) : List (ColumnSpan Color) :=
  ((List.range cols).foldl (SpanLoop.step cell) ⟨[], none⟩).finish

/-- One span for each column that shows something. -/
def columnSpan (cell : Nat → Option (Nat × Color)) (col : Nat) : Option (ColumnSpan Color) :=
  (cell col).map fun (width, color) => ⟨col, width, color⟩

end Spans

section Cells

variable {Alpha Color : Type} (inks : Inks Alpha Color)

def cellForeground (urlColor : Option Color) (cell : CellSnapshot) : Color :=
  if cell.hyperlink then urlColor.getD (inks.colorFromRgb cell.fg inks.one)
  else inks.colorFromRgb cell.fg inks.one

def backgroundOf (row : Row) (opacity : Alpha) (opacityCells : Bool) (col : Nat) :
    Option (Nat × Color) :=
  (row[col]?.filter fun cell => !cell.bgIsDefault).map fun cell =>
    (1, inks.colorFromRgb cell.bg (if opacityCells then opacity else inks.one))

def underlineOf (row : Row) (urlColor : Option Color) (col : Nat) : Option (Nat × Color) :=
  (row[col]?.filter fun cell => cell.underline ≠ 0).map fun cell =>
    (max cell.displayWidth.toNat 1, cellForeground inks urlColor cell)

variable [DecidableEq Color]

def buildBackgroundSpans (row : Row) (cols : Nat) (opacity : Alpha) (opacityCells : Bool) :
    List (ColumnSpan Color) :=
  buildSpans (backgroundOf inks row opacity opacityCells) cols

def buildUnderlineSpans (row : Row) (cols : Nat) (urlColor : Option Color) :
    List (ColumnSpan Color) :=
  buildSpans (underlineOf inks row urlColor) cols

end Cells

section Painting

variable {Color : Type} [DecidableEq Color] {cell : Nat → Option (Nat × Color)}

theorem colorAt_finish_step (loop : SpanLoop Color) (col other : Nat) :
    colorAt (loop.step cell col).finish other =
      colorAt (loop.finish ++ (columnSpan cell col).toList) other := by
  rw [SpanLoop.step, columnSpan]
  cases shown : cell col with
  | none => simp [SpanLoop.finish]
  | some entry =>
      obtain ⟨width, color⟩ := entry
      cases held : loop.current with
      | none => simp [SpanLoop.finish, held]
      | some span =>
          dsimp only
          split
          · rename_i joins
            obtain ⟨rfl, touches⟩ := joins
            have wide := @colorAt_widen _ _ _ width touches other
            simp only [SpanLoop.finish, held, Option.toList_some, Option.map_some,
              List.append_assoc, List.singleton_append]
            rw [colorAt_append, colorAt_append, wide]
          · simp [SpanLoop.finish, held]

/-- The loop paints what it would paint with one span for each column. -/
theorem colorAt_buildSpans (cols other : Nat) :
    colorAt (buildSpans cell cols) other =
      colorAt ((List.range cols).filterMap (columnSpan cell)) other := by
  rw [buildSpans]
  induction cols generalizing other with
  | zero => rfl
  | succ cols ih =>
      rw [List.range_succ, List.foldl_append, List.foldl_cons, List.foldl_nil,
        colorAt_finish_step, colorAt_append, ih, List.filterMap_append, colorAt_append]
      congr 2

end Painting

section UnitWidths

variable {Color : Type} {cell : Nat → Option (Nat × Color)}

/-- Where every column shows for itself alone, a column shows its own color. -/
theorem colorAt_columnSpans (unit : ∀ col width color, cell col = some (width, color) → width = 1)
    (cols other : Nat) : colorAt ((List.range cols).filterMap (columnSpan cell)) other =
      if other < cols then (cell other).map Prod.snd else none := by
  induction cols with
  | zero => rfl
  | succ cols ih =>
      rw [List.range_succ, List.filterMap_append, colorAt_append, ih]
      cases shown : cell cols with
      | none =>
          have empty : [cols].filterMap (columnSpan cell) = [] := by simp [columnSpan, shown]
          rw [empty, colorAt, List.reverse_nil, List.find?_nil, Option.map_none, Option.none_or]
          by_cases same : other = cols
          · simp [same, shown]
          · have iff : other < cols + 1 ↔ other < cols := by omega
            simp only [iff]
      | some entry =>
          obtain ⟨width, color⟩ := entry
          have one := unit cols width color shown
          have single : [cols].filterMap (columnSpan cell) = [⟨cols, 1, color⟩] := by
            simp [columnSpan, shown, one]
          rw [single, colorAt_singleton]
          have covers : (⟨cols, 1, color⟩ : ColumnSpan Color).Covers other ↔ other = cols := by
            simp only [ColumnSpan.Covers, ColumnSpan.stop]
            omega
          by_cases same : other = cols
          · rw [if_pos (covers.mpr same), same, if_pos (Nat.lt_succ_self _), shown]
            rfl
          · have iff : other < cols + 1 ↔ other < cols := by omega
            rw [if_neg fun inside => same (covers.mp inside), Option.none_or]
            simp only [iff]

variable [DecidableEq Color]

/-- The loop before a column: the spans end there, and the one that may grow is the only one that
can touch it. -/
structure SpanLoop.Before (loop : SpanLoop Color) (col : Nat) : Prop where
  canonical : Canonical loop.finish
  ended : ∀ span ∈ loop.finish, span.stop ≤ col
  gap : loop.current = none → ∀ span ∈ loop.finish, span.stop < col

theorem SpanLoop.Before.step {loop : SpanLoop Color} {col : Nat} (before : loop.Before col)
    (unit : ∀ width color, cell col = some (width, color) → width = 1) :
    (loop.step cell col).Before (col + 1) := by
  obtain ⟨canonical, ended, gap⟩ := before
  have later : ∀ span ∈ loop.finish, span.stop < col + 1 := fun span member =>
    Nat.lt_succ_of_le (ended span member)
  rw [SpanLoop.step]
  cases shown : cell col with
  | none =>
      have same : SpanLoop.finish ⟨loop.finish, none⟩ = loop.finish := List.append_nil _
      constructor
      · rwa [same]
      · rw [same]
        exact fun span member => Nat.le_of_lt (later span member)
      · rw [same]
        exact fun _ => later
  | some entry =>
      obtain ⟨width, color⟩ := entry
      have one := unit width color shown
      subst one
      have started (apart : ∀ last ∈ loop.finish.getLast?, last.stop ≤ col ∧
          (last.stop = col → last.color ≠ color)) :
          SpanLoop.Before ⟨loop.finish, some ⟨col, 1, color⟩⟩ (col + 1) := by
        refine ⟨canonical.concat Nat.one_pos apart, fun span member => ?_, fun held => ?_⟩
        · rcases List.mem_append.mp member with early | late
          · exact Nat.le_of_lt (later span early)
          · rw [List.mem_singleton.mp late]
            exact Nat.le_refl _
        · cases held
      cases held : loop.current with
      | none =>
          have same : loop.spans = loop.finish := by simp [SpanLoop.finish, held]
          dsimp only
          rw [same]
          refine started fun last isLast => ?_
          have short := gap held last (List.mem_of_mem_getLast? isLast)
          exact ⟨Nat.le_of_lt short, fun touch => absurd touch (Nat.ne_of_lt short)⟩
      | some span =>
          have finish : loop.finish = loop.spans ++ [span] := by simp [SpanLoop.finish, held]
          dsimp only
          split
          · rename_i joins
            rw [finish] at canonical ended later
            refine ⟨canonical.widen_last 1, fun other member => ?_, fun none => ?_⟩
            · rcases List.mem_append.mp member with early | late
              · exact Nat.le_of_lt (later other (List.mem_append_left _ early))
              · rw [List.mem_singleton.mp late, ← joins.2]
                exact Nat.le_of_eq (Nat.add_assoc _ _ _).symm
            · cases none
          · rename_i apart
            refine started fun last isLast => ?_
            rw [finish, List.getLast?_concat, Option.mem_some_iff] at isLast
            subst isLast
            have short := ended span (by rw [finish]; simp)
            exact ⟨short, fun touch same => apart ⟨same, touch⟩⟩

theorem canonical_buildSpans (unit : ∀ col width color, cell col = some (width, color) → width = 1)
    (cols : Nat) : Canonical (buildSpans cell cols) := by
  have run : ((List.range cols).foldl (SpanLoop.step cell) ⟨[], none⟩).Before cols := by
    induction cols with
    | zero => exact ⟨canonical_nil, by simp [SpanLoop.finish], by simp [SpanLoop.finish]⟩
    | succ cols ih =>
        rw [List.range_succ, List.foldl_append, List.foldl_cons, List.foldl_nil]
        exact ih.step (unit cols)
  exact run.canonical

end UnitWidths

section Backgrounds

variable {Alpha Color : Type} [DecidableEq Color] (inks : Inks Alpha Color)

/-- The background of a column: that of its cell, unless it is the default or there is none. -/
def backgroundAt (row : Row) (cols : Nat) (opacity : Alpha) (opacityCells : Bool) (col : Nat) :
    Option Color :=
  if col < cols then
    (row[col]?.filter fun cell => !cell.bgIsDefault).map fun cell =>
      inks.colorFromRgb cell.bg (if opacityCells then opacity else inks.one)
  else none

/-- The background spans of a row paint every column with the background of its cell, and they
are the only spans in canonical form that do. -/
theorem buildBackgroundSpans_paint (row : Row) (cols : Nat) (opacity : Alpha)
    (opacityCells : Bool) :
    Canonical (buildBackgroundSpans inks row cols opacity opacityCells) ∧
      (∀ col, colorAt (buildBackgroundSpans inks row cols opacity opacityCells) col =
        backgroundAt inks row cols opacity opacityCells col) ∧
      ∀ spans, Canonical spans →
        (∀ col, colorAt spans col = backgroundAt inks row cols opacity opacityCells col) →
        spans = buildBackgroundSpans inks row cols opacity opacityCells := by
  have unit : ∀ col width color,
      backgroundOf inks row opacity opacityCells col = some (width, color) → width = 1 := by
    intro col width color shown
    rw [backgroundOf, Option.map_eq_some_iff] at shown
    obtain ⟨_, _, same⟩ := shown
    exact (Prod.mk.inj same).1.symm
  have canonical := canonical_buildSpans unit cols
  have paints (col : Nat) : colorAt (buildBackgroundSpans inks row cols opacity opacityCells) col =
      backgroundAt inks row cols opacity opacityCells col := by
    rw [buildBackgroundSpans, colorAt_buildSpans, colorAt_columnSpans unit, backgroundAt,
      backgroundOf, Option.map_map]
    rfl
  exact ⟨canonical, paints, fun spans others same =>
    others.unique canonical fun col => (same col).trans (paints col).symm⟩

/-- An underlined cell is underlined as wide as it is, the later cell on top. -/
theorem buildUnderlineSpans_paint (row : Row) (cols : Nat) (urlColor : Option Color) (col : Nat) :
    colorAt (buildUnderlineSpans inks row cols urlColor) col =
      colorAt ((List.range cols).filterMap (columnSpan (underlineOf inks row urlColor))) col :=
  colorAt_buildSpans cols col

end Backgrounds

section Fonts

inductive Family
  | name (family : String)
  | monospace
  deriving DecidableEq

inductive Weight
  | normal | bold
  deriving DecidableEq

inductive Slant
  | normal | italic
  deriving DecidableEq

structure Font where
  family : Family
  weight : Weight
  style : Slant
  deriving DecidableEq

def primaryTerminalFont (families : List String) : Option String := families.head?

def configuredFont (family : Option String) : Font where
  family := (family.map Family.name).getD .monospace
  weight := .normal
  style := .normal

def fontForTerminalText (_text : String) (bold italic : Bool) (families : List String) : Font :=
  { configuredFont (primaryTerminalFont families) with
    weight := if bold then .bold else .normal
    style := if italic then .italic else .normal }

def fontForCell (cell : CellSnapshot) (families : List String) : Font :=
  fontForTerminalText cell.text cell.bold cell.italic families

inductive Shaping
  | basic | advanced
  deriving DecidableEq

def terminalTextShaping : Shaping := .advanced

end Fonts

section Runs

structure TextRun (Color : Type) where
  startCol : Nat
  widthCols : Nat
  text : String
  fg : Color
  font : Font
  underline : Bool
  shaping : Shaping
  deriving DecidableEq

def isAscii (text : String) : Bool := text.toList.all fun char => char.toNat < 128

/-- The contents that are skipped: nothing, a NUL, and a space that is not underlined. -/
def drawsText (cell : CellSnapshot) : Bool :=
  cell.text ≠ "" && cell.text ≠ String.singleton (Char.ofNat 0) &&
    !(cell.text = " " && cell.underline = 0)

variable {Color : Type}

def cellRun (families : List String) (fg : CellSnapshot → Color) (col : Nat)
    (cell : CellSnapshot) : TextRun Color where
  startCol := col
  widthCols := max cell.displayWidth.toNat 1
  text := cell.text
  fg := fg cell
  font := fontForCell cell families
  underline := cell.underline ≠ 0
  shaping := terminalTextShaping

namespace TextRun

/-- `run` goes on where this one ends, in the same style, and both are ASCII. -/
def Joins (previous run : TextRun Color) : Prop :=
  previous.startCol + previous.widthCols = run.startCol ∧ previous.fg = run.fg ∧
    previous.font = run.font ∧ previous.underline = run.underline ∧
    previous.shaping = run.shaping ∧ isAscii previous.text ∧ isAscii run.text

instance [DecidableEq Color] (previous run : TextRun Color) : Decidable (previous.Joins run) :=
  inferInstanceAs (Decidable (_ ∧ _))

def join (previous run : TextRun Color) : TextRun Color :=
  { previous with
    widthCols := previous.widthCols + run.widthCols
    text := previous.text ++ run.text }

end TextRun

variable [DecidableEq Color]

def pushRun (runs : List (TextRun Color)) (run : TextRun Color) : List (TextRun Color) :=
  match runs.getLast? with
  | none => runs ++ [run]
  | some previous =>
      if previous.Joins run then runs.dropLast ++ [previous.join run] else runs ++ [run]

/-- The loop over the columns; `piece` is the run that a cell would be alone. -/
def buildRuns (piece : Nat → Option (TextRun Color)) (cols : Nat) : List (TextRun Color) :=
  ((List.range cols).filterMap piece).foldl pushRun []

variable {Alpha : Type} (inks : Inks Alpha Color)

def textPiece (row : Row) (families : List String) (urlColor : Option Color) (col : Nat) :
    Option (TextRun Color) :=
  (row[col]?.filter drawsText).map (cellRun families (cellForeground inks urlColor) col)

def buildTextRuns (row : Row) (cols : Nat) (families : List String) (urlColor : Option Color) :
    List (TextRun Color) :=
  buildRuns (textPiece inks row families urlColor) cols

def selectionPiece (row : Row) (families : List String) (selectionForeground : Color)
    (isSelected : Nat → UInt8 → Bool) (col : Nat) : Option (TextRun Color) :=
  (row[col]?.filter fun cell => drawsText cell && isSelected col cell.displayWidth).map
    (cellRun families (fun _ => selectionForeground) col)

def buildSelectionTextRuns (row : Row) (cols : Nat) (families : List String)
    (selectionForeground : Color) (isSelected : Nat → UInt8 → Bool) : List (TextRun Color) :=
  buildRuns (selectionPiece row families selectionForeground isSelected) cols

end Runs

section Placing

variable {Color : Type}

/-- Some text at its column, in its style. -/
structure Glyph (Color : Type) where
  col : Nat
  text : List Char
  fg : Color
  font : Font
  underline : Bool
  shaping : Shaping

/-- Where a fixed-width font puts the text of a run: ASCII one column a character, anything else
as one cluster. -/
def TextRun.glyphs (run : TextRun Color) : List (Glyph Color) :=
  let glyph (col : Nat) (text : List Char) : Glyph Color :=
    ⟨col, text, run.fg, run.font, run.underline, run.shaping⟩
  if isAscii run.text then
    run.text.toList.zipIdx.map fun entry => glyph (run.startCol + entry.2) [entry.1]
  else [glyph run.startCol run.text.toList]

/-- An ASCII run is as wide as its text is long. -/
def TextRun.Fits (run : TextRun Color) : Prop :=
  isAscii run.text → run.text.length = run.widthCols

theorem isAscii_append (text other : String) :
    isAscii (text ++ other) = (isAscii text && isAscii other) := by
  simp [isAscii, String.toList_append]

theorem TextRun.Joins.isAscii_join {previous run : TextRun Color} (joins : previous.Joins run) :
    isAscii (previous.join run).text := by
  obtain ⟨_, _, _, _, _, first, second⟩ := joins
  rw [TextRun.join, isAscii_append, first, second]
  rfl

theorem TextRun.Joins.fits {previous run : TextRun Color} (joins : previous.Joins run)
    (fits : previous.Fits) (runFits : run.Fits) : (previous.join run).Fits := by
  intro _
  obtain ⟨_, _, _, _, _, first, second⟩ := joins
  simp only [TextRun.join, String.length_append]
  rw [fits first, runFits second]

theorem TextRun.Joins.glyphs_join {previous run : TextRun Color} (joins : previous.Joins run)
    (fits : previous.Fits) : (previous.join run).glyphs = previous.glyphs ++ run.glyphs := by
  have ascii := joins.isAscii_join
  obtain ⟨touches, sameFg, sameFont, sameUnderline, sameShaping, first, second⟩ := joins
  have width := fits first
  rw [TextRun.glyphs, if_pos ascii, TextRun.glyphs, if_pos first, TextRun.glyphs, if_pos second]
  simp only [TextRun.join, String.toList_append, List.zipIdx_append, List.map_append, sameFg,
    sameFont, sameUnderline, sameShaping]
  congr 1
  rw [Nat.zero_add, List.zipIdx_eq_map_add, List.map_map]
  refine List.map_congr_left fun entry _ => ?_
  have start : previous.startCol + (previous.text.toList.length + entry.2) =
      run.startCol + entry.2 := by
    rw [← touches, ← width, String.length_toList]
    omega
  simp only [Function.comp_apply, start]

/-- The runs so far: none of them continues the one before it. -/
def Separate (runs : List (TextRun Color)) : Prop :=
  runs.IsChain fun previous run => ¬ previous.Joins run

theorem separate_concat {runs : List (TextRun Color)} {run : TextRun Color}
    (separate : Separate runs) (apart : ∀ last ∈ runs.getLast?, ¬ last.Joins run) :
    Separate (runs ++ [run]) := by
  refine List.isChain_append.mpr ⟨separate, .singleton _, fun last isLast first isFirst => ?_⟩
  simp only [List.head?_cons, Option.mem_some_iff] at isFirst
  exact isFirst ▸ apart last isLast

/-- A run that grew still does not continue the one before it. -/
theorem not_joins_join {earlier previous run : TextRun Color} (joins : previous.Joins run)
    (apart : ¬ earlier.Joins previous) : ¬ earlier.Joins (previous.join run) := by
  obtain ⟨_, _, _, _, _, first, _⟩ := joins
  intro continued
  obtain ⟨touches, sameFg, sameFont, sameUnderline, sameShaping, ascii, _⟩ := continued
  exact apart ⟨touches, sameFg, sameFont, sameUnderline, sameShaping, ascii, first⟩

/-- The ASCII cells that are drawn are as wide as their text is long. -/
def RowFits (row : Row) : Prop :=
  ∀ cell ∈ row, drawsText cell → isAscii cell.text →
    cell.text.length = max cell.displayWidth.toNat 1

theorem fits_of_rowFits {row : Row} (fits : RowFits row) {keeps : CellSnapshot → Bool}
    (draws : ∀ cell, keeps cell → drawsText cell) {families : List String}
    {fg : CellSnapshot → Color} {col : Nat} {run : TextRun Color}
    (drawn : (row[col]?.filter keeps).map (cellRun families fg col) = some run) : run.Fits := by
  obtain ⟨cell, held, rfl⟩ := Option.map_eq_some_iff.mp drawn
  obtain ⟨at_col, kept⟩ := Option.filter_eq_some_iff.mp held
  exact fits cell (List.mem_of_getElem? at_col) (draws cell kept)

variable [DecidableEq Color]

/-- What the loop keeps, by its step: the glyphs of the pieces, and runs as long as can be. -/
theorem pushRun_glyphs {runs : List (TextRun Color)} {run : TextRun Color}
    (fits : ∀ other ∈ runs, other.Fits) (runFits : run.Fits) (separate : Separate runs) :
    (pushRun runs run).flatMap TextRun.glyphs = runs.flatMap TextRun.glyphs ++ run.glyphs ∧
      (∀ other ∈ pushRun runs run, other.Fits) ∧ Separate (pushRun runs run) := by
  have added (apart : ∀ last ∈ runs.getLast?, ¬ last.Joins run) :
      (runs ++ [run]).flatMap TextRun.glyphs = runs.flatMap TextRun.glyphs ++ run.glyphs ∧
        (∀ other ∈ runs ++ [run], other.Fits) ∧ Separate (runs ++ [run]) := by
    refine ⟨by simp, fun other member => ?_, separate_concat separate apart⟩
    rcases List.mem_append.mp member with early | late
    · exact fits other early
    · rw [List.mem_singleton.mp late]
      exact runFits
  rw [pushRun]
  rcases List.eq_nil_or_concat runs with rfl | ⟨before, previous, rfl⟩
  · exact added (by simp)
  · rw [List.concat_eq_append] at fits separate added ⊢
    rw [List.getLast?_concat]
    dsimp only
    split
    · rename_i joins
      rw [List.dropLast_concat]
      obtain ⟨early, _, joint⟩ := List.isChain_append.mp separate
      have previousFits := fits previous (by simp)
      refine ⟨?_, fun other member => ?_, ?_⟩
      · simp only [List.flatMap_append, List.flatMap_singleton, joins.glyphs_join previousFits,
          List.append_assoc]
      · rcases List.mem_append.mp member with before | last
        · exact fits other (List.mem_append_left _ before)
        · rw [List.mem_singleton.mp last]
          exact joins.fits previousFits runFits
      · refine separate_concat early fun last isLast => ?_
        exact not_joins_join joins (joint last isLast previous (by simp))
    · rename_i apart
      refine added fun last isLast => ?_
      rw [List.getLast?_concat, Option.mem_some_iff] at isLast
      exact isLast ▸ apart

theorem buildRuns_glyphs {piece : Nat → Option (TextRun Color)} {cols : Nat}
    (fits : ∀ col run, piece col = some run → run.Fits) :
    (buildRuns piece cols).flatMap TextRun.glyphs =
        ((List.range cols).filterMap piece).flatMap TextRun.glyphs ∧
      Separate (buildRuns piece cols) := by
  have run (pieces : List (TextRun Color)) (allFit : ∀ run ∈ pieces, run.Fits)
      (runs : List (TextRun Color)) (runsFit : ∀ run ∈ runs, run.Fits) (separate : Separate runs) :
      (pieces.foldl pushRun runs).flatMap TextRun.glyphs =
          runs.flatMap TextRun.glyphs ++ pieces.flatMap TextRun.glyphs ∧
        Separate (pieces.foldl pushRun runs) := by
    induction pieces generalizing runs with
    | nil => exact ⟨by simp, separate⟩
    | cons piece pieces ih =>
        obtain ⟨glyphs, grown, apart⟩ :=
          pushRun_glyphs runsFit (allFit piece List.mem_cons_self) separate
        obtain ⟨all, last⟩ := ih (fun run member => allFit run (List.mem_cons_of_mem _ member))
          (pushRun runs piece) grown apart
        refine ⟨?_, last⟩
        rw [List.foldl_cons, all, glyphs, List.flatMap_cons, List.append_assoc]
  have whole := run ((List.range cols).filterMap piece)
    (fun other member => by
      obtain ⟨col, _, same⟩ := List.mem_filterMap.mp member
      exact fits col other same) [] (by simp) .nil
  rwa [List.flatMap_nil, List.nil_append] at whole

variable {Alpha : Type} (inks : Inks Alpha Color)

/-- Drawing the runs of a row, or of what is selected of it, puts every character at the column
and in the style that drawing cell by cell would, and no run could have been continued. -/
theorem textRuns_place {row : Row} (fits : RowFits row) (cols : Nat) (families : List String)
    (urlColor : Option Color) (selectionForeground : Color) (isSelected : Nat → UInt8 → Bool) :
    ((buildTextRuns inks row cols families urlColor).flatMap TextRun.glyphs =
        ((List.range cols).filterMap (textPiece inks row families urlColor)).flatMap
          TextRun.glyphs ∧
      Separate (buildTextRuns inks row cols families urlColor)) ∧
    ((buildSelectionTextRuns row cols families selectionForeground isSelected).flatMap
        TextRun.glyphs =
        ((List.range cols).filterMap
          (selectionPiece row families selectionForeground isSelected)).flatMap TextRun.glyphs ∧
      Separate (buildSelectionTextRuns row cols families selectionForeground isSelected)) :=
  ⟨buildRuns_glyphs fun _ _ drawn => fits_of_rowFits fits (fun _ draws => draws) drawn,
    buildRuns_glyphs fun _ _ drawn => fits_of_rowFits fits (fun _ selected =>
      ((Bool.and_eq_true _ _).mp selected).1) drawn⟩

/-- Colors as bytes, for a run. -/
def plainInks : Inks Unit UInt8 := ⟨fun color _ => color.r, ()⟩

/-- A command, a blank cell, an underlined space and a wide character. -/
def wordAndWide : Row :=
  [{ text := "l", displayWidth := 1 }, { text := "s", displayWidth := 1 },
    { text := "", displayWidth := 0 }, { text := " ", displayWidth := 1, underline := 1 },
    { text := "漢", displayWidth := 2 }, { text := "", displayWidth := 0 }]

theorem textRuns_place_wordAndWide :
    ((buildTextRuns plainInks wordAndWide 6 [] none).flatMap TextRun.glyphs =
        ((List.range 6).filterMap (textPiece plainInks wordAndWide [] none)).flatMap
          TextRun.glyphs ∧
      Separate (buildTextRuns plainInks wordAndWide 6 [] none)) ∧
    ((buildSelectionTextRuns wordAndWide 6 [] (0 : UInt8) fun col _ => col < 4).flatMap
        TextRun.glyphs =
        ((List.range 6).filterMap
          (selectionPiece wordAndWide [] (0 : UInt8) fun col _ => col < 4)).flatMap TextRun.glyphs ∧
      Separate (buildSelectionTextRuns wordAndWide 6 [] (0 : UInt8) fun col _ => col < 4)) :=
  have fits : RowFits wordAndWide := fun cell member => by
    simp only [wordAndWide, List.mem_cons, List.not_mem_nil, or_false] at member
    rcases member with rfl | rfl | rfl | rfl | rfl | rfl <;> decide
  textRuns_place plainInks fits 6 [] none 0 fun col _ => col < 4

end Placing

end Boo.Client.RowRuns
