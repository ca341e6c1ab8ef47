/- module: Boo/Server/WireAdapters
   digest: The two conversions of a pane's snapshot into a full state, and when they agree. -/

import Boo.Client.Snapshot

set_option autoImplicit false
set_option relaxedAutoImplicit false

namespace Boo.Server.WireAdapters

open Boo.Wire.Message
open Boo.Client.Snapshot

structure GhosttyTerminalScrollbar where
  total : UInt64
  offset : UInt64
  deriving DecidableEq

/-- The server's snapshot, which also has the scrollbar that the GUI client never reads. -/
structure VtSnapshot (Style : Type) extends TerminalSnapshot Style where
  scrollbar : GhosttyTerminalScrollbar
  deriving DecidableEq

structure UiCursorSnapshot where
  visible : Bool
  blinking : Bool
  x : UInt16
  y : UInt16
  style : Int32
  deriving DecidableEq

structure UiTerminalCellSnapshot where
  text : String
  displayWidth : UInt8
  fg : RgbColor
  bg : RgbColor
  bgIsDefault : Bool
  bold : Bool
  italic : Bool
  underline : Int32
  hyperlink : Bool
  deriving DecidableEq

structure UiTerminalRowSnapshot where
  cells : List UiTerminalCellSnapshot
  deriving DecidableEq

structure UiTerminalSnapshot where
  cols : UInt16
  rows : UInt16
  title : String
  pwd : String
  cursor : UiCursorSnapshot
  rowsData : List UiTerminalRowSnapshot
  deriving DecidableEq

def black : RgbColor := ⟨0, 0, 0⟩

/-- `text.chars().next().map(u32::from).unwrap_or(0)`. -/
def firstCodepoint (text : String) : UInt32 :=
  match text.toList with
  | [] => 0
  | c :: _ => c.val

/-- The `style_flags |= ..` statements, which both adapters write out. -/
def styleFlags (bold italic hyperlink explicitFg explicitBg : Bool) : UInt8 :=
  (if bold then remoteStyleFlagBold else 0) |||
    (if italic then remoteStyleFlagItalic else 0) |||
    (if hyperlink then remoteStyleFlagHyperlink else 0) |||
    (if explicitFg then remoteStyleFlagExplicitFg else 0) |||
    (if explicitBg then remoteStyleFlagExplicitBg else 0)

def cellFromUi (cell : UiTerminalCellSnapshot) : RemoteCell where
  codepoint := firstCodepoint cell.text
  fg := cell.fg
  bg := cell.bg
  styleFlags := styleFlags cell.bold cell.italic cell.hyperlink (cell.fg != black) (!cell.bgIsDefault)
  wide := 1 < cell.displayWidth

def fullStateFromUi (snapshot : UiTerminalSnapshot) : RemoteFullState where
  epoch := 0
  viewportTop := 0
  scrollbackTotal := snapshot.rows.toUInt64
  rows := snapshot.rows
  cols := snapshot.cols
  cursorX := snapshot.cursor.x
  cursorY := snapshot.cursor.y
  cursorVisible := snapshot.cursor.visible
  cursorBlinking := snapshot.cursor.blinking
  cursorStyle := snapshot.cursor.style
  cells := (snapshot.rowsData.flatMap UiTerminalRowSnapshot.cells).map cellFromUi

def cellFromTerminal (foreground : RgbColor) (cell : CellSnapshot) : RemoteCell where
  codepoint := firstCodepoint cell.text
  fg := cell.fg
  bg := cell.bg
  styleFlags :=
    styleFlags cell.bold cell.italic cell.hyperlink (cell.fg != foreground) (!cell.bgIsDefault)
  wide := 1 < cell.displayWidth

def uiTerminalCell (cell : CellSnapshot) : UiTerminalCellSnapshot where
  text := cell.text
  displayWidth := cell.displayWidth
  fg := cell.fg
  bg := cell.bg
  bgIsDefault := cell.bgIsDefault
  bold := cell.bold
  italic := cell.italic
  underline := cell.underline
  hyperlink := cell.hyperlink

section Adapters

variable {Style : Type} (raw : Style → Int32)

def fullStateFromTerminal (snapshot : VtSnapshot Style) : RemoteFullState where
  epoch := 0
  viewportTop := snapshot.scrollbar.offset
  scrollbackTotal := snapshot.scrollbar.total
  rows := snapshot.rows
  cols := snapshot.cols
  cursorX := snapshot.cursor.x
  cursorY := snapshot.cursor.y
  cursorVisible := snapshot.cursor.visible
  cursorBlinking := snapshot.cursor.blinking
  cursorStyle := raw snapshot.cursor.style
  cells := snapshot.rowsData.flatten.map (cellFromTerminal snapshot.colors.foreground)

def uiTerminalSnapshot (snapshot : VtSnapshot Style) : UiTerminalSnapshot where
  cols := snapshot.cols
  rows := snapshot.rows
  title := snapshot.title
  pwd := snapshot.pwd
  cursor := {
    visible := snapshot.cursor.visible
    blinking := snapshot.cursor.blinking
    x := snapshot.cursor.x
    y := snapshot.cursor.y
    style := raw snapshot.cursor.style }
  rowsData := snapshot.rowsData.map fun row => ⟨row.map uiTerminalCell⟩

/-- The full state of a pane before its rows are recorded, from the backend's two replies. -/
def fullStateForPane (rendered : Option (VtSnapshot Style)) (ui : Option UiTerminalSnapshot) :
    Option RemoteFullState :=
  match rendered with
  | some snapshot => some (fullStateFromTerminal raw snapshot)
  | none => ui.map fullStateFromUi

end Adapters

/-- All that a client draws: the dimensions, the cells and the cursor. -/
structure SameScreen (one other : RemoteFullState) : Prop where
  rows : one.rows = other.rows
  cols : one.cols = other.cols
  cells : one.cells = other.cells
  cursorX : one.cursorX = other.cursorX
  cursorY : one.cursorY = other.cursorY
  cursorVisible : one.cursorVisible = other.cursorVisible
  cursorBlinking : one.cursorBlinking = other.cursorBlinking
  cursorStyle : one.cursorStyle = other.cursorStyle

/-- The five flags stand on bits of their own, so the foreground's can be read back. -/
theorem styleFlags_explicitFg (bold italic hyperlink explicitFg explicitBg : Bool) :
    (styleFlags bold italic hyperlink explicitFg explicitBg &&& remoteStyleFlagExplicitFg != 0) =
      explicitFg := by
  cases bold <;> cases italic <;> cases hyperlink <;> cases explicitFg <;> cases explicitBg <;> rfl

theorem styleFlags_eq_iff {bold italic hyperlink explicitBg one other : Bool} :
    styleFlags bold italic hyperlink one explicitBg =
      styleFlags bold italic hyperlink other explicitBg ↔ one = other := by
  constructor
  · intro same
    have flag := congrArg (fun flags => flags &&& remoteStyleFlagExplicitFg != 0) same
    simpa only [styleFlags_explicitFg] using flag
  · intro same
    rw [same]

/-- The conversions of one cell differ in the explicit-foreground flag only. -/
theorem cellFromUi_eq_iff (foreground : RgbColor) (cell : CellSnapshot) :
    cellFromUi (uiTerminalCell cell) = cellFromTerminal foreground cell ↔
      (cell.fg = black ↔ cell.fg = foreground) := by
  have flagsOnly : cellFromUi (uiTerminalCell cell) = cellFromTerminal foreground cell ↔
      (cell.fg != black) = (cell.fg != foreground) := by
    constructor
    · intro same
      have flags := congrArg RemoteCell.styleFlags same
      exact styleFlags_eq_iff.mp flags
    · intro same
      simp only [cellFromUi, cellFromTerminal, uiTerminalCell, same]
      rfl
  rw [flagsOnly, Bool.eq_iff_iff, bne_iff_ne, bne_iff_ne, not_iff_not]

section Agreement

variable {Style : Type} (raw : Style → Int32)

/-- The intermediate form keeps every cell, in order. -/
theorem cells_uiTerminalSnapshot (snapshot : VtSnapshot Style) :
    (uiTerminalSnapshot raw snapshot).rowsData.flatMap UiTerminalRowSnapshot.cells =
      snapshot.rowsData.flatten.map uiTerminalCell := by
  simp only [uiTerminalSnapshot, List.flatMap_def, List.map_flatten, List.map_map]
  rfl

theorem cells_fullStateFromUi (snapshot : VtSnapshot Style) :
    (fullStateFromUi (uiTerminalSnapshot raw snapshot)).cells =
      snapshot.rowsData.flatten.map (fun cell => cellFromUi (uiTerminalCell cell)) := by
  have kept := cells_uiTerminalSnapshot raw snapshot
  simp only [fullStateFromUi, kept, List.map_map, Function.comp_def]

/-- Everything but the cells is copied on both paths. -/
theorem sameScreen_iff_cells (snapshot : VtSnapshot Style) :
    SameScreen (fullStateFromUi (uiTerminalSnapshot raw snapshot))
        (fullStateFromTerminal raw snapshot) ↔
      (fullStateFromUi (uiTerminalSnapshot raw snapshot)).cells =
        (fullStateFromTerminal raw snapshot).cells := by
  constructor
  · intro same
    exact same.cells
  · intro same
    exact ⟨rfl, rfl, same, rfl, rfl, rfl, rfl, rfl⟩

theorem cells_agree_iff (snapshot : VtSnapshot Style) :
    (fullStateFromUi (uiTerminalSnapshot raw snapshot)).cells =
        (fullStateFromTerminal raw snapshot).cells ↔
      ∀ row ∈ snapshot.rowsData, ∀ cell ∈ row,
        (cell.fg = black ↔ cell.fg = snapshot.colors.foreground) := by
  rw [cells_fullStateFromUi]
  simp only [fullStateFromTerminal, List.map_inj_left, cellFromUi_eq_iff]
  constructor
  · intro agree row rowMem cell cellMem
    exact agree cell (List.mem_flatten.mpr ⟨row, rowMem, cellMem⟩)
  · intro agree cell cellMem
    obtain ⟨row, rowMem, inRow⟩ := List.mem_flatten.mp cellMem
    exact agree row rowMem cell inRow

/-- The two paths agree on a snapshot exactly when black and the default foreground mark the same
cells. -/
theorem adapters_agree_iff (snapshot : VtSnapshot Style) :
    SameScreen (fullStateFromUi (uiTerminalSnapshot raw snapshot))
        (fullStateFromTerminal raw snapshot) ↔
      ∀ row ∈ snapshot.rowsData, ∀ cell ∈ row,
        (cell.fg = black ↔ cell.fg = snapshot.colors.foreground) := by
  rw [sameScreen_iff_cells]
  exact cells_agree_iff raw snapshot

/-- A pane whose colours agree is sent the same screen whichever reply the backend gave. -/
theorem fullStateForPane_agree (snapshot : VtSnapshot Style) (ui : Option UiTerminalSnapshot)
    (agree : ∀ row ∈ snapshot.rowsData, ∀ cell ∈ row,
      (cell.fg = black ↔ cell.fg = snapshot.colors.foreground)) :
    ∃ direct converted, fullStateForPane raw (some snapshot) ui = some direct ∧
      fullStateForPane raw none (some (uiTerminalSnapshot raw snapshot)) = some converted ∧
      SameScreen converted direct := by
  have same := (sameScreen_iff_cells raw snapshot).mpr ((cells_agree_iff raw snapshot).mpr agree)
  exact ⟨_, _, rfl, rfl, same⟩

end Agreement

/-- One `x` in the default colours, as the terminal reports it. -/
def plainCell : CellSnapshot := { text := "x", displayWidth := 1, fg := defaultTerminalForeground }

/-- A one-cell terminal in the default colours. -/
def plainSnapshot : VtSnapshot Unit where
  cols := 1
  rows := 1
  title := ""
  pwd := ""
  cursor := ⟨true, false, 0, 0, ()⟩
  rowsData := [[plainCell]]
  rowRevisions := [1]
  colors := ⟨defaultTerminalForeground, defaultTerminalBackground, defaultTerminalForeground, false⟩
  scrollbar := ⟨1, 0⟩

/-- The text in the default foreground is flagged as explicitly coloured on the path through the
user-interface snapshot, and is not on the direct path. -/
theorem plainSnapshot_differs :
    ¬ SameScreen (fullStateFromUi (uiTerminalSnapshot (fun _ => 0) plainSnapshot))
      (fullStateFromTerminal (fun _ => 0) plainSnapshot) := by
  intro same
  have flags : (cellFromUi (uiTerminalCell plainCell)).styleFlags =
      (cellFromTerminal defaultTerminalForeground plainCell).styleFlags := by
    have cells := same.cells
    have heads := congrArg (fun cells => cells.map RemoteCell.styleFlags) cells
    exact List.head_eq_of_cons_eq heads
  revert flags
  decide

end Boo.Server.WireAdapters
