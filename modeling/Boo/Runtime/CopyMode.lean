/- module: Boo/Runtime/CopyMode
   digest: Copy mode: its cursor, marks and selection, and what each of its actions does. -/

import Boo.Runtime.CopiedRegion
import Boo.Runtime.KeyBindings
import Boo.Runtime.WordMotion

set_option autoImplicit false
set_option relaxedAutoImplicit false

namespace Boo.Runtime.CopyMode

open Boo.Lib.TextLines
open Boo.Client.Snapshot
open Boo.Runtime.CopiedRegion
open Boo.Runtime.CopySelection
open Boo.Runtime.KeyBindings
open Boo.Runtime.SelectionText
open Boo.Runtime.WordMotion

inductive JumpKind
  | forward
  | backward
  | toForward
  | toBackward
  deriving DecidableEq

/-- The state of copy mode without its layers; rows are rows of the scrollback. -/
structure CopyModeState where
  cursor : Spot
  selection : SelectionMode := .none
  selAnchor : Option Spot := none
  viewportRows : ℕ
  viewportCols : ℕ
  mark : Option Spot := none
  lastJump : Option (Char × JumpKind) := none
  lastSearchForward : Bool := true
  pendingJump : Option JumpKind := none
  showPosition : Bool := false
  deriving DecidableEq

structure Scrollbar where
  total : ℕ
  offset : ℕ
  len : ℕ
  deriving DecidableEq

/-- What copy mode asks of the backend and of the rest of the program. -/
inductive CopyEffect
  | scrollToTop
  | scrollToBottom
  | scrollPageUp
  | scrollPageDown
  | scrollPageLines (lines : ℤ)
  | navigateSearch (next : Bool)
  | openSearch (query : Text)
  | copy (request : Selection)
  | appendCopy (request : Selection)
  | openPrompt
  | leave

/-- The backend keeps the viewport inside the scrollback. -/
def Scrollbar.scrollBy (bar : Scrollbar) (lines : ℤ) : Scrollbar :=
  { bar with offset := (max 0 (min ((bar.total - bar.len : ℕ) : ℤ) (bar.offset + lines))).toNat }

/-- A page of the backend is one row short of the viewport. -/
def Scrollbar.page (bar : Scrollbar) : ℕ := max (bar.len - 1) 1

/-- What `binding_action` does to the viewport. Leaving copy mode scrolls to the bottom. -/
def Scrollbar.apply (bar : Scrollbar) : CopyEffect → Scrollbar
  | .scrollToTop => { bar with offset := 0 }
  | .scrollToBottom | .leave => { bar with offset := bar.total - bar.len }
  | .scrollPageUp => bar.scrollBy (-bar.page)
  | .scrollPageDown => bar.scrollBy bar.page
  | .scrollPageLines lines => bar.scrollBy lines
  | _ => bar

/-- What copy mode reads: the scrollbar, and what the backend shows of the focused pane. -/
structure PaneView (Style : Type) where
  scrollbar : Scrollbar
  snapshot : Option (TerminalSnapshot Style)

section Actions

-- `char::is_alphanumeric` is the parameter.
variable {Style : Type} (isAlphanumeric : Char → Bool) (view : PaneView Style)

def readViewportLine (cm : CopyModeState) (row : ℕ) : Option Text :=
  view.snapshot.map fun snapshot =>
    selectionText snapshot ⟨⟨0, row⟩, ⟨cm.viewportCols - 1, row⟩, false⟩

def readViewportLineForCursor (cm : CopyModeState) : Option Text :=
  readViewportLine view cm (viewportRow cm.cursor.row view.scrollbar.offset)

def copyModeEnsureVisible (cm : CopyModeState) : List CopyEffect :=
  let row := cm.cursor.row - view.scrollbar.offset
  if row < 0 then [.scrollPageLines row]
  else if cm.viewportRows ≤ row then [.scrollPageLines (row - cm.viewportRows + 1)]
  else []

def CopyModeState.atCol (cm : CopyModeState) (col : ℕ) : CopyModeState :=
  { cm with cursor := ⟨cm.cursor.row, col⟩ }

def CopyModeState.atRow (cm : CopyModeState) (row : ℤ) : CopyModeState :=
  { cm with cursor := ⟨row, cm.cursor.col⟩ }

def copyModeMove (cm : CopyModeState) : CopyDirection → CopyModeState
  | .up => cm.atRow (cm.cursor.row - 1)
  | .down => cm.atRow (cm.cursor.row + 1)
  | .left => cm.atCol (cm.cursor.col - 1)
  | .right => cm.atCol (min (cm.cursor.col + 1) (cm.viewportCols - 1))

def copyModeWordMove (cm : CopyModeState) (kind : WordMoveKind) :
    Option (CopyModeState × List CopyEffect) :=
  match readViewportLineForCursor view cm with
  | none => some (cm, [])
  | some line => (wordMove isAlphanumeric kind line cm.cursor.col).map fun col =>
      (cm.atCol col, copyModeEnsureVisible view (cm.atCol col))

def copyModeFirstNonBlank (cm : CopyModeState) : CopyModeState :=
  match readViewportLineForCursor view cm with
  | none => cm
  | some line => cm.atCol ((line.findIdx? fun c => !isWhitespace c).getD 0)

/-- The column that a jump to a character reaches. -/
def jumpColumn (target : Char) (chars : List Char) (col : ℕ) : JumpKind → Option ℕ
  | .forward => firstFrom
  | .backward => lastBefore
  | .toForward => firstFrom.map fun i => max (i - 1) (col + 1)
  | .toBackward => lastBefore.map fun i => min (i + 1) (col - 1)
where
  firstFrom := ((chars.drop (col + 1)).findIdx? fun c => c = target).map (· + (col + 1))
  lastBefore := ((List.range (min col chars.length)).reverse).find? fun i => chars[i]? = some target

def copyModeExecuteJump (cm : CopyModeState) (target : Char) (kind : JumpKind) : CopyModeState :=
  match readViewportLineForCursor view cm with
  | none => cm
  | some line => cm.atCol ((jumpColumn target line cm.cursor.col kind).getD cm.cursor.col)

def JumpKind.reversed : JumpKind → JumpKind
  | forward => backward
  | backward => forward
  | toForward => toBackward
  | toBackward => toForward

def copyModeJumpRepeat (cm : CopyModeState) (reverse : Bool) : CopyModeState :=
  match cm.lastJump with
  | none => cm
  | some (target, kind) =>
      copyModeExecuteJump view cm target (if reverse then kind.reversed else kind)

/-- The first of some rows whose line is blank, unless an earlier one cannot be read. -/
def firstBlankRow (cm : CopyModeState) : List ℤ → Option ℤ
  | [] => none
  | row :: rows =>
      match readViewportLine view cm (viewportRow row view.scrollbar.offset) with
      | none => none
      | some line => if (trim line).isEmpty then some row else firstBlankRow cm rows

def copyModeParagraph (cm : CopyModeState) (forward : Bool) : CopyModeState :=
  let rows :=
    if forward then rowsBetween (cm.cursor.row + 1) (view.scrollbar.total + 1)
    else (rowsBetween 0 cm.cursor.row).reverse
  match firstBlankRow view cm rows with
  | none => cm
  | some row => { cm with cursor := ⟨row, 0⟩ }

def brackets : List (Char × Char) := [('(', ')'), ('[', ']'), (Char.ofNat 123, Char.ofNat 125)]

/-- The bracket pair of a character, and whether it opens. -/
def bracketOf (ch : Char) : Option (Char × Char × Bool) :=
  brackets.findSome? fun (opening, closing) =>
    if ch = opening then some (opening, closing, true)
    else if ch = closing then some (opening, closing, false)
    else none

/-- The first place at which as many closing as opening brackets have been met. -/
def balancedAt (opening closing : Char) (depth : ℤ) : List (Char × ℕ) → Option ℕ
  | [] => none
  | (ch, i) :: rest =>
      let depth := if ch = opening then depth + 1 else depth
      let depth := if ch = closing then depth - 1 else depth
      if depth = 0 then some i else balancedAt opening closing depth rest

def matchingColumn (chars : List Char) (col : ℕ) : Option ℕ :=
  (((chars.zipIdx).drop col).findSome? fun (ch, i) => (bracketOf ch).map (i, ·)).bind
    fun (pos, opening, closing, opens) =>
      if opens then balancedAt opening closing 0 ((chars.zipIdx).drop pos)
      else balancedAt closing opening 0 ((chars.zipIdx).take (pos + 1)).reverse

def copyModeMatchingBracket (cm : CopyModeState) : CopyModeState :=
  match readViewportLineForCursor view cm with
  | none => cm
  | some line => cm.atCol ((matchingColumn line cm.cursor.col).getD cm.cursor.col)

def copyModeWordUnderCursor (cm : CopyModeState) : Option Text :=
  (readViewportLineForCursor view cm).bind fun chars =>
    if (chars[cm.cursor.col]?).any (isWord isAlphanumeric false) then
      (skipToFirst (isWord isAlphanumeric false) chars cm.cursor.col).map fun start =>
        (chars.take (skipToLast (isWord isAlphanumeric false) chars cm.cursor.col + 1)).drop start
    else none

def copyModeSearchWord (cm : CopyModeState) (forward : Bool) : CopyModeState × List CopyEffect :=
  match copyModeWordUnderCursor isAlphanumeric view cm with
  | none => (cm, [])
  | some word => ({ cm with lastSearchForward := forward },
      [.openSearch word, .navigateSearch forward])

/-- Selecting in a mode ends a selection in that mode. -/
def CopyModeState.startSelect (cm : CopyModeState) (mode : SelectionMode) : CopyModeState :=
  if cm.selection = mode then { cm with selection := .none, selAnchor := none }
  else { cm with
    selection := mode
    selAnchor := if mode = .rectangle then cm.selAnchor.or (some cm.cursor) else some cm.cursor }

/-- What a copy action asks for, if there is an anchor. -/
def copyModeRequest (cm : CopyModeState) : Option Selection :=
  cm.selAnchor.map fun anchor =>
    copyRequest cm.selection cm.cursor anchor view.scrollbar.offset cm.viewportCols

def isJump : CopyModeAction → Bool
  | .jumpForward | .jumpBackward | .jumpToForward | .jumpToBackward => true
  | _ => false

/-- An action in copy mode; `none` is a panic. -/
def actInCopyMode (cm : CopyModeState) (action : CopyModeAction) :
    Option (Option CopyModeState × List CopyEffect) :=
  let offset := view.scrollbar.offset
  let stay (cm : CopyModeState) := some (some cm, ([] : List CopyEffect))
  let show' (cm : CopyModeState) := some (some cm, copyModeEnsureVisible view cm)
  let moveWord (kind : WordMoveKind) := (copyModeWordMove isAlphanumeric view cm kind).map
    fun (cm, effects) => (some cm, effects)
  let searchWord (forward : Bool) :=
    let (cm, effects) := copyModeSearchWord isAlphanumeric view cm forward
    some (some cm, effects)
  match action with
  | .move direction => show' (copyModeMove cm direction)
  | .wordNext => moveWord .nextWord
  | .wordBack => moveWord .prevWord
  | .wordEnd => moveWord .endWord
  | .bigWordNext => moveWord .nextBigWord
  | .bigWordBack => moveWord .prevBigWord
  | .bigWordEnd => moveWord .endBigWord
  | .lineStart => stay (cm.atCol 0)
  | .lineEnd => stay (cm.atCol (cm.viewportCols - 1))
  | .firstNonBlank => stay (copyModeFirstNonBlank view cm)
  | .screenTop => stay { cm with cursor := ⟨offset, 0⟩ }
  | .screenMiddle => stay { cm with cursor := ⟨offset + cm.viewportRows / 2, 0⟩ }
  | .screenBottom => stay { cm with cursor := ⟨offset + cm.viewportRows - 1, 0⟩ }
  | .historyTop => some (some { cm with cursor := ⟨0, 0⟩ }, [.scrollToTop])
  | .historyBottom =>
      some (some { cm with cursor := ⟨view.scrollbar.total, 0⟩ }, [.scrollToBottom])
  | .pageUp => some (some (cm.atRow (cm.cursor.row - cm.viewportRows)), [.scrollPageUp])
  | .pageDown => some (some (cm.atRow (cm.cursor.row + cm.viewportRows)), [.scrollPageDown])
  | .halfPageUp => show' (cm.atRow (cm.cursor.row - (cm.viewportRows / 2 : ℕ)))
  | .halfPageDown => show' (cm.atRow (cm.cursor.row + (cm.viewportRows / 2 : ℕ)))
  | .scrollUp => some (some cm, [.scrollPageLines (-1)])
  | .scrollDown => some (some cm, [.scrollPageLines 1])
  | .scrollMiddle =>
      let lines := max (cm.cursor.row - (cm.viewportRows / 2 : ℕ)) 0 - offset
      some (some cm, if lines = 0 then [] else [.scrollPageLines lines])
  | .startCharSelect => stay (cm.startSelect .char)
  | .startLineSelect => stay (cm.startSelect .line)
  | .startRectSelect => stay (cm.startSelect .rectangle)
  | .clearSelection =>
      if cm.selection = .none then some (none, [.leave])
      else stay { cm with selection := .none, selAnchor := none }
  | .swapAnchor =>
      match cm.selAnchor with
      | none => show' cm
      | some anchor => show' { cm with cursor := anchor, selAnchor := some cm.cursor }
  | .jumpForward => stay { cm with pendingJump := some .forward }
  | .jumpBackward => stay { cm with pendingJump := some .backward }
  | .jumpToForward => stay { cm with pendingJump := some .toForward }
  | .jumpToBackward => stay { cm with pendingJump := some .toBackward }
  | .jumpAgain => stay (copyModeJumpRepeat view cm false)
  | .jumpReverse => stay (copyModeJumpRepeat view cm true)
  | .nextParagraph => show' (copyModeParagraph view cm true)
  | .previousParagraph => show' (copyModeParagraph view cm false)
  | .matchingBracket => stay (copyModeMatchingBracket view cm)
  | .setMark => stay { cm with mark := some cm.cursor }
  | .jumpToMark => show' { cm with cursor := cm.mark.getD cm.cursor }
  | .searchForward => some (some { cm with lastSearchForward := true }, [.openSearch []])
  | .searchBackward => some (some { cm with lastSearchForward := false }, [.openSearch []])
  | .searchAgain => some (some cm, [.navigateSearch cm.lastSearchForward])
  | .searchReverse => some (some cm, [.navigateSearch !cm.lastSearchForward])
  | .searchWordForward => searchWord true
  | .searchWordBackward => searchWord false
  | .copyAndExit => some (none, (copyModeRequest view cm).toList.map .copy ++ [.leave])
  | .copyToEndOfLine =>
      let selected := { cm with
        selection := .char
        selAnchor := some cm.cursor
        cursor := ⟨cm.cursor.row, cm.viewportCols - 1⟩ }
      some (none, (copyModeRequest view selected).toList.map .copy ++ [.leave])
  | .appendAndCancel => some (none, (copyModeRequest view cm).toList.map .appendCopy ++ [.leave])
  | .openPrompt => some (some cm, [.openPrompt])
  | .refreshFromPane => stay cm
  | .togglePosition => stay { cm with showPosition := !cm.showPosition }
  | .exit => some (none, [.leave])

/-- Without the state of copy mode the actions still reach the backend and the program. -/
def actOutside : CopyModeAction → List CopyEffect
  | .historyTop => [.scrollToTop]
  | .historyBottom => [.scrollToBottom]
  | .pageUp => [.scrollPageUp]
  | .pageDown => [.scrollPageDown]
  | .scrollUp => [.scrollPageLines (-1)]
  | .scrollDown => [.scrollPageLines 1]
  | .searchForward | .searchBackward => [.openSearch []]
  | .searchAgain => [.navigateSearch true]
  | .searchReverse => [.navigateSearch false]
  | .copyAndExit | .copyToEndOfLine | .appendAndCancel | .exit => [.leave]
  | .openPrompt => [.openPrompt]
  | _ => []

/-- `dispatch_copy_mode_action`: a pending jump is given up unless the action is a jump. -/
def dispatchCopyModeAction (copyMode : Option CopyModeState) (action : CopyModeAction) :
    Option (Option CopyModeState × List CopyEffect) :=
  match copyMode with
  | none => some (none, actOutside action)
  | some cm =>
      actInCopyMode isAlphanumeric view
        (if isJump action then cm else { cm with pendingJump := none }) action

end Actions

section Entry

/-- The cells and the window, in points. -/
structure Geometry where
  cellWidth : ℚ
  cellHeight : ℚ
  windowHeight : ℚ
  statusBarHeight : ℚ
  frameWidth : ℚ

/-- What tells where the cursor of the focused pane is; the point of a native surface goes first. -/
structure FocusedPane (Style : Type) where
  hasSurface : Bool
  imePoint : Option (ℚ × ℚ × ℚ × ℚ)
  snapshot : Option (TerminalSnapshot Style)

/-- `as u32`, which cuts off the fraction and saturates. -/
def asU32 (value : ℚ) : ℕ := min ⌊value⌋.toNat (2 ^ 32 - 1)

/-- `as i64`. -/
def asI64 (value : ℚ) : ℤ :=
  max (-2 ^ 63) (min (2 ^ 63 - 1) (if 0 ≤ value then ⌊value⌋ else ⌈value⌉))

def Geometry.viewportRows (geometry : Geometry) (cellHeight : ℚ) : ℕ :=
  if 0 < cellHeight then asU32 ((geometry.windowHeight - geometry.statusBarHeight) / cellHeight)
  else 24

def Geometry.viewportCols (geometry : Geometry) : ℕ :=
  if 0 < geometry.cellWidth then asU32 (geometry.frameWidth / geometry.cellWidth) else 80

variable {Style : Type} (geometry : Geometry) (bar : Scrollbar) (pane : FocusedPane Style)

/-- Column, row and cell height as the surface tells them: the row is one of the viewport. -/
def surfaceCursorCell : Option (ℕ × ℤ × ℚ) :=
  if pane.hasSurface then pane.imePoint.map fun (x, y, _, h) =>
    let cellHeight := if 0 < h then h else geometry.cellHeight
    (if 0 < geometry.cellWidth then asU32 (x / geometry.cellWidth) else 0,
      if 0 < cellHeight then asI64 ((y - cellHeight) / cellHeight) else 0, cellHeight)
  else none

/-- Without a point of the surface the row is one of the scrollback. -/
def focusedCursorCellPosition : Option (ℕ × ℤ × ℚ) :=
  (surfaceCursorCell geometry pane).or (pane.snapshot.map fun snapshot =>
    (snapshot.cursor.x.toNat, bar.offset + snapshot.cursor.y.toNat, geometry.cellHeight))

/-- `enter_copy_mode`, which does nothing where the cursor is unknown. -/
def enterCopyMode : Option CopyModeState :=
  (focusedCursorCellPosition geometry bar pane).map fun (col, row, cellHeight) =>
    { cursor := ⟨bar.offset + row, col⟩
      viewportRows := geometry.viewportRows cellHeight
      viewportCols := geometry.viewportCols }

end Entry

end Boo.Runtime.CopyMode
