/- module: Boo/Runtime/CopyModeBounds
   digest: Where the cursor of copy mode stands after each action: in the scrollback and in view. -/

import Boo.Lib.FirstFound
import Boo.Lib.Runs
import Boo.Runtime.CopyMode

set_option autoImplicit false
set_option relaxedAutoImplicit false

namespace Boo.Runtime.CopyModeBounds

open Boo.Lib.FirstFound
open Boo.Lib.Runs
open Boo.Lib.TextLines
open Boo.Client.Snapshot
open Boo.Runtime.CopiedRegion
open Boo.Runtime.CopyMode
open Boo.Runtime.CopySelection
open Boo.Runtime.KeyBindings
open Boo.Runtime.SelectionText
open Boo.Runtime.WordMotion

/-- The viewport shows rows of the scrollback. -/
structure WellFormed (bar : Scrollbar) : Prop where
  tall : 0 < bar.len
  inside : bar.offset + bar.len ≤ bar.total

/-- An action, and what the backend shows at the time. -/
structure CopyEvent (Style : Type) where
  action : CopyModeAction
  shown : Option (TerminalSnapshot Style)

structure CopyRun where
  scrollbar : Scrollbar
  copyMode : Option CopyModeState
  panicked : Bool

/-- The scrolls that an action asks for are applied before the next action. -/
def step {Style : Type} (isAlphanumeric : Char → Bool) (run : CopyRun) (event : CopyEvent Style) :
    CopyRun :=
  if run.panicked then run
  else
    match dispatchCopyModeAction isAlphanumeric ⟨run.scrollbar, event.shown⟩ run.copyMode
      event.action with
    | none => { run with panicked := true }
    | some (copyMode, effects) => ⟨effects.foldl Scrollbar.apply run.scrollbar, copyMode, false⟩

def isViewScroll : CopyModeAction → Bool
  | .scrollUp | .scrollDown | .scrollMiddle => true
  | _ => false

def InBuffer (bar : Scrollbar) (cm : CopyModeState) : Prop :=
  (0 ≤ cm.cursor.row ∧ cm.cursor.row < bar.total) ∧ cm.cursor.col < cm.viewportCols

def InView (bar : Scrollbar) (cm : CopyModeState) : Prop :=
  bar.offset ≤ cm.cursor.row ∧ cm.cursor.row < bar.offset + cm.viewportRows

/-- After the action copy mode, if it goes on, has its cursor in the scrollback, and in view unless
the action only scrolls. -/
def CursorKept {Style : Type} (isAlphanumeric : Char → Bool) (run : CopyRun)
    (event : CopyEvent Style) : Prop :=
  let after := step isAlphanumeric run event
  after.panicked = false ∧ ∀ cm ∈ after.copyMode,
    InBuffer after.scrollbar cm ∧ (isViewScroll event.action = false → InView after.scrollbar cm)

/-- The row belongs to the scrollback, and scrolling as far down as possible would show it. -/
def Showable (bar : Scrollbar) (cm : CopyModeState) (row : ℤ) : Prop :=
  row < bar.total ∧ row < (bar.total - bar.len : ℕ) + cm.viewportRows

/-- What a word motion needs of the line: back, the cursor is at most behind its last character;
otherwise it has no more characters than the viewport has columns, and to the end of a word, if it
has as many, not all that follows the next column is blank. -/
def WordFits (kind : WordMoveKind) (line : Text) (cm : CopyModeState) : Prop :=
  match kind with
  | .nextWord | .nextBigWord => line.length ≤ cm.viewportCols
  | .prevWord | .prevBigWord => StaysInside kind line cm.cursor.col
  | .endWord | .endBigWord => line.length ≤ cm.viewportCols ∧
      (line.length = cm.viewportCols → StaysInside kind line cm.cursor.col)

section Conditions

variable {Style : Type} (view : PaneView Style) (cm : CopyModeState)

/-- A word motion without a line to read leaves the cursor and the viewport alone. -/
def WordCondition (kind : WordMoveKind) : Prop :=
  match readViewportLineForCursor view cm with
  | none => InView view.scrollbar cm
  | some line => WordFits kind line cm

/-- The characters of the cursor's line can be counted as columns. -/
def LineFits : Prop := ∀ line ∈ readViewportLineForCursor view cm, line.length ≤ cm.viewportCols

def readsBlank (row : ℤ) : Bool :=
  (readViewportLine view cm (viewportRow row view.scrollbar.offset)).any fun line =>
    (trim line).isEmpty

/-- The state before an action under which the action keeps the cursor where it belongs. -/
def Condition (action : CopyModeAction) : Prop :=
  let bar := view.scrollbar
  let row := cm.cursor.row
  match action with
  | .move .up => 0 < row
  | .move .down => Showable bar cm (row + 1)
  | .move .left | .move .right => True
  | .wordNext => WordCondition view cm .nextWord
  | .wordBack => WordCondition view cm .prevWord
  | .wordEnd => WordCondition view cm .endWord
  | .bigWordNext => WordCondition view cm .nextBigWord
  | .bigWordBack => WordCondition view cm .prevBigWord
  | .bigWordEnd => WordCondition view cm .endBigWord
  | .firstNonBlank | .matchingBracket => InView bar cm ∧ LineFits view cm
  | .screenTop | .historyTop => True
  | .screenMiddle => bar.offset + cm.viewportRows / 2 < bar.total
  | .screenBottom => bar.offset + cm.viewportRows ≤ bar.total
  | .historyBottom => False
  | .pageUp =>
      let offset : ℤ := max 0 (bar.offset - bar.page)
      offset ≤ row - cm.viewportRows ∧ row - cm.viewportRows < offset + cm.viewportRows
  | .pageDown =>
      let offset : ℤ := min (bar.total - bar.len : ℕ) (bar.offset + bar.page)
      row + cm.viewportRows < bar.total ∧
        offset ≤ row + cm.viewportRows ∧ row + cm.viewportRows < offset + cm.viewportRows
  | .halfPageUp => (cm.viewportRows / 2 : ℕ) ≤ row
  | .halfPageDown => Showable bar cm (row + (cm.viewportRows / 2 : ℕ))
  | .scrollUp | .scrollDown | .scrollMiddle => True
  | .swapAnchor | .jumpToMark | .previousParagraph => True
  | .nextParagraph => ∀ blank, row < blank → blank ≤ bar.total → readsBlank view cm blank →
      (∀ nearer, row < nearer → nearer < blank → ¬ readsBlank view cm nearer) →
        Showable bar cm blank
  | .clearSelection => cm.selection = .none ∨ InView bar cm
  | .copyAndExit | .copyToEndOfLine | .appendAndCancel | .exit => True
  | .lineStart | .lineEnd | .startCharSelect | .startLineSelect | .startRectSelect
  | .jumpForward | .jumpBackward | .jumpToForward | .jumpToBackward | .jumpAgain | .jumpReverse
  | .setMark | .searchForward | .searchBackward | .searchAgain | .searchReverse
  | .searchWordForward | .searchWordBackward | .openPrompt | .refreshFromPane
  | .togglePosition => InView bar cm

end Conditions

/-- Outside copy mode there is nothing to keep. -/
def Fits {Style : Type} (run : CopyRun) (event : CopyEvent Style) : Prop :=
  ∀ cm ∈ run.copyMode, Condition ⟨run.scrollbar, event.shown⟩ cm event.action

/-- A place that the cursor may take: in the scrollback, in a row that can be brought into view. -/
def Held (bar : Scrollbar) (cm : CopyModeState) (spot : Spot) : Prop :=
  (0 ≤ spot.row ∧ Showable bar cm spot.row) ∧ spot.col < cm.viewportCols

/-- What every action keeps of copy mode; no action sets a jump that could be repeated. -/
structure Kept (bar : Scrollbar) (cm : CopyModeState) : Prop where
  rows : 0 < cm.viewportRows
  noJump : cm.lastJump = none
  cursor : Held bar cm cm.cursor
  anchor : ∀ spot ∈ cm.selAnchor, Held bar cm spot
  mark : ∀ spot ∈ cm.mark, Held bar cm spot

section Entry

variable {Style : Type} (geometry : Geometry) (bar : Scrollbar) (pane : FocusedPane Style)

/-- A cell of the viewport, in a row that the scrollback has. -/
def CellInside (cellHeight : ℚ) (col : ℕ) (row : ℤ) : Prop :=
  col < geometry.viewportCols ∧ (0 ≤ row ∧ row < geometry.viewportRows cellHeight) ∧
    bar.offset + row < bar.total

/-- The terminal's cursor is inside the viewport. -/
def CursorInside : Prop :=
  match surfaceCursorCell geometry pane with
  | some (col, row, cellHeight) => CellInside geometry bar cellHeight col row
  | none => ∀ snapshot ∈ pane.snapshot,
      CellInside geometry bar geometry.cellHeight snapshot.cursor.x.toNat snapshot.cursor.y.toNat

/-- The same of the row that is taken for the cursor's: without a native surface it is as far below
again as the viewport is scrolled. -/
def EntersInside : Prop :=
  match surfaceCursorCell geometry pane with
  | some (col, row, cellHeight) => CellInside geometry bar cellHeight col row
  | none => ∀ snapshot ∈ pane.snapshot,
      CellInside geometry bar geometry.cellHeight snapshot.cursor.x.toNat
        (bar.offset + snapshot.cursor.y.toNat)

end Entry

section Scrolling

variable {bar : Scrollbar} {cm : CopyModeState}

@[simp] theorem scrollBy_total (lines : ℤ) : (bar.scrollBy lines).total = bar.total := rfl

@[simp] theorem scrollBy_len (lines : ℤ) : (bar.scrollBy lines).len = bar.len := rfl

theorem scrollBy_offset (bar : Scrollbar) (lines : ℤ) : ((bar.scrollBy lines).offset : ℤ) =
    max 0 (min ((bar.total - bar.len : ℕ) : ℤ) (bar.offset + lines)) := by
  simp only [Scrollbar.scrollBy]
  omega

theorem apply_total (effect : CopyEffect) : (bar.apply effect).total = bar.total := by
  cases effect <;> rfl

theorem apply_len (effect : CopyEffect) : (bar.apply effect).len = bar.len := by
  cases effect <;> rfl

theorem WellFormed.scrollBy (wellFormed : WellFormed bar) (lines : ℤ) :
    WellFormed (bar.scrollBy lines) := by
  obtain ⟨tall, inside⟩ := wellFormed
  have offset := scrollBy_offset bar lines
  exact ⟨tall, by simp only [scrollBy_total, scrollBy_len]; omega⟩

theorem WellFormed.apply (wellFormed : WellFormed bar) (effect : CopyEffect) :
    WellFormed (bar.apply effect) := by
  have still := wellFormed
  obtain ⟨tall, inside⟩ := wellFormed
  cases effect with
  | scrollToTop => exact ⟨tall, by simp only [Scrollbar.apply]; omega⟩
  | scrollToBottom | leave => exact ⟨tall, by simp only [Scrollbar.apply]; omega⟩
  | scrollPageUp | scrollPageDown | scrollPageLines => exact still.scrollBy _
  | navigateSearch | openSearch | copy | appendCopy | openPrompt => exact still

theorem WellFormed.foldl_apply (wellFormed : WellFormed bar) (effects : List CopyEffect) :
    WellFormed (effects.foldl Scrollbar.apply bar) := by
  induction effects generalizing bar with
  | nil => exact wellFormed
  | cons effect effects ih => exact ih (wellFormed.apply effect)

theorem foldl_apply_size (bar : Scrollbar) (effects : List CopyEffect) :
    (effects.foldl Scrollbar.apply bar).total = bar.total ∧
      (effects.foldl Scrollbar.apply bar).len = bar.len := by
  induction effects generalizing bar with
  | nil => exact ⟨rfl, rfl⟩
  | cons effect effects ih =>
      obtain ⟨total, len⟩ := ih (bar.apply effect)
      exact ⟨total.trans (apply_total effect), len.trans (apply_len effect)⟩

/-- Scrolling changes neither the scrollback nor the height of the viewport. -/
theorem Kept.foldl_apply (kept : Kept bar cm) (effects : List CopyEffect) :
    Kept (effects.foldl Scrollbar.apply bar) cm := by
  obtain ⟨total, len⟩ := foldl_apply_size bar effects
  obtain ⟨rows, noJump, cursor, anchor, mark⟩ := kept
  unfold Held Showable at cursor anchor mark
  refine ⟨rows, noJump, ?_, ?_, ?_⟩ <;> unfold Held Showable <;> rw [total, len]
  · exact cursor
  · exact anchor
  · exact mark

/-- The scroll that follows a motion brings the cursor into view, if a scroll can. -/
theorem inView_ensureVisible {Style : Type} {shown : Option (TerminalSnapshot Style)}
    (wellFormed : WellFormed bar) (kept : Kept bar cm) :
    InView ((copyModeEnsureVisible ⟨bar, shown⟩ cm).foldl Scrollbar.apply bar) cm := by
  obtain ⟨tall, inside⟩ := wellFormed
  obtain ⟨⟨low, -, high⟩, -⟩ := kept.cursor
  have rows := kept.rows
  unfold copyModeEnsureVisible InView
  simp only
  split
  · have offset := scrollBy_offset bar (cm.cursor.row - bar.offset)
    simp only [List.foldl_cons, List.foldl_nil, Scrollbar.apply]
    omega
  · split
    · have offset := scrollBy_offset bar
        (cm.cursor.row - bar.offset - cm.viewportRows + 1)
      simp only [List.foldl_cons, List.foldl_nil, Scrollbar.apply]
      omega
    · simp only [List.foldl_nil]
      omega

end Scrolling

section Reading

variable {Style : Type} {view : PaneView Style} {cm : CopyModeState}

/-- The search for a blank row stops at the first that reads as blank. -/
theorem find?_of_firstBlankRow {rows : List ℤ} {row : ℤ}
    (found : firstBlankRow view cm rows = some row) :
    rows.find? (readsBlank view cm) = some row := by
  induction rows with
  | nil => cases found
  | cons other rows ih =>
      rw [firstBlankRow] at found
      cases line : readViewportLine view cm (viewportRow other view.scrollbar.offset) with
      | none =>
          rw [line] at found
          cases found
      | some text =>
          have own : readsBlank view cm other = (trim text).isEmpty := by
            rw [readsBlank, line, Option.any_some]
          simp only [line] at found
          rw [List.find?_cons, own]
          cases blank : (trim text).isEmpty with
          | false =>
              rw [blank, if_neg Bool.false_ne_true] at found
              exact ih found
          | true =>
              rw [blank, if_pos rfl] at found
              exact found

theorem balancedAt_mem {opening closing : Char} {depth : ℤ} {indexed : List (Char × ℕ)} {i : ℕ}
    (found : balancedAt opening closing depth indexed = some i) : ∃ ch, (ch, i) ∈ indexed := by
  induction indexed generalizing depth with
  | nil => cases found
  | cons head indexed ih =>
      obtain ⟨ch, own⟩ := head
      have here : ∀ depth : ℤ, (if depth = 0 then some own
          else balancedAt opening closing depth indexed) = some i →
          ∃ other, (other, i) ∈ (ch, own) :: indexed := by
        intro depth found
        split at found
        · obtain rfl := Option.some.inj found
          exact ⟨ch, List.mem_cons_self⟩
        · obtain ⟨other, member⟩ := ih found
          exact ⟨other, List.mem_cons_of_mem _ member⟩
      exact here _ found

/-- The matching bracket is a character of the line. -/
theorem matchingColumn_lt {chars : List Char} {col i : ℕ}
    (found : matchingColumn chars col = some i) : i < chars.length := by
  have indexed : ∀ ch, (ch, i) ∈ chars.zipIdx → i < chars.length := by
    intro ch member
    have bound := List.snd_lt_of_mem_zipIdx member
    simpa using bound
  obtain ⟨⟨pos, opening, closing, opens⟩, -, found⟩ := Option.bind_eq_some_iff.mp found
  cases opens with
  | true =>
      obtain ⟨ch, member⟩ := balancedAt_mem found
      exact indexed ch (List.mem_of_mem_drop member)
  | false =>
      obtain ⟨ch, member⟩ := balancedAt_mem found
      exact indexed ch (List.mem_of_mem_take (List.mem_reverse.mp member))

/-- A word motion that fits reads inside the line and stays inside the viewport. -/
theorem wordMove_lt (isAlphanumeric : Char → Bool) {kind : WordMoveKind} {line : Text}
    (fits : WordFits kind line cm) (inside : cm.cursor.col < cm.viewportCols) :
    ∃ next, wordMove isAlphanumeric kind line cm.cursor.col = some next ∧
      next < cm.viewportCols := by
  have back : ∀ big, cm.cursor.col ≤ line.length →
      ∃ next, prevWord isAlphanumeric big line cm.cursor.col = some next ∧
        next < cm.viewportCols := by
    intro big reached
    obtain ⟨next, found, left⟩ := prevWord_le isAlphanumeric big reached
    exact ⟨next, found, by omega⟩
  have on : ∀ big, line.length ≤ cm.viewportCols →
      nextWord isAlphanumeric big line cm.cursor.col < cm.viewportCols := by
    intro big short
    rcases @nextWord_inside isAlphanumeric big line cm.cursor.col with same | character
    · omega
    · omega
  have toEnd : ∀ big, line.length ≤ cm.viewportCols ∧ (line.length = cm.viewportCols →
        cm.cursor.col + 1 < line.length →
          ∃ c ∈ line.drop (cm.cursor.col + 1), isWhitespace c = false) →
      endWord isAlphanumeric big line cm.cursor.col < cm.viewportCols := by
    rintro big ⟨short, solid⟩
    by_cases full : line.length = cm.viewportCols
    · have character := (endWord_inside_iff isAlphanumeric big).mpr (solid full)
      omega
    · have behind := @endWord_le isAlphanumeric big line cm.cursor.col
      omega
  cases kind with
  | nextWord | nextBigWord => exact ⟨_, rfl, on _ fits⟩
  | prevWord | prevBigWord => exact back _ fits
  | endWord | endBigWord => exact ⟨_, rfl, toEnd _ fits⟩

end Reading

section Actions

variable {bar : Scrollbar} {cm after : CopyModeState} {viewOnly : Bool}

/-- Nothing panics, and where copy mode goes on its cursor can be shown, and is shown if the
viewport is not all that moves. -/
def Ends (bar : Scrollbar) (viewOnly : Bool)
    (outcome : Option (Option CopyModeState × List CopyEffect)) : Prop :=
  ∃ copyMode effects, outcome = some (copyMode, effects) ∧ ∀ cm ∈ copyMode,
    Kept bar cm ∧ (viewOnly = false → InView (effects.foldl Scrollbar.apply bar) cm)

theorem Ends.leave (effects : List CopyEffect) : Ends bar viewOnly (some (none, effects)) :=
  ⟨none, effects, rfl, fun cm member => by cases member⟩

theorem Ends.of_kept {effects : List CopyEffect} (kept : Kept bar after)
    (inView : viewOnly = false → InView (effects.foldl Scrollbar.apply bar) after) :
    Ends bar viewOnly (some (some after, effects)) := by
  refine ⟨some after, effects, rfl, fun cm member => ?_⟩
  obtain rfl := Option.some.inj member
  exact ⟨kept, inView⟩

theorem Ends.stay (kept : Kept bar after) (inView : InView bar after) :
    Ends bar viewOnly (some (some after, [])) := Ends.of_kept kept fun _ => inView

theorem Ends.show {Style : Type} {shown : Option (TerminalSnapshot Style)}
    (wellFormed : WellFormed bar) (kept : Kept bar after) :
    Ends bar viewOnly (some (some after, copyModeEnsureVisible ⟨bar, shown⟩ after)) :=
  Ends.of_kept kept fun _ => inView_ensureVisible wellFormed kept

theorem Kept.to (kept : Kept bar cm) {spot : Spot} (held : Held bar cm spot) :
    Kept bar { cm with cursor := spot } :=
  ⟨kept.rows, kept.noJump, held, kept.anchor, kept.mark⟩

theorem held_of {row : ℤ} {col : ℕ} (low : 0 ≤ row) (total : row < bar.total)
    (high : row < (bar.total - bar.len : ℕ) + cm.viewportRows) (inside : col < cm.viewportCols) :
    Held bar cm ⟨row, col⟩ := ⟨⟨low, total, high⟩, inside⟩

theorem inView_of {row : ℤ} {col : ℕ} (from' : bar.offset ≤ row)
    (to' : row < bar.offset + cm.viewportRows) : InView bar { cm with cursor := ⟨row, col⟩ } :=
  ⟨from', to'⟩

theorem Kept.atCol (kept : Kept bar cm) {col : ℕ} (inside : col < cm.viewportCols) :
    Kept bar (cm.atCol col) := kept.to ⟨kept.cursor.1, inside⟩

theorem Kept.atRow (kept : Kept bar cm) {row : ℤ} (low : 0 ≤ row) (high : Showable bar cm row) :
    Kept bar (cm.atRow row) := kept.to ⟨⟨low, high⟩, kept.cursor.2⟩

theorem Kept.startSelect (kept : Kept bar cm) (mode : SelectionMode) :
    Kept bar (cm.startSelect mode) := by
  obtain ⟨rows, noJump, cursor, anchor, mark⟩ := kept
  unfold CopyModeState.startSelect
  split
  · exact ⟨rows, noJump, cursor, by simp, mark⟩
  · refine ⟨rows, noJump, cursor, fun spot member => ?_, mark⟩
    dsimp only at member
    split at member
    · cases own : cm.selAnchor with
      | none =>
          rw [own] at member
          obtain rfl := Option.some.inj member
          exact cursor
      | some old =>
          rw [own] at member
          obtain rfl := Option.some.inj member
          exact anchor old own
    · obtain rfl := Option.some.inj member
      exact cursor

theorem inView_startSelect (inView : InView bar cm) (mode : SelectionMode) :
    InView bar (cm.startSelect mode) := by
  unfold CopyModeState.startSelect
  split
  · exact inView
  · exact inView

theorem ends_wordMove {Style : Type} {isAlphanumeric : Char → Bool}
    {shown : Option (TerminalSnapshot Style)} {kind : WordMoveKind} (wellFormed : WellFormed bar)
    (kept : Kept bar cm) (condition : WordCondition ⟨bar, shown⟩ cm kind) :
    Ends bar viewOnly ((copyModeWordMove isAlphanumeric ⟨bar, shown⟩ cm kind).map
      fun moved => (some moved.1, moved.2)) := by
  unfold WordCondition at condition
  unfold copyModeWordMove
  cases line : readViewportLineForCursor ⟨bar, shown⟩ cm with
  | none =>
      rw [line] at condition
      exact Ends.stay kept condition
  | some text =>
      rw [line] at condition
      obtain ⟨next, found, inside⟩ := wordMove_lt isAlphanumeric condition kept.cursor.2
      simp only [found, Option.map_some]
      exact Ends.show wellFormed (kept.atCol inside)

theorem firstNonBlank_lt {chars : List Char} {cols : ℕ} (short : chars.length ≤ cols)
    (some' : 0 < cols) : (chars.findIdx? fun c => !isWhitespace c).getD 0 < cols := by
  cases found : chars.findIdx? fun c => !isWhitespace c with
  | none => exact some'
  | some i =>
      have inside := (List.findIdx?_eq_some_iff_findIdx_eq.mp found).1
      simp only [Option.getD_some]
      omega

/-- A line's columns are reached by the motions within it. -/
theorem Kept.inLine {Style : Type} {view : PaneView Style} (kept : Kept bar cm)
    (fits : LineFits view cm) :
    Kept bar (copyModeFirstNonBlank view cm) ∧ Kept bar (copyModeMatchingBracket view cm) := by
  have inside := kept.cursor.2
  unfold copyModeFirstNonBlank copyModeMatchingBracket
  cases line : readViewportLineForCursor view cm with
  | none => exact ⟨kept, kept⟩
  | some text =>
      have short := fits text line
      refine ⟨kept.atCol (firstNonBlank_lt short (by omega)), kept.atCol ?_⟩
      cases found : matchingColumn text cm.cursor.col with
      | none => exact inside
      | some col =>
          have character := matchingColumn_lt found
          simp only [Option.getD_some]
          omega

theorem inView_inLine {Style : Type} {view : PaneView Style} (inView : InView bar cm) :
    InView bar (copyModeFirstNonBlank view cm) ∧ InView bar (copyModeMatchingBracket view cm) := by
  unfold copyModeFirstNonBlank copyModeMatchingBracket
  cases readViewportLineForCursor view cm with
  | none => exact ⟨inView, inView⟩
  | some text => exact ⟨inView, inView⟩

theorem Kept.paragraph {Style : Type} {shown : Option (TerminalSnapshot Style)} {forward : Bool}
    (kept : Kept bar cm) (condition : forward = true → Condition ⟨bar, shown⟩ cm .nextParagraph) :
    Kept bar (copyModeParagraph ⟨bar, shown⟩ cm forward) := by
  obtain ⟨⟨low, total, high⟩, inside⟩ := kept.cursor
  have first : 0 < cm.viewportCols := by omega
  unfold copyModeParagraph
  cases found : firstBlankRow ⟨bar, shown⟩ cm
      (if forward then rowsBetween (cm.cursor.row + 1) (bar.total + 1)
        else (rowsBetween 0 cm.cursor.row).reverse) with
  | none =>
      simp only [found]
      exact kept
  | some row =>
      simp only [found]
      have search := find?_of_firstBlankRow found
      cases forward with
      | false =>
          have member := List.mem_reverse.mp (List.mem_of_find?_eq_some search)
          have range : 0 ≤ row ∧ row < cm.cursor.row := mem_rowsBetween.mp member
          exact kept.to (held_of range.1 (by omega) (by omega) first)
      | true =>
          obtain ⟨member, blank, nearest⟩ := (find?_eq_some_iff_first (fun _ _ => Int.lt_asymm)
            (pairwise_rowsBetween (cm.cursor.row + 1) (bar.total + 1))).mp search
          have range : cm.cursor.row + 1 ≤ row ∧ row < bar.total + 1 := mem_rowsBetween.mp member
          have last : row ≤ bar.total := by omega
          have showable : Showable bar cm row := condition rfl row (by omega) last blank
            fun nearer behind before =>
              nearest nearer (mem_rowsBetween.mpr ⟨by omega, by omega⟩) before
          exact kept.to (held_of (by omega) showable.1 showable.2 first)

theorem Ends.scroll {effects : List CopyEffect} (kept : Kept bar after) :
    Ends bar true (some (some after, effects)) :=
  Ends.of_kept kept fun shows => absurd shows (by decide)

/-- The search for a word leaves cursor and viewport alone. -/
theorem ends_searchWord {Style : Type} {isAlphanumeric : Char → Bool} {view : PaneView Style}
    {forward : Bool} (kept : Kept bar cm) (inView : InView bar cm) :
    Ends bar viewOnly (some (some (copyModeSearchWord isAlphanumeric view cm forward).1,
      (copyModeSearchWord isAlphanumeric view cm forward).2)) := by
  unfold copyModeSearchWord
  cases copyModeWordUnderCursor isAlphanumeric view cm with
  | none => exact Ends.stay kept inView
  | some word =>
      exact Ends.of_kept ⟨kept.rows, kept.noJump, kept.cursor, kept.anchor, kept.mark⟩
        fun _ => inView

theorem ends_swapAnchor {Style : Type} {shown : Option (TerminalSnapshot Style)}
    (wellFormed : WellFormed bar) (kept : Kept bar cm) {isAlphanumeric : Char → Bool} :
    Ends bar viewOnly (actInCopyMode isAlphanumeric ⟨bar, shown⟩ cm .swapAnchor) := by
  unfold actInCopyMode
  cases anchor : cm.selAnchor with
  | none => exact Ends.show wellFormed kept
  | some spot =>
      refine Ends.show wellFormed ⟨kept.rows, kept.noJump, kept.anchor spot anchor, ?_, kept.mark⟩
      intro other member
      obtain rfl := Option.some.inj member
      exact kept.cursor

/-- An action under its condition keeps the cursor where it can be shown. -/
theorem actInCopyMode_ends {Style : Type} (isAlphanumeric : Char → Bool)
    (shown : Option (TerminalSnapshot Style)) (action : CopyModeAction)
    (wellFormed : WellFormed bar) (kept : Kept bar cm)
    (condition : Condition ⟨bar, shown⟩ cm action) :
    Ends bar (isViewScroll action)
      (actInCopyMode isAlphanumeric ⟨bar, shown⟩ cm action) := by
  have tall := wellFormed.tall
  have fits := wellFormed.inside
  have rows := kept.rows
  obtain ⟨⟨low, total, high⟩, inside⟩ := kept.cursor
  have first : 0 < cm.viewportCols := by omega
  have noRepeat : ∀ reverse, copyModeJumpRepeat ⟨bar, shown⟩ cm reverse = cm := by
    intro reverse
    rw [copyModeJumpRepeat, kept.noJump]
  cases action with
  | move direction =>
      cases direction with
      | up =>
          have above : 0 < cm.cursor.row := condition
          exact Ends.show wellFormed (kept.atRow (by omega) ⟨by omega, by omega⟩)
      | down => exact Ends.show wellFormed (kept.atRow (by omega) condition)
      | left => exact Ends.show wellFormed (kept.atCol (by omega))
      | right => exact Ends.show wellFormed (kept.atCol (by omega))
  | wordNext | wordBack | wordEnd | bigWordNext | bigWordBack | bigWordEnd =>
      exact ends_wordMove wellFormed kept condition
  | lineStart => exact Ends.stay (kept.atCol first) condition
  | lineEnd => exact Ends.stay (kept.atCol (by omega)) condition
  | firstNonBlank => exact Ends.stay (kept.inLine condition.2).1 (inView_inLine condition.1).1
  | matchingBracket => exact Ends.stay (kept.inLine condition.2).2 (inView_inLine condition.1).2
  | screenTop =>
      have held : Held bar cm ⟨bar.offset, 0⟩ := held_of (by omega) (by omega) (by omega) first
      have shows : InView bar { cm with cursor := ⟨bar.offset, 0⟩ } :=
        inView_of (Int.le_refl _) (by omega)
      exact Ends.stay (kept.to held) shows
  | screenMiddle =>
      have there : bar.offset + cm.viewportRows / 2 < bar.total := condition
      have held : Held bar cm ⟨bar.offset + cm.viewportRows / 2, 0⟩ :=
        held_of (by omega) (by omega) (by omega) first
      have shows : InView bar { cm with cursor := ⟨bar.offset + cm.viewportRows / 2, 0⟩ } :=
        inView_of (by omega) (by omega)
      exact Ends.stay (kept.to held) shows
  | screenBottom =>
      have there : bar.offset + cm.viewportRows ≤ bar.total := condition
      have held : Held bar cm ⟨bar.offset + cm.viewportRows - 1, 0⟩ :=
        held_of (by omega) (by omega) (by omega) first
      have shows : InView bar { cm with cursor := ⟨bar.offset + cm.viewportRows - 1, 0⟩ } :=
        inView_of (by omega) (by omega)
      exact Ends.stay (kept.to held) shows
  | historyTop =>
      have held : Held bar cm ⟨0, 0⟩ := held_of (by omega) (by omega) (by omega) first
      have shows : InView { bar with offset := 0 } { cm with cursor := ⟨0, 0⟩ } :=
        ⟨Int.le_refl _, by simpa using rows⟩
      exact Ends.of_kept (kept.to held) fun _ => shows
  | historyBottom => exact absurd condition id
  | pageUp =>
      have offset := scrollBy_offset bar (-bar.page)
      have page : max 0 ((bar.offset : ℤ) - bar.page) ≤ cm.cursor.row - cm.viewportRows ∧
          cm.cursor.row - cm.viewportRows < max 0 ((bar.offset : ℤ) - bar.page) + cm.viewportRows :=
        condition
      have held : Held bar cm ⟨cm.cursor.row - cm.viewportRows, cm.cursor.col⟩ :=
        held_of (by omega) (by omega) (by omega) inside
      have shows : InView (bar.scrollBy (-bar.page))
          { cm with cursor := ⟨cm.cursor.row - cm.viewportRows, cm.cursor.col⟩ } :=
        inView_of (by omega) (by omega)
      exact Ends.of_kept (kept.to held) fun _ => shows
  | pageDown =>
      have offset := scrollBy_offset bar bar.page
      have page : cm.cursor.row + cm.viewportRows < bar.total ∧
          min ((bar.total - bar.len : ℕ) : ℤ) (bar.offset + bar.page) ≤
            cm.cursor.row + cm.viewportRows ∧
          cm.cursor.row + cm.viewportRows <
            min ((bar.total - bar.len : ℕ) : ℤ) (bar.offset + bar.page) + cm.viewportRows :=
        condition
      have held : Held bar cm ⟨cm.cursor.row + cm.viewportRows, cm.cursor.col⟩ :=
        held_of (by omega) (by omega) (by omega) inside
      have shows : InView (bar.scrollBy bar.page)
          { cm with cursor := ⟨cm.cursor.row + cm.viewportRows, cm.cursor.col⟩ } :=
        inView_of (by omega) (by omega)
      exact Ends.of_kept (kept.to held) fun _ => shows
  | halfPageUp =>
      exact Ends.show wellFormed (kept.atRow (sub_nonneg.mpr condition) ⟨by omega, by omega⟩)
  | halfPageDown => exact Ends.show wellFormed (kept.atRow (by omega) condition)
  | scrollUp | scrollDown | scrollMiddle => exact Ends.scroll kept
  | startCharSelect | startLineSelect | startRectSelect =>
      exact Ends.stay (kept.startSelect _) (inView_startSelect condition _)
  | clearSelection =>
      by_cases none' : cm.selection = .none
      · simp only [actInCopyMode, if_pos none']
        exact Ends.leave _
      · simp only [actInCopyMode, if_neg none']
        exact Ends.stay ⟨rows, kept.noJump, kept.cursor, by simp, kept.mark⟩
          (condition.resolve_left none')
  | swapAnchor => exact ends_swapAnchor wellFormed kept
  | jumpAgain | jumpReverse =>
      simp only [actInCopyMode, noRepeat]
      exact Ends.stay kept condition
  | nextParagraph => exact Ends.show wellFormed (kept.paragraph fun _ => condition)
  | previousParagraph =>
      exact Ends.show wellFormed (kept.paragraph fun forward => absurd forward (by decide))
  | setMark =>
      have marked : ∀ spot ∈ some cm.cursor, Held bar cm spot := by
        intro spot member
        obtain rfl := Option.some.inj member
        exact kept.cursor
      exact Ends.stay ⟨rows, kept.noJump, kept.cursor, kept.anchor, marked⟩ condition
  | jumpToMark =>
      have held : Held bar cm (cm.mark.getD cm.cursor) := by
        cases mark : cm.mark with
        | none => exact kept.cursor
        | some spot => exact kept.mark spot mark
      exact Ends.show wellFormed (kept.to held)
  | searchAgain | searchReverse | openPrompt => exact Ends.of_kept kept fun _ => condition
  | searchWordForward | searchWordBackward => exact ends_searchWord kept condition
  | copyAndExit | copyToEndOfLine | appendAndCancel | exit => exact Ends.leave _
  | refreshFromPane => exact Ends.stay kept condition
  | jumpForward | jumpBackward | jumpToForward | jumpToBackward | searchForward | searchBackward
  | togglePosition =>
      exact Ends.of_kept ⟨rows, kept.noJump, kept.cursor, kept.anchor, kept.mark⟩
        fun _ => condition

end Actions

section Runs

variable {Style : Type} {isAlphanumeric : Char → Bool} {geometry : Geometry} {bar : Scrollbar}
  {pane : FocusedPane Style} {cm : CopyModeState}

/-- What holds between actions. -/
structure Sound (run : CopyRun) : Prop where
  running : run.panicked = false
  wellFormed : WellFormed run.scrollbar
  kept : ∀ cm ∈ run.copyMode, Kept run.scrollbar cm

theorem Kept.inBuffer (kept : Kept bar cm) : InBuffer bar cm :=
  ⟨⟨kept.cursor.1.1, kept.cursor.1.2.1⟩, kept.cursor.2⟩

/-- A pending jump plays no part in where the cursor stands. -/
theorem dispatch_ends (isAlphanumeric : Char → Bool) (shown : Option (TerminalSnapshot Style))
    (action : CopyModeAction)
    (wellFormed : WellFormed bar) (kept : Kept bar cm)
    (condition : Condition ⟨bar, shown⟩ cm action) :
    Ends bar (isViewScroll action)
      (dispatchCopyModeAction isAlphanumeric ⟨bar, shown⟩ (some cm) action) := by
  unfold dispatchCopyModeAction
  dsimp only
  split
  · exact actInCopyMode_ends isAlphanumeric shown action wellFormed kept condition
  · have given : Kept bar { cm with pendingJump := none } :=
      ⟨kept.rows, kept.noJump, kept.cursor, kept.anchor, kept.mark⟩
    exact actInCopyMode_ends isAlphanumeric shown action wellFormed given condition

/-- One action: where it fits, the run stays sound and the cursor is kept. -/
theorem step_sound {run : CopyRun} {event : CopyEvent Style} (sound : Sound run)
    (fits : Fits run event) :
    Sound (step isAlphanumeric run event) ∧ CursorKept isAlphanumeric run event := by
  obtain ⟨bar, copyMode, panicked⟩ := run
  obtain ⟨running, wellFormed, kept⟩ := sound
  obtain rfl : panicked = false := running
  cases copyMode with
  | none =>
      have after : step isAlphanumeric ⟨bar, none, false⟩ event =
          ⟨(actOutside event.action).foldl Scrollbar.apply bar, none, false⟩ := rfl
      unfold CursorKept
      rw [after]
      have nobody : ∀ cm : CopyModeState, cm ∉ (none : Option CopyModeState) := by simp
      exact ⟨⟨rfl, wellFormed.foldl_apply _, fun cm member => absurd member (nobody cm)⟩, rfl,
        fun cm member => absurd member (nobody cm)⟩
  | some cm =>
      obtain ⟨left, effects, outcome, ends⟩ := dispatch_ends isAlphanumeric event.shown
        event.action wellFormed (kept cm rfl) (fits cm rfl)
      have after : step isAlphanumeric ⟨bar, some cm, false⟩ event =
          ⟨effects.foldl Scrollbar.apply bar, left, false⟩ := by
        simp only [step, Bool.false_eq_true, if_false, outcome]
      unfold CursorKept
      rw [after]
      refine ⟨⟨rfl, wellFormed.foldl_apply _, fun other member => ?_⟩, rfl, fun other member => ?_⟩
      · exact (ends other member).1.foldl_apply effects
      · exact ⟨((ends other member).1.foldl_apply effects).inBuffer, (ends other member).2⟩

/-- Where the row on entry is one of the viewport, copy mode starts out soundly. -/
theorem enterCopyMode_kept (wellFormed : WellFormed bar)
    (entered : enterCopyMode geometry bar pane = some cm)
    (entersInside : EntersInside geometry bar pane) : Kept bar cm := by
  have fits := wellFormed.inside
  have start : ∀ (cellHeight : ℚ) (col : ℕ) (row : ℤ), CellInside geometry bar cellHeight col row →
      Kept bar
        { cursor := ⟨bar.offset + row, col⟩
          viewportRows := geometry.viewportRows cellHeight
          viewportCols := geometry.viewportCols } := by
    rintro cellHeight col row ⟨inside, ⟨low, high⟩, total⟩
    exact ⟨by dsimp only; omega, rfl, held_of (by omega) total (by dsimp only; omega) inside,
      by simp, by simp⟩
  unfold enterCopyMode focusedCursorCellPosition at entered
  unfold EntersInside at entersInside
  cases surface : surfaceCursorCell geometry pane with
  | some cell =>
      obtain ⟨col, row, cellHeight⟩ := cell
      rw [surface] at entered entersInside
      obtain rfl := Option.some.inj entered
      exact start cellHeight col row entersInside
  | none =>
      rw [surface] at entered entersInside
      cases shown : pane.snapshot with
      | none =>
          rw [shown] at entered
          cases entered
      | some snapshot =>
          rw [shown] at entered
          obtain rfl := Option.some.inj entered
          exact start _ _ _ (entersInside snapshot shown)

/-- Without a native surface copy mode starts as far below the cursor's row as the viewport is
scrolled. -/
theorem enterCopyMode_cursor {snapshot : TerminalSnapshot Style}
    (noSurface : surfaceCursorCell geometry pane = none) (shown : pane.snapshot = some snapshot)
    (entered : enterCopyMode geometry bar pane = some cm) :
    cm.cursor = ⟨bar.offset + (bar.offset + snapshot.cursor.y.toNat), snapshot.cursor.x.toNat⟩ := by
  unfold enterCopyMode focusedCursorCellPosition at entered
  rw [noSurface, shown] at entered
  obtain rfl := Option.some.inj entered
  rfl

/-- Where the viewport is not scrolled, the cursor is found in its row. -/
theorem entersInside_iff_of_unscrolled (unscrolled : bar.offset = 0) :
    EntersInside geometry bar pane ↔ CursorInside geometry bar pane := by
  unfold EntersInside CursorInside
  simp only [unscrolled, Nat.cast_zero, zero_add]

/-- From an entry inside the viewport on, in every run whose actions meet their conditions the
cursor stays in the scrollback, and in view after every action that does not only scroll. -/
theorem copyMode_cursor_kept (isAlphanumeric : Char → Bool) (geometry : Geometry) (bar : Scrollbar)
    (pane : FocusedPane Style) (cm : CopyModeState) (events : List (CopyEvent Style))
    (wellFormed : WellFormed bar) (entered : enterCopyMode geometry bar pane = some cm)
    (entersInside : EntersInside geometry bar pane)
    (fits : Always (step isAlphanumeric) Fits ⟨bar, some cm, false⟩ events) :
    Always (step isAlphanumeric) (CursorKept isAlphanumeric) ⟨bar, some cm, false⟩ events := by
  have kept := enterCopyMode_kept wellFormed entered entersInside
  have start : Sound ⟨bar, some cm, false⟩ := by
    refine ⟨rfl, wellFormed, fun other member => ?_⟩
    obtain rfl := Option.some.inj member
    exact kept
  exact always_of_invariant (fun run event sound holds => (step_sound sound holds).1)
    (fun run event sound holds => (step_sound sound holds).2) start fits

/-- A window of 24 rows and 80 columns. -/
def window : Geometry := ⟨8, 16, 400, 16, 640⟩

def topLeftPane : FocusedPane Unit := ⟨false, none, some letters⟩

theorem window_size : window.viewportRows 16 = 24 ∧ window.viewportCols = 80 := by
  decide +kernel

theorem enterCopyMode_window : enterCopyMode window ⟨24, 0, 24⟩ topLeftPane =
    some { cursor := ⟨0, 0⟩, viewportRows := 24, viewportCols := 80 } := by
  obtain ⟨rows, cols⟩ := window_size
  have entered : enterCopyMode window ⟨24, 0, 24⟩ topLeftPane = some
      { cursor := ⟨0, 0⟩
        viewportRows := window.viewportRows 16
        viewportCols := window.viewportCols } := rfl
  rw [entered, rows, cols]

theorem cursorInside_window : CursorInside window ⟨24, 0, 24⟩ topLeftPane := by
  obtain ⟨rows, cols⟩ := window_size
  intro snapshot member
  obtain rfl := Option.some.inj member
  have inside : (0 : ℤ) < window.viewportRows 16 := by
    rw [rows]
    decide
  refine ⟨?_, ⟨Int.le_refl _, inside⟩, by decide⟩
  rw [cols]
  decide

theorem copyMode_cursor_kept_window :
    Always (step Char.isAlphanum) (CursorKept Char.isAlphanum)
      ⟨⟨24, 0, 24⟩, some { cursor := ⟨0, 0⟩, viewportRows := 24, viewportCols := 80 }, false⟩
      [⟨.screenBottom, some letters⟩, ⟨.setMark, none⟩, ⟨.halfPageUp, none⟩, ⟨.wordNext, none⟩,
        ⟨.jumpToMark, none⟩] := by
  refine copyMode_cursor_kept Char.isAlphanum window ⟨24, 0, 24⟩ topLeftPane _ _
    ⟨by decide, by decide⟩ enterCopyMode_window
    ((entersInside_iff_of_unscrolled rfl).mpr cursorInside_window) ?_
  refine ⟨fun cm member => ?_, fun cm member => ?_, fun cm member => ?_, fun cm member => ?_,
    fun cm member => ?_, trivial⟩ <;> obtain rfl := Option.some.inj member
  · exact (by decide : 0 + 24 ≤ 24)
  · exact (by decide : (0 : ℤ) ≤ 23 ∧ (23 : ℤ) < 0 + 24)
  · exact (by decide : ((24 / 2 : ℕ) : ℤ) ≤ 23)
  · exact (by decide : (0 : ℤ) ≤ 11 ∧ (11 : ℤ) < 0 + 24)
  · trivial

/-- The bottom of the history is taken to be the row behind the last one. -/
theorem historyBottom_leaves :
    ¬ ∀ (isAlphanumeric : Char → Bool) (geometry : Geometry) (bar : Scrollbar)
      (pane : FocusedPane Unit) (cm : CopyModeState) (events : List (CopyEvent Unit)),
      WellFormed bar → enterCopyMode geometry bar pane = some cm → CursorInside geometry bar pane →
        Always (step isAlphanumeric) (CursorKept isAlphanumeric) ⟨bar, some cm, false⟩ events := by
  intro always
  have run := always Char.isAlphanum window ⟨24, 0, 24⟩ topLeftPane _ [⟨.historyBottom, none⟩]
    ⟨by decide, by decide⟩ enterCopyMode_window cursorInside_window
  obtain ⟨⟨-, kept⟩, -⟩ := run
  have bottom := (kept _ rfl).1.1.2
  exact absurd bottom (by decide)

end Runs

end Boo.Runtime.CopyModeBounds
