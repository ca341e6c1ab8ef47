/- module: Boo/Runtime/SnapshotMirror
   digest: The worker's snapshot and the screen it is refreshed from, over runs with failures. -/

import Boo.Lib.RowCaches
import Boo.Runtime.FullRefresh

set_option autoImplicit false
set_option relaxedAutoImplicit false

namespace Boo.Runtime.SnapshotMirror

open Boo.Lib.RowCaches
open Boo.Lib.Runs
open Boo.Wire.Message
open Boo.Client.Snapshot
open Boo.Runtime.VtBackend
open Boo.Runtime.FullRefresh

section Screen

/-- What the library's cell iterator answers for a cell; `none` is an error that is passed over. -/
structure LibraryCell where
  graphemes : List UInt32
  fg : Option RgbColor
  bg : Option RgbColor
  backgroundIsDefault : Bool
  bold : Bool
  italic : Bool
  underline : Int32
  hyperlink : Option Bool
  deriving DecidableEq

structure LibraryRow where
  dirty : Bool
  cells : List LibraryCell
  deriving DecidableEq

/-- The library's render state as its row iterator hands it out. The scrollbar is left out: both
ways of reading copy it as it is. -/
structure Screen (Style : Type) where
  cols : UInt16
  rows : UInt16
  title : String
  pwd : String
  cursor : CursorSnapshot Style
  colors : RenderColors
  lines : List LibraryRow
  complete : lines.length = rows.toNat

/-- `char::from_u32` -/
def fromU32 (codepoint : UInt32) : Option Char :=
  if h : codepoint.isValidChar then some ⟨codepoint, h⟩ else none

variable {Style : Type} (unicodeWidth : String → Nat)

def textWidth (text : String) : UInt8 := UInt8.ofNat (min (max (unicodeWidth text) 1) 255)

def snapshotCell (colors : RenderColors) (cell : LibraryCell) : CellSnapshot :=
  let text := String.ofList (cell.graphemes.filterMap fromU32)
  { displayWidth := textWidth unicodeWidth text
    text := text
    fg := cell.fg.getD colors.foreground
    bg := cell.bg.getD colors.background
    bgIsDefault := cell.backgroundIsDefault
    bold := cell.bold
    italic := cell.italic
    underline := cell.underline
    hyperlink := cell.hyperlink.getD false }

def snapshotRow (colors : RenderColors) (row : LibraryRow) : List CellSnapshot :=
  row.cells.map (snapshotCell unicodeWidth colors)

namespace Screen

variable (screen : Screen Style)

/-- Every row as it would be read. -/
def render : Render Style where
  cols := screen.cols
  rows := screen.rows
  title := screen.title
  pwd := screen.pwd
  cursor := screen.cursor
  colors := screen.colors
  lines := screen.lines.map fun row => ⟨row.dirty, snapshotRow unicodeWidth screen.colors row⟩
  complete := by rw [List.length_map, screen.complete]

/-- The whole screen under some revisions. -/
def snapshotWith (rowRevisions : List UInt64) : TerminalSnapshot Style where
  cols := screen.cols
  rows := screen.rows
  title := screen.title
  pwd := screen.pwd
  cursor := screen.cursor
  rowsData := screen.lines.map (snapshotRow unicodeWidth screen.colors)
  rowRevisions := rowRevisions
  colors := screen.colors

/-- `snapshot`: every row is read. -/
def snapshot : TerminalSnapshot Style :=
  screen.snapshotWith unicodeWidth (List.replicate screen.rows.toNat 1)

/-- The flags that a loop has cleared; that clearing one fails is passed over. -/
def cleared (clears : Nat → Bool) : Screen Style where
  __ := screen
  lines := screen.lines.mapIdx fun index row => { row with dirty := row.dirty && !clears index }
  complete := by rw [List.length_mapIdx, screen.complete]

end Screen

end Screen

section Refreshing

variable {Style : Type} (pane : VtPane) (snapshot : TerminalSnapshot Style) (render : Render Style)

def mustResize : Bool :=
  sizeChanged snapshot render || snapshot.rowsData.length != render.rows.toNat

def resizedRows : List (List CellSnapshot) :=
  if mustResize snapshot render then resized render.rows.toNat [] snapshot.rowsData
  else snapshot.rowsData

def resizedRevisions : List UInt64 :=
  if mustResize snapshot render then resized render.rows.toNat 1 snapshot.rowRevisions
  else snapshot.rowRevisions

/-- Whether the row loop has rebuilt a row after so many turns. -/
def rebuiltBy (turns index : Nat) (row : RenderedRow) : Bool :=
  index < turns && rowDirty pane snapshot render row

/-- A `refresh_snapshot` that returns an error in its row loop, after so many turns. -/
def failedRefresh (turns : Nat) : TerminalSnapshot Style :=
  { snapshot with
    rowsData := List.zipWith
      (fun row cells => if rebuiltBy pane snapshot render turns row.2 row.1 then row.1.cells
        else cells)
      render.lines.zipIdx (resizedRows snapshot render)
    rowRevisions := List.zipWith
      (fun row revision => if rebuiltBy pane snapshot render turns row.2 row.1 then revision + 1
        else revision)
      render.lines.zipIdx (resizedRevisions snapshot render) }

end Refreshing

section Events

variable (Style : Type)

/-- What happens to a pane. Only what may change the terminal has another screen after it; a
refresh may fail before any row. -/
inductive Event
  | enqueuePtyChunk (chunk : List UInt8)
  | processPendingPtyWork (turns : Nat) (screen : Screen Style)
  | writeVtBytes (bytes : List UInt8) (screen : Screen Style)
  | resizeOrScroll (screen : Screen Style)
  | refresh (clears : Nat → Bool)
  | failRefresh (turns : Nat) (clears : Nat → Bool)

structure World where
  pane : VtPane
  screen : Screen Style
  snapshot : TerminalSnapshot Style

variable {Style} (unicodeWidth : String → Nat)

namespace World

variable (world : World Style)

/-- The rows that a loop of so many turns clears. -/
def clearedBy (turns : Nat) (clears : Nat → Bool) (index : Nat) : Bool :=
  let render := world.screen.render unicodeWidth
  clears index && (render.lines[index]?).any
    (rebuiltBy world.pane world.snapshot render turns index)

def next : Event Style → World Style
  | .enqueuePtyChunk chunk => { world with pane := world.pane.enqueuePtyChunk chunk }
  | .processPendingPtyWork turns screen =>
      { world with
        pane := world.pane.processPendingPtyWork turns
        screen := screen }
  | .writeVtBytes bytes screen =>
      { world with
        pane := world.pane.writeVtBytes bytes
        screen := screen }
  | .resizeOrScroll screen =>
      { world with
        pane := { world.pane with dirty := true }
        screen := screen }
  | .refresh clears =>
      let refreshed :=
        refreshSnapshot world.pane world.snapshot (world.screen.render unicodeWidth)
      { pane := refreshed.1
        screen := world.screen.cleared
          (world.clearedBy unicodeWidth world.screen.lines.length clears)
        snapshot := refreshed.2.1 }
  | .failRefresh turns clears =>
      { world with
        screen := world.screen.cleared (world.clearedBy unicodeWidth turns clears)
        snapshot :=
          failedRefresh world.pane world.snapshot (world.screen.render unicodeWidth) turns }

/-- The screens that the library may show next: a row is clean only if it was and is as it was,
and the colors change only while a full refresh is due. -/
structure Follows (pane : VtPane) (screen : Screen Style) : Prop where
  clean : ∀ (index : Nat) (row : LibraryRow), screen.lines[index]? = some row → row.dirty = false →
    world.screen.lines[index]? = some row
  colors : screen.colors = world.screen.colors ∨ pane.forceFullSnapshotRefresh = true

/-- What the library promises of a step. -/
def Honest : Event Style → Prop
  | .processPendingPtyWork turns screen =>
      world.Follows (world.pane.processPendingPtyWork turns) screen
  | .writeVtBytes bytes screen => world.Follows (world.pane.writeVtBytes bytes) screen
  | .resizeOrScroll screen => world.Follows { world.pane with dirty := true } screen
  | .enqueuePtyChunk _ | .refresh _ | .failRefresh _ _ => True

/-- A refresh, failing or not, finds the row on the screen. -/
def HasRow (index : Nat) : Event Style → Prop
  | .refresh _ | .failRefresh _ _ => index < world.screen.lines.length
  | _ => True

end World

/-- A worker starts with a snapshot of its pane. -/
def spawned (pane : VtPane) (screen : Screen Style) (clears : Nat → Bool) : World Style where
  pane := { pane with dirty := false }
  screen := screen.cleared clears
  snapshot := screen.snapshot unicodeWidth

end Events

section Rows

variable {Style : Type} {pane : VtPane} {snapshot : TerminalSnapshot Style} {render : Render Style}
  {turns index : Nat} {row : RenderedRow}

theorem resizedRows_at (here : render.lines[index]? = some row) :
    (resizedRows snapshot render)[index]? = some (snapshot.rowsData.getD index []) := by
  have inside := (List.getElem?_eq_some_iff.mp here).1
  rw [render.complete] at inside
  rw [resizedRows]
  split
  · rw [← getD_resized inside, List.getD_eq_getElem _ _ (by rw [length_resized]; exact inside)]
    exact List.getElem?_eq_getElem _
  · rename_i same
    rw [mustResize, Bool.or_eq_true, bne_iff_ne, not_or, ne_eq, not_not] at same
    rw [List.getD_eq_getElem _ _ (by rw [same.2]; exact inside)]
    exact List.getElem?_eq_getElem _

theorem resizedRevisions_at (revised : snapshot.rowRevisions.length = snapshot.rowsData.length)
    (here : render.lines[index]? = some row) :
    (resizedRevisions snapshot render)[index]? = some (snapshot.rowRevisions.getD index 1) := by
  have inside := (List.getElem?_eq_some_iff.mp here).1
  rw [render.complete] at inside
  rw [resizedRevisions]
  split
  · rw [← getD_resized inside, List.getD_eq_getElem _ _ (by rw [length_resized]; exact inside)]
    exact List.getElem?_eq_getElem _
  · rename_i same
    rw [mustResize, Bool.or_eq_true, bne_iff_ne, not_or, ne_eq, not_not] at same
    rw [List.getD_eq_getElem _ _ (by rw [revised, same.2]; exact inside)]
    exact List.getElem?_eq_getElem _

/-- What a refresh has left of a row after so many turns. -/
theorem failedRefresh_at (revised : snapshot.rowRevisions.length = snapshot.rowsData.length)
    (here : render.lines[index]? = some row) :
    (failedRefresh pane snapshot render turns).rowsData[index]? =
        some (if rebuiltBy pane snapshot render turns index row then row.cells
          else snapshot.rowsData.getD index []) ∧
      (failedRefresh pane snapshot render turns).rowRevisions[index]? =
        some (if rebuiltBy pane snapshot render turns index row then
            snapshot.rowRevisions.getD index 1 + 1
          else snapshot.rowRevisions.getD index 1) := by
  have place : render.lines.zipIdx[index]? = some (row, index) := by
    rw [List.getElem?_zipIdx, here]
    simp
  rw [failedRefresh]
  dsimp only
  rw [List.getElem?_zipWith, List.getElem?_zipWith, place, resizedRows_at here,
    resizedRevisions_at revised here]
  exact ⟨rfl, rfl⟩

theorem refreshSnapshot_at (revised : snapshot.rowRevisions.length = snapshot.rowsData.length)
    (here : render.lines[index]? = some row) :
    (refreshSnapshot pane snapshot render).2.1.rowsData[index]? =
        some (if rowDirty pane snapshot render row then row.cells
          else snapshot.rowsData.getD index []) ∧
      (refreshSnapshot pane snapshot render).2.1.rowRevisions[index]? =
        some (if rowDirty pane snapshot render row then snapshot.rowRevisions.getD index 1 + 1
          else snapshot.rowRevisions.getD index 1) := by
  have rows : (refreshSnapshot pane snapshot render).2.1.rowsData =
      List.zipWith (fun row cells => if rowDirty pane snapshot render row then row.cells else cells)
        render.lines (resizedRows snapshot render) := rfl
  have revisions : (refreshSnapshot pane snapshot render).2.1.rowRevisions =
      List.zipWith
        (fun row revision => if rowDirty pane snapshot render row then revision + 1 else revision)
        render.lines (resizedRevisions snapshot render) := rfl
  rw [rows, revisions, List.getElem?_zipWith, List.getElem?_zipWith, here, resizedRows_at here,
    resizedRevisions_at revised here]
  exact ⟨rfl, rfl⟩

theorem length_refreshed (revised : snapshot.rowRevisions.length = snapshot.rowsData.length) :
    (resizedRows snapshot render).length = render.lines.length ∧
      (resizedRevisions snapshot render).length = render.lines.length := by
  rw [resizedRows, resizedRevisions, render.complete]
  split
  · exact ⟨length_resized _ _ _, length_resized _ _ _⟩
  · rename_i same
    rw [mustResize, Bool.or_eq_true, bne_iff_ne, not_or, ne_eq, not_not] at same
    exact ⟨same.2, revised.trans same.2⟩

end Rows

section Run

variable {Style : Type} {unicodeWidth : String → Nat} {world : World Style}

/-- Until a full refresh is due, clean rows are in the snapshot as they would be read. -/
structure World.Known (unicodeWidth : String → Nat) (world : World Style) : Prop where
  mirrors : world.pane.forceFullSnapshotRefresh = false →
    ∀ (index : Nat) (row : LibraryRow), world.screen.lines[index]? = some row → row.dirty = false →
      world.snapshot.rowsData[index]? = some (snapshotRow unicodeWidth world.screen.colors row)
  revised : world.snapshot.rowRevisions.length = world.snapshot.rowsData.length

theorem observe_forced {pane : VtPane} {bytes : List UInt8} {hasEscape : Bool}
    (unforced : (pane.observeControlSequences bytes hasEscape).forceFullSnapshotRefresh = false) :
    pane.forceFullSnapshotRefresh = false := by
  rw [VtPane.observeControlSequences] at unforced
  split at unforced
  · exact unforced
  · split at unforced <;> exact (Bool.or_eq_false_iff.mp unforced).1

theorem writeVtBytes_forced {pane : VtPane} {bytes : List UInt8}
    (unforced : (pane.writeVtBytes bytes).forceFullSnapshotRefresh = false) :
    pane.forceFullSnapshotRefresh = false := by
  rw [VtPane.writeVtBytes] at unforced
  split at unforced
  · exact unforced
  · exact observe_forced unforced

/-- Another screen keeps what is known. -/
theorem World.Known.follow (known : world.Known unicodeWidth) {pane : VtPane}
    {screen : Screen Style} (follows : world.Follows pane screen)
    (unforced : pane.forceFullSnapshotRefresh = false →
      world.pane.forceFullSnapshotRefresh = false) :
    World.Known unicodeWidth { world with pane := pane, screen := screen } where
  mirrors := by
    intro quiet index row here clean
    rw [known.mirrors (unforced quiet) index row (follows.clean index row here clean) clean]
    rcases follows.colors with same | forced
    · exact congrArg (fun colors => some (snapshotRow unicodeWidth colors row)) same.symm
    · rw [quiet] at forced
      cases forced
  revised := known.revised

/-- A row that a loop leaves clean was so or was rebuilt. -/
theorem clean_of_cleared {screen : Screen Style} {clears : Nat → Bool} {index : Nat}
    {row : LibraryRow} (here : (screen.cleared clears).lines[index]? = some row)
    (clean : row.dirty = false) :
    ∃ before, screen.lines[index]? = some before ∧ row.cells = before.cells ∧
      (before.dirty = false ∨ clears index = true) := by
  rw [Screen.cleared, List.getElem?_mapIdx, Option.map_eq_some_iff] at here
  obtain ⟨before, there, rfl⟩ := here
  refine ⟨before, there, rfl, ?_⟩
  rw [Bool.and_eq_false_iff, Bool.not_eq_false'] at clean
  exact clean

theorem snapshotRow_congr {colors : RenderColors} {row other : LibraryRow}
    (same : row.cells = other.cells) :
    snapshotRow unicodeWidth colors row = snapshotRow unicodeWidth colors other := by
  rw [snapshotRow, snapshotRow, same]

theorem render_at (unicodeWidth : String → Nat) {screen : Screen Style} {index : Nat}
    {row : LibraryRow}
    (here : screen.lines[index]? = some row) :
    (screen.render unicodeWidth).lines[index]? =
      some ⟨row.dirty, snapshotRow unicodeWidth screen.colors row⟩ := by
  rw [Screen.render, List.getElem?_map, here]
  rfl

theorem World.Known.failRefresh (known : world.Known unicodeWidth) (turns : Nat)
    (clears : Nat → Bool) :
    World.Known unicodeWidth (world.next unicodeWidth (.failRefresh turns clears)) where
  mirrors := by
    intro quiet index row here clean
    obtain ⟨before, there, cells, cleared⟩ := clean_of_cleared here clean
    have read := render_at unicodeWidth there
    refine (failedRefresh_at known.revised read).1.trans ?_
    split
    · exact congrArg some (snapshotRow_congr cells.symm)
    · rename_i kept
      have held : before.dirty = false := by
        refine cleared.resolve_right fun rebuilt => kept ?_
        rw [World.clearedBy, read, Bool.and_eq_true] at rebuilt
        exact rebuilt.2
      have mirrored := known.mirrors quiet index before there held
      rw [List.getD_eq_getElem?_getD, mirrored]
      exact congrArg some (snapshotRow_congr cells.symm)
  revised := by
    obtain ⟨rows, revisions⟩ :=
      @length_refreshed Style _ (world.screen.render unicodeWidth) known.revised
    simp [World.next, failedRefresh, rows, revisions]

theorem World.Known.refresh (known : world.Known unicodeWidth) (clears : Nat → Bool) :
    World.Known unicodeWidth (world.next unicodeWidth (.refresh clears)) where
  mirrors := by
    intro _ index row here clean
    obtain ⟨before, there, cells, cleared⟩ := clean_of_cleared here clean
    have read := render_at unicodeWidth there
    refine (refreshSnapshot_at known.revised read).1.trans ?_
    split
    · exact congrArg some (snapshotRow_congr cells.symm)
    · rename_i kept
      rw [rowDirty, Bool.or_eq_true, Bool.or_eq_true, not_or, not_or, Bool.not_eq_true,
        Bool.not_eq_true, Bool.not_eq_true] at kept
      have mirrored := known.mirrors kept.1.1 index before there kept.2
      rw [List.getD_eq_getElem?_getD, mirrored]
      exact congrArg some (snapshotRow_congr cells.symm)
  revised := by
    obtain ⟨rows, revisions⟩ :=
      @length_refreshed Style _ (world.screen.render unicodeWidth) known.revised
    refine (List.length_zipWith.trans ?_).trans List.length_zipWith.symm
    exact congrArg (min _) (revisions.trans rows.symm)

theorem World.Known.next (known : world.Known unicodeWidth) {event : Event Style}
    (honest : world.Honest event) : World.Known unicodeWidth (world.next unicodeWidth event) := by
  cases event with
  | enqueuePtyChunk chunk =>
      exact ⟨fun quiet => known.mirrors (observe_forced quiet), known.revised⟩
  | processPendingPtyWork turns screen =>
      refine known.follow honest fun quiet => ?_
      rwa [(processPendingPtyWork_frame turns world.pane).2] at quiet
  | writeVtBytes bytes screen => exact known.follow honest writeVtBytes_forced
  | resizeOrScroll screen => exact known.follow honest id
  | refresh clears => exact known.refresh clears
  | failRefresh turns clears => exact known.failRefresh turns clears

theorem known_spawned (pane : VtPane) (screen : Screen Style) (clears : Nat → Bool) :
    World.Known unicodeWidth (spawned unicodeWidth pane screen clears) where
  mirrors := by
    intro _ index row here clean
    obtain ⟨before, there, cells, -⟩ := clean_of_cleared here clean
    have read : (screen.snapshot unicodeWidth).rowsData[index]? =
        some (snapshotRow unicodeWidth screen.colors before) := by
      rw [Screen.snapshot, Screen.snapshotWith, List.getElem?_map, there]
      rfl
    exact read.trans (congrArg some (snapshotRow_congr cells.symm))
  revised := by
    rw [spawned, Screen.snapshot, Screen.snapshotWith]
    dsimp only
    rw [List.length_replicate, List.length_map, screen.complete]

/-- A refresh leaves what reading the whole screen would give, the revisions apart. -/
theorem World.Known.refreshed (known : world.Known unicodeWidth) (clears : Nat → Bool) :
    (world.next unicodeWidth (.refresh clears)).snapshot =
      world.screen.snapshotWith unicodeWidth
        (world.next unicodeWidth (.refresh clears)).snapshot.rowRevisions := by
  have rows : (world.next unicodeWidth (.refresh clears)).snapshot.rowsData =
      world.screen.lines.map (snapshotRow unicodeWidth world.screen.colors) := by
    refine List.ext_getElem? fun index => ?_
    rw [List.getElem?_map]
    cases here : world.screen.lines[index]? with
    | none =>
        have short : world.screen.lines.length ≤ index := List.getElem?_eq_none_iff.mp here
        rw [Option.map_none, List.getElem?_eq_none_iff]
        refine (List.length_zipWith.le.trans (Nat.min_le_left _ _)).trans ?_
        rw [Screen.render, List.length_map]
        exact short
    | some row =>
        refine (refreshSnapshot_at known.revised (render_at unicodeWidth here)).1.trans ?_
        rw [Option.map_some]
        split
        · rfl
        · rename_i kept
          rw [rowDirty, Bool.or_eq_true, Bool.or_eq_true, not_or, not_or, Bool.not_eq_true,
            Bool.not_eq_true, Bool.not_eq_true] at kept
          rw [List.getD_eq_getElem?_getD, known.mirrors kept.1.1 index row here kept.2]
          rfl
  rw [Screen.snapshotWith, ← rows]
  rfl

end Run

section Revisions

variable {Style : Type} {unicodeWidth : String → Nat} {world : World Style} {index : Nat}
  {revision : UInt64} {cells : List CellSnapshot} {steps : Nat}

/-- In so many steps the revision of a row has moved on, or the row is still as it was. -/
def World.Tracks (world : World Style) (index : Nat) (revision : UInt64)
    (cells : List CellSnapshot) (steps : Nat) : Prop :=
  ∃ moved ≤ steps, world.snapshot.rowRevisions[index]? = some (revision + UInt64.ofNat moved) ∧
    (moved = 0 → world.snapshot.rowsData[index]? = some cells)

/-- A turn of a row loop moves the revision of a row that it rebuilds. -/
theorem tracks_loop {after : World Style} {rebuilt : Bool} {read : List CellSnapshot}
    (tracks : world.Tracks index revision cells steps)
    (rows : after.snapshot.rowsData[index]? =
      some (if rebuilt then read else world.snapshot.rowsData.getD index []))
    (revisions : after.snapshot.rowRevisions[index]? =
      some (if rebuilt then world.snapshot.rowRevisions.getD index 1 + 1
        else world.snapshot.rowRevisions.getD index 1)) :
    after.Tracks index revision cells (steps + 1) := by
  obtain ⟨moved, few, before, still⟩ := tracks
  rw [List.getD_eq_getElem?_getD, before, Option.getD_some] at revisions
  cases rebuilt with
  | true =>
      refine ⟨moved + 1, Nat.succ_le_succ few, ?_, fun none => by cases none⟩
      rw [revisions, if_pos rfl, UInt64.add_assoc, UInt64.ofNat_add]
      rfl
  | false =>
      refine ⟨moved, Nat.le_succ_of_le few, revisions, fun none => ?_⟩
      rw [rows, List.getD_eq_getElem?_getD, still none]
      rfl

theorem tracks_next (known : world.Known unicodeWidth)
    (tracks : world.Tracks index revision cells steps) {event : Event Style}
    (hasRow : world.HasRow index event) :
    (world.next unicodeWidth event).Tracks index revision cells (steps + 1) := by
  obtain ⟨moved, few, before, still⟩ := tracks
  have stays : world.Tracks index revision cells (steps + 1) :=
    ⟨moved, Nat.le_succ_of_le few, before, still⟩
  cases event with
  | enqueuePtyChunk chunk => exact stays
  | processPendingPtyWork turns screen => exact stays
  | writeVtBytes bytes screen => exact stays
  | resizeOrScroll screen => exact stays
  | refresh clears =>
      have read := render_at unicodeWidth (List.getElem?_eq_getElem hasRow)
      obtain ⟨rows, revisions⟩ := refreshSnapshot_at known.revised read
      exact tracks_loop ⟨moved, few, before, still⟩ rows revisions
  | failRefresh turns clears =>
      have read := render_at unicodeWidth (List.getElem?_eq_getElem hasRow)
      obtain ⟨rows, revisions⟩ := failedRefresh_at known.revised read
      exact tracks_loop ⟨moved, few, before, still⟩ rows revisions

theorem tracks_run (known : world.Known unicodeWidth)
    (tracks : world.Tracks index revision cells steps) {events : List (Event Style)}
    (honest : Always (World.next unicodeWidth) World.Honest world events)
    (hasRow : Always (World.next unicodeWidth) (fun world => world.HasRow index) world events) :
    (events.foldl (World.next unicodeWidth) world).Tracks index revision cells
      (steps + events.length) := by
  induction events generalizing world steps with
  | nil => exact tracks
  | cons event events ih =>
      have here := ih (known.next honest.1) (tracks_next known tracks hasRow.1) honest.2 hasRow.2
      rwa [Nat.add_right_comm] at here

theorem known_run (known : world.Known unicodeWidth) {events : List (Event Style)}
    (honest : Always (World.next unicodeWidth) World.Honest world events) :
    World.Known unicodeWidth (events.foldl (World.next unicodeWidth) world) := by
  induction events generalizing world with
  | nil => exact known
  | cons event events ih => exact ih (known.next honest.1) honest.2

/-- The worker after a run. -/
def reached (unicodeWidth : String → Nat) (pane : VtPane) (screen : Screen Style)
    (clears : Nat → Bool) (events : List (Event Style)) : World Style :=
  events.foldl (World.next unicodeWidth) (spawned unicodeWidth pane screen clears)

theorem reached_append (unicodeWidth : String → Nat) (pane : VtPane) (screen : Screen Style)
    (clears : Nat → Bool) (events later : List (Event Style)) :
    reached unicodeWidth pane screen clears (events ++ later) =
      later.foldl (World.next unicodeWidth) (reached unicodeWidth pane screen clears events) :=
  List.foldl_append

/-- After any run, with refreshes that fail at any row and screens that grow and shrink, a refresh
gives what reading the whole screen would give, although it reads only dirty rows; and two
snapshots of a worker, at most so many steps apart, that have one revision for a row have the same
cells in it, if no refresh between them was of a screen without that row. -/
theorem refreshes_mirror (pane : VtPane) (screen : Screen Style) (clears : Nat → Bool)
    (events later : List (Event Style))
    (honest : Always (World.next unicodeWidth) World.Honest
      (spawned unicodeWidth pane screen clears) (events ++ later)) :
    (∀ clears', ((reached unicodeWidth pane screen clears events).next unicodeWidth
        (.refresh clears')).snapshot =
      (reached unicodeWidth pane screen clears events).screen.snapshotWith unicodeWidth
        ((reached unicodeWidth pane screen clears events).next unicodeWidth
          (.refresh clears')).snapshot.rowRevisions) ∧
      ∀ (index : Nat) (revision : UInt64),
        Always (World.next unicodeWidth) (fun world => world.HasRow index)
          (reached unicodeWidth pane screen clears events) later →
        later.length < 2 ^ 64 →
        (reached unicodeWidth pane screen clears events).snapshot.rowRevisions[index]? =
          some revision →
        (reached unicodeWidth pane screen clears (events ++ later)).snapshot.rowRevisions[index]? =
          some revision →
        (reached unicodeWidth pane screen clears (events ++ later)).snapshot.rowsData[index]? =
          (reached unicodeWidth pane screen clears events).snapshot.rowsData[index]? := by
  obtain ⟨first, second⟩ := always_append.mp honest
  have known : World.Known unicodeWidth (reached unicodeWidth pane screen clears events) :=
    known_run (known_spawned pane screen clears) first
  refine ⟨known.refreshed, fun index revision hasRow short before after => ?_⟩
  have inside : index <
      (reached unicodeWidth pane screen clears events).snapshot.rowsData.length := by
    rw [← known.revised]
    exact (List.getElem?_eq_some_iff.mp before).1
  have held := List.getElem?_eq_getElem inside
  have start : (reached unicodeWidth pane screen clears events).Tracks index revision
      (reached unicodeWidth pane screen clears events).snapshot.rowsData[index] 0 := by
    refine ⟨0, le_rfl, ?_, fun _ => held⟩
    rw [before]
    exact congrArg some (UInt64.add_zero revision).symm
  obtain ⟨moved, few, moves, still⟩ := tracks_run known start second hasRow
  rw [reached_append] at after ⊢
  have same : revision + UInt64.ofNat moved = revision :=
    Option.some_inj.mp (moves.symm.trans after)
  have zero : moved = 0 := by
    have none : UInt64.ofNat moved = 0 := by
      have cancel : revision + UInt64.ofNat moved = revision + 0 := by
        rw [same, UInt64.add_zero]
      exact (UInt64.add_right_inj revision).mp cancel
    have small : moved < 2 ^ 64 := by omega
    have value := congrArg UInt64.toNat none
    rwa [UInt64.toNat_ofNat_of_lt' small] at value
  exact (still zero).trans held.symm

def letter (codepoint : UInt32) : LibraryCell :=
  ⟨[codepoint], none, none, true, false, false, 0, none⟩

/-- Two rows of one cell, of which the first is not dirty. -/
def twoRows (dirty : Bool) (codepoint : UInt32) : Screen Unit where
  cols := 1
  rows := 2
  title := ""
  pwd := ""
  cursor := ⟨false, false, 0, 0, ()⟩
  colors := ⟨⟨0, 0, 0⟩, ⟨0, 0, 0⟩, ⟨0, 0, 0⟩, false⟩
  lines := [⟨false, [letter 97]⟩, ⟨dirty, [letter codepoint]⟩]
  complete := rfl

def quietPane : VtPane := ⟨[], true, {}, [], 0, false, []⟩

/-- The second row changes, and the first refresh fails before it has read that row. -/
def changed : List (Event Unit) :=
  [.resizeOrScroll (twoRows true 99), .failRefresh 1 fun _ => true]

/-- The refresh that follows reads the second row, and the first row keeps its revision and its
cells. -/
theorem refreshes_mirror_changed :
    ((reached (fun _ => 1) quietPane (twoRows true 98) (fun _ => true) changed).next (fun _ => 1)
        (.refresh fun _ => true)).snapshot =
      (twoRows true 99).snapshotWith (fun _ => 1) [1, 2] ∧
    (reached (fun _ => 1) quietPane (twoRows true 98) (fun _ => true)
        (changed ++ [.refresh fun _ => true])).snapshot.rowsData[0]? =
      (reached (fun _ => 1) quietPane (twoRows true 98) (fun _ => true)
        changed).snapshot.rowsData[0]? := by
  have honest : Always (World.next fun _ => 1) World.Honest
      (spawned (fun _ => 1) quietPane (twoRows true 98) fun _ => true)
      (changed ++ [.refresh fun _ => true]) := by
    refine ⟨⟨?_, .inl rfl⟩, trivial, trivial, trivial⟩
    intro index row here clean
    obtain ⟨inside, held⟩ := List.getElem?_eq_some_iff.mp here
    obtain rfl | rfl : index = 0 ∨ index = 1 := by
      rw [show (twoRows true 99).lines.length = 2 from rfl] at inside
      omega
    · exact congrArg some held
    · subst held
      cases clean
  have mirrors := refreshes_mirror quietPane (twoRows true 98) (fun _ => true) changed
    [.refresh fun _ => true] honest
  refine ⟨mirrors.1 fun _ => true, mirrors.2 0 1 ⟨?_, trivial⟩ (by decide) (by decide) (by decide)⟩
  exact Nat.zero_lt_two

end Revisions

end Boo.Runtime.SnapshotMirror
