/- module: Boo/Client/SnapshotDelta
   digest: When a delta applied by the GUI client agrees with the full state it replaces. -/

import Boo.Client.Snapshot
import Boo.Wire.Overlay

set_option autoImplicit false
set_option relaxedAutoImplicit false

namespace Boo.Client.SnapshotDelta

open Boo.Lib.LittleEndian
open Boo.Lib.RowMajor
open Boo.Lib.WriteRun
open Boo.Wire.Message
open Boo.Wire.Delta
open Boo.Wire.Overlay
open Boo.Client.Snapshot

theorem remoteCellAt_rest {data rest : List UInt8} {offset : Nat} {cell : RemoteCell}
    (h : Rest data offset (encodeCell cell ++ rest)) : remoteCellAt data offset = cell := by
  simp only [encodeCell, RgbColor.bytes, List.append_assoc, List.cons_append,
    List.nil_append] at h
  have h4 := h.skip
  rw [length_leU32] at h4
  have h5 := h4.next
  have h6 := h5.next
  have h7 := h6.next
  have h8 := h7.next
  have h9 := h8.next
  have h10 := h9.next
  have h11 := h10.next
  simp only [remoteCellAt, u32At_rest h, u8At_rest h4, u8At_rest h5, u8At_rest h6, u8At_rest h7,
    u8At_rest h8, u8At_rest h9, u8At_rest h10, u8At_rest h11, boolByte_ne_zero]

theorem decodeCells_encoded {data tail : List UInt8} (cells : List RemoteCell) (offset : Nat)
    (h : Rest data offset (cells.flatMap encodeCell ++ tail)) :
    decodeCells data cells.length offset =
      some (cells, offset + cells.length * remoteCellEncodedLen) := by
  induction cells generalizing offset with
  | nil => simp [decodeCells]
  | cons cell cells ih =>
      rw [List.flatMap_cons, List.append_assoc] at h
      have bound := h.bound (length_encodeCell cell)
      have next := h.skip
      rw [length_encodeCell] at next
      have fits : ¬ data.length < offset + 12 := by omega
      rw [List.length_cons, decodeCells, if_neg fits, ih (offset + 12) next]
      dsimp only
      rw [remoteCellAt_rest h, Nat.succ_mul, remoteCellEncodedLen, Nat.add_assoc,
        Nat.add_comm 12]

/-- What the decoder returns for one encoded segment. -/
def rowDeltaOf (changed : ChangedRow) : RemoteRowDelta where
  row := UInt16.ofNat changed.row
  startCol := UInt16.ofNat changed.startCol
  cells := changed.cells

theorem decodeRows_encoded {data tail : List UInt8} (changes : List ChangedRow)
    (encodable : ∀ changed ∈ changes, Encodable changed) (offset : Nat)
    (h : Rest data offset (changes.flatMap encodeChangedRow ++ tail)) :
    decodeRows data changes.length offset = some (changes.map rowDeltaOf) := by
  induction changes generalizing offset with
  | nil => rfl
  | cons changed changes ih =>
      have lengthSmall := (encodable changed List.mem_cons_self).length_lt
      have later : ∀ other ∈ changes, Encodable other :=
        fun other member => encodable other (List.mem_cons_of_mem _ member)
      rw [List.flatMap_cons, encodeChangedRow] at h
      simp only [List.append_assoc] at h
      have h2 := h.skip
      have h4 := h2.skip
      have h6 := h4.skip
      have hNext := h6.skip
      simp only [length_leU16, Nat.add_assoc, Nat.reduceAdd] at h2 h4 h6
      simp only [length_leU16, length_cells, Nat.add_assoc, Nat.reduceAdd] at hNext
      rw [← Nat.add_assoc] at hNext
      have headerFits : ¬ data.length < offset + 6 := by
        have total := h6.length_eq
        omega
      rw [List.length_cons, decodeRows, if_neg headerFits, u16At_rest h4,
        toNat_ofNat_u16 lengthSmall, decodeCells_encoded changed.cells (offset + 6) h6]
      dsimp only
      rw [ih later _ hNext, u16At_rest h, u16At_rest h2]
      rfl

/-- What the decoder returns for the delta from `previous` to `current`. -/
def remoteDeltaOf (previous current : RemoteFullState) : RemoteDelta where
  cursorX := current.cursorX
  cursorY := current.cursorY
  cursorVisible := current.cursorVisible
  cursorBlinking := current.cursorBlinking
  cursorStyle := current.cursorStyle
  scrollRows := 0
  changedRows := (changedRows previous current).map rowDeltaOf

/-- Zero stands for "no sequence number" on the wire. -/
def ackOf (latestInputSeq : Option UInt64) : Option UInt64 :=
  if latestInputSeq.getD 0 ≠ 0 then some (latestInputSeq.getD 0) else none

theorem decodeRemoteDelta_encodeDelta {previous current : RemoteFullState}
    (shape : SameShape previous current) {latestInputSeq : Option UInt64} {payload : List UInt8}
    (h : encodeDelta previous current latestInputSeq true = some payload) :
    decodeRemoteDelta payload = some (ackOf latestInputSeq, remoteDeltaOf previous current) := by
  obtain ⟨-, -, formula⟩ := encodeDelta_eq_some h
  have h0 : Rest payload 0 payload := rest_zero payload
  nth_rewrite 2 [formula] at h0
  rw [encodeDeltaHeader, inputSeqPrefix, if_pos rfl] at h0
  simp only [List.append_assoc, List.cons_append, List.nil_append] at h0
  have h8 := h0.skip
  have h10 := h8.skip
  have h12 := h10.skip
  have h14 := h12.skip
  have h15 := h14.next
  have h16 := h15.next
  have h17 := h16.next
  have h21 := h17.skip
  simp only [length_leU16, length_leI32, length_leU64, Nat.reduceAdd] at h8 h10 h12 h14 h15 h16 h17 h21
  have headerFits : ¬ payload.length < localDeltaHeaderLen := by
    have total := h21.length_eq
    simp only [localDeltaHeaderLen, localInputSeqLen, remoteDeltaHeaderLen]
    omega
  have count : (changedRows previous current).length < 65536 := by
    have few := length_changedRows_le previous current
    have rowsSmall : current.rows.toNat < 2 ^ 16 := current.rows.toNat_lt
    omega
  have rows := decodeRows_encoded (changedRows previous current)
    (fun changed member => encodable_of_mem shape member) 21 h21
  rw [decodeRemoteDelta, if_neg headerFits]
  dsimp only
  rw [u8At_rest h16, if_neg (by decide), u16At_rest h8, toNat_ofNat_u16 count]
  simp only [localDeltaHeaderLen, localInputSeqLen, remoteDeltaHeaderLen, Nat.reduceAdd]
  rw [rows]
  dsimp only
  rw [ackInputSeq, u64At_rest h0, u16At_rest h10, u16At_rest h12, u8At_rest h14, u8At_rest h15,
    i32At_rest h17, boolByte_ne_zero, boolByte_ne_zero]
  rfl

section Apply

variable {Style : Type}

/-- What a row write leaves unchanged, and the row width it keeps. -/
structure SameGrid (before after : TerminalSnapshot Style) : Prop where
  cols_eq : after.cols = before.cols
  rows_eq : after.rows = before.rows
  cursor_eq : after.cursor = before.cursor
  length_eq : after.rowsData.length = before.rowsData.length
  uniform : Uniform after.cols.toNat after.rowsData

theorem SameGrid.trans {a b c : TerminalSnapshot Style} (hab : SameGrid a b)
    (hbc : SameGrid b c) : SameGrid a c where
  cols_eq := hbc.cols_eq.trans hab.cols_eq
  rows_eq := hbc.rows_eq.trans hab.rows_eq
  cursor_eq := hbc.cursor_eq.trans hab.cursor_eq
  length_eq := hbc.length_eq.trans hab.length_eq
  uniform := hbc.uniform

theorem applyRowDelta_encoded {snapshot : TerminalSnapshot Style} {changed : ChangedRow}
    (uniform : Uniform snapshot.cols.toNat snapshot.rowsData) (encodable : Encodable changed)
    (fits : Fits snapshot.rowsData.length snapshot.cols.toNat changed) :
    SameGrid snapshot (applyRowDelta snapshot (rowDeltaOf changed)) ∧
      (applyRowDelta snapshot (rowDeltaOf changed)).rowsData.flatten =
        writeRun snapshot.rowsData.flatten (startOf snapshot.cols.toNat changed)
          (changed.cells.map remoteCellToSnapshotDefault) := by
  obtain ⟨rowBound, startBound, width⟩ := fits
  have pos : 0 < snapshot.cols.toNat := by omega
  have rowIndex : (rowDeltaOf changed).row.toNat = changed.row :=
    toNat_ofNat_u16 encodable.row_lt
  have startCol : (rowDeltaOf changed).startCol.toNat = changed.startCol :=
    toNat_ofNat_u16 encodable.startCol_lt
  have found : snapshot.rowsData[changed.row]? = some snapshot.rowsData[changed.row] :=
    List.getElem?_eq_getElem rowBound
  have rowLen : snapshot.rowsData[changed.row].length = snapshot.cols.toNat :=
    uniform _ (List.getElem_mem rowBound)
  have sized : resizeRow snapshot.rowsData[changed.row] snapshot.cols.toNat =
      snapshot.rowsData[changed.row] := by
    rw [resizeRow, rowLen, Nat.sub_self, List.replicate_zero, List.append_nil]
  have whole : (rowDeltaOf changed).cells.take (snapshot.cols.toNat - changed.startCol) =
      changed.cells := by
    apply List.take_of_length_le
    have sameCells : (rowDeltaOf changed).cells.length = changed.cells.length := rfl
    omega
  have inside : ¬ snapshot.cols.toNat ≤ changed.startCol := by omega
  have value : applyRowDelta snapshot (rowDeltaOf changed) = { snapshot with
      rowsData := snapshot.rowsData.set changed.row (writeRun snapshot.rowsData[changed.row]
        changed.startCol (changed.cells.map remoteCellToSnapshotDefault))
      rowRevisions := snapshot.rowRevisions.modify changed.row (· + 1) } := by
    rw [applyRowDelta]
    dsimp only
    rw [rowIndex, startCol, found]
    dsimp only
    rw [if_neg inside, sized, whole]
  rw [value]
  refine ⟨⟨rfl, rfl, rfl, List.length_set, ?_⟩, ?_⟩
  · exact uniform_set uniform (by rw [length_writeRun, rowLen])
  · exact flatten_set_writeRun pos uniform found (by rw [List.length_map]; exact width)

/-- The row loop of `apply_remote_delta_snapshot` performs the overlay. -/
theorem foldl_applyRowDelta_encoded (changes : List ChangedRow)
    (snapshot : TerminalSnapshot Style)
    (uniform : Uniform snapshot.cols.toNat snapshot.rowsData)
    (encodable : ∀ changed ∈ changes, Encodable changed)
    (fits : ∀ changed ∈ changes, Fits snapshot.rowsData.length snapshot.cols.toNat changed) :
    SameGrid snapshot ((changes.map rowDeltaOf).foldl applyRowDelta snapshot) ∧
      ((changes.map rowDeltaOf).foldl applyRowDelta snapshot).rowsData.flatten =
        overlay remoteCellToSnapshotDefault snapshot.rowsData.length snapshot.cols.toNat
          snapshot.rowsData.flatten changes := by
  induction changes generalizing snapshot with
  | nil => exact ⟨⟨rfl, rfl, rfl, rfl, uniform⟩, rfl⟩
  | cons changed changes ih =>
      have here := fits changed List.mem_cons_self
      obtain ⟨same, flat⟩ :=
        applyRowDelta_encoded uniform (encodable changed List.mem_cons_self) here
      have fits' : ∀ other ∈ changes,
          Fits (applyRowDelta snapshot (rowDeltaOf changed)).rowsData.length
            (applyRowDelta snapshot (rowDeltaOf changed)).cols.toNat other := by
        intro other member
        rw [same.length_eq, same.cols_eq]
        exact fits other (List.mem_cons_of_mem _ member)
      obtain ⟨later, flat'⟩ := ih _ same.uniform
        (fun other member => encodable other (List.mem_cons_of_mem _ member)) fits'
      rw [List.map_cons, List.foldl_cons]
      refine ⟨same.trans later, ?_⟩
      rw [flat', flat, same.length_eq, same.cols_eq, overlay, if_pos here]

/-- The parts of a snapshot that a frame determines: dimensions, cells and cursor. -/
structure SameScreen (a b : TerminalSnapshot Style) : Prop where
  cols_eq : a.cols = b.cols
  rows_eq : a.rows = b.rows
  rowsData_eq : a.rowsData = b.rowsData
  cursor_eq : a.cursor = b.cursor

variable (cursorStyleOf : Int32 → Style) {previous current : RemoteFullState}

theorem rowsData_fullState {state : RemoteFullState} (wf : state.WellFormed) (seed : UInt64)
    (foreground background cursorColor : RgbColor) :
    let snapshot := remoteFullStateToVtSnapshot cursorStyleOf state seed foreground background
      cursorColor
    snapshot.rowsData.length = state.rows.toNat ∧
      Uniform state.cols.toNat snapshot.rowsData ∧
      snapshot.rowsData.flatten =
        state.cells.map fun cell => remoteCellToSnapshot cell foreground background := by
  have width : max state.cols.toNat 1 = state.cols.toNat := Nat.max_eq_left wf.cols_pos
  have len := wf.cells_length
  simp only [remoteFullStateToVtSnapshot, width]
  refine ⟨?_, ?_, ?_⟩
  · rw [List.length_map, length_chunks wf.cols_pos len]
  · intro row member
    obtain ⟨piece, hPiece, rfl⟩ := List.mem_map.mp member
    rw [List.length_map]
    exact uniform_chunks wf.cols_pos len piece hPiece
  · rw [← List.map_flatten, flatten_chunks wf.cols_pos len]

/-- A delta moves the cursor and overlays the cells of a snapshot of the right dimensions. -/
theorem applyRemoteDelta_overlay (shape : SameShape previous current)
    {base : TerminalSnapshot Style} (cols : base.cols = current.cols)
    (count : base.rowsData.length = current.rows.toNat)
    (uniform : Uniform current.cols.toNat base.rowsData) :
    SameGrid
        { base with
          cursor := {
            x := current.cursorX
            y := current.cursorY
            visible := current.cursorVisible
            blinking := current.cursorBlinking
            style := cursorStyleOf current.cursorStyle } }
        (applyRemoteDeltaSnapshot cursorStyleOf base (remoteDeltaOf previous current)) ∧
      (applyRemoteDeltaSnapshot cursorStyleOf base
          (remoteDeltaOf previous current)).rowsData.flatten =
        overlay remoteCellToSnapshotDefault current.rows.toNat current.cols.toNat
          base.rowsData.flatten (changedRows previous current) := by
  let moved : TerminalSnapshot Style := { base with
    cursor := {
      x := current.cursorX
      y := current.cursorY
      visible := current.cursorVisible
      blinking := current.cursorBlinking
      style := cursorStyleOf current.cursorStyle } }
  let sized : TerminalSnapshot Style :=
    if moved.rowRevisions.length ≠ moved.rowsData.length then resizeRevisions moved else moved
  have applied : applyRemoteDeltaSnapshot cursorStyleOf base (remoteDeltaOf previous current) =
      ((changedRows previous current).map rowDeltaOf).foldl applyRowDelta sized := by
    have still : ¬ (remoteDeltaOf previous current).scrollRows ≠ 0 := not_not.mpr rfl
    rw [applyRemoteDeltaSnapshot]
    dsimp only
    rw [if_neg still]
    rfl
  -- resizing the revisions leaves the grid as it is
  have grid : sized.cols = base.cols ∧ sized.rows = base.rows ∧ sized.cursor = moved.cursor ∧
      sized.rowsData = base.rowsData := by
    simp only [sized]
    split <;> exact ⟨rfl, rfl, rfl, rfl⟩
  obtain ⟨sizedCols, sizedRows, sizedCursor, sizedData⟩ := grid
  have fits : ∀ changed ∈ changedRows previous current,
      Fits sized.rowsData.length sized.cols.toNat changed := by
    intro changed member
    rw [sizedData, count, sizedCols, cols]
    exact fits_of_mem shape member
  have sizedUniform : Uniform sized.cols.toNat sized.rowsData := by
    rw [sizedCols, sizedData, cols]
    exact uniform
  obtain ⟨same, overlaid⟩ := foldl_applyRowDelta_encoded (changedRows previous current) sized
    sizedUniform (fun changed member => encodable_of_mem shape member) fits
  rw [sizedData, sizedCols, cols, count] at overlaid
  rw [applied]
  refine ⟨⟨same.cols_eq.trans sizedCols, same.rows_eq.trans sizedRows,
    same.cursor_eq.trans sizedCursor, ?_, same.uniform⟩, overlaid⟩
  rw [same.length_eq, sizedData]

/-- After the delta of a changed grid the GUI holds the current screen exactly when the two
cell conversions agree on every touched cell. -/
theorem applyRemoteDelta_sameScreen_iff (shape : SameShape previous current)
    (previousSeed currentSeed : UInt64) (foreground background cursorColor : RgbColor) :
    SameScreen
        (applyRemoteDeltaSnapshot cursorStyleOf
          (remoteFullStateToVtSnapshot cursorStyleOf previous previousSeed foreground background
            cursorColor)
          (remoteDeltaOf previous current))
        (remoteFullStateToVtSnapshot cursorStyleOf current currentSeed foreground background
          cursorColor) ↔
      ∀ i, Touched previous current i → current.cells[i]?.map remoteCellToSnapshotDefault =
        current.cells[i]?.map fun cell => remoteCellToSnapshot cell foreground background := by
  obtain ⟨count, uniform, flat⟩ := rowsData_fullState cursorStyleOf shape.previous_wf previousSeed
    foreground background cursorColor
  obtain ⟨-, uniform', flat'⟩ := rowsData_fullState cursorStyleOf shape.current_wf currentSeed
    foreground background cursorColor
  rw [shape.rows_eq] at count
  rw [shape.cols_eq] at uniform
  obtain ⟨same, overlaid⟩ := applyRemoteDelta_overlay cursorStyleOf shape shape.cols_eq count uniform
  have cells := overlay_changedRows shape
    (fun cell => remoteCellToSnapshot cell foreground background) remoteCellToSnapshotDefault
  rw [← flat, ← overlaid, ← flat'] at cells
  rw [← cells]
  constructor
  · intro screen
    rw [screen.rowsData_eq]
  · intro flatEq
    have resultCols := same.cols_eq.trans shape.cols_eq
    refine ⟨resultCols, same.rows_eq.trans shape.rows_eq, ?_, same.cursor_eq⟩
    have resultUniform := same.uniform
    rw [resultCols] at resultUniform
    exact eq_of_flatten_eq shape.current_wf.cols_pos resultUniform uniform' flatEq

/-- Both conversions paint `cell` alike: each colour is explicit or the configured default is
the built-in one. -/
def PaintedAlike (foreground background : RgbColor) (cell : RemoteCell) : Prop :=
  (hasFlag cell remoteStyleFlagExplicitFg ∨ foreground = defaultTerminalForeground) ∧
    (hasFlag cell remoteStyleFlagExplicitBg ∨ background = defaultTerminalBackground)

theorem remoteCellToSnapshotDefault_eq_iff (foreground background : RgbColor)
    (cell : RemoteCell) :
    remoteCellToSnapshotDefault cell = remoteCellToSnapshot cell foreground background ↔
      PaintedAlike foreground background cell := by
  constructor
  · intro same
    have fgEq : (if hasFlag cell remoteStyleFlagExplicitFg then cell.fg
        else defaultTerminalForeground) =
        if hasFlag cell remoteStyleFlagExplicitFg then cell.fg else foreground :=
      congrArg CellSnapshot.fg same
    have bgEq : (if hasFlag cell remoteStyleFlagExplicitBg then cell.bg
        else defaultTerminalBackground) =
        if hasFlag cell remoteStyleFlagExplicitBg then cell.bg else background :=
      congrArg CellSnapshot.bg same
    constructor
    · by_cases explicit : hasFlag cell remoteStyleFlagExplicitFg
      · exact Or.inl explicit
      · rw [if_neg explicit, if_neg explicit] at fgEq
        exact Or.inr fgEq.symm
    · by_cases explicit : hasFlag cell remoteStyleFlagExplicitBg
      · exact Or.inl explicit
      · rw [if_neg explicit, if_neg explicit] at bgEq
        exact Or.inr bgEq.symm
  · rintro ⟨explicitFg | rfl, explicitBg | rfl⟩ <;>
      simp [remoteCellToSnapshotDefault, remoteCellToSnapshot, *]

/-- The delta path and the full-state path of the GUI client show the same screen exactly
when every cell of a changed span is painted alike. -/
theorem delta_agrees_with_fullState_iff (previous current : RemoteFullState)
    (previousWf : previous.WellFormed) (currentWf : current.WellFormed)
    (latestInputSeq : Option UInt64) (payload : List UInt8)
    (h : encodeDelta previous current latestInputSeq true = some payload)
    (previousSeed currentSeed : UInt64) (foreground background cursorColor : RgbColor) :
    (∃ ack delta, decodeRemoteDelta payload = some (ack, delta) ∧
      SameScreen
        (applyRemoteDeltaSnapshot cursorStyleOf
          (remoteFullStateToVtSnapshot cursorStyleOf previous previousSeed foreground background
            cursorColor) delta)
        (remoteFullStateToVtSnapshot cursorStyleOf current currentSeed foreground background
          cursorColor)) ↔
      ∀ i cell, Touched previous current i → current.cells[i]? = some cell →
        PaintedAlike foreground background cell := by
  obtain ⟨rowsEq, colsEq⟩ := encodeDelta_dims h
  have shape : SameShape previous current := ⟨previousWf, currentWf, rowsEq, colsEq⟩
  have decoded := decodeRemoteDelta_encodeDelta shape h
  have screens := applyRemoteDelta_sameScreen_iff cursorStyleOf shape previousSeed currentSeed
    foreground background cursorColor
  constructor
  · rintro ⟨ack, delta, found, same⟩ i cell touched value
    rw [decoded] at found
    obtain ⟨-, rfl⟩ := Prod.mk.inj (Option.some.inj found)
    have agree := screens.mp same i touched
    rw [value] at agree
    exact (remoteCellToSnapshotDefault_eq_iff foreground background cell).mp
      (Option.some.inj agree)
  · intro alike
    refine ⟨_, _, decoded, screens.mpr fun i touched => ?_⟩
    cases value : current.cells[i]? with
    | none => rfl
    | some cell =>
        have paint := alike i cell touched value
        exact congrArg some
          ((remoteCellToSnapshotDefault_eq_iff foreground background cell).mpr paint)

theorem delta_agrees_with_fullState_iff_smallGrid :
    ∃ payload,
      encodeDelta (smallGrid [plainCell 0, plainCell 0, plainCell 0, plainCell 0])
        (smallGrid [plainCell 0, plainCell 0, plainCell 0, plainCell 65]) none true =
          some payload ∧
      ∃ ack delta, decodeRemoteDelta payload = some (ack, delta) ∧
        SameScreen
          (applyRemoteDeltaSnapshot id
            (remoteFullStateToVtSnapshot id
              (smallGrid [plainCell 0, plainCell 0, plainCell 0, plainCell 0]) 1
              defaultTerminalForeground defaultTerminalBackground ⟨255, 255, 255⟩) delta)
          (remoteFullStateToVtSnapshot id
            (smallGrid [plainCell 0, plainCell 0, plainCell 0, plainCell 65]) 1
            defaultTerminalForeground defaultTerminalBackground ⟨255, 255, 255⟩) :=
  ⟨_, rfl, (delta_agrees_with_fullState_iff id
    (smallGrid [plainCell 0, plainCell 0, plainCell 0, plainCell 0])
    (smallGrid [plainCell 0, plainCell 0, plainCell 0, plainCell 65])
    (smallGrid_wellFormed _ _ _ _) (smallGrid_wellFormed _ _ _ _) none _ rfl 1 1
    defaultTerminalForeground defaultTerminalBackground ⟨255, 255, 255⟩).mpr
    fun _ _ _ _ => ⟨Or.inr rfl, Or.inr rfl⟩⟩

/-- With a configured foreground of another colour, one typed default-coloured character is
painted differently by the two paths. -/
theorem delta_disagrees_configured_foreground :
    ∃ payload ack delta,
      encodeDelta (smallGrid [plainCell 0, plainCell 0, plainCell 0, plainCell 0])
        (smallGrid [plainCell 0, plainCell 0, plainCell 0, plainCell 65]) none true =
          some payload ∧
      decodeRemoteDelta payload = some (ack, delta) ∧
      ¬ SameScreen
          (applyRemoteDeltaSnapshot id
            (remoteFullStateToVtSnapshot id
              (smallGrid [plainCell 0, plainCell 0, plainCell 0, plainCell 0]) 1
              ⟨0xC0, 0xC0, 0xC0⟩ defaultTerminalBackground ⟨255, 255, 255⟩) delta)
          (remoteFullStateToVtSnapshot id
            (smallGrid [plainCell 0, plainCell 0, plainCell 0, plainCell 65]) 1
            ⟨0xC0, 0xC0, 0xC0⟩ defaultTerminalBackground ⟨255, 255, 255⟩) := by
  refine ⟨_, _, _, rfl, rfl, ?_⟩
  intro same
  have cells := same.rowsData_eq
  revert cells
  decide

end Apply

end Boo.Client.SnapshotDelta
