/- module: Boo/Wire/TruncatedDelta
   digest: Which truncated pane deltas the iOS decoder takes for unprefixed ones. -/

import Boo.Wire.Overlay
import Boo.Wire.SwiftCodec

set_option autoImplicit false
set_option relaxedAutoImplicit false

namespace Boo.Wire.TruncatedDelta

open Boo.Lib.LittleEndian
open Boo.Lib.Records
open Boo.Wire.Message
open Boo.Wire.Delta
open Boo.Wire.Overlay
open Boo.Wire.SwiftCodec

/-- A delta in the prefixed layout, its row-replica trailer removed. -/
structure PrefixedDelta where
  inputSeq : UInt64
  cursorX : UInt16
  cursorY : UInt16
  cursorVisible : Bool
  cursorBlinking : Bool
  cursorStyle : Int32
  scroll : Option Int16
  rows : List ChangedRow
  rows_length : rows.length < 65536
  rows_encodable : ∀ row ∈ rows, Encodable row

def scrollBytes : Option Int16 → List UInt8
  | none => []
  | some scrollRows => leU16 scrollRows.toUInt16

namespace PrefixedDelta

variable (delta : PrefixedDelta)

def header : List UInt8 :=
  leU64 delta.inputSeq ++ leU16 (UInt16.ofNat delta.rows.length) ++ leU16 delta.cursorX ++
    leU16 delta.cursorY ++ [boolByte delta.cursorVisible, boolByte delta.cursorBlinking,
      boolByte delta.scroll.isSome] ++ leI32 delta.cursorStyle

def bytes : List UInt8 :=
  delta.header ++ scrollBytes delta.scroll ++ delta.rows.flatMap encodeChangedRow

/-- Where the unprefixed layout has its rows: it takes the low byte of the row count for the flags,
so that an odd number of rows announces a scroll. -/
def unprefixedRows : Nat := remoteDeltaHeaderLen + if delta.rows.length % 2 = 1 then 2 else 0

/-- The bytes hold as many complete rows as the low sixteen bits of the input sequence number say,
counted from where the unprefixed layout has them. -/
def LooksUnprefixed (payload : List UInt8) : Prop :=
  delta.unprefixedRows ≤ payload.length ∧
    rowFraming.Begins (delta.inputSeq.toNat % 65536) (payload.drop delta.unprefixedRows)

end PrefixedDelta

/-- Where a decoder finds the rows of `data`. -/
def rowsStart (data : List UInt8) (inputSeqPrefix : Bool) : Nat :=
  prefixLen inputSeqPrefix + remoteDeltaHeaderLen +
    if u8At data (prefixLen inputSeqPrefix + 8) &&& 0x01 ≠ 0 then 2 else 0

/-- The row loop succeeds exactly when all rows are there, whatever the screen is. -/
theorem applyDeltaRows_fst_iff (data : List UInt8) (n offset : Nat)
    (state : DecodedWireScreenState) :
    (applyDeltaRows data n offset state).1 = true ↔ rowFraming.Begins n (data.drop offset) := by
  induction n generalizing offset state with
  | zero =>
    simp only [applyDeltaRows, true_iff]
    exact Framing.begins_zero _
  | succ n ih =>
    have size : rowFraming.size (data.drop offset) =
        6 + (u16At data (offset + 4)).toNat * remoteCellEncodedLen := by
      simp only [Framing.size, rowFraming, u16At_drop]
    rw [Framing.begins_succ, size, List.length_drop, List.drop_drop, applyDeltaRows]
    by_cases headShort : data.length < offset + 6
    · rw [if_pos headShort]
      have short : ¬ 6 + (u16At data (offset + 4)).toNat * remoteCellEncodedLen ≤
          data.length - offset := by omega
      simp only [Bool.false_eq_true, short, false_and]
    rw [if_neg headShort]
    dsimp only
    by_cases bodyShort : data.length < offset + 6 +
        (u16At data (offset + 4)).toNat * remoteCellEncodedLen
    · rw [if_pos bodyShort]
      have short : ¬ 6 + (u16At data (offset + 4)).toNat * remoteCellEncodedLen ≤
          data.length - offset := by omega
      simp only [Bool.false_eq_true, short, false_and]
    rw [if_neg bodyShort]
    have fits : 6 + (u16At data (offset + 4)).toNat * remoteCellEncodedLen ≤
        data.length - offset := by omega
    simp only [fits, true_and, ← Nat.add_assoc]
    split
    · exact ih _ _
    · exact ih _ _

theorem applyDelta_fst_iff (data : List UInt8) (state : DecodedWireScreenState)
    (inputSeqPrefix : Bool) :
    (applyDelta data state inputSeqPrefix).1 = true ↔
      rowsStart data inputSeqPrefix ≤ data.length ∧
        rowFraming.Begins (u16At data (prefixLen inputSeqPrefix)).toNat
          (data.drop (rowsStart data inputSeqPrefix)) := by
  rw [applyDelta, rowsStart]
  by_cases headerShort : data.length < prefixLen inputSeqPrefix + remoteDeltaHeaderLen
  · rw [if_pos headerShort]
    have short : ¬ prefixLen inputSeqPrefix + remoteDeltaHeaderLen +
        (if u8At data (prefixLen inputSeqPrefix + 8) &&& 0x01 ≠ 0 then 2 else 0) ≤ data.length := by
      omega
    simp only [Bool.false_eq_true, short, false_and]
  rw [if_neg headerShort]
  dsimp only
  by_cases scrolls : u8At data (prefixLen inputSeqPrefix + 8) &&& 0x01 ≠ 0
  · rw [if_pos scrolls, if_pos scrolls]
    by_cases scrollShort : data.length < prefixLen inputSeqPrefix + remoteDeltaHeaderLen + 2
    · rw [if_pos scrollShort]
      have short : ¬ prefixLen inputSeqPrefix + remoteDeltaHeaderLen + 2 ≤ data.length := by omega
      simp only [Bool.false_eq_true, short, false_and]
    rw [if_neg scrollShort]
    have fits : prefixLen inputSeqPrefix + remoteDeltaHeaderLen + 2 ≤ data.length := by omega
    simp only [fits, true_and]
    rw [← applyDeltaRows_fst_iff data _ _ (applyScrollRows
      (u16At data (prefixLen inputSeqPrefix + remoteDeltaHeaderLen)).toInt16.toInt _)]
    generalize applyDeltaRows data _ _ _ = result
    obtain ⟨ok, next, after⟩ := result
    cases ok <;> rfl
  · rw [if_neg scrolls, if_neg scrolls]
    have fits : prefixLen inputSeqPrefix + remoteDeltaHeaderLen + 0 ≤ data.length := by omega
    simp only [fits, true_and]
    rw [← applyDeltaRows_fst_iff data _ _ _]
    generalize applyDeltaRows data _ _ _ = result
    obtain ⟨ok, next, after⟩ := result
    cases ok <;> rfl

theorem length_scrollBytes (scroll : Option Int16) :
    (scrollBytes scroll).length = if scroll.isSome then 2 else 0 := by
  cases scroll <;> rfl

theorem boolByte_flag (b : Bool) : boolByte b &&& 0x01 ≠ 0 ↔ b = true := by
  cases b <;> decide

namespace PrefixedDelta

variable {delta : PrefixedDelta}

/-- Where the prefixed layout has its rows. -/
def prefixedRows (delta : PrefixedDelta) : Nat := 21 + if delta.scroll.isSome then 2 else 0

theorem length_header (delta : PrefixedDelta) : delta.header.length = 21 := by
  simp [header]

theorem rest_rows (delta : PrefixedDelta) :
    Rest delta.bytes delta.prefixedRows (delta.rows.map encodeChangedRow).flatten := by
  refine ⟨delta.header ++ scrollBytes delta.scroll, ?_, ?_⟩
  · rw [List.length_append, length_header, length_scrollBytes, prefixedRows]
  · rw [bytes, List.flatMap_def]

/-- All bytes from the row count on. -/
def afterSeq (delta : PrefixedDelta) : List UInt8 :=
  leU16 (UInt16.ofNat delta.rows.length) ++ (leU16 delta.cursorX ++ (leU16 delta.cursorY ++
    (boolByte delta.cursorVisible :: boolByte delta.cursorBlinking ::
      boolByte delta.scroll.isSome :: (leI32 delta.cursorStyle ++ (scrollBytes delta.scroll ++
        delta.rows.flatMap encodeChangedRow)))))

theorem rest_seq (delta : PrefixedDelta) :
    Rest delta.bytes 0 (leU64 delta.inputSeq ++ delta.afterSeq) := by
  refine ⟨[], rfl, ?_⟩
  simp only [bytes, header, afterSeq, List.append_assoc, List.cons_append, List.nil_append]

theorem rest_rowCount (delta : PrefixedDelta) : Rest delta.bytes 8 delta.afterSeq :=
  delta.rest_seq.skip

/-- What the unprefixed layout takes for the row count. -/
theorem u16At_seq (delta : PrefixedDelta) :
    (u16At delta.bytes 0).toNat = delta.inputSeq.toNat % 65536 := by
  have low := delta.rest_seq
  rw [leU64, leBytes_add 2 6, List.append_assoc] at low
  rw [u16At, low.slice_eq (length_leBytes _ _), leNat_leBytes]
  exact UInt16.toNat_ofNat_of_lt' (Nat.mod_lt _ (by decide))

theorem u16At_rowCount (delta : PrefixedDelta) :
    (u16At delta.bytes 8).toNat = delta.rows.length := by
  have count := u16At_rest delta.rest_rowCount
  rw [count, toNat_ofNat_u16 delta.rows_length]

theorem u8At_scrollFlag (delta : PrefixedDelta) :
    u8At delta.bytes 16 = boolByte delta.scroll.isSome := by
  have visible := delta.rest_rowCount.skip.skip.skip
  simp only [length_leU16, Nat.reduceAdd] at visible
  exact u8At_rest visible.next.next

/-- What the unprefixed layout takes for the flags. -/
theorem u8At_lowCount (delta : PrefixedDelta) :
    u8At delta.bytes 8 = UInt8.ofNat delta.rows.length := by
  have low := delta.rest_rowCount
  rw [afterSeq, leU16, toNat_ofNat_u16 delta.rows_length] at low
  exact u8At_rest low

theorem lowCount_odd_iff (delta : PrefixedDelta) :
    UInt8.ofNat delta.rows.length &&& 0x01 ≠ 0 ↔ delta.rows.length % 2 = 1 := by
  have low : (UInt8.ofNat delta.rows.length &&& 0x01).toNat = delta.rows.length % 2 := by
    rw [UInt8.toNat_and, UInt8.toNat_ofNat', UInt8.toNat_one, Nat.and_one_is_mod]
    omega
  rw [Ne, ← UInt8.toNat_inj, low, UInt8.toNat_zero]
  omega

variable {payload : List UInt8}

/-- No truncation passes for the prefixed layout: the last row is not complete. -/
theorem prefixed_rejected (before : payload <+: delta.bytes) (strict : payload ≠ delta.bytes)
    (screen : DecodedWireScreenState) : (applyDelta payload screen true).1 = false := by
  rw [← Bool.not_eq_true, applyDelta_fst_iff]
  rintro ⟨startFits, begins⟩
  obtain ⟨rest, split⟩ := before
  have long : 21 ≤ payload.length := by
    have atLeast : 21 ≤ rowsStart payload true := Nat.le_add_right _ _
    omega
  have flag : u8At payload 16 = boolByte delta.scroll.isSome := by
    rw [← u8At_scrollFlag, ← split, u8At_append (by omega)]
  have count : (u16At payload 8).toNat = delta.rows.length := by
    rw [← u16At_rowCount, ← split, u16At_append (by omega)]
  have start : rowsStart payload true = delta.prefixedRows := by
    rw [rowsStart, prefixedRows]
    simp only [prefixLen, localInputSeqLen, remoteDeltaHeaderLen, if_true, Nat.reduceAdd, flag,
      boolByte_flag]
  have rows := delta.rest_rows
  rw [start] at startFits begins
  have within : payload.drop delta.prefixedRows <+:
      (delta.rows.map encodeChangedRow).flatten := by
    refine ⟨rest, ?_⟩
    rw [← rows.drop_eq, ← split, List.drop_append_of_le_length startFits]
  have whole : ∀ record ∈ delta.rows.map encodeChangedRow, rowFraming.IsRecord record := by
    intro record member
    obtain ⟨changed, changedMem, rfl⟩ := List.mem_map.mp member
    exact isRecord_encodeChangedRow (delta.rows_encodable changed changedMem)
  have all : rowFraming.Begins (delta.rows.map encodeChangedRow).length
      (payload.drop delta.prefixedRows) := by
    rw [List.length_map, ← count]
    exact begins
  have complete := Framing.Begins.complete whole all within
  have total := rows.length_eq
  rw [List.length_drop] at complete
  rw [← split, List.length_append] at total
  have empty : rest = [] := List.eq_nil_of_length_eq_zero (by omega)
  rw [empty, List.append_nil] at split
  exact strict split

/-- The unprefixed layout accepts a truncation exactly when it finds all its rows. -/
theorem unprefixed_accepted_iff (before : payload <+: delta.bytes)
    (screen : DecodedWireScreenState) :
    (applyDelta payload screen false).1 = true ↔ delta.LooksUnprefixed payload := by
  rw [applyDelta_fst_iff]
  obtain ⟨rest, split⟩ := before
  by_cases short : payload.length < 13
  · have startLong : 13 ≤ rowsStart payload false := Nat.le_add_right _ _
    have rowsLong : 13 ≤ delta.unprefixedRows := Nat.le_add_right _ _
    constructor
    · rintro ⟨fits, -⟩
      omega
    · rintro ⟨fits, -⟩
      omega
  have flag : u8At payload 8 = UInt8.ofNat delta.rows.length := by
    rw [← u8At_lowCount, ← split, u8At_append (by omega)]
  have count : (u16At payload 0).toNat = delta.inputSeq.toNat % 65536 := by
    rw [← u16At_seq, ← split, u16At_append (by omega)]
  have start : rowsStart payload false = delta.unprefixedRows := by
    rw [rowsStart, unprefixedRows]
    simp only [prefixLen, Bool.false_eq_true, if_false, Nat.zero_add, flag, lowCount_odd_iff]
  have zero : prefixLen false = 0 := rfl
  rw [start, zero, count, LooksUnprefixed]

end PrefixedDelta

theorem applyPaneDelta_rejects_iff (data : List UInt8) (screen : DecodedWireScreenState) :
    applyPaneDelta data screen = (false, screen) ↔
      (applyDelta data screen true).1 = false ∧ (applyDelta data screen false).1 = false := by
  rw [applyPaneDelta]
  generalize applyDelta data screen true = prefixed
  generalize applyDelta data screen false = unprefixed
  obtain ⟨prefixedOk, prefixedScreen⟩ := prefixed
  obtain ⟨unprefixedOk, unprefixedScreen⟩ := unprefixed
  cases prefixedOk <;> cases unprefixedOk <;> simp

/-- A truncated delta is rejected, and the screen left alone, exactly when its bytes do not hold the
rows that the unprefixed layout finds announced in the input sequence number. -/
theorem truncated_rejected_iff (delta : PrefixedDelta) (payload : List UInt8)
    (before : payload <+: delta.bytes) (strict : payload ≠ delta.bytes)
    (screen : DecodedWireScreenState) :
    applyPaneDelta payload screen = (false, screen) ↔ ¬ delta.LooksUnprefixed payload := by
  rw [applyPaneDelta_rejects_iff, ← PrefixedDelta.unprefixed_accepted_iff before screen,
    Bool.not_eq_true]
  have rejected := PrefixedDelta.prefixed_rejected before strict screen
  simp only [rejected, true_and]

section Encoded

variable {previous current : RemoteFullState}

/-- Every delta that the encoder makes for a local client is one, followed by its trailer. -/
theorem encodeDelta_prefixed (shape : SameShape previous current) {latestInputSeq : Option UInt64}
    {payload : List UInt8} (encoded : encodeDelta previous current latestInputSeq true = some payload) :
    ∃ delta : PrefixedDelta, delta.inputSeq = latestInputSeq.getD 0 ∧
      delta.rows = changedRows previous current ∧
      payload = delta.bytes ++ appendRowReplicaTrailer current
        ((changedRows previous current).map fun changed => rowId current changed.row) := by
  obtain ⟨-, -, formula⟩ := encodeDelta_eq_some encoded
  have small : (changedRows previous current).length < 65536 := by
    have few := length_changedRows_le previous current
    have rows : current.rows.toNat < 2 ^ 16 := current.rows.toNat_lt
    omega
  let delta : PrefixedDelta := {
    inputSeq := latestInputSeq.getD 0
    cursorX := current.cursorX
    cursorY := current.cursorY
    cursorVisible := current.cursorVisible
    cursorBlinking := current.cursorBlinking
    cursorStyle := current.cursorStyle
    scroll := none
    rows := changedRows previous current
    rows_length := small
    rows_encodable := fun changed member => encodable_of_mem shape member }
  refine ⟨delta, rfl, rfl, ?_⟩
  have noScroll : boolByte (none : Option Int16).isSome = 0 := rfl
  rw [formula]
  simp only [delta, PrefixedDelta.bytes, PrefixedDelta.header, scrollBytes, inputSeqPrefix,
    encodeDeltaHeader, noScroll, if_true, List.append_assoc, List.nil_append]

end Encoded

/-- A sequence number that announces more rows than the bytes have room for is safe. -/
theorem not_looksUnprefixed_of_large (delta : PrefixedDelta) (payload : List UInt8)
    (large : payload.length < 13 + 6 * (delta.inputSeq.toNat % 65536)) :
    ¬ delta.LooksUnprefixed payload := by
  rintro ⟨fits, begins⟩
  have heads := begins.heads_le
  have start : 13 ≤ delta.unprefixedRows := Nat.le_add_right _ _
  have head : rowFraming.head = 6 := rfl
  rw [List.length_drop, head] at heads
  omega

/-- With a sequence number that announces no rows the header alone is enough. -/
theorem looksUnprefixed_of_zero (delta : PrefixedDelta) (payload : List UInt8)
    (zero : delta.inputSeq.toNat % 65536 = 0) :
    delta.LooksUnprefixed payload ↔ delta.unprefixedRows ≤ payload.length := by
  rw [PrefixedDelta.LooksUnprefixed, zero]
  have begins := Framing.begins_zero (f := rowFraming) (payload.drop delta.unprefixedRows)
  simp only [begins, and_true]

theorem noRows_length : ([] : List ChangedRow).length < 65536 := by decide

theorem noRows_encodable : ∀ row ∈ ([] : List ChangedRow), Encodable row :=
  fun _ member => absurd member List.not_mem_nil

/-- A cursor move sent before any input was acknowledged. -/
def cursorMove : PrefixedDelta where
  inputSeq := 0
  cursorX := 3
  cursorY := 1
  cursorVisible := true
  cursorBlinking := true
  cursorStyle := 0
  scroll := none
  rows := []
  rows_length := noRows_length
  rows_encodable := noRows_encodable

def shownScreen : DecodedWireScreenState where
  rows := 1
  cols := 1
  cells := [{ codepoint := 65 }]
  cursorX := 0
  cursorY := 0
  cursorVisible := true
  cursorBlinking := true
  cursorStyle := 1

theorem truncated_rejected_cursorMove :
    applyPaneDelta (cursorMove.bytes.take 12) shownScreen = (false, shownScreen) ↔
      ¬ cursorMove.LooksUnprefixed (cursorMove.bytes.take 12) :=
  truncated_rejected_iff cursorMove (cursorMove.bytes.take 12) (List.take_prefix _ _) (by decide)
    shownScreen

/-- Thirteen of its twenty-one bytes are taken for a whole delta without rows, which hides the
cursor and sets its style to bytes of the position. -/
theorem cursorMove_truncated_accepted :
    cursorMove.bytes.take 13 <+: cursorMove.bytes ∧ cursorMove.bytes.take 13 ≠ cursorMove.bytes ∧
      applyPaneDelta (cursorMove.bytes.take 13) shownScreen =
        (true, { shownScreen with
          cursorVisible := false
          cursorBlinking := false
          cursorStyle := 0x01000300 }) := by
  refine ⟨List.take_prefix _ _, by decide, by decide⟩

end Boo.Wire.TruncatedDelta
