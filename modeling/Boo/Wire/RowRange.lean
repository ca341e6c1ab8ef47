/- module: Boo/Wire/RowRange
   digest: Replies to row-range requests, their encoder (remote_wire.rs) and the iOS decoder. -/

import Boo.Wire.SwiftDelta

set_option autoImplicit false
set_option relaxedAutoImplicit false

namespace Boo.Wire.RowRange

open Boo.Lib.LittleEndian
open Boo.Wire.Message
open Boo.Wire.SwiftCodec
open Boo.Wire.SwiftDelta

structure RemoteRowRangeResponse where
  paneId : UInt64
  epoch : UInt64
  cols : UInt16
  startRowId : UInt64
  rows : List (UInt64 × List RemoteCell)
  deriving DecidableEq

/-- `BRR2` in ASCII. -/
def rowRangeResponseMagic : List UInt8 := [0x42, 0x52, 0x52, 0x32]

/-- `len.min(u16::MAX as usize) as u16`. -/
def countU16 (len : Nat) : UInt16 := UInt16.ofNat (min len 65535)

def encodeRangeRow (row : UInt64 × List RemoteCell) : List UInt8 :=
  leU64 row.1 ++ leU16 (countU16 row.2.length) ++ (row.2.take 65535).flatMap encodeCell

def encodeRowRangeResponse (response : RemoteRowRangeResponse) : List UInt8 :=
  rowRangeResponseMagic ++ leU64 response.paneId ++ leU64 response.epoch ++
    leU16 response.cols ++ leU64 response.startRowId ++ leU16 (countU16 response.rows.length) ++
    (response.rows.take (min response.rows.length 65535)).flatMap encodeRangeRow

structure DecodedRowRangeResponse where
  paneId : UInt64
  epoch : UInt64
  cols : UInt16
  startRowId : UInt64
  rows : List (UInt64 × List DecodedWireCell)
  deriving DecidableEq, Repr

/-- The row loop of `decodeRowRangeResponse`. -/
def decodeRangeRows (data : List UInt8) : Nat → Nat →
    Option (List (UInt64 × List DecodedWireCell))
  | 0, _ => some []
  | n + 1, offset =>
      if data.length < offset + 10 then none
      else
        let cellCount := (u16At data (offset + 8)).toNat
        let body := offset + 10
        if data.length < body + cellCount * remoteCellEncodedLen then none
        else
          match decodeRangeRows data n (body + cellCount * remoteCellEncodedLen) with
          | none => none
          | some rows =>
              some ((u64At data offset,
                readMany (cellAt data) remoteCellEncodedLen body cellCount) :: rows)

/-- The fixed fields take 32 bytes, but the guard asks for 34. -/
def decodeRowRangeResponse (data : List UInt8) : Option DecodedRowRangeResponse :=
  if data.length < 34 then none
  else if slice data 0 4 ≠ rowRangeResponseMagic then none
  else
    match decodeRangeRows data (u16At data 30).toNat 32 with
    | none => none
    | some rows => some {
        paneId := u64At data 4
        epoch := u64At data 12
        cols := u16At data 20
        startRowId := u64At data 22
        rows := rows }

def decodePaneRows (data : List UInt8) : Option (DecodedPaneUpdate × DecodedRowRangeResponse) :=
  if data.length < uiPaneUpdateHeaderLen then none
  else
    match decodeRowRangeResponse (data.drop uiPaneUpdateHeaderLen) with
    | none => none
    | some response => some (decodePaneUpdateHeader data, response)

/-- What a reply stands for on the client. -/
def decodedResponse (response : RemoteRowRangeResponse) : DecodedRowRangeResponse where
  paneId := response.paneId
  epoch := response.epoch
  cols := response.cols
  startRowId := response.startRowId
  rows := response.rows.map fun row => (row.1, row.2.map decodedCell)

/-- Every count of the reply fits its 16-bit field. -/
structure RemoteRowRangeResponse.Fits (response : RemoteRowRangeResponse) : Prop where
  rows : response.rows.length ≤ 65535
  cells : ∀ row ∈ response.rows, row.2.length ≤ 65535

theorem toNat_countU16 {len : Nat} (fits : len ≤ 65535) : (countU16 len).toNat = len := by
  rw [countU16, Nat.min_eq_left fits, UInt16.toNat_ofNat_of_lt']
  exact Nat.lt_of_le_of_lt fits (by decide)

theorem decodeRangeRows_encoded {data : List UInt8} (rows : List (UInt64 × List RemoteCell))
    (fits : ∀ row ∈ rows, row.2.length ≤ 65535) (offset : Nat)
    (h : Rest data offset (rows.flatMap encodeRangeRow)) :
    decodeRangeRows data rows.length offset =
      some (rows.map fun row => (row.1, row.2.map decodedCell)) := by
  induction rows generalizing offset with
  | nil => rfl
  | cons row rows ih =>
      have small : row.2.length ≤ 65535 := fits row List.mem_cons_self
      have later : ∀ other ∈ rows, other.2.length ≤ 65535 :=
        fun other member => fits other (List.mem_cons_of_mem _ member)
      rw [List.flatMap_cons, encodeRangeRow, List.take_of_length_le small] at h
      simp only [List.append_assoc] at h
      have h8 := h.skip
      have h10 := h8.skip
      have hNext := h10.skip
      simp only [length_leU64, length_leU16, Nat.add_assoc, Nat.reduceAdd] at h8 h10 hNext
      have cellsLen : (row.2.flatMap encodeCell).length = row.2.length * 12 :=
        length_flatMap_const encodeCell 12 length_encodeCell row.2
      have total := h10.length_eq
      rw [List.length_append, cellsLen] at total
      have headerFits : ¬ data.length < offset + 10 := by omega
      have cellsFit : ¬ data.length < offset + 10 + row.2.length * remoteCellEncodedLen := by
        rw [remoteCellEncodedLen]
        omega
      rw [List.length_cons, decodeRangeRows, if_neg headerFits]
      dsimp only
      rw [u16At_rest h8, toNat_countU16 small, if_neg cellsFit]
      have rest : Rest data (offset + 10 + row.2.length * remoteCellEncodedLen)
          (rows.flatMap encodeRangeRow) := by
        rw [remoteCellEncodedLen, ← cellsLen, Nat.add_assoc]
        exact hNext
      rw [ih later _ rest, u64At_rest h, readMany_cells h10]
      rfl

/-- All fixed fields of an encoded reply, and its length. -/
theorem decodeRowRangeResponse_encode {response : RemoteRowRangeResponse}
    (fits : response.Fits) :
    decodeRowRangeResponse (encodeRowRangeResponse response) =
      if response.rows = [] then none else some (decodedResponse response) := by
  generalize encoded : encodeRowRangeResponse response = data
  have h0 : Rest data 0 (encodeRowRangeResponse response) := encoded ▸ rest_zero _
  rw [encodeRowRangeResponse, Nat.min_eq_left fits.rows, List.take_length] at h0
  simp only [List.append_assoc] at h0
  have magicLen : rowRangeResponseMagic.length = 4 := rfl
  have h4 := h0.skip
  have h12 := h4.skip
  have h20 := h12.skip
  have h22 := h20.skip
  have h30 := h22.skip
  have h32 := h30.skip
  simp only [magicLen, length_leU64, length_leU16, Nat.zero_add, Nat.reduceAdd]
    at h4 h12 h20 h22 h30 h32
  have total := h32.length_eq
  rw [decodeRowRangeResponse]
  cases rows : response.rows with
  | nil =>
      rw [rows] at total
      simp only [List.flatMap_nil, List.length_nil] at total
      rw [if_pos rfl, if_pos (by omega)]
  | cons row others =>
      have rowLen : 10 ≤ (encodeRangeRow row).length := by
        simp only [encodeRangeRow, List.length_append, length_leU64, length_leU16]
        omega
      have longEnough : ¬ data.length < 34 := by
        rw [rows, List.flatMap_cons, List.length_append] at total
        omega
      have signed : ¬ slice data 0 4 ≠ rowRangeResponseMagic :=
        not_not.mpr (h0.slice_eq magicLen)
      rw [if_neg longEnough, if_neg signed, u16At_rest h30, toNat_countU16 fits.rows,
        decodeRangeRows_encoded response.rows fits.cells 32 h32, if_neg (by simp)]
      dsimp only
      rw [u64At_rest h4, u64At_rest h12, u16At_rest h20, u64At_rest h22]
      rfl

end Boo.Wire.RowRange
