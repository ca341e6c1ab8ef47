/- module: Boo/Client/CheckedDecoders
   digest: The GUI client's decoders with their index accesses, sums and allocations. -/

import Boo.Lib.Checked
import Boo.Client.Snapshot
import Boo.Remote.TabList
import Boo.Wire.Overlay

set_option autoImplicit false
set_option relaxedAutoImplicit false

namespace Boo.Client.CheckedDecoders

open Boo.Lib.Checked
open Boo.Lib.LittleEndian
open Boo.Lib.Records
open Boo.Wire.Message
open Boo.Wire.Overlay (rowFraming)
open Boo.Client.Snapshot (RemoteDelta RemoteRowDelta localFullStateHeaderLen localDeltaHeaderLen
  remoteCellAt)
open Boo.Remote.ReadLoop (fromUtf8)
open Boo.Remote.TabList (RemoteTabInfo)

/-! Reads -/

section Reads

variable (payload : List UInt8)

def byteAt (offset k : Nat) : Run UInt8 := do
  let i ← add offset k
  index payload i

/-- `u16::from_le_bytes([payload[offset], payload[offset + 1]])`. -/
def u16 (offset : Nat) : Run UInt16 := do
  let bytes ← elementsAt payload offset 2
  pure (UInt16.ofNat (leNat bytes))

def u32 (offset : Nat) : Run UInt32 := do
  let bytes ← elementsAt payload offset 4
  pure (UInt32.ofNat (leNat bytes))

/-- `u64::from_le_bytes(payload[start..start + 8].try_into().ok()?)`, where eight bytes always fit
the array. -/
def u64 (start stop : Nat) : Run UInt64 := do
  let bytes ← range payload start stop
  pure (UInt64.ofNat (leNat bytes))

def cellAt (offset : Nat) : Run RemoteCell := do
  let codepoint ← u32 payload offset
  let fgR ← byteAt payload offset 4
  let fgG ← byteAt payload offset 5
  let fgB ← byteAt payload offset 6
  let bgR ← byteAt payload offset 7
  let bgG ← byteAt payload offset 8
  let bgB ← byteAt payload offset 9
  let styleFlags ← byteAt payload offset 10
  let wide ← byteAt payload offset 11
  pure { codepoint, fg := ⟨fgR, fgG, fgB⟩, bg := ⟨bgR, bgG, bgB⟩, styleFlags, wide := wide != 0 }

end Reads

/-! client_gui.rs -/

/-- The least bytes of a tab: its id, three empty texts and its flags. -/
def minTabLen : Nat := 11

def rowHeaderLen : Nat := 6

section Decoders

variable (payload : List UInt8)

def decodeRemoteString (offset : Nat) : Run (Option (String × Nat)) := do
  let lenEnd ← add offset 2
  if payload.length < lenEnd then pure none
  else do
    let len ← u16 payload offset
    let offset ← add offset 2
    let stop ← add offset len.toNat
    if payload.length < stop then pure none
    else do
      let bytes ← range payload offset stop
      Run.request len.toNat (payload.length - offset) 1
      pure ((fromUtf8 bytes).map fun value => (value, stop))

def decodeRemoteTab (offset : Nat) : Run (Option (RemoteTabInfo × Nat)) := do
  let idEnd ← add offset 4
  if payload.length < idEnd then pure none
  else do
    let id ← u32 payload offset
    let offset ← add offset 4
    match ← decodeRemoteString payload offset with
    | none => pure none
    | some (name, offset) =>
    match ← decodeRemoteString payload offset with
    | none => pure none
    | some (title, offset) =>
    match ← decodeRemoteString payload offset with
    | none => pure none
    | some (pwd, offset) =>
    if payload.length ≤ offset then pure none
    else do
      let flags ← index payload offset
      let next ← add offset 1
      pure (some ({
        id, name, title, pwd
        active := flags &&& 0x01 != 0
        childExited := flags &&& 0x02 != 0 }, next))

/-- The loop of `decode_remote_tab_list`. -/
def decodeRemoteTabs : Nat → Nat → Run (Option (List RemoteTabInfo))
  | 0, _ => pure (some [])
  | count + 1, offset => do
      match ← decodeRemoteTab payload offset with
      | none => pure none
      | some (tab, offset) =>
      match ← decodeRemoteTabs count offset with
      | none => pure none
      | some tabs => pure (some (tab :: tabs))

def decodeRemoteTabList : Run (Option (List RemoteTabInfo)) :=
  if payload.length < 4 then pure none
  else do
    let count ← u32 payload 0
    Run.request count.toNat (payload.length - 4) minTabLen
    decodeRemoteTabs payload count.toNat 4

/-- The cell loop of `decode_remote_full_state`, which looks at no length any more. -/
def fullStateCells : Nat → Nat → Run (List RemoteCell)
  | 0, _ => pure []
  | n + 1, offset => do
      let cell ← cellAt payload offset
      let next ← add offset remoteCellEncodedLen
      let cells ← fullStateCells n next
      pure (cell :: cells)

def decodeRemoteFullState : Run (Option (Option UInt64 × RemoteFullState)) :=
  if payload.length < localFullStateHeaderLen then pure none
  else do
    let ackInputSeq ← u64 payload 0 8
    let rows ← u16 payload 8
    let cols ← u16 payload 10
    let cursorX ← u16 payload 12
    let cursorY ← u16 payload 14
    let cursorVisible ← index payload 16
    let cursorBlinking ← index payload 17
    let cursorStyle ← u32 payload 18
    let cellCount ← mul rows.toNat cols.toNat
    let cellBytes ← mul cellCount remoteCellEncodedLen
    let stop ← add localFullStateHeaderLen cellBytes
    if payload.length < stop then pure none
    else do
      Run.request cellCount (payload.length - localFullStateHeaderLen) remoteCellEncodedLen
      let cells ← fullStateCells payload cellCount localFullStateHeaderLen
      pure (some (if ackInputSeq ≠ 0 then some ackInputSeq else none, {
        epoch := 0
        viewportTop := 0
        scrollbackTotal := 0
        rows := rows
        cols := cols
        cursorX := cursorX
        cursorY := cursorY
        cursorVisible := cursorVisible != 0
        cursorBlinking := cursorBlinking != 0
        cursorStyle := cursorStyle.toInt32
        cells := cells }))

/-- The cell loop of `decode_remote_delta`. -/
def decodeCells : Nat → Nat → Run (Option (List RemoteCell × Nat))
  | 0, offset => pure (some ([], offset))
  | n + 1, offset => do
      let stop ← add offset remoteCellEncodedLen
      if payload.length < stop then pure none
      else do
        let cell ← cellAt payload offset
        let next ← add offset remoteCellEncodedLen
        match ← decodeCells n next with
        | none => pure none
        | some (cells, last) => pure (some (cell :: cells, last))

/-- The row loop of `decode_remote_delta`, with the counter of changed cells. -/
def decodeRows : Nat → Nat → Nat → Run (Option (List RemoteRowDelta))
  | 0, _, _ => pure (some [])
  | n + 1, offset, changedCells => do
      let headEnd ← add offset rowHeaderLen
      if payload.length < headEnd then pure none
      else do
        let row ← u16 payload offset
        let startColAt ← add offset 2
        let startCol ← u16 payload startColAt
        let colsAt ← add offset 4
        let cols ← u16 payload colsAt
        let offset ← add offset rowHeaderLen
        Run.request cols.toNat (payload.length - offset) remoteCellEncodedLen
        match ← decodeCells payload cols.toNat offset with
        | none => pure none
        | some (cells, next) =>
        let changedCells ← add changedCells cells.length
        let rows ← decodeRows n next changedCells
        pure (rows.map fun rows => ⟨row, startCol, cells⟩ :: rows)

def decodeRemoteDelta : Run (Option (Option UInt64 × RemoteDelta)) :=
  if payload.length < localDeltaHeaderLen then pure none
  else do
    let ackInputSeq ← u64 payload 0 8
    let rowCount ← u16 payload 8
    let cursorX ← u16 payload 10
    let cursorY ← u16 payload 12
    let cursorVisible ← index payload 14
    let cursorBlinking ← index payload 15
    let flags ← index payload 16
    let cursorStyle ← u32 payload 17
    let rowsFrom (scrollRows : Int16) (offset : Nat) :
        Run (Option (Option UInt64 × RemoteDelta)) := do
      Run.request rowCount.toNat (payload.length - offset) rowHeaderLen
      let changedRows ← decodeRows payload rowCount.toNat offset 0
      pure (changedRows.map fun changedRows =>
        (if ackInputSeq ≠ 0 then some ackInputSeq else none, {
          cursorX := cursorX
          cursorY := cursorY
          cursorVisible := cursorVisible != 0
          cursorBlinking := cursorBlinking != 0
          cursorStyle := cursorStyle.toInt32
          scrollRows := scrollRows
          changedRows := changedRows }))
    if flags &&& 0x01 ≠ 0 then do
      let scrollEnd ← add localDeltaHeaderLen 2
      if payload.length < scrollEnd then pure none
      else do
        let scrollRows ← u16 payload localDeltaHeaderLen
        rowsFrom scrollRows.toInt16 scrollEnd
    else rowsFrom 0 localDeltaHeaderLen

/-- The part that the two pane decoders share: the pane and the revision, then the decoder of a
payload without the pane header. -/
def decodeRemotePane {α : Type} (decode : List UInt8 → Run (Option (Option UInt64 × α))) :
    Run (Option (UInt64 × UInt64 × α)) :=
  if payload.length < uiPaneUpdateHeaderLen then pure none
  else do
    let paneId ← u64 payload 4 12
    let runtimeRevision ← u64 payload 20 28
    let body ← range payload uiPaneUpdateHeaderLen payload.length
    let decoded ← decode body
    pure (decoded.map fun decoded => (paneId, runtimeRevision, decoded.2))

def decodeRemotePaneFullState : Run (Option (UInt64 × UInt64 × RemoteFullState)) :=
  decodeRemotePane payload decodeRemoteFullState

def decodeRemotePaneDelta : Run (Option (UInt64 × UInt64 × RemoteDelta)) :=
  decodeRemotePane payload decodeRemoteDelta

end Decoders

/-! The decoders never fault -/

/-- No object of the program is larger than `isize::MAX` bytes. -/
def Addressable (payload : List UInt8) : Prop := payload.length < 2 ^ 63

section Spec

variable {payload : List UInt8}

theorem Addressable.add_lt (addressable : Addressable payload) {a b : Nat}
    (inside : a ≤ payload.length) (small : b < 2 ^ 63) : a + b < wordLimit := by
  have limit : wordLimit = 2 ^ 63 + 2 ^ 63 := rfl
  have short : payload.length < 2 ^ 63 := addressable
  omega

theorem Addressable.lt_wordLimit (addressable : Addressable payload) :
    payload.length < wordLimit := by
  have sum := addressable.add_lt (Nat.le_refl _) (b := 0) (by decide)
  exact sum

theorem Addressable.add_eq (addressable : Addressable payload) {a b : Nat}
    (inside : a ≤ payload.length) (small : b < 2 ^ 63) : add a b = pure (a + b) :=
  add_of_lt (addressable.add_lt inside small)

theorem u16_eq (addressable : Addressable payload) {offset : Nat}
    (inside : offset + 2 ≤ payload.length) : u16 payload offset = pure (u16At payload offset) := by
  rw [u16, elementsAt_of_le addressable.lt_wordLimit inside, Run.pure_bind, u16At]

theorem u32_eq (addressable : Addressable payload) {offset : Nat}
    (inside : offset + 4 ≤ payload.length) : u32 payload offset = pure (u32At payload offset) := by
  rw [u32, elementsAt_of_le addressable.lt_wordLimit inside, Run.pure_bind, u32At]

theorem u64_eq {start : Nat} (inside : start + 8 ≤ payload.length) :
    u64 payload start (start + 8) = pure (u64At payload start) := by
  rw [u64, range_of_le (Nat.le_add_right _ _) inside, Run.pure_bind, Nat.add_sub_cancel_left, u64At]

theorem index_eq {i : Nat} (inside : i < payload.length) :
    index payload i = pure (u8At payload i) := by
  rw [index_of_lt inside, u8At, List.getD_eq_getElem?_getD, List.getElem?_eq_getElem inside,
    Option.getD_some]

theorem byteAt_eq (addressable : Addressable payload) {offset k : Nat}
    (inside : offset + k < payload.length) :
    byteAt payload offset k = pure (u8At payload (offset + k)) := by
  have sum := addressable.lt_wordLimit
  rw [byteAt, add_of_lt (by omega), Run.pure_bind, index_eq inside]

theorem cellAt_eq (addressable : Addressable payload) {offset : Nat}
    (inside : offset + remoteCellEncodedLen ≤ payload.length) :
    cellAt payload offset = pure (remoteCellAt payload offset) := by
  have twelve : remoteCellEncodedLen = 12 := rfl
  rw [cellAt, u32_eq addressable (by omega), Run.pure_bind, byteAt_eq addressable (by omega),
    Run.pure_bind, byteAt_eq addressable (by omega), Run.pure_bind,
    byteAt_eq addressable (by omega), Run.pure_bind, byteAt_eq addressable (by omega),
    Run.pure_bind, byteAt_eq addressable (by omega), Run.pure_bind,
    byteAt_eq addressable (by omega), Run.pure_bind, byteAt_eq addressable (by omega),
    Run.pure_bind, byteAt_eq addressable (by omega), Run.pure_bind, remoteCellAt]

/-- A text takes no more than the bytes that are left. -/
theorem decodeRemoteString_returns (addressable : Addressable payload) {offset : Nat}
    (inside : offset ≤ payload.length) :
    (decodeRemoteString payload offset).Returns (Request.Within 1)
      (Boo.Remote.TabList.decodeRemoteString payload offset) := by
  rw [decodeRemoteString, Boo.Remote.TabList.decodeRemoteString,
    addressable.add_eq inside (by decide), Run.pure_bind]
  by_cases short : payload.length < offset + 2
  · rw [if_pos short, if_pos short]
    exact Run.returns_pure none
  rw [if_neg short, if_neg short, u16_eq addressable (by omega), Run.pure_bind]
  dsimp only
  have small : (u16At payload offset).toNat < 2 ^ 63 :=
    Nat.lt_trans (u16At payload offset).toNat_lt (by decide)
  rw [Run.pure_bind, addressable.add_eq (by omega) small, Run.pure_bind]
  by_cases cut : payload.length < offset + 2 + (u16At payload offset).toNat
  · rw [if_pos cut, if_pos cut]
    exact Run.returns_pure none
  rw [if_neg cut, if_neg cut, range_of_le (by omega) (by omega), Run.pure_bind,
    Nat.add_sub_cancel_left]
  have fits : Request.Within 1 ⟨(u16At payload offset).toNat, payload.length - (offset + 2), 1⟩ := by
    simp only [Request.Within, Request.room, Nat.div_one, Nat.one_mul]
    omega
  exact (Run.returns_request fits).bind (Run.returns_pure _)

/-- A text ends inside the payload. -/
theorem decodeRemoteString_le {offset : Nat} {value : String} {next : Nat}
    (decoded : Boo.Remote.TabList.decodeRemoteString payload offset = some (value, next)) :
    next ≤ payload.length := by
  rw [Boo.Remote.TabList.decodeRemoteString] at decoded
  split at decoded
  · cases decoded
  dsimp only at decoded
  split at decoded
  · cases decoded
  rename_i fits
  obtain ⟨text, -, same⟩ := Option.map_eq_some_iff.mp decoded
  cases same
  omega

theorem decodeRemoteTab_returns (addressable : Addressable payload) {offset : Nat}
    (inside : offset ≤ payload.length) :
    (decodeRemoteTab payload offset).Returns (Request.Within 1)
      (Boo.Remote.TabList.decodeRemoteTab payload offset) := by
  rw [decodeRemoteTab, Boo.Remote.TabList.decodeRemoteTab,
    addressable.add_eq inside (by decide), Run.pure_bind]
  by_cases short : payload.length < offset + 4
  · rw [if_pos short, if_pos short]
    exact Run.returns_pure none
  rw [if_neg short, if_neg short, u32_eq addressable (by omega), Run.pure_bind, Run.pure_bind]
  dsimp only
  refine (decodeRemoteString_returns addressable (by omega)).bind ?_
  cases name : Boo.Remote.TabList.decodeRemoteString payload (offset + 4) with
  | none => exact Run.returns_pure none
  | some named =>
  have named_le := decodeRemoteString_le name
  refine (decodeRemoteString_returns addressable named_le).bind ?_
  simp only [Option.bind_eq_bind, Option.bind_some]
  cases title : Boo.Remote.TabList.decodeRemoteString payload named.2 with
  | none => exact Run.returns_pure none
  | some titled =>
  have titled_le := decodeRemoteString_le title
  refine (decodeRemoteString_returns addressable titled_le).bind ?_
  simp only [Option.bind_some]
  cases pwd : Boo.Remote.TabList.decodeRemoteString payload titled.2 with
  | none => exact Run.returns_pure none
  | some placed =>
  simp only [Option.bind_some]
  by_cases ended : payload.length ≤ placed.2
  · rw [if_pos ended, if_pos ended]
    exact Run.returns_pure none
  rw [if_neg ended, if_neg ended, index_eq (by omega), Run.pure_bind,
    addressable.add_eq (by omega) (by decide), Run.pure_bind]
  exact Run.returns_pure _

theorem decodeRemoteTab_le {offset : Nat} {tab : RemoteTabInfo} {next : Nat}
    (decoded : Boo.Remote.TabList.decodeRemoteTab payload offset = some (tab, next)) :
    next ≤ payload.length := by
  rw [Boo.Remote.TabList.decodeRemoteTab] at decoded
  split at decoded
  · cases decoded
  obtain ⟨named, -, decoded⟩ := Option.bind_eq_some_iff.mp decoded
  obtain ⟨titled, -, decoded⟩ := Option.bind_eq_some_iff.mp decoded
  obtain ⟨placed, -, decoded⟩ := Option.bind_eq_some_iff.mp decoded
  dsimp only at decoded
  split at decoded
  · cases decoded
  rename_i inside
  cases decoded
  omega

theorem decodeRemoteTabs_returns (addressable : Addressable payload) (count : Nat) {offset : Nat}
    (inside : offset ≤ payload.length) :
    (decodeRemoteTabs payload count offset).Returns (Request.Within 1)
      (Boo.Remote.TabList.decodeRemoteTabs payload count offset) := by
  induction count generalizing offset with
  | zero => exact Run.returns_pure _
  | succ count ih =>
    rw [decodeRemoteTabs, Boo.Remote.TabList.decodeRemoteTabs]
    refine (decodeRemoteTab_returns addressable inside).bind ?_
    cases first : Boo.Remote.TabList.decodeRemoteTab payload offset with
    | none => exact Run.returns_pure none
    | some tab =>
    have next_le := decodeRemoteTab_le first
    refine (ih next_le).bind ?_
    simp only [Option.bind_eq_bind, Option.bind_some]
    cases later : Boo.Remote.TabList.decodeRemoteTabs payload count tab.2 with
    | none => exact Run.returns_pure none
    | some tabs => exact Run.returns_pure _

/-- The tabs themselves are safe; the vector for them is asked for on the word of the count. -/
theorem decodeRemoteTabList_run (addressable : Addressable payload)
    (long : 4 ≤ payload.length) : ∃ requests,
      decodeRemoteTabList payload =
        ⟨⟨(u32At payload 0).toNat, payload.length - 4, minTabLen⟩ :: requests,
          .ok (Boo.Remote.TabList.decodeRemoteTabList payload)⟩ ∧
      ∀ request ∈ requests, request.Within 1 := by
  have notShort : ¬ payload.length < 4 := by omega
  obtain ⟨requests, run, within⟩ :=
    decodeRemoteTabs_returns addressable (u32At payload 0).toNat long
  refine ⟨requests, ?_, within⟩
  rw [decodeRemoteTabList, Boo.Remote.TabList.decodeRemoteTabList, if_neg notShort, if_neg notShort,
    u32_eq addressable (by omega), Run.pure_bind]
  exact Run.ok_bind rfl run

theorem fullStateCells_eq (addressable : Addressable payload) (n : Nat) {offset : Nat}
    (inside : offset + n * remoteCellEncodedLen ≤ payload.length) :
    fullStateCells payload n offset =
      pure (readMany (remoteCellAt payload) remoteCellEncodedLen offset n) := by
  induction n generalizing offset with
  | zero => rfl
  | succ n ih =>
    rw [Nat.succ_mul] at inside
    rw [fullStateCells, cellAt_eq addressable (by omega), Run.pure_bind,
      addressable.add_eq (by omega) (by decide), Run.pure_bind, ih (by omega), Run.pure_bind,
      readMany_succ]

/-- The announced grid is compared with the payload before its cells are allocated. -/
theorem decodeRemoteFullState_returns (addressable : Addressable payload) :
    (decodeRemoteFullState payload).Returns (Request.Within 1)
      (Boo.Client.Snapshot.decodeRemoteFullState payload) := by
  have header : localFullStateHeaderLen = 22 := rfl
  rw [decodeRemoteFullState, Boo.Client.Snapshot.decodeRemoteFullState]
  by_cases short : payload.length < localFullStateHeaderLen
  · rw [if_pos short, if_pos short]
    exact Run.returns_pure none
  have rowsLt : (u16At payload 8).toNat < 2 ^ 16 := (u16At payload 8).toNat_lt
  have colsLt : (u16At payload 10).toNat < 2 ^ 16 := (u16At payload 10).toNat_lt
  have countLt : (u16At payload 8).toNat * (u16At payload 10).toNat < 2 ^ 16 * 2 ^ 16 :=
    Nat.mul_lt_mul'' rowsLt colsLt
  have limit : wordLimit = 2 ^ 64 := rfl
  have twelve : remoteCellEncodedLen = 12 := rfl
  have bytesLt : (u16At payload 8).toNat * (u16At payload 10).toNat * remoteCellEncodedLen <
      2 ^ 60 := by
    rw [twelve]
    omega
  rw [if_neg short, if_neg short, u64_eq (by omega), Run.pure_bind, u16_eq addressable (by omega),
    Run.pure_bind, u16_eq addressable (by omega), Run.pure_bind, u16_eq addressable (by omega),
    Run.pure_bind, u16_eq addressable (by omega), Run.pure_bind, index_eq (by omega),
    Run.pure_bind, index_eq (by omega), Run.pure_bind, u32_eq addressable (by omega),
    Run.pure_bind, mul_of_lt (by omega), Run.pure_bind, mul_of_lt (by omega), Run.pure_bind,
    add_of_lt (by omega), Run.pure_bind]
  dsimp only
  generalize (u16At payload 8).toNat * (u16At payload 10).toNat = cellCount
  by_cases cut : payload.length < localFullStateHeaderLen + cellCount * remoteCellEncodedLen
  · rw [if_pos cut, if_pos cut]
    exact Run.returns_pure none
  have fits : Request.Within 1
      ⟨cellCount, payload.length - localFullStateHeaderLen, remoteCellEncodedLen⟩ := by
    simp only [Request.Within, Request.room, Nat.one_mul]
    rw [Nat.le_div_iff_mul_le (by decide)]
    omega
  rw [if_neg cut, if_neg cut]
  refine (Run.returns_request fits).bind ?_
  rw [fullStateCells_eq addressable cellCount (by omega), Run.pure_bind]
  exact Run.returns_pure _

/-- The cells of a row are there or they are not; both ways the loop ends. -/
theorem decodeCells_eq (addressable : Addressable payload) (n : Nat) {offset : Nat}
    (inside : offset ≤ payload.length) :
    decodeCells payload n offset = pure (Boo.Client.Snapshot.decodeCells payload n offset) := by
  induction n generalizing offset with
  | zero => rfl
  | succ n ih =>
    have twelve : remoteCellEncodedLen = 12 := rfl
    rw [decodeCells, Boo.Client.Snapshot.decodeCells, addressable.add_eq inside (by decide),
      Run.pure_bind, twelve]
    by_cases short : payload.length < offset + 12
    · rw [if_pos short, if_pos short]
    rw [if_neg short, if_neg short, cellAt_eq addressable (by omega), Run.pure_bind, Run.pure_bind,
      ih (by omega), Run.pure_bind]
    cases Boo.Client.Snapshot.decodeCells payload n (offset + 12) with
    | none => rfl
    | some decoded => rfl

theorem decodeCells_of_le {n offset : Nat}
    (inside : offset + n * remoteCellEncodedLen ≤ payload.length) :
    ∃ cells, cells.length = n ∧ Boo.Client.Snapshot.decodeCells payload n offset =
      some (cells, offset + n * remoteCellEncodedLen) := by
  induction n generalizing offset with
  | zero => exact ⟨[], rfl, by rw [Nat.zero_mul]; rfl⟩
  | succ n ih =>
    have twelve : remoteCellEncodedLen = 12 := rfl
    rw [Nat.succ_mul, twelve] at inside
    have notShort : ¬ payload.length < offset + 12 := by omega
    have rest : offset + 12 + n * remoteCellEncodedLen ≤ payload.length := by
      rw [twelve]
      omega
    obtain ⟨cells, length, decoded⟩ := ih rest
    refine ⟨remoteCellAt payload offset :: cells, by rw [List.length_cons, length], ?_⟩
    rw [Boo.Client.Snapshot.decodeCells, if_neg notShort, decoded, twelve]
    have stop : offset + 12 + n * 12 = offset + (n + 1) * 12 := by omega
    rw [stop]

theorem decodeCells_of_lt {n offset : Nat} (inside : offset ≤ payload.length)
    (cut : payload.length < offset + n * remoteCellEncodedLen) :
    Boo.Client.Snapshot.decodeCells payload n offset = none := by
  induction n generalizing offset with
  | zero => omega
  | succ n ih =>
    have twelve : remoteCellEncodedLen = 12 := rfl
    rw [Boo.Client.Snapshot.decodeCells]
    by_cases short : payload.length < offset + 12
    · rw [if_pos short]
    rw [Nat.succ_mul, twelve] at cut
    rw [if_neg short, ih (by omega) (by rw [twelve]; omega)]

/-- What the row loop asks for once it has read the head of a row at the start of `rest`. -/
def rowRequest (rest : List UInt8) : Request :=
  ⟨(u16At rest 4).toNat, rest.length - rowHeaderLen, remoteCellEncodedLen⟩

/-- A row among the first `n` is reached, all rows before it being complete, and its head is there. -/
def ReachesRow (n : Nat) (data rest : List UInt8) : Prop :=
  ∃ i, i < n ∧ rowFraming.Reaches i data rest ∧ rowHeaderLen ≤ rest.length

theorem reachesRow_succ {n : Nat} {data rest : List UInt8} :
    ReachesRow (n + 1) data rest ↔ (rest = data ∧ rowHeaderLen ≤ data.length) ∨
      (rowFraming.size data ≤ data.length ∧
        ReachesRow n (data.drop (rowFraming.size data)) rest) := by
  constructor
  · rintro ⟨i, bound, reaches, head⟩
    cases i with
    | zero =>
      have same := Framing.reaches_zero.mp reaches
      exact Or.inl ⟨same, same ▸ head⟩
    | succ i =>
      obtain ⟨fits, later⟩ := Framing.reaches_succ.mp reaches
      exact Or.inr ⟨fits, i, Nat.lt_of_succ_lt_succ bound, later, head⟩
  · rintro (⟨same, head⟩ | ⟨fits, i, bound, later, head⟩)
    · exact ⟨0, Nat.succ_pos n, Framing.reaches_zero.mpr same, same ▸ head⟩
    · exact ⟨i + 1, Nat.succ_lt_succ bound, Framing.reaches_succ.mpr ⟨fits, later⟩, head⟩

theorem not_reachesRow_zero {data rest : List UInt8} : ¬ ReachesRow 0 data rest := by
  rintro ⟨i, bound, -⟩
  exact Nat.not_lt_zero i bound

/-- The row loop never faults, and asks for the cells of each row whose head it reads. -/
theorem decodeRows_run (addressable : Addressable payload) (n : Nat) {offset changedCells : Nat}
    (inside : offset ≤ payload.length) (counted : changedCells ≤ offset) : ∃ requests,
      decodeRows payload n offset changedCells =
        ⟨requests, .ok (Boo.Client.Snapshot.decodeRows payload n offset)⟩ ∧
      ∀ request, request ∈ requests ↔
        ∃ rest, ReachesRow n (payload.drop offset) rest ∧ request = rowRequest rest := by
  induction n generalizing offset changedCells with
  | zero =>
    refine ⟨[], rfl, ?_⟩
    intro request
    constructor
    · intro member
      exact absurd member List.not_mem_nil
    · rintro ⟨rest, reaches, -⟩
      exact absurd reaches not_reachesRow_zero
  | succ n ih =>
    have six : rowHeaderLen = 6 := rfl
    have twelve : remoteCellEncodedLen = 12 := rfl
    have dataLength : (payload.drop offset).length = payload.length - offset := List.length_drop
    have cols : u16At (payload.drop offset) 4 = u16At payload (offset + 4) := u16At_drop _ _ _
    have size : rowFraming.size (payload.drop offset) =
        6 + (u16At payload (offset + 4)).toNat * remoteCellEncodedLen := by
      simp only [Framing.size, rowFraming, cols]
    rw [decodeRows, Boo.Client.Snapshot.decodeRows, six, addressable.add_eq inside (by decide),
      Run.pure_bind]
    by_cases headShort : payload.length < offset + 6
    · rw [if_pos headShort, if_pos headShort]
      refine ⟨[], rfl, ?_⟩
      intro request
      constructor
      · intro member
        exact absurd member List.not_mem_nil
      · rintro ⟨rest, reaches, -⟩
        rcases reachesRow_succ.mp reaches with ⟨-, head⟩ | ⟨fits, -⟩
        · omega
        · omega
    have first : rowRequest (payload.drop offset) =
        ⟨(u16At payload (offset + 4)).toNat, payload.length - (offset + 6), 12⟩ := by
      rw [rowRequest, cols, dataLength, six, twelve, Nat.sub_add_eq]
    rw [if_neg headShort, if_neg headShort, u16_eq addressable (by omega), Run.pure_bind,
      addressable.add_eq inside (by decide), Run.pure_bind, u16_eq addressable (by omega),
      Run.pure_bind, addressable.add_eq inside (by decide), Run.pure_bind,
      u16_eq addressable (by omega), Run.pure_bind, Run.pure_bind, twelve]
    by_cases bodyShort : payload.length <
        offset + 6 + (u16At payload (offset + 4)).toNat * remoteCellEncodedLen
    · have cells : decodeCells payload (u16At payload (offset + 4)).toNat (offset + 6) = pure none := by
        rw [decodeCells_eq addressable _ (by omega), decodeCells_of_lt (by omega) bodyShort]
      rw [cells, Run.pure_bind, decodeCells_of_lt (by omega) bodyShort]
      refine ⟨_, Run.ok_bind rfl rfl, ?_⟩
      intro request
      rw [List.append_nil, List.mem_singleton, ← first]
      constructor
      · intro same
        exact ⟨_, reachesRow_succ.mpr (Or.inl ⟨rfl, by omega⟩), same⟩
      · rintro ⟨rest, reaches, same⟩
        rcases reachesRow_succ.mp reaches with ⟨here, -⟩ | ⟨fits, -⟩
        · rw [same, here]
        · omega
    have nextInside : offset + 6 + (u16At payload (offset + 4)).toNat * remoteCellEncodedLen ≤
        payload.length := by omega
    obtain ⟨cells, length, decoded⟩ := decodeCells_of_le nextInside
    have checked : decodeCells payload (u16At payload (offset + 4)).toNat (offset + 6) =
        pure (some (cells, offset + 6 +
          (u16At payload (offset + 4)).toNat * remoteCellEncodedLen)) := by
      rw [decodeCells_eq addressable _ (by omega), decoded]
    have cellsLe : (u16At payload (offset + 4)).toNat ≤
        (u16At payload (offset + 4)).toNat * remoteCellEncodedLen := Nat.le_mul_of_pos_right _ (by decide)
    have short : payload.length < 2 ^ 63 := addressable
    rw [checked, Run.pure_bind, decoded]
    dsimp only
    rw [addressable.add_eq (by omega) (by omega), Run.pure_bind]
    have nextCounted : changedCells + cells.length ≤
        offset + 6 + (u16At payload (offset + 4)).toNat * remoteCellEncodedLen := by omega
    obtain ⟨requests, run, asked⟩ := ih nextInside nextCounted
    have sizeFits : rowFraming.size (payload.drop offset) ≤ (payload.drop offset).length := by omega
    have dropNext : (payload.drop offset).drop (rowFraming.size (payload.drop offset)) =
        payload.drop (offset + 6 + (u16At payload (offset + 4)).toNat * remoteCellEncodedLen) := by
      rw [size, List.drop_drop, Nat.add_assoc]
    refine ⟨rowRequest (payload.drop offset) :: requests, ?_, ?_⟩
    · rw [first]
      refine (Run.request_bind (Run.ok_map _ run)).trans ?_
      cases Boo.Client.Snapshot.decodeRows payload n _ <;> rfl
    · intro request
      rw [List.mem_cons, asked]
      constructor
      · rintro (same | ⟨rest, reaches, same⟩)
        · exact ⟨_, reachesRow_succ.mpr (Or.inl ⟨rfl, by omega⟩), same⟩
        · rw [← dropNext] at reaches
          exact ⟨rest, reachesRow_succ.mpr (Or.inr ⟨sizeFits, reaches⟩), same⟩
      · rintro ⟨rest, reaches, same⟩
        rcases reachesRow_succ.mp reaches with ⟨here, -⟩ | ⟨-, later⟩
        · rw [here] at same
          exact Or.inl same
        · rw [dropNext] at later
          exact Or.inr ⟨rest, later, same⟩

/-- Where the rows of a delta start. -/
def deltaRows (payload : List UInt8) : Nat :=
  localDeltaHeaderLen + if u8At payload 16 &&& 0x01 ≠ 0 then 2 else 0

/-- The vector for the rows is asked for on the word of the count. -/
def rowsRequest (payload : List UInt8) : Request :=
  ⟨(u16At payload 8).toNat, payload.length - deltaRows payload, rowHeaderLen⟩

theorem rowsFrom_run (addressable : Addressable payload) {start : Nat}
    (inside : start ≤ payload.length) (n : Nat) {α : Type} (f : List RemoteRowDelta → α) :
    ∃ requests,
      (do
        Run.request n (payload.length - start) rowHeaderLen
        let changedRows ← decodeRows payload n start 0
        pure (changedRows.map f)) =
        (⟨requests, .ok ((Boo.Client.Snapshot.decodeRows payload n start).map f)⟩ :
          Run (Option α)) ∧
      ∀ request, request ∈ requests ↔
        request = ⟨n, payload.length - start, rowHeaderLen⟩ ∨
          ∃ rest, ReachesRow n (payload.drop start) rest ∧ request = rowRequest rest := by
  obtain ⟨requests, run, asked⟩ := decodeRows_run addressable n inside (Nat.zero_le start)
  refine ⟨_, Run.request_bind (Run.ok_map _ run), ?_⟩
  intro request
  rw [List.mem_cons, asked]

theorem decodeRemoteDelta_run (addressable : Addressable payload) : ∃ requests,
    decodeRemoteDelta payload =
      ⟨requests, .ok (Boo.Client.Snapshot.decodeRemoteDelta payload)⟩ ∧
    ∀ request, request ∈ requests ↔ deltaRows payload ≤ payload.length ∧
      (request = rowsRequest payload ∨ ∃ rest,
        ReachesRow (u16At payload 8).toNat (payload.drop (deltaRows payload)) rest ∧
          request = rowRequest rest) := by
  have header : localDeltaHeaderLen = 21 := rfl
  have short : payload.length < 2 ^ 63 := addressable
  rw [decodeRemoteDelta, Boo.Client.Snapshot.decodeRemoteDelta]
  by_cases headerShort : payload.length < localDeltaHeaderLen
  · rw [if_pos headerShort, if_pos headerShort]
    refine ⟨[], rfl, ?_⟩
    intro request
    constructor
    · intro member
      exact absurd member List.not_mem_nil
    · rintro ⟨fits, -⟩
      have start : localDeltaHeaderLen ≤ deltaRows payload := Nat.le_add_right _ _
      omega
  rw [if_neg headerShort, if_neg headerShort, u64_eq (by omega), Run.pure_bind,
    u16_eq addressable (by omega), Run.pure_bind, u16_eq addressable (by omega), Run.pure_bind,
    u16_eq addressable (by omega), Run.pure_bind, index_eq (by omega), Run.pure_bind,
    index_eq (by omega), Run.pure_bind, index_eq (by omega), Run.pure_bind,
    u32_eq addressable (by omega), Run.pure_bind]
  dsimp only
  by_cases scrolls : u8At payload 16 &&& 0x01 ≠ 0
  · have start : deltaRows payload = localDeltaHeaderLen + 2 := by
      rw [deltaRows, if_pos scrolls]
    rw [if_pos scrolls, if_pos scrolls, add_of_lt (by rw [header]; decide), Run.pure_bind]
    by_cases scrollShort : payload.length < localDeltaHeaderLen + 2
    · rw [if_pos scrollShort, if_pos scrollShort]
      refine ⟨[], rfl, ?_⟩
      intro request
      constructor
      · intro member
        exact absurd member List.not_mem_nil
      · rintro ⟨fits, -⟩
        omega
    rw [if_neg scrollShort, if_neg scrollShort, u16_eq addressable (by omega), Run.pure_bind]
    have inside : localDeltaHeaderLen + 2 ≤ payload.length := by omega
    obtain ⟨requests, run, asked⟩ := rowsFrom_run addressable inside (u16At payload 8).toNat _
    refine ⟨requests, run.trans ?_, ?_⟩
    · cases Boo.Client.Snapshot.decodeRows payload (u16At payload 8).toNat _ <;> rfl
    · intro request
      rw [asked, rowsRequest, start]
      simp only [inside, true_and]
  · have start : deltaRows payload = localDeltaHeaderLen := by
      rw [deltaRows, if_neg scrolls]
      rfl
    have inside : localDeltaHeaderLen ≤ payload.length := by omega
    rw [if_neg scrolls, if_neg scrolls]
    obtain ⟨requests, run, asked⟩ := rowsFrom_run addressable inside (u16At payload 8).toNat _
    refine ⟨requests, run.trans ?_, ?_⟩
    · cases Boo.Client.Snapshot.decodeRows payload (u16At payload 8).toNat _ <;> rfl
    · intro request
      rw [asked, rowsRequest, start]
      simp only [inside, true_and]

/-- The pane decoders run the others on what follows the pane header. -/
theorem decodeRemotePane_run {α : Type}
    {decode : List UInt8 → Run (Option (Option UInt64 × α))}
    (long : uiPaneUpdateHeaderLen ≤ payload.length) :
    decodeRemotePane payload decode = decode (payload.drop uiPaneUpdateHeaderLen) >>= fun decoded =>
      pure (decoded.map fun decoded => (u64At payload 4, u64At payload 20, decoded.2)) := by
  have header : uiPaneUpdateHeaderLen = 28 := rfl
  have notShort : ¬ payload.length < uiPaneUpdateHeaderLen := by omega
  have body : slice payload uiPaneUpdateHeaderLen (payload.length - uiPaneUpdateHeaderLen) =
      payload.drop uiPaneUpdateHeaderLen := by
    rw [slice, ← List.length_drop, List.take_length]
  rw [decodeRemotePane, if_neg notShort, u64_eq (by omega), Run.pure_bind, u64_eq (by omega),
    Run.pure_bind, range_of_le long (Nat.le_refl _), Run.pure_bind, body]

theorem Addressable.drop (addressable : Addressable payload) (n : Nat) :
    Addressable (payload.drop n) := by
  rw [Addressable, List.length_drop]
  exact Nat.lt_of_le_of_lt (Nat.sub_le _ _) addressable

end Spec

end Boo.Client.CheckedDecoders
