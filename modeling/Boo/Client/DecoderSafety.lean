/- module: Boo/Client/DecoderSafety
   digest: Which payloads and deltas the GUI client handles without a fault or an idle allocation. -/

import Boo.Client.CheckedDelta

set_option autoImplicit false
set_option relaxedAutoImplicit false

namespace Boo.Client.DecoderSafety

open Boo.Lib.Checked
open Boo.Lib.LittleEndian
open Boo.Wire.Message
open Boo.Client.Snapshot (TerminalSnapshot RemoteDelta CellSnapshot RemoteRowDelta)
open Boo.Client.CheckedDecoders
open Boo.Client.CheckedDelta

/-- A decoder given a payload, or a delta applied to a snapshot. -/
inductive Call (Style : Type)
  | tabList (payload : List UInt8)
  | fullState (payload : List UInt8)
  | delta (payload : List UInt8)
  | paneFullState (payload : List UInt8)
  | paneDelta (payload : List UInt8)
  | apply (snapshot : TerminalSnapshot Style) (delta : RemoteDelta)

def Decoded (delta : RemoteDelta) : Prop :=
  ∃ payload ack, Boo.Client.Snapshot.decodeRemoteDelta payload = some (ack, delta)

/-- Any bytes, and any decoded delta on any well-formed snapshot. -/
def Possible {Style : Type} : Call Style → Prop
  | .tabList payload | .fullState payload | .delta payload | .paneFullState payload
  | .paneDelta payload => Addressable payload
  | .apply snapshot delta => WellFormed snapshot ∧ Decoded delta

section Calls

variable {Style : Type} (cursorStyleOf : Int32 → Style)

/-- A decoder ends without a fault and asks for no more than `factor` times the elements that the
rest of its payload has room for; a delta is applied without a fault and leaves the dimensions. -/
def Safe (factor : Nat) : Call Style → Prop
  | .tabList payload => (decodeRemoteTabList payload).Safe (Request.Within factor)
  | .fullState payload => (decodeRemoteFullState payload).Safe (Request.Within factor)
  | .delta payload => (decodeRemoteDelta payload).Safe (Request.Within factor)
  | .paneFullState payload => (decodeRemotePaneFullState payload).Safe (Request.Within factor)
  | .paneDelta payload => (decodeRemotePaneDelta payload).Safe (Request.Within factor)
  | .apply snapshot delta => ∃ after,
      (applyRemoteDeltaSnapshot cursorStyleOf snapshot delta).outcome = .ok after ∧
        after.cols = snapshot.cols ∧ after.rows = snapshot.rows ∧ WellFormed after

end Calls

/-- The announced tabs fit, `factor` times over. -/
def TabsFit (factor : Nat) (payload : List UInt8) : Prop :=
  4 ≤ payload.length →
    (u32At payload 0).toNat ≤ factor * ((payload.length - 4) / minTabLen)

/-- The announced rows fit, and so do the announced cells of each row that is reached. -/
def RowsFit (factor : Nat) (payload : List UInt8) : Prop :=
  deltaRows payload ≤ payload.length →
    (u16At payload 8).toNat ≤ factor * ((payload.length - deltaRows payload) / rowHeaderLen) ∧
      ∀ rest, ReachesRow (u16At payload 8).toNat (payload.drop (deltaRows payload)) rest →
        (u16At rest 4).toNat ≤ factor * ((rest.length - rowHeaderLen) / remoteCellEncodedLen)

def Handled {Style : Type} (factor : Nat) : Call Style → Prop
  | .tabList payload => TabsFit factor payload
  | .fullState _ | .paneFullState _ => True
  | .delta payload => RowsFit factor payload
  | .paneDelta payload => uiPaneUpdateHeaderLen ≤ payload.length →
      RowsFit factor (payload.drop uiPaneUpdateHeaderLen)
  | .apply snapshot delta => delta.scrollRows = Int16.minValue → snapshot.rowsData = []

section Decoders

variable {payload : List UInt8} {factor : Nat}

theorem safe_tabList_iff (addressable : Addressable payload) (pos : 0 < factor) :
    (decodeRemoteTabList payload).Safe (Request.Within factor) ↔ TabsFit factor payload := by
  by_cases long : 4 ≤ payload.length
  · obtain ⟨requests, run, within⟩ := decodeRemoteTabList_run addressable long
    rw [run, Run.safe_ok]
    constructor
    · intro safe _
      exact safe _ List.mem_cons_self
    · intro fits request member
      rcases List.mem_cons.mp member with rfl | later
      · exact fits long
      · exact (within request later).mono pos
  · have short : decodeRemoteTabList payload = pure none := if_pos (Nat.not_le.mp long)
    rw [short]
    exact iff_of_true (Run.returns_pure none).safe fun here => absurd here long

theorem safe_fullState (addressable : Addressable payload) (pos : 0 < factor) :
    (decodeRemoteFullState payload).Safe (Request.Within factor) :=
  ((decodeRemoteFullState_returns addressable).mono fun _ within => within.mono pos).safe

theorem safe_delta_iff (addressable : Addressable payload) :
    (decodeRemoteDelta payload).Safe (Request.Within factor) ↔ RowsFit factor payload := by
  obtain ⟨requests, run, asked⟩ := decodeRemoteDelta_run addressable
  rw [run, Run.safe_ok]
  constructor
  · intro safe fits
    refine ⟨safe _ ((asked _).mpr ⟨fits, Or.inl rfl⟩), ?_⟩
    intro rest reaches
    exact safe _ ((asked _).mpr ⟨fits, Or.inr ⟨rest, reaches, rfl⟩⟩)
  · intro fits request member
    obtain ⟨inside, rfl | ⟨rest, reaches, rfl⟩⟩ := (asked request).mp member
    · exact (fits inside).1
    · exact (fits inside).2 rest reaches

/-- The pane header is the only thing that the pane decoders add. -/
theorem safe_pane_iff {α : Type} {decode : List UInt8 → Run (Option (Option UInt64 × α))} :
    (decodeRemotePane payload decode).Safe (Request.Within factor) ↔
      (uiPaneUpdateHeaderLen ≤ payload.length →
        (decode (payload.drop uiPaneUpdateHeaderLen)).Safe (Request.Within factor)) := by
  by_cases long : uiPaneUpdateHeaderLen ≤ payload.length
  · rw [decodeRemotePane_run long, Run.safe_map]
    simp only [long, true_implies]
  · have short : decodeRemotePane payload decode = pure none := if_pos (Nat.not_le.mp long)
    rw [short]
    exact iff_of_true (Run.returns_pure none).safe fun here => absurd here long

end Decoders

theorem length_decodeRows {payload : List UInt8} {n offset : Nat} {rows : List RemoteRowDelta}
    (decoded : Boo.Client.Snapshot.decodeRows payload n offset = some rows) : rows.length = n := by
  induction n generalizing offset rows with
  | zero =>
    cases decoded
    rfl
  | succ n ih =>
    rw [Boo.Client.Snapshot.decodeRows] at decoded
    split at decoded
    · cases decoded
    split at decoded
    · cases decoded
    split at decoded
    · cases decoded
    rename_i later found
    cases decoded
    rw [List.length_cons, ih found]

/-- The row count is a sixteen-bit field. -/
theorem Decoded.few {delta : RemoteDelta} (decoded : Decoded delta) :
    delta.changedRows.length < 65536 := by
  obtain ⟨payload, ack, result⟩ := decoded
  have small : (u16At payload 8).toNat < 65536 := (u16At payload 8).toNat_lt
  rw [Boo.Client.Snapshot.decodeRemoteDelta] at result
  split at result
  · cases result
  dsimp only at result
  split at result
  · split at result
    · cases result
    split at result
    · cases result
    rename_i rows found
    cases result
    rw [length_decodeRows found]
    exact small
  · split at result
    · cases result
    rename_i rows found
    cases result
    rw [length_decodeRows found]
    exact small

section Applying

variable {Style : Type} (cursorStyleOf : Int32 → Style)

theorem safe_apply_iff {snapshot : TerminalSnapshot Style} {delta : RemoteDelta} (factor : Nat)
    (wf : WellFormed snapshot) (decoded : Decoded delta) :
    Safe cursorStyleOf factor (.apply snapshot delta) ↔
      (delta.scrollRows = Int16.minValue → snapshot.rowsData = []) := by
  constructor
  · rintro ⟨after, ended, -⟩ least
    by_contra some
    rw [applyRemoteDeltaSnapshot_fails cursorStyleOf ⟨least, some⟩] at ended
    cases ended
  · intro handled
    have negatable : ¬ Unnegatable snapshot delta := fun both => both.2 (handled both.1)
    have dimensions := applyRemoteDelta_dimensions cursorStyleOf wf delta
    refine ⟨_, ?_, dimensions⟩
    rw [applyRemoteDeltaSnapshot_eq cursorStyleOf decoded.few negatable]
    rfl

/-- The counts that a vector is allocated for must fit into what follows them, and a delta must not
scroll a screen by the one amount that has no negation; all else is handled. -/
theorem safe_iff_handled (factor : Nat) (pos : 0 < factor) (call : Call Style)
    (possible : Possible call) : Safe cursorStyleOf factor call ↔ Handled factor call := by
  cases call with
  | tabList payload => exact safe_tabList_iff possible pos
  | fullState payload => exact iff_of_true (safe_fullState possible pos) trivial
  | delta payload => exact safe_delta_iff possible
  | paneFullState payload =>
    refine iff_of_true ?_ trivial
    exact safe_pane_iff.mpr fun _ => safe_fullState (possible.drop _) pos
  | paneDelta payload =>
    have bytes : Addressable payload := possible
    refine safe_pane_iff.trans ?_
    rw [safe_delta_iff (bytes.drop _), Handled]
  | apply snapshot delta => exact safe_apply_iff cursorStyleOf factor possible.1 possible.2

end Applying

def oneCell : TerminalSnapshot Unit where
  cols := 1
  rows := 1
  title := ""
  pwd := ""
  cursor := ⟨true, false, 0, 0, ()⟩
  rowsData := [[{}]]
  rowRevisions := [1]
  colors := ⟨⟨0, 0, 0⟩, ⟨0, 0, 0⟩, ⟨0, 0, 0⟩, false⟩

theorem oneCell_wellFormed : WellFormed oneCell := by
  refine ⟨rfl, ?_⟩
  intro row member
  rw [List.mem_singleton.mp member]
  rfl

/-- One active tab whose name is `a`. -/
def oneTab : List UInt8 := [1, 0, 0, 0, 7, 0, 0, 0, 1, 0, 0x61, 0, 0, 0, 0, 1]

/-- One row of one cell, an `x`. -/
def oneRow : List UInt8 :=
  [0, 0, 0, 0, 0, 0, 0, 0, 1, 0, 0, 0, 0, 0, 1, 0, 0, 0, 0, 0, 0, 0, 0, 0, 0, 1, 0,
    0x78, 0, 0, 0, 0, 0, 0, 0, 0, 0, 0, 0]

def writtenDelta : RemoteDelta where
  cursorX := 0
  cursorY := 0
  cursorVisible := true
  cursorBlinking := false
  cursorStyle := 0
  scrollRows := 0
  changedRows := [⟨0, 0, [⟨0x78, ⟨0, 0, 0⟩, ⟨0, 0, 0⟩, 0, false⟩]⟩]

/-- The tab and the row are read, and the row is written into the snapshot. -/
theorem safe_iff_handled_oneRow :
    Safe (fun _ => ()) 1 (.tabList oneTab : Call Unit) ∧
      Safe (fun _ => ()) 1 (.delta oneRow : Call Unit) ∧
      Safe (fun _ => ()) 1 (.apply oneCell writtenDelta) := by
  have decoded : Boo.Client.Snapshot.decodeRemoteDelta oneRow = some (none, writtenDelta) := by
    decide
  have tabs : Possible (.tabList oneTab : Call Unit) := by
    rw [Possible, Addressable]
    decide
  have rows : Possible (.delta oneRow : Call Unit) := by
    rw [Possible, Addressable]
    decide
  have applied : Possible (.apply oneCell writtenDelta) :=
    ⟨oneCell_wellFormed, oneRow, none, decoded⟩
  refine ⟨(safe_iff_handled _ 1 Nat.one_pos _ tabs).mpr fun _ => by decide,
    (safe_iff_handled _ 1 Nat.one_pos _ rows).mpr fun _ => ⟨by decide, fun rest reaches => ?_⟩,
    (safe_iff_handled _ 1 Nat.one_pos _ applied).mpr fun least => absurd least (by decide)⟩
  have one : (u16At oneRow 8).toNat = 0 + 1 := by decide
  rw [one, reachesRow_succ] at reaches
  rcases reaches with ⟨rfl, -⟩ | ⟨-, later⟩
  · decide
  · exact absurd later not_reachesRow_zero

/-- A tab list that announces four billion tabs and ends there. -/
def hugeTabList : List UInt8 := [0xFF, 0xFF, 0xFF, 0xFF]

theorem hugeTabList_possible : Possible (.tabList hugeTabList : Call Unit) := by
  rw [Possible, Addressable]
  decide

/-- A delta without rows that scrolls by -32768. -/
def extremeScroll : List UInt8 :=
  [0, 0, 0, 0, 0, 0, 0, 0, 0, 0, 0, 0, 0, 0, 0, 0, 1, 0, 0, 0, 0, 0x00, 0x80]

def extremeDelta : RemoteDelta where
  cursorX := 0
  cursorY := 0
  cursorVisible := false
  cursorBlinking := false
  cursorStyle := 0
  scrollRows := Int16.minValue
  changedRows := []

/-- No factor is enough for the four bytes, and the extreme scroll cannot be applied. -/
theorem hostile_unsafe :
    (∀ factor, ¬ Safe (fun _ => ()) factor (.tabList hugeTabList : Call Unit)) ∧
      Boo.Client.Snapshot.decodeRemoteDelta extremeScroll = some (none, extremeDelta) ∧
      WellFormed oneCell ∧ ∀ factor, ¬ Safe (fun _ => ()) factor (.apply oneCell extremeDelta) := by
  have decoded : Boo.Client.Snapshot.decodeRemoteDelta extremeScroll = some (none, extremeDelta) := by
    decide
  refine ⟨?_, decoded, oneCell_wellFormed, ?_⟩
  · intro factor safe
    obtain ⟨requests, run, -⟩ := decodeRemoteTabList_run hugeTabList_possible (by decide)
    have tabs : (decodeRemoteTabList hugeTabList).Safe (Request.Within factor) := safe
    rw [run, Run.safe_ok] at tabs
    have first := tabs _ List.mem_cons_self
    have none : (hugeTabList.length - 4) / minTabLen = 0 := rfl
    have many : (u32At hugeTabList 0).toNat = 4294967295 := by decide
    rw [Request.Within, Request.room] at first
    dsimp only at first
    rw [none, many, Nat.mul_zero] at first
    exact absurd first (by decide)
  · intro factor safe
    have empty := (safe_apply_iff (fun _ => ()) factor oneCell_wellFormed
      ⟨extremeScroll, none, decoded⟩).mp safe rfl
    cases empty

end Boo.Client.DecoderSafety
