/- module: Boo/Server/RowRetention
   digest: Which rows a pane's cache retains, in which order, and when the visible ones are kept. -/

import Boo.Lib.Runs
import Boo.Server.RowCache

set_option autoImplicit false
set_option relaxedAutoImplicit false

namespace Boo.Server.RowRetention

open Boo.Lib.RowMajor
open Boo.Lib.Runs
open Boo.Wire.Message
open Boo.Server.View
open Boo.Server.RowCache

section Rows

/-- Rows by id, as the ordered map of the source lists them. -/
abbrev Rows := List (UInt64 × List RemoteCell)

/-- Strictly increasing ids. -/
def Sorted (rows : Rows) : Prop := rows.Pairwise fun first later => first.1.toNat < later.1.toNat

def below (id : Nat) (rows : Rows) : Rows := rows.filter fun row => row.1.toNat < id

def from_ (id : Nat) (rows : Rows) : Rows := rows.filter fun row => id ≤ row.1.toNat

/-- Rows with consecutive ids. -/
def consecutive (id : Nat) (rows : List (List RemoteCell)) : Rows :=
  (rows.zipIdx id).map fun row => (UInt64.ofNat row.2, row.1)

variable {rows : Rows} {id : Nat}

theorem mem_below {row : UInt64 × List RemoteCell} :
    row ∈ below id rows ↔ row ∈ rows ∧ row.1.toNat < id := by
  rw [below, List.mem_filter, decide_eq_true_iff]

theorem mem_from {row : UInt64 × List RemoteCell} :
    row ∈ from_ id rows ↔ row ∈ rows ∧ id ≤ row.1.toNat := by
  rw [from_, List.mem_filter, decide_eq_true_iff]

/-- A sorted list is what it has below an id and what it has from there on. -/
theorem below_append_from (sorted : Sorted rows) (id : Nat) :
    below id rows ++ from_ id rows = rows := by
  induction rows with
  | nil => rfl
  | cons row rows ih =>
      obtain ⟨later, rest⟩ := List.pairwise_cons.mp sorted
      by_cases low : row.1.toNat < id
      · rw [below, from_, List.filter_cons_of_pos (by simpa using low),
          List.filter_cons_of_neg (by simpa using low), List.cons_append]
        exact congrArg _ (ih rest)
      · have none : below id (row :: rows) = [] := by
          rw [below, List.filter_eq_nil_iff]
          intro other member
          rcases List.mem_cons.mp member with rfl | member
          · simpa using low
          · have above := later other member
            simp only [decide_eq_true_eq, not_lt]
            omega
        have all : from_ id (row :: rows) = row :: rows := by
          rw [from_, List.filter_eq_self]
          intro other member
          rcases List.mem_cons.mp member with rfl | member
          · simpa using low
          · have above := later other member
            rw [decide_eq_true_iff]
            omega
        rw [none, all, List.nil_append]

/-- Inserting a row puts it between the smaller and the greater ids. -/
theorem insertRow_eq (sorted : Sorted rows) (rowId : UInt64) (cells : List RemoteCell) :
    insertRow rowId cells rows =
      below rowId.toNat rows ++ (rowId, cells) :: from_ (rowId.toNat + 1) rows := by
  induction rows with
  | nil => rfl
  | cons row rows ih =>
      obtain ⟨later, rest⟩ := List.pairwise_cons.mp sorted
      rw [insertRow]
      have laterFrom : ∀ bound ≤ row.1.toNat + 1, from_ bound rows = rows := by
        intro bound small
        rw [from_, List.filter_eq_self]
        intro other member
        have above := later other member
        rw [decide_eq_true_iff]
        omega
      have laterBelow : ∀ bound ≤ row.1.toNat, below bound rows = [] := by
        intro bound small
        rw [below, List.filter_eq_nil_iff]
        intro other member
        have above := later other member
        simp only [decide_eq_true_eq, not_lt]
        omega
      split
      · rename_i less
        rw [UInt64.lt_iff_toNat_lt] at less
        rw [below, List.filter_cons_of_neg (by simp; omega), from_,
          List.filter_cons_of_pos (by simp; omega), ← below, ← from_, laterBelow _ (by omega),
          laterFrom _ (by omega)]
        rfl
      · rename_i notLess
        rw [UInt64.lt_iff_toNat_lt] at notLess
        split
        · rename_i same
          rw [below, List.filter_cons_of_neg (by rw [same]; simp), from_,
            List.filter_cons_of_neg (by rw [same]; simp), ← below, ← from_, same,
            laterBelow _ le_rfl, laterFrom _ le_rfl]
          rfl
        · rename_i other
          have greater : row.1.toNat < rowId.toNat := by
            have different : rowId.toNat ≠ row.1.toNat := fun same => other (UInt64.toNat_inj.mp same)
            omega
          rw [below, List.filter_cons_of_pos (by simpa using greater), from_,
            List.filter_cons_of_neg (by simp; omega), ← below, ← from_, ih rest]
          rfl

theorem sorted_insertRow (sorted : Sorted rows) (rowId : UInt64) (cells : List RemoteCell) :
    Sorted (insertRow rowId cells rows) := by
  rw [insertRow_eq sorted, Sorted, List.pairwise_append, List.pairwise_cons]
  refine ⟨sorted.filter _, ⟨?_, sorted.filter _⟩, ?_⟩
  · intro other member
    exact (mem_from.mp member).2
  · intro first low later member
    have small := (mem_below.mp low).2
    rcases List.mem_cons.mp member with rfl | high
    · exact small
    · have above := (mem_from.mp high).2
      omega

theorem toNat_rowId {top : UInt64} {index : Nat} (fits : top.toNat + index < 2 ^ 64) :
    (saturatingAdd top (UInt64.ofNat index)).toNat = top.toNat + index := by
  have small : (UInt64.ofNat index).toNat = index := UInt64.toNat_ofNat_of_lt' (by
    rw [UInt64.size]
    omega)
  rw [saturatingAdd, small, if_pos fits, UInt64.toNat_add, small, Nat.mod_eq_of_lt fits]

theorem consecutive_cons (id : Nat) (cells : List RemoteCell) (later : List (List RemoteCell)) :
    consecutive id (cells :: later) = (UInt64.ofNat id, cells) :: consecutive (id + 1) later := rfl

private theorem below_insertRow (sorted : Sorted rows) (rowId : UInt64) (cells : List RemoteCell) :
    below (rowId.toNat + 1) (insertRow rowId cells rows) =
      below rowId.toNat rows ++ [(rowId, cells)] := by
  rw [insertRow_eq sorted, below, List.filter_append, List.filter_cons_of_pos (by simp)]
  congr 1
  · rw [List.filter_eq_self]
    intro row member
    have small := (mem_below.mp member).2
    rw [decide_eq_true_iff]
    omega
  · congr 1
    rw [List.filter_eq_nil_iff]
    intro row member
    have high := (mem_from.mp member).2
    simp only [decide_eq_true_eq, not_lt]
    exact high

private theorem from_insertRow (sorted : Sorted rows) (rowId : UInt64) (cells : List RemoteCell)
    {bound : Nat} (above : rowId.toNat < bound) :
    from_ bound (insertRow rowId cells rows) = from_ bound rows := by
  have split := below_append_from sorted (rowId.toNat + 1)
  rw [insertRow_eq sorted, from_, List.filter_append, List.filter_cons_of_neg (by simpa using above)]
  have low : (below rowId.toNat rows).filter (fun row => decide (bound ≤ row.1.toNat)) = [] := by
    rw [List.filter_eq_nil_iff]
    intro row member
    have small := (mem_below.mp member).2
    simp only [decide_eq_true_eq, not_le]
    omega
  have lower : (below (rowId.toNat + 1) rows).filter (fun row => decide (bound ≤ row.1.toNat)) =
      [] := by
    rw [List.filter_eq_nil_iff]
    intro row member
    have small := (mem_below.mp member).2
    simp only [decide_eq_true_eq, not_le]
    omega
  conv_rhs => rw [← split, from_, List.filter_append, lower]
  rw [low]

/-- Inserting the rows of a screen replaces what was cached between its first and last id. -/
theorem foldl_insertRow (top : UInt64) (screen : List (List RemoteCell)) (index : Nat)
    (sorted : Sorted rows) (fits : top.toNat + index + screen.length ≤ 2 ^ 64) :
    (screen.zipIdx index).foldl (fun rows (row : List RemoteCell × Nat) =>
        insertRow (saturatingAdd top (UInt64.ofNat row.2)) row.1 rows) rows =
      below (top.toNat + index) rows ++ (consecutive (top.toNat + index) screen ++
        from_ (top.toNat + index + screen.length) rows) := by
  induction screen generalizing index rows with
  | nil => exact (below_append_from sorted _).symm
  | cons cells screen ih =>
      rw [List.length_cons] at fits
      have idOf := @toNat_rowId top index (by omega)
      have same : saturatingAdd top (UInt64.ofNat index) = UInt64.ofNat (top.toNat + index) :=
        UInt64.toNat_inj.mp (idOf.trans (UInt64.toNat_ofNat_of_lt' (by rw [UInt64.size]; omega)).symm)
      have low := below_insertRow sorted (saturatingAdd top (UInt64.ofNat index)) cells
      have high := @from_insertRow _ sorted (saturatingAdd top (UInt64.ofNat index)) cells
        (top.toNat + (index + 1) + screen.length) (by omega)
      rw [idOf] at low
      rw [List.zipIdx_cons, List.foldl_cons, ih (index + 1) (sorted_insertRow sorted _ _) (by omega),
        ← Nat.add_assoc, low, consecutive_cons, List.length_cons, same, List.append_assoc]
      rw [← Nat.add_assoc, same] at high
      rw [high, ← Nat.add_assoc, Nat.add_right_comm _ 1]
      rfl

/-- Every row of a screen leaves its id among the rows, whatever ids repeat. -/
theorem id_mem_foldl (top : UInt64) (screen : List (List RemoteCell)) (index : Nat)
    (sorted : Sorted rows) :
    Sorted ((screen.zipIdx index).foldl (fun rows (row : List RemoteCell × Nat) =>
        insertRow (saturatingAdd top (UInt64.ofNat row.2)) row.1 rows) rows) ∧
      ∀ rowId : UInt64, rowId ∈ rows.map Prod.fst ∨
          (∃ i < screen.length, rowId = saturatingAdd top (UInt64.ofNat (index + i))) →
        rowId ∈ ((screen.zipIdx index).foldl (fun rows (row : List RemoteCell × Nat) =>
          insertRow (saturatingAdd top (UInt64.ofNat row.2)) row.1 rows) rows).map Prod.fst := by
  induction screen generalizing index rows with
  | nil =>
      refine ⟨sorted, fun rowId known => known.resolve_right ?_⟩
      rintro ⟨i, inside, -⟩
      exact Nat.not_lt_zero i inside
  | cons cells screen ih =>
      have next := sorted_insertRow sorted (saturatingAdd top (UInt64.ofNat index)) cells
      obtain ⟨stays, holds⟩ := ih (index + 1) next
      refine ⟨stays, fun rowId known => holds rowId ?_⟩
      have inserted : ∀ other, other ∈ rows.map Prod.fst ∨
          other = saturatingAdd top (UInt64.ofNat index) →
          other ∈ (insertRow (saturatingAdd top (UInt64.ofNat index)) cells rows).map Prod.fst := by
        intro other here
        rw [insertRow_eq sorted, List.map_append, List.map_cons, List.mem_append, List.mem_cons]
        by_cases same : other = saturatingAdd top (UInt64.ofNat index)
        · exact .inr (.inl same)
        · obtain ⟨row, member, rfl⟩ := List.mem_map.mp (here.resolve_right same)
          have different : row.1.toNat ≠ (saturatingAdd top (UInt64.ofNat index)).toNat :=
            fun equal => same (UInt64.toNat_inj.mp equal)
          by_cases low : row.1.toNat < (saturatingAdd top (UInt64.ofNat index)).toNat
          · exact .inl (List.mem_map_of_mem (mem_below.mpr ⟨member, low⟩))
          · exact .inr (.inr (List.mem_map_of_mem (mem_from.mpr ⟨member, by omega⟩)))
      rcases known with member | ⟨i, inside, rfl⟩
      · exact .inl (inserted rowId (.inl member))
      · cases i with
        | zero => exact .inl (inserted _ (.inr rfl))
        | succ i =>
            rw [List.length_cons] at inside
            exact .inr ⟨i, by omega, by rw [Nat.add_right_comm, Nat.add_assoc]⟩

/-- The rows that a full cache keeps: the ones with the greatest ids. -/
def trimmed (rows : Rows) : Rows := rows.drop (rows.length - maxRetainedRows)

theorem length_trimmed_le (rows : Rows) : (trimmed rows).length ≤ maxRetainedRows := by
  rw [trimmed, List.length_drop]
  omega

theorem Sorted.trimmed (sorted : Sorted rows) : Sorted (trimmed rows) :=
  List.Pairwise.sublist (List.drop_sublist _ _) sorted

theorem trimmed_ne_nil (some : rows ≠ []) : trimmed rows ≠ [] := by
  have pos : 0 < rows.length := List.length_pos_iff.mpr some
  have room : 0 < maxRetainedRows := by decide
  rw [trimmed, Ne, List.drop_eq_nil_iff]
  omega

/-- The greatest id survives. -/
theorem getLast?_trimmed (some : rows ≠ []) : (trimmed rows).getLast? = rows.getLast? := by
  have kept := trimmed_ne_nil some
  rw [trimmed] at kept ⊢
  rw [List.getLast?_drop, if_neg]
  intro short
  exact kept (List.drop_eq_nil_iff.mpr short)

theorem le_head (sorted : Sorted rows) {first row : UInt64 × List RemoteCell}
    (head : rows.head? = some first) (member : row ∈ rows) : first.1.toNat ≤ row.1.toNat := by
  cases rows with
  | nil => cases member
  | cons start rows =>
      cases head
      rcases List.mem_cons.mp member with rfl | later
      · exact le_rfl
      · exact le_of_lt ((List.pairwise_cons.mp sorted).1 row later)

theorem le_getLast (sorted : Sorted rows) {last row : UInt64 × List RemoteCell}
    (isLast : rows.getLast? = some last) (member : row ∈ rows) :
    row.1.toNat ≤ last.1.toNat := by
  obtain ⟨before, rfl⟩ := List.getLast?_eq_some_iff.mp isLast
  rcases List.mem_append.mp member with earlier | here
  · exact le_of_lt ((List.pairwise_append.mp sorted).2.2 row earlier last List.mem_cons_self)
  · rw [List.mem_singleton.mp here]

/-- A trimmed list has every row from any of its rows on. -/
theorem length_from_le (sorted : Sorted rows) {row : UInt64 × List RemoteCell}
    (member : row ∈ trimmed rows) : (from_ row.1.toNat rows).length ≤ maxRetainedRows := by
  have parts := List.take_append_drop (rows.length - maxRetainedRows) rows
  have order := sorted
  rw [← parts, Sorted, List.pairwise_append] at order
  have dropped : from_ row.1.toNat (rows.take (rows.length - maxRetainedRows)) = [] := by
    rw [from_, List.filter_eq_nil_iff]
    intro other earlier
    have less := order.2.2 other earlier row member
    simp only [decide_eq_true_eq, not_le]
    exact less
  have kept : from_ row.1.toNat rows = from_ row.1.toNat (trimmed rows) := by
    conv_lhs => rw [← parts, from_, List.filter_append, ← from_, dropped, List.nil_append]
    rfl
  rw [kept]
  exact (List.length_filter_le _ _).trans (length_trimmed_le rows)

/-- Where the rows from an id on are few enough, all of them are kept. -/
theorem mem_trimmed (sorted : Sorted rows) (few : (from_ id rows).length ≤ maxRetainedRows)
    {row : UInt64 × List RemoteCell} (member : row ∈ from_ id rows) : row ∈ trimmed rows := by
  have parts := below_append_from sorted id
  have lengths := congrArg List.length parts
  rw [List.length_append] at lengths
  have kept : trimmed rows = (below id rows).drop (rows.length - maxRetainedRows) ++ from_ id rows := by
    rw [trimmed, ← List.drop_append_of_le_length (by omega), parts]
  rw [kept]
  exact List.mem_append_right _ member

end Rows

section Step

/-- `cols_changed || row_ids_regressed`: the call clears the rows. -/
def Clears (cache : PaneRowCache) (state : RemoteFullState) : Prop :=
  (cache.cols ≠ 0 ∧ cache.cols ≠ state.cols) ∨
    (cache.retainedEnd ≠ 0 ∧
      saturatingAdd state.viewportTop (UInt64.ofNat state.rows.toNat) < cache.retainedStart)

instance (cache : PaneRowCache) (state : RemoteFullState) : Decidable (Clears cache state) :=
  inferInstanceAs (Decidable (_ ∨ _))

/-- The rows of a screen. -/
def screenRows (state : RemoteFullState) : List (List RemoteCell) :=
  chunks state.cols.toNat state.cells

/-- The rows that are cached when the screen comes in. -/
def baseRows (cache : PaneRowCache) (state : RemoteFullState) : Rows :=
  if Clears cache state then [] else cache.rows

/-- The rows before the trimming. -/
def insertedRows (cache : PaneRowCache) (state : RemoteFullState) : Rows :=
  (screenRows state).zipIdx.foldl (fun rows (row : List RemoteCell × Nat) =>
    insertRow (saturatingAdd state.viewportTop (UInt64.ofNat row.2)) row.1 rows)
    (baseRows cache state)

variable {cache : PaneRowCache} {state : Grid}

theorem length_screenRows (state : Grid) : (screenRows state.val).length = state.val.rows.toNat :=
  length_chunks state.property.cols_pos state.property.cells_length

theorem refreshEpoch_rows (cache : PaneRowCache) (state : RemoteFullState) :
    (refreshEpoch cache state).rows = baseRows cache state := by
  unfold refreshEpoch baseRows
  dsimp only
  split
  · rename_i cleared
    have clears : Clears cache state := cleared
    rw [if_pos clears]
    rfl
  · rename_i kept
    have keeps : ¬ Clears cache state := kept
    rw [if_neg keeps]

theorem sorted_baseRows (sorted : Sorted cache.rows) (state : RemoteFullState) :
    Sorted (baseRows cache state) := by
  rw [baseRows]
  split
  · exact List.Pairwise.nil
  · exact sorted

/-- `apply_row_cache_metadata` on the rows. -/
theorem next_rows (cache : PaneRowCache) (state : Grid) :
    (applyRowCacheMetadata cache state).1.rows = trimmed (insertedRows cache state.val) := by
  unfold applyRowCacheMetadata retainRows
  dsimp only
  rw [insertedRows, ← refreshEpoch_rows, trimmed, screenRows]

theorem sorted_inserted (sorted : Sorted cache.rows) (state : RemoteFullState) :
    Sorted (insertedRows cache state) :=
  (id_mem_foldl _ _ 0 (sorted_baseRows sorted state)).1

theorem sorted_next (sorted : Sorted cache.rows) (state : Grid) :
    Sorted (applyRowCacheMetadata cache state).1.rows := by
  rw [next_rows]
  exact (sorted_inserted sorted state.val).trimmed

theorem insertedRows_ne_nil (sorted : Sorted cache.rows) (state : Grid) :
    insertedRows cache state.val ≠ [] := by
  have first := (id_mem_foldl state.val.viewportTop (screenRows state.val) 0
    (sorted_baseRows sorted state.val)).2 (saturatingAdd state.val.viewportTop (UInt64.ofNat 0))
    (.inr ⟨0, by rw [length_screenRows]; exact state.property.rows_pos, rfl⟩)
  intro empty
  rw [insertedRows] at empty
  rw [empty] at first
  cases first

/-- The rows of a screen whose ids do not run over, between the cached ones around them. -/
theorem insertedRows_eq (sorted : Sorted cache.rows)
    (fits : state.val.viewportTop.toNat + state.val.rows.toNat ≤ 2 ^ 64) :
    insertedRows cache state.val =
      below state.val.viewportTop.toNat (baseRows cache state.val) ++
        (consecutive state.val.viewportTop.toNat (screenRows state.val) ++
          from_ (state.val.viewportTop.toNat + state.val.rows.toNat)
            (baseRows cache state.val)) := by
  have inserted := foldl_insertRow state.val.viewportTop (screenRows state.val) 0
    (sorted_baseRows sorted state.val) (by rw [length_screenRows]; omega)
  rw [Nat.add_zero, length_screenRows] at inserted
  exact inserted

theorem retainedStart_retainRows (cache : PaneRowCache) (state : RemoteFullState) :
    (retainRows cache state).retainedStart =
      ((retainRows cache state).rows.head?.map Prod.fst).getD state.viewportTop := by
  rw [retainRows]

theorem retainedEnd_retainRows (cache : PaneRowCache) (state : RemoteFullState) :
    (retainRows cache state).retainedEnd =
      ((retainRows cache state).rows.getLast?.map fun row => saturatingAdd row.1 1).getD
        (saturatingAdd state.viewportTop (UInt64.ofNat state.rows.toNat)) := by
  rw [retainRows]

/-- The first retained id. -/
theorem retainedStart_next (sorted : Sorted cache.rows) (state : Grid) :
    (∃ row ∈ (applyRowCacheMetadata cache state).1.rows,
        row.1 = (applyRowCacheMetadata cache state).1.retainedStart) ∧
      ∀ row ∈ (applyRowCacheMetadata cache state).1.rows,
        (applyRowCacheMetadata cache state).1.retainedStart.toNat ≤ row.1.toNat := by
  have start : (applyRowCacheMetadata cache state).1.retainedStart =
      ((applyRowCacheMetadata cache state).1.rows.head?.map Prod.fst).getD
        state.val.viewportTop := retainedStart_retainRows _ _
  have some : (applyRowCacheMetadata cache state).1.rows ≠ [] := by
    rw [next_rows]
    exact trimmed_ne_nil (insertedRows_ne_nil sorted state)
  obtain ⟨first, rest, isFirst⟩ := List.exists_cons_of_ne_nil some
  have head : (applyRowCacheMetadata cache state).1.rows.head? = Option.some first := by
    rw [isFirst, List.head?_cons]
  rw [start, head, Option.map_some, Option.getD_some]
  exact ⟨⟨first, List.mem_of_mem_head? head, rfl⟩,
    fun row member => le_head (sorted_next sorted state) head member⟩

/-- The last retained id, and the end of the retained range. -/
theorem retainedEnd_next (sorted : Sorted cache.rows) (state : Grid) :
    ∃ last, (insertedRows cache state.val).getLast? = some last ∧
      last ∈ (applyRowCacheMetadata cache state).1.rows ∧
      (∀ row ∈ (applyRowCacheMetadata cache state).1.rows, row.1.toNat ≤ last.1.toNat) ∧
      (applyRowCacheMetadata cache state).1.retainedEnd = saturatingAdd last.1 1 := by
  have end_ : (applyRowCacheMetadata cache state).1.retainedEnd =
      ((applyRowCacheMetadata cache state).1.rows.getLast?.map fun row =>
        saturatingAdd row.1 1).getD (saturatingAdd state.val.viewportTop
          (UInt64.ofNat state.val.rows.toNat)) := retainedEnd_retainRows _ _
  have nonempty := insertedRows_ne_nil sorted state
  obtain ⟨last, isLast⟩ := Option.isSome_iff_exists.mp (List.getLast?_isSome.mpr nonempty)
  have kept : (applyRowCacheMetadata cache state).1.rows.getLast? = some last := by
    rw [next_rows, getLast?_trimmed nonempty, isLast]
  refine ⟨last, isLast, List.mem_of_getLast? kept,
    fun row member => le_getLast (sorted_next sorted state) kept member, ?_⟩
  rw [end_, kept, Option.map_some, Option.getD_some]

end Step

section Visible

/-- A pane state of at most as many rows as a cache holds. -/
abbrev ShownState := {state : Grid // state.val.rows.toNat ≤ maxRetainedRows}

def step (cache : PaneRowCache) (state : ShownState) : PaneRowCache :=
  (applyRowCacheMetadata cache state.val).1

/-- What a call leaves in the cache. The first call gives a new entry its epoch; after that the
epoch changes with the clearing of the rows. -/
structure RowsKept (cache : PaneRowCache) (state : ShownState) : Prop where
  visible : ∀ index cells, (screenRows state.val.val)[index]? = some cells →
    ∃ row ∈ (step cache state).rows,
      row.1.toNat = state.val.val.viewportTop.toNat + index ∧ row.2 = cells
  bounded : (step cache state).rows.length ≤ maxRetainedRows
  epoch_pos : 1 ≤ (step cache state).epoch
  epoch : cache.epoch ≠ 0 → ((step cache state).epoch ≠ cache.epoch ↔ Clears cache state.val.val)
  retainedStart : (∃ row ∈ (step cache state).rows, row.1 = (step cache state).retainedStart) ∧
    ∀ row ∈ (step cache state).rows, (step cache state).retainedStart.toNat ≤ row.1.toNat
  retainedEnd :
    (∃ row ∈ (step cache state).rows, row.1.toNat + 1 = (step cache state).retainedEnd.toNat) ∧
      ∀ row ∈ (step cache state).rows, row.1.toNat < (step cache state).retainedEnd.toNat

/-- The ids of the screen do not run over, and the cache has room for the screen next to the rows
that are cached beyond it and not cleared. -/
def HasRoom (cache : PaneRowCache) (state : ShownState) : Prop :=
  state.val.val.viewportTop.toNat + state.val.val.rows.toNat < 2 ^ 64 ∧
    state.val.val.rows.toNat +
        (from_ (state.val.val.viewportTop.toNat + state.val.val.rows.toNat)
          (baseRows cache state.val.val)).length ≤ maxRetainedRows

variable {cache : PaneRowCache} {state : ShownState}

/-- `wrapping_add(1).max(1)` gives another revision, and never 0. -/
theorem bumpRevision_ne (epoch : UInt64) : bumpRevision epoch ≠ epoch ∧ bumpRevision epoch ≠ 0 := by
  have bumped : bumpRevision epoch = if epoch + 1 ≤ 1 then 1 else epoch + 1 := rfl
  have wrapped : (epoch + 1).toNat = (epoch.toNat + 1) % 2 ^ 64 := UInt64.toNat_add epoch 1
  have small := epoch.toNat_lt
  rw [bumped]
  split
  · rename_i low
    have bound := UInt64.le_iff_toNat_le.mp low
    rw [wrapped, UInt64.toNat_one] at bound
    refine ⟨fun same => ?_, by decide⟩
    have one : epoch.toNat = 1 := by rw [← same]; rfl
    omega
  · rename_i high
    have bound : ¬ (epoch + 1).toNat ≤ (1 : UInt64).toNat :=
      fun low => high (UInt64.le_iff_toNat_le.mpr low)
    rw [wrapped, UInt64.toNat_one] at bound
    refine ⟨fun same => ?_, fun zero => ?_⟩
    · have equal := congrArg UInt64.toNat same
      rw [wrapped] at equal
      omega
    · have equal := congrArg UInt64.toNat zero
      rw [wrapped, UInt64.toNat_zero] at equal
      omega

theorem epoch_next (cache : PaneRowCache) (state : ShownState) :
    1 ≤ (step cache state).epoch ∧ (cache.epoch ≠ 0 →
      ((step cache state).epoch ≠ cache.epoch ↔ Clears cache state.val.val)) := by
  obtain ⟨changes, pos⟩ := bumpRevision_ne cache.epoch
  have epoch : (step cache state).epoch =
      if Clears cache state.val.val then bumpRevision cache.epoch
      else if cache.epoch = 0 then 1 else cache.epoch := by
    show (refreshEpoch cache state.val.val).epoch = _
    unfold refreshEpoch
    dsimp only
    split
    · rename_i cleared
      have clears : Clears cache state.val.val := cleared
      rw [if_pos clears]
    · rename_i kept
      have keeps : ¬ Clears cache state.val.val := kept
      rw [if_neg keeps]
  rw [epoch, UInt64.le_iff_toNat_le, UInt64.toNat_one]
  split
  · rename_i clears
    refine ⟨?_, fun _ => ⟨fun _ => clears, fun _ => changes⟩⟩
    have nonzero : (bumpRevision cache.epoch).toNat ≠ 0 := fun zero =>
      pos (UInt64.toNat_inj.mp zero)
    omega
  · rename_i keeps
    split
    · rename_i zero
      exact ⟨by decide, fun nonzero => absurd zero nonzero⟩
    · rename_i nonzero
      have pos : cache.epoch.toNat ≠ 0 := fun zero => nonzero (UInt64.toNat_inj.mp zero)
      exact ⟨by omega, fun _ => ⟨fun differs => absurd rfl differs, fun clears => absurd clears keeps⟩⟩

theorem toNat_succ {rowId : UInt64} (below : rowId.toNat + 1 < 2 ^ 64) :
    (saturatingAdd rowId 1).toNat = rowId.toNat + 1 := @toNat_rowId rowId 1 below

/-- At the greatest id the end of the retained range cannot be named. -/
theorem toNat_succ_max {rowId : UInt64} (greatest : rowId.toNat + 1 = 2 ^ 64) :
    (saturatingAdd rowId 1).toNat = rowId.toNat := by
  have one : (1 : UInt64).toNat = 1 := rfl
  have max : (UInt64.ofNat (2 ^ 64 - 1)).toNat = 2 ^ 64 - 1 := rfl
  rw [saturatingAdd, one, if_neg (by omega), max]
  omega

/-- Where the ids of the screen run over, the greatest id is cached. -/
theorem greatest_inserted (sorted : Sorted cache.rows) (state : Grid)
    (beyond : 2 ^ 64 ≤ state.val.viewportTop.toNat + state.val.rows.toNat) :
    ∃ last, (insertedRows cache state.val).getLast? = some last ∧ last.1.toNat + 1 = 2 ^ 64 := by
  have top := state.val.viewportTop.toNat_lt
  have reached := (id_mem_foldl state.val.viewportTop (screenRows state.val) 0
    (sorted_baseRows sorted state.val)).2 _
    (.inr ⟨2 ^ 64 - 1 - state.val.viewportTop.toNat, by rw [length_screenRows]; omega, rfl⟩)
  obtain ⟨row, member, isMax⟩ := List.mem_map.mp reached
  obtain ⟨last, isLast⟩ := Option.isSome_iff_exists.mp
    (List.getLast?_isSome.mpr (insertedRows_ne_nil sorted state))
  have above := le_getLast (sorted_inserted sorted state.val) isLast member
  have value : row.1.toNat = 2 ^ 64 - 1 := by
    rw [isMax, Nat.zero_add, toNat_rowId (by omega)]
    omega
  have bound := last.1.toNat_lt
  exact ⟨last, isLast, by omega⟩

/-- The cached rows are consecutive ones of the screen. -/
theorem mem_consecutive {id : Nat} {rows : List (List RemoteCell)}
    {row : UInt64 × List RemoteCell} : row ∈ consecutive id rows ↔
      ∃ index, rows[index]? = some row.2 ∧ row.1 = UInt64.ofNat (id + index) := by
  rw [consecutive, List.mem_map]
  constructor
  · rintro ⟨⟨cells, position⟩, member, rfl⟩
    obtain ⟨later, inside⟩ := List.mem_zipIdx_iff_le_and_getElem?_sub.mp member
    exact ⟨position - id, inside, by rw [Nat.add_sub_cancel' later]⟩
  · rintro ⟨index, held, isId⟩
    refine ⟨(row.2, id + index), ?_, by rw [← isId]⟩
    rw [List.mem_zipIdx_iff_le_and_getElem?_sub, Nat.add_sub_cancel_left]
    exact ⟨Nat.le_add_right _ _, held⟩

/-- The rows from the screen on, before the trimming. -/
theorem from_inserted (sorted : Sorted cache.rows) (state : Grid)
    (fits : state.val.viewportTop.toNat + state.val.rows.toNat < 2 ^ 64) :
    from_ state.val.viewportTop.toNat (insertedRows cache state.val) =
      consecutive state.val.viewportTop.toNat (screenRows state.val) ++
        from_ (state.val.viewportTop.toNat + state.val.rows.toNat)
          (baseRows cache state.val) := by
  have low : from_ state.val.viewportTop.toNat
      (below state.val.viewportTop.toNat (baseRows cache state.val)) = [] := by
    rw [from_, List.filter_eq_nil_iff]
    intro row member
    have small := (mem_below.mp member).2
    simp only [decide_eq_true_eq, not_le]
    exact small
  have high : ∀ row ∈ consecutive state.val.viewportTop.toNat (screenRows state.val) ++
      from_ (state.val.viewportTop.toNat + state.val.rows.toNat) (baseRows cache state.val),
      decide (state.val.viewportTop.toNat ≤ row.1.toNat) = true := by
    intro row member
    rw [decide_eq_true_iff]
    rcases List.mem_append.mp member with screen | beyond
    · obtain ⟨index, inside, isId⟩ := mem_consecutive.mp screen
      have bound := (List.getElem?_eq_some_iff.mp inside).1
      rw [length_screenRows] at bound
      rw [isId, UInt64.toNat_ofNat_of_lt' (by rw [UInt64.size]; omega)]
      omega
    · have above := (mem_from.mp beyond).2
      omega
  rw [insertedRows_eq sorted (by omega), from_, List.filter_append, ← from_, low, List.nil_append,
    List.filter_eq_self.mpr high]

theorem length_from_inserted (sorted : Sorted cache.rows) (state : Grid)
    (fits : state.val.viewportTop.toNat + state.val.rows.toNat < 2 ^ 64) :
    (from_ state.val.viewportTop.toNat (insertedRows cache state.val)).length =
      state.val.rows.toNat + (from_ (state.val.viewportTop.toNat + state.val.rows.toNat)
        (baseRows cache state.val)).length := by
  rw [from_inserted sorted state fits, List.length_append, consecutive, List.length_map,
    List.length_zipIdx, length_screenRows]

/-- A screen row that is kept is one of the greatest ids. -/
theorem hasRoom_of_visible (sorted : Sorted cache.rows)
    (fits : state.val.val.viewportTop.toNat + state.val.val.rows.toNat < 2 ^ 64)
    (visible : ∀ index cells, (screenRows state.val.val)[index]? = some cells →
      ∃ row ∈ (step cache state).rows,
        row.1.toNat = state.val.val.viewportTop.toNat + index ∧ row.2 = cells) :
    HasRoom cache state := by
  refine ⟨fits, ?_⟩
  have pos := state.val.property.rows_pos
  have size := length_screenRows state.val
  obtain ⟨cells, later, isScreen⟩ : ∃ cells later, screenRows state.val.val = cells :: later :=
    List.exists_cons_of_length_pos (by omega)
  obtain ⟨row, member, isTop, -⟩ := visible 0 cells (by rw [isScreen]; rfl)
  rw [step, next_rows] at member
  have bound := length_from_le (sorted_inserted sorted state.val.val) member
  rw [isTop, Nat.add_zero, length_from_inserted sorted state.val fits] at bound
  exact bound

theorem visible_of_hasRoom (sorted : Sorted cache.rows) (room : HasRoom cache state) :
    ∀ index cells, (screenRows state.val.val)[index]? = some cells →
      ∃ row ∈ (step cache state).rows,
        row.1.toNat = state.val.val.viewportTop.toNat + index ∧ row.2 = cells := by
  obtain ⟨fits, room⟩ := room
  intro index cells held
  have bound := (List.getElem?_eq_some_iff.mp held).1
  rw [length_screenRows] at bound
  have isId : (UInt64.ofNat (state.val.val.viewportTop.toNat + index)).toNat =
      state.val.val.viewportTop.toNat + index :=
    UInt64.toNat_ofNat_of_lt' (by rw [UInt64.size]; omega)
  refine ⟨(UInt64.ofNat (state.val.val.viewportTop.toNat + index), cells), ?_, isId, rfl⟩
  rw [← length_from_inserted sorted state.val fits] at room
  rw [step, next_rows]
  refine mem_trimmed (sorted_inserted sorted state.val.val) room ?_
  rw [from_inserted sorted state.val fits]
  exact List.mem_append_left _ (mem_consecutive.mpr ⟨index, held, rfl⟩)

/-- A cache whose ids are in order and have a next one. -/
structure Ordered (cache : PaneRowCache) : Prop where
  sorted : Sorted cache.rows
  bounded : ∀ row ∈ cache.rows, row.1.toNat + 1 < 2 ^ 64

theorem ordered_empty : Ordered .empty where
  sorted := List.Pairwise.nil
  bounded := fun _ member => by cases member

theorem inserted_bounded (ordered : Ordered cache) (state : Grid)
    (fits : state.val.viewportTop.toNat + state.val.rows.toNat < 2 ^ 64) :
    ∀ row ∈ insertedRows cache state.val, row.1.toNat + 1 < 2 ^ 64 := by
  have cached : ∀ row ∈ baseRows cache state.val, row.1.toNat + 1 < 2 ^ 64 := by
    intro row member
    rw [baseRows] at member
    split at member
    · cases member
    · exact ordered.bounded row member
  intro row member
  rw [insertedRows_eq ordered.sorted (by omega), List.mem_append, List.mem_append] at member
  rcases member with low | screen | high
  · exact cached row (mem_below.mp low).1
  · obtain ⟨index, inside, isId⟩ := mem_consecutive.mp screen
    have bound := (List.getElem?_eq_some_iff.mp inside).1
    rw [length_screenRows] at bound
    rw [isId, UInt64.toNat_ofNat_of_lt' (by rw [UInt64.size]; omega)]
    omega
  · exact cached row (mem_from.mp high).1

/-- A call keeps the visible rows, and the range in order, exactly when there is room for it. -/
theorem rowsKept_iff (ordered : Ordered cache) (state : ShownState) :
    RowsKept cache state ↔ HasRoom cache state := by
  obtain ⟨last, isLast, isRow, greatest, isEnd⟩ := retainedEnd_next ordered.sorted state.val
  have range : (step cache state).retainedEnd = saturatingAdd last.1 1 := isEnd
  constructor
  · intro kept
    have fits : state.val.val.viewportTop.toNat + state.val.val.rows.toNat < 2 ^ 64 := by
      by_contra beyond
      obtain ⟨other, isOther, isMax⟩ := greatest_inserted ordered.sorted state.val (by omega)
      rw [isLast] at isOther
      cases isOther
      have inside := kept.retainedEnd.2 last isRow
      rw [range, toNat_succ_max isMax] at inside
      exact Nat.lt_irrefl _ inside
    exact hasRoom_of_visible ordered.sorted fits kept.visible
  · intro room
    have small : last.1.toNat + 1 < 2 ^ 64 :=
      inserted_bounded ordered state.val room.1 last (List.mem_of_getLast? isLast)
    obtain ⟨epoch_pos, epoch⟩ := epoch_next cache state
    refine ⟨visible_of_hasRoom ordered.sorted room, ?_, epoch_pos, epoch,
      retainedStart_next ordered.sorted state.val, ⟨last, isRow, ?_⟩, fun row member => ?_⟩
    · rw [step, next_rows]
      exact length_trimmed_le _
    · rw [range, toNat_succ small]
    · rw [range, toNat_succ small]
      exact Nat.lt_succ_of_le (greatest row member)

theorem ordered_step (ordered : Ordered cache) (state : ShownState) (kept : RowsKept cache state) :
    Ordered (step cache state) where
  sorted := sorted_next ordered.sorted state.val
  bounded row member := by
    have inside := kept.retainedEnd.2 row member
    have bound := (step cache state).retainedEnd.toNat_lt
    omega

/-- Along every run from a new entry, the calls keep what is visible exactly when each finds room
for it: the cache would not trim into the screen to make room for rows far below it. -/
theorem rowsKept_always_iff (states : List ShownState) :
    Always step RowsKept .empty states ↔ Always step HasRoom .empty states :=
  @always_congr _ _ step RowsKept HasRoom (fun _ _ => True) Ordered
    (fun _ state ordered _ kept => ordered_step ordered state kept)
    (fun _ state ordered _ => rowsKept_iff ordered state) _ _ ordered_empty (always_true _ states)

/-- A screen of rows of one blank cell. -/
def column (top : UInt64) (rows : UInt16) (pos : 0 < rows.toNat) : Grid :=
  ⟨{ epoch := 0
     viewportTop := top
     scrollbackTotal := saturatingAdd top (UInt64.ofNat rows.toNat)
     rows := rows
     cols := 1
     cursorX := 0
     cursorY := 0
     cursorVisible := true
     cursorBlinking := false
     cursorStyle := 0
     cells := List.replicate rows.toNat (plainCell 0) },
    pos, show 0 < (1 : UInt16).toNat by decide, by simp⟩

def fullScreen : ShownState := ⟨column 1 10000 (by decide), by decide⟩

def topScreen : ShownState := ⟨column 0 2 (by decide), by decide⟩

theorem filled_rows :
    (step .empty fullScreen).rows = consecutive 1 (screenRows fullScreen.val.val) := by
  have inserted := @insertedRows_eq .empty fullScreen.val List.Pairwise.nil
    (show (1 : UInt64).toNat + (10000 : UInt16).toNat ≤ 2 ^ 64 by decide)
  have nothing : baseRows .empty fullScreen.val.val = [] := by
    have noRows : PaneRowCache.empty.rows = [] := rfl
    rw [baseRows, noRows, ite_self]
  have topIs : fullScreen.val.val.viewportTop.toNat = 1 := rfl
  have plain : insertedRows .empty fullScreen.val.val =
      consecutive 1 (screenRows fullScreen.val.val) := by
    rw [inserted, nothing, topIs, below, from_, List.filter_nil, List.filter_nil, List.nil_append,
      List.append_nil]
  rw [step, next_rows, plain, trimmed]
  have short : (consecutive 1 (screenRows fullScreen.val.val)).length - maxRetainedRows = 0 := by
    rw [consecutive, List.length_map, List.length_zipIdx, length_screenRows]
    decide
  rw [short, List.drop_zero]

/-- A cache is filled with the rows 1 to 10000, and the user scrolls up by one row: the row that
has come into view is trimmed. -/
theorem scrolledUp_trimmed : ¬ ∀ states : List ShownState, Always step RowsKept .empty states := by
  intro all
  obtain ⟨kept, second, -⟩ := all [fullScreen, topScreen]
  obtain ⟨-, room⟩ := (rowsKept_iff (ordered_step ordered_empty _ kept) _).mp second
  have size : (screenRows fullScreen.val.val).length = 10000 := length_screenRows fullScreen.val
  obtain ⟨cells, later, isScreen⟩ : ∃ cells later, screenRows fullScreen.val.val = cells :: later :=
    List.exists_cons_of_length_pos (by omega)
  rw [isScreen, List.length_cons] at size
  have rows : (step .empty fullScreen).rows = (UInt64.ofNat 1, cells) :: consecutive 2 later := by
    rw [filled_rows, isScreen, consecutive_cons]
  have start : (step .empty fullScreen).retainedStart.toNat ≤ 1 :=
    (retainedStart_next ordered_empty.sorted fullScreen.val).2 (UInt64.ofNat 1, cells)
      (rows ▸ List.mem_cons_self)
  have kept : ¬ Clears (step .empty fullScreen) topScreen.val.val := by
    rintro (⟨-, other⟩ | ⟨-, regressed⟩)
    · exact other rfl
    · have ends : (saturatingAdd 0 (UInt64.ofNat 2)).toNat = 2 := rfl
      have less := UInt64.lt_iff_toNat_lt.mp regressed
      exact absurd (lt_of_lt_of_le less start) (by rw [Nat.not_lt]; exact Nat.le_of_lt ends.ge)
  have base : baseRows (step .empty fullScreen) topScreen.val.val =
      (UInt64.ofNat 1, cells) :: consecutive 2 later := by
    rw [baseRows, if_neg kept, rows]
  have beyond : from_ 2 ((UInt64.ofNat 1, cells) :: consecutive 2 later) = consecutive 2 later := by
    rw [from_, List.filter_cons_of_neg (by simp), List.filter_eq_self]
    intro row member
    obtain ⟨index, inside, isId⟩ := mem_consecutive.mp member
    have bound := (List.getElem?_eq_some_iff.mp inside).1
    rw [isId, UInt64.toNat_ofNat_of_lt' (by rw [UInt64.size]; omega), decide_eq_true_iff]
    omega
  have count : (from_ 2 (baseRows (step .empty fullScreen) topScreen.val.val)).length = 9999 := by
    rw [base, beyond, consecutive, List.length_map, List.length_zipIdx]
    omega
  have topIs : topScreen.val.val.viewportTop.toNat = 0 := rfl
  have rowsIs : topScreen.val.val.rows.toNat = 2 := rfl
  rw [rowsIs, topIs, Nat.zero_add, count, maxRetainedRows] at room
  omega

end Visible

end Boo.Server.RowRetention
