/- module: Boo/Lib/Records
   digest: Self-delimiting records laid end to end, and what a truncated run of them still holds. -/

import Mathlib.Data.List.Infix

set_option autoImplicit false
set_option relaxedAutoImplicit false

namespace Boo.Lib.Records

variable {α : Type}

/-- A record has a head of fixed size, which announces the size of the body after it. -/
structure Framing (α : Type) where
  head : Nat
  body : List α → Nat
  body_append : ∀ front rest : List α, head ≤ front.length → body (front ++ rest) = body front

namespace Framing

variable (f : Framing α)

def size (data : List α) : Nat := f.head + f.body data

def IsRecord (record : List α) : Prop := record.length = f.size record

/-- `rest` follows the first `n` records of `data`. -/
def Reaches (n : Nat) (data rest : List α) : Prop :=
  ∃ records : List (List α), records.length = n ∧ (∀ record ∈ records, f.IsRecord record) ∧
    records.flatten ++ rest = data

/-- `data` starts with `n` complete records. -/
def Begins (n : Nat) (data : List α) : Prop := ∃ rest, f.Reaches n data rest

variable {f} {n : Nat} {data front record rest : List α}

theorem head_le_size (data : List α) : f.head ≤ f.size data := Nat.le_add_right _ _

theorem size_of_isPrefix (before : front <+: data) (long : f.head ≤ front.length) :
    f.size data = f.size front := by
  obtain ⟨rest, rfl⟩ := before
  rw [size, f.body_append front rest long, size]

theorem IsRecord.head_le (whole : f.IsRecord record) : f.head ≤ record.length := by
  rw [whole]
  exact head_le_size record

theorem reaches_zero : f.Reaches 0 data rest ↔ rest = data := by
  constructor
  · rintro ⟨records, count, -, split⟩
    rw [List.eq_nil_of_length_eq_zero count] at split
    exact split
  · intro same
    exact ⟨[], rfl, fun _ member => absurd member List.not_mem_nil, same⟩

/-- A run of records is read one record at a time. -/
theorem reaches_succ : f.Reaches (n + 1) data rest ↔
    f.size data ≤ data.length ∧ f.Reaches n (data.drop (f.size data)) rest := by
  constructor
  · rintro ⟨records, count, whole, split⟩
    obtain ⟨record, records, rfl⟩ := List.exists_cons_of_length_eq_add_one count
    have first : f.IsRecord record := whole record List.mem_cons_self
    rw [List.flatten_cons, List.append_assoc] at split
    have size : f.size data = record.length := by
      rw [size_of_isPrefix ⟨records.flatten ++ rest, split⟩ first.head_le]
      exact first.symm
    rw [size, ← split, List.length_append, List.drop_left]
    have fewer : records.length = n := by simpa using count
    refine ⟨Nat.le_add_right _ _, records, fewer, ?_, rfl⟩
    intro other member
    exact whole other (List.mem_cons_of_mem _ member)
  · rintro ⟨fits, records, count, whole, split⟩
    have front : data.take (f.size data) <+: data := List.take_prefix _ _
    have length : (data.take (f.size data)).length = f.size data := List.length_take_of_le fits
    have first : f.IsRecord (data.take (f.size data)) := by
      have same := size_of_isPrefix (f := f) front (by rw [length]; exact head_le_size data)
      rw [IsRecord, length]
      exact same
    refine ⟨data.take (f.size data) :: records, by rw [List.length_cons, count], ?_, ?_⟩
    · intro other member
      rcases List.mem_cons.mp member with rfl | later
      · exact first
      · exact whole other later
    · rw [List.flatten_cons, List.append_assoc, split, List.take_append_drop]

theorem begins_zero (data : List α) : f.Begins 0 data := ⟨data, reaches_zero.mpr rfl⟩

theorem begins_succ : f.Begins (n + 1) data ↔
    f.size data ≤ data.length ∧ f.Begins n (data.drop (f.size data)) := by
  simp only [Begins, reaches_succ, exists_and_left]

/-- Every record takes at least its head. -/
theorem Begins.heads_le (begins : f.Begins n data) : n * f.head ≤ data.length := by
  induction n generalizing data with
  | zero => simp
  | succ n ih =>
    obtain ⟨fits, later⟩ := begins_succ.mp begins
    have rest := ih later
    have headLe := head_le_size (f := f) data
    rw [List.length_drop] at rest
    rw [Nat.succ_mul]
    omega

/-- A part of a run that still starts with all its records is the whole run. -/
theorem Begins.complete {records : List (List α)} (whole : ∀ record ∈ records, f.IsRecord record)
    (begins : f.Begins records.length data) (before : data <+: records.flatten) :
    records.flatten.length ≤ data.length := by
  induction records generalizing data with
  | nil => simp
  | cons record records ih =>
    obtain ⟨fits, later⟩ := begins_succ.mp begins
    have first : f.IsRecord record := whole record List.mem_cons_self
    have longHead : f.head ≤ data.length := Nat.le_trans (head_le_size data) fits
    have size : f.size data = record.length := by
      have ofData := size_of_isPrefix (f := f) before longHead
      have ofRecord : f.size (record :: records).flatten = f.size record :=
        size_of_isPrefix (List.prefix_append _ _) first.head_le
      rw [← ofData, ofRecord]
      exact first.symm
    rw [size] at fits later
    have rest : data.drop record.length <+: records.flatten := by
      have dropped := before.drop record.length
      rwa [List.flatten_cons, List.drop_left] at dropped
    have shorter := ih (fun other member => whole other (List.mem_cons_of_mem _ member)) later rest
    rw [List.length_drop] at shorter
    rw [List.flatten_cons, List.length_append]
    omega

end Framing

end Boo.Lib.Records
