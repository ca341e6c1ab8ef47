/- module: Boo/Lib/LittleEndian
   digest: Fixed-width little-endian byte strings and reads at a byte offset. -/

import Mathlib.Data.Nat.Basic
import Mathlib.Tactic.Ring

set_option autoImplicit false
set_option relaxedAutoImplicit false

namespace Boo.Lib.LittleEndian

/-- The `w` least significant bytes of `n`, least significant first. -/
def leBytes : Nat → Nat → List UInt8
  | 0, _ => []
  | w + 1, n => UInt8.ofNat n :: leBytes w (n / 256)

/-- The number whose little-endian bytes are given. -/
def leNat : List UInt8 → Nat
  | [] => 0
  | b :: bytes => b.toNat + 256 * leNat bytes

@[simp] theorem length_leBytes (w n : Nat) : (leBytes w n).length = w := by
  induction w generalizing n with
  | zero => rfl
  | succ w ih => simp [leBytes, ih]

theorem leNat_leBytes (w n : Nat) : leNat (leBytes w n) = n % 256 ^ w := by
  induction w generalizing n with
  | zero => simp [leBytes, leNat, Nat.mod_one]
  | succ w ih =>
      have low : (UInt8.ofNat n).toNat = n % 256 := by simp
      rw [leBytes, leNat, low, ih, pow_succ', Nat.mod_mul]

theorem leBytes_leNat (bytes : List UInt8) : leBytes bytes.length (leNat bytes) = bytes := by
  induction bytes with
  | nil => rfl
  | cons byte bytes ih =>
      have small := byte.toNat_lt
      have high : (byte.toNat + 256 * leNat bytes) / 256 = leNat bytes := by omega
      rw [List.length_cons, leNat, leBytes, high, ih]
      congr 1
      rw [← UInt8.toNat_inj, UInt8.toNat_ofNat']
      omega

theorem leNat_lt (bytes : List UInt8) : leNat bytes < 256 ^ bytes.length := by
  induction bytes with
  | nil => simp [leNat]
  | cons byte bytes ih =>
      have small := byte.toNat_lt
      rw [leNat, List.length_cons, pow_succ']
      omega

theorem leBytes_add (v w n : Nat) : leBytes (v + w) n = leBytes v n ++ leBytes w (n / 256 ^ v) := by
  induction v generalizing n with
  | zero => simp [leBytes]
  | succ v ih =>
      rw [Nat.succ_add, leBytes, leBytes, ih, List.cons_append, Nat.div_div_eq_div_mul, pow_succ']

theorem ofNat_leNat_u16 (x : UInt16) : UInt16.ofNat (leNat (leBytes 2 x.toNat)) = x := by
  have small : x.toNat < 256 ^ 2 := x.toNat_lt
  rw [leNat_leBytes, Nat.mod_eq_of_lt small, UInt16.ofNat_toNat]

theorem ofNat_leNat_u32 (x : UInt32) : UInt32.ofNat (leNat (leBytes 4 x.toNat)) = x := by
  have small : x.toNat < 256 ^ 4 := x.toNat_lt
  rw [leNat_leBytes, Nat.mod_eq_of_lt small, UInt32.ofNat_toNat]

theorem ofNat_leNat_u64 (x : UInt64) : UInt64.ofNat (leNat (leBytes 8 x.toNat)) = x := by
  have small : x.toNat < 256 ^ 8 := x.toNat_lt
  rw [leNat_leBytes, Nat.mod_eq_of_lt small, UInt64.ofNat_toNat]

section Reads

variable {α β : Type}

/-- The `n` elements of `data` from `offset` on. -/
def slice (data : List α) (offset n : Nat) : List α := (data.drop offset).take n

/-- `rest` is what remains of `data` at `offset`. Every reader below is proved by
carrying this relation from one read to the next. -/
def Rest (data : List α) (offset : Nat) (rest : List α) : Prop :=
  ∃ before, before.length = offset ∧ data = before ++ rest

theorem rest_zero (data : List α) : Rest data 0 data := ⟨[], rfl, rfl⟩

theorem Rest.skip {data part rest : List α} {offset : Nat}
    (h : Rest data offset (part ++ rest)) : Rest data (offset + part.length) rest := by
  obtain ⟨before, rfl, rfl⟩ := h
  exact ⟨before ++ part, by simp, by simp⟩

theorem Rest.next {data rest : List α} {x : α} {offset : Nat}
    (h : Rest data offset (x :: rest)) : Rest data (offset + 1) rest :=
  have split : Rest data offset ([x] ++ rest) := h
  split.skip

theorem Rest.length_eq {data rest : List α} {offset : Nat} (h : Rest data offset rest) :
    data.length = offset + rest.length := by
  obtain ⟨before, rfl, rfl⟩ := h
  simp

theorem Rest.drop_eq {data rest : List α} {offset : Nat} (h : Rest data offset rest) :
    data.drop offset = rest := by
  obtain ⟨before, rfl, rfl⟩ := h
  simp

theorem Rest.slice_eq {data part rest : List α} {offset n : Nat}
    (h : Rest data offset (part ++ rest)) (len : part.length = n) :
    slice data offset n = part := by
  rw [slice, h.drop_eq, ← len, List.take_left']
  rfl

theorem Rest.bound {data part rest : List α} {offset n : Nat}
    (h : Rest data offset (part ++ rest)) (len : part.length = n) :
    offset + n ≤ data.length := by
  have total := h.length_eq
  rw [List.length_append, len] at total
  omega

theorem slice_append {front rest : List α} {offset n : Nat} (fits : offset + n ≤ front.length) :
    slice (front ++ rest) offset n = slice front offset n := by
  have here : offset ≤ front.length := by omega
  have room : n ≤ (front.drop offset).length := by
    rw [List.length_drop]
    omega
  rw [slice, List.drop_append_of_le_length here, List.take_append_of_le_length room, slice]

theorem slice_drop (data : List α) (base offset n : Nat) :
    slice (data.drop base) offset n = slice data (base + offset) n := by
  rw [slice, List.drop_drop, slice]

/-- Results of `n` fixed-stride reads, the first one at `base`. -/
def readMany (read : Nat → β) (stride base n : Nat) : List β :=
  (List.range n).map fun i => read (base + i * stride)

theorem readMany_succ (read : Nat → β) (stride base n : Nat) :
    readMany read stride base (n + 1) =
      read base :: readMany read stride (base + stride) n := by
  simp only [readMany, List.range_succ_eq_map, List.map_cons, List.map_map]
  congr 1
  · simp
  · refine List.map_congr_left fun i _ => ?_
    simp only [Function.comp_apply, Nat.succ_eq_add_one]
    congr 1
    ring

@[simp] theorem length_readMany (read : Nat → β) (stride base n : Nat) :
    (readMany read stride base n).length = n := by
  simp [readMany]

/-- Fixed-stride reads over a run of encoded items give back the items. -/
theorem readMany_encoded {γ : Type} (data : List α) (encode : γ → List α) (read : Nat → β)
    (decoded : γ → β) (stride : Nat) (width : ∀ x, (encode x).length = stride)
    (one : ∀ x offset rest, Rest data offset (encode x ++ rest) → read offset = decoded x)
    (items : List γ) (base : Nat) (rest : List α)
    (h : Rest data base (items.flatMap encode ++ rest)) :
    readMany read stride base items.length = items.map decoded := by
  induction items generalizing base with
  | nil => rfl
  | cons x items ih =>
      rw [List.flatMap_cons, List.append_assoc] at h
      rw [List.length_cons, readMany_succ, List.map_cons, one x base _ h]
      have next := h.skip
      rw [width] at next
      rw [ih _ next]

theorem length_flatMap_const {γ : Type} (encode : γ → List α) (stride : Nat)
    (width : ∀ x, (encode x).length = stride) (items : List γ) :
    (items.flatMap encode).length = items.length * stride := by
  induction items with
  | nil => simp
  | cons x items ih => simp [width, ih]; ring

end Reads

section Fields

/-- One byte of `data`; callers check the bound first. -/
def u8At (data : List UInt8) (offset : Nat) : UInt8 := data.getD offset 0

def u16At (data : List UInt8) (offset : Nat) : UInt16 := UInt16.ofNat (leNat (slice data offset 2))

def u32At (data : List UInt8) (offset : Nat) : UInt32 := UInt32.ofNat (leNat (slice data offset 4))

def u64At (data : List UInt8) (offset : Nat) : UInt64 := UInt64.ofNat (leNat (slice data offset 8))

def i32At (data : List UInt8) (offset : Nat) : Int32 := (u32At data offset).toInt32

def leU16 (x : UInt16) : List UInt8 := leBytes 2 x.toNat

def leU32 (x : UInt32) : List UInt8 := leBytes 4 x.toNat

def leU64 (x : UInt64) : List UInt8 := leBytes 8 x.toNat

def leI32 (x : Int32) : List UInt8 := leU32 x.toUInt32

@[simp] theorem length_leU16 (x : UInt16) : (leU16 x).length = 2 := length_leBytes _ _
@[simp] theorem length_leU32 (x : UInt32) : (leU32 x).length = 4 := length_leBytes _ _
@[simp] theorem length_leU64 (x : UInt64) : (leU64 x).length = 8 := length_leBytes _ _
@[simp] theorem length_leI32 (x : Int32) : (leI32 x).length = 4 := length_leBytes _ _

theorem u8At_rest {data rest : List UInt8} {offset : Nat} {x : UInt8}
    (h : Rest data offset (x :: rest)) : u8At data offset = x := by
  obtain ⟨before, rfl, rfl⟩ := h
  simp [u8At]

theorem u16At_rest {data rest : List UInt8} {offset : Nat} {x : UInt16}
    (h : Rest data offset (leU16 x ++ rest)) : u16At data offset = x := by
  rw [u16At, h.slice_eq (length_leU16 x)]
  exact ofNat_leNat_u16 x

theorem u32At_rest {data rest : List UInt8} {offset : Nat} {x : UInt32}
    (h : Rest data offset (leU32 x ++ rest)) : u32At data offset = x := by
  rw [u32At, h.slice_eq (length_leU32 x)]
  exact ofNat_leNat_u32 x

theorem u64At_rest {data rest : List UInt8} {offset : Nat} {x : UInt64}
    (h : Rest data offset (leU64 x ++ rest)) : u64At data offset = x := by
  rw [u64At, h.slice_eq (length_leU64 x)]
  exact ofNat_leNat_u64 x

theorem i32At_rest {data rest : List UInt8} {offset : Nat} {x : Int32}
    (h : Rest data offset (leI32 x ++ rest)) : i32At data offset = x := by
  rw [i32At, u32At_rest h]
  simp

theorem u8At_append {front rest : List UInt8} {offset : Nat} (fits : offset < front.length) :
    u8At (front ++ rest) offset = u8At front offset := by
  simp only [u8At, List.getD_eq_getElem?_getD, List.getElem?_append_left fits]

theorem u16At_append {front rest : List UInt8} {offset : Nat} (fits : offset + 2 ≤ front.length) :
    u16At (front ++ rest) offset = u16At front offset := by
  rw [u16At, slice_append fits, u16At]

theorem u16At_drop (data : List UInt8) (base offset : Nat) :
    u16At (data.drop base) offset = u16At data (base + offset) := by
  rw [u16At, slice_drop, u16At]

end Fields

end Boo.Lib.LittleEndian
