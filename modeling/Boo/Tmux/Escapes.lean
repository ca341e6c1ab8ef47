/- module: Boo/Tmux/Escapes
   digest: Octal escapes of pane output: the decoder inverts them and stays inside its input. -/

import Boo.Lib.ByteOffsets
import Boo.Remote.Texts

set_option autoImplicit false
set_option relaxedAutoImplicit false

namespace Boo.Tmux.Escapes

open Boo.Lib.ByteOffsets (isAsciiDigit)
open Boo.Lib.Checked
open Boo.Lib.TextLines (Text)
open Boo.Remote.ReadLoop (fromUtf8)
open Boo.Remote.Texts

/-- The byte of a backslash. -/
def backslash : UInt8 := 92

section Decoding

/-- The three bytes after the backslash at `i` are there, and are digits. -/
def threeDigits (bytes : List UInt8) (i : Nat) : Run Bool :=
  if i + 3 < bytes.length then do
    let first ← index bytes (i + 1)
    let second ← index bytes (i + 2)
    let third ← index bytes (i + 3)
    pure (isAsciiDigit first && isAsciiDigit second && isAsciiDigit third)
  else pure false

/-- The value of three digits as a `u16`; `as u8` drops what exceeds a byte. -/
def octalValue (bytes : List UInt8) (i : Nat) : Run UInt8 := do
  let first ← index bytes (i + 1)
  let second ← index bytes (i + 2)
  let third ← index bytes (i + 3)
  let high ← sub first.toNat 48
  let middle ← sub second.toNat 48
  let low ← sub third.toNat 48
  if high * 64 + middle * 8 + low < 2 ^ 16 then pure (UInt8.ofNat (high * 64 + middle * 8 + low))
  else Run.fail .overflow

/-- The loop of `decode_octal`. -/
def decodeOctalFrom (bytes : List UInt8) (i : Nat) (out : List UInt8) : Run (List UInt8) :=
  if i < bytes.length then do
    let here ← index bytes i
    if here = backslash ∧ i + 1 < bytes.length then do
      let next ← index bytes (i + 1)
      if next = backslash then decodeOctalFrom bytes (i + 2) (out ++ [backslash])
      else do
        let escape ← threeDigits bytes i
        if escape then do
          let value ← octalValue bytes i
          decodeOctalFrom bytes (i + 4) (out ++ [value])
        else decodeOctalFrom bytes (i + 1) (out ++ [here])
    else decodeOctalFrom bytes (i + 1) (out ++ [here])
  else pure out
termination_by bytes.length - i

def decodeOctal (input : Text) : Run (List UInt8) := decodeOctalFrom (utf8 input) 0 []

end Decoding

/-- How tmux writes a byte of output. -/
def escapeByte (byte : UInt8) : List UInt8 :=
  if byte < 32 ∨ byte = backslash then
    [backslash, 48 + byte / 64, 48 + byte / 8 % 8, 48 + byte % 8]
  else [byte]

def escapeOctal (data : List UInt8) : List UInt8 := data.flatMap escapeByte

section Steps

variable {bytes : List UInt8} {i : Nat} {here first second third : UInt8}

theorem threeDigits_eq (one : bytes[i + 1]? = some first) (two : bytes[i + 2]? = some second)
    (three : bytes[i + 3]? = some third) :
    threeDigits bytes i =
      pure (isAsciiDigit first && isAsciiDigit second && isAsciiDigit third) := by
  have inside : i + 3 < bytes.length := (List.getElem?_eq_some_iff.mp three).1
  simp only [threeDigits, if_pos inside, index_of_some one, index_of_some two,
    index_of_some three, Run.pure_bind]

theorem digit_bounds (digit : isAsciiDigit here = true) :
    48 ≤ here.toNat ∧ here.toNat ≤ 57 := by
  simp only [isAsciiDigit, Bool.and_eq_true, decide_eq_true_eq] at digit
  exact digit

theorem octalValue_eq (one : bytes[i + 1]? = some first) (two : bytes[i + 2]? = some second)
    (three : bytes[i + 3]? = some third) (isFirst : isAsciiDigit first = true)
    (isSecond : isAsciiDigit second = true) (isThird : isAsciiDigit third = true) :
    octalValue bytes i = pure (UInt8.ofNat ((first.toNat - 48) * 64 + (second.toNat - 48) * 8 +
      (third.toNat - 48))) := by
  obtain ⟨lowFirst, highFirst⟩ := digit_bounds isFirst
  obtain ⟨lowSecond, highSecond⟩ := digit_bounds isSecond
  obtain ⟨lowThird, highThird⟩ := digit_bounds isThird
  have fits : (first.toNat - 48) * 64 + (second.toNat - 48) * 8 + (third.toNat - 48) < 2 ^ 16 := by
    omega
  simp only [octalValue, index_of_some one, index_of_some two, index_of_some three,
    Run.pure_bind, sub_of_le lowFirst, sub_of_le lowSecond, sub_of_le lowThird, if_pos fits]

end Steps

section Totality

variable {bytes : List UInt8}

theorem threeDigits_ends (bytes : List UInt8) (i : Nat) :
    ∃ escape, threeDigits bytes i = pure escape := by
  by_cases inside : i + 3 < bytes.length
  · exact ⟨_, threeDigits_eq (List.getElem?_eq_getElem (by omega))
      (List.getElem?_eq_getElem (by omega)) (List.getElem?_eq_getElem inside)⟩
  · exact ⟨false, if_neg inside⟩

/-- Three digits have a value. -/
theorem octalValue_ends {i : Nat} (escape : threeDigits bytes i = pure true) :
    ∃ value, octalValue bytes i = pure value := by
  by_cases inside : i + 3 < bytes.length
  · have one := List.getElem?_eq_getElem (l := bytes) (i := i + 1) (by omega)
    have two := List.getElem?_eq_getElem (l := bytes) (i := i + 2) (by omega)
    have three := List.getElem?_eq_getElem inside
    have digits : (isAsciiDigit bytes[i + 1] && isAsciiDigit bytes[i + 2] &&
        isAsciiDigit bytes[i + 3]) = true := by
      have same := (threeDigits_eq one two three).symm.trans escape
      exact Except.ok.inj (congrArg Run.outcome same)
    rw [Bool.and_eq_true, Bool.and_eq_true] at digits
    exact ⟨_, octalValue_eq one two three digits.1.1 digits.1.2 digits.2⟩
  · rw [threeDigits, if_neg inside] at escape
    exact absurd (Except.ok.inj (congrArg Run.outcome escape)) (by decide)

/-- The loop ends without a bad index; the induction is on the bytes that are left. -/
theorem decodeOctalFrom_ends (room i : Nat) (out : List UInt8) (left : bytes.length - i ≤ room) :
    ∃ result, decodeOctalFrom bytes i out = pure result := by
  induction room generalizing i out with
  | zero =>
      have beyond : ¬ i < bytes.length := by omega
      exact ⟨out, by rw [decodeOctalFrom, if_neg beyond]⟩
  | succ room ih =>
      by_cases inside : i < bytes.length
      · rw [decodeOctalFrom, if_pos inside, index_of_lt inside, Run.pure_bind]
        split
        · rename_i held
          rw [index_of_lt held.2, Run.pure_bind]
          split
          · exact ih (i + 2) _ (by omega)
          · obtain ⟨escape, isEscape⟩ := threeDigits_ends bytes i
            rw [isEscape, Run.pure_bind]
            split
            · rename_i digits
              rw [digits] at isEscape
              obtain ⟨value, isValue⟩ := octalValue_ends isEscape
              rw [isValue, Run.pure_bind]
              exact ih (i + 4) _ (by omega)
            · exact ih (i + 1) _ (by omega)
        · exact ih (i + 1) _ (by omega)
      · exact ⟨out, by rw [decodeOctalFrom, if_neg inside]⟩

end Totality

section Inverse

theorem toNat_digit {digit : UInt8} (small : digit.toNat < 8) :
    (48 + digit).toNat = 48 + digit.toNat ∧ isAsciiDigit (48 + digit) = true ∧
      48 + digit ≠ backslash := by
  have value : (48 + digit).toNat = 48 + digit.toNat := by
    rw [UInt8.toNat_add]
    exact Nat.mod_eq_of_lt (by simp; omega)
  refine ⟨value, ?_, ?_⟩
  · have low : (48 : UInt8) ≤ 48 + digit := by
      rw [UInt8.le_iff_toNat_le, value]
      exact Nat.le_add_right ..
    have high : 48 + digit ≤ (57 : UInt8) := by
      rw [UInt8.le_iff_toNat_le, value]
      change 48 + digit.toNat ≤ 57
      omega
    simp [isAsciiDigit, low, high]
  · intro same
    have impossible : 48 + digit.toNat = 92 := by
      rw [← value, same]
      rfl
    omega

/-- Three octal digits give back the byte that they were made of. -/
theorem octalDigits_value (byte : UInt8) :
    UInt8.ofNat (((byte / 64).toNat) * 64 + ((byte / 8 % 8).toNat) * 8 + ((byte % 8).toNat)) =
      byte := by
  have small := byte.toNat_lt
  apply UInt8.toNat_inj.mp
  rw [UInt8.toNat_ofNat', UInt8.toNat_div, UInt8.toNat_mod, UInt8.toNat_div, UInt8.toNat_mod]
  change (byte.toNat / 64 * 64 + byte.toNat / 8 % 8 * 8 + byte.toNat % 8) % 2 ^ 8 = byte.toNat
  omega

theorem octalDigits_small (byte : UInt8) :
    (byte / 64).toNat < 8 ∧ (byte / 8 % 8).toNat < 8 ∧ (byte % 8).toNat < 8 := by
  have small := byte.toNat_lt
  refine ⟨?_, ?_, ?_⟩
  · rw [UInt8.toNat_div]
    exact Nat.div_lt_of_lt_mul (by simpa using by omega)
  · rw [UInt8.toNat_mod]
    exact Nat.mod_lt _ (by decide)
  · rw [UInt8.toNat_mod]
    exact Nat.mod_lt _ (by decide)

/-- No byte of an escaped form is a control character. -/
theorem ge_of_mem_escapeOctal {data : List UInt8} {byte : UInt8}
    (member : byte ∈ escapeOctal data) : 32 ≤ byte.toNat := by
  obtain ⟨own, -, held⟩ := List.mem_flatMap.mp member
  have digit {low : UInt8} (small : low.toNat < 8) : 32 ≤ (48 + low).toNat := by
    rw [(toNat_digit small).1]
    omega
  obtain ⟨first, second, third⟩ := octalDigits_small own
  rw [escapeByte] at held
  split at held
  · simp only [List.mem_cons, List.not_mem_nil, or_false] at held
    obtain rfl | rfl | rfl | rfl := held
    · decide
    · exact digit first
    · exact digit second
    · exact digit third
  · rename_i plain
    rw [List.mem_singleton.mp held]
    rw [not_or, UInt8.lt_iff_toNat_lt] at plain
    exact Nat.not_lt.mp plain.1

variable {front rest out : List UInt8} {byte : UInt8}

/-- An escape goes out as its byte, and the loop goes on after it. -/
theorem decode_escaped (escaped : byte < 32 ∨ byte = backslash) :
    decodeOctalFrom (front ++ (escapeByte byte ++ rest)) front.length out =
      decodeOctalFrom (front ++ (escapeByte byte ++ rest)) (front ++ escapeByte byte).length
        (out ++ [byte]) := by
  obtain ⟨first, second, third⟩ := octalDigits_small byte
  obtain ⟨firstValue, firstDigit, firstOther⟩ := toNat_digit first
  obtain ⟨secondValue, secondDigit, -⟩ := toNat_digit second
  obtain ⟨thirdValue, thirdDigit, -⟩ := toNat_digit third
  have shape : escapeByte byte =
      [backslash, 48 + byte / 64, 48 + byte / 8 % 8, 48 + byte % 8] := if_pos escaped
  rw [shape]
  generalize whole : front ++ ([backslash, 48 + byte / 64, 48 + byte / 8 % 8, 48 + byte % 8] ++
    rest) = bytes
  have entry (k : Nat) : bytes[front.length + k]? =
      ([backslash, 48 + byte / 64, 48 + byte / 8 % 8, 48 + byte % 8] ++ rest)[k]? := by
    rw [← whole, List.getElem?_append_right (Nat.le_add_right ..), Nat.add_sub_cancel_left]
  have zero : bytes[front.length]? = some backslash := entry 0
  have one : bytes[front.length + 1]? = some (48 + byte / 64) := entry 1
  have two : bytes[front.length + 2]? = some (48 + byte / 8 % 8) := entry 2
  have three : bytes[front.length + 3]? = some (48 + byte % 8) := entry 3
  have inside : front.length < bytes.length := (List.getElem?_eq_some_iff.mp zero).1
  have next : front.length + 1 < bytes.length := (List.getElem?_eq_some_iff.mp one).1
  have value := octalValue_eq one two three firstDigit secondDigit thirdDigit
  rw [firstValue, secondValue, thirdValue, Nat.add_sub_cancel_left, Nat.add_sub_cancel_left,
    Nat.add_sub_cancel_left, octalDigits_value] at value
  have after : (front ++ [backslash, 48 + byte / 64, 48 + byte / 8 % 8, 48 + byte % 8]).length =
      front.length + 4 := by simp
  rw [decodeOctalFrom, if_pos inside, index_of_some zero, Run.pure_bind, if_pos ⟨rfl, next⟩,
    index_of_some one, Run.pure_bind, if_neg firstOther, threeDigits_eq one two three, firstDigit,
    secondDigit, thirdDigit, Run.pure_bind, Bool.and_self, Bool.and_self, if_pos rfl, value,
    Run.pure_bind, after]

theorem decode_plain (plain : ¬ (byte < 32 ∨ byte = backslash)) :
    decodeOctalFrom (front ++ (escapeByte byte ++ rest)) front.length out =
      decodeOctalFrom (front ++ (escapeByte byte ++ rest)) (front ++ escapeByte byte).length
        (out ++ [byte]) := by
  have shape : escapeByte byte = [byte] := if_neg plain
  rw [shape]
  generalize whole : front ++ ([byte] ++ rest) = bytes
  have zero : bytes[front.length]? = some byte := by
    rw [← whole]
    simp
  have inside : front.length < bytes.length := (List.getElem?_eq_some_iff.mp zero).1
  have other : ¬ (byte = backslash ∧ front.length + 1 < bytes.length) :=
    fun held => plain (.inr held.1)
  have after : (front ++ [byte]).length = front.length + 1 := by simp
  rw [decodeOctalFrom, if_pos inside, index_of_some zero, Run.pure_bind, if_neg other, after]

/-- The induction is on the data that is still to be decoded. -/
theorem decodeOctalFrom_escape (data front out : List UInt8) :
    decodeOctalFrom (front ++ escapeOctal data) front.length out = pure (out ++ data) := by
  induction data generalizing front out with
  | nil =>
      have beyond : ¬ front.length < (front ++ escapeOctal []).length := by simp [escapeOctal]
      rw [decodeOctalFrom, if_neg beyond, List.append_nil]
  | cons byte data ih =>
      have shape : front ++ escapeOctal (byte :: data) =
          front ++ (escapeByte byte ++ escapeOctal data) := rfl
      have later := ih (front ++ escapeByte byte) (out ++ [byte])
      rw [List.append_assoc, List.append_assoc, List.singleton_append] at later
      rw [shape]
      by_cases escaped : byte < 32 ∨ byte = backslash
      · rw [decode_escaped escaped, later]
      · rw [decode_plain escaped, later]

end Inverse

/-- The decoder gives back the data of every escaped form that is a text, and on no text does it
fault: neither an index nor a value leaves its range. -/
theorem decodeOctal_escapeOctal :
    (∀ (data : List UInt8) (input : String), fromUtf8 (escapeOctal data) = some input →
      decodeOctal input.toList = pure data) ∧
    ∀ input : Text, ∃ out, decodeOctal input = pure out := by
  constructor
  · intro data input decoded
    have same := congrArg (fun bytes : ByteArray => bytes.data.toList)
      (toByteArray_of_fromUtf8 decoded)
    have bytes : utf8 input.toList = escapeOctal data := by
      rw [← textBytes_ofList, String.ofList_toList]
      exact same
    rw [decodeOctal, bytes]
    exact decodeOctalFrom_escape data [] []
  · intro input
    exact decodeOctalFrom_ends _ 0 [] (Nat.le_refl _)

/-- A line feed, a backslash, and digits right after an escape. -/
theorem decodeOctal_mixed : decodeOctal "hello\\01299\\134".toList =
    pure [104, 101, 108, 108, 111, 10, 57, 57, 92] :=
  decodeOctal_escapeOctal.1 [104, 101, 108, 108, 111, 10, 57, 57, 92] "hello\\01299\\134"
    (by decide)

end Boo.Tmux.Escapes
