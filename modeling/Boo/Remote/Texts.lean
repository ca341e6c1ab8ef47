/- module: Boo/Remote/Texts
   digest: Texts as UTF-8 bytes, and which byte prefixes of a text are texts again. -/

import Boo.Remote.ReadLoop

set_option autoImplicit false
set_option relaxedAutoImplicit false

namespace Boo.Remote.Texts

open Boo.Remote.ReadLoop (fromUtf8)

/-- `as_bytes`. -/
def textBytes (text : String) : List UInt8 := text.toUTF8.data.toList

variable {text value : String} {n : Nat}

theorem length_textBytes (text : String) : (textBytes text).length = text.utf8ByteSize := rfl

theorem toByteArray_of_fromUtf8 {bytes : List UInt8} (decoded : fromUtf8 bytes = some value) :
    value.toByteArray = ⟨bytes.toArray⟩ := by
  rw [fromUtf8, String.fromUTF8?] at decoded
  split at decoded
  · cases decoded
    rfl
  · cases decoded

theorem isSome_fromUtf8_iff (bytes : List UInt8) :
    (fromUtf8 bytes).isSome ↔ ByteArray.IsValidUTF8 ⟨bytes.toArray⟩ := by
  rw [fromUtf8, String.fromUTF8?]
  split <;> simp [*]

theorem fromUtf8_textBytes (text : String) : fromUtf8 (textBytes text) = some text := by
  have valid : text.toUTF8.IsValidUTF8 := text.isValidUTF8
  have whole : (⟨(textBytes text).toArray⟩ : ByteArray) = text.toUTF8 := by
    rw [textBytes, Array.toArray_toList]
  rw [fromUtf8, whole, String.fromUTF8?, dif_pos valid]
  rfl

theorem textBytes_take (text : String) (n : Nat) :
    (⟨((textBytes text).take n).toArray⟩ : ByteArray) = text.toByteArray.extract 0 n := by
  apply ByteArray.ext
  rw [ByteArray.data_extract]
  apply Array.ext'
  simp [textBytes]

/-- A byte prefix of a text decodes to a prefix of the text. -/
theorem prefix_of_fromUtf8_take (decoded : fromUtf8 ((textBytes text).take n) = some value) :
    value.toList <+: text.toList := by
  apply List.isPrefix_of_utf8Encode_append_eq_utf8Encode
    (text.toByteArray.extract n text.toByteArray.size)
  have front : value.toList.utf8Encode = text.toByteArray.extract 0 n := by
    rw [String.utf8Encode_toList, toByteArray_of_fromUtf8 decoded, textBytes_take]
  rw [front, String.utf8Encode_toList, ByteArray.extract_append_extract, Nat.zero_min,
    ByteArray.extract_zero_max_size]

/-- The prefixes that decode are the ones that end between two characters. -/
theorem isSome_fromUtf8_take_iff (inside : n ≤ (textBytes text).length) :
    (fromUtf8 ((textBytes text).take n)).isSome ↔ String.Pos.Raw.IsValid text ⟨n⟩ := by
  have before : (⟨n⟩ : String.Pos.Raw) ≤ text.rawEndPos := inside
  rw [isSome_fromUtf8_iff, textBytes_take, String.Pos.Raw.isValid_iff_isValidUTF8_extract_zero]
  exact ⟨fun valid => ⟨before, valid⟩, And.right⟩

section Encoding

/-- The bytes of some characters. -/
def utf8 (text : List Char) : List UInt8 := text.flatMap String.utf8EncodeChar

theorem textBytes_ofList (text : List Char) : textBytes (String.ofList text) = utf8 text := by
  simp [textBytes, utf8, List.utf8Encode]

theorem fromUtf8_utf8 (text : List Char) : fromUtf8 (utf8 text) = some (String.ofList text) := by
  rw [← textBytes_ofList, fromUtf8_textBytes]

@[simp] theorem utf8_cons (char : Char) (text : List Char) :
    utf8 (char :: text) = String.utf8EncodeChar char ++ utf8 text := rfl

@[simp] theorem utf8_append (front later : List Char) :
    utf8 (front ++ later) = utf8 front ++ utf8 later := List.flatMap_append

theorem utf8EncodeChar_ascii {char : Char} (ascii : char.toNat < 128) :
    String.utf8EncodeChar char = [UInt8.ofNat char.toNat] :=
  if_pos (Nat.le_of_lt_succ ascii)

theorem toNat_ofNat_ge {value : Nat} (low : 128 ≤ value) (high : value < 256) :
    128 ≤ (UInt8.ofNat value).toNat := by
  rw [UInt8.toNat_ofNat']
  omega

/-- No byte of a character beyond ASCII is an ASCII byte. -/
theorem toNat_ge_of_mem_utf8EncodeChar {char : Char} (beyond : 128 ≤ char.toNat) {byte : UInt8}
    (member : byte ∈ String.utf8EncodeChar char) : 128 ≤ byte.toNat := by
  have notOne : ¬ char.val.toNat ≤ 127 := Nat.not_le.mpr beyond
  unfold String.utf8EncodeChar at member
  rw [if_neg notOne] at member
  split at member
  · simp only [List.mem_cons, List.not_mem_nil, or_false] at member
    obtain rfl | rfl := member <;> exact toNat_ofNat_ge (by omega) (by omega)
  · split at member
    · simp only [List.mem_cons, List.not_mem_nil, or_false] at member
      obtain rfl | rfl | rfl := member <;> exact toNat_ofNat_ge (by omega) (by omega)
    · simp only [List.mem_cons, List.not_mem_nil, or_false] at member
      obtain rfl | rfl | rfl | rfl := member <;> exact toNat_ofNat_ge (by omega) (by omega)

/-- An ASCII byte stands for its own character only. -/
theorem mem_utf8EncodeChar_ascii {byte : UInt8} (ascii : byte.toNat < 128) {char : Char} :
    byte ∈ String.utf8EncodeChar char ↔ char.toNat = byte.toNat := by
  by_cases small : char.toNat < 128
  · rw [utf8EncodeChar_ascii small, List.mem_singleton, ← UInt8.toNat_inj, UInt8.toNat_ofNat']
    omega
  · have beyond : 128 ≤ char.toNat := Nat.not_lt.mp small
    exact iff_of_false (fun member => Nat.not_le.mpr ascii
      (toNat_ge_of_mem_utf8EncodeChar beyond member)) (by omega)

end Encoding

end Boo.Remote.Texts
