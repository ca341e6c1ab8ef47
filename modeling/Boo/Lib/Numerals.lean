/- module: Boo/Lib/Numerals
   digest: Unsigned decimal numbers in texts: how they are read, up to a bound, and printed. -/

import Boo.Lib.TextLines

set_option autoImplicit false
set_option relaxedAutoImplicit false

namespace Boo.Lib.Numerals

open Boo.Lib.TextLines

/-- The digits of a number, with the plus sign that may stand before them taken off. -/
def stripPlus : Text → Text
  | '+' :: digits => digits
  | digits => digits

/-- `str::parse` at an unsigned type of `limit` values. -/
def parseUnsigned (limit : Nat) (text : Text) : Option Nat :=
  let digits := stripPlus text
  if digits ≠ [] ∧ digits.all Char.isDigit ∧ Nat.ofDigitChars 10 digits 0 < limit then
    some (Nat.ofDigitChars 10 digits 0)
  else none

def decimal (n : Nat) : Text := Nat.toDigits 10 n

variable {n limit : Nat} {text rest : Text}

theorem isDigit_iff_toNat {char : Char} :
    char.isDigit = true ↔ 48 ≤ char.toNat ∧ char.toNat ≤ 57 := by
  rw [Char.isDigit, Bool.and_eq_true, decide_eq_true_eq, decide_eq_true_eq]
  exact Iff.rfl

theorem isWhitespace_of_isDigit {char : Char} (digit : char.isDigit = true) :
    isWhitespace char = false := by
  obtain ⟨low, high⟩ := isDigit_iff_toNat.mp digit
  simp only [isWhitespace, Bool.or_eq_false_iff, Bool.and_eq_false_iff, decide_eq_false_iff_not,
    beq_eq_false_iff_ne]
  omega

theorem stripPlus_of_digits (digits : ∀ char ∈ text, char.isDigit = true) :
    stripPlus text = text := by
  unfold stripPlus
  split
  · exact absurd (digits '+' List.mem_cons_self) (by decide)
  · rfl

/-- A text of digits is read as their value, when that is below the bound. -/
theorem parseUnsigned_of_digits (nonempty : text ≠ [])
    (digits : ∀ char ∈ text, char.isDigit = true) :
    parseUnsigned limit text =
      if Nat.ofDigitChars 10 text 0 < limit then some (Nat.ofDigitChars 10 text 0) else none := by
  have all : text.all Char.isDigit = true := List.all_eq_true.mpr digits
  simp [parseUnsigned, stripPlus_of_digits digits, nonempty, all]

theorem isDigit_of_mem_decimal {char : Char} (member : char ∈ decimal n) : char.isDigit = true :=
  Nat.isDigit_of_mem_toDigits (by decide) (by decide) member

theorem decimal_ne_nil : decimal n ≠ [] := Nat.toDigits_ne_nil

theorem parseUnsigned_decimal (small : n < limit) :
    parseUnsigned limit (decimal n) = some n := by
  have value : Nat.ofDigitChars 10 (decimal n) 0 = n := Nat.ofDigitChars_ten_toDigits
  rw [parseUnsigned_of_digits decimal_ne_nil fun _ member => isDigit_of_mem_decimal member, value,
    if_pos small]

/-- What is read is a bounded number, given by digits only. -/
theorem parseUnsigned_spec (read : parseUnsigned limit text = some n) :
    n < limit ∧ stripPlus text ≠ [] ∧ (∀ char ∈ stripPlus text, char.isDigit = true) ∧
      Nat.ofDigitChars 10 (stripPlus text) 0 = n := by
  rw [parseUnsigned] at read
  split at read
  · rename_i held
    obtain ⟨nonempty, all, small⟩ := held
    cases read
    exact ⟨small, nonempty, List.all_eq_true.mp all, rfl⟩
  · cases read

/-- A text that does not go on with a digit. -/
def EndsNumber (rest : Text) : Prop := ∀ char ∈ rest.head?, char.isDigit = false

theorem endsNumber_nil : EndsNumber [] := by simp [EndsNumber]

theorem endsNumber_cons {char : Char} (other : char.isDigit = false) :
    EndsNumber (char :: rest) := by simpa [EndsNumber] using other

/-- The digits in front of a text, and what follows them. -/
theorem takeWhile_digits (digits : ∀ char ∈ text, char.isDigit = true) (ends : EndsNumber rest) :
    (text ++ rest).takeWhile Char.isDigit = text ∧
      (text ++ rest).dropWhile Char.isDigit = rest := by
  rw [List.takeWhile_append_of_pos digits, List.dropWhile_append_of_pos digits]
  cases rest with
  | nil => simp
  | cons char rest =>
      have other : char.isDigit = false := ends char rfl
      simp [other]

end Boo.Lib.Numerals
