/- module: Boo/Lib/ByteOffsets
   digest: Texts cut at byte offsets, and a scan of bytes that never steps back. -/

import Boo.Lib.Checked
import Boo.Lib.TextLines

set_option autoImplicit false
set_option relaxedAutoImplicit false

namespace Boo.Lib.ByteOffsets

open Boo.Lib.Checked
open Boo.Lib.TextLines (Text)

/-- The length in UTF-8 bytes. -/
def byteLength (text : Text) : Nat := (text.map Char.utf8Size).sum

/-- The text before and after a byte offset that lies between two characters. -/
def splitAtByte : Text → Nat → Option (Text × Text)
  | text, 0 => some ([], text)
  | [], _ + 1 => none
  | char :: rest, offset + 1 =>
      if char.utf8Size ≤ offset + 1 then
        (splitAtByte rest (offset + 1 - char.utf8Size)).map fun (before, after) =>
          (char :: before, after)
      else none

/-- `&text[start..stop]`. -/
def sliceText (text : Text) (start stop : Nat) : Run Text :=
  if start ≤ stop then
    match (splitAtByte text start).bind fun cut => splitAtByte cut.2 (stop - start) with
    | some (piece, _) => pure piece
    | none => Run.fail .outOfRange
  else Run.fail .outOfRange

section Ascii

def isAsciiDigit (byte : UInt8) : Bool := 48 ≤ byte && byte ≤ 57

def isAsciiAlphabetic (byte : UInt8) : Bool :=
  (65 ≤ byte && byte ≤ 90) || (97 ≤ byte && byte ≤ 122)

/-- Tabulator, line feed, form feed, carriage return and space. -/
def isAsciiWhitespace (byte : UInt8) : Bool :=
  byte == 9 || byte == 10 || byte == 12 || byte == 13 || byte == 32

/-- A character of one byte that satisfies `p`. -/
def OneByte (p : UInt8 → Bool) (char : Char) : Prop :=
  char.toNat < 128 ∧ p (UInt8.ofNat char.toNat) = true

instance (p : UInt8 → Bool) (char : Char) : Decidable (OneByte p char) :=
  inferInstanceAs (Decidable (_ ∧ _))

end Ascii

section Cutting

variable {text before after piece : Text} {offset : Nat}

@[simp] theorem byteLength_nil : byteLength [] = 0 := rfl

@[simp] theorem byteLength_cons (char : Char) (text : Text) :
    byteLength (char :: text) = char.utf8Size + byteLength text := rfl

@[simp] theorem byteLength_append (before after : Text) :
    byteLength (before ++ after) = byteLength before + byteLength after := by
  simp [byteLength]

theorem byteLength_eq_zero_iff : byteLength text = 0 ↔ text = [] := by
  cases text with
  | nil => simp
  | cons char text =>
      have positive := char.utf8Size_pos
      simp only [byteLength_cons, reduceCtorEq, iff_false]
      omega

theorem splitAtByte_zero (text : Text) : splitAtByte text 0 = some ([], text) := by
  cases text <;> rfl

theorem splitAtByte_append (before after : Text) :
    splitAtByte (before ++ after) (byteLength before) = some (before, after) := by
  induction before with
  | nil => exact splitAtByte_zero after
  | cons char before ih =>
      have positive := char.utf8Size_pos
      obtain ⟨less, size⟩ : ∃ less, byteLength (char :: before) = less + 1 :=
        ⟨byteLength (char :: before) - 1, by rw [byteLength_cons]; omega⟩
      have enough : char.utf8Size ≤ less + 1 := by
        rw [← size, byteLength_cons]
        exact Nat.le_add_right ..
      have left : less + 1 - char.utf8Size = byteLength before := by
        rw [← size, byteLength_cons, Nat.add_sub_cancel_left]
      rw [List.cons_append, size, splitAtByte, if_pos enough, left, ih, Option.map_some]

theorem splitAtByte_spec (cut : splitAtByte text offset = some (before, after)) :
    text = before ++ after ∧ byteLength before = offset := by
  induction text generalizing offset before with
  | nil =>
      cases offset with
      | zero =>
          cases cut
          exact ⟨rfl, rfl⟩
      | succ offset => cases cut
  | cons char rest ih =>
      cases offset with
      | zero =>
          cases cut
          exact ⟨rfl, rfl⟩
      | succ offset =>
          rw [splitAtByte] at cut
          split at cut
          · rename_i enough
            obtain ⟨⟨front, back⟩, later, same⟩ := Option.map_eq_some_iff.mp cut
            obtain ⟨rfl, rfl⟩ := Prod.mk.inj same
            obtain ⟨rfl, size⟩ := ih later
            refine ⟨rfl, ?_⟩
            rw [byteLength_cons, size]
            omega
          · cases cut

/-- A slice between two places of a text. -/
theorem sliceText_append (before piece after : Text) :
    sliceText (before ++ (piece ++ after)) (byteLength before) (byteLength (before ++ piece)) =
      pure piece := by
  have length : byteLength (before ++ piece) - byteLength before = byteLength piece := by
    rw [byteLength_append, Nat.add_sub_cancel_left]
  have le : byteLength before ≤ byteLength (before ++ piece) := by
    rw [byteLength_append]
    exact Nat.le_add_right ..
  rw [sliceText, if_pos le, splitAtByte_append, Option.bind_some, length, splitAtByte_append]

/-- `is_char_boundary`. -/
def IsCharBoundary (text : Text) (offset : Nat) : Prop := (splitAtByte text offset).isSome

instance (text : Text) (offset : Nat) : Decidable (IsCharBoundary text offset) :=
  inferInstanceAs (Decidable (_ = _))

theorem isCharBoundary_iff : IsCharBoundary text offset ↔
    ∃ before after, text = before ++ after ∧ byteLength before = offset := by
  constructor
  · intro boundary
    obtain ⟨⟨before, after⟩, cut⟩ := Option.isSome_iff_exists.mp boundary
    exact ⟨before, after, splitAtByte_spec cut⟩
  · rintro ⟨before, after, rfl, rfl⟩
    rw [IsCharBoundary, splitAtByte_append]
    rfl

/-- Of two places in a text the earlier one comes first. -/
theorem exists_between {before after front back : Text} (same : before ++ after = front ++ back)
    (le : byteLength before ≤ byteLength front) :
    ∃ between, front = before ++ between ∧ after = between ++ back := by
  rcases List.append_eq_append_iff.mp same with ⟨between, rfl, rfl⟩ | ⟨extra, rfl, rfl⟩
  · exact ⟨between, rfl, rfl⟩
  · have nothing : extra = [] := byteLength_eq_zero_iff.mp (by rw [byteLength_append] at le; omega)
    exact ⟨[], by simp [nothing], by simp [nothing]⟩

/-- A slice is taken between two places of the text, and faults elsewhere. -/
theorem sliceText_cases (text : Text) {start stop : Nat} (ordered : start ≤ stop) :
    (IsCharBoundary text start ∧ IsCharBoundary text stop ∧
      ∃ piece, sliceText text start stop = pure piece) ∨
    (¬ (IsCharBoundary text start ∧ IsCharBoundary text stop) ∧
      sliceText text start stop = Run.fail .outOfRange) := by
  by_cases both : IsCharBoundary text start ∧ IsCharBoundary text stop
  · left
    refine ⟨both.1, both.2, ?_⟩
    obtain ⟨before, after, rfl, rfl⟩ := isCharBoundary_iff.mp both.1
    obtain ⟨front, back, same, rfl⟩ := isCharBoundary_iff.mp both.2
    obtain ⟨between, rfl, rfl⟩ := exists_between same ordered
    exact ⟨between, sliceText_append before between back⟩
  · right
    refine ⟨both, ?_⟩
    rw [sliceText, if_pos ordered]
    cases cut : (splitAtByte text start).bind fun cut => splitAtByte cut.2 (stop - start) with
    | none => rfl
    | some found =>
        obtain ⟨⟨before, after⟩, first, second⟩ := Option.bind_eq_some_iff.mp cut
        obtain ⟨rfl, rfl⟩ := splitAtByte_spec first
        obtain ⟨rest, length⟩ := splitAtByte_spec second
        refine absurd ⟨isCharBoundary_iff.mpr ⟨before, after, rfl, rfl⟩,
          isCharBoundary_iff.mpr ⟨before ++ found.1, found.2, ?_, ?_⟩⟩ both
        · rw [List.append_assoc, ← rest]
        · rw [byteLength_append, length]
          omega

end Cutting

section Scanning

/-- `while i < bytes.len() && p(bytes[i]) { i += 1 }`; the guard keeps the next offset within the
length. -/
def skipWhile (p : UInt8 → Bool) (bytes : List UInt8) (i : Nat) : Run { j : Nat // i ≤ j } :=
  if i < bytes.length then do
    let here ← index bytes i
    if p here then do
      let last ← skipWhile p bytes (i + 1)
      pure ⟨last.1, Nat.le_of_succ_le last.2⟩
    else pure ⟨i, Nat.le_refl i⟩
  else pure ⟨i, Nat.le_refl i⟩
termination_by bytes.length - i

variable {p : UInt8 → Bool} {front middle rest : List UInt8}

/-- The scan stops at the first byte that is not wanted, or at the end. -/
theorem skipWhile_append {i : Nat} (starts : i = front.length)
    (wanted : ∀ byte ∈ middle, p byte = true) (stops : ∀ byte ∈ rest.head?, p byte = false) :
    ∃ last, skipWhile p (front ++ (middle ++ rest)) i = pure last ∧
      last.1 = (front ++ middle).length := by
  induction middle generalizing front i with
  | nil =>
      refine ⟨⟨i, Nat.le_refl i⟩, ?_, by simp [starts]⟩
      rw [skipWhile]
      cases rest with
      | nil => simp [starts]
      | cons byte rest =>
          have inside : i < (front ++ ([] ++ byte :: rest)).length := by simp [starts]
          have here : (front ++ ([] ++ byte :: rest))[i]? = some byte := by simp [starts]
          have unwanted : ¬ p byte = true := by simp [stops byte rfl]
          rw [if_pos inside, index_of_some here, Run.pure_bind, if_neg unwanted]
  | cons byte middle ih =>
      obtain ⟨last, later, total⟩ := @ih (front ++ [byte]) (i + 1) (by simp [starts])
        fun other member => wanted other (List.mem_cons_of_mem _ member)
      have shape : (front ++ [byte]) ++ (middle ++ rest) = front ++ (byte :: middle ++ rest) := by
        simp
      have inside : i < (front ++ (byte :: middle ++ rest)).length := by simp [starts]
      have here : (front ++ (byte :: middle ++ rest))[i]? = some byte := by simp [starts]
      rw [shape] at later
      refine ⟨⟨last.1, Nat.le_of_succ_le last.2⟩, ?_, by simp [total]⟩
      rw [skipWhile, if_pos inside, index_of_some here, Run.pure_bind,
        if_pos (wanted byte List.mem_cons_self), later, Run.pure_bind]

end Scanning

end Boo.Lib.ByteOffsets
