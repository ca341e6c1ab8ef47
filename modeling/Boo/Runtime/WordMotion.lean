/- module: Boo/Runtime/WordMotion
   digest: The word motions of copy mode over the characters of a line, and where they stay inside. -/

import Boo.Lib.TextLines

set_option autoImplicit false
set_option relaxedAutoImplicit false

namespace Boo.Runtime.WordMotion

open Boo.Lib.TextLines

inductive WordMoveKind
  | nextWord
  | prevWord
  | endWord
  | nextBigWord
  | prevBigWord
  | endBigWord
  deriving DecidableEq

def WordMoveKind.big : WordMoveKind → Bool
  | nextBigWord | prevBigWord | endBigWord => true
  | _ => false

section Motions

-- `char::is_alphanumeric` is the parameter.
variable (isAlphanumeric : Char → Bool) (big : Bool)

def isWord (c : Char) : Bool :=
  if big then !isWhitespace c else isAlphanumeric c || c == '_'

def isSep (c : Char) : Bool := !isAlphanumeric c && c != '_' && !isWhitespace c

/-- `while i < len && holds(chars[i])`, counting up. -/
def skipForward (holds : Char → Bool) (chars : List Char) (i : ℕ) : ℕ :=
  if inside : i < chars.length then
    if holds (chars.get ⟨i, inside⟩) then skipForward holds chars (i + 1) else i
  else i
  termination_by chars.length - i

/-- `while i + 1 < len && holds(chars[i + 1])`, counting up. -/
def skipToLast (holds : Char → Bool) (chars : List Char) (i : ℕ) : ℕ :=
  if inside : i + 1 < chars.length then
    if holds (chars.get ⟨i + 1, inside⟩) then skipToLast holds chars (i + 1) else i
  else i
  termination_by chars.length - i

/-- `while i > 0 && holds(chars[i])`, counting down; an index past the end panics. -/
def skipBackward (holds : Char → Bool) (chars : List Char) : ℕ → Option ℕ
  | 0 => some 0
  | i + 1 => (chars[i + 1]?).bind fun c =>
      if holds c then skipBackward holds chars i else some (i + 1)

/-- `while i > 0 && holds(chars[i - 1])`, counting down. -/
def skipToFirst (holds : Char → Bool) (chars : List Char) : ℕ → Option ℕ
  | 0 => some 0
  | i + 1 => (chars[i]?).bind fun c =>
      if holds c then skipToFirst holds chars i else some (i + 1)

def nextWord (chars : List Char) (col : ℕ) : ℕ :=
  let i :=
    if (chars[col]?).any (isWord isAlphanumeric big) then
      skipForward (isWord isAlphanumeric big) chars col
    else if !big && (chars[col]?).any (isSep isAlphanumeric) then
      skipForward (isSep isAlphanumeric) chars col
    else col + 1
  let i := skipForward isWhitespace chars i
  if chars.length ≤ i then col else i

def prevWord (chars : List Char) (col : ℕ) : Option ℕ :=
  if col = 0 then some 0
  else
    (skipBackward isWhitespace chars (col - 1)).bind fun i => (chars[i]?).bind fun c =>
      if isWord isAlphanumeric big c then skipToFirst (isWord isAlphanumeric big) chars i
      else if !big && isSep isAlphanumeric c then skipToFirst (isSep isAlphanumeric) chars i
      else some i

def endWord (chars : List Char) (col : ℕ) : ℕ :=
  if chars.length ≤ col + 1 then col
  else
    let i := skipForward isWhitespace chars (col + 1)
    if (chars[i]?).any (isWord isAlphanumeric big) then
      skipToLast (isWord isAlphanumeric big) chars i
    else if !big && (chars[i]?).any (isSep isAlphanumeric) then
      skipToLast (isSep isAlphanumeric) chars i
    else i

/-- The new column of `copy_mode_word_move`, unless an access is out of range. -/
def wordMove (kind : WordMoveKind) (chars : List Char) (col : ℕ) : Option ℕ :=
  match kind with
  | .nextWord | .nextBigWord => some (nextWord isAlphanumeric kind.big chars col)
  | .prevWord | .prevBigWord => prevWord isAlphanumeric kind.big chars col
  | .endWord | .endBigWord => some (endWord isAlphanumeric kind.big chars col)

end Motions

section Loops

variable (holds : Char → Bool) {chars : List Char} {i : ℕ}

theorem le_skipForward (chars : List Char) (i : ℕ) : i ≤ skipForward holds chars i := by
  induction remaining : chars.length - i generalizing i with
  | zero => rw [skipForward, dif_neg (by omega)]
  | succ remaining ih =>
      rw [skipForward]
      split
      · split
        · exact Nat.le_of_succ_le (ih (i + 1) (by omega))
        · exact Nat.le_refl _
      · exact Nat.le_refl _

theorem skipForward_le (start : i ≤ chars.length) :
    skipForward holds chars i ≤ chars.length := by
  induction remaining : chars.length - i generalizing i with
  | zero =>
      rw [skipForward, dif_neg (by omega)]
      exact start
  | succ remaining ih =>
      rw [skipForward]
      split
      · split
        · exact ih (by omega) (by omega)
        · exact start
      · exact start

theorem skipForward_reaches (inside : i < chars.length) :
    chars.length ≤ skipForward holds chars i ↔ ∀ c ∈ chars.drop i, holds c := by
  induction remaining : chars.length - i generalizing i with
  | zero => omega
  | succ remaining ih =>
      have split : chars.drop i = chars.get ⟨i, inside⟩ :: chars.drop (i + 1) :=
        List.drop_eq_getElem_cons inside
      rw [skipForward, dif_pos inside, split, List.forall_mem_cons]
      by_cases own : holds (chars.get ⟨i, inside⟩)
      · rw [if_pos own]
        by_cases further : i + 1 < chars.length
        · rw [ih further (by omega)]
          exact (and_iff_right own).symm
        · have done : chars.length = i + 1 := by omega
          rw [skipForward, dif_neg further, ← done, List.drop_length]
          exact iff_of_true (Nat.le_refl _) ⟨own, fun c member => absurd member List.not_mem_nil⟩
      · rw [if_neg own]
        exact iff_of_false (by omega) fun both => own both.1

theorem skipToLast_lt (inside : i < chars.length) : skipToLast holds chars i < chars.length := by
  induction remaining : chars.length - i generalizing i with
  | zero => omega
  | succ remaining ih =>
      rw [skipToLast]
      split
      · split
        · exact ih (by omega) (by omega)
        · exact inside
      · exact inside

/-- From inside the line the loop reads inside it. -/
theorem skipBackward_le (inside : i < chars.length) :
    ∃ j, skipBackward holds chars i = some j ∧ j ≤ i := by
  induction i with
  | zero => exact ⟨0, rfl, Nat.le_refl _⟩
  | succ i ih =>
      obtain ⟨j, found, below⟩ := ih (by omega)
      rw [skipBackward, List.getElem?_eq_getElem inside, Option.bind_some]
      split
      · exact ⟨j, found, Nat.le_succ_of_le below⟩
      · exact ⟨i + 1, rfl, Nat.le_refl _⟩

theorem skipToFirst_le (inside : i < chars.length) :
    ∃ j, skipToFirst holds chars i = some j ∧ j ≤ i := by
  induction i with
  | zero => exact ⟨0, rfl, Nat.le_refl _⟩
  | succ i ih =>
      obtain ⟨j, found, below⟩ := ih (by omega)
      rw [skipToFirst, List.getElem?_eq_getElem (by omega), Option.bind_some]
      split
      · exact ⟨j, found, Nat.le_succ_of_le below⟩
      · exact ⟨i + 1, rfl, Nat.le_refl _⟩

end Loops

section Columns

variable (isAlphanumeric : Char → Bool) (big : Bool) {chars : List Char} {col : ℕ}

theorem nextWord_inside :
    nextWord isAlphanumeric big chars col = col ∨
      nextWord isAlphanumeric big chars col < chars.length := by
  unfold nextWord
  dsimp only
  generalize skipForward isWhitespace chars _ = i
  by_cases behind : chars.length ≤ i
  · exact .inl (if_pos behind)
  · exact .inr ((if_neg behind).trans_lt (Nat.not_le.mp behind))

/-- The motion back reads the character before the cursor. -/
theorem prevWord_le (inside : col ≤ chars.length) :
    ∃ next, prevWord isAlphanumeric big chars col = some next ∧ next ≤ col := by
  unfold prevWord
  by_cases start : col = 0
  · exact ⟨0, if_pos start, Nat.zero_le _⟩
  · obtain ⟨i, found, below⟩ := skipBackward_le isWhitespace
      (show col - 1 < chars.length by omega)
    have valid : i < chars.length := by omega
    rw [if_neg start, found, Option.bind_some, List.getElem?_eq_getElem valid, Option.bind_some]
    split
    · obtain ⟨first, reached, before⟩ := skipToFirst_le (isWord isAlphanumeric big) valid
      exact ⟨first, reached, by omega⟩
    · split
      · obtain ⟨first, reached, before⟩ := skipToFirst_le (isSep isAlphanumeric) valid
        exact ⟨first, reached, by omega⟩
      · exact ⟨i, rfl, by omega⟩

theorem prevWord_inside (inside : col ≤ chars.length) :
    ∃ next, prevWord isAlphanumeric big chars col = some next ∧
      (next = col ∨ next < chars.length) := by
  obtain ⟨next, found, back⟩ := prevWord_le isAlphanumeric big inside
  exact ⟨next, found, by omega⟩

theorem prevWord_outside (outside : chars.length < col) :
    prevWord isAlphanumeric big chars col = none := by
  obtain ⟨before, rfl⟩ : ∃ before, col = before + 1 := ⟨col - 1, by omega⟩
  have missing : chars[before]? = none := List.getElem?_eq_none (by omega)
  unfold prevWord
  rw [if_neg (Nat.succ_ne_zero _), Nat.add_sub_cancel]
  cases before with
  | zero => rw [skipBackward, Option.bind_some, missing, Option.bind_none]
  | succ before => rw [skipBackward, missing, Option.bind_none, Option.bind_none]

theorem endWord_le : endWord isAlphanumeric big chars col = col ∨
    endWord isAlphanumeric big chars col ≤ chars.length := by
  unfold endWord
  by_cases last : chars.length ≤ col + 1
  · exact .inl (if_pos last)
  · have inside := skipForward_le isWhitespace (show col + 1 ≤ chars.length by omega)
    rw [if_neg last]
    simp only
    generalize skipForward isWhitespace chars (col + 1) = i at inside
    right
    by_cases reached : i < chars.length
    · split
      · exact (skipToLast_lt _ reached).le
      · split
        · exact (skipToLast_lt _ reached).le
        · exact inside
    · have missing : chars[i]? = none := List.getElem?_eq_none (by omega)
      rw [missing, Option.any_none, Option.any_none, Bool.and_false, if_neg Bool.false_ne_true,
        if_neg Bool.false_ne_true]
      exact inside

/-- The motion to the end of a word runs out of a line of which only blanks are left. -/
theorem endWord_inside_iff :
    (endWord isAlphanumeric big chars col = col ∨
        endWord isAlphanumeric big chars col < chars.length) ↔
      (col + 1 < chars.length → ∃ c ∈ chars.drop (col + 1), isWhitespace c = false) := by
  unfold endWord
  by_cases last : chars.length ≤ col + 1
  · rw [if_pos last]
    exact iff_of_true (.inl rfl) fun further => by omega
  · have further : col + 1 < chars.length := by omega
    have reaches : chars.length ≤ skipForward isWhitespace chars (col + 1) ↔
        ¬ ∃ c ∈ chars.drop (col + 1), isWhitespace c = false := by
      rw [skipForward_reaches isWhitespace further]
      simp only [not_exists, not_and, Bool.not_eq_false]
    have behind := le_skipForward isWhitespace chars (col + 1)
    rw [if_neg last]
    simp only
    generalize skipForward isWhitespace chars (col + 1) = i at reaches behind
    by_cases inside : i < chars.length
    · have solid := Decidable.of_not_not fun blank => absurd (reaches.mpr blank) (Nat.not_le.mpr inside)
      refine iff_of_true (.inr ?_) fun _ => solid
      split
      · exact skipToLast_lt _ inside
      · split
        · exact skipToLast_lt _ inside
        · exact inside
    · have missing : chars[i]? = none := List.getElem?_eq_none (by omega)
      rw [missing, Option.any_none, Option.any_none, Bool.and_false, if_neg Bool.false_ne_true,
        if_neg Bool.false_ne_true]
      have blank := reaches.mp (Nat.not_lt.mp inside)
      exact iff_of_false (by omega) fun solid => blank (solid further)

/-- Where a motion stays in the line: back, the cursor is at most behind the last character; to the
end of a word, not all that follows the next column is blank. -/
def StaysInside (kind : WordMoveKind) (chars : List Char) (col : ℕ) : Prop :=
  match kind with
  | .nextWord | .nextBigWord => True
  | .prevWord | .prevBigWord => col ≤ chars.length
  | .endWord | .endBigWord =>
      col + 1 < chars.length → ∃ c ∈ chars.drop (col + 1), isWhitespace c = false

theorem prevWord_inside_iff :
    (∃ next, prevWord isAlphanumeric big chars col = some next ∧
      (next = col ∨ next < chars.length)) ↔ col ≤ chars.length := by
  by_cases inside : col ≤ chars.length
  · exact iff_of_true (prevWord_inside isAlphanumeric big inside) inside
  · refine iff_of_false (fun ⟨next, found, _⟩ => ?_) inside
    rw [prevWord_outside isAlphanumeric big (Nat.not_le.mp inside)] at found
    cases found

/-- A word motion accesses the line in range, and yields the old column or that of a character,
exactly where it stays inside. -/
theorem wordMove_inside_iff (kind : WordMoveKind) (chars : List Char) (col : ℕ) :
    (∃ next, wordMove isAlphanumeric kind chars col = some next ∧
      (next = col ∨ next < chars.length)) ↔ StaysInside kind chars col := by
  have total : ∀ next : ℕ, (∃ found, some next = some found ∧
      (found = col ∨ found < chars.length)) ↔ next = col ∨ next < chars.length := by
    intro next
    simp
  cases kind with
  | nextWord | nextBigWord =>
      exact iff_of_true ((total _).mpr (nextWord_inside isAlphanumeric _)) trivial
  | prevWord | prevBigWord => exact prevWord_inside_iff isAlphanumeric _
  | endWord | endBigWord => exact (total _).trans (endWord_inside_iff isAlphanumeric _)

/-- Back from far behind a short line, the motion reads past its end. -/
theorem prevWord_panics :
    ¬ ∀ (isAlphanumeric : Char → Bool) (kind : WordMoveKind) (chars : List Char) (col : ℕ),
      ∃ next, wordMove isAlphanumeric kind chars col = some next ∧
        (next = col ∨ next < chars.length) := by
  intro always
  have inside := (prevWord_inside_iff Char.isAlphanum false).mp
    (always Char.isAlphanum .prevWord ['a', 'b'] 5)
  exact absurd inside (by decide)

end Columns

end Boo.Runtime.WordMotion
