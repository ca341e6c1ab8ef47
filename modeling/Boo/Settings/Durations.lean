/- module: Boo/Settings/Durations
   digest: Durations such as "1h 30m500ms": the parser is exact, and takes no other text. -/

import Boo.Lib.ByteOffsets
import Boo.Lib.Numerals
import Boo.Remote.Texts
import Mathlib.Algebra.Order.BigOperators.Group.List

set_option autoImplicit false
set_option relaxedAutoImplicit false

namespace Boo.Settings.Durations

open Boo.Lib.ByteOffsets
open Boo.Lib.Checked
open Boo.Lib.Numerals
open Boo.Lib.TextLines (Text)
open Boo.Remote.Texts

section Parsing

def multipliers : List (String × Nat) :=
  [("h", 3600000000000), ("m", 60000000000), ("s", 1000000000), ("ms", 1000000), ("us", 1000),
    ("ns", 1)]

def multiplier (unit : Text) : Option Nat :=
  (multipliers.find? fun entry => entry.1.toList = unit).map Prod.snd

/-- A `u64` that a computation must not exceed. -/
def checked (n : Nat) : Option Nat := if n < 2 ^ 64 then some n else none

/-- `total.checked_add(number.checked_mul(multiplier)?)`, for the number and the unit that are
read. -/
def addComponent (total : Nat) (digits unit : Text) : Option Nat := do
  let number ← parseUnsigned (2 ^ 64) digits
  let factor ← multiplier unit
  let product ← checked (number * factor)
  checked (total + product)

/-- The loop of `parse_duration_ns`. -/
def parseDurationFrom (value : Text) (i total : Nat) : Run (Option Nat) :=
  if i < (utf8 value).length then do
    let start ← skipWhile isAsciiWhitespace (utf8 value) i
    if (utf8 value).length ≤ start.1 then pure (some total)
    else do
      let unitStart ← skipWhile isAsciiDigit (utf8 value) start.1
      if start.1 = unitStart.1 then pure none
      else do
        let digits ← sliceText value start.1 unitStart.1
        let stop ← skipWhile isAsciiAlphabetic (utf8 value) unitStart.1
        let unit ← sliceText value unitStart.1 stop.1
        match addComponent total digits unit with
        | none => pure none
        | some total => parseDurationFrom value stop.1 total
  else pure (some total)
termination_by (utf8 value).length - i
decreasing_by
  have := start.2
  have := unitStart.2
  have := stop.2
  omega

def parseDurationNs (value : Text) : Run (Option Nat) := parseDurationFrom value 0 0

end Parsing

section Grammar

inductive DurationUnit
  | h | m | s | ms | us | ns

def DurationUnit.text : DurationUnit → Text
  | h => ['h']
  | m => ['m']
  | s => ['s']
  | ms => ['m', 's']
  | us => ['u', 's']
  | ns => ['n', 's']

def DurationUnit.nanoseconds : DurationUnit → Nat
  | h => 60 * 60 * 10 ^ 9
  | m => 60 * 10 ^ 9
  | s => 10 ^ 9
  | ms => 10 ^ 6
  | us => 10 ^ 3
  | ns => 1

abbrev IsBlank (char : Char) : Prop := OneByte isAsciiWhitespace char

/-- Digits and a unit, with the white space in front of them. -/
structure Component where
  blanks : Text
  digits : Text
  unit : DurationUnit
  blank : ∀ char ∈ blanks, IsBlank char
  digit : ∀ char ∈ digits, char.isDigit = true
  nonempty : digits ≠ []

def Component.text (component : Component) : Text :=
  component.blanks ++ (component.digits ++ component.unit.text)

def Component.nanoseconds (component : Component) : Nat :=
  Nat.ofDigitChars 10 component.digits 0 * component.unit.nanoseconds

/-- Components one after the other, perhaps none, and white space after the last one. -/
structure Duration where
  components : List Component
  tail : Text
  blank : ∀ char ∈ tail, IsBlank char

def Duration.text (duration : Duration) : Text :=
  duration.components.flatMap Component.text ++ duration.tail

def Duration.nanoseconds (duration : Duration) : Nat :=
  (duration.components.map Component.nanoseconds).sum

def Duration.Fits (duration : Duration) : Prop :=
  (∀ component ∈ duration.components, component.nanoseconds < 2 ^ 64) ∧
    duration.nanoseconds < 2 ^ 64

instance (duration : Duration) : Decidable duration.Fits :=
  inferInstanceAs (Decidable (_ ∧ _))

end Grammar

section Scanning

variable {p : UInt8 → Bool} {text front middle rest : Text}

theorem length_utf8 (text : Text) : (utf8 text).length = byteLength text := by
  induction text with
  | nil => rfl
  | cons char text ih =>
      rw [utf8_cons, List.length_append, ih, String.length_utf8EncodeChar, byteLength_cons]

theorem all_utf8 (wanted : ∀ char ∈ text, OneByte p char) : ∀ byte ∈ utf8 text, p byte = true := by
  intro byte member
  obtain ⟨char, held, encoded⟩ := List.mem_flatMap.mp member
  obtain ⟨ascii, isWanted⟩ := wanted char held
  rw [utf8EncodeChar_ascii ascii, List.mem_singleton] at encoded
  rw [encoded]
  exact isWanted

/-- A set of ASCII bytes. -/
def AsciiOnly (p : UInt8 → Bool) : Prop := ∀ byte : UInt8, 128 ≤ byte.toNat → p byte = false

theorem head_utf8 (ascii : AsciiOnly p) (stops : ∀ char ∈ text.head?, ¬ OneByte p char) :
    ∀ byte ∈ (utf8 text).head?, p byte = false := by
  cases text with
  | nil =>
      intro byte member
      cases member
  | cons char text =>
      have unwanted : ¬ OneByte p char := stops char rfl
      have nonempty : String.utf8EncodeChar char ≠ [] := by
        rw [Ne, ← List.length_eq_zero_iff, String.length_utf8EncodeChar]
        exact Nat.ne_of_gt char.utf8Size_pos
      intro byte member
      rw [utf8_cons, List.head?_append_of_ne_nil _ nonempty] at member
      have held : byte ∈ String.utf8EncodeChar char := List.mem_of_mem_head? member
      by_cases small : char.toNat < 128
      · rw [utf8EncodeChar_ascii small, List.mem_singleton] at held
        rw [held]
        exact Bool.eq_false_iff.mpr fun isWanted => unwanted ⟨small, isWanted⟩
      · exact ascii byte (toNat_ge_of_mem_utf8EncodeChar (Nat.not_lt.mp small) held)

/-- A scan over a text stops at the first character that is not wanted. -/
theorem skipWhile_text {i : Nat} (starts : i = byteLength front)
    (shape : text = front ++ (middle ++ rest)) (ascii : AsciiOnly p)
    (wanted : ∀ char ∈ middle, OneByte p char) (stops : ∀ char ∈ rest.head?, ¬ OneByte p char) :
    ∃ last, skipWhile p (utf8 text) i = pure last ∧ last.1 = byteLength (front ++ middle) := by
  have offset : i = (utf8 front).length := starts.trans (length_utf8 front).symm
  obtain ⟨last, scanned, stop⟩ := skipWhile_append offset (all_utf8 wanted) (head_utf8 ascii stops)
  refine ⟨last, ?_, ?_⟩
  · rw [shape, utf8_append, utf8_append]
    exact scanned
  · rw [stop, ← length_utf8, utf8_append]

theorem isDigit_iff (char : Char) : char.isDigit = true ↔ OneByte isAsciiDigit char := by
  rw [isDigit_iff_toNat, OneByte]
  constructor
  · rintro ⟨low, high⟩
    refine ⟨by omega, ?_⟩
    have value : (UInt8.ofNat char.toNat).toNat = char.toNat := by
      rw [UInt8.toNat_ofNat']
      omega
    simp only [isAsciiDigit, Bool.and_eq_true, decide_eq_true_eq, UInt8.le_iff_toNat_le, value]
    exact ⟨low, high⟩
  · rintro ⟨small, held⟩
    have value : (UInt8.ofNat char.toNat).toNat = char.toNat := by
      rw [UInt8.toNat_ofNat']
      omega
    simp only [isAsciiDigit, Bool.and_eq_true, decide_eq_true_eq, UInt8.le_iff_toNat_le,
      value] at held
    exact held

theorem asciiOnly_whitespace : AsciiOnly isAsciiWhitespace := by
  intro byte high
  simp only [isAsciiWhitespace, Bool.or_eq_false_iff, beq_eq_false_iff_ne]
  refine ⟨⟨⟨⟨?_, ?_⟩, ?_⟩, ?_⟩, ?_⟩ <;> rintro rfl <;> exact absurd high (by decide)

theorem asciiOnly_digit : AsciiOnly isAsciiDigit := by
  intro byte high
  have beyond : ¬ byte ≤ 57 := by
    rw [UInt8.le_iff_toNat_le]
    exact Nat.not_le.mpr (Nat.lt_of_lt_of_le (by decide) high)
  simp [isAsciiDigit, beyond]

theorem asciiOnly_alphabetic : AsciiOnly isAsciiAlphabetic := by
  intro byte high
  have overUpper : ¬ byte ≤ 90 := by
    rw [UInt8.le_iff_toNat_le]
    exact Nat.not_le.mpr (Nat.lt_of_lt_of_le (by decide) high)
  have overLower : ¬ byte ≤ 122 := by
    rw [UInt8.le_iff_toNat_le]
    exact Nat.not_le.mpr (Nat.lt_of_lt_of_le (by decide) high)
  simp [isAsciiAlphabetic, overUpper, overLower]

end Scanning

section Steps

variable {value front blanks digits letters later : Text}

/-- One pass of the loop, over a text that is cut where its scans stop. -/
theorem parseDurationFrom_read
    (shape : value = front ++ (blanks ++ (digits ++ (letters ++ later))))
    (blank : ∀ char ∈ blanks, IsBlank char)
    (solid : ∀ char ∈ (digits ++ (letters ++ later)).head?, ¬ IsBlank char)
    (digit : ∀ char ∈ digits, char.isDigit = true) (ends : EndsNumber (letters ++ later))
    (letter : ∀ char ∈ letters, OneByte isAsciiAlphabetic char)
    (stops : ∀ char ∈ later.head?, ¬ OneByte isAsciiAlphabetic char) (total : Nat) :
    parseDurationFrom value (byteLength front) total =
      if digits = [] then pure (if letters ++ later = [] then some total else none)
      else
        match addComponent total digits letters with
        | none => pure none
        | some total =>
            parseDurationFrom value (byteLength (front ++ blanks ++ digits ++ letters)) total := by
  have atDigits : value = front ++ blanks ++ (digits ++ (letters ++ later)) := by simp [shape]
  have atUnit : value = front ++ blanks ++ digits ++ (letters ++ later) := by simp [shape]
  obtain ⟨start, first, startAt⟩ := skipWhile_text rfl shape asciiOnly_whitespace blank solid
  obtain ⟨unitStart, second, unitAt⟩ := skipWhile_text startAt atDigits asciiOnly_digit
    (fun char member => (isDigit_iff char).mp (digit char member))
    (fun char member => mt (isDigit_iff char).mpr (by simp [ends char member]))
  obtain ⟨stop, third, stopAt⟩ := skipWhile_text unitAt atUnit asciiOnly_alphabetic letter stops
  have number : sliceText value start.1 unitStart.1 = pure digits := by
    rw [unitAt, startAt, atDigits]
    exact sliceText_append ..
  have unit : sliceText value unitStart.1 stop.1 = pure letters := by
    rw [stopAt, unitAt, atUnit]
    exact sliceText_append ..
  have beyond : (utf8 value).length ≤ start.1 ↔ digits ++ (letters ++ later) = [] := by
    rw [length_utf8, startAt, atDigits, byteLength_append, ← byteLength_eq_zero_iff]
    omega
  have same : start.1 = unitStart.1 ↔ digits = [] := by
    rw [unitAt, startAt, byteLength_append _ digits, ← byteLength_eq_zero_iff]
    omega
  by_cases inside : byteLength front < (utf8 value).length
  · rw [parseDurationFrom, if_pos inside, first, Run.pure_bind]
    by_cases noDigits : digits = []
    · rw [if_pos noDigits]
      rw [noDigits, List.nil_append] at beyond
      by_cases nothing : letters ++ later = []
      · rw [if_pos (beyond.mpr nothing), if_pos nothing]
      · rw [if_neg (mt beyond.mp nothing), second, Run.pure_bind, if_pos (same.mpr noDigits),
          if_neg nothing]
    · have some_ : ¬ digits ++ (letters ++ later) = [] := by simp [noDigits]
      rw [if_neg noDigits, if_neg (mt beyond.mp some_), second, Run.pure_bind,
        if_neg (mt same.mp noDigits), number, Run.pure_bind, third, Run.pure_bind, unit,
        Run.pure_bind, stopAt]
  · have ended : blanks ++ (digits ++ (letters ++ later)) = [] := by
      rw [length_utf8, shape, byteLength_append, Nat.not_lt] at inside
      exact byteLength_eq_zero_iff.mp (by omega)
    obtain ⟨-, noDigits, noLetters, nothing⟩ : blanks = [] ∧ digits = [] ∧ letters = [] ∧
        later = [] := by simpa using ended
    rw [parseDurationFrom, if_neg inside, if_pos noDigits, noLetters, nothing, List.append_nil,
      if_pos rfl]

end Steps

section Units

theorem multiplier_text (unit : DurationUnit) : multiplier unit.text = some unit.nanoseconds := by
  cases unit <;> decide

/-- Only the texts of units have a multiplier. -/
theorem multiplier_spec {text : Text} {factor : Nat} (held : multiplier text = some factor) :
    ∃ unit : DurationUnit, unit.text = text := by
  obtain ⟨entry, found, -⟩ := Option.map_eq_some_iff.mp held
  have isText : entry.1.toList = text := by simpa using List.find?_some found
  have member := List.mem_of_find?_eq_some found
  simp only [multipliers, List.mem_cons, List.not_mem_nil, or_false] at member
  rw [← isText]
  obtain rfl | rfl | rfl | rfl | rfl | rfl := member
  · exact ⟨.h, rfl⟩
  · exact ⟨.m, rfl⟩
  · exact ⟨.s, rfl⟩
  · exact ⟨.ms, rfl⟩
  · exact ⟨.us, rfl⟩
  · exact ⟨.ns, rfl⟩

theorem nanoseconds_pos (unit : DurationUnit) : 0 < unit.nanoseconds := by
  cases unit <;> decide

theorem unit_letters (unit : DurationUnit) :
    ∀ char ∈ unit.text, OneByte isAsciiAlphabetic char := by
  cases unit <;> simp only [DurationUnit.text, List.forall_mem_cons, List.not_mem_nil,
    false_imp_iff, implies_true, and_true] <;> decide

theorem unit_endsNumber (unit : DurationUnit) (rest : Text) : EndsNumber (unit.text ++ rest) := by
  cases unit <;> exact endsNumber_cons (by decide)

/-- A component is added when the new total fits: its number and its value then fit too. -/
theorem addComponent_eq (total : Nat) (component : Component) :
    addComponent total component.digits component.unit.text =
      checked (total + component.nanoseconds) := by
  have positive := nanoseconds_pos component.unit
  have number := @parseUnsigned_of_digits (2 ^ 64) _ component.nonempty component.digit
  rw [addComponent, number, Component.nanoseconds]
  generalize Nat.ofDigitChars 10 component.digits 0 = n
  have le : n ≤ n * component.unit.nanoseconds := Nat.le_mul_of_pos_right n positive
  have tooLarge {a b : Nat} (less : a ≤ b) (beyond : ¬ a < 2 ^ 64) : checked b = none :=
    if_neg (by omega)
  by_cases fits : n < 2 ^ 64
  · rw [if_pos fits]
    by_cases product : n * component.unit.nanoseconds < 2 ^ 64
    · have kept : checked (n * component.unit.nanoseconds) = some _ := if_pos product
      simp only [Option.bind_eq_bind, Option.bind_some, multiplier_text, kept]
    · have lost : checked (n * component.unit.nanoseconds) = none := if_neg product
      rw [tooLarge (Nat.le_add_left _ total) product]
      simp only [Option.bind_eq_bind, Option.bind_some, multiplier_text, lost, Option.bind_none]
  · rw [if_neg fits, tooLarge (Nat.le_trans le (Nat.le_add_left _ total)) fits]
    rfl

end Units

section Exactness

variable {front tail : Text}

theorem toNat_of_isBlank {char : Char} (blank : IsBlank char) : char.toNat ≤ 32 := by
  obtain ⟨small, held⟩ := blank
  have value : (UInt8.ofNat char.toNat).toNat = char.toNat := by
    rw [UInt8.toNat_ofNat']
    omega
  simp only [isAsciiWhitespace, Bool.or_eq_true, beq_iff_eq] at held
  obtain (((same | same) | same) | same) | same := held <;> rw [← value, same] <;> decide

theorem toNat_of_alphabetic {char : Char} (letter : OneByte isAsciiAlphabetic char) :
    65 ≤ char.toNat := by
  obtain ⟨small, held⟩ := letter
  have value : (UInt8.ofNat char.toNat).toNat = char.toNat := by
    rw [UInt8.toNat_ofNat']
    omega
  simp only [isAsciiAlphabetic, Bool.or_eq_true, Bool.and_eq_true, decide_eq_true_eq,
    UInt8.le_iff_toNat_le, value] at held
  obtain ⟨low, -⟩ | ⟨low, -⟩ := held
  · exact low
  · exact Nat.le_trans (by decide) low

theorem not_isBlank_of_isDigit {char : Char} (digit : char.isDigit = true) : ¬ IsBlank char := by
  intro blank
  have low := toNat_of_isBlank blank
  have high := isDigit_iff_toNat.mp digit
  omega

theorem not_alphabetic {char : Char} (other : IsBlank char ∨ char.isDigit = true) :
    ¬ OneByte isAsciiAlphabetic char := by
  intro letter
  have high := toNat_of_alphabetic letter
  obtain blank | digit := other
  · have low := toNat_of_isBlank blank
    omega
  · have low := isDigit_iff_toNat.mp digit
    omega

/-- What follows a component starts with white space or a digit. -/
theorem head_written (components : List Component) (blank : ∀ char ∈ tail, IsBlank char) :
    ∀ char ∈ (components.flatMap Component.text ++ tail).head?,
      IsBlank char ∨ char.isDigit = true := by
  intro char first
  cases components with
  | nil => exact .inl (blank char (List.mem_of_mem_head? first))
  | cons component components =>
      obtain ⟨blanks, digits, unit, areBlank, areDigits, nonempty⟩ := component
      cases blanks with
      | cons other blanks =>
          cases first
          exact .inl (areBlank char List.mem_cons_self)
      | nil =>
          cases digits with
          | nil => exact absurd rfl nonempty
          | cons digit digits =>
              cases first
              exact .inr (areDigits char List.mem_cons_self)

/-- One pass of the loop over a component, whatever may follow it. -/
theorem parseDurationFrom_component {value later : Text} (component : Component)
    (shape : value = front ++ (component.text ++ later))
    (stops : ∀ char ∈ later.head?, IsBlank char ∨ char.isDigit = true) (total : Nat) :
    parseDurationFrom value (byteLength front) total =
      match checked (total + component.nanoseconds) with
      | none => pure none
      | some total => parseDurationFrom value (byteLength (front ++ component.text)) total := by
  have cut : value = front ++ (component.blanks ++ (component.digits ++
      (component.unit.text ++ later))) := by
    simp [shape, Component.text]
  have solid : ∀ char ∈ (component.digits ++ (component.unit.text ++ later)).head?,
      ¬ IsBlank char := by
    intro char first
    rw [List.head?_append_of_ne_nil _ component.nonempty] at first
    exact not_isBlank_of_isDigit (component.digit char (List.mem_of_mem_head? first))
  have read := parseDurationFrom_read cut component.blank solid component.digit
    (unit_endsNumber component.unit later) (unit_letters component.unit)
    (fun char first => not_alphabetic (stops char first)) total
  have after : front ++ component.blanks ++ component.digits ++ component.unit.text =
      front ++ component.text := by simp [Component.text]
  rw [read, if_neg component.nonempty, addComponent_eq, after]

/-- The induction is on the components that are still to be read. -/
theorem parseDurationFrom_components {value : Text} (components : List Component)
    (blank : ∀ char ∈ tail, IsBlank char)
    (shape : value = front ++ (components.flatMap Component.text ++ tail)) {total : Nat}
    (small : total < 2 ^ 64) :
    parseDurationFrom value (byteLength front) total =
      pure (checked (total + (components.map Component.nanoseconds).sum)) := by
  induction components generalizing front total with
  | nil =>
      have cut : value = front ++ (tail ++ ([] ++ ([] ++ []))) := by simp [shape]
      have read := parseDurationFrom_read cut blank (by simp) (by simp) endsNumber_nil (by simp)
        (by simp) total
      have kept : checked (total + 0) = some total := if_pos small
      rw [read, if_pos rfl, List.append_nil, if_pos rfl, List.map_nil, List.sum_nil, kept]
  | cons component components ih =>
      have cut : value = front ++ (component.text ++
          (components.flatMap Component.text ++ tail)) := by
        simp [shape]
      have next : value = (front ++ component.text) ++
          (components.flatMap Component.text ++ tail) := by
        simp [shape]
      rw [parseDurationFrom_component component cut (head_written components blank) total,
        List.map_cons, List.sum_cons, ← Nat.add_assoc]
      by_cases fits : total + component.nanoseconds < 2 ^ 64
      · have kept : checked (total + component.nanoseconds) = some _ := if_pos fits
        rw [kept]
        exact ih next fits
      · have lost : checked (total + component.nanoseconds) = none := if_neg fits
        have beyond : ¬ total + component.nanoseconds +
            (components.map Component.nanoseconds).sum < 2 ^ 64 := by omega
        rw [lost, checked, if_neg beyond]

/-- Every component fits when the sum does. -/
theorem fits_iff (duration : Duration) : duration.Fits ↔ duration.nanoseconds < 2 ^ 64 := by
  constructor
  · exact And.right
  · intro small
    refine ⟨fun component member => ?_, small⟩
    have le : component.nanoseconds ≤ duration.nanoseconds :=
      List.le_sum_of_mem (List.mem_map_of_mem member)
    omega

end Exactness

section Rejection

/-- A text is cut where a scan stops. -/
theorem scan_cut (P : Char → Prop) [DecidablePred P] (text : Text) :
    ∃ front rest, text = front ++ rest ∧ (∀ char ∈ front, P char) ∧
      ∀ char ∈ rest.head?, ¬ P char := by
  refine ⟨text.takeWhile (P ·), text.dropWhile (P ·), List.takeWhile_append_dropWhile.symm, ?_, ?_⟩
  · intro char member
    simpa using List.all_eq_true.mp List.all_takeWhile char member
  · intro char first
    have stops := List.head?_dropWhile_not (fun char => decide (P char)) text
    rw [Option.mem_def.mp first] at stops
    simpa using stops

/-- The loop ends without a fault, and takes only what is left of a duration; the induction is on
the length of what is left. -/
theorem parseDurationFrom_sound {value : Text} (room : Nat) {front rest : Text}
    (shape : value = front ++ rest) (short : rest.length ≤ room) (total : Nat) :
    ∃ result, parseDurationFrom value (byteLength front) total = pure result ∧
      (result.isSome → ∃ duration : Duration, duration.text = rest) := by
  induction room generalizing front rest total with
  | zero =>
      obtain rfl : rest = [] := List.length_eq_zero_iff.mp (Nat.le_zero.mp short)
      have cut : value = front ++ ([] ++ ([] ++ ([] ++ []))) := shape
      have read := parseDurationFrom_read cut (by simp) (by simp) (by simp) endsNumber_nil
        (by simp) (by simp) total
      exact ⟨some total, read, fun _ => ⟨⟨[], [], by simp⟩, rfl⟩⟩
  | succ room ih =>
      obtain ⟨blanks, afterBlanks, cutBlanks, blank, solid⟩ := scan_cut IsBlank rest
      obtain ⟨digits, afterDigits, cutDigits, digit, ends⟩ :=
        scan_cut (fun char => char.isDigit = true) afterBlanks
      obtain ⟨letters, later, cutLetters, letter, stops⟩ :=
        scan_cut (OneByte isAsciiAlphabetic) afterDigits
      subst cutLetters cutDigits cutBlanks
      have endsNumber : EndsNumber (letters ++ later) := by
        intro char first
        simpa using ends char first
      have read := parseDurationFrom_read shape blank solid digit endsNumber letter stops total
      rw [read]
      by_cases noDigits : digits = []
      · rw [if_pos noDigits]
        refine ⟨_, rfl, ?_⟩
        by_cases nothing : letters ++ later = []
        · intro _
          refine ⟨⟨[], blanks, blank⟩, ?_⟩
          rw [nothing, noDigits]
          simp [Duration.text]
        · rw [if_neg nothing]
          intro taken
          cases taken
      · rw [if_neg noDigits]
        cases added : addComponent total digits letters with
        | none =>
            refine ⟨none, rfl, ?_⟩
            intro taken
            cases taken
        | some next =>
            simp only [addComponent, Option.bind_eq_bind, Option.bind_eq_some_iff] at added
            obtain ⟨-, -, factor, held, -⟩ := added
            obtain ⟨unit, isUnit⟩ := multiplier_spec held
            have positive := List.length_pos_iff.mpr noDigits
            have cut : value = (front ++ blanks ++ digits ++ letters) ++ later := by simp [shape]
            obtain ⟨result, ends, known⟩ := ih cut (by
              simp only [List.length_append] at short
              omega) next
            refine ⟨result, ends, fun taken => ?_⟩
            obtain ⟨duration, isLater⟩ := known taken
            refine ⟨⟨⟨blanks, digits, unit, blank, digit, noDigits⟩ :: duration.components,
              duration.tail, duration.blank⟩, ?_⟩
            rw [← isLater, ← isUnit]
            simp [Duration.text, Component.text]

end Rejection

/-- A duration is parsed to its nanoseconds when each component and the sum fit in a `u64`, and to
nothing otherwise; a text that is no duration is rejected; and no text makes the parser fault. -/
theorem parseDurationNs_spec :
    (∀ duration : Duration, parseDurationNs duration.text =
      pure (if duration.Fits then some duration.nanoseconds else none)) ∧
    (∀ value : Text, parseDurationNs value = pure none ∨
      ∃ duration : Duration, duration.text = value) ∧
    ∀ value : Text, ∃ result, parseDurationNs value = pure result := by
  have sound (value : Text) := @parseDurationFrom_sound value value.length [] value rfl
    (Nat.le_refl _) 0
  refine ⟨?_, ?_, ?_⟩
  · intro duration
    have exact_ := parseDurationFrom_components duration.components duration.blank
      (show duration.text = [] ++ _ from rfl) (show 0 < 2 ^ 64 by decide)
    rw [Nat.zero_add] at exact_
    simp only [fits_iff]
    exact exact_
  · intro value
    obtain ⟨result, ends, known⟩ := sound value
    cases result with
    | none => exact .inl ends
    | some total => exact .inr (known rfl)
  · intro value
    obtain ⟨result, ends, -⟩ := sound value
    exact ⟨result, ends⟩

end Boo.Settings.Durations
