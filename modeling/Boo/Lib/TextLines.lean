/- module: Boo/Lib/TextLines
   digest: Texts as lists of characters: lines, trimming, splitting once, decimal numbers. -/

import Mathlib.Data.List.DropRight
import Mathlib.Data.Rat.Floor
import Mathlib.Tactic.Linarith

set_option autoImplicit false
set_option relaxedAutoImplicit false

namespace Boo.Lib.TextLines

abbrev Text := List Char

/-- The characters with the Unicode property `White_Space`. -/
def isWhitespace (char : Char) : Bool :=
  let code := char.toNat
  (9 ≤ code && code ≤ 13) || code == 32 || code == 0x85 || code == 0xa0 || code == 0x1680 ||
    (0x2000 ≤ code && code ≤ 0x200a) || code == 0x2028 || code == 0x2029 || code == 0x202f ||
    code == 0x205f || code == 0x3000

def trimEnd (text : Text) : Text := text.rdropWhile isWhitespace

def trim (text : Text) : Text := (trimEnd text).dropWhile isWhitespace

/-- The pieces between line feeds, without an empty last one. A carriage return before a line
feed stays, for the callers trim their lines. -/
def lines : Text → List Text
  | [] => []
  | char :: rest =>
      if char = '\n' then [] :: lines rest
      else
        match lines rest with
        | [] => [[char]]
        | line :: others => (char :: line) :: others

def splitOnce (separator : Char) : Text → Option (Text × Text)
  | [] => none
  | char :: rest =>
      if char = separator then some ([], rest)
      else (splitOnce separator rest).map fun (before, after) => (char :: before, after)

/-- `strip_prefix`. -/
def stripPrefix (front text : Text) : Option Text :=
  if front <+: text then some (text.drop front.length) else none

/-- `split_whitespace`. -/
def words : Text → List Text
  | [] => []
  | char :: rest =>
      if isWhitespace char then words rest
      else if rest.head?.all isWhitespace then [char] :: words rest
      else
        match words rest with
        | [] => [[char]]
        | word :: others => (char :: word) :: others

def stripSuffix (last : Char) (text : Text) : Option Text :=
  if text.getLast? = some last then some text.dropLast else none

section Trimming

variable {text front back : Text}

theorem trimEnd_append_of_solid {last : Char} (solid : isWhitespace last = false) :
    trimEnd (front ++ [last] ++ back) = front ++ [last] ++ trimEnd back := by
  simp only [trimEnd, List.rdropWhile, List.reverse_append, List.reverse_singleton,
    List.dropWhile_append]
  split
  · rename_i blank
    rw [List.isEmpty_iff.mp blank]
    simp [solid]
  · simp

theorem trim_trimEnd : trim (trimEnd text) = trim text := by
  rw [trim, trim, trimEnd, trimEnd, List.rdropWhile_idempotent]

theorem trim_cons_blank {char : Char} (blank : isWhitespace char = true) :
    trim (char :: text) = trim text := by
  have split : trimEnd (char :: text) = if trimEnd text = [] then [] else char :: trimEnd text := by
    simp only [trimEnd, List.rdropWhile, List.reverse_cons, List.dropWhile_append,
      List.isEmpty_iff, List.reverse_eq_nil_iff]
    split
    · simp [blank]
    · simp
  rw [trim, split, trim]
  split
  · rename_i empty
    rw [empty]
  · rw [List.dropWhile_cons_of_pos blank]

theorem trim_append_blank {char : Char} (blank : isWhitespace char = true) :
    trim (text ++ [char]) = trim text := by
  rw [trim, trim, trimEnd, List.rdropWhile_concat_pos _ _ _ blank, trimEnd]

theorem trim_eq_nil_iff : trim text = [] ↔ ∀ char ∈ text, isWhitespace char = true := by
  rw [trim, List.dropWhile_eq_nil_iff]
  constructor
  · intro blank
    by_cases empty : trimEnd text = []
    · exact List.rdropWhile_eq_nil_iff.mp empty
    · exact absurd (blank _ (List.getLast_mem empty)) (List.rdropWhile_last_not _ _ empty)
  · intro blank char member
    exact blank char ((List.rdropWhile_prefix _ _).subset member)

theorem trim_eq_self (solid : ∀ char ∈ text, isWhitespace char = false) : trim text = text := by
  have ends : trimEnd text = text := by
    rw [trimEnd, List.rdropWhile_eq_self_iff]
    intro nonempty
    simp [solid _ (List.getLast_mem nonempty)]
  rw [trim, ends]
  cases text with
  | nil => rfl
  | cons char text =>
      exact List.dropWhile_cons_of_neg (by simp [solid char List.mem_cons_self])

theorem trim_of_ends (first : ∀ char ∈ text.head?, isWhitespace char = false)
    (last : ∀ char ∈ text.getLast?, isWhitespace char = false) : trim text = text := by
  have ends : trimEnd text = text := by
    rw [trimEnd, List.rdropWhile_eq_self_iff]
    intro nonempty
    simp [last _ (List.getLast?_eq_some_getLast nonempty)]
  rw [trim, ends, List.dropWhile_eq_self_iff]
  intro pos
  simp [first _ (List.head?_eq_getElem? ▸ List.getElem?_eq_getElem pos)]

theorem mem_trim {char : Char} (member : char ∈ text) (solid : isWhitespace char = false) :
    char ∈ trim text := by
  have stays {other : Text} (held : char ∈ other) : char ∈ other.dropWhile isWhitespace := by
    rw [← List.takeWhile_append_dropWhile (p := isWhitespace) (l := other)] at held
    refine (List.mem_append.mp held).resolve_left ?_
    intro early
    simp [List.mem_takeWhile_imp early] at solid
  exact stays (List.mem_reverse.mpr (stays (List.mem_reverse.mpr member)))

end Trimming

section Splitting

theorem splitOnce_append {separator : Char} {before : Text} (absent : separator ∉ before)
    (after : Text) : splitOnce separator (before ++ separator :: after) = some (before, after) := by
  induction before with
  | nil => simp [splitOnce]
  | cons char before ih =>
      rw [List.mem_cons, not_or] at absent
      rw [List.cons_append, splitOnce, if_neg (Ne.symm absent.1), ih absent.2, Option.map_some]

theorem splitOnce_of_absent {separator : Char} {text : Text} (absent : separator ∉ text) :
    splitOnce separator text = none := by
  induction text with
  | nil => rfl
  | cons char rest ih =>
      rw [List.mem_cons, not_or] at absent
      rw [splitOnce, if_neg (Ne.symm absent.1), ih absent.2, Option.map_none]

theorem splitOnce_of_mem {separator : Char} {text : Text} (member : separator ∈ text) :
    ∃ before after, splitOnce separator text = some (before, after) := by
  obtain ⟨before, after, rfl, absent⟩ := List.eq_append_cons_of_mem member
  exact ⟨before, after, splitOnce_append absent after⟩

theorem splitOnce_eq_some {separator : Char} {text before after : Text}
    (cut : splitOnce separator text = some (before, after)) :
    text = before ++ separator :: after := by
  by_cases member : separator ∈ text
  · obtain ⟨front, back, rfl, absent⟩ := List.eq_append_cons_of_mem member
    rw [splitOnce_append absent, Option.some.injEq, Prod.mk.injEq] at cut
    rw [cut.1, cut.2]
  · rw [splitOnce_of_absent member] at cut
    cases cut

theorem stripPrefix_append (front rest : Text) : stripPrefix front (front ++ rest) = some rest := by
  simp [stripPrefix]

theorem stripPrefix_cons_self (char : Char) (rest : Text) :
    stripPrefix [char] (char :: rest) = some rest := stripPrefix_append [char] rest

theorem stripPrefix_cons_ne {char other : Char} (differs : char ≠ other) (front rest : Text) :
    stripPrefix (char :: front) (other :: rest) = none := by
  simp [stripPrefix, differs]

theorem stripPrefix_eq_some {front text rest : Text}
    (stripped : stripPrefix front text = some rest) : text = front ++ rest := by
  rw [stripPrefix] at stripped
  split at stripped
  · rename_i isFront
    obtain ⟨after, rfl⟩ := isFront
    rw [List.drop_left, Option.some.injEq] at stripped
    rw [stripped]
  · cases stripped

theorem words_solid {word : Text} (nonempty : word ≠ [])
    (solid : ∀ char ∈ word, isWhitespace char = false) {rest : Text}
    (ends : rest.head?.all isWhitespace = true) : words (word ++ rest) = word :: words rest := by
  induction word with
  | nil => exact absurd rfl nonempty
  | cons char word ih =>
      have here : isWhitespace char = false := solid char List.mem_cons_self
      rw [List.cons_append, words, here]
      cases word with
      | nil => simp [ends]
      | cons next word =>
          have there : isWhitespace next = false := solid next (by simp)
          have later := ih (by simp) fun other member => solid other (List.mem_cons_of_mem _ member)
          rw [later]
          simp [there]

theorem stripSuffix_append (text : Text) (last : Char) :
    stripSuffix last (text ++ [last]) = some text := by
  rw [stripSuffix, List.getLast?_concat, if_pos rfl, List.dropLast_concat]

theorem lines_append {line : Text} (unbroken : '\n' ∉ line) (rest : Text) :
    lines (line ++ '\n' :: rest) = line :: lines rest := by
  induction line with
  | nil => rfl
  | cons char line ih =>
      rw [List.mem_cons, not_or] at unbroken
      rw [List.cons_append, lines, if_neg (Ne.symm unbroken.1), ih unbroken.2]

end Splitting

section Decimals

def splitSign : Text → Bool × Text
  | '-' :: rest => (true, rest)
  | '+' :: rest => (false, rest)
  | rest => (false, rest)

def parseExponent : Text → Option ℤ
  | [] => some 0
  | char :: rest =>
      let (negative, digits) := splitSign rest
      if (char = 'e' ∨ char = 'E') ∧ digits ≠ [] ∧ digits.all Char.isDigit then
        let magnitude : ℤ := Nat.ofDigitChars 10 digits 0
        some (if negative then -magnitude else magnitude)
      else none

/-- A decimal number with an optional sign, fraction and exponent. Infinities and NaN are not
among the numbers here. -/
def parseDecimal (text : Text) : Option ℚ :=
  let (negative, unsigned) := splitSign text
  let whole := unsigned.takeWhile Char.isDigit
  let (fraction, rest) :=
    match unsigned.dropWhile Char.isDigit with
    | '.' :: more => (more.takeWhile Char.isDigit, more.dropWhile Char.isDigit)
    | other => ([], other)
  if whole = [] ∧ fraction = [] then none
  else
    (parseExponent rest).map fun exponent =>
      let magnitude := (Nat.ofDigitChars 10 (whole ++ fraction) 0 : ℚ) *
        10 ^ (exponent - (fraction.length : ℤ))
      if negative then -magnitude else magnitude

/-- The nearest whole number, the even one of two. -/
def roundHalfEven (value : ℚ) : ℕ :=
  let whole := value.floor.toNat
  let part := value - whole
  if part < 1 / 2 then whole else if 1 / 2 < part then whole + 1 else whole + whole % 2

/-- A number without decimals, with its sign. -/
def formatWhole (value : ℚ) : Text :=
  if value < 0 then '-' :: Nat.toDigits 10 (roundHalfEven (-value))
  else Nat.toDigits 10 (roundHalfEven value)

def roundWhole (value : ℚ) : ℚ :=
  if value < 0 then -(roundHalfEven (-value) : ℚ) else (roundHalfEven value : ℚ)

/-- A number lies between its whole part and the next one. -/
theorem floor_bounds {value : ℚ} (sign : 0 ≤ value) :
    (value.floor.toNat : ℚ) ≤ value ∧ value < value.floor.toNat + 1 := by
  have whole : value.floor.toNat = ⌊value⌋₊ := Int.floor_toNat value
  rw [whole]
  exact ⟨Nat.floor_le sign, Nat.lt_floor_add_one value⟩

/-- Rounding to an even number takes the tie from below. -/
theorem le_roundHalfEven_iff {value : ℚ} (sign : 0 ≤ value) {bound : ℕ} (even : bound % 2 = 0) :
    bound ≤ roundHalfEven value ↔ (bound : ℚ) - 1 / 2 ≤ value := by
  obtain ⟨below, above⟩ := floor_bounds sign
  rw [roundHalfEven]
  generalize value.floor.toNat = whole at below above ⊢
  split_ifs with low high
  · constructor
    · intro reached
      have : (bound : ℚ) ≤ whole := by exact_mod_cast reached
      linarith
    · intro near
      by_contra short
      have : (whole : ℚ) + 1 ≤ bound := by exact_mod_cast Nat.lt_of_not_le short
      linarith
  · constructor
    · intro reached
      have : (bound : ℚ) ≤ whole + 1 := by exact_mod_cast reached
      linarith
    · intro near
      by_contra short
      have : (whole : ℚ) + 1 + 1 ≤ bound := by exact_mod_cast Nat.lt_of_not_le short
      linarith
  · have tie : value = whole + 1 / 2 := by linarith
    have atMost : (bound : ℚ) - 1 / 2 ≤ value ↔ bound ≤ whole + 1 := by
      rw [tie, sub_le_iff_le_add, add_assoc, add_halves]
      exact_mod_cast Iff.rfl
    rw [atMost]
    omega

/-- Rounding to an even number takes the tie from above. -/
theorem roundHalfEven_le_iff {value : ℚ} (sign : 0 ≤ value) {bound : ℕ} (even : bound % 2 = 0) :
    roundHalfEven value ≤ bound ↔ value ≤ (bound : ℚ) + 1 / 2 := by
  obtain ⟨below, above⟩ := floor_bounds sign
  rw [roundHalfEven]
  generalize value.floor.toNat = whole at below above ⊢
  split_ifs with low high
  · constructor
    · intro reached
      have : (whole : ℚ) ≤ bound := by exact_mod_cast reached
      linarith
    · intro near
      by_contra long
      have : (bound : ℚ) + 1 ≤ whole := by exact_mod_cast Nat.lt_of_not_le long
      linarith
  · constructor
    · intro reached
      have : (whole : ℚ) + 1 ≤ bound := by exact_mod_cast reached
      linarith
    · intro near
      by_contra long
      have : (bound : ℚ) ≤ whole := by exact_mod_cast Nat.le_of_lt_succ (Nat.lt_of_not_le long)
      linarith
  · have tie : value = whole + 1 / 2 := by linarith
    have atMost : value ≤ (bound : ℚ) + 1 / 2 ↔ whole ≤ bound := by
      rw [tie, add_le_add_iff_right]
      exact_mod_cast Iff.rfl
    rw [atMost]
    omega

theorem roundHalfEven_natCast (whole : ℕ) : roundHalfEven (whole : ℚ) = whole := by
  have floor : (whole : ℚ).floor.toNat = whole := by
    have cast : (whole : ℚ).floor.toNat = ⌊(whole : ℚ)⌋₊ := Int.floor_toNat (whole : ℚ)
    rw [cast, Nat.floor_natCast]
  simp [roundHalfEven, floor]

theorem splitSign_toDigits (n : ℕ) :
    splitSign (Nat.toDigits 10 n) = (false, Nat.toDigits 10 n) := by
  cases text : Nat.toDigits 10 n with
  | nil => rfl
  | cons char rest =>
      have digit : char.isDigit = true :=
        Nat.isDigit_of_mem_toDigits (by decide) (by decide) (text ▸ List.mem_cons_self)
      unfold splitSign
      split
      · rename_i same
        cases same
        exact absurd digit (by decide)
      · rename_i same
        cases same
        exact absurd digit (by decide)
      · rfl

theorem takeWhile_toDigits (n : ℕ) :
    (Nat.toDigits 10 n).takeWhile Char.isDigit = Nat.toDigits 10 n ∧
      (Nat.toDigits 10 n).dropWhile Char.isDigit = [] := by
  have digits : ∀ char ∈ Nat.toDigits 10 n, char.isDigit = true :=
    fun char member => Nat.isDigit_of_mem_toDigits (by decide) (by decide) member
  exact ⟨List.takeWhile_eq_self_iff.mpr digits, List.dropWhile_eq_nil_iff.mpr digits⟩

/-- A number that was written without decimals reads back rounded. -/
theorem parseDecimal_formatWhole (value : ℚ) :
    parseDecimal (formatWhole value) = some (roundWhole value) := by
  have nonempty (n : ℕ) : Nat.toDigits 10 n ≠ [] := Nat.toDigits_ne_nil
  rw [formatWhole, roundWhole]
  split
  · obtain ⟨all, nothing⟩ := takeWhile_toDigits (roundHalfEven (-value))
    simp [parseDecimal, splitSign, all, nothing, parseExponent, nonempty,
      Nat.ofDigitChars_ten_toDigits]
  · obtain ⟨all, nothing⟩ := takeWhile_toDigits (roundHalfEven value)
    simp [parseDecimal, splitSign_toDigits, all, nothing, parseExponent, nonempty,
      Nat.ofDigitChars_ten_toDigits]

end Decimals

end Boo.Lib.TextLines
