/- module: Boo/Settings/Quotes
   digest: Quotes around the values of a configuration, and what taking them off leaves. -/

import Boo.Settings.Parsing

set_option autoImplicit false
set_option relaxedAutoImplicit false

namespace Boo.Settings.Quotes

open Boo.Lib.TextLines
open Boo.Settings.Parsing

inductive Quote
  | double | single
  deriving DecidableEq

def Quote.char : Quote → Char
  | double => doubleQuote
  | single => singleQuote

/-- A text with a quote on either side, or without. -/
def quoted : Option Quote → Text → Text
  | none, text => text
  | some quote, text => quote.char :: (text ++ [quote.char])

variable {text : Text} {char : Char}

theorem Quote.char_solid (quote : Quote) : isWhitespace quote.char = false := by
  cases quote <;> rfl

theorem Quote.char_inj {first second : Quote} (same : first.char = second.char) :
    first = second := by
  cases first <;> cases second <;> first | rfl | exact absurd same (by decide)

@[simp] theorem quoted_none (text : Text) : quoted none text = text := rfl

theorem quoted_ne_nil {quote : Option Quote} (nonempty : text ≠ []) : quoted quote text ≠ [] := by
  cases quote with
  | none => exact nonempty
  | some quote => exact List.cons_ne_nil _ _

@[simp] theorem head?_quoted (quote : Quote) (text : Text) :
    (quoted (some quote) text).head? = some quote.char := rfl

@[simp] theorem getLast?_quoted (quote : Quote) (text : Text) :
    (quoted (some quote) text).getLast? = some quote.char := by
  rw [quoted, ← List.cons_append, List.getLast?_concat]

theorem solid_first_quoted {quote : Option Quote}
    (first : quote = none → ∀ char ∈ text.head?, isWhitespace char = false) :
    ∀ char ∈ (quoted quote text).head?, isWhitespace char = false := by
  cases quote with
  | none => exact first rfl
  | some quote => simp [quote.char_solid]

theorem solid_last_quoted {quote : Option Quote}
    (last : quote = none → ∀ char ∈ text.getLast?, isWhitespace char = false) :
    ∀ char ∈ (quoted quote text).getLast?, isWhitespace char = false := by
  cases quote with
  | none => exact last rfl
  | some quote => simp [quote.char_solid]

theorem trim_quoted {quote : Option Quote}
    (first : quote = none → ∀ char ∈ text.head?, isWhitespace char = false)
    (last : quote = none → ∀ char ∈ text.getLast?, isWhitespace char = false) :
    trim (quoted quote text) = quoted quote text :=
  trim_of_ends (solid_first_quoted first) (solid_last_quoted last)

theorem unquoted_quote (char : Char) (text : Text) :
    unquoted char (char :: (text ++ [char])) = some text := by
  rw [unquoted, stripPrefix_cons_self, Option.bind_some, stripSuffix_append]

theorem unquoted_eq_some {value inner : Text} (found : unquoted char value = some inner) :
    value = char :: (inner ++ [char]) := by
  obtain ⟨rest, front, back⟩ := Option.bind_eq_some_iff.mp found
  rw [stripSuffix] at back
  split at back
  · rename_i ends
    cases back
    rw [stripPrefix_eq_some front, List.dropLast_append_getLast? _ ends]
    rfl
  · cases back

/-- The quotes that stand around a text are taken off, and nothing else. -/
theorem stripQuotes_cases (value : Text) :
    stripQuotes value = value ∨
      ∃ quote inner, value = quoted (some quote) inner ∧ stripQuotes value = inner := by
  rw [stripQuotes]
  cases double : unquoted doubleQuote value with
  | some inner => exact .inr ⟨.double, inner, unquoted_eq_some double, rfl⟩
  | none =>
      cases single : unquoted singleQuote value with
      | some inner => exact .inr ⟨.single, inner, unquoted_eq_some single, rfl⟩
      | none => exact .inl rfl

theorem stripQuotes_eq_self (bare : ∀ quote inner, text ≠ quoted (some quote) inner) :
    stripQuotes text = text := by
  rcases stripQuotes_cases text with same | ⟨quote, inner, shape, -⟩
  · exact same
  · exact absurd shape (bare quote inner)

theorem stripQuotes_singleton (char : Char) : stripQuotes [char] = [char] := by
  apply stripQuotes_eq_self
  intro quote inner same
  have lengths := congrArg List.length same
  simp [quoted] at lengths

theorem mem_stripQuotes (member : char ∈ text) (plain : ∀ quote : Quote, char ≠ quote.char) :
    char ∈ stripQuotes text := by
  rcases stripQuotes_cases text with same | ⟨quote, inner, rfl, stripped⟩
  · rwa [same]
  · rw [stripped]
    simpa [quoted, plain quote] using member

/-- An equals sign is neither trimmed nor taken for a quote. -/
theorem equals_mem_stripped (member : '=' ∈ text) : '=' ∈ stripQuotes (trim text) := by
  apply mem_stripQuotes (mem_trim member (by decide))
  intro quote
  cases quote <;> decide

theorem stripQuotes_quoted (quote : Quote) (text : Text) :
    stripQuotes (quoted (some quote) text) = text := by
  cases quote with
  | double =>
      simp only [stripQuotes, quoted, Quote.char, unquoted_quote, Option.some_or, Option.getD_some]
  | single =>
      have other : unquoted doubleQuote (singleQuote :: (text ++ [singleQuote])) = none := by
        rw [unquoted, stripPrefix_cons_ne (by decide), Option.bind_none]
      simp only [stripQuotes, quoted, Quote.char, other, unquoted_quote, Option.none_or,
        Option.getD_some]

end Boo.Settings.Quotes
