/- module: Boo/Settings/ConfiguredKeys
   digest: Lines that bind one character to an action, from their text to the keys pressed. -/

import Boo.Settings.Keybinds
import Boo.Settings.Quotes

set_option autoImplicit false
set_option relaxedAutoImplicit false

namespace Boo.Settings.ConfiguredKeys

open Boo.Lib.Checked
open Boo.Lib.Numerals
open Boo.Lib.Tables
open Boo.Lib.TextLines
open Boo.Runtime.CopyModeAgreement
open Boo.Runtime.KeyBindings
open Boo.Runtime.Keys
open Boo.Settings.Keybinds
open Boo.Settings.Parsing
open Boo.Settings.Quotes

section Statement

/-- Any character but the control characters. -/
def Printable (char : Char) : Prop :=
  32 ≤ char.toNat ∧ ¬ (127 ≤ char.toNat ∧ char.toNat < 160)

instance (char : Char) : Decidable (Printable char) := inferInstanceAs (Decidable (_ ∧ _))

/-- A line that binds a character to an action, with the quotes that it is written in. -/
structure BindLine where
  trigger : Char
  action : Text
  lineQuote : Option Quote
  triggerQuote : Option Quote
  actionQuote : Option Quote
  printable : Printable trigger
  valid : (parseAction action).isSome

def BindLine.value (line : BindLine) : Text :=
  quoted line.triggerQuote [line.trigger] ++ '=' :: quoted line.actionQuote line.action

def BindLine.text (line : BindLine) : Text :=
  "keybind = ".toList ++ quoted line.lineQuote line.value

/-- From normal mode the prefix key and one of the triggers give the action of the trigger; any
other character behind the prefix key is forwarded. -/
def Honours (bindings : Bindings BindingAction) (prefixKey : PrefixKey)
    (bindLines : List BindLine) : Prop :=
  ∀ (keyChar : Option Char) (mods : Mods) (named : Option NamedKey),
    mods &&& prefixKey.modsMask = prefixKey.modsMask →
    (bindings.handleKey keyChar prefixKey.keycode mods named).2 = .consumed none ∧
    ∀ (char : Char) (keycode : UInt32) (later : Mods) (next : Option NamedKey),
      let pressed :=
        (bindings.handleKey keyChar prefixKey.keycode mods named).1.handleKey (some char) keycode
          later next
      (∀ line ∈ bindLines, line.trigger = char →
        pressed.2 = .consumed (parseAction line.action)) ∧
      ((∀ line ∈ bindLines, line.trigger ≠ char) → pressed.2 = .forward)

def Honoured {F : Type} (platform : Platform) (f32 : Floats F) (content : Text)
    (prefixKey : PrefixKey) (bindLines : List BindLine) : Prop :=
  ∃ config, Config.parse f32 content = pure config ∧
    ∀ order : List (Text × Text), order.Perm config.keybinds.entries →
      Honours (bindingsOf platform config order) prefixKey bindLines

/-- The action is quoted, and the value of the line begins with the same quote. -/
def BindLine.Enclosed (line : BindLine) : Prop :=
  line.lineQuote = none ∧ ∃ quote, line.actionQuote = some quote ∧
    (line.triggerQuote = some quote ∨ line.triggerQuote = none ∧ line.trigger = quote.char)

/-- The trigger is none of the characters that divide an entry, a white space is quoted, and the
quotes at the two ends of the value, if they are the same, belong together. -/
structure BindLine.Clear (line : BindLine) : Prop where
  divides : line.trigger ≠ '=' ∧ line.trigger ≠ '>' ∧ line.trigger ≠ '+'
  blank : isWhitespace line.trigger = true → line.triggerQuote ≠ none
  ends : ¬ line.Enclosed

end Statement

section ActionTexts

/-- Letters, digits and the signs in the names of actions. -/
def isActionChar (char : Char) : Bool :=
  43 ≤ char.toNat && char.toNat ≤ 122 && char.toNat != 61

variable {char : Char} {text : Text} {action : BindingAction}

theorem isActionChar_iff :
    isActionChar char = true ↔ 43 ≤ char.toNat ∧ char.toNat ≤ 122 ∧ char.toNat ≠ 61 := by
  simp [isActionChar, and_assoc]

theorem isWhitespace_of_isActionChar (plain : isActionChar char = true) :
    isWhitespace char = false := by
  obtain ⟨low, high, -⟩ := isActionChar_iff.mp plain
  simp only [isWhitespace, Bool.or_eq_false_iff, Bool.and_eq_false_iff, decide_eq_false_iff_not,
    beq_eq_false_iff_ne]
  omega

theorem ne_quote_of_isActionChar (plain : isActionChar char = true) (quote : Quote) :
    char ≠ quote.char := by
  rintro rfl
  cases quote <;> exact absurd plain (by decide)

theorem isActionChar_of_isDigit (digit : char.isDigit = true) : isActionChar char = true := by
  obtain ⟨low, high⟩ := isDigit_iff_toNat.mp digit
  exact isActionChar_iff.mpr (by omega)

theorem all_of_parseUnsigned {limit n : Nat} (read : parseUnsigned limit text = some n) :
    text.all isActionChar = true := by
  obtain ⟨-, -, digits, -⟩ := parseUnsigned_spec read
  have plain : ∀ char ∈ stripPlus text, isActionChar char = true :=
    fun char member => isActionChar_of_isDigit (digits char member)
  unfold stripPlus at plain
  split at plain
  · exact List.all_eq_true.mpr (List.forall_mem_cons.mpr ⟨by decide, plain⟩)
  · exact List.all_eq_true.mpr plain

theorem all_of_named {V : Type} {table : List (String × V)} {value : V}
    (plain : (table.all fun entry => !entry.1.toList.isEmpty && entry.1.toList.all isActionChar) =
      true) (found : named table text = some value) :
    text ≠ [] ∧ text.all isActionChar = true := by
  obtain ⟨entry, located, -⟩ := Option.map_eq_some_iff.mp found
  have name : entry.1.toList = text := by simpa using List.find?_some located
  have all := List.all_eq_true.mp plain entry (List.mem_of_find?_eq_some located)
  rw [name, Bool.and_eq_true, Bool.not_eq_true', List.isEmpty_eq_false_iff] at all
  exact all

/-- An action is written without blanks, quotes and equals signs, and it is not empty. -/
theorem all_of_parseAction (read : parseAction text = some action) :
    text ≠ [] ∧ text.all isActionChar = true := by
  rw [parseAction] at read
  cases called : named namedActions text with
  | some found => exact all_of_named (by decide) called
  | none =>
      rw [called] at read
      cases goto : stripPrefix "goto_tab:".toList text with
      | some number =>
          rw [goto] at read
          obtain ⟨n, parsed, -⟩ := Option.bind_eq_some_iff.mp read
          rw [stripPrefix_eq_some goto, List.all_append, all_of_parseUnsigned parsed]
          exact ⟨List.cons_ne_nil _ _, rfl⟩
      | none =>
          rw [goto] at read
          obtain ⟨rest, cut, resize⟩ := Option.bind_eq_some_iff.mp read
          obtain ⟨⟨direction, amount⟩, comma, values⟩ := Option.bind_eq_some_iff.mp resize
          obtain ⟨n, parsed, directions⟩ := Option.bind_eq_some_iff.mp values
          obtain ⟨way, found, -⟩ := Option.bind_eq_some_iff.mp directions
          have plain : direction.all isActionChar = true := (all_of_named (by decide) found).2
          rw [stripPrefix_eq_some cut, splitOnce_eq_some comma, List.all_append, List.all_append,
            List.all_cons, plain, all_of_parseUnsigned parsed]
          exact ⟨List.cons_ne_nil _ _, rfl⟩

theorem parseAction_of_mem (member : char ∈ text) (other : isActionChar char = false) :
    parseAction text = none := by
  cases read : parseAction text with
  | none => rfl
  | some action =>
      have plain := List.all_eq_true.mp (all_of_parseAction read).2 char member
      rw [other] at plain
      cases plain

end ActionTexts

section Values

variable (line : BindLine)

theorem BindLine.action_ne_nil : line.action ≠ [] := by
  obtain ⟨action, read⟩ := Option.isSome_iff_exists.mp line.valid
  exact (all_of_parseAction read).1

theorem BindLine.isActionChar_of_mem {char : Char} (member : char ∈ line.action) :
    isActionChar char = true := by
  obtain ⟨action, read⟩ := Option.isSome_iff_exists.mp line.valid
  exact List.all_eq_true.mp (all_of_parseAction read).2 char member

theorem BindLine.solid_of_mem {char : Char} (member : char ∈ line.action) :
    isWhitespace char = false :=
  isWhitespace_of_isActionChar (line.isActionChar_of_mem member)

theorem BindLine.quotedAction_ne_nil : quoted line.actionQuote line.action ≠ [] :=
  quoted_ne_nil line.action_ne_nil

/-- A value ends as its action does. -/
theorem BindLine.getLast?_value :
    line.value.getLast? = (quoted line.actionQuote line.action).getLast? := by
  rw [BindLine.value, List.getLast?_append_of_ne_nil _ (List.cons_ne_nil _ _),
    ← List.singleton_append, List.getLast?_append_of_ne_nil _ line.quotedAction_ne_nil]

theorem BindLine.solid_last : ∀ char ∈ line.value.getLast?, isWhitespace char = false := by
  rw [line.getLast?_value]
  exact solid_last_quoted fun _ char last => line.solid_of_mem (List.mem_of_getLast? last)

theorem BindLine.value_ne_nil : line.value ≠ [] := by simp [BindLine.value]

/-- The value that is left of a line. -/
def BindLine.kept : Text := stripQuotes (trim (' ' :: quoted line.lineQuote line.value))

theorem BindLine.lineSetting_text : lineSetting line.text = some (.keybind, line.kept) := by
  have start : line.text.head? = some 'k' := rfl
  have stop : line.text.getLast? = (quoted line.lineQuote line.value).getLast? :=
    List.getLast?_append_of_ne_nil _ (quoted_ne_nil line.value_ne_nil)
  have whole : trim line.text = line.text := by
    apply trim_of_ends
    · simp [start, isWhitespace]
    · rw [stop]
      exact solid_last_quoted fun _ => line.solid_last
  have cut : splitOnce '=' line.text =
      some ("keybind ".toList, ' ' :: quoted line.lineQuote line.value) := rfl
  have solid : line.text ≠ [] := by rintro empty; rw [empty] at start; cases start
  simp only [lineSetting, whole, solid, start, cut, BindLine.kept]
  rfl

/-- The quote that a value ends with is the one of its action. -/
theorem BindLine.actionQuote_of_last {quote : Quote}
    (last : line.value.getLast? = some quote.char) : line.actionQuote = some quote := by
  rw [line.getLast?_value] at last
  cases own : line.actionQuote with
  | none =>
      rw [own, quoted_none] at last
      have plain := line.isActionChar_of_mem (List.mem_of_getLast? last)
      exact absurd rfl (ne_quote_of_isActionChar plain quote)
  | some other =>
      rw [own, getLast?_quoted] at last
      rw [Quote.char_inj (Option.some.inj last)]

/-- A value that the quotes at its ends do not enclose is kept as it is. -/
theorem BindLine.kept_of_open (blank : isWhitespace line.trigger = true → line.triggerQuote ≠ none)
    (ends : ¬ line.Enclosed) : line.kept = line.value := by
  have first : ∀ char ∈ line.value.head?, isWhitespace char = false := by
    rw [BindLine.value]
    cases own : line.triggerQuote with
    | none => simpa [own] using blank
    | some quote => simp [quoted, quote.char_solid]
  have whole : trim (quoted line.lineQuote line.value) = quoted line.lineQuote line.value :=
    trim_quoted (fun _ => first) (fun _ => line.solid_last)
  rw [BindLine.kept, trim_cons_blank (by decide), whole]
  cases outer : line.lineQuote with
  | some quote => exact stripQuotes_quoted quote line.value
  | none =>
      apply stripQuotes_eq_self
      intro quote inner shape
      rw [quoted_none] at shape
      have head : line.value.head? = some quote.char := by rw [shape, head?_quoted]
      have last : line.value.getLast? = some quote.char := by rw [shape, getLast?_quoted]
      refine ends ⟨outer, quote, line.actionQuote_of_last last, ?_⟩
      cases own : line.triggerQuote with
      | none =>
          right
          simpa [BindLine.value, own] using head
      | some other =>
          left
          have same : other.char = quote.char := by simpa [BindLine.value, own, quoted] using head
          rw [Quote.char_inj same]

/-- A value that they do enclose loses them, and the action keeps the quote in front of it. -/
theorem BindLine.kept_of_enclosed (ends : line.Enclosed) : ∃ (quote : Quote) (before : Text),
    line.kept = before ++ '=' :: quote.char :: line.action := by
  obtain ⟨outer, quote, own, starts⟩ := ends
  have kept {before : Text} (shape : line.value =
      quoted (some quote) (before ++ '=' :: quote.char :: line.action)) :
      line.kept = before ++ '=' :: quote.char :: line.action := by
    rw [BindLine.kept, outer, quoted_none, trim_cons_blank (by decide), shape,
      trim_quoted (by simp) (by simp), stripQuotes_quoted]
  rcases starts with same | ⟨bare, same⟩
  · exact ⟨quote, [line.trigger, quote.char], kept (by simp [BindLine.value, own, same, quoted])⟩
  · exact ⟨quote, [], kept (by simp [BindLine.value, own, bare, same, quoted])⟩

/-- A blank that is not quoted is trimmed away, if not from the value then from the key. -/
theorem BindLine.kept_of_blank (blank : isWhitespace line.trigger = true)
    (bare : line.triggerQuote = none) : ∃ before, trim before = [] ∧ '=' ∉ before ∧
      line.kept = before ++ '=' :: quoted line.actionQuote line.action := by
  have value : line.value = line.trigger :: '=' :: quoted line.actionQuote line.action := by
    rw [BindLine.value, bare]
    rfl
  cases outer : line.lineQuote with
  | some quote =>
      refine ⟨[line.trigger], ?_, ?_, ?_⟩
      · exact trim_eq_nil_iff.mpr (by simpa using blank)
      · intro member
        rw [← List.mem_singleton.mp member] at blank
        exact absurd blank (by decide)
      · rw [BindLine.kept, outer, trim_cons_blank (by decide), trim_quoted (by simp) (by simp),
          stripQuotes_quoted, value]
        rfl
  | none =>
      refine ⟨[], rfl, by simp, ?_⟩
      have solid : trim ('=' :: quoted line.actionQuote line.action) =
          '=' :: quoted line.actionQuote line.action := by
        apply trim_of_ends
        · simp [isWhitespace]
        · rw [← List.singleton_append,
            List.getLast?_append_of_ne_nil _ line.quotedAction_ne_nil, ← line.getLast?_value]
          exact line.solid_last
      rw [BindLine.kept, outer, quoted_none, trim_cons_blank (by decide), value,
        trim_cons_blank blank, solid]
      apply stripQuotes_eq_self
      intro quote inner shape
      have head : some '=' = some quote.char := congrArg List.head? shape
      cases quote <;> exact absurd (Option.some.inj head) (by decide)

end Values

section Entries

variable (line : BindLine) {before after : Text}

/-- What the line puts into the map: the key and the action around the first equals sign. -/
def BindLine.entry : Text × Text :=
  ((splitOnce '=' line.kept).map fun (bindKey, action) =>
    (stripQuotes (trim bindKey), stripQuotes (trim action))).getD ([], [])

theorem BindLine.entry_of_cut (cut : splitOnce '=' line.kept = some (before, after)) :
    line.entry = (stripQuotes (trim before), stripQuotes (trim after)) := by
  rw [BindLine.entry, cut]
  rfl

theorem BindLine.entry_of_kept (kept : line.kept = before ++ '=' :: after) (absent : '=' ∉ before) :
    line.entry = (stripQuotes (trim before), stripQuotes (trim after)) :=
  line.entry_of_cut (by rw [kept, splitOnce_append absent])

theorem BindLine.stripped_trigger
    (blank : isWhitespace line.trigger = true → line.triggerQuote ≠ none) :
    stripQuotes (trim (quoted line.triggerQuote [line.trigger])) = [line.trigger] := by
  cases own : line.triggerQuote with
  | none =>
      have solid : ∀ char ∈ [line.trigger], isWhitespace char = false := by simpa [own] using blank
      rw [quoted_none, trim_eq_self solid, stripQuotes_singleton]
  | some quote => rw [trim_quoted (by simp) (by simp), stripQuotes_quoted]

theorem BindLine.stripped_action :
    stripQuotes (trim (quoted line.actionQuote line.action)) = line.action := by
  cases own : line.actionQuote with
  | none =>
      rw [quoted_none, trim_eq_self fun char member => line.solid_of_mem member]
      apply stripQuotes_eq_self
      intro quote inner shape
      have member : quote.char ∈ line.action := by
        rw [shape]
        exact List.mem_cons_self
      exact absurd rfl (ne_quote_of_isActionChar (line.isActionChar_of_mem member) quote)
  | some quote => rw [trim_quoted (by simp) (by simp), stripQuotes_quoted]

theorem parseAction_of_equals (member : '=' ∈ after) :
    parseAction (stripQuotes (trim after)) = none :=
  parseAction_of_mem (equals_mem_stripped member) (by decide)

/-- A quote in front of an action that none follows stays there. -/
theorem BindLine.parseAction_of_quote (quote : Quote) :
    parseAction (stripQuotes (trim (quote.char :: line.action))) = none := by
  have last : (quote.char :: line.action).getLast? = line.action.getLast? := by
    rw [← List.singleton_append, List.getLast?_append_of_ne_nil _ line.action_ne_nil]
  have whole : trim (quote.char :: line.action) = quote.char :: line.action := by
    apply trim_of_ends
    · simp [quote.char_solid]
    · rw [last]
      exact fun char member => line.solid_of_mem (List.mem_of_getLast? member)
  have bare : stripQuotes (quote.char :: line.action) = quote.char :: line.action := by
    apply stripQuotes_eq_self
    intro other inner shape
    rw [shape, getLast?_quoted] at last
    have plain := line.isActionChar_of_mem (List.mem_of_getLast? last.symm)
    exact absurd rfl (ne_quote_of_isActionChar plain other)
  rw [whole, bare]
  exact parseAction_of_mem List.mem_cons_self (by cases quote <;> rfl)

/-- A line whose trigger and quotes survive enters its trigger and its action. -/
theorem BindLine.entry_of_open (equals : line.trigger ≠ '=')
    (blank : isWhitespace line.trigger = true → line.triggerQuote ≠ none)
    (ends : ¬ line.Enclosed) : line.entry = ([line.trigger], line.action) := by
  have absent : '=' ∉ quoted line.triggerQuote [line.trigger] := by
    cases line.triggerQuote with
    | none => simpa using equals.symm
    | some quote =>
        cases quote <;> simpa [quoted, Quote.char, doubleQuote, singleQuote] using equals.symm
  rw [line.entry_of_kept (line.kept_of_open blank ends) absent, line.stripped_trigger blank,
    line.stripped_action]

/-- Of two equals signs the second one is in the action, which is none then. -/
theorem BindLine.action_of_twice (kept : line.kept = before ++ '=' :: after)
    (twice : '=' ∈ before) : parseAction line.entry.2 = none := by
  obtain ⟨front, back, rfl, absent⟩ := List.eq_append_cons_of_mem twice
  rw [List.append_assoc, List.cons_append] at kept
  rw [line.entry_of_kept kept absent]
  exact parseAction_of_equals (by simp)

theorem BindLine.action_of_enclosed (ends : line.Enclosed) : parseAction line.entry.2 = none := by
  obtain ⟨quote, before, kept⟩ := line.kept_of_enclosed ends
  by_cases twice : '=' ∈ before
  · exact line.action_of_twice kept twice
  · rw [line.entry_of_kept kept twice]
    exact line.parseAction_of_quote quote

theorem BindLine.action_of_equals (equals : line.trigger = '=') (ends : ¬ line.Enclosed) :
    parseAction line.entry.2 = none := by
  have kept := line.kept_of_open (by simp [equals, isWhitespace]) ends
  refine line.action_of_twice kept ?_
  rw [equals]
  cases line.triggerQuote <;> simp [quoted]

theorem BindLine.key_of_blank (blank : isWhitespace line.trigger = true)
    (bare : line.triggerQuote = none) : line.entry.1 = [] := by
  obtain ⟨before, nothing, absent, kept⟩ := line.kept_of_blank blank bare
  rw [line.entry_of_kept kept absent, nothing]
  rfl

end Entries

section Pairs

variable (platform : Platform) {key action : Text}

/-- The entry binds nothing, and asks for no prefix key. -/
def Idle (entry : Text × Text) : Prop :=
  triggerPair platform entry = none ∧ prefixOf platform entry = none ∧
    directPair platform entry = none

theorem idle_of_action (invalid : parseAction action = none) : Idle platform (key, action) := by
  simp [Idle, triggerPair, prefixOf, directPair, invalid]

theorem idle_of_key (mute : key = [] ∨ key = ['>'] ∨ key = ['+']) :
    Idle platform (key, action) := by
  have nothing : parsePrefixKey platform [] = none := by cases platform <;> decide
  have plus : parsePrefixKey platform ['+'] = none := by cases platform <;> decide
  have unread : parsePrefixTrigger [] = none := by decide
  rcases mute with rfl | rfl | rfl
  · simp [Idle, triggerPair, prefixOf, directPair, splitOnce, unread]
  · have cut : splitOnce '>' ['>'] = some ([], []) := rfl
    have blank : trim [] = [] := rfl
    simp [Idle, triggerPair, prefixOf, directPair, cut, blank, nothing]
  · have cut : splitOnce '>' ['+'] = none := rfl
    simp [Idle, triggerPair, prefixOf, directPair, cut, plus]

theorem parsePrefixTrigger_singleton (char : Char) : parsePrefixTrigger [char] = some char := by
  have unnamed : named namedTriggers [char] = none := by
    simp [named, namedTriggers]
  rw [parsePrefixTrigger, unnamed]

theorem triggerPair_singleton {char : Char} (divides : char ≠ '>' ∧ char ≠ '+') :
    triggerPair platform ([char], action) = (parseAction action).map (char, ·) ∧
      prefixOf platform ([char], action) = none ∧ directPair platform ([char], action) = none := by
  have cut : splitOnce '>' [char] = none := splitOnce_of_absent (by simpa using divides.1.symm)
  simp [triggerPair, prefixOf, directPair, cut, divides.2.symm, parsePrefixTrigger_singleton,
    Option.map_eq_bind]

theorem BindLine.entry_of_clear {line : BindLine} (clear : line.Clear) :
    line.entry = ([line.trigger], line.action) :=
  line.entry_of_open clear.divides.1 clear.blank clear.ends

/-- A line that is not clear enters nothing that could be bound. -/
theorem BindLine.idle_of_not_clear {line : BindLine} (unclear : ¬ line.Clear) :
    Idle platform line.entry := by
  by_cases ends : line.Enclosed
  · exact idle_of_action platform (line.action_of_enclosed ends)
  by_cases equals : line.trigger = '='
  · exact idle_of_action platform (line.action_of_equals equals ends)
  by_cases blank : isWhitespace line.trigger = true → line.triggerQuote ≠ none
  · rw [line.entry_of_open equals blank ends]
    apply idle_of_key
    by_cases divides : line.trigger = '>'
    · exact .inr (.inl (by rw [divides]))
    · refine .inr (.inr ?_)
      by_contra plus
      exact unclear ⟨⟨equals, divides, fun same => plus (by rw [same])⟩, blank, ends⟩
  · obtain ⟨isBlank, bare⟩ : isWhitespace line.trigger = true ∧ line.triggerQuote = none := by
      simpa using blank
    exact idle_of_key platform (.inl (line.key_of_blank isBlank bare))

/-- No line asks for a prefix key or binds a key without one. -/
theorem BindLine.pairs_of_entry (line : BindLine) :
    prefixOf platform line.entry = none ∧ directPair platform line.entry = none := by
  by_cases clear : line.Clear
  · rw [line.entry_of_clear clear]
    exact (triggerPair_singleton platform clear.divides.2).2
  · exact (BindLine.idle_of_not_clear platform clear).2

theorem BindLine.triggerPair_iff {line : BindLine} {char : Char} {action : BindingAction} :
    triggerPair platform line.entry = some (char, action) ↔
      line.Clear ∧ line.trigger = char ∧ parseAction line.action = some action := by
  by_cases clear : line.Clear
  · rw [line.entry_of_clear clear, (triggerPair_singleton platform clear.divides.2).1]
    simp [clear, and_comm]
  · simp [(BindLine.idle_of_not_clear platform clear).1, clear]

end Pairs

section Parsed

variable {F : Type} {f32 : Floats F}

theorem BindLine.equals_mem_kept (line : BindLine) : '=' ∈ line.kept := by
  have member : '=' ∈ ' ' :: quoted line.lineQuote line.value := by
    cases line.lineQuote <;> simp [quoted, BindLine.value]
  exact equals_mem_stripped member

theorem BindLine.parseLine_text (line : BindLine) (config : Config F) :
    config.parseLine f32 line.text =
      pure { config with keybinds := config.keybinds.insert line.entry.1 line.entry.2 } := by
  obtain ⟨before, after, cut⟩ := splitOnce_of_mem line.equals_mem_kept
  rw [Config.parseLine, line.lineSetting_text, line.entry_of_cut cut]
  simp only [ConfigKey.change, Run.pure_bind, cut]

/-- The map after some lines. -/
def insertLines (keybinds : Table Text Text) (bindLines : List BindLine) : Table Text Text :=
  bindLines.foldl (fun table line => table.insert line.entry.1 line.entry.2) keybinds

theorem parseLines_texts (bindLines : List BindLine) (rest : List Text) (config : Config F) :
    config.parseLines f32 (bindLines.map BindLine.text ++ rest) =
      ({ config with keybinds := insertLines config.keybinds bindLines } : Config F).parseLines f32
        rest := by
  induction bindLines generalizing config with
  | nil => rfl
  | cons line bindLines ih =>
      rw [List.map_cons, List.cons_append, Config.parseLines, line.parseLine_text, Run.pure_bind,
        ih]
      rfl

theorem entries_insertLines (keybinds : Table Text Text) (bindLines : List BindLine) :
    (insertLines keybinds bindLines).entries =
      (bindLines.map BindLine.entry).foldl (fun entries pair => insertEntry pair.1 pair.2 entries)
        keybinds.entries := by
  induction bindLines generalizing keybinds with
  | nil => rfl
  | cons line bindLines ih => exact ih (keybinds.insert line.entry.1 line.entry.2)

/-- The configuration that is read: its prefix key, and the map of all lines before and after it. -/
theorem parse_eq {content prefixLine spec : Text} {front back : List BindLine}
    (shape : lines content = front.map BindLine.text ++ prefixLine :: back.map BindLine.text)
    (sets : lineSetting prefixLine = some (.prefixKey, spec)) :
    Config.parse f32 content =
      pure { Config.default with
        prefixKey := some spec
        keybinds := insertLines .empty (front ++ back) } := by
  have last := @parseLines_texts F f32 back []
  simp only [List.append_nil] at last
  rw [Config.parse, shape, parseLines_texts, Config.parseLines, Config.parseLine, sets]
  simp only [ConfigKey.change, Run.pure_bind, last, Config.parseLines, insertLines,
    List.foldl_append]
  rfl

end Parsed

section Pressed

variable {platform : Platform} {prefixKey : PrefixKey}

theorem handleKey_first (table : List (Char × BindingAction)) {mods : Mods}
    (has : mods &&& prefixKey.modsMask = prefixKey.modsMask) (keyChar : Option Char)
    (named : Option NamedKey) :
    Bindings.handleKey ⟨some prefixKey, table, [], .normal⟩ keyChar prefixKey.keycode mods named =
      (⟨some prefixKey, table, [], .prefixed⟩, .consumed none) := by
  simp [Bindings.handleKey, has]

theorem handleKey_behind (table : List (Char × BindingAction)) (char : Char) (keycode : UInt32)
    (mods : Mods) (named : Option NamedKey) :
    (Bindings.handleKey ⟨some prefixKey, table, [], .prefixed⟩ (some char) keycode mods named).2 =
      (table.lookup char).elim .forward fun action => .consumed (some action) := by
  cases found : table.lookup char <;> simp [Bindings.handleKey, found]

/-- Behind the prefix key the table decides. -/
theorem honours_iff (table : List (Char × BindingAction)) (bindLines : List BindLine) :
    Honours ⟨some prefixKey, table, [], .normal⟩ prefixKey bindLines ↔
      ∀ char, (∀ line ∈ bindLines, line.trigger = char →
        table.lookup char = parseAction line.action) ∧
      ((∀ line ∈ bindLines, line.trigger ≠ char) → table.lookup char = none) := by
  constructor
  · intro honours char
    have behind := (honours none prefixKey.modsMask none (UInt32.and_self ..)).2 char 0 0 none
    simp only [handleKey_first table (UInt32.and_self ..), handleKey_behind] at behind
    refine ⟨?_, ?_⟩
    · intro line member same
      have given := behind.1 line member same
      cases found : table.lookup char with
      | none => rw [found] at given; cases given
      | some action =>
          rw [found] at given
          exact KeyResult.consumed.inj given
    · intro free
      have given := behind.2 free
      cases found : table.lookup char with
      | none => rfl
      | some action => rw [found] at given; cases given
  · intro answers keyChar mods named has
    simp only [handleKey_first table has, handleKey_behind, true_and]
    intro char keycode later next
    refine ⟨?_, ?_⟩
    · intro line member same
      obtain ⟨action, read⟩ := Option.isSome_iff_exists.mp line.valid
      rw [(answers char).1 line member same, read]
      rfl
    · intro free
      rw [(answers char).2 free]
      rfl

variable {F : Type} {f32 : Floats F} {bindLines : List BindLine}

theorem eq_of_trigger (distinct : (bindLines.map BindLine.trigger).Nodup) {first second : BindLine}
    (held : first ∈ bindLines) (kept : second ∈ bindLines)
    (same : first.trigger = second.trigger) : first = second :=
  List.inj_on_of_nodup_map distinct held kept same

/-- The entries of such lines leave the prefix key as it is, and bind nothing without it. -/
theorem bindingsOf_eq {config : Config F} {spec : Text} {order : List (Text × Text)}
    (configured : config.prefixKey = some spec)
    (parsed : parsePrefixKey platform spec = some prefixKey)
    (entered : ∀ entry ∈ order, ∃ line ∈ bindLines, line.entry = entry) :
    bindingsOf platform config order =
      ⟨some prefixKey, build (order.filterMap (triggerPair platform)), [], .normal⟩ := by
  have pairs : order.filterMap (tablePair platform (some prefixKey)) =
      order.filterMap (triggerPair platform) := by
    apply List.filterMap_congr
    intro entry member
    obtain ⟨line, -, rfl⟩ := entered entry member
    have accepts : Accepts platform (some prefixKey) line.entry := by
      simp [Accepts, (line.pairs_of_entry platform).1]
    rw [tablePair, if_pos accepts]
  have direct : order.filterMap (directPair platform) = [] := by
    rw [List.filterMap_eq_nil_iff]
    intro entry member
    obtain ⟨line, -, rfl⟩ := entered entry member
    exact (line.pairs_of_entry platform).2
  rw [bindingsOf, readKeymap_eq, fromConfig, configured, Option.bind_some, parsed, prefixInUse,
    Option.some_or, pairs, direct]
  rfl

/-- The table finds what the clear lines bind. -/
theorem lookup_triggers_iff (distinct : (bindLines.map BindLine.trigger).Nodup)
    {order : List (Text × Text)} (entered : ∀ entry ∈ order, ∃ line ∈ bindLines, line.entry = entry)
    {char : Char} {action : BindingAction} :
    (build (order.filterMap (triggerPair platform))).lookup char = some action ↔
      ∃ line ∈ bindLines, line.entry ∈ order ∧ line.Clear ∧ line.trigger = char ∧
        parseAction line.action = some action := by
  have bound {char : Char} {action : BindingAction} :
      (char, action) ∈ order.filterMap (triggerPair platform) ↔
        ∃ line ∈ bindLines, line.entry ∈ order ∧ line.Clear ∧ line.trigger = char ∧
          parseAction line.action = some action := by
    rw [List.mem_filterMap]
    constructor
    · rintro ⟨entry, member, pair⟩
      obtain ⟨line, held, rfl⟩ := entered entry member
      exact ⟨line, held, member, (BindLine.triggerPair_iff platform).mp pair⟩
    · rintro ⟨line, held, member, own⟩
      exact ⟨line.entry, member, (BindLine.triggerPair_iff platform).mpr own⟩
  have functional : Functional (order.filterMap (triggerPair platform)) := by
    intro char first second one two
    obtain ⟨line, held, -, -, trigger, read⟩ := bound.mp one
    obtain ⟨other, kept, -, -, same, readOther⟩ := bound.mp two
    obtain rfl := eq_of_trigger distinct held kept (trigger.trans same.symm)
    exact Option.some.inj (read.symm.trans readOther)
  rw [lookup_build_iff functional, bound]

/-- Distinct triggers keep the entries of clear lines apart. -/
theorem mem_build_entries (distinct : (bindLines.map BindLine.trigger).Nodup)
    (clear : ∀ line ∈ bindLines, line.Clear) {line : BindLine} (member : line ∈ bindLines) :
    line.entry ∈ build (bindLines.map BindLine.entry) := by
  refine (mem_build_iff ?_).mpr (List.mem_map_of_mem member)
  intro key first second one two
  obtain ⟨line, held, entered⟩ := List.mem_map.mp one
  obtain ⟨other, kept, others⟩ := List.mem_map.mp two
  rw [BindLine.entry_of_clear (clear line held), Prod.mk.injEq] at entered
  rw [BindLine.entry_of_clear (clear other kept), Prod.mk.injEq] at others
  obtain rfl := eq_of_trigger distinct held kept
    (List.singleton_inj.mp (entered.1.trans others.1.symm))
  rw [← entered.2, others.2]

end Pressed

section Honoured

variable {F : Type} {f32 : Floats F} {platform : Platform} {prefixKey : PrefixKey}
variable {content prefixLine spec : Text} {front back : List BindLine}

theorem entered_of_perm {order : List (Text × Text)}
    (perm : order.Perm (insertLines .empty (front ++ back)).entries) :
    ∀ entry ∈ order, ∃ line ∈ front ++ back, line.entry = entry := by
  intro entry member
  have held := perm.mem_iff.mp member
  rw [entries_insertLines] at held
  exact List.mem_map.mp (mem_of_mem_build held)

/-- A trigger that gives its action was bound by its own line, which therefore is clear. -/
theorem clear_of_honoured
    (shape : lines content = front.map BindLine.text ++ prefixLine :: back.map BindLine.text)
    (sets : lineSetting prefixLine = some (.prefixKey, spec))
    (parsed : parsePrefixKey platform spec = some prefixKey)
    (distinct : ((front ++ back).map BindLine.trigger).Nodup)
    (honoured : Honoured platform f32 content prefixKey (front ++ back)) :
    ∀ line ∈ front ++ back, line.Clear := by
  intro line member
  obtain ⟨config, read, honoured⟩ := honoured
  rw [parse_eq shape sets] at read
  obtain rfl := Run.pure_inj read
  have entered := entered_of_perm (List.Perm.refl (insertLines .empty (front ++ back)).entries)
  have honours := honoured _ (List.Perm.refl _)
  rw [bindingsOf_eq rfl parsed entered, honours_iff] at honours
  obtain ⟨action, valid⟩ := Option.isSome_iff_exists.mp line.valid
  have found := (honours line.trigger).1 line member rfl
  rw [valid, lookup_triggers_iff distinct entered] at found
  obtain ⟨other, held, -, clear, same, -⟩ := found
  rwa [eq_of_trigger distinct member held same.symm]

theorem honoured_of_clear
    (shape : lines content = front.map BindLine.text ++ prefixLine :: back.map BindLine.text)
    (sets : lineSetting prefixLine = some (.prefixKey, spec))
    (parsed : parsePrefixKey platform spec = some prefixKey)
    (distinct : ((front ++ back).map BindLine.trigger).Nodup)
    (clear : ∀ line ∈ front ++ back, line.Clear) :
    Honoured platform f32 content prefixKey (front ++ back) := by
  refine ⟨_, parse_eq shape sets, ?_⟩
  intro order perm
  rw [bindingsOf_eq rfl parsed (entered_of_perm perm), honours_iff]
  intro char
  constructor
  · rintro line member rfl
    obtain ⟨action, valid⟩ := Option.isSome_iff_exists.mp line.valid
    have held : line.entry ∈ order := by
      rw [perm.mem_iff, entries_insertLines]
      exact mem_build_entries distinct clear member
    rw [valid, lookup_triggers_iff distinct (entered_of_perm perm)]
    exact ⟨line, member, held, clear line member, rfl, valid⟩
  · intro free
    cases found : (build (order.filterMap (triggerPair platform))).lookup char with
    | none => rfl
    | some action =>
        obtain ⟨line, member, -, -, same, -⟩ :=
          (lookup_triggers_iff distinct (entered_of_perm perm)).mp found
        exact absurd same (free line member)

/-- With a prefix key and distinct triggers, the bindings are as the lines say exactly when each of
the lines is clear. -/
theorem honoured_iff (platform : Platform) (f32 : Floats F)
    (shape : lines content = front.map BindLine.text ++ prefixLine :: back.map BindLine.text)
    (sets : lineSetting prefixLine = some (.prefixKey, spec))
    (parsed : parsePrefixKey platform spec = some prefixKey)
    (distinct : ((front ++ back).map BindLine.trigger).Nodup) :
    Honoured platform f32 content prefixKey (front ++ back) ↔
      ∀ line ∈ front ++ back, line.Clear :=
  ⟨clear_of_honoured shape sets parsed distinct, honoured_of_clear shape sets parsed distinct⟩

def newTabLine (triggerQuote actionQuote : Option Quote) : BindLine where
  trigger := 'c'
  action := "new_tab".toList
  lineQuote := none
  triggerQuote := triggerQuote
  actionQuote := actionQuote
  printable := by decide
  valid := by decide

def copyLine : BindLine where
  trigger := ' '
  action := "copy".toList
  lineQuote := none
  triggerQuote := some .single
  actionQuote := none
  printable := by decide
  valid := by decide

theorem clear_newTabLine : (newTabLine none (some .single)).Clear := by
  refine ⟨by decide, ?_, ?_⟩
  · intro blank
    exact absurd blank (by decide)
  · rintro ⟨-, quote, -, quotes | ⟨-, same⟩⟩
    · cases quotes
    · cases quote <;> exact absurd same (by decide)

theorem clear_copyLine : copyLine.Clear := by
  refine ⟨by decide, ?_, ?_⟩
  · intro blank bare
    cases bare
  · rintro ⟨-, quote, own, -⟩
    cases own

theorem honoured_copy_newTab :
    Honoured .linux rationals
      "keybind = ' '=copy\nprefix-key = ctrl+s\nkeybind = c='new_tab'".toList ⟨38, modsCtrl⟩
      [copyLine, newTabLine none (some .single)] :=
  have shape : lines "keybind = ' '=copy\nprefix-key = ctrl+s\nkeybind = c='new_tab'".toList =
      List.map BindLine.text [copyLine] ++ "prefix-key = ctrl+s".toList ::
        List.map BindLine.text [newTabLine none (some .single)] := by decide
  have sets : lineSetting "prefix-key = ctrl+s".toList = some (.prefixKey, "ctrl+s".toList) := rfl
  (honoured_iff .linux rationals shape sets (by decide) (by decide)).mpr
    (List.forall_mem_cons.mpr ⟨clear_copyLine,
      List.forall_mem_singleton.mpr clear_newTabLine⟩)

/-- Both ends of the value are quotes, and neither the trigger nor the action is between them. -/
theorem not_honoured_quotes :
    ¬ Honoured .linux rationals "prefix-key = ctrl+s\nkeybind = 'c'='new_tab'".toList
      ⟨38, modsCtrl⟩ [newTabLine (some .single) (some .single)] := by
  intro honoured
  have shape : lines "prefix-key = ctrl+s\nkeybind = 'c'='new_tab'".toList =
      List.map BindLine.text [] ++ "prefix-key = ctrl+s".toList ::
        List.map BindLine.text [newTabLine (some .single) (some .single)] := by decide
  have sets : lineSetting "prefix-key = ctrl+s".toList = some (.prefixKey, "ctrl+s".toList) := rfl
  have clear := clear_of_honoured shape sets (by decide) (by decide) honoured _ List.mem_cons_self
  exact clear.ends ⟨rfl, .single, rfl, .inl rfl⟩

end Honoured

end Boo.Settings.ConfiguredKeys
