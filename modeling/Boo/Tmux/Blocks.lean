/- module: Boo/Tmux/Blocks
   digest: Command blocks of control mode: which output lines leave their answer whole. -/

import Boo.Lib.TrimmedJoins
import Boo.Tmux.Events

set_option autoImplicit false
set_option relaxedAutoImplicit false

namespace Boo.Tmux.Blocks

open Boo.Lib.ByteOffsets (isAsciiDigit)
open Boo.Lib.Numerals
open Boo.Lib.TextLines
open Boo.Lib.TrimmedJoins
open Boo.Remote.Texts
open Boo.Tmux.Escapes
open Boo.Tmux.Events

section Server

/-- Time, number and flags of a command, which both guards of its block carry. -/
structure Guard where
  time : Nat
  number : UInt32
  flags : Nat

def Guard.line (keyword : Text) (guard : Guard) : Text :=
  keyword ++ (decimal guard.time ++ ' ' :: (decimal guard.number.toNat ++ ' ' ::
    decimal guard.flags))

/-- A command with its output, which may be any lines. -/
structure Block where
  guard : Guard
  output : List Text
  failed : Bool

def Block.lines (block : Block) : List Text :=
  block.guard.line beginKeyword ::
    (block.output ++ [block.guard.line (if block.failed then errorKeyword else endKeyword)])

/-- The response that the block stands for. -/
def Block.response (block : Block) : TmuxEvent :=
  if block.failed then .commandError block.guard.number (joinLines block.output)
  else .commandOk block.guard.number (joinLines block.output)

/-- The words that the parser looks for at the start of a line. -/
def knownWords : List Text :=
  ["%begin".toList, "%end".toList, "%error".toList, "%output".toList, "%window-add".toList,
    "%window-close".toList, "%window-renamed".toList, "%layout-change".toList,
    "%window-pane-changed".toList, "%pane-mode-changed".toList, "%session-changed".toList,
    "%sessions-changed".toList, "%session-renamed".toList]

/-- The word of a notification that the parser does not look for. Any word that starts with that of
an exit is taken for it. -/
def Foreign (word : Text) : Prop :=
  word.head? = some '%' ∧ word ∉ knownWords ∧ ¬ "%exit".toList <+: word ∧
    ∀ char ∈ word, isWhitespace char = false

instance (word : Text) : Decidable (Foreign word) := inferInstanceAs (Decidable (_ ∧ _))

/-- The notifications: the kinds that have an event, and any other word with what is told of it.
Output is written with escapes, as a text. -/
inductive Notification
  | output (paneId : UInt32) (data : List UInt8) (written : Text)
      (escaped : utf8 written = escapeOctal data)
  | windowAdd (windowId : UInt32)
  | windowClose (windowId : UInt32)
  | windowRenamed (windowId : UInt32) (name : Text)
  | layoutChange (windowId : UInt32) (layout : Text)
  | windowPaneChanged (windowId paneId : UInt32)
  | paneModeChanged (paneId : UInt32)
  | sessionChanged (sessionId : UInt32) (name : Text)
  | sessionsChanged
  | sessionRenamed (name : Text)
  | exit (reason : Option Text)
  | other (word : Text) (told : Option Text) (foreign : Foreign word)

def marked (mark : Char) (id : UInt32) : Text := mark :: decimal id.toNat

def Notification.line : Notification → Text
  | output paneId _ written _ => "%output ".toList ++ (marked '%' paneId ++ ' ' :: written)
  | windowAdd windowId => "%window-add ".toList ++ marked '@' windowId
  | windowClose windowId => "%window-close ".toList ++ marked '@' windowId
  | windowRenamed windowId name =>
      "%window-renamed ".toList ++ (marked '@' windowId ++ ' ' :: name)
  | layoutChange windowId layout =>
      "%layout-change ".toList ++ (marked '@' windowId ++ ' ' :: layout)
  | windowPaneChanged windowId paneId =>
      "%window-pane-changed ".toList ++ (marked '@' windowId ++ ' ' :: marked '%' paneId)
  | paneModeChanged paneId => "%pane-mode-changed ".toList ++ marked '%' paneId
  | sessionChanged sessionId name =>
      "%session-changed ".toList ++ (marked '$' sessionId ++ ' ' :: name)
  | sessionsChanged => "%sessions-changed".toList
  | sessionRenamed name => "%session-renamed ".toList ++ name
  | exit none => "%exit".toList
  | exit (some reason) => "%exit".toList ++ ' ' :: reason
  | other word none _ => word
  | other word (some told) _ => word ++ ' ' :: told

/-- What is owed for a line: a certain answer, or an event of any kind. -/
inductive Due
  | answer (owed : Option TmuxEvent)
  | event

def Due.Met : Due → Option TmuxEvent → Prop
  | answer owed, given => given = owed
  | event, given => given.isSome = true

instance (due : Due) (given : Option TmuxEvent) : Decidable (due.Met given) :=
  match due with
  | .answer _ => inferInstanceAs (Decidable (_ = _))
  | .event => inferInstanceAs (Decidable (_ = true))

/-- The event that tells of the notification; what is blank at the end of a name does not count. -/
def Notification.due : Notification → Due
  | output paneId data _ _ => .answer (some (.output paneId data))
  | windowAdd windowId => .answer (some (.windowAdd windowId))
  | windowClose windowId => .answer (some (.windowClose windowId))
  | windowRenamed windowId name => .answer (some (.windowRenamed windowId (trimEnd name)))
  | layoutChange windowId layout => .answer (some (.layoutChanged windowId (trimEnd layout)))
  | windowPaneChanged windowId paneId => .answer (some (.windowPaneChanged windowId paneId))
  | paneModeChanged paneId => .answer (some (.paneModeChanged paneId))
  | sessionChanged sessionId name => .answer (some (.sessionChanged sessionId (trimEnd name)))
  | sessionsChanged => .answer (some .sessionsChanged)
  | sessionRenamed name => .answer (some (.sessionRenamed (lineContent name)))
  | exit none => .answer (some (.exit []))
  | exit (some reason) => .answer (some (.exit (trim reason)))
  | other _ _ _ => .event

inductive Item
  | block (sent : Block)
  | notification (sent : Notification)

def Item.lines : Item → List Text
  | .block sent => sent.lines
  | .notification sent => [sent.line]

/-- The answers to the lines of a block: the response at its closing guard and nothing before. -/
def Block.answers (block : Block) : List (Option TmuxEvent) :=
  none :: (block.output.map (fun _ => none) ++ [some block.response])

def Item.due : Item → List Due
  | .block sent => sent.answers.map .answer
  | .notification sent => [sent.due]

/-- The parser gives each line of the items what is owed for it. -/
def Answered (items : List Item) : Prop :=
  List.Forall₂ Due.Met (items.flatMap Item.due)
    (TmuxParser.new.parseLines (items.flatMap Item.lines)).2

instance (items : List Item) : Decidable (Answered items) :=
  inferInstanceAs (Decidable (List.Forall₂ _ _ _))

/-- An output line that does not look like a guard, and does not end in a line ending. -/
def Plain (line : Text) : Prop :=
  ¬ beginKeyword <+: line ∧ ¬ endKeyword <+: line ∧ ¬ errorKeyword <+: line ∧
    ∀ char ∈ line.getLast?, char ≠ '\n' ∧ char ≠ '\r'

/-- The notification is of a kind that has an event, and a name that must not be blank is not. -/
def Notification.Named : Notification → Prop
  | windowRenamed _ name => trimEnd name ≠ []
  | layoutChange _ layout => trimEnd layout ≠ []
  | sessionChanged _ name => trimEnd name ≠ []
  | other _ _ _ => False
  | _ => True

def Item.Kept : Item → Prop
  | .block sent => ∀ line ∈ sent.output, Plain line
  | .notification sent => sent.Named

end Server

section LineEnds

variable {front back line : Text} {solid : Char}

/-- No line feed and no carriage return. -/
def Clean (text : Text) : Bool := text.all fun char => char != '\n' && char != '\r'

theorem clean_append (front back : Text) : Clean (front ++ back) = (Clean front && Clean back) :=
  List.all_append

theorem clean_cons (char : Char) (text : Text) :
    Clean (char :: text) = ((char != '\n' && char != '\r') && Clean text) := rfl

theorem clean_decimal (n : Nat) : Clean (decimal n) = true := by
  refine List.all_eq_true.mpr fun char member => ?_
  have digit := isDigit_of_mem_decimal member
  rw [Bool.and_eq_true, bne_iff_ne, bne_iff_ne]
  constructor
  · rintro rfl
    exact absurd digit (by decide)
  · rintro rfl
    exact absurd digit (by decide)

theorem clean_marked {mark : Char} (clean : (mark != '\n' && mark != '\r') = true) (id : UInt32) :
    Clean (marked mark id) = true := by
  rw [marked, clean_cons, clean, clean_decimal]
  rfl

theorem lineContent_append_cons (other : solid ≠ '\n' ∧ solid ≠ '\r') :
    lineContent (front ++ solid :: back) = front ++ solid :: lineContent back := by
  rw [lineContent, rdropWhile_append_cons (by simp [other.1]),
    rdropWhile_append_cons (by simp [other.2]), lineContent]

theorem lineContent_isPrefix (line : Text) : lineContent line <+: line :=
  (List.rdropWhile_prefix _ _).trans (List.rdropWhile_prefix _ _)

/-- A line ending at the end of a line is lost. -/
theorem length_lineContent_concat (front : Text) (last : Char)
    (ending : ¬ (last ≠ '\n' ∧ last ≠ '\r')) :
    (lineContent (front ++ [last])).length ≤ front.length := by
  by_cases feed : last = '\n'
  · have dropped : lineContent (front ++ [last]) = lineContent front := by
      rw [lineContent, List.rdropWhile_concat_pos _ _ _ (by simp [feed]), lineContent]
    rw [dropped]
    exact (lineContent_isPrefix front).length_le
  · have isReturn : last = '\r' := by
      by_contra other
      exact ending ⟨feed, other⟩
    have dropped : lineContent (front ++ [last]) = front.rdropWhile (· = '\r') := by
      rw [lineContent, List.rdropWhile_concat_neg _ _ _ (by simp [feed]),
        List.rdropWhile_concat_pos _ _ _ (by simp [isReturn])]
    rw [dropped]
    exact (List.rdropWhile_prefix _ _).length_le

theorem lineContent_eq_self_iff :
    lineContent line = line ↔ ∀ char ∈ line.getLast?, char ≠ '\n' ∧ char ≠ '\r' := by
  obtain rfl | ⟨front, last, rfl⟩ := List.eq_nil_or_concat' line
  · simp [lineContent]
  · rw [List.getLast?_concat]
    constructor
    · intro same char isLast
      cases isLast
      by_contra ending
      have short := length_lineContent_concat front last ending
      rw [same, List.length_append, List.length_singleton] at short
      omega
    · intro other
      exact lineContent_append_cons (other last rfl)

theorem lineContent_of_clean (clean : Clean line = true) : lineContent line = line := by
  rw [lineContent_eq_self_iff]
  intro char last
  have held := List.all_eq_true.mp clean char (List.mem_of_getLast? last)
  rwa [Bool.and_eq_true, bne_iff_ne, bne_iff_ne] at held

end LineEnds

section Notifications

theorem parseNumber_decimal (id : UInt32) : parseNumber (decimal id.toNat) = some id := by
  rw [parseNumber, parseUnsigned_decimal id.toNat_lt, Option.map_some, UInt32.ofNat_toNat]

theorem words_decimal (n : Nat) {rest : Text} (ends : rest.head?.all isWhitespace = true) :
    words (decimal n ++ rest) = decimal n :: words rest :=
  words_solid decimal_ne_nil
    (fun _ member => isWhitespace_of_isDigit (isDigit_of_mem_decimal member)) ends

theorem splitOnce_decimal (n : Nat) (rest : Text) :
    splitOnce ' ' (decimal n ++ ' ' :: rest) = some (decimal n, rest) := by
  apply splitOnce_append
  intro member
  exact absurd (isDigit_of_mem_decimal member) (by decide)

variable {mark : Char} {rest : Text}

theorem marked_solid (solid : isWhitespace mark = false) (id : UInt32) :
    ∀ char ∈ marked mark id, isWhitespace char = false := by
  intro char member
  rcases List.mem_cons.mp member with rfl | digit
  · exact solid
  · exact isWhitespace_of_isDigit (isDigit_of_mem_decimal digit)

theorem words_marked (solid : isWhitespace mark = false) (id : UInt32)
    (ends : rest.head?.all isWhitespace = true) :
    words (marked mark id ++ rest) = marked mark id :: words rest :=
  words_solid (List.cons_ne_nil _ _) (marked_solid solid id) ends

theorem parseId_marked (solid : isWhitespace mark = false) (id : UInt32) :
    parseId (marked mark id) mark = some id := by
  have single : words (decimal id.toNat) = [decimal id.toNat] := by
    have cut := words_decimal id.toNat (show ([] : Text).head?.all isWhitespace = true from rfl)
    rwa [List.append_nil] at cut
  rw [parseId, trim_eq_self (marked_solid solid id), marked, stripPrefix_cons_self]
  simp [single, parseNumber_decimal]

/-- The marked number is kept with its name, when there is more to the name than white space. -/
theorem trim_marked (solid : isWhitespace mark = false) (id : UInt32) (name : Text) :
    trim (marked mark id ++ ' ' :: name) =
      if trimEnd name = [] then marked mark id else marked mark id ++ ' ' :: trimEnd name := by
  have blank : isWhitespace ' ' = true := by decide
  have last : ∀ nonempty, ¬ isWhitespace ((marked mark id).getLast nonempty) = true := by
    intro nonempty
    simp [marked_solid solid id _ (List.getLast_mem nonempty)]
  have ends : trimEnd (marked mark id) = marked mark id := List.rdropWhile_eq_self_iff.mpr last
  rw [trim, trimEnd, List.append_cons, rdropWhile_append, ← trimEnd]
  split
  · rw [List.rdropWhile_concat_pos _ _ _ blank, ← trimEnd, ends, marked,
      List.dropWhile_cons_of_neg (by simp [solid])]
  · rw [marked, List.cons_append, List.cons_append, List.dropWhile_cons_of_neg (by simp [solid])]
    simp

theorem parseIdAndName_marked (solid : isWhitespace mark = false) (id : UInt32) (name : Text) :
    parseIdAndName (marked mark id ++ ' ' :: name) mark =
      if trimEnd name = [] then none else some (id, trimEnd name) := by
  rw [parseIdAndName, trim_marked solid]
  split
  · have noSpace : splitOnce ' ' (decimal id.toNat) = none := by
      apply splitOnce_of_absent
      intro member
      exact absurd (isDigit_of_mem_decimal member) (by decide)
    rw [marked, stripPrefix_cons_self]
    simp [noSpace]
  · rw [marked, List.cons_append, stripPrefix_cons_self]
    simp [splitOnce_decimal, parseNumber_decimal]

theorem parseWindowPaneChanged_marked (windowId paneId : UInt32) :
    parseWindowPaneChanged (marked '@' windowId ++ ' ' :: marked '%' paneId) =
      some (.windowPaneChanged windowId paneId) := by
  have second : words (' ' :: marked '%' paneId) = [marked '%' paneId] := by
    have cut := words_marked (show isWhitespace '%' = false by decide) paneId
      (show ([] : Text).head?.all isWhitespace = true from rfl)
    rw [List.append_nil] at cut
    rw [words, if_pos (by decide), cut]
    rfl
  have both := words_marked (show isWhitespace '@' = false by decide) windowId
    (show (' ' :: marked '%' paneId).head?.all isWhitespace = true from rfl)
  rw [second] at both
  have window : stripPrefix ['@'] (marked '@' windowId) = some (decimal windowId.toNat) :=
    stripPrefix_cons_self '@' _
  have pane : stripPrefix ['%'] (marked '%' paneId) = some (decimal paneId.toNat) :=
    stripPrefix_cons_self '%' _
  simp [parseWindowPaneChanged, both, window, pane, parseNumber_decimal]

theorem clean_written {data : List UInt8} {written : Text}
    (escaped : utf8 written = escapeOctal data) : Clean written = true := by
  refine List.all_eq_true.mpr fun char member => ?_
  have absent (byte : UInt8) (low : byte.toNat < 32) (same : char.toNat = byte.toNat) : False := by
    have ascii : byte.toNat < 128 := by omega
    have held : byte ∈ utf8 written :=
      List.mem_flatMap.mpr ⟨char, member, (mem_utf8EncodeChar_ascii ascii).mpr same⟩
    rw [escaped] at held
    have high := ge_of_mem_escapeOctal held
    omega
  rw [Bool.and_eq_true, bne_iff_ne, bne_iff_ne]
  constructor
  · rintro rfl
    exact absent 10 (by decide) rfl
  · rintro rfl
    exact absent 13 (by decide) rfl

theorem parseOutput_marked (paneId : UInt32) {data : List UInt8} {written : Text}
    (escaped : utf8 written = escapeOctal data) :
    parseOutput (marked '%' paneId ++ ' ' :: written) = some (.output paneId data) := by
  have decoded : decodedOctal written = some data := by
    have whole : decodeOctal written = pure data := by
      rw [decodeOctal, escaped]
      exact decodeOctalFrom_escape data [] []
    rw [decodedOctal, whole]
    rfl
  rw [parseOutput, marked, List.cons_append, stripPrefix_cons_self]
  simp [splitOnce_decimal, parseNumber_decimal, decoded]

/-- The keywords of guards. -/
def NoGuard (content : Text) : Prop :=
  ¬ beginKeyword <+: content ∧ ¬ endKeyword <+: content ∧ ¬ errorKeyword <+: content

/-- The first three characters tell that a keyword is not that of a guard. -/
def Apart (keyword : Text) : Prop :=
  3 ≤ keyword.length ∧ keyword.take 3 ≠ ['%', 'b', 'e'] ∧ keyword.take 3 ≠ ['%', 'e', 'n'] ∧
    keyword.take 3 ≠ ['%', 'e', 'r']

instance (keyword : Text) : Decidable (Apart keyword) :=
  inferInstanceAs (Decidable (_ ∧ _))

theorem not_isPrefix {keyword guardWord : Text} (other : keyword.take 3 ≠ guardWord.take 3)
    (long : 3 ≤ keyword.length) (enough : 3 ≤ guardWord.length) (rest : Text) :
    ¬ guardWord <+: keyword ++ rest := by
  rintro ⟨after, same⟩
  apply other
  have fronts := congrArg (List.take 3) same
  rw [List.take_append_of_le_length enough, List.take_append_of_le_length long] at fronts
  exact fronts.symm

theorem noGuard_append {keyword : Text} (apart : Apart keyword) (rest : Text) :
    NoGuard (keyword ++ rest) := by
  obtain ⟨long, notBegin, notEnd, notError⟩ := apart
  exact ⟨not_isPrefix notBegin long (by decide) rest, not_isPrefix notEnd long (by decide) rest,
    not_isPrefix notError long (by decide) rest⟩

theorem parseLine_new {line content : Text} (same : lineContent line = content)
    (noGuard : NoGuard content) :
    TmuxParser.new.parseLine line = (TmuxParser.new, parseNotification content) := by
  rw [TmuxParser.parseLine, same, if_neg noGuard.1, if_neg noGuard.2.1, if_neg noGuard.2.2]
  rfl

/-- A keyword that ends in a space stays whole when line endings are taken off. -/
theorem lineContent_keyword (keyword : Text) (rest : Text) :
    lineContent (keyword ++ ' ' :: rest) = keyword ++ ' ' :: lineContent rest :=
  lineContent_append_cons (by decide)

theorem trimEnd_lineContent (text : Text) : trimEnd (lineContent text) = trimEnd text := by
  rw [trimEnd, lineContent, rdropWhile_rdropWhile_of_imp, rdropWhile_rdropWhile_of_imp, ← trimEnd]
  · intro char feed
    obtain rfl : char = '\n' := by simpa using feed
    decide
  · intro char isReturn
    obtain rfl : char = '\r' := by simpa using isReturn
    decide

/-- What becomes of a line with a number and a name behind its keyword. -/
theorem parseLine_named {keyword : Text} {mark : Char} {id : UInt32} {name : Text}
    {event : UInt32 → Text → TmuxEvent} (solid : isWhitespace mark = false)
    (apart : Apart keyword)
    (kind : ∀ rest, parseNotification (keyword ++ rest) =
      (parseIdAndName rest mark).map fun (id, name) => event id name) :
    (TmuxParser.new.parseLine (keyword ++ (marked mark id ++ ' ' :: name))).1 = TmuxParser.new ∧
      ((TmuxParser.new.parseLine (keyword ++ (marked mark id ++ ' ' :: name))).2 =
        some (event id (trimEnd name)) ↔ trimEnd name ≠ []) := by
  have content : lineContent (keyword ++ (marked mark id ++ ' ' :: name)) =
      keyword ++ (marked mark id ++ ' ' :: lineContent name) := by
    rw [← List.append_assoc, lineContent_keyword, List.append_assoc]
  rw [parseLine_new content (noGuard_append apart _), kind, parseIdAndName_marked solid,
    trimEnd_lineContent]
  refine ⟨rfl, ?_⟩
  by_cases blank : trimEnd name = []
  · simp [blank]
  · simp [blank]

theorem parseLine_event {line content : Text} {event : TmuxEvent} {Named : Prop}
    (same : lineContent line = content) (noGuard : NoGuard content)
    (kind : parseNotification content = some event) (named : Named) :
    (TmuxParser.new.parseLine line).1 = TmuxParser.new ∧
      ((TmuxParser.new.parseLine line).2 = some event ↔ Named) := by
  rw [parseLine_new same noGuard, kind]
  exact ⟨rfl, iff_of_true rfl named⟩

/-- What becomes of a line that has nothing to be trimmed. -/
theorem parseLine_clean {keyword rest : Text} {event : TmuxEvent} {Named : Prop}
    (clean : Clean keyword = true) (cleanRest : Clean rest = true) (apart : Apart keyword)
    (kind : parseNotification (keyword ++ rest) = some event) (named : Named) :
    (TmuxParser.new.parseLine (keyword ++ rest)).1 = TmuxParser.new ∧
      ((TmuxParser.new.parseLine (keyword ++ rest)).2 = some event ↔ Named) := by
  have content : lineContent (keyword ++ rest) = keyword ++ rest :=
    lineContent_of_clean (by rw [clean_append, clean, cleanRest]; rfl)
  exact parseLine_event content (noGuard_append apart rest) kind named

section Kinds

variable (rest : Text)

theorem parseNotification_output :
    parseNotification ("%output ".toList ++ rest) = parseOutput rest := rfl

theorem parseNotification_windowAdd : parseNotification ("%window-add ".toList ++ rest) =
    (parseId rest '@').map .windowAdd := rfl

theorem parseNotification_windowClose : parseNotification ("%window-close ".toList ++ rest) =
    (parseId rest '@').map .windowClose := rfl

theorem parseNotification_windowRenamed : parseNotification ("%window-renamed ".toList ++ rest) =
    (parseIdAndName rest '@').map fun (windowId, name) => .windowRenamed windowId name := rfl

theorem parseNotification_layoutChange : parseNotification ("%layout-change ".toList ++ rest) =
    (parseIdAndName rest '@').map fun (windowId, layout) => .layoutChanged windowId layout := rfl

theorem parseNotification_windowPaneChanged :
    parseNotification ("%window-pane-changed ".toList ++ rest) = parseWindowPaneChanged rest := rfl

theorem parseNotification_paneModeChanged :
    parseNotification ("%pane-mode-changed ".toList ++ rest) =
      (parseId rest '%').map .paneModeChanged := rfl

theorem parseNotification_sessionChanged : parseNotification ("%session-changed ".toList ++ rest) =
    (parseIdAndName rest '$').map fun (sessionId, name) => .sessionChanged sessionId name := rfl

theorem parseNotification_sessionRenamed :
    parseNotification ("%session-renamed ".toList ++ rest) = some (.sessionRenamed rest) := rfl

theorem parseNotification_exit :
    parseNotification ("%exit".toList ++ rest) = some (.exit (trim rest)) := rfl

end Kinds

section Foreign

variable {word front text : Text}

/-- A line that starts with this word and has, if anything, a space behind it. -/
def Heads (word line : Text) : Prop := line = word ∨ ∃ rest, line = word ++ ' ' :: rest

theorem Heads.lineContent (heads : Heads word text)
    (solid : ∀ char ∈ word, isWhitespace char = false) : Heads word (lineContent text) := by
  obtain rfl | ⟨rest, rfl⟩ := heads
  · left
    rw [lineContent_eq_self_iff]
    intro char last
    have blank := solid char (List.mem_of_getLast? last)
    constructor
    · rintro rfl
      exact absurd blank (by decide)
    · rintro rfl
      exact absurd blank (by decide)
  · exact .inr ⟨_, lineContent_keyword word rest⟩

/-- Where one word of a line is followed by a space, it is the word that heads the line. -/
theorem Heads.eq_of_isPrefix (heads : Heads word text) (solid : ' ' ∉ word) (spaceless : ' ' ∉ front)
    (isFront : front ++ [' '] <+: text) : front = word := by
  obtain ⟨after, rfl⟩ := isFront
  have cut : splitOnce ' ' (front ++ [' '] ++ after) = some (front, after) := by
    rw [← List.append_cons]
    exact splitOnce_append spaceless after
  obtain same | ⟨rest, same⟩ := heads
  · rw [same, splitOnce_of_absent solid] at cut
    cases cut
  · rw [same, splitOnce_append solid, Option.some.injEq, Prod.mk.injEq] at cut
    exact cut.1.symm

/-- Text without a space at the front of a line is at the front of the word that heads it. -/
theorem Heads.isPrefix (heads : Heads word text) (spaceless : ' ' ∉ front)
    (isFront : front <+: text) : front <+: word := by
  obtain rfl | ⟨rest, rfl⟩ := heads
  · exact isFront
  · obtain short | ⟨more, rfl⟩ := List.prefix_or_prefix_of_prefix isFront (List.prefix_append word _)
    · exact short
    · cases more with
      | nil => simp
      | cons next more =>
          rw [List.prefix_append_right_inj] at isFront
          obtain ⟨rfl, -⟩ := List.cons_prefix_cons.mp isFront
          exact absurd (List.mem_append_right word List.mem_cons_self) spaceless

theorem onKeyword_none {keyword : String} {parse : Text → Option TmuxEvent}
    (absent : ¬ keyword.toList <+: text) : onKeyword keyword parse text = none := by
  rw [onKeyword, stripPrefix, if_neg absent]
  rfl

/-- A word that the parser does not look for gives no event, whatever stands behind it. -/
theorem Foreign.parse (foreign : Foreign word) (heads : Heads word text) :
    NoGuard text ∧ parseNotification text = none := by
  obtain ⟨-, unknown, noExit, solid⟩ := foreign
  have spaceless : ' ' ∉ word := fun member => absurd (solid ' ' member) (by decide)
  have apart {spaced : Text} (keyword : Text) (known : keyword ∈ knownWords)
      (whole : ' ' ∉ keyword) (same : spaced = keyword ++ [' ']) : ¬ spaced <+: text := by
    rw [same]
    intro isFront
    rw [heads.eq_of_isPrefix spaceless whole isFront] at known
    exact unknown known
  have noSessions : text ≠ "%sessions-changed".toList := by
    rintro rfl
    obtain same | ⟨rest, same⟩ := heads
    · rw [← same] at unknown
      exact unknown (by decide)
    · have member : ' ' ∈ "%sessions-changed".toList := by
        rw [same]
        simp
      exact absurd member (by decide)
  have noneExit : ¬ "%exit".toList <+: text := fun isFront =>
    noExit (heads.isPrefix (by decide) isFront)
  have quiet : ∀ kind ∈ notificationKinds, kind text = none := by
    simp only [notificationKinds, List.forall_mem_cons, List.not_mem_nil, false_imp_iff,
      implies_true, and_true, if_neg noSessions]
    exact ⟨onKeyword_none (apart "%output".toList (by decide) (by decide) rfl),
      onKeyword_none (apart "%window-add".toList (by decide) (by decide) rfl),
      onKeyword_none (apart "%window-close".toList (by decide) (by decide) rfl),
      onKeyword_none (apart "%window-renamed".toList (by decide) (by decide) rfl),
      onKeyword_none (apart "%layout-change".toList (by decide) (by decide) rfl),
      onKeyword_none (apart "%window-pane-changed".toList (by decide) (by decide) rfl),
      onKeyword_none (apart "%pane-mode-changed".toList (by decide) (by decide) rfl),
      onKeyword_none (apart "%session-changed".toList (by decide) (by decide) rfl),
      trivial, onKeyword_none (apart "%session-renamed".toList (by decide) (by decide) rfl),
      onKeyword_none noneExit⟩
  refine ⟨⟨apart "%begin".toList (by decide) (by decide) rfl,
    apart "%end".toList (by decide) (by decide) rfl, apart "%error".toList (by decide) (by decide) rfl⟩, ?_⟩
  rw [parseNotification, List.findSome?_eq_none_iff.mpr quiet]
  rfl

theorem parseLine_foreign (foreign : Foreign word) (heads : Heads word text) :
    TmuxParser.new.parseLine text = (TmuxParser.new, none) := by
  obtain ⟨noGuard, dropped⟩ := foreign.parse (heads.lineContent foreign.2.2.2)
  rw [parseLine_new rfl noGuard, dropped]

end Foreign

/-- A notification leaves the parser as it was, and gives its event when its name is not blank. -/
theorem parseLine_notification (sent : Notification) :
    (TmuxParser.new.parseLine sent.line).1 = TmuxParser.new ∧
      (sent.due.Met (TmuxParser.new.parseLine sent.line).2 ↔ sent.Named) := by
  cases sent with
  | output paneId data written escaped =>
      have clean : Clean (marked '%' paneId ++ ' ' :: written) = true := by
        rw [clean_append, clean_cons, clean_marked (by decide), clean_written escaped]
        rfl
      have kind := (parseNotification_output _).trans (parseOutput_marked paneId escaped)
      exact parseLine_clean (by decide) clean (by decide) kind trivial
  | windowAdd windowId =>
      have kind := parseNotification_windowAdd (marked '@' windowId)
      rw [parseId_marked (by decide)] at kind
      exact parseLine_clean (by decide) (clean_marked (by decide) _) (by decide)
        kind trivial
  | windowClose windowId =>
      have kind := parseNotification_windowClose (marked '@' windowId)
      rw [parseId_marked (by decide)] at kind
      exact parseLine_clean (by decide) (clean_marked (by decide) _) (by decide)
        kind trivial
  | windowRenamed windowId name =>
      exact parseLine_named (by decide) (by decide) parseNotification_windowRenamed
  | layoutChange windowId layout =>
      exact parseLine_named (by decide) (by decide) parseNotification_layoutChange
  | windowPaneChanged windowId paneId =>
      have clean : Clean (marked '@' windowId ++ ' ' :: marked '%' paneId) = true := by
        rw [clean_append, clean_cons, clean_marked (by decide), clean_marked (by decide)]
        rfl
      have kind := (parseNotification_windowPaneChanged _).trans
        (parseWindowPaneChanged_marked windowId paneId)
      exact parseLine_clean (by decide) clean (by decide) kind trivial
  | paneModeChanged paneId =>
      have kind := parseNotification_paneModeChanged (marked '%' paneId)
      rw [parseId_marked (by decide)] at kind
      exact parseLine_clean (by decide) (clean_marked (by decide) _) (by decide)
        kind trivial
  | sessionChanged sessionId name =>
      exact parseLine_named (by decide) (by decide) parseNotification_sessionChanged
  | sessionsChanged => exact ⟨by decide, iff_of_true (by decide) trivial⟩
  | sessionRenamed name =>
      have content : lineContent ("%session-renamed ".toList ++ name) =
          "%session-renamed ".toList ++ lineContent name := by
        have cut : "%session-renamed ".toList = "%session-renamed".toList ++ [' '] := by decide
        rw [cut, List.append_assoc, List.append_assoc]
        exact lineContent_keyword "%session-renamed".toList name
      exact parseLine_event content (noGuard_append (by decide) _)
        (parseNotification_sessionRenamed _) trivial
  | exit reason =>
      cases reason with
      | none => exact ⟨by decide, iff_of_true (by decide) trivial⟩
      | some reason =>
          have content := lineContent_keyword "%exit".toList reason
          have kind := parseNotification_exit (' ' :: lineContent reason)
          rw [trim_cons_blank (by decide), trim, trimEnd_lineContent, ← trim] at kind
          exact parseLine_event content (noGuard_append (by decide) _) kind trivial
  | other word told foreign =>
      have heads : Heads word (Notification.other word told foreign).line := by
        cases told with
        | none => exact .inl rfl
        | some told => exact .inr ⟨told, rfl⟩
      rw [parseLine_foreign foreign heads]
      exact ⟨rfl, iff_of_false Bool.false_ne_true id⟩

end Notifications

section Responses

variable {cmd : PendingCommand} {parser : TmuxParser} {line : Text}

theorem guard_content {keyword : Text} (clean : Clean keyword = true) (guard : Guard) :
    lineContent (guard.line keyword) = guard.line keyword := by
  apply lineContent_of_clean
  simp only [Guard.line, clean_append, clean_cons, clean_decimal, clean]
  decide

theorem parseGuardId_begin (guard : Guard) :
    parseGuardId (guard.line beginKeyword) = guard.number := by
  have keyword : ∀ char ∈ "%begin".toList, isWhitespace char = false := by
    simp [isWhitespace]
  have afterBlank (rest : Text) : words (' ' :: rest) = words rest := by
    rw [words, if_pos (by decide)]
  have blank (rest : Text) : (' ' :: rest).head?.all isWhitespace = true := rfl
  have last := words_decimal guard.flags (show ([] : Text).head?.all isWhitespace = true from rfl)
  rw [List.append_nil] at last
  have whole : words (guard.line beginKeyword) =
      ["%begin".toList, decimal guard.time, decimal guard.number.toNat, decimal guard.flags] := by
    have shape : guard.line beginKeyword = "%begin".toList ++ ' ' :: (decimal guard.time ++
        ' ' :: (decimal guard.number.toNat ++ ' ' :: decimal guard.flags)) := rfl
    rw [shape, words_solid (by decide) keyword (blank _), afterBlank, words_decimal _ (blank _),
      afterBlank, words_decimal _ (blank _), afterBlank, last]
    rfl
  have third : (words (guard.line beginKeyword))[2]? = some (decimal guard.number.toNat) := by
    rw [whole]
    rfl
  rw [parseGuardId, third, Option.bind_some, parseNumber_decimal, Option.getD_some]

theorem parseLine_begin (guard : Guard) :
    parser.parseLine (guard.line beginKeyword) = (⟨some ⟨guard.number, []⟩⟩, none) := by
  have front : beginKeyword <+: guard.line beginKeyword := List.prefix_append ..
  rw [TmuxParser.parseLine, guard_content (by decide), if_pos front, parseGuardId_begin]

theorem parseLine_closing (guard : Guard) (failed : Bool) :
    parser.parseLine (guard.line (if failed then errorKeyword else endKeyword)) =
      parser.finish (if failed then .commandError else .commandOk) := by
  cases failed with
  | true =>
      have notBegin : ¬ beginKeyword <+: guard.line errorKeyword :=
        not_isPrefix (by decide) (by decide) (by decide) _
      have notEnd : ¬ endKeyword <+: guard.line errorKeyword :=
        not_isPrefix (by decide) (by decide) (by decide) _
      have front : errorKeyword <+: guard.line errorKeyword := List.prefix_append ..
      simp only [if_true]
      rw [TmuxParser.parseLine, guard_content (by decide), if_neg notBegin, if_neg notEnd,
        if_pos front]
  | false =>
      have notBegin : ¬ beginKeyword <+: guard.line endKeyword :=
        not_isPrefix (by decide) (by decide) (by decide) _
      have front : endKeyword <+: guard.line endKeyword := List.prefix_append ..
      simp only [Bool.false_eq_true, if_false]
      rw [TmuxParser.parseLine, guard_content (by decide), if_neg notBegin, if_pos front]

theorem finish_fst (event : UInt32 → Text → TmuxEvent) :
    (parser.finish event).1 = TmuxParser.new := by
  obtain ⟨pending⟩ := parser
  cases pending <;> rfl

theorem plain_iff : Plain line ↔ NoGuard line ∧ lineContent line = line := by
  rw [lineContent_eq_self_iff, Plain, NoGuard]
  simp only [and_assoc]

/-- What a line that gives no event does to a response that is under way. -/
theorem parseLine_pending (quiet : ((⟨some cmd⟩ : TmuxParser).parseLine line).2 = none) :
    (beginKeyword <+: lineContent line ∧ ∃ id,
      ((⟨some cmd⟩ : TmuxParser).parseLine line).1 = ⟨some ⟨id, []⟩⟩) ∨
    (NoGuard (lineContent line) ∧ ((⟨some cmd⟩ : TmuxParser).parseLine line).1 =
      ⟨some ⟨cmd.id, cmd.lines ++ [lineContent line]⟩⟩) := by
  rw [TmuxParser.parseLine] at quiet ⊢
  dsimp only at quiet ⊢
  by_cases begins : beginKeyword <+: lineContent line
  · rw [if_pos begins]
    exact .inl ⟨begins, _, rfl⟩
  · rw [if_neg begins] at quiet ⊢
    by_cases ends : endKeyword <+: lineContent line
    · rw [if_pos ends] at quiet
      cases quiet
    · rw [if_neg ends] at quiet ⊢
      by_cases fails : errorKeyword <+: lineContent line
      · rw [if_pos fails] at quiet
        cases quiet
      · rw [if_neg fails]
        exact .inr ⟨⟨begins, ends, fails⟩, rfl⟩

theorem parseLine_plain (plain : Plain line) :
    (⟨some cmd⟩ : TmuxParser).parseLine line = (⟨some ⟨cmd.id, cmd.lines ++ [line]⟩⟩, none) := by
  obtain ⟨⟨notBegin, notEnd, notError⟩, same⟩ := plain_iff.mp plain
  rw [TmuxParser.parseLine, same, if_neg notBegin, if_neg notEnd, if_neg notError]

end Responses

section Tracking

variable {kept output lines : List Text} {line : Text} {cmd : PendingCommand}

theorem length_joinLines_concat (lines : List Text) (line : Text) :
    (joinLines (lines ++ [line])).length =
      (if lines = [] then 0 else (joinLines lines).length + 1) + line.length := by
  induction lines with
  | nil => simp [joinLines]
  | cons first lines ih =>
      have rest : lines ++ [line] ≠ [] := by simp
      rw [joinLines] at ih ⊢
      rw [List.cons_append, List.intercalate_cons_of_ne_nil rest, List.length_append,
        List.length_append, ih]
      cases lines with
      | nil => simp [joinLines]
      | cons second lines =>
          simp only [joinLines, List.intercalate_cons_cons, List.length_append,
            List.length_singleton, reduceCtorEq, if_false]
          omega

/-- What is kept of some output: all of it, when its lines are plain, and otherwise less. -/
def Tracked (kept output : List Text) : Prop :=
  (kept = output ∧ ∀ line ∈ output, Plain line) ∨
    (joinLines kept).length < (joinLines output).length

theorem Tracked.restart (begins : beginKeyword <+: lineContent line) :
    Tracked [] (output ++ [line]) := by
  right
  have long := begins.length_le
  have short := (lineContent_isPrefix line).length_le
  have some_ : beginKeyword.length = 7 := rfl
  rw [length_joinLines_concat]
  simp only [joinLines, List.intercalate_nil, List.length_nil]
  omega

theorem Tracked.append (tracked : Tracked kept output) (noGuard : NoGuard (lineContent line)) :
    Tracked (kept ++ [lineContent line]) (output ++ [line]) := by
  have short := (lineContent_isPrefix line).length_le
  obtain ⟨rfl, plain⟩ | less := tracked
  · by_cases same : lineContent line = line
    · left
      rw [same] at noGuard ⊢
      refine ⟨rfl, ?_⟩
      intro other member
      rcases List.mem_append.mp member with early | late
      · exact plain other early
      · rw [List.mem_singleton.mp late]
        exact plain_iff.mpr ⟨noGuard, same⟩
    · right
      have shorter : (lineContent line).length < line.length := by
        refine Nat.lt_of_le_of_ne short fun equal => same ?_
        exact (lineContent_isPrefix line).eq_of_length equal
      rw [length_joinLines_concat, length_joinLines_concat]
      exact Nat.add_lt_add_left shorter _
  · right
    have some_ : output ≠ [] := by
      rintro rfl
      simp [joinLines] at less
    rw [length_joinLines_concat, length_joinLines_concat, if_neg some_]
    split
    · omega
    · omega

/-- The output that a response has taken in is tracked as long as no line gives an event; the
induction is on the lines that are still to come. -/
theorem tracked_parseLines (tracked : Tracked cmd.lines output)
    (quiet : ∀ event ∈ ((⟨some cmd⟩ : TmuxParser).parseLines lines).2, event = none) :
    ∃ last : PendingCommand, ((⟨some cmd⟩ : TmuxParser).parseLines lines).1 = ⟨some last⟩ ∧
      Tracked last.lines (output ++ lines) := by
  induction lines generalizing cmd output with
  | nil => exact ⟨cmd, rfl, by rwa [List.append_nil]⟩
  | cons line lines ih =>
      have shape : output ++ line :: lines = (output ++ [line]) ++ lines := by simp
      rw [shape]
      rw [TmuxParser.parseLines] at quiet ⊢
      dsimp only at quiet ⊢
      have first := quiet _ List.mem_cons_self
      have later := fun event member => quiet event (List.mem_cons_of_mem _ member)
      obtain ⟨begins, id, next⟩ | ⟨noGuard, next⟩ := parseLine_pending first
      · rw [next] at later ⊢
        exact ih (Tracked.restart begins) later
      · rw [next] at later ⊢
        exact ih (tracked.append noGuard) later

theorem plain_parseLines (plain : ∀ line ∈ lines, Plain line) :
    (⟨some cmd⟩ : TmuxParser).parseLines lines =
      (⟨some ⟨cmd.id, cmd.lines ++ lines⟩⟩, lines.map fun _ => none) := by
  induction lines generalizing cmd with
  | nil => simp [TmuxParser.parseLines]
  | cons line lines ih =>
      have later := @ih ⟨cmd.id, cmd.lines ++ [line]⟩
        fun other member => plain other (List.mem_cons_of_mem _ member)
      rw [TmuxParser.parseLines, parseLine_plain (plain line List.mem_cons_self)]
      dsimp only
      rw [later]
      simp

end Tracking

section Sequences

variable {parser : TmuxParser}

theorem parseLines_append (front back : List Text) :
    parser.parseLines (front ++ back) =
      (((parser.parseLines front).1.parseLines back).1,
        (parser.parseLines front).2 ++ ((parser.parseLines front).1.parseLines back).2) := by
  induction front generalizing parser with
  | nil => rfl
  | cons line front ih =>
      simp only [List.cons_append, TmuxParser.parseLines, ih]

theorem length_parseLines (lines : List Text) :
    (parser.parseLines lines).2.length = lines.length := by
  induction lines generalizing parser with
  | nil => rfl
  | cons line lines ih =>
      rw [TmuxParser.parseLines]
      simp [ih]

theorem parseLines_block (block : Block) :
    TmuxParser.new.parseLines block.lines =
      (TmuxParser.new, none :: (((⟨some ⟨block.guard.number, []⟩⟩ : TmuxParser).parseLines
        block.output).2 ++
          [(((⟨some ⟨block.guard.number, []⟩⟩ : TmuxParser).parseLines block.output).1.finish
            (if block.failed then .commandError else .commandOk)).2])) := by
  rw [Block.lines, TmuxParser.parseLines, parseLine_begin]
  dsimp only
  rw [parseLines_append, TmuxParser.parseLines, parseLine_closing]
  dsimp only
  rw [TmuxParser.parseLines, finish_fst]

theorem response_eq (block : Block) : block.response =
    (if block.failed then TmuxEvent.commandError else .commandOk) block.guard.number
      (joinLines block.output) := by
  rw [Block.response]
  split <;> rfl

/-- A block leaves no response under way, and its answer is whole when its output is plain. -/
theorem block_iff (block : Block) :
    (TmuxParser.new.parseLines block.lines).1 = TmuxParser.new ∧
      ((TmuxParser.new.parseLines block.lines).2 = block.answers ↔
        ∀ line ∈ block.output, Plain line) := by
  rw [parseLines_block]
  refine ⟨rfl, ?_⟩
  rw [Block.answers, List.cons.injEq, and_iff_right rfl, response_eq]
  have lengths : (((⟨some ⟨block.guard.number, []⟩⟩ : TmuxParser).parseLines block.output).2).length =
      (block.output.map fun _ => (none : Option TmuxEvent)).length := by
    rw [length_parseLines, List.length_map]
  constructor
  · intro same
    obtain ⟨quiet, response⟩ := List.append_inj same lengths
    have start : Tracked (PendingCommand.mk block.guard.number []).lines [] :=
      .inl ⟨rfl, by simp⟩
    obtain ⟨last, state, tracked⟩ := tracked_parseLines start (by
      intro event member
      rw [quiet] at member
      obtain ⟨_, -, rfl⟩ := List.mem_map.mp member
      rfl)
    rw [state] at response
    have texts : joinLines last.lines = joinLines block.output := by
      have events := Option.some.inj (List.singleton_inj.mp response)
      cases failed : block.failed with
      | true =>
          rw [failed] at events
          exact (TmuxEvent.commandError.inj events).2
      | false =>
          rw [failed] at events
          exact (TmuxEvent.commandOk.inj events).2
    obtain ⟨-, plain⟩ | less := tracked
    · exact plain
    · rw [List.nil_append, texts] at less
      exact absurd less (Nat.lt_irrefl _)
  · intro plain
    rw [plain_parseLines plain]
    rfl

/-- Answers that are owed one by one are given when they are the same. -/
theorem met_answers {owed given : List (Option TmuxEvent)} :
    List.Forall₂ Due.Met (owed.map .answer) given ↔ given = owed := by
  rw [List.forall₂_map_left_iff]
  constructor
  · intro met
    have same : List.Forall₂ Eq given owed := met.flip
    rwa [List.forall₂_eq_eq_eq] at same
  · rintro rfl
    exact List.forall₂_same.mpr fun _ _ => rfl

theorem met_append {front back : List Due} {first later : List (Option TmuxEvent)}
    (lengths : front.length = first.length) :
    List.Forall₂ Due.Met (front ++ back) (first ++ later) ↔
      List.Forall₂ Due.Met front first ∧ List.Forall₂ Due.Met back later := by
  constructor
  · intro met
    have early := List.forall₂_take_append _ _ _ met
    have late := List.forall₂_drop_append _ _ _ met
    rw [← lengths, List.take_left] at early
    rw [← lengths, List.drop_left] at late
    exact ⟨early, late⟩
  · rintro ⟨early, late⟩
    exact List.rel_append early late

theorem item_iff (item : Item) :
    (TmuxParser.new.parseLines item.lines).1 = TmuxParser.new ∧
      (List.Forall₂ Due.Met item.due (TmuxParser.new.parseLines item.lines).2 ↔ item.Kept) := by
  cases item with
  | block sent =>
      obtain ⟨state, whole⟩ := block_iff sent
      exact ⟨state, met_answers.trans whole⟩
  | notification sent =>
      obtain ⟨state, event⟩ := parseLine_notification sent
      refine ⟨state, ?_⟩
      rw [Item.Kept, ← event]
      exact List.forall₂_cons.trans (and_iff_left .nil)

theorem length_due (item : Item) : item.due.length = item.lines.length := by
  cases item with
  | block sent => simp [Item.due, Item.lines, Block.answers, Block.lines]
  | notification sent => rfl

end Sequences

/-- Blocks and notifications in any order are answered as they should be exactly when no output
line looks like a guard or ends in a line ending, every notification is of a kind that has an event,
and no name is blank. -/
theorem answered_iff (items : List Item) : Answered items ↔ ∀ item ∈ items, item.Kept := by
  rw [Answered]
  induction items with
  | nil => exact iff_of_true .nil (by simp)
  | cons item items ih =>
      obtain ⟨state, kept⟩ := item_iff item
      rw [List.flatMap_cons, List.flatMap_cons, parseLines_append, state, List.forall_mem_cons,
        met_append (by rw [length_parseLines, length_due]), kept, ih]

/-- A file that is listed by a command and has a line that looks like a guard. -/
def listedFile : Block where
  guard := ⟨1363006971, 2, 1⟩
  output := ["begin".toList, "%end of part one".toList, "part two".toList]
  failed := false

/-- The response comes with the first line only, and the rest of the output is dropped. -/
theorem not_answered_listedFile : ¬ Answered [.block listedFile] := by decide

end Boo.Tmux.Blocks
