/- module: Boo/Runtime/Hyperlinks
   digest: The scan of formatted terminal bytes for the hyperlink at a cell, and what it finds there. -/

import Boo.Lib.TextLines
import Boo.Remote.Texts
import Boo.Runtime.OscSequences

set_option autoImplicit false
set_option relaxedAutoImplicit false

namespace Boo.Runtime.Hyperlinks

open Boo.Lib.TextLines
open Boo.Remote.ReadLoop (fromUtf8)
open Boo.Remote.Texts
open Boo.Runtime.VtBackend
open Boo.Runtime.OscSequences

def leftBracket : UInt8 := 0x5b

def carriageReturn : UInt8 := 0x0d

def lineFeed : UInt8 := 0x0a

def osc8PayloadToLink (payload : Text) : Option Text :=
  ((stripPrefix ['8'] payload).bind (stripPrefix [';', ';'])).bind fun rest =>
    if rest.isEmpty then none else some rest

/-- `parse_osc8`, with the bytes of the payload so far: how many bytes of the payload and its end
there are, and the link. -/
def parseOsc8 (payload : List UInt8) : List UInt8 → Option (ℕ × Option Text)
  | [] => none
  | byte :: rest =>
      if byte = bellByte then
        (fromUtf8 payload).map fun text => (payload.length + 1, osc8PayloadToLink text.toList)
      else if byte = escapeByte ∧ rest.head? = some backslash then
        (fromUtf8 payload).map fun text => (payload.length + 2, osc8PayloadToLink text.toList)
      else parseOsc8 (payload ++ [byte]) rest

/-- The loop over a control sequence, up to its final byte. -/
def skipControl : List UInt8 → List UInt8
  | [] => []
  | byte :: rest => if 0x40 ≤ byte ∧ byte ≤ 0x7e then rest else skipControl rest

/-- The decoder reads all that remains, and takes one character of it. -/
def nextUtf8Char (bytes : List UInt8) : Option Char :=
  (fromUtf8 bytes).bind fun text => text.toList.head?

theorem length_skipControl (bytes : List UInt8) : (skipControl bytes).length ≤ bytes.length := by
  induction bytes with
  | nil => exact Nat.le_refl _
  | cons byte rest ih =>
      rw [skipControl, List.length_cons]
      split <;> omega

section Scanning

variable (width : Char → Option ℕ) (targetRow targetCol : ℕ)

/-- `UnicodeWidthChar::width` is the parameter; a character takes at least one column. -/
def charColumns (ch : Char) : ℕ := max ((width ch).getD 1) 1

/-- The loop of `hyperlink_at_position`: every turn takes at least one byte. -/
def scan (row col : ℕ) (link : Option Text) (bytes : List UInt8) : Option Text :=
  match bytes with
  | [] => none
  | byte :: rest =>
      if byte = escapeByte then
        match rest with
        | [] => none
        | next :: later =>
            if next = rightBracket then
              match parseOsc8 [] later with
              | some (taken, own) => scan row col own (later.drop taken)
              | none => scan row col link (next :: later)
            else if next = leftBracket then scan row col link (skipControl later)
            else scan row col link (next :: later)
      else if byte = carriageReturn then scan row 0 link rest
      else if byte = lineFeed then scan (row + 1) 0 link rest
      else
        match nextUtf8Char (byte :: rest) with
        | none => none
        | some ch =>
            let columns := charColumns width ch
            if row = targetRow ∧ col ≤ targetCol ∧ targetCol < col + columns ∧ link.isSome then link
            else scan row (col + columns) link (rest.drop (ch.utf8Size - 1))
  termination_by bytes.length
  decreasing_by
    all_goals simp only [List.length_cons, List.length_drop]
    all_goals try omega
    have := length_skipControl later
    omega

def hyperlinkAtPosition (bytes : List UInt8) : Option Text :=
  scan width targetRow targetCol 0 0 none bytes

end Scanning

section Rendering

structure Link where
  parameters : Text
  uri : Text
  deriving DecidableEq

structure Cell where
  base : Char
  marks : List Char
  link : Option Link
  deriving DecidableEq

/-- What a row is rendered from: the characters of a cell, a control sequence, or the OSC 8 sequence
that opens a link, or with an empty target closes it. -/
inductive Token
  | cell (base : Char) (marks : List Char)
  | control (parameters : Text) (final : Char)
  | link (parameters uri : Text) (terminator : Terminator)

def terminatorText : Terminator → Text
  | .bell => ['\x07']
  | .string => ['\x1b', '\\']

def Token.text : Token → Text
  | cell base marks => base :: marks
  | control parameters final => ['\x1b', '['] ++ parameters ++ [final]
  | link parameters uri terminator =>
      ['\x1b', ']'] ++ (['8', ';'] ++ parameters ++ [';'] ++ uri) ++ terminatorText terminator

def rowText (row : List Token) : Text := row.flatMap Token.text

def rendered (rows : List (List Token)) : List UInt8 :=
  utf8 (['\r', '\n'].intercalate (rows.map rowText))

/-- The link that is open after a row. -/
def linkAfter (link : Option Link) : List Token → Option Link
  | [] => link
  | .link parameters uri _ :: row =>
      linkAfter (if uri = [] then none else some ⟨parameters, uri⟩) row
  | _ :: row => linkAfter link row

/-- The cells of a row, each with the link that is open there. -/
def cellsOf (link : Option Link) : List Token → List Cell
  | [] => []
  | .cell base marks :: row => ⟨base, marks, link⟩ :: cellsOf link row
  | .control _ _ :: row => cellsOf link row
  | .link parameters uri _ :: row =>
      cellsOf (if uri = [] then none else some ⟨parameters, uri⟩) row

/-- The grid that is rendered; a link stays open from row to row. -/
def gridFrom (link : Option Link) : List (List Token) → List (List Cell)
  | [] => []
  | row :: rows => cellsOf link row :: gridFrom (linkAfter link row) rows

def gridOf (rows : List (List Token)) : List (List Cell) := gridFrom none rows

variable (width : Char → Option ℕ)

/-- The cell that covers a column, each cell taking some columns. -/
def covering (columns : Cell → ℕ) : List Cell → ℕ → Option Cell
  | [], _ => none
  | cell :: row, col =>
      if col < columns cell then some cell else covering columns row (col - columns cell)

def Cell.columns (cell : Cell) : ℕ := (width cell.base).getD 0

/-- The columns of a cell when each combining mark takes one of its own. -/
def Cell.columnsWithMarks (cell : Cell) : ℕ := cell.columns width + cell.marks.length

/-- The target of the link, if the sequence that opened it has no parameters. -/
def Cell.plainTarget (cell : Cell) : Option Text :=
  (cell.link.filter fun link => link.parameters.isEmpty).map Link.uri

def Cell.target (cell : Cell) : Option Text := cell.link.map Link.uri

/-- The cell that covers a position. -/
def coveringAt (columns : Cell → ℕ) (grid : List (List Cell)) (row col : ℕ) : Option Cell :=
  (grid[row]?).bind fun cells => covering columns cells col

def linkAt (grid : List (List Cell)) (row col : ℕ) : Option Text :=
  (coveringAt (Cell.columns width) grid row col).bind Cell.target

/-- The combining marks in front of the cell that covers a column; they push it to the right. -/
def marksBefore : List Cell → ℕ → ℕ
  | [], _ => 0
  | cell :: row, col =>
      if col < cell.columns width then 0
      else cell.marks.length + marksBefore row (col - cell.columns width)

def Cell.LinkPlain (cell : Cell) : Prop := ∀ link ∈ cell.link, link.parameters = []

instance (cell : Cell) : Decidable cell.LinkPlain :=
  inferInstanceAs (Decidable (∀ link ∈ cell.link, link.parameters = []))

/-- The cell that covers a column has no marks in front of it, and if it has a link then one without
parameters; or there are marks, and the cell that they push there happens to have the same link. -/
def LinkInPlace (cells : List Cell) (col : ℕ) : Prop :=
  if marksBefore width cells col = 0 then ∀ cell ∈ covering (Cell.columns width) cells col,
    cell.LinkPlain
  else (covering (Cell.columnsWithMarks width) cells col).bind Cell.plainTarget =
    (covering (Cell.columns width) cells col).bind Cell.target

instance (cells : List Cell) (col : ℕ) : Decidable (LinkInPlace width cells col) :=
  inferInstanceAs (Decidable (if marksBefore width cells col = 0 then
    ∀ cell ∈ covering (Cell.columns width) cells col, cell.LinkPlain
    else (covering (Cell.columnsWithMarks width) cells col).bind Cell.plainTarget =
      (covering (Cell.columns width) cells col).bind Cell.target))

/-- Only links that are opened without parameters, and with a column for each combining mark. -/
def plainLinkAt (grid : List (List Cell)) (row col : ℕ) : Option Text :=
  (coveringAt (Cell.columnsWithMarks width) grid row col).bind Cell.plainTarget

/-- Base characters of one or two columns, combining marks of none, and sequences as terminals take
them. -/
def Token.WellFormed : Token → Prop
  | cell base marks =>
      (width base = some 1 ∨ width base = some 2) ∧ ∀ mark ∈ marks, width mark = some 0
  | control parameters final =>
      (∀ char ∈ parameters, 0x20 ≤ char.toNat ∧ char.toNat < 0x40) ∧
        0x40 ≤ final.toNat ∧ final.toNat ≤ 0x7e
  | link parameters uri _ =>
      (∀ char ∈ parameters ++ uri, char ≠ '\x1b' ∧ char ≠ '\x07') ∧ ';' ∉ parameters

instance (token : Token) : Decidable (token.WellFormed width) :=
  match token with
  | .cell _ marks => @instDecidableAnd _ _ inferInstance (List.decidableBAll _ marks)
  | .control parameters _ => @instDecidableAnd _ _ (List.decidableBAll _ parameters) inferInstance
  | .link parameters uri _ =>
      @instDecidableAnd _ _ (List.decidableBAll _ (parameters ++ uri)) inferInstance

/-- Control characters have no width; these three are the ones that the scan tells apart. -/
structure ControlsUnsized : Prop where
  escape : width '\x1b' = none
  carriageReturn : width '\r' = none
  lineFeed : width '\n' = none

end Rendering

section Characters

variable {width : Char → Option ℕ} {targetRow targetCol row col : ℕ} {link : Option Text}

theorem scan_nil : scan width targetRow targetCol row col link [] = none := by
  rw [scan.eq_def]

theorem scan_carriageReturn (later : Text) :
    scan width targetRow targetCol row col link (utf8 ('\r' :: later)) =
      scan width targetRow targetCol row 0 link (utf8 later) := by
  rw [utf8_cons, utf8EncodeChar_ascii (by decide), List.singleton_append, scan.eq_def]
  rfl

theorem scan_lineFeed (later : Text) :
    scan width targetRow targetCol row col link (utf8 ('\n' :: later)) =
      scan width targetRow targetCol (row + 1) 0 link (utf8 later) := by
  rw [utf8_cons, utf8EncodeChar_ascii (by decide), List.singleton_append, scan.eq_def]
  rfl

theorem nextUtf8Char_utf8 (char : Char) (later : Text) :
    nextUtf8Char (utf8 (char :: later)) = some char := by
  rw [nextUtf8Char, fromUtf8_utf8, Option.bind_some, String.toList_ofList, List.head?_cons]

/-- The scan takes one character off a text. -/
theorem scan_char {char : Char} (later : Text)
    (solid : char ≠ '\x1b' ∧ char ≠ '\r' ∧ char ≠ '\n') :
    scan width targetRow targetCol row col link (utf8 (char :: later)) =
      if row = targetRow ∧ col ≤ targetCol ∧ targetCol < col + charColumns width char ∧
        link.isSome then link
      else scan width targetRow targetCol row (col + charColumns width char) link (utf8 later) := by
  have decoded := nextUtf8Char_utf8 char later
  have length := String.length_utf8EncodeChar char
  have first : ∀ code : Char, code.toNat < 128 → char ≠ code →
      UInt8.ofNat code.toNat ∉ String.utf8EncodeChar char := by
    intro code ascii other member
    have small : (UInt8.ofNat code.toNat).toNat = code.toNat := by
      rw [UInt8.toNat_ofNat', Nat.mod_eq_of_lt (by omega)]
    rw [mem_utf8EncodeChar_ascii (by omega), small] at member
    exact other (Char.toNat_inj.mp member)
  rw [utf8_cons] at decoded ⊢
  cases encoded : String.utf8EncodeChar char with
  | nil => exact absurd encoded String.utf8EncodeChar_ne_nil
  | cons byte tail =>
      rw [encoded] at length decoded
      rw [List.cons_append] at decoded
      have noEscape : byte ≠ escapeByte := fun same => first '\x1b' (by decide) solid.1 (by
        rw [encoded, same]; exact List.mem_cons_self)
      have noReturn : byte ≠ carriageReturn := fun same => first '\r' (by decide) solid.2.1 (by
        rw [encoded, same]; exact List.mem_cons_self)
      have noFeed : byte ≠ lineFeed := fun same => first '\n' (by decide) solid.2.2 (by
        rw [encoded, same]; exact List.mem_cons_self)
      rw [List.cons_append, scan.eq_def]
      simp only
      rw [if_neg noEscape, if_neg noReturn, if_neg noFeed, decoded]
      have taken : (tail ++ utf8 later).drop (char.utf8Size - 1) = utf8 later := by
        rw [← length, List.length_cons, Nat.add_sub_cancel, List.drop_left]
      simp only [taken]

theorem skipControl_utf8 {parameters : Text} {final : Char} (later : Text)
    (inside : ∀ char ∈ parameters, 0x20 ≤ char.toNat ∧ char.toNat < 0x40)
    (ends : 0x40 ≤ final.toNat ∧ final.toNat ≤ 0x7e) :
    skipControl (utf8 (parameters ++ [final] ++ later)) = utf8 later := by
  induction parameters with
  | nil =>
      rw [List.nil_append, List.singleton_append, utf8_cons, utf8EncodeChar_ascii (by omega),
        List.singleton_append, skipControl, if_pos]
      rw [UInt8.le_iff_toNat_le, UInt8.le_iff_toNat_le, UInt8.toNat_ofNat',
        Nat.mod_eq_of_lt (by omega)]
      exact ends
  | cons char parameters ih =>
      obtain ⟨low, high⟩ := inside char List.mem_cons_self
      rw [List.cons_append, List.cons_append, utf8_cons, utf8EncodeChar_ascii (by omega),
        List.singleton_append, skipControl, if_neg]
      · exact ih fun other member => inside other (List.mem_cons_of_mem _ member)
      · rw [UInt8.le_iff_toNat_le, UInt8.toNat_ofNat', Nat.mod_eq_of_lt (by omega)]
        exact fun both => Nat.not_le.mpr high both.1

theorem scan_control {parameters : Text} {final : Char} (later : Text)
    (wellFormed : (Token.control parameters final).WellFormed width) :
    scan width targetRow targetCol row col link
        (utf8 ((Token.control parameters final).text ++ later)) =
      scan width targetRow targetCol row col link (utf8 later) := by
  have skipped := skipControl_utf8 later wellFormed.1 wellFormed.2
  rw [Token.text, List.append_assoc, List.append_assoc, ← List.append_assoc parameters, utf8_append,
    show utf8 ['\x1b', '['] = [escapeByte, leftBracket] from rfl, List.cons_append,
    List.singleton_append, scan.eq_def]
  simp only
  rw [if_pos trivial, if_neg (by decide), if_pos trivial, skipped]

/-- Bytes that end nothing join the payload. -/
theorem parseOsc8_append {payload plain : List UInt8} (tail : List UInt8)
    (inside : ∀ byte ∈ plain, byte ≠ escapeByte ∧ byte ≠ bellByte) :
    parseOsc8 payload (plain ++ tail) = parseOsc8 (payload ++ plain) tail := by
  induction plain generalizing payload with
  | nil => rw [List.nil_append, List.append_nil]
  | cons byte plain ih =>
      obtain ⟨notEscape, notBell⟩ := inside byte List.mem_cons_self
      rw [List.cons_append, parseOsc8, if_neg notBell, if_neg fun both => notEscape both.1,
        ih fun other member => inside other (List.mem_cons_of_mem _ member), List.append_assoc,
        List.singleton_append]

theorem parseOsc8_utf8 {text : Text} (later : Text) (terminator : Terminator)
    (inside : ∀ char ∈ text, char ≠ '\x1b' ∧ char ≠ '\x07') :
    parseOsc8 [] (utf8 (text ++ terminatorText terminator ++ later)) =
      some ((utf8 text).length + (terminatorText terminator).length, osc8PayloadToLink text) := by
  have plain : ∀ byte ∈ utf8 text, byte ≠ escapeByte ∧ byte ≠ bellByte := by
    intro byte member
    obtain ⟨char, listed, encoded⟩ := List.mem_flatMap.mp member
    constructor
    · rintro rfl
      rw [mem_utf8EncodeChar_ascii (by decide)] at encoded
      exact (inside char listed).1 (Char.toNat_inj.mp encoded)
    · rintro rfl
      rw [mem_utf8EncodeChar_ascii (by decide)] at encoded
      exact (inside char listed).2 (Char.toNat_inj.mp encoded)
  rw [utf8_append, utf8_append, List.append_assoc, parseOsc8_append _ plain, List.nil_append]
  cases terminator with
  | bell =>
      rw [show utf8 (terminatorText .bell) = [bellByte] from rfl, List.singleton_append, parseOsc8,
        if_pos rfl, fromUtf8_utf8, Option.map_some, String.toList_ofList]
      rfl
  | string =>
      rw [show utf8 (terminatorText .string) = [escapeByte, backslash] from rfl, List.cons_append,
        List.singleton_append, parseOsc8, if_neg (by decide), if_pos ⟨rfl, rfl⟩, fromUtf8_utf8,
        Option.map_some, String.toList_ofList]
      rfl

/-- A written link is read as its target where it has no parameters, and as none otherwise. -/
theorem osc8PayloadToLink_written {parameters uri : Text} (plain : ';' ∉ parameters) :
    osc8PayloadToLink (['8', ';'] ++ parameters ++ [';'] ++ uri) =
      if parameters.isEmpty ∧ uri ≠ [] then some uri else none := by
  unfold osc8PayloadToLink
  cases parameters with
  | nil =>
      have opened : stripPrefix ['8'] (['8', ';'] ++ [] ++ [';'] ++ uri) = some (';' :: ';' :: uri) :=
        rfl
      have rest : stripPrefix [';', ';'] (';' :: ';' :: uri) = some uri := rfl
      rw [opened, Option.bind_some, rest, Option.bind_some]
      cases uri <;> simp
  | cons char parameters =>
      have opened : stripPrefix ['8'] (['8', ';'] ++ (char :: parameters) ++ [';'] ++ uri) =
          some (';' :: char :: (parameters ++ [';'] ++ uri)) := rfl
      have other : char ≠ ';' := fun same => plain (same ▸ List.mem_cons_self)
      have rest : stripPrefix [';', ';'] (';' :: char :: (parameters ++ [';'] ++ uri)) = none := by
        unfold stripPrefix
        rw [if_neg]
        simp [List.cons_prefix_cons, Ne.symm other]
      rw [opened, Option.bind_some, rest]
      rfl

theorem scan_link {parameters uri : Text} {terminator : Terminator} (later : Text)
    (wellFormed : (Token.link parameters uri terminator).WellFormed width) :
    scan width targetRow targetCol row col link
        (utf8 ((Token.link parameters uri terminator).text ++ later)) =
      scan width targetRow targetCol row col
        (if parameters.isEmpty ∧ uri ≠ [] then some uri else none) (utf8 later) := by
  obtain ⟨inside, plain⟩ := wellFormed
  have bodyInside : ∀ char ∈ ['8', ';'] ++ parameters ++ [';'] ++ uri,
      char ≠ '\x1b' ∧ char ≠ '\x07' := by
    intro char member
    simp only [List.mem_append, List.mem_cons, List.not_mem_nil, or_false] at member
    obtain (((rfl | rfl) | member) | rfl) | member := member
    · decide
    · decide
    · exact inside char (List.mem_append_left _ member)
    · decide
    · exact inside char (List.mem_append_right _ member)
  have parsed := parseOsc8_utf8 later terminator bodyInside
  rw [osc8PayloadToLink_written plain] at parsed
  rw [Token.text, List.append_assoc, List.append_assoc, ← List.append_assoc _ _ later, utf8_append,
    show utf8 ['\x1b', ']'] = [escapeByte, rightBracket] from rfl, List.cons_append,
    List.singleton_append, scan.eq_def]
  simp only
  rw [if_pos trivial, if_pos trivial, parsed]
  have length : (utf8 (terminatorText terminator)).length = (terminatorText terminator).length := by
    cases terminator <;> rfl
  have taken : ∀ body : Text, (utf8 (body ++ terminatorText terminator ++ later)).drop
      ((utf8 body).length + (terminatorText terminator).length) = utf8 later := by
    intro body
    rw [utf8_append, utf8_append, ← length, ← List.length_append, List.drop_left]
  simp only [taken]

/-- What the scan does with the characters of one cell. -/
theorem scan_chars {chars : Text} (later : Text)
    (solid : ∀ char ∈ chars, char ≠ '\x1b' ∧ char ≠ '\r' ∧ char ≠ '\n') :
    scan width targetRow targetCol row col link (utf8 (chars ++ later)) =
      if row = targetRow ∧ col ≤ targetCol ∧ targetCol < col + (chars.map (charColumns width)).sum ∧
        link.isSome then link
      else scan width targetRow targetCol row (col + (chars.map (charColumns width)).sum) link
        (utf8 later) := by
  induction chars generalizing col with
  | nil =>
      rw [List.map_nil, List.sum_nil, Nat.add_zero, if_neg fun hit => by omega]
      rfl
  | cons char chars ih =>
      rw [List.cons_append, scan_char _ (solid char List.mem_cons_self),
        ih fun other member => solid other (List.mem_cons_of_mem _ member), List.map_cons,
        List.sum_cons, ← Nat.add_assoc]
      by_cases before : targetCol < col + charColumns width char
      · have outside : ¬ (row = targetRow ∧ col + charColumns width char ≤ targetCol ∧
            targetCol < col + charColumns width char + (chars.map (charColumns width)).sum ∧
            link.isSome) := fun hit => by omega
        have inside : targetCol < col + charColumns width char +
            (chars.map (charColumns width)).sum := by omega
        rw [if_neg outside]
        simp only [before, inside]
      · have ordered : (col ≤ targetCol) = (col + charColumns width char ≤ targetCol) := by
          rw [eq_iff_iff]
          omega
        rw [if_neg fun hit => before hit.2.2.1]
        simp only [ordered]

end Characters

section Rows

variable {width : Char → Option ℕ} {targetRow targetCol : ℕ}

theorem columns_chars {base : Char} {marks : List Char} (link : Option Link)
    (wellFormed : (Token.cell base marks).WellFormed width) :
    ((base :: marks).map (charColumns width)).sum =
      (Cell.mk base marks link).columnsWithMarks width := by
  obtain ⟨sized, unsized⟩ := wellFormed
  have marked : marks.map (charColumns width) = List.replicate marks.length 1 := by
    rw [List.eq_replicate_iff, List.length_map]
    refine ⟨rfl, fun columns member => ?_⟩
    obtain ⟨mark, listed, rfl⟩ := List.mem_map.mp member
    rw [charColumns, unsized mark listed]
    rfl
  rw [List.map_cons, List.sum_cons, marked, List.sum_replicate_nat, Nat.mul_one]
  unfold Cell.columnsWithMarks Cell.columns charColumns
  obtain one | two := sized
  · rw [one]
    rfl
  · rw [two]
    rfl

theorem solid_of_cell (unsized : ControlsUnsized width) {base : Char} {marks : List Char}
    (wellFormed : (Token.cell base marks).WellFormed width) :
    ∀ char ∈ base :: marks, char ≠ '\x1b' ∧ char ≠ '\r' ∧ char ≠ '\n' := by
  intro char member
  have sized : (width char).isSome := by
    obtain rfl | member := List.mem_cons.mp member
    · obtain one | two := wellFormed.1
      · rw [one]; rfl
      · rw [two]; rfl
    · rw [wellFormed.2 char member]; rfl
  refine ⟨?_, ?_, ?_⟩
  · rintro rfl
    simp [unsized.escape] at sized
  · rintro rfl
    simp [unsized.carriageReturn] at sized
  · rintro rfl
    simp [unsized.lineFeed] at sized

/-- The link as the scan keeps it. -/
def kept (link : Option Link) : Option Text :=
  (link.filter fun link => link.parameters.isEmpty).map Link.uri

/-- The row: the scan finds the plain target of the cell that it counts at the column, or goes on
behind the row. -/
theorem scan_row (unsized : ControlsUnsized width) {tokens : List Token} {row col : ℕ}
    {link : Option Link} (later : Text) (wellFormed : ∀ token ∈ tokens, token.WellFormed width) :
    scan width targetRow targetCol row col (kept link) (utf8 (rowText tokens ++ later)) =
      (if row = targetRow ∧ col ≤ targetCol then
        (covering (Cell.columnsWithMarks width) (cellsOf link tokens) (targetCol - col)).bind
          Cell.plainTarget
      else none).or
        (scan width targetRow targetCol row
          (col + ((cellsOf link tokens).map (Cell.columnsWithMarks width)).sum)
          (kept (linkAfter link tokens)) (utf8 later)) := by
  induction tokens generalizing col link with
  | nil => simp [rowText, covering, cellsOf, linkAfter]
  | cons token tokens ih =>
      have own := wellFormed token List.mem_cons_self
      have others : ∀ other ∈ tokens, other.WellFormed width :=
        fun other member => wellFormed other (List.mem_cons_of_mem _ member)
      have text : rowText (token :: tokens) ++ later = token.text ++ (rowText tokens ++ later) := by
        rw [rowText, List.flatMap_cons, List.append_assoc]
        rfl
      rw [text]
      cases token with
      | cell base marks =>
          rw [Token.text, scan_chars _ (solid_of_cell unsized own),
            columns_chars link own, ih others]
          rw [cellsOf, List.map_cons, List.sum_cons, ← Nat.add_assoc, covering]
          generalize (Cell.mk base marks link).columnsWithMarks width = columns
          by_cases here : row = targetRow ∧ col ≤ targetCol
          · rw [if_pos here]
            by_cases inside : targetCol < col + columns
            · have covered : targetCol - col < columns := by omega
              have notBehind : ¬ (row = targetRow ∧ col + columns ≤ targetCol) := by omega
              have target : (Cell.mk base marks link).plainTarget = kept link := rfl
              rw [if_neg notBehind, if_pos covered, Option.bind_some, Option.none_or, target]
              cases found : kept link with
              | none =>
                  rw [if_neg fun hit => Bool.false_ne_true hit.2.2.2, Option.none_or]
                  rfl
              | some uri => rw [if_pos ⟨here.1, here.2, inside, rfl⟩, Option.some_or]
            · have behind : ¬ targetCol - col < columns := by omega
              have left : targetCol - col - columns = targetCol - (col + columns) := by omega
              rw [if_neg fun hit => inside hit.2.2.1, if_pos ⟨here.1, by omega⟩, if_neg behind, left]
              rfl
          · rw [if_neg here, if_neg fun hit => here ⟨hit.1, hit.2.1⟩,
              if_neg fun behind => here ⟨behind.1, by omega⟩]
            rfl
      | control parameters final =>
          rw [scan_control _ own, ih others]
          rfl
      | link parameters uri terminator =>
          have keeps : (if parameters.isEmpty ∧ uri ≠ [] then some uri else none) =
              kept (if uri = [] then none else some ⟨parameters, uri⟩) := by
            cases uri <;> cases parameters <;> rfl
          rw [scan_link _ own, keeps, ih others]
          rfl

/-- The grid: from the start of a row on, the scan finds the plain target of the cell that it counts
at the position. -/
theorem scan_rows (unsized : ControlsUnsized width) {rows : List (List Token)} {row : ℕ}
    {link : Option Link} (wellFormed : ∀ tokens ∈ rows, ∀ token ∈ tokens, token.WellFormed width) :
    scan width targetRow targetCol row 0 (kept link)
        (utf8 (['\r', '\n'].intercalate (rows.map rowText))) =
      if row ≤ targetRow then plainLinkAt width (gridFrom link rows) (targetRow - row) targetCol
      else none := by
  induction rows generalizing row link with
  | nil =>
      have nothing : plainLinkAt width (gridFrom link []) (targetRow - row) targetCol = none := rfl
      rw [nothing, ite_self]
      exact scan_nil
  | cons tokens rows ih =>
      have others : ∀ other ∈ rows, ∀ token ∈ other, token.WellFormed width :=
        fun other member => wellFormed other (List.mem_cons_of_mem _ member)
      obtain ⟨later, text, scanned⟩ : ∃ later : Text,
          ['\r', '\n'].intercalate ((tokens :: rows).map rowText) = rowText tokens ++ later ∧
          ∀ col : ℕ,
            scan width targetRow targetCol row col (kept (linkAfter link tokens)) (utf8 later) =
            if row < targetRow then
              plainLinkAt width (gridFrom (linkAfter link tokens) rows) (targetRow - (row + 1))
                targetCol
            else none := by
        cases rows with
        | nil =>
            refine ⟨[], by simp [List.intercalate], fun col => ?_⟩
            have nothing : plainLinkAt width (gridFrom (linkAfter link tokens) [])
              (targetRow - (row + 1)) targetCol = none := rfl
            rw [nothing, ite_self]
            exact scan_nil
        | cons second rows =>
            refine ⟨'\r' :: '\n' :: ['\r', '\n'].intercalate ((second :: rows).map rowText),
              by simp [List.intercalate], fun col => ?_⟩
            rw [scan_carriageReturn, scan_lineFeed, ih others]
            rfl
      rw [text, scan_row unsized later (wellFormed tokens List.mem_cons_self), scanned]
      obtain before | rfl | behind := Nat.lt_trichotomy row targetRow
      · have further : targetRow - row = (targetRow - (row + 1)) + 1 := by omega
        rw [if_neg fun same => Nat.ne_of_lt before same.1, Option.none_or, if_pos before,
          if_pos (Nat.le_of_lt before), further]
        rfl
      · rw [if_pos ⟨rfl, Nat.zero_le _⟩, if_neg (Nat.lt_irrefl _), Option.or_none,
          if_pos (Nat.le_refl _), Nat.sub_self]
        rfl
      · rw [if_neg fun same => Nat.ne_of_gt behind same.1, Option.none_or,
          if_neg (Nat.not_lt.mpr (Nat.le_of_lt behind)), if_neg (Nat.not_le.mpr behind)]

/-- The lookup on a rendered grid. -/
theorem hyperlinkAtPosition_rendered (unsized : ControlsUnsized width) {rows : List (List Token)}
    (wellFormed : ∀ tokens ∈ rows, ∀ token ∈ tokens, token.WellFormed width) :
    hyperlinkAtPosition width targetRow targetCol (rendered rows) =
      plainLinkAt width (gridOf rows) targetRow targetCol := by
  have scanned := @scan_rows width targetRow targetCol unsized rows 0 none wellFormed
  rw [if_pos (Nat.zero_le _), Nat.sub_zero] at scanned
  exact scanned

theorem plainTarget_eq_iff {cell : Cell} : cell.plainTarget = cell.target ↔ cell.LinkPlain := by
  unfold Cell.plainTarget Cell.target Cell.LinkPlain
  cases cell.link with
  | none => simp
  | some link => cases parameters : link.parameters <;> simp [parameters]

/-- The marks of the covering cell itself leave it where it is. -/
theorem covering_unpushed {cells : List Cell} {col : ℕ}
    (unpushed : marksBefore width cells col = 0) :
    covering (Cell.columnsWithMarks width) cells col = covering (Cell.columns width) cells col := by
  induction cells generalizing col with
  | nil => rfl
  | cons cell cells ih =>
      rw [marksBefore] at unpushed
      rw [covering, covering]
      by_cases here : col < cell.columns width
      · have marked : col < cell.columnsWithMarks width := Nat.lt_add_right _ here
        rw [if_pos here, if_pos marked]
      · rw [if_neg here, Nat.add_eq_zero_iff] at unpushed
        have columns : cell.columnsWithMarks width = cell.columns width := by
          rw [Cell.columnsWithMarks, unpushed.1, Nat.add_zero]
        rw [columns, if_neg here, if_neg here]
        exact ih unpushed.2

theorem linkInPlace_iff {cells : List Cell} {col : ℕ} :
    (covering (Cell.columnsWithMarks width) cells col).bind Cell.plainTarget =
        (covering (Cell.columns width) cells col).bind Cell.target ↔
      LinkInPlace width cells col := by
  unfold LinkInPlace
  split
  · rename_i unpushed
    rw [covering_unpushed unpushed]
    cases covering (Cell.columns width) cells col with
    | none => simp
    | some cell => simpa using plainTarget_eq_iff
  · exact Iff.rfl

/-- The lookup finds the link of the covering cell exactly where that link has no parameters and no
combining marks stand in front of the cell, or by coincidence. -/
theorem hyperlinkAtPosition_iff (unsized : ControlsUnsized width) {rows : List (List Token)}
    (wellFormed : ∀ tokens ∈ rows, ∀ token ∈ tokens, token.WellFormed width) :
    hyperlinkAtPosition width targetRow targetCol (rendered rows) =
        linkAt width (gridOf rows) targetRow targetCol ↔
      ∀ cells ∈ (gridOf rows)[targetRow]?, LinkInPlace width cells targetCol := by
  rw [hyperlinkAtPosition_rendered unsized wellFormed]
  unfold plainLinkAt linkAt coveringAt
  cases (gridOf rows)[targetRow]? with
  | none => simp
  | some cells => simpa using linkInPlace_iff

/-- Widths of the characters that the examples use. -/
def latinWidth (char : Char) : Option ℕ :=
  if char.toNat < 0x20 then none else if char = '\u0301' then some 0 else some 1

theorem latinWidth_controls : ControlsUnsized latinWidth := ⟨rfl, rfl, rfl⟩

/-- A link behind plain text, found where it is. -/
theorem hyperlinkAtPosition_iff_plain :
    hyperlinkAtPosition latinWidth 0 1 (rendered [[.cell 'e' [], .link [] ['u'] .bell,
        .control ['1'] 'm', .cell 'x' ['\u0301']]]) =
      linkAt latinWidth (gridOf [[.cell 'e' [], .link [] ['u'] .bell, .control ['1'] 'm',
        .cell 'x' ['\u0301']]]) 0 1 :=
  (hyperlinkAtPosition_iff latinWidth_controls (by decide)).mpr (by decide)

/-- A link that is opened with parameters is not found. -/
theorem parametrisedLink_missed :
    ¬ ∀ width : Char → Option ℕ, ControlsUnsized width → ∀ rows : List (List Token),
      (∀ tokens ∈ rows, ∀ token ∈ tokens, token.WellFormed width) → ∀ row col : ℕ,
        hyperlinkAtPosition width row col (rendered rows) = linkAt width (gridOf rows) row col := by
  intro always
  have wellFormed : ∀ tokens ∈ [[Token.link ['i', 'd', '=', '1'] ['u'] .bell, .cell 'x' []]],
      ∀ token ∈ tokens, token.WellFormed latinWidth := by
    decide
  have found := always latinWidth latinWidth_controls _ wellFormed 0 0
  rw [hyperlinkAtPosition_rendered latinWidth_controls wellFormed] at found
  revert found
  decide

end Rows

end Boo.Runtime.Hyperlinks
