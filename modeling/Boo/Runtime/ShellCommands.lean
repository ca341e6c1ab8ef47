/- module: Boo/Runtime/ShellCommands
   digest: The running command and the finished commands that OSC 133 sequences report. -/

import Boo.Lib.Numerals
import Boo.Remote.Texts
import Boo.Runtime.OscSequences

set_option autoImplicit false
set_option relaxedAutoImplicit false

namespace Boo.Runtime.ShellCommands

open Boo.Lib.TextLines
open Boo.Lib.Numerals
open Boo.Client.Snapshot
open Boo.Remote.ReadLoop (fromUtf8)
open Boo.Remote.Texts
open Boo.Runtime.VtBackend
open Boo.Runtime.FullRefresh
open Boo.Runtime.OscObservation
open Boo.Runtime.OscSequences

def percentByte : UInt8 := 0x25

def plusByte : UInt8 := 0x2b

def hexDigit (byte : UInt8) : Option UInt8 :=
  if 0x30 ≤ byte ∧ byte ≤ 0x39 then some (byte - 0x30)
  else if 0x61 ≤ byte ∧ byte ≤ 0x66 then some (byte - 0x57)
  else if 0x41 ≤ byte ∧ byte ≤ 0x46 then some (byte - 0x37)
  else none

/-- `u8::from_str_radix` at 16, of two bytes: a plus sign may stand before the digits. -/
def fromStrRadix16 (high low : UInt8) : Option UInt8 :=
  if high = plusByte then hexDigit low
  else (hexDigit high).bind fun high => (hexDigit low).map fun low => 16 * high + low

/-- The loop of `percent_decode`. A percent sign with less than two bytes after it stays. -/
def percentDecodeBytes : List UInt8 → Option (List UInt8)
  | [] => some []
  | byte :: high :: low :: rest =>
      if byte = percentByte then
        (fromStrRadix16 high low).bind fun decoded =>
          (percentDecodeBytes rest).map (decoded :: ·)
      else (percentDecodeBytes (high :: low :: rest)).map (byte :: ·)
  | byte :: rest => (percentDecodeBytes rest).map (byte :: ·)

def percentDecode (value : Text) : Option Text :=
  (percentDecodeBytes (utf8 value)).bind fun bytes => (fromUtf8 bytes).map String.toList

/-- What one segment says about the command: the first of these returns. -/
def segmentCommand (segment : Text) : Option (Option Text) :=
  match stripPrefix "cmdline_url=".toList segment with
  | some value => some (percentDecode value)
  | none => (stripPrefix "cmdline=".toList segment).map some

def osc133Command (payload : Text) : Option Text :=
  (((payload.splitOn ';').drop 1).findSome? segmentCommand).join

def osc133ExitCode (rest : Text) : Option UInt8 :=
  match rest.splitOn ';' with
  | mark :: code :: _ => if mark = ['D'] then (parseUnsigned 256 code).map UInt8.ofNat else none
  | _ => none

/-- Instants are nanoseconds. -/
structure RunningCommand where
  command : Option Text
  startedAt : Nat
  deriving DecidableEq

structure CommandFinished where
  exitCode : Option UInt8
  durationNs : UInt64
  deriving DecidableEq

/-- The commands of a `VtPane`; `finishedCommands` lists all of them, taken or not. -/
structure Shell where
  runningCommand : Option RunningCommand
  finishedCommands : List CommandFinished
  deriving DecidableEq

def Shell.new : Shell := ⟨none, []⟩

def handleOsc133 (now : Nat) (shell : Shell) (rest : Text) : Shell :=
  if rest.head? = some 'C' then { shell with runningCommand := some ⟨osc133Command rest, now⟩ }
  else if rest.head? = some 'D' then
    let durationNs :=
      (shell.runningCommand.map fun running => UInt64.ofNat (now - running.startedAt)).getD 0
    { runningCommand := none
      finishedCommands := shell.finishedCommands ++ [⟨osc133ExitCode rest, durationNs⟩] }
  else shell

/-- The part of `handle_osc_payload` that concerns commands. -/
def handleOscPayload (now : Nat) (shell : Shell) (payload : Text) : Shell :=
  if (stripPrefix "1337;SetUserVar=".toList payload).isSome then shell
  else
    match stripPrefix "133;".toList payload with
    | none => shell
    | some rest => handleOsc133 now shell rest

section Marks

/-- What a payload of OSC 133 says that is kept. -/
inductive Mark
  | started (command : Option Text)
  | finished (exitCode : Option UInt8)
  deriving DecidableEq

def markOf (payload : Text) : Option Mark :=
  if (stripPrefix "1337;SetUserVar=".toList payload).isSome then none
  else (stripPrefix "133;".toList payload).bind fun rest =>
    if rest.head? = some 'C' then some (.started (osc133Command rest))
    else if rest.head? = some 'D' then some (.finished (osc133ExitCode rest))
    else none

/-- The commands, and how many marks have come: with each of them the clock is read. -/
structure Clocked where
  shell : Shell
  readings : Nat
  deriving DecidableEq

variable (clock : Nat → Nat)

def Clocked.handle (clocked : Clocked) (payload : Text) : Clocked where
  shell := handleOscPayload (clock clocked.readings) clocked.shell payload
  readings := if (markOf payload).isSome then clocked.readings + 1 else clocked.readings

def Clocked.new : Clocked := ⟨Shell.new, 0⟩

/-- The last mark says whether a command runs. -/
def runningAfter (marks : List Mark) : Option RunningCommand :=
  match marks.getLast? with
  | some (.started command) => some ⟨command, clock (marks.length - 1)⟩
  | _ => none

/-- What a mark that comes after others finishes: a command that runs gives it a duration. -/
def finishedBy (before : List Mark) : Mark → List CommandFinished
  | .started _ => []
  | .finished exitCode =>
      [⟨exitCode, ((runningAfter clock before).map fun running =>
        UInt64.ofNat (clock before.length - running.startedAt)).getD 0⟩]

def finishedAmong (marks : List Mark) : List CommandFinished :=
  (List.range marks.length).flatMap fun position =>
    (marks[position]?.map (finishedBy clock (marks.take position))).getD []

variable {clock}

theorem handleOscPayload_mark (now : Nat) (shell : Shell) (payload : Text) :
    handleOscPayload now shell payload =
      match markOf payload with
      | none => shell
      | some (.started command) => { shell with runningCommand := some ⟨command, now⟩ }
      | some (.finished exitCode) =>
          { runningCommand := none
            finishedCommands := shell.finishedCommands ++
              [⟨exitCode, (shell.runningCommand.map fun running =>
                UInt64.ofNat (now - running.startedAt)).getD 0⟩] } := by
  rw [handleOscPayload, markOf]
  split
  · rfl
  · cases stripPrefix "133;".toList payload with
    | none => rfl
    | some rest =>
        dsimp only [Option.bind_some]
        rw [handleOsc133]
        split
        · rfl
        · split <;> rfl

theorem runningAfter_concat (marks : List Mark) (mark : Mark) :
    runningAfter clock (marks ++ [mark]) =
      match mark with
      | .started command => some ⟨command, clock marks.length⟩
      | .finished _ => none := by
  rw [runningAfter, List.getLast?_concat, List.length_append, List.length_singleton,
    Nat.add_sub_cancel]
  cases mark <;> rfl

theorem finishedAmong_concat (marks : List Mark) (mark : Mark) :
    finishedAmong clock (marks ++ [mark]) =
      finishedAmong clock marks ++ finishedBy clock marks mark := by
  unfold finishedAmong
  rw [List.length_append, List.length_singleton, List.range_succ, List.flatMap_append,
    List.flatMap_singleton, List.getElem?_concat_length, List.take_left' rfl]
  congr 1
  refine List.flatMap_congr fun position member => ?_
  have inside : position < marks.length := List.mem_range.mp member
  rw [List.getElem?_append_left inside, List.take_append_of_le_length (Nat.le_of_lt inside)]

/-- After any payloads: the last mark tells what runs, and each mark that finishes a command has
reported it, with the time since the mark before if that one started it. -/
theorem handle_marks (payloads : List Text) :
    payloads.foldl (Clocked.handle clock) Clocked.new =
      { shell :=
          { runningCommand := runningAfter clock (payloads.filterMap markOf)
            finishedCommands := finishedAmong clock (payloads.filterMap markOf) }
        readings := (payloads.filterMap markOf).length } := by
  induction payloads using List.reverseRecOn with
  | nil => rfl
  | append_singleton payloads payload ih =>
      rw [List.foldl_append, List.foldl_cons, List.foldl_nil, ih, List.filterMap_append]
      generalize payloads.filterMap markOf = marks
      rw [Clocked.handle, handleOscPayload_mark]
      cases kind : markOf payload with
      | none => simp [kind]
      | some mark =>
          have single : [payload].filterMap markOf = [mark] := by simp [kind]
          rw [single, runningAfter_concat, finishedAmong_concat]
          cases mark <;> simp [finishedBy]

end Marks

section Reading

/-- Bytes of which some, every percent sign among them, are written as a percent sign and two
hexadecimal digits. -/
inductive PercentEncodes : List UInt8 → List UInt8 → Prop
  | nil : PercentEncodes [] []
  | literal {encoded bytes : List UInt8} {byte : UInt8} (plain : byte ≠ percentByte)
      (rest : PercentEncodes encoded bytes) : PercentEncodes (byte :: encoded) (byte :: bytes)
  | escaped {encoded bytes : List UInt8} {high low upper lower : UInt8}
      (first : hexDigit high = some upper) (second : hexDigit low = some lower)
      (rest : PercentEncodes encoded bytes) :
      PercentEncodes (percentByte :: high :: low :: encoded) ((16 * upper + lower) :: bytes)

theorem percentDecodeBytes_literal {byte : UInt8} (plain : byte ≠ percentByte)
    (rest : List UInt8) :
    percentDecodeBytes (byte :: rest) = (percentDecodeBytes rest).map (byte :: ·) := by
  match rest with
  | [] => rfl
  | [_] => rfl
  | _ :: _ :: _ => rw [percentDecodeBytes, if_neg plain]

theorem fromStrRadix16_digits {high low upper lower : UInt8} (first : hexDigit high = some upper)
    (second : hexDigit low = some lower) : fromStrRadix16 high low = some (16 * upper + lower) := by
  have notPlus : high ≠ plusByte := by
    rintro rfl
    cases first
  rw [fromStrRadix16, if_neg notPlus, first, second]
  rfl

theorem percentDecodeBytes_encodes {encoded bytes : List UInt8}
    (encodes : PercentEncodes encoded bytes) : percentDecodeBytes encoded = some bytes := by
  induction encodes with
  | nil => rfl
  | literal plain _ ih => rw [percentDecodeBytes_literal plain, ih, Option.map_some]
  | escaped first second _ ih =>
      rw [percentDecodeBytes, if_pos rfl, fromStrRadix16_digits first second, ih]
      rfl

theorem percentDecode_encodes {encoded command : Text}
    (encodes : PercentEncodes (utf8 encoded) (utf8 command)) :
    percentDecode encoded = some command := by
  rw [percentDecode, percentDecodeBytes_encodes encodes, Option.bind_some, fromUtf8_utf8,
    Option.map_some, String.toList_ofList]

/-- How a shell passes the command that it starts on. -/
inductive CommandField
  | absent
  | plain (command : Text)
  | url (encoded command : Text)
  deriving DecidableEq

namespace CommandField

def segments : CommandField → List Text
  | absent => []
  | plain command => ["cmdline=".toList ++ command]
  | url encoded _ => ["cmdline_url=".toList ++ encoded]

def command : CommandField → Option Text
  | absent => none
  | plain command | url _ command => some command

/-- A command that is passed on as it is contains no semicolon. -/
def WellFormed : CommandField → Prop
  | absent => True
  | plain command => ';' ∉ command
  | url encoded command => ';' ∉ encoded ∧ PercentEncodes (utf8 encoded) (utf8 command)

end CommandField

def startText (field : CommandField) : Text :=
  "133;".toList ++ [';'].intercalate (['C'] :: field.segments)

def finishText (code : UInt8) : Text :=
  "133;".toList ++ [';'].intercalate [['D'], decimal code.toNat]

variable {field : CommandField}

theorem segments_no_semicolon (wellFormed : field.WellFormed) :
    ∀ segment ∈ ['C'] :: field.segments, ';' ∉ segment := by
  intro segment member inside
  rcases List.mem_cons.mp member with rfl | member
  · exact absurd inside (by decide)
  · cases field with
    | absent => cases member
    | plain command =>
        rw [List.mem_singleton.mp member, List.mem_append] at inside
        exact inside.elim (by decide) wellFormed
    | url encoded command =>
        rw [List.mem_singleton.mp member, List.mem_append] at inside
        exact inside.elim (by decide) wellFormed.1

theorem findSome_segments (wellFormed : field.WellFormed) :
    (field.segments.findSome? segmentCommand).join = field.command := by
  cases field with
  | absent => rfl
  | plain command =>
      have otherKey : stripPrefix "cmdline_url=".toList ("cmdline=".toList ++ command) = none := rfl
      have found : segmentCommand ("cmdline=".toList ++ command) = some (some command) := by
        rw [segmentCommand, otherKey, stripPrefix_append]
        rfl
      simp only [CommandField.segments, List.findSome?_cons, found]
      rfl
  | url encoded command =>
      have found : segmentCommand ("cmdline_url=".toList ++ encoded) = some (some command) := by
        rw [segmentCommand, stripPrefix_append]
        dsimp only
        rw [percentDecode_encodes wellFormed.2]
      simp only [CommandField.segments, List.findSome?_cons, found]
      rfl

theorem markOf_startText (wellFormed : field.WellFormed) :
    markOf (startText field) = some (.started field.command) := by
  have rest : stripPrefix "133;".toList (startText field) =
      some ([';'].intercalate (['C'] :: field.segments)) := stripPrefix_append _ _
  have noVariable : (stripPrefix "1337;SetUserVar=".toList (startText field)).isSome = false := rfl
  have first : ([';'].intercalate (['C'] :: field.segments)).head? = some 'C' := by
    cases field <;> rfl
  have split : ([';'].intercalate (['C'] :: field.segments)).splitOn ';' =
      ['C'] :: field.segments :=
    List.splitOn_intercalate ';' (segments_no_semicolon wellFormed) (List.cons_ne_nil _ _)
  have command : osc133Command ([';'].intercalate (['C'] :: field.segments)) = field.command := by
    rw [osc133Command, split]
    exact findSome_segments wellFormed
  rw [markOf, noVariable, if_neg Bool.false_ne_true, rest, Option.bind_some, if_pos first, command]

theorem markOf_finishText (code : UInt8) : markOf (finishText code) = some (.finished (some code)) := by
  have rest : stripPrefix "133;".toList (finishText code) =
      some ([';'].intercalate [['D'], decimal code.toNat]) := stripPrefix_append _ _
  have noVariable : (stripPrefix "1337;SetUserVar=".toList (finishText code)).isSome = false := rfl
  have noSemicolon : ∀ segment ∈ [['D'], decimal code.toNat], ';' ∉ segment := by
    intro segment member inside
    simp only [List.mem_cons, List.not_mem_nil, or_false] at member
    rcases member with rfl | rfl
    · exact absurd inside (by decide)
    · exact absurd (isDigit_of_mem_decimal inside) (by decide)
  have split : ([';'].intercalate [['D'], decimal code.toNat]).splitOn ';' =
      [['D'], decimal code.toNat] :=
    List.splitOn_intercalate ';' noSemicolon (List.cons_ne_nil _ _)
  have exitCode : osc133ExitCode ([';'].intercalate [['D'], decimal code.toNat]) = some code := by
    rw [osc133ExitCode, split]
    dsimp only
    rw [if_pos rfl, parseUnsigned_decimal code.toNat_lt, Option.map_some, UInt8.ofNat_toNat]
  have first : ([';'].intercalate [['D'], decimal code.toNat]).head? = some 'D' := rfl
  rw [markOf, noVariable, if_neg Bool.false_ne_true, rest, Option.bind_some, first, if_neg (by decide),
    if_pos rfl, exitCode]

end Reading

section Sessions

/-- A prompt, and the report that a command starts. -/
structure Started where
  prompt : List UInt8
  field : CommandField
  startEnd : Terminator

/-- A command that was run: what it printed and how it ended. -/
structure Executed extends Started where
  output : List UInt8
  code : UInt8
  finishEnd : Terminator

/-- No payload of these bytes is a mark. -/
def Silent (bytes : List UInt8) : Prop :=
  ∀ payload ∈ handledByLoop {} bytes, markOf payload.toList = none

/-- Nor does a sequence stay open. -/
structure Quiet (bytes : List UInt8) : Prop where
  silent : Silent bytes
  closed : ¬ OscOpen (observed bytes)

def Started.bytes (started : Started) : List UInt8 :=
  started.prompt ++ oscSequence (utf8 (startText started.field)) started.startEnd

def Executed.bytes (executed : Executed) : List UInt8 :=
  executed.toStarted.bytes ++
    (executed.output ++ oscSequence (utf8 (finishText executed.code)) executed.finishEnd)

structure Started.WellFormed (started : Started) : Prop where
  prompt : Quiet started.prompt
  field : started.field.WellFormed
  payload : Payload (utf8 (startText started.field))

structure Executed.WellFormed (executed : Executed) : Prop where
  started : executed.toStarted.WellFormed
  output : Quiet executed.output

def Executed.marks (executed : Executed) : List Mark :=
  [.started executed.field.command, .finished (some executed.code)]

def marksIn (bytes : List UInt8) : List Mark :=
  ((handledByLoop {} bytes).map String.toList).filterMap markOf

/-- Only digits, and three of them at most. -/
theorem payload_finishText (code : UInt8) : Payload (utf8 (finishText code)) := by
  have written : finishText code = "133;D;".toList ++ decimal code.toNat := by
    rw [finishText, List.intercalate, List.intersperse_cons_cons, List.intersperse_singleton]
    simp
  have digits : ∀ text : Text, (∀ char ∈ text, char.isDigit = true) →
      (utf8 text).length = text.length ∧ ∀ byte ∈ utf8 text, 48 ≤ byte.toNat := by
    intro text allDigits
    induction text with
    | nil => exact ⟨rfl, by simp [utf8]⟩
    | cons char text ih =>
        obtain ⟨low, high⟩ := isDigit_iff_toNat.mp (allDigits char List.mem_cons_self)
        obtain ⟨length, bound⟩ := ih fun other member => allDigits other (List.mem_cons_of_mem _ member)
        have single : String.utf8EncodeChar char = [UInt8.ofNat char.toNat] :=
          utf8EncodeChar_ascii (by omega)
        rw [utf8_cons, single]
        refine ⟨by simp [length], fun byte member => ?_⟩
        rcases List.mem_cons.mp member with rfl | member
        · rw [UInt8.toNat_ofNat']
          omega
        · exact bound byte member
  obtain ⟨length, bound⟩ := digits (decimal code.toNat) fun char member => isDigit_of_mem_decimal member
  have short : (decimal code.toNat).length ≤ 3 :=
    (Nat.length_toDigits_le_iff (by decide) (by decide)).mpr
      (Nat.lt_trans code.toNat_lt (by decide))
  have front : Payload (utf8 "133;D;".toList) := by
    refine ⟨by decide, fun byte member => ?_⟩
    have listed : utf8 "133;D;".toList = [0x31, 0x33, 0x33, 0x3b, 0x44, 0x3b] := by decide
    rw [listed] at member
    simp only [List.mem_cons, List.not_mem_nil, or_false] at member
    rcases member with rfl | rfl | rfl | rfl | rfl | rfl <;> decide
  rw [written, utf8_append]
  refine ⟨?_, fun byte member => ?_⟩
  · have frontLength : (utf8 "133;D;".toList).length = 6 := by decide
    rw [List.length_append, length, frontLength, maxOscPayload]
    omega
  · rcases List.mem_append.mp member with early | late
    · exact front.plain byte early
    · have low := bound byte late
      constructor <;> rintro rfl <;> exact absurd low (by decide)

/-- A complete sequence leaves the observer as it was in the beginning. -/
theorem sequence_resets {osc : OscState} {payload : List UInt8} (outside : ¬ OscOpen osc)
    (isPayload : Payload payload) (terminator : Terminator) :
    (oscSequence payload terminator).foldl observeByte osc = {} := by
  have inside : ∀ (payload held : List UInt8),
      (∀ byte ∈ payload, byte ≠ escapeByte ∧ byte ≠ bellByte) →
      held.length + payload.length ≤ maxOscPayload →
      (payload ++ terminator.bytes).foldl observeByte ⟨.osc, held⟩ = {} := by
    intro payload
    induction payload with
    | nil =>
        intro held _ _
        cases terminator <;> simp [Terminator.bytes, observeByte, bellByte, escapeByte, backslash]
    | cons byte payload ih =>
        intro held plain room
        obtain ⟨notEscape, notBell⟩ := plain byte List.mem_cons_self
        rw [List.length_cons] at room
        have next : observeByte ⟨.osc, held⟩ byte = ⟨.osc, held ++ [byte]⟩ := by
          have space : held.length < maxOscPayload := by omega
          simp [observeByte, show byte ≠ 0x07 from notBell, notEscape, space]
        rw [List.cons_append, List.foldl_cons, next]
        refine ih _ (fun other member => plain other (List.mem_cons_of_mem _ member)) ?_
        rw [List.length_append, List.length_singleton]
        omega
  have opened : ([escapeByte, rightBracket] : List UInt8).foldl observeByte osc = ⟨.osc, []⟩ := by
    rcases osc with ⟨mode, held⟩
    cases mode with
    | ground | escape => simp [observeByte, rightBracket, escapeByte]
    | osc => exact absurd (.inl rfl) outside
    | oscEscape => exact absurd (.inr rfl) outside
  rw [oscSequence, List.append_assoc, List.foldl_append, opened]
  exact inside payload [] isPayload.plain (by simpa using isPayload.short)

/-- Quiet bytes, a sequence and what follows: only the sequence can be a mark. -/
theorem marksIn_sequence {quiet : List UInt8} {text : Text} (isQuiet : Quiet quiet)
    (isPayload : Payload (utf8 text)) (terminator : Terminator) (later : List UInt8) :
    marksIn (quiet ++ oscSequence (utf8 text) terminator ++ later) =
      (markOf text).toList ++ marksIn later := by
  have silent : ((handledByLoop {} quiet).map String.toList).filterMap markOf = [] := by
    rw [List.filterMap_map, List.filterMap_eq_nil_iff]
    exact isQuiet.silent
  have state : (quiet ++ oscSequence (utf8 text) terminator).foldl observeByte {} = {} := by
    rw [List.foldl_append]
    exact sequence_resets isQuiet.closed isPayload terminator
  have handled : handledByLoop (quiet.foldl observeByte {}) (oscSequence (utf8 text) terminator) =
      [String.ofList text] := by
    have closed : ¬ OscOpen (quiet.foldl observeByte {}) := isQuiet.closed
    rw [sequence_outside closed isPayload, fromUtf8_utf8]
    rfl
  rw [marksIn, handledByLoop_append, state, handledByLoop_append, handled, List.map_append,
    List.map_append, List.filterMap_append, List.filterMap_append, silent, List.nil_append, marksIn]
  congr 1
  cases kind : markOf text <;> simp [kind]

theorem marksIn_started {started : Started} (wellFormed : started.WellFormed)
    (later : List UInt8) :
    marksIn (started.bytes ++ later) = .started started.field.command :: marksIn later := by
  rw [Started.bytes, marksIn_sequence wellFormed.prompt wellFormed.payload,
    markOf_startText wellFormed.field]
  rfl

theorem marksIn_executed {executed : Executed} (wellFormed : executed.WellFormed)
    (later : List UInt8) :
    marksIn (executed.bytes ++ later) = executed.marks ++ marksIn later := by
  rw [Executed.bytes, List.append_assoc, marksIn_started wellFormed.started,
    marksIn_sequence wellFormed.output (payload_finishText executed.code), markOf_finishText]
  rfl

theorem marksIn_session {executed : List Executed} (wellFormed : ∀ command ∈ executed,
    command.WellFormed) (later : List UInt8) :
    marksIn (executed.flatMap Executed.bytes ++ later) =
      executed.flatMap Executed.marks ++ marksIn later := by
  induction executed with
  | nil => rfl
  | cons command executed ih =>
      rw [List.flatMap_cons, List.append_assoc, marksIn_executed (wellFormed command List.mem_cons_self),
        ih fun other member => wellFormed other (List.mem_cons_of_mem _ member), List.flatMap_cons,
        List.append_assoc]

variable {clock : Nat → Nat}

theorem length_marks (executed : List Executed) :
    (executed.flatMap Executed.marks).length = 2 * executed.length := by
  induction executed with
  | nil => rfl
  | cons command executed ih =>
      rw [List.flatMap_cons, List.length_append, ih, List.length_cons]
      show 2 + _ = _
      omega

/-- Each command has two readings of the clock to itself. -/
theorem finishedAmong_session (executed : List Executed) :
    finishedAmong clock (executed.flatMap Executed.marks) =
        executed.mapIdx fun index command =>
          ⟨some command.code, UInt64.ofNat (clock (2 * index + 1) - clock (2 * index))⟩ := by
  induction executed using List.reverseRecOn with
  | nil => rfl
  | append_singleton executed command ih =>
      have pair : (executed ++ [command]).flatMap Executed.marks =
          executed.flatMap Executed.marks ++ [.started command.field.command] ++
            [.finished (some command.code)] := by
        rw [List.flatMap_append, List.flatMap_singleton, List.append_assoc]
        rfl
      rw [pair, finishedAmong_concat, finishedAmong_concat, ih, List.mapIdx_concat]
      simp only [finishedBy, runningAfter_concat, List.length_append, List.length_singleton,
        length_marks, List.append_nil, Option.map_some, Option.getD_some]

theorem runningAfter_session (executed : List Executed) :
    runningAfter clock (executed.flatMap Executed.marks) = none := by
  rcases List.eq_nil_or_concat executed with rfl | ⟨before, command, rfl⟩
  · rfl
  · have pair : (before ++ [command]).flatMap Executed.marks =
        before.flatMap Executed.marks ++ [.started command.field.command] ++
          [.finished (some command.code)] := by
      rw [List.flatMap_append, List.flatMap_singleton, List.append_assoc]
      rfl
    rw [List.concat_eq_append, pair, runningAfter_concat]

/-- However the output of a session reaches a pane, each command that was run is reported once and
in order, with its exit code and the time between its two marks, and a command that has started
since runs under the text that the shell gave, whether quoted or not. -/
theorem session_commands {Style : Type} (snapshot : TerminalSnapshot Style)
    (ops : List (PaneOp Style)) (executed : List Executed) (current : Option Started)
    (later : List UInt8) (clock : Nat → Nat)
    (wellFormed : ∀ command ∈ executed, command.WellFormed)
    (starts : ∀ started ∈ current, started.WellFormed) (silent : Silent later)
    (stream : ops.flatMap observedBytes = executed.flatMap Executed.bytes ++
      ((current.map Started.bytes).getD [] ++ later)) :
    (((handledAlong (Watched.spawn snapshot) ops).map String.toList).foldl
        (Clocked.handle clock) Clocked.new).shell =
      { runningCommand := current.map fun started =>
          ⟨started.field.command, clock (2 * executed.length)⟩
        finishedCommands := executed.mapIdx fun index command =>
          ⟨some command.code, UInt64.ofNat (clock (2 * index + 1) - clock (2 * index))⟩ } := by
  have nothing : marksIn later = [] := by
    rw [marksIn, List.filterMap_map, List.filterMap_eq_nil_iff]
    exact silent
  have handled : ((handledAlong (Watched.spawn snapshot) ops).map String.toList).filterMap markOf =
      marksIn (ops.flatMap observedBytes) := by
    rw [handledAlong_eq]
    rfl
  rw [handle_marks, handled, stream, marksIn_session wellFormed]
  cases current with
  | none =>
      rw [Option.map_none, Option.getD_none, List.nil_append, nothing, List.append_nil,
        runningAfter_session, finishedAmong_session]
      rfl
  | some started =>
      rw [Option.map_some, Option.getD_some, marksIn_started (starts started rfl), nothing,
        runningAfter_concat, finishedAmong_concat, finishedAmong_session, length_marks]
      simp [finishedBy]

theorem quiet_of_plain {bytes : List UInt8} (plain : escapeByte ∉ bytes) : Quiet bytes := by
  obtain ⟨stays, nothing⟩ := @ground_loop {} rfl bytes plain
  refine ⟨fun payload member => ?_, ?_⟩
  · rw [nothing] at member
    cases member
  · rw [observed, stays]
    decide

/-- A command with a semicolon, which is sent quoted. -/
def quotedCommand : Executed where
  prompt := [0x24]
  field := .url "a%3Bb".toList "a;b".toList
  startEnd := .bell
  output := [0x68, 0x69]
  code := 3
  finishEnd := .string

/-- A command that is sent as it is. -/
def plainCommand : Executed where
  prompt := [0x0d, 0x0a, 0x24]
  field := .plain "ls -l".toList
  startEnd := .string
  output := [0x61, 0x0a]
  code := 0
  finishEnd := .bell

/-- A command without a text. -/
def silentCommand : Started := ⟨[0x24], .absent, .bell⟩

theorem payload_of_check {payload : List UInt8} (short : payload.length ≤ maxOscPayload)
    (check : payload.all fun byte => byte != escapeByte && byte != bellByte) : Payload payload := by
  refine ⟨short, fun byte member => ?_⟩
  simpa using List.all_eq_true.mp check byte member

theorem quotedCommand_wellFormed : quotedCommand.WellFormed := by
  refine ⟨⟨quiet_of_plain (by decide), ⟨by decide, ?_⟩,
    payload_of_check (by decide) (by decide)⟩, quiet_of_plain (by decide)⟩
  have encoded : utf8 "a%3Bb".toList = [0x61, 0x25, 0x33, 0x42, 0x62] := by decide
  have bytes : utf8 "a;b".toList = [0x61, 16 * 3 + 11, 0x62] := by decide
  rw [encoded, bytes]
  exact .literal (by decide) (.escaped (by decide) (by decide) (.literal (by decide) .nil))

theorem plainCommand_wellFormed : plainCommand.WellFormed :=
  ⟨⟨quiet_of_plain (by decide), show ';' ∉ "ls -l".toList by decide,
    payload_of_check (by decide) (by decide)⟩, quiet_of_plain (by decide)⟩

theorem silentCommand_wellFormed : silentCommand.WellFormed :=
  ⟨quiet_of_plain (by decide), trivial, payload_of_check (by decide) (by decide)⟩

/-- Two commands that were run and one that runs, with the first mark cut in two. -/
theorem session_commands_three :
    (((handledAlong (Watched.spawn oneRow)
        [.enqueuePtyChunk (quotedCommand.bytes.take 7), .processPendingPtyWork 1,
          .enqueuePtyChunk (quotedCommand.bytes.drop 7 ++ plainCommand.bytes),
          .writeVtBytes (silentCommand.bytes ++ [0x61])]).map String.toList).foldl
        (Clocked.handle fun reading => reading * reading) Clocked.new).shell =
      { runningCommand := some ⟨none, 16⟩
        finishedCommands := [⟨some 3, 1⟩, ⟨some 0, 5⟩] } := by
  refine session_commands oneRow _ [quotedCommand, plainCommand] (some silentCommand) [0x61]
    (fun reading => reading * reading) ?_ ?_ (quiet_of_plain (by decide)).silent ?_
  · intro command member
    rcases List.mem_pair.mp member with rfl | rfl
    · exact quotedCommand_wellFormed
    · exact plainCommand_wellFormed
  · intro command running
    rw [← Option.mem_some.mp running]
    exact silentCommand_wellFormed
  · simp only [List.flatMap_cons, List.flatMap_nil, observedBytes, Option.map_some,
      Option.getD_some, List.append_nil, List.nil_append]
    rw [← List.append_assoc (List.take 7 _), ← List.append_assoc (List.take 7 _),
      List.take_append_drop]

end Sessions

end Boo.Runtime.ShellCommands
