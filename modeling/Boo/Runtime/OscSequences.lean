/- module: Boo/Runtime/OscSequences
   digest: Which complete OSC sequences of a byte stream are handed on with their payload. -/

import Boo.Runtime.OscObservation

set_option autoImplicit false
set_option relaxedAutoImplicit false

namespace Boo.Runtime.OscSequences

open Boo.Client.Snapshot
open Boo.Remote.ReadLoop (fromUtf8)
open Boo.Runtime.VtBackend
open Boo.Runtime.FullRefresh
open Boo.Runtime.OscObservation

def bellByte : UInt8 := 0x07

def rightBracket : UInt8 := 0x5d

def backslash : UInt8 := 0x5c

/-- What ends an OSC sequence: BEL, or ESC and a backslash. -/
inductive Terminator
  | bell
  | string
  deriving DecidableEq

def Terminator.bytes : Terminator → List UInt8
  | bell => [bellByte]
  | string => [escapeByte, backslash]

def oscSequence (payload : List UInt8) (terminator : Terminator) : List UInt8 :=
  [escapeByte, rightBracket] ++ payload ++ terminator.bytes

/-- A payload of a complete sequence: neither of its bytes ends the sequence or aborts it. -/
structure Payload (payload : List UInt8) : Prop where
  short : payload.length ≤ maxOscPayload
  plain : ∀ byte ∈ payload, byte ≠ escapeByte ∧ byte ≠ bellByte

/-- An OSC sequence has begun and is neither terminated nor given up. -/
def OscOpen (osc : OscState) : Prop := osc.mode = .osc ∨ osc.mode = .oscEscape

/-- The state of the observer of a new terminal once it has seen some bytes. -/
def observed (bytes : List UInt8) : OscState := bytes.foldl observeByte {}

instance (osc : OscState) : Decidable (OscOpen osc) := inferInstanceAs (Decidable (_ ∨ _))

/-- What goes to `handle_osc_payload` while a sequence passes, after the bytes before it. -/
def handedOn (before payload : List UInt8) (terminator : Terminator) : List String :=
  handledByLoop (observed before) (oscSequence payload terminator)

/-- The payload of the sequence, and nothing else, is handed on. -/
def PassesOn (before payload : List UInt8) (terminator : Terminator) : Prop :=
  ∃ text, fromUtf8 payload = some text ∧ handedOn before payload terminator = [text]

section Payloads

variable {osc : OscState} {payload : List UInt8}

theorem fromUtf8_injective {first second : List UInt8} {text : String}
    (one : fromUtf8 first = some text) (other : fromUtf8 second = some text) : first = second := by
  have bytes : ∀ {list : List UInt8}, fromUtf8 list = some text →
      text.toUTF8 = ⟨list.toArray⟩ := by
    intro list decoded
    unfold fromUtf8 String.fromUTF8? at decoded
    split at decoded
    · obtain rfl := Option.some.inj decoded
      rfl
    · cases decoded
  have same : ByteArray.mk first.toArray = ⟨second.toArray⟩ := (bytes one).symm.trans (bytes other)
  simpa using same

/-- Where no sequence is open, plain bytes and a terminator hand nothing on. -/
theorem ground_terminator (ground : osc.mode = .ground) (plain : escapeByte ∉ payload)
    (terminator : Terminator) : handledByLoop osc (payload ++ terminator.bytes) = [] := by
  obtain ⟨stays, silent⟩ := ground_loop ground plain
  rw [handledByLoop_append, stays, silent, List.nil_append]
  cases terminator with
  | bell => simp [Terminator.bytes, handledByLoop, handledBy, ground]
  | string =>
      simp [Terminator.bytes, handledByLoop, handledBy, observeByte, ground]

/-- In an open sequence the bytes of a payload are appended, until the limit resets the state. -/
theorem osc_terminator (mode : osc.mode = .osc) (short : osc.payload.length ≤ maxOscPayload)
    (plain : ∀ byte ∈ payload, byte ≠ escapeByte ∧ byte ≠ bellByte) (terminator : Terminator) :
    handledByLoop osc (payload ++ terminator.bytes) =
      if osc.payload.length + payload.length ≤ maxOscPayload then
        (fromUtf8 (osc.payload ++ payload)).toList
      else [] := by
  induction payload generalizing osc with
  | nil =>
      rw [List.nil_append, List.append_nil, if_pos (by simpa using short)]
      cases terminator with
      | bell => simp [Terminator.bytes, handledByLoop, handledBy, mode, bellByte, finishOscPayload]
      | string =>
          simp [Terminator.bytes, handledByLoop, handledBy, observeByte, mode, escapeByte, backslash,
            finishOscPayload]
  | cons byte payload ih =>
      obtain ⟨notEscape, notBell⟩ := plain byte List.mem_cons_self
      have later : ∀ other ∈ payload, other ≠ escapeByte ∧ other ≠ bellByte :=
        fun other member => plain other (List.mem_cons_of_mem _ member)
      have silent : handledBy osc byte = [] := by
        unfold handledBy
        rw [mode]
        exact if_neg notBell
      have next : observeByte osc byte = if osc.payload.length < maxOscPayload then
          { osc with payload := osc.payload ++ [byte] } else {} := by
        unfold observeByte
        rw [mode]
        dsimp only
        rw [if_neg (show byte ≠ 0x07 from notBell), if_neg notEscape]
      rw [List.cons_append, handledByLoop, silent, List.nil_append, next]
      by_cases room : osc.payload.length < maxOscPayload
      · have grown := @ih { osc with payload := osc.payload ++ [byte] } mode
          (by rw [List.length_append]; exact room) later
        rw [if_pos room, grown, List.append_assoc, List.singleton_append, List.length_append,
          List.length_singleton, List.length_cons, Nat.add_assoc, Nat.add_comm 1]
      · have noEscape : escapeByte ∉ payload := fun member => (later _ member).1 rfl
        rw [if_neg room, ground_terminator rfl noEscape, if_neg]
        rw [List.length_cons]
        omega

end Payloads

section Sequences

variable {osc : OscState} {payload : List UInt8}

/-- Outside of an open sequence, a complete one begins with an empty payload. -/
theorem sequence_outside (outside : ¬ OscOpen osc) (isPayload : Payload payload)
    (terminator : Terminator) :
    handledByLoop osc (oscSequence payload terminator) = (fromUtf8 payload).toList := by
  have opened : handledByLoop osc (oscSequence payload terminator) =
      handledByLoop ⟨.osc, []⟩ (payload ++ terminator.bytes) := by
    rw [oscSequence, List.append_assoc]
    rcases osc with ⟨mode, held⟩
    cases mode with
    | ground | escape =>
        simp [handledByLoop, handledBy, observeByte, rightBracket, escapeByte]
    | osc => exact absurd (.inl rfl) outside
    | oscEscape => exact absurd (.inr rfl) outside
  rw [opened, osc_terminator rfl (Nat.zero_le _) isPayload.plain, if_pos, List.nil_append]
  simpa using isPayload.short

/-- Inside of an open sequence, the introducer goes into its payload, or the limit resets it. -/
theorem sequence_inside (open_ : OscOpen osc)
    (isPayload : Payload payload) (terminator : Terminator) :
    handledByLoop osc (oscSequence payload terminator) = [] ∨
      ∃ held, 0 < held.length ∧
        handledByLoop osc (oscSequence payload terminator) = (fromUtf8 (held ++ payload)).toList := by
  have noEscape : escapeByte ∉ payload := fun member => (isPayload.plain _ member).1 rfl
  have goesOn : ∀ next : OscState, next.mode = .osc → 0 < next.payload.length →
      next.payload.length ≤ maxOscPayload →
      handledByLoop next (payload ++ terminator.bytes) = [] ∨ ∃ held, 0 < held.length ∧
        handledByLoop next (payload ++ terminator.bytes) = (fromUtf8 (held ++ payload)).toList := by
    intro next mode nonempty fits
    rw [osc_terminator mode fits isPayload.plain]
    split
    · exact .inr ⟨next.payload, nonempty, rfl⟩
    · exact .inl rfl
  have resets : handledByLoop {} (payload ++ terminator.bytes) = [] :=
    ground_terminator rfl noEscape terminator
  rw [oscSequence, List.append_assoc]
  rcases open_ with mode | mode
  · have first : handledByLoop osc ([escapeByte, rightBracket] ++ (payload ++ terminator.bytes)) =
        handledByLoop (if osc.payload.length + 2 ≤ maxOscPayload then
          ⟨.osc, osc.payload ++ [escapeByte, rightBracket]⟩ else {})
            (payload ++ terminator.bytes) := by
      simp [handledByLoop, handledBy, observeByte, mode, escapeByte, rightBracket]
    rw [first]
    split
    · rename_i room
      exact goesOn _ rfl (by simp) (by simpa using room)
    · exact .inl resets
  · by_cases room : osc.payload.length + 2 ≤ maxOscPayload
    · have first : handledByLoop osc ([escapeByte, rightBracket] ++ (payload ++ terminator.bytes)) =
          handledByLoop (if osc.payload.length + 2 < maxOscPayload then
            ⟨.osc, osc.payload ++ [escapeByte, escapeByte, rightBracket]⟩ else {})
              (payload ++ terminator.bytes) := by
        simp [handledByLoop, handledBy, observeByte, mode, escapeByte, rightBracket, room]
      rw [first]
      split
      · rename_i room
        exact goesOn _ rfl (by simp) (by rw [List.length_append]; exact room)
      · exact .inl resets
    · have first : handledByLoop osc ([escapeByte, rightBracket] ++ (payload ++ terminator.bytes)) =
          handledByLoop {} (payload ++ terminator.bytes) := by
        simp [handledByLoop, handledBy, observeByte, mode, escapeByte, rightBracket, room]
      exact .inl (first.trans resets)

end Sequences

section Streams

variable {Style : Type}

/-- After any bytes, the payload of a complete sequence is handed on as it is exactly if no earlier
sequence is open when its escape byte comes, and it is UTF-8. -/
theorem passesOn_iff (before payload : List UInt8) (terminator : Terminator)
    (isPayload : Payload payload) :
    PassesOn before payload terminator ↔
      ¬ OscOpen (observed before) ∧ (fromUtf8 payload).isSome := by
  constructor
  · rintro ⟨text, decoded, passed⟩
    refine ⟨fun open_ => ?_, Option.isSome_of_mem decoded⟩
    rcases sequence_inside open_ isPayload terminator with
      nothing | ⟨held, nonempty, other⟩
    · rw [handedOn, nothing] at passed
      cases passed
    · rw [handedOn, other, Option.toList_eq_singleton_iff] at passed
      have same := congrArg List.length (fromUtf8_injective passed decoded)
      rw [List.length_append] at same
      omega
  · rintro ⟨outside, valid⟩
    obtain ⟨text, decoded⟩ := Option.isSome_iff_exists.mp valid
    refine ⟨text, decoded, ?_⟩
    rw [handedOn, sequence_outside outside isPayload, decoded]
    rfl

/-- However the stream reaches a new terminal, what it hands on is what it hands on before the
sequence, while the sequence passes, and after it; and the payload is handed on as it is exactly
if no earlier sequence is open and it is UTF-8. -/
theorem oscSequence_passed_iff (snapshot : TerminalSnapshot Style) (ops : List (PaneOp Style))
    (before payload after : List UInt8) (terminator : Terminator)
    (stream : ops.flatMap observedBytes = before ++ oscSequence payload terminator ++ after)
    (isPayload : Payload payload) :
    handledAlong (Watched.spawn snapshot) ops =
        handledByLoop {} before ++ handedOn before payload terminator ++
          handledByLoop (observed (before ++ oscSequence payload terminator)) after ∧
      (PassesOn before payload terminator ↔
        ¬ OscOpen (observed before) ∧ (fromUtf8 payload).isSome) := by
  refine ⟨?_, passesOn_iff before payload terminator isPayload⟩
  rw [handledAlong_eq, stream, handledByLoop_append, handledByLoop_append]
  rfl

theorem payload_nines : Payload [0x39, 0x39] := by
  refine ⟨by decide, ?_⟩
  simp only [List.forall_mem_cons, List.not_mem_nil, false_imp_iff, implies_true, and_true]
  decide

/-- A title, of which the first chunk brings the escape byte twice and the introducer. -/
theorem oscSequence_passed_iff_doubledEscape :
    handledAlong (Watched.spawn oneRow) [.enqueuePtyChunk [0x61, 0x1b, 0x1b, 0x5d],
        .enqueuePtyChunk [0x39, 0x39, 0x07, 0x62]] =
      handledByLoop {} [0x61, 0x1b] ++ handedOn [0x61, 0x1b] [0x39, 0x39] .bell ++
        handledByLoop (observed ([0x61, 0x1b] ++ oscSequence [0x39, 0x39] .bell)) [0x62] ∧
      PassesOn [0x61, 0x1b] [0x39, 0x39] .bell := by
  obtain ⟨split, passes⟩ := oscSequence_passed_iff oneRow
    [.enqueuePtyChunk [0x61, 0x1b, 0x1b, 0x5d], .enqueuePtyChunk [0x39, 0x39, 0x07, 0x62]]
    [0x61, 0x1b] [0x39, 0x39] [0x62] .bell rfl payload_nines
  exact ⟨split, passes.mpr ⟨by decide, by decide +kernel⟩⟩

/-- An OSC sequence that was never terminated swallows the next one. -/
theorem unterminated_swallows :
    ¬ ∀ (before payload : List UInt8) (terminator : Terminator), Payload payload →
      PassesOn before payload terminator := by
  intro all
  have passes := all [0x1b, 0x5d, 0x61] [0x39, 0x39] .bell payload_nines
  exact ((passesOn_iff _ _ _ payload_nines).mp passes).1 (by decide)

end Streams

end Boo.Runtime.OscSequences
