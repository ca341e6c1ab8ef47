/- module: Boo/Remote/Reassembly
   digest: Which message sequences the reader reassembles from interleaved timeouts. -/

import Boo.Remote.ReadLoop

set_option autoImplicit false
set_option relaxedAutoImplicit false

namespace Boo.Remote.Reassembly

open Boo.Lib.LittleEndian
open Boo.Lib.TickStream
open Boo.Wire.Message
open Boo.Remote.ReadLoop

/-- The outcome of a tick-level read in the reader's vocabulary. -/
def readResult : TakeResult UInt8 IdleKind → Except ReadError (List UInt8)
  | .done bytes => .ok bytes
  | .eof => .error .unexpectedEof
  | .idle kind => .error (.idle kind)

theorem readExactLoop_bytes {len maxIdleErrors idleErrors : Nat} {got bytes : List UInt8}
    {b : UInt8} {stream rest : ReadStream} (filled : got.length < len)
    (h : streamRead stream (len - got.length) = (.ok (b :: bytes), rest)) :
    readExactLoop len maxIdleErrors got idleErrors stream =
      readExactLoop len maxIdleErrors (got ++ b :: bytes) 0 rest := by
  rw [readExactLoop, dif_pos filled]
  split
  · rename_i found
    rw [h] at found
    cases found
  · rename_i found
    rw [h] at found
    cases found
    rfl
  · rename_i found
    rw [h] at found
    cases found
  · rename_i found
    rw [h] at found
    cases found

/-- Read boundaries do not matter: the loop over `read` calls is the tick-level read. -/
theorem readExactLoop_ticks (len maxIdleErrors : Nat) (got : List UInt8) (idleErrors : Nat)
    (stream : ReadStream) (short : got.length ≤ len) :
    ∃ result, takeExact maxIdleErrors (len - got.length) got idleErrors (ticks stream) =
        (result, ticks (readExactLoop len maxIdleErrors got idleErrors stream).2) ∧
      (readExactLoop len maxIdleErrors got idleErrors stream).1 = readResult result := by
  induction size : (ticks stream).length using Nat.strong_induction_on
    generalizing got idleErrors stream with
  | _ n ih =>
  subst size
  by_cases filled : got.length < len
  · obtain ⟨need, hneed⟩ : ∃ need, len - got.length = need + 1 := ⟨len - got.length - 1, by omega⟩
    cases stream with
    | nil =>
        rw [hneed, readExactLoop, dif_pos filled]
        exact ⟨.eof, rfl, rfl⟩
    | cons event stream =>
        cases event with
        | idle kind =>
            rw [readExactLoop, dif_pos filled]
            by_cases empty : got.isEmpty
            · rw [hneed]
              exact ⟨.idle kind, by simp [ticks, takeExact, streamRead, empty],
                by simp [streamRead, empty, readResult]⟩
            · by_cases exceeded : maxIdleErrors < idleErrors + 1
              · rw [hneed]
                exact ⟨.idle kind, by simp [ticks, takeExact, streamRead, empty, exceeded],
                  by simp [streamRead, empty, exceeded, readResult]⟩
              · obtain ⟨result, run, same⟩ :=
                  ih _ (by simp [ticks]) got (idleErrors + 1) stream short rfl
                refine ⟨result, ?_, ?_⟩
                · rw [hneed] at run ⊢
                  simp only [ticks, takeExact, streamRead, if_neg empty, if_neg exceeded]
                  exact run
                · simp only [streamRead, if_neg empty, if_neg exceeded]
                  exact same
        | chunk bytes nonempty =>
            have size : 0 < bytes.length := List.length_pos_iff.mpr nonempty
            obtain ⟨b, taken, htake⟩ : ∃ b taken, bytes.take (len - got.length) = b :: taken := by
              have some : bytes.take (len - got.length) ≠ [] := by
                rw [ne_eq, List.take_eq_nil_iff, hneed]
                simp [nonempty]
              exact List.exists_cons_of_ne_nil some
            have takenLen : (b :: taken).length = min (len - got.length) bytes.length := by
              rw [← htake, List.length_take]
            have short' : (got ++ b :: taken).length ≤ len := by
              rw [List.length_append, takenLen]
              omega
            have step : readExactLoop len maxIdleErrors got idleErrors
                (.chunk bytes nonempty :: stream) =
                readExactLoop len maxIdleErrors (got ++ b :: taken) 0
                  (pushFront (bytes.drop (len - got.length)) stream) :=
              readExactLoop_bytes filled (by rw [streamRead, htake])
            have fewer : (ticks (pushFront (bytes.drop (len - got.length)) stream)).length <
                (ticks (.chunk bytes nonempty :: stream)).length := by
              simp only [ticks, ticks_pushFront, List.length_append, List.length_map,
                List.length_drop]
              omega
            obtain ⟨result, run, same⟩ := ih _ fewer (got ++ b :: taken) 0
              (pushFront (bytes.drop (len - got.length)) stream) short' rfl
            refine ⟨result, ?_, by rw [step, same]⟩
            rw [step, ← run, ticks_pushFront, ticks]
            nth_rewrite 1 [← List.take_append_drop (len - got.length) bytes]
            rw [List.map_append, List.append_assoc, htake, List.length_append,
              takeExact_data maxIdleErrors (len - got.length) idleErrors got (b :: taken) _
                (by omega) (List.cons_ne_nil _ _), Nat.sub_sub]
  · have full : len - got.length = 0 := by omega
    rw [full, readExactLoop, dif_neg filled]
    exact ⟨.done got, by simp [takeExact], rfl⟩

theorem readExactRetrying_ticks (stream : ReadStream) (len maxIdleErrors : Nat) :
    ∃ result, takeExact maxIdleErrors len [] 0 (ticks stream) =
        (result, ticks (readExactRetrying stream len maxIdleErrors).2) ∧
      (readExactRetrying stream len maxIdleErrors).1 = readResult result :=
  readExactLoop_ticks len maxIdleErrors [] 0 stream (Nat.zero_le len)

def bytesOf (stream : ReadStream) : List UInt8 := dataOf (ticks stream)

theorem readExactRetrying_conserves {stream rest : ReadStream} {len maxIdleErrors : Nat}
    {result : Except ReadError (List UInt8)}
    (h : readExactRetrying stream len maxIdleErrors = (result, rest)) :
    (∀ bytes, result = .ok bytes → bytes.length = len ∧ bytesOf stream = bytes ++ bytesOf rest) ∧
      (bytesOf rest).length ≤ (bytesOf stream).length := by
  obtain ⟨outcome, run, same⟩ := readExactRetrying_ticks stream len maxIdleErrors
  rw [h] at run same
  obtain ⟨done, shorter⟩ := takeExact_conserves run
  refine ⟨?_, shorter⟩
  rintro bytes rfl
  cases outcome with
  | done xs =>
      cases same
      obtain ⟨size, split⟩ := done bytes rfl
      exact ⟨by simpa using size, by simpa [bytesOf] using split⟩
  | eof => cases same
  | idle kind => cases same

/-- A read message accounts for its seven header bytes and its payload, and nothing is ever
put back. -/
theorem readMessageRetrying_conserves {stream rest : ReadStream} {maxIdleErrors : Nat}
    {result : Except ReadError RemoteMessage}
    (h : readMessageRetrying stream maxIdleErrors = (result, rest)) :
    (∀ message, result = .ok message → message.payload.length < 2 ^ 32 ∧
      headerLen + message.payload.length + (bytesOf rest).length = (bytesOf stream).length) ∧
      (bytesOf rest).length ≤ (bytesOf stream).length := by
  unfold readMessageRetrying at h
  cases header : readExactRetrying stream headerLen maxIdleErrors with
  | mk headerResult afterHeader =>
      obtain ⟨headerDone, headerShorter⟩ := readExactRetrying_conserves header
      rw [header] at h
      cases headerResult with
      | error error =>
          cases h
          exact ⟨nofun, headerShorter⟩
      | ok bytes =>
          obtain ⟨size, split⟩ := headerDone bytes rfl
          have total := congrArg List.length split
          rw [List.length_append, size] at total
          dsimp only at h
          split at h
          · cases h
            exact ⟨nofun, headerShorter⟩
          · split at h
            · cases h
              exact ⟨nofun, headerShorter⟩
            · split at h
              · have small : (u32At bytes 3).toNat < 2 ^ 32 := (u32At bytes 3).toNat_lt
                cases payload : readExactRetrying afterHeader (u32At bytes 3).toNat
                    maxIdleErrors with
                | mk payloadResult afterPayload =>
                    obtain ⟨payloadDone, payloadShorter⟩ := readExactRetrying_conserves payload
                    rw [payload] at h
                    cases payloadResult with
                    | error error =>
                        cases h
                        exact ⟨nofun, by omega⟩
                    | ok body =>
                        cases h
                        obtain ⟨bodySize, bodySplit⟩ := payloadDone body rfl
                        have bodyTotal := congrArg List.length bodySplit
                        rw [List.length_append, bodySize] at bodyTotal
                        refine ⟨?_, by omega⟩
                        rintro message ⟨⟩
                        dsimp only
                        exact ⟨by omega, by omega⟩
              · cases h
                refine ⟨?_, headerShorter⟩
                rintro message ⟨⟩
                exact ⟨by simp, by simp only [List.length_nil]; omega⟩

variable {J : JsonPayloads}

/-- The bytes that the frames of handled messages occupy. -/
def framesLength (messages : List RemoteMessage) : Nat :=
  (messages.map fun message => headerLen + message.payload.length).sum

/-- Handled messages never account for more bytes than the stream had. -/
theorem readLoop_handled_bound (idleReason : Nat → Option IdleReason) (iteration : Nat)
    (state : ReaderState) (stream : ReadStream) :
    let trace : LoopTrace J := readLoop idleReason iteration state stream
    framesLength trace.handled ≤ (bytesOf stream).length ∧
      ∀ message ∈ trace.handled, message.payload.length < 2 ^ 32 := by
  fun_induction readLoop (J := J) idleReason iteration state stream with
  | case1 => simp [framesLength]
  | case2 iteration state stream kind rest found _ later ih =>
      have conserved := (readMessageRetrying_conserves found).2
      have bound : framesLength later.handled ≤ (bytesOf rest).length := ih.1
      exact ⟨Nat.le_trans bound conserved, ih.2⟩
  | case3 => simp [framesLength]
  | case4 iteration state stream message rest found state' effects handled =>
      obtain ⟨small, total⟩ := (readMessageRetrying_conserves found).1 message rfl
      refine ⟨?_, by simpa using small⟩
      simp only [framesLength, List.map_cons, List.map_nil, List.sum_cons, List.sum_nil]
      omega
  | case5 iteration state stream message rest found state' effects handled later ih =>
      obtain ⟨small, total⟩ := (readMessageRetrying_conserves found).1 message rfl
      have bound : framesLength later.handled ≤ (bytesOf rest).length := ih.1
      simp only [framesLength, List.map_cons, List.sum_cons] at bound ⊢
      refine ⟨by omega, ?_⟩
      intro other member
      rcases List.mem_cons.mp member with rfl | member
      · exact small
      · exact ih.2 other member

section Steps

variable (idleReason : Nat → Option IdleReason) (iteration : Nat) (state : ReaderState)

theorem readLoop_idle {stream rest : ReadStream} {kind : IdleKind}
    (found : readMessageRetrying stream 10 = (.error (.idle kind), rest))
    (stays : idleReason iteration = none) :
    readLoop (J := J) idleReason iteration state stream =
      { readLoop (J := J) idleReason (iteration + 1) state rest with
        headerReads :=
          stream :: (readLoop (J := J) idleReason (iteration + 1) state rest).headerReads } := by
  rw [readLoop]
  split
  · rename_i same
    rw [found] at same
    cases same
    rw [stays]
  · rename_i other same
    rw [found] at same
    cases same
    exact absurd rfl (other kind)
  · rename_i same
    rw [found] at same
    cases same

theorem readLoop_eof {stream rest : ReadStream}
    (found : readMessageRetrying stream 10 = (.error .unexpectedEof, rest)) :
    readLoop (J := J) idleReason iteration state stream = ⟨[], [.clientRemoved], [stream]⟩ := by
  rw [readLoop]
  split
  · rename_i same
    rw [found] at same
    cases same
  · rfl
  · rename_i same
    rw [found] at same
    cases same

theorem readLoop_message {stream rest : ReadStream} {message : RemoteMessage}
    {next : ReaderState} {effects : List (Effect J)}
    (found : readMessageRetrying stream 10 = (.ok message, rest))
    (goesOn : handleMessage J state message = (true, next, effects)) :
    readLoop idleReason iteration state stream =
      { handled := message :: (readLoop (J := J) idleReason (iteration + 1) next rest).handled
        effects := effects ++ (readLoop (J := J) idleReason (iteration + 1) next rest).effects
        headerReads := stream ::
          (readLoop (J := J) idleReason (iteration + 1) next rest).headerReads } := by
  rw [readLoop]
  split
  · rename_i same
    rw [found] at same
    cases same
  · rename_i same
    rw [found] at same
    cases same
  · rename_i same
    rw [found] at same
    cases same
    rw [goesOn]

end Steps

/-- A registered client whose commands are received stays so, and the loop goes on. -/
theorem handleMessage_goesOn {state : ReaderState} (registered : state.client.isSome)
    (received : state.commandOpen) (message : RemoteMessage) :
    ∃ next effects, handleMessage J state message = (true, next, effects) ∧
      next.client.isSome ∧ next.commandOpen := by
  obtain ⟨client, hclient⟩ := Option.isSome_iff_exists.mp registered
  unfold handleMessage
  by_cases auth : message.ty = .auth
  · simp only [auth, if_true, handleAuthMessage, hclient]
    exact ⟨_, _, rfl, rfl, received⟩
  · dsimp only
    rw [if_neg auth]
    split
    · exact ⟨_, _, rfl, registered, received⟩
    · split
      · exact ⟨_, _, rfl, registered, received⟩
      · split
        · exact ⟨_, _, by rw [received], registered, received⟩
        · exact ⟨_, _, rfl, registered, received⟩

theorem readExactRetrying_idle {stream : ReadStream} {kind : IdleKind}
    {later : List (Tick UInt8 IdleKind)} {len : Nat} (maxIdleErrors : Nat) (pos : 0 < len)
    (first : ticks stream = .idle kind :: later) :
    ∃ rest, ticks rest = later ∧
      readExactRetrying stream len maxIdleErrors = (.error (.idle kind), rest) := by
  obtain ⟨need, rfl⟩ : ∃ need, len = need + 1 := ⟨len - 1, by omega⟩
  obtain ⟨result, run, same⟩ := readExactRetrying_ticks stream (need + 1) maxIdleErrors
  rw [first] at run
  have gaveUp : (TakeResult.idle kind, later) =
      (result, ticks (readExactRetrying stream (need + 1) maxIdleErrors).2) := run
  obtain ⟨rfl, rest⟩ := Prod.mk.inj gaveUp
  exact ⟨_, rest.symm, Prod.ext same rfl⟩

theorem readMessageRetrying_idle {stream : ReadStream} {kind : IdleKind}
    {later : List (Tick UInt8 IdleKind)} (maxIdleErrors : Nat)
    (first : ticks stream = .idle kind :: later) :
    ∃ rest, ticks rest = later ∧
      readMessageRetrying stream maxIdleErrors = (.error (.idle kind), rest) := by
  obtain ⟨rest, after, gaveUp⟩ :=
    readExactRetrying_idle maxIdleErrors (show 0 < headerLen by decide) first
  exact ⟨rest, after, by rw [readMessageRetrying, gaveUp]⟩

theorem readMessageRetrying_ended {stream : ReadStream} (ended : ticks stream = [])
    (maxIdleErrors : Nat) :
    ∃ rest, ticks rest = [] ∧
      readMessageRetrying stream maxIdleErrors = (.error .unexpectedEof, rest) := by
  obtain ⟨result, run, same⟩ := readExactRetrying_ticks stream headerLen maxIdleErrors
  rw [ended] at run
  have nothing : (TakeResult.eof, []) =
      (result, ticks (readExactRetrying stream headerLen maxIdleErrors).2) := run
  obtain ⟨rfl, left⟩ := Prod.mk.inj nothing
  refine ⟨(readExactRetrying stream headerLen maxIdleErrors).2, left.symm, ?_⟩
  have outcome : readExactRetrying stream headerLen maxIdleErrors =
      (.error .unexpectedEof, (readExactRetrying stream headerLen maxIdleErrors).2) :=
    Prod.ext same rfl
  rw [readMessageRetrying, outcome]

theorem readExactRetrying_data {stream : ReadStream} {later : List (Tick UInt8 IdleKind)}
    {bytes : List UInt8} (nonempty : bytes ≠ [])
    (arrives : ticks stream = bytes.map Tick.data ++ later) (maxIdleErrors : Nat) :
    ∃ rest, ticks rest = later ∧
      readExactRetrying stream bytes.length maxIdleErrors = (.ok bytes, rest) := by
  obtain ⟨result, run, same⟩ := readExactRetrying_ticks stream bytes.length maxIdleErrors
  rw [arrives, takeExact_data maxIdleErrors bytes.length 0 [] bytes later (Nat.le_refl _) nonempty,
    Nat.sub_self, takeExact, List.nil_append] at run
  obtain ⟨rfl, rest⟩ := Prod.mk.inj run
  exact ⟨_, rest.symm, Prod.ext same rfl⟩

/-- A read that finds its first byte at once and is patient afterwards returns the next
bytes and stops right behind them. -/
theorem readExactRetrying_begun {stream : ReadStream} {b : UInt8}
    {later : List (Tick UInt8 IdleKind)} {need maxIdleErrors : Nat}
    (first : ticks stream = .data b :: later) (patient : Patient maxIdleErrors need 0 later)
    (enough : need + 1 ≤ (bytesOf stream).length) :
    ∃ consumed rest, ticks stream = consumed ++ ticks rest ∧
      dataOf consumed = (bytesOf stream).take (need + 1) ∧ EndsWithData (need + 1) consumed ∧
      readExactRetrying stream (need + 1) maxIdleErrors =
        (.ok ((bytesOf stream).take (need + 1)), rest) := by
  have bytes : bytesOf stream = b :: dataOf later := by rw [bytesOf, first, dataOf]
  rw [bytes, List.length_cons] at enough
  obtain ⟨consumed, rest, split, taken, ends, done⟩ :=
    takeExact_patient patient (List.cons_ne_nil b []) (Nat.le_of_succ_le_succ enough)
  obtain ⟨result, run, same⟩ := readExactRetrying_ticks stream (need + 1) maxIdleErrors
  have begun : takeExact maxIdleErrors (need + 1) [] 0 (ticks stream) =
      takeExact maxIdleErrors need [b] 0 later := by rw [first]; rfl
  rw [begun, done] at run
  obtain ⟨rfl, restEq⟩ := Prod.mk.inj run
  refine ⟨.data b :: consumed, (readExactRetrying stream (need + 1) maxIdleErrors).2, ?_, ?_,
    endsWithData_cons_data ends, ?_⟩
  · rw [first, split, restEq]
    rfl
  · rw [bytes, dataOf, taken]
    rfl
  · exact Prod.ext (by rw [same, bytes]; rfl) rfl

def headerBytes (message : RemoteMessage) : List UInt8 :=
  magic ++ [message.ty.toByte] ++ leU32 (UInt32.ofNat message.payload.length)

@[simp] theorem length_headerBytes (message : RemoteMessage) :
    (headerBytes message).length = headerLen := by
  simp [headerBytes, magic, headerLen]

theorem frame_eq (message : RemoteMessage) :
    message.frame = headerBytes message ++ message.payload := rfl

theorem length_frame (message : RemoteMessage) :
    message.frame.length = headerLen + message.payload.length :=
  length_encodeMessage message.ty message.payload

/-- What the header phase makes of the header of an encoded message. -/
theorem parse_headerBytes (message : RemoteMessage) (small : message.payload.length < 2 ^ 32) :
    (headerBytes message).take 2 = magic ∧
      MessageType.tryFrom (u8At (headerBytes message) 2) = some message.ty ∧
      (u32At (headerBytes message) 3).toNat = message.payload.length := by
  have h0 : Rest (headerBytes message) 0 (headerBytes message) := rest_zero _
  nth_rewrite 2 [headerBytes] at h0
  simp only [List.append_assoc, List.cons_append, List.nil_append] at h0
  have h2 : Rest (headerBytes message) 2
      (message.ty.toByte :: leU32 (UInt32.ofNat message.payload.length)) := h0.skip
  have h3 := h2.next
  rw [← List.append_nil (leU32 _)] at h3
  refine ⟨rfl, ?_, ?_⟩
  · rw [u8At_rest h2, MessageType.tryFrom_toByte]
  · rw [u32At_rest h3]
    exact UInt32.toNat_ofNat_of_lt' small

/-- Byte offsets at which a frame starts, or the stream ends. -/
def frameStarts : Nat → List RemoteMessage → List Nat
  | base, [] => [base]
  | base, message :: messages => base :: frameStarts (base + message.frame.length) messages

/-- Byte offsets at which a nonempty payload starts. -/
def payloadStarts : Nat → List RemoteMessage → List Nat
  | _, [] => []
  | base, message :: messages =>
      (if message.payload = [] then [] else [base + headerLen]) ++
        payloadStarts (base + message.frame.length) messages

theorem le_of_mem_frameStarts {base offset : Nat} {messages : List RemoteMessage}
    (member : offset ∈ frameStarts base messages) : base ≤ offset := by
  induction messages generalizing base with
  | nil => exact Nat.le_of_eq (List.mem_singleton.mp member).symm
  | cons message messages ih =>
      rcases List.mem_cons.mp member with rfl | later
      · exact Nat.le_refl _
      · have bound := ih later
        omega

theorem le_of_mem_payloadStarts {base offset : Nat} {messages : List RemoteMessage}
    (member : offset ∈ payloadStarts base messages) : base + headerLen ≤ offset := by
  induction messages generalizing base with
  | nil => cases member
  | cons message messages ih =>
      rcases List.mem_append.mp member with here | later
      · split at here
        · cases here
        · exact Nat.le_of_eq (List.mem_singleton.mp here).symm
      · have bound := ih later
        omega

theorem not_mem_frameStarts_inside {base j : Nat} {message : RemoteMessage}
    {messages : List RemoteMessage} (pos : 0 < j) (inside : j < message.frame.length) :
    base + j ∉ frameStarts base (message :: messages) := by
  intro member
  rcases List.mem_cons.mp member with same | later
  · omega
  · have bound := le_of_mem_frameStarts later
    omega

section Frame

variable {stream afterHeader : ReadStream} {base : Nat} {message : RemoteMessage}
  {messages : List RemoteMessage} {following : List UInt8}

/-- A header whose first byte is there is read whole, and the stream stands before its payload. -/
theorem readHeader_frame {b : UInt8} {later : List (Tick UInt8 IdleKind)}
    (first : ticks stream = .data b :: later) (bytes : bytesOf stream = message.frame ++ following)
    (pauses : LongPausesAt 10 base (frameStarts base (message :: messages)) (ticks stream)) :
    ∃ header rest, ticks stream = header ++ ticks rest ∧ dataOf header = headerBytes message ∧
      IdlesAvoid base (payloadStarts base (message :: messages)) header ∧
      bytesOf rest = message.payload ++ following ∧
      LongPausesAt 10 (base + headerLen) (frameStarts base (message :: messages)) (ticks rest) ∧
      readExactRetrying stream headerLen 10 = (.ok (headerBytes message), rest) := by
  have frameLen := length_frame message
  have headerSize : headerLen = 7 := rfl
  have total := congrArg List.length bytes
  rw [List.length_append, frameLen] at total
  have patientHeader : Patient 10 6 0 later := by
    have afterFirst : LongPausesAt 10 (base + 1) (frameStarts base (message :: messages)) later := by
      rw [first] at pauses
      exact pauses.tail
    refine patient_of_longPausesAt [] afterFirst (Nat.zero_le _) fun j hj => ?_
    rw [Nat.add_assoc]
    exact not_mem_frameStarts_inside (by omega) (by omega)
  obtain ⟨header, rest, split, headerData, headerEnds, headerRead⟩ :=
    readExactRetrying_begun first patientHeader (by omega)
  have headerEq : (bytesOf stream).take 7 = headerBytes message := by
    rw [bytes, frame_eq, List.append_assoc, List.take_left']
    exact length_headerBytes message
  rw [headerEq] at headerData headerRead
  refine ⟨header, rest, split, headerData, ?_, ?_, ?_, headerRead⟩
  · intro before kind after found member
    have early := headerEnds before kind after found
    have bound := le_of_mem_payloadStarts member
    omega
  · have whole : bytesOf stream = headerBytes message ++ bytesOf rest := by
      rw [bytesOf, split, dataOf_append, headerData]
      rfl
    rw [bytes, frame_eq, List.append_assoc] at whole
    exact (List.append_cancel_left whole).symm
  · rw [split] at pauses
    have dropped := pauses.drop
    rwa [headerData, length_headerBytes] at dropped

/-- So is a payload whose first byte is there. -/
theorem readPayload_frame {c : UInt8} {later : List (Tick UInt8 IdleKind)}
    (nonempty : message.payload ≠ []) (first : ticks afterHeader = .data c :: later)
    (bytes : bytesOf afterHeader = message.payload ++ following)
    (pauses : LongPausesAt 10 (base + headerLen) (frameStarts base (message :: messages))
      (ticks afterHeader)) :
    ∃ body rest, ticks afterHeader = body ++ ticks rest ∧ dataOf body = message.payload ∧
      IdlesAvoid (base + headerLen) (payloadStarts base (message :: messages)) body ∧
      readExactRetrying afterHeader message.payload.length 10 = (.ok message.payload, rest) := by
  have frameLen := length_frame message
  have headerSize : headerLen = 7 := rfl
  have payloadPos : 0 < message.payload.length := List.length_pos_iff.mpr nonempty
  obtain ⟨need, hneed⟩ : ∃ need, message.payload.length = need + 1 :=
    ⟨message.payload.length - 1, by omega⟩
  have patientPayload : Patient 10 need 0 later := by
    have afterFirst : LongPausesAt 10 (base + headerLen + 1)
        (frameStarts base (message :: messages)) later := by
      rw [first] at pauses
      exact pauses.tail
    refine patient_of_longPausesAt [] afterFirst (Nat.zero_le _) fun j hj => ?_
    rw [Nat.add_assoc, Nat.add_assoc]
    exact not_mem_frameStarts_inside (by omega) (by omega)
  have total := congrArg List.length bytes
  rw [List.length_append] at total
  obtain ⟨body, rest, split, bodyData, bodyEnds, bodyRead⟩ :=
    readExactRetrying_begun first patientPayload (by omega)
  have bodyEq : (bytesOf afterHeader).take (need + 1) = message.payload := by
    rw [bytes, List.take_left' hneed]
  rw [bodyEq] at bodyData bodyRead
  refine ⟨body, rest, split, bodyData, ?_, hneed ▸ bodyRead⟩
  intro before kind after found member
  have early := bodyEnds before kind after found
  have begun : 0 < (dataOf before).length := by
    cases before with
    | nil =>
        rw [found, first] at split
        cases split
    | cons tick before =>
        rw [found, first] at split
        obtain ⟨rfl, -⟩ := List.cons.inj split
        simp [dataOf]
  rcases List.mem_append.mp member with here | later
  · rw [if_neg nonempty, List.mem_singleton] at here
    omega
  · have bound := le_of_mem_payloadStarts later
    omega

theorem readMessageRetrying_empty {maxIdleErrors : Nat} (empty : message.payload = [])
    (header : readExactRetrying stream headerLen maxIdleErrors =
      (.ok (headerBytes message), afterHeader)) :
    readMessageRetrying stream maxIdleErrors = (.ok message, afterHeader) := by
  obtain ⟨magicOk, tyOk, lenOk⟩ := parse_headerBytes message (by simp [empty])
  have none : ¬ 0 < (u32At (headerBytes message) 3).toNat := by
    rw [lenOk, empty]
    simp
  rw [readMessageRetrying, header]
  dsimp only
  rw [if_neg (not_not.mpr magicOk), tyOk]
  dsimp only
  rw [if_neg none]
  congr 2
  cases message
  subst empty
  rfl

/-- What the payload read gives, the message read gives. -/
theorem readMessageRetrying_payload {maxIdleErrors : Nat} {rest : ReadStream}
    {result : Except ReadError (List UInt8)} (small : message.payload.length < 2 ^ 32)
    (nonempty : message.payload ≠ [])
    (header : readExactRetrying stream headerLen maxIdleErrors =
      (.ok (headerBytes message), afterHeader))
    (payload : readExactRetrying afterHeader message.payload.length maxIdleErrors =
      (result, rest)) :
    readMessageRetrying stream maxIdleErrors =
      (result.map (RemoteMessage.mk message.ty), rest) := by
  obtain ⟨magicOk, tyOk, lenOk⟩ := parse_headerBytes message small
  have some : 0 < (u32At (headerBytes message) 3).toNat := by
    rw [lenOk]
    exact List.length_pos_iff.mpr nonempty
  rw [readMessageRetrying, header]
  dsimp only
  rw [if_neg (not_not.mpr magicOk), tyOk]
  dsimp only
  rw [if_pos some, lenOk, payload]
  cases result with
  | error error => rfl
  | ok body => rfl

/-- A frame that comes without a pause is read whole, however it is cut. -/
theorem readMessageRetrying_arrival {later : List (Tick UInt8 IdleKind)}
    (small : message.payload.length < 2 ^ 32)
    (arrives : ticks stream = message.frame.map Tick.data ++ later) (maxIdleErrors : Nat) :
    ∃ rest, ticks rest = later ∧
      readMessageRetrying stream maxIdleErrors = (.ok message, rest) := by
  rw [frame_eq, List.map_append, List.append_assoc] at arrives
  have headerSome : headerBytes message ≠ [] := List.cons_ne_nil _ _
  obtain ⟨afterHeader, split, header⟩ :=
    readExactRetrying_data headerSome arrives maxIdleErrors
  rw [length_headerBytes] at header
  by_cases empty : message.payload = []
  · rw [empty, List.map_nil, List.nil_append] at split
    exact ⟨afterHeader, split, readMessageRetrying_empty empty header⟩
  · obtain ⟨rest, after, payload⟩ := readExactRetrying_data empty split maxIdleErrors
    exact ⟨rest, after, readMessageRetrying_payload small empty header payload⟩

/-- Reading at the start of a frame whose first byte is there: the whole message, unless an
idle error stands exactly between its header and its payload. -/
theorem readMessageRetrying_frame {b : UInt8} {later : List (Tick UInt8 IdleKind)}
    (first : ticks stream = .data b :: later)
    (bytes : bytesOf stream = message.frame ++ following)
    (small : message.payload.length < 2 ^ 32)
    (pauses : LongPausesAt 10 base (frameStarts base (message :: messages)) (ticks stream)) :
    (∃ consumed rest, ticks stream = consumed ++ ticks rest ∧ dataOf consumed = message.frame ∧
      readMessageRetrying stream 10 = (.ok message, rest) ∧
      IdlesAvoid base (payloadStarts base (message :: messages)) consumed) ∨
    (message.payload ≠ [] ∧ ∃ consumed kind rest,
      ticks stream = consumed ++ .idle kind :: ticks rest ∧
      dataOf consumed = headerBytes message ∧
      readMessageRetrying stream 10 = (.error (.idle kind), rest)) := by
  obtain ⟨header, afterHeader, split, headerData, headerAvoids, payloadBytes, pausesAfter,
    headerRead⟩ := readHeader_frame first bytes pauses
  by_cases empty : message.payload = []
  · left
    refine ⟨header, afterHeader, split, ?_, readMessageRetrying_empty empty headerRead,
      headerAvoids⟩
    rw [headerData, frame_eq, empty, List.append_nil]
  · cases next : ticks afterHeader with
    | nil =>
        rw [bytesOf, next, dataOf] at payloadBytes
        exact absurd (List.append_eq_nil_iff.mp payloadBytes.symm).1 empty
    | cons tick afterTick =>
        cases tick with
        | idle kind =>
            right
            obtain ⟨rest, after, gaveUp⟩ :=
              readExactRetrying_idle 10 (List.length_pos_iff.mpr empty) next
            exact ⟨empty, header, kind, rest, by rw [split, next, after], headerData,
              readMessageRetrying_payload small empty headerRead gaveUp⟩
        | data c =>
            left
            obtain ⟨body, rest, bodySplit, bodyData, bodyAvoids, bodyRead⟩ :=
              readPayload_frame empty next payloadBytes pausesAfter
            refine ⟨header ++ body, rest, ?_, ?_,
              readMessageRetrying_payload small empty headerRead bodyRead, ?_⟩
            · rw [split, bodySplit, List.append_assoc]
            · rw [dataOf_append, headerData, bodyData]
              rfl
            · rw [IdlesAvoid.append_iff, headerData, length_headerBytes]
              exact ⟨headerAvoids, bodyAvoids⟩

/-- Behind a frame the pauses are those of the messages that follow. -/
theorem LongPausesAt.next_frame {consumed rest : List (Tick UInt8 IdleKind)}
    (pauses : LongPausesAt 10 base (frameStarts base (message :: messages)) (consumed ++ rest))
    (data : dataOf consumed = message.frame) :
    LongPausesAt 10 (base + message.frame.length)
      (frameStarts (base + message.frame.length) messages) rest := by
  have dropped := pauses.drop
  rw [data] at dropped
  intro before kinds after found long
  rcases List.mem_cons.mp (dropped before kinds after found long) with same | later
  · have frameLen := length_frame message
    have headerSize : headerLen = 7 := rfl
    omega
  · exact later

/-- And no idle error there stands before the payload of the frame itself. -/
theorem idlesAvoid_next_frame {consumed rest : List (Tick UInt8 IdleKind)}
    (clean : IdlesAvoid base (payloadStarts base (message :: messages)) consumed)
    (data : dataOf consumed = message.frame) :
    IdlesAvoid base (payloadStarts base (message :: messages)) (consumed ++ rest) ↔
      IdlesAvoid (base + message.frame.length)
        (payloadStarts (base + message.frame.length) messages) rest := by
  rw [IdlesAvoid.append_iff, data]
  refine (and_iff_right clean).trans (idlesAvoid_congr fun offset lower _ => ?_)
  rw [payloadStarts, List.mem_append]
  refine ⟨fun either => either.resolve_left fun own => ?_, Or.inr⟩
  split at own
  · cases own
  · have nonempty : message.payload ≠ [] := by assumption
    have size := List.length_pos_iff.mpr nonempty
    have frameLen := length_frame message
    have at7 := List.mem_singleton.mp own
    omega

end Frame

theorem framesLength_eq (messages : List RemoteMessage) :
    framesLength messages = (messages.flatMap RemoteMessage.frame).length := by
  induction messages with
  | nil => rfl
  | cons message messages ih =>
      rw [framesLength] at ih ⊢
      rw [List.map_cons, List.sum_cons, ih, List.flatMap_cons, List.length_append, length_frame]

/-- Every header is read where a frame starts. -/
def AtFrameStart (messages : List RemoteMessage) (stream : ReadStream) : Prop :=
  ∃ handled todo, messages = handled ++ todo ∧
    bytesOf stream = todo.flatMap RemoteMessage.frame

section Loop

variable {idleReason : Nat → Option IdleReason} {messages : List RemoteMessage}
  {message : RemoteMessage} {iteration base : Nat} {state next : ReaderState}
  {stream rest : ReadStream} {consumed : List (Tick UInt8 IdleKind)} {kind : IdleKind}

variable (J idleReason messages iteration base state stream) in
/-- The loop from `stream` on handles the messages if and only if no idle error stands before a
payload, and reads its headers at frame starts if none does. -/
def Reassembles : Prop :=
  ((readLoop (J := J) idleReason iteration state stream).handled = messages ↔
    IdlesAvoid base (payloadStarts base messages) (ticks stream)) ∧
  (IdlesAvoid base (payloadStarts base messages) (ticks stream) →
    ∀ read ∈ (readLoop (J := J) idleReason iteration state stream).headerReads,
      AtFrameStart messages read)

theorem atFrameStart_here (bytes : bytesOf stream = messages.flatMap RemoteMessage.frame) :
    AtFrameStart messages stream := ⟨[], messages, rfl, bytes⟩

theorem no_messages_of_ended (ended : ticks stream = [])
    (bytes : bytesOf stream = messages.flatMap RemoteMessage.frame) : messages = [] := by
  rw [bytesOf, ended, dataOf] at bytes
  have lengths := congrArg List.length bytes
  rw [← framesLength_eq] at lengths
  cases messages with
  | nil => rfl
  | cons message messages =>
      simp [framesLength, headerLen] at lengths
      omega

theorem reassembles_ended (ended : ticks stream = [])
    (bytes : bytesOf stream = messages.flatMap RemoteMessage.frame) :
    Reassembles J idleReason messages iteration base state stream := by
  have none := no_messages_of_ended ended bytes
  obtain ⟨rest, -, eof⟩ := readMessageRetrying_ended ended 10
  rw [Reassembles, readLoop_eof idleReason iteration state eof, ended]
  subst none
  refine ⟨⟨fun _ => idlesAvoid_nil _ _, fun _ => rfl⟩, fun _ read member => ?_⟩
  rw [List.mem_singleton.mp member]
  exact atFrameStart_here bytes

/-- An idle error at a frame start consumes nothing of the frame. -/
theorem reassembles_idle (stays : idleReason iteration = none)
    (bytes : bytesOf stream = messages.flatMap RemoteMessage.frame)
    (first : ticks stream = .idle kind :: ticks rest)
    (gaveUp : readMessageRetrying stream 10 = (.error (.idle kind), rest))
    (later : Reassembles J idleReason messages (iteration + 1) base state rest) :
    Reassembles J idleReason messages iteration base state stream := by
  have avoids : IdlesAvoid base (payloadStarts base messages) (ticks stream) ↔
      IdlesAvoid base (payloadStarts base messages) (ticks rest) := by
    rw [first, idlesAvoid_cons_idle]
    refine and_iff_right fun member => ?_
    have bound := le_of_mem_payloadStarts member
    have headerSize : headerLen = 7 := rfl
    omega
  rw [Reassembles, readLoop_idle idleReason iteration state gaveUp stays, avoids]
  refine ⟨later.1, fun clean read member => ?_⟩
  rcases List.mem_cons.mp member with rfl | member
  · exact atFrameStart_here bytes
  · exact later.2 clean read member

/-- Behind a message that is read whole the loop goes on with the others. -/
theorem reassembles_message {effects : List (Effect J)}
    (bytes : bytesOf stream = (message :: messages).flatMap RemoteMessage.frame)
    (split : ticks stream = consumed ++ ticks rest) (data : dataOf consumed = message.frame)
    (clean : IdlesAvoid base (payloadStarts base (message :: messages)) consumed)
    (done : readMessageRetrying stream 10 = (.ok message, rest))
    (goesOn : handleMessage J state message = (true, next, effects))
    (later : Reassembles J idleReason messages (iteration + 1) (base + message.frame.length) next
      rest) :
    Reassembles J idleReason (message :: messages) iteration base state stream := by
  have avoids : IdlesAvoid base (payloadStarts base (message :: messages)) (ticks stream) ↔
      IdlesAvoid (base + message.frame.length)
        (payloadStarts (base + message.frame.length) messages) (ticks rest) := by
    rw [split]
    exact idlesAvoid_next_frame clean data
  rw [Reassembles, readLoop_message idleReason iteration state done goesOn, avoids]
  refine ⟨?_, fun clean' read member => ?_⟩
  · rw [← later.1]
    simp
  · rcases List.mem_cons.mp member with rfl | member
    · exact atFrameStart_here bytes
    · obtain ⟨handled, todo, order, remaining⟩ := later.2 clean' read member
      exact ⟨message :: handled, todo, by rw [order]; rfl, remaining⟩

/-- When a header is lost, too few bytes are left for all the messages. -/
theorem reassembles_lost (stays : idleReason iteration = none)
    (bytes : bytesOf stream = (message :: messages).flatMap RemoteMessage.frame)
    (nonempty : message.payload ≠ []) (split : ticks stream = consumed ++ .idle kind :: ticks rest)
    (data : dataOf consumed = headerBytes message)
    (lost : readMessageRetrying stream 10 = (.error (.idle kind), rest)) :
    Reassembles J idleReason (message :: messages) iteration base state stream := by
  have dirty : ¬ IdlesAvoid base (payloadStarts base (message :: messages)) (ticks stream) := by
    intro clean
    apply clean consumed kind (ticks rest) split
    rw [data, length_headerBytes, payloadStarts, if_neg nonempty]
    exact List.mem_append_left _ List.mem_cons_self
  have restBytes : (bytesOf rest).length + headerLen = (bytesOf stream).length := by
    rw [bytesOf, bytesOf, split, dataOf_append, data, List.length_append, length_headerBytes,
      dataOf]
    omega
  rw [Reassembles, readLoop_idle idleReason iteration state lost stays]
  refine ⟨⟨fun handled => ?_, fun clean => absurd clean dirty⟩, fun clean => absurd clean dirty⟩
  have bound := (readLoop_handled_bound (J := J) idleReason (iteration + 1) state rest).1
  dsimp only at handled bound
  rw [handled, framesLength_eq, ← bytes] at bound
  have headerSize : headerLen = 7 := rfl
  omega

/-- The bytes behind the first frame are those of the other messages. -/
theorem bytesOf_next_frame (bytes : bytesOf stream = (message :: messages).flatMap
    RemoteMessage.frame) (split : ticks stream = consumed ++ ticks rest)
    (data : dataOf consumed = message.frame) :
    bytesOf rest = messages.flatMap RemoteMessage.frame := by
  have whole : bytesOf stream = message.frame ++ bytesOf rest := by
    rw [bytesOf, split, dataOf_append, data]
    rfl
  rw [bytes, List.flatMap_cons] at whole
  exact (List.append_cancel_left whole).symm

end Loop

/-- The loop from the start of a frame on, by the number of ticks left. -/
theorem readLoop_frames {idleReason : Nat → Option IdleReason}
    (stays : ∀ n, idleReason n = none) (messages : List RemoteMessage)
    (small : ∀ message ∈ messages, message.payload.length < 2 ^ 32) (iteration base : Nat)
    (state : ReaderState) (registered : state.client.isSome) (received : state.commandOpen)
    (stream : ReadStream) (bytes : bytesOf stream = messages.flatMap RemoteMessage.frame)
    (pauses : LongPausesAt 10 base (frameStarts base messages) (ticks stream)) :
    Reassembles J idleReason messages iteration base state stream := by
  induction size : (ticks stream).length using Nat.strong_induction_on
    generalizing messages iteration base state stream with
  | _ n ih =>
  subst size
  cases first : ticks stream with
  | nil => exact reassembles_ended first bytes
  | cons tick later =>
      cases tick with
      | idle kind =>
          obtain ⟨rest, rfl, gaveUp⟩ := readMessageRetrying_idle 10 first
          have fewer := readMessageRetrying_shrinks gaveUp (by simp)
          have restBytes : bytesOf rest = messages.flatMap RemoteMessage.frame := by
            rw [← bytes, bytesOf, bytesOf, first]
            rfl
          have restPauses : LongPausesAt 10 base (frameStarts base messages) (ticks rest) := by
            rw [first, ← List.singleton_append] at pauses
            exact pauses.drop
          exact reassembles_idle (stays iteration) bytes first gaveUp
            (ih _ fewer messages small (iteration + 1) base state registered received rest
              restBytes restPauses rfl)
      | data b =>
          cases messages with
          | nil =>
              rw [bytesOf, first] at bytes
              simp [dataOf] at bytes
          | cons message messages =>
              have smallLater : ∀ other ∈ messages, other.payload.length < 2 ^ 32 :=
                fun other member => small other (List.mem_cons_of_mem _ member)
              rcases readMessageRetrying_frame first bytes (small message List.mem_cons_self)
                  pauses with
                ⟨consumed, rest, split, data, done, clean⟩ |
                ⟨nonempty, consumed, kind, rest, split, data, lost⟩
              · obtain ⟨next, effects, goesOn, registered', received'⟩ :=
                  handleMessage_goesOn (J := J) registered received message
                have fewer := readMessageRetrying_shrinks done (by simp)
                have restPauses : LongPausesAt 10 (base + message.frame.length)
                    (frameStarts (base + message.frame.length) messages) (ticks rest) := by
                  rw [split] at pauses
                  exact LongPausesAt.next_frame pauses data
                exact reassembles_message bytes split data clean done goesOn
                  (ih _ fewer messages smallLater (iteration + 1) (base + message.frame.length)
                    next registered' received' rest (bytesOf_next_frame bytes split data)
                    restPauses rfl)
              · exact reassembles_lost (stays iteration) bytes nonempty split data lost

/-- The reader handles exactly the sent messages, and reads headers only at frame starts, if
and only if every payload length fits the header and no idle error stands exactly between a
header and its nonempty payload. -/
theorem readLoop_reassembles_iff (J : JsonPayloads) (idleReason : Nat → Option IdleReason)
    (stays : ∀ n, idleReason n = none) (messages : List RemoteMessage) (state : ReaderState)
    (registered : state.client.isSome) (received : state.commandOpen) (stream : ReadStream)
    (bytes : bytesOf stream = messages.flatMap RemoteMessage.frame)
    (pauses : LongPausesAt 10 0 (frameStarts 0 messages) (ticks stream)) :
    ((readLoop (J := J) idleReason 0 state stream).handled = messages ∧
      ∀ read ∈ (readLoop (J := J) idleReason 0 state stream).headerReads,
        AtFrameStart messages read) ↔
      (∀ message ∈ messages, message.payload.length < 2 ^ 32) ∧
        IdlesAvoid 0 (payloadStarts 0 messages) (ticks stream) := by
  constructor
  · rintro ⟨handled, -⟩
    have small := (readLoop_handled_bound (J := J) idleReason 0 state stream).2
    rw [handled] at small
    obtain ⟨handledIff, -⟩ := readLoop_frames (J := J) stays messages small 0 0 state registered
      received stream bytes pauses
    exact ⟨small, handledIff.mp handled⟩
  · rintro ⟨small, clean⟩
    obtain ⟨handledIff, starts⟩ := readLoop_frames (J := J) stays messages small 0 0 state
      registered received stream bytes pauses
    exact ⟨handledIff.mpr clean, starts clean⟩

/-- No JSON payload decodes. -/
def noJson : JsonPayloads where
  KeyEvent := Unit
  MouseEvent := Unit
  Action := Unit
  RuntimeAction := Unit
  keyEvent := fun _ => none
  mouseEvent := fun _ => none
  action := fun _ => none
  runtimeActionEnvelope := fun _ => none
  runtimeAction := fun _ => none

def typedKey : RemoteMessage := ⟨.input, [0x78]⟩

/-- The frame of `typedKey` arrives in two reads with an idle error inside the header. -/
def pauseInHeader : ReadStream :=
  [.chunk [0x47, 0x53] (by decide), .idle .wouldBlock,
    .chunk [0x06, 0x01, 0x00, 0x00, 0x00, 0x78] (by decide)]

/-- The same frame with a timeout between header and payload. -/
def pauseAfterHeader : ReadStream :=
  [.chunk [0x47, 0x53, 0x06, 0x01, 0x00, 0x00, 0x00] (by decide), .idle .timedOut,
    .chunk [0x78] (by decide)]

theorem readLoop_reassembles_iff_pauseInHeader :
    (readLoop (J := noJson) (fun _ => none) 0 ⟨some ⟨true, false⟩, true⟩ pauseInHeader).handled =
        [typedKey] ∧
      ∀ read ∈ (readLoop (J := noJson) (fun _ => none) 0 ⟨some ⟨true, false⟩, true⟩
          pauseInHeader).headerReads, AtFrameStart [typedKey] read :=
  (readLoop_reassembles_iff noJson (fun _ => none) (fun _ => rfl) [typedKey]
    ⟨some ⟨true, false⟩, true⟩ rfl rfl pauseInHeader rfl
    (longPausesAt_of_length_le (by decide))).mpr
    ⟨by simp [typedKey], by simp [pauseInHeader, ticks, payloadStarts, typedKey, headerLen,
      idlesAvoid_nil]⟩

/-- A timeout between header and payload loses the message. -/
theorem readLoop_loses_message :
    bytesOf pauseAfterHeader = [typedKey].flatMap RemoteMessage.frame ∧
      LongPausesAt 10 0 (frameStarts 0 [typedKey]) (ticks pauseAfterHeader) ∧
      (readLoop (J := noJson) (fun _ => none) 0 ⟨some ⟨true, false⟩, true⟩
        pauseAfterHeader).handled ≠ [typedKey] := by
  have pauses : LongPausesAt 10 0 (frameStarts 0 [typedKey]) (ticks pauseAfterHeader) :=
    longPausesAt_of_length_le (by decide)
  refine ⟨rfl, pauses, ?_⟩
  obtain ⟨handledIff, -⟩ := readLoop_frames (J := noJson) (fun _ => rfl) [typedKey]
    (by simp [typedKey]) 0 0 ⟨some ⟨true, false⟩, true⟩ rfl rfl pauseAfterHeader rfl pauses
  intro handled
  have clean := handledIff.mp handled
  simp [pauseAfterHeader, ticks, payloadStarts, typedKey, headerLen] at clean

end Boo.Remote.Reassembly
