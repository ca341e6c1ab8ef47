/- module: Boo/Remote/AuthOk
   digest: The handshake payload and what the Rust and the Swift client accept of it. -/

import Boo.Remote.Texts
import Mathlib.Tactic.SplitIfs

set_option autoImplicit false
set_option relaxedAutoImplicit false

namespace Boo.Remote.AuthOk

open Boo.Lib.LittleEndian
open Boo.Remote.ReadLoop (fromUtf8)
open Boo.Remote.Texts

def remoteProtocolVersion : UInt16 := 1
def remoteCapabilityScreenDeltas : UInt32 := (1 : UInt32) <<< 1
def remoteCapabilityUiState : UInt32 := (1 : UInt32) <<< 2
def remoteCapabilityImages : UInt32 := (1 : UInt32) <<< 3
def remoteCapabilityHeartbeat : UInt32 := (1 : UInt32) <<< 4
def remoteCapabilityRowReplica : UInt32 := (1 : UInt32) <<< 5
def remoteCapabilityQuicDirectTransport : UInt32 := (1 : UInt32) <<< 7

def remoteCapabilities : UInt32 :=
  remoteCapabilityScreenDeltas ||| remoteCapabilityUiState ||| remoteCapabilityImages |||
    remoteCapabilityHeartbeat ||| remoteCapabilityRowReplica |||
    remoteCapabilityQuicDirectTransport

/-- The layout of the payload, for any version and any capabilities. -/
def handshakeBytes (version : UInt16) (capabilities : UInt32) (buildId serverInstanceId : String) :
    List UInt8 :=
  leU16 version ++ (leU32 capabilities ++
    (leU16 (UInt16.ofNat (textBytes buildId).length) ++ (textBytes buildId ++
      (leU16 (UInt16.ofNat (textBytes serverInstanceId).length) ++
        textBytes serverInstanceId))))

/-- `CARGO_PKG_VERSION` is the first text, the second one names the running server. -/
def encodeAuthOkPayload (buildId serverInstanceId : String) : List UInt8 :=
  handshakeBytes remoteProtocolVersion remoteCapabilities buildId serverInstanceId

structure AuthOkPayloadParts where
  version : UInt16
  capabilities : UInt32
  buildId : Option String
  serverInstanceId : Option String
  deriving DecidableEq

/-! remote_wire.rs -/

def decodeAuthOkPayload (payload : List UInt8) : Option AuthOkPayloadParts :=
  if payload = [] then none
  else if payload.length < 6 then none
  else
    let version := u16At payload 0
    let capabilities := u32At payload 2
    if payload.length < 8 then some ⟨version, capabilities, none, none⟩
    else
      let buildLen := (u16At payload 6).toNat
      if payload.length < 8 + buildLen then none
      else
        let buildId := fromUtf8 (slice payload 8 buildLen)
        if payload.length < 10 + buildLen then some ⟨version, capabilities, buildId, none⟩
        else
          let instanceOffset := 8 + buildLen
          let instanceLen := (u16At payload instanceOffset).toNat
          if payload.length < instanceOffset + 2 + instanceLen then none
          else
            let serverInstanceId := fromUtf8 (slice payload (instanceOffset + 2) instanceLen)
            some ⟨version, capabilities, buildId, serverInstanceId⟩

/-- `is_none_or(str::is_empty)`. -/
def missingText (text : Option String) : Bool := text.all String.isEmpty

def validateAuthOkPayload (payload : List UInt8) : Except String Unit :=
  match decodeAuthOkPayload payload with
  | none => .error "Remote handshake is malformed"
  | some parts =>
      if parts.version ≠ remoteProtocolVersion then
        .error ("Unsupported remote protocol version: " ++ toString parts.version)
      else if parts.capabilities &&& remoteCapabilityHeartbeat = 0 then
        .error "Remote server does not advertise heartbeat support"
      else if parts.capabilities &&& remoteCapabilityQuicDirectTransport = 0 then
        .error "Remote server does not advertise QUIC direct transport"
      else if missingText parts.buildId then
        .error "Remote handshake is missing server build metadata"
      else if missingText parts.serverInstanceId then
        .error "Remote handshake is missing server instance metadata"
      else .ok ()

/-! ClientWireState.swift -/

structure AuthOkMetadata where
  protocolVersion : UInt16
  transportCapabilities : UInt32
  serverBuildId : Option String
  serverInstanceId : Option String
  deriving DecidableEq

def expectedRemoteProtocolVersion : UInt16 := 1

/-- The heartbeat bit as the Swift client declares it. -/
def swiftCapabilityHeartbeat : UInt32 := (1 : UInt32) <<< 4

def decodeAuthOkMetadata (payload : List UInt8) : Option AuthOkMetadata :=
  if ¬ 6 ≤ payload.length then none
  else
    let protocolVersion := u16At payload 0
    let transportCapabilities := u32At payload 2
    if ¬ 8 ≤ payload.length then
      some {
        protocolVersion := protocolVersion
        transportCapabilities := transportCapabilities
        serverBuildId := none
        serverInstanceId := none }
    else
      let buildLength := (u16At payload 6).toNat
      if ¬ 8 + buildLength ≤ payload.length then none
      else
        let instanceLengthOffset := 8 + buildLength
        let serverBuildId := fromUtf8 (slice payload 8 buildLength)
        if ¬ instanceLengthOffset + 2 ≤ payload.length then
          some {
            protocolVersion := protocolVersion
            transportCapabilities := transportCapabilities
            serverBuildId := serverBuildId
            serverInstanceId := none }
        else
          let instanceLength := (u16At payload instanceLengthOffset).toNat
          if ¬ instanceLengthOffset + 2 + instanceLength ≤ payload.length then none
          else
            let serverInstanceId :=
              fromUtf8 (slice payload (instanceLengthOffset + 2) instanceLength)
            some {
              protocolVersion := protocolVersion
              transportCapabilities := transportCapabilities
              serverBuildId := serverBuildId
              serverInstanceId := serverInstanceId }

/-- `none` is acceptance; a text says why the payload is refused. -/
def validateAuthOkMetadata (payload : List UInt8) : Option String :=
  match decodeAuthOkMetadata payload with
  | none => some "Remote handshake is malformed"
  | some metadata =>
      if metadata.protocolVersion ≠ expectedRemoteProtocolVersion then
        some ("Unsupported remote protocol version: " ++ toString metadata.protocolVersion)
      else if metadata.transportCapabilities &&& swiftCapabilityHeartbeat = 0 then
        some "Remote server does not advertise heartbeat support"
      else if metadata.serverBuildId.map String.isEmpty ≠ some false then
        some "Remote handshake is missing server build metadata"
      else if metadata.serverInstanceId.map String.isEmpty ≠ some false then
        some "Remote handshake is missing server instance metadata"
      else none

/-- The Swift name of what a Rust client reads. -/
def AuthOkPayloadParts.metadata (parts : AuthOkPayloadParts) : AuthOkMetadata where
  protocolVersion := parts.version
  transportCapabilities := parts.capabilities
  serverBuildId := parts.buildId
  serverInstanceId := parts.serverInstanceId

theorem missingText_iff (text : Option String) :
    missingText text = true ↔ text.map String.isEmpty ≠ some false := by
  cases text <;> simp [missingText]

/-- Both decoders stop at the same lengths, whatever the payload is. -/
theorem decodeAuthOkMetadata_eq (payload : List UInt8) :
    decodeAuthOkMetadata payload =
      (decodeAuthOkPayload payload).map AuthOkPayloadParts.metadata := by
  simp only [decodeAuthOkMetadata, decodeAuthOkPayload]
  by_cases header : payload.length < 6
  · rw [if_pos (by omega)]
    by_cases empty : payload = []
    · rw [if_pos empty]
      rfl
    · rw [if_neg empty, if_pos header]
      rfl
  · have nonempty : payload ≠ [] := by
      rintro rfl
      exact header (by simp)
    rw [if_neg (by omega), if_neg nonempty, if_neg header]
    by_cases bare : payload.length < 8
    · rw [if_pos (by omega), if_pos bare]
      rfl
    · rw [if_neg (by omega), if_neg bare]
      by_cases shortBuild : payload.length < 8 + (u16At payload 6).toNat
      · rw [if_pos (by omega), if_pos shortBuild]
        rfl
      · rw [if_neg (by omega), if_neg shortBuild]
        by_cases noInstance : payload.length < 10 + (u16At payload 6).toNat
        · rw [if_pos (by omega), if_pos noInstance]
          rfl
        · rw [if_neg (by omega), if_neg noInstance]
          by_cases shortInstance : payload.length < 8 + (u16At payload 6).toNat + 2 +
              (u16At payload (8 + (u16At payload 6).toNat)).toNat
          · rw [if_pos (by omega), if_pos shortInstance]
            rfl
          · rw [if_neg (by omega), if_neg shortInstance]
            rfl

/-- What a handshake must say to be accepted by a Rust client. -/
structure Accepted (parts : AuthOkPayloadParts) : Prop where
  version : parts.version = remoteProtocolVersion
  heartbeat : parts.capabilities &&& remoteCapabilityHeartbeat ≠ 0
  quic : parts.capabilities &&& remoteCapabilityQuicDirectTransport ≠ 0
  build : missingText parts.buildId = false
  server : missingText parts.serverInstanceId = false

theorem validateAuthOkPayload_iff (payload : List UInt8) :
    validateAuthOkPayload payload = .ok () ↔
      ∃ parts, decodeAuthOkPayload payload = some parts ∧ Accepted parts := by
  rw [validateAuthOkPayload]
  cases decodeAuthOkPayload payload with
  | none => simp
  | some parts =>
      have fields : Accepted parts ↔ parts.version = remoteProtocolVersion ∧
          parts.capabilities &&& remoteCapabilityHeartbeat ≠ 0 ∧
          parts.capabilities &&& remoteCapabilityQuicDirectTransport ≠ 0 ∧
          missingText parts.buildId = false ∧ missingText parts.serverInstanceId = false :=
        ⟨fun h => ⟨h.version, h.heartbeat, h.quic, h.build, h.server⟩,
          fun ⟨version, heartbeat, quic, build, server⟩ =>
            ⟨version, heartbeat, quic, build, server⟩⟩
      simp only [Option.some.injEq, exists_eq_left', fields]
      split_ifs <;> simp_all

theorem validateAuthOkMetadata_iff (payload : List UInt8) :
    validateAuthOkMetadata payload = none ↔
      ∃ parts, decodeAuthOkPayload payload = some parts ∧
        parts.version = remoteProtocolVersion ∧
        parts.capabilities &&& remoteCapabilityHeartbeat ≠ 0 ∧
        missingText parts.buildId = false ∧ missingText parts.serverInstanceId = false := by
  rw [validateAuthOkMetadata, decodeAuthOkMetadata_eq]
  cases decodeAuthOkPayload payload with
  | none => simp
  | some parts =>
      have sameVersion : expectedRemoteProtocolVersion = remoteProtocolVersion := rfl
      have sameBit : swiftCapabilityHeartbeat = remoteCapabilityHeartbeat := rfl
      simp only [Option.map_some, AuthOkPayloadParts.metadata, ← missingText_iff,
        Option.some.injEq, exists_eq_left', sameVersion, sameBit]
      split_ifs <;> simp_all

/-- The clients read the same parts of every payload, and the Rust client asks for one
capability more: the QUIC transport that it connects over. -/
theorem handshake_agreement (payload : List UInt8) :
    decodeAuthOkMetadata payload =
        (decodeAuthOkPayload payload).map AuthOkPayloadParts.metadata ∧
      (validateAuthOkPayload payload = .ok () ↔
        validateAuthOkMetadata payload = none ∧ ∀ parts, decodeAuthOkPayload payload = some parts →
          parts.capabilities &&& remoteCapabilityQuicDirectTransport ≠ 0) := by
  refine ⟨decodeAuthOkMetadata_eq payload, ?_⟩
  rw [validateAuthOkPayload_iff, validateAuthOkMetadata_iff]
  constructor
  · rintro ⟨parts, decoded, accepted⟩
    refine ⟨⟨parts, decoded, accepted.version, accepted.heartbeat, accepted.build,
      accepted.server⟩, fun other found => ?_⟩
    rw [decoded] at found
    cases found
    exact accepted.quic
  · rintro ⟨⟨parts, decoded, version, heartbeat, build, server⟩, quic⟩
    exact ⟨parts, decoded, version, heartbeat, quic parts decoded, build, server⟩

section Layout

variable {version : UInt16} {capabilities : UInt32} {buildId serverInstanceId : String}

theorem decode_handshakeBytes (fitsBuild : (textBytes buildId).length < 2 ^ 16)
    (fitsInstance : (textBytes serverInstanceId).length < 2 ^ 16) :
    decodeAuthOkPayload (handshakeBytes version capabilities buildId serverInstanceId) =
      some ⟨version, capabilities, some buildId, some serverInstanceId⟩ := by
  obtain ⟨payload, encoded⟩ :
      ∃ payload, payload = handshakeBytes version capabilities buildId serverInstanceId := ⟨_, rfl⟩
  have whole : Rest payload 0 (handshakeBytes version capabilities buildId serverInstanceId) :=
    encoded ▸ rest_zero _
  rw [handshakeBytes] at whole
  rw [← encoded]
  have versionAt : u16At payload 0 = version := u16At_rest whole
  have behindVersion := whole.skip
  rw [length_leU16] at behindVersion
  have capabilitiesAt : u32At payload 2 = capabilities := u32At_rest behindVersion
  have behindCapabilities := behindVersion.skip
  rw [length_leU32] at behindCapabilities
  have buildLen : (u16At payload 6).toNat = (textBytes buildId).length := by
    rw [u16At_rest behindCapabilities, UInt16.toNat_ofNat', Nat.mod_eq_of_lt fitsBuild]
  have behindBuildLen := behindCapabilities.skip
  rw [length_leU16] at behindBuildLen
  have build : slice payload 8 (textBytes buildId).length = textBytes buildId :=
    behindBuildLen.slice_eq rfl
  have behindBuild := behindBuildLen.skip
  have instanceLen : (u16At payload (8 + (textBytes buildId).length)).toNat =
      (textBytes serverInstanceId).length := by
    rw [u16At_rest behindBuild, UInt16.toNat_ofNat', Nat.mod_eq_of_lt fitsInstance]
  have behindInstanceLen := behindBuild.skip
  rw [length_leU16] at behindInstanceLen
  have server : slice payload (8 + (textBytes buildId).length + 2)
      (textBytes serverInstanceId).length = textBytes serverInstanceId := by
    rw [slice, behindInstanceLen.drop_eq, List.take_length]
  have total := behindInstanceLen.length_eq
  have nonempty : payload ≠ [] := List.ne_nil_of_length_pos (by omega)
  rw [decodeAuthOkPayload, if_neg nonempty, if_neg (by omega)]
  dsimp only
  rw [if_neg (by omega), buildLen, if_neg (by omega), if_neg (by omega), instanceLen,
    if_neg (by omega), build, server, versionAt, capabilitiesAt, fromUtf8_textBytes,
    fromUtf8_textBytes]

/-- The payload that a server sends is accepted by both clients. -/
theorem encodeAuthOkPayload_accepted (build : buildId ≠ "") (server : serverInstanceId ≠ "")
    (fitsBuild : (textBytes buildId).length < 2 ^ 16)
    (fitsInstance : (textBytes serverInstanceId).length < 2 ^ 16) :
    validateAuthOkPayload (encodeAuthOkPayload buildId serverInstanceId) = .ok () ∧
      validateAuthOkMetadata (encodeAuthOkPayload buildId serverInstanceId) = none := by
  have decoded := @decode_handshakeBytes remoteProtocolVersion remoteCapabilities _ _ fitsBuild
    fitsInstance
  have heartbeat : remoteCapabilities &&& remoteCapabilityHeartbeat ≠ 0 := by decide
  have quic : remoteCapabilities &&& remoteCapabilityQuicDirectTransport ≠ 0 := by decide
  have present : ∀ text : String, text ≠ "" → missingText (some text) = false := by
    intro text nonempty
    simpa [missingText] using nonempty
  refine ⟨(validateAuthOkPayload_iff _).mpr ⟨_, decoded, rfl, heartbeat, quic,
    present _ build, present _ server⟩, ?_⟩
  exact (validateAuthOkMetadata_iff _).mpr ⟨_, decoded, rfl, heartbeat, present _ build,
    present _ server⟩

end Layout

/-- A server without QUIC: the Swift client connects, the Rust client refuses. -/
theorem withoutQuic_disagree :
    ¬ ∀ payload, validateAuthOkMetadata payload = none ↔ validateAuthOkPayload payload = .ok () := by
  intro agree
  have decoded : decodeAuthOkPayload (handshakeBytes 1 0x7f "1" "a") =
      some ⟨1, 0x7f, some "1", some "a"⟩ := decode_handshakeBytes (by decide) (by decide)
  have swift : validateAuthOkMetadata (handshakeBytes 1 0x7f "1" "a") = none :=
    (validateAuthOkMetadata_iff _).mpr ⟨_, decoded, rfl, by decide, by decide, by decide⟩
  obtain ⟨parts, found, accepted⟩ := (validateAuthOkPayload_iff _).mp ((agree _).mp swift)
  rw [decoded] at found
  cases found
  exact accepted.quic (by decide)

end Boo.Remote.AuthOk
