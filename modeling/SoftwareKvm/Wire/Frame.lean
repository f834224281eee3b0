import SoftwareKvm.Lib.Framing
import SoftwareKvm.Wire.Message

/-!
# Frames

Models of `kvm-protocol/src/frame.rs` and of the incremental decoding of
`kvm-network/src/codec.rs` (lines 152–208): a frame is a twelve-byte header
`magic[4] | version:u16 | type:u16 | length:u32` in network byte order and a
payload of the declared length.

The payload format is that of the `postcard` crate. `PayloadCodec` stands for
it: how a payload of a message type is decoded, or the text of its failure.

* `frameDecoder`: decoding one frame at the front of a buffer, with the laws a
  stream decoder needs.
-/

namespace SoftwareKvm

open Lib

inductive ProtocolError
  | headerTruncated (expected actual : ℕ)
  | invalidMagic (magic : List UInt8)
  | unsupportedVersion (received supported : ℕ)
  | messageVersionMismatch (messageType : MessageType) (version : ℕ)
  | unknownMessageType (value : ℕ)
  | payloadTooLarge (length maximum : ℕ)
  | payloadTruncated (declared available : ℕ)
  | trailingBytes (count : ℕ)
  | decode (messageType : MessageType) (detail : String)
  | invalidMessage (error : ValidationError)
  deriving DecidableEq

/-- `WireMessage::decode_payload`. -/
abbrev PayloadCodec := MessageType → List UInt8 → Except String WireMessage

/-- `FRAME_MAGIC`, the bytes of `SKVM`. -/
def frameMagic : List UInt8 := [0x53, 0x4B, 0x56, 0x4D]

def frameHeaderLen : ℕ := 12

def maxFramePayload : ℕ := 1024 * 1024

def currentProtocolVersion : ℕ := 3

def fromBeBytes (bytes : List UInt8) : ℕ :=
  bytes.foldl (fun value byte => value * 256 + byte.toNat) 0

namespace MessageType

def tryFrom : ℕ → Except ProtocolError MessageType
  | 1 => .ok .hello
  | 2 => .ok .authenticate
  | 10 => .ok .deviceSnapshot
  | 11 => .ok .deviceAdded
  | 12 => .ok .deviceRemoved
  | 20 => .ok .displaySnapshot
  | 21 => .ok .displayUpdated
  | 30 => .ok .input
  | 31 => .ok .pointerEnter
  | 32 => .ok .pointerLeave
  | 33 => .ok .pointerTransitionAck
  | 34 => .ok .pointerTransitionCommit
  | 40 => .ok .clipboard
  | 50 => .ok .ping
  | 51 => .ok .pong
  | 60 => .ok .releaseInput
  | 61 => .ok .releaseInputV2
  | 62 => .ok .releaseAppliedAckV2
  | other => .error (.unknownMessageType other)

def minimumProtocolVersion : MessageType → ℕ
  | .releaseInputV2 | .releaseAppliedAckV2 => 2
  | _ => 1

end MessageType

def requireSupportedVersion (version : ℕ) : Except ProtocolError Unit :=
  if isSupportedProtocolVersion version then .ok ()
  else .error (.unsupportedVersion version currentProtocolVersion)

def requireMessageVersion (messageType : MessageType) (version : ℕ) : Except ProtocolError Unit :=
  if version < messageType.minimumProtocolVersion then
    .error (.messageVersionMismatch messageType version)
  else .ok ()

structure FrameHeader where
  protocolVersion : ℕ
  messageType : MessageType
  payloadLength : ℕ

namespace FrameHeader

def decodeSupported (bytes : List UInt8) : Except ProtocolError FrameHeader := do
  if bytes.length < frameHeaderLen then
    throw (.headerTruncated frameHeaderLen bytes.length)
  let magic := bytes.take 4
  if magic ≠ frameMagic then throw (.invalidMagic magic)
  let protocolVersion := fromBeBytes ((bytes.drop 4).take 2)
  requireSupportedVersion protocolVersion
  let messageType ← MessageType.tryFrom (fromBeBytes ((bytes.drop 6).take 2))
  requireMessageVersion messageType protocolVersion
  let payloadLength := fromBeBytes ((bytes.drop 8).take 4)
  if maxFramePayload < payloadLength then throw (.payloadTooLarge payloadLength maxFramePayload)
  return ⟨protocolVersion, messageType, payloadLength⟩

def decodeForVersion (bytes : List UInt8) (requiredVersion : ℕ) :
    Except ProtocolError FrameHeader := do
  requireSupportedVersion requiredVersion
  let header ← decodeSupported bytes
  if header.protocolVersion ≠ requiredVersion then
    throw (.unsupportedVersion header.protocolVersion requiredVersion)
  return header

end FrameHeader

def decodeFrameForVersion (codec : PayloadCodec) (frame : List UInt8) (requiredVersion : ℕ) :
    Except ProtocolError WireMessage := do
  let header ← FrameHeader.decodeForVersion frame requiredVersion
  requireMessageVersion header.messageType requiredVersion
  let declared := header.payloadLength
  let available := frame.length - frameHeaderLen
  if available < declared then throw (.payloadTruncated declared available)
  if declared < available then throw (.trailingBytes (available - declared))
  let message ← (codec header.messageType (frame.drop frameHeaderLen)).mapError
    (.decode header.messageType)
  message.validate.mapError .invalidMessage
  return message

def decodeCompleteFrame (codec : PayloadCodec) (requiredVersion : ℕ) (buffer : List UInt8) :
    Except ProtocolError (Option (WireMessage × ℕ)) :=
  if buffer.length < frameHeaderLen then .ok none
  else match FrameHeader.decodeForVersion (buffer.take frameHeaderLen) requiredVersion with
    | .error error => .error error
    | .ok header =>
      let total := frameHeaderLen + header.payloadLength
      if buffer.length < total then .ok none
      else (decodeFrameForVersion codec (buffer.take total) requiredVersion).map
        fun message => some (message, total)

/-! ## Frames in a stream -/

section Laws

variable {codec : PayloadCodec} {version : ℕ} {buffer : List UInt8}

/-- A frame or an error that was found is still there when more bytes follow. -/
theorem decodeCompleteFrame_append (more : List UInt8)
    (h : decodeCompleteFrame codec version buffer ≠ .ok none) :
    decodeCompleteFrame codec version (buffer ++ more)
      = decodeCompleteFrame codec version buffer := by
  unfold decodeCompleteFrame at h ⊢
  by_cases hheader : buffer.length < frameHeaderLen
  · simp [hheader] at h
  have hlong : ¬(buffer ++ more).length < frameHeaderLen := by
    rw [List.length_append]
    omega
  rw [if_neg hheader] at h ⊢
  rw [if_neg hlong, List.take_append_of_le_length (by omega)]
  cases hdecode : FrameHeader.decodeForVersion (buffer.take frameHeaderLen) version with
  | error error => rfl
  | ok header =>
    simp only [hdecode] at h ⊢
    by_cases hpayload : buffer.length < frameHeaderLen + header.payloadLength
    · simp [hpayload] at h
    have hwhole : ¬(buffer ++ more).length < frameHeaderLen + header.payloadLength := by
      rw [List.length_append]
      omega
    rw [if_neg hpayload, if_neg hwhole, List.take_append_of_le_length (by omega)]

theorem decodeCompleteFrame_length {message : WireMessage} {length : ℕ}
    (h : decodeCompleteFrame codec version buffer = .ok (some (message, length))) :
    0 < length ∧ length ≤ buffer.length := by
  unfold decodeCompleteFrame at h
  split at h
  · cases h
  split at h
  · cases h
  next header _ =>
  simp only at h
  split at h
  · cases h
  next hpayload =>
  generalize decodeFrameForVersion codec _ version = decoded at h
  cases decoded with
  | error error => cases h
  | ok found =>
    cases h
    exact ⟨Nat.lt_of_lt_of_le (by decide) (Nat.le_add_right _ _), not_lt.mp hpayload⟩

end Laws

/-- The decoder of one frame at the front of a buffer. -/
def frameDecoder (codec : PayloadCodec) (version : ℕ) :
    FrameDecoder UInt8 ProtocolError WireMessage where
  decode := decodeCompleteFrame codec version
  pos := decodeCompleteFrame_length
  stable := fun more h => by rw [decodeCompleteFrame_append more (by simp [h]), h]
  stable_error := fun more h => by rw [decodeCompleteFrame_append more (by simp [h]), h]
  decode_nil := rfl

end SoftwareKvm
