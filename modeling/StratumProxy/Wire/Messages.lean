import StratumProxy.Wire.Framing

/-!
# The V2 Message Catalog

The eighteen base-extension messages of `messages.rs`, each with the `#[id]`
it is declared with, the codec `serde`'s derive gives it, and the two frame
conversions its `impl_base_message_conversion!` line generates.

A message is written field by field in declaration order, so each codec is the
product of its field codecs carried through the record's bijection with the
tuple of its fields. The round trip and the soundness of every message codec
are therefore inherited from `Codec.prod` and `Codec.map`, with nothing proved
per message.

`impl_message_conversion!` is not among the sources. It is modelled from the
specification as `implBaseMessageConversion`: a message becomes the frame of
its serialized payload under the base extension, its `#[id]` and the channel
flag of its macro line, and a frame becomes a message by deserializing its
payload.

`MessageType` names the eighteen types, so that one statement can range over
all of them: `conversion_roundtrip` is that statement. The codecs also carry
a bound on the length of what they write, and `toFrame_msgLength_fits`
reads it off: no catalog message comes near the 24 bits of `msg_length`.

## Main definitions

* `MessageConversion`: The conversions generated for one message type.
* `implBaseMessageConversion`: The conversions of a base-extension message.
* `SetupConnection` ... `SetTarget`: The messages and their conversions.
* `MessageType`: The catalog, with each type's carrier, id, flag and
  conversions.

## Theorems

* `MessageConversion.tryFrom_toFrame`: A message survives its frame.
* `MessageType.toFrame_header`: The header a catalog frame gets.
* `conversion_roundtrip`: Every message of every catalog type survives its
  frame, under a header naming the base extension, its id and its flag.
* `conversion_tryFrom_sound`: What a conversion accepts is a serialization.
* `toFrame_msgLength_fits`: Every payload fits the length field.
-/

namespace StratumProxy

/-- The conversions `impl_message_conversion!` generates for one message type:
    `TryFrom<M> for framing::Frame` and `TryFrom<framing::Frame> for M`. -/
structure MessageConversion (α : Type) where
  extensionType : UInt16
  id : UInt8
  isChannelMsg : Bool
  codec : Codec α

namespace MessageConversion

variable {α : Type}

/-- Modelled from the spec: `TryFrom<M> for framing::Frame`, the frame of the
    serialized message under the conversion's extension, id and flag. -/
def toFrame (c : MessageConversion α) (m : α) : Frame :=
  Frame.fromSerializablePayload c.isChannelMsg c.extensionType c.id (c.codec.write m)

/-- Modelled from the spec: `TryFrom<framing::Frame> for M`, the payload
    deserialized with nothing left over. -/
def tryFrom (c : MessageConversion α) (frame : Frame) : Option α :=
  c.codec.fromSlice frame.payload

@[simp] theorem tryFrom_toFrame (c : MessageConversion α) (m : α) :
    c.tryFrom (c.toFrame m) = some m :=
  c.codec.fromSlice_write m

end MessageConversion

/-- `impl_base_message_conversion!`: the conversions of a message of the base
    extension. -/
def implBaseMessageConversion {α : Type} (id : UInt8) (isChannelMsg : Bool) (codec : Codec α) :
    MessageConversion α :=
  ⟨BASE, id, isChannelMsg, codec⟩

/-! ## Connection setup -/

structure SetupConnection where
  protocol : UInt8
  minVersion : UInt16
  maxVersion : UInt16
  flags : UInt32
  endpointHost : Str0_255
  endpointPort : UInt16
  device : DeviceInfo
deriving DecidableEq

def SetupConnection.ID : UInt8 := 0x00

def SetupConnection.codec : Codec SetupConnection :=
  (u8.prod (u16.prod (u16.prod (u32.prod (Str0_255.codec.prod (u16.prod DeviceInfo.codec)))))).map
    (fun p => ⟨p.1, p.2.1, p.2.2.1, p.2.2.2.1, p.2.2.2.2.1, p.2.2.2.2.2.1, p.2.2.2.2.2.2⟩)
    (fun m => (m.protocol, m.minVersion, m.maxVersion, m.flags, m.endpointHost,
      m.endpointPort, m.device))
    (fun _ => rfl) (fun _ => rfl)

def SetupConnection.conversion : MessageConversion SetupConnection :=
  implBaseMessageConversion SetupConnection.ID false SetupConnection.codec

structure SetupConnectionSuccess where
  usedVersion : UInt16
  flags : UInt32
deriving DecidableEq

def SetupConnectionSuccess.ID : UInt8 := 0x01

def SetupConnectionSuccess.codec : Codec SetupConnectionSuccess :=
  (u16.prod u32).map (fun p => ⟨p.1, p.2⟩) (fun m => (m.usedVersion, m.flags))
    (fun _ => rfl) (fun _ => rfl)

def SetupConnectionSuccess.conversion : MessageConversion SetupConnectionSuccess :=
  implBaseMessageConversion SetupConnectionSuccess.ID false SetupConnectionSuccess.codec

structure SetupConnectionError where
  flags : UInt32
  code : Str0_255
deriving DecidableEq

def SetupConnectionError.ID : UInt8 := 0x02

def SetupConnectionError.codec : Codec SetupConnectionError :=
  (u32.prod Str0_255.codec).map (fun p => ⟨p.1, p.2⟩) (fun m => (m.flags, m.code))
    (fun _ => rfl) (fun _ => rfl)

def SetupConnectionError.conversion : MessageConversion SetupConnectionError :=
  implBaseMessageConversion SetupConnectionError.ID false SetupConnectionError.codec

structure ChannelEndpointChanged where
  channelId : UInt32
deriving DecidableEq

def ChannelEndpointChanged.ID : UInt8 := 0x03

def ChannelEndpointChanged.codec : Codec ChannelEndpointChanged :=
  u32.map ChannelEndpointChanged.mk ChannelEndpointChanged.channelId (fun _ => rfl) (fun _ => rfl)

def ChannelEndpointChanged.conversion : MessageConversion ChannelEndpointChanged :=
  implBaseMessageConversion ChannelEndpointChanged.ID false ChannelEndpointChanged.codec

/-! ## Channel opening and updates -/

structure OpenStandardMiningChannel where
  reqId : UInt32
  user : Str0_255
  nominalHashrate : F32
  maxTarget : Uint256Bytes
deriving DecidableEq

def OpenStandardMiningChannel.ID : UInt8 := 0x10

def OpenStandardMiningChannel.codec : Codec OpenStandardMiningChannel :=
  (u32.prod (Str0_255.codec.prod (F32.codec.prod Uint256Bytes.codec))).map
    (fun p => ⟨p.1, p.2.1, p.2.2.1, p.2.2.2⟩)
    (fun m => (m.reqId, m.user, m.nominalHashrate, m.maxTarget))
    (fun _ => rfl) (fun _ => rfl)

def OpenStandardMiningChannel.conversion : MessageConversion OpenStandardMiningChannel :=
  implBaseMessageConversion OpenStandardMiningChannel.ID false OpenStandardMiningChannel.codec

structure OpenStandardMiningChannelSuccess where
  reqId : UInt32
  channelId : UInt32
  target : Uint256Bytes
  extranoncePrefix : Bytes0_32
  groupChannelId : UInt32
deriving DecidableEq

def OpenStandardMiningChannelSuccess.ID : UInt8 := 0x11

def OpenStandardMiningChannelSuccess.codec : Codec OpenStandardMiningChannelSuccess :=
  (u32.prod (u32.prod (Uint256Bytes.codec.prod (Bytes0_32.codec.prod u32)))).map
    (fun p => ⟨p.1, p.2.1, p.2.2.1, p.2.2.2.1, p.2.2.2.2⟩)
    (fun m => (m.reqId, m.channelId, m.target, m.extranoncePrefix, m.groupChannelId))
    (fun _ => rfl) (fun _ => rfl)

def OpenStandardMiningChannelSuccess.conversion :
    MessageConversion OpenStandardMiningChannelSuccess :=
  implBaseMessageConversion OpenStandardMiningChannelSuccess.ID false
    OpenStandardMiningChannelSuccess.codec

structure OpenMiningChannelError where
  reqId : UInt32
  code : Str0_32
deriving DecidableEq

def OpenMiningChannelError.ID : UInt8 := 0x12

def OpenMiningChannelError.codec : Codec OpenMiningChannelError :=
  (u32.prod Str0_32.codec).map (fun p => ⟨p.1, p.2⟩) (fun m => (m.reqId, m.code))
    (fun _ => rfl) (fun _ => rfl)

def OpenMiningChannelError.conversion : MessageConversion OpenMiningChannelError :=
  implBaseMessageConversion OpenMiningChannelError.ID false OpenMiningChannelError.codec

structure UpdateChannel where
  channelId : UInt32
  nominalHashRate : F32
  maximumTarget : Uint256Bytes
deriving DecidableEq

def UpdateChannel.ID : UInt8 := 0x16

def UpdateChannel.codec : Codec UpdateChannel :=
  (u32.prod (F32.codec.prod Uint256Bytes.codec)).map (fun p => ⟨p.1, p.2.1, p.2.2⟩)
    (fun m => (m.channelId, m.nominalHashRate, m.maximumTarget)) (fun _ => rfl) (fun _ => rfl)

def UpdateChannel.conversion : MessageConversion UpdateChannel :=
  implBaseMessageConversion UpdateChannel.ID true UpdateChannel.codec

structure UpdateChannelError where
  channelId : UInt32
  errorCode : Str0_32
deriving DecidableEq

def UpdateChannelError.ID : UInt8 := 0x17

def UpdateChannelError.codec : Codec UpdateChannelError :=
  (u32.prod Str0_32.codec).map (fun p => ⟨p.1, p.2⟩) (fun m => (m.channelId, m.errorCode))
    (fun _ => rfl) (fun _ => rfl)

def UpdateChannelError.conversion : MessageConversion UpdateChannelError :=
  implBaseMessageConversion UpdateChannelError.ID true UpdateChannelError.codec

structure CloseChannel where
  channelId : UInt32
  reasonCode : Str0_32
deriving DecidableEq

def CloseChannel.ID : UInt8 := 0x18

def CloseChannel.codec : Codec CloseChannel :=
  (u32.prod Str0_32.codec).map (fun p => ⟨p.1, p.2⟩) (fun m => (m.channelId, m.reasonCode))
    (fun _ => rfl) (fun _ => rfl)

def CloseChannel.conversion : MessageConversion CloseChannel :=
  implBaseMessageConversion CloseChannel.ID true CloseChannel.codec

/-! ## Shares and jobs -/

structure SubmitSharesStandard where
  channelId : UInt32
  seqNum : UInt32
  jobId : UInt32
  nonce : UInt32
  ntime : UInt32
  version : UInt32
deriving DecidableEq

def SubmitSharesStandard.ID : UInt8 := 0x1a

def SubmitSharesStandard.codec : Codec SubmitSharesStandard :=
  (u32.prod (u32.prod (u32.prod (u32.prod (u32.prod u32))))).map
    (fun p => ⟨p.1, p.2.1, p.2.2.1, p.2.2.2.1, p.2.2.2.2.1, p.2.2.2.2.2⟩)
    (fun m => (m.channelId, m.seqNum, m.jobId, m.nonce, m.ntime, m.version))
    (fun _ => rfl) (fun _ => rfl)

def SubmitSharesStandard.conversion : MessageConversion SubmitSharesStandard :=
  implBaseMessageConversion SubmitSharesStandard.ID true SubmitSharesStandard.codec

/-- Acceptance of one or more share submissions, aggregated. -/
structure SubmitSharesSuccess where
  channelId : UInt32
  lastSeqNum : UInt32
  newSubmitsAcceptedCount : UInt32
  newSharesSum : UInt32
deriving DecidableEq

def SubmitSharesSuccess.ID : UInt8 := 0x1c

def SubmitSharesSuccess.codec : Codec SubmitSharesSuccess :=
  (u32.prod (u32.prod (u32.prod u32))).map (fun p => ⟨p.1, p.2.1, p.2.2.1, p.2.2.2⟩)
    (fun m => (m.channelId, m.lastSeqNum, m.newSubmitsAcceptedCount, m.newSharesSum))
    (fun _ => rfl) (fun _ => rfl)

def SubmitSharesSuccess.conversion : MessageConversion SubmitSharesSuccess :=
  implBaseMessageConversion SubmitSharesSuccess.ID true SubmitSharesSuccess.codec

/-- The rejection of one share submission, named by its sequence number. -/
structure SubmitSharesError where
  channelId : UInt32
  seqNum : UInt32
  code : Str0_32
deriving DecidableEq

def SubmitSharesError.ID : UInt8 := 0x1d

def SubmitSharesError.codec : Codec SubmitSharesError :=
  (u32.prod (u32.prod Str0_32.codec)).map (fun p => ⟨p.1, p.2.1, p.2.2⟩)
    (fun m => (m.channelId, m.seqNum, m.code)) (fun _ => rfl) (fun _ => rfl)

def SubmitSharesError.conversion : MessageConversion SubmitSharesError :=
  implBaseMessageConversion SubmitSharesError.ID true SubmitSharesError.codec

structure NewMiningJob where
  channelId : UInt32
  jobId : UInt32
  futureJob : Bool
  version : UInt32
  merkleRoot : Uint256Bytes
deriving DecidableEq

def NewMiningJob.ID : UInt8 := 0x1e

def NewMiningJob.codec : Codec NewMiningJob :=
  (u32.prod (u32.prod (bool.prod (u32.prod Uint256Bytes.codec)))).map
    (fun p => ⟨p.1, p.2.1, p.2.2.1, p.2.2.2.1, p.2.2.2.2⟩)
    (fun m => (m.channelId, m.jobId, m.futureJob, m.version, m.merkleRoot))
    (fun _ => rfl) (fun _ => rfl)

def NewMiningJob.conversion : MessageConversion NewMiningJob :=
  implBaseMessageConversion NewMiningJob.ID true NewMiningJob.codec

structure NewExtendedMiningJob where
  channelId : UInt32
  jobId : UInt32
  futureJob : Bool
  version : UInt32
  versionRollingAllowed : Bool
  merklePath : Seq0_255 Uint256Bytes
  coinbaseTxPrefix : Bytes0_64k
  coinbaseTxSuffix : Bytes0_64k
deriving DecidableEq

def NewExtendedMiningJob.ID : UInt8 := 0x1f

def NewExtendedMiningJob.codec : Codec NewExtendedMiningJob :=
  (u32.prod (u32.prod (bool.prod (u32.prod (bool.prod ((Seq0_255.codec Uint256Bytes.codec).prod
    (Bytes0_64k.codec.prod Bytes0_64k.codec))))))).map
    (fun p => ⟨p.1, p.2.1, p.2.2.1, p.2.2.2.1, p.2.2.2.2.1, p.2.2.2.2.2.1, p.2.2.2.2.2.2.1,
      p.2.2.2.2.2.2.2⟩)
    (fun m => (m.channelId, m.jobId, m.futureJob, m.version, m.versionRollingAllowed,
      m.merklePath, m.coinbaseTxPrefix, m.coinbaseTxSuffix))
    (fun _ => rfl) (fun _ => rfl)

def NewExtendedMiningJob.conversion : MessageConversion NewExtendedMiningJob :=
  implBaseMessageConversion NewExtendedMiningJob.ID true NewExtendedMiningJob.codec

structure SetNewPrevHash where
  channelId : UInt32
  jobId : UInt32
  prevHash : Uint256Bytes
  minNtime : UInt32
  nbits : UInt32
deriving DecidableEq

def SetNewPrevHash.ID : UInt8 := 0x20

def SetNewPrevHash.codec : Codec SetNewPrevHash :=
  (u32.prod (u32.prod (Uint256Bytes.codec.prod (u32.prod u32)))).map
    (fun p => ⟨p.1, p.2.1, p.2.2.1, p.2.2.2.1, p.2.2.2.2⟩)
    (fun m => (m.channelId, m.jobId, m.prevHash, m.minNtime, m.nbits))
    (fun _ => rfl) (fun _ => rfl)

def SetNewPrevHash.conversion : MessageConversion SetNewPrevHash :=
  implBaseMessageConversion SetNewPrevHash.ID true SetNewPrevHash.codec

structure SetTarget where
  channelId : UInt32
  maxTarget : Uint256Bytes
deriving DecidableEq

def SetTarget.ID : UInt8 := 0x21

def SetTarget.codec : Codec SetTarget :=
  (u32.prod Uint256Bytes.codec).map (fun p => ⟨p.1, p.2⟩) (fun m => (m.channelId, m.maxTarget))
    (fun _ => rfl) (fun _ => rfl)

def SetTarget.conversion : MessageConversion SetTarget :=
  implBaseMessageConversion SetTarget.ID true SetTarget.codec

structure Reconnect where
  newHost : Str0_255
  newPort : UInt16
deriving DecidableEq

def Reconnect.ID : UInt8 := 0x25

def Reconnect.codec : Codec Reconnect :=
  (Str0_255.codec.prod u16).map (fun p => ⟨p.1, p.2⟩) (fun m => (m.newHost, m.newPort))
    (fun _ => rfl) (fun _ => rfl)

def Reconnect.conversion : MessageConversion Reconnect :=
  implBaseMessageConversion Reconnect.ID false Reconnect.codec

/-! ## The catalog -/

/-- The message types converted through `impl_base_message_conversion!`. -/
inductive MessageType
  | setupConnection
  | setupConnectionSuccess
  | setupConnectionError
  | channelEndpointChanged
  | openStandardMiningChannel
  | openStandardMiningChannelSuccess
  | openMiningChannelError
  | updateChannel
  | updateChannelError
  | closeChannel
  | submitSharesStandard
  | submitSharesSuccess
  | submitSharesError
  | newMiningJob
  | newExtendedMiningJob
  | setNewPrevHash
  | reconnect
  | setTarget
deriving DecidableEq, Repr

namespace MessageType

/-- The Rust type each catalog entry names. -/
def Carrier : MessageType → Type
  | setupConnection => SetupConnection
  | setupConnectionSuccess => SetupConnectionSuccess
  | setupConnectionError => SetupConnectionError
  | channelEndpointChanged => ChannelEndpointChanged
  | openStandardMiningChannel => OpenStandardMiningChannel
  | openStandardMiningChannelSuccess => OpenStandardMiningChannelSuccess
  | openMiningChannelError => OpenMiningChannelError
  | updateChannel => UpdateChannel
  | updateChannelError => UpdateChannelError
  | closeChannel => CloseChannel
  | submitSharesStandard => SubmitSharesStandard
  | submitSharesSuccess => SubmitSharesSuccess
  | submitSharesError => SubmitSharesError
  | newMiningJob => NewMiningJob
  | newExtendedMiningJob => NewExtendedMiningJob
  | setNewPrevHash => SetNewPrevHash
  | reconnect => Reconnect
  | setTarget => SetTarget

/-- The `#[id]` each type is declared with. -/
def id : MessageType → UInt8
  | setupConnection => SetupConnection.ID
  | setupConnectionSuccess => SetupConnectionSuccess.ID
  | setupConnectionError => SetupConnectionError.ID
  | channelEndpointChanged => ChannelEndpointChanged.ID
  | openStandardMiningChannel => OpenStandardMiningChannel.ID
  | openStandardMiningChannelSuccess => OpenStandardMiningChannelSuccess.ID
  | openMiningChannelError => OpenMiningChannelError.ID
  | updateChannel => UpdateChannel.ID
  | updateChannelError => UpdateChannelError.ID
  | closeChannel => CloseChannel.ID
  | submitSharesStandard => SubmitSharesStandard.ID
  | submitSharesSuccess => SubmitSharesSuccess.ID
  | submitSharesError => SubmitSharesError.ID
  | newMiningJob => NewMiningJob.ID
  | newExtendedMiningJob => NewExtendedMiningJob.ID
  | setNewPrevHash => SetNewPrevHash.ID
  | reconnect => Reconnect.ID
  | setTarget => SetTarget.ID

/-- The channel-message flag each type's `impl_base_message_conversion!` line
    passes. -/
def isChannelMsg : MessageType → Bool
  | setupConnection | setupConnectionSuccess | setupConnectionError
  | channelEndpointChanged | openStandardMiningChannel
  | openStandardMiningChannelSuccess | openMiningChannelError => false
  | updateChannel | updateChannelError | closeChannel | submitSharesStandard
  | submitSharesSuccess | submitSharesError | newMiningJob | newExtendedMiningJob
  | setNewPrevHash => true
  | reconnect => false
  | setTarget => true

/-- Each type's generated conversions. -/
def conversion : (t : MessageType) → MessageConversion t.Carrier
  | setupConnection => SetupConnection.conversion
  | setupConnectionSuccess => SetupConnectionSuccess.conversion
  | setupConnectionError => SetupConnectionError.conversion
  | channelEndpointChanged => ChannelEndpointChanged.conversion
  | openStandardMiningChannel => OpenStandardMiningChannel.conversion
  | openStandardMiningChannelSuccess => OpenStandardMiningChannelSuccess.conversion
  | openMiningChannelError => OpenMiningChannelError.conversion
  | updateChannel => UpdateChannel.conversion
  | updateChannelError => UpdateChannelError.conversion
  | closeChannel => CloseChannel.conversion
  | submitSharesStandard => SubmitSharesStandard.conversion
  | submitSharesSuccess => SubmitSharesSuccess.conversion
  | submitSharesError => SubmitSharesError.conversion
  | newMiningJob => NewMiningJob.conversion
  | newExtendedMiningJob => NewExtendedMiningJob.conversion
  | setNewPrevHash => SetNewPrevHash.conversion
  | reconnect => Reconnect.conversion
  | setTarget => SetTarget.conversion

/-- Every catalog conversion is a base-extension conversion under the type's
    own id and flag; the rest of the catalog's facts are read off this. -/
theorem conversion_eq (t : MessageType) :
    t.conversion = implBaseMessageConversion t.id t.isChannelMsg t.conversion.codec := by
  cases t <;> rfl

/-- The header of a catalog frame: the type's flag and id under the base
    extension, over the length of the serialized message. -/
@[simp] theorem toFrame_header (t : MessageType) (m : t.Carrier) :
    (t.conversion.toFrame m).header =
      Header.new t.isChannelMsg BASE t.id (t.conversion.codec.write m).length := by
  rw [t.conversion_eq]
  rfl

@[simp] theorem toFrame_payload (t : MessageType) (m : t.Carrier) :
    (t.conversion.toFrame m).payload = t.conversion.codec.write m := by
  rw [t.conversion_eq]
  rfl

end MessageType

/-- Every value of every catalog type comes back from its frame through the
    same type's `TryFrom<Frame>`, and the frame's header names the base
    extension, the type's `#[id]`, the flag of its macro line and the exact
    length of the serialized payload. -/
theorem conversion_roundtrip (t : MessageType) (m : t.Carrier) :
    t.conversion.tryFrom (t.conversion.toFrame m) = some m ∧
    (t.conversion.toFrame m).header.extensionId = BASE ∧
    (t.conversion.toFrame m).header.msgType = t.id ∧
    (t.conversion.toFrame m).header.isChannelMessage = t.isChannelMsg ∧
    (t.conversion.toFrame m).header.msgLength = (t.conversion.codec.write m).length := by
  refine ⟨MessageConversion.tryFrom_toFrame _ m, ?_⟩
  simp

/-- A frame that a catalog type's `TryFrom<Frame>` accepts carries exactly
    the serialization of the message it returns: no byte trails it, and no
    other byte string decodes to the same message. -/
theorem conversion_tryFrom_sound (t : MessageType) {f : Frame} {m : t.Carrier}
    (h : t.conversion.tryFrom f = some m) : f.payload = t.conversion.codec.write m :=
  t.conversion.codec.fromSlice_sound h

/-- A share submission's frame is accepted by `TryFrom<Frame>` and carries
    exactly its serialization. -/
theorem conversion_tryFrom_sound_share :
    MessageType.submitSharesStandard.conversion.tryFrom
        (MessageType.submitSharesStandard.conversion.toFrame ⟨1, 0, 7, 0, 0, 0x20000000⟩) =
      some ⟨1, 0, 7, 0, 0, 0x20000000⟩ ∧
    (MessageType.submitSharesStandard.conversion.toFrame ⟨1, 0, 7, 0, 0, 0x20000000⟩).payload =
      MessageType.submitSharesStandard.conversion.codec.write ⟨1, 0, 7, 0, 0, 0x20000000⟩ :=
  have h := MessageConversion.tryFrom_toFrame MessageType.submitSharesStandard.conversion
    ⟨1, 0, 7, 0, 0, 0x20000000⟩
  ⟨h, conversion_tryFrom_sound .submitSharesStandard h⟩

/-- The largest payload of a catalog type, evaluated from the bounds its
    codec carries. -/
theorem MessageType.maxLength_le (t : MessageType) : t.conversion.codec.maxLength ≤ 139249 := by
  cases t <;> decide

/-- No catalog frame overflows the 24-bit `msg_length` field: each type's
    payload is within the bound its codec carries, and the largest bound,
    that of a `NewExtendedMiningJob` with a full Merkle path and two full
    coinbase halves, is 139249 bytes. -/
theorem toFrame_msgLength_fits (t : MessageType) (m : t.Carrier) :
    (t.conversion.toFrame m).header.msgLength ≤ t.conversion.codec.maxLength ∧
    t.conversion.codec.maxLength ≤ 139249 :=
  ⟨by simpa using t.conversion.codec.length_le m, t.maxLength_le⟩

end StratumProxy
