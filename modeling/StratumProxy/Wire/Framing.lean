import StratumProxy.Wire.Codec

/-!
# V2 Frames

The frame a V2 message travels in, as far as the message conversions and the
session loop look at it.

`framing.rs` and `extensions.rs` are not among the sources, so the header is
modelled from the specification. Its `extension_type` is the 16-bit field of
the wire: the extension id in the low fifteen bits and the channel-message
flag in the high bit. That placement is what the session loop's dispatcher
has to agree with, and `Session.Loop` shows it does not.

`Frame.fromSerializablePayload` is the constructor `impl_message_conversion!`
calls: the payload is serialized first and the header's `msg_length` is its
exact byte count.

## Main definitions

* `BASE`: The base extension.
* `Header`: The six-byte frame header.
* `Header.new`: A header with the channel flag folded into `extension_type`.
* `Header.isChannelMessage`, `Header.extensionId`: The two halves of
  `extension_type`.
* `Frame`: A header and its payload.
* `Frame.fromSerializablePayload`: The frame of a serialized payload.

## Theorems

* `Header.new_base_extensionType`: A base header's extension field is the
  channel bit alone.
* `Header.new_base_extensionId`: A base header names the base extension.
* `Header.new_base_isChannelMessage`: A base header carries the flag it was
  built with.
-/

namespace StratumProxy

/-- Modelled from the spec: `v2::extensions::BASE` (the extensions module is
    not among the sources), the base protocol's extension id `0x0000`. -/
def BASE : UInt16 := 0x0000

/-- Modelled from the spec: `framing::Header` (not among the sources). The
    `extension_type` field holds the extension id in its low fifteen bits and
    the channel-message flag in its high bit; `msg_length` counts the payload
    bytes and is 24 bits wide on the wire. -/
structure Header where
  extensionType : UInt16
  msgType : UInt8
  msgLength : Nat
deriving DecidableEq, Repr

namespace Header

/-- The high bit of `extension_type`, set exactly on channel messages. -/
def channelMsgBit : UInt16 := 0x8000

/-- The low fifteen bits of `extension_type`, which name the extension. -/
def extensionIdMask : UInt16 := 0x7fff

/-- Modelled from the spec: `Header::new`, which folds the channel-message
    flag into the high bit of `extension_type`. -/
def new (isChannelMessage : Bool) (extensionType : UInt16) (msgType : UInt8)
    (msgLength : Nat) : Header where
  extensionType := if isChannelMessage then extensionType ||| channelMsgBit else extensionType
  msgType := msgType
  msgLength := msgLength

/-- Whether the channel-message bit of `extension_type` is set. -/
def isChannelMessage (h : Header) : Bool := h.extensionType &&& channelMsgBit == channelMsgBit

/-- The extension `extension_type` names, with the channel-message bit masked off. -/
def extensionId (h : Header) : UInt16 := h.extensionType &&& extensionIdMask

@[simp] theorem new_msgType (c : Bool) (e : UInt16) (t : UInt8) (l : Nat) :
    (new c e t l).msgType = t := rfl

@[simp] theorem new_msgLength (c : Bool) (e : UInt16) (t : UInt8) (l : Nat) :
    (new c e t l).msgLength = l := rfl

/-- A base header's extension field is the channel bit alone: `0x8000` for a
    channel message and `0x0000` otherwise. -/
@[simp] theorem new_base_extensionType (c : Bool) (t : UInt8) (l : Nat) :
    (new c BASE t l).extensionType = if c then channelMsgBit else BASE := by
  cases c <;> simp only [new, extensionId, isChannelMessage] <;> decide

@[simp] theorem new_base_extensionId (c : Bool) (t : UInt8) (l : Nat) :
    (new c BASE t l).extensionId = BASE := by
  cases c <;> simp only [new, extensionId, isChannelMessage] <;> decide

@[simp] theorem new_base_isChannelMessage (c : Bool) (t : UInt8) (l : Nat) :
    (new c BASE t l).isChannelMessage = c := by
  cases c <;> simp only [new, extensionId, isChannelMessage] <;> decide

end Header

/-- Modelled from the spec: `framing::Frame` (not among the sources), a header
    and the payload bytes it describes. -/
structure Frame where
  header : Header
  payload : List UInt8
deriving DecidableEq, Repr

/-- Modelled from the spec: `Frame::from_serializable_payload`. The payload is
    serialized first and the header's length is its exact byte count. -/
def Frame.fromSerializablePayload (isChannelMsg : Bool) (extensionType : UInt16)
    (msgType : UInt8) (payload : List UInt8) : Frame :=
  ⟨Header.new isChannelMsg extensionType msgType payload.length, payload⟩

end StratumProxy
