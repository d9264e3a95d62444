import StratumProxy.Wire.Messages

/-!
# The V2 Framing Codec

How frames travel as bytes: the six-byte header, the decoder that cuts one
frame off the front of a buffer, and the stream adapter that runs it frame
after frame for a read half of the session.

The codec behind `v2::Framing` is not among the sources, so it is modelled
from the specification. The header is `extension_type` as a little-endian
`u16`, `msg_type`, and `msg_length` as a little-endian `u24`, and the payload
follows. The decoder peeks at six bytes and asks for more if there are fewer;
it refuses a declared length over the configured cap before waiting for any
payload; it asks for more until the whole payload is there; and it returns
the frame with the number of bytes it took. It keeps no state, so what a
stream of frames decodes to is fixed by the bytes alone.

A frame `Fits` a cap when its header counts its payload exactly and the
payload is within the cap. On such frames decoding inverts encoding whatever
follows (`decode_encode`), and every strict prefix of an encoding asks for
more (`decode_prefix`); conversely the decoder accepts nothing but encodings
of fitting frames (`decode_sound`). The stream adapter therefore hands the
session loop exactly the frames the peer wrote, in order, none lost or
duplicated, with the bytes of an unfinished frame kept for later
(`decodeStream_encodeAll`).

For the catalog, the whole path from a message to bytes and back holds for
every message (`catalog_bytes_roundtrip`). The `msg_type` of a catalog frame
picks out its type in the dispatch table, because the ids of the catalog are
pairwise distinct (`MessageType.ofId_eq_some_iff`).

## Main definitions

* `Header.toBytes`, `Header.ofBytes`: The header's six bytes, and the header
  read off a buffer.
* `Frame.encode`: A frame's bytes.
* `Frame.Fits`: A frame the decoder can return.
* `decode`: The framing decoder.
* `decodeStream`: The stream adapter.
* `MessageType.ofId`, `dispatch`: The dispatch table of the base extension.
* `CatalogMessage`: A catalog message tagged with its type.

## Theorems

* `decode_encode`: Decoding an encoded frame gives it back.
* `decode_prefix`: A frame not yet complete asks for more.
* `decode_frameTooLarge`: A header over the cap is refused at once.
* `decode_sound`: The decoder accepts only encodings of fitting frames.
* `decodeStream_encodeAll`: A stream of frames decodes to those frames.
* `catalog_bytes_roundtrip`: Every catalog message survives the wire.
* `MessageType.ofId_eq_some_iff`: A `msg_type` names the catalog type with
  that id.
-/

namespace StratumProxy

namespace Header

/-- Modelled from the spec: the header is six bytes long. -/
def SIZE : Nat := 6

/-- Modelled from the spec: the header's bytes, `extension_type` as two
    little-endian bytes, `msg_type`, then `msg_length` as three. -/
def toBytes (h : Header) : List UInt8 :=
  leBytes 2 h.extensionType.toNat ++ [h.msgType] ++ leBytes 3 h.msgLength

/-- Modelled from the spec: the header the first six bytes of a buffer
    spell. -/
def ofBytes (bytes : List UInt8) : Header where
  extensionType := UInt16.ofNat (leValue (bytes.take 2))
  msgType := bytes.getD 2 0
  msgLength := leValue ((bytes.drop 3).take 3)

@[simp] theorem length_toBytes (h : Header) : h.toBytes.length = SIZE := by
  simp [toBytes, SIZE]

/-- A header whose length fits the 24-bit field is read back from its bytes,
    whatever follows them. -/
theorem ofBytes_toBytes (h : Header) (hlen : h.msgLength < 256 ^ 3) (rest : List UInt8) :
    ofBytes (h.toBytes ++ rest) = h := by
  have hext : UInt16.ofNat h.extensionType.toNat = h.extensionType :=
    UInt16.toNat.inj (UInt16.toNat_ofNat_of_lt h.extensionType.toNat_lt_size)
  -- `simp` evaluates `256 ^ 3`, so the bound is stated as the number.
  have hmod : h.msgLength % 16777216 = h.msgLength := Nat.mod_eq_of_lt hlen
  simp [ofBytes, toBytes, List.take_append_eq_append_take, List.drop_append_eq_append_drop,
    List.drop_eq_nil_of_le, List.getElem_append_right, leValue_leBytes,
    Nat.mod_eq_of_lt h.extensionType.toNat_lt_size, hext, hmod]

/-- The bytes of the header a buffer spells are the buffer's first six, and
    its length fits the 24-bit field. -/
theorem toBytes_ofBytes (bytes : List UInt8) (hlen : SIZE ≤ bytes.length) :
    (ofBytes bytes).toBytes = bytes.take SIZE ∧ (ofBytes bytes).msgLength < 256 ^ 3 := by
  have h2 : (bytes.take 2).length = 2 := by simp [SIZE] at hlen ⊢; omega
  have h3 : ((bytes.drop 3).take 3).length = 3 := by simp [SIZE] at hlen ⊢; omega
  have hext : (UInt16.ofNat (leValue (bytes.take 2))).toNat = leValue (bytes.take 2) :=
    UInt16.toNat_ofNat_of_lt (lt_of_lt_of_eq (leValue_lt _) (by rw [h2]; rfl))
  refine ⟨?_, lt_of_lt_of_eq (leValue_lt _) (by rw [h3])⟩
  simp only [toBytes, ofBytes, hext, leBytes_leValue_of_length h2, leBytes_leValue_of_length h3]
  rcases bytes with _ | ⟨b0, _ | ⟨b1, _ | ⟨b2, tl⟩⟩⟩ <;> simp [SIZE] at hlen ⊢

end Header

/-- Modelled from the spec: a frame on the wire, its header then its
    payload. -/
def Frame.encode (f : Frame) : List UInt8 := f.header.toBytes ++ f.payload

/-- A frame the decoder can return under a cap: its header counts its payload
    exactly, and the payload is within the cap. -/
def Frame.Fits (cap : Nat) (f : Frame) : Prop :=
  f.header.msgLength = f.payload.length ∧ f.payload.length ≤ cap

instance (cap : Nat) (f : Frame) : Decidable (f.Fits cap) :=
  inferInstanceAs (Decidable (_ ∧ _))

/-- Modelled from the spec: what the decoder makes of a buffer. -/
inductive Decoded
  /-- A frame, and the number of bytes it took off the buffer. -/
  | frame (f : Frame) (consumed : Nat)
  /-- The buffer does not hold a whole frame yet. -/
  | needMore
  /-- The header declares a payload over the cap. -/
  | frameTooLarge
deriving DecidableEq, Repr

/-- Modelled from the spec: the default cap on `msg_length`, 16 MiB less the
    header. -/
def maxFrameSize : Nat := 16 * 1024 * 1024 - Header.SIZE

/-- Modelled from the spec: the framing decoder. It peeks at the header,
    refuses a declared length over `cap`, waits for the whole payload, and
    takes exactly the header and the payload off the buffer. -/
def decode (cap : Nat) (bytes : List UInt8) : Decoded :=
  if bytes.length < Header.SIZE then .needMore
  else
    let header := Header.ofBytes bytes
    if cap < header.msgLength then .frameTooLarge
    else if bytes.length < Header.SIZE + header.msgLength then .needMore
    else .frame ⟨header, (bytes.drop Header.SIZE).take header.msgLength⟩
      (Header.SIZE + header.msgLength)

/-- A `ChannelEndpointChanged` frame: six header bytes and a four-byte
    payload. -/
def endpointChangedFrame : Frame :=
  MessageType.channelEndpointChanged.conversion.toFrame (⟨5⟩ : ChannelEndpointChanged)

@[simp] theorem Frame.length_encode (f : Frame) :
    f.encode.length = Header.SIZE + f.payload.length := by
  simp [encode]

section Decode

variable {cap : Nat}

/-- The header of a fitting frame is read back from any buffer that starts
    with the frame's header. -/
theorem Frame.Fits.ofBytes {f : Frame} (hf : f.Fits cap) (hcap : cap < 256 ^ 3)
    (rest : List UInt8) : Header.ofBytes (f.header.toBytes ++ rest) = f.header :=
  Header.ofBytes_toBytes _ (by rw [hf.1]; exact Nat.lt_of_le_of_lt hf.2 hcap) rest

/-- Decoding an encoded frame that fits gives it back and takes exactly its
    bytes, whatever follows. -/
theorem decode_encode {f : Frame} (hf : f.Fits cap) (hcap : cap < 256 ^ 3) (rest : List UInt8) :
    decode cap (f.encode ++ rest) = .frame f f.encode.length := by
  have hhead : Header.ofBytes (f.encode ++ rest) = f.header := by
    rw [Frame.encode, List.append_assoc]
    exact hf.ofBytes hcap _
  have hle := hf.2
  simp only [decode, hhead, hf.1, Frame.length_encode, List.length_append]
  simp [Frame.encode, Header.SIZE, List.drop_append_eq_append_drop, hle, Nat.not_lt.2 hle]
  omega

/-- Every strict prefix of a fitting frame's encoding asks for more: the
    decoder neither returns a frame early nor refuses one it could finish. -/
theorem decode_prefix {f : Frame} (hf : f.Fits cap) (hcap : cap < 256 ^ 3) {p : List UInt8}
    (hp : p <+: f.encode) (hne : p ≠ f.encode) : decode cap p = .needMore := by
  have hshort : p.length < f.encode.length :=
    Nat.lt_of_le_of_ne hp.length_le (fun h => hne (hp.eq_of_length h))
  by_cases h6 : p.length < Header.SIZE
  · simp [decode, h6]
  · -- The prefix holds the whole header, so it spells the frame's header.
    have hsplit : p = f.header.toBytes ++ f.payload.take (p.length - Header.SIZE) := by
      conv_lhs => rw [List.prefix_iff_eq_take.1 hp]
      simp [Frame.encode, List.take_append_eq_append_take, List.take_of_length_le, Nat.le_of_not_lt h6]
    have hhead : Header.ofBytes p = f.header := by rw [hsplit]; exact hf.ofBytes hcap _
    simp only [Frame.length_encode] at hshort
    simp [decode, h6, hhead, hf.1, Nat.not_lt.2 hf.2, hshort]

/-- The header and the first payload byte of a frame ask for more. -/
theorem decode_prefix_endpoint_changed :
    endpointChangedFrame.Fits maxFrameSize ∧ maxFrameSize < 256 ^ 3 ∧
    endpointChangedFrame.encode.take 7 <+: endpointChangedFrame.encode ∧
    endpointChangedFrame.encode.take 7 ≠ endpointChangedFrame.encode ∧
    decode maxFrameSize (endpointChangedFrame.encode.take 7) = .needMore :=
  have hf : endpointChangedFrame.Fits maxFrameSize := by decide
  have hcap : maxFrameSize < 256 ^ 3 := by decide
  have hne : endpointChangedFrame.encode.take 7 ≠ endpointChangedFrame.encode := by decide
  ⟨hf, hcap, List.take_prefix _ _, hne, decode_prefix hf hcap (List.take_prefix _ _) hne⟩

/-- The decoder accepts nothing but encodings of fitting frames: a frame it
    returns is what the buffer starts with, it takes exactly that frame's
    bytes, and the frame fits the cap. -/
theorem decode_sound {bytes : List UInt8} {f : Frame} {n : Nat}
    (h : decode cap bytes = .frame f n) :
    bytes = f.encode ++ bytes.drop n ∧ n = f.encode.length ∧ f.Fits cap := by
  simp only [decode] at h
  split_ifs at h with h6 hbig hmore
  cases h
  have hlen : Header.SIZE ≤ bytes.length := Nat.le_of_not_lt h6
  have hpay : ((bytes.drop Header.SIZE).take (Header.ofBytes bytes).msgLength).length =
      (Header.ofBytes bytes).msgLength := by simp; omega
  refine ⟨?_, by simp [hpay], hpay.symm, (Nat.le_of_eq hpay).trans (Nat.not_lt.1 hbig)⟩
  rw [Frame.encode, (Header.toBytes_ofBytes bytes hlen).1, ← List.drop_drop, List.append_assoc,
    List.take_append_drop, List.take_append_drop]

/-- The decoder returns the sample frame from its ten bytes, taking all of
    them. -/
theorem decode_sound_endpoint_changed :
    decode maxFrameSize endpointChangedFrame.encode = .frame endpointChangedFrame 10 ∧
    endpointChangedFrame.encode = endpointChangedFrame.encode ++ endpointChangedFrame.encode.drop 10 ∧
    10 = endpointChangedFrame.encode.length ∧ endpointChangedFrame.Fits maxFrameSize :=
  have h : decode maxFrameSize endpointChangedFrame.encode = .frame endpointChangedFrame 10 := by
    decide
  ⟨h, decode_sound h⟩

end Decode

/-- Modelled from the spec: how the frames of a read half stop: waiting for
    the rest of a frame with the bytes that have come, or failed on a frame
    too large. -/
inductive StreamEnd
  | needMore (buffer : List UInt8)
  | frameTooLarge
deriving DecidableEq, Repr

/-- At most `fuel` frames decoded one after another off the front of a
    buffer. -/
def decodeFrames (cap : Nat) : Nat → List UInt8 → List Frame × StreamEnd
  | 0, bytes => ([], .needMore bytes)
  | fuel + 1, bytes =>
    match decode cap bytes with
    | .frame f n =>
      let rest := decodeFrames cap fuel (bytes.drop n)
      (f :: rest.1, rest.2)
    | .needMore => ([], .needMore bytes)
    | .frameTooLarge => ([], .frameTooLarge)

/-- Modelled from the spec: the byte-stream adapter around the codec, which
    decodes frames off the buffer until the codec asks for more or fails.
    Every frame takes at least its six header bytes, so the buffer's length
    bounds how many there are. -/
def decodeStream (cap : Nat) (bytes : List UInt8) : List Frame × StreamEnd :=
  decodeFrames cap bytes.length bytes

theorem length_le_length_flatMap_encode (fs : List Frame) :
    fs.length ≤ (fs.flatMap Frame.encode).length := by
  induction fs with
  | nil => exact Nat.le_refl 0
  | cons f fs ih =>
    simp only [List.flatMap_cons, List.length_append, Frame.length_encode, List.length_cons,
      Header.SIZE]
    omega

/-- With fuel for every frame, the adapter returns the frames of a buffer
    that is their encodings followed by an unfinished frame. -/
theorem decodeFrames_encodeAll {cap : Nat} (hcap : cap < 256 ^ 3) {fs : List Frame}
    (hfs : ∀ f ∈ fs, f.Fits cap) {tail : List UInt8} (htail : decode cap tail = .needMore)
    {fuel : Nat} (hfuel : fs.length ≤ fuel) :
    decodeFrames cap fuel (fs.flatMap Frame.encode ++ tail) = (fs, .needMore tail) := by
  induction fs generalizing fuel with
  | nil => cases fuel <;> simp [decodeFrames, htail]
  | cons f fs ih =>
    obtain ⟨fuel, rfl⟩ : ∃ k, fuel = k + 1 := ⟨fuel - 1, by simp at hfuel; omega⟩
    have hf := hfs f (List.mem_cons_self f fs)
    have hrest := ih (fun g hg => hfs g (List.mem_cons_of_mem f hg)) (by simpa using hfuel)
    simp only [decodeFrames, List.flatMap_cons, List.append_assoc, decode_encode hf hcap,
      List.drop_left, hrest]

/-- A read half whose bytes are the encodings of fitting frames, followed by
    bytes that do not yet make a frame, yields exactly those frames in order,
    each once, and keeps the unfinished bytes. -/
theorem decodeStream_encodeAll {cap : Nat} (hcap : cap < 256 ^ 3) (fs : List Frame)
    (hfs : ∀ f ∈ fs, f.Fits cap) (tail : List UInt8) (htail : decode cap tail = .needMore) :
    decodeStream cap (fs.flatMap Frame.encode ++ tail) = (fs, .needMore tail) :=
  decodeFrames_encodeAll hcap hfs htail
    (Nat.le_trans (length_le_length_flatMap_encode fs) (by simp))

/-- Two frames and two bytes of a third: the two frames, and the two bytes
    kept. -/
theorem decodeStream_two_frames :
    maxFrameSize < 256 ^ 3 ∧ (∀ f ∈ [endpointChangedFrame, endpointChangedFrame],
      f.Fits maxFrameSize) ∧ decode maxFrameSize [0, 0] = .needMore ∧
    decodeStream maxFrameSize ([endpointChangedFrame, endpointChangedFrame].flatMap Frame.encode ++ [0, 0]) =
      ([endpointChangedFrame, endpointChangedFrame], .needMore [0, 0]) :=
  have hcap : maxFrameSize < 256 ^ 3 := by decide
  have hfs : ∀ f ∈ [endpointChangedFrame, endpointChangedFrame], f.Fits maxFrameSize := by decide
  have htail : decode maxFrameSize [0, 0] = .needMore := by decide
  ⟨hcap, hfs, htail, decodeStream_encodeAll hcap _ hfs _ htail⟩

namespace MessageType

/-- Every catalog type, in declaration order. -/
def all : List MessageType :=
  [setupConnection, setupConnectionSuccess, setupConnectionError, channelEndpointChanged,
    openStandardMiningChannel, openStandardMiningChannelSuccess, openMiningChannelError,
    updateChannel, updateChannelError, closeChannel, submitSharesStandard, submitSharesSuccess,
    submitSharesError, newMiningJob, newExtendedMiningJob, setNewPrevHash, reconnect, setTarget]

theorem mem_all (t : MessageType) : t ∈ all := by
  cases t <;> decide

theorem nodup_ids : (all.map id).Nodup := by
  decide

/-- Modelled from the spec: the dispatch table of the base extension, the
    catalog type a `msg_type` names. -/
def ofId (msgType : UInt8) : Option MessageType :=
  all.find? (·.id == msgType)

/-- A `msg_type` names a catalog type exactly when it is that type's id: the
    ids of `messages.rs` are pairwise distinct, so dispatch is well defined. -/
theorem ofId_eq_some_iff (n : UInt8) (t : MessageType) : ofId n = some t ↔ t.id = n := by
  constructor
  · intro h
    simpa using List.find?_some h
  · intro h
    cases hfind : ofId n with
    | none =>
      exact absurd (List.find?_eq_none.1 hfind t (mem_all t)) (by simp [h])
    | some t' =>
      have ht' : t'.id = n := by simpa using List.find?_some hfind
      exact congrArg some (List.inj_on_of_nodup_map nodup_ids (mem_all t') (mem_all t) (ht'.trans h.symm))

end MessageType

/-- A message of the catalog, tagged with its type: the closed union the
    codec dispatches over. -/
structure CatalogMessage where
  kind : MessageType
  msg : kind.Carrier

/-- The frame a catalog message is sent in, built by its type's conversion. -/
def CatalogMessage.toFrame (m : CatalogMessage) : Frame := m.kind.conversion.toFrame m.msg

/-- Modelled from the spec: the decoder's dispatch on the extension, with
    the channel-message bit masked off, and the message type. -/
def dispatch (h : Header) : Option MessageType :=
  if h.extensionId = BASE then MessageType.ofId h.msgType else none

/-- Every catalog frame fits the default cap. -/
theorem toFrame_fits (t : MessageType) (m : t.Carrier) :
    (t.conversion.toFrame m).Fits maxFrameSize := by
  refine ⟨by simp, ?_⟩
  have := Nat.le_trans (t.conversion.codec.length_le m) t.maxLength_le
  simp only [MessageType.toFrame_payload]
  exact Nat.le_trans this (by decide)

/-- Every catalog message survives the wire: its frame is six bytes longer
    than its payload, the decoder with the default cap returns that frame
    and takes exactly its bytes whatever follows, dispatch finds the type,
    masking off the channel bit, and the type's `TryFrom<Frame>` returns the
    message. -/
theorem catalog_bytes_roundtrip (t : MessageType) (m : t.Carrier) (rest : List UInt8) :
    (t.conversion.toFrame m).encode.length = Header.SIZE + (t.conversion.codec.write m).length ∧
    decode maxFrameSize ((t.conversion.toFrame m).encode ++ rest) =
      .frame (t.conversion.toFrame m) (t.conversion.toFrame m).encode.length ∧
    dispatch (t.conversion.toFrame m).header = some t ∧
    t.conversion.tryFrom (t.conversion.toFrame m) = some m := by
  refine ⟨by simp, decode_encode (toFrame_fits t m) (by decide) rest, ?_,
    MessageConversion.tryFrom_toFrame _ m⟩
  simp [dispatch, MessageType.ofId_eq_some_iff]

end StratumProxy
