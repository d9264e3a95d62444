import Mathlib

/-!
# Wire Codecs

The byte format Stratum V2 payloads are written in, and the structure every
wire type of the message catalog is built from.

The serializer behind `serialization::to_writer` and `from_slice` is not among
the sources, and neither is `v2::types`, which declares `Str0_255`,
`Bytes0_64k`, `Seq0_255` and the rest. Both are modelled from the
specification: fields are written in declaration order, integers and length
prefixes are little-endian, a boolean is one byte, an `f32` is its IEEE-754
bit pattern, and a length-bounded string or sequence carries an exact prefix
of one or two bytes.

A `Codec` bundles a writer and a reader with the two facts that make the
format a code. `read_write` says the reader recovers a written value whatever
bytes follow it, which is what lets codecs be laid side by side.
`read_sound` says the reader accepts nothing but written values, so a payload
it decodes has exactly one meaning. Both are proved once per combinator, and a
message codec assembled from combinators has them without a proof of its own.

Little-endian integers are read and written over `Nat` digits in base 256,
not over bit vectors: `leValue_leBytes` and `leBytes_leValue` are inductions
on the width, and the fixed-width integer codecs are those two lemmas read
through `toNat`.

## Main definitions

* `Parser`: Reading a value off the front of a byte list.
* `Codec`: A writer and a reader that invert each other.
* `leBytes`, `leValue`: Little-endian digits of a number, and back.
* `Codec.prod`, `Codec.map`: Codecs side by side, and through a bijection.
* `u8`, `u16`, `u32`, `bool`, `F32`: Fixed-width scalars.
* `Uint256Bytes`: Thirty-two raw bytes.
* `Sized`: A length-prefixed byte string below a bound, the shape of
  `Str0_32`, `Str0_255`, `Bytes0_32` and `Bytes0_64k`.
* `Seq0_255`: A count-prefixed sequence of at most 255 values.
* `DeviceInfo`: The four strings describing a mining device.

## Theorems

* `leValue_leBytes`: Reading back little-endian digits.
* `leBytes_leValue`: Every byte list is the digits of its value.
* `Codec.read_write_nil`: A written value read with nothing after it.
* `Codec.fromSlice_write`: Deserializing a serialized value gives it back.
* `Codec.fromSlice_sound`: A deserialized byte list is a serialization.
-/

namespace StratumProxy

/-- Reading a value off the front of a byte list: the value and the bytes left
    after it, or nothing if the bytes do not start with one. -/
def Parser (α : Type) : Type := List UInt8 → Option (α × List UInt8)

namespace Parser

variable {α β : Type}

/-- Succeed with a value, consuming nothing. -/
protected def pure (a : α) : Parser α := fun bytes => some (a, bytes)

/-- Read with one parser, then with the parser its result selects. -/
protected def bind (p : Parser α) (f : α → Parser β) : Parser β := fun bytes =>
  match p bytes with
  | none => none
  | some (a, rest) => f a rest

instance : Monad Parser where
  pure := Parser.pure
  bind := Parser.bind

/-- Fail on every input. -/
def fail : Parser α := fun _ => none

/-- The next `n` bytes as they stand. -/
def take (n : Nat) : Parser {bs : List UInt8 // bs.length = n} := fun bytes =>
  if h : n ≤ bytes.length then some (⟨bytes.take n, by simp [h]⟩, bytes.drop n) else none

@[simp] theorem pure_apply (a : α) (bytes : List UInt8) :
    (pure a : Parser α) bytes = some (a, bytes) := rfl

/-- A parser that only returns a value consumed nothing. -/
theorem pure_eq_some {a b : α} {bytes rest : List UInt8}
    (h : (pure a : Parser α) bytes = some (b, rest)) : a = b ∧ bytes = rest :=
  Prod.mk.inj (Option.some.inj h)

@[simp] theorem fail_apply (bytes : List UInt8) : (fail : Parser α) bytes = none := rfl

theorem bind_of_eq_some {p : Parser α} {bytes rest : List UInt8} {a : α}
    (h : p bytes = some (a, rest)) (f : α → Parser β) : (p >>= f) bytes = f a rest := by
  show Parser.bind p f bytes = _
  simp only [Parser.bind, h]

/-- A bind succeeds only by both halves succeeding, the second on what the
    first left. This is the one inversion the soundness proofs peel with. -/
theorem bind_eq_some {p : Parser α} {f : α → Parser β} {bytes rest : List UInt8} {b : β}
    (h : (p >>= f) bytes = some (b, rest)) :
    ∃ a mid, p bytes = some (a, mid) ∧ f a mid = some (b, rest) := by
  change Parser.bind p f bytes = _ at h
  simp only [Parser.bind] at h
  split at h
  · cases h
  · exact ⟨_, _, ‹_›, h⟩

theorem take_append {n : Nat} (bs rest : List UInt8) (h : bs.length = n) :
    take n (bs ++ rest) = some (⟨bs, h⟩, rest) := by
  subst h
  simp [take]

theorem take_sound {n : Nat} {bytes rest : List UInt8} {bs : {bs : List UInt8 // bs.length = n}}
    (h : take n bytes = some (bs, rest)) : bytes = bs.1 ++ rest := by
  simp only [take] at h
  split at h
  · cases h
    exact (List.take_append_drop n bytes).symm
  · cases h

end Parser

/-- A wire type: how a value is written, how it is read back, the two facts
    that make the pair a code, and a bound on how long a written value is. -/
structure Codec (α : Type) where
  write : α → List UInt8
  read : Parser α
  read_write : ∀ a rest, read (write a ++ rest) = some (a, rest)
  read_sound : ∀ {bytes a rest}, read bytes = some (a, rest) → bytes = write a ++ rest
  maxLength : Nat
  length_le : ∀ a, (write a).length ≤ maxLength

namespace Codec

variable {α β : Type}

attribute [simp] read_write

theorem read_write_nil (c : Codec α) (a : α) : c.read (c.write a) = some (a, []) := by
  simpa using c.read_write a []

@[simp] theorem read_bind (c : Codec α) (a : α) (rest : List UInt8) (f : α → Parser β) :
    (c.read >>= f) (c.write a ++ rest) = f a rest :=
  Parser.bind_of_eq_some (c.read_write a rest) f

/-- Two codecs side by side: the first value's bytes, then the second's. -/
def prod (c : Codec α) (d : Codec β) : Codec (α × β) where
  write p := c.write p.1 ++ d.write p.2
  read := do
    let a ← c.read
    let b ← d.read
    pure (a, b)
  read_write p rest := by simp [List.append_assoc]
  read_sound h := by
    obtain ⟨a, mid, ha, h⟩ := Parser.bind_eq_some h
    obtain ⟨b, mid', hb, h⟩ := Parser.bind_eq_some h
    obtain ⟨rfl, rfl⟩ := Parser.pure_eq_some h
    rw [c.read_sound ha, d.read_sound hb, List.append_assoc]
  maxLength := c.maxLength + d.maxLength
  length_le p := by
    rw [List.length_append]
    exact Nat.add_le_add (c.length_le p.1) (d.length_le p.2)

/-- A codec carried through a bijection: how a record is written as the tuple
    of its fields. -/
def map (c : Codec α) (f : α → β) (g : β → α)
    (hgf : ∀ a, g (f a) = a) (hfg : ∀ b, f (g b) = b) : Codec β where
  write b := c.write (g b)
  read := do
    let a ← c.read
    pure (f a)
  read_write b rest := by simp [hfg]
  read_sound h := by
    obtain ⟨a, mid, ha, h⟩ := Parser.bind_eq_some h
    obtain ⟨rfl, rfl⟩ := Parser.pure_eq_some h
    show _ = c.write (g (f a)) ++ mid
    rw [c.read_sound ha, hgf]
  maxLength := c.maxLength
  length_le b := c.length_le (g b)

/-- `serialization::from_slice`: read a whole payload, leaving no byte over. -/
def fromSlice (c : Codec α) (bytes : List UInt8) : Option α :=
  match c.read bytes with
  | some (a, []) => some a
  | _ => none

/-- Deserializing a serialized value gives it back. -/
@[simp] theorem fromSlice_write (c : Codec α) (a : α) : c.fromSlice (c.write a) = some a := by
  simp [fromSlice, read_write_nil]

/-- A byte list deserializes only if it is the serialization of what it
    deserializes to; in particular no trailing byte is accepted. -/
theorem fromSlice_sound (c : Codec α) {bytes : List UInt8} {a : α}
    (h : c.fromSlice bytes = some a) : bytes = c.write a := by
  simp only [fromSlice] at h
  split at h
  · rename_i heq
    cases h
    simpa using c.read_sound heq
  · cases h

end Codec

/-! ## Little-endian integers -/

/-- The `width` low base-256 digits of `n`, least significant first. -/
def leBytes : Nat → Nat → List UInt8
  | 0, _ => []
  | width + 1, n => UInt8.ofNat (n % 256) :: leBytes width (n / 256)

/-- The number whose base-256 digits, least significant first, are the bytes. -/
def leValue : List UInt8 → Nat
  | [] => 0
  | b :: bs => b.toNat + 256 * leValue bs

@[simp] theorem length_leBytes (width n : Nat) : (leBytes width n).length = width := by
  induction width generalizing n with
  | zero => rfl
  | succ width ih => simp [leBytes, ih]

theorem leValue_lt (bs : List UInt8) : leValue bs < 256 ^ bs.length := by
  induction bs with
  | nil => simp [leValue]
  | cons b bs ih =>
    have hb : b.toNat < 256 := b.toNat_lt_size
    simp only [leValue, List.length_cons, Nat.pow_succ]
    omega

/-- Reading back little-endian digits gives the number modulo the width. -/
theorem leValue_leBytes (width n : Nat) : leValue (leBytes width n) = n % 256 ^ width := by
  induction width generalizing n with
  | zero => simp [leBytes, leValue, Nat.mod_one]
  | succ width ih =>
    have hdigit : (UInt8.ofNat (n % 256)).toNat = n % 256 :=
      UInt8.toNat_ofNat_of_lt (Nat.mod_lt _ (by decide))
    rw [leBytes, leValue, hdigit, ih, Nat.pow_succ, Nat.mul_comm _ 256, Nat.mod_mul]

/-- Every byte list is the digits of its own value. -/
theorem leBytes_leValue (bs : List UInt8) : leBytes bs.length (leValue bs) = bs := by
  induction bs with
  | nil => rfl
  | cons b bs ih =>
    have hb : b.toNat < 256 := b.toNat_lt_size
    have hlow : (b.toNat + 256 * leValue bs) % 256 = b.toNat := by omega
    have hhigh : (b.toNat + 256 * leValue bs) / 256 = leValue bs := by omega
    simp only [List.length_cons, leBytes, leValue, hlow, hhigh, ih]
    exact congrArg (· :: bs) (UInt8.toNat.inj (UInt8.toNat_ofNat_of_lt hb))

theorem leBytes_leValue_of_length {bs : List UInt8} {width : Nat} (h : bs.length = width) :
    leBytes width (leValue bs) = bs :=
  h ▸ leBytes_leValue bs

/-- A little-endian integer of `width` bytes, as a number below `256 ^ width`. -/
def leNat (width : Nat) : Codec {n : Nat // n < 256 ^ width} where
  write n := leBytes width n.1
  read := do
    let bs ← Parser.take width
    pure ⟨leValue bs.1, lt_of_lt_of_eq (leValue_lt bs.1) (by rw [bs.2])⟩
  read_write n rest := by
    rw [Parser.bind_of_eq_some (Parser.take_append _ rest (length_leBytes width n.1))]
    simp [leValue_leBytes, Nat.mod_eq_of_lt n.2]
  read_sound h := by
    obtain ⟨bs, mid, hbs, h⟩ := Parser.bind_eq_some h
    obtain ⟨rfl, rfl⟩ := Parser.pure_eq_some h
    rw [Parser.take_sound hbs]
    conv_lhs => rw [← leBytes_leValue bs.1, bs.2]
  maxLength := width
  length_le n := Nat.le_of_eq (length_leBytes width n.1)

/-- `u8`, one byte. -/
def u8 : Codec UInt8 :=
  (leNat 1).map (fun n => UInt8.ofNat n.1) (fun x => ⟨x.toNat, x.toNat_lt_size⟩)
    (fun n => Subtype.ext (UInt8.toNat_ofNat_of_lt n.2))
    (fun x => UInt8.toNat.inj (UInt8.toNat_ofNat_of_lt x.toNat_lt_size))

/-- `u16`, two bytes, least significant first. -/
def u16 : Codec UInt16 :=
  (leNat 2).map (fun n => UInt16.ofNat n.1) (fun x => ⟨x.toNat, x.toNat_lt_size⟩)
    (fun n => Subtype.ext (UInt16.toNat_ofNat_of_lt n.2))
    (fun x => UInt16.toNat.inj (UInt16.toNat_ofNat_of_lt x.toNat_lt_size))

/-- `u32`, four bytes, least significant first. -/
def u32 : Codec UInt32 :=
  (leNat 4).map (fun n => UInt32.ofNat n.1) (fun x => ⟨x.toNat, x.toNat_lt_size⟩)
    (fun n => Subtype.ext (UInt32.toNat_ofNat_of_lt n.2))
    (fun x => UInt32.toNat.inj (UInt32.toNat_ofNat_of_lt x.toNat_lt_size))

/-- `bool`, one byte: `0` for false, `1` for true, and no other byte accepted. -/
def bool : Codec Bool where
  write b := u8.write (if b then 1 else 0)
  read := do
    let x ← u8.read
    if x = 0 then pure false else if x = 1 then pure true else Parser.fail
  read_write b rest := by cases b <;> simp
  read_sound h := by
    obtain ⟨x, mid, hx, h⟩ := Parser.bind_eq_some h
    rw [u8.read_sound hx]
    split_ifs at h with h0 h1
    · obtain ⟨rfl, rfl⟩ := Parser.pure_eq_some h
      simp [h0]
    · obtain ⟨rfl, rfl⟩ := Parser.pure_eq_some h
      simp [h1]
    · cases h
  maxLength := u8.maxLength
  length_le b := u8.length_le _

/-- An `f32`, kept as its IEEE-754 bit pattern: two values are the same
    exactly when their bits are. -/
structure F32 where
  bits : UInt32
deriving DecidableEq, Repr

/-- An `f32` is written as the four little-endian bytes of its bits. -/
def F32.codec : Codec F32 := u32.map F32.mk F32.bits (fun _ => rfl) (fun _ => rfl)

/-- Modelled from the spec: `Uint256Bytes` (in `v2::types`, not among the
    sources), a 256-bit integer kept as its thirty-two little-endian bytes. -/
structure Uint256Bytes where
  bytes : List UInt8
  length_eq : bytes.length = 32
deriving DecidableEq

def Uint256Bytes.codec : Codec Uint256Bytes where
  write u := u.bytes
  read := do
    let bs ← Parser.take 32
    pure ⟨bs.1, bs.2⟩
  read_write u rest := by
    rw [Parser.bind_of_eq_some (Parser.take_append _ rest u.length_eq)]
    rfl
  read_sound h := by
    obtain ⟨bs, mid, hbs, h⟩ := Parser.bind_eq_some h
    obtain ⟨rfl, rfl⟩ := Parser.pure_eq_some h
    exact Parser.take_sound hbs
  maxLength := 32
  length_le u := Nat.le_of_eq u.length_eq

/-! ## Length-bounded strings and sequences -/

/-- Modelled from the spec: the length-bounded byte strings of `v2::types`
    (`Str0_N`, `Bytes0_N`), which are not among the sources. At most `bound`
    bytes, each satisfying `ok`. -/
structure Sized (bound : Nat) (ok : List UInt8 → Prop) where
  bytes : List UInt8
  valid : ok bytes
  length_le : bytes.length ≤ bound
deriving DecidableEq

/-- A `Sized` string behind an exact little-endian length prefix `width` bytes
    wide. The reader refuses a length over the bound and bytes that are not
    `ok`, so what it returns is a well-formed value. -/
def Sized.codec (width : Nat) {bound : Nat} {ok : List UInt8 → Prop} [DecidablePred ok]
    (hbound : bound < 256 ^ width) : Codec (Sized bound ok) where
  write s := (leNat width).write ⟨s.bytes.length, lt_of_le_of_lt s.length_le hbound⟩ ++ s.bytes
  read := do
    let n ← (leNat width).read
    let bs ← Parser.take n.1
    if h : ok bs.1 ∧ n.1 ≤ bound then pure ⟨bs.1, h.1, Nat.le_trans (Nat.le_of_eq bs.2) h.2⟩ else Parser.fail
  read_write s rest := by
    simp only [List.append_assoc, Codec.read_bind]
    rw [Parser.bind_of_eq_some (Parser.take_append _ rest rfl), dif_pos ⟨s.valid, s.length_le⟩]
    rfl
  read_sound h := by
    obtain ⟨n, mid, hn, h⟩ := Parser.bind_eq_some h
    obtain ⟨bs, mid', hbs, h⟩ := Parser.bind_eq_some h
    split_ifs at h with hok
    · obtain ⟨rfl, rfl⟩ := Parser.pure_eq_some h
      have hlen : n.1 = bs.1.length := bs.2.symm
      show _ = ((leNat width).write ⟨bs.1.length, _⟩ ++ bs.1) ++ mid'
      rw [(leNat width).read_sound hn, Parser.take_sound hbs, List.append_assoc]
      congr 2
      exact Subtype.ext hlen
    · cases h
  maxLength := width + bound
  length_le s := by
    rw [List.length_append]
    exact Nat.add_le_add ((leNat width).length_le _) s.length_le

/-- Modelled from the spec: well-formed UTF-8, which is what a Rust `String`
    holds and what the deserializer checks a string for. -/
def IsUtf8 (bytes : List UInt8) : Prop := String.validateUTF8 ⟨bytes.toArray⟩ = true

instance : DecidablePred IsUtf8 := fun _ => inferInstanceAs (Decidable (_ = true))

/-- `Str0_32`: UTF-8 text of at most 32 bytes behind a one-byte length. -/
abbrev Str0_32 := Sized 32 IsUtf8

/-- `Str0_255`: UTF-8 text of at most 255 bytes behind a one-byte length. -/
abbrev Str0_255 := Sized 255 IsUtf8

/-- `Bytes0_32`: at most 32 opaque bytes behind a one-byte length. -/
abbrev Bytes0_32 := Sized 32 (fun _ => True)

/-- `Bytes0_64k`: at most 65535 opaque bytes behind a two-byte length. -/
abbrev Bytes0_64k := Sized 65535 (fun _ => True)

def Str0_32.codec : Codec Str0_32 := Sized.codec 1 (by decide)

def Str0_255.codec : Codec Str0_255 := Sized.codec 1 (by decide)

def Bytes0_32.codec : Codec Bytes0_32 := Sized.codec 1 (by decide)

def Bytes0_64k.codec : Codec Bytes0_64k := Sized.codec 2 (by decide)

namespace Codec

variable {α : Type}

/-- Values written one after another, with no separator. -/
def writeMany (c : Codec α) : List α → List UInt8
  | [] => []
  | a :: as => c.write a ++ c.writeMany as

/-- Exactly `n` values read one after another. -/
def readMany (c : Codec α) : (n : Nat) → Parser {xs : List α // xs.length = n}
  | 0 => pure ⟨[], rfl⟩
  | n + 1 => do
    let a ← c.read
    let xs ← c.readMany n
    pure ⟨a :: xs.1, by simp [xs.2]⟩

theorem readMany_writeMany (c : Codec α) (xs : List α) (rest : List UInt8) :
    c.readMany xs.length (c.writeMany xs ++ rest) = some (⟨xs, rfl⟩, rest) := by
  induction xs with
  | nil => rfl
  | cons a as ih =>
    simp only [readMany, writeMany, List.append_assoc, read_bind]
    rw [Parser.bind_of_eq_some ih]
    rfl

theorem length_writeMany_le (c : Codec α) (xs : List α) :
    (c.writeMany xs).length ≤ xs.length * c.maxLength := by
  induction xs with
  | nil => simp [writeMany]
  | cons a as ih =>
    simp only [writeMany, List.length_append, List.length_cons, Nat.succ_mul]
    have := c.length_le a
    omega

theorem readMany_sound (c : Codec α) {n : Nat} {bytes rest : List UInt8}
    {xs : {xs : List α // xs.length = n}} (h : c.readMany n bytes = some (xs, rest)) :
    bytes = c.writeMany xs.1 ++ rest := by
  induction n generalizing bytes with
  | zero =>
    obtain ⟨rfl, rfl⟩ := Parser.pure_eq_some h
    rfl
  | succ n ih =>
    obtain ⟨a, mid, ha, h⟩ := Parser.bind_eq_some h
    obtain ⟨ys, mid', hys, h⟩ := Parser.bind_eq_some h
    obtain ⟨rfl, rfl⟩ := Parser.pure_eq_some h
    rw [c.read_sound ha, ih hys]
    simp [writeMany]

end Codec

/-- Modelled from the spec: `Seq0_255<T>` (in `v2::types`, not among the
    sources), at most 255 values behind a one-byte count. -/
structure Seq0_255 (α : Type) where
  items : List α
  length_le : items.length ≤ 255
deriving DecidableEq

/-- The count, then the values in order. -/
def Seq0_255.codec {α : Type} (c : Codec α) : Codec (Seq0_255 α) where
  write s := (leNat 1).write ⟨s.items.length, Nat.lt_succ_of_le s.length_le⟩ ++ c.writeMany s.items
  read := do
    let n ← (leNat 1).read
    let xs ← c.readMany n.1
    pure ⟨xs.1, Nat.le_trans (Nat.le_of_eq xs.2) (Nat.le_of_lt_succ n.2)⟩
  read_write s rest := by
    simp only [List.append_assoc, Codec.read_bind]
    rw [Parser.bind_of_eq_some (c.readMany_writeMany s.items rest)]
    rfl
  read_sound h := by
    obtain ⟨n, mid, hn, h⟩ := Parser.bind_eq_some h
    obtain ⟨xs, mid', hxs, h⟩ := Parser.bind_eq_some h
    obtain ⟨rfl, rfl⟩ := Parser.pure_eq_some h
    have hlen : n.1 = xs.1.length := xs.2.symm
    show _ = ((leNat 1).write ⟨xs.1.length, _⟩ ++ c.writeMany xs.1) ++ mid'
    rw [(leNat 1).read_sound hn, c.readMany_sound hxs, List.append_assoc]
    congr 2
    exact Subtype.ext hlen
  maxLength := 1 + 255 * c.maxLength
  length_le s := by
    rw [List.length_append]
    exact Nat.add_le_add ((leNat 1).length_le _)
      ((c.length_writeMany_le s.items).trans (Nat.mul_le_mul_right _ s.length_le))

/-- Modelled from the spec: `DeviceInfo` (in `v2::types`, not among the
    sources), the four strings a mining device reports about itself. -/
structure DeviceInfo where
  vendor : Str0_255
  hardwareVersion : Str0_255
  firmwareVersion : Str0_255
  deviceId : Str0_255
deriving DecidableEq

def DeviceInfo.codec : Codec DeviceInfo :=
  (Str0_255.codec.prod (Str0_255.codec.prod (Str0_255.codec.prod Str0_255.codec))).map
    (fun p => ⟨p.1, p.2.1, p.2.2.1, p.2.2.2⟩)
    (fun d => (d.vendor, d.hardwareVersion, d.firmwareVersion, d.deviceId))
    (fun _ => rfl) (fun _ => rfl)

end StratumProxy
