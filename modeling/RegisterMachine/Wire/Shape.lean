import RegisterMachine.Wire.Bytes

/-!
# Wire — Shapes

How values are written as bytes.  A shape describes a type of values; for every shape there is one
way to write a value (`Shape.encode`) and one to read it back (`Shape.decode`).

Numbers have a fixed width and stand least significant byte first.  Texts and lists have their
length, as eight bytes, in front; the length of a text counts the bytes of its UTF-8 form.  Pairs
are written one half after the other, and a choice by a tag byte, 0 or 1, in front of the value.

A decoder gives back what it has not read, also when it fails: bytes that were already read stay
read, and a fixed number of bytes is read as a whole or not at all.
-/

namespace RegisterMachine.Wire

/-- The greatest length that a decoder accepts for a text or a list. -/
def maxLength : Nat := 16 * 1024 * 1024

/-- Why bytes are not the bytes of a value. -/
inductive DecodeError where
  | unexpectedEnd
  | invalidValue
  | unknownTag (tag : UInt8)
  | lengthOverflow (length : Nat)
  | trailingBytes (count : Nat)
deriving DecidableEq, Repr

/-- The text of the error. -/
def DecodeError.message : DecodeError → String
  | unexpectedEnd         => "unexpected end of input"
  | invalidValue          => "invalid value"
  | unknownTag tag        => "unknown tag " ++ toString tag.toNat
  | lengthOverflow length => "length " ++ toString length ++ " exceeds limit"
  | trailingBytes count   => toString count ++ " trailing bytes"

/-- Reads a value at the front of a byte string and gives back the rest. -/
abbrev Decoder (α : Type) := List UInt8 → Except DecodeError α × List UInt8

namespace Decoder

/-- Changes the value that is read. -/
def map {α β : Type} (f : α → β) (d : Decoder α) : Decoder β := fun bs =>
  match d bs with
  | (.ok a, rest)    => (.ok (f a), rest)
  | (.error e, rest) => (.error e, rest)

/-- Reads on, in a way that depends on the value just read. -/
def andThen {α β : Type} (d : Decoder α) (next : α → Decoder β) : Decoder β := fun bs =>
  match d bs with
  | (.ok a, rest)    => next a rest
  | (.error e, rest) => (.error e, rest)

/-- Reads nothing and fails. -/
def fail {α : Type} (e : DecodeError) : Decoder α := fun bs => (.error e, bs)

/-- Reads `n` bytes. -/
def bytes (n : Nat) : Decoder (List UInt8) := fun bs =>
  match cut? n bs with
  | some (front, rest) => (.ok front, rest)
  | none               => (.error .unexpectedEnd, bs)

/-- Reads a number of `n` bytes. -/
def number (n : Nat) : Decoder Nat :=
  (bytes n).map ofLittleEndian

/-- Reads a length. -/
def length : Decoder Nat :=
  (number 8).andThen fun n =>
    if n ≤ maxLength then fun bs => (.ok n, bs) else fail (.lengthOverflow n)

/-- Reads a text of `n` bytes. -/
def text (n : Nat) : Decoder String :=
  (bytes n).andThen fun front =>
    match String.fromUTF8? front.toByteArray with
    | some s => fun bs => (.ok s, bs)
    | none   => fail .invalidValue

/-- Reads `n` values one after the other, behind those already read, which are in reverse. -/
def listOnto {α : Type} (d : Decoder α) (read : List α) : Nat → Decoder (List α)
  | 0,     bs => (.ok read.reverse, bs)
  | n + 1, bs =>
    match d bs with
    | (.ok a, rest)    => listOnto d (a :: read) n rest
    | (.error e, rest) => (.error e, rest)

/-- Reads `n` values one after the other. -/
def list {α : Type} (d : Decoder α) (n : Nat) : Decoder (List α) :=
  listOnto d [] n

/-- Reads a value that all bytes belong to. -/
def whole {α : Type} (d : Decoder α) (bs : List UInt8) : Except DecodeError α :=
  match d bs with
  | (.error e, _)  => .error e
  | (.ok a, [])    => .ok a
  | (.ok _, rest)  => .error (.trailingBytes rest.length)

end Decoder

/-- The description of a type of values. -/
inductive Shape where
  /-- A number of one byte. -/
  | byte
  /-- A number of four bytes. -/
  | word
  /-- A number of eight bytes. -/
  | long
  /-- A signed number of eight bytes, in two's complement. -/
  | signed
  /-- A number of things, in eight bytes. -/
  | size
  | text
  /-- Nothing at all. -/
  | unit
  | list (s : Shape)
  | pair (s t : Shape)
  | choice (s t : Shape)
deriving DecidableEq, Repr

namespace Shape

/-- The values of a shape. -/
@[reducible] def Value : Shape → Type
  | byte       => UInt8
  | word       => UInt32
  | long       => UInt64
  | signed     => Int64
  | size       => UInt64
  | text       => String
  | unit       => Unit
  | list s     => List s.Value
  | pair s t   => s.Value × t.Value
  | choice s t => s.Value ⊕ t.Value

/-- The bytes of a value. -/
def encode : (s : Shape) → s.Value → List UInt8
  | byte,       b      => [b]
  | word,       n      => littleEndian 4 n.toNat
  | long,       n      => littleEndian 8 n.toNat
  | signed,     n      => littleEndian 8 n.toUInt64.toNat
  | size,       n      => littleEndian 8 n.toNat
  | text,       x      => littleEndian 8 x.utf8ByteSize ++ x.toByteArray.data.toList
  | unit,       _      => []
  | list s,     xs     => littleEndian 8 xs.length ++ xs.flatMap fun x => encode s x
  | pair s t,   (x, y) => encode s x ++ encode t y
  | choice s _, .inl x => 0 :: encode s x
  | choice _ t, .inr y => 1 :: encode t y

/-- Reads a value. -/
def decode : (s : Shape) → Decoder s.Value
  | byte       => (Decoder.number 1).map UInt8.ofNat
  | word       => (Decoder.number 4).map UInt32.ofNat
  | long       => (Decoder.number 8).map UInt64.ofNat
  | signed     => (Decoder.number 8).map fun n => (UInt64.ofNat n).toInt64
  | size       => (Decoder.number 8).map UInt64.ofNat
  | text       => Decoder.length.andThen Decoder.text
  | unit       => fun bs => (.ok (), bs)
  | list s     => Decoder.length.andThen (Decoder.list (decode s))
  | pair s t   => (decode s).andThen fun x => (decode t).map fun y => (x, y)
  | choice s t =>
    (Decoder.number 1).andThen fun tag =>
      if tag = 0 then (decode s).map .inl
      else if tag = 1 then (decode t).map .inr
      else Decoder.fail (.unknownTag (UInt8.ofNat tag))

/-- Reads a value that all bytes belong to. -/
def ofBytes (s : Shape) (bs : List UInt8) : Except DecodeError s.Value :=
  s.decode.whole bs

end Shape

/-- A type whose values are written in a shape. -/
structure Format (α : Type) where
  shape : Shape
  toValue : α → shape.Value
  ofValue : shape.Value → α
  ofValue_toValue : ∀ a, ofValue (toValue a) = a
  toValue_ofValue : ∀ v, toValue (ofValue v) = v

namespace Format

/-- The bytes of a value. -/
def encode {α : Type} (f : Format α) (a : α) : List UInt8 :=
  f.shape.encode (f.toValue a)

/-- Reads a value. -/
def decode {α : Type} (f : Format α) : Decoder α :=
  f.shape.decode.map f.ofValue

/-- Reads a value that all bytes belong to. -/
def ofBytes {α : Type} (f : Format α) (bs : List UInt8) : Except DecodeError α :=
  f.decode.whole bs

end Format

end RegisterMachine.Wire
