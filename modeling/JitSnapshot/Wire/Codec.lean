import JitSnapshot.Text.Utf8

set_option autoImplicit false

/-!
Codecs of the wire format. A codec writes a value as bytes and reads one value
off the front of the input; a pair is its parts one after the other, so one
description of a record serves both directions.

Words are little-endian and of fixed width. A list is its length as an eight-byte
word and then its entries. An optional value is a tag byte, zero or one, and
then the value if there is one. A text is the length of its UTF-8 bytes and
then the bytes.
-/

namespace JitSnapshot.Wire

inductive ReadFault where
  | endOfInput
  | badTag (tag : UInt8)
  | badText (fault : Utf8.Fault)
  deriving DecidableEq

def ReadFault.message : ReadFault → String
  | .endOfInput => "unexpected end of input"
  | .badTag tag => s!"tag for enum is not valid, found {tag}"
  | .badText fault => s!"string is not valid utf8: {fault.message}"

def takeBytes? (count : Nat) (bytes : List UInt8) : Option (List UInt8 × List UInt8) :=
  let front := bytes.take count
  if front.length < count then none else some (front, bytes.drop count)

def wordBytes : (width value : Nat) → List UInt8
  | 0, _ => []
  | width + 1, value => UInt8.ofNat value :: wordBytes width (value / 256)

def wordValue : List UInt8 → Nat
  | [] => 0
  | byte :: rest => byte.toNat + 256 * wordValue rest

/-- A writer and the reader of what it writes. -/
structure Codec (α : Type) where
  write : α → List UInt8
  read : List UInt8 → Except ReadFault (α × List UInt8)

namespace Codec

variable {α β : Type}

def bytes (count : Nat) : Codec (List UInt8) where
  write value := value
  read input :=
    match takeBytes? count input with
    | none => .error .endOfInput
    | some split => .ok split

def iso (codec : Codec α) (pack : α → β) (unpack : β → α) : Codec β where
  write value := codec.write (unpack value)
  read input := do
    let (value, rest) ← codec.read input
    return (pack value, rest)

def pair (left : Codec α) (right : Codec β) : Codec (α × β) where
  write value := left.write value.1 ++ right.write value.2
  read input := do
    let (first, rest) ← left.read input
    let (second, rest) ← right.read rest
    return ((first, second), rest)

def word (width : Nat) : Codec Nat :=
  (bytes width).iso wordValue (wordBytes width)

def uint8 : Codec UInt8 := (word 1).iso UInt8.ofNat UInt8.toNat

def uint16 : Codec UInt16 := (word 2).iso UInt16.ofNat UInt16.toNat

def uint32 : Codec UInt32 := (word 4).iso UInt32.ofNat UInt32.toNat

def uint64 : Codec UInt64 := (word 8).iso UInt64.ofNat UInt64.toNat

def option (codec : Codec α) : Codec (Option α) where
  write
    | none => [0]
    | some value => 1 :: codec.write value
  read
    | [] => .error .endOfInput
    | tag :: input =>
        if tag = 0 then .ok (none, input)
        else if tag = 1 then do
          let (value, rest) ← codec.read input
          return (some value, rest)
        else .error (.badTag tag)

/-- Reads `count` entries behind those already read. The count is believed
until the input ends. -/
def readMany (codec : Codec α) :
    Nat → Array α → List UInt8 → Except ReadFault (Array α × List UInt8)
  | 0, entries, input => .ok (entries, input)
  | count + 1, entries, input =>
      match codec.read input with
      | .error fault => .error fault
      | .ok (entry, rest) => codec.readMany count (entries.push entry) rest

def array (codec : Codec α) : Codec (Array α) where
  write entries := (word 8).write entries.size ++ entries.toList.flatMap codec.write
  read input := do
    let (count, rest) ← (word 8).read input
    codec.readMany count #[] rest

def list (codec : Codec α) : Codec (List α) :=
  codec.array.iso Array.toList List.toArray

/-- A text. Its bytes are judged only once all of them are there. -/
def text : Codec String where
  write value :=
    let encoded := Utf8.encode value
    (word 8).write encoded.length ++ encoded
  read input := do
    let (length, rest) ← (word 8).read input
    let (encoded, rest) ← (bytes length).read rest
    match Utf8.decode encoded with
    | .ok value => return (value, rest)
    | .error fault => throw (.badText fault)

end Codec

end JitSnapshot.Wire
