set_option autoImplicit false

/-!
Where bytes stop being UTF-8. The scan reads one byte at a time and keeps what
the sequence under way still asks for; it reports the first sequence that is
broken off by a wrong byte or by the end.
-/

namespace JitSnapshot.Utf8

inductive Fault where
  | invalid (index length : Nat)
  | incomplete (index : Nat)
  deriving DecidableEq

def Fault.message : Fault → String
  | .invalid index length => s!"invalid utf-8 sequence of {length} bytes from index {index}"
  | .incomplete index => s!"incomplete utf-8 byte sequence from index {index}"

/-- What a sequence under way still asks for: `owed` bytes, the next of them
between `low` and `high`. -/
structure Demand where
  owed : Nat
  low : UInt8
  high : UInt8

/-- The demand a first byte makes, unless no sequence starts with it. The
narrowed ranges leave out overlong forms, surrogates and values past the last
code point. -/
def demand? (first : UInt8) : Option Demand :=
  if first < 0x80 then some ⟨0, 0x80, 0xBF⟩
  else if first < 0xC2 then none
  else if first < 0xE0 then some ⟨1, 0x80, 0xBF⟩
  else if first = 0xE0 then some ⟨2, 0xA0, 0xBF⟩
  else if first = 0xED then some ⟨2, 0x80, 0x9F⟩
  else if first < 0xF0 then some ⟨2, 0x80, 0xBF⟩
  else if first = 0xF0 then some ⟨3, 0x90, 0xBF⟩
  else if first < 0xF4 then some ⟨3, 0x80, 0xBF⟩
  else if first = 0xF4 then some ⟨3, 0x80, 0x8F⟩
  else none

/-- The first fault of the bytes that follow a sequence under way. The sequence
began at `index`, `held` bytes of it were read, and it makes `demand`. Bytes
that end between two sequences are reported as an incomplete one there. -/
def faultAfter (index held : Nat) (demand : Demand) : List UInt8 → Fault
  | [] => .incomplete index
  | byte :: rest =>
      if demand.owed = 0 then
        match demand? byte with
        | none => .invalid (index + held) 1
        | some next => faultAfter (index + held) 1 next rest
      else if demand.low ≤ byte ∧ byte ≤ demand.high then
        faultAfter index (held + 1) ⟨demand.owed - 1, 0x80, 0xBF⟩ rest
      else .invalid index held

def fault (bytes : List UInt8) : Fault :=
  faultAfter 0 0 ⟨0, 0x80, 0xBF⟩ bytes

def decode (bytes : List UInt8) : Except Fault String :=
  match String.fromUTF8? ⟨bytes.toArray⟩ with
  | some text => .ok text
  | none => .error (fault bytes)

def encode (text : String) : List UInt8 :=
  text.toUTF8.data.toList

end JitSnapshot.Utf8
