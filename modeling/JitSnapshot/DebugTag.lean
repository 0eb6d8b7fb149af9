import JitSnapshot.View.Basic

set_option autoImplicit false

/-!
Debug tags: a short text that tells a function apart in log lines, for instance
` (#3.12), #7`. It is written piece by piece into a buffer of fixed size; a
piece that does not fit is refused as a whole.
-/

namespace JitSnapshot

abbrev TagBuffer := Vector UInt8 42

structure TagWriter where
  buffer : TagBuffer
  written : Nat := 0

namespace TagWriter

/-- The buffer with bytes put in from a position on; what would lie outside is dropped. -/
def splice (buffer : TagBuffer) (position : Nat) (bytes : List UInt8) : TagBuffer :=
  Vector.ofFn fun index =>
    if position ≤ index.val then bytes.getD (index.val - position) buffer[index]
    else buffer[index]

def write? (writer : TagWriter) (piece : String) : Option TagWriter :=
  let bytes := piece.toUTF8.data.toList
  if writer.written + bytes.length ≤ 42 then
    some
      { buffer := splice writer.buffer writer.written bytes
        written := writer.written + bytes.length }
  else none

def writeAll (writer : TagWriter) : List String → Bool × TagWriter
  | [] => (true, writer)
  | piece :: rest =>
      match writer.write? piece with
      | some writer => writer.writeAll rest
      | none => (false, writer)

end TagWriter

def minTagLength : Nat := 8

/-- A source context id as tags show it: as a signed number of 32 bits. -/
def SourceContextId.signed (id : SourceContextId) : Int :=
  id.raw.toInt32.toInt

def tagPieces (source : SourceContextId) (localFunction : LocalFunctionId)
    (number : FunctionNumber) : List String :=
  [" (#", toString source.signed, ".", toString localFunction.raw.toNat, "), #",
    toString number.raw.toNat]

/-- Writes the node's tag to the front of a buffer. The tag is read back from
there; the rest of the buffer is left as it is. -/
def View.debugTag (view : View) (buffer : TagBuffer) :
    Except ViewError (String × TagBuffer) := do
  let body ← view.bodyFor .debugTag
  let start : TagWriter := { buffer }
  let (complete, writer) :=
    start.writeAll (tagPieces body.sourceContext view.localFunction body.functionNumber)
  if complete && minTagLength < writer.written then
    match String.fromUTF8? ⟨writer.buffer.toArray.extract 0 writer.written⟩ with
    | some tag => return (tag, writer.buffer)
    | none => throw (.malformedTag view.id writer.written)
  else throw (.malformedTag view.id writer.written)

end JitSnapshot
