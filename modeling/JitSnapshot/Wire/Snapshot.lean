import JitSnapshot.Shape.Walk
import JitSnapshot.Wire.Record

set_option autoImplicit false

/-!
A snapshot as bytes: a header, the id of the root, the arena. The header names
the format and the layout of a node record, and is judged before anything
behind it is read, so a peer of another make is refused and not misread. What
has been read is validated from its root.
-/

namespace JitSnapshot

structure Snapshot where
  root : NodeId
  arena : Arena
  deriving DecidableEq

namespace Wire

structure Header where
  magic : List UInt8
  version : UInt16
  /-- The size of a node record in the memory of the peer that wrote the header. -/
  layout : UInt32
  deriving DecidableEq

/-- The header of every snapshot written here: the letters `OJTS`, version 1, records of 104
bytes. -/
def Header.current : Header :=
  { magic := [79, 74, 84, 83], version := 1, layout := 104 }

def header : Codec Header :=
  ((Codec.bytes 4).pair (Codec.uint16.pair Codec.uint32)).iso
    (fun (magic, version, layout) => { magic, version, layout })
    (fun header => (header.magic, header.version, header.layout))

def snapshot : Codec Snapshot :=
  ((ident .node).pair arena).iso (fun (root, arena) => { root, arena })
    (fun snapshot => (snapshot.root, snapshot.arena))

end Wire

inductive DecodeError where
  | unreadable (fault : Wire.ReadFault)
  | badMagic (found : List UInt8)
  | unsupportedVersion (found : UInt16)
  | layoutMismatch (found : UInt32)
  | malformed (fault : WalkFault)
  deriving DecidableEq

def bytesText (bytes : List UInt8) : String :=
  "[" ++ ", ".intercalate (bytes.map fun byte => toString byte.toNat) ++ "]"

def DecodeError.message : DecodeError → String
  | .unreadable fault => s!"failed to decode snapshot: {fault.message}"
  | .badMagic found => s!"not an encoded snapshot (magic {bytesText found})"
  | .unsupportedVersion found =>
      s!"snapshot format version {found} is not supported (expected {Wire.Header.current.version})"
  | .layoutMismatch found =>
      s!"snapshot record layout is {found} bytes, this build expects {Wire.Header.current.layout}"
  | .malformed (.shape error) => s!"decoded snapshot is malformed: {error.message}"
  | .malformed .outOfBounds => "index out of bounds"

namespace Wire.Header

/-- A header other than the current one is refused for the first field that differs. -/
def check (header : Header) : Except DecodeError Unit :=
  if header.magic ≠ current.magic then .error (.badMagic header.magic)
  else if header.version ≠ current.version then .error (.unsupportedVersion header.version)
  else if header.layout ≠ current.layout then .error (.layoutMismatch header.layout)
  else .ok ()

end Wire.Header

namespace Snapshot

/-- The bytes of a snapshot. It is not validated first. -/
def encode (snapshot : Snapshot) : List UInt8 :=
  Wire.header.write Wire.Header.current ++ Wire.snapshot.write snapshot

def decode (bytes : List UInt8) : Except DecodeError Snapshot :=
  match Wire.header.read bytes with
  | .error fault => .error (.unreadable fault)
  | .ok (header, payload) =>
      match header.check with
      | .error error => .error error
      | .ok () =>
          match Wire.snapshot.read payload with
          | .error fault => .error (.unreadable fault)
          | .ok (snapshot, _) =>
              match snapshot.arena.validate snapshot.root with
              | .error fault => .error (.malformed fault)
              | .ok _ => .ok snapshot

end Snapshot

end JitSnapshot
