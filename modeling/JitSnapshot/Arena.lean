import JitSnapshot.Record

set_option autoImplicit false

/-!
The arena of a snapshot: four lists of records, named by ids, and four flat
lists, cut by ranges. Every operation but `setNode?` only appends, so what was
read under an id or a range before can still be read after. What cannot be
named because there is too much of it is not appended, and is an overflow.
-/

namespace JitSnapshot

structure Arena where
  nodes : Array NodeRecord := #[]
  bodies : Array BodyRecord := #[]
  runtimes : Array RuntimeRecord := #[]
  profiles : Array ProfileRecord := #[]
  slots : Array Slot := #[]
  addresses : Array Address := #[]
  guards : Array PropertyId := #[]
  typeSpecs : Array (Option TypeSpecRecord) := #[]
  deriving DecidableEq, Inhabited

namespace Arena

def empty : Arena := {}

def size (arena : Arena) : Nat :=
  arena.nodes.size

def isEmpty (arena : Arena) : Bool :=
  arena.nodes.isEmpty

/-! ### Nodes -/

def allocNode (arena : Arena) : Except Overflow (NodeId × Arena) := do
  let id ← Id.behind .nodes arena.nodes.size
  return (id, { arena with nodes := arena.nodes.push {} })

/-- Replaces the record of a node; there must be such a node. -/
def setNode? (arena : Arena) (id : NodeId) (record : NodeRecord) : Option Arena :=
  if within : id.index < arena.nodes.size then
    some { arena with nodes := arena.nodes.set id.index record within }
  else none

def node? (arena : Arena) (id : NodeId) : Option NodeRecord :=
  arena.nodes[id.index]?

/-! ### Side records -/

def pushBody (arena : Arena) (body : BodyRecord) : Except Overflow (BodyId × Arena) := do
  let id ← Id.behind .bodies arena.bodies.size
  return (id, { arena with bodies := arena.bodies.push body })

def body? (arena : Arena) (id : BodyId) : Option BodyRecord :=
  arena.bodies[id.index]?

def pushRuntime (arena : Arena) (runtime : RuntimeRecord) :
    Except Overflow (RuntimeId × Arena) := do
  let id ← Id.behind .runtimes arena.runtimes.size
  return (id, { arena with runtimes := arena.runtimes.push runtime })

def runtime? (arena : Arena) (id : RuntimeId) : Option RuntimeRecord :=
  arena.runtimes[id.index]?

def pushProfile (arena : Arena) (profile : ProfileRecord) :
    Except Overflow (ProfileId × Arena) := do
  let id ← Id.behind .profiles arena.profiles.size
  return (id, { arena with profiles := arena.profiles.push profile })

def profile? (arena : Arena) (id : ProfileId) : Option ProfileRecord :=
  arena.profiles[id.index]?

/-! ### Flat lists -/

def pushSlots (arena : Arena) (slots : List Slot) : Except Overflow (SlotRange × Arena) := do
  let range ← ListRange.behind arena.slots.size slots.length
  return (range, { arena with slots := arena.slots.appendList slots })

def slots? (arena : Arena) (range : SlotRange) : Option (List Slot) :=
  range.read? arena.slots

def pushAddresses (arena : Arena) (addresses : List Address) :
    Except Overflow (AddressRange × Arena) := do
  let range ← ListRange.behind arena.addresses.size addresses.length
  return (range, { arena with addresses := arena.addresses.appendList addresses })

def addresses? (arena : Arena) (range : AddressRange) : Option (List Address) :=
  range.read? arena.addresses

def pushGuards (arena : Arena) (guards : List PropertyId) :
    Except Overflow (GuardRange × Arena) := do
  let range ← ListRange.behind arena.guards.size guards.length
  return (range, { arena with guards := arena.guards.appendList guards })

def guards? (arena : Arena) (range : GuardRange) : Option (List PropertyId) :=
  range.read? arena.guards

def pushTypeSpecs (arena : Arena) (typeSpecs : List (Option TypeSpecRecord)) :
    Except Overflow (TypeSpecRange × Arena) := do
  let range ← ListRange.behind arena.typeSpecs.size typeSpecs.length
  return (range, { arena with typeSpecs := arena.typeSpecs.appendList typeSpecs })

def typeSpecs? (arena : Arena) (range : TypeSpecRange) :
    Option (List (Option TypeSpecRecord)) :=
  range.read? arena.typeSpecs

end Arena

end JitSnapshot
