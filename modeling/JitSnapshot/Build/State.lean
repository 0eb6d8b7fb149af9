import JitSnapshot.Arena
import JitSnapshot.Source.Reads

set_option autoImplicit false

/-!
What changes while snapshots are built: the arena, the builder's statistics,
the record of what has been materialized, and the requests for runtime
contexts.
-/

namespace JitSnapshot

structure BuildStats where
  nodes : Nat := 0
  bodies : Nat := 0
  profiles : Nat := 0
  guards : Nat := 0
  typeSpecs : Nat := 0
  deriving DecidableEq, Inhabited

structure Materialized where
  profiles : Nat := 0
  /-- The length of every list of type specializations, in the order of the requests. -/
  typeSpecBatches : Array Nat := #[]
  deriving DecidableEq, Inhabited

inductive BuildError where
  | overflow (cause : Overflow)
  /-- A function with a body is to be built as an inlinee and has no runtime context. -/
  | inlineeWithoutRuntime
  | typeSpecsTooShort (length expected : Nat)
  | outOfBounds
  deriving DecidableEq

def BuildError.message : BuildError → String
  | .overflow cause => cause.message
  | .inlineeWithoutRuntime => "inlinee snapshot requested without runtime data"
  | .typeSpecsTooShort length expected =>
      s!"type-spec source list has {length} entries, expected at least {expected}"
  | .outOfBounds => "index out of bounds"

structure BuildState where
  arena : Arena
  stats : BuildStats := {}
  materialized : Materialized := {}
  /-- The requests for runtime contexts, the last one first. -/
  reads : List Read := []

def BodyRecord.profileWords (body : BodyRecord) : List UInt64 :=
  [body.address.raw, body.callSiteCount.toUInt64, body.cacheCount.toUInt64]

def TypeSpecRecord.ofSource (address : Address) : TypeSpecRecord :=
  { words := [address.raw] }

namespace BuildState

def start (arena : Arena) : BuildState :=
  { arena }

/-- Goes on with an arena into which something has been put, unless that was an overflow. -/
def put {α : Type} (state : BuildState) (pushed : Except Overflow (α × Arena)) :
    Except BuildError (α × BuildState) :=
  match pushed with
  | .error overflow => .error (.overflow overflow)
  | .ok (value, arena) => .ok (value, { state with arena })

def allocNode (state : BuildState) : Except BuildError (NodeId × BuildState) :=
  { state with stats.nodes := state.stats.nodes + 1 }.put state.arena.allocNode

def setNode (state : BuildState) (id : NodeId) (record : NodeRecord) :
    Except BuildError BuildState :=
  match state.arena.setNode? id record with
  | some arena => .ok { state with arena }
  | none => .error .outOfBounds

def pushBody (state : BuildState) (record : BodyRecord) :
    Except BuildError (BodyId × BuildState) :=
  { state with stats.bodies := state.stats.bodies + 1 }.put (state.arena.pushBody record)

def pushRuntime (state : BuildState) (record : RuntimeRecord) :
    Except BuildError (RuntimeId × BuildState) :=
  state.put (state.arena.pushRuntime record)

def pushProfile (state : BuildState) (body : BodyRecord) :
    Except BuildError (ProfileId × BuildState) :=
  { state with
    stats.profiles := state.stats.profiles + 1
    materialized.profiles := state.materialized.profiles + 1 }.put
      (state.arena.pushProfile { words := body.profileWords })

def pushSlots (state : BuildState) (slots : List Slot) :
    Except BuildError (SlotRange × BuildState) :=
  state.put (state.arena.pushSlots slots)

def pushAddresses (state : BuildState) (addresses : List Address) :
    Except BuildError (AddressRange × BuildState) :=
  state.put (state.arena.pushAddresses addresses)

def pushGuards (state : BuildState) (guards : GuardSet) :
    Except BuildError (GuardRange × BuildState) :=
  let members := guards.drain
  { state with stats.guards := state.stats.guards + members.length }.put
    (state.arena.pushGuards members)

def pushTypeSpecs (state : BuildState) (sources : List (Option Address)) (count : Nat) :
    Except BuildError (TypeSpecRange × BuildState) :=
  if sources.length < count then .error (.typeSpecsTooShort sources.length count)
  else
    let typeSpecs := (sources.take count).map fun source => source.map TypeSpecRecord.ofSource
    { state with
      stats.typeSpecs := state.stats.typeSpecs + typeSpecs.countP Option.isSome
      materialized.typeSpecBatches := state.materialized.typeSpecBatches.push count }.put
        (state.arena.pushTypeSpecs typeSpecs)

def noteRead (state : BuildState) (read : Read) : BuildState :=
  { state with reads := read :: state.reads }

end BuildState

end JitSnapshot
