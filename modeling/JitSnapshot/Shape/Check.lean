import JitSnapshot.Arena
import JitSnapshot.Shape.Error

set_option autoImplicit false

/-!
The checks of one node on its own: its ranges end inside their lists, the
records it names exist, and its lists have the lengths its body asks for.
The checks are made in a fixed order and the first that fails is reported.
-/

namespace JitSnapshot.Shape

variable {kind : ListKind}

/-- A range ends inside its list; an empty range, too, may not end behind it. -/
def checkRange (node : NodeId) (list : NodeList) (range : ListRange kind) (size : Nat) :
    Except ShapeError Unit :=
  if size < range.stop then
    .error (.rangeOutOfBounds node list range.start range.stop size)
  else .ok ()

def checkCount (node : NodeId) (list : NodeList) (expected actual : UInt32) :
    Except ShapeError Unit :=
  if expected = actual then .ok ()
  else .error (.countMismatch node list expected actual)

/-- A list that may be left out has the length the body asks for, unless it is empty. -/
def checkOptionalCount (node : NodeId) (list : NodeList) (expected : UInt32)
    (range : ListRange kind) : Except ShapeError Unit :=
  if range.isEmpty then .ok () else checkCount node list expected range.len

def checkRanges (arena : Arena) (id : NodeId) (record : NodeRecord) :
    Except ShapeError Unit := do
  checkRange id .inlinees record.inlinees arena.slots.size
  checkRange id .fieldInlinees record.fieldInlinees arena.slots.size
  checkRange id .sharedGuards record.sharedGuards arena.guards.size
  checkRange id .typeSpecs record.typeSpecs arena.typeSpecs.size
  checkRange id .globalTypeSpecs record.globalTypeSpecs arena.typeSpecs.size

def bodyData? (record : NodeRecord) : Option BodyData :=
  if record.runtime.isSome then some .runtime
  else if !record.inlinees.isEmpty || !record.fieldInlinees.isEmpty then some .slots
  else if !record.sharedGuards.isEmpty then some .sharedGuards
  else if !record.typeSpecs.isEmpty || !record.globalTypeSpecs.isEmpty then some .typeSpecs
  else if record.next.isSome then some .next
  else none

def checkBodyless (id : NodeId) (record : NodeRecord) : Except ShapeError Unit :=
  match bodyData? record with
  | some data => .error (.bodylessData id data)
  | none => .ok ()

def checkProfile (arena : Arena) (id : NodeId) (record : NodeRecord) (body : BodyRecord) :
    Except ShapeError Unit :=
  match body.profile with
  | some profile =>
      if (arena.profile? profile).isNone then
        .error (.danglingRecord id .profile profile.raw)
      else .ok ()
  | none =>
      if record.sharedGuards.isEmpty then .ok ()
      else .error (.guardsWithoutProfile id)

def checkRuntime (arena : Arena) (id : NodeId) (record : NodeRecord) (body : BodyRecord) :
    Except ShapeError Unit :=
  match record.runtime with
  | none => .error (.missingRuntime id)
  | some runtimeId =>
      match arena.runtime? runtimeId with
      | none => .error (.danglingRecord id .runtime runtimeId.raw)
      | some runtime => do
          checkRange id .clonedCaches runtime.clonedCaches arena.addresses.size
          checkOptionalCount id .clonedCaches body.cacheCount runtime.clonedCaches

def checkBody (arena : Arena) (id : NodeId) (record : NodeRecord) (body : BodyRecord) :
    Except ShapeError Unit := do
  checkProfile arena id record body
  checkCount id .inlinees body.callSiteCount.toUInt32 record.inlinees.len
  checkCount id .fieldInlinees body.cacheCount record.fieldInlinees.len
  checkOptionalCount id .typeSpecs body.cacheCount record.typeSpecs
  checkRuntime arena id record body

/-- All checks of one node: ranges first, then what its body or the want of one asks for. -/
def checkNode (arena : Arena) (id : NodeId) (record : NodeRecord) :
    Except ShapeError Unit := do
  checkRanges arena id record
  match record.body with
  | none => checkBodyless id record
  | some bodyId =>
      match arena.body? bodyId with
      | none => .error (.danglingRecord id .body bodyId.raw)
      | some body => checkBody arena id record body

end JitSnapshot.Shape
