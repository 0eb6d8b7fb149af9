import JitSnapshot.Flags
import JitSnapshot.Name

set_option autoImplicit false

/-!
The records of a snapshot. A node record describes one captured function
instance: the root, an inlinee of a call site or of a field access, or a
polymorphic successor. Records name one another only by id and range, so a
snapshot can be moved or sent as one value.
-/

namespace JitSnapshot

/-- One captured function instance. A function without a body keeps only the
addresses, the local function id and the flags. -/
structure NodeRecord where
  functionInfo : Address := .null
  weakRef : Address := .null
  inlineeBits : Address := .null
  callCounter : Address := .null
  body : Option BodyId := none
  runtime : Option RuntimeId := none
  sharedGuards : GuardRange := .empty
  inlinees : SlotRange := .empty
  fieldInlinees : SlotRange := .empty
  typeSpecs : TypeSpecRange := .empty
  globalTypeSpecs : TypeSpecRange := .empty
  next : Option NodeId := none
  localFunction : LocalFunctionId := ⟨0⟩
  flags : NodeFlags := .empty
  deriving DecidableEq, Inhabited

/-- What is known of a function's body. The two counts say how many slots a
node with this body has for call sites and for inline caches. -/
structure BodyRecord where
  address : Address := .null
  sourceContext : SourceContextId := ⟨0⟩
  functionNumber : FunctionNumber := ⟨0⟩
  callSiteCount : UInt16 := 0
  cacheCount : UInt32 := 0
  flags : BodyFlags := .empty
  displayName : String := ""
  profile : Option ProfileId := none
  deriving DecidableEq, Inhabited

namespace BodyRecord

def isGenerator (body : BodyRecord) : Bool :=
  body.flags.contains .generator

def hasTry (body : BodyRecord) : Bool :=
  body.flags.contains .hasTry

end BodyRecord

structure RuntimeRecord where
  clonedCaches : AddressRange := .empty
  deriving DecidableEq, Inhabited

structure ProfileRecord where
  words : List UInt64 := []
  deriving DecidableEq, Inhabited

structure TypeSpecRecord where
  words : List UInt64 := []
  deriving DecidableEq, Inhabited

abbrev Slot := Option NodeId

end JitSnapshot
