import JitSnapshot.Arena

set_option autoImplicit false

/-!
Views of the nodes of an arena: what the code generator reads. A view is an
arena with one of its nodes. Every lookup is checked against the counts that
the node's body records, so a question that has no answer is refused with its
cause.
-/

namespace JitSnapshot

inductive BodyQuery where
  | sourceContext
  | displayName
  | inlinee
  | fieldInlinee
  | typeSpec
  | loopBodyPolicy
  | debugTag
  deriving DecidableEq

def BodyQuery.label : BodyQuery → String
  | .sourceContext => "source_context_id"
  | .displayName => "display_name"
  | .inlinee => "inlinee"
  | .fieldInlinee => "field_inlinee"
  | .typeSpec => "type_spec_info"
  | .loopBodyPolicy => "force_jit_loop_body"
  | .debugTag => "debug_number_set"

inductive ViewError where
  | outOfBounds
  | noBody (query : BodyQuery) (node : NodeId)
  | callSiteOutOfRange (site : CallSite) (node : NodeId) (count : UInt16)
  | cacheOutOfRange (cache : CacheIndex) (node : NodeId) (count : UInt32)
  | globalTypeSpecOutOfRange (index : UInt32) (node : NodeId) (count : UInt32)
  | clonedCacheOutOfRange (cache : CacheIndex) (count : UInt32)
  | noTarget (site : CallSite) (node : NodeId) (body : Address)
  /-- The chain of successors returns to itself. -/
  | endlessChain
  | malformedTag (node : NodeId) (length : Nat)
  deriving DecidableEq

def ViewError.message : ViewError → String
  | .outOfBounds => "index out of bounds"
  | .noBody query node => s!"{query.label} on node {node.text}, which has no body"
  | .callSiteOutOfRange site node count =>
      s!"call site {site.raw} out of range: node {node.text} records {count} profiled call sites"
  | .cacheOutOfRange cache node count =>
      s!"inline cache {cache.raw} out of range: node {node.text} records {count} inline caches"
  | .globalTypeSpecOutOfRange index node count =>
      s!"global type-spec {index} out of range: node {node.text} records {count}"
  | .clonedCacheOutOfRange cache count =>
      s!"inline cache {cache.raw} out of range: runtime records {count} cloned caches"
  | .noTarget site node body =>
      s!"no candidate at call site {site.raw} of node {node.text} has body {body.text}"
  | .endlessChain => "the chain of candidates does not end"
  | .malformedTag node length => s!"malformed debug tag for node {node.text} ({length} bytes)"

def inBounds {α : Type} (access : Option α) : Except ViewError α :=
  match access with
  | some value => .ok value
  | none => .error .outOfBounds

structure View where
  arena : Arena
  /-- Tells the arena from others that the same holder keeps. -/
  home : Nat
  id : NodeId
  record : NodeRecord
  found : arena.node? id = some record

namespace View

def ofNode (arena : Arena) (home : Nat) (id : NodeId) : Except ViewError View :=
  match found : arena.node? id with
  | some record => .ok { arena, home, id, record, found }
  | none => .error .outOfBounds

def move (view : View) (id : NodeId) : Except ViewError View :=
  ofNode view.arena view.home id

def moveTo? (view : View) : Option NodeId → Except ViewError (Option View)
  | none => .ok none
  | some id => do return some (← view.move id)

def same (left right : View) : Bool :=
  left.home == right.home && left.id == right.id

/-! ### Identity and flags -/

def functionInfo (view : View) : Address :=
  view.record.functionInfo

def weakRef (view : View) : Address :=
  view.record.weakRef

def localFunction (view : View) : LocalFunctionId :=
  view.record.localFunction

def isAggressiveInliningEnabled (view : View) : Bool :=
  view.record.flags.contains Flags.aggressiveInlining

def isInlined (view : View) : Bool :=
  view.record.flags.contains Flags.inlined

def inlineeBits (view : View) : Address :=
  view.record.inlineeBits

def callCounter (view : View) : Address :=
  view.record.callCounter

/-! ### The body -/

def hasBody (view : View) : Bool :=
  view.record.body.isSome

def body? (view : View) : Except ViewError (Option BodyRecord) :=
  match view.record.body with
  | none => .ok none
  | some id => do return some (← inBounds (view.arena.body? id))

def bodyFor (view : View) (query : BodyQuery) : Except ViewError BodyRecord := do
  match ← view.body? with
  | some body => return body
  | none => throw (.noBody query view.id)

def sourceContext (view : View) : Except ViewError SourceContextId := do
  return (← view.bodyFor .sourceContext).sourceContext

def displayName (view : View) : Except ViewError String := do
  return (← view.bodyFor .displayName).displayName

def profile? (view : View) : Except ViewError (Option ProfileRecord) := do
  match ← view.body? with
  | none => return none
  | some body =>
      match body.profile with
      | none => return none
      | some id => return some (← inBounds (view.arena.profile? id))

/-! ### Candidates -/

def inlineeCount (view : View) : UInt32 :=
  view.record.inlinees.len

def hasFieldInlinees (view : View) : Bool :=
  !view.record.fieldInlinees.isEmpty

def slotView? (view : View) (range : SlotRange) (index : Nat) :
    Except ViewError (Option View) := do
  let slots ← inBounds (view.arena.slots? range)
  let slot ← inBounds slots[index]?
  view.moveTo? slot

def inlinee? (view : View) (site : CallSite) : Except ViewError (Option View) := do
  let body ← view.bodyFor .inlinee
  if site.raw < body.callSiteCount then view.slotView? view.record.inlinees site.index
  else throw (.callSiteOutOfRange site view.id body.callSiteCount)

def fieldInlinee? (view : View) (cache : CacheIndex) : Except ViewError (Option View) := do
  let body ← view.bodyFor .fieldInlinee
  if cache.raw < body.cacheCount then view.slotView? view.record.fieldInlinees cache.index
  else throw (.cacheOutOfRange cache view.id body.cacheCount)

def next? (view : View) : Except ViewError (Option View) :=
  view.moveTo? view.record.next

def isPolymorphic (view : View) (site : CallSite) : Except ViewError Bool := do
  match ← view.inlinee? site with
  | none => return false
  | some first => return first.record.next.isSome

/-! ### Type specializations -/

/-- The type specialization of an inline cache. A node without a list of them has none for any
index. -/
def typeSpec? (view : View) (cache : CacheIndex) :
    Except ViewError (Option TypeSpecRecord) := do
  if view.record.typeSpecs.isEmpty then return none
  let body ← view.bodyFor .typeSpec
  if cache.raw < body.cacheCount then
    let typeSpecs ← inBounds (view.arena.typeSpecs? view.record.typeSpecs)
    inBounds typeSpecs[cache.index]?
  else throw (.cacheOutOfRange cache view.id body.cacheCount)

def globalTypeSpecCount (view : View) : UInt32 :=
  view.record.globalTypeSpecs.len

def globalTypeSpec? (view : View) (index : UInt32) :
    Except ViewError (Option TypeSpecRecord) := do
  if index < view.globalTypeSpecCount then
    let typeSpecs ← inBounds (view.arena.typeSpecs? view.record.globalTypeSpecs)
    inBounds typeSpecs[index.toNat]?
  else throw (.globalTypeSpecOutOfRange index view.id view.globalTypeSpecCount)

/-! ### Shared property guards -/

def hasSharedGuards (view : View) : Bool :=
  !view.record.sharedGuards.isEmpty

def sharedGuards (view : View) : Except ViewError (List PropertyId) :=
  inBounds (view.arena.guards? view.record.sharedGuards)

def hasSharedGuard (view : View) (id : PropertyId) : Except ViewError Bool := do
  return (← view.sharedGuards).contains id

end View

end JitSnapshot
