import JitSnapshot.Record
import JitSnapshot.Source.Runtime

set_option autoImplicit false

/-!
Live functions: the tree of inlining decisions that a snapshot is taken of. A
function has a candidate, or none, for each call site and each inline cache,
and may be followed by another candidate for the same site.
-/

namespace JitSnapshot

/-! ### Shared property guards -/

/-- A set of guards, read in the order in which its members were added. While another thread
adds and removes members, the count that a set reports may differ from the members that a reader
then finds. -/
structure GuardSet where
  members : List PropertyId
  /-- The count the set reports, where it is not the number of members. -/
  reported : Option Nat := none

namespace GuardSet

def ofList (members : List PropertyId) : GuardSet :=
  { members }

def insert (guards : GuardSet) (id : PropertyId) : GuardSet :=
  if guards.members.contains id then guards
  else { guards with members := guards.members ++ [id] }

def erase (guards : GuardSet) (id : PropertyId) : GuardSet :=
  { guards with members := guards.members.filter (· ≠ id) }

def reporting (guards : GuardSet) (count : Nat) : GuardSet :=
  { guards with reported := some count }

def countHint (guards : GuardSet) : Nat :=
  guards.reported.getD guards.members.length

/-- The members, in order. The reported count only sizes the buffer, and an allocation of that
size is taken to succeed. -/
def drain (guards : GuardSet) : List PropertyId :=
  (guards.members.foldl Array.push (Array.emptyWithCapacity guards.countHint)).toList

end GuardSet

/-! ### Functions -/

structure EntryPoint where
  callCounter : Address := .null
  guards : Option GuardSet := none

structure SourceBody where
  record : BodyRecord
  hasProfile : Bool := false
  entryPoint : EntryPoint := {}
  inlineeRuntimes : List (Option RuntimeContext) := []
  fieldRuntimes : List (Option RuntimeContext) := []
  nextRuntime : Option RuntimeContext := none
  label : Nat := 0

def SourceBody.runtime? (body : SourceBody) : Step → Option RuntimeContext
  | .inlinee site => body.inlineeRuntimes[site]?.join
  | .fieldInlinee cache => body.fieldRuntimes[cache]?.join
  | .next => body.nextRuntime

structure FunctionFacts where
  functionInfo : Address := .null
  weakRef : Address := .null
  inlineeBits : Address := .null
  localFunction : LocalFunctionId := ⟨0⟩
  aggressiveInlining : Bool := false
  inlined : Bool := false
  body : Option SourceBody := none
  typeSpecs : Option (List (Option Address)) := none
  globalTypeSpecs : List (Option Address) := []

structure SourceFunction where
  facts : FunctionFacts
  inlinees : List (Option SourceFunction) := []
  fieldInlinees : List (Option SourceFunction) := []
  next : Option SourceFunction := none

inductive SourceError where
  | addressOverflow
  | emptyChain
  | noBody
  | noSlot
  deriving DecidableEq

def SourceError.message : SourceError → String
  | .addressOverflow => "attempt to add with overflow"
  | .emptyChain => "a polymorphic chain needs at least one candidate"
  | .noBody => "mock function has no body"
  | .noSlot => "index out of bounds"

def Address.above? (address : Address) (distance : Nat) : Except SourceError Address :=
  if address.raw.toNat + distance < UInt64.size then
    .ok ⟨UInt64.ofNat (address.raw.toNat + distance)⟩
  else .error .addressOverflow

namespace SourceFunction

/-! ### Functions by identity

A function's identity is the address of its information; its weak reference
stands right behind, and its body far behind. -/

def bodyDistance : Nat := 0x100000

def bodyless (identity : Address) : Except SourceError SourceFunction := do
  let weakRef ← identity.above? 8
  return { facts := { functionInfo := identity, weakRef } }

def bodyRecord (address : Address) (callSites : UInt16) (caches : UInt32) : BodyRecord :=
  { address
    sourceContext := ⟨1⟩
    functionNumber := ⟨1⟩
    callSiteCount := callSites
    cacheCount := caches
    displayName := "fn_" ++ Numeral.lowerHex address.raw.toNat }

def withBody (identity : Address) (callSites : UInt16) (caches : UInt32) :
    Except SourceError SourceFunction := do
  let address ← identity.above? bodyDistance
  let function ← bodyless identity
  return { function with
    facts := { function.facts with
      body := some { record := bodyRecord address callSites caches } }
    inlinees := List.replicate callSites.toNat none
    fieldInlinees := List.replicate caches.toNat none }

/-! ### Putting functions together -/

def withInlinee (function : SourceFunction) (site : Nat) (candidate : SourceFunction) :
    Except SourceError SourceFunction :=
  if site < function.inlinees.length then
    .ok { function with inlinees := function.inlinees.set site (some candidate) }
  else .error .noSlot

def withFieldInlinee (function : SourceFunction) (cache : Nat) (candidate : SourceFunction) :
    Except SourceError SourceFunction :=
  if cache < function.fieldInlinees.length then
    .ok { function with fieldInlinees := function.fieldInlinees.set cache (some candidate) }
  else .error .noSlot

def withNext (function : SourceFunction) (next : SourceFunction) : SourceFunction :=
  { function with next := some next }

def editBody (function : SourceFunction) (edit : SourceBody → SourceBody) :
    Except SourceError SourceFunction :=
  match function.facts.body with
  | some body => .ok { function with facts := { function.facts with body := some (edit body) } }
  | none => .error .noBody

def chain (candidates : List SourceFunction) : Except SourceError SourceFunction :=
  match candidates.reverse with
  | [] => .error .emptyChain
  | last :: before => .ok (before.foldl (fun next function => function.withNext next) last)

def child? (function : SourceFunction) : Step → Option SourceFunction
  | .inlinee site => function.inlinees[site]?.join
  | .fieldInlinee cache => function.fieldInlinees[cache]?.join
  | .next => function.next

end SourceFunction

end JitSnapshot
