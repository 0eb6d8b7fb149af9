import JitSnapshot.View.Chain

set_option autoImplicit false

/-!
The runtime data of a node, as the code generator reads it: the inline caches
that were cloned for this function instance.
-/

namespace JitSnapshot

structure RuntimeView where
  arena : Arena
  home : Nat
  id : RuntimeId
  record : RuntimeRecord

namespace RuntimeView

def same (left right : RuntimeView) : Bool :=
  left.home == right.home && left.id == right.id

def sameOption : Option RuntimeView → Option RuntimeView → Bool
  | none, none => true
  | some left, some right => left.same right
  | _, _ => false

def hasClonedCaches (runtime : RuntimeView) : Bool :=
  !runtime.record.clonedCaches.isEmpty

def clonedCacheCount (runtime : RuntimeView) : UInt32 :=
  runtime.record.clonedCaches.len

def clonedCaches (runtime : RuntimeView) : Except ViewError (List Address) :=
  inBounds (runtime.arena.addresses? runtime.record.clonedCaches)

def clonedCache (runtime : RuntimeView) (cache : CacheIndex) : Except ViewError Address := do
  if cache.raw < runtime.clonedCacheCount then
    let addresses ← runtime.clonedCaches
    inBounds addresses[cache.index]?
  else throw (.clonedCacheOutOfRange cache runtime.clonedCacheCount)

end RuntimeView

namespace View

def runtime? (view : View) : Except ViewError (Option RuntimeView) :=
  match view.record.runtime with
  | none => .ok none
  | some id => do
      let record ← inBounds (view.arena.runtime? id)
      return some { arena := view.arena, home := view.home, id, record }

def runtimeOf? : Option View → Except ViewError (Option RuntimeView)
  | none => .ok none
  | some view => view.runtime?

def inlineeRuntime? (view : View) (site : CallSite) :
    Except ViewError (Option RuntimeView) := do
  runtimeOf? (← view.inlinee? site)

def fieldInlineeRuntime? (view : View) (cache : CacheIndex) :
    Except ViewError (Option RuntimeView) := do
  runtimeOf? (← view.fieldInlinee? cache)

/-- The runtime data of the first candidate at a call site whose body is at the
given address. There must be such a candidate. -/
def targetRuntime? (view : View) (site : CallSite) (body : Address) :
    Except ViewError (Option RuntimeView) := do
  let target ←
    match ← view.inlinee? site with
    | none => pure none
    | some first => first.findCandidate? fun candidate => candidate.hasBodyAt body
  match target with
  | some candidate => candidate.runtime?
  | none => throw (.noTarget site view.id body)

end View

end JitSnapshot
