import JitSnapshot.Name

set_option autoImplicit false

/-!
Runtime contexts: what the running program has measured for a function
instance and for the instances below it. The tree has the shape of the tree of
functions, and besides it the inline caches that were cloned for the instance.
-/

namespace JitSnapshot

/-- The runtime data of a function instance. An instance without cloned caches has an empty list. -/
structure RuntimeContext where
  clonedCaches : List Address := []
  inlinees : List (Option RuntimeContext) := []
  fieldInlinees : List (Option RuntimeContext) := []
  next : Option RuntimeContext := none
  label : Nat := 0
  deriving Inhabited

def putGrowing {α : Type} (entries : List (Option α)) (position : Nat) (value : α) :
    List (Option α) :=
  (entries ++ List.replicate (position + 1 - entries.length) none).set position (some value)

namespace RuntimeContext

def child? (context : RuntimeContext) : Step → Option RuntimeContext
  | .inlinee site => context.inlinees[site]?.join
  | .fieldInlinee cache => context.fieldInlinees[cache]?.join
  | .next => context.next

def withInlinee (context : RuntimeContext) (site : Nat) (child : RuntimeContext) :
    RuntimeContext :=
  { context with inlinees := putGrowing context.inlinees site child }

def withFieldInlinee (context : RuntimeContext) (cache : Nat) (child : RuntimeContext) :
    RuntimeContext :=
  { context with fieldInlinees := putGrowing context.fieldInlinees cache child }

def withNext (context : RuntimeContext) (next : RuntimeContext) : RuntimeContext :=
  { context with next := some next }

def hasClonedCaches (context : RuntimeContext) : Bool :=
  !context.clonedCaches.isEmpty

/-- The cloned caches of the first `count` inline caches; one without a clone has the null
address. -/
def clonedCachesFor (context : RuntimeContext) (count : Nat) : List Address :=
  context.clonedCaches.take count ++
    List.replicate (count - context.clonedCaches.length) .null

end RuntimeContext

end JitSnapshot
