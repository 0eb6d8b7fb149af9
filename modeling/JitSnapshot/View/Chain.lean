import JitSnapshot.View.Basic

set_option autoImplicit false

/-!
The chain of candidates for one site: a node, its successor, and so on. A chain
is followed one candidate at a time; when a candidate is taken, its successor
is looked up at once, whether it will be wanted or not.
-/

namespace JitSnapshot

structure Chain where
  front : Option View

namespace Chain

def take? (chain : Chain) : Except ViewError (Option (View × Chain)) :=
  match chain.front with
  | none => .ok none
  | some view => do
      let successor ← view.next?
      return some (view, { front := successor })

def upTo (limit : Nat) (chain : Chain) : Except ViewError (List View) :=
  match limit with
  | 0 => .ok []
  | limit + 1 => do
      match ← chain.take? with
      | none => return []
      | some (view, rest) => return view :: (← rest.upTo limit)

/-- The first candidate that passes a test, among the next `fuel`. A chain with
a candidate left after that many does not end. -/
def findWithin (test : View → Except ViewError Bool) (fuel : Nat) (chain : Chain) :
    Except ViewError (Option View) :=
  match fuel with
  | 0 => .error .endlessChain
  | fuel + 1 => do
      match ← chain.take? with
      | none => return none
      | some (view, rest) =>
          if ← test view then return some view else rest.findWithin test fuel

end Chain

namespace View

def chain (view : View) : Chain :=
  { front := some view }

/-- All candidates of the chain. One longer than the arena returns to itself. -/
def candidates (view : View) : Except ViewError (List View) := do
  let views ← view.chain.upTo (view.arena.size + 1)
  if view.arena.size < views.length then throw .endlessChain
  return views

def findCandidate? (view : View) (test : View → Except ViewError Bool) :
    Except ViewError (Option View) :=
  view.chain.findWithin test (view.arena.size + 1)

def findFunction? (view : View) (functionInfo : Address) : Except ViewError (Option View) :=
  view.findCandidate? fun candidate => .ok (candidate.functionInfo == functionInfo)

def hasBodyAt (view : View) (address : Address) : Except ViewError Bool := do
  match ← view.body? with
  | none => return false
  | some body => return body.address == address

end View

end JitSnapshot
