import JitSnapshot.Source.Function

set_option autoImplicit false

/-!
Who is asked for runtime contexts while a snapshot is built. A request is noted
under the label of the body or the context that is asked. `labelled` numbers
all bodies of a tree of functions, and all runtime contexts, in preorder, so
that no two share a label; the counts of requests are then a table by label.
-/

namespace JitSnapshot

inductive Read where
  | ofBody (label : Nat)
  | ofContext (label : Nat)
  deriving DecidableEq

/-! ### Labels -/

mutual

/-- Numbers a context and all contexts below it in preorder. The result has
the first number that is left. -/
def RuntimeContext.labelled (first : Nat) : RuntimeContext → RuntimeContext × Nat
  | ⟨clonedCaches, inlinees, fieldInlinees, next, _⟩ =>
      let (inlinees, free) := RuntimeContext.labelledAmong (first + 1) #[] inlinees
      let (fieldInlinees, free) := RuntimeContext.labelledAmong free #[] fieldInlinees
      let (next, free) := RuntimeContext.labelledAt free next
      (⟨clonedCaches, inlinees.toList, fieldInlinees.toList, next, first⟩, free)

def RuntimeContext.labelledAmong (first : Nat) (done : Array (Option RuntimeContext)) :
    List (Option RuntimeContext) → Array (Option RuntimeContext) × Nat
  | [] => (done, first)
  | slot :: rest =>
      let (slot, free) := RuntimeContext.labelledAt first slot
      RuntimeContext.labelledAmong free (done.push slot) rest

def RuntimeContext.labelledAt (first : Nat) :
    Option RuntimeContext → Option RuntimeContext × Nat
  | none => (none, first)
  | some context =>
      let (context, free) := RuntimeContext.labelled first context
      (some context, free)

end

/-- How many bodies and contexts have been numbered; the next ones get these numbers. -/
structure Labels where
  bodies : Nat := 0
  contexts : Nat := 0
  deriving DecidableEq

def SourceBody.labelled (labels : Labels) (body : SourceBody) : SourceBody × Labels :=
  let (inlineeRuntimes, contexts) :=
    RuntimeContext.labelledAmong labels.contexts #[] body.inlineeRuntimes
  let (fieldRuntimes, contexts) := RuntimeContext.labelledAmong contexts #[] body.fieldRuntimes
  let (nextRuntime, contexts) := RuntimeContext.labelledAt contexts body.nextRuntime
  ({ body with
      inlineeRuntimes := inlineeRuntimes.toList
      fieldRuntimes := fieldRuntimes.toList
      nextRuntime
      label := labels.bodies },
    { bodies := labels.bodies + 1, contexts })

def FunctionFacts.labelled (labels : Labels) (facts : FunctionFacts) : FunctionFacts × Labels :=
  match facts.body with
  | none => (facts, labels)
  | some body =>
      let (body, labels) := body.labelled labels
      ({ facts with body := some body }, labels)

mutual

def SourceFunction.labelled (labels : Labels) : SourceFunction → SourceFunction × Labels
  | ⟨facts, inlinees, fieldInlinees, next⟩ =>
      let (facts, labels) := facts.labelled labels
      let (inlinees, labels) := SourceFunction.labelledAmong labels #[] inlinees
      let (fieldInlinees, labels) := SourceFunction.labelledAmong labels #[] fieldInlinees
      let (next, labels) := SourceFunction.labelledAt labels next
      (⟨facts, inlinees.toList, fieldInlinees.toList, next⟩, labels)

def SourceFunction.labelledAmong (labels : Labels) (done : Array (Option SourceFunction)) :
    List (Option SourceFunction) → Array (Option SourceFunction) × Labels
  | [] => (done, labels)
  | slot :: rest =>
      let (slot, labels) := SourceFunction.labelledAt labels slot
      SourceFunction.labelledAmong labels (done.push slot) rest

def SourceFunction.labelledAt (labels : Labels) :
    Option SourceFunction → Option SourceFunction × Labels
  | none => (none, labels)
  | some function =>
      let (function, labels) := SourceFunction.labelled labels function
      (some function, labels)

end

/-! ### Counts -/

structure ReadCounts where
  bodies : Array Nat
  contexts : Array Nat
  deriving DecidableEq

namespace ReadCounts

def zero (labels : Labels) : ReadCounts :=
  { bodies := Array.replicate labels.bodies 0
    contexts := Array.replicate labels.contexts 0 }

def add : ReadCounts → Read → ReadCounts
  | ⟨bodies, contexts⟩, .ofBody label => ⟨bodies.modify label (· + 1), contexts⟩
  | ⟨bodies, contexts⟩, .ofContext label => ⟨bodies, contexts.modify label (· + 1)⟩

def ofReads (labels : Labels) (reads : List Read) : ReadCounts :=
  reads.foldl add (zero labels)

end ReadCounts

end JitSnapshot
