import JitSnapshot.Build.State

set_option autoImplicit false

/-!
Building a snapshot: a tree of live functions is copied into an arena. A node
is allocated before anything below it and its record is stored last, so ids
are in preorder.

Only a function built as an inlinee reads the runtime contexts of its
candidates from its own context; every other function's body keeps them. All
candidates are built as functions that are not inlinees, so below the root it
is the bodies that are asked.
-/

namespace JitSnapshot

/-- Who knows the runtime contexts of a function's candidates: its own context,
if there is one here, or else its body. -/
structure RuntimeKeeper where
  body : SourceBody
  own : Option RuntimeContext

def RuntimeKeeper.ask (keeper : RuntimeKeeper) (step : Step) (state : BuildState) :
    Option RuntimeContext × BuildState :=
  match keeper.own with
  | some own => (own.child? step, state.noteRead (.ofContext own.label))
  | none => (keeper.body.runtime? step, state.noteRead (.ofBody keeper.body.label))

def FunctionFacts.flags (facts : FunctionFacts) : NodeFlags :=
  (if facts.aggressiveInlining then Flags.aggressiveInlining else .empty).union
    (if facts.inlined then Flags.inlined else .empty)

def FunctionFacts.record (facts : FunctionFacts) : NodeRecord :=
  { functionInfo := facts.functionInfo
    weakRef := facts.weakRef
    inlineeBits := facts.inlineeBits
    localFunction := facts.localFunction
    flags := facts.flags }

namespace BuildState

def captureEntryPoint (state : BuildState) (entryPoint : EntryPoint) (record : NodeRecord) :
    Except BuildError (NodeRecord × BuildState) :=
  let record := { record with callCounter := entryPoint.callCounter }
  match entryPoint.guards with
  | none => .ok (record, state)
  | some guards => do
      let (sharedGuards, state) ← state.pushGuards guards
      return ({ record with sharedGuards }, state)

/-- Copies a body, and its profile if it has been profiled; only then is the
entry point of an inlinee looked at. -/
def captureBody (state : BuildState) (body : SourceBody) (isInlinee : Bool)
    (record : NodeRecord) : Except BuildError (NodeRecord × BuildState) :=
  if body.hasProfile then do
    let (profile, state) ← state.pushProfile body.record
    let (record, state) ←
      (if isInlinee then state.captureEntryPoint body.entryPoint record else .ok (record, state))
    let (id, state) ← state.pushBody { body.record with profile := some profile }
    return ({ record with body := some id }, state)
  else do
    let (id, state) ← state.pushBody { body.record with profile := none }
    return ({ record with body := some id }, state)

def captureRuntime (state : BuildState) (own : Option RuntimeContext) (caches : Nat) :
    Except BuildError (RuntimeId × BuildState) :=
  match own with
  | none => state.pushRuntime {}
  | some own =>
      if own.hasClonedCaches then do
        let (clonedCaches, state) ← state.pushAddresses (own.clonedCachesFor caches)
        state.pushRuntime { clonedCaches }
      else state.pushRuntime {}

def captureTypeSpecs (state : BuildState) (sources : Option (List (Option Address)))
    (caches : Nat) : Except BuildError (TypeSpecRange × BuildState) :=
  match sources with
  | none => .ok (.empty, state)
  | some sources =>
      if caches = 0 then .ok (.empty, state) else state.pushTypeSpecs sources caches

def captureGlobalTypeSpecs (state : BuildState) (sources : List (Option Address)) :
    Except BuildError (TypeSpecRange × BuildState) :=
  if sources.isEmpty then .ok (.empty, state) else state.pushTypeSpecs sources sources.length

end BuildState

mutual

def SourceFunction.buildNode (runtime : Option RuntimeContext) (isInlinee : Bool) :
    SourceFunction → BuildState → Except BuildError (NodeId × BuildState)
  | ⟨facts, inlinees, fieldInlinees, next⟩, state => do
      let (id, state) ← state.allocNode
      match facts.body with
      | none =>
          let state ← state.setNode id facts.record
          return (id, state)
      | some body =>
          if isInlinee && runtime.isNone then throw .inlineeWithoutRuntime
          else
            let own := if isInlinee then runtime else none
            let keeper : RuntimeKeeper := { body, own }
            let caches := body.record.cacheCount.toNat
            let (record, state) ← state.captureBody body isInlinee facts.record
            let (slots, state) ← SourceFunction.buildSlots keeper .inlinee 0
              body.record.callSiteCount.toNat #[] inlinees state
            let (inlineeRange, state) ← state.pushSlots slots.toList
            let (runtimeId, state) ← state.captureRuntime own caches
            let (typeSpecs, state) ← state.captureTypeSpecs facts.typeSpecs caches
            let (slots, state) ← SourceFunction.buildSlots keeper .fieldInlinee 0
              caches #[] fieldInlinees state
            let (fieldRange, state) ← state.pushSlots slots.toList
            let (globalTypeSpecs, state) ← state.captureGlobalTypeSpecs facts.globalTypeSpecs
            let (successor, state) ← SourceFunction.buildCandidate keeper .next next state
            let state ← state.setNode id
              { record with
                runtime := some runtimeId
                inlinees := inlineeRange
                fieldInlinees := fieldRange
                typeSpecs
                globalTypeSpecs
                next := successor }
            return (id, state)

def SourceFunction.buildSlots (keeper : RuntimeKeeper) (step : Nat → Step)
    (index count : Nat) (built : Array Slot) :
    List (Option SourceFunction) → BuildState → Except BuildError (Array Slot × BuildState)
  | [], state => .ok (built ++ Array.replicate count none, state)
  | candidate :: rest, state =>
      match count with
      | 0 => .ok (built, state)
      | count + 1 =>
          match SourceFunction.buildCandidate keeper (step index) candidate state with
          | .error error => .error error
          | .ok (slot, state) =>
              SourceFunction.buildSlots keeper step (index + 1) count (built.push slot) rest state

def SourceFunction.buildCandidate (keeper : RuntimeKeeper) (step : Step) :
    Option SourceFunction → BuildState → Except BuildError (Slot × BuildState)
  | none, state => .ok (none, state)
  | some candidate, state => do
      let (runtime, state) := keeper.ask step state
      let (id, state) ← SourceFunction.buildNode runtime false candidate state
      return (some id, state)

end

namespace BuildState

/-- Builds the snapshot of a function behind what the arena holds. The requests
noted before are forgotten. -/
def build (state : BuildState) (function : SourceFunction)
    (runtime : Option RuntimeContext) (isInlinee : Bool) :
    Except BuildError (NodeId × BuildState) :=
  function.buildNode runtime isInlinee { state with reads := [] }

/-- Builds the snapshot of a function and counts the requests for runtime
contexts. Everyone who may be asked is labelled first: the given contexts, then
the bodies of the functions with the contexts they keep. -/
def buildCounted (state : BuildState) (function : SourceFunction)
    (runtime : Option RuntimeContext) (isInlinee : Bool) :
    Except BuildError (NodeId × ReadCounts × BuildState) := do
  let (runtime, contexts) := RuntimeContext.labelledAt 0 runtime
  let (function, labels) := function.labelled { contexts }
  let (root, state) ← state.build function runtime isInlinee
  return (root, .ofReads labels state.reads, state)

end BuildState

end JitSnapshot
