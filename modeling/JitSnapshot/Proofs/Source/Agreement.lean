import JitSnapshot.Proofs.Source.Candidates

set_option autoImplicit false

/-!
Functions of which a build sees the same. It looks at the facts of the
functions that are to be captured and at nothing else: what bodies know of
runtime contexts, what hangs on a function without a body, and candidates that
a body does not count may all differ.
-/

namespace JitSnapshot

/-- The same members in the same order, whatever count the sets report. -/
def GuardSet.Agree (left right : GuardSet) : Prop :=
  left.members = right.members

structure EntryPoint.Agree (left right : EntryPoint) : Prop where
  callCounter : left.callCounter = right.callCounter
  guards : Option.Rel GuardSet.Agree left.guards right.guards

/-- The same static data; entry points and runtime contexts may differ. -/
structure SourceBody.Agree (left right : SourceBody) : Prop where
  record : left.record = right.record
  hasProfile : left.hasProfile = right.hasProfile

structure FunctionFacts.Agree (left right : FunctionFacts) : Prop where
  functionInfo : left.functionInfo = right.functionInfo
  weakRef : left.weakRef = right.weakRef
  inlineeBits : left.inlineeBits = right.inlineeBits
  localFunction : left.localFunction = right.localFunction
  aggressiveInlining : left.aggressiveInlining = right.aggressiveInlining
  inlined : left.inlined = right.inlined
  body : Option.Rel SourceBody.Agree left.body right.body
  typeSpecs : left.body.isSome = true → left.typeSpecs = right.typeSpecs
  globalTypeSpecs : left.body.isSome = true → left.globalTypeSpecs = right.globalTypeSpecs

theorem FunctionFacts.Agree.body_cases {left right : FunctionFacts} (agree : left.Agree right) :
    (left.body = none ∧ right.body = none) ∨
      ∃ leftBody rightBody, left.body = some leftBody ∧ right.body = some rightBody ∧
        leftBody.Agree rightBody := by
  have bodies := agree.body
  generalize left.body = leftBody, right.body = rightBody at bodies ⊢
  cases bodies with
  | none => exact Or.inl ⟨rfl, rfl⟩
  | some same => exact Or.inr ⟨_, _, rfl, rfl, same⟩

namespace SourceFunction

/-- What else counts where both are built as inlinees: the cloned caches of the runtime
contexts they are given, and the entry point of a profiled body. -/
structure AgreeAsInlinees (left right : SourceFunction)
    (leftRuntime rightRuntime : Option RuntimeContext) : Prop where
  clonedCaches : leftRuntime.map RuntimeContext.clonedCaches =
    rightRuntime.map RuntimeContext.clonedCaches
  entryPoint : ∀ leftBody rightBody, left.facts.body = some leftBody →
    right.facts.body = some rightBody → leftBody.hasProfile = true →
      leftBody.entryPoint.Agree rightBody.entryPoint

theorem AgreeAsInlinees.refl (function : SourceFunction) (runtime : Option RuntimeContext) :
    function.AgreeAsInlinees function runtime runtime := by
  refine { clonedCaches := rfl, entryPoint := ?_ }
  intro leftBody rightBody onLeft onRight _
  cases onLeft.symm.trans onRight
  refine { callCounter := rfl, guards := ?_ }
  cases leftBody.entryPoint.guards with
  | none => exact .none
  | some guards => exact .some rfl

/-- Every path over captured functions leads to functions with the same facts, or to none
in both. -/
def Agree (left right : SourceFunction) : Prop :=
  ∀ path, Option.Rel (fun left right => left.facts.Agree right.facts)
    (left.follow? path) (right.follow? path)

theorem Agree.refl (function : SourceFunction) : function.Agree function := by
  have facts (target : SourceFunction) : target.facts.Agree target.facts :=
    { functionInfo := rfl, weakRef := rfl, inlineeBits := rfl, localFunction := rfl,
      aggressiveInlining := rfl, inlined := rfl, typeSpecs := fun _ => rfl
      globalTypeSpecs := fun _ => rfl
      body := by
        cases target.facts.body with
        | none => exact .none
        | some body => exact .some ⟨rfl, rfl⟩ }
  intro path
  cases function.follow? path with
  | none => exact .none
  | some target => exact .some (facts target)

variable {left right : SourceFunction}

/-- To agree, functions have the same facts and candidates that agree after each step. -/
theorem agree_iff : left.Agree right ↔
    left.facts.Agree right.facts ∧
      ∀ step, Option.Rel Agree (left.captured? step) (right.captured? step) := by
  have onward (function : SourceFunction) (step : Step) (path : Path) :
      function.follow? (step :: path) = (function.captured? step).bind (·.follow? path) := rfl
  constructor
  · intro agree
    refine ⟨?_, fun step => ?_⟩
    · cases agree [] with
      | some same => exact same
    · have here := agree [step]
      have further (path : Path) := agree (step :: path)
      simp only [onward] at here further
      generalize left.captured? step = leftNext, right.captured? step = rightNext at here further ⊢
      cases leftNext <;> cases rightNext
      · exact .none
      · cases here
      · cases here
      · exact .some further
  · rintro ⟨facts, below⟩ path
    cases path with
    | nil => exact .some facts
    | cons step rest =>
        have atStep := below step
        rw [onward, onward]
        generalize left.captured? step = leftNext, right.captured? step = rightNext at atStep ⊢
        cases atStep with
        | none => exact .none
        | some agree => exact agree rest

theorem Agree.below {related : SourceFunction → SourceFunction → Prop} (agree : left.Agree right)
    (each : ∀ candidate other, left.HasCandidate candidate → candidate.Agree other →
      related candidate other) (step : Step) :
    Option.Rel related (left.captured? step) (right.captured? step) := by
  have atStep := (agree_iff.mp agree).2 step
  generalize onLeft : left.captured? step = leftNext, right.captured? step = rightNext
    at atStep ⊢
  cases atStep with
  | none => exact .none
  | some same => exact .some (each _ _ (hasCandidate_of_captured onLeft) same)

end SourceFunction

end JitSnapshot
