import JitSnapshot.Proofs.Build.Pairing
import JitSnapshot.Proofs.Build.Tree

set_option autoImplicit false

/-!
Functions of which a build sees the same are built together: whatever the
pairing, both builds fail with the same fault, or what the second returns and
leaves is what the first returns and leaves, moved.

Children are never built as inlinees, so the runtime contexts and the entry
points below the roots do not matter, and the induction runs over the functions
alone.
-/

namespace JitSnapshot

theorem FunctionFacts.Agree.record {left right : FunctionFacts} (agree : left.Agree right) :
    left.record = right.record := by
  simp only [FunctionFacts.record, FunctionFacts.flags, agree.functionInfo, agree.weakRef,
    agree.inlineeBits, agree.localFunction, agree.aggressiveInlining, agree.inlined]

/-! ### Room for the record -/

section Room

variable {function : SourceFunction} {runtime : Option RuntimeContext} {isInlinee : Bool}
  {state last : BuildState} {record : NodeRecord}

private theorem fill_grows (filled : function.fill runtime isInlinee state = .ok (record, last)) :
    state.arena.size ≤ last.arena.size := by
  cases function with
  | mk facts inlinees fieldInlinees next =>
      cases hasBody : facts.body with
      | none =>
          rw [SourceFunction.fill] at filled
          simp only [hasBody] at filled
          cases filled
          exact Nat.le_refl _
      | some body =>
          have lays := ((fill_body hasBody filled).stores hasBody
            fun candidate _ => candidate.buildsExactly).1
          rw [lays.size]
          exact Nat.le_add_right _ _

/-- The node that was allocated for a function is there when its record is stored. -/
theorem exists_setNode {start : BuildState} {id : NodeId}
    (allocated : state.allocNode = .ok (id, start))
    (filled : function.fill runtime isInlinee start = .ok (record, last)) :
    ∃ stored, last.setNode id record = .ok stored := by
  have inArena := BuildState.allocNode_arena allocated
  have inside : id.index < last.arena.nodes.size := by
    rw [(Arena.allocNode_eq_ok_iff.mp inArena).1]
    have oneMore := (Arena.listsGrow_allocNode inArena).2
    have grown := fill_grows filled
    have size : last.arena.size = last.arena.nodes.size := rfl
    omega
  rw [BuildState.setNode, Arena.setNode?, dif_pos inside]
  exact ⟨_, rfl⟩

end Room

namespace Pairing

variable (pairing : Pairing)

def BuiltTogether (left right : SourceFunction) : Prop :=
  ∀ (leftRuntime rightRuntime : Option RuntimeContext) (leftState rightState : BuildState),
    pairing.related leftState rightState →
      pairing.Moved pairing.moves.node (left.buildNode leftRuntime false leftState)
        (right.buildNode rightRuntime false rightState)

variable {leftState rightState : BuildState}

/-! ### Candidates and slots -/

section Slots

variable (leftKeeper rightKeeper : RuntimeKeeper)

theorem buildCandidate_moved (step : Step) {leftCandidate rightCandidate : Option SourceFunction}
    (candidates : Option.Rel pairing.BuiltTogether leftCandidate rightCandidate)
    (related : pairing.related leftState rightState) :
    pairing.Moved pairing.moves.slot
      (SourceFunction.buildCandidate leftKeeper step leftCandidate leftState)
      (SourceFunction.buildCandidate rightKeeper step rightCandidate rightState) := by
  cases candidates with
  | none =>
      rw [SourceFunction.buildCandidate, SourceFunction.buildCandidate]
      exact .refl rfl related
  | some together =>
      obtain ⟨leftRuntime, leftReads, asksLeft⟩ := leftKeeper.ask_state step leftState
      obtain ⟨rightRuntime, rightReads, asksRight⟩ := rightKeeper.ask_state step rightState
      have asked := pairing.unread leftReads rightReads related
      rw [SourceFunction.buildCandidate, asksLeft, SourceFunction.buildCandidate, asksRight]
      exact (together leftRuntime rightRuntime _ _ asked).followed fun id _ _ => .refl rfl

theorem buildSlots_moved (step : Nat → Step) (index count : Nat) {leftBuilt rightBuilt : Array Slot}
    {leftCandidates rightCandidates : List (Option SourceFunction)}
    (candidates : ∀ position < count, Option.Rel pairing.BuiltTogether
      leftCandidates[position]?.join rightCandidates[position]?.join)
    (same : rightBuilt = leftBuilt.map pairing.moves.slot)
    (related : pairing.related leftState rightState) :
    pairing.Moved (fun slots => slots.map pairing.moves.slot)
      (SourceFunction.buildSlots leftKeeper step index count leftBuilt leftCandidates leftState)
      (SourceFunction.buildSlots rightKeeper step index count rightBuilt rightCandidates
        rightState) := by
  induction count generalizing index leftBuilt rightBuilt leftCandidates rightCandidates
    leftState rightState with
  | zero =>
      rw [SourceFunction.buildSlots_zero, SourceFunction.buildSlots_zero]
      exact .refl same related
  | succ count ih =>
      rw [SourceFunction.buildSlots_succ, SourceFunction.buildSlots_succ]
      refine (pairing.buildCandidate_moved leftKeeper rightKeeper (step index)
        (candidates 0 (Nat.zero_lt_succ _)) related).followed fun slot _ _ built => ?_
      refine ih (index + 1) (fun position within => ?_) ?_ built
      · rw [List.getElem?_tail, List.getElem?_tail]
        exact candidates (position + 1) (Nat.succ_lt_succ within)
      · rw [same, Array.map_push]

end Slots

/-! ### Nodes -/

section Nodes

variable {left right : SourceFunction} {leftRuntime rightRuntime : Option RuntimeContext}
  {isInlinee : Bool}

/-- Bodies are filled alike if they and what inlinees know of themselves are captured alike. -/
private theorem fillBody_moved {leftBody rightBody : SourceBody}
    {leftOwn rightOwn : Option RuntimeContext}
    (hasLeft : left.facts.body = some leftBody) (hasRight : right.facts.body = some rightBody)
    (agree : left.facts.Agree right.facts) (bodies : leftBody.Agree rightBody)
    (entries : isInlinee = true → leftBody.hasProfile = true →
      ∀ {leftState rightState : BuildState}, pairing.related leftState rightState →
        pairing.Moved pairing.moves.ofNode
          (leftState.captureEntryPoint leftBody.entryPoint left.facts.record)
          (rightState.captureEntryPoint rightBody.entryPoint
            (pairing.moves.ofNode left.facts.record)))
    (runtimes : ∀ {leftState rightState : BuildState} (caches : Nat),
      pairing.related leftState rightState →
        pairing.Moved pairing.moves.runtime (leftState.captureRuntime leftOwn caches)
          (rightState.captureRuntime rightOwn caches))
    (below : ∀ step,
      Option.Rel pairing.BuiltTogether (left.captured? step) (right.captured? step))
    (related : pairing.related leftState rightState) :
    pairing.Moved pairing.moves.ofNode (left.fillBody leftBody leftOwn isInlinee leftState)
      (right.fillBody rightBody rightOwn isInlinee rightState) := by
  have candidates (step : Step) (counted : leftBody.record.hasSite step = true) :
      Option.Rel pairing.BuiltTogether (left.child? step) (right.child? step) := by
    have atStep := below step
    rwa [SourceFunction.captured?_of_hasSite hasLeft counted,
      SourceFunction.captured?_of_hasSite hasRight (bodies.record ▸ counted)] at atStep
  have isSome : left.facts.body.isSome = true := by rw [hasLeft]; rfl
  have noSlots : #[] = (#[] : Array Slot).map pairing.moves.slot := Array.map_empty.symm
  have captured := pairing.captureBody_moved left.facts.record bodies entries related
  rw [pairing.ofNode_record] at captured
  unfold SourceFunction.fillBody
  rw [← agree.record, ← bodies.record, ← agree.typeSpecs isSome, ← agree.globalTypeSpecs isSome]
  dsimp only
  -- The captures in their order, each from the states that the one before it left.
  refine captured.followed fun record _ _ atBody => ?_
  refine (pairing.buildSlots_moved _ _ .inlinee 0 _
    (fun site within => candidates (.inlinee site) (decide_eq_true within)) noSlots
    atBody).followed fun slots _ _ atInlinees => ?_
  rw [Array.toList_map]
  refine Moved.followed (pairing.pushSlots slots.toList atInlinees)
    fun inlineeRange _ _ atSlots => ?_
  refine (runtimes _ atSlots).followed fun runtime _ _ atRuntime => ?_
  refine (pairing.captureTypeSpecs_moved _ _ atRuntime).followed
    fun typeSpecs _ _ atTypeSpecs => ?_
  refine (pairing.buildSlots_moved _ _ .fieldInlinee 0 _
    (fun cache within => candidates (.fieldInlinee cache) (decide_eq_true within)) noSlots
    atTypeSpecs).followed fun fields _ _ atFields => ?_
  rw [Array.toList_map]
  refine Moved.followed (pairing.pushSlots fields.toList atFields)
    fun fieldRange _ _ atFieldSlots => ?_
  refine (pairing.captureGlobalTypeSpecs_moved _ atFieldSlots).followed
    fun globals _ _ atGlobals => ?_
  exact (pairing.buildCandidate_moved _ _ .next (candidates .next rfl) atGlobals).followed
    fun successor _ _ => .refl rfl

/-- Functions that are filled alike are built alike: the record that was filled for the first
is stored, so there is a node for it in the second build too. -/
theorem buildNode_moved
    (fills : ∀ {leftState rightState : BuildState}, pairing.related leftState rightState →
      pairing.Moved pairing.moves.ofNode (left.fill leftRuntime isInlinee leftState)
        (right.fill rightRuntime isInlinee rightState))
    (related : pairing.related leftState rightState) :
    pairing.Moved pairing.moves.node (left.buildNode leftRuntime isInlinee leftState)
      (right.buildNode rightRuntime isInlinee rightState) := by
  rw [left.buildNode_eq_fill, right.buildNode_eq_fill]
  refine InStep.followed (pairing.allocNode related) ?_
  rintro ⟨id, leftStart⟩ ⟨_, rightStart⟩ allocated _ ⟨sameId, started⟩
  dsimp only at sameId
  subst sameId
  refine InStep.followed (fills started) ?_
  rintro ⟨record, leftLast⟩ ⟨_, rightLast⟩ filled _ ⟨sameRecord, atLast⟩
  dsimp only at sameRecord
  subst sameRecord
  obtain ⟨leftStored, storedLeft⟩ := exists_setNode allocated filled
  obtain ⟨rightStored, storedRight, stored⟩ := pairing.setNode atLast storedLeft
  rw [storedLeft, storedRight, ok_bind, ok_bind]
  exact .returns ⟨rfl, stored⟩

/-- What is built as anything but an inlinee has neither entry point nor clones to capture. -/
private theorem fill_plain_moved (agree : left.facts.Agree right.facts)
    (below : ∀ step,
      Option.Rel pairing.BuiltTogether (left.captured? step) (right.captured? step))
    (related : pairing.related leftState rightState) :
    pairing.Moved pairing.moves.ofNode (left.fill leftRuntime false leftState)
      (right.fill rightRuntime false rightState) := by
  unfold SourceFunction.fill
  obtain ⟨onLeft, onRight⟩ | ⟨leftBody, rightBody, onLeft, onRight, bodies⟩ := agree.body_cases
  · rw [onLeft, onRight, ← agree.record]
    exact .refl (pairing.ofNode_record _).symm related
  · rw [onLeft, onRight]
    exact pairing.fillBody_moved onLeft onRight agree bodies nofun
      (fun _ => pairing.pushRuntime_empty_moved) below related

end Nodes

/-- Agreement reaches down to all candidates a build looks at, so they are built together. -/
theorem builtTogether_of_agree {left right : SourceFunction} (agree : left.Agree right) :
    pairing.BuiltTogether left right := by
  induction left using SourceFunction.candidate_induction generalizing right with
  | pass left ih =>
      intro leftRuntime rightRuntime leftState rightState related
      refine pairing.buildNode_moved (fun started => ?_) related
      refine pairing.fill_plain_moved (SourceFunction.agree_iff.mp agree).1 ?_ started
      exact agree.below fun candidate other hangs same => ih candidate hangs same

private theorem builtTogether_below {left right : SourceFunction} (agree : left.Agree right)
    (step : Step) :
    Option.Rel pairing.BuiltTogether (left.captured? step) (right.captured? step) :=
  agree.below (fun _ _ _ same => pairing.builtTogether_of_agree same) step

end Pairing

namespace RootPairing

variable (pairing : RootPairing) {left right : SourceFunction}
  {leftRuntime rightRuntime : Option RuntimeContext} {leftState rightState : BuildState}

private theorem fill_moved (isInlinee : Bool) (agree : left.Agree right)
    (inlinees : isInlinee = true → left.AgreeAsInlinees right leftRuntime rightRuntime)
    (related : pairing.related leftState rightState) :
    pairing.Moved pairing.moves.ofNode (left.fill leftRuntime isInlinee leftState)
      (right.fill rightRuntime isInlinee rightState) := by
  have facts := (SourceFunction.agree_iff.mp agree).1
  have below := pairing.builtTogether_below agree
  cases isInlinee with
  | false => exact pairing.fill_plain_moved facts below related
  | true =>
      unfold SourceFunction.fill
      obtain ⟨onLeft, onRight⟩ | ⟨leftBody, rightBody, onLeft, onRight, bodies⟩ :=
        facts.body_cases
      · rw [onLeft, onRight, ← facts.record]
        exact .refl (pairing.ofNode_record _).symm related
      · rw [onLeft, onRight]
        have contexts := (inlinees rfl).clonedCaches
        have sameNone : leftRuntime.isNone = rightRuntime.isNone := by
          rw [← Option.isNone_map, contexts, Option.isNone_map]
        simp only [Bool.true_and, sameNone, if_true]
        cases rightRuntime.isNone with
        | true => exact .fails _
        | false =>
            refine pairing.fillBody_moved onLeft onRight facts bodies (fun _ profiled => ?_)
              (fun caches => pairing.captureRuntime_moved caches contexts) below related
            exact pairing.captureEntryPoint_moved _
              ((inlinees rfl).entryPoint _ _ onLeft onRight profiled)

/-- Two builds of functions that agree, into states that go together, both fail with the
same fault, or leave states that go together under roots that correspond. -/
theorem build_moved (isInlinee : Bool) (agree : left.Agree right)
    (inlinees : isInlinee = true → left.AgreeAsInlinees right leftRuntime rightRuntime)
    (related : pairing.related leftState rightState) :
    pairing.Moved pairing.moves.node (leftState.build left leftRuntime isInlinee)
      (rightState.build right rightRuntime isInlinee) :=
  pairing.buildNode_moved (pairing.fill_moved isInlinee agree inlinees)
    (pairing.unread [] [] related)

end RootPairing

end JitSnapshot
