import JitSnapshot.Build.Node
import JitSnapshot.Proofs.Outcome
import JitSnapshot.Proofs.Tree.Branches

set_option autoImplicit false

/-!
The build of a node taken apart: a build that succeeds has gone through a known
sequence of captures, each of which succeeded, and has stored the node's record
at the end.
-/

namespace JitSnapshot

variable {state after : BuildState}

def BuildError.IsOverflow (fault : BuildError) : Prop :=
  ∃ cause, fault = .overflow cause

/-- A request changes nothing but the record of requests. -/
theorem RuntimeKeeper.ask_state (keeper : RuntimeKeeper) (step : Step) (state : BuildState) :
    ∃ runtime reads, keeper.ask step state = (runtime, { state with reads }) := by
  unfold RuntimeKeeper.ask
  cases keeper.own <;> exact ⟨_, _, rfl⟩

theorem RuntimeKeeper.state_of_ask {keeper : RuntimeKeeper} {step : Step}
    {runtime : Option RuntimeContext} (asks : keeper.ask step state = (runtime, after)) :
    ∃ reads, after = { state with reads } := by
  obtain ⟨_, reads, asked⟩ := keeper.ask_state step state
  exact ⟨reads, congrArg Prod.snd (asks.symm.trans asked)⟩

inductive FillsBody (facts : FunctionFacts) (body : SourceBody) (own : Option RuntimeContext)
    (inlinees fieldInlinees : List (Option SourceFunction)) (next : Option SourceFunction)
    (start : BuildState) : NodeRecord → BuildState → Prop where
  | steps {record : NodeRecord} {runtime : RuntimeId} {successor : Slot}
      {slots fieldSlots : Array Slot} {inlineeRange fieldRange : SlotRange}
      {typeSpecs globalTypeSpecs : TypeSpecRange}
      {afterBody afterInlinees afterSlots afterRuntime afterTypeSpecs : BuildState}
      {afterFields afterFieldSlots afterGlobals last : BuildState} :
      start.captureBody body own.isSome facts.record = .ok (record, afterBody) →
      SourceFunction.buildSlots { body, own } .inlinee 0 body.record.callSiteCount.toNat #[]
        inlinees afterBody = .ok (slots, afterInlinees) →
      afterInlinees.pushSlots slots.toList = .ok (inlineeRange, afterSlots) →
      afterSlots.captureRuntime own body.record.cacheCount.toNat = .ok (runtime, afterRuntime) →
      afterRuntime.captureTypeSpecs facts.typeSpecs body.record.cacheCount.toNat =
        .ok (typeSpecs, afterTypeSpecs) →
      SourceFunction.buildSlots { body, own } .fieldInlinee 0 body.record.cacheCount.toNat #[]
        fieldInlinees afterTypeSpecs = .ok (fieldSlots, afterFields) →
      afterFields.pushSlots fieldSlots.toList = .ok (fieldRange, afterFieldSlots) →
      afterFieldSlots.captureGlobalTypeSpecs facts.globalTypeSpecs =
        .ok (globalTypeSpecs, afterGlobals) →
      SourceFunction.buildCandidate { body, own } .next next afterGlobals =
        .ok (successor, last) →
      FillsBody facts body own inlinees fieldInlinees next start
        { record with
          runtime := some runtime
          inlinees := inlineeRange
          fieldInlinees := fieldRange
          typeSpecs
          globalTypeSpecs
          next := successor } last

namespace BuildState

theorem put_eq_ok_iff {α : Type} {pushed : Except Overflow (α × Arena)} {value : α} :
    state.put pushed = .ok (value, after) ↔
      ∃ arena, pushed = .ok (value, arena) ∧ after = { state with arena } := by
  unfold put
  constructor
  · intro returned
    split at returned
    · cases returned
    · rename_i arena
      cases returned
      exact ⟨arena, rfl, rfl⟩
  · rintro ⟨arena, rfl, rfl⟩
    rfl

/-- Whatever is put into the arena, nobody is asked for it. -/
theorem put_reads {α : Type} {counted : BuildState} {pushed : Except Overflow (α × Arena)}
    {value : α} (done : counted.put pushed = .ok (value, after))
    (kept : counted.reads = state.reads) : after.reads = state.reads := by
  obtain ⟨_, _, rfl⟩ := put_eq_ok_iff.mp done
  exact kept

theorem allocNode_arena {id : NodeId} (allocated : state.allocNode = .ok (id, after)) :
    state.arena.allocNode = .ok (id, after.arena) := by
  obtain ⟨_, inArena, rfl⟩ := put_eq_ok_iff.mp allocated
  exact inArena

end BuildState

theorem setNode_eq_ok_iff {id : NodeId} {record : NodeRecord} :
    state.setNode id record = .ok after ↔
      ∃ arena, state.arena.setNode? id record = some arena ∧ after = { state with arena } := by
  unfold BuildState.setNode
  constructor
  · intro stored
    split at stored
    · rename_i arena replaced
      cases stored
      exact ⟨arena, replaced, rfl⟩
    · cases stored
  · rintro ⟨arena, replaced, rfl⟩
    rw [replaced]

theorem setNode_arena {id : NodeId} {record : NodeRecord}
    (stored : state.setNode id record = .ok after) :
    state.arena.setNode? id record = some after.arena := by
  obtain ⟨arena, replaced, rfl⟩ := setNode_eq_ok_iff.mp stored
  exact replaced

theorem exists_set_of_setNode {id : NodeId} {record : NodeRecord}
    (stored : state.setNode id record = .ok after) :
    ∃ within : id.index < state.arena.nodes.size,
      after = { state with arena.nodes := state.arena.nodes.set id.index record within } := by
  obtain ⟨arena, replaced, rfl⟩ := setNode_eq_ok_iff.mp stored
  unfold Arena.setNode? at replaced
  split at replaced
  · rename_i within
    cases replaced
    exact ⟨within, rfl⟩
  · cases replaced

namespace SourceFunction

/-! ### Slots by their count -/

section Slots

variable (keeper : RuntimeKeeper) (step : Nat → Step) (index count : Nat) (built : Array Slot)
  (candidates : List (Option SourceFunction)) (state : BuildState)

theorem buildSlots_zero :
    buildSlots keeper step index 0 built candidates state = .ok (built, state) := by
  cases candidates with
  | nil => rw [buildSlots, Array.replicate_zero, Array.append_empty]
  | cons candidate rest => rw [buildSlots]

/-- The next slot is that of the first candidate that is left, if one is left. -/
theorem buildSlots_succ :
    buildSlots keeper step index (count + 1) built candidates state =
      buildCandidate keeper (step index) candidates[0]?.join state >>= fun slot =>
        buildSlots keeper step (index + 1) count (built.push slot.1) candidates.tail slot.2 := by
  cases candidates with
  | nil =>
      have emptySlots : built ++ Array.replicate (count + 1) none =
          built.push none ++ Array.replicate count none := by
        apply Array.toList_inj.mp
        simp only [Array.toList_append, Array.toList_replicate, Array.toList_push,
          List.replicate_succ, List.append_assoc, List.singleton_append]
      rw [buildSlots, emptySlots]
      simp only [List.getElem?_nil, Option.join_none, buildCandidate, ok_bind, List.tail_nil,
        buildSlots]
  | cons candidate rest =>
      rw [buildSlots]
      simp only [List.getElem?_cons_zero, Option.join_some, List.tail_cons]
      cases buildCandidate keeper (step index) candidate state <;> rfl

end Slots

end SourceFunction

/-- Candidates built one after the other: what each step leads to in the function, and the
node that has been made of it. -/
inductive BuildsInTurn (keeper : RuntimeKeeper) :
    List (Step × SourceFunction) → List (Step × NodeId) → BuildState → BuildState → Prop where
  | done {state : BuildState} : BuildsInTurn keeper [] [] state state
  | step {step : Step} {function : SourceFunction} {id : NodeId}
      {captures : List (Step × SourceFunction)} {nodes : List (Step × NodeId)}
      {runtime : Option RuntimeContext} {start asked mid last : BuildState} :
      keeper.ask step start = (runtime, asked) →
      function.buildNode runtime false asked = .ok (id, mid) →
      BuildsInTurn keeper captures nodes mid last →
      BuildsInTurn keeper ((step, function) :: captures) ((step, id) :: nodes) start last

namespace BuildsInTurn

variable {keeper : RuntimeKeeper} {front back : List (Step × SourceFunction)}
  {frontNodes backNodes : List (Step × NodeId)} {mid : BuildState}

theorem followed (first : BuildsInTurn keeper front frontNodes state mid)
    (second : BuildsInTurn keeper back backNodes mid after) :
    BuildsInTurn keeper (front ++ back) (frontNodes ++ backNodes) state after := by
  induction first with
  | done => exact second
  | step asks node _ ih => exact .step asks node (ih second)

theorem of_candidate {step : Step} {candidate : Option SourceFunction} {slot : Slot}
    (built : SourceFunction.buildCandidate keeper step candidate state = .ok (slot, after)) :
    BuildsInTurn keeper (candidate.toList.map fun function => (step, function))
      (slot.toList.map fun id => (step, id)) state after := by
  cases candidate with
  | none =>
      rw [SourceFunction.buildCandidate] at built
      cases built
      exact .done
  | some function =>
      rw [SourceFunction.buildCandidate] at built
      obtain ⟨⟨id, last⟩, node, returned⟩ := bind_eq_ok.mp built
      cases returned
      exact .step rfl node .done

/-- Slots are as many as they had to be, and what they hold has been built in turn. -/
theorem of_slots {step : Nat → Step} {index count : Nat} {built slots : Array Slot}
    {candidates : List (Option SourceFunction)}
    (done : SourceFunction.buildSlots keeper step index count built candidates state =
      .ok (slots, after)) :
    ∃ new, slots.toList = built.toList ++ new ∧ new.length = count ∧
      BuildsInTurn keeper (Branches.present step index (candidates.take count))
        (Branches.present step index new) state after := by
  induction candidates generalizing index count built state with
  | nil =>
      rw [SourceFunction.buildSlots] at done
      cases done
      refine ⟨List.replicate count none, ?_, List.length_replicate, ?_⟩
      · rw [Array.toList_append, Array.toList_replicate]
      · rw [Branches.present_replicate_none, List.take_nil]
        exact .done
  | cons candidate rest ih =>
      cases count with
      | zero =>
          rw [SourceFunction.buildSlots] at done
          cases done
          exact ⟨[], (List.append_nil _).symm, rfl, .done⟩
      | succ count =>
          rw [SourceFunction.buildSlots] at done
          split at done
          · cases done
          · rename_i slot mid candidateBuilt
            obtain ⟨new, appended, counted, later⟩ := ih done
            refine ⟨slot :: new, ?_, congrArg (· + 1) counted, ?_⟩
            · rw [appended, Array.toList_push, List.append_assoc, List.singleton_append]
            · rw [List.take_succ_cons, Branches.present_cons, Branches.present_cons]
              exact (of_candidate candidateBuilt).followed later

end BuildsInTurn

namespace SourceFunction

/-! ### Nodes -/

def fillBody (function : SourceFunction) (body : SourceBody) (own : Option RuntimeContext)
    (isInlinee : Bool) (state : BuildState) : Except BuildError (NodeRecord × BuildState) := do
  let keeper : RuntimeKeeper := { body, own }
  let caches := body.record.cacheCount.toNat
  let captured ← state.captureBody body isInlinee function.facts.record
  let inlinees ← buildSlots keeper .inlinee 0 body.record.callSiteCount.toNat #[]
    function.inlinees captured.2
  let inlineeRange ← inlinees.2.pushSlots inlinees.1.toList
  let runtimeId ← inlineeRange.2.captureRuntime own caches
  let typeSpecs ← runtimeId.2.captureTypeSpecs function.facts.typeSpecs caches
  let fields ← buildSlots keeper .fieldInlinee 0 caches #[] function.fieldInlinees typeSpecs.2
  let fieldRange ← fields.2.pushSlots fields.1.toList
  let globals ← fieldRange.2.captureGlobalTypeSpecs function.facts.globalTypeSpecs
  let successor ← buildCandidate keeper .next function.next globals.2
  return ({ captured.1 with
    runtime := some runtimeId.1
    inlinees := inlineeRange.1
    fieldInlinees := fieldRange.1
    typeSpecs := typeSpecs.1
    globalTypeSpecs := globals.1
    next := successor.1 }, successor.2)

/-- What a build does between the allocation of a function's node and the storing of its record. -/
def fill (function : SourceFunction) (runtime : Option RuntimeContext) (isInlinee : Bool)
    (state : BuildState) : Except BuildError (NodeRecord × BuildState) :=
  match function.facts.body with
  | none => .ok (function.facts.record, state)
  | some body =>
      if isInlinee && runtime.isNone then .error .inlineeWithoutRuntime
      else function.fillBody body (if isInlinee then runtime else none) isInlinee state

theorem buildNode_eq_fill (function : SourceFunction) (runtime : Option RuntimeContext)
    (isInlinee : Bool) (state : BuildState) :
    function.buildNode runtime isInlinee state = do
      let node ← state.allocNode
      let filled ← function.fill runtime isInlinee node.2
      let stored ← filled.2.setNode node.1 filled.1
      return (node.1, stored) := by
  cases function with
  | mk facts inlinees fieldInlinees next =>
      rw [buildNode]
      refine congrArg (state.allocNode >>= ·) (funext fun node => ?_)
      rw [fill]
      cases facts.body with
      | none => rfl
      | some body =>
          simp only
          split
          · rfl
          · simp only [fillBody, bind_assoc, pure_bind]

end SourceFunction

section Node

variable {facts : FunctionFacts} {body : SourceBody} {own runtime : Option RuntimeContext}
  {inlinees fieldInlinees : List (Option SourceFunction)} {next : Option SourceFunction}
  {isInlinee : Bool} {id : NodeId} {start last : BuildState} {record : NodeRecord}

theorem fill_body (hasBody : facts.body = some body)
    (filled : SourceFunction.fill ⟨facts, inlinees, fieldInlinees, next⟩ runtime isInlinee state =
      .ok (record, last)) :
    FillsBody facts body (if isInlinee then runtime else none) inlinees fieldInlinees next
      state record last := by
  rw [SourceFunction.fill] at filled
  simp only [hasBody] at filled
  split at filled
  · cases filled
  · rename_i asked
    have inlinee : (if isInlinee then runtime else none).isSome = isInlinee := by
      cases isInlinee with
      | false => rfl
      | true =>
          cases runtime with
          | none => exact absurd rfl asked
          | some own => rfl
    rw [SourceFunction.fillBody] at filled
    obtain ⟨⟨captured, afterBody⟩, capturedBody, filled⟩ := bind_eq_ok.mp filled
    obtain ⟨⟨slots, afterInlinees⟩, builtInlinees, filled⟩ := bind_eq_ok.mp filled
    obtain ⟨⟨inlineeRange, afterSlots⟩, pushedInlinees, filled⟩ := bind_eq_ok.mp filled
    obtain ⟨⟨runtimeId, afterRuntime⟩, capturedRuntime, filled⟩ := bind_eq_ok.mp filled
    obtain ⟨⟨typeSpecs, afterTypeSpecs⟩, capturedTypeSpecs, filled⟩ := bind_eq_ok.mp filled
    obtain ⟨⟨fieldSlots, afterFields⟩, builtFields, filled⟩ := bind_eq_ok.mp filled
    obtain ⟨⟨fieldRange, afterFieldSlots⟩, pushedFields, filled⟩ := bind_eq_ok.mp filled
    obtain ⟨⟨globalTypeSpecs, afterGlobals⟩, capturedGlobals, filled⟩ := bind_eq_ok.mp filled
    obtain ⟨⟨successor, last⟩, builtNext, returned⟩ := bind_eq_ok.mp filled
    cases returned
    refine .steps ?_ builtInlinees pushedInlinees capturedRuntime capturedTypeSpecs builtFields
      pushedFields capturedGlobals builtNext
    rw [inlinee]
    exact capturedBody

theorem buildNode_bodyless (bodyless : facts.body = none)
    (built : SourceFunction.buildNode runtime isInlinee
      ⟨facts, inlinees, fieldInlinees, next⟩ state = .ok (id, after)) :
    ∃ start : Arena, state.arena.allocNode = .ok (id, start) ∧
      start.setNode? id facts.record = some after.arena := by
  rw [SourceFunction.buildNode_eq_fill] at built
  obtain ⟨⟨given, start⟩, allocated, built⟩ := bind_eq_ok.mp built
  rw [SourceFunction.fill] at built
  simp only [bodyless, ok_bind] at built
  obtain ⟨last, stored, returned⟩ := bind_eq_ok.mp built
  cases returned
  exact ⟨start.arena, BuildState.allocNode_arena allocated, setNode_arena stored⟩

theorem buildNode_body (hasBody : facts.body = some body)
    (built : SourceFunction.buildNode runtime isInlinee
      ⟨facts, inlinees, fieldInlinees, next⟩ state = .ok (id, after)) :
    ∃ start record last, state.arena.allocNode = .ok (id, start.arena) ∧
      FillsBody facts body (if isInlinee then runtime else none) inlinees fieldInlinees next
        start record last ∧
        last.arena.setNode? id record = some after.arena := by
  rw [SourceFunction.buildNode_eq_fill] at built
  obtain ⟨⟨given, start⟩, allocated, built⟩ := bind_eq_ok.mp built
  obtain ⟨⟨record, last⟩, filled, built⟩ := bind_eq_ok.mp built
  obtain ⟨stored, storedNode, returned⟩ := bind_eq_ok.mp built
  cases returned
  exact ⟨start, record, last, BuildState.allocNode_arena allocated, fill_body hasBody filled,
    setNode_arena storedNode⟩

end Node

end JitSnapshot
