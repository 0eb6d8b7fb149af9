import JitSnapshot.Proofs.Build.Tree

set_option autoImplicit false

/-!
Which shared guards and which cloned caches a build adds. Only the function it
was asked for can have any, and only as an inlinee: all that is built below is
built as anything but an inlinee, and adds nothing to either list.
-/

namespace JitSnapshot

/-- The guards and the clones have been added behind what was there, and the guards counted. -/
structure Drains (before after : BuildState) (drained : List PropertyId)
    (cloned : List Address) : Prop where
  guards : after.arena.guards.toList = before.arena.guards.toList ++ drained
  addresses : after.arena.addresses.toList = before.arena.addresses.toList ++ cloned
  counted : after.stats.guards = before.stats.guards + drained.length

namespace Drains

variable {before mid after : BuildState} {drained laterDrained : List PropertyId}
  {cloned laterCloned : List Address}

/-- Nothing has been added to either list. -/
theorem of_same (guards : after.arena.guards = before.arena.guards)
    (addresses : after.arena.addresses = before.arena.addresses)
    (counted : after.stats.guards = before.stats.guards) : Drains before after [] [] :=
  { guards := by rw [guards, List.append_nil]
    addresses := by rw [addresses, List.append_nil]
    counted := counted }

theorem followed (first : Drains before mid drained cloned)
    (second : Drains mid after laterDrained laterCloned) :
    Drains before after (drained ++ laterDrained) (cloned ++ laterCloned) :=
  { guards := by rw [second.guards, first.guards, List.append_assoc]
    addresses := by rw [second.addresses, first.addresses, List.append_assoc]
    counted := by rw [second.counted, first.counted, List.length_append, Nat.add_assoc] }

theorem quiet (drains : Drains before mid drained cloned) (later : Drains mid after [] []) :
    Drains before after drained cloned := by
  have both := drains.followed later
  rwa [List.append_nil, List.append_nil] at both

/-- Where nothing has been added the lists are what they were. -/
theorem same (drains : Drains before after [] []) :
    after.arena.guards = before.arena.guards ∧ after.arena.addresses = before.arena.addresses :=
  ⟨Array.toList_inj.mp (drains.guards.trans (List.append_nil _)),
    Array.toList_inj.mp (drains.addresses.trans (List.append_nil _))⟩

end Drains

/-! ### Single additions -/

namespace BuildState

variable {state after : BuildState} {own : Option RuntimeContext} {body : SourceBody}
  {isInlinee : Bool} {record captured : NodeRecord}

theorem allocNode_drains {id : NodeId} (allocated : state.allocNode = .ok (id, after)) :
    Drains state after [] [] := by
  obtain ⟨_, rfl⟩ := allocNode_eq_ok_iff.mp allocated
  exact .of_same rfl rfl rfl

theorem pushBody_drains {stored : BodyRecord} {id : BodyId}
    (done : state.pushBody stored = .ok (id, after)) : Drains state after [] [] := by
  obtain ⟨_, rfl⟩ := pushBody_eq_ok_iff.mp done
  exact .of_same rfl rfl rfl

theorem pushRuntime_drains {stored : RuntimeRecord} {id : RuntimeId}
    (done : state.pushRuntime stored = .ok (id, after)) : Drains state after [] [] := by
  obtain ⟨_, rfl⟩ := pushRuntime_eq_ok_iff.mp done
  exact .of_same rfl rfl rfl

theorem pushProfile_drains {source : BodyRecord} {id : ProfileId}
    (done : state.pushProfile source = .ok (id, after)) : Drains state after [] [] := by
  obtain ⟨_, rfl⟩ := pushProfile_eq_ok_iff.mp done
  exact .of_same rfl rfl rfl

theorem pushSlots_drains {slots : List Slot} {range : SlotRange}
    (done : state.pushSlots slots = .ok (range, after)) : Drains state after [] [] := by
  obtain ⟨_, rfl⟩ := pushSlots_eq_ok_iff.mp done
  exact .of_same rfl rfl rfl

theorem pushAddresses_drains {addresses : List Address} {range : AddressRange}
    (done : state.pushAddresses addresses = .ok (range, after)) :
    Drains state after [] addresses := by
  obtain ⟨_, rfl⟩ := pushAddresses_eq_ok_iff.mp done
  exact
    { guards := (List.append_nil _).symm
      addresses := ListRange.toList_appendList _ _
      counted := rfl }

theorem pushGuards_drains {guards : GuardSet} {range : GuardRange}
    (done : state.pushGuards guards = .ok (range, after)) :
    Drains state after guards.members [] := by
  obtain ⟨_, rfl⟩ := pushGuards_eq_ok_iff.mp done
  exact
    { guards := ListRange.toList_appendList _ _
      addresses := (List.append_nil _).symm
      counted := rfl }

theorem pushTypeSpecs_drains {sources : List (Option Address)} {count : Nat}
    {range : TypeSpecRange} (done : state.pushTypeSpecs sources count = .ok (range, after)) :
    Drains state after [] [] := by
  obtain ⟨_, _, _, _, rfl⟩ := pushTypeSpecs_eq_ok_iff.mp done
  exact .of_same rfl rfl rfl

theorem setNode_drains {id : NodeId} (stored : state.setNode id record = .ok after) :
    Drains state after [] [] := by
  obtain ⟨_, rfl⟩ := exists_set_of_setNode stored
  exact .of_same rfl rfl rfl

/-! ### Captures -/

theorem captureEntryPoint_drains {entryPoint : EntryPoint}
    (done : state.captureEntryPoint entryPoint record = .ok (captured, after)) :
    Drains state after entryPoint.guardIds [] := by
  rcases captureEntryPoint_cases done with ⟨nothing, _, rfl⟩ | ⟨guards, _, members, _, pushed⟩
  · rw [nothing]
    exact .of_same rfl rfl rfl
  · rw [members]
    exact pushGuards_drains pushed

theorem captureBody_drains (inlinee : own.isSome = isInlinee)
    (done : state.captureBody body isInlinee record = .ok (captured, after)) :
    Drains state after (body.guardsFor own) [] := by
  unfold SourceBody.guardsFor SourceBody.entryPointFor
  rw [inlinee]
  rcases captureBody_cases done with ⟨profiled, _, _, pushedBody⟩ |
    ⟨profiled, _, copied, _, entered, _, _, pushedProfile, captures, pushedBody⟩
  · rw [profiled, Bool.and_false]
    exact pushBody_drains pushedBody
  · rw [profiled]
    have copying := pushProfile_drains pushedProfile
    have storing := pushBody_drains pushedBody
    cases isInlinee with
    | false =>
        cases captures
        exact copying.quiet storing
    | true => exact (copying.followed (captureEntryPoint_drains captures)).quiet storing

theorem captureRuntime_drains {id : RuntimeId}
    (done : state.captureRuntime own body.record.cacheCount.toNat = .ok (id, after)) :
    Drains state after [] (body.clonedCachesFor own) := by
  rcases captureRuntime_cases done with
    ⟨nothing, pushed⟩ | ⟨_, _, pushedClones, pushedRuntime⟩
  · rw [nothing]
    exact pushRuntime_drains pushed
  · exact (pushAddresses_drains pushedClones).quiet (pushRuntime_drains pushedRuntime)

theorem captureTypeSpecs_drains {sources : Option (List (Option Address))} {caches : Nat}
    {range : TypeSpecRange} (done : state.captureTypeSpecs sources caches = .ok (range, after)) :
    Drains state after [] [] := by
  rcases captureTypeSpecs_cases done with ⟨_, _, rfl⟩ | ⟨_, _, pushed⟩
  · exact .of_same rfl rfl rfl
  · exact pushTypeSpecs_drains pushed

theorem captureGlobalTypeSpecs_drains {sources : List (Option Address)} {range : TypeSpecRange}
    (done : state.captureGlobalTypeSpecs sources = .ok (range, after)) :
    Drains state after [] [] := by
  rcases captureGlobalTypeSpecs_cases done with ⟨_, _, rfl⟩ | pushed
  · exact .of_same rfl rfl rfl
  · exact pushTypeSpecs_drains pushed

end BuildState

/-! ### The recursion -/

namespace SourceFunction

def guardsFor (own : Option RuntimeContext) (function : SourceFunction) : List PropertyId :=
  match function.facts.body with
  | none => []
  | some body => body.guardsFor own

def clonedCachesFor (own : Option RuntimeContext) (function : SourceFunction) : List Address :=
  match function.facts.body with
  | none => []
  | some body => body.clonedCachesFor own

theorem guardsFor_none (function : SourceFunction) : function.guardsFor none = [] := by
  unfold guardsFor
  cases function.facts.body <;> rfl

theorem clonedCachesFor_none (function : SourceFunction) : function.clonedCachesFor none = [] := by
  unfold clonedCachesFor
  cases function.facts.body <;> rfl

def DrainsExactly (function : SourceFunction) : Prop :=
  ∀ (runtime : Option RuntimeContext) (isInlinee : Bool) (state after : BuildState)
    (id : NodeId), function.buildNode runtime isInlinee state = .ok (id, after) →
      Drains state after (function.guardsFor (if isInlinee then runtime else none))
        (function.clonedCachesFor (if isInlinee then runtime else none))

end SourceFunction

variable {keeper : RuntimeKeeper} {state after : BuildState}

/-- Candidates are not built as inlinees, so they have nothing to add. -/
theorem BuildsInTurn.drains {captures : List (Step × SourceFunction)}
    {nodes : List (Step × NodeId)}
    (exactly : ∀ capture ∈ captures, capture.2.DrainsExactly)
    (builds : BuildsInTurn keeper captures nodes state after) : Drains state after [] [] := by
  induction builds with
  | done => exact .of_same rfl rfl rfl
  | @step _ function _ _ _ _ start asked mid _ asks node _ ih =>
      obtain ⟨reads, sameButReads⟩ := RuntimeKeeper.state_of_ask asks
      have quietly : Drains start asked [] [] := by
        rw [sameButReads]
        exact .of_same rfl rfl rfl
      have building := exactly _ List.mem_cons_self _ _ _ _ _ node
      simp only [Bool.false_eq_true, if_false, function.guardsFor_none,
        function.clonedCachesFor_none] at building
      have later := ih fun capture member => exactly capture (List.mem_cons_of_mem _ member)
      exact (quietly.quiet building).quiet later

section Node

variable {facts : FunctionFacts} {body : SourceBody} {own : Option RuntimeContext}
  {inlinees fieldInlinees : List (Option SourceFunction)} {next : Option SourceFunction}
  {start last : BuildState} {record : NodeRecord}

theorem FillsBody.drains
    (exactly : ∀ candidate,
      SourceFunction.HasCandidate ⟨facts, inlinees, fieldInlinees, next⟩ candidate →
        candidate.DrainsExactly)
    (fills : FillsBody facts body own inlinees fieldInlinees next start record last) :
    Drains start last (body.guardsFor own) (body.clonedCachesFor own) := by
  cases fills with
  | steps capturedBody builtInlinees pushedInlinees capturedRuntime capturedTypeSpecs builtFields
      pushedFields capturedGlobals builtNext =>
      obtain ⟨_, _, _, buildsInlinees⟩ := BuildsInTurn.of_slots builtInlinees
      obtain ⟨_, _, _, buildsFields⟩ := BuildsInTurn.of_slots builtFields
      have inlineesQuiet := buildsInlinees.drains fun capture member =>
        exactly capture.2 (Or.inl (Branches.mem_of_mem_present_take member))
      have fieldsQuiet := buildsFields.drains fun capture member =>
        exactly capture.2 (Or.inr (Or.inl (Branches.mem_of_mem_present_take member)))
      have nextQuiet := (BuildsInTurn.of_candidate builtNext).drains fun capture member =>
        exactly capture.2 (Or.inr (Or.inr (Branches.eq_some_of_mem_map member)))
      have guards := ((BuildState.captureBody_drains rfl capturedBody).quiet inlineesQuiet).quiet
        (BuildState.pushSlots_drains pushedInlinees)
      have drained := guards.followed (BuildState.captureRuntime_drains capturedRuntime)
      rw [List.append_nil, List.nil_append] at drained
      have toFields := (drained.quiet (BuildState.captureTypeSpecs_drains capturedTypeSpecs)).quiet
        fieldsQuiet
      exact ((toFields.quiet (BuildState.pushSlots_drains pushedFields)).quiet
        (BuildState.captureGlobalTypeSpecs_drains capturedGlobals)).quiet nextQuiet

end Node

theorem SourceFunction.drainsExactly (function : SourceFunction) : function.DrainsExactly := by
  induction function using candidate_induction with
  | pass function ih =>
      intro runtime isInlinee state after id built
      rw [buildNode_eq_fill] at built
      obtain ⟨⟨given, start⟩, allocated, built⟩ := bind_eq_ok.mp built
      obtain ⟨⟨record, last⟩, filled, built⟩ := bind_eq_ok.mp built
      obtain ⟨stored, storedNode, returned⟩ := bind_eq_ok.mp built
      cases returned
      have allocating := BuildState.allocNode_drains allocated
      have storing := BuildState.setNode_drains storedNode
      cases function with
      | mk facts inlinees fieldInlinees next =>
          cases hasBody : facts.body with
          | none =>
              rw [fill] at filled
              simp only [hasBody] at filled
              cases filled
              simp only [guardsFor, clonedCachesFor, hasBody]
              exact allocating.quiet storing
          | some body =>
              have drains := (fill_body hasBody filled).drains ih
              simp only [guardsFor, clonedCachesFor, hasBody]
              exact (allocating.followed drains).quiet storing

/-- A build that succeeds has added the function's own guards and clones, and no others. -/
theorem BuildState.build_drains {function : SourceFunction} {runtime : Option RuntimeContext}
    {isInlinee : Bool} {id : NodeId}
    (built : state.build function runtime isInlinee = .ok (id, after)) :
    Drains state after (function.guardsFor (if isInlinee then runtime else none))
      (function.clonedCachesFor (if isInlinee then runtime else none)) := by
  have forgotten : Drains state { state with reads := [] } [] [] := .of_same rfl rfl rfl
  exact forgotten.followed (function.drainsExactly runtime isInlinee _ after id built)

end JitSnapshot
