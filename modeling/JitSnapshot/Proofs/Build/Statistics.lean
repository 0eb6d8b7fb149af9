import JitSnapshot.Proofs.Build.Drains
import JitSnapshot.Proofs.Build.Owned
import JitSnapshot.Proofs.Build.Sequence

set_option autoImplicit false

/-!
The builder's statistics and the lists of the arena. Each capture adds to both
at once, and what it adds can be put together with what later captures add. A
body is added before the slots and the runtime data that it asks for, so these
are still owed while its node is being filled; nothing is owed after a build.
-/

namespace JitSnapshot

def BodyRecord.slotCount (body : BodyRecord) : Nat :=
  body.callSiteCount.toNat + body.cacheCount.toNat

/-- What has been added to the lists of an arena; of some lists only how much. -/
structure Additions where
  nodes : Nat := 0
  bodies : List BodyRecord := []
  runtimes : Nat := 0
  profiles : Nat := 0
  slots : Nat := 0
  typeSpecs : List (Option TypeSpecRecord) := []

namespace Additions

def followed (first second : Additions) : Additions :=
  { nodes := first.nodes + second.nodes
    bodies := first.bodies ++ second.bodies
    runtimes := first.runtimes + second.runtimes
    profiles := first.profiles + second.profiles
    slots := first.slots + second.slots
    typeSpecs := first.typeSpecs ++ second.typeSpecs }

def slotsDue (added : Additions) : Nat :=
  (added.bodies.map BodyRecord.slotCount).sum

theorem slotsDue_followed (first second : Additions) :
    (first.followed second).slotsDue = first.slotsDue + second.slotsDue := by
  rw [slotsDue, followed, List.map_append, List.sum_append]
  rfl

structure Complete (added : Additions) : Prop where
  runtimes : added.runtimes = added.bodies.length
  slots : added.slots = added.slotsDue

theorem complete_none : Complete {} :=
  { runtimes := rfl, slots := rfl }

theorem Complete.followed {first second : Additions} (front : first.Complete)
    (back : second.Complete) : (first.followed second).Complete :=
  { runtimes := by
      rw [Additions.followed, front.runtimes, back.runtimes, List.length_append]
    slots := by
      rw [slotsDue_followed, ← front.slots, ← back.slots, Additions.followed] }

end Additions

/-- The lists have got the additions, and the statistics and the materializer have counted
them. -/
structure Counts (before after : BuildState) (added : Additions) : Prop where
  nodes : after.arena.nodes.size = before.arena.nodes.size + added.nodes
  bodies : after.arena.bodies.toList = before.arena.bodies.toList ++ added.bodies
  runtimes : after.arena.runtimes.size = before.arena.runtimes.size + added.runtimes
  profiles : after.arena.profiles.size = before.arena.profiles.size + added.profiles
  slots : after.arena.slots.size = before.arena.slots.size + added.slots
  typeSpecs : after.arena.typeSpecs.toList = before.arena.typeSpecs.toList ++ added.typeSpecs
  nodesCounted : after.stats.nodes = before.stats.nodes + added.nodes
  bodiesCounted : after.stats.bodies = before.stats.bodies + added.bodies.length
  profilesCounted : after.stats.profiles = before.stats.profiles + added.profiles
  profilesFilled :
    after.materialized.profiles = before.materialized.profiles + added.profiles
  typeSpecsCounted : after.stats.typeSpecs =
    before.stats.typeSpecs + added.typeSpecs.countP Option.isSome
  batches : after.materialized.typeSpecBatches.toList.sum =
    before.materialized.typeSpecBatches.toList.sum + added.typeSpecs.length

namespace Counts

variable {before mid after : BuildState} {first second added : Additions}

theorem refl (state : BuildState) : Counts state state {} :=
  { nodes := rfl
    bodies := (List.append_nil _).symm
    runtimes := rfl
    profiles := rfl
    slots := rfl
    typeSpecs := (List.append_nil _).symm
    nodesCounted := rfl
    bodiesCounted := rfl
    profilesCounted := rfl
    profilesFilled := rfl
    typeSpecsCounted := rfl
    batches := rfl }

theorem followed (front : Counts before mid first) (back : Counts mid after second) :
    Counts before after (first.followed second) :=
  { nodes := by rw [back.nodes, front.nodes, Nat.add_assoc]; rfl
    bodies := by rw [back.bodies, front.bodies, List.append_assoc]; rfl
    runtimes := by rw [back.runtimes, front.runtimes, Nat.add_assoc]; rfl
    profiles := by rw [back.profiles, front.profiles, Nat.add_assoc]; rfl
    slots := by rw [back.slots, front.slots, Nat.add_assoc]; rfl
    typeSpecs := by rw [back.typeSpecs, front.typeSpecs, List.append_assoc]; rfl
    nodesCounted := by rw [back.nodesCounted, front.nodesCounted, Nat.add_assoc]; rfl
    bodiesCounted := by
      rw [back.bodiesCounted, front.bodiesCounted, Nat.add_assoc, ← List.length_append]
      rfl
    profilesCounted := by rw [back.profilesCounted, front.profilesCounted, Nat.add_assoc]; rfl
    profilesFilled := by rw [back.profilesFilled, front.profilesFilled, Nat.add_assoc]; rfl
    typeSpecsCounted := by
      rw [back.typeSpecsCounted, front.typeSpecsCounted, Nat.add_assoc, ← List.countP_append]
      rfl
    batches := by
      rw [back.batches, front.batches, Nat.add_assoc, ← List.length_append]
      rfl }

end Counts

/-! ### Captures -/

namespace BuildState

variable {state after : BuildState} {own : Option RuntimeContext} {body : SourceBody}
  {isInlinee : Bool} {record captured : NodeRecord}

private theorem allocNode_counts {id : NodeId} (allocated : state.allocNode = .ok (id, after)) :
    Counts state after { nodes := 1 } := by
  obtain ⟨_, rfl⟩ := allocNode_eq_ok_iff.mp allocated
  exact
    { Counts.refl state with
      nodes := Array.size_push _
      nodesCounted := rfl }

private theorem pushBody_counts {stored : BodyRecord} {id : BodyId}
    (done : state.pushBody stored = .ok (id, after)) :
    Counts state after { bodies := [stored] } := by
  obtain ⟨_, rfl⟩ := pushBody_eq_ok_iff.mp done
  exact
    { Counts.refl state with
      bodies := Array.toList_push
      bodiesCounted := rfl }

private theorem pushRuntime_counts {stored : RuntimeRecord} {id : RuntimeId}
    (done : state.pushRuntime stored = .ok (id, after)) :
    Counts state after { runtimes := 1 } := by
  obtain ⟨_, rfl⟩ := pushRuntime_eq_ok_iff.mp done
  exact { Counts.refl state with runtimes := Array.size_push _ }

private theorem pushProfile_counts {source : BodyRecord} {id : ProfileId}
    (done : state.pushProfile source = .ok (id, after)) :
    Counts state after { profiles := 1 } := by
  obtain ⟨_, rfl⟩ := pushProfile_eq_ok_iff.mp done
  exact
    { Counts.refl state with
      profiles := Array.size_push _
      profilesCounted := rfl
      profilesFilled := rfl }

private theorem pushSlots_counts {slots : List Slot} {range : SlotRange}
    (done : state.pushSlots slots = .ok (range, after)) :
    Counts state after { slots := slots.length } := by
  obtain ⟨_, rfl⟩ := pushSlots_eq_ok_iff.mp done
  exact { Counts.refl state with slots := ListRange.size_appendList _ _ }

private theorem pushAddresses_counts {addresses : List Address} {range : AddressRange}
    (done : state.pushAddresses addresses = .ok (range, after)) : Counts state after {} := by
  obtain ⟨_, rfl⟩ := pushAddresses_eq_ok_iff.mp done
  exact { Counts.refl state with }

private theorem pushGuards_counts {guards : GuardSet} {range : GuardRange}
    (done : state.pushGuards guards = .ok (range, after)) : Counts state after {} := by
  obtain ⟨_, rfl⟩ := pushGuards_eq_ok_iff.mp done
  exact { Counts.refl state with }

private theorem pushTypeSpecs_counts {sources : List (Option Address)} {count : Nat}
    {range : TypeSpecRange} (done : state.pushTypeSpecs sources count = .ok (range, after)) :
    ∃ typeSpecs, Counts state after { typeSpecs } := by
  obtain ⟨enough, typeSpecs, isTaken, _, rfl⟩ := pushTypeSpecs_eq_ok_iff.mp done
  have length : typeSpecs.length = count := by
    rw [isTaken, List.length_map, List.length_take, Nat.min_eq_left enough]
  refine ⟨typeSpecs,
    { Counts.refl state with
      typeSpecs := ListRange.toList_appendList _ _
      typeSpecsCounted := rfl
      batches := ?_ }⟩
  simp only [Array.toList_push, List.sum_append, List.sum_singleton, length]

private theorem setNode_counts {id : NodeId} (stored : state.setNode id record = .ok after) :
    Counts state after {} := by
  obtain ⟨within, rfl⟩ := exists_set_of_setNode stored
  exact { Counts.refl state with nodes := Array.size_set within }

private theorem captureEntryPoint_counts {entryPoint : EntryPoint}
    (done : state.captureEntryPoint entryPoint record = .ok (captured, after)) :
    Counts state after {} := by
  rcases captureEntryPoint_cases done with ⟨_, _, rfl⟩ | ⟨_, _, _, _, pushed⟩
  · exact .refl _
  · exact pushGuards_counts pushed

/-- A body is added, and its profile if it has been profiled. -/
private theorem captureBody_counts
    (done : state.captureBody body isInlinee record = .ok (captured, after)) :
    ∃ stored profiles, stored.slotCount = body.record.slotCount ∧
      Counts state after { bodies := [stored], profiles } := by
  rcases captureBody_cases done with ⟨_, _, _, pushedBody⟩ |
    ⟨_, profile, copied, _, entered, _, _, pushedProfile, captures, pushedBody⟩
  · exact ⟨{ body.record with profile := none }, 0, rfl, pushBody_counts pushedBody⟩
  · have copying := pushProfile_counts pushedProfile
    have storing := pushBody_counts pushedBody
    refine ⟨{ body.record with profile := some profile }, 1, rfl, ?_⟩
    cases isInlinee with
    | false =>
        cases captures
        exact copying.followed storing
    | true => exact (copying.followed (captureEntryPoint_counts captures)).followed storing

private theorem captureRuntime_counts {id : RuntimeId}
    (done : state.captureRuntime own body.record.cacheCount.toNat = .ok (id, after)) :
    Counts state after { runtimes := 1 } := by
  rcases captureRuntime_cases done with ⟨_, pushed⟩ | ⟨_, _, pushedClones, pushedRuntime⟩
  · exact pushRuntime_counts pushed
  · exact (pushAddresses_counts pushedClones).followed (pushRuntime_counts pushedRuntime)

private theorem captureTypeSpecs_counts {sources : Option (List (Option Address))} {caches : Nat}
    {range : TypeSpecRange} (done : state.captureTypeSpecs sources caches = .ok (range, after)) :
    ∃ typeSpecs, Counts state after { typeSpecs } := by
  rcases captureTypeSpecs_cases done with ⟨_, _, rfl⟩ | ⟨_, _, pushed⟩
  · exact ⟨[], .refl _⟩
  · exact pushTypeSpecs_counts pushed

private theorem captureGlobalTypeSpecs_counts {sources : List (Option Address)}
    {range : TypeSpecRange} (done : state.captureGlobalTypeSpecs sources = .ok (range, after)) :
    ∃ typeSpecs, Counts state after { typeSpecs } := by
  rcases captureGlobalTypeSpecs_cases done with ⟨_, _, rfl⟩ | pushed
  · exact ⟨[], .refl _⟩
  · exact pushTypeSpecs_counts pushed

end BuildState

/-! ### The recursion -/

/-- Something has been added and counted, and nothing is owed. -/
def CountsAll (before after : BuildState) : Prop :=
  ∃ added, Counts before after added ∧ added.Complete

namespace CountsAll

variable {before mid after : BuildState}

theorem refl (state : BuildState) : CountsAll state state :=
  ⟨{}, .refl state, Additions.complete_none⟩

theorem followed (front : CountsAll before mid) (back : CountsAll mid after) :
    CountsAll before after := by
  obtain ⟨first, countsFirst, firstComplete⟩ := front
  obtain ⟨second, countsSecond, secondComplete⟩ := back
  exact ⟨_, countsFirst.followed countsSecond, firstComplete.followed secondComplete⟩

/-- Requests are not counted. -/
theorem of_sameButReads (state : BuildState) (reads : List Read) :
    CountsAll state { state with reads } :=
  ⟨{}, { Counts.refl state with }, Additions.complete_none⟩

end CountsAll

def SourceFunction.CountsExactly (function : SourceFunction) : Prop :=
  ∀ (runtime : Option RuntimeContext) (isInlinee : Bool) (state after : BuildState)
    (id : NodeId), function.buildNode runtime isInlinee state = .ok (id, after) →
      CountsAll state after

variable {keeper : RuntimeKeeper} {state after : BuildState}

theorem BuildsInTurn.counts {captures : List (Step × SourceFunction)}
    {nodes : List (Step × NodeId)}
    (exactly : ∀ capture ∈ captures, capture.2.CountsExactly)
    (builds : BuildsInTurn keeper captures nodes state after) : CountsAll state after := by
  induction builds with
  | done => exact .refl _
  | @step _ _ _ _ _ _ start asked mid _ asks node _ ih =>
      obtain ⟨reads, sameButReads⟩ := RuntimeKeeper.state_of_ask asks
      have quietly : CountsAll start asked := by
        rw [sameButReads]
        exact .of_sameButReads start reads
      have building := exactly _ List.mem_cons_self _ _ _ _ _ node
      exact (quietly.followed building).followed
        (ih fun capture member => exactly capture (List.mem_cons_of_mem _ member))

section Node

variable {facts : FunctionFacts} {body : SourceBody} {own : Option RuntimeContext}
  {inlinees fieldInlinees : List (Option SourceFunction)} {next : Option SourceFunction}
  {start last : BuildState} {record : NodeRecord}

/-- The body owes its runtime data and its slots until all captures have been made. -/
theorem FillsBody.counts
    (exactly : ∀ candidate,
      SourceFunction.HasCandidate ⟨facts, inlinees, fieldInlinees, next⟩ candidate →
        candidate.CountsExactly)
    (fills : FillsBody facts body own inlinees fieldInlinees next start record last) :
    CountsAll start last := by
  cases fills with
  | steps capturedBody builtInlinees pushedInlinees capturedRuntime capturedTypeSpecs builtFields
      pushedFields capturedGlobals builtNext =>
      obtain ⟨stored, profiles, sameCount, countsBody⟩ :=
        BuildState.captureBody_counts capturedBody
      obtain ⟨new, inlineesAppended, inlineeCount, buildsInlinees⟩ :=
        BuildsInTurn.of_slots builtInlinees
      obtain ⟨inlineesAdded, countsInlinees, inlineesComplete⟩ :=
        buildsInlinees.counts fun capture member =>
          exactly capture.2 (Or.inl (Branches.mem_of_mem_present_take member))
      have countsSlots := BuildState.pushSlots_counts pushedInlinees
      have countsRuntime := BuildState.captureRuntime_counts capturedRuntime
      obtain ⟨_, countsTypeSpecs⟩ := BuildState.captureTypeSpecs_counts capturedTypeSpecs
      obtain ⟨newFields, fieldsAppended, fieldCount, buildsFields⟩ :=
        BuildsInTurn.of_slots builtFields
      obtain ⟨fieldsAdded, countsFields, fieldsComplete⟩ :=
        buildsFields.counts fun capture member =>
          exactly capture.2 (Or.inr (Or.inl (Branches.mem_of_mem_present_take member)))
      have countsFieldSlots := BuildState.pushSlots_counts pushedFields
      obtain ⟨_, countsGlobals⟩ := BuildState.captureGlobalTypeSpecs_counts capturedGlobals
      obtain ⟨nextAdded, countsNext, nextComplete⟩ :=
        (BuildsInTurn.of_candidate builtNext).counts fun capture member =>
          exactly capture.2 (Or.inr (Or.inr (Branches.eq_some_of_mem_map member)))
      rw [inlineesAppended, Array.toList_empty, List.nil_append, inlineeCount] at countsSlots
      rw [fieldsAppended, Array.toList_empty, List.nil_append, fieldCount] at countsFieldSlots
      have countsInlineeParts := (countsBody.followed countsInlinees).followed countsSlots
      have countsOwn := (countsInlineeParts.followed countsRuntime).followed countsTypeSpecs
      have countsFieldParts := (countsOwn.followed countsFields).followed countsFieldSlots
      refine ⟨_, (countsFieldParts.followed countsGlobals).followed countsNext, ?_⟩
      have inlineeSlots := inlineesComplete.slots
      have fieldSlotsAdded := fieldsComplete.slots
      have nextSlots := nextComplete.slots
      have inlineeRuntimes := inlineesComplete.runtimes
      have fieldRuntimes := fieldsComplete.runtimes
      have nextRuntimes := nextComplete.runtimes
      constructor
      · simp only [Additions.followed, List.length_append, List.length_singleton, List.length_nil]
        omega
      · have ofBody : stored.slotCount =
            body.record.callSiteCount.toNat + body.record.cacheCount.toNat := sameCount
        simp only [Additions.slotsDue_followed]
        simp only [Additions.followed, Additions.slotsDue, List.map_cons, List.map_nil,
          List.sum_cons, List.sum_nil] at inlineeSlots fieldSlotsAdded nextSlots ⊢
        omega

end Node

theorem SourceFunction.countsExactly (function : SourceFunction) : function.CountsExactly := by
  induction function using candidate_induction with
  | pass function ih =>
      intro runtime isInlinee state after id built
      rw [buildNode_eq_fill] at built
      obtain ⟨⟨given, start⟩, allocated, built⟩ := bind_eq_ok.mp built
      obtain ⟨⟨record, last⟩, filled, built⟩ := bind_eq_ok.mp built
      obtain ⟨stored, storedNode, returned⟩ := bind_eq_ok.mp built
      cases returned
      have allocating : CountsAll state start :=
        ⟨_, BuildState.allocNode_counts allocated, { runtimes := rfl, slots := rfl }⟩
      have storing : CountsAll last after :=
        ⟨{}, BuildState.setNode_counts storedNode, Additions.complete_none⟩
      cases function with
      | mk facts inlinees fieldInlinees next =>
          cases hasBody : facts.body with
          | none =>
              rw [fill] at filled
              simp only [hasBody] at filled
              cases filled
              exact allocating.followed storing
          | some body =>
              exact (allocating.followed ((fill_body hasBody filled).counts ih)).followed storing

/-! ### Builds -/

theorem BuildState.build_counts {function : SourceFunction} {runtime : Option RuntimeContext}
    {isInlinee : Bool} {id : NodeId}
    (built : state.build function runtime isInlinee = .ok (id, after)) :
    CountsAll state after :=
  (CountsAll.of_sameButReads state []).followed
    (function.countsExactly runtime isInlinee _ after id built)

variable {requests : List BuildRequest} {roots : List NodeId}

theorem BuildState.buildAll_counts (built : state.buildAll requests = .ok (roots, after)) :
    CountsAll state after ∧ ∃ drained cloned, Drains state after drained cloned := by
  induction requests generalizing state roots with
  | nil =>
      rw [buildAll] at built
      cases built
      exact ⟨.refl _, [], [], .of_same rfl rfl rfl⟩
  | cons request rest ih =>
      rw [buildAll] at built
      obtain ⟨⟨root, mid⟩, first, built⟩ := bind_eq_ok.mp built
      obtain ⟨⟨later, last⟩, following, returned⟩ := bind_eq_ok.mp built
      cases returned
      obtain ⟨counts, drained, cloned, drains⟩ := ih following
      exact ⟨(build_counts first).followed counts, _, _, (build_drains first).followed drains⟩

/-- What has been built after some of the requests. -/
theorem BuildState.buildAll_take (built : state.buildAll requests = .ok (roots, after))
    (count : Nat) :
    ∃ mid, state.buildAll (requests.take count) = .ok (roots.take count, mid) := by
  induction requests generalizing state roots count with
  | nil =>
      rw [buildAll] at built
      cases built
      rw [List.take_nil, List.take_nil, buildAll]
      exact ⟨_, rfl⟩
  | cons request rest ih =>
      cases count with
      | zero =>
          rw [List.take_zero, List.take_zero, buildAll]
          exact ⟨_, rfl⟩
      | succ count =>
          rw [buildAll] at built
          obtain ⟨⟨root, mid⟩, first, built⟩ := bind_eq_ok.mp built
          obtain ⟨⟨later, last⟩, following, returned⟩ := bind_eq_ok.mp built
          cases returned
          obtain ⟨partway, taken⟩ := ih following count
          refine ⟨partway, ?_⟩
          rw [List.take_succ_cons, List.take_succ_cons, buildAll, first, ok_bind]
          simp only [taken, ok_bind]
          rfl

/-- The figures of a builder and of its materializer say what the arena has got since they
were created. -/
structure StatsExact (initial : Arena) (state : BuildState) : Prop where
  nodes : state.arena.nodes.size = initial.nodes.size + state.stats.nodes
  bodies : state.arena.bodies.size = initial.bodies.size + state.stats.bodies
  runtimes : state.arena.runtimes.size = initial.runtimes.size + state.stats.bodies
  profiles : state.arena.profiles.size = initial.profiles.size + state.stats.profiles
  filled : state.materialized.profiles = state.stats.profiles
  guards : state.arena.guards.size = initial.guards.size + state.stats.guards
  typeSpecs : ∃ added, state.arena.typeSpecs.toList = initial.typeSpecs.toList ++ added ∧
    state.stats.typeSpecs = added.countP Option.isSome ∧
      state.materialized.typeSpecBatches.toList.sum = added.length
  slots : ∃ added, state.arena.bodies.toList = initial.bodies.toList ++ added ∧
    state.arena.slots.size = initial.slots.size + (added.map BodyRecord.slotCount).sum

private theorem statsExact_of_counts {initial : Arena} {drained : List PropertyId}
    {cloned : List Address} (counts : CountsAll (.start initial) state)
    (drains : Drains (.start initial) state drained cloned) : StatsExact initial state := by
  obtain ⟨added, counted, complete⟩ := counts
  have bodyCount := counted.bodiesCounted
  have nodeCount := counted.nodesCounted
  have profileCount := counted.profilesCounted
  have filled := counted.profilesFilled
  have guardCount := drains.counted
  have typeSpecCount := counted.typeSpecsCounted
  have batches := counted.batches
  simp only [BuildState.start, Nat.zero_add, List.sum_nil]
    at bodyCount nodeCount profileCount filled guardCount typeSpecCount batches
  refine
    { nodes := by rw [nodeCount]; exact counted.nodes
      bodies := ?_
      runtimes := by rw [bodyCount, ← complete.runtimes]; exact counted.runtimes
      profiles := by rw [profileCount]; exact counted.profiles
      filled := by rw [filled, profileCount]
      guards := ?_
      typeSpecs := ⟨added.typeSpecs, counted.typeSpecs, typeSpecCount, batches⟩
      slots := ⟨added.bodies, counted.bodies, ?_⟩ }
  · rw [bodyCount, ← Array.length_toList, counted.bodies, List.length_append]
    rfl
  · rw [guardCount, ← Array.length_toList, drains.guards, List.length_append]
    rfl
  · rw [counted.slots, complete.slots]
    rfl

/-- After each of a sequence of builds by one builder, its statistics and the record of its
materializer are those of what has been added to the arena, whatever it held before. -/
theorem BuildState.buildAll_stats_exact {initial : Arena}
    (built : (start initial).buildAll requests = .ok (roots, after)) (count : Nat) :
    ∃ state, (start initial).buildAll (requests.take count) = .ok (roots.take count, state) ∧
      StatsExact initial state := by
  obtain ⟨state, partway⟩ := buildAll_take built count
  obtain ⟨counts, _, _, drains⟩ := buildAll_counts partway
  exact ⟨state, partway, statsExact_of_counts counts drains⟩

def pairedThenTwo : List BuildRequest :=
  [{ function := pairedCaller, runtime := some { clonedCaches := [⟨5⟩] }, isInlinee := true },
    { function := callerOfTwo }]

theorem buildAll_stats_exact_pairedThenTwo :
    ∃ roots after first, (BuildState.start occupied).buildAll pairedThenTwo = .ok (roots, after) ∧
      (BuildState.start occupied).buildAll (pairedThenTwo.take 1) = .ok (roots.take 1, first) ∧
        first.stats = { nodes := 2, bodies := 2, profiles := 1, guards := 1, typeSpecs := 2 } ∧
          StatsExact occupied first ∧ StatsExact occupied after := by
  have whole : ((BuildState.start occupied).buildAll pairedThenTwo).toOption.map Prod.fst =
      some [⟨1⟩, ⟨3⟩] := by decide +kernel
  have front : ((BuildState.start occupied).buildAll (pairedThenTwo.take 1)).toOption.map
      (fun built => built.2.stats) =
        some { nodes := 2, bodies := 2, profiles := 1, guards := 1, typeSpecs := 2 } := by
    decide +kernel
  obtain ⟨⟨roots, after⟩, built, rfl⟩ := exists_ok_of_outcome whole
  obtain ⟨first, partway, exactFirst⟩ := BuildState.buildAll_stats_exact built 1
  obtain ⟨last, toEnd, exactLast⟩ := BuildState.buildAll_stats_exact built 2
  have same : last = after := congrArg Prod.snd (Except.ok.inj (toEnd.symm.trans built))
  rw [partway] at front
  exact ⟨_, after, first, built, partway, Option.some.inj front, exactFirst, same ▸ exactLast⟩

end JitSnapshot
