import JitSnapshot.Proofs.Arena.Accounts
import JitSnapshot.Proofs.Build.Relocatable
import JitSnapshot.View.Runtime

set_option autoImplicit false

/-!
What a build owns. Every record that a build adds names something that was
added in the same build and is named by no other record, and nothing that was
added is left without one that names it.
-/

namespace JitSnapshot

private theorem holding_nil (field other : Field) : holding field [] other = [] :=
  ite_self _

namespace BuildState

variable {state after : BuildState} {facts : FunctionFacts} {record captured : NodeRecord}

/-! ### Captures -/

private theorem pushGuards_accounted {guards : GuardSet} {range : GuardRange}
    (done : state.pushGuards guards = .ok (range, after)) :
    Accounted state.arena after.arena (holding (.node .sharedGuards) range.positions) := by
  obtain ⟨_, inArena, rfl⟩ := put_eq_ok_iff.mp done
  exact Arena.accounted_pushGuards inArena

private theorem captureEntry_accounted {body : SourceBody} {isInlinee : Bool}
    (done : (if isInlinee then state.captureEntryPoint body.entryPoint facts.record
      else .ok (facts.record, state)) = .ok (captured, after)) :
    captured.body = none ∧ Accounted state.arena after.arena captured.held := by
  have nothing (callCounter : Address) :
      Accounted state.arena state.arena { facts.record with callCounter }.held := by
    refine (Accounted.refl _).forNode (fun field => ?_) rfl rfl
    cases field <;> rfl
  cases isInlinee with
  | false =>
      cases done
      exact ⟨rfl, nothing .null⟩
  | true =>
      rcases captureEntryPoint_cases done with ⟨_, rfl, rfl⟩ | ⟨_, _, _, rfl, pushed⟩
      · exact ⟨rfl, nothing _⟩
      · refine ⟨rfl, (pushGuards_accounted pushed).forNode (fun field => ?_) rfl rfl⟩
        cases field <;> rfl

/-- A captured body is held back for its node, and the guards with it. -/
private theorem captureBody_accounted {body : SourceBody} {isInlinee : Bool}
    (done : state.captureBody body isInlinee facts.record = .ok (captured, after)) :
    Accounted state.arena after.arena captured.held := by
  rcases captureBody_cases done with ⟨_, id, rfl, pushedBody⟩ |
    ⟨_, profile, copied, entry, entered, id, rfl, pushedProfile, captures, pushedBody⟩
  · obtain ⟨_, inArena, rfl⟩ := put_eq_ok_iff.mp pushedBody
    refine ((Accounted.refl state.arena).pushBody inArena rfl).forNode (fun field => ?_) rfl rfl
    cases field <;> rfl
  · obtain ⟨noBody, accountedEntry⟩ := captureEntry_accounted captures
    obtain ⟨_, profileInArena, rfl⟩ := put_eq_ok_iff.mp pushedProfile
    obtain ⟨_, bodyInArena, rfl⟩ := put_eq_ok_iff.mp pushedBody
    have held := (Arena.accounted_pushProfile profileInArena).followed accountedEntry
    refine (held.pushBody bodyInArena rfl).forNode (fun field => ?_) rfl rfl
    cases field with
    | body =>
        have unnamed : entry.held (.node .body) = [] := congrArg optionalPosition noBody
        simp only [unnamed]
        rfl
    | _ => exact List.append_nil _

private theorem captureRuntime_accounted {own : Option RuntimeContext} {body : SourceBody}
    {id : RuntimeId}
    (done : state.captureRuntime own body.record.cacheCount.toNat = .ok (id, after)) :
    Accounted state.arena after.arena (holding (.node .runtime) [id.index]) := by
  rcases captureRuntime_cases done with ⟨_, pushed⟩ | ⟨_, _, pushedClones, pushedRuntime⟩
  · obtain ⟨_, inArena, rfl⟩ := put_eq_ok_iff.mp pushed
    refine ((Accounted.refl state.arena).pushRuntime inArena rfl).congr fun field => ?_
    cases field <;> rfl
  · obtain ⟨_, clonesInArena, rfl⟩ := put_eq_ok_iff.mp pushedClones
    obtain ⟨_, runtimeInArena, rfl⟩ := put_eq_ok_iff.mp pushedRuntime
    have addresses := Arena.accounted_pushAddresses clonesInArena
    refine (addresses.pushRuntime runtimeInArena (if_pos rfl)).congr fun field => ?_
    cases field <;> rfl

private theorem pushTypeSpecs_accounted {sources : List (Option Address)} {count : Nat}
    {range : TypeSpecRange} {field : NodeField} (ofTypeSpecs : (Field.node field).part = .typeSpecs)
    (done : state.pushTypeSpecs sources count = .ok (range, after)) :
    Accounted state.arena after.arena (holding (.node field) range.positions) := by
  obtain ⟨_, _, _, given, rfl⟩ := pushTypeSpecs_eq_ok_iff.mp done
  exact Arena.accounted_pushTypeSpecs ofTypeSpecs
    (Arena.pushTypeSpecs_eq_ok_iff.mpr ⟨given, rfl⟩)

private theorem no_ranges_accounted (field : NodeField) :
    Accounted state.arena state.arena
      (holding (.node field) (ListRange.empty : TypeSpecRange).positions) :=
  (Accounted.refl _).congr fun _ => (holding_nil _ _).symm

private theorem captureTypeSpecs_accounted {sources : Option (List (Option Address))}
    {caches : Nat} {range : TypeSpecRange}
    (done : state.captureTypeSpecs sources caches = .ok (range, after)) :
    Accounted state.arena after.arena (holding (.node .typeSpecs) range.positions) := by
  rcases captureTypeSpecs_cases done with ⟨_, rfl, rfl⟩ | ⟨_, _, pushed⟩
  · exact no_ranges_accounted .typeSpecs
  · exact pushTypeSpecs_accounted rfl pushed

private theorem captureGlobalTypeSpecs_accounted {sources : List (Option Address)}
    {range : TypeSpecRange} (done : state.captureGlobalTypeSpecs sources = .ok (range, after)) :
    Accounted state.arena after.arena (holding (.node .globalTypeSpecs) range.positions) := by
  rcases captureGlobalTypeSpecs_cases done with ⟨_, rfl, rfl⟩ | pushed
  · exact no_ranges_accounted .globalTypeSpecs
  · exact pushTypeSpecs_accounted rfl pushed

end BuildState

/-! ### The recursion -/

def SourceFunction.SettlesExactly (function : SourceFunction) : Prop :=
  ∀ (runtime : Option RuntimeContext) (isInlinee : Bool) (state after : BuildState)
    (id : NodeId), function.buildNode runtime isInlinee state = .ok (id, after) →
      Settled state.arena after.arena

variable {keeper : RuntimeKeeper} {state after : BuildState}

theorem BuildsInTurn.settled {captures : List (Step × SourceFunction)}
    {nodes : List (Step × NodeId)}
    (exactly : ∀ capture ∈ captures, capture.2.SettlesExactly)
    (builds : BuildsInTurn keeper captures nodes state after) :
    Settled state.arena after.arena := by
  induction builds with
  | done => exact .refl _
  | @step _ _ _ _ _ _ start _ _ _ asks node _ ih =>
      obtain ⟨reads, rfl⟩ := RuntimeKeeper.state_of_ask asks
      have first := exactly _ List.mem_cons_self _ _ { start with reads } _ _ node
      have later := ih fun capture member => exactly capture (List.mem_cons_of_mem _ member)
      exact first.followed later

private theorem pushSlots_accounted {slots : List Slot} {range : SlotRange} (field : NodeField)
    (ofSlots : (Field.node field).part = .slots)
    (done : state.pushSlots slots = .ok (range, after)) :
    Accounted state.arena after.arena (holding (.node field) range.positions) := by
  obtain ⟨_, inArena, rfl⟩ := BuildState.put_eq_ok_iff.mp done
  exact Arena.accounted_pushSlots ofSlots inArena

section Node

variable {facts : FunctionFacts} {body : SourceBody} {own : Option RuntimeContext}
  {inlinees fieldInlinees : List (Option SourceFunction)} {next : Option SourceFunction}
  {start last : BuildState} {record : NodeRecord}

/-- What is captured for a node, and is not for a candidate, is held back for the node. -/
theorem FillsBody.accounted
    (exactly : ∀ candidate,
      SourceFunction.HasCandidate ⟨facts, inlinees, fieldInlinees, next⟩ candidate →
        candidate.SettlesExactly)
    (fills : FillsBody facts body own inlinees fieldInlinees next start record last) :
    Accounted start.arena last.arena record.held := by
  cases fills with
  | steps capturedBody builtInlinees pushedInlinees capturedRuntime capturedTypeSpecs builtFields
      pushedFields capturedGlobals builtNext =>
      have ofBody := BuildState.captureBody_accounted capturedBody
      obtain ⟨_, _, _, buildsInlinees⟩ := BuildsInTurn.of_slots builtInlinees
      have ofInlinees := buildsInlinees.settled fun capture member =>
        exactly capture.2 (Or.inl (Branches.mem_of_mem_present_take member))
      have ofSlots := pushSlots_accounted .inlinees rfl pushedInlinees
      have ofRuntime := BuildState.captureRuntime_accounted capturedRuntime
      have ofTypeSpecs := BuildState.captureTypeSpecs_accounted capturedTypeSpecs
      obtain ⟨_, _, _, buildsFields⟩ := BuildsInTurn.of_slots builtFields
      have ofFields := buildsFields.settled fun capture member =>
        exactly capture.2 (Or.inr (Or.inl (Branches.mem_of_mem_present_take member)))
      have ofFieldSlots := pushSlots_accounted .fieldInlinees rfl pushedFields
      have ofGlobals := BuildState.captureGlobalTypeSpecs_accounted capturedGlobals
      have ofNext := (BuildsInTurn.of_candidate builtNext).settled fun capture member =>
        exactly capture.2 (Or.inr (Or.inr (Branches.eq_some_of_mem_map member)))
      have toSlots := (ofBody.followed ofInlinees).followed ofSlots
      have toTypeSpecs := (toSlots.followed ofRuntime).followed ofTypeSpecs
      have toFieldSlots := (toTypeSpecs.followed ofFields).followed ofFieldSlots
      have whole := (toFieldSlots.followed ofGlobals).followed ofNext
      refine whole.forNode (fun field => ?_) rfl rfl
      obtain ⟨_, id, profile, sharedGuards, rfl, _⟩ :=
        BuildState.captureBody_adds rfl capturedBody
      cases field <;>
        simp [holding, NodeRecord.held, NodeRecord.names, FunctionFacts.record, optionalPosition]

end Node

theorem SourceFunction.settlesExactly (function : SourceFunction) : function.SettlesExactly := by
  induction function using candidate_induction with
  | pass function ih =>
      intro runtime isInlinee state after id built
      cases function with
      | mk facts inlinees fieldInlinees next =>
          cases hasBody : facts.body with
          | none =>
              obtain ⟨start, allocated, replaced⟩ := buildNode_bodyless hasBody built
              have bare : Settled start start := .refl _
              refine (bare.forNode (fun field => ?_) rfl rfl).setNode allocated replaced
              cases field <;> rfl
          | some body =>
              obtain ⟨start, record, last, allocated, fills, replaced⟩ :=
                buildNode_body hasBody built
              exact (fills.accounted ih).setNode allocated replaced

/-! ### What a build owns -/

section Build

variable {function : SourceFunction} {runtime : Option RuntimeContext} {isInlinee : Bool}
  {root : NodeId}

theorem BuildState.build_settled
    (built : state.build function runtime isInlinee = .ok (root, after)) :
    Settled state.arena after.arena :=
  function.settlesExactly runtime isInlinee { state with reads := [] } after root built

theorem BuildState.mem_reachable_build
    (built : state.build function runtime isInlinee = .ok (root, after)) {id : NodeId} :
    id ∈ after.arena.reachable root ↔
      state.arena.size ≤ id.index ∧ id.index < after.arena.size := by
  obtain ⟨rfl, builds⟩ := build_builds built
  rw [builds.stored.mem_reachable_iff, builds.size]

/-- A node of a body names the runtime data that its view shows. -/
theorem BuildState.runtime?_of_body
    (built : state.build function runtime isInlinee = .ok (root, after)) {view : View}
    (ofBuild : view.arena = after.arena) (reached : view.id ∈ after.arena.reachable root)
    (hasBody : view.hasBody = true) :
    ∃ shown, view.runtime? = .ok (some shown) ∧ view.record.runtime = some shown.id := by
  obtain ⟨rfl, builds⟩ := build_builds built
  obtain ⟨path, leads⟩ := reached
  obtain ⟨target, _, stored, sameId, _⟩ := builds.stored.of_endOf? leads
  obtain ⟨_, record, found, shows⟩ := stored.found
  rw [sameId] at found
  have atView := view.found
  rw [ofBuild, found] at atView
  cases atView
  cases targetBody : target.facts.body with
  | none =>
      rw [View.hasBody, (shows_bodyless targetBody).mp shows] at hasBody
      cases hasBody
  | some body =>
      obtain ⟨id, clones, named, runtimeFound, _⟩ :=
        ((shows_body targetBody).mp shows).namedRuntime
      refine ⟨{
          arena := view.arena
          home := view.home
          id
          record := { clonedCaches := clones } }, ?_, named⟩
      rw [View.runtime?, named]
      simp only [ofBuild, runtimeFound]
      rfl

/-- The owner of a runtime record is the node whose view shows it. -/
theorem View.owns_runtime {view : View} {shown : RuntimeView}
    (ofBuild : view.arena = after.arena) (named : view.record.runtime = some shown.id) :
    shown.id.index ∈ (Owner.mk (.node .runtime) view.id.index).names after.arena := by
  have found : after.arena.nodes[view.id.index]? = some view.record := ofBuild ▸ view.found
  simp only [Owner.names, Arena.names, found, Option.elim_some, NodeRecord.names, named]
  exact List.mem_singleton_self _

/-- The runtime data that two nodes with bodies show is different for different nodes. -/
theorem BuildState.runtime_apart
    (built : state.build function runtime isInlinee = .ok (root, after)) {left right : View}
    (ofLeft : left.arena = after.arena) (ofRight : right.arena = after.arena)
    (leftReached : left.id ∈ after.arena.reachable root)
    (rightReached : right.id ∈ after.arena.reachable root) (differ : left.id ≠ right.id)
    (leftBody : left.hasBody = true) (rightBody : right.hasBody = true) :
    ∃ first second, left.runtime? = .ok (some first) ∧ right.runtime? = .ok (some second) ∧
      first.same second = false := by
  have settled := build_settled built
  obtain ⟨first, showsFirst, namesFirst⟩ :=
    runtime?_of_body built ofLeft leftReached leftBody
  obtain ⟨second, showsSecond, namesSecond⟩ :=
    runtime?_of_body built ofRight rightReached rightBody
  refine ⟨first, second, showsFirst, showsSecond, ?_⟩
  apply Bool.eq_false_iff.mpr
  intro same
  have sameId : first.id = second.id := eq_of_beq (Bool.and_eq_true_iff.mp same).2
  have leftWithin := (mem_reachable_build built).mp leftReached
  have rightWithin := (mem_reachable_build built).mp rightReached
  have leftNew : (Owner.mk (.node .runtime) left.id.index).IsNew state.arena after.arena :=
    ⟨leftWithin.1, leftWithin.2⟩
  have rightNew : (Owner.mk (.node .runtime) right.id.index).IsNew state.arena after.arena :=
    ⟨rightWithin.1, rightWithin.2⟩
  have leftOwns := View.owns_runtime ofLeft namesFirst
  have rightOwns := View.owns_runtime ofRight namesSecond
  rw [← sameId] at rightOwns
  obtain ⟨lower, upper⟩ := settled.names_new leftNew leftOwns
  obtain ⟨owner, _, only⟩ := settled.existsUnique_owner lower upper
  have isLeft := only (.mk (.node .runtime) left.id.index) ⟨rfl, leftNew, leftOwns⟩
  have isRight := only (.mk (.node .runtime) right.id.index) ⟨rfl, rightNew, rightOwns⟩
  exact differ (Id.index_inj.mp (congrArg Owner.position (isLeft.trans isRight.symm)))

/-- A build shares nothing and leaves nothing over. Every node that it has added is reached
from the root. Every other entry that it has added is named by exactly one of the records it
has added, in exactly one field, and these records name nothing that was there before. So no
two nodes with bodies show the same runtime data. -/
theorem BuildState.build_owned
    (built : state.build function runtime isInlinee = .ok (root, after)) :
    (∀ id, id ∈ after.arena.reachable root ↔
        state.arena.size ≤ id.index ∧ id.index < after.arena.size) ∧
      (∀ part position, state.arena.partSize part ≤ position →
        position < after.arena.partSize part →
          ∃! owner : Owner, owner.field.part = part ∧ owner.IsNew state.arena after.arena ∧
            position ∈ owner.names after.arena) ∧
        (∀ (owner : Owner) position, owner.IsNew state.arena after.arena →
          position ∈ owner.names after.arena →
            state.arena.partSize owner.field.part ≤ position ∧
              position < after.arena.partSize owner.field.part) ∧
          ∀ left right : View, left.arena = after.arena → right.arena = after.arena →
            left.id ∈ after.arena.reachable root → right.id ∈ after.arena.reachable root →
              left.id ≠ right.id → left.hasBody = true → right.hasBody = true →
                ∃ first second, left.runtime? = .ok (some first) ∧
                  right.runtime? = .ok (some second) ∧ first.same second = false := by
  have settled := build_settled built
  refine ⟨fun id => mem_reachable_build built, fun part position lower upper => ?_,
    fun owner position isNew named => ?_, ?_⟩
  · exact settled.existsUnique_owner lower upper
  · exact settled.names_new isNew named
  · intro left right ofLeft ofRight leftReached rightReached differ leftBody rightBody
    exact runtime_apart built ofLeft ofRight leftReached rightReached differ leftBody
      rightBody

end Build

def pairedCaller : SourceFunction :=
  { facts := { clonedCaller.facts with globalTypeSpecs := [some ⟨9⟩] }
    inlinees := [some { facts := { body := some { record := { cacheCount := 1 } } } }] }

theorem build_owned_pairedCaller :
    ∃ after : BuildState,
      (BuildState.start occupied).build pairedCaller (some { clonedCaches := [⟨5⟩] }) true =
          .ok (⟨1⟩, after) ∧
        (⟨2⟩ : NodeId) ∈ after.arena.reachable ⟨1⟩ ∧
          (∃! owner : Owner, owner.field.part = .slots ∧
            owner.IsNew occupied after.arena ∧ 2 ∈ owner.names after.arena) ∧
            ∃ left right : View, left.id = ⟨1⟩ ∧ right.id = ⟨2⟩ ∧ ∃ first second,
              left.runtime? = .ok (some first) ∧ right.runtime? = .ok (some second) ∧
                first.same second = false := by
  have outcome : ((BuildState.start occupied).build pairedCaller
      (some { clonedCaches := [⟨5⟩] }) true).toOption.map (fun built =>
        (built.1, built.2.arena.slots.size)) = some (⟨1⟩, 5) := by decide +kernel
  have bodies : ((BuildState.start occupied).build pairedCaller
      (some { clonedCaches := [⟨5⟩] }) true).toOption.map (fun built =>
        (built.2.arena.size, (built.2.arena.node? ⟨1⟩).map (·.body.isSome),
          (built.2.arena.node? ⟨2⟩).map (·.body.isSome))) =
            some (3, some true, some true) := by decide +kernel
  obtain ⟨⟨root, after⟩, built, result⟩ := exists_ok_of_outcome outcome
  obtain ⟨rfl, slots⟩ := Prod.mk.inj result
  rw [built] at bodies
  obtain ⟨size, firstBody, secondBody⟩ :=
    by simpa only [Prod.mk.injEq] using Option.some.inj bodies
  obtain ⟨firstRecord, foundFirst, hasFirst⟩ := Option.map_eq_some_iff.mp firstBody
  obtain ⟨secondRecord, foundSecond, hasSecond⟩ := Option.map_eq_some_iff.mp secondBody
  obtain ⟨reached, owned, _, apart⟩ := BuildState.build_owned built
  have firstReached : (⟨1⟩ : NodeId) ∈ after.arena.reachable ⟨1⟩ :=
    (reached ⟨1⟩).mpr ⟨by decide, by rw [size]; decide⟩
  have secondReached : (⟨2⟩ : NodeId) ∈ after.arena.reachable ⟨1⟩ :=
    (reached ⟨2⟩).mpr ⟨by decide, by rw [size]; decide⟩
  have differ : (⟨1⟩ : NodeId) ≠ ⟨2⟩ := by decide
  have ownedSlot := owned .slots 2 (by decide) (by simp only [Arena.partSize, slots]; decide)
  exact ⟨after, built, secondReached, ownedSlot,
    { arena := after.arena, home := 0, id := ⟨1⟩, record := firstRecord, found := foundFirst },
    { arena := after.arena, home := 0, id := ⟨2⟩, record := secondRecord, found := foundSecond },
    rfl, rfl, apart _ _ rfl rfl firstReached secondReached differ hasFirst hasSecond⟩

end JitSnapshot
