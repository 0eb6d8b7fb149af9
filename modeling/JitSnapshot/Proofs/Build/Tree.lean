import JitSnapshot.Proofs.Build.Captures
import JitSnapshot.Proofs.Build.Steps
import JitSnapshot.Proofs.Build.Stored

set_option autoImplicit false

/-!
What a build stores. Building candidates one after the other lays them out at
consecutive positions behind the nodes there are, and the build of a function
puts its own node in front of them.
-/

namespace JitSnapshot

structure Lays (before after : Arena) (captures : List (Step × SourceFunction)) : Prop where
  size : after.size = before.size + (SourceFunction.reachedFrom captures).length
  kept : before.Keeps after 0 before.size
  stored : ∀ child ∈ place before.size captures, Stored after none child.function child.position

/-- A function has been stored behind the nodes of an arena. -/
structure Builds (before after : Arena) (own : Option RuntimeContext)
    (function : SourceFunction) : Prop where
  size : after.size = before.size + function.reached.length
  kept : before.Keeps after 0 before.size
  stored : Stored after own function before.size

variable {before mid after : Arena}

namespace Lays

variable {front back captures : List (Step × SourceFunction)}

theorem lists (lays : Lays before after captures) : before.ListsGrow after :=
  lays.kept.lists

theorem of_adds (adds : before.Adds after) : Lays before after [] :=
  { size := adds.size
    kept := .of_sameNodes adds.lists adds.nodes
    stored := fun _ impossible => by cases impossible }

theorem followed (first : Lays before mid front) (second : Lays mid after back) :
    Lays before after (front ++ back) := by
  have longer : before.size ≤ mid.size := by
    rw [first.size]
    omega
  refine
    { size := ?_
      kept := first.kept.trans (second.kept.narrow (Nat.le_refl _) longer)
      stored := ?_ }
  · rw [second.size, first.size, SourceFunction.reachedFrom_append, List.length_append,
      Nat.add_assoc]
  · intro child member
    rw [place_append, ← first.size] at member
    rcases List.mem_append.mp member with inFront | inBack
    · have within := (place_within inFront).2
      rw [← first.size] at within
      exact (first.stored child inFront).keep (second.kept.narrow (Nat.zero_le _) within)
    · exact second.stored child inBack

end Lays

namespace Builds

variable {function : SourceFunction} {own : Option RuntimeContext}

theorem lists (builds : Builds before after own function) : before.ListsGrow after :=
  builds.kept.lists

theorem lays (builds : Builds before after none function) (step : Step) :
    Lays before after [(step, function)] :=
  { size := by
      rw [SourceFunction.reachedFrom_cons, SourceFunction.reachedFrom_nil, List.append_nil]
      exact builds.size
    kept := builds.kept
    stored := by
      intro child member
      rw [List.mem_singleton.mp member]
      exact builds.stored }

/-- A node put in front of the candidates stored behind it stores the function. -/
private theorem of_lays {start : Arena} {id : NodeId} {record : NodeRecord}
    (allocated : before.allocNode = .ok (id, start))
    (lays : Lays start mid function.branches.toList)
    (replaced : mid.setNode? id record = some after)
    (shows : Shows mid own function.facts record)
    (slots : (mid.branches record).toList = (function.placed before.size).map Placed.branch) :
    Builds before after own function := by
  have exactly : id.index = before.size := (Arena.allocNode_eq_ok_iff.mp allocated).1
  have named : before.size < UInt32.size := exactly ▸ id.index_lt
  obtain ⟨grown, startSize⟩ := Arena.listsGrow_allocNode allocated
  have midSize : mid.size = before.size + function.reached.length := by
    rw [lays.size, startSize, function.reached_length, Nat.add_assoc]
  have inside : before.size < mid.size := by
    rw [midSize, function.reached_length]
    omega
  obtain ⟨lists, size, nodes⟩ := Arena.setNode?_eq_some replaced
  refine { size := size.trans midSize, kept := ?_, stored := ?_ }
  · refine { lists := grown.trans (lays.lists.trans lists), nodes := ?_ }
    intro position _ below
    rw [nodes position, exactly, if_neg (by omega),
      lays.kept.nodes position (Nat.zero_le _) (by omega)]
    obtain ⟨_, rfl⟩ := Arena.allocNode_eq_ok_iff.mp allocated
    exact Array.getElem?_push.trans (if_neg (Nat.ne_of_lt below))
  · have behind : mid.Keeps after (before.size + 1) mid.size :=
      { lists
        nodes := fun position above _ => by rw [nodes position, exactly, if_neg (by omega)] }
    refine .node named ?_ (shows.grow lists) ?_ ?_
    · rw [nodes before.size, exactly, if_pos rfl]
    · rw [shows.branches_grow lists, slots]
    · intro child member
      obtain ⟨above, within⟩ := SourceFunction.placed_within member
      refine (lays.stored child ?_).keep (behind.narrow above (midSize ▸ within))
      rw [startSize]
      exact member

end Builds

/-! ### The recursion -/

def SourceFunction.BuildsExactly (function : SourceFunction) : Prop :=
  ∀ (runtime : Option RuntimeContext) (isInlinee : Bool) (state after : BuildState)
    (id : NodeId), function.buildNode runtime isInlinee state = .ok (id, after) →
      id = .ofIndex state.arena.size ∧
        Builds state.arena after.arena (if isInlinee then runtime else none) function

variable {keeper : RuntimeKeeper} {state after : BuildState}

theorem BuildsInTurn.lays {captures : List (Step × SourceFunction)}
    {nodes : List (Step × NodeId)}
    (exactly : ∀ capture ∈ captures, capture.2.BuildsExactly)
    (builds : BuildsInTurn keeper captures nodes state after) :
    Lays state.arena after.arena captures ∧
      nodes = (place state.arena.size captures).map Placed.branch := by
  induction builds with
  | done => exact ⟨.of_adds (.refl _), rfl⟩
  | @step step _ _ _ _ _ _ _ _ _ asks node _ ih =>
      obtain ⟨reads, rfl⟩ := RuntimeKeeper.state_of_ask asks
      obtain ⟨rfl, builds⟩ := exactly _ List.mem_cons_self _ _ _ _ _ node
      obtain ⟨later, nodesAre⟩ :=
        ih fun capture member => exactly capture (List.mem_cons_of_mem _ member)
      refine ⟨(builds.lays step).followed later, ?_⟩
      rw [nodesAre, builds.size]
      rfl

section Node

variable {facts : FunctionFacts} {body : SourceBody} {own : Option RuntimeContext}
  {inlinees fieldInlinees : List (Option SourceFunction)} {next : Option SourceFunction}
  {start last : BuildState} {record : NodeRecord}

theorem branches_of_body (hasBody : facts.body = some body) :
    SourceFunction.branches ⟨facts, inlinees, fieldInlinees, next⟩ =
      { inlinees := inlinees.take body.record.callSiteCount.toNat
        fieldInlinees := fieldInlinees.take body.record.cacheCount.toNat
        next } := by
  simp only [SourceFunction.branches, hasBody]

/-- The captures store all candidates behind the node, and the record they make
shows the function and leads to them. -/
theorem FillsBody.stores (hasBody : facts.body = some body)
    (exactly : ∀ candidate,
      SourceFunction.HasCandidate ⟨facts, inlinees, fieldInlinees, next⟩ candidate →
        candidate.BuildsExactly)
    (fills : FillsBody facts body own inlinees fieldInlinees next start record last) :
    Lays start.arena last.arena
        (SourceFunction.branches ⟨facts, inlinees, fieldInlinees, next⟩).toList ∧
      Shows last.arena own facts record ∧
        (last.arena.branches record).toList =
          (place start.arena.size (SourceFunction.branches
            ⟨facts, inlinees, fieldInlinees, next⟩).toList).map Placed.branch := by
  cases fills with
  | steps capturedBody builtInlinees pushedInlinees capturedRuntime capturedTypeSpecs builtFields
      pushedFields capturedGlobals builtNext =>
      obtain ⟨addsBody, bodyId, profile, sharedGuards, rfl, foundBody, foundProfile,
        holdsGuards⟩ := BuildState.captureBody_adds rfl capturedBody
      obtain ⟨inlineeSlots, inlineesAppended, inlineeCount, buildsInlinees⟩ :=
        BuildsInTurn.of_slots builtInlinees
      obtain ⟨laysInlinees, inlineesAre⟩ := buildsInlinees.lays fun capture member =>
        exactly capture.2 (Or.inl (Branches.mem_of_mem_present_take member))
      obtain ⟨addsSlots, holdsSlots⟩ := BuildState.pushSlots_adds pushedInlinees
      obtain ⟨addsRuntime, clones, foundRuntime, holdsClones⟩ :=
        BuildState.captureRuntime_adds capturedRuntime
      obtain ⟨enough, addsTypeSpecs, holdsTypeSpecs⟩ :=
        BuildState.captureTypeSpecs_adds capturedTypeSpecs
      obtain ⟨fieldSlots, fieldsAppended, fieldCount, buildsFields⟩ :=
        BuildsInTurn.of_slots builtFields
      obtain ⟨laysFields, fieldsAre⟩ := buildsFields.lays fun capture member =>
        exactly capture.2 (Or.inr (Or.inl (Branches.mem_of_mem_present_take member)))
      obtain ⟨addsFieldSlots, holdsFieldSlots⟩ := BuildState.pushSlots_adds pushedFields
      obtain ⟨addsGlobals, holdsGlobals⟩ := BuildState.captureGlobalTypeSpecs_adds capturedGlobals
      obtain ⟨laysNext, nextIs⟩ := (BuildsInTurn.of_candidate builtNext).lays fun capture member =>
        exactly capture.2 (Or.inr (Or.inr (Branches.eq_some_of_mem_map member)))
      rw [branches_of_body hasBody]
      rw [Array.toList_empty, List.nil_append] at inlineesAppended fieldsAppended
      rw [inlineesAppended] at holdsSlots
      rw [fieldsAppended] at holdsFieldSlots
      -- What is still to come after each capture.
      have toGlobals := (Lays.of_adds addsGlobals).followed laysNext
      have toFieldSlots := (Lays.of_adds addsFieldSlots).followed toGlobals
      have toFields := laysFields.followed toFieldSlots
      have toTypeSpecs := (Lays.of_adds addsTypeSpecs).followed toFields
      have toRuntime := (Lays.of_adds addsRuntime).followed toTypeSpecs
      have toSlots := (Lays.of_adds addsSlots).followed toRuntime
      have toInlinees := laysInlinees.followed toSlots
      have whole := (Lays.of_adds addsBody).followed toInlinees
      have heldSlots := holdsSlots.extend toRuntime.lists.slots
      have heldFieldSlots := holdsFieldSlots.extend toGlobals.lists.slots
      refine ⟨whole, ?_, ?_⟩
      · apply (shows_body hasBody).mpr
        exact
          { functionInfo := rfl
            weakRef := rfl
            inlineeBits := rfl
            localFunction := rfl
            flags := rfl
            callCounter := rfl
            namedBody := ⟨bodyId, profile, rfl, toInlinees.lists.body? foundBody,
              Arena.named_grow toInlinees.lists.profile? foundProfile⟩
            namedRuntime := ⟨_, clones, rfl, toTypeSpecs.lists.runtime? foundRuntime,
              holdsClones.extend toTypeSpecs.lists.addresses⟩
            sharedGuards := holdsGuards.extend toInlinees.lists.guards
            inlinees := ⟨inlineeSlots, heldSlots, inlineeCount⟩
            fieldInlinees := ⟨fieldSlots, heldFieldSlots, fieldCount⟩
            typeSpecs := holdsTypeSpecs.extend toFields.lists.typeSpecs
            enoughTypeSpecs := enough
            globalTypeSpecs := holdsGlobals.extend laysNext.lists.typeSpecs }
      · have readSlots : last.arena.slots? _ = some inlineeSlots := heldSlots.reads
        have readFields : last.arena.slots? _ = some fieldSlots := heldFieldSlots.reads
        have atFields := laysInlinees.size
        rw [addsBody.size, ← addsSlots.size, ← addsRuntime.size, ← addsTypeSpecs.size] at atFields
        have atNext := laysFields.size
        rw [← addsFieldSlots.size, ← addsGlobals.size] at atNext
        rw [addsBody.size] at inlineesAre
        simp only [Arena.branches, readSlots, readFields, Option.getD_some]
        exact placed_branches atFields atNext inlineesAre fieldsAre nextIs

end Node

theorem SourceFunction.buildsExactly (function : SourceFunction) : function.BuildsExactly := by
  induction function using candidate_induction with
  | pass function ih =>
      intro runtime isInlinee state after id built
      cases function with
      | mk facts inlinees fieldInlinees next =>
          cases hasBody : facts.body with
          | none =>
              obtain ⟨start, allocated, replaced⟩ := buildNode_bodyless hasBody built
              have nothing : (mk facts inlinees fieldInlinees next).branches = {} := by
                simp only [branches, hasBody]
              refine ⟨Arena.allocNode_id allocated, .of_lays allocated ?_ replaced
                ((shows_bodyless hasBody).mpr rfl) ?_⟩
              · rw [nothing]
                exact .of_adds (.refl _)
              · rw [placed, nothing]
                rfl
          | some body =>
              obtain ⟨start, record, last, allocated, fills, replaced⟩ :=
                buildNode_body hasBody built
              obtain ⟨lays, shows, slots⟩ := fills.stores hasBody ih
              refine ⟨Arena.allocNode_id allocated, .of_lays allocated lays replaced shows ?_⟩
              rw [slots, (Arena.listsGrow_allocNode allocated).2]
              rfl

/-- What a successful build leaves: the function behind the nodes there were. -/
theorem BuildState.build_builds {function : SourceFunction} {runtime : Option RuntimeContext}
    {isInlinee : Bool} {id : NodeId}
    (built : state.build function runtime isInlinee = .ok (id, after)) :
    id = .ofIndex state.arena.size ∧
      Builds state.arena after.arena (if isInlinee then runtime else none) function :=
  function.buildsExactly runtime isInlinee { state with reads := [] } after id built

end JitSnapshot
