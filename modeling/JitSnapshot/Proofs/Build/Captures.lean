import JitSnapshot.Proofs.Build.Shows
import JitSnapshot.Proofs.Build.Steps

set_option autoImplicit false

/-!
What each capture of a build leaves: it adds to the lists beside the nodes, and
what the node record then names is the data that was to be captured.
-/

namespace JitSnapshot

theorem GuardSet.drain_eq (guards : GuardSet) : guards.drain = guards.members := by
  have pushAll (members : List PropertyId) (drained : Array PropertyId) :
      (members.foldl Array.push drained).toList = drained.toList ++ members := by
    induction members generalizing drained with
    | nil => exact (List.append_nil _).symm
    | cons member rest ih =>
        rw [List.foldl_cons, ih, Array.toList_push, List.append_assoc, List.singleton_append]
  rw [drain, pushAll]
  rfl

namespace BuildState

variable {state after : BuildState} {own : Option RuntimeContext} {facts : FunctionFacts}
  {body : SourceBody} {isInlinee : Bool} {record captured : NodeRecord}

/-! ### Pushes -/

/-- What is left by putting something that is known to be named in one way and to leave one
arena. -/
private theorem put_known {α : Type} {counted : BuildState}
    {pushed : Except Overflow (α × Arena)} {value : α} {named : Prop} {arena : Arena}
    (inArena : ∀ left, pushed = .ok (value, left) ↔ named ∧ left = arena) :
    counted.put pushed = .ok (value, after) ↔ named ∧ after = { counted with arena } := by
  rw [put_eq_ok_iff]
  constructor
  · rintro ⟨left, inArenaToo, rfl⟩
    obtain ⟨exactly, rfl⟩ := (inArena left).mp inArenaToo
    exact ⟨exactly, rfl⟩
  · rintro ⟨exactly, rfl⟩
    exact ⟨arena, (inArena arena).mpr ⟨exactly, rfl⟩, rfl⟩

theorem allocNode_eq_ok_iff {id : NodeId} :
    state.allocNode = .ok (id, after) ↔ id.index = state.arena.size ∧
      after = { state with
        arena.nodes := state.arena.nodes.push {}
        stats.nodes := state.stats.nodes + 1 } :=
  put_known fun _ => Arena.allocNode_eq_ok_iff

theorem pushBody_eq_ok_iff {stored : BodyRecord} {id : BodyId} :
    state.pushBody stored = .ok (id, after) ↔ id.index = state.arena.bodies.size ∧
      after = { state with
        arena.bodies := state.arena.bodies.push stored
        stats.bodies := state.stats.bodies + 1 } :=
  put_known fun _ => Arena.pushBody_eq_ok_iff

theorem pushRuntime_eq_ok_iff {stored : RuntimeRecord} {id : RuntimeId} :
    state.pushRuntime stored = .ok (id, after) ↔ id.index = state.arena.runtimes.size ∧
      after = { state with arena.runtimes := state.arena.runtimes.push stored } :=
  put_known fun _ => Arena.pushRuntime_eq_ok_iff

theorem pushProfile_eq_ok_iff {source : BodyRecord} {id : ProfileId} :
    state.pushProfile source = .ok (id, after) ↔ id.index = state.arena.profiles.size ∧
      after = { state with
        arena.profiles := state.arena.profiles.push { words := source.profileWords }
        stats.profiles := state.stats.profiles + 1
        materialized.profiles := state.materialized.profiles + 1 } :=
  put_known fun _ => Arena.pushProfile_eq_ok_iff

theorem pushSlots_eq_ok_iff {slots : List Slot} {range : SlotRange} :
    state.pushSlots slots = .ok (range, after) ↔
      ListRange.behind state.arena.slots.size slots.length = .ok range ∧
        after = { state with arena.slots := state.arena.slots.appendList slots } :=
  put_known fun _ => Arena.pushSlots_eq_ok_iff

theorem pushAddresses_eq_ok_iff {addresses : List Address} {range : AddressRange} :
    state.pushAddresses addresses = .ok (range, after) ↔
      ListRange.behind state.arena.addresses.size addresses.length = .ok range ∧
        after = { state with arena.addresses := state.arena.addresses.appendList addresses } :=
  put_known fun _ => Arena.pushAddresses_eq_ok_iff

theorem pushGuards_eq_ok_iff {guards : GuardSet} {range : GuardRange} :
    state.pushGuards guards = .ok (range, after) ↔
      ListRange.behind state.arena.guards.size guards.members.length = .ok range ∧
        after = { state with
          arena.guards := state.arena.guards.appendList guards.members
          stats.guards := state.stats.guards + guards.members.length } := by
  rw [← guards.drain_eq]
  exact put_known fun _ => Arena.pushGuards_eq_ok_iff

theorem pushTypeSpecs_eq_ok_iff {sources : List (Option Address)} {count : Nat}
    {range : TypeSpecRange} :
    state.pushTypeSpecs sources count = .ok (range, after) ↔ count ≤ sources.length ∧
      ∃ typeSpecs, typeSpecs = (sources.take count).map (Option.map TypeSpecRecord.ofSource) ∧
        ListRange.behind state.arena.typeSpecs.size typeSpecs.length = .ok range ∧
          after = { state with
            arena.typeSpecs := state.arena.typeSpecs.appendList typeSpecs
            stats.typeSpecs := state.stats.typeSpecs + typeSpecs.countP Option.isSome
            materialized.typeSpecBatches := state.materialized.typeSpecBatches.push count } := by
  rw [exists_eq_left, pushTypeSpecs]
  split
  · rename_i short
    exact iff_of_false (fun impossible => by cases impossible)
      fun enough => Nat.not_lt.mpr enough.1 short
  · rename_i enough
    exact (put_known fun _ => Arena.pushTypeSpecs_eq_ok_iff).trans
      (and_iff_right (Nat.not_lt.mp enough)).symm

theorem pushBody_adds {stored : BodyRecord} {id : BodyId}
    (done : state.pushBody stored = .ok (id, after)) :
    state.arena.Adds after.arena ∧ after.arena.body? id = some stored := by
  obtain ⟨exactly, rfl⟩ := pushBody_eq_ok_iff.mp done
  have pushed : state.arena.pushBody stored = _ :=
    Arena.pushBody_eq_ok_iff.mpr ⟨exactly, rfl⟩
  exact ⟨Arena.adds_pushBody pushed, Arena.getElem?_push_index exactly⟩

theorem pushRuntime_adds {stored : RuntimeRecord} {id : RuntimeId}
    (done : state.pushRuntime stored = .ok (id, after)) :
    state.arena.Adds after.arena ∧ after.arena.runtime? id = some stored := by
  obtain ⟨exactly, rfl⟩ := pushRuntime_eq_ok_iff.mp done
  have pushed : state.arena.pushRuntime stored = _ :=
    Arena.pushRuntime_eq_ok_iff.mpr ⟨exactly, rfl⟩
  exact ⟨Arena.adds_pushRuntime pushed, Arena.getElem?_push_index exactly⟩

theorem pushProfile_adds {source : BodyRecord} {id : ProfileId}
    (done : state.pushProfile source = .ok (id, after)) :
    state.arena.Adds after.arena ∧
      after.arena.profile? id = some { words := source.profileWords } := by
  obtain ⟨exactly, rfl⟩ := pushProfile_eq_ok_iff.mp done
  have pushed : state.arena.pushProfile { words := source.profileWords } = _ :=
    Arena.pushProfile_eq_ok_iff.mpr ⟨exactly, rfl⟩
  exact ⟨Arena.adds_pushProfile pushed, Arena.getElem?_push_index exactly⟩

theorem pushSlots_adds {slots : List Slot} {range : SlotRange}
    (done : state.pushSlots slots = .ok (range, after)) :
    state.arena.Adds after.arena ∧ range.Holds after.arena.slots slots := by
  obtain ⟨given, rfl⟩ := pushSlots_eq_ok_iff.mp done
  have pushed : state.arena.pushSlots slots = _ :=
    Arena.pushSlots_eq_ok_iff.mpr ⟨given, rfl⟩
  exact ⟨Arena.adds_pushSlots pushed, ListRange.holds_behind given⟩

theorem pushAddresses_adds {addresses : List Address} {range : AddressRange}
    (done : state.pushAddresses addresses = .ok (range, after)) :
    state.arena.Adds after.arena ∧ range.Holds after.arena.addresses addresses := by
  obtain ⟨given, rfl⟩ := pushAddresses_eq_ok_iff.mp done
  have pushed : state.arena.pushAddresses addresses = _ :=
    Arena.pushAddresses_eq_ok_iff.mpr ⟨given, rfl⟩
  exact ⟨Arena.adds_pushAddresses pushed, ListRange.holds_behind given⟩

theorem pushGuards_adds {guards : GuardSet} {range : GuardRange}
    (done : state.pushGuards guards = .ok (range, after)) :
    state.arena.Adds after.arena ∧ range.Holds after.arena.guards guards.members := by
  obtain ⟨given, rfl⟩ := pushGuards_eq_ok_iff.mp done
  have pushed : state.arena.pushGuards guards.members = _ :=
    Arena.pushGuards_eq_ok_iff.mpr ⟨given, rfl⟩
  exact ⟨Arena.adds_pushGuards pushed, ListRange.holds_behind given⟩

theorem pushTypeSpecs_adds {sources : List (Option Address)} {count : Nat}
    {range : TypeSpecRange} (done : state.pushTypeSpecs sources count = .ok (range, after)) :
    count ≤ sources.length ∧ state.arena.Adds after.arena ∧
      range.Holds after.arena.typeSpecs
        ((sources.take count).map (Option.map TypeSpecRecord.ofSource)) := by
  obtain ⟨enough, _, rfl, given, rfl⟩ := pushTypeSpecs_eq_ok_iff.mp done
  have pushed : state.arena.pushTypeSpecs _ = _ :=
    Arena.pushTypeSpecs_eq_ok_iff.mpr ⟨given, rfl⟩
  exact ⟨enough, Arena.adds_pushTypeSpecs pushed, ListRange.holds_behind given⟩

/-! ### Captures taken apart -/

theorem captureEntryPoint_cases {entryPoint : EntryPoint}
    (done : state.captureEntryPoint entryPoint record = .ok (captured, after)) :
    (entryPoint.guardIds = [] ∧
        captured = { record with callCounter := entryPoint.callCounter } ∧ after = state) ∨
      ∃ guards sharedGuards, entryPoint.guardIds = guards.members ∧
        captured = { record with callCounter := entryPoint.callCounter, sharedGuards } ∧
          state.pushGuards guards = .ok (sharedGuards, after) := by
  unfold captureEntryPoint at done
  unfold EntryPoint.guardIds
  cases offered : entryPoint.guards with
  | none =>
      rw [offered] at done
      cases done
      exact Or.inl ⟨rfl, rfl, rfl⟩
  | some guards =>
      rw [offered] at done
      obtain ⟨⟨sharedGuards, _⟩, pushed, returned⟩ := bind_eq_ok.mp done
      cases returned
      exact Or.inr ⟨guards, sharedGuards, rfl, rfl, pushed⟩

theorem captureBody_cases
    (done : state.captureBody body isInlinee record = .ok (captured, after)) :
    (body.hasProfile = false ∧ ∃ id, captured = { record with body := some id } ∧
        state.pushBody { body.record with profile := none } = .ok (id, after)) ∨
      body.hasProfile = true ∧ ∃ profile copied entry entered id,
        captured = { entry with body := some id } ∧
          state.pushProfile body.record = .ok (profile, copied) ∧
            (if isInlinee then copied.captureEntryPoint body.entryPoint record
              else .ok (record, copied)) = .ok (entry, entered) ∧
              entered.pushBody { body.record with profile := some profile } = .ok (id, after) := by
  unfold captureBody at done
  cases profiled : body.hasProfile with
  | false =>
      rw [profiled, if_neg Bool.false_ne_true] at done
      obtain ⟨⟨id, _⟩, pushedBody, returned⟩ := bind_eq_ok.mp done
      cases returned
      exact Or.inl ⟨rfl, id, rfl, pushedBody⟩
  | true =>
      rw [profiled, if_pos rfl] at done
      obtain ⟨⟨profile, copied⟩, pushedProfile, done⟩ := bind_eq_ok.mp done
      obtain ⟨⟨entry, entered⟩, captures, done⟩ := bind_eq_ok.mp done
      obtain ⟨⟨id, _⟩, pushedBody, returned⟩ := bind_eq_ok.mp done
      cases returned
      exact Or.inr ⟨rfl, profile, copied, entry, entered, id, rfl, pushedProfile, captures,
        pushedBody⟩

theorem captureRuntime_cases {id : RuntimeId}
    (done : state.captureRuntime own body.record.cacheCount.toNat = .ok (id, after)) :
    (body.clonedCachesFor own = [] ∧ state.pushRuntime {} = .ok (id, after)) ∨
      ∃ clonedCaches named,
        state.pushAddresses (body.clonedCachesFor own) = .ok (clonedCaches, named) ∧
          named.pushRuntime { clonedCaches } = .ok (id, after) := by
  unfold captureRuntime at done
  unfold SourceBody.clonedCachesFor
  cases own with
  | none => exact Or.inl ⟨rfl, done⟩
  | some own =>
      simp only at done ⊢
      split at done
      · rename_i cloned
        obtain ⟨⟨clonedCaches, named⟩, pushedClones, pushedRuntime⟩ := bind_eq_ok.mp done
        rw [if_pos cloned]
        exact Or.inr ⟨clonedCaches, named, pushedClones, pushedRuntime⟩
      · rename_i uncloned
        exact Or.inl ⟨if_neg uncloned, done⟩

theorem captureTypeSpecs_cases {sources : Option (List (Option Address))} {caches : Nat}
    {range : TypeSpecRange} (done : state.captureTypeSpecs sources caches = .ok (range, after)) :
    ((∀ given, sources = some given → caches = 0) ∧ range = .empty ∧ after = state) ∨
      ∃ given, sources = some given ∧ state.pushTypeSpecs given caches = .ok (range, after) := by
  unfold captureTypeSpecs at done
  cases sources with
  | none =>
      cases done
      exact Or.inl ⟨fun _ impossible => (by cases impossible), rfl, rfl⟩
  | some given =>
      simp only at done
      split at done
      · rename_i noCaches
        cases done
        exact Or.inl ⟨fun _ _ => noCaches, rfl, rfl⟩
      · exact Or.inr ⟨given, rfl, done⟩

theorem captureGlobalTypeSpecs_cases {sources : List (Option Address)} {range : TypeSpecRange}
    (done : state.captureGlobalTypeSpecs sources = .ok (range, after)) :
    (sources = [] ∧ range = .empty ∧ after = state) ∨
      state.pushTypeSpecs sources sources.length = .ok (range, after) := by
  unfold captureGlobalTypeSpecs at done
  split at done
  · rename_i noSources
    cases done
    exact Or.inl ⟨List.isEmpty_iff.mp noSources, rfl, rfl⟩
  · exact Or.inr done

/-! ### What captures leave -/

theorem captureEntryPoint_adds {entryPoint : EntryPoint}
    (done : state.captureEntryPoint entryPoint record = .ok (captured, after)) :
    state.arena.Adds after.arena ∧ ∃ sharedGuards,
      captured = { record with callCounter := entryPoint.callCounter, sharedGuards } ∧
        ((record.sharedGuards = .empty) →
          sharedGuards.Holds after.arena.guards entryPoint.guardIds) := by
  rcases captureEntryPoint_cases done with
    ⟨nothing, rfl, rfl⟩ | ⟨guards, sharedGuards, members, rfl, pushed⟩
  · rw [nothing]
    exact ⟨.refl _, _, rfl, fun empty => empty ▸ ListRange.holds_empty _⟩
  · obtain ⟨adds, holds⟩ := pushGuards_adds pushed
    rw [members]
    exact ⟨adds, sharedGuards, rfl, fun _ => holds⟩

private theorem captureEntry_adds (inlinee : own.isSome = isInlinee)
    (profiled : body.hasProfile = true)
    (done : (if isInlinee then state.captureEntryPoint body.entryPoint facts.record
      else .ok (facts.record, state)) = .ok (captured, after)) :
    state.arena.Adds after.arena ∧ ∃ sharedGuards,
      captured = { facts.record with callCounter := body.callCounterFor own, sharedGuards } ∧
        sharedGuards.Holds after.arena.guards (body.guardsFor own) := by
  have entry : body.entryPointFor own = if isInlinee then some body.entryPoint else none := by
    rw [SourceBody.entryPointFor, inlinee, profiled, Bool.and_true]
  simp only [SourceBody.callCounterFor, SourceBody.guardsFor, entry]
  cases isInlinee with
  | false =>
      cases done
      exact ⟨.refl _, .empty, rfl, ListRange.holds_empty _⟩
  | true =>
      obtain ⟨adds, sharedGuards, isRecord, holds⟩ := captureEntryPoint_adds done
      exact ⟨adds, sharedGuards, isRecord, holds rfl⟩

theorem captureBody_adds (inlinee : own.isSome = isInlinee)
    (done : state.captureBody body isInlinee facts.record = .ok (captured, after)) :
    state.arena.Adds after.arena ∧ ∃ id profile sharedGuards,
      captured =
        { facts.record with
          callCounter := body.callCounterFor own
          body := some id
          sharedGuards } ∧
        after.arena.body? id = some { body.record with profile } ∧
          profile.map after.arena.profile? = body.profile?.map some ∧
            sharedGuards.Holds after.arena.guards (body.guardsFor own) := by
  rcases captureBody_cases done with ⟨profiled, id, rfl, pushedBody⟩ |
    ⟨profiled, profile, copied, _, entered, id, rfl, pushedProfile, captures, pushedBody⟩
  · have noEntry : body.entryPointFor own = none := by
      rw [SourceBody.entryPointFor, profiled, Bool.and_false]
      rfl
    obtain ⟨adds, found⟩ := pushBody_adds pushedBody
    simp only [SourceBody.callCounterFor, SourceBody.guardsFor, noEntry, SourceBody.profile?,
      profiled]
    exact ⟨adds, id, none, .empty, rfl, found, rfl, ListRange.holds_empty _⟩
  · obtain ⟨addsProfile, foundProfile⟩ := pushProfile_adds pushedProfile
    obtain ⟨addsEntry, sharedGuards, rfl, holds⟩ := captureEntry_adds inlinee profiled captures
    obtain ⟨addsBody, foundBody⟩ := pushBody_adds pushedBody
    refine ⟨(addsProfile.trans addsEntry).trans addsBody, id, some profile, sharedGuards, rfl,
      foundBody, ?_, holds.extend addsBody.lists.guards⟩
    rw [Option.map_some,
      addsBody.lists.profile? (addsEntry.lists.profile? foundProfile), SourceBody.profile?,
      profiled]
    rfl

theorem captureRuntime_adds {id : RuntimeId}
    (done : state.captureRuntime own body.record.cacheCount.toNat = .ok (id, after)) :
    state.arena.Adds after.arena ∧ ∃ clones,
      after.arena.runtime? id = some { clonedCaches := clones } ∧
        clones.Holds after.arena.addresses (body.clonedCachesFor own) := by
  rcases captureRuntime_cases done with
    ⟨nothing, pushed⟩ | ⟨clones, named, pushedClones, pushedRuntime⟩
  · obtain ⟨adds, found⟩ := pushRuntime_adds pushed
    rw [nothing]
    exact ⟨adds, .empty, found, ListRange.holds_empty _⟩
  · obtain ⟨addsClones, holds⟩ := pushAddresses_adds pushedClones
    obtain ⟨addsRuntime, found⟩ := pushRuntime_adds pushedRuntime
    exact ⟨addsClones.trans addsRuntime, clones, found, holds.extend addsRuntime.lists.addresses⟩

theorem captureTypeSpecs_adds {count : Nat} {range : TypeSpecRange}
    (done : state.captureTypeSpecs facts.typeSpecs count = .ok (range, after)) :
    (∀ sources, facts.typeSpecs = some sources → count ≤ sources.length) ∧
      state.arena.Adds after.arena ∧
        range.Holds after.arena.typeSpecs (facts.typeSpecsFor count) := by
  unfold FunctionFacts.typeSpecsFor
  rcases captureTypeSpecs_cases done with ⟨noCaches, rfl, rfl⟩ | ⟨given, isGiven, pushed⟩
  · cases isGiven : facts.typeSpecs with
    | none =>
        exact ⟨fun _ impossible => (by cases impossible), .refl _, ListRange.holds_empty _⟩
    | some sources =>
        cases noCaches sources isGiven
        exact ⟨fun _ _ => Nat.zero_le _, .refl _, ListRange.holds_empty _⟩
  · obtain ⟨enough, adds, holds⟩ := pushTypeSpecs_adds pushed
    rw [isGiven]
    exact ⟨fun _ same => Option.some.inj same ▸ enough, adds, holds⟩

theorem captureGlobalTypeSpecs_adds {range : TypeSpecRange}
    (done : state.captureGlobalTypeSpecs facts.globalTypeSpecs = .ok (range, after)) :
    state.arena.Adds after.arena ∧
      range.Holds after.arena.typeSpecs facts.globalTypeSpecRecords := by
  unfold FunctionFacts.globalTypeSpecRecords
  rcases captureGlobalTypeSpecs_cases done with ⟨noSources, rfl, rfl⟩ | pushed
  · rw [noSources]
    exact ⟨.refl _, ListRange.holds_empty _⟩
  · obtain ⟨_, adds, holds⟩ := pushTypeSpecs_adds pushed
    rw [List.take_length] at holds
    exact ⟨adds, holds⟩

end BuildState

end JitSnapshot
