import JitSnapshot.Build.Node
import JitSnapshot.Proofs.Arena.Growth
import JitSnapshot.Proofs.Tree.Reach

set_option autoImplicit false

/-!
What the node of a function has to show. The record of a node names most of
this by ids and ranges; a record shows a function when what it names in the
arena is the function's own data. `own` is the runtime context of a function
that is built as an inlinee, and absent for every other function.
-/

namespace JitSnapshot

def EntryPoint.guardIds (entryPoint : EntryPoint) : List PropertyId :=
  match entryPoint.guards with
  | none => []
  | some guards => guards.members

namespace SourceBody

variable (own : Option RuntimeContext) (body : SourceBody)

/-- Only the entry point of an inlinee is copied, and only when its body has been profiled. -/
def entryPointFor : Option EntryPoint :=
  if own.isSome && body.hasProfile then some body.entryPoint else none

def callCounterFor : Address :=
  match body.entryPointFor own with
  | none => .null
  | some entryPoint => entryPoint.callCounter

def guardsFor : List PropertyId :=
  match body.entryPointFor own with
  | none => []
  | some entryPoint => entryPoint.guardIds

def clonedCachesFor : List Address :=
  match own with
  | none => []
  | some own =>
      if own.hasClonedCaches then own.clonedCachesFor body.record.cacheCount.toNat else []

def profile? : Option ProfileRecord :=
  if body.hasProfile then some { words := body.record.profileWords } else none

end SourceBody

def FunctionFacts.typeSpecsFor (facts : FunctionFacts) (count : Nat) :
    List (Option TypeSpecRecord) :=
  match facts.typeSpecs with
  | none => []
  | some sources => (sources.take count).map (Option.map TypeSpecRecord.ofSource)

def FunctionFacts.globalTypeSpecRecords (facts : FunctionFacts) : List (Option TypeSpecRecord) :=
  facts.globalTypeSpecs.map (Option.map TypeSpecRecord.ofSource)

structure ShowsBody (arena : Arena) (own : Option RuntimeContext) (facts : FunctionFacts)
    (body : SourceBody) (record : NodeRecord) : Prop where
  functionInfo : record.functionInfo = facts.functionInfo
  weakRef : record.weakRef = facts.weakRef
  inlineeBits : record.inlineeBits = facts.inlineeBits
  localFunction : record.localFunction = facts.localFunction
  flags : record.flags = facts.flags
  callCounter : record.callCounter = body.callCounterFor own
  namedBody : ∃ id profile, record.body = some id ∧
    arena.body? id = some { body.record with profile } ∧
      profile.map arena.profile? = body.profile?.map some
  namedRuntime : ∃ id clones, record.runtime = some id ∧
    arena.runtime? id = some { clonedCaches := clones } ∧
      clones.Holds arena.addresses (body.clonedCachesFor own)
  sharedGuards : record.sharedGuards.Holds arena.guards (body.guardsFor own)
  inlinees : ∃ slots, record.inlinees.Holds arena.slots slots ∧
    slots.length = body.record.callSiteCount.toNat
  fieldInlinees : ∃ slots, record.fieldInlinees.Holds arena.slots slots ∧
    slots.length = body.record.cacheCount.toNat
  typeSpecs : record.typeSpecs.Holds arena.typeSpecs
    (facts.typeSpecsFor body.record.cacheCount.toNat)
  enoughTypeSpecs : ∀ sources, facts.typeSpecs = some sources →
    body.record.cacheCount.toNat ≤ sources.length
  globalTypeSpecs : record.globalTypeSpecs.Holds arena.typeSpecs facts.globalTypeSpecRecords

/-- The record shows the function. Of one without a body it has nothing but the facts. -/
def Shows (arena : Arena) (own : Option RuntimeContext) (facts : FunctionFacts)
    (record : NodeRecord) : Prop :=
  match facts.body with
  | none => record = facts.record
  | some body => ShowsBody arena own facts body record

variable {arena after : Arena} {own : Option RuntimeContext} {facts : FunctionFacts}
  {body : SourceBody} {record : NodeRecord}

theorem shows_bodyless (bodyless : facts.body = none) :
    Shows arena own facts record ↔ record = facts.record := by
  rw [Shows, bodyless]

theorem shows_body (hasBody : facts.body = some body) :
    Shows arena own facts record ↔ ShowsBody arena own facts body record := by
  rw [Shows, hasBody]

namespace ShowsBody

theorem grow (shows : ShowsBody arena own facts body record) (lists : arena.ListsGrow after) :
    ShowsBody after own facts body record := by
  obtain ⟨bodyId, profile, atBody, foundBody, foundProfile⟩ := shows.namedBody
  obtain ⟨runtimeId, clones, atRuntime, foundRuntime, holdsClones⟩ := shows.namedRuntime
  obtain ⟨slots, holdsSlots, slotCount⟩ := shows.inlinees
  obtain ⟨fields, holdsFields, fieldCount⟩ := shows.fieldInlinees
  exact
    { functionInfo := shows.functionInfo
      weakRef := shows.weakRef
      inlineeBits := shows.inlineeBits
      localFunction := shows.localFunction
      flags := shows.flags
      callCounter := shows.callCounter
      namedBody := ⟨bodyId, profile, atBody, lists.body? foundBody,
        Arena.named_grow lists.profile? foundProfile⟩
      namedRuntime := ⟨runtimeId, clones, atRuntime, lists.runtime? foundRuntime,
        holdsClones.extend lists.addresses⟩
      sharedGuards := shows.sharedGuards.extend lists.guards
      inlinees := ⟨slots, holdsSlots.extend lists.slots, slotCount⟩
      fieldInlinees := ⟨fields, holdsFields.extend lists.slots, fieldCount⟩
      typeSpecs := shows.typeSpecs.extend lists.typeSpecs
      enoughTypeSpecs := shows.enoughTypeSpecs
      globalTypeSpecs := shows.globalTypeSpecs.extend lists.typeSpecs }

theorem guardsFor_unprofiled (unprofiled : body.hasProfile = false) :
    body.guardsFor own = [] := by
  rw [SourceBody.guardsFor, SourceBody.entryPointFor, unprofiled, Bool.and_false]
  rfl

private theorem length_clonedCachesFor :
    body.clonedCachesFor own = [] ∨
      (body.clonedCachesFor own).length = body.record.cacheCount.toNat := by
  unfold SourceBody.clonedCachesFor
  cases own with
  | none => exact Or.inl rfl
  | some own =>
      simp only
      split
      · right
        simp only [RuntimeContext.clonedCachesFor, List.length_append, List.length_take,
          List.length_replicate]
        omega
      · exact Or.inl rfl

private theorem optional_count {kind : ListKind} {α : Type} {range : ListRange kind}
    {entries : Array α} {content : List α} {count : UInt32} (holds : range.Holds entries content)
    (counted : content = [] ∨ content.length = count.toNat) :
    range.len = 0 ∨ range.len = count := by
  rcases counted with nothing | all
  · exact Or.inl (holds.nil_iff.mp nothing)
  · exact Or.inr (UInt32.toNat_inj.mp (holds.length_eq.symm.trans all))

private theorem bodyFits (shows : ShowsBody arena own facts body record)
    {profile : Option ProfileId}
    (foundProfile : profile.map arena.profile? = body.profile?.map some) :
    Shape.BodyFits arena record { body.record with profile } := by
  obtain ⟨slots, holdsSlots, slotCount⟩ := shows.inlinees
  obtain ⟨fields, holdsFields, fieldCount⟩ := shows.fieldInlinees
  obtain ⟨runtimeId, clones, atRuntime, foundRuntime, holdsClones⟩ := shows.namedRuntime
  refine
    { profile := ?_
      sharedGuards := ?_
      inlinees := ?_
      fieldInlinees := UInt32.toNat_inj.mp (holdsFields.length_eq.symm.trans fieldCount)
      typeSpecs := ?_
      runtime := ⟨{ clonedCaches := clones },
        { found := ⟨runtimeId, atRuntime, foundRuntime⟩
          clonedCaches := holdsClones.inside
          cloneCount := optional_count holdsClones length_clonedCachesFor }⟩ }
  · rintro id rfl
    cases expected : body.profile? with
    | none =>
        rw [expected] at foundProfile
        cases foundProfile
    | some words =>
        rw [expected] at foundProfile
        exact ⟨words, Option.some.inj foundProfile⟩
  · rintro rfl
    refine shows.sharedGuards.nil_iff.mp (guardsFor_unprofiled ?_)
    cases profiled : body.hasProfile with
    | false => rfl
    | true =>
        rw [SourceBody.profile?, profiled] at foundProfile
        cases foundProfile
  · apply UInt32.toNat_inj.mp
    rw [← holdsSlots.length_eq, slotCount]
    exact (UInt16.toNat_toUInt32 _).symm
  · apply optional_count shows.typeSpecs
    unfold FunctionFacts.typeSpecsFor
    cases named : facts.typeSpecs with
    | none => exact Or.inl rfl
    | some sources =>
        right
        rw [List.length_map, List.length_take]
        exact Nat.min_eq_left (shows.enoughTypeSpecs sources named)

end ShowsBody

namespace Shows

theorem grow (shows : Shows arena own facts record) (lists : arena.ListsGrow after) :
    Shows after own facts record := by
  cases hasBody : facts.body with
  | none => exact (shows_bodyless hasBody).mpr ((shows_bodyless hasBody).mp shows)
  | some body => exact (shows_body hasBody).mpr (((shows_body hasBody).mp shows).grow lists)

theorem wellFormed (shows : Shows arena own facts record) : Shape.WellFormed arena record := by
  cases hasBody : facts.body with
  | none =>
      rw [(shows_bodyless hasBody).mp shows]
      exact
        { ranges :=
            { inlinees := Nat.zero_le _
              fieldInlinees := Nat.zero_le _
              sharedGuards := Nat.zero_le _
              typeSpecs := Nat.zero_le _
              globalTypeSpecs := Nat.zero_le _ }
          bare := fun _ =>
            { runtime := rfl, inlinees := rfl, fieldInlinees := rfl, sharedGuards := rfl,
              typeSpecs := rfl, globalTypeSpecs := rfl, next := rfl }
          body := fun _ impossible => by cases impossible }
  | some body =>
      have shown := (shows_body hasBody).mp shows
      obtain ⟨bodyId, profile, atBody, foundBody, foundProfile⟩ := shown.namedBody
      obtain ⟨slots, holdsSlots, _⟩ := shown.inlinees
      obtain ⟨fields, holdsFields, _⟩ := shown.fieldInlinees
      refine
        { ranges :=
            { inlinees := holdsSlots.inside
              fieldInlinees := holdsFields.inside
              sharedGuards := shown.sharedGuards.inside
              typeSpecs := shown.typeSpecs.inside
              globalTypeSpecs := shown.globalTypeSpecs.inside }
          bare := ?_
          body := ?_ }
      · intro bodyless
        rw [atBody] at bodyless
        cases bodyless
      · intro id named
        rw [atBody, Option.some.injEq] at named
        subst named
        exact ⟨_, foundBody, shown.bodyFits foundProfile⟩

theorem branches_grow (shows : Shows arena own facts record) (lists : arena.ListsGrow after) :
    after.branches record = arena.branches record :=
  Arena.branches_grow shows.wellFormed.ranges lists

end Shows

end JitSnapshot
