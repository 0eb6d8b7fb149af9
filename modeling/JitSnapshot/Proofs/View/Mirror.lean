import JitSnapshot.Proofs.Build.Tree
import JitSnapshot.Proofs.View.Navigation

set_option autoImplicit false

/-!
The view of a snapshot that has just been built. A path of steps leads to a view
exactly where it leads to a function, and the questions to that view are
answered from that function. Only the function asked for can have been built as
an inlinee, so nowhere below it is there an entry point or a cloned cache.
-/

namespace JitSnapshot

def FunctionFacts.typeSpecSource? (facts : FunctionFacts) (cache : Nat) : Option Address :=
  (facts.typeSpecs.bind fun sources => sources[cache]?).join

namespace View

structure MirrorsNoBody (view : View) : Prop where
  bodyRecord : view.body? = .ok none
  profile : view.profile? = .ok none
  callCounter : view.callCounter = .null
  sharedGuards : view.sharedGuards = .ok []
  typeSpecs : ∀ cache, view.typeSpec? cache = .ok none
  globalTypeSpecCount : view.globalTypeSpecCount = 0
  runtime : view.runtime? = .ok none

/-- A view answers from the body of a function, and from its runtime context when
the function was built as an inlinee. -/
structure MirrorsBody (view : View) (own : Option RuntimeContext) (facts : FunctionFacts)
    (body : SourceBody) : Prop where
  bodyRecord : ∃ stored, view.body? = .ok (some stored) ∧
    { stored with profile := none } = { body.record with profile := none }
  profile : view.profile? = .ok body.profile?
  callCounter : view.callCounter = body.callCounterFor own
  sharedGuards : view.sharedGuards = .ok (body.guardsFor own)
  typeSpecs : ∀ cache : CacheIndex, cache.raw < body.record.cacheCount →
    view.typeSpec? cache =
      .ok ((facts.typeSpecSource? cache.index).map TypeSpecRecord.ofSource)
  globalTypeSpecCount : view.globalTypeSpecCount.toNat = facts.globalTypeSpecs.length
  globalTypeSpecs : ∀ (index : UInt32) (source : Option Address),
    facts.globalTypeSpecs[index.toNat]? = some source →
      view.globalTypeSpec? index = .ok (source.map TypeSpecRecord.ofSource)
  runtime : ∃ runtime, view.runtime? = .ok (some runtime) ∧
    runtime.clonedCaches = .ok (body.clonedCachesFor own)

structure Mirrors (view : View) (own : Option RuntimeContext) (function : SourceFunction) :
    Prop where
  functionInfo : view.functionInfo = function.facts.functionInfo
  weakRef : view.weakRef = function.facts.weakRef
  localFunction : view.localFunction = function.facts.localFunction
  inlineeBits : view.inlineeBits = function.facts.inlineeBits
  aggressiveInlining : view.isAggressiveInliningEnabled = function.facts.aggressiveInlining
  inlined : view.isInlined = function.facts.inlined
  hasBody : view.hasBody = function.facts.body.isSome
  bodyless : function.facts.body = none → view.MirrorsNoBody
  withBody : ∀ body, function.facts.body = some body → view.MirrorsBody own function.facts body

variable {view : View} {own : Option RuntimeContext} {facts : FunctionFacts}
  {function : SourceFunction} {body : SourceBody}

private theorem flags_contains (facts : FunctionFacts) :
    facts.flags.contains Flags.aggressiveInlining = facts.aggressiveInlining ∧
      facts.flags.contains Flags.inlined = facts.inlined := by
  unfold FunctionFacts.flags
  cases facts.aggressiveInlining <;> cases facts.inlined <;> decide

private theorem mirrorsNoBody (empty : view.record = facts.record) : view.MirrorsNoBody := by
  have ranges : view.record.typeSpecs.isEmpty = true := by rw [empty]; rfl
  exact
    { bodyRecord := by simp only [body?, empty]; rfl
      profile := by simp only [profile?, body?, empty]; rfl
      callCounter := by rw [View.callCounter, empty]; rfl
      sharedGuards := by simp only [View.sharedGuards, empty]; rfl
      typeSpecs := fun cache => by rw [typeSpec?, if_pos ranges]; rfl
      globalTypeSpecCount := by rw [View.globalTypeSpecCount, empty]; rfl
      runtime := by simp only [runtime?, empty]; rfl }

private theorem typeSpec?_of_shows (shows : ShowsBody view.arena own facts body view.record)
    {stored : BodyRecord} (present : view.body? = .ok (some stored))
    (sameCount : stored.cacheCount = body.record.cacheCount) {cache : CacheIndex}
    (inRange : cache.raw < body.record.cacheCount) :
    view.typeSpec? cache =
      .ok ((facts.typeSpecSource? cache.index).map TypeSpecRecord.ofSource) := by
  have reads : view.arena.typeSpecs? view.record.typeSpecs =
      some (facts.typeSpecsFor body.record.cacheCount.toNat) := shows.typeSpecs.reads
  have below : cache.index < body.record.cacheCount.toNat := UInt32.lt_iff_toNat_lt.mp inRange
  unfold FunctionFacts.typeSpecSource?
  cases named : facts.typeSpecs with
  | none =>
      have nothing : facts.typeSpecsFor body.record.cacheCount.toNat = [] := by
        rw [FunctionFacts.typeSpecsFor, named]
      have empty : view.record.typeSpecs.isEmpty = true :=
        (Shape.isEmpty_iff _).mpr (shows.typeSpecs.nil_iff.mp nothing)
      rw [typeSpec?, if_pos empty]
      rfl
  | some sources =>
      have enough := shows.enoughTypeSpecs sources named
      have short : cache.index < sources.length := Nat.lt_of_lt_of_le below enough
      have atCache : (facts.typeSpecsFor body.record.cacheCount.toNat)[cache.index]? =
          some (sources[cache.index].map TypeSpecRecord.ofSource) := by
        rw [FunctionFacts.typeSpecsFor, named]
        simp only [List.getElem?_map, List.getElem?_take, if_pos below,
          List.getElem?_eq_getElem short, Option.map_some]
      have nonempty : ¬view.record.typeSpecs.isEmpty = true := by
        rw [Shape.isEmpty_iff, ← shows.typeSpecs.nil_iff]
        intro nothing
        rw [nothing] at atCache
        cases atCache
      rw [typeSpec?, if_neg nonempty, bodyFor_eq_ok present, ok_bind, if_pos (sameCount ▸ inRange),
        reads]
      simp only [inBounds, ok_bind, atCache, Option.bind_some, List.getElem?_eq_getElem short,
        Option.join_some]

private theorem globalTypeSpec?_of_shows (shows : ShowsBody view.arena own facts body view.record) :
    view.globalTypeSpecCount.toNat = facts.globalTypeSpecs.length ∧
      ∀ (index : UInt32) (source : Option Address),
        facts.globalTypeSpecs[index.toNat]? = some source →
          view.globalTypeSpec? index = .ok (source.map TypeSpecRecord.ofSource) := by
  have reads : view.arena.typeSpecs? view.record.globalTypeSpecs =
      some facts.globalTypeSpecRecords := shows.globalTypeSpecs.reads
  have count : view.globalTypeSpecCount.toNat = facts.globalTypeSpecs.length := by
    rw [globalTypeSpecCount, ← shows.globalTypeSpecs.length_eq,
      FunctionFacts.globalTypeSpecRecords, List.length_map]
  refine ⟨count, fun index source named => ?_⟩
  have inRange : index < view.globalTypeSpecCount := by
    rw [UInt32.lt_iff_toNat_lt, count]
    exact (List.getElem?_eq_some_iff.mp named).1
  have atIndex : facts.globalTypeSpecRecords[index.toNat]? =
      some (source.map TypeSpecRecord.ofSource) := by
    rw [FunctionFacts.globalTypeSpecRecords, List.getElem?_map, named, Option.map_some]
  rw [globalTypeSpec?, if_pos inRange, reads]
  simp only [inBounds, ok_bind, atIndex]

private theorem mirrorsBody (shows : ShowsBody view.arena own facts body view.record) :
    view.MirrorsBody own facts body := by
  obtain ⟨id, profile, atBody, found, foundProfile⟩ := shows.namedBody
  obtain ⟨runtimeId, clones, atRuntime, foundRuntime, holdsClones⟩ := shows.namedRuntime
  have present : view.body? = .ok (some { body.record with profile }) := by
    simp only [body?, atBody, found, inBounds, ok_bind]
    rfl
  have readGuards : view.arena.guards? view.record.sharedGuards = some (body.guardsFor own) :=
    shows.sharedGuards.reads
  have readClones : view.arena.addresses? clones = some (body.clonedCachesFor own) :=
    holdsClones.reads
  obtain ⟨globalCount, globals⟩ := globalTypeSpec?_of_shows shows
  refine
    { bodyRecord := ⟨_, present, rfl⟩
      profile := ?_
      callCounter := shows.callCounter
      sharedGuards := by rw [View.sharedGuards, readGuards]; rfl
      typeSpecs := fun cache inRange => typeSpec?_of_shows shows present rfl inRange
      globalTypeSpecCount := globalCount
      globalTypeSpecs := globals
      runtime := ⟨{
          arena := view.arena
          home := view.home
          id := runtimeId
          record := { clonedCaches := clones } }, ?_, ?_⟩ }
  · simp only [profile?, present, ok_bind]
    cases profile with
    | none =>
        cases expected : body.profile? with
        | none => rfl
        | some words =>
            rw [expected] at foundProfile
            cases foundProfile
    | some id =>
        cases expected : body.profile? with
        | none =>
            rw [expected] at foundProfile
            cases foundProfile
        | some words =>
            rw [expected, Option.map_some, Option.map_some, Option.some.injEq] at foundProfile
            simp only [foundProfile, inBounds, ok_bind]
            rfl
  · simp only [runtime?, atRuntime, foundRuntime, inBounds, ok_bind]
    rfl
  · simp only [RuntimeView.clonedCaches, readClones]
    rfl

theorem mirrors_of_shows (shows : Shows view.arena own function.facts view.record) :
    view.Mirrors own function := by
  obtain ⟨aggressive, inlined⟩ := flags_contains function.facts
  cases hasBody : function.facts.body with
  | none =>
      have empty := (shows_bodyless hasBody).mp shows
      exact
        { functionInfo := by rw [View.functionInfo, empty]; rfl
          weakRef := by rw [View.weakRef, empty]; rfl
          localFunction := by rw [View.localFunction, empty]; rfl
          inlineeBits := by rw [View.inlineeBits, empty]; rfl
          aggressiveInlining := by rw [isAggressiveInliningEnabled, empty]; exact aggressive
          inlined := by rw [isInlined, empty]; exact inlined
          hasBody := by rw [View.hasBody, empty, hasBody]; rfl
          bodyless := fun _ => mirrorsNoBody empty
          withBody := fun body impossible => by rw [hasBody] at impossible; cases impossible }
  | some body =>
      have shown := (shows_body hasBody).mp shows
      obtain ⟨id, _, atBody, _⟩ := shown.namedBody
      exact
        { functionInfo := shown.functionInfo
          weakRef := shown.weakRef
          localFunction := shown.localFunction
          inlineeBits := shown.inlineeBits
          aggressiveInlining := by rw [isAggressiveInliningEnabled, shown.flags, aggressive]
          inlined := by rw [isInlined, shown.flags, inlined]
          hasBody := by rw [View.hasBody, atBody, hasBody]; rfl
          bodyless := fun impossible => by rw [hasBody] at impossible; cases impossible
          withBody := fun other same => by
            rw [hasBody] at same
            cases same
            exact mirrorsBody shown }

end View

variable {arena : Arena} {own : Option RuntimeContext} {function : SourceFunction} {first : Nat}

theorem Stored.mirrored (stored : Stored arena own function first)
    (home : Nat) :
    ∃ start, View.ofNode arena home (.ofIndex first) = .ok start ∧
      ∀ path, ((∃ view, start.Leads path view) ↔
          ∃ target, function.follow? path = some target) ∧
        ∀ view target, start.Leads path view → function.follow? path = some target →
          view.Mirrors (ownAt own path) target := by
  obtain ⟨_, record, found, _⟩ := stored.found
  obtain ⟨start, opened⟩ := View.exists_ofNode found home
  obtain ⟨rfl, rfl, atFirst⟩ := View.ofNode_eq_ok_iff.mp opened
  have sound : start.Sound := by
    rw [View.Sound, atFirst]
    exact stored.isTree
  refine ⟨start, opened, fun path => ⟨?_, ?_⟩⟩
  · rw [sound.exists_leads_iff, atFirst]
    rcases stored.path_cases path with ⟨noFunction, noNode⟩ | found
    · rw [noFunction, noNode]
      simp only [reduceCtorEq, exists_false]
    · obtain ⟨target, position, follows, ends, _⟩ := found
      exact ⟨fun _ => ⟨target, follows⟩, fun _ => ⟨_, ends⟩⟩
  · intro view target leads follows
    obtain ⟨_, sameArena, _, ends⟩ := sound.leads leads
    rw [atFirst] at ends
    obtain ⟨other, alsoFollows, below, sameId, _⟩ := stored.of_endOf? ends
    rw [follows, Option.some.injEq] at alsoFollows
    subst alsoFollows
    obtain ⟨_, shownRecord, atId, shows⟩ := below.found
    rw [sameId, ← sameArena, view.found, Option.some.injEq] at atId
    apply View.mirrors_of_shows
    rw [atId, sameArena]
    exact shows

/-- The view of what has been built leads as far as the functions do that are to be
captured, and on every path it answers from the function there. The root alone has
the data of an inlinee, and only when it was asked for as one. -/
theorem BuildState.build_mirrored {state after : BuildState} {runtime : Option RuntimeContext}
    {isInlinee : Bool} {root : NodeId}
    (built : state.build function runtime isInlinee = .ok (root, after)) (home : Nat) :
    ∃ start, View.ofNode after.arena home root = .ok start ∧
      ∀ path, ((∃ view, start.Leads path view) ↔
          ∃ target, function.follow? path = some target) ∧
        ∀ view target, start.Leads path view → function.follow? path = some target →
          view.Mirrors (ownAt (if isInlinee then runtime else none) path) target := by
  obtain ⟨rfl, builds⟩ := build_builds built
  exact builds.stored.mirrored home

/-- A profiled function that can be called from an entry point of its own, as the
candidate at its one call site can. -/
def guardedCaller : SourceFunction :=
  { facts :=
      { body := some
          { record := { callSiteCount := 1, cacheCount := 1 }
            hasProfile := true
            entryPoint := { callCounter := ⟨64⟩, guards := some (.ofList [⟨3⟩, ⟨2⟩]) } }
        typeSpecs := some [some ⟨8⟩] }
    inlinees := [some
      { facts :=
          { body := some
              { record := {}
                hasProfile := true
                entryPoint := { callCounter := ⟨32⟩ } } } }] }

theorem build_mirrored_guardedCaller :
    ∃ (after : BuildState) (start callee : View),
      (BuildState.start { nodes := #[{}] }).build guardedCaller (some {}) true =
          .ok (⟨1⟩, after) ∧
        View.ofNode after.arena 0 ⟨1⟩ = .ok start ∧
          start.sharedGuards = .ok [⟨3⟩, ⟨2⟩] ∧
            start.typeSpec? ⟨0⟩ = .ok (some { words := [8] }) ∧
              start.Leads [.inlinee 0] callee ∧ callee.callCounter = .null := by
  have outcome : ((BuildState.start { nodes := #[{}] }).build guardedCaller (some {}) true
      ).toOption.map Prod.fst = some ⟨1⟩ := by decide +kernel
  obtain ⟨⟨_, after⟩, built, rfl⟩ := exists_ok_of_outcome outcome
  obtain ⟨start, opened, onward⟩ := BuildState.build_mirrored built 0
  obtain ⟨callee, leads⟩ := (onward [.inlinee 0]).1.mpr ⟨_, rfl⟩
  have atRoot := ((onward []).2 start guardedCaller (.here start) rfl).withBody _ rfl
  have atCallee := ((onward [.inlinee 0]).2 callee _ leads rfl).withBody _ rfl
  exact ⟨after, start, callee, built, opened, atRoot.sharedGuards,
    atRoot.typeSpecs ⟨0⟩ (by decide), leads, atCallee.callCounter⟩

end JitSnapshot
