import JitSnapshot.Configuration
import JitSnapshot.Proofs.DebugTag
import JitSnapshot.Proofs.Tree.Walk
import JitSnapshot.Proofs.View.Chain
import JitSnapshot.Wire.Snapshot

set_option autoImplicit false

/-!
When questions to a view are refused. Every question has its reasons for a
refusal: a body that is missing, a number that is not below the count recorded
for it, a target that no candidate has. On a sound view a question is refused
for these reasons and no others, so no access leads outside a list and no
chain is without end.
-/

namespace JitSnapshot

inductive RuntimeQuery where
  | own
  | inlinee (site : CallSite)
  | fieldInlinee (cache : CacheIndex)
  | target (site : CallSite) (body : Address)

inductive Query where
  | body
  | sourceContext
  | displayName
  | profile
  | inlinee (site : CallSite)
  | fieldInlinee (cache : CacheIndex)
  | next
  | isPolymorphic (site : CallSite)
  | candidates
  | findFunction (functionInfo : Address)
  | runtime (source : RuntimeQuery)
  | clonedCaches (source : RuntimeQuery)
  | clonedCache (source : RuntimeQuery) (cache : CacheIndex)
  | typeSpec (cache : CacheIndex)
  | globalTypeSpec (index : UInt32)
  | sharedGuards
  | hasSharedGuard (id : PropertyId)
  | forcesLoopBody (configuration : Configuration)
  | debugTag (buffer : TagBuffer)

def failure? {ε α : Type} : Except ε α → Option ε
  | .ok _ => none
  | .error fault => some fault

def RuntimeView.Inside (runtime : RuntimeView) : Prop :=
  runtime.record.clonedCaches.stop ≤ runtime.arena.addresses.size

namespace View

def runtimeOf (view : View) : RuntimeQuery → Except ViewError (Option RuntimeView)
  | .own => view.runtime?
  | .inlinee site => view.inlineeRuntime? site
  | .fieldInlinee cache => view.fieldInlineeRuntime? cache
  | .target site body => view.targetRuntime? site body

def clonedCachesOf (view : View) (source : RuntimeQuery) :
    Except ViewError (Option (List Address)) := do
  match ← view.runtimeOf source with
  | none => return none
  | some runtime => return some (← runtime.clonedCaches)

def clonedCacheOf (view : View) (source : RuntimeQuery) (cache : CacheIndex) :
    Except ViewError (Option Address) := do
  match ← view.runtimeOf source with
  | none => return none
  | some runtime => return some (← runtime.clonedCache cache)

def refusal? (view : View) : Query → Option ViewError
  | .body => failure? view.body?
  | .sourceContext => failure? view.sourceContext
  | .displayName => failure? view.displayName
  | .profile => failure? view.profile?
  | .inlinee site => failure? (view.inlinee? site)
  | .fieldInlinee cache => failure? (view.fieldInlinee? cache)
  | .next => failure? view.next?
  | .isPolymorphic site => failure? (view.isPolymorphic site)
  | .candidates => failure? view.candidates
  | .findFunction functionInfo => failure? (view.findFunction? functionInfo)
  | .runtime source => failure? (view.runtimeOf source)
  | .clonedCaches source => failure? (view.clonedCachesOf source)
  | .clonedCache source cache => failure? (view.clonedCacheOf source cache)
  | .typeSpec cache => failure? (view.typeSpec? cache)
  | .globalTypeSpec index => failure? (view.globalTypeSpec? index)
  | .sharedGuards => failure? view.sharedGuards
  | .hasSharedGuard id => failure? (view.hasSharedGuard id)
  | .forcesLoopBody configuration => failure? (view.forcesLoopBody configuration)
  | .debugTag buffer => failure? (view.debugTag buffer)

/-! ### The reasons -/

def LacksBody (view : View) (asked : BodyQuery) (fault : ViewError) : Prop :=
  view.hasBody = false ∧ fault = .noBody asked view.id

def LacksSite (view : View) (site : CallSite) (fault : ViewError) : Prop :=
  view.LacksBody .inlinee fault ∨
    ∃ body, view.body? = .ok (some body) ∧ body.callSiteCount ≤ site.raw ∧
      fault = .callSiteOutOfRange site view.id body.callSiteCount

def CacheBehind (view : View) (cache : CacheIndex) (fault : ViewError) : Prop :=
  ∃ body, view.body? = .ok (some body) ∧ body.cacheCount ≤ cache.raw ∧
    fault = .cacheOutOfRange cache view.id body.cacheCount

def HasBodyAt (view : View) (address : Address) : Prop :=
  ∃ body, view.body? = .ok (some body) ∧ body.address = address

/-- No candidate of the chain at the call site has its body at the address. -/
def LacksTarget (view : View) (site : CallSite) (address : Address) (fault : ViewError) : Prop :=
  ∃ slot views, view.inlinee? site = .ok slot ∧ Chain.Lists ⟨slot⟩ views ∧
    (∀ candidate ∈ views, ¬candidate.HasBodyAt address) ∧
      fault = .noTarget site view.id address

def RefusesRuntime (view : View) (fault : ViewError) : RuntimeQuery → Prop
  | .own => False
  | .inlinee site => view.LacksSite site fault
  | .fieldInlinee cache => view.LacksBody .fieldInlinee fault ∨ view.CacheBehind cache fault
  | .target site body => view.LacksSite site fault ∨ view.LacksTarget site body fault

/-- The reasons to refuse a question. -/
def Refuses (view : View) (fault : ViewError) : Query → Prop
  | .body | .profile | .next | .candidates | .findFunction _ | .sharedGuards
  | .hasSharedGuard _ => False
  | .sourceContext => view.LacksBody .sourceContext fault
  | .displayName => view.LacksBody .displayName fault
  | .forcesLoopBody _ => view.LacksBody .loopBodyPolicy fault
  | .debugTag _ => view.LacksBody .debugTag fault
  | .inlinee site | .isPolymorphic site => view.LacksSite site fault
  | .fieldInlinee cache => view.LacksBody .fieldInlinee fault ∨ view.CacheBehind cache fault
  | .runtime source | .clonedCaches source => view.RefusesRuntime fault source
  | .clonedCache source cache =>
      view.RefusesRuntime fault source ∨
        ∃ runtime, view.runtimeOf source = .ok (some runtime) ∧
          runtime.clonedCacheCount ≤ cache.raw ∧
            fault = .clonedCacheOutOfRange cache runtime.clonedCacheCount
  | .typeSpec cache => view.record.typeSpecs.isEmpty = false ∧ view.CacheBehind cache fault
  | .globalTypeSpec index =>
      view.globalTypeSpecCount ≤ index ∧
        fault = .globalTypeSpecOutOfRange index view.id view.globalTypeSpecCount

variable {view : View}

namespace Sound

private theorem bodyFor_answers (sound : view.Sound) (asked : BodyQuery) :
    Answers (view.bodyFor asked) (view.LacksBody asked)
      (fun body => view.body? = .ok (some body)) := by
  rcases sound.body?_cases with ⟨bodyless, absent⟩ | ⟨body, hasBody, present, _⟩
  · apply Answers.of_error (bodyFor_absent absent)
    intro fault
    simp only [LacksBody, hasBody, bodyless, Option.isSome_none, true_and]
  · apply Answers.of_ok (bodyFor_eq_ok present) present
    rintro fault ⟨bodyless, _⟩
    rw [hasBody] at bodyless
    cases bodyless

private theorem ofBody_answers {α : Type} (sound : view.Sound) (asked : BodyQuery)
    (answer : BodyRecord → α) :
    Answers (view.bodyFor asked >>= fun body => .ok (answer body)) (view.LacksBody asked)
      (fun _ => True) :=
  (sound.bodyFor_answers asked).followed fun _ _ _ => ⟨_, rfl, trivial⟩

theorem inlinee?_answers (sound : view.Sound) (site : CallSite) :
    Answers (view.inlinee? site) (view.LacksSite site)
      (fun next => ∀ target, next = some target → target.Sound) := by
  rcases sound.body?_cases with ⟨bodyless, absent⟩ | ⟨body, hasBody, present, _⟩
  · have refused : view.inlinee? site = .error (.noBody .inlinee view.id) := by
      rw [inlinee?, bodyFor_absent absent]
      rfl
    apply Answers.of_error refused
    intro fault
    simp only [LacksSite, LacksBody, hasBody, bodyless, absent, Option.isSome_none, true_and,
      Except.ok.injEq, reduceCtorEq, false_and, exists_false, or_false]
  · have only (fault : ViewError) : view.LacksSite site fault ↔
        body.callSiteCount ≤ site.raw ∧
          fault = .callSiteOutOfRange site view.id body.callSiteCount := by
      simp only [LacksSite, LacksBody, hasBody, present, Except.ok.injEq, Option.some.injEq,
        Bool.true_eq_false, false_and, false_or, exists_eq_left']
    by_cases inRange : site.raw < body.callSiteCount
    · obtain ⟨next, answered, _, follows⟩ := sound.inlinee?_eq_ok site present inRange
      refine .of_ok answered (fun target same => sound.follows (follows target same)) ?_
      intro fault refused
      exact absurd ((only fault).mp refused).1 (UInt16.not_le.mpr inRange)
    · have refused : view.inlinee? site =
          .error (.callSiteOutOfRange site view.id body.callSiteCount) := by
        rw [inlinee?_of_body present, if_neg inRange]
      apply Answers.of_error refused
      intro fault
      rw [only]
      exact and_iff_right (UInt16.not_lt.mp inRange)

theorem fieldInlinee?_answers (sound : view.Sound) (cache : CacheIndex) :
    Answers (view.fieldInlinee? cache)
      (fun fault => view.LacksBody .fieldInlinee fault ∨ view.CacheBehind cache fault)
      (fun next => ∀ target, next = some target → target.Sound) := by
  rcases sound.body?_cases with ⟨bodyless, absent⟩ | ⟨body, hasBody, present, _⟩
  · have refused : view.fieldInlinee? cache = .error (.noBody .fieldInlinee view.id) := by
      rw [fieldInlinee?, bodyFor_absent absent]
      rfl
    apply Answers.of_error refused
    intro fault
    simp only [CacheBehind, LacksBody, hasBody, bodyless, absent, Option.isSome_none, true_and,
      Except.ok.injEq, reduceCtorEq, false_and, exists_false, or_false]
  · have only (fault : ViewError) :
        view.LacksBody .fieldInlinee fault ∨ view.CacheBehind cache fault ↔
          body.cacheCount ≤ cache.raw ∧
            fault = .cacheOutOfRange cache view.id body.cacheCount := by
      simp only [CacheBehind, LacksBody, hasBody, present, Except.ok.injEq, Option.some.injEq,
        Bool.true_eq_false, false_and, false_or, exists_eq_left']
    by_cases inRange : cache.raw < body.cacheCount
    · obtain ⟨next, answered, _, follows⟩ := sound.fieldInlinee?_eq_ok cache present inRange
      refine .of_ok answered (fun target same => sound.follows (follows target same)) ?_
      intro fault refused
      exact absurd ((only fault).mp refused).1 (UInt32.not_le.mpr inRange)
    · have refused : view.fieldInlinee? cache =
          .error (.cacheOutOfRange cache view.id body.cacheCount) := by
        rw [fieldInlinee?_of_body present, if_neg inRange]
      apply Answers.of_error refused
      intro fault
      rw [only]
      exact and_iff_right (UInt32.not_lt.mp inRange)

theorem isPolymorphic_answers (sound : view.Sound) (site : CallSite) :
    Answers (view.isPolymorphic site) (view.LacksSite site) (fun _ => True) := by
  refine (sound.inlinee?_answers site).followed fun found _ _ => ?_
  cases found with
  | none => exact ⟨false, rfl, trivial⟩
  | some first => exact ⟨_, rfl, trivial⟩

/-! ### Runtime data -/

theorem runtime?_eq_ok (sound : view.Sound) :
    ∃ found, view.runtime? = .ok found ∧ ∀ runtime, found = some runtime → runtime.Inside := by
  have wellFormed := sound.wellFormed
  cases atRecord : view.record.runtime with
  | none =>
      refine ⟨none, by simp only [runtime?, atRecord], ?_⟩
      intro runtime impossible
      cases impossible
  | some id =>
      cases atBody : view.record.body with
      | none =>
          have absent := (wellFormed.bare atBody).runtime
          rw [atRecord] at absent
          cases absent
      | some bodyId =>
          obtain ⟨body, _, fits⟩ := wellFormed.body bodyId atBody
          obtain ⟨runtime, ⟨otherId, named, found⟩, inside, _⟩ := fits.runtime
          rw [atRecord, Option.some.injEq] at named
          subst named
          refine ⟨some { arena := view.arena, home := view.home, id, record := runtime }, ?_, ?_⟩
          · simp only [runtime?, atRecord, found, inBounds, ok_bind]
            rfl
          · intro other same
            cases same
            exact inside

theorem runtimeOf?_eq_ok {next : Option View}
    (sound : ∀ target, next = some target → target.Sound) :
    ∃ found, runtimeOf? next = .ok found ∧ ∀ runtime, found = some runtime → runtime.Inside := by
  cases next with
  | none => exact ⟨none, rfl, fun _ impossible => by cases impossible⟩
  | some target => exact (sound target rfl).runtime?_eq_ok

theorem hasBodyAt_eq_ok (sound : view.Sound) (address : Address) :
    ∃ answer, view.hasBodyAt address = .ok answer ∧ (answer = true ↔ view.HasBodyAt address) := by
  rcases sound.body?_cases with ⟨_, absent⟩ | ⟨body, _, present, _⟩
  · refine ⟨false, by rw [hasBodyAt, absent]; rfl, ?_⟩
    simp only [HasBodyAt, absent, Except.ok.injEq, reduceCtorEq, false_and, exists_false]
  · refine ⟨body.address == address, by rw [hasBodyAt, present]; rfl, ?_⟩
    simp only [HasBodyAt, present, Except.ok.injEq, Option.some.injEq, exists_eq_left',
      beq_iff_eq]

private theorem findBodyAt (sound : view.Sound) (address : Address) :
    ∃ views, view.chain.Lists views ∧
      ((view.findCandidate? (·.hasBodyAt address) = .ok none ∧
          ∀ candidate ∈ views, ¬candidate.HasBodyAt address) ∨
        ∃ candidate ∈ views, candidate.Sound ∧ candidate.HasBodyAt address ∧
          view.findCandidate? (·.hasBodyAt address) = .ok (some candidate)) := by
  classical
  have answers (candidate : View) (candidateSound : candidate.Sound) :
      candidate.hasBodyAt address = .ok (decide (candidate.HasBodyAt address)) := by
    obtain ⟨answer, answered, iff⟩ := candidateSound.hasBodyAt_eq_ok address
    rw [answered, Except.ok.injEq, Bool.eq_iff_iff, iff, decide_eq_true_iff]
  obtain ⟨views, lists, allSound, found⟩ := sound.findCandidate?_eq_ok answers
  refine ⟨views, lists, ?_⟩
  rw [found]
  cases search : views.find? (fun candidate => decide (candidate.HasBodyAt address)) with
  | none =>
      left
      refine ⟨rfl, fun candidate member hasIt => ?_⟩
      exact List.find?_eq_none.mp search candidate member (decide_eq_true hasIt)
  | some candidate =>
      right
      have member := List.mem_of_find?_eq_some search
      have passes := List.find?_some search
      exact ⟨candidate, member, allSound candidate member, of_decide_eq_true passes, rfl⟩

theorem targetRuntime?_answers (sound : view.Sound) (site : CallSite) (address : Address) :
    Answers (view.targetRuntime? site address)
      (fun fault => view.LacksSite site fault ∨ view.LacksTarget site address fault)
      (fun found => ∀ runtime, found = some runtime → runtime.Inside) := by
  have bySite := sound.inlinee?_answers site
  cases atSite : view.inlinee? site with
  | error fault =>
      have refused : view.targetRuntime? site address = .error fault := by
        rw [targetRuntime?, atSite]
        rfl
      apply Answers.of_error refused
      intro other
      have only : view.LacksSite site other ↔ other = fault := by
        rw [← bySite.fails, atSite, Except.error.injEq]
        exact eq_comm
      simp only [only, LacksTarget, atSite, reduceCtorEq, false_and, exists_false, or_false]
  | ok slot =>
      have notSite (fault : ViewError) : ¬view.LacksSite site fault := by
        rw [← bySite.fails, atSite]
        simp only [reduceCtorEq, not_false_iff]
      have noTarget {views : List View} (lists : Chain.Lists ⟨slot⟩ views)
          (none : ∀ candidate ∈ views, ¬candidate.HasBodyAt address) (fault : ViewError) :
          view.LacksSite site fault ∨ view.LacksTarget site address fault ↔
            fault = .noTarget site view.id address := by
        rw [or_iff_right (notSite fault)]
        constructor
        · intro ⟨_, _, _, _, _, same⟩
          exact same
        · intro same
          exact ⟨slot, views, atSite, lists, none, same⟩
      cases slot with
      | none =>
          have refused : view.targetRuntime? site address =
              .error (.noTarget site view.id address) := by
            rw [targetRuntime?, atSite]
            rfl
          refine .of_error refused (noTarget Chain.lists_none ?_)
          intro candidate member
          cases member
      | some first =>
          have firstSound := bySite.returns _ atSite first rfl
          obtain ⟨views, lists, search⟩ := firstSound.findBodyAt address
          rcases search with ⟨found, none⟩ | ⟨candidate, member, candidateSound, hasIt, found⟩
          · have refused : view.targetRuntime? site address =
                .error (.noTarget site view.id address) := by
              rw [targetRuntime?, atSite]
              simp only [ok_bind, found]
              rfl
            exact .of_error refused (noTarget lists none)
          · obtain ⟨runtime, answered, inside⟩ := candidateSound.runtime?_eq_ok
            have returned : view.targetRuntime? site address = .ok runtime := by
              rw [targetRuntime?, atSite]
              simp only [ok_bind, found, answered]
            apply Answers.of_ok returned inside
            rintro fault (lacksSite | ⟨slot, others, same, otherLists, none, _⟩)
            · exact notSite fault lacksSite
            · rw [atSite, Except.ok.injEq] at same
              subst same
              rw [← lists.unique otherLists] at none
              exact none candidate member hasIt

private theorem runtimeOf_answers (sound : view.Sound) (source : RuntimeQuery) :
    Answers (view.runtimeOf source) (fun fault => view.RefusesRuntime fault source)
      (fun found => ∀ runtime, found = some runtime → runtime.Inside) := by
  cases source with
  | own =>
      obtain ⟨found, answered, inside⟩ := sound.runtime?_eq_ok
      exact .of_ok answered inside fun _ impossible => impossible
  | inlinee site =>
      exact (sound.inlinee?_answers site).followed fun _ _ => runtimeOf?_eq_ok
  | fieldInlinee cache =>
      exact (sound.fieldInlinee?_answers cache).followed fun _ _ => runtimeOf?_eq_ok
  | target site address => exact sound.targetRuntime?_answers site address

/-! ### Flat lists -/

theorem typeSpec?_answers (sound : view.Sound) (cache : CacheIndex) :
    Answers (view.typeSpec? cache)
      (fun fault => view.record.typeSpecs.isEmpty = false ∧ view.CacheBehind cache fault)
      (fun _ => True) := by
  cases empty : view.record.typeSpecs.isEmpty with
  | true =>
      have returned : view.typeSpec? cache = .ok none := by
        rw [typeSpec?, if_pos empty]
        rfl
      exact .of_ok returned trivial fun _ => by simp
  | false =>
      have lenNonzero : view.record.typeSpecs.len ≠ 0 := by
        intro zero
        rw [(Shape.isEmpty_iff _).mpr zero] at empty
        cases empty
      rcases sound.body?_cases with ⟨bodyless, absent⟩ | ⟨body, hasBody, present, fits⟩
      · exact absurd (sound.wellFormed.bare bodyless).typeSpecs lenNonzero
      · have only (fault : ViewError) : false = false ∧ view.CacheBehind cache fault ↔
            body.cacheCount ≤ cache.raw ∧
              fault = .cacheOutOfRange cache view.id body.cacheCount := by
          simp only [CacheBehind, present, Except.ok.injEq, Option.some.injEq, true_and,
            exists_eq_left']
        have unfolded : view.typeSpec? cache =
            if cache.raw < body.cacheCount then do
              let typeSpecs ← inBounds (view.arena.typeSpecs? view.record.typeSpecs)
              inBounds typeSpecs[cache.index]?
            else .error (.cacheOutOfRange cache view.id body.cacheCount) := by
          rw [typeSpec?, empty, bodyFor_eq_ok present]
          rfl
        by_cases inRange : cache.raw < body.cacheCount
        · have len := fits.typeSpecs.resolve_left lenNonzero
          obtain ⟨content, holds⟩ := ListRange.exists_holds sound.wellFormed.ranges.typeSpecs
          have reads : view.arena.typeSpecs? view.record.typeSpecs = some content := holds.reads
          have within : cache.index < content.length := by
            rw [holds.length_eq, len]
            exact UInt32.lt_iff_toNat_lt.mp inRange
          have returned : view.typeSpec? cache = .ok content[cache.index] := by
            rw [unfolded, if_pos inRange, reads]
            simp only [inBounds, ok_bind, List.getElem?_eq_getElem within]
          apply Answers.of_ok returned trivial
          intro fault refused
          exact absurd ((only fault).mp refused).1 (UInt32.not_le.mpr inRange)
        · have refused : view.typeSpec? cache =
              .error (.cacheOutOfRange cache view.id body.cacheCount) := by
            rw [unfolded, if_neg inRange]
          apply Answers.of_error refused
          intro fault
          rw [only]
          exact and_iff_right (UInt32.not_lt.mp inRange)

theorem globalTypeSpec?_answers (sound : view.Sound) (index : UInt32) :
    Answers (view.globalTypeSpec? index)
      (fun fault => view.globalTypeSpecCount ≤ index ∧
        fault = .globalTypeSpecOutOfRange index view.id view.globalTypeSpecCount)
      (fun _ => True) := by
  obtain ⟨content, holds⟩ := ListRange.exists_holds sound.wellFormed.ranges.globalTypeSpecs
  have reads : view.arena.typeSpecs? view.record.globalTypeSpecs = some content := holds.reads
  by_cases inRange : index < view.globalTypeSpecCount
  · have within : index.toNat < content.length := by
      rw [holds.length_eq]
      exact UInt32.lt_iff_toNat_lt.mp inRange
    have returned : view.globalTypeSpec? index = .ok content[index.toNat] := by
      rw [globalTypeSpec?, if_pos inRange, reads]
      simp only [inBounds, ok_bind, List.getElem?_eq_getElem within]
    apply Answers.of_ok returned trivial
    intro fault refused
    exact absurd refused.1 (UInt32.not_le.mpr inRange)
  · have refused : view.globalTypeSpec? index =
        .error (.globalTypeSpecOutOfRange index view.id view.globalTypeSpecCount) := by
      rw [globalTypeSpec?, if_neg inRange]
      rfl
    apply Answers.of_error refused
    intro fault
    exact and_iff_right (UInt32.not_lt.mp inRange)

theorem sharedGuards_eq_ok (sound : view.Sound) :
    ∃ content, view.sharedGuards = .ok content := by
  obtain ⟨content, holds⟩ := ListRange.exists_holds sound.wellFormed.ranges.sharedGuards
  have reads : view.arena.guards? view.record.sharedGuards = some content := holds.reads
  exact ⟨content, by rw [sharedGuards, reads]; rfl⟩

theorem clonedCaches_eq_ok {runtime : RuntimeView} (inside : runtime.Inside) :
    ∃ content, runtime.clonedCaches = .ok content ∧
      content.length = runtime.clonedCacheCount.toNat := by
  obtain ⟨content, holds⟩ := ListRange.exists_holds inside
  have reads : runtime.arena.addresses? runtime.record.clonedCaches = some content := holds.reads
  exact ⟨content, by rw [RuntimeView.clonedCaches, reads]; rfl, holds.length_eq⟩

private theorem clonedCache_eq_error_iff {runtime : RuntimeView} (inside : runtime.Inside)
    {cache : CacheIndex} {fault : ViewError} :
    runtime.clonedCache cache = .error fault ↔
      runtime.clonedCacheCount ≤ cache.raw ∧
        fault = .clonedCacheOutOfRange cache runtime.clonedCacheCount := by
  obtain ⟨content, reads, length⟩ := clonedCaches_eq_ok inside
  by_cases inRange : cache.raw < runtime.clonedCacheCount
  · have within : cache.index < content.length := by
      rw [length]
      exact UInt32.lt_iff_toNat_lt.mp inRange
    have returned : runtime.clonedCache cache = .ok content[cache.index] := by
      rw [RuntimeView.clonedCache, if_pos inRange, reads]
      simp only [inBounds, ok_bind, List.getElem?_eq_getElem within]
    simp only [returned, reduceCtorEq, false_iff, not_and]
    intro outside
    exact absurd inRange (UInt32.not_lt.mpr outside)
  · have refused : runtime.clonedCache cache =
        .error (.clonedCacheOutOfRange cache runtime.clonedCacheCount) := by
      rw [RuntimeView.clonedCache, if_neg inRange]
      rfl
    rw [refused, Except.error.injEq, and_iff_right (UInt32.not_lt.mp inRange)]
    exact eq_comm

private theorem clonedCachesOf_answers (sound : view.Sound) (source : RuntimeQuery) :
    Answers (view.clonedCachesOf source) (fun fault => view.RefusesRuntime fault source)
      (fun _ => True) := by
  apply (sound.runtimeOf_answers source).followed
  intro found _ inside
  cases found with
  | none => exact ⟨none, rfl, trivial⟩
  | some runtime =>
      obtain ⟨content, reads, _⟩ := clonedCaches_eq_ok (inside runtime rfl)
      exact ⟨some content, by simp only [reads, ok_bind]; rfl, trivial⟩

private theorem clonedCacheOf_eq_error_iff (sound : view.Sound) {source : RuntimeQuery}
    {cache : CacheIndex} {fault : ViewError} :
    view.clonedCacheOf source cache = .error fault ↔
      view.RefusesRuntime fault source ∨
        ∃ runtime, view.runtimeOf source = .ok (some runtime) ∧
          runtime.clonedCacheCount ≤ cache.raw ∧
            fault = .clonedCacheOutOfRange cache runtime.clonedCacheCount := by
  have answers := sound.runtimeOf_answers source
  rw [clonedCacheOf, bind_eq_error, answers.fails]
  apply or_congr_right
  constructor
  · intro ⟨found, answered, failed⟩
    cases found with
    | none => cases failed
    | some runtime =>
        rcases bind_eq_error.mp failed with refused | ⟨_, _, impossible⟩
        · exact ⟨runtime, answered,
            (clonedCache_eq_error_iff (answers.returns _ answered runtime rfl)).mp refused⟩
        · cases impossible
  · intro ⟨runtime, answered, outside⟩
    refine ⟨some runtime, answered, bind_eq_error.mpr (Or.inl ?_)⟩
    exact (clonedCache_eq_error_iff (answers.returns _ answered runtime rfl)).mpr outside

/-! ### All questions -/

private theorem failure?_eq_some_iff {ε α : Type} {outcome : Except ε α} {fault : ε} :
    failure? outcome = some fault ↔ outcome = .error fault := by
  cases outcome <;> simp [failure?]

private theorem failure?_of_ok {ε α : Type} {outcome : Except ε α} {fault : ε}
    (returned : ∃ value, outcome = .ok value) : failure? outcome = some fault ↔ False := by
  obtain ⟨value, rfl⟩ := returned
  simp only [failure?, reduceCtorEq]

theorem refusal?_eq_some_iff (sound : view.Sound) (query : Query) (fault : ViewError) :
    view.refusal? query = some fault ↔ view.Refuses fault query := by
  have ofAnswers {α : Type} {outcome : Except ViewError α} {reason : ViewError → Prop}
      {good : α → Prop} (answers : Answers outcome reason good) :
      failure? outcome = some fault ↔ reason fault :=
    failure?_eq_some_iff.trans (answers.fails fault)
  cases query with
  | body =>
      refine failure?_of_ok ?_
      rcases sound.body?_cases with ⟨_, absent⟩ | ⟨body, _, present, _⟩
      · exact ⟨_, absent⟩
      · exact ⟨_, present⟩
  | sourceContext => exact ofAnswers (sound.ofBody_answers _ _)
  | displayName => exact ofAnswers (sound.ofBody_answers _ _)
  | profile =>
      refine failure?_of_ok ?_
      rcases sound.body?_cases with ⟨_, absent⟩ | ⟨body, _, present, fits⟩
      · exact ⟨none, by rw [profile?, absent]; rfl⟩
      · cases atBody : body.profile with
        | none => exact ⟨none, by simp only [profile?, present, ok_bind, atBody]; rfl⟩
        | some id =>
            obtain ⟨profile, found⟩ := fits.profile id atBody
            exact ⟨some profile, by
              simp only [profile?, present, ok_bind, atBody, found, inBounds]
              rfl⟩
  | inlinee site => exact ofAnswers (sound.inlinee?_answers site)
  | fieldInlinee cache => exact ofAnswers (sound.fieldInlinee?_answers cache)
  | next =>
      obtain ⟨next, answered, _⟩ := sound.next?_eq_ok
      exact failure?_of_ok ⟨next, answered⟩
  | isPolymorphic site =>
      exact ofAnswers (sound.isPolymorphic_answers site)
  | candidates =>
      obtain ⟨views, _, answered⟩ := sound.candidates_eq_ok
      exact failure?_of_ok ⟨views, answered⟩
  | findFunction functionInfo =>
      obtain ⟨views, _, _, answered⟩ := sound.findCandidate?_eq_ok
        fun (candidate : View) _ =>
          (rfl : Except.ok (candidate.functionInfo == functionInfo) = .ok _)
      exact failure?_of_ok ⟨_, answered⟩
  | runtime source => exact ofAnswers (sound.runtimeOf_answers source)
  | clonedCaches source => exact ofAnswers (sound.clonedCachesOf_answers source)
  | clonedCache source cache => exact failure?_eq_some_iff.trans sound.clonedCacheOf_eq_error_iff
  | typeSpec cache => exact ofAnswers (sound.typeSpec?_answers cache)
  | globalTypeSpec index => exact ofAnswers (sound.globalTypeSpec?_answers index)
  | sharedGuards => exact failure?_of_ok sound.sharedGuards_eq_ok
  | hasSharedGuard id =>
      obtain ⟨content, answered⟩ := sound.sharedGuards_eq_ok
      exact failure?_of_ok ⟨content.contains id, by rw [hasSharedGuard, answered]; rfl⟩
  | forcesLoopBody configuration => exact ofAnswers (sound.ofBody_answers _ _)
  | debugTag buffer =>
      rcases sound.body?_cases with ⟨bodyless, absent⟩ | ⟨body, hasBody, present, _⟩
      · have refused : view.debugTag buffer = .error (.noBody .debugTag view.id) := by
          rw [debugTag, bodyFor_absent absent]
          rfl
        rw [refusal?, refused]
        simp only [failure?, Option.some.injEq, Refuses, LacksBody, hasBody, bodyless,
          Option.isSome_none, true_and]
        exact eq_comm
      · obtain ⟨after, answered⟩ := debugTag_eq_ok (bodyFor_eq_ok present)
        refine (failure?_of_ok ⟨_, answered⟩).trans ?_
        simp only [Refuses, LacksBody, hasBody, Bool.true_eq_false, false_and]

end Sound

theorem not_refusesRuntime_outOfBounds (source : RuntimeQuery) :
    ¬view.RefusesRuntime .outOfBounds source := by
  cases source <;>
    simp [RefusesRuntime, LacksSite, LacksBody, CacheBehind, LacksTarget]

theorem not_refuses_outOfBounds (query : Query) : ¬view.Refuses .outOfBounds query := by
  cases query <;>
    simp [Refuses, LacksSite, LacksBody, CacheBehind, not_refusesRuntime_outOfBounds]

end View

/-- The snapshot has been validated, or was read from bytes. -/
def Admitted (arena : Arena) (root : NodeId) : Prop :=
  (∃ count, arena.validate root = .ok count) ∨
    ∃ bytes, Snapshot.decode bytes = .ok { root, arena }

theorem Snapshot.validate_of_decode {bytes : List UInt8} {snapshot : Snapshot}
    (decoded : Snapshot.decode bytes = .ok snapshot) :
    ∃ count, snapshot.arena.validate snapshot.root = .ok count := by
  unfold Snapshot.decode at decoded
  split at decoded
  · cases decoded
  · split at decoded
    · cases decoded
    · split at decoded
      · cases decoded
      · split at decoded
        · cases decoded
        · rename_i count valid
          cases decoded
          exact ⟨count, valid⟩

theorem Admitted.isTree {arena : Arena} {root : NodeId} (admitted : Admitted arena root) :
    arena.IsTree root := by
  have valid : ∃ count, arena.validate root = .ok count := by
    rcases admitted with valid | ⟨bytes, decoded⟩
    · exact valid
    · exact Snapshot.validate_of_decode decoded
  obtain ⟨count, verdict⟩ := valid
  exact (Arena.validate_eq_ok_iff_isTree.mp verdict).1

/-- Over an admitted snapshot the root has a view, and wherever successful steps lead
from there the chain of candidates ends, a question is refused exactly for its
reasons, and none leads outside a list. -/
theorem admitted_refuses_exactly {arena : Arena} {root : NodeId}
    (admitted : Admitted arena root) (home : Nat) :
    ∃ start, View.ofNode arena home root = .ok start ∧
      ∀ path view, start.Leads path view →
        (∃ views, view.chain.Lists views) ∧
          ∀ query, (∀ fault, view.refusal? query = some fault ↔ view.Refuses fault query) ∧
            view.refusal? query ≠ some .outOfBounds := by
  have tree := admitted.isTree
  obtain ⟨record, found⟩ := tree.found root (Arena.reaches_root arena root)
  obtain ⟨start, opened⟩ := View.exists_ofNode found home
  obtain ⟨rfl, rfl, rfl⟩ := View.ofNode_eq_ok_iff.mp opened
  refine ⟨start, opened, fun path view leads => ?_⟩
  have sound : view.Sound := (View.Sound.leads tree leads).1
  obtain ⟨views, lists, _⟩ := sound.chain_lists
  refine ⟨⟨views, lists⟩, fun query => ⟨sound.refusal?_eq_some_iff query, ?_⟩⟩
  intro outside
  exact View.not_refuses_outOfBounds query ((sound.refusal?_eq_some_iff query _).mp outside)

def twoCandidates : Arena :=
  { nodes := #[
      { body := some ⟨0⟩, runtime := some ⟨0⟩, inlinees := ⟨0, 1⟩ },
      { body := some ⟨1⟩, runtime := some ⟨1⟩, next := some ⟨2⟩ },
      {}]
    bodies := #[{ callSiteCount := 1 }, {}]
    runtimes := #[{}, {}]
    slots := #[some ⟨1⟩] }

theorem admitted_refuses_exactly_twoCandidates :
    Admitted twoCandidates ⟨0⟩ ∧
      ∃ start first, View.ofNode twoCandidates 0 ⟨0⟩ = .ok start ∧
        start.Leads [.inlinee 0] first ∧ (∃ views, first.chain.Lists views) ∧
          first.refusal? (.inlinee ⟨7⟩) =
            some (.callSiteOutOfRange ⟨7⟩ ⟨1⟩ 0) := by
  have admitted : Admitted twoCandidates ⟨0⟩ := Or.inl ⟨3, by decide +kernel⟩
  obtain ⟨start, opened, onward⟩ := admitted_refuses_exactly admitted 0
  have found : ∃ record, twoCandidates.node? ⟨1⟩ = some record := ⟨_, rfl⟩
  obtain ⟨record, atRecord⟩ := found
  obtain ⟨first, atFirst⟩ := View.exists_ofNode atRecord 0
  have step : start.inlinee? ⟨0⟩ = .ok (some first) := by
    cases opened
    cases atFirst
    rfl
  have leads : start.Leads [.inlinee 0] first := .inlinee step (.here first)
  obtain ⟨ends, refuses⟩ := onward [.inlinee 0] first leads
  refine ⟨admitted, start, first, opened, leads, ends, ?_⟩
  refine ((refuses (.inlinee ⟨7⟩)).1 _).mpr ?_
  cases atFirst
  exact Or.inr ⟨{}, rfl, by decide, rfl⟩

end JitSnapshot
