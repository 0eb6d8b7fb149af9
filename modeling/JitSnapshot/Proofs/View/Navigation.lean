import JitSnapshot.Proofs.Tree.Reach
import JitSnapshot.View.Runtime

set_option autoImplicit false

/-!
Views over a tree. A view is sound when its node is the root of a tree; the
node of a tree that a step leads to has a sound view in turn, so what holds of
sound views holds wherever steps can lead.
-/

namespace JitSnapshot.View

inductive Leads : View → Path → View → Prop where
  | here (view : View) : Leads view [] view
  | inlinee {view next target : View} {site : CallSite} {path : Path} :
      view.inlinee? site = .ok (some next) → Leads next path target →
        Leads view (.inlinee site.index :: path) target
  | fieldInlinee {view next target : View} {cache : CacheIndex} {path : Path} :
      view.fieldInlinee? cache = .ok (some next) → Leads next path target →
        Leads view (.fieldInlinee cache.index :: path) target
  | next {view next target : View} {path : Path} :
      view.next? = .ok (some next) → Leads next path target → Leads view (.next :: path) target

/-- The nodes below the view's node form a tree. -/
def Sound (view : View) : Prop :=
  view.arena.IsTree view.id

/-- Another view of the same holder's arena, at the end of a step. -/
structure Follows (view : View) (step : Step) (next : View) : Prop where
  arena : next.arena = view.arena
  home : next.home = view.home
  child : view.arena.child? view.id step = some next.id

variable {view : View}

theorem ofNode_eq_ok_iff {arena : Arena} {home : Nat} {id : NodeId} :
    ofNode arena home id = .ok view ↔
      view.arena = arena ∧ view.home = home ∧ view.id = id := by
  unfold ofNode
  split
  · rename_i record found
    simp only [Except.ok.injEq]
    constructor
    · rintro rfl
      exact ⟨rfl, rfl, rfl⟩
    · rintro ⟨rfl, rfl, rfl⟩
      have same : record = view.record := Option.some.inj (found.symm.trans view.found)
      subst same
      rfl
  · rename_i missing
    simp only [reduceCtorEq, false_iff]
    rintro ⟨rfl, -, rfl⟩
    have found := view.found
    rw [missing] at found
    cases found

theorem exists_ofNode {arena : Arena} {id : NodeId} {record : NodeRecord}
    (found : arena.node? id = some record) (home : Nat) :
    ∃ view, ofNode arena home id = .ok view :=
  ⟨{ arena, home, id, record, found }, ofNode_eq_ok_iff.mpr ⟨rfl, rfl, rfl⟩⟩

theorem child?_eq (view : View) (step : Step) :
    view.arena.child? view.id step = (view.arena.branches view.record).at? step := by
  rw [Arena.child?, view.found, Option.bind_some]

namespace Sound

theorem wellFormed (sound : view.Sound) : Shape.WellFormed view.arena view.record :=
  Arena.IsTree.wellFormed sound view.id view.record (Arena.reaches_root _ _) view.found

theorem follows (sound : view.Sound) {step : Step} {next : View}
    (follows : view.Follows step next) : next.Sound := by
  unfold Sound
  rw [follows.arena]
  exact sound.below ⟨[step], by
    rw [← List.nil_append [step], Arena.endOf?_snoc]
    exact follows.child⟩

theorem moveTo?_eq_ok (sound : view.Sound) {step : Step} {slot : Slot}
    (atSlot : view.arena.child? view.id step = slot) :
    ∃ next, view.moveTo? slot = .ok next ∧ next.map View.id = slot ∧
      ∀ target, next = some target → view.Follows step target := by
  cases slot with
  | none => exact ⟨none, rfl, rfl, fun _ impossible => by cases impossible⟩
  | some id =>
      have reaches : view.arena.Reaches view.id id := ⟨[step], by
        rw [← List.nil_append [step], Arena.endOf?_snoc]
        exact atSlot⟩
      obtain ⟨record, found⟩ := sound.found id reaches
      obtain ⟨next, opened⟩ := exists_ofNode found view.home
      obtain ⟨arena, home, sameId⟩ := ofNode_eq_ok_iff.mp opened
      refine ⟨some next, ?_, by rw [Option.map_some, sameId], ?_⟩
      · simp only [moveTo?, move, opened]
        rfl
      · intro target same
        cases same
        exact { arena, home, child := by rw [atSlot, sameId] }

theorem slotView?_eq_ok (sound : view.Sound) {range : SlotRange} {index : Nat} {step : Step}
    (inside : range.stop ≤ view.arena.slots.size) (within : index < range.len.toNat)
    (asStep : (view.arena.branches view.record).at? step =
      ((view.arena.slots? range).getD [])[index]?.join) :
    ∃ next, view.slotView? range index = .ok next ∧
      next.map View.id = view.arena.child? view.id step ∧
        ∀ target, next = some target → view.Follows step target := by
  obtain ⟨slots, holds⟩ := ListRange.exists_holds inside
  have reads : view.arena.slots? range = some slots := holds.reads
  have short : index < slots.length := holds.length_eq ▸ within
  have atIndex : slots[index]? = some slots[index] := List.getElem?_eq_getElem short
  have atSlot : view.arena.child? view.id step = slots[index] := by
    rw [child?_eq, asStep, reads, Option.getD_some, atIndex, Option.join_some]
  obtain ⟨next, moved, ids, onward⟩ := sound.moveTo?_eq_ok atSlot
  refine ⟨next, ?_, by rw [ids, atSlot], onward⟩
  simp only [slotView?, reads, inBounds, ok_bind, atIndex]
  exact moved

theorem body?_cases (sound : view.Sound) :
    (view.record.body = none ∧ view.body? = .ok none) ∨
      ∃ body, view.hasBody = true ∧ view.body? = .ok (some body) ∧
        Shape.BodyFits view.arena view.record body := by
  cases atRecord : view.record.body with
  | none =>
      left
      exact ⟨rfl, by simp only [body?, atRecord]⟩
  | some id =>
      right
      obtain ⟨body, found, fits⟩ := sound.wellFormed.body id atRecord
      refine ⟨body, by rw [hasBody, atRecord]; rfl, ?_, fits⟩
      simp only [body?, atRecord, found, inBounds, ok_bind]
      rfl

theorem fits (sound : view.Sound) {body : BodyRecord} (present : view.body? = .ok (some body)) :
    Shape.BodyFits view.arena view.record body := by
  rcases sound.body?_cases with ⟨_, absent⟩ | ⟨other, _, found, fits⟩
  · rw [present] at absent
    cases absent
  · rw [present] at found
    cases found
    exact fits

end Sound

/-! ### Steps of views -/

theorem bodyFor_eq_ok {asked : BodyQuery} {body : BodyRecord}
    (present : view.body? = .ok (some body)) : view.bodyFor asked = .ok body := by
  rw [bodyFor, present]
  rfl

theorem bodyFor_absent {asked : BodyQuery} (absent : view.body? = .ok none) :
    view.bodyFor asked = .error (.noBody asked view.id) := by
  rw [bodyFor, absent]
  rfl

theorem inlinee?_of_body {body : BodyRecord} {site : CallSite}
    (present : view.body? = .ok (some body)) :
    view.inlinee? site =
      if site.raw < body.callSiteCount then view.slotView? view.record.inlinees site.index
      else .error (.callSiteOutOfRange site view.id body.callSiteCount) := by
  rw [inlinee?, bodyFor_eq_ok present]
  rfl

theorem fieldInlinee?_of_body {body : BodyRecord} {cache : CacheIndex}
    (present : view.body? = .ok (some body)) :
    view.fieldInlinee? cache =
      if cache.raw < body.cacheCount then view.slotView? view.record.fieldInlinees cache.index
      else .error (.cacheOutOfRange cache view.id body.cacheCount) := by
  rw [fieldInlinee?, bodyFor_eq_ok present]
  rfl

namespace Sound

theorem inlinee?_eq_ok (sound : view.Sound) (site : CallSite) {body : BodyRecord}
    (present : view.body? = .ok (some body)) (inRange : site.raw < body.callSiteCount) :
    ∃ next, view.inlinee? site = .ok next ∧
      next.map View.id = view.arena.child? view.id (.inlinee site.index) ∧
        ∀ target, next = some target → view.Follows (.inlinee site.index) target := by
  rw [inlinee?_of_body present, if_pos inRange]
  refine sound.slotView?_eq_ok sound.wellFormed.ranges.inlinees ?_ rfl
  rw [(sound.fits present).inlinees, UInt16.toNat_toUInt32]
  exact UInt16.lt_iff_toNat_lt.mp inRange

theorem fieldInlinee?_eq_ok (sound : view.Sound) (cache : CacheIndex) {body : BodyRecord}
    (present : view.body? = .ok (some body)) (inRange : cache.raw < body.cacheCount) :
    ∃ next, view.fieldInlinee? cache = .ok next ∧
      next.map View.id = view.arena.child? view.id (.fieldInlinee cache.index) ∧
        ∀ target, next = some target → view.Follows (.fieldInlinee cache.index) target := by
  rw [fieldInlinee?_of_body present, if_pos inRange]
  refine sound.slotView?_eq_ok sound.wellFormed.ranges.fieldInlinees ?_ rfl
  rw [(sound.fits present).fieldInlinees]
  exact UInt32.lt_iff_toNat_lt.mp inRange

theorem next?_eq_ok (sound : view.Sound) :
    ∃ next, view.next? = .ok next ∧ next.map View.id = view.record.next ∧
      ∀ target, next = some target → view.Follows .next target :=
  sound.moveTo?_eq_ok (child?_eq view .next)

private theorem inlinee?_follows (sound : view.Sound) {site : CallSite} {next : View}
    (taken : view.inlinee? site = .ok (some next)) :
    view.Follows (.inlinee site.index) next := by
  rcases sound.body?_cases with ⟨_, absent⟩ | ⟨body, _, present, _⟩
  · rw [inlinee?, bodyFor_absent absent] at taken
    cases taken
  · by_cases inRange : site.raw < body.callSiteCount
    · obtain ⟨found, answered, _, onward⟩ := sound.inlinee?_eq_ok site present inRange
      exact onward next (Except.ok.inj (answered.symm.trans taken))
    · rw [inlinee?_of_body present, if_neg inRange] at taken
      cases taken

private theorem fieldInlinee?_follows (sound : view.Sound) {cache : CacheIndex} {next : View}
    (taken : view.fieldInlinee? cache = .ok (some next)) :
    view.Follows (.fieldInlinee cache.index) next := by
  rcases sound.body?_cases with ⟨_, absent⟩ | ⟨body, _, present, _⟩
  · rw [fieldInlinee?, bodyFor_absent absent] at taken
    cases taken
  · by_cases inRange : cache.raw < body.cacheCount
    · obtain ⟨found, answered, _, onward⟩ := sound.fieldInlinee?_eq_ok cache present inRange
      exact onward next (Except.ok.inj (answered.symm.trans taken))
    · rw [fieldInlinee?_of_body present, if_neg inRange] at taken
      cases taken

theorem next?_follows (sound : view.Sound) {next : View}
    (taken : view.next? = .ok (some next)) : view.Follows .next next := by
  obtain ⟨found, answered, _, onward⟩ := sound.next?_eq_ok
  exact onward next (Except.ok.inj (answered.symm.trans taken))

/-- Where steps lead from a sound view there is a sound view, at the end of the same path of ids. -/
theorem leads (sound : view.Sound) {path : Path} {target : View}
    (leads : view.Leads path target) :
    target.Sound ∧ target.arena = view.arena ∧ target.home = view.home ∧
      view.arena.endOf? view.id path = some target.id := by
  have onward {view next target : View} {step : Step} {path : Path}
      (follows : view.Follows step next)
      (rest : target.Sound ∧ target.arena = next.arena ∧ target.home = next.home ∧
        next.arena.endOf? next.id path = some target.id) :
      target.Sound ∧ target.arena = view.arena ∧ target.home = view.home ∧
        view.arena.endOf? view.id (step :: path) = some target.id := by
    obtain ⟨targetSound, arena, home, ends⟩ := rest
    refine ⟨targetSound, arena.trans follows.arena, home.trans follows.home, ?_⟩
    rw [Arena.endOf?, follow?, follows.child, Option.bind_some]
    rw [follows.arena] at ends
    exact ends
  induction leads with
  | here view => exact ⟨sound, rfl, rfl, rfl⟩
  | inlinee taken _ ih =>
      have follows := sound.inlinee?_follows taken
      exact onward follows (ih (sound.follows follows))
  | fieldInlinee taken _ ih =>
      have follows := sound.fieldInlinee?_follows taken
      exact onward follows (ih (sound.follows follows))
  | next taken _ ih =>
      have follows := sound.next?_follows taken
      exact onward follows (ih (sound.follows follows))

private theorem within_of_slot (sound : view.Sound) {range : SlotRange} {index : Nat} {id : NodeId}
    (inside : range.stop ≤ view.arena.slots.size)
    (bare : Shape.Bare view.record → range.len = 0)
    (atSlot : ((view.arena.slots? range).getD [])[index]?.join = some id) :
    index < range.len.toNat ∧ ∃ body, view.body? = .ok (some body) := by
  obtain ⟨slots, holds⟩ := ListRange.exists_holds inside
  have reads : view.arena.slots? range = some slots := holds.reads
  rw [reads, Option.getD_some, Option.join_eq_some_iff] at atSlot
  have within : index < range.len.toNat := by
    rw [← holds.length_eq]
    exact (List.getElem?_eq_some_iff.mp atSlot).1
  refine ⟨within, ?_⟩
  rcases sound.body?_cases with ⟨bodyless, _⟩ | ⟨body, _, present, _⟩
  · rw [bare (sound.wellFormed.bare bodyless)] at within
    exact absurd within (Nat.not_lt_zero _)
  · exact ⟨body, present⟩

theorem exists_step (sound : view.Sound) {step : Step} {id : NodeId}
    (leads : view.arena.child? view.id step = some id) :
    ∃ next, view.Follows step next ∧
      ∀ path target, next.Leads path target → view.Leads (step :: path) target := by
  have atSlot := leads
  rw [child?_eq] at atSlot
  cases step with
  | inlinee site =>
      obtain ⟨within, body, present⟩ :=
        sound.within_of_slot sound.wellFormed.ranges.inlinees (fun bare => bare.inlinees) atSlot
      rw [(sound.fits present).inlinees, UInt16.toNat_toUInt32] at within
      have exactly : (UInt16.ofNat site).toNat = site :=
        UInt16.toNat_ofNat_of_lt' (Nat.lt_trans within body.callSiteCount.toNat_lt)
      have inRange : UInt16.ofNat site < body.callSiteCount :=
        UInt16.lt_iff_toNat_lt.mpr (by rw [exactly]; exact within)
      obtain ⟨next, answered, ids, onward⟩ :=
        sound.inlinee?_eq_ok ⟨.ofNat site⟩ present inRange
      rw [CallSite.index, exactly] at ids onward
      obtain ⟨found, rfl, _⟩ := Option.map_eq_some_iff.mp (ids.trans leads)
      refine ⟨found, onward found rfl, fun path target rest => ?_⟩
      rw [← exactly]
      exact .inlinee answered rest
  | fieldInlinee cache =>
      obtain ⟨within, body, present⟩ :=
        sound.within_of_slot sound.wellFormed.ranges.fieldInlinees
          (fun bare => bare.fieldInlinees) atSlot
      rw [(sound.fits present).fieldInlinees] at within
      have exactly : (UInt32.ofNat cache).toNat = cache :=
        UInt32.toNat_ofNat_of_lt' (Nat.lt_trans within body.cacheCount.toNat_lt)
      have inRange : UInt32.ofNat cache < body.cacheCount :=
        UInt32.lt_iff_toNat_lt.mpr (by rw [exactly]; exact within)
      obtain ⟨next, answered, ids, onward⟩ :=
        sound.fieldInlinee?_eq_ok ⟨.ofNat cache⟩ present inRange
      rw [Id.index, exactly] at ids onward
      obtain ⟨found, rfl, _⟩ := Option.map_eq_some_iff.mp (ids.trans leads)
      refine ⟨found, onward found rfl, fun path target rest => ?_⟩
      rw [← exactly]
      exact .fieldInlinee answered rest
  | next =>
      obtain ⟨next, answered, ids, onward⟩ := sound.next?_eq_ok
      obtain ⟨found, rfl, _⟩ := Option.map_eq_some_iff.mp (ids.trans atSlot)
      exact ⟨found, onward found rfl, fun path target rest => .next answered rest⟩

/-- Steps of views lead as far as the ids do. -/
theorem exists_leads_iff (sound : view.Sound) {path : Path} :
    (∃ target, view.Leads path target) ↔
      ∃ id, view.arena.endOf? view.id path = some id := by
  constructor
  · intro ⟨target, leads⟩
    exact ⟨target.id, (sound.leads leads).2.2.2⟩
  · intro ⟨id, ends⟩
    induction path generalizing view with
    | nil => exact ⟨view, .here view⟩
    | cons step rest ih =>
        rw [Arena.endOf?, follow?] at ends
        obtain ⟨first, toFirst, onward⟩ := Option.bind_eq_some_iff.mp ends
        obtain ⟨next, follows, lengthens⟩ := sound.exists_step toFirst
        have sameId : next.id = first := Option.some.inj (follows.child.symm.trans toFirst)
        have fromNext : next.arena.endOf? next.id rest = some id := by
          rw [follows.arena, sameId]
          exact onward
        obtain ⟨target, leads⟩ := ih (sound.follows follows) fromNext
        exact ⟨target, lengthens rest target leads⟩

end Sound

end JitSnapshot.View
