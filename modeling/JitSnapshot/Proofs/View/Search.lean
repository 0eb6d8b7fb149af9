import JitSnapshot.Proofs.View.Refusal

set_option autoImplicit false

/-!
Searches in chains of candidates. Over a tree a chain is one list without
repetitions, and whatever is searched for, by identity or by body, from the
front of the chain or from a candidate inside it, is the first of that list that
has what is asked for.
-/

namespace JitSnapshot

/-- One of the members has a property, and none before it has. -/
def FirstWith {α : Type} (has : α → Prop) (members : List α) (member : α) : Prop :=
  ∃ before after, members = before ++ member :: after ∧ has member ∧
    ∀ earlier ∈ before, ¬has earlier

section FirstWith

variable {α : Type} {has : α → Prop} {members : List α} {member : α}

private theorem find?_eq_some_iff_firstWith [DecidablePred has] :
    members.find? (fun item => decide (has item)) = some member ↔
      FirstWith has members member := by
  rw [List.find?_eq_some_iff_append, decide_eq_true_iff]
  constructor
  · intro ⟨hasIt, before, after, split, noneBefore⟩
    refine ⟨before, after, split, hasIt, fun earlier inBefore alsoHas => ?_⟩
    have refused := noneBefore earlier inBefore
    rw [decide_eq_true alsoHas] at refused
    contradiction
  · intro ⟨before, after, split, hasIt, noneBefore⟩
    refine ⟨hasIt, before, after, split, fun earlier inBefore => ?_⟩
    rw [decide_eq_false (noneBefore earlier inBefore)]
    rfl

private theorem find?_eq_none_iff [DecidablePred has] :
    members.find? (fun item => decide (has item)) = none ↔ ∀ item ∈ members, ¬has item := by
  simp only [List.find?_eq_none, decide_eq_true_eq]

theorem FirstWith.mem (first : FirstWith has members member) : member ∈ members := by
  obtain ⟨before, after, rfl, _⟩ := first
  exact List.mem_append_right _ List.mem_cons_self

theorem FirstWith.holds (first : FirstWith has members member) : has member := by
  obtain ⟨_, _, _, hasIt, _⟩ := first
  exact hasIt

end FirstWith

/-! ### The list of a chain -/

namespace Chain

variable {chain rest : Chain} {view : View} {views : List View}

private theorem front_of_take?_none (ended : chain.take? = .ok none) : chain.front = none := by
  obtain ⟨front⟩ := chain
  cases front with
  | none => rfl
  | some view =>
      obtain ⟨_, _, impossible⟩ := bind_eq_ok.mp ended
      cases impossible

private theorem front_of_take?_some (taken : chain.take? = .ok (some (view, rest))) :
    chain.front = some view ∧ view.next? = .ok rest.front := by
  obtain ⟨front⟩ := chain
  cases front with
  | none => cases taken
  | some first =>
      obtain ⟨successor, answered, returned⟩ := bind_eq_ok.mp taken
      cases returned
      exact ⟨rfl, answered⟩

/-- The list starts where the chain does, and behind each candidate stands its successor. -/
theorem Lists.links (lists : chain.Lists views) :
    chain.front = views.head? ∧
      ∀ (index : Nat) (candidate : View), views[index]? = some candidate →
        candidate.next? = .ok views[index + 1]? := by
  induction lists with
  | done ended =>
      refine ⟨front_of_take?_none ended, fun index candidate impossible => ?_⟩
      rw [List.getElem?_nil] at impossible
      contradiction
  | @more chain rest view views taken _ ih =>
      obtain ⟨atFront, follows⟩ := front_of_take?_some taken
      obtain ⟨restFront, onward⟩ := ih
      refine ⟨atFront, fun index candidate atIndex => ?_⟩
      cases index with
      | zero =>
          cases atIndex
          rw [follows, restFront, List.head?_eq_getElem?]
          rfl
      | succ index => exact onward index candidate atIndex

end Chain

namespace View

variable {view : View} {views : List View}

/-- The views from one on: each is of the node that the record before it names
as its successor, the last names none, and none is met twice. -/
structure Chained (first : View) (views : List View) : Prop where
  head : views.head? = some first
  together : ∀ candidate ∈ views,
    candidate.arena = first.arena ∧ candidate.home = first.home
  onward : ∀ index candidate, views[index]? = some candidate →
    candidate.record.next = views[index + 1]?.map View.id
  distinct : (views.map View.id).Nodup

namespace Sound

/-- The candidate at a position is at the end of as many steps to a successor. -/
theorem at_position (sound : view.Sound) (lists : view.chain.Lists views) {index : Nat}
    {candidate : View} (atIndex : views[index]? = some candidate) :
    candidate.Sound ∧ candidate.arena = view.arena ∧ candidate.home = view.home ∧
      view.arena.endOf? view.id (List.replicate index .next) = some candidate.id := by
  obtain ⟨atFront, links⟩ := lists.links
  induction index generalizing candidate with
  | zero =>
      rw [← List.head?_eq_getElem?, ← atFront] at atIndex
      cases atIndex
      exact ⟨sound, rfl, rfl, rfl⟩
  | succ index ih =>
      have within : index < views.length :=
        Nat.lt_of_succ_lt (List.getElem?_eq_some_iff.mp atIndex).1
      have atBefore : views[index]? = some views[index] := List.getElem?_eq_getElem within
      obtain ⟨beforeSound, arena, home, ends⟩ := ih atBefore
      have taken := links index views[index] atBefore
      rw [atIndex] at taken
      have follows := beforeSound.next?_follows taken
      refine ⟨beforeSound.follows follows, follows.arena.trans arena,
        follows.home.trans home, ?_⟩
      rw [List.replicate_succ', Arena.endOf?_snoc, ends, Option.bind_some, ← arena]
      exact follows.child

private theorem of_mem (sound : view.Sound) (lists : view.chain.Lists views) :
    ∀ candidate ∈ views, candidate.Sound := by
  intro candidate member
  obtain ⟨index, atIndex⟩ := List.mem_iff_getElem?.mp member
  exact (sound.at_position lists atIndex).1

theorem chained (sound : view.Sound) (lists : view.chain.Lists views) : view.Chained views := by
  obtain ⟨atFront, links⟩ := lists.links
  refine { head := atFront.symm, together := ?_, onward := ?_, distinct := ?_ }
  · intro candidate member
    obtain ⟨index, atIndex⟩ := List.mem_iff_getElem?.mp member
    obtain ⟨_, arena, home, _⟩ := sound.at_position lists atIndex
    exact ⟨arena, home⟩
  · intro index candidate atIndex
    obtain ⟨candidateSound, _⟩ := sound.at_position lists atIndex
    obtain ⟨next, answered, ids, _⟩ := candidateSound.next?_eq_ok
    rw [links index candidate atIndex, Except.ok.injEq] at answered
    rw [answered, ids]
  · -- One node at two positions would be at the end of two paths.
    rw [List.nodup_iff_getElem?_ne_getElem?]
    intro first second before within same
    rw [List.length_map] at within
    have atSecond : views[second]? = some views[second] := List.getElem?_eq_getElem within
    have atFirst : views[first]? = some views[first] :=
      List.getElem?_eq_getElem (Nat.lt_trans before within)
    rw [List.getElem?_map, List.getElem?_map, atFirst, atSecond, Option.map_some,
      Option.map_some, Option.some.injEq] at same
    obtain ⟨_, _, _, toFirst⟩ := sound.at_position lists atFirst
    obtain ⟨_, _, _, toSecond⟩ := sound.at_position lists atSecond
    rw [same] at toFirst
    have samePath := congrArg List.length (sound.unique _ _ _ toFirst toSecond)
    simp only [List.length_replicate] at samePath
    omega

theorem findCandidate?_eq (sound : view.Sound) (lists : view.chain.Lists views)
    {test : View → Except ViewError Bool} {passes : View → Bool}
    (answers : ∀ candidate : View, candidate.Sound → test candidate = .ok (passes candidate)) :
    view.findCandidate? test = .ok (views.find? passes) := by
  obtain ⟨others, othersLists, _, found⟩ := sound.findCandidate?_eq_ok answers
  rw [found, lists.unique othersLists]

theorem candidates_eq (sound : view.Sound) (lists : view.chain.Lists views) :
    view.candidates = .ok views := by
  obtain ⟨others, othersLists, found⟩ := sound.candidates_eq_ok
  rw [found, lists.unique othersLists]

end Sound

/-! ### Search by identity -/

structure FindsFunctions (view : View) (views : List View) : Prop where
  found : ∀ address candidate, view.findFunction? address = .ok (some candidate) ↔
    FirstWith (·.functionInfo = address) views candidate
  missing : ∀ address, view.findFunction? address = .ok none ↔
    ∀ candidate ∈ views, candidate.functionInfo ≠ address

theorem Sound.findsFunctions (sound : view.Sound) (lists : view.chain.Lists views) :
    view.FindsFunctions views := by
  have search (address : Address) : view.findFunction? address =
      .ok (views.find? fun candidate => decide (candidate.functionInfo = address)) :=
    sound.findCandidate?_eq lists fun _ _ => rfl
  refine { found := fun address candidate => ?_, missing := fun address => ?_ }
  · rw [search, Except.ok.injEq]
    exact find?_eq_some_iff_firstWith
  · rw [search, Except.ok.injEq]
    exact find?_eq_none_iff

/-! ### Search by body -/

/-- The chain that starts with what a slot holds. That of an empty slot has no candidates. -/
def SlotChained : Option View → List View → Prop
  | none, views => views = []
  | some first, views => first.Chained views

/-- A call site is asked about the chain of its slot: whether there is more than
one candidate, and for the runtime data of the first one whose body is at an
address. -/
structure AnswersAt (view : View) (site : CallSite) (slot : Option View)
    (views : List View) : Prop where
  runtime : ∀ address found, view.targetRuntime? site address = .ok found ↔
    ∃ candidate, FirstWith (·.HasBodyAt address) views candidate ∧ candidate.runtime? = .ok found
  refused : ∀ address fault, view.targetRuntime? site address = .error fault ↔
    fault = .noTarget site view.id address ∧
      (slot = none ∨ ∀ candidate ∈ views, ¬candidate.HasBodyAt address)
  polymorphic : view.isPolymorphic site = .ok (decide (2 ≤ views.length))

def findTarget? (slot : Option View) (address : Address) : Except ViewError (Option View) :=
  match slot with
  | none => .ok none
  | some first => first.findCandidate? (·.hasBodyAt address)

theorem targetRuntime?_of_inlinee {site : CallSite} {slot : Option View}
    (answered : view.inlinee? site = .ok slot) (address : Address) :
    view.targetRuntime? site address = (findTarget? slot address >>= fun
      | some candidate => candidate.runtime?
      | none => .error (.noTarget site view.id address)) := by
  rw [targetRuntime?, answered]
  cases slot <;> rfl

namespace Sound

open Classical in
/-- Over the chain of a slot, the search by body yields the first candidate with that body. -/
private theorem exists_slotChained {slot : Option View}
    (sound : ∀ first, slot = some first → first.Sound) :
    ∃ views, SlotChained slot views ∧ (∀ candidate ∈ views, candidate.Sound) ∧
      ∀ address, findTarget? slot address =
        .ok (views.find? fun candidate => decide (candidate.HasBodyAt address)) := by
  cases slot with
  | none => exact ⟨[], rfl, fun _ impossible => (nomatch impossible), fun _ => rfl⟩
  | some first =>
      have firstSound := sound first rfl
      obtain ⟨views, lists, _⟩ := firstSound.chain_lists
      refine ⟨views, firstSound.chained lists, firstSound.of_mem lists, fun address => ?_⟩
      refine firstSound.findCandidate?_eq lists fun candidate candidateSound => ?_
      obtain ⟨answer, answered, iff⟩ := candidateSound.hasBodyAt_eq_ok address
      rw [answered, Except.ok.injEq, Bool.eq_iff_iff, iff, decide_eq_true_iff]

private theorem isPolymorphic_eq {site : CallSite} {slot : Option View}
    (answered : view.inlinee? site = .ok slot) (chained : SlotChained slot views) :
    view.isPolymorphic site = .ok (decide (2 ≤ views.length)) := by
  rw [isPolymorphic, answered]
  cases slot with
  | none =>
      cases chained
      rfl
  | some first =>
      have atFront : views[0]? = some first := by
        rw [← List.head?_eq_getElem?]
        exact chained.head
      have next : first.record.next = views[1]?.map View.id := chained.onward 0 first atFront
      refine congrArg Except.ok ?_
      rw [next, Option.isSome_map, Bool.eq_iff_iff, decide_eq_true_iff, isSome_getElem?]
      rfl

theorem answersAt (sound : view.Sound) {site : CallSite} {slot : Option View}
    (answered : view.inlinee? site = .ok slot) :
    ∃ views, SlotChained slot views ∧ view.AnswersAt site slot views := by
  classical
  obtain ⟨views, chained, allSound, search⟩ :=
    exists_slotChained ((sound.inlinee?_answers site).returns slot answered)
  have missed (address : Address)
      (nobody : views.find? (fun candidate => decide (candidate.HasBodyAt address)) = none) :
      view.targetRuntime? site address = .error (.noTarget site view.id address) := by
    rw [targetRuntime?_of_inlinee answered, search, nobody]
    rfl
  have met (address : Address) (candidate : View)
      (first : views.find? (fun other => decide (other.HasBodyAt address)) = some candidate) :
      view.targetRuntime? site address = candidate.runtime? := by
    rw [targetRuntime?_of_inlinee answered, search, first]
    rfl
  refine ⟨views, chained,
    { runtime := fun address found => ?_
      refused := fun address fault => ?_
      polymorphic := isPolymorphic_eq answered chained }⟩
  · cases target : views.find? fun candidate => decide (candidate.HasBodyAt address) with
    | none =>
        have nobody := find?_eq_none_iff.mp target
        simp only [missed address target, reduceCtorEq, false_iff]
        intro ⟨candidate, first, _⟩
        exact nobody candidate first.mem first.holds
    | some candidate =>
        rw [met address candidate target]
        constructor
        · intro returned
          exact ⟨candidate, find?_eq_some_iff_firstWith.mp target, returned⟩
        · intro ⟨other, first, returned⟩
          have same := target.symm.trans (find?_eq_some_iff_firstWith.mpr first)
          rw [Option.some.inj same]
          exact returned
  · cases target : views.find? fun candidate => decide (candidate.HasBodyAt address) with
    | none =>
        rw [missed address target, Except.error.injEq, eq_comm, iff_self_and]
        intro _
        exact Or.inr (find?_eq_none_iff.mp target)
    | some candidate =>
        have first := find?_eq_some_iff_firstWith.mp target
        obtain ⟨runtime, returned, _⟩ := (allSound candidate first.mem).runtime?_eq_ok
        rw [met address candidate target, returned]
        simp only [reduceCtorEq, false_iff]
        rintro ⟨_, empty | nobody⟩
        · subst empty
          cases chained
          exact absurd first.mem List.not_mem_nil
        · exact nobody candidate first.mem first.holds

end Sound

end View

/-- Below a root that has been validated, going through a chain yields a list
without repetitions that follows the successors to the end, and every search is
a search in that list or in the list of a call site's slot. -/
theorem validated_chain_searches {arena : Arena} {root id : NodeId} {count : Nat}
    (valid : arena.validate root = .ok count) (reached : id ∈ arena.reachable root) (home : Nat) :
    ∃ view views, View.ofNode arena home id = .ok view ∧
      view.chain.Lists views ∧ view.candidates = .ok views ∧ view.Chained views ∧
      view.FindsFunctions views ∧
      ∀ body site, view.body? = .ok (some body) → site.raw < body.callSiteCount →
        ∃ slot targets, view.inlinee? site = .ok slot ∧
          slot.map View.id = arena.child? id (.inlinee site.index) ∧
          View.SlotChained slot targets ∧ view.AnswersAt site slot targets := by
  have tree := (Arena.validate_eq_ok_iff_isTree.mp valid).1.below reached
  obtain ⟨record, found⟩ := tree.found id (Arena.reaches_root arena id)
  obtain ⟨view, opened⟩ := View.exists_ofNode found home
  obtain ⟨rfl, rfl, rfl⟩ := View.ofNode_eq_ok_iff.mp opened
  have sound : view.Sound := tree
  obtain ⟨views, lists, _⟩ := sound.chain_lists
  refine ⟨view, views, opened, lists, sound.candidates_eq lists, sound.chained lists,
    sound.findsFunctions lists, fun body site present inRange => ?_⟩
  obtain ⟨slot, answered, ids, _⟩ := sound.inlinee?_eq_ok site present inRange
  obtain ⟨targets, chained, answers⟩ := sound.answersAt answered
  exact ⟨slot, targets, answered, ids, chained, answers⟩

/-- A call site with two candidates for one body, and one without a body behind
them that has the identity of the first. -/
def sharedBody : Arena :=
  { nodes := #[
      { functionInfo := ⟨1⟩, body := some ⟨0⟩, runtime := some ⟨0⟩, inlinees := ⟨0, 1⟩ },
      { functionInfo := ⟨2⟩, body := some ⟨1⟩, runtime := some ⟨1⟩, next := some ⟨2⟩ },
      { functionInfo := ⟨3⟩, body := some ⟨2⟩, runtime := some ⟨2⟩, next := some ⟨3⟩ },
      { functionInfo := ⟨2⟩ }]
    bodies := #[{ callSiteCount := 1 }, { address := ⟨80⟩ }, { address := ⟨80⟩ }]
    runtimes := #[{}, {}, {}]
    slots := #[some ⟨1⟩] }

theorem validated_chain_searches_sharedBody :
    sharedBody.validate ⟨0⟩ = .ok 4 ∧ ⟨0⟩ ∈ sharedBody.reachable ⟨0⟩ ∧
      ∃ view slot targets, View.ofNode sharedBody 0 ⟨0⟩ = .ok view ∧
        View.SlotChained slot targets ∧ view.AnswersAt ⟨0⟩ slot targets ∧
        2 ≤ targets.length ∧ ∃ candidate, FirstWith (·.HasBodyAt ⟨80⟩) targets candidate := by
  have valid : sharedBody.validate ⟨0⟩ = .ok 4 := by decide +kernel
  have reached : (⟨0⟩ : NodeId) ∈ sharedBody.reachable ⟨0⟩ := Arena.reaches_root _ _
  obtain ⟨view, _, opened, _, _, _, _, atSites⟩ := validated_chain_searches valid reached 0
  cases opened
  obtain ⟨slot, targets, _, _, chained, answers⟩ := atSites _ ⟨0⟩ rfl (by decide)
  refine ⟨valid, reached, _, slot, targets, rfl, chained, answers, ?_, ?_⟩
  · exact of_decide_eq_true (Except.ok.inj answers.polymorphic.symm)
  · obtain ⟨candidate, first, _⟩ := (answers.runtime ⟨80⟩ _).mp rfl
    exact ⟨candidate, first⟩

end JitSnapshot
