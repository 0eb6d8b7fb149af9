import JitSnapshot.Proofs.Build.Shows
import JitSnapshot.Proofs.Source.Placement
import Mathlib.Order.Interval.Finset.Nat

set_option autoImplicit false

/-!
A tree of functions stored in an arena: at its own position the node of each
function that is reached, with slots that name the positions of its candidates.
Paths then lead to the same places in the arena and in the tree of functions,
and each position that the tree takes is reached by one path.
-/

namespace JitSnapshot

def Placed.branch (placed : Placed) : Step × NodeId :=
  (placed.step, .ofIndex placed.position)

/-- Slots filled one list after the other name the positions of all candidates. -/
theorem placed_branches {inlinees fieldInlinees : List (Option SourceFunction)}
    {next : Option SourceFunction} {slots fieldSlots : List Slot} {successor : Slot}
    {first afterInlinees afterFields : Nat}
    (atFields : afterInlinees =
      first + (SourceFunction.reachedFrom (Branches.present .inlinee 0 inlinees)).length)
    (atNext : afterFields = afterInlinees +
      (SourceFunction.reachedFrom (Branches.present .fieldInlinee 0 fieldInlinees)).length)
    (slotsAre : Branches.present .inlinee 0 slots =
      (place first (Branches.present .inlinee 0 inlinees)).map Placed.branch)
    (fieldsAre : Branches.present .fieldInlinee 0 fieldSlots =
      (place afterInlinees (Branches.present .fieldInlinee 0 fieldInlinees)).map Placed.branch)
    (nextIs : (successor.toList.map fun id => (Step.next, id)) =
      (place afterFields (next.toList.map fun function => (Step.next, function))).map
        Placed.branch) :
    (Branches.mk slots fieldSlots successor).toList =
      (place first (Branches.mk inlinees fieldInlinees next).toList).map Placed.branch := by
  subst atFields atNext
  simp only [Branches.toList, place_append, List.map_append, slotsAre, fieldsAre, nextIs]

theorem Arena.node?_ofIndex {arena : Arena} {position : Nat} {record : NodeRecord}
    (named : position < UInt32.size) (found : arena.nodes[position]? = some record) :
    arena.node? (.ofIndex position) = some record := by
  rw [node?, Id.index_ofIndex named, found]

/-- The function is stored at a position, and all that is reached from it right
behind. Only the function itself can have been built as an inlinee. -/
inductive Stored (arena : Arena) :
    Option RuntimeContext → SourceFunction → Nat → Prop where
  | node {own : Option RuntimeContext} {function : SourceFunction} {first : Nat}
      {record : NodeRecord} :
      first < UInt32.size →
      arena.nodes[first]? = some record →
      Shows arena own function.facts record →
      (arena.branches record).toList = (function.placed first).map Placed.branch →
      (∀ child ∈ function.placed first, Stored arena none child.function child.position) →
      Stored arena own function first

/-- The context a function on a path was built with: only the first one can be an inlinee. -/
def ownAt (own : Option RuntimeContext) : Path → Option RuntimeContext
  | [] => own
  | _ :: _ => none

theorem ownAt_none (path : Path) : ownAt none path = none := by
  cases path <;> rfl

namespace Stored

variable {arena after : Arena} {own : Option RuntimeContext} {function : SourceFunction}
  {first : Nat} {id : NodeId} {path : Path} {step : Step}

theorem keep (stored : Stored arena own function first)
    (keeps : arena.Keeps after first (first + function.reached.length)) :
    Stored after own function first := by
  induction stored with
  | @node own function first record named found shows slots _ ih =>
      have inside : first < first + function.reached.length := by
        rw [SourceFunction.reached_length]
        omega
      refine .node named ((keeps.nodes first (Nat.le_refl _) inside).trans found)
        (shows.grow keeps.lists) ?_ ?_
      · rw [shows.branches_grow keeps.lists, slots]
      · intro child member
        obtain ⟨behind, within⟩ := SourceFunction.placed_within member
        exact ih child member (keeps.narrow (Nat.le_of_lt behind) within)

theorem found (stored : Stored arena own function first) :
    (Id.ofIndex first : NodeId).index = first ∧
      ∃ record, arena.node? (.ofIndex first) = some record ∧
        Shows arena own function.facts record := by
  cases stored with
  | node named found shows slots below =>
      exact ⟨Id.index_ofIndex named, _, Arena.node?_ofIndex named found, shows⟩

theorem child?_eq_some_iff (stored : Stored arena own function first) :
    arena.child? (.ofIndex first) step = some id ↔
      ∃ child ∈ function.placed first, child.step = step ∧ .ofIndex child.position = id := by
  cases stored with
  | node named found shows slots below =>
      rw [Arena.child?, Arena.node?_ofIndex named found, Option.bind_some,
        ← Branches.mem_toList, slots]
      simp only [List.mem_map, Placed.branch, Prod.mk.injEq]

theorem candidate (stored : Stored arena own function first) {child : Placed}
    (member : child ∈ function.placed first) :
    Stored arena none child.function child.position := by
  cases stored with
  | node _ _ _ _ below => exact below child member

private theorem step_cases (stored : Stored arena own function first)
    (step : Step) :
    (function.captured? step = none ∧ arena.child? (.ofIndex first) step = none) ∨
      ∃ child ∈ function.placed first, child.step = step ∧
        function.captured? step = some child.function ∧
          arena.child? (.ofIndex first) step = some (.ofIndex child.position) := by
  cases captured : function.captured? step with
  | none =>
      refine Or.inl ⟨rfl, ?_⟩
      rw [Option.eq_none_iff_forall_not_mem]
      intro id leads
      obtain ⟨child, member, rfl, _⟩ := stored.child?_eq_some_iff.mp leads
      rw [(SourceFunction.captured?_eq_some_iff first).mpr ⟨child.position, member⟩]
        at captured
      cases captured
  | some candidate =>
      obtain ⟨position, member⟩ :=
        (SourceFunction.captured?_eq_some_iff first).mp captured
      exact Or.inr ⟨_, member, rfl, rfl,
        stored.child?_eq_some_iff.mpr ⟨_, member, rfl, rfl⟩⟩

/-- A path leads to a node exactly where it leads to a function, which is
stored there, within the positions of the whole tree. -/
theorem path_cases (stored : Stored arena own function first)
    (path : Path) :
    (function.follow? path = none ∧ arena.endOf? (.ofIndex first) path = none) ∨
      ∃ target position, function.follow? path = some target ∧
        arena.endOf? (.ofIndex first) path = some (.ofIndex position) ∧
          Stored arena (ownAt own path) target position ∧ first ≤ position ∧
            position + target.reached.length ≤ first + function.reached.length := by
  induction path generalizing own function first with
  | nil => exact Or.inr ⟨function, first, rfl, rfl, stored, Nat.le_refl _, Nat.le_refl _⟩
  | cons step rest ih =>
      have inTree : function.follow? (step :: rest) =
          (function.captured? step).bind fun candidate => candidate.follow? rest := rfl
      rw [inTree, Arena.endOf?_cons]
      rcases stored.step_cases step with ⟨noFunction, noNode⟩ | found
      · rw [noFunction, noNode]
        exact Or.inl ⟨rfl, rfl⟩
      · obtain ⟨child, member, rfl, captured, leads⟩ := found
        obtain ⟨behind, within⟩ := SourceFunction.placed_within member
        rw [captured, leads, Option.bind_some, Option.bind_some]
        rcases ih (stored.candidate member) with nowhere | onward
        · exact Or.inl nowhere
        · obtain ⟨target, position, follows, ends, below, lower, upper⟩ := onward
          rw [ownAt_none] at below
          refine Or.inr ⟨target, position, follows, ends, below, ?_, ?_⟩
          · omega
          · simp only [Placed.stop] at within
            omega

theorem of_endOf? (stored : Stored arena own function first)
    (leads : arena.endOf? (.ofIndex first) path = some id) :
    ∃ target, function.follow? path = some target ∧
      Stored arena (ownAt own path) target id.index ∧ .ofIndex id.index = id ∧
        first ≤ id.index ∧ id.index + target.reached.length ≤ first + function.reached.length := by
  rcases stored.path_cases path with ⟨_, nowhere⟩ | found
  · rw [leads] at nowhere
    cases nowhere
  · obtain ⟨target, position, follows, ends, below, lower, upper⟩ := found
    rw [leads, Option.some.injEq] at ends
    subst ends
    have exactly := below.found.1
    rw [exactly]
    exact ⟨target, follows, below, rfl, lower, upper⟩

theorem index_within (stored : Stored arena own function first)
    (leads : arena.endOf? (.ofIndex first) path = some id) :
    first ≤ id.index ∧ id.index < first + function.reached.length := by
  obtain ⟨target, _, _, _, lower, upper⟩ := stored.of_endOf? leads
  rw [target.reached_length] at upper
  exact ⟨lower, by omega⟩

theorem endOf?_cons (stored : Stored arena own function first)
    {rest : Path} (leads : arena.endOf? (.ofIndex first) (step :: rest) = some id) :
    ∃ child ∈ function.placed first, child.step = step ∧
      arena.endOf? (.ofIndex child.position) rest = some id := by
  rw [Arena.endOf?_cons] at leads
  obtain ⟨next, toNext, onward⟩ := Option.bind_eq_some_iff.mp leads
  obtain ⟨child, member, sameStep, rfl⟩ := stored.child?_eq_some_iff.mp toNext
  exact ⟨child, member, sameStep, onward⟩

theorem path_unique (stored : Stored arena own function first)
    {other : Path} (leads : arena.endOf? (.ofIndex first) path = some id)
    (alsoLeads : arena.endOf? (.ofIndex first) other = some id) : path = other := by
  -- A longer path ends behind the position of the first node, an empty one at it.
  have notBoth {step : Step} {rest : Path} {own : Option RuntimeContext}
      {function : SourceFunction} {first : Nat} (stored : Stored arena own function first)
      (here : arena.endOf? (.ofIndex first) [] = some id)
      (onward : arena.endOf? (.ofIndex first) (step :: rest) = some id) : False := by
    obtain ⟨child, member, _, back⟩ := stored.endOf?_cons onward
    have lower := ((stored.candidate member).index_within back).1
    have behind := (SourceFunction.placed_within member).1
    have atFirst : Id.ofIndex first = id := Option.some.inj here
    rw [← atFirst, stored.found.1] at lower
    omega
  induction path generalizing own function first other with
  | nil =>
      cases other with
      | nil => rfl
      | cons step rest => exact (notBoth stored leads alsoLeads).elim
  | cons step rest ih =>
      cases other with
      | nil => exact (notBoth stored alsoLeads leads).elim
      | cons otherStep otherRest =>
          obtain ⟨child, member, rfl, back⟩ := stored.endOf?_cons leads
          obtain ⟨otherChild, otherMember, rfl, otherBack⟩ :=
            stored.endOf?_cons alsoLeads
          have within := (stored.candidate member).index_within back
          have otherWithin := (stored.candidate otherMember).index_within otherBack
          have same := SourceFunction.placed_unique member otherMember within.1 within.2
            otherWithin.1 otherWithin.2
          subst same
          exact congrArg _ (ih (stored.candidate member) back otherBack)

theorem covers (stored : Stored arena own function first)
    {position : Nat} (lower : first ≤ position)
    (upper : position < first + function.reached.length) :
    ∃ path id, arena.endOf? (.ofIndex first) path = some id ∧ id.index = position := by
  induction stored with
  | @node own function first record named found shows slots below ih =>
      have stored : Stored arena own function first := .node named found shows slots below
      by_cases atFirst : position = first
      · exact ⟨[], _, rfl, atFirst ▸ stored.found.1⟩
      · obtain ⟨child, member, childLower, childUpper⟩ :=
          SourceFunction.placed_covers (by omega) upper
        obtain ⟨path, id, leads, exactly⟩ := ih child member childLower childUpper
        refine ⟨child.step :: path, id, ?_, exactly⟩
        have toChild : arena.child? (.ofIndex first) child.step =
            some (.ofIndex child.position) :=
          stored.child?_eq_some_iff.mpr ⟨child, member, rfl, rfl⟩
        rw [Arena.endOf?_cons, toChild, Option.bind_some, leads]

theorem mem_reachable_iff (stored : Stored arena own function first) :
    id ∈ arena.reachable (.ofIndex first) ↔
      first ≤ id.index ∧ id.index < first + function.reached.length := by
  constructor
  · intro ⟨path, leads⟩
    exact stored.index_within leads
  · intro ⟨lower, upper⟩
    obtain ⟨path, other, leads, same⟩ := stored.covers lower upper
    exact ⟨path, Id.index_inj.mp same ▸ leads⟩

theorem ncard_reachable (stored : Stored arena own function first) :
    (arena.reachable (.ofIndex first)).ncard = function.reached.length := by
  have positions : Id.index '' arena.reachable (.ofIndex first) =
      (Finset.Ico first (first + function.reached.length) : Set Nat) := by
    ext position
    simp only [Set.mem_image, Finset.coe_Ico, Set.mem_Ico]
    constructor
    · rintro ⟨id, reached, rfl⟩
      exact stored.mem_reachable_iff.mp reached
    · intro ⟨lower, upper⟩
      obtain ⟨path, id, leads, exactly⟩ := stored.covers lower upper
      exact ⟨id, ⟨path, leads⟩, exactly⟩
  rw [← Set.ncard_image_of_injective _ (fun _ _ same => Id.index_inj.mp same), positions,
    Set.ncard_coe_finset, Nat.card_Ico, Nat.add_sub_cancel_left]

theorem isTree (stored : Stored arena own function first) :
    arena.IsTree (.ofIndex first) := by
  have recordAt {id : NodeId} (reaches : arena.Reaches (.ofIndex first) id) :
      ∃ record, arena.node? id = some record ∧ Shape.WellFormed arena record := by
    obtain ⟨path, leads⟩ := reaches
    obtain ⟨target, _, below, same, _⟩ := stored.of_endOf? leads
    obtain ⟨_, record, found, shows⟩ := below.found
    rw [same] at found
    exact ⟨record, found, shows.wellFormed⟩
  refine { found := ?_, unique := ?_, wellFormed := ?_ }
  · intro id reaches
    obtain ⟨record, found, _⟩ := recordAt reaches
    exact ⟨record, found⟩
  · intro id first second toFirst toSecond
    exact stored.path_unique toFirst toSecond
  · intro id record reaches found
    obtain ⟨other, present, wellFormed⟩ := recordAt reaches
    have same : other = record := Option.some.inj (present.symm.trans found)
    exact same ▸ wellFormed

end Stored

end JitSnapshot
