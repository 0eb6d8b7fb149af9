import JitSnapshot.Proofs.Build.Sequence
import JitSnapshot.Proofs.Source.Preorder

set_option autoImplicit false

/-!
The ids of a build as preorder numbers. A node gets its id before anything
below it is built, and its record only after; so its id is the number of
functions that come before it in preorder, and all that is below it follows
without a gap. A validation takes the pending ids in this same order.
-/

namespace JitSnapshot

variable {arena : Arena} {own : Option RuntimeContext} {function : SourceFunction} {first : Nat}
  {root : NodeId}

/-- A function and all that is reached from it are the nodes of an arena from a position on, in
preorder. -/
structure InPreorder (arena : Arena) (own : Option RuntimeContext) (function : SourceFunction)
    (first : Nat) (root : NodeId) : Prop where
  starts : root.index = first
  size : arena.size = first + function.preorder.length
  reached : ∀ id, id ∈ arena.reachable root ↔ first ≤ id.index ∧ id.index < arena.size
  /-- The function at each position is stored there, and what is below it right behind. -/
  stored : ∀ position path target, function.preorder[position]? = some (path, target) →
    ∃ id record, id.index = first + position ∧ arena.endOf? root path = some id ∧
      arena.node? id = some record ∧ Shows arena (ownAt own path) target.facts record ∧
        ∀ other, other ∈ arena.reachable id ↔
          id.index ≤ other.index ∧ other.index < id.index + target.preorder.length
  below : ∀ parent ∈ arena.reachable root, ∀ step child,
    arena.child? parent step = some child → parent.index < child.index
  valid : arena.validate root = .ok function.preorder.length
  /-- The walk of the validation comes to the nodes by increasing ids. -/
  walk : ∀ count walk node rest, Walk.Passes arena root count walk →
    walk.pending = node :: rest → node.index = first + count

namespace Stored

/-- Where the path to a position of the preorder leads, the function of that position is stored. -/
private theorem at_listed (stored : Stored arena own function first)
    {position : Nat} {path : Path} {target : SourceFunction}
    (listed : function.preorder[position]? = some (path, target)) :
    arena.endOf? (.ofIndex first) path = some (.ofIndex (first + position)) ∧
      Stored arena (ownAt own path) target (first + position) := by
  induction stored generalizing position path with
  | @node own function first record named found shows slots below ih =>
      have stored : Stored arena own function first := .node named found shows slots below
      rw [function.preorder_eq] at listed
      cases position with
      | zero =>
          cases listed
          exact ⟨rfl, stored⟩
      | succ position =>
          obtain ⟨child, member, rest, offset, same, behind, there⟩ :=
            SourceFunction.exists_placed_of_listed (first + 1) listed
          subst same
          obtain ⟨leads, storedThere⟩ := ih child member behind
          have toChild : arena.child? (.ofIndex first) child.step =
              some (.ofIndex child.position) :=
            stored.child?_eq_some_iff.mpr ⟨child, member, rfl, rfl⟩
          have atPosition : first + (position + 1) = child.position + offset := by omega
          rw [ownAt_none] at storedThere
          rw [atPosition, Arena.endOf?_cons, toChild, Option.bind_some, leads]
          exact ⟨rfl, storedThere⟩

private theorem child_behind (stored : Stored arena own function first)
    {step : Step} {child : NodeId} (leads : arena.child? (.ofIndex first) step = some child) :
    first < child.index := by
  obtain ⟨placed, member, _, same⟩ := stored.child?_eq_some_iff.mp leads
  subst same
  rw [(stored.candidate member).found.1]
  exact (SourceFunction.placed_within member).1

end Stored

/-! ### The walk over a stored tree -/

def Walk.Aligned (arena : Arena) (position : Nat) (walk : Walk) : Prop :=
  ∃ captures, walk.pending = (place position captures).map (·.branch.2) ∧
    ∀ placed ∈ place position captures, ∃ own, Stored arena own placed.function placed.position

namespace Walk

variable {walk after : Walk} {node : NodeId} {rest : List NodeId} {position count : Nat}

private theorem start_aligned (stored : Stored arena own function first) :
    (start arena (.ofIndex first)).Aligned arena first := by
  refine ⟨[(.next, function)], rfl, ?_⟩
  intro placed member
  rw [List.mem_singleton.mp member]
  exact ⟨own, stored⟩

/-- The first pending id is that of the position. A visit puts what is below it in front of the
others, where these positions go on. -/
theorem Aligned.visit (aligned : walk.Aligned arena position)
    (sized : walk.seen.size = arena.size) (atFront : walk.pending = node :: rest) :
    node.index = position ∧
      ∀ {after}, walk.visit arena node rest = .ok after → after.Aligned arena (position + 1) := by
  obtain ⟨captures, pending, stored⟩ := aligned
  rw [atFront] at pending
  cases captures with
  | nil => cases pending
  | cons capture others =>
      obtain ⟨step, function⟩ := capture
      obtain ⟨rfl, restIs⟩ := List.cons.inj pending
      obtain ⟨own, storedFirst⟩ := stored _ List.mem_cons_self
      refine ⟨storedFirst.found.1, ?_⟩
      intro after visited
      obtain ⟨record, found, _, _, rfl⟩ := (visit_eq_ok_iff sized).mp visited
      cases storedFirst with
      | @node _ _ _ stays named present shows slots below =>
          have atNode := Arena.node?_ofIndex named present
          have same : stays = record := Option.some.inj (atNode.symm.trans found)
          subst same
          have onward : place (position + 1) (function.branches.toList ++ others) =
              function.placed position ++ place (position + function.reached.length) others := by
            rw [place_append, function.reached_length, SourceFunction.placed]
            congr 2
            omega
          refine ⟨function.branches.toList ++ others, ?_, ?_⟩
          · rw [onward, List.map_append, slots, List.map_map, restIs]
            rfl
          · rw [onward]
            intro placed member
            rcases List.mem_append.mp member with inside | later
            · exact ⟨none, below placed inside⟩
            · exact stored placed (List.mem_cons_of_mem _ later)

theorem Passes.aligned (passes : Passes arena (.ofIndex first) count walk)
    (stored : Stored arena own function first) :
    walk.Aligned arena (first + count) := by
  induction passes with
  | start => exact start_aligned stored
  | visit earlier atFront visited ih => exact (ih.visit earlier.sized atFront).2 visited

end Walk

/-- A function stored as the last nodes of an arena has these in preorder. -/
theorem Stored.inPreorder (stored : Stored arena own function first)
    (size : arena.size = first + function.reached.length) :
    InPreorder arena own function first (.ofIndex first) := by
  refine
    { starts := stored.found.1
      size := by rw [size, function.length_preorder]
      reached := fun id => by rw [size, stored.mem_reachable_iff]
      stored := ?_
      below := ?_
      valid := ?_
      walk := ?_ }
  · intro position path target listed
    obtain ⟨leads, storedThere⟩ := stored.at_listed listed
    obtain ⟨exactly, record, found, shows⟩ := storedThere.found
    refine ⟨_, record, exactly, leads, found, shows, ?_⟩
    intro other
    rw [exactly, target.length_preorder, storedThere.mem_reachable_iff]
  · intro parent ⟨path, leads⟩ step child onward
    obtain ⟨target, _, storedThere, same, _⟩ := stored.of_endOf? leads
    rw [← same] at onward
    exact storedThere.child_behind onward
  · rw [function.length_preorder]
    exact Arena.validate_eq_ok_iff_isTree.mpr
      ⟨stored.isTree, stored.ncard_reachable.symm⟩
  · intro count walk node rest passes atFront
    exact ((passes.aligned stored).visit passes.sized atFront).1

/-- Every build that succeeds numbers the functions it reaches in preorder, from the number of
nodes there were on. -/
theorem BuildState.build_in_preorder {state after : BuildState} {function : SourceFunction}
    {runtime : Option RuntimeContext} {isInlinee : Bool} {root : NodeId}
    (built : state.build function runtime isInlinee = .ok (root, after)) :
    InPreorder after.arena (if isInlinee then runtime else none) function state.arena.size
      root := by
  obtain ⟨rfl, builds⟩ := build_builds built
  exact builds.stored.inPreorder builds.size

theorem build_in_preorder_callerOfTwo :
    ∃ after : BuildState,
      (BuildState.start strayNode).build callerOfTwo none false = .ok (⟨1⟩, after) ∧
        after.arena.size = 5 ∧ after.arena.validate ⟨1⟩ = .ok 4 ∧
          callerOfTwo.preorder.map Prod.fst =
              [[], [.inlinee 0], [.inlinee 0, .next], [.fieldInlinee 0]] ∧
            ∃ id, id.index = 4 ∧ after.arena.endOf? ⟨1⟩ [.fieldInlinee 0] = some id := by
  have outcome : ((BuildState.start strayNode).build callerOfTwo none false).toOption.map
      Prod.fst = some ⟨1⟩ := by decide +kernel
  have paths : callerOfTwo.preorder.map Prod.fst =
      [[], [.inlinee 0], [.inlinee 0, .next], [.fieldInlinee 0]] := by decide +kernel
  have count : callerOfTwo.preorder.length = 4 := by
    rw [← List.length_map, paths]
    rfl
  obtain ⟨⟨_, after⟩, built, rfl⟩ := exists_ok_of_outcome outcome
  have numbered := BuildState.build_in_preorder built
  have size : after.arena.size = 5 := by
    rw [numbered.size, count]
    rfl
  have last : (callerOfTwo.preorder.map Prod.fst)[3]? = some [.fieldInlinee 0] := by
    rw [paths]
    rfl
  rw [List.getElem?_map, Option.map_eq_some_iff] at last
  obtain ⟨⟨path, target⟩, listed, rfl⟩ := last
  obtain ⟨id, _, exactly, leads, _⟩ := numbered.stored 3 _ target listed
  exact ⟨after, built, size, count ▸ numbered.valid, paths, id, exactly, leads⟩

end JitSnapshot
