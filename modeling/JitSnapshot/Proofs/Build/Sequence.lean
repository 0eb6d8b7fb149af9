import JitSnapshot.Proofs.Build.Tree
import JitSnapshot.Proofs.Tree.Walk
import Mathlib.Data.List.Forall2

set_option autoImplicit false

/-!
Builds one after the other into one arena. Each puts its tree behind those that
are there and touches none of them, so at the end every root is that of a tree
of its own, and together they have all the nodes that were added.
-/

namespace JitSnapshot

structure BuildRequest where
  function : SourceFunction
  runtime : Option RuntimeContext := none
  isInlinee : Bool := false

def BuildRequest.own (request : BuildRequest) : Option RuntimeContext :=
  if request.isInlinee then request.runtime else none

def BuildRequest.count (request : BuildRequest) : Nat :=
  request.function.reached.length

def BuildState.buildAll : List BuildRequest → BuildState →
    Except BuildError (List NodeId × BuildState)
  | [], state => .ok ([], state)
  | request :: rest, state => do
      let (root, state) ← state.build request.function request.runtime request.isInlinee
      let (roots, state) ← BuildState.buildAll rest state
      return (root :: roots, state)

inductive StoredInTurn (arena : Arena) : Nat → List BuildRequest → List NodeId → Prop where
  | nil {first : Nat} : StoredInTurn arena first [] []
  | cons {first : Nat} {request : BuildRequest} {rest : List BuildRequest}
      {roots : List NodeId} :
      Stored arena request.own request.function first →
      StoredInTurn arena (first + request.count) rest roots →
      StoredInTurn arena first (request :: rest) (.ofIndex first :: roots)

variable {state after : BuildState} {requests : List BuildRequest} {roots : List NodeId}

theorem BuildState.buildAll_stores (built : state.buildAll requests = .ok (roots, after)) :
    after.arena.size = state.arena.size + (requests.map BuildRequest.count).sum ∧
      state.arena.Keeps after.arena 0 state.arena.size ∧
        StoredInTurn after.arena state.arena.size requests roots := by
  induction requests generalizing state roots with
  | nil =>
      rw [buildAll] at built
      cases built
      exact ⟨rfl, .of_sameNodes (.refl _) rfl, .nil⟩
  | cons request rest ih =>
      rw [buildAll] at built
      obtain ⟨⟨root, mid⟩, first, built⟩ := bind_eq_ok.mp built
      obtain ⟨⟨later, last⟩, following, returned⟩ := bind_eq_ok.mp built
      cases returned
      obtain ⟨rfl, builds⟩ := build_builds first
      obtain ⟨size, kept, inTurn⟩ := ih following
      have firstSize : mid.arena.size = state.arena.size + request.count := builds.size
      rw [firstSize] at inTurn
      refine ⟨?_, ?_, .cons ?_ inTurn⟩
      · rw [size, firstSize, List.map_cons, List.sum_cons, Nat.add_assoc]
      · exact builds.kept.trans (kept.narrow (Nat.le_refl _) (by omega))
      · exact builds.stored.keep (kept.narrow (Nat.zero_le _) (Nat.le_of_eq firstSize.symm))

namespace StoredInTurn

variable {arena : Arena} {first : Nat}

theorem validates (inTurn : StoredInTurn arena first requests roots) :
    List.Forall₂ (fun request root => arena.validate root = .ok request.count)
      requests roots := by
  induction inTurn with
  | nil => exact .nil
  | cons stored _ ih =>
      exact .cons (Arena.validate_eq_ok_iff_isTree.mpr
        ⟨stored.isTree, stored.ncard_reachable.symm⟩) ih

theorem behind (inTurn : StoredInTurn arena first requests roots)
    {root id : NodeId} (member : root ∈ roots) (reached : id ∈ arena.reachable root) :
    first ≤ id.index := by
  induction inTurn with
  | nil => cases member
  | cons stored _ ih =>
      rcases List.mem_cons.mp member with rfl | later
      · exact (stored.mem_reachable_iff.mp reached).1
      · exact Nat.le_trans (Nat.le_add_right _ _) (ih later)

theorem disjoint (inTurn : StoredInTurn arena first requests roots) :
    roots.Pairwise fun left right => ∀ id ∈ arena.reachable left, id ∉ arena.reachable right := by
  induction inTurn with
  | nil => exact .nil
  | cons stored later ih =>
      refine List.pairwise_cons.mpr ⟨fun other member id inFirst inOther => ?_, ih⟩
      have within := (stored.mem_reachable_iff.mp inFirst).2
      have beyond := later.behind member inOther
      exact absurd within (Nat.not_lt.mpr beyond)

end StoredInTurn

/-- After any sequence of builds every root validates and counts the functions that were
to be captured, no two roots reach one node, and the counts add up to the nodes added. -/
theorem BuildState.buildAll_validates (built : state.buildAll requests = .ok (roots, after)) :
    List.Forall₂ (fun request root =>
        after.arena.validate root = .ok request.function.reached.length) requests roots ∧
      (roots.Pairwise fun left right =>
        ∀ id ∈ after.arena.reachable left, id ∉ after.arena.reachable right) ∧
        after.arena.size = state.arena.size +
          (requests.map fun request => request.function.reached.length).sum := by
  obtain ⟨size, _, inTurn⟩ := buildAll_stores built
  exact ⟨inTurn.validates, inTurn.disjoint, size⟩

/-- A caller with one call site and one cache, each with a candidate; the one at the
call site is followed by a function without a body. A second candidate at a call site
that the body does not count is left out. -/
def callerOfTwo : SourceFunction :=
  { facts := { body := some { record := { callSiteCount := 1, cacheCount := 1 } } }
    inlinees := [
      some { facts := { body := some { record := {} } }, next := some { facts := {} } },
      some { facts := {} }]
    fieldInlinees := [some { facts := {} }] }

def strayNode : Arena :=
  { nodes := #[{ next := some ⟨7⟩ }] }

def twoRequests : List BuildRequest :=
  [{ function := callerOfTwo }, { function := callerOfTwo, runtime := some {}, isInlinee := true }]

theorem buildAll_validates_twoRequests :
    ∃ after : BuildState,
      (BuildState.start strayNode).buildAll twoRequests = .ok ([⟨1⟩, ⟨5⟩], after) ∧
        after.arena.validate ⟨1⟩ = .ok 4 ∧ after.arena.validate ⟨5⟩ = .ok 4 ∧
          (∀ id ∈ after.arena.reachable ⟨1⟩, id ∉ after.arena.reachable ⟨5⟩) ∧
            after.arena.size = 9 := by
  have outcome : ((BuildState.start strayNode).buildAll twoRequests).toOption.map Prod.fst =
      some [⟨1⟩, ⟨5⟩] := by decide +kernel
  obtain ⟨⟨_, after⟩, built, rfl⟩ := exists_ok_of_outcome outcome
  obtain ⟨valid, apart, size⟩ := BuildState.buildAll_validates built
  have count : callerOfTwo.reached.length = 4 := by decide +kernel
  cases valid with
  | cons first later =>
      cases later with
      | cons second _ =>
          rw [count] at first second
          have disjoint := (List.pairwise_cons.mp apart).1 _ List.mem_cons_self
          refine ⟨after, built, first, second, disjoint, size.trans ?_⟩
          simp only [twoRequests, List.map_cons, List.map_nil, count]
          rfl

end JitSnapshot
