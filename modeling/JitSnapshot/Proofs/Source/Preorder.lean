import JitSnapshot.Proofs.Source.Placement
import Mathlib.Data.List.Basic

set_option autoImplicit false

/-!
The preorder of a tree of functions, each with the path that leads to it. A
path leads to a function exactly when the preorder lists it, so a position in
the preorder is a place in the tree, also where one function hangs twice.
-/

namespace JitSnapshot.SourceFunction

mutual

/-- All functions a snapshot has to capture, each with the path to it: the function itself, what
is below its call sites, what is below its caches, and what is behind it. -/
def preorder : SourceFunction → List (Path × SourceFunction)
  | ⟨facts, inlinees, fieldInlinees, next⟩ =>
      ([], ⟨facts, inlinees, fieldInlinees, next⟩) ::
        match facts.body with
        | none => []
        | some body =>
            preorderAmong .inlinee 0 body.record.callSiteCount.toNat inlinees ++
              (preorderAmong .fieldInlinee 0 body.record.cacheCount.toNat fieldInlinees ++
                preorderAt .next next)

def preorderAmong (step : Nat → Step) (index count : Nat) :
    List (Option SourceFunction) → List (Path × SourceFunction)
  | [] => []
  | slot :: rest =>
      match count with
      | 0 => []
      | count + 1 => preorderAt (step index) slot ++ preorderAmong step (index + 1) count rest

def preorderAt (step : Step) : Option SourceFunction → List (Path × SourceFunction)
  | none => []
  | some function => (preorder function).map fun entry => (step :: entry.1, entry.2)

end

def preorderBehind (capture : Step × SourceFunction) : List (Path × SourceFunction) :=
  capture.2.preorder.map fun entry => (capture.1 :: entry.1, entry.2)

variable {function target : SourceFunction} {path : Path}

private theorem preorderAmong_eq (step : Nat → Step) (index count : Nat)
    (slots : List (Option SourceFunction)) :
    preorderAmong step index count slots =
      (Branches.present step index (slots.take count)).flatMap preorderBehind := by
  induction slots generalizing index count with
  | nil =>
      rw [preorderAmong, List.take_nil]
      rfl
  | cons slot rest ih =>
      cases count with
      | zero =>
          rw [preorderAmong]
          rfl
      | succ count =>
          rw [preorderAmong, List.take_succ_cons, ih (index + 1)]
          cases slot with
          | none =>
              rw [preorderAt]
              rfl
          | some candidate =>
              rw [preorderAt, Branches.present, List.flatMap_cons, preorderBehind]

private theorem preorderAt_eq (step : Step) (slot : Option SourceFunction) :
    preorderAt step slot =
      (slot.toList.map fun candidate => (step, candidate)).flatMap preorderBehind := by
  cases slot with
  | none =>
      rw [preorderAt]
      rfl
  | some candidate =>
      rw [preorderAt]
      exact (List.append_nil _).symm

theorem preorder_eq (function : SourceFunction) :
    function.preorder = ([], function) :: function.branches.toList.flatMap preorderBehind := by
  cases function with
  | mk facts inlinees fieldInlinees next =>
      rw [preorder]
      apply congrArg _
      unfold branches
      cases facts.body with
      | none => rfl
      | some body =>
          simp only [Branches.toList, List.flatMap_append]
          rw [preorderAmong_eq, preorderAmong_eq, preorderAt_eq]

theorem map_snd_preorder (function : SourceFunction) :
    function.preorder.map Prod.snd = function.reached := by
  induction function using candidate_induction with
  | pass function ih =>
      rw [preorder_eq, reached_eq, List.map_cons, List.map_flatMap, reachedFrom]
      apply congrArg _
      apply List.flatMap_congr
      intro ⟨step, candidate⟩ member
      rw [preorderBehind, List.map_map]
      exact ih candidate (hasCandidate_of_captured (mem_branches.mp member))

theorem length_preorder (function : SourceFunction) :
    function.preorder.length = function.reached.length := by
  rw [← map_snd_preorder, List.length_map]

theorem mem_preorder_iff : (path, target) ∈ function.preorder ↔
    function.follow? path = some target := by
  induction path generalizing function with
  | nil =>
      rw [preorder_eq, List.mem_cons]
      constructor
      · intro listed
        rcases listed with same | later
        · exact congrArg some (Prod.mk.inj same).2.symm
        · obtain ⟨capture, _, behind⟩ := List.mem_flatMap.mp later
          obtain ⟨entry, _, same⟩ := List.mem_map.mp behind
          exact absurd (Prod.mk.inj same).1 (List.cons_ne_nil _ _)
      · intro follows
        exact Or.inl (congrArg (Prod.mk []) (Option.some.inj follows).symm)
  | cons step rest ih =>
      have onward : function.follow? (step :: rest) = some target ↔
          ∃ candidate, function.captured? step = some candidate ∧
            candidate.follow? rest = some target := Option.bind_eq_some_iff
      rw [preorder_eq, List.mem_cons, onward]
      constructor
      · intro listed
        rcases listed with same | later
        · exact absurd (Prod.mk.inj same).1 (List.cons_ne_nil _ _)
        · obtain ⟨⟨taken, candidate⟩, member, behind⟩ := List.mem_flatMap.mp later
          obtain ⟨⟨front, reached⟩, entered, same⟩ := List.mem_map.mp behind
          cases same
          exact ⟨candidate, mem_branches.mp member, ih.mp entered⟩
      · intro ⟨candidate, captured, follows⟩
        refine Or.inr (List.mem_flatMap.mpr ⟨(step, candidate), mem_branches.mpr captured, ?_⟩)
        exact List.mem_map.mpr ⟨(rest, target), ih.mpr follows, rfl⟩

/-- A position among what is listed below some steps is one below the step of a candidate that
has been placed there. -/
theorem exists_placed_of_listed {captures : List (Step × SourceFunction)} (first : Nat)
    {position : Nat} (listed : (captures.flatMap preorderBehind)[position]? = some (path, target)) :
    ∃ child ∈ place first captures, ∃ rest offset, path = child.step :: rest ∧
      child.function.preorder[offset]? = some (rest, target) ∧
        first + position = child.position + offset := by
  induction captures generalizing first position with
  | nil => cases listed
  | cons capture others ih =>
      obtain ⟨step, function⟩ := capture
      have length : (preorderBehind (step, function)).length = function.reached.length := by
        rw [preorderBehind, List.length_map, length_preorder]
      rw [List.flatMap_cons] at listed
      by_cases inFirst : position < (preorderBehind (step, function)).length
      · rw [List.getElem?_append_left inFirst, preorderBehind, List.getElem?_map,
          Option.map_eq_some_iff] at listed
        obtain ⟨⟨rest, reached⟩, found, same⟩ := listed
        cases same
        exact ⟨_, List.mem_cons_self, rest, position, rfl, found, rfl⟩
      · rw [List.getElem?_append_right (Nat.not_lt.mp inFirst)] at listed
        obtain ⟨child, member, rest, offset, same, found, there⟩ :=
          ih (first + function.reached.length) listed
        refine ⟨child, List.mem_cons_of_mem _ member, rest, offset, same, found, ?_⟩
        omega

end JitSnapshot.SourceFunction
