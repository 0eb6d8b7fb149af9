import JitSnapshot.Proofs.Tree.Walk
import Mathlib.Order.CompletePartialOrder

set_option autoImplicit false

/-!
A tree and the trees right below it. Each slot of the root that names a node,
and its successor, has a tree of its own: as only one path leads to a node, no
two of these trees share one, and none has the root. So the root's tree has one
node more than all of them together.
-/

namespace JitSnapshot.Arena

/-- The ids that are reached by the steps of a list, from where these lead. -/
def reachableFrom (arena : Arena) (branches : List (Step × NodeId)) : Set NodeId :=
  {id | ∃ branch ∈ branches, id ∈ arena.reachable branch.2}

variable {arena : Arena} {root child target : NodeId} {record : NodeRecord} {step : Step}

private theorem endOf?_branch (leads : (arena.branches record).at? step = some child)
    (found : arena.node? root = some record) (rest : Path) :
    arena.endOf? root (step :: rest) = arena.endOf? child rest := by
  rw [endOf?_cons, child?_of_node? found, leads, Option.bind_some]

/-- What is reached from a node is the node itself, and what is reached from what it leads to. -/
theorem mem_reachable_iff (found : arena.node? root = some record) :
    target ∈ arena.reachable root ↔
      target = root ∨ target ∈ arena.reachableFrom (arena.branches record).toList := by
  constructor
  · intro ⟨path, leads⟩
    cases path with
    | nil => exact Or.inl (Option.some.inj leads).symm
    | cons step rest =>
        rw [endOf?_cons, child?_of_node? found] at leads
        obtain ⟨child, toChild, onward⟩ := Option.bind_eq_some_iff.mp leads
        exact Or.inr ⟨(step, child), Branches.mem_toList.mpr toChild, rest, onward⟩
  · intro within
    rcases within with same | ⟨⟨step, child⟩, member, rest, onward⟩
    · rw [same]
      exact arena.reaches_root root
    · exact ⟨step :: rest,
        (endOf?_branch (Branches.mem_toList.mp member) found rest).trans onward⟩

namespace IsTree

variable (tree : arena.IsTree root)
include tree

theorem finite_reachable : (arena.reachable root).Finite := by
  refine Set.Finite.of_injOn (f := Id.index) ?_ ?_ (Finset.range arena.size).finite_toSet
  · intro id reached
    obtain ⟨record, found⟩ := tree.found id reached
    exact Finset.mem_coe.mpr (Finset.mem_range.mpr (index_lt_of_node? found))
  · intro left _ right _ same
    exact Id.index_inj.mp same

variable (found : arena.node? root = some record)
include found

private theorem below_branch {branch : Step × NodeId}
    (member : branch ∈ (arena.branches record).toList) : arena.IsTree branch.2 :=
  tree.below ⟨[branch.1], endOf?_branch (Branches.mem_toList.mp member) found []⟩

theorem root_not_reachable {branch : Step × NodeId}
    (member : branch ∈ (arena.branches record).toList) : root ∉ arena.reachable branch.2 := by
  intro ⟨rest, back⟩
  have around := (endOf?_branch (Branches.mem_toList.mp member) found rest).trans back
  exact List.cons_ne_nil _ _ (tree.unique root (branch.1 :: rest) [] around rfl)

/-- No node is reached by two of the steps from the root. -/
theorem branches_apart : (arena.branches record).toList.Pairwise fun left right =>
    Disjoint (arena.reachable left.2) (arena.reachable right.2) := by
  have stepsDiffer := List.pairwise_map.mp (arena.branches record).toList_steps_nodup
  refine stepsDiffer.imp_of_mem ?_
  intro left right inLeft inRight differ
  rw [Set.disjoint_left]
  intro id ⟨front, byLeft⟩ ⟨back, byRight⟩
  have toLeft := (endOf?_branch (Branches.mem_toList.mp inLeft) found front).trans byLeft
  have toRight := (endOf?_branch (Branches.mem_toList.mp inRight) found back).trans byRight
  exact differ (List.cons.inj (tree.unique id _ _ toLeft toRight)).1

end IsTree

theorem ncard_reachableFrom {branches : List (Step × NodeId)}
    (trees : ∀ branch ∈ branches, arena.IsTree branch.2)
    (apart : branches.Pairwise fun left right =>
      Disjoint (arena.reachable left.2) (arena.reachable right.2)) :
    (arena.reachableFrom branches).Finite ∧ (arena.reachableFrom branches).ncard =
      (branches.map fun branch => (arena.reachable branch.2).ncard).sum := by
  induction branches with
  | nil =>
      have nothing : arena.reachableFrom [] = ∅ := by
        simp only [reachableFrom, List.not_mem_nil, false_and, exists_false, Set.ofPred_false]
      rw [nothing]
      exact ⟨Set.finite_empty, Set.ncard_empty _⟩
  | cons branch rest ih =>
      obtain ⟨apartFromRest, restApart⟩ := List.pairwise_cons.mp apart
      obtain ⟨finiteRest, counted⟩ :=
        ih (fun other member => trees other (List.mem_cons_of_mem _ member)) restApart
      have finiteFirst := (trees branch List.mem_cons_self).finite_reachable
      have split : arena.reachableFrom (branch :: rest) =
          arena.reachable branch.2 ∪ arena.reachableFrom rest := by
        ext id
        simp only [reachableFrom, List.mem_cons, exists_eq_or_imp, Set.mem_union,
          Set.mem_ofPred_eq]
      have disjoint : Disjoint (arena.reachable branch.2) (arena.reachableFrom rest) := by
        rw [Set.disjoint_left]
        intro id inFirst ⟨other, member, inOther⟩
        exact Set.disjoint_left.mp (apartFromRest other member) inFirst inOther
      rw [split]
      refine ⟨finiteFirst.union finiteRest, ?_⟩
      rw [Set.ncard_union_eq disjoint finiteFirst finiteRest, counted, List.map_cons,
        List.sum_cons]

theorem IsTree.ncard_reachable (tree : arena.IsTree root)
    (found : arena.node? root = some record) :
    (arena.reachable root).ncard =
      1 + ((arena.branches record).toList.map fun branch =>
        (arena.reachable branch.2).ncard).sum := by
  obtain ⟨finite, counted⟩ := ncard_reachableFrom (fun _ => tree.below_branch found)
    (tree.branches_apart found)
  have notBelow : root ∉ arena.reachableFrom (arena.branches record).toList := by
    intro ⟨branch, member, reached⟩
    exact tree.root_not_reachable found member reached
  have split : arena.reachable root =
      insert root (arena.reachableFrom (arena.branches record).toList) := by
    ext id
    rw [mem_reachable_iff found, Set.mem_insert_iff]
  rw [split, Set.ncard_insert_of_notMem notBelow finite, counted, Nat.add_comm]

/-- Every node below a valid root validates on its own. What the root's slots and its successor
name has trees that lie apart and do not have the root, and the counts of these trees add up,
with one for the root, to the count of the whole. -/
theorem validate_composes {count : Nat} (valid : arena.validate root = .ok count) :
    (∀ node ∈ arena.reachable root, ∃ below, arena.validate node = .ok below) ∧
      ∃ record inlinees fieldInlinees children counts, arena.node? root = some record ∧
        arena.slots? record.inlinees = some inlinees ∧
          arena.slots? record.fieldInlinees = some fieldInlinees ∧
            children = inlinees.filterMap id ++ fieldInlinees.filterMap id ++
              record.next.toList ∧
              List.Forall₂ (fun child below => arena.validate child = .ok below)
                children counts ∧
                count = 1 + counts.sum ∧
                  (children.Pairwise fun left right =>
                    Disjoint (arena.reachable left) (arena.reachable right)) ∧
                    ∀ child ∈ children, root ∉ arena.reachable child := by
  obtain ⟨tree, rfl⟩ := validate_eq_ok_iff_isTree.mp valid
  have validBelow {node : NodeId} (below : arena.IsTree node) :
      arena.validate node = .ok (arena.reachable node).ncard :=
    validate_eq_ok_iff_isTree.mpr ⟨below, rfl⟩
  obtain ⟨record, found⟩ := tree.found root (arena.reaches_root root)
  have fit := (tree.wellFormed root record (arena.reaches_root root) found).ranges
  obtain ⟨inlinees, atInlinees⟩ := ListRange.exists_holds fit.inlinees
  obtain ⟨fields, atFields⟩ := ListRange.exists_holds fit.fieldInlinees
  have readInlinees : arena.slots? record.inlinees = some inlinees := atInlinees.reads
  have readFields : arena.slots? record.fieldInlinees = some fields := atFields.reads
  have children : (arena.branches record).toList.map Prod.snd =
      inlinees.filterMap id ++ fields.filterMap id ++ record.next.toList := by
    rw [Branches.map_snd_toList, branches, readInlinees, readFields]
    rfl
  refine ⟨fun node reached => ⟨_, validBelow (tree.below reached)⟩, record, inlinees, fields,
    (arena.branches record).toList.map Prod.snd,
    (arena.branches record).toList.map fun branch => (arena.reachable branch.2).ncard,
    found, readInlinees, readFields, children, ?_, ?_, ?_, ?_⟩
  · rw [List.forall₂_map_left_iff, List.forall₂_map_right_iff, List.forall₂_same]
    exact fun branch member => validBelow (tree.below_branch found member)
  · exact tree.ncard_reachable found
  · exact List.pairwise_map.mpr (tree.branches_apart found)
  · intro child member
    obtain ⟨branch, inBranches, rfl⟩ := List.mem_map.mp member
    exact tree.root_not_reachable found inBranches

/-- A root with one of its two call sites, its cache and its successor taken; the node at the
call site is followed by another one. -/
def takenThrice : Arena :=
  { nodes := #[{ body := some ⟨0⟩, runtime := some ⟨0⟩, inlinees := ⟨0, 2⟩,
                 fieldInlinees := ⟨2, 1⟩, next := some ⟨2⟩ },
               { body := some ⟨1⟩, runtime := some ⟨0⟩, next := some ⟨4⟩ }, {}, {}, {}]
    bodies := #[{ callSiteCount := 2, cacheCount := 1 }, {}]
    runtimes := #[{}]
    slots := #[none, some ⟨1⟩, some ⟨3⟩] }

theorem validate_composes_takenThrice :
    takenThrice.validate ⟨0⟩ = .ok 5 ∧ ∃ counts,
      List.Forall₂ (fun child below => takenThrice.validate child = .ok below)
        [⟨1⟩, ⟨3⟩, ⟨2⟩] counts ∧ 5 = 1 + counts.sum ∧
          Disjoint (takenThrice.reachable ⟨1⟩) (takenThrice.reachable ⟨3⟩) ∧
            (⟨0⟩ : NodeId) ∉ takenThrice.reachable ⟨1⟩ := by
  have valid : takenThrice.validate ⟨0⟩ = .ok 5 := by decide +kernel
  obtain ⟨_, record, inlinees, fields, children, counts, found, readInlinees, readFields,
    rfl, validBelow, counted, apart, notBelow⟩ := validate_composes valid
  cases found
  cases readInlinees
  cases readFields
  exact ⟨valid, counts, validBelow, counted, (List.pairwise_cons.mp apart).1 ⟨3⟩ (by decide),
    notBelow ⟨1⟩ (by decide)⟩

end JitSnapshot.Arena
