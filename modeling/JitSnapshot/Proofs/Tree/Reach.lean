import JitSnapshot.Proofs.Arena.Growth
import JitSnapshot.Proofs.Shape.WellFormed
import JitSnapshot.Proofs.Tree.Branches
import Mathlib.Data.List.Induction
import Mathlib.Data.Set.Card

set_option autoImplicit false

/-!
The nodes below a root, as a graph: a node leads to what its slots name and to
its successor, whether the ids are those of nodes or not. A snapshot is a tree
when every node below the root is there, is well-formed, and is reached by one
path only.
-/

namespace JitSnapshot.Arena

/-- The ids a node record leads to. A range that ends behind its list has no slots. -/
def branches (arena : Arena) (record : NodeRecord) : Branches NodeId :=
  { inlinees := (arena.slots? record.inlinees).getD []
    fieldInlinees := (arena.slots? record.fieldInlinees).getD []
    next := record.next }

def child? (arena : Arena) (id : NodeId) (step : Step) : Option NodeId :=
  (arena.node? id).bind fun record => (arena.branches record).at? step

/-- The id at the end of a path. All nodes before it exist; it may be the id of none. -/
def endOf? (arena : Arena) (root : NodeId) (path : Path) : Option NodeId :=
  follow? arena.child? root path

def Reaches (arena : Arena) (root id : NodeId) : Prop :=
  ∃ path, arena.endOf? root path = some id

def reachable (arena : Arena) (root : NodeId) : Set NodeId :=
  {id | arena.Reaches root id}

/-- The nodes below a root form a tree of well-formed nodes. -/
structure IsTree (arena : Arena) (root : NodeId) : Prop where
  found : ∀ id, arena.Reaches root id → ∃ record, arena.node? id = some record
  unique : ∀ id first second, arena.endOf? root first = some id →
    arena.endOf? root second = some id → first = second
  wellFormed : ∀ id record, arena.Reaches root id → arena.node? id = some record →
    Shape.WellFormed arena record

variable {arena : Arena} {root id : NodeId}

theorem index_lt_of_node? {record : NodeRecord} (found : arena.node? id = some record) :
    id.index < arena.size :=
  (Array.getElem?_eq_some_iff.mp found).1

/-- What a node leads to stays the same while slots are added, when its ranges fit. -/
theorem branches_grow {after : Arena} {record : NodeRecord}
    (fit : Shape.RangesFit arena record) (lists : arena.ListsGrow after) :
    after.branches record = arena.branches record := by
  obtain ⟨slots, holdsSlots⟩ := ListRange.exists_holds fit.inlinees
  obtain ⟨fields, holdsFields⟩ := ListRange.exists_holds fit.fieldInlinees
  simp only [branches, slots?, holdsSlots.reads, holdsFields.reads,
    (holdsSlots.extend lists.slots).reads, (holdsFields.extend lists.slots).reads]

theorem child?_of_node? {record : NodeRecord} (found : arena.node? id = some record)
    (step : Step) : arena.child? id step = (arena.branches record).at? step := by
  rw [child?, found, Option.bind_some]

theorem endOf?_cons (arena : Arena) (root : NodeId) (step : Step) (rest : Path) :
    arena.endOf? root (step :: rest) = (arena.child? root step).bind (arena.endOf? · rest) :=
  rfl

theorem endOf?_append (arena : Arena) (root : NodeId) (front back : Path) :
    arena.endOf? root (front ++ back) =
      (arena.endOf? root front).bind (arena.endOf? · back) :=
  follow?_append arena.child? root front back

theorem endOf?_snoc (arena : Arena) (root : NodeId) (path : Path) (step : Step) :
    arena.endOf? root (path ++ [step]) = (arena.endOf? root path).bind (arena.child? · step) :=
  follow?_snoc arena.child? root path step

theorem endOf?_snoc_eq_some {path : Path} {step : Step} {parent : NodeId}
    {record : NodeRecord} (leads : arena.endOf? root path = some parent)
    (found : arena.node? parent = some record) :
    arena.endOf? root (path ++ [step]) = (arena.branches record).at? step := by
  rw [endOf?_snoc, leads, Option.bind_some, child?_of_node? found]

theorem reaches_root (arena : Arena) (root : NodeId) : arena.Reaches root root :=
  ⟨[], rfl⟩

/-- What a root reaches is among any ids that have the root and whatever they lead to. -/
theorem mem_of_closed (ids : List NodeId) (rooted : root ∈ ids)
    (closed : ∀ parent ∈ ids, ∀ record ∈ arena.node? parent,
      ∀ branch ∈ (arena.branches record).toList, branch.2 ∈ ids)
    (reached : id ∈ arena.reachable root) : id ∈ ids := by
  obtain ⟨path, leads⟩ := reached
  induction path using List.reverseRecOn generalizing id with
  | nil => exact Option.some.inj leads ▸ rooted
  | append_singleton front step ih =>
      rw [endOf?_snoc] at leads
      obtain ⟨parent, toParent, onward⟩ := Option.bind_eq_some_iff.mp leads
      obtain ⟨record, found, atStep⟩ := Option.bind_eq_some_iff.mp onward
      exact closed parent (ih toParent) record found (step, id) (Branches.mem_toList.mpr atStep)

namespace IsTree

theorem below (tree : arena.IsTree root) (reaches : arena.Reaches root id) :
    arena.IsTree id := by
  obtain ⟨path, leads⟩ := reaches
  have longer {back : Path} {target : NodeId} (onward : arena.endOf? id back = some target) :
      arena.endOf? root (path ++ back) = some target := by
    rw [endOf?_append, leads, Option.bind_some, onward]
  refine { found := ?_, unique := ?_, wellFormed := ?_ }
  · intro target ⟨back, onward⟩
    exact tree.found target ⟨path ++ back, longer onward⟩
  · intro target first second toFirst toSecond
    exact List.append_cancel_left
      (tree.unique target (path ++ first) (path ++ second) (longer toFirst) (longer toSecond))
  · intro target record ⟨back, onward⟩ present
    exact tree.wellFormed target record ⟨path ++ back, longer onward⟩ present

/-- A path in a tree is shorter than the list of nodes: all nodes on it differ. -/
theorem path_length_lt (tree : arena.IsTree root) {path : Path}
    (leads : arena.endOf? root path = some id) : path.length < arena.size := by
  have onPath (count : Nat) : ∃ target, arena.endOf? root (path.take count) = some target := by
    have whole := leads
    rw [← List.take_append_drop count path, endOf?_append] at whole
    obtain ⟨target, toTarget, _⟩ := Option.bind_eq_some_iff.mp whole
    exact ⟨target, toTarget⟩
  choose target toTarget using onPath
  have below (count : Nat) : (target count).index < arena.size := by
    obtain ⟨record, present⟩ := tree.found (target count) ⟨_, toTarget count⟩
    exact index_lt_of_node? present
  have distinct : Set.InjOn (fun count => (target count).index)
      (Finset.range (path.length + 1)) := by
    intro left inLeft right inRight same
    have samePath := tree.unique (target left) _ _ (toTarget left)
      (Id.index_inj.mp same ▸ toTarget right)
    have lengths := congrArg List.length samePath
    simp only [List.length_take, Finset.coe_range, Set.mem_Iio] at lengths inLeft inRight
    omega
  have inside : Set.MapsTo (fun count => (target count).index)
      (Finset.range (path.length + 1)) (Finset.range arena.size) := by
    intro count _
    simpa using below count
  have counted := Finset.card_le_card_of_injOn _ inside distinct
  simp only [Finset.card_range] at counted
  omega

end IsTree

end JitSnapshot.Arena
