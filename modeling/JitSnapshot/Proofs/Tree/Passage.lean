import JitSnapshot.Proofs.Tree.Reach
import JitSnapshot.Shape.Walk

set_option autoImplicit false

/-!
The walks that a validation passes through: the one it starts with, and the one
that each visit leaves. A visit marks a node that had no mark, so there are at
most as many visits as nodes, whatever the ids and ranges of the arena are. All
walks on the way have one mark for each node, so a run stops at its end or for
the shape of a node, and never for an access outside a list.
-/

namespace JitSnapshot

namespace Walk

/-- Why the visit of a node fails: there is no such node, it has its mark already, or one of its
checks does not pass. -/
inductive Refuses (arena : Arena) (walk : Walk) (node : NodeId) : ShapeError → Prop where
  | dangling : arena.node? node = none →
      Refuses arena walk node (.danglingNode node arena.size)
  | shared {record : NodeRecord} : arena.node? node = some record →
      walk.seen[node.index]? = some true → Refuses arena walk node (.sharedNode node)
  | checked {record : NodeRecord} {error : ShapeError} : arena.node? node = some record →
      walk.seen[node.index]? = some false → Shape.checkNode arena node record = .error error →
        Refuses arena walk node error

/-- The walks of a validation, each with the number of visits before it. -/
inductive Passes (arena : Arena) (root : NodeId) : Nat → Walk → Prop where
  | start : Passes arena root 0 (start arena root)
  | visit {count : Nat} {walk after : Walk} {node : NodeId} {rest : List NodeId} :
      Passes arena root count walk → walk.pending = node :: rest →
        walk.visit arena node rest = .ok after → Passes arena root (count + 1) after

/-- Why a run goes no further than a walk, and what it answers then. -/
inductive Stops (arena : Arena) (walk : Walk) : WalkEnd → Prop where
  | finished : walk.pending = [] →
      Stops arena walk { popped := walk.popped, verdict := .ok walk.popped }
  | refused {node : NodeId} {rest : List NodeId} {error : ShapeError} :
      walk.pending = node :: rest → Refuses arena walk node error →
        Stops arena walk { popped := walk.popped + 1, verdict := .error (.shape error) }

/-- What the visit of a node reads is there: a mark for the node and, once the
node has been checked, all slots of its two ranges. -/
structure ReadsInside (arena : Arena) (walk : Walk) (node : NodeId) (record : NodeRecord) :
    Prop where
  marks : node.index < walk.seen.size
  inlinees : Shape.checkNode arena node record = .ok () →
    record.inlinees.stop ≤ arena.slots.size
  fieldInlinees : Shape.checkNode arena node record = .ok () →
    record.fieldInlinees.stop ≤ arena.slots.size

variable {arena : Arena} {root node : NodeId} {walk after : Walk} {rest : List NodeId}
  {record : NodeRecord} {count : Nat}

/-! ### One visit -/

private theorem children?_of_fit (fit : Shape.RangesFit arena record) :
    children? arena record = some ((arena.branches record).toList.map Prod.snd) := by
  obtain ⟨inlinees, atInlinees⟩ := ListRange.exists_holds fit.inlinees
  obtain ⟨fields, atFields⟩ := ListRange.exists_holds fit.fieldInlinees
  have readInlinees : arena.slots? record.inlinees = some inlinees := atInlinees.reads
  have readFields : arena.slots? record.fieldInlinees = some fields := atFields.reads
  rw [Branches.map_snd_toList]
  simp only [children?, Arena.branches, readInlinees, readFields, Option.getD_some]
  rfl

/-- A visit refuses a node for its shape, or marks it and puts what it leads to before the other
pending ids. It never leads outside a list: the slots are read only once the node has been
checked. -/
theorem visit_cases (rest : List NodeId) (sized : walk.seen.size = arena.size) :
    (∃ error, Refuses arena walk node error ∧
        walk.visit arena node rest = .error (.shape error)) ∨
      ∃ record, arena.node? node = some record ∧ walk.seen[node.index]? = some false ∧
        Shape.WellFormed arena record ∧
        walk.visit arena node rest = .ok
          { seen := walk.seen.setIfInBounds node.index true
            pending := (arena.branches record).toList.map Prod.snd ++ rest
            popped := walk.popped + 1 } := by
  unfold visit
  cases found : arena.node? node with
  | none => exact Or.inl ⟨_, .dangling found, rfl⟩
  | some record =>
      have within : node.index < walk.seen.size := sized ▸ Arena.index_lt_of_node? found
      have marked : walk.seen[node.index]? = some walk.seen[node.index] :=
        Array.getElem?_eq_getElem within
      simp only [dif_pos within]
      cases seen : walk.seen[node.index] with
      | true => exact Or.inl ⟨_, .shared found (by rw [marked, seen]), rfl⟩
      | false =>
          rw [seen] at marked
          cases checked : Shape.checkNode arena node record with
          | error error => exact Or.inl ⟨error, .checked found marked checked, rfl⟩
          | ok passed =>
              have wellFormed := Shape.checkNode_eq_ok_iff.mp checked
              have set_eq : walk.seen.setIfInBounds node.index true =
                  walk.seen.set node.index true within := by
                unfold Array.setIfInBounds
                rw [dif_pos within]
              refine Or.inr ⟨record, rfl, marked, wellFormed, ?_⟩
              simp only [children?_of_fit wellFormed.ranges, set_eq, Bool.false_eq_true, if_false]

theorem Refuses.not_wellFormed {error : ShapeError} (refuses : Refuses arena walk node error)
    (found : arena.node? node = some record) (unmarked : walk.seen[node.index]? = some false) :
    ¬Shape.WellFormed arena record := by
  intro wellFormed
  cases refuses with
  | dangling missing =>
      rw [missing] at found
      cases found
  | shared _ marked =>
      rw [marked] at unmarked
      cases unmarked
  | checked present _ failed =>
      rw [present, Option.some.injEq] at found
      rw [found, Shape.checkNode_eq_ok_iff.mpr wellFormed] at failed
      cases failed

theorem visit_eq_ok_iff (sized : walk.seen.size = arena.size) :
    walk.visit arena node rest = .ok after ↔
      ∃ record, arena.node? node = some record ∧ walk.seen[node.index]? = some false ∧
        Shape.WellFormed arena record ∧
        after =
          { seen := walk.seen.setIfInBounds node.index true
            pending := (arena.branches record).toList.map Prod.snd ++ rest
            popped := walk.popped + 1 } := by
  rcases visit_cases rest sized with ⟨error, refuses, failed⟩ | ⟨record, found, unmarked,
    wellFormed, visited⟩
  · rw [failed]
    constructor
    · intro impossible
      cases impossible
    · rintro ⟨record, found, unmarked, wellFormed, _⟩
      exact absurd wellFormed (refuses.not_wellFormed found unmarked)
  · rw [visited, Except.ok.injEq]
    constructor
    · rintro rfl
      exact ⟨record, found, unmarked, wellFormed, rfl⟩
    · rintro ⟨other, present, _, _, rfl⟩
      rw [found, Option.some.injEq] at present
      rw [present]

theorem visit_refuses {fault : WalkFault} (sized : walk.seen.size = arena.size)
    (refused : walk.visit arena node rest = .error fault) :
    ∃ error, fault = .shape error ∧ Refuses arena walk node error := by
  rcases visit_cases rest sized with ⟨error, refuses, failed⟩ | ⟨_, _, _, _, visited⟩
  · rw [failed, Except.error.injEq] at refused
    exact ⟨error, refused.symm, refuses⟩
  · rw [visited] at refused
    cases refused

/-- A visit adds one mark to those there are. -/
theorem marked_iff (within : node.index < walk.seen.size) (id : NodeId) :
    (walk.seen.setIfInBounds node.index true)[id.index]? = some true ↔
      id = node ∨ walk.seen[id.index]? = some true := by
  rw [Array.getElem?_setIfInBounds]
  by_cases same : node.index = id.index
  · rw [if_pos same, if_pos within]
    exact iff_of_true rfl (Or.inl (Id.index_inj.mp same).symm)
  · have differ : id ≠ node := fun equal => same (congrArg Id.index equal.symm)
    rw [if_neg same, or_iff_right differ]

/-! ### The walks on the way -/

namespace Passes

theorem sized (passes : Passes arena root count walk) : walk.seen.size = arena.size := by
  induction passes with
  | start => exact Array.size_replicate
  | visit _ _ visited ih =>
      obtain ⟨_, _, _, _, rfl⟩ := (visit_eq_ok_iff ih).mp visited
      exact Array.size_setIfInBounds.trans ih

private theorem popped_eq (passes : Passes arena root count walk) : walk.popped = count := by
  induction passes with
  | start => rfl
  | visit before _ visited ih =>
      obtain ⟨_, _, _, _, rfl⟩ := (visit_eq_ok_iff before.sized).mp visited
      exact congrArg (· + 1) ih

/-- Each visit has taken away one of the nodes without a mark. -/
private theorem count_unseen (passes : Passes arena root count walk) :
    count + walk.seen.count false ≤ arena.size := by
  induction passes with
  | start =>
      rw [Walk.start, Nat.zero_add]
      exact Nat.le_trans Array.count_le_size (Nat.le_of_eq Array.size_replicate)
  | visit _ _ visited ih =>
      have fewer := visit_unseen_lt visited
      omega

theorem count_le (passes : Passes arena root count walk) : count ≤ arena.size :=
  Nat.le_trans (Nat.le_add_right _ _) passes.count_unseen

theorem readsInside (passes : Passes arena root count walk)
    (found : arena.node? node = some record) : ReadsInside arena walk node record :=
  { marks := passes.sized ▸ Arena.index_lt_of_node? found
    inlinees := fun checked => (Shape.checkNode_eq_ok_iff.mp checked).ranges.inlinees
    fieldInlinees := fun checked => (Shape.checkNode_eq_ok_iff.mp checked).ranges.fieldInlinees }

/-- A run goes on by visits until it stops. -/
private theorem run_stops (passes : Passes arena root count walk) :
    ∃ visits last, Passes arena root visits last ∧ Stops arena last (walk.run arena) := by
  fun_induction Walk.run arena walk generalizing count with
  | case1 walk empty => exact ⟨count, walk, passes, .finished empty⟩
  | case2 walk node rest atFront fault refused =>
      obtain ⟨error, rfl, refuses⟩ := visit_refuses passes.sized refused
      exact ⟨count, walk, passes, .refused atFront refuses⟩
  | case3 walk node rest atFront after visited ih => exact ih (.visit passes atFront visited)

end Passes

end Walk

namespace Arena

theorem walk_stops (arena : Arena) (root : NodeId) :
    ∃ visits last, Walk.Passes arena root visits last ∧ Walk.Stops arena last (arena.walk root) :=
  Walk.Passes.start.run_stops

theorem validate_fault {arena : Arena} {root : NodeId} {fault : WalkFault}
    (refused : arena.validate root = .error fault) : ∃ error, fault = .shape error := by
  obtain ⟨_, _, _, stops⟩ := arena.walk_stops root
  unfold validate at refused
  generalize arena.walk root = ended at stops refused
  cases stops with
  | finished _ => cases refused
  | refused _ _ =>
      cases refused
      exact ⟨_, rfl⟩

/-- A validation ends, on any arena and for any root. It stops after finitely many visits, no
more than there are nodes, and so takes at most one id more than that from the pending ones; on
the way all that it reads is inside its lists; and its answer is a count or a shape error. -/
theorem walk_ends_inside (arena : Arena) (root : NodeId) :
    (∃ visits last, Walk.Passes arena root visits last ∧
        Walk.Stops arena last (arena.walk root)) ∧
      (∀ visits walk, Walk.Passes arena root visits walk →
        visits ≤ arena.size ∧ walk.popped = visits ∧
          ∀ node record, arena.node? node = some record →
            Walk.ReadsInside arena walk node record) ∧
        (arena.walk root).popped ≤ arena.size + 1 ∧
          ((∃ count, arena.validate root = .ok count) ∨
            ∃ error, arena.validate root = .error (.shape error)) := by
  obtain ⟨visits, last, passes, stops⟩ := arena.walk_stops root
  refine ⟨⟨visits, last, passes, stops⟩, ?_, ?_, ?_⟩
  · intro _ walk onTheWay
    exact ⟨onTheWay.count_le, onTheWay.popped_eq, fun _ _ => onTheWay.readsInside⟩
  · have popped := passes.popped_eq
    have bounded := passes.count_le
    generalize arena.walk root = ended at stops
    cases stops with
    | finished _ =>
        simp only
        omega
    | refused _ _ =>
        simp only
        omega
  · cases verdict : arena.validate root with
    | ok count => exact Or.inl ⟨count, rfl⟩
    | error fault =>
        obtain ⟨error, rfl⟩ := validate_fault verdict
        exact Or.inr ⟨error, rfl⟩

end Arena

end JitSnapshot
