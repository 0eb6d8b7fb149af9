import JitSnapshot.Proofs.Tree.Passage
import Mathlib.Data.Finset.Card

set_option autoImplicit false

/-!
Validation by recursion: a node is visited, then all that stands below it, slot
by slot and the successor last, and the set of nodes that have been visited is
handed on from each visit to the next. The walk with its pending ids visits the
same nodes in the same order, so both give the same answer, whichever node is
refused first and for whatever reason.
-/

namespace JitSnapshot

namespace Arena

/-- How many nodes have not been visited. -/
def unvisited (arena : Arena) (seen : Finset NodeId) : Nat :=
  (Finset.range arena.size \ seen.image Id.index).card

private theorem unvisited_le (arena : Arena) {seen more : Finset NodeId} (grown : seen ⊆ more) :
    arena.unvisited more ≤ arena.unvisited seen :=
  Finset.card_le_card (Finset.sdiff_subset_sdiff (Finset.Subset.refl _)
    (Finset.image_subset_image grown))

private theorem unvisited_insert_lt {arena : Arena} {seen : Finset NodeId} {id : NodeId}
    {record : NodeRecord} (found : arena.node? id = some record) (new : id ∉ seen) :
    arena.unvisited (insert id seen) < arena.unvisited seen := by
  apply Finset.card_lt_card
  rw [Finset.ssubset_iff_of_subset (Finset.sdiff_subset_sdiff (Finset.Subset.refl _)
    (Finset.image_subset_image (Finset.subset_insert id seen)))]
  refine ⟨id.index, ?_, ?_⟩
  · rw [Finset.mem_sdiff, Finset.mem_range, Finset.mem_image]
    refine ⟨index_lt_of_node? found, ?_⟩
    rintro ⟨other, member, same⟩
    exact new (Id.index_inj.mp same ▸ member)
  · intro member
    exact (Finset.mem_sdiff.mp member).2
      (Finset.mem_image_of_mem Id.index (Finset.mem_insert_self id seen))

mutual

/-- Visits a node and then all below it: its inlinees, its field inlinees and its successor.
The nodes that had been visited before stay visited. -/
def visitNode (arena : Arena) (seen : Finset NodeId) (id : NodeId) :
    Except ShapeError { after : Finset NodeId // seen ⊆ after } :=
  match _found : arena.node? id with
  | none => .error (.danglingNode id arena.size)
  | some record =>
      if _new : id ∈ seen then .error (.sharedNode id)
      else
        match Shape.checkNode arena id record with
        | .error error => .error error
        | .ok () =>
            let below := arena.branches record
            match visitSlots arena (insert id seen)
              (below.inlinees ++ below.fieldInlinees ++ [below.next]) with
            | .error error => .error error
            | .ok after => .ok ⟨after.1, (Finset.subset_insert id seen).trans after.2⟩
termination_by (arena.unvisited seen, 0)
decreasing_by exact Prod.Lex.left _ _ (unvisited_insert_lt _found _new)

/-- Visits what slots name, one after the other; empty slots are passed over. -/
def visitSlots (arena : Arena) (seen : Finset NodeId) :
    List Slot → Except ShapeError { after : Finset NodeId // seen ⊆ after }
  | [] => .ok ⟨seen, Finset.Subset.refl seen⟩
  | none :: rest => visitSlots arena seen rest
  | some id :: rest =>
      match visitNode arena seen id with
      | .error error => .error error
      | .ok mid =>
          match visitSlots arena mid.1 rest with
          | .error error => .error error
          | .ok after => .ok ⟨after.1, mid.2.trans after.2⟩
termination_by slots => (arena.unvisited seen, slots.length + 1)
decreasing_by
  · exact Prod.Lex.right _ (Nat.lt_succ_self _)
  · exact Prod.Lex.right _ (Nat.succ_pos _)
  · rcases Nat.lt_or_eq_of_le (arena.unvisited_le mid.2) with fewer | same
    · exact Prod.Lex.left _ _ fewer
    · rw [same]
      exact Prod.Lex.right _ (Nat.lt_succ_self _)

end

/-! ### The visited nodes alone -/

def nodeVisited (arena : Arena) (seen : Finset NodeId) (id : NodeId) :
    Except ShapeError (Finset NodeId) :=
  (arena.visitNode seen id).map Subtype.val

def slotsVisited (arena : Arena) (seen : Finset NodeId) (slots : List Slot) :
    Except ShapeError (Finset NodeId) :=
  (arena.visitSlots seen slots).map Subtype.val

variable {arena : Arena} {seen : Finset NodeId} {node : NodeId} {record : NodeRecord}

theorem nodeVisited_missing (missing : arena.node? node = none) :
    arena.nodeVisited seen node = .error (.danglingNode node arena.size) := by
  rw [nodeVisited, visitNode]
  split
  · rfl
  · rename_i found
    rw [missing] at found
    cases found

/-- The visit of a node that is there: it must be new, it is checked, and then what its slots
and its successor name is visited. -/
theorem nodeVisited_found (found : arena.node? node = some record) :
    arena.nodeVisited seen node =
      if node ∈ seen then .error (.sharedNode node)
      else Shape.checkNode arena node record >>= fun _ =>
        arena.slotsVisited (insert node seen) ((arena.branches record).inlinees ++
          (arena.branches record).fieldInlinees ++ [(arena.branches record).next]) := by
  rw [nodeVisited, visitNode]
  split
  · rename_i missing
    rw [missing] at found
    cases found
  · rename_i other present
    rw [found, Option.some.injEq] at present
    subst present
    split
    · rfl
    · cases Shape.checkNode arena node record with
      | error error => rfl
      | ok passed =>
          rw [ok_bind, slotsVisited]
          simp only
          cases arena.visitSlots (insert node seen) ((arena.branches record).inlinees ++
            (arena.branches record).fieldInlinees ++ [(arena.branches record).next]) <;> rfl

theorem slotsVisited_nil (arena : Arena) (seen : Finset NodeId) :
    arena.slotsVisited seen [] = .ok seen := by
  rw [slotsVisited, visitSlots]
  rfl

theorem slotsVisited_none (arena : Arena) (seen : Finset NodeId) (rest : List Slot) :
    arena.slotsVisited seen (none :: rest) = arena.slotsVisited seen rest := by
  rw [slotsVisited, visitSlots, slotsVisited]

theorem slotsVisited_some (arena : Arena) (seen : Finset NodeId) (node : NodeId)
    (rest : List Slot) :
    arena.slotsVisited seen (some node :: rest) =
      arena.nodeVisited seen node >>= fun mid => arena.slotsVisited mid rest := by
  rw [slotsVisited, visitSlots, nodeVisited]
  cases arena.visitNode seen node with
  | error error => rfl
  | ok mid =>
      change _ = (arena.visitSlots mid.1 rest).map Subtype.val
      simp only
      cases arena.visitSlots mid.1 rest <;> rfl

private theorem slotsVisited_append (arena : Arena) (seen : Finset NodeId)
    (front back : List Slot) :
    arena.slotsVisited seen (front ++ back) =
      arena.slotsVisited seen front >>= fun mid => arena.slotsVisited mid back := by
  induction front generalizing seen with
  | nil => rw [List.nil_append, slotsVisited_nil, ok_bind]
  | cons slot rest ih =>
      cases slot with
      | none => rw [List.cons_append, slotsVisited_none, slotsVisited_none, ih]
      | some node =>
          rw [List.cons_append, slotsVisited_some, slotsVisited_some, bind_assoc]
          apply congrArg _
          funext mid
          exact ih mid

private theorem slotsVisited_present (arena : Arena) (seen : Finset NodeId) (slots : List Slot) :
    arena.slotsVisited seen ((slots.filterMap id).map some) = arena.slotsVisited seen slots := by
  induction slots generalizing seen with
  | nil => rfl
  | cons slot rest ih =>
      cases slot with
      | none => exact (ih seen).trans (slotsVisited_none arena seen rest).symm
      | some node =>
          change arena.slotsVisited seen (some node :: (rest.filterMap id).map some) = _
          rw [slotsVisited_some, slotsVisited_some]
          apply congrArg _
          funext mid
          exact ih mid

end Arena

/-! ### The walk -/

namespace Walk

/-- The marks of a walk are on the visited nodes, and each of these has been counted. -/
structure Marks (arena : Arena) (walk : Walk) (seen : Finset NodeId) : Prop where
  sized : walk.seen.size = arena.size
  marked : ∀ id : NodeId, walk.seen[id.index]? = some true ↔ id ∈ seen
  counted : walk.popped = seen.card

variable {arena : Arena} {root node : NodeId} {walk after : Walk} {seen : Finset NodeId}
  {rest : List NodeId} {error : ShapeError}

private theorem start_marks (arena : Arena) (root : NodeId) : Marks arena (start arena root) ∅ := by
  refine { sized := Array.size_replicate, marked := ?_, counted := rfl }
  intro id
  rw [start, Array.getElem?_replicate]
  split <;> simp

namespace Marks

theorem not_mem (marks : Marks arena walk seen)
    (unmarked : walk.seen[node.index]? = some false) : node ∉ seen := by
  intro member
  rw [(marks.marked node).mpr member] at unmarked
  cases unmarked

theorem visit (marks : Marks arena walk seen)
    (visited : walk.visit arena node rest = .ok after) :
    Marks arena after (insert node seen) := by
  obtain ⟨record, found, unmarked, _, rfl⟩ := (visit_eq_ok_iff marks.sized).mp visited
  have within : node.index < walk.seen.size :=
    marks.sized ▸ Arena.index_lt_of_node? found
  refine { sized := Array.size_setIfInBounds.trans marks.sized, marked := ?_, counted := ?_ }
  · intro id
    rw [marked_iff within, Finset.mem_insert, marks.marked id]
  · rw [Finset.card_insert_of_notMem (marks.not_mem unmarked), marks.counted]

private theorem nodeVisited_eq_error (marks : Marks arena walk seen)
    (refuses : Refuses arena walk node error) : arena.nodeVisited seen node = .error error := by
  cases refuses with
  | dangling missing => exact Arena.nodeVisited_missing missing
  | shared found marked =>
      rw [Arena.nodeVisited_found found, if_pos ((marks.marked node).mp marked)]
  | checked found unmarked failed =>
      rw [Arena.nodeVisited_found found, if_neg (marks.not_mem unmarked), failed, error_bind]

/-- The run of a walk visits its pending ids one after the other, each with all below it. -/
private theorem run_verdict (marks : Marks arena walk seen) :
    (walk.run arena).verdict =
      ((arena.slotsVisited seen (walk.pending.map some)).map Finset.card).mapError .shape := by
  fun_induction Walk.run arena walk generalizing seen with
  | case1 walk empty =>
      rw [empty, List.map_nil, Arena.slotsVisited_nil, marks.counted]
      rfl
  | case2 walk node rest atFront fault refused =>
      obtain ⟨error, rfl, refuses⟩ := visit_refuses marks.sized refused
      rw [atFront, List.map_cons, Arena.slotsVisited_some, marks.nodeVisited_eq_error refuses]
      rfl
  | case3 walk node rest atFront after visited ih =>
      obtain ⟨record, found, unmarked, wellFormed, isAfter⟩ :=
        (visit_eq_ok_iff marks.sized).mp visited
      have below : (arena.branches record).toList.map Prod.snd =
          ((arena.branches record).inlinees ++ (arena.branches record).fieldInlinees ++
            [(arena.branches record).next]).filterMap id := by
        rw [Branches.map_snd_toList, List.filterMap_append, List.filterMap_append]
        cases (arena.branches record).next <;> rfl
      have passed : Shape.checkNode arena node record = .ok () :=
        Shape.checkNode_eq_ok_iff.mpr wellFormed
      rw [ih (marks.visit visited), atFront, List.map_cons, Arena.slotsVisited_some,
        Arena.nodeVisited_found found, if_neg (marks.not_mem unmarked), passed, ok_bind, isAfter,
        List.map_append, Arena.slotsVisited_append, below, Arena.slotsVisited_present]

end Marks

end Walk

namespace Arena

/-- Validation is the recursive visit of the root with nothing visited before: it refuses the
same node for the same reason, or counts the nodes that have been visited. -/
theorem validate_eq_recursive (arena : Arena) (root : NodeId) :
    arena.validate root =
      ((arena.visitNode ∅ root).map fun visited => visited.1.card).mapError .shape := by
  have verdict := (Walk.start_marks arena root).run_verdict
  have rootOnly : arena.slotsVisited ∅ ([root].map some) = arena.nodeVisited ∅ root := by
    rw [List.map_singleton, slotsVisited_some]
    simp only [slotsVisited_nil]
    exact bind_pure _
  refine verdict.trans ?_
  change ((arena.slotsVisited ∅ ([root].map some)).map Finset.card).mapError _ = _
  rw [rootOnly, nodeVisited]
  cases arena.visitNode ∅ root <;> rfl

end Arena

end JitSnapshot
