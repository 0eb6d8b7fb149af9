import JitSnapshot.Proofs.Shape.Violation
import JitSnapshot.Proofs.Tree.Walk

set_option autoImplicit false

/-!
What a refused validation reports. The error is true of the arena: the node it
names is reached from the root through nodes with all their slots, and there is
no such node, or two paths lead to it, or its record violates what the error
says. The paths are those by which the walk has come to the node.
-/

namespace JitSnapshot

namespace Arena

/-- Paths from a root, with the ids they lead to. All nodes before the end are there, and their
slots are inside the flat list. -/
inductive LeadsTo (arena : Arena) (root : NodeId) : Path → NodeId → Prop where
  | root : LeadsTo arena root [] root
  | step {path : Path} {step : Step} {parent child : NodeId} {record : NodeRecord} :
      LeadsTo arena root path parent → arena.node? parent = some record →
        record.inlinees.stop ≤ arena.slots.size → record.fieldInlinees.stop ≤ arena.slots.size →
          (arena.branches record).at? step = some child →
            LeadsTo arena root (path ++ [step]) child

/-- The errors that are true of what is below a root. -/
inductive Faulty (arena : Arena) (root : NodeId) : ShapeError → Prop where
  | danglingNode {path : Path} {id : NodeId} :
      arena.LeadsTo root path id → arena.size ≤ id.index →
        Faulty arena root (.danglingNode id arena.size)
  | sharedNode {first second : Path} {id : NodeId} :
      arena.LeadsTo root first id → arena.LeadsTo root second id → first ≠ second →
        (id = root → first = []) → Faulty arena root (.sharedNode id)
  | violation {path : Path} {id : NodeId} {record : NodeRecord} {error : ShapeError} :
      arena.LeadsTo root path id → arena.node? id = some record →
        Shape.Violates arena id record error → Faulty arena root error

variable {arena : Arena} {root id : NodeId}

/-- Of two paths to one node the first may be taken to be the empty one, if the node is the
root. -/
theorem Faulty.of_paths {first second : Path} (toFirst : arena.LeadsTo root first id)
    (toSecond : arena.LeadsTo root second id) (differ : first ≠ second) :
    arena.Faulty root (.sharedNode id) := by
  by_cases atRoot : id = root
  · subst atRoot
    by_cases empty : first = []
    · exact .sharedNode toFirst toSecond differ (fun _ => empty)
    · exact .sharedNode .root toFirst (Ne.symm empty) (fun _ => rfl)
  · exact .sharedNode toFirst toSecond differ (fun same => absurd same atRoot)

end Arena

namespace Walk

variable {arena : Arena} {root node : NodeId} {walk : Walk} {rest : List NodeId}
  {done todo : List Path} {path : Path} {id : NodeId} {error : ShapeError}

namespace Explores

/-- All nodes before the end of a path that is visited or to be visited have been checked. -/
private theorem leadsTo (explores : walk.Explores arena root done todo)
    (member : path ∈ done ++ todo)
    (leads : arena.endOf? root path = some id) : arena.LeadsTo root path id := by
  induction path using List.reverseRecOn generalizing id with
  | nil =>
      cases leads
      exact .root
  | append_singleton front step ih =>
      have isDone := explores.parents front step member
      obtain ⟨parent, record, toParent, found, wellFormed⟩ := explores.visited front isDone
      rw [Arena.endOf?_snoc_eq_some toParent found] at leads
      exact .step (ih (List.mem_append_left todo isDone) toParent) found
        wellFormed.ranges.inlinees wellFormed.ranges.fieldInlinees leads

theorem faulty (explores : walk.Explores arena root done todo)
    (atFront : walk.pending = node :: rest) (refuses : Refuses arena walk node error) :
    arena.Faulty root error := by
  obtain ⟨path, later, rfl, leads, _⟩ := explores.front atFront
  have toNode := explores.leadsTo (List.mem_append_right done List.mem_cons_self) leads
  cases refuses with
  | dangling missing => exact .danglingNode toNode (Array.getElem?_eq_none_iff.mp missing)
  | shared found marked =>
      obtain ⟨other, isDone, alsoLeads⟩ := (explores.seen node).mp marked
      have alsoToNode := explores.leadsTo (List.mem_append_left _ isDone) alsoLeads
      have differ : other ≠ path := fun same => explores.not_done (same ▸ isDone)
      exact .of_paths alsoToNode toNode differ
  | checked found _ failed => exact .violation toNode found (Shape.checkNode_violates failed)

end Explores

end Walk

namespace Arena

variable {arena : Arena} {root : NodeId}

/-- A validation that fails reports a shape error, and it is true of what is below the root. -/
theorem faulty_of_validate {fault : WalkFault} (refused : arena.validate root = .error fault) :
    ∃ error, fault = .shape error ∧ arena.Faulty root error := by
  obtain ⟨visits, last, passes, stops⟩ := arena.walk_stops root
  obtain ⟨done, todo, explores⟩ := passes.exists_explores
  unfold validate at refused
  generalize arena.walk root = ended at stops refused
  cases stops with
  | finished _ => cases refused
  | refused atFront refuses =>
      cases refused
      exact ⟨_, rfl, explores.faulty atFront refuses⟩

/-- One node is named for a call site and for a cache of the root, and the root's successor
dangles. -/
def twiceNamed : Arena :=
  { nodes := #[{ body := some ⟨0⟩, runtime := some ⟨0⟩, inlinees := ⟨0, 1⟩,
                 fieldInlinees := ⟨1, 1⟩, next := some ⟨7⟩ }, {}]
    bodies := #[{ callSiteCount := 1, cacheCount := 1 }]
    runtimes := #[{}]
    slots := #[some ⟨1⟩, some ⟨1⟩] }

theorem faulty_of_validate_twiceNamed :
    twiceNamed.validate ⟨0⟩ = .error (.shape (.sharedNode ⟨1⟩)) ∧
      twiceNamed.Faulty ⟨0⟩ (.sharedNode ⟨1⟩) := by
  have refused : twiceNamed.validate ⟨0⟩ = .error (.shape (.sharedNode ⟨1⟩)) := by
    decide +kernel
  obtain ⟨error, same, faulty⟩ := faulty_of_validate refused
  cases same
  exact ⟨refused, faulty⟩

end Arena

end JitSnapshot
