import JitSnapshot.Shape.Check

set_option autoImplicit false

/-!
Validation of a snapshot: one walk over the nodes below a root. The walk keeps
the ids still to be visited, first one first, and marks every node it has
visited, so a node met twice is reported and the walk ends on any arena.

`visit_unseen_lt` is the reason why it ends: each visit marks a node that was
not marked before.
-/

namespace JitSnapshot

/-- What stops a walk. A shape error is a verdict on the snapshot; `outOfBounds`
would be an access of the walk itself outside one of its lists. -/
inductive WalkFault where
  | shape (error : ShapeError)
  | outOfBounds
  deriving DecidableEq

structure Walk where
  seen : Array Bool
  pending : List NodeId
  /-- How many ids have been taken from `pending`; as yet each was a new node. -/
  popped : Nat

structure WalkEnd where
  popped : Nat
  verdict : Except WalkFault Nat

namespace Walk

def start (arena : Arena) (root : NodeId) : Walk :=
  { seen := Array.replicate arena.size false
    pending := [root]
    popped := 0 }

def children? (arena : Arena) (record : NodeRecord) : Option (List NodeId) := do
  let inlinees ← arena.slots? record.inlinees
  let fieldInlinees ← arena.slots? record.fieldInlinees
  return inlinees.filterMap id ++ fieldInlinees.filterMap id ++ record.next.toList

/-- Visits a node that has been taken from the pending ids. Its children go
before the ids that were already pending. -/
def visit (arena : Arena) (walk : Walk) (node : NodeId) (rest : List NodeId) :
    Except WalkFault Walk :=
  match arena.node? node with
  | none => .error (.shape (.danglingNode node arena.size))
  | some record =>
      if within : node.index < walk.seen.size then
        if walk.seen[node.index] then .error (.shape (.sharedNode node))
        else
          match Shape.checkNode arena node record with
          | .error error => .error (.shape error)
          | .ok () =>
              match children? arena record with
              | none => .error .outOfBounds
              | some children =>
                  .ok
                    { seen := walk.seen.set node.index true within
                      pending := children ++ rest
                      popped := walk.popped + 1 }
      else .error .outOfBounds

theorem visit_unseen_lt {arena : Arena} {walk after : Walk} {node : NodeId}
    {rest : List NodeId} (visited : walk.visit arena node rest = .ok after) :
    after.seen.count false < walk.seen.count false := by
  unfold visit at visited
  split at visited
  · contradiction
  · split at visited
    · rename_i within
      split at visited
      · contradiction
      · rename_i unmarked
        split at visited
        · contradiction
        · split at visited
          · contradiction
          · injection visited with same
            subst same
            have isFalse : walk.seen[node.index] = false := by simpa using unmarked
            have member : false ∈ walk.seen := by
              rw [← isFalse]
              exact Array.getElem_mem within
            have positive := Array.count_pos_iff.mpr member
            simp only [Array.count_set, isFalse]
            simp
            omega
    · contradiction

def run (arena : Arena) (walk : Walk) : WalkEnd :=
  match walk.pending with
  | [] => { popped := walk.popped, verdict := .ok walk.popped }
  | node :: rest =>
      match _visited : walk.visit arena node rest with
      | .error fault => { popped := walk.popped + 1, verdict := .error fault }
      | .ok after => after.run arena
termination_by walk.seen.count false
decreasing_by exact visit_unseen_lt ‹_›

end Walk

namespace Arena

def walk (arena : Arena) (root : NodeId) : WalkEnd :=
  (Walk.start arena root).run arena

/-- The number of nodes below a root, if they form a well-formed tree; else the first violation. -/
def validate (arena : Arena) (root : NodeId) : Except WalkFault Nat :=
  (arena.walk root).verdict

end Arena

end JitSnapshot
