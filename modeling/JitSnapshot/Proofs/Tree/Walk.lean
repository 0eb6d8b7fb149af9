import JitSnapshot.Proofs.Tree.Passage
import Mathlib.Data.List.Induction

set_option autoImplicit false

/-!
The walk of a validation and the tree it walks over. A walk under way is
explained by the paths it has visited and the paths that lead to the ids still
to be visited. One visit keeps such an explanation, so a walk that ends without
an error has visited the end of every path, and each node by one path only.
-/

namespace JitSnapshot

namespace Walk

variable {arena : Arena} {root : NodeId}

/-- The paths a walk has visited, and those of its pending ids in their order. -/
structure Explores (arena : Arena) (root : NodeId) (walk : Walk) (done todo : List Path) :
    Prop where
  pending : todo.map (arena.endOf? root) = walk.pending.map some
  paths : (done ++ todo).Nodup
  rooted : [] ∈ done ++ todo
  parents : ∀ path step, path ++ [step] ∈ done ++ todo → path ∈ done
  closed : ∀ path ∈ done, ∀ step id, arena.endOf? root (path ++ [step]) = some id →
    path ++ [step] ∈ done ++ todo
  visited : ∀ path ∈ done, ∃ id record, arena.endOf? root path = some id ∧
    arena.node? id = some record ∧ Shape.WellFormed arena record
  nodes : (done.map (arena.endOf? root)).Nodup
  seenSize : walk.seen.size = arena.size
  seen : ∀ id : NodeId, walk.seen[id.index]? = some true ↔
    ∃ path ∈ done, arena.endOf? root path = some id
  popped : walk.popped = done.length

private theorem start_explores (arena : Arena) (root : NodeId) :
    (start arena root).Explores arena root [] [[]] := by
  refine
    { pending := rfl
      paths := List.nodup_singleton []
      rooted := List.mem_singleton.mpr rfl
      parents := ?_
      closed := ?_
      visited := ?_
      nodes := List.nodup_nil
      seenSize := Array.size_replicate
      seen := ?_
      popped := rfl }
  · intro path step member
    simp at member
  · intro path member
    cases member
  · intro path member
    cases member
  · intro id
    constructor
    · intro marked
      rw [start, Array.getElem?_replicate] at marked
      split at marked
      · cases marked
      · cases marked
    · rintro ⟨path, member, _⟩
      cases member

def longer (path : Path) (branches : Branches NodeId) : List Path :=
  branches.toList.map fun branch => path ++ [branch.1]

private theorem mem_longer {path other : Path} {branches : Branches NodeId} :
    other ∈ longer path branches ↔
      ∃ step id, other = path ++ [step] ∧ branches.at? step = some id := by
  simp only [longer, List.mem_map, Prod.exists, Branches.mem_toList]
  constructor
  · rintro ⟨step, id, atStep, rfl⟩
    exact ⟨step, id, rfl, atStep⟩
  · rintro ⟨step, id, rfl, atStep⟩
    exact ⟨step, id, atStep, rfl⟩

private theorem longer_nodup (path : Path) (branches : Branches NodeId) :
    (longer path branches).Nodup := by
  have steps : (branches.toList.map fun branch => path ++ [branch.1]) =
      (branches.toList.map Prod.fst).map fun step => path ++ [step] := by
    rw [List.map_map]
    rfl
  rw [longer, steps]
  refine List.Nodup.map ?_ branches.toList_steps_nodup
  intro left right same
  exact List.singleton_inj.mp (List.append_cancel_left same)

private theorem regroup (path : Path) (done new todo : List Path) :
    (path :: done ++ (new ++ todo)).Perm (new ++ (done ++ path :: todo)) := by
  have moved : (new ++ (done ++ path :: todo)).Perm (path :: (new ++ (done ++ todo))) :=
    (List.perm_middle.append_left new).trans List.perm_middle
  exact ((List.perm_append_comm_assoc done new todo).cons path).trans moved.symm

namespace Explores

variable {walk after : Walk} {node : NodeId} {rest : List NodeId} {done todo : List Path}
  {path : Path}

theorem front (explores : walk.Explores arena root done todo)
    (atFront : walk.pending = node :: rest) :
    ∃ path later, todo = path :: later ∧ arena.endOf? root path = some node ∧
      later.map (arena.endOf? root) = rest.map some := by
  have pending := explores.pending
  rw [atFront] at pending
  cases todo with
  | nil => cases pending
  | cons path later =>
      simp only [List.map_cons, List.cons.injEq] at pending
      exact ⟨path, later, rfl, pending.1, pending.2⟩

private theorem map_endOf?_longer {path : Path} {record : NodeRecord}
    (leads : arena.endOf? root path = some node) (found : arena.node? node = some record) :
    (longer path (arena.branches record)).map (arena.endOf? root) =
      ((arena.branches record).toList.map Prod.snd).map some := by
  rw [longer, List.map_map, List.map_map]
  apply List.map_congr_left
  intro ⟨step, id⟩ member
  simp only [Function.comp_apply]
  rw [Arena.endOf?_snoc_eq_some leads found, Branches.mem_toList.mp member]

theorem not_done (explores : walk.Explores arena root done (path :: todo)) : path ∉ done := by
  intro inDone
  exact (List.nodup_append.mp explores.paths).2.2 path inDone path List.mem_cons_self rfl

/-- A path one step longer is new: its parent would have been visited before. -/
private theorem longer_new (explores : walk.Explores arena root done (path :: todo))
    {branches : Branches NodeId} {other : Path} (isLonger : other ∈ longer path branches) :
    other ∉ done ++ path :: todo := by
  intro known
  obtain ⟨step, id, rfl, _⟩ := mem_longer.mp isLonger
  exact explores.not_done (explores.parents path step known)

private theorem seen_visit (explores : walk.Explores arena root done (path :: todo))
    (leads : arena.endOf? root path = some node) (within : node.index < walk.seen.size)
    (id : NodeId) :
    (walk.seen.setIfInBounds node.index true)[id.index]? = some true ↔
      ∃ other ∈ path :: done, arena.endOf? root other = some id := by
  rw [marked_iff within, explores.seen id]
  constructor
  · rintro (rfl | ⟨other, earlier, toId⟩)
    · exact ⟨path, List.mem_cons_self, leads⟩
    · exact ⟨other, List.mem_cons_of_mem _ earlier, toId⟩
  · rintro ⟨other, member, toId⟩
    rcases List.mem_cons.mp member with rfl | earlier
    · exact Or.inl (Option.some.inj (toId.symm.trans leads))
    · exact Or.inr ⟨other, earlier, toId⟩

/-- A visit keeps the walk explained: the path visited is done, the paths one
step longer are to be visited next. -/
theorem visit (explores : walk.Explores arena root done (path :: todo))
    (leads : arena.endOf? root path = some node)
    (later : todo.map (arena.endOf? root) = rest.map some)
    (visited : walk.visit arena node rest = .ok after) :
    ∃ new, after.Explores arena root (path :: done) (new ++ todo) := by
  obtain ⟨record, found, unmarked, wellFormed, rfl⟩ :=
    (visit_eq_ok_iff explores.seenSize).mp visited
  have within : node.index < walk.seen.size :=
    explores.seenSize ▸ Arena.index_lt_of_node? found
  refine ⟨longer path (arena.branches record), ?_⟩
  have regrouped := regroup path done (longer path (arena.branches record)) todo
  have known {other : Path} :
      other ∈ path :: done ++ (longer path (arena.branches record) ++ todo) ↔
      other ∈ longer path (arena.branches record) ∨ other ∈ done ++ path :: todo := by
    rw [regrouped.mem_iff, List.mem_append]
  refine
    { pending := ?_
      paths := ?_
      rooted := known.mpr (Or.inr explores.rooted)
      parents := ?_
      closed := ?_
      visited := ?_
      nodes := ?_
      seenSize := Array.size_setIfInBounds.trans explores.seenSize
      seen := explores.seen_visit leads within
      popped := by rw [explores.popped, List.length_cons] }
  · rw [List.map_append, List.map_append, map_endOf?_longer leads found, later]
  · apply regrouped.nodup_iff.mpr
    refine List.nodup_append.mpr ⟨longer_nodup _ _, explores.paths, ?_⟩
    intro other isLonger also isKnown same
    exact explores.longer_new isLonger (same ▸ isKnown)
  · intro other step member
    rcases known.mp member with isLonger | isKnown
    · obtain ⟨taken, id, same, _⟩ := mem_longer.mp isLonger
      rw [(List.append_inj' same rfl).1]
      exact List.mem_cons_self
    · exact List.mem_cons_of_mem _ (explores.parents other step isKnown)
  · intro other member step id onward
    apply known.mpr
    rcases List.mem_cons.mp member with rfl | earlier
    · rw [Arena.endOf?_snoc_eq_some leads found] at onward
      exact Or.inl (mem_longer.mpr ⟨step, id, rfl, onward⟩)
    · exact Or.inr (explores.closed other earlier step id onward)
  · intro other member
    rcases List.mem_cons.mp member with rfl | earlier
    · exact ⟨node, record, leads, found, wellFormed⟩
    · exact explores.visited other earlier
  · rw [List.map_cons, leads]
    refine List.nodup_cons.mpr ⟨?_, explores.nodes⟩
    intro again
    obtain ⟨other, earlier, toNode⟩ := List.mem_map.mp again
    rw [(explores.seen node).mpr ⟨other, earlier, toNode⟩] at unmarked
    cases unmarked

private theorem mem_of_leads (explores : walk.Explores arena root done []) {path : Path}
    {id : NodeId} (leads : arena.endOf? root path = some id) : path ∈ done := by
  have closed := explores.closed
  rw [List.append_nil] at closed
  induction path using List.reverseRecOn generalizing id with
  | nil =>
      have rooted := explores.rooted
      rwa [List.append_nil] at rooted
  | append_singleton front step ih =>
      have toFront := leads
      rw [Arena.endOf?_snoc] at toFront
      obtain ⟨mid, toMid, _⟩ := Option.bind_eq_some_iff.mp toFront
      exact closed front (ih toMid) step id leads

theorem isTree (explores : walk.Explores arena root done []) : arena.IsTree root := by
  have recordAt {id : NodeId} (reaches : arena.Reaches root id) :
      ∃ record, arena.node? id = some record ∧ Shape.WellFormed arena record := by
    obtain ⟨path, leads⟩ := reaches
    obtain ⟨other, record, toOther, found, wellFormed⟩ :=
      explores.visited path (explores.mem_of_leads leads)
    have same : other = id := Option.some.inj (toOther.symm.trans leads)
    exact ⟨record, same ▸ found, wellFormed⟩
  refine { found := ?_, unique := ?_, wellFormed := ?_ }
  · intro id reaches
    obtain ⟨record, found, _⟩ := recordAt reaches
    exact ⟨record, found⟩
  · intro id first second toFirst toSecond
    exact List.inj_on_of_nodup_map explores.nodes (explores.mem_of_leads toFirst)
      (explores.mem_of_leads toSecond) (toFirst.trans toSecond.symm)
  · intro id record reaches found
    obtain ⟨other, present, wellFormed⟩ := recordAt reaches
    have same : other = record := Option.some.inj (present.symm.trans found)
    exact same ▸ wellFormed

theorem popped_eq_ncard (explores : walk.Explores arena root done []) :
    walk.popped = (arena.reachable root).ncard := by
  have asImage : some '' arena.reachable root =
      ((done.map (arena.endOf? root)).toFinset : Set (Option NodeId)) := by
    ext target
    simp only [Set.mem_image, List.coe_toFinset, List.mem_map, Set.mem_ofPred_eq]
    constructor
    · rintro ⟨id, ⟨path, leads⟩, rfl⟩
      exact ⟨path, explores.mem_of_leads leads, leads⟩
    · rintro ⟨path, member, rfl⟩
      obtain ⟨id, _, leads, _⟩ := explores.visited path member
      exact ⟨id, ⟨path, leads⟩, leads.symm⟩
  rw [explores.popped, ← Set.ncard_image_of_injective _ (Option.some_injective NodeId), asImage,
    Set.ncard_coe_finset, List.toFinset_card_of_nodup explores.nodes, List.length_map]

private theorem nothing_pending (explores : walk.Explores arena root done todo)
    (empty : walk.pending = []) : todo = [] := by
  have pending := explores.pending
  rw [empty] at pending
  exact List.map_eq_nil_iff.mp pending

/-- Below the root of a tree no visit fails: a node with a mark would have two paths to it. -/
private theorem not_refuses (explores : walk.Explores arena root done todo)
    (tree : arena.IsTree root) (atFront : walk.pending = node :: rest) {error : ShapeError} :
    ¬Refuses arena walk node error := by
  intro refuses
  obtain ⟨path, later, rfl, leads, _⟩ := explores.front atFront
  obtain ⟨record, found⟩ := tree.found node ⟨path, leads⟩
  have unmarked : walk.seen[node.index]? = some false := by
    have within : node.index < walk.seen.size :=
      explores.seenSize ▸ Arena.index_lt_of_node? found
    rw [Array.getElem?_eq_getElem within, Option.some.injEq, Bool.eq_false_iff]
    intro marked
    obtain ⟨other, isDone, toNode⟩ := (explores.seen node).mp
      (by rw [Array.getElem?_eq_getElem within, marked])
    have same := tree.unique node other path toNode leads
    exact explores.not_done (same ▸ isDone)
  exact refuses.not_wellFormed found unmarked (tree.wellFormed node record ⟨path, leads⟩ found)

end Explores

/-- What a walk on the way has visited, and where its pending ids come from. -/
theorem Passes.exists_explores {walk : Walk} {count : Nat}
    (passes : Passes arena root count walk) :
    ∃ done todo, walk.Explores arena root done todo := by
  induction passes with
  | start => exact ⟨[], [[]], start_explores arena root⟩
  | visit _ atFront visited ih =>
      obtain ⟨done, todo, explores⟩ := ih
      obtain ⟨path, later, rfl, leads, laterIs⟩ := explores.front atFront
      obtain ⟨new, explored⟩ := explores.visit leads laterIs visited
      exact ⟨path :: done, new ++ later, explored⟩

end Walk

namespace Arena

variable {arena : Arena} {root : NodeId}

theorem validate_eq_ok_iff_isTree {count : Nat} :
    arena.validate root = .ok count ↔
      arena.IsTree root ∧ count = (arena.reachable root).ncard := by
  obtain ⟨visits, last, passes, stops⟩ := arena.walk_stops root
  obtain ⟨done, todo, explores⟩ := passes.exists_explores
  unfold validate
  generalize arena.walk root = ended at stops
  cases stops with
  | finished empty =>
      have nothing := explores.nothing_pending empty
      subst nothing
      rw [Except.ok.injEq]
      constructor
      · rintro rfl
        exact ⟨explores.isTree, explores.popped_eq_ncard⟩
      · rintro ⟨_, rfl⟩
        exact explores.popped_eq_ncard
  | refused atFront refuses =>
      constructor
      · intro impossible
        cases impossible
      · rintro ⟨tree, _⟩
        exact absurd refuses (explores.not_refuses tree atFront)

/-- A root is accepted exactly when every id below it is that of a well-formed node
which one path only leads to, and the answer is how many these are. -/
theorem validate_accepts_exactly_trees (arena : Arena) (root : NodeId) (count : Nat) :
    arena.validate root = .ok count ↔
      (∀ id ∈ arena.reachable root, ∃ record, arena.node? id = some record) ∧
        (∀ id ∈ arena.reachable root, ∃! path, arena.endOf? root path = some id) ∧
          (∀ id ∈ arena.reachable root, ∀ record, arena.node? id = some record →
            Shape.WellFormed arena record) ∧
            count = (arena.reachable root).ncard := by
  rw [validate_eq_ok_iff_isTree]
  constructor
  · intro ⟨tree, counted⟩
    refine ⟨tree.found, ?_, fun id reached record => tree.wellFormed id record reached, counted⟩
    intro id ⟨path, leads⟩
    exact ⟨path, leads, fun other alsoLeads => tree.unique id other path alsoLeads leads⟩
  · intro ⟨found, oneEach, wellFormed, counted⟩
    refine ⟨{ found, unique := ?_, wellFormed := ?_ }, counted⟩
    · intro id first second toFirst toSecond
      exact (oneEach id ⟨first, toFirst⟩).unique toFirst toSecond
    · intro id record reaches present
      exact wellFormed id reaches record present

end Arena

end JitSnapshot
