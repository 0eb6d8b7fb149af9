import JitSnapshot.Proofs.Tree.Walk

set_option autoImplicit false

/-!
What is below a valid root while the arena around it changes. New nodes and
entries go behind the old ones, and a node outside the tree may be replaced by
anything, also by one that leads into the tree. None of this changes where a
path from the root ends, so the tree stays what it was, and reads as it did.
-/

namespace JitSnapshot

namespace Shape

variable {before after : Arena} {record : NodeRecord} {body : BodyRecord}

theorem RangesFit.grow (fit : RangesFit before record) (lists : before.ListsGrow after) :
    RangesFit after record :=
  { inlinees := Nat.le_trans fit.inlinees (Arena.size_le_of_grown lists.slots)
    fieldInlinees := Nat.le_trans fit.fieldInlinees (Arena.size_le_of_grown lists.slots)
    sharedGuards := Nat.le_trans fit.sharedGuards (Arena.size_le_of_grown lists.guards)
    typeSpecs := Nat.le_trans fit.typeSpecs (Arena.size_le_of_grown lists.typeSpecs)
    globalTypeSpecs := Nat.le_trans fit.globalTypeSpecs (Arena.size_le_of_grown lists.typeSpecs) }

theorem RuntimeFits.grow {runtime : RuntimeRecord} (fits : RuntimeFits before record body runtime)
    (lists : before.ListsGrow after) : RuntimeFits after record body runtime := by
  obtain ⟨id, named, found⟩ := fits.found
  exact
    { found := ⟨id, named, lists.runtime? found⟩
      clonedCaches := Nat.le_trans fits.clonedCaches (Arena.size_le_of_grown lists.addresses)
      cloneCount := fits.cloneCount }

theorem BodyFits.grow (fits : BodyFits before record body) (lists : before.ListsGrow after) :
    BodyFits after record body := by
  obtain ⟨runtime, runtimeFits⟩ := fits.runtime
  refine { fits with profile := ?_, runtime := ⟨runtime, runtimeFits.grow lists⟩ }
  intro id named
  obtain ⟨profile, found⟩ := fits.profile id named
  exact ⟨profile, lists.profile? found⟩

theorem WellFormed.grow (wellFormed : WellFormed before record) (lists : before.ListsGrow after) :
    WellFormed after record := by
  refine { ranges := wellFormed.ranges.grow lists, bare := wellFormed.bare, body := ?_ }
  intro id named
  obtain ⟨body, found, fits⟩ := wellFormed.body id named
  exact ⟨body, lists.body? found, fits.grow lists⟩

end Shape

/-! ### What is read of a node -/

/-- A node with all that it names: its body, profile and runtime record, and its lists. -/
structure NodeContent where
  record : NodeRecord
  body : Option BodyRecord
  profile : Option ProfileRecord
  runtime : Option RuntimeRecord
  inlinees : List Slot
  fieldInlinees : List Slot
  sharedGuards : List PropertyId
  typeSpecs : List (Option TypeSpecRecord)
  globalTypeSpecs : List (Option TypeSpecRecord)
  clonedCaches : List Address

namespace Arena

/-- The arena has the node, and what it names is there and as told. A node without a body has
no profile, one without a runtime record no cloned caches. -/
structure Reads (arena : Arena) (id : NodeId) (content : NodeContent) : Prop where
  record : arena.node? id = some content.record
  body : content.record.body.map arena.body? = content.body.map some
  profile : (content.body.bind (·.profile)).map arena.profile? = content.profile.map some
  runtime : content.record.runtime.map arena.runtime? = content.runtime.map some
  inlinees : arena.slots? content.record.inlinees = some content.inlinees
  fieldInlinees : arena.slots? content.record.fieldInlinees = some content.fieldInlinees
  sharedGuards : arena.guards? content.record.sharedGuards = some content.sharedGuards
  typeSpecs : arena.typeSpecs? content.record.typeSpecs = some content.typeSpecs
  globalTypeSpecs :
    arena.typeSpecs? content.record.globalTypeSpecs = some content.globalTypeSpecs
  clonedCaches :
    arena.addresses? (content.runtime.getD {}).clonedCaches = some content.clonedCaches

variable {root id : NodeId} {arena before mid after : Arena} {record : NodeRecord}

theorem Reads.grow {content : NodeContent} (reads : before.Reads id content)
    (lists : before.ListsGrow after) (kept : after.node? id = some content.record) :
    after.Reads id content :=
  { record := kept
    body := named_grow lists.body? reads.body
    profile := named_grow lists.profile? reads.profile
    runtime := named_grow lists.runtime? reads.runtime
    inlinees := lists.slots? reads.inlinees
    fieldInlinees := lists.slots? reads.fieldInlinees
    sharedGuards := lists.guards? reads.sharedGuards
    typeSpecs := lists.typeSpecs? reads.typeSpecs
    globalTypeSpecs := lists.typeSpecs? reads.globalTypeSpecs
    clonedCaches := lists.addresses? reads.clonedCaches }

/-- The records that a well-formed node names, itself or through its body, are all there. -/
private theorem exists_named (wellFormed : Shape.WellFormed arena record) :
    ∃ (body : Option BodyRecord) (profile : Option ProfileRecord)
      (runtime : Option RuntimeRecord) (clonedCaches : List Address),
      record.body.map arena.body? = body.map some ∧
        (body.bind (·.profile)).map arena.profile? = profile.map some ∧
          record.runtime.map arena.runtime? = runtime.map some ∧
            arena.addresses? (runtime.getD {}).clonedCaches = some clonedCaches := by
  cases named : record.body with
  | none =>
      rw [(wellFormed.bare named).runtime]
      exact ⟨none, none, none, [], rfl, rfl, rfl, rfl⟩
  | some bodyId =>
      obtain ⟨body, foundBody, fits⟩ := wellFormed.body bodyId named
      obtain ⟨runtime, runtimeFits⟩ := fits.runtime
      obtain ⟨runtimeId, namedRuntime, foundRuntime⟩ := runtimeFits.found
      obtain ⟨clonedCaches, atClones⟩ := ListRange.exists_holds runtimeFits.clonedCaches
      have exists_profile : ∃ profile : Option ProfileRecord,
          body.profile.map arena.profile? = profile.map some := by
        cases namedProfile : body.profile with
        | none => exact ⟨none, rfl⟩
        | some profileId =>
            obtain ⟨profile, foundProfile⟩ := fits.profile profileId namedProfile
            exact ⟨some profile, congrArg some foundProfile⟩
      obtain ⟨profile, foundProfile⟩ := exists_profile
      rw [namedRuntime]
      exact ⟨some body, profile, some runtime, clonedCaches, congrArg some foundBody,
        foundProfile, congrArg some foundRuntime, atClones.reads⟩

private theorem exists_reads (found : arena.node? id = some record)
    (wellFormed : Shape.WellFormed arena record) :
    ∃ content, content.record = record ∧ arena.Reads id content := by
  have fit := wellFormed.ranges
  obtain ⟨body, profile, runtime, clonedCaches, atBody, atProfile, atRuntime, atClones⟩ :=
    exists_named wellFormed
  obtain ⟨inlinees, atInlinees⟩ := ListRange.exists_holds fit.inlinees
  obtain ⟨fieldInlinees, atFieldInlinees⟩ := ListRange.exists_holds fit.fieldInlinees
  obtain ⟨sharedGuards, atSharedGuards⟩ := ListRange.exists_holds fit.sharedGuards
  obtain ⟨typeSpecs, atTypeSpecs⟩ := ListRange.exists_holds fit.typeSpecs
  obtain ⟨globalTypeSpecs, atGlobalTypeSpecs⟩ := ListRange.exists_holds fit.globalTypeSpecs
  refine ⟨{ record, body, profile, runtime, inlinees, fieldInlinees, sharedGuards, typeSpecs,
            globalTypeSpecs, clonedCaches }, rfl, ?_⟩
  exact
    { record := found
      body := atBody
      profile := atProfile
      runtime := atRuntime
      inlinees := atInlinees.reads
      fieldInlinees := atFieldInlinees.reads
      sharedGuards := atSharedGuards.reads
      typeSpecs := atTypeSpecs.reads
      globalTypeSpecs := atGlobalTypeSpecs.reads
      clonedCaches := atClones }

/-! ### Changes around a tree -/

/-- What is below the root is still there, and so is all it may name. -/
structure Untouched (root : NodeId) (before after : Arena) : Prop where
  lists : before.ListsGrow after
  nodes : ∀ id ∈ before.reachable root, ∀ record,
    before.node? id = some record → after.node? id = some record

/-- A node that is replaced is one of the arena's, and not below the root. -/
def Change.Spares (root : NodeId) (arena : Arena) : Change → Prop
  | .setNode id _ => id.index < arena.size ∧ id ∉ arena.reachable root
  | _ => True

/-- Each of the changes spares what is below the root in the arena it is made in. -/
def SparesAll (root : NodeId) (arena : Arena) : List Change → Prop
  | [] => True
  | change :: rest => change.Spares root arena ∧
      ∀ given next, arena.perform change = .ok (given, next) → SparesAll root next rest

/-- A node that is spared around is there to be replaced. -/
theorem Change.Spares.perform_ne_missing {change : Change} (spares : change.Spares root arena)
    (missing : NodeId) : arena.perform change ≠ .error (.missingNode missing) := by
  cases change with
  | setNode id record =>
      have within : id.index < arena.nodes.size := spares.1
      rw [perform, setNode?, dif_pos within]
      intro impossible
      cases impossible
  | _ => exact withReceipt_ne_missing

theorem Change.Spares.untouched {change : Change} (spares : change.Spares root arena) :
    (∃ cause, arena.perform change = .error (.overflow cause)) ∨
      ∃ given after, arena.perform change = .ok (given, after) ∧ Untouched root arena after := by
  cases outcome : arena.perform change with
  | error fault =>
      cases fault with
      | overflow cause => exact Or.inl ⟨cause, rfl⟩
      | missingNode missing =>
          exact absurd outcome (spares.perform_ne_missing missing)
  | ok result =>
      obtain ⟨given, after⟩ := result
      obtain ⟨lists, nodes⟩ := perform_keeps outcome
      refine Or.inr ⟨given, after, rfl, { lists, nodes := ?_ }⟩
      intro id reached record found
      refine nodes id record ?_ found
      intro other same
      subst same
      exact spares.2 reached

namespace Untouched

theorem refl (root : NodeId) (arena : Arena) : Untouched root arena arena :=
  { lists := .refl arena, nodes := fun _ _ _ found => found }

theorem trans (front : Untouched root before mid) (back : Untouched root mid after)
    (same : mid.reachable root = before.reachable root) : Untouched root before after :=
  { lists := front.lists.trans back.lists
    nodes := fun id reached record found =>
      back.nodes id (same ▸ reached) record (front.nodes id reached record found) }

variable (untouched : Untouched root before after) (tree : before.IsTree root)
include untouched tree

/-- Every path ends where it ended. All nodes on the way are below the root, so they still
lead to the same ids. -/
theorem endOf?_eq (path : Path) : after.endOf? root path = before.endOf? root path := by
  induction path using List.reverseRecOn with
  | nil => rfl
  | append_singleton front step ih =>
      rw [endOf?_snoc, endOf?_snoc, ih]
      cases leads : before.endOf? root front with
      | none => rfl
      | some id =>
          obtain ⟨record, found⟩ := tree.found id ⟨front, leads⟩
          have fit := (tree.wellFormed id record ⟨front, leads⟩ found).ranges
          have kept := untouched.nodes id ⟨front, leads⟩ record found
          rw [Option.bind_some, Option.bind_some, child?_of_node? found, child?_of_node? kept,
            branches_grow fit untouched.lists]

theorem reachable_eq : after.reachable root = before.reachable root := by
  ext id
  simp only [reachable, Reaches, untouched.endOf?_eq tree]

theorem isTree : after.IsTree root := by
  have earlier {id : NodeId} (reaches : after.Reaches root id) : before.Reaches root id := by
    obtain ⟨path, leads⟩ := reaches
    exact ⟨path, (untouched.endOf?_eq tree path).symm.trans leads⟩
  refine { found := ?_, unique := ?_, wellFormed := ?_ }
  · intro id reaches
    obtain ⟨record, found⟩ := tree.found id (earlier reaches)
    exact ⟨record, untouched.nodes id (earlier reaches) record found⟩
  · intro id first second toFirst toSecond
    rw [untouched.endOf?_eq tree] at toFirst toSecond
    exact tree.unique id first second toFirst toSecond
  · intro id record reaches found
    obtain ⟨other, present⟩ := tree.found id (earlier reaches)
    have kept := untouched.nodes id (earlier reaches) other present
    have same : other = record := Option.some.inj (kept.symm.trans found)
    subst same
    exact (tree.wellFormed id other (earlier reaches) present).grow untouched.lists

theorem reads (reached : id ∈ before.reachable root) :
    ∃ content, before.Reads id content ∧ after.Reads id content := by
  obtain ⟨record, found⟩ := tree.found id reached
  obtain ⟨content, same, reads⟩ := exists_reads found (tree.wellFormed id record reached found)
  subst same
  exact ⟨content, reads, reads.grow untouched.lists (untouched.nodes id reached _ found)⟩

end Untouched

/-- Changes that spare a tree leave it untouched, and can all be made if there is room: after
each one the root reaches what it reached before, so the next one spares the same nodes. -/
theorem SparesAll.untouched {changes : List Change} (spares : SparesAll root arena changes)
    (tree : arena.IsTree root) :
    (∃ cause, arena.performAll changes = .error (.overflow cause)) ∨
      ∃ receipts after, arena.performAll changes = .ok (receipts, after) ∧
        Untouched root arena after := by
  induction changes generalizing arena with
  | nil => exact Or.inr ⟨[], arena, rfl, .refl root arena⟩
  | cons change rest ih =>
      obtain ⟨sparesFirst, sparesRest⟩ := spares
      rw [performAll]
      rcases sparesFirst.untouched with ⟨cause, overflowed⟩ | ⟨given, next, performed, first⟩
      · exact Or.inl ⟨cause, by rw [overflowed, error_bind]⟩
      simp only [performed, ok_bind]
      rcases ih (sparesRest given next performed) (first.isTree tree) with
        ⟨cause, overflowed⟩ | ⟨receipts, after, performedRest, later⟩
      · exact Or.inl ⟨cause, by rw [overflowed, error_bind]⟩
      · refine Or.inr ⟨given.toList ++ receipts, after, ?_, ?_⟩
        · rw [performedRest]
          rfl
        · exact first.trans later (first.reachable_eq tree)

/-- A valid root stays valid, with the same count, whatever is added to the arena and whichever
nodes outside its tree are replaced. It reaches the same nodes, and each of them still reads the
same, with all that it names. Only for want of room can such changes fail. -/
theorem valid_while_growing {count : Nat} {changes : List Change}
    (valid : arena.validate root = .ok count) (spares : SparesAll root arena changes) :
    (∃ cause, arena.performAll changes = .error (.overflow cause)) ∨
      ∃ receipts after, arena.performAll changes = .ok (receipts, after) ∧
        after.validate root = .ok count ∧ after.reachable root = arena.reachable root ∧
          ∀ id ∈ arena.reachable root, ∃ content,
            arena.Reads id content ∧ after.Reads id content := by
  obtain ⟨tree, counted⟩ := validate_eq_ok_iff_isTree.mp valid
  refine (spares.untouched tree).imp_right ?_
  rintro ⟨receipts, after, performed, untouched⟩
  have same := untouched.reachable_eq tree
  refine ⟨receipts, after, performed, ?_, same, fun id reached => untouched.reads tree reached⟩
  exact validate_eq_ok_iff_isTree.mpr ⟨untouched.isTree tree, by rw [same, counted]⟩

/-- A root with one node below it, and a node beside this tree. -/
def besideTree : Arena :=
  { nodes := #[{ body := some ⟨0⟩, runtime := some ⟨0⟩, inlinees := ⟨0, 1⟩ }, {}, {}]
    bodies := #[{ callSiteCount := 1 }]
    runtimes := #[{}]
    slots := #[some ⟨1⟩] }

/-- The node beside the tree comes to lead into it, and so does a new one. -/
def intoTree : List Change :=
  [.setNode ⟨2⟩ { next := some ⟨1⟩ }, .allocNode, .pushSlots [some ⟨0⟩],
    .setNode ⟨3⟩ { inlinees := ⟨1, 1⟩ }]

theorem valid_while_growing_intoTree :
    besideTree.validate ⟨0⟩ = .ok 2 ∧ SparesAll ⟨0⟩ besideTree intoTree ∧
      ∃ receipts after, besideTree.performAll intoTree = .ok (receipts, after) ∧
        after.validate ⟨0⟩ = .ok 2 ∧
          ∃ content, besideTree.Reads ⟨1⟩ content ∧ after.Reads ⟨1⟩ content := by
  have valid : besideTree.validate ⟨0⟩ = .ok 2 := by decide +kernel
  have spares : SparesAll ⟨0⟩ besideTree intoTree := by
    refine ⟨⟨by decide, ?_⟩, ?_⟩
    · intro reached
      exact absurd (mem_of_closed [⟨0⟩, ⟨1⟩] (by decide) (by decide) reached) (by decide)
    · intro _ first performed
      cases performed
      refine ⟨trivial, ?_⟩
      intro _ second performed
      cases performed
      refine ⟨trivial, ?_⟩
      intro _ third performed
      cases performed
      refine ⟨⟨by decide, ?_⟩, fun _ _ _ => trivial⟩
      intro reached
      exact absurd (mem_of_closed [⟨0⟩, ⟨1⟩] (by decide) (by decide) reached) (by decide)
  have fits : ∃ result, besideTree.performAll intoTree = .ok result := ⟨_, rfl⟩
  rcases valid_while_growing valid spares with ⟨cause, overflowed⟩ | grown
  · rw [overflowed] at fits
    obtain ⟨_, impossible⟩ := fits
    cases impossible
  · obtain ⟨receipts, after, performed, still, _, reads⟩ := grown
    exact ⟨valid, spares, receipts, after, performed, still, reads ⟨1⟩ ⟨[.inlinee 0], rfl⟩⟩

end Arena

end JitSnapshot
