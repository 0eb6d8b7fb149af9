import JitSnapshot.Proofs.Arena.Accounts

set_option autoImplicit false

/-!
What an arena gives out: the id of a node or of a record that is put into it,
the range of a list. A run of changes gives out the positions behind the old
content of each list, one after another, so nothing it gives out names an entry
twice, and together it names all new ones. What an id or a range led to when it
was given out it still leads to when the run is over; a node has the record
that was stored for it last.
-/

namespace JitSnapshot

/-- The lists of an arena: the nodes, and those beside them. -/
inductive Space where
  | nodes
  | beside (part : Part)
  deriving DecidableEq

namespace Arena

namespace Receipt

def space : Receipt → Space
  | .node _ => .nodes
  | .body _ _ => .beside .bodies
  | .runtime _ _ => .beside .runtimes
  | .profile _ _ => .beside .profiles
  | .slots _ _ => .beside .slots
  | .addresses _ _ => .beside .addresses
  | .guards _ _ => .beside .guards
  | .typeSpecs _ _ => .beside .typeSpecs

/-- The positions that the id or the range names in its list. -/
def positions : Receipt → List Nat
  | .node id => [id.index]
  | .body id _ => [id.index]
  | .runtime id _ => [id.index]
  | .profile id _ => [id.index]
  | .slots range _ => range.positions
  | .addresses range _ => range.positions
  | .guards range _ => range.positions
  | .typeSpecs range _ => range.positions

/-- Two ids of one kind differ; two ranges of one list have no position in common. -/
def Apart : Receipt → Receipt → Prop
  | .node left, .node right => left ≠ right
  | .body left _, .body right _ => left ≠ right
  | .runtime left _, .runtime right _ => left ≠ right
  | .profile left _, .profile right _ => left ≠ right
  | .slots left _, .slots right _ => left.positions.Disjoint right.positions
  | .addresses left _, .addresses right _ => left.positions.Disjoint right.positions
  | .guards left _, .guards right _ => left.positions.Disjoint right.positions
  | .typeSpecs left _, .typeSpecs right _ => left.positions.Disjoint right.positions
  | _, _ => True

theorem ne_of_disjoint {kind : IdKind} {left right : Id kind}
    (disjoint : List.Disjoint [left.index] [right.index]) : left ≠ right := by
  rintro rfl
  exact disjoint List.mem_cons_self List.mem_cons_self

private theorem apart_of_disjoint {left right : Receipt}
    (disjoint : left.space = right.space → left.positions.Disjoint right.positions) :
    left.Apart right := by
  cases left with
  | node left =>
      cases right with
      | node right => exact ne_of_disjoint (disjoint rfl)
      | _ => trivial
  | body left _ =>
      cases right with
      | body right _ => exact ne_of_disjoint (disjoint rfl)
      | _ => trivial
  | runtime left _ =>
      cases right with
      | runtime right _ => exact ne_of_disjoint (disjoint rfl)
      | _ => trivial
  | profile left _ =>
      cases right with
      | profile right _ => exact ne_of_disjoint (disjoint rfl)
      | _ => trivial
  | slots left _ =>
      cases right with
      | slots right _ => exact disjoint rfl
      | _ => trivial
  | addresses left _ =>
      cases right with
      | addresses right _ => exact disjoint rfl
      | _ => trivial
  | guards left _ =>
      cases right with
      | guards right _ => exact disjoint rfl
      | _ => trivial
  | typeSpecs left _ =>
      cases right with
      | typeSpecs right _ => exact disjoint rfl
      | _ => trivial

end Receipt

/-- The record that a change stores for a node. -/
def Change.recordFor? (id : NodeId) : Change → Option NodeRecord
  | .setNode other record => if other = id then some record else none
  | _ => none

/-- The record stored for a node last, or else the one that new nodes have. -/
def lastRecord (id : NodeId) (changes : List Change) : NodeRecord :=
  (changes.filterMap (Change.recordFor? id)).getLastD {}

def spaceSize (arena : Arena) : Space → Nat
  | .nodes => arena.size
  | .beside part => arena.partSize part

/-- The arena has what was put there; for a node, what the changes have stored for it last. -/
def Honours (arena : Arena) (changes : List Change) : Receipt → Prop
  | .node id => arena.node? id = some (lastRecord id changes)
  | .body id body => arena.body? id = some body
  | .runtime id runtime => arena.runtime? id = some runtime
  | .profile id profile => arena.profile? id = some profile
  | .slots range slots => arena.slots? range = some slots
  | .addresses range addresses => arena.addresses? range = some addresses
  | .guards range guards => arena.guards? range = some guards
  | .typeSpecs range typeSpecs => arena.typeSpecs? range = some typeSpecs

variable {before mid after : Arena} {change : Change} {changes : List Change}
  {given : Option Receipt} {receipt : Receipt} {receipts : List Receipt} {id : NodeId}
  {record : NodeRecord}

/-! ### Positions of new entries -/

/-- The positions in which a list has got new entries. -/
def newEntries (before after : Arena) (space : Space) : List Nat :=
  List.range' (before.spaceSize space) (after.spaceSize space - before.spaceSize space)

private theorem newEntries_of_size {space : Space}
    (same : after.spaceSize space = before.spaceSize space) :
    before.newEntries after space = [] := by
  rw [newEntries, same, Nat.sub_self]
  rfl

/-- The position of a record that has just been put behind the others. -/
private theorem newPosition_pushed {α : Type} {kind : IdKind} {id : Id kind} {entries : Array α}
    {entry : α} (exactly : id.index = entries.size) :
    [id.index] = List.range' entries.size ((entries.push entry).size - entries.size) := by
  rw [exactly, Array.size_push, Nat.add_sub_cancel_left, List.range'_one]

/-- Every list has as many entries as before or more. -/
structure Grows (before after : Arena) : Prop where
  lists : before.ListsGrow after
  size : before.size ≤ after.size

namespace Grows

theorem refl (arena : Arena) : arena.Grows arena :=
  { lists := .refl arena, size := Nat.le_refl _ }

theorem trans (front : before.Grows mid) (back : mid.Grows after) : before.Grows after :=
  { lists := front.lists.trans back.lists, size := Nat.le_trans front.size back.size }

theorem spaceSize_le (grows : before.Grows after) (space : Space) :
    before.spaceSize space ≤ after.spaceSize space := by
  cases space with
  | nodes => exact grows.size
  | beside part => exact grows.lists.partSize_le part

private theorem newEntries_append (front : before.Grows mid) (back : mid.Grows after)
    (space : Space) :
    before.newEntries after space =
      before.newEntries mid space ++ mid.newEntries after space :=
  range'_split (front.spaceSize_le space) (back.spaceSize_le space)

end Grows

/-! ### One change -/

theorem perform_grows (performed : before.perform change = .ok (given, after)) :
    before.Grows after := by
  refine { lists := (perform_keeps performed).1, size := ?_ }
  obtain adds | ⟨_, _, allocated⟩ | ⟨_, _, _, replaced⟩ := perform_cases performed
  · exact Nat.le_of_eq adds.size.symm
  · exact Nat.le.intro (listsGrow_allocNode allocated).2.symm
  · exact Nat.le_of_eq (setNode?_eq_some replaced).2.1.symm

/-- A change gives out the positions of the entries that it puts behind a list, and there is what
it was made with. -/
theorem perform_gives (performed : before.perform change = .ok (some receipt, after)) :
    receipt.positions = before.newEntries after receipt.space ∧ after.Honours [] receipt := by
  cases change with
  | setNode target replacement =>
      cases (perform_setNode_eq_ok_iff.mp performed).2
  | allocNode =>
      obtain ⟨id, allocated, same⟩ := withReceipt_eq_ok_iff.mp performed
      obtain ⟨exactly, rfl⟩ := allocNode_eq_ok_iff.mp allocated
      cases same
      exact ⟨newPosition_pushed exactly, getElem?_push_index exactly⟩
  | pushBody body =>
      obtain ⟨id, pushed, same⟩ := withReceipt_eq_ok_iff.mp performed
      obtain ⟨exactly, rfl⟩ := pushBody_eq_ok_iff.mp pushed
      cases same
      exact ⟨newPosition_pushed exactly, getElem?_push_index exactly⟩
  | pushRuntime runtime =>
      obtain ⟨id, pushed, same⟩ := withReceipt_eq_ok_iff.mp performed
      obtain ⟨exactly, rfl⟩ := pushRuntime_eq_ok_iff.mp pushed
      cases same
      exact ⟨newPosition_pushed exactly, getElem?_push_index exactly⟩
  | pushProfile profile =>
      obtain ⟨id, pushed, same⟩ := withReceipt_eq_ok_iff.mp performed
      obtain ⟨exactly, rfl⟩ := pushProfile_eq_ok_iff.mp pushed
      cases same
      exact ⟨newPosition_pushed exactly, getElem?_push_index exactly⟩
  | pushSlots slots =>
      obtain ⟨range, pushed, same⟩ := withReceipt_eq_ok_iff.mp performed
      obtain ⟨behind, rfl⟩ := pushSlots_eq_ok_iff.mp pushed
      cases same
      exact ⟨ListRange.positions_behind behind, (ListRange.holds_behind behind).reads⟩
  | pushAddresses addresses =>
      obtain ⟨range, pushed, same⟩ := withReceipt_eq_ok_iff.mp performed
      obtain ⟨behind, rfl⟩ := pushAddresses_eq_ok_iff.mp pushed
      cases same
      exact ⟨ListRange.positions_behind behind, (ListRange.holds_behind behind).reads⟩
  | pushGuards guards =>
      obtain ⟨range, pushed, same⟩ := withReceipt_eq_ok_iff.mp performed
      obtain ⟨behind, rfl⟩ := pushGuards_eq_ok_iff.mp pushed
      cases same
      exact ⟨ListRange.positions_behind behind, (ListRange.holds_behind behind).reads⟩
  | pushTypeSpecs typeSpecs =>
      obtain ⟨range, pushed, same⟩ := withReceipt_eq_ok_iff.mp performed
      obtain ⟨behind, rfl⟩ := pushTypeSpecs_eq_ok_iff.mp pushed
      cases same
      exact ⟨ListRange.positions_behind behind, (ListRange.holds_behind behind).reads⟩

/-- A list in which a change gives out nothing is as long as before. -/
private theorem newEntries_elsewhere (performed : before.perform change = .ok (given, after))
    {space : Space} (elsewhere : ∀ receipt, given = some receipt → receipt.space ≠ space) :
    before.newEntries after space = [] := by
  refine newEntries_of_size ?_
  cases change with
  | setNode target replacement =>
      have replaced := (perform_setNode_eq_ok_iff.mp performed).1
      cases space with
      | nodes => exact (setNode?_eq_some replaced).2.1
      | beside part => exact (setNode?_sides replaced).2.2 part
  | _ =>
      obtain ⟨_, pushed, isReceipt⟩ := withReceipt_eq_ok_iff.mp performed
      obtain ⟨_, rfl⟩ := bind_return_eq_ok.mp pushed
      have differs := elsewhere _ isReceipt
      cases space with
      | nodes => first | rfl | exact absurd rfl differs
      | beside part => cases part <;> first | rfl | exact absurd rfl differs

private theorem node?_perform (performed : before.perform change = .ok (given, after))
    (found : before.node? id = some record) :
    after.node? id = some ((change.recordFor? id).getD record) := by
  by_cases stored : ∃ replacement, change = .setNode id replacement
  · obtain ⟨replacement, rfl⟩ := stored
    obtain ⟨_, _, nodes⟩ := setNode?_eq_some (perform_setNode_eq_ok_iff.mp performed).1
    rw [Change.recordFor?, if_pos rfl, Option.getD_some]
    exact (nodes id.index).trans (if_pos rfl)
  · have kept := (perform_keeps performed).2 id record (not_exists.mp stored) found
    have nothing : change.recordFor? id = none := by
      cases change with
      | setNode other replacement =>
          refine if_neg ?_
          rintro rfl
          exact stored ⟨replacement, rfl⟩
      | _ => rfl
    rw [kept, nothing, Option.getD_none]

/-- A node can only be replaced when it is there. -/
private theorem index_lt_of_recordFor? (performed : before.perform change = .ok (given, after))
    (stored : change.recordFor? id = some record) : id.index < before.size := by
  cases change with
  | setNode other replacement =>
      obtain ⟨rfl, _⟩ := Option.ite_none_right_eq_some.mp stored
      have replaced := (perform_setNode_eq_ok_iff.mp performed).1
      rw [setNode?] at replaced
      split at replaced
      · assumption
      · cases replaced
  | _ => cases stored

/-! ### Runs -/

theorem performAll_cons_eq_ok {rest : List Change} :
    before.performAll (change :: rest) = .ok (receipts, after) ↔
      ∃ given mid later, before.perform change = .ok (given, mid) ∧
        mid.performAll rest = .ok (later, after) ∧ receipts = given.toList ++ later := by
  rw [performAll, bind_eq_ok]
  constructor
  · rintro ⟨⟨given, mid⟩, first, onward⟩
    obtain ⟨⟨later, last⟩, remaining, returned⟩ := bind_eq_ok.mp onward
    cases returned
    exact ⟨given, mid, later, first, remaining, rfl⟩
  · rintro ⟨given, mid, later, first, remaining, rfl⟩
    exact ⟨(given, mid), first, bind_eq_ok.mpr ⟨(later, after), remaining, rfl⟩⟩

theorem performAll_grows (performed : before.performAll changes = .ok (receipts, after)) :
    before.Grows after := by
  induction changes generalizing before receipts with
  | nil =>
      cases performed
      exact .refl _
  | cons change rest ih =>
      obtain ⟨_, mid, _, first, remaining, _⟩ := performAll_cons_eq_ok.mp performed
      exact (perform_grows first).trans (ih remaining)

/-- A node has the last record stored for it, or still the one it had. -/
private theorem node?_performAll (performed : before.performAll changes = .ok (receipts, after))
    (found : before.node? id = some record) :
    after.node? id = some ((changes.filterMap (Change.recordFor? id)).getLastD record) := by
  induction changes generalizing before record receipts with
  | nil =>
      cases performed
      exact found
  | cons change rest ih =>
      obtain ⟨_, mid, _, first, remaining, _⟩ := performAll_cons_eq_ok.mp performed
      rw [ih remaining (node?_perform first found), List.filterMap_cons]
      cases change.recordFor? id with
      | none => rfl
      | some replacement => rw [Option.getD_some, List.getLastD_cons]

/-- What an arena has for a receipt it still has after further changes, unless they store
another record for the node. -/
theorem Honours.performAll (honours : before.Honours [] receipt)
    (performed : before.performAll changes = .ok (receipts, after)) :
    after.Honours changes receipt := by
  have lists := (performAll_grows performed).lists
  cases receipt with
  | node id => exact node?_performAll performed honours
  | body id body => exact lists.body? honours
  | runtime id runtime => exact lists.runtime? honours
  | profile id profile => exact lists.profile? honours
  | slots range slots => exact lists.slots? honours
  | addresses range addresses => exact lists.addresses? honours
  | guards range guards => exact lists.guards? honours
  | typeSpecs range typeSpecs => exact lists.typeSpecs? honours

/-- A node that is new behind a run has not been replaced in it. -/
private theorem recordsFor_new (performed : before.performAll changes = .ok (receipts, after))
    (new : after.size ≤ id.index) : changes.filterMap (Change.recordFor? id) = [] := by
  induction changes generalizing before receipts with
  | nil => rfl
  | cons change rest ih =>
      obtain ⟨_, mid, _, first, remaining, _⟩ := performAll_cons_eq_ok.mp performed
      have size := (performAll_grows performed).size
      rw [List.filterMap_cons, ih remaining]
      cases stored : change.recordFor? id with
      | none => rfl
      | some record =>
          have present := index_lt_of_recordFor? first stored
          omega

/-! ### Receipts of a run -/

/-- The receipts that lead into a list have the positions of its new entries, in order. -/
private theorem positions_receipts (performed : before.performAll changes = .ok (receipts, after))
    (space : Space) :
    (receipts.filter fun receipt => receipt.space = space).flatMap Receipt.positions =
      before.newEntries after space := by
  induction changes generalizing before receipts with
  | nil =>
      cases performed
      exact (newEntries_of_size rfl).symm
  | cons change rest ih =>
      obtain ⟨given, mid, later, first, remaining, rfl⟩ := performAll_cons_eq_ok.mp performed
      rw [List.filter_append, List.flatMap_append, ih remaining,
        (perform_grows first).newEntries_append (performAll_grows remaining)]
      refine congrArg (· ++ mid.newEntries after space) ?_
      cases given with
      | none => exact (newEntries_elsewhere first nofun).symm
      | some receipt =>
          by_cases same : receipt.space = space
          · subst same
            have gives := (perform_gives first).1
            simp [gives]
          · have nothing : before.newEntries mid space = [] := by
              refine newEntries_elsewhere first fun other also => ?_
              exact Option.some.inj also ▸ same
            simp [same, nothing]

/-- What a run has given out it has given out for one of its changes. -/
private theorem exists_given (performed : before.performAll changes = .ok (receipts, after))
    (member : receipt ∈ receipts) :
    ∃ front change back earlier later mid next, changes = front ++ change :: back ∧
      before.performAll front = .ok (earlier, mid) ∧
        mid.perform change = .ok (some receipt, next) ∧
          next.performAll back = .ok (later, after) := by
  induction changes generalizing before receipts with
  | nil =>
      cases performed
      cases member
  | cons first rest ih =>
      obtain ⟨given, next, later, step, remaining, rfl⟩ := performAll_cons_eq_ok.mp performed
      rcases List.mem_append.mp member with atFirst | inRest
      · cases Option.mem_toList.mp atFirst
        exact ⟨[], first, rest, [], later, before, next, rfl, rfl, step, remaining⟩
      · obtain ⟨front, change, back, earlier, others, mid, last, rfl, toMid, stepThere, onward⟩ :=
          ih remaining inRest
        refine ⟨first :: front, change, back, given.toList ++ earlier, others, mid, last, rfl, ?_,
          stepThere, onward⟩
        exact performAll_cons_eq_ok.mpr ⟨given, next, earlier, step, toMid, rfl⟩

theorem honours_receipts (performed : before.performAll changes = .ok (receipts, after))
    (member : receipt ∈ receipts) : after.Honours changes receipt := by
  obtain ⟨front, change, back, earlier, later, mid, next, rfl, toMid, step, onward⟩ :=
    exists_given performed member
  have honours := (perform_gives step).2.performAll onward
  cases change with
  | setNode target replacement => cases (perform_setNode_eq_ok_iff.mp step).2
  | allocNode =>
      obtain ⟨id, allocated, same⟩ := withReceipt_eq_ok_iff.mp step
      cases same
      -- no change in front of this one can have stored a record for the new node
      have position : id.index = mid.size := (allocNode_eq_ok_iff.mp allocated).1
      have unset := recordsFor_new toMid (Nat.le_of_eq position.symm)
      rw [Honours, lastRecord, List.filterMap_append, unset, List.nil_append]
      exact honours
  | _ =>
      obtain ⟨_, _, same⟩ := withReceipt_eq_ok_iff.mp step
      cases same
      exact honours

/-- The positions of a list are given out one after another, so none is given out twice. -/
theorem receipts_apart (performed : before.performAll changes = .ok (receipts, after)) :
    receipts.Pairwise Receipt.Apart := by
  rw [List.pairwise_iff_getElem]
  intro first second firstWithin secondWithin earlier
  refine Receipt.apart_of_disjoint fun same => ?_
  have once : ((receipts.filter fun receipt =>
      receipt.space = receipts[first].space).flatMap Receipt.positions).Nodup := by
    rw [positions_receipts performed]
    exact List.nodup_range'
  have disjoint := List.pairwise_filter.mp (List.nodup_flatMap.mp once).2
  exact List.pairwise_iff_getElem.mp disjoint first second firstWithin secondWithin earlier
    (decide_eq_true rfl) (decide_eq_true same.symm)

/-- At the end of a run all that it gave out leads to what it was given out for, a node to the
record stored for it last. Ids of one kind differ, ranges of one list do not overlap, and together
they name exactly the entries of the list behind its old content, which is still there. -/
theorem receipts_stay_good (performed : before.performAll changes = .ok (receipts, after)) :
    (∀ receipt ∈ receipts, after.Honours changes receipt) ∧
      receipts.Pairwise Receipt.Apart ∧
      (∀ space position,
        before.spaceSize space ≤ position ∧ position < after.spaceSize space ↔
          ∃ receipt ∈ receipts, receipt.space = space ∧ position ∈ receipt.positions) ∧
      before.ListsGrow after := by
  have grows := performAll_grows performed
  refine ⟨fun _ => honours_receipts performed, receipts_apart performed, ?_, grows.lists⟩
  intro space position
  have size := grows.spaceSize_le space
  have inNew : before.spaceSize space ≤ position ∧ position < after.spaceSize space ↔
      position ∈ before.newEntries after space := by
    rw [newEntries, List.mem_range'_1]
    omega
  rw [inNew, ← positions_receipts performed space, List.mem_flatMap]
  simp only [List.mem_filter, decide_eq_true_eq, and_assoc]

/-- A node and a list of slots that are there before the run. -/
def occupiedBefore : Arena :=
  { nodes := #[{}], slots := #[none, some ⟨0⟩] }

/-- Lists with an empty one between them, and a node whose record is stored twice. -/
def interleaved : List Change :=
  [.pushSlots [some ⟨0⟩], .allocNode, .setNode ⟨1⟩ { next := some ⟨0⟩ }, .pushSlots [],
    .setNode ⟨1⟩ { inlinees := ⟨2, 1⟩ }, .pushSlots [none, some ⟨1⟩], .allocNode]

theorem receipts_stay_good_interleaved :
    ∃ receipts after, occupiedBefore.performAll interleaved = .ok (receipts, after) ∧
      after.node? ⟨1⟩ = some { inlinees := ⟨2, 1⟩ } ∧ after.node? ⟨2⟩ = some {} ∧
      after.slots? ⟨3, 2⟩ = some [none, some ⟨1⟩] ∧
      ∃ receipt ∈ receipts, receipt.space = .beside .slots ∧ 2 ∈ receipt.positions := by
  have performed : occupiedBefore.performAll interleaved =
      .ok
        ([.slots ⟨2, 1⟩ [some ⟨0⟩], .node ⟨1⟩, .slots .empty [],
            .slots ⟨3, 2⟩ [none, some ⟨1⟩], .node ⟨2⟩],
          { nodes := #[{}, { inlinees := ⟨2, 1⟩ }, {}]
            slots := #[none, some ⟨0⟩, some ⟨0⟩, none, some ⟨1⟩] }) := by rfl
  obtain ⟨honours, _, covers, _⟩ := receipts_stay_good performed
  refine ⟨_, _, performed, honours (.node ⟨1⟩) ?_, honours (.node ⟨2⟩) ?_,
    honours (.slots ⟨3, 2⟩ [none, some ⟨1⟩]) ?_, (covers (.beside .slots) 2).mp ?_⟩
  · exact List.mem_of_getElem? (i := 1) rfl
  · exact List.mem_of_getElem? (i := 4) rfl
  · exact List.mem_of_getElem? (i := 3) rfl
  · decide

end Arena

end JitSnapshot
