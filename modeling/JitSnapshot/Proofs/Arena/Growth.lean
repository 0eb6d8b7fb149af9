import JitSnapshot.Arena
import JitSnapshot.Proofs.Arena.ListRange

set_option autoImplicit false

/-!
How an arena changes while more is put into it. The lists beside the nodes get
entries at their ends only, so what an id or a range names in them stays. Of
the nodes, those at some positions stay as they are.
-/

namespace JitSnapshot.Arena

/-- The lists beside the nodes have at most got more entries at their ends. -/
structure ListsGrow (before after : Arena) : Prop where
  bodies : before.bodies.toList <+: after.bodies.toList
  runtimes : before.runtimes.toList <+: after.runtimes.toList
  profiles : before.profiles.toList <+: after.profiles.toList
  slots : before.slots.toList <+: after.slots.toList
  addresses : before.addresses.toList <+: after.addresses.toList
  guards : before.guards.toList <+: after.guards.toList
  typeSpecs : before.typeSpecs.toList <+: after.typeSpecs.toList

/-- The nodes at positions from `first` up to `last` are as they were, and so is
all that other lists had. -/
structure Keeps (before after : Arena) (first last : Nat) : Prop where
  lists : before.ListsGrow after
  nodes : ∀ position, first ≤ position → position < last →
    after.nodes[position]? = before.nodes[position]?

variable {before mid after : Arena} {first last : Nat}

theorem size_le_of_grown {α : Type} {entries more : Array α}
    (grown : entries.toList <+: more.toList) : entries.size ≤ more.size := by
  have lengths := grown.length_le
  rwa [Array.length_toList, Array.length_toList] at lengths

theorem getElem?_of_grown {α : Type} {entries more : Array α} {position : Nat} {entry : α}
    (grown : entries.toList <+: more.toList) (found : entries[position]? = some entry) :
    more[position]? = some entry := by
  obtain ⟨tail, longer⟩ := grown
  rw [← Array.getElem?_toList] at found
  obtain ⟨within, _⟩ := List.getElem?_eq_some_iff.mp found
  rw [← Array.getElem?_toList, ← longer, List.getElem?_append_left within, found]

/-- What a record names, if it names anything, is still there under the same id. -/
theorem named_grow {kind : IdKind} {α : Type} {named : Option (Id kind)} {content : Option α}
    {read? more? : Id kind → Option α}
    (grown : ∀ {id value}, read? id = some value → more? id = some value)
    (found : named.map read? = content.map some) : named.map more? = content.map some := by
  cases named with
  | none => exact found
  | some id =>
      cases content with
      | none => cases found
      | some value =>
          rw [Option.map_some, Option.map_some, Option.some.injEq] at found
          rw [Option.map_some, Option.map_some, grown found]

namespace ListsGrow

theorem refl (arena : Arena) : arena.ListsGrow arena :=
  { bodies := List.prefix_refl _
    runtimes := List.prefix_refl _
    profiles := List.prefix_refl _
    slots := List.prefix_refl _
    addresses := List.prefix_refl _
    guards := List.prefix_refl _
    typeSpecs := List.prefix_refl _ }

theorem trans (front : before.ListsGrow mid) (back : mid.ListsGrow after) :
    before.ListsGrow after :=
  { bodies := front.bodies.trans back.bodies
    runtimes := front.runtimes.trans back.runtimes
    profiles := front.profiles.trans back.profiles
    slots := front.slots.trans back.slots
    addresses := front.addresses.trans back.addresses
    guards := front.guards.trans back.guards
    typeSpecs := front.typeSpecs.trans back.typeSpecs }

variable (lists : before.ListsGrow after)
include lists

theorem body? {id : BodyId} {body : BodyRecord} (found : before.body? id = some body) :
    after.body? id = some body :=
  getElem?_of_grown lists.bodies found

theorem runtime? {id : RuntimeId} {runtime : RuntimeRecord}
    (found : before.runtime? id = some runtime) : after.runtime? id = some runtime :=
  getElem?_of_grown lists.runtimes found

theorem profile? {id : ProfileId} {profile : ProfileRecord}
    (found : before.profile? id = some profile) : after.profile? id = some profile :=
  getElem?_of_grown lists.profiles found

theorem slots? {range : SlotRange} {slots : List Slot}
    (reads : before.slots? range = some slots) : after.slots? range = some slots :=
  ListRange.read?_grow lists.slots reads

theorem addresses? {range : AddressRange} {addresses : List Address}
    (reads : before.addresses? range = some addresses) :
    after.addresses? range = some addresses :=
  ListRange.read?_grow lists.addresses reads

theorem guards? {range : GuardRange} {guards : List PropertyId}
    (reads : before.guards? range = some guards) : after.guards? range = some guards :=
  ListRange.read?_grow lists.guards reads

theorem typeSpecs? {range : TypeSpecRange} {typeSpecs : List (Option TypeSpecRecord)}
    (reads : before.typeSpecs? range = some typeSpecs) :
    after.typeSpecs? range = some typeSpecs :=
  ListRange.read?_grow lists.typeSpecs reads

end ListsGrow

namespace Keeps

theorem trans (front : before.Keeps mid first last) (back : mid.Keeps after first last) :
    before.Keeps after first last :=
  { lists := front.lists.trans back.lists
    nodes := fun position lower upper =>
      (back.nodes position lower upper).trans (front.nodes position lower upper) }

theorem narrow {lower upper : Nat} (keeps : before.Keeps after first last)
    (above : first ≤ lower) (below : upper ≤ last) : before.Keeps after lower upper :=
  { lists := keeps.lists
    nodes := fun position atLeast lessThan =>
      keeps.nodes position (Nat.le_trans above atLeast) (Nat.lt_of_lt_of_le lessThan below) }

theorem of_sameNodes (lists : before.ListsGrow after) (same : after.nodes = before.nodes) :
    before.Keeps after first last :=
  { lists, nodes := fun _ _ _ => by rw [same] }

end Keeps

/-! ### Single additions -/

/-- Something has been added to the lists beside the nodes, or nothing at all. -/
structure Adds (before after : Arena) : Prop where
  lists : before.ListsGrow after
  nodes : after.nodes = before.nodes

theorem Adds.refl (arena : Arena) : arena.Adds arena :=
  { lists := .refl arena, nodes := rfl }

theorem Adds.trans (front : before.Adds mid) (back : mid.Adds after) : before.Adds after :=
  { lists := front.lists.trans back.lists, nodes := back.nodes.trans front.nodes }

theorem Adds.size (adds : before.Adds after) : after.size = before.size :=
  congrArg Array.size adds.nodes

private theorem prefix_push {α : Type} (entries : Array α) (entry : α) :
    entries.toList <+: (entries.push entry).toList :=
  ⟨[entry], Array.toList_push.symm⟩

private theorem prefix_appendList {α : Type} (entries : Array α) (content : List α) :
    entries.toList <+: (entries.appendList content).toList :=
  ⟨content, (ListRange.toList_appendList entries content).symm⟩

variable {arena : Arena}

section Pushes

variable {body : BodyRecord} {bodyId : BodyId} {runtime : RuntimeRecord} {runtimeId : RuntimeId}
  {profile : ProfileRecord} {profileId : ProfileId} {slots : List Slot} {slotRange : SlotRange}
  {addresses : List Address} {addressRange : AddressRange} {guards : List PropertyId}
  {guardRange : GuardRange} {typeSpecs : List (Option TypeSpecRecord)}
  {typeSpecRange : TypeSpecRange}

theorem pushBody_eq_ok_iff :
    arena.pushBody body = .ok (bodyId, after) ↔
      bodyId.index = arena.bodies.size ∧
        after = { arena with bodies := arena.bodies.push body } :=
  bind_return_eq_ok.trans (and_congr_left' Id.behind_eq_ok_iff)

theorem pushRuntime_eq_ok_iff :
    arena.pushRuntime runtime = .ok (runtimeId, after) ↔
      runtimeId.index = arena.runtimes.size ∧
        after = { arena with runtimes := arena.runtimes.push runtime } :=
  bind_return_eq_ok.trans (and_congr_left' Id.behind_eq_ok_iff)

theorem pushProfile_eq_ok_iff :
    arena.pushProfile profile = .ok (profileId, after) ↔
      profileId.index = arena.profiles.size ∧
        after = { arena with profiles := arena.profiles.push profile } :=
  bind_return_eq_ok.trans (and_congr_left' Id.behind_eq_ok_iff)

theorem pushSlots_eq_ok_iff :
    arena.pushSlots slots = .ok (slotRange, after) ↔
      ListRange.behind arena.slots.size slots.length = .ok slotRange ∧
        after = { arena with slots := arena.slots.appendList slots } :=
  bind_return_eq_ok

theorem pushAddresses_eq_ok_iff :
    arena.pushAddresses addresses = .ok (addressRange, after) ↔
      ListRange.behind arena.addresses.size addresses.length = .ok addressRange ∧
        after = { arena with addresses := arena.addresses.appendList addresses } :=
  bind_return_eq_ok

theorem pushGuards_eq_ok_iff :
    arena.pushGuards guards = .ok (guardRange, after) ↔
      ListRange.behind arena.guards.size guards.length = .ok guardRange ∧
        after = { arena with guards := arena.guards.appendList guards } :=
  bind_return_eq_ok

theorem pushTypeSpecs_eq_ok_iff :
    arena.pushTypeSpecs typeSpecs = .ok (typeSpecRange, after) ↔
      ListRange.behind arena.typeSpecs.size typeSpecs.length = .ok typeSpecRange ∧
        after = { arena with typeSpecs := arena.typeSpecs.appendList typeSpecs } :=
  bind_return_eq_ok

theorem adds_pushBody (pushed : arena.pushBody body = .ok (bodyId, after)) :
    arena.Adds after := by
  obtain ⟨_, rfl⟩ := pushBody_eq_ok_iff.mp pushed
  exact { lists := { ListsGrow.refl arena with bodies := prefix_push _ _ }, nodes := rfl }

theorem adds_pushRuntime (pushed : arena.pushRuntime runtime = .ok (runtimeId, after)) :
    arena.Adds after := by
  obtain ⟨_, rfl⟩ := pushRuntime_eq_ok_iff.mp pushed
  exact { lists := { ListsGrow.refl arena with runtimes := prefix_push _ _ }, nodes := rfl }

theorem adds_pushProfile (pushed : arena.pushProfile profile = .ok (profileId, after)) :
    arena.Adds after := by
  obtain ⟨_, rfl⟩ := pushProfile_eq_ok_iff.mp pushed
  exact { lists := { ListsGrow.refl arena with profiles := prefix_push _ _ }, nodes := rfl }

theorem adds_pushSlots (pushed : arena.pushSlots slots = .ok (slotRange, after)) :
    arena.Adds after := by
  obtain ⟨_, rfl⟩ := pushSlots_eq_ok_iff.mp pushed
  exact { lists := { ListsGrow.refl arena with slots := prefix_appendList _ _ }, nodes := rfl }

theorem adds_pushAddresses
    (pushed : arena.pushAddresses addresses = .ok (addressRange, after)) : arena.Adds after := by
  obtain ⟨_, rfl⟩ := pushAddresses_eq_ok_iff.mp pushed
  exact
    { lists := { ListsGrow.refl arena with addresses := prefix_appendList _ _ }, nodes := rfl }

theorem adds_pushGuards (pushed : arena.pushGuards guards = .ok (guardRange, after)) :
    arena.Adds after := by
  obtain ⟨_, rfl⟩ := pushGuards_eq_ok_iff.mp pushed
  exact { lists := { ListsGrow.refl arena with guards := prefix_appendList _ _ }, nodes := rfl }

theorem adds_pushTypeSpecs
    (pushed : arena.pushTypeSpecs typeSpecs = .ok (typeSpecRange, after)) : arena.Adds after := by
  obtain ⟨_, rfl⟩ := pushTypeSpecs_eq_ok_iff.mp pushed
  exact
    { lists := { ListsGrow.refl arena with typeSpecs := prefix_appendList _ _ }, nodes := rfl }

end Pushes

/-- A record that has just been put behind the others is the one at its id. -/
theorem getElem?_push_index {α : Type} {kind : IdKind} {entries : Array α} {entry : α}
    {id : Id kind} (exactly : id.index = entries.size) :
    (entries.push entry)[id.index]? = some entry := by
  rw [exactly, Array.getElem?_push_size]

/-! ### Nodes -/

theorem allocNode_eq_ok_iff {id : NodeId} :
    arena.allocNode = .ok (id, after) ↔
      id.index = arena.size ∧ after = { arena with nodes := arena.nodes.push {} } :=
  bind_return_eq_ok.trans (and_congr_left' Id.behind_eq_ok_iff)

theorem allocNode_id {id : NodeId} (allocated : arena.allocNode = .ok (id, after)) :
    id = .ofIndex arena.size := by
  rw [← (allocNode_eq_ok_iff.mp allocated).1, Id.ofIndex_index]

theorem listsGrow_allocNode {id : NodeId} (allocated : arena.allocNode = .ok (id, after)) :
    arena.ListsGrow after ∧ after.size = arena.size + 1 := by
  obtain ⟨_, rfl⟩ := allocNode_eq_ok_iff.mp allocated
  exact ⟨{ ListsGrow.refl arena with }, Array.size_push _⟩

theorem setNode?_eq_some {id : NodeId} {record : NodeRecord}
    (replaced : before.setNode? id record = some after) :
    before.ListsGrow after ∧ after.size = before.size ∧
      ∀ position, after.nodes[position]? =
        if position = id.index then some record else before.nodes[position]? := by
  unfold setNode? at replaced
  split at replaced
  · rename_i within
    cases replaced
    refine ⟨{ ListsGrow.refl before with }, Array.size_set within, fun position => ?_⟩
    rw [Array.getElem?_set]
    by_cases same : position = id.index
    · rw [if_pos same, if_pos same.symm]
    · rw [if_neg same, if_neg (Ne.symm same)]
  · cases replaced

/-! ### Any changes -/

/-- What can be done to an arena. -/
inductive Change where
  | allocNode
  | setNode (id : NodeId) (record : NodeRecord)
  | pushBody (body : BodyRecord)
  | pushRuntime (runtime : RuntimeRecord)
  | pushProfile (profile : ProfileRecord)
  | pushSlots (slots : List Slot)
  | pushAddresses (addresses : List Address)
  | pushGuards (guards : List PropertyId)
  | pushTypeSpecs (typeSpecs : List (Option TypeSpecRecord))

/-- What is given out for something put into an arena, together with what it was. A node is new,
and has no record of its own yet. -/
inductive Receipt where
  | node (id : NodeId)
  | body (id : BodyId) (body : BodyRecord)
  | runtime (id : RuntimeId) (runtime : RuntimeRecord)
  | profile (id : ProfileId) (profile : ProfileRecord)
  | slots (range : SlotRange) (slots : List Slot)
  | addresses (range : AddressRange) (addresses : List Address)
  | guards (range : GuardRange) (guards : List PropertyId)
  | typeSpecs (range : TypeSpecRange) (typeSpecs : List (Option TypeSpecRecord))

/-- Why a change cannot be made: the node is not there to be replaced, or there is too much. -/
inductive ChangeFault where
  | missingNode (id : NodeId)
  | overflow (cause : Overflow)

/-- An addition, with a receipt for what it returns. -/
def withReceipt {α : Type} (receipt : α → Receipt) (pushed : Except Overflow (α × Arena)) :
    Except ChangeFault (Option Receipt × Arena) :=
  match pushed with
  | .error cause => .error (.overflow cause)
  | .ok (value, after) => .ok (some (receipt value), after)

/-- The arena that a change leaves, and what is given out for it. -/
def perform (arena : Arena) : Change → Except ChangeFault (Option Receipt × Arena)
  | .allocNode => withReceipt .node arena.allocNode
  | .setNode id record =>
      match arena.setNode? id record with
      | some after => .ok (none, after)
      | none => .error (.missingNode id)
  | .pushBody body => withReceipt (.body · body) (arena.pushBody body)
  | .pushRuntime runtime => withReceipt (.runtime · runtime) (arena.pushRuntime runtime)
  | .pushProfile profile => withReceipt (.profile · profile) (arena.pushProfile profile)
  | .pushSlots slots => withReceipt (.slots · slots) (arena.pushSlots slots)
  | .pushAddresses addresses =>
      withReceipt (.addresses · addresses) (arena.pushAddresses addresses)
  | .pushGuards guards => withReceipt (.guards · guards) (arena.pushGuards guards)
  | .pushTypeSpecs typeSpecs =>
      withReceipt (.typeSpecs · typeSpecs) (arena.pushTypeSpecs typeSpecs)

/-- Changes made one after another, and all that is given out for them, in order. -/
def performAll (arena : Arena) : List Change → Except ChangeFault (List Receipt × Arena)
  | [] => .ok ([], arena)
  | change :: rest => do
      let (given, next) ← arena.perform change
      let (later, after) ← next.performAll rest
      return (given.toList ++ later, after)

variable {change : Change} {given : Option Receipt}

theorem withReceipt_eq_ok_iff {α : Type} {receipt : α → Receipt}
    {pushed : Except Overflow (α × Arena)} :
    withReceipt receipt pushed = .ok (given, after) ↔
      ∃ value, pushed = .ok (value, after) ∧ given = some (receipt value) := by
  unfold withReceipt
  constructor
  · intro returned
    split at returned
    · cases returned
    · rename_i value last
      cases returned
      exact ⟨value, rfl, rfl⟩
  · rintro ⟨value, rfl, rfl⟩
    rfl

theorem withReceipt_ne_missing {α : Type} {receipt : α → Receipt}
    {pushed : Except Overflow (α × Arena)} {id : NodeId} :
    withReceipt receipt pushed ≠ .error (.missingNode id) := by
  cases pushed with
  | error cause => exact nofun
  | ok result => exact nofun

theorem perform_setNode_eq_ok_iff {id : NodeId} {record : NodeRecord} :
    arena.perform (.setNode id record) = .ok (given, after) ↔
      arena.setNode? id record = some after ∧ given = none := by
  rw [perform]
  cases arena.setNode? id record with
  | none => simp only [reduceCtorEq, false_and]
  | some last =>
      simp only [Except.ok.injEq, Prod.mk.injEq, Option.some.injEq]
      rw [and_comm, @eq_comm _ none]

theorem Adds.node? (adds : before.Adds after) (id : NodeId) :
    after.node? id = before.node? id := by
  rw [Arena.node?, Arena.node?, adds.nodes]

/-- A change adds to the lists beside the nodes, or it makes a node, or it replaces one. -/
theorem perform_cases (performed : before.perform change = .ok (given, after)) :
    before.Adds after ∨ (∃ id, change = .allocNode ∧ before.allocNode = .ok (id, after)) ∨
      ∃ id record, change = .setNode id record ∧ before.setNode? id record = some after := by
  cases change with
  | allocNode =>
      obtain ⟨id, allocated, _⟩ := withReceipt_eq_ok_iff.mp performed
      exact Or.inr (Or.inl ⟨id, rfl, allocated⟩)
  | setNode id record =>
      exact Or.inr (Or.inr ⟨id, record, rfl, (perform_setNode_eq_ok_iff.mp performed).1⟩)
  | pushBody body =>
      obtain ⟨_, pushed, _⟩ := withReceipt_eq_ok_iff.mp performed
      exact Or.inl (adds_pushBody pushed)
  | pushRuntime runtime =>
      obtain ⟨_, pushed, _⟩ := withReceipt_eq_ok_iff.mp performed
      exact Or.inl (adds_pushRuntime pushed)
  | pushProfile profile =>
      obtain ⟨_, pushed, _⟩ := withReceipt_eq_ok_iff.mp performed
      exact Or.inl (adds_pushProfile pushed)
  | pushSlots slots =>
      obtain ⟨_, pushed, _⟩ := withReceipt_eq_ok_iff.mp performed
      exact Or.inl (adds_pushSlots pushed)
  | pushAddresses addresses =>
      obtain ⟨_, pushed, _⟩ := withReceipt_eq_ok_iff.mp performed
      exact Or.inl (adds_pushAddresses pushed)
  | pushGuards guards =>
      obtain ⟨_, pushed, _⟩ := withReceipt_eq_ok_iff.mp performed
      exact Or.inl (adds_pushGuards pushed)
  | pushTypeSpecs typeSpecs =>
      obtain ⟨_, pushed, _⟩ := withReceipt_eq_ok_iff.mp performed
      exact Or.inl (adds_pushTypeSpecs pushed)

/-- A change keeps all lists, and every node but one that it replaces. -/
theorem perform_keeps (performed : before.perform change = .ok (given, after)) :
    before.ListsGrow after ∧ ∀ id record, (∀ other, change ≠ .setNode id other) →
      before.node? id = some record → after.node? id = some record := by
  obtain adds | ⟨_, _, allocated⟩ | ⟨target, replacement, rfl, replaced⟩ :=
    perform_cases performed
  · exact ⟨adds.lists, fun id _ _ found => (adds.node? id).trans found⟩
  · refine ⟨(listsGrow_allocNode allocated).1, fun id record _ found => ?_⟩
    obtain ⟨_, rfl⟩ := allocNode_eq_ok_iff.mp allocated
    have within := (Array.getElem?_eq_some_iff.mp found).1
    exact (Array.getElem?_push.trans (if_neg (Nat.ne_of_lt within))).trans found
  · obtain ⟨lists, _, nodes⟩ := setNode?_eq_some replaced
    refine ⟨lists, fun id record other found => ?_⟩
    have elsewhere : id.index ≠ target.index := by
      intro same
      rw [Id.index_inj.mp same] at other
      exact other replacement rfl
    exact ((nodes id.index).trans (if_neg elsewhere)).trans found

end JitSnapshot.Arena
