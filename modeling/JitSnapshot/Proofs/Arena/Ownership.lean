import JitSnapshot.Proofs.Arena.Growth
import Mathlib.Data.List.Nodup
import Mathlib.Data.List.Pairwise
import Mathlib.Data.List.Perm.Basic

set_option autoImplicit false

/-!
Who names what in an arena. A record names entries of the lists beside the
nodes in some of its fields, by an id or by a range. An arena that has grown is
settled when the new records name every new entry of each list exactly once,
and nothing else; while it grows, some entries are held back, to be named by a
record that is still to come.
-/

namespace JitSnapshot

/-- The lists beside the nodes. -/
inductive Part where
  | bodies
  | runtimes
  | profiles
  | slots
  | addresses
  | guards
  | typeSpecs
  deriving DecidableEq

/-- The fields by which a node names entries of these lists. -/
inductive NodeField where
  | body
  | runtime
  | sharedGuards
  | inlinees
  | fieldInlinees
  | typeSpecs
  | globalTypeSpecs
  deriving DecidableEq

/-- The fields of all records; a body names its profile, and runtime data its caches. -/
inductive Field where
  | node (field : NodeField)
  | profile
  | clonedCaches
  deriving DecidableEq

/-- The list of which a field names entries. -/
def Field.part : Field → Part
  | .node .body => .bodies
  | .node .runtime => .runtimes
  | .node .sharedGuards => .guards
  | .node .inlinees | .node .fieldInlinees => .slots
  | .node .typeSpecs | .node .globalTypeSpecs => .typeSpecs
  | .profile => .profiles
  | .clonedCaches => .addresses

def Part.fields : Part → List Field
  | .bodies => [.node .body]
  | .runtimes => [.node .runtime]
  | .profiles => [.profile]
  | .slots => [.node .inlinees, .node .fieldInlinees]
  | .addresses => [.clonedCaches]
  | .guards => [.node .sharedGuards]
  | .typeSpecs => [.node .typeSpecs, .node .globalTypeSpecs]

theorem Part.mem_fields {part : Part} {field : Field} :
    field ∈ part.fields ↔ field.part = part := by
  cases part <;> cases field with
    | node field => cases field <;> decide
    | profile => decide
    | clonedCaches => decide

/-! ### Names -/

def ListRange.positions {kind : ListKind} (range : ListRange kind) : List Nat :=
  List.range' range.start.toNat range.len.toNat

@[simp] theorem ListRange.positions_empty {kind : ListKind} :
    (empty : ListRange kind).positions = [] :=
  rfl

def optionalPosition {kind : IdKind} (id : Option (Id kind)) : List Nat :=
  id.toList.map Id.index

/-- The positions that a node names in a field. -/
def NodeRecord.names (record : NodeRecord) : NodeField → List Nat
  | .body => optionalPosition record.body
  | .runtime => optionalPosition record.runtime
  | .sharedGuards => record.sharedGuards.positions
  | .inlinees => record.inlinees.positions
  | .fieldInlinees => record.fieldInlinees.positions
  | .typeSpecs => record.typeSpecs.positions
  | .globalTypeSpecs => record.globalTypeSpecs.positions

namespace Arena

def partSize (arena : Arena) : Part → Nat
  | .bodies => arena.bodies.size
  | .runtimes => arena.runtimes.size
  | .profiles => arena.profiles.size
  | .slots => arena.slots.size
  | .addresses => arena.addresses.size
  | .guards => arena.guards.size
  | .typeSpecs => arena.typeSpecs.size

/-- How many records have a field. -/
def recordCount (arena : Arena) : Field → Nat
  | .node _ => arena.size
  | .profile => arena.bodies.size
  | .clonedCaches => arena.runtimes.size

/-- The positions that the record at a position names in a field. -/
def names (arena : Arena) (field : Field) (position : Nat) : List Nat :=
  match field with
  | .node field => arena.nodes[position]?.elim [] fun record => record.names field
  | .profile => arena.bodies[position]?.elim [] fun body => optionalPosition body.profile
  | .clonedCaches =>
      arena.runtimes[position]?.elim [] fun runtime => runtime.clonedCaches.positions

variable (before after : Arena)

/-- The positions in which a list has got new entries. -/
def newPositions (part : Part) : List Nat :=
  List.range' (before.partSize part) (after.partSize part - before.partSize part)

/-- All that the new records name in a field. -/
def newNames (field : Field) : List Nat :=
  (List.range' (before.recordCount field)
    (after.recordCount field - before.recordCount field)).flatMap (after.names field)

end Arena

namespace Arena

variable {before mid after : Arena}

theorem ListsGrow.partSize_le (lists : before.ListsGrow after) (part : Part) :
    before.partSize part ≤ after.partSize part := by
  cases part with
  | bodies => exact size_le_of_grown lists.bodies
  | runtimes => exact size_le_of_grown lists.runtimes
  | profiles => exact size_le_of_grown lists.profiles
  | slots => exact size_le_of_grown lists.slots
  | addresses => exact size_le_of_grown lists.addresses
  | guards => exact size_le_of_grown lists.guards
  | typeSpecs => exact size_le_of_grown lists.typeSpecs

theorem ListsGrow.recordCount_le (lists : before.ListsGrow after) (size : before.size ≤ after.size)
    (field : Field) : before.recordCount field ≤ after.recordCount field := by
  cases field with
  | node _ => exact size
  | profile => exact size_le_of_grown lists.bodies
  | clonedCaches => exact size_le_of_grown lists.runtimes

theorem range'_split {first middle last : Nat} (front : first ≤ middle) (back : middle ≤ last) :
    List.range' first (last - first) =
      List.range' first (middle - first) ++ List.range' middle (last - middle) := by
  obtain ⟨count, rfl⟩ := Nat.exists_eq_add_of_le front
  rw [Nat.add_sub_cancel_left, List.range'_append_1]
  congr 1
  omega

private theorem newPositions_append (front : before.ListsGrow mid) (back : mid.ListsGrow after)
    (part : Part) : before.newPositions after part =
      before.newPositions mid part ++ mid.newPositions after part :=
  range'_split (front.partSize_le part) (back.partSize_le part)

private theorem getElem?_eq_of_grown {α : Type} {entries more : Array α} {position : Nat}
    (grown : entries.toList <+: more.toList) (within : position < entries.size) :
    more[position]? = entries[position]? := by
  have found := Array.getElem?_eq_getElem within
  rw [found, getElem?_of_grown grown found]

/-- What a record names stays as long as the record does. -/
theorem Keeps.names (keeps : before.Keeps after 0 before.size) {field : Field} {position : Nat}
    (within : position < before.recordCount field) :
    after.names field position = before.names field position := by
  cases field with
  | node field => simp only [Arena.names, keeps.nodes position (Nat.zero_le _) within]
  | profile => simp only [Arena.names, getElem?_eq_of_grown keeps.lists.bodies within]
  | clonedCaches => simp only [Arena.names, getElem?_eq_of_grown keeps.lists.runtimes within]

theorem newNames_of_count {field : Field}
    (same : after.recordCount field = before.recordCount field) :
    before.newNames after field = [] := by
  rw [newNames, same, Nat.sub_self]
  rfl

theorem newPositions_of_size {part : Part} (same : after.partSize part = before.partSize part) :
    before.newPositions after part = [] := by
  rw [newPositions, same, Nat.sub_self]
  rfl

theorem newNames_of_succ {field : Field}
    (one : after.recordCount field = before.recordCount field + 1) :
    before.newNames after field = after.names field (before.recordCount field) := by
  rw [newNames, one, Nat.add_sub_cancel_left, List.range'_one, List.flatMap_singleton]

theorem newPositions_of_succ {part : Part}
    (one : after.partSize part = before.partSize part + 1) :
    before.newPositions after part = [before.partSize part] := by
  rw [newPositions, one, Nat.add_sub_cancel_left, List.range'_one]

private theorem newNames_append (front : before.ListsGrow mid) (frontSize : before.size ≤ mid.size)
    (keeps : mid.Keeps after 0 mid.size) (backSize : mid.size ≤ after.size) (field : Field) :
    before.newNames after field = before.newNames mid field ++ mid.newNames after field := by
  have lower := front.recordCount_le frontSize field
  rw [newNames, range'_split lower (keeps.lists.recordCount_le backSize field), List.flatMap_append]
  refine congrArg (· ++ mid.newNames after field) (List.flatMap_congr fun position member => ?_)
  have within := List.mem_range'_1.mp member
  exact keeps.names (by omega)

end Arena

/-! ### Accounts -/

/-- The arena has grown, and the entries that are new in each list are, each once, those that
new records name and those that are held back. -/
structure Accounted (before after : Arena) (held : Field → List Nat) : Prop where
  kept : before.Keeps after 0 before.size
  size : before.size ≤ after.size
  settled : ∀ part : Part,
    (part.fields.flatMap fun field => before.newNames after field ++ held field).Perm
      (before.newPositions after part)

/-- Nothing is held back. -/
abbrev Settled (before after : Arena) : Prop :=
  Accounted before after fun _ => []

/-- Positions that are held back for one field. -/
def holding (field : Field) (positions : List Nat) (other : Field) : List Nat :=
  if other = field then positions else []

private theorem flatMap_holding (field : Field) (positions : List Nat) (part : Part) :
    part.fields.flatMap (holding field positions) =
      if field.part = part then positions else [] := by
  cases part <;> cases field with
    | node field => cases field <;> simp [Part.fields, Field.part, holding]
    | profile => simp [Part.fields, Field.part, holding]
    | clonedCaches => simp [Part.fields, Field.part, holding]

namespace Accounted

variable {before mid after : Arena} {held later : Field → List Nat}

theorem congr (accounted : Accounted before after held) (same : ∀ field, held field = later field) :
    Accounted before after later :=
  funext same ▸ accounted

theorem lists (accounted : Accounted before after held) : before.ListsGrow after :=
  accounted.kept.lists

/-- What is new since then is named or held back besides; names may take the place of what
was held back. -/
theorem exchange {added : Field → List Nat} (accounted : Accounted before mid held)
    (lists : mid.ListsGrow after) (size : mid.size ≤ after.size)
    (kept : before.Keeps after 0 before.size)
    (fresh : ∀ part : Part, (part.fields.flatMap added).Perm (mid.newPositions after part))
    (balance : ∀ field, (before.newNames after field ++ later field).Perm
      ((before.newNames mid field ++ held field) ++ added field)) :
    Accounted before after later := by
  refine { kept, size := Nat.le_trans accounted.size size, settled := ?_ }
  intro part
  have moved := List.Perm.flatMap_left part.fields fun field _ => balance field
  have split := (List.flatMap_append_perm part.fields
    (fun field => before.newNames mid field ++ held field) added).symm
  rw [Arena.newPositions_append accounted.lists lists]
  exact moved.trans (split.trans ((accounted.settled part).append (fresh part)))

private theorem kept_trans (accounted : Accounted before mid held)
    (keeps : mid.Keeps after 0 mid.size) : before.Keeps after 0 before.size :=
  accounted.kept.trans (keeps.narrow (Nat.le_refl _) accounted.size)

theorem followed (first : Accounted before mid held) (second : Accounted mid after later) :
    Accounted before after fun field => held field ++ later field := by
  apply first.exchange second.lists second.size (first.kept_trans second.kept) second.settled
  intro field
  rw [Arena.newNames_append first.lists first.size second.kept second.size,
    List.append_assoc, List.append_assoc]
  exact (List.perm_append_comm_assoc _ _ _).append_left _

/-- What is added to one of the lists, and to no list of records with fields, is held back. -/
theorem of_adds {field : Field} {positions : List Nat} (adds : before.Adds after)
    (records : ∀ other, after.recordCount other = before.recordCount other)
    (others : ∀ part, part ≠ field.part → after.partSize part = before.partSize part)
    (added : positions = before.newPositions after field.part) :
    Accounted before after (holding field positions) := by
  refine
    { kept := .of_sameNodes adds.lists adds.nodes
      size := Nat.le_of_eq adds.size.symm
      settled := ?_ }
  intro part
  simp only [Arena.newNames_of_count (records _), List.nil_append]
  rw [flatMap_holding]
  by_cases same : field.part = part
  · rw [if_pos same, added, same]
  · rw [if_neg same, Arena.newPositions_of_size (others part (Ne.symm same))]

/-- A record that is pushed names what was held back for its field, and is held back itself. -/
theorem pushRecord {owner : Field} {field : NodeField} {position : Nat}
    (accounted : Accounted before mid held) (adds : mid.Adds after)
    (released : mid.newNames after owner = held owner)
    (records : ∀ other, other ≠ owner → after.recordCount other = mid.recordCount other)
    (differ : Field.node field ≠ owner)
    (one : after.partSize (Field.node field).part = mid.partSize (Field.node field).part + 1)
    (others : ∀ part, part ≠ (Field.node field).part → after.partSize part = mid.partSize part)
    (exactly : position = mid.partSize (Field.node field).part) :
    Accounted before after fun other =>
      if other = owner then [] else held other ++ holding (.node field) [position] other := by
  have keeps : mid.Keeps after 0 mid.size := .of_sameNodes adds.lists adds.nodes
  have size : mid.size ≤ after.size := Nat.le_of_eq adds.size.symm
  have isFresh (part : Part) :
      (part.fields.flatMap (holding (.node field) [position])).Perm
        (mid.newPositions after part) := by
    rw [flatMap_holding]
    by_cases same : (Field.node field).part = part
    · rw [if_pos same, exactly, ← same, Arena.newPositions_of_succ one]
    · rw [if_neg same, Arena.newPositions_of_size (others part (Ne.symm same))]
  apply accounted.exchange adds.lists size (accounted.kept_trans keeps) isFresh
  intro other
  rw [Arena.newNames_append accounted.lists accounted.size keeps size]
  by_cases same : other = owner
  · subst same
    rw [if_pos rfl, released, holding, if_neg (Ne.symm differ)]
  · rw [if_neg same, Arena.newNames_of_count (records other same), List.append_nil,
      List.append_assoc]

theorem refl (arena : Arena) : Settled arena arena := by
  have noPositions (part : Part) : arena.newPositions arena part = [] :=
    Arena.newPositions_of_size rfl
  have held : Accounted arena arena (holding .profile []) :=
    of_adds (.refl arena) (fun _ => rfl) (fun _ _ => rfl) (noPositions _).symm
  exact held.congr fun _ => ite_self _

end Accounted

/-! ### Owners -/

/-- A field of the record at a position of its list. -/
structure Owner where
  field : Field
  position : Nat
  deriving DecidableEq

namespace Owner

def names (arena : Arena) (owner : Owner) : List Nat :=
  arena.names owner.field owner.position

/-- The record has been added. -/
structure IsNew (before after : Arena) (owner : Owner) : Prop where
  lower : before.recordCount owner.field ≤ owner.position
  upper : owner.position < after.recordCount owner.field

end Owner

namespace Arena

variable (before after : Arena)

/-- The fields of new records that name entries of a list. -/
def newOwners (part : Part) : List Owner :=
  part.fields.flatMap fun field =>
    (List.range' (before.recordCount field)
      (after.recordCount field - before.recordCount field)).map (Owner.mk field)

variable {before after}

private theorem mem_newOwners {part : Part} {owner : Owner} :
    owner ∈ before.newOwners after part ↔
      owner.field.part = part ∧ owner.IsNew before after := by
  simp only [newOwners, List.mem_flatMap, List.mem_map, List.mem_range'_1, Part.mem_fields]
  constructor
  · rintro ⟨field, ofPart, position, ⟨lower, upper⟩, rfl⟩
    exact ⟨ofPart, lower, by simp only; omega⟩
  · intro ⟨ofPart, isNew⟩
    have upper := isNew.upper
    exact ⟨owner.field, ofPart, owner.position, ⟨isNew.lower, by omega⟩, rfl⟩

private theorem flatMap_newOwners (part : Part) :
    (before.newOwners after part).flatMap (Owner.names after) =
      part.fields.flatMap (before.newNames after) := by
  simp only [newOwners, List.flatMap_assoc, List.flatMap_map]
  rfl

private theorem mem_newPositions (lists : before.ListsGrow after) {part : Part} {position : Nat} :
    position ∈ before.newPositions after part ↔
      before.partSize part ≤ position ∧ position < after.partSize part := by
  have grown := lists.partSize_le part
  rw [newPositions, List.mem_range'_1]
  omega

end Arena

namespace Accounted

variable {before after : Arena} (settled : Settled before after)
include settled

private theorem names_perm (part : Part) :
    ((before.newOwners after part).flatMap (Owner.names after)).Perm
      (before.newPositions after part) := by
  have perm := settled.settled part
  simp only [List.append_nil] at perm
  rw [Arena.flatMap_newOwners]
  exact perm

/-- What a new record names is new. -/
theorem names_new {owner : Owner} {position : Nat} (isNew : owner.IsNew before after)
    (named : position ∈ owner.names after) :
    before.partSize owner.field.part ≤ position ∧
      position < after.partSize owner.field.part := by
  apply (Arena.mem_newPositions settled.lists).mp
  apply (settled.names_perm owner.field.part).mem_iff.mp
  exact List.mem_flatMap.mpr ⟨owner, Arena.mem_newOwners.mpr ⟨rfl, isNew⟩, named⟩

/-- What is new in a list is named by one new record, and in one of its fields. -/
theorem existsUnique_owner {part : Part} {position : Nat}
    (lower : before.partSize part ≤ position) (upper : position < after.partSize part) :
    ∃! owner : Owner, owner.field.part = part ∧ owner.IsNew before after ∧
      position ∈ owner.names after := by
  have perm := settled.names_perm part
  have member := perm.mem_iff.mpr ((Arena.mem_newPositions settled.lists).mpr ⟨lower, upper⟩)
  obtain ⟨owner, inOwners, named⟩ := List.mem_flatMap.mp member
  have nodup := perm.nodup_iff.mpr List.nodup_range'
  have disjoint := (List.nodup_flatMap.mp nodup).2
  have symm : Std.Symm (Function.onFun List.Disjoint (Owner.names after)) :=
    ⟨fun _ _ apart _ inLeft inRight => apart inRight inLeft⟩
  obtain ⟨ofPart, isNew⟩ := Arena.mem_newOwners.mp inOwners
  refine ⟨owner, ⟨ofPart, isNew, named⟩, ?_⟩
  intro other ⟨otherOfPart, otherIsNew, otherNamed⟩
  by_contra differ
  have inOthers := Arena.mem_newOwners.mpr ⟨otherOfPart, otherIsNew⟩
  exact disjoint.forall inOthers inOwners differ otherNamed named

end Accounted

end JitSnapshot
