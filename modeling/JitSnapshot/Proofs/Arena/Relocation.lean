import JitSnapshot.Proofs.Arena.Growth

set_option autoImplicit false

/-!
One arena put behind another. The entries of the second keep their order; each
id and each range that is not empty is moved by as many entries as the first
arena has in the list it leads into. Adding something to the arena that is put
behind, or adding it moved to the whole, comes to the same, unless it is too
much for the whole.
-/

namespace JitSnapshot

/-- What each id and each range becomes when the records of a list move. -/
structure Moves where
  node : NodeId → NodeId
  body : BodyId → BodyId
  runtime : RuntimeId → RuntimeId
  profile : ProfileId → ProfileId
  slots : SlotRange → SlotRange
  addresses : AddressRange → AddressRange
  guards : GuardRange → GuardRange
  typeSpecs : TypeSpecRange → TypeSpecRange

/-- Ranges without entries lead nowhere, so they are not moved. -/
structure Moves.KeepsEmpty (moves : Moves) : Prop where
  slots : moves.slots .empty = .empty
  addresses : moves.addresses .empty = .empty
  guards : moves.guards .empty = .empty
  typeSpecs : moves.typeSpecs .empty = .empty

namespace Moves

variable (moves : Moves)

def slot (slot : Slot) : Slot :=
  slot.map moves.node

def ofNode (record : NodeRecord) : NodeRecord :=
  { record with
    body := record.body.map moves.body
    runtime := record.runtime.map moves.runtime
    sharedGuards := moves.guards record.sharedGuards
    inlinees := moves.slots record.inlinees
    fieldInlinees := moves.slots record.fieldInlinees
    typeSpecs := moves.typeSpecs record.typeSpecs
    globalTypeSpecs := moves.typeSpecs record.globalTypeSpecs
    next := moves.slot record.next }

def ofBody (record : BodyRecord) : BodyRecord :=
  { record with profile := record.profile.map moves.profile }

def ofRuntime (record : RuntimeRecord) : RuntimeRecord :=
  { record with clonedCaches := moves.addresses record.clonedCaches }

end Moves

/-! ### Distances -/

namespace Id

variable {kind : IdKind}

/-- The id of the same record when as many others are put in front of its list. -/
def shift (distance : Nat) (id : Id kind) : Id kind :=
  ofIndex (id.index + distance)

theorem index_shift {distance : Nat} {id : Id kind}
    (bounded : distance + id.index < UInt32.size) :
    (id.shift distance).index = distance + id.index := by
  rw [shift, Nat.add_comm, index_ofIndex bounded]

/-- A record gets the moved id where all before it are moved, unless that is too large. -/
theorem behind_shifted (counted : Counted) (distance count : Nat) :
    InStep (fun _ => True) (fun alone moved : Id kind => moved = alone.shift distance)
      (behind counted count) (behind counted (distance + count)) := by
  cases given : (behind counted (distance + count) : Except Overflow (Id kind)) with
  | error overflow => exact .excuses trivial
  | ok moved =>
      have exactly : moved.index = distance + count := behind_eq_ok_iff.mp given
      have fits : distance + count < UInt32.size := exactly ▸ moved.index_lt
      have atCount : (ofIndex count : Id kind).index = count := index_ofIndex (by omega)
      rw [behind_eq_ok_iff.mpr atCount]
      refine .returns (index_inj.mp ?_)
      rw [index_shift (by rw [atCount]; exact fits), exactly, atCount]

end Id

namespace ListRange

variable {kind : ListKind}

/-- The range of the same entries when as many others are put in front of the
list. The empty range starts at zero wherever it was pushed. -/
def shift (distance : Nat) (range : ListRange kind) : ListRange kind :=
  if range.isEmpty then empty else ⟨.ofNat (range.start.toNat + distance), range.len⟩

theorem shift_empty (distance : Nat) : (empty : ListRange kind).shift distance = empty :=
  rfl

/-- A list gets the moved range where all before it are moved, unless that is too large. -/
theorem behind_shifted (distance count length : Nat) :
    InStep (fun _ => True) (fun alone moved : ListRange kind => moved = alone.shift distance)
      (behind count length) (behind (distance + count) length) := by
  cases given : (behind (distance + count) length : Except Overflow (ListRange kind)) with
  | error overflow => exact .excuses trivial
  | ok moved =>
      obtain ⟨startAt, lenIs⟩ := behind_eq_ok_iff.mp given
      by_cases nothing : length = 0
      · subst nothing
        cases given
        exact .returns (shift_empty distance).symm
      · rw [if_neg nothing] at startAt
        have fits : distance + count < UInt32.size := startAt ▸ moved.start.toNat_lt_size
        have atCount : (UInt32.ofNat count).toNat = count :=
          UInt32.toNat_ofNat_of_lt' (by omega)
        have alone : (behind count length : Except Overflow (ListRange kind)) =
            .ok ⟨.ofNat count, moved.len⟩ :=
          behind_eq_ok_iff.mpr ⟨by rw [if_neg nothing, atCount], lenIs⟩
        have some : moved.len ≠ 0 := by
          intro zero
          rw [zero] at lenIs
          exact nothing lenIs.symm
        rw [alone]
        refine .returns ?_
        rw [shift, isEmpty, beq_false_of_ne some, if_neg Bool.false_ne_true, atCount,
          Nat.add_comm, ← startAt, UInt32.ofNat_toNat]

private theorem appendList_behind {α : Type} (front back : Array α) (content : List α) :
    (front ++ back).appendList content = front ++ back.appendList content := by
  apply Array.toList_inj.mp
  simp only [toList_appendList, Array.toList_append, List.append_assoc]

private theorem map_appendList {α β : Type} (move : α → β) (entries : Array α) (content : List α) :
    (entries.appendList content).map move =
      (entries.map move).appendList (content.map move) := by
  apply Array.toList_inj.mp
  simp only [toList_appendList, Array.toList_map, List.map_append]

end ListRange

/-- By the length of the list that each id and each range leads into. -/
def Moves.behind (base : Arena) : Moves :=
  { node := Id.shift base.nodes.size
    body := Id.shift base.bodies.size
    runtime := Id.shift base.runtimes.size
    profile := Id.shift base.profiles.size
    slots := ListRange.shift base.slots.size
    addresses := ListRange.shift base.addresses.size
    guards := ListRange.shift base.guards.size
    typeSpecs := ListRange.shift base.typeSpecs.size }

theorem Moves.behind_keepsEmpty (base : Arena) : (Moves.behind base).KeepsEmpty :=
  { slots := ListRange.shift_empty base.slots.size
    addresses := ListRange.shift_empty base.addresses.size
    guards := ListRange.shift_empty base.guards.size
    typeSpecs := ListRange.shift_empty base.typeSpecs.size }

namespace Arena

/-- Two arenas in one, the second moved behind the first. -/
def followedBy (base added : Arena) : Arena :=
  { nodes := base.nodes ++ added.nodes.map (Moves.behind base).ofNode
    bodies := base.bodies ++ added.bodies.map (Moves.behind base).ofBody
    runtimes := base.runtimes ++ added.runtimes.map (Moves.behind base).ofRuntime
    profiles := base.profiles ++ added.profiles
    slots := base.slots ++ added.slots.map (Moves.behind base).slot
    addresses := base.addresses ++ added.addresses
    guards := base.guards ++ added.guards
    typeSpecs := base.typeSpecs ++ added.typeSpecs }

/-- The second addition has put the same behind the base, and gives out what the first does,
moved. -/
def MovedBehind {α : Type} (base : Arena) (move : α → α) (alone whole : α × Arena) : Prop :=
  whole.1 = move alone.1 ∧ whole.2 = base.followedBy alone.2

variable (base added : Arena)

theorem size_followedBy : (base.followedBy added).size = base.size + added.size := by
  simp only [size, followedBy, Array.size_append, Array.size_map]

theorem allocNode_behind :
    InStep (fun _ => True) (MovedBehind base (Moves.behind base).node) added.allocNode
      (base.followedBy added).allocNode := by
  have fresh : (Moves.behind base).ofNode {} = {} := rfl
  have sizes : (base.followedBy added).nodes.size = base.nodes.size + added.nodes.size :=
    size_followedBy base added
  unfold allocNode
  rw [sizes]
  refine (Id.behind_shifted _ _ _).followed fun alone moved _ _ same => .returns ⟨same, ?_⟩
  simp only [followedBy, Array.map_push, fresh, Array.append_push]

theorem pushBody_behind (body : BodyRecord) :
    InStep (fun _ => True) (MovedBehind base (Moves.behind base).body) (added.pushBody body)
      ((base.followedBy added).pushBody ((Moves.behind base).ofBody body)) := by
  have sizes : (base.followedBy added).bodies.size = base.bodies.size + added.bodies.size := by
    simp only [followedBy, Array.size_append, Array.size_map]
  unfold pushBody
  rw [sizes]
  refine (Id.behind_shifted _ _ _).followed fun alone moved _ _ same => .returns ⟨same, ?_⟩
  simp only [followedBy, Array.map_push, Array.append_push]

theorem pushRuntime_behind (runtime : RuntimeRecord) :
    InStep (fun _ => True) (MovedBehind base (Moves.behind base).runtime)
      (added.pushRuntime runtime)
      ((base.followedBy added).pushRuntime ((Moves.behind base).ofRuntime runtime)) := by
  have sizes : (base.followedBy added).runtimes.size =
      base.runtimes.size + added.runtimes.size := by
    simp only [followedBy, Array.size_append, Array.size_map]
  unfold pushRuntime
  rw [sizes]
  refine (Id.behind_shifted _ _ _).followed fun alone moved _ _ same => .returns ⟨same, ?_⟩
  simp only [followedBy, Array.map_push, Array.append_push]

theorem pushProfile_behind (profile : ProfileRecord) :
    InStep (fun _ => True) (MovedBehind base (Moves.behind base).profile)
      (added.pushProfile profile) ((base.followedBy added).pushProfile profile) := by
  have sizes : (base.followedBy added).profiles.size =
      base.profiles.size + added.profiles.size := Array.size_append
  unfold pushProfile
  rw [sizes]
  refine (Id.behind_shifted _ _ _).followed fun alone moved _ _ same => .returns ⟨same, ?_⟩
  simp only [followedBy, Array.append_push]

theorem pushSlots_behind (slots : List Slot) :
    InStep (fun _ => True) (MovedBehind base (Moves.behind base).slots) (added.pushSlots slots)
      ((base.followedBy added).pushSlots (slots.map (Moves.behind base).slot)) := by
  have sizes : (base.followedBy added).slots.size = base.slots.size + added.slots.size := by
    simp only [followedBy, Array.size_append, Array.size_map]
  unfold pushSlots
  rw [sizes, List.length_map]
  refine (ListRange.behind_shifted _ _ _).followed fun alone moved _ _ same =>
    .returns ⟨same, ?_⟩
  simp only [followedBy, ListRange.map_appendList, ListRange.appendList_behind]

theorem pushAddresses_behind (addresses : List Address) :
    InStep (fun _ => True) (MovedBehind base (Moves.behind base).addresses)
      (added.pushAddresses addresses) ((base.followedBy added).pushAddresses addresses) := by
  have sizes : (base.followedBy added).addresses.size =
      base.addresses.size + added.addresses.size := Array.size_append
  unfold pushAddresses
  rw [sizes]
  refine (ListRange.behind_shifted _ _ _).followed fun alone moved _ _ same =>
    .returns ⟨same, ?_⟩
  simp only [followedBy, ListRange.appendList_behind]

theorem pushGuards_behind (guards : List PropertyId) :
    InStep (fun _ => True) (MovedBehind base (Moves.behind base).guards)
      (added.pushGuards guards) ((base.followedBy added).pushGuards guards) := by
  have sizes : (base.followedBy added).guards.size = base.guards.size + added.guards.size :=
    Array.size_append
  unfold pushGuards
  rw [sizes]
  refine (ListRange.behind_shifted _ _ _).followed fun alone moved _ _ same =>
    .returns ⟨same, ?_⟩
  simp only [followedBy, ListRange.appendList_behind]

theorem pushTypeSpecs_behind (typeSpecs : List (Option TypeSpecRecord)) :
    InStep (fun _ => True) (MovedBehind base (Moves.behind base).typeSpecs)
      (added.pushTypeSpecs typeSpecs) ((base.followedBy added).pushTypeSpecs typeSpecs) := by
  have sizes : (base.followedBy added).typeSpecs.size =
      base.typeSpecs.size + added.typeSpecs.size := Array.size_append
  unfold pushTypeSpecs
  rw [sizes]
  refine (ListRange.behind_shifted _ _ _).followed fun alone moved _ _ same =>
    .returns ⟨same, ?_⟩
  simp only [followedBy, ListRange.appendList_behind]

variable {base added} {after : Arena}

/-- What is stored for a node behind another arena replaces the record moved there. -/
theorem setNode?_behind {id : NodeId} {record : NodeRecord}
    (exactly : ((Moves.behind base).node id).index = base.size + id.index)
    (replaced : added.setNode? id record = some after) :
    (base.followedBy added).setNode? ((Moves.behind base).node id)
      ((Moves.behind base).ofNode record) = some (base.followedBy after) := by
  unfold setNode? at replaced
  split at replaced
  · rename_i within
    cases replaced
    have inside : ((Moves.behind base).node id).index < (base.followedBy added).nodes.size := by
      have sizes : (base.followedBy added).nodes.size = base.size + added.nodes.size :=
        size_followedBy base added
      omega
    rw [setNode?, dif_pos inside]
    simp only [followedBy, exactly, size]
    simp [Array.map_set]
  · cases replaced

end Arena

end JitSnapshot
