import JitSnapshot.Proofs.Arena.Ownership

set_option autoImplicit false

/-!
What each addition to an arena holds back. What is pushed to a list is held
back for the record that is to name it. A record that is pushed takes what was
held back for its own field, and a node takes the rest when its record is
stored.
-/

namespace JitSnapshot

/-! ### Nodes -/

/-- What a node is to name, as long as it is not stored. -/
def NodeRecord.held (record : NodeRecord) : Field → List Nat
  | .node field => record.names field
  | .profile | .clonedCaches => []

private theorem names_default (field : NodeField) : ({} : NodeRecord).names field = [] := by
  cases field <;> rfl

namespace Arena

variable {before mid after : Arena}

variable {id : NodeId}

private theorem newNames_allocNode (allocated : before.allocNode = .ok (id, after))
    (field : Field) :
    before.newNames after field = [] := by
  obtain ⟨_, isAfter⟩ := allocNode_eq_ok_iff.mp allocated
  cases field with
  | node field =>
      have one : after.recordCount (.node field) = before.recordCount (.node field) + 1 :=
        (listsGrow_allocNode allocated).2
      have found : after.nodes[before.size]? = some {} := by
        rw [isAfter]
        exact Array.getElem?_push_size
      rw [newNames_of_succ one, names, recordCount, found]
      exact names_default field
  | _ =>
      subst isAfter
      exact newNames_of_count rfl

/-- A new node names nothing until its record is stored. -/
private theorem settled_allocNode (allocated : before.allocNode = .ok (id, after)) :
    Settled before after := by
  obtain ⟨lists, size⟩ := listsGrow_allocNode allocated
  refine { kept := { lists, nodes := ?_ }, size := by omega, settled := ?_ }
  · intro position _ within
    obtain ⟨_, rfl⟩ := allocNode_eq_ok_iff.mp allocated
    exact Array.getElem?_push.trans (if_neg (Nat.ne_of_lt within))
  · intro part
    have noPositions : before.newPositions after part = [] := by
      obtain ⟨_, rfl⟩ := allocNode_eq_ok_iff.mp allocated
      apply newPositions_of_size
      cases part <;> rfl
    have noNames : (part.fields.flatMap fun field => before.newNames after field ++ []) = [] := by
      apply List.flatMap_eq_nil_iff.mpr
      intro field _
      rw [newNames_allocNode allocated, List.append_nil]
    rw [noPositions, noNames]

theorem setNode?_sides {record : NodeRecord}
    (replaced : mid.setNode? id record = some after) :
    after.bodies = mid.bodies ∧ after.runtimes = mid.runtimes ∧
      ∀ part, after.partSize part = mid.partSize part := by
  unfold setNode? at replaced
  split at replaced
  · cases replaced
    refine ⟨rfl, rfl, fun part => ?_⟩
    cases part <;> rfl
  · cases replaced

/-- Once its record is stored, the node in front names what was held back for it. -/
private theorem newNames_setNode {record : NodeRecord} (exactly : id.index = before.size)
    (inside : before.size < mid.size) (unnamed : mid.nodes[before.size]? = some {})
    (replaced : mid.setNode? id record = some after) (field : Field) :
    before.newNames after field = record.held field ++ before.newNames mid field := by
  obtain ⟨_, size, nodes⟩ := setNode?_eq_some replaced
  obtain ⟨bodies, runtimes, _⟩ := setNode?_sides replaced
  cases field with
  | profile =>
      have same : after.names .profile = mid.names .profile := by
        funext position
        simp only [names, bodies]
      simp only [newNames, recordCount, bodies, same, NodeRecord.held, List.nil_append]
  | clonedCaches =>
      have same : after.names .clonedCaches = mid.names .clonedCaches := by
        funext position
        simp only [names, runtimes]
      simp only [newNames, recordCount, runtimes, same, NodeRecord.held, List.nil_append]
  | node field =>
      obtain ⟨count, more⟩ := Nat.exists_eq_add_of_lt inside
      have further : mid.size - before.size = count + 1 := by omega
      have atFront : after.names (.node field) before.size = record.names field := by
        rw [names, nodes, exactly, if_pos rfl]
        rfl
      have wasEmpty : mid.names (.node field) before.size = [] := by
        rw [names, unnamed]
        exact names_default field
      have behind : (List.range' (before.size + 1) count).flatMap (after.names (.node field)) =
          (List.range' (before.size + 1) count).flatMap (mid.names (.node field)) := by
        apply List.flatMap_congr
        intro position member
        have within := List.mem_range'_1.mp member
        rw [names, nodes, exactly, if_neg (by omega)]
        rfl
      simp only [newNames, recordCount, size, further, List.range'_succ, List.flatMap_cons,
        atFront, wasEmpty, behind, NodeRecord.held, List.nil_append]

end Arena

variable {before mid after : Arena}

theorem Accounted.forNode {held : Field → List Nat} {record : NodeRecord}
    (accounted : Accounted before after held)
    (named : ∀ field, held (.node field) = record.names field) (noProfile : held .profile = [])
    (noClones : held .clonedCaches = []) : Accounted before after record.held := by
  apply accounted.congr
  intro field
  cases field with
  | node field => exact named field
  | profile => exact noProfile
  | clonedCaches => exact noClones

/-- Storing the record for which everything has been held back settles the account. -/
theorem Accounted.setNode {start : Arena} {id : NodeId} {record : NodeRecord}
    (allocated : before.allocNode = .ok (id, start)) (accounted : Accounted start mid record.held)
    (replaced : mid.setNode? id record = some after) : Settled before after := by
  have exactly : id.index = before.size := (Arena.allocNode_eq_ok_iff.mp allocated).1
  have grown := (Arena.listsGrow_allocNode allocated).2
  have inside : before.size < mid.size := by
    have size := accounted.size
    omega
  obtain ⟨lists, size, nodes⟩ := Arena.setNode?_eq_some replaced
  have toMid := (Arena.settled_allocNode allocated).followed accounted
  have kept : before.Keeps after 0 before.size := by
    refine { lists := toMid.lists.trans lists, nodes := fun position lower within => ?_ }
    rw [nodes, exactly, if_neg (Nat.ne_of_lt within)]
    exact toMid.kept.nodes position lower within
  have nothingNew (part : Part) :
      (part.fields.flatMap fun _ => ([] : List Nat)).Perm (mid.newPositions after part) := by
    rw [Arena.newPositions_of_size ((Arena.setNode?_sides replaced).2.2 part)]
    exact List.Perm.of_eq (List.flatMap_eq_nil_iff.mpr fun _ _ => rfl)
  apply toMid.exchange lists (Nat.le_of_eq size.symm) kept nothingNew
  intro field
  have unnamed : mid.nodes[before.size]? = some {} := by
    rw [accounted.kept.nodes before.size (Nat.zero_le _) (by omega)]
    obtain ⟨_, rfl⟩ := Arena.allocNode_eq_ok_iff.mp allocated
    exact Array.getElem?_push_size
  rw [Arena.newNames_setNode exactly inside unnamed replaced, List.append_nil, List.append_nil]
  exact List.perm_append_comm

/-! ### Single additions -/

/-- A range given out for a list names the positions that are new. -/
theorem ListRange.positions_behind {kind : ListKind} {α : Type} {entries : Array α}
    {content : List α} {range : ListRange kind}
    (given : behind entries.size content.length = .ok range) :
    range.positions =
      List.range' entries.size ((entries.appendList content).size - entries.size) := by
  obtain ⟨startAt, lenIs⟩ := behind_eq_ok_iff.mp given
  rw [positions, startAt, lenIs, size_appendList, Nat.add_sub_cancel_left]
  split
  · rename_i nothing
    rw [nothing]
    rfl
  · rfl

namespace Arena

variable {arena : Arena}

theorem accounted_pushSlots {slots : List Slot} {range : SlotRange} {field : NodeField}
    (ofSlots : (Field.node field).part = .slots)
    (pushed : arena.pushSlots slots = .ok (range, after)) :
    Accounted arena after (holding (.node field) range.positions) := by
  have adds := adds_pushSlots pushed
  obtain ⟨given, rfl⟩ := pushSlots_eq_ok_iff.mp pushed
  apply Accounted.of_adds adds
  · intro other
    cases other <;> rfl
  · intro part differs
    rw [ofSlots] at differs
    cases part <;> first | rfl | exact absurd rfl differs
  · rw [ofSlots]
    exact ListRange.positions_behind given

theorem accounted_pushTypeSpecs {typeSpecs : List (Option TypeSpecRecord)} {range : TypeSpecRange}
    {field : NodeField} (ofTypeSpecs : (Field.node field).part = .typeSpecs)
    (pushed : arena.pushTypeSpecs typeSpecs = .ok (range, after)) :
    Accounted arena after (holding (.node field) range.positions) := by
  have adds := adds_pushTypeSpecs pushed
  obtain ⟨given, rfl⟩ := pushTypeSpecs_eq_ok_iff.mp pushed
  apply Accounted.of_adds adds
  · intro other
    cases other <;> rfl
  · intro part differs
    rw [ofTypeSpecs] at differs
    cases part <;> first | rfl | exact absurd rfl differs
  · rw [ofTypeSpecs]
    exact ListRange.positions_behind given

theorem accounted_pushGuards {guards : List PropertyId} {range : GuardRange}
    (pushed : arena.pushGuards guards = .ok (range, after)) :
    Accounted arena after (holding (.node .sharedGuards) range.positions) := by
  have adds := adds_pushGuards pushed
  obtain ⟨given, rfl⟩ := pushGuards_eq_ok_iff.mp pushed
  apply Accounted.of_adds adds
  · intro other
    cases other <;> rfl
  · intro part differs
    cases part <;> first | rfl | exact absurd rfl differs
  · exact ListRange.positions_behind given

theorem accounted_pushAddresses {addresses : List Address} {range : AddressRange}
    (pushed : arena.pushAddresses addresses = .ok (range, after)) :
    Accounted arena after (holding .clonedCaches range.positions) := by
  have adds := adds_pushAddresses pushed
  obtain ⟨given, rfl⟩ := pushAddresses_eq_ok_iff.mp pushed
  apply Accounted.of_adds adds
  · intro other
    cases other <;> rfl
  · intro part differs
    cases part <;> first | rfl | exact absurd rfl differs
  · exact ListRange.positions_behind given

theorem accounted_pushProfile {profile : ProfileRecord} {id : ProfileId}
    (pushed : arena.pushProfile profile = .ok (id, after)) :
    Accounted arena after (holding .profile [id.index]) := by
  have adds := adds_pushProfile pushed
  obtain ⟨exactly, isAfter⟩ := pushProfile_eq_ok_iff.mp pushed
  have one : after.partSize .profiles = arena.partSize .profiles + 1 := by
    rw [isAfter]
    exact Array.size_push _
  subst isAfter
  apply Accounted.of_adds adds
  · intro other
    cases other <;> rfl
  · intro part differs
    cases part <;> first | rfl | exact absurd rfl differs
  · rw [exactly]
    exact (newPositions_of_succ one).symm

end Arena

namespace Accounted

variable {held : Field → List Nat}

/-- A body that is pushed names the profile that was held back. -/
theorem pushBody {body : BodyRecord} {id : BodyId} (accounted : Accounted before mid held)
    (pushed : mid.pushBody body = .ok (id, after))
    (profile : held .profile = optionalPosition body.profile) :
    Accounted before after fun other =>
      if other = .profile then [] else held other ++ holding (.node .body) [id.index] other := by
  have adds := Arena.adds_pushBody pushed
  obtain ⟨exactly, isAfter⟩ := Arena.pushBody_eq_ok_iff.mp pushed
  have one : after.recordCount .profile = mid.recordCount .profile + 1 := by
    rw [isAfter]
    exact Array.size_push _
  have found : after.bodies[mid.bodies.size]? = some body := by
    rw [isAfter]
    exact Array.getElem?_push_size
  subst isAfter
  refine accounted.pushRecord adds ?_ ?_ Field.noConfusion one ?_ exactly
  · rw [profile, Arena.newNames_of_succ one, Arena.names, Arena.recordCount, found]
    rfl
  · intro other differs
    cases other <;> first | rfl | exact absurd rfl differs
  · intro part differs
    cases part <;> first | rfl | exact absurd rfl differs

/-- Runtime data that is pushed names the cloned caches that were held back. -/
theorem pushRuntime {runtime : RuntimeRecord} {id : RuntimeId}
    (accounted : Accounted before mid held) (pushed : mid.pushRuntime runtime = .ok (id, after))
    (clones : held .clonedCaches = runtime.clonedCaches.positions) :
    Accounted before after fun other =>
      if other = .clonedCaches then []
      else held other ++ holding (.node .runtime) [id.index] other := by
  have adds := Arena.adds_pushRuntime pushed
  obtain ⟨exactly, isAfter⟩ := Arena.pushRuntime_eq_ok_iff.mp pushed
  have one : after.recordCount .clonedCaches = mid.recordCount .clonedCaches + 1 := by
    rw [isAfter]
    exact Array.size_push _
  have found : after.runtimes[mid.runtimes.size]? = some runtime := by
    rw [isAfter]
    exact Array.getElem?_push_size
  subst isAfter
  refine accounted.pushRecord adds ?_ ?_ Field.noConfusion one ?_ exactly
  · rw [clones, Arena.newNames_of_succ one, Arena.names, Arena.recordCount, found]
    rfl
  · intro other differs
    cases other <;> first | rfl | exact absurd rfl differs
  · intro part differs
    cases part <;> first | rfl | exact absurd rfl differs

end Accounted

end JitSnapshot
