import JitSnapshot.Proofs.Shape.WellFormed

set_option autoImplicit false

/-!
What each shape error says of the record of its node, apart from the checks and
from their order: a named record that is not there, a range that ends behind
its list, a list that has not the length the body asks for, or data that may
not stand together. An error that the checks of a node report is one of these,
with the figures it carries.
-/

namespace JitSnapshot

/-- The flat list that a list of a node is cut from. -/
def NodeList.kind : NodeList → ListKind
  | .inlinees | .fieldInlinees => .slots
  | .sharedGuards => .guards
  | .typeSpecs | .globalTypeSpecs => .typeSpecs
  | .clonedCaches => .addresses

/-- A list that a node with a body may be without, whatever its length has to be otherwise. -/
def NodeList.isOptional : NodeList → Bool
  | .typeSpecs | .clonedCaches => true
  | .inlinees | .fieldInlinees | .sharedGuards | .globalTypeSpecs => false

/-- How long a list has to be for a body. Guards and global type specializations have no
length that is due. -/
def BodyRecord.lengthDue? (body : BodyRecord) : NodeList → Option UInt32
  | .inlinees => some body.callSiteCount.toUInt32
  | .fieldInlinees | .typeSpecs | .clonedCaches => some body.cacheCount
  | .sharedGuards | .globalTypeSpecs => none

def BodyData.IsIn (record : NodeRecord) : BodyData → Prop
  | .runtime => record.runtime ≠ none
  | .slots => record.inlinees.len ≠ 0 ∨ record.fieldInlinees.len ≠ 0
  | .sharedGuards => record.sharedGuards.len ≠ 0
  | .typeSpecs => record.typeSpecs.len ≠ 0 ∨ record.globalTypeSpecs.len ≠ 0
  | .next => record.next ≠ none

namespace Arena

def listSize (arena : Arena) : ListKind → Nat
  | .slots => arena.slots.size
  | .addresses => arena.addresses.size
  | .guards => arena.guards.size
  | .typeSpecs => arena.typeSpecs.size

def tableSize (arena : Arena) : RecordTable → Nat
  | .body => arena.bodies.size
  | .profile => arena.profiles.size
  | .runtime => arena.runtimes.size

def bodyOf? (arena : Arena) (record : NodeRecord) : Option BodyRecord :=
  record.body.bind arena.body?

/-- The number under which a node names a record of a table. It is the node's body that names
the profile. -/
def named? (arena : Arena) (record : NodeRecord) : RecordTable → Option UInt32
  | .body => record.body.map Id.raw
  | .profile => ((arena.bodyOf? record).bind BodyRecord.profile).map Id.raw
  | .runtime => record.runtime.map Id.raw

/-- The range of a list of a node. That of the cloned caches stands in the runtime record. -/
def rangeOf? (arena : Arena) (record : NodeRecord) :
    (list : NodeList) → Option (ListRange list.kind)
  | .inlinees => some record.inlinees
  | .fieldInlinees => some record.fieldInlinees
  | .sharedGuards => some record.sharedGuards
  | .typeSpecs => some record.typeSpecs
  | .globalTypeSpecs => some record.globalTypeSpecs
  | .clonedCaches => (record.runtime.bind arena.runtime?).map RuntimeRecord.clonedCaches

end Arena

namespace Shape

/-- The errors that are true of a record, with the figures that make them true. -/
inductive Violates (arena : Arena) (id : NodeId) (record : NodeRecord) : ShapeError → Prop where
  | danglingRecord {table : RecordTable} {index : UInt32} :
      arena.named? record table = some index → arena.tableSize table ≤ index.toNat →
        Violates arena id record (.danglingRecord id table index)
  | rangeOutOfBounds {list : NodeList} {range : ListRange list.kind} :
      arena.rangeOf? record list = some range → arena.listSize list.kind < range.stop →
        Violates arena id record
          (.rangeOutOfBounds id list range.start range.stop (arena.listSize list.kind))
  | countMismatch {list : NodeList} {range : ListRange list.kind} {body : BodyRecord}
      {expected : UInt32} :
      arena.bodyOf? record = some body → arena.rangeOf? record list = some range →
        body.lengthDue? list = some expected → range.len ≠ expected →
          (list.isOptional = true → range.len ≠ 0) →
            Violates arena id record (.countMismatch id list expected range.len)
  | missingRuntime {body : BodyRecord} :
      arena.bodyOf? record = some body → record.runtime = none →
        Violates arena id record (.missingRuntime id)
  | bodylessData {data : BodyData} :
      record.body = none → data.IsIn record → Violates arena id record (.bodylessData id data)
  | guardsWithoutProfile {body : BodyRecord} :
      arena.bodyOf? record = some body → body.profile = none → record.sharedGuards.len ≠ 0 →
        Violates arena id record (.guardsWithoutProfile id)

variable {arena : Arena} {id : NodeId} {record : NodeRecord} {body : BodyRecord}
  {error : ShapeError}

theorem isEmpty_eq_false_iff {kind : ListKind} (range : ListRange kind) :
    range.isEmpty = false ↔ range.len ≠ 0 := by
  rw [← Bool.not_eq_true, isEmpty_iff]

private theorem checkRange_violates (list : NodeList) {range : ListRange list.kind}
    (atList : arena.rangeOf? record list = some range)
    (refused : checkRange id list range (arena.listSize list.kind) = .error error) :
    Violates arena id record error := by
  unfold checkRange at refused
  split at refused
  · rename_i behind
    cases refused
    exact .rangeOutOfBounds atList behind
  · cases refused

private theorem checkCount_violates (list : NodeList) {range : ListRange list.kind}
    {expected : UInt32}
    (hasBody : arena.bodyOf? record = some body) (atList : arena.rangeOf? record list = some range)
    (due : body.lengthDue? list = some expected) (present : list.isOptional = true → range.len ≠ 0)
    (refused : checkCount id list expected range.len = .error error) :
    Violates arena id record error := by
  unfold checkCount at refused
  split at refused
  · cases refused
  · rename_i differs
    cases refused
    exact .countMismatch hasBody atList due (fun same => differs same.symm) present

private theorem checkOptionalCount_violates (list : NodeList) {range : ListRange list.kind}
    {expected : UInt32} (hasBody : arena.bodyOf? record = some body)
    (atList : arena.rangeOf? record list = some range)
    (due : body.lengthDue? list = some expected)
    (refused : checkOptionalCount id list expected range = .error error) :
    Violates arena id record error := by
  unfold checkOptionalCount at refused
  split at refused
  · cases refused
  · rename_i present
    exact checkCount_violates list hasBody atList due
      (fun _ => (isEmpty_eq_false_iff range).mp (Bool.eq_false_iff.mpr present)) refused

private theorem checkRanges_violates (refused : checkRanges arena id record = .error error) :
    Violates arena id record error := by
  unfold checkRanges at refused
  simp only [check_then_eq_error] at refused
  rcases refused with inlinees | ⟨_, fields | ⟨_, guards | ⟨_, specs | ⟨_, globals⟩⟩⟩⟩
  · exact checkRange_violates .inlinees rfl inlinees
  · exact checkRange_violates .fieldInlinees rfl fields
  · exact checkRange_violates .sharedGuards rfl guards
  · exact checkRange_violates .typeSpecs rfl specs
  · exact checkRange_violates .globalTypeSpecs rfl globals

private theorem bodyData?_isIn {data : BodyData} (found : bodyData? record = some data) :
    data.IsIn record := by
  have present {kind : ListKind} (range : ListRange kind) :
      (!range.isEmpty) = true ↔ range.len ≠ 0 := by
    rw [Bool.not_eq_true', isEmpty_eq_false_iff]
  unfold bodyData? at found
  simp only [Bool.or_eq_true, present] at found
  split_ifs at found with runtime slots guards specs next
  · cases found
    exact Option.isSome_iff_ne_none.mp runtime
  · cases found
    exact slots
  · cases found
    exact guards
  · cases found
    exact specs
  · cases found
    exact Option.isSome_iff_ne_none.mp next

private theorem checkBodyless_violates (bodyless : record.body = none)
    (refused : checkBodyless id record = .error error) : Violates arena id record error := by
  unfold checkBodyless at refused
  cases found : bodyData? record with
  | none =>
      rw [found] at refused
      cases refused
  | some data =>
      rw [found] at refused
      cases refused
      exact .bodylessData bodyless (bodyData?_isIn found)

private theorem checkProfile_violates (hasBody : arena.bodyOf? record = some body)
    (refused : checkProfile arena id record body = .error error) :
    Violates arena id record error := by
  unfold checkProfile at refused
  cases named : body.profile with
  | none =>
      simp only [named] at refused
      split at refused
      · cases refused
      · rename_i present
        cases refused
        exact .guardsWithoutProfile hasBody named
          ((isEmpty_eq_false_iff _).mp (Bool.eq_false_iff.mpr present))
  | some profile =>
      simp only [named] at refused
      split at refused
      · rename_i missing
        cases refused
        have atTable : arena.named? record .profile = some profile.raw := by
          simp only [Arena.named?, hasBody, Option.bind_some, named, Option.map_some]
        exact .danglingRecord atTable
          (Array.getElem?_eq_none_iff.mp (Option.isNone_iff_eq_none.mp missing))
      · cases refused

private theorem checkRuntime_violates (hasBody : arena.bodyOf? record = some body)
    (refused : checkRuntime arena id record body = .error error) :
    Violates arena id record error := by
  unfold checkRuntime at refused
  cases named : record.runtime with
  | none =>
      simp only [named] at refused
      cases refused
      exact .missingRuntime hasBody named
  | some runtimeId =>
      simp only [named] at refused
      cases found : arena.runtime? runtimeId with
      | none =>
          simp only [found] at refused
          cases refused
          have atTable : arena.named? record .runtime = some runtimeId.raw := by
            rw [Arena.named?, named, Option.map_some]
          exact .danglingRecord atTable (Array.getElem?_eq_none_iff.mp found)
      | some runtime =>
          have atList : arena.rangeOf? record .clonedCaches = some runtime.clonedCaches := by
            rw [Arena.rangeOf?, named, Option.bind_some, found]
            rfl
          simp only [found, check_then_eq_error] at refused
          rcases refused with behind | ⟨_, miscounted⟩
          · exact checkRange_violates .clonedCaches atList behind
          · exact checkOptionalCount_violates .clonedCaches hasBody atList rfl miscounted

private theorem checkBody_violates (hasBody : arena.bodyOf? record = some body)
    (refused : checkBody arena id record body = .error error) :
    Violates arena id record error := by
  unfold checkBody at refused
  simp only [check_then_eq_error] at refused
  rcases refused with profile | ⟨_, inlinees | ⟨_, fields | ⟨_, specs | ⟨_, runtime⟩⟩⟩⟩
  · exact checkProfile_violates hasBody profile
  · exact checkCount_violates .inlinees hasBody rfl rfl nofun inlinees
  · exact checkCount_violates .fieldInlinees hasBody rfl rfl nofun fields
  · exact checkOptionalCount_violates .typeSpecs hasBody rfl rfl specs
  · exact checkRuntime_violates hasBody runtime

/-- An error that the checks of a node report is true of the node's record. -/
theorem checkNode_violates (refused : checkNode arena id record = .error error) :
    Violates arena id record error := by
  unfold checkNode at refused
  rw [check_then_eq_error] at refused
  rcases refused with ranges | ⟨_, onward⟩
  · exact checkRanges_violates ranges
  · cases named : record.body with
    | none =>
        simp only [named] at onward
        exact checkBodyless_violates named onward
    | some bodyId =>
        simp only [named] at onward
        cases found : arena.body? bodyId with
        | none =>
            simp only [found] at onward
            cases onward
            have atTable : arena.named? record .body = some bodyId.raw := by
              rw [Arena.named?, named, Option.map_some]
            exact .danglingRecord atTable (Array.getElem?_eq_none_iff.mp found)
        | some body =>
            simp only [found] at onward
            have hasBody : arena.bodyOf? record = some body := by
              rw [Arena.bodyOf?, named, Option.bind_some, found]
            exact checkBody_violates hasBody onward

end Shape

end JitSnapshot
