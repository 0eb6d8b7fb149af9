import JitSnapshot.Proofs.Build.Lockstep
import JitSnapshot.Proofs.Build.Sequence

set_option autoImplicit false

/-!
What a build looks at. Requests of which it sees the same make the same of one
state: the same error, or the same root, arena, statistics and record of what
was materialized. Only who is asked for runtime contexts may differ.
-/

namespace JitSnapshot

def Moves.still : Moves :=
  { node := id, body := id, runtime := id, profile := id
    slots := id, addresses := id, guards := id, typeSpecs := id }

namespace Moves

theorem still_keepsEmpty : still.KeepsEmpty :=
  { slots := rfl, addresses := rfl, guards := rfl, typeSpecs := rfl }

theorem still_slot (slot : Slot) : still.slot slot = slot :=
  Option.map_id_apply

theorem still_slots (slots : Array Slot) : slots.map still.slot = slots := by
  rw [funext still_slot, Array.map_id']

theorem still_ofNode (record : NodeRecord) : still.ofNode record = record := by
  simp [ofNode, slot, still]

theorem still_ofBody (record : BodyRecord) : still.ofBody record = record := by
  simp [ofBody, still]

end Moves

/-- The states differ at most in who has been asked for runtime contexts. -/
def SameButReads (left right : BuildState) : Prop :=
  ∃ reads, right = { left with reads }

namespace SameButReads

variable {left right : BuildState} (same : SameButReads left right)
include same

theorem put {α : Type} {excused : BuildError → Prop} (pushed : Except Overflow (α × Arena)) :
    InStep excused (Together SameButReads id) (left.put pushed) (right.put pushed) := by
  obtain ⟨reads, rfl⟩ := same
  cases pushed with
  | error cause => exact .fails _
  | ok result => exact .returns ⟨rfl, reads, rfl⟩

theorem pushTypeSpecs {excused : BuildError → Prop} (sources : List (Option Address))
    (count : Nat) :
    InStep excused (Together SameButReads id) (left.pushTypeSpecs sources count)
      (right.pushTypeSpecs sources count) := by
  obtain ⟨reads, rfl⟩ := same
  unfold BuildState.pushTypeSpecs
  split
  · exact .fails _
  · exact put ⟨reads, rfl⟩ _

theorem setNode {leftAfter : BuildState} {id : NodeId} {record : NodeRecord}
    (stored : left.setNode id record = .ok leftAfter) :
    ∃ rightAfter, right.setNode id record = .ok rightAfter ∧
      SameButReads leftAfter rightAfter := by
  obtain ⟨reads, rfl⟩ := same
  obtain ⟨arena, replaced, rfl⟩ := setNode_eq_ok_iff.mp stored
  exact ⟨_, setNode_eq_ok_iff.mpr ⟨arena, replaced, rfl⟩, reads, rfl⟩

end SameButReads

def RootPairing.sameButReads : RootPairing where
  moves := .still
  excused _ := False
  related := SameButReads
  empty := Moves.still_keepsEmpty
  unread := by
    rintro left _ leftReads rightReads ⟨reads, rfl⟩
    exact ⟨rightReads, rfl⟩
  allocNode := by
    rintro left _ ⟨reads, rfl⟩
    exact SameButReads.put ⟨reads, rfl⟩ _
  pushBody := by
    rintro left _ body ⟨reads, rfl⟩
    rw [Moves.still_ofBody]
    exact SameButReads.put ⟨reads, rfl⟩ _
  pushRuntime := by
    rintro left _ runtime ⟨reads, rfl⟩
    exact SameButReads.put ⟨reads, rfl⟩ _
  pushProfile := by
    rintro left _ body ⟨reads, rfl⟩
    exact SameButReads.put ⟨reads, rfl⟩ _
  pushSlots := by
    rintro left _ slots ⟨reads, rfl⟩
    rw [funext Moves.still_slot, List.map_id']
    exact SameButReads.put ⟨reads, rfl⟩ _
  pushAddresses := by
    rintro left _ addresses ⟨reads, rfl⟩
    exact SameButReads.put ⟨reads, rfl⟩ _
  pushGuards := by
    rintro left _ guards ⟨reads, rfl⟩
    exact SameButReads.put ⟨reads, rfl⟩ _
  pushTypeSpecs sources count same := same.pushTypeSpecs sources count
  setNode := by
    intro left right leftAfter id record same stored
    rw [Moves.still_ofNode]
    exact same.setNode stored

/-- Requests of which a build sees the same. What is given as a runtime context counts only
for an inlinee, and no more of it than the cloned caches. -/
structure BuildRequest.Agree (left right : BuildRequest) : Prop where
  isInlinee : left.isInlinee = right.isInlinee
  function : left.function.Agree right.function
  inlinees : left.isInlinee = true →
    left.function.AgreeAsInlinees right.function left.runtime right.runtime

/-- The root and all that a build leaves, but for the record of who has been asked. -/
def BuildState.outcome (state : BuildState) (request : BuildRequest) :
    Except BuildError (NodeId × Arena × BuildStats × Materialized) := do
  let (root, after) ← state.build request.function request.runtime request.isInlinee
  return (root, after.arena, after.stats, after.materialized)

/-- Nothing else can influence a build: requests that agree have the same outcome. -/
theorem BuildState.outcome_independent (state : BuildState) {left right : BuildRequest}
    (agree : left.Agree right) : state.outcome left = state.outcome right := by
  have inStep := RootPairing.sameButReads.build_moved left.isInlinee agree.function agree.inlinees
    ⟨state.reads, (rfl : state = { state with reads := state.reads })⟩
  unfold outcome
  rw [← agree.isInlinee]
  generalize state.build left.function left.runtime left.isInlinee = leftBuilt,
    state.build right.function right.runtime left.isInlinee = rightBuilt at inStep ⊢
  cases inStep with
  | fails fault => rfl
  | returns moved =>
      obtain ⟨sameRoot, reads, sameButReads⟩ := moved
      simp only [ok_bind, sameRoot, sameButReads]
      rfl
  | excuses never => exact never.elim

def plainRequest : BuildRequest :=
  { function :=
      { facts :=
          { body := some
              { record := { callSiteCount := 1 }
                hasProfile := true
                entryPoint := { guards := some { members := [⟨3⟩] } } } }
        inlinees := [some { facts := {} }] }
    runtime := some { clonedCaches := [⟨5⟩] }
    isInlinee := true }

/-- The same with a wrong count of guards, with runtime contexts that are of no use, with a
candidate at a call site that is not counted, and with a function behind one without a body. -/
def clutteredRequest : BuildRequest :=
  { function :=
      { facts :=
          { body := some
              { record := { callSiteCount := 1 }
                hasProfile := true
                entryPoint := { guards := some { members := [⟨3⟩], reported := some 9 } }
                inlineeRuntimes := [some {}]
                nextRuntime := some {} } }
        inlinees := [
          some { facts := { typeSpecs := some [] }, next := some { facts := {} } },
          some { facts := {} }] }
    runtime := some { clonedCaches := [⟨5⟩], inlinees := [some {}], next := some {} }
    isInlinee := true }

private theorem plainRequest_agree_cluttered : plainRequest.Agree clutteredRequest := by
  have callees : SourceFunction.Agree { facts := {} }
      { facts := { typeSpecs := some [] }, next := some { facts := {} } } := by
    refine SourceFunction.agree_iff.mpr ⟨?_, fun step => .none⟩
    exact
      { functionInfo := rfl, weakRef := rfl, inlineeBits := rfl, localFunction := rfl
        aggressiveInlining := rfl, inlined := rfl, body := .none
        typeSpecs := fun impossible => by cases impossible
        globalTypeSpecs := fun impossible => by cases impossible }
  refine { isInlinee := rfl, function := SourceFunction.agree_iff.mpr ⟨?_, ?_⟩, inlinees := ?_ }
  · exact
      { functionInfo := rfl, weakRef := rfl, inlineeBits := rfl, localFunction := rfl
        aggressiveInlining := rfl, inlined := rfl, body := .some ⟨rfl, rfl⟩
        typeSpecs := fun _ => rfl, globalTypeSpecs := fun _ => rfl }
  · intro step
    match step with
    | .inlinee 0 => exact .some callees
    | .inlinee (_ + 1) => exact .none
    | .fieldInlinee _ => exact .none
    | .next => exact .none
  · intro _
    refine { clonedCaches := rfl, entryPoint := fun leftBody rightBody isLeft isRight _ => ?_ }
    cases isLeft
    cases isRight
    exact { callCounter := rfl, guards := .some rfl }

theorem outcome_independent_cluttered :
    plainRequest.Agree clutteredRequest ∧
      (BuildState.start .empty).outcome plainRequest =
          (BuildState.start .empty).outcome clutteredRequest ∧
        ((BuildState.start .empty).outcome plainRequest).toOption.map (·.1) = some ⟨0⟩ :=
  ⟨plainRequest_agree_cluttered,
    BuildState.outcome_independent (.start .empty) plainRequest_agree_cluttered,
    by decide +kernel⟩

end JitSnapshot
