import JitSnapshot.Proofs.Build.Drains
import JitSnapshot.Proofs.Build.Independence

set_option autoImplicit false

/-!
Two builds of which one keeps guards, clones and some runtime records of its
own. As long as both go on to make the same, and neither adds guards or clones,
they make it under the same ids and ranges: the lists that differ are not those
in which it is put, and the runtime records differ only in what they say, not
in how many there are.
-/

namespace JitSnapshot

/-- The second state has its own guards and clones, its own count of guards, and its own runtime
records at some places. All else is as in the first, whoever has been asked. -/
structure Beside (own : Nat → Prop) (left right : BuildState) : Prop where
  nodes : right.arena.nodes = left.arena.nodes
  bodies : right.arena.bodies = left.arena.bodies
  profiles : right.arena.profiles = left.arena.profiles
  slots : right.arena.slots = left.arena.slots
  typeSpecs : right.arena.typeSpecs = left.arena.typeSpecs
  runtimeCount : right.arena.runtimes.size = left.arena.runtimes.size
  runtimes : ∀ place, ¬own place → right.arena.runtimes[place]? = left.arena.runtimes[place]?
  stats : right.stats = { left.stats with guards := right.stats.guards }
  materialized : right.materialized = left.materialized

namespace Beside

variable {own : Nat → Prop} {left right : BuildState}

theorem refl (own : Nat → Prop) (state : BuildState) : Beside own state state :=
  { nodes := rfl, bodies := rfl, profiles := rfl, slots := rfl, typeSpecs := rfl
    runtimeCount := rfl, runtimes := fun _ _ => rfl, stats := rfl, materialized := rfl }

theorem weaken {more : Nat → Prop} (beside : Beside own left right)
    (reaches : ∀ place, own place → more place) : Beside more left right :=
  { beside with runtimes := fun place apart => beside.runtimes place (mt (reaches place) apart) }

/-! ### What both make -/

section Both

variable {excused : BuildError → Prop}

/-- What goes on from one name that both are given, or ends for both. -/
theorem put {α : Type} {named : Except Overflow α} {leftCounted rightCounted : BuildState}
    {leftArena rightArena : Arena}
    (together : Beside own { leftCounted with arena := leftArena }
      { rightCounted with arena := rightArena }) :
    InStep excused (Together (Beside own) id)
      (leftCounted.put (named >>= fun value => pure (value, leftArena)))
      (rightCounted.put (named >>= fun value => pure (value, rightArena))) := by
  cases named with
  | error cause => exact .fails _
  | ok value => exact .returns ⟨rfl, together⟩

variable (beside : Beside own left right)
include beside

theorem unread (leftReads rightReads : List Read) :
    Beside own { left with reads := leftReads } { right with reads := rightReads } :=
  { beside with }

theorem allocNode :
    InStep excused (Together (Beside own) id) left.allocNode right.allocNode := by
  unfold BuildState.allocNode Arena.allocNode
  rw [beside.nodes]
  refine put { beside with nodes := rfl, stats := ?_ }
  dsimp only
  rw [beside.stats]

theorem pushBody (body : BodyRecord) :
    InStep excused (Together (Beside own) id) (left.pushBody body) (right.pushBody body) := by
  unfold BuildState.pushBody Arena.pushBody
  rw [beside.bodies]
  refine put { beside with bodies := rfl, stats := ?_ }
  dsimp only
  rw [beside.stats]

theorem pushProfile (body : BodyRecord) :
    InStep excused (Together (Beside own) id) (left.pushProfile body)
      (right.pushProfile body) := by
  unfold BuildState.pushProfile Arena.pushProfile
  rw [beside.profiles, beside.materialized]
  refine put { beside with profiles := rfl, materialized := rfl, stats := ?_ }
  dsimp only
  rw [beside.stats]

/-- Records that differ may be put at a place of the second's own. -/
theorem pushRuntime {leftRecord rightRecord : RuntimeRecord}
    (same : ¬own left.arena.runtimes.size → rightRecord = leftRecord) :
    InStep excused (Together (Beside own) id) (left.pushRuntime leftRecord)
      (right.pushRuntime rightRecord) := by
  unfold BuildState.pushRuntime Arena.pushRuntime
  rw [beside.runtimeCount]
  refine put { beside with runtimeCount := ?_, runtimes := ?_ }
  · simp only [Array.size_push, beside.runtimeCount]
  · intro place apart
    simp only [Array.getElem?_push, beside.runtimeCount]
    by_cases last : place = left.arena.runtimes.size
    · rw [if_pos last, if_pos last, same (last ▸ apart)]
    · rw [if_neg last, if_neg last, beside.runtimes place apart]

theorem pushSlots (slots : List Slot) :
    InStep excused (Together (Beside own) id) (left.pushSlots slots) (right.pushSlots slots) := by
  unfold BuildState.pushSlots Arena.pushSlots
  rw [beside.slots]
  exact put { beside with slots := rfl }

theorem pushTypeSpecs (sources : List (Option Address)) (count : Nat) :
    InStep excused (Together (Beside own) id) (left.pushTypeSpecs sources count)
      (right.pushTypeSpecs sources count) := by
  unfold BuildState.pushTypeSpecs Arena.pushTypeSpecs
  by_cases short : sources.length < count
  · rw [if_pos short, if_pos short]
    exact .fails _
  · rw [if_neg short, if_neg short, beside.typeSpecs, beside.materialized]
    refine put { beside with typeSpecs := rfl, materialized := rfl, stats := ?_ }
    dsimp only
    rw [beside.stats]

theorem setNode {leftAfter : BuildState} {id : NodeId} {record : NodeRecord}
    (stored : left.setNode id record = .ok leftAfter) :
    ∃ rightAfter, right.setNode id record = .ok rightAfter ∧ Beside own leftAfter rightAfter := by
  obtain ⟨within, rfl⟩ := exists_set_of_setNode stored
  have alsoWithin : id.index < right.arena.nodes.size := by rwa [beside.nodes]
  have replaced : right.arena.setNode? id record =
      some { right.arena with nodes := right.arena.nodes.set id.index record alsoWithin } :=
    dif_pos alsoWithin
  refine ⟨_, setNode_eq_ok_iff.mpr ⟨_, replaced, rfl⟩, ?_⟩
  exact { beside with nodes := by simp only [beside.nodes] }

/-! ### What only the second makes -/

end Both

end Beside

/-! ### What is built below -/

def Pairing.beside (excused : BuildError → Prop) (own : Nat → Prop) : Pairing where
  moves := .still
  excused := excused
  related := Beside own
  empty := Moves.still_keepsEmpty
  unread leftReads rightReads beside := beside.unread leftReads rightReads
  allocNode beside := beside.allocNode
  pushBody body beside := by
    rw [Moves.still_ofBody]
    exact beside.pushBody body
  pushRuntime runtime beside := beside.pushRuntime fun _ => rfl
  pushProfile body beside := beside.pushProfile body
  pushSlots slots beside := by
    rw [funext Moves.still_slot, List.map_id']
    exact beside.pushSlots slots
  pushTypeSpecs sources count beside := beside.pushTypeSpecs sources count
  setNode beside stored := by
    rw [Moves.still_ofNode]
    exact beside.setNode stored

theorem Pairing.builtTogether_refl (pairing : Pairing) (candidate : Option SourceFunction) :
    Option.Rel pairing.BuiltTogether candidate candidate := by
  cases candidate with
  | none => exact .none
  | some function => exact .some (pairing.builtTogether_of_agree (.refl function))

namespace Beside

variable {own : Nat → Prop} {left right : BuildState} {excused : BuildError → Prop}

theorem followed {α β γ : Type} {leftStep rightStep : Except BuildError (α × BuildState)}
    {later : β → γ → Prop} {onLeft : α × BuildState → Except BuildError β}
    {onRight : α × BuildState → Except BuildError γ}
    (together : InStep excused (Together (Beside own) id) leftStep rightStep)
    (onward : ∀ value leftState rightState, leftStep = .ok (value, leftState) →
      rightStep = .ok (value, rightState) → Beside own leftState rightState →
        InStep excused later (onLeft (value, leftState)) (onRight (value, rightState))) :
    InStep excused later (leftStep >>= onLeft) (rightStep >>= onRight) := by
  refine together.followed ?_
  rintro ⟨value, leftState⟩ ⟨other, rightState⟩ onLeft onRight ⟨same, beside⟩
  have : other = value := same
  subst this
  exact onward other leftState rightState onLeft onRight beside

variable (beside : Beside own left right)
include beside

theorem captureTypeSpecs (sources : Option (List (Option Address))) (caches : Nat) :
    InStep excused (Together (Beside own) id) (left.captureTypeSpecs sources caches)
      (right.captureTypeSpecs sources caches) :=
  (Pairing.beside excused own).captureTypeSpecs_moved sources caches beside

theorem captureGlobalTypeSpecs (sources : List (Option Address)) :
    InStep excused (Together (Beside own) id) (left.captureGlobalTypeSpecs sources)
      (right.captureGlobalTypeSpecs sources) :=
  (Pairing.beside excused own).captureGlobalTypeSpecs_moved sources beside

variable (leftKeeper rightKeeper : RuntimeKeeper)

theorem buildCandidate (step : Step) (candidate : Option SourceFunction) :
    InStep excused (Together (Beside own) id)
      (SourceFunction.buildCandidate leftKeeper step candidate left)
      (SourceFunction.buildCandidate rightKeeper step candidate right) := by
  refine InStep.weaken ((Pairing.beside excused own).buildCandidate_moved leftKeeper rightKeeper
    step (Pairing.builtTogether_refl _ candidate) beside) ?_
  intro first second moved
  exact ⟨moved.1.trans (Moves.still_slot first.1), moved.2⟩

theorem buildSlots (step : Nat → Step) (count : Nat) (candidates : List (Option SourceFunction)) :
    InStep excused (Together (Beside own) id)
      (SourceFunction.buildSlots leftKeeper step 0 count #[] candidates left)
      (SourceFunction.buildSlots rightKeeper step 0 count #[] candidates right) := by
  refine InStep.weaken ((Pairing.beside excused own).buildSlots_moved leftKeeper rightKeeper step
    0 count (fun _ _ => Pairing.builtTogether_refl _ _) Array.map_empty.symm beside) ?_
  intro first second moved
  exact ⟨moved.1.trans (Moves.still_slots first.1), moved.2⟩

end Beside

end JitSnapshot
